import CaSettings.Log

/-!
# Laws of actions with a log

The result and the log of actions in a row: the result is that of the last
action that ran, the log that of all of them in order.
-/

namespace CaSettings.Traced

variable {α β : Type}

@[simp] theorem result_bind (x : Traced α) (f : α → Traced β) :
    (x >>= f).result = x.result.bind fun a => (f a).result := by
  show (andThen x f).result = _
  unfold andThen
  cases x.result <;> rfl

theorem log_bind_of_ok {x : Traced α} {a : α} (h : x.result = .ok a) (f : α → Traced β) :
    (x >>= f).log = x.log ++ (f a).log := by
  show (andThen x f).log = _
  unfold andThen
  rw [h]

theorem log_bind_of_error {x : Traced α} {failure : Failure} (h : x.result = .error failure)
    (f : α → Traced β) : (x >>= f).log = x.log := by
  show (andThen x f).log = _
  unfold andThen
  rw [h]

@[simp] theorem result_pure (a : α) : (pure a : Traced α).result = .ok a := rfl

@[simp] theorem result_ofExcept (result : Except Failure α) : (ofExcept result).result = result :=
  rfl

@[simp] theorem result_note (level : Level) (message : String) :
    (note level message).result = .ok () := rfl

@[simp] theorem result_noteAll (level : Level) (messages : List String) :
    (noteAll level messages).result = .ok () := rfl

@[simp] theorem result_noteNames (message : String) (names : List String) :
    (noteNames message names).result = .ok () := by
  cases names <;> rfl

@[simp] theorem log_ofExcept (result : Except Failure α) : (ofExcept result).log = [] := rfl

@[simp] theorem log_pure (a : α) : (pure a : Traced α).log = [] := rfl

/-- Names leave one record, and no names leave none. -/
theorem log_noteNames (message : String) (names : List String) :
    (noteNames message names).log =
      if names = [] then [] else [⟨.debug, message ++ ", ".intercalate names⟩] := by
  cases names with
  | nil => rfl
  | cons name rest =>
    rw [if_neg (List.cons_ne_nil name rest)]
    rfl

end CaSettings.Traced
