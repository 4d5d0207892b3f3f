import CaSettings.Failure

/-!
# Actions with a log

Resolving and loading leave records of what they did. `Traced α` is the
outcome of such an action: its records, in order, and its result. An action
that fails keeps the records it left before.

* **`Traced.note`** leaves one record;
* **`Traced.ofExcept`** is a result without records;
* `do` runs actions one after the other and stops at the first failure.
-/

namespace CaSettings

/-- How much a record matters. -/
inductive Level
  | debug
  | warning
deriving DecidableEq

/-- A record of the log. -/
structure LogRecord where
  level : Level
  message : String
deriving DecidableEq

/-- The records an action left, and its result. -/
structure Traced (α : Type) where
  log : List LogRecord
  result : Except Failure α

namespace Traced

variable {α β : Type}

/-- A result without records. -/
def ofExcept (result : Except Failure α) : Traced α := ⟨[], result⟩

/-- One action after the other. -/
def andThen (first : Traced α) (next : α → Traced β) : Traced β :=
  match first.result with
  | .error failure => ⟨first.log, .error failure⟩
  | .ok a => ⟨first.log ++ (next a).log, (next a).result⟩

instance : Monad Traced where
  pure a := ofExcept (.ok a)
  bind := andThen

/-- Leave one record. -/
def note (level : Level) (message : String) : Traced Unit := ⟨[⟨level, message⟩], .ok ()⟩

/-- Leave records of one level. -/
def noteAll (level : Level) (messages : List String) : Traced Unit :=
  ⟨messages.map (⟨level, ·⟩), .ok ()⟩

/-- Leave a record that lists names, unless there are none. -/
def noteNames (message : String) : List String → Traced Unit
  | [] => ofExcept (.ok ())
  | names => note .debug (message ++ ", ".intercalate names)

end Traced

end CaSettings
