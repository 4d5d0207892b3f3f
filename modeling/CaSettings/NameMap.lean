/-!
# Maps from names, in order

`NameMap α` binds names to values and remembers the order in which the names
came. A settings table, a section of a configuration file and the resolved
settings are such maps: what is shown, and in which order errors are
reported, follows the order of the names.

* **`insert`** rebinds a name where it stands, or adds it at the end;
* **`get?`** is the value of a name, **`names`** the names in order;
* **`merge`** inserts the bindings of a second map one after the other.

No name is bound twice; the map carries the proof (`nodup`).
-/

namespace CaSettings

/-- Bindings of names to values: no name twice, and the order kept. -/
structure NameMap (α : Type) where
  entries : List (String × α)
  nodup : (entries.map Prod.fst).Nodup := by simp

namespace NameMap

variable {α β : Type}

/-! ## Lists of bindings -/

/-- Rebind a name where it stands, or add it at the end. -/
def insertEntry (name : String) (value : α) : List (String × α) → List (String × α)
  | [] => [(name, value)]
  | entry :: rest =>
    if entry.1 = name then (name, value) :: rest
    else entry :: insertEntry name value rest

/-- The names after an insertion: the same ones, or one more at the end. -/
theorem names_insertEntry (name : String) (value : α) (entries : List (String × α)) :
    (insertEntry name value entries).map Prod.fst =
      if name ∈ entries.map Prod.fst then entries.map Prod.fst
      else entries.map Prod.fst ++ [name] := by
  induction entries with
  | nil => simp [insertEntry]
  | cons entry rest ih =>
    by_cases here : entry.1 = name
    · simp [insertEntry, here]
    · have there : ¬ name = entry.1 := fun h => here h.symm
      simp only [insertEntry, here, if_false, List.map_cons, ih, List.mem_cons, there, false_or]
      split <;> simp

/-- An insertion binds no name twice. -/
theorem nodup_insertEntry (name : String) (value : α) (entries : List (String × α))
    (h : (entries.map Prod.fst).Nodup) :
    ((insertEntry name value entries).map Prod.fst).Nodup := by
  rw [names_insertEntry]
  split
  · exact h
  · rename_i absent
    rw [List.nodup_append]
    refine ⟨h, by simp, ?_⟩
    intro a ha b hb
    rw [List.mem_singleton] at hb
    subst hb
    exact fun e => absent (e ▸ ha)

/-! ## Maps -/

/-- The map that binds nothing. -/
def empty : NameMap α := { entries := [] }

instance : Inhabited (NameMap α) := ⟨empty⟩

/-- The names, in order. -/
def names (m : NameMap α) : List String := m.entries.map Prod.fst

/-- The value of a name. -/
def get? (m : NameMap α) (name : String) : Option α := m.entries.lookup name

/-- Whether a name is bound. -/
def contains (m : NameMap α) (name : String) : Bool := (m.get? name).isSome

/-- Rebind a name where it stands, or add it at the end. -/
def insert (m : NameMap α) (name : String) (value : α) : NameMap α where
  entries := insertEntry name value m.entries
  nodup := nodup_insertEntry name value m.entries m.nodup

/-- Insert bindings one after the other. -/
def insertAll (m : NameMap α) (entries : List (String × α)) : NameMap α :=
  entries.foldl (fun m entry => m.insert entry.1 entry.2) m

/-- The map of a list of bindings, of which the last one for a name counts. -/
def ofList (entries : List (String × α)) : NameMap α := empty.insertAll entries

/-- Two maps in one; the second one's values win. -/
def merge (m other : NameMap α) : NameMap α := m.insertAll other.entries

/-- Change the values and keep the names. -/
def map (f : String → α → β) (m : NameMap α) : NameMap β where
  entries := m.entries.map fun entry => (entry.1, f entry.1 entry.2)
  nodup := by simpa [Function.comp_def] using m.nodup

/-- Bindings with the values that `f` gives for them, up to its first error. -/
def traverseEntries {ε : Type} (f : String → α → Except ε β) :
    (entries : List (String × α)) →
      Except ε { out : List (String × β) // out.map Prod.fst = entries.map Prod.fst }
  | [] => .ok ⟨[], rfl⟩
  | (name, value) :: rest =>
    match f name value with
    | .error e => .error e
    | .ok image =>
      match traverseEntries f rest with
      | .error e => .error e
      | .ok out => .ok ⟨(name, image) :: out.1, by simp [out.2]⟩

/-- Change the values by a function that may fail, in order. -/
def traverse {ε : Type} (f : String → α → Except ε β) (m : NameMap α) :
    Except ε (NameMap β) :=
  match traverseEntries f m.entries with
  | .error e => .error e
  | .ok out => .ok { entries := out.1, nodup := by rw [out.2]; exact m.nodup }

end NameMap

/-- Names in the order of their code points. -/
def sortNames (names : List String) : List String :=
  names.mergeSort fun a b => !decide (b < a)

end CaSettings
