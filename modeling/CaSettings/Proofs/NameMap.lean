import CaSettings.NameMap
import Mathlib.Data.List.Forall2
import Mathlib.Data.List.Nodup
import Mathlib.Data.String.Basic

/-!
# Laws of maps from names

What each operation of a `NameMap` does to the two views of a map: the value
of a name (`get?`) and the names in order (`names`).

* **Bindings** — a map binds `name` to `value` iff the pair is an entry
  (`get?_eq_some_iff`), because no name is bound twice;
* **Insertion** — `get?_insert`, `get?_insertAll`, `get?_merge`: the last
  binding of a name counts; `names_insert`, `names_merge`: new names come last;
* **Order** — two maps bind the same names to the same values iff their entries
  are the same in some order (`perm_entries_iff`);
* **Traversal** — `traverse_eq_ok_iff`: a traversal succeeds iff the function
  does at every entry, and then binds the same names to the images.

Sorting names puts them in the order of their code points, whatever order they
came in (`pairwise_sortNames`, `sortNames_eq_of_perm`).
-/

namespace CaSettings

namespace NameMap

variable {α β ε : Type}

/-! ## Lists of bindings -/

theorem lookup_cons_ite (first : String) (v : α) (rest : List (String × α)) (name : String) :
    ((first, v) :: rest).lookup name = if name = first then some v else rest.lookup name := by
  by_cases here : name = first
  · simp [here]
  · rw [List.lookup_cons, beq_false_of_ne here, if_neg here]

/-- Where no name is repeated, looking a name up finds its only binding. -/
theorem lookup_eq_some_iff_mem {entries : List (String × α)}
    (hnd : (entries.map Prod.fst).Nodup) {name : String} {value : α} :
    entries.lookup name = some value ↔ (name, value) ∈ entries := by
  induction entries with
  | nil => simp
  | cons entry rest ih =>
    obtain ⟨first, v⟩ := entry
    rw [List.map_cons, List.nodup_cons] at hnd
    obtain ⟨hfirst, hrest⟩ := hnd
    by_cases here : name = first
    · subst here
      have hout : (name, value) ∉ rest := fun hmem =>
        hfirst (List.mem_map.mpr ⟨_, hmem, rfl⟩)
      simp [hout, eq_comm]
    · rw [lookup_cons_ite, if_neg here, ih hrest, List.mem_cons]
      simp [here]

theorem lookup_eq_none_iff_notMem {entries : List (String × α)} {name : String} :
    entries.lookup name = none ↔ name ∉ entries.map Prod.fst := by
  rw [List.lookup_eq_none_iff, List.mem_map]
  constructor
  · rintro habs ⟨entry, hmem, rfl⟩
    simpa using habs entry hmem
  · intro habs entry hmem
    rw [bne_iff_ne]
    exact fun heq => habs ⟨entry, hmem, heq.symm⟩

/-- The order of the bindings does not matter where no name is repeated. -/
theorem lookup_reverse {entries : List (String × α)}
    (hnd : (entries.map Prod.fst).Nodup) (name : String) :
    entries.reverse.lookup name = entries.lookup name := by
  have hrev : (entries.reverse.map Prod.fst).Nodup := by
    rw [List.map_reverse]
    exact List.nodup_reverse.mpr hnd
  ext value
  rw [lookup_eq_some_iff_mem hrev, lookup_eq_some_iff_mem hnd, List.mem_reverse]

/-- Leaving out bindings of other names does not matter to a name that is kept. -/
theorem lookup_filter {keep : String → Bool} {name : String} (h : keep name = true)
    (entries : List (String × α)) :
    (entries.filter fun entry => keep entry.1).lookup name = entries.lookup name := by
  induction entries with
  | nil => rfl
  | cons entry rest ih =>
    obtain ⟨first, v⟩ := entry
    rw [lookup_cons_ite, List.filter_cons]
    by_cases here : name = first
    · subst here
      rw [if_pos h, lookup_cons_ite, if_pos rfl, if_pos rfl]
    · rw [if_neg here]
      split
      · rw [lookup_cons_ite, if_neg here, ih]
      · exact ih

theorem lookup_insertEntry (name : String) (value : α) (entries : List (String × α))
    (other : String) :
    (insertEntry name value entries).lookup other =
      if other = name then some value else entries.lookup other := by
  induction entries with
  | nil => exact lookup_cons_ite name value [] other
  | cons entry rest ih =>
    obtain ⟨first, v⟩ := entry
    by_cases here : first = name
    · subst here
      by_cases hother : other = first <;> simp [insertEntry, lookup_cons_ite, hother]
    · by_cases hother : other = first
      · subst hother
        simp [insertEntry, here]
      · simp [insertEntry, here, lookup_cons_ite, hother, ih]

/-- A name that is not bound is added at the end. -/
theorem insertEntry_of_notMem {name : String} {value : α}
    {entries : List (String × α)} (h : name ∉ entries.map Prod.fst) :
    insertEntry name value entries = entries ++ [(name, value)] := by
  induction entries with
  | nil => rfl
  | cons entry rest ih =>
    rw [List.map_cons, List.mem_cons, not_or] at h
    rw [insertEntry, if_neg (Ne.symm h.1), ih h.2, List.cons_append]

/-- The last name is rebound where it stands. -/
theorem insertEntry_concat {name : String} {value other : α}
    {front : List (String × α)} (h : name ∉ front.map Prod.fst) :
    insertEntry name value (front ++ [(name, other)]) = front ++ [(name, value)] := by
  induction front with
  | nil => exact if_pos rfl
  | cons entry rest ih =>
    rw [List.map_cons, List.mem_cons, not_or] at h
    rw [List.cons_append, insertEntry, if_neg (Ne.symm h.1), ih h.2, List.cons_append]

/-- A new name goes to the end, whether the other names come from one list or from two. -/
theorem append_filter_new (names other : List String) (name : String) :
    names ++ (if name ∈ other then other else other ++ [name]).filter (· ∉ names) =
      if name ∈ names ++ other.filter (· ∉ names) then names ++ other.filter (· ∉ names)
      else names ++ other.filter (· ∉ names) ++ [name] := by
  by_cases hmem : name ∈ names
  · rw [if_pos (List.mem_append_left _ hmem)]
    split
    · rfl
    · simp [hmem]
  · by_cases hother : name ∈ other
    · simp [hmem, hother]
    · simp [hmem, hother]

/-! ## Bindings -/

theorem get?_eq_some_iff {m : NameMap α} {name : String} {value : α} :
    m.get? name = some value ↔ (name, value) ∈ m.entries :=
  lookup_eq_some_iff_mem m.nodup

theorem get?_eq_none_iff {m : NameMap α} {name : String} :
    m.get? name = none ↔ name ∉ m.names :=
  lookup_eq_none_iff_notMem

theorem isSome_get?_iff {m : NameMap α} {name : String} :
    (m.get? name).isSome ↔ name ∈ m.names := by
  rw [Option.isSome_iff_ne_none, ne_eq, get?_eq_none_iff, not_not]

@[simp] theorem get?_empty (name : String) : (empty : NameMap α).get? name = none := rfl

/-- Two maps with the same entries are the same. -/
@[ext] theorem ext {m other : NameMap α} (h : m.entries = other.entries) : m = other := by
  cases m
  cases other
  simpa using h

/-! ## Order -/

/-- Two maps give every name the same value iff they differ in order at most. -/
theorem perm_entries_iff {m other : NameMap α} :
    m.entries.Perm other.entries ↔ ∀ name, m.get? name = other.get? name := by
  have hmem : (∀ entry, entry ∈ m.entries ↔ entry ∈ other.entries) ↔
      ∀ name, m.get? name = other.get? name := by
    constructor
    · intro h name
      ext value
      rw [get?_eq_some_iff, get?_eq_some_iff, h]
    · rintro h ⟨name, value⟩
      rw [← get?_eq_some_iff, ← get?_eq_some_iff, h]
  rw [List.perm_ext_iff_of_nodup (List.Nodup.of_map _ m.nodup) (List.Nodup.of_map _ other.nodup),
    hmem]

/-- Two maps with the same names in the same order and the same values are the same. -/
theorem eq_of_names_of_get? {m other : NameMap α} (hnames : m.names = other.names)
    (hget : ∀ name ∈ m.names, m.get? name = other.get? name) : m = other := by
  have hlength : m.entries.length = other.entries.length := by
    simpa [names] using congrArg List.length hnames
  refine ext (List.ext_getElem hlength fun i h h' => ?_)
  have hname : (m.entries[i]).1 = (other.entries[i]).1 := by
    simpa [names] using List.getElem_of_eq hnames (by simpa [names] using h)
  -- both entries are the one binding of their name
  have hhere : m.get? (m.entries[i]).1 = some (m.entries[i]).2 :=
    get?_eq_some_iff.mpr (List.getElem_mem h)
  have hthere : other.get? (other.entries[i]).1 = some (other.entries[i]).2 :=
    get?_eq_some_iff.mpr (List.getElem_mem h')
  have hvalue := hget (m.entries[i]).1 (List.mem_map_of_mem (List.getElem_mem h))
  rw [hhere, hname, hthere, Option.some.injEq] at hvalue
  exact Prod.ext hname hvalue

/-! ## Insertion -/

/-- The names after an insertion: the same ones, or one more at the end. -/
theorem names_insert (m : NameMap α) (name : String) (value : α) :
    (m.insert name value).names = if name ∈ m.names then m.names else m.names ++ [name] :=
  names_insertEntry name value m.entries

/-- Rebinding a name keeps the names and their order. -/
theorem names_insert_of_mem {m : NameMap α} {name : String} (h : name ∈ m.names) (value : α) :
    (m.insert name value).names = m.names := by
  rw [names_insert, if_pos h]

@[simp] theorem get?_insert (m : NameMap α) (name : String) (value : α) (other : String) :
    (m.insert name value).get? other = if other = name then some value else m.get? other :=
  lookup_insertEntry name value m.entries other

/-- Of several bindings of a name the last one counts. -/
theorem mem_names_insert {m : NameMap α} {name other : String} {value : α} :
    other ∈ (m.insert name value).names ↔ other ∈ m.names ∨ other = name := by
  rw [← isSome_get?_iff, ← isSome_get?_iff, get?_insert]
  by_cases h : other = name
  · simp [h]
  · simp [h]

/-- An insertion leaves the first name where it is. -/
theorem head?_names_insert {m : NameMap α} {first : String} (name : String) (value : α)
    (h : m.names.head? = some first) : (m.insert name value).names.head? = some first := by
  rw [names_insert]
  split
  · exact h
  · rw [List.head?_append, h]
    rfl

theorem get?_insertAll (m : NameMap α) (entries : List (String × α)) (name : String) :
    (m.insertAll entries).get? name = (entries.reverse.lookup name).or (m.get? name) := by
  induction entries generalizing m with
  | nil => rfl
  | cons entry rest ih =>
    have step : m.insertAll (entry :: rest) = (m.insert entry.1 entry.2).insertAll rest := rfl
    rw [step, ih, get?_insert, List.reverse_cons, List.lookup_append, Option.or_assoc]
    obtain ⟨first, v⟩ := entry
    rw [lookup_cons_ite]
    split
    · rfl
    · rfl

theorem get?_insertAll_of_nodup (m : NameMap α) {entries : List (String × α)}
    (hnd : (entries.map Prod.fst).Nodup) (name : String) :
    (m.insertAll entries).get? name = (entries.lookup name).or (m.get? name) := by
  rw [get?_insertAll, lookup_reverse hnd]

/-- Of a list of bindings the last one for a name counts. -/
theorem get?_ofList (entries : List (String × α)) (name : String) :
    (ofList entries).get? name = entries.reverse.lookup name := by
  unfold ofList
  rw [get?_insertAll, get?_empty, Option.or_none]

theorem insertAll_append (m : NameMap α) (entries rest : List (String × α)) :
    m.insertAll (entries ++ rest) = (m.insertAll entries).insertAll rest :=
  List.foldl_append ..

theorem get?_merge (m other : NameMap α) (name : String) :
    (m.merge other).get? name = (other.get? name).or (m.get? name) :=
  get?_insertAll_of_nodup m other.nodup name

/-- The names after insertions: the ones before, then the new ones in order. -/
theorem names_insertAll (m : NameMap α) {entries : List (String × α)}
    (hnd : (entries.map Prod.fst).Nodup) :
    (m.insertAll entries).names = m.names ++ (entries.map Prod.fst).filter (· ∉ m.names) := by
  induction entries generalizing m with
  | nil => exact (List.append_nil _).symm
  | cons entry rest ih =>
    rw [List.map_cons, List.nodup_cons] at hnd
    obtain ⟨hfirst, hrest⟩ := hnd
    show ((m.insert entry.1 entry.2).insertAll rest).names = _
    rw [ih _ hrest, List.map_cons, List.filter_cons]
    by_cases hmem : entry.1 ∈ m.names
    · rw [names_insert_of_mem hmem, if_neg (by simpa using hmem)]
    · have hsame : (rest.map Prod.fst).filter (· ∉ (m.insert entry.1 entry.2).names) =
          (rest.map Prod.fst).filter (· ∉ m.names) := by
        refine List.filter_congr fun name hname => ?_
        have hne : name ≠ entry.1 := fun heq => hfirst (heq ▸ hname)
        simp [mem_names_insert, hne]
      rw [hsame, names_insert, if_neg hmem, if_pos (by simpa using hmem), List.append_assoc,
        List.singleton_append]

theorem names_merge (m other : NameMap α) :
    (m.merge other).names = m.names ++ other.names.filter (· ∉ m.names) :=
  names_insertAll m other.nodup

theorem mem_names_merge {m other : NameMap α} {name : String} :
    name ∈ (m.merge other).names ↔ name ∈ m.names ∨ name ∈ other.names := by
  rw [names_merge, List.mem_append, List.mem_filter, decide_eq_true_eq]
  tauto

/-- Rebinding a name of the second map rebinds it in both. -/
theorem merge_insert (m other : NameMap α) (name : String) (value : α) :
    m.merge (other.insert name value) = (m.merge other).insert name value := by
  refine eq_of_names_of_get? ?_ fun key _ => ?_
  · rw [names_merge, names_insert, names_insert, names_merge]
    exact append_filter_new m.names other.names name
  · rw [get?_merge, get?_insert, get?_insert, get?_merge]
    split
    · rfl
    · rfl

/-! ## Mapping -/

@[simp] theorem get?_map (f : String → α → β) (m : NameMap α) (name : String) :
    (m.map f).get? name = (m.get? name).map (f name) := by
  show (m.entries.map fun entry => (entry.1, f entry.1 entry.2)).lookup name =
    (m.entries.lookup name).map (f name)
  induction m.entries with
  | nil => rfl
  | cons entry rest ih =>
    obtain ⟨first, v⟩ := entry
    rw [List.map_cons, lookup_cons_ite, lookup_cons_ite, ih]
    split
    · rename_i here
      rw [here]
      rfl
    · rfl

theorem names_map (f : String → α → β) (m : NameMap α) : (m.map f).names = m.names := by
  simp [map, names, Function.comp_def]

/-- Values given by the names alone depend on nothing but the names. -/
theorem map_eq_of_names {m other : NameMap α} (f : String → β) (h : m.names = other.names) :
    (m.map fun name _ => f name) = other.map fun name _ => f name := by
  refine ext ?_
  have hentries : ∀ m : NameMap α,
      (m.map fun name _ => f name).entries = m.names.map fun name => (name, f name) := by
    intro m
    simp [map, names, Function.comp_def]
  rw [hentries, hentries, h]

/-- A function that changes no value leaves a map as it is. -/
theorem map_eq_self {f : String → α → α} {m : NameMap α}
    (h : ∀ entry ∈ m.entries, f entry.1 entry.2 = entry.2) : m.map f = m := by
  refine ext ((List.map_congr_left fun entry hmem => ?_).trans (List.map_id m.entries))
  rw [h entry hmem]
  rfl

/-! ## Traversal -/

/-- `out` binds the names of `entries`, in order, to their images under `f`. -/
def Images (f : String → α → Except ε β) (entries : List (String × α))
    (out : List (String × β)) : Prop :=
  List.Forall₂ (fun entry image => image.1 = entry.1 ∧ f entry.1 entry.2 = .ok image.2) entries out

theorem traverseEntries_eq_ok_iff (f : String → α → Except ε β) (entries : List (String × α))
    (out : List (String × β)) :
    (∃ h, traverseEntries f entries = .ok ⟨out, h⟩) ↔ Images f entries out := by
  induction entries generalizing out with
  | nil =>
    simp only [traverseEntries, Images, List.forall₂_nil_left_iff]
    constructor
    · rintro ⟨_, heq⟩
      simpa using heq.symm
    · rintro rfl
      exact ⟨rfl, rfl⟩
  | cons entry rest ih =>
    obtain ⟨name, value⟩ := entry
    unfold Images at ih ⊢
    rw [List.forall₂_cons_left_iff]
    cases hf : f name value with
    | error e => simp [traverseEntries, hf]
    | ok image =>
      cases hrest : traverseEntries f rest with
      | error e => simp [traverseEntries, hf, hrest, ← ih]
      | ok images =>
        obtain ⟨images, himages⟩ := images
        simp only [hrest] at ih
        constructor
        · rintro ⟨hout, heq⟩
          simp only [traverseEntries, hf, hrest, Except.ok.injEq, Subtype.mk.injEq] at heq
          exact ⟨(name, image), images, ⟨rfl, rfl⟩, (ih images).mp ⟨himages, rfl⟩, heq.symm⟩
        · rintro ⟨⟨name', image'⟩, tail, ⟨hname, himage⟩, htail, rfl⟩
          obtain ⟨_, heq⟩ := (ih tail).mpr htail
          simp only [Except.ok.injEq, Subtype.mk.injEq] at heq himage
          simp only at hname
          subst hname himage heq
          exact ⟨by simp [himages], by simp [traverseEntries, hf, hrest]⟩

/-- A traversal succeeds iff the function does at every binding, with these images. -/
theorem traverse_eq_ok_iff {f : String → α → Except ε β} {m : NameMap α} {out : NameMap β} :
    m.traverse f = .ok out ↔ Images f m.entries out.entries := by
  rw [← traverseEntries_eq_ok_iff]
  unfold traverse
  cases htrav : traverseEntries f m.entries with
  | error e => simp
  | ok images =>
    obtain ⟨images, himages⟩ := images
    simp only [Except.ok.injEq, Subtype.mk.injEq]
    constructor
    · rintro rfl
      exact ⟨himages, rfl⟩
    · rintro ⟨_, heq⟩
      exact ext heq

theorem Images.names {f : String → α → Except ε β} {entries : List (String × α)}
    {out : List (String × β)} (h : Images f entries out) :
    out.map Prod.fst = entries.map Prod.fst := by
  induction h with
  | nil => rfl
  | cons hhead _ ih => simp [hhead.1, ih]

theorem Images.of_mem {f : String → α → Except ε β} {entries : List (String × α)}
    {out : List (String × β)} (h : Images f entries out) {name : String} {value : α}
    (hmem : (name, value) ∈ entries) :
    ∃ image, f name value = .ok image ∧ (name, image) ∈ out := by
  induction h with
  | nil => simp at hmem
  | @cons entry image rest images hhead _ ih =>
    rcases List.mem_cons.mp hmem with heq | hrest
    · subst heq
      have himage : image = (name, image.2) := Prod.ext hhead.1 rfl
      exact ⟨image.2, hhead.2, himage ▸ List.mem_cons_self⟩
    · obtain ⟨image', hf, hout⟩ := ih hrest
      exact ⟨image', hf, List.mem_cons_of_mem _ hout⟩

/-- Each image comes from a value of the same name. -/
theorem exists_of_get?_traverse {f : String → α → Except ε β} {m : NameMap α} {out : NameMap β}
    {name : String} {image : β} (h : m.traverse f = .ok out) (hget : out.get? name = some image) :
    ∃ value, m.get? name = some value ∧ f name value = .ok image := by
  have himages := traverse_eq_ok_iff.mp h
  have hname : name ∈ m.names := by
    have hout : name ∈ out.names := isSome_get?_iff.mp (by rw [hget]; rfl)
    rwa [names, himages.names] at hout
  obtain ⟨value, hvalue⟩ := Option.isSome_iff_exists.mp (isSome_get?_iff.mpr hname)
  obtain ⟨other, hother, hmem⟩ := himages.of_mem (get?_eq_some_iff.mp hvalue)
  rw [get?_eq_some_iff.mpr hmem, Option.some.injEq] at hget
  exact ⟨value, hvalue, hget ▸ hother⟩

/-- A value has its image under the same name. -/
theorem get?_traverse {f : String → α → Except ε β} {m : NameMap α} {out : NameMap β}
    {name : String} {value : α} {image : β} (h : m.traverse f = .ok out)
    (hget : m.get? name = some value) (himage : f name value = .ok image) :
    out.get? name = some image := by
  obtain ⟨other, hother, hmem⟩ := (traverse_eq_ok_iff.mp h).of_mem (get?_eq_some_iff.mp hget)
  rw [himage, Except.ok.injEq] at hother
  exact hother ▸ get?_eq_some_iff.mpr hmem

/-- A traversal stops with an error that the function gives at a binding. -/
theorem traverse_eq_error {f : String → α → Except ε β} {m : NameMap α} {e : ε}
    (h : m.traverse f = .error e) : ∃ entry ∈ m.entries, f entry.1 entry.2 = .error e := by
  have hentries : ∀ entries : List (String × α), traverseEntries f entries = .error e →
      ∃ entry ∈ entries, f entry.1 entry.2 = .error e := by
    intro entries hstop
    induction entries with
    | nil => cases hstop
    | cons entry rest ih =>
      obtain ⟨name, value⟩ := entry
      unfold traverseEntries at hstop
      cases hf : f name value with
      | error e' =>
        rw [hf] at hstop
        cases hstop
        exact ⟨(name, value), List.mem_cons_self, hf⟩
      | ok image =>
        rw [hf] at hstop
        cases hrest : traverseEntries f rest with
        | error e' =>
          rw [hrest] at hstop
          cases hstop
          obtain ⟨entry, hmem, herror⟩ := ih hrest
          exact ⟨entry, List.mem_cons_of_mem _ hmem, herror⟩
        | ok out =>
          rw [hrest] at hstop
          cases hstop
  unfold traverse at h
  cases htrav : traverseEntries f m.entries with
  | error e' =>
    rw [htrav] at h
    cases h
    exact hentries m.entries htrav
  | ok out =>
    rw [htrav] at h
    cases h

theorem traverse_isOk {f : String → α → Except ε β} {m : NameMap α}
    (h : ∀ entry ∈ m.entries, ∃ image, f entry.1 entry.2 = .ok image) :
    ∃ out, m.traverse f = .ok out := by
  cases htrav : m.traverse f with
  | ok out => exact ⟨out, rfl⟩
  | error e =>
    obtain ⟨entry, hmem, herror⟩ := traverse_eq_error htrav
    obtain ⟨image, hok⟩ := h entry hmem
    rw [hok] at herror
    cases herror

/-- A traversal looks at the bindings of the map only. -/
theorem traverse_congr {f g : String → α → Except ε β} {m : NameMap α}
    (h : ∀ entry ∈ m.entries, f entry.1 entry.2 = g entry.1 entry.2) :
    m.traverse f = m.traverse g := by
  have hentries : ∀ entries : List (String × α),
      (∀ entry ∈ entries, f entry.1 entry.2 = g entry.1 entry.2) →
        traverseEntries f entries = traverseEntries g entries := by
    intro entries hsame
    induction entries with
    | nil => rfl
    | cons entry rest ih =>
      obtain ⟨name, value⟩ := entry
      rw [List.forall_mem_cons] at hsame
      unfold traverseEntries
      rw [hsame.1, ih hsame.2]
  unfold traverse
  rw [hentries m.entries h]

end NameMap

/-! ## Sorted names -/

variable {names names' : List String} {name : String}

theorem mem_sortNames : name ∈ sortNames names ↔ name ∈ names :=
  (List.mergeSort_perm names _).mem_iff

theorem pairwise_le_sortNames (names : List String) : (sortNames names).Pairwise (· ≤ ·) := by
  have hpair : (sortNames names).Pairwise fun a b => (!decide (b < a)) = true := by
    apply List.pairwise_mergeSort
    · intro a b c
      simp only [Bool.not_eq_true', decide_eq_false_iff_not, not_lt]
      exact le_trans
    · intro a b
      simp only [Bool.or_eq_true, Bool.not_eq_true', decide_eq_false_iff_not, not_lt]
      exact le_total a b
  refine hpair.imp fun h => ?_
  simpa only [Bool.not_eq_true', decide_eq_false_iff_not, not_lt] using h

/-- Different names stand in the strict order of their code points. -/
theorem pairwise_sortNames (hnd : names.Nodup) : (sortNames names).Pairwise (· < ·) := by
  have hne : (sortNames names).Pairwise (· ≠ ·) :=
    (List.mergeSort_perm names _).nodup_iff.mpr hnd
  exact ((pairwise_le_sortNames names).and hne).imp fun h => lt_of_le_of_ne h.1 h.2

/-- The order in which names come does not matter to sorting them. -/
theorem sortNames_eq_of_perm (h : names.Perm names') : sortNames names = sortNames names' := by
  have hperm : (sortNames names).Perm (sortNames names') :=
    (List.mergeSort_perm names _).trans (h.trans (List.mergeSort_perm names' _).symm)
  exact hperm.eq_of_pairwise (fun a b _ _ => le_antisymm) (pairwise_le_sortNames names)
    (pairwise_le_sortNames names')

end CaSettings
