import CaSettings.Interpolation
import CaSettings.Proofs.NameMap
import Mathlib.Data.List.Basic
import Mathlib.Logic.Relation
import Mathlib.Data.Fintype.Pigeonhole

/-!
# Which setting waits for which

The templates of a table as a graph: a setting waits for every other setting
with a text that its own text refers to (`Templates.waitsFor`).

* **`Templates.Endless`** — an infinite walk starts at the setting;
  `endless_of_closed` is its coinduction principle;
* **`Templates.LeadsToCircle`** — the setting lies on a circle or leads to
  one. A table is finite, so both say the same
  (`endless_iff_leadsToCircle`);
* **`Templates.ReachesCircle`** — the same again, said of plain references: a
  circle of two settings or more can be reached (`reachesCircle_iff`);
* **`Templates.induction_waitsFor`** — away from the circles, a property that
  passes from the settings waited for to the waiting one holds everywhere.
-/

namespace CaSettings

namespace Templates

variable {t : Templates} {n m text : String}

/-- The text of a setting that has one. -/
def textOf (t : Templates) (n : String) : Option String := (t.get? n).join

/-- The settings that have a text, in table order. -/
def texts (t : Templates) : List (String × String) :=
  t.entries.filterMap fun entry => entry.2.map (entry.1, ·)

/-- The settings that a setting waits for: those with a text that its own text
refers to, itself left aside. -/
def waitsFor (t : Templates) (n : String) : List String :=
  match t.textOf n with
  | none => []
  | some text => (references text).filter fun m => m != n && (t.textOf m).isSome

/-- An infinite walk along the settings waited for starts at `n`. -/
def Endless (t : Templates) (n : String) : Prop :=
  ∃ walk : Nat → String, walk 0 = n ∧ ∀ i, walk (i + 1) ∈ t.waitsFor (walk i)

/-- `n` lies on a circle of settings or leads to one. No setting waits for
itself, so a circle has two settings at least. -/
def LeadsToCircle (t : Templates) (n : String) : Prop :=
  ∃ m, Relation.ReflTransGen (fun a b => b ∈ t.waitsFor a) n m ∧
    Relation.TransGen (fun a b => b ∈ t.waitsFor a) m m

/-! ## Texts -/

theorem textOf_eq_some_iff : t.textOf n = some text ↔ t.get? n = some (some text) := by
  simp [textOf, Option.join_eq_some_iff]

theorem textOf_eq_none_iff : t.textOf n = none ↔ n ∉ t.names ∨ t.get? n = some none := by
  rw [← NameMap.get?_eq_none_iff, textOf]
  cases t.get? n with
  | none => simp
  | some value => cases value <;> simp

theorem mem_texts : (n, text) ∈ t.texts ↔ t.textOf n = some text := by
  rw [textOf_eq_some_iff, NameMap.get?_eq_some_iff, texts, List.mem_filterMap]
  constructor
  · rintro ⟨⟨name, value⟩, hmem, heq⟩
    obtain ⟨content, rfl, hpair⟩ := Option.map_eq_some_iff.mp heq
    obtain ⟨rfl, rfl⟩ := Prod.mk.inj hpair
    exact hmem
  · intro hmem
    exact ⟨(n, some text), hmem, rfl⟩

theorem nodup_texts (t : Templates) : (t.texts.map Prod.fst).Nodup := by
  have hsub : (t.texts.map Prod.fst).Sublist (t.entries.map Prod.fst) := by
    unfold texts
    induction t.entries with
    | nil => simp
    | cons entry rest ih =>
      obtain ⟨name, value⟩ := entry
      cases value with
      | none => simpa using ih.cons name
      | some content => simpa using ih.cons_cons name
  exact hsub.nodup t.nodup

/-! ## Waiting -/

theorem mem_waitsFor :
    m ∈ t.waitsFor n ↔
      ∃ text, t.textOf n = some text ∧ m ∈ references text ∧ m ≠ n ∧ (t.textOf m).isSome := by
  unfold waitsFor
  cases t.textOf n with
  | none => simp
  | some text => simp

theorem mem_waitsFor_of_textOf (h : t.textOf n = some text) :
    m ∈ t.waitsFor n ↔ m ∈ references text ∧ m ≠ n ∧ (t.textOf m).isSome := by
  rw [mem_waitsFor]
  constructor
  · rintro ⟨text', htext', hmem⟩
    rw [h, Option.some.injEq] at htext'
    rwa [htext']
  · intro hmem
    exact ⟨text, h, hmem⟩

theorem isSome_textOf_of_mem_waitsFor (h : m ∈ t.waitsFor n) : (t.textOf m).isSome := by
  obtain ⟨_, _, _, _, hm⟩ := mem_waitsFor.mp h
  exact hm

/-! ## Infinite walks -/

/-- A property that always holds of some setting waited for leads to an infinite walk. -/
theorem endless_of_closed {P : String → Prop} (hclosed : ∀ n, P n → ∃ m ∈ t.waitsFor n, P m)
    (h : P n) : t.Endless n := by
  choose next hnext hP using hclosed
  -- the walk follows `next`, which needs to know that the property still holds
  let steps : Nat → { n // P n } := fun i =>
    i.rec ⟨n, h⟩ fun _ here => ⟨next here.1 here.2, hP here.1 here.2⟩
  exact ⟨fun i => (steps i).1, rfl, fun i => hnext (steps i).1 (steps i).2⟩

theorem endless_iff_exists : t.Endless n ↔ ∃ m ∈ t.waitsFor n, t.Endless m := by
  constructor
  · rintro ⟨walk, rfl, hwalk⟩
    exact ⟨walk 1, hwalk 0, fun i => walk (i + 1), rfl, fun i => hwalk (i + 1)⟩
  · intro h
    refine endless_of_closed (P := fun n => ∃ m ∈ t.waitsFor n, t.Endless m) ?_ h
    rintro n ⟨m, hm, walk, rfl, hwalk⟩
    exact ⟨walk 0, hm, walk 1, hwalk 0, fun i => walk (i + 1), rfl, fun i => hwalk (i + 1)⟩

theorem not_endless_of_mem_waitsFor (h : ¬ t.Endless n) (hm : m ∈ t.waitsFor n) :
    ¬ t.Endless m :=
  fun hendless => h (endless_iff_exists.mpr ⟨m, hm, hendless⟩)

theorem isSome_textOf_of_endless (h : t.Endless n) : (t.textOf n).isSome := by
  obtain ⟨m, hm, _⟩ := endless_iff_exists.mp h
  obtain ⟨text, htext, _⟩ := mem_waitsFor.mp hm
  simp [htext]

theorem not_endless_of_textOf_eq_none (h : t.textOf n = none) : ¬ t.Endless n := fun hend => by
  simpa [h] using isSome_textOf_of_endless hend

/-- Away from the infinite walks, waiting is well-founded. -/
theorem wellFounded_waitsFor (t : Templates) :
    WellFounded fun m n => m ∈ t.waitsFor n ∧ ¬ t.Endless n := by
  refine ⟨fun n => ?_⟩
  by_contra hacc
  -- an inaccessible setting waits for an inaccessible one, again and again
  have hclosed : ∀ n, ¬ Acc (fun m n => m ∈ t.waitsFor n ∧ ¬ t.Endless n) n →
      ∃ m ∈ t.waitsFor n, ¬ Acc (fun m n => m ∈ t.waitsFor n ∧ ¬ t.Endless n) m := by
    intro n hn
    by_contra hall
    push Not at hall
    exact hn ⟨n, fun m hm => hall m hm.1⟩
  have hendless : t.Endless n := endless_of_closed hclosed hacc
  exact hacc ⟨n, fun m hm => absurd hendless hm.2⟩

/-- Induction over the settings waited for, away from the infinite walks. -/
theorem induction_waitsFor {P : String → Prop}
    (step : ∀ n, ¬ t.Endless n → (∀ m ∈ t.waitsFor n, P m) → P n) :
    ∀ n, ¬ t.Endless n → P n := by
  intro n
  induction n using t.wellFounded_waitsFor.induction with
  | _ n ih =>
    intro hn
    exact step n hn fun m hm => ih m ⟨hm, hn⟩ (not_endless_of_mem_waitsFor hn hm)

/-! ## Circles -/

theorem walk_reaches {walk : Nat → String}
    (hwalk : ∀ i, walk (i + 1) ∈ t.waitsFor (walk i)) (i d : Nat) :
    Relation.ReflTransGen (fun a b => b ∈ t.waitsFor a) (walk i) (walk (i + d)) := by
  induction d with
  | zero => exact .refl
  | succ d ih => exact ih.tail (hwalk (i + d))

/-- A table has finitely many settings, so an infinite walk comes back to one of them. -/
theorem leadsToCircle_of_endless (h : t.Endless n) : t.LeadsToCircle n := by
  obtain ⟨walk, rfl, hwalk⟩ := h
  have hmem : ∀ i, walk (i + 1) ∈ t.names := by
    intro i
    have hsome := isSome_textOf_of_mem_waitsFor (hwalk i)
    by_contra habs
    rw [textOf_eq_none_iff.mpr (.inl habs)] at hsome
    exact absurd hsome (by simp)
  -- two places of the walk hold one setting, and what lies between them is a circle
  obtain ⟨i, j, hne, heq⟩ := Finite.exists_ne_map_eq_of_infinite
    fun i : Nat => (⟨walk (i + 1), hmem i⟩ : { n // n ∈ t.names })
  rw [Subtype.mk.injEq] at heq
  wlog hlt : i < j generalizing i j
  · exact this j i hne.symm heq.symm (by omega)
  obtain ⟨d, rfl⟩ : ∃ d, j = i + d + 1 := ⟨j - i - 1, by omega⟩
  refine ⟨walk (i + 1), ?_, ?_⟩
  · simpa using walk_reaches hwalk 0 (i + 1)
  · refine .head' (hwalk (i + 1)) ?_
    have hback := walk_reaches hwalk (i + 1 + 1) d
    rwa [show i + 1 + 1 + d = i + d + 1 + 1 by omega, ← heq] at hback

/-- On the way to a circle and on it, there is always a next setting. -/
theorem endless_of_leadsToCircle (h : t.LeadsToCircle n) : t.Endless n := by
  refine endless_of_closed (P := t.LeadsToCircle) ?_ h
  rintro n ⟨m, hreach, hcircle⟩
  rcases Relation.ReflTransGen.cases_head hreach with rfl | ⟨next, hnext, hrest⟩
  · obtain ⟨next, hnext, hback⟩ := Relation.TransGen.head'_iff.mp hcircle
    exact ⟨next, hnext, n, hback, hcircle⟩
  · exact ⟨next, hnext, m, hrest, hcircle⟩

theorem endless_iff_leadsToCircle : t.Endless n ↔ t.LeadsToCircle n :=
  ⟨leadsToCircle_of_endless, endless_of_leadsToCircle⟩

/-! ## Circles of references -/

/-- The text of `n` refers to `m`, and both have a text. A setting may refer to itself. -/
def Refers (t : Templates) (n m : String) : Prop :=
  ∃ text, t.textOf n = some text ∧ m ∈ references text ∧ (t.textOf m).isSome

/-- Along references, `n` reaches a circle with two different settings on it. -/
def ReachesCircle (t : Templates) (n : String) : Prop :=
  ∃ a b, a ≠ b ∧ Relation.ReflTransGen t.Refers n a ∧
    Relation.ReflTransGen t.Refers a b ∧ Relation.ReflTransGen t.Refers b a

theorem mem_waitsFor_iff_refers : m ∈ t.waitsFor n ↔ t.Refers n m ∧ m ≠ n := by
  rw [mem_waitsFor, Refers]
  constructor
  · rintro ⟨text, htext, href, hne, hsome⟩
    exact ⟨⟨text, htext, href, hsome⟩, hne⟩
  · rintro ⟨⟨text, htext, href, hsome⟩, hne⟩
    exact ⟨text, htext, href, hne, hsome⟩

/-- References of settings to themselves lead nowhere new. -/
theorem reaches_iff_waits :
    Relation.ReflTransGen t.Refers n m ↔
      Relation.ReflTransGen (fun a b => b ∈ t.waitsFor a) n m := by
  constructor
  · intro h
    induction h with
    | refl => exact .refl
    | @tail b c _ hstep ih =>
      by_cases hself : c = b
      · rwa [hself]
      · exact ih.tail (mem_waitsFor_iff_refers.mpr ⟨hstep, hself⟩)
  · intro h
    exact Relation.ReflTransGen.mono (fun a b hmem => (mem_waitsFor_iff_refers.mp hmem).1) n m h

theorem reachesCircle_iff : t.ReachesCircle n ↔ t.LeadsToCircle n := by
  simp only [ReachesCircle, reaches_iff_waits]
  constructor
  · rintro ⟨a, b, hne, hreach, hthere, hback⟩
    rcases Relation.reflTransGen_iff_eq_or_transGen.mp hthere with heq | hcircle
    · exact absurd heq.symm hne
    · exact ⟨a, hreach, hcircle.trans_left hback⟩
  · rintro ⟨m, hreach, hcircle⟩
    -- the second setting of the circle is the one that `m` waits for
    obtain ⟨next, hnext, hback⟩ := Relation.TransGen.head'_iff.mp hcircle
    exact ⟨m, next, (mem_waitsFor_iff_refers.mp hnext).2.symm, hreach, .single hnext, hback⟩

end Templates

end CaSettings
