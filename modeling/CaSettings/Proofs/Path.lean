import CaSettings.Path
import CaSettings.Proofs.Text.Fields

/-!
# Paths in normal form

What reading makes of a text is a path in normal form (`normal_parse`), and such a path
is read back from its text (`Normal.parse_render`): to bring a path into normal form
twice changes nothing.
-/

namespace CaSettings.Path

open Text

/-- A component of a path in normal form. -/
def PlainComponent (part : String) : Prop := part ≠ "" ∧ part ≠ "." ∧ '/' ∉ part.toList

/-- No component is empty, a single dot, or more than one component. -/
def Normal (p : Path) : Prop := ∀ part ∈ p.components, PlainComponent part

/-- The components in the text of a path. -/
def componentsOf (cs : List Char) : List String :=
  ((fields '/' cs).map String.ofList).filter fun part => part != "" && part != "."

variable {p : Path} {cs : List Char} {parts : List String} {part : String} {text : String}

theorem parse_eq (text : String) :
    parse text = ⟨.ofText text.toList, componentsOf text.toList⟩ := rfl

theorem normal_parse (text : String) : (parse text).Normal := by
  intro part hpart
  obtain ⟨hmem, hkept⟩ := List.mem_filter.mp hpart
  obtain ⟨field, hfield, rfl⟩ := List.mem_map.mp hmem
  rw [Bool.and_eq_true, bne_iff_ne, bne_iff_ne] at hkept
  refine ⟨hkept.1, hkept.2, ?_⟩
  rw [String.toList_ofList]
  exact notMem_of_mem_fields hfield

/-! ## Reading the text of a path -/

/-- A slash at the front makes no component. -/
theorem componentsOf_slash (cs : List Char) : componentsOf ('/' :: cs) = componentsOf cs := by
  unfold componentsOf
  rw [fields_cons_self]
  rfl

theorem componentsOf_anchor (anchor : Anchor) (cs : List Char) :
    componentsOf (anchor.text.toList ++ cs) = componentsOf cs := by
  cases anchor with
  | relative => rfl
  | root => exact componentsOf_slash cs
  | doubleRoot => exact (componentsOf_slash ('/' :: cs)).trans (componentsOf_slash cs)

/-- Plain components are read back from the text that joins them. -/
theorem componentsOf_intercalate (h : ∀ part ∈ parts, PlainComponent part) :
    componentsOf ("/".intercalate parts).toList = parts := by
  cases parts with
  | nil => rfl
  | cons first rest =>
    have hfields : fields '/' ("/".intercalate (first :: rest)).toList =
        (first :: rest).map String.toList := by
      refine fields_eq_iff.mpr ⟨List.cons_ne_nil _ _, fun field hfield => ?_, ?_⟩
      · obtain ⟨part, hpart, rfl⟩ := List.mem_map.mp hfield
        exact (h part hpart).2.2
      · rw [String.toList_intercalate]
        rfl
    have hround : String.ofList ∘ String.toList = id := funext fun _ => String.ofList_toList
    unfold componentsOf
    rw [hfields, List.map_map, hround, List.map_id, List.filter_eq_self]
    intro part hpart
    rw [Bool.and_eq_true, bne_iff_ne, bne_iff_ne]
    exact ⟨(h part hpart).1, (h part hpart).2.1⟩

/-- Behind an anchor, text that no slash starts leaves the anchor as it is. -/
theorem ofText_append (anchor : Anchor) (h : ∀ c ∈ cs.head?, c ≠ '/') :
    Anchor.ofText (anchor.text.toList ++ cs) = anchor := by
  cases cs with
  | nil => cases anchor <;> rfl
  | cons c cs =>
    have hc : c ≠ '/' := h c rfl
    cases anchor with
    | relative =>
      show Anchor.ofText (c :: cs) = .relative
      simp [Anchor.ofText, hc]
    | root =>
      show Anchor.ofText ('/' :: c :: cs) = .root
      simp [Anchor.ofText, hc]
    | doubleRoot =>
      show Anchor.ofText ('/' :: '/' :: c :: cs) = .doubleRoot
      simp [Anchor.ofText, hc]

/-- No slash starts the text of plain components. -/
theorem head?_intercalate (h : ∀ part ∈ parts, PlainComponent part) :
    ∀ c ∈ ("/".intercalate parts).toList.head?, c ≠ '/' := by
  cases parts with
  | nil =>
    intro c hc
    cases hc
  | cons first rest =>
    obtain ⟨hne, -, hslash⟩ := h first List.mem_cons_self
    obtain ⟨d, ds, hfirst⟩ := List.exists_cons_of_ne_nil (mt String.toList_eq_nil_iff.mp hne)
    intro c hc
    rw [String.toList_intercalate, List.map_cons, hfirst] at hc
    have hd : d = c := by
      cases rest with
      | nil => exact Option.some.inj hc
      | cons next rest => exact Option.some.inj hc
    rw [← hd]
    rintro rfl
    exact hslash (hfirst ▸ List.mem_cons_self)

/-- The text of a path is that of its anchor and of its components, unless there is
neither. -/
theorem render_eq (p : Path) :
    p.render =
      if p = ⟨.relative, []⟩ then "." else p.anchor.text ++ "/".intercalate p.components := by
  obtain ⟨anchor, components⟩ := p
  cases anchor <;> cases components <;> simp [render]

/-- **A path in normal form is read back from its text.** -/
theorem Normal.parse_render (h : p.Normal) : parse p.render = p := by
  rw [render_eq]
  split
  · rename_i hempty
    rw [hempty]
    rfl
  · rw [parse_eq, String.toList_append, ofText_append _ (head?_intercalate h),
      componentsOf_anchor, componentsOf_intercalate h]

theorem Normal.render_ne_empty (h : p.Normal) : p.render ≠ "" := by
  intro hempty
  have hparse := h.parse_render
  rw [hempty] at hparse
  rw [← hparse] at hempty
  exact absurd hempty (by decide)

end CaSettings.Path
