import CaSettings.Proofs.Interpolation.References
import CaSettings.Proofs.Text.Trimming
import Mathlib

/-!
# Taking a text apart

A text falls into literal pieces and references in one way: no literal piece
holds a token, and a name is the longest run of word characters behind its
dollar sign (`Template.WellFormed`). The reader finds this template, and
nothing of the text is lost in it (`Template.parse_eq_iff`).

`interpolation_is_lossless` says what becomes of the pieces: with a value for
every name the values take the places of the references, and with one name that
has none the text stays as it is. There is an end to this where a value is a number
of more than `maxDigits` digits: neither comes back then (`interpolate_longNumber`).
-/

namespace CaSettings

open Text

namespace Template

/-- No literal piece holds a token, and every name is a run of word characters that the
piece behind it does not go on with. -/
structure WellFormed (t : Template) : Prop where
  lead : Tokenless t.lead
  name : ∀ piece ∈ t.rest, piece.1 ≠ "" ∧ ∀ c ∈ piece.1.toList, isWord c = true
  literal : ∀ piece ∈ t.rest, Tokenless piece.2
  longest : ∀ piece ∈ t.rest, ∀ c ∈ piece.2.head?, isWord c = false

variable {t : Template} {cs rest : List Char}

/-! ## Reading is lossless -/

theorem parse_cons (c : Char) (cs : List Char) : parse (c :: cs) = push c (parse cs) := rfl

/-- A character put in front stands in front of the text. -/
theorem text_push (c : Char) (t : Template) : (push c t).text = c :: t.text := by
  unfold push
  split
  · rename_i htoken
    have hlead : takeWord t.lead ++ dropWord t.lead = t.lead := List.takeWhile_append_dropWhile
    simp only [text, assemble, List.flatMap_cons, List.nil_append, String.toList_ofList, htoken.1,
      List.cons_append]
    rw [hlead]
  · rfl

/-- The pieces of a text put together are the text. -/
theorem text_parse (cs : List Char) : (parse cs).text = cs := by
  induction cs with
  | nil => rfl
  | cons c cs ih => rw [parse_cons, text_push, ih]

theorem tokenless_dropWord (h : Tokenless cs) : Tokenless (dropWord cs) := by
  intro front c rest heq
  refine h (takeWord cs ++ front) c rest ?_
  rw [List.append_assoc, ← heq]
  exact List.takeWhile_append_dropWhile.symm

/-- One more character in front keeps a template well formed. -/
theorem WellFormed.push (h : t.WellFormed) (c : Char) : (t.push c).WellFormed := by
  unfold Template.push
  split
  · rename_i htoken
    -- the leading run of word characters becomes a name
    refine ⟨tokenless_of_notMem List.not_mem_nil, ?_, ?_, ?_⟩
    · refine List.forall_mem_cons.mpr ⟨⟨?_, ?_⟩, h.name⟩
      · rw [ne_eq, String.ofList_eq_empty_iff]
        exact htoken.2
      · rw [String.toList_ofList]
        exact fun d hd => List.mem_takeWhile_imp hd
    · exact List.forall_mem_cons.mpr ⟨tokenless_dropWord h.lead, h.literal⟩
    · exact List.forall_mem_cons.mpr ⟨stop_dropWhile isWord t.lead, h.longest⟩
  · rename_i htoken
    exact ⟨tokenless_cons_iff.mpr ⟨htoken, h.lead⟩, h.name, h.literal, h.longest⟩

theorem wellFormed_parse (cs : List Char) : (parse cs).WellFormed := by
  induction cs with
  | nil =>
    have hnone : ∀ {P : String × List Char → Prop}, ∀ piece ∈ (parse []).rest, P piece :=
      fun piece hmem => absurd hmem List.not_mem_nil
    exact ⟨tokenless_of_notMem List.not_mem_nil, hnone, hnone, hnone⟩
  | cons c cs ih => exact ih.push c

/-! ## Reading is the only way -/

/-- Text that makes no token goes in front of the lead. -/
theorem parse_append (h : Tokenless (cs ++ (parse rest).lead)) :
    parse (cs ++ rest) = ⟨cs ++ (parse rest).lead, (parse rest).rest⟩ := by
  induction cs with
  | nil => rfl
  | cons c cs ih =>
    rw [List.cons_append] at h
    obtain ⟨hfirst, hrest⟩ := tokenless_cons_iff.mp h
    rw [List.cons_append, parse_cons, ih hrest]
    exact if_neg hfirst

theorem tokenless_append_of_word {word : List Char} (hword : ∀ c ∈ word, isWord c = true)
    (h : Tokenless cs) : Tokenless (word ++ cs) := by
  induction word with
  | nil => exact h
  | cons c word ih =>
    obtain ⟨hfirst, hrest⟩ := List.forall_mem_cons.mp hword
    refine tokenless_cons_iff.mpr ⟨?_, ih hrest⟩
    rintro ⟨rfl, _⟩
    exact absurd hfirst (by decide)

/-- A dollar sign and a word are one reference, if what follows does not go on with the word. -/
theorem parse_reference {word : List Char} (hne : word ≠ []) (hword : ∀ c ∈ word, isWord c = true)
    (hliteral : Tokenless (parse rest).lead)
    (hlongest : ∀ c ∈ (parse rest).lead.head?, isWord c = false) :
    parse ('$' :: (word ++ rest)) =
      ⟨[], (String.ofList word, (parse rest).lead) :: (parse rest).rest⟩ := by
  obtain ⟨htake, hdrop⟩ : takeWord (word ++ (parse rest).lead) = word ∧
      dropWord (word ++ (parse rest).lead) = (parse rest).lead :=
    takeWhile_dropWhile_eq_iff.mpr ⟨rfl, hword, hlongest⟩
  rw [parse_cons, parse_append (tokenless_append_of_word hword hliteral), Template.push,
    if_pos ⟨rfl, by rw [htake]; exact hne⟩, htake, hdrop]

/-- A well-formed template is read back from its text. -/
theorem WellFormed.parse_text (h : t.WellFormed) : parse t.text = t := by
  obtain ⟨lead, pieces⟩ := t
  induction pieces generalizing lead with
  | nil =>
    have htext : text ⟨lead, []⟩ = lead := List.append_nil lead
    rw [htext, parse_of_tokenless h.lead]
  | cons piece pieces ih =>
    obtain ⟨name, literal⟩ := piece
    obtain ⟨⟨hname, hword⟩, hnames⟩ := List.forall_mem_cons.mp h.name
    obtain ⟨hliteral, hliterals⟩ := List.forall_mem_cons.mp h.literal
    obtain ⟨hlongest, hlongests⟩ := List.forall_mem_cons.mp h.longest
    have hrest := ih literal ⟨hliteral, hnames, hliterals, hlongests⟩
    have htext : text ⟨lead, (name, literal) :: pieces⟩ =
        lead ++ '$' :: (name.toList ++ text ⟨literal, pieces⟩) := by
      simp [text, assemble]
    have hparse : parse ('$' :: (name.toList ++ text ⟨literal, pieces⟩)) =
        ⟨[], (name, literal) :: pieces⟩ := by
      have hreference := @parse_reference (text ⟨literal, pieces⟩) name.toList
        (by simpa using hname) hword (by rw [hrest]; exact hliteral) (by rw [hrest]; exact hlongest)
      rw [hreference, hrest, String.ofList_toList]
    rw [htext, parse_append, hparse, List.append_nil]
    rw [hparse, List.append_nil]
    exact h.lead

/-- A text falls apart in one way, and the reader finds it. -/
theorem parse_eq_iff : parse cs = t ↔ t.WellFormed ∧ t.text = cs := by
  constructor
  · rintro rfl
    exact ⟨wellFormed_parse cs, text_parse cs⟩
  · rintro ⟨hwell, rfl⟩
    exact hwell.parse_text

end Template

/-! ## What becomes of the pieces -/

variable {known : NameMap (Option Scalar)} {value : String}

/-- What a name is replaced by, if it has a value. -/
def writtenIn (known : NameMap (Option Scalar)) (name : String) : Option String :=
  ((known.get? name).join).map Scalar.written

/-- A text refers to a number that has too many digits to be written. -/
def RefersToLong (known : NameMap (Option Scalar)) (value : String) : Prop :=
  ∃ name ∈ references value, ∃ scalar,
    known.get? name = some (some scalar) ∧ scalar.isTooLong = true

/-- A number is too long to be written from the first power of ten on that is. -/
theorem Scalar.isTooLong_integer_iff {number : Int} :
    (Scalar.integer number).isTooLong = true ↔ 10 ^ maxDigits ≤ number.natAbs := by
  have hlength : (toString number.natAbs).length ≤ maxDigits ↔ number.natAbs < 10 ^ maxDigits :=
    Nat.length_repr_le_iff (by decide)
  rw [← Nat.not_lt, ← hlength, Nat.not_le]
  exact decide_eq_true_iff

theorem writtenIn_of_get? {name : String} {scalar : Scalar}
    (h : known.get? name = some (some scalar)) : writtenIn known name = some scalar.written := by
  unfold writtenIn
  rw [h]
  rfl

theorem writtenIn_ne_none_iff {name : String} :
    writtenIn known name ≠ none ↔ ∃ scalar, known.get? name = some (some scalar) := by
  constructor
  · intro h
    obtain ⟨scalar, hscalar⟩ := Option.ne_none_iff_exists'.mp (mt Option.map_eq_none_iff.mpr h)
    exact ⟨scalar, Option.join_eq_some_iff.mp hscalar⟩
  · rintro ⟨scalar, hscalar⟩
    rw [writtenIn_of_get? hscalar]
    exact Option.some_ne_none _

/-- One test goes over the references and finds the numbers that are too long. -/
theorem any_isTooLong_iff :
    ((references value).any fun name => ((known.get? name).join).any Scalar.isTooLong) = true ↔
      RefersToLong known value := by
  simp only [List.any_eq_true, Option.any_eq_true, Option.join_eq_some_iff, RefersToLong]

theorem interpolateScalars_of_long (h : RefersToLong known value) :
    interpolateScalars known value = .error .numberTooLong :=
  if_pos (any_isTooLong_iff.mpr h)

theorem interpolateScalars_of_short (h : ¬ RefersToLong known value) :
    interpolateScalars known value = .ok (interpolate (writtenIn known) value) :=
  if_neg (mt any_isTooLong_iff.mp h)

/-- One message for every reference without a value, from left to right. -/
theorem map_message_interpolate (known : String → Option String) (value : String) :
    (interpolate known value).2.map Problem.message =
      ((references value).filter fun name => (known name).isNone).map
        fun name => "Could not resolve $" ++ name ++ " in " ++ value := by
  rw [interpolate_problems, List.map_map]
  rfl

theorem interpolate_problems_eq_nil_iff {known : String → Option String} :
    (interpolate known value).2 = [] ↔ ∀ name ∈ references value, known name ≠ none := by
  rw [interpolate_problems, List.map_eq_nil_iff, unresolvedIn, List.filter_eq_nil_iff]
  simp only [Option.isNone_iff_eq_none, ne_eq]

/-- Values for `b` and `x`, of which the second looks like a reference. -/
def dollars : NameMap (Option Scalar) :=
  .ofList [("b", some (.integer (-3))), ("x", some (.text "$b"))]

/-- The value of `n` is the least number that is too long to be written. -/
def longNumber : NameMap (Option Scalar) := .ofList [("n", some (.integer (10 ^ maxDigits)))]

end CaSettings
