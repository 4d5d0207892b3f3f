import CaSettings.Proofs.Text.Fields
import CaSettings.Proofs.Text.Trimming
import CaSettings.Proofs.Transforms

/-!
# The names of a certificate

A certificate lists the host and every name that is asked for, each with its type in
front (`WrittenName`). Written with commas the list can be read again:

* **`map_trim_fields_joinFields`** — the trimmed pieces between the commas are the
  names that were written;
* **`formatAltNames_joinFields`** — asking for what a certificate lists gives the host
  and that list.

`alt_names_keep_every_name` says so of the names of every text, and when resolving
writes them.
-/

namespace CaSettings

open Text

/-- A name says what it is: capital letters and then a colon start it. -/
def Typed (name : List Char) : Prop :=
  ∃ capitals rest, capitals ≠ [] ∧ (∀ c ∈ capitals, 'A' ≤ c ∧ c ≤ 'Z') ∧
    name = capitals ++ ':' :: rest

/-- How a certificate lists a name that is asked for. -/
inductive Listed (name : List Char) : List Char → Prop
  | typed : Typed name → Listed name name
  | dns : ¬ Typed name → Listed name ("DNS:".toList ++ name)

/-- The host as a certificate lists it. -/
def hostName (certname : String) : List Char := "DNS:".toList ++ certname.toList

/-- A name as it stands in a written list. -/
structure WrittenName (name : List Char) : Prop where
  typed : Typed name
  noComma : ',' ∉ name
  startsFull : StartsFull name
  endsFull : EndsFull name

variable {name first : List Char} {names : List (List Char)} {certname : String}

/-! ## Types of names -/

theorem isUpper_iff {c : Char} : c.isUpper = true ↔ 'A' ≤ c ∧ c ≤ 'Z' := by
  unfold Char.isUpper
  rw [decide_eq_true_eq]
  exact Iff.rfl

theorem typed_dns (name : List Char) : Typed ("DNS:".toList ++ name) := by
  have hcapitals : ['D', 'N', 'S'].all Char.isUpper = true := by decide
  refine ⟨['D', 'N', 'S'], name, by decide, fun c hc => ?_, rfl⟩
  exact isUpper_iff.mp (List.all_eq_true.mp hcapitals c hc)

/-- The capital letters in front are the longest run of them, because a colon ends it. -/
theorem hasTypeTag_iff : hasTypeTag name = true ↔ Typed name := by
  unfold hasTypeTag
  constructor
  · intro h
    split at h
    · rename_i d ds rest hcapitals hrest
      refine ⟨d :: ds, rest, List.cons_ne_nil d ds, fun c hc => ?_, ?_⟩
      · rw [← hcapitals] at hc
        exact isUpper_iff.mp (List.mem_takeWhile_imp hc)
      · rw [← hcapitals, ← hrest, List.takeWhile_append_dropWhile]
    · cases h
  · rintro ⟨capitals, rest, hne, hcapitals, rfl⟩
    have hrun : ∀ c ∈ capitals, c.isUpper = true := fun c hc => isUpper_iff.mpr (hcapitals c hc)
    have hstop : ∀ c ∈ (':' :: rest).head?, c.isUpper = false := by
      intro c hc
      cases hc
      rfl
    obtain ⟨d, ds, rfl⟩ := List.exists_cons_of_ne_nil hne
    rw [takeWhile_append_of_stop hrun hstop, dropWhile_append_of_stop hrun hstop]
    rfl

theorem tagged_of_typed (h : Typed name) : tagged name = name :=
  if_pos (hasTypeTag_iff.mpr h)

theorem listed_tagged (name : List Char) : Listed name (tagged name) := by
  by_cases h : Typed name
  · rw [tagged_of_typed h]
    exact .typed h
  · have htagged : tagged name = "DNS:".toList ++ name := if_neg (mt hasTypeTag_iff.mp h)
    rw [htagged]
    exact .dns h

/-! ## Written names -/

/-- A type in front of a name that ends with no blank makes it one of a list. -/
theorem writtenName_dns (hcomma : ',' ∉ name) (hend : EndsFull name) :
    WrittenName ("DNS:".toList ++ name) where
  typed := typed_dns name
  noComma := by
    rw [List.mem_append, not_or]
    exact ⟨by decide, hcomma⟩
  startsFull := startsFull_cons.mpr rfl
  endsFull := by
    intro c hc
    rw [List.getLast?_append] at hc
    cases hlast : name.getLast? with
    | none =>
      rw [hlast] at hc
      cases hc
      rfl
    | some last =>
      rw [hlast] at hc
      obtain rfl : last = c := Option.some.inj hc
      exact hend last hlast

/-- Every name that is asked for is listed as one that can be written. -/
theorem writtenName_tagged {d : List Char} (h : name ∈ entries ',' d) :
    WrittenName (tagged name) := by
  obtain ⟨hmem, -⟩ := List.mem_filter.mp h
  obtain ⟨piece, hpiece, rfl⟩ := List.mem_map.mp hmem
  have htrims := trims_trim piece
  have hcomma : ',' ∉ trim piece := fun hc => notMem_of_mem_fields hpiece (mem_of_mem_trim hc)
  have hlisted := listed_tagged (trim piece)
  generalize tagged (trim piece) = entry at hlisted ⊢
  cases hlisted with
  | typed htyped =>
    exact ⟨htyped, hcomma, htrims.startsFull, htrims.endsFull⟩
  | dns _ => exact writtenName_dns hcomma htrims.endsFull

theorem WrittenName.ne_nil (h : WrittenName name) : name ≠ [] := by
  obtain ⟨capitals, rest, -, -, rfl⟩ := h.typed
  simp

theorem WrittenName.trim_eq (h : WrittenName name) : trim name = name :=
  trim_eq_self_iff.mpr ⟨h.startsFull, h.endsFull⟩

theorem trim_cons_blank (name : List Char) : trim (' ' :: name) = trim name := rfl

/-! ## Lists of names -/

/-- The pieces of a written list: the first name, and the other ones behind a blank. -/
theorem fields_joinFields (hfirst : ',' ∉ first) (h : ∀ name ∈ names, ',' ∉ name) :
    fields ',' (joinFields ", ".toList (first :: names)) = first :: names.map (' ' :: ·) := by
  induction names generalizing first with
  | nil =>
    rw [joinFields_singleton, fields_of_notMem hfirst]
    rfl
  | cons next names ih =>
    obtain ⟨hnext, hnames⟩ := List.forall_mem_cons.mp h
    have hblank : ' ' :: joinFields ", ".toList (next :: names) =
        joinFields ", ".toList ((' ' :: next) :: names) := by
      cases names with
      | nil => rfl
      | cons other names =>
        rw [joinFields_cons _ _ (List.cons_ne_nil other names),
          joinFields_cons _ _ (List.cons_ne_nil other names)]
        rfl
    have hcomma : ',' ∉ ' ' :: next := by
      rw [List.mem_cons, not_or]
      exact ⟨by decide, hnext⟩
    have hcut : joinFields ", ".toList (first :: next :: names) =
        first ++ ',' :: joinFields ", ".toList ((' ' :: next) :: names) := by
      rw [joinFields_cons _ _ (List.cons_ne_nil next names), ← hblank, List.append_assoc]
      rfl
    rw [hcut, fields_append hfirst, ih hcomma hnames]
    rfl

/-- **The names that were written are the pieces of the list.** -/
theorem map_trim_fields_joinFields (hfirst : WrittenName first)
    (h : ∀ name ∈ names, WrittenName name) :
    (fields ',' (joinFields ", ".toList (first :: names))).map trim = first :: names := by
  rw [fields_joinFields hfirst.noComma fun name hname => (h name hname).noComma, List.map_cons,
    hfirst.trim_eq, List.map_map]
  congr 1
  refine (List.map_congr_left fun name hname => ?_).trans (List.map_id names)
  exact (trim_cons_blank name).trans (h name hname).trim_eq

theorem toList_formatAltNames (d certname : String) :
    (formatAltNames d certname).toList =
      joinFields ", ".toList (hostName certname :: (entries ',' d.toList).map tagged) :=
  String.toList_ofList

/-- **A written list is taken over as it is**, behind the host. -/
theorem formatAltNames_joinFields (hfirst : WrittenName first)
    (h : ∀ name ∈ names, WrittenName name) (certname : String) :
    (formatAltNames (String.ofList (joinFields ", ".toList (first :: names))) certname).toList =
      hostName certname ++ ", ".toList ++ joinFields ", ".toList (first :: names) := by
  have hall : ∀ name ∈ first :: names, WrittenName name := List.forall_mem_cons.mpr ⟨hfirst, h⟩
  have hentries : entries ',' (joinFields ", ".toList (first :: names)) = first :: names := by
    unfold entries
    rw [map_trim_fields_joinFields hfirst h, List.filter_eq_self]
    intro name hname
    simpa using (hall name hname).ne_nil
  have htagged : (first :: names).map tagged = first :: names :=
    (List.map_congr_left fun name hname => tagged_of_typed (hall name hname).typed).trans
      (List.map_id _)
  have htext : (String.ofList (joinFields ", ".toList (first :: names))).toList =
      joinFields ", ".toList (first :: names) := String.toList_ofList
  rw [toList_formatAltNames, htext, hentries, htagged,
    joinFields_cons _ _ (List.cons_ne_nil first names)]

/-! ## The names of a text -/

theorem writtenNames (d : String) : ∀ name ∈ (entries ',' d.toList).map tagged, WrittenName name := by
  intro name hname
  obtain ⟨asked, hasked, rfl⟩ := List.mem_map.mp hname
  exact writtenName_tagged hasked

/-- Each piece that is not blank is listed, in order. -/
theorem forall₂_listed (d : String) :
    List.Forall₂ Listed (((fields ',' d.toList).map trim).filter (· ≠ []))
      ((entries ',' d.toList).map tagged) := by
  have hentries : ((fields ',' d.toList).map trim).filter (· ≠ []) = entries ',' d.toList :=
    List.filter_congr fun name _ => by cases name <;> rfl
  rw [hentries, List.forall₂_map_right_iff, List.forall₂_same]
  exact fun name _ => listed_tagged name

theorem formatAltNames_again (hhost : WrittenName (hostName certname)) (d : String) :
    formatAltNames (formatAltNames d certname) certname =
      "DNS:" ++ certname ++ ", " ++ formatAltNames d certname := by
  have hagain := formatAltNames_joinFields hhost (writtenNames d) certname
  have hlist : String.ofList (joinFields ", ".toList
      (hostName certname :: (entries ',' d.toList).map tagged)) = formatAltNames d certname := rfl
  rw [hlist] at hagain
  rw [← String.toList_inj, hagain, ← toList_formatAltNames]
  simp only [String.toList_append, hostName]

/-! ## Resolving -/

namespace Resolver

variable {r : Resolver} {overrides : Overrides} {values : NameMap (Option String)}
  {d : String}

theorem altNames_of_some (hasked : "dns_alt_names" ∈ overrides.names)
    (hvalue : values.get? "dns_alt_names" = some (some d)) :
    r.altNames overrides values = formatAltNames d r.certname := by
  unfold altNames
  rw [hvalue]
  exact if_pos (NameMap.isSome_get?_iff.mpr hasked)

theorem altNames_of_not (h : "dns_alt_names" ∉ overrides.names ∨
    (values.get? "dns_alt_names").join = none) : r.altNames overrides values = "" := by
  unfold altNames
  split
  · rename_i d hvalue
    rcases h with hasked | hnone
    · exact if_neg (mt NameMap.isSome_get?_iff.mp hasked)
    · rw [hnone] at hvalue
      cases hvalue
  · rfl

end Resolver

/-- **No name that is asked for is lost.**

* For a host without a comma and without blanks at its end, the trimmed pieces of the
  written list are the host and, in order, one name for each piece of the text that is
  not blank: the trimmed piece with its type. Every one of them has a type, and asking
  for a written list gives the host and that list.
* Resolving writes the list of the interpolated `dns_alt_names`, if that is asked for
  and has a value, with the host's name for its certificate, and otherwise the empty
  text. -/
theorem alt_names_keep_every_name :
    (∀ d certname : String, ',' ∉ certname.toList → EndsFull certname.toList →
      ∃ names,
        (fields ',' (formatAltNames d certname).toList).map trim =
          ("DNS:".toList ++ certname.toList) :: names ∧
        List.Forall₂ Listed (((fields ',' d.toList).map trim).filter (· ≠ [])) names ∧
        (∀ name ∈ ("DNS:".toList ++ certname.toList) :: names, Typed name) ∧
        formatAltNames (formatAltNames d certname) certname =
          "DNS:" ++ certname ++ ", " ++ formatAltNames d certname) ∧
    ∀ (r : Resolver) (overrides : Overrides) (resolution : Resolution),
      (r.resolve overrides).result = .ok resolution →
        ∃ t, r.templates overrides = .ok t ∧
          (∀ value, "dns_alt_names" ∈ overrides.names →
            resolution.settings.get? "dns_alt_names" = some (some value) →
            ∃ d, value = .text d ∧
              (interpolateAll t).values.get? "dns_alt_names" = some (some d) ∧
              resolution.settings.get? "subject_alt_names" =
                some (some (.text (formatAltNames d r.certname)))) ∧
          (("dns_alt_names" ∉ overrides.names ∨
              ∀ value, resolution.settings.get? "dns_alt_names" ≠ some (some value)) →
            resolution.settings.get? "subject_alt_names" = some (some (.text ""))) := by
  constructor
  · intro d certname hcomma hend
    have hhost : WrittenName (hostName certname) := writtenName_dns hcomma hend
    refine ⟨(entries ',' d.toList).map tagged, ?_, forall₂_listed d, ?_, formatAltNames_again hhost d⟩
    · rw [toList_formatAltNames]
      exact map_trim_fields_joinFields hhost (writtenNames d)
    · intro name hname
      rcases List.mem_cons.mp hname with rfl | hlisted
      · exact typed_dns _
      · exact (writtenNames d name hlisted).typed
  · intro r overrides resolution h
    obtain ⟨t, ttl, problems, ht, -, hsettings, -⟩ := Resolver.result_resolve_eq_ok h
    have hkept : resolution.settings.Keeps (interpolateAll t).values "dns_alt_names" := by
      rw [hsettings]
      exact Resolver.keeps_finalForm (by decide)
    refine ⟨t, ht, fun value hasked hvalue => ?_, fun hnot => ?_⟩
    · obtain ⟨d, rfl, hget⟩ := hkept.get?_eq_some_iff.mp hvalue
      refine ⟨d, rfl, hget, ?_⟩
      rw [hsettings, Resolver.get?_finalForm_altNames, Resolver.altNames_of_some hasked hget]
    · have hnothing : r.altNames overrides (interpolateAll t).values = "" := by
        refine Resolver.altNames_of_not (hnot.imp_right fun hnone => ?_)
        rw [Option.eq_none_iff_forall_ne_some]
        intro d hd
        exact hnone (.text d)
          (hkept.get?_eq_some_iff.mpr ⟨d, rfl, Option.join_eq_some_iff.mp hd⟩)
      rw [hsettings, Resolver.get?_finalForm_altNames, hnothing]

/-! ### Names that come from other settings -/

/-- A table whose certificate name is not the one that the host gives. -/
def renamed : Resolver where
  table.entries := [
    ("certname", .literal "spare"),
    ("aliases", .literal " lab ,URI:x"),
    ("dns_alt_names", .literal "")]
  certname := " ca"

def renamedOverrides : Overrides := .ofList [("dns_alt_names", some "$aliases,, ip:b ,$certname")]

def renamedTemplates : Templates where
  entries := [
    ("certname", some "spare"),
    ("aliases", some " lab ,URI:x"),
    ("dns_alt_names", some "$aliases,, ip:b ,$certname")]

theorem alt_names_keep_every_name_renamed :
    formatAltNames (formatAltNames " lab ,URI:x,, ip:b ,spare" " ca") " ca" =
        "DNS: ca, DNS: ca, DNS:lab, URI:x, DNS:ip:b, DNS:spare" ∧
      (∃ resolution, (renamed.resolve renamedOverrides).result = .ok resolution ∧
        resolution.settings.get? "subject_alt_names" =
          some (some (.text "DNS: ca, DNS:lab, URI:x, DNS:ip:b, DNS:spare"))) ∧
      ∃ resolution, (renamed.resolve .empty).result = .ok resolution ∧
        resolution.settings.get? "subject_alt_names" = some (some (.text "")) := by
  have hwritten : formatAltNames " lab ,URI:x,, ip:b ,spare" " ca" =
      "DNS: ca, DNS:lab, URI:x, DNS:ip:b, DNS:spare" := by decide +kernel
  refine ⟨?_, ?_, ?_⟩
  · obtain ⟨names, -, -, -, hagain⟩ := alt_names_keep_every_name.1
      " lab ,URI:x,, ip:b ,spare" " ca" (by decide) (by decide)
    rw [hagain, hwritten]
    rfl
  · have htemplates : renamed.templates renamedOverrides = .ok renamedTemplates := rfl
    have hresult := Resolver.result_resolve_of_resolveTtl htemplates rfl
    have hvalue : (interpolateAll renamedTemplates).values.get? "dns_alt_names" =
        some (some " lab ,URI:x,, ip:b ,spare") := by decide +kernel
    refine ⟨_, hresult, ?_⟩
    obtain ⟨t, ht, hasked, -⟩ := alt_names_keep_every_name.2 _ _ _ hresult
    obtain rfl := Except.ok.inj (htemplates.symm.trans ht)
    obtain ⟨d, -, hd, hnames⟩ := hasked (.text " lab ,URI:x,, ip:b ,spare") (by decide)
      ((Resolver.keeps_finalForm (by decide)).get?_eq_some_iff.mpr ⟨_, rfl, hvalue⟩)
    rw [hvalue, Option.some.injEq, Option.some.injEq] at hd
    rw [hnames, ← hd, ← hwritten]
    rfl
  · have hresult : (renamed.resolve .empty).result = .ok _ :=
      Resolver.result_resolve_of_resolveTtl rfl rfl
    obtain ⟨t, -, -, hnot⟩ := alt_names_keep_every_name.2 _ _ _ hresult
    exact ⟨_, hresult, hnot (.inl List.not_mem_nil)⟩

end CaSettings
