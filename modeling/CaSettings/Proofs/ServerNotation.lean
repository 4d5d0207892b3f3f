import CaSettings.Proofs.ServerList

/-!
# Writing server lists

The same servers can be written in many ways. A piece of a list writes an entry
(`EntryPiece`) if it has the parts in their order, one or more colons between
neighbours and any number of them at the ends, and blanks around all of that; a
piece of colons with blanks around them writes nothing (`IdlePiece`). A text writes
servers if it has a piece for each of them, in order, and idle pieces anywhere
(`ServerList.Writes`). `ServerList.render` is one way to do so.

Whatever the way, reading gives the servers back, provided that their parts hold no
separators (`PlainParts`) and no blanks at the ends of an entry (`TidyParts`):
`parse_of_writes`.
-/

namespace CaSettings

open Text

/-! ## Parts that can be written -/

/-- Parts that are not empty and hold no separators. -/
def PlainParts (parts : List (List Char)) : Prop :=
  ∀ part ∈ parts, part ≠ [] ∧ ',' ∉ part ∧ ':' ∉ part

/-- No blank starts the first part, and none ends the last one. -/
structure TidyParts (parts : List (List Char)) : Prop where
  startsFull : ∀ first ∈ parts.head?, StartsFull first
  endsFull : ∀ last ∈ parts.getLast?, EndsFull last

instance {parts : List (List Char)} : Decidable (PlainParts parts) :=
  inferInstanceAs (Decidable (∀ part ∈ parts, part ≠ [] ∧ ',' ∉ part ∧ ':' ∉ part))

instance {parts : List (List Char)} : Decidable (TidyParts parts) :=
  decidable_of_iff
    ((∀ first ∈ parts.head?, StartsFull first) ∧ ∀ last ∈ parts.getLast?, EndsFull last)
    ⟨fun h => ⟨h.1, h.2⟩, fun h => ⟨h.startsFull, h.endsFull⟩⟩

instance {cs : List Char} : Decidable (Colons cs) :=
  decidable_of_iff (cs.all (· == ':') = true) (by simp [Colons])

/-- The parts of an entry, character by character. -/
def ServerEntry.texts (e : ServerEntry) : List (List Char) := e.parts.map String.toList

/-- The entry that a piece between commas stands for: blanks around it do not count. -/
def ServerEntry.ofPiece? (piece : List Char) : Option ServerEntry := ServerEntry.parse? (trim piece)

theorem ServerEntry.texts_ne_nil (e : ServerEntry) : e.texts ≠ [] :=
  List.cons_ne_nil e.host.toList _

theorem notMem_of_colons {colons : List Char} (h : Colons colons) {c : Char} (hc : c ≠ ':') :
    c ∉ colons :=
  fun hmem => hc (h c hmem)

theorem colons_nil : Colons [] := fun _ hmem => absurd hmem List.not_mem_nil

/-! ## Blanks at the ends of a piece -/

section Ends

variable {cs colons colons' rest rest' first last : List Char} {parts : List (List Char)}
  {c c' : Char}

/-- A blank stands next to the colons that a piece starts or ends with, if any. -/
inductive BlankBesideColons : List Char → Prop
  | atStart {colons b rest} : Colons colons → isBlank b = true →
      BlankBesideColons (colons ++ b :: rest)
  | atEnd {front b colons} : isBlank b = true → Colons colons →
      BlankBesideColons (front ++ b :: colons)

theorem ne_colon_of_isBlank (h : isBlank c = true) : c ≠ ':' := by
  rintro rfl
  exact absurd h (by decide)

/-- Behind the colons at the front there is one character. -/
theorem eq_of_colons_append (h : Colons colons) (h' : Colons colons') (hc : c ≠ ':')
    (hc' : c' ≠ ':') (heq : colons ++ c :: rest = colons' ++ c' :: rest') : c = c' := by
  have hrun : ∀ cs, Colons cs → ∀ d ∈ cs, (d == ':') = true :=
    fun cs hcs d hd => beq_iff_eq.mpr (hcs d hd)
  have hstop : ∀ (d : Char) (cs : List Char), d ≠ ':' →
      ∀ e ∈ (d :: cs).head?, (e == ':') = false := by
    intro d cs hd e he
    cases he
    exact beq_false_of_ne hd
  have hdrop := congrArg (List.dropWhile (· == ':')) heq
  rw [dropWhile_append_of_stop (hrun _ h) (hstop c rest hc),
    dropWhile_append_of_stop (hrun _ h') (hstop c' rest' hc')] at hdrop
  exact (List.cons.inj hdrop).1

/-- In front of the colons at the end there is one character. -/
theorem eq_of_append_colons (h : Colons colons) (h' : Colons colons') (hc : c ≠ ':')
    (hc' : c' ≠ ':') (heq : rest ++ c :: colons = rest' ++ c' :: colons') : c = c' := by
  have hreverse : ∀ {cs}, Colons cs → Colons cs.reverse :=
    fun hcs d hd => hcs d (List.mem_reverse.mp hd)
  have hback := congrArg List.reverse heq
  simp only [List.reverse_append, List.reverse_cons, List.append_assoc,
    List.singleton_append] at hback
  exact eq_of_colons_append (hreverse h) (hreverse h') hc hc' hback

/-- Behind the last run there are colons only. -/
theorem Runs.exists_last (h : Runs cs parts) (hlast : parts.getLast? = some last) :
    ∃ front colons, cs = front ++ last ++ colons ∧ Colons colons ∧ last ≠ [] ∧ ':' ∉ last := by
  induction h with
  | none _ => cases hlast
  | @run colons part rest parts _ hne hplain _ hrest ih =>
    cases parts with
    | nil =>
      cases hlast
      cases hrest with
      | none hcolons => exact ⟨colons, rest, rfl, hcolons, hne, hplain⟩
    | cons next parts =>
      rw [List.getLast?_cons_cons] at hlast
      obtain ⟨front, after, rfl, hafter⟩ := ih hlast
      exact ⟨colons ++ part ++ front, after, by simp only [List.append_assoc], hafter⟩

theorem Runs.startsFull_iff (h : Runs cs (first :: parts)) :
    StartsFull first ↔
      ∀ colons b rest, Colons colons → isBlank b = true → cs ≠ colons ++ b :: rest := by
  cases h with
  | @run colons _ rest _ hcolons hne hplain _ _ =>
    obtain ⟨c, tail, rfl⟩ := List.exists_cons_of_ne_nil hne
    have hc : c ≠ ':' := fun heq => hplain (heq ▸ List.mem_cons_self)
    rw [startsFull_cons]
    constructor
    · intro hfull colons' b rest' hcolons' hblank heq
      rw [List.append_assoc, List.cons_append] at heq
      obtain rfl := eq_of_colons_append hcolons hcolons' hc (ne_colon_of_isBlank hblank) heq
      rw [hfull] at hblank
      cases hblank
    · intro hall
      by_contra hblank
      exact hall colons c (tail ++ rest) hcolons (Bool.not_eq_false _ ▸ hblank)
        (by rw [List.append_assoc, List.cons_append])

theorem Runs.endsFull_iff (h : Runs cs parts) (hlast : parts.getLast? = some last) :
    EndsFull last ↔
      ∀ front b colons, isBlank b = true → Colons colons → cs ≠ front ++ b :: colons := by
  obtain ⟨front, colons, rfl, hcolons, hne, hplain⟩ := h.exists_last hlast
  obtain ⟨tail, c, rfl⟩ := List.eq_nil_or_concat last |>.resolve_left hne
  rw [List.concat_eq_append] at hplain ⊢
  have hc : c ≠ ':' := fun heq => hplain (heq ▸ by simp)
  have hends : EndsFull (tail ++ [c]) ↔ isBlank c = false := by simp [EndsFull]
  have hshape : front ++ (tail ++ [c]) ++ colons = (front ++ tail) ++ c :: colons := by simp
  rw [hends, hshape]
  constructor
  · intro hfull front' b colons' hblank hcolons' heq
    obtain rfl := eq_of_append_colons hcolons hcolons' hc (ne_colon_of_isBlank hblank) heq
    rw [hfull] at hblank
    cases hblank
  · intro hall
    by_contra hblank
    exact hall (front ++ tail) c colons (Bool.not_eq_false _ ▸ hblank) hcolons rfl

/-- The parts of a piece are tidy iff no blank stands next to the colons at its ends. -/
theorem Runs.tidyParts_iff (h : Runs cs parts) (hne : parts ≠ []) :
    TidyParts parts ↔ ¬ BlankBesideColons cs := by
  obtain ⟨first, others, rfl⟩ := List.exists_cons_of_ne_nil hne
  obtain ⟨last, hlast⟩ := Option.ne_none_iff_exists'.mp (mt List.getLast?_eq_none_iff.mp hne)
  constructor
  · rintro ⟨hstart, hend⟩ hblank
    cases hblank with
    | atStart hcolons hb => exact h.startsFull_iff.mp (hstart first rfl) _ _ _ hcolons hb rfl
    | atEnd hb hcolons => exact (h.endsFull_iff hlast).mp (hend last hlast) _ _ _ hb hcolons rfl
  · intro hnot
    constructor
    · rintro _ ⟨⟩
      refine h.startsFull_iff.mpr fun colons b rest hcolons hb heq => hnot ?_
      rw [heq]
      exact .atStart hcolons hb
    · intro last' hlast'
      refine (h.endsFull_iff hlast').mpr fun front b colons hb hcolons heq => hnot ?_
      rw [heq]
      exact .atEnd hb hcolons

/-- Without a blank next to the colons at its ends, a piece has none at its ends. -/
theorem trim_of_not_blankBesideColons (h : ¬ BlankBesideColons cs) {before after : List Char}
    (hbefore : Blanks before) (hafter : Blanks after) : trim (before ++ cs ++ after) = cs := by
  refine trim_eq_iff.mpr ⟨⟨before, after, hbefore, hafter, rfl⟩, ?_, ?_⟩
  · intro c hc
    by_contra hblank
    obtain ⟨rest, rfl⟩ := List.head?_eq_some_iff.mp hc
    exact h (.atStart colons_nil (Bool.not_eq_false _ ▸ hblank))
  · intro c hc
    by_contra hblank
    obtain ⟨front, rfl⟩ := List.getLast?_eq_some_iff.mp hc
    exact h (.atEnd (Bool.not_eq_false _ ▸ hblank) colons_nil)

theorem not_blankBesideColons_of_colons (h : Colons colons) : ¬ BlankBesideColons colons := by
  rintro (⟨_, hb⟩ | ⟨hb, _⟩)
  all_goals exact ne_colon_of_isBlank hb (h _ (by simp))

end Ends

/-! ## Pieces -/

/-- Parts in their order, with one or more colons between neighbours. -/
inductive Linked : List (List Char) → List Char → Prop
  | last (part : List Char) : Linked [part] part
  | link {part colons parts text} : Colons colons → colons ≠ [] → Linked parts text →
      Linked (part :: parts) (part ++ colons ++ text)

/-- A piece that writes an entry: its parts, colons at the ends, and blanks around them. -/
inductive EntryPiece (e : ServerEntry) : List Char → Prop
  | mk {before colons text colons' after} : Blanks before → Colons colons → Linked e.texts text →
      Colons colons' → Blanks after → EntryPiece e (before ++ (colons ++ text ++ colons') ++ after)

/-- A piece that writes nothing: colons, if any, and blanks around them. -/
inductive IdlePiece : List Char → Prop
  | mk {before colons after} : Blanks before → Colons colons → Blanks after →
      IdlePiece (before ++ colons ++ after)

/-- A piece for each entry, in order, and idle pieces anywhere. -/
inductive PiecesFor : List ServerEntry → List (List Char) → Prop
  | nil : PiecesFor [] []
  | idle {servers piece pieces} : IdlePiece piece → PiecesFor servers pieces →
      PiecesFor servers (piece :: pieces)
  | entry {e servers piece pieces} : EntryPiece e piece → PiecesFor servers pieces →
      PiecesFor (e :: servers) (piece :: pieces)

/-- A text that writes servers: pieces for them with commas in between. -/
def ServerList.Writes (text : String) (servers : List ServerEntry) : Prop :=
  ∃ pieces, PiecesFor servers pieces ∧ text = String.ofList (joinFields [','] pieces)

section Pieces

variable {parts : List (List Char)} {text piece colons colons' : List Char} {e : ServerEntry}
  {servers : List ServerEntry} {pieces : List (List Char)}

/-- Linked parts are the runs of their text, whatever colons stand at its ends. -/
theorem Linked.runs (h : Linked parts text) (hplain : PlainParts parts) (hcolons : Colons colons)
    (hcolons' : Colons colons') : Runs (colons ++ text ++ colons') parts := by
  induction h generalizing colons with
  | last part =>
    obtain ⟨hne, _, hcolon⟩ := hplain part List.mem_cons_self
    exact .run hcolons hne hcolon (fun c hc => hcolons' c (List.mem_of_mem_head? hc))
      (.none hcolons')
  | @link part between parts text hbetween hsome _ ih =>
    obtain ⟨⟨hne, _, hcolon⟩, hrest⟩ := List.forall_mem_cons.mp hplain
    have hstop : ∀ c ∈ (between ++ text ++ colons').head?, c = ':' := by
      obtain ⟨d, tail, rfl⟩ := List.exists_cons_of_ne_nil hsome
      intro c hc
      cases hc
      exact hbetween d List.mem_cons_self
    have hruns := Runs.run hcolons hne hcolon hstop (ih hrest hbetween)
    simpa only [List.append_assoc] using hruns

theorem Linked.noComma (h : Linked parts text) (hplain : PlainParts parts) : ',' ∉ text := by
  induction h with
  | last part => exact (hplain part List.mem_cons_self).2.1
  | link hbetween _ _ ih =>
    obtain ⟨⟨_, hcomma, _⟩, hrest⟩ := List.forall_mem_cons.mp hplain
    simp only [List.mem_append, not_or]
    exact ⟨⟨hcomma, notMem_of_colons hbetween (by decide)⟩, ih hrest⟩

theorem comma_notMem_of_blanks {cs : List Char} (h : Blanks cs) : ',' ∉ cs :=
  fun hmem => absurd (h ',' hmem) (by decide)

/-- A piece that writes an entry is read as that entry. -/
theorem EntryPiece.ofPiece?_eq (h : EntryPiece e piece) (hplain : PlainParts e.texts)
    (htidy : TidyParts e.texts) : ServerEntry.ofPiece? piece = some e := by
  cases h with
  | mk hbefore hcolons hlinked hcolons' hafter =>
    have hruns := hlinked.runs hplain hcolons hcolons'
    have hends := (hruns.tidyParts_iff e.texts_ne_nil).mp htidy
    rw [ServerEntry.ofPiece?, trim_of_not_blankBesideColons hends hbefore hafter,
      ServerEntry.parse?_eq_some_iff]
    exact hruns.filledFields_eq

theorem EntryPiece.noComma (h : EntryPiece e piece) (hplain : PlainParts e.texts) :
    ',' ∉ piece := by
  cases h with
  | mk hbefore hcolons hlinked hcolons' hafter =>
    simp only [List.mem_append, not_or]
    have hinner : ',' ∉ _ := hlinked.noComma hplain
    exact ⟨⟨comma_notMem_of_blanks hbefore, ⟨notMem_of_colons hcolons (by decide), hinner⟩,
      notMem_of_colons hcolons' (by decide)⟩, comma_notMem_of_blanks hafter⟩

/-- An idle piece is read as no entry. -/
theorem IdlePiece.ofPiece?_eq (h : IdlePiece piece) : ServerEntry.ofPiece? piece = none := by
  cases h with
  | mk hbefore hcolons hafter =>
    have hends := not_blankBesideColons_of_colons hcolons
    rw [ServerEntry.ofPiece?, trim_of_not_blankBesideColons hends hbefore hafter]
    exact ServerEntry.parse?_eq_none_iff.mpr hcolons

theorem IdlePiece.noComma (h : IdlePiece piece) : ',' ∉ piece := by
  cases h with
  | mk hbefore hcolons hafter =>
    simp only [List.mem_append, not_or]
    exact ⟨⟨comma_notMem_of_blanks hbefore, notMem_of_colons hcolons (by decide)⟩,
      comma_notMem_of_blanks hafter⟩

theorem PiecesFor.noComma (h : PiecesFor servers pieces)
    (hplain : ∀ e ∈ servers, PlainParts e.texts) : ∀ piece ∈ pieces, ',' ∉ piece := by
  induction h with
  | nil => exact fun piece hmem => absurd hmem List.not_mem_nil
  | idle hidle _ ih => exact List.forall_mem_cons.mpr ⟨hidle.noComma, ih hplain⟩
  | entry hentry _ ih =>
    obtain ⟨hfirst, hrest⟩ := List.forall_mem_cons.mp hplain
    exact List.forall_mem_cons.mpr ⟨hentry.noComma hfirst, ih hrest⟩

/-- The pieces are read as the entries that they write. -/
theorem PiecesFor.filterMap_eq (h : PiecesFor servers pieces)
    (hplain : ∀ e ∈ servers, PlainParts e.texts) (htidy : ∀ e ∈ servers, TidyParts e.texts) :
    pieces.filterMap ServerEntry.ofPiece? = servers := by
  induction h with
  | nil => rfl
  | idle hidle _ ih => rw [List.filterMap_cons_none hidle.ofPiece?_eq, ih hplain htidy]
  | entry hentry _ ih =>
    obtain ⟨hplainFirst, hplainRest⟩ := List.forall_mem_cons.mp hplain
    obtain ⟨htidyFirst, htidyRest⟩ := List.forall_mem_cons.mp htidy
    rw [List.filterMap_cons_some (hentry.ofPiece?_eq hplainFirst htidyFirst),
      ih hplainRest htidyRest]

/-- Colons between neighbours, one each, are a way to link parts. -/
theorem linked_joinFields (h : parts ≠ []) : Linked parts (joinFields [':'] parts) := by
  induction parts with
  | nil => exact absurd rfl h
  | cons part parts ih =>
    cases parts with
    | nil =>
      rw [joinFields_singleton]
      exact .last part
    | cons next parts =>
      have hcolon : Colons [':'] := fun c hc => List.mem_singleton.mp hc
      rw [joinFields_cons _ _ (List.cons_ne_nil next parts)]
      exact .link hcolon (List.cons_ne_nil _ _) (ih (List.cons_ne_nil _ _))

theorem entryPiece_render (e : ServerEntry) : EntryPiece e e.render := by
  show EntryPiece e (joinFields [':'] e.texts)
  have hpiece := EntryPiece.mk blanks_nil colons_nil (linked_joinFields e.texts_ne_nil) colons_nil
    blanks_nil
  simpa using hpiece

theorem piecesFor_render (servers : List ServerEntry) :
    PiecesFor servers (servers.map ServerEntry.render) := by
  induction servers with
  | nil => exact .nil
  | cons e servers ih => exact .entry (entryPiece_render e) ih

end Pieces

/-! ## Reading back -/

namespace ServerList

variable {text : String} {servers : List ServerEntry} {pieces : List (List Char)}

theorem writes_render (servers : List ServerEntry) : Writes (render servers) servers :=
  ⟨_, piecesFor_render servers, rfl⟩

/-- Reading cuts at the commas and reads each piece, trimmed. -/
theorem parse_eq_filterMap_fields (text : String) :
    parse text = (fields ',' text.toList).filterMap ServerEntry.ofPiece? := by
  have hnone : ServerEntry.parse? [] = none := rfl
  unfold parse entries
  rw [List.filterMap_filter, List.filterMap_map]
  refine List.filterMap_congr fun piece _ => ?_
  by_cases hempty : trim piece = []
  · simp [ServerEntry.ofPiece?, hempty, hnone]
  · simp [ServerEntry.ofPiece?, hempty]

theorem parse_joinFields (h : ∀ piece ∈ pieces, ',' ∉ piece) :
    parse (String.ofList (joinFields [','] pieces)) =
      pieces.filterMap ServerEntry.ofPiece? := by
  cases pieces with
  | nil => rfl
  | cons piece pieces =>
    have hfields : fields ',' (joinFields [','] (piece :: pieces)) = piece :: pieces :=
      fields_eq_iff.mpr ⟨List.cons_ne_nil _ _, h, rfl⟩
    rw [parse_eq_filterMap_fields, String.toList_ofList, hfields]

/-- A text is read as the servers that it writes. -/
theorem Writes.parse_eq (h : Writes text servers) (hplain : ∀ e ∈ servers, PlainParts e.texts)
    (htidy : ∀ e ∈ servers, TidyParts e.texts) : parse text = servers := by
  obtain ⟨pieces, hpieces, rfl⟩ := h
  rw [parse_joinFields (hpieces.noComma hplain), hpieces.filterMap_eq hplain htidy]

end ServerList

/-- **Reading undoes writing.** Servers whose parts are not empty, hold no separators
and have no blanks at the ends of an entry are read back from their text, and from
every other text that writes them: with colons repeated or added at the ends of an
entry, blanks around entries, and pieces without an entry anywhere in the list. -/
theorem parse_of_writes (servers : List ServerEntry) (hplain : ∀ e ∈ servers, PlainParts e.texts)
    (htidy : ∀ e ∈ servers, TidyParts e.texts) :
    ServerList.parse (ServerList.render servers) = servers ∧
      ∀ text, ServerList.Writes text servers → ServerList.parse text = servers :=
  ⟨(ServerList.writes_render servers).parse_eq hplain htidy,
    fun _ h => h.parse_eq hplain htidy⟩

/-- A host with a blank inside and a port, and a host alone. -/
def spacedServers : List ServerEntry := [⟨"a b", ["80"]⟩, ⟨"c", []⟩]

theorem writes_spacedServers : ServerList.Writes " ,\t::a b:::80: ,:: , c:" spacedServers := by
  have hfirst : EntryPiece ⟨"a b", ["80"]⟩ "\t::a b:::80: ".toList :=
    @EntryPiece.mk ⟨"a b", ["80"]⟩ ['\t'] [':', ':'] "a b:::80".toList [':'] [' '] (by decide)
      (by decide) (@Linked.link "a b".toList [':', ':', ':'] _ _ (by decide) (by decide) (.last _))
      (by decide) (by decide)
  have hsecond : EntryPiece ⟨"c", []⟩ " c:".toList :=
    @EntryPiece.mk ⟨"c", []⟩ [' '] [] "c".toList [':'] [] (by decide) (by decide) (.last _)
      (by decide) (by decide)
  have hblank : IdlePiece " ".toList :=
    @IdlePiece.mk [' '] [] [] (by decide) (by decide) (by decide)
  have hcolons : IdlePiece ":: ".toList :=
    @IdlePiece.mk [] [':', ':'] [' '] (by decide) (by decide) (by decide)
  exact ⟨_, .idle hblank (.entry hfirst (.idle hcolons (.entry hsecond .nil))), by decide +kernel⟩

theorem parse_of_writes_spacedServers :
    (∀ e ∈ spacedServers, PlainParts e.texts) ∧ (∀ e ∈ spacedServers, TidyParts e.texts) ∧
      ServerList.render spacedServers = "a b:80,c" ∧
      ServerList.parse "a b:80,c" = spacedServers ∧
      ServerList.Writes " ,\t::a b:::80: ,:: , c:" spacedServers ∧
      ServerList.parse " ,\t::a b:::80: ,:: , c:" = spacedServers := by
  have hplain : ∀ e ∈ spacedServers, PlainParts e.texts := by decide
  have htidy : ∀ e ∈ spacedServers, TidyParts e.texts := by decide
  have hrender : ServerList.render spacedServers = "a b:80,c" := by decide +kernel
  obtain ⟨hback, hall⟩ := parse_of_writes spacedServers hplain htidy
  refine ⟨hplain, htidy, hrender, ?_, writes_spacedServers, hall _ writes_spacedServers⟩
  rw [← hrender]
  exact hback

end CaSettings
