import CaSettings.Proofs.ServerNotation

/-!
# Reading a shown server list

A list of servers that was read is shown as text, and the text can be read again.
Reading drops the blanks around a piece before it drops the empty fields, so a blank
that stood next to the colons at an end of a piece becomes the end of an entry, and is
dropped when the text is read for the second time.

`reread_servers` says what the second reading gives (`ServerEntry.trimmed?`), and that
it gives the same servers iff no piece has such a blank (`BlankBesideColons`).
-/

namespace CaSettings

open Text

/-! ## Parts without blanks at the ends -/

/-- Parts of which the last one has lost the blanks at its end. -/
def trimLast : List (List Char) → List (List Char)
  | [] => []
  | [part] => [trimEnd part]
  | part :: next :: parts => part :: trimLast (next :: parts)

/-- Parts of which the first one has also lost the blanks at its start. -/
def trimParts (parts : List (List Char)) : List (List Char) :=
  trimLast (parts.modifyHead trimStart)

section Parts

variable {parts : List (List Char)} {part : List Char}

theorem trimLast_ne_nil (h : parts ≠ []) : trimLast parts ≠ [] := by
  unfold trimLast
  split
  · exact absurd rfl h
  · exact List.cons_ne_nil _ _
  · exact List.cons_ne_nil _ _

theorem length_trimLast (parts : List (List Char)) : (trimLast parts).length = parts.length := by
  fun_induction trimLast parts with
  | case1 => rfl
  | case2 part => rfl
  | case3 part next parts ih => rw [List.length_cons, ih, ← List.length_cons]

theorem length_trimParts (parts : List (List Char)) : (trimParts parts).length = parts.length := by
  unfold trimParts
  rw [length_trimLast, List.length_modifyHead]

/-- A colon is no blank, so only the last part of a joined text is trimmed at the end. -/
theorem trimEnd_joinFields (parts : List (List Char)) :
    trimEnd (joinFields [':'] parts) = joinFields [':'] (trimLast parts) := by
  fun_induction trimLast parts with
  | case1 => rfl
  | case2 part => rw [joinFields_singleton, joinFields_singleton]
  | case3 part next parts ih =>
    rw [joinFields_cons _ _ (List.cons_ne_nil next parts), List.append_assoc, List.singleton_append,
      trimEnd_append_cons (by decide), ih,
      joinFields_cons _ _ (trimLast_ne_nil (List.cons_ne_nil next parts)), List.append_assoc,
      List.singleton_append]

theorem trimStart_joinFields (parts : List (List Char)) :
    trimStart (joinFields [':'] parts) = joinFields [':'] (parts.modifyHead trimStart) := by
  cases parts with
  | nil => rfl
  | cons part parts =>
    rw [List.modifyHead_cons]
    by_cases hnil : parts = []
    · rw [hnil, joinFields_singleton, joinFields_singleton]
    · rw [joinFields_cons _ _ hnil, joinFields_cons _ _ hnil, List.append_assoc, List.append_assoc,
        List.singleton_append, trimStart_append_cons (by decide)]

theorem trim_joinFields (parts : List (List Char)) :
    trim (joinFields [':'] parts) = joinFields [':'] (trimParts parts) := by
  unfold trim trimParts
  rw [trimStart_joinFields, trimEnd_joinFields]

/-- Trimming puts no colon into a part. -/
theorem noColon_trimLast (h : ∀ part ∈ parts, ':' ∉ part) :
    ∀ part ∈ trimLast parts, ':' ∉ part := by
  fun_induction trimLast parts with
  | case1 => exact h
  | case2 part =>
    intro trimmed hmem hcolon
    rw [List.mem_singleton.mp hmem] at hcolon
    obtain ⟨after, _, hcut, _⟩ := trimEnd_eq_iff.mp (rfl : trimEnd part = trimEnd part)
    refine h part List.mem_cons_self ?_
    rw [hcut]
    exact List.mem_append_left after hcolon
  | case3 part next parts ih =>
    obtain ⟨hfirst, hrest⟩ := List.forall_mem_cons.mp h
    exact List.forall_mem_cons.mpr ⟨hfirst, ih hrest⟩

theorem noColon_trimParts (h : ∀ part ∈ parts, ':' ∉ part) :
    ∀ part ∈ trimParts parts, ':' ∉ part := by
  refine noColon_trimLast ?_
  cases parts with
  | nil => exact h
  | cons first others =>
    obtain ⟨hfirst, hrest⟩ := List.forall_mem_cons.mp h
    refine List.forall_mem_cons.mpr ⟨fun hcolon => hfirst ?_, hrest⟩
    obtain ⟨before, _, hcut, _⟩ := trimStart_eq_iff.mp (rfl : trimStart first = trimStart first)
    rw [hcut]
    exact List.mem_append_right before hcolon

/-- Of parts that were joined, reading finds the trimmed ones that are not empty. -/
theorem filledFields_trim_joinFields (hne : parts ≠ []) (h : ∀ part ∈ parts, ':' ∉ part) :
    filledFields (trim (joinFields [':'] parts)) = (trimParts parts).filter (!·.isEmpty) := by
  have hlength : trimParts parts ≠ [] := by
    rw [ne_eq, ← List.length_eq_zero_iff, length_trimParts, List.length_eq_zero_iff]
    exact hne
  have hfields : fields ':' (joinFields [':'] (trimParts parts)) = trimParts parts :=
    fields_eq_iff.mpr ⟨hlength, noColon_trimParts h, rfl⟩
  rw [trim_joinFields, filledFields, hfields]

theorem trimLast_eq_self_iff : trimLast parts = parts ↔ ∀ last ∈ parts.getLast?, EndsFull last := by
  fun_induction trimLast parts with
  | case1 => simp
  | case2 part => simp [trimEnd_eq_self_iff]
  | case3 part next parts ih => rw [List.cons_inj_right, ih, List.getLast?_cons_cons]

/-- Tidy parts are the ones that trimming leaves alone. -/
theorem trimParts_eq_self_iff : trimParts parts = parts ↔ TidyParts parts := by
  cases parts with
  | nil => exact ⟨fun _ => ⟨nofun, nofun⟩, fun _ => rfl⟩
  | cons first others =>
    have htidy : TidyParts (first :: others) ↔
        StartsFull first ∧ ∀ last ∈ (first :: others).getLast?, EndsFull last := by
      constructor
      · rintro ⟨hstart, hend⟩
        exact ⟨hstart first rfl, hend⟩
      · rintro ⟨hstart, hend⟩
        refine ⟨?_, hend⟩
        rintro _ ⟨⟩
        exact hstart
    rw [htidy]
    cases others with
    | nil =>
      -- the only part is trimmed at both ends
      show [trim first] = [first] ↔ _
      simp [trim_eq_self_iff]
    | cons next others =>
      show trimStart first :: trimLast (next :: others) = first :: next :: others ↔ _
      rw [List.cons.injEq, trimStart_eq_self_iff, trimLast_eq_self_iff, List.getLast?_cons_cons]

end Parts

/-! ## Entries -/

namespace ServerEntry

variable {e : ServerEntry} {piece : List Char}

/-- An entry without the blanks at its ends: the first part loses the ones that it starts
with, the last part the ones that it ends with, and parts with nothing left are dropped. -/
def trimmed? (e : ServerEntry) : Option ServerEntry :=
  ofParts? (((trimParts e.texts).filter (!·.isEmpty)).map String.ofList)

/-- The text of an entry is read as the trimmed entry. -/
theorem ofPiece?_render (h : PlainParts e.texts) : ofPiece? e.render = e.trimmed? := by
  have hcolon : ∀ part ∈ e.texts, ':' ∉ part := fun part hmem => (h part hmem).2.2
  show ofParts? ((filledFields (trim (joinFields [':'] e.texts))).map String.ofList) = _
  rw [filledFields_trim_joinFields e.texts_ne_nil hcolon]
  rfl

/-- The entries that are their own trimmed form. -/
theorem trimmed?_eq_some_self_iff (h : PlainParts e.texts) :
    e.trimmed? = some e ↔ TidyParts e.texts := by
  rw [← trimParts_eq_self_iff]
  unfold trimmed?
  rw [ofParts?_eq_some_iff, map_ofList_eq_iff]
  show (trimParts e.texts).filter (!·.isEmpty) = e.texts ↔ _
  constructor
  · intro hfilter
    -- no part was dropped, so none was emptied
    have hlength := (congrArg List.length hfilter).trans (length_trimParts e.texts).symm
    rw [List.length_filter_eq_length_iff, ← List.filter_eq_self] at hlength
    exact hlength.symm.trans hfilter
  · intro htrim
    rw [htrim, List.filter_eq_self]
    intro part hmem
    simpa using (h part hmem).1

/-- The parts that reading finds are not empty and hold no separators. -/
theorem plainParts_of_parse? (hcomma : ',' ∉ piece) (h : parse? piece = some e) :
    PlainParts e.texts := by
  intro part hmem
  have hfilled : filledFields piece = e.texts := parse?_eq_some_iff.mp h
  rw [← hfilled] at hmem
  obtain ⟨hne, hcolon⟩ := of_mem_filledFields hmem
  exact ⟨hne, fun hpart => hcomma (mem_of_mem_fields (List.mem_filter.mp hmem).1 hpart), hcolon⟩

/-- An entry is tidy iff its piece has no blank next to the colons at the ends. -/
theorem tidyParts_iff_of_parse? (h : parse? piece = some e) :
    TidyParts e.texts ↔ ¬ BlankBesideColons piece :=
  (filledFields_eq_iff.mp (parse?_eq_some_iff.mp h)).tidyParts_iff e.texts_ne_nil

end ServerEntry

/-! ## Lists -/

namespace ServerList

variable {servers : List ServerEntry}

theorem plainParts_of_mem_parse {text : String} {e : ServerEntry} (h : e ∈ parse text) :
    PlainParts e.texts := by
  rw [parse_eq_filterMap_fields, List.mem_filterMap] at h
  obtain ⟨piece, hmem, hpiece⟩ := h
  exact ServerEntry.plainParts_of_parse?
    (fun hcomma => notMem_of_mem_fields hmem (mem_of_mem_trim hcomma)) hpiece

/-- A list that is shown and read again has its entries trimmed. -/
theorem parse_render (h : ∀ e ∈ servers, PlainParts e.texts) :
    parse (render servers) = servers.filterMap ServerEntry.trimmed? := by
  have hcomma : ∀ piece ∈ servers.map ServerEntry.render, ',' ∉ piece :=
    (piecesFor_render servers).noComma h
  unfold render
  rw [parse_joinFields hcomma, List.filterMap_map]
  exact List.filterMap_congr fun e hmem => ServerEntry.ofPiece?_render (h e hmem)

/-- A list stays as it is iff each of its entries does. -/
theorem filterMap_trimmed?_eq_self_iff :
    servers.filterMap ServerEntry.trimmed? = servers ↔ ∀ e ∈ servers, e.trimmed? = some e := by
  induction servers with
  | nil => simp
  | cons e servers ih =>
    rw [List.forall_mem_cons, ← ih]
    cases htrim : e.trimmed? with
    | none =>
      rw [List.filterMap_cons_none htrim]
      constructor
      · intro heq
        have hle := List.length_filterMap_le ServerEntry.trimmed? servers
        rw [heq, List.length_cons] at hle
        omega
      · exact fun h => nomatch h.1
    | some e' => rw [List.filterMap_cons_some htrim, List.cons.injEq, Option.some.injEq]

/-- Each entry has its piece, so what holds of the pieces holds of the entries. -/
theorem forall_tidyParts_iff (text : String) :
    (∀ e ∈ parse text, TidyParts e.texts) ↔ ∀ piece ∈ pieces text, ¬ BlankBesideColons piece := by
  have hpairs := forall₂_pieces text
  generalize pieces text = ps at hpairs
  generalize parse text = servers at hpairs
  induction hpairs with
  | nil => simp
  | cons hpiece _ ih =>
    rw [List.forall_mem_cons, List.forall_mem_cons]
    exact and_congr (ServerEntry.tidyParts_iff_of_parse? hpiece) ih

end ServerList

/-- **A shown server list is read as the same servers iff no blank stands next to the
colons at an end of a piece.** In any case its entries come back trimmed: the first
part without the blanks that it starts with, the last part without those that it ends
with, and parts with nothing left dropped. -/
theorem reread_servers (text : String) :
    ServerList.parse (ServerList.render (ServerList.parse text)) =
        (ServerList.parse text).filterMap ServerEntry.trimmed? ∧
      (ServerList.parse (ServerList.render (ServerList.parse text)) = ServerList.parse text ↔
        ∀ piece ∈ ServerList.pieces text, ¬ BlankBesideColons piece) := by
  have hplain : ∀ e ∈ ServerList.parse text, PlainParts e.texts :=
    fun e => ServerList.plainParts_of_mem_parse
  have hreread := ServerList.parse_render hplain
  refine ⟨hreread, ?_⟩
  rw [hreread, ServerList.filterMap_trimmed?_eq_self_iff, ← ServerList.forall_tidyParts_iff]
  exact forall₂_congr fun e hmem => ServerEntry.trimmed?_eq_some_self_iff (hplain e hmem)

/-- A blank behind a colon is part of a host until the list is read again. -/
theorem reread_servers_hiddenBlank :
    ServerList.parse ": a" = [⟨" a", []⟩] ∧
      ServerList.parse (ServerList.render (ServerList.parse ": a")) = [⟨"a", []⟩] ∧
      ServerList.parse (ServerList.render (ServerList.parse ": a")) ≠ ServerList.parse ": a" := by
  decide +kernel

end CaSettings
