import CaSettings.Proofs.Text.Fields
import CaSettings.Proofs.Transforms

/-!
# What a server list says

A server list falls into pieces at its commas. The parts of an entry are the runs
of a piece that hold no colon, from left to right (`Runs`, `parse?_eq_some_iff`),
so that the first part is the host and the second one the service only in a piece
of the expected shape: a host, and then colons or a colon and one port (`Regular`).

`servers_of_regular_pieces` says so of every entry of every list, and what becomes
of the four settings that the first entry decides.
-/

namespace CaSettings

open Text

/-! ## The parts of a piece -/

/-- A text of colons, the empty one included. -/
def Colons (cs : List Char) : Prop := ∀ c ∈ cs, c = ':'

/-- The longest runs without a colon, from left to right. -/
inductive Runs : List Char → List (List Char) → Prop
  | none {colons} : Colons colons → Runs colons []
  | run {colons part rest parts} : Colons colons → part ≠ [] → ':' ∉ part →
      (∀ c ∈ rest.head?, c = ':') → Runs rest parts → Runs (colons ++ part ++ rest) (part :: parts)

/-- The fields between the colons of a piece that are not empty. -/
def filledFields (piece : List Char) : List (List Char) := (fields ':' piece).filter (!·.isEmpty)

section Parts

variable {piece cs colons host part port rest : List Char} {parts : List (List Char)}

theorem filledFields_colon (cs : List Char) : filledFields (':' :: cs) = filledFields cs := by
  unfold filledFields
  rw [fields_cons_self]
  rfl

theorem filledFields_colons (h : Colons colons) (cs : List Char) :
    filledFields (colons ++ cs) = filledFields cs := by
  induction colons with
  | nil => rfl
  | cons c colons ih =>
    obtain ⟨rfl, hrest⟩ := List.forall_mem_cons.mp h
    rw [List.cons_append, filledFields_colon, ih hrest]

/-- A run at the front is the first field that is not empty. -/
theorem filledFields_run (hne : part ≠ []) (hplain : ':' ∉ part)
    (hstop : ∀ c ∈ rest.head?, c = ':') :
    filledFields (part ++ rest) = part :: filledFields rest := by
  have hkeep : ∀ others : List (List Char),
      (part :: others).filter (!·.isEmpty) = part :: others.filter (!·.isEmpty) :=
    fun others => List.filter_cons_of_pos (by simpa using hne)
  cases rest with
  | nil =>
    unfold filledFields
    rw [List.append_nil, fields_of_notMem hplain, hkeep]
    rfl
  | cons c rest =>
    obtain rfl : c = ':' := hstop c rfl
    rw [filledFields_colon]
    unfold filledFields
    rw [fields_append hplain, hkeep]

theorem Runs.filledFields_eq (h : Runs cs parts) : filledFields cs = parts := by
  induction h with
  | none hcolons =>
    have hnone := filledFields_colons hcolons []
    rwa [List.append_nil] at hnone
  | run hcolons hne hplain hstop _ ih =>
    rw [List.append_assoc, filledFields_colons hcolons, filledFields_run hne hplain hstop, ih]

theorem exists_runs (cs : List Char) : ∃ parts, Runs cs parts := by
  induction cs with
  | nil => exact ⟨[], .none fun c hc => absurd hc List.not_mem_nil⟩
  | cons c cs ih =>
    obtain ⟨parts, h⟩ := ih
    by_cases hcolon : c = ':'
    · subst hcolon
      cases h with
      | none hcolons => exact ⟨[], .none (List.forall_mem_cons.mpr ⟨rfl, hcolons⟩)⟩
      | run hcolons hne hplain hstop hrest =>
        exact ⟨_, .run (List.forall_mem_cons.mpr ⟨rfl, hcolons⟩) hne hplain hstop hrest⟩
    · have hnone : Colons [] := fun c hc => absurd hc List.not_mem_nil
      have hsingle : ':' ∉ [c] := fun hmem => hcolon (List.mem_singleton.mp hmem).symm
      cases h with
      | none hcolons =>
        have hstop : ∀ d ∈ cs.head?, d = ':' := fun d hd => hcolons d (List.mem_of_mem_head? hd)
        exact ⟨[[c]], @Runs.run [] [c] cs [] hnone (List.cons_ne_nil c []) hsingle hstop
          (.none hcolons)⟩
      | @run colons part rest parts hcolons hne hplain hstop hrest =>
        cases colons with
        | nil =>
          -- the first run goes on at its front
          refine ⟨(c :: part) :: parts, @Runs.run [] (c :: part) rest parts hnone
            (List.cons_ne_nil c part) ?_ hstop hrest⟩
          rw [List.mem_cons, not_or]
          exact ⟨Ne.symm hcolon, hplain⟩
        | cons d colons =>
          refine ⟨[c] :: part :: parts, @Runs.run [] [c] _ _ hnone (List.cons_ne_nil c [])
            hsingle ?_ (.run hcolons hne hplain hstop hrest)⟩
          intro e he
          cases he
          exact hcolons d List.mem_cons_self

/-- A piece has one list of runs, and the reader finds it. -/
theorem filledFields_eq_iff : filledFields cs = parts ↔ Runs cs parts := by
  constructor
  · rintro rfl
    obtain ⟨parts, h⟩ := exists_runs cs
    rw [h.filledFields_eq]
    exact h
  · exact Runs.filledFields_eq

theorem filledFields_eq_nil_iff : filledFields cs = [] ↔ Colons cs := by
  rw [filledFields_eq_iff]
  constructor
  · intro h
    cases h with
    | none hcolons => exact hcolons
  · exact .none

theorem of_mem_filledFields (h : part ∈ filledFields cs) : part ≠ [] ∧ ':' ∉ part := by
  obtain ⟨hmem, hne⟩ := List.mem_filter.mp h
  exact ⟨by simpa using hne, notMem_of_mem_fields hmem⟩

end Parts

/-! ## Pieces of the expected shape -/

/-- The parts are the text before the first colon, alone or with the text after that
colon. -/
inductive HostPort (piece : List Char) : List (List Char) → Prop
  | alone {host rest} : piece = host ++ rest → ':' ∉ host → (∀ c ∈ rest.head?, c = ':') →
      HostPort piece [host]
  | withPort {host port} : piece = host ++ ':' :: port → ':' ∉ host → HostPort piece [host, port]

/-- A host, and then colons or a colon and one port. -/
inductive Regular : List Char → Prop
  | alone {host colons} : host ≠ [] → ':' ∉ host → Colons colons → Regular (host ++ colons)
  | withPort {host port} : host ≠ [] → ':' ∉ host → port ≠ [] → ':' ∉ port →
      Regular (host ++ ':' :: port)

section Shape

variable {piece colons host port rest : List Char} {parts : List (List Char)}

theorem filledFields_alone (hne : host ≠ []) (hplain : ':' ∉ host) (hcolons : Colons colons) :
    filledFields (host ++ colons) = [host] := by
  rw [filledFields_run hne hplain fun c hc => hcolons c (List.mem_of_mem_head? hc),
    filledFields_eq_nil_iff.mpr hcolons]

theorem filledFields_withPort (hne : host ≠ []) (hplain : ':' ∉ host) (hport : port ≠ [])
    (hplainPort : ':' ∉ port) : filledFields (host ++ ':' :: port) = [host, port] := by
  have hstop : ∀ c ∈ (':' :: port).head?, c = ':' := fun c hc => by cases hc; rfl
  have halone := @filledFields_alone [] port hport hplainPort fun c hc => absurd hc List.not_mem_nil
  rw [List.append_nil] at halone
  rw [filledFields_run hne hplain hstop, filledFields_colon, halone]

/-- **The parts are a host, or a host and a port, in the pieces of the expected shape only.** -/
theorem hostPort_filledFields_iff : HostPort piece (filledFields piece) ↔ Regular piece := by
  constructor
  · intro h
    generalize hparts : filledFields piece = parts at h
    have hfilled : ∀ part ∈ parts, part ≠ [] ∧ ':' ∉ part := by
      rw [← hparts]
      exact fun part => of_mem_filledFields
    cases h with
    | @alone host rest hpiece hplain hstop =>
      subst hpiece
      have hne := (hfilled host List.mem_cons_self).1
      rw [filledFields_run hne hplain hstop] at hparts
      exact .alone hne hplain (filledFields_eq_nil_iff.mp (List.cons.inj hparts).2)
    | @withPort host port hpiece hplain =>
      subst hpiece
      have hport := hfilled port (List.mem_cons_of_mem host List.mem_cons_self)
      exact .withPort (hfilled host List.mem_cons_self).1 hplain hport.1 hport.2
  · intro h
    cases h with
    | alone hne hplain hcolons =>
      rw [filledFields_alone hne hplain hcolons]
      exact .alone rfl hplain fun c hc => hcolons c (List.mem_of_mem_head? hc)
    | withPort hne hplain hport hplainPort =>
      rw [filledFields_withPort hne hplain hport hplainPort]
      exact .withPort rfl hplain

end Shape

/-! ## Entries -/

namespace ServerEntry

variable {piece : List Char} {e : ServerEntry}

theorem map_ofList_eq_iff {parts : List (List Char)} {texts : List String} :
    parts.map String.ofList = texts ↔ parts = texts.map String.toList := by
  constructor
  · rintro rfl
    simp [Function.comp_def]
  · rintro rfl
    simp [Function.comp_def]

theorem ofParts?_eq_some_iff {texts : List String} : ofParts? texts = some e ↔ texts = e.parts := by
  obtain ⟨host, further⟩ := e
  cases texts with
  | nil => exact ⟨nofun, nofun⟩
  | cons first others => simp [ofParts?, parts]

theorem parse?_eq_some_iff :
    parse? piece = some e ↔ filledFields piece = e.parts.map String.toList :=
  ofParts?_eq_some_iff.trans map_ofList_eq_iff

theorem parse?_eq_none_iff : parse? piece = none ↔ Colons piece := by
  rw [← filledFields_eq_nil_iff]
  show ofParts? ((filledFields piece).map String.ofList) = none ↔ _
  cases filledFields piece with
  | nil => exact ⟨fun _ => rfl, fun _ => rfl⟩
  | cons host further => exact ⟨nofun, nofun⟩

end ServerEntry

namespace ServerList

/-- The trimmed pieces between the commas of a list, without those that hold nothing
but colons. -/
def pieces (text : String) : List (List Char) :=
  ((fields ',' text.toList).map trim).filter fun piece => piece.any (· != ':')

variable {text : String} {piece : List Char}

theorem any_ne_colon_iff : (piece.any (· != ':')) = true ↔ ¬ Colons piece := by
  simp [Colons]

/-- A blank piece gives no entry, and neither does one of colons. -/
theorem parse_eq_filterMap : parse text = (pieces text).filterMap ServerEntry.parse? := by
  unfold parse pieces entries
  rw [List.filterMap_filter, List.filterMap_filter]
  refine List.filterMap_congr fun piece _ => ?_
  by_cases hcolons : Colons piece
  · rw [ServerEntry.parse?_eq_none_iff.mpr hcolons, ite_self, ite_self]
  · have hne : (!piece.isEmpty) = true := by
      rw [Bool.not_eq_true', List.isEmpty_eq_false_iff]
      rintro rfl
      exact hcolons fun c hc => absurd hc List.not_mem_nil
    rw [if_pos hne, if_pos (any_ne_colon_iff.mpr hcolons)]

/-- Each piece gives one entry, in order. -/
theorem forall₂_pieces (text : String) :
    List.Forall₂ (fun piece e => ServerEntry.parse? piece = some e) (pieces text) (parse text) := by
  have hall : ∀ piece ∈ pieces text, ¬ Colons piece := fun piece hmem =>
    any_ne_colon_iff.mp (List.mem_filter.mp hmem).2
  rw [parse_eq_filterMap]
  generalize pieces text = ps at hall
  induction ps with
  | nil => exact .nil
  | cons piece rest ih =>
    obtain ⟨hpiece, hrest⟩ := List.forall_mem_cons.mp hall
    obtain ⟨e, he⟩ := Option.ne_none_iff_exists'.mp (mt ServerEntry.parse?_eq_none_iff.mp hpiece)
    rw [List.filterMap_cons_some he]
    exact .cons he (ih hrest)

theorem head?_parse (h : (pieces text).head? = some piece) :
    (parse text).head? = ServerEntry.parse? piece := by
  obtain ⟨rest, hpieces⟩ := List.head?_eq_some_iff.mp h
  have hentries := forall₂_pieces text
  rw [hpieces, List.forall₂_cons_left_iff] at hentries
  obtain ⟨e, others, he, _, hparse⟩ := hentries
  rw [hparse, he]
  rfl

theorem head?_parse_alone {host colons : List Char} (hne : host ≠ []) (hplain : ':' ∉ host)
    (hcolons : Colons colons) (h : (pieces text).head? = some (host ++ colons)) :
    (parse text).head? = some ⟨String.ofList host, []⟩ := by
  rw [head?_parse h, ServerEntry.parse?_eq_some_iff, filledFields_alone hne hplain hcolons]
  simp [ServerEntry.parts]

theorem head?_parse_withPort {host port : List Char} (hne : host ≠ []) (hplain : ':' ∉ host)
    (hport : port ≠ []) (hplainPort : ':' ∉ port)
    (h : (pieces text).head? = some (host ++ ':' :: port)) :
    (parse text).head? = some ⟨String.ofList host, [String.ofList port]⟩ := by
  rw [head?_parse h, ServerEntry.parse?_eq_some_iff,
    filledFields_withPort hne hplain hport hplainPort]
  simp [ServerEntry.parts]

end ServerList

/-- The host of the first entry is entered twice. -/
theorem Resolver.get?_finalForm_of_first {r : Resolver} {overrides : Overrides}
    {values : NameMap (Option String)} {ttl : Option Nat} {first : ServerEntry}
    (h : (serversOf values).head? = some first) :
    ∀ name ∈ ["server", "ca_server"],
      (r.finalForm overrides values ttl).get? name = some (some (.text first.host)) := by
  intro name hname
  rw [get?_finalForm_host (by simpa using hname), h]
  rfl

/-- **Entries have their parts in the right places where the pieces are regular.**

* A list falls at its commas in one way. Each trimmed piece with more than colons
  gives one entry, in order, whose parts are the runs without a colon. They are the
  text before the first colon, or that and the text after it, iff the piece is a
  host and then colons or a colon and one port.
* After resolving, a first piece of a host and colons has entered the host as the
  server and the certificate authority, and left their services alone. One of a
  host and a port has entered the port as both services as well. -/
theorem servers_of_regular_pieces (text : String) (r : Resolver) (overrides : Overrides) :
    (∃ raw : List (List Char),
      (∀ raw', raw' ≠ [] ∧ (∀ field ∈ raw', ',' ∉ field) ∧ joinFields [','] raw' = text.toList ↔
        raw' = raw) ∧
      ServerList.pieces text =
        (raw.map trim).filter (fun piece => piece.any (· != ':')) ∧
      List.Forall₂ (fun piece e => Runs piece (e.parts.map String.toList) ∧
          (HostPort piece (e.parts.map String.toList) ↔ Regular piece))
        (ServerList.pieces text) (ServerList.parse text)) ∧
    ∀ resolution : Resolution, (r.resolve overrides).result = .ok resolution →
      ∃ t values list, r.templates overrides = .ok t ∧ values = (interpolateAll t).values ∧
        list = (values.get? "server_list").join.getD "" ∧
        resolution.settings.get? "server_list" =
          some (some (.servers (ServerList.parse list))) ∧
        (∀ host colons, host ≠ [] → ':' ∉ host → Colons colons →
          (ServerList.pieces list).head? = some (host ++ colons) →
          (∀ name ∈ ["server", "ca_server"],
            resolution.settings.get? name = some (some (.text (String.ofList host)))) ∧
          ∀ name ∈ ["masterport", "ca_port"], resolution.settings.Keeps values name) ∧
        ∀ host port, host ≠ [] → ':' ∉ host → port ≠ [] → ':' ∉ port →
          (ServerList.pieces list).head? = some (host ++ ':' :: port) →
          (∀ name ∈ ["server", "ca_server"],
            resolution.settings.get? name = some (some (.text (String.ofList host)))) ∧
          ∀ name ∈ ["masterport", "ca_port"],
            resolution.settings.get? name = some (some (.text (String.ofList port))) := by
  constructor
  · refine ⟨fields ',' text.toList, fun raw' => ?_, rfl, ?_⟩
    · rw [← fields_eq_iff]
      exact eq_comm
    · refine (ServerList.forall₂_pieces text).imp fun piece e he => ?_
      rw [ServerEntry.parse?_eq_some_iff] at he
      rw [← he]
      exact ⟨filledFields_eq_iff.mp rfl, hostPort_filledFields_iff⟩
  · intro resolution h
    obtain ⟨t, ttl, problems, ht, -, hsettings, -⟩ := Resolver.result_resolve_eq_ok h
    refine ⟨t, _, _, ht, rfl, rfl, ?_, ?_, ?_⟩
    all_goals rw [hsettings]
    · exact Resolver.get?_finalForm_list
    · intro host colons hne hplain hcolons hpiece
      have hfirst := ServerList.head?_parse_alone hne hplain hcolons hpiece
      refine ⟨Resolver.get?_finalForm_of_first hfirst, fun name hname => ?_⟩
      rw [Settings.Keeps, Resolver.get?_finalForm_service (by simpa using hname), serversOf, hfirst]
      rfl
    · intro host port hne hplain hport hplainPort hpiece
      have hfirst := ServerList.head?_parse_withPort hne hplain hport hplainPort hpiece
      refine ⟨Resolver.get?_finalForm_of_first hfirst, fun name hname => ?_⟩
      rw [Resolver.get?_finalForm_service (by simpa using hname), serversOf, hfirst]
      rfl

/-- An entry of three parts, and a port in the place of a host. -/
theorem parse_irregular_pieces :
    ServerList.parse "a:b:c" = [⟨"a", ["b", "c"]⟩] ∧ ServerList.parse ":8140" = [⟨"8140", []⟩] := by
  decide +kernel

end CaSettings
