import CaSettings.FileTree
import Mathlib.Data.List.Basic
import Mathlib.Data.List.Infix

/-!
# Looking up paths

A component leads from a directory to a place (`FileTree.Enters`), or is refused there
(`FileTree.Refuses`). Components in a row lead on, over links, until none is left or one
is refused (`FileTree.Leads`); what they end at is a file or a directory
(`Leads.grounded`). `FileTree.Finds` is what a path comes to: a place, or why there is
none. It is what the look-up finds (`place_eq_iff`), and both questions about a path
hang on it:

* `read_eq_refused_iff` — why reading it is refused;
* `exists?_eq_false_iff`, `exists?_eq_error_iff` — when there is nothing, and when the
  system does not tell.
-/

namespace CaSettings.FileTree

/-- A directory in which names can be looked up. -/
structure Open (t : FileTree) (place : Place) : Prop where
  directory : t.entry? place = some .directory
  passable : t.refusal? .pass place = none

/-- A name that an entry of a directory may have. -/
structure EntryName (name : String) : Prop where
  ne_dot : name ≠ "."
  ne_up : name ≠ ".."
  short : name.utf8ByteSize ≤ maxComponent

/-- A component leads from a directory to a place. -/
inductive Enters (t : FileTree) : Place → String → Place → Prop
  | stay {place} : t.Open place → Enters t place "." place
  | up {place} : t.Open place → Enters t place ".." place.dropLast
  | down {place name entry} : t.Open place → EntryName name →
      t.refusal? .find (place ++ [name]) = none → t.entry? (place ++ [name]) = some entry →
      Enters t place name (place ++ [name])

/-- Why a component leads nowhere from a place. -/
inductive Refuses (t : FileTree) (place : Place) (name : String) : FileError → Prop
  | notDirectory : t.entry? place ≠ some .directory → Refuses t place name .notDirectory
  | closed {cause} : t.entry? place = some .directory → t.refusal? .pass place = some cause →
      Refuses t place name cause
  | nameTooLong : t.Open place → maxComponent < name.utf8ByteSize →
      Refuses t place name .nameTooLong
  | hidden {cause} : t.Open place → EntryName name →
      t.refusal? .find (place ++ [name]) = some cause → Refuses t place name cause
  | notFound : t.Open place → EntryName name → t.refusal? .find (place ++ [name]) = none →
      t.entry? (place ++ [name]) = none → Refuses t place name .notFound

/-- What components come to from a place, over a number of links at most: the place that
they lead to, or why they lead nowhere. -/
inductive Leads (t : FileTree) : Nat → Place → List String → Except FileError Place → Prop
  | here {links place} : Leads t links place [] (.ok place)
  | refused {links place name rest cause} : t.Refuses place name cause →
      Leads t links place (name :: rest) (.error cause)
  | enter {links place name next rest result} : t.Enters place name next →
      (∀ target, t.entry? next ≠ some (.link target)) → Leads t links next rest result →
      Leads t links place (name :: rest) result
  /-- A link is left for the path that it stands for. -/
  | follow {links place name link target rest result} : t.Enters place name link →
      t.entry? link = some (.link target) → t.refusal? .pass link = none →
      Leads t links (linkOrigin link target) (linkComponents target ++ rest) result →
      Leads t (links + 1) place (name :: rest) result
  | barred {links place name link target rest cause} : t.Enters place name link →
      t.entry? link = some (.link target) → t.refusal? .pass link = some cause →
      Leads t (links + 1) place (name :: rest) (.error cause)
  | overrun {place name link target rest} : t.Enters place name link →
      t.entry? link = some (.link target) →
      Leads t 0 place (name :: rest) (.error .tooManyLinks)

/-- What a path comes to. -/
inductive Finds (t : FileTree) (path : Path) : Except PathError Place → Prop
  | nul : holdsNul path.render = true → Finds t path (.error .nul)
  | tooLong : holdsNul path.render = false → maxPath < path.render.utf8ByteSize →
      Finds t path (.error (.refused .nameTooLong))
  | stops {cause} : holdsNul path.render = false → path.render.utf8ByteSize ≤ maxPath →
      t.Leads maxLinks (t.origin path) path.components (.error cause) →
      Finds t path (.error (.refused cause))
  | arrives {place} : holdsNul path.render = false → path.render.utf8ByteSize ≤ maxPath →
      t.Leads maxLinks (t.origin path) path.components (.ok place) → Finds t path (.ok place)

/-- Why what is at a place cannot be read. -/
inductive Unreadable (t : FileTree) (place : Place) : FileError → Prop
  | refused {cause} : t.refusal? .read place = some cause → Unreadable t place cause
  | directory : t.refusal? .read place = none → t.entry? place = some .directory →
      Unreadable t place .isDirectory

variable {t : FileTree} {place next link last : Place} {name target : String}
  {components rest : List String} {links : Nat} {cause : FileError} {path : Path}
  {found : Except PathError Place} {result : Except FileError Place}
  {jump : Place → String → List String → Except FileError Place}

/-! ## One component -/

theorem Open.step_eq (h : t.Open place) : t.step place name =
    if name = "." then .ok place
    else if name = ".." then .ok place.dropLast
    else if maxComponent < name.utf8ByteSize then .error .nameTooLong
    else
      match t.refusal? .find (place ++ [name]) with
      | some cause => .error cause
      | none => if (t.entry? (place ++ [name])).isSome then .ok (place ++ [name])
          else .error .notFound := by
  unfold step
  rewrite [if_neg (not_ne_iff.mpr h.directory), h.passable]
  rfl

theorem EntryName.step_eq (h : EntryName name) (hopen : t.Open place) : t.step place name =
    match t.refusal? .find (place ++ [name]) with
    | some cause => .error cause
    | none => if (t.entry? (place ++ [name])).isSome then .ok (place ++ [name])
        else .error .notFound := by
  rw [hopen.step_eq, if_neg h.ne_dot, if_neg h.ne_up, if_neg (Nat.not_lt_of_le h.short)]

theorem Enters.step_eq (h : t.Enters place name next) : t.step place name = .ok next := by
  cases h with
  | stay hopen => rw [hopen.step_eq, if_pos rfl]
  | up hopen => rw [hopen.step_eq, if_neg (by decide), if_pos rfl]
  | down hopen hname hfind hentry =>
    rw [hname.step_eq hopen, hfind]
    exact if_pos (Option.isSome_of_eq_some hentry)

theorem Refuses.step_eq (h : t.Refuses place name cause) : t.step place name = .error cause := by
  cases h with
  | notDirectory hplace =>
    unfold step
    exact if_pos hplace
  | closed hplace hpass =>
    unfold step
    rw [if_neg (not_ne_iff.mpr hplace), hpass]
  | nameTooLong hopen hlong =>
    have hdot : name ≠ "." := by
      rintro rfl
      exact absurd hlong (by decide)
    have hup : name ≠ ".." := by
      rintro rfl
      exact absurd hlong (by decide)
    rw [hopen.step_eq, if_neg hdot, if_neg hup, if_pos hlong]
  | hidden hopen hname hfind => rw [hname.step_eq hopen, hfind]
  | notFound hopen hname hfind hentry =>
    rw [hname.step_eq hopen, hfind, hentry]
    rfl

/-- In an open directory every component leads on or is refused. -/
theorem Open.enters_or_refuses (h : t.Open place) (name : String) :
    (∃ next, t.Enters place name next) ∨ ∃ cause, t.Refuses place name cause := by
  by_cases hdot : name = "."
  · subst hdot
    exact .inl ⟨_, .stay h⟩
  by_cases hup : name = ".."
  · subst hup
    exact .inl ⟨_, .up h⟩
  by_cases hlong : maxComponent < name.utf8ByteSize
  · exact .inr ⟨_, .nameTooLong h hlong⟩
  have hname : EntryName name := ⟨hdot, hup, Nat.le_of_not_lt hlong⟩
  cases hfind : t.refusal? .find (place ++ [name]) with
  | some cause => exact .inr ⟨_, .hidden h hname hfind⟩
  | none =>
    cases hentry : t.entry? (place ++ [name]) with
    | some entry => exact .inl ⟨_, .down h hname hfind hentry⟩
    | none => exact .inr ⟨_, .notFound h hname hfind hentry⟩

theorem enters_or_refuses (t : FileTree) (place : Place) (name : String) :
    (∃ next, t.Enters place name next) ∨ ∃ cause, t.Refuses place name cause := by
  by_cases hdirectory : t.entry? place = some .directory
  · cases hpass : t.refusal? .pass place with
    | some cause => exact .inr ⟨_, .closed hdirectory hpass⟩
    | none => exact Open.enters_or_refuses ⟨hdirectory, hpass⟩ name
  · exact .inr ⟨_, .notDirectory hdirectory⟩

/-! ## Components in a row -/

theorem follow_of_refuses (h : t.Refuses place name cause) :
    t.follow jump place (name :: rest) = .error cause := by
  rw [follow, h.step_eq]

theorem follow_of_enters (h : t.Enters place name next)
    (hlink : ∀ target, t.entry? next ≠ some (.link target)) :
    t.follow jump place (name :: rest) = t.follow jump next rest := by
  rw [follow, h.step_eq]
  dsimp only
  split
  · rename_i target htarget
    exact absurd htarget (hlink target)
  · rfl

theorem follow_of_link (h : t.Enters place name link)
    (hlink : t.entry? link = some (.link target)) :
    t.follow jump place (name :: rest) = jump link target rest := by
  rw [follow, h.step_eq]
  dsimp only
  rw [hlink]

theorem walk_nil (t : FileTree) (links : Nat) (place : Place) :
    t.walk links place [] = .ok place := by
  cases links <;> rfl

theorem walk_of_refuses (h : t.Refuses place name cause) :
    t.walk links place (name :: rest) = .error cause := by
  cases links <;> exact follow_of_refuses h

theorem walk_of_enters (h : t.Enters place name next)
    (hlink : ∀ target, t.entry? next ≠ some (.link target)) :
    t.walk links place (name :: rest) = t.walk links next rest := by
  cases links <;> exact follow_of_enters h hlink

theorem walk_zero_of_link (h : t.Enters place name link)
    (hlink : t.entry? link = some (.link target)) :
    t.walk 0 place (name :: rest) = .error .tooManyLinks := follow_of_link h hlink

theorem walk_succ_of_link (h : t.Enters place name link)
    (hlink : t.entry? link = some (.link target)) :
    t.walk (links + 1) place (name :: rest) =
      match t.refusal? .pass link with
      | some cause => .error cause
      | none => t.walk links (linkOrigin link target) (linkComponents target ++ rest) :=
  follow_of_link h hlink

theorem Leads.walk_eq (h : t.Leads links place components result) :
    t.walk links place components = result := by
  induction h with
  | here => exact walk_nil ..
  | refused hrefuses => exact walk_of_refuses hrefuses
  | enter henters hlink _ ih => rw [walk_of_enters henters hlink, ih]
  | follow henters hlink hpass _ ih =>
    rw [walk_succ_of_link henters hlink, hpass]
    exact ih
  | barred henters hlink hpass => rw [walk_succ_of_link henters hlink, hpass]
  | overrun henters hlink => exact walk_zero_of_link henters hlink

/-- A link leaves more components than there were, but fewer links to follow. -/
theorem exists_leads (t : FileTree) (links : Nat) (place : Place) (components : List String) :
    ∃ result, t.Leads links place components result := by
  induction links using Nat.strongRecOn generalizing place components with
  | ind links ih =>
    induction components generalizing place with
    | nil => exact ⟨_, .here⟩
    | cons name rest ihrest =>
      obtain ⟨next, henters⟩ | ⟨cause, hrefuses⟩ := t.enters_or_refuses place name
      · by_cases hlink : ∃ target, t.entry? next = some (.link target)
        · obtain ⟨target, htarget⟩ := hlink
          cases links with
          | zero => exact ⟨_, .overrun henters htarget⟩
          | succ links =>
            cases hpass : t.refusal? .pass next with
            | some cause => exact ⟨_, .barred henters htarget hpass⟩
            | none =>
              obtain ⟨result, hleads⟩ := ih links (Nat.lt_succ_self links)
                (linkOrigin next target) (linkComponents target ++ rest)
              exact ⟨result, .follow henters htarget hpass hleads⟩
        · obtain ⟨result, hleads⟩ := ihrest next
          exact ⟨result, .enter henters (not_exists.mp hlink) hleads⟩
      · exact ⟨_, .refused hrefuses⟩

/-- Components come to one thing, which is what the walk finds. -/
theorem walk_eq_iff :
    t.walk links place components = result ↔ t.Leads links place components result := by
  constructor
  · rintro rfl
    obtain ⟨result, hleads⟩ := t.exists_leads links place components
    rw [hleads.walk_eq]
    exact hleads
  · exact Leads.walk_eq

/-! ## Places that are reached -/

/-- A file or a directory is at the place, and every place on the way to it is a directory. -/
structure Grounded (t : FileTree) (place : Place) : Prop where
  above : ∀ front, front <+: place → front ≠ place → t.entry? front = some .directory
  stands : t.entry? place = some .directory ∨ ∃ content, t.entry? place = some (.file content)

theorem directory_of_above (h : place <+: t.workDir) : t.entry? place = some .directory := by
  unfold entry?
  exact if_pos (List.isPrefixOf_iff_prefix.mpr h)

theorem grounded_of_above (h : place <+: t.workDir) : t.Grounded place where
  above := fun _ hfront _ => directory_of_above (hfront.trans h)
  stands := .inl (directory_of_above h)

theorem grounded_origin (t : FileTree) (path : Path) : t.Grounded (t.origin path) := by
  unfold origin
  split
  · exact grounded_of_above (List.prefix_refl _)
  · exact grounded_of_above List.nil_prefix

/-- The directory above a place is grounded as well. -/
theorem Grounded.dropLast (h : t.Grounded place) (hplace : t.entry? place = some .directory) :
    t.Grounded place.dropLast := by
  have hdrop : place.dropLast <+: place := List.dropLast_prefix place
  by_cases hsame : place.dropLast = place
  · rw [hsame]
    exact h
  · refine ⟨fun front hfront _ => h.above front (hfront.trans hdrop) ?_,
      .inl (h.above _ hdrop hsame)⟩
    rintro rfl
    exact hsame (hdrop.eq_of_length_le hfront.length_le)

/-- Below a directory, all places on the way are directories. -/
theorem Grounded.above_down (h : t.Grounded place) (hopen : t.Open place) {front : Place}
    (hfront : front <+: place ++ [name]) (hne : front ≠ place ++ [name]) :
    t.entry? front = some .directory := by
  obtain heq | hbegins := List.prefix_concat_iff.mp hfront
  · exact absurd heq hne
  · by_cases hwhole : front = place
    · rw [hwhole]
      exact hopen.directory
    · exact h.above front hbegins hwhole

theorem Enters.grounded (h : t.Enters place name next) (hplace : t.Grounded place)
    (hlink : ∀ target, t.entry? next ≠ some (.link target)) : t.Grounded next := by
  cases h with
  | stay _ => exact hplace
  | up hopen => exact hplace.dropLast hopen.directory
  | @down _ entry hopen _ _ hentry =>
    refine ⟨fun front => hplace.above_down hopen, ?_⟩
    cases entry with
    | directory => exact .inl hentry
    | file content => exact .inr ⟨content, hentry⟩
    | link target => exact absurd hentry (hlink target)

/-- Where a link is, names lead down from a directory, which the path of the link may
start in. -/
theorem Enters.grounded_linkOrigin (h : t.Enters place name link) (hplace : t.Grounded place)
    (hlink : t.entry? link = some (.link target)) : t.Grounded (linkOrigin link target) := by
  unfold linkOrigin
  split
  · exact grounded_of_above List.nil_prefix
  · cases h with
    | stay hopen =>
      rw [hopen.directory] at hlink
      cases hlink
    | up hopen =>
      have habove := hplace.dropLast hopen.directory
      obtain hdirectory | ⟨content, hfile⟩ := habove.stands
      · exact habove.dropLast hdirectory
      · rw [hfile] at hlink
        cases hlink
    | down _ _ _ _ =>
      rw [List.dropLast_concat]
      exact hplace

/-- Components lead to a file or to a directory. -/
theorem Leads.grounded (h : t.Leads links place components result) (hplace : t.Grounded place) :
    ∀ last, result = .ok last → t.Grounded last := by
  induction h with
  | here =>
    intro last hlast
    cases hlast
    exact hplace
  | enter henters hlink _ ih => exact ih (henters.grounded hplace hlink)
  | follow henters hlink _ _ ih => exact ih (henters.grounded_linkOrigin hplace hlink)
  | refused _ => exact fun _ hlast => nomatch hlast
  | barred _ _ _ => exact fun _ hlast => nomatch hlast
  | overrun _ _ => exact fun _ hlast => nomatch hlast

/-! ## Paths -/

/-- Once the text of a path is found to be in order, its components are followed. -/
theorem place_eq_walk (hnul : holdsNul path.render = false)
    (hshort : path.render.utf8ByteSize ≤ maxPath) :
    t.place path = (t.walk maxLinks (t.origin path) path.components).mapError .refused := by
  unfold place
  dsimp only
  rw [hnul, if_neg Bool.false_ne_true, if_neg (Nat.not_lt_of_le hshort)]

theorem Finds.place_eq (h : t.Finds path found) : t.place path = found := by
  cases h with
  | nul hnul => exact if_pos hnul
  | tooLong hnul hlong =>
    unfold place
    dsimp only
    rw [hnul, if_neg Bool.false_ne_true, if_pos hlong]
  | stops hnul hshort hleads =>
    rw [place_eq_walk hnul hshort, hleads.walk_eq]
    rfl
  | arrives hnul hshort hleads =>
    rw [place_eq_walk hnul hshort, hleads.walk_eq]
    rfl

/-- Every path comes to something. -/
theorem exists_finds (t : FileTree) (path : Path) : ∃ found, t.Finds path found := by
  cases hnul : holdsNul path.render with
  | true => exact ⟨_, .nul hnul⟩
  | false =>
    by_cases hlong : maxPath < path.render.utf8ByteSize
    · exact ⟨_, .tooLong hnul hlong⟩
    · have hshort := Nat.le_of_not_lt hlong
      cases hwalk : t.walk maxLinks (t.origin path) path.components with
      | error cause => exact ⟨_, .stops hnul hshort (walk_eq_iff.mp hwalk)⟩
      | ok place => exact ⟨_, .arrives hnul hshort (walk_eq_iff.mp hwalk)⟩

/-- A path comes to one thing, which is what the look-up finds. -/
theorem place_eq_iff : t.place path = found ↔ t.Finds path found := by
  constructor
  · rintro rfl
    obtain ⟨found, hfound⟩ := t.exists_finds path
    rw [hfound.place_eq]
    exact hfound
  · exact Finds.place_eq

theorem Finds.grounded (h : t.Finds path (.ok place)) : t.Grounded place := by
  cases h with
  | arrives _ _ hleads => exact hleads.grounded (t.grounded_origin path) _ rfl

/-! ## The two questions -/

/-- A file is read unless the system refuses it, and a directory never is. -/
theorem Grounded.contentAt_eq_error_iff (h : t.Grounded place) :
    t.contentAt place = .error cause ↔ t.Unreadable place cause := by
  unfold contentAt
  cases hread : t.refusal? .read place with
  | some cause' =>
    dsimp only
    rw [Except.error.injEq]
    constructor
    · rintro rfl
      exact .refused hread
    · intro hbad
      cases hbad with
      | refused hrefused => exact Option.some.inj (hread.symm.trans hrefused)
      | directory hnone _ => exact nomatch hnone.symm.trans hread
  | none =>
    have hreadable : ∀ cause, t.refusal? .read place ≠ some cause := by
      intro cause hrefused
      exact nomatch hrefused.symm.trans hread
    obtain hentry | ⟨content, hentry⟩ := h.stands
    · rw [hentry]
      dsimp only
      rw [Except.error.injEq]
      constructor
      · rintro rfl
        exact .directory hread hentry
      · intro hbad
        cases hbad with
        | refused hrefused => exact absurd hrefused (hreadable _)
        | directory _ _ => rfl
    · rw [hentry]
      constructor
      · intro hok
        cases hok
      · intro hbad
        cases hbad with
        | refused hrefused => exact absurd hrefused (hreadable _)
        | directory _ hdirectory => exact nomatch hdirectory.symm.trans hentry

/-- **Why reading is refused.** The path leads nowhere, or what is there cannot be read. -/
theorem read_eq_refused_iff :
    t.read path = .error (.refused cause) ↔
      t.Finds path (.error (.refused cause)) ∨
        ∃ place, t.Finds path (.ok place) ∧ t.Unreadable place cause := by
  simp only [← place_eq_iff]
  unfold read
  cases hplace : t.place path with
  | error e => simp
  | ok place =>
    have hgrounded : t.Grounded place := (place_eq_iff.mp hplace).grounded
    simp only [reduceCtorEq, false_or, Except.ok.injEq, exists_eq_left',
      ← hgrounded.contentAt_eq_error_iff]
    cases t.contentAt place <;> simp [Except.mapError]

theorem read_of_nul (h : t.Finds path (.error .nul)) : t.read path = .error .nul := by
  unfold read
  rw [h.place_eq]

/-- **When nothing is there.** The path holds NUL, or what stops it is taken to say so. -/
theorem exists?_eq_false_iff :
    t.exists? path = .ok false ↔
      t.Finds path (.error .nul) ∨
        ∃ cause, t.Finds path (.error (.refused cause)) ∧ cause.meansAbsence = true := by
  simp only [← place_eq_iff]
  unfold exists?
  rcases t.place path with (_ | cause) | place
  · simp
  · cases hmeans : cause.meansAbsence <;> simp [hmeans]
  · simp

/-- **When the system does not tell.** -/
theorem exists?_eq_error_iff {failure : Failure} :
    t.exists? path = .error failure ↔
      ∃ cause, t.Finds path (.error (.refused cause)) ∧ cause.meansAbsence = false ∧
        failure = .fileSystem path.render cause := by
  simp only [← place_eq_iff]
  unfold exists?
  rcases t.place path with (_ | cause) | place
  · simp
  · cases hmeans : cause.meansAbsence with
    | true => simp [hmeans]
    | false => simp [hmeans, eq_comm (a := failure)]
  · simp

end CaSettings.FileTree
