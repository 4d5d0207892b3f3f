import CaSettings.Proofs.FileTree
import CaSettings.Proofs.Interpolation.Meaning
import CaSettings.Proofs.Loading

/-!
# A configuration file that is not there

To the question whether the file is there the answer is no if the path holds the
character NUL, or if what stops it on its way is taken to say so: a directory that lacks
the next component, something else than a directory in the middle of the path, links that
lead in a circle. Loading takes only the first of these for an empty file and fails
otherwise (`absent_file_is_no_error_iff`), so that a file which is not there can be one
which cannot be read (`load_behind_file`).
-/

namespace CaSettings

variable {t : FileTree} {v : ConfigView} {path : Path} {cause : FileError}
  {content : Except PathError (List UInt8)}

namespace Resolver

/-- No overrides come to settings wherever the host knows its directory: the time to live
is the one of the table. -/
theorem exists_resolution_empty {hooks : Hooks} {dir : String} (hdir : hooks.confdir = .ok dir) :
    ∃ resolution, ((ofHooks hooks).resolve .empty).result = .ok resolution := by
  obtain ⟨t, ht⟩ := templates_ofHooks_isOk hdir .empty
  obtain ⟨value, hvalue, hget⟩ :=
    (isOverlay_of_templates ht).defaulted "ca_ttl" (.literal "5y") rfl rfl
  cases hvalue
  have htext : t.textOf "ca_ttl" = some "5y" := Templates.textOf_eq_some_iff.mpr hget
  have hplain : Tokenless "5y".toList := tokenless_of_notMem (by decide)
  have httl : t.ttlText = some "5y" :=
    congrArg Option.join (get?_interpolateAll_of_tokenless htext hplain)
  obtain ⟨resolution, hresult, -⟩ :=
    result_resolve_of_short ht (.of_ttlText "5y" httl (by decide))
  exact ⟨resolution, hresult⟩

/-- Resolving never tells of a file. -/
theorem result_resolve_ne_unreadable {hooks : Hooks} {dir : String}
    (hdir : hooks.confdir = .ok dir) (overrides : Overrides) (name : String) (cause : FileError) :
    ((ofHooks hooks).resolve overrides).result ≠ .error (.unreadable name cause) := by
  intro herror
  obtain ⟨t, ht⟩ := templates_ofHooks_isOk hdir overrides
  obtain ⟨digits, unit, -, -, hfailure⟩ := (result_resolve_eq_error_iff ht).mp herror
  cases hfailure

end Resolver

namespace ConfigView

theorem textRead_of_missing (h : cause.isMissing = true) :
    textRead path (.error (.refused cause)) = .ok "" := if_pos h

theorem textRead_of_refused (h : cause.isMissing = false) :
    textRead path (.error (.refused cause)) = .error (.unreadable path.render cause) :=
  if_neg (Bool.eq_false_iff.mp h)

/-- A file counts as unreadable iff reading it is refused, and not because it is missing. -/
theorem textRead_eq_unreadable_iff {name : String} :
    textRead path content = .error (.unreadable name cause) ↔
      name = path.render ∧ cause.isMissing = false ∧ content = .error (.refused cause) := by
  rcases content with (_ | cause') | bytes
  · simp [textRead]
  · cases hmissing : cause'.isMissing with
    | true =>
      rw [textRead_of_missing hmissing]
      constructor
      · intro h
        cases h
      · rintro ⟨-, hfound, hcause⟩
        cases hcause
        rw [hmissing] at hfound
        cases hfound
    | false =>
      rw [textRead_of_refused hmissing]
      constructor
      · intro h
        cases h
        exact ⟨rfl, hmissing, rfl⟩
      · rintro ⟨rfl, -, hcause⟩
        cases hcause
        rfl
  · simp [textRead]

/-- A file that is missing is loaded as one that says nothing. -/
theorem result_load_of_missing (h : cause.isMissing = true) :
    (v.load (.error (.refused cause))).result =
      ((Resolver.ofHooks v.hooks).resolve .empty).result.map v.filled := by
  rw [result_load, textRead_of_missing h]
  rfl

theorem result_load_of_textRead_error {failure : Failure}
    (h : textRead v.path content = .error failure) : (v.load content).result = .error failure := by
  rw [result_load, h]
  rfl

/-- Where the host knows its directory, a view is unreadable iff its file is. -/
theorem result_load_eq_unreadable_iff {dir : String} (hdir : v.hooks.confdir = .ok dir)
    {name : String} :
    (v.load content).result = .error (.unreadable name cause) ↔
      name = v.path.render ∧ cause.isMissing = false ∧ content = .error (.refused cause) := by
  rw [← textRead_eq_unreadable_iff]
  constructor
  · intro h
    rw [result_load] at h
    cases hread : textRead v.path content with
    | error failure =>
      rw [hread] at h
      exact congrArg Except.error (Except.error.inj h)
    | ok text =>
      rw [hread] at h
      change ((Resolver.ofHooks v.hooks).resolve (textOverrides text)).result.map v.filled = _ at h
      cases hresolve : ((Resolver.ofHooks v.hooks).resolve (textOverrides text)).result with
      | ok resolution =>
        rw [hresolve] at h
        cases h
      | error failure =>
        rw [hresolve] at h
        cases h
        exact absurd hresolve (Resolver.result_resolve_ne_unreadable hdir _ _ _)
  · exact result_load_of_textRead_error

end ConfigView

/-- What stops a path is what reading it gives. -/
theorem FileTree.Finds.read_eq (h : t.Finds path (.error (.refused cause))) :
    t.read path = .error (.refused cause) := read_eq_refused_iff.mpr (.inl h)

/-- **What becomes of a file that is not there**, for every host that knows its directory.

* The answer that nothing is there is given in three cases. In the first one, what stops
  the path is that an entry is missing, and loading gives what no overrides come to. In
  the second one it is something else that is taken for absence, and the file counts as
  one that cannot be read. In the third one the path holds the character NUL.
* Whatever else stops the path makes the question itself fail.
* A file counts as unreadable iff something stops the path that is no missing entry, or
  what is there cannot be read: it is a directory, or the system refuses it. -/
theorem absent_file_is_no_error_iff (t : FileTree) (v : ConfigView) (dir : String)
    (hdir : v.hooks.confdir = .ok dir) :
    ∃ resolution, ((Resolver.ofHooks v.hooks).resolve .empty).result = .ok resolution ∧
      (t.exists? v.path = .ok false ↔
        (∃ cause, t.Finds v.path (.error (.refused cause)) ∧ cause.isMissing = true ∧
          (v.load (t.read v.path)).result = .ok (v.filled resolution)) ∨
        (∃ cause, t.Finds v.path (.error (.refused cause)) ∧
          cause.meansAbsence = true ∧ cause.isMissing = false ∧
          (v.load (t.read v.path)).result = .error (.unreadable v.path.render cause)) ∨
        (t.Finds v.path (.error .nul) ∧
          (v.load (t.read v.path)).result = .error .nulInPath)) ∧
      (∀ failure, t.exists? v.path = .error failure ↔
        ∃ cause, t.Finds v.path (.error (.refused cause)) ∧ cause.meansAbsence = false ∧
          failure = .fileSystem v.path.render cause) ∧
      ∀ name cause, (v.load (t.read v.path)).result = .error (.unreadable name cause) ↔
        name = v.path.render ∧ cause.isMissing = false ∧
          (t.Finds v.path (.error (.refused cause)) ∨
            ∃ place, t.Finds v.path (.ok place) ∧ t.Unreadable place cause) := by
  obtain ⟨resolution, hresolution⟩ := Resolver.exists_resolution_empty hdir
  refine ⟨resolution, hresolution, ?_, fun failure => FileTree.exists?_eq_error_iff,
    fun name cause => ?_⟩
  · rw [FileTree.exists?_eq_false_iff]
    constructor
    · rintro (hfound | ⟨cause, hfound, hmeans⟩)
      · refine .inr (.inr ⟨hfound, ?_⟩)
        rw [FileTree.read_of_nul hfound]
        exact ConfigView.result_load_of_textRead_error rfl
      · cases hmissing : cause.isMissing with
        | true =>
          refine .inl ⟨cause, hfound, hmissing, ?_⟩
          rw [hfound.read_eq, ConfigView.result_load_of_missing hmissing, hresolution]
          rfl
        | false =>
          refine .inr (.inl ⟨cause, hfound, hmeans, hmissing, ?_⟩)
          exact (ConfigView.result_load_eq_unreadable_iff hdir).mpr ⟨rfl, hmissing, hfound.read_eq⟩
    · rintro (⟨cause, hfound, hmissing, -⟩ | ⟨cause, hfound, hmeans, -⟩ | ⟨hfound, -⟩)
      · exact .inr ⟨cause, hfound, FileError.meansAbsence_of_isMissing hmissing⟩
      · exact .inr ⟨cause, hfound, hmeans⟩
      · exact .inl hfound
  · rw [ConfigView.result_load_eq_unreadable_iff hdir, FileTree.read_eq_refused_iff]

/-! ### Behind a file -/

/-- A working directory with a configuration file, an empty directory, and a link that
leads to itself. -/
def sparseFiles : FileTree :=
  (((FileTree.empty ["srv", "ca"]).put ["srv", "ca", "puppet.conf"] (.file [])).put
    ["srv", "ca", "conf"] .directory).put ["srv", "ca", "circle"] (.link "../ca/circle")

/-- A view of the file that a text names. -/
def namedView (text : String) : ConfigView :=
  .new (Path.parse text) ⟨"ca.example.com", .ok systemConfdir⟩

theorem absent_file_is_no_error_iff_missing :
    ∃ resolution, ((Resolver.ofHooks ⟨"ca.example.com", .ok systemConfdir⟩).resolve .empty).result =
        .ok resolution ∧
      sparseFiles.exists? (Path.parse "/srv/ca/conf/puppet.conf") = .ok false ∧
      ((namedView "/srv/ca/conf/puppet.conf").load
        (sparseFiles.read (Path.parse "/srv/ca/conf/puppet.conf"))).result =
          .ok ((namedView "/srv/ca/conf/puppet.conf").filled resolution) := by
  obtain ⟨resolution, hresolution, habsent, -⟩ :=
    absent_file_is_no_error_iff sparseFiles (namedView "/srv/ca/conf/puppet.conf") systemConfdir rfl
  have hexists : sparseFiles.exists? (Path.parse "/srv/ca/conf/puppet.conf") = .ok false := by
    decide +kernel
  have hread : sparseFiles.read (Path.parse "/srv/ca/conf/puppet.conf") =
      .error (.refused .notFound) := by
    decide +kernel
  refine ⟨resolution, hresolution, hexists, ?_⟩
  rcases habsent.mp hexists with ⟨_, -, -, hload⟩ | ⟨cause, hfound, -, hother, -⟩ | ⟨hfound, -⟩
  · exact hload
  · -- what stops the path is a missing entry
    have hcause : FileError.notFound = cause := by
      have hsame := hread.symm.trans hfound.read_eq
      rw [Except.error.injEq, PathError.refused.injEq] at hsame
      exact hsame
    rw [← hcause] at hother
    exact absurd hother (by decide)
  · cases hread.symm.trans (FileTree.read_of_nul hfound)

/-- Loading a view of a file whose path is stopped, but not by a missing entry. -/
theorem load_namedView {text : String} (h : sparseFiles.read (Path.parse text) =
      .error (.refused cause)) (hcause : cause.isMissing = false) :
    ((namedView text).load (sparseFiles.read (Path.parse text))).result =
      .error (.unreadable (Path.parse text).render cause) := by
  rw [h]
  exact ConfigView.result_load_of_textRead_error (ConfigView.textRead_of_refused hcause)

/-- Nothing is behind a file, in a circle of links, or under a name with NUL; to load any
of them is a failure. -/
theorem load_behind_file :
    sparseFiles.exists? (Path.parse "puppet.conf/x") = .ok false ∧
      ((namedView "puppet.conf/x").load (sparseFiles.read (Path.parse "puppet.conf/x"))).result =
        .error (.unreadable "puppet.conf/x" .notDirectory) ∧
      sparseFiles.exists? (Path.parse "circle") = .ok false ∧
      ((namedView "circle").load (sparseFiles.read (Path.parse "circle"))).result =
        .error (.unreadable "circle" .tooManyLinks) ∧
      sparseFiles.exists? (Path.parse "x\x00") = .ok false ∧
      ((namedView "x\x00").load (sparseFiles.read (Path.parse "x\x00"))).result =
        .error .nulInPath := by
  refine ⟨by decide +kernel, ?_, by decide +kernel, ?_, by decide +kernel, ?_⟩
  · have hrender : (Path.parse "puppet.conf/x").render = "puppet.conf/x" := by decide +kernel
    rw [← hrender]
    exact load_namedView (by decide +kernel) rfl
  · have hrender : (Path.parse "circle").render = "circle" := by decide +kernel
    rw [← hrender]
    exact load_namedView (by decide +kernel) rfl
  · have hread : sparseFiles.read (Path.parse "x\x00") = .error .nul := by decide +kernel
    rw [hread]
    exact ConfigView.result_load_of_textRead_error rfl

end CaSettings
