import CaSettings.Path

/-!
# Files

`FileTree` records what a machine has on its disks, by the names that lead from the
root to it, and where its working directory is. Looking up a path follows its
components one after the other, from the root or from the working directory. A symbolic
link is replaced by the path that it stands for, at most `maxLinks` times. Everywhere
on the way the system may refuse to go on, for whatever reason (`FileTree.refusal?`).

* **`FileTree.place`** is where a path leads, or why it leads nowhere: the component
  that is missing, behind a file, too long, or refused decides, whichever comes first;
* **`FileTree.read`** is the content of a file, **`FileTree.exists?`** says whether
  anything is there;
* **`FileTree.put`** and **`FileTree.remove`** change the tree.
-/

namespace CaSettings

/-- The names that lead from the root to a file or directory. -/
abbrev Place := List String

/-- What is found at a place. -/
inductive FileEntry
  | directory
  | file (content : List UInt8)
  /-- A symbolic link, with the text of the path that it stands for. -/
  | link (target : String)
deriving DecidableEq

/-- What a system is asked to do at a place. -/
inductive Access
  /-- Tell what is there. -/
  | find
  /-- Go on from there: look up a name in a directory, or follow a link. -/
  | pass
  /-- Read what is there. -/
  | read
deriving DecidableEq

/-- Why a path gives no content. -/
inductive PathError
  /-- No path holds the character NUL. -/
  | nul
  /-- The file system refuses the path. -/
  | refused (cause : FileError)
deriving DecidableEq

/-- What a machine has on its disks. -/
structure FileTree where
  entries : List (Place × FileEntry)
  /-- What the system refuses to do, and why. -/
  refusals : List ((Access × Place) × FileError)
  /-- The working directory, which is there with all directories above it. -/
  workDir : Place

namespace FileTree

/-- The greatest length of a component, in bytes. -/
def maxComponent : Nat := 255

/-- The greatest length of a path, in bytes. -/
def maxPath : Nat := 4095

/-- The greatest number of links that are followed on one path. -/
def maxLinks : Nat := 40

/-- A working directory with nothing in it and nothing beside it. -/
def empty (workDir : Place) : FileTree := ⟨[], [], workDir⟩

/-! ## Looking up -/

/-- What is at a place. -/
def entry? (t : FileTree) (place : Place) : Option FileEntry :=
  if place.isPrefixOf t.workDir then some .directory else t.entries.lookup place

/-- Why the system refuses to do something at a place, if it does. -/
def refusal? (t : FileTree) (access : Access) (place : Place) : Option FileError :=
  t.refusals.lookup (access, place)

/-- The place one component further. At the root, `..` is the root. -/
def step (t : FileTree) (place : Place) (name : String) : Except FileError Place :=
  if t.entry? place ≠ some .directory then .error .notDirectory
  else
    match t.refusal? .pass place with
    | some cause => .error cause
    | none =>
      if name = "." then .ok place
      else if name = ".." then .ok place.dropLast
      else if maxComponent < name.utf8ByteSize then .error .nameTooLong
      else
        let next := place ++ [name]
        match t.refusal? .find next with
        | some cause => .error cause
        | none => if (t.entry? next).isSome then .ok next else .error .notFound

/-- Where components lead from a place, if `jump` tells where the first link on the way
and the components behind it lead. -/
def follow (t : FileTree) (jump : Place → String → List String → Except FileError Place)
    (place : Place) : List String → Except FileError Place
  | [] => .ok place
  | name :: rest =>
    match t.step place name with
    | .error cause => .error cause
    | .ok next =>
      match t.entry? next with
      | some (.link target) => jump next target rest
      | _ => t.follow jump next rest

/-- Where the path starts that a link stands for. -/
def linkOrigin (link : Place) (target : String) : Place :=
  if target.toList.head? = some '/' then [] else link.dropLast

/-- The components of the path that a link stands for. A slash at the end asks for a
directory, as a single dot does. -/
def linkComponents (target : String) : List String :=
  let cs := target.toList
  let names := ((Text.fields '/' cs).map String.ofList).filter (· ≠ "")
  if cs.getLast? = some '/' then names ++ ["."] else names

/-- Where components lead from a place over a limited number of links. -/
def walk (t : FileTree) : Nat → Place → List String → Except FileError Place
  | 0 => t.follow fun _ _ _ => .error .tooManyLinks
  | links + 1 => t.follow fun link target rest =>
    match t.refusal? .pass link with
    | some cause => .error cause
    | none => t.walk links (linkOrigin link target) (linkComponents target ++ rest)

/-- Where a path starts. -/
def origin (t : FileTree) (path : Path) : Place :=
  if path.anchor = .relative then t.workDir else []

/-- Where a path leads. -/
def place (t : FileTree) (path : Path) : Except PathError Place :=
  let text := path.render
  if holdsNul text then .error .nul
  else if maxPath < text.utf8ByteSize then .error (.refused .nameTooLong)
  else (t.walk maxLinks (t.origin path) path.components).mapError .refused

/-- What reading what is at a place gives. -/
def contentAt (t : FileTree) (place : Place) : Except FileError (List UInt8) :=
  match t.refusal? .read place, t.entry? place with
  | some cause, _ => .error cause
  | none, some (.file content) => .ok content
  | none, _ => .error .isDirectory

/-- The content of a file. -/
def read (t : FileTree) (path : Path) : Except PathError (List UInt8) :=
  match t.place path with
  | .error e => .error e
  | .ok place => (t.contentAt place).mapError .refused

/-- Whether anything is at a path. What keeps the system from telling is a failure,
unless it means that nothing is there. -/
def exists? (t : FileTree) (path : Path) : Except Failure Bool :=
  match t.place path with
  | .ok _ => .ok true
  | .error .nul => .ok false
  | .error (.refused cause) =>
    if cause.meansAbsence then .ok false else .error (.fileSystem path.render cause)

/-! ## Changing -/

/-- The place that components stand for: they are followed as far as they lead
somewhere, and name what is not there yet from then on. -/
def reach (t : FileTree) (place : Place) : List String → Place
  | [] => place
  | name :: rest =>
    match t.walk maxLinks place [name] with
    | .ok next => t.reach next rest
    | .error _ => t.reach (if name = ".." then place.dropLast else place ++ [name]) rest

/-- The place where an entry with the given path is put. -/
def destination (t : FileTree) (path : Path) : Place := t.reach (t.origin path) path.components

/-- The place of what a path names; at its end, that is a link itself. -/
def named (t : FileTree) (path : Path) : Place :=
  let parent := t.reach (t.origin path) path.components.dropLast
  let own := parent ++ path.components.getLast?.toList
  match t.entry? own with
  | some (.link _) => own
  | _ => t.destination path

/-- The tree with an entry at a place, and with the directories above it. A directory
gives way to nothing, and nothing gives way to a directory. -/
def put (t : FileTree) (place : Place) (entry : FileEntry) : FileTree :=
  if t.entry? place = some .directory ∨ (t.entry? place).isSome ∧ entry = .directory then t
  else
    let parents := (List.range place.length).map place.take
    let missing := parents.filter fun parent => (t.entry? parent).isNone
    let others := t.entries.filter fun other => other.1 != place
    { t with entries := others ++ missing.map (·, .directory) ++ [(place, entry)] }

/-- The tree without the entry at a place and all below it. -/
def remove (t : FileTree) (place : Place) : FileTree :=
  { t with
    entries := t.entries.filter fun other => !place.isPrefixOf other.1
    refusals := t.refusals.filter fun other => !place.isPrefixOf other.1.2 }

end FileTree

end CaSettings
