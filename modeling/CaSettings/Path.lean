import CaSettings.Failure
import CaSettings.Text.Fields

/-!
# Paths

A path in normal form: how it is anchored, and its components. Reading a path
drops empty components and single dots, so that `a//./b/` is `a/b`; `..`
stays. Two leading slashes are an anchor of their own, three or more are one.

* **`Path.parse`** and **`Path.render`** read and write a path; the path
  without components is `.`;
* **`Path.expandUser`** replaces a leading tilde by a home directory;
* **`Path.child`** is an entry of a directory.
-/

namespace CaSettings

open Text

/-- Whether a text holds the character NUL, which no path of a system does. -/
def holdsNul (text : String) : Bool := text.toList.contains '\x00'

/-- Where a path starts. -/
inductive Anchor
  | relative
  | root
  | doubleRoot
deriving DecidableEq

namespace Anchor

/-- The slashes of an anchor. -/
def text : Anchor → String
  | .relative => ""
  | .root => "/"
  | .doubleRoot => "//"

/-- The anchor of a path. -/
def ofText : List Char → Anchor
  | '/' :: '/' :: '/' :: _ => .root
  | '/' :: '/' :: _ => .doubleRoot
  | '/' :: _ => .root
  | _ => .relative

end Anchor

/-- A path in normal form. -/
structure Path where
  anchor : Anchor
  components : List String
deriving DecidableEq

/-- The home directories of users, by their names. The empty name stands for the user
who runs the program. -/
abbrev Homes := String → Option String

/-- The home directory of the user who runs the program, and no other one. -/
def Homes.own (home : String) : Homes := fun user => if user = "" then some home else none

namespace Path

/-- Read a path. -/
def parse (text : String) : Path where
  anchor := .ofText text.toList
  components := ((fields '/' text.toList).map String.ofList).filter fun part =>
    part != "" && part != "."

/-- Write a path. -/
def render (p : Path) : String :=
  match p.anchor, p.components with
  | .relative, [] => "."
  | anchor, components => anchor.text ++ "/".intercalate components

/-- The entry of a directory of the given name. -/
def child (p : Path) (name : String) : Path := { p with components := p.components ++ [name] }

/-- A home directory without the slashes it ends with; the root if nothing is left. -/
def homePath (home : String) : Path :=
  match (home.toList.reverse.dropWhile (· == '/')).reverse with
  | [] => parse "/"
  | cs => parse (String.ofList cs)

/-- Replace a first component of a relative path that starts with a tilde by the home
directory of the user it names. No user has a name with the character NUL, and a home
directory that itself starts with a tilde is none. -/
def expandUser (homes : Homes) (p : Path) : Except Failure Path :=
  match p.anchor, p.components with
  | .relative, first :: rest =>
    match first.toList with
    | '~' :: user =>
      if user.contains '\x00' then .error .nulInPath
      else
        match homes (String.ofList user) with
        | none => .error .noHome
        | some home =>
          if home.toList.head? = some '~' then .error .noHome
          else
            let base := homePath home
            .ok { base with components := base.components ++ rest }
    | _ => .ok p
  | _, _ => .ok p

end Path

end CaSettings
