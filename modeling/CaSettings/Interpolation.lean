import CaSettings.NameMap
import CaSettings.Template

/-!
# Interpolation of all settings

The templates of a table of settings refer to each other. They are worked off
in passes: a pass takes every template that waits for no other one
(`Progress.isReady`) and replaces its references by the values known before
the pass. A template waits for the settings it refers to, itself left aside,
as long as they are pending.

Passes end when none of the pending templates is ready. What is left then
refers, directly or through others, to a circle of settings; it is replaced
last, against the values known by then.

* **`Progress.pass`** is one pass, **`Progress.run`** several;
* **`interpolateAll`** gives the value of every setting, the problems in the
  order in which they were met, and the settings that were left over.
-/

namespace CaSettings

/-- The templates of settings, in order; `none` for a setting without a value. -/
abbrev Templates := NameMap (Option String)

/-- How far the interpolation of a table has come. -/
structure Progress where
  /-- The values of the templates that are done. -/
  known : NameMap String
  /-- The templates that are not done, in table order. -/
  pending : List (String × String)
  /-- The problems met so far. -/
  problems : List Problem

namespace Progress

/-- Whether a template waits for none of the pending ones but itself. -/
def isReady (pending : List (String × String)) (entry : String × String) : Bool :=
  (references entry.2).all fun name => name == entry.1 || (pending.lookup name).isNone

/-- The pending templates that wait for no other one. -/
def ready (s : Progress) : List (String × String) := s.pending.filter (isReady s.pending)

/-- The pending templates that wait for another one. -/
def waiting (s : Progress) : List (String × String) :=
  s.pending.filter fun entry => !isReady s.pending entry

/-- Replace the references of some templates by what is known; `rest` stays pending. -/
def settle (s : Progress) (entries rest : List (String × String)) : Progress where
  known := s.known.insertAll
    (entries.map fun entry => (entry.1, (interpolate s.known.get? entry.2).1))
  pending := rest
  problems := s.problems ++ entries.flatMap fun entry => (interpolate s.known.get? entry.2).2

/-- Settle the templates that are ready. -/
def pass (s : Progress) : Progress := s.settle s.ready s.waiting

/-- Passes until no template is ready, at most `budget` of them. -/
def run : Nat → Progress → Progress
  | 0, s => s
  | budget + 1, s => if s.ready.isEmpty then s else run budget s.pass

/-- Before the first pass every template is pending. -/
def start (templates : Templates) : Progress where
  known := .empty
  pending := templates.entries.filterMap fun entry => entry.2.map (entry.1, ·)
  problems := []

/-- Settle whatever is left. -/
def finish (s : Progress) : Progress := s.settle s.pending []

end Progress

/-- The outcome of interpolating a table. -/
structure Interpolated where
  /-- The value of every setting, in table order. -/
  values : NameMap (Option String)
  /-- The problems, in the order in which they were met. -/
  problems : List Problem
  /-- The settings that lead to a circle of references, in table order. -/
  circular : List String

/-- Interpolate all settings of a table. Every pass but the last settles at
least one template, so as many passes as there are templates are enough. -/
def interpolateAll (templates : Templates) : Interpolated :=
  let start := Progress.start templates
  let stuck := Progress.run start.pending.length start
  let final := stuck.finish
  { values := templates.map fun name _ => final.known.get? name
    problems := final.problems
    circular := stuck.pending.map Prod.fst }

end CaSettings
