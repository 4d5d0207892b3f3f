import CaSettings.Conf.Line
import CaSettings.NameMap
import CaSettings.Text.Lines

/-!
# Sections of a configuration file

A configuration file is read line by line. Every setting goes into the section
of the nearest header above it, or into `main` when there is none; a section
may be opened again, and the last setting of a name counts.

* **`Sections.parse`** reads the text of a file;
* **`Sections.caSettings`** are the settings that count for a certificate
  authority: those of `main`, overridden by those of `master`.
-/

namespace CaSettings

open Text

/-- The settings of each section. -/
abbrev Sections := NameMap (NameMap String)

/-- The section of settings above the first header. -/
def mainSection : String := "main"

/-- The section whose settings win over those of `mainSection`. -/
def masterSection : String := "master"

namespace Sections

/-- The settings of a section; none if there is no such section. -/
def settingsOf (s : Sections) (heading : String) : NameMap String :=
  (s.get? heading).getD .empty

/-- Add a section unless it is there. -/
def opened (s : Sections) (heading : String) : Sections :=
  if s.contains heading then s else s.insert heading .empty

/-- Set a key in a section. -/
def set (s : Sections) (heading key value : String) : Sections :=
  s.insert heading ((s.settingsOf heading).insert key value)

end Sections

/-! ## Reading -/

/-- Where the reading of a file stands: the sections so far, and the open one. -/
structure ConfReader where
  sections : Sections
  current : String

namespace ConfReader

/-- Before the first line, `main` is there and open. -/
def start : ConfReader := ⟨Sections.opened .empty mainSection, mainSection⟩

/-- Take in what a line says. -/
def step (r : ConfReader) : ConfLine → ConfReader
  | .silent => r
  | .header name => ⟨r.sections.opened name, name⟩
  | .setting key value => ⟨r.sections.set r.current key value, r.current⟩

end ConfReader

namespace Sections

/-- Read the text of a configuration file. -/
def parse (text : String) : Sections :=
  (((lines text.toList).map ConfLine.read).foldl ConfReader.step .start).sections

/-- The settings of `main`, overridden by those of `master`. -/
def caSettings (s : Sections) : NameMap String :=
  (s.settingsOf mainSection).merge (s.settingsOf masterSection)

end Sections

end CaSettings
