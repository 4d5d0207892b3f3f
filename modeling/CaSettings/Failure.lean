import CaSettings.Text.Quoted

/-!
# What can go wrong

Two kinds of trouble are kept apart:

* a **`Problem`** lies in the content of a configuration: a reference that
  cannot be resolved, a time that cannot be read. Problems are collected next
  to the settings and never stop anything;
* a **`Failure`** stops what is going on: a file that cannot be read, a home
  directory that nobody knows.

Each of them is recorded by its cause; the wording is in `message`.
-/

namespace CaSettings

open Text

/-! ## Problems -/

/-- Trouble in the content of a configuration. -/
inductive Problem
  /-- The text `value` refers to `name`, which has no value. -/
  | unresolved (name value : String)
  /-- The time to live of certificates is no duration. -/
  | badTtl (value : String)
deriving DecidableEq

/-- The wording of a problem. -/
def Problem.message : Problem → String
  | .unresolved name value => s!"Could not resolve ${name} in {value}"
  | .badTtl value => s!"Could not parse ca_ttl value '{value}'"

/-! ## Failures -/

/-- Why a file system refuses something: the number of the error and what the system
calls it. An error that comes up while a content is read does not name the path. -/
structure FileError where
  number : Nat
  text : String
  namesPath : Bool := true
deriving DecidableEq

namespace FileError

def notFound : FileError := ⟨2, "No such file or directory", true⟩

def permissionDenied : FileError := ⟨13, "Permission denied", true⟩

def notDirectory : FileError := ⟨20, "Not a directory", true⟩

def isDirectory : FileError := ⟨21, "Is a directory", true⟩

def nameTooLong : FileError := ⟨36, "File name too long", true⟩

def tooManyLinks : FileError := ⟨40, "Too many levels of symbolic links", true⟩

/-- Whether the error says that a directory lacks an entry. -/
def isMissing (e : FileError) : Bool := e.number == notFound.number

/-- The numbers of the errors that are taken to say that nothing is there: besides a
missing entry, a bad file number (9), a file in the place of a directory, and links
that lead in a circle. -/
def absenceNumbers : List Nat := [notFound.number, 9, notDirectory.number, tooManyLinks.number]

/-- Whether the error is taken to say that nothing is there. -/
def meansAbsence (e : FileError) : Bool := absenceNumbers.contains e.number

theorem meansAbsence_of_isMissing {e : FileError} (h : e.isMissing = true) :
    e.meansAbsence = true := by
  unfold meansAbsence
  rw [eq_of_beq h]
  rfl

/-- The error with its number and the path it is about. -/
def describe (e : FileError) (path : String) : String :=
  let message := s!"[Errno {e.number}] {e.text}"
  if e.namesPath then s!"{message}: {quoted path}" else message

end FileError

/-- The greatest number of decimal digits that are read or written as a number. -/
def maxDigits : Nat := 4300

/-- Why an action stops. -/
inductive Failure
  /-- An entry of the default table is none of the known kinds. -/
  | unsupportedDefault (content : String)
  /-- A number has more than `maxDigits` digits to read. -/
  | tooManyDigits (digits : Nat)
  /-- A number has more than `maxDigits` digits to write. -/
  | numberTooLong
  /-- A path starts with a tilde and no home directory is known for it. -/
  | noHome
  /-- A path holds the character NUL. -/
  | nulInPath
  /-- The configuration file is there and cannot be read. -/
  | unreadable (path : String) (cause : FileError)
  /-- The file system refuses a question about a path. -/
  | fileSystem (path : String) (cause : FileError)
deriving DecidableEq

/-- The wording of a failure. -/
def Failure.message : Failure → String
  | .unsupportedDefault content => s!"Unsupported default spec: {quoted content}"
  | .tooManyDigits digits =>
    s!"Exceeds the limit ({maxDigits} digits) for integer string conversion: " ++
      s!"value has {digits} digits; use sys.set_int_max_str_digits() to increase the limit"
  | .numberTooLong =>
    s!"Exceeds the limit ({maxDigits} digits) for integer string conversion; " ++
      "use sys.set_int_max_str_digits() to increase the limit"
  | .noHome => "Could not determine home directory."
  | .nulInPath => "embedded null byte"
  | .unreadable path cause =>
    s!"Could not read config file {path}: {cause.describe path}"
  | .fileSystem path cause => cause.describe path

end CaSettings
