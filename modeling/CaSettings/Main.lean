import CaSettings.Cli.Help

/-!
# The command line

The only part of the program that touches the machine: it asks for the facts
about the host, reads the configuration file, and writes what the run comes to.
-/

namespace CaSettings.Cli

/-- The first line of a file of the system; empty if there is none. -/
def firstLine (path : String) : IO String := do
  try
    let text ← IO.FS.readFile path
    return String.ofList (text.toList.takeWhile (· != '\n'))
  catch _ => return ""

/-- The lines of a file of the system in fields; none if there is no such file. -/
def recordsOf (path : String) (separator : String) : IO (List (List String)) := do
  try
    return ((← IO.FS.readFile path).splitOn "\n").map (·.splitOn separator)
  catch _ => return []

/-- The numbers of the real and of the effective user, where the system tells them. -/
def userNumbers : IO (Option (String × String)) := do
  return (← recordsOf "/proc/self/status" "\t").findSome? fun
    | "Uid:" :: real :: effective :: _ => some (real, effective)
    | _ => none

/-- The home directories of the users that the system knows. -/
def thisHomes (real : Option String) : IO Homes := do
  let own ← IO.getEnv "HOME"
  let users ← recordsOf "/etc/passwd" ":"
  let homeWhere := fun (chosen : String → String → Bool) => users.findSome? fun
    | name :: _ :: number :: _ :: _ :: home :: _ => if chosen name number then some home else none
    | _ => none
  return fun user =>
    if user = "" then own.or (homeWhere fun _ number => some number == real)
    else homeWhere fun name _ => name == user

/-- The screen, where the environment tells how wide it is. -/
def thisDisplay : IO Display := do
  let width := ((← IO.getEnv "COLUMNS").bind String.toNat?).getD 80
  return ⟨max 1 width, Nat.le_max_left ..⟩

/-- The facts about the machine. -/
def thisHost : IO Host := do
  let users ← userNumbers
  return {
    euid := users.bind fun numbers => numbers.2.toInt?
    fqdn := ← firstLine "/proc/sys/kernel/hostname"
    homes := ← thisHomes (users.map Prod.fst)
    display := ← thisDisplay }

/-- The part of the environment that matters. -/
def thisEnvironment : IO Environment := do
  match ← IO.getEnv configVariable with
  | none => return .empty
  | some path => return .ofList [(configVariable, path)]

/-- The error of a given number, which comes with either sign. -/
def errorOf (code : UInt32) (details : String) : FileError :=
  let number := min code.toNat (0 - code).toNat
  let known := [FileError.notFound, .permissionDenied, .notDirectory, .isDirectory, .nameTooLong,
    .tooManyLinks]
  (known.find? (·.number = number)).getD ⟨number, details, true⟩

/-- Why the system refuses to read a file. What has no number is an error of the device. -/
def causeOf : IO.Error → FileError
  | .alreadyExists _ code details => errorOf code details
  | .otherError code details => errorOf code details
  | .resourceBusy code details => errorOf code details
  | .resourceVanished code details => errorOf code details
  | .unsupportedOperation code details => errorOf code details
  | .hardwareFault code details => errorOf code details
  | .unsatisfiedConstraints code details => errorOf code details
  | .illegalOperation code details => errorOf code details
  | .protocolError code details => errorOf code details
  | .timeExpired code details => errorOf code details
  | .interrupted _ code details => errorOf code details
  | .noFileOrDirectory _ _ _ => .notFound
  | .invalidArgument _ code details => errorOf code details
  | .permissionDenied _ code details => errorOf code details
  | .resourceExhausted _ code details => errorOf code details
  | .inappropriateType _ code details => errorOf code details
  | .noSuchThing _ code details => errorOf code details
  | .unexpectedEof => ⟨5, "Input/output error", false⟩
  | .userError details => ⟨5, details, false⟩

/-- What reading a file gives. -/
def readContent (path : Path) : IO (Except PathError (List UInt8)) := do
  if holdsNul path.render then return .error .nul
  try
    return .ok (← IO.FS.readBinFile path.render).toList
  catch e => return .error (.refused (causeOf e))

/-- Write what a run comes to, and give the number it ends with. -/
def report : Outcome → IO UInt32
  | .finished output => do
    IO.eprint output.stderr
    match output.stdout with
    | .text content => IO.print content
    | .help page => IO.print page.text
    return output.exitCode.number.toUInt32
  | .misused cause => do
    IO.eprintln s!"Error: {cause.message}"
    return 2
  | .failed cause => do
    IO.eprintln s!"Error: {cause.message}"
    return 1

/-- Run the program. -/
def runProgram (arguments : List String) : IO UInt32 := do
  let host ← thisHost
  match plan arguments host (← thisEnvironment) with
  | .done outcome => report outcome
  | .inspect view command =>
    report (execute host.display.width command (view.load (← readContent view.path)))

end CaSettings.Cli

/-- Run the program on the arguments of the command line. -/
def main (arguments : List String) : IO UInt32 := CaSettings.Cli.runProgram arguments
