import CaSettings.Failure
import CaSettings.Text.Blank

/-!
# Durations

The time to live of certificates is written as a whole number with a unit:
`90d` or `5y`, seconds when there is no unit. `parseDuration` gives the number
of seconds, or `none` for a text of any other form.

A number may be of any size, but numbers of more than `maxDigits` digits,
leading zeros included, are refused: reading one is a failure, and so is writing
one (`decimalText`).
-/

namespace CaSettings

open Text

/-- A unit of time. -/
inductive TimeUnit
  | second
  | minute
  | hour
  | day
  | year
deriving DecidableEq

namespace TimeUnit

/-- The length of a unit. -/
def seconds : TimeUnit → Nat
  | .second => 1
  | .minute => 60
  | .hour => 60 * 60
  | .day => 60 * 60 * 24
  | .year => 60 * 60 * 24 * 365

/-- The unit that stands after a number; nothing stands for seconds. -/
def ofSuffix? : List Char → Option TimeUnit
  | [] => some .second
  | ['s'] => some .second
  | ['m'] => some .minute
  | ['h'] => some .hour
  | ['d'] => some .day
  | ['y'] => some .year
  | _ => none

end TimeUnit

/-- The number that decimal digits denote. -/
def decimalValue (digits : List Char) : Nat :=
  digits.foldl (fun n d => 10 * n + (d.toNat - '0'.toNat)) 0

/-- A number in decimal digits; numbers of more than `maxDigits` digits are refused. -/
def decimalText (n : Nat) : Except Failure String :=
  let digits := toString n
  if maxDigits < digits.length then .error .numberTooLong else .ok digits

/-- The seconds of a duration; `none` for a text that is no duration. -/
def parseDuration (text : String) : Except Failure (Option Nat) :=
  let cs := trim text.toList
  let digits := cs.takeWhile Char.isDigit
  match digits, TimeUnit.ofSuffix? (cs.dropWhile Char.isDigit) with
  | [], _ => .ok none
  | _, none => .ok none
  | _, some unit =>
    if maxDigits < digits.length then .error (.tooManyDigits digits.length)
    else .ok (some (decimalValue digits * unit.seconds))

end CaSettings
