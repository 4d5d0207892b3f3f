/-!
# Reading UTF-8

`decodeUtf8` reads bytes as UTF-8 and never fails: the longest piece that
could still have become a character, or a single byte that starts none, is
read as the replacement character U+FFFD.

The reader is a machine with one piece of memory, a character in progress
(`Unfinished`): its bits so far, how many bytes are missing, and the range
that the next byte must lie in. The range is what rules out overlong forms,
surrogates and numbers beyond U+10FFFF.
-/

namespace CaSettings.Text

/-- A character of which some bytes have been read. -/
structure Unfinished where
  bits : Nat
  missing : Nat
  least : Nat
  greatest : Nat

/-- The sign for bytes that are no character. -/
def replacement : Char := '\uFFFD'

/-- What the first byte of a character gives: text, or a character in progress. -/
def readFirst (b : Nat) : List Char × Option Unfinished :=
  if b < 0x80 then ([Char.ofNat b], none)
  else if b < 0xC2 then ([replacement], none)
  else if b < 0xE0 then ([], some ⟨b - 0xC0, 1, 0x80, 0xBF⟩)
  else if b = 0xE0 then ([], some ⟨0, 2, 0xA0, 0xBF⟩)
  else if b = 0xED then ([], some ⟨0xD, 2, 0x80, 0x9F⟩)
  else if b < 0xF0 then ([], some ⟨b - 0xE0, 2, 0x80, 0xBF⟩)
  else if b = 0xF0 then ([], some ⟨0, 3, 0x90, 0xBF⟩)
  else if b < 0xF4 then ([], some ⟨b - 0xF0, 3, 0x80, 0xBF⟩)
  else if b = 0xF4 then ([], some ⟨4, 3, 0x80, 0x8F⟩)
  else ([replacement], none)

/-- What one more byte gives: text and a character in progress. -/
def readByte (state : Option Unfinished) (b : Nat) : List Char × Option Unfinished :=
  match state with
  | none => readFirst b
  | some u =>
    if u.least ≤ b ∧ b ≤ u.greatest then
      let bits := u.bits * 64 + (b - 0x80)
      if u.missing ≤ 1 then ([Char.ofNat bits], none)
      else ([], some ⟨bits, u.missing - 1, 0x80, 0xBF⟩)
    else
      let (text, next) := readFirst b
      (replacement :: text, next)

/-- Read bytes after a character in progress. -/
def decodeFrom : Option Unfinished → List UInt8 → List Char
  | none, [] => []
  | some _, [] => [replacement]
  | state, b :: bs =>
    let (text, next) := readByte state b.toNat
    text ++ decodeFrom next bs

/-- The text that bytes stand for. -/
def decodeUtf8 (bytes : List UInt8) : List Char := decodeFrom none bytes

end CaSettings.Text
