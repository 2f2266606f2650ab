import Typings.Text.CharacterName

/-!
# Escapes between quotes

In a text between quotes a backslash starts an escape: a code point in hexadecimal digits, a
character by its name, or a single letter. Bytes know only code points of two digits.

* `Escape.textFault?`, `Escape.bytesFault?`: what is wrong with the escapes of a text and of bytes.

Places in a text count a character beyond ASCII as the ten characters of its escape.
-/

namespace Typings
namespace Console
namespace Literal
namespace Escape

/-! ## Texts -/

/-- The escape of a character by its code point. -/
def ofCode (c : Char) : List Char :=
  '\\' :: 'U' :: Text.hexText 8 c.toNat

/-- A backslash that starts no escape. -/
def plainBackslash : List Char :=
  "\\u005c".toList

/-- A text in ASCII: other characters are written by their code points. -/
def inAscii : List Char → List Char
  | [] => []
  | ['\\'] => plainBackslash
  | '\\' :: c :: rest =>
      if 0x80 ≤ c.toNat then plainBackslash ++ ofCode c ++ inAscii rest
      else '\\' :: c :: inAscii rest
  | c :: rest => if 0x80 ≤ c.toNat then ofCode c ++ inAscii rest else c :: inAscii rest

/-- An escape that means nothing: its place, the place behind the last character that was looked
at, and the reason. -/
structure Fault where
  start : Nat
  stop : Nat
  reason : String
deriving DecidableEq, Repr

def Fault.message (fault : Fault) : String :=
  s!"(unicode error) 'unicodeescape' codec can't decode bytes in position " ++
    s!"{fault.start}-{fault.stop - 1}: {fault.reason}"

/-- The greatest code point. -/
def maxCode : Nat := 0x10FFFF

/-- What is wrong with an escape by a code point, given the text behind its letter. -/
def codeFault? (start width : Nat) (letter : Char) (text : List Char) : Option Fault :=
  let digits := (text.take width).takeWhile fun c => (Text.hexValue? c).isSome
  let stop := start + 2 + digits.length
  if digits.length < width then
    let marks := String.ofList (List.replicate width 'X')
    some ⟨start, stop, s!"truncated \\{letter}{marks} escape"⟩
  else if maxCode < Text.hexNumber digits then some ⟨start, stop, "illegal Unicode character"⟩
  else none

/-- What is wrong with an escape by a name, given the text behind its letter. -/
def nameFault? (start : Nat) (text : List Char) : Option Fault :=
  let malformed (length : Nat) : Option Fault :=
    some ⟨start, start + 2 + length, "malformed \\N character escape"⟩
  match text with
  | '\x7b' :: inner =>
      let name := inner.takeWhile (· ≠ '\x7d')
      if name.length = inner.length then malformed (1 + name.length)
      else if name.isEmpty then malformed 1
      else if Text.isCharacterName name then none
      else some ⟨start, start + 2 + (name.length + 2), "unknown Unicode character name"⟩
  | _ => malformed 0

/-- What is wrong with the first faulty escape of a text in ASCII, from a place on. -/
def faultFrom? (place : Nat) : List Char → Option Fault
  | '\\' :: letter :: rest =>
      let found :=
        if letter = 'x' then codeFault? place 2 letter rest
        else if letter = 'u' then codeFault? place 4 letter rest
        else if letter = 'U' then codeFault? place 8 letter rest
        else if letter = 'N' then nameFault? place rest
        else none
      match found with
      | some fault => some fault
      | none => faultFrom? (place + 2) rest
  | _ :: rest => faultFrom? (place + 1) rest
  | [] => none

/-- What is wrong with the escapes of a text. -/
def textFault? (text : List Char) : Option String :=
  (faultFrom? 0 (inAscii text)).map Fault.message

/-! ## Bytes -/

/-- The place of the first faulty escape of bytes. -/
def bytesFaultFrom? (place : Nat) : List Char → Option Nat
  | '\\' :: letter :: rest =>
      if letter = 'x' && ((rest.take 2).filterMap Text.hexValue?).length < 2 then some place
      else bytesFaultFrom? (place + 2) rest
  | _ :: rest => bytesFaultFrom? (place + 1) rest
  | [] => none

/-- What is wrong with the escapes of bytes. -/
def bytesFault? (text : List Char) : Option String :=
  (bytesFaultFrom? 0 text).map fun place => s!"(value error) invalid \\x escape at position {place}"

end Escape
end Literal
end Console
end Typings
