import Typings.Text.Hidden
import Typings.Text.Surrogate

/-!
# Texts quoted in messages

`Text.quoted` puts a text between single quotes, or between double quotes when it holds a single
quote and no double one, with the quote, the backslash and the hidden characters escaped.
-/

namespace Typings
namespace Text

/-- The escape of a code point, as short as it allows. -/
def codeEscape (code : Nat) : List Char :=
  if code ≤ 0xFF then '\\' :: 'x' :: hexText 2 code
  else if code ≤ 0xFFFF then '\\' :: 'u' :: hexText 4 code
  else '\\' :: 'U' :: hexText 8 code

/-- The escape of a hidden character or of a surrogate. -/
def hiddenEscape (c : Char) : List Char :=
  codeEscape ((Surrogate.code? c).getD c.toNat)

/-- A character inside a quoted text. -/
def quotedChar (mark c : Char) : List Char :=
  if c = mark ∨ c = '\\' then ['\\', c]
  else if c = '\n' then ['\\', 'n']
  else if c = '\r' then ['\\', 'r']
  else if c = '\t' then ['\\', 't']
  else if isHidden c then hiddenEscape c
  else [c]

/-- The characters between the quotes. The two characters of a shift are hidden, and so is the
one that they mean. -/
def quotedChars (mark : Char) : List Char → List Char
  | [] => []
  | [c] => quotedChar mark c
  | c :: d :: rest =>
      if c = Surrogate.shift then
        codeEscape (Surrogate.raised d).toNat ++ quotedChars mark rest
      else quotedChar mark c ++ quotedChars mark (d :: rest)

/-- A text between quotes. -/
def quoted (text : String) : String :=
  let chars := text.toList
  let mark := if '\'' ∈ chars ∧ '"' ∉ chars then '"' else '\''
  String.ofList (mark :: (quotedChars mark chars ++ [mark]))

end Text
end Typings
