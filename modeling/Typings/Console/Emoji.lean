import Typings.Console.EmojiTable
import Typings.Text.Blank
import Typings.Text.Case
import Typings.Text.Hexadecimal

/-!
# Emoji codes

A code is a name between colons, in capital or small letters, such as `:heart:`. Behind the name
may stand `-emoji` or `-text`, the way in which the emoji is to be shown.

* `Console.emojiOf?`: the emoji of a name;
* `Console.replaceCodes`: a text with its codes replaced; a code without an emoji is kept.
-/

namespace Typings
namespace Console

/-! ## Names -/

/-- The characters that hexadecimal code points between hyphens name. -/
def ofCodePoints (text : List Char) : List Char :=
  (text.splitOn '-').map fun digits => Char.ofNat (Text.hexNumber digits)

/-- The names of emoji with their code points. -/
def emojiEntries : List (String × List Char) :=
  emojiRows.flatMap fun row =>
    (row.toList.splitOn ' ').map fun entry =>
      (String.ofList (entry.takeWhile (· ≠ '=')), (entry.dropWhile (· ≠ '=')).drop 1)

/-- The emoji of a name in small letters. -/
def emojiOf? (name : String) : Option (List Char) :=
  (List.lookup name emojiEntries).map ofCodePoints

/-! ## Codes -/

/-- The ways to show an emoji, each with the character that asks for it. -/
def variants : List (List Char × Char) :=
  [("-emoji:".toList, '\uFE0F'), ("-text:".toList, '\uFE0E')]

structure EmojiCode where
  name : List Char
  variant : Option Char
  /-- The text behind the code. -/
  rest : List Char
deriving DecidableEq, Repr

/-- The shortest code at the front of a text whose first colon is already taken. -/
def takeCode? : List Char → Option EmojiCode
  | [] => none
  | c :: rest =>
      match variants.find? fun variant => variant.1.isPrefixOf (c :: rest) with
      | some (marker, character) => some ⟨[], some character, (c :: rest).drop marker.length⟩
      | none =>
          if c = ':' then some ⟨[], none, rest⟩
          else if Text.isBlank c then none
          else (takeCode? rest).map fun code => { code with name := c :: code.name }

/-- What is shown for a code. -/
def EmojiCode.shown? (code : EmojiCode) : Option (List Char) :=
  (emojiOf? (Text.lower (String.ofList code.name))).map (· ++ code.variant.toList)

/-- A text with its codes replaced, leaving out the first `skip` characters: they belong to a code
that is already dealt with. -/
def replaceCodesFrom : Nat → List Char → List Char
  | _, [] => []
  | skip + 1, _ :: rest => replaceCodesFrom skip rest
  | 0, c :: rest =>
      match if c = ':' then takeCode? rest else none with
      | some code =>
          let length := rest.length - code.rest.length
          code.shown?.getD (c :: rest.take length) ++ replaceCodesFrom length rest
      | none => c :: replaceCodesFrom 0 rest

def replaceCodes (text : List Char) : List Char :=
  replaceCodesFrom 0 text

end Console
end Typings
