import Typings.Text.CharacterName.AtoB
import Typings.Text.CharacterName.CtoF
import Typings.Text.CharacterName.GtoL
import Typings.Text.CharacterName.MtoQ
import Typings.Text.CharacterName.RtoS
import Typings.Text.CharacterName.TtoZ
import Typings.Text.Hexadecimal

/-!
# Names of characters

A character of Unicode 14 has a name, and some have further ones. Most names stand in tables; those
of ideographs hold the code point, and those of Hangul syllables are put together from sounds.

* `Text.isCharacterName`: whether a text is the name of a character.

Names are read in capital or small letters, but those of unified ideographs and of syllables only in
capital ones.
-/

namespace Typings
namespace Text

/-! ## Names in tables -/

def listedNames : List String :=
  namesFromAToB ++ namesFromCToF ++ namesFromGToL ++ namesFromMToQ ++ namesFromRToS ++ namesFromTToZ

/-- The words of an entry, given those of the name in front of it. -/
def entryWords (previous : List (List Char)) : List Char → List (List Char)
  | [] => previous
  | shared :: words => previous.take ((hexValue? shared).getD 0) ++ words.splitOn ' '

/-- Go on to the name of an entry: whether the words were found, and those of the last name. -/
def step (words : List (List Char)) (found : Bool × List (List Char)) (entry : List Char) :
    Bool × List (List Char) :=
  let name := entryWords found.2 entry
  (found.1 || name = words, name)

/-- Whether words are the name of an entry in some rows. -/
def isListed (words : List (List Char)) (rows : List String) : Bool :=
  (rows.foldl (fun found row => (row.toList.splitOn ',').foldl (step words) found) (false, [])).1

/-! ## Names with code points -/

/-- Whether digits in capital letters write a code point in one of some runs. -/
def isCodeIn (ranges : List (Nat × Nat)) (digits : List Char) : Bool :=
  (digits.length = 4 || digits.length = 5) &&
    digits.all (fun c => (hexValue? c).isSome && !c.isLower) &&
    ranges.any fun range => range.1 ≤ hexNumber digits && hexNumber digits ≤ range.2

/-- The text behind a given one. -/
def behind? (start : String) (text : List Char) : Option (List Char) :=
  if start.toList.isPrefixOf text then some (text.drop start.length) else none

/-- Whether a text names a unified ideograph. -/
def isUnifiedIdeograph (text : List Char) : Bool :=
  (behind? "CJK UNIFIED IDEOGRAPH-" text).any
    (isCodeIn [(0x3400, 0x4DBF), (0x4E00, 0x9FFF), (0x20000, 0x2A6DF), (0x2A700, 0x2B738),
      (0x2B740, 0x2B81D), (0x2B820, 0x2CEA1), (0x2CEB0, 0x2EBE0), (0x30000, 0x3134A)])

/-- The other names with code points: what stands in front of them, and their runs. -/
def codedNames : List (String × List (Nat × Nat)) :=
  [("CJK COMPATIBILITY IDEOGRAPH-", [(0xF900, 0xFA6D), (0xFA70, 0xFAD9), (0x2F800, 0x2FA1D)]),
   ("KHITAN SMALL SCRIPT CHARACTER-", [(0x18B00, 0x18CD5)]),
   ("NUSHU CHARACTER-", [(0x1B170, 0x1B2FB)])]

/-- Whether a text in capital letters is one of the other names with code points. -/
def isCodedName (text : List Char) : Bool :=
  codedNames.any fun (start, ranges) =>
    (behind? start text).any fun digits => digits.head? ≠ some '0' && isCodeIn ranges digits

/-! ## Syllables -/

/-- The sounds that start a syllable. -/
def initialSounds : List String :=
  ["", "G", "GG", "N", "D", "DD", "R", "M", "B", "BB", "S", "SS", "J", "JJ", "C", "K", "T", "P",
   "H"]

/-- The sounds in the middle of a syllable. -/
def middleSounds : List String :=
  ["A", "AE", "YA", "YAE", "EO", "E", "YEO", "YE", "O", "WA", "WAE", "OE", "YO", "U", "WEO", "WE",
   "WI", "YU", "EU", "YI", "I"]

/-- The sounds that end a syllable. -/
def finalSounds : List String :=
  ["", "G", "GG", "GS", "N", "NJ", "NH", "D", "L", "LG", "LM", "LB", "LS", "LT", "LP", "LH", "M",
   "B", "BS", "S", "SS", "NG", "J", "C", "K", "T", "P", "H"]

/-- Whether a text is put together from the three sounds of a syllable. -/
def isSyllable (text : List Char) : Bool :=
  initialSounds.any fun first =>
    (behind? first text).any fun text =>
      middleSounds.any fun middle =>
        (behind? middle text).any fun text => finalSounds.contains (String.ofList text)

/-! ## All names -/

def isCharacterName (name : List Char) : Bool :=
  isUnifiedIdeograph name ||
    (behind? "HANGUL SYLLABLE " name).any isSyllable ||
    isCodedName (name.map Char.toUpper) ||
    isListed ((name.map Char.toUpper).splitOn ' ') listedNames

end Text
end Typings
