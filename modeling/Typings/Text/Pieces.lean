/-!
# Cutting and joining texts

* `lines`: the lines of a text, where CR LF, CR and LF each end a line;
* `unifyLineEnds`: the same text with LF as the only line end;
* `replaceAll`: every occurrence of a pattern replaced, from the left and without overlap;
* `beforeLast`, `afterLast`: a text cut at the last occurrence of a character.
-/

namespace Typings
namespace Text

/-! ## Lines -/

/-- Put a character in front of the first piece. -/
def consPiece (c : Char) : List (List Char) → List (List Char)
  | [] => [[c]]
  | piece :: pieces => (c :: piece) :: pieces

/-- The lines of a text; `n` line ends make `n + 1` lines. -/
def lines : List Char → List (List Char)
  | [] => [[]]
  | '\r' :: '\n' :: rest => [] :: lines rest
  | c :: rest => if c = '\r' ∨ c = '\n' then [] :: lines rest else consPiece c (lines rest)

/-- Line ends of every kind written as LF. -/
def unifyLineEnds (text : List Char) : List Char :=
  ['\n'].intercalate (lines text)

/-- Line ends of every kind written as one blank. -/
def flattenLines (text : List Char) : List Char :=
  [' '].intercalate (lines text)

/-! ## Replacing -/

/-- Replace a pattern, leaving out the first `skip` characters: they belong to an occurrence
that is already replaced. -/
def replaceFrom (pattern replacement : List Char) : Nat → List Char → List Char
  | _, [] => []
  | skip + 1, _ :: rest => replaceFrom pattern replacement skip rest
  | 0, c :: rest =>
      if pattern.isPrefixOf (c :: rest) then
        replacement ++ replaceFrom pattern replacement (pattern.length - 1) rest
      else
        c :: replaceFrom pattern replacement 0 rest

/-- Every occurrence of a non-empty pattern replaced, from the left and without overlap. -/
def replaceAll (pattern replacement : String) (text : String) : String :=
  String.ofList (replaceFrom pattern.toList replacement.toList 0 text.toList)

/-! ## The last occurrence of a character -/

/-- What follows the last occurrence of `mark`, or the whole text when there is none. -/
def afterLast (mark : Char) (text : List Char) : List Char :=
  (text.reverse.takeWhile (· != mark)).reverse

/-- What precedes the last occurrence of `mark`, or nothing when there is none. -/
def beforeLast (mark : Char) (text : List Char) : List Char :=
  ((text.reverse.dropWhile (· != mark)).drop 1).reverse

end Text
end Typings
