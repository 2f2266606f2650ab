/-!
# Blank characters and trimming

* `blankRanges` and `isBlank`: the characters that count as white space in descriptions and
  type texts, Unicode white space together with the four separators U+001C to U+001F;
* `trim`, `trimLeft`, `trimRight`: a text without the blanks at its ends;
* `isBlankText`: a text that trims to nothing.

The functions work on `List Char`.
-/

namespace Typings
namespace Text

/-! ## The character class -/

/-- First and last code point of each run of blank characters. -/
def blankRanges : List (Nat × Nat) :=
  [(0x09, 0x0D), (0x1C, 0x20), (0x85, 0x85), (0xA0, 0xA0), (0x1680, 0x1680), (0x2000, 0x200A),
   (0x2028, 0x2029), (0x202F, 0x202F), (0x205F, 0x205F), (0x3000, 0x3000)]

/-- Membership in one of the blank runs. -/
def isBlank (c : Char) : Bool :=
  blankRanges.any fun range => range.1 ≤ c.toNat && c.toNat ≤ range.2

/-! ## Trimming -/

def trimLeft (text : List Char) : List Char :=
  text.dropWhile isBlank

def trimRight (text : List Char) : List Char :=
  (text.reverse.dropWhile isBlank).reverse

def trim (text : List Char) : List Char :=
  trimRight (trimLeft text)

/-- A text of blank characters only, the empty text included. -/
def isBlankText (text : List Char) : Bool :=
  text.all isBlank

/-- Nothing is trimmed in front of a character that is not blank. -/
theorem trimRight_append_cons {c : Char} (front back : List Char) (h : isBlank c = false) :
    trimRight (front ++ c :: back) = front ++ c :: trimRight back := by
  rw [trimRight, List.reverse_append, List.reverse_cons, List.dropWhile_append,
    List.dropWhile_append, trimRight]
  cases back.reverse.dropWhile isBlank with
  | nil => simp [h]
  | cons first rest => simp

end Text
end Typings
