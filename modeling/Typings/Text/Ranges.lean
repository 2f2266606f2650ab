/-!
# Ranges of characters

A class of characters is a list of runs, each given by its first and last code point.
-/

namespace Typings
namespace Text

/-- Whether the code point of a character lies in one of the runs. -/
def liesIn (ranges : List (Nat × Nat)) (c : Char) : Bool :=
  ranges.any fun range => range.1 ≤ c.toNat && c.toNat ≤ range.2

end Text
end Typings
