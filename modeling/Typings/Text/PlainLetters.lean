/-!
# Plain letters

Some letters are only another shape of letters in ASCII: wide ones, raised and lowered ones, those
of mathematical alphabets, and several letters in one.

* `Text.plainLetters`, `Text.plainName`: the letters of ASCII that a letter and a name stand for.
-/

namespace Typings
namespace Text

/-- First and last code point of each run of such letters, with the letter that the first one stands
for; those behind it stand for the letters that follow. -/
def letterRuns : List (Nat × Nat × Char) :=
  [(0xAA, 0xAA, 'a'), (0xBA, 0xBA, 'o'), (0x17F, 0x17F, 's'), (0x2B0, 0x2B0, 'h'),
   (0x2B2, 0x2B2, 'j'), (0x2B3, 0x2B3, 'r'), (0x2B7, 0x2B7, 'w'), (0x2B8, 0x2B8, 'y'),
   (0x2E1, 0x2E1, 'l'), (0x2E2, 0x2E2, 's'), (0x2E3, 0x2E3, 'x'), (0x1D2C, 0x1D2C, 'A'),
   (0x1D2E, 0x1D2E, 'B'), (0x1D30, 0x1D31, 'D'), (0x1D33, 0x1D3A, 'G'), (0x1D3C, 0x1D3C, 'O'),
   (0x1D3E, 0x1D3E, 'P'), (0x1D3F, 0x1D3F, 'R'), (0x1D40, 0x1D41, 'T'), (0x1D42, 0x1D42, 'W'),
   (0x1D43, 0x1D43, 'a'), (0x1D47, 0x1D47, 'b'), (0x1D48, 0x1D49, 'd'), (0x1D4D, 0x1D4D, 'g'),
   (0x1D4F, 0x1D4F, 'k'), (0x1D50, 0x1D50, 'm'), (0x1D52, 0x1D52, 'o'), (0x1D56, 0x1D56, 'p'),
   (0x1D57, 0x1D58, 't'), (0x1D5B, 0x1D5B, 'v'), (0x1D62, 0x1D62, 'i'), (0x1D63, 0x1D63, 'r'),
   (0x1D64, 0x1D65, 'u'), (0x1D9C, 0x1D9C, 'c'), (0x1DA0, 0x1DA0, 'f'), (0x1DBB, 0x1DBB, 'z'),
   (0x2071, 0x2071, 'i'), (0x207F, 0x207F, 'n'), (0x2090, 0x2090, 'a'), (0x2091, 0x2091, 'e'),
   (0x2092, 0x2092, 'o'), (0x2093, 0x2093, 'x'), (0x2095, 0x2095, 'h'), (0x2096, 0x2099, 'k'),
   (0x209A, 0x209A, 'p'), (0x209B, 0x209C, 's'), (0x2102, 0x2102, 'C'), (0x210A, 0x210A, 'g'),
   (0x210B, 0x210B, 'H'), (0x210C, 0x210C, 'H'), (0x210D, 0x210D, 'H'), (0x210E, 0x210E, 'h'),
   (0x2110, 0x2110, 'I'), (0x2111, 0x2111, 'I'), (0x2112, 0x2112, 'L'), (0x2113, 0x2113, 'l'),
   (0x2115, 0x2115, 'N'), (0x2119, 0x211B, 'P'), (0x211C, 0x211C, 'R'), (0x211D, 0x211D, 'R'),
   (0x2124, 0x2124, 'Z'), (0x2128, 0x2128, 'Z'), (0x212A, 0x212A, 'K'), (0x212C, 0x212D, 'B'),
   (0x212F, 0x212F, 'e'), (0x2130, 0x2131, 'E'), (0x2133, 0x2133, 'M'), (0x2134, 0x2134, 'o'),
   (0x2139, 0x2139, 'i'), (0x2145, 0x2145, 'D'), (0x2146, 0x2147, 'd'), (0x2148, 0x2149, 'i'),
   (0x2160, 0x2160, 'I'), (0x2164, 0x2164, 'V'), (0x2169, 0x2169, 'X'), (0x216C, 0x216C, 'L'),
   (0x216D, 0x216E, 'C'), (0x216F, 0x216F, 'M'), (0x2170, 0x2170, 'i'), (0x2174, 0x2174, 'v'),
   (0x2179, 0x2179, 'x'), (0x217C, 0x217C, 'l'), (0x217D, 0x217E, 'c'), (0x217F, 0x217F, 'm'),
   (0x2C7C, 0x2C7C, 'j'), (0x2C7D, 0x2C7D, 'V'), (0xA7F2, 0xA7F2, 'C'), (0xA7F3, 0xA7F3, 'F'),
   (0xA7F4, 0xA7F4, 'Q'), (0xFF21, 0xFF3A, 'A'), (0xFF41, 0xFF5A, 'a'), (0x107A5, 0x107A5, 'q')]

/-- Several letters in one. -/
def joinedLetters : List (Nat × String) :=
  [(0x132, "IJ"), (0x133, "ij"), (0x1C7, "LJ"), (0x1C8, "Lj"), (0x1C9, "lj"), (0x1CA, "NJ"),
   (0x1CB, "Nj"), (0x1CC, "nj"), (0x1F1, "DZ"), (0x1F2, "Dz"), (0x1F3, "dz"), (0x2161, "II"),
   (0x2162, "III"), (0x2163, "IV"), (0x2165, "VI"), (0x2166, "VII"), (0x2167, "VIII"),
   (0x2168, "IX"), (0x216A, "XI"), (0x216B, "XII"), (0x2171, "ii"), (0x2172, "iii"), (0x2173, "iv"),
   (0x2175, "vi"), (0x2176, "vii"), (0x2177, "viii"), (0x2178, "ix"), (0x217A, "xi"),
   (0x217B, "xii"), (0xFB00, "ff"), (0xFB01, "fi"), (0xFB02, "fl"), (0xFB03, "ffi"),
   (0xFB04, "ffl"), (0xFB05, "st"), (0xFB06, "st")]

/-- The code points of the mathematical alphabets. Each one has the capital letters and then the
small ones; the letters that stand elsewhere leave gaps. -/
def mathematicalLetters : Nat × Nat :=
  (0x1D400, 0x1D6A3)

/-- The letter of a place in an alphabet of capital and small letters. -/
def letterAt (place : Nat) : Char :=
  if place < 26 then Char.ofNat ('A'.toNat + place) else Char.ofNat ('a'.toNat + (place - 26))

/-- The letters of ASCII that a letter stands for, or the character itself. -/
def plainLetters (c : Char) : List Char :=
  let code := c.toNat
  let (first, last) := mathematicalLetters
  if code < 0x80 then [c]
  else if first ≤ code && code ≤ last then [letterAt ((code - first) % 52)]
  else match letterRuns.find? fun (first, last, _) => first ≤ code && code ≤ last with
    | some (first, _, letter) => [Char.ofNat (letter.toNat + (code - first))]
    | none =>
        match joinedLetters.find? fun (joined, _) => joined = code with
        | some (_, letters) => letters.toList
        | none => [c]

/-- A name in plain letters. -/
def plainName (name : String) : String :=
  String.ofList (name.toList.flatMap plainLetters)

end Text
end Typings
