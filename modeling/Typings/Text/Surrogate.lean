import Typings.Text.Hexadecimal

/-!
# Surrogates without a partner

A JSON escape may write a surrogate that belongs to no pair. A text has to hold it, although it is
no character, and there are not enough characters for all code points. So some make room:

* U+10D800 to U+10DFFF in a text stand for the surrogates U+D800 to U+DFFF;
* these characters themselves, which are for private use, are held as two: U+10FFFF, which shifts
  the character behind it, and the character that lies 0x800 code points below;
* U+10FFFF itself, which is no character of any script, is held in the same way.

All other characters stand for themselves. Where a text comes in as characters, from the bytes of a
file, from the escapes of a string or from outside the program, it is held in this way, and where it
goes out it is released again. In between only counts and escapes of single characters have to tell
the two characters of a shift from others.

* `Surrogate.standIn`, `Surrogate.code?`: the stand-in of a surrogate, and back;
* `Surrogate.hold`, `Surrogate.release`: characters as a text holds them, and back;
  `Surrogate.release_hold` says that nothing is lost, and `Surrogate.code?_of_mem_hold` that no
  character is taken for a surrogate;
* `Surrogate.size`, `Surrogate.next`, `Surrogate.byteSize`: counts of what a text holds;
* `Surrogate.fault?`: the first surrogates of a text, which keep it from being written in UTF-8;
* `Surrogate.replaced`, `Surrogate.escaped`: two ways to print a text all the same.
-/

namespace Typings
namespace Surrogate

/-! ## Stand-ins -/

/-- The distance from a surrogate to its stand-in. -/
def offset : Nat := 0x100000

def isCode (code : Nat) : Bool :=
  0xD800 ≤ code && code < 0xE000

/-- The character that stands for a surrogate. -/
def standIn (code : Nat) : Char :=
  Char.ofNat (offset + code)

/-- The surrogate that a character stands for. -/
def code? (c : Char) : Option Nat :=
  if isCode (c.toNat - offset) then some (c.toNat - offset) else none

theorem code?_eq_none_iff {c : Char} :
    code? c = none ↔ c.toNat < 0x10D800 ∨ 0x10E000 ≤ c.toNat := by
  have hcode : isCode (c.toNat - offset) = true ↔ 0x10D800 ≤ c.toNat ∧ c.toNat < 0x10E000 := by
    rw [isCode, Bool.and_eq_true, decide_eq_true_eq, decide_eq_true_eq, offset]
    omega
  rw [code?, ite_eq_right_iff, hcode]
  simp only [reduceCtorEq, imp_false]
  omega

/-! ## Characters that make room -/

/-- The character that shifts the one behind it. -/
def shift : Char := ⟨0x10FFFF, by decide⟩

/-- How many code points lie between a shifted character and the one that is meant. -/
def distance : Nat := 0x800

/-- A text holds a character as itself unless it has another part there. -/
def isTaken (c : Char) : Bool :=
  (code? c).isSome || c = shift

/-- The character behind a shift. -/
def lowered (c : Char) : Char :=
  Char.ofNat (c.toNat - distance)

/-- The character that is meant by the one behind a shift. -/
def raised (c : Char) : Char :=
  Char.ofNat (c.toNat + distance)

/-- A character as a text holds it. -/
def held (c : Char) : List Char :=
  if isTaken c then [shift, lowered c] else [c]

/-- Characters as a text holds them. -/
def hold (characters : List Char) : List Char :=
  characters.flatMap held

/-- The characters that a text holds. -/
def release : List Char → List Char
  | [] => []
  | [c] => [c]
  | c :: d :: rest =>
      if c = shift then raised d :: release rest else c :: release (d :: rest)

theorem isTaken_iff {c : Char} :
    isTaken c = true ↔ 0x10D800 ≤ c.toNat ∧ c.toNat < 0x10E000 ∨ c = shift := by
  have hcode : (code? c).isSome = true ↔ ¬ code? c = none := by
    cases code? c <;> simp
  rw [isTaken, Bool.or_eq_true, hcode, code?_eq_none_iff, decide_eq_true_eq, not_or, Nat.not_lt,
    Nat.not_le]

theorem toNat_lowered {c : Char} (h : isTaken c = true) : (lowered c).toNat = c.toNat - 0x800 := by
  have hlow : 0x10D800 ≤ c.toNat := by
    rcases isTaken_iff.1 h with ⟨hlow, -⟩ | rfl
    · exact hlow
    · decide
  have hvalid : (c.toNat - distance).isValidChar := by
    have hhigh : c.toNat < 0x110000 := by
      rcases c.valid with hlt | ⟨-, hlt⟩
      · exact Nat.lt_trans hlt (by decide)
      · exact hlt
    refine Or.inr ⟨?_, ?_⟩ <;> simp only [distance] <;> omega
  rw [lowered, Char.ofNat, dif_pos hvalid]
  rfl

theorem raised_lowered {c : Char} (h : isTaken c = true) : raised (lowered c) = c := by
  have hlow : 0x800 ≤ c.toNat := by
    rcases isTaken_iff.1 h with ⟨hlow, -⟩ | rfl
    · exact Nat.le_trans (by decide) hlow
    · decide
  rw [raised, toNat_lowered h, distance, Nat.sub_add_cancel hlow, Char.ofNat_toNat]

theorem release_cons_of_ne {c : Char} {text : List Char} (h : c ≠ shift) :
    release (c :: text) = c :: release text := by
  cases text with
  | nil => rfl
  | cons d rest => rw [release, if_neg h]

/-- Nothing is lost in a text. -/
theorem release_hold (characters : List Char) : release (hold characters) = characters := by
  induction characters with
  | nil => rfl
  | cons c rest ih =>
      rw [hold, List.flatMap_cons, ← hold, held]
      split
      case isTrue htaken =>
        rw [List.cons_append, List.cons_append, List.nil_append, release, if_pos rfl, ih,
          raised_lowered htaken]
      case isFalse hfree =>
        have hne : c ≠ shift := fun heq => hfree (isTaken_iff.2 (Or.inr heq))
        rw [List.cons_append, List.nil_append, release_cons_of_ne hne, ih]

/-- Characters that a text holds stand for no surrogate. -/
theorem code?_of_mem_hold {characters : List Char} {c : Char} (h : c ∈ hold characters) :
    code? c = none := by
  obtain ⟨meant, -, hc⟩ := List.mem_flatMap.1 h
  rw [held] at hc
  split at hc
  case isTrue htaken =>
    rcases List.mem_cons.1 hc with rfl | hlower
    · decide
    · -- what lies below a taken character is not taken
      rw [List.mem_singleton.1 hlower, code?_eq_none_iff, toNat_lowered htaken]
      rcases isTaken_iff.1 htaken with ⟨hlow, hhigh⟩ | rfl
      · omega
      · decide
  case isFalse hfree =>
    rw [List.mem_singleton.1 hc]
    cases hcode : code? meant with
    | none => rfl
    | some code => simp [isTaken, hcode] at hfree

/-! ## Counting -/

/-- How many characters and surrogates a text holds. -/
def size (text : List Char) : Nat :=
  text.countP (· ≠ shift)

/-- The position behind a character. -/
def next (position : Nat) (c : Char) : Nat :=
  if c = shift then position else position + 1

/-- A number of bytes with those of a character in front. -/
def addBytes (c : Char) (size : Nat) : Nat :=
  if c = shift then size else c.utf8Size + size

/-- How many bytes the characters of a text have in UTF-8. -/
def byteSize (text : String) : Nat :=
  text.toList.foldr addBytes 0

theorem foldr_addBytes (text : List Char) (size : Nat) :
    text.foldr addBytes size = text.foldr addBytes 0 + size := by
  induction text with
  | nil => simp
  | cons c rest ih =>
      rw [List.foldr_cons, List.foldr_cons, ih, addBytes, addBytes]
      split
      · rfl
      · rw [Nat.add_assoc]

theorem byteSize_append (front back : String) :
    byteSize (front ++ back) = byteSize front + byteSize back := by
  rw [byteSize, String.toList_append, List.foldr_append, foldr_addBytes, byteSize, byteSize]

/-! ## Writing -/

/-- Surrogates in a row: the first one with its position, and their number. -/
structure Fault where
  position : Nat
  code : Nat
  count : Nat
deriving DecidableEq, Repr

/-- The escape of a surrogate. -/
def escape (code : Nat) : List Char :=
  '\\' :: 'u' :: Text.hexText 4 code

def Fault.message (fault : Fault) : String :=
  let place :=
    if fault.count = 1 then
      s!"character '{String.ofList (escape fault.code)}' in position {fault.position}"
    else
      let last := fault.position + fault.count - 1
      s!"characters in position {fault.position}-{last}"
  s!"'utf-8' codec can't encode {place}: surrogates not allowed"

/-- The first surrogates of a text that starts at a position. -/
def faultFrom? (position : Nat) : List Char → Option Fault
  | [] => none
  | c :: rest =>
      let found := (code? c).map fun code =>
        ⟨position, code, 1 + (rest.takeWhile fun c => (code? c).isSome).length⟩
      found <|> faultFrom? (next position c) rest

/-- Why a text has no UTF-8 form. -/
def fault? (text : String) : Option Fault :=
  faultFrom? 0 text.toList

theorem faultFrom?_eq_none_iff {position : Nat} {text : List Char} :
    faultFrom? position text = none ↔ ∀ c ∈ text, code? c = none := by
  induction text generalizing position with
  | nil => simp [faultFrom?]
  | cons c text ih =>
      rw [List.forall_mem_cons, faultFrom?, ← @ih (next position c)]
      cases code? c <;> simp

/-- A text has a UTF-8 form when none of its characters stands for a surrogate. -/
theorem fault?_eq_none_iff {text : String} :
    fault? text = none ↔ ∀ c ∈ text.toList, code? c = none :=
  faultFrom?_eq_none_iff

/-- Characters always have a UTF-8 form. -/
theorem fault?_hold (characters : List Char) :
    fault? (String.ofList (hold characters)) = none := by
  rw [fault?_eq_none_iff, String.toList_ofList]
  intro c hc
  exact code?_of_mem_hold hc

/-! ## Printing -/

/-- A text with three replacement characters for each surrogate, one for each of its bytes. -/
def replaced (text : String) : String :=
  String.ofList (text.toList.flatMap fun c =>
    if (code? c).isSome then List.replicate 3 '\uFFFD' else [c])

/-- A text with an escape for each surrogate. -/
def escaped (text : String) : String :=
  String.ofList (text.toList.flatMap fun c =>
    match code? c with
    | some code => escape code
    | none => [c])

end Surrogate
end Typings
