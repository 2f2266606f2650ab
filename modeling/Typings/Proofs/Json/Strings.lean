import Typings.Json.Reader
import Typings.Json.Writer

/-!
# Strings read back

A string is read from what is written between its quotes, whatever characters it holds.

* `joinUnits_map_toNat`: characters are code units that join to nothing but themselves;
* `readUnits_escapeChar`: a character is read from its escape;
* `readString_escaped`: a whole string is read up to the quote that closes it.
-/

namespace Typings
namespace Json

variable {opening text rest : List Char} {c : Char}

/-! ## Code units -/

theorem isCode_toNat (c : Char) : Surrogate.isCode c.toNat = false := by
  have hvalid : c.toNat < 0xD800 ∨ 0xDFFF < c.toNat ∧ c.toNat < 0x110000 := c.valid
  simp only [Surrogate.isCode, Bool.and_eq_false_iff, decide_eq_false_iff_not]
  omega

theorem isLeadingSurrogate_toNat (c : Char) : isLeadingSurrogate c.toNat = false := by
  have hvalid : c.toNat < 0xD800 ∨ 0xDFFF < c.toNat ∧ c.toNat < 0x110000 := c.valid
  simp only [isLeadingSurrogate, Bool.and_eq_false_iff, decide_eq_false_iff_not]
  omega

theorem unitCharacter_toNat (c : Char) : unitCharacter c.toNat = c := by
  rw [unitCharacter, isCode_toNat]
  exact Char.ofNat_toNat c

/-- Characters are their own code units: none of them is a surrogate. -/
theorem joinUnits_map_toNat (text : List Char) : joinUnits (text.map Char.toNat) = text := by
  induction text with
  | nil => rfl
  | cons c rest ih =>
      rcases rest with _ | ⟨next, others⟩
      · simp [joinUnits, unitCharacter_toNat]
      · simp only [List.map_cons] at ih ⊢
        rw [joinUnits, isLeadingSurrogate_toNat, Bool.false_and, if_neg Bool.false_ne_true, ih,
          unitCharacter_toNat]

/-! ## Escapes -/

theorem hexUnit?_control {value : Nat} (h : value < 32) :
    hexUnit? '0' '0' (hexDigit (value / 16)) (hexDigit (value % 16)) = some value := by
  revert value
  decide

theorem readUnits_plain (hquote : c ≠ '"') (hbackslash : c ≠ '\\') (hcontrol : ¬ c < ' ') :
    readUnits opening (c :: rest) = consUnit c.toNat (readUnits opening rest) := by
  rw [readUnits, if_neg hcontrol] <;> simp_all

/-- A character is read from its escape when the text goes on behind it. -/
theorem readUnits_escapeChar (hrest : rest ≠ []) (c : Char) :
    readUnits opening (escapeChar c ++ rest) = consUnit c.toNat (readUnits opening rest) := by
  unfold escapeChar
  split
  case h_8 hquote hbackslash _ _ _ _ _ =>
    split
    case isTrue hcontrol =>
      have hunit : hexUnit? '0' '0' (hexDigit (c.toNat / 16)) (hexDigit (c.toNat % 16)) =
          some c.toNat := hexUnit?_control hcontrol
      simp [readUnits, hrest, hunit]
    case isFalse hcontrol => exact readUnits_plain hquote hbackslash hcontrol
  all_goals simp [readUnits, shortEscape?]

theorem readUnits_escaped (text rest : List Char) :
    readUnits opening (text.flatMap escapeChar ++ '"' :: rest) =
      .ok (text.map Char.toNat, rest) := by
  induction text with
  | nil => simp [readUnits]
  | cons c others ih =>
      have hne : others.flatMap escapeChar ++ '"' :: rest ≠ [] :=
        List.append_ne_nil_of_right_ne_nil _ (List.cons_ne_nil _ _)
      rw [List.flatMap_cons, List.append_assoc, readUnits_escapeChar hne, ih]
      rfl

/-- A string is read from what is between its quotes. -/
theorem readString_escaped (text : String) (rest : List Char) :
    readString opening (text.toList.flatMap escapeChar ++ '"' :: rest) = .ok (text, rest) := by
  simp only [readString, readUnits_escaped, joinUnits_map_toNat, String.ofList_toList]

/-- No character of a written string ends a line. -/
theorem not_mem_escapeChar (c : Char) : '\r' ∉ escapeChar c := by
  have hdigit : ∀ value < 16, hexDigit value ≠ '\r' := by decide
  unfold escapeChar
  split
  case h_8 _ _ _ hreturn _ _ _ =>
    split
    case isTrue hcontrol =>
      have hlt : c.toNat < 32 := hcontrol
      have hhigh := hdigit (c.toNat / 16) (by omega)
      have hlow := hdigit (c.toNat % 16) (by omega)
      simp [hhigh.symm, hlow.symm]
    case isFalse => simpa using fun heq => hreturn heq.symm
  all_goals decide

theorem not_mem_quote (text : String) : '\r' ∉ quote text := by
  simp [quote, not_mem_escapeChar]

end Json
end Typings
