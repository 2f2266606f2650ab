import Typings.Text.Surrogate

/-!
# UTF-8

* `Utf8.Fault`: the first bytes of a sequence that are no text, with their position;
* `Utf8.decode`: the text of a sequence of bytes, or its first fault.
-/

namespace Typings
namespace Utf8

inductive Reason where
  | invalidStart
  | invalidContinuation
  | unexpectedEnd
deriving DecidableEq, Repr

def Reason.message : Reason → String
  | .invalidStart => "invalid start byte"
  | .invalidContinuation => "invalid continuation byte"
  | .unexpectedEnd => "unexpected end of data"

/-- Bytes that are no text: the position and value of the first one, and their number. -/
structure Fault where
  reason : Reason
  position : Nat
  byte : Nat
  count : Nat
deriving DecidableEq, Repr

def Fault.message (fault : Fault) : String :=
  let hex := String.ofList (Text.hexText 2 fault.byte)
  let place :=
    if fault.count = 1 then s!"byte 0x{hex} in position {fault.position}"
    else
      let last := fault.position + fault.count - 1
      s!"bytes in position {fault.position}-{last}"
  s!"'utf-8' codec can't decode {place}: {fault.reason.message}"

/-- The bytes that may follow the first one of a character, by the number of bytes that are still
to come; none for a byte that starts no character. The second byte has a range of its own. -/
def continuations? (first : Nat) : Option (List (Nat × Nat)) :=
  let tail := (0x80, 0xBF)
  if first < 0x80 then some []
  else if first < 0xC2 then none
  else if first < 0xE0 then some [tail]
  else if first = 0xE0 then some [(0xA0, 0xBF), tail]
  else if first = 0xED then some [(0x80, 0x9F), tail]
  else if first < 0xF0 then some [tail, tail]
  else if first = 0xF0 then some [(0x90, 0xBF), tail, tail]
  else if first < 0xF4 then some [tail, tail, tail]
  else if first = 0xF4 then some [(0x80, 0x8F), tail, tail]
  else none

/-- The bits of the code point in the first byte of a character. -/
def leadingBits (first : Nat) : Nat :=
  if first < 0x80 then first
  else if first < 0xE0 then first % 0x20
  else if first < 0xF0 then first % 0x10
  else first % 0x08

/-- Read the continuation bytes of a character. On failure: the reason, and how many bytes were
read before. -/
def readContinuations (code count : Nat) :
    List (Nat × Nat) → List Nat → Except (Reason × Nat) (Nat × List Nat)
  | [], bytes => .ok (code, bytes)
  | _ :: _, [] => .error (.unexpectedEnd, count)
  | (low, high) :: ranges, byte :: bytes =>
      if low ≤ byte ∧ byte ≤ high then
        readContinuations (code * 0x40 + byte % 0x40) (count + 1) ranges bytes
      else .error (.invalidContinuation, count)

theorem length_readContinuations {code count : Nat} {ranges : List (Nat × Nat)}
    {bytes rest : List Nat} {result : Nat}
    (h : readContinuations code count ranges bytes = .ok (result, rest)) :
    rest.length ≤ bytes.length := by
  induction ranges generalizing code count bytes with
  | nil => cases h; exact Nat.le_refl _
  | cons range ranges ih =>
      cases bytes with
      | nil => cases h
      | cons byte bytes =>
          simp only [readContinuations] at h
          split at h
          · exact Nat.le_succ_of_le (ih h)
          · cases h

/-- The characters of a sequence of bytes, the first one at a given position. -/
def decodeFrom (position : Nat) : List Nat → Except Fault (List Char)
  | [] => .ok []
  | first :: bytes =>
      match continuations? first with
      | none => .error ⟨.invalidStart, position, first, 1⟩
      | some ranges =>
          match _h : readContinuations (leadingBits first) 1 ranges bytes with
          | .error (reason, count) => .error ⟨reason, position, first, count⟩
          | .ok (code, rest) =>
              match decodeFrom (position + 1 + ranges.length) rest with
              | .ok text => .ok (Surrogate.held (Char.ofNat code) ++ text)
              | .error fault => .error fault
termination_by bytes => bytes.length
decreasing_by
  have := length_readContinuations ‹_›
  simp only [List.length_cons]
  omega

/-- The text of a sequence of bytes. -/
def decode (bytes : List Nat) : Except Fault String :=
  match decodeFrom 0 bytes with
  | .ok text => .ok (String.ofList text)
  | .error fault => .error fault

end Utf8
end Typings
