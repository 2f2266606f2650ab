/-!
# Escape sequences

An escape sequence of a terminal is an escape character, an opening square bracket, parameters and
a letter.

* `Console.withoutSequences`: a text without the sequences in it.
-/

namespace Typings
namespace Console

/-- Whether a character may stand between the bracket and the letter of a sequence. -/
def isSequenceParameter (c : Char) : Bool :=
  c.isDigit || c = ';' || c = '?'

/-- The text behind the sequence at the front of a text. -/
def afterSequence? : List Char → Option (List Char)
  | '\x1B' :: '[' :: rest =>
      match rest.dropWhile isSequenceParameter with
      | c :: after => if c.isAlpha then some after else none
      | [] => none
  | _ => none

/-- A text without its sequences, leaving out the first `skip` characters: they belong to a
sequence that is already found. -/
def withoutSequencesFrom : Nat → List Char → List Char
  | _, [] => []
  | skip + 1, _ :: rest => withoutSequencesFrom skip rest
  | 0, c :: rest =>
      match afterSequence? (c :: rest) with
      | some after => withoutSequencesFrom (rest.length - after.length) rest
      | none => c :: withoutSequencesFrom 0 rest

def withoutSequences (text : List Char) : List Char :=
  withoutSequencesFrom 0 text

end Console
end Typings
