import Typings.Table
import Typings.Text.Blank

/-!
# Files of environment variables

A file holds bindings `NAME=value`, each on a line of its own. A line may start with `export`; the
name may stand between single quotes and the value between quotes of either kind, also over
several lines. A number sign starts a comment at the start of a line and behind a blank. What is no
binding is passed over up to the end of its line.

* `EnvFile.bindings`: the bindings of a text, in order;
* `EnvFile.pieces`, `EnvFile.expand`: the references `${NAME}` and `${NAME:-default}` in a value,
  and the value with them replaced;
* `EnvFile.parse`: the variables that a text sets, in an environment.

Lines end with LF.
-/

namespace Typings
namespace EnvFile

/-! ## Bindings -/

/-- A name with its value; a name alone on its line has none. -/
structure Binding where
  name : String
  value : Option String
deriving DecidableEq, Repr

/-- What was read and the text behind it; on failure the text from the place of the failure on. -/
abbrev Reading (α : Type) := Except (List Char) (α × List Char)

/-- A blank inside a line. -/
def isSpace (c : Char) : Bool :=
  Text.isBlank c && c ≠ '\n' && c ≠ '\r'

/-- The text from the end of its first line on. -/
def toLineEnd (text : List Char) : List Char :=
  text.dropWhile (· ≠ '\n')

/-- A text without the word `export` at its front. -/
def dropExport (text : List Char) : List Char :=
  let word := "export".toList
  let rest := text.drop word.length
  if word.isPrefixOf text && rest.head?.any isSpace then rest.dropWhile isSpace else text

/-- The text up to a closing quote and the text behind it. The character behind a backslash closes
nothing. -/
def takeQuoted? (mark : Char) : List Char → Option (List Char × List Char)
  | [] => none
  | '\\' :: c :: rest =>
      (takeQuoted? mark rest).map fun (inner, rest) => ('\\' :: c :: inner, rest)
  | c :: rest =>
      if c = mark then some ([], rest)
      else (takeQuoted? mark rest).map fun (inner, rest) => (c :: inner, rest)

/-- The escapes between single quotes. -/
def singleEscapes : List (Char × Char) :=
  [('\\', '\\'), ('\'', '\'')]

/-- The escapes between double quotes. -/
def doubleEscapes : List (Char × Char) :=
  [('\\', '\\'), ('\'', '\''), ('"', '"'), ('a', '\x07'), ('b', '\x08'), ('f', '\x0C'),
   ('n', '\n'), ('r', '\r'), ('t', '\t'), ('v', '\x0B')]

/-- A text with its escapes replaced by the characters that they stand for. -/
def unescape (escapes : List (Char × Char)) : List Char → List Char
  | [] => []
  | '\\' :: letter :: rest =>
      match List.lookup letter escapes with
      | some c => c :: unescape escapes rest
      | none => '\\' :: unescape escapes (letter :: rest)
  | c :: rest => c :: unescape escapes rest

/-- Read the name of a binding; a comment has none. -/
def readName (text : List Char) : Reading (Option String) :=
  match text with
  | '#' :: _ => .ok (none, text)
  | '\'' :: quoted =>
      let name := quoted.takeWhile (· ≠ '\'')
      match quoted.dropWhile (· ≠ '\'') with
      | _ :: rest => if name.isEmpty then .error text else .ok (some (String.ofList name), rest)
      | [] => .error text
  | _ =>
      let isNamePart (c : Char) : Bool := c ≠ '=' && c ≠ '#' && !Text.isBlank c
      let name := text.takeWhile isNamePart
      if name.isEmpty then .error text
      else .ok (some (String.ofList name), text.dropWhile isNamePart)

/-- An unquoted value up to a comment. -/
def beforeComment : List Char → List Char
  | [] => []
  | c :: '#' :: rest =>
      if Text.isBlank c then [] else c :: beforeComment ('#' :: rest)
  | c :: rest => c :: beforeComment rest

/-- Read a value between quotes. -/
def readQuoted (mark : Char) (escapes : List (Char × Char)) (text quoted : List Char) :
    Reading String :=
  match takeQuoted? mark quoted with
  | some (inner, rest) => .ok (String.ofList (unescape escapes inner), rest)
  | none => .error text

/-- Read the value behind an equals sign. -/
def readValue (text : List Char) : Reading String :=
  let trimmed := text.dropWhile isSpace
  match trimmed with
  | '\'' :: quoted => readQuoted '\'' singleEscapes trimmed quoted
  | '"' :: quoted => readQuoted '"' doubleEscapes trimmed quoted
  | [] | '\n' :: _ => .ok ("", trimmed)
  | _ =>
      let value := Text.trim (beforeComment (text.takeWhile (· ≠ '\n')))
      .ok (String.ofList value, toLineEnd text)

/-- The text behind the line on which a binding ends; only a comment may follow the binding. -/
def readLineEnd (text : List Char) : Except (List Char) (List Char) :=
  match text.dropWhile isSpace with
  | [] => .ok []
  | '\n' :: rest => .ok rest
  | '#' :: rest => .ok ((toLineEnd rest).drop 1)
  | _ => .error text

/-- Read the line of a binding, or of a comment, from its first character on. -/
def readLine (text : List Char) :
    Except (List Char) (Option Binding × List Char) := do
  let (name?, rest) ← readName (dropExport text)
  let rest := rest.dropWhile isSpace
  let (value, rest) ←
    match rest with
    | '=' :: rest => (readValue rest).map fun (value, rest) => (some value, rest)
    | rest => .ok (none, rest)
  let rest ← readLineEnd rest
  return (name?.map fun name => ⟨name, value⟩, rest)

/-- The bindings of a text, in order. The bound limits the number of lines. -/
def bindingsWithin : Nat → List Char → List Binding
  | 0, _ => []
  | bound + 1, text =>
      match text.dropWhile Text.isBlank with
      | [] => []
      | c :: rest =>
          match readLine (c :: rest) with
          | .ok (binding?, rest) => binding?.toList ++ bindingsWithin bound rest
          | .error rest => bindingsWithin bound ((toLineEnd rest).drop 1)

/-- The bindings of a text, in order. A byte order mark in front does not count. -/
def bindings (text : String) : List Binding :=
  let content := text.toList
  bindingsWithin (content.length + 1)
    (if content.head? = some '\uFEFF' then content.drop 1 else content)

/-! ## Values of other variables -/

/-- A reference: the name of a variable and the text that stands for it when it is not set. -/
structure Reference where
  name : String
  absent : String
deriving DecidableEq, Repr

/-- The reference behind `${`, and the text behind its closing brace. -/
def takeReference? (text : List Char) : Option (Reference × List Char) :=
  let isNamePart (c : Char) : Bool := c ≠ '\x7d' && c ≠ ':'
  let name := String.ofList (text.takeWhile isNamePart)
  match text.dropWhile isNamePart with
  | '\x7d' :: rest => some (⟨name, ""⟩, rest)
  | ':' :: '-' :: rest =>
      match rest.dropWhile (· ≠ '\x7d') with
      | _ :: after => some (⟨name, String.ofList (rest.takeWhile (· ≠ '\x7d'))⟩, after)
      | [] => none
  | _ => none

inductive Piece where
  | literal (c : Char)
  | reference (reference : Reference)
deriving DecidableEq, Repr

/-- The pieces of a text, leaving out the first `skip` characters: they belong to a reference that
is already cut off. -/
def piecesFrom : Nat → List Char → List Piece
  | _, [] => []
  | skip + 1, _ :: rest => piecesFrom skip rest
  | 0, c :: rest =>
      match if c = '$' && rest.head? = some '\x7b' then takeReference? (rest.drop 1) else none with
      | some (reference, after) =>
          .reference reference :: piecesFrom (rest.length - after.length) rest
      | none => .literal c :: piecesFrom 0 rest

def pieces (text : String) : List Piece :=
  piecesFrom 0 text.toList

/-- A text with its references replaced. -/
def expand (valueOf : Reference → String) (text : String) : String :=
  String.ofList ((pieces text).flatMap fun
    | .literal c => [c]
    | .reference reference => (valueOf reference).toList)

/-- The value of a reference: variables that were set before come first, then those of the
environment. A name without a value stands for nothing. -/
def valueOf (environment : List (String × String)) (before : Table (Option String))
    (reference : Reference) : String :=
  match List.lookup reference.name before with
  | some value => value.getD ""
  | none => (List.lookup reference.name environment).getD reference.absent

/-- The variables that a text sets, in the order of their first binding; the last binding of a
name counts. -/
def parse (environment : List (String × String)) (text : String) : Table (Option String) :=
  (bindings text).foldl
    (fun before binding =>
      before.put binding.name (binding.value.map (expand (valueOf environment before))))
    []

/-- The names to which the values of a text refer. -/
def referencedNames (text : String) : List String :=
  ((bindings text).filterMap (·.value)).flatMap fun value =>
    (pieces value).filterMap fun
      | .literal _ => none
      | .reference reference => some reference.name

end EnvFile
end Typings
