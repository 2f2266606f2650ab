import Typings.Console.Literal.Number
import Typings.Text.Identifier

/-!
# Tokens of literal values

* `Token`: a smallest part of a writing, with its line and the brackets that are open behind it;
* `Ending`: why the tokens of a text end before the text does;
* `Scan.ofText`: the tokens of a text and their ending.

Lines end with LF. A line end is a token where no bracket is open and the line is not blank, and so
is a change of the indentation.
-/

namespace Typings
namespace Console
namespace Literal

inductive TokenKind where
  | name (word : String)
  | keyword (word : String)
  | number (number : Number)
  /-- A text or bytes with prefix and quotes. -/
  | text (writing : List Char)
  | sign (signs : String)
  | lineEnd
  | indent
  | dedent
  | textEnd
deriving DecidableEq, Repr

/-- Whether the end of a token is found only by the end of the text, given the text behind it. Names
and most signs end where the next character does not go on with them; a number looks for a word
behind it, and a point for two more. -/
def TokenKind.meetsEnd (kind : TokenKind) (behind : List Char) : Bool :=
  match kind with
  | .name _ | .keyword _ => behind.isEmpty
  | .number _ => ["", "and", "else", "for", "not", "or"].contains (String.ofList behind)
  | .sign "." => behind.isEmpty || behind = ['.']
  | .sign signs => behind.isEmpty && signs.length < 3
  | .text writing =>
      behind.isEmpty && (writing.dropWhile fun c => c ≠ '"' && c ≠ '\'').length = 2
  | _ => false

structure Token where
  kind : TokenKind
  /-- The line on which it starts. -/
  line : Nat
  /-- The number of brackets that are open behind it. -/
  depth : Nat
  /-- Whether the text ends in the place where the token is found to end. -/
  meetsEnd : Bool
deriving DecidableEq, Repr

/-- Why tokens end. -/
structure Ending where
  message : String
  /-- Whether it is told although nobody asks for more tokens. -/
  isUrgent : Bool
  /-- The innermost open bracket with its line. -/
  opened : Option (Char × Nat)
deriving DecidableEq, Repr

/-- The tokens of a text; without an ending the last one is the end of the text. -/
structure Scan where
  tokens : List Token
  ending : Option Ending
deriving DecidableEq, Repr

/-! ## Words -/

def keywords : List String :=
  ["False", "None", "True", "and", "as", "assert", "async", "await", "break", "class", "continue",
   "def", "del", "elif", "else", "except", "finally", "for", "from", "global", "if", "import",
   "in", "is", "lambda", "nonlocal", "not", "or", "pass", "raise", "return", "try", "while",
   "with", "yield"]

def wordKind (word : String) : TokenKind :=
  if keywords.contains word then .keyword word else .name word

/-- The words that may stand directly in front of a quote, in small letters. -/
def textPrefixes : List String :=
  ["r", "u", "b", "f", "br", "rb", "fr", "rf"]

def isTextPrefix (word : List Char) : Bool :=
  textPrefixes.contains (String.ofList (word.map Char.toLower))

/-- What is wrong with a character in a place where it means nothing. -/
def strayCharacter (c : Char) : String :=
  let code := String.ofList ((Text.hexText 4 c.toNat).map Char.toUpper)
  if Text.isHidden c then s!"invalid non-printable character U+{code}"
  else s!"invalid character '{c}' (U+{code})"

/-! ## Signs -/

/-- The operators of several signs, longer ones first. -/
def longSigns : List String :=
  ["...", "**=", "//=", ">>=", "<<=", "==", "!=", "<=", ">=", "<>", "->", "**", "//", ">>", "<<",
   ":=", "+=", "-=", "*=", "/=", "%=", "&=", "|=", "^=", "@="]

def signsAt (text : List Char) : String :=
  (longSigns.find? fun signs => signs.toList.isPrefixOf text).getD (String.ofList (text.take 1))

/-- The bracket that a closing one belongs to. -/
def partnerOf (c : Char) : Char :=
  if c = ')' then '(' else if c = ']' then '[' else '\x7b'

/-- The greatest number of brackets that are open at one place. -/
def maxOpened : Nat := 200

/-! ## Texts between quotes -/

/-- What is wrong with a text that has no end; `line` is the last line that was looked at. -/
def unterminated (triple : Bool) (line : Nat) : String :=
  if triple then s!"unterminated triple-quoted string literal (detected at line {line})"
  else s!"unterminated string literal (detected at line {line})"

/-- The line behind a line end. A line end at the very end of a text starts no line. -/
def lineBehind (line : Nat) (rest : List Char) : Nat :=
  if rest.isEmpty then line else line + 1

/-- The text behind a closing quote and its line. -/
def afterText (mark : Char) (triple : Bool) (line : Nat) :
    List Char → Except String (List Char × Nat)
  | [] => .error (unterminated triple line)
  | '\\' :: c :: rest =>
      afterText mark triple (if c = '\n' then lineBehind line rest else line) rest
  | c :: rest =>
      if c = '\n' then
        if triple then afterText mark triple (lineBehind line rest) rest
        else .error (unterminated triple line)
      else if c = mark then
        if triple then
          if [mark, mark].isPrefixOf rest then .ok (rest.drop 2, line)
          else afterText mark triple line rest
        else .ok (rest, line)
      else afterText mark triple line rest

/-- The text behind a text between quotes, taken from behind the opening quote on. -/
def afterQuotes (mark : Char) (line : Nat) (rest : List Char) :
    Except String (List Char × Nat) :=
  if [mark, mark].isPrefixOf rest then afterText mark true line (rest.drop 2)
  else afterText mark false line rest

/-! ## Indentation -/

/-- The depth of an indentation, with tabs to every eighth column and with tabs as one column. -/
structure Indentation where
  wide : Nat
  narrow : Nat
deriving DecidableEq, Repr

/-- An indentation, the line behind it and the text. A backslash at a line end fixes the depth. -/
structure Indented where
  depth : Indentation
  line : Nat
  rest : List Char

/-- Why a line break behind a backslash cannot be passed over. -/
inductive BreakFault where
  | textBehind
  | endOfText
deriving DecidableEq, Repr

/-- The text behind a backslash that ends a line. -/
def afterBreak : List Char → Except BreakFault (List Char)
  | '\n' :: c :: rest => .ok (c :: rest)
  | ['\n'] => .error .endOfText
  | _ => .error .textBehind

/-- Measure the indentation at the front of a line. The bound limits the number of characters;
`fixed` is the depth in front of a line break, or zero. -/
def indentation : Nat → (fixed : Nat) → Indented → Except BreakFault Indented
  | 0, _, found => .ok found
  | bound + 1, fixed, found =>
      match found.rest with
      | ' ' :: rest =>
          indentation bound fixed ⟨⟨found.depth.wide + 1, found.depth.narrow + 1⟩, found.line, rest⟩
      | '\t' :: rest =>
          indentation bound fixed
            ⟨⟨(found.depth.wide / 8 + 1) * 8, found.depth.narrow + 1⟩, found.line, rest⟩
      | '\x0C' :: rest => indentation bound fixed ⟨⟨0, 0⟩, found.line, rest⟩
      | '\\' :: rest => do
          let rest ← afterBreak rest
          indentation bound (if fixed = 0 then found.depth.wide else fixed)
            ⟨found.depth, found.line + 1, rest⟩
      | _ =>
          if fixed = 0 then .ok found else .ok { found with depth := ⟨fixed, fixed⟩ }

/-- The greatest number of indentations inside each other. -/
def maxIndents : Nat := 99

/-! ## Scanning -/

/-- What is known about the text in front of a place. -/
structure Place where
  line : Nat := 1
  /-- The open brackets with their lines, the last one first. -/
  opened : List (Char × Nat) := []
  /-- The indentations around the line, the innermost one first. -/
  indents : List Indentation := []
deriving DecidableEq, Repr

namespace Place

/-- A token at a place with the text behind it. -/
def token (place : Place) (kind : TokenKind) (behind : List Char) : Token :=
  { kind, line := place.line, depth := place.opened.length, meetsEnd := kind.meetsEnd behind }

/-- An ending that is told when more tokens are asked for. -/
def quietEnding (place : Place) (message : String) : Scan :=
  ⟨[], some { message, isUrgent := false, opened := place.opened.head? }⟩

def urgentEnding (place : Place) (message : String) : Scan :=
  ⟨[], some { message, isUrgent := true, opened := place.opened.head? }⟩

/-- What is wrong with a bracket that stays open. -/
def unclosed (bracket : Char) : String :=
  s!"'{bracket}' was never closed"

/-- The end of the text. -/
def textEnd (place : Place) : Scan :=
  match place.opened with
  | [] => ⟨[place.token .textEnd []], none⟩
  | (bracket, _) :: _ => place.quietEnding (unclosed bracket)

/-- The ending at a backslash that does not join two lines. -/
def breakEnding (place : Place) : BreakFault → Scan
  | .textBehind => place.quietEnding "unexpected character after line continuation character"
  | .endOfText =>
      match place.opened with
      | [] => place.quietEnding "unexpected EOF while parsing"
      | (bracket, _) :: _ => place.quietEnding (unclosed bracket)

/-- The tokens for a change of the indentation and the place behind them, or why there are none. -/
def indentTo (place : Place) (depth : Indentation) : Except String (List Token × Place) :=
  let uneven : String := "inconsistent use of tabs and spaces in indentation"
  let current := place.indents.headD ⟨0, 0⟩
  if depth.wide = current.wide then
    if depth.narrow = current.narrow then .ok ([], place) else .error uneven
  else if current.wide < depth.wide then
    if maxIndents ≤ place.indents.length then .error "too many levels of indentation"
    else if depth.narrow ≤ current.narrow then .error uneven
    else .ok ([place.token .indent []], { place with indents := depth :: place.indents })
  else
    let kept := place.indents.dropWhile fun indent => depth.wide < indent.wide
    let outer := kept.headD ⟨0, 0⟩
    if outer.wide ≠ depth.wide then
      .error "unindent does not match any outer indentation level"
    else if outer.narrow ≠ depth.narrow then .error uneven
    else
      .ok (List.replicate (place.indents.length - kept.length) (place.token .dedent []),
        { place with indents := kept })

end Place

namespace Scan

/-- Tokens in front of those of a scan. -/
def after (tokens : List Token) (scan : Scan) : Scan :=
  { scan with tokens := tokens ++ scan.tokens }

/-- The bracket at the front of a text with the place behind it. -/
def bracket (place : Place) (c : Char) : Except String Place :=
  if c = '(' || c = '[' || c = '\x7b' then
    if maxOpened ≤ place.opened.length then .error "too many nested parentheses"
    else .ok { place with opened := (c, place.line) :: place.opened }
  else
    match place.opened with
    | [] => .error s!"unmatched '{c}'"
    | (opening, line) :: outer =>
        if opening = partnerOf c then .ok { place with opened := outer }
        else
          let clash :=
            s!"closing parenthesis '{c}' does not match opening parenthesis '{opening}'"
          .error (if line = place.line then clash else s!"{clash} on line {line}")

mutual

/-- Scan a text from the start of a line on. The bound limits the number of steps. -/
def line : Nat → Place → List Char → Scan
  | 0, place, _ => place.textEnd
  | bound + 1, place, text =>
      match indentation (text.length + 1) 0 ⟨⟨0, 0⟩, place.line, text⟩ with
      | .error fault => place.breakEnding fault
      | .ok found =>
          let place := { place with line := found.line }
          let isBlank := found.rest.head?.any fun c => c = '#' || c = '\n'
          if isBlank || !place.opened.isEmpty then rest bound place isBlank found.rest
          else
            match place.indentTo found.depth with
            | .error message => place.quietEnding message
            | .ok (tokens, place) => after tokens (rest bound place false found.rest)

/-- Scan the rest of a line; `isBlank` says that only a comment may stand on it. -/
def rest : Nat → Place → (isBlank : Bool) → List Char → Scan
  | 0, place, _, _ => place.textEnd
  | bound + 1, place, isBlank, text =>
      match text with
      | [] => place.textEnd
      | c :: behind =>
          if c = ' ' || c = '\t' || c = '\x0C' then rest bound place isBlank behind
          else if c = '#' then rest bound place isBlank (behind.dropWhile (· ≠ '\n'))
          else if c = '\n' then
            let next := { place with line := lineBehind place.line behind }
            let tokens :=
              if isBlank || !place.opened.isEmpty then [] else [place.token .lineEnd behind]
            after tokens (line bound next behind)
          else if c = '\\' then
            match afterBreak behind with
            | .error fault => place.breakEnding fault
            | .ok behind => rest bound { place with line := place.line + 1 } isBlank behind
          else if c = '"' || c = '\'' then quotes bound place isBlank text c behind
          else if Json.isDigit c || (c = '.' && behind.head?.any Json.isDigit) then
            match Number.afterNumber text with
            | .error message => place.urgentEnding message
            | .ok after =>
                let writing := text.take (text.length - after.length)
                before bound place isBlank (.number (Number.ofWriting writing)) after
          else if isNamePart c then
            let word := text.takeWhile isNamePart
            match text.dropWhile isNamePart with
            | mark :: quoted =>
                if (mark = '"' || mark = '\'') && isTextPrefix word then
                  quotes bound place isBlank text mark quoted
                else name bound place isBlank word (mark :: quoted)
            | [] => name bound place isBlank word []
          else if ['(', '[', '\x7b', ')', ']', '\x7d'].contains c then
            match bracket place c with
            | .error message => place.urgentEnding message
            | .ok place => before bound place isBlank (.sign (String.ofList [c])) behind
          else if Text.isHidden c then place.urgentEnding (strayCharacter c)
          else
            let signs := signsAt text
            before bound place isBlank (.sign signs) (text.drop signs.length)

/-- A token in front of the rest of its line. -/
def before (bound : Nat) (place : Place) (isBlank : Bool) (kind : TokenKind)
    (behind : List Char) : Scan :=
  match bound with
  | 0 => place.textEnd
  | bound + 1 => after [place.token kind behind] (rest bound place isBlank behind)

/-- A name with the rest of its line. -/
def name (bound : Nat) (place : Place) (isBlank : Bool) (word behind : List Char) : Scan :=
  match bound with
  | 0 => place.textEnd
  | bound + 1 =>
      match Text.strayInIdentifier? word with
      | some c => place.urgentEnding (strayCharacter c)
      | none => before bound place isBlank (wordKind (String.ofList word)) behind

/-- A text between quotes with the rest of its line; `quoted` is the text behind its first quote. -/
def quotes (bound : Nat) (place : Place) (isBlank : Bool) (text : List Char) (mark : Char)
    (quoted : List Char) : Scan :=
  match bound with
  | 0 => place.textEnd
  | bound + 1 =>
      match afterQuotes mark place.line quoted with
      | .error message => place.urgentEnding message
      | .ok (behind, line) =>
          let writing := text.take (text.length - behind.length)
          after [place.token (.text writing) behind] (rest bound { place with line } isBlank behind)

end

/-- A text with all line ends as LF. -/
def withPlainLineEnds : List Char → List Char
  | [] => []
  | '\r' :: '\n' :: rest => '\n' :: withPlainLineEnds rest
  | '\r' :: rest => '\n' :: withPlainLineEnds rest
  | c :: rest => c :: withPlainLineEnds rest

/-- The tokens of a text whose first line has a given number. -/
def ofText (line : Nat) (text : List Char) : Scan :=
  let text := withPlainLineEnds text
  Scan.line (4 * text.length + 4) { line } text

end Scan
end Literal
end Console
end Typings
