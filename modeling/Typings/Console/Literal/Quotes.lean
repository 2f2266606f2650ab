import Typings.Console.Literal.Escape
import Typings.Console.Literal.Pattern

/-!
# Texts between quotes

Texts in a row are one text. The letters in front of a quote say whether it holds bytes, whether a
backslash counts as it is, and whether it holds fields: expressions between braces, each perhaps
with a conversion and with a format, which may hold fields again.

* `Quotes.ofWriting`: a text between quotes, taken apart;
* `Quotes.fieldEnd`: where the expression of a field ends;
* `Quotes.read`: what texts in a row are, or what is wrong with them.
-/

namespace Typings
namespace Console
namespace Literal

/-- A text between quotes, taken apart. -/
structure Quotes where
  isRaw : Bool
  isBytes : Bool
  hasFields : Bool
  body : List Char
deriving DecidableEq, Repr

/-- What is wrong with a text: its own writing, or an expression in one of its fields. -/
inductive QuotesFault where
  | own (message : String)
  | inField (message : String)
deriving DecidableEq, Repr

namespace Quotes

/-- The parts of a writing with letters and quotes. -/
def ofWriting (writing : List Char) : Quotes :=
  let isMark (c : Char) : Bool := c = '"' || c = '\''
  let letters := (writing.takeWhile (!isMark ·)).map Char.toLower
  let quoted := writing.dropWhile (!isMark ·)
  let width := match quoted with
    | a :: b :: c :: rest => if a = b && b = c && 3 ≤ rest.length then 3 else 1
    | _ => 1
  { isRaw := letters.contains 'r'
    isBytes := letters.contains 'b'
    hasFields := letters.contains 'f'
    body := (quoted.drop width).take (quoted.length - 2 * width) }

def fail {α : Type} (message : String) : Except QuotesFault α :=
  .error (.own message)

/-- Fail with a message, if there is one. -/
def failOn : Option String → Except QuotesFault Unit
  | none => .ok ()
  | some message => fail message

/-! ## Characters outside of fields -/

/-- How the characters in front of a field end. -/
inductive PlainEnd where
  /-- A doubled brace: more characters follow. -/
  | doubled (rest : List Char)
  /-- A single brace, or the end of the text. -/
  | brace (rest : List Char)
  /-- A closing brace outside of fields. -/
  | stray

/-- The place of a character in an escape. -/
inductive EscapePart where
  | outside
  /-- Behind a backslash. -/
  | letter
  /-- Behind the letter for a character by its name. -/
  | opening
  /-- In the name of a character. -/
  | name
deriving DecidableEq, Repr

/-- The end of characters at a brace. `level` counts the fields around them: only outside of fields
braces are doubled. -/
def endAt (level : Nat) (brace : Char) (rest : List Char) : List Char × PlainEnd :=
  if level ≠ 0 then ([], .brace (brace :: rest))
  else if rest.head? = some brace then ([brace], .doubled (rest.drop 1))
  else if brace = '\x7d' then ([], .stray)
  else ([], .brace (brace :: rest))

/-- The characters in front of a field. The name of a character may hold braces. -/
def plain (isRaw : Bool) (level : Nat) : EscapePart → List Char → List Char × PlainEnd
  | _, [] => ([], .brace [])
  | part, c :: rest =>
      let goOn (part : EscapePart) : List Char × PlainEnd :=
        let (characters, stop) := plain isRaw level part rest
        (c :: characters, stop)
      let isBrace := c = '\x7b' || c = '\x7d'
      match part with
      | .outside =>
          if !isRaw && c = '\\' then goOn .letter
          else if isBrace then endAt level c rest
          else goOn .outside
      | .letter =>
          if c = 'N' then goOn .opening
          else if isBrace then endAt level c rest
          else goOn .outside
      | .opening => goOn (if c = '\x7b' then .name else .outside)
      | .name => goOn (if c = '\x7d' then .outside else .name)

/-! ## Expressions in fields -/

/-- Characters in front of the first part of what was split. -/
def keep (characters : List Char) (split : Except QuotesFault (List Char × List Char)) :
    Except QuotesFault (List Char × List Char) :=
  split.map fun (first, rest) => (characters ++ first, rest)

/-- Split a text where the expression of a field ends. `mark` is the quote of the text around the
place, with whether it is tripled; `opened` holds the open brackets, the last one first. -/
def fieldEnd (mark : Option (Char × Bool)) (opened : List Char) :
    List Char → Except QuotesFault (List Char × List Char)
  | [] =>
      if mark.isSome then fail "f-string: unterminated string"
      else match opened with
        | [] => .ok ([], [])
        | bracket :: _ => fail s!"f-string: unmatched '{bracket}'"
  | c :: rest =>
      if c = '\\' then fail "f-string expression part cannot include a backslash"
      else match mark with
        | some (quote, isTripled) =>
            if c ≠ quote then keep [c] (fieldEnd mark opened rest)
            else if !isTripled then keep [c] (fieldEnd none opened rest)
            else match rest with
              | a :: b :: more =>
                  if a = quote && b = quote then keep [c, a, b] (fieldEnd none opened more)
                  else keep [c] (fieldEnd mark opened (a :: b :: more))
              | rest => keep [c] (fieldEnd mark opened rest)
        | none =>
            if c = '"' || c = '\'' then
              match rest with
              | a :: b :: more =>
                  if a = c && b = c then keep [c, a, b] (fieldEnd (some (c, true)) opened more)
                  else keep [c] (fieldEnd (some (c, false)) opened (a :: b :: more))
              | rest => keep [c] (fieldEnd (some (c, false)) opened rest)
            else if c = '#' then fail "f-string expression part cannot include '#'"
            else if c = '(' || c = '[' || c = '\x7b' then
              if maxOpened ≤ opened.length then fail "f-string: too many nested parenthesis"
              else keep [c] (fieldEnd none (c :: opened) rest)
            else match opened with
              | [] =>
                  match rest with
                  | '=' :: more =>
                      if c = '!' || c = '=' || c = '<' || c = '>' then
                        keep [c, '='] (fieldEnd none [] more)
                      else if c = ':' || c = '\x7d' then .ok ([], c :: '=' :: more)
                      else if c = ')' || c = ']' then fail s!"f-string: unmatched '{c}'"
                      else keep [c] (fieldEnd none [] ('=' :: more))
                  | rest =>
                      if c = '!' || c = '=' || c = ':' || c = '\x7d' then .ok ([], c :: rest)
                      else if c = ')' || c = ']' then fail s!"f-string: unmatched '{c}'"
                      else keep [c] (fieldEnd none [] rest)
              | bracket :: outer =>
                  if c = ')' || c = ']' || c = '\x7d' then
                    if bracket = partnerOf c then keep [c] (fieldEnd none outer rest)
                    else
                      fail (s!"f-string: closing parenthesis '{c}' " ++
                        s!"does not match opening parenthesis '{bracket}'")
                  else keep [c] (fieldEnd none opened rest)

/-- What is wrong with the expression of a field that is empty, given the text behind it. -/
def emptyFault? (expression rest : List Char) : Option String :=
  if !expression.all fun c => c = ' ' || c = '\t' || c = '\n' || c = '\x0C' then none
  else match rest.head? with
    | some c =>
        if c = '\x7d' then some "f-string: empty expression not allowed"
        else some s!"f-string: expression required before '{c}'"
    | none => none

/-- What is wrong where the closing brace of a field has to follow. -/
def missingBrace {α : Type} : Except QuotesFault α :=
  fail "f-string: expecting '\x7d'"

def isSpace (c : Char) : Bool :=
  c = ' ' || (0x09 ≤ c.toNat && c.toNat ≤ 0x0D)

/-- The text behind the equals sign and the conversion of a field. -/
def afterConversion (rest : List Char) : Except QuotesFault (List Char) :=
  let rest := match rest with
    | '=' :: rest => rest.dropWhile isSpace
    | rest => rest
  match rest with
  | ['!'] => missingBrace
  | '!' :: c :: rest =>
      if c = 's' || c = 'r' || c = 'a' then .ok rest
      else fail "f-string: invalid conversion character: expected 's', 'r', or 'a'"
  | rest => .ok rest

/-! ## Fields -/

/-- The greatest number of fields inside each other. -/
def maxLevel : Nat := 2

/-- What is wrong with the escapes of a text. -/
def escapesFault? (isRaw : Bool) (characters : List Char) : Option String :=
  if isRaw then none else Escape.textFault? characters

/-- Check the fields of a text and give what follows them: a closing brace or nothing. The bound
limits their number. `readField` reads the expression of a field, given with the text from its
opening brace on. -/
def fields (isRaw : Bool) (readField : (rest : List Char) → (expression : List Char) →
    Except QuotesFault Unit) : Nat → (level : Nat) → List Char → Except QuotesFault (List Char)
  | 0, _, text => .ok text
  | bound + 1, level, text => do
      match plain isRaw level .outside text with
      | (_, .stray) => fail "f-string: single '\x7d' is not allowed"
      | (characters, .doubled rest) =>
          failOn (escapesFault? isRaw characters)
          fields isRaw readField bound level rest
      | (characters, .brace rest) =>
          failOn (escapesFault? isRaw characters)
          match rest with
          | '\x7b' :: inner =>
              if maxLevel ≤ level then fail "f-string: expressions nested too deeply"
              let (expression, behind) ← fieldEnd none [] inner
              if behind.isEmpty then missingBrace
              failOn (emptyFault? expression behind)
              readField rest expression
              let behind ← afterConversion behind
              let behind ← match behind with
                | [':'] => missingBrace
                | ':' :: format => fields isRaw readField bound (level + 1) format
                | behind => pure behind
              match behind with
              | '\x7d' :: behind => fields isRaw readField bound level behind
              | _ => missingBrace
          | rest => return rest

/-! ## Texts -/

/-- What is wrong with a text without fields. -/
def plainFault? (quotes : Quotes) : Option String :=
  if !quotes.isBytes then escapesFault? quotes.isRaw quotes.body
  else if quotes.body.any fun c => 0x80 ≤ c.toNat then
    some "bytes can only contain ASCII literal characters"
  else if quotes.isRaw then none
  else Escape.bytesFault? quotes.body

/-- Check the fields of a text that starts on a line. -/
def checkFields (readField : (line : Nat) → List Char → Except String Unit) (line : Nat)
    (quotes : Quotes) : Except QuotesFault Unit := do
  let lineAt (rest : List Char) : Nat :=
    line + (quotes.body.take (quotes.body.length - rest.length)).count '\n'
  let readAt (rest expression : List Char) : Except QuotesFault Unit :=
    (readField (lineAt rest) (('(' :: expression) ++ [')', '\n'])).mapError .inField
  let _ ← fields quotes.isRaw readAt (quotes.body.length + 1) 0 quotes.body

/-- Check one text of a row; `areBytes` says what those in front of it are. -/
def check (readField : (line : Nat) → List Char → Except String Unit) (areBytes : Option Bool)
    (line : Nat) (quotes : Quotes) : Except QuotesFault Unit := do
  if !quotes.hasFields then failOn quotes.plainFault?
  if areBytes.any (· ≠ quotes.isBytes) then fail "cannot mix bytes and nonbytes literals"
  if quotes.hasFields then checkFields readField line quotes

/-- Check the texts of a row. -/
def checkAll (readField : (line : Nat) → List Char → Except String Unit)
    (areBytes : Option Bool) : List (Nat × Quotes) → Except QuotesFault Unit
  | [] => .ok ()
  | (line, quotes) :: others => do
      check readField areBytes line quotes
      checkAll readField (some quotes.isBytes) others

/-- The texts among tokens, with their lines. -/
def ofTokens (tokens : List Token) : List (Nat × Quotes) :=
  tokens.filterMap fun
    | ⟨.text writing, line, _, _⟩ => some (line, ofWriting writing)
    | _ => none

/-- What texts in a row are. `readField` reads the expression of a field that stands on a line. -/
def read (readField : (line : Nat) → List Char → Except String Unit) (tokens : List Token) :
    Outcome :=
  let texts := ofTokens tokens
  match checkAll readField none texts with
  | .error (.own message) => .mistake message
  | .error (.inField message) => .inner message
  | .ok () =>
      .value (.node (if texts.any (·.2.hasFields) then .other "f-string expression"
        else if texts.any (·.2.isBytes) then .constant .bytes
        else .constant .text))

end Quotes
end Literal
end Console
end Typings
