import Typings.Console.Literal.Node
import Typings.Console.Literal.Token

/-!
# Patterns of tokens

A grammar gives each of its rules alternatives, which are tried in order: the first one whose
patterns all match counts. A rule may remember what it found at a place, and may refer to itself at
its own front.

* `Pattern`, `Alternative`, `Definition`: how rules are written;
* `Reader.rule`: what a rule finds from a place on.

Some alternatives describe mistakes. They are tried only in a reading that looks for a diagnosis,
and end it with a message.
-/

namespace Typings
namespace Console
namespace Literal

/-! ## Values -/

/-- What a pattern finds. -/
inductive Value where
  | nothing
  | token (token : Token)
  | node (node : Node)
  | many (values : List Value)
deriving Repr

/-- What an alternative makes of the values of its patterns. -/
inductive Outcome where
  | value (value : Value)
  /-- The alternative matched and its rule finds nothing all the same. -/
  | nothing
  /-- The reading ends with a message. -/
  | mistake (message : String)
  /-- The reading ends with a message that is not about this reading itself. -/
  | inner (message : String)
deriving Repr

/-! ## Patterns -/

variable {Rule : Type}

mutual

inductive Pattern (Rule : Type) where
  | rule (name : Rule)
  | token (accepts : TokenKind → Bool)
  | ahead (pattern : Pattern Rule)
  | notAhead (pattern : Pattern Rule)
  | optional (pattern : Pattern Rule)
  | many (pattern : Pattern Rule)
  | several (pattern : Pattern Rule)
  /-- One or more, with a separator between them. -/
  | separated (separator pattern : Pattern Rule)
  | choice (alternatives : List (Alternative Rule))
  /-- From here on no later alternative is tried. -/
  | commit
  /-- The token that was taken last. -/
  | lastTaken

inductive Alternative (Rule : Type) where
  | mk (isDiagnosis : Bool) (patterns : List (Pattern Rule)) (action : List Value → Outcome)

end

/-- What a rule keeps of earlier findings. -/
inductive Memory where
  | forgets
  | remembers
  /-- The rule may stand at its own front; the longest finding counts. -/
  | grows
deriving DecidableEq, Repr

structure Definition (Rule : Type) where
  alternatives : List (Alternative Rule)
  memory : Memory := .forgets
  /-- Inside the rule no diagnosis is looked for. -/
  isPlain : Bool := false

/-! ## States -/

/-- What a rule found at a place, with the place behind it. -/
structure Finding (Rule : Type) where
  rule : Rule
  value : Option Value
  stop : Nat

structure State (Rule : Type) where
  /-- The number of tokens that are taken. -/
  taken : Nat := 0
  /-- The number of tokens that were looked at. -/
  seen : Nat := 0
  diagnoses : Bool
  /-- The findings by their place. -/
  findings : Array (List (Finding Rule))

/-- Why a reading stops. -/
inductive Stop where
  /-- A mistake, or something wrong inside a text. -/
  | mistake (message : String)
  /-- There are no more tokens. -/
  | noToken (ending : Ending)
deriving Repr

structure Grammar (Rule : Type) where
  define : Rule → Definition Rule
  /-- The wording of a message of a reading. -/
  wording : String → String

/-- A step of a reading. -/
abbrev Step (Rule α : Type) := ExceptT Stop (StateM (State Rule)) α

namespace Reader

variable [BEq Rule]

/-- The token at the place. -/
def look (scan : Scan) (tokens : Array Token) : Step Rule Token := do
  let state ← get
  match tokens[state.taken]? with
  | some token =>
      set { state with seen := max state.seen (state.taken + 1) }
      return token
  | none =>
      throw (.noToken (scan.ending.getD
        { message := "unexpected EOF while parsing", isUrgent := false, opened := none }))

def moveTo (place : Nat) : Step Rule Unit :=
  modify fun state => { state with taken := place }

/-- What a rule found at a place before. -/
def known (rule : Rule) (place : Nat) : Step Rule (Option (Finding Rule)) := do
  return ((← get).findings.getD place []).find? fun finding => finding.rule == rule

/-- Keep what a rule found at a place, instead of what it found before. -/
def remember (place : Nat) (finding : Finding Rule) : Step Rule Unit :=
  modify fun state =>
    { state with findings := state.findings.modify place fun findings =>
        finding :: findings.filter fun other => !(other.rule == finding.rule) }

/-- What the values of a matched alternative give. -/
def conclude (wording : String → String) : Outcome → Step Rule (Option Value)
  | .value value => return some value
  | .nothing => return none
  | .mistake message => throw (.mistake (wording message))
  | .inner message => throw (.mistake message)

end Reader

namespace Reader

variable [BEq Rule] (grammar : Grammar Rule) (scan : Scan) (tokens : Array Token)

mutual

/-- What a rule finds at the place. The bound limits how deep rules and patterns stand inside each
other. -/
def rule : Nat → Rule → Step Rule (Option Value)
  | 0, _ => return none
  | bound + 1, name => do
      let definition := grammar.define name
      let start := (← get).taken
      let _ ← look scan tokens
      match definition.memory with
      | .forgets => body bound definition
      | .remembers =>
          match ← known name start with
          | some finding =>
              moveTo finding.stop
              return finding.value
          | none =>
              let value ← body bound definition
              remember start ⟨name, value, (← get).taken⟩
              return value
      | .grows =>
          match ← known name start with
          | some finding =>
              moveTo finding.stop
              return finding.value
          | none => grow bound name definition start none start

/-- The alternatives of a rule, without diagnosis in a plain one. -/
def body : Nat → Definition Rule → Step Rule (Option Value)
  | 0, _ => return none
  | bound + 1, definition => do
      let before := (← get).diagnoses
      if definition.isPlain then modify fun state => { state with diagnoses := false }
      let value ← firstOf bound (← get).taken definition.alternatives
      modify fun state => { state with diagnoses := before }
      return value

/-- Read a rule that stands at its own front again and again, as long as it finds more. -/
def grow : Nat → Rule → Definition Rule → (start : Nat) → (best : Option Value) → (stop : Nat) →
    Step Rule (Option Value)
  | 0, _, _, _, best, _ => return best
  | bound + 1, name, definition, start, best, stop => do
      remember start ⟨name, best, stop⟩
      moveTo start
      let value ← body bound definition
      let reached := (← get).taken
      if value.isSome && stop < reached then grow bound name definition start value reached
      else
        moveTo stop
        return best

/-- The first alternative that matches. -/
def firstOf : Nat → (start : Nat) → List (Alternative Rule) → Step Rule (Option Value)
  | 0, _, _ => return none
  | _, _, [] => return none
  | bound + 1, start, .mk isDiagnosis patterns action :: others => do
      if isDiagnosis && !(← get).diagnoses then firstOf bound start others
      else
        match ← all bound false patterns with
        | (_, some values) => conclude grammar.wording (action values)
        | (committed, none) =>
            moveTo start
            if committed then return none else firstOf bound start others

/-- The values of all patterns in a row, and whether one of them committed to them. -/
def all : Nat → (committed : Bool) → List (Pattern Rule) →
    Step Rule (Bool × Option (List Value))
  | 0, committed, _ => return (committed, none)
  | _, committed, [] => return (committed, some [])
  | bound + 1, _, .commit :: patterns => do
      let (committed, values) ← all bound true patterns
      return (committed, values.map (.nothing :: ·))
  | bound + 1, committed, pattern :: patterns => do
      match ← one bound pattern with
      | none => return (committed, none)
      | some value =>
          let (committed, values) ← all bound committed patterns
          return (committed, values.map (value :: ·))

/-- The value of one pattern. -/
def one : Nat → Pattern Rule → Step Rule (Option Value)
  | 0, _ => return none
  | bound + 1, pattern => do
      let start := (← get).taken
      match pattern with
      | .rule name => rule bound name
      | .token accepts =>
          let token ← look scan tokens
          if accepts token.kind then
            moveTo (start + 1)
            return some (.token token)
          else return none
      | .ahead pattern =>
          let value ← one bound pattern
          moveTo start
          return value.map fun _ => .nothing
      | .notAhead pattern =>
          let value ← one bound pattern
          moveTo start
          return if value.isSome then none else some .nothing
      | .optional pattern => return some ((← one bound pattern).getD .nothing)
      | .many pattern => return some (.many (← repeated bound pattern))
      | .several pattern =>
          let values ← repeated bound pattern
          return if values.isEmpty then none else some (.many values)
      | .separated separator pattern =>
          match ← one bound pattern with
          | none => return none
          | some value =>
              let following : Pattern Rule :=
                .choice [.mk false [separator, pattern] fun
                  | [_, value] => .value value
                  | _ => .nothing]
              return some (.many (value :: (← repeated bound following)))
      | .choice alternatives => firstOf bound start alternatives
      | .commit => return some .nothing
      | .lastTaken => return (tokens[start - 1]?).map .token

/-- The values of a pattern as often as it matches. -/
def repeated : Nat → Pattern Rule → Step Rule (List Value)
  | 0, _ => return []
  | bound + 1, pattern => do
      let start := (← get).taken
      match ← one bound pattern with
      | none =>
          moveTo start
          return []
      | some value => return value :: (← repeated bound pattern)

end

end Reader

end Literal
end Console
end Typings
