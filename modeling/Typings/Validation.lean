import Typings.Json.Value
import Typings.Text.Surrogate

/-!
# Checking values against a schema

A check either accepts a value or rejects it with every issue it found, each with the way to it.

* `Mismatch`: what is wrong at one place, with its message;
* `Checked`: the result of a check; as an applicative functor it keeps the issues of both sides,
  in order;
* `Json.asText`, `Json.asFlag`, `Json.asList`, `Json.asTable`: checks of single values;
* `Fields.required`, `Fields.optional`: checks of the fields of a record.

A field is found under its name or under its alternative name; the name wins when both are there.
-/

namespace Typings

/-! ## Issues -/

inductive Mismatch where
  | missing
  | notText
  | notUnicode
  | notList
  | notTable
  | notRecord (record : String)
  | notSymbol
  | notVisibility
  | notFlag
  | unclearFlag
  | untagged
  | unknownTag (tag : String)
  | unparsedInteger
  | oversizedInteger
  | fractionalInteger
  | infiniteInteger
  | unparsedNumber
  | notInteger
  | notNumber
  | belowLeast (least : Nat)
  | aboveGreatest (greatest : Nat)
deriving DecidableEq, Repr

def Mismatch.message : Mismatch → String
  | .missing => "Field required"
  | .notText => "Input should be a valid string"
  | .notUnicode =>
      "Input should be a valid string, unable to parse raw data as a unicode string"
  | .notList => "Input should be a valid list"
  | .notTable => "Input should be a valid dictionary"
  | .notRecord record => s!"Input should be a valid dictionary or instance of {record}"
  | .notSymbol => "Input should be a valid dictionary or object to extract fields from"
  | .notVisibility => "Input should be 'public', 'protected' or 'restricted'"
  | .notFlag => "Input should be a valid boolean"
  | .unclearFlag => "Input should be a valid boolean, unable to interpret input"
  | .untagged => "Unable to extract tag using discriminator 'kind'"
  | .unknownTag tag =>
      s!"Input tag '{tag}' found using 'kind' does not match any of the expected tags: " ++
        "'namespace', 'class', 'enum', 'interface', 'typedef'"
  | .unparsedInteger => "Input should be a valid integer, unable to parse string as an integer"
  | .oversizedInteger => "Unable to parse input string as an integer, exceeded maximum size"
  | .fractionalInteger => "Input should be a valid integer, got a number with a fractional part"
  | .infiniteInteger => "Input should be a finite number"
  | .unparsedNumber => "Input should be a valid number, unable to parse string as a number"
  | .notInteger => "Input should be a valid integer"
  | .notNumber => "Input should be a valid number"
  | .belowLeast least => s!"Input should be greater than or equal to {least}"
  | .aboveGreatest greatest => s!"Input should be less than or equal to {greatest}"

/-- A mismatch and the way to it from the whole value. -/
structure Issue where
  path : List String
  mismatch : Mismatch
deriving DecidableEq, Repr

def Issue.message (issue : Issue) : String :=
  ".".intercalate issue.path ++ ": " ++ issue.mismatch.message

/-- All issues in one line. -/
def Issue.summary (issues : List Issue) : String :=
  "; ".intercalate (issues.map Issue.message)

/-! ## Results of checks -/

inductive Checked (α : Type) where
  | accepted (value : α)
  | rejected (issues : List Issue)
deriving DecidableEq

namespace Checked

variable {α β : Type}

def map (f : α → β) : Checked α → Checked β
  | .accepted value => .accepted (f value)
  | .rejected issues => .rejected issues

/-- Apply an accepted function to an accepted value; otherwise keep the issues of both. -/
def apply (f : Checked (α → β)) (x : Checked α) : Checked β :=
  match f, x with
  | .accepted f, .accepted x => .accepted (f x)
  | .accepted _, .rejected issues => .rejected issues
  | .rejected issues, .accepted _ => .rejected issues
  | .rejected issues, .rejected more => .rejected (issues ++ more)

instance : Functor Checked where
  map := map

instance : Applicative Checked where
  pure := .accepted
  seq f x := apply f (x ())

/-- A rejection for one reason at the value itself. -/
def reject (mismatch : Mismatch) : Checked α :=
  .rejected [⟨[], mismatch⟩]

/-- Place the issues of a check behind one more step of the way. -/
def within (step : String) : Checked α → Checked α
  | .accepted value => .accepted value
  | .rejected issues => .rejected (issues.map fun issue => ⟨step :: issue.path, issue.mismatch⟩)

end Checked

/-! ## Single values -/

namespace Json

def asText : Json → Checked String
  | .str text => .accepted text
  | _ => .reject .notText

/-- The flag that a word stands for, in any case. -/
def flagOfWord? (word : String) : Option Bool :=
  let lower := String.ofList (word.toList.map Char.toLower)
  if lower ∈ ["0", "off", "f", "false", "n", "no"] then some false
  else if lower ∈ ["1", "on", "t", "true", "y", "yes"] then some true
  else none

/-- The first whole number that is too large for 64 bits with a sign, 2^63. -/
def signedLimit : Int := 9223372036854775808

/-- The flag that a whole number stands for: nought and one are clear, other numbers of 64 bits
are not, and larger ones are no flags at all. -/
def flagOfInt (least : Int) (value : Int) : Checked Bool :=
  if value = 0 then .accepted false
  else if value = 1 then .accepted true
  else if least ≤ value ∧ value < signedLimit then .reject .unclearFlag
  else .reject .notFlag

def asFlag : Json → Checked Bool
  | .bool flag => .accepted flag
  | .int value => flagOfInt (-signedLimit) value
  | .float value =>
      match value.wholeValue? with
      | some whole => flagOfInt (1 - signedLimit) whole
      | none => .reject .notFlag
  | .str word =>
      match flagOfWord? word with
      | some flag => .accepted flag
      | none => .reject (if (Surrogate.fault? word).isSome then .notUnicode else .unclearFlag)
  | _ => .reject .notFlag

variable {α : Type}

/-- Check the items of a list, each behind its position. -/
def checkItems (check : Json → Checked α) : Nat → List Json → Checked (List α)
  | _, [] => .accepted []
  | position, item :: items =>
      List.cons <$> (check item).within (toString position) <*>
        checkItems check (position + 1) items

def asList (check : Json → Checked α) : Json → Checked (List α)
  | .arr items => checkItems check 0 items
  | _ => .reject .notList

/-- Check the values of a table, each behind its key; surrogates in a key are replaced. -/
def checkEntries (check : Json → Checked α) : List (String × Json) → Checked (List (String × α))
  | [] => .accepted []
  | (key, value) :: entries =>
      List.cons <$> (Prod.mk key <$> (check value).within (Surrogate.replaced key)) <*>
        checkEntries check entries

def asTable (check : Json → Checked α) : Json → Checked (List (String × α))
  | .obj entries => checkEntries check entries
  | _ => .reject .notTable

/-- A value that may be absent. -/
def asOptional (check : Json → Checked α) : Json → Checked (Option α)
  | .null => .accepted none
  | value => some <$> check value

end Json

/-! ## Records -/

/-- The name of a field and the other name under which it is accepted. -/
structure FieldName where
  name : String
  alternative : String
deriving DecidableEq, Repr

/-- The fields of a record as they were read. -/
abbrev Fields := List (String × Json)

namespace Fields

variable {α : Type}

/-- A field with the key under which it was found. -/
def find? (fields : Fields) (field : FieldName) : Option (String × Json) :=
  match List.lookup field.name fields with
  | some value => some (field.name, value)
  | none => (List.lookup field.alternative fields).map fun value => (field.alternative, value)

def required (fields : Fields) (field : FieldName) (check : Json → Checked α) : Checked α :=
  match fields.find? field with
  | some (key, value) => (check value).within key
  | none => (Checked.reject .missing).within field.name

/-- A field that stands for `absent` when it is not there. -/
def optional (fields : Fields) (field : FieldName) (absent : α) (check : Json → Checked α) :
    Checked α :=
  match fields.find? field with
  | some (key, value) => (check value).within key
  | none => .accepted absent

end Fields

/-- Check a value that has to be a record. -/
def Json.asRecord {α : Type} (record : String) (check : Fields → Checked α) : Json → Checked α
  | .obj fields => check fields
  | _ => .reject (.notRecord record)

/-- A field with one name only. -/
def plainName (name : String) : FieldName := ⟨name, name⟩

end Typings
