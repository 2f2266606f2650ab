import Typings.Config.Basic
import Typings.Text.Blank
import Typings.Vocabulary
import Typings.Warning

/-!
# Type texts

A documented type is a union of members between bars; a member is a name followed by any number
of array marks `[]`.

* `TypeText.replace`: the declared type for a documented one, member by member;
* `TypeText.warnings`: the types that the configuration wants to hear about, in order;
* `TypeText.arrayOf`: the array type of a type.
-/

namespace Typings
namespace TypeText

/-! ## Members -/

/-- The members of a type, blank ones left out. -/
def members (type : List Char) : List (List Char) :=
  (type.splitOn '|').filter fun member => !Text.isBlankText member

/-- What precedes an array mark at the end of a text. -/
def beforeMark? (text : List Char) : Option (List Char) :=
  match text.reverse with
  | ']' :: '[' :: rest => some rest.reverse
  | _ => none

theorem length_of_beforeMark? {text rest : List Char} (h : beforeMark? text = some rest) :
    rest.length + 2 = text.length := by
  unfold beforeMark? at h
  split at h
  · rename_i tail heq
    have := congrArg List.length heq
    simp only [List.length_reverse, List.length_cons] at this
    cases h
    simp only [List.length_reverse]
    omega
  · cases h

theorem length_trim_le (text : List Char) : (Text.trim text).length ≤ text.length := by
  have hsub : ∀ xs : List Char, (xs.dropWhile Text.isBlank).length ≤ xs.length :=
    fun xs => (List.dropWhile_sublist _).length_le
  simp only [Text.trim, Text.trimRight, Text.trimLeft, List.length_reverse]
  exact Nat.le_trans (hsub _) (by simpa using hsub text)

/-- A member without its array marks and the blanks around them, and the number of the marks. -/
def peel (member : List Char) : List Char × Nat :=
  match _h : beforeMark? (Text.trim member) with
  | some inner =>
      let (base, marks) := peel inner
      (base, marks + 1)
  | none => (Text.trim member, 0)
termination_by member.length
decreasing_by
  have := length_of_beforeMark? ‹_›
  have := length_trim_le member
  omega

/-! ## Replacing -/

/-- The replacement of a name: from the table for every type when it is there, otherwise from
the table of namespaces used as types, otherwise the name itself. -/
def replaceName (replacements : Config.Replacements) (name : String) : String :=
  match List.lookup name replacements.everywhere with
  | some replacement => replacement
  | none => (List.lookup name replacements.specific.namespaceAsType).getD name

/-- Array marks behind a type; a union is put between parentheses first. -/
def withMarks (base : String) (marks : Nat) : String :=
  let enclosed := if marks ≠ 0 ∧ '|' ∈ base.toList then "(" ++ base ++ ")" else base
  enclosed ++ String.join (List.replicate marks "[]")

/-- The name of a member after replacement, without its array marks. -/
def memberName (replacements : Config.Replacements) (member : List Char) : String :=
  replaceName replacements (String.ofList (peel member).1)

/-- The declared form of one member. -/
def replaceMember (replacements : Config.Replacements) (member : List Char) : String :=
  withMarks (memberName replacements member) (peel member).2

/-- Add a text to a list that does not hold it yet. -/
def addNew (texts : List String) (text : String) : List String :=
  if text ∈ texts then texts else texts ++ [text]

/-- The declared members, each once. -/
def replacedMembers (replacements : Config.Replacements) (type : String) : List String :=
  ((members type.toList).map (replaceMember replacements)).foldl addNew []

/-- The declared type for a documented one. No member at all, or the member `any`, makes the
whole type `any`. -/
def replace (replacements : Config.Replacements) (type : String) : String :=
  let parts := replacedMembers replacements type
  if parts = [] ∨ anyType ∈ parts then anyType else "|".intercalate parts

/-- The reports that replacing a type makes, one for every marked member. -/
def warnings (replacements : Config.Replacements) (type : String) : List Warning :=
  (members type.toList).filterMap fun member =>
    let name := memberName replacements member
    if name ∈ replacements.warnings then some (.markedType name) else none

/-! ## Arrays -/

/-- The array type of a type; a type that ends in an array mark is taken for an array already. -/
def arrayOf (type : String) : String :=
  match beforeMark? type.toList with
  | some _ => type
  | none => if '|' ∈ type.toList then "(" ++ type ++ ")[]" else type ++ "[]"

end TypeText
end Typings
