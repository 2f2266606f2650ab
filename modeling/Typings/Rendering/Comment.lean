import Typings.Text.Blank
import Typings.Text.Pieces

/-!
# Comments in front of declarations

* `Comment.escapeEnd`: a text in which nothing ends a comment;
* `Comment.format`: the lines of a comment from its description and its tags.
-/

namespace Typings
namespace Comment

/-- Every end of a comment broken by a backslash. -/
def escapeEnd : List Char → List Char
  | [] => []
  | '*' :: '/' :: rest => '*' :: '\\' :: '/' :: escapeEnd rest
  | c :: rest => c :: escapeEnd rest

/-- What every line between the first and the last starts with. -/
def margin : List Char := [' ', '*', ' ']

/-- A line of the description, without blanks at its end. -/
def descriptionLine (line : List Char) : List Char :=
  Text.trimRight (escapeEnd (margin ++ Text.trimRight line))

/-- A tag on one line. -/
def tagLine (tag : List Char) : List Char :=
  escapeEnd (margin ++ Text.flattenLines tag)

/-- The lines of a description; a blank one has none. -/
def descriptionLines (description : List Char) : List (List Char) :=
  if Text.isBlankText description then []
  else (Text.lines (Text.trim description)).map descriptionLine

/-- The lines of a comment. -/
def format (description : String) (tags : List String) : List String :=
  ["/**"] ++ (descriptionLines description.toList).map String.ofList ++
    tags.map (fun tag => String.ofList (tagLine tag.toList)) ++ [" */"]

end Comment
end Typings
