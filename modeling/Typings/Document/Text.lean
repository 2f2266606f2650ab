import Typings.Document.Schema
import Typings.Json.Reader
import Typings.Json.Writable
import Typings.Json.Writer

/-!
# The text of documents

* `Document.parse`: a JSON text as a document;
* `Document.render`: a document as JSON text in a layout;
* `Document.obstacle?`, `Document.write`: what keeps a document from being written, and its text
  when nothing does;
* `Document.Malformed`, `Document.ParseError`: why a text is no document.
-/

namespace Typings
namespace Document

/-! ## Reading -/

inductive Malformed where
  | notJson (error : Json.SyntaxError)
  | offSchema (issues : List Issue)
deriving DecidableEq, Repr

namespace Malformed

def message : Malformed → String
  | .notJson _ => "Invalid JSON format"
  | .offSchema _ => "api.json validation failed"

/-- What the message leaves out. -/
def details : Malformed → String
  | .notJson error => error.message
  | .offSchema issues => Issue.summary issues

end Malformed

/-- A malformed document, or a limit of reading that the text exceeds. -/
inductive ParseError where
  | malformed (error : Malformed)
  | excess (excess : Json.Excess)
deriving DecidableEq, Repr

def ParseError.message : ParseError → String
  | .malformed error => error.message
  | .excess reason => reason.message

/-- A JSON value as a document. -/
def ofJson (value : Json) : Except Malformed Document :=
  match check value with
  | .accepted document => .ok document
  | .rejected issues => .error (.offSchema issues)

/-- A JSON text as a document. -/
def parse (text : String) : Except ParseError Document :=
  match Json.parse text with
  | .ok value => (ofJson value).mapError .malformed
  | .error (.notJson error) => .error (.malformed (.notJson error))
  | .error (.excess excess) => .error (.excess excess)

/-! ## Writing -/

/-- A document as JSON text. -/
def render (layout : Json.Layout) (document : Document) : String :=
  document.toJson.render layout

/-- What keeps the default values of parameters from being written. -/
def parametersObstacle? (parameters : List Parameter) : Option Json.Obstacle :=
  parameters.findSome? fun parameter => parameter.defaultValue.obstacle? Json.maxDepth

def Event.obstacle? (event : Event) : Option Json.Obstacle :=
  Json.fieldsObstacle? Json.maxDepth event.parameters

def Members.obstacle? (members : Members) : Option Json.Obstacle :=
  (members.methods.findSome? fun method => parametersObstacle? method.parameters).or
    (members.events.findSome? Event.obstacle?)

def Content.obstacle? : Content → Option Json.Obstacle
  | .nameSpace _ members | .interfaceType _ members => members.obstacle?
  | .classType _ _ _ constructor members =>
      (constructor.bind fun constructor => parametersObstacle? constructor.parameters).or
        members.obstacle?
  | .enumeration _ | .typeAlias => none

/-- What keeps a document from being written. -/
def obstacle? (document : Document) : Option Json.Obstacle :=
  document.symbols.findSome? fun symbol => symbol.content.obstacle?

/-- The text of a document that can be written. -/
def write (layout : Json.Layout) (document : Document) : Except Json.Obstacle String :=
  match document.obstacle? with
  | some obstacle => .error obstacle
  | none => .ok (document.render layout)

end Document
end Typings
