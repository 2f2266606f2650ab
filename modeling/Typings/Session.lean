import Typings.Rendering.Definitions
import Typings.Rendering.Exports
import Typings.Tree.Outline

/-!
# Sessions

A session works on one tree in two phases: a draft, whose overriding methods are still as
documented, and then the reconciled tree, which alone can be rendered.

* `Session.start`, `Session.reconcile`: the two phases;
* `Session.definitions`, `Session.exports`, `Session.emit`: renderings, each with the session that
  it leaves behind;
* `PhaseError`, `SessionError`: why an operation is refused.
-/

namespace Typings

/-! ## Refusals -/

inductive PhaseError where
  | alreadyReconciled
  | notReconciled
deriving DecidableEq, Repr

def PhaseError.message : PhaseError → String
  | .alreadyReconciled => "Override reconciliation already ran on this tree"
  | .notReconciled => "Declarations can only be emitted from a reconciled tree"

inductive SessionError where
  | phase (error : PhaseError)
  | unsupportedKind (error : UnsupportedKind)
deriving DecidableEq, Repr

def SessionError.message : SessionError → String
  | .phase error => error.message
  | .unsupportedKind error => error.message

/-! ## Phases -/

inductive Session where
  | draft (tree : Tree)
  | reconciled (tree : Tree)
deriving DecidableEq

namespace Session

def start (config : Config) (documents : List Document) : Session :=
  .draft (.ofDocuments config documents)

def tree : Session → Tree
  | .draft tree | .reconciled tree => tree

/-- The tree once it is reconciled. -/
def reconciled? : Session → Option Tree
  | .draft _ => none
  | .reconciled tree => some tree

def reconcile : Session → Except PhaseError Session
  | .draft tree => .ok (.reconciled tree.reconcile)
  | .reconciled _ => .error .alreadyReconciled

/-! ## Rendering -/

/-- Run a rendering on a reconciled tree. -/
def withReconciled {α : Type} (session : Session) (run : Tree → Except UnsupportedKind α) :
    Except SessionError α :=
  match session with
  | .draft _ => .error (.phase .notReconciled)
  | .reconciled tree => (run tree).mapError .unsupportedKind

/-- The definitions of a library, or of all. -/
def definitions (session : Session) (library : Option String) : Except SessionError String :=
  session.withReconciled fun tree => Definitions.text tree.config library tree.forest

/-- The session after its definitions were rendered. -/
def afterDefinitions (session : Session) (library : Option String) : Session :=
  match session with
  | .draft tree => .draft tree
  | .reconciled tree =>
      .reconciled { tree with forest := Definitions.after tree.config library tree.forest }

/-- The exports of a library, or of all. -/
def exports (session : Session) (library : Option String) : Except SessionError String :=
  session.withReconciled fun tree => .ok (Exports.text tree.config library tree.forest)

/-- The blocks of the first method of a full name, when there is one. -/
def emit (session : Session) (fullName : String) :
    Except SessionError (Option (List String)) :=
  session.withReconciled fun tree =>
    match tree.forest.method? fullName with
    | some method => (method.blocks tree.config).map some
    | none => .ok none

end Session

/-! ## What emission leaves behind -/

/-- Change the first element that satisfies a condition. -/
def modifyFirst {α : Type} (condition : α → Bool) (f : α → α) : List α → List α
  | [] => []
  | x :: xs => if condition x then f x :: xs else x :: modifyFirst condition f xs

namespace Body

/-- The body with its first method of a full name changed; the constructor counts last. -/
def modifyMethod (fullName : String) (f : Method → Method) (body : Body) : Body :=
  let named (method : Method) : Bool := method.fullName = fullName
  let modify (members : Members) : Members :=
    { members with methods := modifyFirst named f members.methods }
  match body with
  | .nameSpace members => .nameSpace (modify members)
  | .classType base interfaces constructor members =>
      if members.methods.any named then .classType base interfaces constructor (modify members)
      else
        .classType base interfaces
          (constructor.map fun method => if named method then f method else method) members
  | .interfaceType base members => .interfaceType base (modify members)
  | other => other

end Body

namespace Forest

/-- Whether a declaration has a method or constructor of a full name. -/
def declares (fullName : String) (d : Declaration) : Bool :=
  d.callables.any fun method => method.fullName = fullName

/-- The forest with the first method or constructor of a full name changed. -/
def modifyMethod (fullName : String) (f : Method → Method) (forest : Forest) : Forest :=
  match (forest.walk.find? (declares fullName)).map (·.fullName) with
  | some owner =>
      forest.map fun d =>
        if d.fullName = owner then { d with body := d.body.modifyMethod fullName f } else d
  | none => forest

end Forest

namespace Session

/-- The session after the blocks of a method were made. -/
def afterEmit (session : Session) (fullName : String) : Session :=
  match session with
  | .draft tree => .draft tree
  | .reconciled tree =>
      .reconciled
        { tree with
          forest := tree.forest.modifyMethod fullName (Method.afterBlocks tree.config) }

end Session
end Typings
