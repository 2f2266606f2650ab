import Typings.Json.Value
import Typings.Text.Surrogate

/-!
# Values that can be written

A free-form value is written only when its arrays and objects are not nested too deeply and no key
in it holds a surrogate. `Json.obstacle?` finds the first reason against it, in the order of
writing.
-/

namespace Typings
namespace Json

/-- The greatest number of arrays and objects that stand inside each other in a free-form value. -/
def maxDepth : Nat := 254

/-- Why a value is not written. -/
inductive Obstacle where
  | nesting
  | key (fault : Surrogate.Fault)
deriving DecidableEq, Repr

def Obstacle.message : Obstacle → String
  | .nesting => "Maximum serialization depth exceeded"
  | .key fault => fault.message

mutual

/-- What keeps a value from being written; `room` is how many arrays and objects may stand inside
each other. -/
def obstacle? (room : Nat) : Json → Option Obstacle
  | .arr items => if room = 0 then some .nesting else itemsObstacle? (room - 1) items
  | .obj fields => if room = 0 then some .nesting else fieldsObstacle? (room - 1) fields
  | _ => none

def itemsObstacle? (room : Nat) : List Json → Option Obstacle
  | [] => none
  | item :: items => (obstacle? room item).or (itemsObstacle? room items)

def fieldsObstacle? (room : Nat) : List (String × Json) → Option Obstacle
  | [] => none
  | (key, value) :: fields =>
      match Surrogate.fault? key with
      | some fault => some (.key fault)
      | none => (obstacle? room value).or (fieldsObstacle? room fields)

end

end Json
end Typings
