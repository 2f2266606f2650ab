import Typings.Proofs.Json.Regular

/-!
# Inside values

What a value holds at any depth: how far its arrays and objects are nested, the keys of its objects
and its floating-point numbers.

* `Json.depth`, `Json.keys`, `Json.numbers`: these three;
* `Json.obstacle?_eq_none_iff`: depth and keys decide whether a value may be written;
* `Json.finiteOnly_eq_self`: only a number that is not finite is replaced.
-/

namespace Typings

theorem map_eq_self {α : Type} {change : α → α} {items : List α}
    (h : ∀ item ∈ items, change item = item) : items.map change = items :=
  (List.map_congr_left h).trans (List.map_id items)

namespace Json

variable {room : Nat}

/-! ## Depth and parts -/

mutual

/-- How many arrays and objects stand inside each other in a value. -/
def depth : Json → Nat
  | .arr items => itemsDepth items + 1
  | .obj fields => fieldsDepth fields + 1
  | _ => 0

def itemsDepth : List Json → Nat
  | [] => 0
  | item :: items => max (depth item) (itemsDepth items)

def fieldsDepth : List (String × Json) → Nat
  | [] => 0
  | (_, value) :: fields => max (depth value) (fieldsDepth fields)

end

mutual

/-- A value and all values inside it. -/
def parts : Json → List Json
  | .arr items => .arr items :: itemsParts items
  | .obj fields => .obj fields :: fieldsParts fields
  | other => [other]

def itemsParts : List Json → List Json
  | [] => []
  | item :: items => parts item ++ itemsParts items

def fieldsParts : List (String × Json) → List Json
  | [] => []
  | (_, value) :: fields => parts value ++ fieldsParts fields

end

/-- The keys of a value that is an object. -/
def ownKeys : Json → List String
  | .obj fields => Table.keys fields
  | _ => []

def ownNumber? : Json → Option Binary64
  | .float value => some value
  | _ => none

/-- The keys of all objects in a value. -/
def keys (value : Json) : List String :=
  value.parts.flatMap ownKeys

/-- The floating-point numbers in a value. -/
def numbers (value : Json) : List Binary64 :=
  value.parts.filterMap ownNumber?

theorem itemsDepth_le_iff {items : List Json} :
    itemsDepth items ≤ room ↔ ∀ item ∈ items, item.depth ≤ room := by
  induction items with
  | nil => simp [itemsDepth]
  | cons item items ih => rw [itemsDepth, Nat.max_le, ih, List.forall_mem_cons]

theorem fieldsDepth_le_iff {fields : List (String × Json)} :
    fieldsDepth fields ≤ room ↔ ∀ field ∈ fields, field.2.depth ≤ room := by
  induction fields with
  | nil => simp [fieldsDepth]
  | cons field fields ih => rw [fieldsDepth, Nat.max_le, ih, List.forall_mem_cons]

theorem itemsParts_eq_flatMap (items : List Json) : itemsParts items = items.flatMap parts := by
  induction items with
  | nil => rfl
  | cons item items ih => rw [itemsParts, ih, List.flatMap_cons]

theorem fieldsParts_eq_flatMap (fields : List (String × Json)) :
    fieldsParts fields = fields.flatMap fun field => field.2.parts := by
  induction fields with
  | nil => rfl
  | cons field fields ih => rw [fieldsParts, ih, List.flatMap_cons]

theorem keys_arr (items : List Json) : (Json.arr items).keys = items.flatMap keys := by
  rw [keys, parts, List.flatMap_cons, itemsParts_eq_flatMap, List.flatMap_assoc]
  rfl

theorem keys_obj (fields : List (String × Json)) :
    (Json.obj fields).keys = Table.keys fields ++ fields.flatMap fun field => field.2.keys := by
  rw [keys, parts, List.flatMap_cons, fieldsParts_eq_flatMap, List.flatMap_assoc]
  rfl

theorem numbers_arr (items : List Json) : (Json.arr items).numbers = items.flatMap numbers := by
  rw [numbers, parts, List.filterMap_cons, itemsParts_eq_flatMap, List.filterMap_flatMap]
  rfl

theorem numbers_obj (fields : List (String × Json)) :
    (Json.obj fields).numbers = fields.flatMap fun field => field.2.numbers := by
  rw [numbers, parts, List.filterMap_cons, fieldsParts_eq_flatMap, List.filterMap_flatMap]
  rfl

/-! ## Writing -/

theorem fieldsObstacle?_eq_none_iff {fields : List (String × Json)} :
    fieldsObstacle? room fields = none ↔
      ∀ field ∈ fields, Surrogate.fault? field.1 = none ∧ obstacle? room field.2 = none := by
  induction fields with
  | nil => simp [fieldsObstacle?]
  | cons field fields ih =>
      rw [List.forall_mem_cons, ← ih, fieldsObstacle?]
      cases Surrogate.fault? field.1 with
      | none => simp
      | some fault => simp

/-- A value may be written unless it is nested too deep or has a key with a surrogate. -/
theorem obstacle?_eq_none_iff {value : Json} :
    obstacle? room value = none ↔
      value.depth ≤ room ∧ ∀ key ∈ value.keys, Surrogate.fault? key = none := by
  induction value using Json.induct generalizing room with
  | null => simp [obstacle?, depth, keys, parts, ownKeys]
  | bool value => simp [obstacle?, depth, keys, parts, ownKeys]
  | int value => simp [obstacle?, depth, keys, parts, ownKeys]
  | float value => simp [obstacle?, depth, keys, parts, ownKeys]
  | str value => simp [obstacle?, depth, keys, parts, ownKeys]
  | arr items ih =>
      rw [obstacle?, depth, keys_arr]
      cases room with
      | zero => simp
      | succ room =>
          have hitems : itemsObstacle? room items = none ↔ ∀ item ∈ items,
              item.depth ≤ room ∧ ∀ key ∈ item.keys, Surrogate.fault? key = none :=
            itemsObstacle?_eq_none_iff.trans (forall₂_congr fun item hitem => ih item hitem)
          rw [if_neg (Nat.succ_ne_zero room), Nat.add_sub_cancel, hitems,
            Nat.add_le_add_iff_right, itemsDepth_le_iff, List.forall_mem_flatMap]
          simp only [imp_and, forall_and]
  | obj fields ih =>
      rw [obstacle?, depth, keys_obj]
      cases room with
      | zero => simp
      | succ room =>
          have hfields : fieldsObstacle? room fields = none ↔ ∀ field ∈ fields,
              Surrogate.fault? field.1 = none ∧ field.2.depth ≤ room ∧
                ∀ key ∈ field.2.keys, Surrogate.fault? key = none :=
            fieldsObstacle?_eq_none_iff.trans
              (forall₂_congr fun field hfield => and_congr_right fun _ => ih field hfield)
          rw [if_neg (Nat.succ_ne_zero room), Nat.add_sub_cancel, hfields,
            Nat.add_le_add_iff_right, fieldsDepth_le_iff, List.forall_mem_append,
            List.forall_mem_flatMap, Table.keys, List.forall_mem_map]
          simp only [imp_and, forall_and]
          exact and_left_comm

/-! ## Finite numbers -/

/-- A value is left as it is when all its numbers are finite. -/
theorem finiteOnly_eq_self {value : Json} (h : ∀ number ∈ value.numbers, number.isFinite = true) :
    value.finiteOnly = value := by
  induction value using Json.induct with
  | null => rfl
  | bool value => rfl
  | int value => rfl
  | float value =>
      have hvalue : value.isFinite = true := h value (by simp [numbers, parts, ownNumber?])
      rw [finiteOnly, if_pos hvalue]
  | str value => rfl
  | arr items ih =>
      rw [numbers_arr, List.forall_mem_flatMap] at h
      rw [finiteOnly, finiteItems_eq_map]
      exact congrArg Json.arr (map_eq_self fun item hitem => ih item hitem (h item hitem))
  | obj fields ih =>
      rw [numbers_obj, List.forall_mem_flatMap] at h
      rw [finiteOnly, finiteFields_eq_map]
      refine congrArg Json.obj (map_eq_self fun field hfield => ?_)
      rw [ih field hfield (h field hfield)]

end Json
end Typings
