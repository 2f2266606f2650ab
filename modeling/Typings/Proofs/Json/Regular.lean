import Mathlib.Tactic.SplitIfs
import Typings.Json.Reader
import Typings.Json.Writable
import Typings.Number.Decimal

/-!
# Regular values

A regular value keeps within the limits of JSON texts: its whole numbers have few digits, its
objects have distinct keys, and its arrays and objects stand inside each other no deeper than
there is room. What its floating-point numbers have to be is a parameter.

* `Json.induct`: induction over a value with the values inside it as a list;
* `Binary64.InRange`, `Binary64.Writable`: the numbers that texts give, and those that texts take;
* `Json.Regular`: values that keep within the limits;
* `Json.Regular.finiteOnly`: a value without its infinite and undefined numbers can be written;
* `Json.Regular.of_obstacle?`: what may be written is nested no deeper than writing allows.
-/

namespace Typings

/-- A number that a text may write: a finite one is below the overflow. -/
def Binary64.InRange : Binary64 → Prop
  | .finite _ units _ => units < overflow
  | _ => True

/-- A number with a text of its own in JSON. -/
def Binary64.Writable (number : Binary64) : Prop :=
  number.isFinite = true ∧ number.InRange

namespace Json

/-! ## Induction -/

/-- Induction over a value with the values inside it as a list. -/
@[elab_as_elim]
theorem induct {motive : Json → Prop} (null : motive .null)
    (bool : ∀ value, motive (.bool value)) (int : ∀ value, motive (.int value))
    (float : ∀ value, motive (.float value)) (str : ∀ value, motive (.str value))
    (arr : ∀ items, (∀ item ∈ items, motive item) → motive (.arr items))
    (obj : ∀ fields, (∀ field ∈ fields, motive field.2) → motive (.obj fields))
    (value : Json) : motive value := by
  refine @Json.rec motive (fun items => ∀ item ∈ items, motive item)
    (fun fields => ∀ field ∈ fields, motive field.2) (fun field => motive field.2)
    null bool int float str arr obj ?_ ?_ ?_ ?_ (fun _ _ hvalue => hvalue) value
  · simp
  · intro item items hitem hitems
    exact List.forall_mem_cons.2 ⟨hitem, hitems⟩
  · simp
  · intro field fields hfield hfields
    exact List.forall_mem_cons.2 ⟨hfield, hfields⟩

variable {number : Binary64 → Prop} {room bound : Nat}

/-! ## Limits of texts -/

mutual

/-- A value within the limits of JSON texts. -/
def Regular (number : Binary64 → Prop) : Nat → Json → Prop
  | _, .int value => (decimalDigits value.natAbs).length ≤ maxDigits
  | _, .float value => number value
  | room, .arr items => 0 < room ∧ RegularItems number (room - 1) items
  | room, .obj fields =>
      0 < room ∧ (Table.keys fields).Nodup ∧ RegularFields number (room - 1) fields
  | _, _ => True

def RegularItems (number : Binary64 → Prop) : Nat → List Json → Prop
  | _, [] => True
  | room, item :: items => Regular number room item ∧ RegularItems number room items

def RegularFields (number : Binary64 → Prop) : Nat → List (String × Json) → Prop
  | _, [] => True
  | room, (_, value) :: fields => Regular number room value ∧ RegularFields number room fields

end

@[simp] theorem regular_bool (flag : Bool) : Regular number room (.bool flag) := trivial

@[simp] theorem regular_str (text : String) : Regular number room (.str text) := trivial

theorem regularItems_iff {items : List Json} :
    RegularItems number room items ↔ ∀ item ∈ items, Regular number room item := by
  induction items with
  | nil => simp [RegularItems]
  | cons item items ih => simp [RegularItems, ih]

theorem regularFields_iff {fields : List (String × Json)} :
    RegularFields number room fields ↔ ∀ field ∈ fields, Regular number room field.2 := by
  induction fields with
  | nil => simp [RegularFields]
  | cons field fields ih => simp [RegularFields, ih]

theorem regular_arr {items : List Json} :
    Regular number room (.arr items) ↔
      0 < room ∧ ∀ item ∈ items, Regular number (room - 1) item := by
  rw [Regular, regularItems_iff]

theorem regular_obj {fields : List (String × Json)} :
    Regular number room (.obj fields) ↔
      0 < room ∧ (Table.keys fields).Nodup ∧
        ∀ field ∈ fields, Regular number (room - 1) field.2 := by
  rw [Regular, regularFields_iff]

/-- A regular value stays regular with more room. -/
theorem Regular.mono {value : Json} (h : Regular number room value) (hle : room ≤ bound) :
    Regular number bound value := by
  induction value using Json.induct generalizing room bound with
  | null => trivial
  | bool value => trivial
  | int value => exact h
  | float value => exact h
  | str value => trivial
  | arr items ih =>
      rcases regular_arr.1 h with ⟨hroom, hitems⟩
      refine regular_arr.2 ⟨Nat.lt_of_lt_of_le hroom hle, ?_⟩
      intro item hmem
      exact ih item hmem (hitems item hmem) (Nat.sub_le_sub_right hle 1)
  | obj fields ih =>
      rcases regular_obj.1 h with ⟨hroom, hkeys, hfields⟩
      refine regular_obj.2 ⟨Nat.lt_of_lt_of_le hroom hle, hkeys, ?_⟩
      intro field hmem
      exact ih field hmem (hfields field hmem) (Nat.sub_le_sub_right hle 1)

/-! ## Finite numbers only -/

theorem finiteItems_eq_map (items : List Json) : finiteItems items = items.map finiteOnly := by
  induction items with
  | nil => rfl
  | cons item items ih => simp [finiteItems, ih]

theorem finiteFields_eq_map (fields : List (String × Json)) :
    finiteFields fields = fields.map fun field => (field.1, field.2.finiteOnly) := by
  induction fields with
  | nil => rfl
  | cons field fields ih => simp [finiteFields, ih]

theorem keys_finiteFields (fields : List (String × Json)) :
    Table.keys (finiteFields fields) = Table.keys fields := by
  simp [finiteFields_eq_map, Table.keys]

/-- A value without its infinite and undefined numbers can be written. -/
theorem Regular.finiteOnly {value : Json} (h : Regular Binary64.InRange room value) :
    Regular Binary64.Writable room value.finiteOnly := by
  induction value using Json.induct generalizing room with
  | null => trivial
  | bool value => trivial
  | int value => exact h
  | float value =>
      -- what is not finite becomes `null`
      rw [Json.finiteOnly]
      split_ifs with hfinite
      · exact ⟨hfinite, h⟩
      · trivial
  | str value => trivial
  | arr items ih =>
      rcases regular_arr.1 h with ⟨hroom, hitems⟩
      rw [Json.finiteOnly, finiteItems_eq_map, regular_arr]
      refine ⟨hroom, ?_⟩
      intro written hmem
      rcases List.mem_map.1 hmem with ⟨item, hitem, rfl⟩
      exact ih item hitem (hitems item hitem)
  | obj fields ih =>
      rcases regular_obj.1 h with ⟨hroom, hkeys, hfields⟩
      rw [Json.finiteOnly, regular_obj, keys_finiteFields, finiteFields_eq_map]
      refine ⟨hroom, hkeys, ?_⟩
      intro written hmem
      rcases List.mem_map.1 hmem with ⟨field, hfield, rfl⟩
      exact ih field hfield (hfields field hfield)

/-! ## Nesting -/

theorem itemsObstacle?_eq_none_iff {items : List Json} :
    itemsObstacle? room items = none ↔ ∀ item ∈ items, obstacle? room item = none := by
  induction items with
  | nil => simp [itemsObstacle?]
  | cons item items ih => simp [itemsObstacle?, ih]

theorem obstacle?_of_mem_fields {fields : List (String × Json)}
    (h : fieldsObstacle? room fields = none) : ∀ field ∈ fields, obstacle? room field.2 = none := by
  induction fields with
  | nil => simp
  | cons field fields ih =>
      rcases field with ⟨key, value⟩
      rw [fieldsObstacle?] at h
      split at h
      · cases h
      · rw [Option.or_eq_none_iff] at h
        simpa using ⟨h.1, fun name inner hmem => ih h.2 (name, inner) hmem⟩

/-- What may be written is nested no deeper than writing allows. -/
theorem Regular.of_obstacle? {value : Json} (h : Regular number bound value)
    (hfree : obstacle? room value = none) : Regular number room value := by
  induction value using Json.induct generalizing room bound with
  | null => trivial
  | bool value => trivial
  | int value => exact h
  | float value => exact h
  | str value => trivial
  | arr items ih =>
      -- the room is that of writing here, so nothing is taken from the old bound
      rcases regular_arr.1 h with ⟨-, hitems⟩
      rw [obstacle?] at hfree
      split_ifs at hfree with hroom
      refine regular_arr.2 ⟨Nat.pos_of_ne_zero hroom, ?_⟩
      intro item hmem
      exact ih item hmem (hitems item hmem) (itemsObstacle?_eq_none_iff.1 hfree item hmem)
  | obj fields ih =>
      rcases regular_obj.1 h with ⟨-, hkeys, hfields⟩
      rw [obstacle?] at hfree
      split_ifs at hfree with hroom
      refine regular_obj.2 ⟨Nat.pos_of_ne_zero hroom, hkeys, ?_⟩
      intro field hmem
      exact ih field hmem (hfields field hmem) (obstacle?_of_mem_fields hfree field hmem)

end Json
end Typings
