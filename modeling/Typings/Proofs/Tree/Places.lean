import Typings.Proofs.Tree.Plain
import Typings.Session

/-!
# Methods at their places

The methods and the constructor of a declaration have places, the constructor the last one. A
change that depends on the place covers both ways in which methods come to change: all methods of a
declaration at once, and the first one of a name alone.

* `Declaration.mapPlaces`: a change of every method that depends on its place;
* `Declaration.callables_mapPlaces`, `Declaration.mapPlaces_congr`: it is told by what it does to
  each method at its place;
* `Declaration.place`: the first place of a method of a name;
* `Declaration.modifyMethod_eq_mapPlaces`: a change of the first method of a name.
-/

namespace Typings

/-! ## Lists -/

section Lists

variable {α : Type} (condition : α → Bool) (f : α → α)

theorem mapIdx_const (l : List α) : l.mapIdx (fun _ => f) = l.map f := by
  refine List.ext_getElem? fun place => ?_
  rw [List.getElem?_map, List.getElem?_mapIdx]

theorem mapIdx_eq_self {f : Nat → α → α} {l : List α}
    (h : ∀ place x, l[place]? = some x → f place x = x) : l.mapIdx f = l := by
  refine List.ext_getElem? fun place => ?_
  rw [List.getElem?_mapIdx]
  cases hx : l[place]? with
  | none => rfl
  | some x => rw [Option.map_some, h place x hx]

/-- A change of the first element that satisfies a condition is a change at its place. -/
theorem modifyFirst_eq_mapIdx (l : List α) :
    modifyFirst condition f l =
      l.mapIdx fun place x => if place = l.findIdx condition then f x else x := by
  induction l with
  | nil => rfl
  | cons x xs ih =>
      rw [modifyFirst, List.mapIdx_cons, List.findIdx_cons]
      cases condition x with
      | true => simpa using (mapIdx_eq_self fun _ _ _ => rfl).symm
      | false => simp [ih]

end Lists

/-! ## Bodies -/

/-- The body with every method changed by its place; the constructor has the last one. -/
def Body.mapPlaces (f : Nat → Method → Method) (body : Body) : Body :=
  match body with
  | .nameSpace members => .nameSpace { members with methods := members.methods.mapIdx f }
  | .classType base interfaces constructor members =>
      .classType base interfaces (constructor.map (f members.methods.length))
        { members with methods := members.methods.mapIdx f }
  | .interfaceType base members =>
      .interfaceType base { members with methods := members.methods.mapIdx f }
  | other => other

namespace Body

variable (f g : Nat → Method → Method) (body : Body)

theorem methods_mapPlaces : (body.mapPlaces f).methods = body.methods.mapIdx f := by
  cases body <;> rfl

theorem constructor?_mapPlaces :
    (body.mapPlaces f).constructor? = body.constructor?.map (f body.methods.length) := by
  cases body <;> rfl

theorem kind_mapPlaces : (body.mapPlaces f).kind = body.kind := by
  cases body <;> rfl

theorem mapPlaces_mapPlaces :
    (body.mapPlaces f).mapPlaces g = body.mapPlaces fun place => g place ∘ f place := by
  cases body <;> simp [mapPlaces, Function.comp_def]

theorem mapMethods_eq_mapPlaces (change : Method → Method) :
    body.mapMethods change = body.mapPlaces fun _ => change := by
  cases body <;> simp [mapMethods, mapPlaces, mapIdx_const]

variable {f g body}

theorem mapPlaces_congr (hmethods : body.methods.mapIdx f = body.methods.mapIdx g)
    (hconstructor : body.constructor?.map (f body.methods.length) =
      body.constructor?.map (g body.methods.length)) :
    body.mapPlaces f = body.mapPlaces g := by
  cases body with
  | nameSpace members =>
      exact congrArg (fun methods => Body.nameSpace { members with methods }) hmethods
  | classType base interfaces constructor members =>
      exact congrArg₂ (fun constructor methods =>
        Body.classType base interfaces constructor { members with methods }) hconstructor hmethods
  | interfaceType base members =>
      exact congrArg (fun methods => Body.interfaceType base { members with methods }) hmethods
  | _ => rfl

end Body

/-! ## Declarations -/

namespace Declaration

/-- The declaration with every method changed by its place. -/
def mapPlaces (f : Nat → Method → Method) (d : Declaration) : Declaration :=
  { d with body := d.body.mapPlaces f }

variable {f g : Nat → Method → Method} {d : Declaration}

theorem callables_mapPlaces (f : Nat → Method → Method) (d : Declaration) :
    (d.mapPlaces f).callables = d.callables.mapIdx f := by
  rw [callables, callables, mapPlaces, Body.methods_mapPlaces, Body.constructor?_mapPlaces,
    List.mapIdx_append]
  cases d.body.constructor? <;> simp

theorem kind_mapPlaces (f : Nat → Method → Method) (d : Declaration) :
    (d.mapPlaces f).kind = d.kind :=
  d.body.kind_mapPlaces f

theorem isContainer_mapPlaces (f : Nat → Method → Method) (d : Declaration) :
    (d.mapPlaces f).isContainer = d.isContainer := by
  rw [isContainer, isContainer, mapPlaces]
  cases d.body <;> simp [Body.mapPlaces]

theorem mapPlaces_mapPlaces (f g : Nat → Method → Method) (d : Declaration) :
    (d.mapPlaces f).mapPlaces g = d.mapPlaces fun place => g place ∘ f place :=
  congrArg (fun body => { d with body }) (Body.mapPlaces_mapPlaces f g d.body)

theorem mapMethods_eq_mapPlaces (change : Method → Method) (d : Declaration) :
    d.mapMethods change = d.mapPlaces fun _ => change :=
  congrArg (fun body => { d with body }) (Body.mapMethods_eq_mapPlaces d.body change)

/-- Two changes are the same to a declaration when they do the same to each of its methods. -/
theorem mapPlaces_congr
    (h : ∀ place method, d.callables[place]? = some method → f place method = g place method) :
    d.mapPlaces f = d.mapPlaces g := by
  have hmethods : d.body.methods.mapIdx f = d.body.methods.mapIdx g := by
    refine List.ext_getElem? fun place => ?_
    rw [List.getElem?_mapIdx, List.getElem?_mapIdx]
    cases hmethod : d.body.methods[place]? with
    | none => rfl
    | some method =>
        have hplace : d.callables[place]? = some method := by
          rw [callables, List.getElem?_append_left (List.getElem?_eq_some_iff.1 hmethod).1, hmethod]
        rw [Option.map_some, Option.map_some, h place method hplace]
  have hconstructor : d.body.constructor?.map (f d.body.methods.length) =
      d.body.constructor?.map (g d.body.methods.length) := by
    cases hlast : d.body.constructor? with
    | none => rfl
    | some method =>
        have hplace : d.callables[d.body.methods.length]? = some method := by
          rw [callables, hlast, List.getElem?_append_right (Nat.le_refl _), Nat.sub_self]
          rfl
        rw [Option.map_some, Option.map_some, h _ method hplace]
  exact congrArg (fun body => { d with body }) (Body.mapPlaces_congr hmethods hconstructor)

theorem mapPlaces_self (h : ∀ place method, d.callables[place]? = some method →
    f place method = method) : d.mapPlaces f = d := by
  rw [mapPlaces_congr (g := fun _ => id) h, ← mapMethods_eq_mapPlaces, mapMethods,
    Body.mapMethods_id]

end Declaration

/-! ## The first method of a name -/

namespace Declaration

/-- The first place of a method of a full name; the number of places when there is none. -/
def place (fullName : String) (d : Declaration) : Nat :=
  d.callables.findIdx fun method => method.fullName = fullName

/-- Changing the first method of a name is a change at its place. -/
theorem modifyMethod_eq_mapPlaces (fullName : String) (change : Method → Method)
    (d : Declaration) :
    { d with body := d.body.modifyMethod fullName change } =
      d.mapPlaces fun place method =>
        if place = d.place fullName then change method else method := by
  refine congrArg (fun body => { d with body }) ?_
  rw [Declaration.place, callables]
  cases d.body with
  | nameSpace members | interfaceType base members =>
      simp [Body.modifyMethod, Body.mapPlaces, Body.methods, Body.constructor?,
        modifyFirst_eq_mapIdx]
  | classType base interfaces constructor members =>
      simp only [Body.modifyMethod, Body.mapPlaces, Body.methods, Body.constructor?,
        List.findIdx_append, List.findIdx_lt_length]
      split
      case isTrue hany =>
        -- the constructor stands behind the first method of the name
        have hlt := List.findIdx_lt_length.2 (List.any_eq_true.1 hany)
        simp only [modifyFirst_eq_mapIdx, if_pos (List.any_eq_true.1 hany), if_neg hlt.ne',
          Option.map_id']
      case isFalse hnone =>
        -- no method in front of the constructor has the name
        have hplace : ∀ place, place < members.methods.length →
            place ≠ constructor.toList.findIdx (fun method => method.fullName = fullName) +
              members.methods.length := by
          omega
        simp only [if_neg fun h => hnone (List.any_eq_true.2 h)]
        rw [mapIdx_eq_self fun place method hmethod =>
          if_neg (hplace place (List.getElem?_eq_some_iff.1 hmethod).1)]
        cases constructor with
        | none => rfl
        | some method =>
            by_cases hname : method.fullName = fullName
            · simp [hname]
            · simp [hname]
  | _ => rfl

end Declaration
end Typings
