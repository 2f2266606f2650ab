import Typings.Proofs.Hierarchy.Rooted

/-!
# Changes of methods

Reconciliation changes the methods of classes and nothing else. What a hierarchy says about names
and base classes stays as it is under such a change:

* `get?_mapMethods`, `ancestors_mapMethods`: lookups and walks give the changed classes;
* `compatible_mapMethods`: compatibility of types does not look at methods;
* `rootedAt_mapMethods_iff`: rootedness does not either.
-/

namespace Typings

/-- A class with other methods. -/
def Class.withMethods (f : Class → List Method) (c : Class) : Class :=
  { c with methods := f c }

namespace Class

variable (f : Class → List Method) (c : Class)

@[simp] theorem withMethods_name : (c.withMethods f).name = c.name := rfl

@[simp] theorem withMethods_fullName : (c.withMethods f).fullName = c.fullName := rfl

@[simp] theorem withMethods_base : (c.withMethods f).base = c.base := rfl

@[simp] theorem withMethods_methods : (c.withMethods f).methods = f c := rfl

variable {f c} in
theorem withMethods_eq_self (heq : f c = c.methods) : c.withMethods f = c := by
  rw [withMethods, heq]

variable {f c} in
/-- A change that keeps names is no matter to what is declared under a name. -/
theorem method?_withMethods {change : Method → Method} (hmethods : f c = c.methods.map change)
    (hname : ∀ method, (change method).name = method.name)
    (hstatic : ∀ method, (change method).isStatic = method.isStatic) (name : String)
    (isStatic : Bool) :
    (c.withMethods f).method? name isStatic = (c.method? name isStatic).map change := by
  rw [method?, withMethods_methods, hmethods, List.find?_map, method?]
  simp only [Function.comp_def, hname, hstatic]

end Class

namespace Hierarchy

variable {h : Hierarchy} {c d : Class} {name : String} {n : Nat} (f g : Class → List Method)

/-! ## Tables and lookups -/

theorem mapMethods_mapMethods :
    (h.mapMethods f).mapMethods g = h.mapMethods fun c => g (c.withMethods f) := by
  simp [mapMethods, Class.withMethods, Function.comp_def]

theorem classes_mapMethods : (h.mapMethods f).classes = h.classes.map (Class.withMethods f) := rfl

theorem names_mapMethods : (h.mapMethods f).names = h.names := by
  simp [names, mapMethods, Function.comp_def]

theorem get?_mapMethods (name : String) :
    (h.mapMethods f).get? name = (h.get? name).map (Class.withMethods f) := by
  cases hpos : List.lookup name h.positions with
  | none => simp [get?, mapMethods, hpos]
  | some position =>
      simp only [get?, mapMethods, hpos, Option.bind_some, List.getElem?_map]
      rfl

theorem baseOf_congr (hbase : d.base = c.base) : h.baseOf d = h.baseOf c := by
  simp [baseOf, hbase]

theorem ancestors_congr (hbase : d.base = c.base) (hname : d.fullName = c.fullName) :
    h.ancestors d = h.ancestors c := by
  rw [ancestors, ancestors, baseOf_congr hbase, hname]

theorem baseOf_mapMethods (hbase : d.base = c.base) :
    (h.mapMethods f).baseOf d = (h.baseOf c).map (Class.withMethods f) := by
  rw [← baseOf_congr hbase]
  cases hstated : d.base with
  | none => simp [baseOf, hstated]
  | some name => simp [baseOf, hstated, get?_mapMethods]

theorem Coherent.mapMethods (hc : h.Coherent) : (h.mapMethods f).Coherent where
  nodup := by
    rw [names_mapMethods]
    exact hc.nodup
  found := by
    intro name
    rw [get?_mapMethods, hc.found, classes_mapMethods, List.find?_map]
    rfl
  contains := by
    intro name
    rw [names_mapMethods]
    exact hc.contains name
  within := by
    intro name position hmem
    rw [classes_mapMethods, List.length_map]
    exact hc.within name position hmem
  listed := by
    intro name
    have hold := hc.listed name
    simp only [subclassesOf, extensionsOf] at hold
    simp only [subclassesOf, extensionsOf, Hierarchy.mapMethods, List.getElem?_map,
      List.filter_map, Function.comp_def, ← hold, List.map_filterMap]

theorem subclassesOf_mapMethods (name : String) :
    (h.mapMethods f).subclassesOf name = (h.subclassesOf name).map (Class.withMethods f) := by
  simp only [subclassesOf, extensionsOf, mapMethods, List.getElem?_map, List.map_filterMap]
  rfl

theorem roots_mapMethods : (h.mapMethods f).roots = h.roots.map (Class.withMethods f) := by
  rw [roots, classes_mapMethods, List.filter_map]
  refine congrArg _ (List.filter_congr ?_)
  intro c _
  rw [Function.comp_apply, baseOf_mapMethods f (c.withMethods_base f), Option.isNone_map]

/-! ## Walks -/

theorem lineageWithin_mapMethods (unseen : List String) (c : Class) :
    (h.mapMethods f).lineageWithin unseen (c.withMethods f) =
      (h.lineageWithin unseen c).map (Class.withMethods f) := by
  fun_induction lineageWithin h unseen c with
  | case1 unseen c base hbase hmem ih =>
      have hbase' : (h.mapMethods f).baseOf (c.withMethods f) = some (base.withMethods f) := by
        rw [baseOf_mapMethods f (c.withMethods_base f), hbase]
        rfl
      rw [lineageWithin_of_baseOf_some hbase' hmem, List.map_cons]
      exact congrArg _ ih
  | case2 unseen c base hbase hmem =>
      have hbase' : (h.mapMethods f).baseOf (c.withMethods f) = some (base.withMethods f) := by
        rw [baseOf_mapMethods f (c.withMethods_base f), hbase]
        rfl
      rw [lineageWithin]
      simp [hbase', hmem]
  | case3 unseen c hbase =>
      have hbase' : (h.mapMethods f).baseOf (c.withMethods f) = none := by
        rw [baseOf_mapMethods f (c.withMethods_base f), hbase]
        rfl
      rw [lineageWithin_of_baseOf_none _ hbase']
      rfl

theorem lineage_mapMethods (c : Class) :
    (h.mapMethods f).lineage (c.withMethods f) = (h.lineage c).map (Class.withMethods f) := by
  rw [lineage, names_mapMethods, lineage]
  exact lineageWithin_mapMethods f _ c

/-- The ancestors of a class are found by its full name and base only. -/
theorem ancestors_mapMethods (hbase : d.base = c.base) (hname : d.fullName = c.fullName) :
    (h.mapMethods f).ancestors d = (h.ancestors c).map (Class.withMethods f) := by
  rw [ancestors, baseOf_mapMethods f hbase, ancestors]
  cases h.baseOf c with
  | none => rfl
  | some base =>
      simp only [Option.map_some]
      rw [lineage_mapMethods, List.takeWhile_map, hname]
      rfl

theorem descendantsWithin_mapMethods (unseen : List String) (name : String) :
    (h.mapMethods f).descendantsWithin unseen name = h.descendantsWithin unseen name := by
  fun_induction descendantsWithin h unseen name with
  | case1 unseen name ih =>
      rw [descendantsWithin, subclassesOf_mapMethods, List.flatMap_map]
      refine List.flatMap_congr ?_
      intro s _
      rw [Class.withMethods_fullName]
      split
      case isTrue hseen => rw [ih s hseen]
      case isFalse => rfl

/-- Which classes are settled, and in which order, does not depend on their methods. -/
theorem settlingOrder_mapMethods : (h.mapMethods f).settlingOrder = h.settlingOrder := by
  rw [settlingOrder, roots_mapMethods, List.flatMap_map, names_mapMethods, settlingOrder]
  refine List.flatMap_congr ?_
  intro root _
  exact descendantsWithin_mapMethods f _ _

theorem descendsByName_mapMethods (expected candidate : String) :
    (h.mapMethods f).descendsByName expected candidate =
      h.descendsByName expected candidate := by
  simp only [descendsByName, get?_mapMethods]
  cases h.get? expected with
  | none => rfl
  | some e =>
      cases h.get? candidate with
      | none => rfl
      | some c =>
          simp only [Option.map_some]
          rw [lineage_mapMethods, List.any_map]
          rfl

theorem compatible_mapMethods (expected candidate : String) :
    (h.mapMethods f).compatible expected candidate = h.compatible expected candidate := by
  simp only [compatible, descendsByName_mapMethods]

/-! ## Rootedness -/

theorem RootedAt.mapMethods (hr : h.RootedAt n c) (hbase : d.base = c.base) :
    (h.mapMethods f).RootedAt n d := by
  induction hr generalizing d with
  | root unresolved =>
      refine .root ?_
      rw [baseOf_mapMethods f hbase, unresolved]
      rfl
  | @climb n c base name stated nonempty found _ ih =>
      refine .climb (hbase.trans stated) nonempty ?_ (ih (base.withMethods_base f))
      rw [get?_mapMethods, found]
      rfl

theorem RootedAt.of_mapMethods (hr : (h.mapMethods f).RootedAt n d) (hbase : d.base = c.base) :
    h.RootedAt n c := by
  induction hr generalizing c with
  | root unresolved =>
      refine .root ?_
      rw [baseOf_mapMethods f hbase, Option.map_eq_none_iff] at unresolved
      exact unresolved
  | climb stated nonempty found _ ih =>
      rw [get?_mapMethods, Option.map_eq_some_iff] at found
      obtain ⟨base, hfound, rfl⟩ := found
      exact .climb (hbase.symm.trans stated) nonempty hfound (ih rfl)

theorem rootedAt_mapMethods_iff (hbase : d.base = c.base) :
    (h.mapMethods f).RootedAt n d ↔ h.RootedAt n c := by
  constructor
  · intro hr
    exact hr.of_mapMethods f hbase
  · intro hr
    exact hr.mapMethods f hbase

end Hierarchy
end Typings
