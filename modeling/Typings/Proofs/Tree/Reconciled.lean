import Typings.Proofs.Hierarchy.Settled
import Typings.Proofs.Tree.Outline

/-!
# Reconciled trees

Reconciling a tree changes the methods of its classes, in the hierarchy and in the forest alike, and
leaves everything else in place.

* `get?_reconcile`: a class in the reconciled hierarchy;
* `class?_withMethodsFrom`: a declared class with the methods of the hierarchy;
* `filterMap_class?_withMethodsFrom`: declared classes change with those of the hierarchy.
-/

namespace Typings
namespace Hierarchy

variable {h : Hierarchy} {c : Class}

/-! ## Settled classes -/

/-- Every class stays in the reconciled hierarchy, settled when it is below a root. -/
theorem Coherent.get?_reconcile (hc : h.Coherent) (rules : Config.MemberRules)
    (hmem : c ∈ h.classes) :
    (h.reconcile rules).get? c.fullName = some (c.withMethods (h.settledMethods rules)) := by
  rw [hc.reconcile_eq_mapMethods, get?_mapMethods, hc.get?_of_mem hmem, Option.map_some]

end Hierarchy

namespace Tree

variable {config : Config} {documents : List Document} {d : Declaration} {c : Class}

/-! ## Declared classes -/

theorem class?_withMethodsFrom {h : Hierarchy} {settled : Class} (hclass : d.class? = some c)
    (hget : h.get? d.fullName = some settled) :
    (d.withMethodsFrom h).class? = some (c.withMethods fun _ => settled.methods) := by
  rw [Declaration.class?] at hclass
  split at hclass
  · next hbody =>
    cases hclass
    simp [Declaration.withMethodsFrom, Declaration.class?, hbody, hget, Class.withMethods,
      Declaration.name]
  · cases hclass

theorem fullName_withMethodsFrom (h : Hierarchy) (d : Declaration) :
    (d.withMethodsFrom h).fullName = d.fullName := by
  rw [Declaration.withMethodsFrom]
  split
  · split <;> rfl
  · rfl

theorem isContainer_withMethodsFrom (h : Hierarchy) (d : Declaration) :
    (d.withMethodsFrom h).isContainer = d.isContainer := by
  rw [Declaration.withMethodsFrom]
  split
  · next hbody =>
    split
    · simp [Declaration.isContainer, hbody]
    · rfl
  · rfl

theorem withMethodsFrom_of_class?_none (h : Hierarchy) (hclass : d.class? = none) :
    d.withMethodsFrom h = d := by
  rw [Declaration.class?] at hclass
  split at hclass
  · cases hclass
  · next hother =>
    rw [Declaration.withMethodsFrom]
    split
    · next base interfaces constructor members hbody =>
      exact absurd hbody (hother base interfaces constructor members)
    · rfl

/-- Declared classes change with the classes of the hierarchy. -/
theorem filterMap_class?_withMethodsFrom {h : Hierarchy} (hc : h.Coherent)
    (f : Class → List Method) {ds : List Declaration}
    (hclasses : ∀ c ∈ ds.filterMap Declaration.class?, c ∈ h.classes) :
    (ds.map (Declaration.withMethodsFrom (h.mapMethods f))).filterMap Declaration.class? =
      (ds.filterMap Declaration.class?).map (Class.withMethods f) := by
  rw [List.filterMap_map, List.map_filterMap]
  refine List.filterMap_congr ?_
  intro d hd
  rw [Function.comp_apply]
  cases hclass : d.class? with
  | none => rw [withMethodsFrom_of_class?_none _ hclass, hclass, Option.map_none]
  | some c =>
      have hmem : c ∈ h.classes := hclasses c (List.mem_filterMap.2 ⟨d, hd, hclass⟩)
      have hget : (h.mapMethods f).get? d.fullName = some (c.withMethods f) := by
        rw [← fullName_of_class? hclass, Hierarchy.get?_mapMethods, hc.get?_of_mem hmem,
          Option.map_some]
      rw [class?_withMethodsFrom hclass hget, Option.map_some]
      rfl

/-- When the hierarchy holds the classes of declarations, the reconciled one holds those of the
declarations with its methods. -/
theorem classes_reconcile {tree : Tree} {ds : List Declaration} (hc : tree.hierarchy.Coherent)
    (hclasses : tree.hierarchy.classes = ds.filterMap Declaration.class?) :
    tree.reconcile.hierarchy.classes =
      (ds.map (Declaration.withMethodsFrom tree.reconcile.hierarchy)).filterMap
        Declaration.class? := by
  obtain ⟨f, hf⟩ : ∃ f, tree.reconcile.hierarchy = tree.hierarchy.mapMethods f :=
    ⟨_, hc.reconcile_eq_mapMethods tree.config.replacements.specific⟩
  have hmem : ∀ c ∈ ds.filterMap Declaration.class?, c ∈ tree.hierarchy.classes := by
    intro c hin
    rwa [hclasses]
  rw [hf, filterMap_class?_withMethodsFrom hc f hmem, ← hclasses, Hierarchy.classes_mapMethods]

end Tree
end Typings
