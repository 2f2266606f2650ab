import Typings.Proofs.Hierarchy.Methods
import Typings.Proofs.Hierarchy.SettlingOrder

/-!
# What settling leaves behind

Settling reads the ancestors of a class and writes its methods. Since a class comes behind its
ancestors in the order of settling, the methods that it was settled on are those that are there in
the end. So the reconciled hierarchy solves an equation:

* `reconcile_eq_mapMethods`: every class below a root has its methods settled on the result itself,
  and every other class keeps its methods.
-/

namespace Typings
namespace Hierarchy

variable {h r : Hierarchy} {c d : Class} {x y : String} {rules : Config.MemberRules}

/-! ## What a method is settled on -/

/-- A method is settled by the ancestors of its class and by the compatibility of types. -/
theorem settleMethod_congr (hancestors : r.ancestors d = h.ancestors c)
    (hname : d.fullName = c.fullName)
    (hcompatible : ∀ expected candidate,
      r.compatible expected candidate = h.compatible expected candidate) (method : Method) :
    r.settleMethod rules d method = h.settleMethod rules c method := by
  simp only [settleMethod, overridden?, settledOutcome, requiredOutcome?, hancestors, hname,
    hcompatible]

theorem ancestors_eq_of_kept {f : Class → List Method}
    (hkept : ∀ b ∈ h.ancestors c, f b = b.methods) :
    (h.mapMethods f).ancestors c = h.ancestors c := by
  rw [ancestors_mapMethods f (c := c) rfl rfl]
  refine (List.map_congr_left ?_).trans (List.map_id _)
  intro b hb
  exact Class.withMethods_eq_self (hkept b hb)

/-- What is settled on a class stays the same as long as its ancestors keep their methods. -/
theorem settleMethod_mapMethods {f : Class → List Method}
    (hkept : ∀ b ∈ h.ancestors c, f b = b.methods) (method : Method) :
    (h.mapMethods f).settleMethod rules c method = h.settleMethod rules c method :=
  settleMethod_congr (ancestors_eq_of_kept hkept) rfl (compatible_mapMethods f) method

theorem mapMethods_congr {f g : Class → List Method} (heq : ∀ c ∈ h.classes, f c = g c) :
    h.mapMethods f = h.mapMethods g := by
  simp only [mapMethods, Hierarchy.mk.injEq, and_true]
  refine List.map_congr_left ?_
  intro c hmem
  rw [heq c hmem]

theorem fullName_ne_of_mem_ancestors {b : Class} (hb : b ∈ h.ancestors c) :
    b.fullName ≠ c.fullName := by
  rw [ancestors] at hb
  split at hb
  · simpa using List.mem_takeWhile_imp hb
  · cases hb

/-! ## Settling in an order -/

theorem outsideLineage_mapMethods (f : Class → List Method) (hout : h.OutsideLineage x y) :
    (h.mapMethods f).OutsideLineage x y := by
  intro c hmem hname b hb
  rw [classes_mapMethods] at hmem
  obtain ⟨d, hd, rfl⟩ := List.mem_map.1 hmem
  rw [lineage_mapMethods] at hb
  obtain ⟨a, ha, rfl⟩ := List.mem_map.1 hb
  exact hout d hd hname a ha

/-- Settling classes in an order in which none comes before one on its lineage. Each of them ends
up with its methods settled on the result. -/
theorem foldl_settleClass_eq (hc : h.Coherent) (order : List String)
    (hpair : order.Pairwise h.OutsideLineage)
    (hrooted : ∀ c ∈ h.classes, c.fullName ∈ order → h.Rooted c) :
    order.foldl (settleClass rules) h = h.mapMethods fun c =>
      if c.fullName ∈ order then
        c.methods.map ((order.foldl (settleClass rules) h).settleMethod rules c)
      else c.methods := by
  induction order generalizing h with
  | nil => simp [mapMethods]
  | cons name rest ih =>
      obtain ⟨hfirst, hrest⟩ := List.pairwise_cons.1 hpair
      -- one step, and what the remaining steps make of it
      let step : Class → List Method := fun c =>
        if c.fullName = name then c.methods.map (h.settleMethod rules c) else c.methods
      have hstep : settleClass rules h name = h.mapMethods step := rfl
      have hih := ih (hc.mapMethods step) (hrest.imp (outsideLineage_mapMethods step)) (by
        intro c hmem hin
        rw [classes_mapMethods] at hmem
        obtain ⟨d, hd, rfl⟩ := List.mem_map.1 hmem
        obtain ⟨n, hn⟩ := hrooted d hd (List.mem_cons_of_mem _ hin)
        exact ⟨n, hn.mapMethods step rfl⟩)
      rw [List.foldl_cons, hstep]
      generalize rest.foldl (settleClass rules) (h.mapMethods step) = result at hih ⊢
      have hresult := hih
      rw [mapMethods_mapMethods] at hresult
      have hkept : ∀ b : Class, b.fullName ≠ name → b.withMethods step = b := by
        intro b hne
        exact Class.withMethods_eq_self (if_neg hne)
      refine hresult.trans (mapMethods_congr ?_)
      intro c hmem
      by_cases hname : c.fullName = name
      · -- the class of this step: nothing that it reads changes later
        have hnot : ∀ b ∈ h.lineage c, b.fullName ∉ rest := by
          intro b hb hin
          exact hfirst _ hin c hmem hname b hb rfl
        have hselfnot : c.fullName ∉ rest := hnot c (mem_lineage_self c)
        obtain ⟨n, hn⟩ := hrooted c hmem (by simp [hname])
        have hmethods : c.methods.map (h.settleMethod rules c) =
            c.methods.map (result.settleMethod rules c) := by
          refine List.map_congr_left ?_
          intro method _
          rw [hresult]
          refine (settleMethod_mapMethods ?_ method).symm
          intro b hb
          have hbne : b.fullName ≠ name := hname ▸ fullName_ne_of_mem_ancestors hb
          have hbnot : b.fullName ∉ rest := by
            refine hnot b ?_
            rw [hc.lineage_eq_cons_ancestors hmem hn]
            exact List.mem_cons_of_mem c hb
          simp [hbnot, hkept b hbne]
        calc
          _ = step c := if_neg hselfnot
          _ = c.methods.map (h.settleMethod rules c) := if_pos hname
          _ = c.methods.map (result.settleMethod rules c) := hmethods
          _ = _ := (if_pos (by simp [hname])).symm
      · rw [hkept c hname]
        simp only [List.mem_cons, hname, false_or]

/-- The methods of a class below a root, settled on the reconciled hierarchy, and those of any other
class as they are. -/
def settledMethods (h : Hierarchy) (rules : Config.MemberRules) (c : Class) : List Method :=
  if c.fullName ∈ h.settlingOrder then c.methods.map ((h.reconcile rules).settleMethod rules c)
  else c.methods

/-- The reconciled hierarchy has the methods of every class below a root settled on the reconciled
hierarchy itself. All other classes keep their methods. -/
theorem Coherent.reconcile_eq_mapMethods (hc : h.Coherent) (rules : Config.MemberRules) :
    h.reconcile rules = h.mapMethods (h.settledMethods rules) := by
  refine foldl_settleClass_eq hc h.settlingOrder hc.pairwise_settlingOrder ?_
  intro c hmem hin
  obtain ⟨n, hn⟩ := (hc.mem_settlingOrder_iff hmem).1 hin
  exact ⟨n + 1, hn⟩

end Hierarchy
end Typings
