import Typings.Proofs.Hierarchy.Reference

/-!
# The order in which classes are added

Roots, lists of subclasses and with them the order of settling follow the order in which classes
were added. What becomes of a class does not: recursion along its base classes looks classes up by
name only.

* `SameClasses`: hierarchies with the same classes, added in any order;
* `SameClasses.lineage`, `SameClasses.compatible`: walks and compatibility in such hierarchies;
* `SameClasses.finalMethods`: the methods of a class in the end;
* `reconcile_perm`: reconciled hierarchies of the same classes.
-/

namespace Typings
namespace Hierarchy

variable {h g : Hierarchy} {c : Class} {name : String} {rules : Config.MemberRules}

/-! ## Lookups -/

/-- The same classes are found by the same names. -/
structure SameClasses (g h : Hierarchy) : Prop where
  names : g.names.Perm h.names
  get? : ∀ name, g.get? name = h.get? name

theorem sameClasses_of_perm (hg : g.Coherent) (hh : h.Coherent)
    (hperm : g.classes.Perm h.classes) : SameClasses g h where
  names := hperm.map _
  get? := by
    intro name
    refine Option.ext ?_
    intro c
    rw [hg.get?_eq_some_iff, hh.get?_eq_some_iff, hperm.mem_iff]

namespace SameClasses

variable (hsame : SameClasses g h)

include hsame

theorem baseOf (c : Class) : g.baseOf c = h.baseOf c := by
  cases hbase : c.base with
  | none => simp [Hierarchy.baseOf, hbase]
  | some name => simp [Hierarchy.baseOf, hbase, hsame.get?]

/-! ## Walks -/

theorem lineageWithin {unseen others : List String} (hperm : unseen.Perm others) (c : Class) :
    g.lineageWithin unseen c = h.lineageWithin others c := by
  fun_induction Hierarchy.lineageWithin g unseen c generalizing others with
  | case1 unseen c base hbase hmem ih =>
      rw [lineageWithin_of_baseOf_some ((hsame.baseOf c).symm.trans hbase) (hperm.mem_iff.1 hmem),
        ih (hperm.erase base.fullName)]
  | case2 unseen c base hbase hmem =>
      have hseen : base.fullName ∉ others := fun hother => hmem (hperm.mem_iff.2 hother)
      rw [Hierarchy.lineageWithin]
      simp [(hsame.baseOf c).symm.trans hbase, hseen]
  | case3 unseen c hbase =>
      rw [lineageWithin_of_baseOf_none others ((hsame.baseOf c).symm.trans hbase)]

theorem lineage (c : Class) : g.lineage c = h.lineage c :=
  hsame.lineageWithin (hsame.names.erase c.fullName) c

theorem ancestors (c : Class) : g.ancestors c = h.ancestors c := by
  rw [Hierarchy.ancestors, hsame.baseOf, Hierarchy.ancestors]
  cases h.baseOf c with
  | none => rfl
  | some base => simp only [hsame.lineage]

theorem isRooted (c : Class) : g.isRooted c = h.isRooted c := by
  simp only [Hierarchy.isRooted, hsame.lineage, hsame.baseOf]

/-! ## Compatibility and settling -/

theorem compatible (expected candidate : String) :
    g.compatible expected candidate = h.compatible expected candidate := by
  simp only [Hierarchy.compatible, descendsByName, hsame.get?, hsame.lineage]

theorem settleOn (above : List Class) (c : Class) (method : Method) :
    g.settleOn rules above c method = h.settleOn rules above c method := by
  simp only [Hierarchy.settleOn, settledOutcome, requiredOutcome?, hsame.compatible]

theorem settleUp (chain : List Class) : g.settleUp rules chain = h.settleUp rules chain := by
  induction chain with
  | nil => rfl
  | cons c above ih =>
      have hown : g.settleOn rules (h.settleUp rules above) c =
          h.settleOn rules (h.settleUp rules above) c :=
        funext fun method => hsame.settleOn _ c method
      simp only [Hierarchy.settleUp, Class.withMethods, ih, hown]

theorem finalMethods (c : Class) : g.finalMethods rules c = h.finalMethods rules c := by
  have hown : g.settleOn rules (h.settleUp rules (h.ancestors c)) c =
      h.settleOn rules (h.settleUp rules (h.ancestors c)) c :=
    funext fun method => hsame.settleOn _ c method
  simp only [Hierarchy.finalMethods, hsame.isRooted, hsame.ancestors, hsame.settleUp, hown]

end SameClasses

/-! ## Reconciled hierarchies -/

/-- The order in which classes are added makes no difference to any of their methods. -/
theorem reconcile_perm (config : Config) {classes others : List Class}
    (hnodup : (classes.map (·.fullName)).Nodup) (hperm : classes.Perm others) :
    let rules := config.replacements.specific
    let settled := (ofList classes).reconcile rules
    let settled' := (ofList others).reconcile rules
    settled.classes.Perm settled'.classes ∧ ∀ name, settled.get? name = settled'.get? name := by
  intro rules settled settled'
  have hc : (ofList classes).Coherent := coherent_ofList classes
  have hc' : (ofList others).Coherent := coherent_ofList others
  have hclasses : (ofList classes).classes = classes := classes_ofList hnodup
  have hclasses' : (ofList others).classes = others :=
    classes_ofList ((hperm.map _).nodup_iff.1 hnodup)
  have hsame : SameClasses (ofList classes) (ofList others) := by
    refine sameClasses_of_perm hc hc' ?_
    rwa [hclasses, hclasses']
  -- both passes give every class the methods that it has in the end
  have hfinal : (ofList classes).finalMethods rules = (ofList others).finalMethods rules :=
    funext hsame.finalMethods
  have hresult : settled = (ofList classes).mapMethods ((ofList others).finalMethods rules) := by
    rw [← hfinal]
    exact hc.reconcile_eq_finalMethods rules
  have hresult' : settled' = (ofList others).mapMethods ((ofList others).finalMethods rules) :=
    hc'.reconcile_eq_finalMethods rules
  constructor
  · rw [hresult, hresult', classes_mapMethods, classes_mapMethods, hclasses, hclasses']
    exact hperm.map _
  · intro name
    rw [hresult, hresult', get?_mapMethods, get?_mapMethods, hsame.get?]

/-- Three classes below each other and two that are each other's base, the lowest one first. -/
def interleaved : List Class :=
  [classReturning "C" (some "x.B") "number", classReturning "P" (some "x.Q") "x.P",
    classReturning "A" none "x.A", classReturning "Q" (some "x.P") "string",
    classReturning "B" (some "x.A") "string"]

/-- With the lowest class added last instead of first, its method returns its own class as well. -/
theorem reconcile_perm_interleaved :
    let settled := (ofList interleaved).reconcile ({} : Config).replacements.specific
    let settled' := (ofList interleaved.reverse).reconcile ({} : Config).replacements.specific
    (interleaved.map (·.fullName)).Nodup ∧ interleaved.Perm interleaved.reverse ∧
      settled.classes.Perm settled'.classes ∧ (∀ name, settled.get? name = settled'.get? name) ∧
      settled'.get? "x.C" = some (classReturning "C" (some "x.B") "x.C") := by
  intro settled settled'
  have hnodup : (interleaved.map (·.fullName)).Nodup := by decide
  have hperm : interleaved.Perm interleaved.reverse := (List.reverse_perm interleaved).symm
  obtain ⟨hclasses, hget⟩ := reconcile_perm {} hnodup hperm
  have hfound : settled.get? "x.C" = some (classReturning "C" (some "x.B") "x.C") := by
    decide +kernel
  exact ⟨hnodup, hperm, hclasses, hget, (hget "x.C").symm.trans hfound⟩

end Hierarchy
end Typings
