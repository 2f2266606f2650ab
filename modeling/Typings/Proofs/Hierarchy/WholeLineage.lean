import Typings.Proofs.Hierarchy.Idempotence
import Typings.Proofs.Hierarchy.Reachability

/-!
# Overriding methods agree with all that is above them

Settling compares a method with the nearest one that it overrides. Where types name classes without
ambiguity, this is enough: the nearest one agrees with the next one above it in turn, and so on.

* `Coherent.ancestors_of_ancestors`: the ancestors of an ancestor;
* `overridden?_of_ancestors`: the nearest overridden method, told from one further up;
* `Settled.compatible_of_ancestors`: agreement with every ancestor in a settled hierarchy;
* `compatible_reconcile_ancestors`: agreement with every ancestor after reconciliation.
-/

namespace Typings
namespace Hierarchy

variable {h : Hierarchy} {b c declaring : Class} {between above : List Class}
  {overridden found method : Method} {rules : Config.MemberRules} {n : Nat}

/-! ## Ancestors of ancestors -/

theorem Coherent.ancestors_of_ancestors (hc : h.Coherent) (hmem : c ∈ h.classes)
    (hr : h.RootedAt n c) (hancestors : h.ancestors c = between ++ b :: above) :
    h.ancestors b = above := by
  induction hr generalizing between with
  | root unresolved =>
      rw [ancestors_of_root unresolved] at hancestors
      exact absurd hancestors.symm (by simp)
  | @climb n c base name stated nonempty resolved habove ih =>
      have hbase := baseOf_of_stated stated resolved
      have hbasemem := hc.mem_of_baseOf hbase
      rw [hc.ancestors_of_rootedAt hmem (.climb stated nonempty resolved habove) hbase,
        hc.lineage_eq_cons_ancestors hbasemem habove] at hancestors
      cases between with
      | nil =>
          -- the first ancestor is the base class
          rw [List.nil_append, List.cons.injEq] at hancestors
          rw [← hancestors.1, hancestors.2]
      | cons first rest =>
          rw [List.cons_append, List.cons.injEq] at hancestors
          exact ih hbasemem hancestors.2

/-! ## The nearest overridden method -/

theorem of_method?_eq_some (hdeclared : b.method? method.name method.isStatic = some found) :
    found ∈ b.methods ∧ found.name = method.name ∧ found.isStatic = method.isStatic := by
  have hsame := List.find?_some hdeclared
  rw [Bool.and_eq_true, decide_eq_true_eq, decide_eq_true_eq] at hsame
  exact ⟨List.mem_of_find?_eq_some hdeclared, hsame⟩

/-- When an ancestor declares a method, the method is overridden there or further down. -/
theorem overridden?_of_ancestors (hancestors : h.ancestors c = between ++ declaring :: above)
    (hdeclared : declaring.method? method.name method.isStatic = some overridden) :
    h.overridden? c method = some (declaring, overridden) ∨
      ∃ front nearest back found, between = front ++ nearest :: back ∧
        nearest.method? method.name method.isStatic = some found ∧
        h.overridden? c method = some (nearest, found) := by
  rw [overridden?, hancestors, List.findSome?_append]
  cases hbetween : between.findSome? fun ancestor =>
      (ancestor.method? method.name method.isStatic).map fun found => (ancestor, found) with
  | none =>
      left
      rw [List.findSome?_cons, hdeclared]
      rfl
  | some nearby =>
      right
      obtain ⟨front, nearest, back, hsplit, hfound, _⟩ := List.findSome?_eq_some_iff.1 hbetween
      obtain ⟨found, hmethod, heq⟩ := Option.map_eq_some_iff.1 hfound
      refine ⟨front, nearest, back, found, hsplit, hmethod, ?_⟩
      rw [heq]
      rfl

/-! ## Settled hierarchies -/

/-- In a settled hierarchy a method agrees with the one that it overrides, when no method is excluded
from returning its own class and the overridden one returns a type that is taken over. -/
theorem Settled.compatible_of_overridden? (hsettled : h.Settled rules) (hc : h.Coherent)
    (hnamed : h.WellNamed) (hrules : rules.methodReturnTypeNotThis = []) (hmem : c ∈ h.classes)
    (hr : h.RootedAt n c) (hmethod : method ∈ c.methods)
    (h? : h.overridden? c method = some (declaring, overridden))
    (htype : overridden.outcome.type ≠ anyType ∧ overridden.outcome.type ≠ "") :
    h.compatible overridden.outcome.type method.outcome.type = true := by
  have hdeclaring : declaring ∈ h.ancestors c := mem_ancestors_of_overridden? h?
  obtain ⟨hdmem, k, hlt, _⟩ := hc.rootedAt_of_mem_ancestors hmem hr hdeclaring
  have hlineage : declaring ∈ h.lineage c := by
    rw [hc.lineage_eq_cons_ancestors hmem hr]
    exact List.mem_cons_of_mem c hdeclaring
  have hin : c.fullName ∈ h.settlingOrder := by
    refine (hc.mem_settlingOrder_iff hmem).2 ⟨n - 1, ?_⟩
    rwa [Nat.sub_add_cancel (Nat.one_le_of_lt hlt)]
  -- the method is settled on this very one already
  have hkept := hsettled c hmem hin method hmethod
  rw [settleMethod_of_overridden? h?] at hkept
  have hown : h.settledOutcome rules declaring overridden c method = method.outcome.type :=
    congrArg (fun settled => settled.outcome.type) hkept
  have hplain := hnamed.plain c hmem
  rw [← hown]
  refine (compatible_settledOutcome_or hc hdmem hmem hlineage).elim id ?_
  rintro (hany | hempty | hexcluded)
  · rw [overridingType] at hany
    split at hany
    · exact absurd (by simp [hany]) hplain
    · exact absurd hany htype.1
  · rw [overridingType] at hempty
    split at hempty
    · exact absurd (by simp [hempty]) hplain
    · exact absurd hempty htype.2
  · rw [hrules] at hexcluded
    exact absurd hexcluded.2 List.not_mem_nil

/-- In a settled hierarchy a method agrees with the methods of its name in all ancestors, as far up
as these return types that are taken over. -/
theorem Settled.compatible_of_ancestors (hsettled : h.Settled rules) (hc : h.Coherent)
    (hnamed : h.WellNamed) (hrules : rules.methodReturnTypeNotThis = []) (hmem : c ∈ h.classes)
    (hr : h.RootedAt n c) (hmethod : method ∈ c.methods)
    (hancestors : h.ancestors c = between ++ declaring :: above)
    (hdeclared : declaring.method? method.name method.isStatic = some overridden)
    (htypes : ∀ b ∈ between ++ [declaring], ∀ found,
      b.method? method.name method.isStatic = some found →
        found.outcome.type ≠ anyType ∧ found.outcome.type ≠ "") :
    h.compatible overridden.outcome.type method.outcome.type = true := by
  induction hlength : between.length using Nat.strong_induction_on
    generalizing c method between n with
  | _ length ih =>
      rcases overridden?_of_ancestors hancestors hdeclared with
        h? | ⟨front, nearest, back, found, hsplit, hfound, h?⟩
      · -- the ancestor holds the nearest method itself
        have htype := htypes declaring (by simp) overridden hdeclared
        exact hsettled.compatible_of_overridden? hc hnamed hrules hmem hr hmethod h? htype
      · subst hsplit
        have hnearest : nearest ∈ h.ancestors c := mem_ancestors_of_overridden? h?
        obtain ⟨hnmem, k, _, hk⟩ := hc.rootedAt_of_mem_ancestors hmem hr hnearest
        obtain ⟨hfmem, hname, hstatic⟩ := of_method?_eq_some hfound
        have hrest : h.ancestors nearest = back ++ declaring :: above := by
          rw [List.append_assoc, List.cons_append] at hancestors
          exact hc.ancestors_of_ancestors hmem hr hancestors
        have htype := htypes nearest (by simp) found hfound
        have hlower : h.compatible found.outcome.type method.outcome.type = true :=
          hsettled.compatible_of_overridden? hc hnamed hrules hmem hr hmethod h? htype
        -- from the nearest class fewer classes lie below the ancestor
        have hfewer : back.length < length := by
          rw [← hlength, List.length_append, List.length_cons]
          omega
        have hupper : h.compatible overridden.outcome.type found.outcome.type = true := by
          refine ih back.length hfewer hnmem hk hfmem hrest ?_ ?_ rfl
          · rwa [hname, hstatic]
          · intro b hb other hother
            rw [hname, hstatic] at hother
            refine htypes b ?_ other hother
            simp only [List.mem_append, List.mem_cons] at hb ⊢
            tauto
        have hplain : ∀ c ∈ h.classes, c.fullName ∉ [anyType, voidType, selfType] := by
          intro c hmem hspecial
          exact hnamed.plain c hmem (List.mem_append_left [""] hspecial)
        exact hc.compatible_trans hnamed.distinct hplain hupper hlower

/-! ## Reconciled hierarchies -/

theorem WellNamed.mapMethods (hnamed : h.WellNamed) (f : Class → List Method) :
    (h.mapMethods f).WellNamed where
  distinct := by
    rw [classes_mapMethods, List.map_map]
    exact hnamed.distinct
  plain := by
    rw [classes_mapMethods, List.forall_mem_map]
    exact hnamed.plain

/-- Reconciliation makes every method agree with the methods of its name in all classes above, as
long as classes are told apart by their names, no method is excluded from returning its own class,
and none of the methods in between returns a type that is never taken over. -/
theorem compatible_reconcile_ancestors (classes : List Class) (config : Config) :
    let h := ofList classes
    let rules := config.replacements.specific
    let settled := h.reconcile rules
    h.WellNamed → rules.methodReturnTypeNotThis = [] →
      ∀ c ∈ settled.classes, c.fullName ∈ h.settlingOrder → ∀ method ∈ c.methods,
        ∀ between declaring above, settled.ancestors c = between ++ declaring :: above →
          ∀ overridden, declaring.method? method.name method.isStatic = some overridden →
            (∀ b ∈ between ++ [declaring], ∀ found,
              b.method? method.name method.isStatic = some found →
                found.outcome.type ≠ anyType ∧ found.outcome.type ≠ "") →
            settled.compatible overridden.outcome.type method.outcome.type = true := by
  intro h rules settled hnamed hrules c hmem hin method hmethod between declaring above
    hancestors overridden hdeclared htypes
  have hc : h.Coherent := coherent_ofList classes
  have hsettled : settled.Settled rules := hc.settled_reconcile rules
  have hnamed' : settled.WellNamed := by
    rw [show settled = _ from hc.reconcile_eq_mapMethods rules]
    exact hnamed.mapMethods _
  obtain ⟨n, hn⟩ := hc.rooted_of_mem_settlingOrder hmem hin
  exact hsettled.compatible_of_ancestors (hc.reconcile rules) hnamed' hrules hmem hn hmethod
    hancestors hdeclared htypes

/-- The method of the lowest of three generations agrees with that of the highest one, although it
was settled on the one in between. -/
theorem compatible_reconcile_ancestors_generations :
    let h := ofList generations
    let settled := h.reconcile ({} : Config).replacements.specific
    h.WellNamed ∧
      ∃ c ∈ settled.classes, c.fullName ∈ h.settlingOrder ∧ ∃ method ∈ c.methods,
        ∃ between declaring above, settled.ancestors c = between ++ declaring :: above ∧
          between.length = 1 ∧
          ∃ overridden, declaring.method? method.name method.isStatic = some overridden ∧
            overridden.outcome.type = "x.A" ∧ method.outcome.type = "x.C" ∧
            settled.compatible overridden.outcome.type method.outcome.type = true := by
  intro h settled
  let a := classReturning "A" none "x.A"
  let b := classReturning "B" (some "x.A") "x.B"
  let c := classReturning "C" (some "x.B") "x.C"
  have hnamed : h.WellNamed := ⟨by decide +kernel, by decide +kernel⟩
  have hmem : c ∈ settled.classes := by decide +kernel
  have hin : c.fullName ∈ h.settlingOrder := by decide +kernel
  have hancestors : settled.ancestors c = [b] ++ a :: [] := by decide +kernel
  obtain ⟨method, hmethod⟩ : ∃ method, c.methods = [method] := ⟨_, rfl⟩
  obtain ⟨overridden, hoverridden⟩ : ∃ overridden, a.methods = [overridden] := ⟨_, rfl⟩
  cases hmethod
  cases hoverridden
  refine ⟨hnamed, c, hmem, hin, _, List.mem_cons_self, [b], a, [], hancestors, rfl, _, rfl, rfl,
    rfl, ?_⟩
  refine compatible_reconcile_ancestors generations {} hnamed rfl c hmem hin _ List.mem_cons_self
    [b] a [] hancestors _ rfl ?_
  decide +kernel

end Hierarchy
end Typings
