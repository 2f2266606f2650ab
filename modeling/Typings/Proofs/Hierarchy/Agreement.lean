import Typings.Proofs.Hierarchy.Settled

/-!
# Overriding methods agree with what they override

A settled result type stands in for the type of the overridden method. Since the methods of a
reconciled hierarchy are settled on this hierarchy itself, they agree with what they override in
the end, and not only at the moment when they were settled.

* `compatible_settledOutcome_or`: agreement of one settled type;
* `compatible_reconcile`: agreement in a whole reconciled hierarchy.
-/

namespace Typings
namespace Hierarchy

variable {h : Hierarchy} {c d declaring : Class} {overridden method : Method}
  {rules : Config.MemberRules}

/-! ## Compatibility along a lineage -/

theorem compatible_self (type : String) : h.compatible type type = true := by
  simp [compatible]

theorem compatible_selfType (expected : String) : h.compatible expected selfType = true := by
  simp [compatible]

/-- A class stands in for every class on its lineage. -/
theorem Coherent.compatible_of_mem_lineage (hc : h.Coherent) (hd : d ∈ h.classes)
    (hmem : c ∈ h.classes) (hlineage : d ∈ h.lineage c) :
    h.compatible d.fullName c.fullName = true := by
  have hdescends : h.descendsByName d.fullName c.fullName = true := by
    simp only [descendsByName, hc.get?_of_mem hd, hc.get?_of_mem hmem, List.any_eq_true]
    exact ⟨d, hlineage, by simp⟩
  simp [compatible, hdescends]

/-! ## One settled method -/

/-- The type that an overriding method of a class has to take over when its own does not fit: its
own class where the overridden method returns the declaring one, the overridden type otherwise. -/
def overridingType (declaring : Class) (overridden : Method) (c : Class) : String :=
  if overridden.outcome.type = declaring.fullName then c.fullName else overridden.outcome.type

/-- A settled type fits, unless the type to take over is never taken over or the configuration
excludes the method from returning its own class. -/
theorem compatible_settledOutcome_or (hc : h.Coherent) (hd : declaring ∈ h.classes)
    (hmem : c ∈ h.classes) (hlineage : declaring ∈ h.lineage c) :
    h.compatible overridden.outcome.type
        (h.settledOutcome rules declaring overridden c method) = true ∨
      overridingType declaring overridden c = anyType ∨
      overridingType declaring overridden c = "" ∨
      (overridden.outcome.type = declaring.fullName ∧
        method.fullName ∈ rules.methodReturnTypeNotThis) := by
  by_cases hfits : h.compatible overridden.outcome.type method.outcome.type = true
  · left
    simp [settledOutcome, requiredOutcome?, hfits]
  -- `this` fits everywhere, so the method does not return it
  have hself : method.outcome.type ≠ selfType := by
    intro heq
    rw [heq] at hfits
    exact hfits (compatible_selfType _)
  by_cases hfluent : overridden.outcome.type = declaring.fullName
  · have hown : h.compatible overridden.outcome.type c.fullName = true := by
      rw [hfluent]
      exact hc.compatible_of_mem_lineage hd hmem hlineage
    have hother : method.outcome.type ≠ c.fullName := by
      intro heq
      rw [heq] at hfits
      exact hfits hown
    by_cases hexcluded : method.fullName ∈ rules.methodReturnTypeNotThis
    · exact .inr (.inr (.inr ⟨hfluent, hexcluded⟩))
    · have hrequired :
          h.requiredOutcome? rules declaring overridden c method = some c.fullName := by
        rw [requiredOutcome?, if_neg hfits, if_pos hfluent, if_pos ⟨hother, hexcluded⟩]
      simp only [overridingType, if_pos hfluent, settledOutcome, hrequired]
      by_cases hany : c.fullName = anyType
      · exact .inr (.inl hany)
      by_cases hempty : c.fullName = ""
      · exact .inr (.inr (.inl hempty))
      rw [if_pos ⟨hempty, hany, hself⟩]
      exact .inl hown
  · have hrequired : h.requiredOutcome? rules declaring overridden c method =
        some overridden.outcome.type := by
      rw [requiredOutcome?, if_neg hfits, if_neg hfluent]
    simp only [overridingType, if_neg hfluent, settledOutcome, hrequired]
    by_cases hany : overridden.outcome.type = anyType
    · exact .inr (.inl hany)
    by_cases hempty : overridden.outcome.type = ""
    · exact .inr (.inr (.inl hempty))
    rw [if_pos ⟨hempty, hany, hself⟩]
    exact .inl (compatible_self _)

/-! ## The overridden method -/

/-- The method that is overridden stands in an ancestor. -/
theorem mem_ancestors_of_overridden? (h? : h.overridden? c method = some (declaring, overridden)) :
    declaring ∈ h.ancestors c := by
  obtain ⟨ancestor, hmem, hfound⟩ := List.exists_of_findSome?_eq_some h?
  obtain ⟨found, _, heq⟩ := Option.map_eq_some_iff.1 hfound
  cases heq
  exact hmem

/-- What a method overrides is found by the base and full name of its class, and by its own name
and whether it is static. -/
theorem overridden?_congr {other : Method} (hbase : d.base = c.base)
    (hname : d.fullName = c.fullName) (hmethod : other.name = method.name)
    (hstatic : other.isStatic = method.isStatic) :
    h.overridden? d other = h.overridden? c method := by
  simp only [overridden?, ancestors, baseOf_congr hbase, hname, hmethod, hstatic]

theorem settleMethod_of_overridden?
    (h? : h.overridden? c method = some (declaring, overridden)) :
    h.settleMethod rules c method =
      { method with
        outcome := { method.outcome with
          type := h.settledOutcome rules declaring overridden c method }
        visibility := settledVisibility overridden method } := by
  simp [settleMethod, h?]

theorem settleMethod_of_not_overridden (h? : h.overridden? c method = none) :
    h.settleMethod rules c method = method := by
  simp [settleMethod, h?]

/-- Settling keeps everything but the result type and the visibility. -/
theorem settleMethod_kept (h : Hierarchy) (rules : Config.MemberRules) (c : Class)
    (method : Method) :
    ∃ type visibility, h.settleMethod rules c method =
      { method with outcome := { method.outcome with type }, visibility } := by
  cases h? : h.overridden? c method with
  | none => exact ⟨method.outcome.type, method.visibility, settleMethod_of_not_overridden h?⟩
  | some found => exact ⟨_, _, settleMethod_of_overridden? h?⟩

/-! ## The reconciled hierarchy -/

/-- Every class of a reconciled hierarchy comes from one of the hierarchy before. -/
theorem Coherent.exists_of_mem_reconcile (hc : h.Coherent)
    (hmem : c ∈ (h.reconcile rules).classes) :
    ∃ d ∈ h.classes, c.base = d.base ∧ c.fullName = d.fullName ∧
      c.methods =
        if d.fullName ∈ h.settlingOrder then
          d.methods.map ((h.reconcile rules).settleMethod rules d)
        else d.methods := by
  rw [hc.reconcile_eq_mapMethods rules, classes_mapMethods] at hmem
  obtain ⟨d, hd, rfl⟩ := List.mem_map.1 hmem
  exact ⟨d, hd, rfl, rfl, rfl⟩

theorem Coherent.reconcile (hc : h.Coherent) (rules : Config.MemberRules) :
    (h.reconcile rules).Coherent := by
  rw [hc.reconcile_eq_mapMethods rules]
  exact hc.mapMethods _

theorem Coherent.rootedAt_reconcile_iff {n : Nat} (hc : h.Coherent) (hbase : c.base = d.base) :
    (h.reconcile rules).RootedAt n c ↔ h.RootedAt n d := by
  rw [hc.reconcile_eq_mapMethods rules]
  exact rootedAt_mapMethods_iff _ hbase

/-- A rooted class with an overriding method is settled. -/
theorem Coherent.mem_settlingOrder_of_overridden? (hc : h.Coherent)
    (hmem : c ∈ (h.reconcile rules).classes) (hrooted : (h.reconcile rules).Rooted c)
    (h? : (h.reconcile rules).overridden? c method = some (declaring, overridden)) :
    c.fullName ∈ h.settlingOrder := by
  rcases hrooted with ⟨n, hn⟩
  obtain ⟨d, hd, hbase, hname, _⟩ := hc.exists_of_mem_reconcile hmem
  -- the overridden method stands above the class, so the class is not a root
  obtain ⟨_, m, hlt, _⟩ := (hc.reconcile rules).rootedAt_of_mem_ancestors hmem hn
    (mem_ancestors_of_overridden? h?)
  rw [hname, hc.mem_settlingOrder_iff hd]
  refine ⟨n - 1, ?_⟩
  rw [Nat.sub_add_cancel (by omega)]
  exact (hc.rootedAt_reconcile_iff hbase).1 hn

theorem Coherent.rooted_of_mem_settlingOrder (hc : h.Coherent)
    (hmem : c ∈ (h.reconcile rules).classes) (hin : c.fullName ∈ h.settlingOrder) :
    (h.reconcile rules).Rooted c := by
  obtain ⟨d, hd, hbase, hname, _⟩ := hc.exists_of_mem_reconcile hmem
  rw [hname] at hin
  obtain ⟨n, hn⟩ := (hc.mem_settlingOrder_iff hd).1 hin
  exact ⟨n + 1, (hc.rootedAt_reconcile_iff hbase).2 hn⟩

/-- After reconciliation, every method of a rooted class fits the method that it overrides, with the
types of both as they are in the end. The exceptions are the types that are never taken over and
the methods that the configuration excludes from returning their own class. -/
theorem compatible_reconcile (classes : List Class) (config : Config) :
    let rules := config.replacements.specific
    let settled := (ofList classes).reconcile rules
    ∀ c ∈ settled.classes, settled.Rooted c → ∀ method ∈ c.methods,
      ∀ declaring overridden, settled.overridden? c method = some (declaring, overridden) →
        settled.compatible overridden.outcome.type method.outcome.type = true ∨
          overridingType declaring overridden c = anyType ∨
          overridingType declaring overridden c = "" ∨
          (overridden.outcome.type = declaring.fullName ∧
            method.fullName ∈ rules.methodReturnTypeNotThis) := by
  intro rules settled c hmem hrooted method hmethod declaring overridden h?
  have hc : (ofList classes).Coherent := coherent_ofList classes
  have hsettled : settled.Coherent := hc.reconcile rules
  obtain ⟨n, hn⟩ := hrooted
  have habove := mem_ancestors_of_overridden? h?
  obtain ⟨hdmem, _⟩ := hsettled.rootedAt_of_mem_ancestors hmem hn habove
  have hlineage : declaring ∈ settled.lineage c := by
    rw [hsettled.lineage_eq_cons_ancestors hmem hn]
    exact List.mem_cons_of_mem c habove
  obtain ⟨d, hd, hbase, hname, hmethods⟩ := hc.exists_of_mem_reconcile hmem
  have hin := hc.mem_settlingOrder_of_overridden? hmem ⟨n, hn⟩ h?
  rw [hname] at hin
  -- so the method was settled, on the very method that it overrides in the end
  rw [hmethods, if_pos hin] at hmethod
  obtain ⟨old, _, rfl⟩ := List.mem_map.1 hmethod
  obtain ⟨type, visibility, hkept⟩ := settleMethod_kept settled rules d old
  have hold : settled.overridden? d old = some (declaring, overridden) := by
    rw [← h?, hkept]
    exact overridden?_congr hbase.symm hname.symm rfl rfl
  rw [settleMethod_of_overridden? hold]
  have hout : settled.settledOutcome rules declaring overridden d old =
      settled.settledOutcome rules declaring overridden c old := by
    simp only [settledOutcome, requiredOutcome?, hname]
  simp only [hout]
  exact compatible_settledOutcome_or hsettled hdmem hmem hlineage

/-- A class with one method `self` that is documented to return a type. -/
def classReturning (name : String) (base : Option String) (type : String) : Class where
  name := name
  fullName := "x." ++ name
  base := base
  methods :=
    [{ name := "self", fullName := "x." ++ name ++ ".self", ownerName := "x." ++ name
       ownerKind := .classType, outcome := { type } }]

/-- Three classes below each other, the lowest one added first. -/
def generations : List Class :=
  [classReturning "C" (some "x.B") "number", classReturning "A" none "x.A",
    classReturning "B" (some "x.A") "string"]

/-- Both overriding methods come to return their own class, the lower one because the upper one
does so by then. -/
theorem compatible_reconcile_generations :
    let settled := (ofList generations).reconcile ({} : Config).replacements.specific
    ∃ c ∈ settled.classes, settled.Rooted c ∧ ∃ method ∈ c.methods, ∃ declaring overridden,
      settled.overridden? c method = some (declaring, overridden) ∧
      overridden.outcome.type = "x.B" ∧ method.outcome.type = "x.C" ∧
      settled.compatible overridden.outcome.type method.outcome.type = true := by
  intro settled
  let a := classReturning "A" none "x.A"
  let b := classReturning "B" (some "x.A") "x.B"
  let c := classReturning "C" (some "x.B") "x.C"
  have hclasses : settled.classes = [c, a, b] := by decide +kernel
  have hmem : c ∈ settled.classes := by
    rw [hclasses]
    exact List.mem_cons_self
  have hrooted : settled.Rooted c := by
    refine ⟨2, .climb rfl (by decide) (?_ : settled.get? "x.B" = some b)
      (.climb rfl (by decide) (?_ : settled.get? "x.A" = some a) (.root ?_))⟩ <;> decide +kernel
  obtain ⟨method, hmethod⟩ : ∃ method, c.methods = [method] := ⟨_, rfl⟩
  obtain ⟨overridden, hoverridden⟩ : ∃ overridden, b.methods = [overridden] := ⟨_, rfl⟩
  have h? : settled.overridden? c method = some (b, overridden) := by
    cases hmethod
    cases hoverridden
    decide +kernel
  cases hmethod
  cases hoverridden
  refine ⟨c, hmem, hrooted, _, List.mem_cons_self, b, _, h?, rfl, rfl, ?_⟩
  rcases compatible_reconcile generations {} c hmem hrooted _ List.mem_cons_self b _ h? with
    hfits | hany | hempty | hexcluded
  · exact hfits
  · exact absurd hany (by decide)
  · exact absurd hempty (by decide)
  · exact absurd hexcluded.2 (by decide)

end Hierarchy
end Typings
