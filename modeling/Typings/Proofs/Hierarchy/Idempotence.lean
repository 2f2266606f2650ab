import Typings.Proofs.Hierarchy.Agreement

/-!
# Reconciling twice

A method that is settled already is not changed by settling it once more on the same overridden
method. So no step of a second pass changes anything:

* `settleMethod_settleMethod`: settling one method twice;
* `Settled`: hierarchies whose methods have nothing left to settle;
* `reconcile_eq_self`: reconciliation leaves such a hierarchy as it is;
* `reconcile_reconcile`: a reconciled hierarchy is one.
-/

namespace Typings
namespace Hierarchy

variable {h : Hierarchy} {c d declaring : Class} {overridden method other : Method}
  {rules : Config.MemberRules} {name : String}

/-! ## One method -/

/-- What a method has to return depends on its own type and full name only. -/
theorem settledOutcome_congr (htype : other.outcome.type = method.outcome.type)
    (hname : other.fullName = method.fullName) :
    h.settledOutcome rules declaring overridden c other =
      h.settledOutcome rules declaring overridden c method := by
  simp only [settledOutcome, requiredOutcome?, htype, hname]

/-- A method that returns the type which it had to take over has none to take over any more. -/
theorem requiredOutcome?_of_taken {type : String}
    (hrequired : h.requiredOutcome? rules declaring overridden c method = some type)
    (htaken : other.outcome.type = type) :
    h.requiredOutcome? rules declaring overridden c other = none := by
  rw [requiredOutcome?] at hrequired
  split_ifs at hrequired with hfits hfluent hown
  · -- it had to return its own class, which it does now
    have htype : other.outcome.type = c.fullName := htaken.trans (Option.some.inj hrequired).symm
    simp [requiredOutcome?, hfluent, htype]
  · -- it had to return what the overridden method returns
    have htype : other.outcome.type = overridden.outcome.type :=
      htaken.trans (Option.some.inj hrequired).symm
    simp [requiredOutcome?, htype, compatible_self]

/-- A method that returns its settled type is settled on this type again. -/
theorem settledOutcome_of_settled
    (htype : other.outcome.type = h.settledOutcome rules declaring overridden c method)
    (hname : other.fullName = method.fullName) :
    h.settledOutcome rules declaring overridden c other = other.outcome.type := by
  cases hrequired : h.requiredOutcome? rules declaring overridden c method with
  | none =>
      have hkept : other.outcome.type = method.outcome.type := by
        simpa [settledOutcome, hrequired] using htype
      rw [settledOutcome_congr hkept hname, htype]
  | some type =>
      by_cases htaken : type ≠ "" ∧ type ≠ anyType ∧ method.outcome.type ≠ selfType
      · have hnew : other.outcome.type = type := by
          simpa only [settledOutcome, hrequired, if_pos htaken] using htype
        simp only [settledOutcome, requiredOutcome?_of_taken hrequired hnew]
      · have hkept : other.outcome.type = method.outcome.type := by
          simpa only [settledOutcome, hrequired, if_neg htaken] using htype
        rw [settledOutcome_congr hkept hname, htype]

theorem settledVisibility_of_settled
    (hvisibility : other.visibility = settledVisibility overridden method) :
    settledVisibility overridden other = other.visibility := by
  by_cases hwidened : overridden.visibility = .isPublic ∧ method.visibility = .isProtected
  · have hpublic : other.visibility = .isPublic := by
      rw [hvisibility, settledVisibility, if_pos hwidened]
    simp [settledVisibility, hpublic]
  · have hkept : other.visibility = method.visibility := by
      rw [hvisibility, settledVisibility, if_neg hwidened]
    rw [settledVisibility, hkept, if_neg hwidened]

/-- Settling a method twice is settling it once. -/
theorem settleMethod_settleMethod (h : Hierarchy) (rules : Config.MemberRules) (c : Class)
    (method : Method) :
    h.settleMethod rules c (h.settleMethod rules c method) = h.settleMethod rules c method := by
  cases h? : h.overridden? c method with
  | none => rw [settleMethod_of_not_overridden h?, settleMethod_of_not_overridden h?]
  | some found =>
      obtain ⟨declaring, overridden⟩ := found
      rw [settleMethod_of_overridden? h?]
      -- what the settled method overrides is the same method
      set settled : Method :=
        { method with
          outcome := { method.outcome with
            type := h.settledOutcome rules declaring overridden c method }
          visibility := settledVisibility overridden method } with hsettled
      have hagain : h.overridden? c settled = some (declaring, overridden) :=
        (overridden?_congr rfl rfl rfl rfl).trans h?
      have htype : h.settledOutcome rules declaring overridden c settled =
          settled.outcome.type := settledOutcome_of_settled rfl rfl
      have hvisibility : settledVisibility overridden settled = settled.visibility :=
        settledVisibility_of_settled rfl
      rw [settleMethod_of_overridden? hagain, htype, hvisibility]

/-! ## Hierarchies with nothing left to settle -/

/-- The methods of every class below a root are settled on the hierarchy itself. -/
def Settled (rules : Config.MemberRules) (h : Hierarchy) : Prop :=
  ∀ c ∈ h.classes, c.fullName ∈ h.settlingOrder → ∀ method ∈ c.methods,
    h.settleMethod rules c method = method

theorem mapMethods_eq_self {f : Class → List Method} (heq : ∀ c ∈ h.classes, f c = c.methods) :
    h.mapMethods f = h := by
  rw [mapMethods_congr (g := Class.methods) heq]
  simp [mapMethods]

/-- One step of reconciliation leaves a settled hierarchy as it is. -/
theorem Settled.settleClass (hsettled : h.Settled rules) (hin : name ∈ h.settlingOrder) :
    settleClass rules h name = h := by
  refine mapMethods_eq_self ?_
  intro c hmem
  split
  case isTrue hname =>
    subst hname
    exact (List.map_congr_left (hsettled c hmem hin)).trans (List.map_id' c.methods)
  case isFalse => rfl

theorem Settled.foldl_settleClass (hsettled : h.Settled rules) {order : List String}
    (horder : ∀ name ∈ order, name ∈ h.settlingOrder) :
    order.foldl (Hierarchy.settleClass rules) h = h := by
  induction order with
  | nil => rfl
  | cons name rest ih =>
      have hfirst : Hierarchy.settleClass rules h name = h :=
        hsettled.settleClass (horder name List.mem_cons_self)
      rw [List.foldl_cons, hfirst]
      exact ih fun other hother => horder other (List.mem_cons_of_mem name hother)

/-- A whole pass leaves a settled hierarchy as it is. -/
theorem Settled.reconcile_eq_self (hsettled : h.Settled rules) : h.reconcile rules = h :=
  hsettled.foldl_settleClass fun _ hin => hin

/-! ## Reconciled hierarchies -/

theorem Coherent.settled_reconcile (hc : h.Coherent) (rules : Config.MemberRules) :
    (h.reconcile rules).Settled rules := by
  intro c hmem hin method hmethod
  obtain ⟨d, hd, hbase, hname, hmethods⟩ := hc.exists_of_mem_reconcile hmem
  have horder : (h.reconcile rules).settlingOrder = h.settlingOrder := by
    rw [hc.reconcile_eq_mapMethods rules, settlingOrder_mapMethods]
  rw [horder, hname] at hin
  rw [hmethods, if_pos hin] at hmethod
  obtain ⟨old, _, rfl⟩ := List.mem_map.1 hmethod
  -- the class settles its methods as the class that it comes from
  have hsame : ∀ m, (h.reconcile rules).settleMethod rules c m =
      (h.reconcile rules).settleMethod rules d m :=
    settleMethod_congr (ancestors_congr hbase hname) hname fun _ _ => rfl
  rw [hsame, settleMethod_settleMethod]

/-- Reconciliation is done after one pass: a second pass changes no method. -/
theorem reconcile_reconcile (classes : List Class) (config : Config) :
    let rules := config.replacements.specific
    let settled := (ofList classes).reconcile rules
    settled.reconcile rules = settled := by
  intro rules settled
  have hsettled : settled.Settled rules := (coherent_ofList classes).settled_reconcile rules
  exact hsettled.reconcile_eq_self

end Hierarchy
end Typings
