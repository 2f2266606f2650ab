import Mathlib.Data.List.Forall2
import Mathlib.Logic.Relation
import Typings.Proofs.Hierarchy.Agreement
import Typings.Proofs.Hierarchy.Descent

/-!
# Reconciliation by recursion along the base classes

Reconciliation changes the methods of one class after the other, on the way down from the roots.
What becomes of a class can also be found on the way up: settle its methods on the classes above it,
after these have been settled on the classes above them.

* `Cyclic`, `not_rooted_of_cyclic`: on a cycle of base classes, and below one, no class is rooted;
* `finalMethods`: the methods of a class in the end, by recursion along its base classes;
* `reconcile_eq_finalMethods`: reconciliation gives every class these methods;
* `reconciledTo_reconcile`: order, result and unchanged parts of reconciliation together.
-/

namespace Typings

/-- Two methods that differ in their result types and visibilities at most. -/
def Method.SameSignature (method other : Method) : Prop :=
  other = { method with
    outcome := { method.outcome with type := other.outcome.type }
    visibility := other.visibility }

theorem Method.sameSignature_self (method : Method) : method.SameSignature method := rfl

namespace Hierarchy

variable {h : Hierarchy} {b c : Class} {rules : Config.MemberRules} {m n : Nat}

/-! ## Classes below a root and classes on cycles -/

/-- A class from which base names that are not empty lead, in at least one step, to a class without
a base in the hierarchy. -/
def BelowRoot (h : Hierarchy) (c : Class) : Prop :=
  ∃ n, h.RootedAt (n + 1) c

/-- The second class is the base class of the first one. -/
def Extends (h : Hierarchy) (c base : Class) : Prop :=
  h.baseOf c = some base

/-- A class on a cycle of base classes, or below a class on one. -/
def Cyclic (h : Hierarchy) (c : Class) : Prop :=
  ∃ b, Relation.ReflTransGen h.Extends c b ∧ Relation.TransGen h.Extends b b

theorem RootedAt.of_transGen (hr : h.RootedAt n c) (hpath : Relation.TransGen h.Extends c b) :
    ∃ m, m < n ∧ h.RootedAt m b := by
  induction hpath with
  | single hbase =>
      obtain ⟨m, rfl, hm⟩ := hr.of_baseOf hbase
      exact ⟨m, Nat.lt_succ_self m, hm⟩
  | tail _ hbase ih =>
      obtain ⟨k, hlt, hk⟩ := ih
      obtain ⟨m, rfl, hm⟩ := hk.of_baseOf hbase
      exact ⟨m, Nat.lt_of_succ_lt hlt, hm⟩

/-- The way up from a class on a cycle, or below one, never ends. -/
theorem not_rooted_of_cyclic (hcyclic : h.Cyclic c) : ¬ h.Rooted c := by
  rintro ⟨n, hn⟩
  obtain ⟨b, hpath, hcycle⟩ := hcyclic
  have hb : ∃ m, h.RootedAt m b := by
    rcases Relation.reflTransGen_iff_eq_or_transGen.1 hpath with rfl | hpath
    · exact ⟨n, hn⟩
    · obtain ⟨m, _, hm⟩ := hn.of_transGen hpath
      exact ⟨m, hm⟩
  obtain ⟨m, hm⟩ := hb
  -- once around the cycle, the same class would be nearer to the root
  obtain ⟨k, hlt, hk⟩ := hm.of_transGen hcycle
  exact absurd (hk.unique hm) (Nat.ne_of_lt hlt)

theorem not_belowRoot_of_root (hbase : h.baseOf c = none) : ¬ h.BelowRoot c := by
  rintro ⟨n, hn⟩
  exact absurd (hn.unique (.root hbase)) (Nat.succ_ne_zero n)

/-- Whether the lineage of a class reaches a class without a base, through base names that are not
empty. -/
def isRooted (h : Hierarchy) (c : Class) : Bool :=
  (h.lineage c).any (fun b => (h.baseOf b).isNone) &&
    (h.lineage c).all fun b => b.base ≠ some "" || (h.baseOf b).isNone

theorem rooted_of_lineageWithin {unseen : List String}
    (hroot : ∃ b ∈ h.lineageWithin unseen c, h.baseOf b = none)
    (hnonempty : ∀ b ∈ h.lineageWithin unseen c, b.base ≠ some "" ∨ h.baseOf b = none) :
    h.Rooted c := by
  fun_induction lineageWithin h unseen c with
  | case1 unseen c base hbase hmem ih =>
      obtain ⟨b, hb, hnone⟩ := hroot
      have hbabove : b ∈ h.lineageWithin (unseen.erase base.fullName) base := by
        rcases List.mem_cons.1 hb with rfl | hb
        · rw [hbase] at hnone
          cases hnone
        · exact hb
      obtain ⟨n, hn⟩ := ih ⟨b, hbabove, hnone⟩ fun b hb =>
        hnonempty b (List.mem_cons_of_mem c hb)
      obtain ⟨name, hstated, hfound⟩ := Option.bind_eq_some_iff.1 hbase
      have hname : name ≠ "" := by
        rintro rfl
        rcases hnonempty c List.mem_cons_self with hne | hnone
        · exact hne hstated
        · rw [hbase] at hnone
          cases hnone
      exact ⟨n + 1, .climb hstated hname hfound hn⟩
  | case2 unseen c base hbase hmem =>
      obtain ⟨b, hb, hnone⟩ := hroot
      rw [List.mem_singleton.1 hb, hbase] at hnone
      cases hnone
  | case3 unseen c hbase => exact ⟨0, .root hbase⟩

theorem Coherent.isRooted_iff (hc : h.Coherent) (hmem : c ∈ h.classes) :
    h.isRooted c = true ↔ h.Rooted c := by
  simp only [isRooted, Bool.and_eq_true, List.any_eq_true, List.all_eq_true, Bool.or_eq_true,
    decide_eq_true_eq, Option.isNone_iff_eq_none]
  constructor
  · rintro ⟨hroot, hnonempty⟩
    exact rooted_of_lineageWithin hroot hnonempty
  · rintro ⟨n, hn⟩
    induction hn with
    | root hbase =>
        rw [lineage_of_root hbase]
        exact ⟨⟨_, List.mem_singleton_self _, hbase⟩, by simp [hbase]⟩
    | @climb n c base name hstated hnonempty hfound habove ih =>
        have hbase := baseOf_of_stated hstated hfound
        obtain ⟨⟨root, hroot, hnone⟩, hall⟩ := ih (hc.mem_of_baseOf hbase)
        rw [hc.lineage_of_rootedAt hmem (.climb hstated hnonempty hfound habove) hbase]
        refine ⟨⟨root, List.mem_cons_of_mem c hroot, hnone⟩, ?_⟩
        intro b hb
        rcases List.mem_cons.1 hb with rfl | hb
        · left
          rw [hstated]
          exact fun hempty => hnonempty (Option.some.inj hempty)
        · exact hall b hb

/-! ## Settling on the way up -/

/-- A method of a class settled on the nearest method that it overrides in the classes above. -/
def settleOn (h : Hierarchy) (rules : Config.MemberRules) (above : List Class) (c : Class)
    (method : Method) : Method :=
  match above.findSome? fun ancestor =>
      (ancestor.method? method.name method.isStatic).map fun found => (ancestor, found) with
  | some (declaring, overridden) =>
      { method with
        outcome := { method.outcome with
          type := h.settledOutcome rules declaring overridden c method }
        visibility := settledVisibility overridden method }
  | none => method

/-- A chain of classes with their methods in the end, where each class stands in front of those
above it. -/
def settleUp (h : Hierarchy) (rules : Config.MemberRules) : List Class → List Class
  | [] => []
  | c :: above =>
      let settled := settleUp h rules above
      c.withMethods (fun c => c.methods.map (h.settleOn rules settled c)) :: settled

/-- The methods of a class in the end: settled on the classes above it, as these are in the end,
when there is a way up to a root. -/
def finalMethods (h : Hierarchy) (rules : Config.MemberRules) (c : Class) : List Method :=
  if h.isRooted c then
    c.methods.map (h.settleOn rules (h.settleUp rules (h.ancestors c)) c)
  else c.methods

theorem settleMethod_eq_settleOn (h : Hierarchy) (rules : Config.MemberRules) (c : Class)
    (method : Method) :
    h.settleMethod rules c method = h.settleOn rules (h.ancestors c) c method := rfl

theorem map_settleOn_nil (h : Hierarchy) (rules : Config.MemberRules) (c : Class) :
    c.methods.map (h.settleOn rules [] c) = c.methods :=
  List.map_id' c.methods

/-- Methods play no part in what a method is settled on, apart from those of the classes above. -/
theorem settleOn_mapMethods (f : Class → List Method) (above : List Class) (c : Class)
    (method : Method) :
    (h.mapMethods f).settleOn rules above c method = h.settleOn rules above c method := by
  simp only [settleOn, settledOutcome, requiredOutcome?, compatible_mapMethods]

/-! ## Both ways agree -/

section Agreement

variable {f : Class → List Method}

/-- When every class of a lineage ends up settled on the classes above it in the end, settling it on
the way up finds the same methods. -/
theorem Coherent.settleUp_lineage (hc : h.Coherent)
    (hroot : ∀ c ∈ h.classes, h.baseOf c = none → f c = c.methods)
    (hbelow : ∀ c ∈ h.classes, h.BelowRoot c →
      f c = c.methods.map ((h.mapMethods f).settleMethod rules c))
    (hmem : c ∈ h.classes) (hr : h.RootedAt n c) :
    h.settleUp rules (h.lineage c) = (h.lineage c).map (Class.withMethods f) := by
  induction hr with
  | @root c hbase =>
      rw [lineage_of_root hbase, List.map_singleton, settleUp, settleUp]
      simp only [Class.withMethods, map_settleOn_nil, hroot c hmem hbase]
  | @climb n c base name hstated hnonempty hfound habove ih =>
      have hbase := baseOf_of_stated hstated hfound
      have hcr : h.RootedAt (n + 1) c := .climb hstated hnonempty hfound habove
      have hup := ih (hc.mem_of_baseOf hbase)
      -- the classes above, as they are in the end
      have hfinal : (h.mapMethods f).ancestors c = h.settleUp rules (h.lineage base) := by
        rw [ancestors_mapMethods f (c := c) rfl rfl, hc.ancestors_of_rootedAt hmem hcr hbase, hup]
      have hown : c.methods.map (h.settleOn rules (h.settleUp rules (h.lineage base)) c) = f c := by
        rw [hbelow c hmem ⟨n, hcr⟩, ← hfinal]
        refine List.map_congr_left ?_
        intro method _
        rw [settleMethod_eq_settleOn, settleOn_mapMethods]
      rw [hc.lineage_of_rootedAt hmem hcr hbase, settleUp, List.map_cons, ← hup]
      simp only [Class.withMethods, hown]

theorem Coherent.settleUp_ancestors (hc : h.Coherent)
    (hroot : ∀ c ∈ h.classes, h.baseOf c = none → f c = c.methods)
    (hbelow : ∀ c ∈ h.classes, h.BelowRoot c →
      f c = c.methods.map ((h.mapMethods f).settleMethod rules c))
    (hmem : c ∈ h.classes) (hr : h.RootedAt n c) :
    h.settleUp rules (h.ancestors c) = (h.mapMethods f).ancestors c := by
  rw [ancestors_mapMethods f (c := c) rfl rfl]
  cases hbase : h.baseOf c with
  | none => rw [ancestors_of_root hbase, settleUp, List.map_nil]
  | some base =>
      obtain ⟨m, rfl, habove⟩ := hr.of_baseOf hbase
      rw [hc.ancestors_of_rootedAt hmem hr hbase]
      exact hc.settleUp_lineage hroot hbelow (hc.mem_of_baseOf hbase) habove

end Agreement

/-- A class that is not below a root keeps its methods. -/
theorem Coherent.finalMethods_of_not_belowRoot (hc : h.Coherent) (hmem : c ∈ h.classes)
    (hnot : ¬ h.BelowRoot c) : h.finalMethods rules c = c.methods := by
  rw [finalMethods]
  split
  case isTrue hrooted =>
    obtain ⟨n, hn⟩ := (hc.isRooted_iff hmem).1 hrooted
    cases hn with
    | root hbase => rw [ancestors_of_root hbase, settleUp, map_settleOn_nil]
    | climb hstated hnonempty hfound habove =>
        exact absurd ⟨_, .climb hstated hnonempty hfound habove⟩ hnot
  case isFalse => rfl

/-- Reconciliation gives every class the methods that are found on the way up from it. -/
theorem Coherent.reconcile_eq_finalMethods (hc : h.Coherent) (rules : Config.MemberRules) :
    h.reconcile rules = h.mapMethods (h.finalMethods rules) := by
  have hresult : h.reconcile rules = h.mapMethods (h.settledMethods rules) :=
    hc.reconcile_eq_mapMethods rules
  have hkept : ∀ c ∈ h.classes, ¬ h.BelowRoot c → h.settledMethods rules c = c.methods :=
    fun c hmem hnot => if_neg fun hin => hnot ((hc.mem_settlingOrder_iff hmem).1 hin)
  have hbelow : ∀ c ∈ h.classes, h.BelowRoot c →
      h.settledMethods rules c =
        c.methods.map ((h.mapMethods (h.settledMethods rules)).settleMethod rules c) := by
    intro c hmem hc'
    rw [← hresult]
    exact if_pos ((hc.mem_settlingOrder_iff hmem).2 hc')
  have hroot : ∀ c ∈ h.classes, h.baseOf c = none → h.settledMethods rules c = c.methods :=
    fun c hmem hbase => hkept c hmem (not_belowRoot_of_root hbase)
  refine hresult.trans (mapMethods_congr ?_)
  intro c hmem
  by_cases hc' : h.BelowRoot c
  · obtain ⟨n, hn⟩ := hc'
    have hrooted : h.isRooted c = true := (hc.isRooted_iff hmem).2 ⟨n + 1, hn⟩
    rw [finalMethods, if_pos hrooted, hc.settleUp_ancestors hroot hbelow hmem hn,
      hbelow c hmem ⟨n, hn⟩]
    refine List.map_congr_left ?_
    intro method _
    rw [settleMethod_eq_settleOn, settleOn_mapMethods]
  · rw [hkept c hmem hc', hc.finalMethods_of_not_belowRoot hmem hc']

theorem Coherent.finalMethods_of_belowRoot (hc : h.Coherent) (hmem : c ∈ h.classes)
    (hbelow : h.BelowRoot c) :
    h.finalMethods rules c = c.methods.map ((h.reconcile rules).settleMethod rules c) := by
  have hget : h.get? c.fullName = some c := hc.get?_of_mem hmem
  have hfinal := get?_mapMethods (h := h) (h.finalMethods rules) c.fullName
  rw [← hc.reconcile_eq_finalMethods, hc.reconcile_eq_mapMethods, get?_mapMethods, hget,
    Option.map_some, Option.map_some, Option.some.injEq] at hfinal
  have hmethods := congrArg Class.methods hfinal
  simp only [Class.withMethods_methods] at hmethods
  rw [← hmethods, settledMethods, if_pos ((hc.mem_settlingOrder_iff hmem).2 hbelow)]

/-! ## Order, result and unchanged parts -/

theorem sameSignature_settleMethod (h : Hierarchy) (rules : Config.MemberRules) (c : Class)
    (method : Method) : method.SameSignature (h.settleMethod rules c method) := by
  obtain ⟨type, visibility, hkept⟩ := settleMethod_kept h rules c method
  rw [hkept]
  rfl

theorem forall₂_settleMethod (h : Hierarchy) (rules : Config.MemberRules) (c : Class)
    (methods : List Method) :
    List.Forall₂ Method.SameSignature methods (methods.map (h.settleMethod rules c)) := by
  rw [List.forall₂_map_right_iff, List.forall₂_same]
  exact fun method _ => sameSignature_settleMethod h rules c method

/-- Every class above a settled one is settled before it or is a root. -/
theorem Coherent.mem_before_or_root (hc : h.Coherent) {before after : List String} {name : String}
    (horder : h.settlingOrder = before ++ name :: after) (hmem : c ∈ h.classes)
    (hname : c.fullName = name) (hb : b ∈ h.ancestors c) :
    b.fullName ∈ before ∨ h.baseOf b = none := by
  have hin : name ∈ h.settlingOrder := by simp [horder]
  obtain ⟨n, hn⟩ := (hc.mem_settlingOrder_iff hmem).1 (hname ▸ hin)
  obtain ⟨hbmem, m, _, hm⟩ := hc.rootedAt_of_mem_ancestors hmem hn hb
  cases m with
  | zero =>
      cases hm with
      | root hbase => exact .inr hbase
  | succ m =>
      have hbin : b.fullName ∈ h.settlingOrder := (hc.mem_settlingOrder_iff hbmem).2 ⟨m, hm⟩
      rw [horder, List.mem_append, List.mem_cons] at hbin
      rcases hbin with hbefore | hsame | hafter
      · exact .inl hbefore
      · exact absurd (hsame.trans hname.symm) (fullName_ne_of_mem_ancestors hb)
      · -- behind a class comes none of its lineage
        have hlineage : b ∈ h.lineage c := by
          rw [hc.lineage_eq_cons_ancestors hmem hn]
          exact List.mem_cons_of_mem c hb
        have hpair := hc.pairwise_settlingOrder
        rw [horder, List.pairwise_append, List.pairwise_cons] at hpair
        exact absurd rfl (hpair.2.1.1 _ hafter c hmem hname b hlineage)

theorem Coherent.nodup_settlingOrder (hc : h.Coherent) : h.settlingOrder.Nodup := by
  refine hc.pairwise_settlingOrder.imp_of_mem ?_
  rintro name _ hin _ hout rfl
  obtain ⟨c, hmem, hname, _⟩ := hc.exists_of_mem_settlingOrder hin
  exact hout c hmem hname c (mem_lineage_self c) hname

/-- What the reconciliation of a hierarchy does, in which order and with which result. -/
structure ReconciledTo (rules : Config.MemberRules) (h : Hierarchy) (order : List String)
    (result : Hierarchy) : Prop where
  /-- The descent from the roots ends, with this order and this result only. -/
  descent : ∀ visited final, Descent rules h h.firstNames visited final ↔
    visited = order ∧ final = result
  /-- It settles the classes below a root and no others, -/
  visited : ∀ name, name ∈ order ↔ ∃ c ∈ h.classes, c.fullName = name ∧ h.BelowRoot c
  /-- each of them once, -/
  once : order.Nodup
  /-- and behind all classes above it but the root, which is not settled at all. -/
  behind : ∀ before name after, order = before ++ name :: after →
    ∀ c ∈ h.classes, c.fullName = name → ∀ b ∈ h.ancestors c,
      b.fullName ∈ before ∨ h.baseOf b = none
  /-- Every class has the methods that recursion along its base classes gives it. -/
  final : result = h.mapMethods (h.finalMethods rules)
  /-- Below a root, these are its own methods settled on the final methods that they override. -/
  settled : ∀ c ∈ h.classes, h.BelowRoot c →
    h.finalMethods rules c = c.methods.map (result.settleMethod rules c)
  /-- A root keeps its methods, and so does a class on a cycle of base classes or below one. -/
  kept : ∀ c ∈ h.classes, h.baseOf c = none ∨ h.Cyclic c → h.finalMethods rules c = c.methods
  /-- Nothing but result types and visibilities changes. -/
  signatures : ∀ c ∈ h.classes,
    List.Forall₂ Method.SameSignature c.methods (h.finalMethods rules c)

/-- Reconciliation comes to an end and is what recursion along the base classes gives. -/
theorem reconciledTo_reconcile (classes : List Class) (config : Config) :
    let h := ofList classes
    let rules := config.replacements.specific
    ReconciledTo rules h h.settlingOrder (h.reconcile rules) := by
  intro h rules
  have hc : h.Coherent := coherent_ofList classes
  have hnot : ∀ c ∈ h.classes, h.baseOf c = none ∨ h.Cyclic c → ¬ h.BelowRoot c := by
    rintro c _ (hroot | hcyclic)
    · exact not_belowRoot_of_root hroot
    · rintro ⟨n, hn⟩
      exact not_rooted_of_cyclic hcyclic ⟨n + 1, hn⟩
  refine
    { descent := fun _ _ => hc.descent_iff
      visited := ?visited
      once := hc.nodup_settlingOrder
      behind := fun _ _ _ horder c hmem hname b hb => hc.mem_before_or_root horder hmem hname hb
      final := hc.reconcile_eq_finalMethods rules
      settled := fun c hmem hbelow => hc.finalMethods_of_belowRoot hmem hbelow
      kept := fun c hmem hkept => hc.finalMethods_of_not_belowRoot hmem (hnot c hmem hkept)
      signatures := ?signatures }
  case visited =>
    intro name
    constructor
    · exact hc.exists_of_mem_settlingOrder
    · rintro ⟨c, hmem, rfl, hbelow⟩
      exact (hc.mem_settlingOrder_iff hmem).2 hbelow
  case signatures =>
    intro c hmem
    by_cases hbelow : h.BelowRoot c
    · rw [hc.finalMethods_of_belowRoot hmem hbelow]
      exact forall₂_settleMethod _ rules c c.methods
    · rw [hc.finalMethods_of_not_belowRoot hmem hbelow, List.forall₂_same]
      exact fun method _ => method.sameSignature_self

end Hierarchy
end Typings
