import Mathlib.Data.List.Chain
import Typings.Proofs.Hierarchy.Reachability

/-!
# Walks up and the methods found on them

A walk up from a class goes from base class to base class and remembers the full names on its way.
It ends where there is no base class, and at a class whose name it remembers, so it ends on every
hierarchy, also where base classes lead back to where they started.

* `WalksUp`: the walk, step by step;
* `Coherent.walksUp_iff`: the lineage of a class is what this walk meets;
* `Coherent.lineage_eq_cons`: what is above a class is the rest of its own lineage;
* `lineage_overridden`: lineages and overridden methods in any hierarchy.
-/

namespace Typings

/-! ## Methods of one slot -/

/-- Methods of one name that are both static or both not. -/
def Method.SameSlot (method other : Method) : Prop :=
  method.name = other.name ∧ method.isStatic = other.isStatic

instance (method other : Method) : Decidable (method.SameSlot other) :=
  inferInstanceAs (Decidable (_ ∧ _))

/-- A method is the first one of a class that could be overridden by another one. -/
def Class.Provides (c : Class) (method found : Method) : Prop :=
  ∃ front back, c.methods = front ++ found :: back ∧ found.SameSlot method ∧
    ∀ own ∈ front, ¬ own.SameSlot method

namespace Hierarchy

variable {h : Hierarchy} {b c d : Class} {seen unseen : List String} {start : Option Class}
  {walk other : List Class} {name : String} {method found : Method}

/-! ## The walk -/

/-- What a walk meets from a class on, or from where there is none, given the full names that were
met before. -/
inductive WalksUp (h : Hierarchy) : List String → Option Class → List Class → Prop where
  | top (seen : List String) : WalksUp h seen none []
  | again {seen : List String} {c : Class} (old : c.fullName ∈ seen) : WalksUp h seen (some c) []
  | climb {seen : List String} {c : Class} {above : List Class} (new : c.fullName ∉ seen)
      (rest : WalksUp h (c.fullName :: seen) (h.baseOf c) above) :
      WalksUp h seen (some c) (c :: above)

namespace WalksUp

/-- There is one walk at most. -/
theorem unique (hwalk : WalksUp h seen start walk) (hother : WalksUp h seen start other) :
    walk = other := by
  induction hwalk generalizing other with
  | top seen =>
      cases hother
      rfl
  | again old =>
      cases hother with
      | again _ => rfl
      | climb new _ => exact absurd old new
  | climb new _ ih =>
      cases hother with
      | again old => exact absurd old new
      | climb _ rest => rw [ih rest]

theorem not_mem_seen (hwalk : WalksUp h seen start walk) (hb : b ∈ walk) : b.fullName ∉ seen := by
  induction hwalk with
  | top seen => cases hb
  | again old => cases hb
  | climb new rest ih =>
      rcases List.mem_cons.1 hb with rfl | hb
      · exact new
      · exact fun hseen => ih hb (List.mem_cons_of_mem _ hseen)

/-- No class is met twice. -/
theorem nodup (hwalk : WalksUp h seen start walk) : walk.Nodup := by
  induction hwalk with
  | top seen => exact List.nodup_nil
  | again old => exact List.nodup_nil
  | climb new rest ih =>
      refine List.nodup_cons.2 ⟨?_, ih⟩
      intro hmem
      exact rest.not_mem_seen hmem List.mem_cons_self

theorem head?_eq (hwalk : WalksUp h seen start (b :: walk)) : start = some b := by
  cases hwalk
  rfl

/-- Behind every class that is met comes its base class, if any. -/
theorem isChain (hwalk : WalksUp h seen start walk) : walk.IsChain h.Extends := by
  induction hwalk with
  | top seen => exact List.isChain_nil
  | again old => exact List.isChain_nil
  | @climb seen c above new rest ih =>
      cases above with
      | nil => exact List.isChain_singleton c
      | cons next above => exact List.isChain_cons_cons.2 ⟨rest.head?_eq, ih⟩

end WalksUp

/-! ## The lineage as a walk -/

/-- A walk that goes on as long as base classes are unseen is a walk that remembers all others. -/
theorem Coherent.walksUp_lineageWithin (hc : h.Coherent) (hnodup : unseen.Nodup)
    (hnew : c.fullName ∉ seen)
    (hunseen : ∀ name ∈ h.names, name ∈ unseen ↔ name ∉ c.fullName :: seen) :
    WalksUp h seen (some c) (h.lineageWithin unseen c) := by
  fun_induction lineageWithin h unseen c generalizing seen with
  | case1 unseen c base hbase hmem ih =>
      have hname : base.fullName ∈ h.names := List.mem_map_of_mem (hc.mem_of_baseOf hbase)
      refine .climb hnew ?_
      rw [hbase]
      refine ih (hnodup.erase base.fullName) ((hunseen _ hname).1 hmem) ?_
      intro name hin
      rw [hnodup.mem_erase_iff, hunseen name hin, List.mem_cons (b := base.fullName), not_or]
  | case2 unseen c base hbase hmem =>
      have hname : base.fullName ∈ h.names := List.mem_map_of_mem (hc.mem_of_baseOf hbase)
      have hold : base.fullName ∈ c.fullName :: seen := by
        by_contra hnot
        exact hmem ((hunseen _ hname).2 hnot)
      refine .climb hnew ?_
      rw [hbase]
      exact .again hold
  | case3 unseen c hbase =>
      refine .climb hnew ?_
      rw [hbase]
      exact .top _

theorem Coherent.walksUp_lineage (hc : h.Coherent) (c : Class) :
    WalksUp h [] (some c) (h.lineage c) := by
  refine hc.walksUp_lineageWithin (hc.nodup.erase c.fullName) List.not_mem_nil ?_
  intro name hin
  rw [hc.nodup.mem_erase_iff, and_iff_left hin, List.mem_singleton]

/-- The walk up from a class ends, and it meets the lineage. -/
theorem Coherent.walksUp_iff (hc : h.Coherent) :
    WalksUp h [] (some c) walk ↔ walk = h.lineage c := by
  constructor
  · intro hwalk
    exact hwalk.unique (hc.walksUp_lineage c)
  · rintro rfl
    exact hc.walksUp_lineage c

/-! ## What is above a class -/

/-- Only the names that are seen count, not their order. -/
theorem WalksUp.congr {others : List String} (hwalk : WalksUp h seen start walk)
    (hsame : ∀ name, name ∈ seen ↔ name ∈ others) : WalksUp h others start walk := by
  induction hwalk generalizing others with
  | top seen => exact .top others
  | again old => exact .again ((hsame _).1 old)
  | climb new rest ih =>
      refine .climb (fun old => new ((hsame _).2 old)) (ih ?_)
      intro name
      rw [List.mem_cons, List.mem_cons, hsame]

/-- A walk that is left in front of a name is one to which this name is known from the start. -/
theorem WalksUp.takeWhile (hwalk : WalksUp h seen start walk) (name : String) :
    WalksUp h (name :: seen) start (walk.takeWhile fun b => b.fullName ≠ name) := by
  induction hwalk with
  | top seen => exact .top _
  | again old => exact .again (List.mem_cons_of_mem name old)
  | @climb seen c above new rest ih =>
      by_cases hname : c.fullName = name
      · rw [List.takeWhile_cons_of_neg (by simpa using hname)]
        exact .again (hname ▸ List.mem_cons_self)
      · rw [List.takeWhile_cons_of_pos (by simpa using hname)]
        refine .climb ?_ (ih.congr ?_)
        · exact fun old => new ((List.mem_cons.1 old).resolve_left hname)
        · intro other
          simp only [List.mem_cons]
          exact or_left_comm

/-- The lineage of a class goes on with what is above the class, on cycles, below them and where a
class is its own base as well. -/
theorem Coherent.lineage_eq_cons (hc : h.Coherent) (c : Class) :
    h.lineage c = c :: h.ancestors c := by
  have habove : WalksUp h [c.fullName] (h.baseOf c) (h.ancestors c) := by
    cases hbase : h.baseOf c with
    | none =>
        rw [ancestors_of_root hbase]
        exact .top _
    | some base =>
        simp only [ancestors, hbase]
        exact (hc.walksUp_lineage base).takeWhile c.fullName
  exact (hc.walksUp_iff.1 (.climb List.not_mem_nil habove)).symm

/-! ## Overridden methods -/

theorem method?_eq_find? (d : Class) (method : Method) :
    d.method? method.name method.isStatic = d.methods.find? fun own => own.SameSlot method := by
  rw [Class.method?]
  congr 1
  funext own
  exact (Bool.decide_and _ _).symm

theorem method?_eq_none_iff :
    d.method? method.name method.isStatic = none ↔ ∀ own ∈ d.methods, ¬ own.SameSlot method := by
  rw [method?_eq_find?, List.find?_eq_none]
  simp only [decide_eq_true_eq]

theorem method?_eq_some_iff :
    d.method? method.name method.isStatic = some found ↔ d.Provides method found := by
  rw [method?_eq_find?, List.find?_eq_some_iff_append, Class.Provides]
  simp only [decide_eq_true_eq, Bool.not_eq_true', decide_eq_false_iff_not]
  constructor
  · rintro ⟨hfound, front, back, hmethods, hfront⟩
    exact ⟨front, back, hmethods, hfound, hfront⟩
  · rintro ⟨front, back, hmethods, hfound, hfront⟩
    exact ⟨hfound, front, back, hmethods, hfront⟩

/-- A method overrides the first one like it on the rest of the lineage of its class. -/
theorem Coherent.overridden?_eq_some_iff (hc : h.Coherent) :
    h.overridden? c method = some (d, found) ↔
      ∃ between above, h.lineage c = c :: (between ++ d :: above) ∧
        (∀ b ∈ between, ∀ own ∈ b.methods, ¬ own.SameSlot method) ∧ d.Provides method found := by
  rw [overridden?, List.findSome?_eq_some_iff, hc.lineage_eq_cons c]
  constructor
  · rintro ⟨between, declaring, above, hancestors, hfound, hbetween⟩
    obtain ⟨own, hown, hpair⟩ := Option.map_eq_some_iff.1 hfound
    cases hpair
    refine ⟨between, above, by rw [hancestors], ?_, method?_eq_some_iff.1 hown⟩
    intro b hb
    exact method?_eq_none_iff.1 (Option.map_eq_none_iff.1 (hbetween b hb))
  · rintro ⟨between, above, hlineage, hbetween, hprovides⟩
    refine ⟨between, d, above, (List.cons.inj hlineage).2, ?_, ?_⟩
    · rw [method?_eq_some_iff.2 hprovides]
      rfl
    · intro b hb
      rw [method?_eq_none_iff.2 (hbetween b hb)]
      rfl

/-- The lineage of a class and the methods that its methods override, in any hierarchy. The walk up
from a class ends, and what it meets is the lineage: the class first, then every class that base
classes lead to, each once and behind a class that it is the base of. A method overrides the first
method like it in the first class behind its own one that has such methods, and never one of its own
class. -/
theorem lineage_overridden (added : List Class) :
    let h := ofList added
    ∀ c ∈ h.classes,
      (∀ walk, WalksUp h [] (some c) walk ↔ walk = h.lineage c) ∧
      (h.lineage c).head? = some c ∧
      (∀ b, b ∈ h.lineage c ↔ Relation.ReflTransGen h.Extends c b) ∧
      (h.lineage c).Nodup ∧
      (h.lineage c).IsChain h.Extends ∧
      ∀ method d found,
        (h.overridden? c method = some (d, found) ↔
          ∃ between above, h.lineage c = c :: (between ++ d :: above) ∧
            (∀ b ∈ between, ∀ own ∈ b.methods, ¬ own.SameSlot method) ∧ d.Provides method found) ∧
        (h.overridden? c method = some (d, found) → d ≠ c) := by
  intro h c hmem
  have hc : h.Coherent := coherent_ofList added
  have hwalk : WalksUp h [] (some c) (h.lineage c) := hc.walksUp_lineage c
  refine ⟨fun walk => hc.walksUp_iff, ?_, ?_, hwalk.nodup, hwalk.isChain, ?_⟩
  · rw [hc.lineage_eq_cons c, List.head?_cons]
  · intro b
    exact hc.mem_lineage_iff hmem
  · intro method d found
    refine ⟨hc.overridden?_eq_some_iff, ?_⟩
    intro hoverridden
    -- the class stands in front of its own lineage, and nothing is met twice
    obtain ⟨between, above, hlineage, -, -⟩ := hc.overridden?_eq_some_iff.1 hoverridden
    have hnodup := hwalk.nodup
    rw [hlineage, List.nodup_cons] at hnodup
    rintro rfl
    exact hnodup.1 (List.mem_append_right between List.mem_cons_self)

/-- Two classes that are each other's base, one below them, and one that is its own base. -/
def looping : List Class :=
  [classReturning "A" (some "x.B") "x.A", classReturning "B" (some "x.A") "string",
    classReturning "C" (some "x.A") "number", classReturning "S" (some "x.S") "x.S"]

/-- The method of one of these classes. -/
def selfOf (name type : String) : Method where
  name := "self"
  fullName := name ++ ".self"
  ownerName := name
  ownerKind := .classType
  outcome := { type }

/-- On a cycle a method overrides that of the other class, below the cycle that of the nearer one,
and where a class is its own base it overrides none. -/
theorem lineage_overridden_looping :
    let h := ofList looping
    let own := selfOf "x.A" "x.A"
    ∃ a ∈ h.classes, ∃ b ∈ h.classes, ∃ c ∈ h.classes, ∃ s ∈ h.classes,
      h.lineage a = [a, b] ∧ h.lineage c = [c, a, b] ∧ h.lineage s = [s] ∧
        h.overridden? a own = some (b, selfOf "x.B" "string") ∧ b ≠ a ∧
        h.overridden? c own = some (a, own) ∧ ∀ d found, h.overridden? s own ≠ some (d, found) := by
  intro h own
  let a := classReturning "A" (some "x.B") "x.A"
  let b := classReturning "B" (some "x.A") "string"
  let c := classReturning "C" (some "x.A") "number"
  let s := classReturning "S" (some "x.S") "x.S"
  have ha : a ∈ h.classes := by decide +kernel
  have hb : b ∈ h.classes := by decide +kernel
  have hmem : c ∈ h.classes := by decide +kernel
  have hs : s ∈ h.classes := by decide +kernel
  have hla : h.lineage a = [a, b] := by decide +kernel
  have hlc : h.lineage c = [c, a, b] := by decide +kernel
  have hls : h.lineage s = [s] := by decide +kernel
  have hma : a.methods = [] ++ own :: [] := by decide +kernel
  have hmb : b.methods = [] ++ selfOf "x.B" "string" :: [] := by decide +kernel
  have hnone : ∀ other ∈ ([] : List Method), ¬ other.SameSlot own := by simp
  -- the nearest class with such a method is the next one on both lineages
  have hoverridden := (lineage_overridden looping a ha).2.2.2.2.2 own b (selfOf "x.B" "string")
  have hfirst : h.overridden? a own = some (b, selfOf "x.B" "string") :=
    hoverridden.1.2 ⟨[], [], hla, by simp, [], [], hmb, ⟨rfl, rfl⟩, hnone⟩
  have hsecond : h.overridden? c own = some (a, own) :=
    ((lineage_overridden looping c hmem).2.2.2.2.2 own a own).1.2
      ⟨[], [b], hlc, by simp, [], [], hma, ⟨rfl, rfl⟩, hnone⟩
  refine ⟨a, ha, b, hb, c, hmem, s, hs, hla, hlc, hls, hfirst, hoverridden.2 hfirst, hsecond, ?_⟩
  intro d found hfound
  obtain ⟨between, above, hlineage, -⟩ :=
    ((lineage_overridden looping s hs).2.2.2.2.2 own d found).1.1 hfound
  rw [hls] at hlineage
  simp at hlineage

end Hierarchy
end Typings
