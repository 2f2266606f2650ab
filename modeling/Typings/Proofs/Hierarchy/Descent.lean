import Typings.Proofs.Hierarchy.Settled

/-!
# Descending from the roots

Reconciliation can be read as a descent: a class is settled, then the classes that name it as their
base, each with those below it. Nothing in such a descent keeps track of the classes that it has
met, so that on a cycle of base classes it would not come to an end. It never gets there: it starts
below the roots, and from there every class is met on the one way up to its root.

* `Descent`: a descent that has come to an end, with the classes in the order in which it settles
  them;
* `Descent.unique`: its order and result are the only ones;
* `descent_iff`: the descent from the roots ends, with the order and the result of reconciliation.
-/

namespace Typings
namespace Hierarchy

variable {h g : Hierarchy} {b c : Class} {rules : Config.MemberRules}
  {names visited unseen : List String} {result : Hierarchy} {n : Nat}

/-! ## Descents -/

/-- The full names of the classes that name a base class. -/
def subclassNames (h : Hierarchy) (name : String) : List String :=
  (h.subclassesOf name).map (·.fullName)

/-- The full names of the classes that name a root as their base class. -/
def firstNames (h : Hierarchy) : List String :=
  h.roots.flatMap fun root => h.subclassNames root.fullName

/-- A finished descent from a hierarchy along some names: the class of each name is settled, then
the descent goes along the subclasses of it, then along the other names. -/
inductive Descent (rules : Config.MemberRules) :
    Hierarchy → List String → List String → Hierarchy → Prop where
  | done (h : Hierarchy) : Descent rules h [] [] h
  | settle {h below result : Hierarchy} {name : String} {rest visitedBelow visited : List String}
      (down : Descent rules (settleClass rules h name)
        ((settleClass rules h name).subclassNames name) visitedBelow below)
      (on : Descent rules below rest visited result) :
      Descent rules h (name :: rest) (name :: (visitedBelow ++ visited)) result

/-- A descent has one outcome. -/
theorem Descent.unique {visited' : List String} {result' : Hierarchy}
    (hd : Descent rules h names visited result) (hd' : Descent rules h names visited' result') :
    visited = visited' ∧ result = result' := by
  induction hd generalizing visited' result' with
  | done h =>
      cases hd'
      exact ⟨rfl, rfl⟩
  | settle down on ihdown ihon =>
      cases hd' with
      | settle down' on' =>
          obtain ⟨rfl, rfl⟩ := ihdown down'
          obtain ⟨rfl, rfl⟩ := ihon on'
          exact ⟨rfl, rfl⟩

theorem Descent.append {more visitedMore : List String} {final : Hierarchy}
    (hd : Descent rules h names visited result)
    (hmore : Descent rules result more visitedMore final) :
    Descent rules h (names ++ more) (visited ++ visitedMore) final := by
  induction hd with
  | done h => exact hmore
  | @settle h below result name rest visitedBelow visited down on ihdown ihon =>
      have hon : Descent rules below (rest ++ more) (visited ++ visitedMore) final := ihon hmore
      have hall := Descent.settle down hon
      rwa [← List.append_assoc] at hall

/-! ## Subclasses while the methods change -/

theorem subclassNames_mapMethods (f : Class → List Method) :
    (h.mapMethods f).subclassNames = h.subclassNames := by
  funext name
  simp [subclassNames, subclassesOf_mapMethods, Function.comp_def]

theorem subclassNames_settleClass (name : String) :
    (settleClass rules h name).subclassNames = h.subclassNames :=
  subclassNames_mapMethods _

theorem subclassNames_foldl_settleClass (order : List String) :
    (order.foldl (settleClass rules) h).subclassNames = h.subclassNames := by
  induction order generalizing h with
  | nil => rfl
  | cons name rest ih => rw [List.foldl_cons, ih, subclassNames_settleClass]

/-- Descents along one list of names after the other, each of which settles its names in order. -/
theorem descent_flatMap {α : Type} {starts order : α → List String} (xs : List α)
    (hparts : ∀ x ∈ xs, ∀ g : Hierarchy, g.subclassNames = h.subclassNames →
      Descent rules g (starts x) (order x) ((order x).foldl (settleClass rules) g))
    (hsame : g.subclassNames = h.subclassNames) :
    Descent rules g (xs.flatMap starts) (xs.flatMap order)
      ((xs.flatMap order).foldl (settleClass rules) g) := by
  induction xs generalizing g with
  | nil => exact .done g
  | cons x xs ih =>
      have hfirst := hparts x List.mem_cons_self g hsame
      have hrest := ih (g := (order x).foldl (settleClass rules) g)
        (fun y hy => hparts y (List.mem_cons_of_mem x hy))
        ((subclassNames_foldl_settleClass _).trans hsame)
      rw [List.flatMap_cons, List.flatMap_cons, List.foldl_append]
      exact hfirst.append hrest

/-! ## The descent from the roots -/

/-- Below a rooted class, no name is met that is marked as seen, unless one deeper down is. -/
theorem Coherent.descendantsWithin_eq (hc : h.Coherent) (hb : b ∈ h.classes)
    (hr : h.RootedAt n b) (hcovers : h.Covers (n < ·) unseen) :
    h.descendantsWithin unseen b.fullName =
      (h.subclassesOf b.fullName).flatMap fun s =>
        s.fullName :: h.descendantsWithin (unseen.erase s.fullName) s.fullName := by
  rw [descendantsWithin]
  refine List.flatMap_congr ?_
  intro s hs
  obtain ⟨hsmem, hsr, _⟩ := hc.rootedAt_of_mem_subclassesOf hb hr hs
  exact if_pos (hcovers (n + 1) s (Nat.lt_succ_self n) hsr hsmem)

/-- From the subclasses of a rooted class the descent ends. -/
theorem Coherent.descent_of_rootedAt (hc : h.Coherent) (hb : b ∈ h.classes)
    (hr : h.RootedAt n b) (hcovers : h.Covers (n < ·) unseen)
    (hsame : g.subclassNames = h.subclassNames) :
    Descent rules g (h.subclassNames b.fullName) (h.descendantsWithin unseen b.fullName)
      ((h.descendantsWithin unseen b.fullName).foldl (settleClass rules) g) := by
  generalize hname : b.fullName = name
  fun_induction descendantsWithin h unseen name generalizing b n g with
  | case1 unseen name ih =>
      subst hname
      rw [← descendantsWithin, hc.descendantsWithin_eq hb hr hcovers, subclassNames,
        List.map_eq_flatMap]
      refine descent_flatMap (h := h) _ ?_ hsame
      intro s hs g hsame
      obtain ⟨hsmem, hsr, _⟩ := hc.rootedAt_of_mem_subclassesOf hb hr hs
      have hseen : s.fullName ∈ unseen := hcovers (n + 1) s (Nat.lt_succ_self n) hsr hsmem
      have hdeeper : h.Covers (n + 1 < ·) (unseen.erase s.fullName) :=
        hcovers.erase hc hsmem hsr fun k (hk : n + 1 < k) => ⟨by omega, by omega⟩
      -- the class itself is settled, then those below it
      have hstep : (settleClass rules g s.fullName).subclassNames = h.subclassNames :=
        (subclassNames_settleClass _).trans hsame
      have hdown := ih s hseen hsmem hsr hdeeper hstep rfl
      rw [← hstep] at hdown
      have hall := hdown.settle (.done _)
      rwa [List.append_nil] at hall

/-- The descent from the roots ends, with the order and the result of reconciliation. -/
theorem Coherent.descent_iff (hc : h.Coherent) :
    Descent rules h h.firstNames visited result ↔
      visited = h.settlingOrder ∧ result = h.reconcile rules := by
  have hdescent : Descent rules h h.firstNames h.settlingOrder (h.reconcile rules) := by
    refine descent_flatMap (h := h) h.roots ?_ rfl
    intro root hroot g hsame
    obtain ⟨hmem, hbase⟩ := mem_roots.1 hroot
    exact hc.descent_of_rootedAt hmem (.root hbase) (covers_names _) hsame
  constructor
  · intro hd
    exact hd.unique hdescent
  · rintro ⟨rfl, rfl⟩
    exact hdescent

end Hierarchy
end Typings
