import Mathlib.Data.List.TakeWhile
import Typings.Hierarchy.Override
import Typings.Proofs.Hierarchy.Index

/-!
# Rooted classes

A class is rooted when its chain of base classes ends at a class without a base. Such a chain never
comes back to a class, so the walks of a hierarchy meet no class twice on it.

* `RootedAt`: rootedness with the number of steps to the root, which is unique;
* `lineage_eq_cons_ancestors`: the lineage of a rooted class is the class and its ancestors;
* `eq_of_mem_lineage`: a lineage holds one class for each distance from the root.
-/

namespace Typings
namespace Hierarchy

variable {h : Hierarchy} {c b base : Class} {m n : Nat}

/-! ## Distance from the root -/

/-- The base classes of a class lead, through base names that are not empty and in the given number
of steps, to a class whose own base is not in the hierarchy. -/
inductive RootedAt (h : Hierarchy) : Nat → Class → Prop where
  | root {c : Class} (unresolved : h.baseOf c = none) : RootedAt h 0 c
  | climb {n : Nat} {c base : Class} {name : String} (stated : c.base = some name)
      (nonempty : name ≠ "") (found : h.get? name = some base) (above : RootedAt h n base) :
      RootedAt h (n + 1) c

/-- The chain of base classes of a class ends at a class without a base. -/
def Rooted (h : Hierarchy) (c : Class) : Prop :=
  ∃ n, h.RootedAt n c

theorem baseOf_of_stated {name : String} (stated : c.base = some name)
    (found : h.get? name = some base) : h.baseOf c = some base := by
  simp [baseOf, stated, found]

theorem RootedAt.unique (hm : h.RootedAt m c) (hn : h.RootedAt n c) : m = n := by
  induction hm generalizing n with
  | root unresolved =>
      cases hn with
      | root _ => rfl
      | climb stated _ found _ =>
          have hbase := baseOf_of_stated stated found
          rw [unresolved] at hbase
          cases hbase
  | climb stated _ found _ ih =>
      have hbase := baseOf_of_stated stated found
      cases hn with
      | root unresolved =>
          rw [unresolved] at hbase
          cases hbase
      | climb stated' _ found' above' =>
          have hbase' := baseOf_of_stated stated' found'
          rw [hbase] at hbase'
          cases hbase'
          rw [ih above']

theorem RootedAt.of_baseOf (hr : h.RootedAt n c) (hbase : h.baseOf c = some base) :
    ∃ m, n = m + 1 ∧ h.RootedAt m base := by
  cases hr with
  | root unresolved =>
      rw [unresolved] at hbase
      cases hbase
  | @climb m _ _ _ stated _ found above =>
      have hbase' := baseOf_of_stated stated found
      rw [hbase] at hbase'
      cases hbase'
      exact ⟨m, rfl, above⟩

theorem Coherent.mem_of_baseOf (hc : h.Coherent) (hbase : h.baseOf c = some base) :
    base ∈ h.classes := by
  obtain ⟨name, _, hfound⟩ := Option.bind_eq_some_iff.1 hbase
  exact (hc.mem_of_get? hfound).1

/-- Two classes of a hierarchy with one full name are the same class. -/
theorem Coherent.eq_of_fullName (hc : h.Coherent) (hb : b ∈ h.classes) (hmem : c ∈ h.classes)
    (hname : b.fullName = c.fullName) : b = c := by
  have hb' := hc.get?_of_mem hb
  rw [hname, hc.get?_of_mem hmem] at hb'
  exact (Option.some.inj hb').symm

/-- Classes at different distances from the root have different names. -/
theorem Coherent.fullName_ne (hc : h.Coherent) (hb : b ∈ h.classes) (hmem : c ∈ h.classes)
    (hm : h.RootedAt m b) (hn : h.RootedAt n c) (hne : m ≠ n) : b.fullName ≠ c.fullName := by
  intro hname
  have heq := hc.eq_of_fullName hb hmem hname
  subst heq
  exact hne (hm.unique hn)

/-! ## Lineage of a rooted class -/

theorem lineageWithin_of_baseOf_none (unseen : List String) (hbase : h.baseOf c = none) :
    h.lineageWithin unseen c = [c] := by
  rw [lineageWithin]
  simp [hbase]

theorem lineageWithin_of_baseOf_some {unseen : List String} (hbase : h.baseOf c = some base)
    (hmem : base.fullName ∈ unseen) :
    h.lineageWithin unseen c = c :: h.lineageWithin (unseen.erase base.fullName) base := by
  rw [lineageWithin]
  simp [hbase, hmem]

/-- The full names of all classes at certain distances from their roots are among the given
ones. -/
def Covers (h : Hierarchy) (distance : Nat → Prop) (names : List String) : Prop :=
  ∀ m b, distance m → h.RootedAt m b → b ∈ h.classes → b.fullName ∈ names

theorem covers_names (distance : Nat → Prop) : h.Covers distance h.names :=
  fun _ _ _ _ hb => List.mem_map_of_mem hb

/-- Erasing the name of a class keeps the names at all other distances. -/
theorem Covers.erase {distance other : Nat → Prop} {names : List String}
    (hcovers : h.Covers distance names) (hc : h.Coherent) (hmem : c ∈ h.classes)
    (hn : h.RootedAt n c) (himp : ∀ m, other m → distance m ∧ m ≠ n) :
    h.Covers other (names.erase c.fullName) := by
  intro m b hm hb hbmem
  have hne : b.fullName ≠ c.fullName := hc.fullName_ne hbmem hmem hb hn (himp m hm).2
  exact (List.mem_erase_of_ne hne).2 (hcovers m b (himp m hm).1 hb hbmem)

/-- The walk up from a rooted class never runs out of unseen names and does not depend on them. -/
theorem lineageWithin_congr {names others : List String} (hc : h.Coherent) (hr : h.RootedAt n c)
    (hnames : h.Covers (· < n) names) (hothers : h.Covers (· < n) others) :
    h.lineageWithin names c = h.lineageWithin others c := by
  induction hr generalizing names others with
  | root unresolved =>
      rw [lineageWithin_of_baseOf_none _ unresolved, lineageWithin_of_baseOf_none _ unresolved]
  | @climb n c base name stated _ found above ih =>
      have hbase := baseOf_of_stated stated found
      have hmem := hc.mem_of_baseOf hbase
      have hlt : ∀ m, m < n → m < n + 1 ∧ m ≠ n := by
        intro m hm
        omega
      rw [lineageWithin_of_baseOf_some hbase (hnames n base (Nat.lt_succ_self n) above hmem),
        lineageWithin_of_baseOf_some hbase (hothers n base (Nat.lt_succ_self n) above hmem),
        ih (hnames.erase hc hmem above hlt) (hothers.erase hc hmem above hlt)]

theorem lineage_of_root (hbase : h.baseOf c = none) : h.lineage c = [c] :=
  lineageWithin_of_baseOf_none _ hbase

theorem Coherent.lineage_of_rootedAt (hc : h.Coherent) (hmem : c ∈ h.classes)
    (hr : h.RootedAt n c) (hbase : h.baseOf c = some base) :
    h.lineage c = c :: h.lineage base := by
  obtain ⟨m, rfl, habove⟩ := hr.of_baseOf hbase
  have hbmem := hc.mem_of_baseOf hbase
  have hnames : h.Covers (· ≤ m) (h.names.erase c.fullName) :=
    (covers_names fun _ => True).erase hc hmem hr fun k (hk : k ≤ m) => ⟨trivial, by omega⟩
  have hbnames : h.Covers (· < m) (h.names.erase base.fullName) :=
    (covers_names fun _ => True).erase hc hbmem habove fun k (hk : k < m) => ⟨trivial, by omega⟩
  have hfirst : base.fullName ∈ h.names.erase c.fullName :=
    hnames m base (Nat.le_refl m) habove hbmem
  have hrest : h.Covers (· < m) ((h.names.erase c.fullName).erase base.fullName) :=
    hnames.erase hc hbmem habove fun k (hk : k < m) => ⟨Nat.le_of_lt hk, by omega⟩
  rw [lineage, lineageWithin_of_baseOf_some hbase hfirst, lineage]
  exact congrArg _ (lineageWithin_congr hc habove hrest hbnames)

theorem mem_lineageWithin_self (unseen : List String) (c : Class) :
    c ∈ h.lineageWithin unseen c := by
  rw [lineageWithin]
  split
  · split <;> simp
  · simp

theorem mem_lineage_self (c : Class) : c ∈ h.lineage c :=
  mem_lineageWithin_self _ c

/-- What is above a rooted class is rooted at a smaller distance. -/
theorem Coherent.rootedAt_of_mem_lineage (hc : h.Coherent) (hmem : c ∈ h.classes)
    (hr : h.RootedAt n c) (hb : b ∈ h.lineage c) :
    b ∈ h.classes ∧ ∃ m, m ≤ n ∧ h.RootedAt m b := by
  induction hr with
  | root unresolved =>
      rw [lineage_of_root unresolved, List.mem_singleton] at hb
      subst hb
      exact ⟨hmem, 0, Nat.le_refl 0, .root unresolved⟩
  | @climb n c base name stated nonempty found above ih =>
      have hbase := baseOf_of_stated stated found
      have hr' : h.RootedAt (n + 1) c := .climb stated nonempty found above
      rw [hc.lineage_of_rootedAt hmem hr' hbase, List.mem_cons] at hb
      rcases hb with rfl | hb
      · exact ⟨hmem, n + 1, Nat.le_refl _, hr'⟩
      · obtain ⟨hbmem, m, hle, hm⟩ := ih (hc.mem_of_baseOf hbase) hb
        exact ⟨hbmem, m, Nat.le_succ_of_le hle, hm⟩

/-- A lineage holds one class for each distance from the root. -/
theorem Coherent.eq_of_mem_lineage {a : Class} (hc : h.Coherent) (hmem : c ∈ h.classes)
    (hr : h.RootedAt n c) (ha : a ∈ h.lineage c) (hb : b ∈ h.lineage c)
    (hma : h.RootedAt m a) (hmb : h.RootedAt m b) : a = b := by
  induction hr with
  | root unresolved =>
      rw [lineage_of_root unresolved, List.mem_singleton] at ha hb
      rw [ha, hb]
  | @climb n c base name stated nonempty found above ih =>
      have hbase := baseOf_of_stated stated found
      have hr' : h.RootedAt (n + 1) c := .climb stated nonempty found above
      have hbasemem := hc.mem_of_baseOf hbase
      rw [hc.lineage_of_rootedAt hmem hr' hbase, List.mem_cons] at ha hb
      -- the class itself is the only one at its distance
      have habsurd : ∀ d ∈ h.lineage base, h.RootedAt (n + 1) d → False := by
        intro d hd hdn
        obtain ⟨_, k, hle, hk⟩ := hc.rootedAt_of_mem_lineage hbasemem above hd
        have := hk.unique hdn
        omega
      rcases ha with rfl | ha
      · rcases hb with rfl | hb
        · rfl
        · exact (habsurd b hb (hma.unique hr' ▸ hmb)).elim
      · rcases hb with rfl | hb
        · exact (habsurd a ha (hmb.unique hr' ▸ hma)).elim
        · exact ih hbasemem ha hb

theorem Coherent.mem_lineage_trans {a : Class} (hc : h.Coherent) (hmem : c ∈ h.classes)
    (hr : h.RootedAt n c) (hb : b ∈ h.lineage c) (ha : a ∈ h.lineage b) : a ∈ h.lineage c := by
  induction hr with
  | root unresolved =>
      rw [lineage_of_root unresolved, List.mem_singleton] at hb
      subst hb
      exact ha
  | @climb n c base name stated nonempty found above ih =>
      have hbase := baseOf_of_stated stated found
      have hlineage := hc.lineage_of_rootedAt hmem (.climb stated nonempty found above) hbase
      rw [hlineage, List.mem_cons] at hb
      rcases hb with rfl | hb
      · exact ha
      · rw [hlineage]
        exact List.mem_cons_of_mem _ (ih (hc.mem_of_baseOf hbase) hb)

/-! ## Ancestors of a rooted class -/

theorem ancestors_of_root (hbase : h.baseOf c = none) : h.ancestors c = [] := by
  simp [ancestors, hbase]

theorem Coherent.ancestors_of_rootedAt (hc : h.Coherent) (hmem : c ∈ h.classes)
    (hr : h.RootedAt n c) (hbase : h.baseOf c = some base) :
    h.ancestors c = h.lineage base := by
  obtain ⟨m, rfl, habove⟩ := hr.of_baseOf hbase
  simp only [ancestors, hbase, ne_eq, decide_not]
  refine List.takeWhile_eq_self_iff.2 ?_
  intro a ha
  obtain ⟨hamem, k, hle, hk⟩ := hc.rootedAt_of_mem_lineage (hc.mem_of_baseOf hbase) habove ha
  have hne := hc.fullName_ne hamem hmem hk hr (by omega)
  simpa using hne

/-- The lineage of a rooted class is the class itself and then its ancestors. -/
theorem Coherent.lineage_eq_cons_ancestors (hc : h.Coherent) (hmem : c ∈ h.classes)
    (hr : h.RootedAt n c) : h.lineage c = c :: h.ancestors c := by
  cases hbase : h.baseOf c with
  | none => rw [lineage_of_root hbase, ancestors_of_root hbase]
  | some base =>
      rw [hc.lineage_of_rootedAt hmem hr hbase, hc.ancestors_of_rootedAt hmem hr hbase]

theorem Coherent.rootedAt_of_mem_ancestors (hc : h.Coherent) (hmem : c ∈ h.classes)
    (hr : h.RootedAt n c) (hb : b ∈ h.ancestors c) :
    b ∈ h.classes ∧ ∃ m, m < n ∧ h.RootedAt m b := by
  cases hbase : h.baseOf c with
  | none =>
      rw [ancestors_of_root hbase] at hb
      cases hb
  | some base =>
      rw [hc.ancestors_of_rootedAt hmem hr hbase] at hb
      obtain ⟨m, rfl, habove⟩ := hr.of_baseOf hbase
      obtain ⟨hbmem, k, hle, hk⟩ := hc.rootedAt_of_mem_lineage (hc.mem_of_baseOf hbase) habove hb
      exact ⟨hbmem, k, Nat.lt_succ_of_le hle, hk⟩

end Hierarchy
end Typings
