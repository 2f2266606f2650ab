import Typings.Proofs.Hierarchy.Rooted

/-!
# The order of settling

Reconciliation goes down from the roots. The names that it meets are those of the classes that are
rooted at least one step below a root, each once, and each behind all names of its own lineage.

* `mem_settlingOrder_iff`: which classes are settled;
* `pairwise_settlingOrder`: no class is settled before one on its lineage, and none twice.
-/

namespace Typings
namespace Hierarchy

variable {h : Hierarchy} {c b s : Class} {name x y : String} {unseen : List String} {m n : Nat}

/-! ## Subclasses of a rooted class -/

/-- A listed subclass of a rooted class is rooted one step further down, right below it. -/
theorem Coherent.rootedAt_of_mem_subclassesOf (hc : h.Coherent) (hb : b ∈ h.classes)
    (hr : h.RootedAt n b) (hs : s ∈ h.subclassesOf b.fullName) :
    s ∈ h.classes ∧ h.RootedAt (n + 1) s ∧ h.lineage s = s :: h.lineage b := by
  obtain ⟨hmem, hstated, hnonempty⟩ := hc.mem_subclassesOf.1 hs
  have hfound : h.get? b.fullName = some b := hc.get?_of_mem hb
  have hsr : h.RootedAt (n + 1) s := .climb hstated hnonempty hfound hr
  exact ⟨hmem, hsr, hc.lineage_of_rootedAt hmem hsr (baseOf_of_stated hstated hfound)⟩

/-- On the way up from a class to one above it stands a subclass of the latter. -/
theorem Coherent.exists_subclass_on_lineage (hc : h.Coherent) (hmem : c ∈ h.classes)
    (hr : h.RootedAt m c) (hb : b ∈ h.lineage c) (hbr : h.RootedAt n b) (hlt : n < m) :
    ∃ s ∈ h.lineage c, s ∈ h.subclassesOf b.fullName := by
  induction hr with
  | root _ => exact absurd hlt (Nat.not_lt_zero n)
  | @climb k c base stated hstated hnonempty hfound habove ih =>
      have hbase := baseOf_of_stated hstated hfound
      have hbasemem := hc.mem_of_baseOf hbase
      have hcr : h.RootedAt (k + 1) c := .climb hstated hnonempty hfound habove
      have hlineage := hc.lineage_of_rootedAt hmem hcr hbase
      have hb' : b ∈ h.lineage base := by
        rw [hlineage, List.mem_cons] at hb
        refine hb.resolve_left ?_
        rintro rfl
        exact Nat.ne_of_lt hlt (hbr.unique hcr)
      by_cases heq : n = k
      · -- the base itself is the class above
        subst heq
        have hsame : base = b :=
          hc.eq_of_mem_lineage hbasemem habove (mem_lineage_self base) hb' habove hbr
        subst hsame
        have hname := (hc.mem_of_get? hfound).2
        exact ⟨c, mem_lineage_self c, hc.mem_subclassesOf.2
          ⟨hmem, by rw [hstated, hname], by rw [hname]; exact hnonempty⟩⟩
      · obtain ⟨s, hs, hsub⟩ := ih hbasemem hb' (by omega)
        exact ⟨s, hlineage ▸ List.mem_cons_of_mem c hs, hsub⟩

/-! ## Names below a rooted class -/

/-- A name that is met below a class belongs to a class with this one on its lineage. -/
theorem Coherent.of_mem_descendantsWithin (hc : h.Coherent) (hb : b ∈ h.classes)
    (hr : h.RootedAt n b) (hx : x ∈ h.descendantsWithin unseen b.fullName) :
    ∃ c ∈ h.classes, c.fullName = x ∧ b ∈ h.lineage c ∧ ∃ m, h.RootedAt m c ∧ n < m := by
  generalize hname : b.fullName = name at hx
  fun_induction descendantsWithin h unseen name generalizing b n with
  | case1 unseen name ih =>
      subst hname
      obtain ⟨s, hs, hx⟩ := List.mem_flatMap.1 hx
      obtain ⟨hsmem, hsr, hlineage⟩ := hc.rootedAt_of_mem_subclassesOf hb hr hs
      have hbs : b ∈ h.lineage s := hlineage ▸ List.mem_cons_of_mem s (mem_lineage_self b)
      split at hx
      case isFalse => cases hx
      case isTrue hseen =>
        rcases List.mem_cons.1 hx with rfl | hx
        · exact ⟨s, hsmem, rfl, hbs, n + 1, hsr, Nat.lt_succ_self n⟩
        · obtain ⟨c, hmem, hcname, hsc, k, hcr, hlt⟩ := ih s hseen hsmem hsr rfl hx
          exact ⟨c, hmem, hcname, hc.mem_lineage_trans hmem hcr hsc hbs, k, hcr, by omega⟩

/-- Every class below a rooted one is met, as long as no name is marked as seen that lies deeper. -/
theorem Coherent.mem_descendantsWithin (hc : h.Coherent) (hb : b ∈ h.classes)
    (hr : h.RootedAt n b) (hcovers : h.Covers (n < ·) unseen) (hmem : c ∈ h.classes)
    (hcr : h.RootedAt m c) (hbc : b ∈ h.lineage c) (hlt : n < m) :
    c.fullName ∈ h.descendantsWithin unseen b.fullName := by
  generalize hname : b.fullName = name
  fun_induction descendantsWithin h unseen name generalizing b n with
  | case1 unseen name ih =>
      subst hname
      obtain ⟨s, hsc, hs⟩ := hc.exists_subclass_on_lineage hmem hcr hbc hr hlt
      obtain ⟨hsmem, hsr, _⟩ := hc.rootedAt_of_mem_subclassesOf hb hr hs
      have hseen : s.fullName ∈ unseen := hcovers (n + 1) s (Nat.lt_succ_self n) hsr hsmem
      refine List.mem_flatMap.2 ⟨s, hs, ?_⟩
      rw [if_pos hseen, List.mem_cons]
      by_cases heq : n + 1 = m
      · -- the class itself is the subclass
        subst heq
        left
        rw [hc.eq_of_mem_lineage hmem hcr hsc (mem_lineage_self c) hsr hcr]
      · right
        have hdeeper : h.Covers (n + 1 < ·) (unseen.erase s.fullName) :=
          hcovers.erase hc hsmem hsr fun k (hk : n + 1 < k) => ⟨by omega, by omega⟩
        exact ih s hseen hsmem hsr hdeeper hsc (by omega) rfl

/-! ## Order -/

/-- The class of the second name does not stand on the lineage of the class of the first one. -/
def OutsideLineage (h : Hierarchy) (x y : String) : Prop :=
  ∀ c ∈ h.classes, c.fullName = x → ∀ b ∈ h.lineage c, b.fullName ≠ y

/-- Names below different classes at one distance from the root do not meet. -/
theorem Coherent.outsideLineage_of_ne {t d e : Class} {k l : Nat} (hc : h.Coherent)
    (hs : h.RootedAt n s) (ht : h.RootedAt n t) (hne : s ≠ t)
    (hd : d ∈ h.classes) (hdr : h.RootedAt k d) (hsd : s ∈ h.lineage d)
    (he : e ∈ h.classes) (her : h.RootedAt l e) (hte : t ∈ h.lineage e) :
    h.OutsideLineage d.fullName e.fullName := by
  intro c hmem hname b hb hbname
  have hcd : c = d := hc.eq_of_fullName hmem hd hname
  subst hcd
  have hbe : b = e :=
    hc.eq_of_fullName (hc.rootedAt_of_mem_lineage hmem hdr hb).1 he hbname
  subst hbe
  exact hne (hc.eq_of_mem_lineage hmem hdr hsd (hc.mem_lineage_trans hmem hdr hb hte) hs ht)

theorem Coherent.nodup_classes (hc : h.Coherent) : h.classes.Nodup :=
  List.Nodup.of_map _ hc.nodup

theorem Coherent.nodup_subclassesOf (hc : h.Coherent) (name : String) :
    (h.subclassesOf name).Nodup := by
  rw [hc.listed]
  exact hc.nodup_classes.filter _

theorem Coherent.pairwise_descendantsWithin (hc : h.Coherent) (hb : b ∈ h.classes)
    (hr : h.RootedAt n b) :
    (h.descendantsWithin unseen b.fullName).Pairwise h.OutsideLineage := by
  generalize hname : b.fullName = name
  fun_induction descendantsWithin h unseen name generalizing b n with
  | case1 unseen name ih =>
      subst hname
      -- what is met in the branch of a subclass has this subclass on its lineage
      have hbranch : ∀ s ∈ h.subclassesOf b.fullName, ∀ x,
          (x ∈ if s.fullName ∈ unseen then
              s.fullName :: h.descendantsWithin (unseen.erase s.fullName) s.fullName
            else []) →
          ∃ c ∈ h.classes, c.fullName = x ∧ s ∈ h.lineage c ∧ ∃ m, h.RootedAt m c := by
        intro s hs x hx
        obtain ⟨hsmem, hsr, _⟩ := hc.rootedAt_of_mem_subclassesOf hb hr hs
        split at hx
        case isFalse => cases hx
        case isTrue =>
          rcases List.mem_cons.1 hx with rfl | hx
          · exact ⟨s, hsmem, rfl, mem_lineage_self s, n + 1, hsr⟩
          · obtain ⟨c, hmem, hcname, hsc, m, hcr, _⟩ :=
              hc.of_mem_descendantsWithin hsmem hsr hx
            exact ⟨c, hmem, hcname, hsc, m, hcr⟩
      refine List.pairwise_flatMap.2 ⟨?_, ?_⟩
      · intro s hs
        obtain ⟨hsmem, hsr, _⟩ := hc.rootedAt_of_mem_subclassesOf hb hr hs
        split
        case isFalse => exact List.Pairwise.nil
        case isTrue hseen =>
          refine List.pairwise_cons.2 ⟨?_, ih s hseen hsmem hsr rfl⟩
          -- what is below the subclass is further from the root than all of its lineage
          intro y hy d hd hdname a ha haname
          have hds : d = s := hc.eq_of_fullName hd hsmem hdname
          subst hds
          obtain ⟨e, hemem, hename, _, m, her, hlt⟩ := hc.of_mem_descendantsWithin hsmem hsr hy
          obtain ⟨hamem, k, hle, hka⟩ := hc.rootedAt_of_mem_lineage hsmem hsr ha
          exact hc.fullName_ne hamem hemem hka her (by omega) (haname.trans hename.symm)
      · refine (hc.nodup_subclassesOf _).imp_of_mem ?_
        intro s t hs ht hne x hx y hy
        obtain ⟨_, hsr, _⟩ := hc.rootedAt_of_mem_subclassesOf hb hr hs
        obtain ⟨_, htr, _⟩ := hc.rootedAt_of_mem_subclassesOf hb hr ht
        obtain ⟨d, hd, rfl, hsd, _, hdr⟩ := hbranch s hs x hx
        obtain ⟨e, he, rfl, hte, _, her⟩ := hbranch t ht y hy
        exact hc.outsideLineage_of_ne hsr htr hne hd hdr hsd he her hte

/-- No class is settled before one on its lineage, and none twice. -/
theorem Coherent.pairwise_settlingOrder (hc : h.Coherent) :
    h.settlingOrder.Pairwise h.OutsideLineage := by
  refine List.pairwise_flatMap.2 ⟨?_, ?_⟩
  · intro root hroot
    obtain ⟨hmem, hbase⟩ := mem_roots.1 hroot
    exact hc.pairwise_descendantsWithin hmem (.root hbase)
  · refine (hc.nodup_classes.filter _).imp_of_mem ?_
    intro s t hs ht hne x hx y hy
    obtain ⟨hsmem, hsbase⟩ := mem_roots.1 hs
    obtain ⟨htmem, htbase⟩ := mem_roots.1 ht
    obtain ⟨d, hd, rfl, hsd, _, hdr, _⟩ := hc.of_mem_descendantsWithin hsmem (.root hsbase) hx
    obtain ⟨e, he, rfl, hte, _, her, _⟩ := hc.of_mem_descendantsWithin htmem (.root htbase) hy
    exact hc.outsideLineage_of_ne (.root hsbase) (.root htbase) hne hd hdr hsd he her hte

/-! ## Which classes are settled -/

theorem Coherent.exists_root_on_lineage (hc : h.Coherent) (hmem : c ∈ h.classes)
    (hr : h.RootedAt n c) : ∃ root ∈ h.roots, root ∈ h.lineage c := by
  induction hr with
  | root unresolved => exact ⟨_, mem_roots.2 ⟨hmem, unresolved⟩, mem_lineage_self _⟩
  | @climb n c base stated hstated hnonempty hfound habove ih =>
      have hbase := baseOf_of_stated hstated hfound
      obtain ⟨root, hroot, hlineage⟩ := ih (hc.mem_of_baseOf hbase)
      refine ⟨root, hroot, ?_⟩
      rw [hc.lineage_of_rootedAt hmem (.climb hstated hnonempty hfound habove) hbase]
      exact List.mem_cons_of_mem c hlineage

/-- What is settled is a class with a root at least one step above it. -/
theorem Coherent.exists_of_mem_settlingOrder (hc : h.Coherent) (hin : name ∈ h.settlingOrder) :
    ∃ c ∈ h.classes, c.fullName = name ∧ ∃ n, h.RootedAt (n + 1) c := by
  obtain ⟨root, hroot, hin⟩ := List.mem_flatMap.1 hin
  obtain ⟨hrmem, hbase⟩ := mem_roots.1 hroot
  obtain ⟨c, hmem, hname, _, m, hcr, hlt⟩ := hc.of_mem_descendantsWithin hrmem (.root hbase) hin
  cases m with
  | zero => exact absurd hlt (Nat.lt_irrefl 0)
  | succ n => exact ⟨c, hmem, hname, n, hcr⟩

/-- The classes that are settled are those with a root at least one step above them. -/
theorem Coherent.mem_settlingOrder_iff (hc : h.Coherent) (hmem : c ∈ h.classes) :
    c.fullName ∈ h.settlingOrder ↔ ∃ n, h.RootedAt (n + 1) c := by
  constructor
  · intro hin
    obtain ⟨d, hd, hname, n, hdr⟩ := hc.exists_of_mem_settlingOrder hin
    have hdc : d = c := hc.eq_of_fullName hd hmem hname
    subst hdc
    exact ⟨n, hdr⟩
  · rintro ⟨n, hr⟩
    obtain ⟨root, hroot, hlineage⟩ := hc.exists_root_on_lineage hmem hr
    obtain ⟨hrmem, hbase⟩ := mem_roots.1 hroot
    exact List.mem_flatMap.2 ⟨root, hroot, hc.mem_descendantsWithin hrmem (.root hbase)
      (covers_names _) hmem hr hlineage (Nat.succ_pos n)⟩

end Hierarchy
end Typings
