import Typings.Proofs.Hierarchy.Reference

/-!
# Walks up hierarchies with cycles

A base class may lead back to the class that it started from. The lineage of a class stops there,
and still holds every class that base classes lead to. So compatibility of types is a statement
about ways up, and these can be put together.

* `Coherent.mem_lineage_iff`: a lineage holds what base classes lead to;
* `WellNamed`: hierarchies in which a type text names one class or none;
* `ReachesName`: a way up from one class to the simple name of another one;
* `Coherent.compatible_trans`: compatibility is transitive when simple names are distinct and no
  class is named like a type with a meaning of its own.
-/

namespace Typings
namespace Hierarchy

variable {h : Hierarchy} {b c base : Class} {unseen : List String}
  {expected candidate upper middle lower : String}

/-! ## Lineages and ways up -/

theorem reflTransGen_of_mem_lineageWithin (hb : b ∈ h.lineageWithin unseen c) :
    Relation.ReflTransGen h.Extends c b := by
  fun_induction lineageWithin h unseen c with
  | case1 unseen c base hbase hmem ih =>
      rcases List.mem_cons.1 hb with rfl | hb
      · exact .refl
      · exact .head hbase (ih hb)
  | case2 unseen c base hbase hmem =>
      rw [List.mem_singleton.1 hb]
  | case3 unseen c hbase =>
      rw [List.mem_singleton.1 hb]

/-- A walk is left at a class only when the base class of it has been seen. -/
theorem Coherent.mem_lineageWithin_or_seen (hc : h.Coherent) (hb : b ∈ h.lineageWithin unseen c)
    (hbase : h.Extends b base) :
    base ∈ h.lineageWithin unseen c ∨ base.fullName ∉ unseen := by
  fun_induction lineageWithin h unseen c with
  | case1 unseen c next hnext hmem ih =>
      have hfirst : next ∈ c :: h.lineageWithin (unseen.erase next.fullName) next :=
        List.mem_cons_of_mem c (mem_lineageWithin_self _ next)
      rcases List.mem_cons.1 hb with rfl | hb
      · -- the base class of the first class is where the walk goes on
        have hsame : base = next := Option.some.inj (hbase.symm.trans hnext)
        rw [hsame]
        exact .inl hfirst
      · rcases ih hb with hin | hseen
        · exact .inl (List.mem_cons_of_mem c hin)
        · by_cases hname : base.fullName = next.fullName
          · have hsame : base = next :=
              hc.eq_of_fullName (hc.mem_of_baseOf hbase) (hc.mem_of_baseOf hnext) hname
            rw [hsame]
            exact .inl hfirst
          · right
            intro hin
            exact hseen ((List.mem_erase_of_ne hname).2 hin)
  | case2 unseen c next hnext hnot =>
      have hsame : b = c := List.mem_singleton.1 hb
      rw [hsame] at hbase
      rw [Option.some.inj (hbase.symm.trans hnext)]
      exact .inr hnot
  | case3 unseen c hnone =>
      have hsame : b = c := List.mem_singleton.1 hb
      rw [hsame] at hbase
      exact absurd (hbase.symm.trans hnone) (Option.some_ne_none base)

/-- The lineage of a class holds every class that base classes lead to, on cycles as well. -/
theorem Coherent.mem_lineage_iff (hc : h.Coherent) (hmem : c ∈ h.classes) :
    b ∈ h.lineage c ↔ Relation.ReflTransGen h.Extends c b := by
  constructor
  · exact reflTransGen_of_mem_lineageWithin
  · intro hpath
    induction hpath with
    | refl => exact mem_lineage_self c
    | @tail b base _ hbase ih =>
        have hbmem : base ∈ h.classes := hc.mem_of_baseOf hbase
        rcases hc.mem_lineageWithin_or_seen ih hbase with hin | hseen
        · exact hin
        · -- the only name that is seen in the beginning is that of the class itself
          have hname : base.fullName = c.fullName := by
            by_contra hne
            refine hseen ((List.mem_erase_of_ne hne).2 ?_)
            exact List.mem_map_of_mem hbmem
          rw [hc.eq_of_fullName hbmem hmem hname]
          exact mem_lineage_self c

theorem Coherent.mem_classes_of_mem_lineage (hc : h.Coherent) (hmem : c ∈ h.classes)
    (hb : b ∈ h.lineage c) : b ∈ h.classes := by
  rcases Relation.ReflTransGen.cases_tail ((hc.mem_lineage_iff hmem).1 hb) with rfl | hlast
  · exact hmem
  · rcases hlast with ⟨_, _, hbase⟩
    exact hc.mem_of_baseOf hbase

/-! ## Compatible types -/

/-- The classes have distinct simple names, and no class is named like a type with a meaning of its
own or not at all. -/
structure WellNamed (h : Hierarchy) : Prop where
  distinct : (h.classes.map (·.name)).Nodup
  plain : ∀ c ∈ h.classes, c.fullName ∉ [anyType, voidType, selfType, ""]

/-- Both types are full names of classes, and base classes lead from the class of the candidate to a
class with the simple name of the expected one. -/
def ReachesName (h : Hierarchy) (expected candidate : String) : Prop :=
  ∃ above ∈ h.classes, ∃ below ∈ h.classes,
    above.fullName = expected ∧ below.fullName = candidate ∧
      ∃ link, Relation.ReflTransGen h.Extends below link ∧ link.name = above.name

theorem Coherent.descendsByName_iff_reachesName (hc : h.Coherent) :
    h.descendsByName expected candidate = true ↔ h.ReachesName expected candidate := by
  rw [descendsByName]
  constructor
  · intro hdescends
    split at hdescends
    next above below habove hbelow =>
      obtain ⟨habovemem, habovename⟩ := hc.mem_of_get? habove
      obtain ⟨hbelowmem, hbelowname⟩ := hc.mem_of_get? hbelow
      obtain ⟨link, hlink, hname⟩ := List.any_eq_true.1 hdescends
      have hpath : Relation.ReflTransGen h.Extends below link :=
        (hc.mem_lineage_iff hbelowmem).1 hlink
      exact ⟨above, habovemem, below, hbelowmem, habovename, hbelowname, link, hpath,
        of_decide_eq_true hname⟩
    next => cases hdescends
  · rintro ⟨above, habove, below, hbelow, rfl, rfl, link, hpath, hname⟩
    simp only [hc.get?_of_mem habove, hc.get?_of_mem hbelow]
    exact List.any_eq_true.2 ⟨link, (hc.mem_lineage_iff hbelow).2 hpath, decide_eq_true hname⟩

/-- Where simple names are distinct, base classes lead from the class of the candidate to the
expected class itself. -/
theorem Coherent.reachesName_iff (hc : h.Coherent)
    (hdistinct : (h.classes.map (·.name)).Nodup) :
    h.ReachesName expected candidate ↔
      ∃ above ∈ h.classes, ∃ below ∈ h.classes,
        above.fullName = expected ∧ below.fullName = candidate ∧
          Relation.ReflTransGen h.Extends below above := by
  constructor
  · rintro ⟨above, habove, below, hbelow, haname, hbname, link, hpath, hname⟩
    have hlink : link ∈ h.classes :=
      hc.mem_classes_of_mem_lineage hbelow ((hc.mem_lineage_iff hbelow).2 hpath)
    have hsame : link = above := List.inj_on_of_nodup_map hdistinct hlink habove hname
    rw [hsame] at hpath
    exact ⟨above, habove, below, hbelow, haname, hbname, hpath⟩
  · rintro ⟨above, habove, below, hbelow, haname, hbname, hpath⟩
    exact ⟨above, habove, below, hbelow, haname, hbname, above, hpath, rfl⟩

/-- A way up by name goes on with another one. -/
theorem Coherent.reachesName_trans (hc : h.Coherent) (hdistinct : (h.classes.map (·.name)).Nodup)
    (hupper : h.ReachesName upper middle) (hlower : h.ReachesName middle lower) :
    h.ReachesName upper lower := by
  rw [hc.reachesName_iff hdistinct] at hupper hlower ⊢
  obtain ⟨top, htop, centre, hcentre, htopname, hcentrename, hfirst⟩ := hupper
  obtain ⟨centre', hcentre', bottom, hbottom, hcentrename', hbottomname, hsecond⟩ := hlower
  obtain rfl : centre' = centre :=
    hc.eq_of_fullName hcentre' hcentre (hcentrename'.trans hcentrename.symm)
  exact ⟨top, htop, bottom, hbottom, htopname, hbottomname, hsecond.trans hfirst⟩

/-- No way up begins or ends at a type with a meaning of its own, when no class is named like one. -/
theorem ReachesName.plain (hplain : ∀ c ∈ h.classes, c.fullName ∉ [anyType, voidType, selfType])
    (hreaches : h.ReachesName expected candidate) :
    expected ∉ [anyType, voidType, selfType] ∧ candidate ∉ [anyType, voidType, selfType] := by
  obtain ⟨above, habove, below, hbelow, rfl, rfl, _⟩ := hreaches
  exact ⟨hplain above habove, hplain below hbelow⟩

/-- Compatibility in terms of ways up. -/
theorem Coherent.compatible_iff (hc : h.Coherent) :
    h.compatible expected candidate = true ↔
      expected = candidate ∨ expected = voidType ∨ candidate = anyType ∨ candidate = selfType ∨
        h.ReachesName expected candidate := by
  simp [compatible, or_assoc, hc.descendsByName_iff_reachesName]

/-- Compatibility is transitive. -/
theorem Coherent.compatible_trans (hc : h.Coherent) (hdistinct : (h.classes.map (·.name)).Nodup)
    (hplain : ∀ c ∈ h.classes, c.fullName ∉ [anyType, voidType, selfType])
    (hupper : h.compatible upper middle = true) (hlower : h.compatible middle lower = true) :
    h.compatible upper lower = true := by
  -- below `any` and `this` there are these two and nothing else
  have htop : middle = anyType ∨ middle = selfType → lower = anyType ∨ lower = selfType := by
    intro hmiddle
    rcases hc.compatible_iff.1 hlower with rfl | hvoid | hany | hself | hreaches
    · exact hmiddle
    · rcases hmiddle with hmiddle | hmiddle <;> exact absurd (hmiddle.symm.trans hvoid) (by decide)
    · exact .inl hany
    · exact .inr hself
    · have hnot := (hreaches.plain hplain).1
      rcases hmiddle with hmiddle | hmiddle <;> exact absurd (by simp [hmiddle]) hnot
  rw [hc.compatible_iff]
  rcases hc.compatible_iff.1 hupper with rfl | hvoid | hany | hself | hreaches
  · exact hc.compatible_iff.1 hlower
  · exact .inr (.inl hvoid)
  · exact .inr (.inr ((htop (.inl hany)).imp_right .inl))
  · exact .inr (.inr ((htop (.inr hself)).imp_right .inl))
  · rcases hc.compatible_iff.1 hlower with rfl | hvoid | hany | hself | hmore
    · exact .inr (.inr (.inr (.inr hreaches)))
    · exact absurd (by simp [hvoid]) (hreaches.plain hplain).2
    · exact .inr (.inr (.inl hany))
    · exact .inr (.inr (.inr (.inl hself)))
    · exact .inr (.inr (.inr (.inr (hc.reachesName_trans hdistinct hreaches hmore))))

end Hierarchy
end Typings
