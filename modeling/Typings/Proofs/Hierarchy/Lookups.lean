import Typings.Proofs.Hierarchy.SettlingOrder

/-!
# Lookups after any additions

Classes are added in any order: a base class before its subclasses, behind them or never, and some
full names more than once. Whatever was added, the lookups are facts about one list, the added
classes without those whose full name came before.

* `Coherent.classes_foldl_add_eq`: the classes of a hierarchy after more additions;
* `Coherent.add?_eq_none_iff`: the classes that are turned down;
* `Coherent.count_subclassesOf`: a subclass is listed once under its base class;
* `lookups_ofList`: all lookups after any additions.
-/

namespace Typings
namespace Hierarchy

variable {h : Hierarchy} {b c : Class} {name : String}

/-! ## The list of classes -/

/-- Additions append the first class of each full name that is not there yet. -/
theorem Coherent.classes_foldl_add_eq (hc : h.Coherent) (added : List Class) :
    (added.foldl Hierarchy.add h).classes =
      h.classes ++ (added.filter fun c => c.fullName ∉ h.names).eraseDupsBy
        fun c d => c.fullName = d.fullName := by
  induction added generalizing h with
  | nil => simp
  | cons c added ih =>
      rw [List.foldl_cons, ih (hc.add c), List.filter_cons]
      cases hmem : h.contains c.fullName with
      | true =>
          have hold : c.fullName ∈ h.names := (hc.contains c.fullName).1 hmem
          rw [add_of_contains hmem, if_neg (by simpa using hold)]
      | false =>
          have hnew : c.fullName ∉ h.names := by
            intro hold
            rw [(hc.contains c.fullName).2 hold] at hmem
            cases hmem
          have hclasses : (h.add c).classes = h.classes ++ [c] := by
            rw [add_of_not_contains hmem]
          -- behind the new class, its name is skipped as well as the old ones
          have hskipped : (added.filter fun d => d.fullName ∉ (h.add c).names) =
              (added.filter fun d => d.fullName ∉ h.names).filter
                fun d => decide (d.fullName = c.fullName) = false := by
            rw [List.filter_filter]
            refine List.filter_congr fun d _ => ?_
            have hnames : (h.add c).names = h.names ++ [c.fullName] := by simp [names, hclasses]
            rw [hnames]
            simp [and_comm]
          rw [if_pos (by simpa using hnew), List.eraseDupsBy_cons, hclasses, hskipped,
            List.append_assoc, List.singleton_append]

/-- A class is turned down when its full name is taken, and in no other case. -/
theorem Coherent.add?_eq_none_iff (hc : h.Coherent) : h.add? c = none ↔ c.fullName ∈ h.names := by
  rw [← hc.contains, add?]
  split
  next hmem => simp [hmem]
  next hmem => simp [hmem]

theorem add_of_add?_eq_none (hrefused : h.add? c = none) : h.add c = h := by
  rw [add, hrefused, Option.getD_none]

/-! ## Subclasses and base classes -/

/-- A class that names another one of a hierarchy extends it. -/
theorem Coherent.baseOf_eq_some_iff (hc : h.Coherent) (hb : b ∈ h.classes) :
    h.baseOf c = some b ↔ c.base = some b.fullName := by
  rw [baseOf, Option.bind_eq_some_iff]
  constructor
  · rintro ⟨name, hstated, hfound⟩
    rw [hstated, (hc.mem_of_get? hfound).2]
  · intro hstated
    exact ⟨b.fullName, hstated, hc.get?_of_mem hb⟩

/-- A class is listed once under the name of its base class, and under no other class. -/
theorem Coherent.count_subclassesOf (hc : h.Coherent) (hb : b ∈ h.classes)
    (hname : b.fullName ≠ "") (c : Class) :
    (h.subclassesOf b.fullName).count c = if c ∈ h.classes ∧ h.baseOf c = some b then 1 else 0 := by
  have hnodup : (h.subclassesOf b.fullName).Nodup := hc.nodup_subclassesOf b.fullName
  have hlisted : c ∈ h.subclassesOf b.fullName ↔ c ∈ h.classes ∧ h.baseOf c = some b := by
    rw [hc.mem_subclassesOf, hc.baseOf_eq_some_iff hb, and_iff_left hname]
  rw [hnodup.count]
  simp only [hlisted]

/-! ## All lookups -/

/-- After any additions the classes are the added ones without later ones of a full name. A full name
leads to the class that has it, and any other name to none. A name that is not empty leads to the
classes that state it as their base, in order, whether a class has it or not. A class whose full name
is taken is turned down, and nothing changes. So a class is listed under another one just when that
one is its base class, and then once. -/
theorem lookups_ofList (added : List Class) :
    let h := ofList added
    h.classes = added.eraseDupsBy (fun c d => c.fullName = d.fullName) ∧
    (∀ name c, h.get? name = some c ↔ c ∈ h.classes ∧ c.fullName = name) ∧
    (∀ name, h.get? name = none ↔ name ∉ h.names) ∧
    (∀ name, h.subclassesOf name =
      if name = "" then [] else h.classes.filter fun c => c.base = some name) ∧
    (∀ c, (h.add? c = none ↔ c.fullName ∈ h.names) ∧ (h.add? c = none → h.add c = h)) ∧
    ∀ b ∈ h.classes, b.fullName ≠ "" → ∀ c,
      (h.subclassesOf b.fullName).count c =
        if c ∈ h.classes ∧ h.baseOf c = some b then 1 else 0 := by
  intro h
  have hc : h.Coherent := coherent_ofList added
  refine ⟨?_, ?_, ?_, ?_, ?_, ?_⟩
  · -- nothing is there in the beginning, so that no name is skipped
    have hclasses : h.classes = _ := coherent_empty.classes_foldl_add_eq added
    simpa [names] using hclasses
  · intro name c
    exact hc.get?_eq_some_iff
  · intro name
    rw [hc.found, List.find?_eq_none]
    simp [names]
  · intro name
    rw [hc.listed]
    by_cases hname : name = "" <;> simp [hname]
  · intro c
    exact ⟨hc.add?_eq_none_iff, add_of_add?_eq_none⟩
  · intro b hb hname c
    exact hc.count_subclassesOf hb hname c

/-- A class in front of its base class, that base class, another class with the full name of the
first one, and a class with an empty base name. -/
def additions : List Class :=
  [{ name := "C", fullName := "x.C", base := some "x.B" }, { name := "B", fullName := "x.B" },
    { name := "C", fullName := "x.C", base := some "x.Q" },
    { name := "D", fullName := "x.D", base := some "" }]

/-- The second class of a full name leaves no trace under the base that it names. -/
theorem lookups_ofList_additions :
    let h := ofList additions
    h.names = ["x.C", "x.B", "x.D"] ∧ h.subclassesOf "x.Q" = [] ∧ h.subclassesOf "" = [] ∧
      ∃ b ∈ h.classes, b.fullName = "x.B" ∧
        ∃ c ∈ h.classes, h.baseOf c = some b ∧ (h.subclassesOf b.fullName).count c = 1 := by
  intro h
  obtain ⟨hclasses, -, -, hsubclasses, -, hcount⟩ := lookups_ofList additions
  let b : Class := { name := "B", fullName := "x.B" }
  let c : Class := { name := "C", fullName := "x.C", base := some "x.B" }
  have hb : b ∈ h.classes := by decide +kernel
  have hmem : c ∈ h.classes := by decide +kernel
  have hbase : h.baseOf c = some b := by decide +kernel
  refine ⟨?_, ?_, ?_, b, hb, rfl, c, hmem, hbase, ?_⟩
  · rw [names, hclasses]
    decide +kernel
  · rw [hsubclasses, hclasses]
    decide +kernel
  · exact hsubclasses ""
  · rw [hcount b hb (by decide) c, if_pos ⟨hmem, hbase⟩]

end Hierarchy
end Typings
