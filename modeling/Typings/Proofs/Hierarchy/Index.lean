import Mathlib.Data.List.Nodup
import Typings.Hierarchy.Basic

/-!
# The tables of a hierarchy

The list of classes is indexed twice. This module shows what the two tables amount to:

* `Coherent`: both tables agree with the list of classes;
* `coherent_ofList`: they do in every hierarchy that is built by adding classes;
* `classes_ofList`: the classes of such a hierarchy when no full name comes twice;
* `Coherent.mem_of_get?`, `Coherent.get?_of_mem`, `Coherent.mem_subclassesOf`: the lookups as facts
  about the list.
-/

namespace Typings
namespace Hierarchy

variable {h : Hierarchy} {c : Class} {name : String}

/-! ## Agreement of the tables -/

/-- Both tables agree with the list of classes. -/
structure Coherent (h : Hierarchy) : Prop where
  /-- No two classes share their full name. -/
  nodup : h.names.Nodup
  /-- A full name leads to the class that has it. -/
  found : ∀ name, h.get? name = h.classes.find? fun c => c.fullName = name
  /-- Positions exist for the full names of classes only. -/
  contains : ∀ name, h.contains name = true ↔ name ∈ h.names
  /-- The positions of subclasses lie in the list. -/
  within : ∀ name, ∀ position ∈ h.extensionsOf name, position < h.classes.length
  /-- A base name leads to the classes that state it; the empty name leads to none. -/
  listed : ∀ name, h.subclassesOf name =
    h.classes.filter fun c => c.base = some name ∧ name ≠ ""

theorem coherent_empty : Coherent {} where
  nodup := by simp [names]
  found := by simp [get?]
  contains := by simp [Hierarchy.contains, names]
  within := by simp [extensionsOf]
  listed := by simp [subclassesOf]

/-! ## Adding a class -/

theorem add_of_contains (hmem : h.contains c.fullName = true) : h.add c = h := by
  simp [add, add?, hmem]

theorem add_of_not_contains (hmem : h.contains c.fullName = false) :
    h.add c =
      { classes := h.classes ++ [c]
        positions := h.positions.put c.fullName h.classes.length
        extensions := listUnder c.base h.classes.length h.extensions } := by
  simp [add, add?, hmem]

theorem lookup_listUnder (base : Option String) (position : Nat)
    (extensions : Table (List Nat)) (name : String) :
    (List.lookup name (listUnder base position extensions)).getD [] =
      (List.lookup name extensions).getD [] ++
        if base = some name ∧ name ≠ "" then [position] else [] := by
  cases base with
  | none => simp [listUnder]
  | some stated =>
      by_cases hempty : stated = ""
      · subst hempty
        by_cases hname : name = "" <;> simp [listUnder, hname, eq_comm]
      · by_cases hname : name = stated
        · subst hname
          simp [listUnder, hempty, Table.lookup_put]
        · have hne : ¬ stated = name := fun heq => hname heq.symm
          simp [listUnder, hempty, Table.lookup_put, hname, hne]

theorem filterMap_getElem?_append (positions : List Nat) (classes more : List Class)
    (hwithin : ∀ position ∈ positions, position < classes.length) :
    (positions.filterMap fun position => (classes ++ more)[position]?) =
      positions.filterMap fun position => classes[position]? := by
  refine List.filterMap_congr ?_
  intro position hmem
  exact List.getElem?_append_left (hwithin position hmem)

/-- A position that a full name has lies in the list. -/
theorem Coherent.position_lt (hc : h.Coherent) {position : Nat}
    (hposition : List.lookup name h.positions = some position) :
    position < h.classes.length := by
  have hmem := (hc.contains name).1 (by simp [Hierarchy.contains, hposition])
  rcases List.mem_map.1 hmem with ⟨d, hd, hname⟩
  have hget : h.classes[position]? = h.classes.find? fun d => d.fullName = name := by
    have hfound := hc.found name
    simpa [get?, hposition] using hfound
  cases hfind : h.classes.find? fun d => d.fullName = name with
  | none => exact absurd hname (by simpa using List.find?_eq_none.1 hfind d hd)
  | some e =>
      rw [hfind] at hget
      exact (List.getElem?_eq_some_iff.1 hget).1

/-- A class with a new full name is found by it, and all other names lead where they led. -/
theorem Coherent.get?_add_new (hc : h.Coherent) (hnew : h.contains c.fullName = false)
    (name : String) :
    (h.add c).get? name = if name = c.fullName then some c else h.get? name := by
  rw [add_of_not_contains hnew]
  by_cases hname : name = c.fullName
  · simp [get?, Table.lookup_put, hname]
  · cases hposition : List.lookup name h.positions with
    | none => simp [get?, Table.lookup_put, hname, hposition]
    | some position =>
        simp [get?, Table.lookup_put, hname, hposition,
          List.getElem?_append_left (hc.position_lt hposition)]

/-- A class whose full name is new keeps the tables in agreement with the list. -/
theorem Coherent.add_new (hc : h.Coherent) (hnew : h.contains c.fullName = false) :
    (h.add c).Coherent := by
  have hnot : c.fullName ∉ h.names := by
    intro hmem
    rw [(hc.contains c.fullName).2 hmem] at hnew
    cases hnew
  have hadd := add_of_not_contains hnew
  refine ⟨?_, ?_, ?_, ?_, ?_⟩
  · -- the names
    rw [hadd]
    simp only [names, List.map_append, List.map_cons, List.map_nil]
    exact List.Nodup.append hc.nodup (by simp) (by simpa [names] using hnot)
  · -- the lookup by full name
    intro name
    rw [hc.get?_add_new hnew, hc.found, hadd, List.find?_append]
    by_cases hname : name = c.fullName
    · have hnone : h.classes.find? (fun d => d.fullName = name) = none := by
        refine List.find?_eq_none.2 fun d hd => ?_
        have hne : d.fullName ≠ name := fun heq =>
          hnot (heq.trans hname ▸ List.mem_map_of_mem hd)
        simpa using hne
      rw [hnone, if_pos hname]
      simp [hname]
    · rw [if_neg hname]
      simp [Ne.symm hname]
  · -- the names with positions
    intro name
    rw [hadd]
    have hold := hc.contains name
    simp only [Hierarchy.contains, Table.lookup_put, names, List.map_append, List.map_cons,
      List.map_nil, List.mem_append, List.mem_singleton] at hold ⊢
    by_cases hname : name = c.fullName
    · simp [hname]
    · simpa [hname] using hold
  · -- the positions of subclasses
    intro name position hmem
    rw [hadd] at hmem ⊢
    simp only [extensionsOf, lookup_listUnder, List.mem_append] at hmem
    simp only [List.length_append, List.length_singleton]
    rcases hmem with hmem | hmem
    · exact Nat.lt_succ_of_lt (hc.within name position hmem)
    · split at hmem
      · rw [List.mem_singleton.1 hmem]
        exact Nat.lt_succ_self _
      · cases hmem
  · -- the subclasses
    intro name
    rw [hadd]
    have hold := hc.listed name
    simp only [subclassesOf, extensionsOf] at hold
    simp only [subclassesOf, extensionsOf, lookup_listUnder, List.filterMap_append,
      List.filter_append]
    have hwithin : ∀ position ∈ (List.lookup name h.extensions).getD [],
        position < h.classes.length := hc.within name
    rw [filterMap_getElem?_append _ _ _ hwithin, hold]
    by_cases hbase : c.base = some name ∧ name ≠ "" <;> simp [hbase]

theorem Coherent.add (hc : h.Coherent) (c : Class) : (h.add c).Coherent := by
  cases hmem : h.contains c.fullName with
  | true => rwa [add_of_contains hmem]
  | false => exact hc.add_new hmem

theorem Coherent.foldl_add (hc : h.Coherent) (classes : List Class) :
    (classes.foldl Hierarchy.add h).Coherent := by
  induction classes generalizing h with
  | nil => exact hc
  | cons c classes ih => exact ih (hc.add c)

/-- The tables of a hierarchy agree with its list of classes. -/
theorem coherent_ofList (classes : List Class) : (ofList classes).Coherent :=
  coherent_empty.foldl_add classes

theorem Coherent.classes_foldl_add (hc : h.Coherent) {classes : List Class}
    (hnodup : (h.names ++ classes.map (·.fullName)).Nodup) :
    (classes.foldl Hierarchy.add h).classes = h.classes ++ classes := by
  induction classes generalizing h with
  | nil => simp
  | cons c classes ih =>
      have hnot : c.fullName ∉ h.names := by
        intro hmem
        exact (List.nodup_append.1 hnodup).2.2 _ hmem _ List.mem_cons_self rfl
      have hnew : h.contains c.fullName = false := by
        rw [Bool.eq_false_iff]
        exact fun hmem => hnot ((hc.contains _).1 hmem)
      have hclasses : (h.add c).classes = h.classes ++ [c] := by rw [add_of_not_contains hnew]
      have hrest : ((h.add c).names ++ classes.map (·.fullName)).Nodup := by
        simpa [names, hclasses] using hnodup
      rw [List.foldl_cons, ih (hc.add c) hrest, hclasses, List.append_assoc, List.singleton_append]

/-- No class is left out when no full name comes twice. -/
theorem classes_ofList {classes : List Class} (hnodup : (classes.map (·.fullName)).Nodup) :
    (ofList classes).classes = classes :=
  coherent_empty.classes_foldl_add hnodup

/-! ## Lookups in the list -/

theorem Coherent.mem_of_get? (hc : h.Coherent) (hget : h.get? name = some c) :
    c ∈ h.classes ∧ c.fullName = name := by
  rw [hc.found] at hget
  exact ⟨List.mem_of_find?_eq_some hget, by simpa using List.find?_some hget⟩

theorem Coherent.get?_of_mem (hc : h.Coherent) (hmem : c ∈ h.classes) :
    h.get? c.fullName = some c := by
  rw [hc.found]
  have hnodup : (h.classes.map (·.fullName)).Nodup := hc.nodup
  have hinj := List.inj_on_of_nodup_map hnodup
  cases hfind : h.classes.find? fun d => d.fullName = c.fullName with
  | none =>
      have hne := List.find?_eq_none.1 hfind c hmem
      simp at hne
  | some d =>
      have hd : d.fullName = c.fullName := by simpa using List.find?_some hfind
      rw [hinj (List.mem_of_find?_eq_some hfind) hmem hd]

theorem Coherent.get?_eq_some_iff (hc : h.Coherent) :
    h.get? name = some c ↔ c ∈ h.classes ∧ c.fullName = name := by
  constructor
  · exact hc.mem_of_get?
  · rintro ⟨hmem, rfl⟩
    exact hc.get?_of_mem hmem

theorem Coherent.mem_subclassesOf (hc : h.Coherent) :
    c ∈ h.subclassesOf name ↔ c ∈ h.classes ∧ c.base = some name ∧ name ≠ "" := by
  rw [hc.listed]
  simp

theorem mem_roots : c ∈ h.roots ↔ c ∈ h.classes ∧ h.baseOf c = none := by
  simp [roots]

end Hierarchy
end Typings
