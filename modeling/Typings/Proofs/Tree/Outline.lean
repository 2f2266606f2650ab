import Typings.Proofs.Hierarchy.Index
import Typings.Proofs.Tree.Forest
import Typings.Tree.Outline

/-!
# Symbols that count

A tree declares one symbol of each name, the first one that the configuration does not ignore. The
classes among these make up its hierarchy.

* `names_kept`: no name is kept twice;
* `kept_eq_counted`: the symbols that count, told without a pass over them;
* `classes_hierarchy`: the classes of the hierarchy.
-/

namespace Typings
namespace Outline

variable {config : Config} {documents : List Document}

/-! ## Names -/

theorem names_keptFrom (ignore seen : List String) (entries : List LocatedSymbol) :
    (seen ++ (keptFrom ignore seen entries).map (·.symbol.heading.name)).Nodup ↔ seen.Nodup := by
  induction entries generalizing seen with
  | nil => simp [keptFrom]
  | cons entry rest ih =>
      simp only [keptFrom]
      split_ifs with hskip
      · exact ih seen
      · have hnew : entry.symbol.heading.name ∉ seen := by
          intro hmem
          simp [hmem] at hskip
        rw [List.map_cons, List.nodup_middle, ← List.cons_append, ih, List.nodup_cons]
        exact and_iff_right hnew

/-- No name is kept twice. -/
theorem names_kept (config : Config) (documents : List Document) :
    ((kept config documents).map (·.symbol.heading.name)).Nodup := by
  have hnames := names_keptFrom config.ignore [] (located documents)
  rw [List.nil_append] at hnames
  exact hnames.2 List.nodup_nil

theorem names_documented (config : Config) (documents : List Document) :
    ((documented config documents).map (·.fullName)).Nodup := by
  have hnames := names_kept config documents
  rwa [documented, List.map_map]

/-! ## First ones of their names -/

/-- Whether a symbol at its place is not ignored and the first one of its name. -/
def counts (ignore : List String) (entries : List LocatedSymbol) (placed : LocatedSymbol × Nat) :
    Bool :=
  !isIgnored ignore placed.1.symbol.heading.name &&
    (entries.take placed.2).all fun other =>
      other.symbol.heading.name ≠ placed.1.symbol.heading.name

/-- The symbols that count, each told by itself and those in front of it. -/
def counted (config : Config) (documents : List Document) : List LocatedSymbol :=
  let entries := located documents
  (entries.zipIdx.filter (counts config.ignore entries)).map (·.1)

/-- The names that a pass has seen are those of the symbols in front, ignored ones apart. -/
theorem keptFrom_eq (ignore seen : List String) (before rest : List LocatedSymbol)
    (hseen : ∀ name, isIgnored ignore name = false →
      (name ∈ seen ↔ name ∈ before.map (·.symbol.heading.name))) :
    keptFrom ignore seen rest =
      ((rest.zipIdx before.length).filter (counts ignore (before ++ rest))).map (·.1) := by
  induction rest generalizing seen before with
  | nil => rfl
  | cons entry rest ih =>
      have htest : counts ignore (before ++ entry :: rest) (entry, before.length) =
          !(isIgnored ignore entry.symbol.heading.name ||
            seen.contains entry.symbol.heading.name) := by
        cases hignored : isIgnored ignore entry.symbol.heading.name with
        | true => simp [counts, hignored]
        | false =>
            rw [counts, List.take_left' rfl, hignored, Bool.eq_iff_iff]
            simp [hseen _ hignored]
      have hrow : before ++ entry :: rest = (before ++ [entry]) ++ rest := by simp
      have hlength : before.length + 1 = (before ++ [entry]).length := by simp
      rw [keptFrom, List.zipIdx_cons, List.filter_cons, htest, hrow, hlength]
      cases hskip : (isIgnored ignore entry.symbol.heading.name ||
          seen.contains entry.symbol.heading.name) with
      | true =>
          rw [if_pos rfl, if_neg (by decide)]
          refine ih seen (before ++ [entry]) ?_
          intro name hname
          rw [List.map_append, List.mem_append, hseen name hname]
          refine (or_iff_left_of_imp ?_).symm
          intro hlast
          -- a skipped name that is not ignored has been seen
          rw [List.map_singleton, List.mem_singleton] at hlast
          subst hlast
          rw [hname, Bool.false_or, List.contains_iff_mem] at hskip
          exact (hseen _ hname).1 hskip
      | false =>
          rw [if_neg (by decide), if_pos (by decide), List.map_cons]
          refine congrArg (entry :: ·) (ih _ (before ++ [entry]) ?_)
          intro name hname
          rw [List.mem_cons, hseen name hname, List.map_append, List.mem_append, or_comm,
            List.map_singleton, List.mem_singleton]

/-- The symbols that count are the first ones of their names that are not ignored. -/
theorem kept_eq_counted (config : Config) (documents : List Document) :
    kept config documents = counted config documents :=
  keptFrom_eq config.ignore [] [] (located documents) fun _ _ => Iff.rfl

theorem isIgnored_of_mem_counted {entry : LocatedSymbol}
    (hmem : entry ∈ counted config documents) :
    isIgnored config.ignore entry.symbol.heading.name = false := by
  rcases List.mem_map.1 hmem with ⟨placed, hplaced, rfl⟩
  have htest := (List.mem_filter.1 hplaced).2
  rw [counts, Bool.and_eq_true, Bool.not_eq_true'] at htest
  exact htest.1

end Outline

namespace Tree

variable {d : Declaration} {c : Class}

/-! ## Classes -/

theorem fullName_of_class? (h : d.class? = some c) : c.fullName = d.fullName := by
  rw [Declaration.class?] at h
  split at h
  · cases h
    rfl
  · cases h

theorem names_filterMap_class?_sublist (ds : List Declaration) :
    ((ds.filterMap Declaration.class?).map (·.fullName)).Sublist (ds.map (·.fullName)) := by
  induction ds with
  | nil => exact List.Sublist.refl _
  | cons d rest ih =>
      cases hclass : d.class? with
      | none =>
          rw [List.filterMap_cons_none hclass, List.map_cons]
          exact ih.cons _
      | some c =>
          rw [List.filterMap_cons_some hclass, List.map_cons, List.map_cons,
            fullName_of_class? hclass]
          exact ih.cons_cons _

/-- No class of the documents is left out of the hierarchy. -/
theorem classes_hierarchy (config : Config) (documents : List Document) :
    (ofDocuments config documents).hierarchy.classes =
      (Outline.documented config documents).filterMap Declaration.class? := by
  refine Hierarchy.classes_ofList ?_
  exact (names_filterMap_class?_sublist _).nodup (Outline.names_documented config documents)

end Tree
end Typings
