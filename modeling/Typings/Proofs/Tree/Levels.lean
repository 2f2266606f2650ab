import Typings.Proofs.Tree.Containers
import Typings.Proofs.Tree.Paths

/-!
# Declarations by level

The declarations of a tree are hung up by the number of dots in their names. The name that a name
lies in has one dot less, so that no declaration comes up before the one that it belongs below.

* `byLevel_perm`, `sorted_byLevel`: the levels hold every declaration once, in rising order;
* `outsideIn_byLevel`: parents before children;
* `hung_ofDocuments`: the forest of a tree holds the documented symbols and the containers;
* `of_mem_walk`, `mem_classes_of_class?`: its declarations and its classes.
-/

namespace Typings
namespace Outline

variable {ds : List Declaration} {d : Declaration}

/-! ## Levels -/

/-- The levels below a bound hold the declarations with fewer dots. -/
theorem levels_perm (ds : List Declaration) (levels : Nat) :
    ((List.range levels).flatMap fun level =>
      ds.filter fun d => QualifiedName.depth d.fullName = level).Perm
      (ds.filter fun d => QualifiedName.depth d.fullName < levels) := by
  induction levels with
  | zero => simp
  | succ n ih =>
      rw [List.range_succ, List.flatMap_append, List.flatMap_singleton]
      have hsplit := List.filter_append_perm (fun d => decide (QualifiedName.depth d.fullName < n))
        (ds.filter fun d => QualifiedName.depth d.fullName < n + 1)
      have hlow : (ds.filter fun d => QualifiedName.depth d.fullName < n + 1).filter
          (fun d => decide (QualifiedName.depth d.fullName < n)) =
          ds.filter fun d => QualifiedName.depth d.fullName < n := by
        rw [List.filter_filter]
        refine List.filter_congr ?_
        intro d _
        rw [← Bool.decide_and, decide_eq_decide]
        omega
      have hhigh : (ds.filter fun d => QualifiedName.depth d.fullName < n + 1).filter
          (fun d => !decide (QualifiedName.depth d.fullName < n)) =
          ds.filter fun d => QualifiedName.depth d.fullName = n := by
        rw [List.filter_filter]
        refine List.filter_congr ?_
        intro d _
        rw [← decide_not, ← Bool.decide_and, decide_eq_decide]
        omega
      rw [hlow, hhigh] at hsplit
      exact (ih.append_right _).trans hsplit

/-- No declaration is left out of the levels. -/
theorem byLevel_perm (ds : List Declaration) : (byLevel ds).Perm ds := by
  refine (levels_perm ds _).trans ?_
  rw [List.filter_eq_self.2]
  intro d hmem
  have hdepth : QualifiedName.depth d.fullName ∈ ds.map fun d => QualifiedName.depth d.fullName :=
    List.mem_map_of_mem hmem
  exact decide_eq_true (Nat.lt_succ_of_le (List.le_max?_getD_of_mem hdepth))

theorem depth_of_mem_level {level : Nat}
    (hmem : d ∈ ds.filter fun d => QualifiedName.depth d.fullName = level) :
    QualifiedName.depth d.fullName = level :=
  of_decide_eq_true (List.mem_filter.1 hmem).2

theorem sorted_byLevel (ds : List Declaration) :
    (byLevel ds).Pairwise fun d e =>
      QualifiedName.depth d.fullName ≤ QualifiedName.depth e.fullName := by
  rw [byLevel, List.pairwise_flatMap]
  constructor
  · intro level _
    refine List.pairwise_of_forall_mem_list ?_
    intro d hd e he
    rw [depth_of_mem_level hd, depth_of_mem_level he]
  · refine List.pairwise_lt_range.imp ?_
    intro low high hlt d hd e he
    rw [depth_of_mem_level hd, depth_of_mem_level he]
    exact hlt.le

/-- Level by level, every declaration stands behind the one that it belongs below. -/
theorem outsideIn_byLevel (hclosed : ParentClosed (ds.map (·.fullName))) :
    Forest.OutsideIn (byLevel ds) := by
  intro before d behind heq parent hparent
  have hnames := (byLevel_perm ds).map (·.fullName)
  have hin : parent ∈ (byLevel ds).map (·.fullName) := by
    refine hnames.mem_iff.2 (hclosed d.fullName (hnames.mem_iff.1 ?_) parent hparent)
    rw [heq]
    simp
  have hdepth := QualifiedName.depth_of_parent? hparent
  have hsorted := sorted_byLevel ds
  rw [heq, List.pairwise_append, List.pairwise_cons] at hsorted
  rw [heq, List.map_append, List.map_cons, List.mem_append, List.mem_cons] at hin
  rcases hin with hbefore | rfl | hbehind
  · exact hbefore
  · -- a name has more dots than the one that it lies in
    omega
  · -- and behind it there are no fewer dots than in it
    obtain ⟨e, he, hname⟩ := List.mem_map.1 hbehind
    have hle := hsorted.2.1.1 e he
    rw [hname] at hle
    omega

end Outline

namespace Tree

variable {config : Config} {documents : List Document} {d : Declaration} {c : Class}

/-! ## The forest of documents -/

/-- The forest of a tree holds the documented symbols and the containers that they need, each once
and at the end of a nested path. -/
theorem hung_ofDocuments (config : Config) (documents : List Document) :
    let ds := Outline.documented config documents
    Forest.Hung (ds ++ Outline.created (ds.map (·.fullName)) ds)
      (ofDocuments config documents).forest := by
  intro ds
  have hall : (Outline.byLevel (Outline.declarations config documents)).Perm
      (ds ++ Outline.created (ds.map (·.fullName)) ds) :=
    (Outline.byLevel_perm _).trans (Outline.withContainers_perm _ ds)
  have hnames := (Outline.withContainers_perm (ds.map (·.fullName)) ds).map (·.fullName)
  rw [List.map_append] at hnames
  have hnodup : ((Outline.declarations config documents).map (·.fullName)).Nodup :=
    hnames.nodup_iff.2 (Outline.nodup_created ds (Outline.names_documented config documents))
  have hclosed : Outline.ParentClosed
      ((Outline.declarations config documents).map (·.fullName)) := by
    intro name hmem parent hparent
    exact hnames.mem_iff.2
      (Outline.parentClosed_names ds name (hnames.mem_iff.1 hmem) parent hparent)
  have hung := Forest.hung_foldl_hang
    (((Outline.byLevel_perm _).map (·.fullName)).nodup_iff.2 hnodup)
    (Outline.outsideIn_byLevel hclosed)
  exact ⟨hung.walk.trans hall, hung.nested⟩

/-- A declaration of a tree is a container or belongs to a symbol that counts. -/
theorem of_mem_walk (hmem : d ∈ (ofDocuments config documents).forest.walk) :
    d.body = .container ∨ d ∈ Outline.documented config documents := by
  rw [(hung_ofDocuments config documents).walk.mem_iff, List.mem_append] at hmem
  rcases hmem with hdocumented | hcreated
  · exact .inr hdocumented
  · exact .inl (Outline.body_of_mem_created hcreated)

theorem mem_classes_of_class? (hmem : d ∈ (ofDocuments config documents).forest.walk)
    (h : d.class? = some c) : c ∈ (ofDocuments config documents).hierarchy.classes := by
  rcases of_mem_walk hmem with hcontainer | hdocumented
  · simp [Declaration.class?, hcontainer] at h
  · rw [classes_hierarchy]
    exact List.mem_filterMap.2 ⟨d, hdocumented, h⟩

end Tree
end Typings
