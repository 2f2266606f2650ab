import Mathlib.Data.List.Chain
import Mathlib.Data.List.Induction
import Mathlib.Data.List.Nodup
import Mathlib.Tactic.Tauto
import Typings.Proofs.Tree.Forest
import Typings.Proofs.Tree.QualifiedName

/-!
# Paths to declarations

Every declaration of a forest is at the end of one path from a root. Hanging up a declaration below
the only one with the name that it lies in adds it to the walk once, and adds one path.

* `paths`: the paths to the declarations, in the order of the walk;
* `walk_hang_perm`, `nested_of_mem_paths_hang`: walk and paths with one declaration more;
* `Nested`: a path on which every name is the one before it, a dot and a simple name;
* `hung_foldl_hang`: a forest that is hung up from the outside in holds every declaration once, each
  at the end of such a path.
-/

namespace Typings
namespace Forest

variable {d e : Declaration} {forest : Forest} {parent : String} {path : List Declaration}

/-! ## Paths -/

/-- The paths from the roots to the declarations, in the order of the walk. -/
def paths : Forest → List (List Declaration)
  | .empty => []
  | .grow d below beside => [d] :: (below.paths.map (d :: ·) ++ beside.paths)

/-- The full names of the declarations, in the order of the walk. -/
def names (forest : Forest) : List String :=
  forest.walk.map (·.fullName)

@[simp] theorem names_empty : (Forest.empty).names = [] := by
  simp [names]

@[simp] theorem names_grow (d : Declaration) (below beside : Forest) :
    (Forest.grow d below beside).names = d.fullName :: (below.names ++ beside.names) := by
  simp [names]

theorem ne_nil_of_mem_paths (hpath : path ∈ forest.paths) : path ≠ [] := by
  induction forest with
  | empty => cases hpath
  | grow d below beside ihbelow ihbeside =>
      rw [paths, List.mem_cons, List.mem_append, List.mem_map] at hpath
      rcases hpath with rfl | ⟨inner, _, rfl⟩ | hbeside
      · exact List.cons_ne_nil d []
      · exact List.cons_ne_nil d inner
      · exact ihbeside hbeside

/-- Every declaration of the walk is at the end of one path. -/
theorem getLast?_paths (forest : Forest) :
    forest.paths.map List.getLast? = forest.walk.map some := by
  induction forest with
  | empty => rw [paths, walk_empty, List.map_nil, List.map_nil]
  | grow d below beside ihbelow ihbeside =>
      have hinner : (below.paths.map (d :: ·)).map List.getLast? = below.walk.map some := by
        rw [← ihbelow, List.map_map]
        refine List.map_congr_left ?_
        intro path hpath
        exact List.getLast?_cons_of_ne_nil (ne_nil_of_mem_paths hpath)
      rw [paths, walk_grow, List.map_cons, List.map_append, hinner, ihbeside, List.map_cons,
        List.map_append]
      rfl

theorem paths_map (f : Declaration → Declaration) (forest : Forest) :
    (forest.map f).paths = forest.paths.map (List.map f) := by
  induction forest with
  | empty => rfl
  | grow d below beside ihbelow ihbeside =>
      simp [map, paths, ihbelow, ihbeside, Function.comp_def]

/-! ## Growth of the walk -/

theorem walk_append_perm (forest : Forest) (d : Declaration) :
    (forest.append d).walk.Perm (d :: forest.walk) := by
  induction forest with
  | empty => simp [append]
  | grow first below beside _ ihbeside =>
      rw [append, walk_grow, walk_grow]
      have hrow := (ihbeside.append_left below.walk).cons first
      exact hrow.trans (@List.perm_middle _ d (first :: below.walk) beside.walk)

theorem appendUnder_of_not_mem (hnot : parent ∉ forest.names) :
    forest.appendUnder parent d = forest := by
  induction forest with
  | empty => rfl
  | grow first below beside ihbelow ihbeside =>
      rw [names_grow, List.mem_cons, List.mem_append, not_or, not_or] at hnot
      obtain ⟨hfirst, hbelow, hbeside⟩ := hnot
      rw [appendUnder, if_neg (Ne.symm hfirst), ihbelow hbelow, ihbeside hbeside]

/-- When one declaration has the name, one declaration is added. -/
theorem walk_appendUnder_perm (hnodup : forest.names.Nodup) (hmem : parent ∈ forest.names) :
    (forest.appendUnder parent d).walk.Perm (d :: forest.walk) := by
  induction forest with
  | empty => simp at hmem
  | grow first below beside ihbelow ihbeside =>
      rw [names_grow, List.nodup_cons, List.nodup_append'] at hnodup
      obtain ⟨_, hbelow, hbeside, hdisjoint⟩ := hnodup
      rw [walk_grow]
      by_cases hfirst : first.fullName = parent
      · rw [appendUnder, if_pos hfirst, walk_grow]
        have hrow := ((walk_append_perm below d).append_right beside.walk).cons first
        exact hrow.trans (List.Perm.swap d first _)
      · rw [appendUnder, if_neg hfirst, walk_grow]
        rw [names_grow, List.mem_cons, List.mem_append] at hmem
        rcases hmem.resolve_left (Ne.symm hfirst) with hin | hin
        · -- below the first declaration, and so not beside it
          rw [appendUnder_of_not_mem (hdisjoint hin)]
          have hrow := ((ihbelow hbelow hin).append_right beside.walk).cons first
          exact hrow.trans (List.Perm.swap d first _)
        · rw [appendUnder_of_not_mem fun hother => hdisjoint hother hin]
          have hrow := ((ihbeside hbeside hin).append_left below.walk).cons first
          exact hrow.trans (@List.perm_middle _ d (first :: below.walk) beside.walk)

/-- A declaration is added once when the one that it belongs below is there once. -/
theorem walk_hang_perm (hnodup : forest.names.Nodup)
    (hparent : ∀ parent, QualifiedName.parent? d.fullName = some parent → parent ∈ forest.names) :
    (forest.hang d).walk.Perm (d :: forest.walk) := by
  rw [hang]
  cases h : QualifiedName.parent? d.fullName with
  | none => exact walk_append_perm forest d
  | some parent => exact walk_appendUnder_perm hnodup (hparent parent h)

/-! ## Growth of the paths -/

theorem mem_paths_append : path ∈ (forest.append d).paths ↔ path = [d] ∨ path ∈ forest.paths := by
  induction forest with
  | empty => simp [append, paths]
  | grow first below beside _ ihbeside =>
      simp only [append, paths, List.mem_cons, List.mem_append, ihbeside]
      tauto

theorem of_mem_paths_appendUnder (hpath : path ∈ (forest.appendUnder parent d).paths) :
    path ∈ forest.paths ∨ ∃ above ∈ forest.paths, ∃ last ∈ above.getLast?,
      last.fullName = parent ∧ path = above ++ [d] := by
  induction forest generalizing path with
  | empty => exact .inl hpath
  | grow first below beside ihbelow ihbeside =>
      by_cases hfirst : first.fullName = parent
      · rw [appendUnder, if_pos hfirst, paths, List.mem_cons, List.mem_append, List.mem_map]
          at hpath
        rcases hpath with rfl | ⟨inner, hinner, rfl⟩ | hbeside
        · exact .inl List.mem_cons_self
        · rcases mem_paths_append.1 hinner with rfl | hinner
          · -- right below the first declaration
            exact .inr ⟨[first], List.mem_cons_self, first, rfl, hfirst, rfl⟩
          · left
            exact List.mem_cons_of_mem _ (List.mem_append_left _ (List.mem_map_of_mem hinner))
        · exact .inl (List.mem_cons_of_mem _ (List.mem_append_right _ hbeside))
      · rw [appendUnder, if_neg hfirst, paths, List.mem_cons, List.mem_append, List.mem_map]
          at hpath
        rcases hpath with rfl | ⟨inner, hinner, rfl⟩ | hbeside
        · exact .inl List.mem_cons_self
        · rcases ihbelow hinner with hold | ⟨above, habove, last, hlast, hname, rfl⟩
          · left
            exact List.mem_cons_of_mem _ (List.mem_append_left _ (List.mem_map_of_mem hold))
          · refine .inr ⟨first :: above, ?_, last, ?_, hname, rfl⟩
            · exact List.mem_cons_of_mem _ (List.mem_append_left _ (List.mem_map_of_mem habove))
            · rwa [List.getLast?_cons_of_ne_nil (ne_nil_of_mem_paths habove)]
        · rcases ihbeside hbeside with hold | ⟨above, habove, rest⟩
          · exact .inl (List.mem_cons_of_mem _ (List.mem_append_right _ hold))
          · exact .inr ⟨above, List.mem_cons_of_mem _ (List.mem_append_right _ habove), rest⟩

/-! ## Nested paths -/

/-- The first name of a path has no dot, and every other one is the name before it, a dot and a
simple name. -/
structure Nested (path : List Declaration) : Prop where
  root : ∀ d ∈ path.head?, '.' ∉ d.fullName.toList
  step : path.IsChain fun above d =>
    d.fullName = above.fullName ++ "." ++ d.name ∧ '.' ∉ d.name.toList

theorem nested_singleton (hplain : '.' ∉ d.fullName.toList) : Nested [d] where
  root := by
    intro first hfirst
    cases hfirst
    exact hplain
  step := List.isChain_singleton d

theorem Nested.concat (hpath : Nested path) (hlast : e ∈ path.getLast?)
    (hparent : QualifiedName.parent? d.fullName = some e.fullName) : Nested (path ++ [d]) where
  root := by
    intro first hfirst
    have hne : path ≠ [] := by
      rintro rfl
      cases hlast
    rw [List.head?_append_of_ne_nil path hne] at hfirst
    exact hpath.root first hfirst
  step := by
    refine List.isChain_append.2 ⟨hpath.step, List.isChain_singleton d, ?_⟩
    intro above habove first hfirst
    cases hfirst
    cases Option.mem_unique habove hlast
    exact QualifiedName.eq_qualified hparent

/-- Changes that keep the full names keep paths nested. -/
theorem Nested.map {f : Declaration → Declaration} (hpath : Nested path)
    (hname : ∀ d, (f d).fullName = d.fullName) : Nested (path.map f) where
  root := by
    intro first hfirst
    rw [List.head?_map] at hfirst
    obtain ⟨d, hd, rfl⟩ := Option.map_eq_some_iff.1 hfirst
    rw [hname]
    exact hpath.root d hd
  step := by
    rw [List.isChain_map]
    refine hpath.step.imp ?_
    intro above d hstep
    rwa [Declaration.name, hname, hname, ← Declaration.name]

/-- A nested path ends with the one before its end, or consists of its end. -/
theorem Nested.cases_last (hpath : Nested path) (hlast : d ∈ path.getLast?) :
    (path = [d] ∧ '.' ∉ d.fullName.toList) ∨
      ∃ above e, path = above ++ [d] ∧ e ∈ above.getLast? ∧ Nested above ∧
        d.fullName = e.fullName ++ "." ++ d.name := by
  have hsplit : path.dropLast ++ [d] = path := List.dropLast_append_getLast? d hlast
  cases hend : path.dropLast.getLast? with
  | none =>
      rw [List.getLast?_eq_none_iff.1 hend, List.nil_append] at hsplit
      subst hsplit
      exact .inl ⟨rfl, hpath.root d rfl⟩
  | some e =>
      rw [← hsplit] at hpath
      obtain ⟨habove, _, hstep⟩ := List.isChain_append.1 hpath.step
      have hne : path.dropLast ≠ [] := by
        intro hnil
        rw [hnil] at hend
        cases hend
      refine .inr ⟨path.dropLast, e, hsplit.symm, hend, ⟨?_, habove⟩, (hstep e hend d rfl).1⟩
      intro first hfirst
      exact hpath.root first (by rwa [List.head?_append_of_ne_nil _ hne])

/-- A nested path is a single root when the name at its end has no dot. -/
theorem Nested.eq_singleton_iff (hpath : Nested path) (hlast : d ∈ path.getLast?) :
    path = [d] ↔ '.' ∉ d.fullName.toList := by
  rcases hpath.cases_last hlast with ⟨rfl, hplain⟩ | ⟨above, e, rfl, hend, _, hname⟩
  · exact iff_of_true rfl hplain
  · refine iff_of_false ?_ ?_
    · intro heq
      rw [List.append_eq_singleton_iff] at heq
      rcases heq with ⟨rfl, _⟩ | ⟨_, hnil⟩
      · cases hend
      · cases hnil
    · rw [hname]
      simp

/-- The simple names on a nested path spell the name at its end. -/
theorem Nested.intercalate (hpath : Nested path) (hlast : d ∈ path.getLast?) :
    ".".intercalate (path.map (·.name)) = d.fullName := by
  induction path using List.reverseRecOn generalizing d with
  | nil => cases hlast
  | append_singleton init f ih =>
      rcases hpath.cases_last hlast with ⟨heq, hplain⟩ | ⟨above, e, heq, hend, habove, hname⟩
      · rw [heq, List.map_singleton, String.intercalate_singleton]
        exact QualifiedName.simple_of_no_dot hplain
      · obtain ⟨rfl, hf⟩ := List.append_inj' heq rfl
        cases hf
        have hne : init.map (·.name) ≠ [] := by
          intro hnil
          rw [List.map_eq_nil_iff.1 hnil] at hend
          cases hend
        rw [List.map_append, List.map_singleton,
          String.intercalate_append_of_ne_nil hne (List.cons_ne_nil _ _),
          String.intercalate_singleton, ih habove hend, hname]

theorem nested_of_mem_paths_hang (hold : ∀ path ∈ forest.paths, Nested path)
    (hpath : path ∈ (forest.hang d).paths) : Nested path := by
  rw [hang] at hpath
  cases hparent : QualifiedName.parent? d.fullName with
  | none =>
      rw [hparent] at hpath
      rcases mem_paths_append.1 hpath with rfl | hpath
      · exact nested_singleton (QualifiedName.parent?_eq_none_iff.1 hparent)
      · exact hold path hpath
  | some parent =>
      rw [hparent] at hpath
      rcases of_mem_paths_appendUnder hpath with hpath | ⟨above, habove, last, hlast, rfl, rfl⟩
      · exact hold path hpath
      · exact (hold above habove).concat hlast hparent

/-! ## Hanging up a list of declarations -/

/-- A forest that holds every declaration of a list once, at the end of a nested path. -/
structure Hung (ds : List Declaration) (forest : Forest) : Prop where
  walk : forest.walk.Perm ds
  nested : ∀ path ∈ forest.paths, Nested path

theorem Hung.map {f : Declaration → Declaration} {ds : List Declaration} (hung : Hung ds forest)
    (hname : ∀ d, (f d).fullName = d.fullName) : Hung (ds.map f) (forest.map f) where
  walk := by
    rw [walk_map]
    exact hung.walk.map f
  nested := by
    intro path hpath
    rw [paths_map] at hpath
    obtain ⟨old, hold, rfl⟩ := List.mem_map.1 hpath
    exact (hung.nested old hold).map hname

/-- In a list of declarations, every one stands behind one with the name that it lies in. -/
def OutsideIn (ds : List Declaration) : Prop :=
  ∀ before d behind, ds = before ++ d :: behind → ∀ parent,
    QualifiedName.parent? d.fullName = some parent → parent ∈ before.map (·.fullName)

theorem Hung.hang {ds : List Declaration} (hung : Hung ds forest)
    (hnodup : (ds.map (·.fullName)).Nodup)
    (hparent : ∀ parent, QualifiedName.parent? d.fullName = some parent →
      parent ∈ ds.map (·.fullName)) : Hung (ds ++ [d]) (forest.hang d) where
  walk := by
    have hnames : forest.names.Perm (ds.map (·.fullName)) := hung.walk.map _
    have hgrown := walk_hang_perm (hnames.nodup_iff.2 hnodup) fun parent h =>
      hnames.mem_iff.2 (hparent parent h)
    exact (hgrown.trans (hung.walk.cons d)).trans (List.perm_append_singleton d ds).symm
  nested := fun _ hpath => nested_of_mem_paths_hang hung.nested hpath

/-- Hanging up declarations of different names from the outside in leaves none out. -/
theorem hung_foldl_hang {ds : List Declaration} (hnodup : (ds.map (·.fullName)).Nodup)
    (horder : OutsideIn ds) : Hung ds (ds.foldl Forest.hang .empty) := by
  induction ds using List.reverseRecOn with
  | nil => exact ⟨by simp, by simp [paths]⟩
  | append_singleton ds d ih =>
      rw [List.map_append] at hnodup
      have hinit : (ds.map (·.fullName)).Nodup := hnodup.of_append_left
      have hrest : OutsideIn ds := by
        intro before e behind heq
        refine horder before e (behind ++ [d]) ?_
        rw [heq, List.append_assoc, List.cons_append]
      rw [List.foldl_append, List.foldl_cons, List.foldl_nil]
      exact (ih hinit hrest).hang hinit (horder ds d [] rfl)

end Forest
end Typings
