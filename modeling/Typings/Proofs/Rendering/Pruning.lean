import Typings.Proofs.Tree.Paths
import Typings.Rendering.Definitions

/-!
# Pruned forests

The definitions of a library show the trees that hold a documented declaration of it. All other
declarations in these trees are shown as if no document described them.

* `Definitions.pruned`: the forest of these trees, with containers for the other declarations;
* `Definitions.documented_pruned`, `Definitions.exists_path_of_mem_paths`: what is left in it;
* `Definitions.SameTo`, `Definitions.pruned_map`: changes that a library does not show;
* `Definitions.text_after_of_ne`: the definitions of a library after those of another one;
* `Definitions.text_eq_text_pruned`: the definitions of a library are those of the pruned forest.
-/

namespace Typings
namespace Definitions

variable {config : Config} {library other : String} {d e : Declaration} {forest below : Forest}

theorem ok_bind {α β : Type} (value : α) (next : α → Except UnsupportedKind β) :
    (Except.ok value >>= next) = next value := rfl

theorem bind_eq_ok {α β : Type} {first : Except UnsupportedKind α}
    {next : α → Except UnsupportedKind β} {result : β} (h : first >>= next = .ok result) :
    ∃ value, first = .ok value ∧ next value = .ok result := by
  cases first with
  | error error => cases h
  | ok value => exact ⟨value, rfl, h⟩

/-! ## Pruning -/

/-- Whether a document of a library describes a declaration. -/
def belongs (library : String) (d : Declaration) : Bool :=
  !d.isContainer && d.library = library

/-- A declaration of the library as it is; for another one, a container of the same name. -/
def shownAs (library : String) (d : Declaration) : Declaration :=
  if belongs library d then d else .containerFor d.fullName library

/-- The trees that hold a declaration of the library, with every declaration as it is shown. -/
def pruned (library : String) : Forest → Forest
  | .empty => .empty
  | .grow d below beside =>
      if (d :: below.walk).any (belongs library) then
        .grow (shownAs library d) (pruned library below) (pruned library beside)
      else pruned library beside

theorem owned_some (library : String) (d : Declaration) :
    owned (some library) d = belongs library d := by
  simp [owned, belongs, eq_comm]

theorem documented_shownAs (library : String) (d : Declaration) :
    (!(shownAs library d).isContainer) = belongs library d := by
  rw [shownAs]
  cases hbelongs : belongs library d with
  | false => rfl
  | true =>
      rw [belongs, Bool.and_eq_true] at hbelongs
      exact hbelongs.1

theorem owned_shownAs (library : String) (d : Declaration) :
    owned none (shownAs library d) = belongs library d := by
  rw [← documented_shownAs, owned, Option.isNone_none, Bool.true_or, Bool.and_true]

theorem shownAs_of_belongs (hbelongs : belongs library d = true) : shownAs library d = d :=
  if_pos hbelongs

theorem name_shownAs (library : String) (d : Declaration) :
    (shownAs library d).name = d.name := by
  rw [shownAs]
  split <;> rfl

/-! ## What is held -/

theorem holdsAny_some (library : String) (forest : Forest) :
    holdsAny (some library) forest = forest.walk.any (belongs library) := by
  induction forest with
  | empty => simp [holdsAny]
  | grow d below beside ihbelow ihbeside =>
      simp [holdsAny, owned_some, ihbelow, ihbeside, Bool.or_assoc]

theorem holds_some (library : String) (d : Declaration) (below : Forest) :
    holds (some library) d below = (d :: below.walk).any (belongs library) := by
  simp [holds, owned_some, holdsAny_some]

theorem holdsAny_grow (library : Option String) (d : Declaration) (below beside : Forest) :
    holdsAny library (.grow d below beside) =
      (holds library d below || holdsAny library beside) := rfl

theorem holds_eq_false_iff :
    holds (some library) d below = false ↔
      belongs library d = false ∧ holdsAny (some library) below = false := by
  rw [holds, Option.isNone_some, Bool.false_or, owned_some, Bool.or_eq_false_iff]

/-- A tree is kept when it is shown. -/
theorem pruned_grow (library : String) (d : Declaration) (below beside : Forest) :
    pruned library (.grow d below beside) =
      if holds (some library) d below then
        .grow (shownAs library d) (pruned library below) (pruned library beside)
      else pruned library beside := by
  rw [pruned, holds_some]

/-- Something is left of a forest when some tree of it is shown. -/
theorem holdsAny_pruned (library : String) (forest : Forest) :
    holdsAny none (pruned library forest) = holdsAny (some library) forest := by
  induction forest with
  | empty => rfl
  | grow d below beside _ ihbeside =>
      rw [pruned_grow, holdsAny_grow, ← ihbeside]
      cases holds (some library) d below with
      | false => rw [if_neg Bool.false_ne_true, Bool.false_or]
      | true => rw [if_pos rfl, Bool.true_or, holdsAny, Option.isNone_none, Bool.true_or,
          Bool.true_or, Bool.true_or]

/-! ## What is left -/

/-- The documented declarations that are left are those of the library. -/
theorem documented_pruned (library : String) (forest : Forest) :
    (pruned library forest).walk.filter (!·.isContainer) = forest.walk.filter (belongs library) := by
  induction forest with
  | empty => simp [pruned]
  | grow d below beside ihbelow ihbeside =>
      rw [pruned_grow, Forest.walk_grow]
      cases hholds : holds (some library) d below with
      | true =>
          rw [if_pos rfl, Forest.walk_grow, List.filter_cons, List.filter_cons, List.filter_append,
            List.filter_append, ihbelow, ihbeside, documented_shownAs]
          cases hbelongs : belongs library d with
          | true => rw [shownAs_of_belongs hbelongs]
          | false => rfl
      | false =>
          rw [holds_some, List.any_eq_false] at hholds
          have hnone : (d :: below.walk).filter (belongs library) = [] :=
            List.filter_eq_nil_iff.2 hholds
          rw [if_neg Bool.false_ne_true, ihbeside, ← List.cons_append, List.filter_append, hnone,
            List.nil_append]

theorem exists_path_of_holdsAny (hholds : holdsAny (some library) forest = true) :
    ∃ path ∈ (pruned library forest).paths, ∃ d ∈ path.getLast?, belongs library d = true := by
  rw [holdsAny_some, List.any_eq_true] at hholds
  obtain ⟨d, hd, hbelongs⟩ := hholds
  have hleft : d ∈ (pruned library forest).walk := by
    have hmem := List.mem_filter.2 ⟨hd, hbelongs⟩
    rw [← documented_pruned] at hmem
    exact (List.mem_filter.1 hmem).1
  have hend : some d ∈ (pruned library forest).paths.map List.getLast? := by
    rw [Forest.getLast?_paths]
    exact List.mem_map_of_mem hleft
  obtain ⟨path, hpath, hlast⟩ := List.mem_map.1 hend
  exact ⟨path, hpath, d, hlast, hbelongs⟩

/-- Every declaration that is left leads to one of the library. -/
theorem exists_path_of_mem_paths {path : List Declaration}
    (hpath : path ∈ (pruned library forest).paths) :
    ∃ further, path ++ further ∈ (pruned library forest).paths ∧
      ∃ d ∈ (path ++ further).getLast?, belongs library d = true := by
  induction forest generalizing path with
  | empty => cases hpath
  | grow d below beside ihbelow ihbeside =>
      rw [pruned_grow] at hpath ⊢
      cases hholds : holds (some library) d below with
      | false =>
          rw [hholds, if_neg Bool.false_ne_true] at hpath
          rw [if_neg Bool.false_ne_true]
          exact ihbeside hpath
      | true =>
          rw [hholds, if_pos rfl, Forest.paths, List.mem_cons, List.mem_append, List.mem_map]
            at hpath
          simp only [if_pos, Forest.paths, List.mem_cons, List.mem_append, List.mem_map]
          rcases hpath with rfl | ⟨inner, hinner, rfl⟩ | hbeside
          · -- the root of the tree belongs to the library, or something below it does
            cases hbelongs : belongs library d with
            | true =>
                refine ⟨[], .inl rfl, d, ?_, hbelongs⟩
                rw [shownAs_of_belongs hbelongs]
                rfl
            | false =>
                have hbelow : holdsAny (some library) below = true := by
                  rwa [holds, Option.isNone_some, Bool.false_or, owned_some, hbelongs,
                    Bool.false_or] at hholds
                obtain ⟨inner, hinner, e, hlast, he⟩ := exists_path_of_holdsAny hbelow
                refine ⟨inner, .inr (.inl ⟨inner, hinner, rfl⟩), e, ?_, he⟩
                rwa [List.singleton_append,
                  List.getLast?_cons_of_ne_nil (Forest.ne_nil_of_mem_paths hinner)]
          · obtain ⟨further, hfurther, e, hlast, he⟩ := ihbelow hinner
            refine ⟨further, .inr (.inl ⟨inner ++ further, hfurther, rfl⟩), e, ?_, he⟩
            rwa [List.cons_append,
              List.getLast?_cons_of_ne_nil (Forest.ne_nil_of_mem_paths hfurther)]
          · obtain ⟨further, hfurther, hend⟩ := ihbeside hbeside
            exact ⟨further, .inr (.inr hfurther), hend⟩

/-! ## Lines -/

/-- A tree that is left shows what it shows of the library. -/
theorem treeLines_shownAs (config : Config) (library : String) (level : Nat) (declare : String)
    (d : Declaration) (below : Forest) (inner : List String) :
    treeLines config none level declare (shownAs library d) (pruned library below) inner =
      treeLines config (some library) level declare d below inner := by
  rw [treeLines, owned_shownAs, holdsAny_pruned, name_shownAs, treeLines, owned_some]
  cases hbelongs : belongs library d with
  | false => rfl
  | true =>
      rw [shownAs_of_belongs hbelongs]

theorem treeLines_of_not_holds (config : Config) (level : Nat) (declare : String)
    (inner : List String) (hnot : holds (some library) d below = false) :
    treeLines config (some library) level declare d below inner = .ok [] := by
  obtain ⟨howned, hbelow⟩ := holds_eq_false_iff.1 hnot
  rw [treeLines, owned_some, howned, hbelow]
  rfl

/-- Of a forest that holds nothing of the library nothing is shown. -/
theorem forestLines_of_not_holdsAny (config : Config) (level : Nat)
    (hnot : holdsAny (some library) forest = false) :
    forestLines config (some library) level forest = .ok [] := by
  induction forest generalizing level with
  | empty => rfl
  | grow d below beside ihbelow ihbeside =>
      rw [holdsAny_grow, Bool.or_eq_false_iff] at hnot
      obtain ⟨hfirst, hbeside⟩ := hnot
      -- trees that are not shown are rendered all the same, and nothing fails in them
      rw [forestLines, ihbelow _ (holds_eq_false_iff.1 hfirst).2, ok_bind,
        treeLines_of_not_holds config level "" [] hfirst, ok_bind, ihbeside _ hbeside, ok_bind,
        hfirst]
      rfl

theorem forestLines_pruned (config : Config) (library : String) (level : Nat) (forest : Forest) :
    forestLines config none level (pruned library forest) =
      forestLines config (some library) level forest := by
  induction forest generalizing level with
  | empty => rfl
  | grow d below beside ihbelow ihbeside =>
      rw [pruned_grow]
      cases hholds : holds (some library) d below with
      | true =>
          rw [if_pos rfl, forestLines, forestLines, ihbelow, ihbeside, hholds]
          simp only [treeLines_shownAs]
          rfl
      | false =>
          -- what is dropped has no lines
          rw [if_neg Bool.false_ne_true, ihbeside, forestLines,
            forestLines_of_not_holdsAny config _ (holds_eq_false_iff.1 hholds).2, ok_bind,
            treeLines_of_not_holds config level "" [] hholds, ok_bind, hholds]
          exact (bind_pure _).symm

theorem rootLines_pruned (config : Config) (library : String) (forest : Forest) :
    rootLines config none (pruned library forest) = rootLines config (some library) forest := by
  induction forest with
  | empty => rfl
  | grow d below beside _ ihbeside =>
      rw [pruned_grow]
      cases hholds : holds (some library) d below with
      | true =>
          rw [if_pos rfl, rootLines, rootLines, forestLines_pruned, ihbeside, hholds]
          simp only [treeLines_shownAs]
          rfl
      | false =>
          rw [if_neg Bool.false_ne_true, ihbeside, rootLines,
            forestLines_of_not_holdsAny config _ (holds_eq_false_iff.1 hholds).2, ok_bind,
            treeLines_of_not_holds config 0 "declare " [] hholds, ok_bind, hholds]
          exact (bind_pure _).symm

theorem text_pruned (config : Config) (library : String) (forest : Forest) :
    text config none (pruned library forest) = text config (some library) forest := by
  rw [text, rootLines_pruned, text]

/-! ## Changes that a library does not show -/

/-- Two declarations of one full name that differ only when neither belongs to the library. -/
structure SameTo (library : String) (d e : Declaration) : Prop where
  fullName : e.fullName = d.fullName
  belongs : belongs library e = belongs library d
  kept : Definitions.belongs library d = true → e = d

theorem SameTo.shownAs (h : SameTo library d e) : shownAs library e = shownAs library d := by
  cases hbelongs : Definitions.belongs library d with
  | true => rw [h.kept hbelongs]
  | false =>
      rw [Definitions.shownAs, Definitions.shownAs, h.belongs, hbelongs, h.fullName]
      rfl

/-- Changes of what does not belong to the library make no difference to what is left. -/
theorem pruned_map {change : Declaration → Declaration}
    (h : ∀ d ∈ forest.walk, SameTo library d (change d)) :
    pruned library (forest.map change) = pruned library forest := by
  induction forest with
  | empty => rfl
  | grow d below beside ihbelow ihbeside =>
      rw [Forest.walk_grow, List.forall_mem_cons, List.forall_mem_append] at h
      obtain ⟨hd, hbelow, hbeside⟩ := h
      -- the tree is kept before the change exactly when it is kept after it
      have hany : (below.map change).walk.any (belongs library) =
          below.walk.any (belongs library) := by
        rw [Forest.walk_map, List.any_map, Bool.eq_iff_iff, List.any_eq_true, List.any_eq_true]
        refine exists_congr fun e => and_congr_right fun he => ?_
        rw [Function.comp_apply, (hbelow e he).belongs]
      rw [Forest.map, pruned, pruned, List.any_cons, List.any_cons, hany, hd.belongs, hd.shownAs,
        ihbelow hbelow, ihbeside hbeside]

/-- Changes of what does not belong to the library make no difference to its definitions. -/
theorem text_map_of_sameTo {change : Declaration → Declaration}
    (h : ∀ d ∈ forest.walk, SameTo library d (change d)) :
    text config (some library) (forest.map change) = text config (some library) forest := by
  rw [← text_pruned, pruned_map h, text_pruned]

theorem body_mapMethods_eq_container {f : Method → Method} :
    (d.mapMethods f).body = .container ↔ d.body = .container := by
  rw [Declaration.mapMethods]
  cases hbody : d.body <;> simp [Body.mapMethods]

theorem isContainer_mapMethods (f : Method → Method) (d : Declaration) :
    (d.mapMethods f).isContainer = d.isContainer := by
  rw [Declaration.isContainer, Declaration.isContainer, decide_eq_decide]
  exact body_mapMethods_eq_container

/-- The definitions of a library are the same after those of another one were rendered. -/
theorem text_after_of_ne (hne : library ≠ other) :
    text config (some library) (after config (some other) forest) =
      text config (some library) forest := by
  refine text_map_of_sameTo ?_
  intro d _
  cases howned : owned (some other) d with
  | false => exact ⟨rfl, rfl, fun _ => rfl⟩
  | true =>
      rw [owned_some, belongs, Bool.and_eq_true, decide_eq_true_eq] at howned
      have hnot : belongs library d = false := by
        simp [belongs, howned.2, Ne.symm hne]
      refine ⟨rfl, ?_, ?_⟩
      · rw [if_pos rfl, belongs, isContainer_mapMethods]
        rfl
      · rw [hnot]
        exact fun h => absurd h Bool.false_ne_true

/-! ## The definitions of a library -/

/-- The definitions of a library are those of the forest that is left of its trees. The documented
declarations in it are those of the library, every container leads to one of them, and of all other
declarations no more than the full names makes a difference. -/
theorem text_eq_text_pruned (config : Config) (library : String) (forest : Forest) :
    text config (some library) forest = text config none (pruned library forest) ∧
      (pruned library forest).walk.filter (!·.isContainer) =
        forest.walk.filter (belongs library) ∧
      (∀ path ∈ (pruned library forest).paths,
        ∃ further, path ++ further ∈ (pruned library forest).paths ∧
          ∃ d ∈ (path ++ further).getLast?, belongs library d = true) ∧
      ∀ change : Declaration → Declaration,
        (∀ d ∈ forest.walk, SameTo library d (change d)) →
          text config (some library) (forest.map change) = text config (some library) forest :=
  ⟨(text_pruned config library forest).symm, documented_pruned library forest,
    fun _ => exists_path_of_mem_paths, fun _ => text_map_of_sameTo⟩

end Definitions
end Typings
