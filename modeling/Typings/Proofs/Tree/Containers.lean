import Mathlib.Data.List.Nodup
import Typings.Proofs.Tree.Outline
import Typings.Proofs.Tree.QualifiedName

/-!
# Containers

Every declaration needs the names that contain its own. The ones without a declaration of their own
get containers, each one once, when the first declaration that needs it comes up.

* `created`: the containers alone; `withContainers_perm`: nothing else is added;
* `nodup_created`: no container repeats a name;
* `parentClosed_names`: with the containers, every name lies in a declared one;
* `mem_names_created_iff`: the names of the containers.
-/

namespace Typings
namespace Outline

variable {declared : List String} {ds : List Declaration} {d : Declaration}
  {name outer parent library : String}

/-! ## Missing names -/

/-- The names that contain a name, as far as they are missing in front of the first declared one. -/
def missingNames (declared : List String) (name : String) : List String :=
  (QualifiedName.enclosing name).takeWhile fun outer => !declared.contains outer

theorem missingContainers_eq (declared : List String) (d : Declaration) :
    missingContainers declared d =
      ((missingNames declared d.fullName).map fun name =>
        Declaration.containerFor name d.library).reverse := rfl

theorem names_missingContainers (declared : List String) (d : Declaration) :
    (missingContainers declared d).map (·.fullName) =
      (missingNames declared d.fullName).reverse := by
  rw [missingContainers_eq, List.map_reverse, List.map_map]
  exact congrArg List.reverse (List.map_id' _)

theorem missingNames_of_plain (hplain : QualifiedName.parent? name = none) :
    missingNames declared name = [] := by
  rw [missingNames, QualifiedName.enclosing_of_plain hplain, List.takeWhile_nil]

theorem missingNames_of_parent? (hparent : QualifiedName.parent? name = some parent) :
    missingNames declared name =
      if parent ∈ declared then [] else parent :: missingNames declared parent := by
  rw [missingNames, QualifiedName.enclosing_of_parent? hparent, List.takeWhile_cons]
  by_cases hdeclared : parent ∈ declared <;> simp [hdeclared, missingNames]

theorem not_mem_of_mem_missingNames (hmem : outer ∈ missingNames declared name) :
    outer ∉ declared := by
  have hmissing := List.mem_takeWhile_imp hmem
  simpa using hmissing

theorem mem_enclosing_of_mem_missingNames (hmem : outer ∈ missingNames declared name) :
    outer ∈ QualifiedName.enclosing name :=
  (List.takeWhile_sublist _).subset hmem

theorem nodup_missingNames (declared : List String) (name : String) :
    (missingNames declared name).Nodup :=
  (QualifiedName.nodup_enclosing name).sublist (List.takeWhile_sublist _)

/-- What a name lies in is declared or missing. -/
theorem parent_mem_of_missingNames (hparent : QualifiedName.parent? name = some parent) :
    parent ∈ declared ∨ parent ∈ missingNames declared name := by
  by_cases hdeclared : parent ∈ declared
  · exact .inl hdeclared
  · right
    rw [missingNames_of_parent? hparent, if_neg hdeclared]
    exact List.mem_cons_self

/-- What a missing name lies in is declared or missing as well. -/
theorem parent_mem_of_mem_missingNames (hmem : outer ∈ missingNames declared name)
    (hparent : QualifiedName.parent? outer = some parent) :
    parent ∈ declared ∨ parent ∈ missingNames declared name := by
  induction name using QualifiedName.parentInduction with
  | plain name hplain =>
      rw [missingNames_of_plain hplain] at hmem
      cases hmem
  | inside name above habove ih =>
      rw [missingNames_of_parent? habove] at hmem ⊢
      split at hmem
      case isTrue => cases hmem
      case isFalse hmissing =>
        rw [if_neg hmissing]
        rcases List.mem_cons.1 hmem with rfl | hmem
        · exact (parent_mem_of_missingNames hparent).imp_right (List.mem_cons_of_mem outer)
        · exact (ih hmem).imp_right (List.mem_cons_of_mem above)

/-! ## The containers of all declarations -/

/-- The containers that come up with a list of declarations, in order. -/
def created (declared : List String) : List Declaration → List Declaration
  | [] => []
  | d :: rest =>
      let missing := missingContainers declared d
      missing ++ created (declared ++ missing.map (·.fullName)) rest

theorem withContainers_perm (declared : List String) (ds : List Declaration) :
    (withContainers declared ds).Perm (ds ++ created declared ds) := by
  induction ds generalizing declared with
  | nil => exact List.Perm.refl []
  | cons d rest ih =>
      simp only [withContainers, created]
      set missing := missingContainers declared d
      set more := created (declared ++ missing.map (·.fullName)) rest
      have hrest := ((ih (declared ++ missing.map (·.fullName))).cons d).append_left missing
      refine hrest.trans ?_
      -- the missing containers move behind the declarations
      have hmove : (missing ++ (d :: rest ++ more)).Perm (d :: rest ++ (missing ++ more)) := by
        rw [← List.append_assoc, ← List.append_assoc]
        exact List.perm_append_comm.append_right more
      exact hmove

theorem body_of_mem_created (hmem : d ∈ created declared ds) : d.body = .container := by
  induction ds generalizing declared with
  | nil => cases hmem
  | cons first rest ih =>
      rw [created, List.mem_append] at hmem
      rcases hmem with hmissing | hrest
      · rw [missingContainers_eq, List.mem_reverse, List.mem_map] at hmissing
        obtain ⟨name, _, rfl⟩ := hmissing
        rfl
      · exact ih hrest

/-- No container has the name of a declaration or of another container. -/
theorem nodup_created (ds : List Declaration) (hnodup : declared.Nodup) :
    (declared ++ (created declared ds).map (·.fullName)).Nodup := by
  induction ds generalizing declared with
  | nil => simpa [created] using hnodup
  | cons d rest ih =>
      have hmissing : (declared ++ (missingContainers declared d).map (·.fullName)).Nodup := by
        rw [names_missingContainers]
        refine hnodup.append (List.nodup_reverse.2 (nodup_missingNames declared d.fullName)) ?_
        intro name hdeclared hmem
        exact not_mem_of_mem_missingNames (List.mem_reverse.1 hmem) hdeclared
      rw [created, List.map_append, ← List.append_assoc]
      exact ih hmissing

theorem exists_of_mem_created (hmem : name ∈ (created declared ds).map (·.fullName)) :
    ∃ d ∈ ds, name ∈ QualifiedName.enclosing d.fullName := by
  induction ds generalizing declared with
  | nil => cases hmem
  | cons d rest ih =>
      rw [created, List.map_append, List.mem_append, names_missingContainers, List.mem_reverse]
        at hmem
      rcases hmem with hmissing | hrest
      · exact ⟨d, List.mem_cons_self, mem_enclosing_of_mem_missingNames hmissing⟩
      · obtain ⟨e, he, hname⟩ := ih hrest
        exact ⟨e, List.mem_cons_of_mem d he, hname⟩

/-! ## Closure -/

/-- With a name, the one that it lies in is there. -/
def ParentClosed (names : List String) : Prop :=
  ∀ name ∈ names, ∀ parent, QualifiedName.parent? name = some parent → parent ∈ names

theorem ParentClosed.enclosing {names : List String} (hclosed : ParentClosed names)
    (hmem : name ∈ names) (houter : outer ∈ QualifiedName.enclosing name) : outer ∈ names := by
  induction name using QualifiedName.parentInduction with
  | plain name hplain =>
      rw [QualifiedName.enclosing_of_plain hplain] at houter
      cases houter
  | inside name parent hparent ih =>
      have hinner : parent ∈ names := hclosed name hmem parent hparent
      rw [QualifiedName.enclosing_of_parent? hparent, List.mem_cons] at houter
      rcases houter with rfl | houter
      · exact hinner
      · exact ih hinner houter

/-- As long as only names of declarations that are still to come lie in undeclared ones, no name
does so in the end. -/
theorem parentClosed_created
    (hpending : ∀ name ∈ declared, name ∈ ds.map (·.fullName) ∨
      ∀ parent, QualifiedName.parent? name = some parent → parent ∈ declared) :
    ParentClosed (declared ++ (created declared ds).map (·.fullName)) := by
  induction ds generalizing declared with
  | nil =>
      intro name hmem parent hparent
      simp only [created, List.map_nil, List.append_nil] at hmem ⊢
      rcases hpending name hmem with hcomes | hclosed
      · cases hcomes
      · exact hclosed parent hparent
  | cons d rest ih =>
      rw [created, List.map_append, ← List.append_assoc]
      refine ih ?_
      rw [names_missingContainers]
      intro name hmem
      simp only [List.mem_append, List.mem_reverse] at hmem ⊢
      rcases hmem with hdeclared | hmissing
      · rcases hpending name hdeclared with hcomes | hclosed
        · rcases List.mem_cons.1 hcomes with rfl | hrest
          · exact .inr fun parent hparent => parent_mem_of_missingNames hparent
          · exact .inl hrest
        · exact .inr fun parent hparent => .inl (hclosed parent hparent)
      · exact .inr fun parent hparent => parent_mem_of_mem_missingNames hmissing hparent

/-- With their containers, declarations are closed under the names that they lie in. -/
theorem parentClosed_names (ds : List Declaration) :
    ParentClosed (ds.map (·.fullName) ++ (created (ds.map (·.fullName)) ds).map (·.fullName)) :=
  parentClosed_created fun _ hmem => .inl hmem

/-- The containers are those of the names in which a declared name lies and which are not declared
themselves. -/
theorem mem_names_created_iff (hnodup : (ds.map (·.fullName)).Nodup) :
    name ∈ (created (ds.map (·.fullName)) ds).map (·.fullName) ↔
      name ∉ ds.map (·.fullName) ∧ ∃ d ∈ ds, name ∈ QualifiedName.enclosing d.fullName := by
  have hdisjoint := (List.nodup_append'.1 (nodup_created ds hnodup)).2.2
  constructor
  · intro hmem
    exact ⟨fun hdeclared => hdisjoint hdeclared hmem, exists_of_mem_created hmem⟩
  · rintro ⟨hnot, d, hd, houter⟩
    have hdeclared : d.fullName ∈
        ds.map (·.fullName) ++ (created (ds.map (·.fullName)) ds).map (·.fullName) :=
      List.mem_append_left _ (List.mem_map_of_mem hd)
    exact (List.mem_append.1 ((parentClosed_names ds).enclosing hdeclared houter)).resolve_left hnot

end Outline
end Typings
