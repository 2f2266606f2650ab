import Mathlib.Data.List.Induction
import Typings.Proofs.Tree.Forest
import Typings.Proofs.TypeText.Members

/-!
# The order of a walk

A walk over a forest can be made with a stack of trees: take the tree on top, and put the trees
below its root back, the first one on top. It ends when the stack is empty, and it takes the
declarations in the order of their addresses.

* `Unstacks`: the walk with a stack of trees, step by step;
* `unstacks_iff`: from every stack it ends, and takes what is pending on the stack;
* `at?`, `addresses`: declarations by their addresses, and the addresses in order;
* `mem_libraries`, `pairwise_libraries`: the libraries of a forest and their order;
* `walk_unstacks`: walks, libraries and methods of any forest.
-/

namespace Typings
namespace Forest

variable {d : Declaration} {below : Forest} {stack : List (Declaration × Forest)}
  {ds : List Declaration}

/-! ## Trees on a stack -/

/-- The trees of a forest in order: each root with the forest below it. -/
def trees : Forest → List (Declaration × Forest)
  | .empty => []
  | .grow d below beside => (d, below) :: beside.trees

/-- What is taken from a stack of trees until it is empty. The last tree is on top; when its root is
taken, the trees below the root are put on the stack in reverse. -/
inductive Unstacks : List (Declaration × Forest) → List Declaration → Prop where
  | finished : Unstacks [] []
  | take {stack : List (Declaration × Forest)} {d : Declaration} {below : Forest}
      {ds : List Declaration} (rest : Unstacks (stack ++ below.trees.reverse) ds) :
      Unstacks (stack ++ [(d, below)]) (d :: ds)

/-- The declarations that are still to be taken from a stack: those of the trees from the top down,
each root before what is below it. -/
def pending (stack : List (Declaration × Forest)) : List Declaration :=
  stack.reverse.flatMap fun tree => tree.1 :: tree.2.preorder

theorem flatMap_trees (forest : Forest) :
    (forest.trees.flatMap fun tree => tree.1 :: tree.2.preorder) = forest.preorder := by
  induction forest with
  | empty => rfl
  | grow d below beside _ ihbeside =>
      rw [trees, List.flatMap_cons, ihbeside, preorder, List.cons_append]

theorem pending_trees (forest : Forest) : pending forest.trees.reverse = forest.preorder := by
  rw [pending, List.reverse_reverse, flatMap_trees]

theorem pending_append (stack more : List (Declaration × Forest)) :
    pending (stack ++ more) = pending more ++ pending stack := by
  rw [pending, List.reverse_append, List.flatMap_append, pending, pending]

/-- A step takes the first declaration that is pending, and all others stay. -/
theorem pending_take (stack : List (Declaration × Forest)) (d : Declaration) (below : Forest) :
    pending (stack ++ [(d, below)]) = d :: pending (stack ++ below.trees.reverse) := by
  rw [pending_append, pending_append, pending_trees]
  simp [pending]

/-- Every stack is emptied in the end, and what is taken from it is what was pending. -/
theorem unstacks_iff : Unstacks stack ds ↔ ds = pending stack := by
  constructor
  · intro h
    induction h with
    | finished => rfl
    | take rest ih => rw [pending_take, ih]
  · rintro rfl
    -- the number of declarations that are pending falls with each step
    induction hsize : (pending stack).length generalizing stack with
    | zero =>
        rcases List.eq_nil_or_concat stack with rfl | ⟨rest, ⟨d, below⟩, rfl⟩
        · exact .finished
        · rw [List.concat_eq_append, pending_take] at hsize
          cases hsize
    | succ size ih =>
        rcases List.eq_nil_or_concat stack with rfl | ⟨rest, ⟨d, below⟩, rfl⟩
        · cases hsize
        · rw [List.concat_eq_append, pending_take] at hsize ⊢
          exact .take (ih (Nat.succ.inj hsize))

/-! ## Addresses -/

/-- The declaration at an address: the place of its root, then on the way down from the root the
place of each declaration among those beside it. -/
def at? : Forest → List Nat → Option Declaration
  | .empty, _ => none
  | .grow _ _ _, [] => none
  | .grow d _ _, [0] => some d
  | .grow _ below _, 0 :: place :: address => below.at? (place :: address)
  | .grow _ _ beside, (place + 1) :: address => beside.at? (place :: address)

/-- The addresses of a forest in the order of the walk. -/
def addresses : Forest → List (List Nat)
  | .empty => []
  | .grow _ below beside =>
      [0] :: (below.addresses.map (0 :: ·) ++ beside.addresses.map (List.modifyHead (· + 1)))

theorem ne_nil_of_mem_addresses {forest : Forest} {address : List Nat}
    (hmem : address ∈ forest.addresses) : address ≠ [] := by
  induction forest generalizing address with
  | empty => cases hmem
  | grow d below beside ihbelow ihbeside =>
      rw [addresses, List.mem_cons, List.mem_append, List.mem_map, List.mem_map] at hmem
      rcases hmem with rfl | ⟨inner, _, rfl⟩ | ⟨next, hnext, rfl⟩
      · exact List.cons_ne_nil 0 []
      · exact List.cons_ne_nil 0 inner
      · simpa using ihbeside hnext

/-- An address that is not empty, taken apart. -/
theorem exists_of_mem_addresses {forest : Forest} {address : List Nat}
    (hmem : address ∈ forest.addresses) : ∃ place rest, address = place :: rest :=
  List.exists_cons_of_ne_nil (ne_nil_of_mem_addresses hmem)

/-- What is at the addresses, in order, is what a walk takes. -/
theorem map_at?_addresses (forest : Forest) :
    forest.addresses.map forest.at? = forest.preorder.map some := by
  induction forest with
  | empty => rfl
  | grow d below beside ihbelow ihbeside =>
      have hbelow : (below.addresses.map (0 :: ·)).map (grow d below beside).at? =
          below.preorder.map some := by
        rw [← ihbelow, List.map_map]
        refine List.map_congr_left fun address hmem => ?_
        obtain ⟨place, rest, rfl⟩ := exists_of_mem_addresses hmem
        rfl
      have hbeside : (beside.addresses.map (List.modifyHead (· + 1))).map
          (grow d below beside).at? = beside.preorder.map some := by
        rw [← ihbeside, List.map_map]
        refine List.map_congr_left fun address hmem => ?_
        obtain ⟨place, rest, rfl⟩ := exists_of_mem_addresses hmem
        cases rest <;> rfl
      rw [addresses, preorder, List.map_cons, List.map_append, hbelow, hbeside, List.map_cons,
        List.map_append]
      rfl

/-- Addresses are in order: of two on one way down the shorter one, and of others the one whose
place is the first where the ways part. -/
theorem pairwise_addresses (forest : Forest) : forest.addresses.Pairwise (· < ·) := by
  induction forest with
  | empty => exact .nil
  | grow d below beside ihbelow ihbeside =>
      rw [addresses, List.pairwise_cons, List.pairwise_append, List.pairwise_map, List.pairwise_map]
      refine ⟨?_, ?_, ?_, ?_⟩
      · intro address hmem
        rcases List.mem_append.1 hmem with hbelow | hbeside
        · -- the address of the root is a front of this one
          obtain ⟨inner, hinner, rfl⟩ := List.mem_map.1 hbelow
          obtain ⟨place, rest, rfl⟩ := exists_of_mem_addresses hinner
          exact List.cons_lt_cons_iff.2 (.inr ⟨rfl, List.nil_lt_cons place rest⟩)
        · -- the root beside this one has a larger place
          obtain ⟨next, hnext, rfl⟩ := List.mem_map.1 hbeside
          obtain ⟨place, rest, rfl⟩ := exists_of_mem_addresses hnext
          exact List.cons_lt_cons_iff.2 (.inl place.succ_pos)
      · exact ihbelow.imp fun hlt => List.cons_lt_cons_iff.2 (.inr ⟨rfl, hlt⟩)
      · -- the first places are both one larger than they were
        refine ihbeside.imp_of_mem fun {a b} ha hb hlt => ?_
        obtain ⟨place, rest, rfl⟩ := exists_of_mem_addresses ha
        obtain ⟨other, others, rfl⟩ := exists_of_mem_addresses hb
        rw [List.cons_lt_cons_iff] at hlt
        refine List.cons_lt_cons_iff.2 ?_
        exact hlt.imp Nat.succ_lt_succ (And.imp_left (congrArg Nat.succ))
      · intro a ha b hb
        obtain ⟨inner, -, rfl⟩ := List.mem_map.1 ha
        obtain ⟨next, hnext, rfl⟩ := List.mem_map.1 hb
        obtain ⟨place, rest, rfl⟩ := exists_of_mem_addresses hnext
        exact List.cons_lt_cons_iff.2 (.inl place.succ_pos)

/-- Every declaration of a forest has an address. -/
theorem mem_addresses_iff {forest : Forest} {address : List Nat} :
    address ∈ forest.addresses ↔ (forest.at? address).isSome := by
  induction forest generalizing address with
  | empty => simp [addresses, at?]
  | grow d below beside ihbelow ihbeside =>
      rw [addresses, List.mem_cons, List.mem_append, List.mem_map, List.mem_map]
      constructor
      · rintro (rfl | ⟨inner, hinner, rfl⟩ | ⟨next, hnext, rfl⟩)
        · rfl
        · obtain ⟨place, rest, rfl⟩ := exists_of_mem_addresses hinner
          exact ihbelow.1 hinner
        · obtain ⟨place, rest, rfl⟩ := exists_of_mem_addresses hnext
          cases rest <;> exact ihbeside.1 hnext
      · intro hsome
        match address, hsome with
        | [0], _ => exact .inl rfl
        | 0 :: place :: rest, hsome =>
            exact .inr (.inl ⟨place :: rest, ihbelow.2 hsome, rfl⟩)
        | (place + 1) :: rest, hsome =>
            refine .inr (.inr ⟨place :: rest, ihbeside.2 ?_, rfl⟩)
            cases rest <;> exact hsome

/-! ## Libraries -/

theorem nodup_libraries (forest : Forest) : forest.libraries.Nodup :=
  nodup_foldl_addNew List.nodup_nil

/-- The libraries are those that a documented declaration names. -/
theorem mem_libraries {forest : Forest} {library : String} :
    library ∈ forest.libraries ↔
      library ≠ "" ∧ ∃ d ∈ forest.walk, d.isContainer = false ∧ d.library = library := by
  rw [libraries, mem_foldl_addNew, List.mem_filterMap]
  constructor
  · rintro (hnil | ⟨d, hmem, hnamed⟩)
    · cases hnil
    · split at hnamed
      next htest =>
        cases hnamed
        simp only [Bool.and_eq_true, Bool.not_eq_true', decide_eq_true_eq] at htest
        exact ⟨htest.2, d, hmem, htest.1, rfl⟩
      · cases hnamed
  · rintro ⟨hnamed, d, hmem, hdocumented, rfl⟩
    exact .inr ⟨d, hmem, by simp [hdocumented, hnamed]⟩

/-- Texts that are kept when they are new are in the order in which they were met first. -/
theorem pairwise_foldl_addNew {α : Type} (named : α → Option String) (met : List α) :
    ((met.filterMap named).foldl TypeText.addNew []).Pairwise fun earlier later =>
      met.findIdx (named · = some earlier) < met.findIdx (named · = some later) := by
  induction met using List.reverseRecOn with
  | nil => exact .nil
  | append_singleton met last ih =>
      -- what was kept before was met before, and so it is found where it was
      have hkept : ∀ text ∈ (met.filterMap named).foldl TypeText.addNew [],
          met.findIdx (named · = some text) < met.length := by
        intro text hmem
        have hmet := (mem_foldl_addNew.1 hmem).resolve_left List.not_mem_nil
        obtain ⟨d, hd, hnamed⟩ := List.mem_filterMap.1 hmet
        exact List.findIdx_lt_length_of_exists ⟨d, hd, decide_eq_true hnamed⟩
      have hbefore := ih.imp_of_mem (S := fun earlier later =>
          (met ++ [last]).findIdx (named · = some earlier) <
            (met ++ [last]).findIdx (named · = some later)) fun {earlier later} he hl hlt => by
        rw [List.findIdx_append, List.findIdx_append, if_pos (hkept earlier he),
          if_pos (hkept later hl)]
        exact hlt
      rw [List.filterMap_append, List.foldl_append]
      cases hlast : named last with
      | none =>
          rw [List.filterMap_cons_none hlast]
          exact hbefore
      | some text =>
          rw [List.filterMap_cons_some hlast, List.filterMap_nil, List.foldl_cons, List.foldl_nil,
            TypeText.addNew]
          split
          case isTrue => exact hbefore
          case isFalse hnew =>
            refine List.pairwise_append.2 ⟨hbefore, List.pairwise_singleton _ text, ?_⟩
            intro earlier he later hl
            obtain rfl := List.mem_singleton.1 hl
            have hunmet : ¬ met.findIdx (named · = some later) < met.length := by
              rw [List.findIdx_lt_length]
              rintro ⟨d, hd, hnamed⟩
              exact hnew (mem_foldl_addNew.2
                (.inr (List.mem_filterMap.2 ⟨d, hd, of_decide_eq_true hnamed⟩)))
            rw [List.findIdx_append, List.findIdx_append, if_pos (hkept earlier he), if_neg hunmet]
            exact Nat.lt_add_left _ (hkept earlier he)

/-- Where a library is named first by a documented declaration. -/
def firstNaming (forest : Forest) (library : String) : Nat :=
  forest.walk.findIdx fun d => !d.isContainer && d.library = library

theorem pairwise_libraries (forest : Forest) :
    forest.libraries.Pairwise fun earlier later =>
      forest.firstNaming earlier < forest.firstNaming later := by
  refine List.Pairwise.imp_of_mem ?_ (pairwise_foldl_addNew _ forest.walk)
  have hfirst : ∀ library ∈ forest.libraries, forest.firstNaming library =
      forest.walk.findIdx fun d =>
        (if !d.isContainer && d.library ≠ "" then some d.library else none) = some library := by
    intro library hmem
    have hnamed := (mem_libraries.1 hmem).1
    unfold firstNaming
    congr 1
    funext d
    -- the library has a name, so a declaration that names it is not left out
    by_cases hd : d.library = library
    · simp [hd, hnamed]
    · simp [hd]
  intro earlier later he hl hlt
  rw [hfirst earlier he, hfirst later hl]
  exact hlt

/-! ## Methods -/

/-- The methods and constructors of a forest in the order of its walk. -/
def callables (forest : Forest) : List Method :=
  forest.walk.flatMap Declaration.callables

theorem method?_eq_some_iff {forest : Forest} {fullName : String} {method : Method} :
    forest.method? fullName = some method ↔
      ∃ before after, forest.callables = before ++ method :: after ∧ method.fullName = fullName ∧
        ∀ other ∈ before, other.fullName ≠ fullName := by
  rw [method?, ← List.find?_flatMap, ← callables, List.find?_eq_some_iff_append]
  constructor
  · rintro ⟨hname, before, after, hcallables, hothers⟩
    exact ⟨before, after, hcallables, of_decide_eq_true hname, by simpa using hothers⟩
  · rintro ⟨before, after, hcallables, hname, hothers⟩
    exact ⟨decide_eq_true hname, before, after, hcallables, by simpa using hothers⟩

/-! ## Walks, libraries and methods -/

/-- From the trees of any forest the walk with a stack ends, with the declarations by their
addresses, and the libraries and methods are those that this walk meets first. -/
theorem walk_unstacks (forest : Forest) :
    (∀ ds, Unstacks forest.trees.reverse ds ↔ ds = forest.walk) ∧
    forest.walk = forest.preorder ∧
    (forest.addresses.Pairwise (· < ·) ∧
      (∀ address, address ∈ forest.addresses ↔ (forest.at? address).isSome) ∧
      forest.walk.map some = forest.addresses.map forest.at?) ∧
    (forest.libraries.Nodup ∧
      (∀ library, library ∈ forest.libraries ↔
        library ≠ "" ∧ ∃ d ∈ forest.walk, d.isContainer = false ∧ d.library = library) ∧
      forest.libraries.Pairwise fun earlier later =>
        forest.firstNaming earlier < forest.firstNaming later) ∧
    ∀ fullName method, forest.method? fullName = some method ↔
      ∃ before after, forest.callables = before ++ method :: after ∧ method.fullName = fullName ∧
        ∀ other ∈ before, other.fullName ≠ fullName := by
  have hwalk : forest.walk = forest.preorder := walk_eq_preorder forest
  refine ⟨fun ds => ?_, hwalk, ⟨pairwise_addresses forest, fun _ => mem_addresses_iff, ?_⟩,
    ⟨nodup_libraries forest, fun _ => mem_libraries, pairwise_libraries forest⟩,
    fun _ _ => method?_eq_some_iff⟩
  · rw [unstacks_iff, pending_trees, hwalk]
  · rw [hwalk, map_at?_addresses]

end Forest
end Typings
