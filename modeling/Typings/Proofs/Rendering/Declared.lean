import Typings.Proofs.Rendering.Pruning

/-!
# What definitions declare

A documented declaration of a library stands in the definitions of the library, in namespaces with
the names on its path. Type aliases are documented too, but nothing declares them.

* `Definitions.Declares`: lines with a declaration in namespaces inside each other;
* `Definitions.declaredIn_of_mem`: the definitions of a library declare its declarations;
* `Definitions.Ignores`, `Definitions.ignores_of_ne`: no other definitions depend on them.
-/

namespace Typings
namespace Definitions

variable {config : Config} {library : Option String} {d e : Declaration} {below forest : Forest}
  {level : Nat} {names lines inner front back : List String}

/-! ## Declarations in namespaces -/

/-- What stands in front of the keyword of a declaration. -/
def opening (level : Nat) : String :=
  if level = 0 then "declare " else ""

/-- Lines that declare something in namespaces inside each other: its comment, header and members,
with more behind the members when it is a namespace. -/
inductive Declares (config : Config) (d : Declaration) :
    Nat → List String → List String → Prop where
  | here {level : Nat} {members inner : List String} (front back : List String)
      (hmembers : memberLines config (level + 1) d = .ok members)
      (hinner : d.kind ≠ .nameSpace → inner = []) :
      Declares config d level [] (front ++
        (commentLines config.output.indentation level d.description ++
          braced config.output.indentation level (opening level ++ header d) (members ++ inner)) ++
        back)
  | inside {level : Nat} {names inner : List String} (name : String) (front back : List String)
      (hinside : Declares config d (level + 1) names inner) :
      Declares config d level (name :: names) (front ++
        braced config.output.indentation level (opening level ++ "namespace " ++ name) inner ++
        back)

theorem Declares.append (h : Declares config d level names lines) (front back : List String) :
    Declares config d level names (front ++ lines ++ back) := by
  cases h with
  | here before behind hmembers hinner =>
      have hhere := Declares.here (front ++ before) (behind ++ back) hmembers hinner
      simpa only [List.append_assoc] using hhere
  | inside name before behind hinside =>
      have hmore := Declares.inside name (front ++ before) (behind ++ back) hinside
      simpa only [List.append_assoc] using hmore

/-! ## Trees -/

/-- A declaration that is shown is declared by the lines of its tree. -/
theorem declares_of_owned (howned : owned library d = true) (hkind : d.kind ≠ .typeAlias)
    (hlines : treeLines config library level (opening level) d below inner = .ok lines) :
    Declares config d level [] lines := by
  rw [treeLines, howned, if_pos rfl] at hlines
  rcases d with ⟨fullName, ownLibrary, moduleName, description, body⟩
  cases body with
  | container => simp [owned, Declaration.isContainer] at howned
  | typeAlias => exact absurd rfl hkind
  | nameSpace members =>
      obtain ⟨shown, hshown, hresult⟩ := bind_eq_ok hlines
      cases hresult
      have hinner : Kind.nameSpace ≠ .nameSpace → inner = [] := fun hne => absurd rfl hne
      simpa using Declares.here [] [] hshown hinner
  | _ =>
      obtain ⟨shown, hshown, hresult⟩ := bind_eq_ok hlines
      cases hresult
      simpa using Declares.here [] _ hshown fun _ => rfl

/-- What the trees below a declaration declare is declared inside it. -/
theorem declares_of_below (hbelow : holdsAny library below = true)
    (hinner : Declares config e (level + 1) names inner)
    (hlines : treeLines config library level (opening level) d below inner = .ok lines) :
    Declares config e level (d.name :: names) lines := by
  -- each kind of declaration puts the namespace behind other lines of its own
  have hwrapper : ∀ front lines : List String, Declares config e (level + 1) names lines →
      Declares config e level (d.name :: names) (front ++
        braced config.output.indentation level (opening level ++ "namespace " ++ d.name) lines) := by
    intro front lines hlines
    simpa using Declares.inside d.name front [] hlines
  rw [treeLines, hbelow, if_pos rfl] at hlines
  cases howned : owned library d with
  | false =>
      rw [howned, if_neg Bool.false_ne_true, Except.ok.injEq] at hlines
      rw [← hlines]
      exact hwrapper [] inner hinner
  | true =>
      rw [howned, if_pos rfl] at hlines
      rcases d with ⟨fullName, ownLibrary, moduleName, description, body⟩
      cases body with
      | typeAlias =>
          cases hlines
          exact hwrapper [] inner hinner
      | nameSpace members =>
          -- a namespace is the wrapper itself, with its members in front
          obtain ⟨shown, -, hresult⟩ := bind_eq_ok hlines
          cases hresult
          have hmembers : Declares config e (level + 1) names (shown ++ inner) := by
            simpa using hinner.append shown []
          have hinside := hwrapper (commentLines config.output.indentation level description)
            (shown ++ inner) hmembers
          rwa [String.append_assoc] at hinside
      | _ =>
          obtain ⟨shown, -, hresult⟩ := bind_eq_ok hlines
          cases hresult
          exact hwrapper _ inner hinner

/-! ## Forests -/

theorem holdsAny_of_mem (howned : owned library d = true) (hmem : d ∈ forest.walk) :
    holdsAny library forest = true := by
  induction forest with
  | empty => simp at hmem
  | grow first below beside ihbelow ihbeside =>
      rw [Forest.walk_grow, List.mem_cons, List.mem_append] at hmem
      rw [holdsAny]
      rcases hmem with rfl | hbelow | hbeside
      · simp [howned]
      · simp [ihbelow hbelow]
      · simp [ihbeside hbeside]

/-- A path that starts at the root of a tree is declared by the lines of the tree. -/
theorem declares_of_tree {first : Declaration} {path : List Declaration} {tree : List String}
    (howned : owned library d = true) (hkind : d.kind ≠ .typeAlias) (hlast : d ∈ path.getLast?)
    (hpath : path = [first] ∨ ∃ further ∈ below.paths, first :: further = path)
    (hbelow : ∀ further ∈ below.paths, d ∈ further.getLast? →
      Declares config d (level + 1) (further.dropLast.map (·.name)) inner)
    (htree : treeLines config library level (opening level) first below inner = .ok tree) :
    holds library first below = true ∧
      Declares config d level (path.dropLast.map (·.name)) tree := by
  rcases hpath with rfl | ⟨further, hfurther, rfl⟩
  · obtain rfl : first = d := by simpa using hlast
    exact ⟨by simp [holds, howned], declares_of_owned howned hkind htree⟩
  · have hne := Forest.ne_nil_of_mem_paths hfurther
    rw [List.getLast?_cons_of_ne_nil hne] at hlast
    have hmem : d ∈ below.walk := by
      have hend := List.mem_map_of_mem hfurther (f := List.getLast?)
      rw [Forest.getLast?_paths, hlast] at hend
      simpa using hend
    have hholds : holdsAny library below = true := holdsAny_of_mem howned hmem
    refine ⟨by simp [holds, hholds], ?_⟩
    rw [List.dropLast_cons_of_ne_nil hne, List.map_cons]
    exact declares_of_below hholds (hbelow further hfurther hlast) htree

/-- A declaration that is shown is declared in the namespaces on its path. -/
theorem declares_of_forestLines {path : List Declaration} (howned : owned library d = true)
    (hkind : d.kind ≠ .typeAlias) (hlast : d ∈ path.getLast?) (hpath : path ∈ forest.paths)
    (hlines : forestLines config library (level + 1) forest = .ok lines) :
    Declares config d (level + 1) (path.dropLast.map (·.name)) lines := by
  -- the trees below are one level deeper, so the level varies in the induction
  induction forest generalizing path level lines with
  | empty => cases hpath
  | grow first below beside ihbelow ihbeside =>
      obtain ⟨inner, hinner, hmore⟩ := bind_eq_ok hlines
      obtain ⟨tree, htree, hmore⟩ := bind_eq_ok hmore
      obtain ⟨rest, hrest, hresult⟩ := bind_eq_ok hmore
      cases hresult
      rw [Forest.paths, List.mem_cons, List.mem_append, List.mem_map, ← or_assoc] at hpath
      rcases hpath with hpath | hbeside
      · obtain ⟨hholds, htree⟩ := declares_of_tree howned hkind hlast hpath
          (fun further hfurther hend => ihbelow hend hfurther hinner) htree
        rw [if_pos hholds]
        exact htree.append [] rest
      · have hrest := ihbeside hlast hbeside hrest
        simpa using hrest.append (if holds library first below then tree else []) []

theorem declares_of_rootLines {path : List Declaration} (howned : owned library d = true)
    (hkind : d.kind ≠ .typeAlias) (hlast : d ∈ path.getLast?) (hpath : path ∈ forest.paths)
    (hlines : rootLines config library forest = .ok lines) :
    Declares config d 0 (path.dropLast.map (·.name)) lines := by
  induction forest generalizing path lines with
  | empty => cases hpath
  | grow first below beside _ ihbeside =>
      obtain ⟨inner, hinner, hmore⟩ := bind_eq_ok hlines
      obtain ⟨tree, htree, hmore⟩ := bind_eq_ok hmore
      obtain ⟨rest, hrest, hresult⟩ := bind_eq_ok hmore
      cases hresult
      rw [Forest.paths, List.mem_cons, List.mem_append, List.mem_map, ← or_assoc] at hpath
      rcases hpath with hpath | hbeside
      · obtain ⟨hholds, htree⟩ := declares_of_tree howned hkind hlast hpath
          (fun further hfurther hend => declares_of_forestLines howned hkind hend hfurther hinner)
          htree
        rw [if_pos hholds]
        simpa using htree.append [] ([""] ++ rest)
      · have hrest := ihbeside hlast hbeside hrest
        simpa using hrest.append (if holds library first below then tree ++ [""] else []) []

/-! ## Texts -/

/-- A text with a declaration in the namespaces of its full name. -/
def DeclaredIn (config : Config) (d : Declaration) (text : String) : Prop :=
  ∃ names lines, ".".intercalate (names ++ [d.name]) = d.fullName ∧
    "\n".intercalate lines = text ∧ Declares config d 0 names lines

/-- The definitions of a library declare every declaration of it that is no type alias. -/
theorem declaredIn_of_mem {shown : String} (hnested : ∀ path ∈ forest.paths, Forest.Nested path)
    (hmem : d ∈ forest.walk) (howned : owned library d = true) (hkind : d.kind ≠ .typeAlias)
    (htext : text config library forest = .ok shown) : DeclaredIn config d shown := by
  have hend : some d ∈ forest.paths.map List.getLast? := by
    rw [Forest.getLast?_paths]
    exact List.mem_map_of_mem hmem
  obtain ⟨path, hpath, hlast⟩ := List.mem_map.1 hend
  obtain ⟨lines, hlines, hresult⟩ := bind_eq_ok htext
  cases hresult
  refine ⟨path.dropLast.map (·.name), lines, ?_, rfl,
    declares_of_rootLines howned hkind hlast hpath hlines⟩
  have hnames := (hnested path hpath).intercalate hlast
  rwa [← List.dropLast_append_getLast? d hlast, List.map_append] at hnames

/-- The definitions of a library do not depend on a declaration, apart from its full name. -/
def Ignores (config : Config) (forest : Forest) (library : String) (d : Declaration) : Prop :=
  ∀ e : Declaration, e.fullName = d.fullName → belongs library e = false →
    text config (some library) (forest.map fun other => if other = d then e else other) =
      text config (some library) forest

theorem ignores_of_ne {library : String} (hne : d.library ≠ library) :
    Ignores config forest library d := by
  intro e hname hbelongs
  refine text_map_of_sameTo ?_
  intro other _
  split
  case isTrue heq =>
    have hnot : belongs library other = false := by
      rw [heq, belongs, decide_eq_false hne, Bool.and_false]
    exact ⟨by rw [hname, heq], by rw [hbelongs, hnot], fun h => absurd (hnot ▸ h) (by decide)⟩
  case isFalse => exact ⟨rfl, rfl, fun _ => rfl⟩

end Definitions
end Typings
