import Mathlib.Data.List.Count
import Typings.Proofs.Session.AtRest
import Typings.Proofs.Text.Joined
import Typings.Proofs.Tree.Levels

/-!
# Modules of exports

Every class and enumeration that carries a module is exported in a block of its own, which declares
the module and names the symbol as its default export. Symbols that share a module declare it again.

* `Exports.blocks`: the blocks of a forest in order;
* `Exports.blocks_perm`: one block for each documented symbol that has a module;
* `Exports.count_opening`: the lines of a text that declare a module;
* `Exports.Exported`: what the exports of documented symbols are, and how often they declare a
  module;
* `Exports.exported_ofDocuments`: the exports of reconciled documents, whatever was rendered before.
-/

namespace Typings

/-- The module of a documented class or enumeration, of a library or of any. -/
def LocatedSymbol.module? (library : Option String) (entry : LocatedSymbol) : Option String :=
  if (entry.symbol.content.kind = .classType ∨ entry.symbol.content.kind = .enumeration) ∧
      (library = none ∨ library = some entry.library) then
    entry.symbol.heading.moduleName.filter (· ≠ "")
  else none

namespace Exports

variable {config : Config} {library : Option String} {forest : Forest} {d : Declaration}
  {written : List Block}

/-! ## Blocks -/

/-- A declared module with its default export. -/
structure Block where
  moduleName : String
  fullName : String
deriving DecidableEq

def Block.lines (config : Config) (block : Block) : List String :=
  moduleLines config block.moduleName block.fullName

/-- The block of a declaration. -/
def block? (library : Option String) (d : Declaration) : Option Block :=
  if shows library d then (moduleOf? d).map fun moduleName => ⟨moduleName, d.fullName⟩ else none

/-- The block of a documented symbol. -/
def documentedBlock? (library : Option String) (entry : LocatedSymbol) : Option Block :=
  (entry.module? library).map fun moduleName => ⟨moduleName, entry.symbol.heading.name⟩

/-- The blocks of a forest, in the order of its declarations. -/
def blocks (library : Option String) (forest : Forest) : List Block :=
  forest.walk.filterMap (block? library)

theorem lines_eq_flatMap (config : Config) (library : Option String) (forest : Forest) :
    lines config library forest = (blocks library forest).flatMap (Block.lines config) := by
  rw [lines, blocks, List.filterMap_eq_flatMap_toList, List.flatMap_assoc]
  refine List.flatMap_congr fun d _ => ?_
  rw [block?]
  cases moduleOf? d <;> cases shows library d <;> simp [Block.lines]

theorem block?_withMethodsFrom (h : Hierarchy) (d : Declaration) :
    block? library (d.withMethodsFrom h) = block? library d := by
  -- settling replaces the methods of a class, which no block shows
  rw [Declaration.withMethodsFrom]
  split
  next hbody =>
    split
    · simp [block?, shows, moduleOf?, Declaration.kind, Body.kind, hbody]
    · rfl
  · rfl

theorem block?_of_isContainer (h : d.isContainer = true) : block? library d = none := by
  have hkind : d.kind = .nameSpace := by
    rw [Declaration.kind, of_decide_eq_true h]
    rfl
  have hnone : moduleOf? d = none := if_neg (by simp [hkind])
  rw [block?, hnone]
  split <;> rfl

theorem block?_ofSymbol (replacements : Config.Replacements) (entry : LocatedSymbol) :
    block? library (Declaration.ofSymbol replacements entry.library entry.symbol) =
      documentedBlock? library entry := by
  have hkind : (Declaration.ofSymbol replacements entry.library entry.symbol).kind =
      entry.symbol.content.kind := by
    rw [Declaration.kind, Declaration.ofSymbol, Declaration.bodyOf]
    cases entry.symbol.content <;> rfl
  have hshows :
      shows library (Declaration.ofSymbol replacements entry.library entry.symbol) = true ↔
        library = none ∨ library = some entry.library := by
    rw [shows, Bool.or_eq_true, Option.isNone_iff_eq_none, decide_eq_true_iff]
    rfl
  rw [block?, documentedBlock?, LocatedSymbol.module?, moduleOf?, hkind]
  simp only [hshows, and_comm (b := library = none ∨ library = some entry.library), ite_and]
  split
  · rfl
  · rfl

theorem blocks_reconcile (tree : Tree) :
    blocks library tree.reconcile.forest = blocks library tree.forest := by
  rw [blocks, Tree.reconcile, Forest.walk_map, List.filterMap_map, blocks]
  exact List.filterMap_congr fun d _ => block?_withMethodsFrom _ d

/-- The blocks of a reconciled tree are those of the documented symbols that count. -/
theorem blocks_perm (config : Config) (documents : List Document) (library : Option String) :
    (blocks library (Tree.ofDocuments config documents).reconcile.forest).Perm
      ((Outline.counted config documents).filterMap (documentedBlock? library)) := by
  have hwalk := (Tree.hung_ofDocuments config documents).walk.filterMap (block? library)
  -- the containers, which come behind the declared symbols, have no module
  have hcontainers : ∀ (names : List String) (ds : List Declaration),
      (Outline.created names ds).filterMap (block? library) = [] := by
    intro names ds
    rw [List.filterMap_eq_nil_iff]
    exact fun d hd => block?_of_isContainer (decide_eq_true (Outline.body_of_mem_created hd))
  rw [List.filterMap_append, hcontainers, List.append_nil, Outline.documented,
    Outline.kept_eq_counted, List.filterMap_map] at hwalk
  rw [blocks_reconcile]
  exact hwalk.trans (.of_eq (List.filterMap_congr fun entry _ => block?_ofSymbol _ entry))

/-! ## Lines -/

/-- The line that declares a module. -/
def opening (moduleName : String) : String :=
  "declare module \"" ++ moduleName ++ "\" \x7b"

theorem toList_opening (moduleName : String) :
    (opening moduleName).toList =
      "declare module \"".toList ++ moduleName.toList ++ ['"', ' ', '\x7b'] := by
  delta opening
  rw [String.toList_append, String.toList_append]
  rfl

theorem opening_inj {one other : String} : opening one = opening other ↔ one = other := by
  rw [← String.toList_inj, toList_opening, toList_opening, List.append_left_inj,
    List.append_right_inj, String.toList_inj]

/-- Of the lines of a block, the first one declares its module, and no other declares one. -/
theorem count_opening_lines (config : Config) (block : Block) (moduleName : String) :
    (block.lines config).count (opening moduleName) =
      if block.moduleName = moduleName then 1 else 0 := by
  have hdefault : config.output.indentation ++ "export default " ++ block.fullName ++ ";" ≠
      opening moduleName := by
    -- one ends in a semicolon, the other in a bracket, whatever the names are
    intro h
    have hlast := congrArg (fun line => line.toList.getLast?) h
    simp only [toList_opening, String.toList_append, List.getLast?_append] at hlast
    cases hlast
  have hclosing : "\x7d" ≠ opening moduleName := by
    intro h
    have hfirst := congrArg (fun line => line.toList.head?) h
    simp [toList_opening] at hfirst
  have hempty : "" ≠ opening moduleName := by
    intro h
    have hfirst := congrArg (fun line => line.toList.head?) h
    simp [toList_opening] at hfirst
  rw [Block.lines, moduleLines]
  change [opening block.moduleName, _, _, _].count (opening moduleName) = _
  simp only [List.count_cons, List.count_nil, beq_iff_eq, hdefault, hclosing, hempty, opening_inj,
    if_false, Nat.zero_add, Nat.add_zero]

/-- With names and an indentation that hold no line feed, the lines of the text are those of its
blocks. -/
theorem splitOn_intercalate_lines (hindent : '\n' ∉ config.output.indentation.toList)
    (hnames : ∀ block ∈ written, '\n' ∉ block.moduleName.toList ∧ '\n' ∉ block.fullName.toList)
    (hne : written ≠ []) :
    ("\n".intercalate (written.flatMap (Block.lines config))).toList.splitOn '\n' =
      (written.flatMap (Block.lines config)).map String.toList := by
  have hfree : ∀ line ∈ written.flatMap (Block.lines config), '\n' ∉ line.toList := by
    intro line hline
    obtain ⟨block, hblock, hmem⟩ := List.mem_flatMap.1 hline
    obtain ⟨hmodule, hname⟩ := hnames block hblock
    simp only [Block.lines, moduleLines, List.mem_cons, List.not_mem_nil, or_false] at hmem
    rcases hmem with rfl | rfl | rfl | rfl
    · simp [hmodule]
    · simp [hindent, hname]
    · decide
    · decide
  have hlines : written.flatMap (Block.lines config) ≠ [] := by
    obtain ⟨block, rest, rfl⟩ := List.exists_cons_of_ne_nil hne
    simp [Block.lines, moduleLines]
  exact Text.splitOn_intercalate rfl hlines hfree

theorem count_opening_flatMap (config : Config) (written : List Block) (moduleName : String) :
    (written.flatMap (Block.lines config)).count (opening moduleName) =
      (written.map (·.moduleName)).count moduleName := by
  induction written with
  | nil => rfl
  | cons block rest ih =>
      rw [List.flatMap_cons, List.count_append, count_opening_lines, ih, List.map_cons,
        List.count_cons, Nat.add_comm]
      simp only [beq_iff_eq]

/-- A text declares a module in as many lines as it has blocks for it. -/
theorem count_opening (hindent : '\n' ∉ config.output.indentation.toList)
    (hnames : ∀ block ∈ written, '\n' ∉ block.moduleName.toList ∧ '\n' ∉ block.fullName.toList)
    (moduleName : String) :
    (("\n".intercalate (written.flatMap (Block.lines config))).toList.splitOn '\n').count
        (opening moduleName).toList =
      (written.map (·.moduleName)).count moduleName := by
  by_cases hne : written = []
  · subst hne
    simp [toList_opening]
  · rw [splitOn_intercalate_lines hindent hnames hne,
      List.count_map_of_injective _ _ fun _ _ => String.toList_injective,
        count_opening_flatMap]

/-! ## Exports of documents -/

/-- The exports of symbols, all of them or those of a library, which write some blocks. -/
structure Exported (config : Config) (library : Option String) (symbols : List LocatedSymbol)
    (written : List Block) (text : String) : Prop where
  /-- The text consists of the blocks. -/
  joined : text = "\n".intercalate (written.flatMap (Block.lines config))
  /-- There is one block for each symbol that has a module. -/
  documented : written.Perm (symbols.filterMap (documentedBlock? library))
  /-- No two blocks export the same symbol. -/
  distinct : (written.map (·.fullName)).Nodup
  /-- A module is declared as often as symbols have it, -/
  count : ∀ moduleName, (written.map (·.moduleName)).count moduleName =
    symbols.countP (·.module? library = some moduleName)
  /-- so that each is declared at most once if and only if no two symbols have the same one. -/
  once : (∀ moduleName, (written.map (·.moduleName)).count moduleName ≤ 1) ↔
    (symbols.filterMap (·.module? library)).Nodup
  /-- As long as names and the indentation hold no line feed, the same goes for the lines. -/
  lines : '\n' ∉ config.output.indentation.toList →
    (∀ block ∈ written, '\n' ∉ block.moduleName.toList ∧ '\n' ∉ block.fullName.toList) →
    ∀ moduleName, (text.toList.splitOn '\n').count (opening moduleName).toList =
      symbols.countP (·.module? library = some moduleName)

theorem modules_documented (library : Option String) (symbols : List LocatedSymbol) :
    (symbols.filterMap (documentedBlock? library)).map (·.moduleName) =
      symbols.filterMap (·.module? library) := by
  rw [List.map_filterMap]
  refine List.filterMap_congr fun entry _ => ?_
  rw [documentedBlock?, Option.map_map]
  exact Option.map_id'

theorem names_documented_sublist (library : Option String) (symbols : List LocatedSymbol) :
    ((symbols.filterMap (documentedBlock? library)).map (·.fullName)).Sublist
      (symbols.map (·.symbol.heading.name)) := by
  induction symbols with
  | nil => exact List.Sublist.refl _
  | cons entry rest ih =>
      rw [List.filterMap_cons, documentedBlock?]
      cases entry.module? library with
      | none => exact ih.cons _
      | some moduleName => exact ih.cons_cons _

theorem exported_of_perm {symbols : List LocatedSymbol}
    (hwritten : written.Perm (symbols.filterMap (documentedBlock? library)))
    (hnames : (symbols.map (·.symbol.heading.name)).Nodup) :
    Exported config library symbols written
      ("\n".intercalate (written.flatMap (Block.lines config))) := by
  have hmodules : (written.map (·.moduleName)).Perm (symbols.filterMap (·.module? library)) :=
    (hwritten.map _).trans (.of_eq (modules_documented library symbols))
  have hcount : ∀ moduleName, (written.map (·.moduleName)).count moduleName =
      symbols.countP (·.module? library = some moduleName) := by
    intro moduleName
    rw [hmodules.count_eq, List.count_filterMap]
    exact List.countP_congr fun entry _ => by rw [beq_iff_eq, decide_eq_true_iff]
  exact
    { joined := rfl
      documented := hwritten
      distinct := (hwritten.map _).nodup_iff.2 (hnames.sublist (names_documented_sublist _ _))
      count := hcount
      once := List.nodup_iff_count_le_one.symm.trans hmodules.nodup_iff
      lines := fun hindent hlines moduleName =>
        (count_opening hindent hlines moduleName).trans (hcount moduleName) }

/-- The exports of a reconciled session write one block for each class and enumeration of the
documents that has a module, in the order of the tree, whatever was rendered before. -/
theorem exported_ofDocuments (config : Config) (documents : List Document)
    (operations : List Session.Operation) (library : Option String) :
    let tree := (Tree.ofDocuments config documents).reconcile
    ∃ text, ((Session.reconciled tree).afterAll operations).exports library = .ok text ∧
      Exported config library (Outline.counted config documents) (blocks library tree.forest)
        text := by
  intro tree
  refine ⟨"\n".intercalate ((blocks library tree.forest).flatMap (Block.lines config)), ?_, ?_⟩
  · rw [Session.exports_afterAll, ← lines_eq_flatMap]
    rfl
  · refine exported_of_perm (blocks_perm config documents library) ?_
    rw [← Outline.kept_eq_counted]
    exact Outline.names_kept config documents

/-- A library with two classes of one module. -/
def sharedModule : Document where
  library := "x"
  version := "1"
  symbols := ["A", "B"].map fun name =>
    { heading :=
        { name := name, basename := name, visibility := .isPublic, moduleName := some "m"
          resource := none, description := "" }
      content := .classType none [] false none { methods := [], properties := [], events := [] } }

/-- Two classes of one module declare it twice, each with itself as the default export. -/
theorem module_declared_twice :
    let session := Session.reconciled (Tree.ofDocuments {} [sharedModule]).reconcile
    session.exports none = .ok ("\n".intercalate
      ["declare module \"m\" \x7b", "    export default A;", "\x7d", "",
        "declare module \"m\" \x7b", "    export default B;", "\x7d", ""]) ∧
    ¬ ∀ text, session.exports none = .ok text →
      ∀ moduleName, (text.toList.splitOn '\n').count (opening moduleName).toList ≤ 1 := by
  intro session
  have htext : session.exports none = .ok ("\n".intercalate
      ["declare module \"m\" \x7b", "    export default A;", "\x7d", "",
        "declare module \"m\" \x7b", "    export default B;", "\x7d", ""]) := by
    decide +kernel
  refine ⟨htext, fun hall => ?_⟩
  have honce := hall _ htext "m"
  revert honce
  decide +kernel

end Exports
end Typings
