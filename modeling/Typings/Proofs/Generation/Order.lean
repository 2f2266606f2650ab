import Typings.Proofs.Generation.Files
import Typings.Proofs.Session.Operations

/-!
# The order of libraries

Rendering one library does not disturb another: the definitions of a library are the same whatever
was rendered for other ones before. So a generation writes files that are given in advance, in any
order of its libraries.

* `Session.Operation.Spares`: operations that render other libraries, or exports;
* `Session.definitions_of_spares`: the definitions of a library after such operations;
* `Generation.writeAll`, `Generation.writeTreeIn`: given files written one after the other, and a
  tree with its libraries in a given order;
* `Generation.writeTreeIn_eq_writeAll`: the files that are written in some order.
-/

namespace Typings

/-! ## Operations on other libraries -/

namespace Session

/-- The operation renders the definitions of some other library, or makes exports, or only looks
something up. -/
def Operation.Spares (library : String) : Operation → Prop
  | .definitions (some other) => other ≠ library
  | .exports _ | .find _ => True
  | .definitions none | .emit _ | .emitAt _ _ => False

variable {library : String} {operation : Operation} {operations : List Operation} {tree : Tree}
  {forest : Forest} {d : Declaration}

/-- Operations on other libraries emit no method of this one. -/
theorem Operation.emits_of_spares (hspares : operation.Spares library)
    (howned : Definitions.owned (some library) d = true) (place : Nat) :
    operation.emits forest d place = false := by
  rw [Definitions.owned_some, Definitions.belongs, Bool.and_eq_true, decide_eq_true_eq] at howned
  cases operation with
  | definitions shown =>
      cases shown with
      | none => cases hspares
      | some other =>
          have hne : d.library ≠ other := fun heq => hspares (heq.symm.trans howned.2)
          rw [emits, Definitions.owned_some, Definitions.belongs, decide_eq_false hne,
            Bool.and_false]
  | exports _ | find _ => rfl
  | emit _ | emitAt _ _ => cases hspares

/-- The definitions of a library are the same after operations on others. -/
theorem definitions_of_spares (hspares : ∀ operation ∈ operations, operation.Spares library) :
    ((reconciled tree).afterAll operations).definitions (some library) =
      (reconciled tree).definitions (some library) := by
  rw [afterAll_reconciled]
  refine congrArg (Except.mapError SessionError.unsupportedKind) ?_
  refine Definitions.text_map_of_sameTo fun d _ => ⟨rfl, ?_, fun hbelongs => ?_⟩
  · rw [← Definitions.owned_some, Declaration.owned_emitted, Definitions.owned_some]
  · -- no method of the library was emitted
    rw [← Definitions.owned_some] at hbelongs
    refine Declaration.emitted_of_never (fun place => ?_) tree.config d
    refine List.countP_eq_zero.2 fun operation hmem => ?_
    rw [Operation.emits_of_spares (hspares operation hmem) hbelongs place]
    exact Bool.false_ne_true

end Session

/-! ## Files in order -/

namespace Generation

variable {config : Config} {version : String} {shown : String → String}
  {files : List (FilePath × String)} {report written : GenerationReport} {world after : World}

/-- Write given files one after the other. -/
def writeAll : List (FilePath × String) → GenerationReport → World →
    Except GenerationFailure GenerationReport × World
  | [], report, world => (.ok report, world)
  | (path, text) :: files, report, world =>
      match writeFile path text report world with
      | (.error failure, world) => (.error failure, world)
      | (.ok report, world) => writeAll files report world

/-- Write the files of a tree, with its libraries in a given order. -/
def writeTreeIn (order : List String) (tree : Tree) (version : String) (world : World) :
    Except GenerationFailure GenerationReport × World :=
  match writeDefinitions tree.config version order tree.forest (reportOn tree version) world with
  | (.error failure, world) => (.error failure, world)
  | (.ok (forest, report), world) =>
      writeFile (exportsPath tree.config version) (Exports.text tree.config none forest) report
        world

/-- A generation takes the libraries in the order of their first appearance. -/
theorem writeTree_eq_writeTreeIn (tree : Tree) (version : String) (world : World) :
    writeTree tree version world = writeTreeIn tree.forest.libraries tree version world := rfl

theorem writeAll_singleton (path : FilePath) (text : String) (report : GenerationReport)
    (world : World) : writeAll [(path, text)] report world = writeFile path text report world := by
  rw [writeAll]
  rcases writeFile path text report world with ⟨failure | written, after⟩ <;> rfl

theorem definitionsFiles_cons (library text : String) (definitions : List (String × String)) :
    definitionsFiles config version ((library, text) :: definitions) =
      (definitionsPath config version library, text) ::
        definitionsFiles config version definitions := rfl

/-- Definitions that are written in order, and a file behind them. -/
theorem writeDefinitions_eq_writeAll {order : List String} {forest : Forest} (hnodup : order.Nodup)
    (hshown : ∀ library ∈ order, Definitions.text config (some library) forest =
      .ok (shown library)) (path : FilePath) (report : GenerationReport) (world : World) :
    (match writeDefinitions config version order forest report world with
      | (.error failure, world) => (.error failure, world)
      | (.ok (forest, report), world) =>
          writeFile path (Exports.text config none forest) report world) =
      writeAll
        (definitionsFiles config version (order.map fun library => (library, shown library)) ++
          [(path, Exports.text config none forest)]) report world := by
  induction order generalizing forest report world with
  | nil =>
      have hnone : writeDefinitions config version [] forest report world =
          (.ok (forest, report), world) := rfl
      rw [hnone, List.map_nil, definitionsFiles, List.map_nil, List.nil_append,
        writeAll_singleton]
  | cons library rest ih =>
      obtain ⟨hnot, hrest⟩ := List.nodup_cons.1 hnodup
      obtain ⟨hfirst, hothers⟩ := List.forall_mem_cons.1 hshown
      -- the forest that the first library leaves shows what it showed before
      have hafter : ∀ other ∈ rest, Definitions.text config (some other)
          (Definitions.after config (some library) forest) = .ok (shown other) := by
        intro other hother
        rw [Definitions.text_after_of_ne (ne_of_mem_of_not_mem hother hnot)]
        exact hothers other hother
      have hmore := fun report world => ih hrest hafter report world
      simp only [Exports.text_after] at hmore
      rw [writeDefinitions_cons]
      simp only [hfirst]
      rw [List.map_cons, definitionsFiles_cons, List.cons_append, writeAll]
      rcases writeFile (definitionsPath config version library) (shown library) report world with
        ⟨failure | first, between⟩
      · rfl
      · exact hmore first between

/-- With its libraries in some order, a tree is written as the files that are given by their
definitions alone. -/
theorem writeTreeIn_eq_writeAll {order : List String} {tree : Tree} (hnodup : order.Nodup)
    (hshown : ∀ library ∈ order, Definitions.text tree.config (some library) tree.forest =
      .ok (shown library)) (version : String) (world : World) :
    writeTreeIn order tree version world =
      writeAll (filesOf tree version (order.map fun library => (library, shown library)))
        (reportOn tree version) world :=
  writeDefinitions_eq_writeAll hnodup hshown (exportsPath tree.config version)
    (reportOn tree version) world

/-- Files that are written without an issue are placed in order. -/
theorem writeAll_succeeded (h : writeAll files report world = (.ok written, after))
    (hissues : written.issues = []) :
    PlacedAll files world.store after.store ∧
      written = { report with written := report.written ++ files.map (·.1) } := by
  induction files generalizing report world with
  | nil =>
      cases h
      exact ⟨.nil, by simp⟩
  | cons file rest ih =>
      rcases file with ⟨path, text⟩
      rw [writeAll] at h
      rcases hfirst : writeFile path text report world with ⟨failure | first, between⟩
      · rw [hfirst] at h
        cases h
      · rw [hfirst] at h
        obtain ⟨hplaced, hwritten⟩ := ih h
        -- issues are only ever added, so there was none after the first file either
        have hfirstIssues : first.issues = [] := by
          rw [hwritten] at hissues
          exact hissues
        obtain ⟨hfile, hreport⟩ := writeFile_succeeded hfirst hfirstIssues
        refine ⟨.cons hfile hplaced, ?_⟩
        rw [hwritten, hreport]
        simp

end Generation
end Typings
