import Typings.Proofs.Generation.Files
import Typings.Proofs.Tree.Levels
import Typings.Proofs.Tree.Preorder
import Typings.Proofs.Tree.Reconciled

/-!
# What a generation declares

A generation that succeeds writes the definitions of every library that a documented declaration
names. A document that names no library is not shown in any of them, although its symbols count and
are exported.

* `Generation.run_succeeded`: a run without issues has written the tree of its documents;
* `Generation.DeclaredOnce`: a declaration in the definitions of its own library and no others;
* `Generation.declaredOnce_iff_library_ne_empty`: what a run declares.
-/

namespace Typings
namespace Generation

variable {r : Retriever} {version : String} {world after : World} {report : GenerationReport}
  {tree : Tree} {d : Declaration} {definitions : List (String × String)}

/-! ## Runs -/

/-- A run without issues has every document and has written their tree. -/
theorem run_succeeded (h : run r version world = (.ok report, after))
    (hsucceeded : report.succeeded = true) :
    ∃ documents between,
      retrieveAll r version r.config.input.namespaces world = ((documents, []), between) ∧
      writeTree (Tree.ofDocuments r.config documents).reconcile version
        (warnAll (Tree.warnings r.config documents) between) = (.ok report, after) := by
  rcases hretrieved : retrieveAll r version r.config.input.namespaces world with
    ⟨⟨documents, issues⟩, between⟩
  simp only [run, hretrieved] at h
  rw [GenerationReport.succeeded, List.isEmpty_iff] at hsucceeded
  split at h
  next hissues =>
    cases h
    exact absurd hsucceeded (by simpa using hissues)
  next hissues =>
    split at h
    · cases h
      cases hsucceeded
    · refine ⟨documents, between, ?_, h⟩
      have hnone : issues = [] := by simpa using hissues
      rw [hnone]

/-- What a run has done that has written a tree: the definitions of every library of the tree, and
the exports, with no file lost but to a later one at its place. -/
structure Wrote (tree : Tree) (version : String) (definitions : List (String × String))
    (report : GenerationReport) (after : World) : Prop where
  libraries : report.libraries = tree.forest.libraries
  listed : definitions.map (·.1) = tree.forest.libraries
  texts : ∀ entry ∈ definitions,
    Definitions.text tree.config (some entry.1) tree.forest = .ok entry.2
  written : report.written = (filesOf tree version definitions).map (·.1)
  stands : ∀ file ∈ filesOf tree version definitions,
    Stands (filesOf tree version definitions) file →
      after.store.readContents file.1 = .ok (.text file.2)
  symbols : report.symbols = (tree.forest.walk.filter fun d => !d.isContainer).length

/-- A declaration is in the definitions of its own library, and no others depend on it. -/
structure DeclaredOnce (tree : Tree) (definitions : List (String × String)) (d : Declaration) :
    Prop where
  declared : ∃ text, (d.library, text) ∈ definitions ∧
    Definitions.DeclaredIn tree.config d text
  alone : ∀ entry ∈ definitions, entry.1 ≠ d.library →
    Definitions.Ignores tree.config tree.forest entry.1 d

theorem wrote_of_writeTree (h : writeTree tree version world = (.ok report, after))
    (hsucceeded : report.succeeded = true) :
    ∃ definitions, Wrote tree version definitions report after := by
  have hissues : report.issues = [] := List.isEmpty_iff.1 hsucceeded
  obtain ⟨definitions, hdefinitions, hplaced, hreport⟩ :=
    writeTree_succeeded (Forest.nodup_libraries tree.forest) h hissues
  obtain ⟨hlibraries, htexts⟩ := definitionsOf_eq_ok hdefinitions
  refine ⟨definitions, ?_, hlibraries, htexts, ?_, fun file _ => hplaced.readContents, ?_⟩
  · rw [hreport]
    rfl
  · rw [hreport]
  · rw [hreport, ← List.countP_eq_length_filter]
    rfl

/-- A declaration that is no type alias is declared when its library has a name. -/
theorem Wrote.declaredOnce_iff (h : Wrote tree version definitions report after)
    (hnested : ∀ path ∈ tree.forest.paths, Forest.Nested path) (hmem : d ∈ tree.forest.walk)
    (hdocumented : d.isContainer = false) (hkind : d.kind ≠ .typeAlias) :
    DeclaredOnce tree definitions d ↔ d.library ≠ "" := by
  constructor
  · rintro ⟨⟨text, hentry, -⟩, -⟩
    have hlisted : d.library ∈ tree.forest.libraries := by
      rw [← h.listed]
      exact List.mem_map_of_mem hentry
    exact (Forest.mem_libraries.1 hlisted).1
  · intro hnamed
    have hlisted : d.library ∈ tree.forest.libraries :=
      Forest.mem_libraries.2 ⟨hnamed, d, hmem, hdocumented, rfl⟩
    rw [← h.listed] at hlisted
    obtain ⟨⟨library, text⟩, hentry, rfl⟩ := List.mem_map.1 hlisted
    have howned : Definitions.owned (some d.library) d = true := by
      simp [Definitions.owned, hdocumented]
    refine ⟨⟨text, hentry, ?_⟩, ?_⟩
    · exact Definitions.declaredIn_of_mem hnested hmem howned hkind (h.texts _ hentry)
    · intro entry _ hne
      exact Definitions.ignores_of_ne hne.symm

/-- What is exported is documented and no type alias. -/
theorem documented_of_moduleOf? (h : (Exports.moduleOf? d).isSome = true) :
    d.isContainer = false ∧ d.kind ≠ .typeAlias := by
  have hkind : d.kind = .classType ∨ d.kind = .enumeration := by
    by_contra hother
    rw [Exports.moduleOf?, if_neg hother] at h
    cases h
  refine ⟨decide_eq_false ?_, ?_⟩
  · intro hbody
    rw [Declaration.kind, hbody] at hkind
    exact absurd hkind (by decide)
  · intro halias
    rw [halias] at hkind
    exact absurd hkind (by decide)

/-- A run without issues has declared every documented declaration that is no type alias once,
unless its document names no library. What it counts and what it exports are such declarations, type
aliases among what it counts apart. -/
theorem declaredOnce_iff_library_ne_empty (h : run r version world = (.ok report, after))
    (hsucceeded : report.succeeded = true) :
    ∃ documents definitions,
      (retrieveAll r version r.config.input.namespaces world).1 = (documents, []) ∧
      Wrote (Tree.ofDocuments r.config documents).reconcile version definitions report after ∧
      ∀ d ∈ (Tree.ofDocuments r.config documents).reconcile.forest.walk,
        ((Exports.moduleOf? d).isSome = true → d.isContainer = false ∧ d.kind ≠ .typeAlias) ∧
        (d.isContainer = false → d.kind ≠ .typeAlias →
          (DeclaredOnce (Tree.ofDocuments r.config documents).reconcile definitions d ↔
            d.library ≠ "")) := by
  obtain ⟨documents, between, hretrieved, hwritten⟩ := run_succeeded h hsucceeded
  obtain ⟨definitions, hwrote⟩ := wrote_of_writeTree hwritten hsucceeded
  -- reconciling changes methods only, so the paths are still those of the full names
  have hnested : ∀ path ∈ (Tree.ofDocuments r.config documents).reconcile.forest.paths,
      Forest.Nested path :=
    ((Tree.hung_ofDocuments r.config documents).map
      (Tree.fullName_withMethodsFrom _)).nested
  refine ⟨documents, definitions, ?_, hwrote, ?_⟩
  · rw [hretrieved]
  · intro d hmem
    exact ⟨documented_of_moduleOf?, hwrote.declaredOnce_iff hnested hmem⟩

/-! ## A class with and without a library -/

/-- The text of a document with one class. -/
def classText (library : String) : String :=
  "\x7b" ++ library ++ "\"symbols\": [\x7b\"name\": \"A\", \"basename\": \"A\", " ++
    "\"kind\": \"class\", \"module\": \"m\"\x7d]\x7d"

/-- One namespace, for which the server has a text. -/
def serving (text : String) : Retriever where
  config := { input := { namespaces := ["x"] } }
  settings := {}
  server := fun _ _ => .response 200 text

/-- The report on the generation for a document with one class. -/
def classReport (libraries : List String) : GenerationReport where
  version := "1"
  libraries := libraries
  symbols := 1
  classes := 1
  written := libraries.map (definitionsPath {} "1") ++ [exportsPath {} "1"]

/-- A server with one class in a library. -/
def namedClass : Retriever :=
  serving (classText "\"library\": \"sap.a\", ")

/-- A server with one class in no library. -/
def unnamedClass : Retriever :=
  serving (classText "")

theorem declaredOnce_iff_named_class :
    run namedClass "1" {} = (.ok (classReport ["sap.a"]), (run namedClass "1" {}).2) ∧
      ∃ documents definitions,
        (retrieveAll namedClass "1" namedClass.config.input.namespaces {}).1 = (documents, []) ∧
        Wrote (Tree.ofDocuments namedClass.config documents).reconcile "1" definitions
          (classReport ["sap.a"]) (run namedClass "1" {}).2 ∧
        ∀ d ∈ (Tree.ofDocuments namedClass.config documents).reconcile.forest.walk,
          ((Exports.moduleOf? d).isSome = true → d.isContainer = false ∧ d.kind ≠ .typeAlias) ∧
          (d.isContainer = false → d.kind ≠ .typeAlias →
            (DeclaredOnce (Tree.ofDocuments namedClass.config documents).reconcile definitions d ↔
              d.library ≠ "")) := by
  have hreport : (run namedClass "1" {}).1 = .ok (classReport ["sap.a"]) := by
    decide +kernel
  have hrun : run namedClass "1" {} =
      (.ok (classReport ["sap.a"]), (run namedClass "1" {}).2) := by
    rw [← hreport]
  have hsucceeded : (classReport ["sap.a"]).succeeded = true := rfl
  exact ⟨hrun, declaredOnce_iff_library_ne_empty hrun hsucceeded⟩

/-- A run that succeeds for a class without a library counts the class and exports it, and the
exports are the only file that it leaves. -/
theorem unnamed_class_lost :
    (run unnamedClass "1" {}).1 = .ok (classReport []) ∧ (classReport []).succeeded = true ∧
      (classReport []).classes = 1 ∧ (classReport []).libraries = [] ∧
      (run unnamedClass "1" {}).2.store.files = [("exports/1/exports.d.ts",
        .text "declare module \"m\" \x7b\n    export default A;\n\x7d\n")] := by
  refine ⟨?_, rfl, rfl, rfl, ?_⟩
  · decide +kernel
  · decide +kernel

end Generation
end Typings
