import Typings.Proofs.Generation.Declared
import Typings.Proofs.Generation.Order
import Typings.Proofs.Retrieval.Effects
import Typings.Proofs.Session.Refusals

/-!
# The two phases of a generation

A generation first calls for every document, and then it writes files. When a call fails, no file is
written. When none does, every file is tried, and the report tells of each one how it went.

* `Generation.calls`, `Generation.retrieveAll_eq_calls`: one call for each namespace;
* `Generation.sameFilesApart_calls`: calls change no files but their own;
* `Generation.placeAll`, `Generation.writeAll_of_answered`: one attempt for each file;
* `Generation.run_all_or_nothing`: what a generation reports and leaves behind.
-/

namespace Typings
namespace Generation

variable {r : Retriever} {version : String} {spaces : List String} {world : World}
  {files : List (FilePath × String)} {report : GenerationReport} {store : FileStore}

/-! ## The calls -/

/-- Call for the document of each namespace in order, whatever comes of the calls before. -/
def calls (r : Retriever) (version : String) :
    List String → World → List (String × Except RetrievalError Document) × World
  | [], world => ([], world)
  | space :: spaces, world =>
      let (result, between) := r.document space version world
      let (others, after) := calls r version spaces between
      ((space, result) :: others, after)

/-- The document of a call, if it delivered one. -/
def delivered? : String × Except RetrievalError Document → Option Document
  | (_, .ok document) => some document
  | (_, .error _) => none

/-- The issue of a call, if it failed. -/
def failed? : String × Except RetrievalError Document → Option GenerationIssue
  | (_, .ok _) => none
  | (space, .error error) => some (.notRetrieved space error)

/-- What is retrieved is told by the calls. -/
theorem retrieveAll_eq_calls (r : Retriever) (version : String) (spaces : List String)
    (world : World) :
    retrieveAll r version spaces world =
      (((calls r version spaces world).1.filterMap delivered?,
        (calls r version spaces world).1.filterMap failed?), (calls r version spaces world).2) := by
  induction spaces generalizing world with
  | nil => rfl
  | cons space spaces ih =>
      -- the later calls are made in the world that this one leaves, whatever came of it
      rcases hcall : r.document space version world with ⟨error | document, between⟩
      · simp only [retrieveAll, calls, hcall, ih between, List.filterMap_cons, delivered?, failed?]
      · simp only [retrieveAll, calls, hcall, ih between, List.filterMap_cons, delivered?, failed?]

/-- Every namespace is called for once, in order. -/
theorem spaces_calls (r : Retriever) (version : String) (spaces : List String) (world : World) :
    (calls r version spaces world).1.map (·.1) = spaces := by
  induction spaces generalizing world with
  | nil => rfl
  | cons space spaces ih =>
      rw [calls, List.map_cons, ih]

/-- The places of the files of the calls. -/
def cachePlaces (r : Retriever) (version : String) (spaces : List String) : List Place :=
  spaces.map fun space => (r.localPath space version).place

theorem sameFilesApart_calls (r : Retriever) (version : String) (spaces : List String)
    (world : World) :
    world.store.SameFilesApart (cachePlaces r version spaces)
      (calls r version spaces world).2.store := by
  induction spaces generalizing world with
  | nil => exact (FileStore.SameFiles.refl world.store).apart _
  | cons space spaces ih =>
      -- the first call changes at most its own file, and the later ones change theirs
      have hown : [(r.localPath space version).place] ⊆ cachePlaces r version (space :: spaces) :=
        List.cons_subset.2 ⟨List.mem_cons_self, List.nil_subset _⟩
      have hothers : cachePlaces r version spaces ⊆ cachePlaces r version (space :: spaces) :=
        List.subset_cons_self _ _
      have hfirst := Retriever.sameFilesApart_document r space version world
      have hrest := ih (r.document space version world).2
      rw [calls]
      exact (hfirst.mono hown).trans (hrest.mono hothers)

/-- Without the cache the calls change no file at all. -/
theorem store_calls (hoff : r.config.storage.runLocal = false) (version : String)
    (spaces : List String) (world : World) :
    (calls r version spaces world).2.store = world.store := by
  induction spaces generalizing world with
  | nil => rfl
  | cons space spaces ih =>
      rw [calls]
      refine (ih _).trans ?_
      rw [Retriever.document_of_uncached hoff]
      exact Retriever.store_fromServer r space version world

variable {asked : List (String × Except RetrievalError Document)}

theorem isEmpty_failed (h : ∃ call ∈ asked, ∃ error, call.2 = .error error) :
    (asked.filterMap failed?).isEmpty = false := by
  obtain ⟨⟨space, result⟩, hmem, error, herror⟩ := h
  have hissue : .notRetrieved space error ∈ asked.filterMap failed? := by
    refine List.mem_filterMap.2 ⟨(space, result), hmem, ?_⟩
    rw [show result = .error error from herror, failed?]
  exact List.isEmpty_eq_false_iff_exists_mem.2 ⟨_, hissue⟩

theorem failed_eq_nil (h : ∀ call ∈ asked, ∃ document, call.2 = .ok document) :
    asked.filterMap failed? = [] := by
  refine List.filterMap_eq_nil_iff.2 fun call hmem => ?_
  obtain ⟨document, hdocument⟩ := h call hmem
  rcases call with ⟨space, result⟩
  rw [show result = .ok document from hdocument, failed?]

theorem isEmpty_delivered (hsome : asked ≠ [])
    (h : ∀ call ∈ asked, ∃ document, call.2 = .ok document) :
    (asked.filterMap delivered?).isEmpty = false := by
  obtain ⟨⟨space, result⟩, hmem⟩ := List.exists_mem_of_ne_nil asked hsome
  obtain ⟨document, hdocument⟩ := h _ hmem
  refine List.isEmpty_eq_false_iff_exists_mem.2 ⟨document, ?_⟩
  refine List.mem_filterMap.2 ⟨(space, result), hmem, ?_⟩
  rw [show result = .ok document from hdocument, delivered?]

/-! ## The files -/

/-- Place files one after the other, whatever comes of those before. -/
def placeAll : List (FilePath × String) → FileStore →
    List (FilePath × Except FileFailure Unit) × FileStore
  | [], store => ([], store)
  | (path, text) :: files, store =>
      let (result, between) := placeFile path text store
      let (others, after) := placeAll files between
      ((path, result) :: others, after)

/-- The file system took the file or refused it. -/
def Answered (result : Except FileFailure Unit) : Prop :=
  result = .ok () ∨ ∃ error, result = .error (.refused error)

/-- The path of a file that was placed. -/
def written? : FilePath × Except FileFailure Unit → Option FilePath
  | (path, .ok ()) => some path
  | (_, .error _) => none

/-- The issue of a file that was refused. -/
def unwritten? : FilePath × Except FileFailure Unit → Option GenerationIssue
  | (_, .ok ()) => none
  | (path, .error (.refused error)) => some (.notWritten path error)
  | (_, .error _) => none

variable {outcomes : List (FilePath × Except FileFailure Unit)}

/-- A report with how it went with more files. -/
def noting (report : GenerationReport) (outcomes : List (FilePath × Except FileFailure Unit)) :
    GenerationReport :=
  { report with
    written := report.written ++ outcomes.filterMap written?
    issues := report.issues ++ outcomes.filterMap unwritten? }

theorem noting_nil (report : GenerationReport) : noting report [] = report := by
  simp [noting]

theorem noting_append (report : GenerationReport)
    (front back : List (FilePath × Except FileFailure Unit)) :
    noting report (front ++ back) = noting (noting report front) back := by
  simp [noting, List.filterMap_append, List.append_assoc]

/-- Every file is tried once, in order. -/
theorem paths_placeAll (files : List (FilePath × String)) (store : FileStore) :
    (placeAll files store).1.map (·.1) = files.map (·.1) := by
  induction files generalizing store with
  | nil => rfl
  | cons file files ih =>
      rw [placeAll, List.map_cons, List.map_cons, ih]

/-- A file that is answered is noted in the report, and the generation goes on. -/
theorem writeFile_of_answered {path : FilePath} {text : String}
    {result : Except FileFailure Unit} {after : FileStore}
    (hplace : placeFile path text world.store = (result, after)) (h : Answered result) :
    writeFile path text report world =
      (.ok (noting report [(path, result)]), { world with store := after }) := by
  rw [writeFile, hplace]
  rcases h with rfl | ⟨error, rfl⟩
  · simp [noting, written?, unwritten?]
  · simp [noting, written?, unwritten?]

/-- When every file is answered, they are all tried, and all of them are noted in the report. -/
theorem writeAll_of_answered (report : GenerationReport)
    (h : ∀ outcome ∈ (placeAll files world.store).1, Answered outcome.2) :
    writeAll files report world =
      (.ok (noting report (placeAll files world.store).1),
        { world with store := (placeAll files world.store).2 }) := by
  induction files generalizing report world with
  | nil =>
      have hnone : noting report [] = report := noting_nil report
      rw [placeAll, hnone]
      rfl
  | cons file files ih =>
      rcases file with ⟨path, text⟩
      rcases hplace : placeFile path text world.store with ⟨result, between⟩
      have htried : placeAll ((path, text) :: files) world.store =
          ((path, result) :: (placeAll files between).1, (placeAll files between).2) := by
        rw [placeAll, hplace]
      -- the later files are tried in the store that this one leaves
      rw [htried] at h ⊢
      obtain ⟨hfirst, hothers⟩ := List.forall_mem_cons.1 h
      calc writeAll ((path, text) :: files) report world
          = writeAll files (noting report [(path, result)]) { world with store := between } := by
            rw [writeAll, writeFile_of_answered hplace hfirst]
        _ = (.ok (noting (noting report [(path, result)]) (placeAll files between).1),
              { world with store := (placeAll files between).2 }) :=
            @ih { world with store := between } (noting report [(path, result)]) hothers
        _ = (.ok (noting report ((path, result) :: (placeAll files between).1)),
              { world with store := (placeAll files between).2 }) := by
            rw [← noting_append, List.singleton_append]

/-- Among answered files there is no issue when each one was taken, and in no other case. -/
theorem unwritten_eq_nil_iff (h : ∀ outcome ∈ outcomes, Answered outcome.2) :
    outcomes.filterMap unwritten? = [] ↔ ∀ outcome ∈ outcomes, outcome.2 = .ok () := by
  rw [List.filterMap_eq_nil_iff]
  constructor
  · rintro hnone ⟨path, result⟩ hmem
    rcases h _ hmem with hok | ⟨error, hrefused⟩
    · exact hok
    · have hissue := hnone _ hmem
      rw [show result = .error (.refused error) from hrefused, unwritten?] at hissue
      cases hissue
  · rintro hall ⟨path, result⟩ hmem
    rw [show result = .ok () from hall _ hmem, unwritten?]

/-! ## Generations -/

/-- A failed call is all that a generation reports, and nothing comes after the calls. -/
theorem run_of_failed
    (h : ∃ call ∈ (calls r version r.config.input.namespaces world).1, ∃ error,
      call.2 = .error error) :
    run r version world =
      (.ok { version, issues :=
          (calls r version r.config.input.namespaces world).1.filterMap failed? },
        (calls r version r.config.input.namespaces world).2) := by
  have hissues := isEmpty_failed h
  simp only [run, retrieveAll_eq_calls, hissues, Bool.not_false, if_true]

/-- With every document there, their tree is written. -/
theorem run_of_delivered (hsome : r.config.input.namespaces ≠ [])
    (h : ∀ call ∈ (calls r version r.config.input.namespaces world).1, ∃ document,
      call.2 = .ok document) :
    run r version world =
      let asked := calls r version r.config.input.namespaces world
      let documents := asked.1.filterMap delivered?
      writeTree (Tree.ofDocuments r.config documents).reconcile version
        (warnAll (Tree.warnings r.config documents) asked.2) := by
  -- a namespace was called for, so there is a document
  have hcalled : (calls r version r.config.input.namespaces world).1 ≠ [] := by
    intro hnil
    have hspaces := spaces_calls r version r.config.input.namespaces world
    rw [hnil] at hspaces
    exact hsome hspaces.symm
  have hissues := failed_eq_nil h
  have hdocuments := isEmpty_delivered hcalled h
  simp only [run, retrieveAll_eq_calls, hissues, hdocuments, List.isEmpty_nil, Bool.not_true,
    Bool.false_eq_true, if_false]

theorem definitionsOf_of_forall {config : Config} {forest : Forest} {libraries : List String}
    {shown : String → String}
    (h : ∀ library, Definitions.text config (some library) forest = .ok (shown library)) :
    definitionsOf config forest libraries =
      .ok (libraries.map fun library => (library, shown library)) := by
  induction libraries with
  | nil => rfl
  | cons library rest ih =>
      rw [definitionsOf, h library, ih]
      rfl

/-- The tree of any documents is written as the files of its definitions. -/
theorem writeTree_eq_writeAll (config : Config) (documents : List Document) :
    let tree := (Tree.ofDocuments config documents).reconcile
    ∃ definitions,
      definitionsOf tree.config tree.forest tree.forest.libraries = .ok definitions ∧
      ∀ version world, writeTree tree version world =
        writeAll (filesOf tree version definitions) (reportOn tree version) world := by
  intro tree
  have hrendered : ∀ library, Succeeds (Definitions.text tree.config (some library) tree.forest) :=
    fun library => Definitions.succeeds_text _ _ (Tree.declarable_reconcile config documents)
  choose shown hshown using hrendered
  refine ⟨tree.forest.libraries.map fun library => (library, shown library),
    definitionsOf_of_forall hshown, ?_⟩
  intro version world
  rw [writeTree_eq_writeTreeIn]
  exact writeTreeIn_eq_writeAll (Forest.nodup_libraries tree.forest)
    (fun library _ => hshown library) version world

/-- The files of a tree are one for each library and the exports. -/
theorem paths_filesOf {tree : Tree} {definitions : List (String × String)}
    (h : definitionsOf tree.config tree.forest tree.forest.libraries = .ok definitions)
    (version : String) :
    (filesOf tree version definitions).map (·.1) =
      tree.forest.libraries.map (definitionsPath tree.config version) ++
        [exportsPath tree.config version] := by
  rw [← (definitionsOf_eq_ok h).1, filesOf, definitionsFiles]
  simp [Function.comp_def]

/-- A generation calls for every document, in order and also after failures, and the calls change
no files but those of the cache. If one fails, the report has an issue for each that did and nothing
else, and nothing is done after the calls. If none does, the definitions of every library and the
exports are each tried once, in order. As long as the file system takes or refuses each of them, the
report has every one of them in what was written or in the issues, and the generation succeeds just
when all of them were taken. -/
theorem run_all_or_nothing (r : Retriever) (version : String) (world : World) :
    let asked := calls r version r.config.input.namespaces world
    asked.1.map (·.1) = r.config.input.namespaces ∧
    world.store.SameFilesApart (cachePlaces r version r.config.input.namespaces)
      asked.2.store ∧
    (r.config.storage.runLocal = false → asked.2.store = world.store) ∧
    ((∃ call ∈ asked.1, ∃ error, call.2 = .error error) →
      run r version world = (.ok
        { version
          libraries := []
          symbols := 0
          classes := 0
          written := []
          issues := asked.1.filterMap failed? }, asked.2)) ∧
    (r.config.input.namespaces ≠ [] → (∀ call ∈ asked.1, ∃ document, call.2 = .ok document) →
      let documents := asked.1.filterMap delivered?
      let tree := (Tree.ofDocuments r.config documents).reconcile
      ∃ definitions,
        definitionsOf r.config tree.forest tree.forest.libraries = .ok definitions ∧
        let placed := placeAll (filesOf tree version definitions) asked.2.store
        placed.1.map (·.1) =
          tree.forest.libraries.map (definitionsPath r.config version) ++
            [exportsPath r.config version] ∧
        ((∀ outcome ∈ placed.1, Answered outcome.2) →
          let report : GenerationReport :=
            { version
              libraries := tree.forest.libraries
              symbols := tree.symbolCount
              classes := tree.hierarchy.classes.length
              written := placed.1.filterMap written?
              issues := placed.1.filterMap unwritten? }
          run r version world = (.ok report,
            { warnAll (Tree.warnings r.config documents) asked.2 with store := placed.2 }) ∧
          (report.succeeded = true ↔ ∀ outcome ∈ placed.1, outcome.2 = .ok ()))) := by
  intro asked
  -- the calls first, then what follows from a failed one, then what follows from none
  refine ⟨?_, ?_, ?_, ?_, ?_⟩
  · exact spaces_calls r version r.config.input.namespaces world
  · exact sameFilesApart_calls r version r.config.input.namespaces world
  · intro hoff
    exact store_calls hoff version r.config.input.namespaces world
  · intro hfailed
    exact run_of_failed hfailed
  · intro hsome hdelivered documents tree
    obtain ⟨definitions, hdefinitions, hwrites⟩ := writeTree_eq_writeAll r.config documents
    refine ⟨definitions, hdefinitions, ?_⟩
    intro placed
    refine ⟨?_, ?_⟩
    · calc placed.1.map (·.1)
          = (filesOf tree version definitions).map (·.1) := paths_placeAll _ asked.2.store
        _ = _ := paths_filesOf hdefinitions version
    · intro hanswered report
      have hrun : run r version world =
          writeTree tree version (warnAll (Tree.warnings r.config documents) asked.2) :=
        run_of_delivered hsome hdelivered
      have hreport : writeAll (filesOf tree version definitions) (reportOn tree version)
          (warnAll (Tree.warnings r.config documents) asked.2) = (.ok report, _) :=
        writeAll_of_answered (reportOn tree version) hanswered
      refine ⟨?_, ?_⟩
      · rw [hrun, hwrites, hreport]
        rfl
      · rw [GenerationReport.succeeded, List.isEmpty_iff]
        exact unwritten_eq_nil_iff hanswered

/-! ## A missing document and a refused file -/

/-- Two namespaces, of which the server has one. -/
def halfServing : Retriever where
  config := { input := { namespaces := ["x", "y"] } }
  settings := {}
  server := fun number _ =>
    if number = 0 then .response 404 "" else .response 200 (classText "")

/-- A file stands where the directory of the exports would be. -/
def refusingExports : World where
  store := { entries := [(["work", "exports"], .file (.text ""))] }

/-- The report on the class of a library whose exports are refused. -/
def refusedReport : GenerationReport :=
  { classReport ["sap.a"] with
    written := [definitionsPath {} "1" "sap.a"]
    issues := [.notWritten (exportsPath {} "1") ⟨.notDirectory, .ofString "exports/1"⟩] }

/-- Why there is no document of the first namespace. -/
def notFound : RetrievalError :=
  .unavailable "https://openui5.hana.ondemand.com/1/test-resources/x/designtime/api.json"
    (.answer "404 - Not Found")

/-- The definitions of the class in a library. -/
def classDefinitions : List (String × String) :=
  [("sap.a", "declare class A \x7b\n\x7d\n")]

/-- The file system takes the definitions and refuses the exports. -/
def refusedOutcomes : List (FilePath × Except FileFailure Unit) :=
  [(definitionsPath {} "1" "sap.a", .ok ()),
    (exportsPath {} "1", .error (.refused ⟨.notDirectory, .ofString "exports/1"⟩))]

/-- One document is missing, and the other one is asked for all the same. One file is refused, and
the other one is written. -/
theorem run_all_or_nothing_refused :
    run halfServing "1" {} =
        (.ok { version := "1", issues := [.notRetrieved "x" notFound] },
          (calls halfServing "1" ["x", "y"] {}).2) ∧
      (run namedClass "1" refusingExports).1 = .ok refusedReport ∧
      refusedReport.succeeded = false := by
  obtain ⟨-, -, -, hmissing, -⟩ := run_all_or_nothing halfServing "1" {}
  obtain ⟨-, -, -, -, hwrites⟩ := run_all_or_nothing namedClass "1" refusingExports
  have hfailed : ("x", .error notFound) ∈ (calls halfServing "1" ["x", "y"] {}).1 := by
    decide +kernel
  have hissues : (calls halfServing "1" ["x", "y"] {}).1.filterMap failed? =
      [.notRetrieved "x" notFound] := by
    decide +kernel
  have hdelivered : ∀ call ∈ (calls namedClass "1" ["x"] refusingExports).1, ∃ document,
      call.2 = .ok document := by
    have hall : (calls namedClass "1" ["x"] refusingExports).1.all (·.2.isOk) = true := by
      decide +kernel
    rintro ⟨space, result⟩ hmem
    have hok : result.isOk = true := List.all_eq_true.1 hall _ hmem
    cases result with
    | ok document => exact ⟨document, rfl⟩
    | error _ => cases hok
  obtain ⟨definitions, hdefinitions, -, hreport⟩ := hwrites (List.cons_ne_nil _ _) hdelivered
  have hclass : definitions = classDefinitions := by
    refine Except.ok.inj (hdefinitions.symm.trans ?_)
    decide +kernel
  subst hclass
  have hplaced : (placeAll (filesOf (Tree.ofDocuments namedClass.config
      ((calls namedClass "1" ["x"] refusingExports).1.filterMap delivered?)).reconcile "1"
      classDefinitions) (calls namedClass "1" ["x"] refusingExports).2.store).1 =
        refusedOutcomes := by
    decide +kernel
  have hanswered : ∀ outcome ∈ refusedOutcomes, Answered outcome.2 := by
    simp [refusedOutcomes, Answered]
  rw [← hplaced] at hanswered
  obtain ⟨hrun, -⟩ := hreport hanswered
  refine ⟨?_, ?_, rfl⟩
  · rw [← hissues]
    exact hmissing ⟨_, hfailed, notFound, rfl⟩
  · refine (congrArg Prod.fst hrun).trans ?_
    decide +kernel

end Generation
end Typings
