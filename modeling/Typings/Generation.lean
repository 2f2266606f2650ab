import Typings.Rendering.Definitions
import Typings.Rendering.Exports
import Typings.Retrieval.Fetch
import Typings.Tree.Outline

/-!
# Generating declaration files

A generation retrieves the documents of all configured namespaces for one version, builds and
reconciles one tree from them, and writes the definitions of every library and the exports.

* `Generation.retrieveAll`: every namespace is retrieved, also after a failure;
* `Generation.run`: the report of a generation, and the world afterwards.
-/

namespace Typings

/-! ## Reports -/

inductive GenerationIssue where
  | notRetrieved (space : String) (error : RetrievalError)
  | nothingConfigured
  | notWritten (path : FilePath) (error : FileError)
deriving DecidableEq, Repr

def GenerationIssue.message : GenerationIssue → String
  | .notRetrieved space error => s!"Error fetching {space}: {error.message}"
  | .nothingConfigured => "No namespaces configured"
  | .notWritten path error =>
      let name := path.toString
      s!"Error writing {name}: {error.message}"

/-- What a generation did. -/
structure GenerationReport where
  version : String
  libraries : List String := []
  symbols : Nat := 0
  classes : Nat := 0
  written : List FilePath := []
  issues : List GenerationIssue := []
deriving DecidableEq, Repr

def GenerationReport.succeeded (report : GenerationReport) : Bool :=
  report.issues.isEmpty

/-- Why a generation ends without a report. -/
inductive GenerationFailure where
  | unsupportedKind (error : UnsupportedKind)
  | file (failure : FileFailure)
deriving DecidableEq, Repr

def GenerationFailure.message : GenerationFailure → String
  | .unsupportedKind error => error.message
  | .file failure => failure.message

namespace Generation

/-! ## Retrieval -/

/-- Retrieve the documents of all namespaces in order, and collect what went wrong. -/
def retrieveAll (r : Retriever) (version : String) :
    List String → World → (List Document × List GenerationIssue) × World
  | [], world => (([], []), world)
  | space :: spaces, world =>
      let (result, world) := r.document space version world
      let ((documents, issues), world) := retrieveAll r version spaces world
      match result with
      | .ok document => ((document :: documents, issues), world)
      | .error error => ((documents, .notRetrieved space error :: issues), world)

/-! ## Writing -/

/-- The path of the definitions of a library. -/
def definitionsPath (config : Config) (version library : String) : FilePath :=
  ((FilePath.ofString config.output.definitionsPath).join (.ofString version)).join
    (.ofString (library ++ ".d.ts"))

/-- The path of the exports. -/
def exportsPath (config : Config) (version : String) : FilePath :=
  ((FilePath.ofString config.output.exportsPath).join (.ofString version)).join
    (.ofString "exports.d.ts")

/-- Make the directory of a file and write the file. -/
def placeFile (path : FilePath) (text : String) (store : FileStore) :
    Except FileFailure Unit × FileStore :=
  match store.makeDirectories path.parent with
  | (.error failure, made) => (.error failure, made)
  | (.ok (), made) => made.writeText path text

/-- Write a file and note in the report how it went. A refusal of the file system is an issue of
the report, while any other failure ends the generation. -/
def writeFile (path : FilePath) (text : String) (report : GenerationReport) (world : World) :
    Except GenerationFailure GenerationReport × World :=
  match placeFile path text world.store with
  | (.ok (), store) =>
      (.ok { report with written := report.written ++ [path] }, { world with store })
  | (.error (.refused error), store) =>
      (.ok { report with issues := report.issues ++ [.notWritten path error] },
        { world with store })
  | (.error failure, store) => (.error (.file failure), { world with store })

/-- Write the definitions of libraries in order. Each rendering leaves the forest to the next. -/
def writeDefinitions (config : Config) (version : String) :
    List String → Forest → GenerationReport → World →
      Except GenerationFailure (Forest × GenerationReport) × World
  | [], forest, report, world => (.ok (forest, report), world)
  | library :: libraries, forest, report, world =>
      match Definitions.text config (some library) forest with
      | .error error => (.error (.unsupportedKind error), world)
      | .ok text =>
          match writeFile (definitionsPath config version library) text report world with
          | (.error failure, world) => (.error failure, world)
          | (.ok report, world) =>
              writeDefinitions config version libraries
                (Definitions.after config (some library) forest) report world

/-- The report on a tree before its files are written. -/
def reportOn (tree : Tree) (version : String) : GenerationReport where
  version := version
  libraries := tree.forest.libraries
  symbols := tree.symbolCount
  classes := tree.hierarchy.classes.length

/-- Write the files of a reconciled tree. -/
def writeTree (tree : Tree) (version : String) (world : World) :
    Except GenerationFailure GenerationReport × World :=
  match writeDefinitions tree.config version tree.forest.libraries tree.forest
      (reportOn tree version) world with
  | (.error failure, world) => (.error failure, world)
  | (.ok (forest, report), world) =>
      writeFile (exportsPath tree.config version) (Exports.text tree.config none forest) report
        world

/-! ## Generations -/

/-- The world with the reports that building a tree makes. -/
def warnAll (warnings : List Warning) (world : World) : World :=
  { world with warnings := world.warnings ++ warnings }

/-- Generate the declaration files of a version. Nothing is written unless every document is
there. -/
def run (r : Retriever) (version : String) (world : World) :
    Except GenerationFailure GenerationReport × World :=
  let ((documents, issues), world) := retrieveAll r version r.config.input.namespaces world
  if !issues.isEmpty then (.ok { version, issues }, world)
  else if documents.isEmpty then (.ok { version, issues := [.nothingConfigured] }, world)
  else
    writeTree (Tree.ofDocuments r.config documents).reconcile version
      (warnAll (Tree.warnings r.config documents) world)

end Generation
end Typings
