import Typings.CommandLine.Arguments
import Typings.Config.Load
import Typings.Console.Escape
import Typings.Console.Markup
import Typings.Generation
import Typings.Session

/-!
# Running commands

* `CommandLine.run`: a run of the program on its arguments, its environment, a server and a world;
* `CommandLine.Outcome`: how it ended and what it printed, with the world afterwards.

A run reads the settings, then the configuration, then the document. What it prints goes through
the console, except for rendered text.
-/

namespace Typings
namespace CommandLine

/-! ## Endings -/

/-- Why a run broke off without a message of its own. -/
inductive Crash where
  | settings (issues : List Issue)
  | unknownLevel (level : String)
  | file (failure : FileFailure)
  | excess (excess : Json.Excess)
  | markup (error : Console.MarkupError)
  /-- A console text that has no UTF-8 form. -/
  | consoleText (fault : Surrogate.Fault)
  /-- Another text that has no UTF-8 form. -/
  | plainText (fault : Surrogate.Fault)
deriving DecidableEq, Repr

def Crash.message : Crash → String
  | .settings issues => Issue.summary issues
  | .unknownLevel level => "Unknown level: " ++ Text.quoted level
  | .file failure => failure.message
  | .excess reason => reason.message
  | .markup error => error.message
  | .consoleText fault =>
      fault.message ++
        "\n*** You may need to add PYTHONIOENCODING=utf-8 to your environment ***"
  | .plainText fault => fault.message

inductive Ending where
  | done
  | failed
  | misused
  | crashed (crash : Crash)
deriving DecidableEq, Repr

/-- The exit code of an ending. -/
def Ending.code : Ending → Nat
  | .done => 0
  | .failed | .crashed _ => 1
  | .misused => 2

/-- What was printed so far, and the world. -/
structure Shell where
  output : String := ""
  errors : String := ""
  world : World := {}
deriving DecidableEq

structure Outcome where
  ending : Ending
  shell : Shell
deriving DecidableEq

/-- A step of a run; it may end the run early. -/
abbrev Step := ExceptT Ending (StateM Shell)

/-! ## Printing -/

/-- A console text as it is printed, with a line end. -/
def consoleLine (text : String) : Step String :=
  match Console.plain text with
  | .ok printed => return printed ++ "\n"
  | .error error => throw (.crashed (.markup error))

/-- Print a console text. -/
def say (text : String) : Step Unit := do
  let line ← consoleLine text
  match Surrogate.fault? line with
  | some fault => throw (.crashed (.consoleText fault))
  | none => modify fun shell => { shell with output := shell.output ++ line }

/-- Print a console text as an error. What has no UTF-8 form is escaped. -/
def complain (text : String) : Step Unit := do
  let line ← consoleLine text
  modify fun shell => { shell with errors := shell.errors ++ Surrogate.escaped line }

/-- Print a text as it is but for escape sequences. A line ends in LF alone. -/
def print (text : String) : Step Unit := do
  let line := String.ofList (Console.withoutSequences (text ++ "\n").toList)
  match Surrogate.fault? line with
  | some fault => throw (.crashed (.plainText fault))
  | none =>
      modify fun shell =>
        { shell with output := shell.output ++ Text.replaceAll "\r\n" "\n" line }

/-- Print an error and, when there are some, its details. -/
def complainOf (message details : String) : Step Unit := do
  complain ("[red]Error:[/red] " ++ message)
  if details ≠ "" then complain ("  " ++ details)

/-- Print an error and end the run. -/
def fail {α : Type} (message : String) : Step α := do
  complainOf message ""
  throw .failed

/-! ## Settings and configuration -/

def readSettings (environment : List (String × String)) : Step Settings := do
  let shell ← get
  match Settings.read environment shell.world.store with
  | .ok settings => return settings
  | .error (.offSchema issues) => throw (.crashed (.settings issues))
  | .error (.undecodable fault) => throw (.crashed (.file (.undecodable fault)))

/-- Check the log level of a run that does not log everything. -/
def checkLevel (environment : List (String × String)) (verbose : Bool) : Step Unit := do
  if !verbose then
    let settings ← readSettings environment
    if !Settings.levelNames.contains settings.level then
      throw (.crashed (.unknownLevel settings.level))

/-- Load the configuration at a path. -/
def loadConfig (path : FilePath) : Step Config := do
  let shell ← get
  match Config.load shell.world.store path with
  | .ok config => return config
  | .error (.refused error) =>
      complainOf error.message error.details
      throw .failed
  | .error (.file failure) => throw (.crashed (.file failure))
  | .error (.excess excess) => throw (.crashed (.excess excess))

/-- The configuration of a run: the one that is asked for, else the one that the settings name
when it is there, else the default one. -/
def findConfig (environment : List (String × String)) : Option String → Step Config
  | some path => loadConfig (.ofString path)
  | none => do
      let settings ← readSettings environment
      let shell ← get
      match shell.world.store.pathExists settings.configPath with
      | .error error => throw (.crashed (.file (.refused error)))
      | .ok true => loadConfig settings.configPath
      | .ok false => return {}

/-! ## Documents -/

/-- The names of a path below the working directory after taking each `..` back. -/
def resolve (path : FilePath) : Place :=
  path.parts.foldl (fun place name => if name = ".." then place.dropLast else place ++ [name])
    (if path.anchor = .relative then FileStore.workingDirectory else [])

/-- A place as a path: relative to the working directory when it lies below it. -/
def pathOfPlace (place : Place) : FilePath :=
  match place with
  | top :: rest =>
      if [top] = FileStore.workingDirectory then ⟨.relative, rest⟩ else ⟨.root, place⟩
  | [] => ⟨.root, []⟩

/-- The path of a document that has to be a file. -/
def documentPath (argument : String) : Step FilePath := do
  let shell ← get
  let path := pathOfPlace (resolve (.ofString argument))
  match shell.world.store.find? path with
  | some (.file _) => return path
  | _ => throw .misused

def readDocument (path : FilePath) : Step Document := do
  let shell ← get
  match shell.world.store.readText path with
  | .error failure => throw (.crashed (.file failure))
  | .ok text =>
      match Document.parse text with
      | .ok document => return document
      | .error (.excess excess) => throw (.crashed (.excess excess))
      | .error (.malformed error) =>
          complainOf (error.message ++ " in " ++ path.toString) error.details
          throw .failed

/-! ## Commands -/

/-- The reconciled session of one document. -/
def sessionOf (config : Config) (document : Document) : Session :=
  .reconciled (Tree.ofDocuments config [document]).reconcile

def render (environment : List (String × String)) (path : FilePath)
    (config library : Option String) (exports : Bool) : Step Unit := do
  let config ← findConfig environment config
  let document ← readDocument path
  let session := sessionOf config document
  match if exports then session.exports library else session.definitions library with
  | .ok text => print text
  | .error error => fail error.message

def overloads (environment : List (String × String)) (path : FilePath) (method : String)
    (config : Option String) : Step Unit := do
  let config ← findConfig environment config
  let document ← readDocument path
  match (sessionOf config document).emit method with
  | .error error => fail error.message
  | .ok none => fail ("Method not found: " ++ method)
  | .ok (some []) => say ("[yellow]Method is filtered by configuration:[/yellow] " ++ method)
  | .ok (some blocks) => do
      say ("[blue]" ++ toString blocks.length ++ " overload(s) for:[/blue] " ++ method)
      print ("\n\n".intercalate blocks)

/-- Print the report on one version. -/
def sayReport (report : GenerationReport) : Step Unit := do
  if report.succeeded then
    say "[green]✓[/green] Generation completed successfully"
    say ("  Libraries: " ++ ", ".intercalate report.libraries)
    say ("  Symbols: " ++ toString report.symbols)
    say ("  Classes: " ++ toString report.classes)
    report.written.forM fun path => say ("  Wrote: " ++ path.toString)
  else
    complain ("[red]Error:[/red] Generation of " ++ report.version ++ " failed")
    report.issues.forM fun issue => complain ("  - " ++ issue.message)

/-- Generate one version and print the report on it; the result says whether it succeeded. -/
def generateVersion (r : Retriever) (version : String) : Step Bool := do
  say ("[blue]Generating version:[/blue] " ++ version)
  let shell ← get
  let (result, world) := Generation.run r version shell.world
  set { shell with world }
  match result with
  | .error (.unsupportedKind error) => fail error.message
  | .error (.file failure) => throw (.crashed (.file failure))
  | .ok report =>
      sayReport report
      return report.succeeded

/-- Generate versions in order, also after one that failed; the result says whether all
succeeded. -/
def generateVersions (r : Retriever) : List String → Step Bool
  | [] => return true
  | version :: versions => do
      let succeeded ← generateVersion r version
      let others ← generateVersions r versions
      return succeeded && others

/-- Close the client of a run, however the run ended. -/
def closing {α : Type} (step : Step α) : Step α :=
  fun shell =>
    let (result, shell) := step shell
    (result, { shell with world := shell.world.disconnect })

def generate (environment : List (String × String)) (server : Server) (versions : List String)
    (config : Option String) : Step Unit := do
  let config ← findConfig environment config
  let selected := if versions.isEmpty then config.input.versions else versions
  if selected.isEmpty then fail "No version given and none configured"
  let settings ← readSettings environment
  let succeeded ← closing (generateVersions { config, settings, server } selected)
  if !succeeded then throw .failed

/-! ## Runs -/

/-- Read the arguments of a command and carry it out. -/
def perform (environment : List (String × String)) (server : Server) (arguments : Arguments) :
    Step Unit := do
  checkLevel environment arguments.verbose
  match Command.ofArguments arguments.command arguments.rest with
  | .error .usage => throw .misused
  | .error .help => return
  | .ok (.generate versions config) => generate environment server versions config
  | .ok (.render document config library exports) => do
      let path ← documentPath document
      render environment path config library exports
  | .ok (.overloads document method config) => do
      let path ← documentPath document
      overloads environment path method config

/-- Run the program. -/
def run (arguments : List String) (environment : List (String × String)) (server : Server)
    (world : World) : Outcome :=
  match Arguments.split arguments with
  | .error .usage => { ending := .misused, shell := { world } }
  | .error .help => { ending := .done, shell := { world } }
  | .ok arguments =>
      match (perform environment server arguments).run { world } with
      | (.ok (), shell) => { ending := .done, shell }
      | (.error ending, shell) => { ending, shell }

end CommandLine
end Typings
