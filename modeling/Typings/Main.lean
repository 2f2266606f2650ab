import Typings.CommandLine.Run

/-!
# The program

`main` loads the files that a run may read, carries the run out, writes the files that it changed
and ends with its exit code. The program has no connection to a server: documents come from the
files that are named and from the local cache.
-/

namespace Typings
namespace Program

/-! ## What a run depends on -/

/-- The environment variable of a setting. -/
def variableOf (name : String) : String :=
  "UI5TS_" ++ String.ofList (name.toList.map Char.toUpper)

/-- The file that the settings name as the configuration, when there are settings. -/
def configuredPath (environment : List (String × String)) (store : FileStore) : List String :=
  match Settings.read environment store with
  | .ok settings => [settings.configPath.toString]
  | .error _ => []

/-- The cached documents that a configuration in one of some files needs for a version. -/
def cachedPaths (store : FileStore) (names versions : List String) : List String :=
  names.flatMap fun name =>
    match Config.load store (.ofString name) with
    | .ok config =>
        let retriever : Retriever := { config, settings := {}, server := .scripted [] }
        (versions ++ config.input.versions).flatMap fun version =>
          config.input.namespaces.map fun space => (retriever.localPath space version).toString
    | .error _ => []

/-- The environment variables to which a file `.env` refers. -/
def referencedVariables (store : FileStore) : List String :=
  match store.readText ⟨.relative, [".env"]⟩ with
  | .ok text => EnvFile.referencedNames text
  | .error _ => []

/-- What a crash adds to the errors that a run printed. -/
def crashText : CommandLine.Ending → String
  | .crashed crash => crash.message ++ "\n"
  | _ => ""

/-- A text with the characters of a string from outside. -/
def entered (characters : String) : String :=
  String.ofList (Surrogate.hold characters.toList)

/-- The characters of a text as they are shown outside. -/
def shown (text : String) : String :=
  String.ofList (Surrogate.release text.toList)

/-- A server that cannot be reached. -/
def noServer : Server := fun _ _ => .transportFailure "No connection to a server"

/-! ## Files -/

/-- A store with the files of some names as far as they can be read. -/
def loadFiles (store : FileStore) : List String → IO FileStore
  | [] => return store
  | name :: names => do
      let store ←
        try
          let bytes ← IO.FS.readBinFile (shown name)
          let contents := Contents.ofBytes (bytes.toList.map UInt8.toNat)
          pure (store.withFile (.ofString name) contents)
        catch _ => pure store
      loadFiles store names

/-- Write changed files, with the directories above them. -/
def writeFiles : List (String × Contents) → IO Unit
  | [] => return ()
  | (name, .text text) :: files => do
      IO.FS.createDirAll (shown (FilePath.ofString name).parent.toString)
      IO.FS.writeFile (shown name) (shown text)
      writeFiles files
  | (_, .malformed _) :: files => writeFiles files

/-- Those of some environment variables that are set. -/
def readEnvironment : List String → IO (List (String × String))
  | [] => return []
  | name :: names => do
      let value ← IO.getEnv (shown name)
      let others ← readEnvironment names
      return (value.map fun characters => (name, entered characters)).toList ++ others

end Program
end Typings

open Typings in
/-- Run the program on its arguments. -/
def main (given : List String) : IO UInt32 := do
  let arguments := given.map Program.entered
  let named ← Program.loadFiles {} (".env" :: arguments)
  let environment ← Program.readEnvironment
    (Settings.names.map Program.variableOf ++ Program.referencedVariables named)
  let configs := Program.configuredPath environment named ++ arguments
  let configured ← Program.loadFiles named (Program.configuredPath environment named)
  let store ← Program.loadFiles configured (Program.cachedPaths configured configs arguments)
  let outcome := CommandLine.run arguments environment Program.noServer
    { store, clock := .ofWords }
  IO.print (Program.shown outcome.shell.output)
  IO.eprint (Program.shown (outcome.shell.errors ++ Program.crashText outcome.ending))
  Program.writeFiles (store.changedFiles outcome.shell.world.store)
  return UInt32.ofNat outcome.ending.code
