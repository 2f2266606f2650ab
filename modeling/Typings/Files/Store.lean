import Typings.Files.Path
import Typings.Files.Utf8
import Typings.Text.Pieces
import Typings.Text.Quoted
import Typings.Text.Surrogate

/-!
# File stores

A file store is a tree of directories and files. A place is the list of names that leads to an
entry from the root; relative paths start at the working directory.

* `FileStore.locate`: the place of a path, through existing directories only;
* `FileStore.readText`, `FileStore.writeText`, `FileStore.makeDirectories`: what a run does with
  files, each with the failure that may come instead; a change also gives the store that it leaves
  behind, which a failure may have changed in part;
* `FileStore.changedFiles`: the files that are new or different after a run.
-/

namespace Typings

/-- The contents of a file: a text, or bytes that are none. -/
inductive Contents where
  | text (text : String)
  | malformed (fault : Utf8.Fault)
deriving DecidableEq, Repr

def Contents.ofBytes (bytes : List Nat) : Contents :=
  match Utf8.decode bytes with
  | .ok decoded => .text decoded
  | .error fault => .malformed fault

inductive FileEntry where
  | directory
  | file (contents : Contents)
deriving DecidableEq, Repr

/-- The names that lead to an entry from the root. -/
abbrev Place := List String

/-! ## Errors -/

inductive FileProblem where
  | missing
  | alreadyThere
  | notDirectory
  | isDirectory
  | nameTooLong
deriving DecidableEq, Repr

namespace FileProblem

def code : FileProblem → Nat
  | .missing => 2
  | .alreadyThere => 17
  | .notDirectory => 20
  | .isDirectory => 21
  | .nameTooLong => 36

def text : FileProblem → String
  | .missing => "No such file or directory"
  | .alreadyThere => "File exists"
  | .notDirectory => "Not a directory"
  | .isDirectory => "Is a directory"
  | .nameTooLong => "File name too long"

end FileProblem

/-- A problem with the path at which it came up. -/
structure FileError where
  problem : FileProblem
  path : FilePath
deriving DecidableEq, Repr

def FileError.message (error : FileError) : String :=
  let quoted := Text.quoted error.path.toString
  s!"[Errno {error.problem.code}] {error.problem.text}: {quoted}"

/-- Why an operation on a file fails: the file system refuses it, or a path or a text cannot be
handed over to the file system or taken from it. -/
inductive FileFailure where
  | refused (error : FileError)
  | embeddedNull
  | unencodable (fault : Surrogate.Fault)
  | undecodable (fault : Utf8.Fault)
deriving DecidableEq, Repr

def FileFailure.message : FileFailure → String
  | .refused error => error.message
  | .embeddedNull => "embedded null byte"
  | .unencodable fault => fault.message
  | .undecodable fault => fault.message

/-- What keeps a path from being handed over to the file system. -/
def FilePath.obstacle? (path : FilePath) : Option FileFailure :=
  match Surrogate.fault? path.toString with
  | some fault => some (.unencodable fault)
  | none => if path.toString.toList.contains '\x00' then some .embeddedNull else none

/-! ## Stores -/

structure FileStore where
  entries : List (Place × FileEntry) := []
deriving DecidableEq, Repr

namespace FileStore

/-- The place at which relative paths start. -/
def workingDirectory : Place := ["work"]

/-- The entry at a place. The root and the working directory are always there. -/
def entry? (store : FileStore) (place : Place) : Option FileEntry :=
  if place = [] ∨ place = workingDirectory then some .directory
  else List.lookup place store.entries

/-- Give a place an entry, in place when it has one. -/
def put (store : FileStore) (place : Place) (entry : FileEntry) : FileStore :=
  if store.entries.any (·.1 = place) then
    { entries := store.entries.map fun old => if old.1 = place then (place, entry) else old }
  else { entries := store.entries ++ [(place, entry)] }

/-- The greatest number of bytes in a name. -/
def maxNameBytes : Nat := 255

/-- The greatest number of bytes in a path. -/
def maxPathBytes : Nat := 4095

/-- Follow names from a place; each has to be looked up in a directory. -/
def follow (store : FileStore) (place : Place) : List String → Except FileProblem Place
  | [] => .ok place
  | name :: names =>
      match store.entry? place with
      | some .directory =>
          if maxNameBytes < Surrogate.byteSize name then .error .nameTooLong
          else follow store (if name = ".." then place.dropLast else place ++ [name]) names
      | some (.file _) => .error .notDirectory
      | none => .error .missing

/-- The place of a path. -/
def locate (store : FileStore) (path : FilePath) : Except FileProblem Place :=
  if maxPathBytes < Surrogate.byteSize path.toString then .error .nameTooLong
  else store.follow (if path.anchor = .relative then workingDirectory else []) path.parts

/-- The entry of a path. -/
def find? (store : FileStore) (path : FilePath) : Option FileEntry :=
  match store.locate path with
  | .ok place => store.entry? place
  | .error _ => none

/-- Whether there is an entry at a path. Of a name that is too long nothing can be said. -/
def pathExists (store : FileStore) (path : FilePath) : Except FileError Bool :=
  if path.obstacle?.isSome then .ok false
  else
    match store.locate path with
    | .ok place => .ok (store.entry? place).isSome
    | .error .nameTooLong => .error ⟨.nameTooLong, path⟩
    | .error _ => .ok false

/-! ## Reading -/

def readContents (store : FileStore) (path : FilePath) : Except FileError Contents :=
  match store.locate path with
  | .error problem => .error ⟨problem, path⟩
  | .ok place =>
      match store.entry? place with
      | some (.file contents) => .ok contents
      | some .directory => .error ⟨.isDirectory, path⟩
      | none => .error ⟨.missing, path⟩

/-- The text of a file with LF as its only line end. -/
def readText (store : FileStore) (path : FilePath) : Except FileFailure String :=
  match path.obstacle? with
  | some failure => .error failure
  | none =>
      match store.readContents path with
      | .error error => .error (.refused error)
      | .ok (.malformed fault) => .error (.undecodable fault)
      | .ok (.text text) => .ok (String.ofList (Text.unifyLineEnds text.toList))

/-! ## Writing -/

/-- Make one directory, in a directory that is there. -/
def makeDirectory (store : FileStore) (path : FilePath) : Except FileProblem FileStore :=
  match store.locate path with
  | .error problem => .error problem
  | .ok place =>
      match store.entry? place with
      | some _ => .error .alreadyThere
      | none => .ok (store.put place .directory)

/-- Accept a failure to make a directory where there is one. -/
def orExisting (store : FileStore) (path : FilePath) (problem : FileProblem) :
    Except FileError Unit :=
  if store.find? path = some .directory then .ok () else .error ⟨problem, path⟩

/-- Make a directory and those above it, given the number of parts of the path. -/
def makeDirectoriesWithin (store : FileStore) :
    Nat → FilePath → Except FileError Unit × FileStore
  | bound, path =>
      match store.makeDirectory path with
      | .ok made => (.ok (), made)
      | .error .missing =>
          match bound with
          | 0 => (.error ⟨.missing, path⟩, store)
          | bound + 1 =>
              match makeDirectoriesWithin store bound path.parent with
              | (.error error, made) => (.error error, made)
              | (.ok (), made) =>
                  match made.makeDirectory path with
                  | .ok made => (.ok (), made)
                  | .error problem => (made.orExisting path problem, made)
      | .error problem => (store.orExisting path problem, store)

/-- Make a directory and those above it as far as they are missing. -/
def makeDirectories (store : FileStore) (path : FilePath) :
    Except FileFailure Unit × FileStore :=
  match path.obstacle? with
  | some failure => (.error failure, store)
  | none =>
      let (result, made) := store.makeDirectoriesWithin path.parts.length path
      (result.mapError .refused, made)

/-- Write a text to a file, in a directory that is there. The file is emptied before a text is
found to have no UTF-8 form. -/
def writeText (store : FileStore) (path : FilePath) (text : String) :
    Except FileFailure Unit × FileStore :=
  match path.obstacle? with
  | some failure => (.error failure, store)
  | none =>
      match store.locate path with
      | .error problem => (.error (.refused ⟨problem, path⟩), store)
      | .ok place =>
          if store.entry? place = some .directory then
            (.error (.refused ⟨.isDirectory, path⟩), store)
          else
            match Surrogate.fault? text with
            | some fault => (.error (.unencodable fault), store.put place (.file (.text "")))
            | none => (.ok (), store.put place (.file (.text text)))

/-! ## Whole stores -/

/-- Put a file at a path below the working directory, with the directories above it. -/
def withFile (store : FileStore) (path : FilePath) (contents : Contents) : FileStore :=
  match store.makeDirectories path.parent with
  | (.ok (), made) =>
      match made.locate path with
      | .ok place => made.put place (.file contents)
      | .error _ => made
  | (.error _, _) => store

/-- The files below the working directory with their contents, by relative path. -/
def files (store : FileStore) : List (String × Contents) :=
  store.entries.filterMap fun
    | (place, .file contents) =>
        match place with
        | top :: rest =>
            if [top] = workingDirectory then some ("/".intercalate rest, contents) else none
        | [] => none
    | _ => none

/-- The files that are new or different after a run, with their contents. -/
def changedFiles (before after : FileStore) : List (String × Contents) :=
  after.files.filter fun (name, contents) => List.lookup name before.files ≠ some contents

end FileStore
end Typings
