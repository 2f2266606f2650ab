/-!
# Command line arguments

The arguments of a run are options of the program, the name of a command, and the options and
arguments of the command.

* `OptionSpec`, `scan`: options with and without values, alone or in clusters, and what is left;
* `Arguments.split`: the options of the program and the command with its arguments;
* `Command.ofArguments`: a command with its arguments read.

An argument `--` ends the options. Options of a command may stand behind its arguments.
-/

namespace Typings

/-! ## Options -/

structure OptionSpec where
  key : String
  /-- Names such as `--config` and `-c`. -/
  spellings : List String
  takesValue : Bool := false
deriving DecidableEq, Repr

/-- Why arguments are not carried out. -/
inductive Refused where
  | usage
  | help
deriving DecidableEq, Repr

/-- What one argument is. -/
inductive Token where
  | argument
  | endOfOptions
  | flags (keys : List String)
  /-- Flags, then an option with a value, which may be attached. -/
  | valued (keys : List String) (key : String) (attached : Option String)
  | unknown
deriving DecidableEq, Repr

namespace OptionSpec

def find? (specs : List OptionSpec) (spelling : String) : Option OptionSpec :=
  specs.find? fun spec => spec.spellings.contains spelling

/-- A cluster of one-letter options; the first one that takes a value takes the rest. -/
def cluster (specs : List OptionSpec) (keys : List String) : List Char → Token
  | [] => .flags keys
  | letter :: rest =>
      match find? specs (String.ofList ['-', letter]) with
      | some spec =>
          if spec.takesValue then
            .valued keys spec.key (if rest.isEmpty then none else some (String.ofList rest))
          else cluster specs (keys ++ [spec.key]) rest
      | none => .unknown

/-- What an argument is. A long option may carry its value behind an equals sign. -/
def classify (specs : List OptionSpec) (argument : String) : Token :=
  match argument.toList with
  | ['-', '-'] => .endOfOptions
  | '-' :: first :: rest =>
      let text := '-' :: first :: rest
      let spelling := String.ofList (text.takeWhile (· ≠ '='))
      let attached :=
        if '=' ∈ text then some (String.ofList ((text.dropWhile (· ≠ '=')).drop 1)) else none
      let isLong := first = '-'
      match if isLong then find? specs spelling else none with
      | some spec =>
          if spec.takesValue then .valued [] spec.key attached
          else if attached.isSome then .unknown
          else .flags [spec.key]
      | none => if isLong then .unknown else cluster specs [] (first :: rest)
  | _ => .argument

end OptionSpec

/-- Options with their values, in order, and the other arguments. -/
structure Scanned where
  options : List (String × Option String) := []
  arguments : List String := []
deriving DecidableEq, Repr

namespace Scanned

def withFlags (keys : List String) (scanned : Scanned) : Scanned :=
  { scanned with options := keys.map (fun key => (key, none)) ++ scanned.options }

def withOption (key value : String) (scanned : Scanned) : Scanned :=
  { scanned with options := (key, some value) :: scanned.options }

/-- Whether a flag is set. -/
def isSet (scanned : Scanned) (key : String) : Bool :=
  scanned.options.any (·.1 = key)

/-- The values of an option in order. -/
def values (scanned : Scanned) (key : String) : List String :=
  scanned.options.filterMap fun entry => if entry.1 = key then entry.2 else none

/-- The value of an option; the last one counts. -/
def value? (scanned : Scanned) (key : String) : Option String :=
  (scanned.values key).getLast?

end Scanned

/-- Tell options from arguments. Without `interspersed`, the first argument ends the options. -/
def scan (specs : List OptionSpec) (interspersed : Bool) : List String → Except Refused Scanned
  | [] => .ok {}
  | argument :: rest =>
      match OptionSpec.classify specs argument with
      | .endOfOptions => .ok { arguments := rest }
      | .unknown => .error .usage
      | .flags keys => (scan specs interspersed rest).map (Scanned.withFlags keys)
      | .valued keys key (some value) =>
          (scan specs interspersed rest).map fun scanned =>
            (scanned.withOption key value).withFlags keys
      | .valued keys key none =>
          match rest with
          | value :: rest =>
              (scan specs interspersed rest).map fun scanned =>
                (scanned.withOption key value).withFlags keys
          | [] => .error .usage
      | .argument =>
          if interspersed then
            (scan specs interspersed rest).map fun scanned =>
              { scanned with arguments := argument :: scanned.arguments }
          else .ok { arguments := argument :: rest }

/-! ## Commands -/

def helpOption : OptionSpec := { key := "help", spellings := ["--help"] }

def configOption : OptionSpec :=
  { key := "config", spellings := ["--config", "-c"], takesValue := true }

inductive Command where
  | generate (versions : List String) (config : Option String)
  | render (document : String) (config library : Option String) (exports : Bool)
  | overloads (document method : String) (config : Option String)
deriving DecidableEq, Repr

inductive CommandName where
  | generate
  | render
  | overloads
deriving DecidableEq, Repr

namespace CommandName

def ofString? (name : String) : Option CommandName :=
  if name = "generate" then some .generate
  else if name = "render" then some .render
  else if name = "overloads" then some .overloads
  else none

def options : CommandName → List OptionSpec
  | .generate =>
      [helpOption, configOption,
        { key := "version", spellings := ["--version", "-V"], takesValue := true }]
  | .render =>
      [helpOption, configOption,
        { key := "library", spellings := ["--library", "-l"], takesValue := true },
        { key := "exports", spellings := ["--exports"] }]
  | .overloads => [helpOption, configOption]

end CommandName

/-- A command with its arguments read. -/
def Command.ofArguments (name : CommandName) (arguments : List String) :
    Except Refused Command := do
  let scanned ← scan name.options true arguments
  if scanned.isSet "help" then throw .help
  let config := scanned.value? "config"
  -- no path holds a null character
  if config.any (·.toList.contains '\x00') then throw .usage
  match name, scanned.arguments with
  | .generate, [] => .ok (.generate (scanned.values "version") config)
  | .render, [document] =>
      .ok (.render document config (scanned.value? "library") (scanned.isSet "exports"))
  | .overloads, [document, method] => .ok (.overloads document method config)
  | _, _ => .error .usage

/-! ## Arguments of the program -/

structure Arguments where
  verbose : Bool
  command : CommandName
  rest : List String
deriving DecidableEq, Repr

/-- The options of the program. -/
def programOptions : List OptionSpec :=
  [helpOption, { key := "verbose", spellings := ["--verbose", "-v"] }]

/-- The options of the program with their values, and what follows them. -/
def scanProgram (arguments : List String) : Except Refused Scanned := do
  let scanned ← scan programOptions false arguments
  if scanned.isSet "help" then throw .help
  return scanned

/-- The options of the program, and the command with its arguments still to be read. What is no
command may still be an option, behind the end of the options. -/
def Arguments.split (arguments : List String) : Except Refused Arguments := do
  let scanned ← scanProgram arguments
  match scanned.arguments with
  | name :: rest =>
      match CommandName.ofString? name with
      | some command => .ok { verbose := scanned.isSet "verbose", command, rest }
      | none => do
          let _ ← scanProgram (name :: rest)
          throw .usage
  | [] => .error .usage

end Typings
