import Typings.Config.Schema
import Typings.Files.Store
import Typings.Json.Reader

/-!
# Loading configurations

* `Config.load`: the configuration in a file of a store;
* `Config.LoadError`: why there is none, with a message and its details.
-/

namespace Typings
namespace Config

inductive LoadError where
  | unreadable (path : FilePath) (error : FileError)
  | notJson (error : Json.SyntaxError)
  | offSchema (issues : List Issue)
deriving DecidableEq, Repr

namespace LoadError

def message : LoadError → String
  | .unreadable path _ =>
      let name := path.toString
      s!"Cannot read config file '{name}'"
  | .notJson _ => "Invalid JSON format"
  | .offSchema _ => "Config validation failed"

/-- What the message leaves out. -/
def details : LoadError → String
  | .unreadable _ error => error.message
  | .notJson error => error.message
  | .offSchema issues => Issue.summary issues

end LoadError

/-- A load error, or a failure below it: of the file itself, or of a limit of reading. -/
inductive LoadFailure where
  | refused (error : LoadError)
  | file (failure : FileFailure)
  | excess (excess : Json.Excess)
deriving DecidableEq, Repr

/-- A JSON value as a configuration. -/
def ofJson (value : Json) : Except LoadError Config :=
  match check value with
  | .accepted config => .ok config
  | .rejected issues => .error (.offSchema issues)

/-- The configuration in a file. -/
def load (store : FileStore) (path : FilePath) : Except LoadFailure Config :=
  match store.readText path with
  | .error (.refused error) => .error (.refused (.unreadable path error))
  | .error failure => .error (.file failure)
  | .ok text =>
      match Json.parse text with
      | .error (.notJson error) => .error (.refused (.notJson error))
      | .error (.excess excess) => .error (.excess excess)
      | .ok value => (ofJson value).mapError .refused

end Config
end Typings
