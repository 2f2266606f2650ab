import Typings.Config.Basic
import Typings.Tree.Forest

/-!
# Exports of modules

`Exports.text` declares a module for every class and enumeration that has one, with the symbol as
its default export, of all libraries or of one.
-/

namespace Typings
namespace Exports

/-- The module of a class or enumeration that has one. -/
def moduleOf? (d : Declaration) : Option String :=
  if d.kind = .classType ∨ d.kind = .enumeration then d.moduleName.filter (· ≠ "") else none

/-- Whether the exports of a library, or all exports, show a declaration. -/
def shows (library : Option String) (d : Declaration) : Bool :=
  library.isNone || library = some d.library

/-- The lines of one module. -/
def moduleLines (config : Config) (moduleName fullName : String) : List String :=
  ["declare module \"" ++ moduleName ++ "\" \x7b",
    config.output.indentation ++ "export default " ++ fullName ++ ";", "\x7d", ""]

def lines (config : Config) (library : Option String) (forest : Forest) : List String :=
  forest.walk.flatMap fun d =>
    match moduleOf? d with
    | some moduleName => if shows library d then moduleLines config moduleName d.fullName else []
    | none => []

/-- The exports of all libraries, or of one. -/
def text (config : Config) (library : Option String) (forest : Forest) : String :=
  "\n".intercalate (lines config library forest)

end Exports
end Typings
