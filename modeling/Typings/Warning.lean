/-!
# Warnings

What a run reports beside its result, in the order in which it comes up.
-/

namespace Typings

inductive Warning where
  /-- A symbol is described again; `origin` is the library of the later description. -/
  | repeatedSymbol (name origin : String)
  | repeatedClass (name : String)
  /-- A type that the configuration wants to hear about is used. -/
  | markedType (type : String)
  | failedRequest (url cause : String)
deriving DecidableEq, Repr

def Warning.message : Warning → String
  | .repeatedSymbol name origin =>
      let place := if origin = "" then "api.json" else origin
      s!"Duplicate symbol '{name}' in {place} ignored"
  | .repeatedClass name => s!"Duplicate class '{name}' ignored"
  | .markedType type => s!"Type '{type}' is marked as a warning in the configuration"
  | .failedRequest url cause => s!"Got error from '{url}': {cause}"

end Typings
