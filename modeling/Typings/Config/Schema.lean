import Typings.Config.Basic
import Typings.Validation

/-!
# The schema of configurations

* `Config.check`: a JSON value as a configuration, a missing field standing for its default;
* `Config.toJson`: a configuration with every field written out.
-/

namespace Typings
namespace Config

/-! ## Reading -/

def flagField (fields : Fields) (field : FieldName) (absent : Bool) : Checked Bool :=
  fields.optional field absent Json.asFlag

def textField (fields : Fields) (field : FieldName) (absent : String) : Checked String :=
  fields.optional field absent Json.asText

def namesField (fields : Fields) (field : FieldName) : Checked (List String) :=
  fields.optional field [] (Json.asList Json.asText)

def tableField (fields : Fields) (field : FieldName) : Checked (Table String) :=
  fields.optional field [] (Json.asTable Json.asText)

def checkLocal : Json → Checked Local :=
  Json.asRecord "LocalConfig" fun fields =>
    Local.mk <$> flagField fields ⟨"runLocal", "run_local"⟩ false
      <*> textField fields (plainName "path") "./apis"

def checkOutput : Json → Checked Output :=
  Json.asRecord "OutputConfig" fun fields =>
    Output.mk <$> textField fields ⟨"exportsPath", "exports_path"⟩ "./exports"
      <*> textField fields ⟨"definitionsPath", "definitions_path"⟩ "./declarations"
      <*> textField fields (plainName "indentation") "    "

def checkInput : Json → Checked Input :=
  Json.asRecord "InputConfig" fun fields =>
    Input.mk <$> textField fields ⟨"apiBaseUrl", "api_base_url"⟩ ({} : Input).apiBaseUrl
      <*> textField fields ⟨"jsonLocation", "json_location"⟩ ({} : Input).jsonLocation
      <*> namesField fields (plainName "versions")
      <*> namesField fields (plainName "namespaces")

def checkMemberRules : Json → Checked MemberRules :=
  Json.asRecord "SpecificReplacements" fun fields =>
    MemberRules.mk <$> tableField fields ⟨"namespaceAsType", "namespace_as_type"⟩
      <*> tableField fields ⟨"methodParameterType", "method_parameter_type"⟩
      <*> tableField fields ⟨"methodReturnType", "method_return_type"⟩
      <*> tableField fields ⟨"propertyType", "property_type"⟩
      <*> namesField fields ⟨"methodOverridesNotCompatible", "method_overrides_not_compatible"⟩
      <*> namesField fields ⟨"methodRemoveStatic", "method_remove_static"⟩
      <*> namesField fields ⟨"methodReturnTypeNotThis", "method_return_type_not_this"⟩
      <*> namesField fields ⟨"filterMethods", "filter_methods"⟩

def checkReplacements : Json → Checked Replacements :=
  Json.asRecord "Replacements" fun fields =>
    Replacements.mk <$> tableField fields ⟨"global", "global_"⟩
      <*> namesField fields (plainName "warnings")
      <*> fields.optional (plainName "specific") {} checkMemberRules

/-- A JSON value as a configuration. -/
def check : Json → Checked Config :=
  Json.asRecord "GeneratorConfig" fun fields =>
    Config.mk <$> fields.optional (plainName "local") {} checkLocal
      <*> fields.optional (plainName "output") {} checkOutput
      <*> fields.optional (plainName "input") {} checkInput
      <*> namesField fields (plainName "ignore")
      <*> namesField fields ⟨"ignoreStatic", "ignore_static"⟩
      <*> fields.optional (plainName "replacements") {} checkReplacements

/-! ## Writing -/

def namesJson (names : List String) : Json :=
  .arr (names.map .str)

def tableJson (table : Table String) : Json :=
  .obj (table.map fun entry => (entry.1, .str entry.2))

def Local.toJson (storage : Local) : Json :=
  .obj [("runLocal", .bool storage.runLocal), ("path", .str storage.path)]

def Output.toJson (output : Output) : Json :=
  .obj [("exportsPath", .str output.exportsPath),
    ("definitionsPath", .str output.definitionsPath),
    ("indentation", .str output.indentation)]

def Input.toJson (input : Input) : Json :=
  .obj [("apiBaseUrl", .str input.apiBaseUrl), ("jsonLocation", .str input.jsonLocation),
    ("versions", namesJson input.versions), ("namespaces", namesJson input.namespaces)]

def MemberRules.toJson (rules : MemberRules) : Json :=
  .obj [("namespaceAsType", tableJson rules.namespaceAsType),
    ("methodParameterType", tableJson rules.methodParameterType),
    ("methodReturnType", tableJson rules.methodReturnType),
    ("propertyType", tableJson rules.propertyType),
    ("methodOverridesNotCompatible", namesJson rules.methodOverridesNotCompatible),
    ("methodRemoveStatic", namesJson rules.methodRemoveStatic),
    ("methodReturnTypeNotThis", namesJson rules.methodReturnTypeNotThis),
    ("filterMethods", namesJson rules.filterMethods)]

def Replacements.toJson (replacements : Replacements) : Json :=
  .obj [("global", tableJson replacements.everywhere),
    ("warnings", namesJson replacements.warnings),
    ("specific", replacements.specific.toJson)]

/-- A configuration as a JSON value. -/
def toJson (config : Config) : Json :=
  .obj [("local", config.storage.toJson), ("output", config.output.toJson),
    ("input", config.input.toJson), ("ignore", namesJson config.ignore),
    ("ignoreStatic", namesJson config.ignoreStatic),
    ("replacements", config.replacements.toJson)]

end Config
end Typings
