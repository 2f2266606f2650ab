import Typings.Document.Basic
import Typings.Json.Display
import Typings.Validation

/-!
# The schema of documents

* `Document.check`: a JSON value as a document, or every issue that keeps it from being one;
* `Document.toJson`: a document as a JSON value.

Both name the fields through the same `FieldName`s. Written fields follow the order of the
records, the fields of the heading first. A field without a value is left out, while a `null`
inside a default value or an event parameter is kept.
-/

namespace Typings
namespace Document

/-! ## Field names -/

def defaultValueField : FieldName := ⟨"defaultValue", "default_value"⟩

def returnValueField : FieldName := ⟨"returnValue", "return_value"⟩

/-! ## Reading -/

def checkVisibility : Json → Checked Visibility
  | .str word =>
      match Visibility.ofWord? word with
      | some visibility => .accepted visibility
      | none => .reject .notVisibility
  | _ => .reject .notVisibility

/-- The fields that many records share. -/
def nameOf (fields : Fields) : Checked String :=
  fields.required (plainName "name") Json.asText

def typeOf (fields : Fields) : Checked String :=
  fields.optional (plainName "type") anyType Json.asText

def visibilityOf (fields : Fields) : Checked Visibility :=
  fields.optional (plainName "visibility") .isPublic checkVisibility

def staticOf (fields : Fields) : Checked Bool :=
  fields.optional (plainName "static") false Json.asFlag

def descriptionOf (fields : Fields) : Checked String :=
  fields.optional (plainName "description") "" Json.asText

def checkParameter : Json → Checked Parameter :=
  Json.asRecord "ApiParameter" fun fields =>
    Parameter.mk <$> nameOf fields <*> typeOf fields
      <*> fields.optional (plainName "optional") false Json.asFlag
      <*> fields.optional (plainName "spread") false Json.asFlag
      <*> descriptionOf fields
      <*> fields.optional defaultValueField .null .accepted

def parametersOf (fields : Fields) : Checked (List Parameter) :=
  fields.optional (plainName "parameters") [] (Json.asList checkParameter)

def checkReturnValue : Json → Checked ReturnValue :=
  Json.asRecord "ReturnValueInfo" fun fields =>
    ReturnValue.mk
      <$> fields.optional (plainName "type") none (Json.asOptional Json.asText)
      <*> fields.optional (plainName "description") none (Json.asOptional Json.asText)

def checkMethod : Json → Checked Method :=
  Json.asRecord "ApiMethod" fun fields =>
    Method.mk <$> nameOf fields <*> visibilityOf fields <*> staticOf fields
      <*> descriptionOf fields <*> parametersOf fields
      <*> fields.optional returnValueField none (Json.asOptional checkReturnValue)

def checkProperty : Json → Checked Property :=
  Json.asRecord "ApiProperty" fun fields =>
    Property.mk <$> nameOf fields <*> typeOf fields <*> visibilityOf fields <*> staticOf fields
      <*> descriptionOf fields

def checkEvent : Json → Checked Event :=
  Json.asRecord "ApiEvent" fun fields =>
    Event.mk <$> nameOf fields <*> visibilityOf fields <*> descriptionOf fields
      <*> fields.optional (plainName "parameters") [] (Json.asTable .accepted)

def checkConstructor : Json → Checked Constructor :=
  Json.asRecord "ClassConstructor" fun fields =>
    Constructor.mk <$> visibilityOf fields <*> descriptionOf fields <*> parametersOf fields

def checkHeading (fields : Fields) : Checked Heading :=
  Heading.mk <$> nameOf fields
    <*> fields.required (plainName "basename") Json.asText
    <*> visibilityOf fields
    <*> fields.optional (plainName "module") none (Json.asOptional Json.asText)
    <*> fields.optional (plainName "resource") none (Json.asOptional Json.asText)
    <*> descriptionOf fields

def baseOf (fields : Fields) : Checked (Option String) :=
  fields.optional (plainName "extends") none (Json.asOptional Json.asText)

def propertiesOf (fields : Fields) : Checked (List Property) :=
  fields.optional (plainName "properties") [] (Json.asList checkProperty)

def checkMembers (fields : Fields) : Checked Members :=
  Members.mk
    <$> fields.optional (plainName "methods") [] (Json.asList checkMethod)
    <*> propertiesOf fields
    <*> fields.optional (plainName "events") [] (Json.asList checkEvent)

def checkContent (kind : Kind) (fields : Fields) : Checked Content :=
  match kind with
  | .nameSpace => Content.nameSpace <$> baseOf fields <*> checkMembers fields
  | .classType =>
      Content.classType <$> baseOf fields
        <*> fields.optional (plainName "implements") [] (Json.asList Json.asText)
        <*> fields.optional (plainName "abstract") false Json.asFlag
        <*> fields.optional (plainName "constructor") none (Json.asOptional checkConstructor)
        <*> checkMembers fields
  | .enumeration => Content.enumeration <$> propertiesOf fields
  | .interfaceType => Content.interfaceType <$> baseOf fields <*> checkMembers fields
  | .typeAlias => .accepted .typeAlias

/-- A symbol is checked as its field `kind` says; its issues lie behind the kind. -/
def checkSymbol : Json → Checked Symbol
  | .obj fields =>
      match List.lookup "kind" fields with
      | none => .reject .untagged
      | some (.str word) =>
          match Kind.ofWord? word with
          | some kind =>
              (Symbol.mk <$> checkHeading fields <*> checkContent kind fields).within kind.word
          | none => .reject (.unknownTag (Json.str word).display)
      | some tag => .reject (.unknownTag tag.display)
  | _ => .reject .notSymbol

/-- A JSON value as a document. -/
def check : Json → Checked Document :=
  Json.asRecord "UI5API" fun fields =>
    Document.mk
      <$> fields.optional (plainName "library") "" Json.asText
      <*> fields.optional (plainName "version") "" Json.asText
      <*> fields.optional (plainName "symbols") [] (Json.asList checkSymbol)

/-! ## Writing -/

/-- A field that is written only when it has a value. -/
def optionalField (name : String) : Option Json → List (String × Json)
  | some value => [(name, value)]
  | none => []

def visibilityField (visibility : Visibility) : String × Json :=
  ("visibility", .str visibility.word)

def Parameter.toJson (parameter : Parameter) : Json :=
  .obj ([("name", .str parameter.name), ("type", .str parameter.type),
      ("optional", .bool parameter.optional), ("spread", .bool parameter.spread),
      ("description", .str parameter.description)] ++
    optionalField defaultValueField.name
      (if parameter.defaultValue = .null then none else some parameter.defaultValue.finiteOnly))

def ReturnValue.toJson (value : ReturnValue) : Json :=
  .obj (optionalField "type" (value.type.map .str) ++
    optionalField "description" (value.description.map .str))

def Method.toJson (method : Method) : Json :=
  .obj ([("name", .str method.name), visibilityField method.visibility,
      ("static", .bool method.isStatic), ("description", .str method.description),
      ("parameters", .arr (method.parameters.map Parameter.toJson))] ++
    optionalField returnValueField.name (method.returnValue.map ReturnValue.toJson))

def Property.toJson (property : Property) : Json :=
  .obj [("name", .str property.name), ("type", .str property.type),
    visibilityField property.visibility, ("static", .bool property.isStatic),
    ("description", .str property.description)]

def Event.toJson (event : Event) : Json :=
  .obj [("name", .str event.name), visibilityField event.visibility,
    ("description", .str event.description),
    ("parameters", .obj (Json.finiteFields event.parameters))]

def Constructor.toJson (constructor : Constructor) : Json :=
  .obj [visibilityField constructor.visibility, ("description", .str constructor.description),
    ("parameters", .arr (constructor.parameters.map Parameter.toJson))]

def Heading.toFields (heading : Heading) : List (String × Json) :=
  [("name", .str heading.name), ("basename", .str heading.basename),
    visibilityField heading.visibility] ++
  optionalField "module" (heading.moduleName.map .str) ++
  optionalField "resource" (heading.resource.map .str) ++
  [("description", .str heading.description)]

def propertiesField (properties : List Property) : String × Json :=
  ("properties", .arr (properties.map Property.toJson))

def Members.toFields (members : Members) : List (String × Json) :=
  [("methods", .arr (members.methods.map Method.toJson)), propertiesField members.properties,
    ("events", .arr (members.events.map Event.toJson))]

def Content.toFields : Content → List (String × Json)
  | .nameSpace base members =>
      optionalField "extends" (base.map .str) ++ members.toFields
  | .classType base interfaces isAbstract constructor members =>
      optionalField "extends" (base.map .str) ++
      [("implements", .arr (interfaces.map .str)), ("abstract", .bool isAbstract)] ++
      optionalField "constructor" (constructor.map Constructor.toJson) ++ members.toFields
  | .enumeration entries => [propertiesField entries]
  | .interfaceType base members =>
      optionalField "extends" (base.map .str) ++ members.toFields
  | .typeAlias => []

def Symbol.toJson (symbol : Symbol) : Json :=
  .obj (symbol.heading.toFields ++ ("kind", .str symbol.content.kind.word) ::
    symbol.content.toFields)

/-- A document as a JSON value. -/
def toJson (document : Document) : Json :=
  .obj [("library", .str document.library), ("version", .str document.version),
    ("symbols", .arr (document.symbols.map Symbol.toJson))]

end Document
end Typings
