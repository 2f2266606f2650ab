import Typings.Document.Schema
import Typings.Proofs.Validation

/-!
# Documents written and checked again

A document is written without the infinite and undefined numbers in its default values and event
parameters. The schema accepts what is written, and gives back the document that lacks only these
numbers.

* `Document.finiteOnly`: a document without infinite and undefined numbers;
* `Document.checkParameter_toJson`, `Document.checkSymbol_toJson`: the parts of a document are
  accepted as they are written;
* `Document.check_toJson`: so is a whole document.
-/

namespace Typings

namespace Document

/-! ## Finite numbers only -/

def Parameter.finiteOnly (parameter : Parameter) : Parameter :=
  { parameter with defaultValue := parameter.defaultValue.finiteOnly }

def Method.finiteOnly (method : Method) : Method :=
  { method with parameters := method.parameters.map Parameter.finiteOnly }

def Event.finiteOnly (event : Event) : Event :=
  { event with parameters := Json.finiteFields event.parameters }

def Constructor.finiteOnly (constructor : Constructor) : Constructor :=
  { constructor with parameters := constructor.parameters.map Parameter.finiteOnly }

def Members.finiteOnly (members : Members) : Members :=
  { members with
    methods := members.methods.map Method.finiteOnly
    events := members.events.map Event.finiteOnly }

def Content.finiteOnly : Content → Content
  | .nameSpace base members => .nameSpace base members.finiteOnly
  | .classType base interfaces isAbstract constructor members =>
      .classType base interfaces isAbstract (constructor.map Constructor.finiteOnly)
        members.finiteOnly
  | .enumeration entries => .enumeration entries
  | .interfaceType base members => .interfaceType base members.finiteOnly
  | .typeAlias => .typeAlias

def Symbol.finiteOnly (symbol : Symbol) : Symbol :=
  { symbol with content := symbol.content.finiteOnly }

/-- The document with `null` for every number that is infinite or undefined. -/
def finiteOnly (document : Document) : Document :=
  { document with symbols := document.symbols.map Symbol.finiteOnly }

/-! ## Members -/

section Members

attribute [local simp] Fields.required Fields.optional Fields.find? plainName Json.asRecord
  Json.asText Json.asFlag nameOf typeOf visibilityOf staticOf descriptionOf
  parametersOf optionalField visibilityField List.lookup_cons List.lookup_nil

@[simp] theorem checkVisibility_word (visibility : Visibility) :
    checkVisibility (.str visibility.word) = .accepted visibility := by
  simp [checkVisibility, Visibility.ofWord?_word]

/-- A default value that is `null` is left out, and comes back as the default. -/
theorem checkParameter_toJson (parameter : Parameter) :
    checkParameter parameter.toJson = .accepted parameter.finiteOnly := by
  by_cases hnull : parameter.defaultValue = .null
  · simp [checkParameter, Parameter.toJson, Parameter.finiteOnly, defaultValueField, hnull,
      Json.finiteOnly]
  · simp [checkParameter, Parameter.toJson, Parameter.finiteOnly, defaultValueField, hnull]

theorem asList_checkParameter (parameters : List Parameter) :
    Json.asList checkParameter (.arr (parameters.map Parameter.toJson)) =
      .accepted (parameters.map Parameter.finiteOnly) :=
  Json.asList_map _ _ parameters fun parameter _ => checkParameter_toJson parameter

theorem checkReturnValue_toJson (value : ReturnValue) :
    checkReturnValue value.toJson = .accepted value := by
  rcases value with ⟨_ | type, _ | description⟩ <;>
    simp [checkReturnValue, ReturnValue.toJson]

theorem checkMethod_toJson (method : Method) :
    checkMethod method.toJson = .accepted method.finiteOnly := by
  rcases method with ⟨name, visibility, isStatic, description, parameters, _ | returnValue⟩
  · simp [checkMethod, Method.toJson, Method.finiteOnly, returnValueField, asList_checkParameter]
  · have hreturn : Json.asOptional checkReturnValue returnValue.toJson =
        .accepted (some returnValue) :=
      Json.asOptional_obj (checkReturnValue_toJson returnValue)
    simp [checkMethod, Method.toJson, Method.finiteOnly, returnValueField, asList_checkParameter,
      hreturn]

theorem checkProperty_toJson (property : Property) :
    checkProperty property.toJson = .accepted property := by
  simp [checkProperty, Property.toJson]

theorem asList_checkProperty (properties : List Property) :
    Json.asList checkProperty (.arr (properties.map Property.toJson)) = .accepted properties := by
  have hproperties := Json.asList_map Property.toJson id properties fun property _ =>
    checkProperty_toJson property
  simpa using hproperties

theorem checkEvent_toJson (event : Event) :
    checkEvent event.toJson = .accepted event.finiteOnly := by
  simp [checkEvent, Event.toJson, Event.finiteOnly, Json.asTable_accepted]

theorem checkConstructor_toJson (constructor : Constructor) :
    checkConstructor constructor.toJson = .accepted constructor.finiteOnly := by
  simp [checkConstructor, Constructor.toJson, Constructor.finiteOnly, asList_checkParameter]

/-! ## Contents -/

theorem asList_checkMethod (methods : List Method) :
    Json.asList checkMethod (.arr (methods.map Method.toJson)) =
      .accepted (methods.map Method.finiteOnly) :=
  Json.asList_map _ _ methods fun method _ => checkMethod_toJson method

theorem asList_checkEvent (events : List Event) :
    Json.asList checkEvent (.arr (events.map Event.toJson)) =
      .accepted (events.map Event.finiteOnly) :=
  Json.asList_map _ _ events fun event _ => checkEvent_toJson event

theorem asOptional_checkConstructor (constructor : Constructor) :
    Json.asOptional checkConstructor constructor.toJson = .accepted (some constructor.finiteOnly) :=
  Json.asOptional_obj (checkConstructor_toJson constructor)

theorem asList_asText (texts : List String) :
    Json.asList Json.asText (.arr (texts.map .str)) = .accepted texts := by
  have htexts := Json.asList_map Json.str id texts fun text _ => (rfl : Json.asText (.str text) = _)
  simpa using htexts

attribute [local simp] checkContent Content.kind Content.toFields Content.finiteOnly baseOf
  checkMembers Members.toFields Members.finiteOnly propertiesOf propertiesField asList_checkMethod
  asList_checkProperty asList_checkEvent asList_asText asOptional_checkConstructor in
/-- A content is accepted as it is written. -/
theorem checkContent_toFields (content : Content) :
    checkContent content.kind content.toFields = .accepted content.finiteOnly := by
  cases content with
  | nameSpace base members => cases base <;> simp
  | classType base interfaces isAbstract constructor members =>
      cases base <;> cases constructor <;> simp
  | enumeration entries => simp
  | interfaceType base members => cases base <;> simp
  | typeAlias => rfl

/-! ## Symbols -/

theorem checkHeading_toFields (heading : Heading) :
    checkHeading heading.toFields = .accepted heading := by
  rcases heading with ⟨name, basename, visibility, _ | moduleName, _ | resource, description⟩ <;>
    simp [checkHeading, Heading.toFields]

end Members

section Symbols

variable {fields others : Fields}

/-- The names of the fields of a heading and of a content. -/
def headingNames : List String :=
  ["name", "basename", "visibility", "module", "resource", "description"]

def contentNames : List String :=
  ["extends", "implements", "abstract", "constructor", "methods", "properties", "events"]

theorem checkHeading_append (h : ∀ name ∈ headingNames, name ∉ Table.keys others) :
    checkHeading (fields ++ others) = checkHeading fields := by
  simp only [headingNames, List.forall_mem_cons] at h
  rcases h with ⟨hname, hbasename, hvisibility, hmodule, hresource, hdescription, -⟩
  simp only [checkHeading, nameOf, visibilityOf, descriptionOf, Fields.required, Fields.optional,
    Fields.find?_append_of_back hname, Fields.find?_append_of_back hbasename,
    Fields.find?_append_of_back hvisibility, Fields.find?_append_of_back hmodule,
    Fields.find?_append_of_back hresource, Fields.find?_append_of_back hdescription]

theorem checkContent_append (kind : Kind) (h : ∀ name ∈ contentNames, name ∉ Table.keys others) :
    checkContent kind (others ++ fields) = checkContent kind fields := by
  simp only [contentNames, List.forall_mem_cons] at h
  rcases h with ⟨hextends, himplements, habstract, hconstructor, hmethods, hproperties, hevents, -⟩
  cases kind <;>
    simp only [checkContent, baseOf, checkMembers, propertiesOf, Fields.optional,
      Fields.find?_append_of_front hextends, Fields.find?_append_of_front himplements,
      Fields.find?_append_of_front habstract, Fields.find?_append_of_front hconstructor,
      Fields.find?_append_of_front hmethods, Fields.find?_append_of_front hproperties,
      Fields.find?_append_of_front hevents]

theorem keys_append (front back : Fields) :
    Table.keys (front ++ back) = Table.keys front ++ Table.keys back :=
  List.map_append

theorem keys_optionalField_sublist (name : String) (value : Option Json) :
    (Table.keys (optionalField name value)).Sublist [name] := by
  cases value with
  | none => exact List.nil_sublist _
  | some value => exact List.Sublist.refl _

theorem keys_headingFields_sublist (heading : Heading) :
    (Table.keys heading.toFields).Sublist headingNames := by
  have hmodule := keys_optionalField_sublist "module" (heading.moduleName.map .str)
  have hresource := keys_optionalField_sublist "resource" (heading.resource.map .str)
  have hfirst : (["name", "basename", "visibility"] : List String).Sublist
      ["name", "basename", "visibility"] := List.Sublist.refl _
  have hlast : (["description"] : List String).Sublist ["description"] := List.Sublist.refl _
  simp only [Heading.toFields, keys_append]
  exact ((hfirst.append hmodule).append hresource).append hlast

theorem keys_contentFields_sublist (content : Content) :
    (Table.keys content.toFields).Sublist contentNames := by
  have hmembers : (["methods", "properties", "events"] : List String).Sublist
      ["implements", "abstract", "constructor", "methods", "properties", "events"] := by decide
  cases content with
  | nameSpace base members =>
      have hbase := keys_optionalField_sublist "extends" (base.map .str)
      simp only [Content.toFields, keys_append]
      exact hbase.append hmembers
  | classType base interfaces isAbstract constructor members =>
      have hbase := keys_optionalField_sublist "extends" (base.map .str)
      have hconstructor := keys_optionalField_sublist "constructor"
        (constructor.map Constructor.toJson)
      have hflags : (["implements", "abstract"] : List String).Sublist ["implements", "abstract"] :=
        List.Sublist.refl _
      have hlast : (["methods", "properties", "events"] : List String).Sublist
          ["methods", "properties", "events"] := List.Sublist.refl _
      simp only [Content.toFields, keys_append]
      exact ((hbase.append hflags).append hconstructor).append hlast
  | enumeration entries => exact (by decide : (["properties"] : List String).Sublist contentNames)
  | interfaceType base members =>
      have hbase := keys_optionalField_sublist "extends" (base.map .str)
      simp only [Content.toFields, keys_append]
      exact hbase.append hmembers
  | typeAlias => exact List.nil_sublist _

/-- A symbol is written with distinct field names. -/
theorem nodup_keys_symbolFields (symbol : Symbol) :
    (Table.keys (symbol.heading.toFields ++ ("kind", .str symbol.content.kind.word) ::
      symbol.content.toFields)).Nodup := by
  have hsublist := (keys_headingFields_sublist symbol.heading).append
    ((keys_contentFields_sublist symbol.content).cons_cons "kind")
  have hnodup : (headingNames ++ "kind" :: contentNames).Nodup := by decide
  rw [keys_append]
  exact hnodup.sublist hsublist

theorem checkSymbol_toJson (symbol : Symbol) :
    checkSymbol symbol.toJson = .accepted symbol.finiteOnly := by
  rcases symbol with ⟨heading, content⟩
  -- heading, kind and content share no field name, so each check sees its own fields only
  have hheadingNames := (keys_headingFields_sublist heading).subset
  have hcontentNames := (keys_contentFields_sublist content).subset
  have hkind : List.lookup "kind" (heading.toFields ++ ("kind", .str content.kind.word) ::
      content.toFields) = some (.str content.kind.word) := by
    have hfront : "kind" ∉ Table.keys heading.toFields := fun hmem =>
      absurd (hheadingNames hmem) (by decide)
    rw [List.lookup_append, Fields.lookup_eq_none_of_not_mem hfront, Option.none_or]
    rfl
  have hheading : checkHeading (heading.toFields ++ ("kind", .str content.kind.word) ::
      content.toFields) = .accepted heading := by
    have hdisjoint : ∀ name ∈ headingNames, name ∉ "kind" :: contentNames := by decide
    rw [checkHeading_append, checkHeading_toFields]
    intro name hname hmem
    exact hdisjoint name hname (List.cons_subset_cons "kind" hcontentNames hmem)
  have hcontent : checkContent content.kind (heading.toFields ++
      ("kind", .str content.kind.word) :: content.toFields) = .accepted content.finiteOnly := by
    have hdisjoint : ∀ name ∈ contentNames, name ∉ headingNames ++ ["kind"] := by decide
    have hsplit : heading.toFields ++ ("kind", Json.str content.kind.word) :: content.toFields =
        (heading.toFields ++ [("kind", Json.str content.kind.word)]) ++ content.toFields := by
      simp
    rw [hsplit, checkContent_append, checkContent_toFields]
    intro name hname hmem
    rw [keys_append, List.mem_append] at hmem
    refine hdisjoint name hname (List.mem_append.2 ?_)
    exact hmem.imp_left fun hmem => hheadingNames hmem
  simp [checkSymbol, Symbol.toJson, hkind, Kind.ofWord?_word, hheading, hcontent,
    Symbol.finiteOnly]

end Symbols

/-- A document is accepted as it is written, without its infinite and undefined numbers. -/
theorem check_toJson (document : Document) :
    check document.toJson = .accepted document.finiteOnly := by
  have hsymbols : Json.asList checkSymbol (.arr (document.symbols.map Symbol.toJson)) =
      .accepted (document.symbols.map Symbol.finiteOnly) :=
    Json.asList_map _ _ document.symbols fun symbol _ => checkSymbol_toJson symbol
  simp [check, toJson, Json.asRecord, Fields.optional, Fields.find?, plainName, List.lookup_cons,
    Json.asText, hsymbols, finiteOnly]

end Document
end Typings
