import Typings.Document.Text
import Typings.Proofs.Document.Rewritten
import Typings.Proofs.Json.Regular

/-!
# Free-form values in documents

Default values and event parameters are JSON values of any form. They alone decide whether a
document can be written and read again: all else in a document is texts and flags.

* `Document.freeForm`: the free-form values of a document;
* `Document.regular_toJson`: with regular free-form values a document is written as a regular value;
* `Document.Inherited.document`: free-form values have what values inside the value that was read
  have;
* `Document.regular_of_obstacle?`: in a document that may be written they are not nested too deep.
-/

namespace Typings

namespace Document

def defaultValues (parameters : List Parameter) : List Json :=
  parameters.map (·.defaultValue)

def Event.freeForm (event : Event) : Json :=
  .obj event.parameters

def Members.freeForm (members : Members) : List Json :=
  members.methods.flatMap (fun method => defaultValues method.parameters) ++
    members.events.map Event.freeForm

def Content.freeForm : Content → List Json
  | .nameSpace _ members | .interfaceType _ members => members.freeForm
  | .classType _ _ _ constructor members =>
      defaultValues ((constructor.map (·.parameters)).getD []) ++ members.freeForm
  | .enumeration _ | .typeAlias => []

/-- The default values and event parameters of a document. -/
def freeForm (document : Document) : List Json :=
  document.symbols.flatMap fun symbol => symbol.content.freeForm

/-! ## What is written -/

section Writing

open Json (Regular regular_arr regular_obj)

variable {room : Nat}

theorem regular_parameter {parameter : Parameter}
    (h : Regular Binary64.InRange room parameter.defaultValue) :
    Regular Binary64.Writable (room + 1) parameter.toJson := by
  have hvalue := h.finiteOnly
  rw [Parameter.toJson, regular_obj]
  split_ifs with hnull
  · refine ⟨by omega, by simp [Table.keys, optionalField], ?_⟩
    simp [optionalField]
  · refine ⟨by omega, by simp [Table.keys, optionalField, defaultValueField], ?_⟩
    simpa [optionalField] using hvalue

theorem regular_parameters {parameters : List Parameter}
    (h : ∀ value ∈ defaultValues parameters, Regular Binary64.InRange room value) :
    Regular Binary64.Writable (room + 2) (.arr (parameters.map Parameter.toJson)) := by
  refine regular_arr.2 ⟨by omega, ?_⟩
  intro written hmem
  rcases List.mem_map.1 hmem with ⟨parameter, hparameter, rfl⟩
  exact regular_parameter (h _ (List.mem_map.2 ⟨parameter, hparameter, rfl⟩))

theorem regular_returnValue (value : ReturnValue) :
    Regular Binary64.Writable (room + 1) value.toJson := by
  rcases value with ⟨_ | type, _ | description⟩ <;>
    simp [ReturnValue.toJson, regular_obj, Table.keys, optionalField]

theorem regular_method {method : Method}
    (h : ∀ value ∈ defaultValues method.parameters, Regular Binary64.InRange room value) :
    Regular Binary64.Writable (room + 3) method.toJson := by
  have hparameters := regular_parameters h
  rw [Method.toJson, regular_obj]
  cases method.returnValue with
  | none =>
      refine ⟨by omega, by simp [Table.keys, optionalField, visibilityField], ?_⟩
      simpa [optionalField, visibilityField] using hparameters
  | some returnValue =>
      refine ⟨by omega, ?_, ?_⟩
      · simp [Table.keys, optionalField, returnValueField, visibilityField]
      · have hreturn : Regular Binary64.Writable (room + 2) returnValue.toJson :=
          regular_returnValue returnValue
        simpa [optionalField, visibilityField] using ⟨hparameters, hreturn⟩

theorem regular_property (property : Property) :
    Regular Binary64.Writable (room + 1) property.toJson := by
  simp [Property.toJson, regular_obj, Table.keys, visibilityField]

theorem regular_properties (properties : List Property) :
    Regular Binary64.Writable (room + 2) (.arr (properties.map Property.toJson)) := by
  refine regular_arr.2 ⟨by omega, ?_⟩
  intro written hmem
  rcases List.mem_map.1 hmem with ⟨property, -, rfl⟩
  exact regular_property property

theorem regular_event {event : Event} (h : Regular Binary64.InRange room event.freeForm) :
    Regular Binary64.Writable (room + 1) event.toJson := by
  have hparameters := h.finiteOnly
  rw [Event.freeForm, Json.finiteOnly] at hparameters
  rw [Event.toJson, regular_obj]
  refine ⟨by omega, by simp [Table.keys, visibilityField], ?_⟩
  simpa [visibilityField] using hparameters

theorem regular_constructor {constructor : Constructor}
    (h : ∀ value ∈ defaultValues constructor.parameters, Regular Binary64.InRange room value) :
    Regular Binary64.Writable (room + 3) constructor.toJson := by
  have hparameters := regular_parameters h
  rw [Constructor.toJson, regular_obj]
  refine ⟨by omega, by simp [Table.keys, visibilityField], ?_⟩
  simpa [visibilityField] using hparameters

theorem regular_members {members : Members}
    (h : ∀ value ∈ members.freeForm, Regular Binary64.InRange room value) :
    ∀ field ∈ members.toFields, Regular Binary64.Writable (room + 4) field.2 := by
  have hmethods : Regular Binary64.Writable (room + 4)
      (.arr (members.methods.map Method.toJson)) := by
    refine regular_arr.2 ⟨by omega, ?_⟩
    intro written hmem
    rcases List.mem_map.1 hmem with ⟨method, hmethod, rfl⟩
    refine regular_method fun value hvalue => h value ?_
    exact List.mem_append_left _ (List.mem_flatMap.2 ⟨method, hmethod, hvalue⟩)
  have hproperties : Regular Binary64.Writable (room + 4)
      (.arr (members.properties.map Property.toJson)) := regular_properties members.properties
  have hevents : Regular Binary64.Writable (room + 4)
      (.arr (members.events.map Event.toJson)) := by
    refine regular_arr.2 ⟨by omega, ?_⟩
    intro written hmem
    rcases List.mem_map.1 hmem with ⟨event, hevent, rfl⟩
    have hregular := regular_event (h event.freeForm
      (List.mem_append_right _ (List.mem_map.2 ⟨event, hevent, rfl⟩)))
    exact hregular.mono (by omega)
  simp [Members.toFields, propertiesField, hmethods, hproperties, hevents]

theorem regular_content {content : Content}
    (h : ∀ value ∈ content.freeForm, Regular Binary64.InRange room value) :
    ∀ field ∈ content.toFields, Regular Binary64.Writable (room + 4) field.2 := by
  have hbase : ∀ base : Option String, ∀ field ∈ optionalField "extends" (base.map .str),
      Regular Binary64.Writable (room + 4) field.2 := by
    intro base
    cases base <;> simp [optionalField]
  cases content with
  | nameSpace base members => exact List.forall_mem_append.2 ⟨hbase base, regular_members h⟩
  | classType base interfaces isAbstract constructor members =>
      -- of these fields only constructor and members hold free-form values
      rcases List.forall_mem_append.1 h with ⟨hdefaults, hfreeForm⟩
      have hinterfaces : Regular Binary64.Writable (room + 4) (.arr (interfaces.map .str)) := by
        simp [regular_arr]
      have hconstructor : ∀ field ∈
          optionalField "constructor" (constructor.map Constructor.toJson),
            Regular Binary64.Writable (room + 4) field.2 := by
        cases constructor with
        | none => simp [optionalField]
        | some constructor =>
            have hregular := (regular_constructor hdefaults).mono (show _ ≤ room + 4 by omega)
            simpa [optionalField] using hregular
      simp only [Content.toFields, List.forall_mem_append]
      exact ⟨⟨⟨hbase base, by simpa using hinterfaces⟩, hconstructor⟩, regular_members hfreeForm⟩
  | enumeration entries =>
      simpa [Content.toFields, propertiesField] using regular_properties entries
  | interfaceType base members => exact List.forall_mem_append.2 ⟨hbase base, regular_members h⟩
  | typeAlias => simp [Content.toFields]

theorem regular_symbol {symbol : Symbol}
    (h : ∀ value ∈ symbol.content.freeForm, Regular Binary64.InRange room value) :
    Regular Binary64.Writable (room + 5) symbol.toJson := by
  refine regular_obj.2 ⟨by omega, nodup_keys_symbolFields symbol, ?_⟩
  have hheading : ∀ field ∈ symbol.heading.toFields,
      Regular Binary64.Writable (room + 4) field.2 := by
    rcases symbol.heading with ⟨name, basename, visibility, _ | moduleName, _ | resource, text⟩ <;>
      simp [Heading.toFields, visibilityField, optionalField]
  refine List.forall_mem_append.2 ⟨hheading, List.forall_mem_cons.2 ⟨by simp, ?_⟩⟩
  exact regular_content h

/-- With regular free-form values a document is written as a regular value. -/
theorem regular_toJson {document : Document}
    (h : ∀ value ∈ document.freeForm, Regular Binary64.InRange room value) :
    Regular Binary64.Writable (room + 7) document.toJson := by
  have hsymbols : Regular Binary64.Writable (room + 6)
      (.arr (document.symbols.map Symbol.toJson)) := by
    refine regular_arr.2 ⟨by omega, ?_⟩
    intro written hmem
    rcases List.mem_map.1 hmem with ⟨symbol, hsymbol, rfl⟩
    refine regular_symbol fun value hvalue => h value ?_
    exact List.mem_flatMap.2 ⟨symbol, hsymbol, hvalue⟩
  rw [toJson, regular_obj]
  refine ⟨by omega, by simp [Table.keys], ?_⟩
  simpa using hsymbols

end Writing

/-! ## What is read -/

section Reading

open Checked (seq_eq_accepted map_eq_accepted within_eq_accepted)

/-- A property that passes from a value to the values inside it. -/
structure Inherited (P : Json → Prop) : Prop where
  null : P .null
  empty : P (.obj [])
  item : ∀ {items}, P (.arr items) → ∀ item ∈ items, P item
  field : ∀ {fields}, P (.obj fields) → ∀ field ∈ fields, P field.2

variable {P : Json → Prop} {value : Json}

/-- What is checked in a list of records, when it holds of each record that is accepted. -/
theorem Inherited.asList {α : Type} (hP : Inherited P) {Q : α → Prop} {check : Json → Checked α}
    (hcheck : ∀ {value result}, P value → check value = .accepted result → Q result)
    {fields : Fields} {field : FieldName} (hfields : ∀ field ∈ fields, P field.2) {results : List α}
    (h : Fields.optional fields field [] (Json.asList check) = .accepted results) :
    ∀ result ∈ results, Q result := by
  rcases Fields.optional_eq_accepted h with rfl | ⟨found, hfound, hlist⟩
  · simp
  · rcases Json.asList_eq_accepted hlist with ⟨items, heq, hitems⟩
    have hfoundP := hfields found hfound
    rw [heq] at hfoundP
    intro result hmem
    rcases hitems result hmem with ⟨item, hitem, haccepted⟩
    exact hcheck (hP.item hfoundP item hitem) haccepted

theorem Inherited.parameter (hP : Inherited P) {parameter : Parameter} (hvalue : P value)
    (h : checkParameter value = .accepted parameter) : P parameter.defaultValue := by
  -- the fields are taken off from the last one, which is the free-form one
  rcases Json.asRecord_eq_accepted h with ⟨fields, rfl, hrecord⟩
  rcases seq_eq_accepted hrecord with ⟨g₅, default, h₅, hdefault, rfl⟩
  rcases seq_eq_accepted h₅ with ⟨g₄, description, h₄, -, rfl⟩
  rcases seq_eq_accepted h₄ with ⟨g₃, spread, h₃, -, rfl⟩
  rcases seq_eq_accepted h₃ with ⟨g₂, optional, h₂, -, rfl⟩
  rcases seq_eq_accepted h₂ with ⟨g₁, type, h₁, -, rfl⟩
  rcases map_eq_accepted h₁ with ⟨name, -, rfl⟩
  rcases Fields.optional_eq_accepted hdefault with rfl | ⟨found, hfound, haccepted⟩
  · exact hP.null
  · cases haccepted
    exact hP.field hvalue found hfound

theorem Inherited.parameters (hP : Inherited P) {fields : Fields}
    (hfields : ∀ field ∈ fields, P field.2) {parameters : List Parameter}
    (h : parametersOf fields = .accepted parameters) :
    ∀ default ∈ defaultValues parameters, P default := by
  have hparameters := hP.asList (fun hvalue haccepted => hP.parameter hvalue haccepted) hfields h
  intro default hmem
  rcases List.mem_map.1 hmem with ⟨parameter, hparameter, rfl⟩
  exact hparameters parameter hparameter

theorem Inherited.method (hP : Inherited P) {method : Method} (hvalue : P value)
    (h : checkMethod value = .accepted method) :
    ∀ default ∈ defaultValues method.parameters, P default := by
  rcases Json.asRecord_eq_accepted h with ⟨fields, rfl, hrecord⟩
  rcases seq_eq_accepted hrecord with ⟨g₅, returnValue, h₅, -, rfl⟩
  rcases seq_eq_accepted h₅ with ⟨g₄, parameters, h₄, hparameters, rfl⟩
  rcases seq_eq_accepted h₄ with ⟨g₃, description, h₃, -, rfl⟩
  rcases seq_eq_accepted h₃ with ⟨g₂, isStatic, h₂, -, rfl⟩
  rcases seq_eq_accepted h₂ with ⟨g₁, visibility, h₁, -, rfl⟩
  rcases map_eq_accepted h₁ with ⟨name, -, rfl⟩
  exact hP.parameters (hP.field hvalue) hparameters

theorem Inherited.event (hP : Inherited P) {event : Event} (hvalue : P value)
    (h : checkEvent value = .accepted event) : P event.freeForm := by
  rcases Json.asRecord_eq_accepted h with ⟨fields, rfl, hrecord⟩
  rcases seq_eq_accepted hrecord with ⟨g₃, parameters, h₃, hparameters, rfl⟩
  rcases seq_eq_accepted h₃ with ⟨g₂, description, h₂, -, rfl⟩
  rcases seq_eq_accepted h₂ with ⟨g₁, visibility, h₁, -, rfl⟩
  rcases map_eq_accepted h₁ with ⟨name, -, rfl⟩
  -- the parameters of an event are taken as they are, or as an empty object
  rcases Fields.optional_eq_accepted hparameters with rfl | ⟨found, hfound, htable⟩
  · exact hP.empty
  · have hfoundP := hP.field hvalue found hfound
    rwa [Json.asTable_eq_accepted htable] at hfoundP

theorem Inherited.constructor (hP : Inherited P) {constructor : Constructor} (hvalue : P value)
    (h : checkConstructor value = .accepted constructor) :
    ∀ default ∈ defaultValues constructor.parameters, P default := by
  rcases Json.asRecord_eq_accepted h with ⟨fields, rfl, hrecord⟩
  rcases seq_eq_accepted hrecord with ⟨g₂, parameters, h₂, hparameters, rfl⟩
  rcases seq_eq_accepted h₂ with ⟨g₁, description, h₁, -, rfl⟩
  rcases map_eq_accepted h₁ with ⟨visibility, -, rfl⟩
  exact hP.parameters (hP.field hvalue) hparameters

theorem Inherited.members (hP : Inherited P) {fields : Fields}
    (hfields : ∀ field ∈ fields, P field.2) {members : Members}
    (h : checkMembers fields = .accepted members) : ∀ value ∈ members.freeForm, P value := by
  rcases seq_eq_accepted h with ⟨g₂, events, h₂, hevents, rfl⟩
  rcases seq_eq_accepted h₂ with ⟨g₁, properties, h₁, -, rfl⟩
  rcases map_eq_accepted h₁ with ⟨methods, hmethods, rfl⟩
  have hmethodValues := hP.asList (fun hvalue haccepted => hP.method hvalue haccepted) hfields
    hmethods
  have heventValues := hP.asList (fun hvalue haccepted => hP.event hvalue haccepted) hfields
    hevents
  refine List.forall_mem_append.2 ⟨?_, ?_⟩
  · intro value hmem
    rcases List.mem_flatMap.1 hmem with ⟨method, hmethod, hvalue⟩
    exact hmethodValues method hmethod value hvalue
  · intro value hmem
    rcases List.mem_map.1 hmem with ⟨event, hevent, rfl⟩
    exact heventValues event hevent

theorem Inherited.content (hP : Inherited P) {kind : Kind} {fields : Fields}
    (hfields : ∀ field ∈ fields, P field.2) {content : Content}
    (h : checkContent kind fields = .accepted content) : ∀ value ∈ content.freeForm, P value := by
  cases kind with
  | nameSpace =>
      rcases seq_eq_accepted h with ⟨g, members, hg, hmembers, rfl⟩
      rcases map_eq_accepted hg with ⟨base, -, rfl⟩
      exact hP.members hfields hmembers
  | classType =>
      rcases seq_eq_accepted h with ⟨g₄, members, h₄, hmembers, rfl⟩
      rcases seq_eq_accepted h₄ with ⟨g₃, constructor, h₃, hconstructor, rfl⟩
      rcases seq_eq_accepted h₃ with ⟨g₂, isAbstract, h₂, -, rfl⟩
      rcases seq_eq_accepted h₂ with ⟨g₁, interfaces, h₁, -, rfl⟩
      rcases map_eq_accepted h₁ with ⟨base, -, rfl⟩
      refine List.forall_mem_append.2 ⟨?_, hP.members hfields hmembers⟩
      cases constructor with
      | none => simp [defaultValues]
      | some constructor =>
          rcases Fields.optional_eq_accepted hconstructor with heq | ⟨found, hfound, haccepted⟩
          · cases heq
          · exact hP.constructor (hfields found hfound) (Json.asOptional_eq_accepted haccepted)
  | enumeration =>
      rcases map_eq_accepted h with ⟨entries, -, rfl⟩
      simp [Content.freeForm]
  | interfaceType =>
      rcases seq_eq_accepted h with ⟨g, members, hg, hmembers, rfl⟩
      rcases map_eq_accepted hg with ⟨base, -, rfl⟩
      exact hP.members hfields hmembers
  | typeAlias =>
      cases h
      simp [Content.freeForm]

theorem Inherited.symbol (hP : Inherited P) {symbol : Symbol} (hvalue : P value)
    (h : checkSymbol value = .accepted symbol) : ∀ value ∈ symbol.content.freeForm, P value := by
  cases value with
  | obj fields =>
      rw [checkSymbol] at h
      split at h
      · cases h
      next word hkind =>
        split at h
        next kind hword =>
          rcases seq_eq_accepted (within_eq_accepted h) with ⟨g, content, hg, hcontent, rfl⟩
          rcases map_eq_accepted hg with ⟨heading, -, rfl⟩
          exact hP.content (hP.field hvalue) hcontent
        · cases h
      · cases h
  | _ => cases h

/-- What passes from a value to the values inside it holds of the free-form values that are read
from it. -/
theorem Inherited.document (hP : Inherited P) {document : Document} (hvalue : P value)
    (h : check value = .accepted document) : ∀ value ∈ document.freeForm, P value := by
  rcases Json.asRecord_eq_accepted h with ⟨fields, rfl, hrecord⟩
  rcases seq_eq_accepted hrecord with ⟨g₂, symbols, h₂, hsymbols, rfl⟩
  rcases seq_eq_accepted h₂ with ⟨g₁, version, h₁, -, rfl⟩
  rcases map_eq_accepted h₁ with ⟨library, -, rfl⟩
  have hsymbolValues := hP.asList (fun hvalue haccepted => hP.symbol hvalue haccepted)
    (hP.field hvalue) hsymbols
  intro value hmem
  rcases List.mem_flatMap.1 hmem with ⟨symbol, hsymbol, hvalue⟩
  exact hsymbolValues symbol hsymbol value hvalue

theorem inherited_regular {number : Binary64 → Prop} {room : Nat} (hroom : 0 < room) :
    Inherited (Json.Regular number room) where
  null := trivial
  empty := Json.regular_obj.2 ⟨hroom, by simp [Table.keys], by simp⟩
  item h item hmem := ((Json.regular_arr.1 h).2 item hmem).mono (Nat.sub_le _ _)
  field h field hmem := ((Json.regular_obj.1 h).2.2 field hmem).mono (Nat.sub_le _ _)

end Reading

/-! ## What may be written -/

section Obstacles

open Json (Regular)

variable {number : Binary64 → Prop} {bound : Nat}

theorem regular_of_parametersObstacle? {parameters : List Parameter}
    (hfree : parametersObstacle? parameters = none)
    (h : ∀ value ∈ defaultValues parameters, Regular number bound value) :
    ∀ value ∈ defaultValues parameters, Regular number (Json.maxDepth + 1) value := by
  intro value hmem
  have hregular := h value hmem
  rcases List.mem_map.1 hmem with ⟨parameter, hparameter, rfl⟩
  have hobstacle := List.findSome?_eq_none_iff.1 hfree parameter hparameter
  exact (hregular.of_obstacle? hobstacle).mono (Nat.le_succ _)

theorem regular_of_membersObstacle? {members : Members} (hfree : members.obstacle? = none)
    (h : ∀ value ∈ members.freeForm, Regular number bound value) :
    ∀ value ∈ members.freeForm, Regular number (Json.maxDepth + 1) value := by
  rcases Option.or_eq_none_iff.1 hfree with ⟨hmethods, hevents⟩
  rcases List.forall_mem_append.1 h with ⟨hdefaults, hparameters⟩
  refine List.forall_mem_append.2 ⟨?_, ?_⟩
  · intro value hmem
    rcases List.mem_flatMap.1 hmem with ⟨method, hmethod, hvalue⟩
    have hregular : ∀ inner ∈ defaultValues method.parameters, Regular number bound inner :=
      fun inner hinner => hdefaults inner (List.mem_flatMap.2 ⟨method, hmethod, hinner⟩)
    exact regular_of_parametersObstacle? (List.findSome?_eq_none_iff.1 hmethods method hmethod)
      hregular value hvalue
  · intro value hmem
    have hregular := hparameters value hmem
    rcases List.mem_map.1 hmem with ⟨event, hevent, rfl⟩
    exact hregular.of_obstacle? (List.findSome?_eq_none_iff.1 hevents event hevent)

theorem regular_of_contentObstacle? {content : Content} (hfree : content.obstacle? = none)
    (h : ∀ value ∈ content.freeForm, Regular number bound value) :
    ∀ value ∈ content.freeForm, Regular number (Json.maxDepth + 1) value := by
  cases content with
  | nameSpace base members => exact regular_of_membersObstacle? hfree h
  | classType base interfaces isAbstract constructor members =>
      rcases Option.or_eq_none_iff.1 hfree with ⟨hconstructor, hmembers⟩
      rcases List.forall_mem_append.1 h with ⟨hdefaults, hfreeForm⟩
      refine List.forall_mem_append.2 ⟨?_, regular_of_membersObstacle? hmembers hfreeForm⟩
      cases constructor with
      | none => simp [defaultValues]
      | some constructor => exact regular_of_parametersObstacle? hconstructor hdefaults
  | enumeration entries => simp [Content.freeForm]
  | interfaceType base members => exact regular_of_membersObstacle? hfree h
  | typeAlias => simp [Content.freeForm]

/-- In a document that may be written no free-form value is nested too deep. -/
theorem regular_of_obstacle? {document : Document} (hfree : document.obstacle? = none)
    (h : ∀ value ∈ document.freeForm, Regular number bound value) :
    ∀ value ∈ document.freeForm, Regular number (Json.maxDepth + 1) value := by
  intro value hmem
  rcases List.mem_flatMap.1 hmem with ⟨symbol, hsymbol, hvalue⟩
  have hregular : ∀ inner ∈ symbol.content.freeForm, Regular number bound inner :=
    fun inner hinner => h inner (List.mem_flatMap.2 ⟨symbol, hsymbol, hinner⟩)
  exact regular_of_contentObstacle? (List.findSome?_eq_none_iff.1 hfree symbol hsymbol) hregular
    value hvalue

end Obstacles

end Document
end Typings
