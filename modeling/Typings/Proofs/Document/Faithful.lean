import Typings.Proofs.Document.RoundTrip
import Typings.Proofs.Json.Inside

/-!
# Documents that come back

A document is read back from its text as it was, as long as it has one. It has none when a default
value or an event parameter is nested too deep to be written or has a key with a surrogate.

* `Document.Accepted`: documents that are read, from a text or from a value;
* `Document.Writable`, `Document.write_eq_ok_iff`: documents that have a text;
* `Document.parse_write`: they are read back, without their infinite and undefined numbers;
* `Document.reads_back_iff_writable`: exactly they are read back as they were.
-/

namespace Typings
namespace Document

variable {document copy : Document} {layout : Json.Layout} {written : String}

/-! ## Free-form values by what they belong to -/

def Content.parameters : Content → List Parameter
  | .nameSpace _ members | .interfaceType _ members => members.methods.flatMap (·.parameters)
  | .classType _ _ _ constructor members =>
      (constructor.map (·.parameters)).getD [] ++ members.methods.flatMap (·.parameters)
  | .enumeration _ | .typeAlias => []

def Content.events : Content → List Event
  | .nameSpace _ members | .interfaceType _ members | .classType _ _ _ _ members => members.events
  | .enumeration _ | .typeAlias => []

/-- The parameters of all methods and constructors. -/
def parameters (document : Document) : List Parameter :=
  document.symbols.flatMap fun symbol => symbol.content.parameters

def events (document : Document) : List Event :=
  document.symbols.flatMap fun symbol => symbol.content.events

theorem Content.freeForm_eq (content : Content) :
    content.freeForm = defaultValues content.parameters ++ content.events.map Event.freeForm := by
  cases content <;> simp [freeForm, parameters, events, Members.freeForm, defaultValues,
    List.map_flatMap]

theorem forall_mem_freeForm {P : Json → Prop} :
    (∀ value ∈ document.freeForm, P value) ↔
      (∀ parameter ∈ document.parameters, P parameter.defaultValue) ∧
        ∀ event ∈ document.events, P event.freeForm := by
  simp only [freeForm, parameters, events, Content.freeForm_eq, defaultValues,
    List.forall_mem_flatMap, List.forall_mem_append, List.forall_mem_map, imp_and, forall_and]

/-! ## Documents with a text -/

/-- A document whose free-form values are not nested too deep and have keys with a UTF-8 form. -/
structure Writable (document : Document) : Prop where
  defaults : ∀ parameter ∈ document.parameters, parameter.defaultValue.depth ≤ Json.maxDepth
  events : ∀ event ∈ document.events, ∀ field ∈ event.parameters, field.2.depth ≤ Json.maxDepth
  keys : ∀ value ∈ document.freeForm, ∀ key ∈ value.keys, Surrogate.fault? key = none

theorem parametersObstacle?_eq_none_iff {parameters : List Parameter} :
    parametersObstacle? parameters = none ↔
      ∀ parameter ∈ parameters, parameter.defaultValue.obstacle? Json.maxDepth = none :=
  List.findSome?_eq_none_iff

theorem Members.obstacle?_eq_none_iff {members : Members} :
    members.obstacle? = none ↔
      (∀ parameter ∈ members.methods.flatMap (·.parameters),
        parameter.defaultValue.obstacle? Json.maxDepth = none) ∧
          ∀ event ∈ members.events, event.obstacle? = none := by
  rw [obstacle?, Option.or_eq_none_iff, List.findSome?_eq_none_iff, List.findSome?_eq_none_iff,
    List.forall_mem_flatMap]
  simp only [parametersObstacle?_eq_none_iff]

theorem Content.obstacle?_eq_none_iff {content : Content} :
    content.obstacle? = none ↔
      (∀ parameter ∈ content.parameters, parameter.defaultValue.obstacle? Json.maxDepth = none) ∧
        ∀ event ∈ content.events, event.obstacle? = none := by
  cases content with
  | nameSpace base members => exact Members.obstacle?_eq_none_iff
  | classType base interfaces isAbstract constructor members =>
      rw [obstacle?, Option.or_eq_none_iff, Members.obstacle?_eq_none_iff, parameters,
        List.forall_mem_append, and_assoc]
      refine and_congr_left fun _ => ?_
      cases constructor with
      | none => simp
      | some constructor => exact parametersObstacle?_eq_none_iff
  | enumeration entries => simp [obstacle?, parameters, events]
  | interfaceType base members => exact Members.obstacle?_eq_none_iff
  | typeAlias => simp [obstacle?, parameters, events]

theorem Event.obstacle?_eq_none_iff {event : Event} :
    event.obstacle? = none ↔
      (∀ field ∈ event.parameters, field.2.depth ≤ Json.maxDepth) ∧
        ∀ key ∈ event.freeForm.keys, Surrogate.fault? key = none := by
  -- the parameters of an event have the room of a value, so an object of them takes one more
  have hfields : event.obstacle? = none ↔
      event.freeForm.obstacle? (Json.maxDepth + 1) = none := by
    rw [freeForm, Json.obstacle?, if_neg (Nat.succ_ne_zero _), Nat.add_sub_cancel, obstacle?]
  rw [hfields, Json.obstacle?_eq_none_iff, freeForm, Json.depth, Nat.add_le_add_iff_right,
    Json.fieldsDepth_le_iff]

/-- Nothing else keeps a document from being written. -/
theorem obstacle?_eq_none_iff : document.obstacle? = none ↔ document.Writable := by
  have hobstacle : document.obstacle? = none ↔
      (∀ parameter ∈ document.parameters,
        parameter.defaultValue.obstacle? Json.maxDepth = none) ∧
          ∀ event ∈ document.events, event.obstacle? = none := by
    simp only [obstacle?, List.findSome?_eq_none_iff, Content.obstacle?_eq_none_iff, parameters,
      events, List.forall_mem_flatMap, imp_and, forall_and]
  simp only [hobstacle, Json.obstacle?_eq_none_iff, Event.obstacle?_eq_none_iff, imp_and,
    forall_and]
  constructor
  · rintro ⟨⟨hdefaults, hdefaultKeys⟩, hevents, heventKeys⟩
    exact ⟨hdefaults, hevents, forall_mem_freeForm.2 ⟨hdefaultKeys, heventKeys⟩⟩
  · rintro ⟨hdefaults, hevents, hkeys⟩
    obtain ⟨hdefaultKeys, heventKeys⟩ := forall_mem_freeForm.1 hkeys
    exact ⟨⟨hdefaults, hdefaultKeys⟩, hevents, heventKeys⟩

theorem write_eq_ok_iff :
    document.write layout = .ok written ↔
      document.Writable ∧ document.render layout = written := by
  rw [← obstacle?_eq_none_iff, write]
  cases document.obstacle? <;> simp

/-! ## Finite numbers -/

/-- A document without infinite and undefined numbers. -/
def Finite (document : Document) : Prop :=
  ∀ value ∈ document.freeForm, ∀ number ∈ value.numbers, number.isFinite = true

theorem Parameter.map_finiteOnly {parameters : List Parameter}
    (h : ∀ value ∈ defaultValues parameters, value.finiteOnly = value) :
    parameters.map finiteOnly = parameters := by
  refine map_eq_self fun parameter hmem => ?_
  rw [finiteOnly, h _ (List.mem_map_of_mem hmem)]

theorem Event.finiteOnly_eq_self {event : Event} (h : event.freeForm.finiteOnly = event.freeForm) :
    event.finiteOnly = event := by
  rw [freeForm, Json.finiteOnly, Json.obj.injEq] at h
  rw [finiteOnly, h]

theorem Members.finiteOnly_eq_self {members : Members}
    (h : ∀ value ∈ members.freeForm, value.finiteOnly = value) : members.finiteOnly = members := by
  obtain ⟨hdefaults, hevents⟩ := List.forall_mem_append.1 h
  have hmethods : members.methods.map Method.finiteOnly = members.methods := by
    refine map_eq_self fun method hmem => ?_
    rw [Method.finiteOnly, Parameter.map_finiteOnly]
    intro value hvalue
    exact hdefaults value (List.mem_flatMap.2 ⟨method, hmem, hvalue⟩)
  have hparameters : members.events.map Event.finiteOnly = members.events :=
    map_eq_self fun event hmem =>
      Event.finiteOnly_eq_self (hevents _ (List.mem_map_of_mem hmem))
  rw [finiteOnly, hmethods, hparameters]

theorem Content.finiteOnly_eq_self {content : Content}
    (h : ∀ value ∈ content.freeForm, value.finiteOnly = value) : content.finiteOnly = content := by
  cases content with
  | nameSpace base members => rw [finiteOnly, Members.finiteOnly_eq_self h]
  | classType base interfaces isAbstract constructor members =>
      obtain ⟨hdefaults, hmembers⟩ := List.forall_mem_append.1 h
      rw [finiteOnly, Members.finiteOnly_eq_self hmembers]
      cases constructor with
      | none => rfl
      | some constructor =>
          have hparameters : constructor.parameters.map Parameter.finiteOnly =
              constructor.parameters := Parameter.map_finiteOnly hdefaults
          rw [Option.map_some, Constructor.finiteOnly, hparameters]
  | enumeration entries => rfl
  | interfaceType base members => rw [finiteOnly, Members.finiteOnly_eq_self h]
  | typeAlias => rfl

theorem Finite.finiteOnly_eq_self (h : document.Finite) : document.finiteOnly = document := by
  have hsymbols : document.symbols.map Symbol.finiteOnly = document.symbols := by
    refine map_eq_self fun symbol hmem => ?_
    rw [Symbol.finiteOnly, Content.finiteOnly_eq_self]
    intro value hvalue
    exact Json.finiteOnly_eq_self (h value (List.mem_flatMap.2 ⟨symbol, hmem, hvalue⟩))
  rw [finiteOnly, hsymbols]

/-! ## Reading back -/

/-- A document that is read: from a text, or from a value with distinct keys and with numbers that
texts can write, which may be nested deeper than texts are. -/
def Accepted (document : Document) : Prop :=
  (∃ text, parse text = .ok document) ∨
    ∃ value room, Json.Regular Binary64.InRange room value ∧ ofJson value = .ok document

theorem Accepted.regular_freeForm (h : document.Accepted) :
    ∃ room, ∀ value ∈ document.freeForm, Json.Regular Binary64.InRange room value := by
  rcases h with ⟨text, hparse⟩ | ⟨value, room, hregular, hread⟩
  · exact ⟨Json.maxNesting, regular_freeForm_of_parse hparse⟩
  · have hinherited : Inherited (Json.Regular Binary64.InRange (room + 1)) :=
      inherited_regular (Nat.succ_pos room)
    exact ⟨room + 1,
      hinherited.document (hregular.mono (Nat.le_succ room)) (ofJson_eq_ok hread)⟩

/-- A document with a text is read back without its infinite and undefined numbers. -/
theorem parse_write (haccepted : document.Accepted) (hblank : layout.IsBlank)
    (hwrite : document.write layout = .ok written) : parse written = .ok document.finiteOnly := by
  obtain ⟨hwritable, rfl⟩ := write_eq_ok_iff.1 hwrite
  obtain ⟨room, hregular⟩ := haccepted.regular_freeForm
  -- what the writer lets pass is shallow enough for the reader, the fields around it included
  have hshallow := regular_of_obstacle? (obstacle?_eq_none_iff.2 hwritable) hregular
  have hlimit : Json.Regular Binary64.Writable Json.maxNesting document.toJson :=
    (regular_toJson hshallow).mono (by decide)
  exact parse_of_toJson (Json.parse_render hblank hlimit)

/-- The documents that are read back as they were, and have the same text again, are those that
have a text. -/
theorem reads_back_iff_writable (haccepted : document.Accepted) (hfinite : document.Finite)
    (hblank : layout.IsBlank) :
    (∃ written, document.write layout = .ok written ∧ parse written = .ok document ∧
      ∀ copy, parse written = .ok copy → copy.write layout = .ok written) ↔
        document.Writable := by
  constructor
  · rintro ⟨written, hwrite, -, -⟩
    exact (write_eq_ok_iff.1 hwrite).1
  · intro hwritable
    have hwrite : document.write layout = .ok (document.render layout) :=
      write_eq_ok_iff.2 ⟨hwritable, rfl⟩
    have hparse := parse_write haccepted hblank hwrite
    rw [hfinite.finiteOnly_eq_self] at hparse
    refine ⟨_, hwrite, hparse, ?_⟩
    intro copy hcopy
    rw [hparse, Except.ok.injEq] at hcopy
    rwa [← hcopy]

/-! ## A private-use key, and a value that is too deep -/

/-- Arrays inside each other. -/
def arrays : Nat → Json
  | 0 => .arr []
  | count + 1 => .arr [arrays count]

theorem depth_arrays (count : Nat) : (arrays count).depth = count + 1 := by
  induction count with
  | zero => rfl
  | succ count ih => rw [arrays, Json.depth, Json.itemsDepth, Json.itemsDepth, ih, Nat.max_zero]

theorem keys_arrays (count : Nat) : (arrays count).keys = [] := by
  induction count with
  | zero => rfl
  | succ count ih => rw [arrays, Json.keys_arr, List.flatMap_singleton, ih]

theorem numbers_arrays (count : Nat) : (arrays count).numbers = [] := by
  induction count with
  | zero => rfl
  | succ count ih => rw [arrays, Json.numbers_arr, List.flatMap_singleton, ih]

theorem regular_arrays (number : Binary64 → Prop) (count : Nat) :
    Json.Regular number (count + 1) (arrays count) := by
  induction count with
  | zero => exact Json.regular_arr.2 ⟨Nat.one_pos, by simp⟩
  | succ count ih => exact Json.regular_arr.2 ⟨Nat.succ_pos _, by simpa using ih⟩

/-- A namespace with one function, whose only parameter has a default value. -/
def withDefault (value : Json) : Document where
  library := "sap.ui"
  version := "1"
  symbols := [{
    heading := ⟨"sap.ui", "ui", .isPublic, none, none, ""⟩
    content := .nameSpace none {
      methods := [{
        name := "load"
        visibility := .isPublic
        isStatic := true
        description := ""
        parameters := [⟨"options", "object", false, false, "", value⟩]
        returnValue := none }]
      properties := []
      events := [] } }]

theorem freeForm_withDefault (value : Json) : (withDefault value).freeForm = [value] := rfl

theorem writable_withDefault {value : Json} :
    (withDefault value).Writable ↔
      value.depth ≤ Json.maxDepth ∧ ∀ key ∈ value.keys, Surrogate.fault? key = none := by
  constructor
  · rintro ⟨hdefaults, -, hkeys⟩
    exact ⟨hdefaults _ (List.mem_singleton_self _), hkeys value (List.mem_singleton_self value)⟩
  · rintro ⟨hdepth, hkeys⟩
    exact ⟨List.forall_mem_singleton.2 hdepth, by simp [events, withDefault, Content.events],
      List.forall_mem_singleton.2 hkeys⟩

theorem finite_withDefault_arrays (count : Nat) : (withDefault (arrays count)).Finite := by
  rw [Finite, freeForm_withDefault, List.forall_mem_singleton, numbers_arrays]
  exact List.forall_mem_nil _

/-- The document has a text, which any writer without a limit of its own gives. -/
theorem accepted_withDefault_arrays {count : Nat} (hcount : count + 8 ≤ Json.maxNesting) :
    (withDefault (arrays count)).Accepted := by
  have hregular : ∀ value ∈ (withDefault (arrays count)).freeForm,
      Json.Regular Binary64.InRange (count + 1) value :=
    List.forall_mem_singleton.2 (regular_arrays _ count)
  have hblank : Json.Layout.IsBlank .inline := trivial
  have hparse := parse_of_toJson
    (Json.parse_render hblank ((regular_toJson hregular).mono hcount))
  rw [(finite_withDefault_arrays count).finiteOnly_eq_self] at hparse
  exact .inl ⟨_, hparse⟩

/-- An object with one key, which is made of characters. -/
def keyed (characters : List Char) : Json :=
  .obj [(String.ofList (Surrogate.hold characters), arrays 1)]

theorem writable_withDefault_keyed (characters : List Char) :
    (withDefault (keyed characters)).Writable := by
  have hdepth : (keyed characters).depth = 3 := by
    simp [keyed, Json.depth, Json.fieldsDepth, depth_arrays]
  refine writable_withDefault.2 ⟨by rw [hdepth]; decide, ?_⟩
  rw [keyed, Json.keys_obj]
  simp [Table.keys, keys_arrays, Surrogate.fault?_hold]

theorem finite_withDefault_keyed (characters : List Char) :
    (withDefault (keyed characters)).Finite := by
  rw [Finite, freeForm_withDefault, List.forall_mem_singleton, keyed, Json.numbers_obj,
    List.flatMap_singleton, numbers_arrays]
  exact List.forall_mem_nil _

/-- A private-use character of the range that stands for surrogates. -/
def privateUse : Char := ⟨0x10D800, by decide⟩

/-- A text that spells the character as a pair of surrogates. -/
def keyedText : String :=
  "\x7b\"library\": \"sap.ui\", \"version\": \"1\", \"symbols\": [\x7b\"name\": \"sap.ui\", " ++
    "\"basename\": \"ui\", \"kind\": \"namespace\", \"methods\": [\x7b\"name\": \"load\", " ++
    "\"static\": true, \"parameters\": [\x7b\"name\": \"options\", \"type\": \"object\", " ++
    "\"defaultValue\": \x7b\"\\udbf6\\udc00\": [[]]\x7d\x7d]\x7d]\x7d]\x7d"

/-- The character is no surrogate, and a document with it in a key is read back. -/
theorem reads_back_private_use :
    parse keyedText = .ok (withDefault (keyed [privateUse])) ∧
      ∃ written, (withDefault (keyed [privateUse])).write .inline = .ok written ∧
        parse written = .ok (withDefault (keyed [privateUse])) ∧
          ∀ copy, parse written = .ok copy → copy.write .inline = .ok written := by
  have hparse : parse keyedText = .ok (withDefault (keyed [privateUse])) := by
    decide +kernel
  have haccepted : (withDefault (keyed [privateUse])).Accepted := .inl ⟨keyedText, hparse⟩
  have hblank : Json.Layout.IsBlank .inline := trivial
  exact ⟨hparse, (reads_back_iff_writable haccepted (finite_withDefault_keyed _) hblank).2
    (writable_withDefault_keyed _)⟩

/-- With more arrays inside each other the document is read all the same, but not written. -/
theorem not_reads_back_deep :
    (withDefault (arrays 299)).Accepted ∧ (withDefault (arrays 299)).Finite ∧
      ¬ ∃ written, (withDefault (arrays 299)).write .inline = .ok written ∧
        parse written = .ok (withDefault (arrays 299)) := by
  refine ⟨accepted_withDefault_arrays (by decide), finite_withDefault_arrays 299, ?_⟩
  rintro ⟨written, hwrite, -⟩
  have hdepth := (writable_withDefault.1 (write_eq_ok_iff.1 hwrite).1).1
  rw [depth_arrays] at hdepth
  exact absurd hdepth (by decide)

end Document
end Typings
