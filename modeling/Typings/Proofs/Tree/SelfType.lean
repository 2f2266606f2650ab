import Mathlib.Data.List.Forall2
import Typings.Proofs.Hierarchy.Agreement
import Typings.Proofs.Tree.Levels
import Typings.Proofs.Tree.Reconciled

/-!
# Methods that are kept from returning `this`

The configuration names methods that do not come to return `this` when their type is inferred, nor
when a method overrides one that returns its own class. It has no say where the overridden method
returns `this` itself: that type is taken over like any other.

* `exists_documented`: the methods of a declared class, settled, one by one those of its document;
* `settledOutcome_eq_selfType_iff`: one settled method that the configuration names;
* `outcome_eq_selfType_iff`: when such a method returns `this` in a reconciled tree.
-/

namespace Typings

/-! ## Documented types -/

/-- The type that a documented method states for its result, after the configured replacements. -/
def Method.ownOutcome (replacements : Config.Replacements) (ownerName : String)
    (method : Document.Method) : String :=
  TypeText.replace replacements
    (Method.statedOutcome replacements.specific (Method.qualify ownerName method.name) method)

/-- No self type is inferred for a method that the configuration names. -/
theorem Method.declaredOutcome_of_excluded {replacements : Config.Replacements}
    {ownerName : String} {ownerKind : Kind} {method : Document.Method}
    (hexcluded : Method.qualify ownerName method.name ∈
      replacements.specific.methodReturnTypeNotThis) :
    Method.declaredOutcome replacements ownerName ownerKind method =
      Method.ownOutcome replacements ownerName method := by
  simp [declaredOutcome, ownOutcome, hexcluded]

namespace Hierarchy

variable {h : Hierarchy} {c declaring : Class} {overridden method : Method}
  {rules : Config.MemberRules}

/-! ## One settled method -/

/-- A method that the configuration names is settled on `this` when it returns `this` already or
overrides a method that does so. -/
theorem settledOutcome_eq_selfType_iff
    (hexcluded : method.fullName ∈ rules.methodReturnTypeNotThis) :
    h.settledOutcome rules declaring overridden c method = selfType ↔
      method.outcome.type = selfType ∨
        (overridden.outcome.type = selfType ∧ declaring.fullName ≠ selfType ∧
          h.compatible selfType method.outcome.type = false) := by
  by_cases hfits : h.compatible overridden.outcome.type method.outcome.type = true
  · have hkept : h.settledOutcome rules declaring overridden c method = method.outcome.type := by
      simp [settledOutcome, requiredOutcome?, hfits]
    rw [hkept]
    refine ⟨.inl, ?_⟩
    rintro (hself | ⟨hself, _, hunfit⟩)
    · exact hself
    · rw [hself, hunfit] at hfits
      cases hfits
  -- `this` fits everywhere, so the method does not return it
  have hother : method.outcome.type ≠ selfType := by
    intro hself
    rw [hself] at hfits
    exact hfits (compatible_selfType _)
  by_cases hfluent : overridden.outcome.type = declaring.fullName
  · have hkept : h.settledOutcome rules declaring overridden c method = method.outcome.type := by
      simp [settledOutcome, requiredOutcome?, hfluent, hexcluded]
    rw [hkept]
    refine ⟨.inl, ?_⟩
    rintro (hself | ⟨hself, hdeclaring, _⟩)
    · exact hself
    · exact absurd (hfluent.symm.trans hself) hdeclaring
  · have hrequired : h.requiredOutcome? rules declaring overridden c method =
        some overridden.outcome.type := by
      rw [requiredOutcome?, if_neg hfits, if_neg hfluent]
    simp only [settledOutcome, hrequired]
    constructor
    · intro hself
      split_ifs at hself with hnew
      · refine .inr ⟨hself, ?_, ?_⟩
        · exact fun hdeclaring => hfluent (hself.trans hdeclaring.symm)
        · rwa [hself, Bool.not_eq_true] at hfits
      · exact absurd hself hother
    · rintro (hself | ⟨hself, _, _⟩)
      · exact absurd hself hother
      · rw [hself, if_pos ⟨by decide, by decide, hother⟩]

end Hierarchy

namespace Tree

variable {config : Config} {documents : List Document} {d : Declaration} {c : Class}

/-! ## Declared classes -/

/-- The methods of a declared class are those of its document, settled when the class is below a
root. -/
theorem exists_documented (hmem : d ∈ (ofDocuments config documents).reconcile.forest.walk)
    (hclass : d.class? = some c) :
    c ∈ (ofDocuments config documents).reconcile.hierarchy.classes ∧
    ∃ entry ∈ Outline.kept config documents, entry.symbol.heading.name = d.fullName ∧
    ∃ base interfaces isAbstract constructor members,
      entry.symbol.content = .classType base interfaces isAbstract constructor members ∧
      c.methods =
        let declared := members.methods.map
          (Method.ofDocument config.replacements d.fullName .classType)
        if c.fullName ∈ (ofDocuments config documents).hierarchy.settlingOrder then
          declared.map ((ofDocuments config documents).reconcile.hierarchy.settleMethod
            config.replacements.specific c)
        else declared := by
  have hc : (ofDocuments config documents).hierarchy.Coherent := Hierarchy.coherent_ofList _
  have hclasses := hc.reconcile config.replacements.specific
  rw [reconcile, Forest.walk_map] at hmem
  rcases List.mem_map.1 hmem with ⟨declared, hdeclared, rfl⟩
  -- a declaration is a container, which is no class, or comes from a symbol
  rcases of_mem_walk hdeclared with hcontainer | hdocumented
  · simp [Declaration.withMethodsFrom, Declaration.class?, hcontainer] at hclass
  · rcases List.mem_map.1 hdocumented with ⟨entry, hentry, rfl⟩
    cases hcontent : entry.symbol.content with
    | classType base interfaces isAbstract constructor members =>
        let documented : Class :=
          { name := QualifiedName.simple entry.symbol.heading.name
            fullName := entry.symbol.heading.name
            base := base
            methods := members.methods.map
              (Method.ofDocument config.replacements entry.symbol.heading.name .classType) }
        have hfound : (Declaration.ofSymbol config.replacements entry.library
            entry.symbol).class? = some documented := by
          simp only [Declaration.class?, Declaration.ofSymbol, Declaration.bodyOf, hcontent]
          rfl
        have hsettled := hc.get?_reconcile config.replacements.specific
          (mem_classes_of_class? hdeclared hfound)
        have hc? := (class?_withMethodsFrom hfound hsettled).symm.trans hclass
        rw [Class.withMethods_methods, Option.some.injEq] at hc?
        subst hc?
        rw [fullName_withMethodsFrom]
        exact ⟨(hclasses.mem_of_get? hsettled).1, entry, hentry, rfl, base, interfaces,
          isAbstract, constructor, members, hcontent, rfl⟩
    | _ =>
        simp [Declaration.withMethodsFrom, Declaration.class?, Declaration.ofSymbol,
          Declaration.bodyOf, hcontent] at hclass

/-! ## Methods that the configuration names -/

/-- A method takes `this` over from the method that it overrides: its class is below a root, the
overridden method returns `this`, and the type that the method states does not fit. -/
def TakesSelfType (h : Hierarchy) (c : Class) (method : Method) (stated : String) : Prop :=
  h.Rooted c ∧ ∃ declaring overridden, h.overridden? c method = some (declaring, overridden) ∧
    overridden.outcome.type = selfType ∧ declaring.fullName ≠ selfType ∧
    h.compatible selfType stated = false

/-- When a declared method is the documented one, and its result is `this` only for the reasons that
the configuration leaves. -/
structure Protected (config : Config) (h : Hierarchy) (c : Class) (documented : Document.Method)
    (method : Method) : Prop where
  name : method.name = documented.name
  fullName : method.fullName = Method.qualify c.fullName documented.name
  /-- Its result type, when the configuration names it. -/
  outcome : method.fullName ∈ config.replacements.specific.methodReturnTypeNotThis →
    (method.outcome.type = selfType ↔
      Method.ownOutcome config.replacements c.fullName documented = selfType ∨
        TakesSelfType h c method (Method.ownOutcome config.replacements c.fullName documented))

variable {h : Hierarchy} {rules : Config.MemberRules}

theorem protected_ofDocument {documented : Document.Method}
    (hnot : ¬ ∃ found, h.Rooted c ∧ h.overridden? c
      (Method.ofDocument config.replacements c.fullName .classType documented) = some found) :
    Protected config h c documented
      (Method.ofDocument config.replacements c.fullName .classType documented) where
  name := rfl
  fullName := rfl
  outcome := by
    intro hexcluded
    have hown : (Method.ofDocument config.replacements c.fullName .classType
        documented).outcome.type = Method.ownOutcome config.replacements c.fullName documented :=
      Method.declaredOutcome_of_excluded hexcluded
    rw [hown]
    refine ⟨.inl, ?_⟩
    rintro (hself | ⟨hrooted, declaring, overridden, h?, _⟩)
    · exact hself
    · exact absurd ⟨_, hrooted, h?⟩ hnot

theorem protected_settleMethod {documented : Document.Method} (hrooted : h.Rooted c) :
    Protected config h c documented (h.settleMethod config.replacements.specific c
      (Method.ofDocument config.replacements c.fullName .classType documented)) := by
  set method := Method.ofDocument config.replacements c.fullName .classType documented with hmethod
  cases h? : h.overridden? c method with
  | none =>
      rw [Hierarchy.settleMethod_of_not_overridden h?]
      refine protected_ofDocument ?_
      rintro ⟨found, _, hfound⟩
      rw [← hmethod, h?] at hfound
      cases hfound
  | some found =>
      rcases found with ⟨declaring, overridden⟩
      rw [Hierarchy.settleMethod_of_overridden? h?]
      refine ⟨rfl, rfl, ?_⟩
      intro hexcluded
      have hown : method.outcome.type =
          Method.ownOutcome config.replacements c.fullName documented :=
        Method.declaredOutcome_of_excluded hexcluded
      -- settling changes nothing that the overridden method is found by
      have hsame : ∀ type visibility, h.overridden? c
          { method with outcome := { method.outcome with type }, visibility } =
            some (declaring, overridden) :=
        fun _ _ => (Hierarchy.overridden?_congr rfl rfl rfl rfl).trans h?
      have hself : h.settledOutcome config.replacements.specific declaring overridden c method =
          selfType ↔ _ := Hierarchy.settledOutcome_eq_selfType_iff hexcluded
      rw [hown] at hself
      refine hself.trans (or_congr_right ?_)
      constructor
      · intro htaken
        exact ⟨hrooted, declaring, overridden, hsame _ _, htaken⟩
      · rintro ⟨_, other, otherMethod, hfound, htaken⟩
        rw [hsame] at hfound
        cases hfound
        exact htaken

/-- In a reconciled tree the methods of every declared class are those of its document. One that the
configuration names returns `this` when its own type is `this`, and otherwise exactly when it takes
the type over from a method that returns `this`. -/
theorem outcome_eq_selfType_iff (config : Config) (documents : List Document) :
    let tree := (ofDocuments config documents).reconcile
    ∀ d ∈ tree.forest.walk, ∀ c, d.class? = some c →
      ∃ entry ∈ Outline.kept config documents, entry.symbol.heading.name = d.fullName ∧
      ∃ base interfaces isAbstract constructor members,
        entry.symbol.content = .classType base interfaces isAbstract constructor members ∧
        List.Forall₂ (Protected config tree.hierarchy c) members.methods c.methods := by
  intro tree d hmem c hclass
  rcases exists_documented hmem hclass with ⟨hcmem, entry, hentry, hname, base, interfaces,
    isAbstract, constructor, members, hcontent, hmethods⟩
  refine ⟨entry, hentry, hname, base, interfaces, isAbstract, constructor, members, hcontent, ?_⟩
  rw [hmethods, ← fullName_of_class? hclass]
  have hc : (ofDocuments config documents).hierarchy.Coherent := Hierarchy.coherent_ofList _
  -- what is not settled is not below a root, so that it takes nothing over
  by_cases hin : c.fullName ∈ (ofDocuments config documents).hierarchy.settlingOrder
  · rw [if_pos hin, List.map_map, List.forall₂_map_right_iff, List.forall₂_same]
    intro documented _
    exact protected_settleMethod (hc.rooted_of_mem_settlingOrder hcmem hin)
  · rw [if_neg hin, List.forall₂_map_right_iff, List.forall₂_same]
    intro documented _
    refine protected_ofDocument ?_
    rintro ⟨⟨declaring, overridden⟩, hrooted, h?⟩
    exact hin (hc.mem_settlingOrder_of_overridden? hcmem hrooted h?)

/-! ## A method that is not kept from it -/

/-- A documented method that returns a type. -/
def documentedMethod (name type : String) : Document.Method where
  name := name
  visibility := .isPublic
  isStatic := false
  description := ""
  parameters := []
  returnValue := some { type := some type, description := none }

/-- A documented class with one method that returns the class. -/
def fluentSymbol (name : String) (base : Option String) : Document.Symbol where
  heading :=
    { name := name, basename := name, visibility := .isPublic, moduleName := none
      resource := none, description := "" }
  content := .classType base [] false none
    { methods := [documentedMethod "foo" name], properties := [], events := [] }

/-- A class and a class below it; both override the same method with their own class. -/
def fluentLibrary : Document where
  library := "x"
  version := "1"
  symbols := [fluentSymbol "x.Base" none, fluentSymbol "x.Sub" (some "x.Base")]

/-- The configuration that names the method of the lower class. -/
def excludingConfig : Config where
  replacements := { specific := { methodReturnTypeNotThis := ["x.Sub.foo"] } }

/-- The method of the lower class states its own class, is named by the configuration, and returns
`this` all the same: the upper method has come to return `this`, which the lower one takes over. -/
theorem excluded_takes_selfType :
    let tree := (ofDocuments excludingConfig [fluentLibrary]).reconcile
    ∃ d ∈ tree.forest.walk, d.kind = .classType ∧ ∃ method ∈ d.body.methods,
      method.fullName ∈ excludingConfig.replacements.specific.methodReturnTypeNotThis ∧
      method.outcome.type = selfType ∧
      method.fullName = Method.qualify "x.Sub" (documentedMethod "foo" "x.Sub").name ∧
      Method.ownOutcome excludingConfig.replacements "x.Sub" (documentedMethod "foo" "x.Sub") ≠
        selfType := by
  decide +kernel

/-- The methods of the lower class are described as those of any declared class. -/
theorem outcome_eq_selfType_iff_fluentLibrary :
    let tree := (ofDocuments excludingConfig [fluentLibrary]).reconcile
    ∃ d ∈ tree.forest.walk, d.fullName = "x.Sub" ∧ ∃ c, d.class? = some c ∧
      ∃ entry ∈ Outline.kept excludingConfig [fluentLibrary],
        entry.symbol.heading.name = d.fullName ∧
        ∃ base interfaces isAbstract constructor members,
          entry.symbol.content = .classType base interfaces isAbstract constructor members ∧
          List.Forall₂ (Protected excludingConfig tree.hierarchy c) members.methods c.methods := by
  intro tree
  obtain ⟨d, hmem, hname, hclass⟩ :
      ∃ d ∈ tree.forest.walk, d.fullName = "x.Sub" ∧ d.class?.isSome = true := by
    decide +kernel
  obtain ⟨c, hc⟩ := Option.isSome_iff_exists.1 hclass
  exact ⟨d, hmem, hname, c, hc,
    outcome_eq_selfType_iff excludingConfig [fluentLibrary] d hmem c hc⟩

end Tree
end Typings
