import Typings.Proofs.Hierarchy.Agreement
import Typings.Proofs.Tree.Levels
import Typings.Proofs.Tree.Reconciled

/-!
# Owners of methods

A method keeps the kind of the symbol that it was declared for, while only namespaces, classes and
interfaces come to have methods. Both stay so when overriding methods are settled.

* `Declaration.OwnsMethods`: every method keeps the kind of its declaration;
* `Declaration.hasMethods_of_mem_callables`: the kinds that have methods;
* `Tree.ownsMethods_reconcile`: the methods of a reconciled tree.
-/

namespace Typings

/-- Whether symbols of a kind have methods. -/
def Kind.HasMethods (kind : Kind) : Prop :=
  kind = .nameSpace ∨ kind = .classType ∨ kind = .interfaceType

namespace Declaration

variable {d : Declaration} {method : Method}

/-- Every method keeps the kind of its declaration. -/
def OwnsMethods (d : Declaration) : Prop :=
  ∀ method ∈ d.callables, method.ownerKind = d.kind

theorem hasMethods_of_mem_callables (hmem : method ∈ d.callables) : d.kind.HasMethods := by
  rw [callables] at hmem
  rw [kind]
  cases hbody : d.body with
  | nameSpace members => exact .inl rfl
  | classType base interfaces constructor members => exact .inr (.inl rfl)
  | interfaceType base members => exact .inr (.inr rfl)
  | container | enumeration entries | typeAlias =>
      rw [hbody] at hmem
      cases hmem

/-! ## Declarations of symbols -/

theorem ownsMethods_ofSymbol (replacements : Config.Replacements) (library : String)
    (symbol : Document.Symbol) : (ofSymbol replacements library symbol).OwnsMethods := by
  rcases symbol with ⟨heading, content⟩
  intro method hmem
  rcases List.mem_append.1 hmem with hmethod | hconstructor
  · cases content with
    | nameSpace base members | classType base interfaces isAbstract constructor members
      | interfaceType base members =>
        obtain ⟨documented, _, rfl⟩ := List.mem_map.1 hmethod
        rfl
    | enumeration entries | typeAlias => cases hmethod
  · cases content with
    | classType base interfaces isAbstract constructor members =>
        obtain ⟨documented, _, rfl⟩ := Option.map_eq_some_iff.1 (Option.mem_toList.1 hconstructor)
        rfl
    | nameSpace _ _ | interfaceType _ _ | enumeration _ | typeAlias => cases hconstructor

end Declaration

/-! ## Reconciled declarations -/

namespace Hierarchy

variable {h : Hierarchy} {c : Class} {rules : Config.MemberRules} {method : Method}

/-- A settled method comes from one that lies in the same symbol. -/
theorem exists_of_mem_settledMethods (hmem : method ∈ h.settledMethods rules c) :
    ∃ old ∈ c.methods, method.ownerKind = old.ownerKind := by
  rw [settledMethods] at hmem
  split at hmem
  · obtain ⟨old, hold, rfl⟩ := List.mem_map.1 hmem
    obtain ⟨type, visibility, hkept⟩ := settleMethod_kept (h.reconcile rules) rules c old
    exact ⟨old, hold, by rw [hkept]⟩
  · exact ⟨method, hmem, rfl⟩

end Hierarchy

namespace Tree

variable {config : Config} {documents : List Document} {d : Declaration} {c : Class}

theorem kind_withMethodsFrom (h : Hierarchy) (d : Declaration) :
    (d.withMethodsFrom h).kind = d.kind := by
  rw [Declaration.withMethodsFrom]
  split
  · next hbody =>
    split
    · simp [Declaration.kind, hbody, Body.kind]
    · rfl
  · rfl

theorem methods_of_class? (hclass : d.class? = some c) : c.methods = d.body.methods := by
  rw [Declaration.class?] at hclass
  split at hclass
  · next hbody =>
    cases hclass
    rw [hbody]
    rfl
  · cases hclass

/-- A declared class has the methods of the hierarchy and the constructor that it had. -/
theorem callables_withMethodsFrom {h : Hierarchy} {settled : Class} (hclass : d.class? = some c)
    (hget : h.get? d.fullName = some settled) :
    (d.withMethodsFrom h).callables = settled.methods ++ d.body.constructor?.toList := by
  rw [Declaration.class?] at hclass
  split at hclass
  · next hbody =>
    simp [Declaration.withMethodsFrom, Declaration.callables, hbody, hget, Body.methods,
      Body.constructor?]
  · cases hclass

/-- In a reconciled tree every method keeps the kind of its declaration. -/
theorem ownsMethods_reconcile
    (hmem : d ∈ (ofDocuments config documents).reconcile.forest.walk) : d.OwnsMethods := by
  rw [reconcile, Forest.walk_map] at hmem
  obtain ⟨declared, hdeclared, rfl⟩ := List.mem_map.1 hmem
  have howns : declared.OwnsMethods := by
    rcases of_mem_walk hdeclared with hcontainer | hdocumented
    · intro method hmethod
      rw [Declaration.callables, hcontainer] at hmethod
      cases hmethod
    · obtain ⟨entry, _, rfl⟩ := List.mem_map.1 hdocumented
      exact Declaration.ownsMethods_ofSymbol config.replacements entry.library entry.symbol
  cases hclass : declared.class? with
  | none => rwa [withMethodsFrom_of_class?_none _ hclass]
  | some c =>
      have hc : (ofDocuments config documents).hierarchy.Coherent := Hierarchy.coherent_ofList _
      have hsettled := hc.get?_reconcile (ofDocuments config documents).config.replacements.specific
        (mem_classes_of_class? hdeclared hclass)
      rw [fullName_of_class? hclass] at hsettled
      intro method hmethod
      rw [kind_withMethodsFrom]
      rw [callables_withMethodsFrom hclass hsettled, List.mem_append] at hmethod
      rcases hmethod with hmethod | hconstructor
      · obtain ⟨old, hold, hkind⟩ := Hierarchy.exists_of_mem_settledMethods hmethod
        rw [hkind]
        refine howns old (List.mem_append_left _ ?_)
        rwa [← methods_of_class? hclass]
      · exact howns method (List.mem_append_right _ hconstructor)

end Tree
end Typings
