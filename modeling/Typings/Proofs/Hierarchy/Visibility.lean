import Typings.Proofs.Hierarchy.Reference

/-!
# Visibilities after reconciliation

Settling makes a protected method public when the nearest method that it overrides is public by
then, which may be so because that one was settled before. In terms of documented visibilities,
everything is decided by the first method upwards that is not protected.

* `OverrideChain`: the methods that a method overrides, one above the other;
* `visibilityBelow`: the visibility of a method below others, told from documented visibilities;
* `Coherent.overridden?_reconcile`: what is overridden in the reconciled hierarchy;
* `visibility_reconcile`: the visibilities of all settled methods.
-/

namespace Typings
namespace Hierarchy

variable {h : Hierarchy} {c declaring : Class} {method overridden settled : Method}
  {above other : List Method} {rules : Config.MemberRules} {n : Nat}

/-! ## Chains of overridden methods -/

/-- The methods that a method of a class overrides: the nearest one above the class, then the one
that this one overrides, and so on up to one that overrides none. -/
inductive OverrideChain (h : Hierarchy) : Class → Method → List Method → Prop where
  | top {c : Class} {method : Method} (free : h.overridden? c method = none) :
      OverrideChain h c method []
  | link {c declaring : Class} {method overridden : Method} {above : List Method}
      (found : h.overridden? c method = some (declaring, overridden))
      (further : OverrideChain h declaring overridden above) :
      OverrideChain h c method (overridden :: above)

theorem OverrideChain.unique (hchain : h.OverrideChain c method above)
    (hother : h.OverrideChain c method other) : other = above := by
  induction hchain generalizing other with
  | top free =>
      cases hother with
      | top _ => rfl
      | link found _ =>
          rw [free] at found
          cases found
  | link found _ ih =>
      cases hother with
      | top free =>
          rw [free] at found
          cases found
      | link found' further' =>
          rw [found] at found'
          cases found'
          rw [ih further']

/-- On the way up from a rooted class the chain comes to an end. -/
theorem Coherent.exists_overrideChain (hc : h.Coherent) (hmem : c ∈ h.classes)
    (hr : h.RootedAt n c) (method : Method) : ∃ above, h.OverrideChain c method above := by
  induction n using Nat.strong_induction_on generalizing c method with
  | _ n ih =>
      cases h? : h.overridden? c method with
      | none => exact ⟨[], .top h?⟩
      | some found =>
          obtain ⟨declaring, overridden⟩ := found
          obtain ⟨hdmem, m, hlt, hm⟩ :=
            hc.rootedAt_of_mem_ancestors hmem hr (mem_ancestors_of_overridden? h?)
          obtain ⟨above, habove⟩ := ih m hlt hdmem hm overridden
          exact ⟨overridden :: above, .link h? habove⟩

/-! ## Visibilities along a chain -/

/-- Whether the first method of a chain that is not protected is there and public. -/
def leadsToPublic (above : List Method) : Bool :=
  (above.find? (·.visibility ≠ .isProtected)).any (·.visibility = .isPublic)

/-- The visibility of a method below those that it overrides. -/
def visibilityBelow (method : Method) (above : List Method) : Visibility :=
  if method.visibility = .isPublic ∨
      method.visibility = .isProtected ∧ leadsToPublic above = true then .isPublic
  else method.visibility

theorem leadsToPublic_cons (overridden : Method) (above : List Method) :
    leadsToPublic (overridden :: above) = true ↔
      visibilityBelow overridden above = .isPublic := by
  rw [leadsToPublic, visibilityBelow, List.find?_cons]
  cases hvisibility : overridden.visibility with
  | isPublic | isRestricted => simp [hvisibility]
  | isProtected => simp [leadsToPublic]

/-- Settling on a method that is settled itself looks as far up as that one did. -/
theorem settledVisibility_of_visibilityBelow
    (hsettled : settled.visibility = visibilityBelow overridden above) :
    settledVisibility settled method = visibilityBelow method (overridden :: above) := by
  rw [settledVisibility, visibilityBelow, hsettled]
  simp only [leadsToPublic_cons]
  cases method.visibility <;> simp

theorem visibilityBelow_eq_or (method : Method) (above : List Method) :
    visibilityBelow method above = method.visibility ∨
      method.visibility = .isProtected ∧ visibilityBelow method above = .isPublic := by
  rw [visibilityBelow]
  split
  case isTrue hpublic => exact hpublic.imp Eq.symm fun hwidened => ⟨hwidened.1, rfl⟩
  case isFalse => exact .inl rfl

theorem visibilityBelow_of_restricted {front rest : List Method} {stop : Method}
    (hfront : ∀ between ∈ front, between.visibility = .isProtected)
    (hstop : stop.visibility = .isRestricted) :
    visibilityBelow method (front ++ stop :: rest) = method.visibility := by
  have hfind : (front ++ stop :: rest).find? (·.visibility ≠ .isProtected) = some stop := by
    refine List.find?_eq_some_iff_append.2 ⟨by simp [hstop], front, rest, rfl, ?_⟩
    intro between hbetween
    simp [hfront between hbetween]
  have hnot : leadsToPublic (front ++ stop :: rest) = false := by
    rw [leadsToPublic, hfind, Option.any_some, hstop]
    rfl
  rw [visibilityBelow, hnot]
  split
  case isTrue hpublic =>
    rcases hpublic with hpublic | hwidened
    · exact hpublic.symm
    · exact absurd hwidened.2 Bool.false_ne_true
  case isFalse => rfl

/-! ## What is overridden in the end -/

/-- Every rooted class ends up with its methods settled on the reconciled hierarchy, where a root has
nothing to be settled on. -/
theorem Coherent.settledMethods_of_rootedAt (hc : h.Coherent) (hmem : c ∈ h.classes)
    (hr : h.RootedAt n c) :
    h.settledMethods rules c = c.methods.map ((h.reconcile rules).settleMethod rules c) := by
  cases n with
  | succ n => exact if_pos ((hc.mem_settlingOrder_iff hmem).2 ⟨n, hr⟩)
  | zero =>
      have hroot : h.baseOf c = none := by
        cases hr with
        | root unresolved => exact unresolved
      have hnot : c.fullName ∉ h.settlingOrder := fun hin =>
        not_belowRoot_of_root hroot ((hc.mem_settlingOrder_iff hmem).1 hin)
      have hancestors : (h.reconcile rules).ancestors c = [] := by
        rw [hc.reconcile_eq_mapMethods, ancestors_mapMethods _ (c := c) rfl rfl,
          ancestors_of_root hroot, List.map_nil]
      have hfree : ∀ method, (h.reconcile rules).overridden? c method = none := by
        intro method
        rw [overridden?, hancestors, List.findSome?_nil]
      rw [settledMethods, if_neg hnot]
      refine ((List.map_congr_left ?_).trans (List.map_id' c.methods)).symm
      intro method _
      exact settleMethod_of_not_overridden (hfree method)

theorem findSome?_congr {α β : Type} {f g : α → Option β} {l : List α}
    (h : ∀ x ∈ l, f x = g x) : l.findSome? f = l.findSome? g := by
  induction l with
  | nil => rfl
  | cons x rest ih =>
      obtain ⟨hx, hrest⟩ := List.forall_mem_cons.1 h
      rw [List.findSome?_cons, List.findSome?_cons, hx, ih hrest]

/-- In the end a method overrides the same method as in the beginning, which is settled by then. -/
theorem Coherent.overridden?_reconcile (hc : h.Coherent) (hmem : c ∈ h.classes)
    (hr : h.RootedAt n c) (method : Method) :
    (h.reconcile rules).overridden? c method =
      (h.overridden? c method).map fun (declaring, overridden) =>
        (declaring.withMethods (h.settledMethods rules),
          (h.reconcile rules).settleMethod rules declaring overridden) := by
  have hancestors : (h.reconcile rules).ancestors c =
      (h.ancestors c).map (Class.withMethods (h.settledMethods rules)) := by
    rw [hc.reconcile_eq_mapMethods, ancestors_mapMethods _ (c := c) rfl rfl]
  rw [overridden?, hancestors, List.findSome?_map, overridden?, List.map_findSome?]
  apply findSome?_congr
  intro ancestor hancestor
  -- an ancestor declares its methods as settled on the result, under the same names
  obtain ⟨hamem, m, _, hm⟩ := hc.rootedAt_of_mem_ancestors hmem hr hancestor
  have hmethods : h.settledMethods rules ancestor =
      ancestor.methods.map ((h.reconcile rules).settleMethod rules ancestor) :=
    hc.settledMethods_of_rootedAt hamem hm
  have hsame : ∀ other : Method,
      ((h.reconcile rules).settleMethod rules ancestor other).name = other.name ∧
        ((h.reconcile rules).settleMethod rules ancestor other).isStatic = other.isStatic := by
    intro other
    obtain ⟨type, visibility, hsettled⟩ :=
      settleMethod_kept (h.reconcile rules) rules ancestor other
    rw [hsettled]
    exact ⟨rfl, rfl⟩
  have hdeclared := Class.method?_withMethods hmethods (fun other => (hsame other).1)
    (fun other => (hsame other).2) method.name method.isStatic
  rw [Function.comp_apply, hdeclared, Function.comp_apply]
  cases ancestor.method? method.name method.isStatic <;> rfl

/-! ## Settled visibilities -/

/-- A settled method has the visibility that the documented ones of the methods above give it. -/
theorem Coherent.visibility_settleMethod (hc : h.Coherent) (hmem : c ∈ h.classes)
    (hr : h.RootedAt n c) (hchain : h.OverrideChain c method above) :
    ((h.reconcile rules).settleMethod rules c method).visibility =
      visibilityBelow method above := by
  -- by induction on the chain: what is overridden has been settled below the rest of it
  induction hchain generalizing n with
  | @top c method free =>
      have hfree : (h.reconcile rules).overridden? c method = none := by
        rw [hc.overridden?_reconcile hmem hr, free, Option.map_none]
      rw [settleMethod_of_not_overridden hfree]
      cases hvisibility : method.visibility <;>
        simp [visibilityBelow, hvisibility, leadsToPublic]
  | @link c declaring method overridden above found _ ih =>
      have hsettled : (h.reconcile rules).overridden? c method =
          some (declaring.withMethods (h.settledMethods rules),
            (h.reconcile rules).settleMethod rules declaring overridden) := by
        rw [hc.overridden?_reconcile hmem hr, found, Option.map_some]
      obtain ⟨hdmem, m, _, hm⟩ :=
        hc.rootedAt_of_mem_ancestors hmem hr (mem_ancestors_of_overridden? found)
      have hoverridden : ((h.reconcile rules).settleMethod rules declaring overridden).visibility =
          visibilityBelow overridden above := ih hdmem hm
      rw [settleMethod_of_overridden? hsettled]
      exact settledVisibility_of_visibilityBelow hoverridden

/-- A method below those that it overrides, and what it is settled to. -/
structure SettledBelow (above : List Method) (method settled : Method) : Prop where
  /-- Nothing but the result type and the visibility differs. -/
  same : method.SameSignature settled
  /-- A method is public in the end when it was documented so, or when it was documented as protected
  and the first method upwards that was not is there and was documented as public. -/
  isPublic_iff : settled.visibility = .isPublic ↔
    method.visibility = .isPublic ∨ method.visibility = .isProtected ∧
      ∃ first ∈ above.find? (·.visibility ≠ .isProtected), first.visibility = .isPublic
  /-- Otherwise it keeps its visibility. -/
  kept : settled.visibility ≠ .isPublic → settled.visibility = method.visibility
  /-- No method loses visibility, -/
  widened : settled.visibility = method.visibility ∨
    method.visibility = .isProtected ∧ settled.visibility = .isPublic
  /-- a restricted one does not gain any, -/
  restricted : method.visibility = .isRestricted → settled.visibility = .isRestricted
  /-- and below a restricted one nothing is gained from what is above that one. -/
  stopped : ∀ front stop rest, above = front ++ stop :: rest →
    (∀ between ∈ front, between.visibility = .isProtected) → stop.visibility = .isRestricted →
      settled.visibility = method.visibility

theorem leadsToPublic_iff :
    leadsToPublic above = true ↔
      ∃ first ∈ above.find? (·.visibility ≠ .isProtected), first.visibility = .isPublic := by
  rw [leadsToPublic, Option.any_eq_true]
  simp

theorem settledBelow_of_visibility (hsame : method.SameSignature settled)
    (hsettled : settled.visibility = visibilityBelow method above) :
    SettledBelow above method settled where
  same := hsame
  isPublic_iff := by
    rw [hsettled, visibilityBelow, ← leadsToPublic_iff]
    split
    case isTrue hpublic => exact iff_of_true rfl hpublic
    case isFalse hnot => exact iff_of_false (fun hpublic => hnot (.inl hpublic)) hnot
  kept := by
    intro hnot
    rw [hsettled] at hnot ⊢
    rcases visibilityBelow_eq_or method above with hsame | ⟨_, hpublic⟩
    · exact hsame
    · exact absurd hpublic hnot
  widened := by
    rw [hsettled]
    exact visibilityBelow_eq_or method above
  restricted := by
    intro hrestricted
    rw [hsettled]
    rcases visibilityBelow_eq_or method above with hsame | ⟨hprotected, _⟩
    · exact hsame.trans hrestricted
    · rw [hrestricted] at hprotected
      cases hprotected
  stopped := by
    rintro front stop rest rfl hfront hstop
    rw [hsettled]
    exact visibilityBelow_of_restricted hfront hstop

/-- Reconciliation decides the visibility of every method of a class below a root by the visibilities
that are documented for the methods which it overrides, one above the other. -/
theorem visibility_reconcile (classes : List Class) (config : Config) :
    let h := ofList classes
    let settled := h.reconcile config.replacements.specific
    ∀ c ∈ h.classes, c.fullName ∈ h.settlingOrder →
      ∃ final, settled.get? c.fullName = some final ∧
        List.Forall₂ (fun method settledMethod => ∃ above, h.OverrideChain c method above ∧
            (∀ other, h.OverrideChain c method other → other = above) ∧
            SettledBelow above method settledMethod)
          c.methods final.methods := by
  intro h settled c hmem hin
  set rules := config.replacements.specific
  have hc : h.Coherent := coherent_ofList classes
  obtain ⟨n, hn⟩ := (hc.mem_settlingOrder_iff hmem).1 hin
  have hresult : settled = h.mapMethods (h.settledMethods rules) := hc.reconcile_eq_mapMethods rules
  refine ⟨c.withMethods (h.settledMethods rules), ?_, ?_⟩
  · rw [hresult, get?_mapMethods, hc.get?_of_mem hmem]
    rfl
  · rw [Class.withMethods_methods, hc.settledMethods_of_rootedAt hmem hn,
      List.forall₂_map_right_iff, List.forall₂_same]
    intro method _
    obtain ⟨above, hchain⟩ := hc.exists_overrideChain hmem hn method
    have hvisibility : (settled.settleMethod rules c method).visibility =
        visibilityBelow method above := hc.visibility_settleMethod hmem hn hchain
    have hsame : method.SameSignature (settled.settleMethod rules c method) :=
      sameSignature_settleMethod settled rules c method
    exact ⟨above, hchain, fun _ hother => hchain.unique hother,
      settledBelow_of_visibility hsame hvisibility⟩

/-- A method `self` that is documented with a visibility. -/
def methodShowing (owner : String) (visibility : Visibility) : Method where
  name := "self"
  fullName := owner ++ ".self"
  ownerName := owner
  ownerKind := .classType
  visibility := visibility

/-- A class with this method alone. -/
def classShowing (name : String) (base : Option String) (visibility : Visibility) : Class where
  name := name
  fullName := "x." ++ name
  base := base
  methods := [methodShowing ("x." ++ name) visibility]

/-- A class with a public method, and two lines of classes below it that override this method, one
of them with a restricted method in between. -/
def descents : List Class :=
  [classShowing "C" (some "x.B") .isProtected, classShowing "S" (some "x.R") .isProtected,
    classShowing "A" none .isPublic, classShowing "B" (some "x.A") .isProtected,
    classShowing "R" (some "x.A") .isRestricted]

/-- A protected method two classes below a public one becomes public when the one in between is
protected as well, and stays protected when that one is restricted. -/
theorem visibility_reconcile_descents :
    let h := ofList descents
    let settled := h.reconcile ({} : Config).replacements.specific
    (∀ c ∈ [classShowing "C" (some "x.B") .isProtected, classShowing "S" (some "x.R") .isProtected],
      c ∈ h.classes ∧ c.fullName ∈ h.settlingOrder) ∧
    ((settled.get? "x.C").map fun c => c.methods.map (·.visibility)) = some [.isPublic] ∧
    ((settled.get? "x.S").map fun c => c.methods.map (·.visibility)) = some [.isProtected] := by
  intro h settled
  let a := classShowing "A" none .isPublic
  let b := classShowing "B" (some "x.A") .isProtected
  let r := classShowing "R" (some "x.A") .isRestricted
  let c := classShowing "C" (some "x.B") .isProtected
  let s := classShowing "S" (some "x.R") .isProtected
  have hsettled : ∀ low ∈ [c, s], low ∈ h.classes ∧ low.fullName ∈ h.settlingOrder := by
    decide +kernel
  -- each of the two classes has one method in the end, settled below the chain of its own one
  have hfinal : ∀ low ∈ [c, s], ∀ method above, low.methods = [method] →
      h.OverrideChain low method above →
        ∃ final, SettledBelow above method final ∧
          ((settled.get? low.fullName).map fun c => c.methods.map (·.visibility)) =
            some [final.visibility] := by
    intro low hlow method above hmethods hchain
    obtain ⟨hmem, hin⟩ := hsettled low hlow
    obtain ⟨last, hget, hlast⟩ := visibility_reconcile descents {} low hmem hin
    rw [hmethods] at hlast
    obtain ⟨final, _, ⟨others, _, hunique, hbelow⟩, hnone, hmethods'⟩ :=
      List.forall₂_cons_left_iff.1 hlast
    obtain rfl := List.forall₂_nil_left_iff.1 hnone
    obtain rfl := hunique above hchain
    exact ⟨final, hbelow, by rw [hget, Option.map_some, hmethods', List.map_singleton]⟩
  have ha : h.OverrideChain a (methodShowing "x.A" .isPublic) [] := .top (by decide +kernel)
  have hb : h.overridden? b (methodShowing "x.B" .isProtected) =
      some (a, methodShowing "x.A" .isPublic) := by decide +kernel
  have hr : h.overridden? r (methodShowing "x.R" .isRestricted) =
      some (a, methodShowing "x.A" .isPublic) := by decide +kernel
  have hcb : h.overridden? c (methodShowing "x.C" .isProtected) =
      some (b, methodShowing "x.B" .isProtected) := by decide +kernel
  have hsr : h.overridden? s (methodShowing "x.S" .isProtected) =
      some (r, methodShowing "x.R" .isRestricted) := by decide +kernel
  refine ⟨hsettled, ?_, ?_⟩
  · obtain ⟨final, hbelow, hvisibility⟩ :=
      hfinal c (by simp) _ _ rfl (.link hcb (.link hb ha))
    have hpublic : final.visibility = .isPublic :=
      hbelow.isPublic_iff.2 (.inr ⟨rfl, methodShowing "x.A" .isPublic, rfl, rfl⟩)
    rw [← hpublic]
    exact hvisibility
  · obtain ⟨final, hbelow, hvisibility⟩ :=
      hfinal s (by simp) _ _ rfl (.link hsr (.link hr ha))
    have hprotected : final.visibility = .isProtected :=
      hbelow.stopped [] _ _ rfl (by simp) rfl
    rw [← hprotected]
    exact hvisibility

end Hierarchy
end Typings
