import Typings.Proofs.Overload.Runs

/-!
# The overloads in closed form

Splitting removes one conflict at a time, the leftmost one, and splits each half again. In the end
there is one overload for every way to drop or to keep the optional runs in front of the optional
end of the list.

* `splitOverloads_eq`: the overloads of a list of slots, by the choices for its runs;
* `optionalRuns_front`: the number of runs with a choice is the number of conflicts;
* `mem_resolve`, `mem_resolve_of_required`: the slots of one overload;
* `position_resolve_sublist`: their order.
-/

namespace Typings

variable {slots before behind : List Slot}

/-! ## The leftmost conflict -/

theorem eq_nil_of_append_eq_cons {plain run rest : List Slot} {slot : Slot}
    (hplain : ∀ slot ∈ plain, slot.isOptional = false) (hslot : slot.isOptional = true)
    (heq : plain ++ run = slot :: rest) : plain = [] := by
  rcases plain with _ | ⟨first, plain⟩
  · rfl
  · have hfirst : first = slot := (List.cons.inj heq).1
    have hnot := hplain first List.mem_cons_self
    rw [hfirst, hslot] at hnot
    cases hnot

/-- What is cut off ends with an optional run, and what is left starts with a required slot. -/
theorem exists_run_of_cutPair? (h : cutPair? slots = some (before, behind)) :
    ∃ plain run next rest, before = plain ++ run ∧ behind = next :: rest ∧
      (∀ slot ∈ plain, slot.isOptional = false) ∧ run ≠ [] ∧
      (∀ slot ∈ run, slot.isOptional = true) ∧ next.isOptional = false := by
  fun_induction cutPair? slots generalizing before behind with
  | case1 first second rest hpair =>
      cases h
      simp only [Bool.and_eq_true, Bool.not_eq_true'] at hpair
      exact ⟨[], [first], second, rest, rfl, rfl, by simp, by simp, by simp [hpair.1], hpair.2⟩
  | case2 first second rest hpair ih =>
      rcases Option.map_eq_some_iff.1 h with ⟨⟨inner, _⟩, hcut, heq⟩
      cases heq
      rcases ih hcut with ⟨plain, run, next, after, rfl, rfl, hplain, hne, hrun, hnext⟩
      have happend := append_of_cutPair? hcut
      cases hfirst : first.isOptional
      · exact ⟨first :: plain, run, next, after, rfl, rfl,
          List.forall_mem_cons.2 ⟨hfirst, hplain⟩, hne, hrun, hnext⟩
      · -- the next slot is optional as well, so the run goes on with it
        have hsecond : second.isOptional = true := by simpa [hfirst] using hpair
        rw [List.append_assoc] at happend
        have hnil : plain = [] := eq_nil_of_append_eq_cons hplain hsecond happend
        subst hnil
        exact ⟨[], first :: run, next, after, rfl, rfl, hplain, List.cons_ne_nil _ _,
          List.forall_mem_cons.2 ⟨hfirst, hrun⟩, hnext⟩
  | case3 => cases h

/-- Without a conflict the optional slots stand at the end. -/
theorem exists_plain_of_cutPair?_eq_none (h : cutPair? slots = none) :
    ∃ plain run, slots = plain ++ run ∧ (∀ slot ∈ plain, slot.isOptional = false) ∧
      ∀ slot ∈ run, slot.isOptional = true := by
  fun_induction cutPair? slots with
  | case1 => cases h
  | case2 first second rest hpair ih =>
      rcases ih (Option.map_eq_none_iff.1 h) with ⟨plain, run, heq, hplain, hrun⟩
      cases hfirst : first.isOptional
      · exact ⟨first :: plain, run, by rw [heq, List.cons_append],
          List.forall_mem_cons.2 ⟨hfirst, hplain⟩, hrun⟩
      · -- behind an optional slot that is not cut there are optional ones only
        have hsecond : second.isOptional = true := by simpa [hfirst] using hpair
        have hnil : plain = [] := eq_nil_of_append_eq_cons hplain hsecond heq.symm
        subst hnil
        exact ⟨[], first :: run, by rw [heq]; rfl, hplain,
          List.forall_mem_cons.2 ⟨hfirst, hrun⟩⟩
  | case3 slots hshort =>
      rcases slots with _ | ⟨slot, _ | ⟨second, rest⟩⟩
      · exact ⟨[], [], rfl, by simp, by simp⟩
      · cases hslot : slot.isOptional
        · exact ⟨[slot], [], rfl, by simp [hslot], by simp⟩
        · exact ⟨[], [slot], rfl, by simp, by simp [hslot]⟩
      · exact absurd rfl (hshort slot second rest)

/-! ## Splitting in closed form -/

open Slot

/-- The overloads that the choices for the runs of a list describe. -/
def overloadsByChoice (slots : List Slot) : List (List Slot) :=
  (choices (conflicts (slots.map Slot.isOptional))).map fun choice =>
    resolve (runs (front slots)) choice ++ trailing slots

theorem overloadsByChoice_append {plain : List Slot}
    (h : ∀ slot ∈ plain, slot.isOptional = false)
    (hrequired : ∃ slot ∈ slots, slot.isOptional = false) :
    overloadsByChoice (plain ++ slots) = (overloadsByChoice slots).map (plain ++ ·) := by
  rw [overloadsByChoice, overloadsByChoice, conflicts_append h, front_append hrequired,
    trailing_append hrequired, List.map_map]
  refine List.map_congr_left ?_
  intro choice _
  rw [resolve_append h, List.append_assoc, Function.comp_apply]

theorem isOptional_head?_front {rest : List Slot} {next : Slot} (hnext : next.isOptional = false) :
    ∀ slot ∈ (front (next :: rest)).head?, slot.isOptional = false := by
  intro slot hslot
  have happend := front_append_trailing (next :: rest)
  rcases hfront : front (next :: rest) with _ | ⟨first, others⟩
  · simp [hfront] at hslot
  · rw [hfront] at happend hslot
    have hfirst : first = next := (List.cons.inj happend).1
    cases hslot
    rw [hfirst, hnext]

theorem overloadsByChoice_optional_append {run rest : List Slot} {next : Slot} (hne : run ≠ [])
    (h : ∀ slot ∈ run, slot.isOptional = true) (hnext : next.isOptional = false) :
    overloadsByChoice (run ++ next :: rest) =
      overloadsByChoice (next :: rest) ++
        (overloadsByChoice (next :: rest)).map (run.map Slot.promote ++ ·) := by
  have hrequired : ∃ slot ∈ next :: rest, slot.isOptional = false :=
    ⟨next, List.mem_cons_self, hnext⟩
  have hhead : ∀ slot ∈ (front (next :: rest)).head?, slot.isOptional = false :=
    isOptional_head?_front hnext
  rw [overloadsByChoice, overloadsByChoice, conflicts_optional_append hne h hnext,
    front_append hrequired, trailing_append hrequired, choices, List.map_append, List.map_map,
    List.map_map, List.map_map]
  -- the choices that drop the run come first, then those that keep it
  refine congrArg₂ (· ++ ·) (List.map_congr_left ?_) (List.map_congr_left ?_)
  · intro choice _
    rw [Function.comp_apply, resolve_optional_append hne h hhead]
    rfl
  · intro choice _
    rw [Function.comp_apply, Function.comp_apply, resolve_optional_append hne h hhead,
      if_pos rfl, List.append_assoc]

theorem isOptional_promote (slot : Slot) : slot.promote.isOptional = false := by
  cases slot <;> rfl

theorem promote_of_not_isOptional {slot : Slot} (h : slot.isOptional = false) :
    slot.promote = slot := by
  cases slot <;> simp_all [Slot.promote, Slot.isOptional]

/-- Splitting makes one overload for each choice. -/
theorem splitOverloads_eq (slots : List Slot) : splitOverloads slots = overloadsByChoice slots := by
  fun_induction splitOverloads slots with
  | case1 slots before behind hcut ihdrop ihkeep =>
      rcases exists_run_of_cutPair? hcut with
        ⟨plain, run, next, rest, rfl, rfl, hplain, hne, hrun, hnext⟩
      have hslots := append_of_cutPair? hcut
      have hrequired : ∃ slot ∈ next :: rest, slot.isOptional = false :=
        ⟨next, List.mem_cons_self, hnext⟩
      have hsome : ∃ slot ∈ run ++ next :: rest, slot.isOptional = false :=
        ⟨next, by simp, hnext⟩
      have hdrop : (plain ++ run).filter (!·.isOptional) = plain := by
        rw [List.filter_append, List.filter_eq_self.2, List.filter_eq_nil_iff.2, List.append_nil]
        · intro slot hslot
          simp [hrun slot hslot]
        · intro slot hslot
          simp [hplain slot hslot]
      have hpromote : (plain ++ run).map Slot.promote = plain ++ run.map Slot.promote := by
        rw [List.map_append, List.append_cancel_right_eq]
        conv_rhs => rw [← List.map_id plain]
        exact List.map_congr_left fun slot hslot => promote_of_not_isOptional (hplain slot hslot)
      have hkept : ∀ slot ∈ plain ++ run.map Slot.promote, slot.isOptional = false := by
        intro slot hslot
        rcases List.mem_append.1 hslot with hslot | hslot
        · exact hplain slot hslot
        · rcases List.mem_map.1 hslot with ⟨old, _, rfl⟩
          exact isOptional_promote old
      -- both halves start with slots that stay, in front of the same list
      rw [hdrop] at ihdrop
      rw [hpromote] at ihkeep
      rw [hdrop, hpromote, ihdrop, ihkeep]
      calc overloadsByChoice (plain ++ next :: rest) ++
            overloadsByChoice (plain ++ run.map Slot.promote ++ next :: rest)
          = (overloadsByChoice (next :: rest)).map (plain ++ ·) ++
              (overloadsByChoice (next :: rest)).map (plain ++ run.map Slot.promote ++ ·) := by
            rw [overloadsByChoice_append hplain hrequired,
              overloadsByChoice_append hkept hrequired]
        _ = (overloadsByChoice (next :: rest) ++
              (overloadsByChoice (next :: rest)).map (run.map Slot.promote ++ ·)).map
                (plain ++ ·) := by
            rw [List.map_append, List.map_map]
            simp only [Function.comp_def, List.append_assoc]
        _ = (overloadsByChoice (run ++ next :: rest)).map (plain ++ ·) := by
            rw [overloadsByChoice_optional_append hne hrun hnext]
        _ = overloadsByChoice slots := by
            rw [← overloadsByChoice_append hplain hsome, ← List.append_assoc, hslots]
  | case2 slots hcut =>
      rcases exists_plain_of_cutPair?_eq_none hcut with ⟨plain, run, rfl, hplain, hrun⟩
      have hlast : ∀ slot ∈ plain.getLast?, slot.isOptional = false := fun slot hslot =>
        hplain slot (List.mem_of_mem_getLast? hslot)
      have hresolve : resolve (runs plain) [] = plain := by
        simpa [runs, resolve] using resolve_append hplain [] []
      rw [overloadsByChoice, conflicts_append hplain, conflicts_optional hrun,
        front_append_of_optional hrun hlast, trailing_append_of_optional hrun hlast]
      simp [choices, hresolve]

/-- Every optional run but the one at the end is in one conflict. -/
theorem optionalRuns_front (slots : List Slot) :
    optionalRuns (front slots) = conflicts (slots.map Slot.isOptional) := by
  induction hlength : slots.length using Nat.strong_induction_on generalizing slots with
  | _ length ih =>
      cases hcut : cutPair? slots with
      | none =>
          rcases exists_plain_of_cutPair?_eq_none hcut with ⟨plain, run, rfl, hplain, hrun⟩
          have hlast : ∀ slot ∈ plain.getLast?, slot.isOptional = false := fun slot hslot =>
            hplain slot (List.mem_of_mem_getLast? hslot)
          have hnone : optionalRuns plain = 0 := by
            simpa [optionalRuns, runs] using optionalRuns_append hplain []
          rw [front_append_of_optional hrun hlast, conflicts_append hplain,
            conflicts_optional hrun, hnone]
      | some found =>
          rcases found with ⟨before, behind⟩
          have hslots := append_of_cutPair? hcut
          rcases exists_run_of_cutPair? hcut with
            ⟨plain, run, next, rest, rfl, rfl, hplain, hne, hrun, hnext⟩
          have hrequired : ∃ slot ∈ next :: rest, slot.isOptional = false :=
            ⟨next, List.mem_cons_self, hnext⟩
          have hshorter : (next :: rest).length < length := by
            have hpositive : 0 < run.length := List.length_pos_iff.2 hne
            rw [← hlength, ← hslots, List.length_append, List.length_append]
            omega
          have hbehind := ih _ hshorter (next :: rest) rfl
          -- the run that is cut counts one on either side
          calc optionalRuns (front slots)
              = optionalRuns (plain ++ (run ++ front (next :: rest))) := by
                rw [← hslots, front_append hrequired, List.append_assoc]
            _ = optionalRuns (front (next :: rest)) + 1 := by
                rw [optionalRuns_append hplain,
                  optionalRuns_optional_append hne hrun (isOptional_head?_front hnext)]
            _ = conflicts ((next :: rest).map Slot.isOptional) + 1 := by rw [hbehind]
            _ = conflicts ((plain ++ (run ++ next :: rest)).map Slot.isOptional) := by
                rw [conflicts_append hplain, conflicts_optional_append hne hrun hnext]
            _ = conflicts (slots.map Slot.isOptional) := by rw [← hslots, List.append_assoc]

/-! ## The slots of one overload -/

theorem position_promote (slot : Slot) : slot.promote.position = slot.position := by
  cases slot <;> rfl

theorem mem_resolve {lists : List (List Slot)} {slot : Slot} {choice : List Bool}
    (huniform : ∀ run ∈ lists, (∀ slot ∈ run, slot.isOptional = true) ∨
      ∀ slot ∈ run, slot.isOptional = false)
    (hmem : slot ∈ resolve lists choice) :
    (slot ∈ lists.flatten ∧ slot.isOptional = false) ∨
      ∃ old ∈ lists.flatten, old.isOptional = true ∧ slot = old.promote := by
  induction lists generalizing choice with
  | nil => simp [resolve] at hmem
  | cons run rest ih =>
      -- what comes from the lists behind the first one
      have hbehind : ∀ choice, slot ∈ resolve rest choice →
          (slot ∈ (run :: rest).flatten ∧ slot.isOptional = false) ∨
            ∃ old ∈ (run :: rest).flatten, old.isOptional = true ∧ slot = old.promote := by
        intro choice hslot
        rcases ih (fun list hlist => huniform list (List.mem_cons_of_mem run hlist)) hslot with
          ⟨hin, hkind⟩ | ⟨old, hold, hkind, heq⟩
        · exact .inl ⟨List.mem_append_right run hin, hkind⟩
        · exact .inr ⟨old, List.mem_append_right run hold, hkind, heq⟩
      by_cases hall : run.all Slot.isOptional = true
      · rw [resolve, if_pos hall] at hmem
        rcases List.mem_append.1 hmem with hslot | hslot
        · cases hkept : choice.headD false
          · rw [hkept, if_neg Bool.false_ne_true] at hslot
            cases hslot
          · rw [hkept, if_pos rfl] at hslot
            rcases List.mem_map.1 hslot with ⟨old, hold, rfl⟩
            exact .inr ⟨old, List.mem_append_left _ hold, List.all_eq_true.1 hall old hold, rfl⟩
        · exact hbehind _ hslot
      · rw [resolve, if_neg hall] at hmem
        rcases List.mem_append.1 hmem with hslot | hslot
        · rcases huniform run List.mem_cons_self with hoptional | hplain
          · exact absurd (List.all_eq_true.2 hoptional) hall
          · exact .inl ⟨List.mem_append_left _ hslot, hplain slot hslot⟩
        · exact hbehind _ hslot

/-- The slots that are not optional are left by every choice. -/
theorem mem_resolve_of_required {lists : List (List Slot)} {slot : Slot}
    (hmem : slot ∈ lists.flatten) (hslot : slot.isOptional = false) (choice : List Bool) :
    slot ∈ resolve lists choice := by
  induction lists generalizing choice with
  | nil => exact hmem
  | cons run rest ih =>
      rw [List.flatten_cons, List.mem_append] at hmem
      by_cases hall : run.all Slot.isOptional = true
      · rw [resolve, if_pos hall]
        rcases hmem with hmem | hmem
        · have hnot := List.all_eq_true.1 hall slot hmem
          rw [hslot] at hnot
          cases hnot
        · exact List.mem_append_right _ (ih hmem _)
      · rw [resolve, if_neg hall]
        rcases hmem with hmem | hmem
        · exact List.mem_append_left _ hmem
        · exact List.mem_append_right _ (ih hmem _)

/-- No choice changes the order of the positions. -/
theorem position_resolve_sublist (lists : List (List Slot)) (choice : List Bool) :
    ((resolve lists choice).map Slot.position).Sublist (lists.flatten.map Slot.position) := by
  induction lists generalizing choice with
  | nil => exact List.Sublist.refl _
  | cons run rest ih =>
      rw [resolve, List.flatten_cons, List.map_append]
      split_ifs with hall hkept
      · have hpromote : (run.map Slot.promote).map Slot.position = run.map Slot.position := by
          rw [List.map_map]
          exact List.map_congr_left fun slot _ => position_promote slot
        rw [List.map_append, hpromote]
        exact (ih _).append_left _
      · exact (ih _).trans (List.sublist_append_right _ _)
      · rw [List.map_append]
        exact (ih _).append_left _

end Typings
