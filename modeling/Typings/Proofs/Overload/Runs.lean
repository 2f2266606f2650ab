import Typings.Overload
import Mathlib.Algebra.Group.Nat.Defs
import Mathlib.Data.List.DropRight
import Mathlib.Data.List.SplitBy

/-!
# Runs of optional slots

A list of slots is cut into its maximal runs of optional slots and of other ones. The optional run
at the end may stay as it is; every other optional run stands in front of a required slot and has
to be dropped or made required.

* `Slot.front`, `Slot.trailing`: the list without its optional run at the end, and that run;
* `Slot.runs`: the maximal runs of a list;
* `choices`: the ways to drop or to keep a number of runs, in lexicographic order;
* `Slot.resolve`: the slots that a choice leaves of a list of runs;
* `conflicts`: the pairs of neighbours that a declaration may not have.
-/

namespace Typings

/-! ## Choices -/

/-- The ways to drop (`false`) or to keep (`true`) each of a number of runs. -/
def choices : Nat → List (List Bool)
  | 0 => [[]]
  | count + 1 => (choices count).map (false :: ·) ++ (choices count).map (true :: ·)

theorem length_choices (count : Nat) : (choices count).length = 2 ^ count := by
  induction count with
  | zero => rfl
  | succ count ih =>
      rw [choices, List.length_append, List.length_map, List.length_map, ih]
      omega

theorem mem_choices {choice : List Bool} {count : Nat} :
    choice ∈ choices count ↔ choice.length = count := by
  induction count generalizing choice with
  | zero => simp [choices]
  | succ count ih =>
      rcases choice with _ | ⟨kept, choice⟩
      · simp [choices]
      · cases kept <;> simp [choices, ih]

/-- The choices come in lexicographic order, and none comes twice. -/
theorem pairwise_choices (count : Nat) : (choices count).Pairwise (· < ·) := by
  induction count with
  | zero => simp [choices]
  | succ count ih =>
      rw [choices, List.pairwise_append, List.pairwise_map, List.pairwise_map]
      refine ⟨?_, ?_, ?_⟩
      · exact ih.imp fun hlt => List.Lex.cons hlt
      · exact ih.imp fun hlt => List.Lex.cons hlt
      · intro dropping hdropping keeping hkeeping
        rcases List.mem_map.1 hdropping with ⟨_, _, rfl⟩
        rcases List.mem_map.1 hkeeping with ⟨_, _, rfl⟩
        exact List.Lex.rel (by decide)

/-! ## Neighbours in conflict -/

/-- The number of optional elements that stand right before a required one. -/
def conflicts : List Bool → Nat
  | true :: false :: rest => 1 + conflicts (false :: rest)
  | _ :: rest => conflicts rest
  | [] => 0

namespace Slot

variable {slots plain run behind : List Slot} {choice : List Bool}

/-- The slots in front of the optional ones at the end. -/
def front (slots : List Slot) : List Slot :=
  slots.rdropWhile Slot.isOptional

/-- The longest end of a list that is optional throughout. -/
def trailing (slots : List Slot) : List Slot :=
  slots.rtakeWhile Slot.isOptional

/-- The maximal runs of slots that are all optional or all not. -/
def runs (slots : List Slot) : List (List Slot) :=
  slots.splitBy fun one other => one.isOptional == other.isOptional

/-- The number of the optional ones among the runs of a list. -/
def optionalRuns (slots : List Slot) : Nat :=
  (runs slots).countP fun run => run.all Slot.isOptional

/-- What is left of a list of runs when the optional ones are dropped or made required by choice,
and the other ones stay. -/
def resolve : List (List Slot) → List Bool → List Slot
  | [], _ => []
  | run :: rest, choice =>
      if run.all Slot.isOptional then
        (if choice.headD false then run.map Slot.promote else []) ++ resolve rest choice.tail
      else run ++ resolve rest choice

/-! ## The end of a list -/

theorem front_append_trailing (slots : List Slot) : front slots ++ trailing slots = slots :=
  List.rdropWhile_append_rtakeWhile

theorem front_append (h : ∃ slot ∈ behind, slot.isOptional = false) :
    front (run ++ behind) = run ++ front behind := by
  have hne : ¬ (behind.reverse.dropWhile Slot.isOptional).isEmpty = true := by
    simpa [List.isEmpty_iff] using h
  simp [front, List.rdropWhile, List.dropWhile_append, hne]

theorem trailing_append (h : ∃ slot ∈ behind, slot.isOptional = false) :
    trailing (run ++ behind) = trailing behind := by
  have hsplit : run ++ front behind ++ trailing (run ++ behind) =
      run ++ front behind ++ trailing behind := by
    rw [← front_append h, front_append_trailing, front_append h, List.append_assoc,
      front_append_trailing]
  exact List.append_cancel_left hsplit

/-- Optional slots behind slots that end with another one are the end of the list. -/
theorem front_append_of_optional (h : ∀ slot ∈ run, slot.isOptional = true)
    (hlast : ∀ slot ∈ slots.getLast?, slot.isOptional = false) : front (slots ++ run) = slots := by
  have hrun : ∀ slot ∈ run.reverse, slot.isOptional = true := by simpa using h
  have hslots : front slots = slots := by
    refine List.rdropWhile_eq_self_iff.2 ?_
    intro hne
    simp [hlast _ (List.getLast_mem_getLast? hne)]
  rw [front, List.rdropWhile, List.reverse_append, List.dropWhile_append_of_pos hrun]
  exact hslots

theorem trailing_append_of_optional (h : ∀ slot ∈ run, slot.isOptional = true)
    (hlast : ∀ slot ∈ slots.getLast?, slot.isOptional = false) :
    trailing (slots ++ run) = run := by
  have hsplit := front_append_trailing (slots ++ run)
  rw [front_append_of_optional h hlast] at hsplit
  exact List.append_cancel_left hsplit

/-! ## Runs -/

theorem runs_of_uniform {optional : Bool} (hne : run ≠ [])
    (h : ∀ slot ∈ run, slot.isOptional = optional) : runs run = [run] := by
  refine List.splitBy_of_isChain hne (List.Pairwise.isChain ?_)
  refine List.pairwise_of_forall_mem_list ?_
  intro one hone other hother
  simp [h one hone, h other hother]

/-- Runs of different kinds stay apart. -/
theorem runs_append {optional : Bool} (h : ∀ slot ∈ run, slot.isOptional = optional)
    (hbehind : ∀ slot ∈ behind.head?, slot.isOptional = !optional) :
    runs (run ++ behind) = runs run ++ runs behind := by
  refine List.splitBy_append ?_
  intro one hone other hother
  rw [h one (List.mem_of_mem_getLast? hone), hbehind other hother]
  cases optional <;> rfl

/-- The slots of a run are all optional or all not. -/
theorem uniform_of_mem_runs (hmem : run ∈ runs slots) :
    (∀ slot ∈ run, slot.isOptional = true) ∨ ∀ slot ∈ run, slot.isOptional = false := by
  have hchain : (run.map Slot.isOptional).IsChain (· = ·) :=
    (List.isChain_map _).2
      ((List.isChain_of_mem_splitBy hmem).imp fun _ _ heq => by simpa using heq)
  rcases run with _ | ⟨first, rest⟩
  · simp
  · have hall : ∀ slot ∈ first :: rest, slot.isOptional = first.isOptional := by
      intro slot hslot
      rcases List.mem_cons.1 hslot with rfl | hslot
      · rfl
      · exact (hchain.rel_cons (List.mem_map_of_mem hslot)).symm
    cases hkind : first.isOptional
    · right
      simpa [hkind] using hall
    · left
      simpa [hkind] using hall

theorem flatten_runs (slots : List Slot) : (runs slots).flatten = slots :=
  List.flatten_splitBy _ _

/-- A list starts with slots that are not optional, up to the first one that is. -/
theorem exists_plain_append (slots : List Slot) : ∃ plain behind, plain ++ behind = slots ∧
    (∀ slot ∈ plain, slot.isOptional = false) ∧ ∀ slot ∈ behind.head?, slot.isOptional = true := by
  refine ⟨slots.takeWhile (!·.isOptional), slots.dropWhile (!·.isOptional),
    List.takeWhile_append_dropWhile, ?_, ?_⟩
  · intro slot hslot
    simpa using List.mem_takeWhile_imp hslot
  · intro slot hslot
    have hnot := List.head?_dropWhile_not (!·.isOptional) slots
    rw [Option.mem_def.1 hslot] at hnot
    simpa using hnot

/-! ## Resolving runs -/

/-- Slots that are not optional stay in front of an optional run. -/
theorem resolve_append_of_head (h : ∀ slot ∈ plain, slot.isOptional = false)
    (hbehind : ∀ slot ∈ behind.head?, slot.isOptional = true) (choice : List Bool) :
    resolve (runs (plain ++ behind)) choice = plain ++ resolve (runs behind) choice := by
  rw [runs_append h hbehind]
  rcases plain with _ | ⟨first, rest⟩
  · rfl
  · have hfirst : first.isOptional = false := h first List.mem_cons_self
    rw [runs_of_uniform (List.cons_ne_nil _ _) h]
    simp [resolve, hfirst]

/-- Slots that are not optional stay in front of any list, also where they lengthen its first
run. -/
theorem resolve_append (h : ∀ slot ∈ plain, slot.isOptional = false) (slots : List Slot)
    (choice : List Bool) :
    resolve (runs (plain ++ slots)) choice = plain ++ resolve (runs slots) choice := by
  rcases exists_plain_append slots with ⟨first, behind, rfl, hfirst, hbehind⟩
  have hplain : ∀ slot ∈ plain ++ first, slot.isOptional = false := by
    intro slot hslot
    rcases List.mem_append.1 hslot with hslot | hslot
    · exact h slot hslot
    · exact hfirst slot hslot
  rw [← List.append_assoc, resolve_append_of_head hplain hbehind,
    resolve_append_of_head hfirst hbehind, List.append_assoc]

/-- An optional run in front of a required slot is dropped or kept by the first choice. -/
theorem resolve_optional_append (hne : run ≠ []) (h : ∀ slot ∈ run, slot.isOptional = true)
    (hbehind : ∀ slot ∈ behind.head?, slot.isOptional = false) (kept : Bool)
    (choice : List Bool) :
    resolve (runs (run ++ behind)) (kept :: choice) =
      (if kept then run.map Slot.promote else []) ++ resolve (runs behind) choice := by
  have hall : run.all Slot.isOptional = true := List.all_eq_true.2 h
  rw [runs_append h hbehind, runs_of_uniform hne h]
  simp [resolve, hall]

/-! ## Counting runs -/

theorem optionalRuns_append_of_head (h : ∀ slot ∈ plain, slot.isOptional = false)
    (hbehind : ∀ slot ∈ behind.head?, slot.isOptional = true) :
    optionalRuns (plain ++ behind) = optionalRuns behind := by
  rw [optionalRuns, runs_append h hbehind, List.countP_append]
  rcases plain with _ | ⟨first, rest⟩
  · simp [runs, optionalRuns]
  · have hfirst : first.isOptional = false := h first List.mem_cons_self
    rw [runs_of_uniform (List.cons_ne_nil _ _) h]
    simp [optionalRuns, hfirst]

theorem optionalRuns_append (h : ∀ slot ∈ plain, slot.isOptional = false) (slots : List Slot) :
    optionalRuns (plain ++ slots) = optionalRuns slots := by
  rcases exists_plain_append slots with ⟨first, behind, rfl, hfirst, hbehind⟩
  have hplain : ∀ slot ∈ plain ++ first, slot.isOptional = false := by
    intro slot hslot
    rcases List.mem_append.1 hslot with hslot | hslot
    · exact h slot hslot
    · exact hfirst slot hslot
  rw [← List.append_assoc, optionalRuns_append_of_head hplain hbehind,
    optionalRuns_append_of_head hfirst hbehind]

theorem optionalRuns_optional_append (hne : run ≠ [])
    (h : ∀ slot ∈ run, slot.isOptional = true)
    (hbehind : ∀ slot ∈ behind.head?, slot.isOptional = false) :
    optionalRuns (run ++ behind) = optionalRuns behind + 1 := by
  have hall : run.all Slot.isOptional = true := List.all_eq_true.2 h
  rw [optionalRuns, runs_append h hbehind, runs_of_uniform hne h]
  simp [optionalRuns, hall, Nat.add_comm]

/-! ## Counting conflicts -/

@[simp] theorem conflicts_required (rest : List Bool) :
    conflicts (false :: rest) = conflicts rest := by
  cases rest <;> rfl

theorem conflicts_append (h : ∀ slot ∈ plain, slot.isOptional = false) (slots : List Slot) :
    conflicts ((plain ++ slots).map Slot.isOptional) = conflicts (slots.map Slot.isOptional) := by
  induction plain with
  | nil => rfl
  | cons first rest ih =>
      have hrest := ih fun slot hslot => h slot (List.mem_cons_of_mem first hslot)
      simpa [h first List.mem_cons_self] using hrest

theorem conflicts_optional (h : ∀ slot ∈ slots, slot.isOptional = true) :
    conflicts (slots.map Slot.isOptional) = 0 := by
  induction slots with
  | nil => rfl
  | cons first rest ih =>
      have hrest := ih fun slot hslot => h slot (List.mem_cons_of_mem first hslot)
      rcases rest with _ | ⟨second, rest⟩
      · simp [conflicts, h first List.mem_cons_self]
      · have hsecond : second.isOptional = true := h second (by simp)
        simpa [conflicts, h first List.mem_cons_self, hsecond] using hrest

/-- An optional run conflicts once with the required slot behind it. -/
theorem conflicts_optional_append {next : Slot} (hne : run ≠ [])
    (h : ∀ slot ∈ run, slot.isOptional = true) (hnext : next.isOptional = false) :
    conflicts ((run ++ next :: behind).map Slot.isOptional) =
      conflicts ((next :: behind).map Slot.isOptional) + 1 := by
  induction run with
  | nil => exact absurd rfl hne
  | cons first rest ih =>
      have hfirst : first.isOptional = true := h first List.mem_cons_self
      rcases rest with _ | ⟨second, rest⟩
      · simp [conflicts, hfirst, hnext, Nat.add_comm]
      · have hsecond : second.isOptional = true := h second (by simp)
        have hrest := ih (List.cons_ne_nil _ _)
          fun slot hslot => h slot (List.mem_cons_of_mem first hslot)
        simpa [conflicts, hfirst, hsecond] using hrest

end Slot
end Typings
