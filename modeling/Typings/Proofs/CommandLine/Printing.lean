import Typings.Proofs.CommandLine.Steps

/-!
# What can be printed

A console text is read as markup before it is printed. A text that is not well-formed markup ends
the run, wherever it comes from.

* `isSayable`, `isComplainable`: texts that are printed, as output and as errors;
* `Tells`: steps that return when their texts can be printed, and otherwise end the run;
* `isTellable`, `tells_sayReport`: reports.
-/

namespace Typings
namespace CommandLine

variable {α β : Type} {told others : Bool} {value : α} {result : β}

/-! ## Texts -/

/-- A text that is printed as output: it is well-formed markup, and what it shows has a UTF-8
form. -/
def isSayable (text : String) : Bool :=
  match Console.plain text with
  | .ok printed => (Surrogate.fault? (printed ++ "\n")).isNone
  | .error _ => false

/-- A text that is printed as an error: it is well-formed markup. -/
def isComplainable (text : String) : Bool :=
  (Console.plain text).isOk

/-! ## Steps that print -/

/-- A step comes to a value when what it tells can be told, and otherwise it ends the run as a
failure. -/
def ComesTo (told : Bool) (value : α) (outcome : Except Ending α) : Prop :=
  if told then outcome = .ok value else ∃ ending, outcome = .error ending ∧ ending.code = 1

theorem ComesTo.of_ok {returned : α} (h : ComesTo told value (.ok returned)) :
    told = true ∧ returned = value := by
  cases told with
  | true => exact ⟨rfl, Except.ok.inj h⟩
  | false =>
      obtain ⟨_, hending, -⟩ := h
      cases hending

theorem ComesTo.of_error {ending : Ending} (h : ComesTo told value (.error ending)) :
    told = false ∧ ending.code = 1 := by
  cases told with
  | true => cases h
  | false =>
      obtain ⟨_, hending, hcode⟩ := h
      cases hending
      exact ⟨rfl, hcode⟩

/-- A step comes to a value in every shell, when what it tells can be told. -/
def Tells (told : Bool) (value : α) (step : Step α) : Prop :=
  ∀ shell, ComesTo told value (step shell).1

namespace Tells

variable {step : Step α} {shell after : Shell} {returned : α} {ending : Ending}

theorem pure (value : α) : Tells true value (pure value : Step α) :=
  fun _ => rfl

theorem throw (hcode : ending.code = 1) (value : α) : Tells false value (throw ending : Step α) :=
  fun _ => ⟨ending, rfl, hcode⟩

/-- A step that has returned has told everything. -/
theorem of_ok (h : Tells told value step) (hresult : step shell = (.ok returned, after)) :
    told = true ∧ returned = value := by
  have hshell := h shell
  rw [hresult] at hshell
  exact hshell.of_ok

theorem of_error (h : Tells told value step) (hresult : step shell = (.error ending, after)) :
    told = false ∧ ending.code = 1 := by
  have hshell := h shell
  rw [hresult] at hshell
  exact hshell.of_error

/-- Steps one after the other tell what both of them tell. -/
theorem seq {next : α → Step β} (hstep : Tells told value step)
    (hnext : Tells others result (next value)) : Tells (told && others) result (step >>= next) := by
  intro shell
  rw [bind_apply]
  rcases hresult : step shell with ⟨ending | returned, after⟩
  · obtain ⟨rfl, hcode⟩ := hstep.of_error hresult
    exact ⟨ending, rfl, hcode⟩
  · obtain ⟨rfl, rfl⟩ := hstep.of_ok hresult
    exact hnext after

theorem forM {items : List α} {step : α → Step Unit} {tellable : α → Bool}
    (h : ∀ item, Tells (tellable item) () (step item)) :
    Tells (items.all tellable) () (items.forM step) := by
  induction items with
  | nil => exact .pure ()
  | cons item items ih => exact (h item).seq ih

end Tells

theorem tells_say (text : String) : Tells (isSayable text) () (say text) := by
  unfold isSayable say consoleLine
  cases Console.plain text with
  | error error => exact Tells.throw rfl ()
  | ok printed =>
      dsimp only
      rw [pure_bind]
      cases Surrogate.fault? (printed ++ "\n") with
      | some fault => exact Tells.throw rfl ()
      | none => exact fun _ => rfl

theorem tells_complain (text : String) : Tells (isComplainable text) () (complain text) := by
  unfold isComplainable complain consoleLine
  cases Console.plain text with
  | error error => exact Tells.throw rfl ()
  | ok printed => exact fun _ => rfl

/-- A run that fails with a message ends as a failure, whether the message is printed or not. -/
theorem tells_fail (message : String) (value : α) : Tells false value (fail message : Step α) := by
  have hcomplain : Tells (isComplainable ("[red]Error:[/red] " ++ message) && true) ()
      (complainOf message "") :=
    (tells_complain _).seq (.pure ())
  have hfail : Tells (isComplainable ("[red]Error:[/red] " ++ message) && true && false) value
      (fail message : Step α) :=
    hcomplain.seq (.throw rfl value)
  rw [Bool.and_false] at hfail
  exact hfail

/-! ## Reports -/

/-- What is printed of a report. -/
def reportTexts (report : GenerationReport) : List String :=
  if report.succeeded then
    ["[green]✓[/green] Generation completed successfully",
      "  Libraries: " ++ ", ".intercalate report.libraries,
      "  Symbols: " ++ toString report.symbols,
      "  Classes: " ++ toString report.classes] ++
      report.written.map fun path => "  Wrote: " ++ path.toString
  else
    ("[red]Error:[/red] Generation of " ++ report.version ++ " failed") ::
      report.issues.map fun issue => "  - " ++ issue.message

/-- A report of which every text is printed. -/
def isTellable (report : GenerationReport) : Bool :=
  (reportTexts report).all (if report.succeeded then isSayable else isComplainable)

theorem tells_sayReport (report : GenerationReport) :
    Tells (isTellable report) () (sayReport report) := by
  have hforM : sayReport report =
      (reportTexts report).forM (if report.succeeded then say else complain) := by
    unfold sayReport reportTexts
    split
    · simp only [List.forM_eq_forM, List.cons_append, List.nil_append, List.forM_cons,
        List.forM_map]
    · simp only [List.forM_eq_forM, List.forM_cons, List.forM_map]
  rw [hforM]
  refine Tells.forM fun text => ?_
  split
  · exact tells_say text
  · exact tells_complain text

end CommandLine
end Typings
