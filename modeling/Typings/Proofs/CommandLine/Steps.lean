import Typings.CommandLine.Run
import Typings.Proofs.Generation.Connection

/-!
# Steps of a run

A step returns or ends the run, and in both cases it leaves a world. What is shown of that world for
single steps holds for steps one after the other.

* `Leads`, `Leads.bind`: what holds of the world after a step, however it ends;
* `leads_generateVersions`: generations in a row;
* `closed_run`: the client of any run.
-/

namespace Typings
namespace CommandLine

variable {α β : Type} {before between after holds : World → Prop}

/-! ## One step after the other -/

/-- A step that does not return ends all that would follow. -/
theorem bind_apply (step : Step α) (next : α → Step β) (shell : Shell) :
    (step >>= next) shell = match step shell with
      | (.ok value, after) => next value after
      | (.error ending, after) => (.error ending, after) := by
  rcases h : step shell with ⟨ending | value, after⟩
  · simp only [bind, ExceptT.bind, ExceptT.mk, StateT.bind, h]
    rfl
  · simp only [bind, ExceptT.bind, ExceptT.mk, StateT.bind, h]
    rfl

/-- From a world of one kind a step leads to one of another kind, also when it ends the run. -/
def Leads (before after : World → Prop) (step : Step α) : Prop :=
  ∀ shell, before shell.world → after (step shell).2.world

namespace Leads

theorem bind {step : Step α} {next : α → Step β} (hstep : Leads before between step)
    (hnext : ∀ value, Leads between after (next value))
    (hend : ∀ world, between world → after world) :
    Leads before after (step >>= next) := by
  intro shell hshell
  have hbetween := hstep shell hshell
  rw [bind_apply]
  rcases hresult : step shell with ⟨ending | value, middle⟩
  · rw [hresult] at hbetween
    exact hend _ hbetween
  · rw [hresult] at hbetween
    exact hnext value middle hbetween

/-- A step that keeps what holds, followed by another. -/
theorem seq {step : Step α} {next : α → Step β} (hstep : Leads holds holds step)
    (hnext : ∀ value, Leads holds holds (next value)) : Leads holds holds (step >>= next) :=
  hstep.bind hnext fun _ => id

theorem weaken {step : Step α} (hstep : Leads before between step)
    (hend : ∀ world, between world → after world) : Leads before after step :=
  fun shell hshell => hend _ (hstep shell hshell)

theorem pure (value : α) : Leads holds holds (pure value : Step α) :=
  fun _ => id

theorem throw (ending : Ending) : Leads holds holds (throw ending : Step α) :=
  fun _ => id

theorem get : Leads holds holds (get : Step Shell) :=
  fun _ => id

/-- A step that keeps whatever holds of the world leaves it as it is. -/
theorem world_eq {step : Step α} {shell : Shell}
    (h : Leads (· = shell.world) (· = shell.world) step) : (step shell).2.world = shell.world :=
  h shell rfl

end Leads

/-! ## Steps that print or read -/

theorem leads_consoleLine (text : String) : Leads holds holds (consoleLine text) := by
  unfold consoleLine
  split
  · exact .pure _
  · exact .throw _

theorem leads_say (text : String) : Leads holds holds (say text) := by
  refine (leads_consoleLine text).seq fun line => ?_
  split
  · exact .throw _
  · exact fun _ => id

theorem leads_complain (text : String) : Leads holds holds (complain text) :=
  (leads_consoleLine text).seq fun _ _ => id

theorem leads_print (text : String) : Leads holds holds (print text) := by
  unfold print
  dsimp only
  split
  · exact .throw _
  · exact fun _ => id

theorem leads_complainOf (message details : String) :
    Leads holds holds (complainOf message details) := by
  refine (leads_complain _).seq fun _ => ?_
  split
  · exact leads_complain _
  · exact .pure _

theorem leads_fail (message : String) : Leads holds holds (fail message : Step α) :=
  (leads_complainOf message "").seq fun _ => .throw _

theorem leads_readSettings (environment : List (String × String)) :
    Leads holds holds (readSettings environment) := by
  refine Leads.get.seq fun shell => ?_
  split
  · exact .pure _
  · exact .throw _
  · exact .throw _

theorem leads_checkLevel (environment : List (String × String)) (verbose : Bool) :
    Leads holds holds (checkLevel environment verbose) := by
  unfold checkLevel
  split
  · refine (leads_readSettings environment).seq fun settings => ?_
    split
    · exact .throw _
    · exact .pure _
  · exact .pure _

theorem leads_loadConfig (path : FilePath) : Leads holds holds (loadConfig path) := by
  refine Leads.get.seq fun shell => ?_
  split
  · exact .pure _
  · exact (leads_complainOf _ _).seq fun _ => .throw _
  · exact .throw _
  · exact .throw _

theorem leads_findConfig (environment : List (String × String)) (config : Option String) :
    Leads holds holds (findConfig environment config) := by
  cases config with
  | some path => exact leads_loadConfig _
  | none =>
      refine (leads_readSettings environment).seq fun settings => Leads.get.seq fun shell => ?_
      split
      · exact .throw _
      · exact leads_loadConfig _
      · exact .pure _

theorem leads_documentPath (argument : String) : Leads holds holds (documentPath argument) := by
  refine Leads.get.seq fun shell => ?_
  dsimp only
  split
  · exact .pure _
  · exact .throw _

theorem leads_readDocument (path : FilePath) : Leads holds holds (readDocument path) := by
  refine Leads.get.seq fun shell => ?_
  split
  · exact .throw _
  · split
    · exact .pure _
    · exact .throw _
    · exact (leads_complainOf _ _).seq fun _ => .throw _

theorem leads_render (environment : List (String × String)) (path : FilePath)
    (config library : Option String) (exports : Bool) :
    Leads holds holds (render environment path config library exports) := by
  refine (leads_findConfig environment config).seq fun config => ?_
  refine (leads_readDocument path).seq fun document => ?_
  dsimp only
  split
  · exact leads_print _
  · exact leads_fail _

theorem leads_overloads (environment : List (String × String)) (path : FilePath) (method : String)
    (config : Option String) : Leads holds holds (overloads environment path method config) := by
  refine (leads_findConfig environment config).seq fun config => ?_
  refine (leads_readDocument path).seq fun document => ?_
  split
  · exact leads_fail _
  · exact leads_fail _
  · exact leads_say _
  · exact (leads_say _).seq fun _ => leads_print _

/-! ## Generations in a row -/

theorem leads_forM {items : List α} {step : α → Step Unit}
    (h : ∀ item, Leads holds holds (step item)) : Leads holds holds (items.forM step) := by
  induction items with
  | nil => exact .pure _
  | cons item items ih =>
      exact (h item).seq fun _ => ih

theorem leads_sayReport (report : GenerationReport) : Leads holds holds (sayReport report) := by
  unfold sayReport
  split
  · exact (leads_say _).seq fun _ => (leads_say _).seq fun _ => (leads_say _).seq fun _ =>
      (leads_say _).seq fun _ => leads_forM fun _ => leads_say _
  · exact (leads_complain _).seq fun _ => leads_forM fun _ => leads_complain _

/-- What is said before a version is generated. -/
def announcement (version : String) : String :=
  "[blue]Generating version:[/blue] " ++ version

/-- The generation of a version as a step. -/
def generation (r : Retriever) (version : String) :
    Step (Except GenerationFailure GenerationReport) :=
  fun shell =>
    let (result, world) := Generation.run r version shell.world
    (.ok result, { shell with world })

/-- What is done with the result of a generation. -/
def conclude : Except GenerationFailure GenerationReport → Step Bool
  | .error (.unsupportedKind error) => fail error.message
  | .error (.file failure) => throw (.crashed (.file failure))
  | .ok report => do
      sayReport report
      return report.succeeded

/-- A version is announced and generated, and then its result is told. -/
theorem generateVersion_eq (r : Retriever) (version : String) :
    generateVersion r version =
      say (announcement version) >>= fun _ => generation r version >>= conclude :=
  rfl

variable {r : Retriever} {start world : World}

theorem leads_conclude (result : Except GenerationFailure GenerationReport) :
    Leads holds holds (conclude result) := by
  unfold conclude
  split
  · exact leads_fail _
  · exact .throw _
  · exact (leads_sayReport _).seq fun _ => .pure _

theorem leads_generateVersion
    (h : ∀ version world, holds world → holds (Generation.run r version world).2)
    (version : String) : Leads holds holds (generateVersion r version) := by
  rw [generateVersion_eq]
  refine (leads_say _).seq fun _ => ?_
  -- nothing that is printed changes the world, so the generation alone counts
  have hgeneration : Leads holds holds (generation r version) :=
    fun shell hshell => h version shell.world hshell
  exact hgeneration.seq leads_conclude

/-- What generations keep, commands that generate versions keep as well. -/
theorem leads_generateVersions
    (h : ∀ version world, holds world → holds (Generation.run r version world).2)
    (versions : List String) : Leads holds holds (generateVersions r versions) := by
  induction versions with
  | nil => exact .pure _
  | cons version versions ih =>
      exact (leads_generateVersion h version).seq fun _ => ih.seq fun _ => .pure _

/-! ## The client of a run -/

/-- The versions of a run: those that are given, or else the configured ones. -/
def selection (config : Config) (versions : List String) : List String :=
  if versions.isEmpty then config.input.versions else versions

/-- What a failed step would be followed by does not matter. -/
theorem fail_bind (message : String) (next : α → Step β) :
    fail message >>= next = fail message := by
  unfold fail
  rw [bind_assoc]
  rfl

theorem generate_eq (environment : List (String × String)) (server : Server)
    (versions : List String) (config : Option String) :
    generate environment server versions config =
      findConfig environment config >>= fun config =>
        if (selection config versions).isEmpty then fail "No version given and none configured"
        else readSettings environment >>= fun settings =>
          closing (generateVersions { config, settings, server } (selection config versions)) >>=
            fun succeeded => if !succeeded then throw .failed else pure () := by
  unfold generate
  congr 1
  funext config
  dsimp only
  rw [fail_bind]
  rfl

theorem closed_of_eq (habsent : start.connection = .absent) (h : world = start) :
    World.Closed start world := by
  subst h
  exact .refl habsent

theorem leads_closing (habsent : start.connection = .absent) (versions : List String) :
    Leads (· = start) (World.Closed start) (closing (generateVersions r versions)) := by
  rintro shell rfl
  have hserving := leads_generateVersions (fun version _ => Generation.serving_run version) versions
    shell (World.Serving.refl r.settings.fetchTimeout habsent)
  exact hserving.closed

theorem leads_generate (habsent : start.connection = .absent)
    (environment : List (String × String)) (server : Server) (versions : List String)
    (config : Option String) :
    Leads (· = start) (World.Closed start) (generate environment server versions config) := by
  have hend : ∀ world, world = start → World.Closed start world :=
    fun _ => closed_of_eq habsent
  rw [generate_eq]
  refine (leads_findConfig environment config).bind (fun config => ?_) hend
  split
  · exact (leads_fail _).weaken hend
  · refine (leads_readSettings environment).bind (fun settings => ?_) hend
    refine (leads_closing habsent _).bind (fun succeeded => ?_) fun _ => id
    split
    · exact .throw _
    · exact .pure _

theorem leads_perform (habsent : start.connection = .absent)
    (environment : List (String × String)) (server : Server) (arguments : Arguments) :
    Leads (· = start) (World.Closed start) (perform environment server arguments) := by
  have hend : ∀ world, world = start → World.Closed start world :=
    fun _ => closed_of_eq habsent
  refine (leads_checkLevel environment arguments.verbose).bind (fun _ => ?_) hend
  -- one command asks the server, and the others leave the world as it is
  split
  · exact (Leads.throw _).weaken hend
  · exact (Leads.pure _).weaken hend
  · exact leads_generate habsent environment server _ _
  · exact ((leads_documentPath _).seq fun _ => leads_render _ _ _ _ _).weaken hend
  · exact ((leads_documentPath _).seq fun _ => leads_overloads _ _ _ _).weaken hend

/-- However a run ends, it has closed the one client that it made, if it made one. -/
theorem closed_run (arguments : List String) (environment : List (String × String))
    (server : Server) (habsent : world.connection = .absent) :
    World.Closed world (run arguments environment server world).shell.world := by
  unfold run
  split
  · exact .refl habsent
  · exact .refl habsent
  next parsed _ =>
    have hperform : World.Closed world
        ((perform environment server parsed).run { world }).2.world :=
      leads_perform habsent environment server parsed { world } rfl
    split
    next hresult =>
      rw [hresult] at hperform
      exact hperform
    next hresult =>
      rw [hresult] at hperform
      exact hperform

end CommandLine
end Typings
