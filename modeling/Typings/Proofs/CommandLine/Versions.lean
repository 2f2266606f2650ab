import Typings.Proofs.CommandLine.Printing
import Typings.Proofs.Generation.Phases

/-!
# Generating several versions

A run that is to generate versions takes them in order, each in the world that those before have
left, whatever came of them. It does so as long as what it has to say can be printed. A text that is
not well-formed markup ends it, although nothing was wrong with the generation.

* `Generation.runAll`: a generation for each version;
* `generated`, `runAll_generated`: the versions that a run gets to, and what came of them;
* `generateVersion_cases`: every way in which a version can go;
* `generates_iff_told`: what a run generates, how it ends, and what becomes of its client.
-/

namespace Typings

/-! ## A generation for each version -/

namespace Generation

variable {r : Retriever} {version : String} {world : World}

/-- Generate versions in order, each in the world that those before have left. -/
def runAll (r : Retriever) :
    List String → World → List (Except GenerationFailure GenerationReport) × World
  | [], world => ([], world)
  | version :: versions, world =>
      let (result, between) := run r version world
      let (others, after) := runAll r versions between
      (result :: others, after)

/-- The file system takes or refuses each file that the generation of a version tries to write. -/
def Answers (r : Retriever) (version : String) (world : World) : Prop :=
  let asked := calls r version r.config.input.namespaces world
  (∀ call ∈ asked.1, ∃ document, call.2 = .ok document) →
    let tree := (Tree.ofDocuments r.config (asked.1.filterMap delivered?)).reconcile
    ∀ definitions,
      definitionsOf r.config tree.forest tree.forest.libraries = .ok definitions →
      ∀ outcome ∈ (placeAll (filesOf tree version definitions) asked.2.store).1,
        Answered outcome.2

/-- The file system takes or refuses every file of every version. -/
def AnswersAll (r : Retriever) : List String → World → Prop
  | [], _ => True
  | version :: versions, world =>
      Answers r version world ∧ AnswersAll r versions (run r version world).2

/-- A generation whose files are all taken or refused comes to a report. -/
theorem exists_report (h : Answers r version world) :
    ∃ report, (run r version world).1 = .ok report := by
  by_cases hfailed : ∃ call ∈ (calls r version r.config.input.namespaces world).1, ∃ error,
      call.2 = .error error
  · rw [run_of_failed hfailed]
    exact ⟨_, rfl⟩
  · have hdelivered : ∀ call ∈ (calls r version r.config.input.namespaces world).1, ∃ document,
        call.2 = .ok document := by
      rintro ⟨space, error | document⟩ hmem
      · exact absurd ⟨_, hmem, error, rfl⟩ hfailed
      · exact ⟨document, rfl⟩
    -- without a namespace nothing is tried either, and that is reported
    by_cases hnone : r.config.input.namespaces = []
    · simp [run, hnone, retrieveAll]
    · let asked := calls r version r.config.input.namespaces world
      let documents := asked.1.filterMap delivered?
      let tree := (Tree.ofDocuments r.config documents).reconcile
      obtain ⟨definitions, hdefinitions, hwrites⟩ := writeTree_eq_writeAll r.config documents
      have hwritten : writeAll (filesOf tree version definitions) (reportOn tree version)
          (warnAll (Tree.warnings r.config documents) asked.2) = (.ok _, _) :=
        writeAll_of_answered (reportOn tree version) (h hdelivered definitions hdefinitions)
      have hrun : run r version world = _ := run_of_delivered hnone hdelivered
      rw [hrun, hwrites, hwritten]
      exact ⟨_, rfl⟩

theorem exists_report_of_mem {versions : List String} (h : AnswersAll r versions world) :
    ∀ result ∈ (runAll r versions world).1, ∃ report, result = .ok report := by
  induction versions generalizing world with
  | nil => exact List.forall_mem_nil _
  | cons version versions ih => exact List.forall_mem_cons.2 ⟨exists_report h.1, ih h.2⟩

end Generation

namespace CommandLine

open Generation (runAll)

variable {r : Retriever} {version : String} {versions : List String} {shell : Shell}

/-! ## One version -/

/-- The generation came to a report without issues. -/
def hasSucceeded : Except GenerationFailure GenerationReport → Bool
  | .ok report => report.succeeded
  | .error _ => false

/-- The generation came to a report of which every text is printed. -/
def isTold : Except GenerationFailure GenerationReport → Bool
  | .ok report => isTellable report
  | .error _ => false

theorem tells_conclude (result : Except GenerationFailure GenerationReport) :
    Tells (isTold result) (hasSucceeded result) (conclude result) := by
  rcases result with (error | failure) | report
  · exact tells_fail _ _
  · exact .throw rfl _
  · have hreport : Tells (isTellable report && true) report.succeeded (conclude (.ok report)) :=
      (tells_sayReport report).seq (.pure report.succeeded)
    rw [Bool.and_true] at hreport
    exact hreport

/-- A version is not announced, or generated. Then what came of it is told, or the run ends. -/
theorem generateVersion_cases (r : Retriever) (version : String) (shell : Shell) :
    let result := (Generation.run r version shell.world).1
    (isSayable (announcement version) = false ∧ ∃ ending after,
      say (announcement version) shell = (.error ending, after) ∧
      generateVersion r version shell = (.error ending, after) ∧
      ending.code = 1 ∧ after.world = shell.world) ∨
    (isSayable (announcement version) = true ∧ ∃ said next,
      say (announcement version) shell = (.ok (), said) ∧ said.world = shell.world ∧
      next.world = (Generation.run r version shell.world).2 ∧
      ((isTold result = true ∧
          generateVersion r version shell = (.ok (hasSucceeded result), next)) ∨
        (isTold result = false ∧ ∃ ending, ending.code = 1 ∧
          generateVersion r version shell = (.error ending, next)))) := by
  intro result
  have hsaid : (say (announcement version) shell).2.world = shell.world := (leads_say _).world_eq
  rcases hsay : say (announcement version) shell with ⟨ending | _, said⟩
  · rw [hsay] at hsaid
    obtain ⟨hsayable, hcode⟩ := (tells_say _).of_error hsay
    have hversion : generateVersion r version shell = (.error ending, said) := by
      rw [generateVersion_eq, bind_apply, hsay]
    exact .inl ⟨hsayable, ending, said, rfl, hversion, hcode, hsaid⟩
  · -- it is announced, and then what came of the generation decides
    have hsame : said.world = shell.world := by
      rw [hsay] at hsaid
      exact hsaid
    obtain ⟨hsayable, -⟩ := (tells_say _).of_ok hsay
    let done : Shell := { said with world := (Generation.run r version shell.world).2 }
    have hversion : generateVersion r version shell = conclude result done := by
      have hgeneration : generation r version said = (.ok result, done) := by
        rw [generation, hsame]
      rw [generateVersion_eq, bind_apply, hsay]
      dsimp only
      rw [bind_apply, hgeneration]
    have hkept : (conclude result done).2.world = done.world :=
      (leads_conclude result).world_eq
    refine .inr ⟨hsayable, said, (conclude result done).2, rfl, hsame, hkept, ?_⟩
    rcases hconclude : conclude result done with ⟨ending | succeeded, next⟩
    · obtain ⟨htold, hcode⟩ := (tells_conclude result).of_error hconclude
      exact .inr ⟨htold, ending, hcode, hversion.trans hconclude⟩
    · obtain ⟨htold, rfl⟩ := (tells_conclude result).of_ok hconclude
      exact .inl ⟨htold, hversion.trans hconclude⟩

/-! ## Versions in order -/

/-- The versions that are generated, in order, each with what came of it: as far as what is said
about them can be printed. -/
def generated (r : Retriever) :
    List String → Shell → List (String × Except GenerationFailure GenerationReport)
  | [], _ => []
  | version :: versions, shell =>
      match say (announcement version) shell with
      | (.error _, _) => []
      | (.ok (), said) =>
          (version, (Generation.run r version said.world).1) ::
            match generateVersion r version shell with
            | (.error _, _) => []
            | (.ok _, next) => generated r versions next

attribute [local irreducible] say generateVersion in
theorem generated_cons (r : Retriever) (version : String) (versions : List String)
    (shell : Shell) :
    generated r (version :: versions) shell = match say (announcement version) shell with
      | (.error _, _) => []
      | (.ok (), said) => (version, (Generation.run r version said.world).1) ::
          match generateVersion r version shell with
          | (.error _, _) => []
          | (.ok _, next) => generated r versions next :=
  rfl

/-- Versions one after the other: the first that does not return ends them all. -/
theorem generateVersions_cons (r : Retriever) (version : String) (versions : List String)
    (shell : Shell) :
    generateVersions r (version :: versions) shell = match generateVersion r version shell with
      | (.error ending, after) => (.error ending, after)
      | (.ok succeeded, next) => match generateVersions r versions next with
          | (.error ending, after) => (.error ending, after)
          | (.ok others, after) => (.ok (succeeded && others), after) := by
  have hbind : generateVersions r (version :: versions) =
      generateVersion r version >>= fun succeeded =>
        generateVersions r versions >>= fun others => pure (succeeded && others) :=
    rfl
  rw [hbind, bind_apply]
  rcases generateVersion r version shell with ⟨ending | succeeded, next⟩
  · rfl
  · dsimp only
    rw [bind_apply]
    rcases generateVersions r versions next with ⟨ending | others, after⟩ <;> rfl

/-- What a run leaves is what the generations that it gets to leave, and nothing else. -/
theorem runAll_generated (r : Retriever) (versions : List String) (shell : Shell) :
    runAll r ((generated r versions shell).map (·.1)) shell.world =
      ((generated r versions shell).map (·.2), (generateVersions r versions shell).2.world) := by
  induction versions generalizing shell with
  | nil => rfl
  | cons version versions ih =>
      rw [generateVersions_cons, generated_cons]
      rcases generateVersion_cases r version shell with
        ⟨-, ending, after, hsay, hversion, -, hworld⟩ |
        ⟨-, said, next, hsay, hsaid, hworld, ⟨-, hversion⟩ | ⟨-, ending, -, hversion⟩⟩
      · simp only [hsay, hversion, List.map_nil, runAll, hworld]
      · -- the others are generated in the world that this one leaves
        simp only [hsay, hversion, hsaid, List.map_cons, runAll, ← hworld, ih next]
        rcases generateVersions r versions next with ⟨ending | others, after⟩ <;> rfl
      · simp only [hsay, hversion, hsaid, List.map_cons, List.map_nil, runAll, hworld]

/-- No version is left out or generated twice on the way. -/
theorem generated_prefix (r : Retriever) (versions : List String) (shell : Shell) :
    (generated r versions shell).map (·.1) <+: versions := by
  induction versions generalizing shell with
  | nil => exact List.prefix_rfl
  | cons version versions ih =>
      rw [generated_cons]
      split
      · exact List.nil_prefix
      · split
        · exact List.cons_prefix_cons.2 ⟨rfl, List.nil_prefix⟩
        · exact List.cons_prefix_cons.2 ⟨rfl, ih _⟩

/-- Every version of a list can be announced. -/
def areAnnounced (versions : List String) : Bool :=
  versions.all fun version => isSayable (announcement version)

/-- All versions are generated when they are announced and every result but the last is told. -/
theorem generated_eq_iff (r : Retriever) (versions : List String) (shell : Shell) :
    (generated r versions shell).map (·.1) = versions ↔
      areAnnounced versions = true ∧
        (runAll r versions shell.world).1.dropLast.all isTold = true := by
  induction versions generalizing shell with
  | nil => exact ⟨fun _ => ⟨rfl, rfl⟩, fun _ => rfl⟩
  | cons version versions ih =>
      rw [generated_cons, areAnnounced, List.all_cons, ← areAnnounced]
      rcases generateVersion_cases r version shell with
        ⟨hsayable, ending, after, hsay, hversion, -, hworld⟩ |
        ⟨hsayable, said, next, hsay, -, hworld, ⟨htold, hversion⟩ | ⟨htold, ending, -, hversion⟩⟩
      · simp [hsay, hsayable]
      · have hrest := ih next
        simp only [hsay, hversion, hsayable, List.map_cons, List.cons.injEq, true_and, hrest,
          hworld, runAll, Bool.true_and]
        -- whether the first result is the last one is told by the versions behind it
        cases versions with
        | nil => simp [runAll]
        | cons second versions => simp [runAll, htold]
      · simp only [hsay, hversion, hsayable, List.map_cons, List.map_nil, List.cons.injEq, true_and,
          runAll, Bool.true_and]
        cases versions with
        | nil => simp [runAll, areAnnounced]
        | cons second versions => simp [runAll, htold]

/-- All that is told decides whether a run comes to an orderly result, and the results decide which
one it is. -/
theorem generateVersions_comesTo (r : Retriever) (versions : List String) (shell : Shell) :
    let results := (runAll r versions shell.world).1
    ComesTo (areAnnounced versions && results.all isTold) (results.all hasSucceeded)
      (generateVersions r versions shell).1 := by
  induction versions generalizing shell with
  | nil => rfl
  | cons version versions ih =>
      rw [generateVersions_cons, areAnnounced, List.all_cons, ← areAnnounced]
      rcases generateVersion_cases r version shell with
        ⟨hsayable, ending, after, -, hversion, hcode, -⟩ |
        ⟨hsayable, -, next, -, -, hworld, ⟨htold, hversion⟩ | ⟨htold, ending, hcode, hversion⟩⟩
      · simp only [hversion, hsayable]
        exact ⟨ending, rfl, hcode⟩
      · -- this one is told, so the others decide
        have hrest := ih next
        simp only [hversion, hsayable, runAll, ← hworld, List.all_cons, htold, Bool.true_and]
        rcases hothers : generateVersions r versions next with ⟨ending | others, after⟩
        · rw [hothers] at hrest
          obtain ⟨huntold, hcode⟩ := hrest.of_error
          rw [huntold]
          exact ⟨ending, rfl, hcode⟩
        · rw [hothers] at hrest
          obtain ⟨htold, rfl⟩ := hrest.of_ok
          rw [htold]
          rfl
      · simp only [hversion, hsayable, runAll, List.all_cons, htold, Bool.false_and, Bool.and_false]
        exact ⟨ending, rfl, hcode⟩

/-! ## Runs that generate -/

/-- A run that is to generate versions: its arguments ask for it, it has a configuration and
settings, and at least one version is selected. -/
structure Selects (arguments : List String) (environment : List (String × String)) (world : World)
    (config : Config) (settings : Settings) (selected : List String) : Prop where
  asked : ∃ parsed versions path, Arguments.split arguments = .ok parsed ∧
    Command.ofArguments parsed.command parsed.rest = .ok (.generate versions path) ∧
    checkLevel environment parsed.verbose { world } = (.ok (), { world }) ∧
    findConfig environment path { world } = (.ok config, { world }) ∧
    selected = selection config versions
  settings : Settings.read environment world.store = .ok settings
  some : selected ≠ []

variable {arguments : List String} {environment : List (String × String)} {world : World}
  {config : Config} {settings : Settings} {selected : List String}

theorem readSettings_eq (h : Settings.read environment world.store = .ok settings) :
    readSettings environment { world } = (.ok settings, { world }) := by
  have hget : (get : Step Shell) { world } = (.ok { world }, { world }) := rfl
  unfold readSettings
  rw [bind_apply, hget]
  dsimp only
  rw [h]
  rfl

/-- Such a run generates its versions, and then it closes its client. -/
theorem run_of_selects (server : Server)
    (h : Selects arguments environment world config settings selected) :
    run arguments environment server world =
      match closing (generateVersions { config, settings, server } selected) { world } with
      | (.error ending, shell) => { ending, shell }
      | (.ok succeeded, shell) => { ending := if succeeded then .done else .failed, shell } := by
  obtain ⟨parsed, versions, path, hsplit, hcommand, hlevel, hconfig, hselected⟩ := h.asked
  have hselection : (selection config versions).isEmpty = false := by
    rw [← hselected]
    simpa using h.some
  have hperform : perform environment server parsed { world } =
      (closing (generateVersions { config, settings, server } selected) >>= fun succeeded =>
        if !succeeded then throw .failed else Pure.pure ()) { world } := by
    -- every step before the first version returns and leaves the shell as it was
    unfold perform
    rw [bind_apply, hlevel]
    dsimp only
    rw [hcommand]
    dsimp only
    rw [generate_eq, bind_apply, hconfig]
    dsimp only
    rw [hselection, if_neg Bool.false_ne_true, bind_apply, readSettings_eq h.settings, ← hselected]
  have hrun : (perform environment server parsed).run { world } =
      (match closing (generateVersions { config, settings, server } selected) { world } with
        | (.error ending, shell) => (.error ending, shell)
        | (.ok succeeded, shell) => (if succeeded then .ok () else .error .failed, shell)) := by
    refine hperform.trans ?_
    rw [bind_apply]
    rcases closing (generateVersions { config, settings, server } selected) { world } with
      ⟨ending | _ | _, shell⟩ <;> rfl
  unfold run
  rw [hsplit]
  dsimp only
  rw [hrun]
  rcases closing (generateVersions { config, settings, server } selected) { world } with
    ⟨ending | _ | _, shell⟩ <;> rfl

theorem closing_eq {α : Type} (step : Step α) (shell : Shell) :
    closing step shell =
      ((step shell).1, { (step shell).2 with world := (step shell).2.world.disconnect }) :=
  rfl

/-- A run leaves what its generations leave, with the client closed. -/
theorem world_run (server : Server)
    (h : Selects arguments environment world config settings selected) :
    let r : Retriever := { config, settings, server }
    (run arguments environment server world).shell.world =
      (runAll r ((generated r selected { world }).map (·.1)) world).2.disconnect := by
  intro r
  have hleft : (runAll r ((generated r selected { world }).map (·.1)) world).2 =
      (generateVersions r selected { world }).2.world :=
    congrArg Prod.snd (runAll_generated r selected { world })
  rw [run_of_selects server h, closing_eq, hleft]
  rcases generateVersions r selected { world } with ⟨ending | succeeded, shell⟩ <;> rfl

/-- A run ends with 0 when everything has succeeded and is told, and with 1 in all other cases. -/
theorem code_run (server : Server)
    (h : Selects arguments environment world config settings selected) :
    let results := (runAll { config, settings, server } selected world).1
    (run arguments environment server world).ending.code =
      if areAnnounced selected && results.all isTold && results.all hasSucceeded then 0 else 1 := by
  intro results
  have hresult : ComesTo (areAnnounced selected && results.all isTold) (results.all hasSucceeded)
      (generateVersions { config, settings, server } selected { world }).1 :=
    generateVersions_comesTo _ selected { world }
  rw [run_of_selects server h, closing_eq]
  rcases hversions : generateVersions { config, settings, server } selected { world } with
    ⟨ending | succeeded, shell⟩
  · rw [hversions] at hresult
    obtain ⟨huntold, hcode⟩ := hresult.of_error
    rw [huntold]
    exact hcode
  · rw [hversions] at hresult
    obtain ⟨htold, rfl⟩ := hresult.of_ok
    rw [htold]
    cases results.all hasSucceeded <;> rfl

/-- A run makes at most one client, with its first request, and closes it, however it ends. It
generates its versions in order as far as it gets, and nothing else, and as long as the file system
answers every one of them comes to a report. It gets to all of them, and ends with the code that
their results ask for, just when every version is announced and every report told on which that
depends. -/
theorem generates_iff_told (server : Server) (habsent : world.connection = .absent)
    (h : Selects arguments environment world config settings selected) :
    let r : Retriever := { config, settings, server }
    let outcome := run arguments environment server world
    let trace := generated r selected { world }
    let results := (runAll r selected world).1
    World.Closed world outcome.shell.world ∧
    (trace.map (·.1) <+: selected ∧
      trace.map (·.2) = (runAll r (trace.map (·.1)) world).1 ∧
      outcome.shell.world = (runAll r (trace.map (·.1)) world).2.disconnect) ∧
    (Generation.AnswersAll r selected world →
      ∀ result ∈ results, ∃ report, result = .ok report) ∧
    ((trace.map (·.1) = selected ∧
        outcome.ending.code = if results.all hasSucceeded then 0 else 1) ↔
      areAnnounced selected = true ∧ results.dropLast.all isTold = true ∧
        (results.all hasSucceeded = true → results.all isTold = true)) := by
  intro r outcome trace results
  refine ⟨closed_run arguments environment server habsent, ⟨?_, ?_, ?_⟩, ?_, ?_⟩
  · exact generated_prefix r selected { world }
  · exact (congrArg Prod.fst (runAll_generated r selected { world })).symm
  · exact world_run server h
  · exact Generation.exists_report_of_mem
  · have hcode : outcome.ending.code = _ := code_run server h
    have htrace : trace.map (·.1) = selected ↔ _ := generated_eq_iff r selected { world }
    rw [htrace, hcode, and_assoc]
    refine and_congr_right fun hannounced => and_congr_right fun _ => ?_
    rw [hannounced, Bool.true_and]
    -- with every announcement made, a failed result is told by its own text alone
    cases results.all hasSucceeded <;> cases results.all isTold <;> decide

/-! ## Runs with one failed version -/

/-- Arguments that ask for two versions and name a configuration. -/
def twoVersions : List String :=
  ["generate", "-c", "c.json", "-V", "1", "-V", "2"]

/-- An environment in which no request is repeated. -/
def unrepeated : List (String × String) :=
  [("UI5TS_FETCH_RETRIES", "1")]

/-- The configuration of one namespace. -/
def oneSpace : Config where
  input := { namespaces := ["m"], jsonLocation := "api.json", apiBaseUrl := "u" }

/-- A world with that configuration in its file. -/
def configured : World where
  store :=
    { entries := [(["work", "c.json"], .file (.text
        ("\x7b\"input\": \x7b\"namespaces\": [\"m\"], " ++
          "\"jsonLocation\": \"api.json\", \"apiBaseUrl\": \"u\"\x7d\x7d")))] }

/-- A server that fails at first and then has a document. -/
def recovering (message : String) : Server :=
  .scripted [.transportFailure message, .response 200 "\x7b\"symbols\":[]\x7d"]

theorem selects_twoVersions :
    Selects twoVersions unrepeated configured oneSpace { fetchRetries := 1 } ["1", "2"] := by
  have hlevel : checkLevel unrepeated false { world := configured } =
      (.ok (), { world := configured }) := by
    change @Eq (Except Ending Unit × Shell) _ _
    decide +kernel
  have hconfig : findConfig unrepeated (some "c.json") { world := configured } =
      (.ok oneSpace, { world := configured }) := by
    change @Eq (Except Ending Config × Shell) _ _
    decide +kernel
  refine ⟨⟨⟨false, .generate, ["-c", "c.json", "-V", "1", "-V", "2"]⟩, ["1", "2"], some "c.json",
    ?_, ?_, hlevel, hconfig, rfl⟩, ?_, ?_⟩
  · decide +kernel
  · decide +kernel
  · decide +kernel
  · decide

/-- The first version fails, and the second one is generated all the same. The run ends as a failure
and has closed its client once. -/
theorem generates_iff_told_recovering :
    let outcome := run twoVersions unrepeated (recovering "reset") configured
    let trace := generated ⟨oneSpace, { fetchRetries := 1 }, recovering "reset"⟩ ["1", "2"]
      { world := configured }
    trace.map (·.1) = ["1", "2"] ∧ outcome.ending.code = 1 ∧ outcome.shell.world.closings = 1 := by
  have hannounced : areAnnounced ["1", "2"] = true := by
    decide +kernel
  have hlast : (runAll ⟨oneSpace, { fetchRetries := 1 }, recovering "reset"⟩ ["1", "2"]
      configured).1.dropLast.all isTold = true := by
    decide +kernel
  have hfailed : (runAll ⟨oneSpace, { fetchRetries := 1 }, recovering "reset"⟩ ["1", "2"]
      configured).1.all hasSucceeded = false := by
    decide +kernel
  have hclosings : (runAll ⟨oneSpace, { fetchRetries := 1 }, recovering "reset"⟩ ["1", "2"]
      configured).2.disconnect.closings = 1 := by
    decide +kernel
  obtain ⟨-, ⟨-, -, hworld⟩, -, htold⟩ :=
    generates_iff_told (recovering "reset") rfl selects_twoVersions
  rw [hfailed] at htold
  obtain ⟨hall, hcode⟩ := htold.2 ⟨hannounced, hlast, fun h => absurd h Bool.false_ne_true⟩
  rw [hall] at hworld
  exact ⟨hall, hcode, (congrArg World.closings hworld).trans hclosings⟩

/-- No file is tried for the first version, and the one of the second version is taken. -/
theorem answersAll_recovering :
    Generation.AnswersAll ⟨oneSpace, { fetchRetries := 1 }, recovering "[/b]"⟩ ["1", "2"]
      configured := by
  let r : Retriever := ⟨oneSpace, { fetchRetries := 1 }, recovering "[/b]"⟩
  let between := (Generation.run r "1" configured).2
  refine ⟨?_, ?_, trivial⟩
  · intro hdelivered
    have hmem : ("m", .error (.unavailable "u/m/api.json" (.answer "[/b]"))) ∈
        (Generation.calls r "1" r.config.input.namespaces configured).1 := by
      decide +kernel
    obtain ⟨document, hdocument⟩ := hdelivered _ hmem
    cases hdocument
  · intro hdelivered tree definitions hdefinitions
    have hlibraries : tree.forest.libraries = [] := by
      decide +kernel
    have hnone : definitions = [] := by
      have hnames := (Generation.definitionsOf_eq_ok hdefinitions).1
      rw [hlibraries] at hnames
      exact List.map_eq_nil_iff.1 hnames
    subst hnone
    have hplaced : (Generation.placeAll (Generation.filesOf tree "2" [])
        (Generation.calls r "2" r.config.input.namespaces between).2.store).1 =
          [(Generation.exportsPath oneSpace "2", .ok ())] := by
      decide +kernel
    intro outcome hmem
    have houtcome := hplaced ▸ hmem
    rw [List.mem_singleton.1 houtcome]
    exact .inl rfl

/-- The message of the server is no well-formed markup. The run breaks off when it has to print it,
and the second version is not generated, although there is a document for it and the file system
takes its file. -/
theorem unprintable_leaves_out_version :
    let outcome := run twoVersions unrepeated (recovering "[/b]") configured
    let trace := generated ⟨oneSpace, { fetchRetries := 1 }, recovering "[/b]"⟩ ["1", "2"]
      { world := configured }
    Selects twoVersions unrepeated configured oneSpace { fetchRetries := 1 } ["1", "2"] ∧
      Generation.AnswersAll ⟨oneSpace, { fetchRetries := 1 }, recovering "[/b]"⟩ ["1", "2"]
        configured ∧
      outcome.ending = .crashed (.markup (.unmatched "/b" 54)) ∧
      trace.map (·.1) = ["1"] ∧ outcome.shell.world.requests = ["u/m/api.json"] := by
  have htrace : (generated ⟨oneSpace, { fetchRetries := 1 }, recovering "[/b]"⟩ ["1", "2"]
      { world := configured }).map (·.1) = ["1"] := by
    decide +kernel
  have hending : (generateVersions ⟨oneSpace, { fetchRetries := 1 }, recovering "[/b]"⟩
      ["1", "2"] { world := configured }).1 =
        .error (.crashed (.markup (.unmatched "/b" 54))) := by
    decide +kernel
  refine ⟨selects_twoVersions, answersAll_recovering, ?_, htrace, ?_⟩
  · have hrun := run_of_selects (recovering "[/b]") selects_twoVersions
    rw [closing_eq, hending] at hrun
    exact congrArg Outcome.ending hrun
  · have hworld := world_run (recovering "[/b]") selects_twoVersions
    dsimp only at hworld
    rw [htrace] at hworld
    refine (congrArg World.requests hworld).trans ?_
    decide +kernel

end CommandLine
end Typings
