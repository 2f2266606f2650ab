import Typings.Proofs.Generation.Files
import Typings.Proofs.Retrieval.Effects

/-!
# The client of a run

A run that begins without a client makes one with its first request, and all later requests go
through it. Nothing that retrieves documents or writes files closes it.

* `World.Serving`: the requests of a run so far and the client that they went through;
* `World.Serving.request`: what one request does;
* `Generation.serving_run`: whole generations;
* `World.Closed`, `World.Serving.closed`: the end of a run.
-/

namespace Typings

variable {timeout : Binary64} {start world : World}

/-! ## One client for all requests -/

namespace World

/-- The world of a run that began without a client: none is there before the first request, and
after it one client that was made here. -/
def Serving (timeout : Binary64) (start world : World) : Prop :=
  ∃ sent, world.requests = start.requests ++ sent ∧ world.closings = start.closings ∧
    if sent = [] then world.connection = .absent ∧ world.timeouts = start.timeouts
    else world.connection = .own ∧ world.timeouts = start.timeouts ++ [timeout]

/-- The world of a run that began without a client and has come to its end: a client was made when
there was a request, and in no other case, no more than one was made, and it was closed once. -/
def Closed (start world : World) : Prop :=
  ∃ sent made, world.requests = start.requests ++ sent ∧ world.timeouts = start.timeouts ++ made ∧
    made.length = (if sent = [] then 0 else 1) ∧
    world.closings = start.closings + made.length ∧ world.connection = .absent

theorem Closed.refl (habsent : start.connection = .absent) : Closed start start :=
  ⟨[], [], by simp, by simp, rfl, rfl, habsent⟩

namespace Serving

theorem refl (timeout : Binary64) (habsent : start.connection = .absent) :
    Serving timeout start start :=
  ⟨[], by simp, rfl, by simp [habsent]⟩

/-- Files, pauses and warnings have nothing to do with the client. -/
theorem beside (h : Serving timeout start world) (store : FileStore) (pauses : List Binary64)
    (warnings : List Warning) : Serving timeout start { world with store, pauses, warnings } :=
  h

theorem request (url : String) (h : Serving timeout start world) :
    Serving timeout start ((world.connect timeout).logRequest url) := by
  obtain ⟨sent, hrequests, hclosings, hclient⟩ := h
  refine ⟨sent ++ [url], ?_, ?_, ?_⟩
  · rw [logRequest, requests_connect, hrequests, List.append_assoc]
  · unfold connect
    split <;> exact hclosings
  · rw [if_neg (List.concat_ne_nil url sent)]
    by_cases hsent : sent = []
    · -- the first request makes the client
      rw [if_pos hsent] at hclient
      simp [logRequest, connect, hclient]
    · rw [if_neg hsent] at hclient
      simp [logRequest, connect, hclient]

/-- In the end the client is closed when one was made, and none is left. -/
theorem closed (h : Serving timeout start world) : Closed start world.disconnect := by
  obtain ⟨sent, hrequests, hclosings, hclient⟩ := h
  refine ⟨sent, if sent = [] then [] else [timeout], ?_⟩
  by_cases hsent : sent = []
  · rw [if_pos hsent] at hclient
    simp [disconnect, hclient, hrequests, hclosings, hsent]
  · rw [if_neg hsent] at hclient
    simp [disconnect, hclient, hrequests, hclosings, hsent]

end Serving
end World

/-! ## Retrieval -/

namespace Retriever

variable {r : Retriever}

theorem serving_attempt (url : String) (remaining attempt : Nat) (cause : String)
    (h : World.Serving r.settings.fetchTimeout start world) :
    World.Serving r.settings.fetchTimeout start
      (r.attempt url remaining attempt cause world).2 := by
  induction remaining generalizing attempt cause world with
  | zero => exact h
  | succ remaining ih =>
      -- one request, and then at most notes about it before the next
      have hrequest : World.Serving r.settings.fetchTimeout start (r.request url world).2 :=
        h.request url
      rw [Retriever.attempt]
      dsimp only
      split
      · exact hrequest
      · exact hrequest
      · split
        next hrest =>
          obtain ⟨pauses, rfl⟩ := rest?_eq_some hrest
          exact ih _ _ (hrequest.beside _ _ _)
        · exact hrequest.beside _ _ _

theorem serving_fromServer (space version : String)
    (h : World.Serving r.settings.fetchTimeout start world) :
    World.Serving r.settings.fetchTimeout start (r.fromServer space version world).2 := by
  have hattempt := serving_attempt (r.remoteUrl space version) r.settings.fetchRetries 0 "" h
  rw [fromServer]
  split
  next hasked =>
    rw [hasked] at hattempt
    exact hattempt
  next hasked =>
    rw [hasked] at hattempt
    exact hattempt

theorem serving_document (space version : String)
    (h : World.Serving r.settings.fetchTimeout start world) :
    World.Serving r.settings.fetchTimeout start (r.document space version world).2 := by
  have hasked := serving_fromServer space version h
  cases hlocal : r.config.storage.runLocal with
  | false =>
      rw [document_of_uncached hlocal]
      exact hasked
  | true =>
      rcases hexists : world.store.pathExists (r.localPath space version) with error | _ | _
      · rw [document_of_unclear hlocal hexists]
        exact h
      · -- the file is missing, so the server is asked, and then a document is kept
        rcases hfetched : r.fromServer space version world with ⟨error | document, after⟩
        · rw [document_of_failure hlocal hexists hfetched]
          rw [hfetched] at hasked
          exact hasked
        · rw [document_of_delivery hlocal hexists hfetched, world_cache]
          rw [hfetched] at hasked
          exact hasked.beside _ _ _
      · rw [document_of_present hlocal hexists]
        exact h

end Retriever

/-! ## Generations -/

namespace Generation

variable {r : Retriever}

theorem serving_retrieveAll (version : String) (spaces : List String)
    (h : World.Serving r.settings.fetchTimeout start world) :
    World.Serving r.settings.fetchTimeout start (retrieveAll r version spaces world).2 := by
  induction spaces generalizing world with
  | nil => exact h
  | cons space spaces ih =>
      have hrest := ih (Retriever.serving_document space version h)
      rw [retrieveAll]
      dsimp only
      split <;> exact hrest

theorem serving_writeFile (path : FilePath) (text : String) (report : GenerationReport)
    (h : World.Serving timeout start world) :
    World.Serving timeout start (writeFile path text report world).2 := by
  rw [writeFile]
  split
  · exact h.beside _ _ _
  · exact h.beside _ _ _
  · exact h.beside _ _ _

theorem serving_writeDefinitions (config : Config) (version : String) (libraries : List String)
    (forest : Forest) (report : GenerationReport) (h : World.Serving timeout start world) :
    World.Serving timeout start
      (writeDefinitions config version libraries forest report world).2 := by
  induction libraries generalizing forest report world with
  | nil => exact h
  | cons library libraries ih =>
      rw [writeDefinitions_cons]
      cases htext : Definitions.text config (some library) forest with
      | error error => exact h
      | ok text =>
          have hwritten := serving_writeFile (definitionsPath config version library) text report h
          rcases hwrite : writeFile (definitionsPath config version library) text report world with
            ⟨failure | written, between⟩
          · simp only [hwrite]
            rw [hwrite] at hwritten
            exact hwritten
          · simp only [hwrite]
            rw [hwrite] at hwritten
            exact ih _ written hwritten

theorem serving_writeTree (tree : Tree) (version : String) (h : World.Serving timeout start world) :
    World.Serving timeout start (writeTree tree version world).2 := by
  have hdefinitions := serving_writeDefinitions tree.config version tree.forest.libraries
    tree.forest (reportOn tree version) h
  rw [writeTree]
  split
  next hwrite =>
    rw [hwrite] at hdefinitions
    exact hdefinitions
  next hwrite =>
    rw [hwrite] at hdefinitions
    exact serving_writeFile _ _ _ hdefinitions

/-- A generation makes at most the one client, and does not close it. -/
theorem serving_run (version : String) (h : World.Serving r.settings.fetchTimeout start world) :
    World.Serving r.settings.fetchTimeout start (run r version world).2 := by
  have hretrieved := serving_retrieveAll version r.config.input.namespaces h
  rw [run]
  dsimp only
  split
  · exact hretrieved
  · split
    · exact hretrieved
    · exact serving_writeTree _ version (hretrieved.beside _ _ _)

end Generation
end Typings
