import Typings.Proofs.Number.Rounding
import Typings.Retrieval.Fetch

/-!
# Attempts at a request

A request is repeated as long as another attempt may help, attempts are left and the clock of the
world can count the pause before the next one. What comes of it, and what the world has noted then,
follows from the answers and the clock alone.

* `Answer.isRetryable`, `Answer.outcome`: answers after which another attempt may help, and what an
  answer comes to when there is none;
* `World.noting`: a world with more requests, pauses and warnings;
* `Retriever.MeasuredBefore`: the first pauses, each of which the clock can count;
* `Retriever.attempt_skip`: the attempts before a decisive one;
* `Retriever.fromServer_attempts`: every run of attempts, with its outcome and its pauses.
-/

namespace Typings

/-! ## Answers -/

namespace Answer

/-- The transport failed, or the server did. -/
def isRetryable : Answer → Bool
  | .response status _ => 500 ≤ status
  | .transportFailure _ => true
  | .clientFailure _ _ => false

/-- What an answer says about its failure. -/
def cause : Answer → String
  | .response status _ => s!"{status} - {reasonPhrase status}"
  | .transportFailure message => message
  | .clientFailure _ message => message

/-- What the last answer comes to: the document in it, or why there is none. -/
def outcome (url : String) (answer : Answer) : Except RetrievalError Document :=
  match answer with
  | .response status body =>
      if status = 200 then (Document.parse body).mapError .unparsed
      else .error (.unavailable url (.answer answer.cause))
  | .transportFailure _ => .error (.unavailable url (.answer answer.cause))
  | .clientFailure problem message => .error (.client problem message)

end Answer

/-! ## Notes of a world -/

namespace World

/-- The world with more requests, pauses and warnings. -/
def noting (requests : List String) (pauses : List Binary64) (warnings : List Warning)
    (world : World) : World :=
  { world with
    requests := world.requests ++ requests
    pauses := world.pauses ++ pauses
    warnings := world.warnings ++ warnings }

variable {world : World} {requests moreRequests : List String} {pauses morePauses : List Binary64}
variable {warnings moreWarnings : List Warning}

theorem noting_nil (world : World) : world.noting [] [] [] = world := by
  simp [noting]

theorem noting_noting :
    (world.noting requests pauses warnings).noting moreRequests morePauses moreWarnings =
      world.noting (requests ++ moreRequests) (pauses ++ morePauses)
        (warnings ++ moreWarnings) := by
  simp [noting]

theorem store_connect (timeout : Binary64) (world : World) :
    (world.connect timeout).store = world.store := by
  unfold connect
  split <;> rfl

theorem requests_connect (timeout : Binary64) (world : World) :
    (world.connect timeout).requests = world.requests := by
  unfold connect
  split <;> rfl

theorem clock_connect (timeout : Binary64) (world : World) :
    (world.connect timeout).clock = world.clock := by
  unfold connect
  split <;> rfl

/-- One client serves all requests. -/
theorem connect_connect (timeout other : Binary64) (world : World) :
    (world.connect timeout).connect other = world.connect timeout := by
  cases hconnection : world.connection <;> simp [connect, hconnection]

theorem connect_noting {timeout : Binary64} (h : world.connect timeout = world) :
    (world.noting requests pauses warnings).connect timeout =
      world.noting requests pauses warnings := by
  cases hconnection : world.connection with
  | absent =>
      -- a client was made, although there is none
      have hown : (world.connect timeout).connection = .own := by simp [connect, hconnection]
      rw [h, hconnection] at hown
      cases hown
  | borrowed => simp [connect, noting, hconnection]
  | own => simp [connect, noting, hconnection]

end World

namespace Retriever

variable {r : Retriever} {url cause : String} {world : World} {remaining count : Nat}

/-! ## One attempt -/

/-- The answers to requests for an address, from the next one on. -/
def answer (r : Retriever) (url : String) (world : World) (number : Nat) : Answer :=
  r.server (world.requests.length + number) url

/-- The first answers, as many as are counted, all leave another attempt. -/
def RetryableBefore (r : Retriever) (url : String) (world : World) (count : Nat) : Prop :=
  ∀ number < count, (r.answer url world number).isRetryable = true

/-- The clock can count the pauses behind the first attempts. -/
def MeasuredBefore (r : Retriever) (clock : Clock) (count : Nat) : Prop :=
  ∀ number < count, clock.measures (r.pauseAfter number) = true

theorem judge_of_retryable {answer : Answer} (h : answer.isRetryable = true) :
    judge url answer = .retry answer.cause := by
  cases answer with
  | response status body =>
      have hserver : 500 ≤ status := by simpa [Answer.isRetryable] using h
      have hnotFound : ¬ status < 500 := by omega
      have hnotOk : status ≠ 200 := by omega
      simp [judge, hnotOk, hnotFound, Answer.cause]
  | transportFailure message => rfl
  | clientFailure problem message => cases h

/-- The document of the answers of a run, or why there is none. -/
def read : Except RetrievalError String → Except RetrievalError Document
  | .ok body => (Document.parse body).mapError .unparsed
  | .error error => .error error

theorem request_of_connected (h : world.connect r.settings.fetchTimeout = world) :
    r.request url world = (r.answer url world 0, world.noting [url] [] []) := by
  simp [request, answer, h, World.noting, World.logRequest]

/-- The last attempt has no pause behind it. -/
theorem attempt_of_last (hconnected : world.connect r.settings.fetchTimeout = world)
    (h : (r.answer url world 0).isRetryable = true) :
    r.attempt url 1 count cause world =
      (.error (.unavailable url (.answer (r.answer url world 0).cause)),
        world.noting [url] [] [.failedRequest url (r.answer url world 0).cause]) := by
  rw [attempt, request_of_connected hconnected]
  simp [judge_of_retryable h, rest?, attempt, World.noting, World.warn]

/-- Another attempt that may be repeated is followed by its pause. -/
theorem attempt_of_retryable (hconnected : world.connect r.settings.fetchTimeout = world)
    (h : (r.answer url world 0).isRetryable = true)
    (hmeasured : world.clock.measures (r.pauseAfter count) = true) :
    r.attempt url (remaining + 2) count cause world =
      r.attempt url (remaining + 1) (count + 1) (r.answer url world 0).cause
        (world.noting [url] [r.pauseAfter count]
          [.failedRequest url (r.answer url world 0).cause]) := by
  rw [attempt, request_of_connected hconnected]
  simp [judge_of_retryable h, rest?, hmeasured, World.noting, World.warn, World.logPause]

/-- Where the clock cannot count the pause, the attempt was the last after all. -/
theorem attempt_of_overlong (hconnected : world.connect r.settings.fetchTimeout = world)
    (h : (r.answer url world 0).isRetryable = true)
    (hoverlong : world.clock.measures (r.pauseAfter count) = false) :
    r.attempt url (remaining + 2) count cause world =
      (.error (.unavailable url .overlongPause),
        world.noting [url] [] [.failedRequest url (r.answer url world 0).cause]) := by
  rw [attempt, request_of_connected hconnected]
  simp [judge_of_retryable h, rest?, hoverlong, World.noting, World.warn]

/-- A decisive attempt is the last. -/
theorem attempt_of_decisive (hconnected : world.connect r.settings.fetchTimeout = world)
    (h : (r.answer url world 0).isRetryable = false) :
    ∃ result, r.attempt url (remaining + 1) count cause world = (result, world.noting [url] [] []) ∧
      read result = (r.answer url world 0).outcome url := by
  rw [attempt, request_of_connected hconnected]
  cases hanswer : r.answer url world 0 with
  | response status body =>
      rw [hanswer] at h
      have hclient : status < 500 := by simpa [Answer.isRetryable] using h
      by_cases hok : status = 200
      · exact ⟨.ok body, by simp [judge, hok], by simp [read, Answer.outcome, hok]⟩
      · refine ⟨.error (.unavailable url (.answer (Answer.response status body).cause)), ?_, ?_⟩
        · simp [judge, hok, hclient, Answer.cause]
        · simp [read, Answer.outcome, hok]
  | transportFailure message =>
      rw [hanswer] at h
      cases h
  | clientFailure problem message =>
      exact ⟨.error (.client problem message), by simp [judge], rfl⟩

/-! ## Runs of attempts -/

/-- The world after failed attempts with a pause behind each. -/
def afterFailures (r : Retriever) (url : String) (count : Nat) (world : World) : World :=
  world.noting (List.replicate count url) ((List.range count).map r.pauseAfter)
    ((List.range count).map fun number => .failedRequest url (r.answer url world number).cause)

theorem answer_afterFailures (url : String) (count number : Nat) (world : World) :
    r.answer url (r.afterFailures url count world) number = r.answer url world (count + number) := by
  simp [answer, afterFailures, World.noting, Nat.add_assoc]

theorem afterFailures_succ (url : String) (count : Nat) (world : World) :
    (r.afterFailures url count world).noting [url] [r.pauseAfter count]
        [.failedRequest url (r.answer url world count).cause] =
      r.afterFailures url (count + 1) world := by
  simp [afterFailures, World.noting_noting, List.replicate_succ', List.range_succ]

theorem connect_afterFailures (hconnected : world.connect r.settings.fetchTimeout = world)
    (url : String) (count : Nat) :
    (r.afterFailures url count world).connect r.settings.fetchTimeout =
      r.afterFailures url count world :=
  World.connect_noting hconnected

/-- Attempts that may be repeated are, as long as more than one is left and the clock can count the
pauses behind them. -/
theorem attempt_skip (hconnected : world.connect r.settings.fetchTimeout = world)
    (h : r.RetryableBefore url world count) (hmeasured : r.MeasuredBefore world.clock count) :
    r.attempt url (count + (remaining + 1)) 0 cause world =
      r.attempt url (remaining + 1) count cause (r.afterFailures url count world) := by
  induction count generalizing remaining with
  | zero => simp [afterFailures, World.noting_nil]
  | succ count ih =>
      have hbefore : r.RetryableBefore url world count := by
        intro number hnumber
        exact h number (Nat.lt_succ_of_lt hnumber)
      have hanswer : r.answer url (r.afterFailures url count world) 0 =
          r.answer url world count := by
        rw [answer_afterFailures, Nat.add_zero]
      have hlast : (r.answer url (r.afterFailures url count world) 0).isRetryable = true := by
        rw [hanswer]
        exact h count (Nat.lt_succ_self count)
      have hbeforePauses : r.MeasuredBefore world.clock count := by
        intro number hnumber
        exact hmeasured number (Nat.lt_succ_of_lt hnumber)
      have hstep : r.attempt url (remaining + 2) count cause
          (r.afterFailures url count world) = _ :=
        attempt_of_retryable (connect_afterFailures hconnected url count) hlast
          (hmeasured count (Nat.lt_succ_self count))
      -- what went wrong last counts only when no attempt is left
      calc r.attempt url (count + 1 + (remaining + 1)) 0 cause world
          = r.attempt url (count + (remaining + 1 + 1)) 0 cause world := by
            congr 1
            omega
        _ = r.attempt url (remaining + 2) count cause (r.afterFailures url count world) :=
            ih hbefore hbeforePauses
        _ = r.attempt url (remaining + 1) (count + 1) cause
              (r.afterFailures url (count + 1) world) := by
            rw [hstep, hanswer, afterFailures_succ]
            rfl

theorem attempt_connect :
    r.attempt url (remaining + 1) count cause (world.connect r.settings.fetchTimeout) =
      r.attempt url (remaining + 1) count cause world := by
  rw [attempt, attempt, request, request, World.connect_connect]

theorem answer_connect (timeout : Binary64) (url : String) (world : World) :
    r.answer url (world.connect timeout) = r.answer url world := by
  funext number
  rw [answer, answer, World.requests_connect]

/-! ## Documents from the server -/

/-- The warnings about failed attempts. -/
def failures (r : Retriever) (url : String) (world : World) (count : Nat) : List Warning :=
  (List.range count).map fun number => .failedRequest url (r.answer url world number).cause

/-- The world after a run of attempts: all requests go to one address, and pauses stand between
them. -/
def afterAttempts (r : Retriever) (url : String) (requests pauses failed : Nat) (world : World) :
    World :=
  (world.connect r.settings.fetchTimeout).noting (List.replicate requests url)
    ((List.range pauses).map r.pauseAfter) (r.failures url world failed)

theorem fromServer_eq (r : Retriever) (space version : String) (world : World) :
    r.fromServer space version world =
      (read (r.attempt (r.remoteUrl space version) r.settings.fetchRetries 0 "" world).1,
        (r.attempt (r.remoteUrl space version) r.settings.fetchRetries 0 "" world).2) := by
  rw [fromServer]
  split
  next body after hattempt => rw [hattempt, read]
  next error after hattempt => rw [hattempt, read]

theorem afterFailures_connect (url : String) (count : Nat) (world : World) :
    r.afterFailures url count (world.connect r.settings.fetchTimeout) =
      r.afterAttempts url count count count world := by
  rw [afterFailures, afterAttempts, failures, answer_connect]

/-- The attempts before one that is decisive, or the last one. -/
theorem attempt_eq (h : r.RetryableBefore url world count)
    (hmeasured : r.MeasuredBefore world.clock count) :
    r.attempt url (count + (remaining + 1)) 0 cause world =
      r.attempt url (remaining + 1) count cause (r.afterAttempts url count count count world) := by
  have hconnected := World.connect_connect r.settings.fetchTimeout r.settings.fetchTimeout world
  have hbefore : r.RetryableBefore url (world.connect r.settings.fetchTimeout) count := by
    intro number hnumber
    rw [answer_connect]
    exact h number hnumber
  have hbeforePauses : r.MeasuredBefore (world.connect r.settings.fetchTimeout).clock count := by
    rw [World.clock_connect]
    exact hmeasured
  calc r.attempt url (count + (remaining + 1)) 0 cause world
      = r.attempt url (count + (remaining + 1)) 0 cause (world.connect r.settings.fetchTimeout) :=
        attempt_connect.symm
    _ = r.attempt url (remaining + 1) count cause
          (r.afterFailures url count (world.connect r.settings.fetchTimeout)) :=
        attempt_skip hconnected hbefore hbeforePauses
    _ = r.attempt url (remaining + 1) count cause (r.afterAttempts url count count count world) := by
        rw [afterFailures_connect]

theorem answer_afterAttempts (url : String) (count : Nat) (world : World) :
    r.answer url (r.afterAttempts url count count count world) 0 = r.answer url world count := by
  rw [← afterFailures_connect, answer_afterFailures, answer_connect, Nat.add_zero]

theorem connect_afterAttempts (url : String) (count : Nat) (world : World) :
    (r.afterAttempts url count count count world).connect r.settings.fetchTimeout =
      r.afterAttempts url count count count world := by
  rw [← afterFailures_connect]
  exact connect_afterFailures (World.connect_connect _ _ world) url count

theorem clock_afterAttempts (url : String) (requests pauses failed : Nat) (world : World) :
    (r.afterAttempts url requests pauses failed world).clock = world.clock := by
  rw [afterAttempts, World.noting]
  exact World.clock_connect _ _

/-- A failed attempt behind which there is no pause. -/
theorem afterAttempts_noting (url : String) (count : Nat) (world : World) :
    (r.afterAttempts url count count count world).noting [url] []
        [.failedRequest url (r.answer url world count).cause] =
      r.afterAttempts url (count + 1) count (count + 1) world := by
  simp [afterAttempts, World.noting_noting, failures, List.replicate_succ', List.range_succ]

theorem RetryableBefore.of_succ (h : r.RetryableBefore url world (count + 1)) :
    r.RetryableBefore url world count := by
  intro number hnumber
  exact h number (Nat.lt_succ_of_lt hnumber)

/-- The answer behind the first attempts leaves another one. -/
theorem RetryableBefore.last (h : r.RetryableBefore url world (count + 1)) :
    (r.answer url (r.afterAttempts url count count count world) 0).isRetryable = true := by
  rw [answer_afterAttempts]
  exact h count (Nat.lt_succ_self count)

/-- Where every answer leaves another attempt, the attempts are used up. -/
theorem attempt_of_retryableBefore (hattempts : 0 < remaining)
    (h : r.RetryableBefore url world remaining)
    (hmeasured : r.MeasuredBefore world.clock (remaining - 1)) :
    r.attempt url remaining 0 cause world =
      (.error (.unavailable url (.answer (r.answer url world (remaining - 1)).cause)),
        r.afterAttempts url remaining (remaining - 1) remaining world) := by
  obtain ⟨count, rfl⟩ := Nat.exists_eq_succ_of_ne_zero (Nat.ne_of_gt hattempts)
  have hstep : r.attempt url 1 count cause (r.afterAttempts url count count count world) = _ :=
    attempt_of_last (connect_afterAttempts url count world) h.last
  calc r.attempt url (count + 1) 0 cause world
      = r.attempt url 1 count cause (r.afterAttempts url count count count world) :=
        attempt_eq h.of_succ hmeasured
    _ = (.error (.unavailable url (.answer (r.answer url world count).cause)),
          r.afterAttempts url (count + 1) count (count + 1) world) := by
        rw [hstep, answer_afterAttempts, afterAttempts_noting]

/-- The first pause that the clock cannot count ends the attempts. -/
theorem attempt_of_overlongPause (hcount : count + 1 < remaining)
    (h : r.RetryableBefore url world (count + 1)) (hmeasured : r.MeasuredBefore world.clock count)
    (hoverlong : world.clock.measures (r.pauseAfter count) = false) :
    r.attempt url remaining 0 cause world =
      (.error (.unavailable url .overlongPause),
        r.afterAttempts url (count + 1) count (count + 1) world) := by
  obtain ⟨more, rfl⟩ := Nat.exists_eq_add_of_lt hcount
  have hclock : (r.afterAttempts url count count count world).clock.measures (r.pauseAfter count) =
      false := by
    rw [clock_afterAttempts]
    exact hoverlong
  have hstep : r.attempt url (more + 2) count cause (r.afterAttempts url count count count world) =
      _ :=
    attempt_of_overlong (connect_afterAttempts url count world) h.last hclock
  calc r.attempt url (count + 1 + more + 1) 0 cause world
      = r.attempt url (count + (more + 1 + 1)) 0 cause world := by
        congr 1
        omega
    _ = r.attempt url (more + 2) count cause (r.afterAttempts url count count count world) :=
        attempt_eq h.of_succ hmeasured
    _ = (.error (.unavailable url .overlongPause),
          r.afterAttempts url (count + 1) count (count + 1) world) := by
        rw [hstep, answer_afterAttempts, afterAttempts_noting]

/-- The first answer that leaves no other attempt decides. -/
theorem attempt_of_decided (hcount : count < remaining) (h : r.RetryableBefore url world count)
    (hmeasured : r.MeasuredBefore world.clock count)
    (hdecided : (r.answer url world count).isRetryable = false) :
    ∃ result, r.attempt url remaining 0 cause world =
        (result, r.afterAttempts url (count + 1) count count world) ∧
      read result = (r.answer url world count).outcome url := by
  obtain ⟨more, rfl⟩ := Nat.exists_eq_add_of_lt hcount
  have hlast : (r.answer url (r.afterAttempts url count count count world) 0).isRetryable =
      false := by
    rw [answer_afterAttempts]
    exact hdecided
  have hworld : (r.afterAttempts url count count count world).noting [url] [] [] =
      r.afterAttempts url (count + 1) count count world := by
    simp [afterAttempts, World.noting_noting, List.replicate_succ']
  obtain ⟨result, hresult, hread⟩ :=
    @attempt_of_decisive r url cause _ more count (connect_afterAttempts url count world) hlast
  rw [answer_afterAttempts] at hread
  refine ⟨result, ?_, hread⟩
  rw [Nat.add_assoc, attempt_eq h hmeasured, hresult, hworld]

/-- A document is requested until an answer leaves no other attempt, or the attempts are used up.
Where all answers leave one, the document is unavailable with the cause of the last answer; else the
first other answer alone decides. Every request goes to the same address, and between two of them
stands a pause, each twice as long as the one before. All this holds as long as the clock of the
world can count the pauses, which a clock without a greatest count always can; the first pause that
it cannot count ends the requests. -/
theorem fromServer_attempts (r : Retriever) (space version : String) (world : World)
    (hattempts : 0 < r.settings.fetchRetries) :
    let url := r.remoteUrl space version
    let budget := r.settings.fetchRetries
    (r.RetryableBefore url world budget → r.MeasuredBefore world.clock (budget - 1) →
      r.fromServer space version world =
        (.error (.unavailable url (.answer (r.answer url world (budget - 1)).cause)),
          r.afterAttempts url budget (budget - 1) budget world)) ∧
    (∀ count < budget, r.RetryableBefore url world count →
      (r.answer url world count).isRetryable = false → r.MeasuredBefore world.clock count →
        r.fromServer space version world =
          ((r.answer url world count).outcome url,
            r.afterAttempts url (count + 1) count count world)) ∧
    (∀ count, count + 1 < budget → r.RetryableBefore url world (count + 1) →
      r.MeasuredBefore world.clock count → world.clock.measures (r.pauseAfter count) = false →
        r.fromServer space version world =
          (.error (.unavailable url .overlongPause),
            r.afterAttempts url (count + 1) count (count + 1) world)) ∧
    (world.clock.greatest = none → ∀ count, r.MeasuredBefore world.clock count) ∧
    (∀ number negative, r.settings.fetchRetryDelay = .infinite negative →
      r.pauseAfter number = .infinite negative) ∧
    ∀ number negative units representable,
      r.settings.fetchRetryDelay = .finite negative units representable →
        r.pauseAfter number =
          if units * 2 ^ number < Binary64.overflow then
            .finite negative (units * 2 ^ number) (representable.mul_pow number)
          else .infinite negative := by
  intro url budget
  refine ⟨?_, ?_, ?_, ?_, ?_, ?_⟩
  · intro hall hmeasured
    rw [fromServer_eq, attempt_of_retryableBefore hattempts hall hmeasured, read]
  · intro count hcount hbefore hdecided hmeasured
    obtain ⟨result, hresult, hread⟩ :=
      @attempt_of_decided r url "" world _ _ hcount hbefore hmeasured hdecided
    rw [fromServer_eq, hresult, hread]
  · intro count hcount hbefore hmeasured hoverlong
    rw [fromServer_eq, attempt_of_overlongPause hcount hbefore hmeasured hoverlong, read]
  · intro hgreatest count number _
    rw [Clock.measures, hgreatest, Option.all_none]
  · intro number negative hdelay
    rw [pauseAfter, hdelay, Binary64.scaleByPowerOfTwo]
    simp
  · intro number negative units representable hdelay
    rw [pauseAfter, hdelay]
    exact Binary64.scaleByPowerOfTwo_finite negative representable number

/-! ## A server that recovers -/

/-- The address of a document. -/
def dialogAddress : String :=
  "https://openui5.hana.ondemand.com/1/test-resources/sap/m/designtime/api.json"

/-- A server that fails twice before it has a document. -/
def recovering (attempts : Nat) (delay : Binary64) : Retriever where
  config := {}
  settings := { fetchRetries := attempts, fetchRetryDelay := delay }
  server := Server.scripted [.response 503 "", .transportFailure "timed out",
    .response 200 "\x7b\"symbols\": []\x7d"]

/-- A world with the clock of a computer. -/
def waiting : World where
  clock := .ofWords

theorem retryableBefore_recovering (attempts : Nat) (delay : Binary64) :
    (recovering attempts delay).RetryableBefore dialogAddress waiting 2 := by
  intro number hnumber
  match number, hnumber with
  | 0, _ => rfl
  | 1, _ => rfl

theorem pauseAfter_recovering (attempts number : Nat) (delay : Binary64) :
    (recovering attempts delay).pauseAfter number = delay.scaleByPowerOfTwo number := rfl

theorem measuredBefore_recovering (attempts : Nat) :
    (recovering attempts (.ofInt 1)).MeasuredBefore Clock.ofWords 2 := by
  intro number hnumber
  have htwo : ∀ number < 2,
      Clock.ofWords.measures (Binary64.scaleByPowerOfTwo number (.ofInt 1)) = true := by
    decide +kernel
  rw [pauseAfter_recovering]
  exact htwo number hnumber

theorem remoteUrl_recovering (attempts : Nat) (delay : Binary64) :
    (recovering attempts delay).remoteUrl "sap/m" "1" = dialogAddress := by
  have hdefault : locationBelow ({} : Config).input.apiBaseUrl ({} : Config).input.jsonLocation
      "sap/m" "1" = dialogAddress := by
    decide +kernel
  exact hdefault

/-- Two attempts are not enough, and the third one brings the document after pauses of one and two
seconds. With pauses that have no end there is only one attempt. -/
theorem fromServer_attempts_recovering :
    (recovering 2 (.ofInt 1)).fromServer "sap/m" "1" waiting =
        (.error (.unavailable dialogAddress (.answer "timed out")),
          (recovering 2 (.ofInt 1)).afterAttempts dialogAddress 2 1 2 waiting) ∧
      (recovering 3 (.ofInt 1)).fromServer "sap/m" "1" waiting =
        (.ok { library := "", version := "", symbols := [] },
          (recovering 3 (.ofInt 1)).afterAttempts dialogAddress 3 2 2 waiting) ∧
      ((recovering 3 (.ofInt 1)).afterAttempts dialogAddress 3 2 2 waiting).pauses =
        [.ofInt 1, .ofInt 2] ∧
      (recovering 3 (.infinite false)).fromServer "sap/m" "1" waiting =
        (.error (.unavailable dialogAddress .overlongPause),
          (recovering 3 (.infinite false)).afterAttempts dialogAddress 1 0 1 waiting) := by
  have hfailed :=
    (fromServer_attempts (recovering 2 (.ofInt 1)) "sap/m" "1" waiting (Nat.zero_lt_succ 1)).1
  have hdelivered :=
    (fromServer_attempts (recovering 3 (.ofInt 1)) "sap/m" "1" waiting (Nat.zero_lt_succ 2)).2.1 2
      (Nat.lt_succ_self 2)
  have hoverlong :=
    (fromServer_attempts (recovering 3 (.infinite false)) "sap/m" "1" waiting
      (Nat.zero_lt_succ 2)).2.2.1 0 (by decide)
  rw [remoteUrl_recovering] at hfailed hdelivered hoverlong
  have hdocument := hdelivered (retryableBefore_recovering 3 _) rfl (measuredBefore_recovering 3)
  have houtcome : ((recovering 3 (.ofInt 1)).answer dialogAddress waiting 2).outcome dialogAddress =
      .ok { library := "", version := "", symbols := [] } := by
    decide +kernel
  rw [houtcome] at hdocument
  have hpauses : (recovering 2 (.ofInt 1)).MeasuredBefore Clock.ofWords 1 := by
    intro number hnumber
    exact measuredBefore_recovering 2 number (Nat.lt_succ_of_lt hnumber)
  have hfirst : (recovering 3 (.infinite false)).RetryableBefore dialogAddress waiting 1 := by
    intro number hnumber
    exact retryableBefore_recovering 3 _ number (Nat.lt_succ_of_lt hnumber)
  have hnone : (recovering 3 (.infinite false)).MeasuredBefore Clock.ofWords 0 := by
    intro number hnumber
    exact absurd hnumber (Nat.not_lt_zero number)
  have hendless :
      waiting.clock.measures ((recovering 3 (.infinite false)).pauseAfter 0) = false := by
    decide +kernel
  refine ⟨hfailed (retryableBefore_recovering 2 _) hpauses, hdocument, ?_,
    hoverlong hfirst hnone hendless⟩
  decide +kernel

/-- A first pause that the clock cannot count ends the requests, although the third one would have
brought the document. Where pauses are only noted, the second one is infinite, and not twice the
first. -/
theorem huge_delay_ends_attempts :
    let r := recovering 3 (.ofInt (10 ^ 308))
    let call := r.fromServer "sap/m" "1" waiting
    let noted := r.fromServer "sap/m" "1" {}
    call.1 = .error (.unavailable dialogAddress .overlongPause) ∧
      call.2.requests = [dialogAddress] ∧ call.2.pauses = [] ∧
      noted.1 = .ok { library := "", version := "", symbols := [] } ∧
      noted.2.pauses = [.ofInt (10 ^ 308), .infinite false] := by
  refine ⟨?_, ?_, ?_, ?_, ?_⟩ <;> decide +kernel

end Retriever
end Typings
