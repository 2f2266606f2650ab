import Typings.Config.Basic
import Typings.Document.Text
import Typings.Retrieval.Server
import Typings.Retrieval.World
import Typings.Settings.Basic

/-!
# Retrieving documents

A document comes from the local cache, when the configuration turns it on and the document is
there, and otherwise from the server.

* `Retriever.remoteUrl`, `Retriever.localPath`: where the document of a namespace lies;
* `Retriever.attempt`: requests until one is decisive, the attempts are used up or the pause before
  the next one cannot be made;
* `Retriever.fromServer`, `Retriever.document`: a document, or why there is none, with the world
  afterwards.
-/

namespace Typings

/-! ## Failures -/

/-- What ends the requests for a document without one. -/
inductive Setback where
  /-- The last answer, which said why. -/
  | answer (cause : String)
  /-- A pause that the clock cannot count. -/
  | overlongPause
deriving DecidableEq, Repr

inductive RetrievalError where
  /-- No request for an address was answered with a document. -/
  | unavailable (url : String) (setback : Setback)
  | unparsed (error : Document.ParseError)
  | client (problem : ClientProblem) (message : String)
  | unwritten (obstacle : Json.Obstacle)
  | file (failure : FileFailure)
deriving DecidableEq, Repr

def RetrievalError.message : RetrievalError → String
  | .unavailable url (.answer cause) => s!"Failed to fetch '{url}': {cause}"
  | .unavailable _ .overlongPause => "timestamp out of range for platform time_t"
  | .unparsed error => error.message
  | .client _ message => message
  | .unwritten obstacle => obstacle.message
  | .file failure => failure.message

/-! ## Retrievers -/

/-- What retrieval depends on. -/
structure Retriever where
  config : Config
  settings : Settings
  server : Server

/-- The text that stands for the version in addresses and paths. -/
def versionMarker : String := "\x7b\x7bVERSION\x7d\x7d"

namespace Retriever

/-- A location below a base, with the version put in. -/
def locationBelow (base location space version : String) : String :=
  Text.replaceAll versionMarker version (base ++ "/" ++ space ++ "/" ++ location)

/-- The address of the document of a namespace. -/
def remoteUrl (r : Retriever) (space version : String) : String :=
  locationBelow r.config.input.apiBaseUrl r.config.input.jsonLocation space version

/-- The path of the document of a namespace in the local cache. -/
def localPath (r : Retriever) (space version : String) : FilePath :=
  .ofString (locationBelow r.config.storage.path r.config.input.jsonLocation space version)

/-! ## Requests -/

/-- The outcome of one answer: the document or a final failure, or the cause for another
attempt. -/
inductive Verdict where
  | delivered (body : String)
  | refused (error : RetrievalError)
  | retry (cause : String)
deriving DecidableEq, Repr

/-- What an answer means. Failures of the transport and of the server pass; other refusals
stay. -/
def judge (url : String) : Answer → Verdict
  | .response status body =>
      let cause := s!"{status} - {reasonPhrase status}"
      if status = 200 then .delivered body
      else if status < 500 then .refused (.unavailable url (.answer cause))
      else .retry cause
  | .transportFailure message => .retry message
  | .clientFailure problem message => .refused (.client problem message)

/-- The pause behind an attempt, doubled from attempt to attempt. -/
def pauseAfter (r : Retriever) (attempt : Nat) : Binary64 :=
  r.settings.fetchRetryDelay.scaleByPowerOfTwo attempt

/-- The world behind a failed attempt: a pause, unless no attempt remains. -/
def rest? (r : Retriever) (remaining attempt : Nat) (world : World) : Option World :=
  if remaining = 0 then some world
  else if world.clock.measures (r.pauseAfter attempt) then
    some (world.logPause (r.pauseAfter attempt))
  else none

/-- Send one request. -/
def request (r : Retriever) (url : String) (world : World) : Answer × World :=
  let connected := world.connect r.settings.fetchTimeout
  (r.server connected.requests.length url, connected.logRequest url)

/-- Request an address until an answer is decisive, at most `remaining` times. `attempt` counts
the requests before, `cause` is what went wrong with the last of them. -/
def attempt (r : Retriever) (url : String) :
    (remaining attempt : Nat) → (cause : String) → World → Except RetrievalError String × World
  | 0, _, cause, world => (.error (.unavailable url (.answer cause)), world)
  | remaining + 1, attempt, _, world =>
      let (answer, world) := r.request url world
      match judge url answer with
      | .delivered body => (.ok body, world)
      | .refused error => (.error error, world)
      | .retry cause =>
          let world := world.warn (.failedRequest url cause)
          match r.rest? remaining attempt world with
          | some world => Retriever.attempt r url remaining (attempt + 1) cause world
          | none => (.error (.unavailable url .overlongPause), world)

/-! ## Documents -/

/-- The document of a namespace from the server. -/
def fromServer (r : Retriever) (space version : String) (world : World) :
    Except RetrievalError Document × World :=
  match r.attempt (r.remoteUrl space version) r.settings.fetchRetries 0 "" world with
  | (.ok body, world) => ((Document.parse body).mapError .unparsed, world)
  | (.error error, world) => (.error error, world)

/-- The layout of documents in the local cache. -/
def cacheLayout (r : Retriever) : Json.Layout :=
  .block r.config.output.indentation.toList

/-- Put a document into the local cache. The directories for it are made before its text. -/
def cache (r : Retriever) (path : FilePath) (document : Document) (world : World) :
    Except RetrievalError Document × World :=
  match world.store.makeDirectories path.parent with
  | (.error failure, made) => (.error (.file failure), { world with store := made })
  | (.ok (), made) =>
      match document.write r.cacheLayout with
      | .error obstacle => (.error (.unwritten obstacle), { world with store := made })
      | .ok text =>
          match made.writeText path text with
          | (.error failure, store) => (.error (.file failure), { world with store })
          | (.ok (), store) => (.ok document, { world with store })

/-- The document in a file of the local cache. -/
def fromCache (path : FilePath) (world : World) : Except RetrievalError Document × World :=
  match world.store.readText path with
  | .error failure => (.error (.file failure), world)
  | .ok text => ((Document.parse text).mapError .unparsed, world)

/-- The document of a namespace. With the cache on, a cached document is taken without a request,
and one from the server is cached. -/
def document (r : Retriever) (space version : String) (world : World) :
    Except RetrievalError Document × World :=
  let path := r.localPath space version
  if !r.config.storage.runLocal then r.fromServer space version world
  else
    match world.store.pathExists path with
    | .error error => (.error (.file (.refused error)), world)
    | .ok true => fromCache path world
    | .ok false =>
        match r.fromServer space version world with
        | (.ok document, world) => r.cache path document world
        | (.error error, world) => (.error error, world)

end Retriever
end Typings
