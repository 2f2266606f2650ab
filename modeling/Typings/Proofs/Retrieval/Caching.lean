import Typings.Proofs.Files.Making
import Typings.Proofs.Retrieval.Attempts
import Typings.Proofs.Validation

/-!
# One call for a document

A call with the cache on either reads the file at its path or asks the server and makes that file.

* `Settings.fetchRetries_pos`: the settings of a run allow at least one attempt;
* `Retriever.Delivers`: a server with a document at every address;
* `Retriever.fromServer_of_delivers`: from such a server comes the document of the address;
* `Retriever.Hit`: a call that finds a text in the cache;
* `Retriever.document_of_hit`, `Retriever.document_of_miss`: the outcome of a call, and the store
  that it leaves.
-/

namespace Typings

/-! ## Attempts -/

theorem Checked.andThen_eq_accepted {α β : Type} {checked : Checked α} {next : α → Checked β}
    {result : β} (h : checked.andThen next = .accepted result) :
    ∃ value, checked = .accepted value ∧ next value = .accepted result := by
  cases checked with
  | accepted value => exact ⟨value, rfl, h⟩
  | rejected issues => cases h

namespace Settings

open Checked (andThen_eq_accepted seq_eq_accepted map_eq_accepted)

theorem checkRetries_pos {value : Json} {retries : Nat}
    (h : checkRetries value = .accepted retries) : 0 < retries := by
  rcases andThen_eq_accepted h with ⟨number, -, hnumber⟩
  split at hnumber
  · cases hnumber
  · split at hnumber
    · cases hnumber
    next hleast =>
      cases hnumber
      omega

theorem check_fetchRetries_pos {fields : Fields} {settings : Settings}
    (h : check fields = .accepted settings) : 0 < settings.fetchRetries := by
  rcases seq_eq_accepted h with ⟨g₄, logLevel, h₄, -, rfl⟩
  rcases seq_eq_accepted h₄ with ⟨g₃, delay, h₃, -, rfl⟩
  rcases seq_eq_accepted h₃ with ⟨g₂, retries, h₂, hretries, rfl⟩
  rcases seq_eq_accepted h₂ with ⟨g₁, timeout, h₁, -, rfl⟩
  rcases map_eq_accepted h₁ with ⟨path, -, rfl⟩
  rcases Fields.optional_eq_accepted hretries with rfl | ⟨found, -, hfound⟩
  · exact Nat.zero_lt_succ 2
  · exact checkRetries_pos hfound

/-- Settings that were read allow at least one attempt. -/
theorem fetchRetries_pos {environment : List (String × String)} {store : FileStore}
    {settings : Settings} (h : read environment store = .ok settings) :
    0 < settings.fetchRetries := by
  rw [read] at h
  split at h
  · cases h
  next file hfile =>
    split at h
    next found hfound =>
      cases h
      exact check_fetchRetries_pos hfound
    · cases h

end Settings

/-- What a document is asked for by. -/
structure Call where
  space : String
  version : String
deriving DecidableEq, Repr

namespace Retriever

variable {r : Retriever} {docs : String → Document} {call : Call} {world : World}
variable {found document : Document}

/-! ## The server -/

/-- The address of the document of a call. -/
def address (r : Retriever) (call : Call) : String :=
  r.remoteUrl call.space call.version

/-- The server answers each request by the document of its address. -/
def Delivers (r : Retriever) (docs : String → Document) : Prop :=
  ∀ number url, ∃ body, r.server number url = .response 200 body ∧
    Document.parse body = .ok (docs url)

theorem attempt_of_delivers (hdelivers : r.Delivers docs) (hattempts : 0 < r.settings.fetchRetries)
    (url : String) (world : World) :
    ∃ body after, r.attempt url r.settings.fetchRetries 0 "" world = (.ok body, after) ∧
      after.store = world.store ∧ Document.parse body = .ok (docs url) := by
  rcases Nat.exists_eq_succ_of_ne_zero (Nat.ne_of_gt hattempts) with ⟨more, hmore⟩
  rcases hdelivers (world.connect r.settings.fetchTimeout).requests.length url with
    ⟨body, hanswer, hbody⟩
  refine ⟨body, (world.connect r.settings.fetchTimeout).logRequest url, ?_, ?_, hbody⟩
  · simp [hmore, attempt, request, hanswer, judge]
  · exact World.store_connect r.settings.fetchTimeout world

/-- From a server that delivers comes the document of the address, and no file is touched. -/
theorem fromServer_of_delivers (hdelivers : r.Delivers docs)
    (hattempts : 0 < r.settings.fetchRetries) (call : Call) (world : World) :
    ∃ after, r.fromServer call.space call.version world = (.ok (docs (r.address call)), after) ∧
      after.store = world.store := by
  rcases attempt_of_delivers hdelivers hattempts (r.address call) world with
    ⟨body, after, hattempt, hstore, hbody⟩
  refine ⟨after, ?_, hstore⟩
  rw [address] at hattempt hbody
  rw [fromServer, hattempt]
  simp only [hbody, address, Except.mapError]

/-! ## The file of a call -/

/-- The path of the file of a call. -/
def path (r : Retriever) (call : Call) : FilePath :=
  r.localPath call.space call.version

/-- The text that stands in the cache for a document. -/
def cacheText (r : Retriever) (document : Document) : String :=
  document.render r.cacheLayout

/-- A document is read back from the text that stands in the cache for it. -/
def ReadsAs (r : Retriever) (document found : Document) : Prop :=
  Document.parse (String.ofList (Text.unifyLineEnds (r.cacheText document).toList)) = .ok found

/-- A document that can be written to the cache. -/
structure Storable (r : Retriever) (document : Document) : Prop where
  writable : document.obstacle? = none
  encodable : Surrogate.fault? (r.cacheText document) = none

theorem cache_of_takes {path : FilePath} (htakes : world.store.Takes path)
    (hstorable : r.Storable document) :
    ∃ after, r.cache path document world = (.ok document, after) ∧
      world.store.GainsFile path (r.cacheText document) after.store := by
  rcases FileStore.writeText_of_takes htakes hstorable.encodable with
    ⟨made, written, hmake, hwrite, hentries⟩
  refine ⟨{ world with store := written }, ?_, hentries⟩
  rw [cacheText] at hwrite
  simp only [cache, hmake, Document.write, hstorable.writable, hwrite]

theorem cache_eq_ok {path : FilePath} (h : (r.cache path document world).1 = .ok found) :
    world.store.Takes path ∧ r.Storable document := by
  rw [cache] at h
  split at h
  · cases h
  next made hmake =>
    split at h
    · cases h
    next text htext =>
      rw [Document.write] at htext
      split at htext
      · cases htext
      next hwritable =>
        cases htext
        split at h
        · cases h
        next written hwrite =>
          rcases FileStore.takes_of_writeText hmake hwrite with ⟨htakes, hfault⟩
          exact ⟨htakes, hwritable, hfault⟩

/-! ## Outcomes -/

/-- A call finds a text at the end of its route. -/
structure Hit (r : Retriever) (store : FileStore) (call : Call) (text : String) : Prop where
  route : ∀ passed ∈ (r.path call).route, store.entry? passed = some .directory
  file : store.entry? (r.path call).place = some (.file (.text text))

/-- The outcome of a call without a connection to the server is that of its file. -/
theorem document_of_hit {text : String} (hlocal : r.config.storage.runLocal = true)
    (hfits : (r.path call).Fits) (hhit : r.Hit world.store call text) :
    r.document call.space call.version world =
      ((Document.parse (String.ofList (Text.unifyLineEnds text.toList))).mapError .unparsed,
        world) := by
  have hexists : world.store.pathExists (r.path call) = .ok true :=
    FileStore.pathExists_eq_true_iff.2 ⟨hfits, hhit.route, by rw [hhit.file]; rfl⟩
  have hread := FileStore.readText_of_file hfits hhit.route hhit.file
  rw [path] at hexists hread
  simp only [document, hlocal, Bool.not_true, Bool.false_eq_true, if_false, hexists, fromCache,
    hread]

/-- A call that finds the text of a document gets what the text is read back as. -/
theorem document_of_source (hlocal : r.config.storage.runLocal = true)
    (hfits : (r.path call).Fits) (hhit : r.Hit world.store call (r.cacheText document)) :
    (r.document call.space call.version world).1 = .ok found ↔ r.ReadsAs document found := by
  rw [document_of_hit hlocal hfits hhit, ReadsAs]
  cases Document.parse (String.ofList (Text.unifyLineEnds (r.cacheText document).toList)) <;>
    simp [Except.mapError]

/-- Where a directory stands in the place of the file, there is no document. -/
theorem document_of_directory (hlocal : r.config.storage.runLocal = true)
    (hfits : (r.path call).Fits)
    (hroute : ∀ passed ∈ (r.path call).route, world.store.entry? passed = some .directory)
    (hplace : world.store.entry? (r.path call).place = some .directory) :
    (r.document call.space call.version world).1 ≠ .ok found := by
  have hexists : world.store.pathExists (r.path call) = .ok true :=
    FileStore.pathExists_eq_true_iff.2 ⟨hfits, hroute, by rw [hplace]; rfl⟩
  have hread := FileStore.readText_of_directory hfits hroute hplace
  rw [path] at hexists hread
  simp only [document, hlocal, Bool.not_true, Bool.false_eq_true, if_false, hexists, fromCache,
    hread]
  simp

/-- A call that finds no entry caches what the server delivers. -/
theorem document_of_miss (hlocal : r.config.storage.runLocal = true) (hdelivers : r.Delivers docs)
    (hattempts : 0 < r.settings.fetchRetries)
    (hmiss : world.store.pathExists (r.path call) = .ok false) :
    ∃ after, after.store = world.store ∧ r.document call.space call.version world =
      r.cache (r.path call) (docs (r.address call)) after := by
  rcases fromServer_of_delivers hdelivers hattempts call world with ⟨after, hserver, hstore⟩
  refine ⟨after, hstore, ?_⟩
  rw [path] at hmiss ⊢
  simp only [document, hlocal, Bool.not_true, Bool.false_eq_true, if_false, hmiss, hserver]

/-- A document comes only for a path that fits. -/
theorem fits_of_document (hlocal : r.config.storage.runLocal = true)
    (h : (r.document call.space call.version world).1 = .ok found) : (r.path call).Fits := by
  simp only [document, hlocal, Bool.not_true, Bool.false_eq_true, if_false] at h
  split at h
  · cases h
  next hexists => exact (FileStore.pathExists_eq_true_iff.1 hexists).1
  · split at h
    · exact (cache_eq_ok h).1.fits
    · cases h

end Retriever
end Typings
