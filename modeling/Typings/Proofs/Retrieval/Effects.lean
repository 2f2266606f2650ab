import Typings.Proofs.Retrieval.Caching

/-!
# What a call leaves behind

A call for a document asks the server only when its file is missing, and makes no file but that one,
and only with a document that it got.

* `Retriever.fromServer_withStore`: requests take no part in the files;
* `Retriever.lt_requests_fromServer`: at least one request is sent for a document;
* `Retriever.cache_of_not_takes`: a document without a place or a text leaves every file as it is;
* `Retriever.cache_of_fault`: one whose text has no UTF-8 form leaves an empty file;
* `Retriever.sameFilesApart_document`: a call leaves every file but its own as it is;
* `Retriever.document_effects`: every way in which a call can end, with what it leaves behind.
-/

namespace Typings

/-! ## Requests beside files -/

theorem World.connect_withStore (timeout : Binary64) (world : World) (store : FileStore) :
    connect timeout { world with store } = { connect timeout world with store } := by
  cases hconnection : world.connection <;> simp [connect, hconnection]

namespace Retriever

variable {r : Retriever} {world : World} {path : FilePath} {document : Document}
  {space version url cause : String} {store : FileStore}

theorem request_withStore (r : Retriever) (url : String) (world : World) (store : FileStore) :
    r.request url { world with store } =
      ((r.request url world).1, { (r.request url world).2 with store }) := by
  simp only [request, World.connect_withStore]
  rfl

theorem rest?_withStore (r : Retriever) (remaining attempt : Nat) (world : World)
    (store : FileStore) :
    r.rest? remaining attempt { world with store } =
      (r.rest? remaining attempt world).map fun next => { next with store } := by
  simp only [rest?]
  split
  · rfl
  · split <;> rfl

/-- A pause adds nothing to the record but itself. -/
theorem rest?_eq_some {remaining attempt : Nat} {next : World}
    (h : r.rest? remaining attempt world = some next) :
    ∃ pauses, next = { world with pauses } := by
  rw [rest?] at h
  split at h
  · cases h
    exact ⟨world.pauses, rfl⟩
  · split at h
    · cases h
      exact ⟨_, rfl⟩
    · cases h

/-- Attempts neither read nor change files. -/
theorem attempt_withStore (r : Retriever) (url : String) (remaining attempt : Nat) (cause : String)
    (world : World) (store : FileStore) :
    r.attempt url remaining attempt cause { world with store } =
      ((r.attempt url remaining attempt cause world).1,
        { (r.attempt url remaining attempt cause world).2 with store }) := by
  induction remaining generalizing attempt cause world with
  | zero => rfl
  | succ remaining ih =>
      rw [Retriever.attempt, Retriever.attempt, request_withStore]
      dsimp only
      split
      · rfl
      · rfl
      next cause _ =>
        -- the notes about a failure are made beside the files
        have hrest := rest?_withStore r remaining attempt
          ((r.request url world).2.warn (.failedRequest url cause)) store
        have hwarn : { (r.request url world).2 with store }.warn (.failedRequest url cause) =
            { (r.request url world).2.warn (.failedRequest url cause) with store } := rfl
        rw [hwarn, hrest]
        cases r.rest? remaining attempt
          ((r.request url world).2.warn (.failedRequest url cause)) with
        | none => rfl
        | some next => exact ih (attempt + 1) cause next

/-- What the server delivers does not depend on the files, and they stay as they are. -/
theorem fromServer_withStore (r : Retriever) (space version : String) (world : World)
    (store : FileStore) :
    r.fromServer space version { world with store } =
      ((r.fromServer space version world).1,
        { (r.fromServer space version world).2 with store }) := by
  rw [fromServer, fromServer, attempt_withStore]
  rcases r.attempt (r.remoteUrl space version) r.settings.fetchRetries 0 "" world with
    ⟨error | body, after⟩
  · rfl
  · rfl

theorem store_fromServer (r : Retriever) (space version : String) (world : World) :
    (r.fromServer space version world).2.store = world.store := by
  have hsame := fromServer_withStore r space version world world.store
  have hworld := congrArg (fun outcome => outcome.2.store) hsame
  exact hworld

/-- Requests are only ever added to the record, one at least when there is an attempt. -/
theorem length_requests_attempt (r : Retriever) (url : String) (remaining attempt : Nat)
    (cause : String) (world : World) :
    world.requests.length + min remaining 1 ≤
      (r.attempt url remaining attempt cause world).2.requests.length := by
  induction remaining generalizing attempt cause world with
  | zero => simp [Retriever.attempt]
  | succ remaining ih =>
      have hrequest : (r.request url world).2.requests.length = world.requests.length + 1 := by
        simp [request, World.logRequest, World.requests_connect]
      have hfirst : world.requests.length + min (remaining + 1) 1 ≤
          (r.request url world).2.requests.length := by
        omega
      rw [Retriever.attempt]
      dsimp only
      split
      · exact hfirst
      · exact hfirst
      next cause _ =>
        split
        next next hrest =>
          have hsame : next.requests = (r.request url world).2.requests := by
            obtain ⟨pauses, rfl⟩ := rest?_eq_some hrest
            rfl
          have hmore := ih (attempt + 1) cause next
          rw [hsame] at hmore
          omega
        · exact hfirst

theorem lt_requests_fromServer (hattempts : 0 < r.settings.fetchRetries) (space version : String)
    (world : World) :
    world.requests.length < (r.fromServer space version world).2.requests.length := by
  have hmore := length_requests_attempt r (r.remoteUrl space version) r.settings.fetchRetries 0 ""
    world
  have hone : min r.settings.fetchRetries 1 = 1 := Nat.min_eq_right hattempts
  rw [hone] at hmore
  rw [fromServer]
  split
  next hattempt =>
    rw [hattempt] at hmore
    exact hmore
  next hattempt =>
    rw [hattempt] at hmore
    exact hmore

/-! ## Keeping documents -/

/-- Keeping a document changes nothing but files. -/
theorem world_cache (r : Retriever) (path : FilePath) (document : Document) (world : World) :
    (r.cache path document world).2 =
      { world with store := (r.cache path document world).2.store } := by
  rw [cache]
  split
  · rfl
  · split
    · rfl
    · split <;> rfl

/-- A document that has no file, or no text, leaves every file as it is. -/
theorem cache_of_not_takes (h : ¬ (world.store.Takes path ∧ document.obstacle? = none)) :
    ∃ error store, r.cache path document world = (.error error, { world with store }) ∧
      world.store.SameFiles store := by
  have hsame := FileStore.sameFiles_makeDirectories world.store path.parent
  rw [cache]
  split
  next failure made hmake =>
    rw [hmake] at hsame
    exact ⟨.file failure, made, rfl, hsame⟩
  next made hmake =>
    rw [hmake] at hsame
    split
    next obstacle _ => exact ⟨.unwritten obstacle, made, rfl, hsame⟩
    next text htext =>
      rw [Document.write] at htext
      split at htext
      · cases htext
      next hwritable =>
        cases htext
        split
        next failure after hwrite =>
          rcases FileStore.writeText_eq_error hwrite with rfl | ⟨hfits, hplace⟩
          · exact ⟨.file failure, after, rfl, hsame⟩
          · exact absurd ⟨FileStore.takes_of_makeDirectories hfits hmake hplace, hwritable⟩ h
        next after hwrite =>
          exact absurd ⟨(FileStore.takes_of_writeText hmake hwrite).1, hwritable⟩ h

/-- A document whose text has no UTF-8 form leaves an empty file. -/
theorem cache_of_fault {fault : Surrogate.Fault} (htakes : world.store.Takes path)
    (hwritable : document.obstacle? = none)
    (hfault : Surrogate.fault? (r.cacheText document) = some fault) :
    ∃ store,
      r.cache path document world =
        (.error (.file (.unencodable fault)), { world with store }) ∧
      world.store.GainsFile path "" store := by
  obtain ⟨made, written, hmake, hwrite, hgains⟩ := FileStore.writeText_of_fault htakes hfault
  rw [cacheText] at hwrite
  refine ⟨written, ?_, hgains⟩
  simp only [cache, hmake, Document.write, hwritable, hwrite]

/-! ## Calls -/

theorem document_of_uncached (hlocal : r.config.storage.runLocal = false) (world : World) :
    r.document space version world = r.fromServer space version world := by
  simp [Retriever.document, hlocal]

theorem document_of_failure {error : RetrievalError} {after : World}
    (hlocal : r.config.storage.runLocal = true)
    (hmissing : world.store.pathExists (r.localPath space version) = .ok false)
    (hasked : r.fromServer space version world = (.error error, after)) :
    r.document space version world = (.error error, after) := by
  simp [Retriever.document, hlocal, hmissing, hasked]

theorem document_of_delivery {after : World} (hlocal : r.config.storage.runLocal = true)
    (hmissing : world.store.pathExists (r.localPath space version) = .ok false)
    (hasked : r.fromServer space version world = (.ok document, after)) :
    r.document space version world = r.cache (r.localPath space version) document after := by
  simp [Retriever.document, hlocal, hmissing, hasked]

theorem document_of_present (hlocal : r.config.storage.runLocal = true)
    (hpresent : world.store.pathExists (r.localPath space version) = .ok true) :
    r.document space version world = ((fromCache (r.localPath space version) world).1, world) := by
  simp only [Retriever.document, hlocal, Bool.not_true, Bool.false_eq_true, if_false, hpresent,
    fromCache]
  split <;> rfl

theorem document_of_unclear {error : FileError} (hlocal : r.config.storage.runLocal = true)
    (hunclear : world.store.pathExists (r.localPath space version) = .error error) :
    r.document space version world = (.error (.file (.refused error)), world) := by
  simp only [Retriever.document, hlocal, Bool.not_true, Bool.false_eq_true, if_false, hunclear]

theorem sameFilesApart_cache (r : Retriever) (path : FilePath) (document : Document)
    (world : World) :
    world.store.SameFilesApart [path.place] (r.cache path document world).2.store := by
  have hmade := (FileStore.sameFiles_makeDirectories world.store path.parent).apart [path.place]
  rw [cache]
  split
  next hmake =>
    rw [hmake] at hmade
    exact hmade
  next made hmake =>
    rw [hmake] at hmade
    split
    · exact hmade
    next text _ =>
      have hwritten := hmade.trans (FileStore.sameFilesApart_writeText made path text)
      split
      next hwrite =>
        rw [hwrite] at hwritten
        exact hwritten
      next hwrite =>
        rw [hwrite] at hwritten
        exact hwritten

/-- A call leaves every file but its own as it is. -/
theorem sameFilesApart_document (r : Retriever) (space version : String) (world : World) :
    world.store.SameFilesApart [(r.localPath space version).place]
      (r.document space version world).2.store := by
  have hfetched := store_fromServer r space version world
  have hsame := (FileStore.SameFiles.refl world.store).apart [(r.localPath space version).place]
  cases hlocal : r.config.storage.runLocal with
  | false =>
      rw [document_of_uncached hlocal, hfetched]
      exact hsame
  | true =>
      rcases hexists : world.store.pathExists (r.localPath space version) with error | _ | _
      · rw [document_of_unclear hlocal hexists]
        exact hsame
      · -- the file is missing, so only a document that was fetched is written
        rcases hasked : r.fromServer space version world with ⟨error | document, after⟩
        · rw [document_of_failure hlocal hexists hasked]
          rw [hasked] at hfetched
          rw [hfetched]
          exact hsame
        · rw [document_of_delivery hlocal hexists hasked]
          rw [hasked] at hfetched
          rw [← hfetched]
          exact sameFilesApart_cache r _ document after
      · rw [document_of_present hlocal hexists]
        exact hsame

/-- A missing file is asked for again, whatever happened in between. -/
theorem lt_requests_of_missing (hlocal : r.config.storage.runLocal = true)
    (hattempts : 0 < r.settings.fetchRetries)
    (hmissing : world.store.pathExists (r.localPath space version) = .ok false) :
    world.requests.length < (r.document space version world).2.requests.length := by
  have hmore := lt_requests_fromServer hattempts space version world
  rcases hasked : r.fromServer space version world with ⟨error | document, after⟩
  · rw [hasked] at hmore
    rw [document_of_failure hlocal hmissing hasked]
    exact hmore
  · rw [hasked] at hmore
    rw [document_of_delivery hlocal hmissing hasked, world_cache]
    exact hmore

/-- An empty file holds no document. -/
theorem parse_empty : ∃ error,
    Document.parse (String.ofList (Text.unifyLineEnds "".toList)) = .error error := by
  have hnone : (Document.parse (String.ofList (Text.unifyLineEnds "".toList))).toOption = none := by
    decide +kernel
  have herror : ∀ result : Except Document.ParseError Document, result.toOption = none →
      ∃ error, result = .error error := by
    rintro (error | found) hresult
    · exact ⟨error, rfl⟩
    · cases hresult
  exact herror _ hnone

/-- A call that finds an empty file ends with an error, and nothing else happens. -/
theorem document_of_empty {store : FileStore} (hlocal : r.config.storage.runLocal = true)
    (htakes : store.Takes (r.localPath space version))
    (hgains : store.GainsFile (r.localPath space version) "" world.store) :
    ∃ error, r.document space version world = (.error error, world) := by
  have hroute : ∀ passed ∈ (r.localPath space version).route,
      world.store.entry? passed = some .directory := by
    intro passed hpassed
    have hne : passed ≠ (r.localPath space version).place :=
      ne_of_mem_of_not_mem hpassed htakes.apart
    rw [hgains passed, if_neg hne, if_pos hpassed]
  have hfile : world.store.entry? (r.localPath space version).place = some (.file (.text "")) := by
    rw [hgains (r.localPath space version).place, if_pos rfl]
  have hhit : r.Hit world.store ⟨space, version⟩ "" := ⟨hroute, hfile⟩
  have hfits : (r.path ⟨space, version⟩).Fits := htakes.fits
  have hcall := document_of_hit hlocal hfits hhit
  obtain ⟨error, herror⟩ := parse_empty
  rw [herror] at hcall
  exact ⟨.unparsed error, hcall⟩

/-- Every way in which a call can end. Without the cache no file is read or changed. With it, a file
that is there is read and nothing else happens. A missing one is asked for: without a document every
file stays and a later call asks again. With one, its file is made and the document returned, unless
the path cannot be used for a file or the document has no text, and then every file stays as well. A
document whose text has no UTF-8 form leaves an empty file behind; the call fails, and so does every
later one, without a request. -/
theorem document_effects (r : Retriever) (space version : String) (world : World)
    (hattempts : 0 < r.settings.fetchRetries) :
    let path := r.localPath space version
    let call := r.document space version world
    let asked := r.fromServer space version world
    (r.config.storage.runLocal = false → ∀ store,
      r.document space version { world with store } = (call.1, { call.2 with store })) ∧
    (r.config.storage.runLocal = true →
      (∀ error, world.store.pathExists path = .error error →
        call = (.error (.file (.refused error)), world)) ∧
      (world.store.pathExists path = .ok true → call = ((fromCache path world).1, world)) ∧
      (world.store.pathExists path = .ok false →
        (∀ error, asked.1 = .error error →
          call = asked ∧ call.2.store = world.store ∧
          ∀ later : World, later.store = call.2.store →
            later.requests.length < (r.document space version later).2.requests.length) ∧
        ∀ document, asked.1 = .ok document →
          (world.store.Takes path → r.Storable document → ∃ store,
            call = (.ok document, { asked.2 with store }) ∧
            world.store.GainsFile path (r.cacheText document) store) ∧
          (¬ (world.store.Takes path ∧ document.obstacle? = none) → ∃ error store,
            call = (.error error, { asked.2 with store }) ∧ world.store.SameFiles store) ∧
          ∀ fault, world.store.Takes path → document.obstacle? = none →
            Surrogate.fault? (r.cacheText document) = some fault → ∃ store,
              call = (.error (.file (.unencodable fault)), { asked.2 with store }) ∧
              world.store.GainsFile path "" store ∧
              ∀ later : World, later.store = store →
                ∃ error, r.document space version later = (.error error, later))) := by
  intro path call asked
  refine ⟨?_, ?_⟩
  · -- without the cache a call is a request
    intro hoff store
    have hcall : call = asked := document_of_uncached hoff world
    rw [document_of_uncached hoff, hcall]
    exact fromServer_withStore r space version world store
  · intro hlocal
    refine ⟨?_, ?_, ?_⟩
    · intro error hunclear
      exact document_of_unclear hlocal hunclear
    · intro hpresent
      exact document_of_present hlocal hpresent
    · -- a missing file: what is left behind depends on what the server sent
      intro hmissing
      have hstore : asked.2.store = world.store := store_fromServer r space version world
      refine ⟨?_, ?_⟩
      · intro error herror
        have hcall : call = asked := by
          have hasked : r.fromServer space version world = (.error error, asked.2) :=
            Prod.ext herror rfl
          exact (document_of_failure hlocal hmissing hasked).trans hasked.symm
        rw [hcall]
        refine ⟨rfl, hstore, ?_⟩
        -- the file is still missing, so the next call sends a request
        intro later hlater
        have hagain : later.store.pathExists path = .ok false := by
          rw [hlater, hstore]
          exact hmissing
        exact lt_requests_of_missing hlocal hattempts hagain
      · intro document hdocument
        have hcall : call = r.cache path document asked.2 := by
          have hasked : r.fromServer space version world = (.ok document, asked.2) :=
            Prod.ext hdocument rfl
          exact document_of_delivery hlocal hmissing hasked
        rw [hcall, ← hstore]
        refine ⟨?_, ?_, ?_⟩
        · intro htakes hstorable
          obtain ⟨kept, hkept, hentries⟩ := cache_of_takes htakes hstorable
          have hworld := world_cache r path document asked.2
          rw [hkept] at hworld
          exact ⟨kept.store, by rw [hkept, ← hworld], hentries⟩
        · intro hnot
          exact cache_of_not_takes hnot
        · intro fault htakes hwritable hfault
          obtain ⟨store, hcache, hgains⟩ := cache_of_fault htakes hwritable hfault
          refine ⟨store, hcache, hgains, ?_⟩
          -- the empty file is what a later call finds
          rintro later rfl
          exact document_of_empty hlocal htakes hgains

/-! ## A cache with a good and with a bad document -/

/-- A document without symbols. -/
def blank (library : String) : Document where
  library := library
  version := ""
  symbols := []

/-- The cache is on, and the server has one document after the other. -/
def caching (bodies : List String) : Retriever where
  config := { storage := { runLocal := true } }
  settings := {}
  server := .scripted (bodies.map (.response 200))

/-- The text of a document whose library is a surrogate without a partner. -/
def surrogateBody : String := "\x7b\"library\": \"\\ud800\", \"symbols\": []\x7d"

/-- The text of a document without a library. -/
def blankBody : String := "\x7b\"symbols\": []\x7d"

/-- Where the cache is empty, the document is returned and kept in its file. One that holds a
surrogate leaves an empty file. -/
theorem document_effects_caching :
    (∃ store, (caching [blankBody]).document "sap/m" "1" {} =
        (.ok (blank ""), { ((caching [blankBody]).fromServer "sap/m" "1" {}).2 with store }) ∧
      FileStore.GainsFile {} ((caching [blankBody]).localPath "sap/m" "1")
        ((caching [blankBody]).cacheText (blank "")) store) ∧
    ∃ store, (caching [surrogateBody]).document "sap/m" "1" {} =
        (.error (.file (.unencodable ⟨18, 0xD800, 1⟩)),
          { ((caching [surrogateBody]).fromServer "sap/m" "1" {}).2 with store }) ∧
      FileStore.GainsFile {} ((caching [surrogateBody]).localPath "sap/m" "1") "" store := by
  have hmissing : ∀ bodies, FileStore.pathExists {} ((caching bodies).localPath "sap/m" "1") =
      .ok false := by
    intro bodies
    have hnone : FileStore.pathExists {} ((caching []).localPath "sap/m" "1") = .ok false := by
      decide +kernel
    exact hnone
  have hasked : ((caching [blankBody]).fromServer "sap/m" "1" {}).1 = .ok (blank "") := by
    decide +kernel
  have hkept : ((caching [blankBody]).cache ((caching [blankBody]).localPath "sap/m" "1")
      (blank "") {}).1 = .ok (blank "") := by
    decide +kernel
  obtain ⟨htakes, hstorable⟩ := cache_eq_ok hkept
  have hgood := (document_effects (caching [blankBody]) "sap/m" "1" {} (Nat.zero_lt_succ 2)).2 rfl
  have hbad := (document_effects (caching [surrogateBody]) "sap/m" "1" {} (Nat.zero_lt_succ 2)).2 rfl
  have hsurrogate : ((caching [surrogateBody]).fromServer "sap/m" "1" {}).1 =
      .ok (blank (String.singleton (Surrogate.standIn 0xD800))) := by
    decide +kernel
  have hfault : Surrogate.fault? ((caching [surrogateBody]).cacheText
      (blank (String.singleton (Surrogate.standIn 0xD800)))) = some ⟨18, 0xD800, 1⟩ := by
    decide +kernel
  obtain ⟨store, hcall, hempty, -⟩ :=
    ((hbad.2.2 (hmissing _)).2 _ hsurrogate).2.2 _ htakes rfl hfault
  exact ⟨((hgood.2.2 (hmissing _)).2 _ hasked).1 htakes hstorable, store, hcall, hempty⟩

/-- The server has a good document after the bad one, and is not asked for it: the first call left
an empty file, and the second one fails on that file. -/
theorem surrogate_poisons_cache :
    let r := caching [surrogateBody, blankBody]
    let path := r.localPath "sap/m" "1"
    let first := r.document "sap/m" "1" {}
    let second := r.document "sap/m" "1" first.2
    FileStore.pathExists {} path = .ok false ∧
      (r.fromServer "sap/m" "1" {}).1 =
        .ok (blank (String.singleton (Surrogate.standIn 0xD800))) ∧
      first.1 = .error (.file (.unencodable ⟨18, 0xD800, 1⟩)) ∧
      first.2.store.readContents path = .ok (.text "") ∧
      (r.fromServer "sap/m" "1" first.2).1 = .ok (blank "") ∧
      second.1 ≠ .ok (blank "") ∧ second.2 = first.2 := by
  intro r path first second
  refine ⟨?_, ?_, ?_, ?_, ?_, ?_, ?_⟩ <;> decide +kernel

end Retriever
end Typings
