import Typings.Proofs.Retrieval.Caching

/-!
# The calls before a call

Which files the cache holds, and whose documents stand in them, follows from the paths of the calls
before alone.

* `Retriever.owner?`, `Retriever.source?`: the call that made a file, as the calls before tell it;
* `Retriever.Served`: a call that gets the document of its own address;
* `Retriever.Follows`: a store as the calls before left it;
* `Retriever.document_eq_ok_iff`: the calls that are served get their documents, and no others;
* `Retriever.follows_document`: what a call that is served makes of the store.
-/

namespace Typings
namespace Retriever

/-! ## The calls before

They are listed with the latest first, and `initial` is the store before all of them. -/

/-- A place is a directory: at first, or since a call passed it. -/
def Passable (r : Retriever) (initial : FileStore) (earlier : List Call) (place : Place) : Prop :=
  initial.entry? place = some .directory ∨ ∃ call ∈ earlier, place ∈ (r.path call).route

/-- The directories on the way to the file of a call are there. -/
def Reachable (r : Retriever) (initial : FileStore) (earlier : List Call) (call : Call) : Prop :=
  ∀ place ∈ (r.path call).route, r.Passable initial earlier place

instance (r : Retriever) (initial : FileStore) (earlier : List Call) (call : Call) :
    Decidable (r.Reachable initial earlier call) := by
  unfold Reachable Passable
  infer_instance

/-- The call that made the file at a place. A call that finds its file leaves it as it is. -/
def owner? (r : Retriever) (initial : FileStore) : List Call → Place → Option Call
  | [], _ => none
  | call :: earlier, place =>
      let present := r.owner? initial earlier place
      if (r.path call).place = place ∧ ¬ (r.Reachable initial earlier call ∧ present.isSome) then
        some call
      else present

/-- The call whose file a call finds. -/
def source? (r : Retriever) (initial : FileStore) (earlier : List Call) (call : Call) :
    Option Call :=
  if r.Reachable initial earlier call then r.owner? initial earlier (r.path call).place else none

/-- Nothing keeps a call from making its file. -/
structure Unobstructed (r : Retriever) (initial : FileStore) (earlier : List Call) (call : Call) :
    Prop where
  /-- No file stands on the way. -/
  clear : ∀ place ∈ (r.path call).route,
    r.owner? initial earlier place = none ∧ ∀ contents, initial.entry? place ≠ some (.file contents)
  /-- No directory stands in the place of the file. -/
  apart : ¬ r.Passable initial (call :: earlier) (r.path call).place

variable {r : Retriever} {docs : String → Document} {initial : FileStore} {earlier : List Call}
variable {agree : Document → Document → Prop} {call : Call} {calls : List Call} {world : World}

/-- A call gets the document of its address: the document in the file that it finds agrees with it,
or it can make its file. -/
structure Served (r : Retriever) (docs : String → Document) (initial : FileStore)
    (agree : Document → Document → Prop) (earlier : List Call) (call : Call) : Prop where
  fits : (r.path call).Fits
  found : ∀ source, r.source? initial earlier call = some source →
    agree (docs (r.address source)) (docs (r.address call))
  made : r.source? initial earlier call = none →
    r.Storable (docs (r.address call)) ∧ r.Unobstructed initial earlier call

theorem owner?_cons (place : Place) : r.owner? initial (call :: earlier) place =
    if (r.path call).place = place ∧ r.source? initial earlier call = none then some call
    else r.owner? initial earlier place := by
  rw [owner?]
  by_cases hplace : (r.path call).place = place
  · subst hplace
    by_cases hreachable : r.Reachable initial earlier call
    · simp [source?, hreachable]
    · simp [source?, hreachable]
  · simp [hplace]

theorem passable_cons (place : Place) : r.Passable initial (call :: earlier) place ↔
    place ∈ (r.path call).route ∨ r.Passable initial earlier place := by
  simp only [Passable, List.mem_cons, exists_eq_or_imp]
  exact or_left_comm

/-! ## The store that they leave -/

/-- A store as the calls before left it. -/
structure Follows (r : Retriever) (docs : String → Document) (initial : FileStore)
    (earlier : List Call) (store : FileStore) : Prop where
  directory : ∀ place, store.entry? place = some .directory ↔ r.Passable initial earlier place
  file : ∀ place contents, store.entry? place = some (.file contents) ↔
    (∃ call, r.owner? initial earlier place = some call ∧
      contents = .text (r.cacheText (docs (r.address call)))) ∨
    (r.owner? initial earlier place = none ∧ initial.entry? place = some (.file contents))

theorem Follows.start (r : Retriever) (docs : String → Document) (initial : FileStore) :
    r.Follows docs initial [] initial := by
  constructor
  · intro place
    simp [Passable]
  · intro place contents
    simp [owner?]

namespace Follows

variable {store : FileStore}

theorem reachable_iff (h : r.Follows docs initial earlier store) :
    r.Reachable initial earlier call ↔
      ∀ passed ∈ (r.path call).route, store.entry? passed = some .directory := by
  constructor
  · intro hreachable passed hpassed
    exact (h.directory passed).2 (hreachable passed hpassed)
  · intro hroute passed hpassed
    exact (h.directory passed).1 (hroute passed hpassed)

/-- A call with a source finds the text of its document. -/
theorem hit {source : Call} (h : r.Follows docs initial earlier store)
    (hsource : r.source? initial earlier call = some source) :
    r.Hit store call (r.cacheText (docs (r.address source))) := by
  rw [source?] at hsource
  split at hsource
  next hreachable =>
    refine ⟨h.reachable_iff.1 hreachable, ?_⟩
    exact (h.file _ _).2 (Or.inl ⟨source, hsource, rfl⟩)
  · cases hsource

/-- A call without a source finds at most a directory in the place of its file. -/
theorem miss (h : r.Follows docs initial earlier store) (hfits : (r.path call).Fits)
    (hempty : ∀ contents, initial.entry? (r.path call).place ≠ some (.file contents))
    (hsource : r.source? initial earlier call = none) :
    store.pathExists (r.path call) = .ok false ∨
      ((∀ passed ∈ (r.path call).route, store.entry? passed = some .directory) ∧
        store.entry? (r.path call).place = some .directory) := by
  have hsaid : store.pathExists (r.path call) = .ok true ∨
      store.pathExists (r.path call) = .ok false := FileStore.pathExists_of_fits hfits
  rcases hsaid with hexists | hexists
  · rcases FileStore.pathExists_eq_true_iff.1 hexists with ⟨-, hroute, hentry⟩
    refine Or.inr ⟨hroute, ?_⟩
    rw [source?, if_pos (h.reachable_iff.2 hroute)] at hsource
    rcases Option.isSome_iff_exists.1 hentry with ⟨entry | contents, hplace⟩
    · exact hplace
    · rcases (h.file _ _).1 hplace with ⟨other, howner, -⟩ | ⟨-, hinitial⟩
      · rw [hsource] at howner
        cases howner
      · exact absurd hinitial (hempty contents)
  · exact Or.inl hexists

theorem takes_iff (h : r.Follows docs initial earlier store) :
    store.Takes (r.path call) ↔ (r.path call).Fits ∧ r.Unobstructed initial earlier call := by
  have hfile : ∀ place, (∀ contents, store.entry? place ≠ some (.file contents)) ↔
      r.owner? initial earlier place = none ∧
        ∀ contents, initial.entry? place ≠ some (.file contents) := by
    intro place
    simp only [ne_eq, h.file place]
    cases r.owner? initial earlier place <;> simp
  constructor
  · rintro ⟨hfits, hclear, hapart, hfree⟩
    refine ⟨hfits, ⟨fun place hmem => (hfile place).1 (hclear place hmem), ?_⟩⟩
    rw [passable_cons]
    rintro (hroute | hpassable)
    · exact hapart hroute
    · exact hfree ((h.directory _).2 hpassable)
  · rintro ⟨hfits, ⟨hclear, hapart⟩⟩
    rw [passable_cons, not_or] at hapart
    refine ⟨hfits, fun place hmem => (hfile place).2 (hclear place hmem), hapart.1, ?_⟩
    intro hdirectory
    exact hapart.2 ((h.directory _).1 hdirectory)

/-- A call that finds its file leaves the store as it is. -/
theorem found {source : Call} (h : r.Follows docs initial earlier store)
    (hsource : r.source? initial earlier call = some source) :
    r.Follows docs initial (call :: earlier) store := by
  have hroute := (h.hit hsource).route
  constructor
  · intro place
    rw [passable_cons, h.directory]
    constructor
    · exact Or.inr
    · rintro (hpassed | hpassable)
      · exact (h.directory place).1 (hroute place hpassed)
      · exact hpassable
  · intro place contents
    rw [owner?_cons, hsource, if_neg (by simp), h.file]

/-- A call that makes its file makes the directories above it, and changes nothing else. -/
theorem made {after : FileStore} (h : r.Follows docs initial earlier store)
    (hsource : r.source? initial earlier call = none)
    (hunobstructed : r.Unobstructed initial earlier call)
    (hgains : store.GainsFile (r.path call) (r.cacheText (docs (r.address call))) after) :
    r.Follows docs initial (call :: earlier) after := by
  rcases hunobstructed with ⟨hclear, hapart⟩
  constructor
  · intro place
    rw [hgains place]
    by_cases hplace : place = (r.path call).place
    · rw [if_pos hplace, hplace]
      simp only [hapart, iff_false]
      rintro ⟨⟩
    · rw [if_neg hplace, passable_cons]
      by_cases hroute : place ∈ (r.path call).route
      · simp [hroute]
      · simp [hroute, h.directory]
  · intro place contents
    rw [hgains place, owner?_cons]
    -- the file of the call is its own, and no file gives way to a directory
    by_cases hplace : place = (r.path call).place
    · rw [if_pos hplace, if_pos ⟨hplace.symm, hsource⟩]
      simp [eq_comm]
    · have hother : ¬ ((r.path call).place = place ∧ r.source? initial earlier call = none) :=
        fun hsame => hplace hsame.1.symm
      rw [if_neg hplace, if_neg hother]
      by_cases hroute : place ∈ (r.path call).route
      · rcases hclear place hroute with ⟨howner, hinitial⟩
        simp [hroute, howner, hinitial]
      · rw [if_neg hroute, h.file]

end Follows

/-! ## One call -/

section Calls

variable (hlocal : r.config.storage.runLocal = true) (hdelivers : r.Delivers docs)
variable (hattempts : 0 < r.settings.fetchRetries)
include hlocal hdelivers hattempts

/-- A call gets the document of its address when it is served, and no other call does. -/
theorem document_eq_ok_iff (h : r.Follows docs initial earlier world.store)
    (hempty : ∀ contents, initial.entry? (r.path call).place ≠ some (.file contents)) :
    (r.document call.space call.version world).1 = .ok (docs (r.address call)) ↔
      r.Served docs initial r.ReadsAs earlier call := by
  by_cases hfits : (r.path call).Fits
  · cases hsource : r.source? initial earlier call with
    | some source =>
        -- the file is read, whoever made it
        rw [document_of_source hlocal hfits (h.hit hsource)]
        constructor
        · intro hread
          refine ⟨hfits, ?_, by simp [hsource]⟩
          rw [hsource]
          rintro _ ⟨⟩
          exact hread
        · intro hserved
          exact hserved.found source hsource
    | none =>
        rcases h.miss hfits hempty hsource with hmiss | ⟨hroute, hplace⟩
        · -- the server is asked, and its document is right if it can be cached
          rcases document_of_miss hlocal hdelivers hattempts hmiss with ⟨asked, hstore, hcall⟩
          rw [hcall]
          constructor
          · intro hcache
            rcases cache_eq_ok hcache with ⟨htakes, hstorable⟩
            rw [hstore] at htakes
            exact ⟨hfits, by simp [hsource], fun _ => ⟨hstorable, (h.takes_iff.1 htakes).2⟩⟩
          · intro hserved
            rcases hserved.made hsource with ⟨hstorable, hunobstructed⟩
            have htakes := h.takes_iff.2 ⟨hfits, hunobstructed⟩
            rw [← hstore] at htakes
            rcases cache_of_takes htakes hstorable with ⟨after, hcache, -⟩
            rw [hcache]
        · constructor
          · intro hdocument
            exact absurd hdocument (document_of_directory hlocal hfits hroute hplace)
          · intro hserved
            refine absurd ?_ (hserved.made hsource).2.apart
            exact passable_cons _ |>.2 (Or.inr ((h.directory _).1 hplace))
  · constructor
    · intro hdocument
      exact absurd (fits_of_document hlocal hdocument) hfits
    · intro hserved
      exact absurd hserved.fits hfits

/-- After a call that is served the store is as the calls up to it leave it. -/
theorem follows_document (h : r.Follows docs initial earlier world.store)
    (hempty : ∀ contents, initial.entry? (r.path call).place ≠ some (.file contents))
    (hserved : r.Served docs initial agree earlier call) :
    r.Follows docs initial (call :: earlier)
      (r.document call.space call.version world).2.store := by
  have hfits := hserved.fits
  cases hsource : r.source? initial earlier call with
  | some source =>
      rw [document_of_hit hlocal hfits (h.hit hsource)]
      exact h.found hsource
  | none =>
      rcases hserved.made hsource with ⟨hstorable, hunobstructed⟩
      rcases h.miss hfits hempty hsource with hmiss | ⟨-, hplace⟩
      · rcases document_of_miss hlocal hdelivers hattempts hmiss with ⟨asked, hstore, hcall⟩
        have htakes := h.takes_iff.2 ⟨hfits, hunobstructed⟩
        rw [← hstore] at htakes
        rcases cache_of_takes htakes hstorable with ⟨after, hcache, hgains⟩
        rw [hcall, hcache]
        rw [hstore] at hgains
        exact h.made hsource hunobstructed hgains
      · refine absurd ?_ hunobstructed.apart
        exact passable_cons _ |>.2 (Or.inr ((h.directory _).1 hplace))

end Calls
end Retriever
end Typings
