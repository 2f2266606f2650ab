import Mathlib.Data.List.Pairwise
import Typings.Proofs.Document.RoundTrip
import Typings.Proofs.Retrieval.History

/-!
# What the cache hands out

The file of a call is found by its path alone. So a call is given the document of whichever call
made the file, and the cache is transparent exactly when that is the document of its own address
and no path stands in the way of another.

* `Retriever.Transparent`: calls whose outcomes are those without the cache;
* `Retriever.Orderly`: calls that are served one after the other;
* `Retriever.transparent_iff_shared`: where no path stands in the way of another, calls with one
  file have to have one document;
* `Retriever.transparent_iff_orderly`: whatever the paths, the cache is transparent for orderly
  calls and no others;
* `Retriever.releases_hand_out_older`: with the default paths it is not for two releases.
-/

namespace Typings
namespace Retriever

variable {r : Retriever} {docs : String → Document} {initial : FileStore}
variable {earlier calls : List Call} {agree : Document → Document → Prop} {call other : Call}
variable {world : World}

/-- The outcomes of calls, one after the other. -/
def documents (r : Retriever) : List Call → World → List (Except RetrievalError Document)
  | [], _ => []
  | call :: later, world =>
      let (outcome, after) := r.document call.space call.version world
      outcome :: documents r later after

/-- Every call has the outcome that it has without the cache. -/
def Transparent (r : Retriever) (calls : List Call) (world : World) : Prop :=
  r.documents calls world = calls.map fun call => (r.fromServer call.space call.version world).1

/-- Each of the calls is served after those before it. -/
def Orderly (r : Retriever) (docs : String → Document) (initial : FileStore)
    (agree : Document → Document → Prop) : List Call → List Call → Prop
  | _, [] => True
  | earlier, call :: later =>
      r.Served docs initial agree earlier call ∧
        r.Orderly docs initial agree (call :: earlier) later

/-- The cache holds no files for calls at first. -/
def EmptyFor (r : Retriever) (initial : FileStore) (calls : List Call) : Prop :=
  ∀ call ∈ calls, ∀ contents, initial.entry? (r.path call).place ≠ some (.file contents)

/-! ## Sequences of calls -/

section Calls

variable (hlocal : r.config.storage.runLocal = true) (hdelivers : r.Delivers docs)
variable (hattempts : 0 < r.settings.fetchRetries)
include hdelivers hattempts

theorem transparent_iff_documents_eq :
    r.Transparent calls world ↔
      r.documents calls world = calls.map fun call => .ok (docs (r.address call)) := by
  have hserver : ∀ call : Call,
      (r.fromServer call.space call.version world).1 = .ok (docs (r.address call)) := by
    intro call
    rcases fromServer_of_delivers hdelivers hattempts call world with ⟨after, hserver, -⟩
    rw [hserver]
  simp only [Transparent, hserver]

include hlocal

/-- Calls get the documents of their addresses when they are orderly, and in no other case. -/
theorem documents_eq_iff (h : r.Follows docs initial earlier world.store)
    (hempty : r.EmptyFor initial calls) :
    (r.documents calls world = calls.map fun call => .ok (docs (r.address call))) ↔
      r.Orderly docs initial r.ReadsAs earlier calls := by
  induction calls generalizing earlier world with
  | nil => simp [documents, Orderly]
  | cons call later ih =>
      rcases List.forall_mem_cons.1 hempty with ⟨hcall, hlater⟩
      have hfirst := document_eq_ok_iff hlocal hdelivers hattempts h hcall
      simp only [documents, Orderly, List.map_cons, List.cons.injEq, hfirst]
      -- only after a call that is served is the store known
      refine and_congr_right fun hserved => ?_
      exact ih (follows_document hlocal hdelivers hattempts h hcall hserved) hlater

theorem transparent_iff (hempty : r.EmptyFor world.store calls) :
    r.Transparent calls world ↔ r.Orderly docs world.store r.ReadsAs [] calls := by
  rw [transparent_iff_documents_eq hdelivers hattempts]
  exact documents_eq_iff hlocal hdelivers hattempts (Follows.start r docs world.store) hempty

end Calls

/-! ## Documents that are read back as they are -/

/-- The documents in the cache could be written. -/
def AllStorable (r : Retriever) (docs : String → Document) (initial : FileStore)
    (earlier : List Call) : Prop :=
  ∀ place owner, r.owner? initial earlier place = some owner → r.Storable (docs (r.address owner))

theorem AllStorable.start : r.AllStorable docs initial [] := by
  rintro place owner ⟨⟩

theorem AllStorable.cons (h : r.AllStorable docs initial earlier)
    (hserved : r.Served docs initial agree earlier call) :
    r.AllStorable docs initial (call :: earlier) := by
  intro place owner howner
  rw [owner?_cons] at howner
  split at howner
  next hmade =>
    cases howner
    exact (hserved.made hmade.2).1
  · exact h place owner howner

theorem owner?_of_source? {source : Call} (h : r.source? initial earlier call = some source) :
    r.owner? initial earlier (r.path call).place = some source := by
  rw [source?] at h
  split at h
  · exact h
  · cases h

/-- Calls are orderly for one relation as they are for another that is the same on documents that
could be written. -/
theorem orderly_congr {agree' : Document → Document → Prop}
    (hagree : ∀ url own, r.Storable (docs url) → (agree (docs url) own ↔ agree' (docs url) own))
    (hstorable : r.AllStorable docs initial earlier) :
    r.Orderly docs initial agree earlier calls ↔ r.Orderly docs initial agree' earlier calls := by
  induction calls generalizing earlier with
  | nil => rfl
  | cons call later ih =>
      have hfound : ∀ source, r.source? initial earlier call = some source →
          (agree (docs (r.address source)) (docs (r.address call)) ↔
            agree' (docs (r.address source)) (docs (r.address call))) := by
        intro source hsource
        exact hagree _ _ (hstorable _ source (owner?_of_source? hsource))
      have hcall : r.Served docs initial agree earlier call ↔
          r.Served docs initial agree' earlier call := by
        constructor
        · rintro ⟨hfits, hread, hmade⟩
          exact ⟨hfits, fun source h => (hfound source h).1 (hread source h), hmade⟩
        · rintro ⟨hfits, hread, hmade⟩
          exact ⟨hfits, fun source h => (hfound source h).2 (hread source h), hmade⟩
      rw [Orderly, Orderly, hcall]
      refine and_congr_right fun hserved => ?_
      exact ih (hstorable.cons hserved)

/-- A finite document is read back as itself from a blank layout. -/
theorem readsAs_iff_eq {url : String} {own : Document} (hdelivers : r.Delivers docs)
    (hfinite : (docs url).finiteOnly = docs url) (hblank : r.cacheLayout.IsBlank)
    (hstorable : r.Storable (docs url)) : r.ReadsAs (docs url) own ↔ docs url = own := by
  rcases hdelivers 0 url with ⟨body, -, hbody⟩
  have hread := Document.parse_unifyLineEnds_render hbody hstorable.writable hblank
  rw [ReadsAs, cacheText, hread, hfinite, Except.ok.injEq]

theorem transparent_iff_equal (hlocal : r.config.storage.runLocal = true)
    (hattempts : 0 < r.settings.fetchRetries) (hdelivers : r.Delivers docs)
    (hfinite : ∀ url, (docs url).finiteOnly = docs url)
    (hempty : r.EmptyFor world.store calls) (hblank : r.cacheLayout.IsBlank) :
    r.Transparent calls world ↔
      r.Orderly docs world.store (fun stored own => stored = own) [] calls := by
  rw [transparent_iff hlocal hdelivers hattempts hempty]
  refine orderly_congr (fun url own hstorable => ?_) AllStorable.start
  exact readsAs_iff_eq hdelivers (hfinite url) hblank hstorable

/-! ## Paths that stay apart -/

/-- No path of the calls stands in the way of another, and one place is reached by one route. -/
structure Apart (r : Retriever) (initial : FileStore) (calls : List Call) : Prop where
  fits : ∀ call ∈ calls, (r.path call).Fits
  free : ∀ call ∈ calls, initial.entry? (r.path call).place = none
  clear : ∀ call ∈ calls, ∀ place ∈ (r.path call).route,
    (∀ contents, initial.entry? place ≠ some (.file contents)) ∧
      ∀ other ∈ calls, (r.path other).place ≠ place
  straight : ∀ call ∈ calls, ∀ other ∈ calls, (r.path call).place = (r.path other).place →
    (r.path call).route = (r.path other).route

/-- Calls with one file have one document. -/
def Share (r : Retriever) (docs : String → Document) (call other : Call) : Prop :=
  (r.path call).place = (r.path other).place → docs (r.address call) = docs (r.address other)

theorem Share.symm (h : r.Share docs call other) : r.Share docs other call :=
  fun hplace => (h hplace.symm).symm

theorem owner?_eq_some {place : Place} {owner : Call}
    (h : r.owner? initial earlier place = some owner) :
    owner ∈ earlier ∧ (r.path owner).place = place := by
  induction earlier with
  | nil => cases h
  | cons call earlier ih =>
      rw [owner?_cons] at h
      split at h
      next hmade =>
        cases h
        exact ⟨List.mem_cons_self, hmade.1⟩
      · rcases ih h with ⟨hmem, hplace⟩
        exact ⟨List.mem_cons_of_mem call hmem, hplace⟩

/-- Every call before got the document in its file. -/
def Represented (r : Retriever) (docs : String → Document) (initial : FileStore)
    (earlier : List Call) : Prop :=
  ∀ call ∈ earlier, ∃ owner, r.owner? initial earlier (r.path call).place = some owner ∧
    docs (r.address owner) = docs (r.address call)

namespace Apart

variable (h : r.Apart initial calls) (hearlier : earlier ⊆ calls) (hcall : call ∈ calls)
include h hearlier hcall

theorem unobstructed : r.Unobstructed initial earlier call := by
  constructor
  · intro place hroute
    rcases h.clear call hcall place hroute with ⟨hinitial, hothers⟩
    refine ⟨?_, hinitial⟩
    cases howner : r.owner? initial earlier place with
    | none => rfl
    | some owner =>
        rcases owner?_eq_some howner with ⟨hmem, hplace⟩
        exact absurd hplace (hothers owner (hearlier hmem))
  · rintro (hinitial | ⟨other, hother, hroute⟩)
    · rw [h.free call hcall] at hinitial
      cases hinitial
    · have hmem : other ∈ calls := List.cons_subset.2 ⟨hcall, hearlier⟩ hother
      exact (h.clear other hmem _ hroute).2 call hcall rfl

/-- A call whose file an earlier call has too finds that file. -/
theorem source?_of_shared (hother : other ∈ earlier)
    (hplace : (r.path call).place = (r.path other).place) :
    r.source? initial earlier call = r.owner? initial earlier (r.path call).place := by
  have hreachable : r.Reachable initial earlier call := by
    intro place hroute
    rw [h.straight call hcall other (hearlier hother) hplace] at hroute
    exact Or.inr ⟨other, hother, hroute⟩
  rw [source?, if_pos hreachable]

theorem served_iff (hstorable : r.Storable (docs (r.address call)))
    (hrepresented : r.Represented docs initial earlier) :
    r.Served docs initial (fun stored own => stored = own) earlier call ↔
      ∀ other ∈ earlier, r.Share docs call other := by
  constructor
  · intro hserved other hother hplace
    rcases hrepresented other hother with ⟨owner, howner, hsame⟩
    have hsource := h.source?_of_shared hearlier hcall hother hplace
    rw [hplace, howner] at hsource
    exact (hserved.found owner hsource).symm.trans hsame
  · intro hshare
    refine ⟨h.fits call hcall, ?_, fun _ => ⟨hstorable, h.unobstructed hearlier hcall⟩⟩
    intro source hsource
    rcases owner?_eq_some (owner?_of_source? hsource) with ⟨hmem, hplace⟩
    exact (hshare source hmem hplace.symm).symm

theorem represented_cons (hrepresented : r.Represented docs initial earlier)
    (hserved : r.Served docs initial (fun stored own => stored = own) earlier call) :
    r.Represented docs initial (call :: earlier) := by
  intro asked hasked
  rcases List.mem_cons.1 hasked with rfl | hother
  · cases hsource : r.source? initial earlier asked with
    | none =>
        refine ⟨asked, ?_, rfl⟩
        rw [owner?_cons, if_pos ⟨rfl, hsource⟩]
    | some source =>
        refine ⟨source, ?_, hserved.found source hsource⟩
        rw [owner?_cons, hsource, if_neg (by simp)]
        exact owner?_of_source? hsource
  · -- a file that is there is found, so its owner stays
    rcases hrepresented asked hother with ⟨owner, howner, hsame⟩
    refine ⟨owner, ?_, hsame⟩
    rw [owner?_cons, if_neg, howner]
    rintro ⟨hplace, hnone⟩
    rw [h.source?_of_shared hearlier hcall hother hplace, hplace, howner] at hnone
    cases hnone

end Apart

theorem Apart.orderly_iff {later : List Call} (h : r.Apart initial calls)
    (hstorable : ∀ call ∈ calls, r.Storable (docs (r.address call)))
    (hearlier : earlier ⊆ calls) (hlater : later ⊆ calls)
    (hrepresented : r.Represented docs initial earlier) :
    r.Orderly docs initial (fun stored own => stored = own) earlier later ↔
      (∀ call ∈ later, ∀ other ∈ earlier, r.Share docs call other) ∧
        later.Pairwise (r.Share docs) := by
  induction later generalizing earlier with
  | nil => simp [Orderly]
  | cons call later ih =>
      rcases List.cons_subset.1 hlater with ⟨hcall, hrest⟩
      have hserved := h.served_iff hearlier hcall (hstorable call hcall) hrepresented
      rw [Orderly, List.forall_mem_cons, List.pairwise_cons, and_assoc, ← hserved]
      refine and_congr_right fun hfirst => ?_
      have hnext := h.represented_cons hearlier hcall hrepresented hfirst
      rw [ih (List.cons_subset.2 ⟨hcall, hearlier⟩) hrest hnext]
      simp only [List.forall_mem_cons]
      constructor
      · rintro ⟨hshare, hpairs⟩
        exact ⟨fun asked hmem => (hshare asked hmem).2,
          fun asked hmem => (hshare asked hmem).1.symm, hpairs⟩
      · rintro ⟨hbefore, hwith, hpairs⟩
        exact ⟨fun asked hmem => ⟨(hwith asked hmem).symm, hbefore asked hmem⟩, hpairs⟩

/-- Where no path stands in the way of another, the cache is transparent when calls with one file
have one document, and in no other case. -/
theorem transparent_iff_shared (hlocal : r.config.storage.runLocal = true)
    (hattempts : 0 < r.settings.fetchRetries) (hdelivers : r.Delivers docs)
    (hfinite : ∀ url, (docs url).finiteOnly = docs url) (hblank : r.cacheLayout.IsBlank)
    (hstorable : ∀ call ∈ calls, r.Storable (docs (r.address call)))
    (hapart : r.Apart world.store calls) :
    r.Transparent calls world ↔ ∀ call ∈ calls, ∀ other ∈ calls, r.Share docs call other := by
  have hempty : r.EmptyFor world.store calls := by
    intro call hcall contents
    rw [hapart.free call hcall]
    simp
  have horderly := hapart.orderly_iff hstorable (List.nil_subset calls) (List.Subset.refl calls)
    (fun _ hnone => absurd hnone List.not_mem_nil)
  rw [transparent_iff_equal hlocal hattempts hdelivers hfinite hempty hblank, horderly]
  have hsymm : Std.Symm (r.Share docs) := ⟨fun _ _ => Share.symm⟩
  constructor
  · rintro ⟨-, hpairs⟩ call hcall other hother
    exact hpairs.forall_of_forall (fun _ _ _ => rfl) hcall hother
  · intro hshare
    exact ⟨by simp, List.pairwise_of_forall_mem_list hshare⟩

/-! ## The exact condition -/

/-- The cache is transparent for orderly calls and for no others. In a blank layout calls are
orderly when the document in a file that is found is the document of the address. -/
theorem transparent_iff_orderly (hlocal : r.config.storage.runLocal = true)
    (hattempts : 0 < r.settings.fetchRetries) (hdelivers : r.Delivers docs)
    (hfinite : ∀ url, (docs url).finiteOnly = docs url)
    (hempty : r.EmptyFor world.store calls) :
    (r.Transparent calls world ↔ r.Orderly docs world.store r.ReadsAs [] calls) ∧
      (r.cacheLayout.IsBlank →
        (r.Transparent calls world ↔
          r.Orderly docs world.store (fun stored own => stored = own) [] calls)) := by
  refine ⟨transparent_iff hlocal hdelivers hattempts hempty, ?_⟩
  exact transparent_iff_equal hlocal hattempts hdelivers hfinite hempty

/-! ## Releases in one file -/

/-- The document of a release. -/
def release (version : String) : Document where
  library := "sap.m"
  version := version
  symbols := []

/-- The text that a server gives for a release. -/
def releaseText (version : String) : String :=
  "\x7b\"library\": \"sap.m\", \"version\": \"" ++ version ++ "\", \"symbols\": []\x7d"

/-- The documents by address: the newer release at its own, the older one elsewhere. -/
def releaseAt (url : String) : Document :=
  release (if url = "https://openui5.hana.ondemand.com/2/test-resources/sap/m/designtime/api.json"
    then "2" else "1")

/-- The default configuration with the cache on, and a server with two releases. -/
def releases : Retriever where
  config := { storage := { runLocal := true } }
  settings := {}
  server := fun _ url => .response 200 (releaseText (releaseAt url).version)

theorem delivers_releases : releases.Delivers releaseAt := by
  intro number url
  refine ⟨_, rfl, ?_⟩
  rw [releaseAt]
  split
  · decide +kernel
  · decide +kernel

/-- Both releases, one after the other. -/
def bothReleases : List Call :=
  [⟨"sap/m", "1"⟩, ⟨"sap/m", "2"⟩]

theorem finite_releases (url : String) : (releaseAt url).finiteOnly = releaseAt url := by
  rw [releaseAt, release, Document.finiteOnly, List.map_nil]

theorem emptyFor_start (r : Retriever) (calls : List Call) : r.EmptyFor {} calls := by
  intro call _ contents
  unfold FileStore.entry?
  split
  · simp
  · simp

/-- Whether the calls for both releases are orderly decides whether they get their documents. -/
theorem transparent_iff_orderly_releases :
    releases.cacheLayout.IsBlank ∧
      (releases.Transparent bothReleases {} ↔
        releases.Orderly releaseAt {} (fun stored own => stored = own) [] bothReleases) := by
  have hblank : releases.cacheLayout.IsBlank := by
    have hunit : releases.cacheLayout = .block [' ', ' ', ' ', ' '] := rfl
    rw [hunit]
    simp [Json.Layout.IsBlank, Json.Gap, Json.isGap]
  refine ⟨hblank, (transparent_iff_orderly rfl ?_ delivers_releases finite_releases ?_).2 hblank⟩
  · exact Nat.zero_lt_succ 2
  · exact emptyFor_start releases bothReleases

/-- The older release is handed out for the newer one, which the server has. -/
theorem releases_hand_out_older :
    releases.documents bothReleases {} = [.ok (release "1"), .ok (release "1")] ∧
      (releases.fromServer "sap/m" "2" {}).1 = .ok (release "2") ∧
      ¬ releases.Transparent bothReleases {} := by
  have hdocuments : releases.documents bothReleases {} =
      [.ok (release "1"), .ok (release "1")] := by
    decide +kernel
  have hserver : (releases.fromServer "sap/m" "2" {}).1 = .ok (release "2") := by
    decide +kernel
  refine ⟨hdocuments, hserver, ?_⟩
  intro htransparent
  rw [Transparent, hdocuments] at htransparent
  simp [bothReleases, hserver, release] at htransparent

end Retriever
end Typings
