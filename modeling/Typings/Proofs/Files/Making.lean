import Typings.Proofs.Files.Route

/-!
# Making directories and files

Directories are made along the route of a path when no file stands in the way. A file is made or
overwritten at a place that is no directory. Nothing else in a store changes.

* `FileStore.entry?_put`: the entries after one is put;
* `FileStore.makeDirectories_of_clear`, `FileStore.makeDirectories_eq_ok`: directories are made
  along the routes without files and no others;
* `FileStore.SameFiles`, `FileStore.sameFiles_makeDirectories`: making directories, also in vain,
  leaves every file as it is;
* `FileStore.SameFilesApart`, `FileStore.sameFilesApart_writeText`: writing, also in vain, leaves the
  files at other places as they are;
* `FileStore.KeepsKinds`: directories stay directories, and files files;
* `FileStore.Takes`: a path at which a file can be made with the directories above it;
* `FileStore.GainsFile`: what a store gains when a text is written;
* `FileStore.writeText_of_takes`, `FileStore.takes_of_writeText`: a text is written at such a path
  and at no other.
-/

namespace Typings
namespace FileStore

variable {store made : FileStore} {path : FilePath} {place : Place} {entry : FileEntry}

/-! ## Single entries -/

theorem lookup_cons (key other : Place) (entries : List (Place × FileEntry)) :
    List.lookup other ((key, entry) :: entries) =
      if other = key then some entry else List.lookup other entries := by
  rw [List.lookup_cons]
  by_cases hother : other = key
  · simp [hother]
  · rw [beq_false_of_ne hother, if_neg hother]

/-- An entry that is replaced is found in its place. -/
theorem lookup_map_replace {entries : List (Place × FileEntry)}
    (hany : ∃ old ∈ entries, old.1 = place) (other : Place) :
    List.lookup other (entries.map fun old => if old.1 = place then (place, entry) else old) =
      if other = place then some entry else List.lookup other entries := by
  induction entries with
  | nil => simp at hany
  | cons old entries ih =>
      rcases old with ⟨key, value⟩
      by_cases hkey : key = place
      · subst hkey
        by_cases hother : other = key
        · simp [hother]
        · -- the place may come again behind, or what is behind stays as it is
          by_cases hmore : ∃ old ∈ entries, old.1 = key
          · simp [lookup_cons, hother, ih hmore]
          · have hsame : entries.map (fun old => if old.1 = key then (key, entry) else old) =
                entries := by
              refine (List.map_congr_left fun old hmem => ?_).trans (List.map_id _)
              rw [if_neg fun heq => hmore ⟨old, hmem, heq⟩]
              rfl
            simp [lookup_cons, hother, hsame]
      · have hmore : ∃ old ∈ entries, old.1 = place := by simpa [hkey] using hany
        by_cases hother : other = key
        · subst hother
          simp [hkey]
        · simp [lookup_cons, hkey, hother, ih hmore]

/-- The entries after one is put at a place that is neither the root nor the working directory. -/
theorem entry?_put (hroot : place ≠ []) (hwork : place ≠ workingDirectory) (other : Place) :
    FileStore.entry? (store.put place entry) other =
      if other = place then some entry else store.entry? other := by
  -- the places that are always there are in no table
  by_cases hstanding : other = [] ∨ other = workingDirectory
  · have hne : other ≠ place := by
      rintro rfl
      exact hstanding.elim hroot hwork
    unfold entry?
    rw [if_neg hne, if_pos hstanding, if_pos hstanding]
  · unfold entry?
    rw [if_neg hstanding, if_neg hstanding, put]
    split
    next hany =>
      refine lookup_map_replace ?_ other
      simpa using hany
    next hany =>
      have hnone : List.lookup place store.entries = none := by
        rw [List.lookup_eq_none_iff]
        intro old hmem
        have hne : ¬ old.1 = place := by
          intro heq
          exact hany (List.any_eq_true.2 ⟨old, hmem, by simpa using heq⟩)
        simpa using Ne.symm hne
      rw [List.lookup_append, lookup_cons]
      by_cases hother : other = place
      · rw [hother, hnone, if_pos rfl, if_pos rfl, Option.none_or]
      · rw [if_neg hother, if_neg hother, List.lookup_nil, Option.or_none]

/-- A place with no entry, or with a file, is neither the root nor the working directory. -/
theorem ne_of_not_directory (h : store.entry? place ≠ some .directory) :
    place ≠ [] ∧ place ≠ workingDirectory := by
  refine ⟨?_, ?_⟩ <;>
  · rintro rfl
    exact h rfl

theorem entry?_put_of_ne (h : store.entry? place ≠ some .directory) (other : Place) :
    FileStore.entry? (store.put place entry) other =
      if other = place then some entry else store.entry? other :=
  entry?_put (ne_of_not_directory h).1 (ne_of_not_directory h).2 other

/-! ## Directories -/

/-- No file stands at these places. -/
def Clear (store : FileStore) (places : List Place) : Prop :=
  ∀ place ∈ places, ∀ contents, store.entry? place ≠ some (.file contents)

/-- These places are made directories, and nothing else changes. -/
def MadeAlong (store made : FileStore) (places : List Place) : Prop :=
  ∀ place, made.entry? place =
    if place ∈ places then some .directory else store.entry? place

/-- Entries are added but none is changed. -/
def Extends (store made : FileStore) : Prop :=
  ∀ place entry, store.entry? place = some entry → made.entry? place = some entry

theorem Extends.refl (store : FileStore) : Extends store store :=
  fun _ _ h => h

theorem Extends.trans {first second third : FileStore} (h : Extends first second)
    (h' : Extends second third) : Extends first third :=
  fun place entry hentry => h' place entry (h place entry hentry)

theorem locate_eq_missing (h : path.Fits) (hclear : Clear store path.route)
    (hroute : ¬ ∀ passed ∈ path.route, store.entry? passed = some .directory) :
    store.locate path = .error .missing := by
  -- without files on the route, a name is looked up in a directory or in nothing
  have hfollow : ∀ (names : List String) (start : Place),
      (∀ name ∈ names, Surrogate.byteSize name ≤ maxNameBytes) →
      Clear store (Place.passed start names) →
      (¬ ∀ passed ∈ Place.passed start names, store.entry? passed = some .directory) →
        store.follow start names = .error .missing := by
    intro names
    induction names with
    | nil => exact fun start _ _ hnot => absurd (by simp [Place.passed]) hnot
    | cons name names ih =>
        intro start hnames hclear hnot
        rw [Place.passed, List.forall_mem_cons] at hnot
        rcases List.forall_mem_cons.1 hnames with ⟨hname, hothers⟩
        rcases List.forall_mem_cons.1 hclear with ⟨hstart, hbehind⟩
        rw [follow]
        split
        next hdirectory =>
          rw [if_neg (Nat.not_lt_of_le hname)]
          exact ih _ hothers hbehind fun hall => hnot ⟨hdirectory, hall⟩
        next contents hfile => exact absurd hfile (hstart contents)
        next => rfl
  rw [locate, if_neg (Nat.not_lt_of_le h.pathBytes)]
  exact hfollow path.parts path.start h.nameBytes hclear hroute

/-- A directory is made where there is nothing, when the way to it is there. -/
theorem makeDirectory_of_route (h : path.Fits)
    (hroute : ∀ passed ∈ path.route, store.entry? passed = some .directory) :
    store.makeDirectory path =
      match store.entry? path.place with
      | some _ => .error .alreadyThere
      | none => .ok (store.put path.place .directory) := by
  have hlocate := (locate_of_fits h).2 ⟨rfl, hroute⟩
  cases hentry : store.entry? path.place with
  | none => simp only [makeDirectory, hlocate, hentry]
  | some entry => simp only [makeDirectory, hlocate, hentry]

theorem find?_of_route (h : path.Fits)
    (hroute : ∀ passed ∈ path.route, store.entry? passed = some .directory) :
    store.find? path = store.entry? path.place := by
  rw [find?, (locate_of_fits h).2 ⟨rfl, hroute⟩]

/-- The places that have to be directories for a directory at a path. -/
def reach (path : FilePath) : List Place :=
  path.route ++ [path.place]

theorem reach_parent (hparts : path.parts ≠ []) : reach path.parent = path.route :=
  (FilePath.route_eq_parent hparts).symm

theorem MadeAlong.last {last : FileStore} (h : MadeAlong store made path.route)
    (hlast : MadeAlong made last (reach path)) : MadeAlong store last (reach path) := by
  intro place
  rw [hlast place, h place]
  by_cases hmem : place ∈ reach path
  · rw [if_pos hmem, if_pos hmem]
  · have hroute : place ∉ path.route := fun hpassed => hmem (List.mem_append_left _ hpassed)
    rw [if_neg hmem, if_neg hmem, if_neg hroute]

/-- With the way to it there, a directory is made or found. -/
theorem makeLast (h : path.Fits)
    (hroute : ∀ passed ∈ path.route, store.entry? passed = some .directory)
    (hplace : ∀ contents, store.entry? path.place ≠ some (.file contents)) :
    (store.makeDirectory path = .ok (store.put path.place .directory) ∧
      MadeAlong store (store.put path.place .directory) (reach path)) ∨
    (store.makeDirectory path = .error .alreadyThere ∧
      store.orExisting path .alreadyThere = .ok () ∧ MadeAlong store store (reach path)) := by
  rw [makeDirectory_of_route h hroute]
  cases hentry : store.entry? path.place with
  | none =>
      refine Or.inl ⟨rfl, ?_⟩
      intro place
      rw [entry?_put_of_ne (by simp [hentry])]
      by_cases hplace : place = path.place
      · simp [hplace, reach]
      · by_cases hpassed : place ∈ path.route
        · simp [hplace, reach, hpassed, hroute place hpassed]
        · simp [hplace, reach, hpassed]
  | some entry =>
      cases entry with
      | file contents => exact absurd hentry (hplace contents)
      | directory =>
          refine Or.inr ⟨rfl, ?_, ?_⟩
          · rw [orExisting, find?_of_route h hroute, if_pos hentry]
          · intro place
            by_cases hmem : place ∈ reach path
            · rw [if_pos hmem]
              rcases List.mem_append.1 hmem with hpassed | hlast
              · exact hroute place hpassed
              · rw [List.mem_singleton.1 hlast, hentry]
            · rw [if_neg hmem]

theorem makeDirectoriesWithin_of_route {bound : Nat} (h : path.Fits)
    (hroute : ∀ passed ∈ path.route, store.entry? passed = some .directory)
    (hplace : ∀ contents, store.entry? path.place ≠ some (.file contents)) :
    ∃ made, store.makeDirectoriesWithin bound path = (.ok (), made) ∧
      MadeAlong store made (reach path) := by
  rcases makeLast h hroute hplace with ⟨hmake, hmade⟩ | ⟨hmake, hexisting, hmade⟩
  · refine ⟨_, ?_, hmade⟩
    unfold makeDirectoriesWithin
    simp only [hmake]
  · refine ⟨store, ?_, hmade⟩
    unfold makeDirectoriesWithin
    simp only [hmake, hexisting]

/-- Directories are made along a route on which there are no files. -/
theorem makeDirectoriesWithin_of_clear {bound : Nat} (h : path.Fits)
    (hclear : Clear store (reach path)) (hbound : path.parts.length ≤ bound) :
    ∃ made, store.makeDirectoriesWithin bound path = (.ok (), made) ∧
      MadeAlong store made (reach path) := by
  induction bound generalizing path with
  | zero =>
      have hparts : path.parts = [] := List.eq_nil_of_length_eq_zero (Nat.le_zero.1 hbound)
      refine makeDirectoriesWithin_of_route h ?_ (hclear _ (by simp [reach]))
      simp [FilePath.route, hparts, Place.passed]
  | succ bound ih =>
      by_cases hroute : ∀ passed ∈ path.route, store.entry? passed = some .directory
      · exact makeDirectoriesWithin_of_route h hroute (hclear _ (by simp [reach]))
      · -- the parent is made first, and then the way is there
        have hparts : path.parts ≠ [] := by
          intro hnil
          exact hroute (by simp [FilePath.route, hnil, Place.passed])
        have hclearRoute : Clear store path.route := fun place hmem =>
          hclear place (List.mem_append_left _ hmem)
        have hmissing : store.makeDirectory path = .error .missing := by
          rw [makeDirectory, locate_eq_missing h hclearRoute hroute]
        have hlength : path.parent.parts.length ≤ bound := by
          rw [FilePath.parent, List.length_dropLast]
          omega
        rcases ih h.parent (by rwa [reach_parent hparts]) hlength with ⟨made, hmade, halong⟩
        rw [reach_parent hparts] at halong
        have hmadeRoute : ∀ passed ∈ path.route, made.entry? passed = some .directory := by
          intro passed hmem
          rw [halong passed, if_pos hmem]
        have hmadePlace : ∀ contents, made.entry? path.place ≠ some (.file contents) := by
          intro contents
          rw [halong path.place]
          split
          · simp
          · exact hclear path.place (by simp [reach]) contents
        rcases makeLast h hmadeRoute hmadePlace with ⟨hmake, hlast⟩ | ⟨hmake, hexisting, hlast⟩
        · refine ⟨made.put path.place .directory, ?_, halong.last hlast⟩
          unfold makeDirectoriesWithin
          simp only [hmissing, hmade, hmake]
        · refine ⟨made, ?_, halong.last hlast⟩
          unfold makeDirectoriesWithin
          simp only [hmissing, hmade, hmake, hexisting]

/-! ## What making directories shows -/

theorem Clear.of_extends {places : List Place} (h : Clear made places)
    (hextends : Extends store made) : Clear store places := by
  intro place hmem contents hfile
  exact h place hmem contents (hextends place (.file contents) hfile)

theorem clear_reach (hroute : ∀ passed ∈ path.route, store.entry? passed = some .directory)
    (hplace : ∀ contents, store.entry? path.place ≠ some (.file contents)) :
    Clear store (reach path) := by
  intro place hmem contents
  rcases List.mem_append.1 hmem with hpassed | hlast
  · simp [hroute place hpassed]
  · rw [List.mem_singleton.1 hlast]
    exact hplace contents

theorem makeDirectory_eq_ok (h : store.makeDirectory path = .ok made) :
    Extends store made ∧ Clear store (reach path) := by
  rw [makeDirectory] at h
  split at h
  · cases h
  next place hlocate =>
    rcases locate_eq_ok_iff.1 hlocate with ⟨rfl, -, hroute, -⟩
    split at h
    · cases h
    next hnone =>
      cases h
      refine ⟨?_, clear_reach hroute (by simp [hnone])⟩
      intro place entry hentry
      rw [entry?_put_of_ne (by simp [hnone]), if_neg, hentry]
      rintro rfl
      rw [hnone] at hentry
      cases hentry

theorem orExisting_eq_ok {problem : FileProblem} (h : store.orExisting path problem = .ok ()) :
    Clear store (reach path) := by
  rw [orExisting] at h
  split at h
  next hdirectory =>
    rw [find?] at hdirectory
    split at hdirectory
    next place hlocate =>
      rcases locate_eq_ok_iff.1 hlocate with ⟨rfl, -, hroute, -⟩
      exact clear_reach hroute (by simp [hdirectory])
    · cases hdirectory
  · cases h

theorem extends_makeDirectoriesWithin (store : FileStore) (bound : Nat) (path : FilePath) :
    Extends store (store.makeDirectoriesWithin bound path).2 := by
  induction bound generalizing path with
  | zero =>
      unfold makeDirectoriesWithin
      split
      next hmake => exact (makeDirectory_eq_ok hmake).1
      · exact Extends.refl store
      · exact Extends.refl store
  | succ bound ih =>
      unfold makeDirectoriesWithin
      split
      next hmake => exact (makeDirectory_eq_ok hmake).1
      next hmissing =>
        have hparent := ih path.parent
        dsimp only
        split
        next hfailed =>
          rw [hfailed] at hparent
          exact hparent
        next made hmade =>
          rw [hmade] at hparent
          split
          next hmake => exact hparent.trans (makeDirectory_eq_ok hmake).1
          · exact hparent
      · exact Extends.refl store

/-- Directories are made only along a route without files. -/
theorem makeDirectoriesWithin_eq_ok {bound : Nat}
    (h : store.makeDirectoriesWithin bound path = (.ok (), made)) : Clear store (reach path) := by
  induction bound generalizing path made with
  | zero =>
      unfold makeDirectoriesWithin at h
      split at h
      next hmake =>
        cases h
        exact (makeDirectory_eq_ok hmake).2
      · cases h
      · rw [Prod.mk.injEq] at h
        exact orExisting_eq_ok h.1
  | succ bound ih =>
      unfold makeDirectoriesWithin at h
      split at h
      next hmake =>
        cases h
        exact (makeDirectory_eq_ok hmake).2
      next hmissing =>
        -- the parent adds entries, so what is clear behind it was clear before
        have hextends := extends_makeDirectoriesWithin store bound path.parent
        dsimp only at h
        split at h
        · cases h
        next between hbetween =>
          rw [hbetween] at hextends
          split at h
          next hmake => exact (makeDirectory_eq_ok hmake).2.of_extends hextends
          · rw [Prod.mk.injEq] at h
            exact (orExisting_eq_ok h.1).of_extends hextends
      · rw [Prod.mk.injEq] at h
        exact orExisting_eq_ok h.1

/-! ## Whole operations -/

theorem makeDirectories_of_clear (h : path.Fits) (hclear : Clear store (reach path)) :
    ∃ made, store.makeDirectories path = (.ok (), made) ∧ MadeAlong store made (reach path) := by
  rcases makeDirectoriesWithin_of_clear h hclear (Nat.le_refl _) with ⟨made, hmake, halong⟩
  refine ⟨made, ?_, halong⟩
  rw [makeDirectories, h.handedOver, hmake]
  rfl

theorem makeDirectories_eq_ok (h : store.makeDirectories path = (.ok (), made)) :
    Clear store (reach path) := by
  rw [makeDirectories] at h
  split at h
  · cases h
  · rcases hmake : store.makeDirectoriesWithin path.parts.length path with ⟨error | ⟨⟩, found⟩
    · rw [hmake] at h
      cases h
    · exact makeDirectoriesWithin_eq_ok hmake

/-- Making directories loses no entry, also when it fails half-way. -/
theorem extends_makeDirectories (store : FileStore) (path : FilePath) :
    Extends store (store.makeDirectories path).2 := by
  rw [makeDirectories]
  split
  · exact Extends.refl store
  · exact extends_makeDirectoriesWithin store path.parts.length path

/-! ## Files that stay -/

/-- Two stores hold the same files; directories may differ. -/
def SameFiles (store made : FileStore) : Prop :=
  ∀ place contents, made.entry? place = some (.file contents) ↔
    store.entry? place = some (.file contents)

theorem SameFiles.refl (store : FileStore) : SameFiles store store :=
  fun _ _ => Iff.rfl

theorem SameFiles.trans {first second third : FileStore} (h : SameFiles first second)
    (h' : SameFiles second third) : SameFiles first third :=
  fun place contents => (h' place contents).trans (h place contents)

theorem sameFiles_makeDirectory (h : store.makeDirectory path = .ok made) :
    SameFiles store made := by
  rw [makeDirectory] at h
  split at h
  · cases h
  next place _ =>
    split at h
    · cases h
    next hnone =>
      cases h
      -- a directory comes where there was nothing
      intro other contents
      rw [entry?_put_of_ne (by simp [hnone])]
      by_cases hother : other = place
      · simp [hother, hnone]
      · rw [if_neg hother]

theorem sameFiles_makeDirectoriesWithin (store : FileStore) (bound : Nat) (path : FilePath) :
    SameFiles store (store.makeDirectoriesWithin bound path).2 := by
  induction bound generalizing path with
  | zero =>
      unfold makeDirectoriesWithin
      split
      next hmake => exact sameFiles_makeDirectory hmake
      · exact SameFiles.refl store
      · exact SameFiles.refl store
  | succ bound ih =>
      unfold makeDirectoriesWithin
      split
      next hmake => exact sameFiles_makeDirectory hmake
      next hmissing =>
        have hparent := ih path.parent
        dsimp only
        split
        next hfailed =>
          rw [hfailed] at hparent
          exact hparent
        next made hmade =>
          rw [hmade] at hparent
          split
          next hmake => exact hparent.trans (sameFiles_makeDirectory hmake)
          · exact hparent
      · exact SameFiles.refl store

/-- Making directories leaves every file as it is, also when it fails half-way. -/
theorem sameFiles_makeDirectories (store : FileStore) (path : FilePath) :
    SameFiles store (store.makeDirectories path).2 := by
  rw [makeDirectories]
  split
  · exact SameFiles.refl store
  · exact sameFiles_makeDirectoriesWithin store path.parts.length path

/-- Writing that fails leaves the store as it is, unless only the text was in the way. -/
theorem writeText_eq_error {text : String} {failure : FileFailure} {after : FileStore}
    (h : store.writeText path text = (.error failure, after)) :
    after = store ∨ path.Fits ∧ store.entry? path.place ≠ some .directory := by
  rw [writeText] at h
  split at h
  · cases h
    exact .inl rfl
  next hhanded =>
    split at h
    · cases h
      exact .inl rfl
    next place hlocate =>
      obtain ⟨rfl, hbytes, -, hnames⟩ := locate_eq_ok_iff.1 hlocate
      split at h
      · cases h
        exact .inl rfl
      next hplace => exact .inr ⟨⟨hhanded, hbytes, hnames⟩, hplace⟩

/-- Two stores hold the same files, those at some places apart. -/
def SameFilesApart (places : List Place) (store made : FileStore) : Prop :=
  ∀ place, place ∉ places → ∀ contents,
    made.entry? place = some (.file contents) ↔ store.entry? place = some (.file contents)

theorem SameFiles.apart (h : SameFiles store made) (places : List Place) :
    SameFilesApart places store made :=
  fun place _ => h place

theorem SameFilesApart.trans {first second third : FileStore} {places : List Place}
    (h : SameFilesApart places first second) (h' : SameFilesApart places second third) :
    SameFilesApart places first third :=
  fun place hplace contents => (h' place hplace contents).trans (h place hplace contents)

theorem SameFilesApart.mono {places more : List Place} (h : SameFilesApart places store made)
    (hsubset : places ⊆ more) : SameFilesApart more store made :=
  fun place hplace => h place fun hmem => hplace (hsubset hmem)

/-- Writing leaves the files at other places as they are, also when it fails. -/
theorem sameFilesApart_writeText (store : FileStore) (path : FilePath) (text : String) :
    SameFilesApart [path.place] store (store.writeText path text).2 := by
  -- whatever is put there, it is put at the place of the path
  have hput : ∀ contents place, store.locate path = .ok place →
      store.entry? place ≠ some .directory →
      SameFilesApart [path.place] store (store.put place (.file contents)) := by
    intro contents place hlocate hfree other hother found
    rw [(locate_eq_ok_iff.1 hlocate).1] at hfree ⊢
    rw [entry?_put_of_ne hfree, if_neg (List.ne_of_not_mem_cons hother)]
  rw [writeText]
  split
  · exact (SameFiles.refl store).apart _
  · split
    · exact (SameFiles.refl store).apart _
    next place hlocate =>
      split
      · exact (SameFiles.refl store).apart _
      next hfree =>
        split
        · exact hput _ place hlocate hfree
        · exact hput _ place hlocate hfree

/-! ## Kinds that stay -/

/-- What has an entry keeps one of its kind: a directory stays one, and so does a file, which may
have other contents. -/
def KeepsKinds (store made : FileStore) : Prop :=
  ∀ place entry, store.entry? place = some entry →
    ∃ kept, made.entry? place = some kept ∧ (kept = .directory ↔ entry = .directory)

theorem KeepsKinds.trans {first second third : FileStore} (h : KeepsKinds first second)
    (h' : KeepsKinds second third) : KeepsKinds first third := by
  intro place entry hentry
  obtain ⟨between, hbetween, hkind⟩ := h place entry hentry
  obtain ⟨kept, hkept, hkind'⟩ := h' place between hbetween
  exact ⟨kept, hkept, hkind'.trans hkind⟩

theorem Extends.keepsKinds (h : Extends store made) : KeepsKinds store made :=
  fun place entry hentry => ⟨entry, h place entry hentry, Iff.rfl⟩

theorem keepsKinds_put {contents : Contents} (hplace : store.entry? place ≠ some .directory) :
    KeepsKinds store (store.put place (.file contents)) := by
  intro other entry hentry
  rw [entry?_put_of_ne hplace]
  split
  case isTrue heq =>
    -- a file was there before
    rw [heq] at hentry
    have hfile : entry ≠ .directory := by
      rintro rfl
      exact hplace hentry
    exact ⟨_, rfl, by simp [hfile]⟩
  case isFalse => exact ⟨entry, hentry, Iff.rfl⟩

/-- Writing turns no directory into a file and no file into a directory, also when it fails. -/
theorem keepsKinds_writeText (store : FileStore) (path : FilePath) (text : String) :
    KeepsKinds store (store.writeText path text).2 := by
  have hsame : KeepsKinds store store := (Extends.refl store).keepsKinds
  rw [writeText]
  split
  · exact hsame
  · split
    · exact hsame
    · split
      · exact hsame
      next hfree =>
        split
        · exact keepsKinds_put hfree
        · exact keepsKinds_put hfree

/-! ## Writing -/

/-- A text is written at the end of a route of directories, unless a directory is there or the text
has no UTF-8 form. -/
theorem writeText_eq_ok_iff {text : String} {written : FileStore} :
    store.writeText path text = (.ok (), written) ↔
      path.Fits ∧ (∀ passed ∈ path.route, store.entry? passed = some .directory) ∧
        store.entry? path.place ≠ some .directory ∧ Surrogate.fault? text = none ∧
          written = store.put path.place (.file (.text text)) := by
  constructor
  · intro h
    rw [writeText] at h
    split at h
    · cases h
    next hhanded =>
      split at h
      · cases h
      next place hlocate =>
        rcases locate_eq_ok_iff.1 hlocate with ⟨rfl, hbytes, hroute, hnames⟩
        split at h
        · cases h
        next hplace =>
          split at h
          · cases h
          next hfault =>
            cases h
            exact ⟨⟨hhanded, hbytes, hnames⟩, hroute, hplace, hfault, rfl⟩
  · rintro ⟨hfits, hroute, hplace, hfault, rfl⟩
    simp [writeText, hfits.handedOver, (locate_of_fits hfits).2 ⟨rfl, hroute⟩, hplace, hfault]

/-- A path at which a file can be made, with the directories above it. -/
structure Takes (store : FileStore) (path : FilePath) : Prop where
  fits : path.Fits
  clear : store.Clear path.route
  apart : path.place ∉ path.route
  free : store.entry? path.place ≠ some .directory

/-- The place of a path that takes a file is not where the path starts. -/
theorem parts_ne_nil (h : store.entry? path.place ≠ some .directory) : path.parts ≠ [] := by
  intro hparts
  rcases ne_of_not_directory h with ⟨hroot, hwork⟩
  simp only [FilePath.place, hparts, FilePath.start, Place.walk, List.foldl_nil] at hroot hwork
  split at hroot
  · rw [if_pos ‹_›] at hwork
    exact hwork rfl
  · exact hroot rfl

/-- A store after a text was written: its file is there, so are the directories on the way, and
nothing else is new. -/
def GainsFile (store : FileStore) (path : FilePath) (text : String) (after : FileStore) : Prop :=
  ∀ place, after.entry? place =
    if place = path.place then some (.file (.text text))
    else if place ∈ path.route then some .directory else store.entry? place

/-- A text is written with the directories above it when the path takes a file. -/
theorem writeText_of_takes {text : String} (h : store.Takes path)
    (hfault : Surrogate.fault? text = none) :
    ∃ made written, store.makeDirectories path.parent = (.ok (), made) ∧
      made.writeText path text = (.ok (), written) ∧ store.GainsFile path text written := by
  have hroute := reach_parent (parts_ne_nil h.free)
  have hclear : store.Clear (reach path.parent) := by
    rw [hroute]
    exact h.clear
  rcases makeDirectories_of_clear h.fits.parent hclear with ⟨made, hmake, halong⟩
  rw [hroute] at halong
  have hplace : made.entry? path.place ≠ some .directory := by
    rw [halong path.place, if_neg h.apart]
    exact h.free
  refine ⟨made, made.put path.place (.file (.text text)), hmake, ?_, ?_⟩
  · refine writeText_eq_ok_iff.2 ⟨h.fits, ?_, hplace, hfault, rfl⟩
    intro passed hpassed
    rw [halong passed, if_pos hpassed]
  · intro place
    rw [entry?_put_of_ne hplace, halong place]

/-- A text without a UTF-8 form leaves the file that an empty text would leave. -/
theorem writeText_of_fault {text : String} {fault : Surrogate.Fault} (h : store.Takes path)
    (hfault : Surrogate.fault? text = some fault) :
    ∃ made written, store.makeDirectories path.parent = (.ok (), made) ∧
      made.writeText path text = (.error (.unencodable fault), written) ∧
      store.GainsFile path "" written := by
  have hencodable : Surrogate.fault? "" = none := rfl
  obtain ⟨made, written, hmake, hempty, hgains⟩ := writeText_of_takes h hencodable
  rcases writeText_eq_ok_iff.1 hempty with ⟨hfits, hroute, hplace, -, rfl⟩
  refine ⟨made, made.put path.place (.file (.text "")), hmake, ?_, hgains⟩
  simp [writeText, hfits.handedOver, (locate_of_fits hfits).2 ⟨rfl, hroute⟩, hplace, hfault]

/-- Where the directories above it were made and none is in its place, a path takes a file. -/
theorem takes_of_makeDirectories (hfits : path.Fits)
    (hmake : store.makeDirectories path.parent = (.ok (), made))
    (hplace : made.entry? path.place ≠ some .directory) : store.Takes path := by
  have hroute := reach_parent (parts_ne_nil hplace)
  have hclear := makeDirectories_eq_ok hmake
  rcases makeDirectories_of_clear hfits.parent hclear with ⟨found, hfound, halong⟩
  have hsame : found = made := by
    rw [hmake] at hfound
    exact (Prod.mk.inj hfound).2.symm
  subst hsame
  -- a place on its own route would have become a directory
  rw [hroute] at hclear halong
  rw [halong path.place] at hplace
  by_cases hmem : path.place ∈ path.route
  · rw [if_pos hmem] at hplace
    exact absurd rfl hplace
  · rw [if_neg hmem] at hplace
    exact ⟨hfits, hclear, hmem, hplace⟩

/-- Only a path that takes a file is written to. -/
theorem takes_of_writeText {text : String} {written : FileStore}
    (hmake : store.makeDirectories path.parent = (.ok (), made))
    (hwrite : made.writeText path text = (.ok (), written)) :
    store.Takes path ∧ Surrogate.fault? text = none := by
  rcases writeText_eq_ok_iff.1 hwrite with ⟨hfits, -, hplace, hfault, -⟩
  exact ⟨takes_of_makeDirectories hfits hmake hplace, hfault⟩

/-- The text of a file at the end of a route of directories. -/
theorem readText_of_file {text : String} (h : path.Fits)
    (hroute : ∀ passed ∈ path.route, store.entry? passed = some .directory)
    (hplace : store.entry? path.place = some (.file (.text text))) :
    store.readText path = .ok (String.ofList (Text.unifyLineEnds text.toList)) := by
  simp [readText, readContents, h.handedOver, (locate_of_fits h).2 ⟨rfl, hroute⟩, hplace]

theorem readText_of_directory (h : path.Fits)
    (hroute : ∀ passed ∈ path.route, store.entry? passed = some .directory)
    (hplace : store.entry? path.place = some .directory) :
    store.readText path = .error (.refused ⟨.isDirectory, path⟩) := by
  simp [readText, readContents, h.handedOver, (locate_of_fits h).2 ⟨rfl, hroute⟩, hplace]

end FileStore
end Typings
