import Typings.Generation
import Typings.Proofs.Files.Making
import Typings.Proofs.Rendering.Declared
import Typings.Proofs.Rendering.Plain

/-!
# The files of a generation

A generation that succeeds has written the definitions of every library and then the exports, each
as they are rendered from the reconciled tree alone. A file keeps its text until a later one has the
same place.

* `Generation.Placed`: what writing one file does to a store;
* `Generation.PlacedAll`, `Generation.PlacedAll.readContents`: files written one after the other,
  and what is left of them;
* `Generation.definitionsOf`, `Generation.filesOf`: the definitions and the files of a tree;
* `Generation.writeTree_succeeded`: what a tree without issues has written.
-/

namespace Typings
namespace Generation

variable {config : Config} {version : String} {path : FilePath} {text : String}
  {store next : FileStore} {place : Place} {entry : FileEntry} {contents : Contents}
  {files back : List (FilePath × String)} {file : FilePath × String}

/-! ## One file -/

/-- A file is at its path, where no directory was, no other entry is lost, and beside the
directories on the way none is made. -/
structure Placed (path : FilePath) (text : String) (store next : FileStore) : Prop where
  takes : store.Takes path
  file : next.entry? path.place = some (.file (.text text))
  route : ∀ passed ∈ path.route, next.entry? passed = some .directory
  kept : ∀ place entry, place ≠ path.place → store.entry? place = some entry →
    next.entry? place = some entry
  elsewhere : ∀ place, place ≠ path.place → place ∉ path.route →
    next.entry? place = store.entry? place

theorem placed_of_gainsFile (htakes : store.Takes path) (hgains : store.GainsFile path text next) :
    Placed path text store next where
  takes := htakes
  file := by rw [hgains path.place, if_pos rfl]
  route := by
    intro passed hpassed
    have hne : passed ≠ path.place := ne_of_mem_of_not_mem hpassed htakes.apart
    rw [hgains passed, if_neg hne, if_pos hpassed]
  kept := by
    intro place entry hne hold
    rw [hgains place, if_neg hne]
    split
    case isTrue hpassed =>
      -- what stands on the way was a directory before
      cases entry with
      | directory => rfl
      | file contents => exact absurd hold (htakes.clear place hpassed contents)
    case isFalse => exact hold
  elsewhere := by
    intro place hne haside
    rw [hgains place, if_neg hne, if_neg haside]

/-- A text is placed where its path takes a file. -/
theorem placeFile_of_takes (htakes : store.Takes path) (hfault : Surrogate.fault? text = none) :
    ∃ next, placeFile path text store = (.ok (), next) ∧ Placed path text store next := by
  obtain ⟨made, next, hmake, hwrite, hgains⟩ := FileStore.writeText_of_takes htakes hfault
  refine ⟨next, ?_, placed_of_gainsFile htakes hgains⟩
  rw [placeFile, hmake]
  exact hwrite

/-- A text without a UTF-8 form is not placed. -/
theorem placeFile_of_fault {fault : Surrogate.Fault} (htakes : store.Takes path)
    (hfault : Surrogate.fault? text = some fault) :
    ∃ next, placeFile path text store = (.error (.unencodable fault), next) := by
  obtain ⟨made, next, hmake, hwrite, -⟩ := FileStore.writeText_of_fault htakes hfault
  refine ⟨next, ?_⟩
  rw [placeFile, hmake]
  exact hwrite

theorem placed_of_placeFile (h : placeFile path text store = (.ok (), next)) :
    Placed path text store next := by
  have hwritten : store.Takes path ∧ Surrogate.fault? text = none := by
    rw [placeFile] at h
    split at h
    · cases h
    next made hmake => exact FileStore.takes_of_writeText hmake h
  obtain ⟨found, hfound, hplaced⟩ := placeFile_of_takes hwritten.1 hwritten.2
  rw [h, Prod.mk.injEq] at hfound
  rw [hfound.2]
  exact hplaced

namespace Placed

/-- Files at other places are as they were. -/
theorem sameFilesApart (h : Placed path text store next) :
    store.SameFilesApart [path.place] next := by
  intro place hplace contents
  have hne : place ≠ path.place := List.ne_of_not_mem_cons hplace
  by_cases hpassed : place ∈ path.route
  · -- there is a directory now, and no file was there before
    have hnone := h.takes.clear place hpassed contents
    simp [h.route place hpassed, hnone]
  · rw [h.elsewhere place hne hpassed]

/-- A file does not keep another one from being made unless one is on the way to the other. -/
theorem takes_other (h : Placed path text store next) {other : FilePath}
    (hahead : path.place ∉ other.route) (hbehind : other.place ∉ path.route)
    (hother : store.Takes other) : next.Takes other where
  fits := hother.fits
  clear := by
    intro place hpassed contents hfile
    have hne : place ∉ [path.place] :=
      fun hmem => hahead (List.mem_singleton.1 hmem ▸ hpassed)
    exact hother.clear place hpassed contents ((h.sameFilesApart place hne contents).1 hfile)
  apart := hother.apart
  free := by
    by_cases hplace : other.place = path.place
    · rw [hplace, h.file]
      simp
    · rw [h.elsewhere _ hplace hbehind]
      exact hother.free

end Placed

/-! ## Files one after the other -/

/-- Files are written in order. -/
inductive PlacedAll : List (FilePath × String) → FileStore → FileStore → Prop where
  | nil {store : FileStore} : PlacedAll [] store store
  | cons {path : FilePath} {text : String} {files : List (FilePath × String)}
      {store next last : FileStore} (hplaced : Placed path text store next)
      (hrest : PlacedAll files next last) : PlacedAll ((path, text) :: files) store last

namespace PlacedAll

variable {last : FileStore}

theorem concat (h : PlacedAll files store next) (hplaced : Placed path text next last) :
    PlacedAll (files ++ [(path, text)]) store last := by
  induction h with
  | nil => exact .cons hplaced .nil
  | cons hfirst _ ih => exact .cons hfirst (ih hplaced)

/-- Directories stay. -/
theorem directory (h : PlacedAll files store last)
    (hdirectory : store.entry? place = some .directory) : last.entry? place = some .directory := by
  induction h with
  | nil => exact hdirectory
  | cons hplaced _ ih =>
      refine ih (hplaced.kept place .directory ?_ hdirectory)
      rintro rfl
      exact hplaced.takes.free hdirectory

/-- A file stays unless another one is written at its place. -/
theorem untouched (h : PlacedAll files store last) (hother : ∀ file ∈ files, file.1.place ≠ place)
    (hentry : store.entry? place = some entry) : last.entry? place = some entry := by
  induction h with
  | nil => exact hentry
  | cons hplaced _ ih =>
      obtain ⟨hfirst, hrest⟩ := List.forall_mem_cons.1 hother
      exact ih hrest (hplaced.kept place entry hfirst.symm hentry)

/-- Files at other places are as they were. -/
theorem sameFilesApart (h : PlacedAll files store last) :
    store.SameFilesApart (files.map (·.1.place)) last := by
  induction h with
  | nil => exact (FileStore.SameFiles.refl _).apart _
  | cons hplaced _ ih =>
      intro place hnot contents
      have hfirst := mt List.mem_singleton.1 (List.ne_of_not_mem_cons hnot)
      have hrest := List.not_mem_of_not_mem_cons hnot
      exact (ih place hrest contents).trans (hplaced.sameFilesApart place hfirst contents)

/-- A path takes a file as before when no file is on the way to it, nor it on the way to a file. -/
theorem takes_other {other : FilePath} (h : PlacedAll files store last)
    (haside : ∀ file ∈ files, file.1.place ∉ other.route ∧ other.place ∉ file.1.route)
    (htakes : store.Takes other) : last.Takes other := by
  induction h with
  | nil => exact htakes
  | cons hplaced _ ih =>
      obtain ⟨⟨hahead, hbehind⟩, hrest⟩ := List.forall_mem_cons.1 haside
      exact ih hrest (hplaced.takes_other hahead hbehind htakes)

end PlacedAll

/-- No file is written at the place of this one after it. -/
def Stands (files : List (FilePath × String)) (file : FilePath × String) : Prop :=
  ∃ front back, files = front ++ file :: back ∧ ∀ other ∈ back, other.1.place ≠ file.1.place

theorem Stands.mem (h : Stands files file) : file ∈ files := by
  obtain ⟨front, back, rfl, -⟩ := h
  exact List.mem_append_right front List.mem_cons_self

/-- Of the files at a place one is the last. -/
theorem exists_stands (h : ∃ file ∈ files, file.1.place = place) :
    ∃ file, Stands files file ∧ file.1.place = place := by
  induction files with
  | nil => simp at h
  | cons first rest ih =>
      by_cases hmore : ∃ file ∈ rest, file.1.place = place
      · obtain ⟨file, ⟨front, back, hrest, hback⟩, hplace⟩ := ih hmore
        exact ⟨file, ⟨first :: front, back, by rw [hrest, List.cons_append], hback⟩, hplace⟩
      · obtain ⟨file, hmem, hplace⟩ := h
        rcases List.mem_cons.1 hmem with rfl | hrest
        · refine ⟨file, ⟨[], rest, rfl, ?_⟩, hplace⟩
          intro other hother heq
          exact hmore ⟨other, hother, heq.trans hplace⟩
        · exact absurd ⟨file, hrest, hplace⟩ hmore

/-- The way to a file is there in the end. -/
theorem PlacedAll.way {last : FileStore} (h : PlacedAll files store last) (hmem : file ∈ files) :
    file.1.Fits ∧ ∀ passed ∈ file.1.route, last.entry? passed = some .directory := by
  induction h with
  | nil => cases hmem
  | cons hplaced hrest ih =>
      rcases List.mem_cons.1 hmem with rfl | hbehind
      · -- later files keep directories
        refine ⟨hplaced.takes.fits, fun passed hpassed => ?_⟩
        exact hrest.directory (hplaced.route passed hpassed)
      · exact ih hbehind

/-- The last file at a place is there in the end. -/
theorem PlacedAll.entry_of_stands {last : FileStore} (h : PlacedAll files store last)
    (hstands : Stands files file) : last.entry? file.1.place = some (.file (.text file.2)) := by
  obtain ⟨front, back, rfl, hback⟩ := hstands
  induction front generalizing store with
  | nil =>
      cases h with
      | cons hplaced hrest => exact hrest.untouched hback hplaced.file
  | cons first front ih =>
      cases h with
      | cons _ hrest => exact ih hrest

theorem PlacedAll.readContents {last : FileStore} (h : PlacedAll files store last)
    (hstands : Stands files file) : last.readContents file.1 = .ok (.text file.2) := by
  obtain ⟨hfits, hroute⟩ := h.way hstands.mem
  have hlocate := (FileStore.locate_of_fits hfits).2 ⟨rfl, hroute⟩
  simp only [FileStore.readContents, hlocate, h.entry_of_stands hstands]

/-! ## Reports -/

variable {report written : GenerationReport} {world after : World}

/-- A file that is written without a new issue is at its path. -/
theorem writeFile_succeeded (h : writeFile path text report world = (.ok written, after))
    (hissues : written.issues = []) :
    Placed path text world.store after.store ∧
      written = { report with written := report.written ++ [path] } := by
  rw [writeFile] at h
  split at h
  next store hplace =>
    cases h
    exact ⟨placed_of_placeFile hplace, rfl⟩
  · cases h
    simp at hissues
  · cases h

/-! ## Definitions -/

/-- The libraries with their definitions, all of them of the same forest. -/
def definitionsOf (config : Config) (forest : Forest) :
    List String → Except UnsupportedKind (List (String × String))
  | [] => .ok []
  | library :: libraries => do
      let text ← Definitions.text config (some library) forest
      let others ← definitionsOf config forest libraries
      return (library, text) :: others

theorem definitionsOf_congr {libraries : List String} {forest other : Forest}
    (h : ∀ library ∈ libraries, Definitions.text config (some library) forest =
      Definitions.text config (some library) other) :
    definitionsOf config forest libraries = definitionsOf config other libraries := by
  induction libraries with
  | nil => rfl
  | cons library rest ih =>
      obtain ⟨hfirst, hrest⟩ := List.forall_mem_cons.1 h
      rw [definitionsOf, hfirst, ih hrest, definitionsOf]

/-- Every library has its definitions. -/
theorem definitionsOf_eq_ok {libraries : List String} {forest : Forest}
    {definitions : List (String × String)}
    (h : definitionsOf config forest libraries = .ok definitions) :
    definitions.map (·.1) = libraries ∧
      ∀ entry ∈ definitions, Definitions.text config (some entry.1) forest = .ok entry.2 := by
  induction libraries generalizing definitions with
  | nil =>
      cases h
      exact ⟨rfl, List.forall_mem_nil _⟩
  | cons library rest ih =>
      obtain ⟨text, htext, hmore⟩ := Definitions.bind_eq_ok h
      obtain ⟨others, hothers, hresult⟩ := Definitions.bind_eq_ok hmore
      cases hresult
      obtain ⟨hlibraries, htexts⟩ := ih hothers
      exact ⟨by rw [List.map_cons, hlibraries], List.forall_mem_cons.2 ⟨htext, htexts⟩⟩

/-- The files of definitions. -/
def definitionsFiles (config : Config) (version : String) (definitions : List (String × String)) :
    List (FilePath × String) :=
  definitions.map fun entry => (definitionsPath config version entry.1, entry.2)

attribute [local irreducible] writeFile in
/-- The definitions of the first library are rendered and written, and then the others. -/
theorem writeDefinitions_cons (config : Config) (version library : String) (libraries : List String)
    (forest : Forest) (report : GenerationReport) (world : World) :
    writeDefinitions config version (library :: libraries) forest report world =
      match Definitions.text config (some library) forest with
      | .error error => (.error (.unsupportedKind error), world)
      | .ok text =>
          match writeFile (definitionsPath config version library) text report world with
          | (.error failure, world) => (.error failure, world)
          | (.ok report, world) =>
              writeDefinitions config version libraries
                (Definitions.after config (some library) forest) report world :=
  rfl

theorem writeDefinitions_cons_eq_ok {library : String} {libraries : List String}
    {forest rendered : Forest}
    (h : writeDefinitions config version (library :: libraries) forest report world =
      (.ok (rendered, written), after)) :
    ∃ text first between, Definitions.text config (some library) forest = .ok text ∧
      writeFile (definitionsPath config version library) text report world =
        (.ok first, between) ∧
      writeDefinitions config version libraries
        (Definitions.after config (some library) forest) first between =
          (.ok (rendered, written), after) := by
  rw [writeDefinitions_cons] at h
  cases htext : Definitions.text config (some library) forest with
  | error error =>
      rw [htext] at h
      cases h
  | ok text =>
      rw [htext] at h
      rcases hfirst : writeFile (definitionsPath config version library) text report world with
        ⟨failure | first, between⟩
      · simp only [hfirst] at h
        cases h
      · simp only [hfirst] at h
        exact ⟨text, first, between, rfl, hfirst, h⟩

/-- The definitions that are written are those of the forest as it was in the beginning: what was
rendered for other libraries makes no difference. -/
theorem writeDefinitions_succeeded {libraries : List String} {forest rendered : Forest}
    (hnodup : libraries.Nodup)
    (h : writeDefinitions config version libraries forest report world =
      (.ok (rendered, written), after))
    (hissues : written.issues = []) :
    ∃ definitions, definitionsOf config forest libraries = .ok definitions ∧
      PlacedAll (definitionsFiles config version definitions) world.store after.store ∧
      (∀ library, Exports.text config library rendered = Exports.text config library forest) ∧
      written = { report with
        written := report.written ++ (definitionsFiles config version definitions).map (·.1) } := by
  induction libraries generalizing forest report world with
  | nil =>
      cases h
      refine ⟨[], rfl, .nil, fun _ => rfl, ?_⟩
      simp [definitionsFiles]
  | cons library rest ih =>
      obtain ⟨hnot, hrest⟩ := List.nodup_cons.1 hnodup
      obtain ⟨text, first, between, htext, hfirst, hmore⟩ := writeDefinitions_cons_eq_ok h
      obtain ⟨definitions, hdefinitions, hplaced, hexports, hwritten⟩ := ih hrest hmore
      have hfirstIssues : first.issues = [] := by
        rw [hwritten] at hissues
        exact hissues
      obtain ⟨hfirstPlaced, hreport⟩ := writeFile_succeeded hfirst hfirstIssues
      -- no library comes twice, so the forest left by this one shows what it showed before
      have hsame : definitionsOf config (Definitions.after config (some library) forest) rest =
          definitionsOf config forest rest := by
        refine definitionsOf_congr fun other hother => Definitions.text_after_of_ne ?_
        rintro rfl
        exact hnot hother
      refine ⟨(library, text) :: definitions, ?_, .cons hfirstPlaced hplaced, ?_, ?_⟩
      · rw [definitionsOf, htext, ← hsame, hdefinitions]
        rfl
      · intro shown
        rw [hexports, Exports.text_after]
      · rw [hwritten, hreport]
        simp [definitionsFiles]

/-! ## Trees -/

/-- The files of a tree with given definitions, the exports last. -/
def filesOf (tree : Tree) (version : String) (definitions : List (String × String)) :
    List (FilePath × String) :=
  definitionsFiles tree.config version definitions ++
    [(exportsPath tree.config version, Exports.text tree.config none tree.forest)]

/-- A tree that is written without an issue has all its files. -/
theorem writeTree_succeeded {tree : Tree} (hnodup : tree.forest.libraries.Nodup)
    (h : writeTree tree version world = (.ok written, after)) (hissues : written.issues = []) :
    ∃ definitions,
      definitionsOf tree.config tree.forest tree.forest.libraries = .ok definitions ∧
      PlacedAll (filesOf tree version definitions) world.store after.store ∧
      written = { reportOn tree version with
        written := (filesOf tree version definitions).map (·.1) } := by
  unfold writeTree at h
  rcases hdefinitions : writeDefinitions tree.config version tree.forest.libraries tree.forest
    (reportOn tree version) world with ⟨failure | ⟨rendered, between⟩, middle⟩
  · simp only [hdefinitions] at h
    cases h
  · simp only [hdefinitions] at h
    obtain ⟨hexports, hreport⟩ := writeFile_succeeded h hissues
    -- issues are only ever added, so there was none before the exports either
    have hbetween : between.issues = [] := by
      rw [hreport] at hissues
      exact hissues
    obtain ⟨definitions, hall, hplaced, hsame, hwritten⟩ :=
      writeDefinitions_succeeded hnodup hdefinitions hbetween
    rw [hsame] at hexports
    refine ⟨definitions, hall, hplaced.concat hexports, ?_⟩
    rw [hreport, hwritten]
    simp [filesOf, reportOn]

end Generation
end Typings
