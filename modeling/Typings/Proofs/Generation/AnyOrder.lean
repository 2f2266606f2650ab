import Typings.Proofs.Generation.Order
import Typings.Proofs.Session.AtRest
import Typings.Proofs.Session.Refusals
import Typings.Proofs.Tree.Preorder

/-!
# Libraries in any order

A generation writes files whose texts do not depend on the order of the libraries. What it leaves
does not depend on it either when no file gets in the way of another: when every text has a UTF-8
form, libraries whose files have the same place have the same text, and no file stands where another
one needs a directory.

* `Generation.writeAll_of_takes`: files that do not get in each other's way are all written;
* `Generation.PlacedAll.sameFiles_of_perm`: they leave the same files in any order;
* `Generation.OrderFree`, `Generation.Separable`: the order makes no difference, and why it makes
  none;
* `Generation.orderFree_iff_separable`: where each file could be written alone, these are the same;
* `Generation.definitions_undisturbed`: what all this comes to for the tree of documents.
-/

namespace Typings
namespace Generation

variable {path : FilePath} {text library : String} {store last : FileStore}
  {files others : List (FilePath × String)} {report written : GenerationReport}
  {world after : World} {tree : Tree} {version : String} {shown : String → String}
  {order : List String}

/-! ## Files that are all written -/

theorem writeFile_of_takes (report : GenerationReport) (htakes : world.store.Takes path)
    (hfault : Surrogate.fault? text = none) :
    ∃ next, writeFile path text report world =
        (.ok { report with written := report.written ++ [path] }, { world with store := next }) ∧
      Placed path text world.store next := by
  obtain ⟨next, hplace, hplaced⟩ := placeFile_of_takes htakes hfault
  exact ⟨next, by rw [writeFile, hplace], hplaced⟩

/-- Files with texts that can be written, of which none stands on the way to another, are all
written. -/
theorem writeAll_of_takes (htakes : ∀ file ∈ files, world.store.Takes file.1)
    (hsayable : ∀ file ∈ files, Surrogate.fault? file.2 = none)
    (haside : ∀ file ∈ files, ∀ other ∈ files, file.1.place ∉ other.1.route) :
    ∃ last, writeAll files report world =
        (.ok { report with written := report.written ++ files.map (·.1) },
          { world with store := last }) ∧
      PlacedAll files world.store last := by
  induction files generalizing report world with
  | nil => exact ⟨world.store, by simp [writeAll], .nil⟩
  | cons file rest ih =>
      rcases file with ⟨path, text⟩
      obtain ⟨hpath, hpaths⟩ := List.forall_mem_cons.1 htakes
      obtain ⟨hfault, hfaults⟩ := List.forall_mem_cons.1 hsayable
      obtain ⟨next, hfirst, hplaced⟩ := writeFile_of_takes report hpath hfault
      -- the first file is in nobody's way, so the others can still be written
      have hstill : ∀ file ∈ rest, next.Takes file.1 := by
        intro file hmem
        have hahead := haside _ List.mem_cons_self _ (List.mem_cons_of_mem _ hmem)
        have hbehind := haside _ (List.mem_cons_of_mem _ hmem) _ List.mem_cons_self
        exact hplaced.takes_other hahead hbehind (hpaths file hmem)
      have hrestAside : ∀ file ∈ rest, ∀ other ∈ rest, file.1.place ∉ other.1.route :=
        fun file hfile other hother =>
          haside file (List.mem_cons_of_mem _ hfile) other (List.mem_cons_of_mem _ hother)
      obtain ⟨last, hrest, hall⟩ := @ih { report with written := report.written ++ [path] }
        { world with store := next } hstill hfaults hrestAside
      refine ⟨last, ?_, .cons hplaced hall⟩
      rw [writeAll, hfirst]
      simp only [hrest, List.map_cons, List.append_assoc, List.singleton_append]

/-- Each of the files that were all written is there in the end when those at its place have its
text. -/
theorem PlacedAll.readContents_of_mem {file : FilePath × String} (h : PlacedAll files store last)
    (hmem : file ∈ files)
    (htexts : ∀ other ∈ files, other.1.place = file.1.place → other.2 = file.2) :
    last.readContents file.1 = .ok (.text file.2) := by
  obtain ⟨other, hstands, hplace⟩ := exists_stands ⟨file, hmem, rfl⟩
  obtain ⟨hfits, hroute⟩ := h.way hmem
  have hlocate := (FileStore.locate_of_fits hfits).2 ⟨rfl, hroute⟩
  have hentry := h.entry_of_stands hstands
  rw [hplace, htexts other hstands.mem hplace] at hentry
  simp only [FileStore.readContents, hlocate, hentry]

/-- Files that were all written leave the same files in any order, when those at one place have one
text. -/
theorem PlacedAll.sameFiles_of_perm {last' : FileStore} (h : PlacedAll files store last)
    (h' : PlacedAll others store last') (hperm : files.Perm others)
    (htexts : ∀ file ∈ files, ∀ other ∈ files, file.1.place = other.1.place → file.2 = other.2) :
    last.SameFiles last' := by
  intro place contents
  by_cases hplaced : ∃ file ∈ files, file.1.place = place
  · -- a place of these files has the text of the last one there, which is the text of all
    have hplaced' : ∃ file ∈ others, file.1.place = place := by
      obtain ⟨file, hmem, hplace⟩ := hplaced
      exact ⟨file, hperm.mem_iff.1 hmem, hplace⟩
    obtain ⟨file, hstands, rfl⟩ := exists_stands hplaced
    obtain ⟨other, hstands', hplace⟩ := exists_stands hplaced'
    have htext := htexts file hstands.mem other (hperm.mem_iff.2 hstands'.mem) hplace.symm
    have hentry := h'.entry_of_stands hstands'
    rw [hplace] at hentry
    rw [h.entry_of_stands hstands, hentry, htext]
  · have hnot : place ∉ files.map (·.1.place) := by simpa using hplaced
    have hnot' : place ∉ others.map (·.1.place) :=
      fun hmem => hnot ((hperm.map _).mem_iff.2 hmem)
    rw [h.sameFilesApart place hnot, h'.sameFilesApart place hnot']

/-! ## What lasts -/

theorem keepsKinds_placeFile (path : FilePath) (text : String) (store : FileStore) :
    store.KeepsKinds (placeFile path text store).2 := by
  have hmade := (FileStore.extends_makeDirectories store path.parent).keepsKinds
  rw [placeFile]
  split
  next hmake =>
    rw [hmake] at hmade
    exact hmade
  next made hmake =>
    rw [hmake] at hmade
    exact hmade.trans (FileStore.keepsKinds_writeText made path text)

theorem keepsKinds_writeFile (path : FilePath) (text : String) (report : GenerationReport)
    (world : World) : world.store.KeepsKinds (writeFile path text report world).2.store := by
  have hplace := keepsKinds_placeFile path text world.store
  rw [writeFile]
  split
  next hwrite =>
    rw [hwrite] at hplace
    exact hplace
  next hwrite =>
    rw [hwrite] at hplace
    exact hplace
  next hwrite =>
    rw [hwrite] at hplace
    exact hplace

/-- No file becomes a directory and no directory a file, whatever becomes of the files. -/
theorem keepsKinds_writeAll (files : List (FilePath × String)) (report : GenerationReport)
    (world : World) : world.store.KeepsKinds (writeAll files report world).2.store := by
  induction files generalizing report world with
  | nil => exact (FileStore.Extends.refl world.store).keepsKinds
  | cons file rest ih =>
      rcases file with ⟨path, text⟩
      have hfirst := keepsKinds_writeFile path text report world
      rw [writeAll]
      split
      next hwrite =>
        rw [hwrite] at hfirst
        exact hfirst
      next hwrite =>
        rw [hwrite] at hfirst
        exact hfirst.trans (ih _ _)

/-- Where all files are gone through, the first one could be written. What it brings keeps its
kind. -/
theorem first_of_writeAll (htakes : world.store.Takes path)
    (h : writeAll ((path, text) :: files) report world = (.ok written, after)) :
    Surrogate.fault? text = none ∧
      ∃ next, Placed path text world.store next ∧ next.KeepsKinds after.store := by
  cases hfault : Surrogate.fault? text with
  | some fault =>
      obtain ⟨next, hplace⟩ := placeFile_of_fault htakes hfault
      rw [writeAll, writeFile, hplace] at h
      cases h
  | none =>
      obtain ⟨next, hwrite, hplaced⟩ := writeFile_of_takes report htakes hfault
      have hkinds := keepsKinds_writeAll files { report with written := report.written ++ [path] }
        { world with store := next }
      simp only [writeAll, hwrite] at h
      rw [h] at hkinds
      exact ⟨rfl, next, hplaced, hkinds⟩

theorem writeAll_append {between : GenerationReport} {middle : World}
    (h : writeAll files report world = (.ok between, middle)) :
    writeAll (files ++ others) report world = writeAll others between middle := by
  induction files generalizing report world with
  | nil =>
      cases h
      rfl
  | cons file rest ih =>
      rcases file with ⟨path, text⟩
      rw [List.cons_append, writeAll]
      rw [writeAll] at h
      rcases hfirst : writeFile path text report world with ⟨failure | first, next⟩
      · rw [hfirst] at h
        cases h
      · rw [hfirst] at h
        exact ih h

/-! ## Orders of libraries -/

/-- In whatever order its libraries are taken, a tree is written to the end and the same files are
left. -/
def OrderFree (tree : Tree) (version : String) (world : World) : Prop :=
  ∀ order, order.Perm tree.forest.libraries → ∃ report after,
    writeTreeIn order tree version world = (.ok report, after) ∧
      (writeTree tree version world).2.store.SameFiles after.store

/-- Two paths with different places, none of which is on the way to the other. -/
structure Apart (path other : FilePath) : Prop where
  place : path.place ≠ other.place
  ahead : path.place ∉ other.route
  behind : other.place ∉ path.route

/-- Each file of a tree could be written if it were the only one, and the exports are apart from the
definitions. -/
structure Room (tree : Tree) (version : String) (store : FileStore) : Prop where
  definitions : ∀ library ∈ tree.forest.libraries,
    store.Takes (definitionsPath tree.config version library)
  exports : store.Takes (exportsPath tree.config version)
  apart : ∀ library ∈ tree.forest.libraries,
    Apart (exportsPath tree.config version) (definitionsPath tree.config version library)

/-- The files of a tree do not get in each other's way. -/
structure Separable (tree : Tree) (version : String) (shown : String → String) : Prop where
  definitions : ∀ library ∈ tree.forest.libraries, Surrogate.fault? (shown library) = none
  exports : Surrogate.fault? (Exports.text tree.config none tree.forest) = none
  aside : ∀ library ∈ tree.forest.libraries, ∀ other ∈ tree.forest.libraries,
    (definitionsPath tree.config version library).place ∉
      (definitionsPath tree.config version other).route
  texts : ∀ library ∈ tree.forest.libraries, ∀ other ∈ tree.forest.libraries,
    (definitionsPath tree.config version library).place =
      (definitionsPath tree.config version other).place → shown library = shown other

theorem forall_mem_filesOf {P : FilePath × String → Prop} :
    (∀ file ∈ filesOf tree version (order.map fun library => (library, shown library)), P file) ↔
      (∀ library ∈ order, P (definitionsPath tree.config version library, shown library)) ∧
        P (exportsPath tree.config version, Exports.text tree.config none tree.forest) := by
  simp only [filesOf, definitionsFiles, List.forall_mem_append, List.forall_mem_map,
    List.forall_mem_singleton]

/-- Two libraries can be taken first, one and then the other. -/
theorem exists_perm_cons_cons {libraries : List String} {other : String}
    (hlibrary : library ∈ libraries) (hother : other ∈ libraries) (hne : library ≠ other) :
    ∃ rest, (library :: other :: rest).Perm libraries ∧
      (other :: library :: rest).Perm libraries := by
  have hlater : other ∈ libraries.erase library := (List.mem_erase_of_ne hne.symm).2 hother
  have hperm : (library :: other :: (libraries.erase library).erase other).Perm libraries :=
    ((List.perm_cons_erase hlater).symm.cons library).trans (List.perm_cons_erase hlibrary).symm
  exact ⟨_, hperm, (List.Perm.swap library other _).trans hperm⟩

section Orders

variable (hshown : ∀ library, Definitions.text tree.config (some library) tree.forest =
  .ok (shown library))
include hshown

/-- The files of a tree with its libraries in some order. -/
theorem writeTreeIn_of_perm (hperm : order.Perm tree.forest.libraries) (version : String)
    (world : World) :
    writeTreeIn order tree version world =
      writeAll (filesOf tree version (order.map fun library => (library, shown library)))
        (reportOn tree version) world :=
  writeTreeIn_eq_writeAll (hperm.nodup_iff.2 (Forest.nodup_libraries tree.forest))
    (fun library _ => hshown library) version world

variable (hroom : Room tree version world.store)
include hroom

/-- In any order all files are written when no text and no file stands in the way. -/
theorem writeTreeIn_placed (hperm : order.Perm tree.forest.libraries)
    (hdefinitions : ∀ library ∈ tree.forest.libraries, Surrogate.fault? (shown library) = none)
    (hexports : Surrogate.fault? (Exports.text tree.config none tree.forest) = none)
    (haside : ∀ library ∈ tree.forest.libraries, ∀ other ∈ tree.forest.libraries,
      (definitionsPath tree.config version library).place ∉
        (definitionsPath tree.config version other).route) :
    let files := filesOf tree version (order.map fun library => (library, shown library))
    ∃ last, writeTreeIn order tree version world =
        (.ok { reportOn tree version with written := files.map (·.1) },
          { world with store := last }) ∧
      PlacedAll files world.store last := by
  intro files
  have hlisted : ∀ library ∈ order, library ∈ tree.forest.libraries :=
    fun library hmem => hperm.mem_iff.1 hmem
  have htakes : ∀ file ∈ files, world.store.Takes file.1 :=
    forall_mem_filesOf.2
      ⟨fun library hmem => hroom.definitions library (hlisted library hmem), hroom.exports⟩
  have hsayable : ∀ file ∈ files, Surrogate.fault? file.2 = none :=
    forall_mem_filesOf.2
      ⟨fun library hmem => hdefinitions library (hlisted library hmem), hexports⟩
  have hways : ∀ file ∈ files, ∀ other ∈ files, file.1.place ∉ other.1.route := by
    refine forall_mem_filesOf.2 ⟨fun library hmem => ?_, ?_⟩
    · refine forall_mem_filesOf.2 ⟨fun other hother => ?_, ?_⟩
      · exact haside library (hlisted library hmem) other (hlisted other hother)
      · exact (hroom.apart library (hlisted library hmem)).behind
    · refine forall_mem_filesOf.2 ⟨fun other hother => ?_, hroom.exports.apart⟩
      exact (hroom.apart other (hlisted other hother)).ahead
  rw [writeTreeIn_of_perm hshown hperm]
  exact writeAll_of_takes htakes hsayable hways

omit hshown in
/-- Separable files with one place have one text, the exports included, which share their place with
none of the definitions. -/
theorem Separable.texts_filesOf (h : Separable tree version shown)
    (hperm : order.Perm tree.forest.libraries) :
    let files := filesOf tree version (order.map fun library => (library, shown library))
    ∀ file ∈ files, ∀ other ∈ files, file.1.place = other.1.place → file.2 = other.2 := by
  refine forall_mem_filesOf.2 ⟨fun library hlibrary => forall_mem_filesOf.2 ⟨?_, ?_⟩,
    forall_mem_filesOf.2 ⟨?_, fun _ => rfl⟩⟩
  · intro other hother hplace
    exact h.texts library (hperm.mem_iff.1 hlibrary) other (hperm.mem_iff.1 hother) hplace
  · exact fun hplace => absurd hplace.symm (hroom.apart library (hperm.mem_iff.1 hlibrary)).place
  · exact fun other hother hplace =>
      absurd hplace (hroom.apart other (hperm.mem_iff.1 hother)).place

/-- Separable files are all written in every order, and each of them is there in the end. -/
theorem written_of_separable (h : Separable tree version shown)
    (hperm : order.Perm tree.forest.libraries) :
    let files := filesOf tree version (order.map fun library => (library, shown library))
    ∃ last, writeTreeIn order tree version world =
        (.ok { reportOn tree version with written := files.map (·.1) },
          { world with store := last }) ∧
      ∀ file ∈ files, last.readContents file.1 = .ok (.text file.2) := by
  obtain ⟨last, hwrite, hplaced⟩ := writeTreeIn_placed hshown hroom hperm
    h.definitions h.exports h.aside
  refine ⟨last, hwrite, fun file hmem => hplaced.readContents_of_mem hmem ?_⟩
  exact fun other hother => h.texts_filesOf hroom hperm other hother file hmem

/-- Separable files are left in every order. -/
theorem orderFree_of_separable (h : Separable tree version shown) :
    OrderFree tree version world := by
  obtain ⟨base, hbase, hplaced⟩ := writeTreeIn_placed hshown hroom (List.Perm.refl _)
    h.definitions h.exports h.aside
  intro order hperm
  obtain ⟨last, hlast, hplaced'⟩ := writeTreeIn_placed hshown hroom hperm
    h.definitions h.exports h.aside
  refine ⟨_, { world with store := last }, hlast, ?_⟩
  rw [writeTree_eq_writeTreeIn, hbase]
  refine hplaced.sameFiles_of_perm hplaced' ?_ (h.texts_filesOf hroom (List.Perm.refl _))
  exact ((hperm.symm.map _).map _).append_right _

namespace OrderFree

variable (hfree : OrderFree tree version world)
include hfree

/-- Each library may be the first one, and then its text has to be written. -/
theorem definitions (hlibrary : library ∈ tree.forest.libraries) :
    Surrogate.fault? (shown library) = none := by
  have hperm : (library :: tree.forest.libraries.erase library).Perm tree.forest.libraries :=
    (List.perm_cons_erase hlibrary).symm
  obtain ⟨report, after, hwrite, -⟩ := hfree _ hperm
  rw [writeTreeIn_of_perm hshown hperm] at hwrite
  exact (first_of_writeAll (hroom.definitions library hlibrary) hwrite).1

/-- Of two libraries each may be the first one. If the file of one is on the way to the other, there
is a file in one order and a directory in the other. -/
theorem aside {other : String} (hlibrary : library ∈ tree.forest.libraries)
    (hother : other ∈ tree.forest.libraries) :
    (definitionsPath tree.config version library).place ∉
      (definitionsPath tree.config version other).route := by
  intro hway
  have hne : library ≠ other := by
    rintro rfl
    exact (hroom.definitions library hlibrary).apart hway
  obtain ⟨rest, hperm, hswapped⟩ := exists_perm_cons_cons hlibrary hother hne
  obtain ⟨report, after, hwrite, hsame⟩ := hfree _ hperm
  obtain ⟨report', after', hwrite', hsame'⟩ := hfree _ hswapped
  rw [writeTreeIn_of_perm hshown hperm] at hwrite
  rw [writeTreeIn_of_perm hshown hswapped] at hwrite'
  have hfile : ∃ contents,
      after.store.entry? (definitionsPath tree.config version library).place =
        some (.file contents) := by
    obtain ⟨-, next, hplaced, hkinds⟩ :=
      first_of_writeAll (hroom.definitions library hlibrary) hwrite
    obtain ⟨kept, hkept, hkind⟩ := hkinds _ _ hplaced.file
    cases kept with
    | directory => exact absurd (hkind.1 rfl) (by simp)
    | file contents => exact ⟨contents, hkept⟩
  have hdirectory : after'.store.entry? (definitionsPath tree.config version library).place =
      some .directory := by
    obtain ⟨-, next, hplaced, hkinds⟩ :=
      first_of_writeAll (hroom.definitions other hother) hwrite'
    obtain ⟨kept, hkept, hkind⟩ := hkinds _ _ (hplaced.route _ hway)
    rw [hkind.2 rfl] at hkept
    exact hkept
  obtain ⟨contents, hfound⟩ := hfile
  rw [hsame _ _, ← hsame' _ _, hdirectory] at hfound
  cases hfound

/-- The exports come last, when all definitions are there. -/
theorem exports : Surrogate.fault? (Exports.text tree.config none tree.forest) = none := by
  obtain ⟨report, after, hwrite, -⟩ := hfree _ (List.Perm.refl _)
  rw [writeTreeIn_of_perm hshown (List.Perm.refl _)] at hwrite
  let definitions := definitionsFiles tree.config version
    (tree.forest.libraries.map fun library => (library, shown library))
  have hall : ∀ {P : FilePath × String → Prop},
      (∀ library ∈ tree.forest.libraries,
        P (definitionsPath tree.config version library, shown library)) →
          ∀ file ∈ definitions, P file :=
    fun h => List.forall_mem_map.2 (List.forall_mem_map.2 h)
  have hways : ∀ file ∈ definitions, ∀ other ∈ definitions, file.1.place ∉ other.1.route :=
    hall fun library hlibrary => hall fun other hother =>
      hfree.aside hshown hroom hlibrary hother
  obtain ⟨last, hdefinitions, hplaced⟩ := @writeAll_of_takes definitions (reportOn tree version)
    world (hall hroom.definitions)
    (hall fun library hlibrary => hfree.definitions hshown hroom hlibrary) hways
  have htakes : last.Takes (exportsPath tree.config version) := by
    refine hplaced.takes_other ?_ hroom.exports
    exact hall fun library hlibrary =>
      ⟨(hroom.apart library hlibrary).behind, (hroom.apart library hlibrary).ahead⟩
  rw [filesOf, writeAll_append hdefinitions] at hwrite
  exact (first_of_writeAll htakes hwrite).1

/-- Each library may be the last one, and then its text is left. -/
theorem left (hlibrary : library ∈ tree.forest.libraries) :
    (writeTree tree version world).2.store.entry?
        (definitionsPath tree.config version library).place =
      some (.file (.text (shown library))) := by
  have hperm : (tree.forest.libraries.erase library ++ [library]).Perm tree.forest.libraries :=
    (List.perm_append_singleton _ _).trans (List.perm_cons_erase hlibrary).symm
  obtain ⟨last, hwrite, hplaced⟩ := writeTreeIn_placed hshown hroom hperm
    (fun _ hlibrary => hfree.definitions hshown hroom hlibrary) (hfree.exports hshown hroom)
    (fun _ hlibrary _ hother => hfree.aside hshown hroom hlibrary hother)
  obtain ⟨report', after, hwrite', hsame⟩ := hfree _ hperm
  have hstands : Stands (filesOf tree version ((tree.forest.libraries.erase library ++
      [library]).map fun library => (library, shown library)))
        (definitionsPath tree.config version library, shown library) := by
    refine ⟨definitionsFiles tree.config version
      ((tree.forest.libraries.erase library).map fun library => (library, shown library)),
      [(exportsPath tree.config version, Exports.text tree.config none tree.forest)], ?_, ?_⟩
    · simp [filesOf, definitionsFiles]
    · exact List.forall_mem_singleton.2 (hroom.apart library hlibrary).place
  have hentry := hplaced.entry_of_stands hstands
  rw [hwrite', Prod.mk.injEq] at hwrite
  rw [hwrite.2] at hsame
  exact (hsame _ _).1 hentry

theorem separable : Separable tree version shown where
  definitions := fun _ hlibrary => hfree.definitions hshown hroom hlibrary
  exports := hfree.exports hshown hroom
  aside := fun _ hlibrary _ hother => hfree.aside hshown hroom hlibrary hother
  texts := by
    intro library hlibrary other hother hplace
    have hleft := hfree.left hshown hroom hlibrary
    rw [hplace, hfree.left hshown hroom hother] at hleft
    simpa using hleft.symm

end OrderFree

/-- Where each file could be written alone, the order of the libraries makes no difference exactly
when their files do not get in each other's way. -/
theorem orderFree_iff_separable : OrderFree tree version world ↔ Separable tree version shown :=
  ⟨fun hfree => hfree.separable hshown hroom, orderFree_of_separable hshown hroom⟩

end Orders

/-! ## The tree of documents -/

/-- The tree of any documents has one text for each library. It is what is rendered at first, and
what is rendered after any operations on other libraries. A generation takes its libraries in one
order, and in any order it writes files with these texts, of which the last one at each place is
there in the end. Where each file could be written alone, the files that are left do not depend on
the order exactly when no file gets in the way of another. -/
theorem definitions_undisturbed (config : Config) (documents : List Document) :
    let tree := (Tree.ofDocuments config documents).reconcile
    ∃ shown : String → String,
      (∀ library, (Session.reconciled tree).definitions (some library) = .ok (shown library)) ∧
      (∀ library operations, (∀ operation ∈ operations, operation.Spares library) →
        ((Session.reconciled tree).afterAll operations).definitions (some library) =
          .ok (shown library)) ∧
      (∀ version world,
        writeTree tree version world = writeTreeIn tree.forest.libraries tree version world) ∧
      (∀ order, order.Perm tree.forest.libraries → ∀ version world,
        let files := filesOf tree version (order.map fun library => (library, shown library))
        writeTreeIn order tree version world = writeAll files (reportOn tree version) world ∧
        ∀ written after, writeTreeIn order tree version world = (.ok written, after) →
          written.issues = [] → ∀ file, Stands files file →
            after.store.readContents file.1 = .ok (.text file.2)) ∧
      ∀ version world, Room tree version world.store →
        (OrderFree tree version world ↔ Separable tree version shown) ∧
        (Separable tree version shown → ∀ order, order.Perm tree.forest.libraries →
          let files := filesOf tree version (order.map fun library => (library, shown library))
          ∃ last, writeTreeIn order tree version world =
              (.ok { reportOn tree version with written := files.map (·.1) },
                { world with store := last }) ∧
            ∀ file ∈ files, last.readContents file.1 = .ok (.text file.2)) := by
  intro tree
  have hrendered : ∀ library, Succeeds (Definitions.text tree.config (some library) tree.forest) :=
    fun library => Definitions.succeeds_text _ _ (Tree.declarable_reconcile config documents)
  choose shown hshown using hrendered
  have hfresh : ∀ library,
      (Session.reconciled tree).definitions (some library) = .ok (shown library) :=
    fun library => congrArg (Except.mapError SessionError.unsupportedKind) (hshown library)
  refine ⟨shown, hfresh, ?_, writeTree_eq_writeTreeIn tree, ?_, ?_⟩
  · intro library operations hspares
    rw [Session.definitions_of_spares hspares, hfresh]
  · intro order hperm version world files
    have hwrites : writeTreeIn order tree version world =
        writeAll files (reportOn tree version) world :=
      writeTreeIn_of_perm hshown hperm version world
    refine ⟨hwrites, ?_⟩
    intro written after h hissues file hstands
    rw [hwrites] at h
    exact (writeAll_succeeded h hissues).1.readContents hstands
  · intro version world hroom
    refine ⟨orderFree_iff_separable hshown hroom, ?_⟩
    intro hseparable order hperm
    exact written_of_separable hshown hroom hseparable hperm

/-! ## Two libraries -/

/-- A library with a class that is made from a text, from an object, or from both. -/
def pairLibrary (library name : String) : Document where
  library := library
  version := "1"
  symbols :=
    [{ heading :=
        { name := name, basename := name, visibility := .isPublic, moduleName := none
          resource := none, description := "" }
       content := .classType none [] false
        (some
          { visibility := .isPublic, description := ""
            parameters :=
              [Session.optionalParameter "a" "string", Session.optionalParameter "b" "object"] })
        { methods := [], properties := [], events := [] } }]

/-- Two libraries, each with a class whose constructor is widened when it is rendered. -/
def pairs : Tree :=
  (Tree.ofDocuments {} [pairLibrary "x" "A", pairLibrary "y" "B"]).reconcile

theorem libraries_pairs : pairs.forest.libraries = ["x", "y"] := by
  decide +kernel

theorem takes_of_placed (h : (placeFile path text store).1 = .ok ()) : store.Takes path := by
  have hplace : placeFile path text store = (.ok (), (placeFile path text store).2) :=
    Prod.ext h rfl
  exact (placed_of_placeFile hplace).takes

theorem room_pairs : Room pairs "1" {} where
  definitions := by
    have hall : ∀ library ∈ ["x", "y"],
        (placeFile (definitionsPath {} "1" library) "" {}).1 = .ok () := by
      decide +kernel
    rw [libraries_pairs]
    exact fun library hlibrary => takes_of_placed (hall library hlibrary)
  exports := by
    have hplace : (placeFile (exportsPath {} "1") "" {}).1 = .ok () := by
      decide +kernel
    exact takes_of_placed hplace
  apart := by
    have hall : ∀ library ∈ ["x", "y"],
        (exportsPath {} "1").place ≠ (definitionsPath {} "1" library).place ∧
        (exportsPath {} "1").place ∉ (definitionsPath {} "1" library).route ∧
        (definitionsPath {} "1" library).place ∉ (exportsPath {} "1").route := by
      decide +kernel
    rw [libraries_pairs]
    intro library hlibrary
    obtain ⟨hplace, hahead, hbehind⟩ := hall library hlibrary
    exact ⟨hplace, hahead, hbehind⟩

theorem separable_pairs {shown : String → String}
    (hfresh : ∀ library, (Session.reconciled pairs).definitions (some library) =
      .ok (shown library)) : Separable pairs "1" shown where
  definitions := by
    have hall : ∀ library ∈ ["x", "y"],
        ((Session.reconciled pairs).definitions (some library)).toOption.bind Surrogate.fault? =
          none := by
      decide +kernel
    rw [libraries_pairs]
    intro library hlibrary
    have hnone := hall library hlibrary
    rw [hfresh] at hnone
    exact hnone
  exports := by
    decide +kernel
  aside := by
    have hall : ∀ library ∈ ["x", "y"], ∀ other ∈ ["x", "y"],
        (definitionsPath {} "1" library).place ∉ (definitionsPath {} "1" other).route := by
      decide +kernel
    rw [libraries_pairs]
    exact hall
  texts := by
    have hnodup : (["x", "y"].map fun library => (definitionsPath {} "1" library).place).Nodup := by
      decide +kernel
    rw [libraries_pairs]
    intro library hlibrary other hother hplace
    rw [List.inj_on_of_nodup_map hnodup hlibrary hother hplace]

/-- Rendering the second library changes its own class and leaves the definitions of the first one
as they are. The second one may be written first. -/
theorem definitions_undisturbed_pairs :
    let others : List Session.Operation := [.definitions (some "y"), .exports none]
    (∀ operation ∈ others, operation.Spares "x") ∧
      (Session.reconciled pairs).changes others = 1 ∧
      ["y", "x"].Perm pairs.forest.libraries ∧ Room pairs "1" {} ∧
      ∃ shown : String → String,
        ((Session.reconciled pairs).afterAll others).definitions (some "x") = .ok (shown "x") ∧
        Separable pairs "1" shown ∧ OrderFree pairs "1" {} ∧
        let files := filesOf pairs "1" [("y", shown "y"), ("x", shown "x")]
        ∃ last, writeTreeIn ["y", "x"] pairs "1" {} =
            (.ok { reportOn pairs "1" with written := files.map (·.1) }, { store := last }) ∧
          ∀ file ∈ files, last.readContents file.1 = .ok (.text file.2) := by
  intro others
  have hspares : ∀ operation ∈ others, operation.Spares "x" := by
    simp [others, Session.Operation.Spares]
  have hchanges : (Session.reconciled pairs).changes others = 1 := by
    decide +kernel
  have hperm : ["y", "x"].Perm pairs.forest.libraries := by
    rw [libraries_pairs]
    exact .swap ..
  obtain ⟨shown, hfresh, hothers, -, -, horders⟩ :=
    definitions_undisturbed {} [pairLibrary "x" "A", pairLibrary "y" "B"]
  have hseparable : Separable pairs "1" shown := separable_pairs hfresh
  obtain ⟨hfree, hwritten⟩ := horders "1" {} room_pairs
  exact ⟨hspares, hchanges, hperm, room_pairs, shown, hothers "x" others hspares, hseparable,
    hfree.2 hseparable, hwritten hseparable ["y", "x"] hperm⟩

/-! ## Two spellings of one path -/

/-- A library with an enumeration that has no members. -/
def enumerationLibrary (library name : String) : Document where
  library := library
  version := "1"
  symbols :=
    [{ heading :=
        { name := name, basename := name, visibility := .isPublic, moduleName := none
          resource := none, description := "" }
       content := .enumeration [] }]


/-- Two libraries whose names spell one path. -/
def spellings : Tree :=
  (Tree.ofDocuments {} [enumerationLibrary "a" "A", enumerationLibrary "./a" "B"]).reconcile

/-- Both libraries are written to one file, which is left with the definitions of the one that comes
second. -/
theorem spellings_depend_on_order :
    let path := definitionsPath {} "1" "a"
    let given := writeTreeIn ["a", "./a"] spellings "1" {}
    let swapped := writeTreeIn ["./a", "a"] spellings "1" {}
    spellings.forest.libraries = ["a", "./a"] ∧
      given.1.toOption.map (·.issues) = some [] ∧ swapped.1.toOption.map (·.issues) = some [] ∧
      given.2.store.readContents path = .ok (.text "declare enum B \x7b\n\x7d\n") ∧
      swapped.2.store.readContents path = .ok (.text "declare enum A \x7b\n\x7d\n") ∧
      ¬ OrderFree spellings "1" {} := by
  intro path given swapped
  have hlibraries : spellings.forest.libraries = ["a", "./a"] := by
    decide +kernel
  refine ⟨hlibraries, ?_, ?_, ?_, ?_, ?_⟩
  · decide +kernel
  · decide +kernel
  · decide +kernel
  · decide +kernel
  · intro hfree
    have hperm : ["./a", "a"].Perm spellings.forest.libraries := by
      rw [hlibraries]
      exact .swap ..
    obtain ⟨report, after, hwrite, hsame⟩ := hfree ["./a", "a"] hperm
    have hgiven : (writeTree spellings "1" {}).2.store.entry? path.place =
        some (.file (.text "declare enum B \x7b\n\x7d\n")) := by
      decide +kernel
    have hswapped : (writeTreeIn ["./a", "a"] spellings "1" {}).2.store.entry? path.place =
        some (.file (.text "declare enum A \x7b\n\x7d\n")) := by
      decide +kernel
    have hleft := (hsame _ _).2 hgiven
    rw [hwrite] at hswapped
    rw [hswapped] at hleft
    exact absurd hleft (by decide)

end Generation
end Typings
