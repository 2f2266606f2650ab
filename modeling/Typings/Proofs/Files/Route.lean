import Typings.Files.Store

/-!
# Routes through a file store

Where a path leads does not depend on the files: its place is written in its parts. What depends
on them is whether the places on the way are directories.

* `FilePath.place`, `FilePath.route`: the place of a path, and the places passed on the way to it;
* `FilePath.Fits`: a path that a file system takes;
* `FileStore.locate_eq_ok_iff`: a path is found when the places on its route are directories.
-/

namespace Typings

/-! ## Places -/

namespace Place

/-- The test of two places for equality decides it. -/
instance lawfulBEq : LawfulBEq Place := inferInstance

/-- The place that a name leads to. -/
def enter (place : Place) (name : String) : Place :=
  if name = ".." then place.dropLast else place ++ [name]

/-- The place that names lead to. -/
def walk (place : Place) (names : List String) : Place :=
  names.foldl enter place

/-- The places in which names are looked up, one after the other. -/
def passed (place : Place) : List String → List Place
  | [] => []
  | name :: names => place :: passed (enter place name) names

theorem passed_append (place : Place) (front back : List String) :
    passed place (front ++ back) = passed place front ++ passed (walk place front) back := by
  induction front generalizing place with
  | nil => rfl
  | cons name names ih => simp [passed, walk, ih]

end Place

namespace FilePath

/-- The place at which a path starts. -/
def start (path : FilePath) : Place :=
  if path.anchor = .relative then FileStore.workingDirectory else []

/-- The place of a path, whatever files there are. -/
def place (path : FilePath) : Place :=
  Place.walk path.start path.parts

/-- The places passed on the way to the place of a path. -/
def route (path : FilePath) : List Place :=
  Place.passed path.start path.parts

/-- A path that a file system takes: neither it nor a name in it is too long, and it can be handed
over. -/
structure Fits (path : FilePath) : Prop where
  handedOver : path.obstacle? = none
  pathBytes : Surrogate.byteSize path.toString ≤ FileStore.maxPathBytes
  nameBytes : ∀ name ∈ path.parts, Surrogate.byteSize name ≤ FileStore.maxNameBytes

/-- The route of a path leads through its parent. -/
theorem route_eq_parent {path : FilePath} (hparts : path.parts ≠ []) :
    path.route = path.parent.route ++ [path.parent.place] := by
  have hlast := List.dropLast_concat_getLast hparts
  rw [route, ← hlast, Place.passed_append]
  rfl

/-! ## Parents -/

/-- Nothing keeps a path from being handed over when this holds of each of its characters. -/
def IsPlain (c : Char) : Prop :=
  Surrogate.code? c = none ∧ c ≠ '\x00'

theorem obstacle?_eq_none_iff {path : FilePath} :
    path.obstacle? = none ↔ ∀ c ∈ path.toString.toList, IsPlain c := by
  have hobstacle : path.obstacle? = none ↔ Surrogate.fault? path.toString = none ∧
      '\x00' ∉ path.toString.toList := by
    rw [obstacle?]
    cases Surrogate.fault? path.toString <;> simp
  rw [hobstacle, Surrogate.fault?_eq_none_iff]
  constructor
  · rintro ⟨hcodes, hnull⟩ c hc
    refine ⟨hcodes c hc, ?_⟩
    rintro rfl
    exact hnull hc
  · intro h
    exact ⟨fun c hc => (h c hc).1, fun hnull => (h _ hnull).2 rfl⟩

/-- The text of a path begins with that of its parent, unless that is where the path starts. -/
theorem toString_parent (path : FilePath) :
    path.parent.toString = "." ∨ ∃ name, path.toString = path.parent.toString ++ name := by
  rcases path with ⟨anchor, parts⟩
  rcases List.eq_nil_or_concat parts with rfl | ⟨front, last, rfl⟩
  · exact Or.inr ⟨"", by simp [parent]⟩
  · rw [List.concat_eq_append]
    rcases front with _ | ⟨first, others⟩
    · cases anchor
      · exact Or.inl rfl
      · exact Or.inr ⟨last, by simp [parent, toString]⟩
      · exact Or.inr ⟨last, by simp [parent, toString]⟩
    · have hjoined : "/".intercalate (first :: others ++ [last]) =
          "/".intercalate (first :: others) ++ "/" ++ last := by
        rw [String.intercalate_append_of_ne_nil (by simp) (by simp), String.intercalate_singleton]
      have hparent : (first :: others ++ [last]).dropLast = first :: others :=
        List.dropLast_concat
      refine Or.inr ⟨"/" ++ last, ?_⟩
      simp only [parent, hparent]
      cases anchor <;> simp only [toString, hjoined] <;> simp [String.append_assoc]

theorem Fits.parent {path : FilePath} (h : path.Fits) : path.parent.Fits := by
  rcases h with ⟨hhanded, hpath, hnames⟩
  rw [obstacle?_eq_none_iff] at hhanded
  have hparentNames : ∀ name ∈ path.parent.parts, Surrogate.byteSize name ≤ FileStore.maxNameBytes :=
    fun name hname => hnames name (List.dropLast_subset _ hname)
  rcases toString_parent path with hdot | ⟨name, hname⟩
  · refine ⟨?_, by rw [hdot]; decide, hparentNames⟩
    rw [obstacle?_eq_none_iff, hdot]
    intro c hc
    rw [show c = '.' by simpa using hc]
    exact ⟨by decide, by decide⟩
  · rw [hname] at hhanded hpath
    refine ⟨?_, ?_, hparentNames⟩
    · rw [obstacle?_eq_none_iff]
      intro c hc
      exact hhanded c (by simp [hc])
    · rw [Surrogate.byteSize_append] at hpath
      omega

end FilePath

/-! ## Locating -/

namespace FileStore

variable {store : FileStore} {path : FilePath} {place : Place}

theorem follow_eq_ok_iff {start : Place} {names : List String} :
    store.follow start names = .ok place ↔
      place = Place.walk start names ∧
        (∀ passed ∈ Place.passed start names, store.entry? passed = some .directory) ∧
        ∀ name ∈ names, Surrogate.byteSize name ≤ maxNameBytes := by
  induction names generalizing start with
  | nil => simp [follow, Place.walk, Place.passed, eq_comm]
  | cons name names ih =>
      rw [follow, Place.passed, List.forall_mem_cons, List.forall_mem_cons]
      split
      next hdirectory =>
        split
        next hlong =>
          simp
          omega
        next hshort =>
          rw [ih]
          simp [hdirectory, Nat.le_of_not_lt hshort, Place.walk, Place.enter]
      next contents hfile => simp [hfile]
      next hmissing => simp [hmissing]

theorem locate_eq_ok_iff :
    store.locate path = .ok place ↔
      place = path.place ∧ Surrogate.byteSize path.toString ≤ maxPathBytes ∧
        (∀ passed ∈ path.route, store.entry? passed = some .directory) ∧
        ∀ name ∈ path.parts, Surrogate.byteSize name ≤ maxNameBytes := by
  rw [locate]
  split
  · simp
    omega
  next hshort =>
    rw [follow_eq_ok_iff]
    simp [Nat.le_of_not_lt hshort, FilePath.place, FilePath.route, FilePath.start]

/-- A path that fits is found when the places on its route are directories. -/
theorem locate_of_fits (h : path.Fits) :
    store.locate path = .ok place ↔
      place = path.place ∧ ∀ passed ∈ path.route, store.entry? passed = some .directory := by
  rw [locate_eq_ok_iff]
  constructor
  · rintro ⟨hplace, -, hroute, -⟩
    exact ⟨hplace, hroute⟩
  · rintro ⟨hplace, hroute⟩
    exact ⟨hplace, h.pathBytes, hroute, h.nameBytes⟩

theorem locate_ne_nameTooLong (h : path.Fits) : store.locate path ≠ .error .nameTooLong := by
  have hfollow : ∀ (names : List String) (start : Place),
      (∀ name ∈ names, Surrogate.byteSize name ≤ maxNameBytes) →
        store.follow start names ≠ .error .nameTooLong := by
    intro names
    induction names with
    | nil => simp [follow]
    | cons name names ih =>
        intro start hnames
        rcases List.forall_mem_cons.1 hnames with ⟨hname, hothers⟩
        rw [follow]
        split
        · rw [if_neg (Nat.not_lt_of_le hname)]
          exact ih _ hothers
        · simp
        · simp
  rw [locate, if_neg (Nat.not_lt_of_le h.pathBytes)]
  exact hfollow path.parts path.start h.nameBytes

/-- Of a path that fits it can be said whether there is an entry. -/
theorem pathExists_of_fits (h : path.Fits) :
    store.pathExists path = .ok true ∨ store.pathExists path = .ok false := by
  rw [pathExists, h.handedOver, if_neg (by simp)]
  split
  next place _ =>
    cases (store.entry? place).isSome
    · exact Or.inr rfl
    · exact Or.inl rfl
  next hlong => exact absurd hlong (locate_ne_nameTooLong h)
  · exact Or.inr rfl

/-- There is an entry at a path when the path fits and leads through directories to one. -/
theorem pathExists_eq_true_iff :
    store.pathExists path = .ok true ↔
      path.Fits ∧ (∀ passed ∈ path.route, store.entry? passed = some .directory) ∧
        (store.entry? path.place).isSome = true := by
  rw [pathExists]
  split
  next hobstacle =>
    have hnot : ¬ path.Fits := by
      intro hfits
      rw [hfits.handedOver] at hobstacle
      cases hobstacle
    simp [hnot]
  next hhanded =>
    have hnone : path.obstacle? = none := by simpa using hhanded
    have hlocate : ∀ {problem}, store.locate path = .error problem →
        ¬ (path.Fits ∧ (∀ passed ∈ path.route, store.entry? passed = some .directory) ∧
          (store.entry? path.place).isSome = true) := by
      rintro problem herror ⟨hfits, hroute, -⟩
      rw [(locate_of_fits hfits).2 ⟨rfl, hroute⟩] at herror
      cases herror
    split
    next place hfound =>
      rcases locate_eq_ok_iff.1 hfound with ⟨rfl, hbytes, hroute, hnames⟩
      have hfits : path.Fits := ⟨hnone, hbytes, hnames⟩
      constructor
      · intro h
        exact ⟨hfits, hroute, by simpa using h⟩
      · rintro ⟨-, -, hentry⟩
        simpa using hentry
    next herror => simpa using hlocate herror
    next problem _ herror => simpa using hlocate herror

end FileStore
end Typings
