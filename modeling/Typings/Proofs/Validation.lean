import Mathlib.Data.List.Basic
import Typings.Table
import Typings.Validation

/-!
# Checks that accept

What a check makes of values that it accepts, and what is known about a value that was accepted.

* `Json.asList_map`: a list is accepted when each of its items is;
* `Fields.find?_append_of_front`, `Fields.find?_append_of_back`: other fields do not matter;
* `Checked.seq_eq_accepted`, `Fields.optional_eq_accepted`, `Json.asList_eq_accepted`: what an
  accepted value was made of.
-/

namespace Typings

/-! ## Checks that accept -/

namespace Checked

variable {α β : Type}

@[simp] theorem map_accepted (f : α → β) (value : α) :
    f <$> Checked.accepted value = .accepted (f value) := rfl

@[simp] theorem seq_accepted (f : α → β) (value : α) :
    Checked.accepted f <*> Checked.accepted value = .accepted (f value) := rfl

@[simp] theorem within_accepted (step : String) (value : α) :
    (Checked.accepted value).within step = .accepted value := rfl

end Checked

namespace Fields

variable {fields others : Fields}

theorem lookup_eq_none_of_not_mem {name : String} (h : name ∉ Table.keys fields) :
    List.lookup name fields = none := by
  rw [List.lookup_eq_none_iff]
  intro field hmem
  have hne : name ≠ field.1 := by
    rintro rfl
    exact h (List.mem_map.2 ⟨field, hmem, rfl⟩)
  simpa using hne

/-- Fields in front are passed over when none of them has the name. -/
theorem find?_append_of_front {name : String} (h : name ∉ Table.keys others) :
    Fields.find? (others ++ fields) (plainName name) = Fields.find? fields (plainName name) := by
  simp only [Fields.find?, plainName, List.lookup_append, lookup_eq_none_of_not_mem h,
    Option.none_or]

/-- So are fields behind. -/
theorem find?_append_of_back {name : String} (h : name ∉ Table.keys others) :
    Fields.find? (fields ++ others) (plainName name) = Fields.find? fields (plainName name) := by
  simp only [Fields.find?, plainName, List.lookup_append, lookup_eq_none_of_not_mem h,
    Option.or_none]

end Fields

namespace Json

variable {α β : Type} {check : Json → Checked β} (write : α → Json) (result : α → β)

/-- A list is accepted when its items are, wherever they stand. -/
theorem checkItems_map (items : List α) (position : Nat)
    (h : ∀ item ∈ items, check (write item) = .accepted (result item)) :
    checkItems check position (items.map write) = .accepted (items.map result) := by
  induction items generalizing position with
  | nil => rfl
  | cons item items ih =>
      have hitem := h item List.mem_cons_self
      have hitems := ih (position + 1) fun other hmem => h other (List.mem_cons_of_mem item hmem)
      simp [checkItems, hitem, hitems]

theorem asList_map (items : List α)
    (h : ∀ item ∈ items, check (write item) = .accepted (result item)) :
    asList check (.arr (items.map write)) = .accepted (items.map result) :=
  checkItems_map write result items 0 h

theorem asTable_accepted (entries : List (String × Json)) :
    asTable .accepted (.obj entries) = .accepted entries := by
  rw [asTable]
  induction entries with
  | nil => rfl
  | cons entry entries ih =>
      rcases entry with ⟨key, value⟩
      simp [checkEntries, ih]

/-- A value that is there is accepted as one. -/
theorem asOptional_obj {fields : List (String × Json)} {result : β}
    (h : check (.obj fields) = .accepted result) :
    asOptional check (.obj fields) = .accepted (some result) := by
  rw [asOptional, h]
  · rfl
  · intro hnull
    cases hnull

@[simp] theorem asOptional_asText (text : String) :
    asOptional asText (.str text) = .accepted (some text) := rfl

end Json

/-! ## Accepted values -/

section Accepted

variable {α β : Type}

theorem Checked.seq_eq_accepted {f : Checked (α → β)} {checked : Checked α} {result : β}
    (h : f <*> checked = .accepted result) :
    ∃ g value, f = .accepted g ∧ checked = .accepted value ∧ g value = result := by
  cases f with
  | accepted g =>
      cases checked with
      | accepted value =>
          cases h
          exact ⟨g, value, rfl, rfl, rfl⟩
      | rejected issues => cases h
  | rejected issues => cases checked <;> cases h

theorem Checked.map_eq_accepted {f : α → β} {checked : Checked α} {result : β}
    (h : f <$> checked = .accepted result) :
    ∃ value, checked = .accepted value ∧ f value = result := by
  cases checked with
  | accepted value =>
      cases h
      exact ⟨value, rfl, rfl⟩
  | rejected issues => cases h

theorem Checked.within_eq_accepted {step : String} {checked : Checked α} {result : α}
    (h : checked.within step = .accepted result) : checked = .accepted result := by
  cases checked with
  | accepted value => exact h
  | rejected issues => cases h

variable {check : Json → Checked α} {value : Json} {fields : Fields} {field : FieldName}

theorem Fields.mem_of_lookup {name : String} (h : List.lookup name fields = some value) :
    (name, value) ∈ fields := by
  rcases List.lookup_eq_some_iff.1 h with ⟨front, back, rfl, -⟩
  simp

theorem Fields.mem_of_find? {found : String × Json} (h : Fields.find? fields field = some found) :
    found ∈ fields := by
  rw [Fields.find?] at h
  split at h
  next value hlookup =>
    cases h
    exact Fields.mem_of_lookup hlookup
  · rcases Option.map_eq_some_iff.1 h with ⟨value, hlookup, rfl⟩
    exact Fields.mem_of_lookup hlookup

/-- An optional field is absent, or it holds a value that is accepted. -/
theorem Fields.optional_eq_accepted {absent result : α}
    (h : Fields.optional fields field absent check = .accepted result) :
    result = absent ∨ ∃ found ∈ fields, check found.2 = .accepted result := by
  rw [Fields.optional] at h
  split at h
  next key value hfind =>
    exact Or.inr ⟨(key, value), Fields.mem_of_find? hfind, Checked.within_eq_accepted h⟩
  · cases h
    exact Or.inl rfl

/-- What is accepted from a list comes from its items. -/
theorem Json.asList_eq_accepted {results : List α}
    (h : Json.asList check value = .accepted results) :
    ∃ items, value = .arr items ∧
      ∀ result ∈ results, ∃ item ∈ items, check item = .accepted result := by
  have hitems : ∀ (items : List Json) (position : Nat) (results : List α),
      Json.checkItems check position items = .accepted results →
        ∀ result ∈ results, ∃ item ∈ items, check item = .accepted result := by
    intro items
    induction items with
    | nil =>
        intro position results h
        cases h
        simp
    | cons item items ih =>
        intro position results h
        rcases Checked.seq_eq_accepted h with ⟨g, others, hg, hothers, rfl⟩
        rcases Checked.map_eq_accepted hg with ⟨first, hfirst, rfl⟩
        intro result hmem
        rcases List.mem_cons.1 hmem with rfl | hmem
        · exact ⟨item, List.mem_cons_self, Checked.within_eq_accepted hfirst⟩
        · rcases ih (position + 1) others hothers result hmem with ⟨inner, hinner, hcheck⟩
          exact ⟨inner, List.mem_cons_of_mem item hinner, hcheck⟩
  cases value with
  | arr items => exact ⟨items, rfl, hitems items 0 results h⟩
  | _ => cases h

theorem Json.asTable_eq_accepted {entries : List (String × Json)}
    (h : Json.asTable .accepted value = .accepted entries) : value = .obj entries := by
  cases value with
  | obj fields =>
      rw [Json.asTable_accepted] at h
      cases h
      rfl
  | _ => cases h

theorem Json.asOptional_eq_accepted {result : α}
    (h : Json.asOptional check value = .accepted (some result)) :
    check value = .accepted result := by
  rw [Json.asOptional] at h
  · rcases Checked.map_eq_accepted h with ⟨found, hfound, heq⟩
    cases heq
    exact hfound
  · rintro rfl
    cases h

theorem Json.asRecord_eq_accepted {record : String} {checkFields : Fields → Checked α}
    {result : α} (h : Json.asRecord record checkFields value = .accepted result) :
    ∃ fields, value = .obj fields ∧ checkFields fields = .accepted result := by
  cases value with
  | obj fields => exact ⟨fields, rfl, h⟩
  | _ => cases h

end Accepted

end Typings
