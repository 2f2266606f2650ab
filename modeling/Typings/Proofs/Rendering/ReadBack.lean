import Typings.Proofs.Document.Faithful
import Typings.Proofs.Rendering.Plain

/-!
# Texts of documents that are read back

The documents of a generation may come from a server or from the files in which they were kept. What
is read back from a file lacks infinite and undefined numbers, so it may differ from the document in
the notes of default values, which no text shows.

* `ReadBack`: documents that are written and read again;
* `Tree.texts_read_back_iff_writable`: they give the same texts, as long as they can be written.
-/

namespace Typings

variable {layout : Json.Layout} {documents copies : List Document}

/-- Each document is written, and its text read. -/
def ReadBack (layout : Json.Layout) (documents copies : List Document) : Prop :=
  List.Forall₂ (fun document copy => ∃ written, document.write layout = .ok written ∧
    Document.parse written = .ok copy) documents copies

theorem readBack_finiteOnly (hblank : layout.IsBlank)
    (haccepted : ∀ document ∈ documents, document.Accepted)
    (hwritable : ∀ document ∈ documents, document.Writable) :
    ReadBack layout documents (documents.map Document.finiteOnly) := by
  refine List.forall₂_map_right_iff.2 (List.forall₂_same.2 ?_)
  intro document hmem
  have hwrite : document.write layout = .ok (document.render layout) :=
    Document.write_eq_ok_iff.2 ⟨hwritable document hmem, rfl⟩
  exact ⟨_, hwrite, Document.parse_write (haccepted document hmem) hblank hwrite⟩

theorem ReadBack.writable (h : ReadBack layout documents copies) :
    ∀ document ∈ documents, document.Writable := by
  induction h with
  | nil => exact List.forall_mem_nil _
  | cons hfirst _ ih =>
      obtain ⟨written, hwrite, -⟩ := hfirst
      exact List.forall_mem_cons.2 ⟨(Document.write_eq_ok_iff.1 hwrite).1, ih⟩

/-! ## Texts -/

namespace Definitions

variable {config : Config} {forest other : Forest}

/-- The forest after definitions were rendered, one library after the other. -/
def rendered (config : Config) (shown : List (Option String)) (forest : Forest) : Forest :=
  shown.foldl (fun forest library => after config library forest) forest

theorem rendered_plain (shown : List (Option String)) (forest : Forest) :
    rendered config shown (forest.map Declaration.plain) =
      (rendered config shown forest).map Declaration.plain :=
  List.foldl_hom (Forest.map Declaration.plain) fun _ _ => after_plain

end Definitions

/-- Forests that differ in their notes have the same texts, and have them still after the same
definitions were rendered. -/
theorem texts_eq_of_plain_eq {config : Config} {forest other : Forest}
    (h : forest.map Declaration.plain = other.map Declaration.plain)
    (shown : List (Option String)) (library : Option String) :
    Definitions.text config library (Definitions.rendered config shown forest) =
        Definitions.text config library (Definitions.rendered config shown other) ∧
      Exports.text config library (Definitions.rendered config shown forest) =
        Exports.text config library (Definitions.rendered config shown other) := by
  have hplain : (Definitions.rendered config shown forest).map Declaration.plain =
      (Definitions.rendered config shown other).map Declaration.plain := by
    rw [← Definitions.rendered_plain, h, Definitions.rendered_plain]
  constructor
  · rw [← Definitions.text_plain, hplain, Definitions.text_plain]
  · rw [← Exports.text_plain, hplain, Exports.text_plain]

namespace Tree

/-- Documents that are written and read back give the texts that they gave before, of every library
and of all, whatever was rendered in between. They can be written and read back as long as each of
them has a text. -/
theorem texts_read_back_iff_writable (config : Config) (hblank : layout.IsBlank)
    (haccepted : ∀ document ∈ documents, document.Accepted) :
    (∃ copies, ReadBack layout documents copies ∧
      ∀ (shown : List (Option String)) (library : Option String),
        Definitions.text config library (Definitions.rendered config shown
            (ofDocuments config copies).reconcile.forest) =
          Definitions.text config library (Definitions.rendered config shown
            (ofDocuments config documents).reconcile.forest) ∧
        Exports.text config library (Definitions.rendered config shown
            (ofDocuments config copies).reconcile.forest) =
          Exports.text config library (Definitions.rendered config shown
            (ofDocuments config documents).reconcile.forest)) ↔
      ∀ document ∈ documents, document.Writable := by
  constructor
  · rintro ⟨copies, hread, -⟩
    exact hread.writable
  · intro hwritable
    exact ⟨_, readBack_finiteOnly hblank haccepted hwritable,
      texts_eq_of_plain_eq plain_reconcile_finiteOnly⟩

/-- The text of a document whose only default value is undefined as a number. -/
def undefinedText : String :=
  "\x7b\"library\": \"sap.ui\", \"version\": \"1\", \"symbols\": [\x7b\"name\": \"sap.ui\", " ++
    "\"basename\": \"ui\", \"kind\": \"namespace\", \"methods\": [\x7b\"name\": \"load\", " ++
    "\"static\": true, \"parameters\": [\x7b\"name\": \"options\", \"type\": \"object\", " ++
    "\"defaultValue\": NaN\x7d]\x7d]\x7d]\x7d"

theorem texts_read_back_undefined :
    Document.parse undefinedText = .ok (.withDefault (.float .notANumber)) ∧
      ∃ copies, ReadBack .inline [.withDefault (.float .notANumber)] copies ∧
        ∀ (shown : List (Option String)) (library : Option String),
          Definitions.text {} library (Definitions.rendered {} shown
              (ofDocuments {} copies).reconcile.forest) =
            Definitions.text {} library (Definitions.rendered {} shown
              (ofDocuments {} [.withDefault (.float .notANumber)]).reconcile.forest) ∧
          Exports.text {} library (Definitions.rendered {} shown
              (ofDocuments {} copies).reconcile.forest) =
            Exports.text {} library (Definitions.rendered {} shown
              (ofDocuments {} [.withDefault (.float .notANumber)]).reconcile.forest) := by
  have hparse : Document.parse undefinedText = .ok (.withDefault (.float .notANumber)) := by
    decide +kernel
  have hblank : Json.Layout.IsBlank .inline := trivial
  have hwritable : (Document.withDefault (.float .notANumber)).Writable :=
    Document.writable_withDefault.2 ⟨Nat.zero_le _, List.forall_mem_nil _⟩
  refine ⟨hparse, (texts_read_back_iff_writable {} hblank ?_).2 ?_⟩
  · exact List.forall_mem_singleton.2 (.inl ⟨_, hparse⟩)
  · exact List.forall_mem_singleton.2 hwritable

/-- A document that is nested too deep cannot be replaced. -/
theorem no_read_back_deep :
    (Document.withDefault (Document.arrays 299)).Accepted ∧
      ¬ ∃ copies, ReadBack .inline [.withDefault (Document.arrays 299)] copies := by
  refine ⟨Document.accepted_withDefault_arrays (by decide), ?_⟩
  rintro ⟨copies, hread⟩
  have hwritable := hread.writable _ (List.mem_singleton_self _)
  have hdepth := (Document.writable_withDefault.1 hwritable).1
  rw [Document.depth_arrays] at hdepth
  exact absurd hdepth (by decide)

end Tree
end Typings
