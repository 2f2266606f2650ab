import Typings.Proofs.Document.FreeForm
import Typings.Proofs.Json.Limits

/-!
# Documents read back

A document that was read and may be written is read back from its text, in any layout and with any
line ends, without its infinite and undefined numbers.

* `Document.regular_of_parse`: a document that was read is written as a regular value;
* `Document.parse_render`: it is read back from its text;
* `Document.parse_unifyLineEnds_render`: it is read back from a file with its text.
-/

namespace Typings
namespace Document

variable {text : String} {document : Document} {layout : Json.Layout}

theorem ofJson_eq_ok {value : Json} (h : ofJson value = .ok document) :
    check value = .accepted document := by
  rw [ofJson] at h
  split at h
  next found hcheck =>
    cases h
    exact hcheck
  · cases h

/-- The free-form values of a document that was read are regular. -/
theorem regular_freeForm_of_parse (h : parse text = .ok document) :
    ∀ value ∈ document.freeForm, Json.Regular Binary64.InRange Json.maxNesting value := by
  rw [parse] at h
  split at h
  next value hvalue =>
    have hcheck : check value = .accepted document := by
      rcases hjson : ofJson value with malformed | found
      · rw [hjson] at h
        cases h
      · rw [hjson] at h
        cases h
        exact ofJson_eq_ok hjson
    exact (inherited_regular (by decide)).document (Json.regular_of_parse hvalue) hcheck
  · cases h
  · cases h

/-- A document that was read and may be written is written as a regular value. -/
theorem regular_of_parse (h : parse text = .ok document) (hfree : document.obstacle? = none) :
    Json.Regular Binary64.Writable Json.maxNesting document.toJson := by
  have hdepth := regular_of_obstacle? hfree (regular_freeForm_of_parse h)
  exact (regular_toJson hdepth).mono (by decide)

theorem parse_of_toJson (h : Json.parse text = .ok document.toJson) :
    parse text = .ok document.finiteOnly := by
  simp only [parse, h, ofJson, check_toJson, Except.mapError]

/-- A document that was read is read back from its text. -/
theorem parse_render (h : parse text = .ok document) (hfree : document.obstacle? = none)
    (hblank : layout.IsBlank) : parse (document.render layout) = .ok document.finiteOnly :=
  parse_of_toJson (Json.parse_render hblank (regular_of_parse h hfree))

/-- A document that was read is read back from a file with its text. -/
theorem parse_unifyLineEnds_render (h : parse text = .ok document)
    (hfree : document.obstacle? = none) (hblank : layout.IsBlank) :
    parse (String.ofList (Text.unifyLineEnds (document.render layout).toList)) =
      .ok document.finiteOnly :=
  parse_of_toJson (Json.parse_unifyLineEnds_render hblank (regular_of_parse h hfree))

end Document
end Typings
