import ParameterDrift.Proofs.Outcome
import ParameterDrift.Raw.Text
import ParameterDrift.Signature.Basic
/-! # Values that are written

A value has a text in any case, but it is written only when no integer in it has too many digits.
Whether that is so is told part by part (`ParameterDrift.Raw.isWritable_list_iff`), and then the
text that is written is the text of the value (`ParameterDrift.Raw.written_eq_ok_iff`).
-/

namespace ParameterDrift.Raw

variable {value : Raw} {text : String}

/-- What is written is the text of a writable value. -/
theorem written_eq_ok_iff :
    value.written = .ok text ↔ value.isWritable = true ∧ value.toText = text := by
  rw [written]
  split
  · next writable => simp [writable]
  · next long => simp [long]

/-- A value is written exactly when it is writable. -/
theorem exists_written_iff : (∃ text, value.written = .ok text) ↔ value.isWritable = true := by
  simp only [written_eq_ok_iff, exists_and_left, exists_eq', and_true]

/-- Items are writable when each of them is. -/
theorem areWritable_iff {items : List Raw} :
    areWritable items = true ↔ ∀ item ∈ items, item.isWritable = true := by
  induction items with
  | nil => simp [areWritable]
  | cons item rest ih => rw [areWritable, Bool.and_eq_true, ih, List.forall_mem_cons]

/-- A list is writable when each of its items is. -/
theorem isWritable_list_iff {items : List Raw} :
    (list items).isWritable = true ↔ ∀ item ∈ items, item.isWritable = true := by
  rw [isWritable, areWritable_iff]

end ParameterDrift.Raw

namespace ParameterDrift

/-- A location is written when its line and its column are. -/
theorem Location.written_eq_ok_iff {location : Location} {text : String} :
    location.written = .ok text ↔ location.isWritable = true ∧ location.toText = text := by
  rw [written]
  split
  · next writable => simp [writable]
  · next long => simp [long]

end ParameterDrift
