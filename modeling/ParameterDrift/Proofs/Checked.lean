import ParameterDrift.Proofs.Outcome
/-! # Values that pass their checks

A record is valid when the values under its fields are, and it then holds what they are valid as. A
list is valid when each of its items is.
-/

namespace ParameterDrift.Checked

variable {α β : Type} {check : Raw → Checked α} {name : String} {entries : List (Scalar × Raw)}
  {value : Raw} {a default : α}

@[simp] theorem map_valid (f : α → β) (a : α) : f <$> (valid a) = valid (f a) := rfl

@[simp] theorem valid_seq (f : α → β) (a : α) : valid f <*> valid a = valid (f a) := rfl

@[simp] theorem under_valid (step : Step) (a : α) : (valid a).under step = valid a := rfl

/-- Whether a part is valid does not depend on where it stands. -/
theorem under_eq_valid_iff {step : Step} {checked : Checked α} :
    checked.under step = .valid a ↔ checked = .valid a := by
  cases checked with
  | valid other => rfl
  | invalid issues => simp [under]

/-- A check whose result is changed passes when the check passes. -/
theorem exists_map_eq_valid_iff {f : α → β} {checked : Checked α} :
    (∃ b, f <$> checked = .valid b) ↔ ∃ a, checked = .valid a := by
  simp only [map_eq_valid_iff]
  exact ⟨fun ⟨_, a, passed, _⟩ => ⟨a, passed⟩, fun ⟨a, passed⟩ => ⟨f a, a, passed, rfl⟩⟩

/-- Checks side by side are valid when each of them is. -/
theorem exists_seq_eq_valid_iff {fields : Checked (α → β)} {checked : Checked α} :
    (∃ b, fields <*> checked = .valid b) ↔
      (∃ f, fields = .valid f) ∧ ∃ a, checked = .valid a := by
  simp only [seq_eq_valid_iff]
  exact ⟨fun ⟨_, f, a, left, right, _⟩ => ⟨⟨f, left⟩, a, right⟩,
    fun ⟨⟨f, left⟩, a, right⟩ => ⟨f a, f, a, left, right, rfl⟩⟩

/-- Only a text is checked as a text, and it is the result. -/
theorem text_eq_valid_iff {s : String} : text value = .valid s ↔ value = .text s := by
  constructor
  · intro passed
    unfold text at passed
    split at passed
    · cases passed
      rfl
    · cases passed
  · rintro rfl
    rfl

/-- What may be null is valid as nothing when it is null, and else as what it is. -/
theorem nullable_text_eq_valid_iff {found : Option String} :
    nullable text value = .valid found ↔
      value = .null ∧ found = none ∨ ∃ s, value = .text s ∧ found = some s := by
  constructor
  · intro passed
    unfold nullable at passed
    split at passed
    · cases passed
      exact .inl ⟨rfl, rfl⟩
    · obtain ⟨s, isText, rfl⟩ := map_eq_valid_iff.mp passed
      exact .inr ⟨s, text_eq_valid_iff.mp isText, rfl⟩
  · intro given
    rcases given with ⟨rfl, rfl⟩ | ⟨s, rfl, rfl⟩
    · rfl
    · rfl

/-- A field with a default is valid when the value under it, if there is one, is. -/
theorem exists_fieldOr_iff : (∃ a, fieldOr name default check entries = .valid a) ↔
    ∀ value, Raw.lookup name entries = some value → ∃ a, check value = .valid a := by
  rw [fieldOr]
  cases Raw.lookup name entries with
  | none => exact iff_of_true ⟨default, rfl⟩ (by rintro _ ⟨⟩)
  | some value => simp only [under_eq_valid_iff, Option.some.injEq, forall_eq']

theorem field_of_lookup (found : Raw.lookup name entries = some value)
    (passed : check value = .valid a) : field name check entries = .valid a := by
  simp only [field, found, passed, under_valid]

theorem fieldOr_of_lookup (found : Raw.lookup name entries = some value)
    (passed : check value = .valid a) : fieldOr name default check entries = .valid a := by
  simp only [fieldOr, found, passed, under_valid]

/-- Items that pass one by one are the results, from whatever index they are counted. -/
theorem itemsFrom_of_forall₂ {values : List Raw} {results : List α} (index : Nat)
    (passed : List.Forall₂ (fun value a => check value = .valid a) values results) :
    itemsFrom check index values = .valid results := by
  induction passed generalizing index with
  | nil => rfl
  | cons first _ ih =>
    rw [itemsFrom, first, ih, under_valid, map_valid, valid_seq]

/-- A list of items that pass is the list of their results. -/
theorem items_of_forall₂ {kind : IssueKind} {values : List Raw} {results : List α}
    (passed : List.Forall₂ (fun value a => check value = .valid a) values results) :
    items kind check (.list values) = .valid results :=
  itemsFrom_of_forall₂ 0 passed

end ParameterDrift.Checked
