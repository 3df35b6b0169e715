import Mathlib.Data.List.Basic
import ParameterDrift.Text.Case
/-! # Lower case

A character is settled when no row of the mappings covers it, which is to say that it is its own
lower case wherever it stands. The mappings lead to settled characters only: no row leads into
another, as their bounds tell or, where both take every second code point, the parity of these. So
a text in lower case is its own lower case (`ParameterDrift.Text.lower_lower`).
-/

namespace ParameterDrift.Text

namespace Case

/-- The rows of all characters that are not their own lower case: the capitals of ASCII, the capital
i with a dot above, and those of the table. -/
def capitalRows : List Row :=
  ⟨0x41, 0x5A, 1, 32⟩ :: ⟨0x130, 0x130, 1, 0⟩ :: lowerRows

def IsSettled (c : Char) : Prop :=
  ∀ row ∈ capitalRows, row.covers c.toNat = false

instance (c : Char) : Decidable (IsSettled c) :=
  inferInstanceAs (Decidable (∀ _ ∈ _, _))

variable {row other : Row} {code : Nat} {c d : Char}

/-! ### Rows -/

/-- A row covers every so many code points of a range. -/
theorem Row.covers_iff : row.covers code = true ↔
    row.first ≤ code ∧ code ≤ row.last ∧ (code - row.first) % row.step = 0 := by
  simp only [covers, Bool.and_eq_true, decide_eq_true_eq, beq_iff_eq, and_assoc]

/-- The image of a code point that a row covers. -/
def Row.image (row : Row) (code : Nat) : Nat :=
  (code + row.shift).toNat

/-- Whether the images of a row lie outside another, by the bounds of the two or by parity. -/
def Row.avoids (row other : Row) : Bool :=
  (row.image row.last).blt other.first || other.last.blt (row.image row.first) ||
    (other.step.beq 2 && (row.step.beq 2 || row.first.beq row.last) &&
      Nat.blt 0 (row.image row.first) && ((row.image row.first + other.first) % 2).beq 1)

/-- The images of a row that avoids another are not covered by it. -/
theorem Row.not_covers_image (avoids : row.avoids other = true) (covered : row.covers code = true) :
    other.covers (row.image code) = false := by
  rw [Row.covers_iff] at covered
  obtain ⟨above, below, inStep⟩ := covered
  rw [Bool.eq_false_iff, ne_eq, Row.covers_iff]
  rintro ⟨otherAbove, otherBelow, otherInStep⟩
  simp only [Row.avoids, Bool.or_eq_true, Bool.and_eq_true, Nat.blt_eq, Nat.beq_eq] at avoids
  rcases avoids with (low | high) | ⟨⟨⟨alternating, regular⟩, positive⟩, odd⟩
  · unfold Row.image at *
    omega
  · unfold Row.image at *
    omega
  · rw [alternating] at otherInStep
    unfold Row.image at *
    rcases regular with regular | single
    · rw [regular] at inStep
      omega
    · omega

/-- No row leads into another. -/
theorem avoids_of_mem (member : row ∈ lowerRows) (otherMember : other ∈ capitalRows) :
    row.avoids other = true := by
  have table : (lowerRows.all fun row => capitalRows.all row.avoids) = true := by decide +kernel
  exact List.all_eq_true.mp (List.all_eq_true.mp table row member) other otherMember

/-- No row covers an ASCII character. -/
theorem le_first_of_mem (member : row ∈ lowerRows) : 0x80 ≤ row.first := by
  have table : (lowerRows.all fun row => Nat.ble 0x80 row.first) = true := by decide +kernel
  exact Nat.le_of_ble_eq_true (List.all_eq_true.mp table row member)

/-! ### Characters -/

/-- A settled character is no ASCII capital and no dotted capital I, and no row covers it. -/
theorem isSettled_iff : IsSettled c ↔
    ¬ (0x41 ≤ c.toNat ∧ c.toNat ≤ 0x5A) ∧ c.toNat ≠ 0x130 ∧
      ∀ row ∈ lowerRows, row.covers c.toNat = false := by
  have capital : Row.covers ⟨0x41, 0x5A, 1, 32⟩ c.toNat = true ↔
      0x41 ≤ c.toNat ∧ c.toNat ≤ 0x5A := by
    simp only [Row.covers_iff, Nat.mod_one, and_true]
  have dotted : Row.covers ⟨0x130, 0x130, 1, 0⟩ c.toNat = true ↔ c.toNat = 0x130 := by
    simp only [Row.covers_iff, Nat.mod_one, and_true]
    omega
  rw [IsSettled, capitalRows, List.forall_mem_cons, List.forall_mem_cons, ← capital, ne_eq,
    ← dotted, Bool.not_eq_true, Bool.not_eq_true]

theorem mapByRows_of_uncovered (uncovered : ∀ row ∈ lowerRows, row.covers c.toNat = false) :
    mapByRows lowerRows c = c := by
  have nowhere : (lowerRows.find? fun row => row.covers c.toNat) = none := by
    rw [List.find?_eq_none]
    intro row member
    rw [uncovered row member]
    decide
  rw [mapByRows, nowhere]

theorem lowerChar_of_isSettled (settled : IsSettled c) : lowerChar c = [c] := by
  obtain ⟨notCapital, notDotted, uncovered⟩ := isSettled_iff.mp settled
  unfold lowerChar
  split
  · have small : ¬ (c.val ≥ 'A'.val ∧ c.val ≤ 'Z'.val) := by
      simpa [UInt32.le_iff_toNat_le, ← Char.toNat_val] using notCapital
    have own : c.toLower = c := dif_neg small
    rw [own]
  · rw [if_neg (fun same => notDotted (congrArg Char.toNat same)), mapByRows_of_uncovered uncovered]

/-- What lies before the table is settled when it is no capital. -/
theorem isSettled_of_ascii (ascii : c.toNat < 0x80)
    (notCapital : ¬ (0x41 ≤ c.toNat ∧ c.toNat ≤ 0x5A)) : IsSettled c := by
  refine isSettled_iff.mpr ⟨notCapital, by omega, ?_⟩
  intro row member
  have beyond := le_first_of_mem member
  rw [Bool.eq_false_iff, ne_eq, Row.covers_iff]
  omega

/-- ASCII characters are settled in lower case. -/
theorem isSettled_toLower (ascii : c.toNat < 0x80) : IsSettled c.toLower := by
  have each : ∀ code < 0x80, (Char.ofNat code).toLower.toNat < 0x80 ∧
      ¬ (0x41 ≤ (Char.ofNat code).toLower.toNat ∧ (Char.ofNat code).toLower.toNat ≤ 0x5A) := by
    decide
  have own := each c.toNat ascii
  rw [Char.ofNat_toNat] at own
  exact isSettled_of_ascii own.1 own.2

/-- Images of rows are settled. -/
theorem isSettled_ofNat_image (member : row ∈ lowerRows) (covered : row.covers code = true) :
    IsSettled (Char.ofNat (row.image code)) := by
  by_cases valid : (row.image code).isValidChar
  · have same : Char.ofNat (row.image code) = Char.ofNatAux (row.image code) valid := dif_pos valid
    intro other otherMember
    rw [same]
    exact Row.not_covers_image (avoids_of_mem member otherMember) covered
  · have zero : (Char.ofNat (row.image code)).toNat = 0 := congrArg Char.toNat (dif_neg valid)
    apply isSettled_of_ascii
    · rw [zero]
      decide
    · rw [zero]
      decide

/-- **The lower case of a character is settled.** -/
theorem isSettled_of_mem_lowerChar (member : d ∈ lowerChar c) : IsSettled d := by
  unfold lowerChar at member
  split at member
  · next ascii =>
    rw [List.mem_singleton.mp member]
    exact isSettled_toLower ascii
  · next beyond =>
    split at member
    · rcases List.mem_pair.mp member with rfl | rfl
      · decide +kernel
      · decide +kernel
    · next notDotted =>
      rw [List.mem_singleton.mp member, mapByRows]
      cases found : lowerRows.find? fun row => row.covers c.toNat with
      | some row =>
        have covered := List.find?_some found
        exact isSettled_ofNat_image (List.mem_of_find?_eq_some found) covered
      | none =>
        change IsSettled c
        refine isSettled_iff.mpr ⟨by omega, fun same => notDotted ?_, ?_⟩
        · exact Char.toNat_inj.mp same
        · intro row member
          exact Bool.eq_false_iff.mpr (List.find?_eq_none.mp found row member)

/-! ### Texts -/

/-- Whatever is put in lower case is settled. -/
theorem isSettled_of_mem_lowerAfter {afterCased : Bool} {text : List Char}
    (member : d ∈ lowerAfter afterCased text) : IsSettled d := by
  induction text generalizing afterCased with
  | nil => cases member
  | cons c rest ih =>
    rw [lowerAfter] at member
    rcases List.mem_append.mp member with here | later
    · split at here
      · rw [List.mem_singleton.mp here]
        split
        · decide +kernel
        · decide +kernel
      · exact isSettled_of_mem_lowerChar here
    · exact ih later

/-- A text of settled characters stays. -/
theorem lowerAfter_of_isSettled {afterCased : Bool} {text : List Char}
    (settled : ∀ c ∈ text, IsSettled c) : lowerAfter afterCased text = text := by
  induction text generalizing afterCased with
  | nil => rfl
  | cons c rest ih =>
    obtain ⟨first, later⟩ := List.forall_mem_cons.mp settled
    have notSigma : c ≠ 'Σ' := by
      rintro rfl
      exact absurd first (by decide +kernel)
    rw [lowerAfter, if_neg notSigma, lowerChar_of_isSettled first, ih later, List.singleton_append]

end Case

/-- **Lower case is kept.** A text in lower case is its own lower case, final sigmas included. -/
theorem lower_lower (text : List Char) : lower (lower text) = lower text :=
  Case.lowerAfter_of_isSettled fun _ member => Case.isSettled_of_mem_lowerAfter member

/-- Putting a text in lower case twice is doing it once. -/
theorem lowerString_lowerString (s : String) : lowerString (lowerString s) = lowerString s := by
  rw [lowerString, toList_lowerString, lower_lower, lowerString]

end ParameterDrift.Text
