import Mathlib.Data.List.Forall2
import ParameterDrift.Checked
/-! # Outcomes of readings

A reading either yields a value or ends with a fault. A value that comes out of several steps came
out of each of them, and a list that is read item by item is read when every item is: item and
value then stand at the same place
(`ParameterDrift.Outcome.mapM_eq_ok_iff`). So it is with checks, which gather the issues of all
their parts: a record is valid when each of its fields is.
-/

namespace ParameterDrift.Outcome

variable {ε ε' α β γ : Type}

/-- Two steps return when the first does and the second does on its value. -/
theorem bind_eq_ok_iff {first : Except ε α} {next : α → Except ε β} {value : β} :
    first >>= next = .ok value ↔ ∃ a, first = .ok a ∧ next a = .ok value := by
  cases first with
  | error fault => simp [bind, Except.bind]
  | ok a => simp [bind, Except.bind]

/-- Whether several steps yield a value is told step by step. -/
theorem exists_bind_eq_ok_iff {first : Except ε α} {next : α → Except ε β} :
    (∃ value, first >>= next = .ok value) ↔
      ∃ a, first = .ok a ∧ ∃ value, next a = .ok value := by
  simp only [bind_eq_ok_iff]
  exact ⟨fun ⟨value, a, done, later⟩ => ⟨a, done, value, later⟩,
    fun ⟨a, done, value, later⟩ => ⟨value, a, done, later⟩⟩

/-- Several steps end with a fault of some kind when the first that ends with a fault does. -/
theorem exists_bind_eq_error_iff {first : Except ε α} {next : α → Except ε β} {kind : ε → Prop} :
    (∃ fault, first >>= next = .error fault ∧ kind fault) ↔
      (∃ fault, first = .error fault ∧ kind fault) ∨
        ∃ a, first = .ok a ∧ ∃ fault, next a = .error fault ∧ kind fault := by
  cases first with
  | error fault => simp [bind, Except.bind]
  | ok a => simp [bind, Except.bind]

/-- Where nothing is given, nothing is asked for, and a default is there. -/
theorem exists_default_iff {value : α} {asked : β → Prop} :
    (∃ a, (.ok value : Except ε α) = .ok a) ↔ ∀ b, none = some b → asked b :=
  iff_of_true ⟨value, rfl⟩ (by rintro _ ⟨⟩)

/-- What yields no value ends with a fault. -/
theorem exists_eq_error_iff {outcome : Except ε α} :
    (∃ fault, outcome = .error fault) ↔ ¬ ∃ value, outcome = .ok value := by
  cases outcome with
  | error fault => simp
  | ok value => simp

theorem mapError_eq_error_iff {f : ε → ε'} {outcome : Except ε α} {fault : ε'} :
    outcome.mapError f = .error fault ↔ ∃ cause, outcome = .error cause ∧ f cause = fault := by
  cases outcome with
  | error cause => simp [Except.mapError]
  | ok value => simp [Except.mapError]

theorem map_eq_ok_iff {f : α → β} {outcome : Except ε α} {value : β} :
    outcome.map f = .ok value ↔ ∃ a, outcome = .ok a ∧ f a = value := by
  cases outcome with
  | error fault => simp [Except.map]
  | ok a => simp [Except.map]

theorem mapError_eq_ok_iff {f : ε → ε'} {outcome : Except ε α} {value : α} :
    outcome.mapError f = .ok value ↔ outcome = .ok value := by
  cases outcome with
  | error fault => simp [Except.mapError]
  | ok a => simp [Except.mapError]

/-- Whether a reading yields a value does not depend on what is made of the value. -/
theorem exists_map_eq_ok_iff {f : α → β} {outcome : Except ε α} :
    (∃ value, outcome.map f = .ok value) ↔ ∃ a, outcome = .ok a := by
  simp only [map_eq_ok_iff]
  exact ⟨fun ⟨_, a, read, _⟩ => ⟨a, read⟩, fun ⟨a, read⟩ => ⟨f a, a, read, rfl⟩⟩

/-- A list is read when every item is, each to the value at its place. -/
theorem mapM_eq_ok_iff {read : α → Except ε β} {items : List α} {values : List β} :
    items.mapM read = .ok values ↔
      List.Forall₂ (fun item value => read item = .ok value) items values := by
  induction items generalizing values with
  | nil =>
    rw [List.mapM_nil, List.forall₂_nil_left_iff]
    exact ⟨fun same => (Except.ok.inj same).symm, fun empty => empty ▸ rfl⟩
  | cons item rest ih =>
    rw [List.mapM_cons, bind_eq_ok_iff, List.forall₂_cons_left_iff]
    constructor
    · intro given
      obtain ⟨value, first, others⟩ := given
      obtain ⟨later, remaining, same⟩ := bind_eq_ok_iff.mp others
      exact ⟨value, later, first, ih.mp remaining, (Except.ok.inj same).symm⟩
    · intro given
      obtain ⟨value, later, first, remaining, rfl⟩ := given
      exact ⟨value, first, bind_eq_ok_iff.mpr ⟨later, ih.mpr remaining, rfl⟩⟩

/-- A list can be read exactly when each of its items can. -/
theorem exists_mapM_eq_ok_iff {read : α → Except ε β} {items : List α} :
    (∃ values, items.mapM read = .ok values) ↔ ∀ item ∈ items, ∃ value, read item = .ok value := by
  induction items with
  | nil => exact ⟨fun _ _ member => absurd member List.not_mem_nil, fun _ => ⟨[], rfl⟩⟩
  | cons item rest ih =>
    rw [List.forall_mem_cons, ← ih]
    constructor
    · intro given
      obtain ⟨values, returned⟩ := given
      obtain ⟨value, later, first, remaining, _⟩ :=
        List.forall₂_cons_left_iff.mp (mapM_eq_ok_iff.mp returned)
      exact ⟨⟨value, first⟩, later, mapM_eq_ok_iff.mpr remaining⟩
    · intro given
      obtain ⟨⟨value, first⟩, later, remaining⟩ := given
      exact ⟨value :: later, mapM_eq_ok_iff.mpr (.cons first (mapM_eq_ok_iff.mp remaining))⟩

/-- Every value of a list that is read comes from one of its items. -/
theorem exists_of_mem_mapM {read : α → Except ε β} {items : List α} {values : List β} {value : β}
    (returned : items.mapM read = .ok values) (member : value ∈ values) :
    ∃ item ∈ items, read item = .ok value := by
  induction mapM_eq_ok_iff.mp returned with
  | nil => cases member
  | @cons item first rest later itemRead others ih =>
    rcases List.mem_cons.mp member with rfl | inLater
    · exact ⟨item, List.mem_cons_self, itemRead⟩
    · obtain ⟨found, among, foundRead⟩ := ih (mapM_eq_ok_iff.mpr others) inLater
      exact ⟨found, List.mem_cons_of_mem item among, foundRead⟩

/-- Every item of a list that is read has its value among the values. -/
theorem exists_mem_of_mapM {read : α → Except ε β} {items : List α} {values : List β} {item : α}
    (returned : items.mapM read = .ok values) (member : item ∈ items) :
    ∃ value ∈ values, read item = .ok value := by
  induction mapM_eq_ok_iff.mp returned with
  | nil => cases member
  | @cons first value rest later firstRead others ih =>
    rcases List.mem_cons.mp member with rfl | inRest
    · exact ⟨value, List.mem_cons_self, firstRead⟩
    · obtain ⟨found, among, foundRead⟩ := ih (mapM_eq_ok_iff.mpr others) inRest
      exact ⟨found, List.mem_cons_of_mem value among, foundRead⟩

/-- A list ends with the fault of the first item that cannot be read. -/
theorem mapM_eq_error_iff {read : α → Except ε β} {items : List α} {fault : ε} :
    items.mapM read = .error fault ↔ ∃ before item after, items = before ++ item :: after ∧
      (∀ other ∈ before, ∃ value, read other = .ok value) ∧ read item = .error fault := by
  induction items with
  | nil =>
    constructor
    · intro failed
      cases failed
    · rintro ⟨before, _, _, split, _⟩
      cases before with
      | _ => cases split
  | cons item rest ih =>
    cases outcome : read item with
    | error other =>
      rw [List.mapM_cons, outcome]
      constructor
      · intro failed
        cases failed
        exact ⟨[], item, rest, rfl, fun _ member => absurd member List.not_mem_nil, outcome⟩
      · rintro ⟨before, last, after, split, done, failed⟩
        cases before with
        | nil =>
          obtain ⟨rfl, rfl⟩ := List.cons.inj split
          rw [outcome] at failed
          cases failed
          rfl
        | cons first others =>
          obtain ⟨rfl, rfl⟩ := List.cons.inj split
          obtain ⟨value, returned⟩ := done item List.mem_cons_self
          rw [outcome] at returned
          cases returned
    | ok value =>
      have later : (item :: rest).mapM read = .error fault ↔ rest.mapM read = .error fault := by
        rw [List.mapM_cons, outcome]
        cases rest.mapM read with
        | error other => rfl
        | ok values => exact iff_of_false (by rintro ⟨⟩) (by rintro ⟨⟩)
      rw [later, ih]
      constructor
      · rintro ⟨before, last, after, rfl, done, failed⟩
        exact ⟨item :: before, last, after, rfl, List.forall_mem_cons.mpr ⟨⟨value, outcome⟩, done⟩,
          failed⟩
      · rintro ⟨before, last, after, split, done, failed⟩
        cases before with
        | nil =>
          obtain ⟨rfl, rfl⟩ := List.cons.inj split
          rw [outcome] at failed
          cases failed
        | cons first others =>
          obtain ⟨rfl, rfl⟩ := List.cons.inj split
          exact ⟨others, last, after, rfl, (List.forall_mem_cons.mp done).2, failed⟩

/-- A list that cannot be read ends with the fault of one of its items. -/
theorem exists_of_mapM_eq_error {read : α → Except ε β} {items : List α} {fault : ε}
    (failed : items.mapM read = .error fault) : ∃ item ∈ items, read item = .error fault := by
  obtain ⟨before, item, after, rfl, _, ended⟩ := mapM_eq_error_iff.mp failed
  exact ⟨item, List.mem_append_right before List.mem_cons_self, ended⟩

/-- When reading the image of an item reads the item and maps its value, so it is with lists. -/
theorem mapM_map_of_forall {read : α → Except ε β} {readImage : γ → Except ε β} {image : α → γ}
    {f : β → β} {items : List α}
    (each : ∀ item ∈ items, readImage (image item) = (read item).map f) :
    (items.map image).mapM readImage = (items.mapM read).map (List.map f) := by
  induction items with
  | nil => rfl
  | cons item rest ih =>
    have later := ih fun other member => each other (List.mem_cons_of_mem item member)
    rw [List.map_cons, List.mapM_cons, List.mapM_cons, each item List.mem_cons_self, later]
    cases read item with
    | error fault => rfl
    | ok value =>
      cases rest.mapM read with
      | error fault => rfl
      | ok values => rfl

/-- When each item is read as a value that is related to its counterpart, the list is read as values
that are related to theirs. -/
theorem exists_mapM_of_forall₂ {read : α → Except ε β} {related : β → γ → Prop} {items : List α}
    {others : List γ}
    (each : List.Forall₂ (fun item other => ∃ value, read item = .ok value ∧ related value other)
      items others) :
    ∃ values, items.mapM read = .ok values ∧ List.Forall₂ related values others := by
  induction each with
  | nil => exact ⟨[], rfl, .nil⟩
  | cons first _ ih =>
    obtain ⟨value, firstRead, firstRelated⟩ := first
    obtain ⟨later, remaining, related⟩ := ih
    exact ⟨value :: later, by rw [List.mapM_cons, firstRead, remaining]; rfl,
      .cons firstRelated related⟩

/-- An outcome whose fault, if it has one, is of some kind. -/
def FailsBy (kind : ε → Prop) (outcome : Except ε α) : Prop :=
  ∀ fault, outcome = .error fault → kind fault

/-- What fails by a kind of faults ends with one of them when it yields no value. -/
theorem FailsBy.exists_error_iff {kind : ε → Prop} {outcome : Except ε α}
    (fails : FailsBy kind outcome) :
    (∃ fault, outcome = .error fault ∧ kind fault) ↔ ¬ ∃ value, outcome = .ok value := by
  rw [← exists_eq_error_iff]
  exact exists_congr fun fault => and_iff_left_of_imp (fails fault)

/-- What yields a value does not fail. -/
theorem failsBy_ok {kind : ε → Prop} (value : α) : FailsBy kind (.ok value) := by
  rintro _ ⟨⟩

/-- Faults that are told as others are of the kind of these. -/
theorem failsBy_mapError {kind : ε' → Prop} {f : ε → ε'} (told : ∀ fault, kind (f fault))
    (outcome : Except ε α) : FailsBy kind (outcome.mapError f) := by
  intro fault failed
  obtain ⟨cause, _, rfl⟩ := mapError_eq_error_iff.mp failed
  exact told cause

/-- Several steps fail by the faults of any of them. -/
theorem FailsBy.bind {kind : ε → Prop} {first : Except ε α} {next : α → Except ε β}
    (fails : FailsBy kind first) (later : ∀ a, FailsBy kind (next a)) :
    FailsBy kind (first >>= next) := by
  cases first with
  | error fault =>
    rintro _ ⟨⟩
    exact fails fault rfl
  | ok a => exact later a

/-- Lists fail by the faults of their items. -/
theorem FailsBy.mapM {kind : ε → Prop} {read : α → Except ε β}
    (each : ∀ item, FailsBy kind (read item)) (items : List α) :
    FailsBy kind (items.mapM read) := by
  intro fault failed
  obtain ⟨item, _, ended⟩ := exists_of_mapM_eq_error failed
  exact each item fault ended

/-- Lists are read alike when their items are, place by place. -/
theorem mapM_congr_of_forall₂ {read : α → Except ε β} {left right : List α}
    (alike : List.Forall₂ (fun item other => read other = read item) left right) :
    right.mapM read = left.mapM read := by
  induction alike with
  | nil => rfl
  | cons first _ ih => rw [List.mapM_cons, List.mapM_cons, first, ih]

end ParameterDrift.Outcome

namespace ParameterDrift.Checked

variable {α β : Type}

theorem toExcept_eq_ok_iff {checked : Checked α} {value : α} :
    checked.toExcept = .ok value ↔ checked = .valid value := by
  cases checked with
  | valid other => simp [toExcept]
  | invalid issues => simp [toExcept]

theorem map_eq_valid_iff {f : α → β} {checked : Checked α} {value : β} :
    f <$> checked = .valid value ↔ ∃ a, checked = .valid a ∧ f a = value := by
  cases checked with
  | valid a => simp [Functor.map, both]
  | invalid issues => simp [Functor.map, both]

/-- Two checks beside each other pass when both do. -/
theorem seq_eq_valid_iff {fields : Checked (α → β)} {checked : Checked α} {value : β} :
    fields <*> checked = .valid value ↔
      ∃ f a, fields = .valid f ∧ checked = .valid a ∧ f a = value := by
  cases fields with
  | valid f =>
    cases checked with
    | valid a => simp [Seq.seq, both]
    | invalid issues => simp [Seq.seq, both]
  | invalid issues =>
    cases checked with
    | valid a => simp [Seq.seq, both]
    | invalid others => simp [Seq.seq, both]

end ParameterDrift.Checked
