import Mathlib.Data.List.Induction
import ParameterDrift.Contract.Merge
/-! # What a merge keeps

A merge puts its entries one after the other, each in the place of the entry with its key if there
is one (`ParameterDrift.ContractParameter.merge_eq_foldl`). So the keys of the result are distinct
(`ParameterDrift.ContractParameter.pairwise_mergeKey_merge`), and under each of them stands the last
entry that an operation lists with it, or else the last that the path lists
(`ParameterDrift.ContractParameter.mem_merge_iff`).
-/

namespace ParameterDrift.ContractParameter

/-- The entries with one more, in the place of the first that has its key. -/
def override (entry : ContractParameter) : List ContractParameter → List ContractParameter
  | [] => [entry]
  | present :: rest =>
    if present.mergeKey = entry.mergeKey then entry :: rest else present :: override entry rest

/-- The last of some entries with a key. -/
def lastWith (key : Option String × Option String) (entries : List ContractParameter) :
    Option ContractParameter :=
  entries.reverse.find? fun entry => entry.mergeKey = key

variable {entry parameter : ContractParameter} {shared own entries : List ContractParameter}
  {key : Option String × Option String}

theorem mergeKey_of_ref {ref : String} (written : entry.ref = some ref) :
    entry.mergeKey = (some referenceMark, some ref) := by
  rw [mergeKey, written]

theorem mergeKey_of_ref_none (inPlace : entry.ref = none) :
    entry.mergeKey = (entry.name, entry.location) := by
  rw [mergeKey, inPlace]

/-- An entry with its key. -/
def keyed (entry : ContractParameter) : (Option String × Option String) × ContractParameter :=
  (entry.mergeKey, entry)

/-- Overriding is inserting under the key. -/
theorem insert_keyed (entry : ContractParameter) (entries : List ContractParameter) :
    Keyed.insertBy (· == ·) entry.mergeKey entry (entries.map keyed) =
      (override entry entries).map keyed := by
  induction entries with
  | nil => rfl
  | cons present rest ih =>
    rw [List.map_cons, keyed, Keyed.insertBy, override, ih]
    by_cases same : present.mergeKey = entry.mergeKey
    · rw [if_pos same, if_pos (beq_iff_eq.mpr same), List.map_cons, keyed, same]
    · rw [if_neg same, if_neg (fun equal => same (eq_of_beq equal)), List.map_cons, keyed]

/-- Entries that are inserted under their keys override one another. -/
theorem insertAll_keyed (entries merged : List ContractParameter) :
    Keyed.insertAllBy (· == ·) (merged.map keyed) (entries.map keyed) =
      (entries.foldl (fun merged entry => override entry merged) merged).map keyed := by
  induction entries generalizing merged with
  | nil => rfl
  | cons entry rest ih =>
    rw [List.foldl_cons, ← ih, ← insert_keyed]
    rfl

/-- A merge overrides entry by entry. -/
theorem merge_eq_foldl (shared own : List ContractParameter) :
    merge shared own = (shared ++ own).foldl (fun merged entry => override entry merged) [] := by
  have whole := congrArg (List.map Prod.snd) (insertAll_keyed (shared ++ own) [])
  rw [List.map_map] at whole
  exact whole.trans (List.map_id _)

/-- The merge collects the entries of both lists by key. -/
theorem ofList_keyed (shared own : List ContractParameter) :
    Keyed.ofList ((shared ++ own).map keyed) = (merge shared own).map keyed := by
  rw [merge_eq_foldl]
  exact insertAll_keyed (shared ++ own) []

/-! ### The keys -/

/-- What is there after an override is the entry or was there. -/
theorem eq_or_mem_of_mem_override (member : parameter ∈ override entry entries) :
    parameter = entry ∨ parameter ∈ entries := by
  induction entries with
  | nil => exact .inl (List.mem_singleton.mp member)
  | cons present rest ih =>
    rw [override] at member
    split at member
    · exact (List.mem_cons.mp member).imp_right (List.mem_cons_of_mem present)
    · rcases List.mem_cons.mp member with rfl | later
      · exact .inr List.mem_cons_self
      · exact (ih later).imp_right (List.mem_cons_of_mem present)

/-- Overriding keeps the keys distinct. -/
theorem pairwise_mergeKey_override
    (distinct : entries.Pairwise fun left right => left.mergeKey ≠ right.mergeKey) :
    (override entry entries).Pairwise fun left right => left.mergeKey ≠ right.mergeKey := by
  induction entries with
  | nil => exact List.pairwise_singleton _ _
  | cons present rest ih =>
    obtain ⟨first, later⟩ := List.pairwise_cons.mp distinct
    rw [override]
    split
    · next same =>
      exact List.pairwise_cons.mpr ⟨same ▸ first, later⟩
    · next other =>
      refine List.pairwise_cons.mpr ⟨fun parameter member => ?_, ih later⟩
      rcases eq_or_mem_of_mem_override member with rfl | kept
      · exact other
      · exact first parameter kept

/-- **Keys are distinct.** No two entries of a merge have the same key. -/
theorem pairwise_mergeKey_merge (shared own : List ContractParameter) :
    (merge shared own).Pairwise fun left right => left.mergeKey ≠ right.mergeKey := by
  rw [merge_eq_foldl]
  induction shared ++ own using List.reverseRecOn with
  | nil => exact List.Pairwise.nil
  | append_singleton before last ih =>
    rw [List.foldl_append, List.foldl_cons, List.foldl_nil]
    exact pairwise_mergeKey_override ih

/-! ### The entries -/

/-- Where keys are distinct, overriding removes what has the key of the new entry, and no more. -/
theorem mem_override_iff
    (distinct : entries.Pairwise fun left right => left.mergeKey ≠ right.mergeKey) :
    parameter ∈ override entry entries ↔
      parameter = entry ∨ parameter ∈ entries ∧ parameter.mergeKey ≠ entry.mergeKey := by
  induction entries with
  | nil => simp [override]
  | cons present rest ih =>
    obtain ⟨first, later⟩ := List.pairwise_cons.mp distinct
    rw [override]
    split
    · next same =>
      have others : ∀ other ∈ rest, other.mergeKey ≠ entry.mergeKey :=
        fun other member equal => first other member (same.trans equal.symm)
      rw [List.mem_cons, List.mem_cons]
      refine or_congr_right ⟨fun member => ⟨.inr member, others parameter member⟩, ?_⟩
      intro given
      obtain ⟨rfl | member, changed⟩ := given
      · exact absurd same changed
      · exact member
    · next other =>
      rw [List.mem_cons, List.mem_cons, ih later]
      constructor
      · intro given
        rcases given with rfl | rfl | ⟨member, kept⟩
        · exact .inr ⟨.inl rfl, other⟩
        · exact .inl rfl
        · exact .inr ⟨.inr member, kept⟩
      · intro given
        rcases given with rfl | ⟨rfl | member, kept⟩
        · exact .inr (.inl rfl)
        · exact .inl rfl
        · exact .inr (.inr ⟨member, kept⟩)

@[simp] theorem lastWith_nil : lastWith key [] = none := rfl

/-- The last entry with a key is the very last one if it has the key. -/
theorem lastWith_concat (key : Option String × Option String) (before : List ContractParameter)
    (last : ContractParameter) :
    lastWith key (before ++ [last]) =
      if last.mergeKey = key then some last else lastWith key before := by
  rw [lastWith, List.reverse_append, List.reverse_singleton, List.singleton_append, List.find?_cons]
  by_cases same : last.mergeKey = key
  · simp only [same, decide_true, ↓reduceIte]
  · simp only [same, decide_false, ↓reduceIte, lastWith]

/-- The second of two lists goes first. -/
theorem lastWith_append (key : Option String × Option String) (shared own : List ContractParameter) :
    lastWith key (shared ++ own) = (lastWith key own).or (lastWith key shared) := by
  rw [lastWith, List.reverse_append, List.find?_append]
  rfl

theorem mem_of_lastWith (last : lastWith key entries = some entry) :
    entry ∈ entries ∧ entry.mergeKey = key := by
  rw [lastWith] at last
  have hit := List.find?_some last
  exact ⟨List.mem_reverse.mp (List.mem_of_find?_eq_some last), of_decide_eq_true hit⟩

/-- There is a last entry with the key of a given one. -/
theorem exists_lastWith (member : entry ∈ entries) :
    ∃ last, lastWith entry.mergeKey entries = some last := by
  refine Option.isSome_iff_exists.mp (List.find?_isSome.mpr ⟨entry, List.mem_reverse.mpr member, ?_⟩)
  exact decide_eq_true rfl

/-- **What a merge keeps.** An entry is kept when it is the last that the operation lists with its
key, or when the operation lists none with it and it is the last of the path. -/
theorem mem_merge_iff (shared own : List ContractParameter) :
    parameter ∈ merge shared own ↔
      (lastWith parameter.mergeKey own).or (lastWith parameter.mergeKey shared) =
        some parameter := by
  rw [← lastWith_append, merge_eq_foldl]
  induction shared ++ own using List.reverseRecOn with
  | nil => simp
  | append_singleton before last ih =>
    -- the entries merged so far have distinct keys, being a merge themselves
    have distinct := pairwise_mergeKey_merge before []
    rw [merge_eq_foldl, List.append_nil] at distinct
    rw [List.foldl_append, List.foldl_cons, List.foldl_nil, mem_override_iff distinct, ih,
      lastWith_concat]
    split
    · next same =>
      rw [Option.some.injEq, eq_comm, or_iff_left]
      exact fun kept => kept.2 same.symm
    · next other =>
      constructor
      · intro given
        rcases given with rfl | ⟨kept, _⟩
        · exact absurd rfl other
        · exact kept
      · exact fun kept => .inr ⟨kept, fun same => other same.symm⟩

/-- Two entries of a merge that have one key are one. -/
theorem eq_of_mergeKey_eq {left right : ContractParameter} (leftMember : left ∈ merge shared own)
    (rightMember : right ∈ merge shared own) (same : left.mergeKey = right.mergeKey) :
    left = right := by
  rw [mem_merge_iff] at leftMember rightMember
  rw [same, rightMember] at leftMember
  exact (Option.some.inj leftMember).symm

/-! ### Changed entries -/

/-- A change that tells the keys apart alike commutes with overriding. -/
theorem override_map {change : ContractParameter → ContractParameter}
    (same : ∀ present ∈ entries,
      (change present).mergeKey = (change entry).mergeKey ↔ present.mergeKey = entry.mergeKey) :
    override (change entry) (entries.map change) = (override entry entries).map change := by
  induction entries with
  | nil => rfl
  | cons present rest ih =>
    have first := same present List.mem_cons_self
    have later := ih fun other member => same other (List.mem_cons_of_mem present member)
    rw [List.map_cons, override, override, later]
    by_cases equal : present.mergeKey = entry.mergeKey
    · rw [if_pos equal, if_pos (first.mpr equal), List.map_cons]
    · rw [if_neg equal, if_neg (fun changed => equal (first.mp changed)), List.map_cons]

/-- What is in the merge is in one of the lists. -/
theorem mem_of_mem_merge (member : parameter ∈ merge shared own) : parameter ∈ shared ++ own := by
  rw [mem_merge_iff, ← lastWith_append] at member
  exact (mem_of_lastWith member).1

/-- **A change that keeps keys apart** may come before or after a merge. -/
theorem merge_map {change : ContractParameter → ContractParameter}
    (same : ∀ left ∈ shared ++ own, ∀ right ∈ shared ++ own,
      (change left).mergeKey = (change right).mergeKey ↔ left.mergeKey = right.mergeKey) :
    merge (shared.map change) (own.map change) = (merge shared own).map change := by
  rw [merge_eq_foldl, merge_eq_foldl, ← List.map_append]
  revert same
  generalize shared ++ own = entries
  intro same
  induction entries using List.reverseRecOn with
  | nil => rfl
  | append_singleton before last ih =>
    have earlier := ih fun left leftMember right rightMember =>
      same left (List.mem_append_left _ leftMember) right (List.mem_append_left _ rightMember)
    rw [List.map_append, List.map_singleton, List.foldl_append, List.foldl_append, List.foldl_cons,
      List.foldl_cons, List.foldl_nil, List.foldl_nil, earlier]
    apply override_map
    intro present member
    -- what has been merged so far comes from the entries themselves
    rw [← List.append_nil before, ← merge_eq_foldl] at member
    have among := mem_of_mem_merge member
    rw [List.append_nil] at among
    exact same present (List.mem_append_left _ among) last
      (List.mem_append_right before List.mem_cons_self)

end ParameterDrift.ContractParameter
