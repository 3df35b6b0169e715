import ParameterDrift.Proofs.Contract.Merge
import ParameterDrift.Proofs.Keyed
/-! # The order of a merge

A merge loses no key and doubles none. Its keys stand in the order in which the path and, after it,
the operation first list them, so an entry that overrides another takes the place of that one. Keys,
entries and order leave no choice: only the merge has them
(`ParameterDrift.ContractParameter.isMerge_iff`).
-/

namespace ParameterDrift.ContractParameter

variable {shared own merged others : List ContractParameter}

/-- The entry that counts for a key: the last that the operation lists with it, or else the last
that the path lists. -/
def latest (shared own : List ContractParameter) (key : Option String × Option String) :
    Option ContractParameter :=
  (lastWith key own).or (lastWith key shared)

/-- **The parameters of a path overridden by those of an operation.** -/
structure IsMerge (shared own merged : List ContractParameter) : Prop where
  /-- No two entries have one key. -/
  distinct : (merged.map mergeKey).Nodup
  /-- The keys are those of the path and those of the operation. -/
  complete : ∀ key, key ∈ merged.map mergeKey ↔
    key ∈ shared.map mergeKey ∨ key ∈ own.map mergeKey
  /-- Each entry is the one that counts for its key. -/
  wins : ∀ entry ∈ merged, latest shared own entry.mergeKey = some entry
  /-- Keys stand in the order in which they are first listed. -/
  ordered : (merged.map mergeKey).Pairwise fun first second =>
    ((shared ++ own).map mergeKey).idxOf first < ((shared ++ own).map mergeKey).idxOf second

theorem keys_keyed (entries : List ContractParameter) :
    (entries.map keyed).map Prod.fst = entries.map mergeKey :=
  List.map_map

/-- The merge is one as characterized. -/
theorem isMerge_merge (shared own : List ContractParameter) :
    IsMerge shared own (merge shared own) := by
  have keys : (Keyed.ofList ((shared ++ own).map keyed)).map Prod.fst =
      (merge shared own).map mergeKey := by
    rw [ofList_keyed, keys_keyed]
  constructor
  · rw [List.nodup_iff_pairwise_ne, List.pairwise_map]
    exact pairwise_mergeKey_merge shared own
  · intro key
    rw [← keys, Keyed.mem_keys_ofList_iff, keys_keyed, List.map_append, List.mem_append]
  · exact fun entry member => (mem_merge_iff shared own).mp member
  · rw [← keys, ← keys_keyed (shared ++ own)]
    exact Keyed.pairwise_idxOf_keys_ofList _

/-- All merges of two lists have the same keys in the same order. -/
theorem IsMerge.keys_eq (isMerge : IsMerge shared own merged) (also : IsMerge shared own others) :
    merged.map mergeKey = others.map mergeKey := by
  have sameKeys : (merged.map mergeKey).Perm (others.map mergeKey) := by
    rw [List.perm_ext_iff_of_nodup isMerge.distinct also.distinct]
    exact fun key => (isMerge.complete key).trans (also.complete key).symm
  refine sameKeys.eq_of_pairwise ?_ isMerge.ordered also.ordered
  intro first second _ _ precedes follows
  exact absurd follows (Nat.lt_asymm precedes)

/-- The entries of a merge are told by its keys. -/
theorem IsMerge.map_some (isMerge : IsMerge shared own merged) :
    merged.map some = (merged.map mergeKey).map (latest shared own) := by
  rw [List.map_map]
  exact List.map_congr_left fun entry member => (isMerge.wins entry member).symm

/-- **What a merge is.** It has one entry for each key of the two lists, the last of the operation
or else the last of the path, in the order in which the keys are first listed, and it is the only
list that has. -/
theorem isMerge_iff (shared own merged : List ContractParameter) :
    IsMerge shared own merged ↔ merged = merge shared own := by
  constructor
  · intro isMerge
    -- the order fixes the keys, and these fix the entries
    have also := isMerge_merge shared own
    have values : merged.map some = (merge shared own).map some := by
      rw [isMerge.map_some, isMerge.keys_eq also, ← also.map_some]
    exact List.map_injective_iff.mpr (fun _ _ => Option.some.inj) values
  · rintro rfl
    exact isMerge_merge shared own

/-- The limit of an operation takes the place of the one that its path lists. -/
example :
    merge [{ name := some "limit" }, { name := some "page" }]
        [{ name := some "sort" }, { name := some "limit", required := true }] =
      [{ name := some "limit", required := true }, { name := some "page" },
        { name := some "sort" }] := by
  decide

end ParameterDrift.ContractParameter
