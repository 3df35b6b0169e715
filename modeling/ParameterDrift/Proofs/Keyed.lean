import Mathlib.Data.List.Basic
import Mathlib.Data.List.Induction
import ParameterDrift.Keyed
/-! # Values of keyed lists

Where a value stands in a keyed list depends on the keys alone, so a change of the values may come
before or after the insertions, and no value comes from anywhere but the pairs that are inserted.
A lookup depends neither on what stands under other keys nor, where keys are distinct, on the order
(`ParameterDrift.Keyed.lookup_eq_of_perm`). The keys are those of the pairs, in the order in which
they first come (`ParameterDrift.Keyed.pairwise_idxOf_keys_ofList`). A list in which the first pair
of a key counts has the same keys in the same order, and holds exactly the pairs that come before
all others of their key (`ParameterDrift.Keyed.mem_ofListFirst_iff`).
-/

namespace ParameterDrift.Keyed

variable {κ α β : Type} {same : κ → κ → Bool} {change : α → β}

/-- Changing the values of all pairs commutes with inserting one of them. -/
theorem insertBy_map (key : κ) (value : α) (entries : List (κ × α)) :
    insertBy same key (change value) (entries.map fun entry => (entry.1, change entry.2)) =
      (insertBy same key value entries).map fun entry => (entry.1, change entry.2) := by
  induction entries with
  | nil => rfl
  | cons entry rest ih =>
    rw [List.map_cons, insertBy, insertBy, ih]
    split
    · rfl
    · rfl

theorem insertAllBy_cons (entries : List (κ × α)) (pair : κ × α) (rest : List (κ × α)) :
    insertAllBy same entries (pair :: rest) =
      insertAllBy same (insertBy same pair.1 pair.2 entries) rest :=
  rfl

/-- Values that are changed are inserted like those that are not. -/
theorem insertAllBy_map (entries pairs : List (κ × α)) :
    insertAllBy same (entries.map fun entry => (entry.1, change entry.2))
        (pairs.map fun pair => (pair.1, change pair.2)) =
      (insertAllBy same entries pairs).map fun entry => (entry.1, change entry.2) := by
  induction pairs generalizing entries with
  | nil => rfl
  | cons pair rest ih =>
    rw [List.map_cons, insertAllBy_cons, insertAllBy_cons, ← ih, ← insertBy_map]

/-- Changing the values of all pairs commutes with collecting them by key. -/
theorem ofList_map [BEq κ] (pairs : List (κ × α)) :
    ofList (pairs.map fun pair => (pair.1, change pair.2)) =
      (ofList pairs).map fun entry => (entry.1, change entry.2) :=
  insertAllBy_map [] pairs

/-- What is there after an insertion was inserted or was there. -/
theorem eq_or_mem_of_mem_insertBy {key : κ} {value : α} {entries : List (κ × α)} {entry : κ × α}
    (member : entry ∈ insertBy same key value entries) :
    entry.2 = value ∨ entry ∈ entries := by
  induction entries with
  | nil =>
    rw [List.mem_singleton.mp member]
    exact .inl rfl
  | cons first rest ih =>
    rw [insertBy] at member
    split at member
    · rcases List.mem_cons.mp member with rfl | later
      · exact .inl rfl
      · exact .inr (List.mem_cons_of_mem first later)
    · rcases List.mem_cons.mp member with rfl | later
      · exact .inr List.mem_cons_self
      · exact (ih later).imp_right (List.mem_cons_of_mem first)

/-- A value of a keyed list comes from the list before or from a pair. -/
theorem exists_of_mem_insertAllBy {entries pairs : List (κ × α)} {entry : κ × α}
    (member : entry ∈ insertAllBy same entries pairs) :
    entry ∈ entries ∨ ∃ pair ∈ pairs, pair.2 = entry.2 := by
  induction pairs generalizing entries with
  | nil => exact .inl member
  | cons pair rest ih =>
    rw [insertAllBy_cons] at member
    rcases ih member with inserted | ⟨found, among, equal⟩
    · rcases eq_or_mem_of_mem_insertBy inserted with equal | before
      · exact .inr ⟨pair, List.mem_cons_self, equal.symm⟩
      · exact .inl before
    · exact .inr ⟨found, List.mem_cons_of_mem pair among, equal⟩

/-- An insertion brings in no key but its own. -/
theorem key_of_mem_insertBy {key : κ} {value : α} {entries : List (κ × α)} {entry : κ × α}
    (member : entry ∈ insertBy same key value entries) :
    entry.1 = key ∨ entry.1 ∈ entries.map Prod.fst := by
  induction entries with
  | nil =>
    rw [List.mem_singleton.mp member]
    exact .inl rfl
  | cons first rest ih =>
    rw [insertBy] at member
    split at member
    · rcases List.mem_cons.mp member with rfl | inRest
      · exact .inr List.mem_cons_self
      · exact .inr (List.mem_cons_of_mem _ (List.mem_map_of_mem inRest))
    · rcases List.mem_cons.mp member with rfl | inRest
      · exact .inr List.mem_cons_self
      · exact (ih inRest).imp_right (List.mem_cons_of_mem _)

/-- A key of a keyed list comes from the list before or from a pair. -/
theorem key_of_mem_insertAllBy {entries pairs : List (κ × α)} {entry : κ × α}
    (member : entry ∈ insertAllBy same entries pairs) :
    entry.1 ∈ entries.map Prod.fst ∨ entry.1 ∈ pairs.map Prod.fst := by
  induction pairs generalizing entries with
  | nil => exact .inl (List.mem_map_of_mem member)
  | cons pair rest ih =>
    rw [insertAllBy_cons] at member
    rcases ih member with before | among
    · obtain ⟨other, inserted, equal⟩ := List.mem_map.mp before
      rw [← equal]
      rcases key_of_mem_insertBy inserted with own | before
      · exact .inr (own ▸ List.mem_cons_self)
      · exact .inl before
    · exact .inr (List.mem_cons_of_mem _ among)

section Lookup

variable [BEq κ] [LawfulBEq κ] {entries others before added after : List (κ × α)}

theorem mem_of_lookup {key : κ} {value : α} (found : entries.lookup key = some value) :
    (key, value) ∈ entries := by
  obtain ⟨before, after, rfl, _⟩ := List.lookup_eq_some_iff.mp found
  exact List.mem_append_right before List.mem_cons_self

/-- The order of entries with distinct keys does not matter to a lookup. -/
theorem lookup_eq_of_perm (perm : entries.Perm others)
    (distinct : (entries.map Prod.fst).Nodup) (key : κ) :
    entries.lookup key = others.lookup key := by
  induction perm with
  | nil => rfl
  | cons entry _ ih =>
    rw [List.lookup_cons, List.lookup_cons, ih (List.nodup_cons.mp distinct).2]
  | swap first second rest =>
    have different : second.1 ≠ first.1 := by
      intro same
      exact (List.nodup_cons.mp distinct).1 (by simp [same])
    rw [List.lookup_cons, List.lookup_cons, List.lookup_cons, List.lookup_cons]
    by_cases here : key = first.1
    · have notSecond : (key == second.1) = false :=
        beq_eq_false_iff_ne.mpr fun same => different (same.symm.trans here)
      rw [notSecond]
    · rw [beq_eq_false_iff_ne.mpr here]
  | trans firstPerm _ firstSame secondSame =>
    exact (firstSame distinct).trans
      (secondSame ((firstPerm.map Prod.fst).nodup_iff.mp distinct))

/-- Entries under other keys do not matter to a lookup. -/
theorem lookup_append_of_absent {key : κ} (absent : ∀ entry ∈ added, entry.1 ≠ key) :
    (before ++ added ++ after).lookup key = (before ++ after).lookup key := by
  have unfound : added.lookup key = none := by
    rw [List.lookup_eq_none_iff]
    intro entry member
    exact bne_iff_ne.mpr (absent entry member).symm
  rw [List.append_assoc, List.lookup_append, List.lookup_append, List.lookup_append, unfound,
    Option.none_or]

end Lookup

section Keys

variable [BEq κ] [LawfulBEq κ] {pairs : List (κ × α)} {key : κ}

/-- One more pair leaves the keys as they are, or adds its own behind them. -/
theorem keys_ofList_concat (pairs : List (κ × α)) (pair : κ × α) :
    (ofList (pairs ++ [pair])).map Prod.fst =
      if ((ofList pairs).map Prod.fst).contains pair.1 then (ofList pairs).map Prod.fst
      else (ofList pairs).map Prod.fst ++ [pair.1] := by
  have last : ofList (pairs ++ [pair]) = insert pair.1 pair.2 (ofList pairs) := by
    rw [ofList, insertAllBy, List.foldl_append, List.foldl_cons, List.foldl_nil]
    rfl
  rw [last, keys_insert]

/-- The keys of a keyed list are those of the pairs. -/
theorem mem_keys_ofList_iff :
    key ∈ (ofList pairs).map Prod.fst ↔ key ∈ pairs.map Prod.fst := by
  induction pairs using List.reverseRecOn with
  | nil => rfl
  | append_singleton before last ih =>
    rw [keys_ofList_concat, List.map_append, List.mem_append, ← ih, List.map_singleton,
      List.mem_singleton]
    split
    · next present =>
      exact ⟨.inl, fun given => given.elim id fun same => same ▸ List.contains_iff_mem.mp present⟩
    · rw [List.mem_append, List.mem_singleton]

/-- **The order of keys.** Of two keys of a keyed list, the one that comes first among the pairs
stands first. -/
theorem pairwise_idxOf_keys_ofList (pairs : List (κ × α)) :
    ((ofList pairs).map Prod.fst).Pairwise fun first second =>
      (pairs.map Prod.fst).idxOf first < (pairs.map Prod.fst).idxOf second := by
  induction pairs using List.reverseRecOn with
  | nil => exact List.Pairwise.nil
  | append_singleton before last ih =>
    -- what comes first before the last pair comes first at the same place with it
    have kept : ∀ key ∈ (ofList before).map Prod.fst,
        ((before ++ [last]).map Prod.fst).idxOf key = (before.map Prod.fst).idxOf key := by
      intro key member
      rw [List.map_append, List.idxOf_append_of_mem (mem_keys_ofList_iff.mp member)]
    have earlier : ((ofList before).map Prod.fst).Pairwise fun first second =>
        ((before ++ [last]).map Prod.fst).idxOf first <
          ((before ++ [last]).map Prod.fst).idxOf second := by
      refine ih.imp_of_mem fun firstMember secondMember precedes => ?_
      rwa [kept _ firstMember, kept _ secondMember]
    rw [keys_ofList_concat]
    split
    · exact earlier
    · next absent =>
      rw [List.contains_iff_mem, mem_keys_ofList_iff] at absent
      refine List.pairwise_append.mpr ⟨earlier, List.pairwise_singleton _ _, ?_⟩
      intro key member added atEnd
      rw [List.mem_singleton.mp atEnd, kept key member, List.map_append,
        List.idxOf_append_of_notMem absent]
      exact Nat.lt_add_right _ (List.idxOf_lt_length_iff.mpr (mem_keys_ofList_iff.mp member))

/-! ### The first pair of a key -/

theorem any_eq_contains_keys (key : κ) (entries : List (κ × α)) :
    (entries.any fun (present, _) => present == key) = (entries.map Prod.fst).contains key := by
  rw [List.contains_eq_any_beq, List.any_map]
  exact congrArg entries.any (funext fun entry => BEq.comm)

/-- A further pair is kept when its key is new. -/
theorem ofListFirst_concat (pairs : List (κ × α)) (pair : κ × α) :
    ofListFirst (pairs ++ [pair]) =
      if ((ofListFirst pairs).map Prod.fst).contains pair.1 then ofListFirst pairs
      else ofListFirst pairs ++ [pair] := by
  rw [← any_eq_contains_keys, ofListFirst, List.foldl_append, List.foldl_cons, List.foldl_nil]
  rfl

/-- Whether the first or the last pair of a key counts, the keys are the same. -/
theorem keys_ofListFirst (pairs : List (κ × α)) :
    (ofListFirst pairs).map Prod.fst = (ofList pairs).map Prod.fst := by
  induction pairs using List.reverseRecOn with
  | nil => rfl
  | append_singleton before last ih =>
    rw [ofListFirst_concat, keys_ofList_concat, ← ih]
    split
    · rfl
    · exact List.map_append

/-- No two pairs that are kept share a key. -/
theorem nodup_keys_ofListFirst (pairs : List (κ × α)) :
    ((ofListFirst pairs).map Prod.fst).Nodup := by
  rw [keys_ofListFirst]
  exact (pairwise_idxOf_keys_ofList pairs).imp fun precedes same =>
    absurd (same ▸ precedes) (Nat.lt_irrefl _)

/-- **The first pair of each key.** Exactly those pairs are kept that come before all others of
their key. -/
theorem mem_ofListFirst_iff {entry : κ × α} :
    entry ∈ ofListFirst pairs ↔ pairs.find? (fun pair => pair.1 == entry.1) = some entry := by
  induction pairs using List.reverseRecOn with
  | nil => exact ⟨nofun, nofun⟩
  | append_singleton before last ih =>
    rw [List.find?_append, ofListFirst_concat]
    have known : entry.1 ∈ (ofListFirst before).map Prod.fst ↔
        (before.find? fun pair => pair.1 == entry.1).isSome := by
      rw [keys_ofListFirst, mem_keys_ofList_iff, List.find?_isSome, List.mem_map]
      simp only [beq_iff_eq]
    -- a pair that is found before the last is the one that is kept, and the last adds nothing to it
    cases found : before.find? fun pair => pair.1 == entry.1 with
    | some first =>
      rw [Option.some_or, ← found, ← ih]
      split
      · rfl
      · next absent =>
        rw [List.mem_append, List.mem_singleton, or_iff_left_iff_imp]
        rintro rfl
        exact absurd (List.contains_iff_mem.mpr (known.mpr (found ▸ rfl))) absent
    | none =>
      have unknown : entry.1 ∉ (ofListFirst before).map Prod.fst := by
        rw [known, found]
        exact Bool.false_ne_true
      have unkept : entry ∉ ofListFirst before := fun kept => unknown (List.mem_map_of_mem kept)
      rw [Option.none_or, List.find?_singleton]
      split
      · next present =>
        have different : last.1 ≠ entry.1 :=
          fun same => unknown (same ▸ List.contains_iff_mem.mp present)
        rw [if_neg (by simpa using different)]
        exact iff_of_false unkept nofun
      · rw [List.mem_append, List.mem_singleton, or_iff_right unkept]
        constructor
        · rintro rfl
          rw [if_pos (BEq.refl entry.1)]
        · intro given
          split at given
          · exact (Option.some.inj given).symm
          · cases given

end Keys

end ParameterDrift.Keyed
