import ParameterDrift.Proofs.Contract.Upgrade.Parameter
/-! # Operations written anew

The operations of an older document are found at the same places when it is written anew: under the
same paths and keys. Each is read as before, with the references among its parameters written anew
(`ParameterDrift.Upgrade.readPaths_paths`).
-/

namespace ParameterDrift.Upgrade

variable {entries : List (Scalar × Raw)} {shared : List ContractParameter}

/-- A record made of two checked fields may be changed before the check or after it. -/
theorem ofChecked_map {α β γ δ : Type} {record : ContractRecord} (change : γ → δ)
    (make : α → β → γ) (first : Checked α) (second : Checked β) :
    ContractFault.ofChecked record ((fun a b => change (make a b)) <$> first <*> second) =
      (ContractFault.ofChecked record (make <$> first <*> second)).map change := by
  cases first with
  | valid a =>
    cases second with
    | valid b => rfl
    | invalid issues => rfl
  | invalid issues =>
    cases second with
    | valid b => rfl
    | invalid others => rfl

/-- A translated operation is read as the operation with its references redirected. -/
theorem read_operation (path : Scalar) (method : String)
    (older : ∀ value ∈ listed entries, IsOlderParameter value)
    (sharedOlder : ∀ entry ∈ shared, IsOlderEntry entry) :
    Operation.read path method (shared.map (ContractParameter.redirect writeReference))
        (Raw.changeField "parameters" parameters entries) =
      (Operation.read path method shared entries).map (Operation.redirect writeReference) := by
  have ownRead := readListed_parameters
    (Raw.lookup_changeField_self "parameters" parameters entries) older
  have named : Raw.lookup "operationId" (Raw.changeField "parameters" parameters entries) =
      Raw.lookup "operationId" entries := Raw.lookup_changeField_of_ne parameters (by decide) entries
  have summary : Raw.lookup "summary" (Raw.changeField "parameters" parameters entries) =
      Raw.lookup "summary" entries := Raw.lookup_changeField_of_ne parameters (by decide) entries
  rw [Operation.read, Operation.read, ownRead, named, Raw.lookupTruthy, summary,
    ← Raw.lookupTruthy]
  cases read : ContractParameter.readListed entries with
  | error fault => rfl
  | ok own =>
    have ownOlder : ∀ entry ∈ own, IsOlderEntry entry :=
      fun entry member => isOlderEntry_of_readListed older read member
    simp only [Except.map, bind, Except.bind, merge_redirect sharedOlder ownOlder]
    cases ContractFault.ofWritten (Raw.scalar path).written with
    | error fault => rfl
    | ok path =>
      exact ofChecked_map (Operation.redirect writeReference)
        (fun operationId summary =>
          { method, path, operationId, summary, parameters := ContractParameter.merge shared own })
        _ _

/-- What stands under a key of a path's item is an operation as before, or none as before. -/
theorem readEntry_itemValue (path : Scalar) (entry : Scalar × Raw)
    (older : ∀ value ∈ operationValues entry, IsOlderParameter value)
    (sharedOlder : ∀ entry ∈ shared, IsOlderEntry entry) :
    Operation.readEntry path (shared.map (ContractParameter.redirect writeReference))
        (entry.1, itemValue entry.1 entry.2) =
      (Operation.readEntry path shared entry).map
        (Option.map (Operation.redirect writeReference)) := by
  obtain ⟨key, value⟩ := entry
  cases key with
  | text name =>
    by_cases isMethod : Operation.methods.contains (Text.lowerString name) = true
    · have notList : name ≠ "parameters" := by
        rintro rfl
        exact absurd isMethod (by decide +kernel)
      cases value with
      | mapping entries =>
        rw [operationValues, if_pos isMethod] at older
        simp only [itemValue, notList, isMethod, ↓reduceIte, operation, Operation.readEntry]
        rw [read_operation path _ older sharedOlder]
        cases Operation.read path (Text.lowerString name) shared entries with
        | error fault => rfl
        | ok found => rfl
      | _ => simp only [itemValue, notList, isMethod, ↓reduceIte, operation]; rfl
    · -- under another key there is no operation, whatever the value is
      have none? : ∀ (shared : List ContractParameter) (value : Raw),
          Operation.readEntry path shared (.text name, value) = .ok none := by
        intro shared value
        cases value with
        | mapping entries => rw [Operation.readEntry, if_neg isMethod]
        | _ => rfl
      rw [none?, none?]
      rfl
  | _ => rfl

/-- The operations of a translated path item are read with their references redirected. -/
theorem readPath_item (path : Scalar) (value : Raw)
    (older : ∀ parameter ∈ itemValues value, IsOlderParameter parameter) :
    Operation.readPath (path, item value) =
      (Operation.readPath (path, value)).map
        (List.map (Operation.redirect writeReference)) := by
  cases value with
  | mapping entries =>
    rw [itemValues, List.forall_mem_append] at older
    have sharedFound : Raw.lookup "parameters" (Raw.mapEntries itemValue entries) =
        (Raw.lookup "parameters" entries).map parameters :=
      Raw.lookup_mapEntries itemValue "parameters" entries
    have sharedRead := readListed_parameters sharedFound older.1
    rw [item, Operation.readPath, Operation.readPath, sharedRead]
    cases read : ContractParameter.readListed entries with
    | error fault => rfl
    | ok shared =>
      have sharedOlder : ∀ entry ∈ shared, IsOlderEntry entry :=
        fun entry member => isOlderEntry_of_readListed older.1 read member
      have each : (Raw.mapEntries itemValue entries).mapM (Operation.readEntry path
          (shared.map (ContractParameter.redirect writeReference))) =
          (entries.mapM (Operation.readEntry path shared)).map
            (List.map (Option.map (Operation.redirect writeReference))) := by
        apply Outcome.mapM_map_of_forall
        intro entry member
        refine readEntry_itemValue path entry (fun value inEntry => ?_) sharedOlder
        exact older.2 value (List.mem_flatMap.mpr ⟨entry, member, inEntry⟩)
      simp only [Except.map, bind, Except.bind, each]
      cases entries.mapM (Operation.readEntry path shared) with
      | error fault => rfl
      | ok found =>
        simp only [List.filterMap_map, List.map_filterMap]
        rfl
  | _ => rfl

/-- The translated paths are truthy when the paths are. -/
theorem isTruthy_paths (value : Raw) : (paths value).isTruthy = value.isTruthy := by
  cases value with
  | mapping entries =>
    cases entries with
    | nil => rfl
    | cons first rest => rfl
  | _ => rfl

/-- **The operations.** Where the paths are written anew, the operations are read as before. -/
theorem readPaths_paths {changed : List (Scalar × Raw)}
    (found : Raw.lookup "paths" changed = (Raw.lookup "paths" entries).map paths)
    (older : ∀ value ∈ ((Raw.lookup "paths" entries).map pathValues).getD [],
      IsOlderParameter value) :
    Operation.readPaths changed =
      (Operation.readPaths entries).map (List.map (Operation.redirect writeReference)) := by
  rw [Operation.readPaths, Operation.readPaths,
    Raw.lookupTruthy_of_lookup_map found isTruthy_paths]
  cases shown : Raw.lookupTruthy "paths" entries with
  | none => rfl
  | some value =>
    have present : Raw.lookup "paths" entries = some value :=
      Raw.lookup_of_lookupTruthy shown
    rw [present] at older
    cases value with
    | mapping pathEntries =>
      have each : (Raw.mapEntries (fun _ => item) pathEntries).mapM Operation.readPath =
          (pathEntries.mapM Operation.readPath).map
            (List.map (List.map (Operation.redirect writeReference))) := by
        apply Outcome.mapM_map_of_forall
        intro entry member
        apply readPath_item entry.1 entry.2
        intro value inItem
        exact older value (List.mem_flatMap.mpr ⟨entry, member, inItem⟩)
      change ((Raw.mapEntries (fun _ => item) pathEntries).mapM Operation.readPath >>=
          fun operations => .ok operations.flatten) =
        (pathEntries.mapM Operation.readPath >>= fun operations => .ok operations.flatten).map
          (List.map (Operation.redirect writeReference))
      rw [each]
      cases pathEntries.mapM Operation.readPath with
      | error fault => rfl
      | ok operations => simp only [Except.map, bind, Except.bind, List.map_flatten]
    | _ => rfl

end ParameterDrift.Upgrade
