import ParameterDrift.Proofs.Contract.Parts
import ParameterDrift.Proofs.Contract.Upgrade.Parameter
import ParameterDrift.Proofs.Keyed
/-! # Components written anew

The table at the top of an older document, moved among the components, stands for the same entries,
each written anew (`ParameterDrift.Upgrade.entries_documentEntries`). So the components are read as
before, with their references written anew (`ParameterDrift.Upgrade.read_documentEntries`).
-/

namespace ParameterDrift.Upgrade

variable {entries : List (Scalar × Raw)}

/-! ### The entries of a table -/

/-- The elements of a pair are its key and its value. -/
theorem elements_of_pair {element value : Raw} {key : Scalar}
    (paired : element.pair = .ok (key, value)) : element.elements = .ok [.scalar key, value] := by
  obtain ⟨elements, shaped, chosen⟩ := Outcome.bind_eq_ok_iff.mp paired
  split at chosen
  · cases chosen
    exact shaped
  · cases chosen
  · cases chosen

/-- An element that is not a list of two stands for no parameter. -/
theorem map_parameter_pair {element : Raw} (other : ∀ name value, element ≠ .list [name, value]) :
    element.pair.map (fun entry => (entry.1, parameter entry.2)) = element.pair := by
  cases paired : element.pair with
  | error fault => rfl
  | ok entry =>
    obtain ⟨key, value⟩ := entry
    have shaped := elements_of_pair paired
    have noList : ∀ items, element ≠ .list items := by
      rintro items rfl
      cases shaped
      exact other _ _ rfl
    -- only the items of a list have parts, so the second element is a scalar
    have last : value ∈ [.scalar key, value] := List.mem_cons_of_mem _ List.mem_cons_self
    obtain ⟨scalar, rfl⟩ := exists_scalar_of_mem_elements noList shaped last
    rfl

/-- An element of the table is taken to a pair with the translated value. -/
theorem pair_tableElement (element : Raw) :
    (tableElement element).pair =
      element.pair.map fun entry => (entry.1, parameter entry.2) := by
  unfold tableElement
  split
  · next name value =>
    cases name with
    | scalar key => rfl
    | _ => rfl
  · next other => exact (map_parameter_pair other).symm

/-- The entries that a table stands for are written anew with it. -/
theorem pairs_table (top : Raw) :
    (table top).pairs = top.pairs.map (Raw.mapEntries fun _ => parameter) := by
  cases top with
  | mapping entries => rfl
  | list elements =>
    change (elements.map tableElement).mapM Raw.pair = (elements.mapM Raw.pair).map _
    exact Outcome.mapM_map_of_forall fun element _ => pair_tableElement element
  | scalar scalar =>
    change (Raw.elements (.scalar scalar) >>= fun elements => elements.mapM Raw.pair) =
      (Raw.elements (.scalar scalar) >>= fun elements => elements.mapM Raw.pair).map _
    cases shaped : Raw.elements (.scalar scalar) with
    | error fault => rfl
    | ok elements =>
      have unchanged : elements.map tableElement = elements := by
        refine (List.map_congr_left fun element member => ?_).trans (List.map_id elements)
        have noList : ∀ items, Raw.scalar scalar ≠ .list items := by
          rintro items ⟨⟩
        obtain ⟨part, rfl⟩ := exists_scalar_of_mem_elements noList shaped member
        rfl
      have each : (elements.map tableElement).mapM Raw.pair = (elements.mapM Raw.pair).map _ :=
        Outcome.mapM_map_of_forall fun element _ => pair_tableElement element
      rw [unchanged] at each
      exact each

/-- The translated table is truthy when the table is. -/
theorem isTruthy_table (top : Raw) : (table top).isTruthy = top.isTruthy := by
  cases top with
  | mapping entries =>
    cases entries with
    | nil => rfl
    | cons first rest => rfl
  | list elements =>
    cases elements with
    | nil => rfl
    | cons first rest => rfl
  | _ => rfl

/-- The entries of the table that is moved are those of the table at the top. -/
theorem tableEntries_table (top : Raw) :
    Components.tableEntries [(.text "parameters", table top)] =
      (Components.tableEntries [(.text "parameters", top)]).map
        (Raw.mapEntries fun _ => parameter) := by
  have found : Raw.lookup "parameters" [(.text "parameters", table top)] =
      (Raw.lookup "parameters" [(.text "parameters", top)]).map table := rfl
  rw [Components.tableEntries, Components.tableEntries,
    Raw.lookupTruthy_of_lookup_map found isTruthy_table]
  cases shown : Raw.lookupTruthy "parameters" [(.text "parameters", top)] with
  | none => rfl
  | some value =>
    simp only [Option.map_some, pairs_table]
    cases value.pairs with
    | error fault => rfl
    | ok entries => rfl

/-- The values of a table that is read are among those that are translated. -/
theorem mem_tableValues {entry : Scalar × Raw} {found : List (Scalar × Raw)}
    (read : Components.tableEntries entries = .ok found) (member : entry ∈ found) :
    entry.2 ∈ ((Raw.lookup "parameters" entries).map tableValues).getD [] := by
  rw [Components.tableEntries] at read
  cases shown : Raw.lookupTruthy "parameters" entries with
  | none =>
    rw [shown] at read
    cases read
    cases member
  | some top =>
    rw [shown] at read
    have shaped : top.pairs = .ok found := Outcome.mapError_eq_ok_iff.mp read
    have present : Raw.lookup "parameters" entries = some top :=
      Raw.lookup_of_lookupTruthy shown
    rw [present, Option.map_some, Option.getD_some, tableValues, shaped]
    exact List.mem_map_of_mem member

/-! ### The components of a document -/

/-- An older document has no nested table. -/
theorem nestedEntries_of_older (older : IsOlder entries) :
    Components.nestedEntries entries = .ok [] := by
  rw [Components.nestedEntries, Raw.lookupTruthy, older.no_components]
  rfl

/-- **The entries of the components** are those of the table at the top, each written anew. -/
theorem entries_documentEntries (older : IsOlder entries) :
    Components.entries (documentEntries entries) =
      (Components.entries entries).map (Raw.mapEntries fun _ => parameter) := by
  have noTable : ∀ fields, Raw.lookup "parameters" fields = none →
      Components.tableEntries fields = .ok [] := by
    intro fields absent
    rw [Components.tableEntries, Raw.lookupTruthy, absent]
    rfl
  have noTop := noTable (documentEntries entries) lookup_parameters_documentEntries
  have moved : Components.nestedEntries (documentEntries entries) =
      (Components.tableEntries entries).map (Raw.mapEntries fun _ => parameter) := by
    rw [Components.nestedEntries, Raw.lookupTruthy, lookup_components_documentEntries older]
    cases top : Raw.lookup "parameters" entries with
    | none =>
      rw [noTable entries top]
      rfl
    | some value =>
      have same : Components.tableEntries entries =
          Components.tableEntries [(.text "parameters", value)] :=
        Components.tableEntries_congr top
      rw [same, ← tableEntries_table]
      rfl
  rw [Components.entries_eq, Components.entries_eq, noTop, nestedEntries_of_older older,
    moved]
  cases Components.tableEntries entries with
  | error fault => rfl
  | ok found =>
    have inserted : Keyed.insertAllBy Scalar.sameKey []
        (Raw.mapEntries (fun _ => parameter) found) =
        Raw.mapEntries (fun _ => parameter) (Keyed.insertAllBy Scalar.sameKey [] found) :=
      Keyed.insertAllBy_map [] found
    exact congrArg Except.ok inserted

/-- Every component of an older document is of the older form. -/
theorem isOlderParameter_of_entries (older : IsOlder entries) {found : List (Scalar × Raw)}
    {entry : Scalar × Raw} (tables : Components.entries entries = .ok found)
    (member : entry ∈ found) : IsOlderParameter entry.2 := by
  rw [Components.entries_eq, nestedEntries_of_older older] at tables
  obtain ⟨top, topRead, same⟩ := Outcome.bind_eq_ok_iff.mp tables
  cases same
  rcases Keyed.exists_of_mem_insertAllBy member with inserted | ⟨_, ⟨⟩, _⟩
  rcases Keyed.exists_of_mem_insertAllBy inserted with ⟨⟨⟩⟩ | ⟨own, among, equal⟩
  rw [← equal]
  exact older.parameters own.2 (List.mem_append_right _ (mem_tableValues topRead among))

/-- **The components.** They are read as before, with their references written anew. -/
theorem read_documentEntries (older : IsOlder entries) :
    Components.read (documentEntries entries) =
      (Components.read entries).map (Components.redirect writeReference) := by
  rw [Components.read, Components.read, entries_documentEntries older]
  cases tables : Components.entries entries with
  | error fault => rfl
  | ok found =>
    have chosen : (Raw.mapEntries (fun _ => parameter) found).filterMap Components.named? =
        (found.filterMap Components.named?).map fun named =>
          (named.1, parameterEntries named.2) := by
      rw [Raw.mapEntries, List.filterMap_map, List.map_filterMap]
      apply List.filterMap_congr
      intro entry _
      simp only [Function.comp_apply, Components.named?, entries?_parameter, Option.map_map]
      rfl
    have each : ((found.filterMap Components.named?).map fun named =>
        (named.1, parameterEntries named.2)).mapM Components.readNamed =
        ((found.filterMap Components.named?).mapM Components.readNamed).map
          (List.map fun named => (named.1, named.2.redirect writeReference)) := by
      apply Outcome.mapM_map_of_forall
      intro named member
      obtain ⟨entry, among, isNamed⟩ := List.mem_filterMap.mp member
      obtain ⟨own, isOwn, rfl⟩ := Option.map_eq_some_iff.mp isNamed
      have ownOlder := isOlderParameter_of_entries older tables among
      rw [eq_mapping_of_entries? isOwn] at ownOlder
      rw [Components.readNamed, Components.readNamed, read_parameterEntries ownOlder]
      cases ContractFault.ofWritten (Raw.scalar entry.1).written with
      | error fault => rfl
      | ok name =>
        cases ContractParameter.read own with
        | error fault => rfl
        | ok parameter => rfl
    change (((Raw.mapEntries (fun _ => parameter) found).filterMap Components.named?).mapM
        Components.readNamed >>= fun components => .ok (Keyed.ofList components)) =
      ((found.filterMap Components.named?).mapM Components.readNamed >>=
        fun components => .ok (Keyed.ofList components)).map (Components.redirect writeReference)
    rw [chosen, each]
    cases (found.filterMap Components.named?).mapM Components.readNamed with
    | error fault => rfl
    | ok components => exact congrArg Except.ok (Keyed.ofList_map components)

end ParameterDrift.Upgrade
