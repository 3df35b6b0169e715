import ParameterDrift.Proofs.Checked
import ParameterDrift.Proofs.Contract.MergeOrder
import ParameterDrift.Proofs.Contract.Places
import ParameterDrift.Proofs.Contract.Reference
import ParameterDrift.Proofs.Raw.Entries
/-! # Parts of a body

The parts of a body are left out wherever a contract reads parameters: from the lists of the paths
and of the operations, and from both tables of components. So no parameter of a contract is a part
of a body, and neither is what an entry refers to
(`ParameterDrift.Contract.not_isBody_of_resolve`). Nothing else is left out: every other mapping in
a list has its key among those of the operation
(`ParameterDrift.OperationPlace.Holds.writtenKey_mem`).
-/

namespace ParameterDrift

namespace ContractParameter

variable {entries : List (Scalar × Raw)} {parameter entry : ContractParameter}
  {parameters shared own : List ContractParameter} {components : Components}

/-- A parameter that is a part of a body. -/
def IsBody (parameter : ContractParameter) : Prop :=
  parameter.location = some "body" ∨ parameter.location = some "formData"

/-- The entries are those of a part of a body. -/
def WritesBody (entries : List (Scalar × Raw)) : Prop :=
  Raw.lookup "in" entries = some (.text "body") ∨
    Raw.lookup "in" entries = some (.text "formData")

/-- The key that is written in a mapping: its reference, or else its name and location. -/
def writtenKey (entries : List (Scalar × Raw)) : Option String × Option String :=
  match Raw.lookup "$ref" entries with
  | some ref => (some "$ref", some ref.toText)
  | none => ((Raw.lookup "name" entries).bind Schema.textUnlessNull,
      (Raw.lookup "in" entries).bind Schema.textUnlessNull)

/-! ### One parameter -/

theorem isBodyLocation_iff {value : Raw} :
    isBodyLocation value ↔ value = .text "body" ∨ value = .text "formData" := by
  cases value with
  | scalar s =>
    cases s with
    | text location => simp [isBodyLocation, bodyLocations]
    | _ => simp [isBodyLocation]
  | _ => simp [isBodyLocation]

theorem isBodyLocation_lookup_iff :
    isBodyLocation ((Raw.lookup "in" entries).getD .null) ↔ WritesBody entries := by
  rw [isBodyLocation_iff, WritesBody]
  cases Raw.lookup "in" entries with
  | none => simp
  | some location => rw [Option.getD_some, Option.some.injEq, Option.some.injEq]

/-- A mapping stands for a parameter unless it is a part of a body. -/
theorem entries?_eq_some_iff {value : Raw} :
    entries? value = some entries ↔ value = .mapping entries ∧ ¬ WritesBody entries := by
  cases value with
  | mapping others =>
    rw [entries?, Raw.mapping.injEq, Option.ite_none_left_eq_some, isBodyLocation_lookup_iff,
      Option.some.injEq, and_comm]
    apply and_congr_right
    rintro rfl
    rfl
  | _ => simp [entries?]

/-- A parameter in place has the name and the location that are written. -/
theorem mergeKey_of_readInPlace (read : readInPlace entries = .ok parameter) :
    parameter.mergeKey = ((Raw.lookup "name" entries).bind Schema.textUnlessNull,
      (Raw.lookup "in" entries).bind Schema.textUnlessNull) ∧
    ∀ s, parameter.location = some s → Raw.lookup "in" entries = some (.text s) := by
  obtain ⟨schema, location, _, _, located, rfl⟩ := readInPlace_eq_ok_iff.mp read
  have written := Checked.nullable_text_eq_valid_iff.mp located
  cases given : Raw.lookup "in" entries with
  | none =>
    rw [given] at written
    rcases written with ⟨_, rfl⟩ | ⟨s, ⟨⟩, _⟩
    exact ⟨rfl, nofun⟩
  | some value =>
    rw [given, Option.getD_some] at written
    rcases written with ⟨rfl, rfl⟩ | ⟨s, rfl, rfl⟩
    · exact ⟨rfl, nofun⟩
    · exact ⟨rfl, fun other same => by rw [Option.some.inj same]⟩

/-- A parameter that is read has the key that is written. -/
theorem mergeKey_of_read (read : ContractParameter.read entries = .ok parameter) :
    parameter.mergeKey = writtenKey entries := by
  unfold writtenKey
  cases written : Raw.lookup "$ref" entries with
  | some ref =>
    obtain ⟨_, rfl⟩ := (read_of_ref written).mp read
    rfl
  | none =>
    rw [read_of_inPlace written] at read
    exact (mergeKey_of_readInPlace read).1

/-- What is not written as a part of a body is not read as one. -/
theorem not_isBody_of_read (read : ContractParameter.read entries = .ok parameter)
    (notBody : ¬ WritesBody entries) : ¬ parameter.IsBody := by
  cases found : Raw.lookup "$ref" entries with
  | some ref =>
    obtain ⟨_, rfl⟩ := (read_of_ref found).mp read
    rintro (⟨⟨⟩⟩ | ⟨⟨⟩⟩)
  | none =>
    rw [read_of_inPlace found] at read
    obtain ⟨_, written⟩ := mergeKey_of_readInPlace read
    intro isBody
    exact notBody (isBody.imp (written "body") (written "formData"))

/-! ### Lists of parameters -/

/-- No parameter of a list that is read is part of a body. -/
theorem not_isBody_of_readListed (read : readListed entries = .ok parameters) :
    ∀ parameter ∈ parameters, ¬ parameter.IsBody := by
  intro parameter member
  unfold readListed at read
  split at read
  · cases read
    cases member
  · obtain ⟨values, _, listRead⟩ := Outcome.bind_eq_ok_iff.mp read
    obtain ⟨fields, among, fieldsRead⟩ := Outcome.exists_of_mem_mapM listRead member
    obtain ⟨value, _, stands⟩ := List.mem_filterMap.mp among
    exact not_isBody_of_read fieldsRead (entries?_eq_some_iff.mp stands).2

/-- Every mapping in a list that is not a part of a body is read, with the key that is written. -/
theorem writtenKey_mem_of_readListed {items : List Raw} {fields : List (Scalar × Raw)}
    (read : readListed entries = .ok parameters)
    (listed : Raw.lookup "parameters" entries = some (.list items))
    (member : .mapping fields ∈ items) (notBody : ¬ WritesBody fields) :
    writtenKey fields ∈ parameters.map mergeKey := by
  have shown : Raw.lookupTruthy "parameters" entries = some (.list items) := by
    apply Raw.lookupTruthy_of_lookup listed
    cases items with
    | nil => cases member
    | cons first rest => rfl
  rw [readListed, shown] at read
  have among : fields ∈ items.filterMap entries? :=
    List.mem_filterMap.mpr ⟨_, member, entries?_eq_some_iff.mpr ⟨rfl, notBody⟩⟩
  obtain ⟨parameter, parameterMember, parameterRead⟩ := Outcome.exists_mem_of_mapM read among
  rw [← mergeKey_of_read parameterRead]
  exact List.mem_map_of_mem parameterMember

/-! ### References -/

/-- What an entry resolves to has the location of the entry or that of a component. -/
theorem location_of_resolve (resolves : entry.resolve components = .ok parameter) :
    parameter = entry ∨ ∃ component ∈ components, parameter.location = component.2.location := by
  unfold resolve at resolves
  split at resolves
  · cases resolves
    exact .inl rfl
  · split at resolves
    · cases resolves
    · next name target found =>
      split at resolves
      · cases resolves
      · cases resolves
        obtain ⟨other, _, looked⟩ := Option.bind_eq_some_iff.mp found
        obtain ⟨held, present, same⟩ := Option.map_eq_some_iff.mp looked
        cases same
        exact .inr ⟨_, Keyed.mem_of_lookup present, rfl⟩

end ContractParameter

open ContractParameter

/-! ### Components -/

/-- No component that is read is part of a body. -/
theorem Components.not_isBody_of_read {document : List (Scalar × Raw)} {components : Components}
    (read : Components.read document = .ok components) :
    ∀ component ∈ components, ¬ component.2.IsBody := by
  intro component member
  obtain ⟨table, _, later⟩ := Outcome.bind_eq_ok_iff.mp read
  obtain ⟨named, namedRead, same⟩ := Outcome.bind_eq_ok_iff.mp later
  cases same
  rcases Keyed.exists_of_mem_insertAllBy member with ⟨⟨⟩⟩ | ⟨pair, among, equal⟩
  obtain ⟨fields, chosen, fieldsRead⟩ := Outcome.exists_of_mem_mapM namedRead among
  obtain ⟨_, _, parameterRead⟩ := readNamed_eq_ok_iff.mp fieldsRead
  obtain ⟨entry, _, stands⟩ := List.mem_filterMap.mp chosen
  obtain ⟨others, entryStands, rfl⟩ := Option.map_eq_some_iff.mp stands
  rw [← equal]
  exact ContractParameter.not_isBody_of_read parameterRead (entries?_eq_some_iff.mp entryStands).2

/-! ### Contracts -/

namespace OperationPlace.Holds

variable {place : OperationPlace} {operation : Operation}

/-- No parameter of an operation at its place is part of a body. -/
theorem not_isBody (holds : place.Holds operation) :
    ∀ entry ∈ operation.parameters, ¬ entry.IsBody := by
  obtain ⟨shared, own, ⟨sharedRead, ownRead⟩, merged⟩ := holds.parameters
  intro entry member
  rw [merged] at member
  rcases List.mem_append.mp (mem_of_mem_merge member) with inShared | inOwn
  · exact not_isBody_of_readListed sharedRead entry inShared
  · exact not_isBody_of_readListed ownRead entry inOwn

/-- **Nothing else is left out.** Every mapping in the two lists of a place that is not a part of a
body has its key among the parameters of the operation. -/
theorem writtenKey_mem (holds : place.Holds operation) {items : List Raw}
    {fields : List (Scalar × Raw)}
    (listed : Raw.lookup "parameters" place.item = some (.list items) ∨
      Raw.lookup "parameters" place.entries = some (.list items))
    (member : .mapping fields ∈ items) (notBody : ¬ WritesBody fields) :
    writtenKey fields ∈ operation.parameters.map mergeKey := by
  obtain ⟨shared, own, ⟨sharedRead, ownRead⟩, merged⟩ := holds.parameters
  rw [merged, (isMerge_merge shared own).complete]
  exact listed.imp
    (fun listed => writtenKey_mem_of_readListed sharedRead listed member notBody)
    fun listed => writtenKey_mem_of_readListed ownRead listed member notBody

end OperationPlace.Holds

namespace Contract

variable {document : Raw} {contract : Contract}

/-- No parameter of an operation of the contract is part of a body. -/
theorem not_isBody_of_mem (read : ofRaw document = .ok contract) {operation : Operation}
    (member : operation ∈ contract.operations) : ∀ entry ∈ operation.parameters, ¬ entry.IsBody := by
  obtain ⟨index, inRange, rfl⟩ := List.mem_iff_getElem.mp member
  have each := List.forall₂_iff_get.mp (forall₂_places_of_ofRaw read)
  have placed := each.2 index (each.1 ▸ inRange) inRange
  exact placed.not_isBody

/-- No component of the contract is part of a body. -/
theorem not_isBody_of_component (read : ofRaw document = .ok contract) :
    ∀ component ∈ contract.components, ¬ component.2.IsBody := by
  obtain ⟨entries, rfl⟩ := eq_mapping_of_ofRaw read
  obtain ⟨_, _, components, _, _, tablesRead, rfl⟩ := ofEntries_eq_ok_iff.mp read
  exact Components.not_isBody_of_read tablesRead

/-- **No entry leads to a part of a body.** -/
theorem not_isBody_of_resolve (read : ofRaw document = .ok contract) {operation : Operation}
    (member : operation ∈ contract.operations) {entry parameter : ContractParameter}
    (entryMember : entry ∈ operation.parameters)
    (resolves : entry.resolve contract.components = .ok parameter) : ¬ parameter.IsBody := by
  rcases location_of_resolve resolves with rfl | ⟨component, among, same⟩
  · exact not_isBody_of_mem read member _ entryMember
  · rw [IsBody, same]
    exact not_isBody_of_component read component among

end Contract

end ParameterDrift
