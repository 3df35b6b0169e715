import ParameterDrift.Proofs.Contract.Parts
/-! # Where the operations of a document stand

An operation stands under a path and a key of the path's item, when the item and the value under
the key are mappings and the key names a method. Which places there are is told by the document
alone, and a contract holds the operation of each, in order
(`ParameterDrift.Contract.forall₂_places_of_ofRaw`). What is read at a place depends on nothing but
the path, the key and two lists of parameters: that of the item and that of the operation.
-/

namespace ParameterDrift

/-- Where an operation stands. -/
structure OperationPlace where
  path : Scalar
  /-- The entries of the path's item. -/
  item : List (Scalar × Raw)
  key : String
  /-- The entries of the operation. -/
  entries : List (Scalar × Raw)

namespace OperationPlace

/-- The place of an operation under an entry of a path's item, if there is one. -/
def underEntry (path : Scalar) (item : List (Scalar × Raw)) : Scalar × Raw → Option OperationPlace
  | (.text key, .mapping entries) =>
    if Operation.methods.contains (Text.lowerString key) then some ⟨path, item, key, entries⟩
    else none
  | _ => none

/-- The places under a path. -/
def ofPath : Scalar × Raw → List OperationPlace
  | (path, .mapping item) => item.filterMap (underEntry path item)
  | _ => []

/-- The places under some paths. -/
def ofPaths : Raw → List OperationPlace
  | .mapping paths => paths.flatMap ofPath
  | _ => []

/-- The places of a document. -/
def ofDocument : Raw → List OperationPlace
  | .mapping entries => ((Raw.lookupTruthy "paths" entries).map ofPaths).getD []
  | _ => []

/-- The two lists of parameters that apply at a place: that of the path and that of the
operation. -/
def Lists (place : OperationPlace) (shared own : List ContractParameter) : Prop :=
  ContractParameter.readListed place.item = .ok shared ∧
    ContractParameter.readListed place.entries = .ok own

/-- The operation at a place, given the parameters of its path. -/
def read (shared : List ContractParameter) (place : OperationPlace) :
    Except ContractFault Operation :=
  Operation.read place.path (Text.lowerString place.key) shared place.entries

/-- What an operation at a place is made of. -/
structure Holds (place : OperationPlace) (operation : Operation) : Prop where
  path : operation.path = place.path.toText
  method : operation.method = Text.lowerString place.key
  parameters : ∃ shared own, place.Lists shared own ∧
    operation.parameters = ContractParameter.merge shared own

variable {place : OperationPlace} {shared : List ContractParameter} {operation : Operation}

/-- What is read at a place is the operation that the place holds. -/
theorem holds_of_read (listed : ContractParameter.readListed place.item = .ok shared)
    (read : place.read shared = .ok operation) : place.Holds operation := by
  obtain ⟨own, ownListed, later⟩ := Outcome.bind_eq_ok_iff.mp read
  obtain ⟨path, written, checked⟩ := Outcome.bind_eq_ok_iff.mp later
  obtain ⟨_, rfl⟩ := ContractFault.ofWritten_eq_ok_iff.mp written
  have valid := Checked.toExcept_eq_ok_iff.mp (Outcome.mapError_eq_ok_iff.mp checked)
  obtain ⟨fields, summary, named, _, rfl⟩ := Checked.seq_eq_valid_iff.mp valid
  obtain ⟨operationId, _, rfl⟩ := Checked.map_eq_valid_iff.mp named
  exact ⟨rfl, rfl, shared, own, ⟨listed, ownListed⟩, rfl⟩

/-! ### From the entries of a path to those of a document -/

/-- An entry is read when the place under it, if there is one, is read. -/
theorem rel_underEntry {path : Scalar} {item : List (Scalar × Raw)} {entry : Scalar × Raw}
    {found : Option Operation} (listed : ContractParameter.readListed item = .ok shared)
    (entryRead : Operation.readEntry path shared entry = .ok found) :
    Option.Rel Holds (underEntry path item entry) found := by
  obtain ⟨key, value⟩ := entry
  cases key with
  | text key =>
    cases value with
    | mapping entries =>
      simp only [Operation.readEntry] at entryRead
      rw [underEntry]
      split at entryRead
      · next isMethod =>
        obtain ⟨operation, read, rfl⟩ := Outcome.map_eq_ok_iff.mp entryRead
        rw [if_pos isMethod]
        exact .some (holds_of_read listed read)
      · next other =>
        cases entryRead
        rw [if_neg other]
        exact .none
    | _ =>
      cases entryRead
      exact .none
  | _ => cases entryRead

/-- The operations of a path are those of its places, in order. -/
theorem forall₂_ofPath {entry : Scalar × Raw} {operations : List Operation}
    (read : Operation.readPath entry = .ok operations) :
    List.Forall₂ Holds (ofPath entry) operations := by
  obtain ⟨path, value⟩ := entry
  cases value with
  | mapping item =>
    obtain ⟨shared, listed, later⟩ := Outcome.bind_eq_ok_iff.mp read
    obtain ⟨found, entriesRead, same⟩ := Outcome.bind_eq_ok_iff.mp later
    cases same
    refine List.rel_filterMap ?_ (Outcome.mapM_eq_ok_iff.mp entriesRead)
    intro entry outcome entryRead
    exact rel_underEntry listed entryRead
  | _ =>
    cases read
    exact .nil

/-- The operations of a document are those of its places, in order. -/
theorem forall₂_ofEntries {entries : List (Scalar × Raw)} {operations : List Operation}
    (read : Operation.readPaths entries = .ok operations) :
    List.Forall₂ Holds (ofDocument (.mapping entries)) operations := by
  unfold Operation.readPaths at read
  change List.Forall₂ Holds (((Raw.lookupTruthy "paths" entries).map ofPaths).getD []) operations
  cases found : Raw.lookupTruthy "paths" entries with
  | none =>
    rw [found] at read
    cases read
    exact .nil
  | some paths =>
    rw [found] at read
    obtain ⟨pathEntries, shaped, later⟩ := Outcome.bind_eq_ok_iff.mp read
    obtain ⟨operations, pathsRead, same⟩ := Outcome.bind_eq_ok_iff.mp later
    cases same
    cases paths with
    | mapping paths =>
      cases shaped
      refine List.rel_flatten (List.forall₂_map_left_iff.mpr ?_)
      exact (Outcome.mapM_eq_ok_iff.mp pathsRead).imp fun _ _ => forall₂_ofPath
    | _ => cases shaped

end OperationPlace

/-- **The operations of a contract** are those at the places of its document, in order. -/
theorem Contract.forall₂_places_of_ofRaw {document : Raw} {contract : Contract}
    (read : Contract.ofRaw document = .ok contract) :
    List.Forall₂ OperationPlace.Holds (OperationPlace.ofDocument document)
      contract.operations := by
  obtain ⟨entries, rfl⟩ := eq_mapping_of_ofRaw read
  obtain ⟨operations, _, _, pathsRead, _, _, rfl⟩ := ofEntries_eq_ok_iff.mp read
  exact OperationPlace.forall₂_ofEntries pathsRead

end ParameterDrift
