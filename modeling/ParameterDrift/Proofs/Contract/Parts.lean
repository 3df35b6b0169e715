import ParameterDrift.Contract.Reading
import ParameterDrift.Proofs.Checked
import ParameterDrift.Proofs.Raw.Entries
import ParameterDrift.Proofs.Raw.Writing
/-! # The parts that a contract is read from

A contract is made of its operations, its title and version, and its components, and each of them is
read from the document alone. The components come from two tables, of which the one at the top is
put in first. A schema is made of its type, its format and the schema of its items. What is taken as
a text has to be written.
-/

namespace ParameterDrift

/-- What is taken as a text is its written text. -/
theorem ContractFault.ofWritten_eq_ok_iff {value : Raw} {text : String} :
    ofWritten value.written = .ok text ↔ value.isWritable = true ∧ value.toText = text := by
  rw [ofWritten, Outcome.mapError_eq_ok_iff, Raw.written_eq_ok_iff]

/-- A value becomes a text when all its integers can be written. -/
theorem ContractFault.exists_ofWritten_iff {value : Raw} :
    (∃ text, ofWritten value.written = .ok text) ↔ value.isWritable = true := by
  simp only [ofWritten, Outcome.mapError_eq_ok_iff, Raw.exists_written_iff]

/-- A text that may be missing is read from a value that is written, which null is. -/
theorem Schema.readText_eq_ok_iff {value : Raw} {text : Option String} :
    readText value = .ok text ↔ value.isWritable = true ∧ textUnlessNull value = text := by
  simp only [readText, Outcome.map_eq_ok_iff, ContractFault.ofWritten_eq_ok_iff]
  exact ⟨fun ⟨_, ⟨writable, _⟩, same⟩ => ⟨writable, same⟩,
    fun ⟨writable, same⟩ => ⟨value.toText, ⟨writable, rfl⟩, same⟩⟩

/-- A text of a schema is read when its value can be written. -/
theorem Schema.exists_readText_iff {value : Raw} :
    (∃ text, readText value = .ok text) ↔ value.isWritable = true := by
  rw [readText, Outcome.exists_map_eq_ok_iff, ContractFault.exists_ofWritten_iff]

/-- A schema is read from its type, the schema of its items and its format. -/
theorem Schema.read_mapping (entries : List (Scalar × Raw)) :
    Schema.read (.mapping entries) = (do
      let type ← readType entries
      let items ← (Raw.lookup "items" entries).elim (.ok none) Schema.read
      let format ← ContractFault.ofChecked .schema
        (Checked.fieldOr "format" none (Checked.nullable Checked.text) entries)
      .ok (some ⟨type, format, items⟩)) := by
  rw [Schema.read]
  split
  · next value found =>
    rw [found]
    rfl
  · next found =>
    rw [found]
    rfl

/-- The text of what is under a name, unless it is null or missing. -/
theorem Schema.textUnlessNull_getD (value : Option Raw) :
    textUnlessNull (value.getD .null) = value.bind textUnlessNull := by
  cases value with
  | _ => rfl

namespace ContractParameter

variable {entries : List (Scalar × Raw)} {parameter : ContractParameter}

/-- A parameter in place is read from its name, its schema and its location. -/
theorem readInPlace_eq_ok_iff : readInPlace entries = .ok parameter ↔
    ∃ schema location, ((Raw.lookup "name" entries).getD .null).isWritable = true ∧
      Schema.read (schemaSource entries) = .ok schema ∧
      Checked.nullable Checked.text ((Raw.lookup "in" entries).getD .null) = .valid location ∧
      parameter =
        { name := (Raw.lookup "name" entries).bind Schema.textUnlessNull
          location
          required := ((Raw.lookup "required" entries).getD (.bool false)).isTruthy
          schema } := by
  simp only [readInPlace, Outcome.bind_eq_ok_iff, Schema.readText_eq_ok_iff,
    Schema.textUnlessNull_getD, ContractFault.ofChecked, Outcome.mapError_eq_ok_iff,
    Checked.toExcept_eq_ok_iff, Checked.under_eq_valid_iff, Except.ok.injEq]
  constructor
  · rintro ⟨_, ⟨writable, rfl⟩, schema, schemaRead, location, located, rfl⟩
    exact ⟨schema, location, writable, schemaRead, located, rfl⟩
  · rintro ⟨schema, location, writable, schemaRead, located, rfl⟩
    exact ⟨_, ⟨writable, rfl⟩, schema, schemaRead, location, located, rfl⟩

/-- A reference is read as its written text and nothing else. -/
theorem read_of_ref {ref : Raw} (written : Raw.lookup "$ref" entries = some ref) :
    read entries = .ok parameter ↔
      ref.isWritable = true ∧ parameter = { ref := some ref.toText } := by
  simp only [read, written, Outcome.map_eq_ok_iff, ContractFault.ofWritten_eq_ok_iff]
  constructor
  · rintro ⟨_, ⟨writable, rfl⟩, rfl⟩
    exact ⟨writable, rfl⟩
  · rintro ⟨writable, rfl⟩
    exact ⟨_, ⟨writable, rfl⟩, rfl⟩

/-- What is no reference is read in place. -/
theorem read_of_inPlace (unwritten : Raw.lookup "$ref" entries = none) :
    read entries = readInPlace entries := by
  rw [read, unwritten]

end ContractParameter

namespace Contract

/-- A mapping is read entry by entry. -/
theorem ofRaw_mapping (document : List (Scalar × Raw)) :
    ofRaw (.mapping document) = ofEntries document :=
  rfl

/-- What is read as a contract is a mapping. -/
theorem eq_mapping_of_ofRaw {document : Raw} {contract : Contract}
    (read : ofRaw document = .ok contract) : ∃ entries, document = .mapping entries := by
  cases document with
  | mapping entries => exact ⟨entries, rfl⟩
  | _ => cases read

/-- A contract is read part by part. -/
theorem ofEntries_eq_ok_iff {document : List (Scalar × Raw)} {contract : Contract} :
    ofEntries document = .ok contract ↔ ∃ operations info components,
      Operation.readPaths document = .ok operations ∧ readInfo document = .ok info ∧
      Components.read document = .ok components ∧
      contract = { title := info.1, version := info.2, operations, components } := by
  simp only [ofEntries, Outcome.bind_eq_ok_iff, Except.ok.injEq]
  constructor
  · rintro ⟨operations, pathsRead, info, infoRead, components, tablesRead, rfl⟩
    exact ⟨operations, info, components, pathsRead, infoRead, tablesRead, rfl⟩
  · rintro ⟨operations, info, components, pathsRead, infoRead, tablesRead, rfl⟩
    exact ⟨operations, pathsRead, info, infoRead, components, tablesRead, rfl⟩

/-- The title and the version depend on what stands under `info`. -/
theorem readInfo_congr {left right : List (Scalar × Raw)}
    (same : Raw.lookup "info" left = Raw.lookup "info" right) :
    readInfo left = readInfo right := by
  rw [readInfo, readInfo, infoEntries, infoEntries, Raw.lookupTruthy_congr same]

end Contract

namespace Components

/-- A reusable parameter is read under the text of its name. -/
theorem readNamed_eq_ok_iff {named : Scalar × List (Scalar × Raw)}
    {component : String × ContractParameter} : readNamed named = .ok component ↔
      named.1.isWritable = true ∧ component.1 = named.1.toText ∧
        ContractParameter.read named.2 = .ok component.2 := by
  simp only [readNamed, Outcome.bind_eq_ok_iff, ContractFault.ofWritten_eq_ok_iff,
    Except.ok.injEq]
  constructor
  · rintro ⟨_, ⟨writable, rfl⟩, parameter, read, rfl⟩
    exact ⟨writable, rfl, read⟩
  · rintro ⟨writable, name, read⟩
    exact ⟨_, ⟨writable, rfl⟩, component.2, read, Prod.ext name.symm rfl⟩

/-- The entries of a table depend on what stands under its name. -/
theorem tableEntries_congr {left right : List (Scalar × Raw)}
    (same : Raw.lookup "parameters" left = Raw.lookup "parameters" right) :
    tableEntries left = tableEntries right := by
  rw [tableEntries, tableEntries, Raw.lookupTruthy_congr same]

/-- The entries of the table among the components. -/
def nestedEntries (document : List (Scalar × Raw)) :
    Except ContractFault (List (Scalar × Raw)) :=
  match Raw.lookupTruthy "components" document with
  | none => tableEntries []
  | some components => do tableEntries (← ContractFault.ofShape components.entries?)

/-- The entries of both tables: the one at the top, then the one among the components. -/
theorem entries_eq (document : List (Scalar × Raw)) :
    entries document = (do
      let top ← tableEntries document
      let nested ← nestedEntries document
      .ok (Keyed.insertAllBy Scalar.sameKey (Keyed.insertAllBy Scalar.sameKey [] top) nested)) := by
  unfold entries nestedEntries
  cases tableEntries document with
  | error fault => rfl
  | ok top =>
    cases Raw.lookupTruthy "components" document with
    | none => rfl
    | some components =>
      exact (bind_assoc (ContractFault.ofShape components.entries?) tableEntries _).symm

end Components

end ParameterDrift
