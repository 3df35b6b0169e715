import ParameterDrift.Proofs.Checked
import ParameterDrift.Proofs.Contract.Parts
/-! # Readable contracts

Most positions of a document accept any value. Which positions do not, and what they ask for, is
stated here part by part: from a schema to a parameter, a list of parameters, an operation, a path
and a whole document. Some ask for a shape, others take any value as a text and ask that it be
writable. A document can be read as a contract exactly when it is readable in this sense
(`ParameterDrift.Contract.exists_ofEntries_iff`).
-/

namespace ParameterDrift

open ContractFault (ofShape ofWritten ofChecked)

/-! ### What a document is asked for -/

namespace Raw

/-- A value that is null or a text. -/
def IsTextOrNull (value : Raw) : Prop :=
  value = .null ∨ ∃ s, value = .text s

/-- A value that has elements. -/
def IsIterable (value : Raw) : Prop :=
  ∃ elements, value.elements = .ok elements

/-- A value that is a mapping. -/
def IsMapping (value : Raw) : Prop :=
  ∃ entries, value = .mapping entries

/-- A value of which every integer, at any depth, has no more digits than are written. -/
def IsWritable (value : Raw) : Prop :=
  value.isWritable = true

/-- What is under a name, if anything is, is as it is asked for. -/
def Field (name : String) (asked : Raw → Prop) (entries : List (Scalar × Raw)) : Prop :=
  ∀ value, lookup name entries = some value → asked value

end Raw

/-- A schema is readable when its type is writable, its format is a text or null and the schema of
its items is readable; what is not a mapping is no schema. -/
inductive Schema.IsReadable : Raw → Prop
  | mapping {entries : List (Scalar × Raw)} :
      (countingType ((Raw.lookup "type" entries).getD .null)).IsWritable →
      (∀ format, Raw.lookup "format" entries = some format → format.IsTextOrNull) →
      (∀ items, Raw.lookup "items" entries = some items → IsReadable items) →
      IsReadable (.mapping entries)
  | other {value : Raw} : ¬ value.IsMapping → IsReadable value

namespace ContractParameter

/-- A parameter is readable when it is a reference that is writable, or when its name is writable,
its schema is readable and its location is a text or null. -/
inductive IsReadable (entries : List (Scalar × Raw)) : Prop
  | reference {ref : Raw} : Raw.lookup "$ref" entries = some ref → ref.IsWritable →
      IsReadable entries
  | inPlace : Raw.lookup "$ref" entries = none →
      ((Raw.lookup "name" entries).getD .null).IsWritable →
      Schema.IsReadable (schemaSource entries) →
      ((Raw.lookup "in" entries).getD .null).IsTextOrNull → IsReadable entries

/-- A value is readable among parameters when it is a readable parameter or none at all. -/
def ValueReadable (value : Raw) : Prop :=
  ∀ entries, entries? value = some entries → IsReadable entries

/-- The listed parameters are readable when the list, if there is one, has elements and each of them
is readable. -/
def ListReadable (entries : List (Scalar × Raw)) : Prop :=
  ∀ listed, Raw.lookupTruthy "parameters" entries = some listed →
    ∃ values, listed.elements = .ok values ∧ ∀ value ∈ values, ValueReadable value

end ContractParameter

namespace Operation

/-- An operation is readable when its parameters are, its path is writable, its identifier is a text
or null, and its summary, if it has one, is a text. -/
structure IsReadable (path : Scalar) (entries : List (Scalar × Raw)) : Prop where
  parameters : ContractParameter.ListReadable entries
  path : path.isWritable = true
  operationId : ((Raw.lookup "operationId" entries).getD .null).IsTextOrNull
  summary : ∀ summary, Raw.lookupTruthy "summary" entries = some summary →
    ∃ s, summary = .text s

/-- An entry of a path is readable when its key is a text and what stands under a method is a
readable operation or no operation at all. -/
def EntryReadable (path : Scalar) (entry : Scalar × Raw) : Prop :=
  ∃ key, entry.1 = .text key ∧
    (methods.contains (Text.lowerString key) →
      ∀ entries, entry.2 = .mapping entries → IsReadable path entries)

/-- A path is readable when its parameters and its entries are; what is not a mapping has no
operations. -/
def PathReadable (path : Scalar × Raw) : Prop :=
  ∀ entries, path.2 = .mapping entries →
    ContractParameter.ListReadable entries ∧ ∀ entry ∈ entries, EntryReadable path.1 entry

/-- The paths of a document are readable when they are entries of a mapping and each of them is
readable. -/
def PathsReadable (document : List (Scalar × Raw)) : Prop :=
  ∀ paths, Raw.lookupTruthy "paths" document = some paths →
    ∃ entries, paths = .mapping entries ∧ ∀ path ∈ entries, PathReadable path

end Operation

namespace Components

/-- A table of parameters has a shape when it stands for entries. -/
def TableShaped (entries : List (Scalar × Raw)) : Prop :=
  ∀ table, Raw.lookupTruthy "parameters" entries = some table → ∃ pairs, table.pairs = .ok pairs

/-- An entry of a table is readable when it stands for no parameter, or for a readable one under a
name that is writable. -/
def EntryReadable (entry : Scalar × Raw) : Prop :=
  ∀ entries, ContractParameter.entries? entry.2 = some entries →
    entry.1.isWritable = true ∧ ContractParameter.IsReadable entries

/-- The components of a document are readable when both tables stand for entries and every entry
that is left when the tables are put together is readable. -/
structure IsReadable (document : List (Scalar × Raw)) : Prop where
  top : TableShaped document
  nested : ∀ components, Raw.lookupTruthy "components" document = some components →
    ∃ entries, components = .mapping entries ∧ TableShaped entries
  parameters : ∀ table, entries document = .ok table →
    ∀ entry ∈ table, EntryReadable entry

end Components

/-- A document is readable as a contract when its paths and its components are readable and its
information, if it has any, is a mapping with a title and a version that are writable. -/
structure Contract.IsReadable (document : List (Scalar × Raw)) : Prop where
  paths : Operation.PathsReadable document
  info : ∀ info, Raw.lookupTruthy "info" document = some info →
    ∃ entries, info = .mapping entries ∧ Raw.Field "title" Raw.IsWritable entries ∧
      Raw.Field "version" Raw.IsWritable entries
  components : Components.IsReadable document

variable {entries document : List (Scalar × Raw)} {value : Raw}

/-! ### Shapes and texts -/

namespace Raw

theorem entries?_eq_ok_iff : value.entries? = .ok entries ↔ value = .mapping entries := by
  cases value with
  | mapping others => simp only [entries?, Except.ok.injEq, mapping.injEq]
  | _ => exact iff_of_false (by rintro ⟨⟩) (by rintro ⟨⟩)

end Raw

namespace Checked

theorem exists_text_iff : (∃ s, text value = .valid s) ↔ ∃ s, value = .text s := by
  simp only [text_eq_valid_iff]

theorem exists_nullable_text_iff :
    (∃ found, nullable text value = .valid found) ↔ value.IsTextOrNull := by
  simp only [nullable_text_eq_valid_iff, Raw.IsTextOrNull]
  constructor
  · intro given
    obtain ⟨_, ⟨isNull, _⟩ | ⟨s, isText, _⟩⟩ := given
    · exact .inl isNull
    · exact .inr ⟨s, isText⟩
  · intro given
    rcases given with isNull | ⟨s, isText⟩
    · exact ⟨none, .inl ⟨isNull, rfl⟩⟩
    · exact ⟨some s, .inr ⟨s, isText, rfl⟩⟩

end Checked

/-- A record is made when its check passes. -/
theorem ContractFault.exists_ofChecked_iff {α : Type} {record : ContractRecord}
    {checked : Checked α} :
    (∃ a, ofChecked record checked = .ok a) ↔ ∃ a, checked = .valid a := by
  simp only [ofChecked, Outcome.mapError_eq_ok_iff, Checked.toExcept_eq_ok_iff]

/-! ### Schemas -/

namespace Schema

/-- The schema of a mapping is read when its type is writable, its format is a text or null and the
schema of its items is read. -/
theorem exists_read_mapping_iff : (∃ schema, read (.mapping entries) = .ok schema) ↔
    (countingType ((Raw.lookup "type" entries).getD .null)).isWritable = true ∧
    (∀ format, Raw.lookup "format" entries = some format → format.IsTextOrNull) ∧
      ∀ items, Raw.lookup "items" entries = some items → ∃ schema, read items = .ok schema := by
  have formats : (∃ format, ofChecked .schema
      (Checked.fieldOr "format" none (Checked.nullable Checked.text) entries) = .ok format) ↔
        ∀ format, Raw.lookup "format" entries = some format → format.IsTextOrNull := by
    rw [ContractFault.exists_ofChecked_iff, Checked.exists_fieldOr_iff]
    simp only [Checked.exists_nullable_text_iff]
  have items : (∃ schema, (Raw.lookup "items" entries).elim (.ok none) read = .ok schema) ↔
      ∀ items, Raw.lookup "items" entries = some items → ∃ schema, read items = .ok schema := by
    cases Raw.lookup "items" entries with
    | none => exact Outcome.exists_default_iff
    | some items => simp only [Option.elim_some, Option.some.injEq, forall_eq']
  have types : (∃ type, readType entries = .ok type) ↔
      (countingType ((Raw.lookup "type" entries).getD .null)).isWritable = true :=
    exists_readText_iff
  rw [read_mapping, ← formats, ← items, ← types]
  simp only [Outcome.exists_bind_eq_ok_iff, Except.ok.injEq, exists_eq', and_true]
  exact ⟨fun ⟨type, typeRead, schema, itemsRead, format⟩ =>
      ⟨⟨type, typeRead⟩, format, schema, itemsRead⟩,
    fun ⟨⟨type, typeRead⟩, format, schema, itemsRead⟩ =>
      ⟨type, typeRead, schema, itemsRead, format⟩⟩

/-- What is no mapping is read as no schema. -/
theorem read_of_not_mapping (other : ¬ value.IsMapping) : read value = .ok none := by
  cases value with
  | mapping entries => exact absurd ⟨entries, rfl⟩ other
  | _ => rw [read]; intro entries same; cases same

/-- A readable value is read as a schema, its items first. -/
theorem exists_read_of_isReadable (readable : IsReadable value) :
    ∃ schema, read value = .ok schema := by
  induction readable with
  | mapping type formats _ ih => exact exists_read_mapping_iff.mpr ⟨type, formats, ih⟩
  | other notMapping => exact ⟨none, read_of_not_mapping notMapping⟩

/-- A value that is read as a schema is readable, again along its items. -/
theorem isReadable_of_read : (value : Raw) → (∃ schema, read value = .ok schema) → IsReadable value
  | .mapping _, done =>
    have ⟨type, formats, items⟩ := exists_read_mapping_iff.mp done
    .mapping type formats fun value found => isReadable_of_read value (items value found)
  | .scalar _, _ => .other (by rintro ⟨_, ⟨⟩⟩)
  | .list _, _ => .other (by rintro ⟨_, ⟨⟩⟩)
termination_by value => sizeOf value
decreasing_by
  have := Raw.sizeOf_lookup_lt found
  simp only [Raw.mapping.sizeOf_spec]
  omega

/-- A value is read as a schema when it is readable. -/
theorem exists_read_iff : (∃ schema, read value = .ok schema) ↔ IsReadable value :=
  ⟨isReadable_of_read value, exists_read_of_isReadable⟩

end Schema

/-! ### Parameters -/

namespace ContractParameter

/-- A parameter is read when its entries are readable. -/
theorem exists_read_iff : (∃ parameter, read entries = .ok parameter) ↔ IsReadable entries := by
  have inPlace : (∃ parameter, readInPlace entries = .ok parameter) ↔
      ((Raw.lookup "name" entries).getD .null).isWritable = true ∧
        Schema.IsReadable (schemaSource entries) ∧
          ((Raw.lookup "in" entries).getD .null).IsTextOrNull := by
    simp only [readInPlace, Outcome.exists_bind_eq_ok_iff, Except.ok.injEq, exists_eq', and_true,
      ContractFault.exists_ofChecked_iff, Checked.under_eq_valid_iff,
      Checked.exists_nullable_text_iff, exists_and_right, Schema.exists_read_iff,
      Schema.exists_readText_iff]
  constructor
  · rintro ⟨parameter, done⟩
    cases found : Raw.lookup "$ref" entries with
    | some ref => exact .reference found ((read_of_ref found).mp done).1
    | none =>
      rw [read_of_inPlace found] at done
      obtain ⟨name, schema, location⟩ := inPlace.mp ⟨parameter, done⟩
      exact .inPlace found name schema location
  · intro readable
    cases readable with
    | reference found writable => exact ⟨_, (read_of_ref found).mpr ⟨writable, rfl⟩⟩
    | inPlace found name schema location =>
      rw [read_of_inPlace found]
      exact inPlace.mpr ⟨name, schema, location⟩

/-- Values are read as parameters when each of them is readable. -/
theorem exists_readAll_iff {values : List Raw} :
    (∃ parameters, readAll values = .ok parameters) ↔ ∀ value ∈ values, ValueReadable value := by
  simp only [readAll, Outcome.exists_mapM_eq_ok_iff, List.mem_filterMap, exists_read_iff,
    ValueReadable]
  exact ⟨fun given value member entries stands => given entries ⟨value, member, stands⟩,
    fun given entries ⟨value, member, stands⟩ => given value member entries stands⟩

/-- The parameters of an item are read when its list is readable. -/
theorem exists_readListed_iff :
    (∃ parameters, readListed entries = .ok parameters) ↔ ListReadable entries := by
  rw [readListed, ListReadable]
  cases Raw.lookupTruthy "parameters" entries with
  | none => exact Outcome.exists_default_iff
  | some listed =>
    simp only [Outcome.exists_bind_eq_ok_iff, exists_readAll_iff, Option.some.injEq, forall_eq',
      ofShape, Outcome.mapError_eq_ok_iff]

end ContractParameter

/-! ### Operations -/

namespace Operation

variable {path : Scalar} {method : String} {shared : List ContractParameter} {entry : Scalar × Raw}

/-- An operation is read when its entries are readable. -/
theorem exists_read_iff :
    (∃ operation, read path method shared entries = .ok operation) ↔ IsReadable path entries := by
  have summaries : (∃ s, Checked.text ((Raw.lookupTruthy "summary" entries).getD (.text "")) =
      .valid s) ↔ ∀ summary, Raw.lookupTruthy "summary" entries = some summary →
        ∃ s, summary = .text s := by
    rw [Checked.exists_text_iff]
    cases Raw.lookupTruthy "summary" entries with
    | none => exact iff_of_true ⟨"", rfl⟩ (by rintro _ ⟨⟩)
    | some summary => simp only [Option.getD_some, Option.some.injEq, forall_eq']
  simp only [read, Outcome.exists_bind_eq_ok_iff, ContractFault.exists_ofChecked_iff,
    Checked.exists_seq_eq_valid_iff, Checked.exists_map_eq_valid_iff, Checked.under_eq_valid_iff,
    Checked.exists_nullable_text_iff, summaries, exists_and_right,
    ContractParameter.exists_readListed_iff, ContractFault.exists_ofWritten_iff]
  exact ⟨fun ⟨parameters, path, operationId, summary⟩ => ⟨parameters, path, operationId, summary⟩,
    fun readable =>
      ⟨readable.parameters, readable.path, readable.operationId, readable.summary⟩⟩

/-- An entry of a path item is read when it is readable. -/
theorem exists_readEntry_iff :
    (∃ found, readEntry path shared entry = .ok found) ↔ EntryReadable path entry := by
  obtain ⟨key, value⟩ := entry
  cases key with
  | text key =>
    cases value with
    | mapping entries => 
      simp only [readEntry, EntryReadable, Scalar.text.injEq, exists_eq_left', Raw.mapping.injEq,
        forall_eq']
      split
      · next isMethod =>
        rw [Outcome.exists_map_eq_ok_iff, exists_read_iff, forall_prop_of_true isMethod]
      · next other => exact ⟨fun _ isMethod => absurd isMethod other, fun _ => ⟨none, rfl⟩⟩
    | _ =>
      exact iff_of_true ⟨none, rfl⟩ ⟨key, rfl, by rintro _ _ ⟨⟩⟩
  | _ => exact iff_of_false (by rintro ⟨_, ⟨⟩⟩) (by rintro ⟨_, ⟨⟩, _⟩)

/-- A path is read when its item is readable. -/
theorem exists_readPath_iff :
    (∃ operations, readPath entry = .ok operations) ↔ PathReadable entry := by
  obtain ⟨path, value⟩ := entry
  cases value with
  | mapping entries =>
    simp only [readPath, Outcome.exists_bind_eq_ok_iff, Except.ok.injEq, exists_eq', and_true,
      Outcome.exists_mapM_eq_ok_iff, exists_readEntry_iff, exists_and_right,
      ContractParameter.exists_readListed_iff, PathReadable, Raw.mapping.injEq, forall_eq']
  | _ => exact iff_of_true ⟨[], rfl⟩ (by rintro _ ⟨⟩)

/-- The operations of a document are read when its paths are readable. -/
theorem exists_readPaths_iff :
    (∃ operations, readPaths document = .ok operations) ↔ PathsReadable document := by
  rw [readPaths, PathsReadable]
  cases Raw.lookupTruthy "paths" document with
  | none => exact Outcome.exists_default_iff
  | some paths =>
    simp only [Outcome.exists_bind_eq_ok_iff, Except.ok.injEq, exists_eq', and_true,
      Outcome.exists_mapM_eq_ok_iff, exists_readPath_iff, ofShape, Outcome.mapError_eq_ok_iff,
      Raw.entries?_eq_ok_iff, Option.some.injEq, forall_eq']

end Operation

/-! ### Components -/

namespace Components

/-- A table of parameters is found when it has the shape of one. -/
theorem exists_tableEntries_iff :
    (∃ table, tableEntries entries = .ok table) ↔ TableShaped entries := by
  rw [tableEntries, TableShaped]
  cases Raw.lookupTruthy "parameters" entries with
  | none => exact Outcome.exists_default_iff
  | some table => simp only [ofShape, Outcome.mapError_eq_ok_iff, Option.some.injEq, forall_eq']

/-- The nested table is found when what stands around it is a mapping with the shape of one. -/
theorem exists_nestedEntries_iff : (∃ table, nestedEntries document = .ok table) ↔
    ∀ components, Raw.lookupTruthy "components" document = some components →
      ∃ entries, components = .mapping entries ∧ TableShaped entries := by
  rw [nestedEntries]
  cases Raw.lookupTruthy "components" document with
  | none => exact Outcome.exists_default_iff
  | some components =>
    simp only [Outcome.exists_bind_eq_ok_iff, exists_tableEntries_iff, ofShape,
      Outcome.mapError_eq_ok_iff, Raw.entries?_eq_ok_iff, Option.some.injEq, forall_eq']

/-- The parameters of a table are read when each entry that stands for one is readable. -/
theorem exists_readTable_iff {table : List (Scalar × Raw)} :
    (∃ components, (table.filterMap named?).mapM readNamed = .ok components) ↔
      ∀ entry ∈ table, EntryReadable entry := by
  simp only [Outcome.exists_mapM_eq_ok_iff, readNamed, Outcome.exists_bind_eq_ok_iff,
    Except.ok.injEq, exists_eq', and_true, ContractParameter.exists_read_iff, exists_and_right,
    ContractFault.exists_ofWritten_iff, List.mem_filterMap, named?, Option.map_eq_some_iff,
    EntryReadable]
  constructor
  · intro given entry member entries stands
    exact given (entry.1, entries) ⟨entry, member, entries, stands, rfl⟩
  · rintro given _ ⟨entry, member, entries, stands, rfl⟩
    exact given entry member entries stands

/-- The components are read when both tables and all their parameters are readable. -/
theorem exists_read_iff : (∃ components, read document = .ok components) ↔ IsReadable document := by
  have shaped : (∃ table, Components.entries document = .ok table) ↔
      TableShaped document ∧
        ∀ components, Raw.lookupTruthy "components" document = some components →
          ∃ entries, components = .mapping entries ∧ TableShaped entries := by
    simp only [entries_eq, Outcome.exists_bind_eq_ok_iff, Except.ok.injEq, exists_eq', and_true,
      exists_and_right, exists_tableEntries_iff, exists_nestedEntries_iff]
  simp only [read, Outcome.exists_bind_eq_ok_iff, Except.ok.injEq, exists_eq', and_true,
    exists_readTable_iff]
  constructor
  · rintro ⟨table, together, readable⟩
    obtain ⟨top, nested⟩ := shaped.mp ⟨table, together⟩
    exact ⟨top, nested, fun other same => Except.ok.inj (together.symm.trans same) ▸ readable⟩
  · intro readable
    obtain ⟨table, together⟩ := shaped.mpr ⟨readable.top, readable.nested⟩
    exact ⟨table, together, readable.parameters table together⟩

end Components

/-! ### Contracts -/

namespace Contract

/-- A text of the information is read when its value can be written. -/
theorem exists_textField_iff {name : String} :
    (∃ text, textField name entries = .ok text) ↔ Raw.Field name Raw.IsWritable entries := by
  rw [textField, Raw.Field]
  cases Raw.lookup name entries with
  | none => exact Outcome.exists_default_iff
  | some value =>
    simp only [ContractFault.exists_ofWritten_iff, Option.some.injEq, forall_eq', Raw.IsWritable]

/-- The information is read when it is a mapping whose texts can be written. -/
theorem exists_readInfo_iff : (∃ info, readInfo document = .ok info) ↔
    ∀ info, Raw.lookupTruthy "info" document = some info →
      ∃ entries, info = .mapping entries ∧ Raw.Field "title" Raw.IsWritable entries ∧
        Raw.Field "version" Raw.IsWritable entries := by
  simp only [readInfo, infoEntries, Outcome.exists_bind_eq_ok_iff, Except.ok.injEq, exists_eq',
    and_true, exists_and_right, exists_textField_iff]
  cases Raw.lookupTruthy "info" document with
  | none =>
    -- without information there is no title and no version, and nothing is asked for
    refine iff_of_true ⟨[], rfl, ?_, ?_⟩ (by rintro _ ⟨⟩)
    · rintro _ ⟨⟩
    · rintro _ ⟨⟩
  | some info =>
    simp only [ofShape, Outcome.mapError_eq_ok_iff, Raw.entries?_eq_ok_iff, Option.some.injEq,
      forall_eq']

/-- **Readable documents.** A document can be read as a contract exactly when it is readable. -/
theorem exists_ofEntries_iff :
    (∃ contract, ofEntries document = .ok contract) ↔ IsReadable document := by
  simp only [ofEntries, Outcome.exists_bind_eq_ok_iff, Except.ok.injEq, exists_eq', and_true,
    exists_and_right, Operation.exists_readPaths_iff, exists_readInfo_iff,
    Components.exists_read_iff]
  constructor
  · rintro ⟨paths, info, components⟩
    exact ⟨paths, info, components⟩
  · rintro ⟨paths, info, components⟩
    exact ⟨paths, info, components⟩

end Contract

end ParameterDrift
