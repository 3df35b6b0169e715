import ParameterDrift.Proofs.Contract.Bodies
import ParameterDrift.Proofs.Contract.Readable
import ParameterDrift.Proofs.Raw.Entries
/-! # Structured documents

A document is structured when a few of its fields have the shape that is asked for: its parts are
mappings, its parameters are lists or tables, and identifiers, summaries, locations and formats are
texts. Everything else may hold any value: path items, elements of lists, entries of tables, names,
schemas and what they hold, references and titles. One thing still stands in the way of reading a
structured JSON document as a contract: a value that is taken as a text and holds an integer of too
many digits (`ParameterDrift.Contract.exists_ofRaw_of_isStructured`).
-/

namespace ParameterDrift

/-! ### JSON values and their fields -/

namespace Raw

/-- The values that JSON has: no dates, and texts as keys. -/
inductive IsJson : Raw → Prop
  | null : IsJson .null
  | bool (b : Bool) : IsJson (.bool b)
  | int (n : Int) : IsJson (.int n)
  | float (x : Double) : IsJson (.scalar (.float x))
  | text (s : String) : IsJson (.text s)
  | list {items : List Raw} : (∀ item ∈ items, IsJson item) → IsJson (.list items)
  | mapping {entries : List (Scalar × Raw)} :
    (∀ entry ∈ entries, ∃ name, entry.1 = .text name) → (∀ entry ∈ entries, IsJson entry.2) →
    IsJson (.mapping entries)

/-- A value that is a list. -/
def IsList (value : Raw) : Prop :=
  ∃ items, value = .list items

/-- A value that is a text. -/
def IsText (value : Raw) : Prop :=
  ∃ s, value = .text s

/-- A value that is as it is asked for, or counts as absent. -/
def OrFalsy (asked : Raw → Prop) (value : Raw) : Prop :=
  asked value ∨ value.isTruthy = false

variable {name : String} {asked : Raw → Prop} {entries : List (Scalar × Raw)} {value : Raw}

theorem isJson_list_iff {items : List Raw} :
    IsJson (.list items) ↔ ∀ item ∈ items, IsJson item := by
  constructor
  · intro json
    cases json with
    | list each => exact each
  · exact .list

theorem isJson_mapping_iff : IsJson (.mapping entries) ↔
    ∀ entry ∈ entries, (∃ name, entry.1 = .text name) ∧ IsJson entry.2 := by
  constructor
  · intro json entry member
    cases json with
    | mapping keys values => exact ⟨keys entry member, values entry member⟩
  · intro each
    exact .mapping (fun entry member => (each entry member).1)
      fun entry member => (each entry member).2

/-- A value in a JSON mapping is JSON. -/
theorem IsJson.of_lookup (json : IsJson (.mapping entries))
    (found : lookup name entries = some value) : IsJson value := by
  rw [lookup_eq_lookup] at found
  exact (isJson_mapping_iff.mp json _ (Keyed.mem_of_lookup found)).2

/-- What is truthy is as it is asked for. -/
theorem Field.of_lookupTruthy (field : Field name (OrFalsy asked) entries)
    (shown : lookupTruthy name entries = some value) : asked value := by
  obtain ⟨found, truthy⟩ := Option.filter_eq_some_iff.mp shown
  rcases field value found with given | falsy
  · exact given
  · rw [falsy] at truthy
    cases truthy

/-- A field that is a text or null, or is missing, is read as such. -/
theorem Field.isTextOrNull (field : Field name IsTextOrNull entries) :
    ((Raw.lookup name entries).getD .null).IsTextOrNull := by
  cases found : Raw.lookup name entries with
  | none => exact .inl rfl
  | some value => exact field value found

end Raw

/-! ### What a structured document is asked for -/

/-- The schema that applies to the entries of a parameter: the one that is written or, where there
is none, the parameter itself if it has a type. -/
inductive Schema.AppliesTo (fields : List (Scalar × Raw)) : Raw → Prop
  | written {schema : Raw} : Raw.lookup "schema" fields = some schema → schema ≠ .null →
      AppliesTo fields schema
  | own : Raw.Field "schema" (· = .null) fields → (Raw.lookup "type" fields).isSome →
      AppliesTo fields (.mapping fields)

/-- A mapping along the chain of items of a schema. -/
inductive Schema.OnChain : Raw → List (Scalar × Raw) → Prop
  | here {entries : List (Scalar × Raw)} : OnChain (.mapping entries) entries
  | items {entries found : List (Scalar × Raw)} {items : Raw} :
      Raw.lookup "items" entries = some items → OnChain items found →
      OnChain (.mapping entries) found

namespace Contract

/-- A mapping that is the item of a path. -/
def HasItem (document item : List (Scalar × Raw)) : Prop :=
  ∃ paths path, Raw.lookup "paths" document = some (.mapping paths) ∧ (path, .mapping item) ∈ paths

/-- A mapping under a method in the item of a path. -/
def HasOperation (document operation : List (Scalar × Raw)) : Prop :=
  ∃ item key, HasItem document item ∧ (.text key, .mapping operation) ∈ item ∧
    Text.lowerString key ∈ Operation.methods

/-- A mapping in a list or a table of parameters. -/
inductive HasParameter (document fields : List (Scalar × Raw)) : Prop
  | path {item : List (Scalar × Raw)} {listed : List Raw} : HasItem document item →
      Raw.lookup "parameters" item = some (.list listed) → .mapping fields ∈ listed →
      HasParameter document fields
  | operation {operation : List (Scalar × Raw)} {listed : List Raw} :
      HasOperation document operation →
      Raw.lookup "parameters" operation = some (.list listed) → .mapping fields ∈ listed →
      HasParameter document fields
  | top {table : List (Scalar × Raw)} {name : Scalar} :
      Raw.lookup "parameters" document = some (.mapping table) → (name, .mapping fields) ∈ table →
      HasParameter document fields
  | nested {components table : List (Scalar × Raw)} {name : Scalar} :
      Raw.lookup "components" document = some (.mapping components) →
      Raw.lookup "parameters" components = some (.mapping table) →
      (name, .mapping fields) ∈ table → HasParameter document fields

/-- **Structured documents.** -/
structure IsStructured (document : List (Scalar × Raw)) : Prop where
  info : Raw.Field "info" (Raw.OrFalsy Raw.IsMapping) document
  paths : Raw.Field "paths" (Raw.OrFalsy Raw.IsMapping) document
  components : Raw.Field "components" (Raw.OrFalsy Raw.IsMapping) document
  top : Raw.Field "parameters" (Raw.OrFalsy Raw.IsMapping) document
  nested : ∀ components, Raw.lookup "components" document = some (.mapping components) →
    Raw.Field "parameters" (Raw.OrFalsy Raw.IsMapping) components
  shared : ∀ item, HasItem document item →
    Raw.Field "parameters" (Raw.OrFalsy Raw.IsList) item
  own : ∀ operation, HasOperation document operation →
    Raw.Field "parameters" (Raw.OrFalsy Raw.IsList) operation
  operationId : ∀ operation, HasOperation document operation →
    Raw.Field "operationId" Raw.IsTextOrNull operation
  summary : ∀ operation, HasOperation document operation →
    Raw.Field "summary" (Raw.OrFalsy Raw.IsText) operation
  /-- Of the parameters in place that are no parts of a body, the location is a text or null. -/
  location : ∀ fields, HasParameter document fields → Raw.lookup "$ref" fields = none →
    ¬ ContractParameter.WritesBody fields → Raw.Field "in" Raw.IsTextOrNull fields
  /-- So is every format along the chain of the schema that applies. -/
  format : ∀ fields, HasParameter document fields → Raw.lookup "$ref" fields = none →
    ¬ ContractParameter.WritesBody fields → ∀ schema, Schema.AppliesTo fields schema →
      ∀ found, Schema.OnChain schema found → Raw.Field "format" Raw.IsTextOrNull found

end Contract

/-! ### What is taken as a text -/

/-- The values that are taken as texts in a parameter are writable: its reference or, where it has
none, its name and the types along the chain of the schema that applies. -/
structure ContractParameter.HasWritableTexts (fields : List (Scalar × Raw)) : Prop where
  reference : Raw.Field "$ref" Raw.IsWritable fields
  name : Raw.lookup "$ref" fields = none → Raw.Field "name" Raw.IsWritable fields
  type : Raw.lookup "$ref" fields = none → ∀ schema, Schema.AppliesTo fields schema →
    ∀ found, Schema.OnChain schema found →
      (Schema.countingType ((Raw.lookup "type" found).getD .null)).IsWritable

namespace Contract

/-- A mapping that is read as a parameter unless it is a part of a body: in the list of a path or an
operation, or in what is left when both tables are put together. -/
inductive ReadsParameter (document fields : List (Scalar × Raw)) : Prop
  | path {item : List (Scalar × Raw)} {listed : List Raw} : HasItem document item →
      Raw.lookup "parameters" item = some (.list listed) → .mapping fields ∈ listed →
      ReadsParameter document fields
  | operation {operation : List (Scalar × Raw)} {listed : List Raw} :
      HasOperation document operation →
      Raw.lookup "parameters" operation = some (.list listed) → .mapping fields ∈ listed →
      ReadsParameter document fields
  | table {table : List (Scalar × Raw)} {name : Scalar} :
      Components.entries document = .ok table → (name, .mapping fields) ∈ table →
      ReadsParameter document fields

/-- **Documents whose texts are writable**: the title and the version, and what is taken as a text in
a parameter. -/
structure HasWritableTexts (document : List (Scalar × Raw)) : Prop where
  title : ∀ info, Raw.lookup "info" document = some (.mapping info) →
    Raw.Field "title" Raw.IsWritable info
  version : ∀ info, Raw.lookup "info" document = some (.mapping info) →
    Raw.Field "version" Raw.IsWritable info
  parameters : ∀ fields, ReadsParameter document fields → ¬ ContractParameter.WritesBody fields →
    ContractParameter.HasWritableTexts fields

end Contract

/-! ### Schemas and parameters -/

/-- A schema is readable when along its chain every type is writable and every format is a text or
null. -/
theorem Schema.isReadable_of_onChain : (value : Raw) →
    (∀ found, OnChain value found → (countingType ((Raw.lookup "type" found).getD .null)).IsWritable) →
    (∀ found, OnChain value found → Raw.Field "format" Raw.IsTextOrNull found) → IsReadable value
  | .mapping entries, types, formats =>
    .mapping (types entries .here) (formats entries .here) fun items found =>
      isReadable_of_onChain items (fun later onChain => types later (.items found onChain))
        fun later onChain => formats later (.items found onChain)
  | .scalar _, _, _ => .other (by rintro ⟨_, ⟨⟩⟩)
  | .list _, _, _ => .other (by rintro ⟨_, ⟨⟩⟩)
termination_by value => sizeOf value
decreasing_by
  have := Raw.sizeOf_lookup_lt found
  simp only [Raw.mapping.sizeOf_spec]
  omega

/-- The types along the chain of a readable schema are writable. -/
theorem Schema.isWritable_of_onChain {schema : Raw} {found : List (Scalar × Raw)}
    (onChain : OnChain schema found) (readable : IsReadable schema) :
    (countingType ((Raw.lookup "type" found).getD .null)).IsWritable := by
  induction onChain with
  | here =>
    cases readable with
    | mapping type _ _ => exact type
    | other notMapping => exact absurd ⟨_, rfl⟩ notMapping
  | items chained _ ih =>
    cases readable with
    | mapping _ _ items => exact ih (items _ chained)
    | other notMapping => exact absurd ⟨_, rfl⟩ notMapping

namespace ContractParameter

/-- A parameter's schema is read from the one that applies, or from nothing. -/
theorem appliesTo_schemaSource (fields : List (Scalar × Raw)) :
    Schema.AppliesTo fields (schemaSource fields) ∨ schemaSource fields = .null := by
  unfold schemaSource
  split
  · next absent =>
    -- a schema that is null is as good as none
    have unwritten : Raw.Field "schema" (· = .null) fields := by
      intro schema found
      rwa [found, Option.getD_some] at absent
    split
    · next typed => exact .inl (.own unwritten typed)
    · exact .inr rfl
  · next schema present =>
    cases found : Raw.lookup "schema" fields with
    | none =>
      rw [found] at present
      exact absurd rfl present
    | some written =>
      rw [found] at present
      exact .inl (.written found present)

/-- The schema that applies is the one that the parameter's schema is read from. -/
theorem schemaSource_of_appliesTo {fields : List (Scalar × Raw)} {schema : Raw}
    (applies : Schema.AppliesTo fields schema) : schemaSource fields = schema := by
  unfold schemaSource
  cases applies with
  | written found present =>
    rw [found, Option.getD_some]
    split
    · next absent => exact absurd rfl present
    · rfl
  | own unwritten typed =>
    have absent : (Raw.lookup "schema" fields).getD .null = .null := by
      cases found : Raw.lookup "schema" fields with
      | none => rfl
      | some schema => exact unwritten schema found
    rw [absent]
    exact if_pos typed

variable {document entries fields : List (Scalar × Raw)}

/-- A mapping among the parameters of a structured document is readable when its texts are
writable. -/
theorem isReadable_iff_of_hasParameter (structured : Contract.IsStructured document)
    (has : Contract.HasParameter document fields) (notBody : ¬ WritesBody fields) :
    IsReadable fields ↔ HasWritableTexts fields := by
  constructor
  · intro readable
    cases readable with
    | @reference ref found writable =>
      have present : Raw.lookup "$ref" fields ≠ none := by rw [found]; nofun
      refine ⟨?_, fun absent => absurd absent present, fun absent => absurd absent present⟩
      intro value same
      rw [found] at same
      rwa [← Option.some.inj same]
    | inPlace absent name schema location =>
      refine ⟨fun value found => ?_, fun _ value found => ?_, fun _ schema applies found onChain => ?_⟩
      · rw [absent] at found
        cases found
      · rwa [found] at name
      · exact Schema.isWritable_of_onChain onChain (schemaSource_of_appliesTo applies ▸ ‹_›)
  · intro texts
    cases written : Raw.lookup "$ref" fields with
    | some ref => exact .reference written (texts.reference ref written)
    | none =>
      have named : ((Raw.lookup "name" fields).getD .null).IsWritable := by
        cases found : Raw.lookup "name" fields with
        | none => rfl
        | some name => exact texts.name written name found
      refine .inPlace written named ?_ (structured.location fields has written notBody).isTextOrNull
      rcases appliesTo_schemaSource fields with applies | nothing
      · exact Schema.isReadable_of_onChain _ (texts.type written _ applies)
          (structured.format fields has written notBody _ applies)
      · rw [nothing]
        exact .other (by rintro ⟨_, ⟨⟩⟩)

/-- A parameter of a structured document is readable if its texts can be written. -/
theorem valueReadable_of_hasParameter {value : Raw} (structured : Contract.IsStructured document)
    (has : ∀ fields, value = .mapping fields → Contract.HasParameter document fields)
    (texts : ∀ fields, value = .mapping fields → ¬ WritesBody fields → HasWritableTexts fields) :
    ValueReadable value := by
  intro fields stands
  obtain ⟨rfl, notBody⟩ := entries?_eq_some_iff.mp stands
  exact (isReadable_iff_of_hasParameter structured (has fields rfl) notBody).mpr
    (texts fields rfl notBody)

/-- A list of a structured document is readable when the texts of the parameters in it are
writable. -/
theorem listReadable_of_hasParameter (structured : Contract.IsStructured document)
    (shape : Raw.Field "parameters" (Raw.OrFalsy Raw.IsList) entries)
    (has : ∀ listed fields, Raw.lookup "parameters" entries = some (.list listed) →
      .mapping fields ∈ listed → Contract.HasParameter document fields ∧
        (¬ WritesBody fields → HasWritableTexts fields)) :
    ListReadable entries := by
  intro value shown
  obtain ⟨items, rfl⟩ := shape.of_lookupTruthy shown
  refine ⟨items, rfl, ?_⟩
  intro item member
  have found := Raw.lookup_of_lookupTruthy shown
  apply valueReadable_of_hasParameter structured
  · rintro fields rfl
    exact (has items fields found member).1
  · rintro fields rfl
    exact (has items fields found member).2

/-- Every mapping in a readable list that is no part of a body is a readable parameter. -/
theorem isReadable_of_listReadable {listed : List Raw} (readable : ListReadable entries)
    (found : Raw.lookup "parameters" entries = some (.list listed)) (member : .mapping fields ∈ listed)
    (notBody : ¬ WritesBody fields) : IsReadable fields := by
  have shown : Raw.lookupTruthy "parameters" entries = some (.list listed) :=
    Raw.lookupTruthy_of_lookup found (by cases listed with
      | nil => cases member
      | cons first rest => rfl)
  obtain ⟨values, elements, each⟩ := readable _ shown
  cases elements
  exact each _ member fields (entries?_eq_some_iff.mpr ⟨rfl, notBody⟩)

end ContractParameter

namespace Operation

variable {document operation item : List (Scalar × Raw)}

/-- An operation of a structured document is readable if its texts can be written. -/
theorem isReadable_of_hasOperation (structured : Contract.IsStructured document)
    (texts : Contract.HasWritableTexts document) (has : Contract.HasOperation document operation)
    (path : String) : IsReadable (.text path) operation where
  parameters :=
    ContractParameter.listReadable_of_hasParameter structured (structured.own operation has)
      fun _ fields listed member =>
        ⟨.operation has listed member, texts.parameters fields (.operation has listed member)⟩
  path := rfl
  operationId := (structured.operationId operation has).isTextOrNull
  summary _ shown := (structured.summary operation has).of_lookupTruthy shown

/-- The paths of a structured document are readable if its texts can be written. -/
theorem pathsReadable_of_isStructured (json : (Raw.mapping document).IsJson)
    (structured : Contract.IsStructured document) (texts : Contract.HasWritableTexts document) :
    PathsReadable document := by
  intro value shown
  obtain ⟨paths, rfl⟩ := structured.paths.of_lookupTruthy shown
  have found := Raw.lookup_of_lookupTruthy shown
  refine ⟨paths, rfl, ?_⟩
  intro entry member item same
  obtain ⟨path, value⟩ := entry
  cases same
  have has : Contract.HasItem document item := ⟨paths, path, found, member⟩
  obtain ⟨⟨pathText, written⟩, itemJson⟩ :=
    Raw.isJson_mapping_iff.mp (json.of_lookup found) _ member
  constructor
  · exact ContractParameter.listReadable_of_hasParameter structured (structured.shared item has)
      fun _ fields listed among =>
        ⟨.path has listed among, texts.parameters fields (.path has listed among)⟩
  · intro entry among
    obtain ⟨key, text⟩ := (Raw.isJson_mapping_iff.mp itemJson entry among).1
    refine ⟨key, text, ?_⟩
    intro isMethod operation mapping
    obtain rfl : path = .text pathText := written
    refine isReadable_of_hasOperation structured texts ?_ pathText
    have present : (Scalar.text key, Raw.mapping operation) ∈ item := by
      rw [← text, ← mapping]
      exact among
    exact ⟨item, key, has, present, List.contains_iff_mem.mp isMethod⟩

/-- The item of a path in a document with readable paths is readable. -/
theorem pathReadable_of_hasItem (readable : PathsReadable document)
    (has : Contract.HasItem document item) :
    ContractParameter.ListReadable item ∧
      ∃ path, ∀ entry ∈ item, EntryReadable path entry := by
  obtain ⟨paths, path, found, member⟩ := has
  have shown : Raw.lookupTruthy "paths" document = some (.mapping paths) :=
    Raw.lookupTruthy_of_lookup found (by cases paths with
      | nil => cases member
      | cons first rest => rfl)
  obtain ⟨entries, same, each⟩ := readable _ shown
  cases same
  obtain ⟨listed, under⟩ := each _ member item rfl
  exact ⟨listed, path, under⟩

/-- So is the list of an operation in it. -/
theorem listReadable_of_hasOperation (readable : PathsReadable document)
    (has : Contract.HasOperation document operation) :
    ContractParameter.ListReadable operation := by
  obtain ⟨item, key, inPaths, member, isMethod⟩ := has
  obtain ⟨_, path, each⟩ := pathReadable_of_hasItem readable inPaths
  obtain ⟨_, same, ofMethod⟩ := each _ member
  cases same
  exact (ofMethod (List.contains_iff_mem.mpr isMethod) operation rfl).parameters

end Operation

namespace Components

variable {document entries table top nested : List (Scalar × Raw)} {entry : Scalar × Raw}

/-- A table that is a mapping or falsy has the shape of one. -/
theorem tableShaped_of_field (shape : Raw.Field "parameters" (Raw.OrFalsy Raw.IsMapping) entries) :
    TableShaped entries := by
  intro value shown
  obtain ⟨table, rfl⟩ := shape.of_lookupTruthy shown
  exact ⟨table, rfl⟩

/-- The entries of a table that is a mapping are its own. -/
theorem lookup_of_mem_tableEntries
    (shape : Raw.Field "parameters" (Raw.OrFalsy Raw.IsMapping) entries)
    (read : tableEntries entries = .ok table) (member : entry ∈ table) :
    Raw.lookup "parameters" entries = some (.mapping table) := by
  unfold tableEntries at read
  cases shown : Raw.lookupTruthy "parameters" entries with
  | none =>
    rw [shown] at read
    cases read
    cases member
  | some value =>
    rw [shown] at read
    obtain ⟨own, rfl⟩ := shape.of_lookupTruthy shown
    cases read
    exact Raw.lookup_of_lookupTruthy shown

/-- The entries among the components are those of a table in a mapping. -/
theorem exists_lookup_of_mem_nestedEntries (structured : Contract.IsStructured document)
    (read : nestedEntries document = .ok table) (member : entry ∈ table) :
    ∃ components, Raw.lookup "components" document = some (.mapping components) ∧
      Raw.lookup "parameters" components = some (.mapping table) := by
  unfold nestedEntries at read
  cases shown : Raw.lookupTruthy "components" document with
  | none =>
    rw [shown] at read
    cases read
    cases member
  | some value =>
    rw [shown] at read
    obtain ⟨components, rfl⟩ := structured.components.of_lookupTruthy shown
    have found := Raw.lookup_of_lookupTruthy shown
    exact ⟨components, found,
      lookup_of_mem_tableEntries (structured.nested components found) read member⟩

/-- A mapping that is left of both tables stands in one of them. -/
theorem hasParameter_of_mem_entries (structured : Contract.IsStructured document) {name : Scalar}
    {fields : List (Scalar × Raw)} (together : Components.entries document = .ok table)
    (member : (name, .mapping fields) ∈ table) : Contract.HasParameter document fields := by
  rw [entries_eq] at together
  obtain ⟨top, topRead, later⟩ := Outcome.bind_eq_ok_iff.mp together
  obtain ⟨nested, nestedRead, same⟩ := Outcome.bind_eq_ok_iff.mp later
  cases same
  rcases Keyed.exists_of_mem_insertAllBy member with inTop | ⟨pair, among, equal⟩
  · rcases Keyed.exists_of_mem_insertAllBy inTop with ⟨⟨⟩⟩ | ⟨pair, among, equal⟩
    obtain ⟨name, value⟩ := pair
    cases equal
    exact .top (lookup_of_mem_tableEntries structured.top topRead among) among
  · obtain ⟨name, value⟩ := pair
    cases equal
    obtain ⟨components, found, listed⟩ :=
      exists_lookup_of_mem_nestedEntries structured nestedRead among
    exact .nested found listed among

/-- The names in both tables of a structured JSON document are texts. -/
theorem exists_name_of_mem_entries (json : (Raw.mapping document).IsJson)
    (structured : Contract.IsStructured document)
    (together : Components.entries document = .ok table) (member : entry ∈ table) :
    ∃ name, entry.1 = .text name := by
  rw [entries_eq] at together
  obtain ⟨top, topRead, later⟩ := Outcome.bind_eq_ok_iff.mp together
  obtain ⟨nested, nestedRead, same⟩ := Outcome.bind_eq_ok_iff.mp later
  cases same
  rcases Keyed.key_of_mem_insertAllBy member with inTop | among
  · obtain ⟨own, ownMember, sameKey⟩ := List.mem_map.mp inTop
    rw [← sameKey]
    rcases Keyed.key_of_mem_insertAllBy ownMember with ⟨⟨⟩⟩ | among
    obtain ⟨pair, pairMember, pairKey⟩ := List.mem_map.mp among
    rw [← pairKey]
    have found := lookup_of_mem_tableEntries structured.top topRead pairMember
    exact (Raw.isJson_mapping_iff.mp (json.of_lookup found) pair pairMember).1
  · obtain ⟨pair, pairMember, pairKey⟩ := List.mem_map.mp among
    rw [← pairKey]
    obtain ⟨components, found, listed⟩ :=
      exists_lookup_of_mem_nestedEntries structured nestedRead pairMember
    exact (Raw.isJson_mapping_iff.mp ((json.of_lookup found).of_lookup listed) pair pairMember).1

/-- The components of a structured document are readable if its texts can be written. -/
theorem isReadable_of_isStructured (json : (Raw.mapping document).IsJson)
    (structured : Contract.IsStructured document) (texts : Contract.HasWritableTexts document) :
    IsReadable document where
  top := tableShaped_of_field structured.top
  nested := by
    intro value shown
    obtain ⟨components, rfl⟩ := structured.components.of_lookupTruthy shown
    exact ⟨components, rfl, tableShaped_of_field
      (structured.nested components (Raw.lookup_of_lookupTruthy shown))⟩
  parameters := by
    intro table together entry member fields stands
    obtain ⟨name, value⟩ := entry
    obtain ⟨text, isText⟩ := exists_name_of_mem_entries json structured together member
    obtain ⟨same, notBody⟩ := ContractParameter.entries?_eq_some_iff.mp stands
    cases same
    cases isText
    refine ⟨rfl, ?_⟩
    exact (ContractParameter.isReadable_iff_of_hasParameter structured
      (hasParameter_of_mem_entries structured together member) notBody).mpr
        (texts.parameters fields (.table together member) notBody)

end Components

namespace Contract

/-- The texts of a readable document are writable. -/
theorem hasWritableTexts_of_isReadable {document : List (Scalar × Raw)}
    (structured : IsStructured document) (readable : IsReadable document) :
    HasWritableTexts document := by
  have texts : ∀ info, Raw.lookup "info" document = some (.mapping info) →
      Raw.Field "title" Raw.IsWritable info ∧ Raw.Field "version" Raw.IsWritable info := by
    intro info found
    cases info with
    | nil => exact ⟨nofun, nofun⟩
    | cons first rest =>
      have shown : Raw.lookupTruthy "info" document = some (.mapping (first :: rest)) :=
        Raw.lookupTruthy_of_lookup found rfl
      obtain ⟨entries, same, title, version⟩ := readable.info _ shown
      cases same
      exact ⟨title, version⟩
  refine ⟨fun info found => (texts info found).1, fun info found => (texts info found).2, ?_⟩
  intro fields reads notBody
  cases reads with
  | path has listed member =>
    obtain ⟨inItem, _⟩ := Operation.pathReadable_of_hasItem readable.paths has
    exact (ContractParameter.isReadable_iff_of_hasParameter structured (.path has listed member)
      notBody).mp (ContractParameter.isReadable_of_listReadable inItem listed member notBody)
  | operation has listed member =>
    have inOperation := Operation.listReadable_of_hasOperation readable.paths has
    exact (ContractParameter.isReadable_iff_of_hasParameter structured
      (.operation has listed member) notBody).mp
        (ContractParameter.isReadable_of_listReadable inOperation listed member notBody)
  | table together member =>
    exact (ContractParameter.isReadable_iff_of_hasParameter structured
      (Components.hasParameter_of_mem_entries structured together member) notBody).mp
        (readable.components.parameters _ together _ member fields
          (ContractParameter.entries?_eq_some_iff.mpr ⟨rfl, notBody⟩)).2

/-- **Structured documents can be read**, whatever else they hold, exactly when every value that is
taken as a text is writable. -/
theorem exists_ofRaw_of_isStructured {document : List (Scalar × Raw)}
    (json : (Raw.mapping document).IsJson) (structured : IsStructured document) :
    (∃ contract, ofRaw (.mapping document) = .ok contract) ↔ HasWritableTexts document := by
  rw [ofRaw_mapping, exists_ofEntries_iff]
  constructor
  · exact hasWritableTexts_of_isReadable structured
  · intro texts
    refine ⟨Operation.pathsReadable_of_isStructured json structured texts, ?_,
      Components.isReadable_of_isStructured json structured texts⟩
    intro info shown
    obtain ⟨entries, rfl⟩ := structured.info.of_lookupTruthy shown
    have found := Raw.lookup_of_lookupTruthy shown
    exact ⟨entries, rfl, texts.title entries found, texts.version entries found⟩

/-! ### A document with little in order -/

/-- The entries of a mapping with texts as keys. -/
def namedEntries (fields : List (String × Raw)) : List (Scalar × Raw) :=
  fields.map fun field => (.text field.1, field.2)

/-- A parameter whose name is a list and whose schema is odd, but not in its formats. -/
def scrapParameter : List (Scalar × Raw) :=
  namedEntries
    [("name", .list []), ("in", .text "query"), ("required", .text "no"),
    ("schema", .ofFields
      [("type", .list [.text "null", .int 5]), ("format", .null),
      ("items", .ofFields [("format", .text "int32"), ("items", .int 9)])])]

/-- Its operation. -/
def scrapOperation : List (Scalar × Raw) :=
  namedEntries
    [("operationId", .null), ("summary", .int 0),
    ("parameters", .list [.text "limit", .mapping scrapParameter])]

/-- The item of its path, where other operations are no mappings. -/
def scrapItem : List (Scalar × Raw) :=
  namedEntries
    [("parameters", .bool false), ("Get", .mapping scrapOperation), ("post", .int 1),
    ("servers", .ofFields [("parameters", .int 4)])]

/-- A structured document that has other values wherever it may. -/
def scrapEntries : List (Scalar × Raw) :=
  namedEntries
    [("info", .ofFields [("title", .list [.null]), ("version", .bool true)]),
    ("parameters", .ofFields
      [("limit", .int 7), ("tags", .ofFields [("$ref", .list []), ("in", .int 3)]),
      ("file", .ofFields [("in", .text "formData"), ("format", .int 1)])]),
    ("components", .text ""),
    ("paths", .ofFields [("/pets", .mapping scrapItem), ("/later", .null)])]

/-- The scrap has one path item. -/
theorem hasItem_scrap {item : List (Scalar × Raw)} (has : HasItem scrapEntries item) :
    item = scrapItem := by
  obtain ⟨paths, path, found, member⟩ := has
  cases found
  rcases member with _ | ⟨_, _ | ⟨_, ⟨⟩⟩⟩
  rfl

/-- The scrap has one operation. -/
theorem hasOperation_scrap {operation : List (Scalar × Raw)}
    (has : HasOperation scrapEntries operation) : operation = scrapOperation := by
  obtain ⟨item, key, inPaths, member, isMethod⟩ := has
  obtain rfl := hasItem_scrap inPaths
  rcases member with _ | ⟨_, _ | ⟨_, _ | ⟨_, _ | ⟨_, ⟨⟩⟩⟩⟩⟩
  · rfl
  · exact absurd isMethod (by decide +kernel)

/-- Of its parameters one is in place and no part of a body. -/
theorem hasParameter_scrap {fields : List (Scalar × Raw)}
    (has : HasParameter scrapEntries fields) (inPlace : Raw.lookup "$ref" fields = none)
    (notBody : ¬ ContractParameter.WritesBody fields) : fields = scrapParameter := by
  cases has with
  | path inPaths listed =>
    obtain rfl := hasItem_scrap inPaths
    cases listed
  | operation inItem listed member =>
    obtain rfl := hasOperation_scrap inItem
    cases listed
    rcases member with _ | ⟨_, _ | ⟨_, ⟨⟩⟩⟩
    rfl
  | top listed member =>
    cases listed
    rcases member with _ | ⟨_, _ | ⟨_, _ | ⟨_, ⟨⟩⟩⟩⟩
    · cases inPlace
    · exact absurd (Or.inr rfl) notBody
  | nested found => cases found

/-- The schemas of the scrap have no format but null. -/
theorem onChain_scrap {schema : Raw} {found : List (Scalar × Raw)}
    (applies : Schema.AppliesTo scrapParameter schema) (onChain : Schema.OnChain schema found) :
    Raw.Field "format" Raw.IsTextOrNull found := by
  cases applies with
  | written written =>
    cases written
    intro format given
    cases onChain with
    | here =>
      cases given
      exact .inl rfl
    | items chained later =>
      cases chained
      cases later with
      | here =>
        cases given
        exact .inr ⟨"int32", rfl⟩
      | items last none =>
        cases last
        cases none
  | own absent => cases absent _ rfl

/-- The scrap is structured. -/
theorem isStructured_scrap : IsStructured scrapEntries where
  info _ := by
    rintro ⟨⟩
    exact .inl ⟨_, rfl⟩
  paths _ := by
    rintro ⟨⟩
    exact .inl ⟨_, rfl⟩
  components _ := by
    rintro ⟨⟩
    exact .inr rfl
  top _ := by
    rintro ⟨⟩
    exact .inl ⟨_, rfl⟩
  nested _ := by rintro ⟨⟩
  shared item has := by
    obtain rfl := hasItem_scrap has
    rintro _ ⟨⟩
    exact .inr rfl
  own operation has := by
    obtain rfl := hasOperation_scrap has
    rintro _ ⟨⟩
    exact .inl ⟨_, rfl⟩
  operationId operation has := by
    obtain rfl := hasOperation_scrap has
    rintro _ ⟨⟩
    exact .inl rfl
  summary operation has := by
    obtain rfl := hasOperation_scrap has
    rintro _ ⟨⟩
    exact .inr rfl
  location fields has inPlace notBody := by
    obtain rfl := hasParameter_scrap has inPlace notBody
    rintro _ ⟨⟩
    exact .inr ⟨"query", rfl⟩
  format fields has inPlace notBody := by
    obtain rfl := hasParameter_scrap has inPlace notBody
    exact fun _ applies _ onChain => onChain_scrap applies onChain

/-- The contract that is read from it. -/
def scrapContract : Contract where
  title := "[None]"
  version := "True"
  operations :=
    [{ method := "get", path := "/pets", operationId := none, summary := "",
       parameters :=
        [{ name := some "[]", location := some "query", required := true,
           schema := some
            { type := some "5", format := none,
              items := some { type := none, format := some "int32", items := none } },
           ref := none }] }]
  components :=
    [("tags",
      { name := none, location := none, required := false, schema := none, ref := some "[]" })]

/-- A structured JSON document whose texts are writable, and what is read from it. -/
theorem exists_ofRaw_scrap :
    (Raw.mapping scrapEntries).IsJson ∧ IsStructured scrapEntries ∧
      HasWritableTexts scrapEntries ∧ ofRaw (.mapping scrapEntries) = .ok scrapContract := by
  have json : (Raw.mapping scrapEntries).IsJson := by
    simp [scrapEntries, scrapItem, scrapOperation, scrapParameter, namedEntries, Raw.ofFields,
      Raw.isJson_mapping_iff, Raw.isJson_list_iff, Raw.IsJson.null, Raw.IsJson.bool, Raw.IsJson.int,
      Raw.IsJson.text]
  have read : ofRaw (.mapping scrapEntries) = .ok scrapContract := by decide +kernel
  exact ⟨json, isStructured_scrap,
    (exists_ofRaw_of_isStructured json isStructured_scrap).mp ⟨scrapContract, read⟩, read⟩

/-- A document whose title is an integer of too many digits, and nothing else. -/
def longTitleEntries : List (Scalar × Raw) :=
  namedEntries [("info", .ofFields [("title", .int Numeral.firstUnwritten)])]

/-- A document with a title of too many digits is structured. -/
theorem isStructured_longTitle : IsStructured longTitleEntries where
  info _ := by
    rintro ⟨⟩
    exact .inl ⟨_, rfl⟩
  paths _ := by rintro ⟨⟩
  components _ := by rintro ⟨⟩
  top _ := by rintro ⟨⟩
  nested _ := by rintro ⟨⟩
  shared item has := by obtain ⟨_, _, ⟨⟩, _⟩ := has
  own operation has := by obtain ⟨_, _, ⟨_, _, ⟨⟩, _⟩, _⟩ := has
  operationId operation has := by obtain ⟨_, _, ⟨_, _, ⟨⟩, _⟩, _⟩ := has
  summary operation has := by obtain ⟨_, _, ⟨_, _, ⟨⟩, _⟩, _⟩ := has
  location fields has := by rcases has with ⟨⟨_, _, ⟨⟩, _⟩⟩ | ⟨⟨_, _, ⟨_, _, ⟨⟩, _⟩, _⟩⟩ | ⟨⟨⟩⟩ | ⟨⟨⟩⟩
  format fields has := by rcases has with ⟨⟨_, _, ⟨⟩, _⟩⟩ | ⟨⟨_, _, ⟨_, _, ⟨⟩, _⟩, _⟩⟩ | ⟨⟨⟩⟩ | ⟨⟨⟩⟩

/-- Not every structured JSON document can be read: its title may have too many digits. -/
theorem ofRaw_longTitle_eq_error :
    (Raw.mapping longTitleEntries).IsJson ∧ IsStructured longTitleEntries ∧
      ofRaw (.mapping longTitleEntries) = .error (.text .tooManyDigits) := by
  refine ⟨?_, isStructured_longTitle, by decide +kernel⟩
  simp only [longTitleEntries, namedEntries, Raw.ofFields, Raw.isJson_mapping_iff, List.map_cons,
    List.map_nil, List.mem_singleton, forall_eq, Scalar.text.injEq, exists_eq', true_and,
    Raw.IsJson.int]

end Contract

end ParameterDrift
