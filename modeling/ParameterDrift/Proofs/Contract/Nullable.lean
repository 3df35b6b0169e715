import ParameterDrift.Proofs.Contract.Extraction
import ParameterDrift.Proofs.Raw.Revised
import ParameterDrift.Service
/-! # Types that may be null

Newer documents say that a value may be null by a list of types: the type among any number of nulls.
A schema with such a list is read like one with the type alone. So at any places at once, in the
schemas of parameters, on parameters that are their own schemas and in the items of schemas at any
depth, a type may be replaced by such a list, and the document is read as the same contract
(`ParameterDrift.Nullable.ofRaw_of_document`).
-/

namespace ParameterDrift.Nullable

open Raw (Revised EntriesRevised)

/-! ### Documents in which nulls are allowed -/

/-- A type with nulls before and behind it. -/
def types (before : Nat) (type : String) (after : Nat) : Raw :=
  .list (List.replicate before (.text Schema.nullType) ++
    .text type :: List.replicate after (.text Schema.nullType))

/-- A field of a schema or of a parameter: its type, the schema of its items, and the schema of a
parameter. -/
inductive Field : Scalar → Raw → Raw → Prop
  | type {type : String} (before after : Nat) : type ≠ Schema.nullType →
    Field (.text "type") (.text type) (types before type after)
  | items {entries others : List (Scalar × Raw)} :
    List.Forall₂ (Raw.EntryRevised Field) entries others →
    Field (.text "items") (.mapping entries) (.mapping others)
  | schema {entries others : List (Scalar × Raw)} :
    List.Forall₂ (Raw.EntryRevised Field) entries others →
    Field (.text "schema") (.mapping entries) (.mapping others)

/-- The names of these fields. -/
def Field.names : List String := ["type", "items", "schema"]

/-- A value that stands among parameters. -/
abbrev Parameter : Raw → Raw → Prop :=
  Revised Field

/-- The list of parameters of a path or an operation. -/
inductive ListField : Scalar → Raw → Raw → Prop
  | parameters {items others : List Raw} : List.Forall₂ Parameter items others →
    ListField (.text "parameters") (.list items) (.list others)

/-- A field of the item of a path: its list of parameters, or an operation. -/
inductive ItemField : Scalar → Raw → Raw → Prop
  | parameters {key : Scalar} {value other : Raw} : ListField key value other →
    ItemField key value other
  | operation {key : String} {entries others : List (Scalar × Raw)} :
    Text.lowerString key ∈ Operation.methods → EntriesRevised ListField entries others →
    ItemField (.text key) (.mapping entries) (.mapping others)

/-- An element of a table that is a list of names and parameters. -/
inductive Element : Raw → Raw → Prop
  | same (element : Raw) : Element element element
  | pair (name : Raw) {value other : Raw} : Parameter value other →
    Element (.list [name, value]) (.list [name, other])

/-- A table of reusable parameters. -/
inductive TableField : Scalar → Raw → Raw → Prop
  | mapping {entries others : List (Scalar × Raw)} :
    List.Forall₂ (Keyed.EntryRel Parameter) entries others →
    TableField (.text "parameters") (.mapping entries) (.mapping others)
  | list {items others : List Raw} : List.Forall₂ Element items others →
    TableField (.text "parameters") (.list items) (.list others)

/-- A field of a document: its paths, the table at its top, and the table among its components. -/
inductive DocumentField : Scalar → Raw → Raw → Prop
  | paths {entries others : List (Scalar × Raw)} :
    List.Forall₂ (Keyed.EntryRel (Revised ItemField)) entries others →
    DocumentField (.text "paths") (.mapping entries) (.mapping others)
  | table {key : Scalar} {value other : Raw} : TableField key value other →
    DocumentField key value other
  | components {entries others : List (Scalar × Raw)} : EntriesRevised TableField entries others →
    DocumentField (.text "components") (.mapping entries) (.mapping others)

/-- A document and the same with nulls allowed at some of its types. -/
abbrev Document : Raw → Raw → Prop :=
  Revised DocumentField

variable {key : Scalar} {name : String} {value other : Raw} {entries others : List (Scalar × Raw)}

/-! ### Schemas -/

/-- Nulls before and behind a type do not count. -/
theorem countingType_types {type : String} (notNull : type ≠ Schema.nullType)
    (before after : Nat) : Schema.countingType (types before type after) = .text type := by
  have counts : Schema.isNullType (Raw.text type) = false := decide_eq_false notNull
  rw [types, Schema.countingType]
  induction before with
  | zero =>
    rw [List.replicate_zero, List.nil_append, List.find?_cons, counts]
    rfl
  | succ before ih =>
    rw [List.replicate_succ, List.cons_append, List.find?_cons_of_neg (by decide)]
    exact ih

theorem Field.exists_name (field : Field key value other) :
    ∃ name ∈ Field.names, key = .text name := by
  cases field with
  | type => exact ⟨"type", by decide, rfl⟩
  | items => exact ⟨"items", by decide, rfl⟩
  | schema => exact ⟨"schema", by decide, rfl⟩

/-- Under any other name no field differs. -/
theorem not_field (different : name ∉ Field.names) (value other : Raw) :
    ¬ Field (.text name) value other := by
  intro field
  obtain ⟨named, member, same⟩ := field.exists_name
  exact different (Scalar.text.inj same ▸ member)

/-- The same value counts as a type. -/
theorem Field.countingType_eq (field : Field (.text "type") value other) :
    Schema.countingType other = Schema.countingType value := by
  generalize named : Scalar.text "type" = key at field
  cases field with
  | type before after notNull => exact countingType_types notNull before after
  | items => exact absurd named (by decide)
  | schema => exact absurd named (by decide)

/-- Under any other name there is a schema. -/
theorem Field.exists_entriesRevised (field : Field key value other) (notType : key ≠ .text "type") :
    ∃ entries others, value = .mapping entries ∧ other = .mapping others ∧
      EntriesRevised Field entries others := by
  cases field with
  | type => exact absurd rfl notType
  | items revises => exact ⟨_, _, rfl, rfl, revises⟩
  | schema revises => exact ⟨_, _, rfl, rfl, revises⟩

/-- A type is read as it was. -/
theorem readType_eq (revises : EntriesRevised Field entries others) :
    Schema.readType others = Schema.readType entries := by
  rw [Schema.readType, Schema.readType]
  rcases Raw.lookup_of_entriesRevised revises "type" with
    same | ⟨value, other, found, otherFound, field⟩
  · rw [same]
  · rw [found, otherFound, Option.getD_some, Option.getD_some, field.countingType_eq]

/-- **A schema** is read as it was, at every depth of its items. -/
theorem schemaRead_eq (entries others : List (Scalar × Raw))
    (revises : EntriesRevised Field entries others) :
    Schema.read (.mapping others) = Schema.read (.mapping entries) := by
  have format : Raw.lookup "format" others = Raw.lookup "format" entries :=
    Raw.lookup_eq_of_entriesRevised revises (not_field (by decide))
  have items : (Raw.lookup "items" others).elim (.ok none) Schema.read =
      (Raw.lookup "items" entries).elim (.ok none) Schema.read := by
    rcases Raw.lookup_of_entriesRevised revises "items" with same | ⟨_, _, found, otherFound, field⟩
    · rw [same]
    · obtain ⟨inner, innerOthers, rfl, rfl, innerRevises⟩ := field.exists_entriesRevised (by decide)
      rw [found, otherFound]
      exact schemaRead_eq inner innerOthers innerRevises
  rw [Schema.read_mapping, Schema.read_mapping, items, Checked.fieldOr, Checked.fieldOr, format,
    readType_eq revises]
termination_by sizeOf entries
decreasing_by
  have := Raw.sizeOf_lookup_lt found
  simp only [Raw.mapping.sizeOf_spec] at this
  omega

/-! ### Parameters -/

/-- The schema of a parameter is taken from corresponding fields. -/
theorem schemaSource_revised (revises : EntriesRevised Field entries others) :
    Revised Field (ContractParameter.schemaSource entries)
      (ContractParameter.schemaSource others) := by
  have typed : (Raw.lookup "type" others).isSome = (Raw.lookup "type" entries).isSome :=
    Raw.isSome_lookup_of_entriesRevised revises "type"
  rw [ContractParameter.schemaSource, ContractParameter.schemaSource]
  rcases Raw.lookup_of_entriesRevised revises "schema" with same | ⟨_, _, found, otherFound, field⟩
  · rw [same, typed]
    split
    · split
      · exact .mapping revises
      · exact .same _
    · exact .same _
  · obtain ⟨inner, innerOthers, rfl, rfl, innerRevises⟩ := field.exists_entriesRevised (by decide)
    rw [found, otherFound]
    exact .mapping innerRevises

/-- A parameter is read the same. -/
theorem parameterRead_eq (revises : EntriesRevised Field entries others) :
    ContractParameter.read others = ContractParameter.read entries := by
  have untouched : ∀ name, name ∉ Field.names →
      Raw.lookup name others = Raw.lookup name entries :=
    fun name different => Raw.lookup_eq_of_entriesRevised revises (not_field different)
  have schema : Schema.read (ContractParameter.schemaSource others) =
      Schema.read (ContractParameter.schemaSource entries) := by
    have sources := schemaSource_revised revises
    revert sources
    generalize ContractParameter.schemaSource entries = source
    generalize ContractParameter.schemaSource others = otherSource
    intro sources
    cases sources with
    | same => rfl
    | mapping inner => exact schemaRead_eq _ _ inner
  rw [ContractParameter.read, ContractParameter.read, untouched "$ref" (by decide)]
  cases Raw.lookup "$ref" entries with
  | some ref => rfl
  | none =>
    rw [ContractParameter.readInPlace, ContractParameter.readInPlace, schema,
      untouched "in" (by decide), untouched "name" (by decide), untouched "required" (by decide)]

/-- **A parameter** is read as it was, and what stands for none still stands for none. -/
theorem Parameter.read_eq (parameter : Parameter value other) :
    (ContractParameter.entries? other).map ContractParameter.read =
      (ContractParameter.entries? value).map ContractParameter.read := by
  cases parameter with
  | same => rfl
  | @mapping entries others revises =>
    have location : Raw.lookup "in" others = Raw.lookup "in" entries :=
      Raw.lookup_eq_of_entriesRevised revises (not_field (by decide))
    rw [ContractParameter.entries?, ContractParameter.entries?, location]
    split
    · rfl
    · rw [Option.map_some, Option.map_some, parameterRead_eq revises]

/-! ### Operations -/

theorem ListField.exists_items (field : ListField key value other) :
    ∃ items others, value = .list items ∧ other = .list others ∧
      List.Forall₂ Parameter items others := by
  cases field with
  | parameters each => exact ⟨_, _, rfl, rfl, each⟩

theorem ListField.key_eq (field : ListField key value other) : key = .text "parameters" := by
  cases field with
  | parameters => rfl

/-- Lists of parameters are read as they were. -/
theorem readListed_eq {field : Scalar → Raw → Raw → Prop}
    (allowed : ∀ value other, field (.text "parameters") value other →
      ListField (.text "parameters") value other)
    (revises : EntriesRevised field entries others) :
    ContractParameter.readListed others = ContractParameter.readListed entries := by
  have keeps : ∀ value other, field (.text "parameters") value other →
      other.isTruthy = value.isTruthy := by
    intro value other revised
    obtain ⟨items, revisedItems, rfl, rfl, each⟩ := (allowed value other revised).exists_items
    exact Raw.isTruthy_list_of_forall₂ each
  rw [ContractParameter.readListed, ContractParameter.readListed]
  rcases Raw.lookupTruthy_of_entriesRevised revises keeps with
    same | ⟨value, other, shown, otherShown, revised⟩
  · rw [same]
  · obtain ⟨items, revisedItems, rfl, rfl, each⟩ := (allowed value other revised).exists_items
    rw [shown, otherShown]
    exact Outcome.mapM_filterMap_congr (each.imp fun _ _ => Parameter.read_eq)

/-- An operation is read the same. -/
theorem operationRead_eq (path : Scalar) (method : String) (shared : List ContractParameter)
    (revises : EntriesRevised ListField entries others) :
    Operation.read path method shared others = Operation.read path method shared entries := by
  have untouched : ∀ name, name ≠ "parameters" → Raw.lookup name others = Raw.lookup name entries :=
    fun name different => Raw.lookup_eq_of_entriesRevised revises
      fun _ _ field => different (Scalar.text.inj field.key_eq)
  rw [Operation.read, Operation.read, readListed_eq (fun _ _ field => field) revises,
    untouched "operationId" (by decide), Raw.lookupTruthy_congr (untouched "summary" (by decide))]

/-- The name of the parameters is no method. -/
theorem ItemField.listField_of_parameters (field : ItemField (.text "parameters") value other) :
    ListField (.text "parameters") value other := by
  generalize named : Scalar.text "parameters" = key at field
  cases field with
  | parameters listed => exact listed
  | operation isMethod =>
    rw [← Scalar.text.inj named] at isMethod
    exact absurd isMethod (by decide +kernel)

/-- **An operation** is read as it was. -/
theorem readEntry_eq (path : Scalar) (shared : List ContractParameter)
    {entry revised : Scalar × Raw} (revises : Raw.EntryRevised ItemField entry revised) :
    Operation.readEntry path shared revised = Operation.readEntry path shared entry := by
  cases revises with
  | same => rfl
  | under field =>
    cases field with
    | parameters listed =>
      rw [listed.key_eq, Operation.readEntry_parameters, Operation.readEntry_parameters]
    | operation isMethod inner => simp only [Operation.readEntry, operationRead_eq _ _ _ inner]

/-- The operations of a path are read the same. -/
theorem readPath_eq {entry revised : Scalar × Raw}
    (item : Keyed.EntryRel (Revised ItemField) entry revised) :
    Operation.readPath revised = Operation.readPath entry := by
  obtain ⟨path, value⟩ := entry
  obtain ⟨otherPath, other⟩ := revised
  obtain ⟨samePath, item⟩ := item
  change otherPath = path at samePath
  rw [samePath]
  cases item with
  | same => rfl
  | mapping revises =>
    have listed := readListed_eq (fun _ _ => ItemField.listField_of_parameters) revises
    rw [Operation.readPath_mapping, Operation.readPath_mapping, listed]
    congr 1
    funext shared
    rw [Outcome.mapM_congr_of_forall₂ (revises.imp fun _ _ => readEntry_eq path shared)]

/-! ### Components -/

/-- An element of a list is taken to a corresponding pair. -/
theorem Element.pair_alike {element revised : Raw} (elementRevised : Element element revised) :
    Outcome.Alike (Keyed.EntryRel Parameter) element.pair revised.pair := by
  cases elementRevised with
  | same =>
    cases element.pair with
    | error fault => exact .error fault
    | ok entry => exact .ok ⟨rfl, .same entry.2⟩
  | pair name parameter =>
    cases name with
    | scalar key => exact .ok ⟨rfl, parameter⟩
    | _ => exact .error _

/-- A table is taken to corresponding pairs. -/
theorem TableField.pairs_alike (table : TableField key value other) :
    Outcome.Alike (List.Forall₂ (Keyed.EntryRel Parameter)) value.pairs other.pairs ∧
      other.isTruthy = value.isTruthy := by
  cases table with
  | mapping each => exact ⟨.ok each, Raw.isTruthy_mapping_of_forall₂ each⟩
  | list each =>
    exact ⟨.mapM (each.imp fun _ _ => Element.pair_alike), Raw.isTruthy_list_of_forall₂ each⟩

/-- The table in a mapping is found with corresponding entries. -/
theorem tableEntries_alike {field : Scalar → Raw → Raw → Prop}
    (allowed : ∀ value other, field (.text "parameters") value other →
      TableField (.text "parameters") value other)
    (revises : EntriesRevised field entries others) :
    Outcome.Alike (List.Forall₂ (Keyed.EntryRel Parameter)) (Components.tableEntries entries)
      (Components.tableEntries others) := by
  rw [Components.tableEntries, Components.tableEntries]
  rcases Raw.lookupTruthy_of_entriesRevised revises
      (fun value other revised => (allowed value other revised).pairs_alike.2) with
    same | ⟨value, other, shown, otherShown, revised⟩
  · rw [same]
    exact .refl _ fun table => List.forall₂_same.mpr fun entry _ => ⟨rfl, .same entry.2⟩
  · rw [shown, otherShown]
    exact (allowed value other revised).pairs_alike.1.mapError _

theorem TableField.key_eq (table : TableField key value other) : key = .text "parameters" := by
  cases table with
  | mapping => rfl
  | list => rfl

/-! ### Documents -/

namespace DocumentField

theorem exists_name (field : DocumentField key value other) :
    ∃ name ∈ ["paths", "parameters", "components"], key = .text name := by
  cases field with
  | paths => exact ⟨"paths", by decide, rfl⟩
  | table table => exact ⟨"parameters", by decide, table.key_eq⟩
  | components => exact ⟨"components", by decide, rfl⟩

theorem table_of_parameters (field : DocumentField (.text "parameters") value other) :
    TableField (.text "parameters") value other := by
  generalize named : Scalar.text "parameters" = key at field
  cases field with
  | table table => exact table
  | paths => exact absurd named (by decide)
  | components => exact absurd named (by decide)

theorem exists_paths (field : DocumentField (.text "paths") value other) :
    ∃ entries others, value = .mapping entries ∧ other = .mapping others ∧
      List.Forall₂ (Keyed.EntryRel (Revised ItemField)) entries others := by
  generalize named : Scalar.text "paths" = key at field
  cases field with
  | paths each => exact ⟨_, _, rfl, rfl, each⟩
  | table table => exact absurd (named.trans table.key_eq) (by decide)
  | components => exact absurd named (by decide)

theorem exists_components (field : DocumentField (.text "components") value other) :
    ∃ entries others, value = .mapping entries ∧ other = .mapping others ∧
      EntriesRevised TableField entries others := by
  generalize named : Scalar.text "components" = key at field
  cases field with
  | components revises => exact ⟨_, _, rfl, rfl, revises⟩
  | table table => exact absurd (named.trans table.key_eq) (by decide)
  | paths => exact absurd named (by decide)

end DocumentField

/-- **The operations** of a document are read as they were. -/
theorem readPaths_eq (revises : EntriesRevised DocumentField entries others) :
    Operation.readPaths others = Operation.readPaths entries := by
  have keeps : ∀ value other, DocumentField (.text "paths") value other →
      other.isTruthy = value.isTruthy := by
    intro value other field
    obtain ⟨paths, otherPaths, rfl, rfl, each⟩ := field.exists_paths
    exact Raw.isTruthy_mapping_of_forall₂ each
  rw [Operation.readPaths, Operation.readPaths]
  rcases Raw.lookupTruthy_of_entriesRevised revises keeps with
    same | ⟨value, other, shown, otherShown, field⟩
  · rw [same]
  · obtain ⟨paths, otherPaths, rfl, rfl, each⟩ := field.exists_paths
    have read : otherPaths.mapM Operation.readPath = paths.mapM Operation.readPath :=
      Outcome.mapM_congr_of_forall₂ (each.imp fun _ _ => readPath_eq)
    rw [shown, otherShown]
    exact congrArg (fun operations => operations >>= fun found => .ok found.flatten) read

/-- The nested table is found with corresponding entries. -/
theorem nestedEntries_alike (revises : EntriesRevised DocumentField entries others) :
    Outcome.Alike (List.Forall₂ (Keyed.EntryRel Parameter)) (Components.nestedEntries entries)
      (Components.nestedEntries others) := by
  have keeps : ∀ value other, DocumentField (.text "components") value other →
      other.isTruthy = value.isTruthy := by
    intro value other field
    obtain ⟨tables, otherTables, rfl, rfl, each⟩ := field.exists_components
    exact Raw.isTruthy_mapping_of_forall₂ each
  rw [Components.nestedEntries, Components.nestedEntries]
  rcases Raw.lookupTruthy_of_entriesRevised revises keeps with
    same | ⟨value, other, shown, otherShown, field⟩
  · rw [same]
    exact .refl _ fun table => List.forall₂_same.mpr fun entry _ => ⟨rfl, .same entry.2⟩
  · obtain ⟨tables, otherTables, rfl, rfl, each⟩ := field.exists_components
    rw [shown, otherShown]
    exact tableEntries_alike (fun _ _ table => table) each

/-- **The components** of a document are read as they were. -/
theorem componentsRead_eq (revises : EntriesRevised DocumentField entries others) :
    Components.read others = Components.read entries := by
  have tables : Outcome.Alike (List.Forall₂ (Keyed.EntryRel Parameter))
      (Components.entries entries) (Components.entries others) := by
    rw [Components.entries_eq, Components.entries_eq]
    have top := tableEntries_alike (fun _ _ => DocumentField.table_of_parameters) revises
    refine top.bind fun table otherTable each => ?_
    refine (nestedEntries_alike revises).bind fun nested otherNested nestedEach => .ok ?_
    exact Keyed.forall₂_insertAllBy nestedEach (Keyed.forall₂_insertAllBy each .nil)
  rw [Components.read, Components.read]
  refine tables.bind_eq fun table otherTable each => ?_
  refine congrArg (· >>= _) (Outcome.mapM_filterMap_congr (each.imp fun entry other alike => ?_))
  obtain ⟨key, value⟩ := entry
  obtain ⟨otherKey, otherValue⟩ := other
  obtain ⟨sameKey, parameter⟩ := alike
  change otherKey = key at sameKey
  -- a parameter is chosen and read under its name, so the two differ in nothing but the value
  have named : ∀ (key : Scalar) (value : Raw),
      (Components.named? (key, value)).map Components.readNamed =
        ((ContractParameter.entries? value).map ContractParameter.read).map fun read =>
          ContractFault.ofWritten (Raw.scalar key).written >>= fun name =>
            read >>= fun parameter => .ok (name, parameter) := by
    intro key value
    rw [Components.named?, Option.map_map, Option.map_map]
    rfl
  rw [named, named, Parameter.read_eq parameter, sameKey]

/-- The contract is read the same. -/
theorem ofEntries_eq (revises : EntriesRevised DocumentField entries others) :
    Contract.ofEntries others = Contract.ofEntries entries := by
  have untouched : Raw.lookup "info" others = Raw.lookup "info" entries := by
    refine Raw.lookup_eq_of_entriesRevised revises fun value other field => ?_
    obtain ⟨name, member, same⟩ := field.exists_name
    rw [← Scalar.text.inj same] at member
    exact absurd member (by decide)
  rw [Contract.ofEntries, Contract.ofEntries, readPaths_eq revises, componentsRead_eq revises,
    Contract.readInfo_congr untouched]

/-- **Nulls do not count.** A document in which nulls are allowed is read as the same contract, or
fails with the same fault. -/
theorem ofRaw_of_document {document other : Raw} (revised : Document document other) :
    Contract.ofRaw other = Contract.ofRaw document := by
  cases revised with
  | same => rfl
  | mapping revises => exact ofEntries_eq revises

/-! ### A document with types at every place -/

/-- A parameter with a schema. -/
def schemaParameter (name : String) (schema : List (String × Raw)) : Raw :=
  .ofFields [("name", .text name), ("in", .text "query"), ("schema", .ofFields schema)]

/-- A parameter may have its type in a list with null anywhere. -/
theorem schemaParameter_revised (name : String) {type : String} (notNull : type ≠ Schema.nullType)
    (before after : Nat) (fields : List (String × Raw)) :
    Parameter (schemaParameter name (("type", .text type) :: fields))
      (schemaParameter name (("type", types before type after) :: fields)) := by
  have others : ∀ entries, EntriesRevised Field entries entries :=
    fun entries => List.forall₂_same.mpr fun entry _ => .same entry
  refine .mapping (.cons (.same _) (.cons (.same _) (.cons (.under ?schema) .nil)))
  exact .schema (.cons (.under (.type before after notNull)) (others _))

/-- A parameter that is its own schema, an array of arrays. -/
def burrowsParameter (burrows rows tag : Raw) : Raw :=
  .ofFields
    [("name", .text "burrows"), ("in", .text "query"), ("type", burrows),
    ("items", .ofFields [("type", rows), ("items", .ofFields [("type", tag)])])]

/-- Parameters in the lists of a path and an operation and in both tables, of which the one at the
top is a list. -/
def hutchDocument (age burrows limit page : Raw) : Raw :=
  .ofFields
    [("parameters", .list [.list [.text "limit", limit]]),
    ("components", .ofFields [("parameters", .ofFields [("page", page)])]),
    ("paths", .ofFields [("/hutches", .ofFields
      [("parameters", .list [age]),
      ("get", .ofFields [("parameters", .list
        [burrows, .ofFields [("$ref", .text "#/parameters/limit")],
        .ofFields [("$ref", .text "#/components/parameters/page")]])])])])]

/-- What it is read as. -/
def hutchContract : Contract where
  operations :=
    [{ method := "get"
       path := "/hutches"
       parameters :=
        [{ name := some "age", location := some "query",
           schema := some { type := some "integer", format := some "int64" } },
          { name := some "burrows", location := some "query",
            schema := some { type := some "array",
                             items := some { type := some "array",
                                             items := some { type := some "string" } } } },
          { ref := some "#/parameters/limit" }, { ref := some "#/components/parameters/page" }] }]
  components :=
    [("limit", { name := some "limit", location := some "query",
                 schema := some { type := some "integer" } }),
      ("page", { name := some "page", location := some "query",
                 schema := some { type := some "boolean" } })]

/-- The document with types alone. -/
def hutchPlain : Raw :=
  hutchDocument (schemaParameter "age" [("type", .text "integer"), ("format", .text "int64")])
    (burrowsParameter (.text "array") (.text "array") (.text "string"))
    (schemaParameter "limit" [("type", .text "integer")])
    (schemaParameter "page" [("type", .text "boolean")])

/-- The document with nulls allowed everywhere but in the items of the inner array. -/
def hutchNullable : Raw :=
  hutchDocument (schemaParameter "age" [("type", types 0 "integer" 1), ("format", .text "int64")])
    (burrowsParameter (types 1 "array" 0) (types 1 "array" 2) (.text "string"))
    (schemaParameter "limit" [("type", types 2 "integer" 1)])
    (schemaParameter "page" [("type", types 0 "boolean" 0)])

theorem document_hutch : Document hutchPlain hutchNullable := by
  have integer : "integer" ≠ Schema.nullType := by decide
  have boolean : "boolean" ≠ Schema.nullType := by decide
  have age := schemaParameter_revised "age" integer 0 1 [("format", .text "int64")]
  have limit := schemaParameter_revised "limit" integer 2 1 []
  have page := schemaParameter_revised "page" boolean 0 0 []
  have burrows : Parameter (burrowsParameter (.text "array") (.text "array") (.text "string"))
      (burrowsParameter (types 1 "array" 0) (types 1 "array" 2) (.text "string")) :=
    .mapping (.cons (.same _) (.cons (.same _) (.cons (.under (.type 1 0 (by decide))) (.cons
      (.under (.items (.cons (.under (.type 1 2 (by decide))) (.cons (.same _) .nil)))) .nil))))
  have shared := ItemField.parameters (.parameters (.cons age .nil))
  refine .mapping (.cons (.under ?top) (.cons (.under ?components) (.cons (.under ?paths) .nil)))
  case top => exact .table (.list (.cons (.pair _ limit) .nil))
  case components => exact .components (.cons (.under (.mapping (.cons ⟨rfl, page⟩ .nil))) .nil)
  case paths =>
    refine .paths (.cons ⟨rfl, .mapping (.cons (.under shared) (.cons (.under ?get) .nil))⟩ .nil)
    refine .operation (by decide +kernel) (.cons (.under (.parameters (.cons burrows ?_))) .nil)
    exact .cons (.same _) (.cons (.same _) .nil)

end ParameterDrift.Nullable

namespace ParameterDrift.Contract

/-- **Types that may be null.** A document in which nulls are allowed at any of its types is read as
the same contract, and every manifest is checked against it with the same run. -/
theorem validate_of_nullable {document other : Raw} {contract : Contract}
    (revised : Nullable.Document document other) (read : ofRaw document = .ok contract) :
    ofRaw other = .ok contract ∧
      ∀ otherContract, ofRaw other = .ok otherContract → ∀ manifest settings,
        otherContract.validate manifest settings = contract.validate manifest settings := by
  have same : ofRaw other = .ok contract := (Nullable.ofRaw_of_document revised).trans read
  refine ⟨same, fun otherContract otherRead manifest settings => ?_⟩
  rw [same] at otherRead
  rw [Except.ok.inj otherRead]

theorem validate_of_nullable_hutches :
    ofRaw Nullable.hutchPlain = .ok Nullable.hutchContract ∧
      Nullable.Document Nullable.hutchPlain Nullable.hutchNullable ∧
      ofRaw Nullable.hutchNullable = .ok Nullable.hutchContract := by
  have read : ofRaw Nullable.hutchPlain = .ok Nullable.hutchContract := by decide +kernel
  exact ⟨read, Nullable.document_hutch, (validate_of_nullable Nullable.document_hutch read).1⟩

end ParameterDrift.Contract
