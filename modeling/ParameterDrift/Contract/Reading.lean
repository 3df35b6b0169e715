import ParameterDrift.Contract.Merge
import ParameterDrift.Raw.Text
import ParameterDrift.Text.Case
/-! # Reading a contract

A contract is read from the mapping of its document. Older documents keep a parameter's type on the
parameter itself and the reusable parameters at the top; newer ones have a schema and components.
Both are read alike. Parameters of a body are left out, and so is every value that stands where no
parameter or operation can. What remains is read in the order of the document, the parts of a value
before the value. Names, types, references, paths, titles and versions are taken as texts whatever
they are.
-/

namespace ParameterDrift

/-- The records of a contract that a document may get wrong. -/
inductive ContractRecord
  | schema
  | parameter
  | operation
  deriving DecidableEq, Repr

/-- Why a document cannot be read as a contract. -/
inductive ContractFault
  /-- A value does not have the shape it is used by. -/
  | shape (fault : ShapeFault)
  /-- A value that is taken as a text is not written as one. -/
  | text (fault : WritingFault)
  /-- The fields of a record are wrong. -/
  | invalid (record : ContractRecord) (issues : List Issue)
  deriving DecidableEq, Repr

namespace ContractFault

/-- A shape that is asked for, or the fault of the contract. -/
def ofShape {α : Type} (result : Except ShapeFault α) : Except ContractFault α :=
  result.mapError .shape

/-- A written text, or the fault of the contract. -/
def ofWritten {α : Type} (result : Except WritingFault α) : Except ContractFault α :=
  result.mapError .text

/-- A checked record, or the fault of the contract. -/
def ofChecked {α : Type} (record : ContractRecord) (result : Checked α) : Except ContractFault α :=
  result.toExcept.mapError (.invalid record)

end ContractFault

open ContractFault (ofShape ofWritten ofChecked)

/-! ### Schemas and parameters -/

namespace Schema

/-- The type that counts among several: the first that is not the text `null`. -/
def nullType : String := "null"

/-- Whether a value is the text `null`. -/
def isNullType : Raw → Bool
  | .scalar (.text s) => s = nullType
  | _ => false

/-- The text of a value, unless it is null. -/
def textUnlessNull : Raw → Option String
  | .scalar .null => none
  | value => some value.toText

/-- The written text of a value, unless it is null. -/
def readText (value : Raw) : Except ContractFault (Option String) :=
  (ofWritten value.written).map fun _ => textUnlessNull value

/-- The value that counts as a type. Of a list of types it is the first that is not the text
`null`. -/
def countingType : Raw → Raw
  | .list types => (types.find? fun type => !isNullType type).getD .null
  | type => type

/-- The type that some entries tell. -/
def readType (entries : List (Scalar × Raw)) : Except ContractFault (Option String) :=
  readText (countingType ((Raw.lookup "type" entries).getD .null))

/-- The schema that a value stands for; a value that is not a mapping stands for none. -/
def read : Raw → Except ContractFault (Option Schema)
  | .mapping entries => do
    let type ← readType entries
    let items ← match _found : Raw.lookup "items" entries with
      | some value => read value
      | none => .ok none
    let format ← ofChecked .schema
      (Checked.fieldOr "format" none (Checked.nullable Checked.text) entries)
    .ok (some ⟨type, format, items⟩)
  | _ => .ok none
termination_by raw => sizeOf raw
decreasing_by
  have := Raw.sizeOf_lookup_lt _found
  simp only [Raw.mapping.sizeOf_spec]
  omega

end Schema

namespace ContractParameter

/-- The locations of the parts of a body. -/
def bodyLocations : List String := ["body", "formData"]

/-- Whether a value is the location of a part of a body. -/
def isBodyLocation : Raw → Bool
  | .scalar (.text location) => bodyLocations.contains location
  | _ => false

/-- The entries of a value that stands for a parameter: of a mapping whose location is not one of a
body. -/
def entries? : Raw → Option (List (Scalar × Raw))
  | .mapping entries =>
    if isBodyLocation ((Raw.lookup "in" entries).getD .null) then none else some entries
  | _ => none

/-- The value that a parameter's schema is read from. A parameter without a schema that has a type
is its own. -/
def schemaSource (entries : List (Scalar × Raw)) : Raw :=
  match (Raw.lookup "schema" entries).getD .null with
  | .scalar .null => if (Raw.lookup "type" entries).isSome then .mapping entries else .null
  | schema => schema

/-- The parameter that is written in place by some entries. -/
def readInPlace (entries : List (Scalar × Raw)) : Except ContractFault ContractParameter := do
  let name ← Schema.readText ((Raw.lookup "name" entries).getD .null)
  let schema ← Schema.read (schemaSource entries)
  let location ← ofChecked .parameter
    ((Checked.nullable Checked.text ((Raw.lookup "in" entries).getD .null)).under
      (.name "location"))
  .ok
    { name := name
      location := location
      required := ((Raw.lookup "required" entries).getD (.bool false)).isTruthy
      schema := schema }

/-- The parameter that some entries stand for. -/
def read (entries : List (Scalar × Raw)) : Except ContractFault ContractParameter :=
  match Raw.lookup "$ref" entries with
  | some ref => (ofWritten ref.written).map fun ref => { ref := some ref }
  | none => readInPlace entries

/-- The parameters among some values. -/
def readAll (values : List Raw) : Except ContractFault (List ContractParameter) :=
  (values.filterMap entries?).mapM read

/-- The parameters that the entries of a path or an operation list. -/
def readListed (entries : List (Scalar × Raw)) : Except ContractFault (List ContractParameter) :=
  match Raw.lookupTruthy "parameters" entries with
  | none => .ok []
  | some listed => do readAll (← ofShape listed.elements)

end ContractParameter

/-! ### Operations -/

namespace Operation

/-- The methods of operations. -/
def methods : List String :=
  ["get", "put", "post", "delete", "options", "head", "patch", "trace"]

/-- The operation that some entries stand for, under a method of a path. -/
def read (path : Scalar) (method : String) (shared : List ContractParameter)
    (entries : List (Scalar × Raw)) : Except ContractFault Operation := do
  let own ← ContractParameter.readListed entries
  let path ← ofWritten (Raw.scalar path).written
  let operationId := (Raw.lookup "operationId" entries).getD .null
  let summary := (Raw.lookupTruthy "summary" entries).getD (.text "")
  ofChecked .operation <|
    (fun operationId summary =>
      { method, path, operationId, summary, parameters := ContractParameter.merge shared own }) <$>
      (Checked.nullable Checked.text operationId).under (.name "operation_id") <*>
      (Checked.text summary).under (.name "summary")

/-- The operation of one entry of a path, if the entry is one. -/
def readEntry (path : Scalar) (shared : List ContractParameter) :
    Scalar × Raw → Except ContractFault (Option Operation)
  | (.text key, value) =>
    let method := Text.lowerString key
    match value with
    | .mapping entries =>
      if methods.contains method then (read path method shared entries).map some else .ok none
    | _ => .ok none
  | _ => .error (.shape .methodNotText)

/-- The operations of a path; a value that is not a mapping has none. -/
def readPath : Scalar × Raw → Except ContractFault (List Operation)
  | (path, .mapping entries) => do
    let shared ← ContractParameter.readListed entries
    let operations ← entries.mapM (readEntry path shared)
    .ok (operations.filterMap id)
  | _ => .ok []

/-- The operations of all paths of a document. -/
def readPaths (document : List (Scalar × Raw)) : Except ContractFault (List Operation) :=
  match Raw.lookupTruthy "paths" document with
  | none => .ok []
  | some paths => do
    let operations ← (← ofShape paths.entries?).mapM readPath
    .ok operations.flatten

end Operation

/-! ### Components and the whole -/

namespace Components

/-- The entries that a table of parameters stands for. -/
def tableEntries (entries : List (Scalar × Raw)) : Except ContractFault (List (Scalar × Raw)) :=
  match Raw.lookupTruthy "parameters" entries with
  | none => .ok []
  | some table => ofShape table.pairs

/-- The entries of both tables of a document: the one at the top, then the one among the
components. -/
def entries (document : List (Scalar × Raw)) : Except ContractFault (List (Scalar × Raw)) := do
  let top ← tableEntries document
  let components ← match Raw.lookupTruthy "components" document with
    | none => .ok []
    | some components => ofShape components.entries?
  let nested ← tableEntries components
  .ok (Keyed.insertAllBy Scalar.sameKey (Keyed.insertAllBy Scalar.sameKey [] top) nested)

/-- The entries of the parameter that an entry of a table stands for, with its name. -/
def named? (entry : Scalar × Raw) : Option (Scalar × List (Scalar × Raw)) :=
  (ContractParameter.entries? entry.2).map fun entries => (entry.1, entries)

/-- The reusable parameter that some entries stand for, under the text of its name. -/
def readNamed (named : Scalar × List (Scalar × Raw)) :
    Except ContractFault (String × ContractParameter) := do
  let name ← ofWritten (Raw.scalar named.1).written
  let parameter ← ContractParameter.read named.2
  .ok (name, parameter)

/-- The reusable parameters of a document by name. -/
def read (document : List (Scalar × Raw)) : Except ContractFault Components := do
  let components ← ((← entries document).filterMap named?).mapM readNamed
  .ok (Keyed.ofList components)

end Components

namespace Contract

/-- The text of a field, empty when there is none. -/
def textField (name : String) (entries : List (Scalar × Raw)) : Except ContractFault String :=
  match Raw.lookup name entries with
  | some value => ofWritten value.written
  | none => .ok ""

/-- The entries that tell about a document as a whole. -/
def infoEntries (document : List (Scalar × Raw)) : Except ContractFault (List (Scalar × Raw)) :=
  match Raw.lookupTruthy "info" document with
  | none => .ok []
  | some info => ofShape info.entries?

/-- The title and the version of a document. -/
def readInfo (document : List (Scalar × Raw)) : Except ContractFault (String × String) := do
  let info ← infoEntries document
  let title ← textField "title" info
  let version ← textField "version" info
  .ok (title, version)

/-- The contract that the entries of a document stand for. -/
def ofEntries (document : List (Scalar × Raw)) : Except ContractFault Contract := do
  let operations ← Operation.readPaths document
  let info ← readInfo document
  let components ← Components.read document
  .ok { title := info.1, version := info.2, operations, components }

/-- The contract that a document stands for. -/
def ofRaw (document : Raw) : Except ContractFault Contract := do
  ofEntries (← ofShape document.entries?)

end Contract

end ParameterDrift
