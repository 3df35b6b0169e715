import ParameterDrift.Contract.Basic
import ParameterDrift.Text.Case
/-! # Type names

A contract and a signature name types in vocabularies of their own. Here a schema is given the type
name that counts, contract type names are mapped to those of the service's language, and a declared
type is compared with a schema. Every function is total: a type that has no counterpart has a name
of its own or none.
-/

namespace ParameterDrift

namespace TypeName

/-- The contract type name of a schema that tells none. -/
def unknown : String := "unknown"

/-- The declared type of a path segment whose kind of descriptor is not supported. -/
def unmatched : String := "unmatched"

/-- The mark after the type of the items in the name of an array type. -/
def arrayMark : String := "[]"

/-- The contract type of arrays. -/
def array : String := "array"

/-- The formats that refine a contract type. -/
def refinements : List (String × List String) :=
  [("integer", ["int32", "int64"]), ("number", ["float", "double"])]

/-- The type names of the service's language by contract type name. -/
def hostTypes : List (String × String) :=
  [("integer", "int"), ("int32", "int"), ("int64", "int"), ("string", "string"),
    ("boolean", "boolean"), ("number", "decimal"), ("float", "float"), ("double", "float"),
    ("object", "map<json>")]

/-- The type names of the service's language by kind of path segment descriptor. -/
def segmentTypes : List (String × String) :=
  [("INT_TYPE_DESC", "int"), ("STRING_TYPE_DESC", "string"), ("BOOLEAN_TYPE_DESC", "boolean"),
    ("FLOAT_TYPE_DESC", "float"), ("DECIMAL_TYPE_DESC", "decimal")]

/-- The end of the name of a kind of descriptor. -/
def descriptorEnd : List Char := "_TYPE_DESC".toList

/-! ### Declared types -/

/-- A type without blanks around it and without one mark of optionality at its end. -/
def dropOptional (type : List Char) : List Char :=
  let trimmed := Text.trim type
  match trimmed.reverse with
  | '?' :: before => Text.trimEnd before.reverse
  | _ => trimmed

/-- A declared type without its mark of optionality. -/
def stripOptional (type : String) : String :=
  String.ofList (dropOptional type.toList)

/-- A kind of descriptor in upper case, with its end in full. -/
def descriptorName (kind : List Char) : List Char :=
  let name := Text.upper (Text.trim kind)
  if descriptorEnd.isSuffixOf name then name else name ++ descriptorEnd

/-- The declared type of a path segment with some kind of descriptor. -/
def ofSegmentKind (kind : String) : String :=
  (segmentTypes.lookup (String.ofList (descriptorName kind.toList))).getD unmatched

/-- Whether the mark of an array stands in a text. -/
def holdsArrayMark : List Char → Bool
  | '[' :: ']' :: _ => true
  | _ :: rest => holdsArrayMark rest
  | [] => false

/-- Whether a declared type names an array anywhere. -/
def isArray (declared : String) : Bool :=
  holdsArrayMark declared.toList

/-! ### Contract types -/

/-- The type name of the service's language for a contract type name. -/
def host? (contractType : String) : Option String :=
  hostTypes.lookup contractType

end TypeName

open ParameterDrift.TypeName

namespace Schema

/-- Whether a schema is one of arrays. -/
def isArray (schema : Schema) : Bool :=
  schema.type == some array

/-- The type of the items of a schema. -/
def itemType? (schema : Schema) : Option String :=
  schema.items.bind Schema.type

/-- The type of a schema, refined by its format where the type admits of it. -/
def refinedType (schema : Schema) : String :=
  match schema.type, schema.format with
  | none, _ => unknown
  | some type, some format =>
    if ((refinements.lookup type).getD []).contains format then format else type
  | some type, none => type

end Schema

namespace TypeName

/-- The contract type name that is compared: of an array the type of its items, without regard to
their format. A missing or empty item type counts as none. -/
def ofSchema : Option Schema → String
  | none => unknown
  | some schema =>
    if schema.isArray then
      match schema.itemType? with
      | some type => if type = "" then unknown else type
      | none => unknown
    else schema.refinedType

/-- Whether a parameter's schema is one of arrays. -/
def isArraySchema : Option Schema → Bool
  | none => false
  | some schema => schema.isArray

/-- The contract type that a finding names when a declared type does not fit a schema, if it does
not. A type without counterpart, and an array of anything but the counterpart, are named as arrays;
a plain type that differs is named as it is. -/
def mismatch? (schema : Option Schema) (declared : String) : Option String :=
  let contractType := ofSchema schema
  match host? contractType with
  | none => some (contractType ++ arrayMark)
  | some host =>
    if isArray declared && declared != host ++ arrayMark then some (contractType ++ arrayMark)
    else if host != declared && !(isArraySchema schema && isArray declared) then some contractType
    else none

end TypeName

end ParameterDrift
