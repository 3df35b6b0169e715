import ParameterDrift.Checked
/-! # Contracts

A contract documents the operations of a service: a method and a path, and the parameters that
apply. Parameters may be written in place or refer to the reusable components of the contract.
Only what concerns parameters is kept.
-/

namespace ParameterDrift

/-- The part of a parameter's schema that its type depends on. -/
structure Schema where
  /-- The type: string, integer, number, boolean, array, object or anything else. -/
  type : Option String := none
  /-- The refinement of the type, such as int64 or double. -/
  format : Option String := none
  /-- The schema of the items of an array. -/
  items : Option Schema := none
  deriving Repr, BEq

/-- Whether two schemas are equal, items included. -/
def Schema.decEq : (left right : Schema) → Decidable (left = right)
  | ⟨type, format, none⟩, ⟨type', format', none⟩ =>
    decidable_of_iff (type = type' ∧ format = format') (by simp)
  | ⟨_, _, none⟩, ⟨_, _, some _⟩ => isFalse (by simp)
  | ⟨_, _, some _⟩, ⟨_, _, none⟩ => isFalse (by simp)
  | ⟨type, format, some items⟩, ⟨type', format', some items'⟩ =>
    have : Decidable (items = items') := Schema.decEq items items'
    decidable_of_iff (type = type' ∧ format = format' ∧ items = items') (by simp)

instance : DecidableEq Schema := Schema.decEq

/-- A parameter of the contract: in place, or a reference to a component. -/
structure ContractParameter where
  name : Option String := none
  /-- Where a request carries the parameter: query, path, header or cookie. -/
  location : Option String := none
  required : Bool := false
  schema : Option Schema := none
  /-- The reference as it is written, when the parameter is one. -/
  ref : Option String := none
  deriving Repr, BEq, DecidableEq

/-- The reusable parameters of a contract by name, in order. -/
abbrev Components := List (String × ContractParameter)

/-- An operation with the parameters that apply to it. -/
structure Operation where
  method : String
  path : String
  operationId : Option String := none
  summary : String := ""
  parameters : List ContractParameter := []
  deriving Repr, BEq, DecidableEq

/-- A contract. -/
structure Contract where
  title : String := ""
  version : String := ""
  operations : List Operation := []
  components : Components := []
  deriving Repr, BEq, DecidableEq

open Checked

/-- Check a schema. -/
def Schema.check : Raw → Checked Schema
  | .mapping entries =>
    Schema.mk <$> fieldOr "type" none (nullable text) entries
      <*> fieldOr "format" none (nullable text) entries
      <*> match _found : Raw.lookup "items" entries with
        | none => .valid none
        | some .null => .valid none
        | some value => (some <$> Schema.check value).under (.name "items")
  | _ => fail .notRecord
termination_by raw => sizeOf raw
decreasing_by
  have := Raw.sizeOf_lookup_lt _found
  simp only [Raw.mapping.sizeOf_spec]
  omega

/-- Check a parameter of a contract. -/
def ContractParameter.check : Raw → Checked ContractParameter :=
  record fun entries =>
    ContractParameter.mk <$> fieldOr "name" none (nullable text) entries
      <*> fieldOr "location" none (nullable text) entries
      <*> fieldOr "required" false truth entries
      <*> fieldOr "param_schema" none (nullable Schema.check) entries
      <*> fieldOr "ref" none (nullable text) entries

/-- Check an operation. -/
def Operation.check : Raw → Checked Operation :=
  record fun entries =>
    Operation.mk <$> field "method" text entries
      <*> field "path" text entries
      <*> fieldOr "operation_id" none (nullable text) entries
      <*> fieldOr "summary" "" text entries
      <*> fieldOr "parameters" [] (items .notList ContractParameter.check) entries

/-- Check a contract. -/
def Contract.check : Raw → Checked Contract :=
  record fun entries =>
    Contract.mk <$> fieldOr "title" "" text entries
      <*> fieldOr "version" "" text entries
      <*> fieldOr "operations" [] (items .notList Operation.check) entries
      <*> fieldOr "components" [] (dictionary ContractParameter.check) entries

end ParameterDrift
