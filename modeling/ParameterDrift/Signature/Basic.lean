import ParameterDrift.Checked
/-! # Signatures

The other side of a contract: resource functions, which implement operations of a service. A
resource declares its parameters in one of three forms; each comes down to a name and a type. A
manifest lists the resources of a service with the places where they are declared.
-/

namespace ParameterDrift

/-- Where something is declared. -/
structure Location where
  file : String := ""
  line : Int := 0
  column : Int := 0
  deriving DecidableEq, Repr

/-- The form in which a parameter is declared. -/
inductive ParameterForm
  | required
  | defaultable
  | path
  deriving DecidableEq, Repr

/-- A parameter as a resource declares it. -/
inductive Declaration
  /-- A parameter that a caller must give. -/
  | required (name type : String) (location : Location)
  /-- A parameter with a default value. -/
  | defaultable (name type : String) (default : Raw) (location : Location)
  /-- A parameter that is a segment of the path; its type is given by a kind of descriptor. -/
  | path (name typeKind : String) (location : Location)
  deriving DecidableEq

/-- A declared parameter as it is compared with a contract: with its plain name and its type. -/
structure ImplementedParameter where
  name : String
  declaredType : String
  form : ParameterForm
  location : Location := {}
  deriving DecidableEq, Repr

/-- A resource function. -/
structure Resource where
  method : String
  path : String
  declarations : List Declaration := []
  location : Location := {}
  deriving DecidableEq

/-- The resource functions of a service. -/
structure Manifest where
  name : String := ""
  source : String := ""
  resources : List Resource := []
  deriving DecidableEq

/-- The form of a declaration. -/
def Declaration.form : Declaration → ParameterForm
  | .required .. => .required
  | .defaultable .. => .defaultable
  | .path .. => .path

/-- The name of a declaration, as it is written. -/
def Declaration.name : Declaration → String
  | .required name .. => name
  | .defaultable name .. => name
  | .path name .. => name

/-- The place of a declaration. -/
def Declaration.location : Declaration → Location
  | .required _ _ location => location
  | .defaultable _ _ _ location => location
  | .path _ _ location => location

/-- A location as file, line and column with colons between. -/
def Location.toText (location : Location) : String :=
  (if location.file = "" then "<unknown>" else location.file) ++ ":" ++ toString location.line ++
    ":" ++ toString location.column

/-- Whether line and column of a location have no more digits than are written. -/
def Location.isWritable (location : Location) : Bool :=
  Numeral.isWritable location.line && Numeral.isWritable location.column

/-- A location written as a text. -/
def Location.written (location : Location) : Except WritingFault String :=
  if location.isWritable then .ok location.toText else .error .tooManyDigits

/-- The name of a form. -/
def ParameterForm.name : ParameterForm → String
  | .required => "required"
  | .defaultable => "defaultable"
  | .path => "path"

/-- The forms by name. -/
def ParameterForm.byName : List (String × ParameterForm) :=
  [ParameterForm.required, .defaultable, .path].map fun form => (form.name, form)

open Checked

/-- Check a location. -/
def Location.check : Raw → Checked Location :=
  record fun entries =>
    Location.mk <$> fieldOr "file" "" text entries
      <*> fieldOr "line" 0 integer entries
      <*> fieldOr "column" 0 integer entries

/-- The location among the entries of a record that has one. -/
def Location.fieldOf (entries : List (Scalar × Raw)) : Checked Location :=
  fieldOr "location" {} Location.check entries

/-- Check that a declaration that names its form names this one. -/
def ParameterForm.fieldOf (form : ParameterForm) (entries : List (Scalar × Raw)) : Checked Unit :=
  fieldOr "kind" () (named .otherLiteral [(form.name, ())]) entries

/-- Check a declaration of one form. -/
def Declaration.checkAs (form : ParameterForm) : Raw → Checked Declaration :=
  record fun entries =>
    (fun _ make => make) <$> form.fieldOf entries <*>
      match form with
      | .required =>
        Declaration.required <$> field "name" text entries <*> field "type" text entries
          <*> Location.fieldOf entries
      | .defaultable =>
        Declaration.defaultable <$> field "name" text entries <*> field "type" text entries
          <*> fieldOr "default" .null anything entries <*> Location.fieldOf entries
      | .path =>
        Declaration.path <$> field "name" text entries <*> field "type_kind" text entries
          <*> Location.fieldOf entries

/-- Check a declaration, whose form is told by its kind. Issues inside name the form. -/
def Declaration.check : Raw → Checked Declaration
  | .mapping entries =>
    match Raw.lookup "kind" entries with
    | none => fail .variantMissing
    | some kind =>
      match named .variantUnknown ParameterForm.byName kind with
      | .valid form => (Declaration.checkAs form (.mapping entries)).under (.name form.name)
      | .invalid issues => .invalid issues
  | _ => fail .notVariant

/-- Check an implemented parameter. -/
def ImplementedParameter.check : Raw → Checked ImplementedParameter :=
  record fun entries =>
    ImplementedParameter.mk <$> field "name" text entries
      <*> field "declared_type" text entries
      <*> field "kind" (named .notInEnumeration ParameterForm.byName) entries
      <*> Location.fieldOf entries

/-- Check a resource. -/
def Resource.check : Raw → Checked Resource :=
  record fun entries =>
    Resource.mk <$> field "method" text entries
      <*> field "path" text entries
      <*> fieldOr "parameters" [] (items .notList Declaration.check) entries
      <*> Location.fieldOf entries

/-- Check a manifest. -/
def Manifest.check : Raw → Checked Manifest :=
  record fun entries =>
    Manifest.mk <$> fieldOr "name" "" text entries
      <*> fieldOr "source" "" text entries
      <*> fieldOr "resources" [] (items .notList Resource.check) entries

end ParameterDrift
