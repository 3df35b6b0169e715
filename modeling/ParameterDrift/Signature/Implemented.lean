import ParameterDrift.Keyed
import ParameterDrift.Signature.Basic
import ParameterDrift.Signature.Identifier
import ParameterDrift.Text.Segments
import ParameterDrift.TypeName
/-! # Implemented parameters

The three forms of a declaration come down to one: a plain name and the type that is compared with
a contract. The parameters of a resource are kept by plain name, and of several declarations with
one plain name the first counts. Paths are shown with the plain names of their segments.
-/

namespace ParameterDrift

/-- The type of a declaration as it is compared: declared types without their mark of optionality,
kinds of segments by their type. -/
def Declaration.type : Declaration → String
  | .required _ type _ => TypeName.stripOptional type
  | .defaultable _ type _ _ => TypeName.stripOptional type
  | .path _ typeKind _ => TypeName.ofSegmentKind typeKind

/-- A declaration as it is compared. -/
def Declaration.implemented (declaration : Declaration) :
    Except Identifier.CodePointFault ImplementedParameter :=
  (Identifier.plainName declaration.name).map fun name =>
    ⟨name, declaration.type, declaration.form, declaration.location⟩

/-- The parameters of a resource by plain name, in the order of the first declarations. -/
def Resource.implemented (resource : Resource) :
    Except Identifier.CodePointFault (List (String × ImplementedParameter)) :=
  (resource.declarations.mapM Declaration.implemented).map fun parameters =>
    Keyed.ofListFirst (parameters.map fun parameter => (parameter.name, parameter))

namespace DisplayPath

/-- A path with the plain names of its segments. -/
def ofPath (path : List Char) : Except Identifier.CodePointFault (List Char) :=
  ((Text.segments path).mapM Identifier.unescape).map Text.joinSegments

/-- A path with the plain names of its segments. -/
def ofString (path : String) : Except Identifier.CodePointFault String :=
  (ofPath path.toList).map String.ofList

end DisplayPath

end ParameterDrift
