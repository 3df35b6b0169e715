import ParameterDrift.Raw.Text
import ParameterDrift.Signature.Basic
/-! # Reading a manifest

A manifest is written flat: a resource or a parameter tells its file, line and column beside its
other fields. Reading gathers these into a location, for which the source of the manifest and zero
stand in, and then checks the whole.
-/

namespace ParameterDrift

/-- Why a document cannot be read as a manifest. -/
inductive ManifestFault
  /-- A value does not have the shape it is used by. -/
  | shape (fault : ShapeFault)
  /-- A value that is taken as a text is not written as one. -/
  | text (fault : WritingFault)
  /-- A resource is not a mapping. -/
  | resourceNotMapping
  /-- The fields of the manifest are wrong. -/
  | invalid (issues : List Issue)
  deriving DecidableEq, Repr

namespace Manifest

/-- The text of the value that is there, or another where there is none. -/
def textOr (default : String) : Option Raw → Except ManifestFault String
  | some value => value.written.mapError .text
  | none => .ok default

/-- The location that the entries of a resource or a parameter tell. -/
def locationOf (source : String) (entries : List (Scalar × Raw)) : Except ManifestFault Raw := do
  let file ← textOr source (Raw.lookup "file" entries)
  .ok (.ofFields
    [("file", .text file), ("line", (Raw.lookup "line" entries).getD (.int 0)),
      ("column", (Raw.lookup "column" entries).getD (.int 0))])

/-- Entries with another value under a name. -/
def withField (name : String) (value : Raw) (entries : List (Scalar × Raw)) :
    List (Scalar × Raw) :=
  Raw.without name entries ++ [(.text name, value)]

/-- A parameter with its location gathered; what is not a mapping is kept. -/
def gatherParameter (source : String) : Raw → Except ManifestFault Raw
  | .mapping entries => do
    let location ← locationOf source entries
    .ok (.mapping (withField "location" location entries))
  | other => .ok other

/-- The listed parameters of a resource. -/
def listedParameters (entries : List (Scalar × Raw)) : Except ShapeFault (List Raw) :=
  match Raw.lookupTruthy "parameters" entries with
  | none => .ok []
  | some listed => listed.elements

/-- A resource with its location and those of its parameters gathered. -/
def gatherResource (source : String) : Raw → Except ManifestFault Raw
  | .mapping entries => do
    let location ← locationOf source entries
    let listed ← (listedParameters entries).mapError .shape
    let parameters ← listed.mapM (gatherParameter source)
    .ok (.mapping
      (withField "parameters" (.list parameters) (withField "location" location entries)))
  | _ => .error .resourceNotMapping

/-- The source of a manifest: the one it tells, or the path it was read from. -/
def sourceOf (path : String) (document : List (Scalar × Raw)) : Except ManifestFault String :=
  textOr path (Raw.lookupTruthy "source" document)

/-- The listed resources of a manifest. -/
def listedResources (document : List (Scalar × Raw)) : Except ShapeFault (List Raw) :=
  match Raw.lookupTruthy "resources" document with
  | none => .ok []
  | some listed => listed.elements

/-- The manifest that the entries of a document stand for. -/
def ofEntries (path : String) (document : List (Scalar × Raw)) :
    Except ManifestFault Manifest := do
  let source ← sourceOf path document
  let listed ← (listedResources document).mapError .shape
  let resources ← listed.mapM (gatherResource source)
  let name ← textOr "" (Raw.lookup "name" document)
  (check (.ofFields
    [("name", .text name), ("source", .text source), ("resources", .list resources)])).toExcept
      |>.mapError .invalid

end Manifest

end ParameterDrift
