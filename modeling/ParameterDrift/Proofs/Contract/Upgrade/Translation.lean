import ParameterDrift.Proofs.Contract.Reference
import ParameterDrift.Proofs.Raw.Entries
import ParameterDrift.Proofs.Redirect
import ParameterDrift.Contract.Reading
/-! # Older documents written anew

An older document keeps its reusable parameters at the top and the type of a parameter on the
parameter. To write it anew is to move that table among the components, to let every reference point
there, and to put the type, the format and the items of a parameter that has no schema into one. All
else stays as it is. The new references end in the same names as the old ones
(`ParameterDrift.Upgrade.keepsNames_writeReference`).
-/

namespace ParameterDrift.Upgrade

/-! ### References -/

/-- What the references of older documents begin with. -/
def olderStart : String := "#/parameters/"

/-- What references to components begin with. -/
def newerStart : String := "#/components/parameters/"

/-- A reference written anew. -/
def writeReference (ref : String) : String :=
  if olderStart.toList.isPrefixOf ref.toList then
    String.ofList (newerStart.toList ++ ref.toList.drop olderStart.toList.length)
  else ref

/-- A value that stands for a reference, written anew. -/
def reference : Raw → Raw
  | .text ref => .text (writeReference ref)
  | other => other

/-! ### Parameters -/

/-- The fields of a parameter that make up its schema. -/
def isSchemaField (key : Scalar) : Bool :=
  key == .text "type" || key == .text "format" || key == .text "items"

/-- Whether a parameter without a schema has a type. -/
def hasOwnType (entries : List (Scalar × Raw)) : Bool :=
  match (Raw.lookup "schema" entries).getD .null with
  | .scalar .null => (Raw.lookup "type" entries).isSome
  | _ => false

/-- The entries of a parameter with its type, format and items moved into a schema. -/
def withSchema (entries : List (Scalar × Raw)) : List (Scalar × Raw) :=
  ((Raw.without "schema" entries).filter fun entry => !isSchemaField entry.1) ++
    [(.text "schema", .mapping (entries.filter fun entry => isSchemaField entry.1))]

/-- The entries of a parameter written anew. -/
def parameterEntries (entries : List (Scalar × Raw)) : List (Scalar × Raw) :=
  if (Raw.lookup "$ref" entries).isSome then Raw.changeField "$ref" reference entries
  else if hasOwnType entries then withSchema entries
  else entries

/-- A value that stands for a parameter, written anew. -/
def parameter : Raw → Raw
  | .mapping entries => .mapping (parameterEntries entries)
  | other => other

/-- A list of parameters written anew. -/
def parameters : Raw → Raw
  | .list items => .list (items.map parameter)
  | other => other

/-! ### Paths and components -/

/-- An operation written anew. -/
def operation : Raw → Raw
  | .mapping entries => .mapping (Raw.changeField "parameters" parameters entries)
  | other => other

/-- What stands under a key of a path's item, written anew. -/
def itemValue (key : Scalar) (value : Raw) : Raw :=
  match key with
  | .text name =>
    if name = "parameters" then parameters value
    else if Operation.methods.contains (Text.lowerString name) then operation value
    else value
  | _ => value

/-- A path's item written anew. -/
def item : Raw → Raw
  | .mapping entries => .mapping (Raw.mapEntries itemValue entries)
  | other => other

/-- The paths written anew. -/
def paths : Raw → Raw
  | .mapping entries => .mapping (Raw.mapEntries (fun _ => item) entries)
  | other => other

/-- An element that stands for a component, written anew. -/
def tableElement : Raw → Raw
  | .list [name, value] => .list [name, parameter value]
  | other => other

/-- A table of reusable parameters written anew. It is a mapping, or a list of names and
parameters. -/
def table : Raw → Raw
  | .mapping entries => .mapping (Raw.mapEntries (fun _ => parameter) entries)
  | .list elements => .list (elements.map tableElement)
  | other => other

/-- The components of a document that has a table at the top. -/
def components (entries : List (Scalar × Raw)) : List (Scalar × Raw) :=
  match Raw.lookup "parameters" entries with
  | none => []
  | some top => [(.text "components", .ofFields [("parameters", table top)])]

/-- The entries of a document written anew. -/
def documentEntries (entries : List (Scalar × Raw)) : List (Scalar × Raw) :=
  Raw.changeField "paths" paths (Raw.without "parameters" entries) ++ components entries

/-- A document written anew. -/
def document : Raw → Raw
  | .mapping entries => .mapping (documentEntries entries)
  | other => other

/-! ### What counts as older -/

/-- A reference to a parameter at the top. -/
def IsOlderReference (ref : String) : Prop :=
  ∃ name : List Char, '/' ∉ name ∧ ref.toList = olderStart.toList ++ name

/-- The locations of the parameters of older documents. -/
def olderLocations : List String := ["query", "header", "path", "formData", "body"]

/-- A value that, if it stands for a parameter, is a reference to the top or has a location of older
documents. -/
def IsOlderParameter : Raw → Prop
  | .mapping entries =>
    match Raw.lookup "$ref" entries with
    | some ref => ∃ text, ref = .text text ∧ IsOlderReference text
    | none => ∃ location ∈ olderLocations, Raw.lookup "in" entries = some (.text location)
  | _ => True

/-- The values that a path's item or an operation lists as parameters. -/
def listed (entries : List (Scalar × Raw)) : List Raw :=
  match Raw.lookup "parameters" entries with
  | some (.list items) => items
  | _ => []

/-- The values that an operation under a key of a path's item lists as parameters. -/
def operationValues : Scalar × Raw → List Raw
  | (.text name, .mapping entries) =>
    if Operation.methods.contains (Text.lowerString name) then listed entries else []
  | _ => []

/-- The values that a path's item and its operations list as parameters. -/
def itemValues : Raw → List Raw
  | .mapping entries => listed entries ++ entries.flatMap operationValues
  | _ => []

/-- The values of all lists of parameters below some paths. -/
def pathValues : Raw → List Raw
  | .mapping entries => entries.flatMap fun entry => itemValues entry.2
  | _ => []

/-- The values of a table of reusable parameters. -/
def tableValues (top : Raw) : List Raw :=
  match top.pairs with
  | .ok entries => entries.map Prod.snd
  | .error _ => []

/-- The values that stand where a document has parameters. -/
def parameterValues (entries : List (Scalar × Raw)) : List Raw :=
  ((Raw.lookup "paths" entries).map pathValues).getD [] ++
    ((Raw.lookup "parameters" entries).map tableValues).getD []

/-- An older document: one without components, whose references lead to the top and whose other
parameters have the locations of their time. -/
structure IsOlder (entries : List (Scalar × Raw)) : Prop where
  no_components : Raw.lookup "components" entries = none
  parameters : ∀ value ∈ parameterValues entries, IsOlderParameter value

/-! ### The names of references -/

variable {ref left right : String}

/-- An older reference is written with the newer start and the same name. -/
theorem toList_writeReference_of_older {name : List Char}
    (older : ref.toList = olderStart.toList ++ name) :
    (writeReference ref).toList = newerStart.toList ++ name := by
  have begins : olderStart.toList.isPrefixOf ref.toList = true := by
    rw [older, List.isPrefixOf_iff_prefix]
    exact List.prefix_append _ _
  rw [writeReference, if_pos begins, String.toList_ofList, older, List.drop_left]

/-- References to the top stay apart. -/
theorem writeReference_inj (leftOlder : IsOlderReference left) (rightOlder : IsOlderReference right) :
    writeReference left = writeReference right ↔ left = right := by
  obtain ⟨leftName, _, leftText⟩ := leftOlder
  obtain ⟨rightName, _, rightText⟩ := rightOlder
  rw [← String.toList_inj, ← String.toList_inj, toList_writeReference_of_older leftText,
    toList_writeReference_of_older rightText, leftText, rightText, List.append_cancel_left_eq,
    List.append_cancel_left_eq]

/-- **Names are kept.** A reference written anew ends in the same name. -/
theorem keepsNames_writeReference : KeepsNames writeReference := by
  intro ref
  by_cases begins : olderStart.toList.isPrefixOf ref.toList = true
  · obtain ⟨name, text⟩ := List.isPrefixOf_iff_prefix.mp begins
    rw [Reference.name?, Reference.name?, toList_writeReference_of_older text.symm, ← text]
    have older : olderStart.toList ++ name = '#' :: "/parameters".toList ++ '/' :: name := by
      rw [List.append_cons]
      rfl
    have newer : newerStart.toList ++ name =
        '#' :: "/components/parameters".toList ++ '/' :: name := by
      rw [List.append_cons]
      rfl
    rw [older, newer, Reference.componentName?_append, Reference.componentName?_append]
  · rw [writeReference, if_neg begins]

/-! ### The fields of a document -/

variable {entries : List (Scalar × Raw)}

/-- Under the components there is only the table of parameters. -/
theorem lookup_components_of_ne {name : String} (other : name ≠ "components") :
    Raw.lookup name (components entries) = none := by
  rw [components]
  split
  · rfl
  · have notKey : ¬ Scalar.text "components" = .text name :=
      fun same => other (Scalar.text.inj same).symm
    rw [Raw.lookup_cons, if_neg notKey, Raw.lookup_nil]

/-- Besides the paths and the two tables a document keeps its fields. -/
theorem lookup_documentEntries {name : String} (notPaths : name ≠ "paths")
    (notTop : name ≠ "parameters") (notComponents : name ≠ "components") :
    Raw.lookup name (documentEntries entries) = Raw.lookup name entries := by
  rw [documentEntries, Raw.lookup_append, lookup_components_of_ne notComponents, Option.or_none,
    Raw.lookup_changeField_of_ne paths notPaths, Raw.lookup_without_of_ne notTop]

/-- The translated document has the translated paths. -/
theorem lookup_paths_documentEntries :
    Raw.lookup "paths" (documentEntries entries) = (Raw.lookup "paths" entries).map paths := by
  rw [documentEntries, Raw.lookup_append, lookup_components_of_ne (by decide), Option.or_none,
    Raw.lookup_changeField_self, Raw.lookup_without_of_ne (by decide)]

/-- The translated document has no parameters at its top. -/
theorem lookup_parameters_documentEntries :
    Raw.lookup "parameters" (documentEntries entries) = none := by
  rw [documentEntries, Raw.lookup_append, lookup_components_of_ne (by decide), Option.or_none,
    Raw.lookup_changeField_of_ne paths (by decide), Raw.lookup_without_self]

/-- Under its components it has the translated parameters. -/
theorem lookup_components_documentEntries (older : IsOlder entries) :
    Raw.lookup "components" (documentEntries entries) =
      (Raw.lookup "parameters" entries).map fun top => .ofFields [("parameters", table top)] := by
  rw [documentEntries, Raw.lookup_append, Raw.lookup_changeField_of_ne paths (by decide),
    Raw.lookup_without_of_ne (by decide), older.no_components, Option.none_or, components]
  cases Raw.lookup "parameters" entries with
  | none => rfl
  | some top => rfl

end ParameterDrift.Upgrade
