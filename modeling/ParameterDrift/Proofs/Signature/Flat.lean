import ParameterDrift.Proofs.Checked
import ParameterDrift.Proofs.Raw.Entries
import ParameterDrift.Proofs.Workspace
/-! # Manifests that are written and read back

A manifest is written flat: each resource and each of its parameters tells where it is declared
beside its other fields. A file that is the source of the manifest, a line or a column that is zero
and a list of parameters that is empty may be left out. However it is written, reading gives the
manifest back (`ParameterDrift.Manifest.load_written`).
-/

namespace ParameterDrift

/-! ### Writing -/

/-- The ways to write a field that may be left out under some condition. -/
inductive OmissibleField (name : String) (value : Raw) (omissible : Prop) :
    List (Scalar × Raw) → Prop
  | written : OmissibleField name value omissible [(.text name, value)]
  | omitted : omissible → OmissibleField name value omissible []

/-- The ways to write a location in a manifest with some source. -/
inductive Location.Written (source : String) (location : Location) : List (Scalar × Raw) → Prop
  | fields {file line column : List (Scalar × Raw)} :
      OmissibleField "file" (.text location.file) (location.file = source) file →
      OmissibleField "line" (.int location.line) (location.line = 0) line →
      OmissibleField "column" (.int location.column) (location.column = 0) column →
      Written source location (file ++ line ++ column)

/-- The fields of a declaration apart from its location. -/
def Declaration.ownFields : Declaration → List (Scalar × Raw)
  | .required name type _ =>
    [(.text "kind", .text "required"), (.text "name", .text name), (.text "type", .text type)]
  | .defaultable name type default _ =>
    [(.text "kind", .text "defaultable"), (.text "name", .text name), (.text "type", .text type),
      (.text "default", default)]
  | .path name typeKind _ =>
    [(.text "kind", .text "path"), (.text "name", .text name),
      (.text "type_kind", .text typeKind)]

/-- The ways to write a declaration, its fields in any order. -/
inductive Declaration.Written (source : String) (declaration : Declaration) : Raw → Prop
  | mapping {place entries : List (Scalar × Raw)} :
      declaration.location.Written source place →
      entries.Perm (declaration.ownFields ++ place) →
      Written source declaration (.mapping entries)

/-- The ways to write a resource, its fields in any order. -/
inductive Resource.Written (source : String) (resource : Resource) : Raw → Prop
  | mapping {values : List Raw} {parameters place entries : List (Scalar × Raw)} :
      List.Forall₂ (Declaration.Written source) resource.declarations values →
      OmissibleField "parameters" (.list values) (values = []) parameters →
      resource.location.Written source place →
      entries.Perm
        ([(.text "method", .text resource.method), (.text "path", .text resource.path)] ++
          parameters ++ place) →
      Written source resource (.mapping entries)

/-- The ways to write a manifest, its fields in any order. -/
inductive Manifest.Written (manifest : Manifest) : List (Scalar × Raw) → Prop
  | mapping {values : List Raw} {document : List (Scalar × Raw)} :
      List.Forall₂ (Resource.Written manifest.source) manifest.resources values →
      document.Perm
        [(.text "name", .text manifest.name), (.text "source", .text manifest.source),
          (.text "resources", .list values)] →
      Written manifest document

/-- The fields of a location, with nothing left out. -/
def Location.flat (location : Location) : List (Scalar × Raw) :=
  [(.text "file", .text location.file), (.text "line", .int location.line),
    (.text "column", .int location.column)]

/-- A declaration with nothing left out. -/
def Declaration.flat (declaration : Declaration) : Raw :=
  .mapping (declaration.ownFields ++ declaration.location.flat)

/-- A resource with nothing left out. -/
def Resource.flat (resource : Resource) : Raw :=
  .mapping
    ([(.text "method", .text resource.method), (.text "path", .text resource.path)] ++
      [(.text "parameters", .list (resource.declarations.map Declaration.flat))] ++
      resource.location.flat)

/-- A manifest with nothing left out. -/
def Manifest.flat (manifest : Manifest) : List (Scalar × Raw) :=
  [(.text "name", .text manifest.name), (.text "source", .text manifest.source),
    (.text "resources", .list (manifest.resources.map Resource.flat))]

variable {name other source : String} {value : Raw} {omissible : Prop} {location : Location}
  {fields place entries : List (Scalar × Raw)}

/-! ### Nothing has to be left out -/

theorem Location.written_flat (source : String) (location : Location) :
    location.Written source location.flat :=
  .fields .written .written .written

theorem Declaration.written_flat (source : String) (declaration : Declaration) :
    declaration.Written source declaration.flat :=
  .mapping (declaration.location.written_flat source) (.refl _)

theorem Resource.written_flat (source : String) (resource : Resource) :
    resource.Written source resource.flat := by
  have declared : List.Forall₂ (Declaration.Written source) resource.declarations
      (resource.declarations.map Declaration.flat) :=
    List.forall₂_map_right_iff.mpr
      (List.forall₂_same.mpr fun declaration _ => declaration.written_flat source)
  exact .mapping declared .written (resource.location.written_flat source) (.refl _)

/-- A manifest may be written with all its fields. -/
theorem Manifest.written_flat (manifest : Manifest) : manifest.Written manifest.flat :=
  .mapping
    (List.forall₂_map_right_iff.mpr
      (List.forall₂_same.mpr fun resource _ => resource.written_flat manifest.source))
    (.refl _)

/-! ### Fields that may be left out -/

namespace OmissibleField

/-- A field that may be omitted is found or is omitted. -/
theorem lookup_self (field : OmissibleField name value omissible fields) :
    Raw.lookup name fields = some value ∨ omissible ∧ Raw.lookup name fields = none := by
  cases field with
  | written => exact Or.inl (by rw [Raw.lookup_cons, if_pos rfl])
  | omitted may => exact Or.inr ⟨may, rfl⟩

/-- A default that stands for what may be left out is right in any case. -/
theorem lookup_getD {default : Raw} (field : OmissibleField name value omissible fields)
    (standsIn : omissible → default = value) : (Raw.lookup name fields).getD default = value := by
  rcases field.lookup_self with found | ⟨may, absent⟩
  · rw [found, Option.getD_some]
  · rw [absent, Option.getD_none, standsIn may]

/-- Under other names such a field adds nothing. -/
theorem lookup_of_ne (field : OmissibleField name value omissible fields)
    (different : other ≠ name) :
    Raw.lookup other fields = none := by
  cases field with
  | written =>
    rw [Raw.lookup_cons, if_neg fun same => different (Scalar.text.inj same).symm, Raw.lookup_nil]
  | omitted _ => rfl

theorem keys_sublist (field : OmissibleField name value omissible fields) :
    (fields.map Prod.fst).Sublist [.text name] := by
  cases field with
  | written => exact List.Sublist.refl _
  | omitted _ => exact List.nil_sublist _

end OmissibleField

/-! ### Locations -/

/-- A text that is there, or is the one that stands in, is read as it is. -/
theorem Manifest.textOr_of_getD {default text : String} {value : Option Raw}
    (told : value.getD (.text default) = .text text) : textOr default value = .ok text := by
  cases value with
  | none =>
    cases told
    rfl
  | some value =>
    rw [Option.getD_some] at told
    rw [told]
    rfl

/-- The fields of a location. -/
def Location.keys : List String := ["file", "line", "column"]

namespace Location.Written

/-- A location is written under its keys only. -/
theorem keys_sublist (written : location.Written source place) :
    (place.map Prod.fst).Sublist (Location.keys.map Scalar.text) := by
  obtain ⟨file, line, column⟩ := written
  rw [List.map_append, List.map_append]
  exact (file.keys_sublist.append line.keys_sublist).append column.keys_sublist

/-- Under other keys nothing of a location is found. -/
theorem lookup_of_notMem (written : location.Written source place) (other : name ∉ Location.keys) :
    Raw.lookup name place = none := by
  obtain ⟨file, line, column⟩ := written
  simp only [Location.keys, List.mem_cons, List.not_mem_nil, or_false, not_or] at other
  rw [Raw.lookup_append, Raw.lookup_append, file.lookup_of_ne other.1, line.lookup_of_ne other.2.1,
    column.lookup_of_ne other.2.2]
  rfl

/-- What is left out of a location is put in again. -/
theorem locationOf_eq (written : location.Written source place) :
    Manifest.locationOf source place =
      .ok (.ofFields [("file", .text location.file), ("line", .int location.line),
        ("column", .int location.column)]) := by
  cases written with
  | @fields file line column fileField lineField columnField =>
    have inFile : Raw.lookup "file" (file ++ line ++ column) = Raw.lookup "file" file := by
      rw [Raw.lookup_append, Raw.lookup_append, lineField.lookup_of_ne (by decide),
        columnField.lookup_of_ne (by decide), Option.or_none, Option.or_none]
    have inLine : Raw.lookup "line" (file ++ line ++ column) = Raw.lookup "line" line := by
      rw [Raw.lookup_append, Raw.lookup_append, fileField.lookup_of_ne (by decide),
        columnField.lookup_of_ne (by decide), Option.none_or, Option.or_none]
    have inColumn : Raw.lookup "column" (file ++ line ++ column) = Raw.lookup "column" column := by
      rw [Raw.lookup_append, Raw.lookup_append, fileField.lookup_of_ne (by decide),
        lineField.lookup_of_ne (by decide), Option.none_or, Option.none_or]
    have told : (Raw.lookup "file" file).getD (.text source) = .text location.file :=
      fileField.lookup_getD fun same => by rw [same]
    have fileRead : Manifest.textOr source (Raw.lookup "file" file) = .ok location.file :=
      Manifest.textOr_of_getD told
    have lineRead : (Raw.lookup "line" line).getD (.int 0) = .int location.line :=
      lineField.lookup_getD fun zero => by rw [zero]
    have columnRead : (Raw.lookup "column" column).getD (.int 0) = .int location.column :=
      columnField.lookup_getD fun zero => by rw [zero]
    rw [Manifest.locationOf, inFile, inLine, inColumn, fileRead, lineRead, columnRead]
    rfl

/-- In whatever order a location stands among other fields, each field is found. -/
theorem lookup_eq_or {own : List (Scalar × Raw)} (written : location.Written source place)
    (order : entries.Perm (own ++ place))
    (distinct : (own.map Prod.fst ++ Location.keys.map Scalar.text).Nodup) (name : String) :
    Raw.lookup name entries = (Raw.lookup name own).or (Raw.lookup name place) := by
  have together : ((own ++ place).map Prod.fst).Nodup := by
    rw [List.map_append]
    exact distinct.sublist ((List.Sublist.refl _).append written.keys_sublist)
  have apart : (entries.map Prod.fst).Nodup := (order.map Prod.fst).nodup_iff.mpr together
  rw [Raw.lookup_eq_of_perm order apart, Raw.lookup_append]

/-- A field other than those of the location is found among the others. -/
theorem lookup_own {own : List (Scalar × Raw)} (written : location.Written source place)
    (order : entries.Perm (own ++ place))
    (distinct : (own.map Prod.fst ++ Location.keys.map Scalar.text).Nodup)
    (other : name ∉ Location.keys) : Raw.lookup name entries = Raw.lookup name own := by
  rw [written.lookup_eq_or order distinct, written.lookup_of_notMem other, Option.or_none]

/-- The other fields do not change the location. -/
theorem locationOf_eq_of_perm {own : List (Scalar × Raw)} (written : location.Written source place)
    (order : entries.Perm (own ++ place))
    (distinct : (own.map Prod.fst ++ Location.keys.map Scalar.text).Nodup) :
    Manifest.locationOf source entries = Manifest.locationOf source place := by
  have absent : ∀ key ∈ Location.keys, Raw.lookup key own = none := by
    intro key member
    rw [Raw.lookup_eq_lookup, List.lookup_eq_none_iff]
    intro entry listed
    exact bne_iff_ne.mpr ((List.nodup_append.mp distinct).2.2 _ (List.mem_map_of_mem listed) _
      (List.mem_map_of_mem member)).symm
  have inPlace : ∀ key ∈ Location.keys, Raw.lookup key entries = Raw.lookup key place := by
    intro key member
    rw [written.lookup_eq_or order distinct, absent key member, Option.none_or]
  rw [Manifest.locationOf, Manifest.locationOf, inPlace "file" (by decide),
    inPlace "line" (by decide), inPlace "column" (by decide)]

end Location.Written

/-- A location passes its own check. -/
theorem Location.check_fields (location : Location) :
    Location.check (.ofFields [("file", .text location.file), ("line", .int location.line),
      ("column", .int location.column)]) = .valid location :=
  rfl

/-! ### Fields that are gathered -/

namespace Manifest

theorem lookup_withField_self (name : String) (value : Raw) (entries : List (Scalar × Raw)) :
    Raw.lookup name (withField name value entries) = some value := by
  rw [withField, Raw.lookup_append, Raw.lookup_without_self, Option.none_or, Raw.lookup_cons,
    if_pos rfl]

theorem lookup_withField_of_ne (different : other ≠ name) (value : Raw)
    (entries : List (Scalar × Raw)) :
    Raw.lookup other (withField name value entries) = Raw.lookup other entries := by
  have otherKey : ¬ Scalar.text name = .text other :=
    fun same => different (Scalar.text.inj same).symm
  rw [withField, Raw.lookup_append, Raw.lookup_without_of_ne different, Raw.lookup_cons,
    if_neg otherKey, Raw.lookup_nil, Option.or_none]

/-- What is gathered from fields and a location: the location as a whole beside the fields. -/
theorem lookup_gathered {own : List (Scalar × Raw)} (written : location.Written source place)
    (order : entries.Perm (own ++ place))
    (distinct : (own.map Prod.fst ++ Location.keys.map Scalar.text).Nodup) :
    ∃ whole, locationOf source entries = .ok whole ∧
      Checked.fieldOr "location" {} Location.check (withField "location" whole entries) =
        .valid location ∧
      ∀ name ∉ "location" :: Location.keys,
        Raw.lookup name (withField "location" whole entries) = Raw.lookup name own := by
  refine ⟨_, (written.locationOf_eq_of_perm order distinct).trans written.locationOf_eq, ?_, ?_⟩
  · exact Checked.fieldOr_of_lookup (lookup_withField_self "location" _ entries)
      location.check_fields
  · intro name other
    rw [List.mem_cons, not_or] at other
    rw [lookup_withField_of_ne other.1, written.lookup_own order distinct other.2]

end Manifest

/-! ### Declarations -/

namespace Declaration

/-- The fields of a declaration do not clash with those of its location. -/
theorem ownFields_distinct (declaration : Declaration) :
    (declaration.ownFields.map Prod.fst ++ Location.keys.map Scalar.text).Nodup := by
  cases declaration with
  | required name type location => simp [ownFields, Location.keys]
  | defaultable name type default location => simp [ownFields, Location.keys]
  | path name typeKind location => simp [ownFields, Location.keys]

theorem lookup_kind_ownFields (declaration : Declaration) :
    Raw.lookup "kind" declaration.ownFields = some (.text declaration.form.name) := by
  cases declaration with
  | _ => rfl

theorem lookup_name_ownFields (declaration : Declaration) :
    Raw.lookup "name" declaration.ownFields = some (.text declaration.name) := by
  cases declaration with
  | _ => rfl

/-- The kind of a declaration tells how the rest of it is checked. -/
theorem check_of_kind {form : ParameterForm}
    (kind : Raw.lookup "kind" entries = some (.text form.name)) :
    check (.mapping entries) = (checkAs form (.mapping entries)).under (.name form.name) := by
  have known : Checked.named .variantUnknown ParameterForm.byName (.text form.name) =
      .valid form := by
    cases form with
    | _ => rfl
  simp only [check, kind, known]

/-- The kind of a form passes as the kind. -/
theorem fieldOf_of_kind {form : ParameterForm}
    (kind : Raw.lookup "kind" entries = some (.text form.name)) :
    form.fieldOf entries = .valid () := by
  refine Checked.fieldOr_of_lookup kind ?_
  simp only [Checked.named, List.lookup_cons_self]

/-- A declaration that is written passes its check once its location is gathered. -/
theorem check_of_written {declaration : Declaration} (written : declaration.Written source value) :
    ∃ gathered, Manifest.gatherParameter source value = .ok gathered ∧
      check gathered = .valid declaration := by
  cases written with
  | @mapping place entries located order =>
    obtain ⟨whole, locationRead, placed, kept⟩ :=
      Manifest.lookup_gathered located order declaration.ownFields_distinct
    have told := (kept "kind" (by decide)).trans declaration.lookup_kind_ownFields
    refine ⟨_, by rw [Manifest.gatherParameter, locationRead]; rfl, ?_⟩
    rw [check_of_kind told]
    generalize Manifest.withField "location" _ entries = gathered at placed kept told ⊢
    have named : Checked.field "name" Checked.text gathered = .valid declaration.name :=
      Checked.field_of_lookup ((kept "name" (by decide)).trans declaration.lookup_name_ownFields)
        rfl
    simp only [checkAs, Checked.record, fieldOf_of_kind told, Location.fieldOf, placed, named]
    cases declaration with
    | required name type location =>
      have typed : Checked.field "type" Checked.text gathered = .valid type :=
        Checked.field_of_lookup (kept "type" (by decide)) rfl
      simp only [form, typed]
      rfl
    | defaultable name type default location =>
      have typed : Checked.field "type" Checked.text gathered = .valid type :=
        Checked.field_of_lookup (kept "type" (by decide)) rfl
      have defaulted :
          Checked.fieldOr "default" .null Checked.anything gathered = .valid default :=
        Checked.fieldOr_of_lookup (kept "default" (by decide)) rfl
      simp only [form, typed, defaulted]
      rfl
    | path name typeKind location =>
      have typed : Checked.field "type_kind" Checked.text gathered = .valid typeKind :=
        Checked.field_of_lookup (kept "type_kind" (by decide)) rfl
      simp only [form, typed]
      rfl

end Declaration

/-! ### Resources -/

/-- Of a list that is written, or is left out when it is empty, all values are listed. -/
theorem Raw.lookupTruthy_of_list {values : List Raw}
    (found : lookup name entries = some (.list values)) :
    lookupTruthy name entries = if values = [] then none else some (.list values) := by
  rw [lookupTruthy, found]
  cases values with
  | nil => rfl
  | cons => rfl

namespace Manifest

/-- The parameters that are written are listed. -/
theorem listedParameters_of_field {values : List Raw}
    (field : OmissibleField "parameters" (.list values) (values = []) fields)
    (kept : Raw.lookup "parameters" entries = Raw.lookup "parameters" fields) :
    listedParameters entries = .ok values := by
  rcases field.lookup_self with found | ⟨rfl, absent⟩
  · rw [listedParameters, Raw.lookupTruthy_of_list (kept.trans found)]
    cases values with
    | nil => rfl
    | cons => rfl
  · rw [listedParameters, Raw.lookupTruthy, kept, absent]
    rfl

/-- The resources that are written are listed. -/
theorem listedResources_of_lookup {values : List Raw}
    (found : Raw.lookup "resources" entries = some (.list values)) :
    listedResources entries = .ok values := by
  rw [listedResources, Raw.lookupTruthy_of_list found]
  cases values with
  | nil => rfl
  | cons => rfl

/-- A resource that is written passes its check once the locations are gathered. -/
theorem check_of_written {resource : Resource} (written : resource.Written source value) :
    ∃ gathered, gatherResource source value = .ok gathered ∧
      Resource.check gathered = .valid resource := by
  cases written with
  | @mapping values parameters place entries declared listed located order =>
    have distinct : (([(Scalar.text "method", Raw.text resource.method),
        (.text "path", .text resource.path)] ++ parameters).map Prod.fst ++
          Location.keys.map Scalar.text).Nodup := by
      have canonical : ([Scalar.text "method", .text "path"] ++ [Scalar.text "parameters"] ++
          Location.keys.map Scalar.text).Nodup := by decide
      refine canonical.sublist (List.Sublist.append ?_ (List.Sublist.refl _))
      rw [List.map_append]
      exact (List.Sublist.refl _).append listed.keys_sublist
    obtain ⟨place, locationRead, placed, kept⟩ := lookup_gathered located order distinct
    have own := located.lookup_own order distinct (show "parameters" ∉ Location.keys by decide)
    have shown : listedParameters entries = .ok values := listedParameters_of_field listed own
    have each := declared.flip.imp fun _ _ => Declaration.check_of_written
    obtain ⟨checked, parametersRead, passed⟩ := Outcome.exists_mapM_of_forall₂ each
    refine ⟨_, by
      simp only [gatherResource, locationRead, shown, Except.mapError, parametersRead, bind,
        Except.bind]
      rfl, ?_⟩
    generalize withField "location" _ entries = gathered at placed kept ⊢
    have later (name : String) (different : name ≠ "parameters") :=
      lookup_withField_of_ne different (.list checked) gathered
    have found := lookup_withField_self "parameters" (.list checked) gathered
    generalize withField "parameters" _ gathered = whole at later found ⊢
    have method : Checked.field "method" Checked.text whole = .valid resource.method :=
      Checked.field_of_lookup ((later "method" (by decide)).trans (kept "method" (by decide))) rfl
    have path : Checked.field "path" Checked.text whole = .valid resource.path :=
      Checked.field_of_lookup ((later "path" (by decide)).trans (kept "path" (by decide))) rfl
    have location : Location.fieldOf whole = .valid resource.location := by
      rwa [Location.fieldOf, Checked.fieldOr, later "location" (by decide)]
    have parameters : Checked.fieldOr "parameters" [] (Checked.items .notList Declaration.check)
        whole = .valid resource.declarations :=
      Checked.fieldOr_of_lookup found (Checked.items_of_forall₂ passed)
    simp only [Resource.check, Checked.record, method, path, parameters, location]
    rfl

/-! ### Manifests -/

/-- A manifest that is written is read back, if it tells its source. -/
theorem ofEntries_of_written {manifest : Manifest} {document : List (Scalar × Raw)}
    (path : String) (written : manifest.Written document) (sourced : manifest.source ≠ "") :
    ofEntries path document = .ok manifest := by
  cases written with
  | @mapping values _ resources order =>
    have distinct : (document.map Prod.fst).Nodup :=
      (order.map Prod.fst).nodup_iff.mpr
        (show [Scalar.text "name", .text "source", .text "resources"].Nodup by decide)
    have told (name : String) := Raw.lookup_eq_of_perm order distinct name
    have source : sourceOf path document = .ok manifest.source := by
      have shown : Raw.lookupTruthy "source" document = some (.text manifest.source) := by
        rw [Raw.lookupTruthy, told "source"]
        exact Option.filter_eq_some_iff.mpr ⟨rfl, bne_iff_ne.mpr sourced⟩
      rw [sourceOf, shown]
      rfl
    have name : textOr "" (Raw.lookup "name" document) = .ok manifest.name := by
      rw [told "name"]
      rfl
    have listed : listedResources document = .ok values :=
      listedResources_of_lookup (told "resources")
    have each := resources.flip.imp fun _ _ => check_of_written
    obtain ⟨gathered, whole, passed⟩ := Outcome.exists_mapM_of_forall₂ each
    have resources : Checked.fieldOr "resources" [] (Checked.items .notList Resource.check)
        [(.text "name", .text manifest.name), (.text "source", .text manifest.source),
          (.text "resources", .list gathered)] = .valid manifest.resources :=
      Checked.fieldOr_of_lookup rfl (Checked.items_of_forall₂ passed)
    have checked : check (.ofFields [("name", .text manifest.name),
        ("source", .text manifest.source), ("resources", .list gathered)]) = .valid manifest := by
      simp only [check, Raw.ofFields, List.map_cons, List.map_nil, Checked.record, resources]
      rfl
    simp only [ofEntries, source, listed, name, Except.mapError, whole, bind, Except.bind, checked,
      Checked.toExcept]

/-- **What is written is read back.** A manifest that tells its source is loaded from every file
that holds it as it may be written, be it with nothing left out. -/
theorem load_written {manifest : Manifest} (sourced : manifest.source ≠ "") :
    manifest.Written manifest.flat ∧
      ∀ document, manifest.Written document →
        ∀ (workspace : Workspace) (path : String) (text : List Char),
          workspace.text (Path.shown path) = .ok text →
            workspace.read text = .ok (.mapping document) → load workspace path = .ok manifest := by
  refine ⟨manifest.written_flat, ?_⟩
  intro document written workspace path text held read
  have opened : workspace.document (Path.shown path) = .ok document :=
    Workspace.document_eq_ok_iff.mpr ⟨text, held, read⟩
  simp only [load, opened, bind, Except.bind,
    ofEntries_of_written (Path.shown path) written sourced, Except.mapError]

/-- A listing of two resources, the first of which has a parameter. -/
def listing : Manifest where
  name := "l"
  source := "a.bal"
  resources :=
    [{ method := "get"
       path := "/"
       declarations := [.defaultable "n" "int" (.list [.int 1]) { file := "b.bal", line := 3 }]
       location := { file := "a.bal" } },
      { method := "put", path := "/", location := { file := "a.bal", column := 7 } }]

/-- The listing as it is written, without what may be left out. -/
def listingText : String :=
  "source: a.bal
name: l
resources:
- path: /
  parameters:
  - type: int
    kind: defaultable
    line: 3
    name: n
    default: [1]
    file: b.bal
  method: get
- column: 7
  method: put
  path: /
"

/-- The parameter of the first resource. -/
def listingParameter : Raw :=
  .ofFields
    [("type", .text "int"), ("kind", .text "defaultable"), ("line", .int 3), ("name", .text "n"),
      ("default", .list [.int 1]), ("file", .text "b.bal")]

/-- The resources of the listing. -/
def listingResources : List Raw :=
  [.ofFields
    [("path", .text "/"), ("parameters", .list [listingParameter]), ("method", .text "get")],
    .ofFields [("column", .int 7), ("method", .text "put"), ("path", .text "/")]]

/-- The manifest is written with almost nothing. -/
theorem written_listing :
    listing.Written [(.text "source", .text "a.bal"), (.text "name", .text "l"),
      (.text "resources", .list listingResources)] := by
  have parameter : Declaration.Written "a.bal"
      (.defaultable "n" "int" (.list [.int 1]) { file := "b.bal", line := 3 }) listingParameter :=
    .mapping (.fields .written .written (.omitted rfl)) (by decide +kernel)
  have resources :
      List.Forall₂ (Resource.Written "a.bal") listing.resources listingResources := by
    refine .cons ?_ (.cons ?_ .nil)
    · exact .mapping (.cons parameter .nil) .written
        (.fields (.omitted rfl) (.omitted rfl) (.omitted rfl)) (by decide +kernel)
    · exact .mapping .nil (.omitted rfl) (.fields (.omitted rfl) (.omitted rfl) .written)
        (by decide +kernel)
  exact .mapping resources (by decide +kernel)

theorem load_written_listing :
    listing.source ≠ "" ∧
      load { root := "/", contents := [("m.yaml", .file listingText.toUTF8)] } "m.yaml" =
        .ok listing := by
  have sourced : listing.source ≠ "" := by decide
  refine ⟨sourced, (load_written sourced).2 _ written_listing _ "m.yaml" listingText.toList
    (Workspace.text_of_find ?_) ?_⟩
  · rfl
  · decide +kernel

end Manifest

end ParameterDrift
