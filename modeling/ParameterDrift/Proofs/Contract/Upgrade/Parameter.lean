import ParameterDrift.Proofs.Contract.Merge
import ParameterDrift.Proofs.Contract.Parts
import ParameterDrift.Proofs.Contract.Upgrade.Translation
/-! # Parameters written anew

A parameter written anew is read as the same parameter, with its reference if it is one written
anew (`ParameterDrift.Upgrade.read_parameterEntries`), and what stands for no parameter still stands
for none. So it is with lists, and the merge of two of them, since the keys that a merge goes by stay
apart (`ParameterDrift.Upgrade.merge_redirect`).
-/

namespace ParameterDrift

/-- A schema is read from its type, format and items alone. -/
theorem Schema.read_congr {left right : List (Scalar × Raw)}
    (type : Raw.lookup "type" left = Raw.lookup "type" right)
    (format : Raw.lookup "format" left = Raw.lookup "format" right)
    (items : Raw.lookup "items" left = Raw.lookup "items" right) :
    Schema.read (.mapping left) = Schema.read (.mapping right) := by
  rw [read_mapping, read_mapping, readType, readType, Checked.fieldOr, Checked.fieldOr, type, format,
    items]

namespace Upgrade

open ContractParameter (redirect_of_ref_none)

variable {entries : List (Scalar × Raw)} {name : String}

/-! ### The entries of a parameter -/

/-- A field that does not go to the schema stays where it is. -/
theorem lookup_withSchema_of_ne (notSchema : name ≠ "schema")
    (notField : isSchemaField (.text name) = false) :
    Raw.lookup name (withSchema entries) = Raw.lookup name entries := by
  have notKey : ¬ Scalar.text "schema" = .text name := fun same => notSchema (Scalar.text.inj same).symm
  rw [withSchema, Raw.lookup_append, Raw.lookup_cons, if_neg notKey, Raw.lookup_nil, Option.or_none,
    Raw.lookup_filter_of_pos (fun key => !isSchemaField key) (by rw [notField]; rfl),
    Raw.lookup_without_of_ne notSchema]

/-- The schema has the fields that go there. -/
theorem lookup_schema_withSchema :
    Raw.lookup "schema" (withSchema entries) =
      some (.mapping (entries.filter fun entry => isSchemaField entry.1)) := by
  rw [withSchema, Raw.lookup_append,
    Raw.lookup_filter_of_pos (fun key => !isSchemaField key) (by decide), Raw.lookup_without_self,
    Raw.lookup_cons, if_pos rfl, Option.none_or]

/-- What a parameter is read from besides its reference and its schema stays as it is. -/
theorem lookup_parameterEntries (notRef : name ≠ "$ref") (notSchema : name ≠ "schema")
    (notField : isSchemaField (.text name) = false) :
    Raw.lookup name (parameterEntries entries) = Raw.lookup name entries := by
  rw [parameterEntries]
  split
  · exact Raw.lookup_changeField_of_ne reference notRef entries
  · split
    · exact lookup_withSchema_of_ne notSchema notField
    · rfl

/-- What stands for no parameter still stands for none. -/
theorem entries?_parameter (value : Raw) :
    ContractParameter.entries? (parameter value) =
      (ContractParameter.entries? value).map parameterEntries := by
  cases value with
  | mapping entries =>
    have location : Raw.lookup "in" (parameterEntries entries) = Raw.lookup "in" entries :=
      lookup_parameterEntries (by decide) (by decide) (by decide)
    rw [parameter, ContractParameter.entries?, ContractParameter.entries?, location]
    split
    · rfl
    · rfl
  | _ => rfl

/-- The entries that are found are those of a mapping. -/
theorem eq_mapping_of_entries? {value : Raw}
    (found : ContractParameter.entries? value = some entries) : value = .mapping entries := by
  cases value with
  | mapping own =>
    rw [ContractParameter.entries?] at found
    split at found
    · cases found
    · rw [Option.some.inj found]
  | _ => cases found

/-! ### One parameter -/

/-- With a type of its own a parameter is its own schema. -/
theorem schemaSource_of_hasOwnType (own : hasOwnType entries = true) :
    ContractParameter.schemaSource entries = .mapping entries := by
  rw [hasOwnType] at own
  cases shown : (Raw.lookup "schema" entries).getD .null with
  | scalar scalar =>
    rw [shown] at own
    cases scalar with
    | null =>
      rw [ContractParameter.schemaSource, shown]
      exact if_pos own
    | _ => cases own
  | _ =>
    rw [shown] at own
    cases own

/-- A parameter in place is read as before when its type has moved into a schema. -/
theorem readInPlace_withSchema (own : hasOwnType entries = true) :
    ContractParameter.readInPlace (withSchema entries) = ContractParameter.readInPlace entries := by
  have schema : Schema.read (ContractParameter.schemaSource (withSchema entries)) =
      Schema.read (ContractParameter.schemaSource entries) := by
    rw [schemaSource_of_hasOwnType own, ContractParameter.schemaSource, lookup_schema_withSchema]
    exact Schema.read_congr (Raw.lookup_filter_of_pos isSchemaField (by decide) entries)
      (Raw.lookup_filter_of_pos isSchemaField (by decide) entries)
      (Raw.lookup_filter_of_pos isSchemaField (by decide) entries)
  have named : Raw.lookup "name" (withSchema entries) = Raw.lookup "name" entries :=
    lookup_withSchema_of_ne (by decide) (by decide)
  have located : Raw.lookup "in" (withSchema entries) = Raw.lookup "in" entries :=
    lookup_withSchema_of_ne (by decide) (by decide)
  have required : Raw.lookup "required" (withSchema entries) = Raw.lookup "required" entries :=
    lookup_withSchema_of_ne (by decide) (by decide)
  rw [ContractParameter.readInPlace, ContractParameter.readInPlace, schema, named, located, required]

/-- A parameter in place has no reference that is redirected. -/
theorem map_redirect_readInPlace (write : String → String) :
    (ContractParameter.readInPlace entries).map (ContractParameter.redirect write) =
      ContractParameter.readInPlace entries := by
  cases read : ContractParameter.readInPlace entries with
  | error fault => rfl
  | ok found =>
    obtain ⟨schema, location, _, _, _, rfl⟩ := ContractParameter.readInPlace_eq_ok_iff.mp read
    change Except.ok (ContractParameter.redirect write _) = .ok _
    rw [redirect_of_ref_none rfl]

/-- **One parameter.** Written anew, a parameter is read as the same one, with its reference written
anew. -/
theorem read_parameterEntries (older : IsOlderParameter (.mapping entries)) :
    ContractParameter.read (parameterEntries entries) =
      (ContractParameter.read entries).map (ContractParameter.redirect writeReference) := by
  rw [IsOlderParameter] at older
  rw [ContractParameter.read, ContractParameter.read, parameterEntries]
  cases found : Raw.lookup "$ref" entries with
  | some ref =>
    rw [found] at older
    obtain ⟨text, rfl, _⟩ := older
    rw [Option.isSome_some, if_pos rfl, Raw.lookup_changeField_self, found]
    rfl
  | none =>
    rw [Option.isSome_none, if_neg Bool.false_ne_true]
    simp only [map_redirect_readInPlace]
    by_cases own : hasOwnType entries = true
    · have absent : Raw.lookup "$ref" (withSchema entries) = none :=
        (lookup_withSchema_of_ne (by decide) (by decide)).trans found
      rw [if_pos own, absent]
      exact readInPlace_withSchema own
    · rw [if_neg own, found]

/-! ### Lists of parameters -/

/-- Values that are no parameters are read as none. -/
theorem readAll_of_forall_eq_none {values : List Raw}
    (others : ∀ value ∈ values, ContractParameter.entries? value = none) :
    ContractParameter.readAll values = .ok [] := by
  rw [ContractParameter.readAll, List.filterMap_eq_nil_iff.mpr others]
  rfl

/-- The elements of what is not a list have no parts. -/
theorem exists_scalar_of_mem_elements {value element : Raw} {elements : List Raw}
    (noList : ∀ items, value ≠ .list items) (shaped : value.elements = .ok elements)
    (member : element ∈ elements) : ∃ scalar, element = .scalar scalar := by
  cases value with
  | list items => exact absurd rfl (noList items)
  | mapping entries =>
    cases shaped
    obtain ⟨entry, _, rfl⟩ := List.mem_map.mp member
    exact ⟨entry.1, rfl⟩
  | scalar scalar =>
    cases scalar with
    | text text =>
      cases shaped
      obtain ⟨c, _, rfl⟩ := List.mem_map.mp member
      exact ⟨.text (String.singleton c), rfl⟩
    | _ => cases shaped

/-- So they stand for no parameters. -/
theorem readAll_elements {value : Raw} {elements : List Raw} (noList : ∀ items, value ≠ .list items)
    (shaped : value.elements = .ok elements) : ContractParameter.readAll elements = .ok [] := by
  apply readAll_of_forall_eq_none
  intro element member
  obtain ⟨scalar, rfl⟩ := exists_scalar_of_mem_elements noList shaped member
  rfl

/-- Translated parameters are read as the parameters, redirected. -/
theorem readAll_map_parameter {values : List Raw}
    (older : ∀ value ∈ values, IsOlderParameter value) :
    ContractParameter.readAll (values.map parameter) =
      (ContractParameter.readAll values).map
        (List.map (ContractParameter.redirect writeReference)) := by
  have chosen : (values.map parameter).filterMap ContractParameter.entries? =
      (values.filterMap ContractParameter.entries?).map parameterEntries := by
    rw [List.filterMap_map, List.map_filterMap]
    exact List.filterMap_congr fun value _ => entries?_parameter value
  rw [ContractParameter.readAll, ContractParameter.readAll, chosen]
  apply Outcome.mapM_map_of_forall
  intro entries member
  obtain ⟨value, among, found⟩ := List.mem_filterMap.mp member
  exact read_parameterEntries (eq_mapping_of_entries? found ▸ older value among)

/-- The translated list is truthy when the list is. -/
theorem isTruthy_parameters (value : Raw) : (parameters value).isTruthy = value.isTruthy := by
  cases value with
  | list items =>
    cases items with
    | nil => rfl
    | cons first rest => rfl
  | _ => rfl

/-- **A list of parameters.** Where the list of parameters is written anew, the parameters that it
lists are. -/
theorem readListed_parameters {changed : List (Scalar × Raw)}
    (found : Raw.lookup "parameters" changed = (Raw.lookup "parameters" entries).map parameters)
    (older : ∀ value ∈ listed entries, IsOlderParameter value) :
    ContractParameter.readListed changed =
      (ContractParameter.readListed entries).map
        (List.map (ContractParameter.redirect writeReference)) := by
  rw [ContractParameter.readListed, ContractParameter.readListed,
    Raw.lookupTruthy_of_lookup_map found isTruthy_parameters]
  cases shown : Raw.lookupTruthy "parameters" entries with
  | none => rfl
  | some value =>
    have present : Raw.lookup "parameters" entries = some value :=
      Raw.lookup_of_lookupTruthy shown
    by_cases isList : ∃ items, value = .list items
    · obtain ⟨items, rfl⟩ := isList
      rw [listed, present] at older
      exact readAll_map_parameter older
    · -- what is not a list has no mappings among its elements, so nothing is read from it
      have noList : ∀ items, value ≠ .list items := fun items same => isList ⟨items, same⟩
      have unchanged : parameters value = value := by
        cases value with
        | list items => exact absurd rfl (noList items)
        | _ => rfl
      simp only [Option.map_some, unchanged]
      cases shaped : value.elements with
      | error fault => rfl
      | ok elements =>
        change ContractParameter.readAll elements = (ContractParameter.readAll elements).map _
        rw [readAll_elements noList shaped]
        rfl

/-! ### The keys of a merge -/

/-- An entry of an older contract: a reference to the top, or a parameter in place with a location
of older documents. -/
def IsOlderEntry (entry : ContractParameter) : Prop :=
  match entry.ref with
  | some ref => IsOlderReference ref
  | none => ∃ location ∈ olderLocations, entry.location = some location

/-- What is read of an older parameter is of the older form. -/
theorem isOlderEntry_of_read {entry : ContractParameter}
    (older : IsOlderParameter (.mapping entries))
    (read : ContractParameter.read entries = .ok entry) : IsOlderEntry entry := by
  rw [IsOlderParameter] at older
  cases found : Raw.lookup "$ref" entries with
  | some ref =>
    rw [found] at older
    obtain ⟨text, rfl, isOlder⟩ := older
    obtain ⟨_, rfl⟩ := (ContractParameter.read_of_ref found).mp read
    exact isOlder
  | none =>
    rw [found] at older
    rw [ContractParameter.read_of_inPlace found] at read
    obtain ⟨location, isOlder, located⟩ := older
    obtain ⟨_, _, _, _, locationRead, rfl⟩ := ContractParameter.readInPlace_eq_ok_iff.mp read
    rw [located] at locationRead
    cases locationRead
    exact ⟨location, isOlder, rfl⟩

/-- What is read of a list of older parameters is of the older form. -/
theorem isOlderEntry_of_readListed {found : List ContractParameter} {entry : ContractParameter}
    (older : ∀ value ∈ listed entries, IsOlderParameter value)
    (read : ContractParameter.readListed entries = .ok found) (member : entry ∈ found) :
    IsOlderEntry entry := by
  rw [ContractParameter.readListed] at read
  cases shown : Raw.lookupTruthy "parameters" entries with
  | none =>
    rw [shown] at read
    cases read
    cases member
  | some value =>
    rw [shown] at read
    obtain ⟨elements, shaped, elementsRead⟩ := Outcome.bind_eq_ok_iff.mp read
    have shaped := Outcome.mapError_eq_ok_iff.mp shaped
    have present : Raw.lookup "parameters" entries = some value :=
      Raw.lookup_of_lookupTruthy shown
    by_cases isList : ∃ items, value = .list items
    · obtain ⟨items, rfl⟩ := isList
      cases shaped
      rw [listed, present] at older
      obtain ⟨own, among, ownRead⟩ := Outcome.exists_of_mem_mapM elementsRead member
      obtain ⟨element, inList, isOwn⟩ := List.mem_filterMap.mp among
      exact isOlderEntry_of_read (eq_mapping_of_entries? isOwn ▸ older element inList) ownRead
    · rw [readAll_elements (fun items same => isList ⟨items, same⟩) shaped] at elementsRead
      cases elementsRead
      cases member

/-- A location of older documents is no reference, whether written anew or not. -/
theorem location_ne_reference {location ref : String} (isLocation : location ∈ olderLocations)
    (isReference : IsOlderReference ref) : location ≠ ref ∧ location ≠ writeReference ref := by
  obtain ⟨name, _, text⟩ := isReference
  have noMark : ∀ location ∈ olderLocations, location.toList.head? ≠ some '#' := by decide
  constructor
  · rintro rfl
    exact noMark location isLocation (by rw [text]; rfl)
  · rintro rfl
    exact noMark _ isLocation (by rw [toList_writeReference_of_older text]; rfl)

/-- A parameter in place has another key than a reference, whether written anew or not. -/
theorem mergeKey_ne_of_inPlace {entry other : ContractParameter} (entryOlder : IsOlderEntry entry)
    (inPlace : entry.ref = none) (otherOlder : IsOlderEntry other) {ref : String}
    (written : other.ref = some ref) :
    entry.mergeKey ≠ other.mergeKey ∧
      (entry.redirect writeReference).mergeKey ≠ (other.redirect writeReference).mergeKey := by
  rw [IsOlderEntry, inPlace] at entryOlder
  rw [IsOlderEntry, written] at otherOlder
  obtain ⟨location, isLocation, located⟩ := entryOlder
  obtain ⟨notOld, notNew⟩ := location_ne_reference isLocation otherOlder
  have writtenAnew : (other.redirect writeReference).ref = some (writeReference ref) := by
    rw [ContractParameter.ref_redirect, written, Option.map_some]
  rw [redirect_of_ref_none inPlace, ContractParameter.mergeKey_of_ref_none inPlace, located,
    ContractParameter.mergeKey_of_ref written, ContractParameter.mergeKey_of_ref writtenAnew]
  constructor
  · intro same
    exact notOld (Option.some.inj (Prod.mk.inj same).2)
  · intro same
    exact notNew (Option.some.inj (Prod.mk.inj same).2)

/-- Keys that differ still differ, and keys that are equal still are. -/
theorem mergeKey_redirect_iff {left right : ContractParameter} (leftOlder : IsOlderEntry left)
    (rightOlder : IsOlderEntry right) :
    (left.redirect writeReference).mergeKey = (right.redirect writeReference).mergeKey ↔
      left.mergeKey = right.mergeKey := by
  cases leftRef : left.ref with
  | none =>
    cases rightRef : right.ref with
    | none => rw [redirect_of_ref_none leftRef, redirect_of_ref_none rightRef]
    | some ref =>
      obtain ⟨old, new⟩ := mergeKey_ne_of_inPlace leftOlder leftRef rightOlder rightRef
      exact iff_of_false new old
  | some ref =>
    cases rightRef : right.ref with
    | none =>
      obtain ⟨old, new⟩ := mergeKey_ne_of_inPlace rightOlder rightRef leftOlder leftRef
      exact iff_of_false new.symm old.symm
    | some other =>
      have leftAnew : (left.redirect writeReference).ref = some (writeReference ref) := by
        rw [ContractParameter.ref_redirect, leftRef, Option.map_some]
      have rightAnew : (right.redirect writeReference).ref = some (writeReference other) := by
        rw [ContractParameter.ref_redirect, rightRef, Option.map_some]
      rw [IsOlderEntry, leftRef] at leftOlder
      rw [IsOlderEntry, rightRef] at rightOlder
      rw [ContractParameter.mergeKey_of_ref leftAnew, ContractParameter.mergeKey_of_ref rightAnew,
        ContractParameter.mergeKey_of_ref leftRef, ContractParameter.mergeKey_of_ref rightRef]
      simp only [Prod.mk.injEq, Option.some.injEq, true_and]
      exact writeReference_inj leftOlder rightOlder

/-- **A merge written anew.** The parameters of a path and of an operation are merged as before. -/
theorem merge_redirect {shared own : List ContractParameter}
    (sharedOlder : ∀ entry ∈ shared, IsOlderEntry entry)
    (ownOlder : ∀ entry ∈ own, IsOlderEntry entry) :
    ContractParameter.merge (shared.map (ContractParameter.redirect writeReference))
        (own.map (ContractParameter.redirect writeReference)) =
      (ContractParameter.merge shared own).map (ContractParameter.redirect writeReference) := by
  have older : ∀ entry ∈ shared ++ own, IsOlderEntry entry :=
    List.forall_mem_append.mpr ⟨sharedOlder, ownOlder⟩
  apply ContractParameter.merge_map
  intro left leftMember right rightMember
  exact mergeKey_redirect_iff (older left leftMember) (older right rightMember)

end Upgrade

end ParameterDrift
