import Mathlib.Data.List.Pairwise
import ParameterDrift.Contract.Reference
import ParameterDrift.Proofs.Contract.Merge
import ParameterDrift.Proofs.Contract.Places
/-! # What an operation overrides

An operation overrides the parameters of its path by how they are written. Of entries that are
written alike, both in place or both by one reference, those of the operation stand for those of the
path with the same name and location (`ParameterDrift.Contract.overrides_of_ofRaw`). Entries that
are written differently stay beside each other, even where they resolve to the same parameter
(`ParameterDrift.not_overrides_by_target`).
-/

namespace ParameterDrift

variable {components : Components} {left right entry : ContractParameter}
  {shared own entries : List ContractParameter}

/-- The name and the location of the parameter that an entry resolves to. -/
def ContractParameter.target? (components : Components) (entry : ContractParameter) :
    Option (Option String × Option String) :=
  (entry.resolve components).toOption.map fun parameter => (parameter.name, parameter.location)

/-- Two entries resolve to parameters of one name and location. -/
def SameTarget (components : Components) (left right : ContractParameter) : Prop :=
  (left.target? components).isSome ∧ left.target? components = right.target? components

instance : Decidable (SameTarget components left right) :=
  inferInstanceAs (Decidable (_ ∧ _))

/-- Two entries are both written in place, or both by one reference. -/
def WrittenAlike (left right : ContractParameter) : Prop :=
  left.ref = right.ref

/-- No two of some entries resolve to parameters of one name and location. -/
def Distinct (components : Components) (entries : List ContractParameter) : Prop :=
  entries.Pairwise fun left right => ¬ SameTarget components left right

instance : Decidable (Distinct components entries) :=
  inferInstanceAs (Decidable (List.Pairwise _ entries))

/-- No parameter in place has the key of a reference: none is named by the mark of references and
located by the text of one of them. -/
def Unmistakable (entries : List ContractParameter) : Prop :=
  ∀ left ∈ entries, ∀ right ∈ entries, left.ref = none → right.ref.isSome →
    left.mergeKey ≠ right.mergeKey

instance : Decidable (Unmistakable entries) :=
  inferInstanceAs (Decidable (∀ left ∈ entries, ∀ right ∈ entries, left.ref = none →
    right.ref.isSome → left.mergeKey ≠ right.mergeKey))

/-- What comes of the entries of a path and those of an operation, told by what they resolve to. -/
structure Overrides (components : Components) (shared own result : List ContractParameter) :
    Prop where
  /-- Of entries written alike no two have one name and location. -/
  apart : result.Pairwise fun left right =>
    WrittenAlike left right → ¬ SameTarget components left right
  /-- What the operation lists is kept. -/
  own_kept : ∀ entry ∈ own, (entry.target? components).isSome → entry ∈ result
  /-- Of all that is written like it and resolves like it, nothing else is kept. -/
  own_alone : ∀ entry ∈ own, ∀ kept ∈ result, WrittenAlike kept entry →
    SameTarget components kept entry → kept = entry
  /-- What the path lists is kept unless the operation lists its like. -/
  shared_kept : ∀ entry ∈ shared, (entry.target? components).isSome →
    (∀ other ∈ own, WrittenAlike entry other → ¬ SameTarget components entry other) →
    entry ∈ result

/-! ### Keys and targets -/

theorem SameTarget.symm (same : SameTarget components left right) :
    SameTarget components right left :=
  ⟨same.2 ▸ same.1, same.2.symm⟩

instance : Std.Symm fun left right => ¬ SameTarget components left right where
  symm _ _ other same := other same.symm

/-- Among distinct entries, those with one target are one. -/
theorem Distinct.eq_of_sameTarget (distinct : Distinct components entries)
    (leftMember : left ∈ entries) (rightMember : right ∈ entries)
    (same : SameTarget components left right) : left = right := by
  by_contra different
  exact List.Pairwise.forall distinct leftMember rightMember different same

theorem target?_of_ref_none (inPlace : entry.ref = none) :
    entry.target? components = some (entry.name, entry.location) := by
  rw [ContractParameter.target?, ContractParameter.resolve_of_ref_none inPlace]
  rfl

/-- Where an entry leads depends on its reference alone if it has one. -/
theorem target?_eq_of_ref {ref : String} (leftRef : left.ref = some ref)
    (rightRef : right.ref = some ref) :
    left.target? components = right.target? components := by
  simp only [ContractParameter.target?, ContractParameter.resolve, leftRef, rightRef]

/-- Entries that are written alike and have one target have one key. -/
theorem mergeKey_eq_of_sameTarget (alike : WrittenAlike left right)
    (same : SameTarget components left right) : left.mergeKey = right.mergeKey := by
  cases inPlace : left.ref with
  | none =>
    have targets := same.2
    rw [target?_of_ref_none inPlace, target?_of_ref_none (alike.symm.trans inPlace)] at targets
    rw [ContractParameter.mergeKey_of_ref_none inPlace,
      ContractParameter.mergeKey_of_ref_none (alike.symm.trans inPlace)]
    exact Option.some.inj targets
  | some ref =>
    rw [ContractParameter.mergeKey_of_ref inPlace,
      ContractParameter.mergeKey_of_ref (alike.symm.trans inPlace)]

/-- Entries with one key are written alike, unless one of them can be taken for a reference. -/
theorem Unmistakable.writtenAlike (unmistakable : Unmistakable entries)
    (leftMember : left ∈ entries) (rightMember : right ∈ entries)
    (same : left.mergeKey = right.mergeKey) : WrittenAlike left right := by
  rw [WrittenAlike]
  cases leftRef : left.ref with
  | none =>
    cases rightRef : right.ref with
    | none => rfl
    | some ref =>
      have refers : right.ref.isSome := rightRef ▸ rfl
      exact absurd same (unmistakable left leftMember right rightMember leftRef refers)
  | some ref =>
    cases rightRef : right.ref with
    | none =>
      have refers : left.ref.isSome := leftRef ▸ rfl
      exact absurd same.symm (unmistakable right rightMember left leftMember rightRef refers)
    | some other =>
      rw [ContractParameter.mergeKey_of_ref leftRef,
        ContractParameter.mergeKey_of_ref rightRef] at same
      exact (Prod.mk.inj same).2

/-- Entries that are written alike and have one key lead to the same, wherever that is. -/
theorem target?_eq_of_mergeKey (alike : WrittenAlike left right)
    (same : left.mergeKey = right.mergeKey) :
    left.target? components = right.target? components := by
  cases leftRef : left.ref with
  | none =>
    have rightRef := alike.symm.trans leftRef
    rw [ContractParameter.mergeKey_of_ref_none leftRef,
      ContractParameter.mergeKey_of_ref_none rightRef] at same
    rw [target?_of_ref_none leftRef, target?_of_ref_none rightRef, same]
  | some ref => exact target?_eq_of_ref leftRef (alike.symm.trans leftRef)

/-! ### The entries of a merge -/

theorem Unmistakable.mono {part : List ContractParameter} (unmistakable : Unmistakable entries)
    (among : part ⊆ entries) : Unmistakable part :=
  fun left leftMember right rightMember =>
    unmistakable left (among leftMember) right (among rightMember)

/-- Among distinct entries each is the last with its key. -/
theorem Distinct.lastWith_mergeKey (distinct : Distinct components entries)
    (unmistakable : Unmistakable entries) (member : entry ∈ entries)
    (resolves : (entry.target? components).isSome) :
    ContractParameter.lastWith entry.mergeKey entries = some entry := by
  obtain ⟨last, found⟩ := ContractParameter.exists_lastWith member
  obtain ⟨lastMember, sameKey⟩ := ContractParameter.mem_of_lastWith found
  have alike : WrittenAlike entry last := unmistakable.writtenAlike member lastMember sameKey.symm
  have same : entry = last := distinct.eq_of_sameTarget member lastMember
    ⟨resolves, target?_eq_of_mergeKey alike sameKey.symm⟩
  rw [found, same]

/-- An own parameter that resolves is kept. -/
theorem mem_merge_of_mem_own (ownDistinct : Distinct components own)
    (unmistakable : Unmistakable (shared ++ own)) (member : entry ∈ own)
    (resolves : (entry.target? components).isSome) :
    entry ∈ ContractParameter.merge shared own := by
  have ownUnmistakable := unmistakable.mono (List.subset_append_right shared own)
  rw [ContractParameter.mem_merge_iff,
    ownDistinct.lastWith_mergeKey ownUnmistakable member resolves, Option.some_or]

/-- A shared one is kept unless an own one has its target. -/
theorem mem_merge_of_mem_shared (sharedDistinct : Distinct components shared)
    (unmistakable : Unmistakable (shared ++ own)) (member : entry ∈ shared)
    (resolves : (entry.target? components).isSome)
    (unmatched : ∀ other ∈ own, WrittenAlike entry other → ¬ SameTarget components entry other) :
    entry ∈ ContractParameter.merge shared own := by
  have sharedUnmistakable := unmistakable.mono (List.subset_append_left shared own)
  -- an entry of the operation with the same key would be written alike and lead to the same
  have absent : ContractParameter.lastWith entry.mergeKey own = none := by
    by_contra present
    obtain ⟨other, found⟩ := Option.ne_none_iff_exists'.mp present
    obtain ⟨otherMember, sameKey⟩ := ContractParameter.mem_of_lastWith found
    have alike : WrittenAlike entry other := unmistakable.writtenAlike
      (List.mem_append_left own member) (List.mem_append_right shared otherMember) sameKey.symm
    exact unmatched other otherMember alike ⟨resolves, target?_eq_of_mergeKey alike sameKey.symm⟩
  rw [ContractParameter.mem_merge_iff, absent,
    sharedDistinct.lastWith_mergeKey sharedUnmistakable member resolves, Option.none_or]

/-- The merge overrides by targets. -/
theorem overrides_merge (sharedDistinct : Distinct components shared)
    (ownDistinct : Distinct components own) (unmistakable : Unmistakable (shared ++ own)) :
    Overrides components shared own (ContractParameter.merge shared own) where
  apart := by
    refine (ContractParameter.pairwise_mergeKey_merge shared own).imp ?_
    intro left right other alike same
    exact other (mergeKey_eq_of_sameTarget alike same)
  own_kept entry member resolves :=
    mem_merge_of_mem_own ownDistinct unmistakable member resolves
  own_alone := by
    intro entry member kept keptMember alike same
    have resolves : (entry.target? components).isSome := same.2 ▸ same.1
    exact ContractParameter.eq_of_mergeKey_eq keptMember
      (mem_merge_of_mem_own ownDistinct unmistakable member resolves)
      (mergeKey_eq_of_sameTarget alike same)
  shared_kept entry member resolves unmatched :=
    mem_merge_of_mem_shared sharedDistinct unmistakable member resolves unmatched

/-- **What an operation overrides.** At each place of a document, where neither the path nor the
operation lists two entries of one name and location, the operation overrides what is written
alike. -/
theorem Contract.overrides_of_ofRaw {document : Raw} {contract : Contract}
    (read : Contract.ofRaw document = .ok contract) :
    List.Forall₂
      (fun place operation => ∃ shared own, place.Lists shared own ∧
        (Distinct contract.components shared → Distinct contract.components own →
          Unmistakable (shared ++ own) →
          Overrides contract.components shared own operation.parameters))
      (OperationPlace.ofDocument document) contract.operations := by
  refine (Contract.forall₂_places_of_ofRaw read).imp ?_
  intro place operation holds
  obtain ⟨shared, own, lists, merged⟩ := holds.parameters
  refine ⟨shared, own, lists, ?_⟩
  intro sharedDistinct ownDistinct unmistakable
  rw [merged]
  exact overrides_merge sharedDistinct ownDistinct unmistakable

/-! ### Documents of one operation -/

/-- A parameter in the query, written in place with a type. -/
def queryParameter (name type : String) : Raw :=
  .ofFields [("name", .text name), ("in", .text "query"), ("type", .text type)]

/-- A reference to a component. -/
def componentReference (name : String) : Raw :=
  .ofFields [("$ref", .text ("#/components/parameters/" ++ name))]

/-- A document of one operation, with the component `limit` and the parameters of the path and of
the operation. -/
def petsDocument (shared own : List Raw) : Raw :=
  .ofFields
    [("paths", .ofFields [("/pets", .ofFields
      [("parameters", .list shared), ("get", .ofFields [("parameters", .list own)])])]),
    ("components", .ofFields [("parameters", .ofFields
      [("limit", queryParameter "limit" "integer")])])]

/-- The place of the operation. -/
def petsPlace (shared own : List Raw) : OperationPlace where
  path := .text "/pets"
  item := [(.text "parameters", .list shared),
    (.text "get", .ofFields [("parameters", .list own)])]
  key := "get"
  entries := [(.text "parameters", .list own)]

/-- The contract of such a document. -/
def petsContract (parameters : List ContractParameter) : Contract where
  operations := [{ method := "get", path := "/pets", parameters := parameters }]
  components := [("limit",
    { name := some "limit", location := some "query", schema := some { type := some "integer" } })]

theorem ofDocument_petsDocument (shared own : List Raw) :
    OperationPlace.ofDocument (petsDocument shared own) = [petsPlace shared own] := by
  rfl

/-- What a parameter in the query is read as. -/
def queryEntry (name type : String) : ContractParameter where
  name := some name
  location := some "query"
  schema := some { type := some type }

/-- What a reference to a component is read as. -/
def referenceEntry (name : String) : ContractParameter where
  ref := some ("#/components/parameters/" ++ name)

/-- A parameter in place that can be taken for the reference to the component. -/
def mistakable : Raw :=
  .ofFields [("name", .text "$ref"), ("in", .text "#/components/parameters/limit")]

/-- What it is read as. -/
def mistakableEntry : ContractParameter where
  name := some "$ref"
  location := some "#/components/parameters/limit"

/-- An operation that lists the reference of its path, and one of the parameters in place with
another type. -/
theorem overrides_pets :
    Contract.ofRaw (petsDocument
        [componentReference "limit", queryParameter "page" "integer", queryParameter "at" "string"]
        [componentReference "limit", queryParameter "page" "string"]) =
      .ok (petsContract
        [referenceEntry "limit", queryEntry "page" "string", queryEntry "at" "string"]) ∧
    Overrides (petsContract []).components
      [referenceEntry "limit", queryEntry "page" "integer", queryEntry "at" "string"]
      [referenceEntry "limit", queryEntry "page" "string"]
      [referenceEntry "limit", queryEntry "page" "string", queryEntry "at" "string"] := by
  have read : Contract.ofRaw (petsDocument
      [componentReference "limit", queryParameter "page" "integer", queryParameter "at" "string"]
      [componentReference "limit", queryParameter "page" "string"]) =
      .ok (petsContract
        [referenceEntry "limit", queryEntry "page" "string", queryEntry "at" "string"]) := by
    decide +kernel
  refine ⟨read, ?_⟩
  have each := Contract.overrides_of_ofRaw read
  rw [ofDocument_petsDocument] at each
  obtain ⟨shared, own, ⟨sharedRead, ownRead⟩, overrides⟩ := (List.forall₂_cons.mp each).1
  have sharedListed : ContractParameter.readListed (petsPlace
      [componentReference "limit", queryParameter "page" "integer", queryParameter "at" "string"]
      [componentReference "limit", queryParameter "page" "string"]).item = .ok
      [referenceEntry "limit", queryEntry "page" "integer", queryEntry "at" "string"] := by
    decide +kernel
  have ownListed : ContractParameter.readListed
      [(.text "parameters", .list
        [componentReference "limit", queryParameter "page" "string"])] =
      .ok [referenceEntry "limit", queryEntry "page" "string"] := by
    decide +kernel
  cases Except.ok.inj (sharedRead.symm.trans sharedListed)
  cases Except.ok.inj (ownRead.symm.trans ownListed)
  exact overrides (by decide +kernel) (by decide +kernel) (by decide +kernel)

/-- **Targets do not decide.** An operation that writes a parameter in place leaves a reference of
its path to the same parameter beside it. And a parameter in place that can be taken for a reference
of the operation takes its place. -/
theorem not_overrides_by_target :
    (¬ ∀ document contract, Contract.ofRaw document = .ok contract →
      List.Forall₂
        (fun place operation => ∀ shared own, place.Lists shared own →
          Distinct contract.components shared → Distinct contract.components own →
          Distinct contract.components operation.parameters)
        (OperationPlace.ofDocument document) contract.operations) ∧
    ¬ ∀ document contract, Contract.ofRaw document = .ok contract →
      List.Forall₂
        (fun place operation => ∀ shared own, place.Lists shared own →
          Distinct contract.components shared → Distinct contract.components own →
          ∀ entry ∈ own, ∀ other ∈ shared, SameTarget contract.components other entry →
            entry ∈ operation.parameters)
        (OperationPlace.ofDocument document) contract.operations := by
  constructor
  · intro claim
    have read : Contract.ofRaw (petsDocument [componentReference "limit"]
        [queryParameter "limit" "string"]) =
        .ok (petsContract [referenceEntry "limit", queryEntry "limit" "string"]) := by
      decide +kernel
    have lists : (petsPlace [componentReference "limit"]
        [queryParameter "limit" "string"]).Lists
        [referenceEntry "limit"] [queryEntry "limit" "string"] := by
      constructor <;> decide +kernel
    have each := claim _ _ read
    rw [ofDocument_petsDocument] at each
    have distinct := (List.forall₂_cons.mp each).1 _ _ lists (by decide +kernel) (by decide +kernel)
    exact absurd distinct (by decide +kernel)
  · intro claim
    have read : Contract.ofRaw (petsDocument [componentReference "limit"]
        [componentReference "limit", mistakable]) =
        .ok (petsContract [mistakableEntry]) := by
      decide +kernel
    have lists : (petsPlace [componentReference "limit"]
        [componentReference "limit", mistakable]).Lists
        [referenceEntry "limit"] [referenceEntry "limit", mistakableEntry] := by
      constructor <;> decide +kernel
    have each := claim _ _ read
    rw [ofDocument_petsDocument] at each
    have kept := (List.forall₂_cons.mp each).1 _ _ lists (by decide +kernel) (by decide +kernel)
      (referenceEntry "limit") List.mem_cons_self (referenceEntry "limit") List.mem_cons_self
      (by decide +kernel)
    exact absurd (List.mem_singleton.mp kept) (by decide +kernel)

end ParameterDrift
