import ParameterDrift.Proofs.Contract.Upgrade.Components
import ParameterDrift.Proofs.Contract.Upgrade.Operations
/-! # Documents written anew

Written anew, an older document is read as the same contract, with the references written anew
(`ParameterDrift.Upgrade.ofRaw_document`). Since they end in the same names, every manifest is
checked against it with the same findings or the same fault
(`ParameterDrift.Contract.validate_document`).
-/

namespace ParameterDrift.Upgrade

variable {entries : List (Scalar × Raw)}

/-- **A document written anew** is read as the same contract, with its references written anew. -/
theorem ofRaw_document (older : IsOlder entries) :
    Contract.ofRaw (document (.mapping entries)) =
      (Contract.ofRaw (.mapping entries)).map (Contract.redirect writeReference) := by
  have pathsOlder : ∀ value ∈ ((Raw.lookup "paths" entries).map pathValues).getD [],
      IsOlderParameter value :=
    fun value member => older.parameters value (List.mem_append_left _ member)
  have infoSame : Contract.readInfo (documentEntries entries) = Contract.readInfo entries :=
    Contract.readInfo_congr (lookup_documentEntries (by decide) (by decide) (by decide))
  rw [document, Contract.ofRaw_mapping, Contract.ofRaw_mapping, Contract.ofEntries,
    Contract.ofEntries, readPaths_paths lookup_paths_documentEntries pathsOlder, infoSame,
    read_documentEntries older]
  cases Operation.readPaths entries with
  | error fault => rfl
  | ok operations =>
    cases Contract.readInfo entries with
    | error fault => rfl
    | ok info =>
      cases Components.read entries with
      | error fault => rfl
      | ok components => rfl

end ParameterDrift.Upgrade

namespace ParameterDrift.Contract

/-- **Older documents and newer ones are checked alike.** -/
theorem validate_document {entries : List (Scalar × Raw)} {contract : Contract}
    (older : Upgrade.IsOlder entries) (read : Contract.ofRaw (.mapping entries) = .ok contract) :
    Contract.ofRaw (Upgrade.document (.mapping entries)) =
        .ok (contract.redirect Upgrade.writeReference) ∧
      ∀ manifest settings,
        ((contract.redirect Upgrade.writeReference).validate manifest settings).outcome =
            (contract.validate manifest settings).outcome ∧
          ((contract.redirect Upgrade.writeReference).validate manifest settings).findings =
            (contract.validate manifest settings).findings := by
  constructor
  · rw [Upgrade.ofRaw_document older, read]
    rfl
  · intro manifest settings
    rw [contract.validate_redirect Upgrade.keepsNames_writeReference]
    exact ⟨Run.outcome_redirect _, Run.findings_redirect _⟩

end ParameterDrift.Contract

namespace ParameterDrift.Upgrade

/-- An older document: a reusable array and a reference to it among the reusable parameters, a path
that lists the reference and an integer, and an operation that overrides the integer and has a
body. -/
def olderPets : List (Scalar × Raw) :=
  [(.text "swagger", .text "2.0"),
    (.text "parameters", .ofFields
      [("tags", .ofFields [("name", .text "tags"), ("in", .text "query"), ("type", .text "array"),
        ("items", .ofFields [("type", .text "string")])]),
      ("labels", .ofFields [("$ref", .text "#/parameters/tags")])]),
    (.text "paths", .ofFields [("/pets", .ofFields
      [("parameters", .list [.ofFields [("$ref", .text "#/parameters/tags")],
        .ofFields [("name", .text "limit"), ("in", .text "query"), ("type", .text "integer"),
          ("format", .text "int64")]]),
      ("get", .ofFields [("parameters", .list
        [.ofFields [("name", .text "limit"), ("in", .text "query"), ("type", .text "string")],
        .ofFields [("name", .text "pet"), ("in", .text "body"),
          ("schema", .ofFields [("type", .text "object")])]])])])])]

/-- What it is read as. -/
def olderPetsContract : Contract where
  operations :=
    [{ method := "get", path := "/pets",
       parameters := [{ ref := some "#/parameters/tags" },
         { name := some "limit", location := some "query",
           schema := some { type := some "string" } }] }]
  components :=
    [("tags",
        { name := some "tags", location := some "query",
          schema := some { type := some "array", items := some { type := some "string" } } }),
      ("labels", { ref := some "#/parameters/tags" })]

/-- The document is of the older form. -/
theorem isOlder_olderPets : IsOlder olderPets where
  no_components := rfl
  parameters := by
    have toTags : IsOlderReference "#/parameters/tags" :=
      ⟨"tags".toList, by decide, by decide⟩
    intro value member
    change value ∈ [_, _, _, _, _, _] at member
    simp only [List.mem_cons, List.not_mem_nil, or_false] at member
    rcases member with rfl | rfl | rfl | rfl | rfl | rfl
    · exact ⟨_, rfl, toTags⟩
    · exact ⟨"query", by decide, rfl⟩
    · exact ⟨"query", by decide, rfl⟩
    · exact ⟨"body", by decide, rfl⟩
    · exact ⟨"query", by decide, rfl⟩
    · exact ⟨_, rfl, toTags⟩

/-- The older document of the pets and the newer one are checked alike. -/
theorem validate_olderPets :
    Contract.ofRaw (.mapping olderPets) = .ok olderPetsContract ∧
    Contract.ofRaw (document (.mapping olderPets)) =
        .ok (olderPetsContract.redirect writeReference) ∧
      ∀ manifest settings,
        ((olderPetsContract.redirect writeReference).validate manifest settings).outcome =
            (olderPetsContract.validate manifest settings).outcome ∧
          ((olderPetsContract.redirect writeReference).validate manifest settings).findings =
            (olderPetsContract.validate manifest settings).findings := by
  have read : Contract.ofRaw (.mapping olderPets) = .ok olderPetsContract := by
    decide +kernel
  exact ⟨read, Contract.validate_document isOlder_olderPets read⟩

end ParameterDrift.Upgrade
