import ParameterDrift.Proofs.Service.Blocks
import ParameterDrift.Proofs.Signature.Spelling
/-! # Manifests that are spelled otherwise

What a resource brings depends on its declarations only by what they come to. So a manifest whose
declarations are spelled otherwise has the same findings, or ends with the same fault, and a
collector is told the same (`ParameterDrift.Contract.outcome_validate_respelled`). That holds of
declarations with one plain name too: which of them is the first does not change.
-/

namespace ParameterDrift

/-- Resources that differ in the spelling of their declarations only. -/
structure Resource.Respelled (resource respelled : Resource) : Prop where
  method : respelled.method = resource.method
  path : respelled.path = resource.path
  location : respelled.location = resource.location
  declarations :
    List.Forall₂ Declaration.Respelled resource.declarations respelled.declarations

/-- Manifests that differ in the spelling of declarations only. -/
structure Manifest.Respelled (manifest respelled : Manifest) : Prop where
  name : respelled.name = manifest.name
  source : respelled.source = manifest.source
  resources : List.Forall₂ Resource.Respelled manifest.resources respelled.resources

/-- A respelled resource implements the same parameters. -/
theorem Resource.implemented_of_respelled {resource respelled : Resource}
    (spelled : resource.Respelled respelled) : respelled.implemented = resource.implemented := by
  have same : respelled.declarations.mapM Declaration.implemented =
      resource.declarations.mapM Declaration.implemented :=
    Outcome.mapM_congr_of_forall₂
      (spelled.declarations.imp fun _ _ => Declaration.implemented_of_respelled)
  rw [implemented, implemented, same]

namespace Contract

variable (contract : Contract) (settings : Settings)

/-- A resource that is spelled otherwise brings the same. -/
theorem blockFindings_of_respelled {resource respelled : Resource}
    (spelled : resource.Respelled respelled) :
    contract.blockFindings settings respelled = contract.blockFindings settings resource := by
  rw [blockFindings, blockFindings, spelled.method, spelled.path, spelled.location,
    Resource.implemented_of_respelled spelled]

/-- Respelled resources are validated alike. -/
theorem validateFrom_of_respelled {resources respelled : List Resource}
    (spelled : List.Forall₂ Resource.Respelled resources respelled) (found : List Finding)
    (collector : Collector) :
    contract.validateFrom settings respelled found collector =
      contract.validateFrom settings resources found collector := by
  induction spelled generalizing found collector with
  | nil => rfl
  | cons first _ ih =>
    rw [validateFrom_cons, validateFrom_cons, contract.blockFindings_of_respelled settings first]
    split
    · rfl
    · exact ih _ _

/-- **Spellings do not matter to a validation.** A manifest that is spelled otherwise has the same
findings, or ends with the same fault, and reports the same to a collector. -/
theorem outcome_validate_respelled {manifest respelled : Manifest}
    (spelled : manifest.Respelled respelled) :
    (contract.validate respelled settings).outcome =
        (contract.validate manifest settings).outcome ∧
      ∀ collector, contract.validateInto respelled settings collector =
        contract.validateInto manifest settings collector := by
  have told : ∀ collector, contract.validateInto respelled settings collector =
      contract.validateInto manifest settings collector :=
    contract.validateFrom_of_respelled settings spelled.resources []
  refine ⟨?_, told⟩
  have returned := congrArg Prod.fst (told {})
  rwa [validateInto_eq_validate, validateInto_eq_validate] at returned

/-- A contract with two parameters. -/
def aviary : Contract where
  operations :=
    [{ method := "get"
       path := "/aviaries/\x7bid\x7d"
       parameters :=
        [{ name := some "id", location := some "path", schema := some { type := some "string" } },
          { name := some "limit", location := some "query",
            schema := some { type := some "integer" } }] }]

/-- A manifest that declares one parameter twice. -/
def aviaryPlain : Manifest where
  resources :=
    [{ method := "get"
       path := "/aviaries/[int id]"
       declarations :=
        [.path "id" "int_type_desc" {}, .required "limit" "string " {},
          .defaultable "limit" "int?" (.int 1) {}, .path "spot" "\tint" {}] }]

/-- The same manifest, with most of its names, types and kinds spelled otherwise. -/
def aviaryRespelled : Manifest where
  resources :=
    [{ method := "get"
       path := "/aviaries/[int id]"
       declarations :=
        [.path "'id" " Int_TYPE_dESC\n" {}, .required "limit" "\tstring  ? " {},
          .defaultable "'limit" "int?" (.int 1) {}, .path "'spot" "int_TYPE_DESC" {}] }]

/-- The aviary has a parameter of another type than its contract says, one that is declared twice
and counts as it is first declared, and one that is not documented. -/
theorem outcome_validate_respelled_aviary :
    aviaryPlain.Respelled aviaryRespelled ∧
      (aviary.validate aviaryRespelled {}).outcome = .ok
        [{ kind := .typeMismatch, severity := .error, location := some {},
           arguments := ["string", "int", "id", "get", "/aviaries/\x7bid\x7d"] },
          { kind := .typeMismatch, severity := .error, location := some {},
            arguments := ["integer", "string", "limit", "get", "/aviaries/\x7bid\x7d"] },
          { kind := .undefined, severity := .error, location := some {},
            arguments := ["spot", "get", "/aviaries/\x7bid\x7d"] }] := by
  have idKind : KindSpelling "int_type_desc".toList " Int_TYPE_dESC\n".toList :=
    .lettered [' '] "Int_TYPE_dESC".toList ['\n'] (by decide +kernel) (by decide +kernel)
      (by decide +kernel)
  have limitType : TypeSpelling "string ".toList "\tstring  ? ".toList :=
    .optional ['\t'] [' '] [' '] (by decide +kernel) (by decide +kernel)
      (by decide +kernel) (by decide +kernel)
  have spotKind : KindSpelling "\tint".toList "int_TYPE_DESC".toList :=
    .completed (by decide +kernel)
  have spelled : aviaryPlain.Respelled aviaryRespelled := by
    refine ⟨rfl, rfl, .cons ⟨rfl, rfl, rfl, ?_⟩ .nil⟩
    exact .cons (.path (.quoted (by decide +kernel)) idKind)
      (.cons (.required .same limitType)
        (.cons (.defaultable (.quoted (by decide +kernel)) .same)
          (.cons (.path (.quoted (by decide +kernel)) spotKind) .nil)))
  refine ⟨spelled, (aviary.outcome_validate_respelled {} spelled).1.trans ?_⟩
  decide +kernel

end Contract

end ParameterDrift
