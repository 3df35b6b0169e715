import ParameterDrift.Proofs.Contract.PathStructure
/-! # Pairing by structure

A resource is paired with the first operation of its method and shape. Where all paths are
well-formed, this is the first operation of its method and structure
(`ParameterDrift.Contract.operation?_eq_first_of_structure`).
-/

namespace ParameterDrift

/-- An operation has a method, whatever its letter case, and a path of the structure of another. -/
def Operation.Serves (operation : Operation) (method path : String) : Prop :=
  operation.method = Text.lowerString method ∧ AlikePaths operation.path path

namespace Contract

variable {contract : Contract} {method path : String} {operation : Operation}

/-- The operation of a resource is the first of its method and shape. -/
theorem operation?_eq_some_iff_first :
    contract.operation? method path = some operation ↔
      ∃ before after, contract.operations = before ++ operation :: after ∧
        (operation.method = Text.lowerString method ∧
          PathShape.ofString operation.path = PathShape.ofString path) ∧
        ∀ earlier ∈ before, ¬ (earlier.method = Text.lowerString method ∧
          PathShape.ofString earlier.path = PathShape.ofString path) := by
  rw [operation?, List.find?_eq_some_iff_append]
  simp only [Bool.and_eq_true, beq_iff_eq, Bool.not_eq_true', Bool.and_eq_false_iff,
    beq_eq_false_iff_ne, not_and_or]
  constructor
  · rintro ⟨matched, before, after, split, earlier⟩
    exact ⟨before, after, split, matched, earlier⟩
  · rintro ⟨before, after, split, matched, earlier⟩
    exact ⟨matched, before, after, split, earlier⟩

/-- There is none when no operation has its method and shape. -/
theorem operation?_eq_none_iff_all :
    contract.operation? method path = none ↔
      ∀ operation ∈ contract.operations, ¬ (operation.method = Text.lowerString method ∧
        PathShape.ofString operation.path = PathShape.ofString path) := by
  rw [operation?, List.find?_eq_none]
  simp only [Bool.and_eq_true, beq_iff_eq]

/-- **Pairing goes by structure.** Well-formed paths have one shape exactly when they have one
structure. Where all paths of a contract are well-formed, the operation of a method and a
well-formed path is the first of that method and structure, and there is none exactly when no
operation has both; and a segment of literal text alone is paired with such segments only. -/
theorem operation?_eq_first_of_structure :
    (∀ (left right : WrittenPath) (s t : String), left.Writes s → right.Writes t →
        (PathShape.ofString s = PathShape.ofString t ↔ left.SameStructure right)) ∧
      ∀ contract : Contract, (∀ operation ∈ contract.operations, IsPath operation.path) →
        ∀ method path, IsPath path →
          (∀ operation, contract.operation? method path = some operation ↔
            ∃ before after, contract.operations = before ++ operation :: after ∧
              operation.Serves method path ∧ ∀ earlier ∈ before, ¬ earlier.Serves method path) ∧
          (contract.operation? method path = none ↔
            ∀ operation ∈ contract.operations, ¬ operation.Serves method path) ∧
          ∀ operation, contract.operation? method path = some operation →
            ∀ left right : WrittenPath, left.Writes operation.path → right.Writes path →
              List.Forall₂ (fun leftSegment rightSegment =>
                (∀ part ∈ leftSegment, part.isLiteral = true) ↔
                  ∀ part ∈ rightSegment, part.isLiteral = true) left.segments right.segments := by
  refine ⟨fun left right s t => PathShape.ofString_eq_iff, ?_⟩
  intro contract wellFormed method path isPath
  have serves : ∀ operation ∈ contract.operations,
      (operation.method = Text.lowerString method ∧
        PathShape.ofString operation.path = PathShape.ofString path) ↔
        operation.Serves method path := by
    intro operation member
    rw [Operation.Serves,
      PathShape.ofString_eq_iff_alikePaths (wellFormed operation member) isPath]
  refine ⟨?_, ?_, ?_⟩
  · intro operation
    rw [operation?_eq_some_iff_first]
    refine exists_congr fun before => exists_congr fun after => and_congr_right fun split => ?_
    have within : ∀ other ∈ before ++ operation :: after, other ∈ contract.operations :=
      fun other member => split ▸ member
    have earlier : ∀ other ∈ before, _ ↔ other.Serves method path := fun other member =>
      serves other (within other (List.mem_append_left _ member))
    rw [serves operation (within operation (by simp))]
    exact and_congr_right fun _ =>
      forall₂_congr fun other member => not_congr (earlier other member)
  · rw [operation?_eq_none_iff_all]
    exact forall₂_congr fun operation member => not_congr (serves operation member)
  · intro operation found left right leftWritten rightWritten
    obtain ⟨_, _, _, ⟨_, shapes⟩, _⟩ := operation?_eq_some_iff_first.mp found
    exact ((PathShape.ofString_eq_iff leftWritten rightWritten).mp shapes).literal

/-- The path of the kennel that is one's own. -/
def ownKennelPath : WrittenPath where
  pieces := [[],
    [.literal "kennels".toList (by decide) (isLiteral_of_all (by decide))],
    [.literal "own".toList (by decide) (isLiteral_of_all (by decide))]]

/-- The path of a kennel by its number and version, with a template of a bracket in braces. -/
def kennelPath : WrittenPath where
  pieces := [[],
    [.literal "kennels".toList (by decide) (isLiteral_of_all (by decide))],
    [.template .brace "id[".toList (by decide),
      .literal ".v".toList (by decide) (isLiteral_of_all (by decide)),
      .template .brace [] (by decide)]]

/-- The same path with other templates and other slashes. -/
def kennelResourcePath : WrittenPath where
  pieces := [[.literal "kennels".toList (by decide) (isLiteral_of_all (by decide))], [],
    [.template .square "int id\x7d".toList (by decide),
      .literal ".".toList (by decide) (isLiteral_of_all (by decide)),
      .literal "v".toList (by decide) (isLiteral_of_all (by decide)),
      .template .square "int v".toList (by decide)],
    []]

/-- The operation on a kennel. -/
def kennelOperation : Operation where
  method := "get"
  path := "/kennels/\x7bid[\x7d.v\x7b\x7d"

/-- A contract with operations on the own kennel and on any. -/
def kennels : Contract where
  operations := [{ method := "get", path := "/kennels/own" },
    { method := "put", path := kennelOperation.path }, kennelOperation,
    { kennelOperation with summary := "again" }]

/-- A path of the structure of the operation's, with other brackets and slashes, is paired with the
first operation on any kennel that has its method. -/
theorem operation?_eq_first_of_structure_kennels :
    kennelPath.Writes kennelOperation.path ∧
      kennelResourcePath.Writes "kennels//[int id\x7d].v[int v]/" ∧
      kennelPath.SameStructure kennelResourcePath ∧
      (∀ operation ∈ kennels.operations, IsPath operation.path) ∧
      IsPath "kennels//[int id\x7d].v[int v]/" ∧
      kennels.operation? "GET" "kennels//[int id\x7d].v[int v]/" = some kennelOperation ∧
      (∃ before after, kennels.operations = before ++ kennelOperation :: after ∧
        kennelOperation.Serves "GET" "kennels//[int id\x7d].v[int v]/" ∧
        ∀ earlier ∈ before, ¬ earlier.Serves "GET" "kennels//[int id\x7d].v[int v]/") ∧
      ∀ operation ∈ kennels.operations, ¬ operation.Serves "delete" "/kennels/own" := by
  have documented : kennelPath.Writes kennelOperation.path := by decide +kernel
  have implemented : kennelResourcePath.Writes "kennels//[int id\x7d].v[int v]/" := by
    decide +kernel
  have shapes : PathShape.ofString kennelOperation.path =
      PathShape.ofString "kennels//[int id\x7d].v[int v]/" := by
    decide +kernel
  have same : kennelPath.SameStructure kennelResourcePath :=
    (operation?_eq_first_of_structure.1 _ _ _ _ documented implemented).mp shapes
  have own : IsPath "/kennels/own" := ⟨ownKennelPath, by decide +kernel⟩
  have any : IsPath kennelOperation.path := ⟨kennelPath, documented⟩
  have resource : IsPath "kennels//[int id\x7d].v[int v]/" := ⟨kennelResourcePath, implemented⟩
  have wellFormed : ∀ operation ∈ kennels.operations, IsPath operation.path := by
    intro operation member
    change operation ∈ [_, _, _, _] at member
    simp only [List.mem_cons, List.not_mem_nil, or_false] at member
    rcases member with rfl | rfl | rfl | rfl
    · exact own
    · exact any
    · exact any
    · exact any
  have found : kennels.operation? "GET" "kennels//[int id\x7d].v[int v]/" =
      some kennelOperation := by
    decide +kernel
  have unfound : kennels.operation? "delete" "/kennels/own" = none := by decide +kernel
  have paired := operation?_eq_first_of_structure.2 kennels wellFormed
  exact ⟨documented, implemented, same, wellFormed, resource, found,
    ((paired _ _ resource).1 _).mp found, (paired _ _ own).2.1.mp unfound⟩

end Contract

end ParameterDrift
