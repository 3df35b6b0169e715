import ParameterDrift.Proofs.Keyed
import ParameterDrift.Proofs.Outcome
import ParameterDrift.Signature.Implemented
/-! # The first declaration of a name

Several declarations of a resource may be of one name, written in several ways and in several forms.
The parameters of the resource are the first declarations of their names: each name that is declared
stands among them once, at the place of its first declaration
(`ParameterDrift.Resource.isKeyed_of_implemented`).
-/

namespace ParameterDrift

/-- A declaration is of the name that its identifier stands for. -/
def Declaration.Declares (declaration : Declaration) (name : String) : Prop :=
  Identifier.plainName declaration.name = .ok name

instance (declaration : Declaration) (name : String) : Decidable (declaration.Declares name) :=
  inferInstanceAs (Decidable (_ = _))

namespace Resource

/-- The first declaration of a name. -/
def firstDeclared? (resource : Resource) (name : String) : Option Declaration :=
  resource.declarations.find? fun declaration => declaration.Declares name

/-- The place of the first declaration of a name. -/
def firstPlace (resource : Resource) (name : String) : Nat :=
  resource.declarations.findIdx fun declaration => declaration.Declares name

/-- **Parameters keyed by name, the first declaration of each.** -/
structure IsKeyed (resource : Resource) (parameters : List (String × ImplementedParameter)) :
    Prop where
  distinct : (parameters.map Prod.fst).Nodup
  named : ∀ entry ∈ parameters, entry.2.name = entry.1
  declared : ∀ name, name ∈ parameters.map Prod.fst ↔
    ∃ declaration ∈ resource.declarations, declaration.Declares name
  first : ∀ entry ∈ parameters, ∃ declaration, resource.firstDeclared? entry.1 = some declaration ∧
    declaration.implemented = .ok entry.2
  ordered : (parameters.map Prod.fst).Pairwise fun name later =>
    resource.firstPlace name < resource.firstPlace later

variable {resource : Resource} {declaration : Declaration} {declarations : List Declaration}
  {own : ImplementedParameter} {read : List ImplementedParameter} {name : String}
  {entry : String × ImplementedParameter} {parameters : List (String × ImplementedParameter)}

/-- A declaration declares the name that it implements. -/
theorem declares_iff_of_implemented (implemented : declaration.implemented = .ok own) :
    declaration.Declares name ↔ own.name = name := by
  obtain ⟨plain, isPlain, rfl⟩ := Outcome.map_eq_ok_iff.mp implemented
  rw [Declaration.Declares, isPlain, Except.ok.injEq]

/-- Parameters under their names. -/
def named (read : List ImplementedParameter) : List (String × ImplementedParameter) :=
  read.map fun own => (own.name, own)

section Read

variable (each : List.Forall₂ (fun declaration own => declaration.implemented = .ok own)
  declarations read)

include each

/-- The first parameter of a name is read from the first declaration of it. -/
theorem exists_find?_of_named
    (found : (named read).find? (fun pair => pair.1 == name) = some entry) :
    ∃ declaration, declarations.find? (fun declaration => declaration.Declares name) =
      some declaration ∧ declaration.implemented = .ok entry.2 := by
  induction each with
  | nil => cases found
  | @cons declaration own rest later first _ ih =>
    rw [named, List.map_cons, List.find?_cons] at found
    by_cases declares : declaration.Declares name
    · rw [(declares_iff_of_implemented first).mp declares, beq_self_eq_true] at found
      cases found
      exact ⟨declaration, List.find?_cons_of_pos (decide_eq_true declares), first⟩
    · have different : (own.name == name) = false :=
        beq_eq_false_iff_ne.mpr fun same => declares ((declares_iff_of_implemented first).mpr same)
      rw [different] at found
      rw [List.find?_cons_of_neg (by simpa using declares)]
      exact ih found

/-- A name stands where it was declared first. -/
theorem idxOf_named (name : String) :
    ((named read).map Prod.fst).idxOf name =
      declarations.findIdx fun declaration => declaration.Declares name := by
  induction each with
  | nil => rfl
  | @cons declaration own rest later first _ ih =>
    rw [named, List.map_cons, List.map_cons, List.idxOf_cons, List.findIdx_cons, ← ih]
    have same : decide (declaration.Declares name) = (own.name == name) := by
      rw [beq_eq_decide, decide_eq_decide]
      exact declares_iff_of_implemented first
    rw [same]
    rfl

/-- The names are those that are declared. -/
theorem mem_named_iff (name : String) : name ∈ (named read).map Prod.fst ↔
    ∃ declaration ∈ declarations, declaration.Declares name := by
  induction each with
  | nil => simp [named]
  | @cons declaration own rest later first _ ih =>
    rw [named, List.map_cons, List.map_cons, List.mem_cons, List.exists_mem_cons_iff,
      declares_iff_of_implemented first, eq_comm]
    exact or_congr_right ih

end Read

/-- The implemented parameters are keyed by the declared names. -/
theorem isKeyed_of_implemented (returned : resource.implemented = .ok parameters) :
    resource.IsKeyed parameters := by
  obtain ⟨read, readEach, rfl⟩ := Outcome.map_eq_ok_iff.mp returned
  have each := Outcome.mapM_eq_ok_iff.mp readEach
  have keys : (Keyed.ofListFirst (named read)).map Prod.fst =
      (Keyed.ofList (named read)).map Prod.fst := Keyed.keys_ofListFirst _
  change resource.IsKeyed (Keyed.ofListFirst (named read))
  constructor
  case distinct => exact Keyed.nodup_keys_ofListFirst _
  case named =>
    intro entry member
    have among := List.mem_of_find?_eq_some (Keyed.mem_ofListFirst_iff.mp member)
    obtain ⟨own, -, rfl⟩ := List.mem_map.mp among
    rfl
  case declared =>
    intro name
    rw [keys, Keyed.mem_keys_ofList_iff, mem_named_iff each]
  case first =>
    intro entry member
    exact exists_find?_of_named each (Keyed.mem_ofListFirst_iff.mp member)
  case ordered =>
    rw [keys]
    refine (Keyed.pairwise_idxOf_keys_ofList (named read)).imp fun precedes => ?_
    rwa [idxOf_named each, idxOf_named each] at precedes

end Resource

end ParameterDrift
