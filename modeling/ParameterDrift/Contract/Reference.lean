import ParameterDrift.Contract.Basic
/-! # References to components

A parameter may refer to a component of the contract by a pointer whose last part is the name of
the component, with `~1` for a slash and `~0` for a tilde. A reference is followed once: a component
that is itself a reference resolves nothing.
-/

namespace ParameterDrift

namespace Reference

/-- What follows the last slash of a text; all of it when there is none. -/
def afterLastSlash (text : List Char) : List Char :=
  (text.reverse.takeWhile (· ≠ '/')).reverse

/-- A text with a tilde before a digit replaced by the character that the two stand for. -/
def replaceTilde (digit image : Char) : List Char → List Char
  | '~' :: c :: rest =>
    if c = digit then image :: replaceTilde digit image rest
    else '~' :: replaceTilde digit image (c :: rest)
  | c :: rest => c :: replaceTilde digit image rest
  | [] => []

/-- The part of a pointer in plain text. Slashes come back before tildes, so that `~01` stands for
a tilde and a one. -/
def decode (part : List Char) : List Char :=
  replaceTilde '0' '~' (replaceTilde '1' '/' part)

/-- The component name that a pointer within the document ends in. Pointers elsewhere, and texts
without a slash or with nothing after the last, name none. -/
def componentName? (ref : List Char) : Option (List Char) :=
  if ref.head? = some '#' && ref.contains '/' then
    let name := decode (afterLastSlash ref)
    if name.isEmpty then none else some name
  else none

/-- The component name that a reference ends in. -/
def name? (ref : String) : Option String :=
  (componentName? ref.toList).map String.ofList

end Reference

/-- A parameter with its reference followed. A component without a name takes the one by which it
is referred to. A reference that leads to no component, or to another reference, is given back. -/
def ContractParameter.resolve (components : Components) (parameter : ContractParameter) :
    Except String ContractParameter :=
  match parameter.ref with
  | none => .ok parameter
  | some ref =>
    match (Reference.name? ref).bind fun name => (components.lookup name).map (name, ·) with
    | none => .error ref
    | some (name, target) =>
      if target.ref.isSome then .error ref
      else
        let ownName := target.name.filter (· ≠ "")
        .ok { target with name := ownName.getD name }

/-- The parameters that some entries resolve to, in order; entries that resolve to none are left
out. -/
def ContractParameter.resolveAll (components : Components) (entries : List ContractParameter) :
    List ContractParameter :=
  entries.filterMap fun entry => (entry.resolve components).toOption

/-- The references of the entries that resolve to nothing, in order. -/
def ContractParameter.danglingAll (components : Components) (entries : List ContractParameter) :
    List String :=
  entries.filterMap fun entry => match entry.resolve components with
    | .ok _ => none
    | .error ref => some ref

namespace ContractParameter

/-- A parameter that is written in place resolves to itself. -/
theorem resolve_of_ref_none {components : Components} {parameter : ContractParameter}
    (inPlace : parameter.ref = none) : parameter.resolve components = .ok parameter := by
  simp [resolve, inPlace]

/-- A resolved parameter carries no reference. -/
theorem ref_of_resolve {components : Components} {parameter resolved : ContractParameter}
    (found : parameter.resolve components = .ok resolved) : resolved.ref = none := by
  unfold resolve at found
  split at found
  · next inPlace =>
    cases found
    exact inPlace
  · split at found
    · cases found
    · split at found
      · cases found
      · next target _ isPlain =>
        cases found
        simpa using isPlain

end ContractParameter

end ParameterDrift
