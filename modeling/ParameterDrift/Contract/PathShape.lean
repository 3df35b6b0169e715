import ParameterDrift.Contract.Basic
import ParameterDrift.Text.Case
import ParameterDrift.Text.Segments
/-! # Path shapes and the operation of a resource

A contract writes path templates in braces, the service's language in brackets with a type. Both
come down to one shape of the path, in which every template is a pair of braces; a resource
implements the first operation of its method and shape.
-/

namespace ParameterDrift

namespace PathShape

/-- What follows the first occurrence of a character. -/
def after? (mark : Char) : List Char → Option (List Char)
  | [] => none
  | c :: rest => if c = mark then some rest else after? mark rest

/-- The character that closes a template. -/
def closing? (c : Char) : Option Char :=
  if c = '\x7b' then some '\x7d' else if c = '[' then some ']' else none

/-- What follows a mark is shorter than the text. -/
theorem length_after_lt {mark : Char} {text rest : List Char}
    (found : after? mark text = some rest) : rest.length < text.length := by
  induction text with
  | nil => simp [after?] at found
  | cons c others ih =>
    simp only [after?] at found
    split at found
    · cases found
      simp
    · have := ih found
      simp only [List.length_cons]
      omega

/-- What follows the template that a character opens, if it is closed. -/
def afterTemplate? (c : Char) (rest : List Char) : Option (List Char) :=
  (closing? c).bind fun mark => after? mark rest

/-- What follows a template is shorter than the text behind its first character. -/
theorem length_afterTemplate_lt {c : Char} {text rest : List Char}
    (found : afterTemplate? c text = some rest) : rest.length < text.length := by
  obtain ⟨mark, _, closed⟩ := Option.bind_eq_some_iff.1 found
  exact length_after_lt closed

/-- A segment with every template replaced by a pair of braces. A template reaches from an opening
bracket to the first closing one of its kind; an opening bracket that is not closed is kept. -/
def ofSegment : List Char → List Char
  | [] => []
  | c :: rest =>
    match _found : afterTemplate? c rest with
    | some after => '\x7b' :: '\x7d' :: ofSegment after
    | none => c :: ofSegment rest
termination_by segment => segment.length
decreasing_by
  · have := length_afterTemplate_lt _found
    simp only [List.length_cons]
    omega
  · simp

/-- The shape of a path. -/
def ofPath (path : List Char) : List Char :=
  Text.joinSegments ((Text.segments path).map ofSegment)

/-- The shape of a path. -/
def ofString (path : String) : String :=
  String.ofList (ofPath path.toList)

end PathShape

/-- The first operation of a contract with a method, whatever its letter case, and the shape of a
path. The methods of the contract are taken as they are. -/
def Contract.operation? (contract : Contract) (method path : String) : Option Operation :=
  contract.operations.find? fun operation =>
    operation.method == Text.lowerString method &&
      PathShape.ofString operation.path == PathShape.ofString path

end ParameterDrift
