import ParameterDrift.Markup.Value
/-! # Documents in markup

A document is written in a markup language of indented blocks and brackets. Reading it takes a text
to tokens, the tokens to nodes, and the nodes to a value; a text without a document is null. Every
text has one outcome: a value or a fault.
-/

namespace ParameterDrift.Markup

/-- The characters that a document may hold, as inclusive ranges of code points. -/
def printableRanges : List (Nat × Nat) :=
  [(0x09, 0x0A), (0x0D, 0x0D), (0x20, 0x7E), (0x85, 0x85), (0xA0, 0xD7FF), (0xE000, 0xFFFD),
    (0x10000, 0x10FFFF)]

/-- Whether a document may hold a character. -/
def isAllowed (c : Char) : Bool :=
  Text.inRanges printableRanges c.toNat

/-- A text in which every line ends with a line feed; a carriage return and a line feed together
end one line. -/
def withLineFeeds : List Char → List Char
  | '\r' :: '\n' :: rest => '\n' :: withLineFeeds rest
  | '\r' :: rest => '\n' :: withLineFeeds rest
  | c :: rest => c :: withLineFeeds rest
  | [] => []

/-- The value that a text holds. -/
def read (text : List Char) : Except Fault Raw := do
  let text := withLineFeeds text
  if !text.all isAllowed then .error (.form .unprintable)
  else
    match ← Node.ofText? text with
    | none => .ok .null
    | some node => node.value.mapError DeepFault.fault

end ParameterDrift.Markup
