import ParameterDrift.Text.Blank
/-! # Segments of a path

A path is a text of segments between slashes. Blanks around a path and empty segments do not count,
so slashes may be doubled and may stand or not at both ends.
-/

namespace ParameterDrift.Text

/-- The pieces of a text between slashes; there is one more than there are slashes. -/
def pieces : List Char → List (List Char)
  | [] => [[]]
  | c :: rest =>
    if c = '/' then [] :: pieces rest
    else match pieces rest with
      | piece :: others => (c :: piece) :: others
      | [] => [[c]]

/-- The segments of a path that are not empty. -/
def segments (path : List Char) : List (List Char) :=
  (pieces (trim path)).filter fun segment => !segment.isEmpty

/-- Segments with a slash in front of the first and between them. -/
def joinSegments (segments : List (List Char)) : List Char :=
  '/' :: ['/'].intercalate segments

end ParameterDrift.Text
