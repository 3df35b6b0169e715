/-! # Blank characters and trimming

Names, types, paths and type kinds are read without the blanks around them. A blank is any
character of Unicode's white space or one of the four information separators U+001C to U+001F.
Trimming is stated on lists of characters, where its laws are plain facts about `dropWhile`.
-/

namespace ParameterDrift.Text

/-- White space, as inclusive ranges of code points. -/
def whiteSpaceRanges : List (Nat × Nat) :=
  [(0x09, 0x0D), (0x20, 0x20), (0x85, 0x85), (0xA0, 0xA0), (0x1680, 0x1680), (0x2000, 0x200A),
    (0x2028, 0x2029), (0x202F, 0x202F), (0x205F, 0x205F), (0x3000, 0x3000)]

/-- The information separators, as an inclusive range of code points. -/
def separatorRanges : List (Nat × Nat) :=
  [(0x1C, 0x1F)]

/-- Whether a code point lies in one of some inclusive ranges. -/
def inRanges (ranges : List (Nat × Nat)) (code : Nat) : Bool :=
  ranges.any fun (first, last) => first ≤ code && code ≤ last

/-- Whether a character is white space. -/
def isWhiteSpace (c : Char) : Bool :=
  inRanges whiteSpaceRanges c.toNat

/-- A blank is a character of white space, or a separator U+001C to U+001F. -/
def isBlank (c : Char) : Bool :=
  isWhiteSpace c || inRanges separatorRanges c.toNat

/-- The characters up to the last that is not in a class. -/
def dropEndWhile (class? : Char → Bool) (text : List Char) : List Char :=
  (text.reverse.dropWhile class?).reverse

/-- The characters from the first that is not blank. -/
def trimStart (text : List Char) : List Char :=
  text.dropWhile isBlank

/-- The characters up to the last that is not blank. -/
def trimEnd (text : List Char) : List Char :=
  dropEndWhile isBlank text

/-- The characters between the first and the last that are not blank. -/
def trim (text : List Char) : List Char :=
  trimEnd (trimStart text)

/-- A string without the blanks around it. -/
def strip (s : String) : String :=
  String.ofList (trim s.toList)

end ParameterDrift.Text
