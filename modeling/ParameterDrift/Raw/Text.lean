import ParameterDrift.Raw
import ParameterDrift.Number.Numeral
import ParameterDrift.Text.Quoted
/-! # The text of a document value

Titles, names, references and the like are taken from a document whatever their kind: a text as it
is, anything else in a written form. In the written form texts stand in quotes, lists in brackets,
mappings in braces, and dates and times name their parts. A value that holds an integer of too many
digits is not written.
-/

namespace ParameterDrift

/-- The written form of integers, with commas between. -/
def commaSeparated (parts : List String) : String :=
  ", ".intercalate parts

namespace Date

/-- A day by its parts. -/
def literal (d : Date) : String :=
  "datetime.date(" ++ commaSeparated [toString d.year, toString d.month, toString d.day] ++ ")"

end Date

namespace Moment

/-- A distance from universal time by its parts: days round down, so that seconds are never
negative. -/
def offsetLiteral (minutes : Int) : String :=
  if minutes = 0 then "datetime.timezone.utc"
  else
    let days := minutes.fdiv (24 * 60)
    let seconds := minutes.fmod (24 * 60) * 60
    let parts := (if days = 0 then [] else ["days=" ++ toString days]) ++
      (if seconds = 0 then [] else ["seconds=" ++ toString seconds])
    "datetime.timezone(datetime.timedelta(" ++ commaSeparated parts ++ "))"

/-- A moment by its parts; seconds and fractions stand only as far as they are needed. -/
def literal (m : Moment) : String :=
  let fine := if m.microsecond ≠ 0 then [m.second, m.microsecond]
    else if m.second ≠ 0 then [m.second] else []
  let parts := [m.date.year, m.date.month, m.date.day, m.hour, m.minute] ++ fine
  let offset := match m.offset with
    | none => []
    | some minutes => ["tzinfo=" ++ offsetLiteral minutes]
  "datetime.datetime(" ++ commaSeparated (parts.map (fun part => toString part) ++ offset) ++ ")"

end Moment

namespace Scalar

/-- The written form of a scalar. -/
def literal : Scalar → String
  | .null => "None"
  | .bool true => "True"
  | .bool false => "False"
  | .int n => toString n
  | .float x => Double.plainLayout.text x
  | .text s => Text.quotedString s
  | .date d => d.literal
  | .moment m => m.literal

/-- The text of a scalar. -/
def toText : Scalar → String
  | .text s => s
  | .date d => d.text
  | .moment m => m.text
  | other => other.literal

/-- Whether a scalar has no integer of too many digits. -/
def isWritable : Scalar → Bool
  | .int n => Numeral.isWritable n
  | _ => true

end Scalar

namespace Raw

mutual

/-- The written form of a value. -/
def literal : Raw → String
  | .scalar s => s.literal
  | .list items => "[" ++ commaSeparated (itemLiterals items) ++ "]"
  | .mapping entries => "\x7b" ++ commaSeparated (entryLiterals entries) ++ "\x7d"

/-- The written forms of the items of a list. -/
def itemLiterals : List Raw → List String
  | [] => []
  | item :: rest => item.literal :: itemLiterals rest

/-- The written forms of the entries of a mapping. -/
def entryLiterals : List (Scalar × Raw) → List String
  | [] => []
  | (key, value) :: rest => (key.literal ++ ": " ++ value.literal) :: entryLiterals rest

end

/-- The text of a value. -/
def toText : Raw → String
  | .scalar s => s.toText
  | other => other.literal

mutual

/-- Whether no integer in a value has too many digits. -/
def isWritable : Raw → Bool
  | .scalar s => s.isWritable
  | .list items => areWritable items
  | .mapping entries => entriesWritable entries

/-- Whether all items of a list are writable. -/
def areWritable : List Raw → Bool
  | [] => true
  | item :: rest => item.isWritable && areWritable rest

/-- Whether all entries of a mapping are writable, with their keys. -/
def entriesWritable : List (Scalar × Raw) → Bool
  | [] => true
  | (key, value) :: rest => key.isWritable && value.isWritable && entriesWritable rest

end

/-- A value written as a text. -/
def written (value : Raw) : Except WritingFault String :=
  if value.isWritable then .ok value.toText else .error .tooManyDigits

end Raw

end ParameterDrift
