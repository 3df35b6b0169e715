import ParameterDrift.Log.Event
import ParameterDrift.Raw.Text
import ParameterDrift.Text.Case
/-! # The log

The log shows the events of a run that reach a threshold, each as a line for readers or as a record
of fields. The time of an event is not known here; a mark stands in its place.
-/

namespace ParameterDrift.Log

/-- A name that the table of thresholds holds for something else than a threshold. -/
inductive ThresholdFault
  /-- It stands for a text. -/
  | text
  /-- It stands for a table. -/
  | table
  deriving DecidableEq, Repr

/-- The thresholds by name. -/
def thresholds : List (String × Nat) :=
  [("NOTSET", 0), ("DEBUG", 10), ("INFO", 20), ("WARNING", 30), ("WARN", 30), ("ERROR", 40),
    ("CRITICAL", 50), ("FATAL", 50)]

/-- The threshold for names that stand for none. -/
def defaultThreshold : Nat := 30

/-- The threshold of a name in any letter case. -/
def threshold (name : String) : Except ThresholdFault Nat :=
  let name := Text.upperString name
  if name = "BASIC_FORMAT" then .error .text
  else if name = "_STYLES" then .error .table
  else .ok ((thresholds.lookup name).getD defaultThreshold)

/-- The events that reach a threshold. -/
def shown (threshold : Nat) (events : List Event) : List Event :=
  events.filter fun event => threshold ≤ event.level.rank

/-- A text filled up with spaces. -/
def padded (width : Nat) (text : String) : String :=
  text ++ String.ofList (List.replicate (width - text.length) ' ')

/-- Whether a text must be quoted among fields. -/
def needsQuotes (text : String) : Bool :=
  text.toList.any fun c => [' ', '\t', '=', '\r', '\n', '"', '\''].contains c

/-- The value of a field on a line. -/
def fieldText : Scalar → String
  | .text s => if needsQuotes s then Text.quotedString s else s
  | other => other.literal

/-- The mark in the place of the time. -/
def timeMark : String := "<time>"

/-- The width of the name of a level on a line. -/
def levelWidth : Nat := 9

/-- The width of the name of an event on a line. -/
def eventWidth : Nat := 30

/-- The line of an event. -/
def Event.line (event : Event) : String :=
  " ".intercalate
    ([timeMark, "[" ++ padded levelWidth event.level.name ++ "]", padded eventWidth event.name,
        "[" ++ event.logger ++ "]"] ++
      event.fields.map fun (name, value) => name ++ "=" ++ fieldText value)

/-- The record of an event. -/
def Event.record (event : Event) : Raw :=
  .ofFields
    (event.fields.map (fun (name, value) => (name, .scalar value)) ++
      [("event", .text event.name), ("level", .text event.level.name),
        ("logger", .text event.logger), ("timestamp", .bool true)])

/-- The name of the format in which the log holds records. -/
def recordFormat : String := "json"

/-- An event as the log shows it in some format. -/
def Event.entry (format : String) (event : Event) : Raw :=
  if format = recordFormat then event.record else .text event.line

end ParameterDrift.Log
