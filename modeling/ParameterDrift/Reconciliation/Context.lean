import ParameterDrift.Finding
/-! # The context of a reconciliation

What every finding about one operation is reported against: method, path, severity and the place of
the resource, and the parameter locations that need no implementation. These are kept in lower
case, each once and in the order of their code points.
-/

namespace ParameterDrift

/-- A text put into its place in an increasing list, unless it is there. -/
def insertIncreasing (text : String) : List String → List String
  | [] => [text]
  | first :: rest =>
    if text = first then first :: rest
    else if text < first then text :: first :: rest
    else first :: insertIncreasing text rest

/-- The lower-case forms of some locations, increasing and distinct. -/
def exemptLocations (locations : List String) : List String :=
  locations.foldr (fun location exempt => insertIncreasing (Text.lowerString location) exempt) []

/-- The context of a reconciliation. -/
structure Context where
  method : String
  path : String
  severity : Severity := .error
  /-- The place of the resource, at which missing parameters are reported. -/
  location : Option Location := none
  /-- The parameter locations that need no implementation. -/
  exempt : List String := ["header"]
  deriving DecidableEq, Repr

/-- Whether a parameter needs no implementation because of its location. No location is taken for
the empty one. -/
def Context.isExempt (context : Context) (location : Option String) : Bool :=
  context.exempt.contains (Text.lowerString (location.getD ""))

open Checked

/-- Check a context. -/
def Context.check : Raw → Checked Context :=
  record fun entries =>
    Context.mk <$> field "method" text entries
      <*> field "path" text entries
      <*> fieldOr "severity" .error (named .notInEnumeration Severity.byName) entries
      <*> fieldOr "location" none (nullable Location.check) entries
      <*> (exemptLocations <$>
        fieldOr "exempt_locations" ["header"] (items .notSet text) entries)

/-- Inserting a text adds just the text. -/
theorem mem_insertIncreasing {text other : String} {texts : List String} :
    other ∈ insertIncreasing text texts ↔ other = text ∨ other ∈ texts := by
  induction texts with
  | nil => simp [insertIncreasing]
  | cons first rest ih =>
    simp only [insertIncreasing]
    split
    · subst text
      simp
    · split
      · simp
      · simp [ih, or_left_comm]

/-- A location is exempt when it is the lower-case form of one of those given. -/
theorem mem_exemptLocations {location : String} {locations : List String} :
    location ∈ exemptLocations locations ↔
      ∃ given ∈ locations, Text.lowerString given = location := by
  induction locations with
  | nil => simp [exemptLocations]
  | cons first rest ih =>
    have step : exemptLocations (first :: rest) =
        insertIncreasing (Text.lowerString first) (exemptLocations rest) := rfl
    rw [step, mem_insertIncreasing, ih]
    simp [eq_comm]

end ParameterDrift
