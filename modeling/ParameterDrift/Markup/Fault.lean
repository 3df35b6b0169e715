import ParameterDrift.Number.Numeral
/-! # Faults of markup

A text may fail to be a document in its form: characters, tokens or nodes stand where they must
not. Or it has the form of a document and holds a value that does not exist, such as the thirtieth
of February.
-/

namespace ParameterDrift.Markup

/-- What is wrong with the form of a text. -/
inductive FormFault
  /-- A character that no document may hold. -/
  | unprintable
  /-- A character that starts no token. -/
  | noToken
  /-- An entry, a key or a value where none is allowed. -/
  | misplaced
  /-- A key that must be followed by a colon and is not. -/
  | keyWithoutColon
  | directive
  | anchorName
  | tag
  | blockHeader
  /-- A quote that is not closed. -/
  | openQuote
  /-- A mark between documents within quotes. -/
  | separatorInQuotes
  | escape
  /-- A token where the grammar has another. -/
  | unexpectedToken
  /-- A version of the markup language that is not supported. -/
  | version
  /-- A tag whose handle is not declared. -/
  | undeclaredHandle
  /-- An alias of a node that is not complete, or of none. -/
  | undefinedAlias
  | repeatedAnchor
  /-- More than one document. -/
  | secondDocument
  /-- A tag that stands for no kind of value. -/
  | unknownTag
  /-- A node of a kind that its tag does not admit of. -/
  | otherKind
  /-- Something merged that is no mapping. -/
  | merge
  /-- A key that is a list or a mapping. -/
  | compositeKey
  deriving DecidableEq, Repr

/-- What is wrong with a value of a document. -/
inductive ValueFault
  /-- The text of a number is none. -/
  | numeral (fault : NumeralFault)
  /-- The text of a truth value is none. -/
  | truthWord
  /-- The text of a date or time is none. -/
  | notMoment
  /-- A date or time that the calendar does not have. -/
  | offCalendar
  /-- An escape of a code point beyond the last. -/
  | codePoint
  deriving DecidableEq, Repr

/-- Why a text is not read as a document. -/
inductive Fault
  | form (fault : FormFault)
  | value (fault : ValueFault)
  deriving DecidableEq, Repr

end ParameterDrift.Markup
