import ParameterDrift.Proofs.Text.Trimming
import ParameterDrift.Signature.Implemented
/-! # Spellings of declarations

A declaration may be written in several ways that come to the same: a name with a quote in front, a
type with blanks around it or marked as optional, a kind of descriptor in any letter case or with
its end written out. What is compared with a contract is the same for all of them
(`ParameterDrift.Declaration.implemented_of_respelled`).
-/

namespace ParameterDrift

open Text (IsBlankRun SameLetters)

/-- Spellings of a name: as it is, or with a quote in front if it has none. -/
inductive NameSpelling (name : List Char) : List Char → Prop
  | same : NameSpelling name name
  | quoted : name.head? ≠ some '\'' → NameSpelling name ('\'' :: name)

/-- Spellings of a declared type: as it is, or, if it is not marked as optional, with blanks around
it and possibly the mark behind it. -/
inductive TypeSpelling (type : List Char) : List Char → Prop
  | same : TypeSpelling type type
  | padded (before after : List Char) : (Text.trim type).getLast? ≠ some '?' →
      IsBlankRun before → IsBlankRun after → TypeSpelling type (before ++ type ++ after)
  | optional (before between after : List Char) : (Text.trim type).getLast? ≠ some '?' →
      IsBlankRun before → IsBlankRun between → IsBlankRun after →
      TypeSpelling type (before ++ type ++ between ++ ['?'] ++ after)

/-- Spellings of a kind of descriptor: with blanks around it and its ASCII letters in any case, or
without blanks and with its end written out if it was not. -/
inductive KindSpelling (kind : List Char) : List Char → Prop
  | lettered (before letters after : List Char) : SameLetters kind letters →
      IsBlankRun before → IsBlankRun after → KindSpelling kind (before ++ letters ++ after)
  | completed : ¬ TypeName.descriptorEnd <:+ Text.upper (Text.trim kind) →
      KindSpelling kind (Text.trim kind ++ TypeName.descriptorEnd)

/-- Declarations that differ in the spelling of their names, types and kinds only. -/
inductive Declaration.Respelled : Declaration → Declaration → Prop
  | required {name name' type type' : String} {location : Location} :
      NameSpelling name.toList name'.toList → TypeSpelling type.toList type'.toList →
      Respelled (.required name type location) (.required name' type' location)
  | defaultable {name name' type type' : String} {default : Raw} {location : Location} :
      NameSpelling name.toList name'.toList → TypeSpelling type.toList type'.toList →
      Respelled (.defaultable name type default location)
        (.defaultable name' type' default location)
  | path {name name' kind kind' : String} {location : Location} :
      NameSpelling name.toList name'.toList → KindSpelling kind.toList kind'.toList →
      Respelled (.path name kind location) (.path name' kind' location)

variable {name type kind other : List Char}

/-! ### Names -/

/-- Spellings of a name are unescaped alike. -/
theorem unescape_of_nameSpelling (spelled : NameSpelling name other) :
    Identifier.unescape other = Identifier.unescape name := by
  cases spelled with
  | same => rfl
  | quoted unquoted =>
    have kept : Identifier.dropQuote name = name := by
      unfold Identifier.dropQuote
      split
      · exact absurd rfl unquoted
      · rfl
    rw [Identifier.unescape, Identifier.unescape, kept]
    rfl

/-! ### Types -/

namespace TypeName

/-- Nothing is dropped from a type that is not marked as optional, except the blanks around it. -/
theorem dropOptional_of_unmarked (unmarked : (Text.trim type).getLast? ≠ some '?') :
    dropOptional type = Text.trim type := by
  simp only [dropOptional]
  split
  · next before reversed =>
    rw [← List.head?_reverse, reversed] at unmarked
    exact absurd rfl unmarked
  · rfl

/-- One mark of optionality is dropped, with the blanks around it. -/
theorem dropOptional_concat (type : List Char) : dropOptional (type ++ ['?']) = Text.trim type := by
  have marked : Text.trim (type ++ ['?']) = Text.trimStart type ++ ['?'] :=
    Text.trim_concat (by decide)
  simp only [dropOptional, marked, List.reverse_concat, List.reverse_reverse]
  rfl

/-- Types that are trimmed to the same text lose the optional mark alike. -/
theorem dropOptional_congr (same : Text.trim other = Text.trim type) :
    dropOptional other = dropOptional type := by
  unfold dropOptional
  rw [same]

end TypeName

/-- Spellings of a type are one without the optional mark. -/
theorem dropOptional_of_typeSpelling (spelled : TypeSpelling type other) :
    TypeName.dropOptional other = TypeName.dropOptional type := by
  cases spelled with
  | same => rfl
  | padded before after unmarked blankBefore blankAfter =>
    exact TypeName.dropOptional_congr (Text.trim_append_append blankBefore blankAfter)
  | optional before between after unmarked blankBefore blankBetween blankAfter =>
    have nothing : IsBlankRun [] := fun c member => absurd member List.not_mem_nil
    calc TypeName.dropOptional (before ++ type ++ between ++ ['?'] ++ after)
        = TypeName.dropOptional (before ++ type ++ between ++ ['?']) :=
          TypeName.dropOptional_congr (Text.trim_append_append nothing blankAfter)
      _ = Text.trim (before ++ type ++ between) := TypeName.dropOptional_concat _
      _ = Text.trim type := Text.trim_append_append blankBefore blankBetween
      _ = TypeName.dropOptional type := (TypeName.dropOptional_of_unmarked unmarked).symm

/-! ### Kinds of descriptors -/

/-- Spellings of a kind name the same descriptor. -/
theorem descriptorName_of_kindSpelling (spelled : KindSpelling kind other) :
    TypeName.descriptorName other = TypeName.descriptorName kind := by
  cases spelled with
  | lettered before letters after same blankBefore blankAfter =>
    rw [TypeName.descriptorName, Text.trim_append_append blankBefore blankAfter,
      ← Text.upper_trim_eq_of_sameLetters same]
    rfl
  | completed incomplete =>
    have noBlank : TypeName.descriptorEnd.any Text.isBlank = false := by decide +kernel
    have solid : Text.Trimmed TypeName.descriptorEnd :=
      Text.trimmed_of_solid fun c member =>
        Bool.eq_false_iff.mpr (List.any_eq_false.mp noBlank c member)
    have capital : Text.upper TypeName.descriptorEnd = TypeName.descriptorEnd := by
      decide +kernel
    have whole : Text.upper (Text.trim (Text.trim kind ++ TypeName.descriptorEnd)) =
        Text.upper (Text.trim kind) ++ TypeName.descriptorEnd := by
      rw [((Text.trimmed_trim kind).append solid).trim_eq, Text.upper_append, capital]
    have ends : TypeName.descriptorEnd.isSuffixOf
        (Text.upper (Text.trim kind) ++ TypeName.descriptorEnd) = true :=
      List.isSuffixOf_iff_suffix.mpr (List.suffix_append _ _)
    rw [TypeName.descriptorName, whole, if_pos ends, TypeName.descriptorName,
      if_neg fun suffix => incomplete (List.isSuffixOf_iff_suffix.mp suffix)]

/-! ### Declarations -/

namespace Declaration

variable {declaration respelled : Declaration}

/-- **Spellings come to the same.** Declarations that differ in spelling are compared alike, or
cannot be read for the same reason. -/
theorem implemented_of_respelled (spelled : declaration.Respelled respelled) :
    respelled.implemented = declaration.implemented := by
  cases spelled with
  | required names types =>
    simp only [implemented, Declaration.name, Declaration.type, TypeName.stripOptional,
      Identifier.plainName, unescape_of_nameSpelling names, dropOptional_of_typeSpelling types]
    rfl
  | defaultable names types =>
    simp only [implemented, Declaration.name, Declaration.type, TypeName.stripOptional,
      Identifier.plainName, unescape_of_nameSpelling names, dropOptional_of_typeSpelling types]
    rfl
  | path names kinds =>
    simp only [implemented, Declaration.name, Declaration.type, TypeName.ofSegmentKind,
      Identifier.plainName, unescape_of_nameSpelling names, descriptorName_of_kindSpelling kinds]
    rfl

end Declaration

end ParameterDrift
