import ParameterDrift.Proofs.Keyed
import ParameterDrift.TypeName
/-! # Declared types that fit a schema

A schema goes by one contract type name, and the service's language has a type for some of these
names. A declared type fits a schema when it is that type, or, where the schema is one of arrays,
that type marked as an array (`ParameterDrift.TypeName.Fits`). The comparison of a declared type
with a schema reports a difference exactly when the type does not fit
(`ParameterDrift.TypeName.mismatch?_eq_none_iff`). It looks for the mark of an array anywhere in the
declared type, and comes to the same because no type of the service's language holds the mark.
-/

namespace ParameterDrift

namespace TypeName

/-- Contract types and the formats that refine them. -/
inductive Refines : String → String → Prop
  | int32 : Refines "integer" "int32"
  | int64 : Refines "integer" "int64"
  | float : Refines "number" "float"
  | double : Refines "number" "double"

end TypeName

namespace Schema

/-- **The contract type name that a schema goes by**: for an array the type of its items, whatever
their format, and otherwise the format that refines its type, or the type itself. -/
inductive GoesBy (schema : Schema) : String → Prop
  | items {items : Schema} {type : String} : schema.type = some TypeName.array →
      schema.items = some items → items.type = some type → GoesBy schema type
  | refined {type format : String} : schema.type = some type → type ≠ TypeName.array →
      schema.format = some format → TypeName.Refines type format → GoesBy schema format
  | plain {type : String} : schema.type = some type → type ≠ TypeName.array →
      (∀ format, schema.format = some format → ¬ TypeName.Refines type format) → GoesBy schema type

/-- The service's language has this type for the type name of a schema. -/
def HasHostType (schema : Schema) (host : String) : Prop :=
  ∃ name, schema.GoesBy name ∧ TypeName.host? name = some host

end Schema

namespace TypeName

/-- **Declared types that fit a schema.** -/
inductive Fits : Option Schema → String → Prop
  | same {schema : Schema} {host : String} : schema.HasHostType host → Fits (some schema) host
  | array {schema : Schema} {host : String} : schema.type = some TypeName.array →
      schema.HasHostType host → Fits (some schema) (host ++ arrayMark)

/-- Ways in which a declared type can fail to fit a schema. -/
inductive Misfits : Option Schema → String → Prop
  | noSchema {declared : String} : Misfits none declared
  | typeless {schema : Schema} {declared : String} : schema.type = none →
      Misfits (some schema) declared
  | itemless {schema : Schema} {declared : String} : schema.type = some TypeName.array →
      schema.itemType? = none → Misfits (some schema) declared
  | unknownType {schema : Schema} {name declared : String} : schema.GoesBy name →
      host? name = none → Misfits (some schema) declared
  | nestedArray {schema : Schema} {declared : String} : schema.type = some TypeName.array →
      schema.itemType? = some TypeName.array → Misfits (some schema) declared
  /-- The mark of an array stands anywhere but behind a type that the schema has. -/
  | markedElsewhere {schema : Schema} {declared : String} : ['[', ']'] <:+: declared.toList →
      (∀ host, schema.HasHostType host → declared ≠ host ++ arrayMark) →
      Misfits (some schema) declared
  | arrayOfScalar {schema : Schema} {type : String} : schema.type ≠ some TypeName.array →
      Misfits (some schema) (type ++ arrayMark)
  | unsupportedSegment {schema : Option Schema} : Misfits schema unmatched

variable {schema : Schema} {given : Option Schema} {type format name host declared : String}
  {text : List Char}

/-! ### The mark of an array -/

theorem holdsArrayMark_iff : holdsArrayMark text = true ↔ ['[', ']'] <:+: text := by
  fun_induction holdsArrayMark text with
  | case1 rest => simpa using (List.prefix_append ['[', ']'] rest).isInfix
  | case2 c rest other ih =>
    rw [ih, List.infix_cons_iff, or_iff_right]
    intro begins
    obtain ⟨after, whole⟩ := begins
    simp only [List.cons_append, List.nil_append, List.cons.injEq] at whole
    exact other after whole.1.symm whole.2.symm
  | case3 => simp

theorem isArray_append_arrayMark (type : String) : isArray (type ++ arrayMark) = true := by
  rw [isArray, holdsArrayMark_iff, String.toList_append]
  exact (List.suffix_append type.toList arrayMark.toList).isInfix

/-! ### Types of the service's language -/

/-- No type of the service's language holds the mark of an array. -/
theorem isArray_of_host? (found : host? name = some host) : isArray host = false := by
  have each : ∀ entry ∈ hostTypes, isArray entry.2 = false := by decide
  exact each (name, host) (Keyed.mem_of_lookup found)

theorem ne_unmatched_of_host? (found : host? name = some host) : host ≠ unmatched := by
  have each : ∀ entry ∈ hostTypes, entry.2 ≠ unmatched := by decide
  exact each (name, host) (Keyed.mem_of_lookup found)

theorem host?_unknown : host? unknown = none :=
  rfl

theorem host?_empty : host? "" = none :=
  rfl

/-! ### The type name of a schema -/

/-- The table holds exactly the formats that refine a type. -/
theorem contains_refinements_iff :
    ((refinements.lookup type).getD []).contains format = true ↔ Refines type format := by
  constructor
  · intro contained
    by_cases integer : type = "integer"
    · subst integer
      have listed : format = "int32" ∨ format = "int64" := by
        simpa [refinements, List.lookup_cons] using contained
      rcases listed with rfl | rfl
      · exact .int32
      · exact .int64
    · by_cases number : type = "number"
      · subst number
        have listed : format = "float" ∨ format = "double" := by
          simpa [refinements, List.lookup_cons] using contained
        rcases listed with rfl | rfl
        · exact .float
        · exact .double
      · have unlisted : refinements.lookup type = none := by
          simp [refinements, List.lookup_eq_none_iff, integer, number]
        simp [unlisted] at contained
  · intro refines
    cases refines <;> decide

end TypeName

namespace Schema

open ParameterDrift.TypeName

variable {schema : Schema} {name host : String}

/-- An array goes by the type of its items. -/
theorem goesBy_iff_of_array (array : schema.type = some TypeName.array) :
    schema.GoesBy name ↔ schema.itemType? = some name := by
  rw [itemType?, Option.bind_eq_some_iff]
  constructor
  · intro named
    cases named with
    | items _ held typed => exact ⟨_, held, typed⟩
    | refined typed scalar =>
      rw [array] at typed
      exact absurd (Option.some.inj typed).symm scalar
    | plain typed scalar =>
      rw [array] at typed
      exact absurd (Option.some.inj typed).symm scalar
  · intro given
    obtain ⟨items, held, typed⟩ := given
    exact .items array held typed

/-- Anything else goes by its own type with its format. -/
theorem goesBy_iff_of_scalar (scalar : schema.type ≠ some TypeName.array) :
    schema.GoesBy name ↔ schema.type.isSome ∧ schema.refinedType = name := by
  constructor
  · intro named
    cases named with
    | items array => exact absurd array scalar
    | @refined type format typed _ formatted refines =>
      have listed := contains_refinements_iff.mpr refines
      simp only [typed, refinedType, formatted, listed, Option.isSome_some, ↓reduceIte, and_self]
    | @plain _ typed _ unrefined =>
      refine ⟨by rw [typed]; rfl, ?_⟩
      cases formatted : schema.format with
      | none => simp only [refinedType, typed, formatted]
      | some format =>
        have unlisted := mt contains_refinements_iff.mp (unrefined format formatted)
        simp only [refinedType, typed, formatted, if_neg unlisted]
  · intro given
    obtain ⟨present, rfl⟩ := given
    obtain ⟨type, typed⟩ := Option.isSome_iff_exists.mp present
    have plainType : type ≠ TypeName.array := by
      rintro rfl
      exact scalar typed
    cases formatted : schema.format with
    | none =>
      simp only [refinedType, typed, formatted]
      exact .plain typed plainType fun format also => by rw [formatted] at also; cases also
    | some format =>
      by_cases refines : Refines type format
      · simp only [refinedType, typed, formatted, if_pos (contains_refinements_iff.mpr refines)]
        exact .refined typed plainType formatted refines
      · simp only [refinedType, typed, formatted, if_neg (mt contains_refinements_iff.mp refines)]
        refine .plain typed plainType fun other also => ?_
        rw [formatted] at also
        exact Option.some.inj also ▸ refines

/-- A schema is one of an array when its type says so. -/
theorem isArray_iff : schema.isArray = true ↔ schema.type = some TypeName.array :=
  beq_iff_eq

/-- A schema goes by one name at most. -/
theorem goesBy_unique {other : String} (named : schema.GoesBy name) (also : schema.GoesBy other) :
    name = other := by
  by_cases array : schema.type = some TypeName.array
  · rw [goesBy_iff_of_array array] at named also
    exact Option.some.inj (named.symm.trans also)
  · rw [goesBy_iff_of_scalar array] at named also
    exact named.2.symm.trans also.2

/-- The type that is found for a schema is the one for its type name. -/
theorem host?_ofSchema_iff :
    host? (ofSchema (some schema)) = some host ↔ schema.HasHostType host := by
  by_cases array : schema.type = some TypeName.array
  · simp only [HasHostType, goesBy_iff_of_array array, ofSchema, if_pos (isArray_iff.mpr array)]
    cases item : schema.itemType? with
    | none => simp [host?_unknown]
    | some type =>
      -- an empty item type counts as none, and no type stands for either
      by_cases empty : type = ""
      · simp [empty, host?_unknown, host?_empty]
      · simp [empty]
  · simp only [HasHostType, goesBy_iff_of_scalar array, ofSchema, if_neg (mt isArray_iff.mp array)]
    cases typed : schema.type with
    | none => simp [refinedType, typed, host?_unknown]
    | some type => simp

end Schema

namespace TypeName

variable {schema : Schema} {given : Option Schema} {host declared : String}

/-! ### The comparison -/

/-- A declared type fits a schema with the host type, or the array of it for an array. -/
theorem fits_some_iff :
    Fits (some schema) declared ↔
      ∃ host, schema.HasHostType host ∧
        (declared = host ∨ schema.type = some TypeName.array ∧ declared = host ++ arrayMark) := by
  constructor
  · intro fits
    cases fits with
    | same standing => exact ⟨_, standing, .inl rfl⟩
    | array items standing => exact ⟨_, standing, .inr ⟨items, rfl⟩⟩
  · intro given
    obtain ⟨host, standing, rfl | ⟨array, rfl⟩⟩ := given
    · exact .same standing
    · exact .array array standing

/-- **The comparison decides whether a type fits.** -/
theorem mismatch?_eq_none_iff : mismatch? given declared = none ↔ Fits given declared := by
  cases given with
  | none =>
    constructor
    · intro found
      simp [mismatch?, ofSchema, host?_unknown] at found
    · intro fits
      cases fits
  | some schema =>
    rw [fits_some_iff]
    simp only [← Schema.host?_ofSchema_iff]
    cases found : host? (ofSchema (some schema)) with
    | none => simp [mismatch?, found]
    | some host =>
      have unmarked := isArray_of_host? found
      have marked := isArray_append_arrayMark host
      simp only [mismatch?, found, isArraySchema, Option.some.injEq, exists_eq_left',
        ← Schema.isArray_iff]
      by_cases plain : declared = host
      · subst plain
        simp [unmarked]
      · by_cases whole : declared = host ++ arrayMark
        · subst whole
          simp [marked, plain, Ne.symm plain]
        · -- neither form: one of the two tests reports it, whether it is marked or not
          cases listed : isArray declared with
          | false => simp [plain, whole, Ne.symm plain]
          | true => simp [plain, whole]

/-! ### Types that do not fit -/

theorem isArray_of_hasHostType (standing : schema.HasHostType host) : isArray host = false := by
  obtain ⟨name, _, found⟩ := standing
  exact isArray_of_host? found

theorem ne_unmatched_of_hasHostType (standing : schema.HasHostType host) : host ≠ unmatched := by
  obtain ⟨name, _, found⟩ := standing
  exact ne_unmatched_of_host? found

/-- Without a type that stands for the schema nothing fits it. -/
theorem not_fits_of_forall_not_hasHostType (none? : ∀ host, ¬ schema.HasHostType host) :
    ¬ Fits (some schema) declared := by
  rw [fits_some_iff]
  intro fits
  obtain ⟨host, standing, _⟩ := fits
  exact none? host standing

/-- Under an unknown name there is no host type. -/
theorem not_hasHostType_of_goesBy {name : String} (named : schema.GoesBy name)
    (unknown : host? name = none) : ¬ schema.HasHostType host := by
  intro standing
  obtain ⟨other, also, found⟩ := standing
  rw [Schema.goesBy_unique also named, unknown] at found
  cases found

/-- Without a type there is no host type. -/
theorem not_hasHostType_of_typeless (typeless : schema.type = none) :
    ¬ schema.HasHostType host := by
  intro standing
  obtain ⟨name, named, _⟩ := standing
  have scalar : schema.type ≠ some TypeName.array := by
    rw [typeless]
    exact Option.some_ne_none _ |>.symm
  rw [Schema.goesBy_iff_of_scalar scalar, typeless] at named
  cases named.1

/-- For an array without a type of items there is no host type. -/
theorem not_hasHostType_of_itemless (array : schema.type = some TypeName.array)
    (itemless : schema.itemType? = none) : ¬ schema.HasHostType host := by
  intro standing
  obtain ⟨name, named, _⟩ := standing
  rw [Schema.goesBy_iff_of_array array, itemless] at named
  cases named

/-- No declared type fits where one of the named misfits is given. -/
theorem not_fits_of_misfits (misfits : Misfits given declared) : ¬ Fits given declared := by
  cases misfits with
  | noSchema =>
    intro fits
    cases fits
  | typeless typeless =>
    exact not_fits_of_forall_not_hasHostType fun _ => not_hasHostType_of_typeless typeless
  | itemless array itemless =>
    exact not_fits_of_forall_not_hasHostType fun _ => not_hasHostType_of_itemless array itemless
  | unknownType named unknown =>
    exact not_fits_of_forall_not_hasHostType fun _ => not_hasHostType_of_goesBy named unknown
  | nestedArray array nested =>
    have named := (Schema.goesBy_iff_of_array array).mpr nested
    exact not_fits_of_forall_not_hasHostType fun _ => not_hasHostType_of_goesBy named rfl
  | markedElsewhere marked elsewhere =>
    rw [fits_some_iff]
    intro fits
    obtain ⟨host, standing, rfl | ⟨_, whole⟩⟩ := fits
    · have unmarked := isArray_of_hasHostType standing
      rw [isArray, holdsArrayMark_iff.mpr marked] at unmarked
      cases unmarked
    · exact elsewhere host standing whole
  | arrayOfScalar scalar =>
    rw [fits_some_iff]
    intro fits
    obtain ⟨host, standing, rfl | ⟨array, _⟩⟩ := fits
    · have unmarked := isArray_of_hasHostType standing
      rw [isArray_append_arrayMark] at unmarked
      cases unmarked
    · exact scalar array
  | unsupportedSegment =>
    cases given with
    | none =>
      intro fits
      cases fits
    | some schema =>
      rw [fits_some_iff]
      intro fits
      obtain ⟨host, standing, same | ⟨_, whole⟩⟩ := fits
      · exact ne_unmatched_of_hasHostType standing same.symm
      · have marked := isArray_append_arrayMark host
        rw [← whole] at marked
        exact absurd marked (by decide)

/-! ### Items of arrays -/

/-- A number whose format makes it a binary floating-point number. -/
def IsFloat (schema : Schema) : Prop :=
  schema.type = some "number" ∧ (schema.format = some "float" ∨ schema.format = some "double")

variable {items : Schema} {type format : String}

/-- An array of some type fits an array schema when the type stands for the type of the items. -/
theorem fits_array_iff (array : schema.type = some TypeName.array)
    (held : schema.items = some items) :
    Fits (some schema) (declared ++ arrayMark) ↔
      ∃ type, items.type = some type ∧ host? type = some declared := by
  have standing : ∀ host, schema.HasHostType host ↔
      ∃ type, items.type = some type ∧ host? type = some host := by
    intro host
    simp only [Schema.HasHostType, Schema.goesBy_iff_of_array array, Schema.itemType?, held,
      Option.bind_some]
  rw [fits_some_iff, ← standing]
  constructor
  · intro fits
    obtain ⟨host, stands, whole | ⟨_, whole⟩⟩ := fits
    · have unmarked := isArray_of_hasHostType stands
      rw [← whole, isArray_append_arrayMark] at unmarked
      cases unmarked
    · rw [← String.toList_inj, String.toList_append, String.toList_append] at whole
      rwa [String.toList_inj.mp (List.append_cancel_right whole)]
  · intro stands
    exact ⟨declared, stands, .inr ⟨array, rfl⟩⟩

/-- Without an array mark a declared type fits when it is the host type. -/
theorem fits_iff_of_unmarked (unmarked : isArray declared = false) :
    Fits (some schema) declared ↔ schema.HasHostType declared := by
  rw [fits_some_iff]
  constructor
  · intro fits
    obtain ⟨host, standing, rfl | ⟨_, rfl⟩⟩ := fits
    · exact standing
    · rw [isArray_append_arrayMark] at unmarked
      cases unmarked
  · intro standing
    exact ⟨declared, standing, .inl rfl⟩

/-- Of the formats only those of floating-point numbers change the type that stands for a schema. -/
theorem host?_eq_of_not_isFloat (other : ¬ IsFloat schema) (typed : schema.type = some type)
    (formatted : schema.format = some format) (refines : Refines type format) :
    host? format = host? type := by
  cases refines with
  | int32 => rfl
  | int64 => rfl
  | float => exact absurd ⟨typed, .inl formatted⟩ other
  | double => exact absurd ⟨typed, .inr formatted⟩ other

/-- The type that stands for a scalar schema is the one for its type, whatever the format, unless
the schema is one of floating-point numbers. -/
theorem hasHostType_iff_of_not_isFloat (scalar : schema.type ≠ some TypeName.array)
    (other : ¬ IsFloat schema) :
    schema.HasHostType host ↔ ∃ type, schema.type = some type ∧ host? type = some host := by
  constructor
  · intro standing
    obtain ⟨name, named, found⟩ := standing
    cases named with
    | items array => exact absurd array scalar
    | @refined type _ typed _ formatted refines =>
      rw [host?_eq_of_not_isFloat other typed formatted refines] at found
      exact ⟨type, typed, found⟩
    | plain typed => exact ⟨name, typed, found⟩
  · intro given
    obtain ⟨type, typed, found⟩ := given
    have plainType : type ≠ TypeName.array := by
      rintro rfl
      exact scalar typed
    by_cases refined : ∃ format, schema.format = some format ∧ Refines type format
    · obtain ⟨format, formatted, refines⟩ := refined
      exact ⟨format, .refined typed plainType formatted refines,
        (host?_eq_of_not_isFloat other typed formatted refines).trans found⟩
    · exact ⟨type, .plain typed plainType fun format formatted refines =>
        refined ⟨format, formatted, refines⟩, found⟩

/-- A floating-point number goes by its format, and both formats stand for one type. -/
theorem hasHostType_iff_of_isFloat (float : IsFloat schema) :
    schema.HasHostType host ↔ host = "float" := by
  obtain ⟨typed, formatted⟩ := float
  have plainType : "number" ≠ TypeName.array := by decide
  have refined : ∃ format, schema.GoesBy format ∧ host? format = some "float" := by
    rcases formatted with formatted | formatted
    · exact ⟨"float", .refined typed plainType formatted .float, rfl⟩
    · exact ⟨"double", .refined typed plainType formatted .double, rfl⟩
  obtain ⟨format, named, found⟩ := refined
  constructor
  · intro standing
    obtain ⟨name, also, same⟩ := standing
    rw [Schema.goesBy_unique also named, found] at same
    exact (Option.some.inj same).symm
  · rintro rfl
    exact ⟨format, named, found⟩

end TypeName

end ParameterDrift
