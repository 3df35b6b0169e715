import ParameterDrift.Proofs.Reconciliation.Passes
import ParameterDrift.Proofs.TypeName
/-! # Which declared types are accepted

What the first pass says about a parameter does not depend on the parameters around it
(`ParameterDrift.Context.Adds`). A documented parameter is accepted exactly when its declared type
fits the schema of the first entry that documents it, and any other declared type is reported once,
as a mismatch (`ParameterDrift.Context.fits_or_reported_once`). The format of a schema counts for a
scalar and not for the items of an array, so an array is checked as its items are, except for
floating-point numbers (`ParameterDrift.Context.accepts_array_iff_accepts_item`).
-/

namespace ParameterDrift.Context

open ParameterDrift.TypeName

variable {context : Context} {spec spec' : List ContractParameter} {components : Components}
  {own : ImplementedParameter} {documented documented' : ContractParameter}
  {about others : List Finding}

/-- **The findings that a parameter adds** to the first pass, wherever it stands among others. -/
def Adds (context : Context) (spec : List ContractParameter) (components : Components)
    (own : ImplementedParameter) (about : List Finding) : Prop :=
  ∀ before after : List ImplementedParameter,
    (context.checkImplemented spec components (before ++ own :: after)).map Report.findings = do
      let earlier ← context.checkImplemented spec components before
      let later ← context.checkImplemented spec components after
      return earlier.findings ++ about ++ later.findings

/-- The first pass accepts a parameter when it says nothing about it. -/
def Accepts (context : Context) (spec : List ContractParameter) (components : Components)
    (own : ImplementedParameter) : Prop :=
  context.Adds spec components own []

/-! ### One parameter of the pass -/

/-- There is one thing that a parameter adds to a report. -/
theorem adds_unique (adds : context.Adds spec components own about)
    (also : context.Adds spec components own others) : about = others := by
  have alone := (adds [] []).symm.trans (also [] [])
  simpa [checkImplemented, bind, Except.bind, pure, Except.pure] using alone

/-- What the first pass says about a documented parameter depends on the types alone. -/
theorem judge_of_firstDocumented (first : FirstDocumented components own.name spec documented) :
    context.judge spec components own =
      .ok ((mismatch? documented.schema own.declaredType).map (context.mismatchFinding own)) := by
  rw [judge, found_search_eq_some_iff.mpr first]
  rfl

/-- A judgement that is made adds its finding. -/
theorem adds_of_judge {outcome : Option Finding}
    (judged : context.judge spec components own = .ok outcome) :
    context.Adds spec components own outcome.toList := by
  intro before after
  simp only [checkImplemented_eq, List.mapM_append, List.mapM_cons, judged]
  cases before.mapM (context.judge spec components) with
  | error fault => rfl
  | ok earlier =>
    cases after.mapM (context.judge spec components) with
    | error fault => rfl
    | ok later =>
      simp [Except.map, bind, Except.bind, pure, Except.pure]

/-- A documented parameter adds its mismatch, if there is one. -/
theorem adds_of_firstDocumented (context : Context)
    (first : FirstDocumented components own.name spec documented) :
    context.Adds spec components own
      ((mismatch? documented.schema own.declaredType).map (context.mismatchFinding own)).toList :=
  adds_of_judge (judge_of_firstDocumented first)

/-- A documented parameter is accepted when its declared type fits. -/
theorem accepts_iff_fits (first : FirstDocumented components own.name spec documented) :
    context.Accepts spec components own ↔ Fits documented.schema own.declaredType := by
  rw [← mismatch?_eq_none_iff]
  constructor
  · intro accepts
    have nothing := adds_unique (adds_of_firstDocumented context first) accepts
    simpa using nothing
  · intro matching
    have adds := adds_of_firstDocumented context first
    rwa [matching] at adds

/-! ### Which types are accepted -/

/-- **Exactly the fitting types are accepted.** Whatever the parameters around it, nothing is said
about a documented parameter whose declared type fits the schema, and one mismatch about any other:
when there is no schema, or no type for it, or none that stands for it, when it is an array of
arrays, when the mark of an array stands elsewhere than behind the type of the items, and when a
path segment is of an unsupported kind. -/
theorem fits_or_reported_once (context : Context) (own : ImplementedParameter)
    (first : FirstDocumented components own.name spec documented) :
    (context.Accepts spec components own ↔ Fits documented.schema own.declaredType) ∧
      (¬ Fits documented.schema own.declaredType → ∃ contractType : String,
        context.Adds spec components own
          [{ kind := .typeMismatch
             severity := context.severity
             location := some own.location
             arguments :=
              [contractType, own.declaredType, own.name, context.method, context.path] }]) ∧
        (Misfits documented.schema own.declaredType →
          ¬ Fits documented.schema own.declaredType) := by
  refine ⟨accepts_iff_fits first, ?_, not_fits_of_misfits⟩
  intro differs
  rw [← mismatch?_eq_none_iff] at differs
  obtain ⟨contractType, found⟩ := Option.ne_none_iff_exists'.mp differs
  have adds := adds_of_firstDocumented context first
  rw [found] at adds
  exact ⟨contractType, adds⟩

/-- The entries of an operation: a reference that leads nowhere, one to a component, and a second
parameter of the same name. -/
def tagSpec : List ContractParameter :=
  [{ ref := some "#/components/parameters/gone" }, { ref := some "#/components/parameters/ids" },
    { name := some "ids", schema := some { type := some "string" } }]

/-- The list of numbers that the entries refer to. -/
def tagIds : ContractParameter where
  name := some "ids"
  location := some "query"
  schema := some
    { type := some "array"
      items := some { type := some "integer", format := some "int64" } }

/-- A number of the same form alone. -/
def tagId : ContractParameter where
  name := some "id"
  location := some "path"
  schema := some { type := some "integer", format := some "int64" }

/-- The list of tags is documented by its entry. -/
theorem firstDocumented_tagIds : FirstDocumented [("ids", tagIds)] "ids" tagSpec tagIds := by
  rw [← found_search_eq_some_iff]
  decide +kernel

/-- A list of lists is reported where a list is documented. -/
theorem fits_or_reported_once_tagIds :
    FirstDocumented [("ids", tagIds)] "ids" tagSpec tagIds ∧
      Misfits tagIds.schema "int[][]" ∧
        ∃ contractType : String,
          ({ method := "get", path := "/tags" } : Context).Adds tagSpec [("ids", tagIds)]
            { name := "ids", declaredType := "int[][]", form := .required }
            [{ kind := .typeMismatch
               severity := .error
               location := some {}
               arguments := [contractType, "int[][]", "ids", "get", "/tags"] }] := by
  have misfits : Misfits tagIds.schema "int[][]" := by
    refine .markedElsewhere ⟨['i', 'n', 't'], ['[', ']'], rfl⟩ ?_
    intro host standing
    have isInt : some "int" = some host := Schema.host?_ofSchema_iff.mpr standing
    cases isInt
    decide
  obtain ⟨_, reported, unfit⟩ := fits_or_reported_once { method := "get", path := "/tags" }
    { name := "ids", declaredType := "int[][]", form := .required } firstDocumented_tagIds
  exact ⟨firstDocumented_tagIds, misfits, reported (unfit misfits)⟩

/-! ### Arrays and their items -/

/-- **Arrays are checked item by item, except for floating-point numbers.** An array of a type is
accepted for an array schema exactly when the type is accepted for the schema of the items, with
one exception: for floating-point items the array schema accepts `decimal[]` and no other array,
whereas the schema of the items alone accepts `float` and no other type. -/
theorem accepts_array_iff_accepts_item (context : Context) {schema items : Schema}
    {own ofItem : ImplementedParameter} (scalar : items.type ≠ some TypeName.array)
    (unmarked : ¬ ['[', ']'] <:+: ofItem.declaredType.toList)
    (marked : own.declaredType = ofItem.declaredType ++ arrayMark)
    (first : FirstDocumented components own.name spec documented)
    (listed : documented.schema = some schema) (array : schema.type = some TypeName.array)
    (held : schema.items = some items)
    (first' : FirstDocumented components ofItem.name spec' documented')
    (single : documented'.schema = some items) :
    ((context.Accepts spec components own ↔ context.Accepts spec' components ofItem) ↔
      ¬ (IsFloat items ∧ (ofItem.declaredType = "float" ∨ ofItem.declaredType = "decimal"))) ∧
    (IsFloat items →
      (context.Accepts spec components own ↔ ofItem.declaredType = "decimal") ∧
      (context.Accepts spec' components ofItem ↔ ofItem.declaredType = "float")) := by
  have plain : isArray ofItem.declaredType = false := by
    rw [Bool.eq_false_iff, isArray, Ne, holdsArrayMark_iff]
    exact unmarked
  rw [accepts_iff_fits first, listed, marked, fits_array_iff array held, accepts_iff_fits first',
    single, fits_iff_of_unmarked plain]
  have floats (float : IsFloat items) :
      ((∃ type, items.type = some type ∧ host? type = some ofItem.declaredType) ↔
        ofItem.declaredType = "decimal") ∧
      (items.HasHostType ofItem.declaredType ↔ ofItem.declaredType = "float") := by
    refine ⟨?_, hasHostType_iff_of_isFloat float⟩
    rw [float.1]
    constructor
    · intro given
      obtain ⟨type, ⟨⟩, found⟩ := given
      exact (Option.some.inj found).symm
    · intro same
      exact ⟨"number", rfl, by rw [same]; rfl⟩
  refine ⟨?_, floats⟩
  by_cases float : IsFloat items
  · rw [(floats float).1, (floats float).2]
    constructor
    · rintro agree ⟨_, isFloat | isDecimal⟩
      · exact absurd (isFloat.symm.trans (agree.mpr isFloat)) (by decide)
      · exact absurd (isDecimal.symm.trans (agree.mp isDecimal)) (by decide)
    · intro neither
      exact iff_of_false (fun isDecimal => neither ⟨float, .inr isDecimal⟩)
        fun isFloat => neither ⟨float, .inl isFloat⟩
  · rw [hasHostType_iff_of_not_isFloat scalar float]
    exact iff_of_true Iff.rfl fun exception => float exception.1

/-- A scale that is documented as a floating-point number. -/
def scaleFloat : ContractParameter where
  name := some "scale"
  schema := some { type := some "number", format := some "float" }

/-- Scales that are documented as a list of floating-point numbers. -/
def scaleFloats : ContractParameter where
  name := some "scale"
  schema := some
    { type := some "array"
      items := some { type := some "number", format := some "float" } }

/-- Scales that are implemented as a list of decimals. -/
def decimalScales : ImplementedParameter where
  name := "scale"
  declaredType := "decimal[]"
  form := .required

/-- A scale that is implemented as a decimal. -/
def decimalScale : ImplementedParameter where
  name := "scale"
  declaredType := "decimal"
  form := .required

/-- The scale is documented by its entry. -/
theorem firstDocumented_scaleFloat : FirstDocumented [] "scale" [scaleFloat] scaleFloat := by
  rw [← found_search_eq_some_iff]
  decide +kernel

/-- The list of scales is documented by its entry. -/
theorem firstDocumented_scaleFloats : FirstDocumented [] "scale" [scaleFloats] scaleFloats := by
  rw [← found_search_eq_some_iff]
  decide +kernel

/-- A list of numbers is accepted where a list of integers is documented, since a number is where
an integer is. Of floating-point numbers a list of decimals is accepted, and a decimal is not. -/
theorem accepts_array_iff_accepts_item_tagIds :
    FirstDocumented [("ids", tagIds)] "ids" tagSpec tagIds ∧
      FirstDocumented [("ids", tagIds)] "id" [tagId] tagId ∧ ¬ ['[', ']'] <:+: "int".toList ∧
        (({ method := "get", path := "/tags" } : Context).Accepts tagSpec [("ids", tagIds)]
            { name := "ids", declaredType := "int[]", form := .required } ↔
          ({ method := "get", path := "/tags" } : Context).Accepts [tagId] [("ids", tagIds)]
            { name := "id", declaredType := "int", form := .required }) ∧
        ({ method := "get", path := "/" } : Context).Accepts [scaleFloats] [] decimalScales ∧
        ¬ ({ method := "get", path := "/" } : Context).Accepts [scaleFloat] [] decimalScale := by
  have single : FirstDocumented [("ids", tagIds)] "id" [tagId] tagId := by
    rw [← found_search_eq_some_iff]
    decide +kernel
  have unmarked : ¬ ['[', ']'] <:+: "int".toList := by decide
  have scalar : (some "integer" : Option String) ≠ some TypeName.array := by decide
  refine ⟨firstDocumented_tagIds, single, unmarked, ?_, ?_⟩
  · apply (accepts_array_iff_accepts_item { method := "get", path := "/tags" } scalar unmarked rfl
      firstDocumented_tagIds rfl rfl rfl single rfl).1.mpr
    rintro ⟨⟨number, _⟩, _⟩
    exact absurd number (by decide)
  · have number : (some "number" : Option String) ≠ some TypeName.array := by decide
    have unmarkedDecimal : ¬ ['[', ']'] <:+: decimalScale.declaredType.toList := by
      decide +kernel
    have marked : decimalScales.declaredType = decimalScale.declaredType ++ arrayMark := by
      decide +kernel
    obtain ⟨ofList, ofItem⟩ := (accepts_array_iff_accepts_item { method := "get", path := "/" }
      number unmarkedDecimal marked firstDocumented_scaleFloats rfl rfl rfl
      firstDocumented_scaleFloat rfl).2 ⟨rfl, .inl rfl⟩
    exact ⟨ofList.mpr rfl, fun accepted => absurd (ofItem.mp accepted) (by decide)⟩

/-- A float is accepted for the schema of a float, a list of floats not for a list of it. -/
theorem not_accepts_scaleFloats :
    ({ method := "get", path := "/" } : Context).Accepts [scaleFloat] []
        { name := "scale", declaredType := "float", form := .required } ∧
      ¬ ({ method := "get", path := "/" } : Context).Accepts [scaleFloats] []
        { name := "scale", declaredType := "float[]", form := .required } := by
  rw [accepts_iff_fits firstDocumented_scaleFloat, accepts_iff_fits firstDocumented_scaleFloats,
    ← mismatch?_eq_none_iff, ← mismatch?_eq_none_iff]
  decide +kernel

end ParameterDrift.Context
