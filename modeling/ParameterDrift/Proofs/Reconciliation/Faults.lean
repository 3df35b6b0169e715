import ParameterDrift.Proofs.Reconciliation.Passes
import ParameterDrift.Proofs.Signature.CodePoint
/-! # When a reconciliation faults

Of all that the two passes do, only showing the path in a finding about an undocumented parameter
can fail, and it fails at a code point beyond the last of Unicode. So a reconciliation returns
exactly when every implemented parameter is documented or the path holds no such code point
(`ParameterDrift.Context.exists_report_iff_documented_or_shown`), and when it does not, the fault is
the one that showing the path meets.
-/

namespace ParameterDrift.Context

variable {context : Context} {spec : List ContractParameter} {components : Components}
  {own : ImplementedParameter}

/-- A documented parameter is judged by types alone, and that does not fail. -/
theorem exists_judge_eq_ok_of_documented (documented : ¬ Undocumented components own.name spec) :
    ∃ finding, context.judge spec components own = .ok finding := by
  rw [judge]
  cases found : (search components own.name spec).found with
  | none => exact absurd (found_search_eq_none_iff.mp found) documented
  | some parameter => exact ⟨_, rfl⟩

/-- An undocumented parameter is judged to be undefined. -/
theorem judge_eq_of_undocumented (undocumented : Undocumented components own.name spec) :
    context.judge spec components own = (context.undefinedFinding own).map some := by
  rw [judge, found_search_eq_none_iff.mpr undocumented, findingFor]

/-- A parameter is judged unless it is undocumented and the path cannot be shown. -/
theorem exists_judge_eq_ok_iff :
    (∃ finding, context.judge spec components own = .ok finding) ↔
      ¬ Undocumented components own.name spec ∨
        ¬ Identifier.HoldsFarCodePoint context.path.toList := by
  by_cases documented : Undocumented components own.name spec
  · rw [judge_eq_of_undocumented documented, Outcome.exists_map_eq_ok_iff, undefinedFinding,
      Outcome.exists_map_eq_ok_iff, DisplayPath.exists_ofString_eq_ok_iff,
      or_iff_right (not_not_intro documented)]
  · exact ⟨fun _ => .inl documented, fun _ => exists_judge_eq_ok_of_documented documented⟩

/-- **When a reconciliation returns.** It does when every implemented parameter is documented or
the path holds no code point beyond the last, and only then: no reference, schema, name or declared
type matters. -/
theorem exists_report_iff_documented_or_shown (context : Context)
    (implemented : List ImplementedParameter) (spec : List ContractParameter)
    (components : Components) :
    (∃ report, context.reconcile implemented spec components = .ok report) ↔
      (∀ own ∈ implemented, ¬ Undocumented components own.name spec) ∨
        ¬ Identifier.HoldsFarCodePoint context.path.toList := by
  rw [reconcile_eq_ok_iff]
  simp only [exists_judge_eq_ok_iff]
  constructor
  · intro each
    -- the path is the same for every parameter, so one question about it decides for all
    by_cases far : Identifier.HoldsFarCodePoint context.path.toList
    · exact .inl fun own member => (each own member).resolve_right (not_not_intro far)
    · exact .inr far
  · rintro (documented | shown) own member
    · exact .inl (documented own member)
    · exact .inr shown

/-- A path whose only segment is the escape of the first code point beyond the last makes the
reconciliation of one undocumented parameter fail. -/
theorem reconcile_eq_error_of_far_path :
    ({ method := "get", path := "/\\u\x7b110000\x7d" } : Context).reconcile
      [{ name := "a", declaredType := "int", form := .required
         location := { file := "service.bal", line := 6 } }] [] {} = .error ⟨0x110000⟩ := by
  decide +kernel

end ParameterDrift.Context
