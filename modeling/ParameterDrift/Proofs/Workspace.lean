import ParameterDrift.Loading
import ParameterDrift.Proofs.Outcome
/-! # Documents of a workspace

A file that holds an encoded text is read as that text, and its document is the mapping that the
reader of the workspace makes of the text.
-/

namespace ParameterDrift.Workspace

variable {workspace : Workspace} {path : String} {entries : List (Scalar × Raw)}

/-- A text that is encoded in a file is read again. -/
theorem text_of_find {text : String} (found : workspace.find? path = some (.file text.toUTF8)) :
    workspace.text path = .ok text.toList := by
  have decoded : String.fromUTF8? text.toUTF8 = some text := dif_pos text.isValidUTF8
  simp only [Workspace.text, found, decoded]

/-- A document is a mapping that the text of a file stands for. -/
theorem document_eq_ok_iff : workspace.document path = .ok entries ↔
    ∃ text, workspace.text path = .ok text ∧ workspace.read text = .ok (.mapping entries) := by
  rw [document, Outcome.bind_eq_ok_iff]
  refine exists_congr fun text => ?_
  rw [Outcome.mapError_eq_ok_iff, Outcome.bind_eq_ok_iff]
  refine and_congr_right fun _ => ?_
  constructor
  · intro given
    obtain ⟨value, read, mapping⟩ := given
    rw [Outcome.mapError_eq_ok_iff] at read mapping
    rw [read]
    cases value with
    | scalar s => cases mapping
    | list items => cases mapping
    | mapping others => rw [Except.ok.inj mapping]
  · intro read
    exact ⟨.mapping entries, by rw [read]; rfl, rfl⟩

end ParameterDrift.Workspace
