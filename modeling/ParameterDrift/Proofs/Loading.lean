import ParameterDrift.CommandLine
import ParameterDrift.Proofs.Contract.Readable
import ParameterDrift.Proofs.Workspace
/-! # How loading fails

A loader has failures of its own, which name the document or the settings, and the command line
tells them in a line. Any other failure ends the run where it arises. Such a failure comes from a
file that is no UTF-8 or holds a value that does not exist; from a contract that is not readable;
from a manifest that is misshapen, because a list in it has no elements or a text in it is not
writable; or from settings under a name that is no text
(`ParameterDrift.load_fails_otherwise_iff`). All this is said for any reader of the text of files.
-/

namespace ParameterDrift

/-! ### Failures -/

namespace Failure

/-- Whether a failure is about a document and names it. -/
def isOfDocument : Failure → Bool
  | .document .. => true
  | _ => false

/-- Whether a failure is about settings and names them. -/
def isOfSettings : Failure → Bool
  | .settings .. => true
  | _ => false

/-- The command line tells a failure in a line when it names a document or settings. -/
theorem told_iff (failure : Failure) :
    (CommandLine.Outcome.ofFailure failure).failure = none ↔
      failure.isOfDocument = true ∨ failure.isOfSettings = true := by
  cases failure with
  | _ => simp [CommandLine.Outcome.ofFailure, isOfDocument, isOfSettings]

end Failure

/-! ### Files -/

namespace Workspace

/-- A file whose bytes are no text, or in whose text the reader finds a value that does not
exist. -/
def Unread (workspace : Workspace) (path : String) : Prop :=
  workspace.text path = .error .encoding ∨
    ∃ text fault, workspace.text path = .ok text ∧ workspace.read text = .error (.value fault)

variable {workspace : Workspace} {path : String}

/-- What is made of the value that a file holds fails otherwise than by its own failures when the
file is not read, or when that is what is made of the value. -/
theorem exists_reading_failure_iff {α : Type} {ofFile : FileFault → Failure}
    {ofMarkup : Markup.Fault → Failure} {next : Raw → Except Failure α} {own : Failure → Bool}
    (absent : own (ofFile .absent) = true) (encoding : own (ofFile .encoding) = false)
    (form : ∀ fault, own (ofMarkup (.form fault)) = true)
    (value : ∀ fault, own (ofMarkup (.value fault)) = false) :
    (∃ failure, (do
        let text ← (workspace.text path).mapError ofFile
        let value ← (workspace.read text).mapError ofMarkup
        next value) = .error failure ∧ own failure = false) ↔
      workspace.Unread path ∨ ∃ text value, workspace.text path = .ok text ∧
        workspace.read text = .ok value ∧ ∃ failure, next value = .error failure ∧
          own failure = false := by
  rw [Unread]
  cases workspace.text path with
  | error fault =>
    cases fault with
    | absent => simp [Except.mapError, bind, Except.bind, absent]
    | encoding => simp [Except.mapError, bind, Except.bind, encoding]
  | ok text =>
    cases read : workspace.read text with
    | error fault =>
      cases fault with
      | form fault => simp [Except.mapError, bind, Except.bind, read, form]
      | value fault => simp [Except.mapError, bind, Except.bind, read, value]
    | ok value => simp [Except.mapError, bind, Except.bind, read]

/-- A document fails otherwise than by a failure of documents when its file is not read. -/
theorem exists_document_failure_iff :
    (∃ failure, workspace.document path = .error failure ∧ failure.isOfDocument = false) ↔
      workspace.Unread path := by
  refine (exists_reading_failure_iff rfl rfl (fun _ => rfl) fun _ => rfl).trans
    (or_iff_left ?_)
  rintro ⟨text, value, _, _, failure, asked, other⟩
  obtain ⟨fault, _, rfl⟩ := Outcome.mapError_eq_error_iff.mp asked
  cases other

end Workspace

/-! ### Contracts -/

namespace Contract

/-- A document that says that it is a contract. -/
def IsMarked (document : List (Scalar × Raw)) : Prop :=
  ∃ mark ∈ marks, (Raw.lookup mark document).isSome

/-- Loading a contract fails otherwise when its file cannot be read, or when it is marked as a
contract and not readable as one. -/
theorem exists_load_failure_iff {workspace : Workspace} {path : String} :
    (∃ failure, load workspace path = .error failure ∧ failure.isOfDocument = false) ↔
      workspace.Unread (Path.shown path) ∨
        ∃ document, workspace.document (Path.shown path) = .ok document ∧ IsMarked document ∧
          ¬ IsReadable document := by
  rw [load, Outcome.exists_bind_eq_error_iff, Workspace.exists_document_failure_iff]
  refine or_congr_right (exists_congr fun document => and_congr_right fun _ => ?_)
  rw [IsMarked, ← List.any_eq_true, ← exists_ofEntries_iff, ← Outcome.exists_eq_error_iff]
  split
  · next marked =>
    simp only [Outcome.mapError_eq_error_iff]
    constructor
    · rintro ⟨_, ⟨fault, failed, rfl⟩, _⟩
      exact ⟨marked, fault, failed⟩
    · rintro ⟨_, fault, failed⟩
      exact ⟨.contract fault, ⟨fault, failed, rfl⟩, rfl⟩
  · next unmarked =>
    constructor
    · rintro ⟨_, failed, other⟩
      cases failed
      cases other
    · rintro ⟨marked, _⟩
      exact absurd marked unmarked

end Contract

/-! ### Manifests -/

/-- The parameters of a resource can be gathered when they have elements and each mapping among
these tells its file, if it tells one, by a writable value. -/
def Resource.ParametersGatherable (entries : List (Scalar × Raw)) : Prop :=
  ∀ listed, Raw.lookupTruthy "parameters" entries = some listed →
    ∃ elements, listed.elements = .ok elements ∧ ∀ element ∈ elements,
      ∀ fields, element = .mapping fields → Raw.Field "file" Raw.IsWritable fields

/-- A resource whose location and those of whose parameters can be gathered. -/
def Resource.IsGatherable (resource : Raw) : Prop :=
  ∃ entries, resource = .mapping entries ∧ Raw.Field "file" Raw.IsWritable entries ∧
    ParametersGatherable entries

/-- A document whose source is not writable; or that lists its resources in what has no elements, or
in which the first resource that cannot be gathered is a mapping; or whose name is not writable
although all its resources can be gathered. -/
inductive Manifest.IsMisshapen (document : List (Scalar × Raw)) : Prop
  | source {source : Raw} : Raw.lookupTruthy "source" document = some source →
      ¬ source.IsWritable → IsMisshapen document
  | listing {listed : Raw} : Raw.lookupTruthy "resources" document = some listed →
      ¬ listed.IsIterable → IsMisshapen document
  | resource {listed resource : Raw} {before after : List Raw} :
      Raw.lookupTruthy "resources" document = some listed →
      listed.elements = .ok (before ++ resource :: after) →
      (∀ earlier ∈ before, Resource.IsGatherable earlier) → resource.IsMapping →
      ¬ Resource.IsGatherable resource → IsMisshapen document
  | name {name : Raw} : Raw.lookup "name" document = some name → ¬ name.IsWritable →
      (∀ listed, Raw.lookupTruthy "resources" document = some listed →
        ∃ elements, listed.elements = .ok elements ∧
          ∀ resource ∈ elements, Resource.IsGatherable resource) → IsMisshapen document

/-- A fault of a manifest that is not told as a failure of the document: a shape or a text. -/
def ManifestFault.EndsRun (fault : ManifestFault) : Prop :=
  (∃ shape, fault = .shape shape) ∨ ∃ writing, fault = .text writing

namespace Manifest

open Outcome (FailsBy failsBy_ok failsBy_mapError)

variable {source : String} {element resource : Raw} {document entries : List (Scalar × Raw)}

/-! #### Texts -/

/-- A text is there when no value is given or the given value is writable. -/
theorem exists_textOr_iff {default : String} {given : Option Raw} :
    (∃ text, textOr default given = .ok text) ↔ ∀ value, given = some value → value.IsWritable := by
  cases given with
  | none => exact Outcome.exists_default_iff
  | some value =>
    simp only [textOr, Outcome.mapError_eq_ok_iff, Raw.exists_written_iff, Raw.IsWritable,
      Option.some.injEq, forall_eq']

/-- Reading a text with a default fails only by faults that end the run. -/
theorem failsBy_textOr (default : String) (given : Option Raw) :
    FailsBy ManifestFault.EndsRun (textOr default given) := by
  cases given with
  | none => exact failsBy_ok default
  | some value => exact failsBy_mapError (fun fault => .inr ⟨fault, rfl⟩) _

/-- A text is missing when the given value is not writable. -/
theorem exists_textOr_fault_iff {default : String} {given : Option Raw} :
    (∃ fault, textOr default given = .error fault ∧ fault.EndsRun) ↔
      ∃ value, given = some value ∧ ¬ value.IsWritable := by
  rw [(failsBy_textOr default given).exists_error_iff, exists_textOr_iff]
  simp only [not_forall, exists_prop]

/-- A location is made when its file can be written as a text. -/
theorem exists_locationOf_iff :
    (∃ location, locationOf source entries = .ok location) ↔
      Raw.Field "file" Raw.IsWritable entries := by
  simp only [locationOf, Outcome.exists_bind_eq_ok_iff, exists_eq', Except.ok.injEq, and_true,
    exists_textOr_iff, Raw.Field]

/-- Making a location fails only by faults that end the run. -/
theorem failsBy_locationOf (source : String) (entries : List (Scalar × Raw)) :
    FailsBy ManifestFault.EndsRun (locationOf source entries) :=
  (failsBy_textOr source _).bind fun _ => failsBy_ok _

/-! #### Gathering -/

/-- What is listed can be gone through when it has elements and each of them satisfies a condition;
when nothing is listed there is nothing to go through. -/
theorem exists_elements_iff {given : Option Raw} {reading : Except ShapeFault (List Raw)}
    {holds : Raw → Prop} (absent : given = none → reading = .ok [])
    (present : ∀ listed, given = some listed → reading = listed.elements) :
    (∃ elements, reading = .ok elements ∧ ∀ element ∈ elements, holds element) ↔
      ∀ listed, given = some listed → ∃ elements, listed.elements = .ok elements ∧
        ∀ element ∈ elements, holds element := by
  cases given with
  | none =>
    rw [absent rfl]
    exact iff_of_true ⟨[], rfl, fun _ member => absurd member List.not_mem_nil⟩ (by rintro _ ⟨⟩)
  | some listed =>
    rw [present listed rfl]
    simp only [Option.some.injEq, forall_eq']

/-- A parameter is gathered unless it is a mapping whose file is not writable. -/
theorem exists_gatherParameter_iff :
    (∃ gathered, gatherParameter source element = .ok gathered) ↔
      ∀ fields, element = .mapping fields → Raw.Field "file" Raw.IsWritable fields := by
  cases element with
  | mapping fields =>
    simp only [gatherParameter, Outcome.exists_bind_eq_ok_iff, Except.ok.injEq, exists_eq',
      and_true, exists_locationOf_iff, Raw.mapping.injEq, forall_eq']
  | _ => exact iff_of_true ⟨_, rfl⟩ (by rintro _ ⟨⟩)

/-- Gathering a parameter fails only by faults that end the run. -/
theorem failsBy_gatherParameter (source : String) (element : Raw) :
    FailsBy ManifestFault.EndsRun (gatherParameter source element) := by
  cases element with
  | mapping fields => exact (failsBy_locationOf source fields).bind fun _ => failsBy_ok _
  | _ => exact failsBy_ok _

/-- The parameters of a resource are gathered when their list is one and each can be. -/
theorem exists_gatherParameters_iff :
    (∃ listed, (listedParameters entries).mapError ManifestFault.shape = .ok listed ∧
        ∃ gathered, listed.mapM (gatherParameter source) = .ok gathered) ↔
      Resource.ParametersGatherable entries := by
  simp only [Outcome.mapError_eq_ok_iff, Outcome.exists_mapM_eq_ok_iff, exists_gatherParameter_iff]
  exact exists_elements_iff (fun absent => by rw [listedParameters, absent])
    fun listed found => by rw [listedParameters, found]

/-- A resource is gathered when its parameters and its own fields can be. -/
theorem exists_gatherResource_iff :
    (∃ gathered, gatherResource source resource = .ok gathered) ↔
      Resource.IsGatherable resource := by
  cases resource with
  | mapping entries =>
    simp only [gatherResource, Outcome.exists_bind_eq_ok_iff, Except.ok.injEq, exists_eq', and_true,
      exists_gatherParameters_iff, exists_and_right, exists_locationOf_iff, Resource.IsGatherable,
      Raw.mapping.injEq, exists_eq_left']
  | _ => exact iff_of_false (by rintro ⟨_, ⟨⟩⟩) (by rintro ⟨_, ⟨⟩, _⟩)

/-- A resource ends the run when it is a mapping that cannot be gathered. -/
theorem exists_gatherResource_fault_iff :
    (∃ fault, gatherResource source resource = .error fault ∧ fault.EndsRun) ↔
      resource.IsMapping ∧ ¬ Resource.IsGatherable resource := by
  cases resource with
  | mapping entries =>
    have fails : FailsBy ManifestFault.EndsRun (gatherResource source (.mapping entries)) :=
      (failsBy_locationOf source entries).bind fun _ =>
        (failsBy_mapError (fun fault => .inl ⟨fault, rfl⟩) _).bind fun listed =>
          (FailsBy.mapM (failsBy_gatherParameter source) listed).bind fun _ => failsBy_ok _
    rw [fails.exists_error_iff, exists_gatherResource_iff]
    exact (and_iff_right ⟨entries, rfl⟩).symm
  | _ =>
    refine iff_of_false ?_ (by rintro ⟨⟨_, ⟨⟩⟩, _⟩)
    rintro ⟨_, ⟨⟩, ⟨_, ⟨⟩⟩ | ⟨_, ⟨⟩⟩⟩

/-- Gathering some resources ends the run when the first that cannot be gathered does. -/
theorem exists_gatherResources_fault_iff {values : List Raw} :
    (∃ fault, values.mapM (gatherResource source) = .error fault ∧ fault.EndsRun) ↔
      ∃ before resource after, values = before ++ resource :: after ∧
        (∀ earlier ∈ before, Resource.IsGatherable earlier) ∧ resource.IsMapping ∧
          ¬ Resource.IsGatherable resource := by
  simp only [Outcome.mapM_eq_error_iff, exists_gatherResource_iff]
  constructor
  · rintro ⟨fault, ⟨before, resource, after, split, gathered, failed⟩, ends⟩
    exact ⟨before, resource, after, split, gathered,
      exists_gatherResource_fault_iff.mp ⟨fault, failed, ends⟩⟩
  · rintro ⟨before, resource, after, split, gathered, misshapen⟩
    obtain ⟨fault, failed, ends⟩ := exists_gatherResource_fault_iff.mpr misshapen
    exact ⟨fault, ⟨before, resource, after, split, gathered, failed⟩, ends⟩

/-! #### Documents -/

/-- The resources of a document cannot be listed when they stand in what has no elements. -/
theorem exists_listing_fault_iff :
    (∃ fault, (listedResources document).mapError ManifestFault.shape = .error fault ∧
        fault.EndsRun) ↔
      ∃ listed, Raw.lookupTruthy "resources" document = some listed ∧ ¬ listed.IsIterable := by
  rw [(failsBy_mapError (fun fault => .inl ⟨fault, rfl⟩) _).exists_error_iff, listedResources]
  cases Raw.lookupTruthy "resources" document with
  | none => exact iff_of_false (not_not_intro ⟨[], rfl⟩) (by rintro ⟨_, ⟨⟩, _⟩)
  | some listed =>
    simp only [Outcome.mapError_eq_ok_iff, Option.some.injEq, exists_eq_left', Raw.IsIterable]

/-- The checks that follow the gathering find issues; they do not end the run. -/
theorem not_endsRun_of_check {checked : Checked Manifest} {fault : ManifestFault}
    (failed : checked.toExcept.mapError ManifestFault.invalid = .error fault) : ¬ fault.EndsRun := by
  obtain ⟨_, _, rfl⟩ := Outcome.mapError_eq_error_iff.mp failed
  rintro (⟨_, ⟨⟩⟩ | ⟨_, ⟨⟩⟩)

/-- Whether all resources of a document are gathered, whatever their source. -/
theorem exists_gatherResources_iff :
    (∃ listed, (listedResources document).mapError ManifestFault.shape = .ok listed ∧
        ∃ gathered, listed.mapM (gatherResource source) = .ok gathered) ↔
      ∀ listed, Raw.lookupTruthy "resources" document = some listed →
        ∃ elements, listed.elements = .ok elements ∧
          ∀ resource ∈ elements, Resource.IsGatherable resource := by
  simp only [Outcome.mapError_eq_ok_iff, Outcome.exists_mapM_eq_ok_iff, exists_gatherResource_iff]
  exact exists_elements_iff (fun absent => by rw [listedResources, absent])
    fun listed found => by rw [listedResources, found]

/-- The first resource that cannot be gathered ends the run when it is a mapping. -/
theorem exists_resource_fault_iff :
    (∃ listed, (listedResources document).mapError ManifestFault.shape = .ok listed ∧
        ∃ fault, listed.mapM (gatherResource source) = .error fault ∧ fault.EndsRun) ↔
      ∃ listed before resource after, Raw.lookupTruthy "resources" document = some listed ∧
        listed.elements = .ok (before ++ resource :: after) ∧
        (∀ earlier ∈ before, Resource.IsGatherable earlier) ∧ resource.IsMapping ∧
          ¬ Resource.IsGatherable resource := by
  simp only [Outcome.mapError_eq_ok_iff, exists_gatherResources_fault_iff]
  rw [listedResources]
  cases Raw.lookupTruthy "resources" document with
  | none =>
    refine iff_of_false ?_ (by rintro ⟨_, _, _, _, ⟨⟩, _⟩)
    rintro ⟨_, empty, before, _, _, split, _⟩
    cases empty
    cases before with
    | _ => cases split
  | some listed =>
    constructor
    · rintro ⟨_, elements, before, resource, after, rfl, misshapen⟩
      exact ⟨listed, before, resource, after, rfl, elements, misshapen⟩
    · rintro ⟨_, before, resource, after, ⟨⟩, elements, misshapen⟩
      exact ⟨_, elements, before, resource, after, rfl, misshapen⟩

/-- Reading a document ends the run exactly when it is misshapen. -/
theorem exists_ofEntries_fault_iff (path : String) :
    (∃ fault, ofEntries path document = .error fault ∧ fault.EndsRun) ↔ IsMisshapen document := by
  have checks (name source : String) (resources : List Raw) :
      ¬ ∃ fault, ((check (.ofFields [("name", .text name), ("source", .text source),
        ("resources", .list resources)])).toExcept.mapError ManifestFault.invalid) =
          .error fault ∧ fault.EndsRun :=
    fun ⟨_, failed, ends⟩ => not_endsRun_of_check failed ends
  simp only [ofEntries, sourceOf, Outcome.exists_bind_eq_error_iff, exists_textOr_fault_iff,
    exists_listing_fault_iff, checks, and_false, exists_false, or_false, and_or_left, exists_or,
    exists_resource_fault_iff]
  constructor
  · rintro (⟨source, told, long⟩ | ⟨source, _, listed, found, noElements⟩ |
      ⟨source, _, listed, before, resource, after, found, elements, earlier, mapping, misshapen⟩ |
      ⟨source, _, listed, isListed, gathered, allGathered, name, told, long⟩)
    · exact .source told long
    · exact .listing found noElements
    · exact .resource found elements earlier mapping misshapen
    · exact .name told long (exists_gatherResources_iff.mp ⟨listed, isListed, gathered, allGathered⟩)
  · intro misshapen
    -- a source that is not writable comes first
    by_cases sourced : ∃ source, textOr path (Raw.lookupTruthy "source" document) = .ok source
    · obtain ⟨text, isSource⟩ := sourced
      cases misshapen with
      | source told long => exact absurd (exists_textOr_iff.mp ⟨text, isSource⟩ _ told) long
      | listing found noElements => exact .inr (.inl ⟨text, isSource, _, found, noElements⟩)
      | resource found elements earlier mapping misshapen =>
        exact .inr (.inr (.inl ⟨text, isSource, _, _, _, _, found, elements, earlier, mapping,
          misshapen⟩))
      | name told long all =>
        obtain ⟨listed, isListed, gathered, allGathered⟩ := exists_gatherResources_iff.mpr all
        exact .inr (.inr (.inr ⟨text, isSource, listed, isListed, gathered, allGathered, _, told,
          long⟩))
    · exact .inl (exists_textOr_fault_iff.mp
        ((failsBy_textOr path _).exists_error_iff.mpr sourced))

/-- Loading a manifest fails otherwise when its file cannot be read or is misshapen. -/
theorem exists_load_failure_iff {workspace : Workspace} {path : String} :
    (∃ failure, load workspace path = .error failure ∧ failure.isOfDocument = false) ↔
      workspace.Unread (Path.shown path) ∨
        ∃ document, workspace.document (Path.shown path) = .ok document ∧
          IsMisshapen document := by
  rw [load, Outcome.exists_bind_eq_error_iff, Workspace.exists_document_failure_iff]
  refine or_congr_right (exists_congr fun document => and_congr_right fun _ => ?_)
  rw [← exists_ofEntries_fault_iff (Path.shown path)]
  simp only [Outcome.mapError_eq_error_iff]
  constructor
  · rintro ⟨_, ⟨fault, failed, rfl⟩, other⟩
    refine ⟨fault, failed, ?_⟩
    cases fault with
    | shape fault => exact .inl ⟨fault, rfl⟩
    | text fault => exact .inr ⟨fault, rfl⟩
    | _ => cases other
  · rintro ⟨_, failed, ⟨fault, rfl⟩ | ⟨fault, rfl⟩⟩
    · exact ⟨.shape fault, ⟨.shape fault, failed, rfl⟩, rfl⟩
    · exact ⟨.writing fault, ⟨.text fault, failed, rfl⟩, rfl⟩

end Manifest

/-! ### Settings -/

namespace Settings

/-- The file that settings are read from, if there is one: the named one, or else the one in the
working directory. -/
def file? (workspace : Workspace) : Option String → Option String
  | some path => some (Path.shown path)
  | none => if workspace.holds defaultFile then some defaultFile else none

/-- Entries of which one has a name that is no text. -/
def IsMisnamed (entries : List (Scalar × Raw)) : Prop :=
  ∃ entry ∈ entries, ∀ name, entry.1 ≠ .text name

theorem any_not_text_iff {entries : List (Scalar × Raw)} :
    (entries.any fun (key, _) => match key with
      | .text _ => false
      | _ => true) = true ↔ IsMisnamed entries := by
  rw [List.any_eq_true, IsMisnamed]
  refine exists_congr fun entry => and_congr_right fun _ => ?_
  obtain ⟨key, value⟩ := entry
  cases key with
  | text name => simp
  | _ => simp

/-- A mapping is read as settings unless one of its names is no text. -/
theorem ofRaw_mapping (path : String) (entries : List (Scalar × Raw)) :
    ofRaw path (.mapping entries) =
      if entries.any fun (key, _) => match key with
          | .text _ => false
          | _ => true then
        .error (.shape .settingNotText)
      else (check (.mapping entries)).toExcept.mapError fun issues =>
        .settings path (.invalid issues) := by
  cases entries with
  | nil => rfl
  | cons entry rest => rfl

/-- Settings fail otherwise when a mapping has a name that is no text. -/
theorem exists_ofRaw_failure_iff {path : String} {value : Raw} :
    (∃ failure, ofRaw path value = .error failure ∧ failure.isOfSettings = false) ↔
      ∃ entries, value = .mapping entries ∧ IsMisnamed entries := by
  have mapping (entries : List (Scalar × Raw)) :
      (∃ failure, ofRaw path (.mapping entries) = .error failure ∧ failure.isOfSettings = false) ↔
        IsMisnamed entries := by
    rw [ofRaw_mapping, ← any_not_text_iff]
    split
    · next misnamed => exact ⟨fun _ => misnamed, fun _ => ⟨_, rfl, rfl⟩⟩
    · next named =>
      refine ⟨?_, fun misnamed => absurd misnamed named⟩
      rintro ⟨_, failed, other⟩
      obtain ⟨issues, _, rfl⟩ := Outcome.mapError_eq_error_iff.mp failed
      cases other
  by_cases isMapping : value.IsMapping
  · obtain ⟨entries, rfl⟩ := isMapping
    simp only [mapping, Raw.mapping.injEq, exists_eq_left']
  · refine iff_of_false ?_ fun ⟨entries, same, _⟩ => isMapping ⟨entries, same⟩
    rintro ⟨failure, failed, other⟩
    by_cases truthy : value.isTruthy = true
    · have refused : ofRaw path value = .error (.settings path .notMapping) := by
        cases value with
        | mapping entries => exact absurd ⟨entries, rfl⟩ isMapping
        | _ => simp only [ofRaw, truthy, ↓reduceIte]; rfl
      rw [refused] at failed
      cases failed
      cases other
    · have replaced : ofRaw path value = ofRaw path (.mapping []) := by
        simp only [ofRaw, truthy]; rfl
      rw [replaced] at failed
      obtain ⟨_, member, _⟩ := (mapping []).mp ⟨failure, failed, other⟩
      exact absurd member List.not_mem_nil

/-- The settings in a file fail otherwise when it cannot be read or is misnamed. -/
theorem exists_loadFile_failure_iff {workspace : Workspace} {path shown : String} :
    (∃ failure, loadFile workspace path shown = .error failure ∧ failure.isOfSettings = false) ↔
      workspace.Unread path ∨
        ∃ document, workspace.document path = .ok document ∧ IsMisnamed document := by
  refine (Workspace.exists_reading_failure_iff rfl rfl (fun _ => rfl) fun _ => rfl).trans
    (or_congr_right ?_)
  simp only [exists_ofRaw_failure_iff, Workspace.document_eq_ok_iff]
  constructor
  · rintro ⟨text, _, held, read, document, rfl, misnamed⟩
    exact ⟨document, ⟨text, held, read⟩, misnamed⟩
  · rintro ⟨document, ⟨text, held, read⟩, misnamed⟩
    exact ⟨text, .mapping document, held, read, document, rfl, misnamed⟩

/-- Loading settings fails otherwise when there is a file of them that cannot be read or is
misnamed. -/
theorem exists_load_failure_iff {workspace : Workspace} {path : Option String} :
    (∃ failure, load workspace path = .error failure ∧ failure.isOfSettings = false) ↔
      ∃ file, file? workspace path = some file ∧ (workspace.Unread file ∨
        ∃ document, workspace.document file = .ok document ∧ IsMisnamed document) := by
  cases path with
  | some path =>
    simp only [load, file?, exists_loadFile_failure_iff, Option.some.injEq, exists_eq_left']
  | none =>
    rw [load, file?]
    split
    · simp only [exists_loadFile_failure_iff, Option.some.injEq, exists_eq_left']
    · exact iff_of_false (by rintro ⟨_, ⟨⟩, _⟩) (by rintro ⟨_, ⟨⟩, _⟩)

end Settings

/-! ### Together -/

/-- **Failures that loaders do not have of their own**, and where they come from. Whatever the reader
of the workspace is, they come from a file that is not read; from a contract that is not readable;
from a manifest that is misshapen; and from settings under a name that is no text. The other
failures are told in a line by the command line, these are not. -/
theorem load_fails_otherwise_iff (workspace : Workspace) (path : String)
    (settings : Option String) :
    ((∃ failure, Contract.load workspace path = .error failure ∧ failure.isOfDocument = false) ↔
      workspace.Unread (Path.shown path) ∨
        ∃ document, workspace.document (Path.shown path) = .ok document ∧
          Contract.IsMarked document ∧ ¬ Contract.IsReadable document) ∧
    ((∃ failure, Manifest.load workspace path = .error failure ∧ failure.isOfDocument = false) ↔
      workspace.Unread (Path.shown path) ∨
        ∃ document, workspace.document (Path.shown path) = .ok document ∧
          Manifest.IsMisshapen document) ∧
    ((∃ failure, Settings.load workspace settings = .error failure ∧
        failure.isOfSettings = false) ↔
      ∃ file, Settings.file? workspace settings = some file ∧ (workspace.Unread file ∨
        ∃ document, workspace.document file = .ok document ∧ Settings.IsMisnamed document)) ∧
    ∀ failure, (CommandLine.Outcome.ofFailure failure).failure = none ↔
      failure.isOfDocument = true ∨ failure.isOfSettings = true :=
  ⟨Contract.exists_load_failure_iff, Manifest.exists_load_failure_iff,
    Settings.exists_load_failure_iff, Failure.told_iff⟩

/-- The workspace in which one file, under the name `f`, holds a text. -/
def Workspace.holding (text : String) : Workspace where
  root := "/"
  contents := [("f", .file text.toUTF8)]

/-- A workspace with such a file, for whose text the reader yields a mapping. -/
def Workspace.yielding (fields : List (String × Raw)) : Workspace :=
  { Workspace.holding "" with read := fun _ => .ok (.ofFields fields) }

/-- Contracts whose information is a list or with a summary that is a number, a manifest whose
resources are a number, and settings under a number fail otherwise. So do a contract whose title and
a manifest whose name is an integer of too many digits. -/
theorem load_failures_otherwise :
    Contract.load (.holding "swagger: 2\ninfo: [1]") "f" =
        .error (.contract (.shape .notMapping)) ∧
      Contract.load (.holding "swagger: 2\npaths:\n /:\n  get:\n   summary: 5") "f" =
        .error (.contract (.invalid .operation [⟨.notText, [.name "summary"]⟩])) ∧
      Manifest.load (.holding "resources: 5") "f" = .error (.shape .notIterable) ∧
      Settings.load (.holding "1: 2") (some "f") = .error (.shape .settingNotText) ∧
      Contract.load (.yielding
          [("swagger", .int 2),
            ("info", .ofFields [("title", .int Numeral.firstUnwritten)])]) "f" =
        .error (.contract (.text .tooManyDigits)) ∧
      Manifest.load (.yielding [("name", .int Numeral.firstUnwritten)]) "f" =
        .error (.writing .tooManyDigits) := by
  decide +kernel

end ParameterDrift
