import ParameterDrift.Failure
import ParameterDrift.Settings
/-! # Loading documents

Contracts, manifests and settings are loaded from the files of a workspace. Each loader reads the
markup of a file, asks for a mapping, and gives the mapping its meaning.
-/

namespace ParameterDrift

/-- The entries of the mapping that a file holds. -/
def Workspace.document (workspace : Workspace) (path : String) :
    Except Failure (List (Scalar × Raw)) := do
  let text ← (workspace.text path).mapError fun
    | .absent => .document path .unreadable
    | .encoding => .encoding
  let value ← (workspace.read text).mapError fun
    | .form fault => .document path (.malformed fault)
    | .value fault => .value fault
  value.entries?.mapError fun _ => .document path .notMapping

namespace Contract

/-- The names of which a contract has one at its top. -/
def marks : List String := ["openapi", "swagger"]

/-- Load the contract at a path. -/
def load (workspace : Workspace) (path : String) : Except Failure Contract := do
  let path := Path.shown path
  let document ← workspace.document path
  if marks.any fun mark => (Raw.lookup mark document).isSome then
    (ofEntries document).mapError .contract
  else .error (.document path .notContract)

/-- The event of loading a contract from a path. -/
def loadEvent (contract : Contract) (path : String) : Log.Event :=
  .contractLoaded (Path.shown path) contract.operations.length contract.components.length

end Contract

namespace Manifest

/-- Load the manifest at a path. -/
def load (workspace : Workspace) (path : String) : Except Failure Manifest := do
  let path := Path.shown path
  let document ← workspace.document path
  (ofEntries path document).mapError fun
    | .shape fault => .shape fault
    | .text fault => .writing fault
    | .resourceNotMapping => .document path .resourceNotMapping
    | .invalid issues => .document path (.invalid issues)

/-- The event of loading a manifest from a path. -/
def loadEvent (manifest : Manifest) (path : String) : Log.Event :=
  .manifestLoaded (Path.shown path) manifest.resources.length

end Manifest

namespace Settings

/-- The file in the working directory whose settings hold when no other is named. -/
def defaultFile : String := ".param-check.yaml"

/-- Settings from the value that a file holds. A value that counts as absent holds none. -/
def ofRaw (path : String) (value : Raw) : Except Failure Settings := do
  let value := if value.isTruthy then value else .mapping []
  let entries ← value.entries?.mapError fun _ => .settings path .notMapping
  if entries.any fun (key, _) => match key with
      | .text _ => false
      | _ => true then
    .error (.shape .settingNotText)
  else (check (.mapping entries)).toExcept.mapError fun issues => .settings path (.invalid issues)

/-- Settings from the file at `path`, which messages call `shown`. -/
def loadFile (workspace : Workspace) (path shown : String) : Except Failure Settings := do
  let text ← (workspace.text path).mapError fun
    | .absent => .settings shown .unreadable
    | .encoding => .encoding
  let value ← (workspace.read text).mapError fun
    | .form fault => .settings shown (.malformed fault)
    | .value fault => .value fault
  ofRaw shown value

/-- Load the settings at a path. Without a path those of the working directory hold, or else the
default settings. -/
def load (workspace : Workspace) : Option String → Except Failure Settings
  | some path => loadFile workspace (Path.shown path) (Path.shown path)
  | none =>
    if workspace.holds defaultFile then
      loadFile workspace defaultFile (workspace.root ++ "/" ++ defaultFile)
    else .ok {}

end Settings

end ParameterDrift
