import ParameterDrift.Markup
import ParameterDrift.Text.Segments
/-! # The workspace

What a run can read: files and directories, known by their paths from the working directory, and
how the text of a file is read. Paths are shown in their shortest spelling, without empty segments
and without single dots.
-/

namespace ParameterDrift

/-- What lies at a path. -/
inductive Content
  | file (bytes : ByteArray)
  | directory

namespace Path

/-- The single dot, the path of the working directory. -/
def here : String := "."

/-- The segments of a path that count. -/
def steps (path : String) : List (List Char) :=
  (Text.pieces path.toList).filter fun segment => !segment.isEmpty && segment != ['.']

/-- What the shortest spelling of a path starts with: the slashes of an absolute path, of which two
are kept and three or more count as one. -/
def root (path : String) : List Char :=
  match path.toList with
  | '/' :: '/' :: '/' :: _ => ['/']
  | '/' :: '/' :: _ => ['/', '/']
  | '/' :: _ => ['/']
  | _ => []

/-- The shortest spelling of a path. -/
def shown (path : String) : String :=
  let spelled := root path ++ ['/'].intercalate (steps path)
  if spelled.isEmpty then here else String.ofList spelled

/-- Whether a path can only lead to a directory because of its end. -/
def endsInDirectory (path : String) : Bool :=
  match (Text.pieces path.toList).reverse with
  | last :: _ :: _ => last.isEmpty || last == ['.']
  | _ => false

/-- Whether a path leads to a directory around the working directory, or to that itself. -/
def isAround (path : String) : Bool :=
  (steps path).all fun segment => segment == ['.', '.']

end Path

/-- Files and directories by the shortest spelling of their paths. `root` is the path of the
working directory. What the text of a file stands for is told by a reader. It yields a finite value
or a fault, and any such reader may take the place of the one for markup, which has no values for
binary data, sets and the like, and reads two halves of a surrogate pair as their character and a
half alone as U+FFFD. -/
structure Workspace where
  root : String
  contents : List (String × Content)
  read : List Char → Except Markup.Fault Raw := Markup.read

namespace Workspace

/-- What lies at a path. -/
def find? (workspace : Workspace) (path : String) : Option Content :=
  if path = "" then none
  else if Path.isAround path then some .directory
  else match workspace.contents.lookup (Path.shown path) with
    | some (.file bytes) => if Path.endsInDirectory path then none else some (.file bytes)
    | other => other

/-- Whether something lies at a path. -/
def holds (workspace : Workspace) (path : String) : Bool :=
  (workspace.find? path).isSome

end Workspace

/-- Why the text of a file is not there. -/
inductive FileFault
  /-- No file lies at the path. -/
  | absent
  /-- The file does not hold UTF-8. -/
  | encoding
  deriving DecidableEq, Repr

/-- The text of the file at a path. -/
def Workspace.text (workspace : Workspace) (path : String) : Except FileFault (List Char) :=
  match workspace.find? path with
  | some (.file bytes) =>
    match String.fromUTF8? bytes with
    | some text => .ok text.toList
    | none => .error .encoding
  | _ => .error .absent

end ParameterDrift
