import EntityCodegen.Event
import EntityCodegen.Files.Access
import EntityCodegen.Project.Error

/-!
# Writing generated files

A file is written only where it is missing or differs from its new text. A list of files is written
in order up to the first failure; the files before it stay written.
-/

namespace EntityCodegen

/-- How a file stands to the text that it should hold. -/
inductive FileStatus where
  | upToDate
  | stale
  | missing
  deriving DecidableEq, Repr

/-- What became of a file that was to be written. -/
inductive WriteResult where
  | written (path : Path) (bytes : Nat)
  | unchanged (path : Path)
  /-- Nothing was to be written; the text is only shown. -/
  | previewed (path : Path) (content : String)
  deriving DecidableEq, Repr

namespace WriteResult

def path : WriteResult → Path
  | written path _ | unchanged path | previewed path _ => path

def wasWritten : WriteResult → Bool
  | written .. => true
  | unchanged _ | previewed .. => false

def bytes : WriteResult → Nat
  | written _ bytes => bytes
  | unchanged _ | previewed .. => 0

def events : WriteResult → List Event
  | written path bytes => [.fileWritten path.text bytes]
  | unchanged path => [.fileUnchanged path.text]
  | previewed .. => []

end WriteResult

/-- How files stand to their texts: the statuses before the first file that cannot be read, and why
it cannot. -/
structure Comparison where
  statuses : List (Path × FileStatus)
  failure : Option Fault
  deriving DecidableEq, Repr

/-- The number of files that are missing or stale. -/
def Comparison.outdated (comparison : Comparison) : Nat :=
  comparison.statuses.countP fun file => file.2 != .upToDate

/-- What a list of writes leaves: the tree, the results before the first failure, and that
failure. -/
structure Batch where
  tree : FileTree
  results : List WriteResult
  failure : Option ProjectError

namespace FileTree

/-- How the file at a path stands to a text. -/
def compare (tree : FileTree) (path : Path) (text : String) : Except Fault FileStatus :=
  if !tree.hasFile path then .ok .missing
  else do
    let existing ← tree.readText path
    return if existing = text then .upToDate else .stale

def compareAll (tree : FileTree) : List (Path × String) → Comparison
  | [] => ⟨[], none⟩
  | (path, text) :: rest =>
    match tree.compare path text with
    | .error fault => ⟨[], some fault⟩
    | .ok status =>
      let comparison := tree.compareAll rest
      { comparison with statuses := (path, status) :: comparison.statuses }

/-- Makes the directory that a file is to be in, if it is missing. -/
def prepareParent (tree : FileTree) (path : Path) : FileTree × Except WriteError Unit :=
  match path.parent? with
  | none => (tree, .ok ())
  | some parent =>
    if tree.has parent then (tree, .ok ())
    else
      let (grown, made) := tree.createDirectories parent
      (grown, made.mapError (.directory parent))

/-- Brings a file to a text, in the directory that is made for it. -/
def replaceFile (tree : FileTree) (path : Path) (text : String) :
    FileTree × Except WriteError WriteResult :=
  match tree.prepareParent path with
  | (grown, .error error) => (grown, .error error)
  | (grown, .ok ()) =>
    match grown.writeFile path text.toUTF8 with
    | .error fault => (grown, .error (.file path fault))
    | .ok written => (written, .ok (.written path text.utf8ByteSize))

/-- Brings a file to a text, unless it holds it already. -/
def store (tree : FileTree) (path : Path) (text : String) :
    FileTree × Except ProjectError WriteResult :=
  match tree.compare path text with
  | .error fault => (tree, .error (.access fault))
  | .ok .upToDate => (tree, .ok (.unchanged path))
  | .ok _ =>
    let (written, result) := tree.replaceFile path text
    (written, result.mapError .write)

/-- Brings files to their texts, up to the first failure. -/
def storeAll (tree : FileTree) : List (Path × String) → Batch
  | [] => ⟨tree, [], none⟩
  | (path, text) :: rest =>
    match tree.store path text with
    | (changed, .error error) => ⟨changed, [], some error⟩
    | (changed, .ok result) =>
      let batch := changed.storeAll rest
      { batch with results := result :: batch.results }

def preview (tree : FileTree) (files : List (Path × String)) : Batch :=
  ⟨tree, files.map fun (path, text) => .previewed path text, none⟩

/-- Brings files to their texts, or only shows them. -/
def writeAll (tree : FileTree) (dryRun : Bool) (files : List (Path × String)) : Batch :=
  if dryRun then tree.preview files else tree.storeAll files

end FileTree

end EntityCodegen
