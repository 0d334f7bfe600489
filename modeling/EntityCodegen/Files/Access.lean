import EntityCodegen.Files.Tree
import EntityCodegen.Text.Blank

/-!
# Access to files by path

How a path is followed through a tree, and what can be asked, read and written by path. Reading
leaves the tree alone; writing gives a new one.
-/

namespace EntityCodegen

/-!
## Paths

A path is kept as the text that the user gave or that it was joined from, because messages show it
that way. Its segments are the pieces between slashes; empty ones and those that stand for the same
directory do not count, except that a relative path may start with one dot.
-/

structure Path where
  text : String
  deriving DecidableEq, Repr

namespace Path

/-- The pieces between the slashes. -/
def segments (path : Path) : List String :=
  Text.fields '/' path.text

def isAbsolute (path : Path) : Bool :=
  path.text.toList.head? == some '/'

/-- Whether the path ends in a slash, and so can only be a directory's. -/
def endsInSlash (path : Path) : Bool :=
  path.text.toList.getLast? == some '/'

/-- The names on the way, those of the same and of the upper directory included. -/
def names (path : Path) : List String :=
  path.segments.filter fun segment => segment != ""

/-- The path from one place to another: the second alone if it starts at the root, otherwise the
second behind the first, with a slash between where the first has none at its end. -/
def join (base other : Path) : Path :=
  if other.isAbsolute || base.text == "" then other
  else if base.endsInSlash then ⟨base.text ++ other.text⟩
  else ⟨base.text ++ "/" ++ other.text⟩

/-- Whether a segment leaves the path where it is. -/
def isIdle (segment : String) : Bool :=
  segment == "" || segment == "."

def ofSegments (first : String) (rest : List String) : Path :=
  if first = "" ∧ rest = [] then ⟨"/"⟩ else ⟨Text.ofFields '/' (first :: rest)⟩

/-- The directory that the path's last name is in; none for the root and for the empty path. -/
def parent? (path : Path) : Option Path :=
  match path.segments with
  | [] => none
  | first :: rest =>
    match rest.reverse.dropWhile isIdle with
    | _ :: above => some (ofSegments first (above.dropWhile isIdle).reverse)
    | [] => if first = "" then none else some ⟨""⟩

/-- The path with the given first segment and reversed other segments, and the paths above it. -/
def ascend (first : String) : List String → List Path
  | [] => if first = "" then [] else [⟨first⟩]
  | segment :: above =>
    if isIdle segment then ascend first above
    else ofSegments first (segment :: above).reverse :: ascend first above

/-- The path and the paths above it, the longest first, without the root and the empty path. -/
def ancestors (path : Path) : List Path :=
  match path.segments with
  | [] => []
  | first :: rest => ascend first rest.reverse

end Path

/-! ## Faults -/

/-- Why a file or directory could not be accessed. -/
inductive Fault where
  /-- A name on the way does not exist. -/
  | notFound
  /-- The name is taken. -/
  | occupied
  | notDirectory
  | isDirectory
  | nameTooLong
  /-- The path holds a character that no name can hold. -/
  | badPath
  | notText
  deriving DecidableEq, Repr

namespace Fault

def message : Fault → String
  | notFound => "No such file or directory (os error 2)"
  | occupied => "File exists (os error 17)"
  | notDirectory => "Not a directory (os error 20)"
  | isDirectory => "Is a directory (os error 21)"
  | nameTooLong => "File name too long (os error 36)"
  | badPath => "file name contained an unexpected NUL byte"
  | notText => "stream did not contain valid UTF-8"

end Fault

namespace FileTree

/-! ## Following a path -/

def start (tree : FileTree) (path : Path) : Location :=
  if path.isAbsolute then [] else tree.current

/-- Goes on from a location by one name. -/
def follow (tree : FileTree) (location : Location) (name : String) : Except Fault Location :=
  match tree.get? location with
  | none => .error .notFound
  | some (.file _) => .error .notDirectory
  | some .directory =>
    if name = "." then .ok location
    else if name = ".." then .ok location.dropLast
    else if maxNameSize < name.utf8ByteSize then .error .nameTooLong
    else if (tree.get? (location ++ [name])).isSome then .ok (location ++ [name])
    else .error .notFound

/-- Whether the path can be followed at all. -/
def checkPath (path : Path) : Except Fault Unit :=
  if path.text = "" then .error .notFound
  else if path.text.toList.contains '\x00' then .error .badPath
  else .ok ()

/-- Where the path leads. A slash at its end asks for a directory. -/
def locate (tree : FileTree) (path : Path) : Except Fault Location := do
  checkPath path
  (path.names ++ if path.endsInSlash then ["."] else []).foldlM tree.follow (tree.start path)

def find (tree : FileTree) (path : Path) : Except Fault Entry := do
  match tree.get? (← tree.locate path) with
  | some entry => .ok entry
  | none => .error .notFound

/-! ## Asking and reading -/

def has (tree : FileTree) (path : Path) : Bool :=
  match tree.find path with
  | .ok _ => true
  | .error _ => false

def hasDirectory (tree : FileTree) (path : Path) : Bool :=
  match tree.find path with
  | .ok .directory => true
  | _ => false

def hasFile (tree : FileTree) (path : Path) : Bool :=
  match tree.find path with
  | .ok (.file _) => true
  | _ => false

/-- The text of the file that the path leads to. -/
def readText (tree : FileTree) (path : Path) : Except Fault String := do
  match ← tree.find path with
  | .directory => .error .isDirectory
  | .file content =>
    match String.fromUTF8? content with
    | some text => .ok text
    | none => .error .notText

/-- The names in the directory that the path leads to, in order. -/
def namesAt (tree : FileTree) (path : Path) : List String :=
  match tree.locate path with
  | .ok location => tree.namesIn location
  | .error _ => []

/-! ## Writing -/

/-- The directory in which the path's last name is to be made, and that name. -/
def locateNew (tree : FileTree) (path : Path) : Except Fault (Location × String) := do
  checkPath path
  match path.names.reverse with
  | [] => .ok (tree.start path, ".")
  | last :: above =>
    let parent ← above.reverse.foldlM tree.follow (tree.start path)
    match tree.get? parent with
    | some .directory => .ok (parent, last)
    | _ => .error .notDirectory

def createDirectory (tree : FileTree) (path : Path) : Except Fault FileTree := do
  let (parent, name) ← tree.locateNew path
  if name = "." ∨ name = ".." then .error .occupied
  else if maxNameSize < name.utf8ByteSize then .error .nameTooLong
  else if (tree.get? (parent ++ [name])).isSome then .error .occupied
  else .ok (tree.put parent name .directory)

def writeFile (tree : FileTree) (path : Path) (content : ByteArray) : Except Fault FileTree := do
  let (parent, name) ← tree.locateNew path
  if path.endsInSlash ∨ name = "." ∨ name = ".." then .error .isDirectory
  else if maxNameSize < name.utf8ByteSize then .error .nameTooLong
  else if tree.get? (parent ++ [name]) = some .directory then .error .isDirectory
  else .ok (tree.put parent name (.file content))

/-- Makes the first of the directories, which must be in the second, and so on, as far as they are
missing. A failure leaves the directories made before it. -/
def createUpward (tree : FileTree) : List Path → FileTree × Except Fault Unit
  | [] => (tree, .ok ())
  | path :: above =>
    match tree.createDirectory path with
    | .ok made => (made, .ok ())
    | .error .notFound =>
      match createUpward tree above with
      | (grown, .error fault) => (grown, .error fault)
      | (grown, .ok ()) =>
        match grown.createDirectory path with
        | .ok made => (made, .ok ())
        | .error fault =>
          if grown.hasDirectory path then (grown, .ok ()) else (grown, .error fault)
    | .error fault => if tree.hasDirectory path then (tree, .ok ()) else (tree, .error fault)

/-- Makes the directory and those above it, as far as they are missing. -/
def createDirectories (tree : FileTree) (path : Path) : FileTree × Except Fault Unit :=
  tree.createUpward path.ancestors

end FileTree

end EntityCodegen
