import EntityCodegen.Command.Run

/-!
# The program

Shows a run the files on disk that it depends on, and brings what the run changes to disk.
-/

namespace EntityCodegen.Program

/-- The absolute path of a location. -/
def diskPath (location : Location) : String :=
  "/" ++ "/".intercalate location

/-- What is on disk at a location. -/
def readEntry (location : Location) : IO (Option Entry) := do
  let path := (← IO.currentDir) / diskPath location
  if ← path.isDir then
    return some .directory
  else if ← path.pathExists then
    return some (.file (← IO.FS.readBinFile path))
  else
    return none

/-- The tree with what is on disk under a name in a directory. -/
def lookAt (tree : FileTree) (parent : Location) (name : String) : IO FileTree := do
  match ← readEntry (parent ++ [name]) with
  | some entry => return tree.put parent name entry
  | none => return tree

/-- The tree with what is on disk along the names from a location, and where the names lead. -/
def walk : List String → Location → FileTree → IO (FileTree × Location)
  | [], location, tree => return (tree, location)
  | name :: names, location, tree =>
    if name = "." then walk names location tree
    else if name = ".." then walk names location.dropLast tree
    else do
      walk names (location ++ [name]) (← lookAt tree location name)

/-- The tree with what is on disk along a path. -/
def lookAlong (tree : FileTree) (path : Path) : IO FileTree := do
  return (← walk path.names (tree.start path) tree).1

/-- The tree with what is on disk along a path and in the directory that it leads to. -/
def lookInto (tree : FileTree) (path : Path) : IO FileTree := do
  let (tree, location) ← walk path.names (tree.start path) tree
  let directory := (← IO.currentDir) / diskPath location
  if ← directory.isDir then
    (← directory.readDir).toList.foldlM (fun tree file => lookAt tree location file.fileName) tree
  else
    return tree

/-- The tree with the working directory only. -/
def workingTree : IO FileTree := do
  let names := (Path.mk (← IO.currentDir).toString).names
  let (tree, location) ← walk names [] FileTree.empty
  return tree.enter location

/-- The tree with all that a command depends on. -/
def lookFor (command : Command) : IO FileTree := do
  let tree ← lookAlong (← workingTree) command.firstPath
  let tree ← (command.definitionPaths tree).foldlM lookInto tree
  (command.outputPaths tree).foldlM lookAlong tree

/-- Brings to disk what is new or different in the second tree, directories before what is in
them. -/
def store (before after : FileTree) : IO Unit := do
  let changed := after.entries.filter fun (location, entry) => before.get? location != some entry
  for (location, entry) in changed.mergeSort fun a b => a.1.length ≤ b.1.length do
    match entry with
    | .directory => IO.FS.createDirAll (diskPath location)
    | .file content => IO.FS.writeBinFile (diskPath location) content

def run (arguments : List String) : IO UInt32 := do
  let tree ← match Arguments.read? arguments with
    | some (.command command, _) => lookFor command
    | _ => pure FileTree.empty
  let (outcome, verbosity) := runArguments tree arguments
  store tree outcome.tree
  (logLines verbosity outcome.events).forM IO.eprintln
  outcome.printed.forM IO.println
  outcome.ending.errorLines.forM IO.eprintln
  return UInt32.ofNat outcome.ending.exitCode

end EntityCodegen.Program

def main (arguments : List String) : IO UInt32 := do
  try
    EntityCodegen.Program.run arguments
  catch error =>
    IO.eprintln ("Error: " ++ toString error)
    return 1
