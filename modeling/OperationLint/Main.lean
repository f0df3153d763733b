import OperationLint.Command.Run

/-!
# The command line

Reads the files that a command line mentions, runs it, and carries out what it came to.
-/

namespace OperationLint

/-- The paths that a command may read or write. -/
def Command.paths (workingPath : String) : Command → List String
  | analyze snapshots options =>
    snapshots ++ options.config.toList ++ options.output.toList
      ++ configFileNames.map (Files.join workingPath)
  | init project _ => [newConfigFile project]
  | validateConfig path => [path]
  | _ => []

/-- What is at a path, if anything. -/
def nodeAt? (path : String) : IO (Option FileNode) := do
  try
    let place ← IO.FS.realPath path
    if ← place.isDir then return some .directory
    return some (.file (← IO.FS.readFile place))
  catch _ => return none

/-- Adds what is at a path and on the way to it. -/
def addPath (tree : FileTree) (path : String) : IO FileTree := do
  let steps := Files.normalize true
    ((if Files.isAbsolute path then [] else tree.workingDirectory) ++ Files.steps path)
  let mut tree := tree
  for length in List.range (steps.length + 1) do
    let place := steps.take length
    if let some node ← nodeAt? ("/" ++ "/".intercalate place) then
      tree := tree.set place node
  return tree

/-- Writes the files of a tree that another one does not have as they are. -/
def writeChanges (before after : FileTree) : IO Unit := do
  for (place, node) in after.nodes do
    if let .file content := node then
      if before.node? place ≠ some node then
        IO.FS.writeFile ("/" ++ "/".intercalate place) content

end OperationLint

open OperationLint in
def main (arguments : List String) : IO UInt32 := do
  let workingPath := (← IO.currentDir).toString
  let mut files : FileTree := ⟨Files.normalize true (Files.steps workingPath), []⟩
  files ← addPath files workingPath
  if let .ok command := Command.parse arguments then
    for path in command.paths workingPath do
      files ← addPath files path
  let outcome := runCommandLine false files arguments
  writeChanges files outcome.files
  IO.print outcome.transcript.output
  IO.eprint outcome.transcript.errors
  return UInt32.ofNat outcome.exitCode
