import OperationLint.Files.Path
import OperationLint.Text.Literal

/-!
# File trees

Files and directories as a value. Paths are followed step by step from the working directory, or
from the root when they start with a slash; every step needs a directory to start from, and a name
that is not too long. There are no links and no permissions: a place is a file with its content or a
directory, and whoever finds it can read and write it.
-/

namespace OperationLint

inductive FileNode where
  | file (content : String)
  | directory
  deriving DecidableEq

/-- Nodes by their steps from the root, and the steps of the working directory. -/
structure FileTree where
  workingDirectory : List String
  nodes : List (List String × FileNode)

/-- Why a file cannot be used. -/
inductive FileFault where
  | nullCharacter
  | nameTooLong
  | missing
  | notDirectory
  | isDirectory
  deriving DecidableEq

/-- A file that could not be opened. -/
structure FileError where
  fault : FileFault
  path : String

def FileError.message (error : FileError) : String :=
  let opening := ", open '" ++ error.path ++ "'"
  match error.fault with
  | .nullCharacter =>
    "The argument 'path' must be a string, Uint8Array, or URL without null bytes. Received "
      ++ Literal.shown error.path
  | .nameTooLong => "ENAMETOOLONG: name too long" ++ opening
  | .missing => "ENOENT: no such file or directory" ++ opening
  | .notDirectory => "ENOTDIR: not a directory" ++ opening
  | .isDirectory => "EISDIR: illegal operation on a directory" ++ opening

namespace FileTree

/-- The node at some steps from the root; the root is a directory. -/
def node? (tree : FileTree) (place : List String) : Option FileNode :=
  if place = [] then some .directory else tree.nodes.lookup place

/-- Follows steps from a place. -/
def follow (tree : FileTree) (place : List String) : List String → Except FileFault (List String)
  | [] => .ok place
  | step :: rest =>
    match tree.node? place with
    | none => .error .missing
    | some (.file _) => .error .notDirectory
    | some .directory =>
      if step = "" ∨ step = "." then tree.follow place rest
      else if step = ".." then tree.follow place.dropLast rest
      else if Files.maxStepSize < step.utf8ByteSize then .error .nameTooLong
      else tree.follow (place ++ [step]) rest

/-- The place that a path starts from. Nothing starts from a path that is empty or too long, or that
has a null character. -/
def origin (tree : FileTree) (path : String) : Except FileFault (List String) :=
  if path.toList.contains '\x00' then .error .nullCharacter
  else if path = "" then .error .missing
  else if Files.maxPathSize < path.utf8ByteSize then .error .nameTooLong
  else .ok (if Files.isAbsolute path then [] else tree.workingDirectory)

/-- The place that a path leads to, whether or not something is there. -/
def resolve (tree : FileTree) (path : String) : Except FileFault (List String) := do
  tree.follow (← tree.origin path) (Files.steps path)

/-- There is a file or a directory. -/
def contains (tree : FileTree) (path : String) : Bool :=
  match tree.resolve path with
  | .ok place => (tree.node? place).isSome
  | .error _ => false

/-- The content of a file. -/
def read (tree : FileTree) (path : String) : Except FileFault String :=
  match tree.resolve path with
  | .error fault => .error fault
  | .ok place =>
    match tree.node? place with
    | none => .error .missing
    | some .directory => .error .isDirectory
    | some (.file content) => .ok content

/-- Puts a node at a place. -/
def set (tree : FileTree) (place : List String) (node : FileNode) : FileTree :=
  if tree.nodes.any (·.1 == place) then
    { tree with nodes := tree.nodes.map fun old => if old.1 == place then (place, node) else old }
  else { tree with nodes := tree.nodes ++ [(place, node)] }

/-- The steps of a path but for its last name; an empty step in its place stays in the directory. -/
def directorySteps (path : String) : List String :=
  ((Files.steps path).reverse.dropWhile (· == "")).tail.reverse ++ [""]

/-- Writes a file, new or not; its directory has to be there. For a path that asks for a directory
the last name does not matter. -/
def write (tree : FileTree) (path content : String) : Except FileFault FileTree := do
  let origin ← tree.origin path
  if Files.endsInSlash path then
    let _ ← tree.follow origin (directorySteps path)
    throw .isDirectory
  let place ← tree.follow origin (Files.steps path)
  if tree.node? place = some .directory then throw .isDirectory
  return tree.set place (.file content)

/-- Takes a node away. -/
def remove (tree : FileTree) (path : String) : FileTree :=
  match tree.resolve path with
  | .ok place => { tree with nodes := tree.nodes.filter (·.1 != place) }
  | .error _ => tree

/-- Puts the directories on the way to a place. -/
def addDirectories (tree : FileTree) (place : List String) : FileTree :=
  (List.range (place.length + 1)).foldl (fun tree length =>
    let directory := place.take length
    if (tree.node? directory).isSome then tree else tree.set directory .directory) tree

/-- Puts a file and the directories on the way to it. -/
def addFile (tree : FileTree) (path content : String) : FileTree :=
  let place := Files.normalize true
    ((if Files.isAbsolute path then [] else tree.workingDirectory) ++ Files.steps path)
  (tree.addDirectories place.dropLast).set place (.file content)

/-- The tree with a working directory and some files in it. -/
def ofFiles (workingDirectory : List String) (files : List (String × String)) : FileTree :=
  files.foldl (fun tree (path, content) => tree.addFile path content)
    (addDirectories ⟨workingDirectory, []⟩ workingDirectory)

/-- The path of the working directory. -/
def workingPath (tree : FileTree) : String := "/" ++ "/".intercalate tree.workingDirectory

end FileTree

end OperationLint
