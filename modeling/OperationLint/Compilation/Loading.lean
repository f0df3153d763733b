import OperationLint.Compilation.Parsing
import OperationLint.Files.JsonFile

/-!
# Compilations from files
-/

namespace OperationLint

/-- The compilation that a file describes. -/
def Compilation.load (files : FileTree) (path : String) : Except SnapshotError Compilation :=
  match files.readJson path with
  | .error reason => .error ⟨.unreadable reason, some path⟩
  | .ok json => Compilation.ofJson json (some path)

end OperationLint
