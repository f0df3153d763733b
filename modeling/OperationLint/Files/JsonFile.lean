import OperationLint.Files.Tree
import OperationLint.Json.Reader

/-!
# JSON files
-/

namespace OperationLint

/-- The JSON value that the content of a file is, or why there is none. -/
def Json.ofContent (path : String) : Except FileFault String → Except String Json
  | .error fault => .error (FileError.message ⟨fault, path⟩)
  | .ok text =>
    match Json.parse? text with
    | none => .error "not a JSON text"
    | some json => .ok json

/-- The JSON value in a file. -/
def FileTree.readJson (files : FileTree) (path : String) : Except String Json :=
  Json.ofContent path (files.read path)

theorem FileTree.readJson_eq_ok {files : FileTree} {path text : String} {json : Json}
    (content : files.read path = .ok text) (parsed : Json.parse? text = some json) :
    files.readJson path = .ok json := by
  simp only [readJson, Json.ofContent, content, parsed]

end OperationLint
