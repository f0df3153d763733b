import OperationLint.Compilation.Binding
import OperationLint.Snapshot.Reader

/-!
# From JSON to compilations

A JSON value becomes a compilation when it has the shape of a snapshot and its names are in order.
An error says which of the two failed, and where the value came from.
-/

namespace OperationLint

/-- Puts the origin of a problem in front of its description. -/
def attributed (origin : Option String) (description : String) : String :=
  match origin with
  | none => description
  | some "" => description
  | some name => name ++ ": " ++ description

/-- Why there is no compilation. -/
inductive SnapshotFault where
  | unreadable (reason : String)
  | malformed (issues : List Schema.Issue)
  | unbound (defect : Defect)

def SnapshotFault.message : SnapshotFault → String
  | unreadable reason => "cannot read snapshot: " ++ reason
  | malformed issues => "invalid snapshot: " ++ Schema.describe issues
  | unbound defect => defect.message

structure SnapshotError where
  fault : SnapshotFault
  source : Option String

def SnapshotError.message (error : SnapshotError) : String :=
  attributed error.source error.fault.message

/-- The compilation that a JSON value describes. -/
def Compilation.ofJson (json : Json) (source : Option String) :
    Except SnapshotError Compilation :=
  match Snapshot.read json with
  | .invalid issues => .error ⟨.malformed issues, source⟩
  | .valid snapshot =>
    match snapshot.bind with
    | .error defect => .error ⟨.unbound defect, source⟩
    | .ok compilation => .ok compilation

end OperationLint
