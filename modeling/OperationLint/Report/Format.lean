/-!
# Report formats
-/

namespace OperationLint

/-- The name that the tool goes by. -/
def toolName : String := "opguard"

def toolVersion : String := "1.0.0"

inductive ReportFormat where
  | text
  | json
  | junit
  | sarif
  deriving DecidableEq

namespace ReportFormat

def all : List ReportFormat := [.text, .json, .junit, .sarif]

def name : ReportFormat → String
  | .text => "text"
  | .json => "json"
  | .junit => "junit"
  | .sarif => "sarif"

def ofName? (name : String) : Option ReportFormat := all.find? (·.name == name)

end ReportFormat

end OperationLint
