import OperationLint.Location
import OperationLint.Text.Collation
import OperationLint.Text.Placeholder

/-!
# Diagnostics

What a rule reports, and the order of reports: by path, line, column and rule.
-/

namespace OperationLint

inductive Severity where
  | error
  | warning
  | info
  deriving DecidableEq, Inhabited

/-- The severities, gravest first. -/
def Severity.all : List Severity := [.error, .warning, .info]

def Severity.name : Severity → String
  | .error => "error"
  | .warning => "warning"
  | .info => "info"

/-- What a rule is about. -/
inductive Category where
  | security
  | usage
  deriving DecidableEq, Inhabited

def Category.all : List Category := [.security, .usage]

def Category.name : Category → String
  | .security => "Security"
  | .usage => "Usage"

structure Diagnostic where
  ruleId : String
  severity : Severity
  category : Category
  message : String
  location : Location
  additionalLocations : List Location
  deriving DecidableEq

namespace Diagnostic

/-- Compares by path, then start line, then start column, then rule id. -/
def compare (a b : Diagnostic) : Ordering :=
  (Collation.compare a.location.path b.location.path).then
    ((a.location.startLine.compare b.location.startLine).then
      ((a.location.startColumn.compare b.location.startColumn).then
        (Collation.compare a.ruleId b.ruleId)))

/-- Diagnostics in order; those that compare equal keep theirs. -/
def sort (diagnostics : List Diagnostic) : List Diagnostic :=
  diagnostics.mergeSort fun a b => (compare a b).isLE

/-- The diagnostics of a severity. -/
def ofSeverity (severity : Severity) (diagnostics : List Diagnostic) : List Diagnostic :=
  diagnostics.filter (·.severity = severity)

/-- How many diagnostics have a severity. -/
def count (severity : Severity) (diagnostics : List Diagnostic) : Nat :=
  (ofSeverity severity diagnostics).length

end Diagnostic

end OperationLint
