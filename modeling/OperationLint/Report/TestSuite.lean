import OperationLint.Diagnostic.Basic
import OperationLint.Report.Format
import OperationLint.Text.Markup

/-!
# Reports as test suites

Every diagnostic is a test case. An error is a failed test and a warning a skipped one.
-/

namespace OperationLint.TestSuiteReport

/-- The outcome of a test case. -/
def outcome (diagnostic : Diagnostic) : String :=
  match diagnostic.severity with
  | .error => "    <failure message=\"" ++ Markup.escape diagnostic.message ++ "\"/>\n"
  | .warning => "    <skipped message=\"" ++ Markup.escape diagnostic.message ++ "\"/>\n"
  | .info => ""

def testCase (diagnostic : Diagnostic) : String :=
  "  <testcase name=\"" ++ diagnostic.ruleId ++ "\" classname=\""
    ++ Markup.escape diagnostic.location.text ++ "\">\n"
    ++ outcome diagnostic
    ++ "  </testcase>\n"

/-- The suite of sorted diagnostics. -/
def render (diagnostics : List Diagnostic) : String :=
  "<?xml version=\"1.0\" encoding=\"UTF-8\"?>\n"
    ++ "<testsuite name=\"" ++ toolName ++ "\" tests=\"" ++ toString diagnostics.length
    ++ "\" failures=\"" ++ toString (Diagnostic.count .error diagnostics)
    ++ "\" errors=\"0\" skipped=\"" ++ toString (Diagnostic.count .warning diagnostics) ++ "\">\n"
    ++ String.join (diagnostics.map testCase)
    ++ "</testsuite>\n"

end OperationLint.TestSuiteReport
