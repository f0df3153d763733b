import OperationLint.Report.Document
import OperationLint.Report.Sarif
import OperationLint.Report.TestSuite
import OperationLint.Report.Text

/-!
# Reports

Every format shows the diagnostics in their order.
-/

namespace OperationLint

/-- The report of some diagnostics. -/
def report (colored : Bool) (descriptors : List Descriptor) (format : ReportFormat)
    (diagnostics : List Diagnostic) : String :=
  let sorted := Diagnostic.sort diagnostics
  match format with
  | .text => TextReport.render colored descriptors sorted
  | .json => DocumentReport.render sorted
  | .junit => TestSuiteReport.render sorted
  | .sarif => SarifReport.render descriptors sorted

end OperationLint
