import OperationLint.Diagnostic.Basic
import OperationLint.Json.Writer
import OperationLint.Report.Format

/-!
# Reports as JSON documents

Counts by severity, then every diagnostic with all its parts.
-/

namespace OperationLint

/-- A location with its parts by name. -/
def Location.toJson (location : Location) : Json :=
  .object
    [("path", .string location.path), ("startLine", .number location.startLine),
      ("startColumn", .number location.startColumn), ("endLine", .number location.endLine),
      ("endColumn", .number location.endColumn)]

def Diagnostic.toJson (diagnostic : Diagnostic) : Json :=
  .object
    [("ruleId", .string diagnostic.ruleId), ("severity", .string diagnostic.severity.name),
      ("category", .string diagnostic.category.name), ("message", .string diagnostic.message),
      ("location", diagnostic.location.toJson),
      ("additionalLocations", .array (diagnostic.additionalLocations.map Location.toJson))]

namespace DocumentReport

/-- The document of sorted diagnostics. -/
def document (diagnostics : List Diagnostic) : Json :=
  .object
    [("tool", .string toolName), ("version", .string toolVersion),
      ("summary", .object
        [("total", .ofNat diagnostics.length),
          ("errors", .ofNat (Diagnostic.count .error diagnostics)),
          ("warnings", .ofNat (Diagnostic.count .warning diagnostics)),
          ("info", .ofNat (Diagnostic.count .info diagnostics))]),
      ("diagnostics", .array (diagnostics.map Diagnostic.toJson))]

def render (diagnostics : List Diagnostic) : String := (document diagnostics).indented

end DocumentReport

end OperationLint
