import OperationLint.Json.Writer
import OperationLint.Report.Format
import OperationLint.Rule.Basic

/-!
# Reports for analysis viewers

One run of the tool with the rules it ran and a result for each diagnostic.
-/

namespace OperationLint.SarifReport

/-- The level of a severity. -/
def level : Severity → String
  | .error => "error"
  | .warning => "warning"
  | .info => "note"

def text (value : String) : Json := .object [("text", .string value)]

/-- What a run says about a rule. -/
def rule (descriptor : Descriptor) : Json :=
  let help := match descriptor.help? with
    | some page => [("helpUri", Json.string page)]
    | none => []
  .object <|
    [("id", .string descriptor.id), ("shortDescription", text descriptor.title),
      ("fullDescription", text descriptor.description)]
    ++ help
    ++ [("defaultConfiguration", .object
          [("enabled", .bool descriptor.isEnabledByDefault),
            ("level", .string (level descriptor.defaultSeverity))]),
        ("properties", .object
          [("category", .string descriptor.category.name),
            ("tags", .array (descriptor.customTags.map .string))])]

/-- A place in a file. -/
def place (location : Location) : Json :=
  .object
    [("physicalLocation", .object
      [("artifactLocation", .object [("uri", .string location.path)]),
        ("region", .object
          [("startLine", .number location.startLine), ("startColumn", .number location.startColumn),
            ("endLine", .number location.endLine), ("endColumn", .number location.endColumn)])])]

/-- The result of a diagnostic; its own location comes first. -/
def result (diagnostic : Diagnostic) : Json :=
  .object
    [("ruleId", .string diagnostic.ruleId), ("level", .string (level diagnostic.severity)),
      ("message", text diagnostic.message),
      ("locations", .array
        ((diagnostic.location :: diagnostic.additionalLocations).map place))]

/-- The document of sorted diagnostics. -/
def document (descriptors : List Descriptor) (diagnostics : List Diagnostic) : Json :=
  .object
    [("version", .string "2.1.0"),
      ("$schema", .string "https://json.schemastore.org/sarif-2.1.0.json"),
      ("runs", .array
        [.object
          [("tool", .object
            [("driver", .object
              [("name", .string toolName), ("version", .string toolVersion),
                ("rules", .array (descriptors.map rule))])]),
            ("results", .array (diagnostics.map result))]])]

def render (descriptors : List Descriptor) (diagnostics : List Diagnostic) : String :=
  (document descriptors diagnostics).indented

end OperationLint.SarifReport
