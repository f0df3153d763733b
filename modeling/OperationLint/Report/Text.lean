import OperationLint.Rule.Basic
import OperationLint.Text.Style

/-!
# Reports for people

Diagnostics in groups by severity, gravest first. A rule that names a page of help is reported with
it.
-/

namespace OperationLint.TextReport

/-- The heading of a group and its colour. -/
def heading : Severity → String
  | .error => "ERRORS"
  | .warning => "WARNINGS"
  | .info => "INFO"

def color : Severity → Style
  | .error => .red
  | .warning => .yellow
  | .info => .blue

/-- A line for a location. -/
def locationLine (colored : Bool) (label : String) (location : Location) : String :=
  "  " ++ label ++ ": " ++ Style.gray.paint colored location.text ++ "\n"

/-- The page of help of the first descriptor with an id. -/
def help? (descriptors : List Descriptor) (ruleId : String) : Option String :=
  (descriptors.find? (·.id == ruleId)).bind Descriptor.help?

/-- A diagnostic with its locations and its help. -/
def item (colored : Bool) (descriptors : List Descriptor) (diagnostic : Diagnostic) : String :=
  let bullet := (color diagnostic.severity).paint colored "●"
  let rule := Style.cyan.paint colored diagnostic.ruleId
  let message := Style.bold.paint colored diagnostic.message
  let helpLine := match help? descriptors diagnostic.ruleId with
    | some page => "  Help: " ++ Style.gray.paint colored page ++ "\n"
    | none => ""
  "\n" ++ bullet ++ " " ++ rule ++ " " ++ message ++ "\n"
    ++ locationLine colored "Location" diagnostic.location
    ++ String.join (diagnostic.additionalLocations.map (locationLine colored "Also at"))
    ++ helpLine

/-- The diagnostics of a severity under their heading. -/
def group (colored : Bool) (descriptors : List Descriptor) (diagnostics : List Diagnostic)
    (severity : Severity) : String :=
  match Diagnostic.ofSeverity severity diagnostics with
  | [] => ""
  | members =>
    (color severity ++ Style.bold).paint colored
        ("\n" ++ heading severity ++ " (" ++ toString members.length ++ "):\n")
      ++ String.join (members.map (item colored descriptors))

/-- The report of sorted diagnostics. -/
def render (colored : Bool) (descriptors : List Descriptor) (diagnostics : List Diagnostic) :
    String :=
  if diagnostics.isEmpty then Style.green.paint colored "No diagnostics reported.\n"
  else
    Style.bold.paint colored
        ("\n" ++ toString diagnostics.length ++ " diagnostic(s) reported:\n")
      ++ String.join (Severity.all.map (group colored descriptors diagnostics))

end OperationLint.TextReport
