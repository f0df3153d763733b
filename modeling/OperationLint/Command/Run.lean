import OperationLint.Analysis
import OperationLint.Command.Grammar
import OperationLint.Config.Session
import OperationLint.Report.Basic
import OperationLint.Rule.Catalog

/-!
# Running commands

A command reads and writes files, says something, and ends with an exit code.
-/

namespace OperationLint

/-- What a command comes to. -/
structure Outcome where
  transcript : Transcript
  exitCode : Nat
  files : FileTree

/-! ### Listing rules -/

/-- The rules of a category, all of them without one; case does not matter. -/
def rulesOfCategory (category : Option String) (rules : List Rule) : List Rule :=
  match category.filter (· ≠ "") with
  | some name => rules.filter fun rule => rule.descriptor.category.name.toLower == name.toLower
  | none => rules

/-- A rule in the listing. -/
def ruleListing (colored : Bool) (descriptor : Descriptor) : String :=
  let badge :=
    if descriptor.isEnabledByDefault then Style.green.paint colored "[ENABLED]"
    else Style.gray.paint colored "[DISABLED]"
  let helpLine := match descriptor.help? with
    | some page => "  Help: " ++ page ++ "\n"
    | none => ""
  Style.bold.paint colored descriptor.id ++ " " ++ descriptor.title ++ " " ++ badge ++ "\n"
    ++ "  Category: " ++ Style.cyan.paint colored descriptor.category.name ++ "\n"
    ++ "  Severity: " ++ descriptor.defaultSeverity.name ++ "\n"
    ++ "  Description: " ++ descriptor.description ++ "\n"
    ++ helpLine ++ "\n"

def listRules (colored : Bool) (category : Option String) (buildingExtension : Bool) : String :=
  Style.bold.paint colored "\nAvailable rules:\n\n"
    ++ String.join ((rulesOfCategory category (allRules buildingExtension)).map fun rule =>
      ruleListing colored rule.descriptor)

/-! ### Analyzing -/

/-- Diagnostics are grave enough to fail. -/
def shouldFail (diagnostics : List Diagnostic) : FailOn → Bool
  | .never => false
  | .warning => diagnostics.any fun d => d.severity = .error || d.severity = .warning
  | .error => diagnostics.any fun d => d.severity = .error

/-- The counts at the end of an analysis. -/
def summary (colored : Bool) (diagnostics : List Diagnostic) : Transcript :=
  let line (style : Style) (label : String) (severity : Severity) : Entry :=
    ⟨.log, [style.paint colored label ++ " " ++ toString (Diagnostic.count severity diagnostics)]⟩
  [⟨.log, ["\n" ++ Style.bold.paint colored "Summary:"]⟩,
    line .red "Errors:" .error, line .yellow "Warnings:" .warning, line .blue "Info:" .info]

/-- An analysis that ends with an error, after what was said before it. -/
def failed (colored : Bool) (files : FileTree) (said : Transcript) (message : String) : Outcome :=
  ⟨said ++ [⟨.error, [Style.red.paint colored "Analysis failed:", message]⟩], 1, files⟩

/-- Delivers a report to a file or to the console. -/
def deliver (colored : Bool) (files : FileTree) (output : Option String) (text : String) :
    Except FileError (Transcript × FileTree) :=
  match output.filter (· ≠ "") with
  | none => .ok ([⟨.log, [text]⟩], files)
  | some path =>
    match files.write path text with
    | .error fault => .error ⟨fault, path⟩
    | .ok files => .ok ([⟨.log, [Style.green.paint colored ("Report written to " ++ path)]⟩], files)

/-- Analyzes snapshots and reports on them. -/
def runAnalyze (colored : Bool) (files : FileTree) (snapshots : List String)
    (options : AnalyzeOptions) : Outcome :=
  let start : Transcript :=
    [⟨.log, [Style.blue.paint colored "Analyzing compilation snapshots..."]⟩]
  match files.loadConfig files.workingPath options.config with
  | .error error => failed colored files start error.message
  | .ok loaded =>
    let config := { loaded with
      buildingExtension := loaded.buildingExtension || options.buildingExtension }
    let rules := allRules config.buildingExtension
    match analyzeFiles colored config rules files snapshots with
    | (said, .error error) => failed colored files (start ++ said) error.message
    | (said, .ok diagnostics) =>
      let descriptors := (Engine.enabledRules config rules).map (·.descriptor)
      let text := report colored descriptors options.format diagnostics
      match deliver colored files options.output text with
      | .error error => failed colored files (start ++ said) error.message
      | .ok (delivered, files) =>
        ⟨start ++ said ++ delivered ++ summary colored diagnostics,
          if shouldFail diagnostics options.failOn then 1 else 0, files⟩

/-! ### All commands -/

/-- How to use the tool. -/
def usageText : String :=
  "Usage: " ++ toolName ++ " [options] [command]\n\nCommands:\n"
    ++ String.join (Command.specs.map fun spec =>
      "  " ++ spec.name ++ String.join (spec.options.map fun option => " [" ++ option.usage ++ "]")
        ++ "\n")

/-- Runs a command. -/
def Command.run (colored : Bool) (files : FileTree) : Command → Outcome
  | analyze snapshots options => runAnalyze colored files snapshots options
  | rules category buildingExtension =>
    ⟨[⟨.log, [listRules colored category buildingExtension]⟩], 0, files⟩
  | init project template =>
    match files.createConfig project template with
    | .ok (path, files) =>
      ⟨[⟨.log, [Style.green.paint colored ("Configuration written to " ++ path)]⟩], 0, files⟩
    | .error error =>
      ⟨[⟨.error, [Style.red.paint colored "Configuration initialization failed:", error.message]⟩],
        1, files⟩
  | validateConfig path =>
    match files.validateConfig path with
    | (said, true) =>
      ⟨said ++ [⟨.log, [Style.green.paint colored "Configuration is valid"]⟩], 0, files⟩
    | (said, false) =>
      ⟨said ++ [⟨.log, [Style.red.paint colored "Configuration is invalid"]⟩], 1, files⟩
  | version => ⟨[⟨.log, [toolVersion]⟩], 0, files⟩
  | help true => ⟨[⟨.log, [usageText]⟩], 0, files⟩
  | help false => ⟨[⟨.error, [usageText]⟩], 1, files⟩

/-- Runs a command line. Arguments that make no command are said to, and nothing is run. -/
def runCommandLine (colored : Bool) (files : FileTree) (arguments : List String) : Outcome :=
  match Command.parse arguments with
  | .ok command => command.run colored files
  | .error error => ⟨[⟨.error, [error.message]⟩], 1, files⟩

end OperationLint
