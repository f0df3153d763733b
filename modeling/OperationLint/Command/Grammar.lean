import OperationLint.Command.Arguments
import OperationLint.Config.Template
import OperationLint.Report.Format

/-!
# The commands of the tool
-/

namespace OperationLint

/-- The gravity of diagnostics from which on an analysis counts as failed. -/
inductive FailOn where
  | error
  | warning
  | never
  deriving DecidableEq

namespace FailOn

def all : List FailOn := [.error, .warning, .never]

def name : FailOn → String
  | .error => "error"
  | .warning => "warning"
  | .never => "never"

end FailOn

structure AnalyzeOptions where
  config : Option String
  format : ReportFormat
  output : Option String
  failOn : FailOn
  buildingExtension : Bool

inductive Command where
  | analyze (snapshots : List String) (options : AnalyzeOptions)
  | rules (category : Option String) (buildingExtension : Bool)
  | init (project : String) (template : ConfigTemplate)
  | validateConfig (path : String)
  | version
  /-- Help that was asked for, or that is given for want of a command. -/
  | help (askedFor : Bool)

namespace Command

/-! ### Options -/

def versionOption : OptionSpec := ⟨some 'V', "version", none, []⟩

def configOption : OptionSpec := ⟨some 'c', "config", some "path", []⟩

def formatOption : OptionSpec :=
  ⟨some 'f', "format", some "format", ReportFormat.all.map ReportFormat.name⟩

def outputOption : OptionSpec := ⟨some 'o', "output", some "path", []⟩

def failOnOption : OptionSpec := ⟨none, "fail-on", some "level", FailOn.all.map FailOn.name⟩

def buildingExtensionOption : OptionSpec := ⟨none, "building-extension", none, []⟩

def categoryOption : OptionSpec :=
  ⟨none, "category", some "category", Category.all.map Category.name⟩

def templateOption : OptionSpec :=
  ⟨none, "template", some "template", ConfigTemplate.all.map ConfigTemplate.name⟩

/-- The option of a list with a name, or a default. -/
def choose {α : Type} (options : List α) (name : α → String) (default : α)
    (given : Option String) : α :=
  (given.bind fun text => options.find? fun option => name option == text).getD default

/-! ### Commands -/

/-- A command: its name, its options, and what it makes of them and its operands. -/
structure Spec where
  name : String
  options : List OptionSpec
  build : Scan → Except UsageError Command

def analyzeSpec : Spec where
  name := "analyze"
  options := [configOption, formatOption, outputOption, failOnOption, buildingExtensionOption]
  build scan :=
    if scan.operands.isEmpty then .error (.missingArgument "snapshots")
    else .ok <| analyze scan.operands
      { config := scan.value? configOption.name
        format := choose ReportFormat.all ReportFormat.name .text (scan.value? formatOption.name)
        output := scan.value? outputOption.name
        failOn := choose FailOn.all FailOn.name .error (scan.value? failOnOption.name)
        buildingExtension := scan.has buildingExtensionOption.name }

def rulesSpec : Spec where
  name := "rules"
  options := [categoryOption, buildingExtensionOption]
  build scan :=
    .ok (rules (scan.value? categoryOption.name) (scan.has buildingExtensionOption.name))

def initSpec : Spec where
  name := "init"
  options := [templateOption]
  build scan :=
    .ok <| init (scan.operands.headD ".")
      (choose ConfigTemplate.all ConfigTemplate.name .default (scan.value? templateOption.name))

def validateConfigSpec : Spec where
  name := "validate-config"
  options := []
  build scan :=
    match scan.operands with
    | [] => .error (.missingArgument "config")
    | path :: _ => .ok (validateConfig path)

def specs : List Spec := [analyzeSpec, rulesSpec, initSpec, validateConfigSpec]

/-! ### Reading a command line -/

def asksForHelp (arguments : List String) : Bool :=
  arguments.any fun argument => argument == "-h" || argument == "--help"

/-- A command from its operands and the arguments that were set aside before it was known. -/
def Spec.read (spec : Spec) (operands aside : List String) : Except UsageError Command := do
  let scan ← Scan.read spec.options false (aside.map String.toList)
  if asksForHelp scan.aside then return help true
  match scan.aside with
  | argument :: _ => throw (.unknownOption argument)
  | [] => spec.build { scan with operands := operands ++ scan.operands }

/-- The command of a command line. The version is asked for anywhere; else the first operand names
the command. -/
def parse (arguments : List String) : Except UsageError Command := do
  let scan ← Scan.read [versionOption] false (arguments.map String.toList)
  if scan.has versionOption.name then return version
  match scan.operands, scan.aside with
  | name :: operands, aside =>
    match specs.find? (·.name == name) with
    | some spec => spec.read operands aside
    | none =>
      if name == "help" || asksForHelp aside then return help true
      throw (.unknownCommand name)
  | [], [] => return help false
  | [], argument :: aside =>
    if asksForHelp (argument :: aside) then return help true
    throw (.unknownOption argument)

end Command

end OperationLint
