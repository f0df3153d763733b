import OperationLint.Compilation.Loading
import OperationLint.Console
import OperationLint.Engine
import OperationLint.Text.Style

/-!
# Analysis

A run of the engine together with what it says on the console: a warning for each evaluation that
failed, and for a run that was not cancelled a note for each inert rule. Files are analyzed one
after the other, and the first that fails ends it.
-/

namespace OperationLint

/-! ### One compilation -/

/-- The analysis of an assembly was cancelled. -/
structure Cancelled where
  assemblyName : String

def Cancelled.message (cancelled : Cancelled) : String :=
  "Analysis of '" ++ cancelled.assemblyName ++ "' was cancelled"

/-- What an analysis finds. -/
structure Findings where
  assemblyName : String
  diagnostics : List Diagnostic
  inertRules : List String

/-- The warning about a failed evaluation. -/
def Engine.Skip.entry (colored : Bool) (skip : Engine.Skip) : Entry :=
  ⟨.warn, [Style.yellow.paint colored ("Rule " ++ skip.ruleId ++ " skipped " ++ skip.kind.name
    ++ " at " ++ skip.location.path ++ ":" ++ skip.location.startLine.text ++ ":"),
    skip.reason]⟩

/-- The note about an inert rule. -/
def inertEntry (colored : Bool) (assemblyName ruleId : String) : Entry :=
  ⟨.info, [Style.gray.paint colored (ruleId ++ " is inactive for " ++ assemblyName
    ++ ": required types are not available")]⟩

/-- Analyzes a compilation. -/
def analyze (colored : Bool) (config : Config) (rules : List Rule) (signal : Signal)
    (compilation : Compilation) : Transcript × Except Cancelled Findings :=
  let run := Engine.run config rules signal compilation
  let warnings := run.skips.map (Engine.Skip.entry colored)
  match run.diagnostics with
  | none => (warnings, .error ⟨compilation.assemblyName⟩)
  | some diagnostics =>
    (warnings ++ run.inertRules.map (inertEntry colored compilation.assemblyName),
      .ok ⟨compilation.assemblyName, diagnostics, run.inertRules⟩)

/-! ### Files -/

/-- Why files could not be analyzed. -/
inductive AnalysisError where
  | snapshot (error : SnapshotError)
  | cancelled (reason : Cancelled)

def AnalysisError.message : AnalysisError → String
  | snapshot error => error.message
  | cancelled reason => reason.message

/-- Analyzes the compilation in a file. -/
def analyzeFile (colored : Bool) (config : Config) (rules : List Rule) (files : FileTree)
    (path : String) : Transcript × Except AnalysisError (List Diagnostic) :=
  match Compilation.load files path with
  | .error error => ([], .error (.snapshot error))
  | .ok compilation =>
    match analyze colored config rules Signal.never compilation with
    | (transcript, .error reason) => (transcript, .error (.cancelled reason))
    | (transcript, .ok findings) => (transcript, .ok findings.diagnostics)

/-- Analyzes files in order. -/
def analyzeFiles (colored : Bool) (config : Config) (rules : List Rule) (files : FileTree) :
    List String → Transcript × Except AnalysisError (List Diagnostic)
  | [] => ([], .ok [])
  | path :: rest =>
    match analyzeFile colored config rules files path with
    | (transcript, .error error) => (transcript, .error error)
    | (transcript, .ok diagnostics) =>
      let (later, result) := analyzeFiles colored config rules files rest
      (transcript ++ later, result.map (diagnostics ++ ·))

end OperationLint
