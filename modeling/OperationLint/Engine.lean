import OperationLint.Config.Basic

/-!
# The engine

Runs the enabled rules over a compilation. Rules that are active register for the kinds they look
at. Every operation is then shown to the rules that are registered for its kind, operations in order
and for each operation the rules in order; blocks of generated code are shown only to rules that
want them. An evaluation that fails is noted and skipped.

A signal can cancel a run. It is read before each evaluation, and a cancelled run has no
diagnostics.
-/

namespace OperationLint

/-- What the abort signal says before the evaluation with a number. -/
abbrev Signal := Nat → Bool

/-- A signal that is never raised. -/
def Signal.never : Signal := fun _ => false

/-- A signal that is raised from the start. -/
def Signal.always : Signal := fun _ => true

namespace Engine

/-- The rules that the configuration enables. -/
def enabledRules (config : Config) (rules : List Rule) : List Rule :=
  rules.filter fun rule => config.isEnabled rule.descriptor

/-- An enabled rule with its evaluator, and its number among the enabled rules. -/
structure ActiveRule where
  number : Nat
  rule : Rule
  severity : Severity
  evaluator : Evaluator

/-- A rule with its number, if it has an evaluator for a compilation. -/
def activation (config : Config) (compilation : Compilation) (number : Nat) (rule : Rule) :
    Option ActiveRule :=
  (rule.start compilation).map (⟨number, rule, config.severityOf rule.descriptor, ·⟩)

/-- The active rules of a list with numbers. -/
def activate (config : Config) (compilation : Compilation) (numbered : List (Rule × Nat)) :
    List ActiveRule :=
  numbered.filterMap fun (rule, number) => activation config compilation number rule

/-- The enabled rules that have an evaluator for a compilation. -/
def activeRules (config : Config) (rules : List Rule) (compilation : Compilation) :
    List ActiveRule :=
  activate config compilation (enabledRules config rules).zipIdx

/-- The ids of the enabled rules that have none. -/
def inertRules (config : Config) (rules : List Rule) (compilation : Compilation) : List String :=
  ((enabledRules config rules).filter fun rule => (rule.start compilation).isNone).map
    (·.descriptor.id)

/-- The rules that are registered for a kind, by kind; the first entry for a kind counts. -/
abbrev Registrations := List (Kind × List ActiveRule)

namespace Registrations

/-- The rules that are registered for a kind, in order. -/
def interested (table : Registrations) (kind : Kind) : List ActiveRule :=
  (table.lookup kind).getD []

/-- Registers a rule for a kind, behind those that are registered for it already. -/
def add (table : Registrations) (active : ActiveRule) (kind : Kind) : Registrations :=
  (kind, table.interested kind ++ [active]) :: table

/-- Registers a rule for its kinds. They are a set: a kind that is named twice counts once. -/
def register (table : Registrations) (active : ActiveRule) : Registrations :=
  active.rule.kinds.eraseDups.foldl (·.add active) table

/-- The registrations of some rules, one after the other. -/
def ofRules (active : List ActiveRule) : Registrations := active.foldl register []

end Registrations

/-- A rule is shown the operations of a block. -/
def ActiveRule.enters (active : ActiveRule) (block : BoundBlock) : Bool :=
  active.rule.analyzesGenerated || !block.isGenerated

/-- A site that is shown to a rule. -/
structure Dispatch where
  site : Site
  active : ActiveRule

def Dispatch.verdict (dispatch : Dispatch) : Verdict :=
  dispatch.active.evaluator dispatch.active.severity dispatch.site

/-- What is shown to whom, in order. -/
def dispatches (config : Config) (rules : List Rule) (compilation : Compilation) : List Dispatch :=
  let table := Registrations.ofRules (activeRules config rules compilation)
  compilation.sites.flatMap fun site =>
    ((table.interested site.operation.kind).filter (·.enters site.block)).map (⟨site, ·⟩)

/-- An evaluation that failed. -/
structure Skip where
  ruleId : String
  kind : Kind
  location : Location
  reason : String

def Dispatch.skip (dispatch : Dispatch) (reason : String) : Skip where
  ruleId := dispatch.active.rule.descriptor.id
  kind := dispatch.site.operation.kind
  location := dispatch.site.operation.location
  reason := reason

/-- The evaluations of a run: those that failed, and the diagnostics unless it was cancelled. -/
structure Evaluations where
  skips : List Skip
  diagnostics : Option (List Diagnostic)

/-- Evaluates from the evaluation with a number on. -/
def evaluate (signal : Signal) : Nat → List Dispatch → Evaluations
  | _, [] => ⟨[], some []⟩
  | number, dispatch :: rest =>
    if signal number then ⟨[], none⟩
    else
      let later := evaluate signal (number + 1) rest
      match dispatch.verdict with
      | .silent => later
      | .reported diagnostic =>
        { later with diagnostics := later.diagnostics.map (diagnostic :: ·) }
      | .failed reason => { later with skips := dispatch.skip reason :: later.skips }

/-- What a run of the engine comes to; without diagnostics it was cancelled. -/
structure Run where
  skips : List Skip
  inertRules : List String
  diagnostics : Option (List Diagnostic)

/-- Runs the enabled rules over a compilation. -/
def run (config : Config) (rules : List Rule) (signal : Signal) (compilation : Compilation) : Run :=
  let evaluations := evaluate signal 0 (dispatches config rules compilation)
  ⟨evaluations.skips, inertRules config rules compilation, evaluations.diagnostics⟩

end Engine

end OperationLint
