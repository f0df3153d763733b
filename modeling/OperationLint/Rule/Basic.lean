import OperationLint.Compilation.Basic
import OperationLint.Diagnostic.Basic
import OperationLint.Operation.Walk

/-!
# Rules

A rule names the kinds of operations it looks at. For each compilation it either finds what it
needs and gives an evaluator, or stays inert. An evaluator judges one place at a time.
-/

namespace OperationLint

/-- What is said about a rule, and what its diagnostics say. -/
structure Descriptor where
  id : String
  title : String
  messageFormat : String
  description : String
  category : Category
  defaultSeverity : Severity
  isEnabledByDefault : Bool
  helpUri : Option String
  customTags : List String

namespace Descriptor

/-- The diagnostic of a rule at a location. -/
def diagnostic (descriptor : Descriptor) (severity : Severity) (location : Location)
    (arguments : List String) (additionalLocations : List Location) : Diagnostic where
  ruleId := descriptor.id
  severity := severity
  category := descriptor.category
  message := Placeholder.expand descriptor.messageFormat arguments
  location := location
  additionalLocations := additionalLocations

/-- A page about the rule, if it names one. -/
def help? (descriptor : Descriptor) : Option String :=
  descriptor.helpUri.filter (· ≠ "")

end Descriptor

/-- An operation with the block it stands in and the number of operations before it in the
compilation. -/
structure Site where
  block : BoundBlock
  operation : BoundOperation
  position : Nat

/-- Every operation of a compilation: blocks in order, each body before the operations below it. -/
def Compilation.sites (compilation : Compilation) : List Site :=
  let places := compilation.blocks.flatMap fun block =>
    block.body.descendantsAndSelf.map (block, ·)
  places.zipIdx.map fun ((block, operation), position) => ⟨block, operation, position⟩

/-- What an evaluator finds at a site. -/
inductive Verdict where
  | silent
  | reported (diagnostic : Diagnostic)
  | failed (reason : String)

/-- Judges a site; diagnostics have the given severity. -/
abbrev Evaluator := Severity → Site → Verdict

structure Rule where
  descriptor : Descriptor
  /-- Whether blocks of generated code count. -/
  analyzesGenerated : Bool
  kinds : List Kind
  /-- Without an evaluator the rule is inert for the compilation. -/
  start : Compilation → Option Evaluator

end OperationLint
