import OperationLint.Rule.Basic

/-!
# Configuration

Which rules run and how grave their diagnostics are. What is not configured is as the rule's
descriptor says.
-/

namespace OperationLint

structure RuleConfig where
  enabled : Option Bool
  severity : Option Severity
  deriving DecidableEq

structure Config where
  rules : List (String × RuleConfig)
  buildingExtension : Bool
  deriving DecidableEq

namespace Config

/-- Nothing configured. -/
def default : Config := ⟨[], false⟩

def rule? (config : Config) (id : String) : Option RuleConfig := config.rules.lookup id

def isEnabled (config : Config) (descriptor : Descriptor) : Bool :=
  ((config.rule? descriptor.id).bind (·.enabled)).getD descriptor.isEnabledByDefault

def severityOf (config : Config) (descriptor : Descriptor) : Severity :=
  ((config.rule? descriptor.id).bind (·.severity)).getD descriptor.defaultSeverity

end Config

end OperationLint
