import OperationLint.Config.Basic
import OperationLint.Json.Writer
import OperationLint.Rule.Texts

/-!
# Configuration templates

The configurations that a project can start from. They name every rule that ships.
-/

namespace OperationLint

inductive ConfigTemplate where
  | default
  | strict
  deriving DecidableEq

namespace ConfigTemplate

def all : List ConfigTemplate := [.default, .strict]

def name : ConfigTemplate → String
  | .default => "default"
  | .strict => "strict"

/-- The severity of every rule. -/
def severity : ConfigTemplate → Severity
  | .default => .warning
  | .strict => .error

def config (template : ConfigTemplate) : Config where
  rules := ShippedRule.all.map fun rule => (rule.id, ⟨some true, some template.severity⟩)
  buildingExtension := false

end ConfigTemplate

def RuleConfig.toJson (rule : RuleConfig) : Json :=
  .object <|
    (rule.enabled.map fun enabled => ("enabled", Json.bool enabled)).toList
    ++ (rule.severity.map fun severity => ("severity", Json.string severity.name)).toList

def Config.toJson (config : Config) : Json :=
  .object
    [("rules", .object (config.rules.map fun (id, rule) => (id, rule.toJson))),
      ("buildingExtension", .bool config.buildingExtension)]

/-- The text of a configuration file. -/
def Config.fileText (config : Config) : String := config.toJson.indented ++ "\n"

end OperationLint
