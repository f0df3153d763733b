import OperationLint.Config.Basic
import OperationLint.Schema.Validation

/-!
# The configuration format

A configuration file has a section for rules and a flag for extension builds, and no other keys. To
be valid it needs the section; to be loaded it does not.
-/

namespace OperationLint

open Schema

/-- What a configuration file says. -/
structure ConfigFile where
  rules : Option (List (String × RuleConfig))
  buildingExtension : Option Bool

def RuleConfig.ofMembers : Json.Members → Validation RuleConfig :=
  closed ["enabled", "severity"] fun members =>
    RuleConfig.mk
      <$> optional "enabled" boolean members
      <*> optional "severity" (oneOf Severity.all Severity.name) members

/-- Rules by id. -/
def RuleConfig.readEach : Json.Members → Validation (List (String × RuleConfig))
  | [] => .valid []
  | (id, value) :: rest =>
    (fun rule rules => (id, rule) :: rules)
      <$> (object RuleConfig.ofMembers value).under (.key id)
      <*> RuleConfig.readEach rest

/-- The section of rules. An entry named `__proto__` is checked like any other and then left out. -/
def RuleConfig.readSection (section_ : Json) : Validation (List (String × RuleConfig)) :=
  (object RuleConfig.readEach section_).map (·.filter (·.1 != "__proto__"))

namespace ConfigFile

/-- The format with its section of rules read in one way or another. -/
def ofMembers (rules : Json.Members → Validation (Option (List (String × RuleConfig)))) :
    Json.Members → Validation ConfigFile :=
  closed ["rules", "buildingExtension"] fun members =>
    ConfigFile.mk <$> rules members <*> optional "buildingExtension" boolean members

/-- The format of a file to load. -/
def readPartial : Json → Validation ConfigFile :=
  object (ofMembers (optional "rules" RuleConfig.readSection))

/-- The format of a valid file. -/
def readComplete : Json → Validation ConfigFile :=
  object (ofMembers fun members => some <$> required "rules" RuleConfig.readSection members)

/-- The configuration that a file stands for. -/
def config (file : ConfigFile) : Config where
  rules := file.rules.getD Config.default.rules
  buildingExtension := file.buildingExtension.getD Config.default.buildingExtension

end ConfigFile

end OperationLint
