import OperationLint.Proofs.ConfigSessions
import OperationLint.Proofs.Validation

/-!
# The two formats of configuration files

A file is checked by one format and loaded by another, which asks for less. They agree on all but
one thing: a file can be loaded without a section of rules. What was loaded is what the file says,
rule by rule.

## Main result

`FileTree.validateConfig_agrees`: which files can be loaded and as what, and which of them are
valid.

## Proof strategy

- A reader gives an outcome exactly when the value says so (`RuleConfig.ofMembers_eq_valid`,
  `RuleConfig.readEach_eq_valid`), so both what is read and that it is read follow.
- `ConfigFile.readComplete_eq_valid`: the formats differ in the section alone.
- `lookup_of_statedAs`: a rule is looked up where its entry is.
-/

namespace OperationLint

open Schema Schema.Validation

/-! ### Readers -/

namespace Schema

variable {α : Type}

theorem closed_eq_valid {names : List String} {read : Json.Members → Validation α}
    {members : Json.Members} {result : α} :
    closed names read members = .valid result ↔
      (∀ member ∈ members, member.1 ∈ names) ∧ read members = .valid result := by
  have nothing : (members.map (·.1)).filter (fun key => !names.contains key) = [] ↔
      ∀ member ∈ members, member.1 ∈ names := by
    simp [List.filter_eq_nil_iff]
  rw [← nothing, closed]
  split
  case isTrue unknown => exact (and_iff_right unknown).symm
  case isFalse unknown => exact iff_of_false (by simp) fun both => unknown both.1

/-- A member whose reader accepts only what is written. -/
theorem optional_eq_valid_iff {read : Json → Validation α} {write : α → Json}
    (exact : ∀ json value, read json = .valid value ↔ json = write value) {name : String}
    {members : Json.Members} {result : Option α} :
    optional name read members = .valid result ↔ members.lookup name = result.map write := by
  rw [optional_eq_valid]
  cases result with
  | none => simp
  | some value => simp [exact]

/-- A member that has to be there is one that may be missing and is not. -/
theorem some_required_eq_valid {name : String} {read : Json → Validation α}
    {members : Json.Members} {result : Option α} :
    some <$> required name read members = .valid result ↔
      optional name read members = .valid result ∧ members.lookup name ≠ none := by
  cases found : members.lookup name <;> simp [required, optional, found]

theorem severity_eq_valid (json : Json) (severity : Severity) :
    oneOf Severity.all Severity.name json = .valid severity ↔ json = .string severity.name := by
  constructor
  · exact name_of_oneOf
  · rintro rfl
    cases severity <;> rfl

end Schema

/-! ### What files say -/

/-- An entry of a file says of a rule what is configured, and nothing else. -/
def RuleConfig.StatedBy (rule : RuleConfig) (entry : Json) : Prop :=
  ∃ members, entry = .object members ∧
    (∀ member ∈ members, member.1 ∈ ["enabled", "severity"]) ∧
    members.lookup "enabled" = rule.enabled.map .bool ∧
    members.lookup "severity" = rule.severity.map fun severity => .string severity.name

/-- An entry with its id and the rule that is configured under that id. -/
def StatedAs (entry : String × Json) (rule : String × RuleConfig) : Prop :=
  rule.1 = entry.1 ∧ rule.2.StatedBy entry.2

/-- The section of a file says which rules are configured: it is an object of entries that are
rules, and all of them count but the one that is left out. Without a section there are none. -/
def RulesStatedBy (rules : List (String × RuleConfig)) : Option Json → Prop
  | none => rules = []
  | some section_ => ∃ entries, section_ = .object entries ∧
      ∃ all, List.Forall₂ StatedAs entries all ∧ rules = all.filter (·.1 != "__proto__")

/-- The flag of a file; it is off when it is missing. -/
def FlagStatedBy (flag : Bool) : Option Json → Prop
  | none => flag = false
  | some value => value = .bool flag

/-- The members of a file say what is configured, and there are no others. -/
structure Config.StatedBy (config : Config) (members : Json.Members) : Prop where
  known : ∀ member ∈ members, member.1 ∈ ["rules", "buildingExtension"]
  rules : RulesStatedBy config.rules (members.lookup "rules")
  buildingExtension :
    FlagStatedBy config.buildingExtension (members.lookup "buildingExtension")

/-! ### Reading files -/

theorem RuleConfig.ofMembers_eq_valid {members : Json.Members} {rule : RuleConfig} :
    ofMembers members = .valid rule ↔ rule.StatedBy (.object members) := by
  obtain ⟨enabled, severity⟩ := rule
  simp [ofMembers, closed_eq_valid, optional_eq_valid_iff (fun _ _ => boolean_eq_valid),
    optional_eq_valid_iff severity_eq_valid, StatedBy]

theorem RuleConfig.readEach_eq_valid {entries : Json.Members} {rules : List (String × RuleConfig)} :
    readEach entries = .valid rules ↔ List.Forall₂ StatedAs entries rules := by
  induction entries generalizing rules with
  | nil => simp [readEach, eq_comm]
  | cons entry more ih =>
    obtain ⟨id, value⟩ := entry
    have first (rule : RuleConfig) :
        object ofMembers value = .valid rule ↔ rule.StatedBy value := by
      cases value with
      | object members => exact ofMembers_eq_valid
      | _ => simp [StatedBy]
    simp only [readEach, seq_eq_valid, map_eq_valid, under_eq_valid, first, ih]
    constructor
    · rintro ⟨_, ⟨rule, stated, rfl⟩, others, paired, rfl⟩
      exact .cons ⟨rfl, stated⟩ paired
    · intro paired
      cases paired with
      | @cons _ rule _ others stated paired =>
        obtain ⟨name, rule⟩ := rule
        obtain ⟨rfl, stated⟩ := stated
        exact ⟨_, ⟨rule, stated, rfl⟩, others, paired, rfl⟩

theorem RuleConfig.readSection_eq_valid {value : Json} {rules : List (String × RuleConfig)} :
    readSection value = .valid rules ↔ ∃ entries, value = .object entries ∧
      ∃ all, List.Forall₂ StatedAs entries all ∧ rules = all.filter (·.1 != "__proto__") := by
  have mapped : readSection value =
      (fun all : List (String × RuleConfig) => all.filter (·.1 != "__proto__")) <$>
        object readEach value := rfl
  simp only [mapped, map_eq_valid, object_eq_valid, readEach_eq_valid]
  constructor
  · rintro ⟨all, ⟨entries, rfl, paired⟩, rfl⟩
    exact ⟨entries, rfl, all, paired, rfl⟩
  · rintro ⟨entries, rfl, all, paired, rfl⟩
    exact ⟨all, ⟨entries, rfl, paired⟩, rfl⟩

namespace ConfigFile

theorem ofMembers_eq_valid
    {readRules : Json.Members → Validation (Option (List (String × RuleConfig)))}
    {members : Json.Members} {file : ConfigFile} :
    ofMembers readRules members = .valid file ↔
      (∀ member ∈ members, member.1 ∈ ["rules", "buildingExtension"]) ∧
      readRules members = .valid file.rules ∧
      members.lookup "buildingExtension" = file.buildingExtension.map .bool := by
  obtain ⟨rules, flag⟩ := file
  simp [ofMembers, closed_eq_valid, optional_eq_valid_iff (fun _ _ => boolean_eq_valid)]

/-- The formats differ in one thing: a valid file has a section of rules. -/
theorem readComplete_eq_valid {json : Json} {file : ConfigFile} :
    readComplete json = .valid file ↔ readPartial json = .valid file ∧
      ∃ members, json = .object members ∧ members.lookup "rules" ≠ none := by
  simp only [readComplete, readPartial, object_eq_valid, ofMembers_eq_valid,
    some_required_eq_valid]
  constructor
  · rintro ⟨members, rfl, known, ⟨rules, present⟩, flag⟩
    exact ⟨⟨members, rfl, known, rules, flag⟩, members, rfl, present⟩
  · rintro ⟨⟨members, rfl, known, rules, flag⟩, _, ⟨rfl⟩, present⟩
    exact ⟨members, rfl, known, ⟨rules, present⟩, flag⟩

theorem exists_rules_iff {members : Json.Members} {rules : List (String × RuleConfig)} :
    (∃ read, Schema.optional "rules" RuleConfig.readSection members = .valid read ∧
      read.getD Config.default.rules = rules) ↔
    RulesStatedBy rules (members.lookup "rules") := by
  simp only [optional_eq_valid, RuleConfig.readSection_eq_valid]
  cases members.lookup "rules" with
  | none => simp [RulesStatedBy, Config.default, eq_comm]
  | some value =>
    constructor
    · rintro ⟨_, ⟨⟨⟩, _⟩ | ⟨_, ⟨rfl⟩, read, stated, rfl⟩, rfl⟩
      exact stated
    · intro stated
      exact ⟨some rules, .inr ⟨value, rfl, rules, stated, rfl⟩, rfl⟩

theorem exists_flag_iff {members : Json.Members} {flag : Bool} :
    (∃ read : Option Bool, members.lookup "buildingExtension" = read.map .bool ∧
      read.getD Config.default.buildingExtension = flag) ↔
    FlagStatedBy flag (members.lookup "buildingExtension") := by
  cases members.lookup "buildingExtension" with
  | none => simp [FlagStatedBy, Config.default, eq_comm]
  | some value =>
    constructor
    · rintro ⟨_ | read, written, rfl⟩
      · cases written
      · exact Option.some.inj written
    · rintro rfl
      exact ⟨some flag, rfl, rfl⟩

/-- Loading a value gives a configuration exactly when the value is an object that says so. -/
theorem exists_readPartial_iff {json : Json} {config : Config} :
    (∃ file, readPartial json = .valid file ∧ file.config = config) ↔
      ∃ members, json = .object members ∧ config.StatedBy members := by
  simp only [readPartial, object_eq_valid, ofMembers_eq_valid]
  constructor
  · rintro ⟨file, ⟨members, rfl, known, rules, flag⟩, rfl⟩
    exact ⟨members, rfl, known, exists_rules_iff.mp ⟨file.rules, rules, rfl⟩,
      exists_flag_iff.mp ⟨file.buildingExtension, flag, rfl⟩⟩
  · rintro ⟨members, rfl, known, rulesStated, flagStated⟩
    obtain ⟨rules, read, sameRules⟩ := exists_rules_iff.mpr rulesStated
    obtain ⟨flag, written, sameFlag⟩ := exists_flag_iff.mpr flagStated
    refine ⟨⟨rules, flag⟩, ⟨members, rfl, known, read, written⟩, ?_⟩
    rw [ConfigFile.config, sameRules, sameFlag]

end ConfigFile

/-! ### Rules by id -/

/-- An entry says one thing. -/
theorem RuleConfig.StatedBy.unique {rule other : RuleConfig} {entry : Json}
    (stated : rule.StatedBy entry) (otherStated : other.StatedBy entry) : rule = other := by
  obtain ⟨enabled, severity⟩ := rule
  obtain ⟨otherEnabled, otherSeverity⟩ := other
  obtain ⟨members, rfl, _, sayEnabled, saySeverity⟩ := stated
  obtain ⟨_, ⟨rfl⟩, _, otherSayEnabled, otherSaySeverity⟩ := otherStated
  have flags : Function.Injective Json.bool := fun _ _ same => Json.bool.inj same
  have names : Function.Injective fun severity : Severity => Json.string severity.name := by
    intro one another same
    have own : Function.Injective Severity.name :=
      injective_of_find? Severity.all fun severity => by cases severity <;> rfl
    exact own (Json.string.inj same)
  have sameEnabled : enabled = otherEnabled :=
    Option.map_injective flags (sayEnabled.symm.trans otherSayEnabled)
  have sameSeverity : severity = otherSeverity :=
    Option.map_injective names (saySeverity.symm.trans otherSaySeverity)
  rw [sameEnabled, sameSeverity]

/-- A rule is found where its entry is. -/
theorem lookup_of_statedAs {entries : Json.Members} {all : List (String × RuleConfig)}
    (paired : List.Forall₂ StatedAs entries all) {id : String} {rule : RuleConfig} :
    all.lookup id = some rule ↔ ∃ entry, entries.lookup id = some entry ∧ rule.StatedBy entry := by
  induction paired with
  | nil => simp
  | @cons entry stated _ _ head _ ih =>
    obtain ⟨name, here⟩ := stated
    obtain ⟨same, entryStated⟩ := head
    obtain ⟨_, value⟩ := entry
    cases same
    cases found : id == name with
    | true =>
      simp only [List.lookup_cons, found, Option.some.injEq, exists_eq_left']
      exact ⟨fun same => same ▸ entryStated, entryStated.unique⟩
    | false => simpa only [List.lookup_cons, found] using ih

/-- Leaving out a name leaves all other names as they were. -/
theorem lookup_filter (all : List (String × RuleConfig)) {id out : String} (other : id ≠ out) :
    (all.filter (·.1 != out)).lookup id = all.lookup id := by
  induction all with
  | nil => rfl
  | cons rule more ih =>
    obtain ⟨name, rule⟩ := rule
    rw [List.filter_cons]
    split
    next => rw [List.lookup_cons, List.lookup_cons, ih]
    next isOut =>
      have notId : (id == name) = false := by
        have same : name = out := by simpa using isOut
        simpa [same] using other
      rw [ih, List.lookup_cons, notId]

theorem Config.StatedBy.rule?_eq_some {config : Config} {members : Json.Members}
    (stated : config.StatedBy members) {id : String} {rule : RuleConfig} :
    config.rule? id = some rule ↔ id ≠ "__proto__" ∧
      ∃ entry, (Json.object members).get? [.key "rules", .key id] = some entry ∧
        rule.StatedBy entry := by
  have rules := stated.rules
  simp only [Json.get?, Json.child?, Config.rule?]
  cases found : members.lookup "rules" with
  | none =>
    rw [found] at rules
    simp [show config.rules = [] from rules]
  | some section_ =>
    rw [found] at rules
    obtain ⟨entries, rfl, all, paired, filtered⟩ := rules
    rw [filtered]
    by_cases isOut : id = "__proto__"
    · subst isOut
      have absent : (all.filter (·.1 != "__proto__")).lookup "__proto__" = none := by
        rw [List.lookup_eq_none_iff]
        intro rule kept
        have other : rule.1 ≠ "__proto__" := by simpa using (List.mem_filter.mp kept).2
        simpa using other.symm
      simp [absent]
    · rw [lookup_filter all isOut, lookup_of_statedAs paired]
      simp [isOut]

/-! ### Files -/

namespace FileTree

variable {files : FileTree} {path : String}

theorem contains_of_read {text : String} (content : files.read path = .ok text) :
    files.contains path = true := by
  unfold FileTree.read at content
  unfold contains
  cases resolved : files.resolve path with
  | error fault => simp [resolved] at content
  | ok place =>
    cases node : files.node? place with
    | none => simp [resolved, node] at content
    | some _ => simp [node]

theorem contains_of_readJson {json : Json} (parsed : files.readJson path = .ok json) :
    files.contains path = true := by
  cases content : files.read path with
  | error fault => simp [readJson, Json.ofContent, content] at parsed
  | ok text => exact contains_of_read content

theorem loadConfig_eq_ok {project : String} (named : path ≠ "") {config : Config} :
    files.loadConfig project (some path) = .ok config ↔
      ∃ members, files.readJson path = .ok (.object members) ∧ config.StatedBy members := by
  have load : files.loadConfig project (some path) =
      if files.contains path then
        ConfigFile.config <$> files.readConfigFile ConfigFile.readPartial path
      else .error ⟨.notFound, some path⟩ := by
    have kept : (some path).filter (· ≠ "") = some path :=
      Option.filter_some_pos (by simpa using named)
    simp only [loadConfig, kept]
    rfl
  rw [load]
  constructor
  · intro loaded
    split at loaded
    case isFalse => cases loaded
    case isTrue =>
      cases read : files.readConfigFile ConfigFile.readPartial path with
      | error error => simp [read] at loaded
      | ok file =>
        obtain ⟨json, parsed, valid⟩ := readConfigFile_eq_ok.mp read
        have same : file.config = config := by simpa [read] using loaded
        obtain ⟨members, rfl, stated⟩ := ConfigFile.exists_readPartial_iff.mp ⟨file, valid, same⟩
        exact ⟨members, parsed, stated⟩
  · rintro ⟨members, parsed, stated⟩
    obtain ⟨file, valid, rfl⟩ := ConfigFile.exists_readPartial_iff.mpr ⟨members, rfl, stated⟩
    rw [if_pos (contains_of_readJson parsed), readConfigFile_eq_ok.mpr ⟨_, parsed, valid⟩]
    rfl

theorem validateConfig_eq_true :
    (files.validateConfig path).2 = true ↔
      ∃ file, files.readConfigFile ConfigFile.readComplete path = .ok file := by
  unfold validateConfig
  cases files.readConfigFile ConfigFile.readComplete path <;> simp

/-- A named file is loaded exactly when it is an object that says what is configured, and as what it
says. A file is valid exactly when it can be loaded and has a section of rules. In what was loaded a
rule is configured exactly when the file has an entry for it that is not left out, with what the
entry says. -/
theorem validateConfig_agrees (files : FileTree) (project path : String) (named : path ≠ "") :
    (∀ config, files.loadConfig project (some path) = .ok config ↔
      ∃ members, files.readJson path = .ok (.object members) ∧ config.StatedBy members) ∧
    ((files.validateConfig path).2 = true ↔
      (∃ config, files.loadConfig project (some path) = .ok config) ∧
      ∃ members, files.readJson path = .ok (.object members) ∧
        members.lookup "rules" ≠ none) ∧
    ∀ config json, files.loadConfig project (some path) = .ok config →
      files.readJson path = .ok json →
      ∀ id rule, config.rule? id = some rule ↔ id ≠ "__proto__" ∧
        ∃ entry, json.get? [.key "rules", .key id] = some entry ∧ rule.StatedBy entry := by
  refine ⟨fun config => loadConfig_eq_ok named, ?_, ?_⟩
  · simp only [validateConfig_eq_true, readConfigFile_eq_ok, ConfigFile.readComplete_eq_valid,
      loadConfig_eq_ok named]
    constructor
    · rintro ⟨file, json, parsed, valid, members, rfl, present⟩
      obtain ⟨_, ⟨rfl⟩, stated⟩ := ConfigFile.exists_readPartial_iff.mp ⟨file, valid, rfl⟩
      exact ⟨⟨file.config, members, parsed, stated⟩, members, parsed, present⟩
    · rintro ⟨⟨config, members, parsed, stated⟩, others, again, present⟩
      obtain ⟨file, valid, _⟩ := ConfigFile.exists_readPartial_iff.mpr ⟨members, rfl, stated⟩
      exact ⟨file, _, parsed, valid, others, Except.ok.inj (parsed.symm.trans again), present⟩
  · intro config json loaded parsed id rule
    obtain ⟨members, again, stated⟩ := (loadConfig_eq_ok named).mp loaded
    obtain rfl := Except.ok.inj (again.symm.trans parsed)
    exact stated.rule?_eq_some

/-- A section with the name that is left out, and with a name that objects have of their own. -/
def oddConfig : Config :=
  ⟨[("__proto__", ⟨some true, none⟩), ("constructor", ⟨none, some .info⟩)], true⟩

/-- A directory with a configuration in it. -/
def filesOf (config : Config) : FileTree := ofFiles ["work"] [("config.json", config.fileText)]

theorem readJson_filesOf {config : Config} (legible : config.toJson.Legible) :
    (filesOf config).readJson "config.json" = .ok config.toJson := by
  have content : (filesOf config).read "config.json" = .ok config.fileText := rfl
  exact readJson_eq_ok content (Json.parse?_indented legible (.inr rfl))

theorem validateConfig_agrees_odd :
    (filesOf oddConfig).loadConfig "." (some "config.json") =
      .ok ⟨[("constructor", ⟨none, some .info⟩)], true⟩ ∧
    ((filesOf oddConfig).validateConfig "config.json").2 = true ∧
    RuleConfig.StatedBy ⟨none, some .info⟩ (.object [("severity", .string "info")]) := by
  obtain ⟨loads, valid, byId⟩ :=
    validateConfig_agrees (filesOf oddConfig) "." "config.json" (by decide)
  have legible : oddConfig.toJson.Legible := Config.legible_toJson (by decide) (by decide)
  have read := readJson_filesOf legible
  have proto : RuleConfig.StatedBy ⟨some true, none⟩ (.object [("enabled", .bool true)]) :=
    ⟨_, rfl, by simp, rfl, rfl⟩
  have odd : RuleConfig.StatedBy ⟨none, some .info⟩ (.object [("severity", .string "info")]) :=
    ⟨_, rfl, by simp, rfl, rfl⟩
  have rules : RulesStatedBy [("constructor", ⟨none, some .info⟩)]
      (some (.object [("__proto__", .object [("enabled", .bool true)]),
        ("constructor", .object [("severity", .string "info")])])) :=
    ⟨_, rfl, oddConfig.rules, .cons ⟨rfl, proto⟩ (.cons ⟨rfl, odd⟩ .nil), by decide⟩
  have loaded := (loads ⟨[("constructor", ⟨none, some .info⟩)], true⟩).mpr
    ⟨_, read, by simp, rules, rfl⟩
  refine ⟨loaded, valid.mpr ⟨⟨_, loaded⟩, _, read, by simp⟩, ?_⟩
  obtain ⟨_, entry, found, stated⟩ :=
    (byId _ _ loaded read "constructor" ⟨none, some .info⟩).mp rfl
  cases found
  exact stated

end FileTree

end OperationLint
