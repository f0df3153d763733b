import Mathlib.Data.List.Basic
import OperationLint.Engine
import OperationLint.Rule.Catalog

/-!
# The share of one rule in a run

A run that is not cancelled publishes what the evaluations report, in order. When no other rule
reports under the id of a rule, the diagnostics with that id are exactly what the rule finds at the
sites it looks at, in the order of the sites, whatever the other rules do.

Rules are looked up in a table by the kind of an operation. `dispatches_eq_flatMap` takes the table
out: at each site the rules that look at it take their turns, in the order in which they are active.
-/

namespace OperationLint

/-- The diagnostic of a verdict. -/
def Verdict.diagnostic? : Verdict → Option Diagnostic
  | reported diagnostic => some diagnostic
  | _ => none

namespace Rule

/-- A rule never reports under an id. -/
def Avoids (rule : Rule) (id : String) : Prop :=
  ∀ compilation evaluator severity site diagnostic, rule.start compilation = some evaluator →
    evaluator severity site = .reported diagnostic → diagnostic.ruleId ≠ id

/-- What a rule reports it reports under its own id. -/
def ReportsAsItself (rule : Rule) : Prop :=
  ∀ compilation evaluator severity site diagnostic, rule.start compilation = some evaluator →
    evaluator severity site = .reported diagnostic → diagnostic.ruleId = rule.descriptor.id

theorem ReportsAsItself.avoids {rule : Rule} (own : rule.ReportsAsItself) {id : String}
    (different : rule.descriptor.id ≠ id) : rule.Avoids id := by
  intro compilation evaluator severity site diagnostic started reported same
  exact different ((own _ _ _ _ _ started reported).symm.trans same)

/-- How a rule judges a site, generated or not. -/
def judge? (rule : Rule) (config : Config) (compilation : Compilation) (site : Site) :
    Option Diagnostic :=
  (rule.start compilation).bind fun evaluator =>
    if rule.kinds.contains site.operation.kind then
      (evaluator (config.severityOf rule.descriptor) site).diagnostic?
    else none

/-- What a rule finds at a site. -/
def finding? (rule : Rule) (config : Config) (compilation : Compilation) (site : Site) :
    Option Diagnostic :=
  if rule.analyzesGenerated || !site.block.isGenerated then rule.judge? config compilation site
  else none

end Rule

namespace Engine

variable {config : Config} {compilation : Compilation} {rule : Rule} {id : String}

/-- Without a signal every evaluation takes place. -/
theorem evaluate_never (number : Nat) (dispatches : List Dispatch) :
    (evaluate Signal.never number dispatches).diagnostics =
      some (dispatches.filterMap (·.verdict.diagnostic?)) := by
  induction dispatches generalizing number with
  | nil => rfl
  | cons dispatch rest ih =>
    rw [evaluate, List.filterMap_cons]
    simp only [Signal.never, Bool.false_eq_true, if_false]
    have later := ih (number + 1)
    cases dispatch.verdict with
    | silent => exact later
    | failed reason => exact later
    | reported diagnostic => simp only [Verdict.diagnostic?, later, Option.map_some]

/-! ### Registrations -/

theorem nodup_eraseDups {α : Type} [BEq α] [LawfulBEq α] (values : List α) :
    values.eraseDups.Nodup := by
  -- What comes behind a value is filtered first, so the induction is on the length.
  induction size : values.length using Nat.strongRecOn generalizing values with
  | _ size ih =>
    cases values with
    | nil => exact List.nodup_nil
    | cons first rest =>
      have shorter := List.length_filter_le (fun other => !other == first) rest
      rw [List.length_cons] at size
      rw [List.eraseDups_cons, List.nodup_cons]
      exact ⟨by simp [List.mem_eraseDups], ih _ (by omega) _ rfl⟩

namespace Registrations

theorem interested_add (table : Registrations) (active : ActiveRule) (added kind : Kind) :
    (table.add active added).interested kind =
      if kind = added then table.interested kind ++ [active] else table.interested kind := by
  by_cases same : kind = added
  · subst same
    simp [interested, add]
  · have differs : (kind == added) = false := beq_eq_false_iff_ne.mpr same
    simp [interested, add, List.lookup_cons, same, differs]

/-- A rule stands behind the others for each of its kinds, and for no other kind. -/
theorem interested_register (table : Registrations) (active : ActiveRule) (kind : Kind) :
    (table.register active).interested kind =
      table.interested kind ++ [active].filter (·.rule.kinds.contains kind) := by
  have listed : active.rule.kinds.contains kind = active.rule.kinds.eraseDups.contains kind := by
    rw [Bool.eq_iff_iff]
    simp [List.mem_eraseDups]
  have distinct := nodup_eraseDups active.rule.kinds
  rw [register, List.filter_singleton, listed]
  -- The kinds are gone through one by one; the table that they are added to varies.
  generalize active.rule.kinds.eraseDups = kinds at distinct
  induction kinds generalizing table with
  | nil => simp
  | cons first rest ih =>
    obtain ⟨unlisted, others⟩ := List.nodup_cons.mp distinct
    rw [List.foldl_cons, ih _ others, interested_add]
    by_cases same : kind = first
    · subst same
      simp [unlisted]
    · simp [same]

/-- What is registered for a kind are the rules that look at it, in order. -/
theorem interested_ofRules (rules : List ActiveRule) (kind : Kind) :
    (ofRules rules).interested kind = rules.filter (·.rule.kinds.contains kind) := by
  -- Registering can go on from any table: what is there already stays in front.
  have step (table : Registrations) : (rules.foldl register table).interested kind =
      table.interested kind ++ rules.filter (·.rule.kinds.contains kind) := by
    induction rules generalizing table with
    | nil => simp
    | cons active more ih =>
      rw [List.foldl_cons, ih, interested_register, List.append_assoc, ← List.filter_append,
        List.singleton_append]
  exact step []

end Registrations

/-- A rule looks at a site. -/
def ActiveRule.looksAt (active : ActiveRule) (site : Site) : Bool :=
  active.rule.kinds.contains site.operation.kind && active.enters site.block

/-- Every site is shown to the active rules that look at it. -/
theorem dispatches_eq_flatMap (config : Config) (rules : List Rule) (compilation : Compilation) :
    dispatches config rules compilation = compilation.sites.flatMap fun site =>
      ((activeRules config rules compilation).filter (·.looksAt site)).map (⟨site, ·⟩) := by
  simp only [dispatches, Registrations.interested_ofRules, List.filter_filter]
  -- Both sides filter by the kind and by the block, in one order or the other.
  congr 1
  funext site
  congr 2
  funext active
  exact Bool.and_comm _ _

/-! ### Reports -/

/-- The diagnostics that active rules report at a site. -/
def reports (active : List ActiveRule) (site : Site) : List Diagnostic :=
  (active.filter (·.looksAt site)).filterMap fun rule =>
    (rule.evaluator rule.severity site).diagnostic?

theorem run_never_diagnostics (rules : List Rule) :
    (run config rules Signal.never compilation).diagnostics =
      some (compilation.sites.flatMap (reports (activeRules config rules compilation))) := by
  change (evaluate Signal.never 0 (dispatches config rules compilation)).diagnostics = _
  rw [evaluate_never, dispatches_eq_flatMap, List.filterMap_flatMap]
  congr 2
  funext site
  rw [List.filterMap_map]
  rfl

theorem reports_append (front back : List ActiveRule) (site : Site) :
    reports (front ++ back) site = reports front site ++ reports back site := by
  rw [reports, List.filter_append, List.filterMap_append]
  rfl

/-- Rules that avoid an id report nothing under it. -/
theorem filter_reports_of_avoids {numbered : List (Rule × Nat)}
    (others : ∀ entry ∈ numbered, entry.1.Avoids id) (site : Site) :
    (reports (activate config compilation numbered) site).filter (·.ruleId = id) = [] := by
  rw [List.filter_eq_nil_iff]
  intro diagnostic reported
  simp only [reports, activate, activation, List.mem_filterMap, List.mem_filter,
    Option.map_eq_some_iff] at reported
  obtain ⟨active, ⟨⟨⟨rule, number⟩, member, evaluator, started, rfl⟩, _⟩, verdict⟩ := reported
  have avoided := others _ member compilation evaluator (config.severityOf rule.descriptor) site
    diagnostic started
  cases judged : evaluator (config.severityOf rule.descriptor) site with
  | reported other =>
    have same : other = diagnostic := by simpa [judged, Verdict.diagnostic?] using verdict
    simpa using avoided (same ▸ judged)
  | silent => simp [judged, Verdict.diagnostic?] at verdict
  | failed reason => simp [judged, Verdict.diagnostic?] at verdict

/-- A rule on its own reports what it finds. -/
theorem filter_reports_single (own : rule.ReportsAsItself) (number : Nat) (site : Site) :
    (reports (activate config compilation [(rule, number)]) site).filter
      (·.ruleId = rule.descriptor.id) = (rule.finding? config compilation site).toList := by
  cases started : rule.start compilation with
  | none => simp [reports, activate, activation, Rule.finding?, Rule.judge?, started]
  | some evaluator =>
    have judged : ((evaluator (config.severityOf rule.descriptor) site).diagnostic?.toList).filter
        (·.ruleId = rule.descriptor.id) =
          (evaluator (config.severityOf rule.descriptor) site).diagnostic?.toList := by
      cases verdict : evaluator (config.severityOf rule.descriptor) site with
      | reported diagnostic =>
        have same := own compilation evaluator _ site diagnostic started verdict
        simp [Verdict.diagnostic?, same]
      | silent => rfl
      | failed reason => rfl
    by_cases kind : site.operation.kind ∈ rule.kinds
    · by_cases wanted : (rule.analyzesGenerated || !site.block.isGenerated) = true
      · simpa [reports, activate, activation, Rule.finding?, Rule.judge?, started,
          ActiveRule.looksAt, ActiveRule.enters, kind, wanted, List.filterMap_eq_flatMap_toList]
          using judged
      · simp [reports, activate, activation, Rule.finding?, started, ActiveRule.looksAt,
          ActiveRule.enters, wanted]
    · simp [reports, activate, activation, Rule.finding?, Rule.judge?, started,
        ActiveRule.looksAt, kind]

/-- The diagnostics under the id of an enabled rule are what the rule finds, site by site. -/
theorem run_filter_ruleId (compilation : Compilation) {before after : List Rule}
    (enabled : config.isEnabled rule.descriptor = true) (own : rule.ReportsAsItself)
    (others : ∀ other ∈ before ++ after, other.Avoids rule.descriptor.id) :
    ∃ diagnostics, (run config (before ++ rule :: after) Signal.never compilation).diagnostics =
        some diagnostics ∧
      diagnostics.filter (·.ruleId = rule.descriptor.id) =
        compilation.sites.filterMap (rule.finding? config compilation) := by
  refine ⟨_, run_never_diagnostics _, ?_⟩
  have front : ∀ entry ∈ (enabledRules config before).zipIdx,
      entry.1.Avoids rule.descriptor.id := by
    intro entry member
    have inside := List.mem_of_mem_filter (List.fst_mem_of_mem_zipIdx member)
    exact others entry.1 (List.mem_append_left _ inside)
  have back (start : Nat) : ∀ entry ∈ (enabledRules config after).zipIdx start,
      entry.1.Avoids rule.descriptor.id := by
    intro entry member
    have inside := List.mem_of_mem_filter (List.fst_mem_of_mem_zipIdx member)
    exact others entry.1 (List.mem_append_right _ inside)
  -- The enabled rules are those before, the rule itself, and those behind it.
  have split : activeRules config (before ++ rule :: after) compilation =
      activate config compilation (enabledRules config before).zipIdx ++
        (activate config compilation [(rule, (enabledRules config before).length)] ++
          activate config compilation
            ((enabledRules config after).zipIdx ((enabledRules config before).length + 1))) := by
    have kept : enabledRules config (before ++ rule :: after) =
        enabledRules config before ++ rule :: enabledRules config after := by
      simp [enabledRules, List.filter_append, enabled]
    rw [activeRules, activate, kept, List.zipIdx_append, List.zipIdx_cons,
      ← List.singleton_append, List.filterMap_append, List.filterMap_append, Nat.zero_add]
    rfl
  rw [List.filter_flatMap, split, List.filterMap_eq_flatMap_toList]
  congr 1
  funext site
  rw [reports_append, reports_append, List.filter_append, List.filter_append,
    filter_reports_of_avoids front, filter_reports_of_avoids (back _), filter_reports_single own,
    List.nil_append, List.append_nil]

end Engine

/-! ### The rules that ship -/

section Shipped

variable {buildingExtension : Bool} {compilation : Compilation} {evaluator : Evaluator}
  {severity : Severity} {site : Site} {diagnostic : Diagnostic}

theorem CertificateValidation.eq_of_reported
    (started : (CertificateValidation.rule buildingExtension).start compilation = some evaluator)
    (reported : evaluator severity site = .reported diagnostic) :
    diagnostic = (CertificateValidation.descriptor buildingExtension).diagnostic severity
      site.operation.location [] [] := by
  obtain ⟨types, _, rfl⟩ := Option.map_eq_some_iff.mp started
  simp only at reported
  split at reported
  · cases reported
    rfl
  · cases reported

theorem DisposableFinalizer.eq_of_reported
    (started : (DisposableFinalizer.rule buildingExtension).start compilation = some evaluator)
    (reported : evaluator severity site = .reported diagnostic) :
    ∃ types type, leakingType? types site.operation = some type ∧
      diagnostic = report buildingExtension severity type site.operation.location := by
  obtain ⟨types, _, rfl⟩ := Option.map_eq_some_iff.mp started
  simp only at reported
  split at reported
  next type leaking =>
    cases reported
    exact ⟨types, type, leaking, rfl⟩
  next => cases reported

end Shipped

theorem CertificateValidation.reportsAsItself (buildingExtension : Bool) :
    (CertificateValidation.rule buildingExtension).ReportsAsItself := by
  intro compilation evaluator severity site diagnostic started reported
  rw [CertificateValidation.eq_of_reported started reported]
  rfl

theorem DisposableFinalizer.reportsAsItself (buildingExtension : Bool) :
    (DisposableFinalizer.rule buildingExtension).ReportsAsItself := by
  intro compilation evaluator severity site diagnostic started reported
  obtain ⟨_, _, _, rfl⟩ := DisposableFinalizer.eq_of_reported started reported
  rfl

end OperationLint
