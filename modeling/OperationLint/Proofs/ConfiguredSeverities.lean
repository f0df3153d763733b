import OperationLint.Proofs.Cancellation
import OperationLint.Proofs.LeakedHandles

/-!
# Configured severities

A configuration says which rules run and how grave their diagnostics are. The second has no part in
the first: severities reach the diagnostics and nothing else, neither what is found, nor the order,
nor what is said on the way.

## Main result

`analysis_regraded`: the analyses under two configurations that enable the same rules are the same
but for severities, and each severity is the configured one.

## Proof strategy

- `Rule.LeavesSeverity`: a rule judges first and is told the severity then. The rules that ship do.
- `dispatches_under`: configurations that enable the same rules schedule the same evaluations, each
  under its own severity.
- `evaluate_under`: by induction along the schedule, such evaluations come to the same but for
  severities, whenever a signal is raised.
-/

namespace OperationLint

/-! ### Grading -/

/-- A verdict with its diagnostic at a severity. -/
def Verdict.graded (severity : Severity) : Verdict → Verdict
  | silent => silent
  | reported diagnostic => reported { diagnostic with severity }
  | failed reason => failed reason

/-- An evaluator judges in the same way at every severity, and reports at the one it is told. -/
def Evaluator.LeavesSeverity (evaluator : Evaluator) : Prop :=
  ∀ severity other site, evaluator other site = (evaluator severity site).graded other

def Rule.LeavesSeverity (rule : Rule) : Prop :=
  ∀ compilation evaluator, rule.start compilation = some evaluator → evaluator.LeavesSeverity

/-- Diagnostics that differ in nothing but the severity. -/
def Diagnostic.SameButSeverity (diagnostic other : Diagnostic) : Prop :=
  other = { diagnostic with severity := other.severity }

theorem Evaluator.LeavesSeverity.severity_eq {evaluator : Evaluator}
    (leaves : evaluator.LeavesSeverity) {severity : Severity} {site : Site}
    {diagnostic : Diagnostic} (reported : evaluator severity site = .reported diagnostic) :
    diagnostic.severity = severity := by
  -- Graded at the severity that it was told already, the verdict is what it was.
  have again := leaves severity severity site
  rw [reported, Verdict.graded, Verdict.reported.injEq] at again
  rw [again]

theorem CertificateValidation.leavesSeverity (buildingExtension : Bool) :
    (CertificateValidation.rule buildingExtension).LeavesSeverity := by
  intro compilation evaluator started severity other site
  obtain ⟨types, _, rfl⟩ := Option.map_eq_some_iff.mp started
  by_cases accepted : accepts compilation types site.operation = true
  · simp only [accepted, if_true]
    rfl
  · simp only [accepted]
    rfl

theorem DisposableFinalizer.leavesSeverity (buildingExtension : Bool) :
    (DisposableFinalizer.rule buildingExtension).LeavesSeverity := by
  intro compilation evaluator started severity other site
  obtain ⟨types, _, rfl⟩ := Option.map_eq_some_iff.mp started
  cases leaking : leakingType? types site.operation with
  | none =>
    simp only [leaking]
    rfl
  | some type =>
    simp only [leaking]
    rfl

/-! ### The rules of a build -/

theorem mem_allRules {buildingExtension : Bool} {rule : Rule}
    (member : rule ∈ allRules buildingExtension) :
    rule = CertificateValidation.rule buildingExtension ∨
      rule = DisposableFinalizer.rule buildingExtension := by
  cases buildingExtension with
  | true => exact .inl (List.mem_singleton.mp member)
  | false => simpa [allRules] using member

theorem allRules_leaveSeverity {buildingExtension : Bool} :
    ∀ rule ∈ allRules buildingExtension, rule.LeavesSeverity := by
  intro rule member
  rcases mem_allRules member with rfl | rfl
  · exact CertificateValidation.leavesSeverity buildingExtension
  · exact DisposableFinalizer.leavesSeverity buildingExtension

theorem allRules_reportAsThemselves {buildingExtension : Bool} :
    ∀ rule ∈ allRules buildingExtension, rule.ReportsAsItself := by
  intro rule member
  rcases mem_allRules member with rfl | rfl
  · exact CertificateValidation.reportsAsItself buildingExtension
  · exact DisposableFinalizer.reportsAsItself buildingExtension

/-- No two rules of a build share an id. -/
theorem allRules_distinct (buildingExtension : Bool) :
    ((allRules buildingExtension).map (·.descriptor.id)).Nodup := by
  cases buildingExtension <;> decide

namespace Engine

variable {config other : Config} {rules : List Rule} {compilation : Compilation}

/-! ### Schedules under another configuration -/

/-- An active rule with the severity that a configuration gives it. -/
def ActiveRule.under (config : Config) (active : ActiveRule) : ActiveRule :=
  { active with severity := config.severityOf active.rule.descriptor }

/-- A dispatch with the severity that a configuration gives its rule. -/
def Dispatch.under (config : Config) (dispatch : Dispatch) : Dispatch :=
  { dispatch with active := dispatch.active.under config }

section SameRules

variable (enables : ∀ rule ∈ rules,
  config.isEnabled rule.descriptor = other.isEnabled rule.descriptor)

include enables

theorem enabledRules_congr : enabledRules config rules = enabledRules other rules :=
  List.filter_congr enables

theorem inertRules_congr (compilation : Compilation) :
    inertRules config rules compilation = inertRules other rules compilation := by
  rw [inertRules, inertRules, enabledRules_congr enables]

theorem activeRules_under :
    activeRules other rules compilation =
      (activeRules config rules compilation).map (·.under other) := by
  rw [activeRules, activeRules, activate, activate, enabledRules_congr enables, List.map_filterMap]
  congr 1
  funext entry
  obtain ⟨rule, number⟩ := entry
  dsimp only
  rw [activation, activation, Option.map_map]
  rfl

theorem dispatches_under :
    dispatches other rules compilation =
      (dispatches config rules compilation).map (·.under other) := by
  rw [dispatches_eq_flatMap, dispatches_eq_flatMap, activeRules_under enables, List.map_flatMap]
  congr 1
  funext site
  -- Whether a rule looks at a site does not depend on its severity.
  rw [List.filter_map, List.map_map, List.map_map]
  rfl

end SameRules

/-! ### Evaluations under another configuration -/

/-- Evaluations with the same failures, and the same diagnostics but for severities. -/
structure Evaluations.SameButSeverity (evaluations others : Evaluations) : Prop where
  skips : evaluations.skips = others.skips
  diagnostics : Option.Rel (List.Forall₂ Diagnostic.SameButSeverity) evaluations.diagnostics
    others.diagnostics

theorem Dispatch.verdict_under {dispatch : Dispatch}
    (leaves : dispatch.active.evaluator.LeavesSeverity) :
    (dispatch.under other).verdict =
      dispatch.verdict.graded (other.severityOf dispatch.active.rule.descriptor) :=
  leaves _ _ _

theorem evaluate_under (signal : Signal) (number : Nat) {scheduled : List Dispatch}
    (leaves : ∀ dispatch ∈ scheduled, dispatch.active.evaluator.LeavesSeverity) :
    (evaluate signal number scheduled).SameButSeverity
      (evaluate signal number (scheduled.map (·.under other))) := by
  induction scheduled generalizing number with
  | nil => exact ⟨rfl, .some .nil⟩
  | cons dispatch rest ih =>
    obtain ⟨first, others⟩ := List.forall_mem_cons.mp leaves
    have later := ih (number + 1) others
    rw [List.map_cons, evaluate, evaluate]
    by_cases raised : signal number = true
    · rw [if_pos raised, if_pos raised]
      exact ⟨rfl, .none⟩
    · rw [if_neg raised, if_neg raised, Dispatch.verdict_under first]
      -- What becomes of the verdict here is the same on both sides, and the rest is as later on.
      cases dispatch.verdict with
      | silent => exact later
      | failed reason => exact ⟨congrArg (List.cons _) later.skips, later.diagnostics⟩
      | reported diagnostic =>
        refine ⟨later.skips, ?_⟩
        have published := later.diagnostics
        simp only [Verdict.graded]
        generalize (evaluate signal (number + 1) rest).diagnostics = here at published ⊢
        generalize (evaluate signal (number + 1) (rest.map (·.under other))).diagnostics = there
          at published ⊢
        cases published with
        | none => exact .none
        | some pairs => exact .some (.cons rfl pairs)

theorem mem_dispatches {dispatch : Dispatch}
    (member : dispatch ∈ dispatches config rules compilation) :
    dispatch.site ∈ compilation.sites ∧ dispatch.active.rule ∈ enabledRules config rules ∧
      dispatch.active.rule.start compilation = some dispatch.active.evaluator ∧
      dispatch.active.severity = config.severityOf dispatch.active.rule.descriptor := by
  rw [dispatches_eq_flatMap] at member
  obtain ⟨site, visited, shown⟩ := List.mem_flatMap.mp member
  obtain ⟨active, looking, rfl⟩ := List.mem_map.mp shown
  obtain ⟨⟨rule, number⟩, listed, started⟩ := List.mem_filterMap.mp (List.mem_of_mem_filter looking)
  obtain ⟨evaluator, found, rfl⟩ := Option.map_eq_some_iff.mp started
  exact ⟨visited, List.fst_mem_of_mem_zipIdx listed, found, rfl⟩

/-- Configurations that enable the same rules lead to the same evaluations but for severities. -/
theorem evaluations_regraded (signal : Signal) (compilation : Compilation)
    (leaves : ∀ rule ∈ rules, rule.LeavesSeverity)
    (enables : ∀ rule ∈ rules,
      config.isEnabled rule.descriptor = other.isEnabled rule.descriptor) :
    (evaluate signal 0 (dispatches config rules compilation)).SameButSeverity
      (evaluate signal 0 (dispatches other rules compilation)) := by
  rw [dispatches_under enables]
  apply evaluate_under
  intro dispatch member
  obtain ⟨_, enabled, started, _⟩ := mem_dispatches member
  exact leaves _ (List.mem_of_mem_filter enabled) _ _ started

/-! ### Where diagnostics come from -/

/-- What a run publishes was reported by an enabled rule at some site. -/
theorem exists_report_of_published {signal : Signal} {published : List Diagnostic}
    (ran : (run config rules signal compilation).diagnostics = some published)
    {diagnostic : Diagnostic} (listed : diagnostic ∈ published) :
    ∃ rule ∈ enabledRules config rules, ∃ evaluator, rule.start compilation = some evaluator ∧
      ∃ site ∈ compilation.sites,
        evaluator (config.severityOf rule.descriptor) site = .reported diagnostic := by
  -- The run was not cancelled, so it is the run without a signal.
  have quiet : ¬ signal.Interrupts (dispatches config rules compilation) := by
    rw [← run_cancelled_iff, ran]
    exact Option.some_ne_none published
  rw [run_quiet quiet, run_never, Option.some.injEq] at ran
  rw [← ran] at listed
  obtain ⟨dispatch, member, found⟩ := List.mem_filterMap.mp listed
  obtain ⟨visited, enabled, started, severity⟩ := mem_dispatches member
  refine ⟨_, enabled, _, started, _, visited, ?_⟩
  rw [← severity]
  change dispatch.verdict = .reported diagnostic
  rw [Dispatch.diagnostic?] at found
  cases verdict : dispatch.verdict with
  | silent => simp [verdict, Verdict.diagnostic?] at found
  | failed reason => simp [verdict, Verdict.diagnostic?] at found
  | reported own => simpa [verdict, Verdict.diagnostic?] using found

end Engine

/-! ### Analyses -/

/-- The analysis of a compilation by the rules of the build that a configuration is for. -/
def Config.analysis (config : Config) (colored : Bool) (signal : Signal)
    (compilation : Compilation) : Transcript × Except Cancelled Findings :=
  analyze colored config (allRules config.buildingExtension) signal compilation

/-- Findings that differ in nothing but the severities of their diagnostics. -/
structure Findings.SameButSeverity (findings others : Findings) : Prop where
  assemblyName : findings.assemblyName = others.assemblyName
  inertRules : findings.inertRules = others.inertRules
  diagnostics : List.Forall₂ Diagnostic.SameButSeverity findings.diagnostics others.diagnostics

/-- A configuration accounts for a diagnostic: it enables the rule of that id, which is not inert,
and the severity is the configured one, or else the default of the rule. -/
def Config.AccountsFor (config : Config) (compilation : Compilation) (diagnostic : Diagnostic) :
    Prop :=
  ∃ rule ∈ allRules config.buildingExtension, rule.descriptor.id = diagnostic.ruleId ∧
    ((config.rule? diagnostic.ruleId).bind (·.enabled)).getD rule.descriptor.isEnabledByDefault =
      true ∧
    (rule.start compilation).isSome = true ∧
    diagnostic.severity =
      ((config.rule? diagnostic.ruleId).bind (·.severity)).getD rule.descriptor.defaultSeverity

section Analyses

variable {config other : Config} {compilation : Compilation} {signal : Signal}

/-- Two analyses were both cancelled, or found the same but for severities. -/
inductive AgreeButSeverity : Except Cancelled Findings → Except Cancelled Findings → Prop
  | cancelled (reason : Cancelled) : AgreeButSeverity (.error reason) (.error reason)
  | found {findings others : Findings} (same : findings.SameButSeverity others) :
      AgreeButSeverity (.ok findings) (.ok others)

theorem analyze_regraded {rules : List Rule} (colored : Bool) (signal : Signal)
    (compilation : Compilation)
    (leaves : ∀ rule ∈ rules, rule.LeavesSeverity)
    (enables : ∀ rule ∈ rules,
      config.isEnabled rule.descriptor = other.isEnabled rule.descriptor) :
    (analyze colored config rules signal compilation).1 =
      (analyze colored other rules signal compilation).1 ∧
    AgreeButSeverity (analyze colored config rules signal compilation).2
      (analyze colored other rules signal compilation).2 := by
  have inert := Engine.inertRules_congr enables compilation
  have same := Engine.evaluations_regraded signal compilation leaves enables
  simp only [analyze, Engine.run, inert]
  generalize Engine.evaluate signal 0 (Engine.dispatches config rules compilation) = here at same ⊢
  generalize Engine.evaluate signal 0 (Engine.dispatches other rules compilation) = there at same ⊢
  obtain ⟨skips, diagnostics⟩ := here
  obtain ⟨otherSkips, otherDiagnostics⟩ := there
  obtain ⟨rfl, published⟩ := same
  cases published with
  | none => exact ⟨rfl, .cancelled _⟩
  | some pairs => exact ⟨rfl, .found ⟨rfl, rfl, pairs⟩⟩

theorem analyze_eq_ok {rules : List Rule} {colored : Bool} {findings : Findings}
    (returned : (analyze colored config rules signal compilation).2 = .ok findings) :
    (Engine.run config rules signal compilation).diagnostics = some findings.diagnostics ∧
      findings.inertRules = Engine.inertRules config rules compilation := by
  simp only [analyze] at returned
  cases ran : (Engine.run config rules signal compilation).diagnostics with
  | none => simp [ran] at returned
  | some published =>
    simp only [ran, Except.ok.injEq] at returned
    subst returned
    exact ⟨rfl, rfl⟩

theorem analyze_of_published {rules : List Rule} (colored : Bool) {published : List Diagnostic}
    (ran : (Engine.run config rules signal compilation).diagnostics = some published) :
    (analyze colored config rules signal compilation).2 = .ok
      ⟨compilation.assemblyName, published, Engine.inertRules config rules compilation⟩ := by
  rw [analyze, ran]
  rfl

theorem accountsFor_of_published {published : List Diagnostic}
    (ran : (Engine.run config (allRules config.buildingExtension) signal compilation).diagnostics =
      some published) {diagnostic : Diagnostic} (listed : diagnostic ∈ published) :
    config.AccountsFor compilation diagnostic := by
  obtain ⟨rule, enabled, evaluator, started, site, _, reported⟩ :=
    Engine.exists_report_of_published ran listed
  obtain ⟨member, isEnabled⟩ := List.mem_filter.mp enabled
  have own := allRules_reportAsThemselves rule member _ _ _ _ _ started reported
  have severity := (allRules_leaveSeverity rule member _ _ started).severity_eq reported
  refine ⟨rule, member, own.symm, ?_, by simp [started], ?_⟩
  · rw [own]
    exact isEnabled
  · rw [own]
    exact severity

/-- The id of a diagnostic is not that of an inert rule: the rule of that id reported. -/
theorem ruleId_not_inert {diagnostic : Diagnostic}
    (accounted : config.AccountsFor compilation diagnostic) :
    diagnostic.ruleId ∉
      Engine.inertRules config (allRules config.buildingExtension) compilation := by
  obtain ⟨rule, member, own, _, started, _⟩ := accounted
  intro inert
  obtain ⟨idle, listed, same⟩ := List.mem_map.mp inert
  obtain ⟨enabled, missing⟩ := List.mem_filter.mp listed
  have idleMember := (List.mem_filter.mp enabled).1
  obtain rfl := List.inj_on_of_nodup_map (allRules_distinct _) idleMember member
    (same.trans own.symm)
  simp [Option.isNone_iff_eq_none.mp missing] at started

/-- Severities have no part in an analysis. Two configurations for one build that enable the same
rules say the same, and both are cancelled or both find the same but for severities. Every
diagnostic is that of an enabled rule that is not inert, at the severity that is configured for it.
-/
theorem analysis_regraded (config other : Config) (colored : Bool) (signal : Signal)
    (compilation : Compilation)
    (builds : config.buildingExtension = other.buildingExtension)
    (enables : ∀ rule ∈ allRules config.buildingExtension,
      config.isEnabled rule.descriptor = other.isEnabled rule.descriptor) :
    (config.analysis colored signal compilation).1 =
      (other.analysis colored signal compilation).1 ∧
    AgreeButSeverity (config.analysis colored signal compilation).2
      (other.analysis colored signal compilation).2 ∧
    (∀ findings, (config.analysis colored signal compilation).2 = .ok findings →
      ∀ diagnostic ∈ findings.diagnostics, diagnostic.ruleId ∉ findings.inertRules ∧
        config.AccountsFor compilation diagnostic) ∧
    ∃ findings, (config.analysis colored Signal.never compilation).2 = .ok findings := by
  obtain ⟨said, alike⟩ := analyze_regraded colored signal compilation allRules_leaveSeverity enables
  rw [Config.analysis, Config.analysis, Config.analysis, ← builds]
  refine ⟨said, alike, ?_, ?_⟩
  · intro findings returned diagnostic listed
    obtain ⟨ran, inert⟩ := analyze_eq_ok returned
    have accounted := accountsFor_of_published ran listed
    rw [inert]
    exact ⟨ruleId_not_inert accounted, accounted⟩
  · exact ⟨_, analyze_of_published colored (Engine.run_never_diagnostics _)⟩

end Analyses

/-- Leaks are errors. -/
def strictConfig : Config := ⟨[("CA2216", ⟨none, some .error⟩)], false⟩

/-- A leak is a warning by default and an error where that is configured, and otherwise the same. -/
theorem analysis_regraded_leaky : ∃ compilation findings others,
    Compilation.ofJson DisposableFinalizer.leakySnapshot none = .ok compilation ∧
      (Config.default.analysis false Signal.never compilation).2 = .ok findings ∧
      (strictConfig.analysis false Signal.never compilation).2 = .ok others ∧
      findings.diagnostics.map (·.severity) = [.warning] ∧
      others.diagnostics.map (·.severity) = [.error] ∧ findings.SameButSeverity others := by
  obtain ⟨compilation, accepted, mild, grave⟩ : ∃ compilation,
      Compilation.ofJson DisposableFinalizer.leakySnapshot none = .ok compilation ∧
      (Engine.run .default (allRules false) Signal.never compilation).diagnostics.map
        (·.map (·.severity)) = some [.warning] ∧
      (Engine.run strictConfig (allRules false) Signal.never compilation).diagnostics.map
        (·.map (·.severity)) = some [.error] :=
    ⟨_, rfl, by decide +kernel, by decide +kernel⟩
  have enables : ∀ rule ∈ allRules false,
      Config.default.isEnabled rule.descriptor = strictConfig.isEnabled rule.descriptor := by
    simp only [allRules, List.forall_mem_cons]
    decide
  obtain ⟨_, alike, _, findings, returned⟩ :=
    analysis_regraded .default strictConfig false Signal.never compilation rfl enables
  rw [returned] at alike
  generalize same : (strictConfig.analysis false Signal.never compilation).2 = outcome at alike
  cases alike with
  | found agree =>
    obtain ⟨ran, _⟩ := analyze_eq_ok returned
    obtain ⟨otherRan, _⟩ := analyze_eq_ok same
    refine ⟨compilation, findings, _, accepted, returned, same, ?_, ?_, agree⟩
    · change (Engine.run .default (allRules false) Signal.never compilation).diagnostics = _ at ran
      rw [ran] at mild
      exact Option.some.inj mild
    · change (Engine.run strictConfig (allRules false) Signal.never compilation).diagnostics = _
        at otherRan
      rw [otherRan] at grave
      exact Option.some.inj grave

end OperationLint
