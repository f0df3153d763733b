import OperationLint.Proofs.AnalysisOutcomes
import OperationLint.Proofs.ConfiguredSeverities

/-!
# Builds for the extension

A build for the extension ships one rule less and ships the other one disabled. The switch acts in
two places, on the rules of the build and on their defaults, and what a configuration enables
explicitly passes the second but not the first.

## Main result

`extension_only_removes`: with the switch on, an analysis finds a part of what it finds with the
switch off, and an exit code of zero stays zero.

## Proof strategy

- `exists_run_extension`: one run. The certificate rule of the extension finds what the one of the
  full build finds, so its run is the share of that rule in the full run.
- `sublist_flatten`: snapshots one after the other.
- `FailOn.IsReached.mono`: a threshold that a part reaches is reached by the whole.
-/

namespace OperationLint

/-- The configuration with the switch for extension builds set. -/
def Config.building (config : Config) (extension : Bool) : Config :=
  { config with buildingExtension := extension }

/-- A configuration enables the certificate rule in so many words. -/
def Config.EnablesCertificateRule (config : Config) : Prop :=
  (config.rule? "CA5359").bind (·.enabled) = some true

instance (config : Config) : Decidable config.EnablesCertificateRule :=
  inferInstanceAs (Decidable (_ = _))

/-! ### One run -/

section Run

variable (config : Config) (compilation : Compilation)

/-- In an extension build the certificate rule runs only if it is enabled explicitly. -/
theorem isEnabled_extension :
    (config.building true).isEnabled (CertificateValidation.descriptor true) = true ↔
      config.EnablesCertificateRule := by
  change ((config.rule? "CA5359").bind (·.enabled)).getD false = true ↔
    (config.rule? "CA5359").bind (·.enabled) = some true
  cases (config.rule? "CA5359").bind (·.enabled) <;> simp

theorem isEnabled_full (enables : config.EnablesCertificateRule) :
    (config.building false).isEnabled (CertificateValidation.descriptor false) = true := by
  change ((config.rule? "CA5359").bind (·.enabled)).getD true = true
  rw [enables]
  rfl

theorem run_extension_disabled (disabled : ¬ config.EnablesCertificateRule) :
    (Engine.run (config.building true) (allRules true) Signal.never compilation).diagnostics =
      some [] := by
  have none : Engine.enabledRules (config.building true) (allRules true) = [] := by
    apply List.filter_eq_nil_iff.mpr
    intro rule member
    obtain rfl := List.mem_singleton.mp member
    exact (isEnabled_extension config).not.mpr disabled
  rw [Engine.run_never_diagnostics, Engine.activeRules, none]
  simp [Engine.reports, Engine.activate]

/-- In an extension build everything is reported by the certificate rule. -/
theorem ruleId_extension {published : List Diagnostic}
    (ran : (Engine.run (config.building true) (allRules true) Signal.never
      compilation).diagnostics = some published) :
    ∀ diagnostic ∈ published, diagnostic.ruleId = "CA5359" := by
  intro diagnostic listed
  obtain ⟨rule, member, own, _⟩ := accountsFor_of_published ran listed
  obtain rfl := List.mem_singleton.mp member
  exact own.symm

/-- A run with the switch on publishes what the certificate rule publishes with the switch off,
provided that it is enabled explicitly, and otherwise nothing. -/
theorem exists_run_extension :
    ∃ found all,
      (Engine.run (config.building true) (allRules true) Signal.never compilation).diagnostics =
        some found ∧
      (Engine.run (config.building false) (allRules false) Signal.never compilation).diagnostics =
        some all ∧
      found = if config.EnablesCertificateRule then all.filter (·.ruleId = "CA5359") else [] := by
  by_cases enables : config.EnablesCertificateRule
  · have avoids : ∀ other ∈ [] ++ [DisposableFinalizer.rule false], other.Avoids "CA5359" := by
      intro other member
      obtain rfl := List.mem_singleton.mp member
      exact (DisposableFinalizer.reportsAsItself false).avoids (by decide)
    obtain ⟨all, ranFull, share⟩ := Engine.run_filter_ruleId compilation
      (isEnabled_full config enables) (CertificateValidation.reportsAsItself false) avoids
    have alone : ∀ other ∈ ([] : List Rule) ++ [], other.Avoids "CA5359" :=
      fun _ member => absurd member List.not_mem_nil
    obtain ⟨found, ranExtension, whole⟩ := Engine.run_filter_ruleId compilation
      ((isEnabled_extension config).mpr enables) (CertificateValidation.reportsAsItself true) alone
    refine ⟨found, all, ranExtension, ranFull, ?_⟩
    rw [if_pos enables]
    -- What the rule finds at a site depends on neither of the things that the switch changes.
    have own : found.filter (·.ruleId = "CA5359") = found := by
      apply List.filter_eq_self.mpr
      simpa using ruleId_extension config compilation ranExtension
    calc found = found.filter (·.ruleId = "CA5359") := own.symm
      _ = compilation.sites.filterMap
          ((CertificateValidation.rule true).finding? (config.building true) compilation) := whole
      _ = compilation.sites.filterMap
          ((CertificateValidation.rule false).finding? (config.building false) compilation) := rfl
      _ = all.filter (·.ruleId = "CA5359") := share.symm
  · exact ⟨[], _, run_extension_disabled config compilation enables,
      Engine.run_never_diagnostics _, (if_neg enables).symm⟩

end Run

/-! ### Snapshots one after the other -/

theorem sublist_of_runs {config : Config} {compilation : Compilation} {found all : List Diagnostic}
    (ranExtension : (Engine.run (config.building true) (allRules true) Signal.never
      compilation).diagnostics = some found)
    (ranFull : (Engine.run (config.building false) (allRules false) Signal.never
      compilation).diagnostics = some all) : found.Sublist all := by
  obtain ⟨_, _, ran, ranToo, share⟩ := exists_run_extension config compilation
  obtain rfl := Option.some.inj (ran.symm.trans ranExtension)
  obtain rfl := Option.some.inj (ranToo.symm.trans ranFull)
  rw [share]
  split
  · exact List.filter_sublist
  · exact List.nil_sublist _

/-- Lists that are sublists one by one are so after they are joined. -/
theorem sublist_flatten {parts wholes : List (List Diagnostic)}
    (each : List.Forall₂ List.Sublist parts wholes) : parts.flatten.Sublist wholes.flatten := by
  induction each with
  | nil => exact List.Sublist.slnil
  | cons first _ ih => exact first.append ih

theorem sublists_of_yields {config : Config} {files switched : FileTree} {snapshots : List String}
    (same : ∀ path ∈ snapshots, Compilation.load switched path = Compilation.load files path)
    {parts wholes : List (List Diagnostic)}
    (extension : List.Forall₂ (switched.Yields (config.building true)) snapshots parts)
    (full : List.Forall₂ (files.Yields (config.building false)) snapshots wholes) :
    List.Forall₂ List.Sublist parts wholes := by
  induction extension generalizing wholes with
  | nil =>
    cases full
    exact .nil
  | cons first _ ih =>
    obtain ⟨here, later⟩ := List.forall_mem_cons.mp same
    cases full with
    | cons firstFull rest =>
      obtain ⟨compilation, load, ran⟩ := first
      obtain ⟨_, loadFull, ranFull⟩ := firstFull
      rw [here, loadFull] at load
      cases load
      exact .cons (sublist_of_runs ran ranFull) (ih later rest)

/-! ### Thresholds -/

theorem FailOn.IsReached.mono {failOn : FailOn} {found all : List Diagnostic}
    (fewer : found.Sublist all) (reached : failOn.IsReached found) : failOn.IsReached all := by
  have counted {severity : Severity} (some : 0 < Diagnostic.count severity found) :
      0 < Diagnostic.count severity all := by
    obtain ⟨diagnostic, listed, same⟩ := count_pos_iff.mp some
    exact count_pos_iff.mpr ⟨diagnostic, fewer.subset listed, same⟩
  rcases reached with ⟨rfl, errors⟩ | ⟨rfl, errors | warnings⟩
  · exact .inl ⟨rfl, counted errors⟩
  · exact .inr ⟨rfl, .inl (counted errors)⟩
  · exact .inr ⟨rfl, .inr (counted warnings)⟩

/-- An analysis that succeeds has no error to say. -/
def Outcome.Succeeds (outcome : Outcome) : Prop :=
  ∀ entry ∈ outcome.transcript, entry.stream ≠ .error

section Outcomes

variable {colored : Bool} {files : FileTree} {options : AnalyzeOptions}
  {diagnostics : List Diagnostic} {text message : String} {outcome : Outcome}

theorem FailsCleanly.not_succeeds (failed : FailsCleanly colored files message outcome) :
    ¬ outcome.Succeeds := by
  intro succeeds
  obtain ⟨notes, _, said⟩ := failed.said
  have last : failureEntry colored message ∈ outcome.transcript := by
    rw [said]
    exact List.mem_append_right _ List.mem_cons_self
  exact succeeds _ last rfl

/-- Where nothing fails, the threshold decides the exit code. -/
theorem Concludes.exitCode_eq_zero_iff
    (concluded : Concludes colored files options diagnostics text outcome)
    (succeeds : outcome.Succeeds) :
    outcome.exitCode = 0 ↔ ¬ options.failOn.IsReached diagnostics := by
  have decided {delivered : String}
      (reported : ReportsOn colored options.failOn diagnostics delivered outcome) :
      outcome.exitCode = 0 ↔ ¬ options.failOn.IsReached diagnostics := by
    rw [← reported.fails]
    have := reported.exitCode
    omega
  cases concluded with
  | shown _ _ reported => exact decided reported
  | written _ _ _ _ reported => exact decided reported
  | unwritten _ _ failed => exact absurd succeeds failed.not_succeeds

theorem ReportsOn.succeeds {failOn : FailOn} {delivered : String}
    (reported : ReportsOn colored failOn diagnostics delivered outcome) : outcome.Succeeds := by
  obtain ⟨notes, noted, said⟩ := reported.said
  intro entry listed
  rw [said] at listed
  simp only [List.cons_append, List.mem_cons, List.mem_append] at listed
  rcases listed with rfl | note | rfl | summed
  · simp [startEntry]
  · exact (noted entry note).stream.2
  · simp
  · simp only [summaryEntries, List.mem_cons, List.not_mem_nil, or_false] at summed
    rcases summed with rfl | rfl | rfl | rfl <;> simp

theorem Concludes.succeeds (concluded : Concludes colored files options diagnostics text outcome)
    (zero : outcome.exitCode = 0) : outcome.Succeeds := by
  cases concluded with
  | shown _ _ reported => exact reported.succeeds
  | written _ _ _ _ reported => exact reported.succeeds
  | unwritten _ _ failed => exact absurd (failed.exitCode.symm.trans zero) (by decide)

/-- Nothing can go wrong with a report that goes to the console. -/
theorem Concludes.succeeds_of_unnamed
    (concluded : Concludes colored files options diagnostics text outcome)
    (unnamed : options.output.filter (· ≠ "") = none) : outcome.Succeeds := by
  cases concluded with
  | shown _ _ reported => exact reported.succeeds
  | written named => exact absurd (unnamed.symm.trans named) (Option.some_ne_none _).symm
  | unwritten named => exact absurd (unnamed.symm.trans named) (Option.some_ne_none _).symm

theorem loadable_of_exitCode {snapshots : List String}
    (zero : (runAnalyze colored files snapshots options).exitCode = 0) :
    files.Loadable options snapshots := by
  by_contra unloadable
  obtain ⟨message, failure⟩ := exists_firstFailure unloadable
  have failed := failsCleanly_of_firstFailure colored failure
  exact absurd (failed.exitCode.symm.trans zero) (by decide)

end Outcomes

/-! ### Turning the switch on -/

/-- One analysis is another one with the switch turned on, by an option or in the configuration
file. What is configured for rules, the snapshots and the threshold are the same. -/
structure TurnsOn (files switched : FileTree) (options switchedOptions : AnalyzeOptions)
    (snapshots : List String) : Prop where
  configured : ∃ loaded switchedLoaded,
    files.loadConfig files.workingPath options.config = .ok loaded ∧
    switched.loadConfig switched.workingPath switchedOptions.config = .ok switchedLoaded ∧
    switchedLoaded.rules = loaded.rules ∧
    (options.configured loaded).buildingExtension = false ∧
    (switchedOptions.configured switchedLoaded).buildingExtension = true
  snapshots : ∀ path ∈ snapshots, Compilation.load switched path = Compilation.load files path
  failOn : switchedOptions.failOn = options.failOn

theorem exitCode_of_turnsOn {colored : Bool} {files switched : FileTree}
    {options switchedOptions : AnalyzeOptions} {snapshots : List String}
    (turned : TurnsOn files switched options switchedOptions snapshots)
    (succeeds : (runAnalyze colored switched snapshots switchedOptions).Succeeds)
    (zero : (runAnalyze colored files snapshots options).exitCode = 0) :
    (runAnalyze colored switched snapshots switchedOptions).exitCode = 0 := by
  obtain ⟨loaded, switchedLoaded, load, switchedLoad, rules, off, on⟩ := turned.configured
  have loads := (loadable_of_exitCode zero).2
  have switchedLoads : ∀ path ∈ snapshots, switched.Loads path := by
    intro path listed
    obtain ⟨compilation, loadedFile⟩ := loads path listed
    exact ⟨compilation, (turned.snapshots path listed).trans loadedFile⟩
  obtain ⟨wholes, full, concluded⟩ := concludes_of_loads colored load loads
  obtain ⟨parts, extension, switchedConcluded⟩ :=
    concludes_of_loads colored switchedLoad switchedLoads
  -- Both configurations are one but for the switch.
  have offConfig : options.configured loaded = loaded.building false := by
    rw [← off]
    rfl
  have onConfig : switchedOptions.configured switchedLoaded = loaded.building true := by
    rw [← on, Config.building, ← rules]
    rfl
  rw [offConfig] at full
  rw [onConfig] at extension
  have fewer := sublist_flatten (sublists_of_yields turned.snapshots extension full)
  have unreached := (concluded.exitCode_eq_zero_iff (concluded.succeeds zero)).mp zero
  rw [switchedConcluded.exitCode_eq_zero_iff succeeds, turned.failOn]
  exact fun reached => unreached (reached.mono fewer)

/-- Building for the extension only removes diagnostics. With the switch on an analysis finds a
sublist of what it finds with the switch off, never anything of the finalizer rule: all that the
certificate rule finds if that rule is enabled explicitly, and nothing otherwise. So turning the
switch on does not make an analysis that reports end with one where it ended with zero. -/
theorem extension_only_removes (colored : Bool) :
    (∀ (config : Config) (compilation : Compilation), ∃ extension full,
      ((config.building true).analysis colored Signal.never compilation).2 = .ok extension ∧
      ((config.building false).analysis colored Signal.never compilation).2 = .ok full ∧
      extension.diagnostics.Sublist full.diagnostics ∧
      (∀ diagnostic ∈ extension.diagnostics, diagnostic.ruleId ≠ "CA2216") ∧
      ((config.rule? "CA5359").bind (·.enabled) = some true →
        extension.diagnostics = full.diagnostics.filter (·.ruleId = "CA5359")) ∧
      ((config.rule? "CA5359").bind (·.enabled) ≠ some true → extension.diagnostics = [])) ∧
    ∀ (files switched : FileTree) (options switchedOptions : AnalyzeOptions)
      (snapshots : List String), TurnsOn files switched options switchedOptions snapshots →
      (runAnalyze colored switched snapshots switchedOptions).Succeeds →
      (runAnalyze colored files snapshots options).exitCode = 0 →
      (runAnalyze colored switched snapshots switchedOptions).exitCode = 0 := by
  constructor
  · intro config compilation
    obtain ⟨found, all, ran, ranFull, share⟩ := exists_run_extension config compilation
    have analyzed := analyze_of_published colored ran
    have analyzedFull := analyze_of_published colored ranFull
    refine ⟨_, _, analyzed, analyzedFull, sublist_of_runs ran ranFull, ?_, ?_, ?_⟩
    · intro diagnostic listed
      rw [ruleId_extension config compilation ran diagnostic listed]
      decide
    · intro enables
      exact share.trans (if_pos enables)
    · intro disabled
      exact share.trans (if_neg disabled)
  · intro files switched options switchedOptions snapshots turned succeeds zero
    exact exitCode_of_turnsOn turned succeeds zero

/-- A report to the console, with errors as the threshold. -/
def leakyOptions (buildingExtension : Bool) : AnalyzeOptions :=
  ⟨none, .sarif, none, .error, buildingExtension⟩

/-- A leak is found by the full build only, and is no error there. -/
theorem extension_only_removes_leaky :
    (runAnalyze false leakyFiles ["snapshot.json"] (leakyOptions false)).exitCode = 0 ∧
      (runAnalyze false leakyFiles ["snapshot.json"] (leakyOptions true)).exitCode = 0 := by
  obtain ⟨compilation, load, _⟩ := leakyFiles_load
  have loads : ∀ path ∈ ["snapshot.json"], leakyFiles.Loads path :=
    List.forall_mem_singleton.mpr ⟨compilation, load⟩
  have configured (extension : Bool) : leakyFiles.loadConfig leakyFiles.workingPath
      (leakyOptions extension).config = .ok .default := rfl
  have turned : TurnsOn leakyFiles leakyFiles (leakyOptions false) (leakyOptions true)
      ["snapshot.json"] :=
    ⟨⟨.default, .default, configured false, configured true, rfl, rfl, rfl⟩, fun _ _ => rfl, rfl⟩
  have zero :
      (runAnalyze false leakyFiles ["snapshot.json"] (leakyOptions false)).exitCode = 0 := by
    obtain ⟨groups, yielded, concluded⟩ := concludes_of_loads false (configured false) loads
    apply (concluded.exitCode_eq_zero_iff (concluded.succeeds_of_unnamed rfl)).mpr
    obtain ⟨found, isWarning, only⟩ := exists_leak
    obtain rfl := only 1 groups yielded
    rintro (⟨_, errors⟩ | ⟨warning, _⟩)
    · obtain ⟨diagnostic, listed, isError⟩ := count_pos_iff.mp errors
      obtain rfl := List.mem_singleton.mp listed
      cases isWarning.symm.trans isError
    · cases warning
  have succeeds :
      (runAnalyze false leakyFiles ["snapshot.json"] (leakyOptions true)).Succeeds := by
    obtain ⟨_, _, concluded⟩ := concludes_of_loads false (configured true) loads
    exact concluded.succeeds_of_unnamed rfl
  exact ⟨zero, (extension_only_removes false).2 _ _ _ _ _ turned succeeds zero⟩

end OperationLint
