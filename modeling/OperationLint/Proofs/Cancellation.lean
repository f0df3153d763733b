import OperationLint.Proofs.Schedules

/-!
# Cancelled runs

A signal is read before each scheduled evaluation. A run during which it is never seen raised is
the run without a signal; any other run is cancelled and has nothing to show for what it found
before.

## Main result

`run_all_or_nothing`: a run is cancelled exactly when the signal is raised at a scheduled
evaluation, and is the run without a signal otherwise. A signal that stays raised is the case of a
monotone sequence of readings; nothing here depends on it.

## Proof strategy

The readings are followed along the schedule. A quiet reading passes the question on to the rest
of the schedule, and a raised one drops the diagnostics, whatever stood before it.
-/

namespace OperationLint

/-- The signal is seen raised at one of some scheduled evaluations. -/
def Signal.Interrupts (signal : Signal) (scheduled : List Engine.Dispatch) : Prop :=
  ∃ number < scheduled.length, signal number = true

/-- A rule with other evaluators in place of its own. -/
def Rule.withEvaluators (rule : Rule) (other : Evaluator → Evaluator) : Rule :=
  { rule with start := fun compilation => (rule.start compilation).map other }

namespace Engine

variable {config : Config} {rules : List Rule} {compilation : Compilation} {signal : Signal}

/-! ### Readings of the signal -/

/-- After a quiet reading the diagnostics are missing if they are missing later on. -/
theorem evaluate_cons_quiet {number : Nat} (quiet : signal number = false) (dispatch : Dispatch)
    (rest : List Dispatch) :
    (evaluate signal number (dispatch :: rest)).diagnostics = none ↔
      (evaluate signal (number + 1) rest).diagnostics = none := by
  rw [evaluate, quiet]
  simp only [Bool.false_eq_true, if_false]
  cases dispatch.verdict with
  | silent => rfl
  | failed reason => rfl
  | reported diagnostic => simp only [Option.map_eq_none_iff]

/-- A reading later on is a reading of the rest. -/
theorem exists_reading_cons {number : Nat} (quiet : signal number = false) (dispatch : Dispatch)
    (rest : List Dispatch) :
    (∃ later < (dispatch :: rest).length, signal (number + later) = true) ↔
      ∃ later < rest.length, signal (number + 1 + later) = true := by
  rw [List.length_cons]
  constructor
  · rintro ⟨later, inside, raised⟩
    cases later with
    | zero => simp [quiet] at raised
    | succ later =>
      refine ⟨later, by omega, ?_⟩
      rwa [show number + 1 + later = number + (later + 1) by omega]
  · rintro ⟨later, inside, raised⟩
    refine ⟨later + 1, by omega, ?_⟩
    rwa [show number + (later + 1) = number + 1 + later by omega]

theorem evaluate_cancelled_iff (signal : Signal) (number : Nat) (scheduled : List Dispatch) :
    (evaluate signal number scheduled).diagnostics = none ↔
      ∃ later < scheduled.length, signal (number + later) = true := by
  induction scheduled generalizing number with
  | nil => simp [evaluate]
  | cons dispatch rest ih =>
    -- A raised reading decides here; a quiet one leaves the question to the rest.
    cases reading : signal number with
    | true =>
      have cancelled : evaluate signal number (dispatch :: rest) = ⟨[], none⟩ := by
        rw [evaluate, if_pos reading]
      rw [cancelled]
      exact ⟨fun _ => ⟨0, by simp, reading⟩, fun _ => rfl⟩
    | false =>
      rw [evaluate_cons_quiet reading, exists_reading_cons reading]
      exact ih (number + 1)

/-- Readings that are all quiet leave no trace. -/
theorem evaluate_quiet (number : Nat) (scheduled : List Dispatch)
    (quiet : ∀ later < scheduled.length, signal (number + later) = false) :
    evaluate signal number scheduled = evaluate Signal.never number scheduled := by
  induction scheduled generalizing number with
  | nil => rfl
  | cons dispatch rest ih =>
    have first : signal number = false := quiet 0 (by simp)
    have later : evaluate signal (number + 1) rest = evaluate Signal.never (number + 1) rest := by
      apply ih
      intro later inside
      rw [show number + 1 + later = number + (later + 1) by omega]
      exact quiet (later + 1) (by simpa using inside)
    rw [evaluate, evaluate, first, later]
    rfl

theorem run_cancelled_iff :
    (run config rules signal compilation).diagnostics = none ↔
      signal.Interrupts (dispatches config rules compilation) := by
  have followed := evaluate_cancelled_iff signal 0 (dispatches config rules compilation)
  simpa [run, Signal.Interrupts] using followed

theorem run_quiet (quiet : ¬ signal.Interrupts (dispatches config rules compilation)) :
    run config rules signal compilation = run config rules Signal.never compilation := by
  have readings : evaluate signal 0 (dispatches config rules compilation) =
      evaluate Signal.never 0 (dispatches config rules compilation) := by
    apply evaluate_quiet
    intro later inside
    rw [Nat.zero_add, ← Bool.not_eq_true]
    exact fun raised => quiet ⟨later, inside, raised⟩
  rw [run, readings]
  rfl

/-! ### Signals that are raised from the start -/

/-- An active rule is an enabled rule with an evaluator. -/
theorem exists_active_iff {P : Rule → Prop} :
    (∃ active ∈ activeRules config rules compilation, P active.rule) ↔
      ∃ rule ∈ rules, config.isEnabled rule.descriptor = true ∧
        (rule.start compilation).isSome = true ∧ P rule := by
  constructor
  · rintro ⟨active, member, holds⟩
    obtain ⟨⟨rule, number⟩, listed, started⟩ := List.mem_filterMap.mp member
    obtain ⟨evaluator, found, rfl⟩ := Option.map_eq_some_iff.mp started
    obtain ⟨inside, enabled⟩ := List.mem_filter.mp (List.fst_mem_of_mem_zipIdx listed)
    exact ⟨rule, inside, enabled, by simp [found], holds⟩
  · rintro ⟨rule, inside, enabled, started, holds⟩
    obtain ⟨evaluator, found⟩ := Option.isSome_iff_exists.mp started
    have listed : rule ∈ enabledRules config rules := List.mem_filter.mpr ⟨inside, enabled⟩
    obtain ⟨number, place⟩ := List.getElem?_of_mem listed
    refine ⟨⟨number, rule, config.severityOf rule.descriptor, evaluator⟩, ?_, holds⟩
    refine List.mem_filterMap.mpr ⟨(rule, number), ?_, by simp [activation, found]⟩
    exact List.mem_zipIdx_iff_getElem?.mpr place

/-- Something is scheduled exactly when some site concerns an enabled rule that is not inert. -/
theorem dispatches_ne_nil_iff :
    dispatches config rules compilation ≠ [] ↔
      ∃ site ∈ compilation.sites, ∃ rule ∈ rules, config.isEnabled rule.descriptor = true ∧
        (rule.start compilation).isSome = true ∧ rule.Concerns site := by
  simp only [← exists_active_iff]
  simp [dispatches_eq_flatMap, List.flatMap_eq_nil_iff, List.filter_eq_nil_iff, looksAt_eq_concerns]

theorem run_always :
    run config rules Signal.always compilation =
      ⟨[], inertRules config rules compilation,
        if dispatches config rules compilation = [] then some [] else none⟩ := by
  rw [run]
  cases dispatches config rules compilation with
  | nil => rfl
  | cons dispatch rest => rfl

/-- Whether rules are enabled, inert or concerned does not depend on what they find. -/
theorem inertRules_withEvaluators (other : Evaluator → Evaluator) :
    inertRules config (rules.map (·.withEvaluators other)) compilation =
      inertRules config rules compilation := by
  simp [inertRules, enabledRules, List.filter_map, Function.comp_def, Rule.withEvaluators]

theorem dispatches_withEvaluators_eq_nil (other : Evaluator → Evaluator) :
    dispatches config (rules.map (·.withEvaluators other)) compilation = [] ↔
      dispatches config rules compilation = [] := by
  rw [← not_iff_not]
  change dispatches config (rules.map (·.withEvaluators other)) compilation ≠ [] ↔
    dispatches config rules compilation ≠ []
  rw [dispatches_ne_nil_iff, dispatches_ne_nil_iff]
  simp [Rule.withEvaluators, Rule.Concerns]

/-! ### Analyses -/

/-- Cancellation is all or nothing. If the signal is seen raised at a scheduled evaluation, the run
has no diagnostics and the analysis fails with the name of the assembly; otherwise both are what
they are without a signal. A signal that is raised from the start cancels every run with something
scheduled, and no evaluator has a say in such a run. -/
theorem run_all_or_nothing (config : Config) (rules : List Rule) (signal : Signal)
    (compilation : Compilation) :
    ∃ scheduled, Schedule config rules compilation scheduled ∧
      (signal.Interrupts scheduled → (run config rules signal compilation).diagnostics = none ∧
        ∀ colored, (analyze colored config rules signal compilation).2 =
          .error ⟨compilation.assemblyName⟩) ∧
      (¬ signal.Interrupts scheduled →
        run config rules signal compilation = run config rules Signal.never compilation ∧
        ∀ colored, ∃ findings, (analyze colored config rules signal compilation).2 = .ok findings ∧
          (analyze colored config rules Signal.never compilation).2 = .ok findings) ∧
      ((run config rules Signal.always compilation).diagnostics = none ↔
        ∃ site ∈ compilation.sites, ∃ rule ∈ rules, config.isEnabled rule.descriptor = true ∧
          (rule.start compilation).isSome = true ∧ rule.Concerns site) ∧
      (run config rules Signal.always compilation).skips = [] ∧
      ∀ other, run config (rules.map (·.withEvaluators other)) Signal.always compilation =
        run config rules Signal.always compilation := by
  refine ⟨dispatches config rules compilation, schedule_dispatches config rules compilation,
    ?_, ?_, ?_, ?_, ?_⟩
  · intro raised
    have cancelled := run_cancelled_iff.mpr raised
    refine ⟨cancelled, fun colored => ?_⟩
    rw [analyze, cancelled]
  · intro quiet
    have same := run_quiet quiet
    refine ⟨same, fun colored => ?_⟩
    rw [analyze, analyze, same, run_never]
    exact ⟨_, rfl, rfl⟩
  · rw [run_always, ← dispatches_ne_nil_iff]
    by_cases nothing : dispatches config rules compilation = [] <;> simp [nothing]
  · rw [run_always]
  · intro other
    rw [run_always, run_always, inertRules_withEvaluators]
    simp only [dispatches_withEvaluators_eq_nil]

/-- With two literals to look at, a signal that is raised after one of them cancels the run, and a
signal that is raised after both comes too late. -/
theorem run_all_or_nothing_twoLiterals :
    ((run .default [attentive] (fun number => decide (1 ≤ number)) twoLiterals).diagnostics = none ∧
      (analyze false .default [attentive] (fun number => decide (1 ≤ number)) twoLiterals).2 =
        .error ⟨"Sample"⟩) ∧
    run .default [attentive] (fun number => decide (2 ≤ number)) twoLiterals =
      run .default [attentive] Signal.never twoLiterals := by
  constructor
  · obtain ⟨scheduled, schedule, cancelled, _⟩ := run_all_or_nothing .default [attentive]
      (fun number => decide (1 ≤ number)) twoLiterals
    have two : (share 0 scheduled).length = 2 := by
      rw [schedule.shares 0]
      decide +kernel
    have inside : (share 0 scheduled).length ≤ scheduled.length := List.length_filter_le _ _
    obtain ⟨nothing, failed⟩ := cancelled ⟨1, by omega, by decide⟩
    exact ⟨nothing, failed false⟩
  · obtain ⟨scheduled, _, cancelled, complete, _⟩ := run_all_or_nothing .default [attentive]
      (fun number => decide (2 ≤ number)) twoLiterals
    have published : (run .default [attentive] (fun number => decide (2 ≤ number))
        twoLiterals).diagnostics ≠ none := by
      decide +kernel
    exact (complete fun raised => published (cancelled raised).1).1

end Engine

end OperationLint
