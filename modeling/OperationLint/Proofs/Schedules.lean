import Mathlib.Data.List.Range
import OperationLint.Analysis
import OperationLint.Proofs.DocumentRuns

/-!
# The schedule of a run

Which rule is shown which site, and when. A schedule is the ordered merge of what each enabled rule
would be shown on its own, so no rule can take a site from another or add one, whatever it reports
and however often it fails.

## Main results

* `schedule_dispatches`: the dispatches of a run are its schedule.
* `run_noninterference`: a run without a signal publishes what its schedule reports, and the share
  of a rule in it is the run of an engine that holds this rule alone.

## Proof strategy

Dispatches are numbered twice, by the position of the site and by the number of the rule. The order
follows from the two numberings. For the shares the number of a rule is followed inwards, from the
dispatches to the active rules and from there to the enabled rules, where it is an index.
-/

namespace OperationLint

/-- A site concerns a rule: the rule looks at its kind, and does not pass over its block as
generated code. -/
def Rule.Concerns (rule : Rule) (site : Site) : Prop :=
  site.operation.kind ∈ rule.kinds ∧
    (site.block.isGenerated = true → rule.analyzesGenerated = true)

instance (rule : Rule) (site : Site) : Decidable (rule.Concerns site) :=
  inferInstanceAs (Decidable (_ ∧ _))

/-- The entries of a transcript that are warnings. -/
def Transcript.warnings (transcript : Transcript) : Transcript :=
  transcript.filter (·.stream = .warn)

namespace Engine

variable {config : Config} {rules : List Rule} {compilation : Compilation}

/-- Earlier in a run: at an earlier site, or at the same site by an earlier rule. -/
def Dispatch.Before (earlier later : Dispatch) : Prop :=
  earlier.site.position < later.site.position ∨
    earlier.site.position = later.site.position ∧ earlier.active.number < later.active.number

/-- The failure of an evaluation. -/
def Dispatch.skip? (dispatch : Dispatch) : Option Skip :=
  match dispatch.verdict with
  | .failed reason => some (dispatch.skip reason)
  | _ => none

/-- The diagnostic of an evaluation. -/
def Dispatch.diagnostic? (dispatch : Dispatch) : Option Diagnostic :=
  dispatch.verdict.diagnostic?

/-- The share of the rule with a number. -/
def share (number : Nat) (dispatches : List Dispatch) : List Dispatch :=
  dispatches.filter (·.active.number = number)

/-- What a rule is shown on its own: every site that concerns it once, in order, and nothing if it
is inert. -/
def dispatchesOf (config : Config) (compilation : Compilation) (number : Nat) (rule : Rule) :
    List Dispatch :=
  match rule.start compilation with
  | none => []
  | some evaluator =>
    (compilation.sites.filter fun site => rule.Concerns site).map fun site =>
      ⟨site, number, rule, config.severityOf rule.descriptor, evaluator⟩

/-- Dispatches in order, with the share of each enabled rule as if it were alone. There are no
others. -/
structure Schedule (config : Config) (rules : List Rule) (compilation : Compilation)
    (dispatches : List Dispatch) : Prop where
  ordered : dispatches.Pairwise Dispatch.Before
  shares : ∀ number, share number dispatches =
    ((enabledRules config rules)[number]?.map (dispatchesOf config compilation number)).getD []

/-! ### Order -/

theorem pairwise_zipIdx {α : Type} (values : List α) (start : Nat) :
    (values.zipIdx start).Pairwise fun a b => a.2 < b.2 := by
  rw [← List.pairwise_map (f := Prod.snd) (R := (· < ·)), List.zipIdx_map_snd]
  exact List.pairwise_lt_range'

theorem sites_ordered (compilation : Compilation) :
    compilation.sites.Pairwise fun a b => a.position < b.position := by
  rw [Compilation.sites, List.pairwise_map]
  exact pairwise_zipIdx _ 0

theorem activeRules_ordered :
    (activeRules config rules compilation).Pairwise fun a b => a.number < b.number := by
  rw [activeRules, activate, List.pairwise_filterMap]
  refine (pairwise_zipIdx (enabledRules config rules) 0).imp ?_
  rintro ⟨rule, number⟩ ⟨other, later⟩ before active started otherActive otherStarted
  obtain ⟨evaluator, _, rfl⟩ := Option.map_eq_some_iff.mp started
  obtain ⟨otherEvaluator, _, rfl⟩ := Option.map_eq_some_iff.mp otherStarted
  exact before

theorem dispatches_ordered :
    (dispatches config rules compilation).Pairwise Dispatch.Before := by
  rw [dispatches_eq_flatMap, List.pairwise_flatMap]
  constructor
  · intro site _
    rw [List.pairwise_map]
    exact (activeRules_ordered.filter _).imp fun before => Or.inr ⟨rfl, before⟩
  · refine (sites_ordered compilation).imp ?_
    intro site other before dispatch shown otherDispatch otherShown
    obtain ⟨_, _, rfl⟩ := List.mem_map.mp shown
    obtain ⟨_, _, rfl⟩ := List.mem_map.mp otherShown
    exact Or.inl before

/-! ### Shares -/

theorem looksAt_eq_concerns (active : ActiveRule) (site : Site) :
    active.looksAt site = decide (active.rule.Concerns site) := by
  rw [Bool.eq_iff_iff, decide_eq_true_iff]
  cases generated : site.block.isGenerated <;>
    simp [ActiveRule.looksAt, ActiveRule.enters, Rule.Concerns, generated]

/-- Among numbered values one has a given number. -/
theorem filter_zipIdx_number {α : Type} (values : List α) (start number : Nat) :
    (values.zipIdx start).filter (·.2 = start + number) =
      (values[number]?.map (·, start + number)).toList := by
  induction values generalizing start number with
  | nil => simp
  | cons value rest ih =>
    rw [List.zipIdx_cons]
    cases number with
    | zero =>
      have later : (rest.zipIdx (start + 1)).filter (·.2 = start + 0) = [] := by
        rw [List.filter_eq_nil_iff]
        intro entry member
        have behind := List.le_snd_of_mem_zipIdx member
        simp only [decide_eq_true_eq]
        omega
      rw [List.filter_cons_of_pos (by simp), later]
      simp
    | succ number =>
      have next := ih (start + 1) number
      rw [show start + 1 + number = start + (number + 1) by omega] at next
      rw [List.filter_cons_of_neg (by simp), next]
      simp

/-- The active rule with a number is the enabled rule at that index. -/
theorem filter_activeRules (number : Nat) :
    (activeRules config rules compilation).filter (·.number = number) =
      ((enabledRules config rules)[number]?.bind
        (activation config compilation number)).toList := by
  -- Active rules keep the numbers of the enabled rules, so the filter can go first.
  have numbered : (activeRules config rules compilation).filter (·.number = number) =
      ((enabledRules config rules).zipIdx.filter (·.2 = number)).filterMap fun entry =>
        activation config compilation entry.2 entry.1 := by
    rw [activeRules, activate, List.filter_filterMap, List.filterMap_filter]
    congr 1
    funext entry
    obtain ⟨rule, own⟩ := entry
    cases started : rule.start compilation with
    | none => simp [activation, started]
    | some evaluator => by_cases same : own = number <;> simp [activation, started, same]
  have single := filter_zipIdx_number (enabledRules config rules) 0 number
  rw [Nat.zero_add] at single
  rw [numbered, single]
  cases (enabledRules config rules)[number]? with
  | none => rfl
  | some rule => cases active : activation config compilation number rule <;> simp [active]

theorem share_dispatches (number : Nat) :
    share number (dispatches config rules compilation) =
      ((enabledRules config rules)[number]?.map
        (dispatchesOf config compilation number)).getD [] := by
  -- Only the active rule with the number is left at each site.
  have inwards : share number (dispatches config rules compilation) =
      compilation.sites.flatMap fun site =>
        (((activeRules config rules compilation).filter (·.number = number)).filter
          (·.looksAt site)).map (⟨site, ·⟩) := by
    rw [share, dispatches_eq_flatMap, List.filter_flatMap]
    congr 1
    funext site
    rw [List.filter_map, List.filter_filter, List.filter_filter]
    simp only [Function.comp_def, Bool.and_comm]
  rw [inwards, filter_activeRules]
  cases (enabledRules config rules)[number]? with
  | none => simp
  | some rule =>
    cases started : rule.start compilation with
    | none => simp [activation, dispatchesOf, started]
    | some evaluator =>
      have alone (sites : List Site) (active : ActiveRule) :
          sites.flatMap (fun site => ([active].filter (·.looksAt site)).map (⟨site, ·⟩)) =
            (sites.filter fun site => active.rule.Concerns site).map (Dispatch.mk · active) := by
        induction sites with
        | nil => rfl
        | cons site rest ih =>
          rw [List.flatMap_cons, ih]
          by_cases concerned : active.rule.Concerns site <;>
            simp [looksAt_eq_concerns, concerned]
      simpa [activation, dispatchesOf, started] using alone compilation.sites
        ⟨number, rule, config.severityOf rule.descriptor, evaluator⟩

/-- The dispatches of a run are its schedule. -/
theorem schedule_dispatches (config : Config) (rules : List Rule) (compilation : Compilation) :
    Schedule config rules compilation (dispatches config rules compilation) :=
  ⟨dispatches_ordered, share_dispatches⟩

/-! ### Runs -/

/-- Without a signal every failure is noted. -/
theorem evaluate_never_skips (number : Nat) (dispatches : List Dispatch) :
    (evaluate Signal.never number dispatches).skips = dispatches.filterMap Dispatch.skip? := by
  induction dispatches generalizing number with
  | nil => rfl
  | cons dispatch rest ih =>
    rw [evaluate, List.filterMap_cons]
    simp only [Signal.never, Bool.false_eq_true, if_false]
    have later := ih (number + 1)
    simp only [Dispatch.skip?]
    cases dispatch.verdict with
    | silent => exact later
    | reported diagnostic => exact later
    | failed reason => exact congrArg (List.cons _) later

theorem run_never (rules : List Rule) :
    run config rules Signal.never compilation =
      ⟨(dispatches config rules compilation).filterMap Dispatch.skip?,
        inertRules config rules compilation,
        some ((dispatches config rules compilation).filterMap Dispatch.diagnostic?)⟩ := by
  rw [run, evaluate_never, evaluate_never_skips]
  rfl

/-- Alone, an enabled rule is shown what it is shown among others, under the number zero. -/
theorem dispatches_single {rule : Rule} (enabled : config.isEnabled rule.descriptor = true) :
    dispatches config [rule] compilation = dispatchesOf config compilation 0 rule := by
  have only : enabledRules config [rule] = [rule] := by simp [enabledRules, enabled]
  have every : share 0 (dispatches config [rule] compilation) =
      dispatches config [rule] compilation := by
    rw [share, List.filter_eq_self]
    intro dispatch shown
    have counted : dispatch ∈ share dispatch.active.number (dispatches config [rule] compilation) :=
      List.mem_filter.mpr ⟨shown, by simp⟩
    rw [share_dispatches, only] at counted
    cases number : dispatch.active.number with
    | zero => rfl
    | succ _ => simp [number] at counted
  rw [← every, share_dispatches, only]
  rfl

/-- The number of a rule is not seen by its evaluator. -/
theorem filterMap_dispatchesOf {α : Type} {view : Dispatch → Option α}
    (blind : ∀ site active number, view ⟨site, { active with number }⟩ = view ⟨site, active⟩)
    (number other : Nat) (rule : Rule) :
    (dispatchesOf config compilation number rule).filterMap view =
      (dispatchesOf config compilation other rule).filterMap view := by
  cases started : rule.start compilation with
  | none => simp [dispatchesOf, started]
  | some evaluator =>
    simp only [dispatchesOf, started, List.filterMap_map]
    congr 1
    funext site
    exact blind site ⟨other, rule, config.severityOf rule.descriptor, evaluator⟩ number

theorem run_single {number : Nat} {rule : Rule}
    (place : (enabledRules config rules)[number]? = some rule) :
    run config [rule] Signal.never compilation =
      ⟨(share number (dispatches config rules compilation)).filterMap Dispatch.skip?,
        inertRules config [rule] compilation,
        some ((share number (dispatches config rules compilation)).filterMap
          Dispatch.diagnostic?)⟩ := by
  have enabled : config.isEnabled rule.descriptor = true :=
    (List.mem_filter.mp (List.mem_of_getElem? place)).2
  rw [run_never, dispatches_single enabled, share_dispatches, place, Option.map_some,
    Option.getD_some, filterMap_dispatchesOf (fun _ _ _ => rfl) 0 number,
    filterMap_dispatchesOf (fun _ _ _ => rfl) 0 number]

theorem warnings_analyze_never (colored : Bool) :
    (analyze colored config rules Signal.never compilation).1.warnings =
      ((dispatches config rules compilation).filterMap Dispatch.skip?).map
        (Skip.entry colored) := by
  rw [analyze, run_never]
  simp only [Transcript.warnings, List.filter_append]
  have skips (noted : List Skip) :
      (noted.map (Skip.entry colored)).filter (·.stream = .warn) =
        noted.map (Skip.entry colored) := by
    rw [List.filter_eq_self]
    intro entry member
    obtain ⟨skip, _, rfl⟩ := List.mem_map.mp member
    rfl
  have notes : ((inertRules config rules compilation).map
      (inertEntry colored compilation.assemblyName)).filter (·.stream = .warn) = [] := by
    rw [List.filter_eq_nil_iff]
    intro entry member
    obtain ⟨id, _, rfl⟩ := List.mem_map.mp member
    simp [inertEntry]
  rw [skips, notes, List.append_nil]

theorem map_position_sites (compilation : Compilation) :
    compilation.sites.map (·.position) = List.range compilation.sites.length := by
  rw [Compilation.sites, List.map_map, List.length_map, List.length_zipIdx, List.range_eq_range',
    ← List.zipIdx_map_snd]
  rfl

/-- Rules do not interfere. The evaluations of a run are scheduled by site, in the order of blocks
and in pre-order within a block, and at a site by rule. Every one of them reports its own diagnostic
or is warned about or neither, and what a rule contributes is what it finds as the only rule, no
matter what the others do. -/
theorem run_noninterference (config : Config) (rules : List Rule) (compilation : Compilation) :
    ∃ scheduled, Schedule config rules compilation scheduled ∧
      compilation.sites.map (fun site => (site.block, site.operation)) =
        compilation.blocks.flatMap (fun block => block.body.descendantsAndSelf.map (block, ·)) ∧
      compilation.sites.map (·.position) = List.range compilation.sites.length ∧
      (run config rules Signal.never compilation).diagnostics =
        some (scheduled.filterMap Dispatch.diagnostic?) ∧
      (∀ colored, (analyze colored config rules Signal.never compilation).1.warnings =
        (scheduled.filterMap Dispatch.skip?).map (Skip.entry colored)) ∧
      (∀ number rule, (enabledRules config rules)[number]? = some rule →
        (run config [rule] Signal.never compilation).diagnostics =
          some ((share number scheduled).filterMap Dispatch.diagnostic?) ∧
        (run config [rule] Signal.never compilation).skips =
          (share number scheduled).filterMap Dispatch.skip?) ∧
      (run config rules Signal.never compilation).inertRules =
        (rules.filter fun rule => config.isEnabled rule.descriptor &&
          (rule.start compilation).isNone).map (·.descriptor.id) := by
  refine ⟨dispatches config rules compilation, schedule_dispatches config rules compilation,
    compilation.map_sites, map_position_sites compilation, ?_, warnings_analyze_never, ?_, ?_⟩
  · rw [run_never]
  · intro number rule place
    rw [run_single place]
    exact ⟨rfl, rfl⟩
  · rw [run_never, inertRules, enabledRules, List.filter_filter]
    simp only [Bool.and_comm]

/-- A rule that looks at literals. -/
def literalRule (id : String) (evaluator : Evaluator) : Rule where
  descriptor := ⟨id, "", "", "", .usage, .warning, true, none, []⟩
  analyzesGenerated := false
  kinds := [.literal]
  start := fun _ => some evaluator

/-- A rule that fails at every literal. -/
def clumsy : Rule := literalRule "Clumsy" fun _ _ => .failed "out of luck"

/-- A rule that reports every literal. -/
def attentive : Rule := literalRule "Attentive" fun severity site =>
  .reported ⟨"Attentive", severity, .usage, "a literal", site.operation.location, []⟩

/-- Two literals in a block. -/
def twoLiterals : Compilation :=
  let object : TypeSymbol := ⟨"System.Object", .classType, .object, none, [], false, []⟩
  let method : MethodSymbol := ⟨"Main", "Main", object, .ordinary, none, [], true, none⟩
  let info : Info TypeSymbol := ⟨none, none, false, default⟩
  ⟨"Sample", [object], [method], [], [⟨method, false, .block info [.literal info, .literal info]⟩]⟩

theorem run_noninterference_clumsy :
    ∃ scheduled, Schedule .default [clumsy, attentive] twoLiterals scheduled ∧
      ((share 0 scheduled).filterMap Dispatch.skip?).length = 2 ∧
      (run .default [attentive] Signal.never twoLiterals).diagnostics =
        some ((share 1 scheduled).filterMap Dispatch.diagnostic?) := by
  obtain ⟨scheduled, schedule, _, _, _, _, alone, _⟩ :=
    run_noninterference .default [clumsy, attentive] twoLiterals
  refine ⟨scheduled, schedule, ?_, (alone 1 attentive rfl).1⟩
  rw [← (alone 0 clumsy rfl).2]
  decide +kernel

end Engine

end OperationLint
