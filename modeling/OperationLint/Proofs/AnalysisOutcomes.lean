import OperationLint.Command.Run
import OperationLint.Proofs.EngineRuns
import OperationLint.Proofs.FileWrites
import OperationLint.Proofs.LeakedHandles
import OperationLint.Proofs.NumberTexts

/-!
# What an analysis comes to

An analysis stops at the first thing that cannot be loaded, and then says one error, leaves all
files alone and ends with exit code one. If everything loads, it delivers one report on what the
snapshots yield one by one, counts what it reports, and ends as the counts and the threshold say.

## Main result

`runAnalyze_consistent` says so for all files, snapshots and options.

## Proof strategy

- `exists_analyzeFile` and `analyzeFile_of_error`: one snapshot.
- `exists_analyzeFiles` and `analyzeFiles_of_error`: by induction, the snapshots before a failure
  and all of them without one. What is said on the way are notes only.
- `shouldFail_iff`: the threshold in terms of the counts.
-/

namespace OperationLint

/-! ### Loading -/

/-- The configuration of an analysis, from the one that was loaded. -/
def AnalyzeOptions.configured (options : AnalyzeOptions) (loaded : Config) : Config :=
  { loaded with buildingExtension := loaded.buildingExtension || options.buildingExtension }

/-- A file describes a compilation. -/
def FileTree.Loads (files : FileTree) (path : String) : Prop :=
  ∃ compilation, Compilation.load files path = .ok compilation

/-- The configuration of an analysis and all its snapshots can be loaded. -/
def FileTree.Loadable (files : FileTree) (options : AnalyzeOptions) (snapshots : List String) :
    Prop :=
  (∃ loaded, files.loadConfig files.workingPath options.config = .ok loaded) ∧
    ∀ path ∈ snapshots, files.Loads path

/-- The message of the first thing that cannot be loaded: the configuration, and then the snapshots
in order. -/
inductive FirstFailure (files : FileTree) (options : AnalyzeOptions) : List String → String → Prop
  | config {snapshots : List String} {error : ConfigError}
      (unloaded : files.loadConfig files.workingPath options.config = .error error) :
      FirstFailure files options snapshots error.message
  | snapshot {loaded : Config} {before after : List String} {path : String} {error : SnapshotError}
      (configured : files.loadConfig files.workingPath options.config = .ok loaded)
      (earlier : ∀ other ∈ before, files.Loads other)
      (unloaded : Compilation.load files path = .error error) :
      FirstFailure files options (before ++ path :: after) error.message

/-- What a snapshot yields when it is analyzed on its own. -/
def FileTree.Yields (files : FileTree) (config : Config) (path : String)
    (found : List Diagnostic) : Prop :=
  ∃ compilation, Compilation.load files path = .ok compilation ∧
    (Engine.run config (allRules config.buildingExtension) Signal.never compilation).diagnostics =
      some found

/-- Where not all snapshots load, one is the first that does not. -/
theorem exists_first_unloaded {files : FileTree} {snapshots : List String}
    (unloaded : ¬ ∀ path ∈ snapshots, files.Loads path) :
    ∃ before path after error, snapshots = before ++ path :: after ∧
      (∀ other ∈ before, files.Loads other) ∧ Compilation.load files path = .error error := by
  induction snapshots with
  | nil => exact absurd (fun _ listed => absurd listed List.not_mem_nil) unloaded
  | cons path rest ih =>
    cases load : Compilation.load files path with
    | error error => exact ⟨[], path, rest, error, rfl, by simp, load⟩
    | ok compilation =>
      -- This one loads, so the first that does not is among the others.
      have here : files.Loads path := ⟨compilation, load⟩
      have later : ¬ ∀ other ∈ rest, files.Loads other := by
        intro all
        exact unloaded (List.forall_mem_cons.mpr ⟨here, all⟩)
      obtain ⟨before, failing, after, error, rfl, earlier, refused⟩ := ih later
      exact ⟨path :: before, failing, after, error, rfl,
        List.forall_mem_cons.mpr ⟨here, earlier⟩, refused⟩

theorem exists_firstFailure {files : FileTree} {options : AnalyzeOptions} {snapshots : List String}
    (unloadable : ¬ files.Loadable options snapshots) :
    ∃ message, FirstFailure files options snapshots message := by
  cases load : files.loadConfig files.workingPath options.config with
  | error error => exact ⟨error.message, .config load⟩
  | ok loaded =>
    have unloaded : ¬ ∀ path ∈ snapshots, files.Loads path :=
      fun all => unloadable ⟨⟨loaded, load⟩, all⟩
    obtain ⟨before, path, after, error, rfl, earlier, refused⟩ := exists_first_unloaded unloaded
    exact ⟨error.message, .snapshot load earlier refused⟩

/-! ### Notes -/

/-- What is said about rules on the way: that one was skipped at a place, or that it is inactive. -/
inductive IsNote (colored : Bool) : Entry → Prop
  | skipped (skip : Engine.Skip) : IsNote colored (skip.entry colored)
  | inert (assemblyName ruleId : String) : IsNote colored (inertEntry colored assemblyName ruleId)

/-- Notes are neither results nor errors. -/
theorem IsNote.stream {colored : Bool} {entry : Entry} (note : IsNote colored entry) :
    entry.stream ≠ .log ∧ entry.stream ≠ .error := by
  cases note with
  | skipped skip => simp [Engine.Skip.entry]
  | inert assemblyName ruleId => simp [inertEntry]

theorem filter_stream_notes {colored : Bool} {notes : Transcript}
    (noted : ∀ note ∈ notes, IsNote colored note) (stream : Stream)
    (heard : stream = .log ∨ stream = .error) : notes.filter (·.stream = stream) = [] := by
  rw [List.filter_eq_nil_iff]
  intro note listed
  obtain ⟨notLog, notError⟩ := (noted note listed).stream
  rcases heard with rfl | rfl
  · simpa using notLog
  · simpa using notError

/-! ### Snapshots one after the other -/

section Snapshots

variable (colored : Bool) (config : Config) {files : FileTree}

theorem exists_analyzeFile {path : String} (loads : files.Loads path) :
    ∃ notes found, (∀ note ∈ notes, IsNote colored note) ∧ files.Yields config path found ∧
      analyzeFile colored config (allRules config.buildingExtension) files path =
        (notes, .ok found) := by
  obtain ⟨compilation, load⟩ := loads
  -- Nothing cancels the run of a file, so it publishes its diagnostics.
  obtain ⟨found, published⟩ : ∃ found, (Engine.run config (allRules config.buildingExtension)
      Signal.never compilation).diagnostics = some found := ⟨_, Engine.run_never_diagnostics _⟩
  have analyzed := analyzeFile.eq_def colored config (allRules config.buildingExtension) files path
  simp only [load, analyze, published] at analyzed
  refine ⟨_, found, ?_, ⟨compilation, load, published⟩, analyzed⟩
  intro note listed
  rcases List.mem_append.mp listed with warning | remark
  · obtain ⟨skip, _, rfl⟩ := List.mem_map.mp warning
    exact .skipped skip
  · obtain ⟨ruleId, _, rfl⟩ := List.mem_map.mp remark
    exact .inert compilation.assemblyName ruleId

theorem analyzeFile_of_error {path : String} {error : SnapshotError}
    (unloaded : Compilation.load files path = .error error) (rules : List Rule) :
    analyzeFile colored config rules files path = ([], .error (.snapshot error)) := by
  simp only [analyzeFile, unloaded]

/-- Snapshots that all load yield their diagnostics in order. -/
theorem exists_analyzeFiles {snapshots : List String}
    (loads : ∀ path ∈ snapshots, files.Loads path) :
    ∃ notes groups, (∀ note ∈ notes, IsNote colored note) ∧
      List.Forall₂ (files.Yields config) snapshots groups ∧
      analyzeFiles colored config (allRules config.buildingExtension) files snapshots =
        (notes, .ok groups.flatten) := by
  induction snapshots with
  | nil => exact ⟨[], [], by simp, .nil, rfl⟩
  | cons path rest ih =>
    obtain ⟨here, later⟩ := List.forall_mem_cons.mp loads
    obtain ⟨notes, found, noted, yielded, analyzed⟩ :=
      exists_analyzeFile colored config here
    obtain ⟨moreNotes, groups, moreNoted, moreYielded, moreAnalyzed⟩ := ih later
    refine ⟨notes ++ moreNotes, found :: groups, ?_, .cons yielded moreYielded, ?_⟩
    · exact List.forall_mem_append.mpr ⟨noted, moreNoted⟩
    · simp only [analyzeFiles, analyzed, moreAnalyzed]
      rfl

/-- The first snapshot that does not load ends the analysis, whatever comes after it. -/
theorem analyzeFiles_of_error {before after : List String} {path : String} {error : SnapshotError}
    (earlier : ∀ other ∈ before, files.Loads other)
    (unloaded : Compilation.load files path = .error error) :
    ∃ notes, (∀ note ∈ notes, IsNote colored note) ∧
      analyzeFiles colored config (allRules config.buildingExtension) files
        (before ++ path :: after) = (notes, .error (.snapshot error)) := by
  induction before with
  | nil =>
    refine ⟨[], by simp, ?_⟩
    simp only [List.nil_append, analyzeFiles, analyzeFile_of_error colored config unloaded]
  | cons first rest ih =>
    obtain ⟨here, later⟩ := List.forall_mem_cons.mp earlier
    obtain ⟨notes, found, noted, _, analyzed⟩ :=
      exists_analyzeFile colored config here
    obtain ⟨moreNotes, moreNoted, failed⟩ := ih later
    refine ⟨notes ++ moreNotes, List.forall_mem_append.mpr ⟨noted, moreNoted⟩, ?_⟩
    simp only [List.cons_append, analyzeFiles, analyzed, failed]
    rfl

end Snapshots

/-! ### Counts and thresholds -/

theorem count_pos_iff {severity : Severity} {diagnostics : List Diagnostic} :
    0 < Diagnostic.count severity diagnostics ↔
      ∃ diagnostic ∈ diagnostics, diagnostic.severity = severity := by
  simp [Diagnostic.count, Diagnostic.ofSeverity, List.length_pos_iff_exists_mem]

/-- Every diagnostic is counted under exactly one severity. -/
theorem count_total (diagnostics : List Diagnostic) :
    Diagnostic.count .error diagnostics + Diagnostic.count .warning diagnostics
      + Diagnostic.count .info diagnostics = diagnostics.length := by
  induction diagnostics with
  | nil => rfl
  | cons diagnostic rest ih =>
    simp only [Diagnostic.count, Diagnostic.ofSeverity] at ih ⊢
    cases severity : diagnostic.severity with
    | error => simp [severity]; omega
    | warning => simp [severity]; omega
    | info => simp [severity]; omega

/-- The counts reach a threshold. -/
def FailOn.IsReached (failOn : FailOn) (diagnostics : List Diagnostic) : Prop :=
  (failOn = .error ∧ 0 < Diagnostic.count .error diagnostics) ∨
    (failOn = .warning ∧ (0 < Diagnostic.count .error diagnostics ∨
      0 < Diagnostic.count .warning diagnostics))

theorem shouldFail_iff (diagnostics : List Diagnostic) (failOn : FailOn) :
    shouldFail diagnostics failOn = true ↔ failOn.IsReached diagnostics := by
  simp only [FailOn.IsReached, count_pos_iff]
  cases failOn with
  | never => simp [shouldFail]
  | error => simp [shouldFail]
  | warning =>
    simp only [shouldFail, List.any_eq_true, Bool.or_eq_true, decide_eq_true_eq, reduceCtorEq,
      false_and, false_or, true_and]
    constructor
    · rintro ⟨diagnostic, listed, isError | isWarning⟩
      · exact .inl ⟨diagnostic, listed, isError⟩
      · exact .inr ⟨diagnostic, listed, isWarning⟩
    · rintro (⟨diagnostic, listed, isError⟩ | ⟨diagnostic, listed, isWarning⟩)
      · exact ⟨diagnostic, listed, .inl isError⟩
      · exact ⟨diagnostic, listed, .inr isWarning⟩

/-! ### Outcomes -/

def startEntry (colored : Bool) : Entry :=
  ⟨.log, [Style.blue.paint colored "Analyzing compilation snapshots..."]⟩

/-- The counts at the end, by severity. -/
def summaryEntries (colored : Bool) (errors warnings infos : Nat) : Transcript :=
  [⟨.log, ["\n" ++ Style.bold.paint colored "Summary:"]⟩,
    ⟨.log, [Style.red.paint colored "Errors:" ++ " " ++ toString errors]⟩,
    ⟨.log, [Style.yellow.paint colored "Warnings:" ++ " " ++ toString warnings]⟩,
    ⟨.log, [Style.blue.paint colored "Info:" ++ " " ++ toString infos]⟩]

def failureEntry (colored : Bool) (message : String) : Entry :=
  ⟨.error, [Style.red.paint colored "Analysis failed:", message]⟩

/-- An analysis fails cleanly: it says one error, neither a report nor a summary, and leaves all
files alone. -/
structure FailsCleanly (colored : Bool) (files : FileTree) (message : String)
    (outcome : Outcome) : Prop where
  exitCode : outcome.exitCode = 1
  files : outcome.files = files
  said : ∃ notes, (∀ note ∈ notes, IsNote colored note) ∧
    outcome.transcript = startEntry colored :: notes ++ [failureEntry colored message]
  errors : outcome.transcript.filter (·.stream = .error) = [failureEntry colored message]
  results : outcome.transcript.filter (·.stream = .log) = [startEntry colored]

/-- An analysis reports on diagnostics: it delivers its report, says how many there are of each
severity, and ends with the exit code of its threshold. -/
structure ReportsOn (colored : Bool) (failOn : FailOn) (diagnostics : List Diagnostic)
    (delivered : String) (outcome : Outcome) : Prop where
  said : ∃ notes, (∀ note ∈ notes, IsNote colored note) ∧
    outcome.transcript = startEntry colored :: notes ++ ⟨.log, [delivered]⟩ ::
      summaryEntries colored (Diagnostic.count .error diagnostics)
        (Diagnostic.count .warning diagnostics) (Diagnostic.count .info diagnostics)
  total : Diagnostic.count .error diagnostics + Diagnostic.count .warning diagnostics
    + Diagnostic.count .info diagnostics = (Diagnostic.sort diagnostics).length
  exitCode : outcome.exitCode = 0 ∨ outcome.exitCode = 1
  fails : outcome.exitCode = 1 ↔ failOn.IsReached diagnostics

theorem failsCleanly_failed {colored : Bool} {files : FileTree} {notes : Transcript}
    (noted : ∀ note ∈ notes, IsNote colored note) (message : String) :
    FailsCleanly colored files message
      (failed colored files (startEntry colored :: notes) message) where
  exitCode := rfl
  files := rfl
  said := ⟨notes, noted, rfl⟩
  errors := by
    have silent := filter_stream_notes noted .error (.inr rfl)
    simp [failed, silent, startEntry, failureEntry]
  results := by
    have silent := filter_stream_notes noted .log (.inl rfl)
    simp [failed, silent, startEntry]

/-- The end of an analysis whose report was delivered. -/
theorem reports_delivered {colored : Bool} {notes : Transcript} {failOn : FailOn}
    (noted : ∀ note ∈ notes, IsNote colored note) (diagnostics : List Diagnostic)
    (delivered : String) (files : FileTree) :
    ReportsOn colored failOn diagnostics delivered
      ⟨[startEntry colored] ++ notes ++ [⟨.log, [delivered]⟩] ++ summary colored diagnostics,
        if shouldFail diagnostics failOn then 1 else 0, files⟩ where
  said := by
    refine ⟨notes, noted, ?_⟩
    simp [summary, summaryEntries]
  total := by
    rw [count_total, Diagnostic.sort, List.length_mergeSort]
  exitCode := by
    by_cases fails : shouldFail diagnostics failOn = true
    · exact .inr (if_pos fails)
    · exact .inl (if_neg fails)
  fails := by
    rw [← shouldFail_iff]
    by_cases fails : shouldFail diagnostics failOn = true
    · simp [fails]
    · simp [fails]

/-- The report on the diagnostics of an analysis. -/
def AnalyzeOptions.reportText (options : AnalyzeOptions) (colored : Bool) (config : Config)
    (diagnostics : List Diagnostic) : String :=
  report colored
    ((Engine.enabledRules config (allRules config.buildingExtension)).map (·.descriptor))
    options.format diagnostics

/-- How an analysis ends that has something to report: the report goes to the console or to a file,
and the analysis fails if that file cannot be written. -/
inductive Concludes (colored : Bool) (files : FileTree) (options : AnalyzeOptions)
    (diagnostics : List Diagnostic) (text : String) (outcome : Outcome) : Prop
  | shown (unnamed : options.output.filter (· ≠ "") = none) (unchanged : outcome.files = files)
      (reported : ReportsOn colored options.failOn diagnostics text outcome)
  | written {path : String} {after : FileTree} (named : options.output.filter (· ≠ "") = some path)
      (wrote : files.write path text = .ok after) (changed : outcome.files = after)
      (readBack : outcome.files.read path = .ok text)
      (reported : ReportsOn colored options.failOn diagnostics
        (Style.green.paint colored ("Report written to " ++ path)) outcome)
  | unwritten {path : String} {fault : FileFault}
      (named : options.output.filter (· ≠ "") = some path)
      (refused : files.write path text = .error fault)
      (failed : FailsCleanly colored files (FileError.message ⟨fault, path⟩) outcome)

section Run

variable (colored : Bool) {files : FileTree} {snapshots : List String} {options : AnalyzeOptions}

/-- An analysis once its configuration is loaded. -/
theorem runAnalyze_of_loaded {loaded : Config}
    (load : files.loadConfig files.workingPath options.config = .ok loaded) :
    runAnalyze colored files snapshots options =
      match analyzeFiles colored (options.configured loaded)
        (allRules (options.configured loaded).buildingExtension) files snapshots with
      | (said, .error error) => failed colored files (startEntry colored :: said) error.message
      | (said, .ok diagnostics) =>
        match deliver colored files options.output
          (options.reportText colored (options.configured loaded) diagnostics) with
        | .error error => failed colored files (startEntry colored :: said) error.message
        | .ok (delivered, after) =>
          ⟨startEntry colored :: said ++ delivered ++ summary colored diagnostics,
            if shouldFail diagnostics options.failOn then 1 else 0, after⟩ := by
  rw [runAnalyze, load]
  rfl

theorem failsCleanly_of_firstFailure {message : String}
    (failure : FirstFailure files options snapshots message) :
    FailsCleanly colored files message (runAnalyze colored files snapshots options) := by
  cases failure with
  | config unloaded =>
    rw [runAnalyze, unloaded]
    exact failsCleanly_failed (fun _ listed => absurd listed List.not_mem_nil) _
  | snapshot load earlier unloaded =>
    obtain ⟨notes, noted, analyzed⟩ :=
      analyzeFiles_of_error colored (options.configured _) earlier unloaded
    rw [runAnalyze_of_loaded colored load, analyzed]
    exact failsCleanly_failed noted _

theorem concludes_of_loads {loaded : Config}
    (load : files.loadConfig files.workingPath options.config = .ok loaded)
    (loads : ∀ path ∈ snapshots, files.Loads path) :
    ∃ groups, List.Forall₂ (files.Yields (options.configured loaded)) snapshots groups ∧
      Concludes colored files options groups.flatten
        (options.reportText colored (options.configured loaded) groups.flatten)
        (runAnalyze colored files snapshots options) := by
  obtain ⟨notes, groups, noted, yielded, analyzed⟩ :=
    exists_analyzeFiles colored (options.configured loaded) loads
  refine ⟨groups, yielded, ?_⟩
  -- From here on only where the report goes matters, not what it says.
  rw [runAnalyze_of_loaded colored load, analyzed]
  dsimp only
  generalize options.reportText colored (options.configured loaded) groups.flatten = text
  cases output : options.output.filter (· ≠ "") with
  | none =>
    rw [deliver, output]
    exact .shown output rfl (reports_delivered noted _ _ _)
  | some path =>
    rw [deliver, output]
    cases wrote : files.write path text with
    | error fault =>
      simp only [wrote]
      exact .unwritten output wrote (failsCleanly_failed noted _)
    | ok after =>
      simp only [wrote]
      exact .written output wrote rfl (FileTree.read_of_write wrote)
        (reports_delivered noted _ _ _)

end Run

/-- An analysis fails cleanly when something does not load or the report cannot be written, and
otherwise reports on what the snapshots yield one by one. -/
theorem runAnalyze_consistent (colored : Bool) (files : FileTree) (snapshots : List String)
    (options : AnalyzeOptions) :
    (¬ files.Loadable options snapshots →
      ∃ message, FirstFailure files options snapshots message ∧
        FailsCleanly colored files message (runAnalyze colored files snapshots options)) ∧
    (files.Loadable options snapshots →
      ∃ loaded groups, files.loadConfig files.workingPath options.config = .ok loaded ∧
        List.Forall₂ (files.Yields (options.configured loaded)) snapshots groups ∧
        Concludes colored files options groups.flatten
          (options.reportText colored (options.configured loaded) groups.flatten)
          (runAnalyze colored files snapshots options)) := by
  constructor
  · intro unloadable
    obtain ⟨message, failure⟩ := exists_firstFailure unloadable
    exact ⟨message, failure, failsCleanly_of_firstFailure colored failure⟩
  · rintro ⟨⟨loaded, load⟩, loads⟩
    obtain ⟨groups, yielded, concluded⟩ := concludes_of_loads colored load loads
    exact ⟨loaded, groups, load, yielded, concluded⟩

/-! ### A leak in a file -/

/-- A directory with one snapshot and no configuration. -/
def snapshotFiles (snapshot : Json) : FileTree :=
  FileTree.ofFiles ["work"] [("snapshot.json", snapshot.indented ++ "\n")]

theorem readJson_snapshotFiles {snapshot : Json} (plain : snapshot.isPlain = true) :
    (snapshotFiles snapshot).readJson "snapshot.json" = .ok snapshot := by
  have content : (snapshotFiles snapshot).read "snapshot.json" =
      .ok (snapshot.indented ++ "\n") := rfl
  have legible := Json.legible_of_isPlain snapshot plain
  exact FileTree.readJson_eq_ok content (Json.parse?_indented legible (.inr rfl))

theorem not_loads_missing (snapshot : Json) : ¬ (snapshotFiles snapshot).Loads "missing.json" := by
  have content : (snapshotFiles snapshot).read "missing.json" = .error .missing := rfl
  rintro ⟨compilation, load⟩
  simp [Compilation.load, FileTree.readJson, Json.ofContent, content] at load

theorem exists_write_snapshotFiles (snapshot : Json) (text : String) :
    ∃ after, (snapshotFiles snapshot).write "report.json" text = .ok after := ⟨_, rfl⟩

/-- A directory with the snapshot of a leak. -/
def leakyFiles : FileTree := snapshotFiles DisposableFinalizer.leakySnapshot

theorem isPlain_leakySnapshot : DisposableFinalizer.leakySnapshot.isPlain = true := by
  decide +kernel

/-- The snapshot loads, and its only diagnostic is a warning. -/
theorem leakyFiles_load : ∃ compilation,
    Compilation.load leakyFiles "snapshot.json" = .ok compilation ∧
    (Engine.run .default (allRules false) Signal.never compilation).diagnostics.map
      (·.map (·.severity)) = some [.warning] := by
  obtain ⟨compilation, accepted, warned⟩ : ∃ compilation,
      Compilation.ofJson DisposableFinalizer.leakySnapshot (some "snapshot.json") =
        .ok compilation ∧
      (Engine.run .default (allRules false) Signal.never compilation).diagnostics.map
        (·.map (·.severity)) = some [.warning] :=
    ⟨_, rfl, by decide +kernel⟩
  refine ⟨compilation, ?_, warned⟩
  rw [Compilation.load, leakyFiles, readJson_snapshotFiles isPlain_leakySnapshot]
  exact accepted

/-- However often the snapshot is analyzed, it yields the same warning each time. -/
theorem exists_leak : ∃ found : Diagnostic, found.severity = .warning ∧
    ∀ count groups, List.Forall₂ (leakyFiles.Yields .default)
      (List.replicate count "snapshot.json") groups → groups = List.replicate count [found] := by
  obtain ⟨compilation, load, warned⟩ := leakyFiles_load
  obtain ⟨only, ran, severities⟩ := Option.map_eq_some_iff.mp warned
  obtain ⟨found, rfl, isWarning⟩ := List.map_eq_singleton_iff.mp severities
  refine ⟨found, isWarning, ?_⟩
  intro count
  induction count with
  | zero => exact fun _ yielded => List.forall₂_nil_left_iff.mp yielded
  | succ count ih =>
    intro groups yielded
    obtain ⟨published, more, ⟨_, loaded, again⟩, later, rfl⟩ :=
      List.forall₂_cons_left_iff.mp yielded
    -- The file has one compilation, and a run of it publishes one list.
    cases load.symm.trans loaded
    rw [ih more later, Option.some.inj (again.symm.trans ran), List.replicate_succ]

/-- A report to a file, with the lowest threshold. -/
def strictOptions : AnalyzeOptions := ⟨none, .json, some "report.json", .warning, false⟩

/-- A leak that is found twice is counted twice, reaches the threshold and is written to the report.
If the second snapshot is missing, nothing is said of the leak in the first one. -/
theorem runAnalyze_consistent_leaky :
    (∃ message, FirstFailure leakyFiles strictOptions ["snapshot.json", "missing.json"] message ∧
      FailsCleanly true leakyFiles message
        (runAnalyze true leakyFiles ["snapshot.json", "missing.json"] strictOptions)) ∧
    ∃ found : Diagnostic, found.severity = .warning ∧
      let outcome := runAnalyze true leakyFiles ["snapshot.json", "snapshot.json"] strictOptions
      outcome.exitCode = 1 ∧ summaryEntries true 0 2 0 <:+ outcome.transcript ∧
      outcome.files.read "report.json" =
        .ok (strictOptions.reportText true .default [found, found]) := by
  obtain ⟨compilation, load, _⟩ := leakyFiles_load
  have loads : leakyFiles.Loads "snapshot.json" := ⟨compilation, load⟩
  have configured : leakyFiles.loadConfig leakyFiles.workingPath strictOptions.config =
      .ok .default := rfl
  constructor
  · apply (runAnalyze_consistent true leakyFiles _ strictOptions).1
    exact fun loadable => not_loads_missing _ (loadable.2 "missing.json" (by simp))
  · have loadable : leakyFiles.Loadable strictOptions ["snapshot.json", "snapshot.json"] :=
      ⟨⟨_, configured⟩, by simp [loads]⟩
    obtain ⟨loaded, groups, loadedConfig, yielded, concluded⟩ :=
      (runAnalyze_consistent true leakyFiles _ strictOptions).2 loadable
    obtain rfl := Except.ok.inj (configured.symm.trans loadedConfig)
    obtain ⟨found, isWarning, only⟩ := exists_leak
    obtain rfl := only 2 groups yielded
    refine ⟨found, isWarning, ?_⟩
    -- The report goes to a file, and the directory has room for that file.
    cases concluded with
    | shown unnamed => cases unnamed
    | unwritten named refused =>
      cases named
      obtain ⟨after, wrote⟩ := exists_write_snapshotFiles _ _
      cases wrote.symm.trans refused
    | written named _ _ readBack reported =>
      cases named
      refine ⟨reported.fails.mpr (.inr ⟨rfl, .inr ?_⟩), ?_, readBack⟩
      · exact count_pos_iff.mpr ⟨found, List.mem_cons_self, isWarning⟩
      · obtain ⟨notes, _, said⟩ := reported.said
        have both : (List.replicate 2 [found]).flatten = [found, found] := rfl
        have counts : Diagnostic.count .error [found, found] = 0 ∧
            Diagnostic.count .warning [found, found] = 2 ∧
            Diagnostic.count .info [found, found] = 0 := by
          simp [Diagnostic.count, Diagnostic.ofSeverity, isWarning]
        rw [said, both, counts.1, counts.2.1, counts.2.2, List.append_cons]
        exact List.suffix_append _ _

end OperationLint
