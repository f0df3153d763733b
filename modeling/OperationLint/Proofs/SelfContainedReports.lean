import OperationLint.Proofs.ExtensionBuilds
import OperationLint.Proofs.ReportListings

/-!
# Reports that stand on their own

A report for analysis viewers declares rules and lists results. Which rules it declares is decided
by the configuration, and what its results refer to by the rules that ran; a viewer needs the two to
fit. And it needs places to show, which are those of the snapshots that were analyzed.

## Main result

`runAnalyze_self_contained`: in the report of an analysis every result names exactly one declared
rule, and is placed where the snapshot has a type or an operation.

## Proof strategy

- `positions_of_published`: a diagnostic comes from a rule at a site. The certificate rule reports
  at the site itself, and the finalizer rule at the locations of a type of the compilation, if it
  has any; both are positions of the document.
- `countP_declared`: the declared rules are the enabled ones. What is published was reported by one
  of these, and their ids are distinct.
-/

namespace OperationLint

/-! ### Positions of a snapshot -/

/-- A type or an operation of a snapshot is at a location. -/
def Json.HasPosition (snapshot : Json) (location : Location) : Prop :=
  (∃ type ∈ snapshot.entries "types", ∃ value ∈ type.entries "locations",
    value.IsLocation location) ∨
  ∃ operation ∈ snapshot.analyzedOperations true, ∃ value,
    operation.member? "location" = some value ∧ value.IsLocation location

/-- All locations of a diagnostic, its own first. -/
def Diagnostic.locations (diagnostic : Diagnostic) : List Location :=
  diagnostic.location :: diagnostic.additionalLocations

section Positions

variable {snapshot : Json} {compilation : Compilation}

theorem hasPosition_of_type (described : Compilation.Described snapshot compilation)
    {type : TypeSymbol} (member : type ∈ compilation.types) {location : Location}
    (located : location ∈ type.locations) : snapshot.HasPosition location := by
  obtain ⟨entry, listed, about⟩ := exists_mem_of_forall₂ described.types.flip type member
  obtain ⟨value, inside, isLocation⟩ := exists_mem_of_forall₂ about.locations.flip location located
  exact .inl ⟨entry, listed, value, inside, isLocation⟩

/-- A place of a document is one of its operations, of a block that may be generated. -/
theorem mem_analyzedOperations {place : Json × Json} (listed : place ∈ snapshot.places) :
    place.2 ∈ snapshot.analyzedOperations true := by
  obtain ⟨block, blockListed, inside⟩ := List.mem_flatMap.mp listed
  obtain ⟨operation, visited, rfl⟩ := List.mem_map.mp inside
  exact List.mem_flatMap.mpr ⟨block, List.mem_filter.mpr ⟨blockListed, rfl⟩, visited⟩

theorem hasPosition_of_denotes {place : Json × Json} {operation : BoundOperation}
    (listed : place ∈ snapshot.places)
    (denoted : Operation.Denotes compilation.symbols place.2 operation) :
    snapshot.HasPosition operation.location := by
  obtain ⟨value, held, isLocation⟩ := denoted.describes.location
  exact .inr ⟨place.2, mem_analyzedOperations listed, value, held, isLocation⟩

/-- What is published is placed where the document has a type or an operation. -/
theorem positions_of_published {config : Config} {source : Option String} {signal : Signal}
    (accepted : Compilation.ofJson snapshot source = .ok compilation) {published : List Diagnostic}
    (ran : (Engine.run config (allRules config.buildingExtension) signal compilation).diagnostics =
      some published) :
    ∀ diagnostic ∈ published, ∀ location ∈ diagnostic.locations, snapshot.HasPosition location := by
  intro diagnostic listed location located
  have described := Compilation.described_of_ofJson accepted
  obtain ⟨rule, enabled, evaluator, started, site, visited, reported⟩ :=
    Engine.exists_report_of_published ran listed
  obtain ⟨place, placeListed, _, denoted⟩ :=
    exists_mem_of_forall₂ described.sites.flip site visited
  have here := hasPosition_of_denotes placeListed denoted
  rcases mem_allRules (List.mem_of_mem_filter enabled) with rfl | rfl
  · obtain rfl := CertificateValidation.eq_of_reported started reported
    rwa [List.mem_singleton.mp located]
  · obtain ⟨types, type, leaking, rfl⟩ := DisposableFinalizer.eq_of_reported started reported
    have member := DisposableFinalizer.leakingType?_mem described denoted leaking
    change location ∈ type.locations.headD site.operation.location :: type.locations.tail at located
    -- A type without locations of its own is reported where the handle is assigned.
    cases own : type.locations with
    | nil =>
      rw [own] at located
      rwa [List.mem_singleton.mp located]
    | cons first more =>
      rw [own] at located
      exact hasPosition_of_type described member (own ▸ located)

end Positions

/-! ### The declared rules -/

namespace SarifReport

/-- The rules that the only run of a document declares. -/
def rulesPath : Json.Path := [.key "runs", .index 0, .key "tool", .key "driver", .key "rules"]

/-- A place of a document shows a location. -/
structure Shows (location : Location) (place : Json) : Prop where
  uri : place.get? [.key "physicalLocation", .key "artifactLocation", .key "uri"] =
    some (.string location.path)
  startLine : place.get? [.key "physicalLocation", .key "region", .key "startLine"] =
    some (.number location.startLine)
  startColumn : place.get? [.key "physicalLocation", .key "region", .key "startColumn"] =
    some (.number location.startColumn)
  endLine : place.get? [.key "physicalLocation", .key "region", .key "endLine"] =
    some (.number location.endLine)
  endColumn : place.get? [.key "physicalLocation", .key "region", .key "endColumn"] =
    some (.number location.endColumn)

/-- A result refers to one rule of those declared, and shows all locations of a diagnostic. -/
structure Resolves (declared : List Json) (diagnostic : Diagnostic) (result : Json) : Prop where
  ruleId : result.text? "ruleId" = some diagnostic.ruleId
  once : declared.countP (fun rule => rule.text? "id" = some diagnostic.ruleId) = 1
  places : List.Forall₂ Shows diagnostic.locations (result.entries "locations")
  placed : result.entries "locations" ≠ []

theorem shows_place (location : Location) : Shows location (place location) := by
  constructor <;> rfl

/-- Among rules with distinct ids one is declared under the id of each of them. -/
theorem countP_declared {descriptors : List Descriptor}
    (distinct : (descriptors.map (·.id)).Nodup) {descriptor : Descriptor}
    (member : descriptor ∈ descriptors) :
    (descriptors.map rule).countP (fun entry => entry.text? "id" = some descriptor.id) = 1 := by
  have named : (fun entry : Json => decide (entry.text? "id" = some descriptor.id)) ∘ rule =
      (fun id => id == descriptor.id) ∘ Descriptor.id := by
    funext other
    exact decide_eq_decide.mpr (Option.some_inj (a := other.id))
  rw [List.countP_map, named, ← List.countP_map]
  exact List.count_eq_one_of_mem distinct (List.mem_map_of_mem member)

theorem resolves_result {descriptors : List Descriptor}
    (distinct : (descriptors.map (·.id)).Nodup) {diagnostic : Diagnostic}
    (known : ∃ descriptor ∈ descriptors, diagnostic.ruleId = descriptor.id) :
    Resolves (descriptors.map rule) diagnostic (result diagnostic) := by
  obtain ⟨descriptor, member, same⟩ := known
  refine ⟨rfl, ?_, forall₂_map_self shows_place diagnostic.locations, List.cons_ne_nil _ _⟩
  rw [same]
  exact countP_declared distinct member

end SarifReport

/-- The rules that an analysis declares have distinct ids. -/
theorem enabledRules_distinct (config : Config) (buildingExtension : Bool) :
    (((Engine.enabledRules config (allRules buildingExtension)).map (·.descriptor)).map
      (·.id)).Nodup := by
  rw [List.map_map]
  exact (allRules_distinct buildingExtension).sublist (List.filter_sublist.map _)

/-- What is published was reported by an enabled rule under its id. -/
theorem ruleId_of_published {config : Config} {signal : Signal} {compilation : Compilation}
    {published : List Diagnostic}
    (ran : (Engine.run config (allRules config.buildingExtension) signal compilation).diagnostics =
      some published) {diagnostic : Diagnostic} (listed : diagnostic ∈ published) :
    ∃ descriptor ∈
      (Engine.enabledRules config (allRules config.buildingExtension)).map (·.descriptor),
      diagnostic.ruleId = descriptor.id := by
  obtain ⟨rule, member, own, enabled, _⟩ := accountsFor_of_published ran listed
  rw [← own] at enabled
  exact ⟨rule.descriptor, List.mem_map_of_mem (List.mem_filter.mpr ⟨member, enabled⟩), own.symm⟩

/-! ### Analyses -/

/-- The snapshot in a file has all locations of diagnostics. -/
def FileTree.HasPositions (files : FileTree) (path : String) (diagnostics : List Diagnostic) :
    Prop :=
  ∃ snapshot, files.readJson path = .ok snapshot ∧
    ∀ diagnostic ∈ diagnostics, ∀ location ∈ diagnostic.locations, snapshot.HasPosition location

section Analyses

variable {files : FileTree} {config : Config}

theorem FileTree.Yields.hasPositions {path : String} {found : List Diagnostic}
    (yielded : files.Yields config path found) : files.HasPositions path found := by
  obtain ⟨compilation, load, ran⟩ := yielded
  cases read : files.readJson path with
  | error fault => simp [Compilation.load, read] at load
  | ok snapshot =>
    simp only [Compilation.load, read] at load
    exact ⟨snapshot, read, positions_of_published load ran⟩

/-- In the report on what snapshots yield every result resolves. -/
theorem resolves_of_yields {snapshots : List String} {groups : List (List Diagnostic)}
    (yielded : List.Forall₂ (files.Yields config) snapshots groups) :
    List.Forall₂ (SarifReport.Resolves
        (((Engine.enabledRules config (allRules config.buildingExtension)).map (·.descriptor)).map
          SarifReport.rule))
      (Diagnostic.sort groups.flatten)
      ((Diagnostic.sort groups.flatten).map SarifReport.result) := by
  rw [List.forall₂_map_right_iff, List.forall₂_same]
  intro diagnostic listed
  -- Sorting moves diagnostics of different snapshots, but each comes from one of them.
  obtain ⟨group, inside, member⟩ := List.mem_flatten.mp (List.mem_mergeSort.mp listed)
  obtain ⟨path, _, compilation, _, ran⟩ := exists_mem_of_forall₂ yielded.flip group inside
  exact SarifReport.resolves_result (enabledRules_distinct _ _) (ruleId_of_published ran member)

end Analyses

/-- A report for viewers stands on its own. Its results are those of the sorted diagnostics of all
snapshots; each refers to exactly one declared rule and shows the locations of its diagnostic, the
own one first. And these locations are positions of the snapshot that the diagnostic is from. -/
theorem runAnalyze_self_contained (colored : Bool) {files : FileTree} {snapshots : List String}
    {options : AnalyzeOptions} (format : options.format = .sarif)
    (loadable : files.Loadable options snapshots) :
    ∃ loaded groups document declared results,
      files.loadConfig files.workingPath options.config = .ok loaded ∧
      List.Forall₂ (files.Yields (options.configured loaded)) snapshots groups ∧
      Concludes colored files options groups.flatten (Json.indented document)
        (runAnalyze colored files snapshots options) ∧
      document.get? SarifReport.rulesPath = some (.array declared) ∧
      document.get? SarifReport.resultsPath = some (.array results) ∧
      List.Forall₂ (SarifReport.Resolves declared) (Diagnostic.sort groups.flatten) results ∧
      List.Forall₂ files.HasPositions snapshots groups := by
  obtain ⟨⟨loaded, load⟩, loads⟩ := loadable
  obtain ⟨groups, yielded, concluded⟩ := concludes_of_loads colored load loads
  rw [AnalyzeOptions.reportText, format] at concluded
  exact ⟨loaded, groups, _, _, _, load, yielded, concluded, rfl, rfl, resolves_of_yields yielded,
    yielded.imp fun _ _ here => here.hasPositions⟩

/-- The report on a leak has one result. -/
theorem runAnalyze_self_contained_leaky :
    ∃ document declared results found,
      Concludes false leakyFiles (leakyOptions false) [found] (Json.indented document)
        (runAnalyze false leakyFiles ["snapshot.json"] (leakyOptions false)) ∧
      document.get? SarifReport.rulesPath = some (.array declared) ∧
      document.get? SarifReport.resultsPath = some (.array results) ∧
      List.Forall₂ (SarifReport.Resolves declared) [found] results ∧
      leakyFiles.HasPositions "snapshot.json" [found] := by
  obtain ⟨compilation, load, _⟩ := leakyFiles_load
  have loadable : leakyFiles.Loadable (leakyOptions false) ["snapshot.json"] :=
    ⟨⟨.default, rfl⟩, List.forall_mem_singleton.mpr ⟨compilation, load⟩⟩
  obtain ⟨loaded, groups, document, declared, results, configured, yielded, concluded, rules,
    listed, resolved, placed⟩ := runAnalyze_self_contained false rfl loadable
  cases configured
  obtain ⟨found, _, only⟩ := exists_leak
  obtain rfl := only 1 _ yielded
  exact ⟨document, declared, results, found, concluded, rules, listed,
    by simpa [Diagnostic.sort] using resolved, (List.forall₂_cons.mp placed).1⟩

end OperationLint
