import OperationLint.Proofs.AnalysisOutcomes
import OperationLint.Proofs.Documents
import OperationLint.Proofs.NumberTexts
import OperationLint.Proofs.ReportListings

/-!
# What reports count

Each format counts in its own way: a summary by severity, levels of results, attributes of a suite,
numbers in headings. All of them are the true numbers of diagnostics.

## Main results

- `reports_agree`: the reports of some diagnostics list one and the same sequence, text reports by
  severity, and what they count is what there is.

## Proof strategy

Counts are taken of the sorted list and claimed of the given one, which is a permutation of it. In
a document for viewers nothing is counted, so the levels are counted there from what the results
tell; in a suite the elements are counted from the tags that are written. With plain rule ids these
are the tags that a scanner finds in the text of the report, by `scan_render_of_plain`.
-/

namespace OperationLint

/-- How many diagnostics have a severity. -/
def Diagnostic.tally (severity : Severity) (diagnostics : List Diagnostic) : Nat :=
  diagnostics.countP fun diagnostic => diagnostic.severity = severity

namespace Diagnostic

theorem count_eq_tally (severity : Severity) (diagnostics : List Diagnostic) :
    count severity diagnostics = tally severity diagnostics :=
  List.countP_eq_length_filter.symm

theorem length_sort (diagnostics : List Diagnostic) :
    (sort diagnostics).length = diagnostics.length :=
  (stableSort_sort diagnostics).perm.length_eq

theorem tally_sort (severity : Severity) (diagnostics : List Diagnostic) :
    tally severity (sort diagnostics) = tally severity diagnostics :=
  (stableSort_sort diagnostics).perm.countP_eq _

theorem count_sort (severity : Severity) (diagnostics : List Diagnostic) :
    count severity (sort diagnostics) = tally severity diagnostics := by
  rw [count_eq_tally, tally_sort]

theorem length_eq_tallies (diagnostics : List Diagnostic) :
    diagnostics.length = tally .error diagnostics + tally .warning diagnostics
      + tally .info diagnostics := by
  simp only [← count_eq_tally, count_total]

end Diagnostic

/-- Counts are exact as far as doubles are. -/
theorem Json.ofNat_eq_integer {n : Nat} (exact : n ≤ 2 ^ 53) :
    Json.ofNat n = .number (.integer n) :=
  congrArg Json.number (Number.ofInt_eq_integer exact)

/-! ### JSON documents -/

namespace DocumentReport

/-- The summary of a document counts diagnostics, in total and by severity. The numbers are doubles,
and exact for every list that doubles can count. -/
structure Counts (diagnostics : List Diagnostic) (document : Json) : Prop where
  total : document.get? [.key "summary", .key "total"] = some (.ofNat diagnostics.length)
  errors : document.get? [.key "summary", .key "errors"] =
    some (.ofNat (Diagnostic.tally .error diagnostics))
  warnings : document.get? [.key "summary", .key "warnings"] =
    some (.ofNat (Diagnostic.tally .warning diagnostics))
  info : document.get? [.key "summary", .key "info"] =
    some (.ofNat (Diagnostic.tally .info diagnostics))
  sum : diagnostics.length = Diagnostic.tally .error diagnostics
    + Diagnostic.tally .warning diagnostics + Diagnostic.tally .info diagnostics
  exact : diagnostics.length ≤ 2 ^ 53 → ∀ n ≤ diagnostics.length,
    Json.ofNat n = .number (.integer n)

theorem counts_document (diagnostics : List Diagnostic) :
    Counts diagnostics (document (Diagnostic.sort diagnostics)) where
  total := by
    rw [← Diagnostic.length_sort]
    rfl
  errors := by
    rw [← Diagnostic.count_sort]
    rfl
  warnings := by
    rw [← Diagnostic.count_sort]
    rfl
  info := by
    rw [← Diagnostic.count_sort]
    rfl
  sum := Diagnostic.length_eq_tallies diagnostics
  exact := by
    intro few n counted
    exact Json.ofNat_eq_integer (counted.trans few)

end DocumentReport

/-! ### Documents for viewers -/

namespace SarifReport

/-- Results count diagnostics by their levels. -/
structure LevelCounts (diagnostics : List Diagnostic) (results : List Json) : Prop where
  total : results.length = diagnostics.length
  errors : results.countP (fun result => result.text? "level" = some "error") =
    Diagnostic.tally .error diagnostics
  warnings : results.countP (fun result => result.text? "level" = some "warning") =
    Diagnostic.tally .warning diagnostics
  notes : results.countP (fun result => result.text? "level" = some "note") =
    Diagnostic.tally .info diagnostics

/-- The results of a document count diagnostics. -/
def Counts (diagnostics : List Diagnostic) (document : Json) : Prop :=
  ∃ results, document.get? resultsPath = some (.array results) ∧ LevelCounts diagnostics results

theorem level_inj {a b : Severity} : level a = level b ↔ a = b := by
  cases a <;> cases b <;> decide

/-- Results have the level of a severity as often as the diagnostics that they tell have it. -/
theorem countP_level {listed : List Diagnostic} {results : List Json}
    (told : List.Forall₂ Tells listed results) (severity : Severity) :
    results.countP (fun result => result.text? "level" = some (level severity)) =
      Diagnostic.tally severity listed := by
  -- The levels are those of the severities, one by one.
  have levels : results.map (·.text? "level") =
      listed.map fun diagnostic => some (level diagnostic.severity) := by
    refine (map_eq_map_of_forall₂ told ?_).symm
    intro diagnostic result tells
    have held : result.member? "level" = some (.string (level diagnostic.severity)) := by
      simpa [Json.get?, Json.member?] using tells.level
    rw [Json.text?, held]
  calc results.countP (fun result => result.text? "level" = some (level severity))
      = (results.map (·.text? "level")).countP (· = some (level severity)) := by
        rw [List.countP_map]
        rfl
    _ = listed.countP fun diagnostic => level diagnostic.severity = level severity := by
        rw [levels, List.countP_map]
        simp [Function.comp_def]
    _ = Diagnostic.tally severity listed := by
        simp only [level_inj, Diagnostic.tally]

theorem counts_document (descriptors : List Descriptor) (diagnostics : List Diagnostic) :
    Counts diagnostics (document descriptors (Diagnostic.sort diagnostics)) := by
  -- Nothing is counted in the document, but each result tells its diagnostic.
  obtain ⟨results, held, told⟩ := lists_document descriptors (Diagnostic.sort diagnostics)
  have levels : ∀ severity, results.countP
      (fun result => result.text? "level" = some (level severity)) =
        Diagnostic.tally severity diagnostics := by
    intro severity
    rw [countP_level told, Diagnostic.tally_sort]
  refine ⟨results, held, ?_, levels .error, levels .warning, levels .info⟩
  rw [← told.length_eq, Diagnostic.length_sort]

end SarifReport

/-! ### Test suites -/

namespace Markup.Element

theorem countNamed_single (tag : Tag) (name : String) :
    (single tag).countNamed name = if tag.name = name then 1 else 0 := by
  simp [countNamed, tokens, Token.tag?, List.countP_cons]

theorem countP_tokensOfAll (elements : List Element) (name : String) :
    ((tokensOfAll elements).filterMap Token.tag?).countP (fun tag => tag.name = name) =
      (elements.map (countNamed · name)).sum := by
  induction elements with
  | nil => rfl
  | cons element more ih =>
    rw [tokensOfAll, List.filterMap_append, List.countP_append, ih]
    rfl

theorem countNamed_nested (tag : Tag) (children : List Element) (name : String) :
    (nested tag children).countNamed name =
      (if tag.name = name then 1 else 0) + (children.map (countNamed · name)).sum := by
  rw [← countP_tokensOfAll]
  simp [countNamed, tokens, Token.tag?, List.countP_cons, Nat.add_comm]

end Markup.Element

namespace TestSuiteReport

open Markup

/-- The attributes of a suite count its test cases and the outcomes in them, and these are as many
as there are diagnostics. -/
structure Counts (diagnostics : List Diagnostic) (suite : Element) : Prop where
  tests : suite.tag.attribute? "tests" = some (toString suite.children.length)
  failures : suite.tag.attribute? "failures" = some (toString (suite.countNamed "failure"))
  skipped : suite.tag.attribute? "skipped" = some (toString (suite.countNamed "skipped"))
  length_children : suite.children.length = diagnostics.length
  countNamed_failure : suite.countNamed "failure" = Diagnostic.tally .error diagnostics
  countNamed_skipped : suite.countNamed "skipped" = Diagnostic.tally .warning diagnostics

/-- The name of the element that a severity calls for. -/
def outcomeName? : Severity → Option String
  | .error => some "failure"
  | .warning => some "skipped"
  | .info => none

theorem outcomeName?_failure_iff (severity : Severity) :
    outcomeName? severity = some "failure" ↔ severity = .error := by
  cases severity <;> decide

theorem outcomeName?_skipped_iff (severity : Severity) :
    outcomeName? severity = some "skipped" ↔ severity = .warning := by
  cases severity <;> decide

theorem countNamed_caseElement {name : String} (notCase : "testcase" ≠ name)
    (diagnostic : Diagnostic) :
    (caseElement escape diagnostic).countNamed name =
      if outcomeName? diagnostic.severity = some name then 1 else 0 := by
  have other : (caseTag escape diagnostic).name ≠ name := notCase
  rw [caseElement, Element.countNamed_nested, if_neg other]
  -- What is left to count is the outcome.
  cases severity : diagnostic.severity <;>
    simp [outcomeElements, outcomeName?, severity, messageTag, Element.countNamed_single]

/-- Elements that one severity calls for are as many as the diagnostics of it. -/
theorem countNamed_suiteElement {name : String} {severity : Severity}
    (notSuite : "testsuite" ≠ name) (notCase : "testcase" ≠ name)
    (calls : ∀ other, outcomeName? other = some name ↔ other = severity)
    (listed : List Diagnostic) :
    (suiteElement escape listed).countNamed name = Diagnostic.tally severity listed := by
  have other : (suiteTag listed).name ≠ name := notSuite
  rw [suiteElement, Element.countNamed_nested, if_neg other, Nat.zero_add, List.map_map]
  -- Each test case adds one where its diagnostic has the severity, as the tally does.
  clear other
  induction listed with
  | nil => rfl
  | cons diagnostic more ih =>
    rw [List.map_cons, List.sum_cons, ih, Function.comp_apply, countNamed_caseElement notCase,
      Diagnostic.tally, Diagnostic.tally, List.countP_cons, Nat.add_comm]
    simp only [calls, decide_eq_true_eq]

theorem counts_suite (diagnostics : List Diagnostic) :
    Counts diagnostics (suiteElement escape (Diagnostic.sort diagnostics)) := by
  -- The attributes are counts of diagnostics, so the elements are counted first.
  have failures : (suiteElement escape (Diagnostic.sort diagnostics)).countNamed "failure" =
      Diagnostic.tally .error diagnostics := by
    rw [countNamed_suiteElement (by decide) (by decide) outcomeName?_failure_iff,
      Diagnostic.tally_sort]
  have skipped : (suiteElement escape (Diagnostic.sort diagnostics)).countNamed "skipped" =
      Diagnostic.tally .warning diagnostics := by
    rw [countNamed_suiteElement (by decide) (by decide) outcomeName?_skipped_iff,
      Diagnostic.tally_sort]
  have cases : (suiteElement escape (Diagnostic.sort diagnostics)).children.length =
      (Diagnostic.sort diagnostics).length := List.length_map _
  refine ⟨?_, ?_, ?_, cases.trans (Diagnostic.length_sort diagnostics), failures, skipped⟩
  · rw [cases]
    rfl
  · rw [failures, ← Diagnostic.count_sort]
    rfl
  · rw [skipped, ← Diagnostic.count_sort]
    rfl

end TestSuiteReport

/-! ### Pages of text -/

namespace TextReport

/-- The title and the headings of a page count diagnostics. -/
structure Page.Counts (diagnostics : List Diagnostic) (page : Page) : Prop where
  total : page.total = diagnostics.length
  shown : ∀ group ∈ page.groups, group.count = group.members.length
  count : ∀ group ∈ page.groups, group.count = Diagnostic.tally group.severity diagnostics

theorem counts_pageOf (diagnostics : List Diagnostic) :
    (pageOf (Diagnostic.sort diagnostics)).Counts diagnostics where
  total := Diagnostic.length_sort diagnostics
  shown := by
    intro group inside
    obtain ⟨⟨severity, _, rfl⟩, _⟩ := mem_groupsOf.mp inside
    rfl
  count := by
    intro group inside
    obtain ⟨⟨severity, _, rfl⟩, _⟩ := mem_groupsOf.mp inside
    rw [← Diagnostic.count_sort]
    rfl

end TextReport

/-! ### All formats -/

/-- The four reports of some diagnostics enumerate their stable sort, the text report by severity,
and count them truly. With plain rule ids the tags that are counted in a suite are those that its
text is scanned as. -/
theorem reports_agree (colored : Bool) (descriptors : List Descriptor)
    (diagnostics : List Diagnostic) :
    ∃ listed, StableSort Diagnostic.compare diagnostics listed ∧
      (∃ document : Json, report colored descriptors .json diagnostics = document.indented ∧
        DocumentReport.Lists listed document ∧ DocumentReport.Counts diagnostics document) ∧
      (∃ document : Json, report colored descriptors .sarif diagnostics = document.indented ∧
        SarifReport.Lists listed document ∧ SarifReport.Counts diagnostics document) ∧
      (∃ suite, report colored descriptors .junit diagnostics = TestSuiteReport.suiteText suite ∧
        TestSuiteReport.Lists listed suite ∧ TestSuiteReport.Counts diagnostics suite ∧
        ((∀ diagnostic ∈ diagnostics, TestSuiteReport.IsPlain diagnostic.ruleId) →
          Markup.scan .between (report colored descriptors .junit diagnostics).toList =
            some suite.tokens)) ∧
      (diagnostics ≠ [] → ∃ page : TextReport.Page,
        report colored descriptors .text diagnostics = page.text colored descriptors ∧
        TextReport.Presents colored descriptors listed page.groups ∧ page.Counts diagnostics) := by
  refine ⟨Diagnostic.sort diagnostics, Diagnostic.stableSort_sort diagnostics, ?_, ?_, ?_, ?_⟩
  · exact ⟨_, rfl, DocumentReport.lists_document _, DocumentReport.counts_document diagnostics⟩
  · exact ⟨_, rfl, SarifReport.lists_document descriptors _,
      SarifReport.counts_document descriptors diagnostics⟩
  · refine ⟨_, TestSuiteReport.render_eq_suiteText _, TestSuiteReport.lists_suite _,
      TestSuiteReport.counts_suite diagnostics, ?_⟩
    intro plain
    exact TestSuiteReport.scan_render_of_plain
      ((TestSuiteReport.forall_plain_sort_iff diagnostics).mpr plain)
  · -- Sorting keeps the length, so there is something to present.
    intro reported
    have sorted : Diagnostic.sort diagnostics ≠ [] := by
      intro none
      have length := Diagnostic.length_sort diagnostics
      rw [none] at length
      exact reported (List.length_eq_zero_iff.mp length.symm)
    exact ⟨_, TextReport.render_eq_page sorted colored descriptors,
      TextReport.presents_groupsOf colored descriptors _, TextReport.counts_pageOf diagnostics⟩

/-- Two errors, one of them with markup in its message: the text has the tags of two failures. -/
theorem reports_agree_markup :
    ∃ tokens, Markup.scan .between
        (report false [] .junit [errorAt 2 "<failure/>", errorAt 1 "y"]).toList = some tokens ∧
      (tokens.filterMap Markup.Token.tag?).countP (·.name = "failure") = 2 := by
  obtain ⟨_, _, _, _, ⟨suite, _, _, counts, scanned⟩, _⟩ :=
    reports_agree false [] [errorAt 2 "<failure/>", errorAt 1 "y"]
  have plain : TestSuiteReport.IsPlain "R1" := by simp [TestSuiteReport.IsPlain]
  refine ⟨suite.tokens, scanned ?_, counts.countNamed_failure⟩
  exact List.forall_mem_cons.mpr ⟨plain, List.forall_mem_singleton.mpr plain⟩

end OperationLint
