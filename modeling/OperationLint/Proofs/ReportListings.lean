import OperationLint.Proofs.StableOrder
import OperationLint.Proofs.TestSuites

/-!
# What reports list

The four formats are written from different documents: two kinds of JSON values, a markup element
and a page of text. For each of them this module says what it means that it lists diagnostics, and
shows that reports list the stable sort of what they are given.

## Main results

- `report_listing`: a report of each format lists the stable sort of the diagnostics, and the order
  they come in matters only among those that tie.

## Proof strategy

- `DocumentReport.lists_document`, `SarifReport.lists_document`, `TestSuiteReport.lists_suite`:
  entries are told one by one.
- `TextReport.stableSort_bySeverity`: groups by severity are a stable sort of their own. Ties by severity
  are what a group collects, so the partition keeps them.
- The order of the input then only enters through `StableSort.unique`.
-/

namespace OperationLint

/-! ### JSON documents -/

namespace DocumentReport

/-- An entry tells a diagnostic: all its parts by name. -/
structure Tells (diagnostic : Diagnostic) (entry : Json) : Prop where
  ruleId : entry.get? [.key "ruleId"] = some (.string diagnostic.ruleId)
  severity : entry.get? [.key "severity"] = some (.string diagnostic.severity.name)
  category : entry.get? [.key "category"] = some (.string diagnostic.category.name)
  message : entry.get? [.key "message"] = some (.string diagnostic.message)
  location : entry.get? [.key "location"] = some diagnostic.location.toJson
  additionalLocations : entry.get? [.key "additionalLocations"] =
    some (.array (diagnostic.additionalLocations.map Location.toJson))

/-- A document lists diagnostics: it has one entry for each, in order. -/
def Lists (listed : List Diagnostic) (document : Json) : Prop :=
  ∃ entries, document.get? [.key "diagnostics"] = some (.array entries) ∧
    List.Forall₂ Tells listed entries

theorem tells_toJson (diagnostic : Diagnostic) : Tells diagnostic diagnostic.toJson := by
  constructor <;> rfl

theorem lists_document (listed : List Diagnostic) : Lists listed (document listed) :=
  ⟨listed.map Diagnostic.toJson, rfl, forall₂_map_self tells_toJson listed⟩

end DocumentReport

/-! ### Documents for viewers -/

namespace SarifReport

/-- A result tells a diagnostic: its rule, level and message, and where it was found. -/
structure Tells (diagnostic : Diagnostic) (result : Json) : Prop where
  ruleId : result.get? [.key "ruleId"] = some (.string diagnostic.ruleId)
  level : result.get? [.key "level"] = some (.string (level diagnostic.severity))
  message : result.get? [.key "message", .key "text"] = some (.string diagnostic.message)
  locations : result.get? [.key "locations"] =
    some (.array ((diagnostic.location :: diagnostic.additionalLocations).map place))

/-- The results of the only run of a document. -/
def resultsPath : Json.Path := [.key "runs", .index 0, .key "results"]

/-- A document lists diagnostics: its run has one result for each, in order. -/
def Lists (listed : List Diagnostic) (document : Json) : Prop :=
  ∃ results, document.get? resultsPath = some (.array results) ∧
    List.Forall₂ Tells listed results

theorem tells_result (diagnostic : Diagnostic) : Tells diagnostic (result diagnostic) := by
  constructor <;> rfl

theorem lists_document (descriptors : List Descriptor) (listed : List Diagnostic) :
    Lists listed (document descriptors listed) :=
  ⟨listed.map result, rfl, forall₂_map_self tells_result listed⟩

end SarifReport

/-! ### Test suites -/

namespace TestSuiteReport

open Markup

/-- The text of a suite. -/
def suiteText (suite : Element) : String := String.ofList (declaration.toList ++ suite.write 0 [])

/-- The outcomes that a severity calls for, by name and message. -/
def outcomes (diagnostic : Diagnostic) : List (String × Option String) :=
  match diagnostic.severity with
  | .error => [("failure", some (escape diagnostic.message))]
  | .warning => [("skipped", some (escape diagnostic.message))]
  | .info => []

/-- A test case tells a diagnostic: its rule, its location and what came of it. -/
structure Tells (diagnostic : Diagnostic) (testCase : Element) : Prop where
  name : testCase.tag.name = "testcase"
  ruleId : testCase.tag.attribute? "name" = some diagnostic.ruleId
  location : testCase.tag.attribute? "classname" = some (escape diagnostic.location.text)
  outcomes : testCase.children.map (fun outcome => (outcome.tag.name,
    outcome.tag.attribute? "message")) = outcomes diagnostic

/-- A suite lists diagnostics: it has one test case for each, in order. -/
def Lists (listed : List Diagnostic) (suite : Element) : Prop :=
  List.Forall₂ Tells listed suite.children

theorem tells_caseElement (diagnostic : Diagnostic) :
    Tells diagnostic (caseElement escape diagnostic) where
  name := rfl
  ruleId := rfl
  location := rfl
  outcomes := by
    cases severity : diagnostic.severity <;>
      simp only [caseElement, Element.children, outcomeElements, outcomes, severity] <;> rfl

theorem lists_suite (listed : List Diagnostic) : Lists listed (suiteElement escape listed) :=
  forall₂_map_self tells_caseElement listed

theorem render_eq_suiteText (listed : List Diagnostic) :
    render listed = suiteText (suiteElement escape listed) := by
  rw [suiteText, ← toList_render, String.ofList_toList]

end TestSuiteReport

/-! ### Pages of text -/

/-- How grave a severity is, gravest first. -/
def Severity.rank : Severity → Nat
  | .error => 0
  | .warning => 1
  | .info => 2

theorem Severity.rank_inj {a b : Severity} : a.rank = b.rank ↔ a = b := by
  cases a <;> cases b <;> decide

/-- Compares by severity alone. -/
def Diagnostic.bySeverity (a b : Diagnostic) : Ordering :=
  Ord.compare a.severity.rank b.severity.rank

instance Diagnostic.transCmp_bySeverity : Std.TransCmp Diagnostic.bySeverity :=
  transCmp_on Ord.compare fun diagnostic : Diagnostic => diagnostic.severity.rank

theorem Diagnostic.mem_ofSeverity {diagnostic : Diagnostic} {severity : Severity}
    {list : List Diagnostic} :
    diagnostic ∈ ofSeverity severity list ↔ diagnostic ∈ list ∧ diagnostic.severity = severity := by
  simp [ofSeverity]

theorem Diagnostic.ofSeverity_ofSeverity (severity other : Severity) (list : List Diagnostic) :
    ofSeverity severity (ofSeverity other list) =
      if severity = other then ofSeverity other list else [] := by
  rw [ofSeverity, ofSeverity, List.filter_filter]
  -- No diagnostic has two severities.
  split
  · next same => simp [same]
  · next apart =>
    rw [List.filter_eq_nil_iff]
    rintro diagnostic - both
    simp only [Bool.and_eq_true, decide_eq_true_eq] at both
    exact apart (both.1.symm.trans both.2)

theorem Diagnostic.ties_bySeverity (entry : Diagnostic) (list : List Diagnostic) :
    ties bySeverity entry list = ofSeverity entry.severity list := by
  apply List.filter_congr
  intro other _
  simp only [bySeverity, Nat.compare_eq_eq, Severity.rank_inj, eq_comm (a := other.severity)]

namespace TextReport

/-- A group of a page: a severity, the number in its heading and the diagnostics under it. -/
structure Group where
  severity : Severity
  count : Nat
  members : List Diagnostic

/-- A page: the number in its title and its groups. -/
structure Page where
  total : Nat
  groups : List Group

section

variable (colored : Bool) (descriptors : List Descriptor)

def Group.text (group : Group) : String :=
  (color group.severity ++ Style.bold).paint colored
      ("\n" ++ heading group.severity ++ " (" ++ toString group.count ++ "):\n")
    ++ String.join (group.members.map (item colored descriptors))

def Page.text (page : Page) : String :=
  Style.bold.paint colored ("\n" ++ toString page.total ++ " diagnostic(s) reported:\n")
    ++ String.join (page.groups.map (Group.text colored descriptors))

/-- The lines for all locations of a diagnostic. -/
def locationLines (diagnostic : Diagnostic) : String :=
  locationLine colored "Location" diagnostic.location
    ++ String.join (diagnostic.additionalLocations.map (locationLine colored "Also at"))

/-- A text tells a diagnostic: its rule and message on a line, and its locations below. -/
def Tells (diagnostic : Diagnostic) (text : String) : Prop :=
  ∃ before after, text = before ++ Style.cyan.paint colored diagnostic.ruleId ++ " "
    ++ Style.bold.paint colored diagnostic.message ++ "\n" ++ locationLines colored diagnostic
    ++ after

/-- Groups present diagnostics: each in the group of its severity, gravest first, and in order
within it. -/
structure Presents (listed : List Diagnostic) (groups : List Group) : Prop where
  severities : (groups.map Group.severity).Sublist Severity.all
  nonempty : ∀ group ∈ groups, group.members ≠ []
  members : ∀ group ∈ groups, ∀ member ∈ group.members, member.severity = group.severity ∧
    Tells colored member (item colored descriptors member)
  partition : StableSort Diagnostic.bySeverity listed (groups.flatMap Group.members)

/-- A page lists diagnostics; where there are none the text says so. -/
def Lists (listed : List Diagnostic) (text : String) : Prop :=
  (listed = [] ∧ text = Style.green.paint colored "No diagnostics reported.\n") ∨
    (listed ≠ [] ∧ ∃ page : Page, text = page.text colored descriptors ∧
      Presents colored descriptors listed page.groups)

end

/-- The group of a severity. -/
def groupOf (listed : List Diagnostic) (severity : Severity) : Group :=
  ⟨severity, Diagnostic.count severity listed, Diagnostic.ofSeverity severity listed⟩

/-- The groups that some severities have. -/
def groupsOf (listed : List Diagnostic) (severities : List Severity) : List Group :=
  (severities.map (groupOf listed)).filter fun group => group.members ≠ []

def pageOf (listed : List Diagnostic) : Page := ⟨listed.length, groupsOf listed Severity.all⟩

theorem mem_groupsOf {listed : List Diagnostic} {severities : List Severity} {group : Group} :
    group ∈ groupsOf listed severities ↔
      (∃ severity ∈ severities, groupOf listed severity = group) ∧ group.members ≠ [] := by
  simp [groupsOf]

theorem severities_groupsOf (listed : List Diagnostic) (severities : List Severity) :
    ((groupsOf listed severities).map Group.severity).Sublist severities := by
  have sublist : ((groupsOf listed severities).map Group.severity).Sublist
      ((severities.map (groupOf listed)).map Group.severity) := List.filter_sublist.map _
  -- A group has the severity that it was made for.
  rwa [List.map_map, show Group.severity ∘ groupOf listed = id from rfl, List.map_id] at sublist

theorem join_group (colored : Bool) (descriptors : List Descriptor) (listed : List Diagnostic)
    (severities : List Severity) :
    String.join (severities.map (group colored descriptors listed)) =
      String.join ((groupsOf listed severities).map (Group.text colored descriptors)) := by
  induction severities with
  | nil => rfl
  | cons severity more ih =>
    rw [List.map_cons, String.join_cons, ih]
    simp only [groupsOf, groupOf, group, List.map_cons, List.filter_cons]
    -- A severity without members has neither a text nor a group.
    cases members : Diagnostic.ofSeverity severity listed with
    | nil => simp
    | cons first rest => simp [Group.text, Diagnostic.count, members]

theorem flatMap_groupsOf (listed : List Diagnostic) (severities : List Severity) :
    (groupsOf listed severities).flatMap Group.members =
      severities.flatMap (Diagnostic.ofSeverity · listed) := by
  induction severities with
  | nil => rfl
  | cons severity more ih =>
    rw [List.flatMap_cons, ← ih]
    simp only [groupsOf, groupOf, List.map_cons, List.filter_cons]
    -- A group that is left out has no members to miss.
    cases members : Diagnostic.ofSeverity severity listed <;> simp

theorem tells_item (colored : Bool) (descriptors : List Descriptor) (diagnostic : Diagnostic) :
    Tells colored diagnostic (item colored descriptors diagnostic) := by
  -- A bullet comes before it, and help behind it, if there is any.
  cases found : help? descriptors diagnostic.ruleId with
  | none =>
    refine ⟨"\n" ++ (color diagnostic.severity).paint colored "●" ++ " ", "", ?_⟩
    simp only [item, found, locationLines, String.append_assoc]
  | some page =>
    refine ⟨"\n" ++ (color diagnostic.severity).paint colored "●" ++ " ",
      "  Help: " ++ Style.gray.paint colored page ++ "\n", ?_⟩
    simp only [item, found, locationLines, String.append_assoc]

/-- Groups by severity sort stably: a group holds exactly what ties, in order. -/
theorem stableSort_bySeverity (listed : List Diagnostic) :
    StableSort Diagnostic.bySeverity listed
      (Severity.all.flatMap (Diagnostic.ofSeverity · listed)) := by
  have keeps : KeepsTies Diagnostic.bySeverity listed
      (Severity.all.flatMap (Diagnostic.ofSeverity · listed)) := by
    intro entry
    -- What ties by severity is a group, and all other groups have nothing of it.
    rw [Diagnostic.ties_bySeverity, Diagnostic.ties_bySeverity, Diagnostic.ofSeverity,
      List.filter_flatMap]
    change Severity.all.flatMap
      (fun other => Diagnostic.ofSeverity entry.severity (Diagnostic.ofSeverity other listed)) = _
    simp only [Diagnostic.ofSeverity_ofSeverity]
    cases entry.severity <;> simp [Severity.all]
  refine ⟨keeps.perm, ?_, keeps⟩
  have below : ∀ graver milder : Severity, (Ord.compare graver.rank milder.rank).isLE →
      ∀ a ∈ Diagnostic.ofSeverity graver listed, ∀ b ∈ Diagnostic.ofSeverity milder listed,
        (Diagnostic.bySeverity a b).isLE := by
    intro graver milder ranked a aListed b bListed
    rwa [Diagnostic.bySeverity, (Diagnostic.mem_ofSeverity.mp aListed).2,
      (Diagnostic.mem_ofSeverity.mp bListed).2]
  -- Within a group all ranks are equal; from group to group they grow.
  have grow : Severity.all.Pairwise fun graver milder =>
      (Ord.compare graver.rank milder.rank).isLE := by decide
  rw [List.pairwise_flatMap]
  constructor
  · intro severity _
    exact List.pairwise_of_forall_mem_list (below severity severity Std.ReflCmp.isLE_rfl)
  · exact grow.imp (below _ _)

theorem presents_groupsOf (colored : Bool) (descriptors : List Descriptor)
    (listed : List Diagnostic) :
    Presents colored descriptors listed (groupsOf listed Severity.all) where
  severities := severities_groupsOf listed Severity.all
  nonempty := fun _ inside => (mem_groupsOf.mp inside).2
  members := by
    intro group inside member listed
    obtain ⟨⟨severity, _, rfl⟩, _⟩ := mem_groupsOf.mp inside
    exact ⟨(Diagnostic.mem_ofSeverity.mp listed).2, tells_item colored descriptors member⟩
  partition := by
    rw [flatMap_groupsOf]
    exact stableSort_bySeverity listed

theorem render_eq_page {listed : List Diagnostic} (reported : listed ≠ []) (colored : Bool)
    (descriptors : List Descriptor) :
    render colored descriptors listed = (pageOf listed).text colored descriptors := by
  simp only [render, List.isEmpty_iff, reported, if_false, join_group]
  rfl

theorem lists_render (colored : Bool) (descriptors : List Descriptor) (listed : List Diagnostic) :
    Lists colored descriptors listed (render colored descriptors listed) := by
  by_cases reported : listed = []
  · subst reported
    exact .inl ⟨rfl, rfl⟩
  · exact .inr ⟨reported, pageOf listed, render_eq_page reported colored descriptors,
      presents_groupsOf colored descriptors listed⟩

end TextReport

/-! ### All formats -/

/-- A text of a format lists diagnostics. -/
def ReportFormat.Lists (colored : Bool) (descriptors : List Descriptor) (format : ReportFormat)
    (listed : List Diagnostic) (text : String) : Prop :=
  match format with
  | .text => TextReport.Lists colored descriptors listed text
  | .json => ∃ document : Json, text = document.indented ∧ DocumentReport.Lists listed document
  | .junit => ∃ suite, text = TestSuiteReport.suiteText suite ∧ TestSuiteReport.Lists listed suite
  | .sarif => ∃ document : Json, text = document.indented ∧ SarifReport.Lists listed document

theorem lists_report (colored : Bool) (descriptors : List Descriptor) (format : ReportFormat)
    (diagnostics : List Diagnostic) :
    format.Lists colored descriptors (Diagnostic.sort diagnostics)
      (report colored descriptors format diagnostics) := by
  cases format with
  | text => exact TextReport.lists_render colored descriptors _
  | json => exact ⟨_, rfl, DocumentReport.lists_document _⟩
  | junit => exact ⟨_, TestSuiteReport.render_eq_suiteText _, TestSuiteReport.lists_suite _⟩
  | sarif => exact ⟨_, rfl, SarifReport.lists_document descriptors _⟩

/-- Every report lists the stable sort of its diagnostics, and does not change when they come in
another order that keeps ties as they were. -/
theorem report_listing (colored : Bool) (descriptors : List Descriptor) (format : ReportFormat)
    (diagnostics : List Diagnostic) :
    (∃ listed, StableSort Diagnostic.compare diagnostics listed ∧
      format.Lists colored descriptors listed
        (report colored descriptors format diagnostics)) ∧
      ∀ other, other.Perm diagnostics → KeepsTies Diagnostic.compare diagnostics other →
        report colored descriptors format other =
          report colored descriptors format diagnostics := by
  have sorted := Diagnostic.stableSort_sort diagnostics
  refine ⟨⟨_, sorted, lists_report colored descriptors format diagnostics⟩, ?_⟩
  intro other _ keeps
  -- Both lists are sorted stably, and their ties agree, so the sorts do.
  have same : Diagnostic.sort other = Diagnostic.sort diagnostics :=
    sorted.unique (Diagnostic.stableSort_sort other) keeps
  simp only [report, same]

/-- An error of a rule at a line. -/
def errorAt (line : Int) (message : String) : Diagnostic where
  ruleId := "R1"
  severity := .error
  category := .usage
  message := message
  location := ⟨"a.cs", .integer line, .integer 1, .integer line, .integer 2⟩
  additionalLocations := []

theorem compare_errorAt (line otherLine : Int) (message otherMessage : String) :
    Diagnostic.compare (errorAt line message) (errorAt otherLine otherMessage) =
      Number.compare (.integer line) (.integer otherLine) := by
  simp only [Diagnostic.compare, errorAt, Std.ReflCmp.compare_self, Ordering.then_eq, Ordering.eq_then]

/-- Two errors that tie stay in order while one from another line moves past the first of them. -/
theorem report_listing_moved :
    report false [] .text [errorAt 1 "x", errorAt 2 "y", errorAt 1 "z"] =
      report false [] .text [errorAt 2 "y", errorAt 1 "x", errorAt 1 "z"] := by
  have apart : Diagnostic.compare (errorAt 2 "y") (errorAt 1 "x") ≠ .eq := by
    rw [compare_errorAt]
    decide
  exact (report_listing false [] .text _).2 _ (.swap _ _ _) (KeepsTies.swap apart [] _)

end OperationLint
