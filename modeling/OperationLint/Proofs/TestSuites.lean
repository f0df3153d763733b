import OperationLint.Proofs.MarkupElements
import OperationLint.Report.Basic

/-!
# Test suites that can be read

A report as a test suite is an element with one test case for each diagnostic. Locations and
messages are escaped on the way into their attributes; rule ids are not.

## Main result

`report_decodes_iff`: the report can be taken apart again, and its attributes mean what was
reported, exactly when no rule id holds an angle bracket, a quote or an ampersand.

## Proof strategy

- `toList_render`: the report is a written element, so `scan_write` applies to it if its attributes
  hold no quotes.
- `caseElement_means`: with a plain rule id the attributes of a test case decode.
- `ruleId_plain`: the attribute of a rule id ends at the first quote, and no text means one that is
  longer than itself. So a rule id that is recovered has no quote in it and means itself.
- The rest is an induction over the diagnostics: a test case that is read properly leaves the text
  of the next ones.
-/

namespace OperationLint.TestSuiteReport

open Markup

/-! ### The suite as an element -/

/-- The tag of an outcome. -/
def messageTag (name message : String) : Tag := ⟨name, [("message", message)]⟩

/-- The outcome of a test case; `write` puts a text into an attribute. -/
def outcomeElements (write : String → String) (diagnostic : Diagnostic) : List Element :=
  match diagnostic.severity with
  | .error => [.single (messageTag "failure" (write diagnostic.message))]
  | .warning => [.single (messageTag "skipped" (write diagnostic.message))]
  | .info => []

def caseTag (write : String → String) (diagnostic : Diagnostic) : Tag :=
  ⟨"testcase", [("name", diagnostic.ruleId), ("classname", write diagnostic.location.text)]⟩

/-- The test case of a diagnostic. -/
def caseElement (write : String → String) (diagnostic : Diagnostic) : Element :=
  .nested (caseTag write diagnostic) (outcomeElements write diagnostic)

theorem tokens_caseElement (write : String → String) (diagnostic : Diagnostic) :
    (caseElement write diagnostic).tokens = .opening (caseTag write diagnostic) ::
      (Element.tokensOfAll (outcomeElements write diagnostic) ++ [.closing "testcase"]) := rfl

def suiteTag (listed : List Diagnostic) : Tag :=
  ⟨"testsuite", [("name", toolName), ("tests", toString listed.length),
    ("failures", toString (Diagnostic.count .error listed)), ("errors", "0"),
    ("skipped", toString (Diagnostic.count .warning listed))]⟩

/-- The suite of diagnostics in the order of a list. -/
def suiteElement (write : String → String) (listed : List Diagnostic) : Element :=
  .nested (suiteTag listed) (listed.map (caseElement write))

/-- What stands before the suite. -/
def declaration : String := "<?xml version=\"1.0\" encoding=\"UTF-8\"?>\n"

theorem toList_outcome (diagnostic : Diagnostic) (rest : List Char) :
    (outcome diagnostic).toList ++ rest =
      Element.writeAll 2 (outcomeElements escape diagnostic) rest := by
  cases severity : diagnostic.severity <;>
    simp [outcome, outcomeElements, messageTag, severity, Element.writeAll, Element.write,
      Tag.write, indent, writeAttributes]

theorem toList_testCase (diagnostic : Diagnostic) (rest : List Char) :
    (testCase diagnostic).toList ++ rest = (caseElement escape diagnostic).write 1 rest := by
  unfold testCase
  rw [caseElement, Element.write, ← toList_outcome]
  simp [caseTag, Tag.write, indent, writeAttributes]

theorem toList_testCases (listed : List Diagnostic) (rest : List Char) :
    (String.join (listed.map testCase)).toList ++ rest =
      Element.writeAll 1 (listed.map (caseElement escape)) rest := by
  induction listed with
  | nil => rfl
  | cons diagnostic more ih =>
    rw [List.map_cons, String.join_cons, String.toList_append, List.append_assoc, ih,
      toList_testCase, List.map_cons, Element.writeAll]

theorem toList_render (listed : List Diagnostic) :
    (render listed).toList = declaration.toList ++ (suiteElement escape listed).write 0 [] := by
  unfold render declaration
  rw [suiteElement, Element.write, Nat.zero_add, ← toList_testCases]
  simp [suiteTag, Tag.write, indent, writeAttributes]

/-! ### Attributes -/

/-- A rule id that stands for itself in an attribute. -/
def IsPlain (ruleId : String) : Prop := ∀ c ∈ ruleId.toList, c ≠ '<' ∧ c ≠ '"' ∧ c ≠ '&'

theorem decode?_ruleId_iff {ruleId : String} :
    decode? ruleId.toList = some ruleId.toList ↔ IsPlain ruleId := by
  rw [decode?_eq_self_iff]
  simp [IsPlain, isMark, and_assoc]

theorem decode?_toString (n : Nat) : decode? (toString n).toList = some (toString n).toList := by
  apply decode?_of_plain
  intro c listed
  rw [Nat.toString_eq_repr, Nat.toList_repr] at listed
  have digit := Nat.isDigit_of_mem_toDigits (by decide) (by decide) listed
  -- None of the three marks is a digit.
  have apart : ∀ mark : Char, mark.isDigit = false → c ≠ mark := by
    rintro mark notDigit rfl
    rw [digit] at notDigit
    cases notDigit
  simp [isMark, apart '<' rfl, apart '"' rfl, apart '&' rfl]

theorem suiteTag_means (listed : List Diagnostic) : (suiteTag listed).Means (suiteTag listed) where
  name := rfl
  attributes := by
    have tool : decode? toolName.toList = some toolName.toList :=
      decode?_of_plain (by simp [toolName, isMark])
    have none : decode? "0".toList = some "0".toList := decode?_of_plain (by simp [isMark])
    exact .cons ⟨rfl, tool⟩ (.cons ⟨rfl, decode?_toString _⟩ (.cons ⟨rfl, decode?_toString _⟩
      (.cons ⟨rfl, none⟩ (.cons ⟨rfl, decode?_toString _⟩ .nil))))

theorem caseTag_means {diagnostic : Diagnostic} (plain : IsPlain diagnostic.ruleId) :
    (caseTag escape diagnostic).Means (caseTag id diagnostic) where
  name := Eq.refl "testcase"
  attributes := .cons ⟨rfl, decode?_ruleId_iff.mpr plain⟩ (.cons ⟨rfl, decode?_escape _⟩ .nil)

theorem messageTag_means (name message : String) :
    (messageTag name (escape message)).Means (messageTag name message) where
  name := Eq.refl name
  attributes := .cons ⟨rfl, decode?_escape _⟩ .nil

theorem outcomeElements_means (diagnostic : Diagnostic) :
    List.Forall₂ Token.Means (Element.tokensOfAll (outcomeElements escape diagnostic))
      (Element.tokensOfAll (outcomeElements id diagnostic)) := by
  cases severity : diagnostic.severity with
  | error =>
    simp only [outcomeElements, severity]
    exact .cons (.single (messageTag_means "failure" diagnostic.message)) .nil
  | warning =>
    simp only [outcomeElements, severity]
    exact .cons (.single (messageTag_means "skipped" diagnostic.message)) .nil
  | info =>
    simp only [outcomeElements, severity]
    exact .nil

theorem caseElement_means {diagnostic : Diagnostic} (plain : IsPlain diagnostic.ruleId) :
    List.Forall₂ Token.Means (caseElement escape diagnostic).tokens
      (caseElement id diagnostic).tokens := by
  have outcome := outcomeElements_means diagnostic
  exact .cons (.opening (caseTag_means plain))
    (List.rel_append outcome (.cons (.closing "testcase") .nil))

theorem suiteElement_means {listed : List Diagnostic}
    (plain : ∀ diagnostic ∈ listed, IsPlain diagnostic.ruleId) :
    List.Forall₂ Token.Means (suiteElement escape listed).tokens
      (suiteElement id listed).tokens := by
  have cases : List.Forall₂ Token.Means
      (Element.tokensOfAll (listed.map (caseElement escape)))
      (Element.tokensOfAll (listed.map (caseElement id))) := by
    induction listed with
    | nil => exact .nil
    | cons diagnostic more ih =>
      obtain ⟨here, later⟩ := List.forall_mem_cons.mp plain
      exact List.rel_append (caseElement_means here) (ih later)
  exact .cons (.opening (suiteTag_means listed))
    (List.rel_append cases (.cons (.closing "testsuite") .nil))

/-! ### Legibility -/

theorem legible_messageTag {name : String} (isName : IsName name) (message : String) :
    (messageTag name (escape message)).Legible := by
  apply (messageTag_means name message).legible isName
  simp only [messageTag, List.forall_mem_singleton]
  decide

theorem legible_caseElement {diagnostic : Diagnostic} (plain : IsPlain diagnostic.ruleId) :
    (caseElement escape diagnostic).Legible := by
  have tag : (caseTag escape diagnostic).Legible := by
    apply (caseTag_means plain).legible
    · show IsName "testcase"
      decide
    · simp only [caseTag, List.forall_mem_cons]
      exact ⟨by decide, by decide, by simp⟩
  -- What is within is at most one outcome, with an escaped message.
  refine .nested tag ?_
  cases severity : diagnostic.severity with
  | error =>
    simp only [outcomeElements, severity, List.forall_mem_singleton]
    exact .single (legible_messageTag (by decide) _)
  | warning =>
    simp only [outcomeElements, severity, List.forall_mem_singleton]
    exact .single (legible_messageTag (by decide) _)
  | info => simp [outcomeElements, severity]

theorem legible_suiteTag (listed : List Diagnostic) : (suiteTag listed).Legible := by
  apply (suiteTag_means listed).legible
  · show IsName "testsuite"
    decide
  · simp only [suiteTag, List.forall_mem_cons]
    exact ⟨by decide, by decide, by decide, by decide, by decide, by simp⟩

theorem legible_suiteElement {listed : List Diagnostic}
    (plain : ∀ diagnostic ∈ listed, IsPlain diagnostic.ruleId) :
    (suiteElement escape listed).Legible := by
  refine .nested (legible_suiteTag listed) ?_
  intro child inside
  obtain ⟨diagnostic, member, rfl⟩ := List.mem_map.mp inside
  exact legible_caseElement (plain diagnostic member)

/-! ### Recovered rule ids -/

/-- A text in quotes is cut at its first quote. -/
theorem exists_unquoted (text after : List Char) :
    ∃ raw behind, text ++ '"' :: after = raw ++ '"' :: behind ∧ '"' ∉ raw ∧ raw <+: text := by
  by_cases quoted : '"' ∈ text
  · obtain ⟨raw, more, rfl, unquoted⟩ := List.eq_append_cons_of_mem quoted
    refine ⟨raw, more ++ '"' :: after, ?_, unquoted, List.prefix_append _ _⟩
    rw [List.append_assoc, List.cons_append]
  · exact ⟨text, after, rfl, quoted, List.prefix_rfl⟩

/-- A rule id that is recovered from its test case is plain. -/
theorem ruleId_plain {diagnostic : Diagnostic} {rest : List Char} {token : Token}
    {tokens : List Token}
    (scanned : scan .between ((caseElement escape diagnostic).write 1 rest) = some (token :: tokens))
    (means : token.Means (.opening (caseTag id diagnostic))) : IsPlain diagnostic.ruleId := by
  -- The scanner reaches the rule id, and ends its attribute at the first quote.
  rw [caseElement, Element.write, scan_indent, Tag.write, caseTag, writeAttributes,
    scan_name (show IsName "testcase" by decide) rfl, scan_attribute (by decide)] at scanned
  obtain ⟨raw, behind, split, unquoted, start⟩ := exists_unquoted diagnostic.ruleId.toList _
  rw [split, scan_value unquoted] at scanned
  obtain ⟨first, others, fuller, same, tagged, _, attributes⟩ := scan_extends rfl scanned
  obtain ⟨rfl, rfl⟩ := List.cons.inj same
  -- So the text before that quote means the whole rule id.
  have decoded : decode? raw = some diagnostic.ruleId.toList := by
    cases means with
    | @opening given _ means =>
      cases tagged
      obtain ⟨later, more⟩ := attributes
      have pairs := means.attributes
      rw [← more] at pairs
      cases pairs with
      | cons pair _ => simpa using pair.2
  have whole : raw = diagnostic.ruleId.toList :=
    start.eq_of_length_le (means_of_decode? decoded).length.1
  rw [whole] at decoded
  exact decode?_ruleId_iff.mp decoded

/-- Rule ids that are recovered from a run of test cases are plain. -/
theorem forall_plain_of_scanned {listed : List Diagnostic} {rest : List Char} {tokens : List Token}
    {more : List Token}
    (scanned : scan .between (Element.writeAll 1 (listed.map (caseElement escape)) rest) =
      some tokens)
    (means : List.Forall₂ Token.Means tokens
      (Element.tokensOfAll (listed.map (caseElement id)) ++ more)) :
    ∀ diagnostic ∈ listed, IsPlain diagnostic.ruleId := by
  -- The induction is over the diagnostics; the tags that are left vary with them.
  induction listed generalizing tokens with
  | nil => exact List.forall_mem_nil _
  | cons diagnostic others ih =>
    rw [List.map_cons, Element.writeAll] at scanned
    rw [List.map_cons, Element.tokensOfAll, List.append_assoc] at means
    -- The first tag is that of the first test case, so its rule id was recovered.
    have here : IsPlain diagnostic.ruleId := by
      rw [tokens_caseElement, List.cons_append] at means
      obtain ⟨first, later, firstMeans, _, split⟩ := List.forall₂_cons_right_iff.mp means
      rw [split] at scanned
      exact ruleId_plain scanned firstMeans
    -- With a plain rule id the test case is scanned as it should, and the others come behind it.
    rw [scan_write (legible_caseElement here)] at scanned
    obtain ⟨later, behind, rfl⟩ := Option.map_eq_some_iff.mp scanned
    have sameLength := (caseElement_means here).length_eq
    have laterMeans := List.forall₂_drop (caseElement escape diagnostic).tokens.length means
    rw [List.drop_left, sameLength, List.drop_left] at laterMeans
    exact List.forall_mem_cons.mpr ⟨here, ih behind laterMeans⟩

/-! ### Whole reports -/

/-- A text is a test suite of diagnostics: taken apart it is the tags of the suite, with raw texts
that are fit for attributes and mean the rule ids, locations and messages. -/
def Decodes (listed : List Diagnostic) (text : String) : Prop :=
  ∃ tokens, scan .between text.toList = some tokens ∧
    (∀ token ∈ tokens, ∀ value ∈ token.values, IsAttributeText value.toList) ∧
    List.Forall₂ Token.Means tokens (suiteElement id listed).tokens

theorem scan_render (listed : List Diagnostic) :
    scan .between (render listed).toList =
      scan .between ((suiteElement escape listed).write 0 []) := by
  rw [toList_render]
  -- The declaration is passed over one character after the other.
  rfl

/-- With plain rule ids a report has the tags of the suite, and no others. -/
theorem scan_render_of_plain {listed : List Diagnostic}
    (plain : ∀ diagnostic ∈ listed, IsPlain diagnostic.ruleId) :
    scan .between (render listed).toList = some (suiteElement escape listed).tokens := by
  rw [scan_render, scan_write (legible_suiteElement plain)]
  simp [scan]

theorem decodes_of_plain {listed : List Diagnostic}
    (plain : ∀ diagnostic ∈ listed, IsPlain diagnostic.ruleId) :
    Decodes listed (render listed) := by
  have means := suiteElement_means plain
  refine ⟨(suiteElement escape listed).tokens, scan_render_of_plain plain, ?_, means⟩
  intro token inside
  obtain ⟨meant, _, tokenMeans⟩ := exists_mem_of_forall₂ means token inside
  exact tokenMeans.isAttributeText

theorem forall_plain_sort_iff (diagnostics : List Diagnostic) :
    (∀ diagnostic ∈ Diagnostic.sort diagnostics, IsPlain diagnostic.ruleId) ↔
      ∀ diagnostic ∈ diagnostics, IsPlain diagnostic.ruleId := by
  simp only [Diagnostic.sort, List.mem_mergeSort]

theorem plain_of_decodes {listed : List Diagnostic} (decodes : Decodes listed (render listed)) :
    ∀ diagnostic ∈ listed, IsPlain diagnostic.ruleId := by
  obtain ⟨tokens, scanned, _, means⟩ := decodes
  -- The suite has a legible tag whatever it holds, so the scanner gets to the test cases.
  rw [scan_render, suiteElement, Element.write, scan_indent,
    scan_tag (legible_suiteTag listed) ⟨_, .inl rfl⟩, scan_of_token rfl, scan_of_step rfl] at scanned
  obtain ⟨later, behind, rfl⟩ := Option.map_eq_some_iff.mp scanned
  cases means with
  | cons _ laterMeans => exact forall_plain_of_scanned behind laterMeans

/-- The report of a test suite can be read back exactly when all rule ids are plain. -/
theorem report_decodes_iff (colored : Bool) (descriptors : List Descriptor)
    (diagnostics : List Diagnostic) :
    Decodes (Diagnostic.sort diagnostics) (report colored descriptors .junit diagnostics) ↔
      ∀ diagnostic ∈ diagnostics, IsPlain diagnostic.ruleId := by
  rw [← forall_plain_sort_iff]
  exact ⟨plain_of_decodes, decodes_of_plain⟩

/-- A diagnostic of a rule with a quote in its id. -/
def quotedDiagnostic : Diagnostic where
  ruleId := "A\"B"
  severity := .error
  category := .usage
  message := "m"
  location := ⟨"a.cs", .integer 1, .integer 1, .integer 1, .integer 2⟩
  additionalLocations := []

/-- One quote in a rule id makes the report unreadable. -/
theorem not_decodes_quotedDiagnostic :
    ¬ Decodes (Diagnostic.sort [quotedDiagnostic])
      (report false [] .junit [quotedDiagnostic]) := by
  intro decodes
  have plain := plain_of_decodes decodes quotedDiagnostic (by simp [Diagnostic.sort])
  exact absurd rfl (plain '"' (by decide)).2.1

end OperationLint.TestSuiteReport
