import OperationLint.Proofs.Documents
import OperationLint.Proofs.NumberTexts
import OperationLint.Report.Basic

/-!
# Documents that give their diagnostics back

A report as a JSON document holds all there is to its diagnostics, so they can be decoded from its
text, whatever characters stand in their strings.

## Main result

`report_json_decodes`: the text of a report is read as a document from which the sorted diagnostics are
decoded, and so lists with different sorts have different reports.

## Proof strategy

- `Diagnostic.ofJson?_toJson`: decoding undoes encoding.
- `Diagnostic.legible_toJson`: with exact positions an entry is read back from its text.
- `DocumentReport.exists_readsAs`: a document is read as one with the same entries. Its counts can
  always be read, if not as they were: no list is too long for that.
-/

namespace OperationLint

/-! ### Decoding -/

namespace Json

/-- The number in a member. -/
def number? (document : Json) (name : String) : Option Number :=
  match document.member? name with
  | some (.number value) => some value
  | _ => none

/-- The elements of the list in a member. -/
def elements? (document : Json) (name : String) : Option (List Json) :=
  match document.member? name with
  | some (.array elements) => some elements
  | _ => none

end Json

def Severity.ofName? (name : String) : Option Severity := Severity.all.find? (·.name == name)

def Category.ofName? (name : String) : Option Category := Category.all.find? (·.name == name)

def Location.ofJson? (json : Json) : Option Location := do
  let path ← json.text? "path"
  let startLine ← json.number? "startLine"
  let startColumn ← json.number? "startColumn"
  let endLine ← json.number? "endLine"
  let endColumn ← json.number? "endColumn"
  return { path, startLine, startColumn, endLine, endColumn }

def Diagnostic.ofJson? (json : Json) : Option Diagnostic := do
  let ruleId ← json.text? "ruleId"
  let severity ← Severity.ofName? (← json.text? "severity")
  let category ← Category.ofName? (← json.text? "category")
  let message ← json.text? "message"
  let location ← Location.ofJson? (← json.member? "location")
  let additionalLocations ← (← json.elements? "additionalLocations").mapM Location.ofJson?
  return { ruleId, severity, category, message, location, additionalLocations }

/-- The diagnostics that a document lists. -/
def DocumentReport.decode? (document : Json) : Option (List Diagnostic) := do
  (← document.elements? "diagnostics").mapM Diagnostic.ofJson?

theorem Severity.ofName?_name (severity : Severity) : ofName? severity.name = some severity := by
  cases severity <;> decide

theorem Category.ofName?_name (category : Category) : ofName? category.name = some category := by
  cases category <;> decide

/-- Decoding each of a list undoes encoding each. -/
theorem mapM_map_eq_some {α β : Type} {encode : α → β} {decode : β → Option α}
    (undoes : ∀ a, decode (encode a) = some a) (list : List α) :
    (list.map encode).mapM decode = some list := by
  induction list with
  | nil => rfl
  | cons a more ih => simp [undoes, ih]

theorem Location.ofJson?_toJson (location : Location) :
    ofJson? location.toJson = some location := rfl

theorem Diagnostic.ofJson?_toJson (diagnostic : Diagnostic) :
    ofJson? diagnostic.toJson = some diagnostic := by
  -- Each part is found under its key, and then decoded on its own.
  have ruleId : diagnostic.toJson.text? "ruleId" = some diagnostic.ruleId := rfl
  have severity : diagnostic.toJson.text? "severity" = some diagnostic.severity.name := rfl
  have category : diagnostic.toJson.text? "category" = some diagnostic.category.name := rfl
  have message : diagnostic.toJson.text? "message" = some diagnostic.message := rfl
  have location : diagnostic.toJson.member? "location" = some diagnostic.location.toJson := rfl
  have locations : diagnostic.toJson.elements? "additionalLocations" =
    some (diagnostic.additionalLocations.map Location.toJson) := rfl
  simp only [ofJson?, ruleId, severity, category, message, location, locations,
    Severity.ofName?_name, Category.ofName?_name, Location.ofJson?_toJson,
    mapM_map_eq_some Location.ofJson?_toJson, Option.bind_eq_bind, Option.bind_some]
  rfl

/-! ### Legible entries -/

/-- A line or a column: a positive integer that doubles are exact for. -/
def Number.IsPosition (number : Number) : Prop :=
  ∃ value : Nat, number = .integer value ∧ 0 < value ∧ value ≤ 2 ^ 53 - 1

structure Location.Positioned (location : Location) : Prop where
  startLine : location.startLine.IsPosition
  startColumn : location.startColumn.IsPosition
  endLine : location.endLine.IsPosition
  endColumn : location.endColumn.IsPosition

/-- All locations of a diagnostic have lines and columns. -/
def Diagnostic.Positioned (diagnostic : Diagnostic) : Prop :=
  ∀ location ∈ diagnostic.location :: diagnostic.additionalLocations, location.Positioned

theorem Number.IsPosition.legible {number : Number} (position : number.IsPosition) :
    (Json.number number).Legible := by
  obtain ⟨value, rfl, _, small⟩ := position
  apply Json.Legible.number
  apply Json.numberReadsAs_integer
  rw [Int.natAbs_natCast]
  omega

/-- Members under these keys are in order as they are. -/
theorem Json.ofMembers_of_keys {members : Members} {keys : List String}
    (same : members.map (·.1) = keys)
    (plain : keys.Nodup ∧ ∀ key ∈ keys, arrayIndex? key = none) :
    ofMembers members = .object members := by
  subst same
  apply ofMembers_of_names plain.1
  intro member listed
  exact plain.2 member.1 (List.mem_map_of_mem listed)

theorem Location.legible_toJson {location : Location} (positioned : location.Positioned) :
    location.toJson.Legible := by
  apply Json.Legible.object
  · exact Json.ofMembers_of_keys (Eq.refl ["path", "startLine", "startColumn", "endLine",
      "endColumn"]) (by decide)
  · simp only [List.forall_mem_cons]
    exact ⟨.string _, positioned.startLine.legible, positioned.startColumn.legible,
      positioned.endLine.legible, positioned.endColumn.legible, by simp⟩

theorem Diagnostic.legible_toJson {diagnostic : Diagnostic} (positioned : diagnostic.Positioned) :
    diagnostic.toJson.Legible := by
  -- Only locations hold numbers.
  obtain ⟨own, additional⟩ := List.forall_mem_cons.mp positioned
  have locations : (Json.array (diagnostic.additionalLocations.map Location.toJson)).Legible := by
    apply Json.Legible.array
    intro element listed
    obtain ⟨location, inside, rfl⟩ := List.mem_map.mp listed
    exact Location.legible_toJson (additional location inside)
  apply Json.Legible.object
  · exact Json.ofMembers_of_keys (Eq.refl ["ruleId", "severity", "category", "message", "location",
      "additionalLocations"]) (by decide)
  · simp only [List.forall_mem_cons]
    exact ⟨.string _, .string _, .string _, .string _, Location.legible_toJson own, locations,
      by simp⟩

/-! ### Whole documents -/

namespace DocumentReport

/-- A document with the entries of a report, whatever its summary. -/
def withSummary (summary : Json) (listed : List Diagnostic) : Json :=
  .object [("tool", .string toolName), ("version", .string toolVersion), ("summary", summary),
    ("diagnostics", .array (listed.map Diagnostic.toJson))]

theorem decode?_withSummary (summary : Json) (listed : List Diagnostic) :
    decode? (withSummary summary listed) = some listed :=
  mapM_map_eq_some Diagnostic.ofJson?_toJson listed

/-- The text of a count can be read. -/
theorem exists_readsAs_count (n : Nat) : ∃ read, (Json.ofNat n).ReadsAs read :=
  Json.exists_readsAs_number (Number.ofInt n)

theorem exists_readsAs_summary (total errors warnings info : Nat) :
    ∃ summary, (Json.object [("total", .ofNat total), ("errors", .ofNat errors),
      ("warnings", .ofNat warnings), ("info", .ofNat info)]).ReadsAs summary := by
  obtain ⟨readTotal, ofTotal⟩ := exists_readsAs_count total
  obtain ⟨readErrors, ofErrors⟩ := exists_readsAs_count errors
  obtain ⟨readWarnings, ofWarnings⟩ := exists_readsAs_count warnings
  obtain ⟨readInfo, ofInfo⟩ := exists_readsAs_count info
  refine ⟨.object [("total", readTotal), ("errors", readErrors), ("warnings", readWarnings),
    ("info", readInfo)], Json.readsAs_object ?_ ?_⟩
  · exact Json.ofMembers_of_keys (Eq.refl ["total", "errors", "warnings", "info"]) (by decide)
  · exact .cons ⟨rfl, ofTotal⟩ (.cons ⟨rfl, ofErrors⟩ (.cons ⟨rfl, ofWarnings⟩
      (.cons ⟨rfl, ofInfo⟩ .nil)))

theorem exists_readsAs {listed : List Diagnostic}
    (positioned : ∀ diagnostic ∈ listed, diagnostic.Positioned) :
    ∃ summary, (document listed).ReadsAs (withSummary summary listed) := by
  obtain ⟨summary, ofSummary⟩ := exists_readsAs_summary listed.length
    (Diagnostic.count .error listed) (Diagnostic.count .warning listed)
    (Diagnostic.count .info listed)
  have legible : (Json.array (listed.map Diagnostic.toJson)).Legible := by
    apply Json.Legible.array
    intro element inside
    obtain ⟨diagnostic, member, rfl⟩ := List.mem_map.mp inside
    exact Diagnostic.legible_toJson (positioned diagnostic member)
  -- The summary may be read as another, everything else is read as it was.
  refine ⟨summary, Json.readsAs_object ?_ ?_⟩
  · exact Json.ofMembers_of_keys (Eq.refl ["tool", "version", "summary", "diagnostics"]) (by decide)
  · exact .cons ⟨rfl, Json.readsAs_string _⟩ (.cons ⟨rfl, Json.readsAs_string _⟩
      (.cons ⟨rfl, ofSummary⟩ (.cons ⟨rfl, Json.readsAs_of_legible legible⟩ .nil)))

/-- The text of a document gives its diagnostics back. -/
theorem exists_parse? {listed : List Diagnostic}
    (positioned : ∀ diagnostic ∈ listed, diagnostic.Positioned) :
    ∃ document, Json.parse? (render listed) = some document ∧ decode? document = some listed := by
  obtain ⟨summary, reads⟩ := exists_readsAs positioned
  refine ⟨withSummary summary listed, ?_, decode?_withSummary summary listed⟩
  have parsed := reads.parse? (.inl rfl)
  rwa [String.append_empty] at parsed

end DocumentReport

theorem Diagnostic.positioned_sort {diagnostics : List Diagnostic}
    (positioned : ∀ diagnostic ∈ diagnostics, diagnostic.Positioned) :
    ∀ diagnostic ∈ sort diagnostics, diagnostic.Positioned := by
  simpa only [sort, List.mem_mergeSort] using positioned

/-- The report of diagnostics with proper positions is read as a document that decodes to them in
order, so it tells lists with different sorts apart. -/
theorem report_json_decodes (colored : Bool) (descriptors : List Descriptor)
    (diagnostics : List Diagnostic)
    (positioned : ∀ diagnostic ∈ diagnostics, diagnostic.Positioned) :
    (∃ document, Json.parse? (report colored descriptors .json diagnostics) = some document ∧
      DocumentReport.decode? document = some (Diagnostic.sort diagnostics)) ∧
    ∀ others : List Diagnostic, (∀ diagnostic ∈ others, diagnostic.Positioned) →
      Diagnostic.sort others ≠ Diagnostic.sort diagnostics →
      report colored descriptors .json others ≠ report colored descriptors .json diagnostics := by
  have parsed := DocumentReport.exists_parse? (Diagnostic.positioned_sort positioned)
  refine ⟨parsed, ?_⟩
  intro others othersPositioned different same
  obtain ⟨document, read, decoded⟩ := parsed
  obtain ⟨other, otherRead, otherDecoded⟩ :=
    DocumentReport.exists_parse? (Diagnostic.positioned_sort othersPositioned)
  -- One text is read as one document.
  have otherRead : Json.parse? (DocumentReport.render (Diagnostic.sort diagnostics)) = some other :=
    (congrArg Json.parse? same).symm.trans otherRead
  obtain rfl := Option.some.inj (read.symm.trans otherRead)
  exact different (Option.some.inj (otherDecoded.symm.trans decoded))

/-- A diagnostic with marks of all kinds in its strings, and positions at both ends. -/
def markedDiagnostic : Diagnostic where
  ruleId := "A\"\\/B"
  severity := .info
  category := .security
  message := "\x00\x08\t\n\x0c\r\x1f\x7f 😀 \u2028"
  location := ⟨"a\\b.cs", .integer 1, .integer 1, .integer 9007199254740991, .integer 2⟩
  additionalLocations := [⟨"", .integer 3, .integer 9007199254740991, .integer 3, .integer 4⟩]

theorem report_json_decodes_marked :
    (∃ document, Json.parse? (report false [] .json [markedDiagnostic]) = some document ∧
      DocumentReport.decode? document = some (Diagnostic.sort [markedDiagnostic])) ∧
    report false [] .json [] ≠ report false [] .json [markedDiagnostic] := by
  have positioned : ∀ diagnostic ∈ [markedDiagnostic], diagnostic.Positioned := by
    rw [List.forall_mem_singleton]
    have position (n : Nat) (exact : 0 < n ∧ n ≤ 2 ^ 53 - 1) : (Number.integer n).IsPosition :=
      ⟨n, rfl, exact⟩
    have last := position 9007199254740991 (by decide)
    exact List.forall_mem_cons.mpr
      ⟨⟨position 1 (by decide), position 1 (by decide), last, position 2 (by decide)⟩,
        List.forall_mem_singleton.mpr
          ⟨position 3 (by decide), last, position 3 (by decide), position 4 (by decide)⟩⟩
  obtain ⟨decodes, apart⟩ := report_json_decodes false [] [markedDiagnostic] positioned
  refine ⟨decodes, apart [] (by simp) ?_⟩
  intro same
  have length := congrArg List.length same
  simp [Diagnostic.sort] at length

end OperationLint
