import OperationLint.Proofs.EngineRuns
import OperationLint.Proofs.Entries

/-!
# Runs over documents

What a rule reports can be said about the document that was analyzed, without a word about
compilations. A rule judges operations; `Engine.run_reports_documents` turns a statement about the
judgement of one operation, in terms of the document that denotes it, into a statement about the
diagnostics of a whole run.

The first part collects what rules ask of a document: its kind, its type, its flags, the operations
in its members and the methods and fields it names.
-/

namespace OperationLint

/-! ### Questions to documents -/

namespace Json

/-- The document of an operation of a kind. -/
def IsKind (document : Json) (kind : Kind) : Prop := document.text? "kind" = some kind.name

/-- The operation in a member; a missing one and null hold none. -/
def part? (document : Json) (name : String) : Option Json :=
  match document.member? name with
  | some .null => none
  | held => held

/-- A type of a name is declared. -/
def DeclaresType (snapshot : Json) (name : String) : Prop :=
  ∃ entry ∈ snapshot.entries "types", entry.text? "metadataName" = some name

instance (document : Json) (kind : Kind) : Decidable (document.IsKind kind) :=
  inferInstanceAs (Decidable (_ = _))

instance (snapshot : Json) (name : String) : Decidable (snapshot.DeclaresType name) :=
  inferInstanceAs (Decidable (∃ entry ∈ snapshot.entries "types", _))

theorem partOperations_eq_part? (members : Members) (name : String) {arity : Arity}
    (single : arity ≠ .many) :
    partOperations members (name, arity) = ((Json.object members).part? name).toList := by
  cases arity with
  | many => exact absurd rfl single
  | _ =>
    cases found : members.lookup name with
    | none => simp [partOperations, part?, found]
    | some value => cases value <;> simp [partOperations, part?, found]

end Json

theorem Kind.name_injective : Function.Injective Kind.name :=
  Schema.injective_of_find? Kind.all fun kind => by cases kind <;> decide

namespace Naming.Describes

variable {τ μ φ : Type} {naming : Naming τ μ φ} {document : Json} {operation : Operation τ μ φ}

theorem isKind_iff (described : naming.Describes document operation) {kind : Kind} :
    document.IsKind kind ↔ operation.kind = kind := by
  have written : document.text? "kind" = some operation.kind.name := by
    simp [Json.text?, described.kind]
  rw [Json.IsKind, written, Option.some.injEq]
  exact Kind.name_injective.eq_iff

theorem text?_type (described : naming.Describes document operation) :
    document.text? "type" = operation.info.type.map naming.type :=
  Json.text?_of_member described.type

theorem text?_of_payload (described : naming.Describes document operation) {name text : String}
    (listed : (name, Json.string text) ∈ operation.payload naming) :
    document.text? name = some text :=
  Json.text?_of_member (described.payload _ listed)

end Naming.Describes

namespace Operation.Denotes

variable {symbols : Symbols} {document : Json} {operation : BoundOperation}

theorem isKind_iff (denoted : Denotes symbols document operation) {kind : Kind} :
    document.IsKind kind ↔ operation.kind = kind :=
  denoted.describes.isKind_iff

theorem text?_type (denoted : Denotes symbols document operation) :
    document.text? "type" = operation.info.type.map (·.metadataName) :=
  denoted.describes.text?_type

theorem flag?_isImplicit (denoted : Denotes symbols document operation) :
    document.flag? "isImplicit" = some true ↔ operation.isImplicit = true := by
  have held := Json.flag?_of_member denoted.describes.isImplicit
  rw [← held]
  cases document.flag? "isImplicit" <;> simp

theorem flag?_constantValue (denoted : Denotes symbols document operation) :
    document.flag? "constantValue" = some true ↔
      operation.info.constant = some (.bool true) := by
  have held := denoted.describes.constant
  cases constant : operation.info.constant with
  | none => simp [Json.flag?, held, constant]
  | some value => cases value <;> simp [Json.flag?, held, constant, Constant.json]

/-- The text in a member that the kind declares. -/
theorem text?_of_payload (denoted : Denotes symbols document operation) {name text : String}
    (listed : (name, Json.string text) ∈ operation.payload Naming.bound) :
    document.text? name = some text :=
  denoted.describes.text?_of_payload listed

theorem mem_methods (denoted : Denotes symbols document operation) :
    ∀ method ∈ operation.methodRefs, method ∈ symbols.methods := by
  obtain ⟨raw, _, path, returned⟩ := denoted
  exact forall_mem_of_forall₂ (bind_step returned).methods fun _ _ => List.mem_of_find?_eq_some

theorem mem_fields (denoted : Denotes symbols document operation) :
    ∀ field ∈ operation.fieldRefs, field ∈ symbols.fields := by
  obtain ⟨raw, _, path, returned⟩ := denoted
  exact forall_mem_of_forall₂ (bind_step returned).fields fun _ _ => List.mem_of_find?_eq_some

/-- The document in a member that holds at most one operation. -/
theorem part?_rel {members : Json.Members} {name : String} {arity : Arity}
    {operation : Option BoundOperation} (single : arity ≠ .many)
    (related : List.Forall₂ (Denotes symbols) (partOperations members (name, arity))
      operation.toList) :
    Option.Rel (Denotes symbols) ((Json.object members).part? name) operation := by
  rw [Json.partOperations_eq_part? members name single] at related
  cases held : (Json.object members).part? name with
  | none =>
    cases operation with
    | none => exact .none
    | some _ => simp [held] at related
  | some document =>
    cases operation with
    | none => simp [held] at related
    | some _ => exact .some (by simpa [held] using related)

theorem returnedValue {info : Info TypeSymbol} {value : Option BoundOperation}
    (denoted : Denotes symbols document (.returns info value)) :
    Option.Rel (Denotes symbols) (document.part? "returnedValue") value := by
  obtain ⟨members, rfl, _, parts⟩ := denoted.parts
  cases parts with
  | cons first _ => exact part?_rel (by decide) first

theorem delegateTarget {info : Info TypeSymbol} {target : BoundOperation}
    (denoted : Denotes symbols document (.delegateCreation info target)) :
    Option.Rel (Denotes symbols) (document.part? "target") (some target) := by
  obtain ⟨members, rfl, _, parts⟩ := denoted.parts
  cases parts with
  | cons first _ => exact part?_rel (by decide) first

theorem assignment {info : Info TypeSymbol} {target value : Option BoundOperation}
    (denoted : Denotes symbols document (.simpleAssignment info target value)) :
    Option.Rel (Denotes symbols) (document.part? "target") target ∧
      Option.Rel (Denotes symbols) (document.part? "value") value := by
  obtain ⟨members, rfl, _, parts⟩ := denoted.parts
  cases parts with
  | cons first rest =>
    cases rest with
    | cons second _ => exact ⟨part?_rel (by decide) first, part?_rel (by decide) second⟩

theorem of_part {part : Option Json} {operation : Option BoundOperation}
    (related : Option.Rel (Denotes symbols) part operation) {inner : Json} (held : inner ∈ part) :
    ∃ below, operation = some below ∧ Denotes symbols inner below := by
  cases related with
  | none => cases held
  | some denoted =>
    cases held
    exact ⟨_, rfl, denoted⟩

theorem exists_part {part : Option Json}
    (related : Option.Rel (Denotes symbols) part (some operation)) :
    ∃ inner ∈ part, Denotes symbols inner operation := by
  cases related with
  | some denoted => exact ⟨_, rfl, denoted⟩

end Operation.Denotes

namespace Operation

variable {τ μ φ : Type} {operation : Operation τ μ φ}

theorem eq_simpleAssignment (kind : operation.kind = .simpleAssignment) :
    ∃ info target value, operation = .simpleAssignment info target value := by
  cases operation with
  | simpleAssignment info target value => exact ⟨info, target, value, rfl⟩
  | _ => cases kind

theorem eq_fieldReference (kind : operation.kind = .fieldReference) :
    ∃ info field receiver, operation = .fieldReference info field receiver := by
  cases operation with
  | fieldReference info field receiver => exact ⟨info, field, receiver, rfl⟩
  | _ => cases kind

theorem eq_invocation (kind : operation.kind = .invocation) :
    ∃ info method receiver arguments, operation = .invocation info method receiver arguments := by
  cases operation with
  | invocation info method receiver arguments => exact ⟨info, method, receiver, arguments, rfl⟩
  | _ => cases kind

end Operation

/-! ### Declared types -/

namespace Compilation

theorem type?_eq_some {compilation : Compilation} {name : String} {type : TypeSymbol}
    (found : compilation.type? name = some type) :
    type.metadataName = name ∧ type ∈ compilation.types :=
  ⟨by simpa using List.find?_some found, List.mem_of_find?_eq_some found⟩

/-- A look-up by name succeeds exactly for declared types. -/
theorem Described.exists_type?_iff {snapshot : Json} {compilation : Compilation}
    (described : Described snapshot compilation) (name : String) :
    (∃ type, compilation.type? name = some type) ↔ snapshot.DeclaresType name := by
  have listed : (∃ type, compilation.type? name = some type) ↔
      ∃ type ∈ compilation.types, type.metadataName = name := by
    rw [← List.mem_map]
    exact exists_find?_key
  rw [listed, Json.DeclaresType]
  symm
  refine exists_mem_iff_of_forall₂ described.types ?_
  intro entry type _ about
  rw [about.metadataName, Option.some.injEq]

end Compilation

/-! ### The operations of a run -/

namespace Json

/-- The documents of the operations of a block, in pre-order. -/
def blockOperations (block : Json) : List Json :=
  match block.member? "body" with
  | some body => body.preorder
  | none => []

/-- The documents of the operations that are analyzed, blocks in order; blocks of generated code
only if they are asked for. -/
def analyzedOperations (snapshot : Json) (withGenerated : Bool) : List Json :=
  ((snapshot.entries "operationBlocks").filter fun block =>
    withGenerated || block.flag? "isGenerated" ≠ some true).flatMap blockOperations

/-- The documents of all operations, each with the entry of its block. -/
def places (snapshot : Json) : List (Json × Json) :=
  (snapshot.entries "operationBlocks").flatMap fun block => block.blockOperations.map (block, ·)

/-- Choosing among places by block and operation chooses blocks first and operations then. -/
theorem filter_places (snapshot : Json) (ofBlock ofOperation : Json → Bool) :
    (snapshot.places.filter fun place => ofBlock place.1 && ofOperation place.2).map Prod.snd =
      (((snapshot.entries "operationBlocks").filter ofBlock).flatMap blockOperations).filter
        ofOperation := by
  unfold places
  induction snapshot.entries "operationBlocks" with
  | nil => rfl
  | cons block rest ih =>
    rw [List.flatMap_cons, List.filter_append, List.map_append, ih]
    by_cases wanted : ofBlock block = true
    · rw [List.filter_cons_of_pos wanted, List.flatMap_cons, List.filter_append]
      congr 1
      simp [List.filter_map, Function.comp_def, wanted]
    · rw [List.filter_cons_of_neg wanted]
      simp [List.filter_map, Function.comp_def, wanted]

end Json

namespace Compilation

theorem map_sites (compilation : Compilation) :
    compilation.sites.map (fun site => (site.block, site.operation)) =
      compilation.blocks.flatMap fun block => block.body.descendantsAndSelf.map (block, ·) := by
  rw [sites, List.map_map]
  exact List.zipIdx_map_fst _ _

/-- The places of a document are the sites of its compilation. -/
theorem Described.sites {snapshot : Json} {compilation : Compilation}
    (described : Described snapshot compilation) :
    List.Forall₂ (fun place site => compilation.symbols.DescribesBlock place.1 site.block ∧
      Operation.Denotes compilation.symbols place.2 site.operation) snapshot.places
      compilation.sites := by
  have places : List.Forall₂ (fun place (pair : BoundBlock × BoundOperation) =>
      compilation.symbols.DescribesBlock place.1 pair.1 ∧
        Operation.Denotes compilation.symbols place.2 pair.2) snapshot.places
      (compilation.sites.map fun site => (site.block, site.operation)) := by
    rw [map_sites]
    refine forall₂_flatMap_of_mem described.blocks ?_
    intro entry block _ about
    obtain ⟨body, found, denoted⟩ := about.body
    rw [Json.blockOperations, found, List.forall₂_map_left_iff, List.forall₂_map_right_iff]
    exact denoted.preorder.imp fun _ _ inner => ⟨about, inner⟩
  exact List.forall₂_map_right_iff.mp places

end Compilation

namespace Engine

variable {config : Config} {rule : Rule} {before after : List Rule} {snapshot : Json}
  {source : Option String} {compilation : Compilation}

/-- Whether a block is generated can be asked of its entry. -/
theorem finding?_eq_judge? {symbols : Symbols} {entry : Json} {site : Site}
    (about : symbols.DescribesBlock entry site.block) :
    rule.finding? config compilation site =
      if (rule.analyzesGenerated || entry.flag? "isGenerated" ≠ some true) = true then
        rule.judge? config compilation site
      else none := by
  have generated : (!site.block.isGenerated) = decide (entry.flag? "isGenerated" ≠ some true) := by
    simp only [ne_eq, about.isGenerated]
    cases site.block.isGenerated <;> rfl
  rw [Rule.finding?, generated]

/-- A rule that judges operations by their documents reports, under its id, one diagnostic for each
document it objects to, in the order of the document. -/
theorem run_reports_documents (accepted : Compilation.ofJson snapshot source = .ok compilation)
    (enabled : config.isEnabled rule.descriptor = true) (own : rule.ReportsAsItself)
    (others : ∀ other ∈ before ++ after, other.Avoids rule.descriptor.id)
    {Found : Json → Prop} [DecidablePred Found] {Reports : Json → Diagnostic → Prop}
    (finds : ∀ document site, Operation.Denotes compilation.symbols document site.operation →
      Found document →
      ∃ diagnostic, rule.judge? config compilation site = some diagnostic ∧
        Reports document diagnostic)
    (spares : ∀ document site, Operation.Denotes compilation.symbols document site.operation →
      ¬ Found document → rule.judge? config compilation site = none) :
    ∃ diagnostics, (run config (before ++ rule :: after) Signal.never compilation).diagnostics =
        some diagnostics ∧
      List.Forall₂ Reports
        ((snapshot.analyzedOperations rule.analyzesGenerated).filter Found)
        (diagnostics.filter (·.ruleId = rule.descriptor.id)) := by
  obtain ⟨diagnostics, ran, share⟩ := run_filter_ruleId compilation enabled own others
  refine ⟨diagnostics, ran, ?_⟩
  have described := Compilation.described_of_ofJson accepted
  -- A site knows its block and a document does not, so the two are paired place by place first.
  have chosen : List.Forall₂ (fun place diagnostic => Reports place.2 diagnostic)
      (snapshot.places.filter fun place => (rule.analyzesGenerated ||
        place.1.flag? "isGenerated" ≠ some true) && decide (Found place.2))
      (compilation.sites.filterMap (rule.finding? config compilation)) := by
    refine forall₂_filter_filterMap described.sites ?_ ?_
    · rintro place site ⟨about, denoted⟩ keeps
      simp only [Bool.and_eq_true, decide_eq_true_eq] at keeps
      obtain ⟨diagnostic, judged, reported⟩ := finds place.2 site denoted keeps.2
      refine ⟨diagnostic, ?_, reported⟩
      rw [finding?_eq_judge? about, if_pos keeps.1]
      exact judged
    · rintro place site ⟨about, denoted⟩ drops
      rw [finding?_eq_judge? about]
      by_cases objects : Found place.2
      · -- The rule objects to the operation, so it is the generated block that drops it.
        have skipped := drops
        simp only [objects, decide_true, Bool.and_true] at skipped
        rw [skipped]
        rfl
      · rw [spares place.2 site denoted objects, ite_self]
  rw [share, Json.analyzedOperations, ← Json.filter_places]
  exact List.forall₂_map_left_iff.mpr chosen

end Engine

end OperationLint
