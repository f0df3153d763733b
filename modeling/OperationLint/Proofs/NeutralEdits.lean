import Mathlib.Logic.Relation
import OperationLint.Proofs.CanonicalSymbols
import OperationLint.Proofs.DocumentRuns
import OperationLint.Proofs.SnapshotEdits

/-!
# What a snapshot does not have to say

Members that no record declares do not count, and a missing member that may be missing stands for a
neutral value. So a snapshot may be edited in both respects, at any depth, and nothing changes: the
same compilation comes out, or the same error. A constant is the exception. Null is a constant, and
an operation that says so has one.

## Main result

`Compilation.ofJson_ignores_edits`.

## Proof strategy

The edits keep the slots of a record, so the record is read alike, and with it the whole snapshot
(`Exchange.agree`). What a record may lack is found in the grammar (`mayLack_of_accepts`). A
constant null keeps a record only up to constants; then the compilations are the same up to
constants, and the constants are those of the documents in pre-order.
-/

namespace OperationLint

open Json Schema Schema.Validation

/-! ### Neutral edits -/

namespace Grammar

variable {before after : Members} {record : Record}

/-- Members added to an object. -/
theorem sameExcept_insert (name : String) (value : Json) (front back : Members) :
    SameExcept name (front ++ back) (front ++ (name, value) :: back) := by
  intro other different
  rw [List.lookup_append, List.lookup_append, List.lookup_cons, beq_false_of_ne different]

/-- A member of an object set to another value. -/
theorem sameExcept_set (name : String) (value other : Json) (front back : Members) :
    SameExcept name (front ++ (name, value) :: back) (front ++ (name, other) :: back) := by
  intro key different
  rw [List.lookup_append, List.lookup_append, List.lookup_cons, List.lookup_cons,
    beq_false_of_ne different]

/-- Edits of a record that change nothing: to a member that it does not declare, or the neutral
value for a missing one. Of an operation without a valid kind nothing counts but the kind. -/
inductive Neutral (record : Record) (before after : Members) : Prop
  | noise {slots : List Slot} {name : String} (declares : record.slots? before = some slots)
      (undeclared : name ∉ slots.map (·.name)) (others : SameExcept name before after)
  | default {slots : List Slot} {slot : Slot} {value : Json}
      (declares : record.slots? before = some slots) (listed : slot ∈ slots)
      (stands : slot.neutral = some value) (others : SameExcept slot.name before after)
      (absent : before.lookup slot.name = none) (set : after.lookup slot.name = some value)
  | untagged (operation : record = .operation) (unknown : Kind.ofMembers? before = none)
      (tag : after.lookup "kind" = before.lookup "kind")

theorem Neutral.agree (neutral : Neutral record before after) : record.Agree id before after := by
  cases neutral with
  | @noise slots name declares undeclared others =>
    apply agree_of_alike declares
    intro slot listed
    have different : slot.name ≠ name := fun same => undeclared (same ▸ List.mem_map_of_mem listed)
    rw [others slot.name different]
    exact .same _
  | default declares listed stands others absent set =>
    apply agree_of_alike declares
    apply slotsAlike_of_sameExcept declares listed others
    rw [absent, set]
    exact .neutral stands
  | untagged operation unknown tag =>
    subst operation
    change Rel _ (Operation.read (.object before)) (Operation.read (.object after))
    rw [Operation.read, Operation.read, ofMembers?_congr tag, unknown]
    exact .invalid _

/-- Neutral edits of snapshots, at any depth. -/
inductive NeutralEdit : Json → Json → Prop
  | intro {record : Record} {old new before after : Members}
      (exchange : Exchange record old new .snapshot before after)
      (neutral : Neutral record old new) : NeutralEdit (.object before) (.object after)

theorem NeutralEdit.read_eq {document edited : Json} (edit : NeutralEdit document edited) :
    Snapshot.read document = Snapshot.read edited := by
  obtain ⟨exchange, neutral⟩ := edit
  have related := exchange.agree neutral.agree
  apply Rel.eq
  apply Rel.mono related
  intro first second same
  rwa [Snapshot.mapInfo_id, Snapshot.mapInfo_id] at same

theorem read_eq_of_edits {document edited : Json}
    (edits : Relation.EqvGen NeutralEdit document edited) :
    Snapshot.read document = Snapshot.read edited := by
  induction edits with
  | rel _ _ edit => exact edit.read_eq
  | refl _ => rfl
  | symm _ _ _ ih => exact ih.symm
  | trans _ _ _ _ _ first second => exact first.trans second

/-! ### Members that may be missing -/

/-- A record is read without an issue. -/
def Record.Accepts (members : Members) : Record → Prop
  | snapshot => ∃ value, Snapshot.ofMembers members = valid value
  | typeEntry => ∃ value, TypeEntry.ofMembers members = valid value
  | methodEntry => ∃ value, Method.ofMembers members = valid value
  | parameter => ∃ value, Parameter.ofMembers members = valid value
  | dllImport => ∃ value, DllImport.ofMembers members = valid value
  | fieldEntry => ∃ value, Field.ofMembers members = valid value
  | blockEntry => ∃ value, CodeBlock.ofMembers members = valid value
  | location => ∃ value, Location.ofMembers members = valid value
  | operation => ∃ value, Operation.read (.object members) = valid value

/-- Members with a neutral value, and constants. -/
def Record.MayLack (record : Record) (slot : Slot) : Prop :=
  (∃ value, slot.neutral = some value) ∨ record = .operation ∧ slot.name = "constantValue"

section MayLack

variable {members : Members} {slots : List Slot}

theorem Requires.lookup_ne_none {name : String} {Fits : Json → Prop}
    (requires : Requires members name Fits) : members.lookup name ≠ none := by
  obtain ⟨value, found, _⟩ := requires
  rw [found]
  exact Option.some_ne_none value

theorem Shape.exists_neutral {shape : Shape} (admitted : shape.Admits none) :
    ∃ value, shape.neutral = some value := by
  cases shape with
  | text => simp [Admits] at admitted
  | operation => exact absurd rfl admitted
  | operations => simp [Admits] at admitted
  | _ => exact ⟨_, rfl⟩

theorem mayLack_of_isNode {kind : Kind} (named : Kind.ofMembers? members = some kind)
    (common : IsNode members) :
    ∀ slot ∈ commonSlots, members.lookup slot.name = none → Record.operation.MayLack slot := by
  have tagged : members.lookup "kind" ≠ none := by
    rw [Kind.ofMembers?_eq_some.mp named]
    exact Option.some_ne_none _
  simp [-List.lookup_eq_none_iff, commonSlots, Record.MayLack, tagged,
    common.location.lookup_ne_none]

/-- A record that lacks more than that has an issue. -/
theorem mayLack_of_accepts (accepted : record.Accepts members)
    (declares : record.slots? members = some slots) :
    ∀ slot ∈ slots, members.lookup slot.name = none → record.MayLack slot := by
  cases record with
  | snapshot =>
    have fits := (Snapshot.decides_ofMembers members).exists_valid_iff.mp accepted
    cases declares
    simp [-List.lookup_eq_none_iff, Record.MayLack, fits.assemblyName.lookup_ne_none,
      fits.types.lookup_ne_none]
  | typeEntry =>
    have fits := (TypeEntry.decides_ofMembers members).exists_valid_iff.mp accepted
    cases declares
    simp [-List.lookup_eq_none_iff, Record.MayLack, fits.metadataName.lookup_ne_none,
      fits.typeKind.lookup_ne_none]
  | methodEntry =>
    have fits := (Method.decides_ofMembers members).exists_valid_iff.mp accepted
    cases declares
    simp [-List.lookup_eq_none_iff, Record.MayLack, fits.id.lookup_ne_none,
      fits.name.lookup_ne_none, fits.containingType.lookup_ne_none]
  | parameter =>
    have fits := (Parameter.decides_ofMembers members).exists_valid_iff.mp accepted
    cases declares
    simp [-List.lookup_eq_none_iff, fits.name.lookup_ne_none, fits.type.lookup_ne_none]
  | dllImport =>
    have fits := (DllImport.decides_ofMembers members).exists_valid_iff.mp accepted
    cases declares
    simp [-List.lookup_eq_none_iff, Record.MayLack, fits.moduleName.lookup_ne_none]
  | fieldEntry =>
    have fits := (Field.decides_ofMembers members).exists_valid_iff.mp accepted
    cases declares
    simp [-List.lookup_eq_none_iff, Record.MayLack, fits.id.lookup_ne_none,
      fits.name.lookup_ne_none, fits.containingType.lookup_ne_none, fits.type.lookup_ne_none]
  | blockEntry =>
    have fits := (CodeBlock.decides_ofMembers members).exists_valid_iff.mp accepted
    cases declares
    simp [-List.lookup_eq_none_iff, Record.MayLack, fits.owner.lookup_ne_none,
      fits.body.lookup_ne_none]
  | location =>
    have fits := (Location.decides_ofMembers members).exists_valid_iff.mp accepted
    cases declares
    simp [-List.lookup_eq_none_iff, fits.path.lookup_ne_none, fits.startLine.lookup_ne_none,
      fits.startColumn.lookup_ne_none, fits.endLine.lookup_ne_none, fits.endColumn.lookup_ne_none]
  | operation =>
    obtain ⟨kind, named, rfl⟩ := Option.map_eq_some_iff.mp declares
    obtain ⟨other, tag, common, own⟩ :=
      isOperation_object.mp ((Operation.decides_read _).exists_valid_iff.mp accepted)
    rw [← Kind.ofMembers?_eq_some, named] at tag
    cases tag
    intro slot listed absent
    rcases List.mem_append.mp listed with inCommon | inOwn
    · exact mayLack_of_isNode named common slot inCommon absent
    · obtain ⟨⟨name, shape⟩, member, rfl⟩ := List.mem_map.mp inOwn
      have admitted := (own _ member).1
      rw [absent] at admitted
      exact Or.inl (Shape.exists_neutral admitted)

end MayLack

/-! ### The constant null -/

/-- The constant null is added to an operation without a constant. -/
structure GainsNull (before after : Members) : Prop where
  tagged : ∃ kind, Kind.ofMembers? before = some kind
  others : SameExcept "constantValue" before after
  absent : before.lookup "constantValue" = none
  set : after.lookup "constantValue" = some .null

theorem rel_info_of_gainsNull (gains : GainsNull before after) :
    Rel (fun first second => first.withoutConstant = second.withoutConstant)
      (Info.ofMembers before) (Info.ofMembers after) := by
  have absent : Schema.optional "constantValue" Constant.read before = valid none := by
    rw [Schema.optional, gains.absent]
  have null : Schema.optional "constantValue" Constant.read after = valid (some .null) := by
    rw [Schema.optional, gains.set]
    rfl
  have type : Schema.optional "type" (nullable string) after =
      Schema.optional "type" (nullable string) before := by
    rw [Schema.optional, Schema.optional, gains.others "type" (by decide)]
  have isImplicit : withDefault "isImplicit" false boolean after =
      withDefault "isImplicit" false boolean before := by
    rw [withDefault, withDefault, gains.others "isImplicit" (by decide)]
  have location : required "location" Location.read after =
      required "location" Location.read before := by
    rw [required, required, gains.others "location" (by decide)]
  have constants : Rel (fun _ _ => True) (valid none : Validation (Option Constant))
      (valid (some .null)) := .valid trivial
  rw [Info.ofMembers, Info.ofMembers, absent, null, type, isImplicit, location]
  refine Rel.seq (Rel.seq (Rel.seq (Rel.map (Rel.refl_eq _) ?_) constants) (Rel.refl_eq _))
    (Rel.refl_eq _)
  rintro type _ rfl _ _ _ isImplicit _ rfl location _ rfl
  rfl

/-- No kind of operation has a member of its own for constants. -/
theorem ne_constantValue {kind : Kind} {name : String} {shape : Shape}
    (listed : (name, shape) ∈ shapes kind) : name ≠ "constantValue" := by
  rintro rfl
  cases kind <;> simp [shapes] at listed

theorem GainsNull.agree (gains : GainsNull before after) :
    Record.operation.Agree Info.withoutConstant before after := by
  obtain ⟨kind, named⟩ := gains.tagged
  have renamed := (ofMembers?_congr (gains.others "kind" (by decide))).trans named
  change Rel _ (Operation.read (.object before)) (Operation.read (.object after))
  rw [Operation.read, Operation.read, named, renamed]
  apply ofParts_rel (rel_info_of_gainsNull gains)
  rintro ⟨name, shape⟩ listed
  apply Shape.agrees_of_alike
  rw [gains.others name (ne_constantValue listed)]
  exact .same _

/-! ### Constants in documents -/

/-- Documents that say the same about constants, one by one. -/
def SameConstants (documents others : List Json) : Prop :=
  documents.map (·.member? "constantValue") = others.map (·.member? "constantValue")

/-- Of two lists of documents, the second has one document in place of another; the rest says the
same about constants. -/
def ReplacesOne (old new : Json) (documents others : List Json) : Prop :=
  ∃ front back otherFront otherBack, documents = front ++ old :: back ∧
    others = otherFront ++ new :: otherBack ∧ SameConstants front otherFront ∧
      SameConstants back otherBack

theorem ReplacesOne.append {old new : Json} {documents others front back otherFront otherBack :
    List Json} (replaces : ReplacesOne old new documents others)
    (before : SameConstants front otherFront) (after : SameConstants back otherBack) :
    ReplacesOne old new (front ++ documents ++ back) (otherFront ++ others ++ otherBack) := by
  obtain ⟨left, right, otherLeft, otherRight, rfl, rfl, sameLeft, sameRight⟩ := replaces
  refine ⟨front ++ left, right ++ back, otherFront ++ otherLeft, otherRight ++ otherBack,
    ?_, ?_, ?_, ?_⟩
  · simp
  · simp
  · rw [SameConstants, List.map_append, List.map_append, before, sameLeft]
  · rw [SameConstants, List.map_append, List.map_append, sameRight, after]

theorem partOperations_congr {part : String × Arity}
    (same : after.lookup part.1 = before.lookup part.1) :
    partOperations after part = partOperations before part := by
  obtain ⟨name, arity⟩ := part
  cases arity <;> simp only [partOperations] <;> rw [same]

theorem nodup_parts (kind : Kind) : (kind.parts.map (·.1)).Nodup := by
  cases kind <;> decide

/-- A document below an operation is exchanged for another one, and those beside it stay. -/
theorem subdocuments_exchange {kind : Kind} {name : String} {arity : Arity} {old new : Json}
    {front back : List Json} (named : Kind.ofMembers? before = some kind)
    (listed : (name, arity) ∈ kind.parts) (tagless : name ≠ "kind")
    (others : SameExcept name before after)
    (held : partOperations before (name, arity) = front ++ old :: back)
    (set : partOperations after (name, arity) = front ++ new :: back) :
    ∃ left right, (Json.object before).subdocuments = left ++ old :: right ∧
      (Json.object after).subdocuments = left ++ new :: right := by
  have renamed := (ofMembers?_congr (others "kind" tagless.symm)).trans named
  obtain ⟨earlier, later, split⟩ := List.append_of_mem listed
  have distinct := nodup_parts kind
  rw [split, List.map_append, List.map_cons, List.nodup_append, List.nodup_cons] at distinct
  have same (parts : List (String × Arity)) (apart : ∀ part ∈ parts, part.1 ≠ name) :
      parts.flatMap (partOperations after) = parts.flatMap (partOperations before) := by
    apply List.flatMap_congr
    intro part member
    exact partOperations_congr (others part.1 (apart part member))
  have sameEarlier := same earlier fun part member =>
    distinct.2.2 part.1 (List.mem_map_of_mem member) name List.mem_cons_self
  have sameLater := same later fun part member equal => by
    have twice : part.1 ∈ later.map (·.1) := List.mem_map_of_mem member
    exact distinct.2.1.1 (equal ▸ twice)
  refine ⟨earlier.flatMap (partOperations before) ++ front,
    back ++ later.flatMap (partOperations before), ?_, ?_⟩
  · rw [subdocuments_object named, split, List.flatMap_append, List.flatMap_cons, held]
    simp
  · rw [subdocuments_object renamed, split, List.flatMap_append, List.flatMap_cons, set,
      sameEarlier, sameLater]
    simp

/-- The documents of all operations of a snapshot, block by block in pre-order. -/
def allOperations (snapshot : Json) : List Json :=
  (snapshot.entries "operationBlocks").flatMap blockOperations

/-- The documents of operations in a record have one in place of another. -/
def Record.Replaces (old new before after : Members) : Record → Prop
  | snapshot => ReplacesOne (.object old) (.object new) (allOperations (.object before))
      (allOperations (.object after))
  | blockEntry => ReplacesOne (.object old) (.object new) (blockOperations (.object before))
      (blockOperations (.object after))
  | operation => ReplacesOne (.object old) (.object new) (preorder (.object before))
      (preorder (.object after))
  -- There are no operations in the others.
  | _ => False

variable {old new : Members}

theorem replaces_whole (gains : GainsNull old new) : Record.operation.Replaces old new old new := by
  obtain ⟨kind, named⟩ := gains.tagged
  have renamed := (ofMembers?_congr (gains.others "kind" (by decide))).trans named
  have below : (Json.object new).subdocuments = (Json.object old).subdocuments := by
    rw [subdocuments_object named, subdocuments_object renamed]
    apply List.flatMap_congr
    intro part listed
    obtain ⟨shape, member, _⟩ := mem_parts_iff.mp listed
    exact partOperations_congr (gains.others part.1 (ne_constantValue member))
  refine ⟨[], (Json.object old).subdocuments.flatMap preorder, [],
    (Json.object old).subdocuments.flatMap preorder, ?_, ?_, rfl, rfl⟩
  · rw [preorder_eq_cons, List.nil_append]
  · rw [preorder_eq_cons, below, List.nil_append]

/-- A document below an operation is exchanged. -/
theorem replaces_operation {kind : Kind} {name : String} {shape : Shape} {arity : Arity}
    {below above : Members} {front back : List Json}
    (named : Kind.ofMembers? before = some kind) (listed : (name, shape) ∈ shapes kind)
    (held : shape.arity? = some arity) (others : SameExcept name before after)
    (inBefore : partOperations before (name, arity) = front ++ .object below :: back)
    (inAfter : partOperations after (name, arity) = front ++ .object above :: back)
    (inside : Record.operation.Replaces old new below above) :
    Record.operation.Replaces old new before after := by
  have tagless : name ≠ "kind" := by
    rintro rfl
    cases kind <;> simp [shapes] at listed
  obtain ⟨left, right, belowBefore, belowAfter⟩ := subdocuments_exchange named
    (mem_parts_iff.mpr ⟨shape, listed, held⟩) tagless others inBefore inAfter
  have head : SameConstants (.object before :: left.flatMap preorder)
      (.object after :: left.flatMap preorder) := by
    have constant := others "constantValue" (ne_constantValue listed).symm
    simp [SameConstants, constant]
  have replaced := ReplacesOne.append inside head (rfl : SameConstants (right.flatMap preorder) _)
  have around (members : Members) {document : Json}
      (documents : (Json.object members).subdocuments = left ++ document :: right) :
      preorder (.object members) =
        (.object members :: left.flatMap preorder) ++ preorder document ++
          right.flatMap preorder := by
    rw [preorder_eq_cons, documents, List.flatMap_append, List.flatMap_cons]
    simp
  change ReplacesOne _ _ (preorder (.object before)) (preorder (.object after))
  rw [around before belowBefore, around after belowAfter]
  exact replaced

/-- The body of a block is exchanged. -/
theorem replaces_blockEntry {below above : Members}
    (held : before.lookup "body" = some (.object below))
    (set : after.lookup "body" = some (.object above))
    (inside : Record.operation.Replaces old new below above) :
    Record.blockEntry.Replaces old new before after := by
  change ReplacesOne _ _ (blockOperations (.object before)) (blockOperations (.object after))
  rw [blockOperations, blockOperations, member?_object, member?_object, held, set]
  exact inside

/-- A block of a snapshot is exchanged. -/
theorem replaces_snapshot {below above : Members} {front back : List Json}
    (held : before.lookup "operationBlocks" = some (.array (front ++ .object below :: back)))
    (set : after.lookup "operationBlocks" = some (.array (front ++ .object above :: back)))
    (inside : Record.blockEntry.Replaces old new below above) :
    Record.snapshot.Replaces old new before after := by
  have same (documents : List Json) : SameConstants documents documents := rfl
  have replaced := ReplacesOne.append inside (same (front.flatMap blockOperations))
    (same (back.flatMap blockOperations))
  change ReplacesOne _ _ (allOperations (.object before)) (allOperations (.object after))
  rw [allOperations, allOperations, entries, entries, member?_object, member?_object, held, set]
  simpa using replaced

/-- Records with operations in them. -/
def Record.holdsOperations : Record → Bool
  | snapshot => true
  | blockEntry => true
  | operation => true
  | _ => false

@[inherit_doc Record.holdsOperations]
def Content.holdsOperations : Content → Bool
  | .plain => false
  | .record inner => inner.holdsOperations
  | .list inner => inner.holdsOperations

theorem holdsOperations_of_replaces {record : Record}
    (replaces : record.Replaces old new before after) : record.holdsOperations = true := by
  cases record with
  | snapshot | blockEntry | operation => rfl
  | _ => cases replaces

/-- Where operations stand: in blocks, in the list of blocks, and in other operations. -/
theorem slot_of_holdsOperations {record : Record} {slots : List Slot} {slot : Slot}
    (declares : record.slots? before = some slots) (listed : slot ∈ slots)
    (holds : slot.content.holdsOperations = true) :
    (record = .snapshot ∧ slot.name = "operationBlocks" ∧ slot.content = .list .blockEntry) ∨
    (record = .blockEntry ∧ slot.name = "body" ∧ slot.content = .record .operation) ∨
    ∃ kind shape arity, record = .operation ∧ Kind.ofMembers? before = some kind ∧
      (slot.name, shape) ∈ shapes kind ∧ shape.arity? = some arity ∧
      (slot.content = .record .operation ∧ arity ≠ .many ∨
        slot.content = .list .operation ∧ arity = .many) := by
  cases record with
  | operation =>
    obtain ⟨kind, named, rfl⟩ := Option.map_eq_some_iff.mp declares
    rcases List.mem_append.mp listed with common | own
    · have bare : ∀ slot ∈ commonSlots, slot.content.holdsOperations = false := by
        simp [commonSlots, Content.holdsOperations, Record.holdsOperations]
      cases (bare slot common).symm.trans holds
    · obtain ⟨⟨name, shape⟩, member, rfl⟩ := List.mem_map.mp own
      refine Or.inr (Or.inr ?_)
      cases shape with
      | text => cases holds
      | optionalText => cases holds
      | operation => exact ⟨kind, _, .one, rfl, named, member, rfl, Or.inl ⟨rfl, by decide⟩⟩
      | optionalOperation =>
        exact ⟨kind, _, .optional, rfl, named, member, rfl, Or.inl ⟨rfl, by decide⟩⟩
      | operations => exact ⟨kind, _, .many, rfl, named, member, rfl, Or.inr ⟨rfl, rfl⟩⟩
      | optionalOperations => exact ⟨kind, _, .many, rfl, named, member, rfl, Or.inr ⟨rfl, rfl⟩⟩
  | _ =>
    cases declares
    revert holds
    revert listed
    revert slot
    simp [Content.holdsOperations, Record.holdsOperations]

theorem partOperations_of_object {members below : Members} {name : String} {arity : Arity}
    (held : members.lookup name = some (.object below)) (single : arity ≠ .many) :
    partOperations members (name, arity) = [] ++ .object below :: [] := by
  cases arity with
  | many => exact absurd rfl single
  | _ => simp [partOperations, held]

theorem partOperations_of_array {members : Members} {values : List Json} {name : String}
    (held : members.lookup name = some (.array values)) :
    partOperations members (name, .many) = values := by
  simp [partOperations, held]

/-- Around an operation that gains the constant null, its document is replaced in all records. -/
theorem Exchange.replaces {outer : Record}
    (exchange : Exchange .operation old new outer before after) (gains : GainsNull old new) :
    outer.Replaces old new before after := by
  induction exchange with
  | whole => exact replaces_whole gains
  | member declares listed content others held set _ ih =>
    have holds : Content.holdsOperations (.record _) = true := holdsOperations_of_replaces ih
    rw [← content] at holds
    rcases slot_of_holdsOperations declares listed holds with
      ⟨rfl, name, list⟩ | ⟨rfl, name, body⟩ | ⟨kind, shape, arity, rfl, named, member, arityHeld,
        ⟨record, single⟩ | ⟨list, _⟩⟩
    · cases content.symm.trans list
    · cases content.symm.trans body
      exact replaces_blockEntry (name ▸ held) (name ▸ set) ih
    · cases content.symm.trans record
      exact replaces_operation named member arityHeld others
        (partOperations_of_object held single) (partOperations_of_object set single) ih
    · cases content.symm.trans list
  | element declares listed content others held set _ ih =>
    have holds : Content.holdsOperations (.list _) = true := holdsOperations_of_replaces ih
    rw [← content] at holds
    rcases slot_of_holdsOperations declares listed holds with
      ⟨rfl, name, list⟩ | ⟨rfl, name, body⟩ | ⟨kind, shape, arity, rfl, named, member, arityHeld,
        ⟨record, _⟩ | ⟨list, rfl⟩⟩
    · cases content.symm.trans list
      exact replaces_snapshot (name ▸ held) (name ▸ set) ih
    · cases content.symm.trans body
    · cases content.symm.trans record
    · cases content.symm.trans list
      exact replaces_operation named member arityHeld others (partOperations_of_array held)
        (partOperations_of_array set) ih

end Grammar

open Grammar

/-! ### Compilations -/

namespace Compilation

/-- All operations, block by block in pre-order. -/
def operations (compilation : Compilation) : List BoundOperation :=
  compilation.blocks.flatMap (·.body.descendantsAndSelf)

/-- The operations of a compilation are described one by one by the documents. -/
theorem forall₂_operations {document : Json} {source : Option String} {compilation : Compilation}
    (accepted : Compilation.ofJson document source = .ok compilation) :
    List.Forall₂ Naming.bound.Describes (allOperations document) compilation.operations := by
  refine forall₂_flatMap_of_mem (described_of_ofJson accepted).blocks ?_
  intro entry block _ about
  obtain ⟨body, found, denoted⟩ := about.body
  rw [Json.blockOperations, found]
  exact denoted.preorder.imp fun _ _ inner => inner.describes

/-- The second compilation is the first one with the constant null for an operation that had none.
The operation is known by its document in either snapshot. -/
structure GainsNull (old new : Json) (compilation changed : Compilation) : Prop where
  others : changed.withoutConstants = compilation.withoutConstants
  operation : ∃ front operation back changedFront changedOperation changedBack,
    compilation.operations = front ++ operation :: back ∧
    changed.operations = changedFront ++ changedOperation :: changedBack ∧
    Naming.bound.Describes old operation ∧ operation.info.constant = none ∧
    Naming.bound.Describes new changedOperation ∧
      changedOperation.info.constant = some .null ∧
    changedFront.map (·.info.constant) = front.map (·.info.constant) ∧
    changedBack.map (·.info.constant) = back.map (·.info.constant)

theorem constants_eq {documents others : List Json} {operations changed : List BoundOperation}
    (described : List.Forall₂ Naming.bound.Describes documents operations)
    (otherDescribed : List.Forall₂ Naming.bound.Describes others changed)
    (same : SameConstants documents others) :
    changed.map (·.info.constant) = operations.map (·.info.constant) := by
  have written {documents : List Json} {operations : List BoundOperation}
      (described : List.Forall₂ Naming.bound.Describes documents operations) :
      documents.map (·.member? "constantValue") =
        (operations.map (·.info.constant)).map (Option.map Constant.json) := by
    rw [List.map_map]
    exact map_eq_map_of_forall₂ described fun _ _ about => about.constant
  have injective : Function.Injective Constant.json := by
    intro first second same
    cases first <;> cases second <;> simp_all [Constant.json]
  apply List.map_injective_iff.mpr (Option.map_injective injective)
  rw [← written described, ← written otherDescribed]
  exact same.symm

/-- An accepted snapshot stays accepted when an operation gains the constant null. -/
theorem exists_ofJson_of_gainsNull {before after old new : Members} {source : Option String}
    {compilation : Compilation} (exchange : Exchange .operation old new .snapshot before after)
    (gains : Grammar.GainsNull old new)
    (accepted : Compilation.ofJson (.object before) source = .ok compilation) :
    ∃ changed, Compilation.ofJson (.object after) source = .ok changed ∧
      changed.withoutConstants = compilation.withoutConstants := by
  obtain ⟨snapshot, read, stages⟩ := exists_stages_of_ofJson accepted
  have related : Rel (fun first second => first.mapInfo Info.withoutConstant =
      second.mapInfo Info.withoutConstant) (Snapshot.read (.object before))
      (Snapshot.read (.object after)) := exchange.agree gains.agree
  rw [read] at related
  generalize edited : Snapshot.read (.object after) = reading at related
  cases related with
  | valid same =>
    obtain ⟨changed, bound, alike⟩ :=
      Snapshot.exists_bind_of_mapInfo_eq same (Snapshot.bind_eq_ok.mpr stages)
    refine ⟨changed, ?_, alike⟩
    simp only [Compilation.ofJson, edited, bound]

/-- Neutral edits of a snapshot, as many as one likes and in both directions, change nothing: the
same compilation comes out, or the same error. There is a neutral value for every member that may be
missing, except for constants. The constant null is no neutral value: if an operation of an accepted
snapshot gains it, the snapshot stays accepted, and the only thing that changes is that the
operation has the constant null where it had none. -/
theorem ofJson_ignores_edits :
    (∀ document edited, Relation.EqvGen NeutralEdit document edited → ∀ source,
      Compilation.ofJson edited source = Compilation.ofJson document source) ∧
    (∀ record members slots, Record.Accepts members record → record.slots? members = some slots →
      ∀ slot ∈ slots, members.lookup slot.name = none → record.MayLack slot) ∧
    ∀ before after old new, Exchange .operation old new .snapshot before after →
      Grammar.GainsNull old new → ∀ source compilation,
      Compilation.ofJson (.object before) source = .ok compilation →
      ∃ changed, Compilation.ofJson (.object after) source = .ok changed ∧
        GainsNull (.object old) (.object new) compilation changed := by
  refine ⟨?_, ?_, ?_⟩
  · intro document edited edits source
    rw [Compilation.ofJson, Compilation.ofJson, read_eq_of_edits edits]
  · intro record members slots accepted declares
    exact mayLack_of_accepts accepted declares
  · intro before after old new exchange gains source compilation accepted
    obtain ⟨changed, alsoAccepted, alike⟩ := exists_ofJson_of_gainsNull exchange gains accepted
    refine ⟨changed, alsoAccepted, alike, ?_⟩
    obtain ⟨front, back, otherFront, otherBack, documents, others, sameFront, sameBack⟩ :=
      exchange.replaces gains
    -- The operations of both compilations are split where their documents are.
    have described := forall₂_operations accepted
    have otherDescribed := forall₂_operations alsoAccepted
    rw [documents] at described
    rw [others] at otherDescribed
    obtain ⟨left, operation, right, split, atLeft, about, atRight⟩ :=
      exists_split_of_forall₂ described
    obtain ⟨otherLeft, otherOperation, otherRight, otherSplit, atOtherLeft, otherAbout,
      atOtherRight⟩ := exists_split_of_forall₂ otherDescribed
    refine ⟨left, operation, right, otherLeft, otherOperation, otherRight, split, otherSplit, about,
      ?_, otherAbout, ?_, constants_eq atLeft atOtherLeft sameFront,
      constants_eq atRight atOtherRight sameBack⟩
    · have written := about.constant
      rw [member?_object, gains.absent] at written
      exact Option.map_eq_none_iff.mp written.symm
    · have written := otherAbout.constant
      rw [member?_object, gains.set] at written
      obtain ⟨constant, found, null⟩ := Option.map_eq_some_iff.mp written.symm
      cases constant <;> cases null
      exact found

/-- The members of a literal, with more members behind. -/
def literalMembers (more : Members) : Members :=
  [("kind", .string "Literal"), ("location", .fileStart)] ++ more

/-- The members of a block around a literal. -/
def literalBody (literal : Members) : Members :=
  [("kind", .string "Block"), ("location", .fileStart),
    ("operations", .array [.object literal])]

/-- A snapshot with a literal in its only block, and more members behind. -/
def literalSnapshot (literal more : Members) : Members :=
  [("assemblyName", .string "App"),
    ("types", .array
      [.object [("metadataName", .string "Program"), ("typeKind", .string "class")]]),
    ("methods", .array [.object [("id", .string "main"), ("name", .string "Main"),
      ("containingType", .string "Program")]]),
    ("operationBlocks", .array [.object [("owner", .string "main"),
      ("body", .object (literalBody literal))]])] ++ more

/-- The literal is exchanged for another operation. -/
theorem exchange_literal (old new : Members) :
    Exchange .operation old new .snapshot (literalSnapshot old []) (literalSnapshot new []) := by
  -- From the inside out: the list in the body, the block, the list of blocks.
  have inBody : Exchange .operation old new .operation (literalBody old) (literalBody new) := by
    have declares : Record.operation.slots? (literalBody old) =
        some (commonSlots ++ [⟨"operations", .list .operation, none⟩]) := rfl
    have held (literal : Members) : (literalBody literal).lookup "operations" =
        some (.array ([] ++ .object literal :: [])) := rfl
    exact .element declares (List.mem_append_right _ List.mem_cons_self) rfl
      (sameExcept_set _ _ _ [_, _] []) (held old) (held new) .whole
  have inBlock : Exchange .operation old new .blockEntry
      [("owner", .string "main"), ("body", .object (literalBody old))]
      [("owner", .string "main"), ("body", .object (literalBody new))] := by
    have listed : (⟨"body", .record .operation, none⟩ : Slot) ∈
        (Record.blockEntry.slots? []).getD [] := by
      simp [Record.slots?]
    exact .member rfl listed rfl (sameExcept_set _ _ _ [_] []) rfl rfl inBody
  have listed : (⟨"operationBlocks", .list .blockEntry, some (.array [])⟩ : Slot) ∈
      (Record.snapshot.slots? []).getD [] := by
    simp [Record.slots?]
  have held (literal : Members) : (literalSnapshot literal []).lookup "operationBlocks" =
      some (.array ([] ++ .object [("owner", .string "main"),
        ("body", .object (literalBody literal))] :: [])) := rfl
  exact .element rfl listed rfl (sameExcept_set _ _ _ [_, _, _] []) (held old) (held new) inBlock

theorem ofJson_ignores_edits_literal : ∃ compilation changed,
    Compilation.ofJson (.object (literalSnapshot (literalMembers []) [])) none = .ok compilation ∧
    Compilation.ofJson (.object (literalSnapshot (literalMembers [])
      [("fields", .array []), ("comment", .string "generated")])) none = .ok compilation ∧
    Compilation.ofJson (.object (literalSnapshot (literalMembers [("constantValue", .null)]) []))
      none = .ok changed ∧
    GainsNull (.object (literalMembers [])) (.object (literalMembers [("constantValue", .null)]))
      compilation changed ∧
    ∀ slot ∈ commonSlots, (literalMembers []).lookup slot.name = none →
      Record.operation.MayLack slot := by
  obtain ⟨compilation, accepted⟩ : ∃ compilation,
      Compilation.ofJson (.object (literalSnapshot (literalMembers []) [])) none =
        .ok compilation := ⟨_, rfl⟩
  have fields : NeutralEdit (.object (literalSnapshot (literalMembers []) []))
      (.object (literalSnapshot (literalMembers []) [("fields", .array [])])) := by
    have listed : (⟨"fields", .list .fieldEntry, some (.array [])⟩ : Slot) ∈
        (Record.snapshot.slots? []).getD [] := by
      simp [Record.slots?]
    exact .intro .whole (.default rfl listed rfl (sameExcept_insert _ _ _ []) rfl rfl)
  have comment : NeutralEdit
      (.object (literalSnapshot (literalMembers []) [("fields", .array [])]))
      (.object (literalSnapshot (literalMembers [])
        [("fields", .array []), ("comment", .string "generated")])) := by
    have added := sameExcept_insert "comment" (.string "generated")
      (literalSnapshot (literalMembers []) [("fields", .array [])]) []
    exact .intro .whole (.noise rfl (by decide) added)
  have gains : Grammar.GainsNull (literalMembers []) (literalMembers [("constantValue", .null)]) :=
    ⟨⟨.literal, by decide⟩, sameExcept_insert _ _ _ [], rfl, rfl⟩
  have literal : Record.operation.Accepts (literalMembers []) := ⟨_, rfl⟩
  have declares : Record.operation.slots? (literalMembers []) = some (commonSlots ++ []) := rfl
  obtain ⟨neutral, missing, exception⟩ := ofJson_ignores_edits
  obtain ⟨changed, alsoAccepted, gained⟩ :=
    exception _ _ _ _ (exchange_literal _ _) gains none compilation accepted
  refine ⟨compilation, changed, accepted, ?_, alsoAccepted, gained, ?_⟩
  · rw [neutral _ _ (.trans _ _ _ (.rel _ _ fields) (.rel _ _ comment)) none, accepted]
  · exact missing _ _ _ literal declares

end Compilation

end OperationLint
