import OperationLint.Proofs.ErasedConstants
import OperationLint.Proofs.Grammar

/-!
# Edits of snapshots

A snapshot is made of records, each with the members that its kind of record declares: what stands
in a member, and the neutral value that a missing one stands for. An edit exchanges one record, at
any depth, for another one.

## Main result

`Exchange.agree`: if two records are read alike, so are all records around them. Alike means equal,
up to a change of the data of operations that both readings are free of.

## Proof strategy

Every reader asks for members by name. So it is enough to compare two records slot by slot
(`Slot.Alike`): the same value, a neutral value for a missing one, or values with records in them
that are read alike. Readings are compared by `Validation.Rel`, which goes with the way readers are
put together.
-/

namespace OperationLint

open Json Schema Schema.Validation

/-! ### Related readings -/

namespace Schema.Validation

variable {α β : Type} {R : α → α → Prop} {S : β → β → Prop}

/-- Both readings fail with the same issues, or both give values that are related. -/
inductive Rel (R : α → α → Prop) : Validation α → Validation α → Prop
  | valid {first second : α} (related : R first second) : Rel R (valid first) (valid second)
  | invalid (issues : List Issue) : Rel R (invalid issues) (invalid issues)

theorem Rel.refl (refl : ∀ value, R value value) (reading : Validation α) :
    Rel R reading reading := by
  cases reading with
  | valid value => exact .valid (refl value)
  | invalid issues => exact .invalid issues

theorem Rel.refl_eq (reading : Validation α) : Rel Eq reading reading :=
  .refl (fun _ => rfl) reading

theorem Rel.eq {first second : Validation α} (related : Rel Eq first second) : first = second := by
  cases related with
  | valid same => rw [same]
  | invalid issues => rfl

theorem Rel.map {first second : Validation α} (related : Rel R first second) {f g : α → β}
    (each : ∀ a b, R a b → S (f a) (g b)) : Rel S (f <$> first) (g <$> second) := by
  cases related with
  | valid same => exact .valid (each _ _ same)
  | invalid issues => exact .invalid issues

theorem Rel.mono {R' : α → α → Prop} {first second : Validation α} (related : Rel R first second)
    (weaker : ∀ a b, R a b → R' a b) : Rel R' first second := by
  cases related with
  | valid same => exact .valid (weaker _ _ same)
  | invalid issues => exact .invalid issues

theorem Rel.seq {f g : Validation (α → β)} {first second : Validation α}
    (functions : Rel (fun f g => ∀ a b, R a b → S (f a) (g b)) f g)
    (related : Rel R first second) : Rel S (f <*> first) (g <*> second) := by
  cases functions with
  | valid each =>
    cases related with
    | valid same => exact .valid (each _ _ same)
    | invalid issues => exact .invalid issues
  | invalid issues =>
    cases related with
    | valid same => exact .invalid issues
    | invalid more => exact .invalid (issues ++ more)

theorem Rel.under {first second : Validation α} (related : Rel R first second) (step : Step) :
    Rel R (first.under step) (second.under step) := by
  cases related with
  | valid same => exact .valid same
  | invalid issues => exact .invalid _

end Schema.Validation

/-! ### Records and their members -/

namespace Grammar

/-- The objects that a snapshot is made of. -/
inductive Record where
  | snapshot
  | typeEntry
  | methodEntry
  | parameter
  | dllImport
  | fieldEntry
  | blockEntry
  | location
  | operation

/-- What stands in a member of a record. -/
inductive Content where
  /-- Values without records in them. -/
  | plain
  | record (record : Record)
  | list (record : Record)

/-- A member that a record declares, with the value that stands for a missing one. -/
structure Slot where
  name : String
  content : Content
  neutral : Option Json

/-- What stands in a member of a shape. -/
def Shape.content : Shape → Content
  | text => .plain
  | optionalText => .plain
  | operation => .record .operation
  | optionalOperation => .record .operation
  | operations => .list .operation
  | optionalOperations => .list .operation

/-- What stands for a missing member of a shape. -/
def Shape.neutral : Shape → Option Json
  | text => none
  | optionalText => some .null
  | operation => none
  | optionalOperation => some .null
  | operations => none
  | optionalOperations => some (.array [])

/-- The members that operations of all kinds declare. A constant may be missing, but no value
stands for that: null is a constant. -/
def commonSlots : List Slot :=
  [⟨"kind", .plain, none⟩, ⟨"type", .plain, some .null⟩, ⟨"constantValue", .plain, none⟩,
    ⟨"isImplicit", .plain, some (.bool false)⟩, ⟨"location", .record .location, none⟩]

/-- The members that a record declares. For an operation this depends on its kind, which has to be a
valid one. -/
def Record.slots? (members : Members) : Record → Option (List Slot)
  | snapshot => some
    [⟨"assemblyName", .plain, none⟩, ⟨"types", .list .typeEntry, none⟩,
      ⟨"methods", .list .methodEntry, some (.array [])⟩,
      ⟨"fields", .list .fieldEntry, some (.array [])⟩,
      ⟨"operationBlocks", .list .blockEntry, some (.array [])⟩]
  | typeEntry => some
    [⟨"metadataName", .plain, none⟩, ⟨"typeKind", .plain, none⟩,
      ⟨"specialType", .plain, some (.string "None")⟩, ⟨"baseType", .plain, some .null⟩,
      ⟨"interfaces", .plain, some (.array [])⟩, ⟨"locations", .list .location, some (.array [])⟩]
  | methodEntry => some
    [⟨"id", .plain, none⟩, ⟨"name", .plain, none⟩, ⟨"containingType", .plain, none⟩,
      ⟨"methodKind", .plain, some (.string "ordinary")⟩, ⟨"returnType", .plain, some .null⟩,
      ⟨"parameters", .list .parameter, some (.array [])⟩,
      ⟨"isStatic", .plain, some (.bool false)⟩, ⟨"dllImport", .record .dllImport, some .null⟩]
  | parameter => some [⟨"name", .plain, none⟩, ⟨"type", .plain, none⟩]
  | dllImport => some [⟨"moduleName", .plain, none⟩, ⟨"entryPoint", .plain, some .null⟩]
  | fieldEntry => some
    [⟨"id", .plain, none⟩, ⟨"name", .plain, none⟩, ⟨"containingType", .plain, none⟩,
      ⟨"type", .plain, none⟩, ⟨"isStatic", .plain, some (.bool false)⟩]
  | blockEntry => some
    [⟨"owner", .plain, none⟩, ⟨"isGenerated", .plain, some (.bool false)⟩,
      ⟨"body", .record .operation, none⟩]
  | location => some
    [⟨"path", .plain, none⟩, ⟨"startLine", .plain, none⟩, ⟨"startColumn", .plain, none⟩,
      ⟨"endLine", .plain, none⟩, ⟨"endColumn", .plain, none⟩]
  | operation => (Kind.ofMembers? members).map fun kind =>
    commonSlots ++ (shapes kind).map fun member =>
      ⟨member.1, member.2.content, member.2.neutral⟩

/-- Two objects have the same members, except perhaps those of one name. -/
def SameExcept (name : String) (before after : Members) : Prop :=
  ∀ other, other ≠ name → after.lookup other = before.lookup other

/-- The second record is the first one with a record in it, at any depth, exchanged for another one.
A record may also be exchanged as a whole. -/
inductive Exchange (inner : Record) (old new : Members) : Record → Members → Members → Prop
  | whole : Exchange inner old new inner old new
  | member {outer middle : Record} {before after below above : Members} {slots : List Slot}
      {slot : Slot} (declares : outer.slots? before = some slots) (listed : slot ∈ slots)
      (content : slot.content = .record middle) (others : SameExcept slot.name before after)
      (held : before.lookup slot.name = some (.object below))
      (set : after.lookup slot.name = some (.object above))
      (inside : Exchange inner old new middle below above) :
      Exchange inner old new outer before after
  | element {outer middle : Record} {before after below above : Members} {slots : List Slot}
      {slot : Slot} {front back : List Json} (declares : outer.slots? before = some slots)
      (listed : slot ∈ slots) (content : slot.content = .list middle)
      (others : SameExcept slot.name before after)
      (held : before.lookup slot.name = some (.array (front ++ .object below :: back)))
      (set : after.lookup slot.name = some (.array (front ++ .object above :: back)))
      (inside : Exchange inner old new middle below above) :
      Exchange inner old new outer before after

/-! ### Records that are read alike -/

variable {f : Info String → Info String}

/-- Two records are read alike, up to a change of the data of operations. -/
def Record.Agree (f : Info String → Info String) (before after : Members) : Record → Prop
  | snapshot => Rel (fun first second => first.mapInfo f = second.mapInfo f)
    (Snapshot.ofMembers before) (Snapshot.ofMembers after)
  | typeEntry => TypeEntry.ofMembers before = TypeEntry.ofMembers after
  | methodEntry => Method.ofMembers before = Method.ofMembers after
  | parameter => Parameter.ofMembers before = Parameter.ofMembers after
  | dllImport => DllImport.ofMembers before = DllImport.ofMembers after
  | fieldEntry => Field.ofMembers before = Field.ofMembers after
  | blockEntry => Rel (fun first second => first.mapInfo f = second.mapInfo f)
    (CodeBlock.ofMembers before) (CodeBlock.ofMembers after)
  | location => Location.ofMembers before = Location.ofMembers after
  | operation => Rel (fun first second => first.mapInfo f = second.mapInfo f)
    (Operation.read (.object before)) (Operation.read (.object after))

/-- Two values have records in the same place that are read alike. -/
inductive Content.Alike (f : Info String → Info String) : Content → Json → Json → Prop
  | record {record : Record} {below above : Members} (agree : record.Agree f below above) :
      Content.Alike f (.record record) (.object below) (.object above)
  | list {record : Record} {below above : Members} (front back : List Json)
      (agree : record.Agree f below above) :
      Content.Alike f (.list record) (.array (front ++ .object below :: back))
        (.array (front ++ .object above :: back))

/-- What may stand in a slot before and after. -/
inductive Slot.Alike (f : Info String → Info String) (slot : Slot) :
    Option Json → Option Json → Prop
  | same (held : Option Json) : Slot.Alike f slot held held
  | neutral {value : Json} (stands : slot.neutral = some value) :
      Slot.Alike f slot none (some value)
  | inside {below above : Json} (alike : slot.content.Alike f below above) :
      Slot.Alike f slot (some below) (some above)

/-- A reader gives related values for what a content admits. -/
def Content.Respects {α : Type} (f : Info String → Info String) (content : Content)
    (R : α → α → Prop) (read : Json → Validation α) : Prop :=
  ∀ below above, content.Alike f below above → Rel R (read below) (read above)

section Readers

variable {α : Type} {R : α → α → Prop} {read : Json → Validation α} {record : Record}

theorem respects_plain : Content.plain.Respects f R read := by
  rintro _ _ ⟨⟩

theorem respects_object {ofMembers : Members → Validation α}
    (each : ∀ below above, record.Agree f below above → Rel R (ofMembers below) (ofMembers above)) :
    (Content.record record).Respects f R (object ofMembers) := by
  rintro _ _ ⟨agree⟩
  exact each _ _ agree

theorem elements_rel (refl : ∀ value, R value value) {below above : Json}
    (related : Rel R (read below) (read above)) (position : Nat) (front back : List Json) :
    Rel (List.Forall₂ R) (elements read position (front ++ below :: back))
      (elements read position (front ++ above :: back)) := by
  have rest (position : Nat) (values : List Json) :
      Rel (List.Forall₂ R) (elements read position values) (elements read position values) :=
    .refl (fun values => List.forall₂_same.mpr fun value _ => refl value) _
  induction front generalizing position with
  | nil =>
    rw [List.nil_append, List.nil_append, elements, elements]
    apply Rel.seq _ (rest _ back)
    exact (related.under _).map fun _ _ first _ _ others => .cons first others
  | cons value front ih =>
    rw [List.cons_append, List.cons_append, elements, elements]
    apply Rel.seq _ (ih (position + 1))
    exact (Rel.refl refl (under _ (read value))).map fun _ _ first _ _ others => .cons first others

theorem respects_array (inner : (Content.record record).Respects f R read)
    (refl : ∀ value, R value value) :
    (Content.list record).Respects f (List.Forall₂ R) (array read) := by
  intro _ _ alike
  cases alike with
  | list front back agree => exact elements_rel refl (inner _ _ (.record agree)) 0 front back

theorem respects_list_eq {ofMembers : Members → Validation α}
    (each : ∀ below above, record.Agree f below above → ofMembers below = ofMembers above) :
    (Content.list record).Respects f Eq (array (object ofMembers)) := by
  have object : (Content.record record).Respects f Eq (object ofMembers) :=
    respects_object fun below above agree => each below above agree ▸ .refl_eq _
  have array := respects_array object fun _ => rfl
  rwa [List.forall₂_eq_eq_eq] at array

variable {slot : Slot} {before after : Members}

/-- A slot for plain values that no value stands for. -/
theorem Slot.Alike.lookup_eq
    (alike : slot.Alike f (before.lookup slot.name) (after.lookup slot.name))
    (plain : slot.content = .plain) (rigid : slot.neutral = none) :
    before.lookup slot.name = after.lookup slot.name := by
  generalize before.lookup slot.name = held, after.lookup slot.name = set at alike
  cases alike with
  | same => rfl
  | neutral stands => cases rigid.symm.trans stands
  | inside alike =>
    rw [plain] at alike
    cases alike

theorem required_rel (alike : slot.Alike f (before.lookup slot.name) (after.lookup slot.name))
    (rigid : slot.neutral = none) (respects : slot.content.Respects f R read)
    (refl : ∀ value, R value value) :
    Rel R (required slot.name read before) (required slot.name read after) := by
  unfold required
  generalize before.lookup slot.name = held, after.lookup slot.name = set at alike
  cases alike with
  | same => exact .refl refl _
  | neutral stands => cases rigid.symm.trans stands
  | inside alike => exact (respects _ _ alike).under _

theorem withDefault_rel {default : α}
    (alike : slot.Alike f (before.lookup slot.name) (after.lookup slot.name))
    (stands : slot.neutral.map read = some (valid default))
    (respects : slot.content.Respects f R read) (refl : ∀ value, R value value) :
    Rel R (withDefault slot.name default read before)
      (withDefault slot.name default read after) := by
  unfold withDefault
  generalize before.lookup slot.name = held, after.lookup slot.name = set at alike
  cases alike with
  | same => exact .refl refl _
  | neutral neutral =>
    rw [neutral] at stands
    dsimp only
    rw [Option.some.inj stands]
    exact .valid (refl default)
  | inside alike => exact (respects _ _ alike).under _

theorem required_eq (alike : slot.Alike f (before.lookup slot.name) (after.lookup slot.name))
    (rigid : slot.neutral = none) (respects : slot.content.Respects f Eq read) :
    required slot.name read before = required slot.name read after :=
  (required_rel alike rigid respects fun _ => rfl).eq

theorem withDefault_eq {default : α}
    (alike : slot.Alike f (before.lookup slot.name) (after.lookup slot.name))
    (stands : slot.neutral.map read = some (valid default))
    (respects : slot.content.Respects f Eq read) :
    withDefault slot.name default read before = withDefault slot.name default read after :=
  (withDefault_rel alike stands respects fun _ => rfl).eq

/-- A text that may be missing or null. -/
theorem optional_text_eq (alike : slot.Alike f (before.lookup slot.name) (after.lookup slot.name))
    (plain : slot.content = .plain) (stands : slot.neutral = some .null) :
    Option.join <$> Schema.optional slot.name (nullable string) before =
      Option.join <$> Schema.optional slot.name (nullable string) after := by
  unfold Schema.optional
  generalize before.lookup slot.name = held, after.lookup slot.name = set at alike
  cases alike with
  | same => rfl
  | neutral neutral =>
    cases Option.some.inj (stands.symm.trans neutral)
    rfl
  | inside alike =>
    rw [plain] at alike
    cases alike

end Readers

/-! ### Record by record -/

section Records

variable {before after : Members} {slots : List Slot}

/-- All slots of a record agree. -/
def SlotsAlike (f : Info String → Info String) (slots : List Slot) (before after : Members) :
    Prop :=
  ∀ slot ∈ slots, slot.Alike f (before.lookup slot.name) (after.lookup slot.name)

theorem agree_location (declares : Record.location.slots? before = some slots)
    (alike : SlotsAlike f slots before after) :
    Location.ofMembers before = Location.ofMembers after := by
  cases declares
  simp only [SlotsAlike, List.forall_mem_cons] at alike
  obtain ⟨path, startLine, startColumn, endLine, endColumn, _⟩ := alike
  unfold Location.ofMembers
  rw [required_eq path rfl respects_plain, required_eq startLine rfl respects_plain,
    required_eq startColumn rfl respects_plain, required_eq endLine rfl respects_plain,
    required_eq endColumn rfl respects_plain]

theorem agree_typeEntry (declares : Record.typeEntry.slots? before = some slots)
    (alike : SlotsAlike f slots before after) :
    TypeEntry.ofMembers before = TypeEntry.ofMembers after := by
  cases declares
  simp only [SlotsAlike, List.forall_mem_cons] at alike
  obtain ⟨metadataName, typeKind, specialType, baseType, interfaces, locations, _⟩ := alike
  have places : (Content.list .location).Respects f Eq (array Location.read) :=
    respects_list_eq fun _ _ agree => agree
  unfold TypeEntry.ofMembers
  rw [required_eq metadataName rfl respects_plain, required_eq typeKind rfl respects_plain,
    withDefault_eq specialType (by rfl) respects_plain,
    withDefault_eq baseType (by rfl) respects_plain,
    withDefault_eq interfaces (by rfl) respects_plain,
    withDefault_eq locations (by rfl) places]

theorem agree_parameter (declares : Record.parameter.slots? before = some slots)
    (alike : SlotsAlike f slots before after) :
    Parameter.ofMembers before = Parameter.ofMembers after := by
  cases declares
  simp only [SlotsAlike, List.forall_mem_cons] at alike
  obtain ⟨name, type, _⟩ := alike
  unfold Parameter.ofMembers
  rw [required_eq name rfl respects_plain, required_eq type rfl respects_plain]

theorem agree_dllImport (declares : Record.dllImport.slots? before = some slots)
    (alike : SlotsAlike f slots before after) :
    DllImport.ofMembers before = DllImport.ofMembers after := by
  cases declares
  simp only [SlotsAlike, List.forall_mem_cons] at alike
  obtain ⟨moduleName, entryPoint, _⟩ := alike
  unfold DllImport.ofMembers
  rw [required_eq moduleName rfl respects_plain,
    withDefault_eq entryPoint (by rfl) respects_plain]

theorem agree_methodEntry (declares : Record.methodEntry.slots? before = some slots)
    (alike : SlotsAlike f slots before after) :
    Method.ofMembers before = Method.ofMembers after := by
  cases declares
  simp only [SlotsAlike, List.forall_mem_cons] at alike
  obtain ⟨id, name, containingType, methodKind, returnType, parameters, isStatic, dllImport, _⟩ :=
    alike
  have nullable : (Content.record .dllImport).Respects f Eq
      (nullable (object DllImport.ofMembers)) := by
    rintro _ _ ⟨agree⟩
    have same : DllImport.ofMembers _ = DllImport.ofMembers _ := agree
    simp only [Schema.nullable, Schema.object, same]
    exact .refl_eq _
  have listed : (Content.list .parameter).Respects f Eq (array (object Parameter.ofMembers)) :=
    respects_list_eq fun _ _ agree => agree
  unfold Method.ofMembers
  rw [required_eq id rfl respects_plain, required_eq name rfl respects_plain,
    required_eq containingType rfl respects_plain,
    withDefault_eq methodKind (by rfl) respects_plain,
    withDefault_eq returnType (by rfl) respects_plain,
    withDefault_eq parameters (by rfl) listed,
    withDefault_eq isStatic (by rfl) respects_plain,
    withDefault_eq dllImport (by rfl) nullable]

theorem agree_fieldEntry (declares : Record.fieldEntry.slots? before = some slots)
    (alike : SlotsAlike f slots before after) :
    Field.ofMembers before = Field.ofMembers after := by
  cases declares
  simp only [SlotsAlike, List.forall_mem_cons] at alike
  obtain ⟨id, name, containingType, type, isStatic, _⟩ := alike
  unfold Field.ofMembers
  rw [required_eq id rfl respects_plain, required_eq name rfl respects_plain,
    required_eq containingType rfl respects_plain, required_eq type rfl respects_plain,
    withDefault_eq isStatic (by rfl) respects_plain]

theorem respects_operation : (Content.record .operation).Respects f
    (fun first second => first.mapInfo f = second.mapInfo f) Operation.read := by
  rintro _ _ ⟨agree⟩
  exact agree

theorem agree_blockEntry (declares : Record.blockEntry.slots? before = some slots)
    (alike : SlotsAlike f slots before after) : Record.blockEntry.Agree f before after := by
  cases declares
  simp only [SlotsAlike, List.forall_mem_cons] at alike
  obtain ⟨owner, isGenerated, body, _⟩ := alike
  have bodies := required_rel body rfl respects_operation fun _ => rfl
  change Rel _ (CodeBlock.ofMembers before) (CodeBlock.ofMembers after)
  unfold CodeBlock.ofMembers
  rw [required_eq owner rfl respects_plain, withDefault_eq isGenerated (by rfl) respects_plain]
  refine Rel.seq (Rel.seq (Rel.map (Rel.refl_eq _) ?_) (Rel.refl_eq _)) bodies
  rintro owner _ rfl isGenerated _ rfl first second same
  simp only [CodeBlock.mapInfo, same]

theorem agree_snapshot (declares : Record.snapshot.slots? before = some slots)
    (alike : SlotsAlike f slots before after) : Record.snapshot.Agree f before after := by
  cases declares
  simp only [SlotsAlike, List.forall_mem_cons] at alike
  obtain ⟨assemblyName, types, methods, fields, operationBlocks, _⟩ := alike
  have blocks : (Content.list .blockEntry).Respects f
      (List.Forall₂ fun first second => first.mapInfo f = second.mapInfo f)
      (array (object CodeBlock.ofMembers)) :=
    respects_array (respects_object fun _ _ agree => agree) fun _ => rfl
  have typeEntries : (Content.list .typeEntry).Respects f Eq (array (object TypeEntry.ofMembers)) :=
    respects_list_eq fun _ _ agree => agree
  have methodEntries :
      (Content.list .methodEntry).Respects f Eq (array (object Method.ofMembers)) :=
    respects_list_eq fun _ _ agree => agree
  have fieldEntries : (Content.list .fieldEntry).Respects f Eq (array (object Field.ofMembers)) :=
    respects_list_eq fun _ _ agree => agree
  have stands : array (object CodeBlock.ofMembers) (.array []) = valid [] := rfl
  have tables := withDefault_rel operationBlocks (congrArg some stands) blocks
    fun _ => List.forall₂_same.mpr fun _ _ => rfl
  change Rel _ (Snapshot.ofMembers before) (Snapshot.ofMembers after)
  unfold Snapshot.ofMembers
  rw [required_eq assemblyName rfl respects_plain,
    required_eq types rfl typeEntries, withDefault_eq methods (by rfl) methodEntries,
    withDefault_eq fields (by rfl) fieldEntries]
  refine Rel.seq (Rel.seq (Rel.seq (Rel.seq (Rel.map (Rel.refl_eq _) ?_) (Rel.refl_eq _))
    (Rel.refl_eq _)) (Rel.refl_eq _)) tables
  rintro assemblyName _ rfl types _ rfl methods _ rfl fields _ rfl first second same
  simp only [Snapshot.mapInfo, map_eq_map_of_forall₂ same fun _ _ same => same]

/-! ### Operations -/

/-- The kind of an operation depends on its tag alone. -/
theorem ofMembers?_congr (same : after.lookup "kind" = before.lookup "kind") :
    Kind.ofMembers? after = Kind.ofMembers? before := by
  rw [Kind.ofMembers?, Kind.ofMembers?, same]

/-- A member of a shape is read alike in two operations. -/
def Shape.Agrees (f : Info String → Info String) (name : String) (before after : Members) :
    Shape → Prop
  | text => required name string before = required name string after
  | optionalText => Option.join <$> Schema.optional name (nullable string) before =
      Option.join <$> Schema.optional name (nullable string) after
  | operation => Rel (fun first second => first.mapInfo f = second.mapInfo f)
      (Part.required name (Part.readAll before)) (Part.required name (Part.readAll after))
  | optionalOperation =>
    Rel (fun first second => Operation.mapInfoOption f first = Operation.mapInfoOption f second)
      (Part.optional name (Part.readAll before)) (Part.optional name (Part.readAll after))
  | operations =>
    Rel (fun first second => Operation.mapInfoList f first = Operation.mapInfoList f second)
      (Part.requiredList name (Part.readAll before)) (Part.requiredList name (Part.readAll after))
  | optionalOperations =>
    Rel (fun first second => Operation.mapInfoList f first = Operation.mapInfoList f second)
      (Part.optionalList name (Part.readAll before)) (Part.optionalList name (Part.readAll after))

/-- Operations are read alike if their members are. -/
theorem ofParts_rel {kind : Kind}
    (info : Rel (fun first second => f first = f second) (Info.ofMembers before)
      (Info.ofMembers after))
    (own : ∀ member ∈ shapes kind, member.2.Agrees f member.1 before after) :
    Rel (fun first second => first.mapInfo f = second.mapInfo f)
      (Operation.ofParts kind before (Part.readAll before))
      (Operation.ofParts kind after (Part.readAll after)) := by
  cases kind <;> simp only [shapes, List.forall_mem_cons, Shape.Agrees] at own <;>
    simp only [Operation.ofParts]
  -- Texts are the same on both sides, and what is left are the operations.
  case literal | instanceReference =>
    exact info.map fun _ _ data => by simp only [Operation.mapInfo, data]
  case localReference | parameterReference =>
    rw [own.1]
    exact (info.map fun _ _ data _ _ text => by simp only [Operation.mapInfo, data, text]).seq
      (.refl_eq _)
  case block | expressionStatement | returns | throws | conversion | delegateCreation | invalid =>
    exact (info.map fun _ _ data _ _ below => by simp only [Operation.mapInfo, data, below]).seq
      own.1
  case variableDeclaration | fieldReference | objectCreation | anonymousFunction |
      methodReference =>
    rw [own.1]
    exact ((info.map fun _ _ data _ _ text _ _ below => by
      simp only [Operation.mapInfo, data, text, below]).seq (.refl_eq _)).seq own.2.1
  case simpleAssignment =>
    exact ((info.map fun _ _ data _ _ target _ _ value => by
      simp only [Operation.mapInfo, data, target, value]).seq own.1).seq own.2.1
  case conditional =>
    exact (((info.map fun _ _ data _ _ condition _ _ whenTrue _ _ whenFalse => by
      simp only [Operation.mapInfo, data, condition, whenTrue, whenFalse]).seq own.1).seq
        own.2.1).seq own.2.2.1
  case binary | invocation =>
    rw [own.1]
    exact (((info.map fun _ _ data _ _ text _ _ first _ _ second => by
      simp only [Operation.mapInfo, data, text, first, second]).seq (.refl_eq _)).seq own.2.1).seq
        own.2.2.1

theorem respects_operations : (Content.list .operation).Respects f
    (fun first second => Operation.mapInfoList f first = Operation.mapInfoList f second)
    Operation.readList := by
  have listed := respects_array (respects_operation (f := f)) fun _ => rfl
  intro below above alike
  rw [Operation.readList_eq_array, Operation.readList_eq_array]
  apply (listed below above alike).mono
  intro first second same
  rw [Operation.mapInfoList_eq_map, Operation.mapInfoList_eq_map]
  exact map_eq_map_of_forall₂ same fun _ _ same => same

theorem respects_optionalOperation : (Content.record .operation).Respects f
    (fun first second => Operation.mapInfoOption f first = Operation.mapInfoOption f second)
    (nullable Operation.read) := by
  rintro _ _ ⟨agree⟩
  have related : Rel _ (Operation.read _) (Operation.read _) := agree
  exact related.map fun _ _ same => by rw [Operation.mapInfoOption, Operation.mapInfoOption, same]

theorem Shape.agrees_of_alike {shape : Shape} {name : String}
    (alike : Slot.Alike f ⟨name, shape.content, shape.neutral⟩ (before.lookup name)
      (after.lookup name)) : shape.Agrees f name before after := by
  cases shape with
  | text => exact required_eq alike rfl respects_plain
  | optionalText => exact optional_text_eq alike rfl rfl
  | operation =>
    rw [Agrees, Part.required_readAll, Part.required_readAll]
    exact required_rel alike rfl respects_operation fun _ => rfl
  | optionalOperation =>
    rw [Agrees, Part.optional_readAll, Part.optional_readAll]
    exact withDefault_rel alike rfl respects_optionalOperation fun _ => rfl
  | operations =>
    rw [Agrees, Part.requiredList_readAll, Part.requiredList_readAll]
    exact required_rel alike rfl respects_operations fun _ => rfl
  | optionalOperations =>
    have stands : Operation.readList (.array []) = valid [] := by
      rw [Operation.readList, Operation.readElements]
    rw [Agrees, Part.optionalList_readAll, Part.optionalList_readAll]
    exact withDefault_rel alike (congrArg some stands) respects_operations fun _ => rfl

theorem agree_info (alike : SlotsAlike f commonSlots before after) :
    Info.ofMembers before = Info.ofMembers after := by
  simp only [SlotsAlike, commonSlots, List.forall_mem_cons] at alike
  obtain ⟨_, type, constant, isImplicit, location, _⟩ := alike
  have place : (Content.record .location).Respects f Eq Location.read :=
    respects_object fun _ _ agree => (show Location.ofMembers _ = _ from agree) ▸ .refl_eq _
  have sameConstant : Schema.optional "constantValue" Constant.read before =
      Schema.optional "constantValue" Constant.read after := by
    rw [Schema.optional, Schema.optional, constant.lookup_eq rfl rfl]
  unfold Info.ofMembers
  rw [optional_text_eq type rfl rfl, sameConstant,
    withDefault_eq isImplicit (by rfl) respects_plain, required_eq location rfl place]

theorem agree_operation (declares : Record.operation.slots? before = some slots)
    (alike : SlotsAlike f slots before after) : Record.operation.Agree f before after := by
  obtain ⟨kind, named, rfl⟩ := Option.map_eq_some_iff.mp declares
  obtain ⟨common, own⟩ := List.forall_mem_append.mp alike
  have tag : before.lookup "kind" = after.lookup "kind" :=
    (common ⟨"kind", .plain, none⟩ (by simp [commonSlots])).lookup_eq rfl rfl
  have renamed : Kind.ofMembers? after = some kind := (ofMembers?_congr tag.symm).trans named
  change Rel _ (Operation.read (.object before)) (Operation.read (.object after))
  rw [Operation.read, Operation.read, named, renamed]
  apply ofParts_rel
  · rw [agree_info common]
    exact (Rel.refl_eq _).mono fun _ _ same => congrArg f same
  · intro member listed
    exact Shape.agrees_of_alike (own _ (List.mem_map_of_mem listed))

/-- Records with slots that agree are read alike. -/
theorem agree_of_alike {record : Record} (declares : record.slots? before = some slots)
    (alike : SlotsAlike f slots before after) : record.Agree f before after := by
  cases record with
  | snapshot => exact agree_snapshot declares alike
  | typeEntry => exact agree_typeEntry declares alike
  | methodEntry => exact agree_methodEntry declares alike
  | parameter => exact agree_parameter declares alike
  | dllImport => exact agree_dllImport declares alike
  | fieldEntry => exact agree_fieldEntry declares alike
  | blockEntry => exact agree_blockEntry declares alike
  | location => exact agree_location declares alike
  | operation => exact agree_operation declares alike

end Records

/-! ### Exchanges -/

/-- No record declares a name twice. -/
theorem nodup_slots {record : Record} {members : Members} {slots : List Slot}
    (declares : record.slots? members = some slots) : (slots.map (·.name)).Nodup := by
  cases record with
  | operation =>
    obtain ⟨kind, _, rfl⟩ := Option.map_eq_some_iff.mp declares
    cases kind <;> simp [commonSlots, shapes]
  | _ =>
    cases declares
    simp

/-- A record is exchanged within one slot, so the others agree. -/
theorem slotsAlike_of_sameExcept {record : Record} {before after : Members} {slots : List Slot}
    (declares : record.slots? before = some slots) {slot : Slot} (listed : slot ∈ slots)
    (others : SameExcept slot.name before after)
    (alike : slot.Alike f (before.lookup slot.name) (after.lookup slot.name)) :
    SlotsAlike f slots before after := by
  intro other member
  by_cases same : other.name = slot.name
  · obtain rfl := List.inj_on_of_nodup_map (nodup_slots declares) member listed same
    exact alike
  · rw [others other.name same]
    exact .same _

/-- If a record is exchanged for one that is read alike, all records around it are read alike. -/
theorem Exchange.agree {inner outer : Record} {old new before after : Members}
    (exchange : Exchange inner old new outer before after) (alike : inner.Agree f old new) :
    outer.Agree f before after := by
  induction exchange with
  | whole => exact alike
  | member declares listed content others held set _ ih =>
    apply agree_of_alike declares
    apply slotsAlike_of_sameExcept declares listed others
    rw [held, set]
    exact .inside (content ▸ .record ih)
  | element declares listed content others held set _ ih =>
    apply agree_of_alike declares
    apply slotsAlike_of_sameExcept declares listed others
    rw [held, set]
    exact .inside (content ▸ .list _ _ ih)

end Grammar

end OperationLint
