import OperationLint.Compilation.Parsing
import OperationLint.Proofs.Inheritance
import OperationLint.Proofs.OperationBinding

/-!
# Well-referenced snapshots

A snapshot becomes a compilation exactly when its references are in order: keys are unique, every
name that is used is declared, no type stands above itself, and bodies are blocks.

## Proof strategy

Each stage of binding succeeds exactly under its share of the condition. For operations this is an
induction from the children of an operation to the operation, with one case for each kind; for
types it is `Inheritance`. After a successful stage its table has the declared names, so the later
stages are about declared names as well.
-/

namespace OperationLint

open Outcome

/-! ### Tables -/

theorem firstRepeated?_eq_none {seen keys : List String} :
    firstRepeated? seen keys = none ↔ keys.Nodup ∧ ∀ key ∈ keys, key ∉ seen := by
  induction keys generalizing seen with
  | nil => simp [firstRepeated?]
  | cons key rest ih =>
    by_cases repeated : key ∈ seen
    · simp [firstRepeated?, repeated]
    · simp only [firstRepeated?, List.contains_eq_mem, repeated, decide_false, Bool.false_eq_true,
        if_false, ih, List.nodup_cons, List.mem_cons, not_or, forall_eq_or_imp]
      constructor
      · rintro ⟨distinct, apart⟩
        exact ⟨⟨fun inside => (apart key inside).1 rfl, distinct⟩, not_false,
          fun later inside => (apart later inside).2⟩
      · rintro ⟨⟨fresh, distinct⟩, _, apart⟩
        refine ⟨distinct, fun later inside => ⟨?_, apart later inside⟩⟩
        rintro rfl
        exact fresh inside

theorem requireUnique_eq_ok {table : Table} {keys : List String} {result : Unit} :
    requireUnique table keys = .ok result ↔ keys.Nodup := by
  unfold requireUnique
  cases found : firstRepeated? [] keys with
  | none => simpa using (firstRepeated?_eq_none.mp found).1
  | some key =>
    have repeated : ¬ keys.Nodup := by
      intro distinct
      have clean := firstRepeated?_eq_none.mpr ⟨distinct, fun key _ => List.not_mem_nil (a := key)⟩
      rw [clean] at found
      cases found
    simp [repeated]

/-- A key is found exactly when some entry has it. -/
theorem exists_find?_key {α : Type} {key : α → String} {entries : List α} {name : String} :
    (∃ entry, entries.find? (fun entry => key entry == name) = some entry) ↔
      name ∈ entries.map key := by
  rw [← Option.isSome_iff_exists, List.find?_isSome, List.mem_map]
  simp

/-! ### Operations -/

namespace Operation

variable {τ μ φ : Type}

/-- The body of a function that is written in place. -/
def functionBody? : Operation τ μ φ → Option (Operation τ μ φ)
  | anonymousFunction _ _ body => some body
  | _ => none

/-- The names that an operation itself uses are declared, and a function body is a block. -/
@[mk_iff]
structure Resolvable (types methods fields : List String) (operation : RawOperation) : Prop where
  type : ∀ name ∈ operation.info.type, name ∈ types
  method : ∀ id ∈ operation.methodRefs, id ∈ methods
  field : ∀ id ∈ operation.fieldRefs, id ∈ fields
  body : ∀ body ∈ operation.functionBody?, body.kind = .block

end Operation

namespace Symbols

/-- Every operation of a tree finds its names among the symbols. -/
def Cover (symbols : Symbols) (operation : RawOperation) : Prop :=
  ∀ node ∈ operation.descendantsAndSelf, node.Resolvable (symbols.types.map (·.metadataName))
    (symbols.methods.map (·.id)) (symbols.fields.map (·.id))

/-- An operation binds at every path exactly when the symbols cover it. -/
def Decides (symbols : Symbols) (operation : RawOperation) : Prop :=
  ∀ path, (∃ bound, operation.bind symbols path = .ok bound) ↔ symbols.Cover operation

variable {symbols : Symbols} {path : Json.Path}

theorem exists_method_eq_ok (path : Json.Path) {id : String} :
    (∃ symbol, symbols.method path id = .ok symbol) ↔ id ∈ symbols.methods.map (·.id) := by
  simp only [method_eq_ok]
  exact exists_find?_key

theorem exists_field_eq_ok (path : Json.Path) {id : String} :
    (∃ symbol, symbols.field path id = .ok symbol) ↔ id ∈ symbols.fields.map (·.id) := by
  simp only [field_eq_ok]
  exact exists_find?_key

theorem exists_info_eq_ok {info : Info String} :
    (∃ bound, info.bind symbols.types path = .ok bound) ↔
      ∀ name ∈ info.type, name ∈ symbols.types.map (·.metadataName) := by
  have type (name : String) :
      (∃ symbol, Types.bind symbols.types (.operation path) name = .ok symbol) ↔
        name ∈ symbols.types.map (·.metadataName) := by
    simp only [Types.bind_eq_ok]
    exact exists_find?_key
  simp only [← type, ← exists_option_mapM_eq_ok]
  simp [Info.bind]

theorem exists_bindOption_eq_ok (path : Json.Path) {operation : Option RawOperation}
    (decided : ∀ child ∈ operation.toList, symbols.Decides child) :
    (∃ bound, Operation.bindOption symbols path operation = .ok bound) ↔
      ∀ child ∈ operation.toList, symbols.Cover child := by
  cases operation with
  | none => simp [Operation.bindOption]
  | some child =>
    have single := decided child (by simp) path
    simpa [Operation.bindOption] using single

theorem exists_bindList_eq_ok (path : Json.Path) (position : Nat) {operations : List RawOperation}
    (decided : ∀ child ∈ operations, symbols.Decides child) :
    (∃ bound, Operation.bindList symbols path position operations = .ok bound) ↔
      ∀ child ∈ operations, symbols.Cover child := by
  induction operations generalizing position with
  | nil => simp [Operation.bindList]
  | cons child rest ih =>
    obtain ⟨first, others⟩ := List.forall_mem_cons.mp decided
    rw [List.forall_mem_cons, ← ih (position + 1) others, ← first (path ++ [.index position])]
    simp [Operation.bindList]

/-- A body that binds is a block exactly when it was one before. -/
theorem exists_requireBlock_eq_ok (path : Json.Path) (body : RawOperation) :
    (∃ bound, body.bind symbols path = .ok bound ∧ ∃ result, requireBlock path bound = .ok result) ↔
      body.kind = .block ∧ ∃ bound, body.bind symbols path = .ok bound := by
  have checked (bound : BoundOperation) :
      (∃ result, requireBlock path bound = .ok result) ↔ bound.kind = .block := by
    by_cases block : bound.kind = .block <;> simp [requireBlock, block]
  simp only [checked]
  constructor
  · rintro ⟨bound, returned, block⟩
    exact ⟨(Operation.bind_step returned).kind ▸ block, bound, returned⟩
  · rintro ⟨block, bound, returned⟩
    exact ⟨bound, returned, (Operation.bind_step returned).kind.trans block⟩

theorem cover_iff {operation : RawOperation} :
    symbols.Cover operation ↔
      operation.Resolvable (symbols.types.map (·.metadataName)) (symbols.methods.map (·.id))
        (symbols.fields.map (·.id)) ∧ ∀ child ∈ operation.children, symbols.Cover child :=
  Operation.forall_mem_descendantsAndSelf operation

/-- Binding an operation succeeds exactly when the symbols cover it, wherever it stands. -/
theorem decides (symbols : Symbols) (operation : RawOperation) : symbols.Decides operation := by
  induction operation using Operation.children_induction with
  | step operation ih =>
    intro path
    rw [cover_iff, Operation.resolvable_iff]
    -- Each kind has its own names and members; what is left in a case are these.
    cases operation <;>
      simp only [Operation.bind, Operation.info, Operation.methodRefs, Operation.fieldRefs,
        Operation.functionBody?, Operation.children] at ih ⊢
    case block info operations =>
      have below := exists_bindList_eq_ok (path ++ [.key "operations"]) 0 ih
      simp [exists_info_eq_ok, below]
    case expressionStatement info operation =>
      have below := ih operation (by simp) (path ++ [.key "operation"])
      simp [exists_info_eq_ok, below]
    case variableDeclaration info variableName initializer =>
      have below := exists_bindOption_eq_ok (path ++ [.key "initializer"]) ih
      simp [exists_info_eq_ok, below]
    case returns info returnedValue =>
      have below := exists_bindOption_eq_ok (path ++ [.key "returnedValue"]) ih
      simp [exists_info_eq_ok, below]
    case throws info exception =>
      have below := exists_bindOption_eq_ok (path ++ [.key "exception"]) ih
      simp [exists_info_eq_ok, below]
    case conditional info condition whenTrue whenFalse =>
      obtain ⟨first, second, third⟩ : symbols.Decides condition ∧ symbols.Decides whenTrue ∧
          ∀ child ∈ whenFalse.toList, symbols.Decides child := by
        simpa using ih
      have third := exists_bindOption_eq_ok (path ++ [.key "whenFalse"]) third
      simp [exists_info_eq_ok, first (path ++ [.key "condition"]),
        second (path ++ [.key "whenTrue"]), third]
    case literal info => simp [exists_info_eq_ok]
    case localReference info variableName => simp [exists_info_eq_ok]
    case parameterReference info parameter => simp [exists_info_eq_ok]
    case instanceReference info => simp [exists_info_eq_ok]
    case fieldReference info field receiver =>
      have below := exists_bindOption_eq_ok (path ++ [.key "instance"]) ih
      simp [exists_info_eq_ok, exists_field_eq_ok, below, and_assoc]
    case simpleAssignment info target value =>
      obtain ⟨first, second⟩ := List.forall_mem_append.mp ih
      have first := exists_bindOption_eq_ok (path ++ [.key "target"]) first
      have second := exists_bindOption_eq_ok (path ++ [.key "value"]) second
      rw [List.forall_mem_append]
      simp [exists_info_eq_ok, first, second]
    case binary info operator left right =>
      have first := ih left (by simp) (path ++ [.key "left"])
      have second := ih right (by simp) (path ++ [.key "right"])
      simp [exists_info_eq_ok, first, second]
    case conversion info operand =>
      have below := ih operand (by simp) (path ++ [.key "operand"])
      simp [exists_info_eq_ok, below]
    case invocation info method receiver arguments =>
      obtain ⟨first, second⟩ := List.forall_mem_append.mp ih
      have first := exists_bindOption_eq_ok (path ++ [.key "instance"]) first
      have second := exists_bindList_eq_ok (path ++ [.key "arguments"]) 0 second
      rw [List.forall_mem_append]
      simp [exists_info_eq_ok, exists_method_eq_ok, first, second, and_assoc]
    case objectCreation info constructorMethod arguments =>
      have named := exists_option_mapM_eq_ok (symbols.method path) constructorMethod
      have below := exists_bindList_eq_ok (path ++ [.key "arguments"]) 0 ih
      simp [exists_info_eq_ok, exists_method_eq_ok, named, below, and_assoc]
    case delegateCreation info target =>
      have below := ih target (by simp) (path ++ [.key "target"])
      simp [exists_info_eq_ok, below]
    case anonymousFunction info symbol body =>
      have below := ih body (by simp) (path ++ [.key "body"])
      have block := symbols.exists_requireBlock_eq_ok (path ++ [.key "body"]) body
      simp [exists_info_eq_ok, exists_method_eq_ok, block, below, and_assoc]
    case methodReference info method receiver =>
      have below := exists_bindOption_eq_ok (path ++ [.key "instance"]) ih
      simp [exists_info_eq_ok, exists_method_eq_ok, below, and_assoc]
    case invalid info operations =>
      have below := exists_bindList_eq_ok (path ++ [.key "children"]) 0 ih
      simp [exists_info_eq_ok, below]

end Symbols

/-! ### Methods, fields and blocks -/

variable {types : Types}

theorem Types.exists_bind_eq_ok (referrer : Referrer) {name : String} :
    (∃ symbol, types.bind referrer name = .ok symbol) ↔ name ∈ types.map (·.metadataName) := by
  simp only [Types.bind_eq_ok]
  exact exists_find?_key

theorem Method.exists_bind_eq_ok {entry : MethodEntry} :
    (∃ symbol, Method.bind types entry = .ok symbol) ↔
      entry.containingType ∈ types.map (·.metadataName) ∧
      (∀ name ∈ entry.returnType, name ∈ types.map (·.metadataName)) ∧
      ∀ parameter ∈ entry.parameters, parameter.type ∈ types.map (·.metadataName) := by
  have returnType := exists_option_mapM_eq_ok (types.bind (.method entry.id)) entry.returnType
  have parameters := exists_mapM_eq_ok (Parameter.bind types (.method entry.id)) entry.parameters
  have parameter (inner : Parameter String) :
      (∃ symbol, Parameter.bind types (.method entry.id) inner = .ok symbol) ↔
        inner.type ∈ types.map (·.metadataName) := by
    rw [← Types.exists_bind_eq_ok (.method entry.id)]
    simp [Parameter.bind]
  simp only [Types.exists_bind_eq_ok, parameter] at returnType parameters
  rw [← returnType, ← parameters, ← Types.exists_bind_eq_ok (.method entry.id)]
  simp [Method.bind]

theorem Field.exists_bind_eq_ok {entry : FieldEntry} :
    (∃ symbol, Field.bind types entry = .ok symbol) ↔
      entry.containingType ∈ types.map (·.metadataName) ∧
      entry.type ∈ types.map (·.metadataName) := by
  rw [← Types.exists_bind_eq_ok (.field entry.id),
    ← Types.exists_bind_eq_ok (.field entry.id)]
  simp [Field.bind]

theorem Method.id_of_bind {entry : MethodEntry} {symbol : MethodSymbol}
    (returned : Method.bind types entry = .ok symbol) : symbol.id = entry.id := by
  simp only [Method.bind, bind_eq_ok, pure_eq_ok] at returned
  obtain ⟨_, _, _, _, _, _, rfl⟩ := returned
  rfl

theorem Field.id_of_bind {entry : FieldEntry} {symbol : FieldSymbol}
    (returned : Field.bind types entry = .ok symbol) : symbol.id = entry.id := by
  simp only [Field.bind, bind_eq_ok, pure_eq_ok] at returned
  obtain ⟨_, _, _, _, rfl⟩ := returned
  rfl

theorem Method.map_id_of_forall₂ {entries : List MethodEntry} {symbols : List MethodSymbol}
    (bound : List.Forall₂ (fun entry symbol => Method.bind types entry = .ok symbol) entries
      symbols) : symbols.map (·.id) = entries.map (·.id) :=
  (map_eq_map_of_forall₂ bound fun _ _ returned => (Method.id_of_bind returned).symm).symm

theorem Field.map_id_of_forall₂ {entries : List FieldEntry} {symbols : List FieldSymbol}
    (bound : List.Forall₂ (fun entry symbol => Field.bind types entry = .ok symbol) entries
      symbols) : symbols.map (·.id) = entries.map (·.id) :=
  (map_eq_map_of_forall₂ bound fun _ _ returned => (Field.id_of_bind returned).symm).symm

namespace CodeBlock

variable {symbols : Symbols}

theorem exists_bind_eq_ok (path : Json.Path) {entry : BlockEntry} :
    (∃ block, CodeBlock.bind symbols path entry = .ok block) ↔
      entry.owner ∈ symbols.methods.map (·.id) ∧ entry.body.kind = .block ∧
        symbols.Cover entry.body := by
  have body := symbols.exists_requireBlock_eq_ok (path ++ [.key "body"]) entry.body
  rw [symbols.decides entry.body] at body
  rw [← body, ← Symbols.exists_method_eq_ok path]
  simp [CodeBlock.bind]

theorem exists_bindBlocks_eq_ok (position : Nat) {entries : List BlockEntry} :
    (∃ blocks, bindBlocks symbols position entries = .ok blocks) ↔
      ∀ entry ∈ entries, entry.owner ∈ symbols.methods.map (·.id) ∧ entry.body.kind = .block ∧
        symbols.Cover entry.body := by
  induction entries generalizing position with
  | nil => simp [bindBlocks]
  | cons entry rest ih =>
    rw [List.forall_mem_cons, ← ih (position + 1),
      ← exists_bind_eq_ok [.key "operationBlocks", .index position]]
    simp [bindBlocks]

end CodeBlock

/-! ### Snapshots -/

namespace Snapshot

/-- The stages of binding, each with its result. -/
structure Stages (snapshot : Snapshot) (compilation : Compilation) : Prop where
  assemblyName : compilation.assemblyName = snapshot.assemblyName
  typesDistinct : (snapshot.types.map (·.metadataName)).Nodup
  types : snapshot.typeScope.bindAll = .ok compilation.types
  methodsDistinct : (snapshot.methods.map (·.id)).Nodup
  methods : List.Forall₂ (fun entry symbol => Method.bind compilation.types entry = .ok symbol)
    snapshot.methods compilation.methods
  fieldsDistinct : (snapshot.fields.map (·.id)).Nodup
  fields : List.Forall₂ (fun entry symbol => Field.bind compilation.types entry = .ok symbol)
    snapshot.fields compilation.fields
  ownersDistinct : (snapshot.blocks.map (·.owner)).Nodup
  blocks : bindBlocks ⟨compilation.types, compilation.methods, compilation.fields⟩ 0
    snapshot.blocks = .ok compilation.blocks

theorem bind_eq_ok {snapshot : Snapshot} {compilation : Compilation} :
    snapshot.bind = .ok compilation ↔ snapshot.Stages compilation := by
  simp only [Snapshot.bind, Outcome.bind_eq_ok, pure_eq_ok, requireUnique_eq_ok, mapM_eq_ok]
  constructor
  · rintro ⟨_, typesDistinct, types, boundTypes, _, methodsDistinct, methods, boundMethods, _,
      fieldsDistinct, fields, boundFields, _, ownersDistinct, blocks, boundBlocks, rfl⟩
    exact ⟨rfl, typesDistinct, boundTypes, methodsDistinct, boundMethods, fieldsDistinct,
      boundFields, ownersDistinct, boundBlocks⟩
  · intro stages
    refine ⟨(), stages.typesDistinct, _, stages.types, (), stages.methodsDistinct, _,
      stages.methods, (), stages.fieldsDistinct, _, stages.fields, (), stages.ownersDistinct, _,
      stages.blocks, ?_⟩
    rw [← stages.assemblyName]

namespace Stages

variable {snapshot : Snapshot} {compilation : Compilation}

theorem map_metadataName (stages : snapshot.Stages compilation) :
    compilation.types.map (·.metadataName) = snapshot.types.map (·.metadataName) :=
  (TypeScope.bindAll_sound stages.types).1

theorem map_method_id (stages : snapshot.Stages compilation) :
    compilation.methods.map (·.id) = snapshot.methods.map (·.id) :=
  Method.map_id_of_forall₂ stages.methods

theorem map_field_id (stages : snapshot.Stages compilation) :
    compilation.fields.map (·.id) = snapshot.fields.map (·.id) :=
  Field.map_id_of_forall₂ stages.fields

end Stages

/-- Every reference leads somewhere, to one thing only, and never around in a circle. -/
structure WellReferenced (snapshot : Snapshot) : Prop where
  typesDistinct : (snapshot.types.map (·.metadataName)).Nodup
  methodsDistinct : (snapshot.methods.map (·.id)).Nodup
  fieldsDistinct : (snapshot.fields.map (·.id)).Nodup
  ownersDistinct : (snapshot.blocks.map (·.owner)).Nodup
  /-- Base types and interfaces are declared. -/
  inherited : ∀ lower upper, Inherits snapshot.types lower upper → Declares snapshot.types upper
  acyclic : ∀ name, ¬ Relation.TransGen (Inherits snapshot.types) name name
  methodTypes : ∀ method ∈ snapshot.methods, Declares snapshot.types method.containingType ∧
    (∀ name ∈ method.returnType, Declares snapshot.types name) ∧
    ∀ parameter ∈ method.parameters, Declares snapshot.types parameter.type
  fieldTypes : ∀ field ∈ snapshot.fields, Declares snapshot.types field.containingType ∧
    Declares snapshot.types field.type
  owners : ∀ block ∈ snapshot.blocks, block.owner ∈ snapshot.methods.map (·.id)
  bodies : ∀ block ∈ snapshot.blocks, block.body.kind = .block
  operations : ∀ block ∈ snapshot.blocks, ∀ operation ∈ block.body.descendantsAndSelf,
    operation.Resolvable (snapshot.types.map (·.metadataName)) (snapshot.methods.map (·.id))
      (snapshot.fields.map (·.id))

variable {snapshot : Snapshot}

theorem wellReferenced_of_stages {compilation : Compilation}
    (stages : snapshot.Stages compilation) : snapshot.WellReferenced := by
  have typeNames := stages.map_metadataName
  have methodIds := stages.map_method_id
  have fieldIds := stages.map_field_id
  have methods := (exists_mapM_eq_ok _ _).mp ⟨_, mapM_eq_ok.mpr stages.methods⟩
  have fields := (exists_mapM_eq_ok _ _).mp ⟨_, mapM_eq_ok.mpr stages.fields⟩
  have blocks := (CodeBlock.exists_bindBlocks_eq_ok 0).mp ⟨_, stages.blocks⟩
  simp only [Symbols.Cover, typeNames, methodIds, fieldIds] at blocks
  simp only [Method.exists_bind_eq_ok, typeNames] at methods
  simp only [Field.exists_bind_eq_ok, typeNames] at fields
  have symbolOf (name : String) (declared : Declares snapshot.types name) :
      ∃ symbol, symbol.metadataName = name ∧ snapshot.typeScope.Resolved symbol := by
    unfold Declares at declared
    rw [← typeNames, List.mem_map] at declared
    obtain ⟨symbol, member, named⟩ := declared
    exact ⟨symbol, named, (TypeScope.bindAll_sound stages.types).2 symbol member⟩
  refine ⟨stages.typesDistinct, stages.methodsDistinct, stages.fieldsDistinct,
    stages.ownersDistinct, ?_,
    snapshot.typeScope.acyclic_of_resolved stages.typesDistinct symbolOf, methods, fields,
    fun block member => (blocks block member).1, fun block member => (blocks block member).2.1,
    fun block member => (blocks block member).2.2⟩
  intro lower upper edge
  obtain ⟨symbol, rfl, symbolResolved⟩ := symbolOf lower edge.lower_declared
  obtain ⟨above, rfl, aboveResolved, _⟩ := symbolResolved.upper stages.typesDistinct edge
  exact aboveResolved.declared

theorem exists_stages (references : snapshot.WellReferenced) :
    ∃ compilation, snapshot.Stages compilation := by
  obtain ⟨types, boundTypes⟩ :=
    snapshot.typeScope.bindAll_complete references.inherited references.acyclic
  have typeNames : types.map (·.metadataName) = snapshot.types.map (·.metadataName) :=
    (TypeScope.bindAll_sound boundTypes).1
  obtain ⟨methods, boundMethods⟩ :
      ∃ methods, snapshot.methods.mapM (Method.bind types) = .ok methods := by
    rw [exists_mapM_eq_ok]
    simp only [Method.exists_bind_eq_ok, typeNames]
    exact references.methodTypes
  obtain ⟨fields, boundFields⟩ :
      ∃ fields, snapshot.fields.mapM (Field.bind types) = .ok fields := by
    rw [exists_mapM_eq_ok]
    simp only [Field.exists_bind_eq_ok, typeNames]
    exact references.fieldTypes
  have methodIds := Method.map_id_of_forall₂ (mapM_eq_ok.mp boundMethods)
  have fieldIds := Field.map_id_of_forall₂ (mapM_eq_ok.mp boundFields)
  obtain ⟨blocks, boundBlocks⟩ :
      ∃ blocks, bindBlocks ⟨types, methods, fields⟩ 0 snapshot.blocks = .ok blocks := by
    rw [CodeBlock.exists_bindBlocks_eq_ok]
    simp only [Symbols.Cover, typeNames, methodIds, fieldIds]
    exact fun block member => ⟨references.owners block member, references.bodies block member,
      references.operations block member⟩
  exact ⟨⟨snapshot.assemblyName, types, methods, fields, blocks⟩, rfl, references.typesDistinct,
    boundTypes, references.methodsDistinct, mapM_eq_ok.mp boundMethods, references.fieldsDistinct,
    mapM_eq_ok.mp boundFields, references.ownersDistinct, boundBlocks⟩

end Snapshot

/-- A value of the right shape becomes a compilation exactly when its references are in order, and
is refused with a defect otherwise. -/
theorem Compilation.ofJson_accepts_iff {json : Json} {snapshot : Snapshot} (source : Option String)
    (read : Snapshot.read json = .valid snapshot) :
    ((∃ compilation, Compilation.ofJson json source = .ok compilation) ↔ snapshot.WellReferenced) ∧
    (¬ snapshot.WellReferenced →
      ∃ defect, Compilation.ofJson json source = .error ⟨.unbound defect, source⟩) := by
  have accepted : (∃ compilation, snapshot.bind = .ok compilation) ↔ snapshot.WellReferenced := by
    simp only [Snapshot.bind_eq_ok]
    exact ⟨fun ⟨_, stages⟩ => Snapshot.wellReferenced_of_stages stages, Snapshot.exists_stages⟩
  cases returned : snapshot.bind with
  | ok compilation =>
    have references := accepted.mp ⟨compilation, returned⟩
    refine ⟨⟨fun _ => references, fun _ => ⟨compilation, ?_⟩⟩,
      fun broken => absurd references broken⟩
    simp [Compilation.ofJson, read, returned]
  | error defect =>
    have broken : ¬ snapshot.WellReferenced := by
      intro references
      obtain ⟨compilation, bound⟩ := accepted.mpr references
      rw [returned] at bound
      cases bound
    have refused : Compilation.ofJson json source = .error ⟨.unbound defect, source⟩ := by
      simp [Compilation.ofJson, read, returned]
    refine ⟨⟨?_, fun references => absurd references broken⟩, fun _ => ⟨defect, refused⟩⟩
    rintro ⟨compilation, bound⟩
    rw [refused] at bound
    cases bound

/-- A class above an interface that lists the class: each is declared, and the two stand above
themselves. -/
def mixedCycle : Json :=
  .object [("assemblyName", .string "Sample"), ("types", .array
    [.object [("metadataName", .string "Lower"), ("typeKind", .string "class"),
      ("baseType", .string "Upper")],
    .object [("metadataName", .string "Upper"), ("typeKind", .string "class"),
      ("interfaces", .array [.string "Lower"])]])]

theorem Compilation.ofJson_accepts_iff_mixedCycle : ∃ snapshot,
    Snapshot.read mixedCycle = .valid snapshot ∧ ¬ snapshot.WellReferenced ∧
      ∃ defect, Compilation.ofJson mixedCycle none = .error ⟨.unbound defect, none⟩ := by
  obtain ⟨snapshot, read⟩ : ∃ snapshot, Snapshot.read mixedCycle = .valid snapshot := ⟨_, rfl⟩
  obtain ⟨accepts, refuses⟩ := Compilation.ofJson_accepts_iff none read
  have broken : ¬ snapshot.WellReferenced := by
    intro references
    obtain ⟨compilation, returned⟩ := accepts.mpr references
    obtain ⟨problem, refused⟩ : ∃ problem, Compilation.ofJson mixedCycle none = .error problem :=
      ⟨_, rfl⟩
    rw [refused] at returned
    cases returned
  exact ⟨snapshot, read, broken, refuses broken⟩

end OperationLint
