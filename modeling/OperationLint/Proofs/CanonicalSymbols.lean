import Mathlib.Data.List.Perm.Basic
import OperationLint.Proofs.LeakedHandles
import OperationLint.Proofs.Refusals

/-!
# Symbols are canonical

A name of a compilation stands for one symbol. Wherever a symbol is held, by another symbol, by the
owner of a block or by an operation at any depth, it is the symbol that a look-up by its name finds,
and this symbol is what the one entry of that name says.

## Main result

`Compilation.ofJson_canonical`: the compilation of an accepted document is canonical.

## Proof strategy

Two things make symbols canonical. The table of types only grows while types are bound, and never by
a name that it has or that is under way, so every declared type is made once (`Grows`). And what is
held was looked up in a table, so it is a member of it; keys are distinct, so a member is what its
own key finds.
-/

namespace OperationLint

open Outcome Schema Schema.Validation

/-! ### Every type is made once -/

namespace TypeScope

variable {scope : TypeScope}

/-- The bound types grow by symbols whose names are off the trail, and names stay distinct. -/
structure Grows (trail : List String) (bound after : List TypeSymbol) : Prop where
  keeps : ∀ symbol ∈ bound, symbol ∈ after
  offTrail : ∀ symbol ∈ after, symbol ∈ bound ∨ symbol.metadataName ∉ trail
  distinct : (bound.map (·.metadataName)).Nodup → (after.map (·.metadataName)).Nodup

theorem Grows.refl (trail : List String) (bound : List TypeSymbol) : Grows trail bound bound :=
  ⟨fun _ inside => inside, fun _ inside => Or.inl inside, fun distinct => distinct⟩

theorem Grows.trans {trail : List String} {bound middle after : List TypeSymbol}
    (first : Grows trail bound middle) (second : Grows trail middle after) :
    Grows trail bound after where
  keeps symbol inside := second.keeps symbol (first.keeps symbol inside)
  offTrail symbol inside := by
    rcases second.offTrail symbol inside with earlier | fresh
    · exact first.offTrail symbol earlier
    · exact Or.inr fresh
  distinct start := second.distinct (first.distinct start)

/-- A symbol is put in front once the types above it are bound. Its name was on their trail, so
none of them took it. -/
theorem Grows.put {trail : List String} {bound after : List TypeSymbol} {symbol : TypeSymbol}
    (above : Grows (symbol.metadataName :: trail) bound after)
    (unbound : symbol.metadataName ∉ bound.map (·.metadataName))
    (fresh : symbol.metadataName ∉ trail) : Grows trail bound (symbol :: after) where
  keeps other inside := List.mem_cons_of_mem symbol (above.keeps other inside)
  offTrail other inside := by
    rcases List.mem_cons.mp inside with rfl | inside
    · exact Or.inr fresh
    · rcases above.offTrail other inside with earlier | off
      · exact Or.inl earlier
      · exact Or.inr fun onTrail => off (List.mem_cons_of_mem _ onTrail)
  distinct start := by
    have untaken : symbol.metadataName ∉ after.map (·.metadataName) := by
      intro taken
      obtain ⟨other, inside, same⟩ := List.mem_map.mp taken
      rcases above.offTrail other inside with earlier | off
      · exact unbound (same ▸ List.mem_map_of_mem earlier)
      · exact off (same ▸ List.mem_cons_self)
    exact List.nodup_cons.mpr ⟨untaken, above.distinct start⟩

theorem bindEach_grows {trail : List String}
    {bindOne : String → List TypeSymbol → Except Defect (TypeSymbol × List TypeSymbol)}
    (one : ∀ {name bound symbol after}, bindOne name bound = .ok (symbol, after) →
      symbol ∈ after ∧ Grows trail bound after)
    {names : List String} {bound symbols after : List TypeSymbol}
    (returned : bindEach bindOne names bound = .ok (symbols, after)) :
    (∀ symbol ∈ symbols, symbol ∈ after) ∧ Grows trail bound after := by
  induction names generalizing bound symbols with
  | nil =>
    cases returned
    exact ⟨nofun, .refl trail _⟩
  | cons name rest ih =>
    simp only [bindEach, bind_eq_ok, pure_eq_ok] at returned
    obtain ⟨⟨symbol, middle⟩, first, ⟨others, last⟩, tail, same⟩ := returned
    cases same
    obtain ⟨made, grown⟩ := one first
    obtain ⟨othersMade, grownOn⟩ := ih tail
    exact ⟨List.forall_mem_cons.mpr ⟨grownOn.keeps symbol made, othersMade⟩, grown.trans grownOn⟩

theorem bind_grows {steps : Nat} {trail : List String} {referrer : Referrer} {name : String}
    {bound after : List TypeSymbol} {symbol : TypeSymbol}
    (returned : scope.bind steps trail referrer name bound = .ok (symbol, after)) :
    symbol ∈ after ∧ Grows trail bound after := by
  induction steps using Nat.strongRecOn generalizing trail referrer name bound symbol after
  with
  | ind steps ih =>
    rcases bind_cases returned with ⟨found, rfl⟩ | ⟨fewer, entry, bases, interfaces, middle, last,
      rfl, missing, found, fresh, first, second, rfl, rfl⟩
    · exact ⟨List.mem_of_find?_eq_some found, .refl trail after⟩
    · obtain ⟨_, rfl⟩ := entry?_eq_some found
      have above := @ih fewer (Nat.lt_succ_self fewer)
      obtain ⟨_, grown⟩ := bindEach_grows above first
      obtain ⟨_, grownOn⟩ := bindEach_grows above second
      exact ⟨List.mem_cons_self, (grown.trans grownOn).put (find?_key_eq_none.mp missing) fresh⟩

/-- Binding all declared types gives these symbols, and makes these, the last one first. -/
def Makes (scope : TypeScope) (types made : List TypeSymbol) : Prop :=
  bindEach (scope.bind scope.entries.length [] .declarations)
    (scope.entries.map (·.metadataName)) [] = .ok (types, made)

theorem exists_makes {types : List TypeSymbol} (returned : scope.bindAll = .ok types) :
    ∃ made, scope.Makes types made := by
  simp only [bindAll, map_eq_ok] at returned
  obtain ⟨⟨symbols, made⟩, returned, rfl⟩ := returned
  exact ⟨made, returned⟩

/-- As many symbols are made as types are declared: each declared type is made once. -/
theorem Makes.perm {types made : List TypeSymbol} (makes : scope.Makes types made)
    (distinct : (scope.entries.map (·.metadataName)).Nodup) : made.Perm types := by
  obtain ⟨names, typesSound, madeSound⟩ :=
    bindEach_sound bind_sound makes (List.forall_mem_nil scope.Resolved)
  obtain ⟨taken, grown⟩ := bindEach_grows bind_grows makes
  have typesDistinct : types.Nodup := by
    apply List.Nodup.of_map (·.metadataName)
    rw [names]
    exact distinct
  have madeDistinct : made.Nodup :=
    List.Nodup.of_map (·.metadataName) (grown.distinct List.nodup_nil)
  apply (List.perm_ext_iff_of_nodup madeDistinct typesDistinct).mpr
  intro symbol
  constructor
  · intro inside
    -- What is made is declared, so there is a type of its name, and a name has one resolved symbol.
    have resolved := madeSound symbol inside
    have declared := resolved.declared
    unfold Declares at declared
    rw [← names] at declared
    obtain ⟨type, member, same⟩ := List.mem_map.mp declared
    rwa [resolved.unique (typesSound type member) same.symm]
  · exact taken symbol

end TypeScope

/-! ### What entries say -/

section

variable {τ μ φ : Type}

/-- An entry agrees with a type in every field. -/
structure Json.RecordsType (snapshot document : Json) (type : TypeSymbol) : Prop
    extends snapshot.DescribesType document type where
  name : ∃ full, document.text? "metadataName" = some full ∧
    DisposableFinalizer.IsSimpleName full type.name
  isValueType : type.isValueType = true ↔
    document.text? "typeKind" = some "struct" ∨ document.text? "typeKind" = some "enum"

/-- An entry agrees with a method in every field. -/
structure Naming.RecordsMethod (naming : Naming τ μ φ) (document : Json) (method : Method τ) : Prop
    extends naming.DescribesMethod document method where
  name : document.text? "name" = some method.name
  parameterNames : (document.entries "parameters").map (·.text? "name") =
    method.parameters.map fun parameter => some parameter.name
  isStatic : document.flag? "isStatic" = some true ↔ method.isStatic = true
  imported : ∀ library ∈ method.dllImport, ∃ value, document.member? "dllImport" = some value ∧
    value.text? "moduleName" = some library.moduleName ∧
    value.text? "entryPoint" = library.entryPoint

/-- An entry agrees with a field in every field of it. -/
structure Naming.RecordsField (naming : Naming τ μ φ) (document : Json) (field : Field τ) : Prop
    extends naming.DescribesField document field where
  name : document.text? "name" = some field.name

end

theorem TypeKind.name_injective : Function.Injective TypeKind.name :=
  injective_of_find? TypeKind.all fun kind => by cases kind <;> decide

theorem Json.DescribesType.records {snapshot document : Json} {type : TypeSymbol}
    (described : snapshot.DescribesType document type) : snapshot.RecordsType document type := by
  refine ⟨described, ⟨_, described.metadataName, DisposableFinalizer.isSimpleName_name type⟩, ?_⟩
  have written (kind : TypeKind) : document.text? "typeKind" = some kind.name ↔ type.kind = kind := by
    rw [described.kind, Option.some.injEq]
    exact TypeKind.name_injective.eq_iff
  have struct := written .structType
  have enum := written .enumType
  simp only [TypeKind.name] at struct enum
  rw [struct, enum]
  simp [TypeSymbol.isValueType]

theorem DllImport.members_of_read {document : Json} {library : DllImport}
    (read : object DllImport.ofMembers document = .valid library) :
    document.text? "moduleName" = some library.moduleName ∧
      document.text? "entryPoint" = library.entryPoint := by
  obtain ⟨members, rfl, returned⟩ := object_eq_valid.mp read
  simp only [DllImport.ofMembers, seq_eq_valid, map_eq_valid] at returned
  obtain ⟨_, ⟨moduleName, moduleRead, rfl⟩, entryPoint, entryRead, rfl⟩ := returned
  exact ⟨Json.text?_of_nonEmptyString moduleRead, Json.text?_of_nullable entryRead⟩

theorem Method.records_of_read {document : Json} {entry : MethodEntry}
    (read : object Method.ofMembers document = .valid entry) :
    Naming.raw.RecordsMethod document entry := by
  have described := Method.describes_of_read read
  obtain ⟨members, rfl, returned⟩ := object_eq_valid.mp read
  simp only [Method.ofMembers, seq_eq_valid, map_eq_valid] at returned
  obtain ⟨_, ⟨_, ⟨_, ⟨_, ⟨_, ⟨_, ⟨_, ⟨id, _, rfl⟩, name, nameRead, rfl⟩, owner, _, rfl⟩, kind, _,
    rfl⟩, returnType, _, rfl⟩, parameters, parametersRead, rfl⟩, isStatic, staticRead, rfl⟩,
    dllImport, importRead, rfl⟩ := returned
  refine ⟨described, Json.text?_of_nonEmptyString nameRead, ?_, Json.flag?_of_boolean staticRead, ?_⟩
  · refine map_eq_map_of_forall₂ (Json.entries_of_array parametersRead) ?_
    intro document parameter read
    obtain ⟨members, rfl, returned⟩ := object_eq_valid.mp read
    simp only [Parameter.ofMembers, seq_eq_valid, map_eq_valid] at returned
    obtain ⟨_, ⟨name, nameRead, rfl⟩, type, _, rfl⟩ := returned
    exact Json.text?_of_string nameRead
  · rintro library rfl
    -- The default is no import, so an import was written, and not as null.
    rcases withDefault_eq_valid.mp importRead with ⟨_, none⟩ | ⟨value, found, inner⟩
    · cases none
    · rcases nullable_eq_valid.mp inner with ⟨_, none⟩ | ⟨_, written, writtenRead, same⟩
      · cases none
      · cases same
        exact ⟨value, found, DllImport.members_of_read writtenRead⟩

theorem Method.records_of_bind {types : Types} {document : Json} {entry : MethodEntry}
    {symbol : MethodSymbol} (returned : Method.bind types entry = .ok symbol)
    (recorded : Naming.raw.RecordsMethod document entry) :
    Naming.bound.RecordsMethod document symbol := by
  have described := Method.describes_of_bind returned recorded.toDescribesMethod
  simp only [Method.bind, bind_eq_ok, pure_eq_ok, mapM_eq_ok] at returned
  obtain ⟨_, _, _, _, parameters, parametersBound, rfl⟩ := returned
  refine ⟨described, recorded.name, ?_, recorded.isStatic, recorded.imported⟩
  rw [recorded.parameterNames]
  refine map_eq_map_of_forall₂ parametersBound ?_
  intro parameter symbol returned
  simp only [Parameter.bind, bind_eq_ok, pure_eq_ok] at returned
  obtain ⟨type, _, rfl⟩ := returned
  rfl

theorem Field.records_of_read {document : Json} {entry : FieldEntry}
    (read : object Field.ofMembers document = .valid entry) :
    Naming.raw.RecordsField document entry := by
  refine ⟨Field.describes_of_read read, ?_⟩
  obtain ⟨members, rfl, returned⟩ := object_eq_valid.mp read
  simp only [Field.ofMembers, seq_eq_valid, map_eq_valid] at returned
  obtain ⟨_, ⟨_, ⟨_, ⟨_, ⟨id, _, rfl⟩, name, nameRead, rfl⟩, owner, _, rfl⟩, type, _, rfl⟩, isStatic,
    _, rfl⟩ := returned
  exact Json.text?_of_nonEmptyString nameRead

theorem Field.records_of_bind {types : Types} {document : Json} {entry : FieldEntry}
    {symbol : FieldSymbol} (returned : Field.bind types entry = .ok symbol)
    (recorded : Naming.raw.RecordsField document entry) :
    Naming.bound.RecordsField document symbol := by
  refine ⟨Field.describes_of_bind returned recorded.toDescribesField, ?_⟩
  simp only [Field.bind, bind_eq_ok, pure_eq_ok] at returned
  obtain ⟨_, _, _, _, rfl⟩ := returned
  exact recorded.name

/-! ### What is held stands in the tables -/

/-- Where keys are distinct, a member is what its own key finds. -/
theorem find?_key_of_mem {α : Type} {key : α → String} {members : List α}
    (distinct : (members.map key).Nodup) {member : α} (inside : member ∈ members) :
    members.find? (fun other => key other == key member) = some member := by
  obtain ⟨other, found⟩ := exists_find?_key.mpr (List.mem_map_of_mem (f := key) inside)
  have same : key other = key member := by simpa using List.find?_some found
  rw [found, List.inj_on_of_nodup_map distinct (List.mem_of_find?_eq_some found) inside same]

namespace Compilation

/-- An operation of some block, at any depth. -/
def HoldsOperation (compilation : Compilation) (operation : BoundOperation) : Prop :=
  ∃ block ∈ compilation.blocks, operation ∈ block.body.descendantsAndSelf

/-- A method that is reached from a compilation. -/
inductive HoldsMethod (compilation : Compilation) : MethodSymbol → Prop
  | listed {method : MethodSymbol} (member : method ∈ compilation.methods) :
      HoldsMethod compilation method
  | owner {block : BoundBlock} (member : block ∈ compilation.blocks) :
      HoldsMethod compilation block.owner
  | referred {operation : BoundOperation} {method : MethodSymbol}
      (held : compilation.HoldsOperation operation) (refers : method ∈ operation.methodRefs) :
      HoldsMethod compilation method

/-- A field that is reached from a compilation. -/
inductive HoldsField (compilation : Compilation) : FieldSymbol → Prop
  | listed {field : FieldSymbol} (member : field ∈ compilation.fields) :
      HoldsField compilation field
  | referred {operation : BoundOperation} {field : FieldSymbol}
      (held : compilation.HoldsOperation operation) (refers : field ∈ operation.fieldRefs) :
      HoldsField compilation field

/-- A type that is reached from a compilation. -/
inductive HoldsType (compilation : Compilation) : TypeSymbol → Prop
  | listed {type : TypeSymbol} (member : type ∈ compilation.types) : HoldsType compilation type
  | base {type above : TypeSymbol} (held : HoldsType compilation type)
      (extended : above ∈ type.baseType) : HoldsType compilation above
  | interface {type above : TypeSymbol} (held : HoldsType compilation type)
      (listed : above ∈ type.interfaces) : HoldsType compilation above
  | methodOwner {method : MethodSymbol} (held : compilation.HoldsMethod method) :
      HoldsType compilation method.containingType
  | result {method : MethodSymbol} {type : TypeSymbol} (held : compilation.HoldsMethod method)
      (returned : type ∈ method.returnType) : HoldsType compilation type
  | parameter {method : MethodSymbol} {parameter : Parameter TypeSymbol}
      (held : compilation.HoldsMethod method) (taken : parameter ∈ method.parameters) :
      HoldsType compilation parameter.type
  | fieldOwner {field : FieldSymbol} (held : compilation.HoldsField field) :
      HoldsType compilation field.containingType
  | fieldType {field : FieldSymbol} (held : compilation.HoldsField field) :
      HoldsType compilation field.type
  | operation {operation : BoundOperation} {type : TypeSymbol}
      (held : compilation.HoldsOperation operation) (typed : type ∈ operation.info.type) :
      HoldsType compilation type

/-- The tables of a compilation have all that their members and the blocks refer to. -/
structure Anchored (compilation : Compilation) : Prop where
  types : ∀ type ∈ compilation.types, ∀ above,
    above ∈ type.baseType ∨ above ∈ type.interfaces → above ∈ compilation.types
  methods : ∀ method ∈ compilation.methods, method.containingType ∈ compilation.types ∧
    (∀ type ∈ method.returnType, type ∈ compilation.types) ∧
    ∀ parameter ∈ method.parameters, parameter.type ∈ compilation.types
  fields : ∀ field ∈ compilation.fields, field.containingType ∈ compilation.types ∧
    field.type ∈ compilation.types
  owners : ∀ block ∈ compilation.blocks, block.owner ∈ compilation.methods
  operations : ∀ operation, compilation.HoldsOperation operation →
    (∀ type ∈ operation.info.type, type ∈ compilation.types) ∧
    (∀ method ∈ operation.methodRefs, method ∈ compilation.methods) ∧
    ∀ field ∈ operation.fieldRefs, field ∈ compilation.fields

variable {compilation : Compilation}

theorem Anchored.mem_methods (anchored : compilation.Anchored) {method : MethodSymbol}
    (held : compilation.HoldsMethod method) : method ∈ compilation.methods := by
  cases held with
  | listed member => exact member
  | owner member => exact anchored.owners _ member
  | referred held refers => exact (anchored.operations _ held).2.1 method refers

theorem Anchored.mem_fields (anchored : compilation.Anchored) {field : FieldSymbol}
    (held : compilation.HoldsField field) : field ∈ compilation.fields := by
  cases held with
  | listed member => exact member
  | referred held refers => exact (anchored.operations _ held).2.2 field refers

theorem Anchored.mem_types (anchored : compilation.Anchored) {type : TypeSymbol}
    (held : compilation.HoldsType type) : type ∈ compilation.types := by
  induction held with
  | listed member => exact member
  | base _ extended ih => exact anchored.types _ ih _ (Or.inl extended)
  | interface _ listed ih => exact anchored.types _ ih _ (Or.inr listed)
  | methodOwner held => exact (anchored.methods _ (anchored.mem_methods held)).1
  | result held returned => exact (anchored.methods _ (anchored.mem_methods held)).2.1 _ returned
  | parameter held taken => exact (anchored.methods _ (anchored.mem_methods held)).2.2 _ taken
  | fieldOwner held => exact (anchored.fields _ (anchored.mem_fields held)).1
  | fieldType held => exact (anchored.fields _ (anchored.mem_fields held)).2
  | operation held typed => exact (anchored.operations _ held).1 _ typed

end Compilation

theorem Method.types_mem_of_bind {types : Types} {entry : MethodEntry} {symbol : MethodSymbol}
    (returned : Method.bind types entry = .ok symbol) :
    symbol.containingType ∈ types ∧ (∀ type ∈ symbol.returnType, type ∈ types) ∧
      ∀ parameter ∈ symbol.parameters, parameter.type ∈ types := by
  refine ⟨?_, Method.returnType_mem_of_bind returned, ?_⟩
  · simp only [Method.bind, bind_eq_ok, pure_eq_ok] at returned
    obtain ⟨_, ownerBound, _, _, _, _, rfl⟩ := returned
    exact (Types.mem_of_bind ownerBound).2
  · simp only [Method.bind, bind_eq_ok, pure_eq_ok, mapM_eq_ok] at returned
    obtain ⟨_, _, _, _, parameters, parametersBound, rfl⟩ := returned
    refine forall_mem_of_forall₂ parametersBound ?_
    intro parameter bound returned
    simp only [Parameter.bind, bind_eq_ok, pure_eq_ok] at returned
    obtain ⟨type, typeBound, rfl⟩ := returned
    exact (Types.mem_of_bind typeBound).2

theorem Field.types_mem_of_bind {types : Types} {entry : FieldEntry} {symbol : FieldSymbol}
    (returned : Field.bind types entry = .ok symbol) :
    symbol.containingType ∈ types ∧ symbol.type ∈ types := by
  refine ⟨Field.containingType_mem_of_bind returned, ?_⟩
  simp only [Field.bind, bind_eq_ok, pure_eq_ok] at returned
  obtain ⟨_, _, _, typeBound, rfl⟩ := returned
  exact (Types.mem_of_bind typeBound).2

theorem Operation.Denotes.mem_types {symbols : Symbols} {document : Json}
    {operation : BoundOperation} (denoted : Operation.Denotes symbols document operation) :
    ∀ type ∈ operation.info.type, type ∈ symbols.types := by
  obtain ⟨raw, _, path, returned⟩ := denoted
  obtain ⟨_, info⟩ := (Operation.bind_step returned).info
  have named := (Operation.bind_info info).1
  intro type typed
  rw [Option.mem_def.mp typed] at named
  generalize raw.info.type = name at named
  cases named with
  | some found => exact List.mem_of_find?_eq_some found

theorem CodeBlock.owner_mem_of_bind {symbols : Symbols} {path : Json.Path} {entry : BlockEntry}
    {block : BoundBlock} (returned : CodeBlock.bind symbols path entry = .ok block) :
    block.owner ∈ symbols.methods := by
  simp only [CodeBlock.bind, bind_eq_ok, pure_eq_ok, Symbols.method_eq_ok] at returned
  obtain ⟨method, found, _, _, _, _, rfl⟩ := returned
  exact List.mem_of_find?_eq_some found

namespace Compilation

variable {document : Json} {snapshot : Snapshot} {compilation : Compilation}

theorem anchored_of_stages (tables : Snapshot.TablesRead document snapshot)
    (stages : snapshot.Stages compilation) : compilation.Anchored := by
  have described := described_of_stages tables stages
  refine ⟨described.typesClosed, ?_, ?_, ?_, ?_⟩
  · exact forall_mem_of_forall₂ stages.methods fun _ _ => Method.types_mem_of_bind
  · exact forall_mem_of_forall₂ stages.fields fun _ _ => Field.types_mem_of_bind
  · have bound := CodeBlock.forall₂_of_bindBlocks stages.blocks
    exact forall_mem_of_forall₂ bound fun _ _ ⟨_, returned⟩ => CodeBlock.owner_mem_of_bind returned
  · rintro operation ⟨block, member, visited⟩
    obtain ⟨entry, _, about⟩ := exists_mem_of_forall₂ described.blocks.flip block member
    obtain ⟨body, _, bodyDenoted⟩ := about.body
    obtain ⟨place, _, denoted⟩ :=
      exists_mem_of_forall₂ bodyDenoted.preorder.flip operation visited
    exact ⟨Operation.Denotes.mem_types denoted, Operation.Denotes.mem_methods denoted,
      Operation.Denotes.mem_fields denoted⟩

/-- An accepted document was read and went through all stages of binding. -/
theorem exists_stages_of_ofJson {source : Option String}
    (accepted : Compilation.ofJson document source = .ok compilation) :
    ∃ snapshot, Snapshot.read document = .valid snapshot ∧ snapshot.Stages compilation := by
  unfold Compilation.ofJson at accepted
  split at accepted
  · cases accepted
  next snapshot read =>
    split at accepted
    · cases accepted
    next bound returned =>
      cases accepted
      exact ⟨snapshot, read, Snapshot.bind_eq_ok.mp returned⟩

/-! ### Canonical compilations -/

/-- Names and symbols of a compilation stand for each other. -/
structure Canonical (snapshot : Json) (compilation : Compilation) : Prop where
  /-- Every symbol that is held anywhere is the one that its name finds. -/
  types : ∀ type, compilation.HoldsType type → compilation.type? type.metadataName = some type
  methods : ∀ method, compilation.HoldsMethod method →
    compilation.method? method.id = some method
  fields : ∀ field, compilation.HoldsField field → compilation.field? field.id = some field
  /-- What is declared is found, and nothing else is. -/
  typeNames : ∀ name, (∃ type, compilation.type? name = some type) ↔
    some name ∈ snapshot.keys .types
  methodIds : ∀ id, (∃ method, compilation.method? id = some method) ↔
    some id ∈ snapshot.keys .methods
  fieldIds : ∀ id, (∃ field, compilation.field? id = some field) ↔ some id ∈ snapshot.keys .fields
  /-- The symbol that the name of an entry finds is what the entry says. -/
  typeEntries : ∀ entry ∈ snapshot.entries "types", ∃ type,
    compilation.type? type.metadataName = some type ∧ snapshot.RecordsType entry type
  methodEntries : ∀ entry ∈ snapshot.entries "methods", ∃ method,
    compilation.method? method.id = some method ∧ Naming.bound.RecordsMethod entry method
  fieldEntries : ∀ entry ∈ snapshot.entries "fields", ∃ field,
    compilation.field? field.id = some field ∧ Naming.bound.RecordsField entry field
  /-- Binding makes one symbol for each declared type. -/
  madeOnce : ∃ raw made, Snapshot.read snapshot = .valid raw ∧
    raw.typeScope.Makes compilation.types made ∧ made.Perm compilation.types

/-- The compilation of an accepted document is canonical. -/
theorem ofJson_canonical {source : Option String}
    (accepted : Compilation.ofJson document source = .ok compilation) :
    compilation.Canonical document := by
  obtain ⟨snapshot, read, stages⟩ := exists_stages_of_ofJson accepted
  have tables := Snapshot.tables_of_read read
  have described := described_of_stages tables stages
  have anchored := anchored_of_stages tables stages
  have findType {type : TypeSymbol} (member : type ∈ compilation.types) :
      compilation.type? type.metadataName = some type :=
    find?_key_of_mem described.typesDistinct member
  have findMethod {method : MethodSymbol} (member : method ∈ compilation.methods) :
      compilation.method? method.id = some method :=
    find?_key_of_mem described.methodsDistinct member
  have findField {field : FieldSymbol} (member : field ∈ compilation.fields) :
      compilation.field? field.id = some field :=
    find?_key_of_mem described.fieldsDistinct member
  constructor
  case types => exact fun type held => findType (anchored.mem_types held)
  case methods => exact fun method held => findMethod (anchored.mem_methods held)
  case fields => exact fun field held => findField (anchored.mem_fields held)
  case typeNames =>
    intro name
    rw [tables.mem_keys, Snapshot.keys, ← stages.map_metadataName]
    exact exists_find?_key
  case methodIds =>
    intro id
    rw [tables.mem_keys, Snapshot.keys, ← stages.map_method_id]
    exact exists_find?_key
  case fieldIds =>
    intro id
    rw [tables.mem_keys, Snapshot.keys, ← stages.map_field_id]
    exact exists_find?_key
  case typeEntries =>
    intro entry listed
    obtain ⟨type, member, about⟩ := exists_mem_of_forall₂ described.types entry listed
    exact ⟨type, findType member, about.records⟩
  case methodEntries =>
    intro entry listed
    obtain ⟨raw, rawMember, entryRead⟩ := exists_mem_of_forall₂ tables.methods entry listed
    obtain ⟨method, member, bound⟩ := exists_mem_of_forall₂ stages.methods raw rawMember
    exact ⟨method, findMethod member,
      Method.records_of_bind bound (Method.records_of_read entryRead)⟩
  case fieldEntries =>
    intro entry listed
    obtain ⟨raw, rawMember, entryRead⟩ := exists_mem_of_forall₂ tables.fields entry listed
    obtain ⟨field, member, bound⟩ := exists_mem_of_forall₂ stages.fields raw rawMember
    exact ⟨field, findField member, Field.records_of_bind bound (Field.records_of_read entryRead)⟩
  case madeOnce =>
    obtain ⟨made, makes⟩ := TypeScope.exists_makes stages.types
    exact ⟨snapshot, made, read, makes, makes.perm stages.typesDistinct⟩

/-- A document about some types and methods: a function in a body reads a field. -/
def sampleDocument (types methods : List Json) : Json :=
  .object [("assemblyName", .string "Sample"), ("types", .array types), ("methods", .array methods),
    ("fields", .array [.object [("id", .string "Lower.top"), ("name", .string "top"),
      ("containingType", .string "Sample.Lower"), ("type", .string "Sample.Top")]]),
    ("operationBlocks", .array [.object [("owner", .string "Lower.Run"),
      ("body", Kind.block.document [("operations", .array
        [Kind.anonymousFunction.document [("symbol", .string "Lower.Run"),
          ("body", Kind.block.document [("operations", .array
            [Kind.returns.document [("returnedValue", Kind.fieldReference.document
              [("field", .string "Lower.top"), ("type", .string "Sample.Top")])]])])]])])]])]

/-- A type that reaches one interface along two paths, declared before the types above it. -/
def diamondTypes : List Json :=
  [.object [("metadataName", .string "Sample.Lower"), ("typeKind", .string "class"),
    ("baseType", .string "Sample.Upper"), ("interfaces", .array [.string "Sample.Side"])],
  .object [("metadataName", .string "Sample.Upper"), ("typeKind", .string "class"),
    ("interfaces", .array [.string "Sample.Top"])],
  .object [("metadataName", .string "Sample.Side"), ("typeKind", .string "interface"),
    ("interfaces", .array [.string "Sample.Top"])],
  .object [("metadataName", .string "Sample.Top"), ("typeKind", .string "interface")]]

/-- A destructor of the base type, and a method of the type itself. -/
def diamondMethods : List Json :=
  [.object [("id", .string "Upper.Finalize"), ("name", .string "Finalize"),
    ("containingType", .string "Sample.Upper"), ("methodKind", .string "destructor")],
  .object [("id", .string "Lower.Run"), ("name", .string "Run"),
    ("containingType", .string "Sample.Lower"), ("returnType", .string "Sample.Top"),
    ("parameters", .array [.object [("name", .string "side"), ("type", .string "Sample.Side")]])]]

def diamond : Json := sampleDocument diamondTypes diamondMethods

theorem ofJson_canonical_diamond : ∃ compilation,
    Compilation.ofJson diamond none = .ok compilation ∧ compilation.Canonical diamond := by
  obtain ⟨compilation, accepted⟩ : ∃ compilation,
      Compilation.ofJson diamond none = .ok compilation := ⟨_, rfl⟩
  exact ⟨compilation, accepted, ofJson_canonical accepted⟩

end Compilation

end OperationLint
