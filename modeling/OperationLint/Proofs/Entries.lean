import OperationLint.Proofs.WellReferenced

/-!
# Compilations as documents describe them

The document of a compilation lists types, methods, fields and blocks in tables of entries. An
accepted document and its compilation have the same tables: entry by entry a symbol is what its
entry says, with missing members standing for their defaults, and a name leads to the symbol of the
one entry that declares it.

## Main results

* `Compilation.described_of_ofJson`: an accepted document describes its compilation.
* `Compilation.Described.exists_type_iff` and its companions for methods and blocks: what some entry
  of a given name satisfies is what the symbol of that name satisfies.
-/

namespace OperationLint

open Schema Schema.Validation Outcome

/-! ### Members that were read -/

namespace Json

variable {α : Type} {members : Members} {name text : String}

theorem text?_of_lookup (found : members.lookup name = some (.string text)) :
    (Json.object members).text? name = some text := by
  simp [text?, found]

theorem text?_of_string (read : required name Schema.string members = .valid text) :
    (Json.object members).text? name = some text := by
  obtain ⟨_, found, rfl⟩ : ∃ value, members.lookup name = some value ∧ value = .string text := by
    simpa using read
  exact text?_of_lookup found

theorem text?_of_nonEmptyString (read : required name nonEmptyString members = .valid text) :
    (Json.object members).text? name = some text := by
  obtain ⟨_, found, rfl, _⟩ : ∃ value, members.lookup name = some value ∧ value = .string text ∧
      text ≠ "" := by
    simpa using read
  exact text?_of_lookup found

theorem text?_of_oneOf {options : List α} {nameOf : α → String} {option : α}
    (read : required name (oneOf options nameOf) members = .valid option) :
    (Json.object members).text? name = some (nameOf option) := by
  obtain ⟨_, found, inner⟩ := required_eq_valid.mp read
  rw [name_of_oneOf inner] at found
  exact text?_of_lookup found

theorem text?_of_defaultOneOf {options : List α} {nameOf : α → String} {default option : α}
    (read : withDefault name default (oneOf options nameOf) members = .valid option) :
    ((Json.object members).text? name).getD (nameOf default) = nameOf option := by
  rcases withDefault_eq_valid.mp read with ⟨absent, rfl⟩ | ⟨_, found, inner⟩
  · simp [text?, absent]
  · rw [name_of_oneOf inner] at found
    rw [text?_of_lookup found, Option.getD_some]

theorem text?_of_nullable {value : Option String}
    (read : withDefault name none (nullable Schema.string) members = .valid value) :
    (Json.object members).text? name = value := by
  rcases withDefault_eq_valid.mp read with ⟨absent, rfl⟩ | ⟨json, found, inner⟩
  · simp [text?, absent]
  · rcases nullable_eq_valid.mp inner with ⟨rfl, rfl⟩ | ⟨_, text, written, rfl⟩
    · simp [text?, found]
    · rw [string_eq_valid.mp written] at found
      exact text?_of_lookup found

theorem flag?_of_boolean {value : Bool}
    (read : withDefault name false boolean members = .valid value) :
    (Json.object members).flag? name = some true ↔ value = true := by
  rcases withDefault_eq_valid.mp read with ⟨absent, rfl⟩ | ⟨_, found, inner⟩
  · simp [flag?, absent]
  · rw [boolean_eq_valid.mp inner] at found
    simp [flag?, found]

theorem entries_of_array {readOne : Json → Validation α} {values : List α}
    (read : withDefault name [] (Schema.array readOne) members = .valid values) :
    List.Forall₂ (fun document value => readOne document = .valid value)
      ((Json.object members).entries name) values := by
  rcases withDefault_eq_valid.mp read with ⟨absent, rfl⟩ | ⟨_, found, inner⟩
  · simp [entries, absent]
  · obtain ⟨documents, rfl, read⟩ := array_eq_valid.mp inner
    simpa [entries, found] using read

theorem entries_of_requiredArray {readOne : Json → Validation α} {values : List α}
    (read : required name (Schema.array readOne) members = .valid values) :
    List.Forall₂ (fun document value => readOne document = .valid value)
      ((Json.object members).entries name) values := by
  obtain ⟨_, found, inner⟩ := required_eq_valid.mp read
  obtain ⟨documents, rfl, read⟩ := array_eq_valid.mp inner
  simpa [entries, found] using read

/-- A name other than the default is the name of a value exactly when it is written. -/
theorem written_iff {nameOf : α → String} (injective : Function.Injective nameOf)
    {default other : α} (different : default ≠ other) {written : Option String} {value : α}
    (held : written.getD (nameOf default) = nameOf value) :
    written = some (nameOf other) ↔ value = other := by
  cases written with
  | none =>
    rw [← injective held]
    simpa using different
  | some text =>
    rw [Option.some.injEq, show text = nameOf value from held]
    exact injective.eq_iff

/-- A member is there and is not null. -/
def Holds (document : Json) (name : String) : Prop := (document.member? name).getD .null ≠ .null

theorem holds_of_nullable {readOne : Json → Validation α} {value : Option α}
    (read : withDefault name none (nullable readOne) members = .valid value) :
    (Json.object members).Holds name ↔ value.isSome = true := by
  rcases withDefault_eq_valid.mp read with ⟨absent, rfl⟩ | ⟨json, found, inner⟩
  · simp [Holds, absent]
  · rcases nullable_eq_valid.mp inner with ⟨rfl, rfl⟩ | ⟨present, _, _, rfl⟩
    · simp [Holds, found]
    · simp [Holds, found, present]

end Json

/-! ### Entries -/

theorem SpecialType.name_injective : Function.Injective SpecialType.name :=
  injective_of_find? SpecialType.all fun type => by cases type <;> decide

theorem MethodKind.name_injective : Function.Injective MethodKind.name :=
  injective_of_find? MethodKind.all fun kind => by cases kind <;> decide

/-- A snapshot has a destructor for the type of a name. -/
def Json.DeclaresDestructor (snapshot : Json) (name : String) : Prop :=
  ∃ method ∈ snapshot.entries "methods", method.text? "methodKind" = some "destructor" ∧
    method.text? "containingType" = some name

/-- An entry of the snapshot is about a type. -/
structure Json.DescribesType (snapshot document : Json) (type : TypeSymbol) : Prop where
  metadataName : document.text? "metadataName" = some type.metadataName
  kind : document.text? "typeKind" = some type.kind.name
  specialType : (document.text? "specialType").getD "None" = type.specialType.name
  baseType : document.text? "baseType" = type.baseType.map (·.metadataName)
  interfaces : document.entries "interfaces" = type.interfaces.map (.string ·.metadataName)
  declaresFinalizer : type.declaresFinalizer = true ↔ snapshot.DeclaresDestructor type.metadataName
  locations : List.Forall₂ Json.IsLocation (document.entries "locations") type.locations

section

variable {τ μ φ : Type}

/-- An entry is about a method whose types have names. -/
structure Naming.DescribesMethod (naming : Naming τ μ φ) (document : Json) (method : Method τ) :
    Prop where
  id : document.text? "id" = some method.id
  containingType : document.text? "containingType" = some (naming.type method.containingType)
  kind : (document.text? "methodKind").getD "ordinary" = method.kind.name
  returnType : document.text? "returnType" = method.returnType.map naming.type
  parameters : (document.entries "parameters").map (·.text? "type") =
    method.parameters.map fun parameter => some (naming.type parameter.type)
  dllImport : document.Holds "dllImport" ↔ method.dllImport.isSome = true

/-- An entry is about a field whose types have names. -/
structure Naming.DescribesField (naming : Naming τ μ φ) (document : Json) (field : Field τ) :
    Prop where
  id : document.text? "id" = some field.id
  containingType : document.text? "containingType" = some (naming.type field.containingType)
  type : document.text? "type" = some (naming.type field.type)
  isStatic : document.flag? "isStatic" = some true ↔ field.isStatic = true

end

/-- An entry is about a block: it names the owner, and its body denotes the body. -/
structure Symbols.DescribesBlock (symbols : Symbols) (document : Json) (block : BoundBlock) :
    Prop where
  owner : document.text? "owner" = some block.owner.id
  isGenerated : document.flag? "isGenerated" = some true ↔ block.isGenerated = true
  body : ∃ body, document.member? "body" = some body ∧ Operation.Denotes symbols body block.body

/-- The names in the entry of a type. -/
theorem TypeEntry.names_of_read {document : Json} {entry : TypeEntry}
    (read : object TypeEntry.ofMembers document = .valid entry) :
    document.text? "metadataName" = some entry.metadataName ∧
      document.text? "baseType" = entry.baseType ∧
      document.entries "interfaces" = entry.interfaces.map .string := by
  obtain ⟨members, rfl, returned⟩ := object_eq_valid.mp read
  simp only [TypeEntry.ofMembers, seq_eq_valid, map_eq_valid] at returned
  obtain ⟨_, ⟨_, ⟨_, ⟨_, ⟨_, ⟨name, nameRead, rfl⟩, _, _, rfl⟩, _, _, rfl⟩, above, aboveRead, rfl⟩,
    others, othersRead, rfl⟩, _, _, rfl⟩ := returned
  refine ⟨Json.text?_of_nonEmptyString nameRead, Json.text?_of_nullable aboveRead, ?_⟩
  have pairs := map_eq_map_of_forall₂ (Json.entries_of_array othersRead)
    fun document text read => string_eq_valid.mp read
  simpa using pairs

/-- The owner and the body in the entry of a block. -/
theorem CodeBlock.members_of_read {document : Json} {entry : BlockEntry}
    (read : object CodeBlock.ofMembers document = .valid entry) :
    document.text? "owner" = some entry.owner ∧
      ∃ body, document.member? "body" = some body ∧ Operation.Reads body entry.body := by
  obtain ⟨members, rfl, fields⟩ := object_eq_valid.mp read
  simp only [CodeBlock.ofMembers, seq_eq_valid, map_eq_valid] at fields
  obtain ⟨_, ⟨_, ⟨owner, ownerRead, rfl⟩, _, _, rfl⟩, body, bodyRead, rfl⟩ := fields
  exact ⟨Json.text?_of_string ownerRead, required_eq_valid.mp bodyRead⟩

theorem TypeEntry.describesType_of_read {scope : TypeScope} {snapshot document : Json}
    {entry : TypeEntry} {baseType : Option TypeSymbol} {interfaces : List TypeSymbol}
    (read : object TypeEntry.ofMembers document = .valid entry)
    (base : baseType.map (·.metadataName) = entry.baseType)
    (listed : interfaces.map (·.metadataName) = entry.interfaces)
    (owners : ∀ name, name ∈ scope.finalizerOwners ↔ snapshot.DeclaresDestructor name) :
    snapshot.DescribesType document (scope.symbol entry baseType interfaces) := by
  obtain ⟨named, above, texts⟩ := TypeEntry.names_of_read read
  obtain ⟨members, rfl, returned⟩ := object_eq_valid.mp read
  simp only [TypeEntry.ofMembers, seq_eq_valid, map_eq_valid] at returned
  obtain ⟨_, ⟨_, ⟨_, ⟨_, ⟨_, ⟨name, _, rfl⟩, kind, kindRead, rfl⟩, special, specialRead, rfl⟩, _, _,
    rfl⟩, _, _, rfl⟩, locations, locationsRead, rfl⟩ := returned
  refine ⟨named, Json.text?_of_oneOf kindRead, Json.text?_of_defaultOneOf specialRead,
    above.trans base.symm, ?_, ?_, ?_⟩
  · rw [texts, ← listed, List.map_map]
    rfl
  · simpa [TypeScope.symbol] using owners name
  · exact (Json.entries_of_array locationsRead).imp fun _ _ => Location.isLocation_of_read

theorem Method.describes_of_read {document : Json} {entry : MethodEntry}
    (read : object Method.ofMembers document = .valid entry) :
    Naming.raw.DescribesMethod document entry := by
  obtain ⟨members, rfl, returned⟩ := object_eq_valid.mp read
  simp only [Method.ofMembers, seq_eq_valid, map_eq_valid] at returned
  obtain ⟨_, ⟨_, ⟨_, ⟨_, ⟨_, ⟨_, ⟨_, ⟨id, idRead, rfl⟩, name, _, rfl⟩, owner, ownerRead, rfl⟩, kind,
    kindRead, rfl⟩, returnType, returnRead, rfl⟩, parameters, parametersRead, rfl⟩, isStatic, _,
    rfl⟩, dllImport, importRead, rfl⟩ := returned
  refine ⟨Json.text?_of_nonEmptyString idRead, Json.text?_of_string ownerRead,
    Json.text?_of_defaultOneOf kindRead, ?_, ?_, Json.holds_of_nullable importRead⟩
  · rw [Json.text?_of_nullable returnRead, Naming.raw, Option.map_id_fun, id_eq]
  · refine map_eq_map_of_forall₂ (Json.entries_of_array parametersRead) ?_
    intro document parameter read
    obtain ⟨members, rfl, returned⟩ := object_eq_valid.mp read
    simp only [Parameter.ofMembers, seq_eq_valid, map_eq_valid] at returned
    obtain ⟨_, ⟨name, _, rfl⟩, type, typeRead, rfl⟩ := returned
    exact Json.text?_of_string typeRead

theorem Field.describes_of_read {document : Json} {entry : FieldEntry}
    (read : object Field.ofMembers document = .valid entry) :
    Naming.raw.DescribesField document entry := by
  obtain ⟨members, rfl, returned⟩ := object_eq_valid.mp read
  simp only [Field.ofMembers, seq_eq_valid, map_eq_valid] at returned
  obtain ⟨_, ⟨_, ⟨_, ⟨_, ⟨id, idRead, rfl⟩, name, _, rfl⟩, owner, ownerRead, rfl⟩, type, typeRead,
    rfl⟩, isStatic, staticRead, rfl⟩ := returned
  exact ⟨Json.text?_of_nonEmptyString idRead, Json.text?_of_string ownerRead,
    Json.text?_of_string typeRead, Json.flag?_of_boolean staticRead⟩

/-! ### Binding entries -/

section

variable {types : Types}

/-- A type that was bound by name has the name and is among the types. -/
theorem Types.mem_of_bind {referrer : Referrer} {name : String} {symbol : TypeSymbol}
    (returned : types.bind referrer name = .ok symbol) :
    symbol.metadataName = name ∧ symbol ∈ types := by
  have found := Types.bind_eq_ok.mp returned
  exact ⟨by simpa using List.find?_some found, List.mem_of_find?_eq_some found⟩

theorem Types.mem_of_bindOption {referrer : Referrer} {name : Option String}
    {symbol : Option TypeSymbol}
    (bound : Option.Rel (fun name symbol => types.bind referrer name = .ok symbol) name symbol) :
    symbol.map (·.metadataName) = name ∧ ∀ type ∈ symbol, type ∈ types := by
  cases bound with
  | none => simp
  | some bound => simpa using Types.mem_of_bind bound

theorem Method.describes_of_bind {document : Json} {entry : MethodEntry} {symbol : MethodSymbol}
    (returned : Method.bind types entry = .ok symbol)
    (described : Naming.raw.DescribesMethod document entry) :
    Naming.bound.DescribesMethod document symbol := by
  simp only [Method.bind, bind_eq_ok, pure_eq_ok, option_mapM_eq_ok, mapM_eq_ok] at returned
  obtain ⟨owner, ownerBound, result, resultBound, parameters, parametersBound, rfl⟩ := returned
  refine ⟨described.id, ?_, described.kind, ?_, ?_, described.dllImport⟩
  · rw [described.containingType]
    exact congrArg some (Types.mem_of_bind ownerBound).1.symm
  · rw [described.returnType]
    rw [Naming.raw, Option.map_id_fun, id_eq]
    exact (Types.mem_of_bindOption resultBound).1.symm
  · rw [described.parameters]
    refine map_eq_map_of_forall₂ parametersBound ?_
    intro parameter symbol returned
    simp only [Parameter.bind, bind_eq_ok, pure_eq_ok] at returned
    obtain ⟨type, bound, rfl⟩ := returned
    exact congrArg some (Types.mem_of_bind bound).1.symm

theorem Method.returnType_mem_of_bind {entry : MethodEntry} {symbol : MethodSymbol}
    (returned : Method.bind types entry = .ok symbol) :
    ∀ type ∈ symbol.returnType, type ∈ types := by
  simp only [Method.bind, bind_eq_ok, pure_eq_ok, option_mapM_eq_ok, mapM_eq_ok] at returned
  obtain ⟨_, _, result, resultBound, _, _, rfl⟩ := returned
  exact (Types.mem_of_bindOption resultBound).2

theorem Field.describes_of_bind {document : Json} {entry : FieldEntry} {symbol : FieldSymbol}
    (returned : Field.bind types entry = .ok symbol)
    (described : Naming.raw.DescribesField document entry) :
    Naming.bound.DescribesField document symbol := by
  simp only [Field.bind, bind_eq_ok, pure_eq_ok] at returned
  obtain ⟨owner, ownerBound, type, typeBound, rfl⟩ := returned
  refine ⟨described.id, ?_, ?_, described.isStatic⟩
  · rw [described.containingType]
    exact congrArg some (Types.mem_of_bind ownerBound).1.symm
  · rw [described.type]
    exact congrArg some (Types.mem_of_bind typeBound).1.symm

theorem Field.containingType_mem_of_bind {entry : FieldEntry} {symbol : FieldSymbol}
    (returned : Field.bind types entry = .ok symbol) : symbol.containingType ∈ types := by
  simp only [Field.bind, bind_eq_ok, pure_eq_ok] at returned
  obtain ⟨_, ownerBound, _, _, rfl⟩ := returned
  exact (Types.mem_of_bind ownerBound).2

end

theorem CodeBlock.describes_of_bind {symbols : Symbols} {path : Json.Path} {document : Json}
    {entry : BlockEntry} {block : BoundBlock}
    (read : object CodeBlock.ofMembers document = .valid entry)
    (returned : CodeBlock.bind symbols path entry = .ok block) :
    symbols.DescribesBlock document block := by
  obtain ⟨ownerText, bodyDocument, found, bodyRead⟩ := CodeBlock.members_of_read read
  obtain ⟨members, rfl, fields⟩ := object_eq_valid.mp read
  simp only [CodeBlock.ofMembers, seq_eq_valid, map_eq_valid] at fields
  obtain ⟨_, ⟨_, ⟨owner, _, rfl⟩, isGenerated, generatedRead, rfl⟩, body, _, rfl⟩ := fields
  simp only [CodeBlock.bind, bind_eq_ok, pure_eq_ok, Symbols.method_eq_ok] at returned
  obtain ⟨method, methodFound, bound, bodyBound, checked, blockChecked, rfl⟩ := returned
  obtain rfl := Operation.eq_of_requireBlock blockChecked
  refine ⟨?_, Json.flag?_of_boolean generatedRead,
    bodyDocument, found, body, bodyRead, _, bodyBound⟩
  rw [ownerText]
  exact congrArg some (Symbols.MethodNamed.id_eq methodFound).symm

/-! ### Tables -/

/-- The tables of a document, read entry by entry. -/
structure Snapshot.TablesRead (document : Json) (snapshot : Snapshot) : Prop where
  types : List.Forall₂ (fun document entry => object TypeEntry.ofMembers document = .valid entry)
    (document.entries "types") snapshot.types
  methods : List.Forall₂ (fun document entry => object Method.ofMembers document = .valid entry)
    (document.entries "methods") snapshot.methods
  fields : List.Forall₂ (fun document entry => object Field.ofMembers document = .valid entry)
    (document.entries "fields") snapshot.fields
  blocks : List.Forall₂ (fun document entry => object CodeBlock.ofMembers document = .valid entry)
    (document.entries "operationBlocks") snapshot.blocks

theorem Snapshot.tables_of_read {document : Json} {snapshot : Snapshot}
    (read : Snapshot.read document = .valid snapshot) : TablesRead document snapshot := by
  obtain ⟨members, rfl, returned⟩ := object_eq_valid.mp read
  simp only [Snapshot.ofMembers, seq_eq_valid, map_eq_valid] at returned
  obtain ⟨_, ⟨_, ⟨_, ⟨_, ⟨name, _, rfl⟩, types, typesRead, rfl⟩, methods, methodsRead, rfl⟩, fields,
    fieldsRead, rfl⟩, blocks, blocksRead, rfl⟩ := returned
  exact ⟨Json.entries_of_requiredArray typesRead, Json.entries_of_array methodsRead,
    Json.entries_of_array fieldsRead, Json.entries_of_array blocksRead⟩

/-- The names that own a destructor are those for which the document has one. -/
theorem Snapshot.TablesRead.mem_finalizerOwners {document : Json} {snapshot : Snapshot}
    (tables : TablesRead document snapshot) (name : String) :
    name ∈ snapshot.typeScope.finalizerOwners ↔ document.DeclaresDestructor name := by
  have owners : name ∈ snapshot.typeScope.finalizerOwners ↔
      ∃ method ∈ snapshot.methods, method.kind = .destructor ∧ method.containingType = name := by
    simp [Snapshot.typeScope, and_assoc]
  rw [owners, Json.DeclaresDestructor]
  symm
  refine exists_mem_iff_of_forall₂ tables.methods ?_
  intro entry method _ read
  have described := Method.describes_of_read read
  have different : MethodKind.ordinary ≠ .destructor := by decide
  have destructor : entry.text? "methodKind" = some "destructor" ↔ method.kind = .destructor :=
    Json.written_iff MethodKind.name_injective different described.kind
  rw [destructor, described.containingType, Option.some.injEq]
  rfl

theorem CodeBlock.owner_of_bind {symbols : Symbols} {path : Json.Path} {entry : BlockEntry}
    {block : BoundBlock} (returned : CodeBlock.bind symbols path entry = .ok block) :
    block.owner.id = entry.owner := by
  simp only [CodeBlock.bind, bind_eq_ok, pure_eq_ok, Symbols.method_eq_ok] at returned
  obtain ⟨method, found, _, _, _, _, rfl⟩ := returned
  exact Symbols.MethodNamed.id_eq found

theorem CodeBlock.forall₂_of_bindBlocks {symbols : Symbols} {position : Nat}
    {entries : List BlockEntry} {blocks : List BoundBlock}
    (returned : bindBlocks symbols position entries = .ok blocks) :
    List.Forall₂ (fun entry block => ∃ path, CodeBlock.bind symbols path entry = .ok block)
      entries blocks := by
  induction entries generalizing position blocks with
  | nil =>
    cases returned
    exact .nil
  | cons entry rest ih =>
    simp only [bindBlocks, bind_eq_ok, pure_eq_ok] at returned
    obtain ⟨first, head, others, tail, rfl⟩ := returned
    exact .cons ⟨_, head⟩ (ih tail)

namespace Compilation

/-- The symbols that operations refer to. -/
def symbols (compilation : Compilation) : Symbols :=
  ⟨compilation.types, compilation.methods, compilation.fields⟩

/-- A document describes a compilation: table by table and entry by entry. Keys are distinct, and
the types that symbols hold are types of the compilation. -/
structure Described (snapshot : Json) (compilation : Compilation) : Prop where
  types : List.Forall₂ snapshot.DescribesType (snapshot.entries "types") compilation.types
  typesDistinct : (compilation.types.map (·.metadataName)).Nodup
  typesClosed : ∀ type ∈ compilation.types, ∀ above,
    above ∈ type.baseType ∨ above ∈ type.interfaces → above ∈ compilation.types
  methods : List.Forall₂ Naming.bound.DescribesMethod (snapshot.entries "methods")
    compilation.methods
  methodsDistinct : (compilation.methods.map (·.id)).Nodup
  returnTypes : ∀ method ∈ compilation.methods, ∀ type ∈ method.returnType,
    type ∈ compilation.types
  fields : List.Forall₂ Naming.bound.DescribesField (snapshot.entries "fields") compilation.fields
  fieldsDistinct : (compilation.fields.map (·.id)).Nodup
  containingTypes : ∀ field ∈ compilation.fields, field.containingType ∈ compilation.types
  blocks : List.Forall₂ compilation.symbols.DescribesBlock (snapshot.entries "operationBlocks")
    compilation.blocks
  ownersDistinct : (compilation.blocks.map (·.owner.id)).Nodup

theorem described_of_stages {document : Json} {snapshot : Snapshot} {compilation : Compilation}
    (tables : Snapshot.TablesRead document snapshot) (stages : snapshot.Stages compilation) :
    Described document compilation := by
  have typeSymbols := snapshot.typeScope.forall₂_of_bindAll stages.typesDistinct stages.types
  have blockSymbols := CodeBlock.forall₂_of_bindBlocks stages.blocks
  have owners : snapshot.blocks.map (·.owner) = compilation.blocks.map (·.owner.id) :=
    map_eq_map_of_forall₂ blockSymbols fun _ _ ⟨_, returned⟩ =>
      (CodeBlock.owner_of_bind returned).symm
  constructor
  case types =>
    refine forall₂_compose ?_ tables.types typeSymbols
    rintro entry read symbol returned ⟨baseType, interfaces, rfl, base, listed⟩
    exact TypeEntry.describesType_of_read returned base listed tables.mem_finalizerOwners
  case typesDistinct =>
    rw [stages.map_metadataName]
    exact stages.typesDistinct
  case typesClosed =>
    intro type member above held
    exact TypeScope.bindAll_closed stages.types member held
  case methods =>
    refine forall₂_compose ?_ tables.methods stages.methods
    intro entry read symbol returned bound
    exact Method.describes_of_bind bound (Method.describes_of_read returned)
  case methodsDistinct =>
    rw [stages.map_method_id]
    exact stages.methodsDistinct
  case returnTypes =>
    exact forall_mem_of_forall₂ stages.methods fun _ _ => Method.returnType_mem_of_bind
  case fields =>
    refine forall₂_compose ?_ tables.fields stages.fields
    intro entry read symbol returned bound
    exact Field.describes_of_bind bound (Field.describes_of_read returned)
  case fieldsDistinct =>
    rw [stages.map_field_id]
    exact stages.fieldsDistinct
  case containingTypes =>
    exact forall_mem_of_forall₂ stages.fields fun _ _ => Field.containingType_mem_of_bind
  case blocks =>
    refine forall₂_compose ?_ tables.blocks blockSymbols
    rintro entry read block returned ⟨path, bound⟩
    exact CodeBlock.describes_of_bind returned bound
  case ownersDistinct =>
    rw [← owners]
    exact stages.ownersDistinct

/-- An accepted document describes its compilation. -/
theorem described_of_ofJson {document : Json} {source : Option String} {compilation : Compilation}
    (accepted : Compilation.ofJson document source = .ok compilation) :
    Described document compilation := by
  unfold Compilation.ofJson at accepted
  split at accepted
  · cases accepted
  next snapshot read =>
    split at accepted
    · cases accepted
    next bound returned =>
      cases accepted
      exact described_of_stages (Snapshot.tables_of_read read) (Snapshot.bind_eq_ok.mp returned)

/-! ### Entries by name -/

/-- Where keys are distinct, some entry with the key of a symbol satisfies a property exactly when
the entry of the symbol does. -/
theorem exists_entry_iff {β : Type} {R : Json → β → Prop} {documents : List Json}
    {symbols : List β} {key : String} {keyOf : β → String}
    (related : List.Forall₂ R documents symbols)
    (keyed : ∀ document symbol, R document symbol → document.text? key = some (keyOf symbol))
    (distinct : (symbols.map keyOf).Nodup) {symbol : β} (member : symbol ∈ symbols)
    {P : Json → Prop} {Q : Prop} (meets : ∀ document, R document symbol → (P document ↔ Q)) :
    (∃ document ∈ documents, document.text? key = some (keyOf symbol) ∧ P document) ↔ Q := by
  have paired : (∃ document ∈ documents, document.text? key = some (keyOf symbol) ∧ P document) ↔
      ∃ other ∈ symbols, other = symbol ∧ Q := by
    refine exists_mem_iff_of_forall₂ related ?_
    intro document other inside described
    rw [keyed document other described, Option.some.injEq]
    constructor
    · rintro ⟨same, holds⟩
      obtain rfl := List.inj_on_of_nodup_map distinct inside member same
      exact ⟨rfl, (meets document described).mp holds⟩
    · rintro ⟨rfl, holds⟩
      exact ⟨rfl, (meets document described).mpr holds⟩
  rw [paired]
  constructor
  · rintro ⟨_, _, _, holds⟩
    exact holds
  · intro holds
    exact ⟨symbol, member, rfl, holds⟩

namespace Described

variable {snapshot : Json} {compilation : Compilation} {P : Json → Prop} {Q : Prop}

theorem exists_type_iff (described : Described snapshot compilation) {type : TypeSymbol}
    (member : type ∈ compilation.types)
    (meets : ∀ entry, snapshot.DescribesType entry type → (P entry ↔ Q)) :
    (∃ entry ∈ snapshot.entries "types",
      entry.text? "metadataName" = some type.metadataName ∧ P entry) ↔ Q :=
  exists_entry_iff described.types (fun _ _ entry => entry.metadataName) described.typesDistinct
    member meets

theorem exists_typeEntry (described : Described snapshot compilation) {type : TypeSymbol}
    (member : type ∈ compilation.types) : ∃ entry ∈ snapshot.entries "types",
      entry.text? "metadataName" = some type.metadataName := by
  have entry : (∃ entry ∈ snapshot.entries "types",
      entry.text? "metadataName" = some type.metadataName ∧ True) ↔ True :=
    described.exists_type_iff member fun _ _ => Iff.rfl
  simpa using entry

/-- The entry of a name is about the type of that name. -/
theorem describesType_of_name (described : Described snapshot compilation) {type : TypeSymbol}
    (member : type ∈ compilation.types) {entry : Json} (listed : entry ∈ snapshot.entries "types")
    (named : entry.text? "metadataName" = some type.metadataName) :
    snapshot.DescribesType entry type := by
  obtain ⟨other, inside, about⟩ := exists_mem_of_forall₂ described.types entry listed
  have same : other.metadataName = type.metadataName :=
    Option.some.inj (about.metadataName.symm.trans named)
  rwa [← List.inj_on_of_nodup_map described.typesDistinct inside member same]

theorem exists_method_iff (described : Described snapshot compilation) {method : MethodSymbol}
    (member : method ∈ compilation.methods)
    (meets : ∀ entry, Naming.bound.DescribesMethod entry method → (P entry ↔ Q)) :
    (∃ entry ∈ snapshot.entries "methods", entry.text? "id" = some method.id ∧ P entry) ↔ Q :=
  exists_entry_iff described.methods (fun _ _ entry => entry.id) described.methodsDistinct member
    meets

theorem exists_field_iff (described : Described snapshot compilation) {field : FieldSymbol}
    (member : field ∈ compilation.fields)
    (meets : ∀ entry, Naming.bound.DescribesField entry field → (P entry ↔ Q)) :
    (∃ entry ∈ snapshot.entries "fields", entry.text? "id" = some field.id ∧ P entry) ↔ Q :=
  exists_entry_iff described.fields (fun _ _ entry => entry.id) described.fieldsDistinct member
    meets

theorem exists_block_iff (described : Described snapshot compilation) {block : BoundBlock}
    (member : block ∈ compilation.blocks)
    (meets : ∀ entry, compilation.symbols.DescribesBlock entry block → (P entry ↔ Q)) :
    (∃ entry ∈ snapshot.entries "operationBlocks",
      entry.text? "owner" = some block.owner.id ∧ P entry) ↔ Q :=
  exists_entry_iff described.blocks (fun _ _ entry => entry.owner) described.ownersDistinct member
    meets

end Described

end Compilation

end OperationLint
