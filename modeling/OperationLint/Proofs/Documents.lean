import OperationLint.Proofs.Pairings
import OperationLint.Proofs.Traversal
import OperationLint.Proofs.Validation
import OperationLint.Snapshot.Reader

/-!
# Operations as documents describe them

A document of an operation is taken apart by the members that its kind declares: `Json.preorder`
lists the documents of a whole tree without reading any of them. `Naming.Describes` says what a
single document and a single operation have to agree on; symbols count by the names that documents
use for them.

## Proof strategy

`Operation.read` is opened once, kind by kind, in `ofParts_step`. It yields what the document
says about the operation itself, and for every declared member the readings of the documents in it.
What follows from there is by induction on trees, without a look at kinds.
-/

namespace OperationLint

open Schema Schema.Validation

/-! ### Members of documents -/

namespace Json

/-- The value of a member. -/
def member? (document : Json) (name : String) : Option Json := document.child? (.key name)

/-- The text in a member. -/
def text? (document : Json) (name : String) : Option String :=
  match document.member? name with
  | some (.string text) => some text
  | _ => none

/-- The truth value in a member. -/
def flag? (document : Json) (name : String) : Option Bool :=
  match document.member? name with
  | some (.bool value) => some value
  | _ => none

/-- The elements of a list in a member; a missing list has none. -/
def entries (document : Json) (name : String) : List Json :=
  match document.member? name with
  | some (.array elements) => elements
  | _ => []

/-- A text, or null for none. -/
def ofText? : Option String → Json
  | some text => .string text
  | none => .null

@[simp] theorem member?_object (members : Members) (name : String) :
    (Json.object members).member? name = members.lookup name := rfl

/-- A member that is a text or null. -/
theorem text?_of_member {document : Json} {name : String} {value : Option String}
    (held : (document.member? name).getD .null = ofText? value) : document.text? name = value := by
  unfold text?
  cases found : document.member? name with
  | none => cases value <;> simp_all [ofText?]
  | some inner => cases value <;> simp_all [ofText?]

theorem flag?_of_member {document : Json} {name : String} {default value : Bool}
    (held : (document.member? name).getD (.bool default) = .bool value) :
    (document.flag? name).getD default = value := by
  unfold flag?
  cases found : document.member? name <;> simp_all

/-! ### The documents of a tree -/

/-- The documents of the operations directly below, member by member. -/
def subdocuments (document : Json) : List Json :=
  match document.operations with
  | .ok operations => operations
  | .error _ => []

theorem subdocuments_object {members : Members} {kind : Kind}
    (named : Kind.ofMembers? members = some kind) :
    (Json.object members).subdocuments = kind.parts.flatMap (partOperations members) := by
  simp [subdocuments, operations, named]

theorem sizeOf_lookup_lt {members : Members} {name : String} {value : Json}
    (found : members.lookup name = some value) : sizeOf value < sizeOf members := by
  obtain ⟨front, back, rfl, _⟩ := List.lookup_eq_some_iff.mp found
  have inside := List.sizeOf_lt_of_mem
    (List.mem_append_right front (List.mem_cons_self (a := (name, value)) (l := back)))
  simp only [Prod.mk.sizeOf_spec] at inside
  omega

theorem sizeOf_part_lt {members : Members} {part : String × Arity} {operation : Json}
    (member : operation ∈ partOperations members part) : sizeOf operation < sizeOf members := by
  obtain ⟨name, arity⟩ := part
  cases found : members.lookup name with
  | none => cases arity <;> simp [partOperations, found] at member
  | some value =>
    have smaller := sizeOf_lookup_lt found
    cases arity with
    | many =>
      cases value with
      | array elements =>
        have inside : operation ∈ elements := by simpa [partOperations, found] using member
        have element := List.sizeOf_lt_of_mem inside
        simp only [Json.array.sizeOf_spec] at smaller
        omega
      | _ => simp [partOperations, found] at member
    | _ => cases value <;> simp_all [partOperations]

theorem sizeOf_lt_of_mem_subdocuments {document operation : Json}
    (member : operation ∈ document.subdocuments) : sizeOf operation < sizeOf document := by
  cases document with
  | object members =>
    cases named : Kind.ofMembers? members with
    | none => simp [subdocuments, operations, named] at member
    | some kind =>
      rw [subdocuments_object named] at member
      obtain ⟨part, _, inside⟩ := List.mem_flatMap.mp member
      have smaller := sizeOf_part_lt inside
      simp only [Json.object.sizeOf_spec]
      omega
  | _ => simp [subdocuments, operations] at member

/-- The documents of a tree in pre-order. -/
def preorder (document : Json) : List Json :=
  document :: document.subdocuments.attach.flatMap fun operation => preorder operation.1
termination_by sizeOf document
decreasing_by exact sizeOf_lt_of_mem_subdocuments operation.2

theorem preorder_eq_cons (document : Json) :
    document.preorder = document :: document.subdocuments.flatMap preorder := by
  rw [preorder]
  simp only [List.flatMap_subtype, List.unattach_attach]

end Json

/-! ### What a document says -/

/-- A document holds the five values of a location. -/
structure Json.IsLocation (document : Json) (location : Location) : Prop where
  path : document.member? "path" = some (.string location.path)
  startLine : document.member? "startLine" = some (.number location.startLine)
  startColumn : document.member? "startColumn" = some (.number location.startColumn)
  endLine : document.member? "endLine" = some (.number location.endLine)
  endColumn : document.member? "endColumn" = some (.number location.endColumn)

/-- A constant as documents write it. -/
def Constant.json : Constant → Json
  | null => .null
  | bool value => .bool value
  | number value => .number value
  | string value => .string value

/-- How documents name types, methods and fields. -/
structure Naming (τ μ φ : Type) where
  type : τ → String
  method : μ → String
  field : φ → String

/-- Names stand for themselves. -/
def Naming.raw : Naming String String String := ⟨id, id, id⟩

/-- Symbols are known by metadata names and ids. -/
def Naming.bound : Naming TypeSymbol MethodSymbol FieldSymbol :=
  ⟨TypeSymbol.metadataName, Method.id, Field.id⟩

variable {τ μ φ : Type}

namespace Operation

/-- The members that a kind has beside operations: texts, and names of methods and fields. -/
def payload (naming : Naming τ μ φ) : Operation τ μ φ → List (String × Json)
  | variableDeclaration _ variableName _ => [("local", .string variableName)]
  | localReference _ variableName => [("local", .string variableName)]
  | parameterReference _ parameter => [("parameter", .string parameter)]
  | fieldReference _ field _ => [("field", .string (naming.field field))]
  | binary _ operator _ _ => [("operator", .string operator)]
  | invocation _ method _ _ => [("method", .string (naming.method method))]
  | objectCreation _ constructorMethod _ =>
    [("constructorMethod", .ofText? (constructorMethod.map naming.method))]
  | anonymousFunction _ symbol _ => [("symbol", .string (naming.method symbol))]
  | methodReference _ method _ => [("method", .string (naming.method method))]
  | _ => []

/-- The operations directly below, member by member as `Kind.parts` lists the members. -/
def parts : Operation τ μ φ → List (List (Operation τ μ φ))
  | block _ operations => [operations]
  | expressionStatement _ operation => [[operation]]
  | variableDeclaration _ _ initializer => [initializer.toList]
  | returns _ returnedValue => [returnedValue.toList]
  | throws _ exception => [exception.toList]
  | conditional _ condition whenTrue whenFalse => [[condition], [whenTrue], whenFalse.toList]
  | literal _ => []
  | localReference _ _ => []
  | parameterReference _ _ => []
  | instanceReference _ => []
  | fieldReference _ _ receiver => [receiver.toList]
  | simpleAssignment _ target value => [target.toList, value.toList]
  | binary _ _ left right => [[left], [right]]
  | conversion _ operand => [[operand]]
  | invocation _ _ receiver arguments => [receiver.toList, arguments]
  | objectCreation _ _ arguments => [arguments]
  | delegateCreation _ target => [[target]]
  | anonymousFunction _ _ body => [[body]]
  | methodReference _ _ receiver => [receiver.toList]
  | invalid _ operations => [operations]

theorem flatten_parts (operation : Operation τ μ φ) :
    operation.parts.flatten = operation.children := by
  cases operation <;> simp [parts, children]

end Operation

/-- A document and an operation agree on everything but the operations below. A missing or null
type is no type, a missing constant is none while null is a constant, and what is not said to be
made by the host is not. -/
structure Naming.Describes (naming : Naming τ μ φ) (document : Json)
    (operation : Operation τ μ φ) : Prop where
  kind : document.member? "kind" = some (.string operation.kind.name)
  location : ∃ value, document.member? "location" = some value ∧
    value.IsLocation operation.location
  isImplicit : (document.member? "isImplicit").getD (.bool false) = .bool operation.isImplicit
  constant : document.member? "constantValue" = operation.info.constant.map Constant.json
  type : (document.member? "type").getD .null = .ofText? (operation.info.type.map naming.type)
  payload : ∀ member ∈ operation.payload naming,
    (document.member? member.1).getD .null = member.2

/-! ### Small documents -/

/-- The first character of a file. -/
def Json.fileStart : Json :=
  .object [("path", .string "Program.cs"), ("startLine", .number (.integer 1)),
    ("startColumn", .number (.integer 1)), ("endLine", .number (.integer 1)),
    ("endColumn", .number (.integer 2))]

/-- The document of an operation at the start of a file. -/
def Kind.document (kind : Kind) (members : Json.Members) : Json :=
  .object (("kind", .string kind.name) :: ("location", .fileStart) :: members)

/-! ### Reading operations -/

theorem Location.isLocation_of_read {document : Json} {location : Location}
    (returned : Location.read document = .valid location) : document.IsLocation location := by
  obtain ⟨members, rfl, fields⟩ := object_eq_valid.mp returned
  simp only [Location.ofMembers, position, seq_eq_valid, map_eq_valid, required_eq_valid,
    nonEmptyString_eq_valid] at fields
  obtain ⟨_, ⟨_, ⟨_, ⟨_, ⟨path, ⟨_, foundPath, rfl, _⟩, rfl⟩, startLine, startLineRead, rfl⟩,
    startColumn, startColumnRead, rfl⟩, endLine, endLineRead, rfl⟩,
    endColumn, endColumnRead, rfl⟩ := fields
  have number {name : String} {position : Number}
      (read : ∃ value, members.lookup name = some value ∧
        ∃ n, positiveInteger value = .valid n ∧ Number.integer n = position) :
      members.lookup name = some (.number position) := by
    obtain ⟨value, found, n, integer, rfl⟩ := read
    rw [found, (number_of_positiveInteger integer).1]
  exact ⟨foundPath, number startLineRead, number startColumnRead, number endLineRead,
    number endColumnRead⟩

theorem Constant.json_of_read {document : Json} {constant : Constant}
    (returned : Constant.read document = .valid constant) : document = constant.json := by
  cases document <;> simp [Constant.read] at returned <;> subst constant <;> rfl

/-- A text that may be missing or null. -/
theorem getD_null_of_optional {members : Json.Members} {name : String}
    {value : Option (Option String)}
    (returned : Schema.optional name (nullable string) members = .valid value) :
    (members.lookup name).getD .null = .ofText? value.join := by
  simp only [optional_eq_valid, nullable_eq_valid, string_eq_valid] at returned
  rcases returned with ⟨absent, rfl⟩ | ⟨value, found, inner, read, rfl⟩
  · rw [absent]
    rfl
  · rcases read with ⟨rfl, rfl⟩ | ⟨_, text, rfl, rfl⟩
    · rw [found]
      rfl
    · rw [found]
      rfl

/-- The part of `Naming.Describes` that all kinds share. -/
theorem Info.describes_of_ofMembers {members : Json.Members} {info : Info String}
    (returned : Info.ofMembers members = .valid info) :
    (∃ value, members.lookup "location" = some value ∧ value.IsLocation info.location) ∧
    (members.lookup "isImplicit").getD (.bool false) = .bool info.isImplicit ∧
    members.lookup "constantValue" = info.constant.map Constant.json ∧
    (members.lookup "type").getD .null = .ofText? info.type := by
  simp only [Info.ofMembers, seq_eq_valid, map_eq_valid, required_eq_valid, withDefault_eq_valid,
    boolean_eq_valid] at returned
  obtain ⟨_, ⟨_, ⟨_, ⟨type, typeRead, rfl⟩, constant, constantRead, rfl⟩, isImplicit,
    implicitRead, rfl⟩, location, ⟨value, found, locationRead⟩, rfl⟩ := returned
  refine ⟨⟨value, found, Location.isLocation_of_read locationRead⟩, ?_, ?_, ?_⟩
  · rcases implicitRead with ⟨absent, rfl⟩ | ⟨value, found, rfl⟩
    · rw [absent]
      rfl
    · rw [found]
      rfl
  · rw [optional_eq_valid] at constantRead
    rcases constantRead with ⟨absent, rfl⟩ | ⟨value, found, inner, read, rfl⟩
    · rw [absent]
      rfl
    · rw [found, Constant.json_of_read read]
      rfl
  · obtain ⟨outer, typeRead, rfl⟩ := typeRead
    exact getD_null_of_optional typeRead

/-- A document is read as an operation. -/
def Operation.Reads (document : Json) (operation : RawOperation) : Prop :=
  Operation.read document = .valid operation

theorem Operation.readElements_eq_elements (position : Nat) (values : List Json) :
    Operation.readElements position values = elements Operation.read position values := by
  induction values generalizing position with
  | nil => rw [Operation.readElements, elements]
  | cons value rest ih => rw [Operation.readElements, elements, ih]

theorem Operation.readList_eq_array (document : Json) :
    Operation.readList document = array Operation.read document := by
  cases document with
  | array values => rw [Operation.readList, Operation.readElements_eq_elements, array]
  | _ => rw [Operation.readList, array] <;> simp

theorem Operation.readList_eq_valid {document : Json} {operations : List RawOperation} :
    Operation.readList document = .valid operations ↔
      ∃ values, document = .array values ∧ List.Forall₂ Operation.Reads values operations := by
  cases document with
  | array values =>
    rw [Operation.readList, Operation.readElements_eq_elements, elements_eq_valid]
    constructor
    · intro read
      exact ⟨values, rfl, read⟩
    · rintro ⟨_, same, read⟩
      cases same
      exact read
  | _ => simp [Operation.readList]

theorem Operation.not_reads_null {operation : RawOperation} :
    ¬ Operation.Reads .null operation := by
  simp [Operation.Reads, Operation.read]

namespace Part

open Operation

theorem lookup_readAll (members : Json.Members) (name : String) :
    (readAll members).lookup name =
      (members.lookup name).map fun value => ⟨value, Operation.read value, readList value⟩ := by
  induction members with
  | nil => rw [readAll, List.lookup_nil, List.lookup_nil, Option.map_none]
  | cons member rest ih =>
    obtain ⟨key, value⟩ := member
    rw [readAll, List.lookup_cons, List.lookup_cons]
    cases name == key with
    | true => rfl
    | false => exact ih

section

variable (members : Json.Members) (name : String)

theorem required_readAll :
    Part.required name (readAll members) = Schema.required name Operation.read members := by
  rw [Part.required, Schema.required, lookup_readAll]
  cases members.lookup name <;> rfl

theorem optional_readAll :
    Part.optional name (readAll members) =
      withDefault name none (nullable Operation.read) members := by
  rw [Part.optional, withDefault, lookup_readAll]
  cases members.lookup name with
  | none => rfl
  | some value =>
    cases value with
    | null => rfl
    | _ =>
      dsimp only [Option.map_some, nullable]
      cases Operation.read _ <;> rfl

theorem requiredList_readAll :
    Part.requiredList name (readAll members) = Schema.required name readList members := by
  rw [Part.requiredList, Schema.required, lookup_readAll]
  cases members.lookup name <;> rfl

theorem optionalList_readAll :
    Part.optionalList name (readAll members) = withDefault name [] readList members := by
  rw [Part.optionalList, withDefault, lookup_readAll]
  cases members.lookup name <;> rfl

end

variable {members : Json.Members} {name : String}

theorem reads_of_required {operation : RawOperation}
    (returned : Part.required name (readAll members) = .valid operation) :
    List.Forall₂ Reads (partOperations members (name, .one)) [operation] := by
  cases found : members.lookup name with
  | none => simp [Part.required, lookup_readAll, found] at returned
  | some value =>
    have read : Operation.read value = .valid operation := by
      simpa [Part.required, lookup_readAll, found] using returned
    cases value with
    | null => exact absurd read not_reads_null
    | _ => simpa [partOperations, found, Reads] using read

theorem reads_of_optional {operation : Option RawOperation}
    (returned : Part.optional name (readAll members) = .valid operation) :
    List.Forall₂ Reads (partOperations members (name, .optional)) operation.toList := by
  cases found : members.lookup name with
  | none =>
    have absent : none = operation := by
      simpa [Part.optional, lookup_readAll, found] using returned
    simp [partOperations, found, ← absent]
  | some value =>
    cases value with
    | null =>
      have absent : none = operation := by
        simpa [Part.optional, lookup_readAll, found] using returned
      simp [partOperations, found, ← absent]
    | _ =>
      obtain ⟨inner, read, rfl⟩ : ∃ inner, Operation.read _ = .valid inner ∧
          some inner = operation := by
        simpa [Part.optional, lookup_readAll, found] using returned
      simpa [partOperations, found, Reads] using read

theorem reads_of_requiredList {operations : List RawOperation}
    (returned : Part.requiredList name (readAll members) = .valid operations) :
    List.Forall₂ Reads (partOperations members (name, .many)) operations := by
  cases found : members.lookup name with
  | none => simp [Part.requiredList, lookup_readAll, found] at returned
  | some value =>
    obtain ⟨values, rfl, read⟩ : ∃ values, value = .array values ∧
        List.Forall₂ Reads values operations := by
      simpa [Part.requiredList, lookup_readAll, found, readList_eq_valid] using returned
    simpa [partOperations, found] using read

theorem reads_of_optionalList {operations : List RawOperation}
    (returned : Part.optionalList name (readAll members) = .valid operations) :
    List.Forall₂ Reads (partOperations members (name, .many)) operations := by
  cases found : members.lookup name with
  | none =>
    have empty : [] = operations := by
      simpa [Part.optionalList, lookup_readAll, found] using returned
    simp [partOperations, found, ← empty]
  | some value =>
    obtain ⟨values, rfl, read⟩ : ∃ values, value = .array values ∧
        List.Forall₂ Reads values operations := by
      simpa [Part.optionalList, lookup_readAll, found, readList_eq_valid] using returned
    simpa [partOperations, found] using read

end Part

namespace Operation

/-- The documents in each declared member are read as the operations of that part. -/
def PartsRead (members : Json.Members) (operation : RawOperation) : Prop :=
  List.Forall₂ (fun part operations => List.Forall₂ Reads (partOperations members part) operations)
    operation.kind.parts operation.parts

/-- What it takes to read an operation of a kind. This is the one place where the format is opened
kind by kind. -/
theorem ofParts_step {kind : Kind} {members : Json.Members} {operation : RawOperation}
    (returned : ofParts kind members (Part.readAll members) = .valid operation) :
    operation.kind = kind ∧ Info.ofMembers members = .valid operation.info ∧
    (∀ member ∈ operation.payload Naming.raw, (members.lookup member.1).getD .null = member.2) ∧
    PartsRead members operation := by
  cases kind <;>
    simp only [ofParts, seq_eq_valid, map_eq_valid, required_eq_valid, string_eq_valid] at returned
  case block =>
    obtain ⟨_, ⟨info, infoRead, rfl⟩, below, read, rfl⟩ := returned
    exact ⟨rfl, infoRead, by simp [payload], .cons (Part.reads_of_requiredList read) .nil⟩
  case expressionStatement =>
    obtain ⟨_, ⟨info, infoRead, rfl⟩, below, read, rfl⟩ := returned
    exact ⟨rfl, infoRead, by simp [payload], .cons (Part.reads_of_required read) .nil⟩
  case variableDeclaration =>
    obtain ⟨_, ⟨_, ⟨info, infoRead, rfl⟩, text, ⟨_, found, rfl⟩, rfl⟩, below, read, rfl⟩ := returned
    exact ⟨rfl, infoRead, by simp [payload, found],
      .cons (Part.reads_of_optional read) .nil⟩
  case returns =>
    obtain ⟨_, ⟨info, infoRead, rfl⟩, below, read, rfl⟩ := returned
    exact ⟨rfl, infoRead, by simp [payload], .cons (Part.reads_of_optional read) .nil⟩
  case throws =>
    obtain ⟨_, ⟨info, infoRead, rfl⟩, below, read, rfl⟩ := returned
    exact ⟨rfl, infoRead, by simp [payload], .cons (Part.reads_of_optional read) .nil⟩
  case conditional =>
    obtain ⟨_, ⟨_, ⟨_, ⟨info, infoRead, rfl⟩, condition, first, rfl⟩, whenTrue, second, rfl⟩,
      whenFalse, third, rfl⟩ := returned
    exact ⟨rfl, infoRead, by simp [payload], .cons (Part.reads_of_required first)
      (.cons (Part.reads_of_required second) (.cons (Part.reads_of_optional third) .nil))⟩
  case literal =>
    obtain ⟨info, infoRead, rfl⟩ := returned
    exact ⟨rfl, infoRead, by simp [payload], .nil⟩
  case localReference =>
    obtain ⟨_, ⟨info, infoRead, rfl⟩, text, ⟨_, found, rfl⟩, rfl⟩ := returned
    exact ⟨rfl, infoRead, by simp [payload, found], .nil⟩
  case parameterReference =>
    obtain ⟨_, ⟨info, infoRead, rfl⟩, text, ⟨_, found, rfl⟩, rfl⟩ := returned
    exact ⟨rfl, infoRead, by simp [payload, found], .nil⟩
  case instanceReference =>
    obtain ⟨info, infoRead, rfl⟩ := returned
    exact ⟨rfl, infoRead, by simp [payload], .nil⟩
  case fieldReference =>
    obtain ⟨_, ⟨_, ⟨info, infoRead, rfl⟩, text, ⟨_, found, rfl⟩, rfl⟩, below, read, rfl⟩ := returned
    exact ⟨rfl, infoRead, by simp [payload, found, Naming.raw],
      .cons (Part.reads_of_optional read) .nil⟩
  case simpleAssignment =>
    obtain ⟨_, ⟨_, ⟨info, infoRead, rfl⟩, target, first, rfl⟩, value, second, rfl⟩ := returned
    exact ⟨rfl, infoRead, by simp [payload], .cons (Part.reads_of_optional first)
      (.cons (Part.reads_of_optional second) .nil)⟩
  case binary =>
    obtain ⟨_, ⟨_, ⟨_, ⟨info, infoRead, rfl⟩, text, ⟨_, found, rfl⟩, rfl⟩, left, first, rfl⟩,
      right, second, rfl⟩ := returned
    exact ⟨rfl, infoRead, by simp [payload, found], .cons (Part.reads_of_required first)
      (.cons (Part.reads_of_required second) .nil)⟩
  case conversion =>
    obtain ⟨_, ⟨info, infoRead, rfl⟩, below, read, rfl⟩ := returned
    exact ⟨rfl, infoRead, by simp [payload], .cons (Part.reads_of_required read) .nil⟩
  case invocation =>
    obtain ⟨_, ⟨_, ⟨_, ⟨info, infoRead, rfl⟩, text, ⟨_, found, rfl⟩, rfl⟩, receiver, first, rfl⟩,
      arguments, second, rfl⟩ := returned
    exact ⟨rfl, infoRead, by simp [payload, found, Naming.raw],
      .cons (Part.reads_of_optional first) (.cons (Part.reads_of_optionalList second) .nil)⟩
  case objectCreation =>
    obtain ⟨_, ⟨_, ⟨info, infoRead, rfl⟩, _, ⟨constructorMethod, found, rfl⟩, rfl⟩,
      arguments, read, rfl⟩ := returned
    refine ⟨rfl, infoRead, ?_, .cons (Part.reads_of_optionalList read) .nil⟩
    simp only [payload, Naming.raw, List.mem_singleton, forall_eq, Option.map_id_fun, id_eq]
    exact getD_null_of_optional found
  case delegateCreation =>
    obtain ⟨_, ⟨info, infoRead, rfl⟩, below, read, rfl⟩ := returned
    exact ⟨rfl, infoRead, by simp [payload], .cons (Part.reads_of_required read) .nil⟩
  case anonymousFunction =>
    obtain ⟨_, ⟨_, ⟨info, infoRead, rfl⟩, text, ⟨_, found, rfl⟩, rfl⟩, below, read, rfl⟩ := returned
    exact ⟨rfl, infoRead, by simp [payload, found, Naming.raw],
      .cons (Part.reads_of_required read) .nil⟩
  case methodReference =>
    obtain ⟨_, ⟨_, ⟨info, infoRead, rfl⟩, text, ⟨_, found, rfl⟩, rfl⟩, below, read, rfl⟩ := returned
    exact ⟨rfl, infoRead, by simp [payload, found, Naming.raw],
      .cons (Part.reads_of_optional read) .nil⟩
  case invalid =>
    obtain ⟨_, ⟨info, infoRead, rfl⟩, below, read, rfl⟩ := returned
    exact ⟨rfl, infoRead, by simp [payload], .cons (Part.reads_of_optionalList read) .nil⟩

/-- The document of an operation is an object, and its members are read part by part. -/
theorem Reads.parts {document : Json} {operation : RawOperation} (read : Reads document operation) :
    ∃ members, document = .object members ∧ Kind.ofMembers? members = some operation.kind ∧
      PartsRead members operation := by
  cases document with
  | object members =>
    cases named : Kind.ofMembers? members with
    | none => simp [Reads, Operation.read, named] at read
    | some kind =>
      have returned : ofParts kind members (Part.readAll members) = .valid operation := by
        simpa [Reads, Operation.read, named] using read
      obtain ⟨same, _, _, parts⟩ := ofParts_step returned
      exact ⟨members, rfl, by rw [named, same], parts⟩
  | _ => simp [Reads, Operation.read] at read

theorem kind_of_ofMembers? {members : Json.Members} {kind : Kind}
    (named : Kind.ofMembers? members = some kind) :
    members.lookup "kind" = some (.string kind.name) := by
  cases found : members.lookup "kind" with
  | none => simp [Kind.ofMembers?, found] at named
  | some value =>
    cases value with
    | string name =>
      have matched := List.find?_some (p := fun kind : Kind => kind.name == name) (by
        simpa [Kind.ofMembers?, found, Kind.ofName?] using named)
      simp only [beq_iff_eq] at matched
      rw [matched]
    | _ => simp [Kind.ofMembers?, found] at named

/-- What is read is what the document says. -/
theorem Reads.describes {document : Json} {operation : RawOperation}
    (read : Reads document operation) : Naming.raw.Describes document operation := by
  obtain ⟨members, rfl, named, _⟩ := read.parts
  have returned : ofParts operation.kind members (Part.readAll members) = .valid operation := by
    simpa [Reads, Operation.read, named] using read
  obtain ⟨_, infoRead, payloadRead, _⟩ := ofParts_step returned
  obtain ⟨location, isImplicit, constant, type⟩ := Info.describes_of_ofMembers infoRead
  refine ⟨kind_of_ofMembers? named, location, isImplicit, constant, ?_, payloadRead⟩
  rw [Naming.raw, Option.map_id_fun, id_eq]
  exact type

end Operation

/-! ### Whole trees -/

/-- A relation that passes from an operation to its children passes to the whole pre-order. -/
theorem forall₂_preorder {R : Json → Operation τ μ φ → Prop}
    (step : ∀ {document operation}, R document operation →
      List.Forall₂ R document.subdocuments operation.children)
    {document : Json} {operation : Operation τ μ φ} (related : R document operation) :
    List.Forall₂ R document.preorder operation.descendantsAndSelf := by
  induction operation using Operation.children_induction generalizing document with
  | step operation ih =>
    rw [Json.preorder_eq_cons, Operation.descendantsAndSelf_eq_cons]
    exact .cons related (forall₂_flatMap_of_mem (step related) fun _ child inside pair =>
      ih child inside pair)

end OperationLint
