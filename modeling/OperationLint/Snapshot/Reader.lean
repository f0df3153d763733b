import OperationLint.Operation.Shape
import OperationLint.Snapshot.Basic

/-!
# The snapshot format

Which JSON values are snapshots, and what they say. Members that the format does not name are
ignored. A missing member with a default stands for the default; null is read like any other value.

Operations are read by recursion on the value: every member of an object is first read as an
operation and as a list of operations, and the kind then decides which of these readings count.
-/

namespace OperationLint

open Schema

/-! ### Types, methods and fields -/

def TypeEntry.ofMembers (members : Json.Members) : Validation TypeEntry :=
  TypeEntry.mk
    <$> required "metadataName" nonEmptyString members
    <*> required "typeKind" (oneOf TypeKind.all TypeKind.name) members
    <*> withDefault "specialType" .none (oneOf SpecialType.all SpecialType.name) members
    <*> withDefault "baseType" none (nullable string) members
    <*> withDefault "interfaces" [] (array string) members
    <*> withDefault "locations" [] (array Location.read) members

def Parameter.ofMembers (members : Json.Members) : Validation (Parameter String) :=
  Parameter.mk <$> required "name" string members <*> required "type" string members

def DllImport.ofMembers (members : Json.Members) : Validation DllImport :=
  DllImport.mk
    <$> required "moduleName" nonEmptyString members
    <*> withDefault "entryPoint" none (nullable string) members

def Method.ofMembers (members : Json.Members) : Validation MethodEntry :=
  Method.mk
    <$> required "id" nonEmptyString members
    <*> required "name" nonEmptyString members
    <*> required "containingType" string members
    <*> withDefault "methodKind" .ordinary (oneOf MethodKind.all MethodKind.name) members
    <*> withDefault "returnType" none (nullable string) members
    <*> withDefault "parameters" [] (array (object Parameter.ofMembers)) members
    <*> withDefault "isStatic" false boolean members
    <*> withDefault "dllImport" none (nullable (object DllImport.ofMembers)) members

def Field.ofMembers (members : Json.Members) : Validation FieldEntry :=
  Field.mk
    <$> required "id" nonEmptyString members
    <*> required "name" nonEmptyString members
    <*> required "containingType" string members
    <*> required "type" string members
    <*> withDefault "isStatic" false boolean members

/-! ### Operations -/

/-- A constant is any scalar, null among them. -/
def Constant.read : Json → Validation Constant
  | .null => .valid .null
  | .bool value => .valid (.bool value)
  | .number value => .valid (.number value)
  | .string value => .valid (.string value)
  | _ => .fail .noAlternative

def Info.ofMembers (members : Json.Members) : Validation (Info String) :=
  Info.mk
    <$> Option.join <$> optional "type" (nullable string) members
    <*> optional "constantValue" Constant.read members
    <*> withDefault "isImplicit" false boolean members
    <*> required "location" Location.read members

/-- A member of an operation, with its readings as one operation and as several. -/
structure Part where
  value : Json
  operation : Validation RawOperation
  operations : Validation (List RawOperation)

namespace Part

/-- An operation that has to be there. -/
def required (name : String) (parts : List (String × Part)) : Validation RawOperation :=
  match parts.lookup name with
  | some part => part.operation.under (.key name)
  | none => (Validation.fail .required).under (.key name)

/-- An operation that may be missing or null. -/
def optional (name : String) (parts : List (String × Part)) : Validation (Option RawOperation) :=
  match parts.lookup name with
  | some ⟨.null, _, _⟩ => .valid none
  | some part => some <$> part.operation.under (.key name)
  | none => .valid none

/-- A list of operations that has to be there. -/
def requiredList (name : String) (parts : List (String × Part)) :
    Validation (List RawOperation) :=
  match parts.lookup name with
  | some part => part.operations.under (.key name)
  | none => (Validation.fail .required).under (.key name)

/-- A list of operations, empty when missing. -/
def optionalList (name : String) (parts : List (String × Part)) :
    Validation (List RawOperation) :=
  match parts.lookup name with
  | some part => part.operations.under (.key name)
  | none => .valid []

end Part

/-- An operation of a kind from its members and their readings. -/
def Operation.ofParts (kind : Kind) (members : Json.Members) (parts : List (String × Part)) :
    Validation RawOperation :=
  let info := Info.ofMembers members
  match kind with
  | .block => block <$> info <*> Part.requiredList "operations" parts
  | .expressionStatement => expressionStatement <$> info <*> Part.required "operation" parts
  | .variableDeclaration =>
    variableDeclaration <$> info <*> required "local" string members
      <*> Part.optional "initializer" parts
  | .returns => returns <$> info <*> Part.optional "returnedValue" parts
  | .throws => throws <$> info <*> Part.optional "exception" parts
  | .conditional =>
    conditional <$> info <*> Part.required "condition" parts <*> Part.required "whenTrue" parts
      <*> Part.optional "whenFalse" parts
  | .literal => literal <$> info
  | .localReference => localReference <$> info <*> required "local" string members
  | .parameterReference => parameterReference <$> info <*> required "parameter" string members
  | .instanceReference => instanceReference <$> info
  | .fieldReference =>
    fieldReference <$> info <*> required "field" string members <*> Part.optional "instance" parts
  | .simpleAssignment =>
    simpleAssignment <$> info <*> Part.optional "target" parts <*> Part.optional "value" parts
  | .binary =>
    binary <$> info <*> required "operator" string members <*> Part.required "left" parts
      <*> Part.required "right" parts
  | .conversion => conversion <$> info <*> Part.required "operand" parts
  | .invocation =>
    invocation <$> info <*> required "method" string members <*> Part.optional "instance" parts
      <*> Part.optionalList "arguments" parts
  | .objectCreation =>
    objectCreation <$> info
      <*> Option.join <$> Schema.optional "constructorMethod" (nullable string) members
      <*> Part.optionalList "arguments" parts
  | .delegateCreation => delegateCreation <$> info <*> Part.required "target" parts
  | .anonymousFunction =>
    anonymousFunction <$> info <*> required "symbol" string members <*> Part.required "body" parts
  | .methodReference =>
    methodReference <$> info <*> required "method" string members <*> Part.optional "instance" parts
  | .invalid => invalid <$> info <*> Part.optionalList "children" parts

mutual

/-- The operation that a value describes. An object without a kind has no other issue. -/
def Operation.read : Json → Validation RawOperation
  | .object members =>
    match Kind.ofMembers? members with
    | some kind => Operation.ofParts kind members (Part.readAll members)
    | none => (Validation.fail (.unknownTag (Kind.all.map Kind.name))).under (.key "kind")
  | other => .fail (.wrongForm .object other.form)

/-- The operations that an array describes. -/
def Operation.readList : Json → Validation (List RawOperation)
  | .array values => Operation.readElements 0 values
  | other => .fail (.wrongForm .array other.form)

/-- Operations from a position of an array on. -/
def Operation.readElements : Nat → List Json → Validation (List RawOperation)
  | _, [] => .valid []
  | position, value :: rest =>
    List.cons <$> (Operation.read value).under (.index position)
      <*> Operation.readElements (position + 1) rest

/-- The readings of all members. -/
def Part.readAll : Json.Members → List (String × Part)
  | [] => []
  | (name, value) :: rest =>
    (name, ⟨value, Operation.read value, Operation.readList value⟩) :: Part.readAll rest

end

/-! ### Snapshots -/

def CodeBlock.ofMembers (members : Json.Members) : Validation BlockEntry :=
  CodeBlock.mk
    <$> required "owner" string members
    <*> withDefault "isGenerated" false boolean members
    <*> required "body" Operation.read members

def Snapshot.ofMembers (members : Json.Members) : Validation Snapshot :=
  Snapshot.mk
    <$> required "assemblyName" nonEmptyString members
    <*> required "types" (array (object TypeEntry.ofMembers)) members
    <*> withDefault "methods" [] (array (object Method.ofMembers)) members
    <*> withDefault "fields" [] (array (object Field.ofMembers)) members
    <*> withDefault "operationBlocks" [] (array (object CodeBlock.ofMembers)) members

/-- The snapshot that a value describes. -/
def Snapshot.read : Json → Validation Snapshot := object Snapshot.ofMembers

end OperationLint
