import OperationLint.Compilation.Basic
import OperationLint.Compilation.Defect
import OperationLint.Snapshot.Basic

/-!
# Binding

Replaces the names of a snapshot by what they name. Tables are bound in order, types, methods,
fields and blocks, each after a check that its keys are unique; the first defect ends it.

A type is bound after the types above it: its base type, then its interfaces in order. Types that
are bound already are taken as they are, so that a type below many paths is bound once. A type that
is met again while types above it are being bound stands above itself.
-/

namespace OperationLint

/-- The first key that occurred before. -/
def firstRepeated? (seen : List String) : List String → Option String
  | [] => none
  | key :: rest => if seen.contains key then some key else firstRepeated? (key :: seen) rest

/-- Refuses keys that are not unique. -/
def requireUnique (table : Table) (keys : List String) : Except Defect Unit :=
  match firstRepeated? [] keys with
  | some key => .error (.duplicate table key)
  | none => .ok ()

/-! ### Types -/

/-- What binding a type looks at: the declared types, and the names that own a destructor. -/
structure TypeScope where
  entries : List TypeEntry
  finalizerOwners : List String

/-- The declared types of a snapshot. -/
def Snapshot.typeScope (snapshot : Snapshot) : TypeScope where
  entries := snapshot.types
  finalizerOwners := (snapshot.methods.filter (·.kind = .destructor)).map (·.containingType)

namespace TypeScope

def entry? (scope : TypeScope) (name : String) : Option TypeEntry :=
  scope.entries.find? (·.metadataName == name)

/-- The symbol of an entry, given those above it. -/
def symbol (scope : TypeScope) (entry : TypeEntry) (baseType : Option TypeSymbol)
    (interfaces : List TypeSymbol) : TypeSymbol where
  metadataName := entry.metadataName
  kind := entry.kind
  specialType := entry.specialType
  baseType := baseType
  interfaces := interfaces
  declaresFinalizer := scope.finalizerOwners.contains entry.metadataName
  locations := entry.locations

/-- Binds names in order, each after what the ones before it left bound. -/
def bindEach (bindOne : String → List TypeSymbol → Except Defect (TypeSymbol × List TypeSymbol)) :
    List String → List TypeSymbol → Except Defect (List TypeSymbol × List TypeSymbol)
  | [], bound => .ok ([], bound)
  | name :: rest, bound => do
    let (symbol, bound) ← bindOne name bound
    let (symbols, bound) ← bindEach bindOne rest bound
    return (symbol :: symbols, bound)

/-- Binds a type by name, and with it the types above it. The trail holds the names whose binding
is under way. They are distinct and declared, so with a step for each declared type every name is
on the trail when the steps run out. -/
def bind (scope : TypeScope) (steps : Nat) (trail : List String) (referrer : Referrer)
    (name : String) (bound : List TypeSymbol) : Except Defect (TypeSymbol × List TypeSymbol) :=
  match bound.find? (·.metadataName == name) with
  | some symbol => .ok (symbol, bound)
  | none =>
    match scope.entry? name with
    | none => .error (.unknownType name referrer)
    | some entry =>
      if trail.contains name then .error (.inheritsFromItself name)
      else
        match steps with
        | 0 => .error (.inheritsFromItself name)
        | steps + 1 => do
          let bindAbove := bind scope steps (name :: trail) (.type name)
          let (bases, bound) ← bindEach bindAbove entry.baseType.toList bound
          let (interfaces, bound) ← bindEach bindAbove entry.interfaces bound
          let symbol := scope.symbol entry bases.head? interfaces
          return (symbol, symbol :: bound)
termination_by structural steps

/-- Binds every declared type, in the order of declaration. -/
def bindAll (scope : TypeScope) : Except Defect (List TypeSymbol) :=
  Prod.fst <$> bindEach (scope.bind scope.entries.length [] .declarations)
    (scope.entries.map (·.metadataName)) []

end TypeScope

/-! ### Methods and fields -/

/-- The bound types. -/
abbrev Types := List TypeSymbol

def Types.bind (types : Types) (referrer : Referrer) (name : String) : Except Defect TypeSymbol :=
  match types.find? (·.metadataName == name) with
  | some symbol => .ok symbol
  | none => .error (.unknownType name referrer)

def Parameter.bind (types : Types) (referrer : Referrer) (parameter : Parameter String) :
    Except Defect (Parameter TypeSymbol) := do
  return { parameter with type := ← types.bind referrer parameter.type }

def Method.bind (types : Types) (entry : MethodEntry) : Except Defect MethodSymbol := do
  let referrer := Referrer.method entry.id
  let containingType ← types.bind referrer entry.containingType
  let returnType ← entry.returnType.mapM (types.bind referrer)
  let parameters ← entry.parameters.mapM (Parameter.bind types referrer)
  return { entry with containingType, returnType, parameters }

def Field.bind (types : Types) (entry : FieldEntry) : Except Defect FieldSymbol := do
  let referrer := Referrer.field entry.id
  let containingType ← types.bind referrer entry.containingType
  let type ← types.bind referrer entry.type
  return { entry with containingType, type }

/-! ### Operations -/

/-- What binding an operation looks at. -/
structure Symbols where
  types : Types
  methods : List MethodSymbol
  fields : List FieldSymbol

namespace Symbols

def method (symbols : Symbols) (path : Json.Path) (id : String) : Except Defect MethodSymbol :=
  match symbols.methods.find? (·.id == id) with
  | some symbol => .ok symbol
  | none => .error (.unknownMethod path id)

def field (symbols : Symbols) (path : Json.Path) (id : String) : Except Defect FieldSymbol :=
  match symbols.fields.find? (·.id == id) with
  | some symbol => .ok symbol
  | none => .error (.unknownField path id)

end Symbols

def Info.bind (types : Types) (path : Json.Path) (info : Info String) :
    Except Defect (Info TypeSymbol) := do
  return { info with type := ← info.type.mapM (types.bind (.operation path)) }

/-- Refuses an operation that is no block. -/
def requireBlock (path : Json.Path) (operation : BoundOperation) : Except Defect BoundOperation :=
  if operation.kind = .block then .ok operation
  else .error (.expectedBlock path operation.kind)

namespace Operation

mutual

/-- Binds the operation at a path: its type, then the symbols it names, then the operations below
it in order. -/
def bind (symbols : Symbols) (path : Json.Path) : RawOperation → Except Defect BoundOperation
  | block info operations => do
    return block (← info.bind symbols.types path)
      (← bindList symbols (path ++ [.key "operations"]) 0 operations)
  | expressionStatement info operation => do
    return expressionStatement (← info.bind symbols.types path)
      (← operation.bind symbols (path ++ [.key "operation"]))
  | variableDeclaration info variableName initializer => do
    return variableDeclaration (← info.bind symbols.types path) variableName
      (← bindOption symbols (path ++ [.key "initializer"]) initializer)
  | returns info returnedValue => do
    return returns (← info.bind symbols.types path)
      (← bindOption symbols (path ++ [.key "returnedValue"]) returnedValue)
  | throws info exception => do
    return throws (← info.bind symbols.types path)
      (← bindOption symbols (path ++ [.key "exception"]) exception)
  | conditional info condition whenTrue whenFalse => do
    return conditional (← info.bind symbols.types path)
      (← condition.bind symbols (path ++ [.key "condition"]))
      (← whenTrue.bind symbols (path ++ [.key "whenTrue"]))
      (← bindOption symbols (path ++ [.key "whenFalse"]) whenFalse)
  | literal info => do
    return literal (← info.bind symbols.types path)
  | localReference info variableName => do
    return localReference (← info.bind symbols.types path) variableName
  | parameterReference info parameter => do
    return parameterReference (← info.bind symbols.types path) parameter
  | instanceReference info => do
    return instanceReference (← info.bind symbols.types path)
  | fieldReference info field receiver => do
    return fieldReference (← info.bind symbols.types path) (← symbols.field path field)
      (← bindOption symbols (path ++ [.key "instance"]) receiver)
  | simpleAssignment info target value => do
    return simpleAssignment (← info.bind symbols.types path)
      (← bindOption symbols (path ++ [.key "target"]) target)
      (← bindOption symbols (path ++ [.key "value"]) value)
  | binary info operator left right => do
    return binary (← info.bind symbols.types path) operator
      (← left.bind symbols (path ++ [.key "left"]))
      (← right.bind symbols (path ++ [.key "right"]))
  | conversion info operand => do
    return conversion (← info.bind symbols.types path)
      (← operand.bind symbols (path ++ [.key "operand"]))
  | invocation info method receiver arguments => do
    return invocation (← info.bind symbols.types path) (← symbols.method path method)
      (← bindOption symbols (path ++ [.key "instance"]) receiver)
      (← bindList symbols (path ++ [.key "arguments"]) 0 arguments)
  | objectCreation info constructorMethod arguments => do
    return objectCreation (← info.bind symbols.types path)
      (← constructorMethod.mapM (symbols.method path))
      (← bindList symbols (path ++ [.key "arguments"]) 0 arguments)
  | delegateCreation info target => do
    return delegateCreation (← info.bind symbols.types path)
      (← target.bind symbols (path ++ [.key "target"]))
  | anonymousFunction info symbol body => do
    return anonymousFunction (← info.bind symbols.types path) (← symbols.method path symbol)
      (← requireBlock (path ++ [.key "body"]) (← body.bind symbols (path ++ [.key "body"])))
  | methodReference info method receiver => do
    return methodReference (← info.bind symbols.types path) (← symbols.method path method)
      (← bindOption symbols (path ++ [.key "instance"]) receiver)
  | invalid info operations => do
    return invalid (← info.bind symbols.types path)
      (← bindList symbols (path ++ [.key "children"]) 0 operations)

/-- Binds an operation if there is one. -/
def bindOption (symbols : Symbols) (path : Json.Path) :
    Option RawOperation → Except Defect (Option BoundOperation)
  | none => .ok none
  | some operation => some <$> operation.bind symbols path

/-- Binds the operations from a position of a list on. -/
def bindList (symbols : Symbols) (path : Json.Path) :
    Nat → List RawOperation → Except Defect (List BoundOperation)
  | _, [] => .ok []
  | position, operation :: rest => do
    return (← operation.bind symbols (path ++ [.index position])) ::
      (← bindList symbols path (position + 1) rest)

end

end Operation

/-! ### Blocks and compilations -/

def CodeBlock.bind (symbols : Symbols) (path : Json.Path) (entry : BlockEntry) :
    Except Defect BoundBlock := do
  let owner ← symbols.method path entry.owner
  let body ← entry.body.bind symbols (path ++ [.key "body"])
  let body ← requireBlock (path ++ [.key "body"]) body
  return { entry with owner, body }

/-- Binds the blocks from a position on. -/
def bindBlocks (symbols : Symbols) : Nat → List BlockEntry → Except Defect (List BoundBlock)
  | _, [] => .ok []
  | position, entry :: rest => do
    return (← entry.bind symbols [.key "operationBlocks", .index position]) ::
      (← bindBlocks symbols (position + 1) rest)

/-- The compilation of a snapshot, or its first defect. -/
def Snapshot.bind (snapshot : Snapshot) : Except Defect Compilation := do
  requireUnique .types (snapshot.types.map (·.metadataName))
  let types ← snapshot.typeScope.bindAll
  requireUnique .methods (snapshot.methods.map (·.id))
  let methods ← snapshot.methods.mapM (Method.bind types)
  requireUnique .fields (snapshot.fields.map (·.id))
  let fields ← snapshot.fields.mapM (Field.bind types)
  requireUnique .blocks (snapshot.blocks.map (·.owner))
  let blocks ← bindBlocks ⟨types, methods, fields⟩ 0 snapshot.blocks
  return { assemblyName := snapshot.assemblyName, types, methods, fields, blocks }

end OperationLint
