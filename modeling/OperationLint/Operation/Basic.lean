import OperationLint.Symbol.Basic

/-!
# Operation trees

What a method body does, as a tree. `Operation τ μ φ` refers to types, methods and fields by `τ`,
`μ` and `φ`: names before binding, symbols after it.
-/

namespace OperationLint

/-! ### Kinds -/

inductive Kind where
  | block
  | expressionStatement
  | variableDeclaration
  | returns
  | throws
  | conditional
  | literal
  | localReference
  | parameterReference
  | instanceReference
  | fieldReference
  | simpleAssignment
  | binary
  | conversion
  | invocation
  | objectCreation
  | delegateCreation
  | anonymousFunction
  | methodReference
  | invalid
  deriving DecidableEq

/-- The kinds in the order of the format. -/
def Kind.all : List Kind :=
  [.block, .expressionStatement, .variableDeclaration, .returns, .throws, .conditional, .literal,
    .localReference, .parameterReference, .instanceReference, .fieldReference, .simpleAssignment,
    .binary, .conversion, .invocation, .objectCreation, .delegateCreation, .anonymousFunction,
    .methodReference, .invalid]

def Kind.name : Kind → String
  | .block => "Block"
  | .expressionStatement => "ExpressionStatement"
  | .variableDeclaration => "VariableDeclaration"
  | .returns => "Return"
  | .throws => "Throw"
  | .conditional => "Conditional"
  | .literal => "Literal"
  | .localReference => "LocalReference"
  | .parameterReference => "ParameterReference"
  | .instanceReference => "InstanceReference"
  | .fieldReference => "FieldReference"
  | .simpleAssignment => "SimpleAssignment"
  | .binary => "Binary"
  | .conversion => "Conversion"
  | .invocation => "Invocation"
  | .objectCreation => "ObjectCreation"
  | .delegateCreation => "DelegateCreation"
  | .anonymousFunction => "AnonymousFunction"
  | .methodReference => "MethodReference"
  | .invalid => "Invalid"

/-- The kind of a name. -/
def Kind.ofName? (name : String) : Option Kind := Kind.all.find? (·.name == name)

/-! ### Operations -/

/-- A value known at compile time. -/
inductive Constant where
  | null
  | bool (value : Bool)
  | number (value : Number)
  | string (value : String)
  deriving DecidableEq

/-- What every operation has. -/
structure Info (τ : Type) where
  type : Option τ
  constant : Option Constant
  /-- Made by the host rather than written by the user. -/
  isImplicit : Bool
  location : Location

inductive Operation (τ μ φ : Type) where
  | block (info : Info τ) (operations : List (Operation τ μ φ))
  | expressionStatement (info : Info τ) (operation : Operation τ μ φ)
  | variableDeclaration (info : Info τ) (variableName : String)
      (initializer : Option (Operation τ μ φ))
  | returns (info : Info τ) (returnedValue : Option (Operation τ μ φ))
  | throws (info : Info τ) (exception : Option (Operation τ μ φ))
  | conditional (info : Info τ) (condition whenTrue : Operation τ μ φ)
      (whenFalse : Option (Operation τ μ φ))
  | literal (info : Info τ)
  | localReference (info : Info τ) (variableName : String)
  | parameterReference (info : Info τ) (parameter : String)
  | instanceReference (info : Info τ)
  | fieldReference (info : Info τ) (field : φ) (receiver : Option (Operation τ μ φ))
  /-- A target that did not bind is missing. -/
  | simpleAssignment (info : Info τ) (target value : Option (Operation τ μ φ))
  | binary (info : Info τ) (operator : String) (left right : Operation τ μ φ)
  | conversion (info : Info τ) (operand : Operation τ μ φ)
  | invocation (info : Info τ) (method : μ) (receiver : Option (Operation τ μ φ))
      (arguments : List (Operation τ μ φ))
  | objectCreation (info : Info τ) (constructorMethod : Option μ)
      (arguments : List (Operation τ μ φ))
  | delegateCreation (info : Info τ) (target : Operation τ μ φ)
  | anonymousFunction (info : Info τ) (symbol : μ) (body : Operation τ μ φ)
  | methodReference (info : Info τ) (method : μ) (receiver : Option (Operation τ μ φ))
  | invalid (info : Info τ) (operations : List (Operation τ μ φ))

namespace Operation

variable {τ μ φ : Type}

def kind : Operation τ μ φ → Kind
  | block .. => .block
  | expressionStatement .. => .expressionStatement
  | variableDeclaration .. => .variableDeclaration
  | returns .. => .returns
  | throws .. => .throws
  | conditional .. => .conditional
  | literal .. => .literal
  | localReference .. => .localReference
  | parameterReference .. => .parameterReference
  | instanceReference .. => .instanceReference
  | fieldReference .. => .fieldReference
  | simpleAssignment .. => .simpleAssignment
  | binary .. => .binary
  | conversion .. => .conversion
  | invocation .. => .invocation
  | objectCreation .. => .objectCreation
  | delegateCreation .. => .delegateCreation
  | anonymousFunction .. => .anonymousFunction
  | methodReference .. => .methodReference
  | invalid .. => .invalid

def info : Operation τ μ φ → Info τ
  | block info _ => info
  | expressionStatement info _ => info
  | variableDeclaration info _ _ => info
  | returns info _ => info
  | throws info _ => info
  | conditional info _ _ _ => info
  | literal info => info
  | localReference info _ => info
  | parameterReference info _ => info
  | instanceReference info => info
  | fieldReference info _ _ => info
  | simpleAssignment info _ _ => info
  | binary info _ _ _ => info
  | conversion info _ => info
  | invocation info _ _ _ => info
  | objectCreation info _ _ => info
  | delegateCreation info _ => info
  | anonymousFunction info _ _ => info
  | methodReference info _ _ => info
  | invalid info _ => info

def isImplicit (operation : Operation τ μ φ) : Bool := operation.info.isImplicit

def location (operation : Operation τ μ φ) : Location := operation.info.location

/-- The operations directly below, in source order. -/
def children : Operation τ μ φ → List (Operation τ μ φ)
  | block _ operations => operations
  | expressionStatement _ operation => [operation]
  | variableDeclaration _ _ initializer => initializer.toList
  | returns _ returnedValue => returnedValue.toList
  | throws _ exception => exception.toList
  | conditional _ condition whenTrue whenFalse => condition :: whenTrue :: whenFalse.toList
  | literal _ => []
  | localReference _ _ => []
  | parameterReference _ _ => []
  | instanceReference _ => []
  | fieldReference _ _ receiver => receiver.toList
  | simpleAssignment _ target value => target.toList ++ value.toList
  | binary _ _ left right => [left, right]
  | conversion _ operand => [operand]
  | invocation _ _ receiver arguments => receiver.toList ++ arguments
  | objectCreation _ _ arguments => arguments
  | delegateCreation _ target => [target]
  | anonymousFunction _ _ body => [body]
  | methodReference _ _ receiver => receiver.toList
  | invalid _ operations => operations

end Operation

/-- The body of a method. -/
structure CodeBlock (τ μ φ : Type) where
  owner : μ
  isGenerated : Bool
  body : Operation τ μ φ

/-- An operation that refers by name. -/
abbrev RawOperation := Operation String String String

/-- An operation that refers to symbols. -/
abbrev BoundOperation := Operation TypeSymbol MethodSymbol FieldSymbol

end OperationLint
