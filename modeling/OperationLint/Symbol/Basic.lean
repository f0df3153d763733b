import OperationLint.Location

/-!
# Symbols

Types, methods and fields of a compilation. A method or field mentions types, and the same record
serves before and after binding: `Method String` names its types, `Method TypeSymbol` holds them.
A bound type holds its base type and its listed interfaces, so the types above it are its subterms.
-/

namespace OperationLint

/-! ### Classifications -/

inductive TypeKind where
  | classType
  | structType
  | interfaceType
  | delegateType
  | enumType
  deriving DecidableEq

/-- The kinds in the order of the format. -/
def TypeKind.all : List TypeKind :=
  [.classType, .structType, .interfaceType, .delegateType, .enumType]

def TypeKind.name : TypeKind → String
  | .classType => "class"
  | .structType => "struct"
  | .interfaceType => "interface"
  | .delegateType => "delegate"
  | .enumType => "enum"

/-- Types that the host knows by role rather than by name. -/
inductive SpecialType where
  | none
  | object
  | boolean
  | void
  | int32
  | string
  | intPtr
  | uintPtr
  deriving DecidableEq

/-- The roles in the order of the format. -/
def SpecialType.all : List SpecialType :=
  [.none, .object, .boolean, .void, .int32, .string, .intPtr, .uintPtr]

def SpecialType.name : SpecialType → String
  | .none => "None"
  | .object => "System_Object"
  | .boolean => "System_Boolean"
  | .void => "System_Void"
  | .int32 => "System_Int32"
  | .string => "System_String"
  | .intPtr => "System_IntPtr"
  | .uintPtr => "System_UIntPtr"

inductive MethodKind where
  | ordinary
  | constructor
  | destructor
  | lambda
  | accessor
  deriving DecidableEq

/-- The kinds in the order of the format. -/
def MethodKind.all : List MethodKind := [.ordinary, .constructor, .destructor, .lambda, .accessor]

def MethodKind.name : MethodKind → String
  | .ordinary => "ordinary"
  | .constructor => "constructor"
  | .destructor => "destructor"
  | .lambda => "lambda"
  | .accessor => "accessor"

/-! ### Types -/

/-- A bound type. -/
structure TypeSymbol where
  metadataName : String
  kind : TypeKind
  specialType : SpecialType
  baseType : Option TypeSymbol
  interfaces : List TypeSymbol
  /-- A destructor of this very type is declared; those of base types do not count. -/
  declaresFinalizer : Bool
  locations : List Location

namespace TypeSymbol

/-- The part of the metadata name behind its last point. -/
def name (type : TypeSymbol) : String :=
  String.ofList ((type.metadataName.toList.reverse.takeWhile (· != '.')).reverse)

def isValueType (type : TypeSymbol) : Bool := type.kind = .structType || type.kind = .enumType

/-- A type is known by its metadata name. -/
def sameAs (a b : TypeSymbol) : Bool := a.metadataName == b.metadataName

end TypeSymbol

/-! ### Methods and fields -/

/-- The native function that a method stands for. -/
structure DllImport where
  moduleName : String
  entryPoint : Option String
  deriving DecidableEq

structure Parameter (τ : Type) where
  name : String
  type : τ

/-- A method; without a return type it returns nothing. -/
structure Method (τ : Type) where
  id : String
  name : String
  containingType : τ
  kind : MethodKind
  returnType : Option τ
  parameters : List (Parameter τ)
  isStatic : Bool
  dllImport : Option DllImport

structure Field (τ : Type) where
  id : String
  name : String
  containingType : τ
  type : τ
  isStatic : Bool

abbrev MethodSymbol := Method TypeSymbol

abbrev FieldSymbol := Field TypeSymbol

end OperationLint
