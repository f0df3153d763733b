import OperationLint.Operation.Basic

/-!
# Defects

Why a snapshot of the right shape is no compilation: a name is declared twice, or named without
being declared, or a type stands above itself, or a body is no block.
-/

namespace OperationLint

/-- The tables of a snapshot whose keys are unique. -/
inductive Table where
  | types
  | methods
  | fields
  | blocks
  deriving DecidableEq

/-- What an entry of a table is called in messages. -/
def Table.entry : Table → String
  | types => "type"
  | methods => "method"
  | fields => "field"
  | blocks => "operation block owner"

/-- Where a type is named: in the list of types, by another entry, or by an operation. -/
inductive Referrer where
  | declarations
  | type (name : String)
  | method (id : String)
  | field (id : String)
  | operation (path : Json.Path)
  deriving DecidableEq

def Referrer.text : Referrer → String
  | declarations => "types"
  | type name => "type '" ++ name ++ "'"
  | method id => "method '" ++ id ++ "'"
  | field id => "field '" ++ id ++ "'"
  | operation path => path.text

inductive Defect where
  | duplicate (table : Table) (key : String)
  | unknownType (name : String) (referrer : Referrer)
  | inheritsFromItself (name : String)
  | unknownMethod (path : Json.Path) (id : String)
  | unknownField (path : Json.Path) (id : String)
  | expectedBlock (path : Json.Path) (found : Kind)
  deriving DecidableEq

def Defect.message : Defect → String
  | duplicate table key => "duplicate " ++ table.entry ++ " '" ++ key ++ "'"
  | unknownType name referrer =>
    "unknown type '" ++ name ++ "' referenced from " ++ referrer.text
  | inheritsFromItself name => "type '" ++ name ++ "' inherits from itself"
  | unknownMethod path id => path.text ++ ": unknown method '" ++ id ++ "'"
  | unknownField path id => path.text ++ ": unknown field '" ++ id ++ "'"
  | expectedBlock path found =>
    path.text ++ ": expected a Block operation, found " ++ found.name

end OperationLint
