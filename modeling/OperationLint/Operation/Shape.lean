import OperationLint.Json.Writer
import OperationLint.Operation.Basic

/-!
# The shape of operations as documents

Which members of an operation hold operations, kind by kind, in source order. The children of a
document are the operations in these members.
-/

namespace OperationLint

/-- How many operations a member holds. -/
inductive Arity where
  | one
  | optional
  | many
  deriving DecidableEq

/-- The members that hold operations. -/
def Kind.parts : Kind → List (String × Arity)
  | .block => [("operations", .many)]
  | .expressionStatement => [("operation", .one)]
  | .variableDeclaration => [("initializer", .optional)]
  | .returns => [("returnedValue", .optional)]
  | .throws => [("exception", .optional)]
  | .conditional => [("condition", .one), ("whenTrue", .one), ("whenFalse", .optional)]
  | .literal => []
  | .localReference => []
  | .parameterReference => []
  | .instanceReference => []
  | .fieldReference => [("instance", .optional)]
  | .simpleAssignment => [("target", .optional), ("value", .optional)]
  | .binary => [("left", .one), ("right", .one)]
  | .conversion => [("operand", .one)]
  | .invocation => [("instance", .optional), ("arguments", .many)]
  | .objectCreation => [("arguments", .many)]
  | .delegateCreation => [("target", .one)]
  | .anonymousFunction => [("body", .one)]
  | .methodReference => [("instance", .optional)]
  | .invalid => [("children", .many)]

/-- The kind that members name. -/
def Kind.ofMembers? (members : Json.Members) : Option Kind :=
  match members.lookup "kind" with
  | some (.string name) => Kind.ofName? name
  | _ => none

/-- The operations in a member; a missing one and null hold none. -/
def partOperations (members : Json.Members) : String × Arity → List Json
  | (name, .many) =>
    match members.lookup name with
    | some (.array operations) => operations
    | _ => []
  | (name, _) =>
    match members.lookup name with
    | none => []
    | some .null => []
    | some operation => [operation]

/-- The documents directly below an operation, or a message about a document that is none. -/
def Json.operations (document : Json) : Except String (List Json) :=
  let unexpected := "Unexpected operation: " ++ document.compact
  match document with
  | .object members =>
    match Kind.ofMembers? members with
    | some kind => .ok (kind.parts.flatMap (partOperations members))
    | none => .error unexpected
  | _ => .error unexpected

end OperationLint
