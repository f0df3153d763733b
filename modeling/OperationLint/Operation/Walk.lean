import OperationLint.Operation.Basic
import OperationLint.Stack

/-!
# Walks over operation trees

`descendants` walks depth first with a stack of operations still to visit: the top one is visited,
and its children take its place. An operation is fully synthesized when the host made it and
everything below it.
-/

namespace OperationLint.Operation

variable {τ μ φ : Type}

private theorem sizeOf_toList_le {α : Type} [SizeOf α] (value : Option α) :
    sizeOf value.toList ≤ sizeOf value + 1 := by
  cases value with
  | none => simp
  | some _ => simp

private theorem sizeOf_info_pos (info : Info τ) : 0 < sizeOf info := by
  cases info
  simp only [Info.mk.sizeOf_spec]
  omega

private theorem sizeOf_children_le (operation : Operation τ μ φ) :
    sizeOf operation.children ≤ sizeOf operation + 1 := by
  have info := sizeOf_info_pos operation.info
  cases operation with
  | variableDeclaration _ _ value | returns _ value | throws _ value | conditional _ _ _ value
  | fieldReference _ _ value | methodReference _ _ value =>
    have := sizeOf_toList_le value
    simp [children, Operation.info] at *
    omega
  | simpleAssignment _ target value =>
    have := sizeOf_toList_le target
    have := sizeOf_toList_le value
    have := Stack.sizeOf_append target.toList value.toList
    simp [children]
    omega
  | invocation _ _ receiver arguments =>
    have := sizeOf_toList_le receiver
    have := Stack.sizeOf_append receiver.toList arguments
    simp [children]
    omega
  | binary =>
    simp [children, Operation.info] at *
    omega
  | _ => simp [children] <;> omega

/-- The operations visited from a stack, top first. -/
def walk : List (Operation τ μ φ) → List (Operation τ μ φ)
  | [] => []
  | operation :: stack => operation :: walk (operation.children ++ stack)
termination_by stack => sizeOf stack
decreasing_by exact Stack.sizeOf_replace_lt (sizeOf_children_le operation) stack

/-- Everything below an operation, depth first, an operation before those below it. -/
def descendants (operation : Operation τ μ φ) : List (Operation τ μ φ) := walk operation.children

/-- An operation and everything below it. -/
def descendantsAndSelf (operation : Operation τ μ φ) : List (Operation τ μ φ) :=
  operation :: operation.descendants

/-- The host made the operation and everything below it. -/
def isFullySynthesized (operation : Operation τ μ φ) : Bool :=
  operation.isImplicit && operation.descendants.all isImplicit

/-- Drops what is fully synthesized; a wrapper of the host around written code stays. -/
def withoutSynthesized (operations : List (Operation τ μ φ)) : List (Operation τ μ φ) :=
  operations.filter fun operation => !operation.isFullySynthesized

end OperationLint.Operation
