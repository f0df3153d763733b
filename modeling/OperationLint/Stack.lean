/-!
# Stacks

A stack of what is still to be done is a list, its top first. Work on the top takes it off and may
put other things in its place. That ends when what is put there is part of what was taken off,
because the stack as a whole gets smaller.
-/

namespace OperationLint.Stack

theorem sizeOf_append {α : Type} [SizeOf α] (xs ys : List α) :
    sizeOf (xs ++ ys) + 1 = sizeOf xs + sizeOf ys := by
  induction xs with
  | nil => simp; omega
  | cons x xs ih => simp; omega

theorem sizeOf_reverse {α : Type} [SizeOf α] (xs : List α) : sizeOf xs.reverse = sizeOf xs := by
  induction xs with
  | nil => simp
  | cons x xs ih =>
    have := sizeOf_append xs.reverse [x]
    simp at *
    omega

/-- A stack gets smaller when parts of its top take the place of the top. -/
theorem sizeOf_replace_lt {α : Type} [SizeOf α] {top : α} {parts : List α}
    (smaller : sizeOf parts ≤ sizeOf top + 1) (stack : List α) :
    sizeOf (parts ++ stack) < sizeOf (top :: stack) := by
  have := sizeOf_append parts stack
  simp only [List.cons.sizeOf_spec]
  omega

end OperationLint.Stack
