import OperationLint.Operation.Walk

/-!
# Walks as pre-orders

The stack of a walk is a forest that is still to be visited. Walks of two stacks one on top of the
other follow each other, so a walk visits each tree of its stack completely before the next one,
and `descendantsAndSelf` satisfies the equation of a pre-order. Every fact about whole trees is
then an induction from the children of an operation to the operation.
-/

namespace OperationLint.Operation

variable {τ μ φ : Type}

theorem walk_append (front back : List (Operation τ μ φ)) :
    walk (front ++ back) = walk front ++ walk back := by
  fun_induction walk front with
  | case1 => rfl
  | case2 operation stack ih =>
    rw [List.cons_append, walk, ← List.append_assoc, ih, List.cons_append]

/-- One tree on the stack is visited from its root downwards. -/
theorem walk_singleton (operation : Operation τ μ φ) :
    walk [operation] = operation.descendantsAndSelf := by
  rw [walk, List.append_nil, descendantsAndSelf, descendants]

/-- A walk visits the trees of its stack one after the other. -/
theorem walk_eq_flatMap (stack : List (Operation τ μ φ)) :
    walk stack = stack.flatMap descendantsAndSelf := by
  induction stack with
  | nil => rw [walk, List.flatMap_nil]
  | cons operation stack ih =>
    rw [← List.singleton_append, walk_append, walk_singleton, ih, List.flatMap_append,
      List.flatMap_singleton]

/-- Below an operation stand its children, each with everything below it. -/
theorem descendants_eq_flatMap (operation : Operation τ μ φ) :
    operation.descendants = operation.children.flatMap descendantsAndSelf :=
  walk_eq_flatMap operation.children

/-- The equation of a pre-order. -/
theorem descendantsAndSelf_eq_cons (operation : Operation τ μ φ) :
    operation.descendantsAndSelf =
      operation :: operation.children.flatMap descendantsAndSelf := by
  rw [descendantsAndSelf, descendants_eq_flatMap]

/-- Induction from the children of an operation to the operation. The stack of a walk is what
shrinks: it loses an operation and gains only the children. -/
theorem children_induction {P : Operation τ μ φ → Prop}
    (step : ∀ operation : Operation τ μ φ, (∀ child ∈ operation.children, P child) → P operation)
    (operation : Operation τ μ φ) : P operation := by
  have forest (stack : List (Operation τ μ φ)) : ∀ member ∈ stack, P member := by
    fun_induction walk stack with
    | case1 => simp
    | case2 operation stack ih =>
      intro member inside
      rcases List.mem_cons.mp inside with rfl | later
      · exact step member fun child below => ih child (List.mem_append_left _ below)
      · exact ih member (List.mem_append_right _ later)
  exact forest [operation] operation (List.mem_singleton_self operation)

/-- What holds of every operation of a tree holds of its root and of the trees below. -/
theorem forall_mem_descendantsAndSelf {P : Operation τ μ φ → Prop} (operation : Operation τ μ φ) :
    (∀ node ∈ operation.descendantsAndSelf, P node) ↔
      P operation ∧ ∀ child ∈ operation.children, ∀ node ∈ child.descendantsAndSelf, P node := by
  rw [descendantsAndSelf_eq_cons, List.forall_mem_cons]
  simp only [List.mem_flatMap, forall_exists_index, and_imp]
  constructor
  · rintro ⟨root, below⟩
    exact ⟨root, fun child inside node visited => below node child inside visited⟩
  · rintro ⟨root, below⟩
    exact ⟨root, fun node child inside visited => below child inside node visited⟩

theorem isFullySynthesized_eq_true {operation : Operation τ μ φ} :
    operation.isFullySynthesized = true ↔
      ∀ node ∈ operation.descendantsAndSelf, node.isImplicit = true := by
  simp [isFullySynthesized, descendantsAndSelf]

end OperationLint.Operation
