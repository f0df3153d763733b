import Mathlib.Data.List.FinRange
import Mathlib.Data.List.Lex
import Mathlib.Logic.Function.Iterate
import OperationLint.Proofs.Traversal

/-!
# The pre-order of a tree

A walk works off a stack, and what it visits is the pre-order of the tree. The pre-order is said
here twice without a stack: by recursion over the children, and by positions. A position names a
place in a tree by the way down to it, so equal operations in different places are kept apart.

## Main result

`descendants_preorder`: the walk below an operation is the recursive pre-order, its loop ends after
one round for each operation, and it visits every position below the root once, an operation before
those below it and all of a child's tree before the next child.

## Proof strategy

One round of the loop moves the next operation from the walk of the stack to what has been visited;
the run is an induction on the rounds. The positions of a tree are those of its children, each
behind the number of the child, and the lexicographic order of positions is the order of the walk.
-/

namespace OperationLint.Operation

variable {τ μ φ : Type}

/-! ### The pre-order by recursion -/

theorem wellFounded_children :
    WellFounded fun child operation : Operation τ μ φ => child ∈ operation.children :=
  ⟨children_induction fun operation below => Acc.intro operation below⟩

/-- The pre-order below an operation: the children that are to be entered, in order, each followed
by the pre-order below it. -/
def preorder (enters : Operation τ μ φ → Bool) (operation : Operation τ μ φ) :
    List (Operation τ μ φ) :=
  operation.children.attach.flatMap fun child =>
    if enters child.1 then child.1 :: child.1.preorder enters else []
termination_by wellFounded_children.wrap operation
decreasing_by exact child.2

theorem preorder_eq_flatMap (enters : Operation τ μ φ → Bool) (operation : Operation τ μ φ) :
    operation.preorder enters = operation.children.flatMap fun child =>
      if enters child then child :: child.preorder enters else [] := by
  rw [preorder]
  conv_rhs => rw [← List.attach_map_subtype_val operation.children, List.flatMap_map]

theorem descendants_eq_preorder (root : Operation τ μ φ) :
    root.descendants = root.preorder fun _ => true := by
  induction root using children_induction with
  | step root ih =>
    rw [descendants_eq_flatMap, preorder_eq_flatMap]
    simp only [if_true]
    refine List.flatMap_congr fun child below => ?_
    rw [descendantsAndSelf, ih child below]

/-! ### The loop -/

theorem walk_eq_nil_iff {stack : List (Operation τ μ φ)} : walk stack = [] ↔ stack = [] := by
  cases stack <;> simp [walk]

/-- A walk under way: what it has visited, and the stack of what it has still to visit, the top
first. -/
structure Loop (τ μ φ : Type) where
  visited : List (Operation τ μ φ)
  stack : List (Operation τ μ φ)

namespace Loop

/-- Pushes operations one at a time from the last to the first, which ends up on top. -/
def pushAll (operations stack : List (Operation τ μ φ)) : List (Operation τ μ φ) :=
  operations.reverse.foldl (fun stack operation => operation :: stack) stack

/-- Before the first round the children of the root are on the stack. -/
def start (root : Operation τ μ φ) : Loop τ μ φ := ⟨[], pushAll root.children []⟩

/-- One round visits the top of the stack and pushes its children. -/
def round : Loop τ μ φ → Loop τ μ φ
  | ⟨visited, []⟩ => ⟨visited, []⟩
  | ⟨visited, top :: rest⟩ => ⟨visited ++ [top], pushAll top.children rest⟩

theorem pushAll_eq_append (operations stack : List (Operation τ μ φ)) :
    pushAll operations stack = operations ++ stack := by
  simp [pushAll]

/-- A round takes the next operation off what is still to come. -/
theorem round_step (loop : Loop τ μ φ) :
    loop.round.visited = loop.visited ++ (walk loop.stack).take 1 ∧
      walk loop.round.stack = (walk loop.stack).drop 1 := by
  obtain ⟨visited, stack⟩ := loop
  cases stack with
  | nil => simp [round, walk]
  | cons top rest =>
    rw [walk, round, pushAll_eq_append]
    exact ⟨rfl, rfl⟩

/-- After some rounds as many operations have moved from the walk of the stack to the visited
ones. -/
theorem rounds_run (loop : Loop τ μ φ) (rounds : Nat) :
    (round^[rounds] loop).visited = loop.visited ++ (walk loop.stack).take rounds ∧
      walk (round^[rounds] loop).stack = (walk loop.stack).drop rounds := by
  induction rounds generalizing loop with
  | zero => simp
  | succ rounds ih =>
    -- One round, and then the others from where it leaves the loop.
    obtain ⟨visited, stack⟩ := ih loop.round
    obtain ⟨visitedOne, stackOne⟩ := round_step loop
    rw [Function.iterate_succ_apply, visited, stack, visitedOne, stackOne]
    constructor
    · rw [List.append_assoc, ← List.take_add, Nat.add_comm]
    · rw [List.drop_drop, Nat.add_comm]

end Loop

/-! ### Positions -/

/-- A place in a tree: from the root downwards, which child to take. -/
abbrev Position := List Nat

/-- The operation at a position, if the tree goes that far. -/
def at? (operation : Operation τ μ φ) : Position → Option (Operation τ μ φ)
  | [] => some operation
  | step :: rest => operation.children[step]?.bind (·.at? rest)

/-- The positions below an operation, in pre-order. -/
def positions (operation : Operation τ μ φ) : List Position :=
  (List.finRange operation.children.length).flatMap fun step =>
    ([] :: (operation.children.get step).positions).map (step.val :: ·)
termination_by wellFounded_children.wrap operation
decreasing_by exact List.get_mem operation.children step

theorem at?_cons_eq_some {operation node : Operation τ μ φ} {step : Nat} {rest : Position} :
    operation.at? (step :: rest) = some node ↔
      ∃ child, operation.children[step]? = some child ∧ child.at? rest = some node := by
  rw [at?, Option.bind_eq_some_iff]

theorem at?_append (operation : Operation τ μ φ) (upper lower : Position) :
    operation.at? (upper ++ lower) = (operation.at? upper).bind (·.at? lower) := by
  induction upper generalizing operation with
  | nil => rfl
  | cons step rest ih =>
    rw [List.cons_append, at?, at?, Option.bind_assoc]
    exact Option.bind_congr fun child _ => ih child

theorem nil_not_mem_positions (operation : Operation τ μ φ) : [] ∉ operation.positions := by
  rw [positions]
  simp

theorem mem_positions_cons {operation : Operation τ μ φ} {step : Nat} {rest : Position} :
    step :: rest ∈ operation.positions ↔
      ∃ child, operation.children[step]? = some child ∧ rest ∈ [] :: child.positions := by
  rw [positions]
  simp only [List.mem_flatMap, List.mem_finRange, true_and, List.mem_map]
  constructor
  · rintro ⟨index, lower, inside, same⟩
    obtain ⟨rfl, rfl⟩ := List.cons.inj same
    exact ⟨operation.children.get index, by simp, inside⟩
  · rintro ⟨child, found, inside⟩
    obtain ⟨bound, rfl⟩ := List.getElem?_eq_some_iff.mp found
    exact ⟨⟨step, bound⟩, rest, inside, rfl⟩

/-- The positions are those that lead somewhere, without that of the root. -/
theorem mem_positions {operation : Operation τ μ φ} {position : Position} :
    position ∈ operation.positions ↔ position ≠ [] ∧ (operation.at? position).isSome = true := by
  induction position generalizing operation with
  | nil => simp [nil_not_mem_positions]
  | cons step rest ih =>
    rw [mem_positions_cons, at?]
    cases operation.children[step]? with
    | none => simp
    | some child =>
      -- A position of a child is its root or lies below it.
      have lower : rest ∈ [] :: child.positions ↔ (child.at? rest).isSome = true := by
        rw [List.mem_cons, ih]
        by_cases root : rest = []
        · simp [root, at?]
        · simp [root]
      simpa using lower

/-- A walk visits what stands at the positions, in their order. -/
theorem map_at?_positions (operation : Operation τ μ φ) :
    operation.positions.map operation.at? = operation.descendants.map some := by
  induction operation using children_induction with
  | step operation ih =>
    have throughChild (step : Fin operation.children.length) :
        (([] :: (operation.children.get step).positions).map (step.val :: ·)).map operation.at? =
          (operation.children.get step).descendantsAndSelf.map some := by
      have found : operation.children[step.val]? = some (operation.children.get step) := by simp
      have lower : operation.at? ∘ (step.val :: ·) = (operation.children.get step).at? := by
        funext rest
        rw [Function.comp_apply, at?, found, Option.bind_some]
      rw [List.map_map, lower, List.map_cons, ih _ (List.get_mem _ _), at?, descendantsAndSelf,
        List.map_cons]
    rw [positions, List.map_flatMap, descendants_eq_flatMap, List.map_flatMap]
    simp only [throughChild]
    -- Going through the numbers of the children is going through the children.
    conv_rhs => rw [← List.map_get_finRange operation.children, List.flatMap_map]

/-- The positions ascend: one comes before those below it, and those through an earlier child
before those through a later one. -/
theorem positions_ascend (operation : Operation τ μ φ) :
    operation.positions.Pairwise (List.Lex (· < ·)) := by
  induction operation using children_induction with
  | step operation ih =>
    rw [positions, List.pairwise_flatMap]
    constructor
    · intro step _
      rw [List.pairwise_map, List.pairwise_cons]
      constructor
      · intro lower inside
        cases lower with
        | nil => exact absurd inside (nil_not_mem_positions _)
        | cons next rest => exact .cons .nil
      · exact (ih _ (List.get_mem operation.children step)).imp fun earlier => .cons earlier
    · refine (List.pairwise_lt_finRange _).imp ?_
      intro left right earlier first inFirst second inSecond
      obtain ⟨_, _, rfl⟩ := List.mem_map.mp inFirst
      obtain ⟨_, _, rfl⟩ := List.mem_map.mp inSecond
      exact .rel earlier

/-- Of two members of an ascending list, the lesser one stands first. -/
theorem sublist_of_ascending {positions : List Position}
    (ascend : positions.Pairwise (List.Lex (· < ·))) {first second : Position}
    (inFirst : first ∈ positions) (inSecond : second ∈ positions)
    (earlier : List.Lex (· < ·) first second) : [first, second].Sublist positions := by
  induction ascend with
  | nil => cases inFirst
  | cons least _ ih =>
    rcases List.mem_cons.mp inFirst with rfl | firstLater
    · rcases List.mem_cons.mp inSecond with same | secondLater
      · exact absurd (same ▸ earlier) (irrefl _)
      · exact (List.singleton_sublist.mpr secondLater).cons_cons _
    · rcases List.mem_cons.mp inSecond with rfl | secondLater
      · exact absurd earlier (asymm (least first firstLater))
      · exact (ih firstLater secondLater).cons _

/-! ### The walk -/

/-- A list of operations goes through the positions below a root as a pre-order does. -/
structure Enumerates (root : Operation τ μ φ) (operations : List (Operation τ μ φ))
    (positions : List Position) : Prop where
  /-- The operations are those at the positions. -/
  visits : operations.map some = positions.map root.at?
  once : positions.Nodup
  /-- Every position of the tree is there but that of the root. -/
  complete : ∀ position, position ∈ positions ↔ position ≠ [] ∧ (root.at? position).isSome = true
  /-- An operation comes before those below it. -/
  downwards : ∀ position step rest, position ∈ positions → position ++ step :: rest ∈ positions →
    [position, position ++ step :: rest].Sublist positions
  /-- All of a child's tree comes before the later children with their trees. -/
  sideways : ∀ parent left right first second, left < right →
    parent ++ left :: first ∈ positions → parent ++ right :: second ∈ positions →
    [parent ++ left :: first, parent ++ right :: second].Sublist positions

theorem enumerates_positions (root : Operation τ μ φ) :
    Enumerates root root.descendants root.positions where
  visits := (map_at?_positions root).symm
  once := by
    refine (positions_ascend root).imp ?_
    rintro first _ earlier rfl
    exact irrefl first earlier
  complete := fun _ => mem_positions
  downwards := by
    intro position step rest upper lower
    refine sublist_of_ascending (positions_ascend root) upper lower ?_
    simpa using List.Lex.append_left (· < ·) (List.Lex.nil (a := step) (l := rest)) position
  sideways := by
    intro parent left right first second earlier inFirst inSecond
    exact sublist_of_ascending (positions_ascend root) inFirst inSecond
      (List.Lex.append_left (· < ·) (.rel earlier) parent)

/-- The walk below an operation is the recursive pre-order, and with the operation in front it is
that of the whole tree. The loop has visited as many operations of the pre-order as it made rounds,
and its stack is empty once all are visited. The operations visited are those at the positions below
the root, each position once and in the order of a pre-order. -/
theorem descendants_preorder (root : Operation τ μ φ) :
    root.descendants = root.children.flatMap
      (fun child => child :: child.preorder fun _ => true) ∧
    root.descendantsAndSelf = root :: root.preorder (fun _ => true) ∧
    (∀ rounds,
      (Loop.round^[rounds] (Loop.start root)).visited = root.descendants.take rounds ∧
      ((Loop.round^[rounds] (Loop.start root)).stack = [] ↔ root.descendants.length ≤ rounds)) ∧
    ∃ positions, Enumerates root root.descendants positions := by
  refine ⟨?_, ?_, ?_, root.positions, enumerates_positions root⟩
  · rw [descendants_eq_preorder, preorder_eq_flatMap]
    simp only [if_true]
  · rw [descendantsAndSelf, descendants_eq_preorder]
  · intro rounds
    obtain ⟨visited, stack⟩ := Loop.rounds_run (Loop.start root) rounds
    have begun : walk (Loop.start root).stack = root.descendants := by
      rw [Loop.start, Loop.pushAll_eq_append, List.append_nil, descendants]
    rw [begun] at visited stack
    refine ⟨by rw [visited, Loop.start, List.nil_append], ?_⟩
    rw [← walk_eq_nil_iff, stack, List.drop_eq_nil_iff]

end OperationLint.Operation
