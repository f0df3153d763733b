import OperationLint.Proofs.PreorderPositions

/-!
# Trees without what the host made

`withoutSynthesized` looks at each operation of a walk on its own and asks about the whole tree
below it. A tree that the host made altogether holds only such trees, so what goes goes as a whole:
the operations that stay are those of a walk that leaves such trees out.

## Main result

`withoutSynthesized_prunes`: filtering the walk below an operation is walking the pruned tree, and
the positions that stay are those with written code at them or below them.
-/

namespace OperationLint.Operation

variable {τ μ φ : Type}

/-! ### Trees of the host -/

theorem mem_descendants_iff {operation node : Operation τ μ φ} :
    node ∈ operation.descendants ↔
      ∃ position, position ≠ [] ∧ operation.at? position = some node := by
  rw [← List.mem_map_of_injective (Option.some_injective _), ← map_at?_positions, List.mem_map]
  refine exists_congr fun position => ?_
  rw [mem_positions, and_assoc]
  refine and_congr_right fun _ => and_iff_right_of_imp ?_
  intro found
  rw [found, Option.isSome_some]

theorem mem_descendantsAndSelf_iff {operation node : Operation τ μ φ} :
    node ∈ operation.descendantsAndSelf ↔ ∃ position, operation.at? position = some node := by
  rw [descendantsAndSelf, List.mem_cons, mem_descendants_iff]
  constructor
  · rintro (rfl | ⟨position, _, found⟩)
    · exact ⟨[], rfl⟩
    · exact ⟨position, found⟩
  · rintro ⟨position, found⟩
    by_cases root : position = []
    · subst root
      exact .inl (Option.some.inj found).symm
    · exact .inr ⟨position, root, found⟩

/-- The host made everything in the tree. -/
def Synthesized (operation : Operation τ μ φ) : Prop :=
  ∀ position node, operation.at? position = some node → node.isImplicit = true

theorem synthesized_iff_forall {operation : Operation τ μ φ} :
    operation.Synthesized ↔ ∀ node ∈ operation.descendantsAndSelf, node.isImplicit = true := by
  simp only [Synthesized, mem_descendantsAndSelf_iff, forall_exists_index]
  exact forall_comm

theorem isFullySynthesized_iff {operation : Operation τ μ φ} :
    operation.isFullySynthesized = true ↔ operation.Synthesized :=
  isFullySynthesized_eq_true.trans synthesized_iff_forall.symm

instance : DecidablePred (Synthesized : Operation τ μ φ → Prop) :=
  fun _ => decidable_of_iff _ isFullySynthesized_iff

/-- The trees inside a tree of the host are of the host. -/
theorem Synthesized.inside {operation node : Operation τ μ φ} {position : Position}
    (synthesized : operation.Synthesized) (found : operation.at? position = some node) :
    node.Synthesized := by
  intro lower inner reached
  refine synthesized (position ++ lower) inner ?_
  rw [at?_append, found, Option.bind_some, reached]

theorem synthesized_iff_children {operation : Operation τ μ φ} :
    operation.Synthesized ↔
      operation.isImplicit = true ∧ ∀ child ∈ operation.children, child.Synthesized := by
  simp only [synthesized_iff_forall]
  exact forall_mem_descendantsAndSelf operation

theorem not_synthesized_iff {operation : Operation τ μ φ} :
    ¬ operation.Synthesized ↔
      ∃ position node, operation.at? position = some node ∧ node.isImplicit = false := by
  simp [Synthesized]

/-! ### Pruning -/

theorem withoutSynthesized_eq_filter (operations : List (Operation τ μ φ)) :
    withoutSynthesized operations = operations.filter fun operation => ¬ operation.Synthesized := by
  refine List.filter_congr fun operation _ => ?_
  rw [decide_not, Bool.not_inj_iff, Bool.eq_iff_iff, isFullySynthesized_iff, decide_eq_true_iff]

theorem withoutSynthesized_descendantsAndSelf (operation : Operation τ μ φ) :
    withoutSynthesized operation.descendantsAndSelf = if operation.Synthesized then []
      else operation :: withoutSynthesized operation.descendants := by
  rw [withoutSynthesized_eq_filter, withoutSynthesized_eq_filter]
  by_cases synthesized : operation.Synthesized
  · -- Every operation of the tree is the root of a tree of the host, so none stays.
    rw [if_pos synthesized, List.filter_eq_nil_iff]
    intro node visited
    obtain ⟨position, found⟩ := mem_descendantsAndSelf_iff.mp visited
    simpa using synthesized.inside found
  · rw [if_neg synthesized, descendantsAndSelf]
    exact List.filter_cons_of_pos (by simpa using synthesized)

/-- The filtered walk leaves out the children that the host made and does the same below the
others. -/
theorem withoutSynthesized_descendants (operation : Operation τ μ φ) :
    withoutSynthesized operation.descendants = operation.children.flatMap fun child =>
      if child.Synthesized then [] else child :: withoutSynthesized child.descendants := by
  rw [descendants_eq_flatMap, withoutSynthesized, List.filter_flatMap]
  exact List.flatMap_congr fun child _ => withoutSynthesized_descendantsAndSelf child

theorem withoutSynthesized_eq_preorder (root : Operation τ μ φ) :
    withoutSynthesized root.descendants =
      root.preorder fun operation => ¬ operation.Synthesized := by
  induction root using children_induction with
  | step root ih =>
    rw [withoutSynthesized_descendants, preorder_eq_flatMap]
    refine List.flatMap_congr fun child below => ?_
    rw [ih child below]
    by_cases synthesized : child.Synthesized <;> simp [synthesized]

/-! ### Positions that stay -/

/-- Of all positions below a root those are kept that hold written code or lead to some. -/
structure Prunes (root : Operation τ μ φ) (all kept : List Position) : Prop where
  ordered : kept.Sublist all
  kept_iff : ∀ position ∈ all, position ∈ kept ↔
    ∃ rest node, root.at? (position ++ rest) = some node ∧ node.isImplicit = false
  /-- What stands above something kept is kept, up to the root. -/
  upwards : ∀ position rest, position ≠ [] → position ++ rest ∈ kept → position ∈ kept
  /-- What stands below something dropped is dropped. -/
  downwards : ∀ position ∈ all, position ∉ kept → ∀ rest, position ++ rest ∉ kept
  written : ∀ position ∈ all, ∀ node, root.at? position = some node → node.isImplicit = false →
    position ∈ kept

/-- The positions below a root at which something else stands than a tree of the host. -/
def writtenPositions (root : Operation τ μ φ) : List Position :=
  root.positions.filter fun position => (root.at? position).any fun node => ¬ node.Synthesized

theorem map_at?_writtenPositions (root : Operation τ μ φ) :
    root.writtenPositions.map root.at? = (withoutSynthesized root.descendants).map some := by
  let written (node : Option (Operation τ μ φ)) : Bool := node.any fun node => ¬ node.Synthesized
  calc root.writtenPositions.map root.at?
      = (root.positions.map root.at?).filter written := by
        rw [List.filter_map]
        rfl
    _ = (root.descendants.map some).filter written := by rw [map_at?_positions]
    _ = (withoutSynthesized root.descendants).map some := by
        rw [List.filter_map, withoutSynthesized_eq_filter]
        rfl

theorem mem_writtenPositions {root : Operation τ μ φ} {position : Position} :
    position ∈ root.writtenPositions ↔ position ≠ [] ∧
      ∃ rest node, root.at? (position ++ rest) = some node ∧ node.isImplicit = false := by
  rw [writtenPositions, List.mem_filter, mem_positions, and_assoc]
  refine and_congr_right fun _ => ?_
  cases found : root.at? position with
  | none => simp [at?_append, found]
  | some node => simp [at?_append, found, not_synthesized_iff]

theorem prunes_writtenPositions (root : Operation τ μ φ) :
    Prunes root root.positions root.writtenPositions where
  ordered := List.filter_sublist
  kept_iff := by
    intro position inside
    rw [mem_writtenPositions]
    exact and_iff_right (mem_positions.mp inside).1
  upwards := by
    intro position rest below kept
    obtain ⟨_, lower, node, found, explicit⟩ := mem_writtenPositions.mp kept
    rw [List.append_assoc] at found
    exact mem_writtenPositions.mpr ⟨below, rest ++ lower, node, found, explicit⟩
  downwards := by
    intro position inside dropped rest kept
    obtain ⟨_, lower, node, found, explicit⟩ := mem_writtenPositions.mp kept
    rw [List.append_assoc] at found
    exact dropped (mem_writtenPositions.mpr
      ⟨(mem_positions.mp inside).1, rest ++ lower, node, found, explicit⟩)
  written := by
    intro position inside node found explicit
    refine mem_writtenPositions.mpr ⟨(mem_positions.mp inside).1, [], node, ?_, explicit⟩
    rw [List.append_nil, found]

/-- Filtering what the host made from the walk below an operation is walking the tree without the
subtrees that the host made altogether. -/
theorem withoutSynthesized_prunes (root : Operation τ μ φ) :
    withoutSynthesized root.descendants =
      root.preorder (fun operation => ¬ operation.Synthesized) ∧
    ∃ all kept, Enumerates root root.descendants all ∧ Prunes root all kept ∧
      (withoutSynthesized root.descendants).map some = kept.map root.at? :=
  ⟨withoutSynthesized_eq_preorder root, root.positions, root.writtenPositions,
    enumerates_positions root, prunes_writtenPositions root, (map_at?_writtenPositions root).symm⟩

end OperationLint.Operation
