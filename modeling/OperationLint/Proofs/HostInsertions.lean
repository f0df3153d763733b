import OperationLint.Proofs.Pairings
import OperationLint.Proofs.SynthesizedSubtrees

/-!
# Insertions by the host

The host puts trees of its own into blocks, anywhere in a body. The operations that count are those
of the walk without such trees, and an insertion leaves all of them in place: what stands above the
place of the insertion keeps its kind and its data, and it was made by the host altogether exactly
if it was before.

## Main result

`HostInsertion.keeps`: one insertion keeps the operations that count, up to what stands below them.

## Proof strategy

The induction is on the way from the operation down to the block: at the block itself the new tree
adds nothing to the walk, and above it one child is exchanged for one that is kept.
-/

namespace OperationLint.Operation

variable {τ μ φ : Type}

/-! ### Exchanging operations -/

/-- The operation with others in place of its children. There are as many of them as before, except
in a list. -/
def withChildren (operation : Operation τ μ φ) (children : List (Operation τ μ φ)) :
    Operation τ μ φ :=
  match operation with
  | block info _ => block info children
  | expressionStatement info operation => expressionStatement info (children.headD operation)
  | variableDeclaration info name _ => variableDeclaration info name children.head?
  | returns info _ => returns info children.head?
  | throws info _ => throws info children.head?
  | conditional info condition whenTrue _ =>
    conditional info (children.headD condition) (children.getD 1 whenTrue) children[2]?
  | literal info => literal info
  | localReference info name => localReference info name
  | parameterReference info parameter => parameterReference info parameter
  | instanceReference info => instanceReference info
  | fieldReference info field _ => fieldReference info field children.head?
  | simpleAssignment info none _ => simpleAssignment info none children.head?
  | simpleAssignment info (some target) _ =>
    simpleAssignment info (some (children.headD target)) children[1]?
  | binary info operator left right =>
    binary info operator (children.headD left) (children.getD 1 right)
  | conversion info operand => conversion info (children.headD operand)
  | invocation info method none _ => invocation info method none children
  | invocation info method (some receiver) _ =>
    invocation info method (some (children.headD receiver)) children.tail
  | objectCreation info constructorMethod _ => objectCreation info constructorMethod children
  | delegateCreation info target => delegateCreation info (children.headD target)
  | anonymousFunction info symbol body => anonymousFunction info symbol (children.headD body)
  | methodReference info method _ => methodReference info method children.head?
  | invalid info _ => invalid info children

theorem kind_withChildren (operation : Operation τ μ φ) (children : List (Operation τ μ φ)) :
    (operation.withChildren children).kind = operation.kind := by
  cases operation with
  | simpleAssignment _ option | invocation _ _ option => cases option <;> rfl
  | _ => rfl

theorem info_withChildren (operation : Operation τ μ φ) (children : List (Operation τ μ φ)) :
    (operation.withChildren children).info = operation.info := by
  cases operation with
  | simpleAssignment _ option | invocation _ _ option => cases option <;> rfl
  | _ => rfl

theorem children_withChildren {operation : Operation τ μ φ} {children : List (Operation τ μ φ)}
    (fits : children.length = operation.children.length) :
    (operation.withChildren children).children = children := by
  -- The number of children tells which of the optional ones are there.
  cases operation with
  | block | objectCreation | invalid => rfl
  | literal | localReference | parameterReference | instanceReference =>
    exact (List.length_eq_zero_iff.mp fits).symm
  | expressionStatement | conversion | delegateCreation | anonymousFunction =>
    obtain ⟨child, rfl⟩ := List.length_eq_one_iff.mp fits
    rfl
  | binary =>
    obtain ⟨left, right, rfl⟩ := List.length_eq_two.mp fits
    rfl
  | variableDeclaration _ _ value | returns _ value | throws _ value | fieldReference _ _ value
  | methodReference _ _ value =>
    cases value with
    | none =>
      obtain rfl := List.length_eq_zero_iff.mp fits
      rfl
    | some _ =>
      obtain ⟨child, rfl⟩ := List.length_eq_one_iff.mp fits
      rfl
  | conditional _ _ _ whenFalse =>
    cases whenFalse with
    | none =>
      obtain ⟨condition, whenTrue, rfl⟩ := List.length_eq_two.mp fits
      rfl
    | some _ =>
      obtain ⟨condition, whenTrue, whenFalse, rfl⟩ := List.length_eq_three.mp fits
      rfl
  | simpleAssignment _ target value =>
    cases target with
    | none =>
      cases value with
      | none =>
        obtain rfl := List.length_eq_zero_iff.mp fits
        rfl
      | some _ =>
        obtain ⟨child, rfl⟩ := List.length_eq_one_iff.mp fits
        rfl
    | some _ =>
      cases value with
      | none =>
        obtain ⟨child, rfl⟩ := List.length_eq_one_iff.mp fits
        rfl
      | some _ =>
        obtain ⟨target, value, rfl⟩ := List.length_eq_two.mp fits
        rfl
  | invocation _ _ receiver _ =>
    cases receiver with
    | none => rfl
    | some _ =>
      obtain ⟨receiver, arguments, rfl⟩ := List.exists_cons_of_length_eq_add_one fits
      rfl

/-! ### Insertions -/

/-- The second operation is the first one with a tree of the host put into the list of a block
somewhere in it. -/
inductive HostInsertion : Operation τ μ φ → Operation τ μ φ → Prop
  | here (info : Info τ) (front back : List (Operation τ μ φ)) {inserted : Operation τ μ φ}
      (synthesized : inserted.Synthesized) :
      HostInsertion (block info (front ++ back)) (block info (front ++ inserted :: back))
  | inside {operation child changed : Operation τ μ φ} (front back : List (Operation τ μ φ))
      (place : operation.children = front ++ child :: back) (inner : HostInsertion child changed) :
      HostInsertion operation (operation.withChildren (front ++ changed :: back))

/-- An insertion into an operation with one child, other than a block, is one into the child. -/
theorem HostInsertion.of_singleton {operation child after : Operation τ μ φ}
    (inserted : HostInsertion operation after) (only : operation.children = [child])
    (kind : operation.kind ≠ .block) :
    ∃ changed, HostInsertion child changed ∧ after = operation.withChildren [changed] := by
  cases inserted with
  | here => exact absurd rfl kind
  | @inside _ other changed front back place inner =>
    obtain ⟨rfl, same⟩ | ⟨_, none⟩ := List.append_eq_singleton_iff.mp (place.symm.trans only)
    · obtain ⟨rfl, rfl⟩ := List.cons.inj same
      exact ⟨changed, inner, rfl⟩
    · cases none

/-- Two operations that differ at most in what stands below them, and for a return not even in the
data of the value. -/
structure Alike (before after : Operation τ μ φ) : Prop where
  kind : after.kind = before.kind
  info : after.info = before.info
  returned : before.kind = .returns →
    after.children.map Operation.info = before.children.map Operation.info

/-- Two operations that are alike, as are the operations below them that count. -/
structure Keeps (before after : Operation τ μ φ) : Prop extends Alike before after where
  synthesized : after.Synthesized ↔ before.Synthesized
  counted : List.Forall₂ Alike (withoutSynthesized before.descendants)
    (withoutSynthesized after.descendants)

theorem Alike.refl (operation : Operation τ μ φ) : Alike operation operation :=
  ⟨rfl, rfl, fun _ => rfl⟩

theorem Keeps.refl (operation : Operation τ μ φ) : Keeps operation operation :=
  ⟨.refl operation, .rfl, List.forall₂_same.mpr fun node _ => .refl node⟩

/-- A tree of the host in the list of a block does not count. -/
theorem keeps_block (info : Info τ) (front back : List (Operation τ μ φ))
    {inserted : Operation τ μ φ} (synthesized : inserted.Synthesized) :
    Keeps (block info (front ++ back)) (block info (front ++ inserted :: back)) where
  kind := rfl
  info := rfl
  returned := nofun
  synthesized := by
    rw [synthesized_iff_children, synthesized_iff_children]
    refine and_congr_right fun _ => ?_
    simp [children, or_imp, forall_and, synthesized]
  counted := by
    have same : withoutSynthesized (block info (front ++ inserted :: back)).descendants =
        withoutSynthesized (block info (front ++ back)).descendants := by
      rw [withoutSynthesized_descendants, withoutSynthesized_descendants, children, children,
        List.flatMap_append, List.flatMap_append, List.flatMap_cons, if_pos synthesized,
        List.nil_append]
    rw [same]
    exact List.forall₂_same.mpr fun node _ => .refl node

/-- An operation is kept when its children are. -/
theorem keeps_of_children {before after : Operation τ μ φ} (kind : after.kind = before.kind)
    (info : after.info = before.info)
    (children : List.Forall₂ Keeps before.children after.children) : Keeps before after where
  kind := kind
  info := info
  returned := fun _ => (map_eq_map_of_forall₂ children fun _ _ kept => kept.info.symm).symm
  synthesized := by
    rw [synthesized_iff_children, synthesized_iff_children, isImplicit, isImplicit, info]
    refine and_congr_right fun _ => ?_
    exact (forall_mem_iff_of_forall₂ children fun _ _ kept => kept.synthesized.symm).symm
  counted := by
    rw [withoutSynthesized_descendants, withoutSynthesized_descendants]
    refine forall₂_flatMap_of_mem children ?_
    intro child changed _ kept
    -- Either both children are left out, or both stay with what counts below them.
    by_cases synthesized : child.Synthesized
    · rw [if_pos synthesized, if_pos (kept.synthesized.mpr synthesized)]
      exact .nil
    · rw [if_neg synthesized, if_neg (kept.synthesized.not.mpr synthesized)]
      exact .cons kept.toAlike kept.counted

/-- An insertion keeps the operations that count, up to what stands below them. -/
theorem HostInsertion.keeps {before after : Operation τ μ φ}
    (inserted : HostInsertion before after) : Keeps before after := by
  induction inserted with
  | here info front back synthesized => exact keeps_block info front back synthesized
  | @inside operation child changed front back place _ ih =>
    have fits : (front ++ changed :: back).length = operation.children.length := by simp [place]
    refine keeps_of_children (kind_withChildren _ _) (info_withChildren _ _) ?_
    -- One child is exchanged for one that is kept, and the others stay.
    have same (others : List (Operation τ μ φ)) : List.Forall₂ Keeps others others :=
      List.forall₂_same.mpr fun other _ => .refl other
    rw [children_withChildren fits, place]
    exact List.rel_append (same front) (.cons ih (same back))

end OperationLint.Operation
