import OperationLint.Diagnostic.Basic
import Mathlib.Algebra.Order.Ring.Int

/-!
# Stable order

Reports list diagnostics by a comparison under which different ones can tie: two paths may collate
alike, and neither the end of a location nor the message is compared. What is listed is fixed all
the same by the input up to the order of ties.

## Main results

- `StableSort.unique`: a list has one stable sort, and lists that differ only in how their ties are
  spread out have the same one.
- `Diagnostic.stableSort_sort`: diagnostics are put into stable order.

## Proof strategy

- `eq_of_keepsTies`: the first entries of two ordered lists tie, so they are the first of the same
  ties.
- Collation, numbers and diagnostics are compared lexicographically, so each comparison is
  transitive because its parts are.
-/

namespace OperationLint

variable {α : Type}

/-! ### Lists in order -/

/-- The entries of a list that tie with an entry. -/
def ties (compare : α → α → Ordering) (entry : α) (list : List α) : List α :=
  list.filter fun other => compare entry other = .eq

/-- Entries that tie come in the same order. -/
def KeepsTies (compare : α → α → Ordering) (before after : List α) : Prop :=
  ∀ entry, ties compare entry after = ties compare entry before

/-- A list in order, with nothing lost or added, and ties as they came. -/
structure StableSort (compare : α → α → Ordering) (input output : List α) : Prop where
  perm : output.Perm input
  ordered : output.Pairwise fun a b => (compare a b).isLE
  keepsTies : KeepsTies compare input output

theorem KeepsTies.tail {compare : α → α → Ordering} {first : α} {before after : List α}
    (keeps : KeepsTies compare (first :: before) (first :: after)) :
    KeepsTies compare before after := by
  intro entry
  have same := keeps entry
  simp only [ties, List.filter_cons] at same ⊢
  split at same
  · exact (List.cons.inj same).2
  · exact same

section Uniqueness

variable {compare : α → α → Ordering} [Std.TransCmp compare]

/-- Ties are all that there is: an entry ties with itself, so a list holds it as often as its ties
do. -/
theorem KeepsTies.perm {before after : List α} (keeps : KeepsTies compare before after) :
    after.Perm before := by
  classical
  rw [List.perm_iff_count]
  intro entry
  have own : ∀ list, List.count entry (ties compare entry list) = List.count entry list := by
    intro list
    exact List.count_filter (by simp [Std.ReflCmp.compare_self])
  rw [← own after, keeps entry, own before]

/-- Neighbours that do not tie may change places. -/
theorem KeepsTies.swap {a b : α} (apart : compare a b ≠ .eq) (before after : List α) :
    KeepsTies compare (before ++ a :: b :: after) (before ++ b :: a :: after) := by
  intro entry
  have notBoth : ¬ (compare entry a = .eq ∧ compare entry b = .eq) := by
    rintro ⟨tiedA, tiedB⟩
    exact apart (Std.TransCmp.eq_trans (Std.OrientedCmp.eq_symm tiedA) tiedB)
  simp only [ties, List.filter_append, List.filter_cons, decide_eq_true_eq]
  split <;> split <;> simp_all

/-- Ordered lists whose ties come in the same order are equal. -/
theorem eq_of_keepsTies {before after : List α}
    (before_ordered : before.Pairwise fun a b => (compare a b).isLE)
    (after_ordered : after.Pairwise fun a b => (compare a b).isLE)
    (keeps : KeepsTies compare before after) : after = before := by
  induction before generalizing after with
  | nil => exact keeps.perm.eq_nil
  | cons first rest ih =>
    cases after with
    | nil => exact keeps.perm.symm.eq_nil.symm
    | cons other others =>
      obtain ⟨first_least, rest_ordered⟩ := List.pairwise_cons.mp before_ordered
      obtain ⟨other_least, others_ordered⟩ := List.pairwise_cons.mp after_ordered
      -- Each of the two heads occurs in the other list, where the other head is least.
      have below : (compare first other).isLE := by
        rcases List.mem_cons.mp (keeps.perm.mem_iff.mp List.mem_cons_self) with rfl | later
        · exact Std.ReflCmp.isLE_rfl
        · exact first_least other later
      have above : (compare other first).isLE := by
        rcases List.mem_cons.mp (keeps.perm.mem_iff.mpr List.mem_cons_self) with rfl | later
        · exact Std.ReflCmp.isLE_rfl
        · exact other_least first later
      have tied : compare first other = .eq := Std.OrientedCmp.isLE_antisymm below above
      -- So both are the first of what ties with `first`, and that is the same entry.
      have same : other = first := by
        have heads := keeps first
        simp only [ties, List.filter_cons, tied, Std.ReflCmp.compare_self, decide_true,
          ↓reduceIte] at heads
        exact (List.cons.inj heads).1
      subst same
      rw [ih rest_ordered others_ordered keeps.tail]

theorem StableSort.unique {input other output otherOutput : List α}
    (sorted : StableSort compare input output)
    (otherSorted : StableSort compare other otherOutput)
    (keeps : KeepsTies compare input other) : otherOutput = output := by
  apply eq_of_keepsTies sorted.ordered otherSorted.ordered
  intro entry
  calc ties compare entry otherOutput
      = ties compare entry other := otherSorted.keepsTies entry
    _ = ties compare entry input := keeps entry
    _ = ties compare entry output := (sorted.keepsTies entry).symm

/-- Merging keeps the order of ties. -/
theorem stableSort_mergeSort (list : List α) :
    StableSort compare list (list.mergeSort fun a b => (compare a b).isLE) := by
  have trans : ∀ a b c : α, (compare a b).isLE = true → (compare b c).isLE = true →
      (compare a c).isLE = true := fun _ _ _ => Std.TransCmp.isLE_trans
  have total : ∀ a b : α, ((compare a b).isLE || (compare b a).isLE) = true := by
    intro a b
    have swapped : compare b a = (compare a b).swap := Std.OrientedCmp.eq_swap
    rw [swapped]
    cases compare a b <;> rfl
  have perm := List.mergeSort_perm list fun a b => (compare a b).isLE
  refine ⟨perm, List.pairwise_mergeSort trans total list, ?_⟩
  intro entry
  -- What ties with an entry is in order already, so merging keeps it as a sublist.
  have inOrder : (ties compare entry list).Pairwise fun a b => (compare a b).isLE := by
    rw [List.pairwise_iff_forall_sublist]
    intro a b sublist
    have tied : ∀ c ∈ [a, b], compare entry c = .eq := by
      intro c listed
      simpa [ties] using (List.mem_filter.mp (sublist.mem listed)).2
    have same : compare a b = .eq :=
      Std.TransCmp.eq_trans (Std.OrientedCmp.eq_symm (tied a (by simp))) (tied b (by simp))
    rw [same]
    rfl
  have kept := List.sublist_mergeSort trans total inOrder List.filter_sublist
  have again := kept.filter fun other => decide (compare entry other = .eq)
  rw [ties, List.filter_filter] at again
  simp only [Bool.and_self] at again
  exact (again.eq_of_length (perm.filter _).length_eq.symm).symm

end Uniqueness

/-! ### Comparisons -/

/-- Comparing what a function gives. -/
theorem transCmp_on {β : Type} (compare : β → β → Ordering) [Std.TransCmp compare] (view : α → β) :
    Std.TransCmp fun a b => compare (view a) (view b) where
  eq_swap := Std.OrientedCmp.eq_swap
  isLE_trans := Std.TransCmp.isLE_trans

instance Collation.transCmp_key : Std.TransCmp Collation.Key.compare :=
  inferInstanceAs (Std.TransCmp (compareLex (compareOn Collation.Key.primary)
    (compareLex (compareOn Collation.Key.secondary) (compareOn Collation.Key.tertiary))))

instance Collation.transCmp_compare : Std.TransCmp Collation.compare :=
  transCmp_on Collation.Key.compare Collation.key

namespace Number

theorem denominator_pos (n : Number) : 0 < n.denominator := by
  cases n with
  | integer value => exact Nat.one_pos
  | fraction negative numerator denominator positive => exact positive.2
  | infinite negative => exact Nat.one_pos

/-- Finite numbers are compared by their cross products. -/
def compareCross (a b : Number) : Ordering :=
  Ord.compare (a.numerator * b.denominator) (b.numerator * a.denominator)

theorem isLE_compareCross {a b : Number} :
    (compareCross a b).isLE ↔ a.numerator * b.denominator ≤ b.numerator * a.denominator := by
  rw [compareCross, Std.isLE_compare]

instance transCmp_compareCross : Std.TransCmp compareCross where
  eq_swap := by
    intro a b
    exact Std.OrientedOrd.eq_swap
  isLE_trans := by
    intro a b c
    simp only [isLE_compareCross]
    intro ab bc
    have middle : (0 : Int) < b.denominator := Int.natCast_pos.mpr b.denominator_pos
    -- Both products grow by the denominator in the middle, which is then taken out again.
    apply le_of_mul_le_mul_right _ middle
    calc a.numerator * c.denominator * b.denominator
        = a.numerator * b.denominator * c.denominator := by ac_rfl
      _ ≤ b.numerator * a.denominator * c.denominator :=
          Int.mul_le_mul_of_nonneg_right ab (Int.natCast_nonneg _)
      _ = b.numerator * c.denominator * a.denominator := by ac_rfl
      _ ≤ c.numerator * b.denominator * a.denominator :=
          Int.mul_le_mul_of_nonneg_right bc (Int.natCast_nonneg _)
      _ = c.numerator * a.denominator * b.denominator := by ac_rfl

instance transCmp_compare : Std.TransCmp Number.compare :=
  inferInstanceAs (Std.TransCmp (compareLex (compareOn side) compareCross))

end Number

namespace Diagnostic

instance transCmp_compare : Std.TransCmp Diagnostic.compare := by
  have path := transCmp_on Collation.compare fun d : Diagnostic => d.location.path
  have line := transCmp_on Number.compare fun d : Diagnostic => d.location.startLine
  have column := transCmp_on Number.compare fun d : Diagnostic => d.location.startColumn
  have rule := transCmp_on Collation.compare fun d : Diagnostic => d.ruleId
  exact inferInstanceAs (Std.TransCmp (compareLex
    (fun a b : Diagnostic => Collation.compare a.location.path b.location.path)
    (compareLex (fun a b => Number.compare a.location.startLine b.location.startLine)
      (compareLex (fun a b => Number.compare a.location.startColumn b.location.startColumn)
        (fun a b => Collation.compare a.ruleId b.ruleId)))))

theorem stableSort_sort (diagnostics : List Diagnostic) :
    StableSort compare diagnostics (sort diagnostics) :=
  stableSort_mergeSort diagnostics

end Diagnostic

end OperationLint
