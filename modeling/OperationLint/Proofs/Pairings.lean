import Mathlib.Data.List.Forall2
import Mathlib.Data.List.Nodup

/-!
# Lists that go together

What is known of two lists whose elements are related in pairs. Documents and what is made of them
are always such lists, so these facts carry every statement about one document to whole tables and
whole trees.
-/

namespace OperationLint

variable {α β γ δ : Type} {R : α → β → Prop} {as : List α} {bs : List β}

theorem forall₂_imp_of_mem {S : α → β → Prop} (related : List.Forall₂ R as bs)
    (step : ∀ a ∈ as, ∀ b ∈ bs, R a b → S a b) : List.Forall₂ S as bs := by
  induction related with
  | nil => exact .nil
  | cons head _ ih =>
    refine .cons (step _ List.mem_cons_self _ List.mem_cons_self head) (ih ?_)
    intro a inside b below
    exact step a (List.mem_cons_of_mem _ inside) b (List.mem_cons_of_mem _ below)

/-- What is made of each element goes with it. -/
theorem forall₂_map_self {f : α → β} (each : ∀ a, R a (f a)) (list : List α) :
    List.Forall₂ R list (list.map f) := by
  rw [List.forall₂_map_right_iff, List.forall₂_same]
  exact fun a _ => each a

/-- Two pairings in a row. -/
theorem forall₂_compose {S : β → γ → Prop} {T : α → γ → Prop}
    (step : ∀ a b c, R a b → S b c → T a c) {cs : List γ} (first : List.Forall₂ R as bs)
    (second : List.Forall₂ S bs cs) : List.Forall₂ T as cs := by
  induction first generalizing cs with
  | nil =>
    cases second
    exact .nil
  | cons head _ ih =>
    cases second with
    | cons next rest => exact .cons (step _ _ _ head next) (ih rest)

/-- Pairs that belong together part by part belong together after the parts are joined. -/
theorem forall₂_flatMap_flatten {S : β → γ → Prop} {f : α → List β} {parts : List α}
    {groups : List (List γ)}
    (related : List.Forall₂ (fun part group => List.Forall₂ S (f part) group) parts groups) :
    List.Forall₂ S (parts.flatMap f) groups.flatten := by
  rw [List.flatMap_def]
  exact List.rel_flatten (List.forall₂_map_left_iff.mpr related)

theorem forall₂_flatMap_of_mem {S : γ → δ → Prop} {f : α → List γ} {g : β → List δ}
    (related : List.Forall₂ R as bs)
    (step : ∀ a, ∀ b ∈ bs, R a b → List.Forall₂ S (f a) (g b)) :
    List.Forall₂ S (as.flatMap f) (bs.flatMap g) := by
  induction related with
  | nil => exact .nil
  | cons head _ ih =>
    rw [List.flatMap_cons, List.flatMap_cons]
    exact List.rel_append (step _ _ List.mem_cons_self head)
      (ih fun a b inside => step a b (List.mem_cons_of_mem _ inside))

/-- What each pair agrees on, the lists agree on. -/
theorem map_eq_map_of_forall₂ {f : α → γ} {g : β → γ} (related : List.Forall₂ R as bs)
    (agree : ∀ a b, R a b → f a = g b) : as.map f = bs.map g := by
  induction related with
  | nil => rfl
  | cons head _ ih => rw [List.map_cons, List.map_cons, agree _ _ head, ih]

theorem forall_mem_of_forall₂ {Q : β → Prop} (related : List.Forall₂ R as bs)
    (each : ∀ a b, R a b → Q b) : ∀ b ∈ bs, Q b := by
  induction related with
  | nil => exact nofun
  | cons head _ ih => exact List.forall_mem_cons.mpr ⟨each _ _ head, ih⟩

theorem exists_mem_of_forall₂ (related : List.Forall₂ R as bs) : ∀ a ∈ as, ∃ b ∈ bs, R a b := by
  induction related with
  | nil => exact nofun
  | @cons a b _ _ head _ ih =>
    refine List.forall_mem_cons.mpr ⟨⟨b, List.mem_cons_self, head⟩, ?_⟩
    intro later inside
    obtain ⟨partner, there, pair⟩ := ih later inside
    exact ⟨partner, List.mem_cons_of_mem b there, pair⟩

/-- The partner of an element stands at the same position. -/
theorem exists_getElem?_of_forall₂ (related : List.Forall₂ R as bs) {position : Nat} {b : β}
    (found : bs[position]? = some b) : ∃ a, as[position]? = some a ∧ R a b := by
  induction related generalizing position with
  | nil => simp at found
  | @cons a b _ _ head _ ih =>
    cases position with
    | zero =>
      cases found
      exact ⟨a, rfl, head⟩
    | succ position => simpa using ih (by simpa using found)

/-- A list that is split at an element is paired with one that is split at the partner. -/
theorem exists_split_of_forall₂ {front back : List α} {a : α}
    (related : List.Forall₂ R (front ++ a :: back) bs) :
    ∃ before b after, bs = before ++ b :: after ∧ List.Forall₂ R front before ∧ R a b ∧
      List.Forall₂ R back after := by
  induction front generalizing bs with
  | nil =>
    cases related with
    | cons head tail => exact ⟨[], _, _, rfl, .nil, head, tail⟩
  | cons first front ih =>
    cases related with
    | cons head tail =>
      obtain ⟨before, b, after, rfl, pairs, pair, rest⟩ := ih tail
      exact ⟨_ :: before, b, after, rfl, .cons head pairs, pair, rest⟩

theorem exists_mem_iff_of_forall₂ {P : α → Prop} {Q : β → Prop} (related : List.Forall₂ R as bs)
    (meets : ∀ a, ∀ b ∈ bs, R a b → (P a ↔ Q b)) : (∃ a ∈ as, P a) ↔ ∃ b ∈ bs, Q b := by
  induction related with
  | nil => simp
  | cons head _ ih =>
    have later := ih fun a b inside => meets a b (List.mem_cons_of_mem _ inside)
    have first := meets _ _ List.mem_cons_self head
    simp only [List.mem_cons, exists_eq_or_imp, first, later]

theorem forall_mem_iff_of_forall₂ {P : α → Prop} {Q : β → Prop} (related : List.Forall₂ R as bs)
    (meets : ∀ a b, R a b → (P a ↔ Q b)) : (∀ a ∈ as, P a) ↔ ∀ b ∈ bs, Q b := by
  induction related with
  | nil => simp
  | cons head _ ih => rw [List.forall_mem_cons, List.forall_mem_cons, meets _ _ head, ih]

/-- Filtering on one side and searching on the other keeps the same pairs. -/
theorem forall₂_filter_filterMap {S : α → γ → Prop} {keep : α → Bool} {find : β → Option γ}
    (related : List.Forall₂ R as bs)
    (kept : ∀ a b, R a b → keep a = true → ∃ c, find b = some c ∧ S a c)
    (dropped : ∀ a b, R a b → keep a = false → find b = none) :
    List.Forall₂ S (as.filter keep) (bs.filterMap find) := by
  induction related with
  | nil => exact .nil
  | @cons a b _ _ head _ ih =>
    cases keeps : keep a with
    | true =>
      obtain ⟨c, found, pair⟩ := kept a b head keeps
      rw [List.filter_cons_of_pos keeps, List.filterMap_cons_some found]
      exact .cons pair ih
    | false =>
      rw [List.filter_cons_of_neg (by simp [keeps]),
        List.filterMap_cons_none (dropped a b head keeps)]
      exact ih

/-- Lists with equal images are paired by them. -/
theorem forall₂_of_map_eq_map {f : α → γ} {g : β → γ} (same : as.map f = bs.map g) :
    List.Forall₂ (fun a b => f a = g b) as bs := by
  have images : List.Forall₂ (· = ·) (as.map f) (bs.map g) := by
    rw [List.forall₂_eq_eq_eq]
    exact same
  exact List.forall₂_map_right_iff.mp (List.forall₂_map_left_iff.mp images)

/-- Lists with equal images are equal where the images tell elements apart. -/
theorem eq_of_map_eq_map {f : α → γ} {others : List α} (same : as.map f = others.map f)
    (apart : ∀ a ∈ as, ∀ b ∈ others, f a = f b → a = b) : as = others := by
  have pairs := forall₂_imp_of_mem (forall₂_of_map_eq_map same) apart
  rwa [List.forall₂_eq_eq_eq] at pairs

end OperationLint
