import Mathlib.Data.List.Forall2

/-!
# Computations that succeed or fail

A computation that stops at its first error succeeds when each of its steps does, and a traversal
when each of its elements does. The results of a traversal are the results of the elements in order.
An error is always the error of one step or of one element.
-/

namespace OperationLint.Outcome

variable {ε α β : Type}

@[simp] theorem bind_eq_ok {first : Except ε α} {next : α → Except ε β} {result : β} :
    first >>= next = .ok result ↔ ∃ value, first = .ok value ∧ next value = .ok result := by
  cases first with
  | error _ => simp [bind, Except.bind]
  | ok value => simp [bind, Except.bind]

@[simp] theorem pure_eq_ok {value result : α} :
    (pure value : Except ε α) = .ok result ↔ value = result := by
  simp [pure, Except.pure]

@[simp] theorem map_eq_ok {f : α → β} {computation : Except ε α} {result : β} :
    f <$> computation = .ok result ↔ ∃ value, computation = .ok value ∧ f value = result := by
  cases computation with
  | error _ => simp [Functor.map, Except.map]
  | ok value => simp [Functor.map, Except.map]

theorem mapM_eq_ok {f : α → Except ε β} {values : List α} {results : List β} :
    values.mapM f = .ok results ↔
      List.Forall₂ (fun value result => f value = .ok result) values results := by
  induction values generalizing results with
  | nil =>
    rw [List.mapM_nil, pure_eq_ok, List.forall₂_nil_left_iff, eq_comm]
  | cons value values ih =>
    rw [List.mapM_cons]
    simp only [bind_eq_ok, pure_eq_ok, ih]
    cases results with
    | nil => simp
    | cons result results =>
      rw [List.forall₂_cons]
      constructor
      · rintro ⟨head, first, tail, others, same⟩
        obtain ⟨rfl, rfl⟩ := List.cons.inj same
        exact ⟨first, others⟩
      · rintro ⟨first, others⟩
        exact ⟨result, first, results, others, rfl⟩

theorem exists_mapM_eq_ok (f : α → Except ε β) (values : List α) :
    (∃ results, values.mapM f = .ok results) ↔
      ∀ value ∈ values, ∃ result, f value = .ok result := by
  induction values with
  | nil => simp
  | cons value values ih =>
    rw [List.mapM_cons, List.forall_mem_cons, ← ih]
    simp

theorem option_mapM_eq_ok {f : α → Except ε β} {value : Option α} {result : Option β} :
    value.mapM f = .ok result ↔
      Option.Rel (fun inner outer => f inner = .ok outer) value result := by
  cases value with
  | none => cases result <;> simp
  | some inner => cases result <;> simp

theorem exists_option_mapM_eq_ok (f : α → Except ε β) (value : Option α) :
    (∃ result, value.mapM f = .ok result) ↔ ∀ inner ∈ value, ∃ result, f inner = .ok result := by
  cases value with
  | none => simp
  | some inner => simp

/-! ### Errors -/

variable {error : ε}

@[simp] theorem bind_eq_error {first : Except ε α} {next : α → Except ε β} :
    first >>= next = .error error ↔
      first = .error error ∨ ∃ value, first = .ok value ∧ next value = .error error := by
  cases first with
  | error _ => simp [bind, Except.bind]
  | ok value => simp [bind, Except.bind]

@[simp] theorem pure_ne_error {value : α} : (pure value : Except ε α) ≠ .error error := nofun

@[simp] theorem map_eq_error {f : α → β} {computation : Except ε α} :
    f <$> computation = .error error ↔ computation = .error error := by
  cases computation with
  | error _ => simp [Functor.map, Except.map]
  | ok value => simp [Functor.map, Except.map]

theorem exists_of_mapM_eq_error {f : α → Except ε β} {values : List α}
    (failed : values.mapM f = .error error) : ∃ value ∈ values, f value = .error error := by
  induction values with
  | nil => cases failed
  | cons value values ih =>
    rw [List.mapM_cons] at failed
    simp only [bind_eq_error, pure_ne_error, and_false, exists_false, or_false] at failed
    rcases failed with first | ⟨_, _, later⟩
    · exact ⟨value, List.mem_cons_self, first⟩
    · obtain ⟨other, inside, found⟩ := ih later
      exact ⟨other, List.mem_cons_of_mem value inside, found⟩

theorem exists_of_option_mapM_eq_error {f : α → Except ε β} {value : Option α}
    (failed : value.mapM f = .error error) : ∃ inner ∈ value, f inner = .error error := by
  cases value with
  | none => simp at failed
  | some inner => exact ⟨inner, rfl, by simpa using failed⟩

end OperationLint.Outcome
