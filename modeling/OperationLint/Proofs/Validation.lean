import Mathlib.Data.List.Forall2
import OperationLint.Schema.Validation

/-!
# Successful readings

What it means that a reading gave a value, reader by reader. Readings side by side succeed when
all of them do, so the proof that a record was read comes apart into one fact for each member.
-/

namespace OperationLint.Schema

open Json Validation

variable {α β : Type}

namespace Validation

@[simp] theorem map_eq_valid {f : α → β} {reading : Validation α} {result : β} :
    f <$> reading = .valid result ↔ ∃ value, reading = .valid value ∧ f value = result := by
  cases reading with
  | valid value => simp [Functor.map, map]
  | invalid issues => simp [Functor.map, map]

@[simp] theorem seq_eq_valid {f : Validation (α → β)} {reading : Validation α} {result : β} :
    f <*> reading = .valid result ↔
      ∃ g, f = .valid g ∧ ∃ value, reading = .valid value ∧ g value = result := by
  cases f with
  | valid g => cases reading <;> simp [Seq.seq, both]
  | invalid issues => cases reading <;> simp [Seq.seq, both]

@[simp] theorem under_eq_valid {reading : Validation α} {step : Step} {value : α} :
    reading.under step = .valid value ↔ reading = .valid value := by
  cases reading <;> simp [under]

@[simp] theorem fail_ne_valid {problem : Problem} {value : α} :
    fail problem ≠ Validation.valid value := by
  simp [fail]

end Validation

/-! ### Scalars -/

@[simp] theorem string_eq_valid {json : Json} {text : String} :
    string json = .valid text ↔ json = .string text := by
  cases json <;> simp [string]

@[simp] theorem nonEmptyString_eq_valid {json : Json} {text : String} :
    nonEmptyString json = .valid text ↔ json = .string text ∧ text ≠ "" := by
  cases json with
  | string written =>
    by_cases empty : written = ""
    · simp [nonEmptyString, empty, eq_comm]
    · simp only [nonEmptyString, if_neg empty, Validation.valid.injEq, Json.string.injEq]
      constructor
      · rintro rfl
        exact ⟨rfl, empty⟩
      · exact And.left
  | _ => simp [nonEmptyString]

@[simp] theorem boolean_eq_valid {json : Json} {value : Bool} :
    boolean json = .valid value ↔ json = .bool value := by
  cases json <;> simp [boolean]

/-- An integer that was read is the number itself. -/
theorem number_of_positiveInteger {json : Json} {n : Int}
    (returned : positiveInteger json = .valid n) : json = .number (.integer n) ∧ 0 < n := by
  cases json with
  | number value =>
    cases value with
    | integer m =>
      by_cases positive : 0 < m
      · have same : m = n := by
          simpa [positiveInteger, Number.toInt?, Number.isPositive, positive] using returned
        subst m
        exact ⟨rfl, positive⟩
      · simp [positiveInteger, Number.toInt?, Number.isPositive, positive] at returned
    | fraction negative =>
      cases negative <;>
        simp [positiveInteger, Number.toInt?, Number.isPositive] at returned
    | infinite negative =>
      cases negative <;>
        simp [positiveInteger, Number.toInt?, Number.isPositive] at returned
  | _ => simp [positiveInteger] at returned

/-- An option that was read is written by its name. -/
theorem name_of_oneOf {options : List α} {name : α → String} {json : Json} {option : α}
    (returned : oneOf options name json = .valid option) : json = .string (name option) := by
  cases json with
  | string text =>
    cases found : options.find? (fun option => name option == text) with
    | none => simp [oneOf, found] at returned
    | some other =>
      have same : other = option := by simpa [oneOf, found] using returned
      have written := List.find?_some found
      simp only [beq_iff_eq] at written
      rw [← same, written]
  | _ => simp [oneOf] at returned

/-- Where each name finds its own option, no two options share a name. -/
theorem injective_of_find? (options : List α) {name : α → String}
    (own : ∀ option, options.find? (fun other => name other == name option) = some option) :
    Function.Injective name := by
  intro option other same
  have found := own option
  rw [same, own other] at found
  exact (Option.some.inj found).symm

@[simp] theorem nullable_eq_valid {read : Json → Validation α} {json : Json} {value : Option α} :
    nullable read json = .valid value ↔
      (json = .null ∧ value = none) ∨
        (json ≠ .null ∧ ∃ inner, read json = .valid inner ∧ value = some inner) := by
  cases json <;> simp [nullable, eq_comm]

/-! ### Arrays and objects -/

theorem elements_eq_valid {read : Json → Validation α} {position : Nat} {values : List Json}
    {results : List α} :
    elements read position values = .valid results ↔
      List.Forall₂ (fun value result => read value = .valid result) values results := by
  induction values generalizing position results with
  | nil => simp [elements, eq_comm]
  | cons value rest ih =>
    simp only [elements, seq_eq_valid, map_eq_valid, under_eq_valid, ih]
    cases results with
    | nil => simp
    | cons result results =>
      rw [List.forall₂_cons]
      constructor
      · rintro ⟨_, ⟨head, first, rfl⟩, tail, others, same⟩
        obtain ⟨rfl, rfl⟩ := List.cons.inj same
        exact ⟨first, others⟩
      · rintro ⟨first, others⟩
        exact ⟨_, ⟨result, first, rfl⟩, results, others, rfl⟩

theorem array_eq_valid {read : Json → Validation α} {json : Json} {results : List α} :
    array read json = .valid results ↔ ∃ values, json = .array values ∧
      List.Forall₂ (fun value result => read value = .valid result) values results := by
  cases json with
  | array values => simp [array, elements_eq_valid]
  | _ => simp [array]

@[simp] theorem object_eq_valid {read : Members → Validation α} {json : Json} {result : α} :
    object read json = .valid result ↔
      ∃ members, json = .object members ∧ read members = .valid result := by
  cases json <;> simp [object]

@[simp] theorem required_eq_valid {name : String} {read : Json → Validation α} {members : Members}
    {result : α} :
    required name read members = .valid result ↔
      ∃ value, members.lookup name = some value ∧ read value = .valid result := by
  cases found : members.lookup name <;> simp [required, found]

@[simp] theorem optional_eq_valid {name : String} {read : Json → Validation α} {members : Members}
    {result : Option α} :
    optional name read members = .valid result ↔
      (members.lookup name = none ∧ result = none) ∨
        ∃ value, members.lookup name = some value ∧
          ∃ inner, read value = .valid inner ∧ result = some inner := by
  cases found : members.lookup name <;> simp [optional, found, eq_comm]

@[simp] theorem withDefault_eq_valid {name : String} {default : α} {read : Json → Validation α}
    {members : Members} {result : α} :
    withDefault name default read members = .valid result ↔
      (members.lookup name = none ∧ result = default) ∨
        ∃ value, members.lookup name = some value ∧ read value = .valid result := by
  cases found : members.lookup name <;> simp [withDefault, found, eq_comm]

end OperationLint.Schema
