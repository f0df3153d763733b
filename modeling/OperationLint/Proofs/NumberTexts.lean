import OperationLint.Proofs.JsonTexts
import Mathlib.Algebra.Order.Ring.Int
import Mathlib.Data.List.DropRight

/-!
# Texts of numbers

Every finite number is written as a numeral that the reader takes, and integers of less than 53 bits
are read back as they were.

## Main results

- `numberReadsAs_integer`: integers below `2 ^ 53` are read back.
- `exists_readsAs_number`: the text of any number is read, as a number or as null.
- `legible_of_isPlain`: a value can be checked for being read back.

## Proof strategy

- `readMagnitude_chars`: a numeral is read part by part.
- `exists_numeral_layout`: the four ways to lay out digits are numerals, if the first digit is not
  zero. That holds of the digits of a positive number, and `coarsest_pos` says that no positive
  double is shortened to zero.
-/

namespace OperationLint

namespace Json

/-! ### Numerals -/

/-- A text that starts with no digit. -/
def StopsDigits (text : List Char) : Prop := ∀ c ∈ text.head?, c.isDigit = false

theorem readDigits_append {digits rest : List Char} (isNumeral : Digits.IsNumeral digits)
    (stops : StopsDigits rest) : readDigits (digits ++ rest) = some (digits, rest) := by
  have none : rest.takeWhile Char.isDigit = [] ∧ rest.dropWhile Char.isDigit = rest := by
    cases rest with
    | nil => exact ⟨rfl, rfl⟩
    | cons c more =>
      have notDigit : c.isDigit = false := stops c rfl
      simp [notDigit]
  have taken : (digits ++ rest).takeWhile Char.isDigit = digits := by
    rw [List.takeWhile_append_of_pos isNumeral.digits, none.1, List.append_nil]
  have left : (digits ++ rest).dropWhile Char.isDigit = rest := by
    rw [List.dropWhile_append_of_pos isNumeral.digits, none.2]
  rw [readDigits, taken, left]
  cases digits with
  | nil => exact absurd rfl isNumeral.nonempty
  | cons c more => rfl

/-- The parts of a number without its sign: digits before the point, digits behind it, none without
a point, and a sign with digits behind `e`. -/
structure Numeral where
  whole : List Char
  fraction : List Char
  exponent : Option (Char × List Char)

namespace Numeral

def fractionChars (numeral : Numeral) : List Char :=
  match numeral.fraction with
  | [] => []
  | digits => '.' :: digits

def exponentChars (numeral : Numeral) : List Char :=
  match numeral.exponent with
  | none => []
  | some (sign, digits) => 'e' :: sign :: digits

def chars (numeral : Numeral) : List Char :=
  numeral.whole ++ (numeral.fractionChars ++ numeral.exponentChars)

/-- The power of ten that `e` stands for. -/
def power (numeral : Numeral) : Int :=
  match numeral.exponent with
  | none => 0
  | some (sign, digits) => if sign = '-' then -(Digits.value digits : Int) else Digits.value digits

/-- A numeral that can be read: no zero in front of other digits. -/
structure Legal (numeral : Numeral) : Prop where
  whole : Digits.IsNumeral numeral.whole
  leading : numeral.whole.head? = some '0' → numeral.whole = ['0']
  fraction : ∀ c ∈ numeral.fraction, c.isDigit = true
  exponent : ∀ sign digits, numeral.exponent = some (sign, digits) →
    (sign = '-' ∨ sign = '+') ∧ Digits.IsNumeral digits

/-- A text that ends a number: it goes on with no digit, point or exponent. -/
def Ends (rest : List Char) : Prop :=
  ∀ c ∈ rest.head?, c.isDigit = false ∧ c ≠ '.' ∧ c ≠ 'e' ∧ c ≠ 'E'

theorem ends_of_closes {rest : List Char} (closes : Closes rest) : Ends rest := by
  cases closes with
  | nothing => simp [Ends]
  | comma => simp [Ends]
  | line => simp [Ends]

variable {numeral : Numeral} {rest : List Char}

theorem readExponent_chars (legal : numeral.Legal) (ends : Ends rest) :
    readExponent (numeral.exponentChars ++ rest) = some (numeral.power, rest) := by
  cases exponent : numeral.exponent with
  | none =>
    simp only [exponentChars, power, exponent, List.nil_append]
    -- Without an exponent the text must not go on with the letter of one.
    cases rest with
    | nil => rfl
    | cons c more =>
      obtain ⟨_, _, notSmall, notLarge⟩ := ends c rfl
      rw [readExponent]
      · exact fun _ same => notSmall (List.cons.inj same).1
      · exact fun _ same => notLarge (List.cons.inj same).1
  | some signed =>
    obtain ⟨sign, digits⟩ := signed
    obtain ⟨isSign, isNumeral⟩ := legal.exponent sign digits exponent
    have stops : StopsDigits rest := fun c first => (ends c first).1
    simp only [exponentChars, power, exponent, List.cons_append]
    rcases isSign with rfl | rfl
    · simp [readExponent, readSigned, readDigits_append isNumeral stops]
    · simp [readExponent, readSigned, readDigits_append isNumeral stops]

/-- What follows a fraction starts with no digit and no point. -/
theorem exponentChars_head (numeral : Numeral) (ends : Ends rest) :
    ∀ c ∈ (numeral.exponentChars ++ rest).head?, c.isDigit = false ∧ c ≠ '.' := by
  intro c first
  cases exponent : numeral.exponent with
  | none =>
    simp only [exponentChars, exponent, List.nil_append] at first
    exact ⟨(ends c first).1, (ends c first).2.1⟩
  | some signed =>
    simp only [exponentChars, exponent, List.cons_append, List.head?_cons, Option.mem_some_iff]
      at first
    subst first
    decide

theorem readFraction_chars (legal : numeral.Legal) (ends : Ends rest) :
    readFraction (numeral.fractionChars ++ (numeral.exponentChars ++ rest)) =
      some (numeral.fraction, numeral.exponentChars ++ rest) := by
  have head := exponentChars_head numeral ends
  generalize numeral.exponentChars ++ rest = tail at *
  cases fraction : numeral.fraction with
  | nil =>
    simp only [fractionChars, fraction, List.nil_append]
    -- Without a fraction the text must not go on with a point.
    cases tail with
    | nil => rfl
    | cons c more =>
      rw [readFraction]
      exact fun _ same => (head c rfl).2 (List.cons.inj same).1
  | cons digit more =>
    have isNumeral : Digits.IsNumeral (digit :: more) := ⟨by simp, fraction ▸ legal.fraction⟩
    simp only [fractionChars, fraction]
    exact readDigits_append isNumeral fun c first => (head c first).1

theorem readWhole_chars (legal : numeral.Legal) {tail : List Char} (stops : StopsDigits tail) :
    readWhole (numeral.whole ++ tail) = some (numeral.whole, tail) := by
  rw [readWhole, readDigits_append legal.whole stops]
  split
  next same =>
    -- Two digits or more do not start with a zero.
    simp only [Option.some.injEq, Prod.mk.injEq] at same
    have single := legal.leading (by rw [same.1]; rfl)
    rw [same.1] at single
    simp at single
  next => rfl

/-- A legal numeral is read as the double next to its value. -/
theorem readMagnitude_chars (legal : numeral.Legal) (ends : Ends rest) (negative : Bool) :
    readMagnitude negative (numeral.chars ++ rest) =
      some (Number.ofDecimal negative (Digits.value (numeral.whole ++ numeral.fraction))
        (numeral.power - numeral.fraction.length), rest) := by
  have stops : StopsDigits (numeral.fractionChars ++ (numeral.exponentChars ++ rest)) := by
    intro c first
    cases fraction : numeral.fraction with
    | nil =>
      simp only [fractionChars, fraction, List.nil_append] at first
      exact (exponentChars_head numeral ends c first).1
    | cons digit more =>
      simp only [fractionChars, fraction, List.cons_append, List.head?_cons,
        Option.mem_some_iff] at first
      subst first
      rfl
  rw [chars, List.append_assoc, List.append_assoc, readMagnitude, readWhole_chars legal stops]
  simp only [Option.bind_eq_bind, Option.bind_some, readFraction_chars legal ends,
    readExponent_chars legal ends]
  rfl

/-- A numeral starts with a digit. -/
theorem exists_chars_cons (legal : numeral.Legal) :
    ∃ first more, numeral.chars = first :: more ∧ first.isDigit = true := by
  have isNumeral := legal.whole
  cases whole : numeral.whole with
  | nil => exact absurd whole isNumeral.nonempty
  | cons first more =>
    refine ⟨first, more ++ (numeral.fractionChars ++ numeral.exponentChars), ?_, ?_⟩
    · rw [chars, whole, List.cons_append]
    · exact isNumeral.digits first (by simp [whole])

theorem readNumber_chars (legal : numeral.Legal) (negative : Bool) (rest : List Char) :
    readNumber (Number.withSign negative numeral.chars ++ rest) =
      readMagnitude negative (numeral.chars ++ rest) := by
  cases negative with
  | true => rfl
  | false =>
    obtain ⟨first, more, written, digit⟩ := exists_chars_cons legal
    rw [Number.withSign, if_neg Bool.false_ne_true, written, List.cons_append, readNumber]
    rintro _ same
    rw [(List.cons.inj same).1] at digit
    cases digit

end Numeral

end Json

/-! ### Digits of numbers -/

namespace Number

theorem isNumeral_toDigits (n : Nat) : Digits.IsNumeral (Nat.toDigits 10 n) where
  nonempty := Nat.toDigits_ne_nil
  digits _ listed := Nat.isDigit_of_mem_toDigits (by decide) (by decide) listed

/-- Positive numbers have no zero in front. -/
theorem head?_toDigits {n : Nat} (positive : 0 < n) : (Nat.toDigits 10 n).head? ≠ some '0' := by
  induction n using Nat.strongRecOn with
  | _ n ih =>
    by_cases small : n < 10
    · rw [Nat.toDigits_of_lt_base small]
      have apart : ∀ digit < 10, 0 < digit → Nat.digitChar digit ≠ '0' := by decide
      simpa using apart n small positive
    · -- The first digit is that of the number without its last digit.
      have digits := Nat.toDigits_of_base_le (b := 10) (by decide) (Nat.le_of_not_lt small)
      have shorter := ih (n / 10) (by omega) (by omega)
      rw [digits, List.head?_append_of_ne_nil _ Nat.toDigits_ne_nil]
      exact shorter

/-- The numeral of a number without point and exponent. -/
def plainNumeral (n : Nat) : Json.Numeral := ⟨Nat.toDigits 10 n, [], none⟩

theorem chars_plainNumeral (n : Nat) : (plainNumeral n).chars = Nat.toDigits 10 n :=
  List.append_nil _

theorem legal_plainNumeral (n : Nat) : (plainNumeral n).Legal where
  whole := isNumeral_toDigits n
  leading zero := by
    rcases Nat.eq_zero_or_pos n with rfl | positive
    · rfl
    · exact absurd zero (head?_toDigits positive)
  fraction := by simp [plainNumeral]
  exponent := by simp [plainNumeral]

/-! ### Shortest digits -/

theorem le_roundQuotient (numerator denominator : Nat) :
    numerator / denominator ≤ roundQuotient numerator denominator := by
  simp only [roundQuotient]
  split
  · exact Nat.le_refl _
  · split <;> omega

/-- A multiple between positive ends is positive, whether or not the ends count. -/
theorem pos_of_inside {low high unit multiple : Nat} {closed : Prop} [Decidable closed]
    (positive : 0 < low)
    (inside : (if closed then decide (low ≤ multiple * unit) && decide (multiple * unit ≤ high)
      else decide (low < multiple * unit) && decide (multiple * unit < high)) = true) :
    0 < multiple := by
  apply Nat.pos_of_ne_zero
  rintro rfl
  simp only [Nat.zero_mul] at inside
  split at inside
  · simp only [Bool.and_eq_true, decide_eq_true_eq] at inside
    omega
  · simp at inside

/-- No positive double is shortened to zero: the reals that round to it are positive. -/
theorem nearestMultiple?_pos {mantissa multiple : Nat} {exponent power : Int}
    (positive : 0 < mantissa) (found : nearestMultiple? mantissa exponent power = some multiple) :
    0 < multiple := by
  have scale : 0 < Nat.pow 2 (exponent - 2).toNat * Nat.pow 10 (-power).toNat :=
    Nat.mul_pos (Nat.two_pow_pos _) (Nat.pow_pos (by decide))
  -- The lower end is half a place down, and the mantissa is four quarters at least.
  have low : 0 < (4 * mantissa - if mantissa = Nat.pow 2 52 ∧ -1074 < exponent then 1 else 2)
      * (Nat.pow 2 (exponent - 2).toNat * Nat.pow 10 (-power).toNat) := by
    refine Nat.mul_pos ?_ scale
    split <;> omega
  simp only [nearestMultiple?] at found
  split at found
  next inside _ =>
    obtain rfl := Option.some.inj found
    exact (pos_of_inside low inside).trans_le (le_roundQuotient _ _)
  next inside _ =>
    obtain rfl := Option.some.inj found
    exact pos_of_inside low inside
  next =>
    obtain rfl := Option.some.inj found
    exact Nat.succ_pos _
  next => cases found

theorem coarsest_pos {mantissa : Nat} (positive : 0 < mantissa) (exponent : Int) (grids : Nat)
    (power : Int) : 0 < (coarsest mantissa exponent grids power).digits := by
  induction grids generalizing power with
  | zero => exact positive
  | succ grids ih =>
    rw [coarsest]
    split
    next multiple found => exact nearestMultiple?_pos positive found
    next => exact ih (power - 1)

/-! ### Layout -/

/-- The digits of a number without zeros at the end. -/
def significant (n : Nat) : List Char := (Nat.toDigits 10 n).rdropWhile (· == '0')

theorem isNumeral_significant {n : Nat} (positive : 0 < n) :
    Digits.IsNumeral (significant n) ∧ (significant n).head? ≠ some '0' := by
  have start := head?_toDigits positive
  have isNumeral := isNumeral_toDigits n
  have isPrefix : significant n <+: Nat.toDigits 10 n := List.rdropWhile_prefix _ _
  -- The first digit is no zero, so it stays.
  have nonempty : significant n ≠ [] := by
    rw [significant, Ne, List.rdropWhile_eq_nil_iff]
    intro zeros
    obtain ⟨first, more, split⟩ := List.exists_cons_of_ne_nil isNumeral.nonempty
    rw [split] at start zeros
    exact start (by simpa using zeros first List.mem_cons_self)
  refine ⟨⟨nonempty, fun c listed => isNumeral.digits c (isPrefix.mem listed)⟩, ?_⟩
  -- And what stays starts as the whole did.
  obtain ⟨dropped, split⟩ := isPrefix
  rwa [← split, List.head?_append_of_ne_nil _ nonempty] at start

/-- The parts of digits with a decimal point so many places after their start. -/
def numeralAt (digits : List Char) (point : Int) : Json.Numeral :=
  if digits.length ≤ point ∧ point ≤ 21 then
    ⟨digits ++ zeros (point.toNat - digits.length), [], none⟩
  else if 0 < point ∧ point ≤ 21 then ⟨digits.take point.toNat, digits.drop point.toNat, none⟩
  else if -6 < point ∧ point ≤ 0 then ⟨['0'], zeros (-point).toNat ++ digits, none⟩
  else ⟨digits.take 1, digits.drop 1,
    some (if point - 1 < 0 then '-' else '+', Nat.toDigits 10 (point - 1).natAbs)⟩

theorem fractionChars_eq {whole fraction : List Char} {exponent : Option (Char × List Char)}
    (nonempty : fraction ≠ []) :
    (Json.Numeral.mk whole fraction exponent).fractionChars = '.' :: fraction := by
  cases fraction with
  | nil => exact absurd rfl nonempty
  | cons digit more => rfl

theorem layout_eq_chars {decimal : Decimal} (nonempty : significant decimal.digits ≠ []) :
    layout decimal = (numeralAt (significant decimal.digits)
      ((Nat.toDigits 10 decimal.digits).length + decimal.exponent)).chars := by
  have fold : ((Nat.toDigits 10 decimal.digits).reverse.dropWhile (· == '0')).reverse =
    significant decimal.digits := rfl
  simp only [layout, fold, numeralAt]
  generalize significant decimal.digits = digits at *
  generalize ((Nat.toDigits 10 decimal.digits).length : Int) + decimal.exponent = point
  split
  next => simp [Json.Numeral.chars, Json.Numeral.fractionChars, Json.Numeral.exponentChars]
  next beyond =>
    split
    next =>
      -- The point stands within the digits, so there are some behind it.
      have behind : digits.drop point.toNat ≠ [] := by
        rw [Ne, List.drop_eq_nil_iff]
        omega
      rw [Json.Numeral.chars, fractionChars_eq behind]
      simp [Json.Numeral.exponentChars]
    next =>
      split
      next =>
        -- All digits stand behind the point.
        have behind : zeros (-point).toNat ++ digits ≠ [] := by simp [nonempty]
        rw [Json.Numeral.chars, fractionChars_eq behind]
        simp [Json.Numeral.exponentChars]
      next =>
        rw [Json.Numeral.chars, List.append_assoc]
        rfl

/-- The first digits of a number, one at least. -/
theorem isNumeral_take {digits : List Char} (isNumeral : Digits.IsNumeral digits) (more : Nat) :
    Digits.IsNumeral (digits.take (more + 1)) ∧ (digits.take (more + 1)).head? = digits.head? := by
  refine ⟨⟨?_, fun c listed => isNumeral.digits c (List.mem_of_mem_take listed)⟩, ?_⟩
  · simp [isNumeral.nonempty]
  · rw [List.head?_take, if_neg (Nat.succ_ne_zero more)]

theorem legal_numeralAt {digits : List Char} (isNumeral : Digits.IsNumeral digits)
    (notZero : digits.head? ≠ some '0') (point : Int) : (numeralAt digits point).Legal := by
  have isZeros : ∀ count, ∀ c ∈ zeros count, c.isDigit = true := by
    intro count c listed
    rw [List.eq_of_mem_replicate listed]
    rfl
  have dropped : ∀ count, ∀ c ∈ digits.drop count, c.isDigit = true := by
    intro count c listed
    exact isNumeral.digits c (List.mem_of_mem_drop listed)
  unfold numeralAt
  split
  next =>
    -- Zeros fill up to the point.
    refine ⟨⟨by simp [isNumeral.nonempty], ?_⟩, ?_, by simp, by simp⟩
    · exact List.forall_mem_append.mpr ⟨isNumeral.digits, isZeros _⟩
    · intro zero
      rw [List.head?_append_of_ne_nil _ isNumeral.nonempty] at zero
      exact absurd zero notZero
  next =>
    split
    next inside =>
      -- The point stands within the digits.
      obtain ⟨more, places⟩ : ∃ more, point.toNat = more + 1 := ⟨point.toNat - 1, by omega⟩
      obtain ⟨taken, start⟩ := isNumeral_take isNumeral more
      rw [places]
      exact ⟨taken, fun zero => absurd (start ▸ zero) notZero, dropped _, by simp⟩
    next =>
      split
      next =>
        -- A single zero stands before the point.
        refine ⟨⟨by simp, by simp⟩, fun _ => rfl, ?_, by simp⟩
        exact List.forall_mem_append.mpr ⟨isZeros _, isNumeral.digits⟩
      next =>
        -- One digit stands before the point, and the exponent has digits of its own.
        obtain ⟨taken, start⟩ := isNumeral_take isNumeral 0
        refine ⟨taken, fun zero => absurd (start ▸ zero) notZero, dropped _, ?_⟩
        rintro sign exponent same
        obtain ⟨rfl, rfl⟩ := Prod.mk.inj (Option.some.inj same)
        refine ⟨?_, isNumeral_toDigits _⟩
        split
        · exact .inl rfl
        · exact .inr rfl

theorem exists_numeral_layout {decimal : Decimal} (positive : 0 < decimal.digits) :
    ∃ numeral : Json.Numeral, numeral.Legal ∧ layout decimal = numeral.chars := by
  obtain ⟨isNumeral, notZero⟩ := isNumeral_significant positive
  exact ⟨_, legal_numeralAt isNumeral notZero _, layout_eq_chars isNumeral.nonempty⟩

/-! ### Numbers -/

/-- Integers up to `2 ^ 53` are doubles. -/
theorem ofInt_eq_integer {n : Int} (bounded : n.natAbs ≤ 2 ^ 53) : ofInt n = integer n := by
  have small : n.natAbs ≤ Nat.pow 2 53 := bounded
  have value : signed (n < 0) n.natAbs = n := by
    simp only [signed, decide_eq_true_eq]
    split <;> omega
  simp only [ofInt, ofDecimal, true_and, if_pos small, value]
  split
  next zero => rw [Int.natAbs_eq_zero.mp zero]
  next => rfl

theorem exists_numeral_magnitude (n : Nat) :
    ∃ numeral : Json.Numeral, numeral.Legal ∧ magnitudeText n = numeral.chars := by
  unfold magnitudeText
  split
  next => exact ⟨plainNumeral n, legal_plainNumeral n, (chars_plainNumeral n).symm⟩
  next large =>
    -- Fewer places are cut off than there are.
    have nonzero : n ≠ 0 := by
      rintro rfl
      exact large (by decide)
    have bits : Nat.pow 2 (n.log2 - 52) ≤ n :=
      (Nat.pow_le_pow_right (by decide) (Nat.sub_le _ _)).trans (Nat.log2_self_le nonzero)
    exact exists_numeral_layout (coarsest_pos (Nat.div_pos bits (Nat.two_pow_pos _)) _ _ _)

theorem exists_numeral_fraction {numerator : Nat} (positive : 0 < numerator) (denominator : Nat) :
    ∃ numeral : Json.Numeral, numeral.Legal ∧
      fractionText numerator denominator = numeral.chars := by
  unfold fractionText
  exact exists_numeral_layout (coarsest_pos (Nat.mul_pos positive (Nat.two_pow_pos _)) _ _ _)

end Number

namespace Json

/-- What is written as a legal numeral is read as the double next to it. -/
theorem numberReadsAs_numeral {value : Number} {negative : Bool} {numeral : Numeral}
    (legal : numeral.Legal)
    (written : numberChars value = Number.withSign negative numeral.chars) :
    NumberReadsAs value (Number.ofDecimal negative
      (Digits.value (numeral.whole ++ numeral.fraction))
      (numeral.power - numeral.fraction.length)) where
  opens := by
    obtain ⟨first, more, chars, digit⟩ := Numeral.exists_chars_cons legal
    rw [written, chars]
    cases negative with
    | true => exact ⟨_, _, rfl, .inl rfl⟩
    | false => exact ⟨_, _, rfl, .inr digit⟩
  reads rest closes := by
    rw [written, Numeral.readNumber_chars legal,
      Numeral.readMagnitude_chars legal (Numeral.ends_of_closes closes)]

/-- Integers of at most 53 bits are read back. -/
theorem numberReadsAs_integer {n : Int} (small : n.natAbs < 2 ^ 53) :
    NumberReadsAs (.integer n) (.integer n) := by
  have bits : n.natAbs < Nat.pow 2 53 := small
  have written : numberChars (.integer n) =
      Number.withSign (n < 0) (Number.plainNumeral n.natAbs).chars := by
    rw [Number.chars_plainNumeral]
    simp only [numberChars, Number.chars, Number.magnitudeText, if_pos bits]
  -- Without point and exponent the coefficient is the number itself.
  have reads := numberReadsAs_numeral (Number.legal_plainNumeral n.natAbs) written
  have value : Digits.value (Nat.toDigits 10 n.natAbs ++ []) = n.natAbs := by
    rw [List.append_nil, Digits.value, Nat.ofDigitChars_ten_toDigits]
  have same := Number.ofInt_eq_integer small.le
  rw [Number.ofInt] at same
  simp only [Number.plainNumeral, Numeral.power, value] at reads
  rwa [List.length_nil, Int.natCast_zero, Int.sub_zero, same] at reads

/-- The text of any number can be read; infinities have none of their own. -/
theorem exists_readsAs_number (value : Number) : ∃ read, ReadsAs (.number value) read := by
  cases value with
  | integer n =>
    obtain ⟨numeral, legal, written⟩ := Number.exists_numeral_magnitude n.natAbs
    exact ⟨_, readsAs_number (numberReadsAs_numeral legal (congrArg (Number.withSign _) written))⟩
  | fraction negative numerator denominator positive =>
    obtain ⟨numeral, legal, written⟩ := Number.exists_numeral_fraction positive.1 denominator
    exact ⟨_, readsAs_number (numberReadsAs_numeral legal (congrArg (Number.withSign _) written))⟩
  | infinite negative =>
    exact ⟨.null, readsAs_of_literal 'n' ['u', 'l', 'l'] (fun _ _ => rfl) rfl (by decide)
      fun _ _ => rfl⟩

/-! ### Plain values -/

mutual

/-- All numbers are small integers, and all objects have distinct keys that are no array indices. -/
def isPlain : Json → Bool
  | .null | .bool _ | .string _ => true
  | .number (.integer n) => n.natAbs < 2 ^ 53
  | .number _ => false
  | .array elements => elementsPlain elements
  | .object members => (members.map (·.1)).Nodup && membersPlain members

/-- All elements are plain. -/
def elementsPlain : List Json → Bool
  | [] => true
  | element :: more => element.isPlain && elementsPlain more

/-- All keys are names, and all values are plain. -/
def membersPlain : Members → Bool
  | [] => true
  | (key, value) :: more => (arrayIndex? key).isNone && value.isPlain && membersPlain more

end

mutual

theorem legible_of_isPlain : (json : Json) → json.isPlain = true → json.Legible
  | .null, _ => .null
  | .bool value, _ => .bool value
  | .string value, _ => .string value
  | .number (.integer n), plain => .number (numberReadsAs_integer (by simpa [isPlain] using plain))
  | .array elements, plain => .array (legible_of_elementsPlain elements plain)
  | .object members, plain => by
    simp only [isPlain, Bool.and_eq_true, decide_eq_true_eq] at plain
    have each := legible_of_membersPlain members plain.2
    exact .object (ofMembers_of_names plain.1 fun member listed => (each member listed).1)
      fun member listed => (each member listed).2

theorem legible_of_elementsPlain : (elements : List Json) → elementsPlain elements = true →
    ∀ element ∈ elements, element.Legible
  | [], _ => by simp
  | element :: more, plain => by
    simp only [elementsPlain, Bool.and_eq_true] at plain
    exact List.forall_mem_cons.mpr
      ⟨legible_of_isPlain element plain.1, legible_of_elementsPlain more plain.2⟩

theorem legible_of_membersPlain : (members : Members) → membersPlain members = true →
    ∀ member ∈ members, arrayIndex? member.1 = none ∧ member.2.Legible
  | [], _ => by simp
  | (key, value) :: more, plain => by
    simp only [membersPlain, Bool.and_eq_true, Option.isNone_iff_eq_none] at plain
    exact List.forall_mem_cons.mpr
      ⟨⟨plain.1.1, legible_of_isPlain value plain.1.2⟩, legible_of_membersPlain more plain.2⟩

end

end Json

end OperationLint
