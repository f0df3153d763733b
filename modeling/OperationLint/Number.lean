/-!
# Double-precision numbers, exactly

A number of the snapshot format is the double nearest to its decimal text. It is kept by what it
is: an integer, a fraction in lowest terms, or an infinity. Zero has no sign.

## Main definitions

* `Number.ofDecimal` rounds `± coefficient * 10 ^ exponent` to the nearest double, halves to even.
* `Number.text` writes the fewest digits that read back as the same double, and of those the
  nearest to it.
-/

namespace OperationLint

/-- A double: an integer, `± numerator / denominator` in lowest terms with the denominator a power
of two above one, or an infinity. -/
inductive Number where
  | integer (value : Int)
  | fraction (negative : Bool) (numerator denominator : Nat)
      (positive : 0 < numerator ∧ 0 < denominator)
  | infinite (negative : Bool)
  deriving DecidableEq, Inhabited

/-- The nearest integer to a quotient; a half goes to the even neighbour. -/
def roundQuotient (numerator denominator : Nat) : Nat :=
  let quotient := numerator / denominator
  let twice := 2 * (numerator % denominator)
  if twice < denominator then quotient
  else if denominator < twice then quotient + 1
  else quotient + quotient % 2

namespace Number

/-! ### Reading -/

/-- The integer of a magnitude and a sign. -/
def signed (negative : Bool) (magnitude : Nat) : Int :=
  if negative then -(magnitude : Int) else magnitude

/-- A quotient that is no integer has two positive parts in lowest terms. -/
theorem lowestTerms_pos {whole denominator : Nat} (positive : 0 < denominator)
    (proper : denominator ≠ Nat.gcd whole denominator) :
    0 < whole / Nat.gcd whole denominator ∧ 0 < denominator / Nat.gcd whole denominator := by
  refine ⟨Nat.div_gcd_pos_of_pos_left denominator (Nat.pos_of_ne_zero ?_),
    Nat.div_gcd_pos_of_pos_right whole positive⟩
  rintro rfl
  exact proper (Nat.gcd_zero_left denominator).symm

/-- The number `± mantissa * 2 ^ exponent`, in lowest terms. -/
def ofDyadic (negative : Bool) (mantissa : Nat) (exponent : Int) : Number :=
  let whole := mantissa * Nat.pow 2 exponent.toNat
  let denominator := Nat.pow 2 (-exponent).toNat
  let common := Nat.gcd whole denominator
  if integral : denominator = common then
    if Nat.pow 2 1024 ≤ whole / common then infinite negative
    else integer (signed negative (whole / common))
  else fraction negative (whole / common) (denominator / common)
    (lowestTerms_pos (Nat.two_pow_pos _) integral)

/-- The exponent of the last of the 53 binary places that a double keeps of a positive quotient;
small values keep fewer places, down to `2 ^ -1074`. -/
def lastPlace (numerator denominator : Nat) : Int :=
  let guess := (numerator.log2 : Int) - denominator.log2 - 53
  let fits := numerator * Nat.pow 2 (-guess).toNat
    < Nat.pow 2 53 * (denominator * Nat.pow 2 guess.toNat)
  max (-1074) (if fits then guess else guess + 1)

/-- The double nearest to a positive quotient. -/
def ofQuotient (negative : Bool) (numerator denominator : Nat) : Number :=
  let place := lastPlace numerator denominator
  ofDyadic negative
    (roundQuotient (numerator * Nat.pow 2 (-place).toNat) (denominator * Nat.pow 2 place.toNat))
    place

/-- How many decimal digits a number has. -/
def digitCount (n : Nat) : Nat := (Nat.toDigits 10 n).length

/-- The double nearest to `± coefficient * 10 ^ exponent`. Integers up to `2 ^ 53` are themselves;
values of more than 310 places before the point are infinite and those that start more than 330
places behind it are zero, so no large power of ten is ever formed. -/
def ofDecimal (negative : Bool) (coefficient : Nat) (exponent : Int) : Number :=
  if coefficient = 0 then integer 0
  else if exponent = 0 ∧ coefficient ≤ Nat.pow 2 53 then integer (signed negative coefficient)
  else
    let magnitude := (digitCount coefficient : Int) + exponent
    if 310 < magnitude then infinite negative
    else if magnitude < -330 then integer 0
    else ofQuotient negative
      (coefficient * Nat.pow 10 exponent.toNat) (Nat.pow 10 (-exponent).toNat)

/-- The double nearest to an integer. -/
def ofInt (n : Int) : Number := ofDecimal (n < 0) n.natAbs 0

/-! ### Views -/

/-- The integer that a number is. -/
def toInt? : Number → Option Int
  | integer n => some n
  | _ => none

/-- Above zero. -/
def isPositive : Number → Bool
  | integer n => 0 < n
  | fraction negative _ _ _ => !negative
  | infinite negative => !negative

/-! ### Order -/

/-- The numerator of a finite number, with its sign. -/
def numerator : Number → Int
  | integer n => n
  | fraction negative top _ _ => signed negative top
  | infinite _ => 0

/-- The denominator of a finite number. -/
def denominator : Number → Nat
  | fraction _ _ bottom _ => bottom
  | _ => 1

/-- Where a number stands: below, among or above the finite ones. -/
def side : Number → Int
  | infinite true => -1
  | infinite false => 1
  | _ => 0

/-- Compares by value. -/
def compare (a b : Number) : Ordering :=
  (Ord.compare a.side b.side).then
    (Ord.compare (a.numerator * b.denominator) (b.numerator * a.denominator))

/-! ### Writing -/

/-- Decimal digits with the power of ten of the last one. -/
structure Decimal where
  digits : Nat
  exponent : Int

/-- Among the two multiples of `10 ^ power` next to `mantissa * 2 ^ exponent`, the nearer one that
still rounds to it, the even one of two that are equally near. The reals that do so reach half a
place up and half a place down, a quarter down from a power of two, and include their ends when
the mantissa is even. -/
def nearestMultiple? (mantissa : Nat) (exponent power : Int) : Option Nat :=
  let scale := Nat.pow 2 (exponent - 2).toNat * Nat.pow 10 (-power).toNat
  let unit := Nat.pow 10 power.toNat * Nat.pow 2 (2 - exponent).toNat
  let value := 4 * mantissa * scale
  let below := if mantissa = Nat.pow 2 52 ∧ -1074 < exponent then 1 else 2
  let low := (4 * mantissa - below) * scale
  let high := (4 * mantissa + 2) * scale
  let inside (multiple : Nat) : Bool :=
    if mantissa % 2 = 0 then low ≤ multiple * unit && multiple * unit ≤ high
    else low < multiple * unit && multiple * unit < high
  let floor := value / unit
  match inside floor, inside (floor + 1) with
  | true, true => some (roundQuotient value unit)
  | true, false => some floor
  | false, true => some (floor + 1)
  | false, false => none

/-- The coarsest grid of powers of ten, from the given one down, on which a multiple rounds to
`mantissa * 2 ^ exponent`. -/
def coarsest (mantissa : Nat) (exponent : Int) : Nat → Int → Decimal
  | 0, power => ⟨mantissa, power⟩
  | grids + 1, power =>
    match nearestMultiple? mantissa exponent power with
    | some multiple => ⟨multiple, power⟩
    | none => coarsest mantissa exponent grids (power - 1)

/-- The shortest decimal of `mantissa * 2 ^ exponent`. The first grid is above the value, and a
double has at most seventeen digits, so twenty grids are enough. -/
def shortest (mantissa : Nat) (exponent : Int) : Decimal :=
  let top := Int.fdiv (((mantissa.log2 : Int) + 1 + exponent) * 30103) 100000 + 1
  coarsest mantissa exponent 20 top

/-- A run of zeros. -/
def zeros (count : Nat) : List Char := List.replicate count '0'

/-- Digits as written. A decimal point stands within them or up to 21 places after their start, or
up to six zeros stand between it and them; beyond that there is one digit before the point, then
`e`, a sign and the exponent. -/
def layout (decimal : Decimal) : List Char :=
  let written := Nat.toDigits 10 decimal.digits
  let digits := (written.reverse.dropWhile (· == '0')).reverse
  let point : Int := written.length + decimal.exponent
  if digits.length ≤ point ∧ point ≤ 21 then digits ++ zeros (point.toNat - digits.length)
  else if 0 < point ∧ point ≤ 21 then digits.take point.toNat ++ '.' :: digits.drop point.toNat
  else if -6 < point ∧ point ≤ 0 then '0' :: '.' :: zeros (-point).toNat ++ digits
  else
    let exponent := point - 1
    let sign := if exponent < 0 then '-' else '+'
    let fractionPart := match digits.drop 1 with
      | [] => []
      | more => '.' :: more
    digits.take 1 ++ fractionPart ++ 'e' :: sign :: Nat.toDigits 10 exponent.natAbs

/-- The digits of a positive integer. Below `2 ^ 53` neighbours are at most one apart, so every
digit counts. -/
def magnitudeText (n : Nat) : List Char :=
  if n < Nat.pow 2 53 then Nat.toDigits 10 n
  else
    let place := n.log2 - 52
    layout (shortest (n / Nat.pow 2 place) place)

/-- The digits of a fraction. -/
def fractionText (numerator denominator : Nat) : List Char :=
  let place : Int := max (-1074) ((numerator.log2 : Int) - denominator.log2 - 52)
  layout (shortest (numerator * Nat.pow 2 (-place - denominator.log2).toNat) place)

/-- A minus sign where there is one. -/
def withSign (negative : Bool) (text : List Char) : List Char :=
  if negative then '-' :: text else text

/-- The text of a number. -/
def chars : Number → List Char
  | integer n => withSign (n < 0) (magnitudeText n.natAbs)
  | fraction negative numerator denominator _ =>
    withSign negative (fractionText numerator denominator)
  | infinite negative => withSign negative "Infinity".toList

@[inherit_doc chars]
def text (n : Number) : String := String.ofList n.chars

end Number

end OperationLint
