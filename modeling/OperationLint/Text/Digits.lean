/-!
# Digits

Decimal and hexadecimal digits in texts, and the numbers that they write.
-/

namespace OperationLint.Digits

/-- One or more decimal digits. -/
structure IsNumeral (text : List Char) : Prop where
  nonempty : text ≠ []
  digits : ∀ c ∈ text, c.isDigit = true

instance (text : List Char) : Decidable (IsNumeral text) :=
  decidable_of_iff (text ≠ [] ∧ text.all Char.isDigit = true)
    ⟨fun ⟨nonempty, digits⟩ => ⟨nonempty, List.all_eq_true.mp digits⟩,
      fun numeral => ⟨numeral.nonempty, List.all_eq_true.mpr numeral.digits⟩⟩

/-- The number that decimal digits write; zeros in front do not count. -/
def value (digits : List Char) : Nat := Nat.ofDigitChars 10 digits 0

/-- The hexadecimal digit of a number below sixteen, where `ten` is the letter for ten. -/
def hexDigit (ten : Char) (n : Nat) : Char :=
  if n < 10 then Char.ofNat ('0'.toNat + n) else Char.ofNat (ten.toNat + (n - 10))

end OperationLint.Digits
