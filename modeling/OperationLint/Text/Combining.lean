import OperationLint.Text.Composition
import OperationLint.Text.MarkClass

/-!
# Letters with marks

A letter with marks may be one character or several. In normal form it is several: the letter, then
its marks by class; marks of one class keep their order, for they stack up.
-/

namespace OperationLint.Combining

/-- The letters of a Korean syllable. Syllables are numbered by their first consonant, of which
there are 19, then their vowel, one of 21, then their last consonant, one of 27 or none. -/
def syllable? (c : Char) : Option (List Char) :=
  if 0xac00 ≤ c.toNat ∧ c.toNat ≤ 0xd7a3 then
    let number := c.toNat - 0xac00
    let start := [Char.ofNat (0x1100 + number / 588), Char.ofNat (0x1161 + number % 588 / 28)]
    some (if number % 28 = 0 then start else start ++ [Char.ofNat (0x11a7 + number % 28)])
  else none

/-- What a character is made of. -/
def decompose (c : Char) : List Char :=
  if c.toNat < 0x80 then [c]
  else
    match syllable? c with
    | some letters => letters
    | none => (parts.get? c).getD [c]

/-- Puts a character before others; a mark goes behind the marks of lower classes. -/
def place (c : Char) : List Char → List Char
  | [] => [c]
  | next :: rest =>
    if markClass next ≠ 0 ∧ markClass next < markClass c then next :: place c rest
    else c :: next :: rest

/-- The normal form of a text. -/
def normalForm (text : List Char) : List Char := (text.flatMap decompose).foldr place []

end OperationLint.Combining
