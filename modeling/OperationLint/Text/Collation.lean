import OperationLint.Text.Collation.Accent
import OperationLint.Text.Collation.Alphabet
import OperationLint.Text.Collation.Capital
import OperationLint.Text.Collation.Contraction
import OperationLint.Text.Collation.Form
import OperationLint.Text.Collation.Ignorable
import OperationLint.Text.Combining

/-!
# Collation

The order of paths and rule ids that people expect in a listing. A text in normal form stands for
collation elements with weights on three levels. Texts are compared by their primary weights, which
tell letters apart, then by their secondary weights, which tell accents apart, then by their
tertiary weights, which tell small letters from capitals and from other forms. Control characters
have no weight at all. Digits are no numbers here: `10` comes before `9`.
-/

namespace OperationLint.Collation

/-- The weights of a collation element. An element without a primary weight counts on the lower
levels only. -/
structure Element where
  primary : Option Nat
  secondary : Nat
  tertiary : Nat

/-! ### Elements -/

/-- The tertiary weight of a small letter, and of whatever has no case. -/
def smallTertiary : Nat := 0x2

/-- The tertiary weight of a capital. -/
def capitalTertiary : Nat := 0x8

/-- The tertiary weight of hiragana, of which the other kana are forms. -/
def hiraganaTertiary : Nat := 0xe

/-- Hiragana without marks. -/
def hiragana : Run := ⟨'ぁ', 'ん'⟩

/-- The element of a character that is no form of others but a capital. -/
def element (c : Char) : Element :=
  match accentWeight? c with
  | some weight => ⟨none, weight, smallTertiary⟩
  | none =>
    match small? c with
    | some small => ⟨some (rank small), plainSecondary, capitalTertiary⟩
    | none =>
      ⟨some (rank c), plainSecondary,
        if hiragana.contains c then hiraganaTertiary else smallTertiary⟩

/-- The element of a form, from that of what it stands for. -/
def FormKind.adapt (kind : FormKind) (element : Element) : Element :=
  { element with
    tertiary := if element.tertiary = capitalTertiary then kind.capital else kind.small }

/-- The elements of a form. -/
def Form.elements (form : Form) : List Element :=
  let adapted := form.text.map fun c => form.kind.adapt (element c)
  match form.kind.joint, adapted with
  | some weight, first :: rest => first :: ⟨none, weight, form.kind.small⟩ :: rest
  | _, _ => adapted

/-- The elements of a character. -/
def elements (c : Char) : List Element :=
  if isIgnorable c then []
  else
    match form? c with
    | some form => form.elements
    | none => [element c]

/-! ### Keys -/

/-- What texts are compared by: their weights, level by level. -/
structure Key where
  primary : List Nat
  secondary : List Nat
  tertiary : List Nat
  deriving DecidableEq

/-- The elements of a text. -/
def elementsOf (text : String) : List Element :=
  (contracted (Combining.normalForm text.toList)).flatMap elements

/-- The key of a text. -/
def key (text : String) : Key :=
  let all := elementsOf text
  ⟨all.filterMap (·.primary), all.map (·.secondary), all.map (·.tertiary)⟩

/-- Compares by each level in turn; on a level, number by number, and a start comes first. -/
def Key.compare (a b : Key) : Ordering :=
  (Ord.compare a.primary b.primary).then
    ((Ord.compare a.secondary b.secondary).then (Ord.compare a.tertiary b.tertiary))

/-- Compares two texts. -/
def compare (a b : String) : Ordering := (key a).compare (key b)

end OperationLint.Collation
