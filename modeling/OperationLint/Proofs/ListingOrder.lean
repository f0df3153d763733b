import Mathlib
import OperationLint.Proofs.StableOrder

/-!
# The order of a listing

Diagnostics are compared by four keys in turn, of which two are texts. That is a consistent order:
it can be turned round, it is transitive, and diagnostics that compare equal compare alike with all
others. Texts of ASCII are compared by what their characters weigh, blanks before marks before
digits before letters, and then by which letters are capitals.

## Main result

`Diagnostic.compare_consistent`: the order of texts of ASCII, and the laws of the comparison.

## Proof strategy

- In a text of ASCII nothing is decomposed, joined or moved, so its collation elements are those of
  its characters one by one (`Collation.elementsOf_ascii`).
- `Collation.compare_ascii`: weights and places grow together, and the secondary weights tell
  nothing that the number of primary weights does not.
- The laws are those of lexicographic comparison.
-/

namespace OperationLint

/-- Lists compare as before when their entries are mapped in order. -/
theorem compare_map {f : Nat → Nat} (mono : StrictMono f) (left right : List Nat) :
    Ord.compare (left.map f) (right.map f) = Ord.compare left right := by
  have entry (m n : Nat) : Ord.compare (f m) (f n) = Ord.compare m n := by
    rcases Nat.lt_trichotomy m n with less | rfl | more
    · rw [Nat.compare_eq_lt.mpr less, Nat.compare_eq_lt.mpr (mono less)]
    · rw [Nat.compare_eq_eq.mpr rfl, Nat.compare_eq_eq.mpr rfl]
    · rw [Nat.compare_eq_gt.mpr more, Nat.compare_eq_gt.mpr (mono more)]
  induction left generalizing right with
  | nil => cases right <;> rfl
  | cons m left ih =>
    cases right with
    | nil => rfl
    | cons n right =>
      rw [List.map_cons, List.map_cons, List.compare_cons_cons, List.compare_cons_cons, entry,
        ih right]

namespace Collation

/-! ### Texts of ASCII -/

def IsAscii (text : List Char) : Prop := ∀ c ∈ text, c.toNat < 0x80

/-- The characters that count, in order, with small letters for both cases. -/
def alphabet : List Char :=
  "\x09\x0a\x0b\x0c\x0d _-,;:!?.'\"()[]\x7b\x7d@*/\\&#%`^+<=>|~$".toList ++ "0123456789".toList
    ++ "abcdefghijklmnopqrstuvwxyz".toList

/-- The characters of a text that count: all but controls that are no blanks. -/
def counted (text : List Char) : List Char :=
  text.filter fun c =>
    !(c.toNat ≤ 0x08 || (0x0e ≤ c.toNat && c.toNat ≤ 0x1f) || c.toNat = 0x7f)

/-- What a character weighs: its position in the alphabet. -/
def weight (c : Char) : Nat := alphabet.idxOf c.toLower

/-- One for a capital. -/
def caseFlag (c : Char) : Nat := if c.isUpper then 1 else 0

/-- Compares texts by the weights of what counts, then by which of it is a capital. -/
def compareAscii (a b : List Char) : Ordering :=
  (Ord.compare ((counted a).map weight) ((counted b).map weight)).then
    (Ord.compare ((counted a).map caseFlag) ((counted b).map caseFlag))

/-! ### Normal form -/

theorem markClass_ascii {c : Char} (ascii : c.toNat < 0x80) : Combining.markClass c = 0 := by
  have low : c.toNat < 0x300 := by omega
  rw [Combining.markClass, if_pos low]

theorem normalForm_ascii {text : List Char} (ascii : IsAscii text) :
    Combining.normalForm text = text := by
  have whole : text.flatMap Combining.decompose = text := by
    calc text.flatMap Combining.decompose
        = text.flatMap ([·]) := by
          apply List.flatMap_congr
          intro c inside
          rw [Combining.decompose, if_pos (ascii c inside)]
      _ = text := List.flatMap_singleton' text
  rw [Combining.normalForm, whole]
  clear whole
  induction text with
  | nil => rfl
  | cons c rest ih =>
    obtain ⟨_, behind⟩ := List.forall_mem_cons.mp ascii
    rw [List.foldr_cons, ih behind]
    -- What follows is no mark, so nothing goes behind it.
    cases rest with
    | nil => rfl
    | cons next rest => simp [Combining.place, markClass_ascii (behind next List.mem_cons_self)]

theorem spoken_ascii {text : List Char} (ascii : IsAscii text) : spoken text = text := by
  fun_induction spoken text with
  | case1 c next rest leads ih =>
    have here : c.toNat < 0x80 := ascii c List.mem_cons_self
    simp [isLeadingVowel, Nat.not_le.mpr here] at leads
  | case2 c next rest _ ih => rw [ih (List.forall_mem_cons.mp ascii).2]
  | case3 => rfl

theorem contract_ascii {c : Char} {rest : List Char} (ascii : IsAscii rest) :
    contract c rest = c :: rest := by
  have apart : join? c 0 rest = none := by
    cases rest with
    | nil => rfl
    | cons next rest =>
      have here : next.toNat < 0x80 := ascii next List.mem_cons_self
      simp [join?, whole?, Nat.not_le.mpr here, markClass_ascii here]
  rw [contract, apart]

theorem contracted_ascii {text : List Char} (ascii : IsAscii text) : contracted text = text := by
  rw [contracted, spoken_ascii ascii]
  induction text with
  | nil => rfl
  | cons c rest ih =>
    obtain ⟨_, behind⟩ := List.forall_mem_cons.mp ascii
    rw [List.foldr_cons, ih behind, contract_ascii behind]

/-! ### Elements -/

theorem rank_of_mem {c : Char} (listed : c ∈ plain) : rank c = plainPlace (plain.idxOf c) := by
  have found : plain.idxOf? c = some (plain.idxOf c) := by
    generalize plain = chars at listed
    obtain ⟨position, found⟩ := Option.isSome_iff_exists.mp (List.isSome_idxOf?.mpr listed)
    rw [List.idxOf_eq_getD_idxOf?, found, Option.getD_some]
  unfold rank
  rw [found]

theorem plain_eq_alphabet : plain = alphabet := by decide +kernel

/-- Whatever counts is in the alphabet. -/
theorem toLower_mem_alphabet {c : Char} (ascii : c.toNat < 0x80) (counts : isIgnorable c = false) :
    c.toLower ∈ alphabet := by
  have all : ∀ n < 0x80, isIgnorable (Char.ofNat n) = false →
      alphabet.contains (Char.ofNat n).toLower = true := by decide +kernel
  have listed := all c.toNat ascii
  rw [Char.ofNat_toNat] at listed
  exact List.contains_iff_mem.mp (listed counts)

/-- The element of a character that counts. -/
def asciiElement (c : Char) : Element :=
  ⟨some (plainPlace (weight c)), plainSecondary, smallTertiary + 6 * caseFlag c⟩

theorem element_ascii {c : Char} (ascii : c.toNat < 0x80) (counts : isIgnorable c = false) :
    element c = asciiElement c := by
  have noAccent : accentWeight? c = none := by
    rw [accentWeight?, if_pos (by omega)]
  have place : rank c.toLower = plainPlace (weight c) := by
    rw [rank_of_mem (plain_eq_alphabet ▸ toLower_mem_alphabet ascii counts), plain_eq_alphabet]
    rfl
  cases capital : c.isUpper with
  | true => simp [element, asciiElement, noAccent, small?, capital, place, caseFlag,
      capitalTertiary, smallTertiary]
  | false =>
    have noKana : hiragana.contains c = false := by
      have first : 'ぁ'.toNat = 0x3041 := rfl
      simp only [Run.contains, hiragana, first, Bool.and_eq_false_iff, decide_eq_false_iff_not]
      omega
    rw [Char.toLower_eq_of_not_isUpper (Bool.eq_false_iff.mp capital)] at place
    simp [element, asciiElement, noAccent, small?, capital, ascii, place, noKana, caseFlag]

theorem elements_ascii {c : Char} (ascii : c.toNat < 0x80) :
    elements c = if isIgnorable c then [] else [asciiElement c] := by
  have noForm : form? c = none := by rw [form?, if_pos ascii]
  cases ignored : isIgnorable c with
  | true => simp [elements, ignored]
  | false => simp [elements, ignored, noForm, element_ascii ascii ignored]

theorem counted_ascii {text : List Char} (ascii : IsAscii text) :
    counted text = text.filter fun c => !isIgnorable c := by
  apply List.filter_congr
  intro c inside
  have here := ascii c inside
  rw [Bool.eq_iff_iff]
  simp only [isIgnorable, if_pos here, Bool.not_eq_true', Bool.or_eq_false_iff,
    Bool.and_eq_false_iff, decide_eq_false_iff_not]
  omega

theorem elementsOf_ascii {text : String} (ascii : IsAscii text.toList) :
    elementsOf text = (counted text.toList).map asciiElement := by
  rw [elementsOf, normalForm_ascii ascii, contracted_ascii ascii, counted_ascii ascii]
  generalize text.toList = chars at ascii
  induction chars with
  | nil => rfl
  | cons c rest ih =>
    obtain ⟨here, behind⟩ := List.forall_mem_cons.mp ascii
    rw [List.flatMap_cons, elements_ascii here, ih behind, List.filter_cons]
    cases isIgnorable c <;> rfl

/-! ### Comparing -/

theorem key_ascii {text : String} (ascii : IsAscii text.toList) :
    key text = ⟨((counted text.toList).map weight).map plainPlace,
      (counted text.toList).map fun _ => plainSecondary,
      ((counted text.toList).map caseFlag).map (smallTertiary + 6 * ·)⟩ := by
  simp [key, elementsOf_ascii ascii, List.filterMap_map, Function.comp_def, asciiElement]

theorem compare_ascii {a b : String} (asciiA : IsAscii a.toList) (asciiB : IsAscii b.toList) :
    compare a b = compareAscii a.toList b.toList := by
  have places : StrictMono plainPlace := by
    intro m n less
    simp only [plainPlace, gap]
    omega
  have flags : StrictMono (smallTertiary + 6 * ·) := by
    intro m n less
    dsimp only
    omega
  rw [compare, Key.compare, key_ascii asciiA, key_ascii asciiB, compareAscii]
  dsimp only
  rw [compare_map places, compare_map flags]
  cases primary : Ord.compare ((counted a.toList).map weight) ((counted b.toList).map weight) with
  | lt => rfl
  | gt => rfl
  | eq =>
    -- Texts with equal weights are equally long, and all secondary weights are equal.
    have long : (counted a.toList).length = (counted b.toList).length := by
      simpa using congrArg List.length (Std.compare_eq_iff_eq.mp primary)
    have secondary : ((counted a.toList).map fun _ => plainSecondary) =
        (counted b.toList).map fun _ => plainSecondary := by
      rw [List.map_const', List.map_const', long]
    rw [secondary, Std.compare_self]
    rfl

/-- The character with a weight and a case. -/
def ofWeight (weight flag : Nat) : Char :=
  let small := alphabet.getD weight ' '
  if flag = 1 then small.toUpper else small

theorem ofWeight_weight {c : Char} (ascii : c.toNat < 0x80) (counts : isIgnorable c = false) :
    ofWeight (weight c) (caseFlag c) = c := by
  have all : ∀ n < 0x80, isIgnorable (Char.ofNat n) = false →
      ofWeight (weight (Char.ofNat n)) (caseFlag (Char.ofNat n)) = Char.ofNat n := by
    decide +kernel
  have restored := all c.toNat ascii
  rw [Char.ofNat_toNat] at restored
  exact restored counts

/-- What counts in a text is known from its weights and cases. -/
theorem zipWith_ofWeight {text : List Char} (ascii : IsAscii text) :
    List.zipWith ofWeight ((counted text).map weight) ((counted text).map caseFlag) =
      counted text := by
  rw [List.zipWith_map, List.zipWith_self, counted_ascii ascii]
  calc (text.filter fun c => !isIgnorable c).map (fun c => ofWeight (weight c) (caseFlag c))
      = (text.filter fun c => !isIgnorable c).map id := by
        apply List.map_congr_left
        intro c kept
        obtain ⟨inside, counts⟩ := List.mem_filter.mp kept
        exact ofWeight_weight (ascii c inside) (by simpa using counts)
    _ = text.filter fun c => !isIgnorable c := List.map_id _

theorem compareAscii_eq_eq_iff {a b : List Char} (asciiA : IsAscii a) (asciiB : IsAscii b) :
    compareAscii a b = .eq ↔ counted a = counted b := by
  constructor
  · intro tied
    obtain ⟨weights, flags⟩ := Ordering.then_eq_eq.mp tied
    rw [← zipWith_ofWeight asciiA, ← zipWith_ofWeight asciiB, Std.compare_eq_iff_eq.mp weights,
      Std.compare_eq_iff_eq.mp flags]
  · intro same
    rw [compareAscii, same, Std.compare_self, Std.compare_self]
    rfl

end Collation

/-! ### Positions -/

theorem Number.compare_integer (m n : Int) :
    Number.compare (.integer m) (.integer n) = Ord.compare m n := by
  simp [Number.compare, Number.side, Number.numerator, Number.denominator]

namespace Diagnostic

/-- A diagnostic starts at a line and a column, counted from one. -/
def HasStart (diagnostic : Diagnostic) : Prop :=
  ∃ line column : Int, 0 < line ∧ 0 < column ∧ diagnostic.location.startLine = .integer line ∧
    diagnostic.location.startColumn = .integer column

theorem compare_eq_eq_iff {a b : Diagnostic} (startsA : a.HasStart) (startsB : b.HasStart) :
    compare a b = .eq ↔
      Collation.compare a.location.path b.location.path = .eq ∧
      a.location.startLine = b.location.startLine ∧
      a.location.startColumn = b.location.startColumn ∧
      Collation.compare a.ruleId b.ruleId = .eq := by
  obtain ⟨lineA, columnA, _, _, hereA, thereA⟩ := startsA
  obtain ⟨lineB, columnB, _, _, hereB, thereB⟩ := startsB
  simp only [compare, Ordering.then_eq_eq, hereA, hereB, thereA, thereB, Number.compare_integer,
    Std.compare_eq_iff_eq, Number.integer.injEq]

/-- Texts of ASCII are compared by weights and then by case, so they collate alike exactly when they
differ in nothing that counts. Of any three diagnostics, two compare the other way round when they
are exchanged, and the comparison is transitive. Two compare equal exactly when their paths and
rules collate alike and they start at one place, and then they compare alike with every third. -/
theorem compare_consistent :
    (∀ p q : String, Collation.IsAscii p.toList → Collation.IsAscii q.toList →
      Collation.compare p q = Collation.compareAscii p.toList q.toList ∧
      (Collation.compare p q = .eq ↔
        Collation.counted p.toList = Collation.counted q.toList)) ∧
    ∀ a b c : Diagnostic, a.HasStart → b.HasStart → c.HasStart →
      compare b a = (compare a b).swap ∧
      ((compare a b).isLE → (compare b c).isLE → (compare a c).isLE) ∧
      (compare a b = .eq ↔
        Collation.compare a.location.path b.location.path = .eq ∧
        a.location.startLine = b.location.startLine ∧
        a.location.startColumn = b.location.startColumn ∧
        Collation.compare a.ruleId b.ruleId = .eq) ∧
      (compare a b = .eq → compare a c = compare b c ∧ compare c a = compare c b) := by
  constructor
  · intro p q asciiP asciiQ
    have byWeight := Collation.compare_ascii asciiP asciiQ
    exact ⟨byWeight, byWeight ▸ Collation.compareAscii_eq_eq_iff asciiP asciiQ⟩
  · intro a b c startsA startsB _
    refine ⟨Std.OrientedCmp.eq_swap, Std.TransCmp.isLE_trans, compare_eq_eq_iff startsA startsB, ?_⟩
    intro tied
    exact ⟨Std.TransCmp.congr_left tied, Std.TransCmp.congr_right tied⟩

/-- A diagnostic of a rule at the first character of a file. -/
def atStart (path ruleId : String) : Diagnostic :=
  ⟨ruleId, .warning, .usage, "", ⟨path, .integer 1, .integer 1, .integer 1, .integer 2⟩, []⟩

/-- Two paths that differ in a control character, and a third one with a capital. -/
theorem compare_consistent_control :
    compare (atStart "a.cs" "R") (atStart "a\x01.cs" "R") = .eq ∧
    compare (atStart "a.cs" "R") (atStart "A.cs" "R") = .lt ∧
    compare (atStart "a\x01.cs" "R") (atStart "A.cs" "R") = .lt := by
  obtain ⟨texts, laws⟩ := compare_consistent
  have starts (path : String) : (atStart path "R").HasStart :=
    ⟨1, 1, by decide, by decide, rfl, rfl⟩
  have ascii (path : String) (all : path.toList.all (·.toNat < 0x80) = true) :
      Collation.IsAscii path.toList := by simpa [Collation.IsAscii] using all
  have plain := ascii "a.cs" (by decide)
  have control := ascii "a\x01.cs" (by decide)
  have capital := ascii "A.cs" (by decide)
  obtain ⟨_, _, equal, alike⟩ :=
    laws _ _ _ (starts "a.cs") (starts "a\x01.cs") (starts "A.cs")
  have samePath : Collation.compare "a.cs" "a\x01.cs" = .eq :=
    (texts _ _ plain control).2.mpr (by decide)
  have sameRule : Collation.compare "R" "R" = .eq := Std.ReflCmp.compare_self
  have tied := equal.mpr ⟨samePath, rfl, rfl, sameRule⟩
  have less : compare (atStart "a.cs" "R") (atStart "A.cs" "R") = .lt := by
    have before : Collation.compare "a.cs" "A.cs" = .lt := by
      rw [(texts _ _ plain capital).1]
      decide
    simp [compare, atStart, before]
  exact ⟨tied, less, (alike tied).1 ▸ less⟩

end Diagnostic

end OperationLint
