import Mathlib.Data.Nat.Digits.Lemmas
import OperationLint.Text.Placeholder

/-!
# Layouts of message formats

A format is literal text with placeholders in it. Where they are does not depend on how they are
looked for: a placeholder has a brace at either end and digits between them, so two of them never
overlap, and a brace that starts none is literal text wherever it stands.

## Main result

`expand_fills_layout`: a format has one layout, with every placeholder in it that stands anywhere in
the format, and a message is this layout with arguments in the places of placeholders.

## Proof strategy

- `pieces_append_brace`: an opening brace ends whatever was held back before it.
- `pieces_of_isLiteral` and `pieces_marker`: what is cut from literal text, and from a text around a
  placeholder. So the pieces of a format are those of any of its layouts, and these are told apart
  by their pieces.
- `Layout.exists_of`: a format that is no literal text is split at a placeholder in it.
-/

namespace OperationLint.Placeholder

open Digits (IsNumeral)

/-! ### Layouts -/

/-- Digits between braces. -/
def marker (digits : List Char) : List Char := '\x7b' :: digits ++ ['\x7d']

theorem length_marker (digits : List Char) : (marker digits).length = digits.length + 2 := by
  simp [marker]

/-- No placeholder stands anywhere in a text. -/
def IsLiteral (text : List Char) : Prop := ∀ digits, IsNumeral digits → ¬ marker digits <:+: text

/-- Text in front, then the digits of each placeholder with the text behind it. -/
structure Layout where
  start : List Char
  rest : List (List Char × List Char)

namespace Layout

/-- The format that a layout is of. -/
def source (layout : Layout) : List Char :=
  layout.start ++ layout.rest.flatMap fun (digits, text) => marker digits ++ text

/-- A layout of a format: placeholders with digits in them, and literal text around them. -/
structure Of (layout : Layout) (format : List Char) : Prop where
  source : layout.source = format
  start : IsLiteral layout.start
  rest : ∀ part ∈ layout.rest, IsNumeral part.1 ∧ IsLiteral part.2

/-- Two layouts with a placeholder between them. -/
def join (left : Layout) (digits : List Char) (right : Layout) : Layout :=
  ⟨left.start, left.rest ++ (digits, right.start) :: right.rest⟩

theorem Of.join {left right : Layout} {before digits after : List Char} (ofLeft : left.Of before)
    (numeral : IsNumeral digits) (ofRight : right.Of after) :
    (left.join digits right).Of (before ++ marker digits ++ after) where
  source := by
    rw [← ofLeft.source, ← ofRight.source]
    simp [Layout.join, Layout.source]
  start := ofLeft.start
  rest := by
    refine List.forall_mem_append.mpr ⟨ofLeft.rest, ?_⟩
    exact List.forall_mem_cons.mpr ⟨⟨numeral, ofRight.start⟩, ofRight.rest⟩

/-- Every format has a layout. -/
theorem exists_of (format : List Char) : ∃ layout : Layout, layout.Of format := by
  -- The induction is on the length: on both sides of a placeholder there is less.
  induction bound : format.length using Nat.strong_induction_on generalizing format with
  | _ size shorter =>
    by_cases literal : IsLiteral format
    · exact ⟨⟨format, []⟩, List.append_nil format, literal, List.forall_mem_nil _⟩
    · simp only [IsLiteral, not_forall, not_not] at literal
      obtain ⟨digits, numeral, before, after, split⟩ := literal
      have longer : (marker digits).length = digits.length + 2 := length_marker digits
      rw [← split, List.length_append, List.length_append] at bound
      obtain ⟨left, ofLeft⟩ := shorter before.length (by omega) before rfl
      obtain ⟨right, ofRight⟩ := shorter after.length (by omega) after rfl
      exact ⟨_, split ▸ ofLeft.join numeral ofRight⟩

end Layout

/-! ### Cutting formats -/

/-- An opening brace ends whatever was held back before it. -/
theorem pieces_append_brace (held : Option (List Char)) (before rest : List Char) :
    pieces held (before ++ '\x7b' :: rest) = pieces held before ++ pieces (some []) rest := by
  have notDigit : Char.isDigit '\x7b' = false := by decide
  -- The cases are those of the cutting: the end of the text, then each kind of character.
  fun_induction pieces held before with
  | case1 => simp [pieces]
  | case2 => simp [pieces, notDigit]
  | case3 behind ih => simpa [pieces] using ih
  | case4 c behind other ih => simp [pieces, other, ih]
  | case5 c behind digits digit ih => simp [pieces, digit, ih]
  | case6 c behind digits _ closes ih => simp [pieces, closes, ih]
  | case7 behind digits _ _ ih => simp [pieces, notDigit, ih]
  | case8 c behind digits notDigit open_ other ih => simp [pieces, notDigit, open_, other, ih]

/-- Digits up to the closing brace are a placeholder, together with those held back. -/
theorem pieces_digits (held : List Char) {digits : List Char}
    (isDigit : ∀ c ∈ digits, c.isDigit = true) (nonempty : held ++ digits ≠ [])
    (after : List Char) :
    pieces (some held) (digits ++ '\x7d' :: after) =
      .placeholder (held ++ digits) :: pieces none after := by
  have notDigit : Char.isDigit '\x7d' = false := by decide
  induction digits generalizing held with
  | nil =>
    rw [List.append_nil] at nonempty ⊢
    simp [pieces, notDigit, nonempty]
  | cons c more ih =>
    obtain ⟨here, later⟩ := List.forall_mem_cons.mp isDigit
    have one : held ++ c :: more = held ++ [c] ++ more := List.append_cons held c more
    rw [one] at nonempty ⊢
    simp only [List.cons_append, pieces, here, ↓reduceIte]
    exact ih (held ++ [c]) later nonempty

theorem pieces_marker {digits : List Char} (numeral : IsNumeral digits)
    (before after : List Char) :
    pieces none (before ++ marker digits ++ after) =
      pieces none before ++ .placeholder digits :: pieces none after := by
  have split : before ++ marker digits ++ after =
      before ++ '\x7b' :: (digits ++ '\x7d' :: after) := by simp [marker]
  have cut : pieces (some []) (digits ++ '\x7d' :: after) =
      .placeholder digits :: pieces none after :=
    pieces_digits [] numeral.digits numeral.nonempty after
  rw [split, pieces_append_brace, cut]

theorem IsLiteral.suffix {text part : List Char} (literal : IsLiteral text)
    (suffix : part <:+ text) : IsLiteral part :=
  fun digits numeral inside => literal digits numeral (inside.trans suffix.isInfix)

/-- What is held back while digits are read. -/
def heldText : Option (List Char) → List Char
  | none => []
  | some digits => '\x7b' :: digits

/-- No character of a literal text is cut as part of a placeholder, also if a brace and digits of it
have been held back. -/
theorem pieces_of_isLiteral {held : Option (List Char)} {text : List Char}
    (isDigit : ∀ digits, held = some digits → ∀ c ∈ digits, c.isDigit = true)
    (literal : IsLiteral (heldText held ++ text)) :
    pieces held text = (heldText held ++ text).map .plain := by
  have none_ : ∀ digits : List Char, some [] = some digits → ∀ c ∈ digits, c.isDigit = true := by
    rintro _ ⟨⟩
    exact List.forall_mem_nil _
  fun_induction pieces held text with
  | case1 => rfl
  | case2 digits => simp [Piece.open, heldText]
  | case3 behind ih => exact ih none_ literal
  | case4 c behind _ ih =>
    have behindLiteral : IsLiteral behind := literal.suffix (List.suffix_cons c behind)
    rw [ih (by simp) behindLiteral]
    rfl
  | case5 c behind digits digit ih =>
    have same : heldText (some (digits ++ [c])) ++ behind =
        heldText (some digits) ++ c :: behind := by simp [heldText]
    rw [ih ?_ (same ▸ literal), same]
    rintro _ ⟨⟩
    exact List.forall_mem_append.mpr ⟨isDigit digits rfl, List.forall_mem_singleton.mpr digit⟩
  | case6 c behind digits _ closes ih =>
    -- A brace that closes digits would make a placeholder of them.
    obtain ⟨rfl, nonempty⟩ := closes
    exact absurd ⟨[], behind, by simp [marker, heldText]⟩
      (literal digits ⟨nonempty, isDigit digits rfl⟩)
  | case7 behind digits _ _ ih =>
    have behindLiteral : IsLiteral (heldText (some []) ++ behind) :=
      literal.suffix (List.suffix_append _ _)
    rw [ih none_ behindLiteral]
    simp [Piece.open, heldText]
  | case8 c behind digits _ _ _ ih =>
    have behindLiteral : IsLiteral behind :=
      literal.suffix ((List.suffix_cons c behind).trans (List.suffix_append _ _))
    rw [ih (by simp) behindLiteral]
    simp [Piece.open, heldText]

/-! ### Pieces of layouts -/

namespace Layout

/-- The pieces of a layout. -/
def pieces (layout : Layout) : List Piece :=
  layout.start.map .plain ++
    layout.rest.flatMap fun (digits, text) => .placeholder digits :: text.map .plain

theorem Of.pieces {layout : Layout} {format : List Char} (of : layout.Of format) :
    Placeholder.pieces none format = layout.pieces := by
  obtain ⟨start, rest⟩ := layout
  obtain ⟨rfl, literal, parts⟩ := of
  have plain {text : List Char} (literal : IsLiteral text) :
      Placeholder.pieces none text = text.map .plain := pieces_of_isLiteral (by simp) literal
  -- The layout is cut off at its first placeholder; what is behind it is a layout too.
  induction rest generalizing start with
  | nil => simpa [Layout.source, Layout.pieces] using plain literal
  | cons part more ih =>
    obtain ⟨digits, text⟩ := part
    obtain ⟨⟨numeral, behind⟩, others⟩ := List.forall_mem_cons.mp parts
    have split : Layout.source ⟨start, (digits, text) :: more⟩ =
        start ++ marker digits ++ Layout.source ⟨text, more⟩ := by simp [Layout.source]
    rw [split, pieces_marker numeral, plain literal, ih text behind others]
    simp [Layout.pieces]

/-- The layout with given pieces. -/
def ofPieces : List Piece → Layout
  | [] => ⟨[], []⟩
  | .plain c :: more => ⟨c :: (ofPieces more).start, (ofPieces more).rest⟩
  | .placeholder digits :: more => ⟨[], (digits, (ofPieces more).start) :: (ofPieces more).rest⟩

theorem ofPieces_append (text : List Char) (more : List Piece) :
    ofPieces (text.map .plain ++ more) =
      ⟨text ++ (ofPieces more).start, (ofPieces more).rest⟩ := by
  induction text with
  | nil => rfl
  | cons c text ih => simp [ofPieces, ih]

theorem ofPieces_pieces (layout : Layout) : ofPieces layout.pieces = layout := by
  obtain ⟨start, rest⟩ := layout
  have parts : ofPieces (rest.flatMap fun (digits, text) =>
      .placeholder digits :: text.map .plain) = ⟨[], rest⟩ := by
    induction rest with
    | nil => rfl
    | cons part more ih => simp [ofPieces, ofPieces_append, ih]
  rw [pieces, ofPieces_append, parts, List.append_nil]

/-- A format has no two layouts. -/
theorem Of.unique {layout other : Layout} {format : List Char} (of : layout.Of format)
    (otherOf : other.Of format) : other = layout := by
  rw [← ofPieces_pieces other, ← otherOf.pieces, of.pieces, ofPieces_pieces]

end Layout

/-! ### Messages -/

/-- The number that digits write. -/
def value (digits : List Char) : Nat :=
  Nat.ofDigits 10 (digits.reverse.map fun c => c.toNat - '0'.toNat)

theorem digitsValue_eq_value (digits : List Char) : Digits.value digits = value digits := by
  induction digits using List.reverseRecOn with
  | nil => rfl
  | append_singleton digits c ih =>
    simp only [Digits.value, Nat.ofDigitChars, List.foldl_append, List.foldl_cons, List.foldl_nil,
      value, List.reverse_append, List.reverse_singleton, List.singleton_append, List.map_cons,
      Nat.ofDigits_cons] at ih ⊢
    rw [ih]
    omega

/-- What a placeholder becomes: the argument with its number, or itself if there is none. -/
def filling (arguments : List String) (digits : List Char) : List Char :=
  if listed : value digits < arguments.length then arguments[value digits].toList
  else marker digits

theorem expand_placeholder (arguments : List String) (digits : List Char) :
    Piece.expand arguments (.placeholder digits) = filling arguments digits := by
  by_cases listed : value digits < arguments.length
  · simp [Piece.expand, filling, digitsValue_eq_value, listed]
  · simp [Piece.expand, filling, digitsValue_eq_value, listed, Piece.source, marker]

/-- A layout with arguments in the places of placeholders. -/
def Layout.filled (layout : Layout) (arguments : List String) : List Char :=
  layout.start ++ layout.rest.flatMap fun (digits, text) => filling arguments digits ++ text

theorem Layout.Of.expand {layout : Layout} {format : String} (of : layout.Of format.toList)
    (arguments : List String) :
    (Placeholder.expand format arguments).toList = layout.filled arguments := by
  have plain (text : List Char) :
      (text.map Piece.plain).flatMap (Piece.expand arguments) = text := by
    rw [List.flatMap_map]
    exact List.flatMap_singleton' text
  rw [Placeholder.expand, String.toList_ofList, of.pieces]
  simp [Layout.pieces, Layout.filled, List.flatMap_assoc, expand_placeholder, plain]

theorem Layout.filled_nil (layout : Layout) : layout.filled [] = layout.source := by
  simp [Layout.filled, Layout.source, filling]

/-- Fewer than three characters are too few for a placeholder. -/
theorem isLiteral_of_short {text : List Char} (short : text.length < 3) : IsLiteral text := by
  intro digits numeral inside
  have fits := inside.length_le
  have digit := List.length_pos_iff.mpr numeral.nonempty
  rw [length_marker] at fits
  omega

/-- A format has one layout. Every placeholder that stands anywhere in the format is in it, with the
layouts of what is before and behind. A message is the layout with arguments in the places of those
placeholders that have one, so arguments are never looked into, and without arguments it is the
format. An opening brace that starts no placeholder hides none behind it. -/
theorem expand_fills_layout :
    (∀ format : String, ∃ layout : Layout,
      (∀ other : Layout, other.Of format.toList ↔ other = layout) ∧
      (∀ before digits after, IsNumeral digits →
        format.toList = before ++ marker digits ++ after →
        ∃ left right : Layout, left.Of before ∧ right.Of after ∧
          layout = left.join digits right) ∧
      (∀ arguments, (expand format arguments).toList = layout.filled arguments) ∧
      expand format [] = format) ∧
    Layout.Of ⟨['\x7b'], [(['0'], [])]⟩ "\x7b\x7b0\x7d".toList ∧
    Layout.Of ⟨['\x7b', '1'], [(['0'], [])]⟩ "\x7b1\x7b0\x7d".toList ∧
    Layout.Of ⟨['\x7b', '\x7d'], []⟩ "\x7b\x7d".toList := by
  have zero : IsNumeral ['0'] := ⟨by simp, by simp⟩
  have inner (start : List Char) (short : start.length < 3) :
      Layout.Of ⟨start, [(['0'], [])]⟩ (start ++ marker ['0']) :=
    ⟨by simp [Layout.source], isLiteral_of_short short,
      List.forall_mem_singleton.mpr ⟨zero, isLiteral_of_short (by decide)⟩⟩
  refine ⟨?_, inner _ (by decide), inner _ (by decide),
    ⟨rfl, isLiteral_of_short (by decide), List.forall_mem_nil _⟩⟩
  intro format
  obtain ⟨layout, of⟩ := Layout.exists_of format.toList
  refine ⟨layout, ?_, ?_, of.expand, ?_⟩
  · intro other
    constructor
    · exact of.unique
    · rintro rfl
      exact of
  · intro before digits after numeral split
    obtain ⟨left, ofLeft⟩ := Layout.exists_of before
    obtain ⟨right, ofRight⟩ := Layout.exists_of after
    have joined := ofLeft.join numeral ofRight
    rw [← split] at joined
    exact ⟨left, right, ofLeft, ofRight, joined.unique of⟩
  · rw [← String.toList_inj, of.expand, Layout.filled_nil, of.source]

/-- A placeholder behind a brace and a digit, with an argument that looks like one. -/
theorem expand_fills_layout_partial :
    (expand "\x7b1\x7b00\x7d" ["\x7b0\x7d"]).toList = "\x7b1\x7b0\x7d".toList ∧
    ∃ left right : Layout, left.Of "\x7b1".toList ∧ right.Of [] ∧
      (left.join ['0', '0'] right).Of "\x7b1\x7b00\x7d".toList := by
  obtain ⟨all, _⟩ := expand_fills_layout
  obtain ⟨layout, only, inside, _⟩ := all "\x7b1\x7b00\x7d"
  obtain ⟨left, right, ofLeft, ofRight, joined⟩ :=
    inside "\x7b1".toList ['0', '0'] [] ⟨by simp, by simp⟩ rfl
  exact ⟨by decide, left, right, ofLeft, ofRight, (only _).mpr joined.symm⟩

end OperationLint.Placeholder
