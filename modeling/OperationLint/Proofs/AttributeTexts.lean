import OperationLint.Text.Markup
import Mathlib.Data.List.Basic

/-!
# Texts of attributes

What stands between the quotes of an attribute, and the text that it means.

## Main results

- `decode?_escape`: an escaped text means the text that was escaped.
- `Means.isAttributeText`: only a text with no bracket, no quote and no stray ampersand in it means
  anything.
- `decode?_eq_self_iff`: a text means itself exactly when it holds none of these three characters.

## Proof strategy

- `escapeChars_cons`: the five replacements act on each character on its own. Ampersands are
  replaced before there is any entity, and no entity holds another of the five characters.
- `means_of_decode?`: decoding follows a relation with one case for a plain character and one for an
  entity. What a raw text that means something looks like is shown by induction over the relation.
-/

namespace OperationLint.Markup

/-! ### Escaping character by character -/

/-- The entity of a character that has one, else the character. -/
def escapeChar (c : Char) : List Char := (entities.lookup c).getD [c]

theorem escapeChar_cases (c : Char) :
    (c, escapeChar c) ∈ entities ∨ (∀ entry ∈ entities, c ≠ entry.1) ∧ escapeChar c = [c] := by
  cases found : entities.lookup c with
  | some entity =>
    left
    obtain ⟨before, after, split, _⟩ := List.lookup_eq_some_iff.mp found
    have written : escapeChar c = entity := by rw [escapeChar, found, Option.getD_some]
    rw [written, split]
    simp
  | none =>
    right
    refine ⟨?_, by rw [escapeChar, found, Option.getD_none]⟩
    intro entry listed same
    have differs := List.lookup_eq_none_iff.mp found entry listed
    simp [same] at differs

theorem escapeChars_singleton (c : Char) : escapeChars [c] = escapeChar c := by
  have entity : ∀ entry ∈ entities, escapeChars [entry.1] = entry.2 := by decide
  rcases escapeChar_cases c with listed | ⟨plain, itself⟩
  · exact entity (c, escapeChar c) listed
  · rw [itself, escapeChars]
    -- A character without an entity passes one replacement after the other.
    generalize entities = replaced at plain
    induction replaced with
    | nil => rfl
    | cons entry more ih =>
      obtain ⟨here, later⟩ := List.forall_mem_cons.mp plain
      have kept : replace entry.1 entry.2 [c] = [c] := by simp [replace, here]
      rw [List.foldl_cons]
      dsimp only
      rw [kept, ih later]

theorem escapeChars_append (text more : List Char) :
    escapeChars (text ++ more) = escapeChars text ++ escapeChars more := by
  unfold escapeChars
  -- Each replacement works character by character, whichever they are.
  generalize entities = replaced
  induction replaced generalizing text more with
  | nil => rfl
  | cons entry others ih =>
    simp only [List.foldl_cons, replace, List.flatMap_append]
    exact ih _ _

theorem escapeChars_cons (c : Char) (text : List Char) :
    escapeChars (c :: text) = escapeChar c ++ escapeChars text := by
  rw [← escapeChars_singleton, ← escapeChars_append, List.singleton_append]

/-! ### Decoding -/

/-- A character with no place in an attribute as itself. -/
def isMark (c : Char) : Bool := c == '<' || c == '"' || c == '&'

/-- The character of the entity that a text starts with, and what follows it. -/
def entity? : List Char → Option (Char × List Char)
  | '&' :: 'a' :: 'm' :: 'p' :: ';' :: rest => some ('&', rest)
  | '&' :: 'l' :: 't' :: ';' :: rest => some ('<', rest)
  | '&' :: 'g' :: 't' :: ';' :: rest => some ('>', rest)
  | '&' :: 'q' :: 'u' :: 'o' :: 't' :: ';' :: rest => some ('"', rest)
  | '&' :: '#' :: '3' :: '9' :: ';' :: rest => some ('\x27', rest)
  | _ => none

theorem entity?_append {entry : Char × List Char} (listed : entry ∈ entities) (rest : List Char) :
    entity? (entry.2 ++ rest) = some (entry.1, rest) := by
  simp only [entities, List.mem_cons, List.not_mem_nil, or_false] at listed
  rcases listed with rfl | rfl | rfl | rfl | rfl <;> rfl

theorem exists_of_entity? {text rest : List Char} {c : Char}
    (found : entity? text = some (c, rest)) :
    ∃ entry ∈ entities, entry.1 = c ∧ text = entry.2 ++ rest := by
  unfold entity? at found
  split at found
  · cases found; exact ⟨('&', "&amp;".toList), by decide, rfl, rfl⟩
  · cases found; exact ⟨('<', "&lt;".toList), by decide, rfl, rfl⟩
  · cases found; exact ⟨('>', "&gt;".toList), by decide, rfl, rfl⟩
  · cases found; exact ⟨('"', "&quot;".toList), by decide, rfl, rfl⟩
  · cases found; exact ⟨('\x27', "&#39;".toList), by decide, rfl, rfl⟩
  · cases found

/-- An entity starts with an ampersand, is plain behind it, and is longer than its character. -/
theorem entity_shape {entry : Char × List Char} (listed : entry ∈ entities) :
    entry.2.head? = some '&' ∧ (∀ c ∈ entry.2.tail, isMark c = false) ∧ 1 < entry.2.length := by
  have all : ∀ entry ∈ entities, entry.2.head? = some '&' ∧
      entry.2.tail.any isMark = false ∧ 1 < entry.2.length := by decide
  obtain ⟨starts, plain, long⟩ := all entry listed
  exact ⟨starts, by simpa using plain, long⟩

theorem length_of_entity? {text rest : List Char} {c : Char}
    (found : entity? text = some (c, rest)) : rest.length < text.length := by
  obtain ⟨entry, listed, _, split⟩ := exists_of_entity? found
  have long := (entity_shape listed).2.2
  rw [split, List.length_append]
  omega

/-- An entity starts with an ampersand. -/
theorem entity?_eq_none {c : Char} (other : c ≠ '&') (behind : List Char) :
    entity? (c :: behind) = none := by
  rw [Option.eq_none_iff_forall_ne_some]
  rintro ⟨meant, rest⟩ found
  obtain ⟨entry, listed, _, split⟩ := exists_of_entity? found
  obtain ⟨body, written⟩ := List.head?_eq_some_iff.mp (entity_shape listed).1
  rw [written] at split
  exact other (List.cons.inj split).1

/-- The text that the raw text of an attribute means. -/
def decode? (raw : List Char) : Option (List Char) :=
  match raw with
  | [] => some []
  | c :: behind =>
    match _ : entity? (c :: behind) with
    | some (meant, rest) => (decode? rest).map (meant :: ·)
    -- What starts no entity stands for itself, unless it is a mark.
    | none => if isMark c then none else (decode? behind).map (c :: ·)
termination_by raw.length
decreasing_by
  · exact length_of_entity? ‹_›
  · exact Nat.lt_succ_self _

@[simp] theorem decode?_nil : decode? [] = some [] := by rw [decode?]

theorem decode?_plain {c : Char} (plain : isMark c = false) (behind : List Char) :
    decode? (c :: behind) = (decode? behind).map (c :: ·) := by
  have other : c ≠ '&' := by
    rintro rfl
    cases plain
  rw [decode?]
  split
  next found => rw [entity?_eq_none other] at found; cases found
  next => rw [plain]; rfl

theorem decode?_entity {entry : Char × List Char} (listed : entry ∈ entities) (rest : List Char) :
    decode? (entry.2 ++ rest) = (decode? rest).map (entry.1 :: ·) := by
  have found := entity?_append listed rest
  obtain ⟨body, written⟩ := List.head?_eq_some_iff.mp (entity_shape listed).1
  rw [written, List.cons_append] at found ⊢
  rw [decode?]
  split
  next meant after other =>
    rw [found] at other
    cases other
    rfl
  next other => rw [found] at other; cases other

theorem decode?_escapeChar (c : Char) (rest : List Char) :
    decode? (escapeChar c ++ rest) = (decode? rest).map (c :: ·) := by
  rcases escapeChar_cases c with listed | ⟨other, itself⟩
  · exact decode?_entity listed rest
  · have plain : isMark c = false := by
      simp only [entities, List.forall_mem_cons] at other
      simp [isMark, other]
    rw [itself, List.singleton_append, decode?_plain plain]

/-- Escaping is undone. -/
theorem decode?_escapeChars (text : List Char) : decode? (escapeChars text) = some text := by
  induction text with
  | nil => exact decode?_nil
  | cons c more ih => rw [escapeChars_cons, decode?_escapeChar, ih, Option.map_some]

theorem decode?_escape (text : String) : decode? (escape text).toList = some text.toList := by
  rw [escape, String.toList_ofList, decode?_escapeChars]

/-! ### Raw texts that mean something -/

/-- A raw text means a text, character by character. -/
inductive Means : List Char → List Char → Prop
  | nil : Means [] []
  | plain {c : Char} {raw text : List Char} (plain : isMark c = false) (behind : Means raw text) :
      Means (c :: raw) (c :: text)
  | entity {entry : Char × List Char} {raw text : List Char} (listed : entry ∈ entities)
      (behind : Means raw text) : Means (entry.2 ++ raw) (entry.1 :: text)

theorem means_of_decode? {raw text : List Char} (decoded : decode? raw = some text) :
    Means raw text := by
  -- The cases are those of the decoder: the end, an entity, a mark, a plain character.
  fun_induction decode? raw generalizing text with
  | case1 =>
    cases decoded
    exact .nil
  | case2 c behind meant rest found ih =>
    obtain ⟨tail, after, rfl⟩ := Option.map_eq_some_iff.mp decoded
    obtain ⟨entry, listed, rfl, split⟩ := exists_of_entity? found
    rw [split]
    exact .entity listed (ih after)
  | case3 => cases decoded
  | case4 c behind _ plain ih =>
    obtain ⟨tail, after, rfl⟩ := Option.map_eq_some_iff.mp decoded
    exact .plain (by simpa using plain) (ih after)

/-- A raw text fit for an attribute: no bracket, no quote, and only ampersands that start an
entity. -/
structure IsAttributeText (raw : List Char) : Prop where
  noBracket : '<' ∉ raw
  noQuote : '"' ∉ raw
  onlyEntities : ∀ rest, '&' :: rest <:+ raw → ∃ entry ∈ entities, entry.2 <+: '&' :: rest

theorem IsAttributeText.cons {c : Char} {raw : List Char} (plain : isMark c = false)
    (fit : IsAttributeText raw) : IsAttributeText (c :: raw) := by
  simp only [isMark, Bool.or_eq_false_iff, beq_eq_false_iff_ne] at plain
  obtain ⟨⟨notBracket, notQuote⟩, notAmpersand⟩ := plain
  refine ⟨?_, ?_, ?_⟩
  · simp [fit.noBracket, notBracket.symm]
  · simp [fit.noQuote, notQuote.symm]
  · intro rest suffix
    -- No ampersand stands in front, so all of them are further back.
    rcases List.suffix_cons_iff.mp suffix with whole | later
    · exact absurd (List.cons.inj whole).1.symm notAmpersand
    · exact fit.onlyEntities rest later

theorem IsAttributeText.entity {entry : Char × List Char} (listed : entry ∈ entities)
    {raw : List Char} (fit : IsAttributeText raw) : IsAttributeText (entry.2 ++ raw) := by
  obtain ⟨starts, plain, _⟩ := entity_shape listed
  obtain ⟨body, written⟩ := List.head?_eq_some_iff.mp starts
  rw [written, List.tail_cons] at plain
  -- Behind its ampersand an entity is plain, so the rest of it can be put in front one by one.
  have behind : IsAttributeText (body ++ raw) := by
    clear written
    induction body with
    | nil => exact fit
    | cons c more ih =>
      obtain ⟨here, later⟩ := List.forall_mem_cons.mp plain
      exact (ih later).cons here
  rw [written, List.cons_append]
  refine ⟨?_, ?_, ?_⟩
  · simpa using behind.noBracket
  · simpa using behind.noQuote
  · intro rest suffix
    rcases List.suffix_cons_iff.mp suffix with whole | later
    · -- The ampersand at the front starts the entity itself.
      rw [whole, ← List.cons_append, ← written]
      exact ⟨entry, listed, List.prefix_append _ _⟩
    · exact behind.onlyEntities rest later

theorem Means.isAttributeText {raw text : List Char} (means : Means raw text) :
    IsAttributeText raw := by
  induction means with
  | nil => exact ⟨by simp, by simp, by simp⟩
  | plain plain _ ih => exact ih.cons plain
  | entity listed _ ih => exact ih.entity listed

/-- A raw text is at least as long as what it means, and as long only if it means itself. -/
theorem Means.length {raw text : List Char} (means : Means raw text) :
    text.length ≤ raw.length ∧
      (raw.length ≤ text.length → ∀ c ∈ raw, isMark c = false) := by
  induction means with
  | nil => simp
  | plain plain _ ih =>
    obtain ⟨shorter, whole⟩ := ih
    simp only [List.length_cons, List.forall_mem_cons]
    refine ⟨by omega, fun equal => ⟨plain, whole (by omega)⟩⟩
  | @entity entry raw text listed _ ih =>
    -- An entity is longer than the character that it stands for.
    have long := (entity_shape listed).2.2
    simp only [List.length_cons, List.length_append]
    exact ⟨by omega, fun equal => by omega⟩

theorem decode?_of_plain {text : List Char} (plain : ∀ c ∈ text, isMark c = false) :
    decode? text = some text := by
  induction text with
  | nil => exact decode?_nil
  | cons c more ih =>
    obtain ⟨here, later⟩ := List.forall_mem_cons.mp plain
    rw [decode?_plain here, ih later, Option.map_some]

theorem decode?_eq_self_iff {text : List Char} :
    decode? text = some text ↔ ∀ c ∈ text, isMark c = false := by
  constructor
  · intro decoded
    exact (means_of_decode? decoded).length.2 (Nat.le_refl _)
  · exact decode?_of_plain

end OperationLint.Markup
