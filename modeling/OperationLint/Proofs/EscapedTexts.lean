import OperationLint.Proofs.AttributeTexts

/-!
# Escaped texts

Five characters are replaced one after the other, each all over the text, so that a later
replacement meets the entities of the earlier ones. It does no harm: the outcome is that of writing
each character of the text on its own, and a single pass from left to right takes it back.

## Main result

`escape_reversible`: what an escaped text consists of, and that escaping is undone, tells texts
apart and goes through them part by part.

## Proof strategy

- `escapeChars_eq_flatMap`: the replacements are one pass over the characters.
- `decode_written`: what a character is written as is decoded to that character, whatever follows,
  because no entity is the start of another one.
-/

namespace OperationLint.Markup

/-! ### Writing characters -/

/-- The characters that are not written as themselves. -/
def specials : List Char := ['&', '<', '>', '"', '\x27']

/-- A character within a text: an entity for the five special ones, else the character. -/
def written : Char → List Char
  | '&' => ['&', 'a', 'm', 'p', ';']
  | '<' => ['&', 'l', 't', ';']
  | '>' => ['&', 'g', 't', ';']
  | '"' => ['&', 'q', 'u', 'o', 't', ';']
  | '\x27' => ['&', '#', '3', '9', ';']
  | c => [c]

theorem written_of_listed {entry : Char × List Char} (listed : entry ∈ entities) :
    entry.1 ∈ specials ∧ written entry.1 = entry.2 := by
  simp only [entities, List.mem_cons, List.not_mem_nil, or_false] at listed
  rcases listed with rfl | rfl | rfl | rfl | rfl <;> exact ⟨by decide, rfl⟩

theorem written_plain {c : Char} (plain : c ∉ specials) : written c = [c] := by
  simp only [specials, List.mem_cons, List.not_mem_nil, or_false, not_or] at plain
  obtain ⟨ampersand, less, greater, quote, apostrophe⟩ := plain
  rw [written] <;> assumption

theorem escapeChar_eq_written (c : Char) : escapeChar c = written c := by
  rcases escapeChar_cases c with listed | ⟨unlisted, itself⟩
  · exact (written_of_listed listed).2.symm
  · have plain : c ∉ specials := by
      simp only [entities, List.forall_mem_cons] at unlisted
      simp [specials, unlisted]
    rw [itself, written_plain plain]

/-- The replacements are one pass: each character is written on its own. -/
theorem escapeChars_eq_flatMap (text : List Char) : escapeChars text = text.flatMap written := by
  induction text with
  | nil => rfl
  | cons c more ih => rw [escapeChars_cons, escapeChar_eq_written, ih, List.flatMap_cons]

/-- Of the special characters only the ampersand is left. -/
theorem eq_ampersand_of_mem_written {c x : Char} (held : x ∈ written c) (special : x ∈ specials) :
    x = '&' := by
  have entity : ∀ entry ∈ entities, entry.2.all (fun x => !specials.contains x || x == '&') := by
    decide
  rcases escapeChar_cases c with listed | ⟨unlisted, itself⟩
  · rw [← escapeChar_eq_written] at held
    have plain := List.all_eq_true.mp (entity _ listed) x held
    simpa [special] using plain
  · rw [← escapeChar_eq_written, itself, List.mem_singleton] at held
    subst held
    simp only [entities, List.forall_mem_cons] at unlisted
    simp [specials, unlisted] at special

theorem eq_ampersand_of_mem_escapeChars {text : List Char} {x : Char}
    (held : x ∈ escapeChars text) (special : x ∈ specials) : x = '&' := by
  rw [escapeChars_eq_flatMap, List.mem_flatMap] at held
  obtain ⟨c, _, inside⟩ := held
  exact eq_ampersand_of_mem_written inside special

/-! ### Reading them back -/

/-- Reads a text from left to right, with an entity as the character that it stands for and
anything else as it is. -/
def decode (text : List Char) : List Char :=
  match text with
  | [] => []
  | c :: behind =>
    match _ : entity? (c :: behind) with
    | some (meant, rest) => meant :: decode rest
    | none => c :: decode behind
termination_by text.length
decreasing_by
  · exact length_of_entity? ‹_›
  · exact Nat.lt_succ_self _

theorem decode_entity {entry : Char × List Char} (listed : entry ∈ entities) (rest : List Char) :
    decode (entry.2 ++ rest) = entry.1 :: decode rest := by
  have found := entity?_append listed rest
  obtain ⟨body, written⟩ := List.head?_eq_some_iff.mp (entity_shape listed).1
  rw [written, List.cons_append] at found ⊢
  rw [decode]
  split
  next other =>
    rw [found] at other
    cases other
    rfl
  next other => rw [found] at other; cases other

theorem decode_plain {c : Char} (plain : c ≠ '&') (rest : List Char) :
    decode (c :: rest) = c :: decode rest := by
  rw [decode]
  split
  next found => rw [entity?_eq_none plain] at found; cases found
  next => rfl

theorem decode_written (c : Char) (rest : List Char) :
    decode (written c ++ rest) = c :: decode rest := by
  rw [← escapeChar_eq_written]
  rcases escapeChar_cases c with listed | ⟨unlisted, itself⟩
  · exact decode_entity listed rest
  · have plain : c ≠ '&' := unlisted ('&', "&amp;".toList) List.mem_cons_self
    rw [itself, List.singleton_append, decode_plain plain]

theorem decode_escapeChars (text : List Char) : decode (escapeChars text) = text := by
  rw [escapeChars_eq_flatMap]
  induction text with
  | nil => rw [List.flatMap_nil, decode]
  | cons c more ih => rw [List.flatMap_cons, decode_written, ih]

/-! ### Whole texts -/

@[simp] theorem toList_escape (text : String) : (escape text).toList = escapeChars text.toList :=
  String.toList_ofList

theorem ofList_decode_escape (text : String) :
    String.ofList (decode (escape text).toList) = text := by
  rw [toList_escape, decode_escapeChars, String.ofList_toList]

/-- Escaping writes each character on its own. What it gives has none of the special characters but
ampersands, which start entities. Decoding from left to right gives the text back, so no two texts
are escaped alike. The parts of a text are escaped one by one. -/
theorem escape_reversible (text more : String) :
    (escape text).toList = text.toList.flatMap written ∧
    ('<' ∉ (escape text).toList ∧ '>' ∉ (escape text).toList ∧ '"' ∉ (escape text).toList ∧
      '\x27' ∉ (escape text).toList) ∧
    (∀ rest, '&' :: rest <:+ (escape text).toList →
      ∃ special ∈ specials, written special <+: '&' :: rest) ∧
    String.ofList (decode (escape text).toList) = text ∧
    Function.Injective escape ∧
    escape (text ++ more) = escape text ++ escape more := by
  have absent {c : Char} (special : c ∈ specials) (other : c ≠ '&') :
      c ∉ (escape text).toList := by
    rw [toList_escape]
    exact fun held => other (eq_ampersand_of_mem_escapeChars held special)
  refine ⟨?_, ?_, ?_, ofList_decode_escape text, ?_, ?_⟩
  · rw [toList_escape, escapeChars_eq_flatMap]
  · exact ⟨absent (by decide) (by decide), absent (by decide) (by decide),
      absent (by decide) (by decide), absent (by decide) (by decide)⟩
  · intro rest suffix
    rw [toList_escape] at suffix
    have fit := (means_of_decode? (decode?_escapeChars text.toList)).isAttributeText
    obtain ⟨entry, listed, starts⟩ := fit.onlyEntities rest suffix
    obtain ⟨special, same⟩ := written_of_listed listed
    exact ⟨entry.1, special, same ▸ starts⟩
  · intro one other same
    rw [← ofList_decode_escape one, same, ofList_decode_escape]
  · rw [← String.toList_inj]
    simp [escapeChars_append]

/-- A text that holds an entity already: its ampersand is escaped like any other. -/
theorem escape_reversible_entity :
    (escape "<&lt;").toList = "&lt;&amp;lt;".toList ∧
    (∃ special ∈ specials, written special <+: "&amp;lt;".toList) ∧
    String.ofList (decode "&lt;&amp;lt;".toList) = "<&lt;" := by
  obtain ⟨onePass, _, entities, decoded, _⟩ := escape_reversible "<&lt;" ""
  have escaped : (escape "<&lt;").toList = "&lt;&amp;lt;".toList := onePass
  rw [escaped] at entities decoded
  exact ⟨escaped, entities "amp;lt;".toList ⟨"&lt;".toList, rfl⟩, decoded⟩

end OperationLint.Markup
