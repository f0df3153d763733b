import OperationLint.Json.Reader
import OperationLint.Json.Writer
import OperationLint.Proofs.Pairings

/-!
# Reading JSON texts back

A value that is written over several lines is read back as it was, if its numbers are and its
objects are in key order. Strings may hold any characters.

## Main result

`Json.parse?_indented` says so for whole texts, with blanks behind the value.

## Proof strategy

- `readString_quote`: a string, character by character.
- `ReadsAs`: what the text of a value has to be like so that it can stand within others, and what it
  is read as there; only for numbers that may be another value. The recursion of the reader is
  bounded by the characters that are left, which the written text always keeps ahead of.
- `readsAs_of_legible`: by induction over the values that can be read back, one case for each form
  of value.
-/

namespace OperationLint.Json

/-! ### Strings -/

theorem hexUnit?_control {code : Nat} (control : code < 32) :
    hexUnit? '0' '0' (Digits.hexDigit 'a' (code / 16)) (Digits.hexDigit 'a' (code % 16)) =
      some code := by
  revert code
  decide

/-- One more code in front of those of a string. -/
def addCode (code : Nat) (read : Option (List Nat × List Char)) : Option (List Nat × List Char) :=
  read.map fun (codes, rest) => (code :: codes, rest)

theorem readCodes_plain {c : Char} (notQuote : c ≠ '"') (notEscape : c ≠ '\\')
    (notControl : ¬ c.toNat < 32) (rest : List Char) :
    readCodes (c :: rest) = addCode c.toNat (readCodes rest) := by
  rw [readCodes]
  · simp [notControl, notEscape, addCode]
  · exact fun same => notQuote same
  · exact fun _ _ _ _ _ same => absurd same notEscape
  · exact fun _ _ same => absurd same notEscape

theorem readCodes_short {letter c : Char} (short : shortEscape? letter = some c)
    (rest : List Char) :
    readCodes ('\\' :: letter :: rest) = addCode c.toNat (readCodes rest) := by
  have notUnit : letter ≠ 'u' := by
    rintro rfl
    cases short
  rw [readCodes, short]
  · cases readCodes rest <;> rfl
  · intro _ _ _ _ _ same
    exact absurd same notUnit

theorem readCodes_unit {a b c d : Char} {code : Nat} (unit : hexUnit? a b c d = some code)
    (rest : List Char) :
    readCodes ('\\' :: 'u' :: a :: b :: c :: d :: rest) = addCode code (readCodes rest) := by
  rw [readCodes, unit]
  cases readCodes rest <;> rfl

/-- A character within quotes is read as its code. -/
theorem readCodes_escapeChar (c : Char) (rest : List Char) :
    readCodes (escapeChar c ++ rest) = addCode c.toNat (readCodes rest) := by
  unfold escapeChar
  by_cases quote : c = '"'
  · rw [if_pos quote, quote]
    exact readCodes_short rfl rest
  rw [if_neg quote]
  by_cases backslash : c = '\\'
  · rw [if_pos backslash, backslash]
    exact readCodes_short rfl rest
  rw [if_neg backslash]
  by_cases backspace : c = '\x08'
  · rw [if_pos backspace, backspace]
    exact readCodes_short rfl rest
  rw [if_neg backspace]
  by_cases formFeed : c = '\x0c'
  · rw [if_pos formFeed, formFeed]
    exact readCodes_short rfl rest
  rw [if_neg formFeed]
  by_cases lineFeed : c = '\n'
  · rw [if_pos lineFeed, lineFeed]
    exact readCodes_short rfl rest
  rw [if_neg lineFeed]
  by_cases carriageReturn : c = '\r'
  · rw [if_pos carriageReturn, carriageReturn]
    exact readCodes_short rfl rest
  rw [if_neg carriageReturn]
  by_cases tab : c = '\t'
  · rw [if_pos tab, tab]
    exact readCodes_short rfl rest
  rw [if_neg tab]
  by_cases control : c.toNat < 32
  · rw [if_pos control]
    exact readCodes_unit (hexUnit?_control control) rest
  · rw [if_neg control]
    exact readCodes_plain quote backslash control rest

theorem readCodes_escaped (text rest : List Char) :
    readCodes (text.flatMap escapeChar ++ '"' :: rest) = some (text.map Char.toNat, rest) := by
  induction text with
  | nil => rfl
  | cons c more ih =>
    rw [List.flatMap_cons, List.append_assoc, readCodes_escapeChar, ih]
    rfl

/-- No character is half a surrogate pair. -/
theorem not_surrogate (c : Char) :
    isHighSurrogate c.toNat = false ∧ isLowSurrogate c.toNat = false := by
  -- Characters are the code points outside the range of surrogates.
  have valid := c.valid
  simp only [UInt32.isValidChar, Nat.isValidChar] at valid
  change (c.toNat < _ ∨ _ < c.toNat ∧ c.toNat < _) at valid
  simp only [isHighSurrogate, isLowSurrogate, Bool.and_eq_false_iff, decide_eq_false_iff_not]
  omega

theorem joinSurrogates_toNat (text : List Char) : joinSurrogates (text.map Char.toNat) = text := by
  induction text with
  | nil => rfl
  | cons c more ih =>
    obtain ⟨notHigh, notLow⟩ := not_surrogate c
    cases more with
    | nil => simp [joinSurrogates, notHigh, notLow]
    | cons next rest =>
      simp only [List.map_cons] at ih ⊢
      rw [joinSurrogates, ih]
      simp [notHigh, notLow]

theorem readString_quote (text : String) (rest : List Char) :
    readString (text.toList.flatMap escapeChar ++ '"' :: rest) = some (text, rest) := by
  simp [readString, readCodes_escaped, joinSurrogates_toNat]

/-! ### Blanks -/

theorem skipBlanks_newline (depth : Nat) (text : List Char) :
    skipBlanks (newline depth text) = skipBlanks text := by
  have blanks : ∀ count, skipBlanks (List.replicate count ' ' ++ text) = skipBlanks text := by
    intro count
    induction count with
    | zero => rfl
    | succ count ih =>
      rw [List.replicate_succ, List.cons_append]
      exact ih
  exact blanks (2 * depth)

theorem skipBlanks_cons {c : Char} (mark : isBlank c = false) (rest : List Char) :
    skipBlanks (c :: rest) = c :: rest := by
  simp [skipBlanks, mark]

theorem newline_append (depth : Nat) (text rest : List Char) :
    newline depth (text ++ rest) = newline depth text ++ rest := by
  simp [newline]

theorem length_newline (depth : Nat) (text : List Char) :
    text.length < (newline depth text).length := by
  simp only [newline, List.length_cons, List.length_append]
  omega

theorem quote_append (key : String) (text rest : List Char) :
    quote key (text ++ rest) = quote key text ++ rest := by
  simp [quote]

theorem skipBlanks_quote (key : String) (text : List Char) :
    skipBlanks (quote key text) = quote key text := rfl

theorem length_quote (key : String) (text : List Char) :
    text.length + 1 < (quote key text).length := by
  simp only [quote, List.length_cons, List.length_append]
  omega

/-! ### Key order -/

theorem foldl_setMember {done members : Members}
    (distinct : ((done ++ members).map (·.1)).Nodup) :
    members.foldl (fun done member => setMember done member.1 member.2) done = done ++ members := by
  induction members generalizing done with
  | nil => simp
  | cons member more ih =>
    have fresh : done.any (·.1 == member.1) = false := by
      rw [List.map_append, List.map_cons, List.nodup_append] at distinct
      rw [List.any_eq_false]
      intro earlier listed
      rw [beq_iff_eq]
      exact distinct.2.2 earlier.1 (List.mem_map_of_mem listed) member.1 List.mem_cons_self
    have added : setMember done member.1 member.2 = done ++ [member] := by
      simp [setMember, fresh]
    have regrouped : done ++ member :: more = done ++ [member] ++ more := by simp
    rw [regrouped] at distinct ⊢
    rw [List.foldl_cons, added]
    exact ih distinct

/-- Members with distinct names stay in their order, if no name is an array index. -/
theorem ofMembers_of_names {members : Members} (distinct : (members.map (·.1)).Nodup)
    (names : ∀ member ∈ members, arrayIndex? member.1 = none) :
    ofMembers members = .object members := by
  have unindexed : members.filterMap (fun member => (arrayIndex? member.1).map (·, member)) = [] := by
    rw [List.filterMap_eq_nil_iff]
    intro member listed
    rw [names member listed, Option.map_none]
  have kept : members.filter (fun member => (arrayIndex? member.1).isNone) = members := by
    rw [List.filter_eq_self]
    intro member listed
    rw [names member listed, Option.isNone_none]
  have collected := @foldl_setMember [] members distinct
  rw [ofMembers, collected, List.nil_append, inKeyOrder]
  simp [unindexed, kept]

/-! ### Values -/

/-- What follows a value in a text: nothing, a comma or the end of a line. -/
inductive Closes : List Char → Prop
  | nothing : Closes []
  | comma (rest : List Char) : Closes (',' :: rest)
  | line (rest : List Char) : Closes ('\n' :: rest)

/-- The text of a number is read as a number, wherever the text ends. -/
structure NumberReadsAs (value read : Number) : Prop where
  opens : ∃ first more, numberChars value = first :: more ∧ (first = '-' ∨ first.isDigit = true)
  reads : ∀ rest, Closes rest → readNumber (numberChars value ++ rest) = some (read, rest)

/-- A value with numbers that are read back and with objects in key order. -/
inductive Legible : Json → Prop
  | null : Legible .null
  | bool (value : Bool) : Legible (.bool value)
  | string (value : String) : Legible (.string value)
  | number {value : Number} (readable : NumberReadsAs value value) : Legible (.number value)
  | array {elements : List Json} (each : ∀ element ∈ elements, Legible element) :
      Legible (.array elements)
  | object {members : Members} (ordered : ofMembers members = .object members)
      (each : ∀ member ∈ members, Legible member.2) : Legible (.object members)

/-- A value whose text is read within others as a value. -/
structure ReadsAs (json read : Json) : Prop where
  opens : ∀ depth rest, ∃ first more,
    json.writeIndented depth rest = first :: more ∧ isBlank first = false ∧ first ≠ ']'
  appends : ∀ depth text rest,
    json.writeIndented depth (text ++ rest) = json.writeIndented depth text ++ rest
  reads : ∀ depth rest fuel, Closes rest → 2 * (json.writeIndented depth rest).length < fuel →
    readValue fuel (json.writeIndented depth rest) = some (read, rest)

/-- A member whose value is read as that of another with its key. -/
def MemberReadsAs (member read : String × Json) : Prop :=
  member.1 = read.1 ∧ ReadsAs member.2 read.2

theorem writeIndented_number (depth : Nat) (value : Number) (rest : List Char) :
    (number value).writeIndented depth rest = numberChars value ++ rest := rfl

theorem writeIndented_array (depth : Nat) (value : Json) (more : List Json) (rest : List Char) :
    (array (value :: more)).writeIndented depth rest =
      '[' :: newline (depth + 1) (value.writeIndented (depth + 1)
        (writeMoreElements (depth + 1) more (newline depth (']' :: rest)))) := rfl

theorem writeIndented_object (depth : Nat) (key : String) (value : Json) (more : Members)
    (rest : List Char) :
    (object ((key, value) :: more)).writeIndented depth rest =
      '\x7b' :: newline (depth + 1) (quote key (':' :: ' ' :: value.writeIndented (depth + 1)
        (writeMoreMembers (depth + 1) more (newline depth ('\x7d' :: rest))))) := rfl

namespace ReadsAs

variable {json read : Json}

theorem skipBlanks_eq (back : json.ReadsAs read) (depth : Nat) (rest : List Char) :
    skipBlanks (json.writeIndented depth rest) = json.writeIndented depth rest := by
  obtain ⟨first, more, written, mark, _⟩ := back.opens depth rest
  rw [written, skipBlanks_cons mark]

theorem longer (back : json.ReadsAs read) (depth : Nat) (rest : List Char) :
    rest.length < (json.writeIndented depth rest).length := by
  obtain ⟨first, more, written, _⟩ := back.opens depth []
  have appended := back.appends depth [] rest
  rw [List.nil_append, written] at appended
  rw [appended, List.length_append, List.length_cons]
  omega

end ReadsAs

/-! ### Scalars -/

/-- A value whose text is always the same. -/
theorem readsAs_of_literal {json value : Json} (first : Char) (more : List Char)
    (written : ∀ depth rest, json.writeIndented depth rest = first :: (more ++ rest))
    (mark : isBlank first = false) (opens : first ≠ ']')
    (read : ∀ fuel rest, readValue (fuel + 1) (first :: (more ++ rest)) = some (value, rest)) :
    ReadsAs json value where
  opens depth rest := ⟨first, more ++ rest, written depth rest, mark, opens⟩
  appends depth text rest := by
    rw [written, written, List.cons_append, List.append_assoc]
  reads depth rest fuel _ enough := by
    obtain ⟨fuel, rfl⟩ := Nat.exists_eq_succ_of_ne_zero (Nat.ne_zero_of_lt enough)
    rw [written]
    exact read fuel rest

theorem readsAs_null : ReadsAs .null .null :=
  readsAs_of_literal 'n' ['u', 'l', 'l'] (fun _ _ => rfl) rfl (by decide) fun _ _ => rfl

theorem readsAs_bool (value : Bool) : ReadsAs (.bool value) (.bool value) := by
  cases value with
  | true =>
    exact readsAs_of_literal 't' ['r', 'u', 'e'] (fun _ _ => rfl) rfl (by decide) fun _ _ => rfl
  | false =>
    exact readsAs_of_literal 'f' ['a', 'l', 's', 'e'] (fun _ _ => rfl) rfl (by decide)
      fun _ _ => rfl

theorem readsAs_string (value : String) : ReadsAs (.string value) (.string value) where
  opens _ _ := ⟨_, _, rfl, rfl, by decide⟩
  appends _ _ _ := quote_append value _ _
  reads depth rest fuel _ enough := by
    obtain ⟨fuel, rfl⟩ := Nat.exists_eq_succ_of_ne_zero (Nat.ne_zero_of_lt enough)
    change (readString _).map _ = _
    rw [readString_quote]
    rfl

theorem readsAs_number {value read : Number} (readable : NumberReadsAs value read) :
    ReadsAs (.number value) (.number read) := by
  obtain ⟨first, more, written, start⟩ := readable.opens
  -- A number starts unlike anything else.
  have apart : ∀ c : Char, c ≠ '-' → c.isDigit = false → first ≠ c := by
    rintro c notMinus notDigit rfl
    rcases start with minus | digit
    · exact notMinus minus
    · rw [digit] at notDigit
      cases notDigit
  refine ⟨?_, ?_, ?_⟩
  · intro depth rest
    refine ⟨first, more ++ rest, by simp [writeIndented_number, written], ?_, apart ']' (by decide) rfl⟩
    simp only [isBlank, Bool.or_eq_false_iff, beq_eq_false_iff_ne]
    exact ⟨⟨⟨apart ' ' (by decide) rfl, apart '\t' (by decide) rfl⟩, apart '\n' (by decide) rfl⟩,
      apart '\r' (by decide) rfl⟩
  · intro depth text rest
    simp [writeIndented_number]
  · intro depth rest fuel closes enough
    obtain ⟨fuel, rfl⟩ := Nat.exists_eq_succ_of_ne_zero (Nat.ne_zero_of_lt enough)
    have read := readable.reads rest closes
    rw [writeIndented_number]
    rw [written] at read ⊢
    rw [List.cons_append] at read ⊢
    rw [readValue, read]
    · rfl
    · exact fun _ same => apart 'n' (by decide) rfl (List.cons.inj same).1
    · exact fun _ same => apart 't' (by decide) rfl (List.cons.inj same).1
    · exact fun _ same => apart 'f' (by decide) rfl (List.cons.inj same).1
    · exact fun _ same => apart '"' (by decide) rfl (List.cons.inj same).1
    · exact fun _ same => apart '[' (by decide) rfl (List.cons.inj same).1
    · exact fun _ same => apart '\x7b' (by decide) rfl (List.cons.inj same).1

/-! ### Arrays -/

theorem readValue_array {fuel : Nat} {text : List Char} {first : Char} {more : List Char}
    (skipped : skipBlanks text = first :: more) (opens : first ≠ ']') :
    readValue (fuel + 1) ('[' :: text) =
      (readElements fuel (first :: more)).map fun (elements, rest) => (.array elements, rest) := by
  rw [readValue, skipped]
  split
  next same => exact absurd (List.cons.inj same).1 opens
  next => rfl

theorem closes_newline (depth : Nat) (rest : List Char) : Closes (newline depth rest) :=
  .line _

theorem writeMoreElements_append {depth : Nat} {elements reads : List Json}
    (each : List.Forall₂ ReadsAs elements reads) (text rest : List Char) :
    writeMoreElements depth elements (text ++ rest) =
      writeMoreElements depth elements text ++ rest := by
  induction each with
  | nil => rfl
  | cons here _ ih =>
    simp only [writeMoreElements]
    rw [ih, here.appends, newline_append, List.cons_append]

/-- Elements are read up to the closing bracket. -/
theorem readElements_written {value read : Json} {more reads : List Json}
    (here : value.ReadsAs read) (later : List.Forall₂ ReadsAs more reads) {depth outer : Nat}
    {rest : List Char} {fuel : Nat}
    (enough : 2 * (value.writeIndented depth
      (writeMoreElements depth more (newline outer (']' :: rest)))).length + 1 < fuel) :
    readElements fuel (value.writeIndented depth
      (writeMoreElements depth more (newline outer (']' :: rest)))) =
        some (read :: reads, rest) := by
  -- The induction is over the elements behind the first; the first one and the fuel vary.
  induction later generalizing value read fuel with
  | nil =>
    obtain ⟨fuel, rfl⟩ := Nat.exists_eq_succ_of_ne_zero (Nat.ne_zero_of_lt enough)
    have first := here.reads depth (newline outer (']' :: rest)) fuel (closes_newline _ _)
      (by simp only [writeMoreElements] at enough; omega)
    simp only [writeMoreElements]
    rw [readElements, first]
    simp only [skipBlanks_newline]
    rfl
  | @cons next _ more _ there _ ih =>
    obtain ⟨fuel, rfl⟩ := Nat.exists_eq_succ_of_ne_zero (Nat.ne_zero_of_lt enough)
    simp only [writeMoreElements] at enough ⊢
    -- What is left behind the comma is shorter than the text by the element before it.
    generalize tail_ : writeMoreElements depth more (newline outer (']' :: rest)) = tail at *
    have shorter := here.longer depth (',' :: newline depth (next.writeIndented depth tail))
    have line := length_newline depth (next.writeIndented depth tail)
    rw [List.length_cons] at shorter
    rw [readElements, here.reads depth _ fuel (.comma _) (by omega)]
    simp only [skipBlanks_cons (show isBlank ',' = false from rfl), skipBlanks_newline,
      there.skipBlanks_eq]
    rw [ih there (by omega)]
    rfl

theorem readsAs_array {elements reads : List Json} (each : List.Forall₂ ReadsAs elements reads) :
    ReadsAs (.array elements) (.array reads) := by
  cases each with
  | nil => exact readsAs_of_literal '[' [']'] (fun _ _ => rfl) rfl (by decide) fun _ _ => rfl
  | @cons value _ more _ here later =>
    refine ⟨fun _ _ => ⟨_, _, rfl, rfl, by decide⟩, ?_, ?_⟩
    · intro depth text rest
      simp only [writeIndented_array]
      rw [← List.cons_append, newline_append, writeMoreElements_append later, here.appends,
        newline_append]
      rfl
    · intro depth rest fuel _ enough
      obtain ⟨fuel, rfl⟩ := Nat.exists_eq_succ_of_ne_zero (Nat.ne_zero_of_lt enough)
      simp only [writeIndented_array, List.length_cons] at enough ⊢
      -- The first element comes behind blanks, and its text is shorter than the whole.
      obtain ⟨first, tail, written, mark, opens⟩ := here.opens (depth + 1)
        (writeMoreElements (depth + 1) more (newline depth (']' :: rest)))
      have line := length_newline (depth + 1) (value.writeIndented (depth + 1)
        (writeMoreElements (depth + 1) more (newline depth (']' :: rest))))
      rw [readValue_array (by rw [skipBlanks_newline, written, skipBlanks_cons mark]) opens,
        ← written, readElements_written here later (by omega)]
      rfl

/-! ### Objects -/

theorem readValue_object {fuel : Nat} {text more : List Char} {key : String}
    (skipped : skipBlanks text = quote key more) :
    readValue (fuel + 1) ('\x7b' :: text) =
      (readMembers fuel (quote key more)).map fun (members, rest) => (ofMembers members, rest) := by
  rw [readValue, skipped]
  rfl

theorem writeMoreMembers_append {depth : Nat} {members reads : Members}
    (each : List.Forall₂ MemberReadsAs members reads) (text rest : List Char) :
    writeMoreMembers depth members (text ++ rest) =
      writeMoreMembers depth members text ++ rest := by
  induction each with
  | nil => rfl
  | cons here _ ih =>
    simp only [writeMoreMembers]
    rw [ih, here.2.appends, ← List.cons_append, ← List.cons_append, quote_append,
      newline_append, List.cons_append]

section Member

variable {fuel : Nat} {key : String} {value read : Json} {depth : Nat} {rest after : List Char}

/-- The blank behind the colon. -/
theorem ReadsAs.skipBlanks_space (back : value.ReadsAs read) (depth : Nat) (rest : List Char) :
    skipBlanks (' ' :: value.writeIndented depth rest) = value.writeIndented depth rest :=
  back.skipBlanks_eq depth rest

theorem readMembers_last (back : value.ReadsAs read) (closes : Closes rest)
    (enough : 2 * (value.writeIndented depth rest).length < fuel)
    (behind : skipBlanks rest = '\x7d' :: after) :
    readMembers (fuel + 1) (quote key (':' :: ' ' :: value.writeIndented depth rest)) =
      some ([(key, read)], after) := by
  rw [quote, readMembers, readString_quote]
  simp only [skipBlanks_cons (show isBlank ':' = false from rfl), back.skipBlanks_space,
    back.reads depth rest fuel closes enough, behind]

theorem readMembers_more (back : value.ReadsAs read) (closes : Closes rest)
    (enough : 2 * (value.writeIndented depth rest).length < fuel)
    (behind : skipBlanks rest = ',' :: after) {members : Members} {last : List Char}
    (later : readMembers fuel (skipBlanks after) = some (members, last)) :
    readMembers (fuel + 1) (quote key (':' :: ' ' :: value.writeIndented depth rest)) =
      some ((key, read) :: members, last) := by
  rw [quote, readMembers, readString_quote]
  simp only [skipBlanks_cons (show isBlank ':' = false from rfl), back.skipBlanks_space,
    back.reads depth rest fuel closes enough, behind, later, Option.map_some]

end Member

/-- Members are read up to the closing brace. -/
theorem readMembers_written {key : String} {value read : Json} {more reads : Members}
    (here : value.ReadsAs read) (later : List.Forall₂ MemberReadsAs more reads)
    {depth outer : Nat} {rest : List Char} {fuel : Nat}
    (enough : 2 * (quote key (':' :: ' ' :: value.writeIndented depth
      (writeMoreMembers depth more (newline outer ('\x7d' :: rest))))).length + 1 < fuel) :
    readMembers fuel (quote key (':' :: ' ' :: value.writeIndented depth
      (writeMoreMembers depth more (newline outer ('\x7d' :: rest))))) =
        some ((key, read) :: reads, rest) := by
  induction later generalizing key value read fuel with
  | nil =>
    obtain ⟨fuel, rfl⟩ := Nat.exists_eq_succ_of_ne_zero (Nat.ne_zero_of_lt enough)
    have quoted := length_quote key (':' :: ' ' :: value.writeIndented depth
      (newline outer ('\x7d' :: rest)))
    simp only [writeMoreMembers, List.length_cons] at enough quoted ⊢
    exact readMembers_last here (closes_newline _ _) (by omega) (skipBlanks_newline outer _)
  | @cons next nextRead more _ there _ ih =>
    obtain ⟨fuel, rfl⟩ := Nat.exists_eq_succ_of_ne_zero (Nat.ne_zero_of_lt enough)
    obtain ⟨nextKey, nextValue⟩ := next
    obtain ⟨readKey, nextRead⟩ := nextRead
    obtain ⟨rfl, there⟩ : nextKey = readKey ∧ nextValue.ReadsAs nextRead := there
    simp only [writeMoreMembers] at enough ⊢
    -- What is left behind the comma is shorter than the text by the member before it.
    generalize tail_ : writeMoreMembers depth more (newline outer ('\x7d' :: rest)) = tail at *
    generalize left_ : quote nextKey (':' :: ' ' :: nextValue.writeIndented depth tail) = left at *
    have quoted := length_quote key (':' :: ' ' :: value.writeIndented depth
      (',' :: newline depth left))
    have shorter := here.longer depth (',' :: newline depth left)
    have line := length_newline depth left
    simp only [List.length_cons] at quoted shorter
    apply readMembers_more here (.comma _) (by omega) (skipBlanks_cons rfl _)
    rw [skipBlanks_newline, ← left_, skipBlanks_quote]
    exact ih there (by rw [left_]; omega)

theorem readsAs_object {members reads : Members} (ordered : ofMembers reads = .object reads)
    (each : List.Forall₂ MemberReadsAs members reads) :
    ReadsAs (.object members) (.object reads) := by
  cases each with
  | nil =>
    exact readsAs_of_literal '\x7b' ['\x7d'] (fun _ _ => rfl) rfl (by decide) fun _ _ => rfl
  | @cons member read more _ here later =>
    obtain ⟨key, value⟩ := member
    obtain ⟨readKey, read⟩ := read
    obtain ⟨rfl, here⟩ : key = readKey ∧ value.ReadsAs read := here
    refine ⟨fun _ _ => ⟨_, _, rfl, rfl, by decide⟩, ?_, ?_⟩
    · intro depth text rest
      simp only [writeIndented_object]
      rw [← List.cons_append, newline_append, writeMoreMembers_append later, here.appends,
        ← List.cons_append, ← List.cons_append, quote_append, newline_append]
      rfl
    · intro depth rest fuel _ enough
      obtain ⟨fuel, rfl⟩ := Nat.exists_eq_succ_of_ne_zero (Nat.ne_zero_of_lt enough)
      simp only [writeIndented_object, List.length_cons] at enough ⊢
      have line := length_newline (depth + 1) (quote key (':' :: ' ' ::
        value.writeIndented (depth + 1)
          (writeMoreMembers (depth + 1) more (newline depth ('\x7d' :: rest)))))
      rw [readValue_object (by rw [skipBlanks_newline, skipBlanks_quote]),
        readMembers_written here later (by omega), ← ordered]
      rfl

/-! ### Whole texts -/

theorem readsAs_of_legible {json : Json} (legible : json.Legible) : json.ReadsAs json := by
  induction legible with
  | null => exact readsAs_null
  | bool value => exact readsAs_bool value
  | string value => exact readsAs_string value
  | number readable => exact readsAs_number readable
  | array _ each => exact readsAs_array (List.forall₂_same.mpr each)
  | object ordered _ each =>
    refine readsAs_object ordered (List.forall₂_same.mpr ?_)
    intro member listed
    exact ⟨rfl, each member listed⟩

/-- A written value is read, with the end of its last line or without. -/
theorem ReadsAs.parse? {json read : Json} (back : json.ReadsAs read) {ending : String}
    (ends : ending = "" ∨ ending = "\n") : Json.parse? (json.indented ++ ending) = some read := by
  have closes : Closes ending.toList ∧ skipBlanks ending.toList = [] := by
    rcases ends with rfl | rfl
    · exact ⟨.nothing, rfl⟩
    · exact ⟨.line [], rfl⟩
  have text : (json.indented ++ ending).toList = json.writeIndented 0 ending.toList := by
    have appended := back.appends 0 [] ending.toList
    rw [List.nil_append] at appended
    simp [indented, appended]
  rw [Json.parse?, ofChars?, text, back.skipBlanks_eq,
    back.reads 0 ending.toList _ closes.1 (Nat.lt_succ_self _)]
  simp [closes.2]

/-- A legible value is read back. -/
theorem parse?_indented {json : Json} (legible : json.Legible) {ending : String}
    (ends : ending = "" ∨ ending = "\n") : parse? (json.indented ++ ending) = some json :=
  (readsAs_of_legible legible).parse? ends

end OperationLint.Json
