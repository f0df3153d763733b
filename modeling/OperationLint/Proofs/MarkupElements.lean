import OperationLint.Proofs.AttributeTexts
import OperationLint.Proofs.Pairings

/-!
# Elements of a markup document

Elements as they are written, one tag on a line, and a scanner that takes a text apart into its
tags again. The text of an attribute ends at the first quote, whatever its writer meant.

## Main results

- `scan_write`: a written element is scanned as its own tags, if no attribute holds a quote.
- `scan_extends`: a tag that is being scanned ends up with the attributes that were found so far.

## Proof strategy

The scanner takes one character at a time. `scan_collects` covers the modes that collect
characters (names and values); `step_tag` says what one step within a tag can do, and
`scan_extends` follows by induction over the text.
-/

namespace OperationLint.Markup

/-! ### Tags, tokens and elements -/

/-- The name and the attributes of an element, with their raw texts. -/
structure Tag where
  name : String
  attributes : List (String × String)

/-- The raw text of an attribute. -/
def Tag.attribute? (tag : Tag) (name : String) : Option String := tag.attributes.lookup name

/-- What stands between angle brackets. -/
inductive Token where
  | opening (tag : Tag)
  | single (tag : Tag)
  | closing (name : String)

namespace Token

/-- The tag of an element that starts here. -/
def tag? : Token → Option Tag
  | opening tag => some tag
  | single tag => some tag
  | closing _ => none

/-- The raw texts of all attributes. -/
def values (token : Token) : List String :=
  (token.tag?.map fun tag => tag.attributes.map Prod.snd).getD []

end Token

/-- An element: a single tag, or a pair of tags around other elements. -/
inductive Element where
  | single (tag : Tag)
  | nested (tag : Tag) (children : List Element)

namespace Element

def tag : Element → Tag
  | single tag => tag
  | nested tag _ => tag

def children : Element → List Element
  | single _ => []
  | nested _ children => children

mutual

/-- The tags of an element in order. -/
def tokens : Element → List Token
  | single tag => [.single tag]
  | nested tag children => .opening tag :: (tokensOfAll children ++ [.closing tag.name])

/-- The tags of elements one after the other. -/
def tokensOfAll : List Element → List Token
  | [] => []
  | element :: more => element.tokens ++ tokensOfAll more

end

/-- How many elements within this one, itself included, have a name. -/
def countNamed (element : Element) (name : String) : Nat :=
  (element.tokens.filterMap Token.tag?).countP (·.name = name)

end Element

/-! ### Writing -/

/-- Blanks before a line at a depth. -/
def indent (depth : Nat) (rest : List Char) : List Char :=
  List.replicate (2 * depth) ' ' ++ rest

/-- Attributes, each behind a blank. -/
def writeAttributes : List (String × String) → List Char → List Char
  | [], rest => rest
  | (name, value) :: more, rest =>
    ' ' :: (name.toList ++ '=' :: '"' :: (value.toList ++ '"' :: writeAttributes more rest))

/-- The start of a tag. -/
def Tag.write (tag : Tag) (rest : List Char) : List Char :=
  '<' :: (tag.name.toList ++ writeAttributes tag.attributes rest)

namespace Element

mutual

/-- An element from the line of its tag on, in front of the text that follows. -/
def write (depth : Nat) : Element → List Char → List Char
  | single tag, rest => indent depth (tag.write ('/' :: '>' :: '\n' :: rest))
  | nested tag children, rest =>
    indent depth (tag.write ('>' :: '\n' :: writeAll (depth + 1) children
      (indent depth ('<' :: '/' :: (tag.name.toList ++ '>' :: '\n' :: rest)))))

/-- Elements one after the other. -/
def writeAll (depth : Nat) : List Element → List Char → List Char
  | [], rest => rest
  | element :: more, rest => element.write depth (writeAll depth more rest)

end

end Element

/-! ### Scanning -/

/-- Where a scanner stands, with what it has collected. -/
inductive Mode where
  | between
  | declaration
  | declared
  | opened
  | naming (name : List Char)
  | closing (name : List Char)
  | inside (tag : Tag)
  | attributeName (tag : Tag) (name : List Char)
  | assigned (tag : Tag) (name : List Char)
  | value (tag : Tag) (name raw : List Char)
  | ended (tag : Tag)

/-- One more attribute of a tag. -/
def Tag.add (tag : Tag) (name raw : List Char) : Tag :=
  { tag with attributes := tag.attributes ++ [(String.ofList name, String.ofList raw)] }

/-- A character behind the name of a tag or behind an attribute. -/
def stepInside (tag : Tag) (c : Char) : Option (Mode × Option Token) :=
  if c = ' ' then some (.attributeName tag [], none)
  else if c = '/' then some (.ended tag, none)
  else if c = '>' then some (.between, some (.opening tag))
  else none

/-- What a character does: the next mode, and the tag that it completes. -/
def step : Mode → Char → Option (Mode × Option Token)
  | .between, c =>
    if c = '<' then some (.opened, none)
    else if c = ' ' ∨ c = '\n' then some (.between, none)
    else none
  | .declaration, c => some (if c = '?' then .declared else .declaration, none)
  | .declared, c => if c = '>' then some (.between, none) else none
  | .opened, c =>
    if c = '?' then some (.declaration, none)
    else if c = '/' then some (.closing [], none)
    else if c.isAlpha then some (.naming [c], none)
    else none
  | .naming name, c =>
    if c.isAlpha then some (.naming (name ++ [c]), none) else stepInside ⟨String.ofList name, []⟩ c
  | .closing name, c =>
    if c.isAlpha then some (.closing (name ++ [c]), none)
    else if c = '>' then some (.between, some (.closing (String.ofList name)))
    else none
  | .inside tag, c => stepInside tag c
  | .attributeName tag name, c =>
    if c.isAlpha then some (.attributeName tag (name ++ [c]), none)
    else if c = '=' then some (.assigned tag name, none)
    else none
  | .assigned tag name, c => if c = '"' then some (.value tag name [], none) else none
  | .value tag name raw, c =>
    if c = '"' then some (.inside (tag.add name raw), none)
    else some (.value tag name (raw ++ [c]), none)
  | .ended tag, c => if c = '>' then some (.between, some (.single tag)) else none

/-- The tags of a text. It ends between tags. -/
def scan : Mode → List Char → Option (List Token)
  | .between, [] => some []
  | _, [] => none
  | mode, c :: rest =>
    match step mode c with
    | none => none
    | some (next, none) => scan next rest
    | some (next, some token) => (scan next rest).map (token :: ·)

theorem scan_of_step {mode next : Mode} {c : Char} (moved : step mode c = some (next, none))
    (rest : List Char) : scan mode (c :: rest) = scan next rest := by
  cases mode <;> simp only [scan, moved]

theorem scan_of_token {mode next : Mode} {c : Char} {token : Token}
    (moved : step mode c = some (next, some token)) (rest : List Char) :
    scan mode (c :: rest) = (scan next rest).map (token :: ·) := by
  cases mode <;> simp only [scan, moved]

theorem scan_of_none {mode : Mode} {c : Char} (stuck : step mode c = none) (rest : List Char) :
    scan mode (c :: rest) = none := by
  cases mode <;> simp only [scan, stuck]

/-- A mode that collects the characters of a kind. -/
theorem scan_collects {mode : List Char → Mode} {kind : Char → Prop}
    (collects : ∀ done c, kind c → step (mode done) c = some (mode (done ++ [c]), none))
    {text : List Char} (all : ∀ c ∈ text, kind c) (done rest : List Char) :
    scan (mode done) (text ++ rest) = scan (mode (done ++ text)) rest := by
  -- The induction is over what is left to collect; what is collected grows meanwhile.
  induction text generalizing done with
  | nil => rw [List.nil_append, List.append_nil]
  | cons c more ih =>
    obtain ⟨here, later⟩ := List.forall_mem_cons.mp all
    rw [List.cons_append, scan_of_step (collects done c here), ih later, List.append_assoc,
      List.singleton_append]

/-! ### Written elements -/

/-- A name that can be told from what follows it. -/
def IsName (name : String) : Prop :=
  name.toList.isEmpty = false ∧ name.toList.all Char.isAlpha = true

instance (name : String) : Decidable (IsName name) := inferInstanceAs (Decidable (_ ∧ _))

theorem IsName.letters {name : String} (isName : IsName name) :
    ∀ c ∈ name.toList, c.isAlpha = true := List.all_eq_true.mp isName.2

/-- A tag whose names are names and whose attributes end where they should. -/
structure Tag.Legible (tag : Tag) : Prop where
  name : IsName tag.name
  attributes : ∀ pair ∈ tag.attributes, IsName pair.1 ∧ '"' ∉ pair.2.toList

theorem scan_indent (depth : Nat) (rest : List Char) :
    scan .between (indent depth rest) = scan .between rest := by
  have blanks : ∀ count, scan .between (List.replicate count ' ' ++ rest) = scan .between rest := by
    intro count
    induction count with
    | zero => rfl
    | succ count ih =>
      rw [List.replicate_succ, List.cons_append, scan_of_step rfl, ih]
  exact blanks (2 * depth)

theorem scan_value {raw : List Char} (unquoted : '"' ∉ raw) (tag : Tag) (name rest : List Char) :
    scan (.value tag name []) (raw ++ '"' :: rest) = scan (.inside (tag.add name raw)) rest := by
  have collects : ∀ done c, c ≠ '"' →
      step (.value tag name done) c = some (.value tag name (done ++ [c]), none) := by
    intro done c notQuote
    simp [step, notQuote]
  have all : ∀ c ∈ raw, c ≠ '"' := by
    rintro c listed rfl
    exact unquoted listed
  have quoted : step (.value tag name raw) '"' = some (.inside (tag.add name raw), none) := rfl
  rw [scan_collects collects all, List.nil_append, scan_of_step quoted]

theorem scan_attribute {name : String} (isName : IsName name) (tag : Tag) (rest : List Char) :
    scan (.inside tag) (' ' :: (name.toList ++ '=' :: '"' :: rest)) =
      scan (.value tag name.toList []) rest := by
  have collects : ∀ done c, c.isAlpha = true →
      step (.attributeName tag done) c = some (.attributeName tag (done ++ [c]), none) := by
    intro done c letter
    simp [step, letter]
  rw [scan_of_step (show step (.inside tag) ' ' = some (.attributeName tag [], none) from rfl),
    scan_collects collects isName.letters, List.nil_append, scan_of_step rfl, scan_of_step rfl]

theorem scan_attributes {attributes : List (String × String)}
    (legible : ∀ pair ∈ attributes, IsName pair.1 ∧ '"' ∉ pair.2.toList)
    (name : String) (done : List (String × String)) (rest : List Char) :
    scan (.inside ⟨name, done⟩) (writeAttributes attributes rest) =
      scan (.inside ⟨name, done ++ attributes⟩) rest := by
  induction attributes generalizing done with
  | nil => rw [writeAttributes, List.append_nil]
  | cons pair more ih =>
    obtain ⟨⟨isName, unquoted⟩, later⟩ := List.forall_mem_cons.mp legible
    rw [writeAttributes, scan_attribute isName, scan_value unquoted, Tag.add, ih later,
      List.append_assoc, List.singleton_append, String.ofList_toList, String.ofList_toList]

/-- A name ends at the first character that is no letter. -/
theorem scan_name {name : String} (isName : IsName name) {c : Char} (ends : c.isAlpha = false)
    (rest : List Char) :
    scan .between ('<' :: (name.toList ++ c :: rest)) = scan (.inside ⟨name, []⟩) (c :: rest) := by
  have collects : ∀ done c, c.isAlpha = true →
      step (.naming done) c = some (.naming (done ++ [c]), none) := by
    intro done c letter
    simp [step, letter]
  have letters := isName.letters
  obtain ⟨first, more, named⟩ := List.exists_cons_of_ne_nil (List.isEmpty_eq_false_iff.mp isName.1)
  rw [named] at letters
  obtain ⟨letter, later⟩ := List.forall_mem_cons.mp letters
  -- The first letter tells an opening tag from the other kinds.
  have opens : step .opened first = some (.naming [first], none) := by
    have notQuestion : first ≠ '?' := by
      rintro rfl
      cases letter
    have notSlash : first ≠ '/' := by
      rintro rfl
      cases letter
    simp [step, notQuestion, notSlash, letter]
  -- The character behind the name is treated as if it came behind an attribute.
  have leaves : scan (.naming name.toList) (c :: rest) = scan (.inside ⟨name, []⟩) (c :: rest) := by
    have same : step (.naming name.toList) c = step (.inside ⟨name, []⟩) c := by
      simp [step, ends]
    simp only [scan, same]
  rw [scan_of_step rfl, named, List.cons_append, scan_of_step opens,
    scan_collects collects later, List.singleton_append, ← named, leaves]

/-- What may follow the start of a tag. -/
def EndsTag (text : List Char) : Prop := ∃ rest, text = '>' :: rest ∨ text = '/' :: rest

theorem scan_tag {tag : Tag} (legible : tag.Legible) {rest : List Char} (ends : EndsTag rest) :
    scan .between (tag.write rest) = scan (.inside tag) rest := by
  -- Behind the name comes a blank or the end of the tag.
  have named : scan .between (tag.write rest) =
      scan (.inside ⟨tag.name, []⟩) (writeAttributes tag.attributes rest) := by
    rw [Tag.write]
    cases tag.attributes with
    | nil => obtain ⟨tail, rfl | rfl⟩ := ends <;> exact scan_name legible.name rfl _
    | cons pair others => exact scan_name legible.name rfl _
  rw [named, scan_attributes legible.attributes, List.nil_append]

/-- An element all of whose tags are legible. -/
inductive Element.Legible : Element → Prop
  | single {tag : Tag} (legible : tag.Legible) : Legible (.single tag)
  | nested {tag : Tag} {children : List Element} (legible : tag.Legible)
      (each : ∀ child ∈ children, Legible child) : Legible (.nested tag children)

/-- A text in front of others that is scanned as these tags. -/
def ScansAs (write : List Char → List Char) (tokens : List Token) : Prop :=
  ∀ rest, scan .between (write rest) = (scan .between rest).map (tokens ++ ·)

theorem scansAs_writeAll {elements : List Element} {depth : Nat}
    (each : ∀ element ∈ elements, ScansAs (element.write depth) element.tokens) :
    ScansAs (Element.writeAll depth elements) (Element.tokensOfAll elements) := by
  intro rest
  induction elements with
  | nil =>
    rw [Element.writeAll]
    cases scan .between rest <;> rfl
  | cons element more ih =>
    obtain ⟨here, later⟩ := List.forall_mem_cons.mp each
    rw [Element.writeAll, here, ih later, Option.map_map]
    simp only [Element.tokensOfAll, Function.comp_def, List.append_assoc]

theorem scan_closing {name : String} (isName : IsName name) (rest : List Char) :
    scan .between ('<' :: '/' :: (name.toList ++ '>' :: '\n' :: rest)) =
      (scan .between rest).map (.closing name :: ·) := by
  have collects : ∀ done c, c.isAlpha = true →
      step (.closing done) c = some (.closing (done ++ [c]), none) := by
    intro done c letter
    simp [step, letter]
  rw [scan_of_step rfl, scan_of_step rfl, scan_collects collects isName.letters, List.nil_append,
    scan_of_token rfl, scan_of_step rfl, String.ofList_toList]

/-- A written element is scanned as its tags. -/
theorem scan_write {element : Element} (legible : element.Legible) (depth : Nat) :
    ScansAs (element.write depth) element.tokens := by
  induction legible generalizing depth with
  | @single tag legible =>
    -- The slash leaves the tag, the bracket completes it, and the line ends.
    intro rest
    rw [Element.write, scan_indent, scan_tag legible ⟨_, .inr rfl⟩, scan_of_step rfl,
      scan_of_token rfl, scan_of_step rfl]
    rfl
  | @nested tag children legible _ ih =>
    -- The children are written one level deeper, between the opening and the closing tag.
    intro rest
    have within := scansAs_writeAll fun child listed => ih child listed (depth + 1)
    rw [Element.write, scan_indent, scan_tag legible ⟨_, .inl rfl⟩, scan_of_token rfl,
      scan_of_step rfl, within, scan_indent, scan_closing legible.name]
    simp only [Option.map_map, Function.comp_def, Element.tokens, List.cons_append,
      List.append_assoc, List.nil_append]

/-! ### Tags in progress -/

/-- The tag that a scanner is in, once its name is known. -/
def Mode.tag? : Mode → Option Tag
  | .inside tag => some tag
  | .attributeName tag _ => some tag
  | .assigned tag _ => some tag
  | .value tag _ _ => some tag
  | .ended tag => some tag
  | _ => none

/-- The same tag with possibly more attributes. -/
def Tag.Extends (tag fuller : Tag) : Prop :=
  tag.name = fuller.name ∧ tag.attributes <+: fuller.attributes

/-- A step within a tag stays in it or completes it. -/
theorem step_tag {mode next : Mode} {c : Char} {token? : Option Token} {tag : Tag}
    (within : mode.tag? = some tag) (moved : step mode c = some (next, token?)) :
    (token? = none ∧ ∃ fuller, next.tag? = some fuller ∧ tag.Extends fuller) ∨
      ∃ token, token? = some token ∧ token.tag? = some tag := by
  have inside : ∀ {tag next token?}, stepInside tag c = some (next, token?) →
      (token? = none ∧ next.tag? = some tag) ∨
        ∃ token, token? = some token ∧ token.tag? = some tag := by
    intro tag next token? moved
    unfold stepInside at moved
    split at moved
    · cases moved; exact .inl ⟨rfl, rfl⟩
    split at moved
    · cases moved; exact .inl ⟨rfl, rfl⟩
    split at moved
    · cases moved; exact .inr ⟨_, rfl, rfl⟩
    · cases moved
  have kept : tag.Extends tag := ⟨rfl, List.prefix_rfl⟩
  -- Of the modes within a tag only that of a value changes it.
  cases mode with
  | inside current =>
    cases within
    rcases inside moved with ⟨silent, still⟩ | completed
    · exact .inl ⟨silent, tag, still, kept⟩
    · exact .inr completed
  | attributeName current name =>
    cases within
    simp only [step] at moved
    split at moved
    · cases moved; exact .inl ⟨rfl, tag, rfl, kept⟩
    split at moved
    · cases moved; exact .inl ⟨rfl, tag, rfl, kept⟩
    · cases moved
  | assigned current name =>
    cases within
    simp only [step] at moved
    split at moved
    · cases moved; exact .inl ⟨rfl, tag, rfl, kept⟩
    · cases moved
  | value current name raw =>
    cases within
    simp only [step] at moved
    split at moved
    · -- The quote puts the attribute behind those that the tag has.
      cases moved
      exact .inl ⟨rfl, tag.add name raw, rfl, rfl, List.prefix_append _ _⟩
    · cases moved; exact .inl ⟨rfl, tag, rfl, kept⟩
  | ended current =>
    cases within
    simp only [step] at moved
    split at moved
    · cases moved; exact .inr ⟨_, rfl, rfl⟩
    · cases moved
  | _ => cases within

/-- The first tag that comes of a scan within a tag extends it. -/
theorem scan_extends {mode : Mode} {tag : Tag} {text : List Char} {tokens : List Token}
    (within : mode.tag? = some tag) (scanned : scan mode text = some tokens) :
    ∃ token rest fuller, tokens = token :: rest ∧ token.tag? = some fuller ∧ tag.Extends fuller := by
  induction text generalizing mode tag with
  | nil =>
    -- A text does not end within a tag.
    cases mode <;> simp [Mode.tag?, scan] at within scanned
  | cons c more ih =>
    cases moved : step mode c with
    | none =>
      rw [scan_of_none moved] at scanned
      cases scanned
    | some outcome =>
      obtain ⟨next, token?⟩ := outcome
      rcases step_tag within moved with ⟨rfl, fuller, still, grown⟩ | ⟨token, rfl, complete⟩
      · rw [scan_of_step moved] at scanned
        obtain ⟨token, rest, final, split, tagged, further⟩ := ih still scanned
        exact ⟨token, rest, final, split, tagged, grown.1.trans further.1, grown.2.trans further.2⟩
      · rw [scan_of_token moved] at scanned
        obtain ⟨rest, _, split⟩ := Option.map_eq_some_iff.mp scanned
        exact ⟨token, rest, tag, split.symm, complete, rfl, List.prefix_rfl⟩

/-! ### Meaning -/

/-- A tag with raw attributes means one with decoded ones. -/
structure Tag.Means (raw meant : Tag) : Prop where
  name : raw.name = meant.name
  attributes : List.Forall₂
    (fun pair text => pair.1 = text.1 ∧ decode? pair.2.toList = some text.2.toList)
    raw.attributes meant.attributes

/-- Tags mean tags of the same kind. -/
inductive Token.Means : Token → Token → Prop
  | opening {raw meant : Tag} (means : raw.Means meant) : Means (.opening raw) (.opening meant)
  | single {raw meant : Tag} (means : raw.Means meant) : Means (.single raw) (.single meant)
  | closing (name : String) : Means (.closing name) (.closing name)

theorem Tag.Means.isAttributeText {raw meant : Tag} (means : raw.Means meant) :
    ∀ pair ∈ raw.attributes, IsAttributeText pair.2.toList := by
  intro pair listed
  obtain ⟨_, _, _, decoded⟩ := exists_mem_of_forall₂ means.attributes pair listed
  exact (means_of_decode? decoded).isAttributeText

theorem Token.Means.isAttributeText {raw meant : Token} (means : raw.Means meant) :
    ∀ value ∈ raw.values, IsAttributeText value.toList := by
  have texts : ∀ {raw meant : Tag}, raw.Means meant →
      ∀ value ∈ raw.attributes.map Prod.snd, IsAttributeText value.toList := by
    intro raw meant means value listed
    obtain ⟨pair, inside, rfl⟩ := List.mem_map.mp listed
    exact means.isAttributeText pair inside
  cases means with
  | opening means => exact texts means
  | single means => exact texts means
  | closing name => simp [Token.values, Token.tag?]

/-- A tag with proper names that means something can be told from what follows it. -/
theorem Tag.Means.legible {raw meant : Tag} (means : raw.Means meant) (name : IsName raw.name)
    (names : ∀ pair ∈ raw.attributes, IsName pair.1) : raw.Legible where
  name := name
  attributes pair listed := ⟨names pair listed, (means.isAttributeText pair listed).noQuote⟩

end OperationLint.Markup
