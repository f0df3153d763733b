import OperationLint.Text.Digits

/-!
# Text literals

A text as a message shows it: in quotes, with what cannot be seen written out.
-/

namespace OperationLint.Literal

/-- The quote for a text: a single one, or, if the text has that, a double one or a backtick if it
has not that. A backtick is no quote for a text with a dollar before a brace. -/
def quoteFor (text : List Char) : Char :=
  if !text.contains '\x27' then '\x27'
  else if !text.contains '"' then '"'
  else if !text.contains '\x60' && !(text.zip (text.drop 1)).contains ('$', '\x7b') then '\x60'
  else '\x27'

/-- A character with no form of its own. -/
def isControl (c : Char) : Bool := c.toNat < 0x20 || (0x7f ≤ c.toNat && c.toNat < 0xa0)

/-- A character within quotes. -/
def escapeChar (quote c : Char) : List Char :=
  if c = quote || c = '\\' then ['\\', c]
  else if c.toNat = 8 then ['\\', 'b']
  else if c = '\t' then ['\\', 't']
  else if c = '\n' then ['\\', 'n']
  else if c.toNat = 12 then ['\\', 'f']
  else if c = '\r' then ['\\', 'r']
  else if isControl c then
    ['\\', 'x', Digits.hexDigit 'A' (c.toNat / 16), Digits.hexDigit 'A' (c.toNat % 16)]
  else [c]

/-- A line in quotes. -/
def quoted (text : List Char) : List Char :=
  let quote := quoteFor text
  quote :: text.flatMap (escapeChar quote) ++ [quote]

/-- The lines of a text, each with its line break. -/
def lines : List Char → List (List Char)
  | [] => []
  | c :: rest =>
    if c = '\n' then [c] :: lines rest
    else
      match lines rest with
      | [] => [[c]]
      | line :: more => (c :: line) :: more

/-- How many 16-bit units a character takes. -/
def units (c : Char) : Nat := if c.toNat < 0x10000 then 1 else 2

/-- The first characters, as many as fit in a number of 16-bit units. -/
def takeUnits : Nat → List Char → List Char
  | _, [] => []
  | limit, c :: rest =>
    if limit < units c then [] else c :: takeUnits (limit - units c) rest

/-- A text in quotes, line by line if it is longer than 76 units. -/
def layout (text : List Char) : List Char :=
  if takeUnits 76 text = text then quoted text
  else [' ', '+', '\n', ' ', ' '].intercalate ((lines text).map quoted)

/-- A text as a message shows it; what is beyond 128 units is left out and three points stand for
it. -/
def shown (text : String) : String :=
  let whole := layout text.toList
  let start := takeUnits 128 whole
  String.ofList (if start = whole then whole else start ++ "...".toList)

end OperationLint.Literal
