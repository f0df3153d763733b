import OperationLint.Json.Basic

/-!
# Writing JSON

`Json.compact` writes a value without blanks. `Json.indented` writes it over several lines, two
blanks to a level; an empty array or object stays on its line. In strings the quote, the backslash
and control characters are escaped and everything else stands for itself. JSON has no infinity: it
is written as `null`.

Each function writes in front of the text that follows.
-/

namespace OperationLint.Json

/-! ### Scalars -/

/-- A character within quotes. -/
def escapeChar (c : Char) : List Char :=
  if c = '"' then ['\\', '"']
  else if c = '\\' then ['\\', '\\']
  else if c = '\x08' then ['\\', 'b']
  else if c = '\x0c' then ['\\', 'f']
  else if c = '\n' then ['\\', 'n']
  else if c = '\r' then ['\\', 'r']
  else if c = '\t' then ['\\', 't']
  else if c.toNat < 32 then
    ['\\', 'u', '0', '0', Digits.hexDigit 'a' (c.toNat / 16), Digits.hexDigit 'a' (c.toNat % 16)]
  else [c]

/-- A string in quotes. -/
def quote (text : String) (rest : List Char) : List Char :=
  '"' :: (text.toList.flatMap escapeChar ++ '"' :: rest)

/-- A number; infinities have no text of their own. -/
def numberChars : Number → List Char
  | .infinite _ => "null".toList
  | finite => finite.chars

/-! ### One line -/

mutual

/-- A value without blanks. -/
def write : Json → List Char → List Char
  | .null, rest => "null".toList ++ rest
  | .bool true, rest => "true".toList ++ rest
  | .bool false, rest => "false".toList ++ rest
  | .number value, rest => numberChars value ++ rest
  | .string value, rest => quote value rest
  | .array elements, rest => '[' :: writeElements elements (']' :: rest)
  | .object members, rest => '\x7b' :: writeMembers members ('\x7d' :: rest)

/-- Elements between commas. -/
def writeElements : List Json → List Char → List Char
  | [], rest => rest
  | [value], rest => write value rest
  | value :: more, rest => write value (',' :: writeElements more rest)

/-- Members between commas. -/
def writeMembers : List (String × Json) → List Char → List Char
  | [], rest => rest
  | [(key, value)], rest => quote key (':' :: write value rest)
  | (key, value) :: more, rest => quote key (':' :: write value (',' :: writeMembers more rest))

end

@[inherit_doc write]
def compact (json : Json) : String := String.ofList (json.write [])

/-! ### Several lines -/

/-- The break before a line at a depth. -/
def newline (depth : Nat) (rest : List Char) : List Char :=
  '\n' :: (List.replicate (2 * depth) ' ' ++ rest)

mutual

/-- A value whose first line starts at a depth. -/
def writeIndented (depth : Nat) : Json → List Char → List Char
  | .null, rest => "null".toList ++ rest
  | .bool true, rest => "true".toList ++ rest
  | .bool false, rest => "false".toList ++ rest
  | .number value, rest => numberChars value ++ rest
  | .string value, rest => quote value rest
  | .array [], rest => '[' :: ']' :: rest
  | .array (value :: more), rest =>
    '[' :: newline (depth + 1) (writeIndented (depth + 1) value
      (writeMoreElements (depth + 1) more (newline depth (']' :: rest))))
  | .object [], rest => '\x7b' :: '\x7d' :: rest
  | .object ((key, value) :: more), rest =>
    '\x7b' :: newline (depth + 1) (quote key (':' :: ' ' :: writeIndented (depth + 1) value
      (writeMoreMembers (depth + 1) more (newline depth ('\x7d' :: rest)))))

/-- The elements behind the first, each on a line. -/
def writeMoreElements (depth : Nat) : List Json → List Char → List Char
  | [], rest => rest
  | value :: more, rest =>
    ',' :: newline depth (writeIndented depth value (writeMoreElements depth more rest))

/-- The members behind the first, each on a line. -/
def writeMoreMembers (depth : Nat) : List (String × Json) → List Char → List Char
  | [], rest => rest
  | (key, value) :: more, rest =>
    ',' :: newline depth (quote key (':' :: ' ' :: writeIndented depth value
      (writeMoreMembers depth more rest)))

end

/-- A value over several lines. -/
def indented (json : Json) : String := String.ofList (json.writeIndented 0 [])

end OperationLint.Json
