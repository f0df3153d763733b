import OperationLint.Text.Digits

/-!
# Message placeholders

A message format holds placeholders, a number in braces, for the arguments of the message. The
format is cut into placeholders and plain characters from left to right, and only then are
arguments put in, so an argument is never searched for placeholders itself.
-/

namespace OperationLint.Placeholder

/-- A piece of a format. -/
inductive Piece where
  | plain (c : Char)
  | placeholder (digits : List Char)
  deriving DecidableEq

/-- An opening brace and digits that turned out to be no placeholder. -/
def Piece.open (digits : List Char) : List Piece := ('\x7b' :: digits).map plain

/-- The pieces of a format. Digits behind an opening brace are held back until the character
behind them decides whether they are a placeholder. -/
def pieces (held : Option (List Char)) : List Char → List Piece
  | [] =>
    match held with
    | none => []
    | some digits => Piece.open digits
  | c :: rest =>
    match held with
    | none => if c = '\x7b' then pieces (some []) rest else .plain c :: pieces none rest
    | some digits =>
      if c.isDigit then pieces (some (digits ++ [c])) rest
      else if c = '\x7d' ∧ digits ≠ [] then .placeholder digits :: pieces none rest
      else if c = '\x7b' then Piece.open digits ++ pieces (some []) rest
      else Piece.open digits ++ .plain c :: pieces none rest

/-- The text that a piece was cut from. -/
def Piece.source : Piece → List Char
  | plain c => [c]
  | placeholder digits => '\x7b' :: digits ++ ['\x7d']

/-- The text that a piece becomes. A placeholder without an argument stays as it is. -/
def Piece.expand (arguments : List String) : Piece → List Char
  | plain c => [c]
  | placeholder digits =>
    match arguments[Digits.value digits]? with
    | some argument => argument.toList
    | none => (placeholder digits).source

/-- The message of a format and its arguments. -/
def expand (format : String) (arguments : List String) : String :=
  String.ofList ((pieces none format.toList).flatMap (Piece.expand arguments))

end OperationLint.Placeholder
