/-!
# Terminal styles

A style turns terminal attributes on before a text and off after it. It is off around line
breaks, and on again after any code within the text that turns it off. Without colour a
style changes nothing.
-/

namespace OperationLint

/-- The codes that turn an attribute on and off. -/
structure Switch where
  on : Nat
  off : Nat

/-- Attributes, outermost first. -/
abbrev Style := List Switch

namespace Style

def bold : Style := [⟨1, 22⟩]
def red : Style := [⟨31, 39⟩]
def green : Style := [⟨32, 39⟩]
def yellow : Style := [⟨33, 39⟩]
def blue : Style := [⟨34, 39⟩]
def cyan : Style := [⟨36, 39⟩]
def gray : Style := [⟨90, 39⟩]

end Style

/-- The control sequence of a code. -/
def controlSequence (code : Nat) : List Char := '\x1b' :: '[' :: (Nat.toDigits 10 code ++ ['m'])

def Switch.opening (switch : Switch) : List Char := controlSequence switch.on

def Switch.closing (switch : Switch) : List Char := controlSequence switch.off

/-- Turns an attribute on again wherever the text turns it off. What is left to copy of a control
sequence counts down before that. -/
def Switch.reopen (switch : Switch) : Nat → List Char → List Char
  | _, [] => []
  | 1, c :: rest => c :: switch.opening ++ switch.reopen 0 rest
  | left + 2, c :: rest => c :: switch.reopen (left + 1) rest
  | 0, c :: rest =>
    if switch.closing.isPrefixOf (c :: rest) then
      c :: switch.reopen (switch.closing.length - 1) rest
    else c :: switch.reopen 0 rest

namespace Style

/-- Turns all attributes on. -/
def opening (style : Style) : List Char := style.flatMap Switch.opening

/-- Turns all attributes off, innermost first. -/
def closing (style : Style) : List Char := style.reverse.flatMap Switch.closing

/-- Turns a style off before each line break and on behind it; a carriage return belongs to the
break that follows it. -/
def acrossBreaks (style : Style) : List Char → List Char
  | [] => []
  | '\r' :: '\n' :: rest =>
    style.closing ++ '\r' :: '\n' :: style.opening ++ acrossBreaks style rest
  | '\n' :: rest => style.closing ++ '\n' :: style.opening ++ acrossBreaks style rest
  | c :: rest => c :: acrossBreaks style rest

/-- A text in a style. An empty text has no style. -/
def apply (style : Style) (text : List Char) : List Char :=
  if text = [] then []
  else
    let reopened := style.reverse.foldl (fun done switch => switch.reopen 0 done) text
    style.opening ++ style.acrossBreaks reopened ++ style.closing

/-- A text in a style where colour is on. -/
def paint (colored : Bool) (style : Style) (text : String) : String :=
  if colored then String.ofList (style.apply text.toList) else text

end Style

end OperationLint
