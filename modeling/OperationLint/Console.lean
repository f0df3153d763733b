/-!
# Console output

What a program says, in order: each entry goes to a stream and has one or more parts.
-/

namespace OperationLint

inductive Stream where
  | log
  | info
  | warn
  | error
  deriving DecidableEq

def Stream.name : Stream → String
  | log => "log"
  | info => "info"
  | warn => "warn"
  | error => "error"

/-- Results and notes go to standard output, warnings and errors to standard error. -/
def Stream.isStandardOutput : Stream → Bool
  | log => true
  | info => true
  | warn => false
  | error => false

structure Entry where
  stream : Stream
  parts : List String
  deriving DecidableEq

abbrev Transcript := List Entry

/-- An entry as a line, its parts between blanks. -/
def Entry.line (entry : Entry) : String := " ".intercalate entry.parts ++ "\n"

/-- The text on standard output. -/
def Transcript.output (transcript : Transcript) : String :=
  String.join ((transcript.filter (·.stream.isStandardOutput)).map Entry.line)

/-- The text on standard error. -/
def Transcript.errors (transcript : Transcript) : String :=
  String.join ((transcript.filter (!·.stream.isStandardOutput)).map Entry.line)

end OperationLint
