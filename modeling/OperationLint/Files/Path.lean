/-!
# File paths

A path is its steps between slashes. An empty step and a single point stay where they are, two
points lead up.
-/

namespace OperationLint.Files

/-- The steps of a path, empty ones included. -/
def splitSteps : List Char → List (List Char)
  | [] => [[]]
  | c :: rest =>
    if c = '/' then [] :: splitSteps rest
    else
      match splitSteps rest with
      | [] => [[c]]
      | step :: more => (c :: step) :: more

/-- The steps of a path as texts. -/
def steps (path : String) : List String := (splitSteps path.toList).map String.ofList

/-- A path from the root. -/
def isAbsolute (path : String) : Bool := path.toList.head? = some '/'

/-- A path that asks for a directory by a slash at its end. -/
def endsInSlash (path : String) : Bool := path.toList.getLast? = some '/'

/-- The bytes that a step may have. -/
def maxStepSize : Nat := 255

/-- The bytes that a path may have. -/
def maxPathSize : Nat := 4095

/-- Takes a step without looking at files. Going up from nowhere is kept for a path that may start
anywhere. -/
def takeStep (absolute : Bool) (walked : List String) (step : String) : List String :=
  if step = "" ∨ step = "." then walked
  else if step = ".." then
    match walked.getLast? with
    | none => if absolute then [] else [".."]
    | some ".." => walked ++ [".."]
    | some _ => walked.dropLast
  else walked ++ [step]

/-- Steps without detours. -/
def normalize (absolute : Bool) (steps : List String) : List String :=
  steps.foldl (takeStep absolute) []

/-- The path of a file in a directory, without detours. -/
def join (directory file : String) : String :=
  let absolute := isAbsolute directory
  let walked := "/".intercalate (normalize absolute (steps directory ++ [file]))
  if absolute then "/" ++ walked else walked

end OperationLint.Files
