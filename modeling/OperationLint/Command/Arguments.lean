/-!
# Command-line arguments

Arguments are read from left to right. A known option takes its value from the next argument, from
behind an equals sign, or, for a one-letter option, from the rest of the argument; other arguments
are operands. From the first unknown option on, everything but known options is set aside. Two
dashes end the options.
-/

namespace OperationLint.Command

/-- An option: its letter and name, and what its value is called if it takes one. Without choices
any value will do. -/
structure OptionSpec where
  letter : Option Char
  name : String
  valueName : Option String
  choices : List String

namespace OptionSpec

/-- An option as it is documented. -/
def usage (spec : OptionSpec) : String :=
  let letter := match spec.letter with
    | some letter => "-" ++ String.singleton letter ++ ", "
    | none => ""
  let value := match spec.valueName with
    | some name => " <" ++ name ++ ">"
    | none => ""
  letter ++ "--" ++ spec.name ++ value

def takesValue (spec : OptionSpec) : Bool := spec.valueName.isSome

/-- An argument is the option itself. -/
def isWrittenAs (spec : OptionSpec) (argument : List Char) : Bool :=
  argument = '-' :: '-' :: spec.name.toList
    || spec.letter.any fun letter => argument = ['-', letter]

end OptionSpec

/-- Why arguments make no command. -/
inductive UsageError where
  | missingArgument (name : String)
  | unknownOption (argument : String)
  | unknownCommand (name : String)
  | missingValue (option : OptionSpec)
  | invalidValue (option : OptionSpec) (value : String)

def UsageError.message : UsageError → String
  | missingArgument name => "error: missing required argument '" ++ name ++ "'"
  | unknownOption argument => "error: unknown option '" ++ argument ++ "'"
  | unknownCommand name => "error: unknown command '" ++ name ++ "'"
  | missingValue option => "error: option '" ++ option.usage ++ "' argument missing"
  | invalidValue option value =>
    "error: option '" ++ option.usage ++ "' argument '" ++ value ++ "' is invalid. "
      ++ "Allowed choices are " ++ ", ".intercalate option.choices ++ "."

/-- Arguments sorted out: the options with their values in order, the operands, and what was set
aside. -/
structure Scan where
  given : List (String × String)
  operands : List String
  aside : List String

namespace Scan

/-- The value that an option was given last. -/
def value? (scan : Scan) (name : String) : Option String := scan.given.reverse.lookup name

def has (scan : Scan) (name : String) : Bool := (scan.value? name).isSome

/-- Notes an option with a value that it allows. -/
def give (option : OptionSpec) (value : String) (scan : Except UsageError Scan) :
    Except UsageError Scan :=
  if option.choices = [] ∨ option.choices.contains value then
    scan.map fun scan => { scan with given := (option.name, value) :: scan.given }
  else .error (.invalidValue option value)

/-- Notes a flag. -/
def flag (option : OptionSpec) (scan : Except UsageError Scan) : Except UsageError Scan :=
  scan.map fun scan => { scan with given := (option.name, "") :: scan.given }

/-- Notes an argument that is no option of these. -/
def keep (isAside : Bool) (argument : String) (scan : Scan) : Scan :=
  if isAside then { scan with aside := argument :: scan.aside }
  else { scan with operands := argument :: scan.operands }

/-- The option and value of an argument such as `--name=value`. -/
def withEquals? (options : List OptionSpec) (argument : List Char) :
    Option (OptionSpec × String) :=
  match argument with
  | '-' :: '-' :: body =>
    match body.dropWhile (· != '=') with
    | '=' :: value =>
      let name := String.ofList (body.takeWhile (· != '='))
      (options.find? fun option => option.name == name && option.takesValue).map
        (·, String.ofList value)
    | _ => none
  | _ => none

/-- Sorts out arguments; `isAside` says whether an unknown option was met before. -/
def read (options : List OptionSpec) (isAside : Bool) :
    List (List Char) → Except UsageError Scan
  | [] => .ok ⟨[], [], []⟩
  | ['-', '-'] :: rest =>
    let rest := rest.map String.ofList
    .ok (if isAside then ⟨[], [], "--" :: rest⟩ else ⟨[], rest, []⟩)
  | ('-' :: second :: more) :: rest =>
    let argument := '-' :: second :: more
    match options.find? (·.isWrittenAs argument) with
    | some option =>
      if option.takesValue then
        match rest with
        | [] => .error (.missingValue option)
        | value :: rest => give option (String.ofList value) (read options isAside rest)
      else flag option (read options isAside rest)
    | none =>
      match options.find? (fun option => second != '-' && option.letter == some second) with
      | some option =>
        if option.takesValue then give option (String.ofList more) (read options isAside rest)
        else flag option (read options isAside (('-' :: more) :: rest))
      | none =>
        match withEquals? options argument with
        | some (option, value) => give option value (read options isAside rest)
        | none => (read options true rest).map (keep true (String.ofList argument))
  | argument :: rest => (read options isAside rest).map (keep isAside (String.ofList argument))
termination_by arguments => arguments.flatten.length + arguments.length
decreasing_by
  all_goals
    simp only [List.flatten_cons, List.length_append, List.length_cons]
    omega

end Scan

end OperationLint.Command
