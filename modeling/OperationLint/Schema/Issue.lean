import OperationLint.Json.Basic

/-!
# Issues

What a value of the wrong shape is told: where the problem is, as a path from the root of the
value, and what it is.
-/

namespace OperationLint.Schema

open Json

/-- What is wrong with a value. -/
inductive Problem where
  /-- A member that has to be there is not. -/
  | required
  | wrongForm (expected received : Form)
  | emptyString
  | notInteger
  | notPositive
  /-- A string that is none of the options. -/
  | unknownOption (options : List String) (received : String)
  /-- A value that is no string where one of the options belongs. -/
  | noOption (options : List String) (received : Form)
  /-- A value that fits none of several forms. -/
  | noAlternative
  /-- A tag that selects no shape. -/
  | unknownTag (tags : List String)
  | unrecognizedKeys (keys : List String)
  deriving DecidableEq

/-- A problem and the place of the value that has it. -/
structure Issue where
  path : Path
  problem : Problem
  deriving DecidableEq

/-- Options in quotes between bars. -/
def alternatives (options : List String) : String :=
  " | ".intercalate (options.map fun option => "'" ++ option ++ "'")

/-- The wording of a problem. -/
def Problem.message : Problem → String
  | required => "Required"
  | wrongForm expected received => "Expected " ++ expected.name ++ ", received " ++ received.name
  | emptyString => "String must contain at least 1 character(s)"
  | notInteger => "Expected integer, received float"
  | notPositive => "Number must be greater than 0"
  | unknownOption options received =>
    "Invalid enum value. Expected " ++ alternatives options ++ ", received '" ++ received ++ "'"
  | noOption options received =>
    "Expected " ++ alternatives options ++ ", received " ++ received.name
  | noAlternative => "Invalid input"
  | unknownTag tags => "Invalid discriminator value. Expected " ++ alternatives tags
  | unrecognizedKeys keys =>
    "Unrecognized key(s) in object: " ++ ", ".intercalate (keys.map fun key => "'" ++ key ++ "'")

/-- The path and the wording; a path without text is the root. -/
def Issue.message (issue : Issue) : String :=
  let place := Path.text issue.path
  (if place = "" then "<root>" else place) ++ ": " ++ issue.problem.message

/-- All issues on one line. -/
def describe (issues : List Issue) : String := "; ".intercalate (issues.map Issue.message)

/-- The same issue seen from one step further out. -/
def Issue.under (step : Step) (issue : Issue) : Issue := { issue with path := step :: issue.path }

end OperationLint.Schema
