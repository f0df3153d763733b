import OperationLint.Schema.Issue

/-!
# Validation

Reading a value of an expected shape gives either the value in its own type or every issue found,
depth first in the order in which the shape names its parts. Two readings side by side fail with
the issues of both.
-/

namespace OperationLint.Schema

open Json

/-- A value that was read, or why not. -/
inductive Validation (α : Type) where
  | valid (value : α)
  | invalid (issues : List Issue)

namespace Validation

/-- Applies a function to what was read. -/
def map {α β : Type} (f : α → β) : Validation α → Validation β
  | valid value => valid (f value)
  | invalid issues => invalid issues

/-- Reads two parts; the issues of the first come first. -/
def both {α β : Type} : Validation (α → β) → Validation α → Validation β
  | valid f, valid value => valid (f value)
  | valid _, invalid issues => invalid issues
  | invalid issues, valid _ => invalid issues
  | invalid first, invalid second => invalid (first ++ second)

instance : Applicative Validation where
  pure := valid
  map := map
  seq f value := both f (value ())

/-- The issues of a reading. -/
def issues {α : Type} : Validation α → List Issue
  | valid _ => []
  | invalid issues => issues

/-- A reading as part of a larger value. -/
def under {α : Type} (step : Step) : Validation α → Validation α
  | valid value => valid value
  | invalid issues => invalid (issues.map (Issue.under step))

/-- A reading that fails at the value itself. -/
def fail {α : Type} (problem : Problem) : Validation α := invalid [⟨[], problem⟩]

end Validation

open Validation

/-! ### Scalars -/

/-- A string. -/
def string : Json → Validation String
  | .string text => valid text
  | other => fail (.wrongForm .string other.form)

/-- A string with at least one character. -/
def nonEmptyString : Json → Validation String
  | .string text => if text = "" then fail .emptyString else valid text
  | other => fail (.wrongForm .string other.form)

/-- A truth value. -/
def boolean : Json → Validation Bool
  | .bool value => valid value
  | other => fail (.wrongForm .boolean other.form)

/-- A positive integer. -/
def positiveInteger : Json → Validation Int
  | .number value =>
    match value.toInt?, value.isPositive with
    | some n, true => valid n
    | some _, false => fail .notPositive
    | none, true => fail .notInteger
    | none, false => invalid [⟨[], .notInteger⟩, ⟨[], .notPositive⟩]
  | other => fail (.wrongForm .number other.form)

/-- One of some options, written by name. -/
def oneOf {α : Type} (options : List α) (name : α → String) : Json → Validation α
  | .string text =>
    match options.find? (fun option => name option == text) with
    | some option => valid option
    | none => fail (.unknownOption (options.map name) text)
  | other => fail (.noOption (options.map name) other.form)

/-- A value or null. -/
def nullable {α : Type} (read : Json → Validation α) : Json → Validation (Option α)
  | .null => valid none
  | other => some <$> read other

/-! ### Arrays -/

/-- Readings of the elements from a position on. -/
def elements {α : Type} (read : Json → Validation α) : Nat → List Json → Validation (List α)
  | _, [] => valid []
  | position, element :: rest =>
    List.cons <$> (read element).under (.index position) <*> elements read (position + 1) rest

/-- An array. -/
def array {α : Type} (read : Json → Validation α) : Json → Validation (List α)
  | .array values => elements read 0 values
  | other => fail (.wrongForm .array other.form)

/-! ### Objects -/

/-- An object, read by its members. -/
def object {α : Type} (read : Members → Validation α) : Json → Validation α
  | .object members => read members
  | other => fail (.wrongForm .object other.form)

/-- A member that has to be there. -/
def required {α : Type} (name : String) (read : Json → Validation α) (members : Members) :
    Validation α :=
  match members.lookup name with
  | some value => (read value).under (.key name)
  | none => (fail .required).under (.key name)

/-- A member that may be missing. -/
def optional {α : Type} (name : String) (read : Json → Validation α) (members : Members) :
    Validation (Option α) :=
  match members.lookup name with
  | some value => some <$> (read value).under (.key name)
  | none => valid none

/-- A member with a value for when it is missing. -/
def withDefault {α : Type} (name : String) (default : α) (read : Json → Validation α)
    (members : Members) : Validation α :=
  match members.lookup name with
  | some value => (read value).under (.key name)
  | none => valid default

/-- A reading of members that allows no keys but the named ones. -/
def closed {α : Type} (names : List String) (read : Members → Validation α) (members : Members) :
    Validation α :=
  let unrecognized := (members.map (·.1)).filter fun key => !names.contains key
  let result := read members
  if unrecognized = [] then result
  else (fun value () => value) <$> result <*> fail (.unrecognizedKeys unrecognized)

end OperationLint.Schema
