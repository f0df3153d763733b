import OperationLint.Schema.Validation

/-!
# Source locations
-/

namespace OperationLint

/-- A range of a source file. In a snapshot lines and columns count from one. -/
structure Location where
  path : String
  startLine : Number
  startColumn : Number
  endLine : Number
  endColumn : Number
  deriving DecidableEq, Inhabited

namespace Location

/-- The start of a location for people to read. -/
def text (location : Location) : String :=
  location.path ++ ":" ++ location.startLine.text ++ ":" ++ location.startColumn.text

/-- A line or a column of a snapshot. -/
def position (json : Json) : Schema.Validation Number :=
  Number.integer <$> Schema.positiveInteger json

open Schema in
/-- The location of an object with these members. -/
def ofMembers (members : Json.Members) : Validation Location :=
  Location.mk
    <$> required "path" nonEmptyString members
    <*> required "startLine" position members
    <*> required "startColumn" position members
    <*> required "endLine" position members
    <*> required "endColumn" position members

/-- The location that a value describes. -/
def read : Json → Schema.Validation Location := Schema.object ofMembers

end Location

end OperationLint
