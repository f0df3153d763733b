import OperationLint.Operation.Basic

/-!
# Snapshots

A compilation as its host wrote it down: entries that refer to each other by name.
-/

namespace OperationLint

/-- A declared type; its base type and interfaces are names. -/
structure TypeEntry where
  metadataName : String
  kind : TypeKind
  specialType : SpecialType
  baseType : Option String
  interfaces : List String
  locations : List Location
  deriving DecidableEq

abbrev MethodEntry := Method String

abbrev FieldEntry := Field String

abbrev BlockEntry := CodeBlock String String String

structure Snapshot where
  assemblyName : String
  types : List TypeEntry
  methods : List MethodEntry
  fields : List FieldEntry
  blocks : List BlockEntry

end OperationLint
