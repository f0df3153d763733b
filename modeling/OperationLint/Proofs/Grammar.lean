import OperationLint.Proofs.Documents

/-!
# The grammar of snapshots

Which JSON values are snapshots, said without reading them. A record names its members, and for each
whether it may be missing, may be null, and what it holds; members that no record names do not
matter. An operation has one of the kinds, and its own members have the shapes of that kind, down to
the leaves of the tree.

## Main result

`read_reports_nothing_iff`: reading a value finds no issue exactly when the value is a snapshot by
this grammar, and then gives a snapshot.

## Proof strategy

A reading decides a property when it gives a value where the property holds and at least one issue
where it does not. Readings side by side decide conjunctions, so each record is decided as its
reader is put together, member by member. For operations the members are smaller values, and the
induction is on their size.
-/

namespace OperationLint

open Json

/-! ### The grammar -/

namespace Grammar

def IsText (json : Json) : Prop := ∃ text, json = .string text

def IsNonEmptyText (json : Json) : Prop := ∃ text, json = .string text ∧ text ≠ ""

def IsFlag (json : Json) : Prop := ∃ value, json = .bool value

/-- Lines and columns are positive integers. -/
def IsPosition (json : Json) : Prop := ∃ n : Int, json = .number (.integer n) ∧ 0 < n

/-- Null, a truth value, a number or a text. -/
def IsScalar (json : Json) : Prop :=
  json = .null ∨ (∃ value, json = .bool value) ∨ (∃ value, json = .number value) ∨
    ∃ text, json = .string text

def IsOneOf (names : List String) (json : Json) : Prop := ∃ name ∈ names, json = .string name

def OrNull (Fits : Json → Prop) (json : Json) : Prop := json = .null ∨ Fits json

def IsArrayOf (Fits : Json → Prop) (json : Json) : Prop :=
  ∃ elements, json = .array elements ∧ ∀ element ∈ elements, Fits element

def IsObjectOf (Fits : Members → Prop) (json : Json) : Prop :=
  ∃ members, json = .object members ∧ Fits members

/-- A member is there and fits. -/
def Requires (members : Members) (name : String) (Fits : Json → Prop) : Prop :=
  ∃ value, members.lookup name = some value ∧ Fits value

/-- A member fits if it is there. -/
def Allows (members : Members) (name : String) (Fits : Json → Prop) : Prop :=
  ∀ value, members.lookup name = some value → Fits value

@[mk_iff]
structure IsLocation (members : Members) : Prop where
  path : Requires members "path" IsNonEmptyText
  startLine : Requires members "startLine" IsPosition
  startColumn : Requires members "startColumn" IsPosition
  endLine : Requires members "endLine" IsPosition
  endColumn : Requires members "endColumn" IsPosition

@[mk_iff]
structure IsTypeEntry (members : Members) : Prop where
  metadataName : Requires members "metadataName" IsNonEmptyText
  typeKind : Requires members "typeKind"
    (IsOneOf ["class", "struct", "interface", "delegate", "enum"])
  specialType : Allows members "specialType"
    (IsOneOf ["None", "System_Object", "System_Boolean", "System_Void", "System_Int32",
      "System_String", "System_IntPtr", "System_UIntPtr"])
  baseType : Allows members "baseType" (OrNull IsText)
  interfaces : Allows members "interfaces" (IsArrayOf IsText)
  locations : Allows members "locations" (IsArrayOf (IsObjectOf IsLocation))

@[mk_iff]
structure IsParameter (members : Members) : Prop where
  name : Requires members "name" IsText
  type : Requires members "type" IsText

@[mk_iff]
structure IsDllImport (members : Members) : Prop where
  moduleName : Requires members "moduleName" IsNonEmptyText
  entryPoint : Allows members "entryPoint" (OrNull IsText)

@[mk_iff]
structure IsMethodEntry (members : Members) : Prop where
  id : Requires members "id" IsNonEmptyText
  name : Requires members "name" IsNonEmptyText
  containingType : Requires members "containingType" IsText
  methodKind : Allows members "methodKind"
    (IsOneOf ["ordinary", "constructor", "destructor", "lambda", "accessor"])
  returnType : Allows members "returnType" (OrNull IsText)
  parameters : Allows members "parameters" (IsArrayOf (IsObjectOf IsParameter))
  isStatic : Allows members "isStatic" IsFlag
  dllImport : Allows members "dllImport" (OrNull (IsObjectOf IsDllImport))

@[mk_iff]
structure IsFieldEntry (members : Members) : Prop where
  id : Requires members "id" IsNonEmptyText
  name : Requires members "name" IsNonEmptyText
  containingType : Requires members "containingType" IsText
  type : Requires members "type" IsText
  isStatic : Allows members "isStatic" IsFlag

/-- The members that every operation has. -/
@[mk_iff]
structure IsNode (members : Members) : Prop where
  type : Allows members "type" (OrNull IsText)
  constantValue : Allows members "constantValue" IsScalar
  isImplicit : Allows members "isImplicit" IsFlag
  location : Requires members "location" (IsObjectOf IsLocation)

/-- What a member of an operation is for. -/
inductive Shape where
  | text
  /-- A text that may be missing or null. -/
  | optionalText
  | operation
  /-- An operation that may be missing or null. -/
  | optionalOperation
  | operations
  /-- A list of operations that may be missing. -/
  | optionalOperations

/-- The members of a kind beside those that every operation has. -/
def shapes : Kind → List (String × Shape)
  | .block => [("operations", .operations)]
  | .expressionStatement => [("operation", .operation)]
  | .variableDeclaration => [("local", .text), ("initializer", .optionalOperation)]
  | .returns => [("returnedValue", .optionalOperation)]
  | .throws => [("exception", .optionalOperation)]
  | .conditional =>
    [("condition", .operation), ("whenTrue", .operation), ("whenFalse", .optionalOperation)]
  | .literal => []
  | .localReference => [("local", .text)]
  | .parameterReference => [("parameter", .text)]
  | .instanceReference => []
  | .fieldReference => [("field", .text), ("instance", .optionalOperation)]
  | .simpleAssignment => [("target", .optionalOperation), ("value", .optionalOperation)]
  | .binary => [("operator", .text), ("left", .operation), ("right", .operation)]
  | .conversion => [("operand", .operation)]
  | .invocation =>
    [("method", .text), ("instance", .optionalOperation), ("arguments", .optionalOperations)]
  | .objectCreation => [("constructorMethod", .optionalText), ("arguments", .optionalOperations)]
  | .delegateCreation => [("target", .operation)]
  | .anonymousFunction => [("symbol", .text), ("body", .operation)]
  | .methodReference => [("method", .text), ("instance", .optionalOperation)]
  | .invalid => [("children", .optionalOperations)]

namespace Shape

/-- A member is of a shape, without a look at the operations in it. -/
def Admits : Shape → Option Json → Prop
  | text, held => ∃ value, held = some (.string value)
  | optionalText, held => held = none ∨ held = some .null ∨ ∃ value, held = some (.string value)
  -- Null is there too; it fails as a part that is no operation.
  | operation, held => held ≠ none
  | optionalOperation, _ => True
  | operations, held => ∃ elements, held = some (.array elements)
  | optionalOperations, held => held = none ∨ ∃ elements, held = some (.array elements)

/-- What has to be an operation in a member of a shape. -/
def parts : Shape → Option Json → List Json
  | operation, some value => [value]
  | optionalOperation, some value => if value matches .null then [] else [value]
  | operations, some (.array elements) => elements
  | optionalOperations, some (.array elements) => elements
  | _, _ => []

/-- How many operations a member of a shape holds. -/
def arity? : Shape → Option Arity
  | text => none
  | optionalText => none
  | operation => some .one
  | optionalOperation => some .optional
  | operations => some .many
  | optionalOperations => some .many

end Shape

/-- The members of a kind that hold operations, with their shapes. -/
theorem mem_parts_iff {kind : Kind} {name : String} {arity : Arity} :
    (name, arity) ∈ kind.parts ↔
      ∃ shape, (name, shape) ∈ shapes kind ∧ shape.arity? = some arity := by
  have listed : kind.parts = (shapes kind).filterMap fun member =>
      member.2.arity?.map (member.1, ·) := by
    cases kind <;> rfl
  rw [listed, List.mem_filterMap]
  constructor
  · rintro ⟨⟨_, shape⟩, member, held⟩
    obtain ⟨_, same, pair⟩ := Option.map_eq_some_iff.mp held
    cases pair
    exact ⟨shape, member, same⟩
  · rintro ⟨shape, member, same⟩
    exact ⟨(name, shape), member, by rw [same, Option.map_some]⟩

/-- Operations: one of the kinds, with the members of that kind and operations in them. -/
inductive IsOperation : Json → Prop
  | intro {members : Members} (kind : Kind)
      (tag : members.lookup "kind" = some (.string kind.name))
      (common : IsNode members)
      (own : ∀ member ∈ shapes kind, member.2.Admits (members.lookup member.1))
      (below : ∀ member ∈ shapes kind, ∀ part ∈ member.2.parts (members.lookup member.1),
        IsOperation part) :
      IsOperation (.object members)

@[mk_iff]
structure IsBlockEntry (members : Members) : Prop where
  owner : Requires members "owner" IsText
  isGenerated : Allows members "isGenerated" IsFlag
  body : Requires members "body" IsOperation

@[mk_iff]
structure HasTables (members : Members) : Prop where
  assemblyName : Requires members "assemblyName" IsNonEmptyText
  types : Requires members "types" (IsArrayOf (IsObjectOf IsTypeEntry))
  methods : Allows members "methods" (IsArrayOf (IsObjectOf IsMethodEntry))
  fields : Allows members "fields" (IsArrayOf (IsObjectOf IsFieldEntry))
  operationBlocks : Allows members "operationBlocks" (IsArrayOf (IsObjectOf IsBlockEntry))

def IsSnapshot : Json → Prop := IsObjectOf HasTables

end Grammar

open Grammar

/-! ### Readings that decide -/

namespace Schema

open Validation

variable {α β : Type} {P Q : Prop} {Fits : Json → Prop}

namespace Validation

/-- A reading gives a value where a property holds, and has an issue where it does not. -/
def Decides (reading : Validation α) (P : Prop) : Prop :=
  match reading with
  | valid _ => P
  | invalid issues => ¬ P ∧ issues ≠ []

theorem Decides.congr {reading : Validation α} (decided : reading.Decides P) (same : P ↔ Q) :
    reading.Decides Q := by
  rwa [← propext same]

theorem Decides.map {reading : Validation α} (f : α → β) (decided : reading.Decides P) :
    (f <$> reading).Decides P := by
  cases reading <;> exact decided

/-- Readings side by side decide a conjunction. -/
theorem Decides.seq {f : Validation (α → β)} {reading : Validation α} (first : f.Decides P)
    (second : reading.Decides Q) : (f <*> reading).Decides (P ∧ Q) := by
  cases f with
  | valid g =>
    cases reading with
    | valid value => exact ⟨first, second⟩
    | invalid issues => exact ⟨fun both => second.1 both.2, second.2⟩
  | invalid issues =>
    cases reading with
    | valid value => exact ⟨fun both => first.1 both.1, first.2⟩
    | invalid others =>
      -- The issues of the first reading stand in front, and there are some.
      refine ⟨fun both => first.1 both.1, ?_⟩
      exact fun empty => first.2 (List.append_eq_nil_iff.mp empty).1

theorem Decides.under {reading : Validation α} (step : Step) (decided : reading.Decides P) :
    (reading.under step).Decides P := by
  cases reading with
  | valid value => exact decided
  | invalid issues => exact ⟨decided.1, fun empty => decided.2 (List.map_eq_nil_iff.mp empty)⟩

theorem decides_valid {value : α} (holds : P) : (valid value).Decides P := holds

theorem decides_fail {problem : Problem} (broken : ¬ P) : (fail problem : Validation α).Decides P :=
  ⟨broken, List.cons_ne_nil _ _⟩

theorem Decides.issues_eq_nil_iff {reading : Validation α} (decided : reading.Decides P) :
    reading.issues = [] ↔ P := by
  cases reading with
  | valid value => exact iff_of_true rfl decided
  | invalid issues => exact iff_of_false decided.2 decided.1

theorem Decides.exists_valid_iff {reading : Validation α} (decided : reading.Decides P) :
    (∃ value, reading = .valid value) ↔ P := by
  cases reading with
  | valid value => exact iff_of_true ⟨value, rfl⟩ decided
  | invalid issues => exact iff_of_false (by simp) decided.1

end Validation

theorem decides_string (json : Json) : (string json).Decides (IsText json) := by
  cases json with
  | string text => exact ⟨text, rfl⟩
  | _ => exact decides_fail (by simp [IsText])

theorem decides_nonEmptyString (json : Json) :
    (nonEmptyString json).Decides (IsNonEmptyText json) := by
  cases json with
  | string text =>
    by_cases empty : text = ""
    · rw [nonEmptyString, if_pos empty]
      exact decides_fail (by simp [IsNonEmptyText, empty])
    · rw [nonEmptyString, if_neg empty]
      exact ⟨text, rfl, empty⟩
  | _ => exact decides_fail (by simp [IsNonEmptyText])

theorem decides_boolean (json : Json) : (boolean json).Decides (IsFlag json) := by
  cases json with
  | bool value => exact ⟨value, rfl⟩
  | _ => exact decides_fail (by simp [IsFlag])

theorem decides_position (json : Json) : (Location.position json).Decides (IsPosition json) := by
  apply Decides.map
  cases json with
  | number value =>
    cases value with
    | integer n =>
      by_cases positive : 0 < n
      · simp only [positiveInteger, Number.toInt?, Number.isPositive, positive, decide_true]
        exact ⟨n, rfl, positive⟩
      · simp only [positiveInteger, Number.toInt?, Number.isPositive, positive, decide_false]
        exact decides_fail (by simp [IsPosition, positive])
    -- What is neither an integer nor positive has two issues.
    | fraction negative =>
      cases negative <;>
        simp [positiveInteger, Number.toInt?, Number.isPositive, Decides, fail, IsPosition]
    | infinite negative =>
      cases negative <;>
        simp [positiveInteger, Number.toInt?, Number.isPositive, Decides, fail, IsPosition]
  | _ => exact decides_fail (by simp [IsPosition])

theorem decides_oneOf {options : List α} {nameOf : α → String} (json : Json) :
    (oneOf options nameOf json).Decides (IsOneOf (options.map nameOf) json) := by
  cases json with
  | string text =>
    rw [oneOf]
    cases found : options.find? (fun option => nameOf option == text) with
    | some option =>
      have named : nameOf option = text := by simpa using List.find?_some found
      exact ⟨text, List.mem_map.mpr ⟨option, List.mem_of_find?_eq_some found, named⟩, rfl⟩
    | none =>
      rw [List.find?_eq_none] at found
      apply decides_fail
      rintro ⟨name, member, same⟩
      obtain ⟨option, inside, rfl⟩ := List.mem_map.mp member
      exact found option inside (by simp [Json.string.inj same])
  | _ => exact decides_fail (by simp [IsOneOf])

theorem decides_nullable {read : Json → Validation α}
    (inner : ∀ json, (read json).Decides (Fits json)) (json : Json) :
    (nullable read json).Decides (OrNull Fits json) := by
  cases json with
  | null => exact Or.inl rfl
  | _ => exact ((inner _).map _).congr (by simp [OrNull])

theorem decides_elements {read : Json → Validation α} (position : Nat) (values : List Json)
    (each : ∀ value ∈ values, (read value).Decides (Fits value)) :
    (elements read position values).Decides (∀ value ∈ values, Fits value) := by
  induction values generalizing position with
  | nil => exact decides_valid (by simp)
  | cons value rest ih =>
    obtain ⟨first, others⟩ := List.forall_mem_cons.mp each
    rw [elements]
    exact (((first.under _).map _).seq (ih (position + 1) others)).congr List.forall_mem_cons.symm

theorem decides_array {read : Json → Validation α}
    (each : ∀ json, (read json).Decides (Fits json)) (json : Json) :
    (array read json).Decides (IsArrayOf Fits json) := by
  cases json with
  | array values =>
    exact (decides_elements 0 values fun value _ => each value).congr (by simp [IsArrayOf])
  | _ => exact decides_fail (by simp [IsArrayOf])

theorem decides_object {read : Members → Validation α} {Fits : Members → Prop}
    (inner : ∀ members, (read members).Decides (Fits members)) (json : Json) :
    (object read json).Decides (IsObjectOf Fits json) := by
  cases json with
  | object members => exact (inner members).congr (by simp [IsObjectOf])
  | _ => exact decides_fail (by simp [IsObjectOf])

theorem decides_required (members : Members) (name : String) {read : Json → Validation α}
    (inner : ∀ json, (read json).Decides (Fits json)) :
    (required name read members).Decides (Requires members name Fits) := by
  unfold required
  cases found : members.lookup name with
  | some value => exact ((inner value).under _).congr (by simp [Requires, found])
  | none => exact (decides_fail (by simp [Requires, found])).under _

theorem decides_optional (members : Members) (name : String) {read : Json → Validation α}
    (inner : ∀ json, (read json).Decides (Fits json)) :
    (Schema.optional name read members).Decides (Allows members name Fits) := by
  unfold Schema.optional
  cases found : members.lookup name with
  | some value => exact (((inner value).under _).map _).congr (by simp [Allows, found])
  | none => exact decides_valid (by simp [Allows, found])

theorem decides_withDefault (members : Members) (name : String) {default : α}
    {read : Json → Validation α} (inner : ∀ json, (read json).Decides (Fits json)) :
    (withDefault name default read members).Decides (Allows members name Fits) := by
  unfold withDefault
  cases found : members.lookup name with
  | some value => exact ((inner value).under _).congr (by simp [Allows, found])
  | none => exact decides_valid (by simp [Allows, found])

end Schema

open Schema Schema.Validation

/-! ### Records -/

section Records

variable (members : Members)

theorem Location.decides_ofMembers : (ofMembers members).Decides (IsLocation members) := by
  have position (name : String) := decides_required members name decides_position
  exact (decides_required members "path" decides_nonEmptyString |>.map Location.mk
    |>.seq (position "startLine") |>.seq (position "startColumn")
    |>.seq (position "endLine") |>.seq (position "endColumn")
    |>.congr (by simp only [isLocation_iff, and_assoc]))

theorem Location.decides_read (json : Json) :
    (Location.read json).Decides (IsObjectOf IsLocation json) :=
  decides_object Location.decides_ofMembers json

theorem TypeEntry.decides_ofMembers : (ofMembers members).Decides (IsTypeEntry members) :=
  decides_required members "metadataName" decides_nonEmptyString |>.map TypeEntry.mk
    |>.seq (decides_required members "typeKind" decides_oneOf)
    |>.seq (decides_withDefault members "specialType" decides_oneOf)
    |>.seq (decides_withDefault members "baseType" (decides_nullable decides_string))
    |>.seq (decides_withDefault members "interfaces" (decides_array decides_string))
    |>.seq (decides_withDefault members "locations" (decides_array Location.decides_read))
    |>.congr (by simp only [isTypeEntry_iff, and_assoc]; rfl)

theorem Parameter.decides_ofMembers : (ofMembers members).Decides (IsParameter members) :=
  decides_required members "name" decides_string |>.map Parameter.mk
    |>.seq (decides_required members "type" decides_string)
    |>.congr (by rw [isParameter_iff])

theorem DllImport.decides_ofMembers : (ofMembers members).Decides (IsDllImport members) :=
  decides_required members "moduleName" decides_nonEmptyString |>.map DllImport.mk
    |>.seq (decides_withDefault members "entryPoint" (decides_nullable decides_string))
    |>.congr (by rw [isDllImport_iff])

theorem Method.decides_ofMembers : (ofMembers members).Decides (IsMethodEntry members) :=
  decides_required members "id" decides_nonEmptyString |>.map Method.mk
    |>.seq (decides_required members "name" decides_nonEmptyString)
    |>.seq (decides_required members "containingType" decides_string)
    |>.seq (decides_withDefault members "methodKind" decides_oneOf)
    |>.seq (decides_withDefault members "returnType" (decides_nullable decides_string))
    |>.seq (decides_withDefault members "parameters"
      (decides_array (decides_object Parameter.decides_ofMembers)))
    |>.seq (decides_withDefault members "isStatic" decides_boolean)
    |>.seq (decides_withDefault members "dllImport"
      (decides_nullable (decides_object DllImport.decides_ofMembers)))
    |>.congr (by simp only [isMethodEntry_iff, and_assoc]; rfl)

theorem Field.decides_ofMembers : (ofMembers members).Decides (IsFieldEntry members) :=
  decides_required members "id" decides_nonEmptyString |>.map Field.mk
    |>.seq (decides_required members "name" decides_nonEmptyString)
    |>.seq (decides_required members "containingType" decides_string)
    |>.seq (decides_required members "type" decides_string)
    |>.seq (decides_withDefault members "isStatic" decides_boolean)
    |>.congr (by simp only [isFieldEntry_iff, and_assoc])

theorem Constant.decides_read (json : Json) : (Constant.read json).Decides (IsScalar json) := by
  cases json with
  | array elements => exact decides_fail (by simp [IsScalar])
  | object members => exact decides_fail (by simp [IsScalar])
  | _ => exact decides_valid (by simp [IsScalar])

theorem Info.decides_ofMembers : (ofMembers members).Decides (IsNode members) :=
  decides_optional members "type" (decides_nullable decides_string) |>.map Option.join
    |>.map Info.mk
    |>.seq (decides_optional members "constantValue" Constant.decides_read)
    |>.seq (decides_withDefault members "isImplicit" decides_boolean)
    |>.seq (decides_required members "location" Location.decides_read)
    |>.congr (by simp only [isNode_iff, and_assoc])

end Records

/-! ### Operations -/

namespace Grammar

/-- A member of an operation is of a shape, with operations wherever the shape wants them. -/
def Shape.Holds (shape : Shape) (held : Option Json) : Prop :=
  shape.Admits held ∧ ∀ part ∈ shape.parts held, IsOperation part

theorem isOperation_object {members : Members} :
    IsOperation (.object members) ↔ ∃ kind : Kind,
      members.lookup "kind" = some (.string kind.name) ∧ IsNode members ∧
        ∀ member ∈ shapes kind, member.2.Holds (members.lookup member.1) := by
  constructor
  · rintro ⟨kind, tag, common, own, below⟩
    exact ⟨kind, tag, common, fun member listed => ⟨own member listed, below member listed⟩⟩
  · rintro ⟨kind, tag, common, holds⟩
    exact ⟨kind, tag, common, fun member listed => (holds member listed).1,
      fun member listed => (holds member listed).2⟩

end Grammar

theorem Kind.ofMembers?_eq_some {members : Members} {kind : Kind} :
    Kind.ofMembers? members = some kind ↔ members.lookup "kind" = some (.string kind.name) := by
  constructor
  · exact Operation.kind_of_ofMembers?
  · intro named
    rw [Kind.ofMembers?, named]
    cases kind <;> decide

section Members

variable {members : Members}

theorem decides_text (name : String) :
    (required name string members).Decides (Shape.text.Holds (members.lookup name)) :=
  (decides_required members name decides_string).congr (by
    simp [Requires, IsText, Shape.Holds, Shape.Admits, Shape.parts])

theorem decides_optionalText (name : String) :
    (Schema.optional name (nullable string) members).Decides
      (Shape.optionalText.Holds (members.lookup name)) := by
  refine (decides_optional members name (decides_nullable decides_string)).congr ?_
  cases found : members.lookup name <;>
    simp [found, Allows, OrNull, IsText, Shape.Holds, Shape.Admits, Shape.parts]

-- Values inside the members are read as the grammar has it.
variable (smaller : ∀ value, sizeOf value < sizeOf members →
  (Operation.read value).Decides (IsOperation value))

include smaller

theorem decides_readList {value : Json} (inside : sizeOf value < sizeOf members) :
    (Operation.readList value).Decides (IsArrayOf IsOperation value) := by
  cases value with
  | array elements =>
    rw [Operation.readList, Operation.readElements_eq_elements]
    refine (decides_elements 0 elements fun element member => smaller element ?_).congr
      (by simp [IsArrayOf])
    have below := List.sizeOf_lt_of_mem member
    rw [Json.array.sizeOf_spec] at inside
    omega
  | _ => exact decides_fail (by simp [IsArrayOf])

theorem decides_operation (name : String) :
    (Part.required name (Part.readAll members)).Decides
      (Shape.operation.Holds (members.lookup name)) := by
  rw [Part.required, Part.lookup_readAll]
  cases found : members.lookup name with
  | none => exact (decides_fail (by simp [Shape.Holds, Shape.Admits])).under _
  | some value =>
    exact ((smaller value (sizeOf_lookup_lt found)).under _).congr (by
      simp [Shape.Holds, Shape.Admits, Shape.parts])

theorem decides_optionalOperation (name : String) :
    (Part.optional name (Part.readAll members)).Decides
      (Shape.optionalOperation.Holds (members.lookup name)) := by
  rw [Part.optional, Part.lookup_readAll]
  cases found : members.lookup name with
  | none => exact decides_valid (by simp [Shape.Holds, Shape.Admits, Shape.parts])
  | some value =>
    cases value with
    | null => exact decides_valid (by simp [Shape.Holds, Shape.Admits, Shape.parts])
    | _ =>
      exact (((smaller _ (sizeOf_lookup_lt found)).under _).map _).congr (by
        simp [Shape.Holds, Shape.Admits, Shape.parts])

theorem decides_operations (name : String) :
    (Part.requiredList name (Part.readAll members)).Decides
      (Shape.operations.Holds (members.lookup name)) := by
  rw [Part.requiredList, Part.lookup_readAll]
  cases found : members.lookup name with
  | none => exact (decides_fail (by simp [Shape.Holds, Shape.Admits])).under _
  | some value =>
    refine ((decides_readList smaller (sizeOf_lookup_lt found)).under _).congr ?_
    cases value <;> simp [IsArrayOf, Shape.Holds, Shape.Admits, Shape.parts]

theorem decides_optionalOperations (name : String) :
    (Part.optionalList name (Part.readAll members)).Decides
      (Shape.optionalOperations.Holds (members.lookup name)) := by
  rw [Part.optionalList, Part.lookup_readAll]
  cases found : members.lookup name with
  | none => exact decides_valid (by simp [Shape.Holds, Shape.Admits, Shape.parts])
  | some value =>
    refine ((decides_readList smaller (sizeOf_lookup_lt found)).under _).congr ?_
    cases value <;> simp [IsArrayOf, Shape.Holds, Shape.Admits, Shape.parts]

/-- The reader of each kind looks at the members of that kind. -/
theorem Operation.decides_ofParts (kind : Kind) :
    (ofParts kind members (Part.readAll members)).Decides
      (IsNode members ∧ ∀ member ∈ shapes kind, member.2.Holds (members.lookup member.1)) := by
  have info := Info.decides_ofMembers members
  have one := decides_operation smaller
  have optional := decides_optionalOperation smaller
  have list := decides_operations smaller
  have optionalList := decides_optionalOperations smaller
  cases kind with
  | block => exact ((info.map _).seq (list _)).congr (by simp [shapes])
  | expressionStatement => exact ((info.map _).seq (one _)).congr (by simp [shapes])
  | variableDeclaration =>
    exact (((info.map _).seq (decides_text _)).seq (optional _)).congr (by simp [shapes, and_assoc])
  | returns => exact ((info.map _).seq (optional _)).congr (by simp [shapes])
  | throws => exact ((info.map _).seq (optional _)).congr (by simp [shapes])
  | conditional =>
    exact ((((info.map _).seq (one _)).seq (one _)).seq (optional _)).congr
      (by simp [shapes, and_assoc])
  | literal => exact (info.map _).congr (by simp [shapes])
  | localReference => exact ((info.map _).seq (decides_text _)).congr (by simp [shapes])
  | parameterReference => exact ((info.map _).seq (decides_text _)).congr (by simp [shapes])
  | instanceReference => exact (info.map _).congr (by simp [shapes])
  | fieldReference =>
    exact (((info.map _).seq (decides_text _)).seq (optional _)).congr (by simp [shapes, and_assoc])
  | simpleAssignment =>
    exact (((info.map _).seq (optional _)).seq (optional _)).congr (by simp [shapes, and_assoc])
  | binary =>
    exact ((((info.map _).seq (decides_text _)).seq (one _)).seq (one _)).congr
      (by simp [shapes, and_assoc])
  | conversion => exact ((info.map _).seq (one _)).congr (by simp [shapes])
  | invocation =>
    exact ((((info.map _).seq (decides_text _)).seq (optional _)).seq (optionalList _)).congr
      (by simp [shapes, and_assoc])
  | objectCreation =>
    exact (((info.map _).seq ((decides_optionalText _).map _)).seq (optionalList _)).congr
      (by simp [shapes, and_assoc])
  | delegateCreation => exact ((info.map _).seq (one _)).congr (by simp [shapes])
  | anonymousFunction =>
    exact (((info.map _).seq (decides_text _)).seq (one _)).congr (by simp [shapes, and_assoc])
  | methodReference =>
    exact (((info.map _).seq (decides_text _)).seq (optional _)).congr (by simp [shapes, and_assoc])
  | invalid => exact ((info.map _).seq (optionalList _)).congr (by simp [shapes])

end Members

/-- Operations are read exactly where the grammar has one, down to the leaves. -/
theorem Operation.decides_read (json : Json) :
    (Operation.read json).Decides (IsOperation json) := by
  cases json with
  | object members =>
    -- The members of an object are smaller values, and so are the elements of the lists in them.
    have smaller (value : Json) (_ : sizeOf value < sizeOf members) :
        (Operation.read value).Decides (IsOperation value) :=
      decides_read value
    rw [Operation.read]
    cases named : Kind.ofMembers? members with
    | some kind =>
      refine (decides_ofParts smaller kind).congr ?_
      rw [isOperation_object]
      constructor
      · exact fun fits => ⟨kind, Kind.ofMembers?_eq_some.mp named, fits⟩
      · rintro ⟨other, tag, fits⟩
        rw [← Kind.ofMembers?_eq_some, named] at tag
        cases tag
        exact fits
    | none =>
      refine (decides_fail ?_).under _
      rw [isOperation_object]
      rintro ⟨kind, tag, _⟩
      rw [← Kind.ofMembers?_eq_some, named] at tag
      cases tag
  | _ => exact decides_fail (by rintro ⟨⟩)
termination_by sizeOf json
decreasing_by
  rw [Json.object.sizeOf_spec]
  omega

/-! ### Snapshots -/

theorem CodeBlock.decides_ofMembers (members : Members) :
    (ofMembers members).Decides (IsBlockEntry members) :=
  decides_required members "owner" decides_string |>.map CodeBlock.mk
    |>.seq (decides_withDefault members "isGenerated" decides_boolean)
    |>.seq (decides_required members "body" Operation.decides_read)
    |>.congr (by simp only [isBlockEntry_iff, and_assoc])

theorem Snapshot.decides_ofMembers (members : Members) :
    (ofMembers members).Decides (HasTables members) :=
  decides_required members "assemblyName" decides_nonEmptyString |>.map Snapshot.mk
    |>.seq (decides_required members "types"
      (decides_array (decides_object TypeEntry.decides_ofMembers)))
    |>.seq (decides_withDefault members "methods"
      (decides_array (decides_object Method.decides_ofMembers)))
    |>.seq (decides_withDefault members "fields"
      (decides_array (decides_object Field.decides_ofMembers)))
    |>.seq (decides_withDefault members "operationBlocks"
      (decides_array (decides_object CodeBlock.decides_ofMembers)))
    |>.congr (by simp only [hasTables_iff, and_assoc])

/-- Reading a value finds no issue exactly when the value is a snapshot by the grammar, and it
gives a snapshot exactly then. -/
theorem Snapshot.read_reports_nothing_iff (json : Json) :
    ((Snapshot.read json).issues = [] ↔ IsSnapshot json) ∧
      ((∃ snapshot, Snapshot.read json = .valid snapshot) ↔ IsSnapshot json) := by
  have decided : (Snapshot.read json).Decides (IsSnapshot json) :=
    decides_object Snapshot.decides_ofMembers json
  exact ⟨decided.issues_eq_nil_iff, decided.exists_valid_iff⟩

end OperationLint
