import OperationLint.Number
import OperationLint.Text.Digits

/-!
# JSON values

An object is the list of its members in key order: first the keys that are array indices, by
value, then the others by first appearance. `Json.ofMembers` brings members into this form; of
members with one key the last value stands at the first one's place.
-/

namespace OperationLint

/-- A JSON value. -/
inductive Json where
  | null
  | bool (value : Bool)
  | number (value : Number)
  | string (value : String)
  | array (elements : List Json)
  | object (members : List (String × Json))
  deriving Inhabited

namespace Json

/-- The members of an object. -/
abbrev Members := List (String × Json)

/-! ### Forms of values -/

/-- What a value is, with `missing` for a member that is not there. -/
inductive Form where
  | missing
  | null
  | boolean
  | number
  | string
  | array
  | object
  deriving DecidableEq

/-- The name of a form in messages. -/
def Form.name : Form → String
  | missing => "undefined"
  | null => "null"
  | boolean => "boolean"
  | number => "number"
  | string => "string"
  | array => "array"
  | object => "object"

/-- The form of a value. -/
def form : Json → Form
  | .null => .null
  | .bool _ => .boolean
  | .number _ => .number
  | .string _ => .string
  | .array _ => .array
  | .object _ => .object

/-! ### Paths -/

/-- One step into a value. -/
inductive Step where
  | key (name : String)
  | index (position : Nat)
  deriving DecidableEq

/-- Steps from the root of a value inwards. -/
abbrev Path := List Step

/-- The text of a step. -/
def Step.text : Step → String
  | key name => name
  | index position => toString position

/-- Steps joined by points. -/
def Path.text (path : Path) : String := ".".intercalate (path.map Step.text)

/-- The value that one step leads to. -/
def child? : Json → Step → Option Json
  | .object members, .key name => members.lookup name
  | .array elements, .index position => elements[position]?
  | _, _ => none

/-- The value that a path leads to. -/
def get? (json : Json) : Path → Option Json
  | [] => some json
  | step :: rest => (json.child? step).bind (·.get? rest)

/-! ### Key order -/

/-- The number that a key writes as an array index: decimal digits without leading zeros, below
`2 ^ 32 - 1`. -/
def arrayIndex? (key : String) : Option Nat :=
  let digits := key.toList
  let value := Digits.value digits
  if Digits.IsNumeral digits ∧ (digits.head? = some '0' → digits = ['0'])
      ∧ value < Nat.pow 2 32 - 1 then some value
  else none

/-- Sets a member: in its place if the key is there, else at the end. -/
def setMember (members : Members) (key : String) (value : Json) : Members :=
  if members.any (·.1 == key) then
    members.map fun member => if member.1 == key then (key, value) else member
  else members ++ [(key, value)]

/-- Members whose keys are array indices, by index, before the others in their order. -/
def inKeyOrder (members : Members) : Members :=
  let indexed := members.filterMap fun member => (arrayIndex? member.1).map (·, member)
  let sorted := indexed.mergeSort fun a b => a.1 ≤ b.1
  sorted.map (·.2) ++ members.filter fun member => (arrayIndex? member.1).isNone

/-- The object of a list of members as written. -/
def ofMembers (members : Members) : Json :=
  .object (inKeyOrder (members.foldl (fun done member => setMember done member.1 member.2) []))

/-- The number value of an integer. -/
def ofInt (n : Int) : Json := .number (Number.ofInt n)

/-- The number value of a count. -/
def ofNat (n : Nat) : Json := ofInt n

end Json

end OperationLint
