import Std.Data.HashMap

/-!
# Tables of characters
-/

namespace OperationLint

/-- Values for some characters, by code point. -/
structure CharTable (α : Type) where
  byCode : Std.HashMap Nat α

namespace CharTable

variable {α : Type}

def ofList (entries : List (Char × α)) : CharTable α :=
  ⟨Std.HashMap.ofList (entries.map fun (c, value) => (c.toNat, value))⟩

/-- The value for a character. -/
def get? (table : CharTable α) (c : Char) : Option α := table.byCode.get? c.toNat

/-- A table that only says which characters it has. -/
def ofChars (chars : List Char) : CharTable Unit := ofList (chars.map (·, ()))

/-- A character is in a table. -/
def contains (table : CharTable α) (c : Char) : Bool := table.byCode.contains c.toNat

end CharTable

end OperationLint
