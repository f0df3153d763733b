/-!
# Runs of characters

Characters with consecutive code points, from a first to a last one, and the notation that tables of
characters are written in. A table is lines of words. The word `61-7a` is a run, and `61` is a run
of one character. The word `410-42f=430` pairs the characters of a run with those of a second run,
of which it says the first, and `fb01=66.69` pairs a character with a text.
-/

namespace OperationLint

structure Run where
  first : Char
  last : Char

namespace Run

def contains (run : Run) (c : Char) : Bool :=
  run.first.toNat ≤ c.toNat && c.toNat ≤ run.last.toNat

/-- The characters of a run. -/
def toList (run : Run) : List Char :=
  (List.range (run.last.toNat + 1 - run.first.toNat)).map fun offset =>
    Char.ofNat (run.first.toNat + offset)

/-! ### Notation -/

/-- The value of a digit in base sixteen. -/
def digitValue (c : Char) : Nat := if c.isDigit then c.toNat - 0x30 else c.toNat - 0x57

/-- The character with a written code point. -/
def character (code : String) : Char :=
  Char.ofNat (code.toList.foldl (fun value c => 16 * value + digitValue c) 0)

/-- The run that a word stands for. -/
def ofWord (word : String) : Run :=
  match word.splitOn "-" with
  | [first, last] => ⟨character first, character last⟩
  | _ => ⟨character word, character word⟩

/-- The words of some lines. -/
def words (lines : List String) : List String := lines.flatMap (·.splitOn " ")

/-- The runs of some lines. -/
def ofLines (lines : List String) : List Run := (words lines).map ofWord

/-- The characters of the runs of some lines. -/
def characters (lines : List String) : List Char := (ofLines lines).flatMap toList

/-- The pairs that a word stands for. -/
def pairsOfWord (word : String) : List (Char × List Char) :=
  match word.splitOn "=" with
  | [run, text] =>
    match (text.splitOn ".").map character with
    | [start] => (ofWord run).toList.zipIdx.map fun (c, offset) =>
        (c, [Char.ofNat (start.toNat + offset)])
    | text => (ofWord run).toList.map (·, text)
  | _ => []

/-- The pairs of some lines. -/
def pairs (lines : List String) : List (Char × List Char) := (words lines).flatMap pairsOfWord

end Run

end OperationLint
