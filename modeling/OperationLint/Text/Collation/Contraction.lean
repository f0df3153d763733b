import OperationLint.Text.CharTable
import OperationLint.Text.MarkClass
import OperationLint.Text.Run

/-!
# Contractions

Characters that count as one although they are written apart, such as a letter with a mark that is a
letter of its own, and vowels that are written before the consonant they are spoken after.
-/

namespace OperationLint.Collation

/-- Characters that are two others together. -/
def contractions : List (Char × List Char) :=
  Run.pairs
    [ "13f=4c.b7 140=6c.b7 419=418.306 439=438.306 622=627.653 623=627.654 625=627.655",
      "624=648.654 626=64a.654 9cb=9c7.9be 9cc=9c7.9d7 b4b=b47.b3e b48=b47.b56 b4c=b47.b57",
      "b94=b92.bd7 bca=bc6.bbe bcc=bc6.bd7 bcb=bc7.bbe c48=c46.c56 cc0=cbf.cd5 cca=cc6.cc2",
      "cc7=cc6.cd5 cc8=cc6.cd6 ccb=cca.cd5 d4a=d46.d3e d4c=d46.d57 d4b=d47.d3e dda=dd9.dca",
      "ddc=dd9.dcf dde=dd9.ddf ddd=ddc.dca e33=e4d.e32 eb3=ecd.eb2 f73=f71.f72 f75=f71.f74",
      "f81=f71.f80 f76=fb2.f80 f77=fb2.f81 f78=fb3.f80 f79=fb3.f81 1026=1025.102e 1b06=1b05.1b35",
      "1b08=1b07.1b35 1b0a=1b09.1b35 1b0c=1b0b.1b35 1b0e=1b0d.1b35 1b12=1b11.1b35 1b3b=1b3a.1b35",
      "1b3d=1b3c.1b35 1b40=1b3e.1b35 1b41=1b3f.1b35 1b43=1b42.1b35 1112e=11131.11127",
      "1112f=11132.11127 1134b=11347.1133e 1134c=11347.11357 114bc=114b9.114b0 114bb=114b9.114ba",
      "114be=114b9.114bd 115ba=115b8.115af 115bb=115b9.115af 11938=11935.11930"]

/-- The characters that others are joined with. -/
def joinable : CharTable Unit :=
  CharTable.ofChars (contractions.flatMap fun (_, parts) => parts.tail)

/-- What two characters are together. -/
def whole? (c next : Char) : Option Char :=
  if 0x80 ≤ next.toNat && joinable.contains next then
    (contractions.find? fun (_, parts) => parts == [c, next]).map (·.1)
  else none

/-- Joins a character with the next one, or with a mark behind other marks. A mark does not pass
those of its own class, and `passed` is the class that was passed last. -/
def join? (c : Char) (passed : Nat) : List Char → Option (Char × List Char)
  | [] => none
  | next :: rest =>
    let free := passed = 0 ∨ passed < Combining.markClass next
    match if free then whole? c next else none with
    | some whole => some (whole, rest)
    | none =>
      if Combining.markClass next = 0 then none
      else (join? c (Combining.markClass next) rest).map fun (whole, rest) => (whole, next :: rest)

/-- The vowels of some scripts that are written first, and the consonants of those scripts. -/
def leadingVowels : List (List Run × List Run) :=
  [ ("e40-e44", "e01-e2e"),
    ("ec0-ec4", "e81-e82 e84 e86-e8a e8c-ea3 ea5 ea7-eae edc-edf"),
    ("19b5-19b7 19ba", "1980-19ab"),
    ("aab5-aab6 aab9 aabb-aabc", "aa80-aaaf")].map fun (vowels, consonants) =>
      (Run.ofLines [vowels], Run.ofLines [consonants])

/-- A vowel is written before a consonant and spoken after it. -/
def isLeadingVowel (c next : Char) : Bool :=
  0x80 ≤ c.toNat && leadingVowels.any fun (vowels, consonants) =>
    vowels.any (·.contains c) && consonants.any (·.contains next)

/-- The characters of a text in the order in which they are spoken. -/
def spoken : List Char → List Char
  | c :: next :: rest =>
    if isLeadingVowel c next then next :: c :: spoken rest else c :: spoken (next :: rest)
  | short => short

/-- Puts a character before a text. It may be joined with up to two others. -/
def contract (c : Char) (rest : List Char) : List Char :=
  match join? c 0 rest with
  | none => c :: rest
  | some (whole, rest) =>
    match join? whole 0 rest with
    | none => whole :: rest
    | some (whole, rest) => whole :: rest

/-- The characters of a text that count. -/
def contracted (text : List Char) : List Char := (spoken text).foldr contract []

end OperationLint.Collation
