import OperationLint.Text.CharTable
import OperationLint.Text.Run

/-!
# Ignorable characters

Characters without any weight: control characters, format characters, selectors, and marks that no
order looks at.
-/

namespace OperationLint.Collation

/-- The ignorable characters beyond ASCII. -/
def ignorable : CharTable Unit :=
  CharTable.ofChars <| Run.characters
    [ "80-84 86-9f ad 34f 488-489 591-5af 5bd 5c4-5c5 600-605 610-61a 61c 640 6d6-6dd 6df-6e4",
      "6e7-6e8 6ea-6ed 70f 740 743-744 747-74a 7fa 890-891 8d3-8e2 8ea-8ef 8f3 951-952 f18-f19",
      "f35 f37 f3e-f3f f82-f83 f86-f87 fc6 17b4-17b5 17d3 180a-180f 1a7f 1b6b-1b73 1cd0-1ce8",
      "1cf4 1cf7-1cf9 200b-200f 202a-202e 2060-2064 2066-206f 2d7f a670-a672 a8e0-a8f1 fe00-fe0f",
      "fe21 fe23-fe26 fe28 fe2a-fe2d fe2f fe73 feff fff9-fffb 102e0 110bd 110cd 11366-1136c",
      "11370-11374 13430-13455 16fe4 1bca0-1bca3 1d165-1d169 1d16d-1d182 1d185-1d18b 1d1aa-1d1ad",
      "1d242-1d244 1da00-1da36 1da3b-1da6c 1da75 1da84 1da9b-1da9f 1daa1-1daaf 1e8d0-1e8d6 e0001",
      "e0020-e007f e0100-e01ef"]

/-- A character has no weight. In ASCII these are the control characters that are no blanks. -/
def isIgnorable (c : Char) : Bool :=
  if c.toNat < 0x80 then
    c.toNat < 0x09 || (0x0e ≤ c.toNat && c.toNat < 0x20) || c.toNat = 0x7f
  else ignorable.contains c

end OperationLint.Collation
