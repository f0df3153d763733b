import OperationLint.Text.CharTable
import OperationLint.Text.Run

/-!
# Capitals

Capitals with their small letters, which they differ from on the third level only.
-/

namespace OperationLint.Collation

/-- Capitals beyond ASCII, each with its small letter. -/
def capitals : List String :=
  [ "41-5a=61 de=fe 14a=14b 166=167 181=253 182=183 184=185 186=254 187=188 189-18a=256 18b=18c",
    "18e=1dd 18f=259 190=25b 191=192 193=260 194=263 196=269 197=268 198=199 19c=26f 19d=272",
    "19f=275 1a2=1a3 1a4=1a5 1a6=280 1a7=1a8 1a9=283 1ac=1ad 1ae=288 1b1-1b2=28a 1b3=1b4 1b5=1b6",
    "1b7=292 1b8=1b9 1bc=1bd 1e4=1e5 1f6=195 1f7=1bf 21c=21d 220=19e 222=223 224=225 23a=2c65",
    "23b=23c 23d=19a 23e=2c66 241=242 243=180 244=289 245=28c 246=247 248=249 24a=24b 24c=24d",
    "24e=24f 370=371 372=373 376=377 37f=3f3 391-3a1=3b1 3a3-3a9=3c3 3d8=3d9 3da=3db 3dc=3dd",
    "3de=3df 3e0=3e1 3e2=3e3 3e4=3e5 3e6=3e7 3e8=3e9 3ea=3eb 3ec=3ed 3ee=3ef 3f7=3f8 3fa=3fb",
    "3fd-3ff=37b 402=452 404-406=454 408-40b=458 40f=45f 410-42f=430 460=461 462=463 464=465",
    "466=467 468=469 46a=46b 46c=46d 46e=46f 470=471 472=473 474=475 478=479 47a=47b 47c=47d",
    "47e=47f 480=481 48a=48b 48c=48d 48e=48f 492=493 494=495 496=497 498=499 49a=49b 49c=49d",
    "49e=49f 4a0=4a1 4a2=4a3 4a4=4a5 4a6=4a7 4a8=4a9 4aa=4ab 4ac=4ad 4ae=4af 4b0=4b1 4b2=4b3",
    "4b4=4b5 4b6=4b7 4b8=4b9 4ba=4bb 4bc=4bd 4be=4bf 4c0=4cf 4c3=4c4 4c5=4c6 4c7=4c8 4c9=4ca",
    "4cb=4cc 4cd=4ce 4d4=4d5 4d8=4d9 4e0=4e1 4e8=4e9 4f6=4f7 4fa=4fb 4fc=4fd 4fe=4ff 500=501",
    "502=503 504=505 506=507 508=509 50a=50b 50c=50d 50e=50f 510=511 512=513 514=515 516=517",
    "518=519 51a=51b 51c=51d 51e=51f 520=521 522=523 524=525 526=527 528=529 52a=52b 52c=52d",
    "52e=52f 531-556=561 10a0-10c5=2d00 10c7=2d27 10cd=2d2d 13a0-13ef=ab70 13f0-13f5=13f8",
    "1c90-1cba=10d0 1cbd-1cbf=10fd 1efc=1efd 1efe=1eff 2132=214e 2183=2184 2c00-2c2f=2c30",
    "2c60=2c61 2c62=26b 2c63=1d7d 2c64=27d 2c67=2c68 2c69=2c6a 2c6b=2c6c 2c6d=251 2c6e=271",
    "2c6f=250 2c70=252 2c72=2c73 2c75=2c76 2c7e-2c7f=23f 2c80=2c81 2c82=2c83 2c84=2c85 2c86=2c87",
    "2c88=2c89 2c8a=2c8b 2c8c=2c8d 2c8e=2c8f 2c90=2c91 2c92=2c93 2c94=2c95 2c96=2c97 2c98=2c99",
    "2c9a=2c9b 2c9c=2c9d 2c9e=2c9f 2ca0=2ca1 2ca2=2ca3 2ca4=2ca5 2ca6=2ca7 2ca8=2ca9 2caa=2cab",
    "2cac=2cad 2cae=2caf 2cb0=2cb1 2cb2=2cb3 2cb4=2cb5 2cb6=2cb7 2cb8=2cb9 2cba=2cbb 2cbc=2cbd",
    "2cbe=2cbf 2cc0=2cc1 2cc2=2cc3 2cc4=2cc5 2cc6=2cc7 2cc8=2cc9 2cca=2ccb 2ccc=2ccd 2cce=2ccf",
    "2cd0=2cd1 2cd2=2cd3 2cd4=2cd5 2cd6=2cd7 2cd8=2cd9 2cda=2cdb 2cdc=2cdd 2cde=2cdf 2ce0=2ce1",
    "2ce2=2ce3 2ceb=2cec 2ced=2cee 2cf2=2cf3 a640=a641 a642=a643 a644=a645 a646=a647 a648=a649",
    "a64a=a64b a64c=a64d a64e=a64f a650=a651 a652=a653 a654=a655 a656=a657 a658=a659 a65a=a65b",
    "a65c=a65d a65e=a65f a660=a661 a662=a663 a664=a665 a666=a667 a680=a681 a682=a683 a684=a685",
    "a686=a687 a688=a689 a68a=a68b a68c=a68d a68e=a68f a690=a691 a692=a693 a694=a695 a696=a697",
    "a722=a723 a724=a725 a726=a727 a72a=a72b a72c=a72d a72e=a72f a73e=a73f a740=a741 a742=a743",
    "a744=a745 a746=a747 a748=a749 a74a=a74b a74c=a74d a750=a751 a752=a753 a754=a755 a756=a757",
    "a758=a759 a75a=a75b a75c=a75d a75e=a75f a762=a763 a764=a765 a766=a767 a768=a769 a76a=a76b",
    "a76c=a76d a76e=a76f a77e=a77f a780=a781 a78b=a78c a78d=265 a790=a791 a792=a793 a796=a797",
    "a798=a799 a7aa=266 a7ab=25c a7ac=261 a7ad=26c a7ae=26a a7b0=29e a7b1=287 a7b2=29d a7b3=ab53",
    "a7b4=a7b5 a7b6=a7b7 a7b8=a7b9 a7ba=a7bb a7bc=a7bd a7be=a7bf a7c0=a7c1 a7c2=a7c3 a7c4=a794",
    "a7c5=282 a7c6=1d8e a7c7=a7c8 a7c9=a7ca a7d0=a7d1 a7d6=a7d7 a7d8=a7d9 a7f5=a7f6",
    "10400-10427=10428 104b0-104d3=104d8 10570-1057a=10597 1057c-1058a=105a3 1058c-10592=105b3",
    "10594-10595=105bb 10c80=10cc0 10c82-10c89=10cc2 10c8c-10c90=10ccc 10c92-10c9b=10cd2",
    "10c9d=10cdd 10ca0-10ca2=10ce0 10ca4-10caa=10ce4 10cac=10cec 10cae-10cb2=10cee",
    "118a0-118bf=118c0 16e40-16e5f=16e60 1e900-1e921=1e922"]

/-- Small letters by their capitals. -/
def smallLetters : CharTable Char :=
  CharTable.ofList <| (Run.pairs capitals).filterMap fun (capital, small) =>
    small.head?.map (capital, ·)

/-- The small letter of a capital. -/
def small? (c : Char) : Option Char :=
  if c.isUpper then some c.toLower
  else if c.toNat < 0x80 then none
  else smallLetters.get? c

end OperationLint.Collation
