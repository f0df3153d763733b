import OperationLint.Text.CharTable
import OperationLint.Text.Collation.Han
import OperationLint.Text.Run

/-!
# The order of characters

Blanks, punctuation, symbols, currency signs and digits, then letters script by script: Latin,
Greek, Cyrillic, Georgian, Armenian, Hebrew and the other scripts. Han characters come behind all of
them, and characters without a meaning behind those.
-/

namespace OperationLint.Collation

/-- The characters of ASCII in order. Capitals have the places of their small letters. -/
def plain : List Char :=
  ("\x09\x0a\x0b\x0c\x0d _-,;:!?.'\"()[]\x7b\x7d@*/\\&#%`^+<=>|~"
    ++ "$0123456789abcdefghijklmnopqrstuvwxyz").toList

/-- What stands between a character of ASCII and the next one. -/
def between : List (Char × List String) :=
  [ ('\r', ["85 2028-2029"]),
    (' ', ["203e"]),
    ('_', ["2017"]),
    ('-',
      [ "2e5d 58a 1400 1b60 1806-1807 2010 2012-2015 2e3a-2e3b 2053 2e43 2e17 2e40 301c 3030",
        "30a0 30fb 10ead"]),
    (',',
      [ "2e34 2e32 2e41 2e4c 2e4e-2e4f 55d 60c-60d 66b-66c 7f8 1802 1808 a4fe a60d a6f5 16e97",
        "3001 fe45-fe46 16fe2"]),
    (';', ["61b 204f 2e35 a6f6 2e49"]),
    (':', ["589 61e 703-708 830-83e 1361 1363-1366 1804-1805 f14 17d6 1b5d a9c7 16eb-16ed a6f4"]),
    ('!', ["a1 2e53 55c 7f9 1944 1e95e"]),
    ('?',
      [ "bf 2e54 2e2e 55e 61f 61d 709 1367 1945 2cfa-2cfb a60f a6f7 aaf1 11143 1e95f 203d 2e18"]),
    ('.',
      [ "888 116b9 11b00-11b09 12ff1-12ff2 1801 6d4 701-702 1362 1803 1809 166e 1b5c 2cf9 2cfe",
        "2e30 2e3c a4ff a60e a6f3 16af5 16e98 1bc9f 3002 b7 2e31 2e33 964-965 a8ce-a8cf",
        "1c3b-1c3c a876-a877 1735-1736 a92f 104a-104b 17d4-17d5 1aa8-1aab 1b5e-1b5f a9c8-a9c9",
        "aa5d-aa5f aaf0 abeb 10a56-10a57 11047-11048 110c0-110c1 11141-11142 111c5-111c6",
        "11238-11239 1144b-1144c 115c2-115c3 11641-11642 1173c-1173d 11944 11c41-11c42",
        "16a6e-16a6f 1c7e-1c7f 700 7f7 10fb 1360 1368 1a1e-1a1f 1b5a-1b5b a9c1-a9c6 a9ca-a9cd",
        "a6f2 a95f 10857 10b3a-10b3f 10f55-10f59 10f86-10f89 110be-110bf 11140 111c8 111de-111df",
        "112a9 1173e 11946 11ef7-11ef8 11f43-11f4f 2055-2056 2058-205e 2e2a-2e2d 2e3d 2cfc 2cff",
        "2e19 1093f 10100-10102 1039f 103d0 1091f 12470-12474"]),
    ('\x27', ["2039-203a"]),
    ('"', ["301d ab bb"]),
    ('\x7d',
      [ "f3a-f3d 169b-169c 2045-2046 2308-230b 29fc-29fd 2983-2998 27c5-27c6 27e6-27ef 2768-2775",
        "2e02-2e05 2e09-2e0a 2e0c-2e0d 2e1c-2e1d 2e20-2e29 2e55-2e5c 3008-3011 3014-301b",
        "fd3e-fd4f fdcf 2016 2e3e 29d8-29db a7 2e39 b6 204b 2e4d 2e3f"]),
    ('*', ["204e 2051 66d a673"]),
    ('\\', ["2e4a"]),
    ('&', ["204a 2e52"]),
    ('%',
      [ "66a 2030 609 2031 60a 2020-2021 2e36-2e38 2e4b 2022-2023 2027 2043 204c-204d 2032 2035",
        "3003 303d 2038 203b 203f 2054 2040 2050 2041-2042 2e00-2e01 2e06-2e08 2e0b 2e0e-2e16",
        "2e1a-2e1b 2e1e-2e1f 2e44-2e48 a67e 55a-55b 55f 5be 5c0 5c3 5c6 5f3-5f4 70a-70d 85e 1800",
        "11660-1166c 970 a8f8-a8fa a8fc 9fd a76 af0 c77 c84 df4 e4f e5a-e5b aade-aadf f04-f0a",
        "fd0-fd1 f0b f0d-f12 f85 fd2-fd4 fd9-fda 11a3f-11a46 11a9a-11a9c 11a9e-11aa2 11c70-11c71",
        "1c3d-1c3f 104c-104f 17d8-17da 1aa0-1aa6 1aac-1aad 1cc0-1cc7 2d70 a874-a875 1bfc-1bff",
        "a92e a9de-a9df aa5c 1056f 11049-1104d 10a50-10a55 10a58 11c43-11c45 10b39 10af0-10af6",
        "10b99-10b9c 110bb-110bc 11174-11175 111cd 111c7 111db 111dd 1123a-1123d 1123f-11240",
        "1144d 1145a 1144e-1144f 1145b 1145d 114c6 115c1 115c4-115d7 11643 1183b 11945 119e2",
        "11fff 16b37-16b3b 16b44 16e99-16e9a 1da87-1da8b"]),
    ('\x60', ["b4 2dc"]),
    ('^',
      [ "af 2d8-2d9 a8 2da 2dd b8 2db 1fbd 1ffe 1fc0 309b-309c 2b9 375 2ba 2c2-2cf 2d2-2d5",
        "ab6a-ab6b 2d6-2d7 2de-2df 2e5-2ed 2ef-2ff 1390-1399 a700-a721 a788-a78a ab5b b0 482",
        "58d-58e 608 1eef0-1eef1 60e-60f 6de 6e9 fdfd-fdff fbb2-fbc2 7f6 9fa b70 bf3-bf8 bfa",
        "11fd5-11fdc 11fe1-11ff1 c7f d4f d79 a828-a82b a836-a837 a839 f01-f03 f13 f15-f17",
        "f1a-f1f f34 f36 f38 fbe-fc5 fc7-fcc fce-fcf fd5-fd8 166d 1940 109e-109f aa77-aa79",
        "1173f-11746 19e0-19ff 1b61-1b6a 1b74-1b7e a9 1f12f ae 1f1ad 2104 2108 2114 2117-2118",
        "211e-211f 2123 2125 2127 2129 212e 213a 2141-2144 214a 214c 214f 218a-218b 2190 2192",
        "2191 2193-2199 219c-21ad 21af-21cc 21d0-2203 2205-2208 220a-220b 220d 3f6 220e-2211"]),
    ('+', ["b1 f7 d7"]),
    ('>', ["ac"]),
    ('|', ["a6"]),
    ('~',
      [ "2212 2052 2213-2215 2044 2216-221b 606 221c 607 221d-2223 2225 2227-222b 222e 2231-2240",
        "2242-2243 2245-2246 2248 224a-225f 2261 2263-226c 2272-2273 2276-2277 227a-227f",
        "2282-2283 2286-2287 228a-22ab 22b0-22bc 214b 22bd-22df 22e4-22e9 22ee-2307 230c-2328",
        "232b-2426 2440-244a 2500-25ff 1fb00-1fb92 1fb94-1fbca 2600-262f 2638-266c 2670-2689",
        "2690-26ff 1f1e6-1f1ff 2700-2720 2e50-2e51 2721-2767 2794-27c4 27c7-27e5 27f0-27ff",
        "2900-2982 2999-29d7 29dc-29fb 29fe-2a0b 2a0d-2a73 2a77-2adb 2add-2b73 2b76-2b95",
        "2b97-2bff 2ce5-2cea 2800-28ff 268a-268f 2630-2637 4dc0-4dff 1d300-1d356 a490-a4c6",
        "10137-1013f 10179-10189 1018c-1018e 10190-1019c 101a0 101d0-101fc 10877-10878",
        "16b3c-16b3f 16b45 1e14f 1d000-1d0f5 1d100-1d126 266d-266f 1d12a-1d139 1d129 1d13a-1d15d",
        "1d16a-1d16c 1d183-1d184 1d18c-1d1a9 1d1ae-1d1ba 1d1c1-1d1e8 1cf50-1cfc3 1d1e9-1d1ea",
        "1d200-1d241 1d245 1bc9c 1ecac 1ed2e 1f000-1f02b 1f030-1f093 1f0a0-1f0ae 1f0b1-1f0bf",
        "1f0c1-1f0cf 1f0d1-1f0f5 1fa00-1fa53 1fa60-1fa6d 1f10d-1f10f 1f16d-1f16f 1f260-1f265",
        "1f300-1f5ff 1f900-1f9ff 1fa70-1fa7c 1fa80-1fa88 1fa90-1fabd 1fabf-1fac5 1face-1fadb",
        "1fae0-1fae8 1faf0-1faf8 1f600-1f6d7 1f6dc-1f6ec 1f6f0-1f6fc 1f700-1f776 1f77b-1f7d9",
        "1f7e0-1f7eb 1f7f0 1f800-1f80b 1f810-1f847 1f850-1f859 1f860-1f887 1f890-1f8ad",
        "1f8b0-1f8b1 1d800-1d9ff 1da37-1da3a 1da6d-1da74 1da76-1da83 1da85-1da86 2ff0-2ffb",
        "31c0-31e3 3004 3012-3013 3020 3037 303e-303f 3190-3191 327f fffc 10a7f 2d0-2d1 971 e46",
        "ec6 17d7 1aa7 a9cf a9e6 aa70 aadd aaf3-aaf4 16b42-16b43 1e13c-1e13d 3005 303b",
        "16fe0-16fe1 16fe3 3031 3033 3035 309d 30fc-30fd a4 a2"]),
    ('$',
      [ "a3 a5 58f 60b 7fe-7ff 9f2-9f3 9fb af1 a838 bf9 11fdd-11fe0 e3f 17db 1e2ff 20a0-20a6",
        "20a9-20b9 1ecb0 20ba-20c0"]),
    ('9',
      [ "9f4-9f9 b72-b77 a830-a835 bf0-bf2 11fc0-11fd4 d58-d5e d70-d78 1372-137c 2180-2182",
        "2186-2188 10e69-10e7e 2cfd 10322-10323 10cfc-10cff 10110-10133 10140-10141 10144-10147",
        "10149-1014e 10150-10157 10160-10172 10174-10178 1018b 102ea-102fb 103d3-103d5",
        "1087e-1087f 108ad-108af 108fd-108ff 10a7e 10a9e-10a9f 10917-10919 1085b-1085f",
        "10aed-10aef 10b5c-10b5f 10b7c-10b7f 10bad-10baf 10f22-10f26 10f52-10f54 10fc9-10fcb",
        "1173a-1173b 1105b-11065 11071-11072 11075 10a44-10a48 11c63-11c6c 111ea-111f4",
        "118ea-118f2 16b5b-16b61 16e8a-16e93 1d2ea-1d2f3 1ec7a-1eca2 1ecad-1ecaf 1ecb3-1ecb4",
        "1ed0a-1ed2d 1ed37-1ed3d 109c9-109cf 109d2-109f5 109bd 109f6-109ff 109bc 12432-12433",
        "1245a-12468 1d369-1d371 1d2c0-1d2d3"]),
    ('a', ["1d00 2c65 1d8f a7bb 1d01-1d02 ab31 250-251 ab30 1d90 252 ab64"]),
    ('b', ["299 180 1d2f 1d03 1d6c a797 1d80 253 183 a7b5"]),
    ('c', ["1d04 23c a793-a794 188 255 2184 a73f"]),
    ('d', ["1d05-1d06 a7c8 1d6d 1d81 256-257 1d91 18c 221 a771 1e9f"]),
    ('e',
      [ "1d07 ab32-ab33 247 1d92 ab34 2c78 1dd 2c7b 259 1d95 25b 1d93 258 25a 25c 1d94 1d08",
        "25d-25e 29a 264"]),
    ('f', ["a730 ab35 a799 1d6e 1d82 192 214e a7fb"]),
    ('g', ["261 ab36 262 1e5 1d83 260 29b 1d77 a77f 263 1a3 a7d1"]),
    ('h', ["29c 195 a795 266 2c68 2c76 a7f6 a727 267 2bb 2bd"]),
    ('i', ["131 26a a7fe a7f7 1d09 268 1d7b 1d96 a7bd 269 1d7c"]),
    ('j', ["237 1d0a 249 29d 25f 284"]),
    ('k', ["1d0b 1d84 199 2c6a a741 a743 a745 29e"]),
    ('l',
      [ "29f a747 1d0c a749 19a 2c61 26b ab38-ab39 26c ab37 1d85 26d a78e 234 a772 26e a781 19b",
        "28e"]),
    ('m', ["1d0d 1d6f 1d86 271 ab3a a7fd a7ff a773"]),
    ('n', ["274 1d3b 1d0e 1d70 272 19e a791 1d87 273 235 ab3b a774 14b ab3c"]),
    ('o',
      [ "1d0f 1d11 ab3d 276 1d14 ab41-ab42 ab40 ab43-ab44 1d13 ab3e 254 1d10 1d12 ab3f 1d97 ab62",
        "a74d 1d16-1d17 2c7a 275 a74b 277 a7b7 223 a7c1 1d15"]),
    ('p', ["1d18 1d7d a751 1d71 1d88 1a5 a753 a755 a7fc 278 2c77"]),
    ('q', ["a7af a757 a759 2a0 24b 138"]),
    ('r',
      [ "ab45 280 ab46 a75b 1d19 24d 1d72 279 1d1a 27a 1d89 27b 2c79 27c-27d ab49 27e 1d73 27f",
        "ab47-ab48 ab4a-ab4c 281 ab68 a775-a776 a75d"]),
    ('s', ["a731 a7ca 1d74 1d8a 282 23f 1e9c-1e9d 283 ab4d 1d8b 1aa 285 1d98 286 a7d7 a7d9"]),
    ('t', ["1d1b 167 2c66 1d75 1ab 1ad 288 236 a777 287"]),
    ('u',
      [ "1d1c ab4e 1d1d-1d1e 1d6b ab50-ab51 289 ab4f a7b9 1d7e 1d99 ab52 a7bf 265 2ae-2af 26f",
        "a7fa 1d1f 270 28a 1d7f"]),
    ('v', ["1d20 a75f 1d8c 28b 2c71 2c74 1efd 28c"]),
    ('w', ["1d21 a7c3 2c73 28d"]),
    ('x', ["1d8d ab56-ab59 ab53-ab55"]),
    ('y', ["28f 24f 1b4 1eff ab5a 21d"]),
    ('z',
      [ "1d22 1b6 1d76 1d8e 225 290-291 240 2c6c a763 292 1d23 1b9 1d9a 1ba 293 fe a7d3 a7d5",
        "a765 a767 1bf a769 ab60-ab61 ab63 a76b a76d a76f a778 1bb a72b a72d a72f 1a8 1bd 185",
        "294 242 2c0 2bc 2ee 2be a723 a78c a78f 295 2bf 2c1 1d24-1d25 a725 2a1-2a2 1df00-1df1e",
        "1df25-1df2a 296 1c0-1c3 297-298 2ac-2ad 3b1-3b3 1d26 3b4-3b5 3dd 377 3db 3b6 371",
        "3b7-3b9 3f3 3ba-3bb 1d27 3bc-3c0 1d28 3fb 3df 3d9 3c1 1d29 3fc 3c3 37c 37b 37d 3c4-3c8",
        "1d2a 3c9 ab65 3e1 373 3f8 2c81 2c83 2c85 2c87 2c89 2cb7 2c8b 2c8d 2c8f 2c91 2c93 2c95",
        "2cb9 2c97 2c99 2c9b 2cbb 2cbd 2c9d 2c9f 2ca1 2ca3 2ca5 2ca7 2ca9 2cab 2cad 2caf 2cb1",
        "2cbf 2cc1 3e3 2cec 2cc3 2cc5 2cc7 3e5 3e7 2cf3 2cc9 3e9 2ccb 2ccd 2ccf 2cd1 2cd3 2cd5",
        "3eb 2cee 2cd7 3ed 2cd9 2cdb 2cdd 3ef 2cb3 2cb5 2cdf 2ce1 2ce3 430 4d9 4d5 431-433 493",
        "4fb 495 4f7 434 501 a681 452 a663 503 499 435 454 436 52b a685 497 437 a641 505 511",
        "a643 455 a645 4e1 a689 507 a683 438 48b 456 a647 439 458 a649 43a 49b 4c4 4a1 49f 49d",
        "51f 51b 43b 1d2b 4c6 52f 513 521 459 a665 509 515 43c 4ce a667 43d 529 4ca 4a3 4c8 523",
        "4a5 45a 50b 43e 4e9 43f 525 4a7 481 440 48f 517 441 50d 4ab 442 a68d 50f 4ad a68b 45b",
        "443 4af 4b1 a64b 479 444-445 4fd 4ff 4b3 4bb 527 a695 461 47f a64d 47d 47b 446 a661",
        "a68f 4b5 a691 447 52d a693 4b7 4cc 4b9 a687 4bd 4bf 45f 448 a697 449 a64f 2e2f a67f 44a",
        "a651 44b-44c 48d 463 a653 44d-44e a655 a657 44f 519 465 467 a659 46b a65b 469 a65d 46d",
        "46f 471 473 475 a65f 4a9 51d 4cf 2c30-2c5f 10350-10375 10d0 2d00 10d1 2d01 10d2 2d02",
        "10d3 2d03 10d4 2d04 10d5 2d05 10d6 2d06 10f1 2d21 10d7 2d07 10d8 2d08 10d9 2d09 10da",
        "2d0a 10db 2d0b 10dc 2d0c 10f2 2d22 10dd 2d0d 10de 2d0e 10df 2d0f 10e0 2d10 10e1 2d11",
        "10e2 2d12 10f3 2d23 10e3 2d13 10e4 2d14 10e5 2d15 10e6 2d16 10e7 2d17 10e8 2d18 10e9",
        "2d19 10ea 2d1a 10eb 2d1b 10ec 2d1c 10ed 2d1d 10ee 2d1e 10f4 2d24 10ef 2d1f 10f0 2d20",
        "10f5 2d25 10f6-10f7 2d27 10f8-10fa 10fd 2d2d 10fe-10ff 561 560 562-575 588 576-586 559",
        "5d0-5d9 5db-5dc 5de 5e0-5e2 5e4 5e6-5ea 10900-10915 800-817 81a-81b 621-623 672 671",
        "624-625 673 773-774 626 8a8-8a9 8ac 627 66e 628 67b 67e 680 750-755 8a0 756 8be 8a1",
        "8b6-8b7 629-62b 679-67a 67c-67d 67f 8b8 8bf-8c0 62c 683-684 686 6bf 687 8a2 8c1 8c5-8c6",
        "62d-62e 681-682 685 757-758 76e-76f 772 77c 62f-630 688-68d 8ae 68e-690 6ee 759-75a",
        "631-632 691-699 6ef 75b 76b-76c 771 8aa 8b2 8b9 633-634 69a-69c 6fa 75c 76d 770 77d-77e",
        "635-636 69d 8af 69e 6fb 637-638 69f 8a3 639-63a 6a0 8c3 6fc 75d-75f 8b3 641 6a1-6a2 8bb",
        "6a3-6a4 8a4 6a5-6a6 760-761 66f 642 6a7 8bc 6a8 8c4 8a5 643 6a9-6ac 77f 6ad-6ae 8b4",
        "870-887 889-88e 8b5 6af 8b0 6b0-6b4 762 63b-63c 763-764 8c2 644 6b5-6b8 76a 8a6 8c7-8c9",
        "645 765-766 8a7 646 6ba 8bd 6bb-6bd 6b9 767-769 647 6be 6c1 6c3 6ff 6d5 648 6c4-6cb 8b1",
        "6cf 778-779 8ab 649-64a 6cc-6ce 6d0-6d1 63d-63f 620 775-777 8ba 6d2 77a-77b 710 712-713",
        "716 715 717-719 74d 71a-71b 71d-71f 74e 720-723 725-726 74f 728-72c 860-86a 840-858 780",
        "799-79a 781-783 79c 784-787 7a2-7a3 788 7a5 789-78b 79b 78c 798 7a0-7a1 78d-78e 7a4",
        "78f-790 79d-79f 791-797 7b1 7a6-7b0 7ca-7e7 7f4-7f5 2d30-2d3b 2d66 2d3c-2d53 2d67",
        "2d54-2d65 2d6f 1200-120f 2d80 1210-121f 1380-1383 2d81 1220-122f 2d82 1230-1237 2d83",
        "ab01-ab06 1238-123f 2d84 1240-1248 124a-124d 1250-1256 1258 125a-125d 1260-1267",
        "1384-1387 2d85 1268-1277 2d86 1278-127f 2d87 1280-1288 128a-128d 1290-1297 2d88",
        "1298-129f 2d89 12a0-12a7 2d8a 12a8-12b0 12b2-12b5 12b8-12be 12c0 12c2-12c5 12c8-12d6",
        "12d8-12df 2d8b ab11-ab16 12e0-12f7 2d8c ab09-ab0e 12f8-12ff 2d8d 1300-1307 2d8e",
        "1308-1310 1312-1315 1318-131f 2d93-2d96 1320-1327 2d8f 1328-132f 2d90 ab20-ab26",
        "1330-1337 2d91 1338-133f ab28-ab2e 1340-134f 1388-138b 1350-1357 138c-138f 2d92",
        "1358-135a 1e7e0-1e7e6 1e7e8-1e7eb 1e7ed-1e7ee 1e7f0-1e7fe 2da0-2da6 2da8-2dae 2db0-2db6",
        "2db8-2dbe 2dc0-2dc6 2dc8-2dce 2dd0-2dd6 2dd8-2dde 950 a8fd 972 904-906 973-977 907-90b",
        "960 90c 961 90d-910 a8fe 911-917 97b 918-91c 979 97c 91d-920 978 921 97e 922-928",
        "92a-92c 97f 92d-92f 97a 930 932-933 935-939 93d 97d 1ce9 1cf5-1cf6 a8f2 a8fb 93e",
        "93a-93b 94f 956-957 93f-944 962-963 945 955 946-947 94e 948 a8ff 949-94d 980 985-98b",
        "9e0 98c 9e1 98f-990 993-9a8 9aa-9b0 9f0 9b2 9f1 9b6-9b9 9bd-9c4 9e2-9e3 9c7-9c8 9cb-9cd",
        "9d7 9fc a74 a73 a09-a0a a13 a05-a06 a10 a14 a72 a07-a08 a0f a38-a39 a51 a15-a28 a2a-a2f",
        "a75 a30 a32 a35 a5c a3e-a42 a47-a48 a4b-a4d ad0 a85-a8b ae0 a8c ae1 a8d a8f-a91 a93-a9c",
        "af9 a9d-aa8 aaa-ab0 ab2 ab5-ab9 ab3 abd-ac4 ae2-ae3 ac5 ac7-ac9 acb-acd b05-b0b b60 b0c",
        "b61 b0f-b10 b13-b28 b2a-b2f b5f b30 b32-b33 b35 b71 b36-b39 b3d-b44 b62-b63 b47-b48",
        "b4b-b4d b56-b57 bd0 b85-b8a b8e-b90 b92-b94 b83 b95 b99-b9a b9e-b9f ba3-ba4 ba8 baa",
        "bae-bb0 bb2 bb5 bb4 bb3 bb1 ba9 b9c bb6-bb9 bbe-bc2 bc6-bc8 bca-bcd bd7 c05-c0b c60 c0c",
        "c61 c0e-c10 c12-c1a c58 c1b-c1c c59 c1d-c28 c2a-c32 c35-c39 c33-c34 c5a c5d c3d-c44",
        "c62-c63 c46-c48 c4a-c4d c55-c56 c85-c8b ce0 c8c ce1 c8e-c90 c92-ca8 caa-cb2 cb5-cb9 cb3",
        "cde cbd cf1-cf3 c80 cbe-cc4 ce2-ce3 cc6-cc8 cca-ccd cd5-cd6 cdd d05-d08 d5f d09-d0b d60",
        "d0c d61 d0e-d10 d12-d30 d32 d35-d39 d33-d34 d31 d3a d3d d04 d3e-d44 d62-d63 d46-d48",
        "d4a-d4c d57 d4d d85-d96 d9a-db1 db3-dbb dbd dc0-dc6 dcf-dd4 dd6 dd8 df2 ddf df3 dd9-dde",
        "dca aaf2 abc0-abda aae0-aaea abe3-abea aaeb-aaef aaf5 abdb-abe2 abed aaf6 a800-a806",
        "a82c a807-a80a a80c-a827 a882-a8c4 11083-11099 1109b 1109d-110aa 110ac-110b9",
        "11150-1116f 11176 11170-11172 111c4 111da 11183-111b2 111c1-111c3 111dc 111b3-111bc",
        "111ce 111bd-111c0 11200-11211 11213-11233 11235 112b0-112de 112e0-112e8 112ea",
        "11280-11283 112a5-112a6 11284-11286 11288 1128a-1128d 1128f-1129d 1129f-112a4",
        "112a7-112a8 11350 11305-1130b 11360 1130c 11361 1130f-11310 11313-11328 1132a-11330",
        "11332-11333 11335-11339 1133d 1135e-1135f 1133e-11344 11362-11363 11347-11348",
        "1134b-1134d 11357 1135d 11449-1144a 11400-11434 11447 11460-11461 11448 1145f",
        "11435-11442 114c7 11480-114af 114c4-114c5 114b0-114be 114c2 11580-115b5 115b8-115bb",
        "115bf 11600-1163c 1163f 11644 11680-11689 116a8 116a7 116a9 1168a-1168b 116b8",
        "1168c-116a6 116aa 116ad-116b6 11900-11906 11909 1190c-11910 1193f 11911-11913",
        "11915-11916 11918-11925 11940 11926 11941 11927 11942 11928-11935 11937-11938",
        "1193d-1193e 119a0-119a7 119aa-119d0 119e1 119e3 119d1-119d7 119da 119e4 119db-119dd",
        "119e0 11800-11836 11839 11700-11704 11706-11715 11717-11719 11720-1172b 1171d-1171f",
        "11d00-11d06 11d08-11d09 11d0b-11d36 11d3a 11d3c-11d3d 11d3f 11d44-11d45 11d98",
        "11d60-11d65 11d67-11d68 11d6a-11d8e 11d90-11d91 11d93-11d94 11d97 1b83-1b8a 1bae",
        "1b8b-1b98 1bbd 1b99 1bac 1b9a 1ba1 1b9b 1ba2 1bbb 1b9c 1ba3 1bbc 1b9d 1bad 1b9e-1b9f",
        "1baf 1ba0 1ba4-1bab 11005-11033 11003-11004 11034-11046 1107f 10a00-10a03 10a05-10a06",
        "10a0c 10a10 10a32 10a11-10a13 10a15-10a17 10a19-10a1a 10a34 10a1b 10a33 10a1c-10a2c",
        "10a35 10a2d-10a31 10a3f 11c00-11c08 11c0a-11c2e 11c40 11c2f-11c36 11c38-11c3b 11c3f",
        "e01-e3a e40-e45 ede e81-e82 e84 e86-e89 eaa e8a e8c e8e edf e8d e8f-ea3 ea5 ea7-ea9",
        "eab-ebd ec0-ec4 aa80-aabe aac0 aac2 aadb-aadc f40 f90 f6b f41 f91 f42 f92 f44 f94 f45",
        "f95 f46 f96 f47 f97 f49 f99 f4a f9a f4b f9b f4c f9c f4e f9e f4f f9f f50 fa0 f51 fa1 f53",
        "fa3 f54 fa4 f55 fa5 f56 fa6 f58 fa8 f59 fa9 f5a faa f5b fab f5d fad f5e fae f5f faf f60",
        "fb0 f61 fb1 f62 fb2 f6c f63 fb3 f64 fb4 f65 fb5 f66 fb6 f67 fb7 f68 fb8 f88 f8d f89 f8e",
        "f8c f8f f8a-f8b f71-f73 f80-f81 f74-f7d f84 11a0b 11a32 11a0c-11a31 11a00-11a0a 11a34",
        "11a47 11a50-11a53 11a59-11a5a 11a54 11a56 11a55 11a57-11a58 11a5b-11a5c 11a83",
        "11a5d-11a82 11a84-11a85 11a99 11a9d 11c72 11c92 11c73 11c93 11c74 11c94 11c75 11c95",
        "11c76 11c96 11c77 11c97 11c78 11c98 11c79 11c99 11c7a 11c9a 11c7b 11c9b 11c7c 11c9c",
        "11c7d 11c9d 11c7e 11c9e 11c7f 11c9f 11c80 11ca0 11c81 11ca1 11c82 11ca2 11c83 11ca3",
        "11c84 11ca4 11c85 11ca5 11c86 11ca6 11c87 11ca7 11c88-11c89 11ca9 11c8a 11caa 11c8b",
        "11cab 11c8c 11cac 11c8d 11cad 11c8e 11cae 11c8f 11caf-11cb4 1c00-1c09 1c4d-1c4f",
        "1c0a-1c1a 1c24 1c1b 1c25 1c1c-1c23 1c36 1c26-1c35 a840-a847 a869-a86c a848-a853 a867",
        "a854-a857 a868 a86d a858 a871-a872 a859-a85a a86e a85b-a85c a86f-a870 a85d a862-a865",
        "a85e-a861 a866 a873 1900-191c 1920-192b 1930-1938 1700-1715 171f-1734 1740-1753",
        "1760-176c 176e-1770 1772-1773 1a00-1a1b 11ee0-11ef6 1bc0 1bc2 1bc5 1bc7 1bc9 1bcb 1bce",
        "1bd0-1bd2 1bd4 1bd6 1bd8 1bdb 1bdd-1bde 1be0-1be5 1be7 1be9-1bea 1bec 1bee 1bf0-1bf3",
        "a930-a953 a90a-a92a 1000 1075 1001 1076 1002 1077 aa60 a9e9 1003 a9e0 a9ea 1004 105a",
        "1005 1078 aa61 1006 a9e1 aa62 aa7e 1007 aa63 a9eb 1079 aa72 1008 105b a9e2 aa64 a9ec",
        "1061 aa7f 1009 107a aa65 a9e7 100a-100b aa66 100c aa67 100d aa68 a9ed 100e aa69 a9ee",
        "100f 106e a9e3 a9ef 1010-1012 107b a9fb 1013 aa6a a9fc 1014 107c aa6b 105e 1015-1016",
        "107d-107e aa6f 108e a9e8 1017 107f a9fd 1018 a9e4 a9fe 1019 105f 101a 103b 101b aa73",
        "aa7a 103c 101c 1060 101d 103d 1082 1080 1050-1051 1065 101e aa6c 101f 1081 aa6d 103e",
        "aa6e aa71 1020 a9fa 105c-105d 106f-1070 1066 1021-1026 1052-1055 1027-102a 102c 1083",
        "1072 109c 102d 1071 102e 1033 102f 1073-1074 1030 1056-1059 1031 1084 1035 1085 1032",
        "109d 1034 1062 1067-1068 a9e5 1086 1039-103a 1063-1064 1069-106d 1087 108b 1088",
        "108c-108d 1089-108a 108f 109a-109b aa7b-aa7d aa74-aa76 10d00 10d1d-10d21 10d01-10d1c",
        "10d22-10d23 11103-11123 11147 11124-11126 11144 11127-11132 11145-11146 11133-11134",
        "1780-17a2 17dc 17a3-17b3 17b6-17c5 17d2 1950-196d 1970-1974 1980-19ab 19b0-19c9",
        "1a20-1a4c 1a53 1a6b 1a55-1a57 1a5c-1a5e 1a4d-1a52 1a61 1a6c 1a62-1a63 1a65-1a6a",
        "1a6e-1a6f 1a73 1a70-1a72 1a6d 1a60 aa00-aa28 aa33-aa36 aa29-aa32 aa40-aa4d 1b05-1b13",
        "1b45-1b46 1b14-1b22 1b47 1b23-1b27 1b48 1b28-1b2f 1b49 1b30-1b32 1b4a-1b4c 1b33",
        "1b35-1b44 a984-a9aa a9be a9ab a9bf a9ad-a9b2 a9b4 a9bc a9b6-a9b9 a9bd a9ba-a9bb a9c0",
        "1880-1886 1843 1820 1887 1821 1844 185d 1822 1845 185e 1873 1888 185f 1823 1846 1824",
        "1847 1861 1825 1848 1826 1849 1860 1827-1829 184a 1862 188a 189b 182a 184b 182b 184c",
        "1866 182c 184d 182d 184e 1864 189a 1865 182e 184f 182f-1831 1867 189c-189d 18a2",
        "18a4-18a5 1832 1850 1868 1833 1851 1869 1834 1852 1871 1878 185c 188b 1835 1853 186a",
        "1877 1836 1855 1872 1837 1875 1838 1856 1839 186b 1876 183a 1857 1863 1874 1889",
        "183b-183c 1854 186e 183d 186f 1858 186c 183e 1859 186d 183f-1842 185a-185b 1870 188c",
        "189e 188d-188e 189f 188f-1890 1898 18a0 1891 18a1 1892-1893 18a8 1894 18a3 1895 1899",
        "1896-1897 18a6-18a7 18aa 18a9 1c5a-1c7d ab70-abbf 13f8-13fd 104d8-104fb 1401-157b 157d",
        "166f 157e-158d 1670 158e-1595 1671-1676 1596-15a6 157c 15a7-166c 1677-167f 18b0-18f5",
        "11ab0-11abf 1681-169a 16a0 16a2 16a6 16a8 16f4 16af-16b2 16f1 16b7 16b9-16ba 16be 16c1",
        "16f5 16c3 16c5 16c7-16ca 16f2 16cf 16d2 16d6 16f6 16d7 16da 16dc 16de-16df 16f3 16aa",
        "16f7 16ab 16f8 16a3 16e0 16e3 16b8 16e4 16e1-16e2 16e5-16e6 10cc0 10cc2-10cc9",
        "10ccc-10cd0 10cd2-10cdb 10cdd 10ce0-10ce2 10ce4-10cea 10cec 10cee-10cf2 10c00",
        "10c02-10c03 10c05-10c07 10c09 10c0b 10c0d 10c0f 10c11 10c13-10c14 10c16 10c18 10c1a",
        "10c1c 10c1e 10c20-10c24 10c26 10c28 10c2a 10c2c-10c2d 10c2f-10c32 10c34 10c36 10c38",
        "10c3a 10c3c-10c3f 10c41 10c43 10c45 10c47-10c48 a500-a60c a6a0-a6ef 16800-16a38",
        "16ad0-16aed 1e800-1e8c4 16e60-16e7f 1e922-1e943 1e94b 1100-115e a960-a97c 115f-11a7",
        "d7b0-d7c6 11a8-11ff d7cb-d7fb 3042 3044 3046 3048 304a-304b 304d 304f 3051 3053 3055",
        "3057 3059 305b 305d 305f 3061 3064 3066 3068 306a-306f 3072 3075 3078 307b 307e-3082",
        "3084 3086 3088-308d 308f-3093 1b002-1b00e 1b001 1b00f-1b122 3105-3107 31ac 3108 312a",
        "3109-310b 312f 310c-310e 312b 31ad 310f-3112 312c 31bc-31bd 3113-3119 31b8-31ba",
        "311a-311b 31a6 311c-311d 31a4 311e-3124 31b2 3125 31b0-31b1 3126-3129 312d 31be-31bf",
        "a000-a48c a4f8-a4fb a4fd a4fc a4d0-a4e9 a4eb a4ed a4ea a4ec 11fb0 a4ee-a4f7 16f00-16f03",
        "16f45 16f04-16f05 16f07-16f0d 16f48 16f0e-16f0f 16f4a 16f10-16f12 16f14-16f24",
        "16f26-16f32 16f47 16f33 16f46 16f34-16f39 16f49 16f3a-16f3e 16f40-16f44 16f50-16f53",
        "16f4f 16f54-16f58 16f81 16f59-16f5c 16f83 16f5d-16f60 16f84 16f61-16f65 16f86",
        "16f66-16f6d 16f7f 16f87 16f6e-16f72 16f80 16f73-16f74 16f85 16f82 16f75-16f7e",
        "16f8f-16f9f 118ff 118c0-118df 11ad5-11adb 11ac0-11ad4 11adc-11add 11adf-11ae3 11ade",
        "11ae4 11aef 11af2 11af1 11ae6 11ae9 11ae5 11ae8 11af4 11af7 11af3 11af6 11aec 11aee",
        "11aeb 11aed 11af5 11af8 11ae7 11aea 11af0 16b00-16b2f 16b40-16b41 16b63-16b77",
        "16b7d-16b8f 1e100-1e12c 1e137-1e13b 1e14e 1e2c0-1e2eb 10280-1029c 102a0-102d0",
        "10920-10939 10300-1030e 1031f 1030f-1031e 1032d-1034a 10428-1047f 1bc00-1bc6a",
        "1bc70-1bc7c 1bc80-1bc88 1bc90-1bc99 10480-1049d 10500-10527 10530-10563 110d0-110e8",
        "16a40-16a5e 10000-1000b 1000d-10026 10028-1003a 1003c-1003d 1003f-1004d 10050-1005d",
        "10080-100fa 10600-10736 10740-10755 10760-10767 10780 10800-10805 10808 1080a-10835",
        "10837-10838 1083c 1083f 10a60-10a7c 10a80-10a9c 10b00-10b2d 10b2f-10b35 10860-1086c",
        "1086e-10876 10881 10883-10885 10887-1088b 1088d 1088f 10891 10893 10895-1089b",
        "1089d-1089e 108e0-108f2 108f4-108f5 10840-10855 10b40-10b55 10b60-10b72 10b80-10b91",
        "10fe0-10ff5 10ac0-10ac7 10ac9-10ae4 10f00 10f02 10f04-10f05 10f07-10f0e 10f11-10f12",
        "10f14-10f15 10f18-10f1a 10f30-10f44 10e80-10ea0 10eb0 10ea1-10ea8 10eb1 10ea9",
        "10fb0-10fc4 10380-1039d 103a0-103c3 103c8-103cf 12000-12262 122d4-122d5 12263-122d3",
        "122d6-12399 12480-12543 13000-1342f 109a0-109af 109b1-109b7 109be-109bf 1099e-1099f",
        "14400-14646 fffd 10597-105a1 105a3-105b1 105b3-105b9 105bb-105bc 10f70-10f81",
        "11f00-11f10 11f12-11f3a 11f3e-11f42 12f90-12ff0 16a70-16abe 1aff0-1aff3 1aff5-1affb",
        "1affd-1affe 1e290-1e2ad 1e4d0-1e4ef"])]

/-- How far apart the characters of ASCII are. -/
def gap : Nat := 0x1000000

/-- The place of a character of ASCII; there is room before the first one. -/
def plainPlace (position : Nat) : Nat := (position + 1) * gap

/-- The places of the characters between those of ASCII. -/
def placesBetween : CharTable Nat :=
  CharTable.ofList <| between.flatMap fun (start, lines) =>
    let place := plainPlace (plain.idxOf start)
    (Run.characters lines).zipIdx.map fun (c, offset) => (c, place + offset + 1)

/-- The kinds of characters behind all other letters, in order: Tangut, Nushu, Khitan, Han
characters, rare Han characters. -/
def lastScripts : List (List Run) :=
  [ ["17000-18aff 18d00-18d7f"], ["1b170-1b2fb"], ["18b00-18cd5"],
    ["3400-4dbf 4e00-9fa5 20000-2a6df"],
    ["9fa6-9fff fa0e-fa0f fa11 fa13-fa14 fa1f fa21 fa23-fa24 fa27-fa29 2a700-2b739 2b740-2b81d",
      "2b820-2cea1 2ceb0-2ebe0 2ebf0-2ee5d 30000-3134a 31350-323af"]].map Run.ofLines

/-- Characters that come behind all others. -/
def greatest : List Char := ['\ufffd', '\uffff']

/-- The place of a character that is not between those of ASCII. It is of one of the last scripts or
of none; within a script its order decides, or else the code point. -/
def placeAtEnd (c : Char) : Nat :=
  let kind := match greatest.idxOf? c with
    | some position => lastScripts.length + 1 + position
    | none => lastScripts.findIdx (·.any (·.contains c))
  plainPlace plain.length + kind * 0x200000 + (hanPlaces.get? c).getD c.toNat

/-- The place of a character that is no form of another one. -/
def rank (c : Char) : Nat :=
  match plain.idxOf? c with
  | some position => plainPlace position
  | none => if c = '\ufffe' then 0 else (placesBetween.get? c).getD (placeAtEnd c)

end OperationLint.Collation
