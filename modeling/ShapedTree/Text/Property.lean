import ShapedTree.Text.Category
import ShapedTree.Text.Script

namespace ShapedTree

/-- A yes-or-no property: its names, its categories and the runs where it differs from them, as
gap and length. -/
structure BinaryProperty where
  names : List String
  categories : List Nat
  differences : List (Nat × Nat)

namespace BinaryProperty

/-- A point lies in one of the runs, which follow one another as gap and length. -/
def inRuns : List (Nat × Nat) → Nat → Bool
  | [], _ => false
  | (gap, length) :: runs, n =>
    if n < gap then false
    else if n < gap + length then true
    else inRuns runs (n - (gap + length))

/-- A code point has the property. -/
def holds (p : BinaryProperty) (n : Nat) : Bool :=
  p.categories.contains (Category.ofCode n) != inRuns p.differences n

/-- A property from the lines of its table. -/
def ofLines (names : List String) (categories : List Nat) (lines : List String) : BinaryProperty :=
  ⟨names, categories, Table.pairs (Table.numbers lines)⟩

/-- The yes-or-no properties. -/
def all : List BinaryProperty := [
  ofLines ["ASCII_Hex_Digit", "AHex"] []
    ["48 10 7 6 26 6"],
  ofLines ["Alphabetic", "Alpha"] [0, 1, 2, 3, 4, 9]
    ["837 1 618 14 1 1 1 2 1 2 1 1 72 11 48 13 1 7 16 1 101 7 4 4 2 2 4 1 35 1 30 16 102 11 101 2 3",
     "9 1 3 1 4 167 12 3 7 6 20 54 2 2 15 1 2 5 3 10 2 29 3 58 7 2 2 2 2 10 1 10 2 29 3 58 5 4 2 2",
     "2 4 1 30 2 3 1 11 3 58 8 1 3 1 2 21 2 22 3 4 3 58 7 2 2 2 2 9 2 10 2 30 1 59 5 3 3 1 3 10 1",
     "40 5 57 7 1 3 1 3 8 2 11 2 29 3 58 7 1 3 1 3 8 2 11 2 15 1 12 4 58 7 1 3 1 3 10 1 10 2 29 3",
     "75 6 1 1 1 8 18 2 61 1 2 7 18 1 99 1 2 6 1 2 16 1 163 19 9 11 1 36 110 12 1 1 2 4 23 4 4 3 1",
     "3 2 7 3 4 13 12 1 1 10 4 1652 2 30 2 30 2 30 2 66 19 188 2 34 1 118 12 4 9 222 5 57 10 2 20",
     "74 2 11 3 49 5 48 15 60 3 30 9 2 2 57 11 50 19 432 14 1729 52 2294 32 30836 8 34 2 354 1 8 1",
     "23 5 88 2 50 16 1 1 57 1 38 5 28 12 45 4 48 12 37 1 67 14 12 1 8 2 45 3 50 1 1 3 2 2 5 1 44 5",
     "5 1 237 8 20275 1 2135 5 1670 3 1 2 5 4 788 4 387 2 339 3 53 14 45 2 11 3 45 9 9 1 61 3 36 12",
     "18 2 57 3 48 13 14 2 92 9 2 1 6 1 2 1 157 10 23 4 58 7 2 2 2 2 10 1 10 2 209 13 1 3 106 18",
     "237 7 2 7 29 2 82 15 1 1 106 11 103 14 257 13 247 6 1 2 2 2 3 1 1 1 142 7 2 6 4 1 28 10 42 5",
     "1 4 18 11 46 14 407 8 1 7 83 22 1 14 122 6 3 1 1 2 1 3 1 1 3 1 66 5 1 2 1 4 348 4 9 2 1 1 48",
     "7 3 3 20494 1 1 55 7 4 93 2 19628 1 9057 7 1 17 2 7 1 2 1 5 100 1 2231 1 2024 26 6 26 6 26"],
  ofLines ["Bidi_Control", "Bidi_C"] []
    ["1564 1 6641 2 26 5 55 4"],
  ofLines ["Bidi_Mirrored", "Bidi_M"] []
    ["40 2 18 1 1 1 28 1 1 1 29 1 1 1 45 1 15 1 3710 4 1885 2 2460 2 10 2 54 2 14 2 177 1 192 4 3 6",
     "3 1 3 2 3 4 1 4 1 1 1 1 4 9 5 1 1 18 5 4 9 2 1 1 1 8 2 31 2 4 5 1 9 2 2 19 5 2 9 5 2 2 4 24 2",
     "16 8 4 20 2 7 2 1085 14 74 1 2 4 1 2 1 3 5 4 5 3 3 14 403 22 2 6 1 14 8 1 7 6 3 1 4 5 1 2 2 5",
     "4 1 1 3 2 2 10 6 2 2 12 19 1 4 2 1 1 1 2 1 1 4 5 2 6 3 24 2 11 2 4 4 1 2 2 2 4 43 2 8 1 40 5",
     "1 1 1 3 5 5 3 4 1 3 5 1 1 256 1 515 4 3 2 1 2 14 2 2 10 43 8 427 10 2 8 52797 6 5 2 162 2 18",
     "1 1 1 28 1 1 1 29 1 1 1 1 2 1 2 55159 1 57 1 57 1 57 1 57 1"],
  ofLines ["Case_Ignorable", "CI"] [5, 7, 26, 3, 20]
    ["39 1 6 1 11 1 124 1 719 1 471 1 148 1 6691 2 10 1 2 1 56811 1 62 1 2 1 177 1 6 1 11 1"],
  ofLines ["Cased"] [0, 1, 2]
    ["170 1 15 1 501 9 7 2 30 5 96 1 52 1 3457 1 3119 63 13 1 34 37 689 1 13 1 16 13 195 32 822 52",
     "1938 2 31262 2 210 1 129 3 3 2 866 4 9 1 23574 1 2 3 1 42 1 9 55413 62 4290 26 6 26 6 26"],
  ofLines ["Changes_When_Casefolded", "CWCF"] [0]
    ["181 1 41 1 105 1 53 1 69 1 2 1 2 1 38 1 338 1 124 1 13 7 25 2 3 1 401 1 3608 86 2 6 2178 9",
     "529 2 228 48 2 3 2 1 4 1 5 3 2 1 4 1 37 3 2 1 4 1 261 1 4 1 3 3 2 3 2 1 3 5 6 1 3 1 3 2 2 2 1",
     "1 10 2 5 1 26 16 838 26 34464 80 20288 7 12 5 55528 26 26 26 26 26 26 1 1 2 2 1 2 2 2 4 1 8",
     "26 26 26 2 1 4 2 8 1 7 27 2 1 4 1 5 1 1 3 7 27 26 26 26 26 26 26 26 26 26 26 26 30 25 33 25",
     "33 25 33 25 33 25 33 1"],
  ofLines ["Changes_When_Casemapped", "CWCM"] [0, 1, 2]
    ["312 1 84 1 13 1 14 2 14 1 3 1 98 1 18 6 27 1 2 1 1 1 2 3 2 1 1 1 2 1 5 2 1 1 2 2 1 7 1 2 1 1",
     "2 3 6 5 1 1 1 8 2 17 149 1 140 3 39 1 355 1 39 1 6007 44 63 13 2 3 1 16 1 12 257 2 1 1 610 1",
     "4 1 2 10 1 1 3 5 6 1 3 1 3 2 1 3 1 2 4 1 2 4 5 5 22 32 822 52 1927 1 2 1 2 5 104 1 31307 2 63",
     "8 21 1 6 1 25 1 35 1 1 1 36 1 821 35 1 7 5 9 75927 85 1 71 1 2 2 1 2 2 2 4 1 12 1 1 1 7 1 65",
     "1 4 2 8 1 7 1 28 1 4 1 5 1 1 3 7 1 340 2 25 1 25 1 31 1 25 1 31 1 25 1 31 1 25 1 31 1 25 1 8",
     "1844 10 1 20 6 6"],
  ofLines ["Changes_When_Lowercased", "CWL"] [0]
    ["453 1 2 1 2 1 38 1 479 3 7091 8 8 8 8 8 12 1 15 1 47 1 261 1 4 1 3 3 2 3 2 1 3 5 6 1 3 1 3 2",
     "2 2 1 1 10 2 5 1 26 16 838 26 110384 26 26 26 26 26 26 1 1 2 2 1 2 2 2 4 1 8 26 26 26 2 1 4 2",
     "8 1 7 27 2 1 4 1 5 1 1 3 7 27 26 26 26 26 26 26 26 26 26 26 26 30 25 33 25 33 25 33 25 33 25",
     "33 1"],
  ofLines ["Changes_When_NFKC_Casefolded", "CWKCF"] [0]
    ["160 1 7 1 1 1 2 1 1 1 2 4 2 3 1 3 32 1 83 1 12 1 8 1 53 1 69 2 1 2 1 2 37 2 188 9 31 6 2 5 91",
     "2 1 3 9 1 36 1 5 1 3 1 5 2 1 1 58 1 13 2 3 2 25 3 2 1 401 1 148 1 88 4 735 8 124 2 1 1 83 1 2",
     "1 34 3 2 1 253 2 725 1 127 1 40 2 46 1 54 1 9 1 4 1 4 1 4 1 12 1 9 1 1 5 7 1 17 1 9 1 4 1 4 1",
     "4 1 12 1 322 1 98 2 575 86 2 6 950 2 85 5 1136 9 163 3 1 11 1 18 1 28 13 1 34 37 218 2 213 1",
     "1 1 1 1 1 1 1 1 1 1 1 1 2 48 2 3 2 1 4 9 2 1 4 4 3 1 9 3 3 1 9 3 2 3 2 1 4 3 1 16 1 1 5 1 12",
     "3 3 6 3 2 1 2 4 1 1 1 8 3 13 1 7 19 2 27 1 13 11 1 87 2 1 1 1 2 2 2 3 2 3 1 2 1 9 3 12 1 4 6",
     "1 3 2 1 5 4 6 48 9 1 162 2 1 2 248 2 309 139 1313 1 103 3 101 1 415 2 241 1 303 1 83 1 12 214",
     "42 1 53 1 1 3 96 2 2 1 95 1 49 94 3 14 96 31 1 40 8 47 1 384 29340 2 210 1 129 3 3 2 866 4 9",
     "1 6 80 19776 270 2 1 1 1 2 10 1 1 1 1 2 2 3 68 2 106 38 7 12 5 5 1 1 24 1 5 1 1 1 2 1 2 1 108",
     "33 363 18 64 2 54 40 13 3 26 22 21 2 12 1 19 1 4 4 3 1 1 1 135 2 1 1 32 26 132 3 6 2 6 2 6 2",
     "3 3 7 1 7 1 9 1928 5 1 42 1 9 46309 4 5306 7 14 8 64 6 601 26 26 7 1 18 26 26 26 4 1 1 1 7 1",
     "11 26 26 26 26 26 26 26 26 26 26 26 26 26 26 26 26 26 28 27 33 25 33 25 33 25 33 25 33 1 1 2",
     "50 2096 62 3474 4 1 27 1 2 1 1 2 1 1 10 1 4 1 1 1 1 6 1 4 1 1 1 1 1 1 3 1 2 1 1 2 1 1 1 1 1 1",
     "1 1 1 1 2 1 1 2 4 1 7 1 4 1 4 1 1 1 10 1 17 5 3 1 5 1 17 580 11 5 31 1 32 26 3 35 1 111 3 13",
     "44 4 9 7 2 2462 10 64518 542 722402 4096"],
  ofLines ["Changes_When_Titlecased", "CWT"] [1]
    ["312 1 84 1 13 1 14 2 14 1 3 1 5 1 2 1 2 1 38 1 47 1 18 6 27 1 2 1 1 1 2 3 2 1 1 1 2 1 5 2 1 1",
     "2 2 1 7 1 2 1 1 2 3 6 5 1 1 1 8 2 17 149 1 182 1 355 1 39 1 2887 43 2 3 3072 44 63 13 2 3 1",
     "16 1 12 257 2 1 1 618 1 3 2 3 1 27 1 4 1 4 1 2 2 8 4 38 16 848 26 1927 1 2 1 2 5 104 1 31307",
     "2 63 8 21 1 6 1 25 1 35 1 1 1 36 1 821 35 1 7 5 9 75953 26 26 7 1 18 26 26 26 4 1 1 1 7 1 11",
     "26 26 26 26 26 26 26 26 26 26 26 26 26 26 26 26 26 28 28 25 1 6 26 25 1 6 26 25 1 6 26 25 1 6",
     "26 25 1 6 1 1 1844 10 1 20 6 6"],
  ofLines ["Changes_When_Uppercased", "CWU"] [1]
    ["312 1 84 1 13 1 14 2 14 1 3 1 6 1 2 1 2 1 38 1 46 1 18 6 27 1 2 1 1 1 2 3 2 1 1 1 2 1 5 2 1 1",
     "2 2 1 7 1 2 1 1 2 3 6 5 1 1 1 8 2 17 149 1 182 1 355 1 39 1 6007 44 63 13 2 3 1 16 1 12 257 2",
     "1 1 232 8 8 8 8 8 12 1 15 1 47 1 269 1 3 2 3 1 27 1 4 1 4 1 2 2 8 4 38 16 848 26 1927 1 2 1 2",
     "5 104 1 31307 2 63 8 21 1 6 1 25 1 35 1 1 1 36 1 821 35 1 7 5 9 75953 26 26 7 1 18 26 26 26 4",
     "1 1 1 7 1 11 26 26 26 26 26 26 26 26 26 26 26 26 26 26 26 26 26 28 28 25 1 6 26 25 1 6 26 25",
     "1 6 26 25 1 6 26 25 1 6 1 1 1844 10 1 20 6 6"],
  ofLines ["Dash"] [12]
    ["8275 1 39 1 15 1 390 1"],
  ofLines ["Default_Ignorable_Code_Point", "DI"] []
    ["173 1 673 1 716 1 2882 2 1619 2 85 5 2043 5 26 5 49 16 4340 1 52379 16 239 1 160 1 79 9 48295",
     "4 5327 8 798341 4096"],
  ofLines ["Deprecated", "Dep"] []
    ["329 1 1321 1 2307 1 1 1 2089 2 2245 6 697 2 908502 1"],
  ofLines ["Diacritic", "Dia"] [20]
    ["183 1 504 18 4 12 14 5 7 1 1 1 17 79 1 8 5 6 17 1 5 1 264 5 209 1 55 17 1 27 1 1 1 2 1 1 134",
     "8 4 2 134 2 4 2 3 3 67 27 91 11 58 11 34 2 110 1 15 8 41 10 16 28 61 1 16 1 3 4 28 1 74 1 16",
     "1 110 1 16 1 110 1 16 1 47 3 60 1 16 1 7 1 119 1 110 1 16 1 110 1 16 1 109 2 16 1 124 1 124 6",
     "1 1 107 1 13 5 75 2 27 1 1 1 1 1 4 2 66 3 1 2 62 1 112 1 1 2 40 2 4 5 25 7 1 1 10 2 705 3 948",
     "2 179 11 9 1 347 3 313 8 2 1 48 15 2 11 104 1 15 1 38 9 54 2 138 2 64 6 82 25 4 1 6 1 2 3 50",
     "63 89 12 37 11 3823 3 317 1 506 6 105 2 97 1 30066 1 12 2 1 1 28 2 82 2 37 9 104 1 111 2 202",
     "1 27 18 57 4 36 1 95 1 12 1 36 1 149 3 65 4 51 1 101 4 9 1 130 2 20272 1 147 17 605 16 320 1",
     "45 2 832 1 1183 6 1 42 1 9 810 2 571 6 469 3 70 11 49 4 192 1 41 1 72 2 120 2 62 1 76 1 9 3",
     "104 2 178 2 81 1 16 1 24 7 3 5 205 1 3 1 123 2 251 2 126 1 118 2 115 1 269 2 258 2 4 1 156 1",
     "83 1 18 1 81 1 421 1 258 1 1 2 81 1 5807 15 13978 5 59 7 1112 17 80 2 16382 4 1 7 1 2 7937 46",
     "2 23 544 3 3 6 8 8 2 7 30 4 3714 62 194 7 375 1 61 4 1504 7 109 3 1 3 2736 5"],
  ofLines ["Emoji"] []
    ["35 1 6 1 5 10 111 1 4 1 8077 1 12 1 216 1 22 1 90 6 15 2 367 2 12 1 166 1 25 11 4 3 199 1 231",
     "2 10 1 9 1 58 4 1 5 9 1 2 1 2 2 2 1 4 1 2 1 1 2 2 1 3 1 3 2 8 3 5 1 1 1 5 12 11 2 2 1 1 2 1 1",
     "18 1 2 2 18 6 1 1 1 2 3 2 5 1 2 2 4 2 11 2 5 2 2 1 5 2 1 1 1 2 20 2 5 6 1 4 2 1 4 1 2 1 2 6 1",
     "1 2 1 1 1 1 1 6 1 3 1 6 1 10 2 15 1 2 1 4 1 1 1 4 3 1 1 11 2 48 3 9 1 14 1 14 1 372 2 463 3",
     "19 2 51 1 4 1 1242 1 12 1 601 1 1 1 114026 1 202 1 160 2 12 2 14 1 2 10 75 26 1 2 23 1 20 1 2",
     "9 21 2 174 34 2 112 2 2 1 3 2 83 2 3 1 263 1 63 11 6 1 24 7 2 2 8 12 1 2 4 2 1 4 2 13 2 2 1 8",
     "2 9 1 5 3 12 3 8 3 2 1 1 1 4 1 6 1 3 1 6 86 48 70 5 8 2 3 4 10 3 1 1 2 3 1 2 10 227 12 4 1",
     "283 47 1 10 1 185 112 13 3 9 7 46 1 7 8 14 4 9 7 9"],
  ofLines ["Emoji_Component", "EComp"] []
    ["35 1 6 1 5 10 8147 1 213 1 56619 1 62422 26 507 5 1456 4 788076 96"],
  ofLines ["Emoji_Modifier", "EMod"] []
    ["127995 5"],
  ofLines ["Emoji_Modifier_Base", "EBase"] []
    ["9757 1 219 1 16 4 117879 1 60 3 2 1 2 3 117 2 2 11 21 19 3 1 4 3 1 3 7 1 1 1 24 1 201 2 4 1",
     "21 1 4 2 174 3 3 5 83 1 16 3 9 1 11 1 575 1 2 1 8 8 6 1 9 10 2 3 56 1 61 2 1 2 1 1 17 3 1 13",
     "229 3 42 9"],
  ofLines ["Emoji_Presentation", "EPres"] []
    ["8986 2 205 4 3 1 2 1 521 2 21 2 50 12 43 1 19 1 13 1 8 2 17 2 5 2 8 1 5 1 21 1 7 2 1 1 4 1 2",
     "1 7 1 4 2 28 1 35 1 1 1 4 3 1 1 61 3 24 1 14 1 859 2 51 1 4 1 115886 1 202 1 190 1 2 10 75 26",
     "1 1 24 1 20 1 2 5 1 3 21 2 174 33 12 9 1 70 1 22 12 43 4 5 12 17 3 1 3 71 1 1 1 187 2 63 13 4",
     "1 24 18 1 26 2 13 1 86 85 48 70 6 1 3 3 2 3 4 4 11 2 7 9 227 12 4 1 283 47 1 10 1 185 112 13",
     "3 9 7 46 1 7 8 14 4 9 7 9"],
  ofLines ["Extended_Pictographic", "ExtPict"] []
    ["169 1 4 1 8077 1 12 1 216 1 22 1 90 6 15 2 367 2 12 1 95 1 70 1 25 11 4 3 199 1 231 2 10 1 9",
     "1 58 4 1 6 1 12 1 114 10 118 2 11 1 1 1 1 6 1 3 1 6 1 10 2 15 1 2 1 4 1 1 1 4 3 1 1 11 5 45 3",
     "9 1 14 1 14 1 372 2 463 3 19 2 51 1 4 1 1242 1 12 1 601 1 1 1 114022 256 13 3 31 1 60 6 12 2",
     "14 1 2 10 18 57 27 15 10 1 20 1 2 9 1 4 9 434 5 318 8 266 48 128 116 12 85 43 12 4 56 8 10 6",
     "40 8 30 82 12 47 1 10 1 441 256 1022"],
  ofLines ["Extender", "Ext"] []
    ["183 1 536 2 878 1 441 1 858 1 752 1 127 1 2371 1 56 1 611 1 398 1 68 1 5001 1 43 5 103 2 93 3",
     "28438 1 1526 1 962 1 22 1 137 1 108 1 21 2 21627 1 2064 2 3034 1 616 3 1231 1 20649 2 1180 2",
     "1 1 29016 2 2054 3"],
  ofLines ["Grapheme_Base", "Gr_Base"]
    [0, 1, 2, 3, 4, 6, 8, 9, 10, 11, 12, 13, 14, 15, 16, 17, 18, 19, 20, 21, 22]
    ["2494 1 24 1 358 1 24 1 102 1 24 1 234 1 18 2 103 1 24 1 119 1 15 1 3413 1 5368 2 53102 2 5022",
     "1 24 1 344 1 12 1 241 1 896 1 47156 1 8 5"],
  ofLines ["Grapheme_Extend", "Gr_Ext"] [5, 7]
    ["2494 1 24 1 358 1 24 1 102 1 24 1 234 1 18 2 103 1 24 1 119 1 15 1 3413 1 1238 1 4129 2 53102",
     "2 5022 1 24 1 344 1 12 1 241 1 896 1 47156 1 8 5 798381 96"],
  ofLines ["Hex_Digit", "Hex"] []
    ["48 10 7 6 26 6 65193 10 7 6 26 6"],
  ofLines ["IDS_Binary_Operator", "IDSB"] []
    ["12272 2 2 10 497 1"],
  ofLines ["IDS_Trinary_Operator", "IDST"] []
    ["12274 2"],
  ofLines ["ID_Continue", "IDC"] [0, 1, 2, 3, 4, 9, 5, 6, 8, 11]
    ["183 1 719 1 4065 9 1640 1 1585 2 266 1 21 1 3328 1 619 2 94 1 52841 1"],
  ofLines ["ID_Start", "IDS"] [0, 1, 2, 3, 4, 9]
    ["6277 2 2193 1 21 1 3328 1 619 2"],
  ofLines ["Ideographic", "Ideo"] []
    ["12294 2 25 9 14 3 965 6592 64 20992 22784 366 2 106 29962 1 27 6136 8 1238 42 9 9319 396",
     "19716 42720 32 4154 6 222 2 5762 14 7473 15 622 2466 542 1506 4939 5 4192"],
  ofLines ["Join_Control", "Join_C"] []
    ["8204 2"],
  ofLines ["Logical_Order_Exception", "LOE"] []
    ["3648 5 123 5 2800 3 2 1 37114 2 2 1 1 2"],
  ofLines ["Lowercase", "Lower"] [1]
    ["170 1 15 1 501 9 7 2 30 5 96 1 52 1 3457 1 3119 63 13 1 34 37 689 1 13 1 16 13 211 16 848 26",
     "1938 2 31262 2 210 1 129 3 3 2 866 4 9 1 23574 1 2 3 1 42 1 9 55413 62"],
  ofLines ["Math"] [18]
    ["94 1 881 3 2 1 26 2 2 2 7200 1 27 3 11 1 32 4 24 2 14 2 65 13 4 1 3 2 4 5 18 1 4 1 2 10 1 1 3",
     "5 6 1 3 2 2 2 1 3 1 6 3 4 5 5 75 5 2 4 1 2 1 2 1 1 1 5 2 2 4 2 4 18 2 2 1 1 1 7 1 1 6 2 290 4",
     "168 2 1 1 24 1 17 1 445 2 12 9 5 5 5 2 2 2 3 5 14 1 1 1 2 6 24 2 57 1 1 1 29 4 9 2 342 2 31",
     "10 403 22 63 4 32 2 54371 1 1 1 4 1 211 1 1 1 54465 85 1 71 1 2 2 1 2 2 2 4 1 12 1 1 1 7 1 65",
     "1 4 2 8 1 7 1 28 1 4 1 5 1 1 3 7 1 340 2 25 1 25 1 31 1 25 1 31 1 25 1 31 1 25 1 31 1 25 1 8",
     "2 50 5632 4 1 27 1 2 1 1 2 1 1 10 1 4 1 1 1 1 6 1 4 1 1 1 1 1 1 3 1 2 1 1 2 1 1 1 1 1 1 1 1 1",
     "1 2 1 1 2 4 1 7 1 4 1 4 1 1 1 10 1 17 5 3 1 5 1 17"],
  ofLines ["Noncharacter_Code_Point", "NChar"] []
    ["64976 32 526 2 65534 2 65534 2 65534 2 65534 2 65534 2 65534 2 65534 2 65534 2 65534 2 65534",
     "2 65534 2 65534 2 65534 2 65534 2 65534 2 65534 2"],
  ofLines ["Pattern_Syntax", "Pat_Syn"] []
    ["33 15 10 7 26 4 1 1 26 4 34 7 1 1 1 2 1 1 1 2 4 1 4 1 3 1 23 1 31 1 7960 24 8 15 2 19 1 10",
     "305 720 160 630 30 1132 512 128 385 3 4 25 15 1 52493 2 261 2"],
  ofLines ["Pattern_White_Space", "Pat_WS"] []
    ["9 5 18 1 100 1 8072 2 24 2"],
  ofLines ["Quotation_Mark", "QMark"] []
    ["34 1 4 1 131 1 15 1 8028 8 25 2 3591 1 457 4 13 3 52769 4 189 1 4 1 90 2"],
  ofLines ["Radical"] []
    ["11904 26 1 89 12 214"],
  ofLines ["Regional_Indicator", "RI"] []
    ["127462 26"],
  ofLines ["Sentence_Terminal", "STerm"] []
    ["33 1 12 1 16 1 1353 1 147 3 180 1 43 3 246 1 61 1 1 1 3 2 293 2 1764 2 790 1 4 2 773 1 198 2",
     "204 1 5 1 314 2 354 4 174 2 2 2 29 2 188 2 65 2 956 2 9 3 3556 1 13 1 22 2 429 1 29948 1 270",
     "2 227 1 3 1 382 2 86 2 95 1 152 2 147 3 144 2 249 1 21094 1 3 2 169 1 12 1 16 1 65 1 2804 2",
     "1277 5 44 4 189 2 117 4 127 3 129 2 6 1 16 2 88 2 1 2 108 1 417 2 373 2 5 15 105 2 249 3 517",
     "1 1 1 251 2 87 2 420 2 692 2 74 2 19241 2 133 1 65 2 11 1 851 1 19974 1 7656 1"],
  ofLines ["Soft_Dotted", "SD"] []
    ["105 2 196 1 281 1 30 1 52 1 20 1 320 1 98 1 1 1 6409 1 51 1 13 1 3 1 132 1 157 1 421 1 214 2",
     "2866 1 108453 2 50 2 50 2 50 2 50 2 50 2 50 2 50 2 50 2 50 2 50 2 50 2 50 2 2182 1 305 2 26 1"],
  ofLines ["Terminal_Punctuation", "Term"] []
    ["33 1 10 1 1 1 11 2 3 1 830 1 8 1 513 1 57 1 72 1 14 1 1 3 180 1 43 11 1 1 235 2 54 15 31 1",
     "261 2 1268 2 172 1 4 6 311 2 789 8 773 1 124 3 71 2 157 3 3 1 39 4 2 2 314 2 354 4 174 2 1 3",
     "29 2 188 5 62 2 956 2 9 3 3556 1 13 1 4 1 10 1 1 2 3 2 428 2 29947 2 269 3 227 5 382 2 86 2",
     "95 1 151 3 147 3 127 1 16 2 249 1 21092 3 1 4 169 1 10 1 1 1 11 2 3 1 65 1 2 1 1082 1 48 1",
     "1158 1 199 1 310 2 152 6 68 6 89 4 952 5 44 4 189 7 112 4 127 3 129 2 6 1 16 2 88 5 108 1 417",
     "3 12 2 358 4 3 15 105 2 249 3 517 1 1 1 251 2 87 2 4 2 414 3 45 1 645 2 74 2 1323 5 17913 2",
     "133 1 65 3 10 1 850 2 19974 1 7655 4"],
  ofLines ["Unified_Ideograph", "UIdeo"] []
    ["13312 6592 64 20992 23054 2 1 1 1 2 10 1 1 1 1 2 2 3 67030 42720 32 4154 6 222 2 5762 14 7473",
     "15 622 4514 4939 5 4192"],
  ofLines ["Uppercase", "Upper"] [0]
    ["8544 16 838 26 117856 26 6 26 6 26"],
  ofLines ["Variation_Selector", "VS"] []
    ["6155 3 1 1 58864 16 852720 240"],
  ofLines ["White_Space", "space"] [22, 23, 24]
    ["9 5 119 1"],
  ofLines ["XID_Continue", "XIDC"] [0, 1, 2, 3, 4, 9, 5, 6, 8, 11]
    ["183 1 706 1 12 1 4065 9 1640 1 1585 2 266 1 21 1 3328 1 715 1 52066 6 406 2 116 1 1 1 1 1 1 1",
     "1 1 1 1 1 1 1 1 230 1"],
  ofLines ["XID_Start", "XIDS"] [0, 1, 2, 3, 4, 9]
    ["890 1 2744 1 127 1 2513 2 2193 1 21 1 3328 1 52782 6 406 2 116 1 1 1 1 1 1 1 1 1 1 1 1 1 1 1",
     "287 2"],
  ofLines ["ASCII"] [] ["0 128"],
  ofLines ["Any"] [] ["0 1114112"],
  ofLines ["Assigned"] (List.range 29) []]

/-- The property of a name; nothing has one that is not listed. -/
def named (name : String) : BinaryProperty :=
  (all.find? fun p => p.names.contains name).getD ⟨[name], [], []⟩

end BinaryProperty

/-- What a pattern may ask of a code point. -/
inductive CharProperty where
  | category (members : List Nat)
  | script (number : Nat)
  | extendedScript (number : Nat)
  | binary (property : BinaryProperty)

namespace CharProperty

/-- A code point has the property. -/
def holds : CharProperty → Nat → Bool
  | .category members, n => members.contains (Category.ofCode n)
  | .script number, n => Script.ofCode n == number
  | .extendedScript number, n => Script.extendedHolds number n
  | .binary property, n => property.holds n

/-- The property with a name of its own. -/
def ofName? (name : String) : Option CharProperty :=
  match Category.ofName? name with
  | some members => some (.category members)
  | none => (BinaryProperty.all.find? fun p => p.names.contains name).map .binary

/-- The property given as a name and a value. -/
def ofValue? (name value : String) : Option CharProperty :=
  if name = "General_Category" ∨ name = "gc" then (Category.ofName? value).map .category
  else if name = "Script" ∨ name = "sc" then (Script.ofName? value).map .script
  else if name = "Script_Extensions" ∨ name = "scx" then
    (Script.ofName? value).map .extendedScript
  else none

end CharProperty

end ShapedTree
