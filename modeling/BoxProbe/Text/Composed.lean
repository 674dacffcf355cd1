/-
Module: BoxProbe.Text.Composed
Purpose: Marks in their order, and joined with the letters that they belong to.
Main exports: CodePoint.markClass, Text.ordered, Text.composed
-/
import BoxProbe.Text.Hexadecimal
import BoxProbe.Text.Pieces
import BoxProbe.Text.Basic

/-!
Marks that belong to different places around a letter do not touch, so their order means nothing:
`Text.ordered` sorts every run of marks by the class of their place, and keeps the order within a
class.  `Text.composed` then joins a letter with each mark that no mark of its own class, or of a
higher one, stands before, and the parts of Hangul syllables with each other.

The classes are those of Unicode 14, and so are the pairs that are joined; pairs that a folded text
cannot hold are left out.
-/

namespace BoxProbe.Text.Marks

/-- The classes of marks: the first and the last code point of a range, and its class. -/
def classes : List (Nat × Nat × Nat) :=
  [
    (0x300, 0x314, 230), (0x315, 0x315, 232), (0x316, 0x319, 220), (0x31a, 0x31a, 232),
    (0x31b, 0x31b, 216), (0x31c, 0x320, 220), (0x321, 0x322, 202), (0x323, 0x326, 220),
    (0x327, 0x328, 202), (0x329, 0x333, 220), (0x334, 0x338, 1), (0x339, 0x33c, 220),
    (0x33d, 0x33f, 230), (0x342, 0x342, 230), (0x346, 0x346, 230), (0x347, 0x349, 220),
    (0x34a, 0x34c, 230), (0x34d, 0x34e, 220), (0x350, 0x352, 230), (0x353, 0x356, 220),
    (0x357, 0x357, 230), (0x358, 0x358, 232), (0x359, 0x35a, 220), (0x35b, 0x35b, 230),
    (0x35c, 0x35c, 233), (0x35d, 0x35e, 234), (0x35f, 0x35f, 233), (0x360, 0x361, 234),
    (0x362, 0x362, 233), (0x363, 0x36f, 230), (0x483, 0x487, 230), (0x591, 0x591, 220),
    (0x592, 0x595, 230), (0x596, 0x596, 220), (0x597, 0x599, 230), (0x59a, 0x59a, 222),
    (0x59b, 0x59b, 220), (0x59c, 0x5a1, 230), (0x5a2, 0x5a7, 220), (0x5a8, 0x5a9, 230),
    (0x5aa, 0x5aa, 220), (0x5ab, 0x5ac, 230), (0x5ad, 0x5ad, 222), (0x5ae, 0x5ae, 228),
    (0x5af, 0x5af, 230), (0x5b0, 0x5b0, 10), (0x5b1, 0x5b1, 11), (0x5b2, 0x5b2, 12),
    (0x5b3, 0x5b3, 13), (0x5b4, 0x5b4, 14), (0x5b5, 0x5b5, 15), (0x5b6, 0x5b6, 16),
    (0x5b7, 0x5b7, 17), (0x5b8, 0x5b8, 18), (0x5b9, 0x5ba, 19), (0x5bb, 0x5bb, 20),
    (0x5bc, 0x5bc, 21), (0x5bd, 0x5bd, 22), (0x5bf, 0x5bf, 23), (0x5c1, 0x5c1, 24),
    (0x5c2, 0x5c2, 25), (0x5c4, 0x5c4, 230), (0x5c5, 0x5c5, 220), (0x5c7, 0x5c7, 18),
    (0x610, 0x617, 230), (0x618, 0x618, 30), (0x619, 0x619, 31), (0x61a, 0x61a, 32),
    (0x64b, 0x64b, 27), (0x64c, 0x64c, 28), (0x64d, 0x64d, 29), (0x64e, 0x64e, 30),
    (0x64f, 0x64f, 31), (0x650, 0x650, 32), (0x651, 0x651, 33), (0x652, 0x652, 34),
    (0x653, 0x654, 230), (0x655, 0x656, 220), (0x657, 0x65b, 230), (0x65c, 0x65c, 220),
    (0x65d, 0x65e, 230), (0x65f, 0x65f, 220), (0x670, 0x670, 35), (0x6d6, 0x6dc, 230),
    (0x6df, 0x6e2, 230), (0x6e3, 0x6e3, 220), (0x6e4, 0x6e4, 230), (0x6e7, 0x6e8, 230),
    (0x6ea, 0x6ea, 220), (0x6eb, 0x6ec, 230), (0x6ed, 0x6ed, 220), (0x711, 0x711, 36),
    (0x730, 0x730, 230), (0x731, 0x731, 220), (0x732, 0x733, 230), (0x734, 0x734, 220),
    (0x735, 0x736, 230), (0x737, 0x739, 220), (0x73a, 0x73a, 230), (0x73b, 0x73c, 220),
    (0x73d, 0x73d, 230), (0x73e, 0x73e, 220), (0x73f, 0x741, 230), (0x742, 0x742, 220),
    (0x743, 0x743, 230), (0x744, 0x744, 220), (0x745, 0x745, 230), (0x746, 0x746, 220),
    (0x747, 0x747, 230), (0x748, 0x748, 220), (0x749, 0x74a, 230), (0x7eb, 0x7f1, 230),
    (0x7f2, 0x7f2, 220), (0x7f3, 0x7f3, 230), (0x7fd, 0x7fd, 220), (0x816, 0x819, 230),
    (0x81b, 0x823, 230), (0x825, 0x827, 230), (0x829, 0x82d, 230), (0x859, 0x85b, 220),
    (0x898, 0x898, 230), (0x899, 0x89b, 220), (0x89c, 0x89f, 230), (0x8ca, 0x8ce, 230),
    (0x8cf, 0x8d3, 220), (0x8d4, 0x8e1, 230), (0x8e3, 0x8e3, 220), (0x8e4, 0x8e5, 230),
    (0x8e6, 0x8e6, 220), (0x8e7, 0x8e8, 230), (0x8e9, 0x8e9, 220), (0x8ea, 0x8ec, 230),
    (0x8ed, 0x8ef, 220), (0x8f0, 0x8f0, 27), (0x8f1, 0x8f1, 28), (0x8f2, 0x8f2, 29),
    (0x8f3, 0x8f5, 230), (0x8f6, 0x8f6, 220), (0x8f7, 0x8f8, 230), (0x8f9, 0x8fa, 220),
    (0x8fb, 0x8ff, 230), (0x93c, 0x93c, 7), (0x94d, 0x94d, 9), (0x951, 0x951, 230),
    (0x952, 0x952, 220), (0x953, 0x954, 230), (0x9bc, 0x9bc, 7), (0x9cd, 0x9cd, 9),
    (0x9fe, 0x9fe, 230), (0xa3c, 0xa3c, 7), (0xa4d, 0xa4d, 9), (0xabc, 0xabc, 7),
    (0xacd, 0xacd, 9), (0xb3c, 0xb3c, 7), (0xb4d, 0xb4d, 9), (0xbcd, 0xbcd, 9), (0xc3c, 0xc3c, 7),
    (0xc4d, 0xc4d, 9), (0xc55, 0xc55, 84), (0xc56, 0xc56, 91), (0xcbc, 0xcbc, 7),
    (0xccd, 0xccd, 9), (0xd3b, 0xd3c, 9), (0xd4d, 0xd4d, 9), (0xdca, 0xdca, 9),
    (0xe38, 0xe39, 103), (0xe3a, 0xe3a, 9), (0xe48, 0xe4b, 107), (0xeb8, 0xeb9, 118),
    (0xeba, 0xeba, 9), (0xec8, 0xecb, 122), (0xf18, 0xf19, 220), (0xf35, 0xf35, 220),
    (0xf37, 0xf37, 220), (0xf39, 0xf39, 216), (0xf71, 0xf71, 129), (0xf72, 0xf72, 130),
    (0xf74, 0xf74, 132), (0xf7a, 0xf7d, 130), (0xf80, 0xf80, 130), (0xf82, 0xf83, 230),
    (0xf84, 0xf84, 9), (0xf86, 0xf87, 230), (0xfc6, 0xfc6, 220), (0x1037, 0x1037, 7),
    (0x1039, 0x103a, 9), (0x108d, 0x108d, 220), (0x135d, 0x135f, 230), (0x1714, 0x1715, 9),
    (0x1734, 0x1734, 9), (0x17d2, 0x17d2, 9), (0x17dd, 0x17dd, 230), (0x18a9, 0x18a9, 228),
    (0x1939, 0x1939, 222), (0x193a, 0x193a, 230), (0x193b, 0x193b, 220), (0x1a17, 0x1a17, 230),
    (0x1a18, 0x1a18, 220), (0x1a60, 0x1a60, 9), (0x1a75, 0x1a7c, 230), (0x1a7f, 0x1a7f, 220),
    (0x1ab0, 0x1ab4, 230), (0x1ab5, 0x1aba, 220), (0x1abb, 0x1abc, 230), (0x1abd, 0x1abd, 220),
    (0x1abf, 0x1ac0, 220), (0x1ac1, 0x1ac2, 230), (0x1ac3, 0x1ac4, 220), (0x1ac5, 0x1ac9, 230),
    (0x1aca, 0x1aca, 220), (0x1acb, 0x1ace, 230), (0x1b34, 0x1b34, 7), (0x1b44, 0x1b44, 9),
    (0x1b6b, 0x1b6b, 230), (0x1b6c, 0x1b6c, 220), (0x1b6d, 0x1b73, 230), (0x1baa, 0x1bab, 9),
    (0x1be6, 0x1be6, 7), (0x1bf2, 0x1bf3, 9), (0x1c37, 0x1c37, 7), (0x1cd0, 0x1cd2, 230),
    (0x1cd4, 0x1cd4, 1), (0x1cd5, 0x1cd9, 220), (0x1cda, 0x1cdb, 230), (0x1cdc, 0x1cdf, 220),
    (0x1ce0, 0x1ce0, 230), (0x1ce2, 0x1ce8, 1), (0x1ced, 0x1ced, 220), (0x1cf4, 0x1cf4, 230),
    (0x1cf8, 0x1cf9, 230), (0x1dc0, 0x1dc1, 230), (0x1dc2, 0x1dc2, 220), (0x1dc3, 0x1dc9, 230),
    (0x1dca, 0x1dca, 220), (0x1dcb, 0x1dcc, 230), (0x1dcd, 0x1dcd, 234), (0x1dce, 0x1dce, 214),
    (0x1dcf, 0x1dcf, 220), (0x1dd0, 0x1dd0, 202), (0x1dd1, 0x1df5, 230), (0x1df6, 0x1df6, 232),
    (0x1df7, 0x1df8, 228), (0x1df9, 0x1df9, 220), (0x1dfa, 0x1dfa, 218), (0x1dfb, 0x1dfb, 230),
    (0x1dfc, 0x1dfc, 233), (0x1dfd, 0x1dfd, 220), (0x1dfe, 0x1dfe, 230), (0x1dff, 0x1dff, 220),
    (0x20d0, 0x20d1, 230), (0x20d2, 0x20d3, 1), (0x20d4, 0x20d7, 230), (0x20d8, 0x20da, 1),
    (0x20db, 0x20dc, 230), (0x20e1, 0x20e1, 230), (0x20e5, 0x20e6, 1), (0x20e7, 0x20e7, 230),
    (0x20e8, 0x20e8, 220), (0x20e9, 0x20e9, 230), (0x20ea, 0x20eb, 1), (0x20ec, 0x20ef, 220),
    (0x20f0, 0x20f0, 230), (0x2cef, 0x2cf1, 230), (0x2d7f, 0x2d7f, 9), (0x2de0, 0x2dff, 230),
    (0x302a, 0x302a, 218), (0x302b, 0x302b, 228), (0x302c, 0x302c, 232), (0x302d, 0x302d, 222),
    (0x302e, 0x302f, 224), (0x3099, 0x309a, 8), (0xa66f, 0xa66f, 230), (0xa674, 0xa67d, 230),
    (0xa69e, 0xa69f, 230), (0xa6f0, 0xa6f1, 230), (0xa806, 0xa806, 9), (0xa82c, 0xa82c, 9),
    (0xa8c4, 0xa8c4, 9), (0xa8e0, 0xa8f1, 230), (0xa92b, 0xa92d, 220), (0xa953, 0xa953, 9),
    (0xa9b3, 0xa9b3, 7), (0xa9c0, 0xa9c0, 9), (0xaab0, 0xaab0, 230), (0xaab2, 0xaab3, 230),
    (0xaab4, 0xaab4, 220), (0xaab7, 0xaab8, 230), (0xaabe, 0xaabf, 230), (0xaac1, 0xaac1, 230),
    (0xaaf6, 0xaaf6, 9), (0xabed, 0xabed, 9), (0xfb1e, 0xfb1e, 26), (0xfe20, 0xfe26, 230),
    (0xfe27, 0xfe2d, 220), (0xfe2e, 0xfe2f, 230), (0x101fd, 0x101fd, 220), (0x102e0, 0x102e0, 220),
    (0x10376, 0x1037a, 230), (0x10a0d, 0x10a0d, 220), (0x10a0f, 0x10a0f, 230),
    (0x10a38, 0x10a38, 230), (0x10a39, 0x10a39, 1), (0x10a3a, 0x10a3a, 220), (0x10a3f, 0x10a3f, 9),
    (0x10ae5, 0x10ae5, 230), (0x10ae6, 0x10ae6, 220), (0x10d24, 0x10d27, 230),
    (0x10eab, 0x10eac, 230), (0x10f46, 0x10f47, 220), (0x10f48, 0x10f4a, 230),
    (0x10f4b, 0x10f4b, 220), (0x10f4c, 0x10f4c, 230), (0x10f4d, 0x10f50, 220),
    (0x10f82, 0x10f82, 230), (0x10f83, 0x10f83, 220), (0x10f84, 0x10f84, 230),
    (0x10f85, 0x10f85, 220), (0x11046, 0x11046, 9), (0x11070, 0x11070, 9), (0x1107f, 0x1107f, 9),
    (0x110b9, 0x110b9, 9), (0x110ba, 0x110ba, 7), (0x11100, 0x11102, 230), (0x11133, 0x11134, 9),
    (0x11173, 0x11173, 7), (0x111c0, 0x111c0, 9), (0x111ca, 0x111ca, 7), (0x11235, 0x11235, 9),
    (0x11236, 0x11236, 7), (0x112e9, 0x112e9, 7), (0x112ea, 0x112ea, 9), (0x1133b, 0x1133c, 7),
    (0x1134d, 0x1134d, 9), (0x11366, 0x1136c, 230), (0x11370, 0x11374, 230), (0x11442, 0x11442, 9),
    (0x11446, 0x11446, 7), (0x1145e, 0x1145e, 230), (0x114c2, 0x114c2, 9), (0x114c3, 0x114c3, 7),
    (0x115bf, 0x115bf, 9), (0x115c0, 0x115c0, 7), (0x1163f, 0x1163f, 9), (0x116b6, 0x116b6, 9),
    (0x116b7, 0x116b7, 7), (0x1172b, 0x1172b, 9), (0x11839, 0x11839, 9), (0x1183a, 0x1183a, 7),
    (0x1193d, 0x1193e, 9), (0x11943, 0x11943, 7), (0x119e0, 0x119e0, 9), (0x11a34, 0x11a34, 9),
    (0x11a47, 0x11a47, 9), (0x11a99, 0x11a99, 9), (0x11c3f, 0x11c3f, 9), (0x11d42, 0x11d42, 7),
    (0x11d44, 0x11d45, 9), (0x11d97, 0x11d97, 9), (0x16af0, 0x16af4, 1), (0x16b30, 0x16b36, 230),
    (0x16ff0, 0x16ff1, 6), (0x1bc9e, 0x1bc9e, 1), (0x1d165, 0x1d166, 216), (0x1d167, 0x1d169, 1),
    (0x1d16d, 0x1d16d, 226), (0x1d16e, 0x1d172, 216), (0x1d17b, 0x1d182, 220),
    (0x1d185, 0x1d189, 230), (0x1d18a, 0x1d18b, 220), (0x1d1aa, 0x1d1ad, 230),
    (0x1d242, 0x1d244, 230), (0x1e000, 0x1e006, 230), (0x1e008, 0x1e018, 230),
    (0x1e01b, 0x1e021, 230), (0x1e023, 0x1e024, 230), (0x1e026, 0x1e02a, 230),
    (0x1e130, 0x1e136, 230), (0x1e2ae, 0x1e2ae, 230), (0x1e2ec, 0x1e2ef, 230),
    (0x1e8d0, 0x1e8d6, 220), (0x1e944, 0x1e949, 230), (0x1e94a, 0x1e94a, 7)
  ]

/-- What joins: a code point, and which ones it changes into which when it follows them, all with
hexadecimal numbers. -/
def pairs : List (Nat × String) :=
  [
    (0x300, "61>e0 65>e8 69>ec 6e>1f9 6f>f2 75>f9 77>1e81 79>1ef3 e2>1ea7 ea>1ec1 f4>1ed3 fc>1dc"),
    (0x300, "103>1eb1 113>1e15 14d>1e51 1a1>1edd 1b0>1eeb 3b1>1f70 3b5>1f72 3b7>1f74 3b9>1f76"),
    (0x300, "3bf>1f78 3c5>1f7a 3c9>1f7c 3ca>1fd2 3cb>1fe2 435>450 438>45d 1f00>1f02 1f01>1f03"),
    (0x300, "1f10>1f12 1f11>1f13 1f20>1f22 1f21>1f23 1f30>1f32 1f31>1f33 1f40>1f42 1f41>1f43"),
    (0x300, "1f50>1f52 1f51>1f53 1f60>1f62 1f61>1f63"),
    (0x301, "61>e1 63>107 65>e9 67>1f5 69>ed 6b>1e31 6c>13a 6d>1e3f 6e>144 6f>f3 70>1e55 72>155"),
    (0x301, "73>15b 75>fa 77>1e83 79>fd 7a>17a e2>1ea5 e5>1fb e6>1fd e7>1e09 ea>1ebf ef>1e2f"),
    (0x301, "f4>1ed1 f5>1e4d f8>1ff fc>1d8 103>1eaf 113>1e17 14d>1e53 169>1e79 1a1>1edb 1b0>1ee9"),
    (0x301, "3b1>3ac 3b5>3ad 3b7>3ae 3b9>3af 3bf>3cc 3c5>3cd 3c9>3ce 3ca>390 3cb>3b0 433>453"),
    (0x301, "43a>45c 1f00>1f04 1f01>1f05 1f10>1f14 1f11>1f15 1f20>1f24 1f21>1f25 1f30>1f34"),
    (0x301, "1f31>1f35 1f40>1f44 1f41>1f45 1f50>1f54 1f51>1f55 1f60>1f64 1f61>1f65"),
    (0x302, "61>e2 63>109 65>ea 67>11d 68>125 69>ee 6a>135 6f>f4 73>15d 75>fb 77>175 79>177"),
    (0x302, "7a>1e91 1ea1>1ead 1eb9>1ec7 1ecd>1ed9"),
    (0x303, "61>e3 65>1ebd 69>129 6e>f1 6f>f5 75>169 76>1e7d 79>1ef9 e2>1eab ea>1ec5 f4>1ed7"),
    (0x303, "103>1eb5 1a1>1ee1 1b0>1eef"),
    (0x304, "61>101 65>113 67>1e21 69>12b 6f>14d 75>16b 79>233 e4>1df e6>1e3 f5>22d f6>22b"),
    (0x304, "fc>1d6 1eb>1ed 227>1e1 22f>231 3b1>1fb1 3b9>1fd1 3c5>1fe1 438>4e3 443>4ef 1e37>1e39"),
    (0x304, "1e5b>1e5d"),
    (0x306, "61>103 65>115 67>11f 69>12d 6f>14f 75>16d 229>1e1d 3b1>1fb0 3b9>1fd0 3c5>1fe0"),
    (0x306, "430>4d1 435>4d7 436>4c2 438>439 443>45e 1ea1>1eb7"),
    (0x307, "61>227 62>1e03 63>10b 64>1e0b 65>117 66>1e1f 67>121 68>1e23 6d>1e41 6e>1e45 6f>22f"),
    (0x307, "70>1e57 72>1e59 73>1e61 74>1e6b 77>1e87 78>1e8b 79>1e8f 7a>17c 15b>1e65 161>1e67"),
    (0x307, "1e63>1e69"),
    (0x308, "61>e4 65>eb 68>1e27 69>ef 6f>f6 74>1e97 75>fc 77>1e85 78>1e8d 79>ff f5>1e4f"),
    (0x308, "16b>1e7b 3b9>3ca 3c5>3cb 430>4d3 435>451 436>4dd 437>4df 438>4e5 43e>4e7 443>4f1"),
    (0x308, "447>4f5 44b>4f9 44d>4ed 456>457 4d9>4db 4e9>4eb"),
    (0x309, "61>1ea3 65>1ebb 69>1ec9 6f>1ecf 75>1ee7 79>1ef7 e2>1ea9 ea>1ec3 f4>1ed5 103>1eb3"),
    (0x309, "1a1>1edf 1b0>1eed"), (0x30a, "61>e5 75>16f 77>1e98 79>1e99"),
    (0x30b, "6f>151 75>171 443>4f3"),
    (0x30c, "61>1ce 63>10d 64>10f 65>11b 67>1e7 68>21f 69>1d0 6a>1f0 6b>1e9 6c>13e 6e>148 6f>1d2"),
    (0x30c, "72>159 73>161 74>165 75>1d4 7a>17e fc>1da 292>1ef"),
    (0x30f, "61>201 65>205 69>209 6f>20d 72>211 75>215 475>477"),
    (0x311, "61>203 65>207 69>20b 6f>20f 72>213 75>217"),
    (0x313, "3b1>1f00 3b5>1f10 3b7>1f20 3b9>1f30 3bf>1f40 3c1>1fe4 3c5>1f50 3c9>1f60"),
    (0x314, "3b1>1f01 3b5>1f11 3b7>1f21 3b9>1f31 3bf>1f41 3c1>1fe5 3c5>1f51 3c9>1f61"),
    (0x31b, "6f>1a1 75>1b0"),
    (0x323, "61>1ea1 62>1e05 64>1e0d 65>1eb9 68>1e25 69>1ecb 6b>1e33 6c>1e37 6d>1e43 6e>1e47"),
    (0x323, "6f>1ecd 72>1e5b 73>1e63 74>1e6d 75>1ee5 76>1e7f 77>1e89 79>1ef5 7a>1e93 1a1>1ee3"),
    (0x323, "1b0>1ef1"), (0x324, "75>1e73"), (0x325, "61>1e01"), (0x326, "73>219 74>21b"),
    (0x327, "63>e7 64>1e11 65>229 67>123 68>1e29 6b>137 6c>13c 6e>146 72>157 73>15f 74>163"),
    (0x328, "61>105 65>119 69>12f 6f>1eb 75>173"),
    (0x32d, "64>1e13 65>1e19 6c>1e3d 6e>1e4b 74>1e71 75>1e77"), (0x32e, "68>1e2b"),
    (0x330, "65>1e1b 69>1e2d 75>1e75"),
    (0x331, "62>1e07 64>1e0f 68>1e96 6b>1e35 6c>1e3b 6e>1e49 72>1e5f 74>1e6f 7a>1e95"),
    (0x338, "3c>226e 3d>2260 3e>226f 2190>219a 2192>219b 2194>21ae 21d0>21cd 21d2>21cf 21d4>21ce"),
    (0x338, "2203>2204 2208>2209 220b>220c 2223>2224 2225>2226 223c>2241 2243>2244 2245>2247"),
    (0x338, "2248>2249 224d>226d 2261>2262 2264>2270 2265>2271 2272>2274 2273>2275 2276>2278"),
    (0x338, "2277>2279 227a>2280 227b>2281 227c>22e0 227d>22e1 2282>2284 2283>2285 2286>2288"),
    (0x338, "2287>2289 2291>22e2 2292>22e3 22a2>22ac 22a8>22ad 22a9>22ae 22ab>22af 22b2>22ea"),
    (0x338, "22b3>22eb 22b4>22ec 22b5>22ed"),
    (0x342, "3b1>1fb6 3b7>1fc6 3b9>1fd6 3c5>1fe6 3c9>1ff6 3ca>1fd7 3cb>1fe7 1f00>1f06 1f01>1f07"),
    (0x342, "1f20>1f26 1f21>1f27 1f30>1f36 1f31>1f37 1f50>1f56 1f51>1f57 1f60>1f66 1f61>1f67"),
    (0x653, "627>622"), (0x654, "627>623 648>624 64a>626 6c1>6c2 6d2>6d3 6d5>6c0"),
    (0x655, "627>625"), (0x93c, "928>929 930>931 933>934"), (0x9be, "9c7>9cb"), (0x9d7, "9c7>9cc"),
    (0xb3e, "b47>b4b"), (0xb56, "b47>b48"), (0xb57, "b47>b4c"), (0xbbe, "bc6>bca bc7>bcb"),
    (0xbd7, "b92>b94 bc6>bcc"), (0xc56, "c46>c48"), (0xcc2, "cc6>cca"),
    (0xcd5, "cbf>cc0 cc6>cc7 cca>ccb"), (0xcd6, "cc6>cc8"), (0xd3e, "d46>d4a d47>d4b"),
    (0xd57, "d46>d4c"), (0xdca, "dd9>dda ddc>ddd"), (0xdcf, "dd9>ddc"), (0xddf, "dd9>dde"),
    (0x102e, "1025>1026"),
    (0x1b35, "1b05>1b06 1b07>1b08 1b09>1b0a 1b0b>1b0c 1b0d>1b0e 1b11>1b12 1b3a>1b3b 1b3c>1b3d"),
    (0x1b35, "1b3e>1b40 1b3f>1b41 1b42>1b43"),
    (0x3099, "3046>3094 304b>304c 304d>304e 304f>3050 3051>3052 3053>3054 3055>3056 3057>3058"),
    (0x3099, "3059>305a 305b>305c 305d>305e 305f>3060 3061>3062 3064>3065 3066>3067 3068>3069"),
    (0x3099, "306f>3070 3072>3073 3075>3076 3078>3079 307b>307c 309d>309e 30a6>30f4 30ab>30ac"),
    (0x3099, "30ad>30ae 30af>30b0 30b1>30b2 30b3>30b4 30b5>30b6 30b7>30b8 30b9>30ba 30bb>30bc"),
    (0x3099, "30bd>30be 30bf>30c0 30c1>30c2 30c4>30c5 30c6>30c7 30c8>30c9 30cf>30d0 30d2>30d3"),
    (0x3099, "30d5>30d6 30d8>30d9 30db>30dc 30ef>30f7 30f0>30f8 30f1>30f9 30f2>30fa 30fd>30fe"),
    (0x309a, "306f>3071 3072>3074 3075>3077 3078>307a 307b>307d 30cf>30d1 30d2>30d4 30d5>30d7"),
    (0x309a, "30d8>30da 30db>30dd"), (0x110ba, "11099>1109a 1109b>1109c 110a5>110ab"),
    (0x11127, "11131>1112e 11132>1112f"), (0x1133e, "11347>1134b"), (0x11357, "11347>1134c"),
    (0x114b0, "114b9>114bc"), (0x114ba, "114b9>114bb"), (0x114bd, "114b9>114be"),
    (0x115af, "115b8>115ba 115b9>115bb"), (0x11930, "11935>11938")
  ]

/-- What two listed code points become together. -/
def listed? (first second : CodePoint) : Option CodePoint :=
  let entries := (pairs.filter (·.1 = second.val)).flatMap fun row => pieces (· == ' ') row.2.toList
  (entries.find? fun entry => hexNumber (entry.takeWhile (· ≠ '>')) = first.val).map fun entry =>
    CodePoint.ofNat (hexNumber ((entry.dropWhile (· ≠ '>')).drop 1))

/-- The Hangul syllable that two parts make: a leading consonant and a vowel, or a syllable of two
parts and a trailing consonant. -/
def syllable? (first second : CodePoint) : Option CodePoint :=
  let a := first.val
  let b := second.val
  if 0x1100 ≤ a && a ≤ 0x1112 && 0x1161 ≤ b && b ≤ 0x1175 then
    some (CodePoint.ofNat (0xAC00 + ((a - 0x1100) * 21 + (b - 0x1161)) * 28))
  else if 0xAC00 ≤ a && a ≤ 0xD7A3 && (a - 0xAC00) % 28 = 0 && 0x11A8 ≤ b && b ≤ 0x11C2 then
    some (CodePoint.ofNat (a + (b - 0x11A7)))
  else none

/-- What two code points become together. -/
def join? (first second : CodePoint) : Option CodePoint :=
  (syllable? first second).or (listed? first second)

end BoxProbe.Text.Marks

namespace BoxProbe.CodePoint

/-- The class of a mark; zero for what is no mark. -/
def markClass (c : CodePoint) : Nat :=
  ((Text.Marks.classes.find? fun r => r.1 ≤ c.val && c.val ≤ r.2.1).map (·.2.2)).getD 0

end BoxProbe.CodePoint

namespace BoxProbe.Text

/-- Puts a code point in front of an ordered text: a mark goes behind the marks of lower classes. -/
def place (c : CodePoint) : Text → Text
  | [] => [c]
  | d :: rest =>
    if 0 < d.markClass && d.markClass < c.markClass then d :: place c rest else c :: d :: rest

/-- The text with its marks in order. -/
def ordered (t : Text) : Text :=
  t.foldr place []

/-- Joins what can be joined with a first code point: its form at the end, and the code points that
stay.  `last` is the class of the one that stayed before, if any did. -/
def joinAfter (first : CodePoint) (last : Option Nat) : Text → CodePoint × Text
  | [] => (first, [])
  | c :: rest =>
    let k := c.markClass
    match last with
    | none =>
      match Marks.join? first c with
      | some joined => joinAfter joined none rest
      | none =>
        if k = 0 then (first, c :: rest)
        else
          let (final, others) := joinAfter first (some k) rest
          (final, c :: others)
    | some blocking =>
      if k = 0 then (first, c :: rest)
      else
        match if k ≤ blocking then none else Marks.join? first c with
        | some joined => joinAfter joined last rest
        | none =>
          let (final, others) := joinAfter first (some (max k blocking)) rest
          (final, c :: others)

theorem length_joinAfter_le (first : CodePoint) (last : Option Nat) (t : Text) :
    (joinAfter first last t).2.length ≤ t.length := by
  fun_induction joinAfter first last t <;> simp_all <;> omega

/-- An ordered text with all joined that can be. -/
def composed : Text → Text
  | [] => []
  | c :: rest =>
    if c.markClass = 0 then
      let joined := joinAfter c none rest
      joined.1 :: composed joined.2
    else c :: composed rest
termination_by t => t.length
decreasing_by
  · exact Nat.lt_succ_of_le (length_joinAfter_le ..)
  · exact Nat.lt_succ_self _

end BoxProbe.Text
