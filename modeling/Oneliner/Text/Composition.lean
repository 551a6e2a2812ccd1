import Oneliner.Text.Decomposition

namespace Oneliner
namespace Text

/-!
The form in which names are compared.

Two names are the same if they agree after decomposition, up to the order of
marks that do not interact.  The common form is reached in three steps: every
character is decomposed, runs of marks are sorted by their classes, and what
can be combined into one character is combined again.
-/

/-- Characters of one combining class. -/
structure MarkRun where
  first : Nat
  last : Nat
  kind : Nat

/-- The marks that can occur in names, with their classes. -/
def markRuns : List MarkRun :=
  [⟨0x300, 0x314, 230⟩, ⟨0x315, 0x315, 232⟩, ⟨0x316, 0x319, 220⟩, ⟨0x31a, 0x31a, 232⟩,
   ⟨0x31b, 0x31b, 216⟩, ⟨0x31c, 0x320, 220⟩, ⟨0x321, 0x322, 202⟩, ⟨0x323, 0x326, 220⟩,
   ⟨0x327, 0x328, 202⟩, ⟨0x329, 0x333, 220⟩, ⟨0x334, 0x338, 1⟩, ⟨0x339, 0x33c, 220⟩,
   ⟨0x33d, 0x344, 230⟩, ⟨0x345, 0x345, 240⟩, ⟨0x346, 0x346, 230⟩, ⟨0x347, 0x349, 220⟩,
   ⟨0x34a, 0x34c, 230⟩, ⟨0x34d, 0x34e, 220⟩, ⟨0x350, 0x352, 230⟩, ⟨0x353, 0x356, 220⟩,
   ⟨0x357, 0x357, 230⟩, ⟨0x358, 0x358, 232⟩, ⟨0x359, 0x35a, 220⟩, ⟨0x35b, 0x35b, 230⟩,
   ⟨0x35c, 0x35c, 233⟩, ⟨0x35d, 0x35e, 234⟩, ⟨0x35f, 0x35f, 233⟩, ⟨0x360, 0x361, 234⟩,
   ⟨0x362, 0x362, 233⟩, ⟨0x363, 0x36f, 230⟩, ⟨0x483, 0x487, 230⟩, ⟨0x591, 0x591, 220⟩,
   ⟨0x592, 0x595, 230⟩, ⟨0x596, 0x596, 220⟩, ⟨0x597, 0x599, 230⟩, ⟨0x59a, 0x59a, 222⟩,
   ⟨0x59b, 0x59b, 220⟩, ⟨0x59c, 0x5a1, 230⟩, ⟨0x5a2, 0x5a7, 220⟩, ⟨0x5a8, 0x5a9, 230⟩,
   ⟨0x5aa, 0x5aa, 220⟩, ⟨0x5ab, 0x5ac, 230⟩, ⟨0x5ad, 0x5ad, 222⟩, ⟨0x5ae, 0x5ae, 228⟩,
   ⟨0x5af, 0x5af, 230⟩, ⟨0x5b0, 0x5b0, 10⟩, ⟨0x5b1, 0x5b1, 11⟩, ⟨0x5b2, 0x5b2, 12⟩,
   ⟨0x5b3, 0x5b3, 13⟩, ⟨0x5b4, 0x5b4, 14⟩, ⟨0x5b5, 0x5b5, 15⟩, ⟨0x5b6, 0x5b6, 16⟩,
   ⟨0x5b7, 0x5b7, 17⟩, ⟨0x5b8, 0x5b8, 18⟩, ⟨0x5b9, 0x5ba, 19⟩, ⟨0x5bb, 0x5bb, 20⟩,
   ⟨0x5bc, 0x5bc, 21⟩, ⟨0x5bd, 0x5bd, 22⟩, ⟨0x5bf, 0x5bf, 23⟩, ⟨0x5c1, 0x5c1, 24⟩,
   ⟨0x5c2, 0x5c2, 25⟩, ⟨0x5c4, 0x5c4, 230⟩, ⟨0x5c5, 0x5c5, 220⟩, ⟨0x5c7, 0x5c7, 18⟩,
   ⟨0x610, 0x617, 230⟩, ⟨0x618, 0x618, 30⟩, ⟨0x619, 0x619, 31⟩, ⟨0x61a, 0x61a, 32⟩,
   ⟨0x64b, 0x64b, 27⟩, ⟨0x64c, 0x64c, 28⟩, ⟨0x64d, 0x64d, 29⟩, ⟨0x64e, 0x64e, 30⟩,
   ⟨0x64f, 0x64f, 31⟩, ⟨0x650, 0x650, 32⟩, ⟨0x651, 0x651, 33⟩, ⟨0x652, 0x652, 34⟩,
   ⟨0x653, 0x654, 230⟩, ⟨0x655, 0x656, 220⟩, ⟨0x657, 0x65b, 230⟩, ⟨0x65c, 0x65c, 220⟩,
   ⟨0x65d, 0x65e, 230⟩, ⟨0x65f, 0x65f, 220⟩, ⟨0x670, 0x670, 35⟩, ⟨0x6d6, 0x6dc, 230⟩,
   ⟨0x6df, 0x6e2, 230⟩, ⟨0x6e3, 0x6e3, 220⟩, ⟨0x6e4, 0x6e4, 230⟩, ⟨0x6e7, 0x6e8, 230⟩,
   ⟨0x6ea, 0x6ea, 220⟩, ⟨0x6eb, 0x6ec, 230⟩, ⟨0x6ed, 0x6ed, 220⟩, ⟨0x711, 0x711, 36⟩,
   ⟨0x730, 0x730, 230⟩, ⟨0x731, 0x731, 220⟩, ⟨0x732, 0x733, 230⟩, ⟨0x734, 0x734, 220⟩,
   ⟨0x735, 0x736, 230⟩, ⟨0x737, 0x739, 220⟩, ⟨0x73a, 0x73a, 230⟩, ⟨0x73b, 0x73c, 220⟩,
   ⟨0x73d, 0x73d, 230⟩, ⟨0x73e, 0x73e, 220⟩, ⟨0x73f, 0x741, 230⟩, ⟨0x742, 0x742, 220⟩,
   ⟨0x743, 0x743, 230⟩, ⟨0x744, 0x744, 220⟩, ⟨0x745, 0x745, 230⟩, ⟨0x746, 0x746, 220⟩,
   ⟨0x747, 0x747, 230⟩, ⟨0x748, 0x748, 220⟩, ⟨0x749, 0x74a, 230⟩, ⟨0x7eb, 0x7f1, 230⟩,
   ⟨0x7f2, 0x7f2, 220⟩, ⟨0x7f3, 0x7f3, 230⟩, ⟨0x7fd, 0x7fd, 220⟩, ⟨0x816, 0x819, 230⟩,
   ⟨0x81b, 0x823, 230⟩, ⟨0x825, 0x827, 230⟩, ⟨0x829, 0x82d, 230⟩, ⟨0x859, 0x85b, 220⟩,
   ⟨0x898, 0x898, 230⟩, ⟨0x899, 0x89b, 220⟩, ⟨0x89c, 0x89f, 230⟩, ⟨0x8ca, 0x8ce, 230⟩,
   ⟨0x8cf, 0x8d3, 220⟩, ⟨0x8d4, 0x8e1, 230⟩, ⟨0x8e3, 0x8e3, 220⟩, ⟨0x8e4, 0x8e5, 230⟩,
   ⟨0x8e6, 0x8e6, 220⟩, ⟨0x8e7, 0x8e8, 230⟩, ⟨0x8e9, 0x8e9, 220⟩, ⟨0x8ea, 0x8ec, 230⟩,
   ⟨0x8ed, 0x8ef, 220⟩, ⟨0x8f0, 0x8f0, 27⟩, ⟨0x8f1, 0x8f1, 28⟩, ⟨0x8f2, 0x8f2, 29⟩,
   ⟨0x8f3, 0x8f5, 230⟩, ⟨0x8f6, 0x8f6, 220⟩, ⟨0x8f7, 0x8f8, 230⟩, ⟨0x8f9, 0x8fa, 220⟩,
   ⟨0x8fb, 0x8ff, 230⟩, ⟨0x93c, 0x93c, 7⟩, ⟨0x94d, 0x94d, 9⟩, ⟨0x951, 0x951, 230⟩,
   ⟨0x952, 0x952, 220⟩, ⟨0x953, 0x954, 230⟩, ⟨0x9bc, 0x9bc, 7⟩, ⟨0x9cd, 0x9cd, 9⟩,
   ⟨0x9fe, 0x9fe, 230⟩, ⟨0xa3c, 0xa3c, 7⟩, ⟨0xa4d, 0xa4d, 9⟩, ⟨0xabc, 0xabc, 7⟩,
   ⟨0xacd, 0xacd, 9⟩, ⟨0xb3c, 0xb3c, 7⟩, ⟨0xb4d, 0xb4d, 9⟩, ⟨0xbcd, 0xbcd, 9⟩,
   ⟨0xc3c, 0xc3c, 7⟩, ⟨0xc4d, 0xc4d, 9⟩, ⟨0xc55, 0xc55, 84⟩, ⟨0xc56, 0xc56, 91⟩,
   ⟨0xcbc, 0xcbc, 7⟩, ⟨0xccd, 0xccd, 9⟩, ⟨0xd3b, 0xd3c, 9⟩, ⟨0xd4d, 0xd4d, 9⟩,
   ⟨0xdca, 0xdca, 9⟩, ⟨0xe38, 0xe39, 103⟩, ⟨0xe3a, 0xe3a, 9⟩, ⟨0xe48, 0xe4b, 107⟩,
   ⟨0xeb8, 0xeb9, 118⟩, ⟨0xeba, 0xeba, 9⟩, ⟨0xec8, 0xecb, 122⟩, ⟨0xf18, 0xf19, 220⟩,
   ⟨0xf35, 0xf35, 220⟩, ⟨0xf37, 0xf37, 220⟩, ⟨0xf39, 0xf39, 216⟩, ⟨0xf71, 0xf71, 129⟩,
   ⟨0xf72, 0xf72, 130⟩, ⟨0xf74, 0xf74, 132⟩, ⟨0xf7a, 0xf7d, 130⟩, ⟨0xf80, 0xf80, 130⟩,
   ⟨0xf82, 0xf83, 230⟩, ⟨0xf84, 0xf84, 9⟩, ⟨0xf86, 0xf87, 230⟩, ⟨0xfc6, 0xfc6, 220⟩,
   ⟨0x1037, 0x1037, 7⟩, ⟨0x1039, 0x103a, 9⟩, ⟨0x108d, 0x108d, 220⟩, ⟨0x135d, 0x135f, 230⟩,
   ⟨0x1714, 0x1715, 9⟩, ⟨0x1734, 0x1734, 9⟩, ⟨0x17d2, 0x17d2, 9⟩, ⟨0x17dd, 0x17dd, 230⟩,
   ⟨0x18a9, 0x18a9, 228⟩, ⟨0x1939, 0x1939, 222⟩, ⟨0x193a, 0x193a, 230⟩, ⟨0x193b, 0x193b, 220⟩,
   ⟨0x1a17, 0x1a17, 230⟩, ⟨0x1a18, 0x1a18, 220⟩, ⟨0x1a60, 0x1a60, 9⟩, ⟨0x1a75, 0x1a7c, 230⟩,
   ⟨0x1a7f, 0x1a7f, 220⟩, ⟨0x1ab0, 0x1ab4, 230⟩, ⟨0x1ab5, 0x1aba, 220⟩, ⟨0x1abb, 0x1abc, 230⟩,
   ⟨0x1abd, 0x1abd, 220⟩, ⟨0x1abf, 0x1ac0, 220⟩, ⟨0x1ac1, 0x1ac2, 230⟩, ⟨0x1ac3, 0x1ac4, 220⟩,
   ⟨0x1ac5, 0x1ac9, 230⟩, ⟨0x1aca, 0x1aca, 220⟩, ⟨0x1acb, 0x1ace, 230⟩, ⟨0x1b34, 0x1b34, 7⟩,
   ⟨0x1b44, 0x1b44, 9⟩, ⟨0x1b6b, 0x1b6b, 230⟩, ⟨0x1b6c, 0x1b6c, 220⟩, ⟨0x1b6d, 0x1b73, 230⟩,
   ⟨0x1baa, 0x1bab, 9⟩, ⟨0x1be6, 0x1be6, 7⟩, ⟨0x1bf2, 0x1bf3, 9⟩, ⟨0x1c37, 0x1c37, 7⟩,
   ⟨0x1cd0, 0x1cd2, 230⟩, ⟨0x1cd4, 0x1cd4, 1⟩, ⟨0x1cd5, 0x1cd9, 220⟩, ⟨0x1cda, 0x1cdb, 230⟩,
   ⟨0x1cdc, 0x1cdf, 220⟩, ⟨0x1ce0, 0x1ce0, 230⟩, ⟨0x1ce2, 0x1ce8, 1⟩, ⟨0x1ced, 0x1ced, 220⟩,
   ⟨0x1cf4, 0x1cf4, 230⟩, ⟨0x1cf8, 0x1cf9, 230⟩, ⟨0x1dc0, 0x1dc1, 230⟩, ⟨0x1dc2, 0x1dc2, 220⟩,
   ⟨0x1dc3, 0x1dc9, 230⟩, ⟨0x1dca, 0x1dca, 220⟩, ⟨0x1dcb, 0x1dcc, 230⟩, ⟨0x1dcd, 0x1dcd, 234⟩,
   ⟨0x1dce, 0x1dce, 214⟩, ⟨0x1dcf, 0x1dcf, 220⟩, ⟨0x1dd0, 0x1dd0, 202⟩, ⟨0x1dd1, 0x1df5, 230⟩,
   ⟨0x1df6, 0x1df6, 232⟩, ⟨0x1df7, 0x1df8, 228⟩, ⟨0x1df9, 0x1df9, 220⟩, ⟨0x1dfa, 0x1dfa, 218⟩,
   ⟨0x1dfb, 0x1dfb, 230⟩, ⟨0x1dfc, 0x1dfc, 233⟩, ⟨0x1dfd, 0x1dfd, 220⟩, ⟨0x1dfe, 0x1dfe, 230⟩,
   ⟨0x1dff, 0x1dff, 220⟩, ⟨0x20d0, 0x20d1, 230⟩, ⟨0x20d2, 0x20d3, 1⟩, ⟨0x20d4, 0x20d7, 230⟩,
   ⟨0x20d8, 0x20da, 1⟩, ⟨0x20db, 0x20dc, 230⟩, ⟨0x20e1, 0x20e1, 230⟩, ⟨0x20e5, 0x20e6, 1⟩,
   ⟨0x20e7, 0x20e7, 230⟩, ⟨0x20e8, 0x20e8, 220⟩, ⟨0x20e9, 0x20e9, 230⟩, ⟨0x20ea, 0x20eb, 1⟩,
   ⟨0x20ec, 0x20ef, 220⟩, ⟨0x20f0, 0x20f0, 230⟩, ⟨0x2cef, 0x2cf1, 230⟩, ⟨0x2d7f, 0x2d7f, 9⟩,
   ⟨0x2de0, 0x2dff, 230⟩, ⟨0x302a, 0x302a, 218⟩, ⟨0x302b, 0x302b, 228⟩, ⟨0x302c, 0x302c, 232⟩,
   ⟨0x302d, 0x302d, 222⟩, ⟨0x302e, 0x302f, 224⟩, ⟨0x3099, 0x309a, 8⟩, ⟨0xa66f, 0xa66f, 230⟩,
   ⟨0xa674, 0xa67d, 230⟩, ⟨0xa69e, 0xa69f, 230⟩, ⟨0xa6f0, 0xa6f1, 230⟩, ⟨0xa806, 0xa806, 9⟩,
   ⟨0xa82c, 0xa82c, 9⟩, ⟨0xa8c4, 0xa8c4, 9⟩, ⟨0xa8e0, 0xa8f1, 230⟩, ⟨0xa92b, 0xa92d, 220⟩,
   ⟨0xa953, 0xa953, 9⟩, ⟨0xa9b3, 0xa9b3, 7⟩, ⟨0xa9c0, 0xa9c0, 9⟩, ⟨0xaab0, 0xaab0, 230⟩,
   ⟨0xaab2, 0xaab3, 230⟩, ⟨0xaab4, 0xaab4, 220⟩, ⟨0xaab7, 0xaab8, 230⟩, ⟨0xaabe, 0xaabf, 230⟩,
   ⟨0xaac1, 0xaac1, 230⟩, ⟨0xaaf6, 0xaaf6, 9⟩, ⟨0xabed, 0xabed, 9⟩, ⟨0xfb1e, 0xfb1e, 26⟩,
   ⟨0xfe20, 0xfe26, 230⟩, ⟨0xfe27, 0xfe2d, 220⟩, ⟨0xfe2e, 0xfe2f, 230⟩, ⟨0x101fd, 0x101fd, 220⟩,
   ⟨0x102e0, 0x102e0, 220⟩, ⟨0x10376, 0x1037a, 230⟩, ⟨0x10a0d, 0x10a0d, 220⟩,
   ⟨0x10a0f, 0x10a0f, 230⟩, ⟨0x10a38, 0x10a38, 230⟩, ⟨0x10a39, 0x10a39, 1⟩,
   ⟨0x10a3a, 0x10a3a, 220⟩, ⟨0x10a3f, 0x10a3f, 9⟩, ⟨0x10ae5, 0x10ae5, 230⟩,
   ⟨0x10ae6, 0x10ae6, 220⟩, ⟨0x10d24, 0x10d27, 230⟩, ⟨0x10eab, 0x10eac, 230⟩,
   ⟨0x10f46, 0x10f47, 220⟩, ⟨0x10f48, 0x10f4a, 230⟩, ⟨0x10f4b, 0x10f4b, 220⟩,
   ⟨0x10f4c, 0x10f4c, 230⟩, ⟨0x10f4d, 0x10f50, 220⟩, ⟨0x10f82, 0x10f82, 230⟩,
   ⟨0x10f83, 0x10f83, 220⟩, ⟨0x10f84, 0x10f84, 230⟩, ⟨0x10f85, 0x10f85, 220⟩,
   ⟨0x11046, 0x11046, 9⟩, ⟨0x11070, 0x11070, 9⟩, ⟨0x1107f, 0x1107f, 9⟩, ⟨0x110b9, 0x110b9, 9⟩,
   ⟨0x110ba, 0x110ba, 7⟩, ⟨0x11100, 0x11102, 230⟩, ⟨0x11133, 0x11134, 9⟩, ⟨0x11173, 0x11173, 7⟩,
   ⟨0x111c0, 0x111c0, 9⟩, ⟨0x111ca, 0x111ca, 7⟩, ⟨0x11235, 0x11235, 9⟩, ⟨0x11236, 0x11236, 7⟩,
   ⟨0x112e9, 0x112e9, 7⟩, ⟨0x112ea, 0x112ea, 9⟩, ⟨0x1133b, 0x1133c, 7⟩, ⟨0x1134d, 0x1134d, 9⟩,
   ⟨0x11366, 0x1136c, 230⟩, ⟨0x11370, 0x11374, 230⟩, ⟨0x11442, 0x11442, 9⟩,
   ⟨0x11446, 0x11446, 7⟩, ⟨0x1145e, 0x1145e, 230⟩, ⟨0x114c2, 0x114c2, 9⟩, ⟨0x114c3, 0x114c3, 7⟩,
   ⟨0x115bf, 0x115bf, 9⟩, ⟨0x115c0, 0x115c0, 7⟩, ⟨0x1163f, 0x1163f, 9⟩, ⟨0x116b6, 0x116b6, 9⟩,
   ⟨0x116b7, 0x116b7, 7⟩, ⟨0x1172b, 0x1172b, 9⟩, ⟨0x11839, 0x11839, 9⟩, ⟨0x1183a, 0x1183a, 7⟩,
   ⟨0x1193d, 0x1193e, 9⟩, ⟨0x11943, 0x11943, 7⟩, ⟨0x119e0, 0x119e0, 9⟩, ⟨0x11a34, 0x11a34, 9⟩,
   ⟨0x11a47, 0x11a47, 9⟩, ⟨0x11a99, 0x11a99, 9⟩, ⟨0x11c3f, 0x11c3f, 9⟩, ⟨0x11d42, 0x11d42, 7⟩,
   ⟨0x11d44, 0x11d45, 9⟩, ⟨0x11d97, 0x11d97, 9⟩, ⟨0x16af0, 0x16af4, 1⟩, ⟨0x16b30, 0x16b36, 230⟩,
   ⟨0x16ff0, 0x16ff1, 6⟩, ⟨0x1bc9e, 0x1bc9e, 1⟩, ⟨0x1d165, 0x1d166, 216⟩, ⟨0x1d167, 0x1d169, 1⟩,
   ⟨0x1d16d, 0x1d16d, 226⟩, ⟨0x1d16e, 0x1d172, 216⟩, ⟨0x1d17b, 0x1d182, 220⟩,
   ⟨0x1d185, 0x1d189, 230⟩, ⟨0x1d18a, 0x1d18b, 220⟩, ⟨0x1d1aa, 0x1d1ad, 230⟩,
   ⟨0x1d242, 0x1d244, 230⟩, ⟨0x1e000, 0x1e006, 230⟩, ⟨0x1e008, 0x1e018, 230⟩,
   ⟨0x1e01b, 0x1e021, 230⟩, ⟨0x1e023, 0x1e024, 230⟩, ⟨0x1e026, 0x1e02a, 230⟩,
   ⟨0x1e130, 0x1e136, 230⟩, ⟨0x1e2ae, 0x1e2ae, 230⟩, ⟨0x1e2ec, 0x1e2ef, 230⟩,
   ⟨0x1e8d0, 0x1e8d6, 220⟩, ⟨0x1e944, 0x1e949, 230⟩, ⟨0x1e94a, 0x1e94a, 7⟩]

/-- The combining class of a character.  Class zero is for what is no mark. -/
def markKind (code : Nat) : Nat :=
  ((markRuns.find? fun run => run.first ≤ code && code ≤ run.last).map (·.kind)).getD 0

/-- Which characters combine, in hexadecimal.  Each entry has a first character
and, for each second one, what the two become. -/
def pairTable : List String :=
  ["",
   "41:300+c0,301+c1,302+c2,303+c3,304+100,306+102,307+226,308+c4,309+1ea2,30a+c5,30c+1cd,30f+200,311+202,323+1ea0,325+1e00,328+104",
   "42:307+1e02,323+1e04,331+1e06 43:301+106,302+108,307+10a,30c+10c,327+c7",
   "44:307+1e0a,30c+10e,323+1e0c,327+1e10,32d+1e12,331+1e0e",
   "45:300+c8,301+c9,302+ca,303+1ebc,304+112,306+114,307+116,308+cb,309+1eba,30c+11a,30f+204,311+206,323+1eb8,327+228,328+118,32d+1e18,330+1e1a",
   "46:307+1e1e 47:301+1f4,302+11c,304+1e20,306+11e,307+120,30c+1e6,327+122",
   "48:302+124,307+1e22,308+1e26,30c+21e,323+1e24,327+1e28,32e+1e2a",
   "49:300+cc,301+cd,302+ce,303+128,304+12a,306+12c,307+130,308+cf,309+1ec8,30c+1cf,30f+208,311+20a,323+1eca,328+12e,330+1e2c",
   "4a:302+134 4b:301+1e30,30c+1e8,323+1e32,327+136,331+1e34",
   "4c:301+139,30c+13d,323+1e36,327+13b,32d+1e3c,331+1e3a 4d:301+1e3e,307+1e40,323+1e42",
   "4e:300+1f8,301+143,303+d1,307+1e44,30c+147,323+1e46,327+145,32d+1e4a,331+1e48",
   "4f:300+d2,301+d3,302+d4,303+d5,304+14c,306+14e,307+22e,308+d6,309+1ece,30b+150,30c+1d1,30f+20c,311+20e,31b+1a0,323+1ecc,328+1ea",
   "50:301+1e54,307+1e56 52:301+154,307+1e58,30c+158,30f+210,311+212,323+1e5a,327+156,331+1e5e",
   "53:301+15a,302+15c,307+1e60,30c+160,323+1e62,326+218,327+15e",
   "54:307+1e6a,30c+164,323+1e6c,326+21a,327+162,32d+1e70,331+1e6e",
   "55:300+d9,301+da,302+db,303+168,304+16a,306+16c,308+dc,309+1ee6,30a+16e,30b+170,30c+1d3,30f+214,311+216,31b+1af,323+1ee4,324+1e72,328+172,32d+1e76,330+1e74",
   "56:303+1e7c,323+1e7e 57:300+1e80,301+1e82,302+174,307+1e86,308+1e84,323+1e88",
   "58:307+1e8a,308+1e8c",
   "59:300+1ef2,301+dd,302+176,303+1ef8,304+232,307+1e8e,308+178,309+1ef6,323+1ef4",
   "5a:301+179,302+1e90,307+17b,30c+17d,323+1e92,331+1e94",
   "61:300+e0,301+e1,302+e2,303+e3,304+101,306+103,307+227,308+e4,309+1ea3,30a+e5,30c+1ce,30f+201,311+203,323+1ea1,325+1e01,328+105",
   "62:307+1e03,323+1e05,331+1e07 63:301+107,302+109,307+10b,30c+10d,327+e7",
   "64:307+1e0b,30c+10f,323+1e0d,327+1e11,32d+1e13,331+1e0f",
   "65:300+e8,301+e9,302+ea,303+1ebd,304+113,306+115,307+117,308+eb,309+1ebb,30c+11b,30f+205,311+207,323+1eb9,327+229,328+119,32d+1e19,330+1e1b",
   "66:307+1e1f 67:301+1f5,302+11d,304+1e21,306+11f,307+121,30c+1e7,327+123",
   "68:302+125,307+1e23,308+1e27,30c+21f,323+1e25,327+1e29,32e+1e2b,331+1e96",
   "69:300+ec,301+ed,302+ee,303+129,304+12b,306+12d,308+ef,309+1ec9,30c+1d0,30f+209,311+20b,323+1ecb,328+12f,330+1e2d",
   "6a:302+135,30c+1f0 6b:301+1e31,30c+1e9,323+1e33,327+137,331+1e35",
   "6c:301+13a,30c+13e,323+1e37,327+13c,32d+1e3d,331+1e3b 6d:301+1e3f,307+1e41,323+1e43",
   "6e:300+1f9,301+144,303+f1,307+1e45,30c+148,323+1e47,327+146,32d+1e4b,331+1e49",
   "6f:300+f2,301+f3,302+f4,303+f5,304+14d,306+14f,307+22f,308+f6,309+1ecf,30b+151,30c+1d2,30f+20d,311+20f,31b+1a1,323+1ecd,328+1eb",
   "70:301+1e55,307+1e57 72:301+155,307+1e59,30c+159,30f+211,311+213,323+1e5b,327+157,331+1e5f",
   "73:301+15b,302+15d,307+1e61,30c+161,323+1e63,326+219,327+15f",
   "74:307+1e6b,308+1e97,30c+165,323+1e6d,326+21b,327+163,32d+1e71,331+1e6f",
   "75:300+f9,301+fa,302+fb,303+169,304+16b,306+16d,308+fc,309+1ee7,30a+16f,30b+171,30c+1d4,30f+215,311+217,31b+1b0,323+1ee5,324+1e73,328+173,32d+1e77,330+1e75",
   "76:303+1e7d,323+1e7f 77:300+1e81,301+1e83,302+175,307+1e87,308+1e85,30a+1e98,323+1e89",
   "78:307+1e8b,308+1e8d",
   "79:300+1ef3,301+fd,302+177,303+1ef9,304+233,307+1e8f,308+ff,309+1ef7,30a+1e99,323+1ef5",
   "7a:301+17a,302+1e91,307+17c,30c+17e,323+1e93,331+1e95 c2:300+1ea6,301+1ea4,303+1eaa,309+1ea8",
   "c4:304+1de c5:301+1fa c6:301+1fc,304+1e2 c7:301+1e08 ca:300+1ec0,301+1ebe,303+1ec4,309+1ec2",
   "cf:301+1e2e d4:300+1ed2,301+1ed0,303+1ed6,309+1ed4 d5:301+1e4c,304+22c,308+1e4e d6:304+22a",
   "d8:301+1fe dc:300+1db,301+1d7,304+1d5,30c+1d9 e2:300+1ea7,301+1ea5,303+1eab,309+1ea9",
   "e4:304+1df e5:301+1fb e6:301+1fd,304+1e3 e7:301+1e09 ea:300+1ec1,301+1ebf,303+1ec5,309+1ec3",
   "ef:301+1e2f f4:300+1ed3,301+1ed1,303+1ed7,309+1ed5 f5:301+1e4d,304+22d,308+1e4f f6:304+22b",
   "f8:301+1ff fc:300+1dc,301+1d8,304+1d6,30c+1da 102:300+1eb0,301+1eae,303+1eb4,309+1eb2",
   "103:300+1eb1,301+1eaf,303+1eb5,309+1eb3 112:300+1e14,301+1e16 113:300+1e15,301+1e17",
   "14c:300+1e50,301+1e52 14d:300+1e51,301+1e53 15a:307+1e64 15b:307+1e65 160:307+1e66",
   "161:307+1e67 168:301+1e78 169:301+1e79 16a:308+1e7a 16b:308+1e7b 17f:307+1e9b",
   "1a0:300+1edc,301+1eda,303+1ee0,309+1ede,323+1ee2",
   "1a1:300+1edd,301+1edb,303+1ee1,309+1edf,323+1ee3",
   "1af:300+1eea,301+1ee8,303+1eee,309+1eec,323+1ef0",
   "1b0:300+1eeb,301+1ee9,303+1eef,309+1eed,323+1ef1 1b7:30c+1ee 1ea:304+1ec 1eb:304+1ed",
   "226:304+1e0 227:304+1e1 228:306+1e1c 229:306+1e1d 22e:304+230 22f:304+231 292:30c+1ef",
   "391:300+1fba,301+386,304+1fb9,306+1fb8,313+1f08,314+1f09,345+1fbc",
   "395:300+1fc8,301+388,313+1f18,314+1f19 397:300+1fca,301+389,313+1f28,314+1f29,345+1fcc",
   "399:300+1fda,301+38a,304+1fd9,306+1fd8,308+3aa,313+1f38,314+1f39",
   "39f:300+1ff8,301+38c,313+1f48,314+1f49 3a1:314+1fec",
   "3a5:300+1fea,301+38e,304+1fe9,306+1fe8,308+3ab,314+1f59",
   "3a9:300+1ffa,301+38f,313+1f68,314+1f69,345+1ffc 3ac:345+1fb4 3ae:345+1fc4",
   "3b1:300+1f70,301+3ac,304+1fb1,306+1fb0,313+1f00,314+1f01,342+1fb6,345+1fb3",
   "3b5:300+1f72,301+3ad,313+1f10,314+1f11",
   "3b7:300+1f74,301+3ae,313+1f20,314+1f21,342+1fc6,345+1fc3",
   "3b9:300+1f76,301+3af,304+1fd1,306+1fd0,308+3ca,313+1f30,314+1f31,342+1fd6",
   "3bf:300+1f78,301+3cc,313+1f40,314+1f41 3c1:313+1fe4,314+1fe5",
   "3c5:300+1f7a,301+3cd,304+1fe1,306+1fe0,308+3cb,313+1f50,314+1f51,342+1fe6",
   "3c9:300+1f7c,301+3ce,313+1f60,314+1f61,342+1ff6,345+1ff3 3ca:300+1fd2,301+390,342+1fd7",
   "3cb:300+1fe2,301+3b0,342+1fe7 3ce:345+1ff4 3d2:301+3d3,308+3d4 406:308+407",
   "410:306+4d0,308+4d2 413:301+403 415:300+400,306+4d6,308+401 416:306+4c1,308+4dc 417:308+4de",
   "418:300+40d,304+4e2,306+419,308+4e4 41a:301+40c 41e:308+4e6",
   "423:304+4ee,306+40e,308+4f0,30b+4f2 427:308+4f4 42b:308+4f8 42d:308+4ec 430:306+4d1,308+4d3",
   "433:301+453 435:300+450,306+4d7,308+451 436:306+4c2,308+4dd 437:308+4df",
   "438:300+45d,304+4e3,306+439,308+4e5 43a:301+45c 43e:308+4e7",
   "443:304+4ef,306+45e,308+4f1,30b+4f3 447:308+4f5 44b:308+4f9 44d:308+4ed 456:308+457",
   "474:30f+476 475:30f+477 4d8:308+4da 4d9:308+4db 4e8:308+4ea 4e9:308+4eb",
   "627:653+622,654+623,655+625 648:654+624 64a:654+626 6c1:654+6c2 6d2:654+6d3 6d5:654+6c0",
   "928:93c+929 930:93c+931 933:93c+934 9c7:9be+9cb,9d7+9cc b47:b3e+b4b,b56+b48,b57+b4c",
   "b92:bd7+b94 bc6:bbe+bca,bd7+bcc bc7:bbe+bcb c46:c56+c48 cbf:cd5+cc0",
   "cc6:cc2+cca,cd5+cc7,cd6+cc8 cca:cd5+ccb d46:d3e+d4a,d57+d4c d47:d3e+d4b",
   "dd9:dca+dda,dcf+ddc,ddf+dde ddc:dca+ddd 1025:102e+1026 1b05:1b35+1b06 1b07:1b35+1b08",
   "1b09:1b35+1b0a 1b0b:1b35+1b0c 1b0d:1b35+1b0e 1b11:1b35+1b12 1b3a:1b35+1b3b 1b3c:1b35+1b3d",
   "1b3e:1b35+1b40 1b3f:1b35+1b41 1b42:1b35+1b43 1e36:304+1e38 1e37:304+1e39 1e5a:304+1e5c",
   "1e5b:304+1e5d 1e62:307+1e68 1e63:307+1e69 1ea0:302+1eac,306+1eb6 1ea1:302+1ead,306+1eb7",
   "1eb8:302+1ec6 1eb9:302+1ec7 1ecc:302+1ed8 1ecd:302+1ed9",
   "1f00:300+1f02,301+1f04,342+1f06,345+1f80 1f01:300+1f03,301+1f05,342+1f07,345+1f81",
   "1f02:345+1f82 1f03:345+1f83 1f04:345+1f84 1f05:345+1f85 1f06:345+1f86 1f07:345+1f87",
   "1f08:300+1f0a,301+1f0c,342+1f0e,345+1f88 1f09:300+1f0b,301+1f0d,342+1f0f,345+1f89",
   "1f0a:345+1f8a 1f0b:345+1f8b 1f0c:345+1f8c 1f0d:345+1f8d 1f0e:345+1f8e 1f0f:345+1f8f",
   "1f10:300+1f12,301+1f14 1f11:300+1f13,301+1f15 1f18:300+1f1a,301+1f1c 1f19:300+1f1b,301+1f1d",
   "1f20:300+1f22,301+1f24,342+1f26,345+1f90 1f21:300+1f23,301+1f25,342+1f27,345+1f91",
   "1f22:345+1f92 1f23:345+1f93 1f24:345+1f94 1f25:345+1f95 1f26:345+1f96 1f27:345+1f97",
   "1f28:300+1f2a,301+1f2c,342+1f2e,345+1f98 1f29:300+1f2b,301+1f2d,342+1f2f,345+1f99",
   "1f2a:345+1f9a 1f2b:345+1f9b 1f2c:345+1f9c 1f2d:345+1f9d 1f2e:345+1f9e 1f2f:345+1f9f",
   "1f30:300+1f32,301+1f34,342+1f36 1f31:300+1f33,301+1f35,342+1f37",
   "1f38:300+1f3a,301+1f3c,342+1f3e 1f39:300+1f3b,301+1f3d,342+1f3f 1f40:300+1f42,301+1f44",
   "1f41:300+1f43,301+1f45 1f48:300+1f4a,301+1f4c 1f49:300+1f4b,301+1f4d",
   "1f50:300+1f52,301+1f54,342+1f56 1f51:300+1f53,301+1f55,342+1f57",
   "1f59:300+1f5b,301+1f5d,342+1f5f 1f60:300+1f62,301+1f64,342+1f66,345+1fa0",
   "1f61:300+1f63,301+1f65,342+1f67,345+1fa1 1f62:345+1fa2 1f63:345+1fa3 1f64:345+1fa4",
   "1f65:345+1fa5 1f66:345+1fa6 1f67:345+1fa7 1f68:300+1f6a,301+1f6c,342+1f6e,345+1fa8",
   "1f69:300+1f6b,301+1f6d,342+1f6f,345+1fa9 1f6a:345+1faa 1f6b:345+1fab 1f6c:345+1fac",
   "1f6d:345+1fad 1f6e:345+1fae 1f6f:345+1faf 1f70:345+1fb2 1f74:345+1fc2 1f7c:345+1ff2",
   "1fb6:345+1fb7 1fc6:345+1fc7 1ff6:345+1ff7 3046:3099+3094 304b:3099+304c 304d:3099+304e",
   "304f:3099+3050 3051:3099+3052 3053:3099+3054 3055:3099+3056 3057:3099+3058 3059:3099+305a",
   "305b:3099+305c 305d:3099+305e 305f:3099+3060 3061:3099+3062 3064:3099+3065 3066:3099+3067",
   "3068:3099+3069 306f:3099+3070,309a+3071 3072:3099+3073,309a+3074 3075:3099+3076,309a+3077",
   "3078:3099+3079,309a+307a 307b:3099+307c,309a+307d 309d:3099+309e 30a6:3099+30f4",
   "30ab:3099+30ac 30ad:3099+30ae 30af:3099+30b0 30b1:3099+30b2 30b3:3099+30b4 30b5:3099+30b6",
   "30b7:3099+30b8 30b9:3099+30ba 30bb:3099+30bc 30bd:3099+30be 30bf:3099+30c0 30c1:3099+30c2",
   "30c4:3099+30c5 30c6:3099+30c7 30c8:3099+30c9 30cf:3099+30d0,309a+30d1",
   "30d2:3099+30d3,309a+30d4 30d5:3099+30d6,309a+30d7 30d8:3099+30d9,309a+30da",
   "30db:3099+30dc,309a+30dd 30ef:3099+30f7 30f0:3099+30f8 30f1:3099+30f9 30f2:3099+30fa",
   "30fd:3099+30fe 11099:110ba+1109a 1109b:110ba+1109c 110a5:110ba+110ab 11131:11127+1112e",
   "11132:11127+1112f 11347:1133e+1134b,11357+1134c 114b9:114b0+114bc,114ba+114bb,114bd+114be",
   "115b8:115af+115ba 115b9:115af+115bb 11935:11930+11938"]

/-- A first character, with the second ones and what they make of it. -/
structure Pairing where
  first : Nat
  made : List (Nat × Nat)

/-- The table, read. -/
def pairings : List Pairing :=
  (pairTable.flatMap (split ' ' ·.toList)).map fun entry =>
    let made := (split ',' ((entry.dropWhile (· ≠ ':')).drop 1)).map fun pair =>
      (ofHexadecimal (pair.takeWhile (· ≠ '+')), ofHexadecimal ((pair.dropWhile (· ≠ '+')).drop 1))
    ⟨ofHexadecimal (entry.takeWhile (· ≠ ':')), made⟩

/-- The character that two characters make. -/
def combine? (left right : Nat) : Option Nat :=
  match Hangul.join? left right with
  | some syllable => some syllable
  | none => (pairings.find? (·.first = left)).bind (·.made.lookup right)

/-- Put a character behind others, which are reversed.  A mark goes in front of
the marks of higher classes. -/
def placeMark (code : Nat) : List Nat -> List Nat
  | [] => [code]
  | last :: before =>
      if markKind code ≠ 0 && markKind last > markKind code then last :: placeMark code before
      else code :: last :: before

/-- Characters with each run of marks sorted by classes. -/
def sortMarks (codes : List Nat) : List Nat :=
  (codes.foldl (fun sorted code => placeMark code sorted) []).reverse

/-- Combine the rest of a text with the character before it and the marks, which
are reversed, that have been left behind that character.  A mark reaches the
character if all marks in between are of lower classes. -/
def composeFrom (base : Nat) (marks : List Nat) : List Nat -> List Nat
  | [] => base :: marks.reverse
  | code :: rest =>
      let reached := marks.head?.all (markKind · < markKind code)
      match if reached then combine? base code else none with
      | some combined => composeFrom combined marks rest
      | none =>
          if markKind code = 0 then base :: marks.reverse ++ composeFrom code [] rest
          else composeFrom base (code :: marks) rest

/-- Combine what can be combined. -/
def compose : List Nat -> List Nat
  | [] => []
  | code :: rest => composeFrom code [] rest

/-- The form of a name in which it is compared with others.  Plain names are in
this form already. -/
def common (name : Text) : Text :=
  if name.all (·.toNat < 0x80) then name
  else (compose (sortMarks (name.flatMap (decomposeChar ·.toNat)))).map Char.ofNat

end Text
end Oneliner
