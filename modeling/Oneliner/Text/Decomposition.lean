import Oneliner.Text.Hangul
import Oneliner.Text.Hexadecimal

namespace Oneliner
namespace Text

/-!
Decomposition of characters.

Many characters are variants or combinations of others: full-width letters,
ligatures, letters with accents.  Decomposing a text spells all of them out by
the characters that they stand for.  The tables cover the characters that can
occur in names.  They are written in hexadecimal, and syllables of Hangul are
taken apart by arithmetic.
-/

/-- A run of characters, the first of which stands for the given one, the second
for the next, and so on. -/
structure VariantRun where
  first : Nat
  last : Nat
  meant : Nat

/-- The runs of variants. -/
def variantRuns : List VariantRun :=
  [⟨0x1d33, 0x1d3a, 0x47⟩, ⟨0x1d5d, 0x1d5f, 0x3b2⟩, ⟨0x1da4, 0x1da6, 0x268⟩,
   ⟨0x1dae, 0x1db1, 0x272⟩, ⟨0x1dbc, 0x1dbe, 0x290⟩, ⟨0x2096, 0x2099, 0x6b⟩,
   ⟨0x2119, 0x211b, 0x50⟩, ⟨0x2135, 0x2138, 0x5d0⟩, ⟨0x3137, 0x3139, 0x1103⟩,
   ⟨0x313a, 0x313f, 0x11b0⟩, ⟨0x3141, 0x3143, 0x1106⟩, ⟨0x3145, 0x314e, 0x1109⟩,
   ⟨0x314f, 0x3163, 0x1161⟩, ⟨0x3178, 0x317c, 0x112b⟩, ⟨0x3184, 0x3186, 0x1157⟩,
   ⟨0xfb24, 0xfb26, 0x5db⟩, ⟨0xff10, 0xff19, 0x30⟩, ⟨0xff21, 0xff3a, 0x41⟩,
   ⟨0xff41, 0xff5a, 0x61⟩, ⟨0xff85, 0xff8a, 0x30ca⟩, ⟨0xff8f, 0xff93, 0x30de⟩,
   ⟨0xff96, 0xff9b, 0x30e8⟩, ⟨0xffa7, 0xffa9, 0x1103⟩, ⟨0xffaa, 0xffaf, 0x11b0⟩,
   ⟨0xffb1, 0xffb3, 0x1106⟩, ⟨0xffb5, 0xffbe, 0x1109⟩, ⟨0xffc2, 0xffc7, 0x1161⟩,
   ⟨0xffca, 0xffcf, 0x1167⟩, ⟨0xffd2, 0xffd7, 0x116d⟩, ⟨0xffda, 0xffdc, 0x1173⟩,
   ⟨0x107b6, 0x107b8, 0x1c0⟩, ⟨0x1d400, 0x1d419, 0x41⟩, ⟨0x1d41a, 0x1d433, 0x61⟩,
   ⟨0x1d434, 0x1d44d, 0x41⟩, ⟨0x1d44e, 0x1d454, 0x61⟩, ⟨0x1d456, 0x1d467, 0x69⟩,
   ⟨0x1d468, 0x1d481, 0x41⟩, ⟨0x1d482, 0x1d49b, 0x61⟩, ⟨0x1d4a9, 0x1d4ac, 0x4e⟩,
   ⟨0x1d4ae, 0x1d4b5, 0x53⟩, ⟨0x1d4b6, 0x1d4b9, 0x61⟩, ⟨0x1d4bd, 0x1d4c3, 0x68⟩,
   ⟨0x1d4c5, 0x1d4cf, 0x70⟩, ⟨0x1d4d0, 0x1d4e9, 0x41⟩, ⟨0x1d4ea, 0x1d503, 0x61⟩,
   ⟨0x1d507, 0x1d50a, 0x44⟩, ⟨0x1d50d, 0x1d514, 0x4a⟩, ⟨0x1d516, 0x1d51c, 0x53⟩,
   ⟨0x1d51e, 0x1d537, 0x61⟩, ⟨0x1d53b, 0x1d53e, 0x44⟩, ⟨0x1d540, 0x1d544, 0x49⟩,
   ⟨0x1d54a, 0x1d550, 0x53⟩, ⟨0x1d552, 0x1d56b, 0x61⟩, ⟨0x1d56c, 0x1d585, 0x41⟩,
   ⟨0x1d586, 0x1d59f, 0x61⟩, ⟨0x1d5a0, 0x1d5b9, 0x41⟩, ⟨0x1d5ba, 0x1d5d3, 0x61⟩,
   ⟨0x1d5d4, 0x1d5ed, 0x41⟩, ⟨0x1d5ee, 0x1d607, 0x61⟩, ⟨0x1d608, 0x1d621, 0x41⟩,
   ⟨0x1d622, 0x1d63b, 0x61⟩, ⟨0x1d63c, 0x1d655, 0x41⟩, ⟨0x1d656, 0x1d66f, 0x61⟩,
   ⟨0x1d670, 0x1d689, 0x41⟩, ⟨0x1d68a, 0x1d6a3, 0x61⟩, ⟨0x1d6a8, 0x1d6b8, 0x391⟩,
   ⟨0x1d6ba, 0x1d6c0, 0x3a3⟩, ⟨0x1d6c2, 0x1d6da, 0x3b1⟩, ⟨0x1d6e2, 0x1d6f2, 0x391⟩,
   ⟨0x1d6f4, 0x1d6fa, 0x3a3⟩, ⟨0x1d6fc, 0x1d714, 0x3b1⟩, ⟨0x1d71c, 0x1d72c, 0x391⟩,
   ⟨0x1d72e, 0x1d734, 0x3a3⟩, ⟨0x1d736, 0x1d74e, 0x3b1⟩, ⟨0x1d756, 0x1d766, 0x391⟩,
   ⟨0x1d768, 0x1d76e, 0x3a3⟩, ⟨0x1d770, 0x1d788, 0x3b1⟩, ⟨0x1d790, 0x1d7a0, 0x391⟩,
   ⟨0x1d7a2, 0x1d7a8, 0x3a3⟩, ⟨0x1d7aa, 0x1d7c2, 0x3b1⟩, ⟨0x1d7ce, 0x1d7d7, 0x30⟩,
   ⟨0x1d7d8, 0x1d7e1, 0x30⟩, ⟨0x1d7e2, 0x1d7eb, 0x30⟩, ⟨0x1d7ec, 0x1d7f5, 0x30⟩,
   ⟨0x1d7f6, 0x1d7ff, 0x30⟩, ⟨0x1ee0a, 0x1ee0d, 0x643⟩, ⟨0x1ee2a, 0x1ee2d, 0x643⟩,
   ⟨0x1ee8b, 0x1ee8d, 0x644⟩, ⟨0x1eeab, 0x1eead, 0x644⟩, ⟨0x1fbf0, 0x1fbf9, 0x30⟩]

/-- The other characters that stand for others.  Each entry names the first of
several consecutive characters and says what each of them stands for. -/
def combinationTable : List String :=
  ["aa:61 b5:3bc ba:6f",
   "c0:41+300,41+301,41+302,41+303,41+308,41+30a,c6,43+327,45+300,45+301,45+302,45+308",
   "cc:49+300,49+301,49+302,49+308,d0,4e+303,4f+300,4f+301,4f+302,4f+303,4f+308,d7",
   "d8:d8,55+300,55+301,55+302,55+308,59+301,de,df,61+300,61+301,61+302,61+303",
   "e4:61+308,61+30a,e6,63+327,65+300,65+301,65+302,65+308,69+300,69+301,69+302,69+308",
   "f0:f0,6e+303,6f+300,6f+301,6f+302,6f+303,6f+308,f7,f8,75+300,75+301,75+302",
   "fc:75+308,79+301,fe,79+308,41+304,61+304,41+306,61+306,41+328,61+328,43+301,63+301",
   "108:43+302,63+302,43+307,63+307,43+30c,63+30c,44+30c,64+30c,110,111,45+304,65+304",
   "114:45+306,65+306,45+307,65+307,45+328,65+328,45+30c,65+30c,47+302,67+302,47+306",
   "11f:67+306,47+307,67+307,47+327,67+327,48+302,68+302,126,127,49+303,69+303,49+304",
   "12b:69+304,49+306,69+306,49+328,69+328,49+307,131,49+4a,69+6a,4a+302,6a+302,4b+327",
   "137:6b+327,138,4c+301,6c+301,4c+327,6c+327,4c+30c,6c+30c,4c+b7,6c+b7,141,142",
   "143:4e+301,6e+301,4e+327,6e+327,4e+30c,6e+30c,2bc+6e,14a,14b,4f+304,6f+304,4f+306",
   "14f:6f+306,4f+30b,6f+30b,152,153,52+301,72+301,52+327,72+327,52+30c,72+30c,53+301",
   "15b:73+301,53+302,73+302,53+327,73+327,53+30c,73+30c,54+327,74+327,54+30c,74+30c,166",
   "167:167,55+303,75+303,55+304,75+304,55+306,75+306,55+30a,75+30a,55+30b,75+30b,55+328",
   "173:75+328,57+302,77+302,59+302,79+302,59+308,5a+301,7a+301,5a+307,7a+307,5a+30c",
   "17e:7a+30c,73 1a0:4f+31b,6f+31b 1af:55+31b,75+31b",
   "1c4:44+5a+30c,44+7a+30c,64+7a+30c,4c+4a,4c+6a,6c+6a,4e+4a,4e+6a,6e+6a,41+30c,61+30c",
   "1cf:49+30c,69+30c,4f+30c,6f+30c,55+30c,75+30c,55+308+304,75+308+304,55+308+301",
   "1d8:75+308+301,55+308+30c,75+308+30c,55+308+300,75+308+300,1dd,41+308+304,61+308+304",
   "1e0:41+307+304,61+307+304,c6+304,e6+304,1e4,1e5,47+30c,67+30c,4b+30c,6b+30c,4f+328",
   "1eb:6f+328,4f+328+304,6f+328+304,1b7+30c,292+30c,6a+30c,44+5a,44+7a,64+7a,47+301",
   "1f5:67+301,1f6,1f7,4e+300,6e+300,41+30a+301,61+30a+301,c6+301,e6+301,d8+301,f8+301",
   "200:41+30f,61+30f,41+311,61+311,45+30f,65+30f,45+311,65+311,49+30f,69+30f,49+311",
   "20b:69+311,4f+30f,6f+30f,4f+311,6f+311,52+30f,72+30f,52+311,72+311,55+30f,75+30f",
   "216:55+311,75+311,53+326,73+326,54+326,74+326,21c,21d,48+30c,68+30c",
   "226:41+307,61+307,45+327,65+327,4f+308+304,6f+308+304,4f+303+304,6f+303+304,4f+307",
   "22f:6f+307,4f+307+304,6f+307+304,59+304,79+304 2b0:68,266,6a,72,279,27b,281,77,79",
   "2e0:263,6c,73,78,295 340:300,301,342,313,308+301 374:2b9",
   "386:391+301,b7,395+301,397+301,399+301,38b,39f+301,38d,3a5+301,3a9+301,3b9+308+301",
   "3aa:399+308,3a5+308,3b1+301,3b5+301,3b7+301,3b9+301,3c5+308+301",
   "3ca:3b9+308,3c5+308,3bf+301,3c5+301,3c9+301,3cf,3b2,3b8,3a5,3a5+301,3a5+308,3c6 3d6:3c0",
   "3f0:3ba,3c1,3c2,3f3,398,3b5 3f9:3a3 400:415+300,415+308,402,413+301 407:406+308",
   "40c:41a+301,418+300,423+306 419:418+306 439:438+306 450:435+300,435+308,452,433+301",
   "457:456+308 45c:43a+301,438+300,443+306 476:474+30f,475+30f 4c1:416+306,436+306",
   "4d0:410+306,430+306,410+308,430+308,4d4,4d5,415+306,435+306,4d8,4d9,4d8+308,4d9+308",
   "4dc:416+308,436+308,417+308,437+308,4e0,4e1,418+304,438+304,418+308,438+308,41e+308",
   "4e7:43e+308,4e8,4e9,4e8+308,4e9+308,42d+308,44d+308,423+304,443+304,423+308,443+308",
   "4f2:423+30b,443+30b,427+308,447+308,4f6,4f7,42b+308,44b+308 587:565+582",
   "622:627+653,627+654,648+654,627+655,64a+654 675:627+674,648+674,6c7+674,64a+674",
   "6c0:6d5+654,6c1,6c1+654 6d3:6d2+654 929:928+93c 931:930+93c,932,933,933+93c",
   "958:915+93c,916+93c,917+93c,91c+93c,921+93c,922+93c,92b+93c,92f+93c 9cb:9c7+9be,9c7+9d7",
   "9dc:9a1+9bc,9a2+9bc,9de,9af+9bc a33:a32+a3c,a34,a35,a38+a3c",
   "a59:a16+a3c,a17+a3c,a1c+a3c,a5c,a5d,a2b+a3c b48:b47+b56,b49,b4a,b47+b3e,b47+b57",
   "b5c:b21+b3c,b22+b3c b94:b92+bd7 bca:bc6+bbe,bc7+bbe,bc6+bd7 c48:c46+c56 cc0:cbf+cd5",
   "cc7:cc6+cd5,cc6+cd6,cc9,cc6+cc2,cc6+cc2+cd5 d4a:d46+d3e,d47+d3e,d46+d57",
   "dda:dd9+dca,ddb,dd9+dcf,dd9+dcf+dca,dd9+ddf e33:e4d+e32 eb3:ecd+eb2 edc:eab+e99,eab+ea1",
   "f43:f42+fb7 f4d:f4c+fb7 f52:f51+fb7 f57:f56+fb7 f5c:f5b+fb7 f69:f40+fb5",
   "f73:f71+f72,f74,f71+f74,fb2+f80,fb2+f71+f80,fb3+f80,fb3+f71+f80 f81:f71+f80 f93:f92+fb7",
   "f9d:f9c+fb7 fa2:fa1+fb7 fa7:fa6+fb7 fac:fab+fb7 fb9:f90+fb5 1026:1025+102e 10fc:10dc",
   "1b06:1b05+1b35,1b07,1b07+1b35,1b09,1b09+1b35,1b0b,1b0b+1b35,1b0d,1b0d+1b35 1b12:1b11+1b35",
   "1b3b:1b3a+1b35,1b3c,1b3c+1b35,1b3e,1b3f,1b3e+1b35,1b3f+1b35,1b42,1b42+1b35",
   "1d2c:41,c6,42,1d2f,44,45,18e 1d3c:4f,222,50,52,54,55,57,61,250,251,1d02,62",
   "1d48:64,65,259,25b,25c,67,1d4e,6b,6d,14b,6f,254 1d54:1d16,1d17,70,74,75,1d1d,26f,76,1d25",
   "1d60:3c6,3c7,69,72,75,76,3b2,3b3,3c1,3c6,3c7 1d78:43d 1d9b:252,63,255,f0,25c,66,25f,261,265",
   "1da7:1d7b,29d,26d,1d85,29f,271,270 1db2:278,282,283,1ab,289,28a,1d1c,28b,28c,7a 1dbf:3b8",
   "1e00:41+325,61+325,42+307,62+307,42+323,62+323,42+331,62+331,43+327+301,63+327+301",
   "1e0a:44+307,64+307,44+323,64+323,44+331,64+331,44+327,64+327,44+32d,64+32d,45+304+300",
   "1e15:65+304+300,45+304+301,65+304+301,45+32d,65+32d,45+330,65+330,45+327+306",
   "1e1d:65+327+306,46+307,66+307,47+304,67+304,48+307,68+307,48+323,68+323,48+308,68+308",
   "1e28:48+327,68+327,48+32e,68+32e,49+330,69+330,49+308+301,69+308+301,4b+301,6b+301",
   "1e32:4b+323,6b+323,4b+331,6b+331,4c+323,6c+323,4c+323+304,6c+323+304,4c+331,6c+331",
   "1e3c:4c+32d,6c+32d,4d+301,6d+301,4d+307,6d+307,4d+323,6d+323,4e+307,6e+307,4e+323",
   "1e47:6e+323,4e+331,6e+331,4e+32d,6e+32d,4f+303+301,6f+303+301,4f+303+308,6f+303+308",
   "1e50:4f+304+300,6f+304+300,4f+304+301,6f+304+301,50+301,70+301,50+307,70+307,52+307",
   "1e59:72+307,52+323,72+323,52+323+304,72+323+304,52+331,72+331,53+307,73+307,53+323",
   "1e63:73+323,53+301+307,73+301+307,53+30c+307,73+30c+307,53+323+307,73+323+307,54+307",
   "1e6b:74+307,54+323,74+323,54+331,74+331,54+32d,74+32d,55+324,75+324,55+330,75+330",
   "1e76:55+32d,75+32d,55+303+301,75+303+301,55+304+308,75+304+308,56+303,76+303,56+323",
   "1e7f:76+323,57+300,77+300,57+301,77+301,57+308,77+308,57+307,77+307,57+323,77+323",
   "1e8a:58+307,78+307,58+308,78+308,59+307,79+307,5a+302,7a+302,5a+323,7a+323,5a+331",
   "1e95:7a+331,68+331,74+308,77+30a,79+30a,61+2be,73+307",
   "1ea0:41+323,61+323,41+309,61+309,41+302+301,61+302+301,41+302+300,61+302+300",
   "1ea8:41+302+309,61+302+309,41+302+303,61+302+303,41+323+302,61+323+302,41+306+301",
   "1eaf:61+306+301,41+306+300,61+306+300,41+306+309,61+306+309,41+306+303,61+306+303",
   "1eb6:41+323+306,61+323+306,45+323,65+323,45+309,65+309,45+303,65+303,45+302+301",
   "1ebf:65+302+301,45+302+300,65+302+300,45+302+309,65+302+309,45+302+303,65+302+303",
   "1ec6:45+323+302,65+323+302,49+309,69+309,49+323,69+323,4f+323,6f+323,4f+309,6f+309",
   "1ed0:4f+302+301,6f+302+301,4f+302+300,6f+302+300,4f+302+309,6f+302+309,4f+302+303",
   "1ed7:6f+302+303,4f+323+302,6f+323+302,4f+31b+301,6f+31b+301,4f+31b+300,6f+31b+300",
   "1ede:4f+31b+309,6f+31b+309,4f+31b+303,6f+31b+303,4f+31b+323,6f+31b+323,55+323,75+323",
   "1ee6:55+309,75+309,55+31b+301,75+31b+301,55+31b+300,75+31b+300,55+31b+309,75+31b+309",
   "1eee:55+31b+303,75+31b+303,55+31b+323,75+31b+323,59+300,79+300,59+323,79+323,59+309",
   "1ef7:79+309,59+303,79+303",
   "1f00:3b1+313,3b1+314,3b1+313+300,3b1+314+300,3b1+313+301,3b1+314+301,3b1+313+342",
   "1f07:3b1+314+342,391+313,391+314,391+313+300,391+314+300,391+313+301,391+314+301",
   "1f0e:391+313+342,391+314+342,3b5+313,3b5+314,3b5+313+300,3b5+314+300,3b5+313+301",
   "1f15:3b5+314+301,1f16,1f17,395+313,395+314,395+313+300,395+314+300,395+313+301",
   "1f1d:395+314+301,1f1e,1f1f,3b7+313,3b7+314,3b7+313+300,3b7+314+300,3b7+313+301",
   "1f25:3b7+314+301,3b7+313+342,3b7+314+342,397+313,397+314,397+313+300,397+314+300",
   "1f2c:397+313+301,397+314+301,397+313+342,397+314+342,3b9+313,3b9+314,3b9+313+300",
   "1f33:3b9+314+300,3b9+313+301,3b9+314+301,3b9+313+342,3b9+314+342,399+313,399+314",
   "1f3a:399+313+300,399+314+300,399+313+301,399+314+301,399+313+342,399+314+342,3bf+313",
   "1f41:3bf+314,3bf+313+300,3bf+314+300,3bf+313+301,3bf+314+301,1f46,1f47,39f+313",
   "1f49:39f+314,39f+313+300,39f+314+300,39f+313+301,39f+314+301,1f4e,1f4f,3c5+313",
   "1f51:3c5+314,3c5+313+300,3c5+314+300,3c5+313+301,3c5+314+301,3c5+313+342,3c5+314+342",
   "1f58:1f58,3a5+314,1f5a,3a5+314+300,1f5c,3a5+314+301,1f5e,3a5+314+342,3c9+313,3c9+314",
   "1f62:3c9+313+300,3c9+314+300,3c9+313+301,3c9+314+301,3c9+313+342,3c9+314+342,3a9+313",
   "1f69:3a9+314,3a9+313+300,3a9+314+300,3a9+313+301,3a9+314+301,3a9+313+342,3a9+314+342",
   "1f70:3b1+300,3b1+301,3b5+300,3b5+301,3b7+300,3b7+301,3b9+300,3b9+301,3bf+300,3bf+301",
   "1f7a:3c5+300,3c5+301,3c9+300,3c9+301,1f7e,1f7f,3b1+313+345,3b1+314+345",
   "1f82:3b1+313+300+345,3b1+314+300+345,3b1+313+301+345,3b1+314+301+345,3b1+313+342+345",
   "1f87:3b1+314+342+345,391+313+345,391+314+345,391+313+300+345,391+314+300+345",
   "1f8c:391+313+301+345,391+314+301+345,391+313+342+345,391+314+342+345,3b7+313+345",
   "1f91:3b7+314+345,3b7+313+300+345,3b7+314+300+345,3b7+313+301+345,3b7+314+301+345",
   "1f96:3b7+313+342+345,3b7+314+342+345,397+313+345,397+314+345,397+313+300+345",
   "1f9b:397+314+300+345,397+313+301+345,397+314+301+345,397+313+342+345,397+314+342+345",
   "1fa0:3c9+313+345,3c9+314+345,3c9+313+300+345,3c9+314+300+345,3c9+313+301+345",
   "1fa5:3c9+314+301+345,3c9+313+342+345,3c9+314+342+345,3a9+313+345,3a9+314+345",
   "1faa:3a9+313+300+345,3a9+314+300+345,3a9+313+301+345,3a9+314+301+345,3a9+313+342+345",
   "1faf:3a9+314+342+345,3b1+306,3b1+304,3b1+300+345,3b1+345,3b1+301+345,1fb5,3b1+342",
   "1fb7:3b1+342+345,391+306,391+304,391+300,391+301,391+345,1fbd,3b9",
   "1fc2:3b7+300+345,3b7+345,3b7+301+345,1fc5,3b7+342,3b7+342+345,395+300,395+301,397+300",
   "1fcb:397+301,397+345",
   "1fd0:3b9+306,3b9+304,3b9+308+300,3b9+308+301,1fd4,1fd5,3b9+342,3b9+308+342,399+306",
   "1fd9:399+304,399+300,399+301",
   "1fe0:3c5+306,3c5+304,3c5+308+300,3c5+308+301,3c1+313,3c1+314,3c5+342,3c5+308+342",
   "1fe8:3a5+306,3a5+304,3a5+300,3a5+301,3a1+314",
   "1ff2:3c9+300+345,3c9+345,3c9+301+345,1ff5,3c9+342,3c9+342+345,39f+300,39f+301,3a9+300",
   "1ffb:3a9+301,3a9+345 2071:69 207f:6e 2090:61,65,6f,78,259,68 209a:70,73,74 2102:43",
   "2107:190,2108,2109,67,48,48,48,68,127,49,49,4c 2113:6c,2114,4e 211c:52,52",
   "2124:5a,2125,3a9,2127,5a,2129,4b,41+30a,42,43,212e,65 2130:45,46,2132,4d,6f",
   "2139:69,213a,213b,3c0,3b3,393,3a0 2145:44,64,65,69,6a",
   "2160:49,49+49,49+49+49,49+56,56,56+49,56+49+49,56+49+49+49,49+58,58,58+49,58+49+49",
   "216c:4c,43,44,4d,69,69+69,69+69+69,69+76,76,76+69,76+69+69,76+69+69+69",
   "2178:69+78,78,78+69,78+69+69,6c,63,64,6d 2c7c:6a,56 2d6f:2d61 3038:5341,5344,5345",
   "304c:304b+3099,304d,304d+3099,304f,304f+3099,3051,3051+3099,3053,3053+3099,3055",
   "3056:3055+3099,3057,3057+3099,3059,3059+3099,305b,305b+3099,305d,305d+3099,305f",
   "3060:305f+3099,3061,3061+3099,3063,3064,3064+3099,3066,3066+3099,3068,3068+3099",
   "3070:306f+3099,306f+309a,3072,3072+3099,3072+309a,3075,3075+3099,3075+309a,3078",
   "3079:3078+3099,3078+309a,307b,307b+3099,307b+309a 3094:3046+3099 309e:309d+3099,3088+308a",
   "30ac:30ab+3099,30ad,30ad+3099,30af,30af+3099,30b1,30b1+3099,30b3,30b3+3099,30b5",
   "30b6:30b5+3099,30b7,30b7+3099,30b9,30b9+3099,30bb,30bb+3099,30bd,30bd+3099,30bf",
   "30c0:30bf+3099,30c1,30c1+3099,30c3,30c4,30c4+3099,30c6,30c6+3099,30c8,30c8+3099",
   "30d0:30cf+3099,30cf+309a,30d2,30d2+3099,30d2+309a,30d5,30d5+3099,30d5+309a,30d8",
   "30d9:30d8+3099,30d8+309a,30db,30db+3099,30db+309a",
   "30f4:30a6+3099,30f5,30f6,30ef+3099,30f0+3099,30f1+3099,30f2+3099 30fe:30fd+3099,30b3+30c8",
   "3131:1100,1101,11aa,1102,11ac,11ad 3140:111a 3144:1121",
   "3164:1160,1114,1115,11c7,11c8,11cc,11ce,11d3,11d7,11d9,111c,11dd",
   "3170:11df,111d,111e,1120,1122,1123,1127,1129 317d:1132,1136,1140,1147,114c,11f1,11f2",
   "3187:1184,1185,1188,1191,1192,1194,119e,11a1 a69c:44a,44c a770:a76f a7f2:43,46,51",
   "a7f8:126,153 ab5c:a727,ab37,26b,ab52 ab69:28d",
   "f900:8c48,66f4,8eca,8cc8,6ed1,4e32,53e5,9f9c,9f9c,5951,91d1,5587",
   "f90c:5948,61f6,7669,7f85,863f,87ba,88f8,908f,6a02,6d1b,70d9,73de",
   "f918:843d,916a,99f1,4e82,5375,6b04,721b,862d,9e1e,5d50,6feb,85cd",
   "f924:8964,62c9,81d8,881f,5eca,6717,6d6a,72fc,90ce,4f86,51b7,52de",
   "f930:64c4,6ad3,7210,76e7,8001,8606,865c,8def,9732,9b6f,9dfa,788c",
   "f93c:797f,7da0,83c9,9304,9e7f,8ad6,58df,5f04,7c60,807e,7262,78ca",
   "f948:8cc2,96f7,58d8,5c62,6a13,6dda,6f0f,7d2f,7e37,964b,52d2,808b",
   "f954:51dc,51cc,7a1c,7dbe,83f1,9675,8b80,62cf,6a02,8afe,4e39,5be7",
   "f960:6012,7387,7570,5317,78fb,4fbf,5fa9,4e0d,6ccc,6578,7d22,53c3",
   "f96c:585e,7701,8449,8aaa,6bba,8fb0,6c88,62fe,82e5,63a0,7565,4eae",
   "f978:5169,51c9,6881,7ce7,826f,8ad2,91cf,52f5,5442,5973,5eec,65c5",
   "f984:6ffe,792a,95ad,9a6a,9e97,9ece,529b,66c6,6b77,8f62,5e74,6190",
   "f990:6200,649a,6f23,7149,7489,79ca,7df4,806f,8f26,84ee,9023,934a",
   "f99c:5217,52a3,54bd,70c8,88c2,8aaa,5ec9,5ff5,637b,6bae,7c3e,7375",
   "f9a8:4ee4,56f9,5be7,5dba,601c,73b2,7469,7f9a,8046,9234,96f6,9748",
   "f9b4:9818,4f8b,79ae,91b4,96b8,60e1,4e86,50da,5bee,5c3f,6599,6a02",
   "f9c0:71ce,7642,84fc,907c,9f8d,6688,962e,5289,677b,67f3,6d41,6e9c",
   "f9cc:7409,7559,786b,7d10,985e,516d,622e,9678,502b,5d19,6dea,8f2a",
   "f9d8:5f8b,6144,6817,7387,9686,5229,540f,5c65,6613,674e,68a8,6ce5",
   "f9e4:7406,75e2,7f79,88cf,88e1,91cc,96e2,533f,6eba,541d,71d0,7498",
   "f9f0:85fa,96a3,9c57,9e9f,6797,6dcb,81e8,7acb,7b20,7c92,72c0,7099",
   "f9fc:8b58,4ec0,8336,523a,5207,5ea6,62d3,7cd6,5b85,6d1e,66b4,8f3b",
   "fa08:884c,964d,898b,5ed3,5140,55c0,fa0e,fa0f,585a,fa11,6674,fa13",
   "fa14:fa14,51de,732a,76ca,793c,795e,7965,798f,9756,7cbe,7fbd,fa1f",
   "fa20:8612,fa21,8af8,fa23,fa24,9038,90fd",
   "fa2a:98ef,98fc,9928,9db4,90de,96b7,4fae,50e7,514d,52c9,52e4,5351",
   "fa36:559d,5606,5668,5840,58a8,5c64,5c6e,6094,6168,618e,61f2,654f",
   "fa42:65e2,6691,6885,6d77,6e1a,6f22,716e,722b,7422,7891,793e,7949",
   "fa4e:7948,7950,7956,795d,798d,798e,7a40,7a81,7bc0,7df4,7e09,7e41",
   "fa5a:7f72,8005,81ed,8279,8279,8457,8910,8996,8b01,8b39,8cd3,8d08",
   "fa66:8fb6,9038,96e3,97ff,983b,6075,242ee,8218,fa6e,fa6f,4e26,51b5",
   "fa72:5168,4f80,5145,5180,52c7,52fa,559d,5555,5599,55e2,585a,58b3",
   "fa7e:5944,5954,5a62,5b28,5ed2,5ed9,5f69,5fad,60d8,614e,6108,618e",
   "fa8a:6160,61f2,6234,63c4,641c,6452,6556,6674,6717,671b,6756,6b79",
   "fa96:6bba,6d41,6edb,6ecb,6f22,701e,716e,77a7,7235,72af,732a,7471",
   "faa2:7506,753b,761d,761f,76ca,76db,76f4,774a,7740,78cc,7ab1,7bc0",
   "faae:7c7b,7d5b,7df4,7f3e,8005,8352,83ef,8779,8941,8986,8996,8abf",
   "faba:8af8,8acb,8b01,8afe,8aed,8b39,8b8a,8d08,8f38,9072,9199,9276",
   "fac6:967c,96e3,9756,97db,97ff,980b,983b,9b12,9f9c,2284a,22844,233d5",
   "fad2:3b9d,4018,4039,25249,25cd0,27ed3,9f43,9f8e",
   "fb00:66+66,66+69,66+6c,66+66+69,66+66+6c,73+74,73+74",
   "fb13:574+576,574+565,574+56b,57e+576,574+56d fb1d:5d9+5b4,fb1e,5f2+5b7,5e2,5d0,5d3,5d4",
   "fb27:5e8,5ea,fb29,5e9+5c1,5e9+5c2,5e9+5bc+5c1,5e9+5bc+5c2,5d0+5b7,5d0+5b8,5d0+5bc",
   "fb31:5d1+5bc,5d2+5bc,5d3+5bc,5d4+5bc,5d5+5bc,5d6+5bc,fb37,5d8+5bc,5d9+5bc,5da+5bc",
   "fb3b:5db+5bc,5dc+5bc,fb3d,5de+5bc,fb3f,5e0+5bc,5e1+5bc,fb42,5e3+5bc,5e4+5bc,fb45",
   "fb46:5e6+5bc,5e7+5bc,5e8+5bc,5e9+5bc,5ea+5bc,5d5+5b9,5d1+5bf,5db+5bf,5e4+5bf,5d0+5dc",
   "fb50:671,671,67b,67b,67b,67b,67e,67e,67e,67e,680,680",
   "fb5c:680,680,67a,67a,67a,67a,67f,67f,67f,67f,679,679",
   "fb68:679,679,6a4,6a4,6a4,6a4,6a6,6a6,6a6,6a6,684,684",
   "fb74:684,684,683,683,683,683,686,686,686,686,687,687",
   "fb80:687,687,68d,68d,68c,68c,68e,68e,688,688,698,698",
   "fb8c:691,691,6a9,6a9,6a9,6a9,6af,6af,6af,6af,6b3,6b3",
   "fb98:6b3,6b3,6b1,6b1,6b1,6b1,6ba,6ba,6bb,6bb,6bb,6bb",
   "fba4:6d5+654,6d5+654,6c1,6c1,6c1,6c1,6be,6be,6be,6be,6d2,6d2 fbb0:6d2+654,6d2+654",
   "fbd3:6ad,6ad,6ad,6ad,6c7,6c7,6c6,6c6,6c8,6c8,6c7+674,6cb",
   "fbdf:6cb,6c5,6c5,6c9,6c9,6d0,6d0,6d0,6d0,649,649,64a+654+627",
   "fbeb:64a+654+627,64a+654+6d5,64a+654+6d5,64a+654+648,64a+654+648,64a+654+6c7",
   "fbf1:64a+654+6c7,64a+654+6c6,64a+654+6c6,64a+654+6c8,64a+654+6c8,64a+654+6d0",
   "fbf7:64a+654+6d0,64a+654+6d0,64a+654+649,64a+654+649,64a+654+649,6cc,6cc,6cc,6cc",
   "fc00:64a+654+62c,64a+654+62d,64a+654+645,64a+654+649,64a+654+64a,628+62c,628+62d",
   "fc07:628+62e,628+645,628+649,628+64a,62a+62c,62a+62d,62a+62e,62a+645,62a+649,62a+64a",
   "fc11:62b+62c,62b+645,62b+649,62b+64a,62c+62d,62c+645,62d+62c,62d+645,62e+62c,62e+62d",
   "fc1b:62e+645,633+62c,633+62d,633+62e,633+645,635+62d,635+645,636+62c,636+62d,636+62e",
   "fc25:636+645,637+62d,637+645,638+645,639+62c,639+645,63a+62c,63a+645,641+62c,641+62d",
   "fc2f:641+62e,641+645,641+649,641+64a,642+62d,642+645,642+649,642+64a,643+627,643+62c",
   "fc39:643+62d,643+62e,643+644,643+645,643+649,643+64a,644+62c,644+62d,644+62e,644+645",
   "fc43:644+649,644+64a,645+62c,645+62d,645+62e,645+645,645+649,645+64a,646+62c,646+62d",
   "fc4d:646+62e,646+645,646+649,646+64a,647+62c,647+645,647+649,647+64a,64a+62c,64a+62d",
   "fc57:64a+62e,64a+645,64a+649,64a+64a,630+670,631+670,649+670",
   "fc64:64a+654+631,64a+654+632,64a+654+645,64a+654+646,64a+654+649,64a+654+64a,628+631",
   "fc6b:628+632,628+645,628+646,628+649,628+64a,62a+631,62a+632,62a+645,62a+646,62a+649",
   "fc75:62a+64a,62b+631,62b+632,62b+645,62b+646,62b+649,62b+64a,641+649,641+64a,642+649",
   "fc7f:642+64a,643+627,643+644,643+645,643+649,643+64a,644+645,644+649,644+64a,645+627",
   "fc89:645+645,646+631,646+632,646+645,646+646,646+649,646+64a,649+670,64a+631,64a+632",
   "fc93:64a+645,64a+646,64a+649,64a+64a,64a+654+62c,64a+654+62d,64a+654+62e,64a+654+645",
   "fc9b:64a+654+647,628+62c,628+62d,628+62e,628+645,628+647,62a+62c,62a+62d,62a+62e",
   "fca4:62a+645,62a+647,62b+645,62c+62d,62c+645,62d+62c,62d+645,62e+62c,62e+645,633+62c",
   "fcae:633+62d,633+62e,633+645,635+62d,635+62e,635+645,636+62c,636+62d,636+62e,636+645",
   "fcb8:637+62d,638+645,639+62c,639+645,63a+62c,63a+645,641+62c,641+62d,641+62e,641+645",
   "fcc2:642+62d,642+645,643+62c,643+62d,643+62e,643+644,643+645,644+62c,644+62d,644+62e",
   "fccc:644+645,644+647,645+62c,645+62d,645+62e,645+645,646+62c,646+62d,646+62e,646+645",
   "fcd6:646+647,647+62c,647+645,647+670,64a+62c,64a+62d,64a+62e,64a+645,64a+647",
   "fcdf:64a+654+645,64a+654+647,628+645,628+647,62a+645,62a+647,62b+645,62b+647,633+645",
   "fce8:633+647,634+645,634+647,643+644,643+645,644+645,646+645,646+647,64a+645,64a+647",
   "fcf2:640+64e+651,640+64f+651,640+650+651,637+649,637+64a,639+649,639+64a,63a+649",
   "fcfa:63a+64a,633+649,633+64a,634+649,634+64a,62d+649,62d+64a,62c+649,62c+64a,62e+649",
   "fd04:62e+64a,635+649,635+64a,636+649,636+64a,634+62c,634+62d,634+62e,634+645,634+631",
   "fd0e:633+631,635+631,636+631,637+649,637+64a,639+649,639+64a,63a+649,63a+64a,633+649",
   "fd18:633+64a,634+649,634+64a,62d+649,62d+64a,62c+649,62c+64a,62e+649,62e+64a,635+649",
   "fd22:635+64a,636+649,636+64a,634+62c,634+62d,634+62e,634+645,634+631,633+631,635+631",
   "fd2c:636+631,634+62c,634+62d,634+62e,634+645,633+647,634+647,637+645,633+62c,633+62d",
   "fd36:633+62e,634+62c,634+62d,634+62e,637+645,638+645,627+64b,627+64b",
   "fd50:62a+62c+645,62a+62d+62c,62a+62d+62c,62a+62d+645,62a+62e+645,62a+645+62c",
   "fd56:62a+645+62d,62a+645+62e,62c+645+62d,62c+645+62d,62d+645+64a,62d+645+649",
   "fd5c:633+62d+62c,633+62c+62d,633+62c+649,633+645+62d,633+645+62d,633+645+62c",
   "fd62:633+645+645,633+645+645,635+62d+62d,635+62d+62d,635+645+645,634+62d+645",
   "fd68:634+62d+645,634+62c+64a,634+645+62e,634+645+62e,634+645+645,634+645+645",
   "fd6e:636+62d+649,636+62e+645,636+62e+645,637+645+62d,637+645+62d,637+645+645",
   "fd74:637+645+64a,639+62c+645,639+645+645,639+645+645,639+645+649,63a+645+645",
   "fd7a:63a+645+64a,63a+645+649,641+62e+645,641+62e+645,642+645+62d,642+645+645",
   "fd80:644+62d+645,644+62d+64a,644+62d+649,644+62c+62c,644+62c+62c,644+62e+645",
   "fd86:644+62e+645,644+645+62d,644+645+62d,645+62d+62c,645+62d+645,645+62d+64a",
   "fd8c:645+62c+62d,645+62c+645,645+62e+62c,645+62e+645,fd90,fd91,645+62c+62e",
   "fd93:647+645+62c,647+645+645,646+62d+645,646+62d+649,646+62c+645,646+62c+645",
   "fd99:646+62c+649,646+645+64a,646+645+649,64a+645+645,64a+645+645,628+62e+64a",
   "fd9f:62a+62c+64a,62a+62c+649,62a+62e+64a,62a+62e+649,62a+645+64a,62a+645+649",
   "fda5:62c+645+64a,62c+62d+649,62c+645+649,633+62e+649,635+62d+64a,634+62d+64a",
   "fdab:636+62d+64a,644+62c+64a,644+645+64a,64a+62d+64a,64a+62c+64a,64a+645+64a",
   "fdb1:645+645+64a,642+645+64a,646+62d+64a,642+645+62d,644+62d+645,639+645+64a",
   "fdb7:643+645+64a,646+62c+62d,645+62e+64a,644+62c+645,643+645+645,644+62c+645",
   "fdbd:646+62c+62d,62c+62d+64a,62d+62c+64a,645+62c+64a,641+645+64a,628+62d+64a",
   "fdc3:643+645+645,639+62c+645,635+645+645,633+62e+64a,646+62c+64a",
   "fdf0:635+644+6d2,642+644+6d2,627+644+644+647,627+643+628+631,645+62d+645+62f",
   "fdf5:635+644+639+645,631+633+648+644,639+644+64a+647,648+633+644+645,635+644+649 fe33:5f,5f",
   "fe4d:5f,5f,5f fe71:640+64b",
   "fe77:640+64e,fe78,640+64f,fe7a,640+650,fe7c,640+651,fe7e,640+652,621,627+653,627+653",
   "fe83:627+654,627+654,648+654,648+654,627+655,627+655,64a+654,64a+654,64a+654,64a+654",
   "fe8d:627,627,628,628,628,628,629,629,62a,62a,62a,62a",
   "fe99:62b,62b,62b,62b,62c,62c,62c,62c,62d,62d,62d,62d",
   "fea5:62e,62e,62e,62e,62f,62f,630,630,631,631,632,632",
   "feb1:633,633,633,633,634,634,634,634,635,635,635,635",
   "febd:636,636,636,636,637,637,637,637,638,638,638,638",
   "fec9:639,639,639,639,63a,63a,63a,63a,641,641,641,641",
   "fed5:642,642,642,642,643,643,643,643,644,644,644,644",
   "fee1:645,645,645,645,646,646,646,646,647,647,647,647",
   "feed:648,648,649,649,64a,64a,64a,64a,644+627+653,644+627+653,644+627+654,644+627+654",
   "fef9:644+627+655,644+627+655,644+627,644+627 ff3f:5f",
   "ff66:30f2,30a1,30a3,30a5,30a7,30a9,30e3,30e5,30e7,30c3,30fc,30a2",
   "ff72:30a4,30a6,30a8,30aa,30ab,30ad,30af,30b1,30b3,30b5,30b7,30b9",
   "ff7e:30bb,30bd,30bf,30c1,30c4,30c6,30c8 ff8b:30d2,30d5,30d8,30db ff94:30e4,30e6",
   "ff9c:30ef,30f3,3099,309a,1160,1100,1101,11aa,1102,11ac,11ad ffb0:111a ffb4:1121",
   "10781:2d0,2d1,e6,299,253,10786,2a3,ab66,2a5,2a4,256,257",
   "1078d:1d91,258,25e,2a9,264,262,260,29b,127,29c,267,284",
   "10799:2aa,2ab,26c,1df04,a78e,26e,1df05,28e,1df06,f8,276,277",
   "107a5:71,27a,1df08,27d,27e,280,2a8,2a6,ab67,2a7,288,2c71 107b1:107b1,28f,2a1,2a2,298",
   "107b9:1df0a,1df1e 1109a:11099+110ba,1109b,1109b+110ba 110ab:110a5+110ba",
   "1112e:11131+11127,11132+11127 1134b:11347+1133e,11347+11357",
   "114bb:114b9+114ba,114b9+114b0,114bd,114b9+114bd 115ba:115b8+115af,115b9+115af",
   "11938:11935+11930 1d49c:41,1d49d,43,44,1d4a0,1d4a1,47,1d4a3,1d4a4,4a,4b 1d4bb:66 1d504:41,42",
   "1d538:41,42 1d546:4f 1d6a4:131,237 1d6b9:398 1d6dc:3b5,3b8,3ba,3c6,3c1,3c0 1d6f3:398",
   "1d716:3b5,3b8,3ba,3c6,3c1,3c0 1d72d:398 1d750:3b5,3b8,3ba,3c6,3c1,3c0 1d767:398",
   "1d78a:3b5,3b8,3ba,3c6,3c1,3c0 1d7a1:398 1d7c4:3b5,3b8,3ba,3c6,3c1,3c0,3dc,3dd",
   "1ee00:627,628,62c,62f,1ee04,648,632,62d,637,64a",
   "1ee0e:633,639,641,635,642,631,634,62a,62b,62e,630,636",
   "1ee1a:638,63a,66e,6ba,6a1,66f,1ee20,628,62c,1ee23,647,1ee25 1ee26:1ee26,62d,1ee28,64a",
   "1ee2e:633,639,641,635,642,1ee33,634,62a,62b,62e,1ee38,636 1ee3a:1ee3a,63a 1ee42:62c",
   "1ee47:62d,1ee48,64a,1ee4a,644,1ee4c,646,633,639,1ee50,635,642",
   "1ee53:1ee53,634,1ee55,1ee56,62e,1ee58,636,1ee5a,63a,1ee5c,6ba,1ee5e",
   "1ee5f:66f,1ee60,628,62c,1ee63,647,1ee65,1ee66,62d,637,64a,643",
   "1ee6b:1ee6b,645,646,633,639,641,635,642,1ee73,634,62a,62b",
   "1ee77:62e,1ee78,636,638,63a,66e,1ee7d,6a1,1ee7f,627,628,62c 1ee83:62f,647,648,632,62d,637,64a",
   "1ee8e:633,639,641,635,642,631,634,62a,62b,62e,630,636 1ee9a:638,63a",
   "1eea1:628,62c,62f,1eea4,648,632,62d,637,64a",
   "1eeae:633,639,641,635,642,631,634,62a,62b,62e,630,636 1eeba:638,63a",
   "2f800:4e3d,4e38,4e41,20122,4f60,4fae,4fbb,5002,507a,5099,50e7,50cf",
   "2f80c:349e,2063a,514d,5154,5164,5177,2051c,34b9,5167,518d,2054b,5197",
   "2f818:51a4,4ecc,51ac,51b5,291df,51f5,5203,34df,523b,5246,5272,5277",
   "2f824:3515,52c7,52c9,52e4,52fa,5305,5306,5317,5349,5351,535a,5373",
   "2f830:537d,537f,537f,537f,20a2c,7070,53ca,53df,20b63,53eb,53f1,5406",
   "2f83c:549e,5438,5448,5468,54a2,54f6,5510,5553,5563,5584,5584,5599",
   "2f848:55ab,55b3,55c2,5716,5606,5717,5651,5674,5207,58ee,57ce,57f4",
   "2f854:580d,578b,5832,5831,58ac,214e4,58f2,58f7,5906,591a,5922,5962",
   "2f860:216a8,216ea,59ec,5a1b,5a27,59d8,5a66,36ee,36fc,5b08,5b3e,5b3e",
   "2f86c:219c8,5bc3,5bd8,5be7,5bf3,21b18,5bff,5c06,5f53,5c22,3781,5c60",
   "2f878:5c6e,5cc0,5c8d,21de4,5d43,21de6,5d6e,5d6b,5d7c,5de1,5de2,382f",
   "2f884:5dfd,5e28,5e3d,5e69,3862,22183,387c,5eb0,5eb3,5eb6,5eca,2a392",
   "2f890:5efe,22331,22331,8201,5f22,5f22,38c7,232b8,261da,5f62,5f6b,38e3",
   "2f89c:5f9a,5fcd,5fd7,5ff9,6081,393a,391c,6094,226d4,60c7,6148,614c",
   "2f8a8:614e,614c,617a,618e,61b2,61a4,61af,61de,61f2,61f6,6210,621b",
   "2f8b4:625d,62b1,62d4,6350,22b0c,633d,62fc,6368,6383,63e4,22bf1,6422",
   "2f8c0:63c5,63a9,3a2e,6469,647e,649d,6477,3a6c,654f,656c,2300a,65e3",
   "2f8cc:66f8,6649,3b19,6691,3b08,3ae4,5192,5195,6700,669c,80ad,43d9",
   "2f8d8:6717,671b,6721,675e,6753,233c3,3b49,67fa,6785,6852,6885,2346d",
   "2f8e4:688e,681f,6914,3b9d,6942,69a3,69ea,6aa8,236a3,6adb,3c18,6b21",
   "2f8f0:238a7,6b54,3c4e,6b72,6b9f,6bba,6bbb,23a8d,21d0b,23afa,6c4e,23cbc",
   "2f8fc:6cbf,6ccd,6c67,6d16,6d3e,6d77,6d41,6d69,6d78,6d85,23d1e,6d34",
   "2f908:6e2f,6e6e,3d33,6ecb,6ec7,23ed1,6df9,6f6e,23f5e,23f8e,6fc6,7039",
   "2f914:701e,701b,3d96,704a,707d,7077,70ad,20525,7145,24263,719c,243ab",
   "2f920:7228,7235,7250,24608,7280,7295,24735,24814,737a,738b,3eac,73a5",
   "2f92c:3eb8,3eb8,7447,745c,7471,7485,74ca,3f1b,7524,24c36,753e,24c92",
   "2f938:7570,2219f,7610,24fa1,24fb8,25044,3ffc,4008,76f4,250f3,250f2,25119",
   "2f944:25133,771e,771f,771f,774a,4039,778b,4046,4096,2541d,784e,788c",
   "2f950:78cc,40e3,25626,7956,2569a,256c5,798f,79eb,412f,7a40,7a4a,7a4f",
   "2f95c:2597c,25aa7,25aa7,7aee,4202,25bab,7bc6,7bc9,4227,25c80,7cd2,42a0",
   "2f968:7ce8,7ce3,7d00,25f86,7d63,4301,7dc7,7e02,7e45,4334,26228,26247",
   "2f974:4359,262d9,7f7a,2633e,7f95,7ffa,8005,264da,26523,8060,265a8,8070",
   "2f980:2335f,43d5,80b2,8103,440b,813e,5ab5,267a7,267b5,23393,2339c,8201",
   "2f98c:8204,8f9e,446b,8291,828b,829d,52b3,82b1,82b3,82bd,82e6,26b3c",
   "2f998:82e5,831d,8363,83ad,8323,83bd,83e7,8457,8353,83ca,83cc,83dc",
   "2f9a4:26c36,26d6b,26cd5,452b,84f1,84f3,8516,273ca,8564,26f2c,455d,4561",
   "2f9b0:26fb1,270d2,456b,8650,865c,8667,8669,86a9,8688,870e,86e2,8779",
   "2f9bc:8728,876b,8786,45d7,87e1,8801,45f9,8860,8863,27667,88d7,88de",
   "2f9c8:4635,88fa,34bb,278ae,27966,46be,46c7,8aa0,8aed,8b8a,8c55,27ca8",
   "2f9d4:8cab,8cc1,8d1b,8d77,27f2f,20804,8dcb,8dbc,8df0,208de,8ed4,8f38",
   "2f9e0:285d2,285ed,9094,90f1,9111,2872e,911b,9238,92d7,92d8,927c,93f9",
   "2f9ec:9415,28bfa,958b,4995,95b7,28d77,49e6,96c3,5db2,9723,29145,2921a",
   "2f9f8:4a6e,4a76,97e0,2940a,4ab2,29496,980b,980b,9829,295b6,98e2,4b33",
   "2fa04:9929,99a7,99c2,99fe,4bce,29b30,9b12,9c40,9cfd,4cce,4ced,9d67",
   "2fa10:2a0ce,4cf8,2a105,2a20e,2a291,9ebb,4d56,9ef9,9efe,9f05,9f0f,9f16 2fa1c:9f3b,2a600"]

/-- Consecutive characters from `first` on, with what each of them stands for. -/
structure CombinationRun where
  first : Nat
  meant : List (List Nat)

/-- The table, read. -/
def combinationRuns : List CombinationRun :=
  (combinationTable.flatMap (split ' ' ·.toList)).map fun entry =>
    let parts := (split ',' ((entry.dropWhile (· ≠ ':')).drop 1)).map fun meant =>
      (split '+' meant).map ofHexadecimal
    ⟨ofHexadecimal (entry.takeWhile (· ≠ ':')), parts⟩

/-- What a character stands for.  Most characters stand for themselves. -/
def decomposeChar (code : Nat) : List Nat :=
  match Hangul.letters? code with
  | some letters => letters
  | none =>
      match variantRuns.find? fun run => run.first ≤ code && code ≤ run.last with
      | some run => [run.meant + (code - run.first)]
      | none =>
          match combinationRuns.find? fun run =>
              run.first ≤ code && code < run.first + run.meant.length with
          | some run => run.meant.getD (code - run.first) [code]
          | none => [code]

end Text
end Oneliner
