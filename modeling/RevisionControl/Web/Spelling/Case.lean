/-!
# Characters with a regular counterpart

Characters that stand for another one at a fixed distance, range by range: capital letters for small
ones, wide letters for ordinary ones and the letters of formulas for ordinary ones. The ranges
follow version 18 of the mapping that Unicode gives for domain names.
-/

namespace RevisionControl.Web.Spelling

/-- The first and the last of a range of characters, and what the first stands for. The others stand
for those that follow it. -/
def shiftedRanges : List (Nat × Nat × Nat) :=
  [(0x41, 0x5a, 0x61), (0xc0, 0xd6, 0xe0), (0xd8, 0xde, 0xf8), (0x391, 0x3a1, 0x3b1),
   (0x3a3, 0x3ab, 0x3c3), (0x400, 0x40f, 0x450), (0x410, 0x42f, 0x430), (0x531, 0x556, 0x561),
   (0x10a0, 0x10c5, 0x2d00), (0x13f8, 0x13fd, 0x13f0), (0x1c90, 0x1cba, 0x10d0),
   (0x1d33, 0x1d3a, 0x67), (0x1dae, 0x1db1, 0x272), (0x1f08, 0x1f0f, 0x1f00),
   (0x1f18, 0x1f1d, 0x1f10), (0x1f28, 0x1f2f, 0x1f20), (0x1f38, 0x1f3f, 0x1f30),
   (0x1f48, 0x1f4d, 0x1f40), (0x1f68, 0x1f6f, 0x1f60), (0x2074, 0x2079, 0x34),
   (0x2080, 0x2089, 0x30), (0x2096, 0x2099, 0x6b), (0x2135, 0x2138, 0x5d0), (0x2460, 0x2468, 0x31),
   (0x24b6, 0x24cf, 0x61), (0x24d0, 0x24e9, 0x61), (0x2c00, 0x2c2f, 0x2c30),
   (0x313a, 0x313f, 0x11b0), (0x3145, 0x314e, 0x1109), (0x314f, 0x3163, 0x1161),
   (0x3178, 0x317c, 0x112b), (0x3269, 0x326d, 0x110e), (0x32e4, 0x32e9, 0x30ca),
   (0x32ee, 0x32f2, 0x30de), (0x32f5, 0x32fa, 0x30e8), (0x32fb, 0x32fe, 0x30ef),
   (0xa7dd, 0xa7e2, 0x277), (0xab70, 0xabbf, 0x13a0), (0xfe41, 0xfe44, 0x300c),
   (0xff01, 0xff20, 0x21), (0xff21, 0xff3a, 0x61), (0xff3b, 0xff5e, 0x5b), (0xff85, 0xff8a, 0x30ca),
   (0xff8f, 0xff93, 0x30de), (0xff96, 0xff9b, 0x30e8), (0xffaa, 0xffaf, 0x11b0),
   (0xffb5, 0xffbe, 0x1109), (0xffc2, 0xffc7, 0x1161), (0xffca, 0xffcf, 0x1167),
   (0xffd2, 0xffd7, 0x116d), (0xffe9, 0xffec, 0x2190), (0x10400, 0x10427, 0x10428),
   (0x104b0, 0x104d3, 0x104d8), (0x10570, 0x1057a, 0x10597), (0x1057c, 0x1058a, 0x105a3),
   (0x1058c, 0x10592, 0x105b3), (0x10c80, 0x10cb2, 0x10cc0), (0x10d50, 0x10d65, 0x10d70),
   (0x118a0, 0x118bf, 0x118c0), (0x16e40, 0x16e5f, 0x16e60), (0x16ea0, 0x16eb8, 0x16ebb),
   (0x1ccd6, 0x1ccef, 0x61), (0x1ccf0, 0x1ccf9, 0x30), (0x1d400, 0x1d419, 0x61),
   (0x1d41a, 0x1d433, 0x61), (0x1d434, 0x1d44d, 0x61), (0x1d44e, 0x1d454, 0x61),
   (0x1d456, 0x1d467, 0x69), (0x1d468, 0x1d481, 0x61), (0x1d482, 0x1d49b, 0x61),
   (0x1d4a9, 0x1d4ac, 0x6e), (0x1d4ae, 0x1d4b5, 0x73), (0x1d4b6, 0x1d4b9, 0x61),
   (0x1d4bd, 0x1d4c3, 0x68), (0x1d4c5, 0x1d4cf, 0x70), (0x1d4d0, 0x1d4e9, 0x61),
   (0x1d4ea, 0x1d503, 0x61), (0x1d507, 0x1d50a, 0x64), (0x1d50d, 0x1d514, 0x6a),
   (0x1d516, 0x1d51c, 0x73), (0x1d51e, 0x1d537, 0x61), (0x1d53b, 0x1d53e, 0x64),
   (0x1d540, 0x1d544, 0x69), (0x1d54a, 0x1d550, 0x73), (0x1d552, 0x1d56b, 0x61),
   (0x1d56c, 0x1d585, 0x61), (0x1d586, 0x1d59f, 0x61), (0x1d5a0, 0x1d5b9, 0x61),
   (0x1d5ba, 0x1d5d3, 0x61), (0x1d5d4, 0x1d5ed, 0x61), (0x1d5ee, 0x1d607, 0x61),
   (0x1d608, 0x1d621, 0x61), (0x1d622, 0x1d63b, 0x61), (0x1d63c, 0x1d655, 0x61),
   (0x1d656, 0x1d66f, 0x61), (0x1d670, 0x1d689, 0x61), (0x1d68a, 0x1d6a3, 0x61),
   (0x1d6a8, 0x1d6b8, 0x3b1), (0x1d6ba, 0x1d6c0, 0x3c3), (0x1d6c2, 0x1d6d2, 0x3b1),
   (0x1d6d4, 0x1d6da, 0x3c3), (0x1d6e2, 0x1d6f2, 0x3b1), (0x1d6f4, 0x1d6fa, 0x3c3),
   (0x1d6fc, 0x1d70c, 0x3b1), (0x1d70e, 0x1d714, 0x3c3), (0x1d71c, 0x1d72c, 0x3b1),
   (0x1d72e, 0x1d734, 0x3c3), (0x1d736, 0x1d746, 0x3b1), (0x1d748, 0x1d74e, 0x3c3),
   (0x1d756, 0x1d766, 0x3b1), (0x1d768, 0x1d76e, 0x3c3), (0x1d770, 0x1d780, 0x3b1),
   (0x1d782, 0x1d788, 0x3c3), (0x1d790, 0x1d7a0, 0x3b1), (0x1d7a2, 0x1d7a8, 0x3c3),
   (0x1d7aa, 0x1d7ba, 0x3b1), (0x1d7bc, 0x1d7c2, 0x3c3), (0x1d7ce, 0x1d7d7, 0x30),
   (0x1d7d8, 0x1d7e1, 0x30), (0x1d7e2, 0x1d7eb, 0x30), (0x1d7ec, 0x1d7f5, 0x30),
   (0x1d7f6, 0x1d7ff, 0x30), (0x1e030, 0x1e038, 0x430), (0x1e03c, 0x1e046, 0x43e),
   (0x1e051, 0x1e059, 0x430), (0x1e05f, 0x1e064, 0x443), (0x1e900, 0x1e921, 0x1e922),
   (0x1ee0a, 0x1ee0d, 0x643), (0x1ee2a, 0x1ee2d, 0x643), (0x1f130, 0x1f149, 0x61),
   (0x1fbf0, 0x1fbf9, 0x30)]

/-- Ranges in which every second character, from the first one on, is a capital letter that stands
for the small one behind it. -/
def alternatingRanges : List (Nat × Nat) :=
  [(0x100, 0x12e), (0x139, 0x13d), (0x141, 0x147), (0x14a, 0x176), (0x179, 0x17d), (0x1a0, 0x1a4),
   (0x1cd, 0x1db), (0x1de, 0x1ee), (0x1f8, 0x21e), (0x222, 0x232), (0x246, 0x24e), (0x3d8, 0x3ee),
   (0x460, 0x480), (0x48a, 0x4be), (0x4c1, 0x4cd), (0x4d0, 0x52e), (0x1e00, 0x1e94),
   (0x1ea0, 0x1efe), (0x2c67, 0x2c6b), (0x2c80, 0x2ce2), (0xa640, 0xa66c), (0xa680, 0xa69a),
   (0xa722, 0xa72e), (0xa732, 0xa76e), (0xa77e, 0xa786), (0xa796, 0xa7a8), (0xa7b4, 0xa7c2),
   (0xa7cc, 0xa7da), (0x1df40, 0x1df4a), (0x1df4d, 0x1df55), (0x1df58, 0x1df80)]

end RevisionControl.Web.Spelling
