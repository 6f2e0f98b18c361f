/-
ScriptHost.Text.Direction — the direction in which characters are written.

The Unicode property `Bidi_Class`, with the two classes of letters that run
to the left as one, and with all characters as neutral that take the
direction of what is around them. Characters in no table run to the right.
-/
import ScriptHost.Text.Character

namespace ScriptHost

/-- In which direction a character is written. -/
inductive Direction where
  | leftToRight
  | rightToLeft
  | europeanNumber
  | arabicNumber
  /-- As the character before it. -/
  | mark
  /-- As what is around it. -/
  | neutral
  deriving DecidableEq, Repr

/-- The ranges of letters that run to the left. -/
def rightToLeftRanges : Array (Nat × Nat) := #[
  (0x590, 0x590), (0x5be, 0x5be), (0x5c0, 0x5c0), (0x5c3, 0x5c3),
  (0x5c6, 0x5c6), (0x5c8, 0x5ff), (0x608, 0x608), (0x60b, 0x60b),
  (0x60d, 0x60d), (0x61b, 0x64a), (0x66d, 0x66f), (0x671, 0x6d5),
  (0x6e5, 0x6e6), (0x6ee, 0x6ef), (0x6fa, 0x710), (0x712, 0x72f),
  (0x74b, 0x7a5), (0x7b1, 0x7ea), (0x7f4, 0x7f5), (0x7fa, 0x7fc),
  (0x7fe, 0x815), (0x81a, 0x81a), (0x824, 0x824), (0x828, 0x828),
  (0x82e, 0x858), (0x85c, 0x88f), (0x892, 0x896), (0x8a0, 0x8c9),
  (0x200f, 0x200f), (0xfb1d, 0xfb1d), (0xfb1f, 0xfb28), (0xfb2a, 0xfbc2),
  (0xfbd3, 0xfd3d), (0xfd50, 0xfd8f), (0xfd92, 0xfdc7), (0xfdf0, 0xfdfc),
  (0xfe70, 0xfefe), (0x10800, 0x1091e), (0x10920, 0x10a00), (0x10a04, 0x10a04),
  (0x10a07, 0x10a0b), (0x10a10, 0x10a37), (0x10a3b, 0x10a3e),
  (0x10a40, 0x10ae4), (0x10ae7, 0x10b38), (0x10b40, 0x10d23),
  (0x10d28, 0x10d2f), (0x10d3a, 0x10d68), (0x10d6f, 0x10e5f),
  (0x10e7f, 0x10eaa), (0x10ead, 0x10ecf), (0x10ed9, 0x10ef9),
  (0x10f00, 0x10f45), (0x10f51, 0x10f81), (0x10f86, 0x10fff),
  (0x1e800, 0x1e8cf), (0x1e8d7, 0x1e943), (0x1e94b, 0x1eeef),
  (0x1eef2, 0x1efff)]

/-- The ranges of European digits and what is written like them. -/
def europeanNumberRanges : Array (Nat × Nat) := #[
  (0x30, 0x39), (0xb2, 0xb3), (0xb9, 0xb9), (0x6f0, 0x6f9), (0x2070, 0x2070),
  (0x2074, 0x2079), (0x2080, 0x2089), (0x2488, 0x249b), (0xff10, 0xff19),
  (0x102e1, 0x102fb), (0x1ccf0, 0x1ccf9), (0x1d7ce, 0x1d7ff),
  (0x1f100, 0x1f10a), (0x1fbf0, 0x1fbf9)]

/-- The ranges of Arabic digits and what is written like them. -/
def arabicNumberRanges : Array (Nat × Nat) := #[
  (0x600, 0x605), (0x660, 0x669), (0x66b, 0x66c), (0x6dd, 0x6dd),
  (0x890, 0x891), (0x8e2, 0x8e2), (0x10d30, 0x10d39), (0x10e60, 0x10e7e)]

/-- The ranges of marks that take no room of their own. -/
def markDirectionRanges : Array (Nat × Nat) := #[
  (0x300, 0x36f), (0x483, 0x489), (0x591, 0x5bd), (0x5bf, 0x5bf),
  (0x5c1, 0x5c2), (0x5c4, 0x5c5), (0x5c7, 0x5c7), (0x610, 0x61a),
  (0x64b, 0x65f), (0x670, 0x670), (0x6d6, 0x6dc), (0x6df, 0x6e4),
  (0x6e7, 0x6e8), (0x6ea, 0x6ed), (0x711, 0x711), (0x730, 0x74a),
  (0x7a6, 0x7b0), (0x7eb, 0x7f3), (0x7fd, 0x7fd), (0x816, 0x819),
  (0x81b, 0x823), (0x825, 0x827), (0x829, 0x82d), (0x859, 0x85b),
  (0x897, 0x89f), (0x8ca, 0x8e1), (0x8e3, 0x902), (0x93a, 0x93a),
  (0x93c, 0x93c), (0x941, 0x948), (0x94d, 0x94d), (0x951, 0x957),
  (0x962, 0x963), (0x981, 0x981), (0x9bc, 0x9bc), (0x9c1, 0x9c4),
  (0x9cd, 0x9cd), (0x9e2, 0x9e3), (0x9fe, 0x9fe), (0xa01, 0xa02),
  (0xa3c, 0xa3c), (0xa41, 0xa42), (0xa47, 0xa48), (0xa4b, 0xa4d),
  (0xa51, 0xa51), (0xa70, 0xa71), (0xa75, 0xa75), (0xa81, 0xa82),
  (0xabc, 0xabc), (0xac1, 0xac5), (0xac7, 0xac8), (0xacd, 0xacd),
  (0xae2, 0xae3), (0xafa, 0xaff), (0xb01, 0xb01), (0xb3c, 0xb3c),
  (0xb3f, 0xb3f), (0xb41, 0xb44), (0xb4d, 0xb4d), (0xb55, 0xb56),
  (0xb62, 0xb63), (0xb82, 0xb82), (0xbc0, 0xbc0), (0xbcd, 0xbcd),
  (0xc00, 0xc00), (0xc04, 0xc04), (0xc3c, 0xc3c), (0xc3e, 0xc40),
  (0xc46, 0xc48), (0xc4a, 0xc4d), (0xc55, 0xc56), (0xc62, 0xc63),
  (0xc81, 0xc81), (0xcbc, 0xcbc), (0xccc, 0xccd), (0xce2, 0xce3),
  (0xd00, 0xd01), (0xd3b, 0xd3c), (0xd41, 0xd44), (0xd4d, 0xd4d),
  (0xd62, 0xd63), (0xd81, 0xd81), (0xdca, 0xdca), (0xdd2, 0xdd4),
  (0xdd6, 0xdd6), (0xe31, 0xe31), (0xe34, 0xe3a), (0xe47, 0xe4e),
  (0xeb1, 0xeb1), (0xeb4, 0xebc), (0xec8, 0xece), (0xf18, 0xf19),
  (0xf35, 0xf35), (0xf37, 0xf37), (0xf39, 0xf39), (0xf71, 0xf7e),
  (0xf80, 0xf84), (0xf86, 0xf87), (0xf8d, 0xf97), (0xf99, 0xfbc),
  (0xfc6, 0xfc6), (0x102d, 0x1030), (0x1032, 0x1037), (0x1039, 0x103a),
  (0x103d, 0x103e), (0x1058, 0x1059), (0x105e, 0x1060), (0x1071, 0x1074),
  (0x1082, 0x1082), (0x1085, 0x1086), (0x108d, 0x108d), (0x109d, 0x109d),
  (0x135d, 0x135f), (0x1712, 0x1714), (0x1732, 0x1733), (0x1752, 0x1753),
  (0x1772, 0x1773), (0x17b4, 0x17b5), (0x17b7, 0x17bd), (0x17c6, 0x17c6),
  (0x17c9, 0x17d3), (0x17dd, 0x17dd), (0x180b, 0x180d), (0x180f, 0x180f),
  (0x1885, 0x1886), (0x18a9, 0x18a9), (0x1920, 0x1922), (0x1927, 0x1928),
  (0x1932, 0x1932), (0x1939, 0x193b), (0x1a17, 0x1a18), (0x1a1b, 0x1a1b),
  (0x1a56, 0x1a56), (0x1a58, 0x1a5e), (0x1a60, 0x1a60), (0x1a62, 0x1a62),
  (0x1a65, 0x1a6c), (0x1a73, 0x1a7c), (0x1a7f, 0x1a7f), (0x1ab0, 0x1add),
  (0x1ae0, 0x1aeb), (0x1b00, 0x1b03), (0x1b34, 0x1b34), (0x1b36, 0x1b3a),
  (0x1b3c, 0x1b3c), (0x1b42, 0x1b42), (0x1b6b, 0x1b73), (0x1b80, 0x1b81),
  (0x1ba2, 0x1ba5), (0x1ba8, 0x1ba9), (0x1bab, 0x1bad), (0x1be6, 0x1be6),
  (0x1be8, 0x1be9), (0x1bed, 0x1bed), (0x1bef, 0x1bf1), (0x1c2c, 0x1c33),
  (0x1c36, 0x1c37), (0x1cd0, 0x1cd2), (0x1cd4, 0x1ce0), (0x1ce2, 0x1ce8),
  (0x1ced, 0x1ced), (0x1cf4, 0x1cf4), (0x1cf8, 0x1cf9), (0x1dc0, 0x1dff),
  (0x20d0, 0x20f0), (0x2cef, 0x2cf1), (0x2d7f, 0x2d7f), (0x2de0, 0x2dff),
  (0x302a, 0x302d), (0x3099, 0x309a), (0xa66f, 0xa672), (0xa674, 0xa67d),
  (0xa69e, 0xa69f), (0xa6f0, 0xa6f1), (0xa802, 0xa802), (0xa806, 0xa806),
  (0xa80b, 0xa80b), (0xa825, 0xa826), (0xa82c, 0xa82c), (0xa8c4, 0xa8c5),
  (0xa8e0, 0xa8f1), (0xa8ff, 0xa8ff), (0xa926, 0xa92d), (0xa947, 0xa951),
  (0xa980, 0xa982), (0xa9b3, 0xa9b3), (0xa9b6, 0xa9b9), (0xa9bc, 0xa9bd),
  (0xa9e5, 0xa9e5), (0xaa29, 0xaa2e), (0xaa31, 0xaa32), (0xaa35, 0xaa36),
  (0xaa43, 0xaa43), (0xaa4c, 0xaa4c), (0xaa7c, 0xaa7c), (0xaab0, 0xaab0),
  (0xaab2, 0xaab4), (0xaab7, 0xaab8), (0xaabe, 0xaabf), (0xaac1, 0xaac1),
  (0xaaec, 0xaaed), (0xaaf6, 0xaaf6), (0xabe5, 0xabe5), (0xabe8, 0xabe8),
  (0xabed, 0xabed), (0xfb1e, 0xfb1e), (0xfe00, 0xfe0f), (0xfe20, 0xfe2f),
  (0x101fd, 0x101fd), (0x102e0, 0x102e0), (0x10376, 0x1037a),
  (0x10a01, 0x10a03), (0x10a05, 0x10a06), (0x10a0c, 0x10a0f),
  (0x10a38, 0x10a3a), (0x10a3f, 0x10a3f), (0x10ae5, 0x10ae6),
  (0x10d24, 0x10d27), (0x10d69, 0x10d6d), (0x10eab, 0x10eac),
  (0x10efa, 0x10eff), (0x10f46, 0x10f50), (0x10f82, 0x10f85),
  (0x11001, 0x11001), (0x11038, 0x11046), (0x11070, 0x11070),
  (0x11073, 0x11074), (0x1107f, 0x11081), (0x110b3, 0x110b6),
  (0x110b9, 0x110ba), (0x110c2, 0x110c2), (0x11100, 0x11102),
  (0x11127, 0x1112b), (0x1112d, 0x11134), (0x11173, 0x11173),
  (0x11180, 0x11181), (0x111b6, 0x111be), (0x111c9, 0x111cc),
  (0x111cf, 0x111cf), (0x1122f, 0x11231), (0x11234, 0x11234),
  (0x11236, 0x11237), (0x1123e, 0x1123e), (0x11241, 0x11241),
  (0x112df, 0x112df), (0x112e3, 0x112ea), (0x11300, 0x11301),
  (0x1133b, 0x1133c), (0x11340, 0x11340), (0x11366, 0x1136c),
  (0x11370, 0x11374), (0x113bb, 0x113c0), (0x113ce, 0x113ce),
  (0x113d0, 0x113d0), (0x113d2, 0x113d2), (0x113e1, 0x113e2),
  (0x11438, 0x1143f), (0x11442, 0x11444), (0x11446, 0x11446),
  (0x1145e, 0x1145e), (0x114b3, 0x114b8), (0x114ba, 0x114ba),
  (0x114bf, 0x114c0), (0x114c2, 0x114c3), (0x115b2, 0x115b5),
  (0x115bc, 0x115bd), (0x115bf, 0x115c0), (0x115dc, 0x115dd),
  (0x11633, 0x1163a), (0x1163d, 0x1163d), (0x1163f, 0x11640),
  (0x116ab, 0x116ab), (0x116ad, 0x116ad), (0x116b0, 0x116b5),
  (0x116b7, 0x116b7), (0x1171d, 0x1171d), (0x1171f, 0x1171f),
  (0x11722, 0x11725), (0x11727, 0x1172b), (0x1182f, 0x11837),
  (0x11839, 0x1183a), (0x1193b, 0x1193c), (0x1193e, 0x1193e),
  (0x11943, 0x11943), (0x119d4, 0x119d7), (0x119da, 0x119db),
  (0x119e0, 0x119e0), (0x11a01, 0x11a06), (0x11a09, 0x11a0a),
  (0x11a33, 0x11a38), (0x11a3b, 0x11a3e), (0x11a47, 0x11a47),
  (0x11a51, 0x11a56), (0x11a59, 0x11a5b), (0x11a8a, 0x11a96),
  (0x11a98, 0x11a99), (0x11b60, 0x11b60), (0x11b62, 0x11b64),
  (0x11b66, 0x11b66), (0x11c30, 0x11c36), (0x11c38, 0x11c3d),
  (0x11c92, 0x11ca7), (0x11caa, 0x11cb0), (0x11cb2, 0x11cb3),
  (0x11cb5, 0x11cb6), (0x11d31, 0x11d36), (0x11d3a, 0x11d3a),
  (0x11d3c, 0x11d3d), (0x11d3f, 0x11d45), (0x11d47, 0x11d47),
  (0x11d90, 0x11d91), (0x11d95, 0x11d95), (0x11d97, 0x11d97),
  (0x11ef3, 0x11ef4), (0x11f00, 0x11f01), (0x11f36, 0x11f3a),
  (0x11f40, 0x11f40), (0x11f42, 0x11f42), (0x11f5a, 0x11f5a),
  (0x13440, 0x13440), (0x13447, 0x13455), (0x1611e, 0x16129),
  (0x1612d, 0x1612f), (0x16af0, 0x16af4), (0x16b30, 0x16b36),
  (0x16f4f, 0x16f4f), (0x16f8f, 0x16f92), (0x16fe4, 0x16fe4),
  (0x1bc9d, 0x1bc9e), (0x1cf00, 0x1cf2d), (0x1cf30, 0x1cf46),
  (0x1d167, 0x1d169), (0x1d17b, 0x1d182), (0x1d185, 0x1d18b),
  (0x1d1aa, 0x1d1ad), (0x1d242, 0x1d244), (0x1da00, 0x1da36),
  (0x1da3b, 0x1da6c), (0x1da75, 0x1da75), (0x1da84, 0x1da84),
  (0x1da9b, 0x1da9f), (0x1daa1, 0x1daaf), (0x1e000, 0x1e006),
  (0x1e008, 0x1e018), (0x1e01b, 0x1e021), (0x1e023, 0x1e024),
  (0x1e026, 0x1e02a), (0x1e08f, 0x1e08f), (0x1e130, 0x1e136),
  (0x1e2ae, 0x1e2ae), (0x1e2ec, 0x1e2ef), (0x1e4ec, 0x1e4ef),
  (0x1e5ee, 0x1e5ef), (0x1e6e3, 0x1e6e3), (0x1e6e6, 0x1e6e6),
  (0x1e6ee, 0x1e6ef), (0x1e6f5, 0x1e6f5), (0x1e8d0, 0x1e8d6),
  (0x1e944, 0x1e94a), (0xe0100, 0xe01ef)]

/-- The ranges of neutral characters. -/
def neutralRanges : Array (Nat × Nat) := #[
  (0x0, 0x2f), (0x3a, 0x40), (0x5b, 0x60), (0x7b, 0xa9), (0xab, 0xb1),
  (0xb4, 0xb4), (0xb6, 0xb8), (0xbb, 0xbf), (0xd7, 0xd7), (0xf7, 0xf7),
  (0x2b9, 0x2ba), (0x2c2, 0x2cf), (0x2d2, 0x2df), (0x2e5, 0x2ed),
  (0x2ef, 0x2ff), (0x374, 0x375), (0x37e, 0x37e), (0x384, 0x385),
  (0x387, 0x387), (0x3f6, 0x3f6), (0x58a, 0x58a), (0x58d, 0x58f),
  (0x606, 0x607), (0x609, 0x60a), (0x60c, 0x60c), (0x60e, 0x60f),
  (0x66a, 0x66a), (0x6de, 0x6de), (0x6e9, 0x6e9), (0x7f6, 0x7f9),
  (0x9f2, 0x9f3), (0x9fb, 0x9fb), (0xaf1, 0xaf1), (0xbf3, 0xbfa),
  (0xc78, 0xc7e), (0xe3f, 0xe3f), (0xf3a, 0xf3d), (0x1390, 0x1399),
  (0x1400, 0x1400), (0x1680, 0x1680), (0x169b, 0x169c), (0x17db, 0x17db),
  (0x17f0, 0x17f9), (0x1800, 0x180a), (0x180e, 0x180e), (0x1940, 0x1940),
  (0x1944, 0x1945), (0x19de, 0x19ff), (0x1fbd, 0x1fbd), (0x1fbf, 0x1fc1),
  (0x1fcd, 0x1fcf), (0x1fdd, 0x1fdf), (0x1fed, 0x1fef), (0x1ffd, 0x1ffe),
  (0x2000, 0x200d), (0x2010, 0x206f), (0x207a, 0x207e), (0x208a, 0x208e),
  (0x20a0, 0x20cf), (0x2100, 0x2101), (0x2103, 0x2106), (0x2108, 0x2109),
  (0x2114, 0x2114), (0x2116, 0x2118), (0x211e, 0x2123), (0x2125, 0x2125),
  (0x2127, 0x2127), (0x2129, 0x2129), (0x212e, 0x212e), (0x213a, 0x213b),
  (0x2140, 0x2144), (0x214a, 0x214d), (0x2150, 0x215f), (0x2189, 0x218b),
  (0x2190, 0x2335), (0x237b, 0x2394), (0x2396, 0x2429), (0x2440, 0x244a),
  (0x2460, 0x2487), (0x24ea, 0x26ab), (0x26ad, 0x27ff), (0x2900, 0x2b73),
  (0x2b76, 0x2bff), (0x2ce5, 0x2cea), (0x2cf9, 0x2cff), (0x2e00, 0x2e5d),
  (0x2e80, 0x2e99), (0x2e9b, 0x2ef3), (0x2f00, 0x2fd5), (0x2ff0, 0x3004),
  (0x3008, 0x3020), (0x3030, 0x3030), (0x3036, 0x3037), (0x303d, 0x303f),
  (0x309b, 0x309c), (0x30a0, 0x30a0), (0x30fb, 0x30fb), (0x31c0, 0x31e5),
  (0x31ef, 0x31ef), (0x321d, 0x321e), (0x3250, 0x325f), (0x327c, 0x327e),
  (0x32b1, 0x32bf), (0x32cc, 0x32cf), (0x3377, 0x337a), (0x33de, 0x33df),
  (0x33ff, 0x33ff), (0x4dc0, 0x4dff), (0xa490, 0xa4c6), (0xa60d, 0xa60f),
  (0xa673, 0xa673), (0xa67e, 0xa67f), (0xa700, 0xa721), (0xa788, 0xa788),
  (0xa828, 0xa82b), (0xa838, 0xa839), (0xa874, 0xa877), (0xab6a, 0xab6b),
  (0xfb29, 0xfb29), (0xfbc3, 0xfbd2), (0xfd3e, 0xfd4f), (0xfd90, 0xfd91),
  (0xfdc8, 0xfdef), (0xfdfd, 0xfdff), (0xfe10, 0xfe19), (0xfe30, 0xfe52),
  (0xfe54, 0xfe66), (0xfe68, 0xfe6b), (0xfeff, 0xfeff), (0xff01, 0xff0f),
  (0xff1a, 0xff20), (0xff3b, 0xff40), (0xff5b, 0xff65), (0xffe0, 0xffe6),
  (0xffe8, 0xffee), (0xfff0, 0xffff), (0x10101, 0x10101), (0x10140, 0x1018c),
  (0x10190, 0x1019c), (0x101a0, 0x101a0), (0x1091f, 0x1091f),
  (0x10b39, 0x10b3f), (0x10d6e, 0x10d6e), (0x10ed0, 0x10ed8),
  (0x11052, 0x11065), (0x11660, 0x1166c), (0x11fd5, 0x11ff1),
  (0x16fe2, 0x16fe2), (0x1bca0, 0x1bca3), (0x1cc00, 0x1ccef),
  (0x1ccfa, 0x1ccfc), (0x1cd00, 0x1ceb3), (0x1ceba, 0x1ced0),
  (0x1cee0, 0x1cef0), (0x1d173, 0x1d17a), (0x1d1e9, 0x1d1ea),
  (0x1d200, 0x1d241), (0x1d245, 0x1d245), (0x1d300, 0x1d356),
  (0x1d6db, 0x1d6db), (0x1d715, 0x1d715), (0x1d74f, 0x1d74f),
  (0x1d789, 0x1d789), (0x1d7c3, 0x1d7c3), (0x1e2ff, 0x1e2ff),
  (0x1eef0, 0x1eef1), (0x1f000, 0x1f02b), (0x1f030, 0x1f093),
  (0x1f0a0, 0x1f0ae), (0x1f0b1, 0x1f0bf), (0x1f0c1, 0x1f0cf),
  (0x1f0d1, 0x1f0f5), (0x1f10b, 0x1f10f), (0x1f12f, 0x1f12f),
  (0x1f16a, 0x1f16f), (0x1f1ad, 0x1f1ad), (0x1f260, 0x1f265),
  (0x1f300, 0x1f6d8), (0x1f6dc, 0x1f6ec), (0x1f6f0, 0x1f6fc),
  (0x1f700, 0x1f7d9), (0x1f7e0, 0x1f7eb), (0x1f7f0, 0x1f7f0),
  (0x1f800, 0x1f80b), (0x1f810, 0x1f847), (0x1f850, 0x1f859),
  (0x1f860, 0x1f887), (0x1f890, 0x1f8ad), (0x1f8b0, 0x1f8bb),
  (0x1f8c0, 0x1f8c1), (0x1f8d0, 0x1f8d8), (0x1f900, 0x1fa57),
  (0x1fa60, 0x1fa6d), (0x1fa70, 0x1fa7c), (0x1fa80, 0x1fa8a),
  (0x1fa8e, 0x1fac6), (0x1fac8, 0x1fac8), (0x1facd, 0x1fadc),
  (0x1fadf, 0x1faea), (0x1faef, 0x1faf8), (0x1fb00, 0x1fb92),
  (0x1fb94, 0x1fbef), (0x1fbfa, 0x1fbfa), (0x1fffe, 0x1ffff),
  (0x2fffe, 0x2ffff), (0x3fffe, 0x3ffff), (0x4fffe, 0x4ffff),
  (0x5fffe, 0x5ffff), (0x6fffe, 0x6ffff), (0x7fffe, 0x7ffff),
  (0x8fffe, 0x8ffff), (0x9fffe, 0x9ffff), (0xafffe, 0xaffff),
  (0xbfffe, 0xbffff), (0xcfffe, 0xcffff), (0xdfffe, 0xe00ff),
  (0xe01f0, 0xe0fff), (0xefffe, 0xeffff), (0xffffe, 0xfffff),
  (0x10fffe, 0x10ffff)]

/-- The direction of a character. -/
def direction (c : Char) : Direction :=
  if inRanges rightToLeftRanges c then .rightToLeft
  else if inRanges europeanNumberRanges c then .europeanNumber
  else if inRanges arabicNumberRanges c then .arabicNumber
  else if inRanges markDirectionRanges c then .mark
  else if inRanges neutralRanges c then .neutral
  else .leftToRight

end ScriptHost
