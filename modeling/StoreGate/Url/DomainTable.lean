/-!
# Characters of domain names

What the characters beyond ASCII become in a domain name by the mapping of internationalized names:
some are dropped, some are replaced by one character or several, some are refused. All others stand
as they are.
-/

namespace StoreGate.Url

/-- Ranges of characters that no name may hold. -/
def refusedRanges : List (Nat × Nat) :=
  [(0x80, 0xa0), (0xa8, 0xa8), (0xaf, 0xaf), (0xb4, 0xb4), (0xb8, 0xb8), (0x2d8, 0x2dd),
    (0x378, 0x37a), (0x380, 0x385), (0x38b, 0x38b), (0x38d, 0x38d), (0x3a2, 0x3a2), (0x530, 0x530),
    (0x557, 0x557), (0x58c, 0x58c), (0x590, 0x590), (0x5c8, 0x5cf), (0x5eb, 0x5ee), (0x5f5, 0x605),
    (0x61c, 0x61c), (0x6dd, 0x6dd), (0x70e, 0x70f), (0x74b, 0x74c), (0x7b2, 0x7bf), (0x7fb, 0x7fc),
    (0x82e, 0x82f), (0x83f, 0x83f), (0x85c, 0x85d), (0x85f, 0x85f), (0x86b, 0x86f), (0x890, 0x896),
    (0x8e2, 0x8e2), (0x984, 0x984), (0x98d, 0x98e), (0x991, 0x992), (0x9a9, 0x9a9), (0x9b1, 0x9b1),
    (0x9b3, 0x9b5), (0x9ba, 0x9bb), (0x9c5, 0x9c6), (0x9c9, 0x9ca), (0x9cf, 0x9d6), (0x9d8, 0x9db),
    (0x9de, 0x9de), (0x9e4, 0x9e5), (0x9ff, 0xa00), (0xa04, 0xa04), (0xa0b, 0xa0e), (0xa11, 0xa12),
    (0xa29, 0xa29), (0xa31, 0xa31), (0xa34, 0xa34), (0xa37, 0xa37), (0xa3a, 0xa3b), (0xa3d, 0xa3d),
    (0xa43, 0xa46), (0xa49, 0xa4a), (0xa4e, 0xa50), (0xa52, 0xa58), (0xa5d, 0xa5d), (0xa5f, 0xa65),
    (0xa77, 0xa80), (0xa84, 0xa84), (0xa8e, 0xa8e), (0xa92, 0xa92), (0xaa9, 0xaa9), (0xab1, 0xab1),
    (0xab4, 0xab4), (0xaba, 0xabb), (0xac6, 0xac6), (0xaca, 0xaca), (0xace, 0xacf), (0xad1, 0xadf),
    (0xae4, 0xae5), (0xaf2, 0xaf8), (0xb00, 0xb00), (0xb04, 0xb04), (0xb0d, 0xb0e), (0xb11, 0xb12),
    (0xb29, 0xb29), (0xb31, 0xb31), (0xb34, 0xb34), (0xb3a, 0xb3b), (0xb45, 0xb46), (0xb49, 0xb4a),
    (0xb4e, 0xb52), (0xb58, 0xb5b), (0xb5e, 0xb5e), (0xb64, 0xb65), (0xb78, 0xb81), (0xb84, 0xb84),
    (0xb8b, 0xb8d), (0xb91, 0xb91), (0xb96, 0xb98), (0xb9b, 0xb9b), (0xb9d, 0xb9d), (0xba0, 0xba2),
    (0xba5, 0xba7), (0xbab, 0xbad), (0xbba, 0xbbd), (0xbc3, 0xbc5), (0xbc9, 0xbc9), (0xbce, 0xbcf),
    (0xbd1, 0xbd6), (0xbd8, 0xbe5), (0xbfb, 0xbff), (0xc0d, 0xc0d), (0xc11, 0xc11), (0xc29, 0xc29),
    (0xc3a, 0xc3b), (0xc45, 0xc45), (0xc49, 0xc49), (0xc4e, 0xc54), (0xc57, 0xc57), (0xc5b, 0xc5b),
    (0xc5e, 0xc5f), (0xc64, 0xc65), (0xc70, 0xc76), (0xc8d, 0xc8d), (0xc91, 0xc91), (0xca9, 0xca9),
    (0xcb4, 0xcb4), (0xcba, 0xcbb), (0xcc5, 0xcc5), (0xcc9, 0xcc9), (0xcce, 0xcd4), (0xcd7, 0xcdb),
    (0xcdf, 0xcdf), (0xce4, 0xce5), (0xcf0, 0xcf0), (0xcf4, 0xcff), (0xd0d, 0xd0d), (0xd11, 0xd11),
    (0xd45, 0xd45), (0xd49, 0xd49), (0xd50, 0xd53), (0xd64, 0xd65), (0xd80, 0xd80), (0xd84, 0xd84),
    (0xd97, 0xd99), (0xdb2, 0xdb2), (0xdbc, 0xdbc), (0xdbe, 0xdbf), (0xdc7, 0xdc9), (0xdcb, 0xdce),
    (0xdd5, 0xdd5), (0xdd7, 0xdd7), (0xde0, 0xde5), (0xdf0, 0xdf1), (0xdf5, 0xe00), (0xe3b, 0xe3e),
    (0xe5c, 0xe80), (0xe83, 0xe83), (0xe85, 0xe85), (0xe8b, 0xe8b), (0xea4, 0xea4), (0xea6, 0xea6),
    (0xebe, 0xebf), (0xec5, 0xec5), (0xec7, 0xec7), (0xecf, 0xecf), (0xeda, 0xedb), (0xee0, 0xeff),
    (0xf48, 0xf48), (0xf6d, 0xf70), (0xf98, 0xf98), (0xfbd, 0xfbd), (0xfcd, 0xfcd), (0xfdb, 0xfff),
    (0x10c6, 0x10c6), (0x10c8, 0x10cc), (0x10ce, 0x10cf), (0x1249, 0x1249), (0x124e, 0x124f),
    (0x1257, 0x1257), (0x1259, 0x1259), (0x125e, 0x125f), (0x1289, 0x1289), (0x128e, 0x128f),
    (0x12b1, 0x12b1), (0x12b6, 0x12b7), (0x12bf, 0x12bf), (0x12c1, 0x12c1), (0x12c6, 0x12c7),
    (0x12d7, 0x12d7), (0x1311, 0x1311), (0x1316, 0x1317), (0x135b, 0x135c), (0x137d, 0x137f),
    (0x139a, 0x139f), (0x13f6, 0x13f7), (0x13fe, 0x13ff), (0x1680, 0x1680), (0x169d, 0x169f),
    (0x16f9, 0x16ff), (0x1716, 0x171e), (0x1737, 0x173f), (0x1754, 0x175f), (0x176d, 0x176d),
    (0x1771, 0x1771), (0x1774, 0x177f), (0x17de, 0x17df), (0x17ea, 0x17ef), (0x17fa, 0x17ff),
    (0x181a, 0x181f), (0x1879, 0x187f), (0x18ab, 0x18af), (0x18f6, 0x18ff), (0x191f, 0x191f),
    (0x192c, 0x192f), (0x193c, 0x193f), (0x1941, 0x1943), (0x196e, 0x196f), (0x1975, 0x197f),
    (0x19ac, 0x19af), (0x19ca, 0x19cf), (0x19db, 0x19dd), (0x1a1c, 0x1a1d), (0x1a5f, 0x1a5f),
    (0x1a7d, 0x1a7e), (0x1a8a, 0x1a8f), (0x1a9a, 0x1a9f), (0x1aae, 0x1aaf), (0x1aec, 0x1aff),
    (0x1b4d, 0x1b4d), (0x1bf4, 0x1bfb), (0x1c38, 0x1c3a), (0x1c4a, 0x1c4c), (0x1c8b, 0x1c8f),
    (0x1cbb, 0x1cbc), (0x1cc8, 0x1ccf), (0x1cfb, 0x1cff), (0x1f16, 0x1f17), (0x1f1e, 0x1f1f),
    (0x1f46, 0x1f47), (0x1f4e, 0x1f4f), (0x1f58, 0x1f58), (0x1f5a, 0x1f5a), (0x1f5c, 0x1f5c),
    (0x1f5e, 0x1f5e), (0x1f7e, 0x1f7f), (0x1fb5, 0x1fb5), (0x1fbd, 0x1fbd), (0x1fbf, 0x1fc1),
    (0x1fc5, 0x1fc5), (0x1fcd, 0x1fcf), (0x1fd4, 0x1fd5), (0x1fdc, 0x1fdf), (0x1fed, 0x1fee),
    (0x1ff0, 0x1ff1), (0x1ff5, 0x1ff5), (0x1ffd, 0x200a), (0x200e, 0x200f), (0x2017, 0x2017),
    (0x2024, 0x2026), (0x2028, 0x202f), (0x203e, 0x203e), (0x2047, 0x2049), (0x205f, 0x205f),
    (0x2065, 0x2069), (0x2072, 0x2073), (0x20c5, 0x20cf), (0x20f1, 0x2101), (0x2105, 0x2106),
    (0x218c, 0x218f), (0x242a, 0x243f), (0x244b, 0x245f), (0x2488, 0x249b), (0x2a74, 0x2a74),
    (0x2b74, 0x2b75), (0x2cf4, 0x2cf8), (0x2d26, 0x2d26), (0x2d28, 0x2d2c), (0x2d2e, 0x2d2f),
    (0x2d68, 0x2d6e), (0x2d71, 0x2d7e), (0x2d97, 0x2d9f), (0x2da7, 0x2da7), (0x2daf, 0x2daf),
    (0x2db7, 0x2db7), (0x2dbf, 0x2dbf), (0x2dc7, 0x2dc7), (0x2dcf, 0x2dcf), (0x2dd7, 0x2dd7),
    (0x2ddf, 0x2ddf), (0x2e5e, 0x2e5f), (0x2e61, 0x2e7f), (0x2e9a, 0x2e9a), (0x2ef4, 0x2eff),
    (0x2fd6, 0x3000), (0x3040, 0x3040), (0x3097, 0x3098), (0x309b, 0x309c), (0x3100, 0x3104),
    (0x3130, 0x3130), (0x318f, 0x318f), (0x31e6, 0x31ef), (0x321f, 0x321f), (0x33c2, 0x33c2),
    (0x33c7, 0x33c7), (0x33d8, 0x33d8), (0xa48d, 0xa48f), (0xa4c7, 0xa4cf), (0xa62c, 0xa63f),
    (0xa6f8, 0xa6ff), (0xa7de, 0xa7f0), (0xa82d, 0xa82f), (0xa83a, 0xa83f), (0xa878, 0xa87f),
    (0xa8c6, 0xa8cd), (0xa8da, 0xa8df), (0xa954, 0xa95e), (0xa97d, 0xa97f), (0xa9ce, 0xa9ce),
    (0xa9da, 0xa9dd), (0xa9ff, 0xa9ff), (0xaa37, 0xaa3f), (0xaa4e, 0xaa4f), (0xaa5a, 0xaa5b),
    (0xaac3, 0xaada), (0xaaf7, 0xab00), (0xab07, 0xab08), (0xab0f, 0xab10), (0xab17, 0xab1f),
    (0xab27, 0xab27), (0xab2f, 0xab2f), (0xab6d, 0xab6f), (0xabee, 0xabef), (0xabfa, 0xabff),
    (0xd7a4, 0xd7af), (0xd7c7, 0xd7ca), (0xd7fc, 0xf8ff), (0xfa6e, 0xfa6f), (0xfada, 0xfaff),
    (0xfb07, 0xfb12), (0xfb18, 0xfb1c), (0xfb37, 0xfb37), (0xfb3d, 0xfb3d), (0xfb3f, 0xfb3f),
    (0xfb42, 0xfb42), (0xfb45, 0xfb45), (0xfc5e, 0xfc63), (0xfdd0, 0xfdef), (0xfdfa, 0xfdfb),
    (0xfe12, 0xfe13), (0xfe16, 0xfe16), (0xfe19, 0xfe1f), (0xfe30, 0xfe30), (0xfe47, 0xfe4c),
    (0xfe52, 0xfe53), (0xfe55, 0xfe56), (0xfe5f, 0xfe5f), (0xfe64, 0xfe65), (0xfe67, 0xfe68),
    (0xfe6a, 0xfe70), (0xfe72, 0xfe72), (0xfe74, 0xfe76), (0xfe78, 0xfe78), (0xfe7a, 0xfe7a),
    (0xfe7c, 0xfe7c), (0xfe7e, 0xfe7e), (0xfefd, 0xfefe), (0xff00, 0xff00), (0xff03, 0xff03),
    (0xff05, 0xff05), (0xff0f, 0xff0f), (0xff1a, 0xff1a), (0xff1c, 0xff1c), (0xff1e, 0xff20),
    (0xff3b, 0xff3e), (0xff5c, 0xff5c), (0xffbf, 0xffc1), (0xffc8, 0xffc9), (0xffd0, 0xffd1),
    (0xffd8, 0xffd9), (0xffdd, 0xffdf), (0xffe3, 0xffe3), (0xffe7, 0xffe7), (0xffef, 0xffff),
    (0x1000c, 0x1000c), (0x10027, 0x10027), (0x1003b, 0x1003b), (0x1003e, 0x1003e),
    (0x1004e, 0x1004f), (0x1005e, 0x1007f), (0x100fb, 0x100ff), (0x10103, 0x10106),
    (0x10134, 0x10136), (0x1018f, 0x1018f), (0x1019d, 0x1019f), (0x101a1, 0x101cf),
    (0x101fe, 0x1027f), (0x1029d, 0x1029f), (0x102d1, 0x102df), (0x102fc, 0x102ff),
    (0x10324, 0x1032c), (0x1034b, 0x1034f), (0x1037b, 0x1037f), (0x1039e, 0x1039e),
    (0x103c4, 0x103c7), (0x103d6, 0x103ff), (0x1049e, 0x1049f), (0x104aa, 0x104af),
    (0x104d4, 0x104d7), (0x104fc, 0x104ff), (0x10528, 0x1052f), (0x10564, 0x1056e),
    (0x1057b, 0x1057b), (0x1058b, 0x1058b), (0x10593, 0x10593), (0x10596, 0x10596),
    (0x105a2, 0x105a2), (0x105b2, 0x105b2), (0x105ba, 0x105ba), (0x105bd, 0x105bf),
    (0x105f4, 0x105ff), (0x10737, 0x1073f), (0x10756, 0x1075f), (0x10768, 0x1077f),
    (0x10786, 0x10786), (0x107b1, 0x107b1), (0x107bc, 0x107ff), (0x10806, 0x10807),
    (0x10809, 0x10809), (0x10836, 0x10836), (0x10839, 0x1083b), (0x1083d, 0x1083e),
    (0x10856, 0x10856), (0x1089f, 0x108a6), (0x108b0, 0x108df), (0x108f3, 0x108f3),
    (0x108f6, 0x108fa), (0x1091c, 0x1091e), (0x1093a, 0x1093e), (0x1095a, 0x1097f),
    (0x109b8, 0x109bb), (0x109d0, 0x109d1), (0x10a04, 0x10a04), (0x10a07, 0x10a0b),
    (0x10a14, 0x10a14), (0x10a18, 0x10a18), (0x10a36, 0x10a37), (0x10a3b, 0x10a3e),
    (0x10a49, 0x10a4f), (0x10a59, 0x10a5f), (0x10aa0, 0x10abf), (0x10ae7, 0x10aea),
    (0x10af7, 0x10aff), (0x10b36, 0x10b38), (0x10b56, 0x10b57), (0x10b73, 0x10b77),
    (0x10b92, 0x10b98), (0x10b9d, 0x10ba8), (0x10bb0, 0x10bff), (0x10c49, 0x10c7f),
    (0x10cb3, 0x10cbf), (0x10cf3, 0x10cf9), (0x10d28, 0x10d2f), (0x10d3a, 0x10d3f),
    (0x10d66, 0x10d68), (0x10d86, 0x10d8d), (0x10d90, 0x10e5f), (0x10e7f, 0x10e7f),
    (0x10eaa, 0x10eaa), (0x10eae, 0x10eaf), (0x10eb2, 0x10ec1), (0x10ec8, 0x10eca),
    (0x10ecc, 0x10ecf), (0x10ed9, 0x10ef9), (0x10f28, 0x10f2f), (0x10f5a, 0x10f6f),
    (0x10f8a, 0x10faf), (0x10fcc, 0x10fdf), (0x10ff7, 0x10fff), (0x1104e, 0x11051),
    (0x11076, 0x1107e), (0x110bd, 0x110bd), (0x110c3, 0x110cf), (0x110e9, 0x110ef),
    (0x110fa, 0x110ff), (0x11135, 0x11135), (0x11148, 0x1114f), (0x11177, 0x1117f),
    (0x111e0, 0x111e0), (0x111f5, 0x111ff), (0x11212, 0x11212), (0x11242, 0x1127f),
    (0x11287, 0x11287), (0x11289, 0x11289), (0x1128e, 0x1128e), (0x1129e, 0x1129e),
    (0x112aa, 0x112af), (0x112eb, 0x112ef), (0x112fa, 0x112ff), (0x11304, 0x11304),
    (0x1130d, 0x1130e), (0x11311, 0x11312), (0x11329, 0x11329), (0x11331, 0x11331),
    (0x11334, 0x11334), (0x1133a, 0x1133a), (0x11345, 0x11346), (0x11349, 0x1134a),
    (0x1134e, 0x1134f), (0x11351, 0x11356), (0x11358, 0x1135c), (0x11364, 0x11365),
    (0x1136d, 0x1136f), (0x11375, 0x1137f), (0x1138a, 0x1138a), (0x1138c, 0x1138d),
    (0x1138f, 0x1138f), (0x113b6, 0x113b6), (0x113c1, 0x113c1), (0x113c3, 0x113c4),
    (0x113c6, 0x113c6), (0x113cb, 0x113cb), (0x113d6, 0x113d6), (0x113d9, 0x113e0),
    (0x113e3, 0x113ff), (0x1145c, 0x1145c), (0x11462, 0x1147f), (0x114c8, 0x114cf),
    (0x114da, 0x1157f), (0x115b6, 0x115b7), (0x115de, 0x115ff), (0x11645, 0x1164f),
    (0x1165a, 0x1165f), (0x1166d, 0x1167f), (0x116ba, 0x116bf), (0x116ca, 0x116cf),
    (0x116e4, 0x116ff), (0x1171b, 0x1171c), (0x1172c, 0x1172f), (0x11747, 0x117ff),
    (0x1183c, 0x1189f), (0x118f3, 0x118fe), (0x11907, 0x11908), (0x1190a, 0x1190b),
    (0x11914, 0x11914), (0x11917, 0x11917), (0x11936, 0x11936), (0x11939, 0x1193a),
    (0x11947, 0x1194f), (0x1195a, 0x1199f), (0x119a8, 0x119a9), (0x119d8, 0x119d9),
    (0x119e5, 0x119ff), (0x11a48, 0x11a4f), (0x11aa3, 0x11aaf), (0x11af9, 0x11aff),
    (0x11b0a, 0x11b5f), (0x11b68, 0x11bbf), (0x11be2, 0x11bef), (0x11bfa, 0x11bff),
    (0x11c09, 0x11c09), (0x11c37, 0x11c37), (0x11c46, 0x11c4f), (0x11c6d, 0x11c6f),
    (0x11c90, 0x11c91), (0x11ca8, 0x11ca8), (0x11cb7, 0x11cff), (0x11d07, 0x11d07),
    (0x11d0a, 0x11d0a), (0x11d37, 0x11d39), (0x11d3b, 0x11d3b), (0x11d3e, 0x11d3e),
    (0x11d48, 0x11d4f), (0x11d5a, 0x11d5f), (0x11d66, 0x11d66), (0x11d69, 0x11d69),
    (0x11d8f, 0x11d8f), (0x11d92, 0x11d92), (0x11d99, 0x11d9f), (0x11daa, 0x11daf),
    (0x11ddc, 0x11ddf), (0x11dea, 0x11edf), (0x11ef9, 0x11eff), (0x11f11, 0x11f11),
    (0x11f3b, 0x11f3d), (0x11f5b, 0x11faf), (0x11fb1, 0x11fbf), (0x11ff2, 0x11ffe),
    (0x1239a, 0x123ff), (0x1246f, 0x1246f), (0x12475, 0x1247f), (0x12544, 0x1254f),
    (0x12687, 0x12f8f), (0x12ff3, 0x12fff), (0x13430, 0x1343f), (0x13456, 0x1345f),
    (0x143fb, 0x143ff), (0x14647, 0x160ff), (0x1613a, 0x167ff), (0x16a39, 0x16a3f),
    (0x16a5f, 0x16a5f), (0x16a6a, 0x16a6d), (0x16abf, 0x16abf), (0x16aca, 0x16acf),
    (0x16aee, 0x16aef), (0x16af6, 0x16aff), (0x16b46, 0x16b4f), (0x16b5a, 0x16b5a),
    (0x16b62, 0x16b62), (0x16b78, 0x16b7c), (0x16b90, 0x16d3f), (0x16d7a, 0x16d7f),
    (0x16d9e, 0x16d9f), (0x16daa, 0x16e3f), (0x16e9b, 0x16e9f), (0x16eb9, 0x16eba),
    (0x16ed4, 0x16eff), (0x16f4b, 0x16f4e), (0x16f88, 0x16f8e), (0x16fa0, 0x16fdf),
    (0x16fe5, 0x16fef), (0x16ff7, 0x16fff), (0x18cd6, 0x18cfe), (0x18d1f, 0x18d7f),
    (0x18df3, 0x18dff), (0x19192, 0x1919f), (0x191d3, 0x1afef), (0x1aff4, 0x1aff4),
    (0x1affc, 0x1affc), (0x1afff, 0x1afff), (0x1b123, 0x1b131), (0x1b133, 0x1b14f),
    (0x1b153, 0x1b154), (0x1b156, 0x1b163), (0x1b168, 0x1b16f), (0x1b2fc, 0x1bbff),
    (0x1bc6b, 0x1bc6f), (0x1bc7d, 0x1bc7f), (0x1bc89, 0x1bc8f), (0x1bc9a, 0x1bc9b),
    (0x1bca4, 0x1cbff), (0x1ccfd, 0x1ccff), (0x1ceb4, 0x1ceb9), (0x1ced1, 0x1cedf),
    (0x1cef1, 0x1ceff), (0x1cf2e, 0x1cf2f), (0x1cf47, 0x1cf4f), (0x1cfc4, 0x1cfff),
    (0x1d0f6, 0x1d0ff), (0x1d127, 0x1d128), (0x1d1ec, 0x1d1ff), (0x1d246, 0x1d24f),
    (0x1d290, 0x1d2bf), (0x1d2d4, 0x1d2df), (0x1d2f4, 0x1d2ff), (0x1d357, 0x1d35f),
    (0x1d379, 0x1d3ff), (0x1d455, 0x1d455), (0x1d49d, 0x1d49d), (0x1d4a0, 0x1d4a1),
    (0x1d4a3, 0x1d4a4), (0x1d4a7, 0x1d4a8), (0x1d4ad, 0x1d4ad), (0x1d4ba, 0x1d4ba),
    (0x1d4bc, 0x1d4bc), (0x1d4c4, 0x1d4c4), (0x1d506, 0x1d506), (0x1d50b, 0x1d50c),
    (0x1d515, 0x1d515), (0x1d51d, 0x1d51d), (0x1d53a, 0x1d53a), (0x1d53f, 0x1d53f),
    (0x1d545, 0x1d545), (0x1d547, 0x1d549), (0x1d551, 0x1d551), (0x1d6a7, 0x1d6a7),
    (0x1d7cc, 0x1d7cd), (0x1da8c, 0x1da9a), (0x1daa0, 0x1daa0), (0x1dab0, 0x1daff),
    (0x1dc00, 0x1deff), (0x1df1f, 0x1df24), (0x1df2b, 0x1dfff), (0x1e007, 0x1e007),
    (0x1e019, 0x1e01a), (0x1e022, 0x1e022), (0x1e025, 0x1e025), (0x1e02b, 0x1e02f),
    (0x1e06e, 0x1e08e), (0x1e090, 0x1e0ff), (0x1e12d, 0x1e12f), (0x1e13e, 0x1e13f),
    (0x1e14a, 0x1e14d), (0x1e150, 0x1e28f), (0x1e2af, 0x1e2bf), (0x1e2fa, 0x1e2fe),
    (0x1e300, 0x1e4cf), (0x1e4fa, 0x1e5cf), (0x1e5fb, 0x1e5fe), (0x1e600, 0x1e6bf),
    (0x1e6df, 0x1e6df), (0x1e6f6, 0x1e6fd), (0x1e700, 0x1e7df), (0x1e7e7, 0x1e7e7),
    (0x1e7ec, 0x1e7ec), (0x1e7ef, 0x1e7ef), (0x1e7ff, 0x1e7ff), (0x1e8c5, 0x1e8c6),
    (0x1e8d7, 0x1e8ff), (0x1e94c, 0x1e94f), (0x1e95a, 0x1e95d), (0x1e960, 0x1ec70),
    (0x1ecb5, 0x1ed00), (0x1ed3e, 0x1edff), (0x1ee04, 0x1ee04), (0x1ee20, 0x1ee20),
    (0x1ee23, 0x1ee23), (0x1ee25, 0x1ee26), (0x1ee28, 0x1ee28), (0x1ee33, 0x1ee33),
    (0x1ee38, 0x1ee38), (0x1ee3a, 0x1ee3a), (0x1ee3c, 0x1ee41), (0x1ee43, 0x1ee46),
    (0x1ee48, 0x1ee48), (0x1ee4a, 0x1ee4a), (0x1ee4c, 0x1ee4c), (0x1ee50, 0x1ee50),
    (0x1ee53, 0x1ee53), (0x1ee55, 0x1ee56), (0x1ee58, 0x1ee58), (0x1ee5a, 0x1ee5a),
    (0x1ee5c, 0x1ee5c), (0x1ee5e, 0x1ee5e), (0x1ee60, 0x1ee60), (0x1ee63, 0x1ee63),
    (0x1ee65, 0x1ee66), (0x1ee6b, 0x1ee6b), (0x1ee73, 0x1ee73), (0x1ee78, 0x1ee78),
    (0x1ee7d, 0x1ee7d), (0x1ee7f, 0x1ee7f), (0x1ee8a, 0x1ee8a), (0x1ee9c, 0x1eea0),
    (0x1eea4, 0x1eea4), (0x1eeaa, 0x1eeaa), (0x1eebc, 0x1eeef), (0x1eef2, 0x1efff),
    (0x1f02c, 0x1f02f), (0x1f094, 0x1f09f), (0x1f0af, 0x1f0b0), (0x1f0c0, 0x1f0c0),
    (0x1f0d0, 0x1f0d0), (0x1f0f6, 0x1f100), (0x1f1af, 0x1f1e5), (0x1f203, 0x1f20f),
    (0x1f23c, 0x1f23f), (0x1f249, 0x1f24f), (0x1f252, 0x1f25f), (0x1f266, 0x1f2ff),
    (0x1f6da, 0x1f6db), (0x1f6ed, 0x1f6ef), (0x1f6fd, 0x1f6ff), (0x1f7da, 0x1f7df),
    (0x1f7ec, 0x1f7ef), (0x1f7f1, 0x1f7ff), (0x1f80c, 0x1f80f), (0x1f848, 0x1f84f),
    (0x1f85a, 0x1f85f), (0x1f888, 0x1f88f), (0x1f8ae, 0x1f8af), (0x1f8bc, 0x1f8bf),
    (0x1f8c2, 0x1f8cf), (0x1f8d9, 0x1f8ff), (0x1fa58, 0x1fa5f), (0x1fa6e, 0x1fa6f),
    (0x1fa7d, 0x1fa7f), (0x1fac7, 0x1fac7), (0x1fac9, 0x1faca), (0x1facc, 0x1facc),
    (0x1fade, 0x1fade), (0x1faec, 0x1faee), (0x1fafb, 0x1faff), (0x1fb93, 0x1fb93),
    (0x1fbfb, 0x1ffff), (0x2a6e0, 0x2a6ff), (0x2b81f, 0x2b81f), (0x2ceae, 0x2ceaf),
    (0x2ebe1, 0x2ebef), (0x2ee5e, 0x2f7ff), (0x2fa1e, 0x2ffff), (0x3134b, 0x3134f),
    (0x3347a, 0x3cfff), (0x3fc40, 0xe00ff), (0xe01f0, 0x10ffff)]

/-- Ranges of characters that are dropped. -/
def droppedRanges : List (Nat × Nat) :=
  [(0xad, 0xad), (0x34f, 0x34f), (0x115f, 0x1160), (0x17b4, 0x17b5), (0x180b, 0x180f),
    (0x200b, 0x200b), (0x2060, 0x2064), (0x206a, 0x206f), (0x3164, 0x3164), (0xfe00, 0xfe0f),
    (0xfeff, 0xfeff), (0xffa0, 0xffa0), (0x1bca0, 0x1bca3), (0x1d173, 0x1d17a), (0xe0100, 0xe01ef)]

/-- Ranges of characters that become one character each, with what they become in order. Some of
them stay as they are. -/
def letterSpans : List (Nat × Nat × String) :=
  [(0xaa, 0xaa, "a"), (0xb2, 0xb3, "23"), (0xb5, 0xb5, "μ"), (0xb9, 0xba, "1o"),
    (0xc0, 0xde, "àáâãäåæçèéêëìíîïðñòóôõö×øùúûüýþ"),
    (0x100, 0x12e, "āāăăąąććĉĉċċččďďđđēēĕĕėėęęěěĝĝğğġġģģĥĥħħĩĩīīĭĭį"), (0x134, 0x13d, "ĵĵķķĸĺĺļļľ"),
    (0x141, 0x147, "łłńńņņň"),
    (0x14a, 0x193, "ŋŋōōŏŏőőœœŕŕŗŗřřśśŝŝşşššţţťťŧŧũũūūŭŭůůűűųųŵŵŷŷÿźźżżžžsƀɓƃƃƅƅɔƈƈɖɗƌƌƍǝəɛƒƒɠ"),
    (0x194, 0x1bc, "ɣƕɩɨƙƙƚƛɯɲƞɵơơƣƣƥƥʀƨƨʃƪƫƭƭʈưưʊʋƴƴƶƶʒƹƹƺƻƽ"),
    (0x1cd, 0x1ee, "ǎǎǐǐǒǒǔǔǖǖǘǘǚǚǜǜǝǟǟǡǡǣǣǥǥǧǧǩǩǫǫǭǭǯ"),
    (0x1f4, 0x232, "ǵǵƕƿǹǹǻǻǽǽǿǿȁȁȃȃȅȅȇȇȉȉȋȋȍȍȏȏȑȑȓȓȕȕȗȗșșțțȝȝȟȟƞȡȣȣȥȥȧȧȩȩȫȫȭȭȯȯȱȱȳ"),
    (0x23a, 0x24e, "ⱥȼȼƚⱦȿɀɂɂƀʉʌɇɇɉɉɋɋɍɍɏ"), (0x2b0, 0x2b8, "hɦjrɹɻʁwy"), (0x2e0, 0x2e4, "ɣlsxʕ"),
    (0x340, 0x343, "\u0300\u0301\u0342\u0313"), (0x345, 0x345, "ι"), (0x370, 0x376, "ͱͱͳͳʹ͵ͷ"),
    (0x37e, 0x37f, ";ϳ"), (0x386, 0x38a, "ά·έήί"), (0x38c, 0x38c, "ό"),
    (0x38e, 0x3a1, "ύώΐαβγδεζηθικλμνξοπρ"), (0x3a3, 0x3ab, "στυφχψωϊϋ"),
    (0x3cf, 0x418, "ϗβθυύϋφπϗϙϙϛϛϝϝϟϟϡϡϣϣϥϥϧϧϩϩϫϫϭϭϯϯκρσϳθε϶ϸϸσϻϻϼͻͼͽѐёђѓєѕіїјљњћќѝўџабвгдежзи"),
    (0x419, 0x42f, "йклмнопрстуфхцчшщъыьэюя"), (0x460, 0x480, "ѡѡѣѣѥѥѧѧѩѩѫѫѭѭѯѯѱѱѳѳѵѵѷѷѹѹѻѻѽѽѿѿҁ"),
    (0x48a, 0x4d2, "ҋҋҍҍҏҏґґғғҕҕҗҗҙҙққҝҝҟҟҡҡңңҥҥҧҧҩҩҫҫҭҭүүұұҳҳҵҵҷҷҹҹһһҽҽҿҿӏӂӂӄӄӆӆӈӈӊӊӌӌӎӎӏӑӑӓ"),
    (0x4d4, 0x51c, "ӕӕӗӗәәӛӛӝӝӟӟӡӡӣӣӥӥӧӧөөӫӫӭӭӯӯӱӱӳӳӵӵӷӷӹӹӻӻӽӽӿӿԁԁԃԃԅԅԇԇԉԉԋԋԍԍԏԏԑԑԓԓԕԕԗԗԙԙԛԛԝ"),
    (0x51e, 0x52e, "ԟԟԡԡԣԣԥԥԧԧԩԩԫԫԭԭԯ"), (0x531, 0x556, "աբգդեզէըթժիլխծկհձղճմյնշոչպջռսվտրցւփքօֆ"),
    (0x558, 0x558, "է"), (0xf0c, 0xf0c, "་"),
    (0x10a0, 0x10c5, "ⴀⴁⴂⴃⴄⴅⴆⴇⴈⴉⴊⴋⴌⴍⴎⴏⴐⴑⴒⴓⴔⴕⴖⴗⴘⴙⴚⴛⴜⴝⴞⴟⴠⴡⴢⴣⴤⴥ"), (0x10c7, 0x10c7, "ⴧ"),
    (0x10cd, 0x10cd, "ⴭ"), (0x10fc, 0x10fc, "ნ"), (0x13f8, 0x13fd, "ᏰᏱᏲᏳᏴᏵ"),
    (0x1c80, 0x1c89, "вдосттъѣꙋ\u1c8a"),
    (0x1c90, 0x1cba, "აბგდევზთიკლმნოპჟრსტუფქღყშჩცძწჭხჯჰჱჲჳჴჵჶჷჸჹჺ"), (0x1cbd, 0x1cbf, "ჽჾჿ"),
    (0x1d2c, 0x1d6a, "aæbᴯdeǝghijklmnᴻoȣprtuwaɐɑᴂbdeəɛɜgᵎkmŋoɔᴖᴗptuᴝɯvᴥβγδφχiruvβγρφχ"),
    (0x1d78, 0x1d78, "н"), (0x1d9b, 0x1dbf, "ɒcɕðɜfɟɡɥɨɩɪᵻʝɭᶅʟɱɰɲɳɴɵɸʂʃƫʉʊᴜʋʌzʐʑʒθ"),
    (0x1e00, 0x1e48, "ḁḁḃḃḅḅḇḇḉḉḋḋḍḍḏḏḑḑḓḓḕḕḗḗḙḙḛḛḝḝḟḟḡḡḣḣḥḥḧḧḩḩḫḫḭḭḯḯḱḱḳḳḵḵḷḷḹḹḻḻḽḽḿḿṁṁṃṃṅṅṇṇṉ"),
    (0x1e4a, 0x1e92, "ṋṋṍṍṏṏṑṑṓṓṕṕṗṗṙṙṛṛṝṝṟṟṡṡṣṣṥṥṧṧṩṩṫṫṭṭṯṯṱṱṳṳṵṵṷṷṹṹṻṻṽṽṿṿẁẁẃẃẅẅẇẇẉẉẋẋẍẍẏẏẑẑẓ"),
    (0x1e94, 0x1e94, "ẕ"),
    (0x1e9b, 0x1ee4, "ṡẜẝßẟạạảảấấầầẩẩẫẫậậắắằằẳẳẵẵặặẹẹẻẻẽẽếếềềểểễễệệỉỉịịọọỏỏốốồồổổỗỗộộớớờờởởỡỡợợụ"),
    (0x1ee6, 0x1efe, "ủủứứừừửửữữựựỳỳỵỵỷỷỹỹỻỻỽỽỿ"), (0x1f08, 0x1f0f, "ἀἁἂἃἄἅἆἇ"),
    (0x1f18, 0x1f1d, "ἐἑἒἓἔἕ"), (0x1f28, 0x1f2f, "ἠἡἢἣἤἥἦἧ"), (0x1f38, 0x1f3f, "ἰἱἲἳἴἵἶἷ"),
    (0x1f48, 0x1f4d, "ὀὁὂὃὄὅ"), (0x1f59, 0x1f59, "ὑ"), (0x1f5b, 0x1f5b, "ὓ"), (0x1f5d, 0x1f5d, "ὕ"),
    (0x1f5f, 0x1f5f, "ὗ"), (0x1f68, 0x1f7d, "ὠὡὢὣὤὥὦὧὰάὲέὴήὶίὸόὺύὼώ"), (0x1fb8, 0x1fbb, "ᾰᾱὰά"),
    (0x1fbe, 0x1fbe, "ι"), (0x1fc8, 0x1fcb, "ὲέὴή"), (0x1fd3, 0x1fd3, "ΐ"),
    (0x1fd8, 0x1fdb, "ῐῑὶί"), (0x1fe3, 0x1fec, "ΰῤῥῦῧῠῡὺύῥ"), (0x1fef, 0x1fef, "\x60"),
    (0x1ff8, 0x1ffb, "ὸόὼώ"), (0x2011, 0x2011, "‐"), (0x2070, 0x2071, "0i"),
    (0x2074, 0x209f, "456789+−=()n0123456789+−=()\u208faeoxəhklmnpstwyz"), (0x2102, 0x2102, "c"),
    (0x2107, 0x2107, "ɛ"), (0x210a, 0x2115, "ghhhhħiill℔n"), (0x2119, 0x211d, "pqrrr"),
    (0x2124, 0x2139, "z℥ω℧z℩kåbc℮eefⅎmo\u05d0\u05d1\u05d2\u05d3i"),
    (0x213c, 0x2149, "πγγπ∑⅁⅂⅃⅄ddeij"), (0x2160, 0x2160, "i"), (0x2164, 0x2164, "v"),
    (0x2169, 0x2169, "x"), (0x216c, 0x2170, "lcdmi"), (0x2174, 0x2174, "v"), (0x2179, 0x2179, "x"),
    (0x217c, 0x2183, "lcdmↀↁↂↄ"), (0x2329, 0x232a, "〈〉"), (0x2460, 0x2468, "123456789"),
    (0x24b6, 0x24ea, "abcdefghijklmnopqrstuvwxyzabcdefghijklmnopqrstuvwxyz0"),
    (0x2c00, 0x2c2f, "ⰰⰱⰲⰳⰴⰵⰶⰷⰸⰹⰺⰻⰼⰽⰾⰿⱀⱁⱂⱃⱄⱅⱆⱇⱈⱉⱊⱋⱌⱍⱎⱏⱐⱑⱒⱓⱔⱕⱖⱗⱘⱙⱚⱛⱜⱝⱞⱟ"),
    (0x2c60, 0x2ca8, "ⱡⱡɫᵽɽⱥⱦⱨⱨⱪⱪⱬⱬɑɱɐɒⱱⱳⱳⱴⱶⱶⱷⱸⱹⱺⱻjvȿɀⲁⲁⲃⲃⲅⲅⲇⲇⲉⲉⲋⲋⲍⲍⲏⲏⲑⲑⲓⲓⲕⲕⲗⲗⲙⲙⲛⲛⲝⲝⲟⲟⲡⲡⲣⲣⲥⲥⲧⲧⲩ"),
    (0x2caa, 0x2ce2, "ⲫⲫⲭⲭⲯⲯⲱⲱⲳⲳⲵⲵⲷⲷⲹⲹⲻⲻⲽⲽⲿⲿⳁⳁⳃⳃⳅⳅⳇⳇⳉⳉⳋⳋⳍⳍⳏⳏⳑⳑⳓⳓⳕⳕⳗⳗⳙⳙⳛⳛⳝⳝⳟⳟⳡⳡⳣ"),
    (0x2ceb, 0x2cf2, "ⳬⳬⳮⳮ\u2cef\u2cf0\u2cf1ⳳ"), (0x2d6f, 0x2d6f, "ⵡ"), (0x2e9f, 0x2e9f, "母"),
    (0x2ef3, 0x2ef3, "龟"),
    (0x2f00, 0x2f24, "一丨丶丿乙亅二亠人儿入八冂冖冫几凵刀力勹匕匚匸十卜卩厂厶又口囗土士夂夊夕大"),
    (0x2f25, 0x2f49, "女子宀寸小尢尸屮山巛工己巾干幺广廴廾弋弓彐彡彳心戈戶手支攴文斗斤方无日曰月"),
    (0x2f4a, 0x2f6e, "木欠止歹殳毋比毛氏气水火爪父爻爿片牙牛犬玄玉瓜瓦甘生用田疋疒癶白皮皿目矛矢"),
    (0x2f6f, 0x2f93, "石示禸禾穴立竹米糸缶网羊羽老而耒耳聿肉臣自至臼舌舛舟艮色艸虍虫血行衣襾見角"),
    (0x2f94, 0x2fb8, "言谷豆豕豸貝赤走足身車辛辰辵邑酉釆里金長門阜隶隹雨靑非面革韋韭音頁風飛食首"),
    (0x2fb9, 0x2fd5, "香馬骨高髟鬥鬯鬲鬼魚鳥鹵鹿麥麻黃黍黑黹黽鼎鼓鼠鼻齊齒龍龜龠"),
    (0x3002, 0x3002, "."), (0x3036, 0x303a, "〒〷十卄卅"),
    (0x3131, 0x3163, "ᄀᄁᆪᄂᆬᆭᄃᄄᄅᆰᆱᆲᆳᆴᆵᄚᄆᄇᄈᄡᄉᄊᄋᄌᄍᄎᄏᄐᄑ하ᅢᅣᅤᅥᅦᅧᅨᅩᅪᅫᅬᅭᅮᅯᅰᅱᅲᅳᅴᅵ"),
    (0x3165, 0x318e, "ᄔᄕᇇᇈᇌᇎᇓᇗᇙᄜᇝᇟᄝᄞᄠᄢᄣᄧᄩᄫᄬᄭᄮᄯᄲᄶᅀᅇᅌᇱᇲᅗᅘᅙᆄᆅᆈᆑᆒᆔᆞᆡ"),
    (0x3192, 0x319f, "一二三四上中下甲乙丙丁天地人"), (0x3244, 0x3247, "問幼文箏"),
    (0x3260, 0x327b, "ᄀᄂᄃᄅᄆᄇᄉᄋᄌᄎᄏᄐᄑᄒ가나다라마바사아자차카타파하"),
    (0x327e, 0x32a2, "우㉿一二三四五六七八九十月火水木金土日株有社名特財祝労秘男女適優印注項休写"),
    (0x32a3, 0x32b0, "正上中下左右医宗学監企資協夜"),
    (0x32d0, 0x32f4, "アイウエオカキクケコサシスセソタチツテトナニヌネノハヒフヘホマミムメモヤユ"),
    (0x32f5, 0x32fe, "ヨラリルレロワヰヱヲ"),
    (0xa640, 0xa66c, "ꙁꙁꙃꙃꙅꙅꙇꙇꙉꙉꙋꙋꙍꙍꙏꙏꙑꙑꙓꙓꙕꙕꙗꙗꙙꙙꙛꙛꙝꙝꙟꙟꙡꙡꙣꙣꙥꙥꙧꙧꙩꙩꙫꙫꙭ"),
    (0xa680, 0xa69d, "ꚁꚁꚃꚃꚅꚅꚇꚇꚉꚉꚋꚋꚍꚍꚏꚏꚑꚑꚓꚓꚕꚕꚗꚗꚙꚙꚛꚛъь"),
    (0xa722, 0xa76a, "ꜣꜣꜥꜥꜧꜧꜩꜩꜫꜫꜭꜭꜯꜯꜰꜱꜳꜳꜵꜵꜷꜷꜹꜹꜻꜻꜽꜽꜿꜿꝁꝁꝃꝃꝅꝅꝇꝇꝉꝉꝋꝋꝍꝍꝏꝏꝑꝑꝓꝓꝕꝕꝗꝗꝙꝙꝛꝛꝝꝝꝟꝟꝡꝡꝣꝣꝥꝥꝧꝧꝩꝩꝫ"),
    (0xa76c, 0xa770, "ꝭꝭꝯꝯꝯ"),
    (0xa779, 0xa7c2, "ꝺꝺꝼꝼᵹꝿꝿꞁꞁꞃꞃꞅꞅꞇꞇꞈ꞉꞊ꞌꞌɥꞎꞏꞑꞑꞓꞓꞔꞕꞗꞗꞙꞙꞛꞛꞝꞝꞟꞟꞡꞡꞣꞣꞥꞥꞧꞧꞩꞩɦɜɡɬɪꞯʞʇʝꭓꞵꞵꞷꞷꞹꞹꞻꞻꞽꞽꞿꞿꟁꟁꟃ"),
    (0xa7c4, 0xa7dd, "ꞔʂᶎꟈꟈꟊꟊɤ\ua7cd\ua7cd\ua7cf\ua7cfꟑꟑꟓꟓꟕꟕꟗꟗꟙꟙ\ua7db\ua7dbƛɷ"),
    (0xa7f1, 0xa7f9, "scfqꟶꟶꟷħœ"), (0xab5c, 0xab5f, "ꜧꬷɫꭒ"), (0xab69, 0xab6c, "ʍ꭪꭫ꭋ"),
    (0xab70, 0xabb9, "ᎠᎡᎢᎣᎤᎥᎦᎧᎨᎩᎪᎫᎬᎭᎮᎯᎰᎱᎲᎳᎴᎵᎶᎷᎸᎹᎺᎻᎼᎽᎾᎿᏀᏁᏂᏃᏄᏅᏆᏇᏈᏉᏊᏋᏌᏍᏎᏏᏐᏑᏒᏓᏔᏕᏖᏗᏘᏙᏚᏛᏜᏝᏞᏟᏠᏡᏢᏣᏤᏥᏦᏧᏨᏩ"),
    (0xabba, 0xabbf, "ᏪᏫᏬᏭᏮᏯ"),
    (0xf900, 0xf924, "豈更車賈滑串句龜龜契金喇奈懶癩羅蘿螺裸邏樂洛烙珞落酪駱亂卵欄爛蘭鸞嵐濫藍襤"),
    (0xf925, 0xf949, "拉臘蠟廊朗浪狼郎來冷勞擄櫓爐盧老蘆虜路露魯鷺碌祿綠菉錄鹿論壟弄籠聾牢磊賂雷"),
    (0xf94a, 0xf96e, "壘屢樓淚漏累縷陋勒肋凜凌稜綾菱陵讀拏樂諾丹寧怒率異北磻便復不泌數索參塞省葉"),
    (0xf96f, 0xf993, "說殺辰沈拾若掠略亮兩凉梁糧良諒量勵呂女廬旅濾礪閭驪麗黎力曆歷轢年憐戀撚漣煉"),
    (0xf994, 0xf9b8, "璉秊練聯輦蓮連鍊列劣咽烈裂說廉念捻殮簾獵令囹寧嶺怜玲瑩羚聆鈴零靈領例禮醴隸"),
    (0xf9b9, 0xf9dd, "惡了僚寮尿料樂燎療蓼遼龍暈阮劉杻柳流溜琉留硫紐類六戮陸倫崙淪輪律慄栗率隆利"),
    (0xf9de, 0xfa02, "吏履易李梨泥理痢罹裏裡里離匿溺吝燐璘藺隣鱗麟林淋臨立笠粒狀炙識什茶刺切度拓"),
    (0xfa03, 0xfa26, "糖宅洞暴輻行降見廓兀嗀﨎﨏塚﨑晴﨓﨔凞猪益礼神祥福靖精羽﨟蘒﨡諸﨣﨤逸都"),
    (0xfa2a, 0xfa4e, "飯飼館鶴郞隷侮僧免勉勤卑喝嘆器塀墨層屮悔慨憎懲敏既暑梅海渚漢煮爫琢碑社祉祈"),
    (0xfa4f, 0xfa6d, "祐祖祝禍禎穀突節練縉繁署者臭艹艹著褐視謁謹賓贈辶逸難響頻恵𤋮舘"),
    (0xfa70, 0xfa94, "並况全侀充冀勇勺喝啕喙嗢塚墳奄奔婢嬨廒廙彩徭惘慎愈憎慠懲戴揄搜摒敖晴朗望杖"),
    (0xfa95, 0xfab9, "歹殺流滛滋漢瀞煮瞧爵犯猪瑱甆画瘝瘟益盛直睊着磌窱節类絛練缾者荒華蝹襁覆視調"),
    (0xfaba, 0xfad9, "諸請謁諾諭謹變贈輸遲醙鉶陼難靖韛響頋頻鬒龜𢡊𢡄𣏕㮝䀘䀹𥉉𥳐𧻓齃龎"),
    (0xfb20, 0xfb29, "\u05e2\u05d0\u05d3\u05d4\u05db\u05dc\u05dd\u05e8\u05ea+"),
    (0xfb50, 0xfb5b, "\u0671\u0671\u067b\u067b\u067b\u067b\u067e\u067e\u067e\u067e\u0680\u0680"),
    (0xfb5c, 0xfb67, "\u0680\u0680\u067a\u067a\u067a\u067a\u067f\u067f\u067f\u067f\u0679\u0679"),
    (0xfb68, 0xfb73, "\u0679\u0679\u06a4\u06a4\u06a4\u06a4\u06a6\u06a6\u06a6\u06a6\u0684\u0684"),
    (0xfb74, 0xfb7f, "\u0684\u0684\u0683\u0683\u0683\u0683\u0686\u0686\u0686\u0686\u0687\u0687"),
    (0xfb80, 0xfb8b, "\u0687\u0687\u068d\u068d\u068c\u068c\u068e\u068e\u0688\u0688\u0698\u0698"),
    (0xfb8c, 0xfb97, "\u0691\u0691\u06a9\u06a9\u06a9\u06a9\u06af\u06af\u06af\u06af\u06b3\u06b3"),
    (0xfb98, 0xfba3, "\u06b3\u06b3\u06b1\u06b1\u06b1\u06b1\u06ba\u06ba\u06bb\u06bb\u06bb\u06bb"),
    (0xfba4, 0xfbaf, "\u06c0\u06c0\u06c1\u06c1\u06c1\u06c1\u06be\u06be\u06be\u06be\u06d2\u06d2"),
    (0xfbb0, 0xfbb1, "\u06d3\u06d3"),
    (0xfbd3, 0xfbdc, "\u06ad\u06ad\u06ad\u06ad\u06c7\u06c7\u06c6\u06c6\u06c8\u06c8"),
    (0xfbde, 0xfbe9, "\u06cb\u06cb\u06c5\u06c5\u06c9\u06c9\u06d0\u06d0\u06d0\u06d0\u0649\u0649"),
    (0xfbfc, 0xfbff, "\u06cc\u06cc\u06cc\u06cc"), (0xfe10, 0xfe11, ",、"), (0xfe14, 0xfe15, ";!"),
    (0xfe17, 0xfe18, "〖〗"), (0xfe31, 0xfe44, "—–__()\x7b\x7d〔〕【】《》〈〉「」『』"),
    (0xfe4d, 0xfe51, "___,、"), (0xfe54, 0xfe54, ";"), (0xfe57, 0xfe5e, "!—()\x7b\x7d〔〕"),
    (0xfe60, 0xfe63, "&*+-"), (0xfe66, 0xfe66, "="), (0xfe69, 0xfe69, "$"),
    (0xfe80, 0xfe8b, "\u0621\u0622\u0622\u0623\u0623\u0624\u0624\u0625\u0625\u0626\u0626\u0626"),
    (0xfe8c, 0xfe97, "\u0626\u0627\u0627\u0628\u0628\u0628\u0628\u0629\u0629\u062a\u062a\u062a"),
    (0xfe98, 0xfea3, "\u062a\u062b\u062b\u062b\u062b\u062c\u062c\u062c\u062c\u062d\u062d\u062d"),
    (0xfea4, 0xfeaf, "\u062d\u062e\u062e\u062e\u062e\u062f\u062f\u0630\u0630\u0631\u0631\u0632"),
    (0xfeb0, 0xfebb, "\u0632\u0633\u0633\u0633\u0633\u0634\u0634\u0634\u0634\u0635\u0635\u0635"),
    (0xfebc, 0xfec7, "\u0635\u0636\u0636\u0636\u0636\u0637\u0637\u0637\u0637\u0638\u0638\u0638"),
    (0xfec8, 0xfed3, "\u0638\u0639\u0639\u0639\u0639\u063a\u063a\u063a\u063a\u0641\u0641\u0641"),
    (0xfed4, 0xfedf, "\u0641\u0642\u0642\u0642\u0642\u0643\u0643\u0643\u0643\u0644\u0644\u0644"),
    (0xfee0, 0xfeeb, "\u0644\u0645\u0645\u0645\u0645\u0646\u0646\u0646\u0646\u0647\u0647\u0647"),
    (0xfeec, 0xfef4, "\u0647\u0648\u0648\u0649\u0649\u064a\u064a\u064a\u064a"),
    (0xff01, 0xff02, "!\""), (0xff04, 0xff04, "$"), (0xff06, 0xff0e, "&'()*+,-."),
    (0xff10, 0xff19, "0123456789"), (0xff1b, 0xff1b, ";"), (0xff1d, 0xff1d, "="),
    (0xff21, 0xff3a, "abcdefghijklmnopqrstuvwxyz"),
    (0xff3f, 0xff5b, "_\x60abcdefghijklmnopqrstuvwxyz\x7b"),
    (0xff5d, 0xff82, "\x7d~⦅⦆.「」、・ヲァィゥェォャュョッーアイウエオカキクケコサシスセソタチツ"),
    (0xff83, 0xff9f, "テトナニヌネノハヒフヘホマミムメモヤユヨラリルレロワン\u3099\u309a"),
    (0xffa1, 0xffbe, "ᄀᄁᆪᄂᆬᆭᄃᄄᄅᆰᆱᆲᆳᆴᆵᄚᄆᄇᄈᄡᄉᄊᄋᄌᄍᄎᄏᄐᄑᄒ"),
    (0xffc2, 0xffc7, "ᅡᅢᅣᅤᅥᅦ"), (0xffca, 0xffcf, "ᅧᅨᅩᅪᅫᅬ"), (0xffd2, 0xffd7, "ᅭᅮᅯᅰᅱᅲ"),
    (0xffda, 0xffdc, "ᅳᅴᅵ"), (0xffe0, 0xffe2, "¢£¬"), (0xffe4, 0xffe6, "¦¥₩"),
    (0xffe8, 0xffee, "│←↑→↓■○"), (0x10400, 0x10427, "𐐨𐐩𐐪𐐫𐐬𐐭𐐮𐐯𐐰𐐱𐐲𐐳𐐴𐐵𐐶𐐷𐐸𐐹𐐺𐐻𐐼𐐽𐐾𐐿𐑀𐑁𐑂𐑃𐑄𐑅𐑆𐑇𐑈𐑉𐑊𐑋𐑌𐑍𐑎𐑏"),
    (0x104b0, 0x104d3, "𐓘𐓙𐓚𐓛𐓜𐓝𐓞𐓟𐓠𐓡𐓢𐓣𐓤𐓥𐓦𐓧𐓨𐓩𐓪𐓫𐓬𐓭𐓮𐓯𐓰𐓱𐓲𐓳𐓴𐓵𐓶𐓷𐓸𐓹𐓺𐓻"), (0x10570, 0x1057a, "𐖗𐖘𐖙𐖚𐖛𐖜𐖝𐖞𐖟𐖠𐖡"),
    (0x1057c, 0x1058a, "𐖣𐖤𐖥𐖦𐖧𐖨𐖩𐖪𐖫𐖬𐖭𐖮𐖯𐖰𐖱"), (0x1058c, 0x10592, "𐖳𐖴𐖵𐖶𐖷𐖸𐖹"), (0x10594, 0x10595, "𐖻𐖼"),
    (0x10781, 0x10785, "ːˑæʙɓ"), (0x10787, 0x107b0, "ʣꭦʥʤɖɗᶑɘɞʩɤɢɠʛħʜɧʄʪʫɬ𝼄ꞎɮ𝼅ʎ𝼆øɶɷqɺ𝼈ɽɾʀʨʦꭧʧʈⱱ"),
    (0x107b2, 0x107ba, "ʏʡʢʘǀǁǂ𝼊𝼞"),
    (0x10c80, 0x10cb2, "𐳀𐳁𐳂𐳃𐳄𐳅𐳆𐳇𐳈𐳉𐳊𐳋𐳌𐳍𐳎𐳏𐳐𐳑𐳒𐳓𐳔𐳕𐳖𐳗𐳘𐳙𐳚𐳛𐳜𐳝𐳞𐳟𐳠𐳡𐳢𐳣𐳤𐳥𐳦𐳧𐳨𐳩𐳪𐳫𐳬𐳭𐳮𐳯𐳰𐳱𐳲"),
    (0x10d50, 0x10d65, "𐵰𐵱𐵲𐵳𐵴𐵵𐵶𐵷𐵸𐵹𐵺𐵻𐵼𐵽𐵾𐵿𐶀𐶁𐶂𐶃𐶄𐶅"),
    (0x118a0, 0x118bf, "𑣀𑣁𑣂𑣃𑣄𑣅𑣆𑣇𑣈𑣉𑣊𑣋𑣌𑣍𑣎𑣏𑣐𑣑𑣒𑣓𑣔𑣕𑣖𑣗𑣘𑣙𑣚𑣛𑣜𑣝𑣞𑣟"),
    (0x16e40, 0x16e5f, "𖹠𖹡𖹢𖹣𖹤𖹥𖹦𖹧𖹨𖹩𖹪𖹫𖹬𖹭𖹮𖹯𖹰𖹱𖹲𖹳𖹴𖹵𖹶𖹷𖹸𖹹𖹺𖹻𖹼𖹽𖹾𖹿"),
    (0x16ea0, 0x16eb8, "𖺻𖺼𖺽𖺾𖺿𖻀𖻁𖻂𖻃𖻄𖻅𖻆𖻇𖻈𖻉𖻊𖻋𖻌𖻍𖻎𖻏𖻐𖻑𖻒𖻓"),
    (0x1ccd6, 0x1ccf9, "abcdefghijklmnopqrstuvwxyz0123456789"),
    (0x1d400, 0x1d449, "abcdefghijklmnopqrstuvwxyzabcdefghijklmnopqrstuvwxyzabcdefghijklmnopqrstuv"),
    (0x1d44a, 0x1d454, "wxyzabcdefg"),
    (0x1d456, 0x1d49c, "ijklmnopqrstuvwxyzabcdefghijklmnopqrstuvwxyzabcdefghijklmnopqrstuvwxyza"),
    (0x1d49e, 0x1d49f, "cd"), (0x1d4a2, 0x1d4a2, "g"), (0x1d4a5, 0x1d4a6, "jk"),
    (0x1d4a9, 0x1d4ac, "nopq"), (0x1d4ae, 0x1d4b9, "stuvwxyzabcd"), (0x1d4bb, 0x1d4bb, "f"),
    (0x1d4bd, 0x1d4c3, "hijklmn"),
    (0x1d4c5, 0x1d505, "pqrstuvwxyzabcdefghijklmnopqrstuvwxyzabcdefghijklmnopqrstuvwxyzab"),
    (0x1d507, 0x1d50a, "defg"), (0x1d50d, 0x1d514, "jklmnopq"), (0x1d516, 0x1d51c, "stuvwxy"),
    (0x1d51e, 0x1d539, "abcdefghijklmnopqrstuvwxyzab"), (0x1d53b, 0x1d53e, "defg"),
    (0x1d540, 0x1d544, "ijklm"), (0x1d546, 0x1d546, "o"), (0x1d54a, 0x1d550, "stuvwxy"),
    (0x1d552, 0x1d59b, "abcdefghijklmnopqrstuvwxyzabcdefghijklmnopqrstuvwxyzabcdefghijklmnopqrstuv"),
    (0x1d59c, 0x1d5e5, "wxyzabcdefghijklmnopqrstuvwxyzabcdefghijklmnopqrstuvwxyzabcdefghijklmnopqr"),
    (0x1d5e6, 0x1d62f, "stuvwxyzabcdefghijklmnopqrstuvwxyzabcdefghijklmnopqrstuvwxyzabcdefghijklmn"),
    (0x1d630, 0x1d679, "opqrstuvwxyzabcdefghijklmnopqrstuvwxyzabcdefghijklmnopqrstuvwxyzabcdefghij"),
    (0x1d67a, 0x1d6a5, "klmnopqrstuvwxyzabcdefghijklmnopqrstuvwxyzıȷ"),
    (0x1d6a8, 0x1d6f1, "αβγδεζηθικλμνξοπρθστυφχψω∇αβγδεζηθικλμνξοπρσστυφχψω∂εθκφρπαβγδεζηθικλμνξοπ"),
    (0x1d6f2, 0x1d73b, "ρθστυφχψω∇αβγδεζηθικλμνξοπρσστυφχψω∂εθκφρπαβγδεζηθικλμνξοπρθστυφχψω∇αβγδεζ"),
    (0x1d73c, 0x1d785, "ηθικλμνξοπρσστυφχψω∂εθκφρπαβγδεζηθικλμνξοπρθστυφχψω∇αβγδεζηθικλμνξοπρσστυφ"),
    (0x1d786, 0x1d7cb, "χψω∂εθκφρπαβγδεζηθικλμνξοπρθστυφχψω∇αβγδεζηθικλμνξοπρσστυφχψω∂εθκφρπϝϝ"),
    (0x1d7ce, 0x1d7ff, "01234567890123456789012345678901234567890123456789"),
    (0x1e030, 0x1e06d, "абвгдежзиклмопрстуфхцчшыэюꚉәіјөүӏабвгдежзиклопсуфхцчшъыґіѕџҫꙑұ"),
    (0x1e900, 0x1e921, "𞤢𞤣𞤤𞤥𞤦𞤧𞤨𞤩𞤪𞤫𞤬𞤭𞤮𞤯𞤰𞤱𞤲𞤳𞤴𞤵𞤶𞤷𞤸𞤹𞤺𞤻𞤼𞤽𞤾𞤿𞥀𞥁𞥂𞥃"),
    (0x1ee00, 0x1ee03, "\u0627\u0628\u062c\u062f"),
    (0x1ee05, 0x1ee10, "\u0648\u0632\u062d\u0637\u064a\u0643\u0644\u0645\u0646\u0633\u0639\u0641"),
    (0x1ee11, 0x1ee1c, "\u0635\u0642\u0631\u0634\u062a\u062b\u062e\u0630\u0636\u0638\u063a\u066e"),
    (0x1ee1d, 0x1ee1f, "\u06ba\u06a1\u066f"), (0x1ee21, 0x1ee22, "\u0628\u062c"),
    (0x1ee24, 0x1ee24, "\u0647"), (0x1ee27, 0x1ee27, "\u062d"),
    (0x1ee29, 0x1ee32, "\u064a\u0643\u0644\u0645\u0646\u0633\u0639\u0641\u0635\u0642"),
    (0x1ee34, 0x1ee37, "\u0634\u062a\u062b\u062e"), (0x1ee39, 0x1ee39, "\u0636"),
    (0x1ee3b, 0x1ee3b, "\u063a"), (0x1ee42, 0x1ee42, "\u062c"), (0x1ee47, 0x1ee47, "\u062d"),
    (0x1ee49, 0x1ee49, "\u064a"), (0x1ee4b, 0x1ee4b, "\u0644"),
    (0x1ee4d, 0x1ee4f, "\u0646\u0633\u0639"), (0x1ee51, 0x1ee52, "\u0635\u0642"),
    (0x1ee54, 0x1ee54, "\u0634"), (0x1ee57, 0x1ee57, "\u062e"), (0x1ee59, 0x1ee59, "\u0636"),
    (0x1ee5b, 0x1ee5b, "\u063a"), (0x1ee5d, 0x1ee5d, "\u06ba"), (0x1ee5f, 0x1ee5f, "\u066f"),
    (0x1ee61, 0x1ee62, "\u0628\u062c"), (0x1ee64, 0x1ee64, "\u0647"),
    (0x1ee67, 0x1ee6a, "\u062d\u0637\u064a\u0643"),
    (0x1ee6c, 0x1ee72, "\u0645\u0646\u0633\u0639\u0641\u0635\u0642"),
    (0x1ee74, 0x1ee77, "\u0634\u062a\u062b\u062e"), (0x1ee79, 0x1ee7c, "\u0636\u0638\u063a\u066e"),
    (0x1ee7e, 0x1ee7e, "\u06a1"),
    (0x1ee80, 0x1ee89, "\u0627\u0628\u062c\u062f\u0647\u0648\u0632\u062d\u0637\u064a"),
    (0x1ee8b, 0x1ee96, "\u0644\u0645\u0646\u0633\u0639\u0641\u0635\u0642\u0631\u0634\u062a\u062b"),
    (0x1ee97, 0x1ee9b, "\u062e\u0630\u0636\u0638\u063a"), (0x1eea1, 0x1eea3, "\u0628\u062c\u062f"),
    (0x1eea5, 0x1eea9, "\u0648\u0632\u062d\u0637\u064a"),
    (0x1eeab, 0x1eeb6, "\u0644\u0645\u0646\u0633\u0639\u0641\u0635\u0642\u0631\u0634\u062a\u062b"),
    (0x1eeb7, 0x1eebb, "\u062e\u0630\u0636\u0638\u063a"), (0x1f12b, 0x1f12c, "cr"),
    (0x1f130, 0x1f149, "abcdefghijklmnopqrstuvwxyz"), (0x1f202, 0x1f202, "サ"),
    (0x1f210, 0x1f234, "手字双デ二多解天交映無料前後再新初終生販声吹演投捕一三遊左中右指走打禁空合"),
    (0x1f235, 0x1f23b, "満有月申割営配"), (0x1f250, 0x1f251, "得可"),
    (0x1fbf0, 0x1fbf9, "0123456789"),
    (0x2f800, 0x2f824, "丽丸乁𠄢你侮侻倂偺備僧像㒞𠘺免兔兤具𠔜㒹內再𠕋冗冤仌冬况𩇟凵刃㓟刻剆割剷㔕"),
    (0x2f825, 0x2f849, "勇勉勤勺包匆北卉卑博即卽卿卿卿𠨬灰及叟𠭣叫叱吆咞吸呈周咢哶唐啓啣善善喙喫喳"),
    (0x2f84a, 0x2f86e, "嗂圖嘆圗噑噴切壮城埴堍型堲報墬𡓤売壷夆多夢奢𡚨𡛪姬娛娧姘婦㛮㛼嬈嬾嬾𡧈寃寘"),
    (0x2f86f, 0x2f893, "寧寳𡬘寿将当尢㞁屠屮峀岍𡷤嵃𡷦嵮嵫嵼巡巢㠯巽帨帽幩㡢𢆃㡼庰庳庶廊𪎒廾𢌱𢌱舁"),
    (0x2f894, 0x2f8b8, "弢弢㣇𣊸𦇚形彫㣣徚忍志忹悁㤺㤜悔𢛔惇慈慌慎慌慺憎憲憤憯懞懲懶成戛扝抱拔捐𢬌"),
    (0x2f8b9, 0x2f8dd, "挽拼捨掃揤𢯱搢揅掩㨮摩摾撝摷㩬敏敬𣀊旣書晉㬙暑㬈㫤冒冕最暜肭䏙朗望朡杞杓𣏃"),
    (0x2f8de, 0x2f902, "㭉柺枅桒梅𣑭梎栟椔㮝楂榣槪檨𣚣櫛㰘次𣢧歔㱎歲殟殺殻𣪍𡴋𣫺汎𣲼沿泍汧洖派海流"),
    (0x2f903, 0x2f927, "浩浸涅𣴞洴港湮㴳滋滇𣻑淹潮𣽞𣾎濆瀹瀞瀛㶖灊災灷炭𠔥煅𤉣熜𤎫爨爵牐𤘈犀犕𤜵𤠔"),
    (0x2f928, 0x2f94c, "獺王㺬玥㺸㺸瑇瑜瑱璅瓊㼛甤𤰶甾𤲒異𢆟瘐𤾡𤾸𥁄㿼䀈直𥃳𥃲𥄙𥄳眞真真睊䀹瞋䁆䂖"),
    (0x2f94d, 0x2f971, "𥐝硎碌磌䃣𥘦祖𥚚𥛅福秫䄯穀穊穏𥥼𥪧𥪧竮䈂𥮫篆築䈧𥲀糒䊠糨糣紀𥾆絣䌁緇縂繅䌴"),
    (0x2f972, 0x2f996, "𦈨𦉇䍙𦋙罺𦌾羕翺者𦓚𦔣聠𦖨聰𣍟䏕育脃䐋脾媵𦞧𦞵𣎓𣎜舁舄辞䑫芑芋芝劳花芳芽苦"),
    (0x2f997, 0x2f9bb, "𦬼若茝荣莭茣莽菧著荓菊菌菜𦰶𦵫𦳕䔫蓱蓳蔖𧏊蕤𦼬䕝䕡𦾱𧃒䕫虐虜虧虩蚩蚈蜎蛢蝹"),
    (0x2f9bc, 0x2f9e0, "蜨蝫螆䗗蟡蠁䗹衠衣𧙧裗裞䘵裺㒻𧢮𧥦䚾䛇誠諭變豕𧲨貫賁贛起𧼯𠠄跋趼跰𠣞軔輸𨗒"),
    (0x2f9e1, 0x2fa05, "𨗭邔郱鄑𨜮鄛鈸鋗鋘鉼鏹鐕𨯺開䦕閷𨵷䧦雃嶲霣𩅅𩈚䩮䩶韠𩐊䪲𩒖頋頋頩𩖶飢䬳餩馧"),
    (0x2fa06, 0x2fa1d, "駂駾䯎𩬰鬒鱀鳽䳎䳭鵧𪃎䳸𪄅𪈎𪊑麻䵖黹黾鼅鼏鼖鼻𪘀")]

/-- Ranges of characters that become several characters each, with what they become in order and a
blank between any two. -/
def wordSpans : List (Nat × Nat × String) :=
  [(0xbc, 0xbe, "1⁄4 1⁄2 3⁄4"), (0x130, 0x130, "i\u0307"), (0x132, 0x133, "ij ij"),
    (0x13f, 0x140, "l· l·"), (0x149, 0x149, "ʼn"), (0x1c4, 0x1cc, "dž dž dž lj lj lj nj nj nj"),
    (0x1f1, 0x1f3, "dz dz dz"), (0x344, 0x344, "\u0308\u0301"), (0x587, 0x587, "եւ"),
    (0x675, 0x678, "\u0627\u0674 \u0648\u0674 \u06c7\u0674 \u064a\u0674"),
    (0x958, 0x95f, "क\u093c ख\u093c ग\u093c ज\u093c ड\u093c ढ\u093c फ\u093c य\u093c"),
    (0x9dc, 0x9dd, "ড\u09bc ঢ\u09bc"), (0x9df, 0x9df, "য\u09bc"), (0xa33, 0xa33, "ਲ\u0a3c"),
    (0xa36, 0xa36, "ਸ\u0a3c"), (0xa59, 0xa5b, "ਖ\u0a3c ਗ\u0a3c ਜ\u0a3c"), (0xa5e, 0xa5e, "ਫ\u0a3c"),
    (0xb5c, 0xb5d, "ଡ\u0b3c ଢ\u0b3c"), (0xe33, 0xe33, "\u0e4dา"), (0xeb3, 0xeb3, "\u0ecdາ"),
    (0xedc, 0xedd, "ຫນ ຫມ"), (0xf43, 0xf43, "ག\u0fb7"), (0xf4d, 0xf4d, "ཌ\u0fb7"),
    (0xf52, 0xf52, "ད\u0fb7"), (0xf57, 0xf57, "བ\u0fb7"), (0xf5c, 0xf5c, "ཛ\u0fb7"),
    (0xf69, 0xf69, "ཀ\u0fb5"), (0xf73, 0xf73, "\u0f71\u0f72"),
    (0xf75, 0xf78, "\u0f71\u0f74 \u0fb2\u0f80 \u0fb2\u0f71\u0f80 \u0fb3\u0f80"),
    (0xf79, 0xf79, "\u0fb3\u0f71\u0f80"), (0xf81, 0xf81, "\u0f71\u0f80"),
    (0xf93, 0xf93, "\u0f92\u0fb7"), (0xf9d, 0xf9d, "\u0f9c\u0fb7"), (0xfa2, 0xfa2, "\u0fa1\u0fb7"),
    (0xfa7, 0xfa7, "\u0fa6\u0fb7"), (0xfac, 0xfac, "\u0fab\u0fb7"), (0xfb9, 0xfb9, "\u0f90\u0fb5"),
    (0x1e9a, 0x1e9a, "aʾ"),
    (0x1f80, 0x1f98, "ἀι ἁι ἂι ἃι ἄι ἅι ἆι ἇι ἀι ἁι ἂι ἃι ἄι ἅι ἆι ἇι ἠι ἡι ἢι ἣι ἤι ἥι ἦι ἧι ἠι"),
    (0x1f99, 0x1faf, "ἡι ἢι ἣι ἤι ἥι ἦι ἧι ὠι ὡι ὢι ὣι ὤι ὥι ὦι ὧι ὠι ὡι ὢι ὣι ὤι ὥι ὦι ὧι"),
    (0x1fb2, 0x1fb4, "ὰι αι άι"), (0x1fb7, 0x1fb7, "ᾶι"), (0x1fbc, 0x1fbc, "αι"),
    (0x1fc2, 0x1fc4, "ὴι ηι ήι"), (0x1fc7, 0x1fc7, "ῆι"), (0x1fcc, 0x1fcc, "ηι"),
    (0x1ff2, 0x1ff4, "ὼι ωι ώι"), (0x1ff7, 0x1ff7, "ῶι"), (0x1ffc, 0x1ffc, "ωι"),
    (0x2033, 0x2034, "′′ ′′′"), (0x2036, 0x2037, "‵‵ ‵‵‵"), (0x203c, 0x203c, "!!"),
    (0x2057, 0x2057, "′′′′"), (0x20a8, 0x20a8, "rs"), (0x2103, 0x2103, "°c"),
    (0x2109, 0x2109, "°f"), (0x2116, 0x2116, "no"), (0x2120, 0x2122, "sm tel tm"),
    (0x213b, 0x213b, "fax"),
    (0x2150, 0x215f, "1⁄7 1⁄9 1⁄10 1⁄3 2⁄3 1⁄5 2⁄5 3⁄5 4⁄5 1⁄6 5⁄6 1⁄8 3⁄8 5⁄8 7⁄8 1⁄"),
    (0x2161, 0x2163, "ii iii iv"), (0x2165, 0x2168, "vi vii viii ix"), (0x216a, 0x216b, "xi xii"),
    (0x2171, 0x2173, "ii iii iv"), (0x2175, 0x2178, "vi vii viii ix"), (0x217a, 0x217b, "xi xii"),
    (0x2189, 0x2189, "0⁄3"), (0x222c, 0x222d, "∫∫ ∫∫∫"), (0x222f, 0x2230, "∮∮ ∮∮∮"),
    (0x2469, 0x247d, "10 11 12 13 14 15 16 17 18 19 20 (1) (2) (3) (4) (5) (6) (7) (8) (9) (10)"),
    (0x247e, 0x2487, "(11) (12) (13) (14) (15) (16) (17) (18) (19) (20)"),
    (0x249c, 0x24ad, "(a) (b) (c) (d) (e) (f) (g) (h) (i) (j) (k) (l) (m) (n) (o) (p) (q) (r)"),
    (0x24ae, 0x24b5, "(s) (t) (u) (v) (w) (x) (y) (z)"), (0x2a0c, 0x2a0c, "∫∫∫∫"),
    (0x2a75, 0x2a76, "== ==="), (0x2adc, 0x2adc, "⫝\u0338"), (0x309f, 0x309f, "より"),
    (0x30ff, 0x30ff, "コト"),
    (0x3200, 0x320e, "(ᄀ) (ᄂ) (ᄃ) (ᄅ) (ᄆ) (ᄇ) (ᄉ) (ᄋ) (ᄌ) (ᄎ) (ᄏ) (ᄐ) (ᄑ) (ᄒ) (가)"),
    (0x320f, 0x321c, "(나) (다) (라) (마) (바) (사) (아) (자) (차) (카) (타) (파) (하) (주)"),
    (0x321d, 0x321e, "(오전) (오후)"),
    (0x3220, 0x322e, "(一) (二) (三) (四) (五) (六) (七) (八) (九) (十) (月) (火) (水) (木) (金)"),
    (0x322f, 0x323d, "(土) (日) (株) (有) (社) (名) (特) (財) (祝) (労) (代) (呼) (学) (監) (企)"),
    (0x323e, 0x3243, "(資) (協) (祭) (休) (自) (至)"),
    (0x3250, 0x325f, "pte 21 22 23 24 25 26 27 28 29 30 31 32 33 34 35"),
    (0x327c, 0x327d, "참고 주의"),
    (0x32b1, 0x32c6, "36 37 38 39 40 41 42 43 44 45 46 47 48 49 50 1月 2月 3月 4月 5月 6月 7月"),
    (0x32c7, 0x32cf, "8月 9月 10月 11月 12月 hg erg ev ltd"),
    (0x32ff, 0x3307, "令和 アパート アルファ アンペア アール イニング インチ ウォン エスクード"),
    (0x3308, 0x3311, "エーカー オンス オーム カイリ カラット カロリー ガロン ガンマ ギガ ギニー"),
    (0x3312, 0x3318, "キュリー ギルダー キロ キログラム キロメートル キロワット グラム"),
    (0x3319, 0x3320, "グラムトン クルゼイロ クローネ ケース コルナ コーポ サイクル サンチーム"),
    (0x3321, 0x332b, "シリング センチ セント ダース デシ ドル トン ナノ ノット ハイツ パーセント"),
    (0x332c, 0x3334, "パーツ バーレル ピアストル ピクル ピコ ビル ファラッド フィート ブッシェル"),
    (0x3335, 0x333e, "フラン ヘクタール ペソ ペニヒ ヘルツ ペンス ページ ベータ ポイント ボルト"),
    (0x333f, 0x3347, "ホン ポンド ホール ホーン マイクロ マイル マッハ マルク マンション"),
    (0x3348, 0x3350, "ミクロン ミリ ミリバール メガ メガトン メートル ヤード ヤール ユアン"),
    (0x3351, 0x335c, "リットル リラ ルピー ルーブル レム レントゲン ワット 0点 1点 2点 3点 4点"),
    (0x335d, 0x336c, "5点 6点 7点 8点 9点 10点 11点 12点 13点 14点 15点 16点 17点 18点 19点 20点"),
    (0x336d, 0x337e, "21点 22点 23点 24点 hpa da au bar ov pc dm dm2 dm3 iu 平成 昭和 大正 明治"),
    (0x337f, 0x3393, "株式会社 pa na μa ma ka kb mb gb cal kcal pf nf μf μg mg kg hz khz mhz ghz"),
    (0x3394, 0x33a8, "thz μl ml dl kl fm nm μm mm cm km mm2 cm2 m2 km2 mm3 cm3 m3 km3 m∕s m∕s2"),
    (0x33a9, 0x33bd, "pa kpa mpa gpa rad rad∕s rad∕s2 ps ns μs ms pv nv μv mv kv mv pw nw μw mw"),
    (0x33be, 0x33c1, "kw mw kω mω"), (0x33c3, 0x33c6, "bq cc cd c∕kg"),
    (0x33c8, 0x33d7, "db gy ha hp in kk km kt lm ln log lx mb mil mol ph"),
    (0x33d9, 0x33eb, "ppm pr sr sv wb v∕m a∕m 1日 2日 3日 4日 5日 6日 7日 8日 9日 10日 11日 12日"),
    (0x33ec, 0x33fa, "13日 14日 15日 16日 17日 18日 19日 20日 21日 22日 23日 24日 25日 26日 27日"),
    (0x33fb, 0x33ff, "28日 29日 30日 31日 gal"), (0xfb00, 0xfb06, "ff fi fl ffi ffl st st"),
    (0xfb13, 0xfb17, "մն մե մի վն մխ"), (0xfb1d, 0xfb1d, "\u05d9\u05b4"),
    (0xfb1f, 0xfb1f, "\u05f2\u05b7"),
    (0xfb2a, 0xfb2d, "\u05e9\u05c1 \u05e9\u05c2 \u05e9\u05bc\u05c1 \u05e9\u05bc\u05c2"),
    (0xfb2e, 0xfb32, "\u05d0\u05b7 \u05d0\u05b8 \u05d0\u05bc \u05d1\u05bc \u05d2\u05bc"),
    (0xfb33, 0xfb36, "\u05d3\u05bc \u05d4\u05bc \u05d5\u05bc \u05d6\u05bc"),
    (0xfb38, 0xfb3c, "\u05d8\u05bc \u05d9\u05bc \u05da\u05bc \u05db\u05bc \u05dc\u05bc"),
    (0xfb3e, 0xfb3e, "\u05de\u05bc"), (0xfb40, 0xfb41, "\u05e0\u05bc \u05e1\u05bc"),
    (0xfb43, 0xfb44, "\u05e3\u05bc \u05e4\u05bc"),
    (0xfb46, 0xfb4a, "\u05e6\u05bc \u05e7\u05bc \u05e8\u05bc \u05e9\u05bc \u05ea\u05bc"),
    (0xfb4b, 0xfb4f, "\u05d5\u05b9 \u05d1\u05bf \u05db\u05bf \u05e4\u05bf \u05d0\u05dc"),
    (0xfbdd, 0xfbdd, "\u06c7\u0674"),
    (0xfbea, 0xfbee, "\u0626\u0627 \u0626\u0627 \u0626\u06d5 \u0626\u06d5 \u0626\u0648"),
    (0xfbef, 0xfbf3, "\u0626\u0648 \u0626\u06c7 \u0626\u06c7 \u0626\u06c6 \u0626\u06c6"),
    (0xfbf4, 0xfbf8, "\u0626\u06c8 \u0626\u06c8 \u0626\u06d0 \u0626\u06d0 \u0626\u06d0"),
    (0xfbf9, 0xfbfb, "\u0626\u0649 \u0626\u0649 \u0626\u0649"),
    (0xfc00, 0xfc04, "\u0626\u062c \u0626\u062d \u0626\u0645 \u0626\u0649 \u0626\u064a"),
    (0xfc05, 0xfc09, "\u0628\u062c \u0628\u062d \u0628\u062e \u0628\u0645 \u0628\u0649"),
    (0xfc0a, 0xfc0e, "\u0628\u064a \u062a\u062c \u062a\u062d \u062a\u062e \u062a\u0645"),
    (0xfc0f, 0xfc13, "\u062a\u0649 \u062a\u064a \u062b\u062c \u062b\u0645 \u062b\u0649"),
    (0xfc14, 0xfc18, "\u062b\u064a \u062c\u062d \u062c\u0645 \u062d\u062c \u062d\u0645"),
    (0xfc19, 0xfc1d, "\u062e\u062c \u062e\u062d \u062e\u0645 \u0633\u062c \u0633\u062d"),
    (0xfc1e, 0xfc22, "\u0633\u062e \u0633\u0645 \u0635\u062d \u0635\u0645 \u0636\u062c"),
    (0xfc23, 0xfc27, "\u0636\u062d \u0636\u062e \u0636\u0645 \u0637\u062d \u0637\u0645"),
    (0xfc28, 0xfc2c, "\u0638\u0645 \u0639\u062c \u0639\u0645 \u063a\u062c \u063a\u0645"),
    (0xfc2d, 0xfc31, "\u0641\u062c \u0641\u062d \u0641\u062e \u0641\u0645 \u0641\u0649"),
    (0xfc32, 0xfc36, "\u0641\u064a \u0642\u062d \u0642\u0645 \u0642\u0649 \u0642\u064a"),
    (0xfc37, 0xfc3b, "\u0643\u0627 \u0643\u062c \u0643\u062d \u0643\u062e \u0643\u0644"),
    (0xfc3c, 0xfc40, "\u0643\u0645 \u0643\u0649 \u0643\u064a \u0644\u062c \u0644\u062d"),
    (0xfc41, 0xfc45, "\u0644\u062e \u0644\u0645 \u0644\u0649 \u0644\u064a \u0645\u062c"),
    (0xfc46, 0xfc4a, "\u0645\u062d \u0645\u062e \u0645\u0645 \u0645\u0649 \u0645\u064a"),
    (0xfc4b, 0xfc4f, "\u0646\u062c \u0646\u062d \u0646\u062e \u0646\u0645 \u0646\u0649"),
    (0xfc50, 0xfc54, "\u0646\u064a \u0647\u062c \u0647\u0645 \u0647\u0649 \u0647\u064a"),
    (0xfc55, 0xfc59, "\u064a\u062c \u064a\u062d \u064a\u062e \u064a\u0645 \u064a\u0649"),
    (0xfc5a, 0xfc5d, "\u064a\u064a \u0630\u0670 \u0631\u0670 \u0649\u0670"),
    (0xfc64, 0xfc68, "\u0626\u0631 \u0626\u0632 \u0626\u0645 \u0626\u0646 \u0626\u0649"),
    (0xfc69, 0xfc6d, "\u0626\u064a \u0628\u0631 \u0628\u0632 \u0628\u0645 \u0628\u0646"),
    (0xfc6e, 0xfc72, "\u0628\u0649 \u0628\u064a \u062a\u0631 \u062a\u0632 \u062a\u0645"),
    (0xfc73, 0xfc77, "\u062a\u0646 \u062a\u0649 \u062a\u064a \u062b\u0631 \u062b\u0632"),
    (0xfc78, 0xfc7c, "\u062b\u0645 \u062b\u0646 \u062b\u0649 \u062b\u064a \u0641\u0649"),
    (0xfc7d, 0xfc81, "\u0641\u064a \u0642\u0649 \u0642\u064a \u0643\u0627 \u0643\u0644"),
    (0xfc82, 0xfc86, "\u0643\u0645 \u0643\u0649 \u0643\u064a \u0644\u0645 \u0644\u0649"),
    (0xfc87, 0xfc8b, "\u0644\u064a \u0645\u0627 \u0645\u0645 \u0646\u0631 \u0646\u0632"),
    (0xfc8c, 0xfc90, "\u0646\u0645 \u0646\u0646 \u0646\u0649 \u0646\u064a \u0649\u0670"),
    (0xfc91, 0xfc95, "\u064a\u0631 \u064a\u0632 \u064a\u0645 \u064a\u0646 \u064a\u0649"),
    (0xfc96, 0xfc9a, "\u064a\u064a \u0626\u062c \u0626\u062d \u0626\u062e \u0626\u0645"),
    (0xfc9b, 0xfc9f, "\u0626\u0647 \u0628\u062c \u0628\u062d \u0628\u062e \u0628\u0645"),
    (0xfca0, 0xfca4, "\u0628\u0647 \u062a\u062c \u062a\u062d \u062a\u062e \u062a\u0645"),
    (0xfca5, 0xfca9, "\u062a\u0647 \u062b\u0645 \u062c\u062d \u062c\u0645 \u062d\u062c"),
    (0xfcaa, 0xfcae, "\u062d\u0645 \u062e\u062c \u062e\u0645 \u0633\u062c \u0633\u062d"),
    (0xfcaf, 0xfcb3, "\u0633\u062e \u0633\u0645 \u0635\u062d \u0635\u062e \u0635\u0645"),
    (0xfcb4, 0xfcb8, "\u0636\u062c \u0636\u062d \u0636\u062e \u0636\u0645 \u0637\u062d"),
    (0xfcb9, 0xfcbd, "\u0638\u0645 \u0639\u062c \u0639\u0645 \u063a\u062c \u063a\u0645"),
    (0xfcbe, 0xfcc2, "\u0641\u062c \u0641\u062d \u0641\u062e \u0641\u0645 \u0642\u062d"),
    (0xfcc3, 0xfcc7, "\u0642\u0645 \u0643\u062c \u0643\u062d \u0643\u062e \u0643\u0644"),
    (0xfcc8, 0xfccc, "\u0643\u0645 \u0644\u062c \u0644\u062d \u0644\u062e \u0644\u0645"),
    (0xfccd, 0xfcd1, "\u0644\u0647 \u0645\u062c \u0645\u062d \u0645\u062e \u0645\u0645"),
    (0xfcd2, 0xfcd6, "\u0646\u062c \u0646\u062d \u0646\u062e \u0646\u0645 \u0646\u0647"),
    (0xfcd7, 0xfcdb, "\u0647\u062c \u0647\u0645 \u0647\u0670 \u064a\u062c \u064a\u062d"),
    (0xfcdc, 0xfce0, "\u064a\u062e \u064a\u0645 \u064a\u0647 \u0626\u0645 \u0626\u0647"),
    (0xfce1, 0xfce5, "\u0628\u0645 \u0628\u0647 \u062a\u0645 \u062a\u0647 \u062b\u0645"),
    (0xfce6, 0xfcea, "\u062b\u0647 \u0633\u0645 \u0633\u0647 \u0634\u0645 \u0634\u0647"),
    (0xfceb, 0xfcef, "\u0643\u0644 \u0643\u0645 \u0644\u0645 \u0646\u0645 \u0646\u0647"),
    (0xfcf0, 0xfcf3, "\u064a\u0645 \u064a\u0647 \u0640\u064e\u0651 \u0640\u064f\u0651"),
    (0xfcf4, 0xfcf8, "\u0640\u0650\u0651 \u0637\u0649 \u0637\u064a \u0639\u0649 \u0639\u064a"),
    (0xfcf9, 0xfcfd, "\u063a\u0649 \u063a\u064a \u0633\u0649 \u0633\u064a \u0634\u0649"),
    (0xfcfe, 0xfd02, "\u0634\u064a \u062d\u0649 \u062d\u064a \u062c\u0649 \u062c\u064a"),
    (0xfd03, 0xfd07, "\u062e\u0649 \u062e\u064a \u0635\u0649 \u0635\u064a \u0636\u0649"),
    (0xfd08, 0xfd0c, "\u0636\u064a \u0634\u062c \u0634\u062d \u0634\u062e \u0634\u0645"),
    (0xfd0d, 0xfd11, "\u0634\u0631 \u0633\u0631 \u0635\u0631 \u0636\u0631 \u0637\u0649"),
    (0xfd12, 0xfd16, "\u0637\u064a \u0639\u0649 \u0639\u064a \u063a\u0649 \u063a\u064a"),
    (0xfd17, 0xfd1b, "\u0633\u0649 \u0633\u064a \u0634\u0649 \u0634\u064a \u062d\u0649"),
    (0xfd1c, 0xfd20, "\u062d\u064a \u062c\u0649 \u062c\u064a \u062e\u0649 \u062e\u064a"),
    (0xfd21, 0xfd25, "\u0635\u0649 \u0635\u064a \u0636\u0649 \u0636\u064a \u0634\u062c"),
    (0xfd26, 0xfd2a, "\u0634\u062d \u0634\u062e \u0634\u0645 \u0634\u0631 \u0633\u0631"),
    (0xfd2b, 0xfd2f, "\u0635\u0631 \u0636\u0631 \u0634\u062c \u0634\u062d \u0634\u062e"),
    (0xfd30, 0xfd34, "\u0634\u0645 \u0633\u0647 \u0634\u0647 \u0637\u0645 \u0633\u062c"),
    (0xfd35, 0xfd39, "\u0633\u062d \u0633\u062e \u0634\u062c \u0634\u062d \u0634\u062e"),
    (0xfd3a, 0xfd3d, "\u0637\u0645 \u0638\u0645 \u0627\u064b \u0627\u064b"),
    (0xfd50, 0xfd52, "\u062a\u062c\u0645 \u062a\u062d\u062c \u062a\u062d\u062c"),
    (0xfd53, 0xfd55, "\u062a\u062d\u0645 \u062a\u062e\u0645 \u062a\u0645\u062c"),
    (0xfd56, 0xfd58, "\u062a\u0645\u062d \u062a\u0645\u062e \u062c\u0645\u062d"),
    (0xfd59, 0xfd5b, "\u062c\u0645\u062d \u062d\u0645\u064a \u062d\u0645\u0649"),
    (0xfd5c, 0xfd5e, "\u0633\u062d\u062c \u0633\u062c\u062d \u0633\u062c\u0649"),
    (0xfd5f, 0xfd61, "\u0633\u0645\u062d \u0633\u0645\u062d \u0633\u0645\u062c"),
    (0xfd62, 0xfd64, "\u0633\u0645\u0645 \u0633\u0645\u0645 \u0635\u062d\u062d"),
    (0xfd65, 0xfd67, "\u0635\u062d\u062d \u0635\u0645\u0645 \u0634\u062d\u0645"),
    (0xfd68, 0xfd6a, "\u0634\u062d\u0645 \u0634\u062c\u064a \u0634\u0645\u062e"),
    (0xfd6b, 0xfd6d, "\u0634\u0645\u062e \u0634\u0645\u0645 \u0634\u0645\u0645"),
    (0xfd6e, 0xfd70, "\u0636\u062d\u0649 \u0636\u062e\u0645 \u0636\u062e\u0645"),
    (0xfd71, 0xfd73, "\u0637\u0645\u062d \u0637\u0645\u062d \u0637\u0645\u0645"),
    (0xfd74, 0xfd76, "\u0637\u0645\u064a \u0639\u062c\u0645 \u0639\u0645\u0645"),
    (0xfd77, 0xfd79, "\u0639\u0645\u0645 \u0639\u0645\u0649 \u063a\u0645\u0645"),
    (0xfd7a, 0xfd7c, "\u063a\u0645\u064a \u063a\u0645\u0649 \u0641\u062e\u0645"),
    (0xfd7d, 0xfd7f, "\u0641\u062e\u0645 \u0642\u0645\u062d \u0642\u0645\u0645"),
    (0xfd80, 0xfd82, "\u0644\u062d\u0645 \u0644\u062d\u064a \u0644\u062d\u0649"),
    (0xfd83, 0xfd85, "\u0644\u062c\u062c \u0644\u062c\u062c \u0644\u062e\u0645"),
    (0xfd86, 0xfd88, "\u0644\u062e\u0645 \u0644\u0645\u062d \u0644\u0645\u062d"),
    (0xfd89, 0xfd8b, "\u0645\u062d\u062c \u0645\u062d\u0645 \u0645\u062d\u064a"),
    (0xfd8c, 0xfd8e, "\u0645\u062c\u062d \u0645\u062c\u0645 \u0645\u062e\u062c"),
    (0xfd8f, 0xfd8f, "\u0645\u062e\u0645"),
    (0xfd92, 0xfd94, "\u0645\u062c\u062e \u0647\u0645\u062c \u0647\u0645\u0645"),
    (0xfd95, 0xfd97, "\u0646\u062d\u0645 \u0646\u062d\u0649 \u0646\u062c\u0645"),
    (0xfd98, 0xfd9a, "\u0646\u062c\u0645 \u0646\u062c\u0649 \u0646\u0645\u064a"),
    (0xfd9b, 0xfd9d, "\u0646\u0645\u0649 \u064a\u0645\u0645 \u064a\u0645\u0645"),
    (0xfd9e, 0xfda0, "\u0628\u062e\u064a \u062a\u062c\u064a \u062a\u062c\u0649"),
    (0xfda1, 0xfda3, "\u062a\u062e\u064a \u062a\u062e\u0649 \u062a\u0645\u064a"),
    (0xfda4, 0xfda6, "\u062a\u0645\u0649 \u062c\u0645\u064a \u062c\u062d\u0649"),
    (0xfda7, 0xfda9, "\u062c\u0645\u0649 \u0633\u062e\u0649 \u0635\u062d\u064a"),
    (0xfdaa, 0xfdac, "\u0634\u062d\u064a \u0636\u062d\u064a \u0644\u062c\u064a"),
    (0xfdad, 0xfdaf, "\u0644\u0645\u064a \u064a\u062d\u064a \u064a\u062c\u064a"),
    (0xfdb0, 0xfdb2, "\u064a\u0645\u064a \u0645\u0645\u064a \u0642\u0645\u064a"),
    (0xfdb3, 0xfdb5, "\u0646\u062d\u064a \u0642\u0645\u062d \u0644\u062d\u0645"),
    (0xfdb6, 0xfdb8, "\u0639\u0645\u064a \u0643\u0645\u064a \u0646\u062c\u062d"),
    (0xfdb9, 0xfdbb, "\u0645\u062e\u064a \u0644\u062c\u0645 \u0643\u0645\u0645"),
    (0xfdbc, 0xfdbe, "\u0644\u062c\u0645 \u0646\u062c\u062d \u062c\u062d\u064a"),
    (0xfdbf, 0xfdc1, "\u062d\u062c\u064a \u0645\u062c\u064a \u0641\u0645\u064a"),
    (0xfdc2, 0xfdc4, "\u0628\u062d\u064a \u0643\u0645\u0645 \u0639\u062c\u0645"),
    (0xfdc5, 0xfdc7, "\u0635\u0645\u0645 \u0633\u062e\u064a \u0646\u062c\u064a"),
    (0xfdf0, 0xfdf2, "\u0635\u0644\u06d2 \u0642\u0644\u06d2 \u0627\u0644\u0644\u0647"),
    (0xfdf3, 0xfdf5, "\u0627\u0643\u0628\u0631 \u0645\u062d\u0645\u062f \u0635\u0644\u0639\u0645"),
    (0xfdf6, 0xfdf8, "\u0631\u0633\u0648\u0644 \u0639\u0644\u064a\u0647 \u0648\u0633\u0644\u0645"),
    (0xfdf9, 0xfdf9, "\u0635\u0644\u0649"), (0xfdfc, 0xfdfc, "\u0631\u06cc\u0627\u0644"),
    (0xfe71, 0xfe71, "\u0640\u064b"), (0xfe77, 0xfe77, "\u0640\u064e"),
    (0xfe79, 0xfe79, "\u0640\u064f"), (0xfe7b, 0xfe7b, "\u0640\u0650"),
    (0xfe7d, 0xfe7d, "\u0640\u0651"), (0xfe7f, 0xfe7f, "\u0640\u0652"),
    (0xfef5, 0xfef9, "\u0644\u0622 \u0644\u0622 \u0644\u0623 \u0644\u0623 \u0644\u0625"),
    (0xfefa, 0xfefc, "\u0644\u0625 \u0644\u0627 \u0644\u0627"),
    (0x1d15e, 0x1d164, "𝅗𝅥 𝅘𝅥 𝅘𝅥𝅮 𝅘𝅥𝅯 𝅘𝅥𝅰 𝅘𝅥𝅱 𝅘𝅥𝅲"), (0x1d1bb, 0x1d1c0, "𝆹𝅥 𝆺𝅥 𝆹𝅥𝅮 𝆺𝅥𝅮 𝆹𝅥𝅯 𝆺𝅥𝅯"),
    (0x1d6a6, 0x1d6a6, "ss"), (0x1f101, 0x1f10a, "0, 1, 2, 3, 4, 5, 6, 7, 8, 9,"),
    (0x1f110, 0x1f121, "(a) (b) (c) (d) (e) (f) (g) (h) (i) (j) (k) (l) (m) (n) (o) (p) (q) (r)"),
    (0x1f122, 0x1f12a, "(s) (t) (u) (v) (w) (x) (y) (z) 〔s〕"), (0x1f12d, 0x1f12e, "cd wz"),
    (0x1f14a, 0x1f14f, "hv mv sd ss ppv wc"), (0x1f16a, 0x1f16c, "mc md mr"),
    (0x1f190, 0x1f190, "dj"), (0x1f200, 0x1f201, "ほか ココ"),
    (0x1f240, 0x1f248, "〔本〕 〔三〕 〔二〕 〔安〕 〔点〕 〔打〕 〔盗〕 〔勝〕 〔敗〕")]

end StoreGate.Url
