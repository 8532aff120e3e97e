import LinkPreview.Text.CodeTable

/-!
# How the characters of a domain are mapped

The mapping of domain names for look-up: capital letters become small, and
compatibility forms become the characters they stand for. Most mapped characters
come in series in which each lies at the same distance from its image; the rest are
listed one by one. Some characters are dropped, and some are not allowed.
-/

namespace LinkPreview.Url.Domain

open Text (CodeTable)

/-- A series of mapped characters: the first, the last, the step from one to the
next, and the distance to their images. -/
structure MappedSeries where
  first : Nat
  last : Nat
  step : Nat
  distance : Int

private def seriesU0041ToU1D4B9 : List MappedSeries :=
  [⟨0x41, 0x5A, 1, 32⟩, ⟨0xC0, 0xD6, 1, 32⟩, ⟨0xD8, 0xDE, 1, 32⟩, ⟨0x100, 0x12E, 2, 1⟩,
    ⟨0x139, 0x13D, 2, 1⟩, ⟨0x141, 0x147, 2, 1⟩, ⟨0x14A, 0x176, 2, 1⟩, ⟨0x179, 0x17D, 2, 1⟩,
    ⟨0x1A0, 0x1A4, 2, 1⟩, ⟨0x1CD, 0x1DB, 2, 1⟩, ⟨0x1DE, 0x1EE, 2, 1⟩, ⟨0x1F8, 0x21E, 2, 1⟩,
    ⟨0x222, 0x232, 2, 1⟩, ⟨0x246, 0x24E, 2, 1⟩, ⟨0x388, 0x38A, 1, 37⟩, ⟨0x391, 0x3A1, 1, 32⟩,
    ⟨0x3A3, 0x3AB, 1, 32⟩, ⟨0x3D8, 0x3EE, 2, 1⟩, ⟨0x3FD, 0x3FF, 1, -130⟩, ⟨0x400, 0x40F, 1, 80⟩,
    ⟨0x410, 0x42F, 1, 32⟩, ⟨0x460, 0x480, 2, 1⟩, ⟨0x48A, 0x4BE, 2, 1⟩, ⟨0x4C1, 0x4CD, 2, 1⟩,
    ⟨0x4D0, 0x52E, 2, 1⟩, ⟨0x531, 0x556, 1, 48⟩, ⟨0x10A0, 0x10C5, 1, 7264⟩,
    ⟨0x13F8, 0x13FD, 1, -8⟩, ⟨0x1C90, 0x1CBA, 1, -3008⟩, ⟨0x1CBD, 0x1CBF, 1, -3008⟩,
    ⟨0x1D31, 0x1D39, 2, -7372⟩, ⟨0x1D34, 0x1D3A, 2, -7372⟩, ⟨0x1D5D, 0x1D5F, 1, -6571⟩,
    ⟨0x1DA4, 0x1DA6, 1, -6972⟩, ⟨0x1DAE, 0x1DB1, 1, -6972⟩, ⟨0x1DBC, 0x1DBE, 1, -6956⟩,
    ⟨0x1E00, 0x1E94, 2, 1⟩, ⟨0x1EA0, 0x1EFE, 2, 1⟩, ⟨0x1F08, 0x1F0F, 1, -8⟩,
    ⟨0x1F18, 0x1F1D, 1, -8⟩, ⟨0x1F28, 0x1F2F, 1, -8⟩, ⟨0x1F38, 0x1F3F, 1, -8⟩,
    ⟨0x1F48, 0x1F4D, 1, -8⟩, ⟨0x1F59, 0x1F5F, 2, -8⟩, ⟨0x1F68, 0x1F6F, 1, -8⟩,
    ⟨0x2074, 0x2079, 1, -8256⟩, ⟨0x2080, 0x2089, 1, -8272⟩, ⟨0x2096, 0x2099, 1, -8235⟩,
    ⟨0x2119, 0x211B, 1, -8361⟩, ⟨0x2135, 0x2138, 1, -7013⟩, ⟨0x2460, 0x2468, 1, -9263⟩,
    ⟨0x24B6, 0x24CF, 1, -9301⟩, ⟨0x24D0, 0x24E9, 1, -9327⟩, ⟨0x2C00, 0x2C2F, 1, 48⟩,
    ⟨0x2C67, 0x2C6B, 2, 1⟩, ⟨0x2C80, 0x2CE2, 2, 1⟩, ⟨0x3137, 0x3139, 1, -8244⟩,
    ⟨0x313A, 0x313F, 1, -8074⟩, ⟨0x3141, 0x3143, 1, -8251⟩, ⟨0x3145, 0x314E, 1, -8252⟩,
    ⟨0x314F, 0x3163, 1, -8174⟩, ⟨0x3178, 0x317C, 1, -8269⟩, ⟨0x3184, 0x3186, 1, -8237⟩,
    ⟨0x3263, 0x3265, 1, -8542⟩, ⟨0x3269, 0x326D, 1, -8539⟩, ⟨0x32E4, 0x32E9, 1, -538⟩,
    ⟨0x32EE, 0x32F2, 1, -528⟩, ⟨0x32F5, 0x32FA, 1, -525⟩, ⟨0x32FB, 0x32FE, 1, -524⟩,
    ⟨0xA640, 0xA66C, 2, 1⟩, ⟨0xA680, 0xA69A, 2, 1⟩, ⟨0xA722, 0xA72E, 2, 1⟩,
    ⟨0xA732, 0xA76E, 2, 1⟩, ⟨0xA77E, 0xA786, 2, 1⟩, ⟨0xA796, 0xA7A8, 2, 1⟩,
    ⟨0xA7B4, 0xA7C2, 2, 1⟩, ⟨0xA7CC, 0xA7DA, 2, 1⟩, ⟨0xAB70, 0xABBF, 1, -38864⟩,
    ⟨0xFB24, 0xFB26, 1, -62793⟩, ⟨0xFE41, 0xFE44, 1, -52789⟩, ⟨0xFF01, 0xFF20, 1, -65248⟩,
    ⟨0xFF21, 0xFF3A, 1, -65216⟩, ⟨0xFF3B, 0xFF5E, 1, -65248⟩, ⟨0xFF85, 0xFF8A, 1, -52923⟩,
    ⟨0xFF8F, 0xFF93, 1, -52913⟩, ⟨0xFF96, 0xFF9B, 1, -52910⟩, ⟨0xFFA7, 0xFFA9, 1, -61092⟩,
    ⟨0xFFAA, 0xFFAF, 1, -60922⟩, ⟨0xFFB1, 0xFFB3, 1, -61099⟩, ⟨0xFFB5, 0xFFBE, 1, -61100⟩,
    ⟨0xFFC2, 0xFFC7, 1, -61025⟩, ⟨0xFFCA, 0xFFCF, 1, -61027⟩, ⟨0xFFD2, 0xFFD7, 1, -61029⟩,
    ⟨0xFFDA, 0xFFDC, 1, -61031⟩, ⟨0xFFE9, 0xFFEC, 1, -56921⟩, ⟨0x10400, 0x10427, 1, 40⟩,
    ⟨0x104B0, 0x104D3, 1, 40⟩, ⟨0x10570, 0x10594, 2, 39⟩, ⟨0x10571, 0x10579, 2, 39⟩,
    ⟨0x1057D, 0x10589, 2, 39⟩, ⟨0x1058D, 0x10591, 2, 39⟩, ⟨0x107B6, 0x107B8, 1, -67062⟩,
    ⟨0x10C80, 0x10CB2, 1, 64⟩, ⟨0x10D50, 0x10D65, 1, 32⟩, ⟨0x118A0, 0x118BF, 1, 32⟩,
    ⟨0x16E40, 0x16E5F, 1, 32⟩, ⟨0x16EA0, 0x16EB8, 1, 27⟩, ⟨0x1CCD6, 0x1CCEF, 1, -117877⟩,
    ⟨0x1CCF0, 0x1CCF9, 1, -117952⟩, ⟨0x1D400, 0x1D419, 1, -119711⟩,
    ⟨0x1D41A, 0x1D433, 1, -119737⟩, ⟨0x1D434, 0x1D44D, 1, -119763⟩,
    ⟨0x1D44E, 0x1D466, 2, -119789⟩, ⟨0x1D44F, 0x1D453, 2, -119789⟩,
    ⟨0x1D457, 0x1D467, 2, -119789⟩, ⟨0x1D468, 0x1D481, 1, -119815⟩,
    ⟨0x1D482, 0x1D49B, 1, -119841⟩, ⟨0x1D4A9, 0x1D4AC, 1, -119867⟩,
    ⟨0x1D4AE, 0x1D4B5, 1, -119867⟩, ⟨0x1D4B6, 0x1D4B9, 1, -119893⟩]

private def seriesU1D4BBToU1FBF9 : List MappedSeries :=
  [⟨0x1D4BB, 0x1D4CF, 2, -119893⟩, ⟨0x1D4BE, 0x1D4C2, 2, -119893⟩, ⟨0x1D4C6, 0x1D4CE, 2, -119893⟩,
    ⟨0x1D4D0, 0x1D4E9, 1, -119919⟩, ⟨0x1D4EA, 0x1D503, 1, -119945⟩,
    ⟨0x1D505, 0x1D509, 2, -119971⟩, ⟨0x1D50D, 0x1D514, 1, -119971⟩,
    ⟨0x1D516, 0x1D51C, 1, -119971⟩, ⟨0x1D51E, 0x1D537, 1, -119997⟩,
    ⟨0x1D539, 0x1D53D, 2, -120023⟩, ⟨0x1D53C, 0x1D546, 2, -120023⟩,
    ⟨0x1D54A, 0x1D550, 1, -120023⟩, ⟨0x1D552, 0x1D56B, 1, -120049⟩,
    ⟨0x1D56C, 0x1D585, 1, -120075⟩, ⟨0x1D586, 0x1D59F, 1, -120101⟩,
    ⟨0x1D5A0, 0x1D5B9, 1, -120127⟩, ⟨0x1D5BA, 0x1D5D3, 1, -120153⟩,
    ⟨0x1D5D4, 0x1D5ED, 1, -120179⟩, ⟨0x1D5EE, 0x1D607, 1, -120205⟩,
    ⟨0x1D608, 0x1D621, 1, -120231⟩, ⟨0x1D622, 0x1D63B, 1, -120257⟩,
    ⟨0x1D63C, 0x1D655, 1, -120283⟩, ⟨0x1D656, 0x1D66F, 1, -120309⟩,
    ⟨0x1D670, 0x1D689, 1, -120335⟩, ⟨0x1D68A, 0x1D6A3, 1, -120361⟩,
    ⟨0x1D6A8, 0x1D6B8, 1, -119543⟩, ⟨0x1D6BA, 0x1D6C0, 1, -119543⟩,
    ⟨0x1D6C2, 0x1D6D2, 1, -119569⟩, ⟨0x1D6D4, 0x1D6DA, 1, -119569⟩,
    ⟨0x1D6E2, 0x1D6F2, 1, -119601⟩, ⟨0x1D6F4, 0x1D6FA, 1, -119601⟩,
    ⟨0x1D6FC, 0x1D70C, 1, -119627⟩, ⟨0x1D70E, 0x1D714, 1, -119627⟩,
    ⟨0x1D71C, 0x1D72C, 1, -119659⟩, ⟨0x1D72E, 0x1D734, 1, -119659⟩,
    ⟨0x1D736, 0x1D746, 1, -119685⟩, ⟨0x1D748, 0x1D74E, 1, -119685⟩,
    ⟨0x1D756, 0x1D766, 1, -119717⟩, ⟨0x1D768, 0x1D76E, 1, -119717⟩,
    ⟨0x1D770, 0x1D780, 1, -119743⟩, ⟨0x1D782, 0x1D788, 1, -119743⟩,
    ⟨0x1D790, 0x1D7A0, 1, -119775⟩, ⟨0x1D7A2, 0x1D7A8, 1, -119775⟩,
    ⟨0x1D7AA, 0x1D7BA, 1, -119801⟩, ⟨0x1D7BC, 0x1D7C2, 1, -119801⟩,
    ⟨0x1D7CE, 0x1D7D7, 1, -120734⟩, ⟨0x1D7D8, 0x1D7E1, 1, -120744⟩,
    ⟨0x1D7E2, 0x1D7EB, 1, -120754⟩, ⟨0x1D7EC, 0x1D7F5, 1, -120764⟩,
    ⟨0x1D7F6, 0x1D7FF, 1, -120774⟩, ⟨0x1E030, 0x1E038, 1, -121856⟩,
    ⟨0x1E039, 0x1E03B, 1, -121855⟩, ⟨0x1E03C, 0x1E046, 1, -121854⟩,
    ⟨0x1E051, 0x1E059, 1, -121889⟩, ⟨0x1E05F, 0x1E064, 1, -121884⟩, ⟨0x1E900, 0x1E921, 1, 34⟩,
    ⟨0x1EE0A, 0x1EE0D, 1, -124871⟩, ⟨0x1EE2A, 0x1EE2D, 1, -124903⟩,
    ⟨0x1EE8B, 0x1EE8D, 1, -124999⟩, ⟨0x1EEAB, 0x1EEAD, 1, -125031⟩,
    ⟨0x1F130, 0x1F149, 1, -127183⟩, ⟨0x1FBF0, 0x1FBF9, 1, -129984⟩]

/-- The series of mapped characters. -/
def mappedSeries : List MappedSeries :=
  seriesU0041ToU1D4B9 ++ seriesU1D4BBToU1FBF9

private def mappedU00A0ToU1DAA : List (Nat × String) :=
  [(0xA0, " "), (0xA8, " \u0308"), (0xAA, "a"), (0xAF, " \u0304"), (0xB2, "2"), (0xB3, "3"),
    (0xB4, " \u0301"), (0xB5, "μ"), (0xB8, " \u0327"), (0xB9, "1"), (0xBA, "o"), (0xBC, "1⁄4"),
    (0xBD, "1⁄2"), (0xBE, "3⁄4"), (0x130, "i\u0307"), (0x132, "ij"), (0x133, "ij"), (0x134, "ĵ"),
    (0x136, "ķ"), (0x13F, "l·"), (0x140, "l·"), (0x149, "ʼn"), (0x178, "ÿ"), (0x17F, "s"),
    (0x181, "ɓ"), (0x182, "ƃ"), (0x184, "ƅ"), (0x186, "ɔ"), (0x187, "ƈ"), (0x189, "ɖ"),
    (0x18A, "ɗ"), (0x18B, "ƌ"), (0x18E, "ǝ"), (0x18F, "ə"), (0x190, "ɛ"), (0x191, "ƒ"),
    (0x193, "ɠ"), (0x194, "ɣ"), (0x196, "ɩ"), (0x197, "ɨ"), (0x198, "ƙ"), (0x19C, "ɯ"),
    (0x19D, "ɲ"), (0x19F, "ɵ"), (0x1A6, "ʀ"), (0x1A7, "ƨ"), (0x1A9, "ʃ"), (0x1AC, "ƭ"),
    (0x1AE, "ʈ"), (0x1AF, "ư"), (0x1B1, "ʊ"), (0x1B2, "ʋ"), (0x1B3, "ƴ"), (0x1B5, "ƶ"),
    (0x1B7, "ʒ"), (0x1B8, "ƹ"), (0x1BC, "ƽ"), (0x1C4, "dž"), (0x1C5, "dž"), (0x1C6, "dž"),
    (0x1C7, "lj"), (0x1C8, "lj"), (0x1C9, "lj"), (0x1CA, "nj"), (0x1CB, "nj"), (0x1CC, "nj"),
    (0x1F1, "dz"), (0x1F2, "dz"), (0x1F3, "dz"), (0x1F4, "ǵ"), (0x1F6, "ƕ"), (0x1F7, "ƿ"),
    (0x220, "ƞ"), (0x23A, "ⱥ"), (0x23B, "ȼ"), (0x23D, "ƚ"), (0x23E, "ⱦ"), (0x241, "ɂ"),
    (0x243, "ƀ"), (0x244, "ʉ"), (0x245, "ʌ"), (0x2B0, "h"), (0x2B1, "ɦ"), (0x2B2, "j"),
    (0x2B3, "r"), (0x2B4, "ɹ"), (0x2B5, "ɻ"), (0x2B6, "ʁ"), (0x2B7, "w"), (0x2B8, "y"),
    (0x2D8, " \u0306"), (0x2D9, " \u0307"), (0x2DA, " \u030a"), (0x2DB, " \u0328"),
    (0x2DC, " \u0303"), (0x2DD, " \u030b"), (0x2E0, "ɣ"), (0x2E1, "l"), (0x2E2, "s"),
    (0x2E3, "x"), (0x2E4, "ʕ"), (0x340, "\u0300"), (0x341, "\u0301"), (0x343, "\u0313"),
    (0x344, "\u0308\u0301"), (0x345, "ι"), (0x370, "ͱ"), (0x372, "ͳ"), (0x374, "ʹ"), (0x376, "ͷ"),
    (0x37A, " ι"), (0x37E, ";"), (0x37F, "ϳ"), (0x384, " \u0301"), (0x385, " \u0308\u0301"),
    (0x386, "ά"), (0x387, "·"), (0x38C, "ό"), (0x38E, "ύ"), (0x38F, "ώ"), (0x3CF, "ϗ"),
    (0x3D0, "β"), (0x3D1, "θ"), (0x3D2, "υ"), (0x3D3, "ύ"), (0x3D4, "ϋ"), (0x3D5, "φ"),
    (0x3D6, "π"), (0x3F0, "κ"), (0x3F1, "ρ"), (0x3F2, "σ"), (0x3F4, "θ"), (0x3F5, "ε"),
    (0x3F7, "ϸ"), (0x3F9, "σ"), (0x3FA, "ϻ"), (0x4C0, "ӏ"), (0x587, "եւ"),
    (0x675, "\u0627\u0674"), (0x676, "\u0648\u0674"), (0x677, "\u06c7\u0674"),
    (0x678, "\u064a\u0674"), (0x958, "क\u093c"), (0x959, "ख\u093c"), (0x95A, "ग\u093c"),
    (0x95B, "ज\u093c"), (0x95C, "ड\u093c"), (0x95D, "ढ\u093c"), (0x95E, "फ\u093c"),
    (0x95F, "य\u093c"), (0x9DC, "ড\u09bc"), (0x9DD, "ঢ\u09bc"), (0x9DF, "য\u09bc"),
    (0xA33, "ਲ\u0a3c"), (0xA36, "ਸ\u0a3c"), (0xA59, "ਖ\u0a3c"), (0xA5A, "ਗ\u0a3c"),
    (0xA5B, "ਜ\u0a3c"), (0xA5E, "ਫ\u0a3c"), (0xB5C, "ଡ\u0b3c"), (0xB5D, "ଢ\u0b3c"),
    (0xE33, "\u0e4dา"), (0xEB3, "\u0ecdາ"), (0xEDC, "ຫນ"), (0xEDD, "ຫມ"), (0xF0C, "་"),
    (0xF43, "ག\u0fb7"), (0xF4D, "ཌ\u0fb7"), (0xF52, "ད\u0fb7"), (0xF57, "བ\u0fb7"),
    (0xF5C, "ཛ\u0fb7"), (0xF69, "ཀ\u0fb5"), (0xF73, "\u0f71\u0f72"), (0xF75, "\u0f71\u0f74"),
    (0xF76, "\u0fb2\u0f80"), (0xF77, "\u0fb2\u0f71\u0f80"), (0xF78, "\u0fb3\u0f80"),
    (0xF79, "\u0fb3\u0f71\u0f80"), (0xF81, "\u0f71\u0f80"), (0xF93, "\u0f92\u0fb7"),
    (0xF9D, "\u0f9c\u0fb7"), (0xFA2, "\u0fa1\u0fb7"), (0xFA7, "\u0fa6\u0fb7"),
    (0xFAC, "\u0fab\u0fb7"), (0xFB9, "\u0f90\u0fb5"), (0x10C7, "ⴧ"), (0x10CD, "ⴭ"), (0x10FC, "ნ"),
    (0x1C80, "в"), (0x1C81, "д"), (0x1C82, "о"), (0x1C83, "с"), (0x1C84, "т"), (0x1C85, "т"),
    (0x1C86, "ъ"), (0x1C87, "ѣ"), (0x1C88, "ꙋ"), (0x1C89, "\u1c8a"), (0x1D2C, "a"), (0x1D2D, "æ"),
    (0x1D2E, "b"), (0x1D30, "d"), (0x1D32, "ǝ"), (0x1D3C, "o"), (0x1D3D, "ȣ"), (0x1D3E, "p"),
    (0x1D3F, "r"), (0x1D40, "t"), (0x1D41, "u"), (0x1D42, "w"), (0x1D43, "a"), (0x1D44, "ɐ"),
    (0x1D45, "ɑ"), (0x1D46, "ᴂ"), (0x1D47, "b"), (0x1D48, "d"), (0x1D49, "e"), (0x1D4A, "ə"),
    (0x1D4B, "ɛ"), (0x1D4C, "ɜ"), (0x1D4D, "g"), (0x1D4F, "k"), (0x1D50, "m"), (0x1D51, "ŋ"),
    (0x1D52, "o"), (0x1D53, "ɔ"), (0x1D54, "ᴖ"), (0x1D55, "ᴗ"), (0x1D56, "p"), (0x1D57, "t"),
    (0x1D58, "u"), (0x1D59, "ᴝ"), (0x1D5A, "ɯ"), (0x1D5B, "v"), (0x1D5C, "ᴥ"), (0x1D60, "φ"),
    (0x1D61, "χ"), (0x1D62, "i"), (0x1D63, "r"), (0x1D64, "u"), (0x1D65, "v"), (0x1D66, "β"),
    (0x1D67, "γ"), (0x1D68, "ρ"), (0x1D69, "φ"), (0x1D6A, "χ"), (0x1D78, "н"), (0x1D9B, "ɒ"),
    (0x1D9C, "c"), (0x1D9D, "ɕ"), (0x1D9E, "ð"), (0x1D9F, "ɜ"), (0x1DA0, "f"), (0x1DA1, "ɟ"),
    (0x1DA2, "ɡ"), (0x1DA3, "ɥ"), (0x1DA7, "ᵻ"), (0x1DA8, "ʝ"), (0x1DA9, "ɭ"), (0x1DAA, "ᶅ")]

private def mappedU1DABToU2173 : List (Nat × String) :=
  [(0x1DAB, "ʟ"), (0x1DAC, "ɱ"), (0x1DAD, "ɰ"), (0x1DB2, "ɸ"), (0x1DB3, "ʂ"), (0x1DB4, "ʃ"),
    (0x1DB5, "ƫ"), (0x1DB6, "ʉ"), (0x1DB7, "ʊ"), (0x1DB8, "ᴜ"), (0x1DB9, "ʋ"), (0x1DBA, "ʌ"),
    (0x1DBB, "z"), (0x1DBF, "θ"), (0x1E9A, "aʾ"), (0x1E9B, "ṡ"), (0x1E9E, "ß"), (0x1F71, "ά"),
    (0x1F73, "έ"), (0x1F75, "ή"), (0x1F77, "ί"), (0x1F79, "ό"), (0x1F7B, "ύ"), (0x1F7D, "ώ"),
    (0x1F80, "ἀι"), (0x1F81, "ἁι"), (0x1F82, "ἂι"), (0x1F83, "ἃι"), (0x1F84, "ἄι"),
    (0x1F85, "ἅι"), (0x1F86, "ἆι"), (0x1F87, "ἇι"), (0x1F88, "ἀι"), (0x1F89, "ἁι"),
    (0x1F8A, "ἂι"), (0x1F8B, "ἃι"), (0x1F8C, "ἄι"), (0x1F8D, "ἅι"), (0x1F8E, "ἆι"),
    (0x1F8F, "ἇι"), (0x1F90, "ἠι"), (0x1F91, "ἡι"), (0x1F92, "ἢι"), (0x1F93, "ἣι"),
    (0x1F94, "ἤι"), (0x1F95, "ἥι"), (0x1F96, "ἦι"), (0x1F97, "ἧι"), (0x1F98, "ἠι"),
    (0x1F99, "ἡι"), (0x1F9A, "ἢι"), (0x1F9B, "ἣι"), (0x1F9C, "ἤι"), (0x1F9D, "ἥι"),
    (0x1F9E, "ἦι"), (0x1F9F, "ἧι"), (0x1FA0, "ὠι"), (0x1FA1, "ὡι"), (0x1FA2, "ὢι"),
    (0x1FA3, "ὣι"), (0x1FA4, "ὤι"), (0x1FA5, "ὥι"), (0x1FA6, "ὦι"), (0x1FA7, "ὧι"),
    (0x1FA8, "ὠι"), (0x1FA9, "ὡι"), (0x1FAA, "ὢι"), (0x1FAB, "ὣι"), (0x1FAC, "ὤι"),
    (0x1FAD, "ὥι"), (0x1FAE, "ὦι"), (0x1FAF, "ὧι"), (0x1FB2, "ὰι"), (0x1FB3, "αι"),
    (0x1FB4, "άι"), (0x1FB7, "ᾶι"), (0x1FB8, "ᾰ"), (0x1FB9, "ᾱ"), (0x1FBA, "ὰ"), (0x1FBB, "ά"),
    (0x1FBC, "αι"), (0x1FBD, " \u0313"), (0x1FBE, "ι"), (0x1FBF, " \u0313"), (0x1FC0, " \u0342"),
    (0x1FC1, " \u0308\u0342"), (0x1FC2, "ὴι"), (0x1FC3, "ηι"), (0x1FC4, "ήι"), (0x1FC7, "ῆι"),
    (0x1FC8, "ὲ"), (0x1FC9, "έ"), (0x1FCA, "ὴ"), (0x1FCB, "ή"), (0x1FCC, "ηι"),
    (0x1FCD, " \u0313\u0300"), (0x1FCE, " \u0313\u0301"), (0x1FCF, " \u0313\u0342"),
    (0x1FD3, "ΐ"), (0x1FD8, "ῐ"), (0x1FD9, "ῑ"), (0x1FDA, "ὶ"), (0x1FDB, "ί"),
    (0x1FDD, " \u0314\u0300"), (0x1FDE, " \u0314\u0301"), (0x1FDF, " \u0314\u0342"),
    (0x1FE3, "ΰ"), (0x1FE8, "ῠ"), (0x1FE9, "ῡ"), (0x1FEA, "ὺ"), (0x1FEB, "ύ"), (0x1FEC, "ῥ"),
    (0x1FED, " \u0308\u0300"), (0x1FEE, " \u0308\u0301"), (0x1FEF, "\x60"), (0x1FF2, "ὼι"),
    (0x1FF3, "ωι"), (0x1FF4, "ώι"), (0x1FF7, "ῶι"), (0x1FF8, "ὸ"), (0x1FF9, "ό"), (0x1FFA, "ὼ"),
    (0x1FFB, "ώ"), (0x1FFC, "ωι"), (0x1FFD, " \u0301"), (0x1FFE, " \u0314"), (0x2000, " "),
    (0x2001, " "), (0x2002, " "), (0x2003, " "), (0x2004, " "), (0x2005, " "), (0x2006, " "),
    (0x2007, " "), (0x2008, " "), (0x2009, " "), (0x200A, " "), (0x2011, "‐"),
    (0x2017, " \u0333"), (0x202F, " "), (0x2033, "′′"), (0x2034, "′′′"), (0x2036, "‵‵"),
    (0x2037, "‵‵‵"), (0x203C, "!!"), (0x203E, " \u0305"), (0x2047, "??"), (0x2048, "?!"),
    (0x2049, "!?"), (0x2057, "′′′′"), (0x205F, " "), (0x2070, "0"), (0x2071, "i"), (0x207A, "+"),
    (0x207B, "−"), (0x207C, "="), (0x207D, "("), (0x207E, ")"), (0x207F, "n"), (0x208A, "+"),
    (0x208B, "−"), (0x208C, "="), (0x208D, "("), (0x208E, ")"), (0x2090, "a"), (0x2091, "e"),
    (0x2092, "o"), (0x2093, "x"), (0x2094, "ə"), (0x2095, "h"), (0x209A, "p"), (0x209B, "s"),
    (0x209C, "t"), (0x20A8, "rs"), (0x2100, "a/c"), (0x2101, "a/s"), (0x2102, "c"),
    (0x2103, "°c"), (0x2105, "c/o"), (0x2106, "c/u"), (0x2107, "ɛ"), (0x2109, "°f"),
    (0x210A, "g"), (0x210B, "h"), (0x210C, "h"), (0x210D, "h"), (0x210E, "h"), (0x210F, "ħ"),
    (0x2110, "i"), (0x2111, "i"), (0x2112, "l"), (0x2113, "l"), (0x2115, "n"), (0x2116, "no"),
    (0x211C, "r"), (0x211D, "r"), (0x2120, "sm"), (0x2121, "tel"), (0x2122, "tm"), (0x2124, "z"),
    (0x2126, "ω"), (0x2128, "z"), (0x212A, "k"), (0x212B, "å"), (0x212C, "b"), (0x212D, "c"),
    (0x212F, "e"), (0x2130, "e"), (0x2131, "f"), (0x2132, "ⅎ"), (0x2133, "m"), (0x2134, "o"),
    (0x2139, "i"), (0x213B, "fax"), (0x213C, "π"), (0x213D, "γ"), (0x213E, "γ"), (0x213F, "π"),
    (0x2140, "∑"), (0x2145, "d"), (0x2146, "d"), (0x2147, "e"), (0x2148, "i"), (0x2149, "j"),
    (0x2150, "1⁄7"), (0x2151, "1⁄9"), (0x2152, "1⁄10"), (0x2153, "1⁄3"), (0x2154, "2⁄3"),
    (0x2155, "1⁄5"), (0x2156, "2⁄5"), (0x2157, "3⁄5"), (0x2158, "4⁄5"), (0x2159, "1⁄6"),
    (0x215A, "5⁄6"), (0x215B, "1⁄8"), (0x215C, "3⁄8"), (0x215D, "5⁄8"), (0x215E, "7⁄8"),
    (0x215F, "1⁄"), (0x2160, "i"), (0x2161, "ii"), (0x2162, "iii"), (0x2163, "iv"), (0x2164, "v"),
    (0x2165, "vi"), (0x2166, "vii"), (0x2167, "viii"), (0x2168, "ix"), (0x2169, "x"),
    (0x216A, "xi"), (0x216B, "xii"), (0x216C, "l"), (0x216D, "c"), (0x216E, "d"), (0x216F, "m"),
    (0x2170, "i"), (0x2171, "ii"), (0x2172, "iii"), (0x2173, "iv")]

private def mappedU2174ToU2F9C : List (Nat × String) :=
  [(0x2174, "v"), (0x2175, "vi"), (0x2176, "vii"), (0x2177, "viii"), (0x2178, "ix"),
    (0x2179, "x"), (0x217A, "xi"), (0x217B, "xii"), (0x217C, "l"), (0x217D, "c"), (0x217E, "d"),
    (0x217F, "m"), (0x2183, "ↄ"), (0x2189, "0⁄3"), (0x222C, "∫∫"), (0x222D, "∫∫∫"),
    (0x222F, "∮∮"), (0x2230, "∮∮∮"), (0x2329, "〈"), (0x232A, "〉"), (0x2469, "10"), (0x246A, "11"),
    (0x246B, "12"), (0x246C, "13"), (0x246D, "14"), (0x246E, "15"), (0x246F, "16"),
    (0x2470, "17"), (0x2471, "18"), (0x2472, "19"), (0x2473, "20"), (0x2474, "(1)"),
    (0x2475, "(2)"), (0x2476, "(3)"), (0x2477, "(4)"), (0x2478, "(5)"), (0x2479, "(6)"),
    (0x247A, "(7)"), (0x247B, "(8)"), (0x247C, "(9)"), (0x247D, "(10)"), (0x247E, "(11)"),
    (0x247F, "(12)"), (0x2480, "(13)"), (0x2481, "(14)"), (0x2482, "(15)"), (0x2483, "(16)"),
    (0x2484, "(17)"), (0x2485, "(18)"), (0x2486, "(19)"), (0x2487, "(20)"), (0x249C, "(a)"),
    (0x249D, "(b)"), (0x249E, "(c)"), (0x249F, "(d)"), (0x24A0, "(e)"), (0x24A1, "(f)"),
    (0x24A2, "(g)"), (0x24A3, "(h)"), (0x24A4, "(i)"), (0x24A5, "(j)"), (0x24A6, "(k)"),
    (0x24A7, "(l)"), (0x24A8, "(m)"), (0x24A9, "(n)"), (0x24AA, "(o)"), (0x24AB, "(p)"),
    (0x24AC, "(q)"), (0x24AD, "(r)"), (0x24AE, "(s)"), (0x24AF, "(t)"), (0x24B0, "(u)"),
    (0x24B1, "(v)"), (0x24B2, "(w)"), (0x24B3, "(x)"), (0x24B4, "(y)"), (0x24B5, "(z)"),
    (0x24EA, "0"), (0x2A0C, "∫∫∫∫"), (0x2A74, "::="), (0x2A75, "=="), (0x2A76, "==="),
    (0x2ADC, "⫝\u0338"), (0x2C60, "ⱡ"), (0x2C62, "ɫ"), (0x2C63, "ᵽ"), (0x2C64, "ɽ"),
    (0x2C6D, "ɑ"), (0x2C6E, "ɱ"), (0x2C6F, "ɐ"), (0x2C70, "ɒ"), (0x2C72, "ⱳ"), (0x2C75, "ⱶ"),
    (0x2C7C, "j"), (0x2C7D, "v"), (0x2C7E, "ȿ"), (0x2C7F, "ɀ"), (0x2CEB, "ⳬ"), (0x2CED, "ⳮ"),
    (0x2CF2, "ⳳ"), (0x2D6F, "ⵡ"), (0x2E9F, "母"), (0x2EF3, "龟"), (0x2F00, "一"), (0x2F01, "丨"),
    (0x2F02, "丶"), (0x2F03, "丿"), (0x2F04, "乙"), (0x2F05, "亅"), (0x2F06, "二"), (0x2F07, "亠"),
    (0x2F08, "人"), (0x2F09, "儿"), (0x2F0A, "入"), (0x2F0B, "八"), (0x2F0C, "冂"), (0x2F0D, "冖"),
    (0x2F0E, "冫"), (0x2F0F, "几"), (0x2F10, "凵"), (0x2F11, "刀"), (0x2F12, "力"), (0x2F13, "勹"),
    (0x2F14, "匕"), (0x2F15, "匚"), (0x2F16, "匸"), (0x2F17, "十"), (0x2F18, "卜"), (0x2F19, "卩"),
    (0x2F1A, "厂"), (0x2F1B, "厶"), (0x2F1C, "又"), (0x2F1D, "口"), (0x2F1E, "囗"), (0x2F1F, "土"),
    (0x2F20, "士"), (0x2F21, "夂"), (0x2F22, "夊"), (0x2F23, "夕"), (0x2F24, "大"), (0x2F25, "女"),
    (0x2F26, "子"), (0x2F27, "宀"), (0x2F28, "寸"), (0x2F29, "小"), (0x2F2A, "尢"), (0x2F2B, "尸"),
    (0x2F2C, "屮"), (0x2F2D, "山"), (0x2F2E, "巛"), (0x2F2F, "工"), (0x2F30, "己"), (0x2F31, "巾"),
    (0x2F32, "干"), (0x2F33, "幺"), (0x2F34, "广"), (0x2F35, "廴"), (0x2F36, "廾"), (0x2F37, "弋"),
    (0x2F38, "弓"), (0x2F39, "彐"), (0x2F3A, "彡"), (0x2F3B, "彳"), (0x2F3C, "心"), (0x2F3D, "戈"),
    (0x2F3E, "戶"), (0x2F3F, "手"), (0x2F40, "支"), (0x2F41, "攴"), (0x2F42, "文"), (0x2F43, "斗"),
    (0x2F44, "斤"), (0x2F45, "方"), (0x2F46, "无"), (0x2F47, "日"), (0x2F48, "曰"), (0x2F49, "月"),
    (0x2F4A, "木"), (0x2F4B, "欠"), (0x2F4C, "止"), (0x2F4D, "歹"), (0x2F4E, "殳"), (0x2F4F, "毋"),
    (0x2F50, "比"), (0x2F51, "毛"), (0x2F52, "氏"), (0x2F53, "气"), (0x2F54, "水"), (0x2F55, "火"),
    (0x2F56, "爪"), (0x2F57, "父"), (0x2F58, "爻"), (0x2F59, "爿"), (0x2F5A, "片"), (0x2F5B, "牙"),
    (0x2F5C, "牛"), (0x2F5D, "犬"), (0x2F5E, "玄"), (0x2F5F, "玉"), (0x2F60, "瓜"), (0x2F61, "瓦"),
    (0x2F62, "甘"), (0x2F63, "生"), (0x2F64, "用"), (0x2F65, "田"), (0x2F66, "疋"), (0x2F67, "疒"),
    (0x2F68, "癶"), (0x2F69, "白"), (0x2F6A, "皮"), (0x2F6B, "皿"), (0x2F6C, "目"), (0x2F6D, "矛"),
    (0x2F6E, "矢"), (0x2F6F, "石"), (0x2F70, "示"), (0x2F71, "禸"), (0x2F72, "禾"), (0x2F73, "穴"),
    (0x2F74, "立"), (0x2F75, "竹"), (0x2F76, "米"), (0x2F77, "糸"), (0x2F78, "缶"), (0x2F79, "网"),
    (0x2F7A, "羊"), (0x2F7B, "羽"), (0x2F7C, "老"), (0x2F7D, "而"), (0x2F7E, "耒"), (0x2F7F, "耳"),
    (0x2F80, "聿"), (0x2F81, "肉"), (0x2F82, "臣"), (0x2F83, "自"), (0x2F84, "至"), (0x2F85, "臼"),
    (0x2F86, "舌"), (0x2F87, "舛"), (0x2F88, "舟"), (0x2F89, "艮"), (0x2F8A, "色"), (0x2F8B, "艸"),
    (0x2F8C, "虍"), (0x2F8D, "虫"), (0x2F8E, "血"), (0x2F8F, "行"), (0x2F90, "衣"), (0x2F91, "襾"),
    (0x2F92, "見"), (0x2F93, "角"), (0x2F94, "言"), (0x2F95, "谷"), (0x2F96, "豆"), (0x2F97, "豕"),
    (0x2F98, "豸"), (0x2F99, "貝"), (0x2F9A, "赤"), (0x2F9B, "走"), (0x2F9C, "足")]

private def mappedU2F9DToU329A : List (Nat × String) :=
  [(0x2F9D, "身"), (0x2F9E, "車"), (0x2F9F, "辛"), (0x2FA0, "辰"), (0x2FA1, "辵"), (0x2FA2, "邑"),
    (0x2FA3, "酉"), (0x2FA4, "釆"), (0x2FA5, "里"), (0x2FA6, "金"), (0x2FA7, "長"), (0x2FA8, "門"),
    (0x2FA9, "阜"), (0x2FAA, "隶"), (0x2FAB, "隹"), (0x2FAC, "雨"), (0x2FAD, "靑"), (0x2FAE, "非"),
    (0x2FAF, "面"), (0x2FB0, "革"), (0x2FB1, "韋"), (0x2FB2, "韭"), (0x2FB3, "音"), (0x2FB4, "頁"),
    (0x2FB5, "風"), (0x2FB6, "飛"), (0x2FB7, "食"), (0x2FB8, "首"), (0x2FB9, "香"), (0x2FBA, "馬"),
    (0x2FBB, "骨"), (0x2FBC, "高"), (0x2FBD, "髟"), (0x2FBE, "鬥"), (0x2FBF, "鬯"), (0x2FC0, "鬲"),
    (0x2FC1, "鬼"), (0x2FC2, "魚"), (0x2FC3, "鳥"), (0x2FC4, "鹵"), (0x2FC5, "鹿"), (0x2FC6, "麥"),
    (0x2FC7, "麻"), (0x2FC8, "黃"), (0x2FC9, "黍"), (0x2FCA, "黑"), (0x2FCB, "黹"), (0x2FCC, "黽"),
    (0x2FCD, "鼎"), (0x2FCE, "鼓"), (0x2FCF, "鼠"), (0x2FD0, "鼻"), (0x2FD1, "齊"), (0x2FD2, "齒"),
    (0x2FD3, "龍"), (0x2FD4, "龜"), (0x2FD5, "龠"), (0x3000, " "), (0x3002, "."), (0x3036, "〒"),
    (0x3038, "十"), (0x3039, "卄"), (0x303A, "卅"), (0x309B, " \u3099"), (0x309C, " \u309a"),
    (0x309F, "より"), (0x30FF, "コト"), (0x3131, "ᄀ"), (0x3132, "ᄁ"), (0x3133, "ᆪ"), (0x3134, "ᄂ"),
    (0x3135, "ᆬ"), (0x3136, "ᆭ"), (0x3140, "ᄚ"), (0x3144, "ᄡ"), (0x3165, "ᄔ"), (0x3166, "ᄕ"),
    (0x3167, "ᇇ"), (0x3168, "ᇈ"), (0x3169, "ᇌ"), (0x316A, "ᇎ"), (0x316B, "ᇓ"), (0x316C, "ᇗ"),
    (0x316D, "ᇙ"), (0x316E, "ᄜ"), (0x316F, "ᇝ"), (0x3170, "ᇟ"), (0x3171, "ᄝ"), (0x3172, "ᄞ"),
    (0x3173, "ᄠ"), (0x3174, "ᄢ"), (0x3175, "ᄣ"), (0x3176, "ᄧ"), (0x3177, "ᄩ"), (0x317D, "ᄲ"),
    (0x317E, "ᄶ"), (0x317F, "ᅀ"), (0x3180, "ᅇ"), (0x3181, "ᅌ"), (0x3182, "ᇱ"), (0x3183, "ᇲ"),
    (0x3187, "ᆄ"), (0x3188, "ᆅ"), (0x3189, "ᆈ"), (0x318A, "ᆑ"), (0x318B, "ᆒ"), (0x318C, "ᆔ"),
    (0x318D, "ᆞ"), (0x318E, "ᆡ"), (0x3192, "一"), (0x3193, "二"), (0x3194, "三"), (0x3195, "四"),
    (0x3196, "上"), (0x3197, "中"), (0x3198, "下"), (0x3199, "甲"), (0x319A, "乙"), (0x319B, "丙"),
    (0x319C, "丁"), (0x319D, "天"), (0x319E, "地"), (0x319F, "人"), (0x3200, "(ᄀ)"), (0x3201, "(ᄂ)"),
    (0x3202, "(ᄃ)"), (0x3203, "(ᄅ)"), (0x3204, "(ᄆ)"), (0x3205, "(ᄇ)"), (0x3206, "(ᄉ)"),
    (0x3207, "(ᄋ)"), (0x3208, "(ᄌ)"), (0x3209, "(ᄎ)"), (0x320A, "(ᄏ)"), (0x320B, "(ᄐ)"),
    (0x320C, "(ᄑ)"), (0x320D, "(ᄒ)"), (0x320E, "(가)"), (0x320F, "(나)"), (0x3210, "(다)"),
    (0x3211, "(라)"), (0x3212, "(마)"), (0x3213, "(바)"), (0x3214, "(사)"), (0x3215, "(아)"),
    (0x3216, "(자)"), (0x3217, "(차)"), (0x3218, "(카)"), (0x3219, "(타)"), (0x321A, "(파)"),
    (0x321B, "(하)"), (0x321C, "(주)"), (0x321D, "(오전)"), (0x321E, "(오후)"), (0x3220, "(一)"),
    (0x3221, "(二)"), (0x3222, "(三)"), (0x3223, "(四)"), (0x3224, "(五)"), (0x3225, "(六)"),
    (0x3226, "(七)"), (0x3227, "(八)"), (0x3228, "(九)"), (0x3229, "(十)"), (0x322A, "(月)"),
    (0x322B, "(火)"), (0x322C, "(水)"), (0x322D, "(木)"), (0x322E, "(金)"), (0x322F, "(土)"),
    (0x3230, "(日)"), (0x3231, "(株)"), (0x3232, "(有)"), (0x3233, "(社)"), (0x3234, "(名)"),
    (0x3235, "(特)"), (0x3236, "(財)"), (0x3237, "(祝)"), (0x3238, "(労)"), (0x3239, "(代)"),
    (0x323A, "(呼)"), (0x323B, "(学)"), (0x323C, "(監)"), (0x323D, "(企)"), (0x323E, "(資)"),
    (0x323F, "(協)"), (0x3240, "(祭)"), (0x3241, "(休)"), (0x3242, "(自)"), (0x3243, "(至)"),
    (0x3244, "問"), (0x3245, "幼"), (0x3246, "文"), (0x3247, "箏"), (0x3250, "pte"), (0x3251, "21"),
    (0x3252, "22"), (0x3253, "23"), (0x3254, "24"), (0x3255, "25"), (0x3256, "26"),
    (0x3257, "27"), (0x3258, "28"), (0x3259, "29"), (0x325A, "30"), (0x325B, "31"),
    (0x325C, "32"), (0x325D, "33"), (0x325E, "34"), (0x325F, "35"), (0x3260, "ᄀ"), (0x3261, "ᄂ"),
    (0x3262, "ᄃ"), (0x3266, "ᄉ"), (0x3267, "ᄋ"), (0x3268, "ᄌ"), (0x326E, "가"), (0x326F, "나"),
    (0x3270, "다"), (0x3271, "라"), (0x3272, "마"), (0x3273, "바"), (0x3274, "사"), (0x3275, "아"),
    (0x3276, "자"), (0x3277, "차"), (0x3278, "카"), (0x3279, "타"), (0x327A, "파"), (0x327B, "하"),
    (0x327C, "참고"), (0x327D, "주의"), (0x327E, "우"), (0x3280, "一"), (0x3281, "二"), (0x3282, "三"),
    (0x3283, "四"), (0x3284, "五"), (0x3285, "六"), (0x3286, "七"), (0x3287, "八"), (0x3288, "九"),
    (0x3289, "十"), (0x328A, "月"), (0x328B, "火"), (0x328C, "水"), (0x328D, "木"), (0x328E, "金"),
    (0x328F, "土"), (0x3290, "日"), (0x3291, "株"), (0x3292, "有"), (0x3293, "社"), (0x3294, "名"),
    (0x3295, "特"), (0x3296, "財"), (0x3297, "祝"), (0x3298, "労"), (0x3299, "秘"), (0x329A, "男")]

private def mappedU329BToU33B3 : List (Nat × String) :=
  [(0x329B, "女"), (0x329C, "適"), (0x329D, "優"), (0x329E, "印"), (0x329F, "注"), (0x32A0, "項"),
    (0x32A1, "休"), (0x32A2, "写"), (0x32A3, "正"), (0x32A4, "上"), (0x32A5, "中"), (0x32A6, "下"),
    (0x32A7, "左"), (0x32A8, "右"), (0x32A9, "医"), (0x32AA, "宗"), (0x32AB, "学"), (0x32AC, "監"),
    (0x32AD, "企"), (0x32AE, "資"), (0x32AF, "協"), (0x32B0, "夜"), (0x32B1, "36"), (0x32B2, "37"),
    (0x32B3, "38"), (0x32B4, "39"), (0x32B5, "40"), (0x32B6, "41"), (0x32B7, "42"),
    (0x32B8, "43"), (0x32B9, "44"), (0x32BA, "45"), (0x32BB, "46"), (0x32BC, "47"),
    (0x32BD, "48"), (0x32BE, "49"), (0x32BF, "50"), (0x32C0, "1月"), (0x32C1, "2月"),
    (0x32C2, "3月"), (0x32C3, "4月"), (0x32C4, "5月"), (0x32C5, "6月"), (0x32C6, "7月"),
    (0x32C7, "8月"), (0x32C8, "9月"), (0x32C9, "10月"), (0x32CA, "11月"), (0x32CB, "12月"),
    (0x32CC, "hg"), (0x32CD, "erg"), (0x32CE, "ev"), (0x32CF, "ltd"), (0x32D0, "ア"),
    (0x32D1, "イ"), (0x32D2, "ウ"), (0x32D3, "エ"), (0x32D4, "オ"), (0x32D5, "カ"), (0x32D6, "キ"),
    (0x32D7, "ク"), (0x32D8, "ケ"), (0x32D9, "コ"), (0x32DA, "サ"), (0x32DB, "シ"), (0x32DC, "ス"),
    (0x32DD, "セ"), (0x32DE, "ソ"), (0x32DF, "タ"), (0x32E0, "チ"), (0x32E1, "ツ"), (0x32E2, "テ"),
    (0x32E3, "ト"), (0x32EA, "ヒ"), (0x32EB, "フ"), (0x32EC, "ヘ"), (0x32ED, "ホ"), (0x32F3, "ヤ"),
    (0x32F4, "ユ"), (0x32FF, "令和"), (0x3300, "アパート"), (0x3301, "アルファ"), (0x3302, "アンペア"),
    (0x3303, "アール"), (0x3304, "イニング"), (0x3305, "インチ"), (0x3306, "ウォン"), (0x3307, "エスクード"),
    (0x3308, "エーカー"), (0x3309, "オンス"), (0x330A, "オーム"), (0x330B, "カイリ"), (0x330C, "カラット"),
    (0x330D, "カロリー"), (0x330E, "ガロン"), (0x330F, "ガンマ"), (0x3310, "ギガ"), (0x3311, "ギニー"),
    (0x3312, "キュリー"), (0x3313, "ギルダー"), (0x3314, "キロ"), (0x3315, "キログラム"), (0x3316, "キロメートル"),
    (0x3317, "キロワット"), (0x3318, "グラム"), (0x3319, "グラムトン"), (0x331A, "クルゼイロ"), (0x331B, "クローネ"),
    (0x331C, "ケース"), (0x331D, "コルナ"), (0x331E, "コーポ"), (0x331F, "サイクル"), (0x3320, "サンチーム"),
    (0x3321, "シリング"), (0x3322, "センチ"), (0x3323, "セント"), (0x3324, "ダース"), (0x3325, "デシ"),
    (0x3326, "ドル"), (0x3327, "トン"), (0x3328, "ナノ"), (0x3329, "ノット"), (0x332A, "ハイツ"),
    (0x332B, "パーセント"), (0x332C, "パーツ"), (0x332D, "バーレル"), (0x332E, "ピアストル"), (0x332F, "ピクル"),
    (0x3330, "ピコ"), (0x3331, "ビル"), (0x3332, "ファラッド"), (0x3333, "フィート"), (0x3334, "ブッシェル"),
    (0x3335, "フラン"), (0x3336, "ヘクタール"), (0x3337, "ペソ"), (0x3338, "ペニヒ"), (0x3339, "ヘルツ"),
    (0x333A, "ペンス"), (0x333B, "ページ"), (0x333C, "ベータ"), (0x333D, "ポイント"), (0x333E, "ボルト"),
    (0x333F, "ホン"), (0x3340, "ポンド"), (0x3341, "ホール"), (0x3342, "ホーン"), (0x3343, "マイクロ"),
    (0x3344, "マイル"), (0x3345, "マッハ"), (0x3346, "マルク"), (0x3347, "マンション"), (0x3348, "ミクロン"),
    (0x3349, "ミリ"), (0x334A, "ミリバール"), (0x334B, "メガ"), (0x334C, "メガトン"), (0x334D, "メートル"),
    (0x334E, "ヤード"), (0x334F, "ヤール"), (0x3350, "ユアン"), (0x3351, "リットル"), (0x3352, "リラ"),
    (0x3353, "ルピー"), (0x3354, "ルーブル"), (0x3355, "レム"), (0x3356, "レントゲン"), (0x3357, "ワット"),
    (0x3358, "0点"), (0x3359, "1点"), (0x335A, "2点"), (0x335B, "3点"), (0x335C, "4点"),
    (0x335D, "5点"), (0x335E, "6点"), (0x335F, "7点"), (0x3360, "8点"), (0x3361, "9点"),
    (0x3362, "10点"), (0x3363, "11点"), (0x3364, "12点"), (0x3365, "13点"), (0x3366, "14点"),
    (0x3367, "15点"), (0x3368, "16点"), (0x3369, "17点"), (0x336A, "18点"), (0x336B, "19点"),
    (0x336C, "20点"), (0x336D, "21点"), (0x336E, "22点"), (0x336F, "23点"), (0x3370, "24点"),
    (0x3371, "hpa"), (0x3372, "da"), (0x3373, "au"), (0x3374, "bar"), (0x3375, "ov"),
    (0x3376, "pc"), (0x3377, "dm"), (0x3378, "dm2"), (0x3379, "dm3"), (0x337A, "iu"),
    (0x337B, "平成"), (0x337C, "昭和"), (0x337D, "大正"), (0x337E, "明治"), (0x337F, "株式会社"),
    (0x3380, "pa"), (0x3381, "na"), (0x3382, "μa"), (0x3383, "ma"), (0x3384, "ka"),
    (0x3385, "kb"), (0x3386, "mb"), (0x3387, "gb"), (0x3388, "cal"), (0x3389, "kcal"),
    (0x338A, "pf"), (0x338B, "nf"), (0x338C, "μf"), (0x338D, "μg"), (0x338E, "mg"),
    (0x338F, "kg"), (0x3390, "hz"), (0x3391, "khz"), (0x3392, "mhz"), (0x3393, "ghz"),
    (0x3394, "thz"), (0x3395, "μl"), (0x3396, "ml"), (0x3397, "dl"), (0x3398, "kl"),
    (0x3399, "fm"), (0x339A, "nm"), (0x339B, "μm"), (0x339C, "mm"), (0x339D, "cm"),
    (0x339E, "km"), (0x339F, "mm2"), (0x33A0, "cm2"), (0x33A1, "m2"), (0x33A2, "km2"),
    (0x33A3, "mm3"), (0x33A4, "cm3"), (0x33A5, "m3"), (0x33A6, "km3"), (0x33A7, "m∕s"),
    (0x33A8, "m∕s2"), (0x33A9, "pa"), (0x33AA, "kpa"), (0x33AB, "mpa"), (0x33AC, "gpa"),
    (0x33AD, "rad"), (0x33AE, "rad∕s"), (0x33AF, "rad∕s2"), (0x33B0, "ps"), (0x33B1, "ns"),
    (0x33B2, "μs"), (0x33B3, "ms")]

private def mappedU33B4ToUF994 : List (Nat × String) :=
  [(0x33B4, "pv"), (0x33B5, "nv"), (0x33B6, "μv"), (0x33B7, "mv"), (0x33B8, "kv"), (0x33B9, "mv"),
    (0x33BA, "pw"), (0x33BB, "nw"), (0x33BC, "μw"), (0x33BD, "mw"), (0x33BE, "kw"),
    (0x33BF, "mw"), (0x33C0, "kω"), (0x33C1, "mω"), (0x33C3, "bq"), (0x33C4, "cc"),
    (0x33C5, "cd"), (0x33C6, "c∕kg"), (0x33C8, "db"), (0x33C9, "gy"), (0x33CA, "ha"),
    (0x33CB, "hp"), (0x33CC, "in"), (0x33CD, "kk"), (0x33CE, "km"), (0x33CF, "kt"),
    (0x33D0, "lm"), (0x33D1, "ln"), (0x33D2, "log"), (0x33D3, "lx"), (0x33D4, "mb"),
    (0x33D5, "mil"), (0x33D6, "mol"), (0x33D7, "ph"), (0x33D9, "ppm"), (0x33DA, "pr"),
    (0x33DB, "sr"), (0x33DC, "sv"), (0x33DD, "wb"), (0x33DE, "v∕m"), (0x33DF, "a∕m"),
    (0x33E0, "1日"), (0x33E1, "2日"), (0x33E2, "3日"), (0x33E3, "4日"), (0x33E4, "5日"),
    (0x33E5, "6日"), (0x33E6, "7日"), (0x33E7, "8日"), (0x33E8, "9日"), (0x33E9, "10日"),
    (0x33EA, "11日"), (0x33EB, "12日"), (0x33EC, "13日"), (0x33ED, "14日"), (0x33EE, "15日"),
    (0x33EF, "16日"), (0x33F0, "17日"), (0x33F1, "18日"), (0x33F2, "19日"), (0x33F3, "20日"),
    (0x33F4, "21日"), (0x33F5, "22日"), (0x33F6, "23日"), (0x33F7, "24日"), (0x33F8, "25日"),
    (0x33F9, "26日"), (0x33FA, "27日"), (0x33FB, "28日"), (0x33FC, "29日"), (0x33FD, "30日"),
    (0x33FE, "31日"), (0x33FF, "gal"), (0xA69C, "ъ"), (0xA69D, "ь"), (0xA770, "ꝯ"), (0xA779, "ꝺ"),
    (0xA77B, "ꝼ"), (0xA77D, "ᵹ"), (0xA78B, "ꞌ"), (0xA78D, "ɥ"), (0xA790, "ꞑ"), (0xA792, "ꞓ"),
    (0xA7AA, "ɦ"), (0xA7AB, "ɜ"), (0xA7AC, "ɡ"), (0xA7AD, "ɬ"), (0xA7AE, "ɪ"), (0xA7B0, "ʞ"),
    (0xA7B1, "ʇ"), (0xA7B2, "ʝ"), (0xA7B3, "ꭓ"), (0xA7C4, "ꞔ"), (0xA7C5, "ʂ"), (0xA7C6, "ᶎ"),
    (0xA7C7, "ꟈ"), (0xA7C9, "ꟊ"), (0xA7CB, "ɤ"), (0xA7DC, "ƛ"), (0xA7F1, "s"), (0xA7F2, "c"),
    (0xA7F3, "f"), (0xA7F4, "q"), (0xA7F5, "ꟶ"), (0xA7F8, "ħ"), (0xA7F9, "œ"), (0xAB5C, "ꜧ"),
    (0xAB5D, "ꬷ"), (0xAB5E, "ɫ"), (0xAB5F, "ꭒ"), (0xAB69, "ʍ"), (0xF900, "豈"), (0xF901, "更"),
    (0xF902, "車"), (0xF903, "賈"), (0xF904, "滑"), (0xF905, "串"), (0xF906, "句"), (0xF907, "龜"),
    (0xF908, "龜"), (0xF909, "契"), (0xF90A, "金"), (0xF90B, "喇"), (0xF90C, "奈"), (0xF90D, "懶"),
    (0xF90E, "癩"), (0xF90F, "羅"), (0xF910, "蘿"), (0xF911, "螺"), (0xF912, "裸"), (0xF913, "邏"),
    (0xF914, "樂"), (0xF915, "洛"), (0xF916, "烙"), (0xF917, "珞"), (0xF918, "落"), (0xF919, "酪"),
    (0xF91A, "駱"), (0xF91B, "亂"), (0xF91C, "卵"), (0xF91D, "欄"), (0xF91E, "爛"), (0xF91F, "蘭"),
    (0xF920, "鸞"), (0xF921, "嵐"), (0xF922, "濫"), (0xF923, "藍"), (0xF924, "襤"), (0xF925, "拉"),
    (0xF926, "臘"), (0xF927, "蠟"), (0xF928, "廊"), (0xF929, "朗"), (0xF92A, "浪"), (0xF92B, "狼"),
    (0xF92C, "郎"), (0xF92D, "來"), (0xF92E, "冷"), (0xF92F, "勞"), (0xF930, "擄"), (0xF931, "櫓"),
    (0xF932, "爐"), (0xF933, "盧"), (0xF934, "老"), (0xF935, "蘆"), (0xF936, "虜"), (0xF937, "路"),
    (0xF938, "露"), (0xF939, "魯"), (0xF93A, "鷺"), (0xF93B, "碌"), (0xF93C, "祿"), (0xF93D, "綠"),
    (0xF93E, "菉"), (0xF93F, "錄"), (0xF940, "鹿"), (0xF941, "論"), (0xF942, "壟"), (0xF943, "弄"),
    (0xF944, "籠"), (0xF945, "聾"), (0xF946, "牢"), (0xF947, "磊"), (0xF948, "賂"), (0xF949, "雷"),
    (0xF94A, "壘"), (0xF94B, "屢"), (0xF94C, "樓"), (0xF94D, "淚"), (0xF94E, "漏"), (0xF94F, "累"),
    (0xF950, "縷"), (0xF951, "陋"), (0xF952, "勒"), (0xF953, "肋"), (0xF954, "凜"), (0xF955, "凌"),
    (0xF956, "稜"), (0xF957, "綾"), (0xF958, "菱"), (0xF959, "陵"), (0xF95A, "讀"), (0xF95B, "拏"),
    (0xF95C, "樂"), (0xF95D, "諾"), (0xF95E, "丹"), (0xF95F, "寧"), (0xF960, "怒"), (0xF961, "率"),
    (0xF962, "異"), (0xF963, "北"), (0xF964, "磻"), (0xF965, "便"), (0xF966, "復"), (0xF967, "不"),
    (0xF968, "泌"), (0xF969, "數"), (0xF96A, "索"), (0xF96B, "參"), (0xF96C, "塞"), (0xF96D, "省"),
    (0xF96E, "葉"), (0xF96F, "說"), (0xF970, "殺"), (0xF971, "辰"), (0xF972, "沈"), (0xF973, "拾"),
    (0xF974, "若"), (0xF975, "掠"), (0xF976, "略"), (0xF977, "亮"), (0xF978, "兩"), (0xF979, "凉"),
    (0xF97A, "梁"), (0xF97B, "糧"), (0xF97C, "良"), (0xF97D, "諒"), (0xF97E, "量"), (0xF97F, "勵"),
    (0xF980, "呂"), (0xF981, "女"), (0xF982, "廬"), (0xF983, "旅"), (0xF984, "濾"), (0xF985, "礪"),
    (0xF986, "閭"), (0xF987, "驪"), (0xF988, "麗"), (0xF989, "黎"), (0xF98A, "力"), (0xF98B, "曆"),
    (0xF98C, "歷"), (0xF98D, "轢"), (0xF98E, "年"), (0xF98F, "憐"), (0xF990, "戀"), (0xF991, "撚"),
    (0xF992, "漣"), (0xF993, "煉"), (0xF994, "璉")]

private def mappedUF995ToUFAA6 : List (Nat × String) :=
  [(0xF995, "秊"), (0xF996, "練"), (0xF997, "聯"), (0xF998, "輦"), (0xF999, "蓮"), (0xF99A, "連"),
    (0xF99B, "鍊"), (0xF99C, "列"), (0xF99D, "劣"), (0xF99E, "咽"), (0xF99F, "烈"), (0xF9A0, "裂"),
    (0xF9A1, "說"), (0xF9A2, "廉"), (0xF9A3, "念"), (0xF9A4, "捻"), (0xF9A5, "殮"), (0xF9A6, "簾"),
    (0xF9A7, "獵"), (0xF9A8, "令"), (0xF9A9, "囹"), (0xF9AA, "寧"), (0xF9AB, "嶺"), (0xF9AC, "怜"),
    (0xF9AD, "玲"), (0xF9AE, "瑩"), (0xF9AF, "羚"), (0xF9B0, "聆"), (0xF9B1, "鈴"), (0xF9B2, "零"),
    (0xF9B3, "靈"), (0xF9B4, "領"), (0xF9B5, "例"), (0xF9B6, "禮"), (0xF9B7, "醴"), (0xF9B8, "隸"),
    (0xF9B9, "惡"), (0xF9BA, "了"), (0xF9BB, "僚"), (0xF9BC, "寮"), (0xF9BD, "尿"), (0xF9BE, "料"),
    (0xF9BF, "樂"), (0xF9C0, "燎"), (0xF9C1, "療"), (0xF9C2, "蓼"), (0xF9C3, "遼"), (0xF9C4, "龍"),
    (0xF9C5, "暈"), (0xF9C6, "阮"), (0xF9C7, "劉"), (0xF9C8, "杻"), (0xF9C9, "柳"), (0xF9CA, "流"),
    (0xF9CB, "溜"), (0xF9CC, "琉"), (0xF9CD, "留"), (0xF9CE, "硫"), (0xF9CF, "紐"), (0xF9D0, "類"),
    (0xF9D1, "六"), (0xF9D2, "戮"), (0xF9D3, "陸"), (0xF9D4, "倫"), (0xF9D5, "崙"), (0xF9D6, "淪"),
    (0xF9D7, "輪"), (0xF9D8, "律"), (0xF9D9, "慄"), (0xF9DA, "栗"), (0xF9DB, "率"), (0xF9DC, "隆"),
    (0xF9DD, "利"), (0xF9DE, "吏"), (0xF9DF, "履"), (0xF9E0, "易"), (0xF9E1, "李"), (0xF9E2, "梨"),
    (0xF9E3, "泥"), (0xF9E4, "理"), (0xF9E5, "痢"), (0xF9E6, "罹"), (0xF9E7, "裏"), (0xF9E8, "裡"),
    (0xF9E9, "里"), (0xF9EA, "離"), (0xF9EB, "匿"), (0xF9EC, "溺"), (0xF9ED, "吝"), (0xF9EE, "燐"),
    (0xF9EF, "璘"), (0xF9F0, "藺"), (0xF9F1, "隣"), (0xF9F2, "鱗"), (0xF9F3, "麟"), (0xF9F4, "林"),
    (0xF9F5, "淋"), (0xF9F6, "臨"), (0xF9F7, "立"), (0xF9F8, "笠"), (0xF9F9, "粒"), (0xF9FA, "狀"),
    (0xF9FB, "炙"), (0xF9FC, "識"), (0xF9FD, "什"), (0xF9FE, "茶"), (0xF9FF, "刺"), (0xFA00, "切"),
    (0xFA01, "度"), (0xFA02, "拓"), (0xFA03, "糖"), (0xFA04, "宅"), (0xFA05, "洞"), (0xFA06, "暴"),
    (0xFA07, "輻"), (0xFA08, "行"), (0xFA09, "降"), (0xFA0A, "見"), (0xFA0B, "廓"), (0xFA0C, "兀"),
    (0xFA0D, "嗀"), (0xFA10, "塚"), (0xFA12, "晴"), (0xFA15, "凞"), (0xFA16, "猪"), (0xFA17, "益"),
    (0xFA18, "礼"), (0xFA19, "神"), (0xFA1A, "祥"), (0xFA1B, "福"), (0xFA1C, "靖"), (0xFA1D, "精"),
    (0xFA1E, "羽"), (0xFA20, "蘒"), (0xFA22, "諸"), (0xFA25, "逸"), (0xFA26, "都"), (0xFA2A, "飯"),
    (0xFA2B, "飼"), (0xFA2C, "館"), (0xFA2D, "鶴"), (0xFA2E, "郞"), (0xFA2F, "隷"), (0xFA30, "侮"),
    (0xFA31, "僧"), (0xFA32, "免"), (0xFA33, "勉"), (0xFA34, "勤"), (0xFA35, "卑"), (0xFA36, "喝"),
    (0xFA37, "嘆"), (0xFA38, "器"), (0xFA39, "塀"), (0xFA3A, "墨"), (0xFA3B, "層"), (0xFA3C, "屮"),
    (0xFA3D, "悔"), (0xFA3E, "慨"), (0xFA3F, "憎"), (0xFA40, "懲"), (0xFA41, "敏"), (0xFA42, "既"),
    (0xFA43, "暑"), (0xFA44, "梅"), (0xFA45, "海"), (0xFA46, "渚"), (0xFA47, "漢"), (0xFA48, "煮"),
    (0xFA49, "爫"), (0xFA4A, "琢"), (0xFA4B, "碑"), (0xFA4C, "社"), (0xFA4D, "祉"), (0xFA4E, "祈"),
    (0xFA4F, "祐"), (0xFA50, "祖"), (0xFA51, "祝"), (0xFA52, "禍"), (0xFA53, "禎"), (0xFA54, "穀"),
    (0xFA55, "突"), (0xFA56, "節"), (0xFA57, "練"), (0xFA58, "縉"), (0xFA59, "繁"), (0xFA5A, "署"),
    (0xFA5B, "者"), (0xFA5C, "臭"), (0xFA5D, "艹"), (0xFA5E, "艹"), (0xFA5F, "著"), (0xFA60, "褐"),
    (0xFA61, "視"), (0xFA62, "謁"), (0xFA63, "謹"), (0xFA64, "賓"), (0xFA65, "贈"), (0xFA66, "辶"),
    (0xFA67, "逸"), (0xFA68, "難"), (0xFA69, "響"), (0xFA6A, "頻"), (0xFA6B, "恵"), (0xFA6C, "𤋮"),
    (0xFA6D, "舘"), (0xFA70, "並"), (0xFA71, "况"), (0xFA72, "全"), (0xFA73, "侀"), (0xFA74, "充"),
    (0xFA75, "冀"), (0xFA76, "勇"), (0xFA77, "勺"), (0xFA78, "喝"), (0xFA79, "啕"), (0xFA7A, "喙"),
    (0xFA7B, "嗢"), (0xFA7C, "塚"), (0xFA7D, "墳"), (0xFA7E, "奄"), (0xFA7F, "奔"), (0xFA80, "婢"),
    (0xFA81, "嬨"), (0xFA82, "廒"), (0xFA83, "廙"), (0xFA84, "彩"), (0xFA85, "徭"), (0xFA86, "惘"),
    (0xFA87, "慎"), (0xFA88, "愈"), (0xFA89, "憎"), (0xFA8A, "慠"), (0xFA8B, "懲"), (0xFA8C, "戴"),
    (0xFA8D, "揄"), (0xFA8E, "搜"), (0xFA8F, "摒"), (0xFA90, "敖"), (0xFA91, "晴"), (0xFA92, "朗"),
    (0xFA93, "望"), (0xFA94, "杖"), (0xFA95, "歹"), (0xFA96, "殺"), (0xFA97, "流"), (0xFA98, "滛"),
    (0xFA99, "滋"), (0xFA9A, "漢"), (0xFA9B, "瀞"), (0xFA9C, "煮"), (0xFA9D, "瞧"), (0xFA9E, "爵"),
    (0xFA9F, "犯"), (0xFAA0, "猪"), (0xFAA1, "瑱"), (0xFAA2, "甆"), (0xFAA3, "画"), (0xFAA4, "瘝"),
    (0xFAA5, "瘟"), (0xFAA6, "益")]

private def mappedUFAA7ToUFC0B : List (Nat × String) :=
  [(0xFAA7, "盛"), (0xFAA8, "直"), (0xFAA9, "睊"), (0xFAAA, "着"), (0xFAAB, "磌"), (0xFAAC, "窱"),
    (0xFAAD, "節"), (0xFAAE, "类"), (0xFAAF, "絛"), (0xFAB0, "練"), (0xFAB1, "缾"), (0xFAB2, "者"),
    (0xFAB3, "荒"), (0xFAB4, "華"), (0xFAB5, "蝹"), (0xFAB6, "襁"), (0xFAB7, "覆"), (0xFAB8, "視"),
    (0xFAB9, "調"), (0xFABA, "諸"), (0xFABB, "請"), (0xFABC, "謁"), (0xFABD, "諾"), (0xFABE, "諭"),
    (0xFABF, "謹"), (0xFAC0, "變"), (0xFAC1, "贈"), (0xFAC2, "輸"), (0xFAC3, "遲"), (0xFAC4, "醙"),
    (0xFAC5, "鉶"), (0xFAC6, "陼"), (0xFAC7, "難"), (0xFAC8, "靖"), (0xFAC9, "韛"), (0xFACA, "響"),
    (0xFACB, "頋"), (0xFACC, "頻"), (0xFACD, "鬒"), (0xFACE, "龜"), (0xFACF, "𢡊"), (0xFAD0, "𢡄"),
    (0xFAD1, "𣏕"), (0xFAD2, "㮝"), (0xFAD3, "䀘"), (0xFAD4, "䀹"), (0xFAD5, "𥉉"), (0xFAD6, "𥳐"),
    (0xFAD7, "𧻓"), (0xFAD8, "齃"), (0xFAD9, "龎"), (0xFB00, "ff"), (0xFB01, "fi"), (0xFB02, "fl"),
    (0xFB03, "ffi"), (0xFB04, "ffl"), (0xFB05, "st"), (0xFB06, "st"), (0xFB13, "մն"),
    (0xFB14, "մե"), (0xFB15, "մի"), (0xFB16, "վն"), (0xFB17, "մխ"), (0xFB1D, "\u05d9\u05b4"),
    (0xFB1F, "\u05f2\u05b7"), (0xFB20, "\u05e2"), (0xFB21, "\u05d0"), (0xFB22, "\u05d3"),
    (0xFB23, "\u05d4"), (0xFB27, "\u05e8"), (0xFB28, "\u05ea"), (0xFB29, "+"),
    (0xFB2A, "\u05e9\u05c1"), (0xFB2B, "\u05e9\u05c2"), (0xFB2C, "\u05e9\u05bc\u05c1"),
    (0xFB2D, "\u05e9\u05bc\u05c2"), (0xFB2E, "\u05d0\u05b7"), (0xFB2F, "\u05d0\u05b8"),
    (0xFB30, "\u05d0\u05bc"), (0xFB31, "\u05d1\u05bc"), (0xFB32, "\u05d2\u05bc"),
    (0xFB33, "\u05d3\u05bc"), (0xFB34, "\u05d4\u05bc"), (0xFB35, "\u05d5\u05bc"),
    (0xFB36, "\u05d6\u05bc"), (0xFB38, "\u05d8\u05bc"), (0xFB39, "\u05d9\u05bc"),
    (0xFB3A, "\u05da\u05bc"), (0xFB3B, "\u05db\u05bc"), (0xFB3C, "\u05dc\u05bc"),
    (0xFB3E, "\u05de\u05bc"), (0xFB40, "\u05e0\u05bc"), (0xFB41, "\u05e1\u05bc"),
    (0xFB43, "\u05e3\u05bc"), (0xFB44, "\u05e4\u05bc"), (0xFB46, "\u05e6\u05bc"),
    (0xFB47, "\u05e7\u05bc"), (0xFB48, "\u05e8\u05bc"), (0xFB49, "\u05e9\u05bc"),
    (0xFB4A, "\u05ea\u05bc"), (0xFB4B, "\u05d5\u05b9"), (0xFB4C, "\u05d1\u05bf"),
    (0xFB4D, "\u05db\u05bf"), (0xFB4E, "\u05e4\u05bf"), (0xFB4F, "\u05d0\u05dc"),
    (0xFB50, "\u0671"), (0xFB51, "\u0671"), (0xFB52, "\u067b"), (0xFB53, "\u067b"),
    (0xFB54, "\u067b"), (0xFB55, "\u067b"), (0xFB56, "\u067e"), (0xFB57, "\u067e"),
    (0xFB58, "\u067e"), (0xFB59, "\u067e"), (0xFB5A, "\u0680"), (0xFB5B, "\u0680"),
    (0xFB5C, "\u0680"), (0xFB5D, "\u0680"), (0xFB5E, "\u067a"), (0xFB5F, "\u067a"),
    (0xFB60, "\u067a"), (0xFB61, "\u067a"), (0xFB62, "\u067f"), (0xFB63, "\u067f"),
    (0xFB64, "\u067f"), (0xFB65, "\u067f"), (0xFB66, "\u0679"), (0xFB67, "\u0679"),
    (0xFB68, "\u0679"), (0xFB69, "\u0679"), (0xFB6A, "\u06a4"), (0xFB6B, "\u06a4"),
    (0xFB6C, "\u06a4"), (0xFB6D, "\u06a4"), (0xFB6E, "\u06a6"), (0xFB6F, "\u06a6"),
    (0xFB70, "\u06a6"), (0xFB71, "\u06a6"), (0xFB72, "\u0684"), (0xFB73, "\u0684"),
    (0xFB74, "\u0684"), (0xFB75, "\u0684"), (0xFB76, "\u0683"), (0xFB77, "\u0683"),
    (0xFB78, "\u0683"), (0xFB79, "\u0683"), (0xFB7A, "\u0686"), (0xFB7B, "\u0686"),
    (0xFB7C, "\u0686"), (0xFB7D, "\u0686"), (0xFB7E, "\u0687"), (0xFB7F, "\u0687"),
    (0xFB80, "\u0687"), (0xFB81, "\u0687"), (0xFB82, "\u068d"), (0xFB83, "\u068d"),
    (0xFB84, "\u068c"), (0xFB85, "\u068c"), (0xFB86, "\u068e"), (0xFB87, "\u068e"),
    (0xFB88, "\u0688"), (0xFB89, "\u0688"), (0xFB8A, "\u0698"), (0xFB8B, "\u0698"),
    (0xFB8C, "\u0691"), (0xFB8D, "\u0691"), (0xFB8E, "\u06a9"), (0xFB8F, "\u06a9"),
    (0xFB90, "\u06a9"), (0xFB91, "\u06a9"), (0xFB92, "\u06af"), (0xFB93, "\u06af"),
    (0xFB94, "\u06af"), (0xFB95, "\u06af"), (0xFB96, "\u06b3"), (0xFB97, "\u06b3"),
    (0xFB98, "\u06b3"), (0xFB99, "\u06b3"), (0xFB9A, "\u06b1"), (0xFB9B, "\u06b1"),
    (0xFB9C, "\u06b1"), (0xFB9D, "\u06b1"), (0xFB9E, "\u06ba"), (0xFB9F, "\u06ba"),
    (0xFBA0, "\u06bb"), (0xFBA1, "\u06bb"), (0xFBA2, "\u06bb"), (0xFBA3, "\u06bb"),
    (0xFBA4, "\u06c0"), (0xFBA5, "\u06c0"), (0xFBA6, "\u06c1"), (0xFBA7, "\u06c1"),
    (0xFBA8, "\u06c1"), (0xFBA9, "\u06c1"), (0xFBAA, "\u06be"), (0xFBAB, "\u06be"),
    (0xFBAC, "\u06be"), (0xFBAD, "\u06be"), (0xFBAE, "\u06d2"), (0xFBAF, "\u06d2"),
    (0xFBB0, "\u06d3"), (0xFBB1, "\u06d3"), (0xFBD3, "\u06ad"), (0xFBD4, "\u06ad"),
    (0xFBD5, "\u06ad"), (0xFBD6, "\u06ad"), (0xFBD7, "\u06c7"), (0xFBD8, "\u06c7"),
    (0xFBD9, "\u06c6"), (0xFBDA, "\u06c6"), (0xFBDB, "\u06c8"), (0xFBDC, "\u06c8"),
    (0xFBDD, "\u06c7\u0674"), (0xFBDE, "\u06cb"), (0xFBDF, "\u06cb"), (0xFBE0, "\u06c5"),
    (0xFBE1, "\u06c5"), (0xFBE2, "\u06c9"), (0xFBE3, "\u06c9"), (0xFBE4, "\u06d0"),
    (0xFBE5, "\u06d0"), (0xFBE6, "\u06d0"), (0xFBE7, "\u06d0"), (0xFBE8, "\u0649"),
    (0xFBE9, "\u0649"), (0xFBEA, "\u0626\u0627"), (0xFBEB, "\u0626\u0627"),
    (0xFBEC, "\u0626\u06d5"), (0xFBED, "\u0626\u06d5"), (0xFBEE, "\u0626\u0648"),
    (0xFBEF, "\u0626\u0648"), (0xFBF0, "\u0626\u06c7"), (0xFBF1, "\u0626\u06c7"),
    (0xFBF2, "\u0626\u06c6"), (0xFBF3, "\u0626\u06c6"), (0xFBF4, "\u0626\u06c8"),
    (0xFBF5, "\u0626\u06c8"), (0xFBF6, "\u0626\u06d0"), (0xFBF7, "\u0626\u06d0"),
    (0xFBF8, "\u0626\u06d0"), (0xFBF9, "\u0626\u0649"), (0xFBFA, "\u0626\u0649"),
    (0xFBFB, "\u0626\u0649"), (0xFBFC, "\u06cc"), (0xFBFD, "\u06cc"), (0xFBFE, "\u06cc"),
    (0xFBFF, "\u06cc"), (0xFC00, "\u0626\u062c"), (0xFC01, "\u0626\u062d"),
    (0xFC02, "\u0626\u0645"), (0xFC03, "\u0626\u0649"), (0xFC04, "\u0626\u064a"),
    (0xFC05, "\u0628\u062c"), (0xFC06, "\u0628\u062d"), (0xFC07, "\u0628\u062e"),
    (0xFC08, "\u0628\u0645"), (0xFC09, "\u0628\u0649"), (0xFC0A, "\u0628\u064a"),
    (0xFC0B, "\u062a\u062c")]

private def mappedUFC0CToUFD0F : List (Nat × String) :=
  [(0xFC0C, "\u062a\u062d"), (0xFC0D, "\u062a\u062e"), (0xFC0E, "\u062a\u0645"),
    (0xFC0F, "\u062a\u0649"), (0xFC10, "\u062a\u064a"), (0xFC11, "\u062b\u062c"),
    (0xFC12, "\u062b\u0645"), (0xFC13, "\u062b\u0649"), (0xFC14, "\u062b\u064a"),
    (0xFC15, "\u062c\u062d"), (0xFC16, "\u062c\u0645"), (0xFC17, "\u062d\u062c"),
    (0xFC18, "\u062d\u0645"), (0xFC19, "\u062e\u062c"), (0xFC1A, "\u062e\u062d"),
    (0xFC1B, "\u062e\u0645"), (0xFC1C, "\u0633\u062c"), (0xFC1D, "\u0633\u062d"),
    (0xFC1E, "\u0633\u062e"), (0xFC1F, "\u0633\u0645"), (0xFC20, "\u0635\u062d"),
    (0xFC21, "\u0635\u0645"), (0xFC22, "\u0636\u062c"), (0xFC23, "\u0636\u062d"),
    (0xFC24, "\u0636\u062e"), (0xFC25, "\u0636\u0645"), (0xFC26, "\u0637\u062d"),
    (0xFC27, "\u0637\u0645"), (0xFC28, "\u0638\u0645"), (0xFC29, "\u0639\u062c"),
    (0xFC2A, "\u0639\u0645"), (0xFC2B, "\u063a\u062c"), (0xFC2C, "\u063a\u0645"),
    (0xFC2D, "\u0641\u062c"), (0xFC2E, "\u0641\u062d"), (0xFC2F, "\u0641\u062e"),
    (0xFC30, "\u0641\u0645"), (0xFC31, "\u0641\u0649"), (0xFC32, "\u0641\u064a"),
    (0xFC33, "\u0642\u062d"), (0xFC34, "\u0642\u0645"), (0xFC35, "\u0642\u0649"),
    (0xFC36, "\u0642\u064a"), (0xFC37, "\u0643\u0627"), (0xFC38, "\u0643\u062c"),
    (0xFC39, "\u0643\u062d"), (0xFC3A, "\u0643\u062e"), (0xFC3B, "\u0643\u0644"),
    (0xFC3C, "\u0643\u0645"), (0xFC3D, "\u0643\u0649"), (0xFC3E, "\u0643\u064a"),
    (0xFC3F, "\u0644\u062c"), (0xFC40, "\u0644\u062d"), (0xFC41, "\u0644\u062e"),
    (0xFC42, "\u0644\u0645"), (0xFC43, "\u0644\u0649"), (0xFC44, "\u0644\u064a"),
    (0xFC45, "\u0645\u062c"), (0xFC46, "\u0645\u062d"), (0xFC47, "\u0645\u062e"),
    (0xFC48, "\u0645\u0645"), (0xFC49, "\u0645\u0649"), (0xFC4A, "\u0645\u064a"),
    (0xFC4B, "\u0646\u062c"), (0xFC4C, "\u0646\u062d"), (0xFC4D, "\u0646\u062e"),
    (0xFC4E, "\u0646\u0645"), (0xFC4F, "\u0646\u0649"), (0xFC50, "\u0646\u064a"),
    (0xFC51, "\u0647\u062c"), (0xFC52, "\u0647\u0645"), (0xFC53, "\u0647\u0649"),
    (0xFC54, "\u0647\u064a"), (0xFC55, "\u064a\u062c"), (0xFC56, "\u064a\u062d"),
    (0xFC57, "\u064a\u062e"), (0xFC58, "\u064a\u0645"), (0xFC59, "\u064a\u0649"),
    (0xFC5A, "\u064a\u064a"), (0xFC5B, "\u0630\u0670"), (0xFC5C, "\u0631\u0670"),
    (0xFC5D, "\u0649\u0670"), (0xFC5E, " \u064c\u0651"), (0xFC5F, " \u064d\u0651"),
    (0xFC60, " \u064e\u0651"), (0xFC61, " \u064f\u0651"), (0xFC62, " \u0650\u0651"),
    (0xFC63, " \u0651\u0670"), (0xFC64, "\u0626\u0631"), (0xFC65, "\u0626\u0632"),
    (0xFC66, "\u0626\u0645"), (0xFC67, "\u0626\u0646"), (0xFC68, "\u0626\u0649"),
    (0xFC69, "\u0626\u064a"), (0xFC6A, "\u0628\u0631"), (0xFC6B, "\u0628\u0632"),
    (0xFC6C, "\u0628\u0645"), (0xFC6D, "\u0628\u0646"), (0xFC6E, "\u0628\u0649"),
    (0xFC6F, "\u0628\u064a"), (0xFC70, "\u062a\u0631"), (0xFC71, "\u062a\u0632"),
    (0xFC72, "\u062a\u0645"), (0xFC73, "\u062a\u0646"), (0xFC74, "\u062a\u0649"),
    (0xFC75, "\u062a\u064a"), (0xFC76, "\u062b\u0631"), (0xFC77, "\u062b\u0632"),
    (0xFC78, "\u062b\u0645"), (0xFC79, "\u062b\u0646"), (0xFC7A, "\u062b\u0649"),
    (0xFC7B, "\u062b\u064a"), (0xFC7C, "\u0641\u0649"), (0xFC7D, "\u0641\u064a"),
    (0xFC7E, "\u0642\u0649"), (0xFC7F, "\u0642\u064a"), (0xFC80, "\u0643\u0627"),
    (0xFC81, "\u0643\u0644"), (0xFC82, "\u0643\u0645"), (0xFC83, "\u0643\u0649"),
    (0xFC84, "\u0643\u064a"), (0xFC85, "\u0644\u0645"), (0xFC86, "\u0644\u0649"),
    (0xFC87, "\u0644\u064a"), (0xFC88, "\u0645\u0627"), (0xFC89, "\u0645\u0645"),
    (0xFC8A, "\u0646\u0631"), (0xFC8B, "\u0646\u0632"), (0xFC8C, "\u0646\u0645"),
    (0xFC8D, "\u0646\u0646"), (0xFC8E, "\u0646\u0649"), (0xFC8F, "\u0646\u064a"),
    (0xFC90, "\u0649\u0670"), (0xFC91, "\u064a\u0631"), (0xFC92, "\u064a\u0632"),
    (0xFC93, "\u064a\u0645"), (0xFC94, "\u064a\u0646"), (0xFC95, "\u064a\u0649"),
    (0xFC96, "\u064a\u064a"), (0xFC97, "\u0626\u062c"), (0xFC98, "\u0626\u062d"),
    (0xFC99, "\u0626\u062e"), (0xFC9A, "\u0626\u0645"), (0xFC9B, "\u0626\u0647"),
    (0xFC9C, "\u0628\u062c"), (0xFC9D, "\u0628\u062d"), (0xFC9E, "\u0628\u062e"),
    (0xFC9F, "\u0628\u0645"), (0xFCA0, "\u0628\u0647"), (0xFCA1, "\u062a\u062c"),
    (0xFCA2, "\u062a\u062d"), (0xFCA3, "\u062a\u062e"), (0xFCA4, "\u062a\u0645"),
    (0xFCA5, "\u062a\u0647"), (0xFCA6, "\u062b\u0645"), (0xFCA7, "\u062c\u062d"),
    (0xFCA8, "\u062c\u0645"), (0xFCA9, "\u062d\u062c"), (0xFCAA, "\u062d\u0645"),
    (0xFCAB, "\u062e\u062c"), (0xFCAC, "\u062e\u0645"), (0xFCAD, "\u0633\u062c"),
    (0xFCAE, "\u0633\u062d"), (0xFCAF, "\u0633\u062e"), (0xFCB0, "\u0633\u0645"),
    (0xFCB1, "\u0635\u062d"), (0xFCB2, "\u0635\u062e"), (0xFCB3, "\u0635\u0645"),
    (0xFCB4, "\u0636\u062c"), (0xFCB5, "\u0636\u062d"), (0xFCB6, "\u0636\u062e"),
    (0xFCB7, "\u0636\u0645"), (0xFCB8, "\u0637\u062d"), (0xFCB9, "\u0638\u0645"),
    (0xFCBA, "\u0639\u062c"), (0xFCBB, "\u0639\u0645"), (0xFCBC, "\u063a\u062c"),
    (0xFCBD, "\u063a\u0645"), (0xFCBE, "\u0641\u062c"), (0xFCBF, "\u0641\u062d"),
    (0xFCC0, "\u0641\u062e"), (0xFCC1, "\u0641\u0645"), (0xFCC2, "\u0642\u062d"),
    (0xFCC3, "\u0642\u0645"), (0xFCC4, "\u0643\u062c"), (0xFCC5, "\u0643\u062d"),
    (0xFCC6, "\u0643\u062e"), (0xFCC7, "\u0643\u0644"), (0xFCC8, "\u0643\u0645"),
    (0xFCC9, "\u0644\u062c"), (0xFCCA, "\u0644\u062d"), (0xFCCB, "\u0644\u062e"),
    (0xFCCC, "\u0644\u0645"), (0xFCCD, "\u0644\u0647"), (0xFCCE, "\u0645\u062c"),
    (0xFCCF, "\u0645\u062d"), (0xFCD0, "\u0645\u062e"), (0xFCD1, "\u0645\u0645"),
    (0xFCD2, "\u0646\u062c"), (0xFCD3, "\u0646\u062d"), (0xFCD4, "\u0646\u062e"),
    (0xFCD5, "\u0646\u0645"), (0xFCD6, "\u0646\u0647"), (0xFCD7, "\u0647\u062c"),
    (0xFCD8, "\u0647\u0645"), (0xFCD9, "\u0647\u0670"), (0xFCDA, "\u064a\u062c"),
    (0xFCDB, "\u064a\u062d"), (0xFCDC, "\u064a\u062e"), (0xFCDD, "\u064a\u0645"),
    (0xFCDE, "\u064a\u0647"), (0xFCDF, "\u0626\u0645"), (0xFCE0, "\u0626\u0647"),
    (0xFCE1, "\u0628\u0645"), (0xFCE2, "\u0628\u0647"), (0xFCE3, "\u062a\u0645"),
    (0xFCE4, "\u062a\u0647"), (0xFCE5, "\u062b\u0645"), (0xFCE6, "\u062b\u0647"),
    (0xFCE7, "\u0633\u0645"), (0xFCE8, "\u0633\u0647"), (0xFCE9, "\u0634\u0645"),
    (0xFCEA, "\u0634\u0647"), (0xFCEB, "\u0643\u0644"), (0xFCEC, "\u0643\u0645"),
    (0xFCED, "\u0644\u0645"), (0xFCEE, "\u0646\u0645"), (0xFCEF, "\u0646\u0647"),
    (0xFCF0, "\u064a\u0645"), (0xFCF1, "\u064a\u0647"), (0xFCF2, "\u0640\u064e\u0651"),
    (0xFCF3, "\u0640\u064f\u0651"), (0xFCF4, "\u0640\u0650\u0651"), (0xFCF5, "\u0637\u0649"),
    (0xFCF6, "\u0637\u064a"), (0xFCF7, "\u0639\u0649"), (0xFCF8, "\u0639\u064a"),
    (0xFCF9, "\u063a\u0649"), (0xFCFA, "\u063a\u064a"), (0xFCFB, "\u0633\u0649"),
    (0xFCFC, "\u0633\u064a"), (0xFCFD, "\u0634\u0649"), (0xFCFE, "\u0634\u064a"),
    (0xFCFF, "\u062d\u0649"), (0xFD00, "\u062d\u064a"), (0xFD01, "\u062c\u0649"),
    (0xFD02, "\u062c\u064a"), (0xFD03, "\u062e\u0649"), (0xFD04, "\u062e\u064a"),
    (0xFD05, "\u0635\u0649"), (0xFD06, "\u0635\u064a"), (0xFD07, "\u0636\u0649"),
    (0xFD08, "\u0636\u064a"), (0xFD09, "\u0634\u062c"), (0xFD0A, "\u0634\u062d"),
    (0xFD0B, "\u0634\u062e"), (0xFD0C, "\u0634\u0645"), (0xFD0D, "\u0634\u0631"),
    (0xFD0E, "\u0633\u0631"), (0xFD0F, "\u0635\u0631")]

private def mappedUFD10ToUFE8A : List (Nat × String) :=
  [(0xFD10, "\u0636\u0631"), (0xFD11, "\u0637\u0649"), (0xFD12, "\u0637\u064a"),
    (0xFD13, "\u0639\u0649"), (0xFD14, "\u0639\u064a"), (0xFD15, "\u063a\u0649"),
    (0xFD16, "\u063a\u064a"), (0xFD17, "\u0633\u0649"), (0xFD18, "\u0633\u064a"),
    (0xFD19, "\u0634\u0649"), (0xFD1A, "\u0634\u064a"), (0xFD1B, "\u062d\u0649"),
    (0xFD1C, "\u062d\u064a"), (0xFD1D, "\u062c\u0649"), (0xFD1E, "\u062c\u064a"),
    (0xFD1F, "\u062e\u0649"), (0xFD20, "\u062e\u064a"), (0xFD21, "\u0635\u0649"),
    (0xFD22, "\u0635\u064a"), (0xFD23, "\u0636\u0649"), (0xFD24, "\u0636\u064a"),
    (0xFD25, "\u0634\u062c"), (0xFD26, "\u0634\u062d"), (0xFD27, "\u0634\u062e"),
    (0xFD28, "\u0634\u0645"), (0xFD29, "\u0634\u0631"), (0xFD2A, "\u0633\u0631"),
    (0xFD2B, "\u0635\u0631"), (0xFD2C, "\u0636\u0631"), (0xFD2D, "\u0634\u062c"),
    (0xFD2E, "\u0634\u062d"), (0xFD2F, "\u0634\u062e"), (0xFD30, "\u0634\u0645"),
    (0xFD31, "\u0633\u0647"), (0xFD32, "\u0634\u0647"), (0xFD33, "\u0637\u0645"),
    (0xFD34, "\u0633\u062c"), (0xFD35, "\u0633\u062d"), (0xFD36, "\u0633\u062e"),
    (0xFD37, "\u0634\u062c"), (0xFD38, "\u0634\u062d"), (0xFD39, "\u0634\u062e"),
    (0xFD3A, "\u0637\u0645"), (0xFD3B, "\u0638\u0645"), (0xFD3C, "\u0627\u064b"),
    (0xFD3D, "\u0627\u064b"), (0xFD50, "\u062a\u062c\u0645"), (0xFD51, "\u062a\u062d\u062c"),
    (0xFD52, "\u062a\u062d\u062c"), (0xFD53, "\u062a\u062d\u0645"),
    (0xFD54, "\u062a\u062e\u0645"), (0xFD55, "\u062a\u0645\u062c"),
    (0xFD56, "\u062a\u0645\u062d"), (0xFD57, "\u062a\u0645\u062e"),
    (0xFD58, "\u062c\u0645\u062d"), (0xFD59, "\u062c\u0645\u062d"),
    (0xFD5A, "\u062d\u0645\u064a"), (0xFD5B, "\u062d\u0645\u0649"),
    (0xFD5C, "\u0633\u062d\u062c"), (0xFD5D, "\u0633\u062c\u062d"),
    (0xFD5E, "\u0633\u062c\u0649"), (0xFD5F, "\u0633\u0645\u062d"),
    (0xFD60, "\u0633\u0645\u062d"), (0xFD61, "\u0633\u0645\u062c"),
    (0xFD62, "\u0633\u0645\u0645"), (0xFD63, "\u0633\u0645\u0645"),
    (0xFD64, "\u0635\u062d\u062d"), (0xFD65, "\u0635\u062d\u062d"),
    (0xFD66, "\u0635\u0645\u0645"), (0xFD67, "\u0634\u062d\u0645"),
    (0xFD68, "\u0634\u062d\u0645"), (0xFD69, "\u0634\u062c\u064a"),
    (0xFD6A, "\u0634\u0645\u062e"), (0xFD6B, "\u0634\u0645\u062e"),
    (0xFD6C, "\u0634\u0645\u0645"), (0xFD6D, "\u0634\u0645\u0645"),
    (0xFD6E, "\u0636\u062d\u0649"), (0xFD6F, "\u0636\u062e\u0645"),
    (0xFD70, "\u0636\u062e\u0645"), (0xFD71, "\u0637\u0645\u062d"),
    (0xFD72, "\u0637\u0645\u062d"), (0xFD73, "\u0637\u0645\u0645"),
    (0xFD74, "\u0637\u0645\u064a"), (0xFD75, "\u0639\u062c\u0645"),
    (0xFD76, "\u0639\u0645\u0645"), (0xFD77, "\u0639\u0645\u0645"),
    (0xFD78, "\u0639\u0645\u0649"), (0xFD79, "\u063a\u0645\u0645"),
    (0xFD7A, "\u063a\u0645\u064a"), (0xFD7B, "\u063a\u0645\u0649"),
    (0xFD7C, "\u0641\u062e\u0645"), (0xFD7D, "\u0641\u062e\u0645"),
    (0xFD7E, "\u0642\u0645\u062d"), (0xFD7F, "\u0642\u0645\u0645"),
    (0xFD80, "\u0644\u062d\u0645"), (0xFD81, "\u0644\u062d\u064a"),
    (0xFD82, "\u0644\u062d\u0649"), (0xFD83, "\u0644\u062c\u062c"),
    (0xFD84, "\u0644\u062c\u062c"), (0xFD85, "\u0644\u062e\u0645"),
    (0xFD86, "\u0644\u062e\u0645"), (0xFD87, "\u0644\u0645\u062d"),
    (0xFD88, "\u0644\u0645\u062d"), (0xFD89, "\u0645\u062d\u062c"),
    (0xFD8A, "\u0645\u062d\u0645"), (0xFD8B, "\u0645\u062d\u064a"),
    (0xFD8C, "\u0645\u062c\u062d"), (0xFD8D, "\u0645\u062c\u0645"),
    (0xFD8E, "\u0645\u062e\u062c"), (0xFD8F, "\u0645\u062e\u0645"),
    (0xFD92, "\u0645\u062c\u062e"), (0xFD93, "\u0647\u0645\u062c"),
    (0xFD94, "\u0647\u0645\u0645"), (0xFD95, "\u0646\u062d\u0645"),
    (0xFD96, "\u0646\u062d\u0649"), (0xFD97, "\u0646\u062c\u0645"),
    (0xFD98, "\u0646\u062c\u0645"), (0xFD99, "\u0646\u062c\u0649"),
    (0xFD9A, "\u0646\u0645\u064a"), (0xFD9B, "\u0646\u0645\u0649"),
    (0xFD9C, "\u064a\u0645\u0645"), (0xFD9D, "\u064a\u0645\u0645"),
    (0xFD9E, "\u0628\u062e\u064a"), (0xFD9F, "\u062a\u062c\u064a"),
    (0xFDA0, "\u062a\u062c\u0649"), (0xFDA1, "\u062a\u062e\u064a"),
    (0xFDA2, "\u062a\u062e\u0649"), (0xFDA3, "\u062a\u0645\u064a"),
    (0xFDA4, "\u062a\u0645\u0649"), (0xFDA5, "\u062c\u0645\u064a"),
    (0xFDA6, "\u062c\u062d\u0649"), (0xFDA7, "\u062c\u0645\u0649"),
    (0xFDA8, "\u0633\u062e\u0649"), (0xFDA9, "\u0635\u062d\u064a"),
    (0xFDAA, "\u0634\u062d\u064a"), (0xFDAB, "\u0636\u062d\u064a"),
    (0xFDAC, "\u0644\u062c\u064a"), (0xFDAD, "\u0644\u0645\u064a"),
    (0xFDAE, "\u064a\u062d\u064a"), (0xFDAF, "\u064a\u062c\u064a"),
    (0xFDB0, "\u064a\u0645\u064a"), (0xFDB1, "\u0645\u0645\u064a"),
    (0xFDB2, "\u0642\u0645\u064a"), (0xFDB3, "\u0646\u062d\u064a"),
    (0xFDB4, "\u0642\u0645\u062d"), (0xFDB5, "\u0644\u062d\u0645"),
    (0xFDB6, "\u0639\u0645\u064a"), (0xFDB7, "\u0643\u0645\u064a"),
    (0xFDB8, "\u0646\u062c\u062d"), (0xFDB9, "\u0645\u062e\u064a"),
    (0xFDBA, "\u0644\u062c\u0645"), (0xFDBB, "\u0643\u0645\u0645"),
    (0xFDBC, "\u0644\u062c\u0645"), (0xFDBD, "\u0646\u062c\u062d"),
    (0xFDBE, "\u062c\u062d\u064a"), (0xFDBF, "\u062d\u062c\u064a"),
    (0xFDC0, "\u0645\u062c\u064a"), (0xFDC1, "\u0641\u0645\u064a"),
    (0xFDC2, "\u0628\u062d\u064a"), (0xFDC3, "\u0643\u0645\u0645"),
    (0xFDC4, "\u0639\u062c\u0645"), (0xFDC5, "\u0635\u0645\u0645"),
    (0xFDC6, "\u0633\u062e\u064a"), (0xFDC7, "\u0646\u062c\u064a"),
    (0xFDF0, "\u0635\u0644\u06d2"), (0xFDF1, "\u0642\u0644\u06d2"),
    (0xFDF2, "\u0627\u0644\u0644\u0647"), (0xFDF3, "\u0627\u0643\u0628\u0631"),
    (0xFDF4, "\u0645\u062d\u0645\u062f"), (0xFDF5, "\u0635\u0644\u0639\u0645"),
    (0xFDF6, "\u0631\u0633\u0648\u0644"), (0xFDF7, "\u0639\u0644\u064a\u0647"),
    (0xFDF8, "\u0648\u0633\u0644\u0645"), (0xFDF9, "\u0635\u0644\u0649"),
    (0xFDFA, "\u0635\u0644\u0649 \u0627\u0644\u0644\u0647 \u0639\u0644\u064a\u0647 \u0648\u0633\u0644\u0645"),
    (0xFDFB, "\u062c\u0644 \u062c\u0644\u0627\u0644\u0647"), (0xFDFC, "\u0631\u06cc\u0627\u0644"),
    (0xFE10, ","), (0xFE11, "、"), (0xFE13, ":"), (0xFE14, ";"), (0xFE15, "!"), (0xFE16, "?"),
    (0xFE17, "〖"), (0xFE18, "〗"), (0xFE31, "—"), (0xFE32, "–"), (0xFE33, "_"), (0xFE34, "_"),
    (0xFE35, "("), (0xFE36, ")"), (0xFE37, "\x7b"), (0xFE38, "\x7d"), (0xFE39, "〔"),
    (0xFE3A, "〕"), (0xFE3B, "【"), (0xFE3C, "】"), (0xFE3D, "《"), (0xFE3E, "》"), (0xFE3F, "〈"),
    (0xFE40, "〉"), (0xFE47, "["), (0xFE48, "]"), (0xFE49, " \u0305"), (0xFE4A, " \u0305"),
    (0xFE4B, " \u0305"), (0xFE4C, " \u0305"), (0xFE4D, "_"), (0xFE4E, "_"), (0xFE4F, "_"),
    (0xFE50, ","), (0xFE51, "、"), (0xFE54, ";"), (0xFE55, ":"), (0xFE56, "?"), (0xFE57, "!"),
    (0xFE58, "—"), (0xFE59, "("), (0xFE5A, ")"), (0xFE5B, "\x7b"), (0xFE5C, "\x7d"),
    (0xFE5D, "〔"), (0xFE5E, "〕"), (0xFE5F, "#"), (0xFE60, "&"), (0xFE61, "*"), (0xFE62, "+"),
    (0xFE63, "-"), (0xFE64, "<"), (0xFE65, ">"), (0xFE66, "="), (0xFE68, "\\"), (0xFE69, "$"),
    (0xFE6A, "%"), (0xFE6B, "@"), (0xFE70, " \u064b"), (0xFE71, "\u0640\u064b"),
    (0xFE72, " \u064c"), (0xFE74, " \u064d"), (0xFE76, " \u064e"), (0xFE77, "\u0640\u064e"),
    (0xFE78, " \u064f"), (0xFE79, "\u0640\u064f"), (0xFE7A, " \u0650"), (0xFE7B, "\u0640\u0650"),
    (0xFE7C, " \u0651"), (0xFE7D, "\u0640\u0651"), (0xFE7E, " \u0652"), (0xFE7F, "\u0640\u0652"),
    (0xFE80, "\u0621"), (0xFE81, "\u0622"), (0xFE82, "\u0622"), (0xFE83, "\u0623"),
    (0xFE84, "\u0623"), (0xFE85, "\u0624"), (0xFE86, "\u0624"), (0xFE87, "\u0625"),
    (0xFE88, "\u0625"), (0xFE89, "\u0626"), (0xFE8A, "\u0626")]

private def mappedUFE8BToU1D6A4 : List (Nat × String) :=
  [(0xFE8B, "\u0626"), (0xFE8C, "\u0626"), (0xFE8D, "\u0627"), (0xFE8E, "\u0627"),
    (0xFE8F, "\u0628"), (0xFE90, "\u0628"), (0xFE91, "\u0628"), (0xFE92, "\u0628"),
    (0xFE93, "\u0629"), (0xFE94, "\u0629"), (0xFE95, "\u062a"), (0xFE96, "\u062a"),
    (0xFE97, "\u062a"), (0xFE98, "\u062a"), (0xFE99, "\u062b"), (0xFE9A, "\u062b"),
    (0xFE9B, "\u062b"), (0xFE9C, "\u062b"), (0xFE9D, "\u062c"), (0xFE9E, "\u062c"),
    (0xFE9F, "\u062c"), (0xFEA0, "\u062c"), (0xFEA1, "\u062d"), (0xFEA2, "\u062d"),
    (0xFEA3, "\u062d"), (0xFEA4, "\u062d"), (0xFEA5, "\u062e"), (0xFEA6, "\u062e"),
    (0xFEA7, "\u062e"), (0xFEA8, "\u062e"), (0xFEA9, "\u062f"), (0xFEAA, "\u062f"),
    (0xFEAB, "\u0630"), (0xFEAC, "\u0630"), (0xFEAD, "\u0631"), (0xFEAE, "\u0631"),
    (0xFEAF, "\u0632"), (0xFEB0, "\u0632"), (0xFEB1, "\u0633"), (0xFEB2, "\u0633"),
    (0xFEB3, "\u0633"), (0xFEB4, "\u0633"), (0xFEB5, "\u0634"), (0xFEB6, "\u0634"),
    (0xFEB7, "\u0634"), (0xFEB8, "\u0634"), (0xFEB9, "\u0635"), (0xFEBA, "\u0635"),
    (0xFEBB, "\u0635"), (0xFEBC, "\u0635"), (0xFEBD, "\u0636"), (0xFEBE, "\u0636"),
    (0xFEBF, "\u0636"), (0xFEC0, "\u0636"), (0xFEC1, "\u0637"), (0xFEC2, "\u0637"),
    (0xFEC3, "\u0637"), (0xFEC4, "\u0637"), (0xFEC5, "\u0638"), (0xFEC6, "\u0638"),
    (0xFEC7, "\u0638"), (0xFEC8, "\u0638"), (0xFEC9, "\u0639"), (0xFECA, "\u0639"),
    (0xFECB, "\u0639"), (0xFECC, "\u0639"), (0xFECD, "\u063a"), (0xFECE, "\u063a"),
    (0xFECF, "\u063a"), (0xFED0, "\u063a"), (0xFED1, "\u0641"), (0xFED2, "\u0641"),
    (0xFED3, "\u0641"), (0xFED4, "\u0641"), (0xFED5, "\u0642"), (0xFED6, "\u0642"),
    (0xFED7, "\u0642"), (0xFED8, "\u0642"), (0xFED9, "\u0643"), (0xFEDA, "\u0643"),
    (0xFEDB, "\u0643"), (0xFEDC, "\u0643"), (0xFEDD, "\u0644"), (0xFEDE, "\u0644"),
    (0xFEDF, "\u0644"), (0xFEE0, "\u0644"), (0xFEE1, "\u0645"), (0xFEE2, "\u0645"),
    (0xFEE3, "\u0645"), (0xFEE4, "\u0645"), (0xFEE5, "\u0646"), (0xFEE6, "\u0646"),
    (0xFEE7, "\u0646"), (0xFEE8, "\u0646"), (0xFEE9, "\u0647"), (0xFEEA, "\u0647"),
    (0xFEEB, "\u0647"), (0xFEEC, "\u0647"), (0xFEED, "\u0648"), (0xFEEE, "\u0648"),
    (0xFEEF, "\u0649"), (0xFEF0, "\u0649"), (0xFEF1, "\u064a"), (0xFEF2, "\u064a"),
    (0xFEF3, "\u064a"), (0xFEF4, "\u064a"), (0xFEF5, "\u0644\u0622"), (0xFEF6, "\u0644\u0622"),
    (0xFEF7, "\u0644\u0623"), (0xFEF8, "\u0644\u0623"), (0xFEF9, "\u0644\u0625"),
    (0xFEFA, "\u0644\u0625"), (0xFEFB, "\u0644\u0627"), (0xFEFC, "\u0644\u0627"), (0xFF5F, "⦅"),
    (0xFF60, "⦆"), (0xFF61, "."), (0xFF62, "「"), (0xFF63, "」"), (0xFF64, "、"), (0xFF65, "・"),
    (0xFF66, "ヲ"), (0xFF67, "ァ"), (0xFF68, "ィ"), (0xFF69, "ゥ"), (0xFF6A, "ェ"), (0xFF6B, "ォ"),
    (0xFF6C, "ャ"), (0xFF6D, "ュ"), (0xFF6E, "ョ"), (0xFF6F, "ッ"), (0xFF70, "ー"), (0xFF71, "ア"),
    (0xFF72, "イ"), (0xFF73, "ウ"), (0xFF74, "エ"), (0xFF75, "オ"), (0xFF76, "カ"), (0xFF77, "キ"),
    (0xFF78, "ク"), (0xFF79, "ケ"), (0xFF7A, "コ"), (0xFF7B, "サ"), (0xFF7C, "シ"), (0xFF7D, "ス"),
    (0xFF7E, "セ"), (0xFF7F, "ソ"), (0xFF80, "タ"), (0xFF81, "チ"), (0xFF82, "ツ"), (0xFF83, "テ"),
    (0xFF84, "ト"), (0xFF8B, "ヒ"), (0xFF8C, "フ"), (0xFF8D, "ヘ"), (0xFF8E, "ホ"), (0xFF94, "ヤ"),
    (0xFF95, "ユ"), (0xFF9C, "ワ"), (0xFF9D, "ン"), (0xFF9E, "\u3099"), (0xFF9F, "\u309a"),
    (0xFFA1, "ᄀ"), (0xFFA2, "ᄁ"), (0xFFA3, "ᆪ"), (0xFFA4, "ᄂ"), (0xFFA5, "ᆬ"), (0xFFA6, "ᆭ"),
    (0xFFB0, "ᄚ"), (0xFFB4, "ᄡ"), (0xFFE0, "¢"), (0xFFE1, "£"), (0xFFE2, "¬"),
    (0xFFE3, " \u0304"), (0xFFE4, "¦"), (0xFFE5, "¥"), (0xFFE6, "₩"), (0xFFE8, "│"),
    (0xFFED, "■"), (0xFFEE, "○"), (0x10595, "𐖼"), (0x10781, "ː"), (0x10782, "ˑ"), (0x10783, "æ"),
    (0x10784, "ʙ"), (0x10785, "ɓ"), (0x10787, "ʣ"), (0x10788, "ꭦ"), (0x10789, "ʥ"),
    (0x1078A, "ʤ"), (0x1078B, "ɖ"), (0x1078C, "ɗ"), (0x1078D, "ᶑ"), (0x1078E, "ɘ"),
    (0x1078F, "ɞ"), (0x10790, "ʩ"), (0x10791, "ɤ"), (0x10792, "ɢ"), (0x10793, "ɠ"),
    (0x10794, "ʛ"), (0x10795, "ħ"), (0x10796, "ʜ"), (0x10797, "ɧ"), (0x10798, "ʄ"),
    (0x10799, "ʪ"), (0x1079A, "ʫ"), (0x1079B, "ɬ"), (0x1079C, "𝼄"), (0x1079D, "ꞎ"),
    (0x1079E, "ɮ"), (0x1079F, "𝼅"), (0x107A0, "ʎ"), (0x107A1, "𝼆"), (0x107A2, "ø"),
    (0x107A3, "ɶ"), (0x107A4, "ɷ"), (0x107A5, "q"), (0x107A6, "ɺ"), (0x107A7, "𝼈"),
    (0x107A8, "ɽ"), (0x107A9, "ɾ"), (0x107AA, "ʀ"), (0x107AB, "ʨ"), (0x107AC, "ʦ"),
    (0x107AD, "ꭧ"), (0x107AE, "ʧ"), (0x107AF, "ʈ"), (0x107B0, "ⱱ"), (0x107B2, "ʏ"),
    (0x107B3, "ʡ"), (0x107B4, "ʢ"), (0x107B5, "ʘ"), (0x107B9, "𝼊"), (0x107BA, "𝼞"),
    (0x1D15E, "𝅗𝅥"), (0x1D15F, "𝅘𝅥"), (0x1D160, "𝅘𝅥𝅮"), (0x1D161, "𝅘𝅥𝅯"), (0x1D162, "𝅘𝅥𝅰"),
    (0x1D163, "𝅘𝅥𝅱"), (0x1D164, "𝅘𝅥𝅲"), (0x1D1BB, "𝆹𝅥"), (0x1D1BC, "𝆺𝅥"), (0x1D1BD, "𝆹𝅥𝅮"),
    (0x1D1BE, "𝆺𝅥𝅮"), (0x1D1BF, "𝆹𝅥𝅯"), (0x1D1C0, "𝆺𝅥𝅯"), (0x1D49C, "a"), (0x1D49E, "c"),
    (0x1D49F, "d"), (0x1D4A2, "g"), (0x1D4A5, "j"), (0x1D4A6, "k"), (0x1D504, "a"),
    (0x1D508, "e"), (0x1D50A, "g"), (0x1D538, "a"), (0x1D541, "j"), (0x1D543, "l"),
    (0x1D6A4, "ı")]

private def mappedU1D6A5ToU1F211 : List (Nat × String) :=
  [(0x1D6A5, "ȷ"), (0x1D6B9, "θ"), (0x1D6C1, "∇"), (0x1D6D3, "σ"), (0x1D6DB, "∂"), (0x1D6DC, "ε"),
    (0x1D6DD, "θ"), (0x1D6DE, "κ"), (0x1D6DF, "φ"), (0x1D6E0, "ρ"), (0x1D6E1, "π"),
    (0x1D6F3, "θ"), (0x1D6FB, "∇"), (0x1D70D, "σ"), (0x1D715, "∂"), (0x1D716, "ε"),
    (0x1D717, "θ"), (0x1D718, "κ"), (0x1D719, "φ"), (0x1D71A, "ρ"), (0x1D71B, "π"),
    (0x1D72D, "θ"), (0x1D735, "∇"), (0x1D747, "σ"), (0x1D74F, "∂"), (0x1D750, "ε"),
    (0x1D751, "θ"), (0x1D752, "κ"), (0x1D753, "φ"), (0x1D754, "ρ"), (0x1D755, "π"),
    (0x1D767, "θ"), (0x1D76F, "∇"), (0x1D781, "σ"), (0x1D789, "∂"), (0x1D78A, "ε"),
    (0x1D78B, "θ"), (0x1D78C, "κ"), (0x1D78D, "φ"), (0x1D78E, "ρ"), (0x1D78F, "π"),
    (0x1D7A1, "θ"), (0x1D7A9, "∇"), (0x1D7BB, "σ"), (0x1D7C3, "∂"), (0x1D7C4, "ε"),
    (0x1D7C5, "θ"), (0x1D7C6, "κ"), (0x1D7C7, "φ"), (0x1D7C8, "ρ"), (0x1D7C9, "π"),
    (0x1D7CA, "ϝ"), (0x1D7CB, "ϝ"), (0x1E047, "ы"), (0x1E048, "э"), (0x1E049, "ю"),
    (0x1E04A, "ꚉ"), (0x1E04B, "ә"), (0x1E04C, "і"), (0x1E04D, "ј"), (0x1E04E, "ө"),
    (0x1E04F, "ү"), (0x1E050, "ӏ"), (0x1E05A, "к"), (0x1E05B, "л"), (0x1E05C, "о"),
    (0x1E05D, "п"), (0x1E05E, "с"), (0x1E065, "ъ"), (0x1E066, "ы"), (0x1E067, "ґ"),
    (0x1E068, "і"), (0x1E069, "ѕ"), (0x1E06A, "џ"), (0x1E06B, "ҫ"), (0x1E06C, "ꙑ"),
    (0x1E06D, "ұ"), (0x1EE00, "\u0627"), (0x1EE01, "\u0628"), (0x1EE02, "\u062c"),
    (0x1EE03, "\u062f"), (0x1EE05, "\u0648"), (0x1EE06, "\u0632"), (0x1EE07, "\u062d"),
    (0x1EE08, "\u0637"), (0x1EE09, "\u064a"), (0x1EE0E, "\u0633"), (0x1EE0F, "\u0639"),
    (0x1EE10, "\u0641"), (0x1EE11, "\u0635"), (0x1EE12, "\u0642"), (0x1EE13, "\u0631"),
    (0x1EE14, "\u0634"), (0x1EE15, "\u062a"), (0x1EE16, "\u062b"), (0x1EE17, "\u062e"),
    (0x1EE18, "\u0630"), (0x1EE19, "\u0636"), (0x1EE1A, "\u0638"), (0x1EE1B, "\u063a"),
    (0x1EE1C, "\u066e"), (0x1EE1D, "\u06ba"), (0x1EE1E, "\u06a1"), (0x1EE1F, "\u066f"),
    (0x1EE21, "\u0628"), (0x1EE22, "\u062c"), (0x1EE24, "\u0647"), (0x1EE27, "\u062d"),
    (0x1EE29, "\u064a"), (0x1EE2E, "\u0633"), (0x1EE2F, "\u0639"), (0x1EE30, "\u0641"),
    (0x1EE31, "\u0635"), (0x1EE32, "\u0642"), (0x1EE34, "\u0634"), (0x1EE35, "\u062a"),
    (0x1EE36, "\u062b"), (0x1EE37, "\u062e"), (0x1EE39, "\u0636"), (0x1EE3B, "\u063a"),
    (0x1EE42, "\u062c"), (0x1EE47, "\u062d"), (0x1EE49, "\u064a"), (0x1EE4B, "\u0644"),
    (0x1EE4D, "\u0646"), (0x1EE4E, "\u0633"), (0x1EE4F, "\u0639"), (0x1EE51, "\u0635"),
    (0x1EE52, "\u0642"), (0x1EE54, "\u0634"), (0x1EE57, "\u062e"), (0x1EE59, "\u0636"),
    (0x1EE5B, "\u063a"), (0x1EE5D, "\u06ba"), (0x1EE5F, "\u066f"), (0x1EE61, "\u0628"),
    (0x1EE62, "\u062c"), (0x1EE64, "\u0647"), (0x1EE67, "\u062d"), (0x1EE68, "\u0637"),
    (0x1EE69, "\u064a"), (0x1EE6A, "\u0643"), (0x1EE6C, "\u0645"), (0x1EE6D, "\u0646"),
    (0x1EE6E, "\u0633"), (0x1EE6F, "\u0639"), (0x1EE70, "\u0641"), (0x1EE71, "\u0635"),
    (0x1EE72, "\u0642"), (0x1EE74, "\u0634"), (0x1EE75, "\u062a"), (0x1EE76, "\u062b"),
    (0x1EE77, "\u062e"), (0x1EE79, "\u0636"), (0x1EE7A, "\u0638"), (0x1EE7B, "\u063a"),
    (0x1EE7C, "\u066e"), (0x1EE7E, "\u06a1"), (0x1EE80, "\u0627"), (0x1EE81, "\u0628"),
    (0x1EE82, "\u062c"), (0x1EE83, "\u062f"), (0x1EE84, "\u0647"), (0x1EE85, "\u0648"),
    (0x1EE86, "\u0632"), (0x1EE87, "\u062d"), (0x1EE88, "\u0637"), (0x1EE89, "\u064a"),
    (0x1EE8E, "\u0633"), (0x1EE8F, "\u0639"), (0x1EE90, "\u0641"), (0x1EE91, "\u0635"),
    (0x1EE92, "\u0642"), (0x1EE93, "\u0631"), (0x1EE94, "\u0634"), (0x1EE95, "\u062a"),
    (0x1EE96, "\u062b"), (0x1EE97, "\u062e"), (0x1EE98, "\u0630"), (0x1EE99, "\u0636"),
    (0x1EE9A, "\u0638"), (0x1EE9B, "\u063a"), (0x1EEA1, "\u0628"), (0x1EEA2, "\u062c"),
    (0x1EEA3, "\u062f"), (0x1EEA5, "\u0648"), (0x1EEA6, "\u0632"), (0x1EEA7, "\u062d"),
    (0x1EEA8, "\u0637"), (0x1EEA9, "\u064a"), (0x1EEAE, "\u0633"), (0x1EEAF, "\u0639"),
    (0x1EEB0, "\u0641"), (0x1EEB1, "\u0635"), (0x1EEB2, "\u0642"), (0x1EEB3, "\u0631"),
    (0x1EEB4, "\u0634"), (0x1EEB5, "\u062a"), (0x1EEB6, "\u062b"), (0x1EEB7, "\u062e"),
    (0x1EEB8, "\u0630"), (0x1EEB9, "\u0636"), (0x1EEBA, "\u0638"), (0x1EEBB, "\u063a"),
    (0x1F101, "0,"), (0x1F102, "1,"), (0x1F103, "2,"), (0x1F104, "3,"), (0x1F105, "4,"),
    (0x1F106, "5,"), (0x1F107, "6,"), (0x1F108, "7,"), (0x1F109, "8,"), (0x1F10A, "9,"),
    (0x1F110, "(a)"), (0x1F111, "(b)"), (0x1F112, "(c)"), (0x1F113, "(d)"), (0x1F114, "(e)"),
    (0x1F115, "(f)"), (0x1F116, "(g)"), (0x1F117, "(h)"), (0x1F118, "(i)"), (0x1F119, "(j)"),
    (0x1F11A, "(k)"), (0x1F11B, "(l)"), (0x1F11C, "(m)"), (0x1F11D, "(n)"), (0x1F11E, "(o)"),
    (0x1F11F, "(p)"), (0x1F120, "(q)"), (0x1F121, "(r)"), (0x1F122, "(s)"), (0x1F123, "(t)"),
    (0x1F124, "(u)"), (0x1F125, "(v)"), (0x1F126, "(w)"), (0x1F127, "(x)"), (0x1F128, "(y)"),
    (0x1F129, "(z)"), (0x1F12A, "〔s〕"), (0x1F12B, "c"), (0x1F12C, "r"), (0x1F12D, "cd"),
    (0x1F12E, "wz"), (0x1F14A, "hv"), (0x1F14B, "mv"), (0x1F14C, "sd"), (0x1F14D, "ss"),
    (0x1F14E, "ppv"), (0x1F14F, "wc"), (0x1F16A, "mc"), (0x1F16B, "md"), (0x1F16C, "mr"),
    (0x1F190, "dj"), (0x1F200, "ほか"), (0x1F201, "ココ"), (0x1F202, "サ"), (0x1F210, "手"),
    (0x1F211, "字")]

private def mappedU1F212ToU2F8CE : List (Nat × String) :=
  [(0x1F212, "双"), (0x1F213, "デ"), (0x1F214, "二"), (0x1F215, "多"), (0x1F216, "解"), (0x1F217, "天"),
    (0x1F218, "交"), (0x1F219, "映"), (0x1F21A, "無"), (0x1F21B, "料"), (0x1F21C, "前"),
    (0x1F21D, "後"), (0x1F21E, "再"), (0x1F21F, "新"), (0x1F220, "初"), (0x1F221, "終"),
    (0x1F222, "生"), (0x1F223, "販"), (0x1F224, "声"), (0x1F225, "吹"), (0x1F226, "演"),
    (0x1F227, "投"), (0x1F228, "捕"), (0x1F229, "一"), (0x1F22A, "三"), (0x1F22B, "遊"),
    (0x1F22C, "左"), (0x1F22D, "中"), (0x1F22E, "右"), (0x1F22F, "指"), (0x1F230, "走"),
    (0x1F231, "打"), (0x1F232, "禁"), (0x1F233, "空"), (0x1F234, "合"), (0x1F235, "満"),
    (0x1F236, "有"), (0x1F237, "月"), (0x1F238, "申"), (0x1F239, "割"), (0x1F23A, "営"),
    (0x1F23B, "配"), (0x1F240, "〔本〕"), (0x1F241, "〔三〕"), (0x1F242, "〔二〕"), (0x1F243, "〔安〕"),
    (0x1F244, "〔点〕"), (0x1F245, "〔打〕"), (0x1F246, "〔盗〕"), (0x1F247, "〔勝〕"), (0x1F248, "〔敗〕"),
    (0x1F250, "得"), (0x1F251, "可"), (0x2F800, "丽"), (0x2F801, "丸"), (0x2F802, "乁"),
    (0x2F803, "𠄢"), (0x2F804, "你"), (0x2F805, "侮"), (0x2F806, "侻"), (0x2F807, "倂"),
    (0x2F808, "偺"), (0x2F809, "備"), (0x2F80A, "僧"), (0x2F80B, "像"), (0x2F80C, "㒞"),
    (0x2F80D, "𠘺"), (0x2F80E, "免"), (0x2F80F, "兔"), (0x2F810, "兤"), (0x2F811, "具"),
    (0x2F812, "𠔜"), (0x2F813, "㒹"), (0x2F814, "內"), (0x2F815, "再"), (0x2F816, "𠕋"),
    (0x2F817, "冗"), (0x2F818, "冤"), (0x2F819, "仌"), (0x2F81A, "冬"), (0x2F81B, "况"),
    (0x2F81C, "𩇟"), (0x2F81D, "凵"), (0x2F81E, "刃"), (0x2F81F, "㓟"), (0x2F820, "刻"),
    (0x2F821, "剆"), (0x2F822, "割"), (0x2F823, "剷"), (0x2F824, "㔕"), (0x2F825, "勇"),
    (0x2F826, "勉"), (0x2F827, "勤"), (0x2F828, "勺"), (0x2F829, "包"), (0x2F82A, "匆"),
    (0x2F82B, "北"), (0x2F82C, "卉"), (0x2F82D, "卑"), (0x2F82E, "博"), (0x2F82F, "即"),
    (0x2F830, "卽"), (0x2F831, "卿"), (0x2F832, "卿"), (0x2F833, "卿"), (0x2F834, "𠨬"),
    (0x2F835, "灰"), (0x2F836, "及"), (0x2F837, "叟"), (0x2F838, "𠭣"), (0x2F839, "叫"),
    (0x2F83A, "叱"), (0x2F83B, "吆"), (0x2F83C, "咞"), (0x2F83D, "吸"), (0x2F83E, "呈"),
    (0x2F83F, "周"), (0x2F840, "咢"), (0x2F841, "哶"), (0x2F842, "唐"), (0x2F843, "啓"),
    (0x2F844, "啣"), (0x2F845, "善"), (0x2F846, "善"), (0x2F847, "喙"), (0x2F848, "喫"),
    (0x2F849, "喳"), (0x2F84A, "嗂"), (0x2F84B, "圖"), (0x2F84C, "嘆"), (0x2F84D, "圗"),
    (0x2F84E, "噑"), (0x2F84F, "噴"), (0x2F850, "切"), (0x2F851, "壮"), (0x2F852, "城"),
    (0x2F853, "埴"), (0x2F854, "堍"), (0x2F855, "型"), (0x2F856, "堲"), (0x2F857, "報"),
    (0x2F858, "墬"), (0x2F859, "𡓤"), (0x2F85A, "売"), (0x2F85B, "壷"), (0x2F85C, "夆"),
    (0x2F85D, "多"), (0x2F85E, "夢"), (0x2F85F, "奢"), (0x2F860, "𡚨"), (0x2F861, "𡛪"),
    (0x2F862, "姬"), (0x2F863, "娛"), (0x2F864, "娧"), (0x2F865, "姘"), (0x2F866, "婦"),
    (0x2F867, "㛮"), (0x2F868, "㛼"), (0x2F869, "嬈"), (0x2F86A, "嬾"), (0x2F86B, "嬾"),
    (0x2F86C, "𡧈"), (0x2F86D, "寃"), (0x2F86E, "寘"), (0x2F86F, "寧"), (0x2F870, "寳"),
    (0x2F871, "𡬘"), (0x2F872, "寿"), (0x2F873, "将"), (0x2F874, "当"), (0x2F875, "尢"),
    (0x2F876, "㞁"), (0x2F877, "屠"), (0x2F878, "屮"), (0x2F879, "峀"), (0x2F87A, "岍"),
    (0x2F87B, "𡷤"), (0x2F87C, "嵃"), (0x2F87D, "𡷦"), (0x2F87E, "嵮"), (0x2F87F, "嵫"),
    (0x2F880, "嵼"), (0x2F881, "巡"), (0x2F882, "巢"), (0x2F883, "㠯"), (0x2F884, "巽"),
    (0x2F885, "帨"), (0x2F886, "帽"), (0x2F887, "幩"), (0x2F888, "㡢"), (0x2F889, "𢆃"),
    (0x2F88A, "㡼"), (0x2F88B, "庰"), (0x2F88C, "庳"), (0x2F88D, "庶"), (0x2F88E, "廊"),
    (0x2F88F, "𪎒"), (0x2F890, "廾"), (0x2F891, "𢌱"), (0x2F892, "𢌱"), (0x2F893, "舁"),
    (0x2F894, "弢"), (0x2F895, "弢"), (0x2F896, "㣇"), (0x2F897, "𣊸"), (0x2F898, "𦇚"),
    (0x2F899, "形"), (0x2F89A, "彫"), (0x2F89B, "㣣"), (0x2F89C, "徚"), (0x2F89D, "忍"),
    (0x2F89E, "志"), (0x2F89F, "忹"), (0x2F8A0, "悁"), (0x2F8A1, "㤺"), (0x2F8A2, "㤜"),
    (0x2F8A3, "悔"), (0x2F8A4, "𢛔"), (0x2F8A5, "惇"), (0x2F8A6, "慈"), (0x2F8A7, "慌"),
    (0x2F8A8, "慎"), (0x2F8A9, "慌"), (0x2F8AA, "慺"), (0x2F8AB, "憎"), (0x2F8AC, "憲"),
    (0x2F8AD, "憤"), (0x2F8AE, "憯"), (0x2F8AF, "懞"), (0x2F8B0, "懲"), (0x2F8B1, "懶"),
    (0x2F8B2, "成"), (0x2F8B3, "戛"), (0x2F8B4, "扝"), (0x2F8B5, "抱"), (0x2F8B6, "拔"),
    (0x2F8B7, "捐"), (0x2F8B8, "𢬌"), (0x2F8B9, "挽"), (0x2F8BA, "拼"), (0x2F8BB, "捨"),
    (0x2F8BC, "掃"), (0x2F8BD, "揤"), (0x2F8BE, "𢯱"), (0x2F8BF, "搢"), (0x2F8C0, "揅"),
    (0x2F8C1, "掩"), (0x2F8C2, "㨮"), (0x2F8C3, "摩"), (0x2F8C4, "摾"), (0x2F8C5, "撝"),
    (0x2F8C6, "摷"), (0x2F8C7, "㩬"), (0x2F8C8, "敏"), (0x2F8C9, "敬"), (0x2F8CA, "𣀊"),
    (0x2F8CB, "旣"), (0x2F8CC, "書"), (0x2F8CD, "晉"), (0x2F8CE, "㬙")]

private def mappedU2F8CFToU2F9D2 : List (Nat × String) :=
  [(0x2F8CF, "暑"), (0x2F8D0, "㬈"), (0x2F8D1, "㫤"), (0x2F8D2, "冒"), (0x2F8D3, "冕"), (0x2F8D4, "最"),
    (0x2F8D5, "暜"), (0x2F8D6, "肭"), (0x2F8D7, "䏙"), (0x2F8D8, "朗"), (0x2F8D9, "望"),
    (0x2F8DA, "朡"), (0x2F8DB, "杞"), (0x2F8DC, "杓"), (0x2F8DD, "𣏃"), (0x2F8DE, "㭉"),
    (0x2F8DF, "柺"), (0x2F8E0, "枅"), (0x2F8E1, "桒"), (0x2F8E2, "梅"), (0x2F8E3, "𣑭"),
    (0x2F8E4, "梎"), (0x2F8E5, "栟"), (0x2F8E6, "椔"), (0x2F8E7, "㮝"), (0x2F8E8, "楂"),
    (0x2F8E9, "榣"), (0x2F8EA, "槪"), (0x2F8EB, "檨"), (0x2F8EC, "𣚣"), (0x2F8ED, "櫛"),
    (0x2F8EE, "㰘"), (0x2F8EF, "次"), (0x2F8F0, "𣢧"), (0x2F8F1, "歔"), (0x2F8F2, "㱎"),
    (0x2F8F3, "歲"), (0x2F8F4, "殟"), (0x2F8F5, "殺"), (0x2F8F6, "殻"), (0x2F8F7, "𣪍"),
    (0x2F8F8, "𡴋"), (0x2F8F9, "𣫺"), (0x2F8FA, "汎"), (0x2F8FB, "𣲼"), (0x2F8FC, "沿"),
    (0x2F8FD, "泍"), (0x2F8FE, "汧"), (0x2F8FF, "洖"), (0x2F900, "派"), (0x2F901, "海"),
    (0x2F902, "流"), (0x2F903, "浩"), (0x2F904, "浸"), (0x2F905, "涅"), (0x2F906, "𣴞"),
    (0x2F907, "洴"), (0x2F908, "港"), (0x2F909, "湮"), (0x2F90A, "㴳"), (0x2F90B, "滋"),
    (0x2F90C, "滇"), (0x2F90D, "𣻑"), (0x2F90E, "淹"), (0x2F90F, "潮"), (0x2F910, "𣽞"),
    (0x2F911, "𣾎"), (0x2F912, "濆"), (0x2F913, "瀹"), (0x2F914, "瀞"), (0x2F915, "瀛"),
    (0x2F916, "㶖"), (0x2F917, "灊"), (0x2F918, "災"), (0x2F919, "灷"), (0x2F91A, "炭"),
    (0x2F91B, "𠔥"), (0x2F91C, "煅"), (0x2F91D, "𤉣"), (0x2F91E, "熜"), (0x2F91F, "𤎫"),
    (0x2F920, "爨"), (0x2F921, "爵"), (0x2F922, "牐"), (0x2F923, "𤘈"), (0x2F924, "犀"),
    (0x2F925, "犕"), (0x2F926, "𤜵"), (0x2F927, "𤠔"), (0x2F928, "獺"), (0x2F929, "王"),
    (0x2F92A, "㺬"), (0x2F92B, "玥"), (0x2F92C, "㺸"), (0x2F92D, "㺸"), (0x2F92E, "瑇"),
    (0x2F92F, "瑜"), (0x2F930, "瑱"), (0x2F931, "璅"), (0x2F932, "瓊"), (0x2F933, "㼛"),
    (0x2F934, "甤"), (0x2F935, "𤰶"), (0x2F936, "甾"), (0x2F937, "𤲒"), (0x2F938, "異"),
    (0x2F939, "𢆟"), (0x2F93A, "瘐"), (0x2F93B, "𤾡"), (0x2F93C, "𤾸"), (0x2F93D, "𥁄"),
    (0x2F93E, "㿼"), (0x2F93F, "䀈"), (0x2F940, "直"), (0x2F941, "𥃳"), (0x2F942, "𥃲"),
    (0x2F943, "𥄙"), (0x2F944, "𥄳"), (0x2F945, "眞"), (0x2F946, "真"), (0x2F947, "真"),
    (0x2F948, "睊"), (0x2F949, "䀹"), (0x2F94A, "瞋"), (0x2F94B, "䁆"), (0x2F94C, "䂖"),
    (0x2F94D, "𥐝"), (0x2F94E, "硎"), (0x2F94F, "碌"), (0x2F950, "磌"), (0x2F951, "䃣"),
    (0x2F952, "𥘦"), (0x2F953, "祖"), (0x2F954, "𥚚"), (0x2F955, "𥛅"), (0x2F956, "福"),
    (0x2F957, "秫"), (0x2F958, "䄯"), (0x2F959, "穀"), (0x2F95A, "穊"), (0x2F95B, "穏"),
    (0x2F95C, "𥥼"), (0x2F95D, "𥪧"), (0x2F95E, "𥪧"), (0x2F95F, "竮"), (0x2F960, "䈂"),
    (0x2F961, "𥮫"), (0x2F962, "篆"), (0x2F963, "築"), (0x2F964, "䈧"), (0x2F965, "𥲀"),
    (0x2F966, "糒"), (0x2F967, "䊠"), (0x2F968, "糨"), (0x2F969, "糣"), (0x2F96A, "紀"),
    (0x2F96B, "𥾆"), (0x2F96C, "絣"), (0x2F96D, "䌁"), (0x2F96E, "緇"), (0x2F96F, "縂"),
    (0x2F970, "繅"), (0x2F971, "䌴"), (0x2F972, "𦈨"), (0x2F973, "𦉇"), (0x2F974, "䍙"),
    (0x2F975, "𦋙"), (0x2F976, "罺"), (0x2F977, "𦌾"), (0x2F978, "羕"), (0x2F979, "翺"),
    (0x2F97A, "者"), (0x2F97B, "𦓚"), (0x2F97C, "𦔣"), (0x2F97D, "聠"), (0x2F97E, "𦖨"),
    (0x2F97F, "聰"), (0x2F980, "𣍟"), (0x2F981, "䏕"), (0x2F982, "育"), (0x2F983, "脃"),
    (0x2F984, "䐋"), (0x2F985, "脾"), (0x2F986, "媵"), (0x2F987, "𦞧"), (0x2F988, "𦞵"),
    (0x2F989, "𣎓"), (0x2F98A, "𣎜"), (0x2F98B, "舁"), (0x2F98C, "舄"), (0x2F98D, "辞"),
    (0x2F98E, "䑫"), (0x2F98F, "芑"), (0x2F990, "芋"), (0x2F991, "芝"), (0x2F992, "劳"),
    (0x2F993, "花"), (0x2F994, "芳"), (0x2F995, "芽"), (0x2F996, "苦"), (0x2F997, "𦬼"),
    (0x2F998, "若"), (0x2F999, "茝"), (0x2F99A, "荣"), (0x2F99B, "莭"), (0x2F99C, "茣"),
    (0x2F99D, "莽"), (0x2F99E, "菧"), (0x2F99F, "著"), (0x2F9A0, "荓"), (0x2F9A1, "菊"),
    (0x2F9A2, "菌"), (0x2F9A3, "菜"), (0x2F9A4, "𦰶"), (0x2F9A5, "𦵫"), (0x2F9A6, "𦳕"),
    (0x2F9A7, "䔫"), (0x2F9A8, "蓱"), (0x2F9A9, "蓳"), (0x2F9AA, "蔖"), (0x2F9AB, "𧏊"),
    (0x2F9AC, "蕤"), (0x2F9AD, "𦼬"), (0x2F9AE, "䕝"), (0x2F9AF, "䕡"), (0x2F9B0, "𦾱"),
    (0x2F9B1, "𧃒"), (0x2F9B2, "䕫"), (0x2F9B3, "虐"), (0x2F9B4, "虜"), (0x2F9B5, "虧"),
    (0x2F9B6, "虩"), (0x2F9B7, "蚩"), (0x2F9B8, "蚈"), (0x2F9B9, "蜎"), (0x2F9BA, "蛢"),
    (0x2F9BB, "蝹"), (0x2F9BC, "蜨"), (0x2F9BD, "蝫"), (0x2F9BE, "螆"), (0x2F9BF, "䗗"),
    (0x2F9C0, "蟡"), (0x2F9C1, "蠁"), (0x2F9C2, "䗹"), (0x2F9C3, "衠"), (0x2F9C4, "衣"),
    (0x2F9C5, "𧙧"), (0x2F9C6, "裗"), (0x2F9C7, "裞"), (0x2F9C8, "䘵"), (0x2F9C9, "裺"),
    (0x2F9CA, "㒻"), (0x2F9CB, "𧢮"), (0x2F9CC, "𧥦"), (0x2F9CD, "䚾"), (0x2F9CE, "䛇"),
    (0x2F9CF, "誠"), (0x2F9D0, "諭"), (0x2F9D1, "變"), (0x2F9D2, "豕")]

private def mappedU2F9D3ToU2FA1D : List (Nat × String) :=
  [(0x2F9D3, "𧲨"), (0x2F9D4, "貫"), (0x2F9D5, "賁"), (0x2F9D6, "贛"), (0x2F9D7, "起"), (0x2F9D8, "𧼯"),
    (0x2F9D9, "𠠄"), (0x2F9DA, "跋"), (0x2F9DB, "趼"), (0x2F9DC, "跰"), (0x2F9DD, "𠣞"),
    (0x2F9DE, "軔"), (0x2F9DF, "輸"), (0x2F9E0, "𨗒"), (0x2F9E1, "𨗭"), (0x2F9E2, "邔"),
    (0x2F9E3, "郱"), (0x2F9E4, "鄑"), (0x2F9E5, "𨜮"), (0x2F9E6, "鄛"), (0x2F9E7, "鈸"),
    (0x2F9E8, "鋗"), (0x2F9E9, "鋘"), (0x2F9EA, "鉼"), (0x2F9EB, "鏹"), (0x2F9EC, "鐕"),
    (0x2F9ED, "𨯺"), (0x2F9EE, "開"), (0x2F9EF, "䦕"), (0x2F9F0, "閷"), (0x2F9F1, "𨵷"),
    (0x2F9F2, "䧦"), (0x2F9F3, "雃"), (0x2F9F4, "嶲"), (0x2F9F5, "霣"), (0x2F9F6, "𩅅"),
    (0x2F9F7, "𩈚"), (0x2F9F8, "䩮"), (0x2F9F9, "䩶"), (0x2F9FA, "韠"), (0x2F9FB, "𩐊"),
    (0x2F9FC, "䪲"), (0x2F9FD, "𩒖"), (0x2F9FE, "頋"), (0x2F9FF, "頋"), (0x2FA00, "頩"),
    (0x2FA01, "𩖶"), (0x2FA02, "飢"), (0x2FA03, "䬳"), (0x2FA04, "餩"), (0x2FA05, "馧"),
    (0x2FA06, "駂"), (0x2FA07, "駾"), (0x2FA08, "䯎"), (0x2FA09, "𩬰"), (0x2FA0A, "鬒"),
    (0x2FA0B, "鱀"), (0x2FA0C, "鳽"), (0x2FA0D, "䳎"), (0x2FA0E, "䳭"), (0x2FA0F, "鵧"),
    (0x2FA10, "𪃎"), (0x2FA11, "䳸"), (0x2FA12, "𪄅"), (0x2FA13, "𪈎"), (0x2FA14, "𪊑"),
    (0x2FA15, "麻"), (0x2FA16, "䵖"), (0x2FA17, "黹"), (0x2FA18, "黾"), (0x2FA19, "鼅"),
    (0x2FA1A, "鼏"), (0x2FA1B, "鼖"), (0x2FA1C, "鼻"), (0x2FA1D, "𪘀")]

/-- The other mapped characters, in increasing order, each with its image. -/
def mappedTexts : Array (Nat × String) :=
  (mappedU00A0ToU1DAA ++ mappedU1DABToU2173 ++ mappedU2174ToU2F9C ++ mappedU2F9DToU329A ++
    mappedU329BToU33B3 ++ mappedU33B4ToUF994 ++ mappedUF995ToUFAA6 ++ mappedUFAA7ToUFC0B ++
    mappedUFC0CToUFD0F ++ mappedUFD10ToUFE8A ++ mappedUFE8BToU1D6A4 ++ mappedU1D6A5ToU1F211 ++
    mappedU1F212ToU2F8CE ++ mappedU2F8CFToU2F9D2 ++ mappedU2F9D3ToU2FA1D).toArray

/-- The characters that are dropped. -/
def dropped : CodeTable :=
  ⟨#[(0xAD, 0xAD), (0x34F, 0x34F), (0x115F, 0x1160), (0x17B4, 0x17B5), (0x180B, 0x180F),
    (0x200B, 0x200B), (0x2060, 0x2064), (0x206A, 0x206F), (0x3164, 0x3164), (0xFE00, 0xFE0F),
    (0xFEFF, 0xFEFF), (0xFFA0, 0xFFA0), (0x1BCA0, 0x1BCA3), (0x1D173, 0x1D17A),
    (0xE0100, 0xE01EF)]⟩

private def refusedU0080ToU209F : List (Nat × Nat) :=
  [(0x80, 0x9F), (0x378, 0x379), (0x380, 0x383), (0x38B, 0x38B), (0x38D, 0x38D), (0x3A2, 0x3A2),
    (0x530, 0x530), (0x557, 0x558), (0x58B, 0x58C), (0x590, 0x590), (0x5C8, 0x5CF),
    (0x5EB, 0x5EE), (0x5F5, 0x605), (0x61C, 0x61C), (0x6DD, 0x6DD), (0x70E, 0x70F),
    (0x74B, 0x74C), (0x7B2, 0x7BF), (0x7FB, 0x7FC), (0x82E, 0x82F), (0x83F, 0x83F),
    (0x85C, 0x85D), (0x85F, 0x85F), (0x86B, 0x86F), (0x890, 0x896), (0x8E2, 0x8E2),
    (0x984, 0x984), (0x98D, 0x98E), (0x991, 0x992), (0x9A9, 0x9A9), (0x9B1, 0x9B1),
    (0x9B3, 0x9B5), (0x9BA, 0x9BB), (0x9C5, 0x9C6), (0x9C9, 0x9CA), (0x9CF, 0x9D6),
    (0x9D8, 0x9DB), (0x9DE, 0x9DE), (0x9E4, 0x9E5), (0x9FF, 0xA00), (0xA04, 0xA04),
    (0xA0B, 0xA0E), (0xA11, 0xA12), (0xA29, 0xA29), (0xA31, 0xA31), (0xA34, 0xA34),
    (0xA37, 0xA37), (0xA3A, 0xA3B), (0xA3D, 0xA3D), (0xA43, 0xA46), (0xA49, 0xA4A),
    (0xA4E, 0xA50), (0xA52, 0xA58), (0xA5D, 0xA5D), (0xA5F, 0xA65), (0xA77, 0xA80),
    (0xA84, 0xA84), (0xA8E, 0xA8E), (0xA92, 0xA92), (0xAA9, 0xAA9), (0xAB1, 0xAB1),
    (0xAB4, 0xAB4), (0xABA, 0xABB), (0xAC6, 0xAC6), (0xACA, 0xACA), (0xACE, 0xACF),
    (0xAD1, 0xADF), (0xAE4, 0xAE5), (0xAF2, 0xAF8), (0xB00, 0xB00), (0xB04, 0xB04),
    (0xB0D, 0xB0E), (0xB11, 0xB12), (0xB29, 0xB29), (0xB31, 0xB31), (0xB34, 0xB34),
    (0xB3A, 0xB3B), (0xB45, 0xB46), (0xB49, 0xB4A), (0xB4E, 0xB54), (0xB58, 0xB5B),
    (0xB5E, 0xB5E), (0xB64, 0xB65), (0xB78, 0xB81), (0xB84, 0xB84), (0xB8B, 0xB8D),
    (0xB91, 0xB91), (0xB96, 0xB98), (0xB9B, 0xB9B), (0xB9D, 0xB9D), (0xBA0, 0xBA2),
    (0xBA5, 0xBA7), (0xBAB, 0xBAD), (0xBBA, 0xBBD), (0xBC3, 0xBC5), (0xBC9, 0xBC9),
    (0xBCE, 0xBCF), (0xBD1, 0xBD6), (0xBD8, 0xBE5), (0xBFB, 0xBFF), (0xC0D, 0xC0D),
    (0xC11, 0xC11), (0xC29, 0xC29), (0xC3A, 0xC3B), (0xC45, 0xC45), (0xC49, 0xC49),
    (0xC4E, 0xC54), (0xC57, 0xC57), (0xC5B, 0xC5B), (0xC5E, 0xC5F), (0xC64, 0xC65),
    (0xC70, 0xC76), (0xC8D, 0xC8D), (0xC91, 0xC91), (0xCA9, 0xCA9), (0xCB4, 0xCB4),
    (0xCBA, 0xCBB), (0xCC5, 0xCC5), (0xCC9, 0xCC9), (0xCCE, 0xCD4), (0xCD7, 0xCDB),
    (0xCDF, 0xCDF), (0xCE4, 0xCE5), (0xCF0, 0xCF0), (0xCF4, 0xCFF), (0xD0D, 0xD0D),
    (0xD11, 0xD11), (0xD45, 0xD45), (0xD49, 0xD49), (0xD50, 0xD53), (0xD64, 0xD65),
    (0xD80, 0xD80), (0xD84, 0xD84), (0xD97, 0xD99), (0xDB2, 0xDB2), (0xDBC, 0xDBC),
    (0xDBE, 0xDBF), (0xDC7, 0xDC9), (0xDCB, 0xDCE), (0xDD5, 0xDD5), (0xDD7, 0xDD7),
    (0xDE0, 0xDE5), (0xDF0, 0xDF1), (0xDF5, 0xE00), (0xE3B, 0xE3E), (0xE5C, 0xE80),
    (0xE83, 0xE83), (0xE85, 0xE85), (0xE8B, 0xE8B), (0xEA4, 0xEA4), (0xEA6, 0xEA6),
    (0xEBE, 0xEBF), (0xEC5, 0xEC5), (0xEC7, 0xEC7), (0xECF, 0xECF), (0xEDA, 0xEDB),
    (0xEE0, 0xEFF), (0xF48, 0xF48), (0xF6D, 0xF70), (0xF98, 0xF98), (0xFBD, 0xFBD),
    (0xFCD, 0xFCD), (0xFDB, 0xFFF), (0x10C6, 0x10C6), (0x10C8, 0x10CC), (0x10CE, 0x10CF),
    (0x1249, 0x1249), (0x124E, 0x124F), (0x1257, 0x1257), (0x1259, 0x1259), (0x125E, 0x125F),
    (0x1289, 0x1289), (0x128E, 0x128F), (0x12B1, 0x12B1), (0x12B6, 0x12B7), (0x12BF, 0x12BF),
    (0x12C1, 0x12C1), (0x12C6, 0x12C7), (0x12D7, 0x12D7), (0x1311, 0x1311), (0x1316, 0x1317),
    (0x135B, 0x135C), (0x137D, 0x137F), (0x139A, 0x139F), (0x13F6, 0x13F7), (0x13FE, 0x13FF),
    (0x1680, 0x1680), (0x169D, 0x169F), (0x16F9, 0x16FF), (0x1716, 0x171E), (0x1737, 0x173F),
    (0x1754, 0x175F), (0x176D, 0x176D), (0x1771, 0x1771), (0x1774, 0x177F), (0x17DE, 0x17DF),
    (0x17EA, 0x17EF), (0x17FA, 0x17FF), (0x181A, 0x181F), (0x1879, 0x187F), (0x18AB, 0x18AF),
    (0x18F6, 0x18FF), (0x191F, 0x191F), (0x192C, 0x192F), (0x193C, 0x193F), (0x1941, 0x1943),
    (0x196E, 0x196F), (0x1975, 0x197F), (0x19AC, 0x19AF), (0x19CA, 0x19CF), (0x19DB, 0x19DD),
    (0x1A1C, 0x1A1D), (0x1A5F, 0x1A5F), (0x1A7D, 0x1A7E), (0x1A8A, 0x1A8F), (0x1A9A, 0x1A9F),
    (0x1AAE, 0x1AAF), (0x1ADE, 0x1ADF), (0x1AEC, 0x1AFF), (0x1B4D, 0x1B4D), (0x1BF4, 0x1BFB),
    (0x1C38, 0x1C3A), (0x1C4A, 0x1C4C), (0x1C8B, 0x1C8F), (0x1CBB, 0x1CBC), (0x1CC8, 0x1CCF),
    (0x1CFB, 0x1CFF), (0x1F16, 0x1F17), (0x1F1E, 0x1F1F), (0x1F46, 0x1F47), (0x1F4E, 0x1F4F),
    (0x1F58, 0x1F58), (0x1F5A, 0x1F5A), (0x1F5C, 0x1F5C), (0x1F5E, 0x1F5E), (0x1F7E, 0x1F7F),
    (0x1FB5, 0x1FB5), (0x1FC5, 0x1FC5), (0x1FD4, 0x1FD5), (0x1FDC, 0x1FDC), (0x1FF0, 0x1FF1),
    (0x1FF5, 0x1FF5), (0x1FFF, 0x1FFF), (0x200E, 0x200F), (0x2024, 0x2026), (0x2028, 0x202E),
    (0x2065, 0x2069), (0x2072, 0x2073), (0x208F, 0x208F), (0x209D, 0x209F)]

private def refusedU20C2ToU118FE : List (Nat × Nat) :=
  [(0x20C2, 0x20CF), (0x20F1, 0x20FF), (0x218C, 0x218F), (0x242A, 0x243F), (0x244B, 0x245F),
    (0x2488, 0x249B), (0x2B74, 0x2B75), (0x2CF4, 0x2CF8), (0x2D26, 0x2D26), (0x2D28, 0x2D2C),
    (0x2D2E, 0x2D2F), (0x2D68, 0x2D6E), (0x2D71, 0x2D7E), (0x2D97, 0x2D9F), (0x2DA7, 0x2DA7),
    (0x2DAF, 0x2DAF), (0x2DB7, 0x2DB7), (0x2DBF, 0x2DBF), (0x2DC7, 0x2DC7), (0x2DCF, 0x2DCF),
    (0x2DD7, 0x2DD7), (0x2DDF, 0x2DDF), (0x2E5E, 0x2E7F), (0x2E9A, 0x2E9A), (0x2EF4, 0x2EFF),
    (0x2FD6, 0x2FFF), (0x3040, 0x3040), (0x3097, 0x3098), (0x3100, 0x3104), (0x3130, 0x3130),
    (0x318F, 0x318F), (0x31E6, 0x31EF), (0x321F, 0x321F), (0x33C2, 0x33C2), (0x33C7, 0x33C7),
    (0x33D8, 0x33D8), (0xA48D, 0xA48F), (0xA4C7, 0xA4CF), (0xA62C, 0xA63F), (0xA6F8, 0xA6FF),
    (0xA7DD, 0xA7F0), (0xA82D, 0xA82F), (0xA83A, 0xA83F), (0xA878, 0xA87F), (0xA8C6, 0xA8CD),
    (0xA8DA, 0xA8DF), (0xA954, 0xA95E), (0xA97D, 0xA97F), (0xA9CE, 0xA9CE), (0xA9DA, 0xA9DD),
    (0xA9FF, 0xA9FF), (0xAA37, 0xAA3F), (0xAA4E, 0xAA4F), (0xAA5A, 0xAA5B), (0xAAC3, 0xAADA),
    (0xAAF7, 0xAB00), (0xAB07, 0xAB08), (0xAB0F, 0xAB10), (0xAB17, 0xAB1F), (0xAB27, 0xAB27),
    (0xAB2F, 0xAB2F), (0xAB6C, 0xAB6F), (0xABEE, 0xABEF), (0xABFA, 0xABFF), (0xD7A4, 0xD7AF),
    (0xD7C7, 0xD7CA), (0xD7FC, 0xF8FF), (0xFA6E, 0xFA6F), (0xFADA, 0xFAFF), (0xFB07, 0xFB12),
    (0xFB18, 0xFB1C), (0xFB37, 0xFB37), (0xFB3D, 0xFB3D), (0xFB3F, 0xFB3F), (0xFB42, 0xFB42),
    (0xFB45, 0xFB45), (0xFDD0, 0xFDEF), (0xFE12, 0xFE12), (0xFE19, 0xFE1F), (0xFE30, 0xFE30),
    (0xFE52, 0xFE53), (0xFE67, 0xFE67), (0xFE6C, 0xFE6F), (0xFE75, 0xFE75), (0xFEFD, 0xFEFE),
    (0xFF00, 0xFF00), (0xFFBF, 0xFFC1), (0xFFC8, 0xFFC9), (0xFFD0, 0xFFD1), (0xFFD8, 0xFFD9),
    (0xFFDD, 0xFFDF), (0xFFE7, 0xFFE7), (0xFFEF, 0xFFFF), (0x1000C, 0x1000C), (0x10027, 0x10027),
    (0x1003B, 0x1003B), (0x1003E, 0x1003E), (0x1004E, 0x1004F), (0x1005E, 0x1007F),
    (0x100FB, 0x100FF), (0x10103, 0x10106), (0x10134, 0x10136), (0x1018F, 0x1018F),
    (0x1019D, 0x1019F), (0x101A1, 0x101CF), (0x101FE, 0x1027F), (0x1029D, 0x1029F),
    (0x102D1, 0x102DF), (0x102FC, 0x102FF), (0x10324, 0x1032C), (0x1034B, 0x1034F),
    (0x1037B, 0x1037F), (0x1039E, 0x1039E), (0x103C4, 0x103C7), (0x103D6, 0x103FF),
    (0x1049E, 0x1049F), (0x104AA, 0x104AF), (0x104D4, 0x104D7), (0x104FC, 0x104FF),
    (0x10528, 0x1052F), (0x10564, 0x1056E), (0x1057B, 0x1057B), (0x1058B, 0x1058B),
    (0x10593, 0x10593), (0x10596, 0x10596), (0x105A2, 0x105A2), (0x105B2, 0x105B2),
    (0x105BA, 0x105BA), (0x105BD, 0x105BF), (0x105F4, 0x105FF), (0x10737, 0x1073F),
    (0x10756, 0x1075F), (0x10768, 0x1077F), (0x10786, 0x10786), (0x107B1, 0x107B1),
    (0x107BB, 0x107FF), (0x10806, 0x10807), (0x10809, 0x10809), (0x10836, 0x10836),
    (0x10839, 0x1083B), (0x1083D, 0x1083E), (0x10856, 0x10856), (0x1089F, 0x108A6),
    (0x108B0, 0x108DF), (0x108F3, 0x108F3), (0x108F6, 0x108FA), (0x1091C, 0x1091E),
    (0x1093A, 0x1093E), (0x1095A, 0x1097F), (0x109B8, 0x109BB), (0x109D0, 0x109D1),
    (0x10A04, 0x10A04), (0x10A07, 0x10A0B), (0x10A14, 0x10A14), (0x10A18, 0x10A18),
    (0x10A36, 0x10A37), (0x10A3B, 0x10A3E), (0x10A49, 0x10A4F), (0x10A59, 0x10A5F),
    (0x10AA0, 0x10ABF), (0x10AE7, 0x10AEA), (0x10AF7, 0x10AFF), (0x10B36, 0x10B38),
    (0x10B56, 0x10B57), (0x10B73, 0x10B77), (0x10B92, 0x10B98), (0x10B9D, 0x10BA8),
    (0x10BB0, 0x10BFF), (0x10C49, 0x10C7F), (0x10CB3, 0x10CBF), (0x10CF3, 0x10CF9),
    (0x10D28, 0x10D2F), (0x10D3A, 0x10D3F), (0x10D66, 0x10D68), (0x10D86, 0x10D8D),
    (0x10D90, 0x10E5F), (0x10E7F, 0x10E7F), (0x10EAA, 0x10EAA), (0x10EAE, 0x10EAF),
    (0x10EB2, 0x10EC1), (0x10EC8, 0x10ECF), (0x10ED9, 0x10EF9), (0x10F28, 0x10F2F),
    (0x10F5A, 0x10F6F), (0x10F8A, 0x10FAF), (0x10FCC, 0x10FDF), (0x10FF7, 0x10FFF),
    (0x1104E, 0x11051), (0x11076, 0x1107E), (0x110BD, 0x110BD), (0x110C3, 0x110CF),
    (0x110E9, 0x110EF), (0x110FA, 0x110FF), (0x11135, 0x11135), (0x11148, 0x1114F),
    (0x11177, 0x1117F), (0x111E0, 0x111E0), (0x111F5, 0x111FF), (0x11212, 0x11212),
    (0x11242, 0x1127F), (0x11287, 0x11287), (0x11289, 0x11289), (0x1128E, 0x1128E),
    (0x1129E, 0x1129E), (0x112AA, 0x112AF), (0x112EB, 0x112EF), (0x112FA, 0x112FF),
    (0x11304, 0x11304), (0x1130D, 0x1130E), (0x11311, 0x11312), (0x11329, 0x11329),
    (0x11331, 0x11331), (0x11334, 0x11334), (0x1133A, 0x1133A), (0x11345, 0x11346),
    (0x11349, 0x1134A), (0x1134E, 0x1134F), (0x11351, 0x11356), (0x11358, 0x1135C),
    (0x11364, 0x11365), (0x1136D, 0x1136F), (0x11375, 0x1137F), (0x1138A, 0x1138A),
    (0x1138C, 0x1138D), (0x1138F, 0x1138F), (0x113B6, 0x113B6), (0x113C1, 0x113C1),
    (0x113C3, 0x113C4), (0x113C6, 0x113C6), (0x113CB, 0x113CB), (0x113D6, 0x113D6),
    (0x113D9, 0x113E0), (0x113E3, 0x113FF), (0x1145C, 0x1145C), (0x11462, 0x1147F),
    (0x114C8, 0x114CF), (0x114DA, 0x1157F), (0x115B6, 0x115B7), (0x115DE, 0x115FF),
    (0x11645, 0x1164F), (0x1165A, 0x1165F), (0x1166D, 0x1167F), (0x116BA, 0x116BF),
    (0x116CA, 0x116CF), (0x116E4, 0x116FF), (0x1171B, 0x1171C), (0x1172C, 0x1172F),
    (0x11747, 0x117FF), (0x1183C, 0x1189F), (0x118F3, 0x118FE)]

private def refusedU11907ToU10FFFF : List (Nat × Nat) :=
  [(0x11907, 0x11908), (0x1190A, 0x1190B), (0x11914, 0x11914), (0x11917, 0x11917),
    (0x11936, 0x11936), (0x11939, 0x1193A), (0x11947, 0x1194F), (0x1195A, 0x1199F),
    (0x119A8, 0x119A9), (0x119D8, 0x119D9), (0x119E5, 0x119FF), (0x11A48, 0x11A4F),
    (0x11AA3, 0x11AAF), (0x11AF9, 0x11AFF), (0x11B0A, 0x11B5F), (0x11B68, 0x11BBF),
    (0x11BE2, 0x11BEF), (0x11BFA, 0x11BFF), (0x11C09, 0x11C09), (0x11C37, 0x11C37),
    (0x11C46, 0x11C4F), (0x11C6D, 0x11C6F), (0x11C90, 0x11C91), (0x11CA8, 0x11CA8),
    (0x11CB7, 0x11CFF), (0x11D07, 0x11D07), (0x11D0A, 0x11D0A), (0x11D37, 0x11D39),
    (0x11D3B, 0x11D3B), (0x11D3E, 0x11D3E), (0x11D48, 0x11D4F), (0x11D5A, 0x11D5F),
    (0x11D66, 0x11D66), (0x11D69, 0x11D69), (0x11D8F, 0x11D8F), (0x11D92, 0x11D92),
    (0x11D99, 0x11D9F), (0x11DAA, 0x11DAF), (0x11DDC, 0x11DDF), (0x11DEA, 0x11EDF),
    (0x11EF9, 0x11EFF), (0x11F11, 0x11F11), (0x11F3B, 0x11F3D), (0x11F5B, 0x11FAF),
    (0x11FB1, 0x11FBF), (0x11FF2, 0x11FFE), (0x1239A, 0x123FF), (0x1246F, 0x1246F),
    (0x12475, 0x1247F), (0x12544, 0x12F8F), (0x12FF3, 0x12FFF), (0x13430, 0x1343F),
    (0x13456, 0x1345F), (0x143FB, 0x143FF), (0x14647, 0x160FF), (0x1613A, 0x167FF),
    (0x16A39, 0x16A3F), (0x16A5F, 0x16A5F), (0x16A6A, 0x16A6D), (0x16ABF, 0x16ABF),
    (0x16ACA, 0x16ACF), (0x16AEE, 0x16AEF), (0x16AF6, 0x16AFF), (0x16B46, 0x16B4F),
    (0x16B5A, 0x16B5A), (0x16B62, 0x16B62), (0x16B78, 0x16B7C), (0x16B90, 0x16D3F),
    (0x16D7A, 0x16E3F), (0x16E9B, 0x16E9F), (0x16EB9, 0x16EBA), (0x16ED4, 0x16EFF),
    (0x16F4B, 0x16F4E), (0x16F88, 0x16F8E), (0x16FA0, 0x16FDF), (0x16FE5, 0x16FEF),
    (0x16FF7, 0x16FFF), (0x18CD6, 0x18CFE), (0x18D1F, 0x18D7F), (0x18DF3, 0x1AFEF),
    (0x1AFF4, 0x1AFF4), (0x1AFFC, 0x1AFFC), (0x1AFFF, 0x1AFFF), (0x1B123, 0x1B131),
    (0x1B133, 0x1B14F), (0x1B153, 0x1B154), (0x1B156, 0x1B163), (0x1B168, 0x1B16F),
    (0x1B2FC, 0x1BBFF), (0x1BC6B, 0x1BC6F), (0x1BC7D, 0x1BC7F), (0x1BC89, 0x1BC8F),
    (0x1BC9A, 0x1BC9B), (0x1BCA4, 0x1CBFF), (0x1CCFD, 0x1CCFF), (0x1CEB4, 0x1CEB9),
    (0x1CED1, 0x1CEDF), (0x1CEF1, 0x1CEFF), (0x1CF2E, 0x1CF2F), (0x1CF47, 0x1CF4F),
    (0x1CFC4, 0x1CFFF), (0x1D0F6, 0x1D0FF), (0x1D127, 0x1D128), (0x1D1EB, 0x1D1FF),
    (0x1D246, 0x1D2BF), (0x1D2D4, 0x1D2DF), (0x1D2F4, 0x1D2FF), (0x1D357, 0x1D35F),
    (0x1D379, 0x1D3FF), (0x1D455, 0x1D455), (0x1D49D, 0x1D49D), (0x1D4A0, 0x1D4A1),
    (0x1D4A3, 0x1D4A4), (0x1D4A7, 0x1D4A8), (0x1D4AD, 0x1D4AD), (0x1D4BA, 0x1D4BA),
    (0x1D4BC, 0x1D4BC), (0x1D4C4, 0x1D4C4), (0x1D506, 0x1D506), (0x1D50B, 0x1D50C),
    (0x1D515, 0x1D515), (0x1D51D, 0x1D51D), (0x1D53A, 0x1D53A), (0x1D53F, 0x1D53F),
    (0x1D545, 0x1D545), (0x1D547, 0x1D549), (0x1D551, 0x1D551), (0x1D6A6, 0x1D6A7),
    (0x1D7CC, 0x1D7CD), (0x1DA8C, 0x1DA9A), (0x1DAA0, 0x1DAA0), (0x1DAB0, 0x1DEFF),
    (0x1DF1F, 0x1DF24), (0x1DF2B, 0x1DFFF), (0x1E007, 0x1E007), (0x1E019, 0x1E01A),
    (0x1E022, 0x1E022), (0x1E025, 0x1E025), (0x1E02B, 0x1E02F), (0x1E06E, 0x1E08E),
    (0x1E090, 0x1E0FF), (0x1E12D, 0x1E12F), (0x1E13E, 0x1E13F), (0x1E14A, 0x1E14D),
    (0x1E150, 0x1E28F), (0x1E2AF, 0x1E2BF), (0x1E2FA, 0x1E2FE), (0x1E300, 0x1E4CF),
    (0x1E4FA, 0x1E5CF), (0x1E5FB, 0x1E5FE), (0x1E600, 0x1E6BF), (0x1E6DF, 0x1E6DF),
    (0x1E6F6, 0x1E6FD), (0x1E700, 0x1E7DF), (0x1E7E7, 0x1E7E7), (0x1E7EC, 0x1E7EC),
    (0x1E7EF, 0x1E7EF), (0x1E7FF, 0x1E7FF), (0x1E8C5, 0x1E8C6), (0x1E8D7, 0x1E8FF),
    (0x1E94C, 0x1E94F), (0x1E95A, 0x1E95D), (0x1E960, 0x1EC70), (0x1ECB5, 0x1ED00),
    (0x1ED3E, 0x1EDFF), (0x1EE04, 0x1EE04), (0x1EE20, 0x1EE20), (0x1EE23, 0x1EE23),
    (0x1EE25, 0x1EE26), (0x1EE28, 0x1EE28), (0x1EE33, 0x1EE33), (0x1EE38, 0x1EE38),
    (0x1EE3A, 0x1EE3A), (0x1EE3C, 0x1EE41), (0x1EE43, 0x1EE46), (0x1EE48, 0x1EE48),
    (0x1EE4A, 0x1EE4A), (0x1EE4C, 0x1EE4C), (0x1EE50, 0x1EE50), (0x1EE53, 0x1EE53),
    (0x1EE55, 0x1EE56), (0x1EE58, 0x1EE58), (0x1EE5A, 0x1EE5A), (0x1EE5C, 0x1EE5C),
    (0x1EE5E, 0x1EE5E), (0x1EE60, 0x1EE60), (0x1EE63, 0x1EE63), (0x1EE65, 0x1EE66),
    (0x1EE6B, 0x1EE6B), (0x1EE73, 0x1EE73), (0x1EE78, 0x1EE78), (0x1EE7D, 0x1EE7D),
    (0x1EE7F, 0x1EE7F), (0x1EE8A, 0x1EE8A), (0x1EE9C, 0x1EEA0), (0x1EEA4, 0x1EEA4),
    (0x1EEAA, 0x1EEAA), (0x1EEBC, 0x1EEEF), (0x1EEF2, 0x1EFFF), (0x1F02C, 0x1F02F),
    (0x1F094, 0x1F09F), (0x1F0AF, 0x1F0B0), (0x1F0C0, 0x1F0C0), (0x1F0D0, 0x1F0D0),
    (0x1F0F6, 0x1F100), (0x1F1AE, 0x1F1E5), (0x1F203, 0x1F20F), (0x1F23C, 0x1F23F),
    (0x1F249, 0x1F24F), (0x1F252, 0x1F25F), (0x1F266, 0x1F2FF), (0x1F6D9, 0x1F6DB),
    (0x1F6ED, 0x1F6EF), (0x1F6FD, 0x1F6FF), (0x1F7DA, 0x1F7DF), (0x1F7EC, 0x1F7EF),
    (0x1F7F1, 0x1F7FF), (0x1F80C, 0x1F80F), (0x1F848, 0x1F84F), (0x1F85A, 0x1F85F),
    (0x1F888, 0x1F88F), (0x1F8AE, 0x1F8AF), (0x1F8BC, 0x1F8BF), (0x1F8C2, 0x1F8CF),
    (0x1F8D9, 0x1F8FF), (0x1FA58, 0x1FA5F), (0x1FA6E, 0x1FA6F), (0x1FA7D, 0x1FA7F),
    (0x1FA8B, 0x1FA8D), (0x1FAC7, 0x1FAC7), (0x1FAC9, 0x1FACC), (0x1FADD, 0x1FADE),
    (0x1FAEB, 0x1FAEE), (0x1FAF9, 0x1FAFF), (0x1FB93, 0x1FB93), (0x1FBFB, 0x1FFFF),
    (0x2A6E0, 0x2A6FF), (0x2B81E, 0x2B81F), (0x2CEAE, 0x2CEAF), (0x2EBE1, 0x2EBEF),
    (0x2EE5E, 0x2F7FF), (0x2FA1E, 0x2FFFF), (0x3134B, 0x3134F), (0x3347A, 0xE00FF),
    (0xE01F0, 0x10FFFF)]

/-- The characters that no domain may hold. -/
def refused : CodeTable :=
  ⟨(refusedU0080ToU209F ++ refusedU20C2ToU118FE ++ refusedU11907ToU10FFFF).toArray⟩

end LinkPreview.Url.Domain
