/-!
# Letters and signs

Letters, digits and signs of the scripts written from left to right that stand for others: small
and raised letters, ligatures, fractions, letters in circles and letters without a simple rule for
their case.

The table follows version 18 of the mapping that Unicode gives for domain names.
-/

namespace RevisionControl.Web.Spelling

/-- Runs of such characters: the number of the first, and what each of them stands for. -/
def letters : List (Nat × List String) :=
  [(0xaa, ["a"]), (0xb2, ["2", "3"]), (0xb5, ["μ"]), (0xb9, ["1", "o"]),
   (0xbc, ["1⁄4", "1⁄2", "3⁄4"]), (0x130, ["i\u0307"]), (0x132, ["ij", "ij", "ĵ"]), (0x136, ["ķ"]),
   (0x13f, ["l·", "l·"]), (0x149, ["ʼn"]), (0x178, ["ÿ"]), (0x17f, ["s"]), (0x181, ["ɓ", "ƃ"]),
   (0x184, ["ƅ"]), (0x186, ["ɔ", "ƈ"]), (0x189, ["ɖ", "ɗ", "ƌ"]), (0x18e, ["ǝ", "ə", "ɛ", "ƒ"]),
   (0x193, ["ɠ", "ɣ"]), (0x196, ["ɩ", "ɨ", "ƙ"]), (0x19c, ["ɯ", "ɲ"]), (0x19f, ["ɵ"]),
   (0x1a6, ["ʀ", "ƨ"]), (0x1a9, ["ʃ"]), (0x1ac, ["ƭ"]), (0x1ae, ["ʈ", "ư"]),
   (0x1b1, ["ʊ", "ʋ", "ƴ"]), (0x1b5, ["ƶ"]), (0x1b7, ["ʒ", "ƹ"]), (0x1bc, ["ƽ"]),
   (0x1c4, ["dž", "dž", "dž", "lj", "lj", "lj", "nj", "nj", "nj"]),
   (0x1f1, ["dz", "dz", "dz", "ǵ"]), (0x1f6, ["ƕ", "ƿ"]), (0x220, ["ƞ"]), (0x23a, ["ⱥ", "ȼ"]),
   (0x23d, ["ƚ", "ⱦ"]), (0x241, ["ɂ"]), (0x243, ["ƀ", "ʉ", "ʌ"]),
   (0x2b0, ["h", "ɦ", "j", "r", "ɹ", "ɻ", "ʁ", "w", "y"]), (0x2e0, ["ɣ", "l", "s", "x", "ʕ"]),
   (0x340, ["\u0300", "\u0301"]), (0x343, ["\u0313", "\u0308\u0301", "ι"]), (0x370, ["ͱ"]),
   (0x372, ["ͳ"]), (0x374, ["ʹ"]), (0x376, ["ͷ"]), (0x37e, [";", "ϳ"]),
   (0x386, ["ά", "·", "έ", "ή", "ί"]), (0x38c, ["ό"]), (0x38e, ["ύ", "ώ"]),
   (0x3cf, ["ϗ", "β", "θ", "υ", "ύ", "ϋ", "φ", "π"]), (0x3f0, ["κ", "ρ", "σ"]),
   (0x3f4, ["θ", "ε"]), (0x3f7, ["ϸ"]), (0x3f9, ["σ", "ϻ"]), (0x3fd, ["ͻ", "ͼ", "ͽ"]),
   (0x4c0, ["ӏ"]), (0x558, ["է"]), (0x587, ["եւ"]), (0x58b, ["ի"]),
   (0x958, ["क\u093c", "ख\u093c", "ग\u093c", "ज\u093c", "ड\u093c", "ढ\u093c", "फ\u093c",
      "य\u093c"]),
   (0x9dc, ["ড\u09bc", "ঢ\u09bc"]), (0x9df, ["য\u09bc"]), (0xa33, ["ਲ\u0a3c"]),
   (0xa36, ["ਸ\u0a3c"]), (0xa59, ["ਖ\u0a3c", "ਗ\u0a3c", "ਜ\u0a3c"]), (0xa5e, ["ਫ\u0a3c"]),
   (0xb5c, ["ଡ\u0b3c", "ଢ\u0b3c"]), (0xe33, ["\u0e4dา"]), (0xeb3, ["\u0ecdາ"]),
   (0xedc, ["ຫນ", "ຫມ"]), (0xf0c, ["་"]), (0xf43, ["ག\u0fb7"]), (0xf4d, ["ཌ\u0fb7"]),
   (0xf52, ["ད\u0fb7"]), (0xf57, ["བ\u0fb7"]), (0xf5c, ["ཛ\u0fb7"]), (0xf69, ["ཀ\u0fb5"]),
   (0xf73, ["\u0f71\u0f72"]),
   (0xf75, ["\u0f71\u0f74", "\u0fb2\u0f80", "\u0fb2\u0f71\u0f80", "\u0fb3\u0f80",
      "\u0fb3\u0f71\u0f80"]),
   (0xf81, ["\u0f71\u0f80"]), (0xf93, ["\u0f92\u0fb7"]), (0xf9d, ["\u0f9c\u0fb7"]),
   (0xfa2, ["\u0fa1\u0fb7"]), (0xfa7, ["\u0fa6\u0fb7"]), (0xfac, ["\u0fab\u0fb7"]),
   (0xfb9, ["\u0f90\u0fb5"]), (0x10c7, ["ⴧ"]), (0x10cd, ["ⴭ"]), (0x10fc, ["ნ"]),
   (0x1c80, ["в", "д", "о", "с", "т", "т", "ъ", "ѣ", "ꙋ", "ᲊ"]), (0x1cbd, ["ჽ", "ჾ", "ჿ"]),
   (0x1d2c, ["a", "æ", "b"]), (0x1d30, ["d", "e", "ǝ"]),
   (0x1d3c, ["o", "ȣ", "p", "r", "t", "u", "w", "a", "ɐ", "ɑ", "ᴂ", "b", "d", "e", "ə", "ɛ", "ɜ",
      "g"]),
   (0x1d4f, ["k", "m", "ŋ", "o", "ɔ", "ᴖ", "ᴗ", "p", "t", "u", "ᴝ", "ɯ", "v", "ᴥ", "β", "γ", "δ",
      "φ", "χ", "i", "r", "u", "v", "β", "γ", "ρ", "φ", "χ"]),
   (0x1d78, ["н"]),
   (0x1d9b, ["ɒ", "c", "ɕ", "ð", "ɜ", "f", "ɟ", "ɡ", "ɥ", "ɨ", "ɩ", "ɪ", "ᵻ", "ʝ", "ɭ", "ᶅ", "ʟ",
      "ɱ", "ɰ"]),
   (0x1db2, ["ɸ", "ʂ", "ʃ", "ƫ", "ʉ", "ʊ", "ᴜ", "ʋ", "ʌ", "z", "ʐ", "ʑ", "ʒ", "θ"]),
   (0x1e9a, ["aʾ", "ṡ"]), (0x1e9e, ["ß"]), (0x1f59, ["ὑ"]), (0x1f5b, ["ὓ"]), (0x1f5d, ["ὕ"]),
   (0x1f5f, ["ὗ"]), (0x1f71, ["ά"]), (0x1f73, ["έ"]), (0x1f75, ["ή"]), (0x1f77, ["ί"]),
   (0x1f79, ["ό"]), (0x1f7b, ["ύ"]), (0x1f7d, ["ώ"]),
   (0x1f80, ["ἀι", "ἁι", "ἂι", "ἃι", "ἄι", "ἅι", "ἆι", "ἇι", "ἀι", "ἁι", "ἂι", "ἃι", "ἄι", "ἅι",
      "ἆι", "ἇι", "ἠι", "ἡι", "ἢι", "ἣι", "ἤι", "ἥι", "ἦι", "ἧι", "ἠι", "ἡι", "ἢι", "ἣι", "ἤι",
      "ἥι", "ἦι", "ἧι", "ὠι", "ὡι", "ὢι", "ὣι", "ὤι", "ὥι", "ὦι", "ὧι", "ὠι", "ὡι", "ὢι", "ὣι",
      "ὤι", "ὥι", "ὦι", "ὧι"]),
   (0x1fb2, ["ὰι", "αι", "άι"]), (0x1fb7, ["ᾶι", "ᾰ", "ᾱ", "ὰ", "ά", "αι"]), (0x1fbe, ["ι"]),
   (0x1fc2, ["ὴι", "ηι", "ήι"]), (0x1fc7, ["ῆι", "ὲ", "έ", "ὴ", "ή", "ηι"]), (0x1fd3, ["ΐ"]),
   (0x1fd8, ["ῐ", "ῑ", "ὶ", "ί"]), (0x1fe3, ["ΰ"]), (0x1fe8, ["ῠ", "ῡ", "ὺ", "ύ", "ῥ"]),
   (0x1fef, ["`"]), (0x1ff2, ["ὼι", "ωι", "ώι"]), (0x1ff7, ["ῶι", "ὸ", "ό", "ὼ", "ώ", "ωι"]),
   (0x2011, ["‐"]), (0x2033, ["′′", "′′′"]), (0x2036, ["‵‵", "‵‵‵"]), (0x203c, ["!!"]),
   (0x2057, ["′′′′"]), (0x2070, ["0", "i"]), (0x207a, ["+", "−", "=", "(", ")", "n"]),
   (0x208a, ["+", "−", "=", "(", ")"]), (0x2090, ["a", "e", "o", "x", "ə", "h"]),
   (0x209a, ["p", "s", "t", "w", "y", "z"]), (0x20a8, ["rs"]), (0x2102, ["c", "°c"]),
   (0x2107, ["ɛ"]),
   (0x2109, ["°f", "g", "h", "h", "h", "h", "ħ", "i", "i", "l", "l"]), (0x2115, ["n", "no"]),
   (0x2119, ["p", "q", "r", "r", "r"]), (0x2120, ["sm", "tel", "tm"]), (0x2124, ["z"]),
   (0x2126, ["ω"]), (0x2128, ["z"]), (0x212a, ["k", "å", "b", "c"]),
   (0x212f, ["e", "e", "f", "ⅎ", "m", "o"]), (0x2139, ["i"]),
   (0x213b, ["fax", "π", "γ", "γ", "π", "∑"]), (0x2145, ["d", "d", "e", "i", "j"]),
   (0x2150, ["1⁄7", "1⁄9", "1⁄10", "1⁄3", "2⁄3", "1⁄5", "2⁄5", "3⁄5", "4⁄5", "1⁄6", "5⁄6", "1⁄8",
      "3⁄8", "5⁄8", "7⁄8", "1⁄", "i", "ii", "iii", "iv", "v", "vi", "vii", "viii", "ix", "x", "xi",
      "xii", "l", "c", "d", "m", "i", "ii", "iii", "iv", "v", "vi", "vii", "viii", "ix", "x", "xi",
      "xii", "l", "c", "d", "m"]),
   (0x2183, ["ↄ"]), (0x2189, ["0⁄3"]), (0x222c, ["∫∫", "∫∫∫"]), (0x222f, ["∮∮", "∮∮∮"]),
   (0x2329, ["〈", "〉"]),
   (0x2469, ["10", "11", "12", "13", "14", "15", "16", "17", "18", "19", "20", "(1)", "(2)", "(3)",
      "(4)", "(5)", "(6)", "(7)", "(8)", "(9)", "(10)", "(11)", "(12)", "(13)", "(14)", "(15)",
      "(16)", "(17)", "(18)", "(19)", "(20)"]),
   (0x249c, ["(a)", "(b)", "(c)", "(d)", "(e)", "(f)", "(g)", "(h)", "(i)", "(j)", "(k)", "(l)",
      "(m)", "(n)", "(o)", "(p)", "(q)", "(r)", "(s)", "(t)", "(u)", "(v)", "(w)", "(x)", "(y)",
      "(z)"]),
   (0x24ea, ["0"]), (0x2a0c, ["∫∫∫∫"]), (0x2a75, ["==", "==="]), (0x2adc, ["⫝\u0338"]),
   (0x2c60, ["ⱡ"]), (0x2c62, ["ɫ", "ᵽ", "ɽ"]), (0x2c6d, ["ɑ", "ɱ", "ɐ", "ɒ"]), (0x2c72, ["ⱳ"]),
   (0x2c75, ["ⱶ"]), (0x2c7c, ["j", "v", "ȿ", "ɀ"]), (0x2ceb, ["ⳬ"]), (0x2ced, ["ⳮ"]),
   (0x2cf2, ["ⳳ"]), (0x2d6f, ["ⵡ"]), (0xa69c, ["ъ", "ь"]), (0xa770, ["ꝯ"]), (0xa779, ["ꝺ"]),
   (0xa77b, ["ꝼ"]), (0xa77d, ["ᵹ"]), (0xa78b, ["ꞌ"]), (0xa78d, ["ɥ"]), (0xa790, ["ꞑ"]),
   (0xa792, ["ꞓ"]), (0xa7aa, ["ɦ", "ɜ", "ɡ", "ɬ", "ɪ"]), (0xa7b0, ["ʞ", "ʇ", "ʝ", "ꭓ"]),
   (0xa7c4, ["ꞔ", "ʂ", "ᶎ", "ꟈ"]), (0xa7c9, ["ꟊ"]), (0xa7cb, ["ɤ"]), (0xa7dc, ["ƛ"]),
   (0xa7f1, ["s", "c", "f", "q", "ꟶ"]), (0xa7f8, ["ħ", "œ"]), (0xab5c, ["ꜧ", "ꬷ", "ɫ", "ꭒ"]),
   (0xab69, ["ʍ"]), (0xab6c, ["ꭋ", "ꭌ"]), (0xfb00, ["ff", "fi", "fl", "ffi", "ffl", "st", "st"]),
   (0xfb13, ["մն", "մե", "մի", "վն", "մխ"]), (0xfe10, [",", "、"]), (0xfe14, [";", "!"]),
   (0xfe17, ["〖", "〗"]), (0xfe50, [",", "、"]), (0xfe54, [";"]),
   (0xfe57, ["!", "—", "(", ")", "\x7b", "\x7d", "〔", "〕"]),
   (0xfe60, ["&", "*", "+", "-", "<", ">", "="]), (0xfe69, ["$"]), (0x10594, ["𐖻", "𐖼"]),
   (0x10781, ["ː", "ˑ", "æ", "ʙ", "ɓ"]),
   (0x10787, ["ʣ", "ꭦ", "ʥ", "ʤ", "ɖ", "ɗ", "ᶑ", "ɘ", "ɞ", "ʩ", "ɤ", "ɢ", "ɠ", "ʛ", "ħ", "ʜ", "ɧ",
      "ʄ", "ʪ", "ʫ", "ɬ", "𝼄", "ꞎ", "ɮ", "𝼅", "ʎ", "𝼆", "ø", "ɶ", "ɷ", "q", "ɺ", "𝼈", "ɽ", "ɾ", "ʀ",
      "ʨ", "ʦ", "ꭧ", "ʧ", "ʈ", "ⱱ"]),
   (0x107b2, ["ʏ", "ʡ", "ʢ", "ʘ", "ǀ", "ǁ", "ǂ", "𝼊", "𝼞", "ʇ", "ʖ", "ʗ", "ʞ", "𝼋"]),
   (0x1b123, ["こと", "トキ", "トモ", "ドモ"]), (0x1d15e, ["𝅗𝅥", "𝅘𝅥", "𝅘𝅥𝅮", "𝅘𝅥𝅯", "𝅘𝅥𝅰", "𝅘𝅥𝅱", "𝅘𝅥𝅲"]),
   (0x1d1bb, ["𝆹𝅥", "𝆺𝅥", "𝆹𝅥𝅮", "𝆺𝅥𝅮", "𝆹𝅥𝅯", "𝆺𝅥𝅯"]), (0x1d49c, ["a"]), (0x1d49e, ["c", "d"]),
   (0x1d4a2, ["g"]), (0x1d4a5, ["j", "k"]), (0x1d4bb, ["f"]), (0x1d504, ["a", "b"]),
   (0x1d538, ["a", "b"]), (0x1d546, ["o"]), (0x1d6a4, ["ı", "ȷ", "ss"]), (0x1d6b9, ["θ"]),
   (0x1d6c1, ["∇"]), (0x1d6d3, ["σ"]), (0x1d6db, ["∂", "ε", "θ", "κ", "φ", "ρ", "π"]),
   (0x1d6f3, ["θ"]), (0x1d6fb, ["∇"]), (0x1d70d, ["σ"]),
   (0x1d715, ["∂", "ε", "θ", "κ", "φ", "ρ", "π"]), (0x1d72d, ["θ"]), (0x1d735, ["∇"]),
   (0x1d747, ["σ"]), (0x1d74f, ["∂", "ε", "θ", "κ", "φ", "ρ", "π"]), (0x1d767, ["θ"]),
   (0x1d76f, ["∇"]), (0x1d781, ["σ"]), (0x1d789, ["∂", "ε", "θ", "κ", "φ", "ρ", "π"]),
   (0x1d7a1, ["θ"]), (0x1d7a9, ["∇"]), (0x1d7bb, ["σ"]),
   (0x1d7c3, ["∂", "ε", "θ", "κ", "φ", "ρ", "π", "ϝ", "ϝ"]), (0x1df95, ["ss"]),
   (0x1dfcd, ["𝽗"]), (0x1dfd5, ["ł"]), (0x1dfd9, ["ɉ"]), (0x1dfff, ["𝼉"]),
   (0x1e039, ["к", "л", "м"]), (0x1e047, ["ы", "э", "ю", "ꚉ", "ә", "і", "ј", "ө", "ү", "ӏ"]),
   (0x1e05a, ["к", "л", "о", "п", "с"]), (0x1e065, ["ъ", "ы", "ґ", "і", "ѕ", "џ", "ҫ", "ꙑ", "ұ"]),
   (0x1f101, ["0,", "1,", "2,", "3,", "4,", "5,", "6,", "7,", "8,", "9,"]),
   (0x1f110, ["(a)", "(b)", "(c)", "(d)", "(e)", "(f)", "(g)", "(h)", "(i)", "(j)", "(k)", "(l)",
      "(m)", "(n)", "(o)", "(p)", "(q)", "(r)", "(s)", "(t)", "(u)", "(v)", "(w)", "(x)", "(y)",
      "(z)", "〔s〕", "c", "r", "cd", "wz"]),
   (0x1f14a, ["hv", "mv", "sd", "ss", "ppv", "wc"]), (0x1f16a, ["mc", "md", "mr"]),
   (0x1f190, ["dj"])]

end RevisionControl.Web.Spelling
