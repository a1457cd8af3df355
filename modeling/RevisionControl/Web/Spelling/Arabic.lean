/-!
# Letters of the Arabic script

Forms that letters of the Hebrew and the Arabic script take at some place of a word or in a formula,
and signs for several of them.

The table follows version 18 of the mapping that Unicode gives for domain names.
-/

namespace RevisionControl.Web.Spelling

/-- Runs of such characters: the number of the first, and what each of them stands for. -/
def arabicLetters : List (Nat × List String) :=
  [(0x675, ["\u0627\u0674", "\u0648\u0674", "\u06c7\u0674", "\u064a\u0674"]),
   (0xfb1d, ["\u05d9\u05b4"]),
   (0xfb1f, ["\u05f2\u05b7", "\u05e2", "\u05d0", "\u05d3", "\u05d4", "\u05db", "\u05dc", "\u05dd",
      "\u05e8", "\u05ea", "+", "\u05e9\u05c1", "\u05e9\u05c2", "\u05e9\u05bc\u05c1",
      "\u05e9\u05bc\u05c2", "\u05d0\u05b7", "\u05d0\u05b8", "\u05d0\u05bc", "\u05d1\u05bc",
      "\u05d2\u05bc", "\u05d3\u05bc", "\u05d4\u05bc", "\u05d5\u05bc", "\u05d6\u05bc"]),
   (0xfb38, ["\u05d8\u05bc", "\u05d9\u05bc", "\u05da\u05bc", "\u05db\u05bc", "\u05dc\u05bc"]),
   (0xfb3e, ["\u05de\u05bc"]), (0xfb40, ["\u05e0\u05bc", "\u05e1\u05bc"]),
   (0xfb43, ["\u05e3\u05bc", "\u05e4\u05bc"]),
   (0xfb46, ["\u05e6\u05bc", "\u05e7\u05bc", "\u05e8\u05bc", "\u05e9\u05bc", "\u05ea\u05bc",
      "\u05d5\u05b9", "\u05d1\u05bf", "\u05db\u05bf", "\u05e4\u05bf", "\u05d0\u05dc", "\u0671",
      "\u0671", "\u067b", "\u067b", "\u067b", "\u067b", "\u067e", "\u067e", "\u067e", "\u067e",
      "\u0680", "\u0680", "\u0680", "\u0680", "\u067a", "\u067a", "\u067a", "\u067a", "\u067f",
      "\u067f", "\u067f", "\u067f", "\u0679", "\u0679", "\u0679", "\u0679", "\u06a4", "\u06a4",
      "\u06a4", "\u06a4", "\u06a6", "\u06a6", "\u06a6", "\u06a6", "\u0684", "\u0684", "\u0684",
      "\u0684", "\u0683", "\u0683", "\u0683", "\u0683", "\u0686", "\u0686", "\u0686", "\u0686",
      "\u0687", "\u0687", "\u0687", "\u0687", "\u068d", "\u068d", "\u068c", "\u068c", "\u068e",
      "\u068e", "\u0688", "\u0688", "\u0698", "\u0698", "\u0691", "\u0691", "\u06a9", "\u06a9",
      "\u06a9", "\u06a9", "\u06af", "\u06af", "\u06af", "\u06af", "\u06b3", "\u06b3", "\u06b3",
      "\u06b3", "\u06b1", "\u06b1", "\u06b1", "\u06b1", "\u06ba", "\u06ba", "\u06bb", "\u06bb",
      "\u06bb", "\u06bb", "\u06c0", "\u06c0", "\u06c1", "\u06c1", "\u06c1", "\u06c1", "\u06be",
      "\u06be", "\u06be", "\u06be", "\u06d2", "\u06d2", "\u06d3", "\u06d3"]),
   (0xfbd3, ["\u06ad", "\u06ad", "\u06ad", "\u06ad", "\u06c7", "\u06c7", "\u06c6", "\u06c6",
      "\u06c8", "\u06c8", "\u06c7\u0674", "\u06cb", "\u06cb", "\u06c5", "\u06c5", "\u06c9",
      "\u06c9", "\u06d0", "\u06d0", "\u06d0", "\u06d0", "\u0649", "\u0649", "\u0626\u0627",
      "\u0626\u0627", "\u0626\u06d5", "\u0626\u06d5", "\u0626\u0648", "\u0626\u0648",
      "\u0626\u06c7", "\u0626\u06c7", "\u0626\u06c6", "\u0626\u06c6", "\u0626\u06c8",
      "\u0626\u06c8", "\u0626\u06d0", "\u0626\u06d0", "\u0626\u06d0", "\u0626\u0649",
      "\u0626\u0649", "\u0626\u0649", "\u06cc", "\u06cc", "\u06cc", "\u06cc", "\u0626\u062c",
      "\u0626\u062d", "\u0626\u0645", "\u0626\u0649", "\u0626\u064a", "\u0628\u062c",
      "\u0628\u062d", "\u0628\u062e", "\u0628\u0645", "\u0628\u0649", "\u0628\u064a",
      "\u062a\u062c", "\u062a\u062d", "\u062a\u062e", "\u062a\u0645", "\u062a\u0649",
      "\u062a\u064a", "\u062b\u062c", "\u062b\u0645", "\u062b\u0649", "\u062b\u064a",
      "\u062c\u062d", "\u062c\u0645", "\u062d\u062c", "\u062d\u0645", "\u062e\u062c",
      "\u062e\u062d", "\u062e\u0645", "\u0633\u062c", "\u0633\u062d", "\u0633\u062e",
      "\u0633\u0645", "\u0635\u062d", "\u0635\u0645", "\u0636\u062c", "\u0636\u062d",
      "\u0636\u062e", "\u0636\u0645", "\u0637\u062d", "\u0637\u0645", "\u0638\u0645",
      "\u0639\u062c", "\u0639\u0645", "\u063a\u062c", "\u063a\u0645", "\u0641\u062c",
      "\u0641\u062d", "\u0641\u062e", "\u0641\u0645", "\u0641\u0649", "\u0641\u064a",
      "\u0642\u062d", "\u0642\u0645", "\u0642\u0649", "\u0642\u064a", "\u0643\u0627",
      "\u0643\u062c", "\u0643\u062d", "\u0643\u062e", "\u0643\u0644", "\u0643\u0645",
      "\u0643\u0649", "\u0643\u064a", "\u0644\u062c", "\u0644\u062d", "\u0644\u062e",
      "\u0644\u0645", "\u0644\u0649", "\u0644\u064a", "\u0645\u062c", "\u0645\u062d",
      "\u0645\u062e", "\u0645\u0645", "\u0645\u0649", "\u0645\u064a", "\u0646\u062c",
      "\u0646\u062d", "\u0646\u062e", "\u0646\u0645", "\u0646\u0649", "\u0646\u064a",
      "\u0647\u062c", "\u0647\u0645", "\u0647\u0649", "\u0647\u064a", "\u064a\u062c",
      "\u064a\u062d", "\u064a\u062e", "\u064a\u0645", "\u064a\u0649", "\u064a\u064a",
      "\u0630\u0670", "\u0631\u0670", "\u0649\u0670"]),
   (0xfc64, ["\u0626\u0631", "\u0626\u0632", "\u0626\u0645", "\u0626\u0646", "\u0626\u0649",
      "\u0626\u064a", "\u0628\u0631", "\u0628\u0632", "\u0628\u0645", "\u0628\u0646",
      "\u0628\u0649", "\u0628\u064a", "\u062a\u0631", "\u062a\u0632", "\u062a\u0645",
      "\u062a\u0646", "\u062a\u0649", "\u062a\u064a", "\u062b\u0631", "\u062b\u0632",
      "\u062b\u0645", "\u062b\u0646", "\u062b\u0649", "\u062b\u064a", "\u0641\u0649",
      "\u0641\u064a", "\u0642\u0649", "\u0642\u064a", "\u0643\u0627", "\u0643\u0644",
      "\u0643\u0645", "\u0643\u0649", "\u0643\u064a", "\u0644\u0645", "\u0644\u0649",
      "\u0644\u064a", "\u0645\u0627", "\u0645\u0645", "\u0646\u0631", "\u0646\u0632",
      "\u0646\u0645", "\u0646\u0646", "\u0646\u0649", "\u0646\u064a", "\u0649\u0670",
      "\u064a\u0631", "\u064a\u0632", "\u064a\u0645", "\u064a\u0646", "\u064a\u0649",
      "\u064a\u064a", "\u0626\u062c", "\u0626\u062d", "\u0626\u062e", "\u0626\u0645",
      "\u0626\u0647", "\u0628\u062c", "\u0628\u062d", "\u0628\u062e", "\u0628\u0645",
      "\u0628\u0647", "\u062a\u062c", "\u062a\u062d", "\u062a\u062e", "\u062a\u0645",
      "\u062a\u0647", "\u062b\u0645", "\u062c\u062d", "\u062c\u0645", "\u062d\u062c",
      "\u062d\u0645", "\u062e\u062c", "\u062e\u0645", "\u0633\u062c", "\u0633\u062d",
      "\u0633\u062e", "\u0633\u0645", "\u0635\u062d", "\u0635\u062e", "\u0635\u0645",
      "\u0636\u062c", "\u0636\u062d", "\u0636\u062e", "\u0636\u0645", "\u0637\u062d",
      "\u0638\u0645", "\u0639\u062c", "\u0639\u0645", "\u063a\u062c", "\u063a\u0645",
      "\u0641\u062c", "\u0641\u062d", "\u0641\u062e", "\u0641\u0645", "\u0642\u062d",
      "\u0642\u0645", "\u0643\u062c", "\u0643\u062d", "\u0643\u062e", "\u0643\u0644",
      "\u0643\u0645", "\u0644\u062c", "\u0644\u062d", "\u0644\u062e", "\u0644\u0645",
      "\u0644\u0647", "\u0645\u062c", "\u0645\u062d", "\u0645\u062e", "\u0645\u0645",
      "\u0646\u062c", "\u0646\u062d", "\u0646\u062e", "\u0646\u0645", "\u0646\u0647",
      "\u0647\u062c", "\u0647\u0645", "\u0647\u0670", "\u064a\u062c", "\u064a\u062d",
      "\u064a\u062e", "\u064a\u0645", "\u064a\u0647", "\u0626\u0645", "\u0626\u0647",
      "\u0628\u0645", "\u0628\u0647", "\u062a\u0645", "\u062a\u0647", "\u062b\u0645",
      "\u062b\u0647", "\u0633\u0645", "\u0633\u0647", "\u0634\u0645", "\u0634\u0647",
      "\u0643\u0644", "\u0643\u0645", "\u0644\u0645", "\u0646\u0645", "\u0646\u0647",
      "\u064a\u0645", "\u064a\u0647", "\u0640\u064e\u0651", "\u0640\u064f\u0651",
      "\u0640\u0650\u0651", "\u0637\u0649", "\u0637\u064a", "\u0639\u0649", "\u0639\u064a",
      "\u063a\u0649", "\u063a\u064a", "\u0633\u0649", "\u0633\u064a", "\u0634\u0649",
      "\u0634\u064a", "\u062d\u0649", "\u062d\u064a", "\u062c\u0649", "\u062c\u064a",
      "\u062e\u0649", "\u062e\u064a", "\u0635\u0649", "\u0635\u064a", "\u0636\u0649",
      "\u0636\u064a", "\u0634\u062c", "\u0634\u062d", "\u0634\u062e", "\u0634\u0645",
      "\u0634\u0631", "\u0633\u0631", "\u0635\u0631", "\u0636\u0631", "\u0637\u0649",
      "\u0637\u064a", "\u0639\u0649", "\u0639\u064a", "\u063a\u0649", "\u063a\u064a",
      "\u0633\u0649", "\u0633\u064a", "\u0634\u0649", "\u0634\u064a", "\u062d\u0649",
      "\u062d\u064a", "\u062c\u0649", "\u062c\u064a", "\u062e\u0649", "\u062e\u064a",
      "\u0635\u0649", "\u0635\u064a", "\u0636\u0649", "\u0636\u064a", "\u0634\u062c",
      "\u0634\u062d", "\u0634\u062e", "\u0634\u0645", "\u0634\u0631", "\u0633\u0631",
      "\u0635\u0631", "\u0636\u0631", "\u0634\u062c", "\u0634\u062d", "\u0634\u062e",
      "\u0634\u0645", "\u0633\u0647", "\u0634\u0647", "\u0637\u0645", "\u0633\u062c",
      "\u0633\u062d", "\u0633\u062e", "\u0634\u062c", "\u0634\u062d", "\u0634\u062e",
      "\u0637\u0645", "\u0638\u0645", "\u0627\u064b", "\u0627\u064b"]),
   (0xfd50, ["\u062a\u062c\u0645", "\u062a\u062d\u062c", "\u062a\u062d\u062c", "\u062a\u062d\u0645",
      "\u062a\u062e\u0645", "\u062a\u0645\u062c", "\u062a\u0645\u062d", "\u062a\u0645\u062e",
      "\u062c\u0645\u062d", "\u062c\u0645\u062d", "\u062d\u0645\u064a", "\u062d\u0645\u0649",
      "\u0633\u062d\u062c", "\u0633\u062c\u062d", "\u0633\u062c\u0649", "\u0633\u0645\u062d",
      "\u0633\u0645\u062d", "\u0633\u0645\u062c", "\u0633\u0645\u0645", "\u0633\u0645\u0645",
      "\u0635\u062d\u062d", "\u0635\u062d\u062d", "\u0635\u0645\u0645", "\u0634\u062d\u0645",
      "\u0634\u062d\u0645", "\u0634\u062c\u064a", "\u0634\u0645\u062e", "\u0634\u0645\u062e",
      "\u0634\u0645\u0645", "\u0634\u0645\u0645", "\u0636\u062d\u0649", "\u0636\u062e\u0645",
      "\u0636\u062e\u0645", "\u0637\u0645\u062d", "\u0637\u0645\u062d", "\u0637\u0645\u0645",
      "\u0637\u0645\u064a", "\u0639\u062c\u0645", "\u0639\u0645\u0645", "\u0639\u0645\u0645",
      "\u0639\u0645\u0649", "\u063a\u0645\u0645", "\u063a\u0645\u064a", "\u063a\u0645\u0649",
      "\u0641\u062e\u0645", "\u0641\u062e\u0645", "\u0642\u0645\u062d", "\u0642\u0645\u0645",
      "\u0644\u062d\u0645", "\u0644\u062d\u064a", "\u0644\u062d\u0649", "\u0644\u062c\u062c",
      "\u0644\u062c\u062c", "\u0644\u062e\u0645", "\u0644\u062e\u0645", "\u0644\u0645\u062d",
      "\u0644\u0645\u062d", "\u0645\u062d\u062c", "\u0645\u062d\u0645", "\u0645\u062d\u064a",
      "\u0645\u062c\u062d", "\u0645\u062c\u0645", "\u0645\u062e\u062c", "\u0645\u062e\u0645"]),
   (0xfd92, ["\u0645\u062c\u062e", "\u0647\u0645\u062c", "\u0647\u0645\u0645", "\u0646\u062d\u0645",
      "\u0646\u062d\u0649", "\u0646\u062c\u0645", "\u0646\u062c\u0645", "\u0646\u062c\u0649",
      "\u0646\u0645\u064a", "\u0646\u0645\u0649", "\u064a\u0645\u0645", "\u064a\u0645\u0645",
      "\u0628\u062e\u064a", "\u062a\u062c\u064a", "\u062a\u062c\u0649", "\u062a\u062e\u064a",
      "\u062a\u062e\u0649", "\u062a\u0645\u064a", "\u062a\u0645\u0649", "\u062c\u0645\u064a",
      "\u062c\u062d\u0649", "\u062c\u0645\u0649", "\u0633\u062e\u0649", "\u0635\u062d\u064a",
      "\u0634\u062d\u064a", "\u0636\u062d\u064a", "\u0644\u062c\u064a", "\u0644\u0645\u064a",
      "\u064a\u062d\u064a", "\u064a\u062c\u064a", "\u064a\u0645\u064a", "\u0645\u0645\u064a",
      "\u0642\u0645\u064a", "\u0646\u062d\u064a", "\u0642\u0645\u062d", "\u0644\u062d\u0645",
      "\u0639\u0645\u064a", "\u0643\u0645\u064a", "\u0646\u062c\u062d", "\u0645\u062e\u064a",
      "\u0644\u062c\u0645", "\u0643\u0645\u0645", "\u0644\u062c\u0645", "\u0646\u062c\u062d",
      "\u062c\u062d\u064a", "\u062d\u062c\u064a", "\u0645\u062c\u064a", "\u0641\u0645\u064a",
      "\u0628\u062d\u064a", "\u0643\u0645\u0645", "\u0639\u062c\u0645", "\u0635\u0645\u0645",
      "\u0633\u062e\u064a", "\u0646\u062c\u064a"]),
   (0xfdf0, ["\u0635\u0644\u06d2", "\u0642\u0644\u06d2", "\u0627\u0644\u0644\u0647",
      "\u0627\u0643\u0628\u0631", "\u0645\u062d\u0645\u062f", "\u0635\u0644\u0639\u0645",
      "\u0631\u0633\u0648\u0644", "\u0639\u0644\u064a\u0647", "\u0648\u0633\u0644\u0645",
      "\u0635\u0644\u0649"]),
   (0xfdfc, ["\u0631\u06cc\u0627\u0644"]), (0xfe71, ["\u0640\u064b"]), (0xfe77, ["\u0640\u064e"]),
   (0xfe79, ["\u0640\u064f"]), (0xfe7b, ["\u0640\u0650"]), (0xfe7d, ["\u0640\u0651"]),
   (0xfe7f, ["\u0640\u0652", "\u0621", "\u0622", "\u0622", "\u0623", "\u0623", "\u0624", "\u0624",
      "\u0625", "\u0625", "\u0626", "\u0626", "\u0626", "\u0626", "\u0627", "\u0627", "\u0628",
      "\u0628", "\u0628", "\u0628", "\u0629", "\u0629", "\u062a", "\u062a", "\u062a", "\u062a",
      "\u062b", "\u062b", "\u062b", "\u062b", "\u062c", "\u062c", "\u062c", "\u062c", "\u062d",
      "\u062d", "\u062d", "\u062d", "\u062e", "\u062e", "\u062e", "\u062e", "\u062f", "\u062f",
      "\u0630", "\u0630", "\u0631", "\u0631", "\u0632", "\u0632", "\u0633", "\u0633", "\u0633",
      "\u0633", "\u0634", "\u0634", "\u0634", "\u0634", "\u0635", "\u0635", "\u0635", "\u0635",
      "\u0636", "\u0636", "\u0636", "\u0636", "\u0637", "\u0637", "\u0637", "\u0637", "\u0638",
      "\u0638", "\u0638", "\u0638", "\u0639", "\u0639", "\u0639", "\u0639", "\u063a", "\u063a",
      "\u063a", "\u063a", "\u0641", "\u0641", "\u0641", "\u0641", "\u0642", "\u0642", "\u0642",
      "\u0642", "\u0643", "\u0643", "\u0643", "\u0643", "\u0644", "\u0644", "\u0644", "\u0644",
      "\u0645", "\u0645", "\u0645", "\u0645", "\u0646", "\u0646", "\u0646", "\u0646", "\u0647",
      "\u0647", "\u0647", "\u0647", "\u0648", "\u0648", "\u0649", "\u0649", "\u064a", "\u064a",
      "\u064a", "\u064a", "\u0644\u0622", "\u0644\u0622", "\u0644\u0623", "\u0644\u0623",
      "\u0644\u0625", "\u0644\u0625", "\u0644\u0627", "\u0644\u0627"]),
   (0x1ee00, ["\u0627", "\u0628", "\u062c", "\u062f"]),
   (0x1ee05, ["\u0648", "\u0632", "\u062d", "\u0637", "\u064a"]),
   (0x1ee0e, ["\u0633", "\u0639", "\u0641", "\u0635", "\u0642", "\u0631", "\u0634", "\u062a",
      "\u062b", "\u062e", "\u0630", "\u0636", "\u0638", "\u063a", "\u066e", "\u06ba", "\u06a1",
      "\u066f"]),
   (0x1ee21, ["\u0628", "\u062c"]), (0x1ee24, ["\u0647"]), (0x1ee27, ["\u062d"]),
   (0x1ee29, ["\u064a"]), (0x1ee2e, ["\u0633", "\u0639", "\u0641", "\u0635", "\u0642"]),
   (0x1ee34, ["\u0634", "\u062a", "\u062b", "\u062e"]), (0x1ee39, ["\u0636"]),
   (0x1ee3b, ["\u063a"]), (0x1ee42, ["\u062c"]), (0x1ee47, ["\u062d"]), (0x1ee49, ["\u064a"]),
   (0x1ee4b, ["\u0644"]), (0x1ee4d, ["\u0646", "\u0633", "\u0639"]),
   (0x1ee51, ["\u0635", "\u0642"]), (0x1ee54, ["\u0634"]), (0x1ee57, ["\u062e"]),
   (0x1ee59, ["\u0636"]), (0x1ee5b, ["\u063a"]), (0x1ee5d, ["\u06ba"]), (0x1ee5f, ["\u066f"]),
   (0x1ee61, ["\u0628", "\u062c"]), (0x1ee64, ["\u0647"]),
   (0x1ee67, ["\u062d", "\u0637", "\u064a", "\u0643"]),
   (0x1ee6c, ["\u0645", "\u0646", "\u0633", "\u0639", "\u0641", "\u0635", "\u0642"]),
   (0x1ee74, ["\u0634", "\u062a", "\u062b", "\u062e"]),
   (0x1ee79, ["\u0636", "\u0638", "\u063a", "\u066e"]), (0x1ee7e, ["\u06a1"]),
   (0x1ee80, ["\u0627", "\u0628", "\u062c", "\u062f", "\u0647", "\u0648", "\u0632", "\u062d",
      "\u0637", "\u064a"]),
   (0x1ee8b, ["\u0644", "\u0645", "\u0646", "\u0633", "\u0639", "\u0641", "\u0635", "\u0642",
      "\u0631", "\u0634", "\u062a", "\u062b", "\u062e", "\u0630", "\u0636", "\u0638", "\u063a"]),
   (0x1eea1, ["\u0628", "\u062c", "\u062f"]),
   (0x1eea5, ["\u0648", "\u0632", "\u062d", "\u0637", "\u064a"]),
   (0x1eeab, ["\u0644", "\u0645", "\u0646", "\u0633", "\u0639", "\u0641", "\u0635", "\u0642",
      "\u0631", "\u0634", "\u062a", "\u062b", "\u062e", "\u0630", "\u0636", "\u0638", "\u063a"])]

end RevisionControl.Web.Spelling
