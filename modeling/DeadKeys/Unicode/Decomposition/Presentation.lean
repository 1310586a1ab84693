import DeadKeys.Unicode.Decomposition.Alphabetic

/-!
# Compatibility decompositions: presentation forms

Ligatures, positional Arabic, vertical, small, half-width and full-width forms.
Each row pairs a character with its full compatibility decomposition.
-/

namespace DeadKeys.Unicode.Decomposition

/-- Modifier letters of the later Latin and Cyrillic extensions. -/
def latinExtendedD : Block := ⟨0xa000, 0xabff, [
  ('\ua69c', "ъ"), ('\ua69d', "ь"), ('\ua770', "ꝯ"), ('\ua7f1', "S"), ('\ua7f2', "C"),
  ('\ua7f3', "F"), ('\ua7f4', "Q"), ('\ua7f8', "Ħ"), ('\ua7f9', "œ"), ('\uab5c', "ꜧ"),
  ('\uab5d', "ꬷ"), ('\uab5e', "ɫ"), ('\uab5f', "ꭒ"), ('\uab69', "ʍ")]⟩

/-- Latin, Armenian and Hebrew ligatures. -/
def alphabeticForms : Block := ⟨0xfb00, 0xfb4f, [
  ('ﬀ', "ff"), ('ﬁ', "fi"), ('ﬂ', "fl"), ('ﬃ', "ffi"), ('ﬄ', "ffl"), ('ﬅ', "st"), ('ﬆ', "st"),
  ('ﬓ', "մն"), ('ﬔ', "մե"), ('ﬕ', "մի"), ('ﬖ', "վն"), ('ﬗ', "մխ"), ('\ufb1d', "\u05d9\u05b4"),
  ('\ufb1f', "\u05f2\u05b7"), ('\ufb20', "\u05e2"), ('\ufb21', "\u05d0"), ('\ufb22', "\u05d3"),
  ('\ufb23', "\u05d4"), ('\ufb24', "\u05db"), ('\ufb25', "\u05dc"), ('\ufb26', "\u05dd"),
  ('\ufb27', "\u05e8"), ('\ufb28', "\u05ea"), ('﬩', "+"), ('\ufb2a', "\u05e9\u05c1"),
  ('\ufb2b', "\u05e9\u05c2"), ('\ufb2c', "\u05e9\u05bc\u05c1"),
  ('\ufb2d', "\u05e9\u05bc\u05c2"), ('\ufb2e', "\u05d0\u05b7"), ('\ufb2f', "\u05d0\u05b8"),
  ('\ufb30', "\u05d0\u05bc"), ('\ufb31', "\u05d1\u05bc"), ('\ufb32', "\u05d2\u05bc"),
  ('\ufb33', "\u05d3\u05bc"), ('\ufb34', "\u05d4\u05bc"), ('\ufb35', "\u05d5\u05bc"),
  ('\ufb36', "\u05d6\u05bc"), ('\ufb38', "\u05d8\u05bc"), ('\ufb39', "\u05d9\u05bc"),
  ('\ufb3a', "\u05da\u05bc"), ('\ufb3b', "\u05db\u05bc"), ('\ufb3c', "\u05dc\u05bc"),
  ('\ufb3e', "\u05de\u05bc"), ('\ufb40', "\u05e0\u05bc"), ('\ufb41', "\u05e1\u05bc"),
  ('\ufb43', "\u05e3\u05bc"), ('\ufb44', "\u05e4\u05bc"), ('\ufb46', "\u05e6\u05bc"),
  ('\ufb47', "\u05e7\u05bc"), ('\ufb48', "\u05e8\u05bc"), ('\ufb49', "\u05e9\u05bc"),
  ('\ufb4a', "\u05ea\u05bc"), ('\ufb4b', "\u05d5\u05b9"), ('\ufb4c', "\u05d1\u05bf"),
  ('\ufb4d', "\u05db\u05bf"), ('\ufb4e', "\u05e4\u05bf"), ('\ufb4f', "\u05d0\u05dc")]⟩

/-- Arabic letter forms and two-letter ligatures. -/
def arabicLigaturesA : Block := ⟨0xfb50, 0xfc5d, [
  ('\ufb50', "\u0671"), ('\ufb51', "\u0671"), ('\ufb52', "\u067b"), ('\ufb53', "\u067b"),
  ('\ufb54', "\u067b"), ('\ufb55', "\u067b"), ('\ufb56', "\u067e"), ('\ufb57', "\u067e"),
  ('\ufb58', "\u067e"), ('\ufb59', "\u067e"), ('\ufb5a', "\u0680"), ('\ufb5b', "\u0680"),
  ('\ufb5c', "\u0680"), ('\ufb5d', "\u0680"), ('\ufb5e', "\u067a"), ('\ufb5f', "\u067a"),
  ('\ufb60', "\u067a"), ('\ufb61', "\u067a"), ('\ufb62', "\u067f"), ('\ufb63', "\u067f"),
  ('\ufb64', "\u067f"), ('\ufb65', "\u067f"), ('\ufb66', "\u0679"), ('\ufb67', "\u0679"),
  ('\ufb68', "\u0679"), ('\ufb69', "\u0679"), ('\ufb6a', "\u06a4"), ('\ufb6b', "\u06a4"),
  ('\ufb6c', "\u06a4"), ('\ufb6d', "\u06a4"), ('\ufb6e', "\u06a6"), ('\ufb6f', "\u06a6"),
  ('\ufb70', "\u06a6"), ('\ufb71', "\u06a6"), ('\ufb72', "\u0684"), ('\ufb73', "\u0684"),
  ('\ufb74', "\u0684"), ('\ufb75', "\u0684"), ('\ufb76', "\u0683"), ('\ufb77', "\u0683"),
  ('\ufb78', "\u0683"), ('\ufb79', "\u0683"), ('\ufb7a', "\u0686"), ('\ufb7b', "\u0686"),
  ('\ufb7c', "\u0686"), ('\ufb7d', "\u0686"), ('\ufb7e', "\u0687"), ('\ufb7f', "\u0687"),
  ('\ufb80', "\u0687"), ('\ufb81', "\u0687"), ('\ufb82', "\u068d"), ('\ufb83', "\u068d"),
  ('\ufb84', "\u068c"), ('\ufb85', "\u068c"), ('\ufb86', "\u068e"), ('\ufb87', "\u068e"),
  ('\ufb88', "\u0688"), ('\ufb89', "\u0688"), ('\ufb8a', "\u0698"), ('\ufb8b', "\u0698"),
  ('\ufb8c', "\u0691"), ('\ufb8d', "\u0691"), ('\ufb8e', "\u06a9"), ('\ufb8f', "\u06a9"),
  ('\ufb90', "\u06a9"), ('\ufb91', "\u06a9"), ('\ufb92', "\u06af"), ('\ufb93', "\u06af"),
  ('\ufb94', "\u06af"), ('\ufb95', "\u06af"), ('\ufb96', "\u06b3"), ('\ufb97', "\u06b3"),
  ('\ufb98', "\u06b3"), ('\ufb99', "\u06b3"), ('\ufb9a', "\u06b1"), ('\ufb9b', "\u06b1"),
  ('\ufb9c', "\u06b1"), ('\ufb9d', "\u06b1"), ('\ufb9e', "\u06ba"), ('\ufb9f', "\u06ba"),
  ('\ufba0', "\u06bb"), ('\ufba1', "\u06bb"), ('\ufba2', "\u06bb"), ('\ufba3', "\u06bb"),
  ('\ufba4', "\u06d5\u0654"), ('\ufba5', "\u06d5\u0654"), ('\ufba6', "\u06c1"),
  ('\ufba7', "\u06c1"), ('\ufba8', "\u06c1"), ('\ufba9', "\u06c1"), ('\ufbaa', "\u06be"),
  ('\ufbab', "\u06be"), ('\ufbac', "\u06be"), ('\ufbad', "\u06be"), ('\ufbae', "\u06d2"),
  ('\ufbaf', "\u06d2"), ('\ufbb0', "\u06d2\u0654"), ('\ufbb1', "\u06d2\u0654"),
  ('\ufbd3', "\u06ad"), ('\ufbd4', "\u06ad"), ('\ufbd5', "\u06ad"), ('\ufbd6', "\u06ad"),
  ('\ufbd7', "\u06c7"), ('\ufbd8', "\u06c7"), ('\ufbd9', "\u06c6"), ('\ufbda', "\u06c6"),
  ('\ufbdb', "\u06c8"), ('\ufbdc', "\u06c8"), ('\ufbdd', "\u06c7\u0674"), ('\ufbde', "\u06cb"),
  ('\ufbdf', "\u06cb"), ('\ufbe0', "\u06c5"), ('\ufbe1', "\u06c5"), ('\ufbe2', "\u06c9"),
  ('\ufbe3', "\u06c9"), ('\ufbe4', "\u06d0"), ('\ufbe5', "\u06d0"), ('\ufbe6', "\u06d0"),
  ('\ufbe7', "\u06d0"), ('\ufbe8', "\u0649"), ('\ufbe9', "\u0649"),
  ('\ufbea', "\u064a\u0654\u0627"), ('\ufbeb', "\u064a\u0654\u0627"),
  ('\ufbec', "\u064a\u0654\u06d5"), ('\ufbed', "\u064a\u0654\u06d5"),
  ('\ufbee', "\u064a\u0654\u0648"), ('\ufbef', "\u064a\u0654\u0648"),
  ('\ufbf0', "\u064a\u0654\u06c7"), ('\ufbf1', "\u064a\u0654\u06c7"),
  ('\ufbf2', "\u064a\u0654\u06c6"), ('\ufbf3', "\u064a\u0654\u06c6"),
  ('\ufbf4', "\u064a\u0654\u06c8"), ('\ufbf5', "\u064a\u0654\u06c8"),
  ('\ufbf6', "\u064a\u0654\u06d0"), ('\ufbf7', "\u064a\u0654\u06d0"),
  ('\ufbf8', "\u064a\u0654\u06d0"), ('\ufbf9', "\u064a\u0654\u0649"),
  ('\ufbfa', "\u064a\u0654\u0649"), ('\ufbfb', "\u064a\u0654\u0649"), ('\ufbfc', "\u06cc"),
  ('\ufbfd', "\u06cc"), ('\ufbfe', "\u06cc"), ('\ufbff', "\u06cc"),
  ('\ufc00', "\u064a\u0654\u062c"), ('\ufc01', "\u064a\u0654\u062d"),
  ('\ufc02', "\u064a\u0654\u0645"), ('\ufc03', "\u064a\u0654\u0649"),
  ('\ufc04', "\u064a\u0654\u064a"), ('\ufc05', "\u0628\u062c"), ('\ufc06', "\u0628\u062d"),
  ('\ufc07', "\u0628\u062e"), ('\ufc08', "\u0628\u0645"), ('\ufc09', "\u0628\u0649"),
  ('\ufc0a', "\u0628\u064a"), ('\ufc0b', "\u062a\u062c"), ('\ufc0c', "\u062a\u062d"),
  ('\ufc0d', "\u062a\u062e"), ('\ufc0e', "\u062a\u0645"), ('\ufc0f', "\u062a\u0649"),
  ('\ufc10', "\u062a\u064a"), ('\ufc11', "\u062b\u062c"), ('\ufc12', "\u062b\u0645"),
  ('\ufc13', "\u062b\u0649"), ('\ufc14', "\u062b\u064a"), ('\ufc15', "\u062c\u062d"),
  ('\ufc16', "\u062c\u0645"), ('\ufc17', "\u062d\u062c"), ('\ufc18', "\u062d\u0645"),
  ('\ufc19', "\u062e\u062c"), ('\ufc1a', "\u062e\u062d"), ('\ufc1b', "\u062e\u0645"),
  ('\ufc1c', "\u0633\u062c"), ('\ufc1d', "\u0633\u062d"), ('\ufc1e', "\u0633\u062e"),
  ('\ufc1f', "\u0633\u0645"), ('\ufc20', "\u0635\u062d"), ('\ufc21', "\u0635\u0645"),
  ('\ufc22', "\u0636\u062c"), ('\ufc23', "\u0636\u062d"), ('\ufc24', "\u0636\u062e"),
  ('\ufc25', "\u0636\u0645"), ('\ufc26', "\u0637\u062d"), ('\ufc27', "\u0637\u0645"),
  ('\ufc28', "\u0638\u0645"), ('\ufc29', "\u0639\u062c"), ('\ufc2a', "\u0639\u0645"),
  ('\ufc2b', "\u063a\u062c"), ('\ufc2c', "\u063a\u0645"), ('\ufc2d', "\u0641\u062c"),
  ('\ufc2e', "\u0641\u062d"), ('\ufc2f', "\u0641\u062e"), ('\ufc30', "\u0641\u0645"),
  ('\ufc31', "\u0641\u0649"), ('\ufc32', "\u0641\u064a"), ('\ufc33', "\u0642\u062d"),
  ('\ufc34', "\u0642\u0645"), ('\ufc35', "\u0642\u0649"), ('\ufc36', "\u0642\u064a"),
  ('\ufc37', "\u0643\u0627"), ('\ufc38', "\u0643\u062c"), ('\ufc39', "\u0643\u062d"),
  ('\ufc3a', "\u0643\u062e"), ('\ufc3b', "\u0643\u0644"), ('\ufc3c', "\u0643\u0645"),
  ('\ufc3d', "\u0643\u0649"), ('\ufc3e', "\u0643\u064a"), ('\ufc3f', "\u0644\u062c"),
  ('\ufc40', "\u0644\u062d"), ('\ufc41', "\u0644\u062e"), ('\ufc42', "\u0644\u0645"),
  ('\ufc43', "\u0644\u0649"), ('\ufc44', "\u0644\u064a"), ('\ufc45', "\u0645\u062c"),
  ('\ufc46', "\u0645\u062d"), ('\ufc47', "\u0645\u062e"), ('\ufc48', "\u0645\u0645"),
  ('\ufc49', "\u0645\u0649"), ('\ufc4a', "\u0645\u064a"), ('\ufc4b', "\u0646\u062c"),
  ('\ufc4c', "\u0646\u062d"), ('\ufc4d', "\u0646\u062e"), ('\ufc4e', "\u0646\u0645"),
  ('\ufc4f', "\u0646\u0649"), ('\ufc50', "\u0646\u064a"), ('\ufc51', "\u0647\u062c"),
  ('\ufc52', "\u0647\u0645"), ('\ufc53', "\u0647\u0649"), ('\ufc54', "\u0647\u064a"),
  ('\ufc55', "\u064a\u062c"), ('\ufc56', "\u064a\u062d"), ('\ufc57', "\u064a\u062e"),
  ('\ufc58', "\u064a\u0645"), ('\ufc59', "\u064a\u0649"), ('\ufc5a', "\u064a\u064a"),
  ('\ufc5b', "\u0630\u0670"), ('\ufc5c', "\u0631\u0670"), ('\ufc5d', "\u0649\u0670")]⟩

/-- Arabic ligatures of two letters, continued. -/
def arabicLigaturesB : Block := ⟨0xfc5e, 0xfcff, [
  ('\ufc5e', " \u064c\u0651"), ('\ufc5f', " \u064d\u0651"), ('\ufc60', " \u064e\u0651"),
  ('\ufc61', " \u064f\u0651"), ('\ufc62', " \u0650\u0651"), ('\ufc63', " \u0651\u0670"),
  ('\ufc64', "\u064a\u0654\u0631"), ('\ufc65', "\u064a\u0654\u0632"),
  ('\ufc66', "\u064a\u0654\u0645"), ('\ufc67', "\u064a\u0654\u0646"),
  ('\ufc68', "\u064a\u0654\u0649"), ('\ufc69', "\u064a\u0654\u064a"),
  ('\ufc6a', "\u0628\u0631"), ('\ufc6b', "\u0628\u0632"), ('\ufc6c', "\u0628\u0645"),
  ('\ufc6d', "\u0628\u0646"), ('\ufc6e', "\u0628\u0649"), ('\ufc6f', "\u0628\u064a"),
  ('\ufc70', "\u062a\u0631"), ('\ufc71', "\u062a\u0632"), ('\ufc72', "\u062a\u0645"),
  ('\ufc73', "\u062a\u0646"), ('\ufc74', "\u062a\u0649"), ('\ufc75', "\u062a\u064a"),
  ('\ufc76', "\u062b\u0631"), ('\ufc77', "\u062b\u0632"), ('\ufc78', "\u062b\u0645"),
  ('\ufc79', "\u062b\u0646"), ('\ufc7a', "\u062b\u0649"), ('\ufc7b', "\u062b\u064a"),
  ('\ufc7c', "\u0641\u0649"), ('\ufc7d', "\u0641\u064a"), ('\ufc7e', "\u0642\u0649"),
  ('\ufc7f', "\u0642\u064a"), ('\ufc80', "\u0643\u0627"), ('\ufc81', "\u0643\u0644"),
  ('\ufc82', "\u0643\u0645"), ('\ufc83', "\u0643\u0649"), ('\ufc84', "\u0643\u064a"),
  ('\ufc85', "\u0644\u0645"), ('\ufc86', "\u0644\u0649"), ('\ufc87', "\u0644\u064a"),
  ('\ufc88', "\u0645\u0627"), ('\ufc89', "\u0645\u0645"), ('\ufc8a', "\u0646\u0631"),
  ('\ufc8b', "\u0646\u0632"), ('\ufc8c', "\u0646\u0645"), ('\ufc8d', "\u0646\u0646"),
  ('\ufc8e', "\u0646\u0649"), ('\ufc8f', "\u0646\u064a"), ('\ufc90', "\u0649\u0670"),
  ('\ufc91', "\u064a\u0631"), ('\ufc92', "\u064a\u0632"), ('\ufc93', "\u064a\u0645"),
  ('\ufc94', "\u064a\u0646"), ('\ufc95', "\u064a\u0649"), ('\ufc96', "\u064a\u064a"),
  ('\ufc97', "\u064a\u0654\u062c"), ('\ufc98', "\u064a\u0654\u062d"),
  ('\ufc99', "\u064a\u0654\u062e"), ('\ufc9a', "\u064a\u0654\u0645"),
  ('\ufc9b', "\u064a\u0654\u0647"), ('\ufc9c', "\u0628\u062c"), ('\ufc9d', "\u0628\u062d"),
  ('\ufc9e', "\u0628\u062e"), ('\ufc9f', "\u0628\u0645"), ('\ufca0', "\u0628\u0647"),
  ('\ufca1', "\u062a\u062c"), ('\ufca2', "\u062a\u062d"), ('\ufca3', "\u062a\u062e"),
  ('\ufca4', "\u062a\u0645"), ('\ufca5', "\u062a\u0647"), ('\ufca6', "\u062b\u0645"),
  ('\ufca7', "\u062c\u062d"), ('\ufca8', "\u062c\u0645"), ('\ufca9', "\u062d\u062c"),
  ('\ufcaa', "\u062d\u0645"), ('\ufcab', "\u062e\u062c"), ('\ufcac', "\u062e\u0645"),
  ('\ufcad', "\u0633\u062c"), ('\ufcae', "\u0633\u062d"), ('\ufcaf', "\u0633\u062e"),
  ('\ufcb0', "\u0633\u0645"), ('\ufcb1', "\u0635\u062d"), ('\ufcb2', "\u0635\u062e"),
  ('\ufcb3', "\u0635\u0645"), ('\ufcb4', "\u0636\u062c"), ('\ufcb5', "\u0636\u062d"),
  ('\ufcb6', "\u0636\u062e"), ('\ufcb7', "\u0636\u0645"), ('\ufcb8', "\u0637\u062d"),
  ('\ufcb9', "\u0638\u0645"), ('\ufcba', "\u0639\u062c"), ('\ufcbb', "\u0639\u0645"),
  ('\ufcbc', "\u063a\u062c"), ('\ufcbd', "\u063a\u0645"), ('\ufcbe', "\u0641\u062c"),
  ('\ufcbf', "\u0641\u062d"), ('\ufcc0', "\u0641\u062e"), ('\ufcc1', "\u0641\u0645"),
  ('\ufcc2', "\u0642\u062d"), ('\ufcc3', "\u0642\u0645"), ('\ufcc4', "\u0643\u062c"),
  ('\ufcc5', "\u0643\u062d"), ('\ufcc6', "\u0643\u062e"), ('\ufcc7', "\u0643\u0644"),
  ('\ufcc8', "\u0643\u0645"), ('\ufcc9', "\u0644\u062c"), ('\ufcca', "\u0644\u062d"),
  ('\ufccb', "\u0644\u062e"), ('\ufccc', "\u0644\u0645"), ('\ufccd', "\u0644\u0647"),
  ('\ufcce', "\u0645\u062c"), ('\ufccf', "\u0645\u062d"), ('\ufcd0', "\u0645\u062e"),
  ('\ufcd1', "\u0645\u0645"), ('\ufcd2', "\u0646\u062c"), ('\ufcd3', "\u0646\u062d"),
  ('\ufcd4', "\u0646\u062e"), ('\ufcd5', "\u0646\u0645"), ('\ufcd6', "\u0646\u0647"),
  ('\ufcd7', "\u0647\u062c"), ('\ufcd8', "\u0647\u0645"), ('\ufcd9', "\u0647\u0670"),
  ('\ufcda', "\u064a\u062c"), ('\ufcdb', "\u064a\u062d"), ('\ufcdc', "\u064a\u062e"),
  ('\ufcdd', "\u064a\u0645"), ('\ufcde', "\u064a\u0647"), ('\ufcdf', "\u064a\u0654\u0645"),
  ('\ufce0', "\u064a\u0654\u0647"), ('\ufce1', "\u0628\u0645"), ('\ufce2', "\u0628\u0647"),
  ('\ufce3', "\u062a\u0645"), ('\ufce4', "\u062a\u0647"), ('\ufce5', "\u062b\u0645"),
  ('\ufce6', "\u062b\u0647"), ('\ufce7', "\u0633\u0645"), ('\ufce8', "\u0633\u0647"),
  ('\ufce9', "\u0634\u0645"), ('\ufcea', "\u0634\u0647"), ('\ufceb', "\u0643\u0644"),
  ('\ufcec', "\u0643\u0645"), ('\ufced', "\u0644\u0645"), ('\ufcee', "\u0646\u0645"),
  ('\ufcef', "\u0646\u0647"), ('\ufcf0', "\u064a\u0645"), ('\ufcf1', "\u064a\u0647"),
  ('\ufcf2', "\u0640\u064e\u0651"), ('\ufcf3', "\u0640\u064f\u0651"),
  ('\ufcf4', "\u0640\u0650\u0651"), ('\ufcf5', "\u0637\u0649"), ('\ufcf6', "\u0637\u064a"),
  ('\ufcf7', "\u0639\u0649"), ('\ufcf8', "\u0639\u064a"), ('\ufcf9', "\u063a\u0649"),
  ('\ufcfa', "\u063a\u064a"), ('\ufcfb', "\u0633\u0649"), ('\ufcfc', "\u0633\u064a"),
  ('\ufcfd', "\u0634\u0649"), ('\ufcfe', "\u0634\u064a"), ('\ufcff', "\u062d\u0649")]⟩

/-- Arabic ligatures of two and more letters. -/
def arabicLigaturesC : Block := ⟨0xfd00, 0xfdff, [
  ('\ufd00', "\u062d\u064a"), ('\ufd01', "\u062c\u0649"), ('\ufd02', "\u062c\u064a"),
  ('\ufd03', "\u062e\u0649"), ('\ufd04', "\u062e\u064a"), ('\ufd05', "\u0635\u0649"),
  ('\ufd06', "\u0635\u064a"), ('\ufd07', "\u0636\u0649"), ('\ufd08', "\u0636\u064a"),
  ('\ufd09', "\u0634\u062c"), ('\ufd0a', "\u0634\u062d"), ('\ufd0b', "\u0634\u062e"),
  ('\ufd0c', "\u0634\u0645"), ('\ufd0d', "\u0634\u0631"), ('\ufd0e', "\u0633\u0631"),
  ('\ufd0f', "\u0635\u0631"), ('\ufd10', "\u0636\u0631"), ('\ufd11', "\u0637\u0649"),
  ('\ufd12', "\u0637\u064a"), ('\ufd13', "\u0639\u0649"), ('\ufd14', "\u0639\u064a"),
  ('\ufd15', "\u063a\u0649"), ('\ufd16', "\u063a\u064a"), ('\ufd17', "\u0633\u0649"),
  ('\ufd18', "\u0633\u064a"), ('\ufd19', "\u0634\u0649"), ('\ufd1a', "\u0634\u064a"),
  ('\ufd1b', "\u062d\u0649"), ('\ufd1c', "\u062d\u064a"), ('\ufd1d', "\u062c\u0649"),
  ('\ufd1e', "\u062c\u064a"), ('\ufd1f', "\u062e\u0649"), ('\ufd20', "\u062e\u064a"),
  ('\ufd21', "\u0635\u0649"), ('\ufd22', "\u0635\u064a"), ('\ufd23', "\u0636\u0649"),
  ('\ufd24', "\u0636\u064a"), ('\ufd25', "\u0634\u062c"), ('\ufd26', "\u0634\u062d"),
  ('\ufd27', "\u0634\u062e"), ('\ufd28', "\u0634\u0645"), ('\ufd29', "\u0634\u0631"),
  ('\ufd2a', "\u0633\u0631"), ('\ufd2b', "\u0635\u0631"), ('\ufd2c', "\u0636\u0631"),
  ('\ufd2d', "\u0634\u062c"), ('\ufd2e', "\u0634\u062d"), ('\ufd2f', "\u0634\u062e"),
  ('\ufd30', "\u0634\u0645"), ('\ufd31', "\u0633\u0647"), ('\ufd32', "\u0634\u0647"),
  ('\ufd33', "\u0637\u0645"), ('\ufd34', "\u0633\u062c"), ('\ufd35', "\u0633\u062d"),
  ('\ufd36', "\u0633\u062e"), ('\ufd37', "\u0634\u062c"), ('\ufd38', "\u0634\u062d"),
  ('\ufd39', "\u0634\u062e"), ('\ufd3a', "\u0637\u0645"), ('\ufd3b', "\u0638\u0645"),
  ('\ufd3c', "\u0627\u064b"), ('\ufd3d', "\u0627\u064b"), ('\ufd50', "\u062a\u062c\u0645"),
  ('\ufd51', "\u062a\u062d\u062c"), ('\ufd52', "\u062a\u062d\u062c"),
  ('\ufd53', "\u062a\u062d\u0645"), ('\ufd54', "\u062a\u062e\u0645"),
  ('\ufd55', "\u062a\u0645\u062c"), ('\ufd56', "\u062a\u0645\u062d"),
  ('\ufd57', "\u062a\u0645\u062e"), ('\ufd58', "\u062c\u0645\u062d"),
  ('\ufd59', "\u062c\u0645\u062d"), ('\ufd5a', "\u062d\u0645\u064a"),
  ('\ufd5b', "\u062d\u0645\u0649"), ('\ufd5c', "\u0633\u062d\u062c"),
  ('\ufd5d', "\u0633\u062c\u062d"), ('\ufd5e', "\u0633\u062c\u0649"),
  ('\ufd5f', "\u0633\u0645\u062d"), ('\ufd60', "\u0633\u0645\u062d"),
  ('\ufd61', "\u0633\u0645\u062c"), ('\ufd62', "\u0633\u0645\u0645"),
  ('\ufd63', "\u0633\u0645\u0645"), ('\ufd64', "\u0635\u062d\u062d"),
  ('\ufd65', "\u0635\u062d\u062d"), ('\ufd66', "\u0635\u0645\u0645"),
  ('\ufd67', "\u0634\u062d\u0645"), ('\ufd68', "\u0634\u062d\u0645"),
  ('\ufd69', "\u0634\u062c\u064a"), ('\ufd6a', "\u0634\u0645\u062e"),
  ('\ufd6b', "\u0634\u0645\u062e"), ('\ufd6c', "\u0634\u0645\u0645"),
  ('\ufd6d', "\u0634\u0645\u0645"), ('\ufd6e', "\u0636\u062d\u0649"),
  ('\ufd6f', "\u0636\u062e\u0645"), ('\ufd70', "\u0636\u062e\u0645"),
  ('\ufd71', "\u0637\u0645\u062d"), ('\ufd72', "\u0637\u0645\u062d"),
  ('\ufd73', "\u0637\u0645\u0645"), ('\ufd74', "\u0637\u0645\u064a"),
  ('\ufd75', "\u0639\u062c\u0645"), ('\ufd76', "\u0639\u0645\u0645"),
  ('\ufd77', "\u0639\u0645\u0645"), ('\ufd78', "\u0639\u0645\u0649"),
  ('\ufd79', "\u063a\u0645\u0645"), ('\ufd7a', "\u063a\u0645\u064a"),
  ('\ufd7b', "\u063a\u0645\u0649"), ('\ufd7c', "\u0641\u062e\u0645"),
  ('\ufd7d', "\u0641\u062e\u0645"), ('\ufd7e', "\u0642\u0645\u062d"),
  ('\ufd7f', "\u0642\u0645\u0645"), ('\ufd80', "\u0644\u062d\u0645"),
  ('\ufd81', "\u0644\u062d\u064a"), ('\ufd82', "\u0644\u062d\u0649"),
  ('\ufd83', "\u0644\u062c\u062c"), ('\ufd84', "\u0644\u062c\u062c"),
  ('\ufd85', "\u0644\u062e\u0645"), ('\ufd86', "\u0644\u062e\u0645"),
  ('\ufd87', "\u0644\u0645\u062d"), ('\ufd88', "\u0644\u0645\u062d"),
  ('\ufd89', "\u0645\u062d\u062c"), ('\ufd8a', "\u0645\u062d\u0645"),
  ('\ufd8b', "\u0645\u062d\u064a"), ('\ufd8c', "\u0645\u062c\u062d"),
  ('\ufd8d', "\u0645\u062c\u0645"), ('\ufd8e', "\u0645\u062e\u062c"),
  ('\ufd8f', "\u0645\u062e\u0645"), ('\ufd92', "\u0645\u062c\u062e"),
  ('\ufd93', "\u0647\u0645\u062c"), ('\ufd94', "\u0647\u0645\u0645"),
  ('\ufd95', "\u0646\u062d\u0645"), ('\ufd96', "\u0646\u062d\u0649"),
  ('\ufd97', "\u0646\u062c\u0645"), ('\ufd98', "\u0646\u062c\u0645"),
  ('\ufd99', "\u0646\u062c\u0649"), ('\ufd9a', "\u0646\u0645\u064a"),
  ('\ufd9b', "\u0646\u0645\u0649"), ('\ufd9c', "\u064a\u0645\u0645"),
  ('\ufd9d', "\u064a\u0645\u0645"), ('\ufd9e', "\u0628\u062e\u064a"),
  ('\ufd9f', "\u062a\u062c\u064a"), ('\ufda0', "\u062a\u062c\u0649"),
  ('\ufda1', "\u062a\u062e\u064a"), ('\ufda2', "\u062a\u062e\u0649"),
  ('\ufda3', "\u062a\u0645\u064a"), ('\ufda4', "\u062a\u0645\u0649"),
  ('\ufda5', "\u062c\u0645\u064a"), ('\ufda6', "\u062c\u062d\u0649"),
  ('\ufda7', "\u062c\u0645\u0649"), ('\ufda8', "\u0633\u062e\u0649"),
  ('\ufda9', "\u0635\u062d\u064a"), ('\ufdaa', "\u0634\u062d\u064a"),
  ('\ufdab', "\u0636\u062d\u064a"), ('\ufdac', "\u0644\u062c\u064a"),
  ('\ufdad', "\u0644\u0645\u064a"), ('\ufdae', "\u064a\u062d\u064a"),
  ('\ufdaf', "\u064a\u062c\u064a"), ('\ufdb0', "\u064a\u0645\u064a"),
  ('\ufdb1', "\u0645\u0645\u064a"), ('\ufdb2', "\u0642\u0645\u064a"),
  ('\ufdb3', "\u0646\u062d\u064a"), ('\ufdb4', "\u0642\u0645\u062d"),
  ('\ufdb5', "\u0644\u062d\u0645"), ('\ufdb6', "\u0639\u0645\u064a"),
  ('\ufdb7', "\u0643\u0645\u064a"), ('\ufdb8', "\u0646\u062c\u062d"),
  ('\ufdb9', "\u0645\u062e\u064a"), ('\ufdba', "\u0644\u062c\u0645"),
  ('\ufdbb', "\u0643\u0645\u0645"), ('\ufdbc', "\u0644\u062c\u0645"),
  ('\ufdbd', "\u0646\u062c\u062d"), ('\ufdbe', "\u062c\u062d\u064a"),
  ('\ufdbf', "\u062d\u062c\u064a"), ('\ufdc0', "\u0645\u062c\u064a"),
  ('\ufdc1', "\u0641\u0645\u064a"), ('\ufdc2', "\u0628\u062d\u064a"),
  ('\ufdc3', "\u0643\u0645\u0645"), ('\ufdc4', "\u0639\u062c\u0645"),
  ('\ufdc5', "\u0635\u0645\u0645"), ('\ufdc6', "\u0633\u062e\u064a"),
  ('\ufdc7', "\u0646\u062c\u064a"), ('\ufdf0', "\u0635\u0644\u06d2"),
  ('\ufdf1', "\u0642\u0644\u06d2"), ('\ufdf2', "\u0627\u0644\u0644\u0647"),
  ('\ufdf3', "\u0627\u0643\u0628\u0631"), ('\ufdf4', "\u0645\u062d\u0645\u062f"),
  ('\ufdf5', "\u0635\u0644\u0639\u0645"), ('\ufdf6', "\u0631\u0633\u0648\u0644"),
  ('\ufdf7', "\u0639\u0644\u064a\u0647"), ('\ufdf8', "\u0648\u0633\u0644\u0645"),
  ('\ufdf9', "\u0635\u0644\u0649"),
  ('\ufdfa', "\u0635\u0644\u0649 \u0627\u0644\u0644\u0647 \u0639\u0644\u064a\u0647 \u0648\u0633\u0644\u0645"),
  ('\ufdfb', "\u062c\u0644 \u062c\u0644\u0627\u0644\u0647"),
  ('\ufdfc', "\u0631\u06cc\u0627\u0644")]⟩

/-- Vertical and small punctuation. -/
def verticalAndSmall : Block := ⟨0xfe10, 0xfe6f, [
  ('︐', ","), ('︑', "、"), ('︒', "。"), ('︓', ":"), ('︔', ";"), ('︕', "!"), ('︖', "?"),
  ('︗', "〖"), ('︘', "〗"), ('︙', "..."), ('︰', ".."), ('︱', "—"), ('︲', "–"),
  ('︳', "_"), ('︴', "_"), ('︵', "("), ('︶', ")"), ('︷', "\x7b"), ('︸', "\x7d"),
  ('︹', "〔"), ('︺', "〕"), ('︻', "【"), ('︼', "】"), ('︽', "《"), ('︾', "》"),
  ('︿', "〈"), ('﹀', "〉"), ('﹁', "「"), ('﹂', "」"), ('﹃', "『"), ('﹄', "』"),
  ('﹇', "["), ('﹈', "]"), ('﹉', " \u0305"), ('﹊', " \u0305"), ('﹋', " \u0305"),
  ('﹌', " \u0305"), ('﹍', "_"), ('﹎', "_"), ('﹏', "_"), ('﹐', ","), ('﹑', "、"),
  ('﹒', "."), ('﹔', ";"), ('﹕', ":"), ('﹖', "?"), ('﹗', "!"), ('﹘', "—"), ('﹙', "("),
  ('﹚', ")"), ('﹛', "\x7b"), ('﹜', "\x7d"), ('﹝', "〔"), ('﹞', "〕"), ('﹟', "#"),
  ('﹠', "&"), ('﹡', "*"), ('﹢', "+"), ('﹣', "-"), ('﹤', "<"), ('﹥', ">"), ('﹦', "="),
  ('﹨', "\\"), ('﹩', "$"), ('﹪', "%"), ('﹫', "@")]⟩

/-- Positional forms of Arabic letters. -/
def arabicForms : Block := ⟨0xfe70, 0xfeff, [
  ('\ufe70', " \u064b"), ('\ufe71', "\u0640\u064b"), ('\ufe72', " \u064c"),
  ('\ufe74', " \u064d"), ('\ufe76', " \u064e"), ('\ufe77', "\u0640\u064e"),
  ('\ufe78', " \u064f"), ('\ufe79', "\u0640\u064f"), ('\ufe7a', " \u0650"),
  ('\ufe7b', "\u0640\u0650"), ('\ufe7c', " \u0651"), ('\ufe7d', "\u0640\u0651"),
  ('\ufe7e', " \u0652"), ('\ufe7f', "\u0640\u0652"), ('\ufe80', "\u0621"),
  ('\ufe81', "\u0627\u0653"), ('\ufe82', "\u0627\u0653"), ('\ufe83', "\u0627\u0654"),
  ('\ufe84', "\u0627\u0654"), ('\ufe85', "\u0648\u0654"), ('\ufe86', "\u0648\u0654"),
  ('\ufe87', "\u0627\u0655"), ('\ufe88', "\u0627\u0655"), ('\ufe89', "\u064a\u0654"),
  ('\ufe8a', "\u064a\u0654"), ('\ufe8b', "\u064a\u0654"), ('\ufe8c', "\u064a\u0654"),
  ('\ufe8d', "\u0627"), ('\ufe8e', "\u0627"), ('\ufe8f', "\u0628"), ('\ufe90', "\u0628"),
  ('\ufe91', "\u0628"), ('\ufe92', "\u0628"), ('\ufe93', "\u0629"), ('\ufe94', "\u0629"),
  ('\ufe95', "\u062a"), ('\ufe96', "\u062a"), ('\ufe97', "\u062a"), ('\ufe98', "\u062a"),
  ('\ufe99', "\u062b"), ('\ufe9a', "\u062b"), ('\ufe9b', "\u062b"), ('\ufe9c', "\u062b"),
  ('\ufe9d', "\u062c"), ('\ufe9e', "\u062c"), ('\ufe9f', "\u062c"), ('\ufea0', "\u062c"),
  ('\ufea1', "\u062d"), ('\ufea2', "\u062d"), ('\ufea3', "\u062d"), ('\ufea4', "\u062d"),
  ('\ufea5', "\u062e"), ('\ufea6', "\u062e"), ('\ufea7', "\u062e"), ('\ufea8', "\u062e"),
  ('\ufea9', "\u062f"), ('\ufeaa', "\u062f"), ('\ufeab', "\u0630"), ('\ufeac', "\u0630"),
  ('\ufead', "\u0631"), ('\ufeae', "\u0631"), ('\ufeaf', "\u0632"), ('\ufeb0', "\u0632"),
  ('\ufeb1', "\u0633"), ('\ufeb2', "\u0633"), ('\ufeb3', "\u0633"), ('\ufeb4', "\u0633"),
  ('\ufeb5', "\u0634"), ('\ufeb6', "\u0634"), ('\ufeb7', "\u0634"), ('\ufeb8', "\u0634"),
  ('\ufeb9', "\u0635"), ('\ufeba', "\u0635"), ('\ufebb', "\u0635"), ('\ufebc', "\u0635"),
  ('\ufebd', "\u0636"), ('\ufebe', "\u0636"), ('\ufebf', "\u0636"), ('\ufec0', "\u0636"),
  ('\ufec1', "\u0637"), ('\ufec2', "\u0637"), ('\ufec3', "\u0637"), ('\ufec4', "\u0637"),
  ('\ufec5', "\u0638"), ('\ufec6', "\u0638"), ('\ufec7', "\u0638"), ('\ufec8', "\u0638"),
  ('\ufec9', "\u0639"), ('\ufeca', "\u0639"), ('\ufecb', "\u0639"), ('\ufecc', "\u0639"),
  ('\ufecd', "\u063a"), ('\ufece', "\u063a"), ('\ufecf', "\u063a"), ('\ufed0', "\u063a"),
  ('\ufed1', "\u0641"), ('\ufed2', "\u0641"), ('\ufed3', "\u0641"), ('\ufed4', "\u0641"),
  ('\ufed5', "\u0642"), ('\ufed6', "\u0642"), ('\ufed7', "\u0642"), ('\ufed8', "\u0642"),
  ('\ufed9', "\u0643"), ('\ufeda', "\u0643"), ('\ufedb', "\u0643"), ('\ufedc', "\u0643"),
  ('\ufedd', "\u0644"), ('\ufede', "\u0644"), ('\ufedf', "\u0644"), ('\ufee0', "\u0644"),
  ('\ufee1', "\u0645"), ('\ufee2', "\u0645"), ('\ufee3', "\u0645"), ('\ufee4', "\u0645"),
  ('\ufee5', "\u0646"), ('\ufee6', "\u0646"), ('\ufee7', "\u0646"), ('\ufee8', "\u0646"),
  ('\ufee9', "\u0647"), ('\ufeea', "\u0647"), ('\ufeeb', "\u0647"), ('\ufeec', "\u0647"),
  ('\ufeed', "\u0648"), ('\ufeee', "\u0648"), ('\ufeef', "\u0649"), ('\ufef0', "\u0649"),
  ('\ufef1', "\u064a"), ('\ufef2', "\u064a"), ('\ufef3', "\u064a"), ('\ufef4', "\u064a"),
  ('\ufef5', "\u0644\u0627\u0653"), ('\ufef6', "\u0644\u0627\u0653"),
  ('\ufef7', "\u0644\u0627\u0654"), ('\ufef8', "\u0644\u0627\u0654"),
  ('\ufef9', "\u0644\u0627\u0655"), ('\ufefa', "\u0644\u0627\u0655"),
  ('\ufefb', "\u0644\u0627"), ('\ufefc', "\u0644\u0627")]⟩

/-- Full-width and half-width forms. -/
def widthForms : Block := ⟨0xff00, 0xffef, [
  ('！', "!"), ('＂', "\""), ('＃', "#"), ('＄', "$"), ('％', "%"), ('＆', "&"),
  ('＇', "\x27"), ('（', "("), ('）', ")"), ('＊', "*"), ('＋', "+"), ('，', ","), ('－', "-"),
  ('．', "."), ('／', "/"), ('０', "0"), ('１', "1"), ('２', "2"), ('３', "3"), ('４', "4"),
  ('５', "5"), ('６', "6"), ('７', "7"), ('８', "8"), ('９', "9"), ('：', ":"), ('；', ";"),
  ('＜', "<"), ('＝', "="), ('＞', ">"), ('？', "?"), ('＠', "@"), ('Ａ', "A"), ('Ｂ', "B"),
  ('Ｃ', "C"), ('Ｄ', "D"), ('Ｅ', "E"), ('Ｆ', "F"), ('Ｇ', "G"), ('Ｈ', "H"), ('Ｉ', "I"),
  ('Ｊ', "J"), ('Ｋ', "K"), ('Ｌ', "L"), ('Ｍ', "M"), ('Ｎ', "N"), ('Ｏ', "O"), ('Ｐ', "P"),
  ('Ｑ', "Q"), ('Ｒ', "R"), ('Ｓ', "S"), ('Ｔ', "T"), ('Ｕ', "U"), ('Ｖ', "V"), ('Ｗ', "W"),
  ('Ｘ', "X"), ('Ｙ', "Y"), ('Ｚ', "Z"), ('［', "["), ('＼', "\\"), ('］', "]"), ('＾', "^"),
  ('＿', "_"), ('｀', "\x60"), ('ａ', "a"), ('ｂ', "b"), ('ｃ', "c"), ('ｄ', "d"), ('ｅ', "e"),
  ('ｆ', "f"), ('ｇ', "g"), ('ｈ', "h"), ('ｉ', "i"), ('ｊ', "j"), ('ｋ', "k"), ('ｌ', "l"),
  ('ｍ', "m"), ('ｎ', "n"), ('ｏ', "o"), ('ｐ', "p"), ('ｑ', "q"), ('ｒ', "r"), ('ｓ', "s"),
  ('ｔ', "t"), ('ｕ', "u"), ('ｖ', "v"), ('ｗ', "w"), ('ｘ', "x"), ('ｙ', "y"), ('ｚ', "z"),
  ('｛', "\x7b"), ('｜', "|"), ('｝', "\x7d"), ('～', "~"), ('｟', "⦅"), ('｠', "⦆"),
  ('｡', "。"), ('｢', "「"), ('｣', "」"), ('､', "、"), ('･', "・"), ('ｦ', "ヲ"), ('ｧ', "ァ"),
  ('ｨ', "ィ"), ('ｩ', "ゥ"), ('ｪ', "ェ"), ('ｫ', "ォ"), ('ｬ', "ャ"), ('ｭ', "ュ"), ('ｮ', "ョ"),
  ('ｯ', "ッ"), ('\uff70', "\u30fc"), ('ｱ', "ア"), ('ｲ', "イ"), ('ｳ', "ウ"), ('ｴ', "エ"),
  ('ｵ', "オ"), ('ｶ', "カ"), ('ｷ', "キ"), ('ｸ', "ク"), ('ｹ', "ケ"), ('ｺ', "コ"), ('ｻ', "サ"),
  ('ｼ', "シ"), ('ｽ', "ス"), ('ｾ', "セ"), ('ｿ', "ソ"), ('ﾀ', "タ"), ('ﾁ', "チ"), ('ﾂ', "ツ"),
  ('ﾃ', "テ"), ('ﾄ', "ト"), ('ﾅ', "ナ"), ('ﾆ', "ニ"), ('ﾇ', "ヌ"), ('ﾈ', "ネ"), ('ﾉ', "ノ"),
  ('ﾊ', "ハ"), ('ﾋ', "ヒ"), ('ﾌ', "フ"), ('ﾍ', "ヘ"), ('ﾎ', "ホ"), ('ﾏ', "マ"), ('ﾐ', "ミ"),
  ('ﾑ', "ム"), ('ﾒ', "メ"), ('ﾓ', "モ"), ('ﾔ', "ヤ"), ('ﾕ', "ユ"), ('ﾖ', "ヨ"), ('ﾗ', "ラ"),
  ('ﾘ', "リ"), ('ﾙ', "ル"), ('ﾚ', "レ"), ('ﾛ', "ロ"), ('ﾜ', "ワ"), ('ﾝ', "ン"),
  ('\uff9e', "\u3099"), ('\uff9f', "\u309a"), ('ﾠ', "\u1160"), ('ﾡ', "\u1100"),
  ('ﾢ', "\u1101"), ('ﾣ', "\u11aa"), ('ﾤ', "\u1102"), ('ﾥ', "\u11ac"), ('ﾦ', "\u11ad"),
  ('ﾧ', "\u1103"), ('ﾨ', "\u1104"), ('ﾩ', "\u1105"), ('ﾪ', "\u11b0"), ('ﾫ', "\u11b1"),
  ('ﾬ', "\u11b2"), ('ﾭ', "\u11b3"), ('ﾮ', "\u11b4"), ('ﾯ', "\u11b5"), ('ﾰ', "\u111a"),
  ('ﾱ', "\u1106"), ('ﾲ', "\u1107"), ('ﾳ', "\u1108"), ('ﾴ', "\u1121"), ('ﾵ', "\u1109"),
  ('ﾶ', "\u110a"), ('ﾷ', "\u110b"), ('ﾸ', "\u110c"), ('ﾹ', "\u110d"), ('ﾺ', "\u110e"),
  ('ﾻ', "\u110f"), ('ﾼ', "\u1110"), ('ﾽ', "\u1111"), ('ﾾ', "\u1112"), ('ￂ', "\u1161"),
  ('ￃ', "\u1162"), ('ￄ', "\u1163"), ('ￅ', "\u1164"), ('ￆ', "\u1165"), ('ￇ', "\u1166"),
  ('ￊ', "\u1167"), ('ￋ', "\u1168"), ('ￌ', "\u1169"), ('ￍ', "\u116a"), ('ￎ', "\u116b"),
  ('ￏ', "\u116c"), ('ￒ', "\u116d"), ('ￓ', "\u116e"), ('ￔ', "\u116f"), ('ￕ', "\u1170"),
  ('ￖ', "\u1171"), ('ￗ', "\u1172"), ('ￚ', "\u1173"), ('ￛ', "\u1174"), ('ￜ', "\u1175"),
  ('￠', "¢"), ('￡', "£"), ('￢', "¬"), ('￣', " \u0304"), ('￤', "¦"), ('￥', "¥"),
  ('￦', "₩"), ('￨', "│"), ('￩', "←"), ('￪', "↑"), ('￫', "→"), ('￬', "↓"), ('￭', "■"),
  ('￮', "○")]⟩

end DeadKeys.Unicode.Decomposition
