/-!
# Compatibility decompositions: alphabetic blocks

Decompositions are kept in blocks of neighbouring code points, so that a look-up reads one block.
Each row of a block pairs a character with its full compatibility decomposition. The blocks here are
Latin, Greek, Cyrillic, Armenian, Arabic and the scripts of South and South-East Asia.
-/

namespace DeadKeys.Unicode.Decomposition

/-- The decompositions of the code points from `first` to `last`; a character without a row
decomposes to itself. -/
structure Block where
  first : Nat
  last : Nat
  rows : List (Char × String)

/-- Whether the block is the one to look a character up in. -/
def Block.covers (block : Block) (c : Char) : Bool :=
  block.first ≤ c.toNat && c.toNat ≤ block.last

/-! ## Alphabetic blocks -/

/-- Latin-1 supplement: spacing accents and accented letters. -/
def latinSupplement : Block := ⟨0x00a0, 0x00ff, [
  ('\u00a0', " "), ('¨', " \u0308"), ('ª', "a"), ('¯', " \u0304"), ('²', "2"), ('³', "3"),
  ('´', " \u0301"), ('µ', "μ"), ('¸', " \u0327"), ('¹', "1"), ('º', "o"), ('¼', "1⁄4"),
  ('½', "1⁄2"), ('¾', "3⁄4"), ('À', "A\u0300"), ('Á', "A\u0301"), ('Â', "A\u0302"),
  ('Ã', "A\u0303"), ('Ä', "A\u0308"), ('Å', "A\u030a"), ('Ç', "C\u0327"), ('È', "E\u0300"),
  ('É', "E\u0301"), ('Ê', "E\u0302"), ('Ë', "E\u0308"), ('Ì', "I\u0300"), ('Í', "I\u0301"),
  ('Î', "I\u0302"), ('Ï', "I\u0308"), ('Ñ', "N\u0303"), ('Ò', "O\u0300"), ('Ó', "O\u0301"),
  ('Ô', "O\u0302"), ('Õ', "O\u0303"), ('Ö', "O\u0308"), ('Ù', "U\u0300"), ('Ú', "U\u0301"),
  ('Û', "U\u0302"), ('Ü', "U\u0308"), ('Ý', "Y\u0301"), ('à', "a\u0300"), ('á', "a\u0301"),
  ('â', "a\u0302"), ('ã', "a\u0303"), ('ä', "a\u0308"), ('å', "a\u030a"), ('ç', "c\u0327"),
  ('è', "e\u0300"), ('é', "e\u0301"), ('ê', "e\u0302"), ('ë', "e\u0308"), ('ì', "i\u0300"),
  ('í', "i\u0301"), ('î', "i\u0302"), ('ï', "i\u0308"), ('ñ', "n\u0303"), ('ò', "o\u0300"),
  ('ó', "o\u0301"), ('ô', "o\u0302"), ('õ', "o\u0303"), ('ö', "o\u0308"), ('ù', "u\u0300"),
  ('ú', "u\u0301"), ('û', "u\u0302"), ('ü', "u\u0308"), ('ý', "y\u0301"), ('ÿ', "y\u0308")]⟩

/-- Latin letters with marks, first extension. -/
def latinExtendedA : Block := ⟨0x0100, 0x017f, [
  ('Ā', "A\u0304"), ('ā', "a\u0304"), ('Ă', "A\u0306"), ('ă', "a\u0306"), ('Ą', "A\u0328"),
  ('ą', "a\u0328"), ('Ć', "C\u0301"), ('ć', "c\u0301"), ('Ĉ', "C\u0302"), ('ĉ', "c\u0302"),
  ('Ċ', "C\u0307"), ('ċ', "c\u0307"), ('Č', "C\u030c"), ('č', "c\u030c"), ('Ď', "D\u030c"),
  ('ď', "d\u030c"), ('Ē', "E\u0304"), ('ē', "e\u0304"), ('Ĕ', "E\u0306"), ('ĕ', "e\u0306"),
  ('Ė', "E\u0307"), ('ė', "e\u0307"), ('Ę', "E\u0328"), ('ę', "e\u0328"), ('Ě', "E\u030c"),
  ('ě', "e\u030c"), ('Ĝ', "G\u0302"), ('ĝ', "g\u0302"), ('Ğ', "G\u0306"), ('ğ', "g\u0306"),
  ('Ġ', "G\u0307"), ('ġ', "g\u0307"), ('Ģ', "G\u0327"), ('ģ', "g\u0327"), ('Ĥ', "H\u0302"),
  ('ĥ', "h\u0302"), ('Ĩ', "I\u0303"), ('ĩ', "i\u0303"), ('Ī', "I\u0304"), ('ī', "i\u0304"),
  ('Ĭ', "I\u0306"), ('ĭ', "i\u0306"), ('Į', "I\u0328"), ('į', "i\u0328"), ('İ', "I\u0307"),
  ('Ĳ', "IJ"), ('ĳ', "ij"), ('Ĵ', "J\u0302"), ('ĵ', "j\u0302"), ('Ķ', "K\u0327"),
  ('ķ', "k\u0327"), ('Ĺ', "L\u0301"), ('ĺ', "l\u0301"), ('Ļ', "L\u0327"), ('ļ', "l\u0327"),
  ('Ľ', "L\u030c"), ('ľ', "l\u030c"), ('Ŀ', "L·"), ('ŀ', "l·"), ('Ń', "N\u0301"),
  ('ń', "n\u0301"), ('Ņ', "N\u0327"), ('ņ', "n\u0327"), ('Ň', "N\u030c"), ('ň', "n\u030c"),
  ('ŉ', "\u02bcn"), ('Ō', "O\u0304"), ('ō', "o\u0304"), ('Ŏ', "O\u0306"), ('ŏ', "o\u0306"),
  ('Ő', "O\u030b"), ('ő', "o\u030b"), ('Ŕ', "R\u0301"), ('ŕ', "r\u0301"), ('Ŗ', "R\u0327"),
  ('ŗ', "r\u0327"), ('Ř', "R\u030c"), ('ř', "r\u030c"), ('Ś', "S\u0301"), ('ś', "s\u0301"),
  ('Ŝ', "S\u0302"), ('ŝ', "s\u0302"), ('Ş', "S\u0327"), ('ş', "s\u0327"), ('Š', "S\u030c"),
  ('š', "s\u030c"), ('Ţ', "T\u0327"), ('ţ', "t\u0327"), ('Ť', "T\u030c"), ('ť', "t\u030c"),
  ('Ũ', "U\u0303"), ('ũ', "u\u0303"), ('Ū', "U\u0304"), ('ū', "u\u0304"), ('Ŭ', "U\u0306"),
  ('ŭ', "u\u0306"), ('Ů', "U\u030a"), ('ů', "u\u030a"), ('Ű', "U\u030b"), ('ű', "u\u030b"),
  ('Ų', "U\u0328"), ('ų', "u\u0328"), ('Ŵ', "W\u0302"), ('ŵ', "w\u0302"), ('Ŷ', "Y\u0302"),
  ('ŷ', "y\u0302"), ('Ÿ', "Y\u0308"), ('Ź', "Z\u0301"), ('ź', "z\u0301"), ('Ż', "Z\u0307"),
  ('ż', "z\u0307"), ('Ž', "Z\u030c"), ('ž', "z\u030c"), ('ſ', "s")]⟩

/-- Latin letters with marks, second extension. -/
def latinExtendedB : Block := ⟨0x0180, 0x024f, [
  ('Ơ', "O\u031b"), ('ơ', "o\u031b"), ('Ư', "U\u031b"), ('ư', "u\u031b"), ('Ǆ', "DZ\u030c"),
  ('ǅ', "Dz\u030c"), ('ǆ', "dz\u030c"), ('Ǉ', "LJ"), ('ǈ', "Lj"), ('ǉ', "lj"), ('Ǌ', "NJ"),
  ('ǋ', "Nj"), ('ǌ', "nj"), ('Ǎ', "A\u030c"), ('ǎ', "a\u030c"), ('Ǐ', "I\u030c"),
  ('ǐ', "i\u030c"), ('Ǒ', "O\u030c"), ('ǒ', "o\u030c"), ('Ǔ', "U\u030c"), ('ǔ', "u\u030c"),
  ('Ǖ', "U\u0308\u0304"), ('ǖ', "u\u0308\u0304"), ('Ǘ', "U\u0308\u0301"),
  ('ǘ', "u\u0308\u0301"), ('Ǚ', "U\u0308\u030c"), ('ǚ', "u\u0308\u030c"),
  ('Ǜ', "U\u0308\u0300"), ('ǜ', "u\u0308\u0300"), ('Ǟ', "A\u0308\u0304"),
  ('ǟ', "a\u0308\u0304"), ('Ǡ', "A\u0307\u0304"), ('ǡ', "a\u0307\u0304"), ('Ǣ', "Æ\u0304"),
  ('ǣ', "æ\u0304"), ('Ǧ', "G\u030c"), ('ǧ', "g\u030c"), ('Ǩ', "K\u030c"), ('ǩ', "k\u030c"),
  ('Ǫ', "O\u0328"), ('ǫ', "o\u0328"), ('Ǭ', "O\u0328\u0304"), ('ǭ', "o\u0328\u0304"),
  ('Ǯ', "Ʒ\u030c"), ('ǯ', "ʒ\u030c"), ('ǰ', "j\u030c"), ('Ǳ', "DZ"), ('ǲ', "Dz"), ('ǳ', "dz"),
  ('Ǵ', "G\u0301"), ('ǵ', "g\u0301"), ('Ǹ', "N\u0300"), ('ǹ', "n\u0300"),
  ('Ǻ', "A\u030a\u0301"), ('ǻ', "a\u030a\u0301"), ('Ǽ', "Æ\u0301"), ('ǽ', "æ\u0301"),
  ('Ǿ', "Ø\u0301"), ('ǿ', "ø\u0301"), ('Ȁ', "A\u030f"), ('ȁ', "a\u030f"), ('Ȃ', "A\u0311"),
  ('ȃ', "a\u0311"), ('Ȅ', "E\u030f"), ('ȅ', "e\u030f"), ('Ȇ', "E\u0311"), ('ȇ', "e\u0311"),
  ('Ȉ', "I\u030f"), ('ȉ', "i\u030f"), ('Ȋ', "I\u0311"), ('ȋ', "i\u0311"), ('Ȍ', "O\u030f"),
  ('ȍ', "o\u030f"), ('Ȏ', "O\u0311"), ('ȏ', "o\u0311"), ('Ȑ', "R\u030f"), ('ȑ', "r\u030f"),
  ('Ȓ', "R\u0311"), ('ȓ', "r\u0311"), ('Ȕ', "U\u030f"), ('ȕ', "u\u030f"), ('Ȗ', "U\u0311"),
  ('ȗ', "u\u0311"), ('Ș', "S\u0326"), ('ș', "s\u0326"), ('Ț', "T\u0326"), ('ț', "t\u0326"),
  ('Ȟ', "H\u030c"), ('ȟ', "h\u030c"), ('Ȧ', "A\u0307"), ('ȧ', "a\u0307"), ('Ȩ', "E\u0327"),
  ('ȩ', "e\u0327"), ('Ȫ', "O\u0308\u0304"), ('ȫ', "o\u0308\u0304"), ('Ȭ', "O\u0303\u0304"),
  ('ȭ', "o\u0303\u0304"), ('Ȯ', "O\u0307"), ('ȯ', "o\u0307"), ('Ȱ', "O\u0307\u0304"),
  ('ȱ', "o\u0307\u0304"), ('Ȳ', "Y\u0304"), ('ȳ', "y\u0304")]⟩

/-- Modifier letters and the spacing clones of marks. -/
def spacingModifiers : Block := ⟨0x0250, 0x02ff, [
  ('\u02b0', "h"), ('\u02b1', "ɦ"), ('\u02b2', "j"), ('\u02b3', "r"), ('\u02b4', "ɹ"),
  ('\u02b5', "ɻ"), ('\u02b6', "ʁ"), ('\u02b7', "w"), ('\u02b8', "y"), ('˘', " \u0306"),
  ('˙', " \u0307"), ('˚', " \u030a"), ('˛', " \u0328"), ('˜', " \u0303"), ('˝', " \u030b"),
  ('\u02e0', "ɣ"), ('\u02e1', "l"), ('\u02e2', "s"), ('\u02e3', "x"), ('\u02e4', "ʕ")]⟩

/-- Marks that are equivalent to other marks. -/
def combiningMarks : Block := ⟨0x0300, 0x036f, [
  ('\u0340', "\u0300"), ('\u0341', "\u0301"), ('\u0343', "\u0313"), ('\u0344', "\u0308\u0301")]⟩

/-- Greek letters with accents, and the symbol forms of letters. -/
def greek : Block := ⟨0x0370, 0x03ff, [
  ('\u0374', "\u02b9"), ('\u037a', " \u0345"), (';', ";"), ('΄', " \u0301"),
  ('΅', " \u0308\u0301"), ('Ά', "Α\u0301"), ('·', "·"), ('Έ', "Ε\u0301"), ('Ή', "Η\u0301"),
  ('Ί', "Ι\u0301"), ('Ό', "Ο\u0301"), ('Ύ', "Υ\u0301"), ('Ώ', "Ω\u0301"),
  ('ΐ', "ι\u0308\u0301"), ('Ϊ', "Ι\u0308"), ('Ϋ', "Υ\u0308"), ('ά', "α\u0301"),
  ('έ', "ε\u0301"), ('ή', "η\u0301"), ('ί', "ι\u0301"), ('ΰ', "υ\u0308\u0301"),
  ('ϊ', "ι\u0308"), ('ϋ', "υ\u0308"), ('ό', "ο\u0301"), ('ύ', "υ\u0301"), ('ώ', "ω\u0301"),
  ('ϐ', "β"), ('ϑ', "θ"), ('ϒ', "Υ"), ('ϓ', "Υ\u0301"), ('ϔ', "Υ\u0308"), ('ϕ', "φ"),
  ('ϖ', "π"), ('ϰ', "κ"), ('ϱ', "ρ"), ('ϲ', "ς"), ('ϴ', "Θ"), ('ϵ', "ε"), ('Ϲ', "Σ")]⟩

/-- Cyrillic letters with marks. -/
def cyrillic : Block := ⟨0x0400, 0x052f, [
  ('Ѐ', "Е\u0300"), ('Ё', "Е\u0308"), ('Ѓ', "Г\u0301"), ('Ї', "І\u0308"), ('Ќ', "К\u0301"),
  ('Ѝ', "И\u0300"), ('Ў', "У\u0306"), ('Й', "И\u0306"), ('й', "и\u0306"), ('ѐ', "е\u0300"),
  ('ё', "е\u0308"), ('ѓ', "г\u0301"), ('ї', "і\u0308"), ('ќ', "к\u0301"), ('ѝ', "и\u0300"),
  ('ў', "у\u0306"), ('Ѷ', "Ѵ\u030f"), ('ѷ', "ѵ\u030f"), ('Ӂ', "Ж\u0306"), ('ӂ', "ж\u0306"),
  ('Ӑ', "А\u0306"), ('ӑ', "а\u0306"), ('Ӓ', "А\u0308"), ('ӓ', "а\u0308"), ('Ӗ', "Е\u0306"),
  ('ӗ', "е\u0306"), ('Ӛ', "Ә\u0308"), ('ӛ', "ә\u0308"), ('Ӝ', "Ж\u0308"), ('ӝ', "ж\u0308"),
  ('Ӟ', "З\u0308"), ('ӟ', "з\u0308"), ('Ӣ', "И\u0304"), ('ӣ', "и\u0304"), ('Ӥ', "И\u0308"),
  ('ӥ', "и\u0308"), ('Ӧ', "О\u0308"), ('ӧ', "о\u0308"), ('Ӫ', "Ө\u0308"), ('ӫ', "ө\u0308"),
  ('Ӭ', "Э\u0308"), ('ӭ', "э\u0308"), ('Ӯ', "У\u0304"), ('ӯ', "у\u0304"), ('Ӱ', "У\u0308"),
  ('ӱ', "у\u0308"), ('Ӳ', "У\u030b"), ('ӳ', "у\u030b"), ('Ӵ', "Ч\u0308"), ('ӵ', "ч\u0308"),
  ('Ӹ', "Ы\u0308"), ('ӹ', "ы\u0308")]⟩

/-- The Armenian ligature, and Arabic letters with marks. -/
def armenianAndArabic : Block := ⟨0x0530, 0x08ff, [
  ('և', "եւ"), ('\u0622', "\u0627\u0653"), ('\u0623', "\u0627\u0654"),
  ('\u0624', "\u0648\u0654"), ('\u0625', "\u0627\u0655"), ('\u0626', "\u064a\u0654"),
  ('\u0675', "\u0627\u0674"), ('\u0676', "\u0648\u0674"), ('\u0677', "\u06c7\u0674"),
  ('\u0678', "\u064a\u0674"), ('\u06c0', "\u06d5\u0654"), ('\u06c2', "\u06c1\u0654"),
  ('\u06d3', "\u06d2\u0654")]⟩

/-- Letters and vowel signs of the Indic scripts. -/
def southAsian : Block := ⟨0x0900, 0x0dff, [
  ('ऩ', "न\u093c"), ('ऱ', "र\u093c"), ('ऴ', "ळ\u093c"), ('क़', "क\u093c"), ('ख़', "ख\u093c"),
  ('ग़', "ग\u093c"), ('ज़', "ज\u093c"), ('ड़', "ड\u093c"), ('ढ़', "ढ\u093c"), ('फ़', "फ\u093c"),
  ('य़', "य\u093c"), ('\u09cb', "\u09c7\u09be"), ('\u09cc', "\u09c7\u09d7"), ('ড়', "ড\u09bc"),
  ('ঢ়', "ঢ\u09bc"), ('য়', "য\u09bc"), ('ਲ਼', "ਲ\u0a3c"), ('ਸ਼', "ਸ\u0a3c"), ('ਖ਼', "ਖ\u0a3c"),
  ('ਗ਼', "ਗ\u0a3c"), ('ਜ਼', "ਜ\u0a3c"), ('ਫ਼', "ਫ\u0a3c"), ('\u0b48', "\u0b47\u0b56"),
  ('\u0b4b', "\u0b47\u0b3e"), ('\u0b4c', "\u0b47\u0b57"), ('ଡ଼', "ଡ\u0b3c"), ('ଢ଼', "ଢ\u0b3c"),
  ('ஔ', "ஒ\u0bd7"), ('\u0bca', "\u0bc6\u0bbe"), ('\u0bcb', "\u0bc7\u0bbe"),
  ('\u0bcc', "\u0bc6\u0bd7"), ('\u0c48', "\u0c46\u0c56"), ('\u0cc0', "\u0cbf\u0cd5"),
  ('\u0cc7', "\u0cc6\u0cd5"), ('\u0cc8', "\u0cc6\u0cd6"), ('\u0cca', "\u0cc6\u0cc2"),
  ('\u0ccb', "\u0cc6\u0cc2\u0cd5"), ('\u0d4a', "\u0d46\u0d3e"), ('\u0d4b', "\u0d47\u0d3e"),
  ('\u0d4c', "\u0d46\u0d57"), ('\u0dda', "\u0dd9\u0dca"), ('\u0ddc', "\u0dd9\u0dcf"),
  ('\u0ddd', "\u0dd9\u0dcf\u0dca"), ('\u0dde', "\u0dd9\u0ddf")]⟩

/-- Thai, Lao, Tibetan, Myanmar, Georgian and Balinese. -/
def southEastAsian : Block := ⟨0x0e00, 0x1cff, [
  ('ำ', "\u0e4dา"), ('ຳ', "\u0ecdາ"), ('ໜ', "ຫນ"), ('ໝ', "ຫມ"), ('༌', "་"), ('གྷ', "ག\u0fb7"),
  ('ཌྷ', "ཌ\u0fb7"), ('དྷ', "ད\u0fb7"), ('བྷ', "བ\u0fb7"), ('ཛྷ', "ཛ\u0fb7"), ('ཀྵ', "ཀ\u0fb5"),
  ('\u0f73', "\u0f71\u0f72"), ('\u0f75', "\u0f71\u0f74"), ('\u0f76', "\u0fb2\u0f80"),
  ('\u0f77', "\u0fb2\u0f71\u0f80"), ('\u0f78', "\u0fb3\u0f80"),
  ('\u0f79', "\u0fb3\u0f71\u0f80"), ('\u0f81', "\u0f71\u0f80"), ('\u0f93', "\u0f92\u0fb7"),
  ('\u0f9d', "\u0f9c\u0fb7"), ('\u0fa2', "\u0fa1\u0fb7"), ('\u0fa7', "\u0fa6\u0fb7"),
  ('\u0fac', "\u0fab\u0fb7"), ('\u0fb9', "\u0f90\u0fb5"), ('ဦ', "ဥ\u102e"), ('\u10fc', "ნ"),
  ('ᬆ', "ᬅ\u1b35"), ('ᬈ', "ᬇ\u1b35"), ('ᬊ', "ᬉ\u1b35"), ('ᬌ', "ᬋ\u1b35"), ('ᬎ', "ᬍ\u1b35"),
  ('ᬒ', "ᬑ\u1b35"), ('\u1b3b', "\u1b3a\u1b35"), ('\u1b3d', "\u1b3c\u1b35"),
  ('\u1b40', "\u1b3e\u1b35"), ('\u1b41', "\u1b3f\u1b35"), ('\u1b43', "\u1b42\u1b35")]⟩

/-- Modifier letters of the phonetic alphabets. -/
def phoneticExtensions : Block := ⟨0x1d00, 0x1dff, [
  ('\u1d2c', "A"), ('\u1d2d', "Æ"), ('\u1d2e', "B"), ('\u1d30', "D"), ('\u1d31', "E"),
  ('\u1d32', "Ǝ"), ('\u1d33', "G"), ('\u1d34', "H"), ('\u1d35', "I"), ('\u1d36', "J"),
  ('\u1d37', "K"), ('\u1d38', "L"), ('\u1d39', "M"), ('\u1d3a', "N"), ('\u1d3c', "O"),
  ('\u1d3d', "Ȣ"), ('\u1d3e', "P"), ('\u1d3f', "R"), ('\u1d40', "T"), ('\u1d41', "U"),
  ('\u1d42', "W"), ('\u1d43', "a"), ('\u1d44', "ɐ"), ('\u1d45', "ɑ"), ('\u1d46', "ᴂ"),
  ('\u1d47', "b"), ('\u1d48', "d"), ('\u1d49', "e"), ('\u1d4a', "ə"), ('\u1d4b', "ɛ"),
  ('\u1d4c', "ɜ"), ('\u1d4d', "g"), ('\u1d4f', "k"), ('\u1d50', "m"), ('\u1d51', "ŋ"),
  ('\u1d52', "o"), ('\u1d53', "ɔ"), ('\u1d54', "ᴖ"), ('\u1d55', "ᴗ"), ('\u1d56', "p"),
  ('\u1d57', "t"), ('\u1d58', "u"), ('\u1d59', "ᴝ"), ('\u1d5a', "ɯ"), ('\u1d5b', "v"),
  ('\u1d5c', "ᴥ"), ('\u1d5d', "β"), ('\u1d5e', "γ"), ('\u1d5f', "δ"), ('\u1d60', "φ"),
  ('\u1d61', "χ"), ('\u1d62', "i"), ('\u1d63', "r"), ('\u1d64', "u"), ('\u1d65', "v"),
  ('\u1d66', "β"), ('\u1d67', "γ"), ('\u1d68', "ρ"), ('\u1d69', "φ"), ('\u1d6a', "χ"),
  ('\u1d78', "н"), ('\u1d9b', "ɒ"), ('\u1d9c', "c"), ('\u1d9d', "ɕ"), ('\u1d9e', "ð"),
  ('\u1d9f', "ɜ"), ('\u1da0', "f"), ('\u1da1', "ɟ"), ('\u1da2', "ɡ"), ('\u1da3', "ɥ"),
  ('\u1da4', "ɨ"), ('\u1da5', "ɩ"), ('\u1da6', "ɪ"), ('\u1da7', "ᵻ"), ('\u1da8', "ʝ"),
  ('\u1da9', "ɭ"), ('\u1daa', "ᶅ"), ('\u1dab', "ʟ"), ('\u1dac', "ɱ"), ('\u1dad', "ɰ"),
  ('\u1dae', "ɲ"), ('\u1daf', "ɳ"), ('\u1db0', "ɴ"), ('\u1db1', "ɵ"), ('\u1db2', "ɸ"),
  ('\u1db3', "ʂ"), ('\u1db4', "ʃ"), ('\u1db5', "ƫ"), ('\u1db6', "ʉ"), ('\u1db7', "ʊ"),
  ('\u1db8', "ᴜ"), ('\u1db9', "ʋ"), ('\u1dba', "ʌ"), ('\u1dbb', "z"), ('\u1dbc', "ʐ"),
  ('\u1dbd', "ʑ"), ('\u1dbe', "ʒ"), ('\u1dbf', "θ")]⟩

/-- Latin letters with one or two marks. -/
def latinExtendedAdditional : Block := ⟨0x1e00, 0x1eff, [
  ('Ḁ', "A\u0325"), ('ḁ', "a\u0325"), ('Ḃ', "B\u0307"), ('ḃ', "b\u0307"), ('Ḅ', "B\u0323"),
  ('ḅ', "b\u0323"), ('Ḇ', "B\u0331"), ('ḇ', "b\u0331"), ('Ḉ', "C\u0327\u0301"),
  ('ḉ', "c\u0327\u0301"), ('Ḋ', "D\u0307"), ('ḋ', "d\u0307"), ('Ḍ', "D\u0323"),
  ('ḍ', "d\u0323"), ('Ḏ', "D\u0331"), ('ḏ', "d\u0331"), ('Ḑ', "D\u0327"), ('ḑ', "d\u0327"),
  ('Ḓ', "D\u032d"), ('ḓ', "d\u032d"), ('Ḕ', "E\u0304\u0300"), ('ḕ', "e\u0304\u0300"),
  ('Ḗ', "E\u0304\u0301"), ('ḗ', "e\u0304\u0301"), ('Ḙ', "E\u032d"), ('ḙ', "e\u032d"),
  ('Ḛ', "E\u0330"), ('ḛ', "e\u0330"), ('Ḝ', "E\u0327\u0306"), ('ḝ', "e\u0327\u0306"),
  ('Ḟ', "F\u0307"), ('ḟ', "f\u0307"), ('Ḡ', "G\u0304"), ('ḡ', "g\u0304"), ('Ḣ', "H\u0307"),
  ('ḣ', "h\u0307"), ('Ḥ', "H\u0323"), ('ḥ', "h\u0323"), ('Ḧ', "H\u0308"), ('ḧ', "h\u0308"),
  ('Ḩ', "H\u0327"), ('ḩ', "h\u0327"), ('Ḫ', "H\u032e"), ('ḫ', "h\u032e"), ('Ḭ', "I\u0330"),
  ('ḭ', "i\u0330"), ('Ḯ', "I\u0308\u0301"), ('ḯ', "i\u0308\u0301"), ('Ḱ', "K\u0301"),
  ('ḱ', "k\u0301"), ('Ḳ', "K\u0323"), ('ḳ', "k\u0323"), ('Ḵ', "K\u0331"), ('ḵ', "k\u0331"),
  ('Ḷ', "L\u0323"), ('ḷ', "l\u0323"), ('Ḹ', "L\u0323\u0304"), ('ḹ', "l\u0323\u0304"),
  ('Ḻ', "L\u0331"), ('ḻ', "l\u0331"), ('Ḽ', "L\u032d"), ('ḽ', "l\u032d"), ('Ḿ', "M\u0301"),
  ('ḿ', "m\u0301"), ('Ṁ', "M\u0307"), ('ṁ', "m\u0307"), ('Ṃ', "M\u0323"), ('ṃ', "m\u0323"),
  ('Ṅ', "N\u0307"), ('ṅ', "n\u0307"), ('Ṇ', "N\u0323"), ('ṇ', "n\u0323"), ('Ṉ', "N\u0331"),
  ('ṉ', "n\u0331"), ('Ṋ', "N\u032d"), ('ṋ', "n\u032d"), ('Ṍ', "O\u0303\u0301"),
  ('ṍ', "o\u0303\u0301"), ('Ṏ', "O\u0303\u0308"), ('ṏ', "o\u0303\u0308"),
  ('Ṑ', "O\u0304\u0300"), ('ṑ', "o\u0304\u0300"), ('Ṓ', "O\u0304\u0301"),
  ('ṓ', "o\u0304\u0301"), ('Ṕ', "P\u0301"), ('ṕ', "p\u0301"), ('Ṗ', "P\u0307"),
  ('ṗ', "p\u0307"), ('Ṙ', "R\u0307"), ('ṙ', "r\u0307"), ('Ṛ', "R\u0323"), ('ṛ', "r\u0323"),
  ('Ṝ', "R\u0323\u0304"), ('ṝ', "r\u0323\u0304"), ('Ṟ', "R\u0331"), ('ṟ', "r\u0331"),
  ('Ṡ', "S\u0307"), ('ṡ', "s\u0307"), ('Ṣ', "S\u0323"), ('ṣ', "s\u0323"),
  ('Ṥ', "S\u0301\u0307"), ('ṥ', "s\u0301\u0307"), ('Ṧ', "S\u030c\u0307"),
  ('ṧ', "s\u030c\u0307"), ('Ṩ', "S\u0323\u0307"), ('ṩ', "s\u0323\u0307"), ('Ṫ', "T\u0307"),
  ('ṫ', "t\u0307"), ('Ṭ', "T\u0323"), ('ṭ', "t\u0323"), ('Ṯ', "T\u0331"), ('ṯ', "t\u0331"),
  ('Ṱ', "T\u032d"), ('ṱ', "t\u032d"), ('Ṳ', "U\u0324"), ('ṳ', "u\u0324"), ('Ṵ', "U\u0330"),
  ('ṵ', "u\u0330"), ('Ṷ', "U\u032d"), ('ṷ', "u\u032d"), ('Ṹ', "U\u0303\u0301"),
  ('ṹ', "u\u0303\u0301"), ('Ṻ', "U\u0304\u0308"), ('ṻ', "u\u0304\u0308"), ('Ṽ', "V\u0303"),
  ('ṽ', "v\u0303"), ('Ṿ', "V\u0323"), ('ṿ', "v\u0323"), ('Ẁ', "W\u0300"), ('ẁ', "w\u0300"),
  ('Ẃ', "W\u0301"), ('ẃ', "w\u0301"), ('Ẅ', "W\u0308"), ('ẅ', "w\u0308"), ('Ẇ', "W\u0307"),
  ('ẇ', "w\u0307"), ('Ẉ', "W\u0323"), ('ẉ', "w\u0323"), ('Ẋ', "X\u0307"), ('ẋ', "x\u0307"),
  ('Ẍ', "X\u0308"), ('ẍ', "x\u0308"), ('Ẏ', "Y\u0307"), ('ẏ', "y\u0307"), ('Ẑ', "Z\u0302"),
  ('ẑ', "z\u0302"), ('Ẓ', "Z\u0323"), ('ẓ', "z\u0323"), ('Ẕ', "Z\u0331"), ('ẕ', "z\u0331"),
  ('ẖ', "h\u0331"), ('ẗ', "t\u0308"), ('ẘ', "w\u030a"), ('ẙ', "y\u030a"), ('ẚ', "a\u02be"),
  ('ẛ', "s\u0307"), ('Ạ', "A\u0323"), ('ạ', "a\u0323"), ('Ả', "A\u0309"), ('ả', "a\u0309"),
  ('Ấ', "A\u0302\u0301"), ('ấ', "a\u0302\u0301"), ('Ầ', "A\u0302\u0300"),
  ('ầ', "a\u0302\u0300"), ('Ẩ', "A\u0302\u0309"), ('ẩ', "a\u0302\u0309"),
  ('Ẫ', "A\u0302\u0303"), ('ẫ', "a\u0302\u0303"), ('Ậ', "A\u0323\u0302"),
  ('ậ', "a\u0323\u0302"), ('Ắ', "A\u0306\u0301"), ('ắ', "a\u0306\u0301"),
  ('Ằ', "A\u0306\u0300"), ('ằ', "a\u0306\u0300"), ('Ẳ', "A\u0306\u0309"),
  ('ẳ', "a\u0306\u0309"), ('Ẵ', "A\u0306\u0303"), ('ẵ', "a\u0306\u0303"),
  ('Ặ', "A\u0323\u0306"), ('ặ', "a\u0323\u0306"), ('Ẹ', "E\u0323"), ('ẹ', "e\u0323"),
  ('Ẻ', "E\u0309"), ('ẻ', "e\u0309"), ('Ẽ', "E\u0303"), ('ẽ', "e\u0303"),
  ('Ế', "E\u0302\u0301"), ('ế', "e\u0302\u0301"), ('Ề', "E\u0302\u0300"),
  ('ề', "e\u0302\u0300"), ('Ể', "E\u0302\u0309"), ('ể', "e\u0302\u0309"),
  ('Ễ', "E\u0302\u0303"), ('ễ', "e\u0302\u0303"), ('Ệ', "E\u0323\u0302"),
  ('ệ', "e\u0323\u0302"), ('Ỉ', "I\u0309"), ('ỉ', "i\u0309"), ('Ị', "I\u0323"),
  ('ị', "i\u0323"), ('Ọ', "O\u0323"), ('ọ', "o\u0323"), ('Ỏ', "O\u0309"), ('ỏ', "o\u0309"),
  ('Ố', "O\u0302\u0301"), ('ố', "o\u0302\u0301"), ('Ồ', "O\u0302\u0300"),
  ('ồ', "o\u0302\u0300"), ('Ổ', "O\u0302\u0309"), ('ổ', "o\u0302\u0309"),
  ('Ỗ', "O\u0302\u0303"), ('ỗ', "o\u0302\u0303"), ('Ộ', "O\u0323\u0302"),
  ('ộ', "o\u0323\u0302"), ('Ớ', "O\u031b\u0301"), ('ớ', "o\u031b\u0301"),
  ('Ờ', "O\u031b\u0300"), ('ờ', "o\u031b\u0300"), ('Ở', "O\u031b\u0309"),
  ('ở', "o\u031b\u0309"), ('Ỡ', "O\u031b\u0303"), ('ỡ', "o\u031b\u0303"),
  ('Ợ', "O\u031b\u0323"), ('ợ', "o\u031b\u0323"), ('Ụ', "U\u0323"), ('ụ', "u\u0323"),
  ('Ủ', "U\u0309"), ('ủ', "u\u0309"), ('Ứ', "U\u031b\u0301"), ('ứ', "u\u031b\u0301"),
  ('Ừ', "U\u031b\u0300"), ('ừ', "u\u031b\u0300"), ('Ử', "U\u031b\u0309"),
  ('ử', "u\u031b\u0309"), ('Ữ', "U\u031b\u0303"), ('ữ', "u\u031b\u0303"),
  ('Ự', "U\u031b\u0323"), ('ự', "u\u031b\u0323"), ('Ỳ', "Y\u0300"), ('ỳ', "y\u0300"),
  ('Ỵ', "Y\u0323"), ('ỵ', "y\u0323"), ('Ỷ', "Y\u0309"), ('ỷ', "y\u0309"), ('Ỹ', "Y\u0303"),
  ('ỹ', "y\u0303")]⟩

/-- Polytonic Greek. -/
def greekExtended : Block := ⟨0x1f00, 0x1fff, [
  ('ἀ', "α\u0313"), ('ἁ', "α\u0314"), ('ἂ', "α\u0313\u0300"), ('ἃ', "α\u0314\u0300"),
  ('ἄ', "α\u0313\u0301"), ('ἅ', "α\u0314\u0301"), ('ἆ', "α\u0313\u0342"),
  ('ἇ', "α\u0314\u0342"), ('Ἀ', "Α\u0313"), ('Ἁ', "Α\u0314"), ('Ἂ', "Α\u0313\u0300"),
  ('Ἃ', "Α\u0314\u0300"), ('Ἄ', "Α\u0313\u0301"), ('Ἅ', "Α\u0314\u0301"),
  ('Ἆ', "Α\u0313\u0342"), ('Ἇ', "Α\u0314\u0342"), ('ἐ', "ε\u0313"), ('ἑ', "ε\u0314"),
  ('ἒ', "ε\u0313\u0300"), ('ἓ', "ε\u0314\u0300"), ('ἔ', "ε\u0313\u0301"),
  ('ἕ', "ε\u0314\u0301"), ('Ἐ', "Ε\u0313"), ('Ἑ', "Ε\u0314"), ('Ἒ', "Ε\u0313\u0300"),
  ('Ἓ', "Ε\u0314\u0300"), ('Ἔ', "Ε\u0313\u0301"), ('Ἕ', "Ε\u0314\u0301"), ('ἠ', "η\u0313"),
  ('ἡ', "η\u0314"), ('ἢ', "η\u0313\u0300"), ('ἣ', "η\u0314\u0300"), ('ἤ', "η\u0313\u0301"),
  ('ἥ', "η\u0314\u0301"), ('ἦ', "η\u0313\u0342"), ('ἧ', "η\u0314\u0342"), ('Ἠ', "Η\u0313"),
  ('Ἡ', "Η\u0314"), ('Ἢ', "Η\u0313\u0300"), ('Ἣ', "Η\u0314\u0300"), ('Ἤ', "Η\u0313\u0301"),
  ('Ἥ', "Η\u0314\u0301"), ('Ἦ', "Η\u0313\u0342"), ('Ἧ', "Η\u0314\u0342"), ('ἰ', "ι\u0313"),
  ('ἱ', "ι\u0314"), ('ἲ', "ι\u0313\u0300"), ('ἳ', "ι\u0314\u0300"), ('ἴ', "ι\u0313\u0301"),
  ('ἵ', "ι\u0314\u0301"), ('ἶ', "ι\u0313\u0342"), ('ἷ', "ι\u0314\u0342"), ('Ἰ', "Ι\u0313"),
  ('Ἱ', "Ι\u0314"), ('Ἲ', "Ι\u0313\u0300"), ('Ἳ', "Ι\u0314\u0300"), ('Ἴ', "Ι\u0313\u0301"),
  ('Ἵ', "Ι\u0314\u0301"), ('Ἶ', "Ι\u0313\u0342"), ('Ἷ', "Ι\u0314\u0342"), ('ὀ', "ο\u0313"),
  ('ὁ', "ο\u0314"), ('ὂ', "ο\u0313\u0300"), ('ὃ', "ο\u0314\u0300"), ('ὄ', "ο\u0313\u0301"),
  ('ὅ', "ο\u0314\u0301"), ('Ὀ', "Ο\u0313"), ('Ὁ', "Ο\u0314"), ('Ὂ', "Ο\u0313\u0300"),
  ('Ὃ', "Ο\u0314\u0300"), ('Ὄ', "Ο\u0313\u0301"), ('Ὅ', "Ο\u0314\u0301"), ('ὐ', "υ\u0313"),
  ('ὑ', "υ\u0314"), ('ὒ', "υ\u0313\u0300"), ('ὓ', "υ\u0314\u0300"), ('ὔ', "υ\u0313\u0301"),
  ('ὕ', "υ\u0314\u0301"), ('ὖ', "υ\u0313\u0342"), ('ὗ', "υ\u0314\u0342"), ('Ὑ', "Υ\u0314"),
  ('Ὓ', "Υ\u0314\u0300"), ('Ὕ', "Υ\u0314\u0301"), ('Ὗ', "Υ\u0314\u0342"), ('ὠ', "ω\u0313"),
  ('ὡ', "ω\u0314"), ('ὢ', "ω\u0313\u0300"), ('ὣ', "ω\u0314\u0300"), ('ὤ', "ω\u0313\u0301"),
  ('ὥ', "ω\u0314\u0301"), ('ὦ', "ω\u0313\u0342"), ('ὧ', "ω\u0314\u0342"), ('Ὠ', "Ω\u0313"),
  ('Ὡ', "Ω\u0314"), ('Ὢ', "Ω\u0313\u0300"), ('Ὣ', "Ω\u0314\u0300"), ('Ὤ', "Ω\u0313\u0301"),
  ('Ὥ', "Ω\u0314\u0301"), ('Ὦ', "Ω\u0313\u0342"), ('Ὧ', "Ω\u0314\u0342"), ('ὰ', "α\u0300"),
  ('ά', "α\u0301"), ('ὲ', "ε\u0300"), ('έ', "ε\u0301"), ('ὴ', "η\u0300"), ('ή', "η\u0301"),
  ('ὶ', "ι\u0300"), ('ί', "ι\u0301"), ('ὸ', "ο\u0300"), ('ό', "ο\u0301"), ('ὺ', "υ\u0300"),
  ('ύ', "υ\u0301"), ('ὼ', "ω\u0300"), ('ώ', "ω\u0301"), ('ᾀ', "α\u0313\u0345"),
  ('ᾁ', "α\u0314\u0345"), ('ᾂ', "α\u0313\u0300\u0345"), ('ᾃ', "α\u0314\u0300\u0345"),
  ('ᾄ', "α\u0313\u0301\u0345"), ('ᾅ', "α\u0314\u0301\u0345"), ('ᾆ', "α\u0313\u0342\u0345"),
  ('ᾇ', "α\u0314\u0342\u0345"), ('ᾈ', "Α\u0313\u0345"), ('ᾉ', "Α\u0314\u0345"),
  ('ᾊ', "Α\u0313\u0300\u0345"), ('ᾋ', "Α\u0314\u0300\u0345"), ('ᾌ', "Α\u0313\u0301\u0345"),
  ('ᾍ', "Α\u0314\u0301\u0345"), ('ᾎ', "Α\u0313\u0342\u0345"), ('ᾏ', "Α\u0314\u0342\u0345"),
  ('ᾐ', "η\u0313\u0345"), ('ᾑ', "η\u0314\u0345"), ('ᾒ', "η\u0313\u0300\u0345"),
  ('ᾓ', "η\u0314\u0300\u0345"), ('ᾔ', "η\u0313\u0301\u0345"), ('ᾕ', "η\u0314\u0301\u0345"),
  ('ᾖ', "η\u0313\u0342\u0345"), ('ᾗ', "η\u0314\u0342\u0345"), ('ᾘ', "Η\u0313\u0345"),
  ('ᾙ', "Η\u0314\u0345"), ('ᾚ', "Η\u0313\u0300\u0345"), ('ᾛ', "Η\u0314\u0300\u0345"),
  ('ᾜ', "Η\u0313\u0301\u0345"), ('ᾝ', "Η\u0314\u0301\u0345"), ('ᾞ', "Η\u0313\u0342\u0345"),
  ('ᾟ', "Η\u0314\u0342\u0345"), ('ᾠ', "ω\u0313\u0345"), ('ᾡ', "ω\u0314\u0345"),
  ('ᾢ', "ω\u0313\u0300\u0345"), ('ᾣ', "ω\u0314\u0300\u0345"), ('ᾤ', "ω\u0313\u0301\u0345"),
  ('ᾥ', "ω\u0314\u0301\u0345"), ('ᾦ', "ω\u0313\u0342\u0345"), ('ᾧ', "ω\u0314\u0342\u0345"),
  ('ᾨ', "Ω\u0313\u0345"), ('ᾩ', "Ω\u0314\u0345"), ('ᾪ', "Ω\u0313\u0300\u0345"),
  ('ᾫ', "Ω\u0314\u0300\u0345"), ('ᾬ', "Ω\u0313\u0301\u0345"), ('ᾭ', "Ω\u0314\u0301\u0345"),
  ('ᾮ', "Ω\u0313\u0342\u0345"), ('ᾯ', "Ω\u0314\u0342\u0345"), ('ᾰ', "α\u0306"),
  ('ᾱ', "α\u0304"), ('ᾲ', "α\u0300\u0345"), ('ᾳ', "α\u0345"), ('ᾴ', "α\u0301\u0345"),
  ('ᾶ', "α\u0342"), ('ᾷ', "α\u0342\u0345"), ('Ᾰ', "Α\u0306"), ('Ᾱ', "Α\u0304"),
  ('Ὰ', "Α\u0300"), ('Ά', "Α\u0301"), ('ᾼ', "Α\u0345"), ('᾽', " \u0313"), ('ι', "ι"),
  ('᾿', " \u0313"), ('῀', " \u0342"), ('῁', " \u0308\u0342"), ('ῂ', "η\u0300\u0345"),
  ('ῃ', "η\u0345"), ('ῄ', "η\u0301\u0345"), ('ῆ', "η\u0342"), ('ῇ', "η\u0342\u0345"),
  ('Ὲ', "Ε\u0300"), ('Έ', "Ε\u0301"), ('Ὴ', "Η\u0300"), ('Ή', "Η\u0301"), ('ῌ', "Η\u0345"),
  ('῍', " \u0313\u0300"), ('῎', " \u0313\u0301"), ('῏', " \u0313\u0342"), ('ῐ', "ι\u0306"),
  ('ῑ', "ι\u0304"), ('ῒ', "ι\u0308\u0300"), ('ΐ', "ι\u0308\u0301"), ('ῖ', "ι\u0342"),
  ('ῗ', "ι\u0308\u0342"), ('Ῐ', "Ι\u0306"), ('Ῑ', "Ι\u0304"), ('Ὶ', "Ι\u0300"),
  ('Ί', "Ι\u0301"), ('῝', " \u0314\u0300"), ('῞', " \u0314\u0301"), ('῟', " \u0314\u0342"),
  ('ῠ', "υ\u0306"), ('ῡ', "υ\u0304"), ('ῢ', "υ\u0308\u0300"), ('ΰ', "υ\u0308\u0301"),
  ('ῤ', "ρ\u0313"), ('ῥ', "ρ\u0314"), ('ῦ', "υ\u0342"), ('ῧ', "υ\u0308\u0342"),
  ('Ῠ', "Υ\u0306"), ('Ῡ', "Υ\u0304"), ('Ὺ', "Υ\u0300"), ('Ύ', "Υ\u0301"), ('Ῥ', "Ρ\u0314"),
  ('῭', " \u0308\u0300"), ('΅', " \u0308\u0301"), ('`', "\x60"), ('ῲ', "ω\u0300\u0345"),
  ('ῳ', "ω\u0345"), ('ῴ', "ω\u0301\u0345"), ('ῶ', "ω\u0342"), ('ῷ', "ω\u0342\u0345"),
  ('Ὸ', "Ο\u0300"), ('Ό', "Ο\u0301"), ('Ὼ', "Ω\u0300"), ('Ώ', "Ω\u0301"), ('ῼ', "Ω\u0345"),
  ('´', " \u0301"), ('῾', " \u0314")]⟩

end DeadKeys.Unicode.Decomposition
