import DeadKeys.Unicode.Decomposition.Alphabetic

/-!
# Compatibility decompositions: symbol blocks

Punctuation, letterlike symbols, number forms, arrows and mathematical operators.
Each row pairs a character with its full compatibility decomposition.
-/

namespace DeadKeys.Unicode.Decomposition

/-- Fixed-width spaces and multiple dots. -/
def punctuation : Block := ⟨0x2000, 0x206f, [
  ('\u2000', " "), ('\u2001', " "), ('\u2002', " "), ('\u2003', " "), ('\u2004', " "),
  ('\u2005', " "), ('\u2006', " "), ('\u2007', " "), ('\u2008', " "), ('\u2009', " "),
  ('\u200a', " "), ('‑', "‐"), ('‗', " \u0333"), ('․', "."), ('‥', ".."), ('…', "..."),
  ('\u202f', " "), ('″', "′′"), ('‴', "′′′"), ('‶', "‵‵"), ('‷', "‵‵‵"), ('‼', "!!"),
  ('‾', " \u0305"), ('⁇', "??"), ('⁈', "?!"), ('⁉', "!?"), ('⁗', "′′′′"), ('\u205f', " ")]⟩

/-- Superscripts, subscripts and currency signs. -/
def scriptsAndCurrency : Block := ⟨0x2070, 0x20cf, [
  ('⁰', "0"), ('\u2071', "i"), ('⁴', "4"), ('⁵', "5"), ('⁶', "6"), ('⁷', "7"), ('⁸', "8"),
  ('⁹', "9"), ('⁺', "+"), ('⁻', "−"), ('⁼', "="), ('⁽', "("), ('⁾', ")"), ('\u207f', "n"),
  ('₀', "0"), ('₁', "1"), ('₂', "2"), ('₃', "3"), ('₄', "4"), ('₅', "5"), ('₆', "6"),
  ('₇', "7"), ('₈', "8"), ('₉', "9"), ('₊', "+"), ('₋', "−"), ('₌', "="), ('₍', "("),
  ('₎', ")"), ('\u2090', "a"), ('\u2091', "e"), ('\u2092', "o"), ('\u2093', "x"),
  ('\u2094', "ə"), ('\u2095', "h"), ('\u2096', "k"), ('\u2097', "l"), ('\u2098', "m"),
  ('\u2099', "n"), ('\u209a', "p"), ('\u209b', "s"), ('\u209c', "t"), ('₨', "Rs")]⟩

/-- Letterlike symbols. -/
def letterlike : Block := ⟨0x2100, 0x214f, [
  ('℀', "a/c"), ('℁', "a/s"), ('ℂ', "C"), ('℃', "°C"), ('℅', "c/o"), ('℆', "c/u"), ('ℇ', "Ɛ"),
  ('℉', "°F"), ('ℊ', "g"), ('ℋ', "H"), ('ℌ', "H"), ('ℍ', "H"), ('ℎ', "h"), ('ℏ', "ħ"),
  ('ℐ', "I"), ('ℑ', "I"), ('ℒ', "L"), ('ℓ', "l"), ('ℕ', "N"), ('№', "No"), ('ℙ', "P"),
  ('ℚ', "Q"), ('ℛ', "R"), ('ℜ', "R"), ('ℝ', "R"), ('℠', "SM"), ('℡', "TEL"), ('™', "TM"),
  ('ℤ', "Z"), ('Ω', "Ω"), ('ℨ', "Z"), ('K', "K"), ('Å', "A\u030a"), ('ℬ', "B"), ('ℭ', "C"),
  ('ℯ', "e"), ('ℰ', "E"), ('ℱ', "F"), ('ℳ', "M"), ('ℴ', "o"), ('ℵ', "\u05d0"), ('ℶ', "\u05d1"),
  ('ℷ', "\u05d2"), ('ℸ', "\u05d3"), ('ℹ', "i"), ('℻', "FAX"), ('ℼ', "π"), ('ℽ', "γ"),
  ('ℾ', "Γ"), ('ℿ', "Π"), ('⅀', "∑"), ('ⅅ', "D"), ('ⅆ', "d"), ('ⅇ', "e"), ('ⅈ', "i"),
  ('ⅉ', "j")]⟩

/-- Vulgar fractions and Roman numerals. -/
def numberForms : Block := ⟨0x2150, 0x218f, [
  ('⅐', "1⁄7"), ('⅑', "1⁄9"), ('⅒', "1⁄10"), ('⅓', "1⁄3"), ('⅔', "2⁄3"), ('⅕', "1⁄5"),
  ('⅖', "2⁄5"), ('⅗', "3⁄5"), ('⅘', "4⁄5"), ('⅙', "1⁄6"), ('⅚', "5⁄6"), ('⅛', "1⁄8"),
  ('⅜', "3⁄8"), ('⅝', "5⁄8"), ('⅞', "7⁄8"), ('⅟', "1⁄"), ('Ⅰ', "I"), ('Ⅱ', "II"), ('Ⅲ', "III"),
  ('Ⅳ', "IV"), ('Ⅴ', "V"), ('Ⅵ', "VI"), ('Ⅶ', "VII"), ('Ⅷ', "VIII"), ('Ⅸ', "IX"), ('Ⅹ', "X"),
  ('Ⅺ', "XI"), ('Ⅻ', "XII"), ('Ⅼ', "L"), ('Ⅽ', "C"), ('Ⅾ', "D"), ('Ⅿ', "M"), ('ⅰ', "i"),
  ('ⅱ', "ii"), ('ⅲ', "iii"), ('ⅳ', "iv"), ('ⅴ', "v"), ('ⅵ', "vi"), ('ⅶ', "vii"), ('ⅷ', "viii"),
  ('ⅸ', "ix"), ('ⅹ', "x"), ('ⅺ', "xi"), ('ⅻ', "xii"), ('ⅼ', "l"), ('ⅽ', "c"), ('ⅾ', "d"),
  ('ⅿ', "m"), ('↉', "0⁄3")]⟩

/-- Negated arrows and operators. -/
def operators : Block := ⟨0x2190, 0x245f, [
  ('↚', "←\u0338"), ('↛', "→\u0338"), ('↮', "↔\u0338"), ('⇍', "⇐\u0338"), ('⇎', "⇔\u0338"),
  ('⇏', "⇒\u0338"), ('∄', "∃\u0338"), ('∉', "∈\u0338"), ('∌', "∋\u0338"), ('∤', "∣\u0338"),
  ('∦', "∥\u0338"), ('∬', "∫∫"), ('∭', "∫∫∫"), ('∯', "∮∮"), ('∰', "∮∮∮"), ('≁', "∼\u0338"),
  ('≄', "≃\u0338"), ('≇', "≅\u0338"), ('≉', "≈\u0338"), ('≠', "=\u0338"), ('≢', "≡\u0338"),
  ('≭', "≍\u0338"), ('≮', "<\u0338"), ('≯', ">\u0338"), ('≰', "≤\u0338"), ('≱', "≥\u0338"),
  ('≴', "≲\u0338"), ('≵', "≳\u0338"), ('≸', "≶\u0338"), ('≹', "≷\u0338"), ('⊀', "≺\u0338"),
  ('⊁', "≻\u0338"), ('⊄', "⊂\u0338"), ('⊅', "⊃\u0338"), ('⊈', "⊆\u0338"), ('⊉', "⊇\u0338"),
  ('⊬', "⊢\u0338"), ('⊭', "⊨\u0338"), ('⊮', "⊩\u0338"), ('⊯', "⊫\u0338"), ('⋠', "≼\u0338"),
  ('⋡', "≽\u0338"), ('⋢', "⊑\u0338"), ('⋣', "⊒\u0338"), ('⋪', "⊲\u0338"), ('⋫', "⊳\u0338"),
  ('⋬', "⊴\u0338"), ('⋭', "⊵\u0338"), ('〈', "〈"), ('〉', "〉")]⟩

/-- Enclosed letters and numbers. -/
def enclosedAlphanumerics : Block := ⟨0x2460, 0x24ff, [
  ('①', "1"), ('②', "2"), ('③', "3"), ('④', "4"), ('⑤', "5"), ('⑥', "6"), ('⑦', "7"),
  ('⑧', "8"), ('⑨', "9"), ('⑩', "10"), ('⑪', "11"), ('⑫', "12"), ('⑬', "13"), ('⑭', "14"),
  ('⑮', "15"), ('⑯', "16"), ('⑰', "17"), ('⑱', "18"), ('⑲', "19"), ('⑳', "20"), ('⑴', "(1)"),
  ('⑵', "(2)"), ('⑶', "(3)"), ('⑷', "(4)"), ('⑸', "(5)"), ('⑹', "(6)"), ('⑺', "(7)"),
  ('⑻', "(8)"), ('⑼', "(9)"), ('⑽', "(10)"), ('⑾', "(11)"), ('⑿', "(12)"), ('⒀', "(13)"),
  ('⒁', "(14)"), ('⒂', "(15)"), ('⒃', "(16)"), ('⒄', "(17)"), ('⒅', "(18)"), ('⒆', "(19)"),
  ('⒇', "(20)"), ('⒈', "1."), ('⒉', "2."), ('⒊', "3."), ('⒋', "4."), ('⒌', "5."), ('⒍', "6."),
  ('⒎', "7."), ('⒏', "8."), ('⒐', "9."), ('⒑', "10."), ('⒒', "11."), ('⒓', "12."),
  ('⒔', "13."), ('⒕', "14."), ('⒖', "15."), ('⒗', "16."), ('⒘', "17."), ('⒙', "18."),
  ('⒚', "19."), ('⒛', "20."), ('⒜', "(a)"), ('⒝', "(b)"), ('⒞', "(c)"), ('⒟', "(d)"),
  ('⒠', "(e)"), ('⒡', "(f)"), ('⒢', "(g)"), ('⒣', "(h)"), ('⒤', "(i)"), ('⒥', "(j)"),
  ('⒦', "(k)"), ('⒧', "(l)"), ('⒨', "(m)"), ('⒩', "(n)"), ('⒪', "(o)"), ('⒫', "(p)"),
  ('⒬', "(q)"), ('⒭', "(r)"), ('⒮', "(s)"), ('⒯', "(t)"), ('⒰', "(u)"), ('⒱', "(v)"),
  ('⒲', "(w)"), ('⒳', "(x)"), ('⒴', "(y)"), ('⒵', "(z)"), ('Ⓐ', "A"), ('Ⓑ', "B"), ('Ⓒ', "C"),
  ('Ⓓ', "D"), ('Ⓔ', "E"), ('Ⓕ', "F"), ('Ⓖ', "G"), ('Ⓗ', "H"), ('Ⓘ', "I"), ('Ⓙ', "J"),
  ('Ⓚ', "K"), ('Ⓛ', "L"), ('Ⓜ', "M"), ('Ⓝ', "N"), ('Ⓞ', "O"), ('Ⓟ', "P"), ('Ⓠ', "Q"),
  ('Ⓡ', "R"), ('Ⓢ', "S"), ('Ⓣ', "T"), ('Ⓤ', "U"), ('Ⓥ', "V"), ('Ⓦ', "W"), ('Ⓧ', "X"),
  ('Ⓨ', "Y"), ('Ⓩ', "Z"), ('ⓐ', "a"), ('ⓑ', "b"), ('ⓒ', "c"), ('ⓓ', "d"), ('ⓔ', "e"),
  ('ⓕ', "f"), ('ⓖ', "g"), ('ⓗ', "h"), ('ⓘ', "i"), ('ⓙ', "j"), ('ⓚ', "k"), ('ⓛ', "l"),
  ('ⓜ', "m"), ('ⓝ', "n"), ('ⓞ', "o"), ('ⓟ', "p"), ('ⓠ', "q"), ('ⓡ', "r"), ('ⓢ', "s"),
  ('ⓣ', "t"), ('ⓤ', "u"), ('ⓥ', "v"), ('ⓦ', "w"), ('ⓧ', "x"), ('ⓨ', "y"), ('ⓩ', "z"),
  ('⓪', "0")]⟩

/-- Multiple integrals and other composed operators. -/
def mathematicalSymbols : Block := ⟨0x2500, 0x2bff, [
  ('⨌', "∫∫∫∫"), ('⩴', "::="), ('⩵', "=="), ('⩶', "==="), ('⫝̸', "⫝\u0338")]⟩

/-- Later Latin and Tifinagh modifier letters. -/
def alphabeticExtensions : Block := ⟨0x2c00, 0x2dff, [
  ('\u2c7c', "j"), ('\u2c7d', "V"), ('\u2d6f', "ⵡ")]⟩

end DeadKeys.Unicode.Decomposition
