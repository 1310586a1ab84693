import DeadKeys.Unicode.Decomposition.Alphabetic

/-!
# Compatibility decompositions: supplementary blocks

Everything outside the first plane.
Each row pairs a character with its full compatibility decomposition.
-/

namespace DeadKeys.Unicode.Decomposition

/-- Modifier letters and letters of historic scripts. -/
def modifierLetters : Block := ⟨0x10000, 0x10fff, [
  ('𐗉', "𐗒\u0307"), ('𐗤', "𐗚\u0307"), ('𐞁', "\u02d0"), ('𐞂', "\u02d1"), ('𐞃', "æ"),
  ('𐞄', "ʙ"), ('𐞅', "ɓ"), ('𐞇', "ʣ"), ('𐞈', "ꭦ"), ('𐞉', "ʥ"), ('𐞊', "ʤ"), ('𐞋', "ɖ"),
  ('𐞌', "ɗ"), ('𐞍', "ᶑ"), ('𐞎', "ɘ"), ('𐞏', "ɞ"), ('𐞐', "ʩ"), ('𐞑', "ɤ"), ('𐞒', "ɢ"),
  ('𐞓', "ɠ"), ('𐞔', "ʛ"), ('𐞕', "ħ"), ('𐞖', "ʜ"), ('𐞗', "ɧ"), ('𐞘', "ʄ"), ('𐞙', "ʪ"),
  ('𐞚', "ʫ"), ('𐞛', "ɬ"), ('𐞜', "𝼄"), ('𐞝', "ꞎ"), ('𐞞', "ɮ"), ('𐞟', "𝼅"), ('𐞠', "ʎ"),
  ('𐞡', "𝼆"), ('𐞢', "ø"), ('𐞣', "ɶ"), ('𐞤', "ɷ"), ('𐞥', "q"), ('𐞦', "ɺ"), ('𐞧', "𝼈"),
  ('𐞨', "ɽ"), ('𐞩', "ɾ"), ('𐞪', "ʀ"), ('𐞫', "ʨ"), ('𐞬', "ʦ"), ('𐞭', "ꭧ"), ('𐞮', "ʧ"),
  ('𐞯', "ʈ"), ('𐞰', "ⱱ"), ('𐞲', "ʏ"), ('𐞳', "ʡ"), ('𐞴', "ʢ"), ('𐞵', "ʘ"), ('𐞶', "ǀ"),
  ('𐞷', "ǁ"), ('𐞸', "ǂ"), ('𐞹', "𝼊"), ('𐞺', "𝼞")]⟩

/-- Vowel signs and letters of further Brahmic scripts. -/
def brahmic : Block := ⟨0x11000, 0x16fff, [
  ('𑂚', "𑂚"), ('𑂜', "𑂜"), ('𑂫', "𑂫"), ('𑄮', "𑄮"), ('𑄯', "𑄯"), ('𑍋', "𑍋"), ('𑍌', "𑍌"),
  ('𑎃', "𑎃"), ('𑎅', "𑎅"), ('𑎎', "𑎎"), ('𑎑', "𑎑"), ('𑏅', "𑏅"),
  ('𑏇', "𑏇"), ('𑏈', "𑏈"), ('𑒻', "𑒻"), ('𑒼', "𑒼"), ('𑒾', "𑒾"), ('𑖺', "𑖺"),
  ('𑖻', "𑖻"), ('𑤸', "𑤸"), ('𖄡', "𖄡"), ('𖄢', "𖄢"), ('𖄣', "𖄣"), ('𖄤', "𖄤"),
  ('𖄥', "𖄥"), ('𖄦', "𖄦"), ('𖄧', "𖄧"), ('𖄨', "𖄨"), ('𖵨', "𖵨"),
  ('𖵩', "𖵩"), ('𖵪', "𖵪")]⟩

/-- Outlined letters and digits. -/
def outlinedAlphanumerics : Block := ⟨0x1c000, 0x1cfff, [
  ('𜳖', "A"), ('𜳗', "B"), ('𜳘', "C"), ('𜳙', "D"), ('𜳚', "E"), ('𜳛', "F"), ('𜳜', "G"),
  ('𜳝', "H"), ('𜳞', "I"), ('𜳟', "J"), ('𜳠', "K"), ('𜳡', "L"), ('𜳢', "M"), ('𜳣', "N"),
  ('𜳤', "O"), ('𜳥', "P"), ('𜳦', "Q"), ('𜳧', "R"), ('𜳨', "S"), ('𜳩', "T"), ('𜳪', "U"),
  ('𜳫', "V"), ('𜳬', "W"), ('𜳭', "X"), ('𜳮', "Y"), ('𜳯', "Z"), ('𜳰', "0"), ('𜳱', "1"),
  ('𜳲', "2"), ('𜳳', "3"), ('𜳴', "4"), ('𜳵', "5"), ('𜳶', "6"), ('𜳷', "7"), ('𜳸', "8"),
  ('𜳹', "9")]⟩

/-- Notes with stems and flags. -/
def musicalSymbols : Block := ⟨0x1d000, 0x1d3ff, [
  ('𝅗𝅥', "𝅗𝅥"), ('𝅘𝅥', "𝅘𝅥"), ('𝅘𝅥𝅮', "𝅘𝅥𝅮"), ('𝅘𝅥𝅯', "𝅘𝅥𝅯"), ('𝅘𝅥𝅰', "𝅘𝅥𝅰"), ('𝅘𝅥𝅱', "𝅘𝅥𝅱"),
  ('𝅘𝅥𝅲', "𝅘𝅥𝅲"), ('𝆹𝅥', "𝆹𝅥"), ('𝆺𝅥', "𝆺𝅥"), ('𝆹𝅥𝅮', "𝆹𝅥𝅮"), ('𝆺𝅥𝅮', "𝆺𝅥𝅮"), ('𝆹𝅥𝅯', "𝆹𝅥𝅯"),
  ('𝆺𝅥𝅯', "𝆺𝅥𝅯")]⟩

/-- Mathematical Latin letters. -/
def mathematicalLatinA : Block := ⟨0x1d400, 0x1d4cf, [
  ('𝐀', "A"), ('𝐁', "B"), ('𝐂', "C"), ('𝐃', "D"), ('𝐄', "E"), ('𝐅', "F"), ('𝐆', "G"),
  ('𝐇', "H"), ('𝐈', "I"), ('𝐉', "J"), ('𝐊', "K"), ('𝐋', "L"), ('𝐌', "M"), ('𝐍', "N"),
  ('𝐎', "O"), ('𝐏', "P"), ('𝐐', "Q"), ('𝐑', "R"), ('𝐒', "S"), ('𝐓', "T"), ('𝐔', "U"),
  ('𝐕', "V"), ('𝐖', "W"), ('𝐗', "X"), ('𝐘', "Y"), ('𝐙', "Z"), ('𝐚', "a"), ('𝐛', "b"),
  ('𝐜', "c"), ('𝐝', "d"), ('𝐞', "e"), ('𝐟', "f"), ('𝐠', "g"), ('𝐡', "h"), ('𝐢', "i"),
  ('𝐣', "j"), ('𝐤', "k"), ('𝐥', "l"), ('𝐦', "m"), ('𝐧', "n"), ('𝐨', "o"), ('𝐩', "p"),
  ('𝐪', "q"), ('𝐫', "r"), ('𝐬', "s"), ('𝐭', "t"), ('𝐮', "u"), ('𝐯', "v"), ('𝐰', "w"),
  ('𝐱', "x"), ('𝐲', "y"), ('𝐳', "z"), ('𝐴', "A"), ('𝐵', "B"), ('𝐶', "C"), ('𝐷', "D"),
  ('𝐸', "E"), ('𝐹', "F"), ('𝐺', "G"), ('𝐻', "H"), ('𝐼', "I"), ('𝐽', "J"), ('𝐾', "K"),
  ('𝐿', "L"), ('𝑀', "M"), ('𝑁', "N"), ('𝑂', "O"), ('𝑃', "P"), ('𝑄', "Q"), ('𝑅', "R"),
  ('𝑆', "S"), ('𝑇', "T"), ('𝑈', "U"), ('𝑉', "V"), ('𝑊', "W"), ('𝑋', "X"), ('𝑌', "Y"),
  ('𝑍', "Z"), ('𝑎', "a"), ('𝑏', "b"), ('𝑐', "c"), ('𝑑', "d"), ('𝑒', "e"), ('𝑓', "f"),
  ('𝑔', "g"), ('𝑖', "i"), ('𝑗', "j"), ('𝑘', "k"), ('𝑙', "l"), ('𝑚', "m"), ('𝑛', "n"),
  ('𝑜', "o"), ('𝑝', "p"), ('𝑞', "q"), ('𝑟', "r"), ('𝑠', "s"), ('𝑡', "t"), ('𝑢', "u"),
  ('𝑣', "v"), ('𝑤', "w"), ('𝑥', "x"), ('𝑦', "y"), ('𝑧', "z"), ('𝑨', "A"), ('𝑩', "B"),
  ('𝑪', "C"), ('𝑫', "D"), ('𝑬', "E"), ('𝑭', "F"), ('𝑮', "G"), ('𝑯', "H"), ('𝑰', "I"),
  ('𝑱', "J"), ('𝑲', "K"), ('𝑳', "L"), ('𝑴', "M"), ('𝑵', "N"), ('𝑶', "O"), ('𝑷', "P"),
  ('𝑸', "Q"), ('𝑹', "R"), ('𝑺', "S"), ('𝑻', "T"), ('𝑼', "U"), ('𝑽', "V"), ('𝑾', "W"),
  ('𝑿', "X"), ('𝒀', "Y"), ('𝒁', "Z"), ('𝒂', "a"), ('𝒃', "b"), ('𝒄', "c"), ('𝒅', "d"),
  ('𝒆', "e"), ('𝒇', "f"), ('𝒈', "g"), ('𝒉', "h"), ('𝒊', "i"), ('𝒋', "j"), ('𝒌', "k"),
  ('𝒍', "l"), ('𝒎', "m"), ('𝒏', "n"), ('𝒐', "o"), ('𝒑', "p"), ('𝒒', "q"), ('𝒓', "r"),
  ('𝒔', "s"), ('𝒕', "t"), ('𝒖', "u"), ('𝒗', "v"), ('𝒘', "w"), ('𝒙', "x"), ('𝒚', "y"),
  ('𝒛', "z"), ('𝒜', "A"), ('𝒞', "C"), ('𝒟', "D"), ('𝒢', "G"), ('𝒥', "J"), ('𝒦', "K"),
  ('𝒩', "N"), ('𝒪', "O"), ('𝒫', "P"), ('𝒬', "Q"), ('𝒮', "S"), ('𝒯', "T"), ('𝒰', "U"),
  ('𝒱', "V"), ('𝒲', "W"), ('𝒳', "X"), ('𝒴', "Y"), ('𝒵', "Z"), ('𝒶', "a"), ('𝒷', "b"),
  ('𝒸', "c"), ('𝒹', "d"), ('𝒻', "f"), ('𝒽', "h"), ('𝒾', "i"), ('𝒿', "j"), ('𝓀', "k"),
  ('𝓁', "l"), ('𝓂', "m"), ('𝓃', "n"), ('𝓅', "p"), ('𝓆', "q"), ('𝓇', "r"), ('𝓈', "s"),
  ('𝓉', "t"), ('𝓊', "u"), ('𝓋', "v"), ('𝓌', "w"), ('𝓍', "x"), ('𝓎', "y"), ('𝓏', "z")]⟩

/-- Mathematical Latin letters, continued. -/
def mathematicalLatinB : Block := ⟨0x1d4d0, 0x1d59f, [
  ('𝓐', "A"), ('𝓑', "B"), ('𝓒', "C"), ('𝓓', "D"), ('𝓔', "E"), ('𝓕', "F"), ('𝓖', "G"),
  ('𝓗', "H"), ('𝓘', "I"), ('𝓙', "J"), ('𝓚', "K"), ('𝓛', "L"), ('𝓜', "M"), ('𝓝', "N"),
  ('𝓞', "O"), ('𝓟', "P"), ('𝓠', "Q"), ('𝓡', "R"), ('𝓢', "S"), ('𝓣', "T"), ('𝓤', "U"),
  ('𝓥', "V"), ('𝓦', "W"), ('𝓧', "X"), ('𝓨', "Y"), ('𝓩', "Z"), ('𝓪', "a"), ('𝓫', "b"),
  ('𝓬', "c"), ('𝓭', "d"), ('𝓮', "e"), ('𝓯', "f"), ('𝓰', "g"), ('𝓱', "h"), ('𝓲', "i"),
  ('𝓳', "j"), ('𝓴', "k"), ('𝓵', "l"), ('𝓶', "m"), ('𝓷', "n"), ('𝓸', "o"), ('𝓹', "p"),
  ('𝓺', "q"), ('𝓻', "r"), ('𝓼', "s"), ('𝓽', "t"), ('𝓾', "u"), ('𝓿', "v"), ('𝔀', "w"),
  ('𝔁', "x"), ('𝔂', "y"), ('𝔃', "z"), ('𝔄', "A"), ('𝔅', "B"), ('𝔇', "D"), ('𝔈', "E"),
  ('𝔉', "F"), ('𝔊', "G"), ('𝔍', "J"), ('𝔎', "K"), ('𝔏', "L"), ('𝔐', "M"), ('𝔑', "N"),
  ('𝔒', "O"), ('𝔓', "P"), ('𝔔', "Q"), ('𝔖', "S"), ('𝔗', "T"), ('𝔘', "U"), ('𝔙', "V"),
  ('𝔚', "W"), ('𝔛', "X"), ('𝔜', "Y"), ('𝔞', "a"), ('𝔟', "b"), ('𝔠', "c"), ('𝔡', "d"),
  ('𝔢', "e"), ('𝔣', "f"), ('𝔤', "g"), ('𝔥', "h"), ('𝔦', "i"), ('𝔧', "j"), ('𝔨', "k"),
  ('𝔩', "l"), ('𝔪', "m"), ('𝔫', "n"), ('𝔬', "o"), ('𝔭', "p"), ('𝔮', "q"), ('𝔯', "r"),
  ('𝔰', "s"), ('𝔱', "t"), ('𝔲', "u"), ('𝔳', "v"), ('𝔴', "w"), ('𝔵', "x"), ('𝔶', "y"),
  ('𝔷', "z"), ('𝔸', "A"), ('𝔹', "B"), ('𝔻', "D"), ('𝔼', "E"), ('𝔽', "F"), ('𝔾', "G"),
  ('𝕀', "I"), ('𝕁', "J"), ('𝕂', "K"), ('𝕃', "L"), ('𝕄', "M"), ('𝕆', "O"), ('𝕊', "S"),
  ('𝕋', "T"), ('𝕌', "U"), ('𝕍', "V"), ('𝕎', "W"), ('𝕏', "X"), ('𝕐', "Y"), ('𝕒', "a"),
  ('𝕓', "b"), ('𝕔', "c"), ('𝕕', "d"), ('𝕖', "e"), ('𝕗', "f"), ('𝕘', "g"), ('𝕙', "h"),
  ('𝕚', "i"), ('𝕛', "j"), ('𝕜', "k"), ('𝕝', "l"), ('𝕞', "m"), ('𝕟', "n"), ('𝕠', "o"),
  ('𝕡', "p"), ('𝕢', "q"), ('𝕣', "r"), ('𝕤', "s"), ('𝕥', "t"), ('𝕦', "u"), ('𝕧', "v"),
  ('𝕨', "w"), ('𝕩', "x"), ('𝕪', "y"), ('𝕫', "z"), ('𝕬', "A"), ('𝕭', "B"), ('𝕮', "C"),
  ('𝕯', "D"), ('𝕰', "E"), ('𝕱', "F"), ('𝕲', "G"), ('𝕳', "H"), ('𝕴', "I"), ('𝕵', "J"),
  ('𝕶', "K"), ('𝕷', "L"), ('𝕸', "M"), ('𝕹', "N"), ('𝕺', "O"), ('𝕻', "P"), ('𝕼', "Q"),
  ('𝕽', "R"), ('𝕾', "S"), ('𝕿', "T"), ('𝖀', "U"), ('𝖁', "V"), ('𝖂', "W"), ('𝖃', "X"),
  ('𝖄', "Y"), ('𝖅', "Z"), ('𝖆', "a"), ('𝖇', "b"), ('𝖈', "c"), ('𝖉', "d"), ('𝖊', "e"),
  ('𝖋', "f"), ('𝖌', "g"), ('𝖍', "h"), ('𝖎', "i"), ('𝖏', "j"), ('𝖐', "k"), ('𝖑', "l"),
  ('𝖒', "m"), ('𝖓', "n"), ('𝖔', "o"), ('𝖕', "p"), ('𝖖', "q"), ('𝖗', "r"), ('𝖘', "s"),
  ('𝖙', "t"), ('𝖚', "u"), ('𝖛', "v"), ('𝖜', "w"), ('𝖝', "x"), ('𝖞', "y"), ('𝖟', "z")]⟩

/-- Mathematical Latin letters, concluded. -/
def mathematicalLatinC : Block := ⟨0x1d5a0, 0x1d6a7, [
  ('𝖠', "A"), ('𝖡', "B"), ('𝖢', "C"), ('𝖣', "D"), ('𝖤', "E"), ('𝖥', "F"), ('𝖦', "G"),
  ('𝖧', "H"), ('𝖨', "I"), ('𝖩', "J"), ('𝖪', "K"), ('𝖫', "L"), ('𝖬', "M"), ('𝖭', "N"),
  ('𝖮', "O"), ('𝖯', "P"), ('𝖰', "Q"), ('𝖱', "R"), ('𝖲', "S"), ('𝖳', "T"), ('𝖴', "U"),
  ('𝖵', "V"), ('𝖶', "W"), ('𝖷', "X"), ('𝖸', "Y"), ('𝖹', "Z"), ('𝖺', "a"), ('𝖻', "b"),
  ('𝖼', "c"), ('𝖽', "d"), ('𝖾', "e"), ('𝖿', "f"), ('𝗀', "g"), ('𝗁', "h"), ('𝗂', "i"),
  ('𝗃', "j"), ('𝗄', "k"), ('𝗅', "l"), ('𝗆', "m"), ('𝗇', "n"), ('𝗈', "o"), ('𝗉', "p"),
  ('𝗊', "q"), ('𝗋', "r"), ('𝗌', "s"), ('𝗍', "t"), ('𝗎', "u"), ('𝗏', "v"), ('𝗐', "w"),
  ('𝗑', "x"), ('𝗒', "y"), ('𝗓', "z"), ('𝗔', "A"), ('𝗕', "B"), ('𝗖', "C"), ('𝗗', "D"),
  ('𝗘', "E"), ('𝗙', "F"), ('𝗚', "G"), ('𝗛', "H"), ('𝗜', "I"), ('𝗝', "J"), ('𝗞', "K"),
  ('𝗟', "L"), ('𝗠', "M"), ('𝗡', "N"), ('𝗢', "O"), ('𝗣', "P"), ('𝗤', "Q"), ('𝗥', "R"),
  ('𝗦', "S"), ('𝗧', "T"), ('𝗨', "U"), ('𝗩', "V"), ('𝗪', "W"), ('𝗫', "X"), ('𝗬', "Y"),
  ('𝗭', "Z"), ('𝗮', "a"), ('𝗯', "b"), ('𝗰', "c"), ('𝗱', "d"), ('𝗲', "e"), ('𝗳', "f"),
  ('𝗴', "g"), ('𝗵', "h"), ('𝗶', "i"), ('𝗷', "j"), ('𝗸', "k"), ('𝗹', "l"), ('𝗺', "m"),
  ('𝗻', "n"), ('𝗼', "o"), ('𝗽', "p"), ('𝗾', "q"), ('𝗿', "r"), ('𝘀', "s"), ('𝘁', "t"),
  ('𝘂', "u"), ('𝘃', "v"), ('𝘄', "w"), ('𝘅', "x"), ('𝘆', "y"), ('𝘇', "z"), ('𝘈', "A"),
  ('𝘉', "B"), ('𝘊', "C"), ('𝘋', "D"), ('𝘌', "E"), ('𝘍', "F"), ('𝘎', "G"), ('𝘏', "H"),
  ('𝘐', "I"), ('𝘑', "J"), ('𝘒', "K"), ('𝘓', "L"), ('𝘔', "M"), ('𝘕', "N"), ('𝘖', "O"),
  ('𝘗', "P"), ('𝘘', "Q"), ('𝘙', "R"), ('𝘚', "S"), ('𝘛', "T"), ('𝘜', "U"), ('𝘝', "V"),
  ('𝘞', "W"), ('𝘟', "X"), ('𝘠', "Y"), ('𝘡', "Z"), ('𝘢', "a"), ('𝘣', "b"), ('𝘤', "c"),
  ('𝘥', "d"), ('𝘦', "e"), ('𝘧', "f"), ('𝘨', "g"), ('𝘩', "h"), ('𝘪', "i"), ('𝘫', "j"),
  ('𝘬', "k"), ('𝘭', "l"), ('𝘮', "m"), ('𝘯', "n"), ('𝘰', "o"), ('𝘱', "p"), ('𝘲', "q"),
  ('𝘳', "r"), ('𝘴', "s"), ('𝘵', "t"), ('𝘶', "u"), ('𝘷', "v"), ('𝘸', "w"), ('𝘹', "x"),
  ('𝘺', "y"), ('𝘻', "z"), ('𝘼', "A"), ('𝘽', "B"), ('𝘾', "C"), ('𝘿', "D"), ('𝙀', "E"),
  ('𝙁', "F"), ('𝙂', "G"), ('𝙃', "H"), ('𝙄', "I"), ('𝙅', "J"), ('𝙆', "K"), ('𝙇', "L"),
  ('𝙈', "M"), ('𝙉', "N"), ('𝙊', "O"), ('𝙋', "P"), ('𝙌', "Q"), ('𝙍', "R"), ('𝙎', "S"),
  ('𝙏', "T"), ('𝙐', "U"), ('𝙑', "V"), ('𝙒', "W"), ('𝙓', "X"), ('𝙔', "Y"), ('𝙕', "Z"),
  ('𝙖', "a"), ('𝙗', "b"), ('𝙘', "c"), ('𝙙', "d"), ('𝙚', "e"), ('𝙛', "f"), ('𝙜', "g"),
  ('𝙝', "h"), ('𝙞', "i"), ('𝙟', "j"), ('𝙠', "k"), ('𝙡', "l"), ('𝙢', "m"), ('𝙣', "n"),
  ('𝙤', "o"), ('𝙥', "p"), ('𝙦', "q"), ('𝙧', "r"), ('𝙨', "s"), ('𝙩', "t"), ('𝙪', "u"),
  ('𝙫', "v"), ('𝙬', "w"), ('𝙭', "x"), ('𝙮', "y"), ('𝙯', "z"), ('𝙰', "A"), ('𝙱', "B"),
  ('𝙲', "C"), ('𝙳', "D"), ('𝙴', "E"), ('𝙵', "F"), ('𝙶', "G"), ('𝙷', "H"), ('𝙸', "I"),
  ('𝙹', "J"), ('𝙺', "K"), ('𝙻', "L"), ('𝙼', "M"), ('𝙽', "N"), ('𝙾', "O"), ('𝙿', "P"),
  ('𝚀', "Q"), ('𝚁', "R"), ('𝚂', "S"), ('𝚃', "T"), ('𝚄', "U"), ('𝚅', "V"), ('𝚆', "W"),
  ('𝚇', "X"), ('𝚈', "Y"), ('𝚉', "Z"), ('𝚊', "a"), ('𝚋', "b"), ('𝚌', "c"), ('𝚍', "d"),
  ('𝚎', "e"), ('𝚏', "f"), ('𝚐', "g"), ('𝚑', "h"), ('𝚒', "i"), ('𝚓', "j"), ('𝚔', "k"),
  ('𝚕', "l"), ('𝚖', "m"), ('𝚗', "n"), ('𝚘', "o"), ('𝚙', "p"), ('𝚚', "q"), ('𝚛', "r"),
  ('𝚜', "s"), ('𝚝', "t"), ('𝚞', "u"), ('𝚟', "v"), ('𝚠', "w"), ('𝚡', "x"), ('𝚢', "y"),
  ('𝚣', "z"), ('𝚤', "ı"), ('𝚥', "ȷ")]⟩

/-- Mathematical Greek letters and digits. -/
def mathematicalGreek : Block := ⟨0x1d6a8, 0x1d7ff, [
  ('𝚨', "Α"), ('𝚩', "Β"), ('𝚪', "Γ"), ('𝚫', "Δ"), ('𝚬', "Ε"), ('𝚭', "Ζ"), ('𝚮', "Η"),
  ('𝚯', "Θ"), ('𝚰', "Ι"), ('𝚱', "Κ"), ('𝚲', "Λ"), ('𝚳', "Μ"), ('𝚴', "Ν"), ('𝚵', "Ξ"),
  ('𝚶', "Ο"), ('𝚷', "Π"), ('𝚸', "Ρ"), ('𝚹', "Θ"), ('𝚺', "Σ"), ('𝚻', "Τ"), ('𝚼', "Υ"),
  ('𝚽', "Φ"), ('𝚾', "Χ"), ('𝚿', "Ψ"), ('𝛀', "Ω"), ('𝛁', "∇"), ('𝛂', "α"), ('𝛃', "β"),
  ('𝛄', "γ"), ('𝛅', "δ"), ('𝛆', "ε"), ('𝛇', "ζ"), ('𝛈', "η"), ('𝛉', "θ"), ('𝛊', "ι"),
  ('𝛋', "κ"), ('𝛌', "λ"), ('𝛍', "μ"), ('𝛎', "ν"), ('𝛏', "ξ"), ('𝛐', "ο"), ('𝛑', "π"),
  ('𝛒', "ρ"), ('𝛓', "ς"), ('𝛔', "σ"), ('𝛕', "τ"), ('𝛖', "υ"), ('𝛗', "φ"), ('𝛘', "χ"),
  ('𝛙', "ψ"), ('𝛚', "ω"), ('𝛛', "∂"), ('𝛜', "ε"), ('𝛝', "θ"), ('𝛞', "κ"), ('𝛟', "φ"),
  ('𝛠', "ρ"), ('𝛡', "π"), ('𝛢', "Α"), ('𝛣', "Β"), ('𝛤', "Γ"), ('𝛥', "Δ"), ('𝛦', "Ε"),
  ('𝛧', "Ζ"), ('𝛨', "Η"), ('𝛩', "Θ"), ('𝛪', "Ι"), ('𝛫', "Κ"), ('𝛬', "Λ"), ('𝛭', "Μ"),
  ('𝛮', "Ν"), ('𝛯', "Ξ"), ('𝛰', "Ο"), ('𝛱', "Π"), ('𝛲', "Ρ"), ('𝛳', "Θ"), ('𝛴', "Σ"),
  ('𝛵', "Τ"), ('𝛶', "Υ"), ('𝛷', "Φ"), ('𝛸', "Χ"), ('𝛹', "Ψ"), ('𝛺', "Ω"), ('𝛻', "∇"),
  ('𝛼', "α"), ('𝛽', "β"), ('𝛾', "γ"), ('𝛿', "δ"), ('𝜀', "ε"), ('𝜁', "ζ"), ('𝜂', "η"),
  ('𝜃', "θ"), ('𝜄', "ι"), ('𝜅', "κ"), ('𝜆', "λ"), ('𝜇', "μ"), ('𝜈', "ν"), ('𝜉', "ξ"),
  ('𝜊', "ο"), ('𝜋', "π"), ('𝜌', "ρ"), ('𝜍', "ς"), ('𝜎', "σ"), ('𝜏', "τ"), ('𝜐', "υ"),
  ('𝜑', "φ"), ('𝜒', "χ"), ('𝜓', "ψ"), ('𝜔', "ω"), ('𝜕', "∂"), ('𝜖', "ε"), ('𝜗', "θ"),
  ('𝜘', "κ"), ('𝜙', "φ"), ('𝜚', "ρ"), ('𝜛', "π"), ('𝜜', "Α"), ('𝜝', "Β"), ('𝜞', "Γ"),
  ('𝜟', "Δ"), ('𝜠', "Ε"), ('𝜡', "Ζ"), ('𝜢', "Η"), ('𝜣', "Θ"), ('𝜤', "Ι"), ('𝜥', "Κ"),
  ('𝜦', "Λ"), ('𝜧', "Μ"), ('𝜨', "Ν"), ('𝜩', "Ξ"), ('𝜪', "Ο"), ('𝜫', "Π"), ('𝜬', "Ρ"),
  ('𝜭', "Θ"), ('𝜮', "Σ"), ('𝜯', "Τ"), ('𝜰', "Υ"), ('𝜱', "Φ"), ('𝜲', "Χ"), ('𝜳', "Ψ"),
  ('𝜴', "Ω"), ('𝜵', "∇"), ('𝜶', "α"), ('𝜷', "β"), ('𝜸', "γ"), ('𝜹', "δ"), ('𝜺', "ε"),
  ('𝜻', "ζ"), ('𝜼', "η"), ('𝜽', "θ"), ('𝜾', "ι"), ('𝜿', "κ"), ('𝝀', "λ"), ('𝝁', "μ"),
  ('𝝂', "ν"), ('𝝃', "ξ"), ('𝝄', "ο"), ('𝝅', "π"), ('𝝆', "ρ"), ('𝝇', "ς"), ('𝝈', "σ"),
  ('𝝉', "τ"), ('𝝊', "υ"), ('𝝋', "φ"), ('𝝌', "χ"), ('𝝍', "ψ"), ('𝝎', "ω"), ('𝝏', "∂"),
  ('𝝐', "ε"), ('𝝑', "θ"), ('𝝒', "κ"), ('𝝓', "φ"), ('𝝔', "ρ"), ('𝝕', "π"), ('𝝖', "Α"),
  ('𝝗', "Β"), ('𝝘', "Γ"), ('𝝙', "Δ"), ('𝝚', "Ε"), ('𝝛', "Ζ"), ('𝝜', "Η"), ('𝝝', "Θ"),
  ('𝝞', "Ι"), ('𝝟', "Κ"), ('𝝠', "Λ"), ('𝝡', "Μ"), ('𝝢', "Ν"), ('𝝣', "Ξ"), ('𝝤', "Ο"),
  ('𝝥', "Π"), ('𝝦', "Ρ"), ('𝝧', "Θ"), ('𝝨', "Σ"), ('𝝩', "Τ"), ('𝝪', "Υ"), ('𝝫', "Φ"),
  ('𝝬', "Χ"), ('𝝭', "Ψ"), ('𝝮', "Ω"), ('𝝯', "∇"), ('𝝰', "α"), ('𝝱', "β"), ('𝝲', "γ"),
  ('𝝳', "δ"), ('𝝴', "ε"), ('𝝵', "ζ"), ('𝝶', "η"), ('𝝷', "θ"), ('𝝸', "ι"), ('𝝹', "κ"),
  ('𝝺', "λ"), ('𝝻', "μ"), ('𝝼', "ν"), ('𝝽', "ξ"), ('𝝾', "ο"), ('𝝿', "π"), ('𝞀', "ρ"),
  ('𝞁', "ς"), ('𝞂', "σ"), ('𝞃', "τ"), ('𝞄', "υ"), ('𝞅', "φ"), ('𝞆', "χ"), ('𝞇', "ψ"),
  ('𝞈', "ω"), ('𝞉', "∂"), ('𝞊', "ε"), ('𝞋', "θ"), ('𝞌', "κ"), ('𝞍', "φ"), ('𝞎', "ρ"),
  ('𝞏', "π"), ('𝞐', "Α"), ('𝞑', "Β"), ('𝞒', "Γ"), ('𝞓', "Δ"), ('𝞔', "Ε"), ('𝞕', "Ζ"),
  ('𝞖', "Η"), ('𝞗', "Θ"), ('𝞘', "Ι"), ('𝞙', "Κ"), ('𝞚', "Λ"), ('𝞛', "Μ"), ('𝞜', "Ν"),
  ('𝞝', "Ξ"), ('𝞞', "Ο"), ('𝞟', "Π"), ('𝞠', "Ρ"), ('𝞡', "Θ"), ('𝞢', "Σ"), ('𝞣', "Τ"),
  ('𝞤', "Υ"), ('𝞥', "Φ"), ('𝞦', "Χ"), ('𝞧', "Ψ"), ('𝞨', "Ω"), ('𝞩', "∇"), ('𝞪', "α"),
  ('𝞫', "β"), ('𝞬', "γ"), ('𝞭', "δ"), ('𝞮', "ε"), ('𝞯', "ζ"), ('𝞰', "η"), ('𝞱', "θ"),
  ('𝞲', "ι"), ('𝞳', "κ"), ('𝞴', "λ"), ('𝞵', "μ"), ('𝞶', "ν"), ('𝞷', "ξ"), ('𝞸', "ο"),
  ('𝞹', "π"), ('𝞺', "ρ"), ('𝞻', "ς"), ('𝞼', "σ"), ('𝞽', "τ"), ('𝞾', "υ"), ('𝞿', "φ"),
  ('𝟀', "χ"), ('𝟁', "ψ"), ('𝟂', "ω"), ('𝟃', "∂"), ('𝟄', "ε"), ('𝟅', "θ"), ('𝟆', "κ"),
  ('𝟇', "φ"), ('𝟈', "ρ"), ('𝟉', "π"), ('𝟊', "Ϝ"), ('𝟋', "ϝ"), ('𝟎', "0"), ('𝟏', "1"),
  ('𝟐', "2"), ('𝟑', "3"), ('𝟒', "4"), ('𝟓', "5"), ('𝟔', "6"), ('𝟕', "7"), ('𝟖', "8"),
  ('𝟗', "9"), ('𝟘', "0"), ('𝟙', "1"), ('𝟚', "2"), ('𝟛', "3"), ('𝟜', "4"), ('𝟝', "5"),
  ('𝟞', "6"), ('𝟟', "7"), ('𝟠', "8"), ('𝟡', "9"), ('𝟢', "0"), ('𝟣', "1"), ('𝟤', "2"),
  ('𝟥', "3"), ('𝟦', "4"), ('𝟧', "5"), ('𝟨', "6"), ('𝟩', "7"), ('𝟪', "8"), ('𝟫', "9"),
  ('𝟬', "0"), ('𝟭', "1"), ('𝟮', "2"), ('𝟯', "3"), ('𝟰', "4"), ('𝟱', "5"), ('𝟲', "6"),
  ('𝟳', "7"), ('𝟴', "8"), ('𝟵', "9"), ('𝟶', "0"), ('𝟷', "1"), ('𝟸', "2"), ('𝟹', "3"),
  ('𝟺', "4"), ('𝟻', "5"), ('𝟼', "6"), ('𝟽', "7"), ('𝟾', "8"), ('𝟿', "9")]⟩

/-- Cyrillic modifier letters and subscripts. -/
def cyrillicModifiers : Block := ⟨0x1e000, 0x1e8ff, [
  ('𞀰', "а"), ('𞀱', "б"), ('𞀲', "в"), ('𞀳', "г"), ('𞀴', "д"), ('𞀵', "е"), ('𞀶', "ж"),
  ('𞀷', "з"), ('𞀸', "и"), ('𞀹', "к"), ('𞀺', "л"), ('𞀻', "м"), ('𞀼', "о"), ('𞀽', "п"),
  ('𞀾', "р"), ('𞀿', "с"), ('𞁀', "т"), ('𞁁', "у"), ('𞁂', "ф"), ('𞁃', "х"), ('𞁄', "ц"),
  ('𞁅', "ч"), ('𞁆', "ш"), ('𞁇', "ы"), ('𞁈', "э"), ('𞁉', "ю"), ('𞁊', "ꚉ"), ('𞁋', "ә"),
  ('𞁌', "і"), ('𞁍', "ј"), ('𞁎', "ө"), ('𞁏', "ү"), ('𞁐', "ӏ"), ('𞁑', "а"), ('𞁒', "б"),
  ('𞁓', "в"), ('𞁔', "г"), ('𞁕', "д"), ('𞁖', "е"), ('𞁗', "ж"), ('𞁘', "з"), ('𞁙', "и"),
  ('𞁚', "к"), ('𞁛', "л"), ('𞁜', "о"), ('𞁝', "п"), ('𞁞', "с"), ('𞁟', "у"), ('𞁠', "ф"),
  ('𞁡', "х"), ('𞁢', "ц"), ('𞁣', "ч"), ('𞁤', "ш"), ('𞁥', "ъ"), ('𞁦', "ы"), ('𞁧', "ґ"),
  ('𞁨', "і"), ('𞁩', "ѕ"), ('𞁪', "џ"), ('𞁫', "ҫ"), ('𞁬', "ꙑ"), ('𞁭', "ұ")]⟩

/-- Mathematical Arabic letters. -/
def arabicMathematical : Block := ⟨0x1e900, 0x1efff, [
  ('𞸀', "\u0627"), ('𞸁', "\u0628"), ('𞸂', "\u062c"), ('𞸃', "\u062f"), ('𞸅', "\u0648"),
  ('𞸆', "\u0632"), ('𞸇', "\u062d"), ('𞸈', "\u0637"), ('𞸉', "\u064a"), ('𞸊', "\u0643"),
  ('𞸋', "\u0644"), ('𞸌', "\u0645"), ('𞸍', "\u0646"), ('𞸎', "\u0633"), ('𞸏', "\u0639"),
  ('𞸐', "\u0641"), ('𞸑', "\u0635"), ('𞸒', "\u0642"), ('𞸓', "\u0631"), ('𞸔', "\u0634"),
  ('𞸕', "\u062a"), ('𞸖', "\u062b"), ('𞸗', "\u062e"), ('𞸘', "\u0630"), ('𞸙', "\u0636"),
  ('𞸚', "\u0638"), ('𞸛', "\u063a"), ('𞸜', "\u066e"), ('𞸝', "\u06ba"), ('𞸞', "\u06a1"),
  ('𞸟', "\u066f"), ('𞸡', "\u0628"), ('𞸢', "\u062c"), ('𞸤', "\u0647"), ('𞸧', "\u062d"),
  ('𞸩', "\u064a"), ('𞸪', "\u0643"), ('𞸫', "\u0644"), ('𞸬', "\u0645"), ('𞸭', "\u0646"),
  ('𞸮', "\u0633"), ('𞸯', "\u0639"), ('𞸰', "\u0641"), ('𞸱', "\u0635"), ('𞸲', "\u0642"),
  ('𞸴', "\u0634"), ('𞸵', "\u062a"), ('𞸶', "\u062b"), ('𞸷', "\u062e"), ('𞸹', "\u0636"),
  ('𞸻', "\u063a"), ('𞹂', "\u062c"), ('𞹇', "\u062d"), ('𞹉', "\u064a"), ('𞹋', "\u0644"),
  ('𞹍', "\u0646"), ('𞹎', "\u0633"), ('𞹏', "\u0639"), ('𞹑', "\u0635"), ('𞹒', "\u0642"),
  ('𞹔', "\u0634"), ('𞹗', "\u062e"), ('𞹙', "\u0636"), ('𞹛', "\u063a"), ('𞹝', "\u06ba"),
  ('𞹟', "\u066f"), ('𞹡', "\u0628"), ('𞹢', "\u062c"), ('𞹤', "\u0647"), ('𞹧', "\u062d"),
  ('𞹨', "\u0637"), ('𞹩', "\u064a"), ('𞹪', "\u0643"), ('𞹬', "\u0645"), ('𞹭', "\u0646"),
  ('𞹮', "\u0633"), ('𞹯', "\u0639"), ('𞹰', "\u0641"), ('𞹱', "\u0635"), ('𞹲', "\u0642"),
  ('𞹴', "\u0634"), ('𞹵', "\u062a"), ('𞹶', "\u062b"), ('𞹷', "\u062e"), ('𞹹', "\u0636"),
  ('𞹺', "\u0638"), ('𞹻', "\u063a"), ('𞹼', "\u066e"), ('𞹾', "\u06a1"), ('𞺀', "\u0627"),
  ('𞺁', "\u0628"), ('𞺂', "\u062c"), ('𞺃', "\u062f"), ('𞺄', "\u0647"), ('𞺅', "\u0648"),
  ('𞺆', "\u0632"), ('𞺇', "\u062d"), ('𞺈', "\u0637"), ('𞺉', "\u064a"), ('𞺋', "\u0644"),
  ('𞺌', "\u0645"), ('𞺍', "\u0646"), ('𞺎', "\u0633"), ('𞺏', "\u0639"), ('𞺐', "\u0641"),
  ('𞺑', "\u0635"), ('𞺒', "\u0642"), ('𞺓', "\u0631"), ('𞺔', "\u0634"), ('𞺕', "\u062a"),
  ('𞺖', "\u062b"), ('𞺗', "\u062e"), ('𞺘', "\u0630"), ('𞺙', "\u0636"), ('𞺚', "\u0638"),
  ('𞺛', "\u063a"), ('𞺡', "\u0628"), ('𞺢', "\u062c"), ('𞺣', "\u062f"), ('𞺥', "\u0648"),
  ('𞺦', "\u0632"), ('𞺧', "\u062d"), ('𞺨', "\u0637"), ('𞺩', "\u064a"), ('𞺫', "\u0644"),
  ('𞺬', "\u0645"), ('𞺭', "\u0646"), ('𞺮', "\u0633"), ('𞺯', "\u0639"), ('𞺰', "\u0641"),
  ('𞺱', "\u0635"), ('𞺲', "\u0642"), ('𞺳', "\u0631"), ('𞺴', "\u0634"), ('𞺵', "\u062a"),
  ('𞺶', "\u062b"), ('𞺷', "\u062e"), ('𞺸', "\u0630"), ('𞺹', "\u0636"), ('𞺺', "\u0638"),
  ('𞺻', "\u063a")]⟩

/-- Enclosed and squared letters, digits and ideographs. -/
def enclosedSupplement : Block := ⟨0x1f000, 0x1ffff, [
  ('🄀', "0."), ('🄁', "0,"), ('🄂', "1,"), ('🄃', "2,"), ('🄄', "3,"), ('🄅', "4,"), ('🄆', "5,"),
  ('🄇', "6,"), ('🄈', "7,"), ('🄉', "8,"), ('🄊', "9,"), ('🄐', "(A)"), ('🄑', "(B)"), ('🄒', "(C)"),
  ('🄓', "(D)"), ('🄔', "(E)"), ('🄕', "(F)"), ('🄖', "(G)"), ('🄗', "(H)"), ('🄘', "(I)"),
  ('🄙', "(J)"), ('🄚', "(K)"), ('🄛', "(L)"), ('🄜', "(M)"), ('🄝', "(N)"), ('🄞', "(O)"),
  ('🄟', "(P)"), ('🄠', "(Q)"), ('🄡', "(R)"), ('🄢', "(S)"), ('🄣', "(T)"), ('🄤', "(U)"),
  ('🄥', "(V)"), ('🄦', "(W)"), ('🄧', "(X)"), ('🄨', "(Y)"), ('🄩', "(Z)"), ('🄪', "〔S〕"),
  ('🄫', "C"), ('🄬', "R"), ('🄭', "CD"), ('🄮', "WZ"), ('🄰', "A"), ('🄱', "B"), ('🄲', "C"),
  ('🄳', "D"), ('🄴', "E"), ('🄵', "F"), ('🄶', "G"), ('🄷', "H"), ('🄸', "I"), ('🄹', "J"),
  ('🄺', "K"), ('🄻', "L"), ('🄼', "M"), ('🄽', "N"), ('🄾', "O"), ('🄿', "P"), ('🅀', "Q"),
  ('🅁', "R"), ('🅂', "S"), ('🅃', "T"), ('🅄', "U"), ('🅅', "V"), ('🅆', "W"), ('🅇', "X"),
  ('🅈', "Y"), ('🅉', "Z"), ('🅊', "HV"), ('🅋', "MV"), ('🅌', "SD"), ('🅍', "SS"), ('🅎', "PPV"),
  ('🅏', "WC"), ('🅪', "MC"), ('🅫', "MD"), ('🅬', "MR"), ('🆐', "DJ"), ('🈀', "ほか"),
  ('🈁', "ココ"), ('🈂', "サ"), ('🈐', "手"), ('🈑', "字"), ('🈒', "双"), ('🈓', "テ\u3099"),
  ('🈔', "二"), ('🈕', "多"), ('🈖', "解"), ('🈗', "天"), ('🈘', "交"), ('🈙', "映"),
  ('🈚', "無"), ('🈛', "料"), ('🈜', "前"), ('🈝', "後"), ('🈞', "再"), ('🈟', "新"),
  ('🈠', "初"), ('🈡', "終"), ('🈢', "生"), ('🈣', "販"), ('🈤', "声"), ('🈥', "吹"),
  ('🈦', "演"), ('🈧', "投"), ('🈨', "捕"), ('🈩', "一"), ('🈪', "三"), ('🈫', "遊"),
  ('🈬', "左"), ('🈭', "中"), ('🈮', "右"), ('🈯', "指"), ('🈰', "走"), ('🈱', "打"),
  ('🈲', "禁"), ('🈳', "空"), ('🈴', "合"), ('🈵', "満"), ('🈶', "有"), ('🈷', "月"),
  ('🈸', "申"), ('🈹', "割"), ('🈺', "営"), ('🈻', "配"), ('🉀', "〔本〕"), ('🉁', "〔三〕"),
  ('🉂', "〔二〕"), ('🉃', "〔安〕"), ('🉄', "〔点〕"), ('🉅', "〔打〕"), ('🉆', "〔盗〕"),
  ('🉇', "〔勝〕"), ('🉈', "〔敗〕"), ('🉐', "得"), ('🉑', "可"), ('🯰', "0"), ('🯱', "1"),
  ('🯲', "2"), ('🯳', "3"), ('🯴', "4"), ('🯵', "5"), ('🯶', "6"), ('🯷', "7"), ('🯸', "8"),
  ('🯹', "9")]⟩

/-- Compatibility ideographs of the supplement. -/
def ideographsSupplementA : Block := ⟨0x2f800, 0x2f8ff, [
  ('丽', "丽"), ('丸', "丸"), ('乁', "乁"), ('𠄢', "𠄢"), ('你', "你"), ('侮', "侮"),
  ('侻', "侻"), ('倂', "倂"), ('偺', "偺"), ('備', "備"), ('僧', "僧"), ('像', "像"),
  ('㒞', "㒞"), ('𠘺', "𠘺"), ('免', "免"), ('兔', "兔"), ('兤', "兤"), ('具', "具"),
  ('𠔜', "𠔜"), ('㒹', "㒹"), ('內', "內"), ('再', "再"), ('𠕋', "𠕋"), ('冗', "冗"),
  ('冤', "冤"), ('仌', "仌"), ('冬', "冬"), ('况', "况"), ('𩇟', "𩇟"), ('凵', "凵"),
  ('刃', "刃"), ('㓟', "㓟"), ('刻', "刻"), ('剆', "剆"), ('割', "割"), ('剷', "剷"),
  ('㔕', "㔕"), ('勇', "勇"), ('勉', "勉"), ('勤', "勤"), ('勺', "勺"), ('包', "包"),
  ('匆', "匆"), ('北', "北"), ('卉', "卉"), ('卑', "卑"), ('博', "博"), ('即', "即"),
  ('卽', "卽"), ('卿', "卿"), ('卿', "卿"), ('卿', "卿"), ('𠨬', "𠨬"), ('灰', "灰"),
  ('及', "及"), ('叟', "叟"), ('𠭣', "𠭣"), ('叫', "叫"), ('叱', "叱"), ('吆', "吆"),
  ('咞', "咞"), ('吸', "吸"), ('呈', "呈"), ('周', "周"), ('咢', "咢"), ('哶', "哶"),
  ('唐', "唐"), ('啓', "啓"), ('啣', "啣"), ('善', "善"), ('善', "善"), ('喙', "喙"),
  ('喫', "喫"), ('喳', "喳"), ('嗂', "嗂"), ('圖', "圖"), ('嘆', "嘆"), ('圗', "圗"),
  ('噑', "噑"), ('噴', "噴"), ('切', "切"), ('壮', "壮"), ('城', "城"), ('埴', "埴"),
  ('堍', "堍"), ('型', "型"), ('堲', "堲"), ('報', "報"), ('墬', "墬"), ('𡓤', "𡓤"),
  ('売', "売"), ('壷', "壷"), ('夆', "夆"), ('多', "多"), ('夢', "夢"), ('奢', "奢"),
  ('𡚨', "𡚨"), ('𡛪', "𡛪"), ('姬', "姬"), ('娛', "娛"), ('娧', "娧"), ('姘', "姘"),
  ('婦', "婦"), ('㛮', "㛮"), ('㛼', "㛼"), ('嬈', "嬈"), ('嬾', "嬾"), ('嬾', "嬾"),
  ('𡧈', "𡧈"), ('寃', "寃"), ('寘', "寘"), ('寧', "寧"), ('寳', "寳"), ('𡬘', "𡬘"),
  ('寿', "寿"), ('将', "将"), ('当', "当"), ('尢', "尢"), ('㞁', "㞁"), ('屠', "屠"),
  ('屮', "屮"), ('峀', "峀"), ('岍', "岍"), ('𡷤', "𡷤"), ('嵃', "嵃"), ('𡷦', "𡷦"),
  ('嵮', "嵮"), ('嵫', "嵫"), ('嵼', "嵼"), ('巡', "巡"), ('巢', "巢"), ('㠯', "㠯"),
  ('巽', "巽"), ('帨', "帨"), ('帽', "帽"), ('幩', "幩"), ('㡢', "㡢"), ('𢆃', "𢆃"),
  ('㡼', "㡼"), ('庰', "庰"), ('庳', "庳"), ('庶', "庶"), ('廊', "廊"), ('𪎒', "𪎒"),
  ('廾', "廾"), ('𢌱', "𢌱"), ('𢌱', "𢌱"), ('舁', "舁"), ('弢', "弢"), ('弢', "弢"),
  ('㣇', "㣇"), ('𣊸', "𣊸"), ('𦇚', "𦇚"), ('形', "形"), ('彫', "彫"), ('㣣', "㣣"),
  ('徚', "徚"), ('忍', "忍"), ('志', "志"), ('忹', "忹"), ('悁', "悁"), ('㤺', "㤺"),
  ('㤜', "㤜"), ('悔', "悔"), ('𢛔', "𢛔"), ('惇', "惇"), ('慈', "慈"), ('慌', "慌"),
  ('慎', "慎"), ('慌', "慌"), ('慺', "慺"), ('憎', "憎"), ('憲', "憲"), ('憤', "憤"),
  ('憯', "憯"), ('懞', "懞"), ('懲', "懲"), ('懶', "懶"), ('成', "成"), ('戛', "戛"),
  ('扝', "扝"), ('抱', "抱"), ('拔', "拔"), ('捐', "捐"), ('𢬌', "𢬌"), ('挽', "挽"),
  ('拼', "拼"), ('捨', "捨"), ('掃', "掃"), ('揤', "揤"), ('𢯱', "𢯱"), ('搢', "搢"),
  ('揅', "揅"), ('掩', "掩"), ('㨮', "㨮"), ('摩', "摩"), ('摾', "摾"), ('撝', "撝"),
  ('摷', "摷"), ('㩬', "㩬"), ('敏', "敏"), ('敬', "敬"), ('𣀊', "𣀊"), ('旣', "旣"),
  ('書', "書"), ('晉', "晉"), ('㬙', "㬙"), ('暑', "暑"), ('㬈', "㬈"), ('㫤', "㫤"),
  ('冒', "冒"), ('冕', "冕"), ('最', "最"), ('暜', "暜"), ('肭', "肭"), ('䏙', "䏙"),
  ('朗', "朗"), ('望', "望"), ('朡', "朡"), ('杞', "杞"), ('杓', "杓"), ('𣏃', "𣏃"),
  ('㭉', "㭉"), ('柺', "柺"), ('枅', "枅"), ('桒', "桒"), ('梅', "梅"), ('𣑭', "𣑭"),
  ('梎', "梎"), ('栟', "栟"), ('椔', "椔"), ('㮝', "㮝"), ('楂', "楂"), ('榣', "榣"),
  ('槪', "槪"), ('檨', "檨"), ('𣚣', "𣚣"), ('櫛', "櫛"), ('㰘', "㰘"), ('次', "次"),
  ('𣢧', "𣢧"), ('歔', "歔"), ('㱎', "㱎"), ('歲', "歲"), ('殟', "殟"), ('殺', "殺"),
  ('殻', "殻"), ('𣪍', "𣪍"), ('𡴋', "𡴋"), ('𣫺', "𣫺"), ('汎', "汎"), ('𣲼', "𣲼"),
  ('沿', "沿"), ('泍', "泍"), ('汧', "汧"), ('洖', "洖")]⟩

/-- Compatibility ideographs of the supplement, continued. -/
def ideographsSupplementB : Block := ⟨0x2f900, 0x2f9ff, [
  ('派', "派"), ('海', "海"), ('流', "流"), ('浩', "浩"), ('浸', "浸"), ('涅', "涅"),
  ('𣴞', "𣴞"), ('洴', "洴"), ('港', "港"), ('湮', "湮"), ('㴳', "㴳"), ('滋', "滋"),
  ('滇', "滇"), ('𣻑', "𣻑"), ('淹', "淹"), ('潮', "潮"), ('𣽞', "𣽞"), ('𣾎', "𣾎"),
  ('濆', "濆"), ('瀹', "瀹"), ('瀞', "瀞"), ('瀛', "瀛"), ('㶖', "㶖"), ('灊', "灊"),
  ('災', "災"), ('灷', "灷"), ('炭', "炭"), ('𠔥', "𠔥"), ('煅', "煅"), ('𤉣', "𤉣"),
  ('熜', "熜"), ('𤎫', "𤎫"), ('爨', "爨"), ('爵', "爵"), ('牐', "牐"), ('𤘈', "𤘈"),
  ('犀', "犀"), ('犕', "犕"), ('𤜵', "𤜵"), ('𤠔', "𤠔"), ('獺', "獺"), ('王', "王"),
  ('㺬', "㺬"), ('玥', "玥"), ('㺸', "㺸"), ('㺸', "㺸"), ('瑇', "瑇"), ('瑜', "瑜"),
  ('瑱', "瑱"), ('璅', "璅"), ('瓊', "瓊"), ('㼛', "㼛"), ('甤', "甤"), ('𤰶', "𤰶"),
  ('甾', "甾"), ('𤲒', "𤲒"), ('異', "異"), ('𢆟', "𢆟"), ('瘐', "瘐"), ('𤾡', "𤾡"),
  ('𤾸', "𤾸"), ('𥁄', "𥁄"), ('㿼', "㿼"), ('䀈', "䀈"), ('直', "直"), ('𥃳', "𥃳"),
  ('𥃲', "𥃲"), ('𥄙', "𥄙"), ('𥄳', "𥄳"), ('眞', "眞"), ('真', "真"), ('真', "真"),
  ('睊', "睊"), ('䀹', "䀹"), ('瞋', "瞋"), ('䁆', "䁆"), ('䂖', "䂖"), ('𥐝', "𥐝"),
  ('硎', "硎"), ('碌', "碌"), ('磌', "磌"), ('䃣', "䃣"), ('𥘦', "𥘦"), ('祖', "祖"),
  ('𥚚', "𥚚"), ('𥛅', "𥛅"), ('福', "福"), ('秫', "秫"), ('䄯', "䄯"), ('穀', "穀"),
  ('穊', "穊"), ('穏', "穏"), ('𥥼', "𥥼"), ('𥪧', "𥪧"), ('𥪧', "𥪧"), ('竮', "竮"),
  ('䈂', "䈂"), ('𥮫', "𥮫"), ('篆', "篆"), ('築', "築"), ('䈧', "䈧"), ('𥲀', "𥲀"),
  ('糒', "糒"), ('䊠', "䊠"), ('糨', "糨"), ('糣', "糣"), ('紀', "紀"), ('𥾆', "𥾆"),
  ('絣', "絣"), ('䌁', "䌁"), ('緇', "緇"), ('縂', "縂"), ('繅', "繅"), ('䌴', "䌴"),
  ('𦈨', "𦈨"), ('𦉇', "𦉇"), ('䍙', "䍙"), ('𦋙', "𦋙"), ('罺', "罺"), ('𦌾', "𦌾"),
  ('羕', "羕"), ('翺', "翺"), ('者', "者"), ('𦓚', "𦓚"), ('𦔣', "𦔣"), ('聠', "聠"),
  ('𦖨', "𦖨"), ('聰', "聰"), ('𣍟', "𣍟"), ('䏕', "䏕"), ('育', "育"), ('脃', "脃"),
  ('䐋', "䐋"), ('脾', "脾"), ('媵', "媵"), ('𦞧', "𦞧"), ('𦞵', "𦞵"), ('𣎓', "𣎓"),
  ('𣎜', "𣎜"), ('舁', "舁"), ('舄', "舄"), ('辞', "辞"), ('䑫', "䑫"), ('芑', "芑"),
  ('芋', "芋"), ('芝', "芝"), ('劳', "劳"), ('花', "花"), ('芳', "芳"), ('芽', "芽"),
  ('苦', "苦"), ('𦬼', "𦬼"), ('若', "若"), ('茝', "茝"), ('荣', "荣"), ('莭', "莭"),
  ('茣', "茣"), ('莽', "莽"), ('菧', "菧"), ('著', "著"), ('荓', "荓"), ('菊', "菊"),
  ('菌', "菌"), ('菜', "菜"), ('𦰶', "𦰶"), ('𦵫', "𦵫"), ('𦳕', "𦳕"), ('䔫', "䔫"),
  ('蓱', "蓱"), ('蓳', "蓳"), ('蔖', "蔖"), ('𧏊', "𧏊"), ('蕤', "蕤"), ('𦼬', "𦼬"),
  ('䕝', "䕝"), ('䕡', "䕡"), ('𦾱', "𦾱"), ('𧃒', "𧃒"), ('䕫', "䕫"), ('虐', "虐"),
  ('虜', "虜"), ('虧', "虧"), ('虩', "虩"), ('蚩', "蚩"), ('蚈', "蚈"), ('蜎', "蜎"),
  ('蛢', "蛢"), ('蝹', "蝹"), ('蜨', "蜨"), ('蝫', "蝫"), ('螆', "螆"), ('䗗', "䗗"),
  ('蟡', "蟡"), ('蠁', "蠁"), ('䗹', "䗹"), ('衠', "衠"), ('衣', "衣"), ('𧙧', "𧙧"),
  ('裗', "裗"), ('裞', "裞"), ('䘵', "䘵"), ('裺', "裺"), ('㒻', "㒻"), ('𧢮', "𧢮"),
  ('𧥦', "𧥦"), ('䚾', "䚾"), ('䛇', "䛇"), ('誠', "誠"), ('諭', "諭"), ('變', "變"),
  ('豕', "豕"), ('𧲨', "𧲨"), ('貫', "貫"), ('賁', "賁"), ('贛', "贛"), ('起', "起"),
  ('𧼯', "𧼯"), ('𠠄', "𠠄"), ('跋', "跋"), ('趼', "趼"), ('跰', "跰"), ('𠣞', "𠣞"),
  ('軔', "軔"), ('輸', "輸"), ('𨗒', "𨗒"), ('𨗭', "𨗭"), ('邔', "邔"), ('郱', "郱"),
  ('鄑', "鄑"), ('𨜮', "𨜮"), ('鄛', "鄛"), ('鈸', "鈸"), ('鋗', "鋗"), ('鋘', "鋘"),
  ('鉼', "鉼"), ('鏹', "鏹"), ('鐕', "鐕"), ('𨯺', "𨯺"), ('開', "開"), ('䦕', "䦕"),
  ('閷', "閷"), ('𨵷', "𨵷"), ('䧦', "䧦"), ('雃', "雃"), ('嶲', "嶲"), ('霣', "霣"),
  ('𩅅', "𩅅"), ('𩈚', "𩈚"), ('䩮', "䩮"), ('䩶', "䩶"), ('韠', "韠"), ('𩐊', "𩐊"),
  ('䪲', "䪲"), ('𩒖', "𩒖"), ('頋', "頋"), ('頋', "頋")]⟩

/-- Compatibility ideographs of the supplement, concluded. -/
def ideographsSupplementC : Block := ⟨0x2fa00, 0x2fa1f, [
  ('頩', "頩"), ('𩖶', "𩖶"), ('飢', "飢"), ('䬳', "䬳"), ('餩', "餩"), ('馧', "馧"),
  ('駂', "駂"), ('駾', "駾"), ('䯎', "䯎"), ('𩬰', "𩬰"), ('鬒', "鬒"), ('鱀', "鱀"),
  ('鳽', "鳽"), ('䳎', "䳎"), ('䳭', "䳭"), ('鵧', "鵧"), ('𪃎', "𪃎"), ('䳸', "䳸"),
  ('𪄅', "𪄅"), ('𪈎', "𪈎"), ('𪊑', "𪊑"), ('麻', "麻"), ('䵖', "䵖"), ('黹', "黹"),
  ('黾', "黾"), ('鼅', "鼅"), ('鼏', "鼏"), ('鼖', "鼖"), ('鼻', "鼻"), ('𪘀', "𪘀")]⟩

end DeadKeys.Unicode.Decomposition
