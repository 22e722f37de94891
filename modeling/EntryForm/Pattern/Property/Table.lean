import EntryForm.Pattern.Size

/-!
# Patterns — the Unicode properties

The properties that a pattern may ask for, under all their names, without blanks, hyphens and
underscores and in small letters.  With each goes the size of the machine that reads one of its
characters, and of the one that reads any other.
-/

namespace EntryForm.Pattern

/-- A property: its names, and the sizes of its class and of the class's complement. -/
structure Property where
  names : List String
  size : Size
  complement : Size
  deriving Repr

namespace Property

/-- The general categories, and the sets spelt like them. -/
def categories : List Property := [
  ⟨["any"], ⟨416, 964⟩, ⟨32, 32⟩⟩,
  ⟨["ascii"], ⟨72, 72⟩, ⟨408, 928⟩⟩,
  ⟨["assigned"], ⟨19624, 49068⟩, ⟨18432, 41128⟩⟩,
  ⟨["c", "other"], ⟨18720, 41780⟩, ⟨19816, 48852⟩⟩,
  ⟨["cc", "control", "cntrl"], ⟨128, 204⟩, ⟨464, 1032⟩⟩,
  ⟨["cf", "format"], ⟨1400, 1784⟩, ⟨1912, 4776⟩⟩,
  ⟨["cn", "unassigned"], ⟨18432, 41128⟩, ⟨19624, 49068⟩⟩,
  ⟨["co", "privateuse"], ⟨400, 864⟩, ⟨592, 1196⟩⟩,
  ⟨["l", "letter"], ⟨17976, 41352⟩, ⟨18112, 41796⟩⟩,
  ⟨["lc", "casedletter"], ⟨4280, 9404⟩, ⟨4584, 11084⟩⟩,
  ⟨["ll", "lowercaseletter"], ⟨7992, 27324⟩, ⟨8608, 30860⟩⟩,
  ⟨["lm", "modifierletter"], ⟨2976, 4776⟩, ⟨3904, 10344⟩⟩,
  ⟨["lo", "otherletter"], ⟨14688, 32764⟩, ⟨15200, 35608⟩⟩,
  ⟨["lt", "titlecaseletter"], ⟨304, 552⟩, ⟨696, 1696⟩⟩,
  ⟨["lu", "uppercaseletter"], ⟨7472, 26284⟩, ⟨8128, 29756⟩⟩,
  ⟨["m", "mark", "combiningmark"], ⟨9408, 18140⟩, ⟨10728, 26340⟩⟩,
  ⟨["mc", "spacingmark"], ⟨4824, 9924⟩, ⟨5800, 15440⟩⟩,
  ⟨["me", "enclosingmark"], ⟨384, 468⟩, ⟨832, 2088⟩⟩,
  ⟨["mn", "nonspacingmark"], ⟨9600, 18756⟩, ⟨11136, 28108⟩⟩,
  ⟨["n", "number"], ⟨4712, 9272⟩, ⟨6056, 19336⟩⟩,
  ⟨["nd", "decimalnumber", "digit"], ⟨1408, 4640⟩, ⟨2232, 11656⟩⟩,
  ⟨["nl", "letternumber"], ⟨856, 1112⟩, ⟨1280, 3176⟩⟩,
  ⟨["no", "othernumber"], ⟨3584, 5100⟩, ⟨4592, 11008⟩⟩,
  ⟨["p", "punctuation", "punct"], ⟨6592, 11472⟩, ⟨8256, 21968⟩⟩,
  ⟨["pc", "connectorpunctuation"], ⟨360, 540⟩, ⟨768, 1884⟩⟩,
  ⟨["pd", "dashpunctuation"], ⟨936, 1324⟩, ⟨1432, 3436⟩⟩,
  ⟨["pe", "closepunctuation"], ⟨1552, 3504⟩, ⟨2112, 5968⟩⟩,
  ⟨["pf", "finalpunctuation"], ⟨304, 552⟩, ⟨704, 1796⟩⟩,
  ⟨["pi", "initialpunctuation"], ⟨312, 588⟩, ⟨712, 1832⟩⟩,
  ⟨["po", "otherpunctuation"], ⟨6136, 10868⟩, ⟨7728, 20848⟩⟩,
  ⟨["ps", "openpunctuation"], ⟨1616, 3644⟩, ⟨2168, 6040⟩⟩,
  ⟨["s", "symbol"], ⟨7848, 15384⟩, ⟨8752, 20976⟩⟩,
  ⟨["sc", "currencysymbol"], ⟨1280, 1720⟩, ⟨1848, 4720⟩⟩,
  ⟨["sk", "modifiersymbol"], ⟨1288, 2020⟩, ⟨1776, 4500⟩⟩,
  ⟨["sm", "mathsymbol"], ⟨2176, 3860⟩, ⟨2752, 6672⟩⟩,
  ⟨["so", "othersymbol"], ⟨6600, 12748⟩, ⟨7256, 16772⟩⟩,
  ⟨["z", "separator"], ⟨408, 608⟩, ⟨808, 1852⟩⟩,
  ⟨["zl", "lineseparator"], ⟨152, 164⟩, ⟨528, 1268⟩⟩,
  ⟨["zp", "paragraphseparator"], ⟨152, 164⟩, ⟨528, 1268⟩⟩,
  ⟨["zs", "spaceseparator"], ⟨400, 572⟩, ⟨800, 1816⟩⟩]

/-- The scripts. -/
def scripts : List Property := [
  ⟨["adlm", "adlam"], ⟨256, 336⟩, ⟨544, 1372⟩⟩,
  ⟨["aghb", "caucasianalbanian"], ⟨248, 300⟩, ⟨576, 1304⟩⟩,
  ⟨["ahom"], ⟨256, 336⟩, ⟨584, 1404⟩⟩,
  ⟨["arab", "arabic"], ⟨1624, 3544⟩, ⟨1880, 4744⟩⟩,
  ⟨["armi", "imperialaramaic"], ⟨200, 232⟩, ⟨528, 1236⟩⟩,
  ⟨["armn", "armenian"], ⟨312, 440⟩, ⟨688, 1544⟩⟩,
  ⟨["avst", "avestan"], ⟨200, 232⟩, ⟨520, 1200⟩⟩,
  ⟨["bali", "balinese"], ⟨208, 268⟩, ⟨528, 1236⟩⟩,
  ⟨["bamu", "bamum"], ⟨376, 432⟩, ⟨688, 1704⟩⟩,
  ⟨["bass", "bassavah"], ⟨200, 232⟩, ⟨544, 1372⟩⟩,
  ⟨["batk", "batak"], ⟨160, 200⟩, ⟨520, 1200⟩⟩,
  ⟨["beng", "bengali"], ⟨304, 700⟩, ⟨616, 1600⟩⟩,
  ⟨["bhks", "bhaiksuki"], ⟨264, 372⟩, ⟨592, 1440⟩⟩,
  ⟨["bopo", "bopomofo"], ⟨248, 300⟩, ⟨656, 1644⟩⟩,
  ⟨["brah", "brahmi"], ⟨256, 336⟩, ⟨528, 1268⟩⟩,
  ⟨["brai", "braille"], ⟨152, 164⟩, ⟨480, 1232⟩⟩,
  ⟨["bugi", "buginese"], ⟨160, 200⟩, ⟨528, 1236⟩⟩,
  ⟨["buhd", "buhid"], ⟨152, 164⟩, ⟨520, 1200⟩⟩,
  ⟨["cakm", "chakma"], ⟨248, 300⟩, ⟨576, 1368⟩⟩,
  ⟨["cans", "canadianaboriginal"], ⟨336, 432⟩, ⟨648, 1672⟩⟩,
  ⟨["cari", "carian"], ⟨240, 264⟩, ⟨568, 1268⟩⟩,
  ⟨["cham"], ⟨216, 304⟩, ⟨592, 1440⟩⟩,
  ⟨["cher", "cherokee"], ⟨344, 436⟩, ⟨688, 1640⟩⟩,
  ⟨["chrs", "chorasmian"], ⟨240, 264⟩, ⟨560, 1200⟩⟩,
  ⟨["copt", "coptic", "qaac"], ⟨256, 336⟩, ⟨592, 1472⟩⟩,
  ⟨["cpmn", "cyprominoan"], ⟨240, 264⟩, ⟨568, 1300⟩⟩,
  ⟨["cprt", "cypriot"], ⟨232, 376⟩, ⟨552, 1344⟩⟩,
  ⟨["cyrl", "cyrillic"], ⟨904, 1244⟩, ⟨1280, 2964⟩⟩,
  ⟨["deva", "devanagari"], ⟨432, 536⟩, ⟨704, 1808⟩⟩,
  ⟨["diak", "divesakuru"], ⟨296, 516⟩, ⟨624, 1584⟩⟩,
  ⟨["dogr", "dogra"], ⟨192, 196⟩, ⟨528, 1300⟩⟩,
  ⟨["dsrt", "deseret"], ⟨240, 264⟩, ⟨520, 1200⟩⟩,
  ⟨["dupl", "duployan"], ⟨312, 440⟩, ⟨600, 1476⟩⟩,
  ⟨["egyp", "egyptianhieroglyphs"], ⟨240, 264⟩, ⟨520, 1232⟩⟩,
  ⟨["elba", "elbasan"], ⟨192, 196⟩, ⟨520, 1200⟩⟩,
  ⟨["elym", "elymaic"], ⟨192, 196⟩, ⟨520, 1168⟩⟩,
  ⟨["ethi", "ethiopic"], ⟨1024, 2016⟩, ⟨1360, 3524⟩⟩,
  ⟨["gara", "garay"], ⟨200, 232⟩, ⟨528, 1300⟩⟩,
  ⟨["geor", "georgian"], ⟨392, 652⟩, ⟨776, 1856⟩⟩,
  ⟨["glag", "glagolitic"], ⟨360, 508⟩, ⟨664, 1712⟩⟩,
  ⟨["gong", "gunjalagondi"], ⟨280, 444⟩, ⟨616, 1548⟩⟩,
  ⟨["gonm", "masaramgondi"], ⟨288, 480⟩, ⟨616, 1548⟩⟩,
  ⟨["goth", "gothic"], ⟨240, 264⟩, ⟨568, 1268⟩⟩,
  ⟨["gran", "grantha"], ⟨352, 768⟩, ⟨680, 1836⟩⟩,
  ⟨["grek", "greek"], ⟨1232, 2244⟩, ⟨1600, 3960⟩⟩,
  ⟨["gujr", "gujarati"], ⟨304, 700⟩, ⟨616, 1600⟩⟩,
  ⟨["gukh", "gurungkhema"], ⟨200, 232⟩, ⟨528, 1300⟩⟩,
  ⟨["guru", "gurmukhi"], ⟨320, 772⟩, ⟨640, 1708⟩⟩,
  ⟨["hang", "hangul"], ⟨864, 1456⟩, ⟨1144, 2672⟩⟩,
  ⟨["hani", "han"], ⟨1632, 3448⟩, ⟨1768, 3564⟩⟩,
  ⟨["hano", "hanunoo"], ⟨152, 164⟩, ⟨528, 1236⟩⟩,
  ⟨["hatr", "hatran"], ⟨208, 268⟩, ⟨536, 1272⟩⟩,
  ⟨["hebr", "hebrew"], ⟨344, 584⟩, ⟨728, 1724⟩⟩,
  ⟨["hira", "hiragana"], ⟨536, 740⟩, ⟨872, 2216⟩⟩,
  ⟨["hluw", "anatolianhieroglyphs"], ⟨240, 264⟩, ⟨528, 1300⟩⟩,
  ⟨["hmng", "pahawhhmong"], ⟨320, 476⟩, ⟨600, 1476⟩⟩,
  ⟨["hmnp", "nyiakengpuachuehmong"], ⟨256, 336⟩, ⟨592, 1440⟩⟩,
  ⟨["hung", "oldhungarian"], ⟨248, 300⟩, ⟨568, 1268⟩⟩,
  ⟨["ital", "olditalic"], ⟨200, 232⟩, ⟨528, 1236⟩⟩,
  ⟨["java", "javanese"], ⟨216, 304⟩, ⟨544, 1372⟩⟩,
  ⟨["kali", "kayahli"], ⟨160, 200⟩, ⟨536, 1336⟩⟩,
  ⟨["kana", "katakana"], ⟨880, 1220⟩, ⟨1256, 2940⟩⟩,
  ⟨["kawi"], ⟨256, 336⟩, ⟨584, 1404⟩⟩,
  ⟨["khar", "kharoshthi"], ⟨296, 516⟩, ⟨616, 1484⟩⟩,
  ⟨["khmr", "khmer"], ⟨264, 372⟩, ⟨592, 1408⟩⟩,
  ⟨["khoj", "khojki"], ⟨248, 300⟩, ⟨576, 1368⟩⟩,
  ⟨["kits", "khitansmallscript"], ⟨328, 364⟩, ⟨640, 1604⟩⟩,
  ⟨["knda", "kannada"], ⟨296, 664⟩, ⟨608, 1564⟩⟩,
  ⟨["krai", "kiratrai"], ⟨200, 232⟩, ⟨528, 1300⟩⟩,
  ⟨["kthi", "kaithi"], ⟨248, 300⟩, ⟨536, 1336⟩⟩,
  ⟨["lana", "taitham"], ⟨280, 444⟩, ⟨640, 1444⟩⟩,
  ⟨["laoo", "lao"], ⟨272, 556⟩, ⟨600, 1528⟩⟩,
  ⟨["latn", "latin"], ⟨1688, 2848⟩, ⟨2096, 4904⟩⟩,
  ⟨["lepc", "lepcha"], ⟨216, 304⟩, ⟨576, 1304⟩⟩,
  ⟨["limb", "limbu"], ⟨224, 340⟩, ⟨592, 1376⟩⟩,
  ⟨["lina", "lineara"], ⟨296, 368⟩, ⟨576, 1304⟩⟩,
  ⟨["linb", "linearb"], ⟨376, 580⟩, ⟨640, 1412⟩⟩,
  ⟨["lisu"], ⟨280, 296⟩, ⟨648, 1672⟩⟩,
  ⟨["lyci", "lycian"], ⟨192, 196⟩, ⟨520, 1200⟩⟩,
  ⟨["lydi", "lydian"], ⟨200, 232⟩, ⟨528, 1236⟩⟩,
  ⟨["mahj", "mahajani"], ⟨192, 196⟩, ⟨536, 1336⟩⟩,
  ⟨["maka", "makasar"], ⟨192, 196⟩, ⟨536, 1336⟩⟩,
  ⟨["mand", "mandaic"], ⟨160, 200⟩, ⟨480, 1136⟩⟩,
  ⟨["mani", "manichaean"], ⟨200, 232⟩, ⟨528, 1236⟩⟩,
  ⟨["marc", "marchen"], ⟨256, 336⟩, ⟨592, 1440⟩⟩,
  ⟨["medf", "medefaidrin"], ⟨240, 264⟩, ⟨528, 1300⟩⟩,
  ⟨["mend", "mendekikakui"], ⟨248, 300⟩, ⟨536, 1336⟩⟩,
  ⟨["merc", "meroiticcursive"], ⟨256, 336⟩, ⟨576, 1304⟩⟩,
  ⟨["mero", "meroitichieroglyphs"], ⟨192, 196⟩, ⟨520, 1200⟩⟩,
  ⟨["mlym", "malayalam"], ⟨248, 448⟩, ⟨552, 1312⟩⟩,
  ⟨["modi"], ⟨248, 300⟩, ⟨536, 1336⟩⟩,
  ⟨["mong", "mongolian"], ⟨400, 540⟩, ⟨752, 1780⟩⟩,
  ⟨["mroo", "mro"], ⟨208, 268⟩, ⟨544, 1372⟩⟩,
  ⟨["mtei", "meeteimayek"], ⟨208, 268⟩, ⟨600, 1508⟩⟩,
  ⟨["mult", "multani"], ⟨224, 340⟩, ⟨560, 1444⟩⟩,
  ⟨["mymr", "myanmar"], ⟨336, 400⟩, ⟨688, 1640⟩⟩,
  ⟨["nagm", "nagmundari"], ⟨192, 196⟩, ⟨536, 1336⟩⟩,
  ⟨["nand", "nandinagari"], ⟨256, 336⟩, ⟨592, 1440⟩⟩,
  ⟨["narb", "oldnortharabian"], ⟨192, 196⟩, ⟨520, 1200⟩⟩,
  ⟨["nbat", "nabataean"], ⟨200, 232⟩, ⟨528, 1236⟩⟩,
  ⟨["newa"], ⟨248, 300⟩, ⟨536, 1336⟩⟩,
  ⟨["nkoo", "nko"], ⟨120, 168⟩, ⟨464, 1032⟩⟩,
  ⟨["nshu", "nushu"], ⟨376, 432⟩, ⟨688, 1672⟩⟩,
  ⟨["ogam", "ogham"], ⟨152, 164⟩, ⟨520, 1200⟩⟩,
  ⟨["olck", "olchiki"], ⟨152, 164⟩, ⟨520, 1200⟩⟩,
  ⟨["onao", "olonal"], ⟨200, 232⟩, ⟨528, 1300⟩⟩,
  ⟨["orkh", "oldturkic"], ⟨240, 264⟩, ⟨520, 1200⟩⟩,
  ⟨["orya", "oriya"], ⟨304, 700⟩, ⟨624, 1636⟩⟩,
  ⟨["osge", "osage"], ⟨248, 300⟩, ⟨576, 1304⟩⟩,
  ⟨["osma", "osmanya"], ⟨200, 232⟩, ⟨528, 1236⟩⟩,
  ⟨["ougr", "olduyghur"], ⟨240, 264⟩, ⟨568, 1268⟩⟩,
  ⟨["palm", "palmyrene"], ⟨192, 196⟩, ⟨520, 1200⟩⟩,
  ⟨["pauc", "paucinhau"], ⟨192, 196⟩, ⟨528, 1300⟩⟩,
  ⟨["perm", "oldpermic"], ⟨192, 196⟩, ⟨528, 1236⟩⟩,
  ⟨["phag", "phagspa"], ⟨152, 164⟩, ⟨528, 1300⟩⟩,
  ⟨["phli", "inscriptionalpahlavi"], ⟨200, 232⟩, ⟨528, 1236⟩⟩,
  ⟨["phlp", "psalterpahlavi"], ⟨208, 268⟩, ⟨536, 1272⟩⟩,
  ⟨["phnx", "phoenician"], ⟨200, 232⟩, ⟨528, 1236⟩⟩,
  ⟨["plrd", "miao"], ⟨304, 404⟩, ⟨584, 1404⟩⟩,
  ⟨["prti", "inscriptionalparthian"], ⟨200, 232⟩, ⟨528, 1236⟩⟩,
  ⟨["rjng", "rejang"], ⟨208, 268⟩, ⟨584, 1404⟩⟩,
  ⟨["rohg", "hanifirohingya"], ⟨200, 232⟩, ⟨528, 1236⟩⟩,
  ⟨["runr", "runic"], ⟨208, 268⟩, ⟨576, 1304⟩⟩,
  ⟨["samr", "samaritan"], ⟨160, 200⟩, ⟨472, 1068⟩⟩,
  ⟨["sarb", "oldsoutharabian"], ⟨192, 196⟩, ⟨520, 1200⟩⟩,
  ⟨["saur", "saurashtra"], ⟨208, 268⟩, ⟨536, 1336⟩⟩,
  ⟨["sgnw", "signwriting"], ⟨256, 336⟩, ⟨544, 1372⟩⟩,
  ⟨["shaw", "shavian"], ⟨192, 196⟩, ⟨520, 1200⟩⟩,
  ⟨["shrd", "sharada"], ⟨240, 264⟩, ⟨528, 1300⟩⟩,
  ⟨["sidd", "siddham"], ⟨248, 300⟩, ⟨576, 1368⟩⟩,
  ⟨["sind", "khudawadi"], ⟨248, 300⟩, ⟨584, 1404⟩⟩,
  ⟨["sinh", "sinhala"], ⟨408, 724⟩, ⟨728, 1936⟩⟩,
  ⟨["sogd", "sogdian"], ⟨240, 264⟩, ⟨568, 1268⟩⟩,
  ⟨["sogo", "oldsogdian"], ⟨192, 196⟩, ⟨520, 1200⟩⟩,
  ⟨["sora", "sorasompeng"], ⟨200, 232⟩, ⟨544, 1372⟩⟩,
  ⟨["soyo", "soyombo"], ⟨240, 264⟩, ⟨576, 1368⟩⟩,
  ⟨["sund", "sundanese"], ⟨200, 232⟩, ⟨528, 1268⟩⟩,
  ⟨["sunu", "sunuwar"], ⟨200, 232⟩, ⟨528, 1300⟩⟩,
  ⟨["sylo", "sylotinagri"], ⟨152, 164⟩, ⟨528, 1300⟩⟩,
  ⟨["syrc", "syriac"], ⟨264, 372⟩, ⟨592, 1376⟩⟩,
  ⟨["tagb", "tagbanwa"], ⟨168, 236⟩, ⟨544, 1308⟩⟩,
  ⟨["takr", "takri"], ⟨240, 264⟩, ⟨576, 1368⟩⟩,
  ⟨["tale", "taile"], ⟨160, 200⟩, ⟨536, 1272⟩⟩,
  ⟨["talu", "newtailue"], ⟨224, 340⟩, ⟨584, 1340⟩⟩,
  ⟨["taml", "tamil"], ⟨456, 940⟩, ⟨744, 1976⟩⟩,
  ⟨["tang", "tangut"], ⟨432, 600⟩, ⟨680, 1572⟩⟩,
  ⟨["tavt", "taiviet"], ⟨208, 268⟩, ⟨536, 1336⟩⟩,
  ⟨["telu", "telugu"], ⟨296, 664⟩, ⟨600, 1528⟩⟩,
  ⟨["tfng", "tifinagh"], ⟨216, 304⟩, ⟨584, 1404⟩⟩,
  ⟨["tglg", "tagalog"], ⟨160, 200⟩, ⟨528, 1236⟩⟩,
  ⟨["thaa", "thaana"], ⟨112, 132⟩, ⟨472, 1100⟩⟩,
  ⟨["thai"], ⟨200, 232⟩, ⟨528, 1204⟩⟩,
  ⟨["tibt", "tibetan"], ⟨344, 584⟩, ⟨592, 1312⟩⟩,
  ⟨["tirh", "tirhuta"], ⟨248, 300⟩, ⟨536, 1336⟩⟩,
  ⟨["tnsa", "tangsa"], ⟨288, 332⟩, ⟨624, 1436⟩⟩,
  ⟨["todr", "todhri"], ⟨200, 232⟩, ⟨528, 1300⟩⟩,
  ⟨["toto"], ⟨192, 196⟩, ⟨536, 1336⟩⟩,
  ⟨["tutg", "tulutigalari"], ⟨200, 232⟩, ⟨528, 1300⟩⟩,
  ⟨["ugar", "ugaritic"], ⟨200, 232⟩, ⟨528, 1236⟩⟩,
  ⟨["vaii", "vai"], ⟨200, 232⟩, ⟨528, 1300⟩⟩,
  ⟨["vith", "vithkuqi"], ⟨296, 516⟩, ⟨624, 1520⟩⟩,
  ⟨["wara", "warangciti"], ⟨248, 300⟩, ⟨576, 1368⟩⟩,
  ⟨["wcho", "wancho"], ⟨200, 232⟩, ⟨528, 1300⟩⟩,
  ⟨["xpeo", "oldpersian"], ⟨248, 300⟩, ⟨576, 1304⟩⟩,
  ⟨["xsux", "cuneiform"], ⟨360, 572⟩, ⟨632, 1472⟩⟩,
  ⟨["yezi", "yezidi"], ⟨208, 268⟩, ⟨536, 1272⟩⟩,
  ⟨["yiii", "yi"], ⟨256, 336⟩, ⟨568, 1300⟩⟩,
  ⟨["zanb", "zanabazarsquare"], ⟨240, 264⟩, ⟨528, 1300⟩⟩,
  ⟨["zinh", "inherited", "qaai"], ⟨1616, 2408⟩, ⟨2128, 5400⟩⟩,
  ⟨["zyyy", "common"], ⟨6256, 12304⟩, ⟨6760, 15416⟩⟩]

/-- The properties that a character has or has not. -/
def binaries : List Property := [
  ⟨["ahex", "asciihexdigit"], ⟨88, 88⟩, ⟨440, 1072⟩⟩,
  ⟨["alpha", "alphabetic"], ⟨19200, 45404⟩, ⟨18816, 43252⟩⟩,
  ⟨["bidic", "bidicontrol"], ⟨256, 336⟩, ⟨656, 1580⟩⟩,
  ⟨["cased"], ⟨4608, 10200⟩, ⟨4944, 12188⟩⟩,
  ⟨["ci", "caseignorable"], ⟨12152, 23728⟩, ⟨13864, 33900⟩⟩,
  ⟨["cwcf", "changeswhencasefolded"], ⟨6800, 24888⟩, ⟨7400, 28256⟩⟩,
  ⟨["cwcm", "changeswhencasemapped"], ⟨3840, 8296⟩, ⟨4208, 10300⟩⟩,
  ⟨["cwl", "changeswhenlowercased"], ⟨6536, 24292⟩, ⟨7176, 27660⟩⟩,
  ⟨["cwt", "changeswhentitlecased"], ⟨6928, 25104⟩, ⟨7544, 28544⟩⟩,
  ⟨["cwu", "changeswhenuppercased"], ⟨6976, 25172⟩, ⟨7600, 28680⟩⟩,
  ⟨["dash"], ⟨1088, 1564⟩, ⟨1616, 3852⟩⟩,
  ⟨["dep", "deprecated"], ⟨608, 736⟩, ⟨1064, 2668⟩⟩,
  ⟨["di", "defaultignorablecodepoint"], ⟨1200, 1476⟩, ⟨1688, 4200⟩⟩,
  ⟨["dia", "diacritic"], ⟨6864, 12404⟩, ⟨8352, 22112⟩⟩,
  ⟨["ebase", "emojimodifierbase"], ⟨1184, 2144⟩, ⟨1720, 4468⟩⟩,
  ⟨["ecomp", "emojicomponent"], ⟨712, 908⟩, ⟨1112, 2864⟩⟩,
  ⟨["emod", "emojimodifier"], ⟨192, 196⟩, ⟨528, 1300⟩⟩,
  ⟨["emoji"], ⟨3368, 7660⟩, ⟨3920, 10332⟩⟩,
  ⟨["epres", "emojipresentation"], ⟨2456, 4856⟩, ⟨2896, 6864⟩⟩,
  ⟨["ext", "extender"], ⟨1768, 2500⟩, ⟨2504, 6716⟩⟩,
  ⟨["extpict", "extendedpictographic"], ⟨2520, 5072⟩, ⟨2968, 6988⟩⟩,
  ⟨["grbase", "graphemebase"], ⟨22080, 53956⟩, ⟨21320, 49016⟩⟩,
  ⟨["grext", "graphemeextend"], ⟨9872, 19532⟩, ⟨11424, 28956⟩⟩,
  ⟨["grlink", "graphemelink"], ⟨520, 636⟩, ⟨888, 2128⟩⟩,
  ⟨["hex", "hexdigit"], ⟨232, 376⟩, ⟨616, 1484⟩⟩,
  ⟨["hyphen"], ⟨664, 840⟩, ⟨1168, 2744⟩⟩,
  ⟨["idc", "idcontinue"], ⟨19760, 47760⟩, ⟨19216, 44520⟩⟩,
  ⟨["idcompatmathcontinue"], ⟨568, 852⟩, ⟨1032, 2512⟩⟩,
  ⟨["idcompatmathstart"], ⟨304, 404⟩, ⟨616, 1368⟩⟩,
  ⟨["ideo", "ideographic"], ⟨1768, 3744⟩, ⟨1912, 3896⟩⟩,
  ⟨["ids", "idstart"], ⟨17912, 41488⟩, ⟨18024, 41824⟩⟩,
  ⟨["idsb", "idsbinaryoperator"], ⟨160, 200⟩, ⟨536, 1304⟩⟩,
  ⟨["idst", "idstrinaryoperator"], ⟨152, 164⟩, ⟨528, 1268⟩⟩,
  ⟨["idsu", "idsunaryoperator"], ⟨152, 164⟩, ⟨528, 1268⟩⟩,
  ⟨["joinc", "joincontrol"], ⟨152, 164⟩, ⟨528, 1268⟩⟩,
  ⟨["loe", "logicalorderexception"], ⟨360, 540⟩, ⟨744, 1988⟩⟩,
  ⟨["lower", "lowercase"], ⟨8216, 27952⟩, ⟨8856, 31660⟩⟩,
  ⟨["math"], ⟨3032, 7068⟩, ⟨3472, 9076⟩⟩,
  ⟨["mcm", "modifiercombiningmark"], ⟨568, 852⟩, ⟨1032, 2512⟩⟩,
  ⟨["nchar", "noncharactercodepoint"], ⟨440, 1992⟩, ⟨744, 5356⟩⟩,
  ⟨["oalpha", "otheralphabetic"], ⟨9600, 18756⟩, ⟨11136, 28108⟩⟩,
  ⟨["odi", "otherdefaultignorablecodepoint"], ⟨1200, 1476⟩, ⟨1688, 4200⟩⟩,
  ⟨["ogrext", "othergraphemeextend"], ⟨6864, 12404⟩, ⟨8352, 22112⟩⟩,
  ⟨["oidc", "otheridcontinue"], ⟨568, 852⟩, ⟨1032, 2512⟩⟩,
  ⟨["oids", "otheridstart"], ⟨568, 852⟩, ⟨1032, 2512⟩⟩,
  ⟨["olower", "otherlowercase"], ⟨1536, 2248⟩, ⟨2184, 5236⟩⟩,
  ⟨["omath", "othermath"], ⟨3032, 7068⟩, ⟨3472, 9076⟩⟩,
  ⟨["oupper", "otheruppercase"], ⟨304, 404⟩, ⟨616, 1368⟩⟩,
  ⟨["patsyn", "patternsyntax"], ⟨920, 1792⟩, ⟨1312, 3244⟩⟩,
  ⟨["patws", "patternwhitespace"], ⟨224, 340⟩, ⟨608, 1480⟩⟩,
  ⟨["pcm", "prependedconcatenationmark"], ⟨520, 636⟩, ⟨888, 2128⟩⟩,
  ⟨["qmark", "quotationmark"], ⟨568, 852⟩, ⟨1032, 2512⟩⟩,
  ⟨["radical"], ⟨304, 404⟩, ⟨616, 1368⟩⟩,
  ⟨["ri", "regionalindicator"], ⟨192, 196⟩, ⟨528, 1300⟩⟩,
  ⟨["sd", "softdotted"], ⟨1536, 2248⟩, ⟨2184, 5236⟩⟩,
  ⟨["sterm", "sentenceterminal"], ⟨3472, 5348⟩, ⟨4640, 12376⟩⟩,
  ⟨["term", "terminalpunctuation"], ⟨4336, 6900⟩, ⟨5688, 15044⟩⟩,
  ⟨["uideo", "unifiedideograph"], ⟨1144, 2604⟩, ⟨1288, 2756⟩⟩,
  ⟨["upper", "uppercase"], ⟨7736, 26764⟩, ⟨8408, 30404⟩⟩,
  ⟨["vs", "variationselector"], ⟨424, 500⟩, ⟨800, 1976⟩⟩,
  ⟨["wspace", "whitespace", "space"], ⟨424, 680⟩, ⟨824, 1924⟩⟩,
  ⟨["xidc", "xidcontinue"], ⟨19872, 48148⟩, ⟨19312, 44804⟩⟩,
  ⟨["xids", "xidstart"], ⟨18064, 41876⟩, ⟨18160, 42108⟩⟩]

/-- The versions of Unicode, each with the characters known by then. -/
def ages : List Property := [
  ⟨["1.1", "v11"], ⟨7032, 16976⟩, ⟨6984, 16296⟩⟩,
  ⟨["10.0", "v100"], ⟨17920, 45516⟩, ⟨16792, 39908⟩⟩,
  ⟨["11.0", "v110"], ⟨18368, 46548⟩, ⟨17272, 41136⟩⟩,
  ⟨["12.0", "v120"], ⟨18688, 47412⟩, ⟨17560, 41820⟩⟩,
  ⟨["12.1", "v121"], ⟨18672, 47276⟩, ⟨17552, 41752⟩⟩,
  ⟨["13.0", "v130"], ⟨19184, 48276⟩, ⟨17992, 42240⟩⟩,
  ⟨["14.0", "v140"], ⟨19336, 49064⟩, ⟨18176, 43228⟩⟩,
  ⟨["15.0", "v150"], ⟨19720, 50096⟩, ⟨18488, 43808⟩⟩,
  ⟨["15.1", "v151"], ⟨19720, 50096⟩, ⟨18488, 43808⟩⟩,
  ⟨["16.0", "v160"], ⟨19720, 50096⟩, ⟨18488, 43808⟩⟩,
  ⟨["2.0", "v20"], ⟨7696, 19596⟩, ⟨7456, 20236⟩⟩,
  ⟨["2.1", "v21"], ⟨7696, 19596⟩, ⟨7456, 20236⟩⟩,
  ⟨["3.0", "v30"], ⟨9048, 23448⟩, ⟨8664, 22988⟩⟩,
  ⟨["3.1", "v31"], ⟨10216, 26276⟩, ⟨9768, 25492⟩⟩,
  ⟨["3.2", "v32"], ⟨10216, 26168⟩, ⟨9720, 24872⟩⟩,
  ⟨["4.0", "v40"], ⟨10608, 27036⟩, ⟨10112, 25908⟩⟩,
  ⟨["4.1", "v41"], ⟨11328, 28760⟩, ⟨10712, 26864⟩⟩,
  ⟨["5.0", "v50"], ⟨11720, 29484⟩, ⟨11096, 27652⟩⟩,
  ⟨["5.1", "v51"], ⟨12312, 30896⟩, ⟨11592, 28368⟩⟩,
  ⟨["5.2", "v52"], ⟨13152, 33396⟩, ⟨12400, 30452⟩⟩,
  ⟨["6.0", "v60"], ⟨13952, 35372⟩, ⟨13144, 32048⟩⟩,
  ⟨["6.1", "v61"], ⟨14720, 37296⟩, ⟨13928, 33980⟩⟩,
  ⟨["6.2", "v62"], ⟨14720, 37296⟩, ⟨13928, 33980⟩⟩,
  ⟨["6.3", "v63"], ⟨14720, 37296⟩, ⟨13928, 33980⟩⟩,
  ⟨["7.0", "v70"], ⟨16304, 41612⟩, ⟨15368, 37448⟩⟩,
  ⟨["8.0", "v80"], ⟨16896, 42648⟩, ⟨15936, 38240⟩⟩,
  ⟨["9.0", "v90"], ⟨17472, 44312⟩, ⟨16456, 39428⟩⟩]

/-- The values of `Grapheme_Cluster_Break`. -/
def graphemeBreaks : List Property := [
  ⟨["cn", "control"], ⟨1072, 1556⟩, ⟨1520, 3920⟩⟩,
  ⟨["cr"], ⟨72, 72⟩, ⟨424, 1000⟩⟩,
  ⟨["ex", "extend"], ⟨9960, 19632⟩, ⟨11528, 29192⟩⟩,
  ⟨["l"], ⟨288, 332⟩, ⟨640, 1572⟩⟩,
  ⟨["lf"], ⟨72, 72⟩, ⟨424, 1000⟩⟩,
  ⟨["lv"], ⟨2016, 20156⟩, ⟨2392, 26492⟩⟩,
  ⟨["lvt"], ⟨2072, 25556⟩, ⟨2344, 21128⟩⟩,
  ⟨["pp", "prepend"], ⟨904, 1180⟩, ⟨1384, 3400⟩⟩,
  ⟨["ri", "regionalindicator"], ⟨192, 196⟩, ⟨528, 1300⟩⟩,
  ⟨["sm", "spacingmark"], ⟨4664, 9312⟩, ⟨5632, 14764⟩⟩,
  ⟨["t"], ⟨288, 332⟩, ⟨576, 1304⟩⟩,
  ⟨["v"], ⟨336, 400⟩, ⟨664, 1404⟩⟩,
  ⟨["zwj"], ⟨152, 164⟩, ⟨528, 1268⟩⟩]

/-- The values of `Word_Break`. -/
def wordBreaks : List Property := [
  ⟨["cr"], ⟨72, 72⟩, ⟨424, 1000⟩⟩,
  ⟨["dq", "doublequote"], ⟨72, 72⟩, ⟨424, 1000⟩⟩,
  ⟨["ex", "extendnumlet"], ⟨408, 576⟩, ⟨816, 1920⟩⟩,
  ⟨["extend"], ⟨9568, 18512⟩, ⟨10912, 26920⟩⟩,
  ⟨["fo", "format"], ⟨1344, 1680⟩, ⟨1912, 4776⟩⟩,
  ⟨["hl", "hebrewletter"], ⟨304, 552⟩, ⟨696, 1728⟩⟩,
  ⟨["ka", "katakana"], ⟨928, 1288⟩, ⟨1312, 3044⟩⟩,
  ⟨["le", "aletter"], ⟨15664, 35008⟩, ⟨16056, 37664⟩⟩,
  ⟨["lf"], ⟨72, 72⟩, ⟨424, 1000⟩⟩,
  ⟨["mb", "midnumlet"], ⟨312, 440⟩, ⟨728, 1820⟩⟩,
  ⟨["ml", "midletter"], ⟨536, 708⟩, ⟨1016, 2472⟩⟩,
  ⟨["mn", "midnum"], ⟨568, 920⟩, ⟨1056, 2788⟩⟩,
  ⟨["nl", "newline"], ⟨208, 268⟩, ⟨592, 1408⟩⟩,
  ⟨["nu", "numeric"], ⟨1456, 4676⟩, ⟨2288, 11692⟩⟩,
  ⟨["ri", "regionalindicator"], ⟨192, 196⟩, ⟨528, 1300⟩⟩,
  ⟨["sq", "singlequote"], ⟨72, 72⟩, ⟨424, 1000⟩⟩,
  ⟨["wsegspace"], ⟨352, 504⟩, ⟨744, 1712⟩⟩,
  ⟨["zwj"], ⟨152, 164⟩, ⟨528, 1268⟩⟩]

/-- The values of `Sentence_Break`. -/
def sentenceBreaks : List Property := [
  ⟨["at", "aterm"], ⟨296, 368⟩, ⟨712, 1748⟩⟩,
  ⟨["cl", "close"], ⟨1512, 2584⟩, ⟨2048, 5184⟩⟩,
  ⟨["cr"], ⟨72, 72⟩, ⟨424, 1000⟩⟩,
  ⟨["ex", "extend"], ⟨9480, 18412⟩, ⟨10808, 26684⟩⟩,
  ⟨["fo", "format"], ⟨1352, 1716⟩, ⟨1920, 4812⟩⟩,
  ⟨["le", "oletter"], ⟨15400, 34536⟩, ⟨15984, 37768⟩⟩,
  ⟨["lf"], ⟨72, 72⟩, ⟨424, 1000⟩⟩,
  ⟨["lo", "lower"], ⟨8200, 27880⟩, ⟨8848, 31624⟩⟩,
  ⟨["nu", "numeric"], ⟨1456, 4676⟩, ⟨2288, 11692⟩⟩,
  ⟨["sc", "scontinue"], ⟨776, 1196⟩, ⟨1280, 3068⟩⟩,
  ⟨["se", "sep"], ⟨200, 232⟩, ⟨584, 1372⟩⟩,
  ⟨["sp"], ⟨416, 644⟩, ⟨816, 1888⟩⟩,
  ⟨["st", "sterm"], ⟨3408, 5240⟩, ⟨4568, 12268⟩⟩,
  ⟨["up", "upper"], ⟨7704, 26768⟩, ⟨8368, 30340⟩⟩]

/-- The names of properties that are not asked for without a value. -/
def otherNames : List String :=
  ["cjkaccountingnumeric", "kaccountingnumeric", "cjkothernumeric", "kothernumeric",
    "cjkprimarynumeric", "kprimarynumeric", "nv", "numericvalue", "bmg", "bidimirroringglyph",
    "bpb", "bidipairedbracket", "cf", "casefolding", "cjkcompatibilityvariant",
    "kcompatibilityvariant", "dm", "decompositionmapping", "equideo",
    "equivalentunifiedideograph", "fcnfkc", "fcnfkcclosure", "lc", "lowercasemapping", "nfkccf",
    "nfkccasefold", "nfkcscf", "nfkcsimplecasefold", "scf", "simplecasefolding", "sfc", "slc",
    "simplelowercasemapping", "stc", "simpletitlecasemapping", "suc", "simpleuppercasemapping",
    "tc", "titlecasemapping", "uc", "uppercasemapping", "cjkiicore", "kiicore", "cjkirggsource",
    "kirggsource", "cjkirghsource", "kirghsource", "cjkirgjsource", "kirgjsource",
    "cjkirgkpsource", "kirgkpsource", "cjkirgksource", "kirgksource", "cjkirgmsource",
    "kirgmsource", "cjkirgssource", "kirgssource", "cjkirgtsource", "kirgtsource",
    "cjkirguksource", "kirguksource", "cjkirgusource", "kirgusource", "cjkirgvsource",
    "kirgvsource", "cjkrsunicode", "krsunicode", "unicoderadicalstroke", "urs", "isc",
    "isocomment", "jsn", "jamoshortname", "na", "name", "na1", "unicode1name", "namealias", "scx",
    "scriptextensions", "age", "blk", "block", "sc", "script", "bc", "bidiclass", "bpt",
    "bidipairedbrackettype", "ccc", "canonicalcombiningclass", "dt", "decompositiontype", "ea",
    "eastasianwidth", "gc", "generalcategory", "gcb", "graphemeclusterbreak", "hst",
    "hangulsyllabletype", "incb", "indicconjunctbreak", "inpc", "indicpositionalcategory", "insc",
    "indicsyllabiccategory", "jg", "joininggroup", "jt", "joiningtype", "lb", "linebreak",
    "nfcqc", "nfcquickcheck", "nfdqc", "nfdquickcheck", "nfkcqc", "nfkcquickcheck", "nfkdqc",
    "nfkdquickcheck", "nt", "numerictype", "sb", "sentencebreak", "vo", "verticalorientation",
    "wb", "wordbreak", "bidim", "bidimirrored", "ce", "compositionexclusion", "compex",
    "fullcompositionexclusion", "cwkcf", "changeswhennfkccasefolded", "xonfc", "expandsonnfc",
    "xonfd", "expandsonnfd", "xonfkc", "expandsonnfkc", "xonfkd", "expandsonnfkd"]

/-- The scripts that have a name but no characters of their own. -/
def emptyScripts : List String := ["zzzz", "unknown", "hrkt", "katakanaorhiragana"]

/-- The categories that have a name but no characters. -/
def emptyCategories : List String := ["cs", "surrogate"]

end Property

end EntryForm.Pattern
