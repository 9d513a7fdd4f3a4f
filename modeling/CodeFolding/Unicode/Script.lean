import CodeFolding.Charset.Named
import CodeFolding.Unicode.Script.AToK
import CodeFolding.Unicode.Script.LToZ

set_option autoImplicit false

namespace CodeFolding.Unicode

def scripts : List Charset.Named := [
  ⟨["adlm", "adlam"], Script.adlam⟩,
  ⟨["ahom"], Script.ahom⟩,
  ⟨["hluw", "anatolianhieroglyphs"], Script.anatolianHieroglyphs⟩,
  ⟨["arab", "arabic"], Script.arabic⟩,
  ⟨["armn", "armenian"], Script.armenian⟩,
  ⟨["avst", "avestan"], Script.avestan⟩,
  ⟨["bali", "balinese"], Script.balinese⟩,
  ⟨["bamu", "bamum"], Script.bamum⟩,
  ⟨["bass", "bassavah"], Script.bassaVah⟩,
  ⟨["batk", "batak"], Script.batak⟩,
  ⟨["beng", "bengali"], Script.bengali⟩,
  ⟨["bhks", "bhaiksuki"], Script.bhaiksuki⟩,
  ⟨["bopo", "bopomofo"], Script.bopomofo⟩,
  ⟨["brah", "brahmi"], Script.brahmi⟩,
  ⟨["brai", "braille"], Script.braille⟩,
  ⟨["bugi", "buginese"], Script.buginese⟩,
  ⟨["buhd", "buhid"], Script.buhid⟩,
  ⟨["cans", "canadianaboriginal"], Script.canadianAboriginal⟩,
  ⟨["cari", "carian"], Script.carian⟩,
  ⟨["aghb", "caucasianalbanian"], Script.caucasianAlbanian⟩,
  ⟨["cakm", "chakma"], Script.chakma⟩,
  ⟨["cham"], Script.cham⟩,
  ⟨["cher", "cherokee"], Script.cherokee⟩,
  ⟨["chrs", "chorasmian"], Script.chorasmian⟩,
  ⟨["zyyy", "common"], Script.commonScript⟩,
  ⟨["copt", "coptic", "qaac"], Script.coptic⟩,
  ⟨["xsux", "cuneiform"], Script.cuneiform⟩,
  ⟨["cprt", "cypriot"], Script.cypriot⟩,
  ⟨["cpmn", "cyprominoan"], Script.cyproMinoan⟩,
  ⟨["cyrl", "cyrillic"], Script.cyrillic⟩,
  ⟨["dsrt", "deseret"], Script.deseret⟩,
  ⟨["deva", "devanagari"], Script.devanagari⟩,
  ⟨["diak", "divesakuru"], Script.divesAkuru⟩,
  ⟨["dogr", "dogra"], Script.dogra⟩,
  ⟨["dupl", "duployan"], Script.duployan⟩,
  ⟨["egyp", "egyptianhieroglyphs"], Script.egyptianHieroglyphs⟩,
  ⟨["elba", "elbasan"], Script.elbasan⟩,
  ⟨["elym", "elymaic"], Script.elymaic⟩,
  ⟨["ethi", "ethiopic"], Script.ethiopic⟩,
  ⟨["gara", "garay"], Script.garay⟩,
  ⟨["geor", "georgian"], Script.georgian⟩,
  ⟨["glag", "glagolitic"], Script.glagolitic⟩,
  ⟨["goth", "gothic"], Script.gothic⟩,
  ⟨["gran", "grantha"], Script.grantha⟩,
  ⟨["grek", "greek"], Script.greek⟩,
  ⟨["gujr", "gujarati"], Script.gujarati⟩,
  ⟨["gong", "gunjalagondi"], Script.gunjalaGondi⟩,
  ⟨["guru", "gurmukhi"], Script.gurmukhi⟩,
  ⟨["gukh", "gurungkhema"], Script.gurungKhema⟩,
  ⟨["hani", "han"], Script.han⟩,
  ⟨["hang", "hangul"], Script.hangul⟩,
  ⟨["rohg", "hanifirohingya"], Script.hanifiRohingya⟩,
  ⟨["hano", "hanunoo"], Script.hanunoo⟩,
  ⟨["hatr", "hatran"], Script.hatran⟩,
  ⟨["hebr", "hebrew"], Script.hebrew⟩,
  ⟨["hira", "hiragana"], Script.hiragana⟩,
  ⟨["armi", "imperialaramaic"], Script.imperialAramaic⟩,
  ⟨["zinh", "inherited", "qaai"], Script.inheritedScript⟩,
  ⟨["phli", "inscriptionalpahlavi"], Script.inscriptionalPahlavi⟩,
  ⟨["prti", "inscriptionalparthian"], Script.inscriptionalParthian⟩,
  ⟨["java", "javanese"], Script.javanese⟩,
  ⟨["kthi", "kaithi"], Script.kaithi⟩,
  ⟨["knda", "kannada"], Script.kannada⟩,
  ⟨["kana", "katakana"], Script.katakana⟩,
  ⟨["kawi"], Script.kawi⟩,
  ⟨["kali", "kayahli"], Script.kayahLi⟩,
  ⟨["khar", "kharoshthi"], Script.kharoshthi⟩,
  ⟨["kits", "khitansmallscript"], Script.khitanSmallScript⟩,
  ⟨["khmr", "khmer"], Script.khmer⟩,
  ⟨["khoj", "khojki"], Script.khojki⟩,
  ⟨["sind", "khudawadi"], Script.khudawadi⟩,
  ⟨["krai", "kiratrai"], Script.kiratRai⟩,
  ⟨["laoo", "lao"], Script.lao⟩,
  ⟨["latn", "latin"], Script.latin⟩,
  ⟨["lepc", "lepcha"], Script.lepcha⟩,
  ⟨["limb", "limbu"], Script.limbu⟩,
  ⟨["lina", "lineara"], Script.linearA⟩,
  ⟨["linb", "linearb"], Script.linearB⟩,
  ⟨["lisu"], Script.lisu⟩,
  ⟨["lyci", "lycian"], Script.lycian⟩,
  ⟨["lydi", "lydian"], Script.lydian⟩,
  ⟨["mahj", "mahajani"], Script.mahajani⟩,
  ⟨["maka", "makasar"], Script.makasar⟩,
  ⟨["mlym", "malayalam"], Script.malayalam⟩,
  ⟨["mand", "mandaic"], Script.mandaic⟩,
  ⟨["mani", "manichaean"], Script.manichaean⟩,
  ⟨["marc", "marchen"], Script.marchen⟩,
  ⟨["gonm", "masaramgondi"], Script.masaramGondi⟩,
  ⟨["medf", "medefaidrin"], Script.medefaidrin⟩,
  ⟨["mtei", "meeteimayek"], Script.meeteiMayek⟩,
  ⟨["mend", "mendekikakui"], Script.mendeKikakui⟩,
  ⟨["merc", "meroiticcursive"], Script.meroiticCursive⟩,
  ⟨["mero", "meroitichieroglyphs"], Script.meroiticHieroglyphs⟩,
  ⟨["plrd", "miao"], Script.miao⟩,
  ⟨["modi"], Script.modi⟩,
  ⟨["mong", "mongolian"], Script.mongolian⟩,
  ⟨["mroo", "mro"], Script.mro⟩,
  ⟨["mult", "multani"], Script.multani⟩,
  ⟨["mymr", "myanmar"], Script.myanmar⟩,
  ⟨["nbat", "nabataean"], Script.nabataean⟩,
  ⟨["nagm", "nagmundari"], Script.nagMundari⟩,
  ⟨["nand", "nandinagari"], Script.nandinagari⟩,
  ⟨["talu", "newtailue"], Script.newTaiLue⟩,
  ⟨["newa"], Script.newa⟩,
  ⟨["nkoo", "nko"], Script.nko⟩,
  ⟨["nshu", "nushu"], Script.nushu⟩,
  ⟨["hmnp", "nyiakengpuachuehmong"], Script.nyiakengPuachueHmong⟩,
  ⟨["ogam", "ogham"], Script.ogham⟩,
  ⟨["olck", "olchiki"], Script.olChiki⟩,
  ⟨["onao", "olonal"], Script.olOnal⟩,
  ⟨["hung", "oldhungarian"], Script.oldHungarian⟩,
  ⟨["ital", "olditalic"], Script.oldItalic⟩,
  ⟨["narb", "oldnortharabian"], Script.oldNorthArabian⟩,
  ⟨["perm", "oldpermic"], Script.oldPermic⟩,
  ⟨["xpeo", "oldpersian"], Script.oldPersian⟩,
  ⟨["sogo", "oldsogdian"], Script.oldSogdian⟩,
  ⟨["sarb", "oldsoutharabian"], Script.oldSouthArabian⟩,
  ⟨["orkh", "oldturkic"], Script.oldTurkic⟩,
  ⟨["ougr", "olduyghur"], Script.oldUyghur⟩,
  ⟨["orya", "oriya"], Script.oriya⟩,
  ⟨["osge", "osage"], Script.osage⟩,
  ⟨["osma", "osmanya"], Script.osmanya⟩,
  ⟨["hmng", "pahawhhmong"], Script.pahawhHmong⟩,
  ⟨["palm", "palmyrene"], Script.palmyrene⟩,
  ⟨["pauc", "paucinhau"], Script.pauCinHau⟩,
  ⟨["phag", "phagspa"], Script.phagsPa⟩,
  ⟨["phnx", "phoenician"], Script.phoenician⟩,
  ⟨["phlp", "psalterpahlavi"], Script.psalterPahlavi⟩,
  ⟨["rjng", "rejang"], Script.rejang⟩,
  ⟨["runr", "runic"], Script.runic⟩,
  ⟨["samr", "samaritan"], Script.samaritan⟩,
  ⟨["saur", "saurashtra"], Script.saurashtra⟩,
  ⟨["shrd", "sharada"], Script.sharada⟩,
  ⟨["shaw", "shavian"], Script.shavian⟩,
  ⟨["sidd", "siddham"], Script.siddham⟩,
  ⟨["sgnw", "signwriting"], Script.signwriting⟩,
  ⟨["sinh", "sinhala"], Script.sinhala⟩,
  ⟨["sogd", "sogdian"], Script.sogdian⟩,
  ⟨["sora", "sorasompeng"], Script.soraSompeng⟩,
  ⟨["soyo", "soyombo"], Script.soyombo⟩,
  ⟨["sund", "sundanese"], Script.sundanese⟩,
  ⟨["sunu", "sunuwar"], Script.sunuwar⟩,
  ⟨["sylo", "sylotinagri"], Script.sylotiNagri⟩,
  ⟨["syrc", "syriac"], Script.syriac⟩,
  ⟨["tglg", "tagalog"], Script.tagalog⟩,
  ⟨["tagb", "tagbanwa"], Script.tagbanwa⟩,
  ⟨["tale", "taile"], Script.taiLe⟩,
  ⟨["lana", "taitham"], Script.taiTham⟩,
  ⟨["tavt", "taiviet"], Script.taiViet⟩,
  ⟨["takr", "takri"], Script.takri⟩,
  ⟨["taml", "tamil"], Script.tamil⟩,
  ⟨["tnsa", "tangsa"], Script.tangsa⟩,
  ⟨["tang", "tangut"], Script.tangut⟩,
  ⟨["telu", "telugu"], Script.telugu⟩,
  ⟨["thaa", "thaana"], Script.thaana⟩,
  ⟨["thai"], Script.thai⟩,
  ⟨["tibt", "tibetan"], Script.tibetan⟩,
  ⟨["tfng", "tifinagh"], Script.tifinagh⟩,
  ⟨["tirh", "tirhuta"], Script.tirhuta⟩,
  ⟨["todr", "todhri"], Script.todhri⟩,
  ⟨["toto"], Script.toto⟩,
  ⟨["tutg", "tulutigalari"], Script.tuluTigalari⟩,
  ⟨["ugar", "ugaritic"], Script.ugaritic⟩,
  ⟨["vaii", "vai"], Script.vai⟩,
  ⟨["vith", "vithkuqi"], Script.vithkuqi⟩,
  ⟨["wcho", "wancho"], Script.wancho⟩,
  ⟨["wara", "warangciti"], Script.warangCiti⟩,
  ⟨["yezi", "yezidi"], Script.yezidi⟩,
  ⟨["yiii", "yi"], Script.yi⟩,
  ⟨["zanb", "zanabazarsquare"], Script.zanabazarSquare⟩]

end CodeFolding.Unicode
