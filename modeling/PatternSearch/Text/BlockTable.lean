/-
PatternSearch.Text.BlockTable — the blocks of Unicode 16.0, written as text.

Each word is the name of a block, in lower case and without separators, a
colon, and its first and last code point.
-/
namespace PatternSearch.Text

/-- The blocks, in increasing order. -/
def blockTable : List String :=
  ["basiclatin:0-7f latin1supplement:80-ff latinextendeda:100-17f latinextendedb:180-24f",
   "ipaextensions:250-2af spacingmodifierletters:2b0-2ff combiningdiacriticalmarks:300-36f",
   "greekandcoptic:370-3ff cyrillic:400-4ff cyrillicsupplement:500-52f armenian:530-58f",
   "hebrew:590-5ff arabic:600-6ff syriac:700-74f arabicsupplement:750-77f thaana:780-7bf",
   "nko:7c0-7ff samaritan:800-83f mandaic:840-85f syriacsupplement:860-86f arabicextendedb:870-89f",
   "arabicextendeda:8a0-8ff devanagari:900-97f bengali:980-9ff gurmukhi:a00-a7f gujarati:a80-aff",
   "oriya:b00-b7f tamil:b80-bff telugu:c00-c7f kannada:c80-cff malayalam:d00-d7f sinhala:d80-dff",
   "thai:e00-e7f lao:e80-eff tibetan:f00-fff myanmar:1000-109f georgian:10a0-10ff",
   "hanguljamo:1100-11ff ethiopic:1200-137f ethiopicsupplement:1380-139f cherokee:13a0-13ff",
   "unifiedcanadianaboriginalsyllabics:1400-167f ogham:1680-169f runic:16a0-16ff tagalog:1700-171f",
   "hanunoo:1720-173f buhid:1740-175f tagbanwa:1760-177f khmer:1780-17ff mongolian:1800-18af",
   "unifiedcanadianaboriginalsyllabicsextended:18b0-18ff limbu:1900-194f taile:1950-197f",
   "newtailue:1980-19df khmersymbols:19e0-19ff buginese:1a00-1a1f taitham:1a20-1aaf",
   "combiningdiacriticalmarksextended:1ab0-1aff balinese:1b00-1b7f sundanese:1b80-1bbf",
   "batak:1bc0-1bff lepcha:1c00-1c4f olchiki:1c50-1c7f cyrillicextendedc:1c80-1c8f",
   "georgianextended:1c90-1cbf sundanesesupplement:1cc0-1ccf vedicextensions:1cd0-1cff",
   "phoneticextensions:1d00-1d7f phoneticextensionssupplement:1d80-1dbf",
   "combiningdiacriticalmarkssupplement:1dc0-1dff latinextendedadditional:1e00-1eff",
   "greekextended:1f00-1fff generalpunctuation:2000-206f superscriptsandsubscripts:2070-209f",
   "currencysymbols:20a0-20cf combiningdiacriticalmarksforsymbols:20d0-20ff",
   "letterlikesymbols:2100-214f numberforms:2150-218f arrows:2190-21ff",
   "mathematicaloperators:2200-22ff miscellaneoustechnical:2300-23ff controlpictures:2400-243f",
   "opticalcharacterrecognition:2440-245f enclosedalphanumerics:2460-24ff boxdrawing:2500-257f",
   "blockelements:2580-259f geometricshapes:25a0-25ff miscellaneoussymbols:2600-26ff",
   "dingbats:2700-27bf miscellaneousmathematicalsymbolsa:27c0-27ef supplementalarrowsa:27f0-27ff",
   "braillepatterns:2800-28ff supplementalarrowsb:2900-297f",
   "miscellaneousmathematicalsymbolsb:2980-29ff supplementalmathematicaloperators:2a00-2aff",
   "miscellaneoussymbolsandarrows:2b00-2bff glagolitic:2c00-2c5f latinextendedc:2c60-2c7f",
   "coptic:2c80-2cff georgiansupplement:2d00-2d2f tifinagh:2d30-2d7f ethiopicextended:2d80-2ddf",
   "cyrillicextendeda:2de0-2dff supplementalpunctuation:2e00-2e7f cjkradicalssupplement:2e80-2eff",
   "kangxiradicals:2f00-2fdf ideographicdescriptioncharacters:2ff0-2fff",
   "cjksymbolsandpunctuation:3000-303f hiragana:3040-309f katakana:30a0-30ff bopomofo:3100-312f",
   "hangulcompatibilityjamo:3130-318f kanbun:3190-319f bopomofoextended:31a0-31bf",
   "cjkstrokes:31c0-31ef katakanaphoneticextensions:31f0-31ff",
   "enclosedcjklettersandmonths:3200-32ff cjkcompatibility:3300-33ff",
   "cjkunifiedideographsextensiona:3400-4dbf yijinghexagramsymbols:4dc0-4dff",
   "cjkunifiedideographs:4e00-9fff yisyllables:a000-a48f yiradicals:a490-a4cf lisu:a4d0-a4ff",
   "vai:a500-a63f cyrillicextendedb:a640-a69f bamum:a6a0-a6ff modifiertoneletters:a700-a71f",
   "latinextendedd:a720-a7ff sylotinagri:a800-a82f commonindicnumberforms:a830-a83f",
   "phagspa:a840-a87f saurashtra:a880-a8df devanagariextended:a8e0-a8ff kayahli:a900-a92f",
   "rejang:a930-a95f hanguljamoextendeda:a960-a97f javanese:a980-a9df myanmarextendedb:a9e0-a9ff",
   "cham:aa00-aa5f myanmarextendeda:aa60-aa7f taiviet:aa80-aadf meeteimayekextensions:aae0-aaff",
   "ethiopicextendeda:ab00-ab2f latinextendede:ab30-ab6f cherokeesupplement:ab70-abbf",
   "meeteimayek:abc0-abff hangulsyllables:ac00-d7af hanguljamoextendedb:d7b0-d7ff",
   "highsurrogates:d800-db7f highprivateusesurrogates:db80-dbff lowsurrogates:dc00-dfff",
   "privateusearea:e000-f8ff cjkcompatibilityideographs:f900-faff",
   "alphabeticpresentationforms:fb00-fb4f arabicpresentationformsa:fb50-fdff",
   "variationselectors:fe00-fe0f verticalforms:fe10-fe1f combininghalfmarks:fe20-fe2f",
   "cjkcompatibilityforms:fe30-fe4f smallformvariants:fe50-fe6f arabicpresentationformsb:fe70-feff",
   "halfwidthandfullwidthforms:ff00-ffef specials:fff0-ffff linearbsyllabary:10000-1007f",
   "linearbideograms:10080-100ff aegeannumbers:10100-1013f ancientgreeknumbers:10140-1018f",
   "ancientsymbols:10190-101cf phaistosdisc:101d0-101ff lycian:10280-1029f carian:102a0-102df",
   "copticepactnumbers:102e0-102ff olditalic:10300-1032f gothic:10330-1034f oldpermic:10350-1037f",
   "ugaritic:10380-1039f oldpersian:103a0-103df deseret:10400-1044f shavian:10450-1047f",
   "osmanya:10480-104af osage:104b0-104ff elbasan:10500-1052f caucasianalbanian:10530-1056f",
   "vithkuqi:10570-105bf todhri:105c0-105ff lineara:10600-1077f latinextendedf:10780-107bf",
   "cypriotsyllabary:10800-1083f imperialaramaic:10840-1085f palmyrene:10860-1087f",
   "nabataean:10880-108af hatran:108e0-108ff phoenician:10900-1091f lydian:10920-1093f",
   "meroitichieroglyphs:10980-1099f meroiticcursive:109a0-109ff kharoshthi:10a00-10a5f",
   "oldsoutharabian:10a60-10a7f oldnortharabian:10a80-10a9f manichaean:10ac0-10aff",
   "avestan:10b00-10b3f inscriptionalparthian:10b40-10b5f inscriptionalpahlavi:10b60-10b7f",
   "psalterpahlavi:10b80-10baf oldturkic:10c00-10c4f oldhungarian:10c80-10cff",
   "hanifirohingya:10d00-10d3f garay:10d40-10d8f ruminumeralsymbols:10e60-10e7f yezidi:10e80-10ebf",
   "arabicextendedc:10ec0-10eff oldsogdian:10f00-10f2f sogdian:10f30-10f6f olduyghur:10f70-10faf",
   "chorasmian:10fb0-10fdf elymaic:10fe0-10fff brahmi:11000-1107f kaithi:11080-110cf",
   "sorasompeng:110d0-110ff chakma:11100-1114f mahajani:11150-1117f sharada:11180-111df",
   "sinhalaarchaicnumbers:111e0-111ff khojki:11200-1124f multani:11280-112af khudawadi:112b0-112ff",
   "grantha:11300-1137f tulutigalari:11380-113ff newa:11400-1147f tirhuta:11480-114df",
   "siddham:11580-115ff modi:11600-1165f mongoliansupplement:11660-1167f takri:11680-116cf",
   "myanmarextendedc:116d0-116ff ahom:11700-1174f dogra:11800-1184f warangciti:118a0-118ff",
   "divesakuru:11900-1195f nandinagari:119a0-119ff zanabazarsquare:11a00-11a4f soyombo:11a50-11aaf",
   "unifiedcanadianaboriginalsyllabicsextendeda:11ab0-11abf paucinhau:11ac0-11aff",
   "devanagariextendeda:11b00-11b5f sunuwar:11bc0-11bff bhaiksuki:11c00-11c6f marchen:11c70-11cbf",
   "masaramgondi:11d00-11d5f gunjalagondi:11d60-11daf makasar:11ee0-11eff kawi:11f00-11f5f",
   "lisusupplement:11fb0-11fbf tamilsupplement:11fc0-11fff cuneiform:12000-123ff",
   "cuneiformnumbersandpunctuation:12400-1247f earlydynasticcuneiform:12480-1254f",
   "cyprominoan:12f90-12fff egyptianhieroglyphs:13000-1342f",
   "egyptianhieroglyphformatcontrols:13430-1345f egyptianhieroglyphsextendeda:13460-143ff",
   "anatolianhieroglyphs:14400-1467f gurungkhema:16100-1613f bamumsupplement:16800-16a3f",
   "mro:16a40-16a6f tangsa:16a70-16acf bassavah:16ad0-16aff pahawhhmong:16b00-16b8f",
   "kiratrai:16d40-16d7f medefaidrin:16e40-16e9f miao:16f00-16f9f",
   "ideographicsymbolsandpunctuation:16fe0-16fff tangut:17000-187ff tangutcomponents:18800-18aff",
   "khitansmallscript:18b00-18cff tangutsupplement:18d00-18d7f kanaextendedb:1aff0-1afff",
   "kanasupplement:1b000-1b0ff kanaextendeda:1b100-1b12f smallkanaextension:1b130-1b16f",
   "nushu:1b170-1b2ff duployan:1bc00-1bc9f shorthandformatcontrols:1bca0-1bcaf",
   "symbolsforlegacycomputingsupplement:1cc00-1cebf znamennymusicalnotation:1cf00-1cfcf",
   "byzantinemusicalsymbols:1d000-1d0ff musicalsymbols:1d100-1d1ff",
   "ancientgreekmusicalnotation:1d200-1d24f kaktoviknumerals:1d2c0-1d2df mayannumerals:1d2e0-1d2ff",
   "taixuanjingsymbols:1d300-1d35f countingrodnumerals:1d360-1d37f",
   "mathematicalalphanumericsymbols:1d400-1d7ff suttonsignwriting:1d800-1daaf",
   "latinextendedg:1df00-1dfff glagoliticsupplement:1e000-1e02f cyrillicextendedd:1e030-1e08f",
   "nyiakengpuachuehmong:1e100-1e14f toto:1e290-1e2bf wancho:1e2c0-1e2ff nagmundari:1e4d0-1e4ff",
   "olonal:1e5d0-1e5ff ethiopicextendedb:1e7e0-1e7ff mendekikakui:1e800-1e8df adlam:1e900-1e95f",
   "indicsiyaqnumbers:1ec70-1ecbf ottomansiyaqnumbers:1ed00-1ed4f",
   "arabicmathematicalalphabeticsymbols:1ee00-1eeff mahjongtiles:1f000-1f02f",
   "dominotiles:1f030-1f09f playingcards:1f0a0-1f0ff enclosedalphanumericsupplement:1f100-1f1ff",
   "enclosedideographicsupplement:1f200-1f2ff miscellaneoussymbolsandpictographs:1f300-1f5ff",
   "emoticons:1f600-1f64f ornamentaldingbats:1f650-1f67f transportandmapsymbols:1f680-1f6ff",
   "alchemicalsymbols:1f700-1f77f geometricshapesextended:1f780-1f7ff",
   "supplementalarrowsc:1f800-1f8ff supplementalsymbolsandpictographs:1f900-1f9ff",
   "chesssymbols:1fa00-1fa6f symbolsandpictographsextendeda:1fa70-1faff",
   "symbolsforlegacycomputing:1fb00-1fbff cjkunifiedideographsextensionb:20000-2a6df",
   "cjkunifiedideographsextensionc:2a700-2b73f cjkunifiedideographsextensiond:2b740-2b81f",
   "cjkunifiedideographsextensione:2b820-2ceaf cjkunifiedideographsextensionf:2ceb0-2ebef",
   "cjkunifiedideographsextensioni:2ebf0-2ee5f cjkcompatibilityideographssupplement:2f800-2fa1f",
   "cjkunifiedideographsextensiong:30000-3134f cjkunifiedideographsextensionh:31350-323af",
   "tags:e0000-e007f variationselectorssupplement:e0100-e01ef",
   "supplementaryprivateuseareaa:f0000-fffff supplementaryprivateuseareab:100000-10ffff"]

end PatternSearch.Text
