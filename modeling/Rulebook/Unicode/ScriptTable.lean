/-!
The script of every code point, from the first to the last: each entry is the name of a script and,
in hexadecimal, how many code points in a row are written in it. The short names of scripts stand in
a list of their own.
-/

namespace Rulebook.Unicode

def scriptRuns : List String := [
  "Common:41 Latin:1A Common:6 Latin:1A Common:2F Latin:1 Common:F Latin:1 Common:5 Latin:17",
  "Common:1 Latin:1F Common:1 Latin:1C1 Common:27 Latin:5 Common:5 Bopomofo:2 Common:14",
  "Inherited:70 Greek:4 Common:1 Greek:3 Unknown:2 Greek:4 Common:1 Greek:1 Unknown:4 Greek:1",
  "Common:1 Greek:1 Common:1 Greek:3 Unknown:1 Greek:1 Unknown:1 Greek:14 Unknown:1 Greek:3F",
  "Coptic:E Greek:10 Cyrillic:85 Inherited:2 Cyrillic:A9 Unknown:1 Armenian:26 Unknown:2",
  "Armenian:32 Unknown:2 Armenian:3 Unknown:1 Hebrew:37 Unknown:8 Hebrew:1B Unknown:4 Hebrew:6",
  "Unknown:B Arabic:5 Common:1 Arabic:6 Common:1 Arabic:E Common:1 Arabic:3 Common:1 Arabic:20",
  "Common:1 Arabic:A Inherited:B Arabic:1A Inherited:1 Arabic:6C Common:1 Arabic:22 Syriac:E",
  "Unknown:1 Syriac:3C Unknown:2 Syriac:3 Arabic:30 Thaana:32 Unknown:E Nko:3B Unknown:2 Nko:3",
  "Samaritan:2E Unknown:2 Samaritan:F Unknown:1 Mandaic:1C Unknown:2 Mandaic:1 Unknown:1",
  "Syriac:B Unknown:5 Arabic:1F Unknown:1 Arabic:2 Unknown:6 Arabic:4A Common:1 Arabic:1D",
  "Devanagari:51 Inherited:4 Devanagari:F Common:2 Devanagari:1A Bengali:4 Unknown:1 Bengali:8",
  "Unknown:2 Bengali:2 Unknown:2 Bengali:16 Unknown:1 Bengali:7 Unknown:1 Bengali:1 Unknown:3",
  "Bengali:4 Unknown:2 Bengali:9 Unknown:2 Bengali:2 Unknown:2 Bengali:4 Unknown:8 Bengali:1",
  "Unknown:4 Bengali:2 Unknown:1 Bengali:5 Unknown:2 Bengali:19 Unknown:2 Gurmukhi:3 Unknown:1",
  "Gurmukhi:6 Unknown:4 Gurmukhi:2 Unknown:2 Gurmukhi:16 Unknown:1 Gurmukhi:7 Unknown:1",
  "Gurmukhi:2 Unknown:1 Gurmukhi:2 Unknown:1 Gurmukhi:2 Unknown:2 Gurmukhi:1 Unknown:1",
  "Gurmukhi:5 Unknown:4 Gurmukhi:2 Unknown:2 Gurmukhi:3 Unknown:3 Gurmukhi:1 Unknown:7",
  "Gurmukhi:4 Unknown:1 Gurmukhi:1 Unknown:7 Gurmukhi:11 Unknown:A Gujarati:3 Unknown:1",
  "Gujarati:9 Unknown:1 Gujarati:3 Unknown:1 Gujarati:16 Unknown:1 Gujarati:7 Unknown:1",
  "Gujarati:2 Unknown:1 Gujarati:5 Unknown:2 Gujarati:A Unknown:1 Gujarati:3 Unknown:1",
  "Gujarati:3 Unknown:2 Gujarati:1 Unknown:F Gujarati:4 Unknown:2 Gujarati:C Unknown:7",
  "Gujarati:7 Unknown:1 Oriya:3 Unknown:1 Oriya:8 Unknown:2 Oriya:2 Unknown:2 Oriya:16",
  "Unknown:1 Oriya:7 Unknown:1 Oriya:2 Unknown:1 Oriya:5 Unknown:2 Oriya:9 Unknown:2 Oriya:2",
  "Unknown:2 Oriya:3 Unknown:7 Oriya:3 Unknown:4 Oriya:2 Unknown:1 Oriya:5 Unknown:2 Oriya:12",
  "Unknown:A Tamil:2 Unknown:1 Tamil:6 Unknown:3 Tamil:3 Unknown:1 Tamil:4 Unknown:3 Tamil:2",
  "Unknown:1 Tamil:1 Unknown:1 Tamil:2 Unknown:3 Tamil:2 Unknown:3 Tamil:3 Unknown:3 Tamil:C",
  "Unknown:4 Tamil:5 Unknown:3 Tamil:3 Unknown:1 Tamil:4 Unknown:2 Tamil:1 Unknown:6 Tamil:1",
  "Unknown:E Tamil:15 Unknown:5 Telugu:D Unknown:1 Telugu:3 Unknown:1 Telugu:17 Unknown:1",
  "Telugu:10 Unknown:2 Telugu:9 Unknown:1 Telugu:3 Unknown:1 Telugu:4 Unknown:7 Telugu:2",
  "Unknown:1 Telugu:3 Unknown:2 Telugu:1 Unknown:2 Telugu:4 Unknown:2 Telugu:A Unknown:7",
  "Telugu:9 Kannada:D Unknown:1 Kannada:3 Unknown:1 Kannada:17 Unknown:1 Kannada:A Unknown:1",
  "Kannada:5 Unknown:2 Kannada:9 Unknown:1 Kannada:3 Unknown:1 Kannada:4 Unknown:7 Kannada:2",
  "Unknown:6 Kannada:2 Unknown:1 Kannada:4 Unknown:2 Kannada:A Unknown:1 Kannada:3 Unknown:C",
  "Malayalam:D Unknown:1 Malayalam:3 Unknown:1 Malayalam:33 Unknown:1 Malayalam:3 Unknown:1",
  "Malayalam:6 Unknown:4 Malayalam:10 Unknown:2 Malayalam:1A Unknown:1 Sinhala:3 Unknown:1",
  "Sinhala:12 Unknown:3 Sinhala:18 Unknown:1 Sinhala:9 Unknown:1 Sinhala:1 Unknown:2 Sinhala:7",
  "Unknown:3 Sinhala:1 Unknown:4 Sinhala:6 Unknown:1 Sinhala:1 Unknown:1 Sinhala:8 Unknown:6",
  "Sinhala:A Unknown:2 Sinhala:3 Unknown:C Thai:3A Unknown:4 Common:1 Thai:1C Unknown:25 Lao:2",
  "Unknown:1 Lao:1 Unknown:1 Lao:5 Unknown:1 Lao:18 Unknown:1 Lao:1 Unknown:1 Lao:17 Unknown:2",
  "Lao:5 Unknown:1 Lao:1 Unknown:1 Lao:7 Unknown:1 Lao:A Unknown:2 Lao:4 Unknown:20 Tibetan:48",
  "Unknown:1 Tibetan:24 Unknown:4 Tibetan:27 Unknown:1 Tibetan:24 Unknown:1 Tibetan:F Unknown:1",
  "Tibetan:7 Common:4 Tibetan:2 Unknown:25 Myanmar:A0 Georgian:26 Unknown:1 Georgian:1",
  "Unknown:5 Georgian:1 Unknown:2 Georgian:2B Common:1 Georgian:4 Hangul:100 Ethiopic:49",
  "Unknown:1 Ethiopic:4 Unknown:2 Ethiopic:7 Unknown:1 Ethiopic:1 Unknown:1 Ethiopic:4",
  "Unknown:2 Ethiopic:29 Unknown:1 Ethiopic:4 Unknown:2 Ethiopic:21 Unknown:1 Ethiopic:4",
  "Unknown:2 Ethiopic:7 Unknown:1 Ethiopic:1 Unknown:1 Ethiopic:4 Unknown:2 Ethiopic:F",
  "Unknown:1 Ethiopic:39 Unknown:1 Ethiopic:4 Unknown:2 Ethiopic:43 Unknown:2 Ethiopic:20",
  "Unknown:3 Ethiopic:1A Unknown:6 Cherokee:56 Unknown:2 Cherokee:6 Unknown:2",
  "Canadian_Aboriginal:280 Ogham:1D Unknown:3 Runic:4B Common:3 Runic:B Unknown:7 Tagalog:16",
  "Unknown:9 Tagalog:1 Hanunoo:15 Common:2 Unknown:9 Buhid:14 Unknown:C Tagbanwa:D Unknown:1",
  "Tagbanwa:3 Unknown:1 Tagbanwa:2 Unknown:C Khmer:5E Unknown:2 Khmer:A Unknown:6 Khmer:A",
  "Unknown:6 Mongolian:2 Common:2 Mongolian:1 Common:1 Mongolian:14 Unknown:6 Mongolian:59",
  "Unknown:7 Mongolian:2B Unknown:5 Canadian_Aboriginal:46 Unknown:A Limbu:1F Unknown:1 Limbu:C",
  "Unknown:4 Limbu:C Unknown:4 Limbu:1 Unknown:3 Limbu:C Tai_Le:1E Unknown:2 Tai_Le:5 Unknown:B",
  "New_Tai_Lue:2C Unknown:4 New_Tai_Lue:1A Unknown:6 New_Tai_Lue:B Unknown:3 New_Tai_Lue:2",
  "Khmer:20 Buginese:1C Unknown:2 Buginese:2 Tai_Tham:3F Unknown:1 Tai_Tham:1D Unknown:2",
  "Tai_Tham:B Unknown:6 Tai_Tham:A Unknown:6 Tai_Tham:E Unknown:2 Inherited:1F Unknown:31",
  "Balinese:4D Unknown:3 Balinese:2F Unknown:1 Sundanese:40 Batak:34 Unknown:8 Batak:4",
  "Lepcha:38 Unknown:3 Lepcha:F Unknown:3 Lepcha:3 Ol_Chiki:30 Cyrillic:9 Unknown:7 Georgian:2B",
  "Unknown:2 Georgian:3 Sundanese:8 Unknown:8 Inherited:3 Common:1 Inherited:D Common:1",
  "Inherited:7 Common:4 Inherited:1 Common:6 Inherited:1 Common:3 Inherited:2 Common:1",
  "Unknown:5 Latin:26 Greek:5 Cyrillic:1 Latin:31 Greek:5 Latin:4 Greek:5 Latin:D Cyrillic:1",
  "Latin:46 Greek:1 Inherited:40 Latin:100 Greek:16 Unknown:2 Greek:6 Unknown:2 Greek:26",
  "Unknown:2 Greek:6 Unknown:2 Greek:8 Unknown:1 Greek:1 Unknown:1 Greek:1 Unknown:1 Greek:1",
  "Unknown:1 Greek:1F Unknown:2 Greek:35 Unknown:1 Greek:F Unknown:1 Greek:E Unknown:2 Greek:6",
  "Unknown:1 Greek:13 Unknown:2 Greek:3 Unknown:1 Greek:9 Unknown:1 Common:C Inherited:2",
  "Common:57 Unknown:1 Common:B Latin:1 Unknown:2 Common:B Latin:1 Common:F Unknown:1 Latin:D",
  "Unknown:3 Common:21 Unknown:F Inherited:21 Unknown:F Common:26 Greek:1 Common:3 Latin:2",
  "Common:6 Latin:1 Common:1B Latin:1 Common:11 Latin:29 Common:3 Unknown:4 Common:297",
  "Unknown:19 Common:B Unknown:15 Common:3A0 Braille:100 Common:274 Unknown:2 Common:20",
  "Unknown:1 Common:69 Glagolitic:60 Latin:20 Coptic:74 Unknown:5 Coptic:7 Georgian:26",
  "Unknown:1 Georgian:1 Unknown:5 Georgian:1 Unknown:2 Tifinagh:38 Unknown:7 Tifinagh:2",
  "Unknown:E Tifinagh:1 Ethiopic:17 Unknown:9 Ethiopic:7 Unknown:1 Ethiopic:7 Unknown:1",
  "Ethiopic:7 Unknown:1 Ethiopic:7 Unknown:1 Ethiopic:7 Unknown:1 Ethiopic:7 Unknown:1",
  "Ethiopic:7 Unknown:1 Ethiopic:7 Unknown:1 Cyrillic:20 Common:5E Unknown:22 Han:1A Unknown:1",
  "Han:59 Unknown:C Han:D6 Unknown:1A Common:C Unknown:4 Common:5 Han:1 Common:1 Han:1",
  "Common:19 Han:9 Inherited:4 Hangul:2 Common:8 Han:4 Common:4 Unknown:1 Hiragana:56 Unknown:2",
  "Inherited:2 Common:2 Hiragana:3 Common:1 Katakana:5A Common:2 Katakana:3 Unknown:5",
  "Bopomofo:2B Unknown:1 Hangul:5E Unknown:1 Common:10 Bopomofo:20 Common:24 Unknown:C",
  "Katakana:10 Hangul:1F Unknown:1 Common:40 Hangul:1F Common:51 Katakana:2F Common:1",
  "Katakana:58 Common:A8 Han:19C0 Common:40 Han:5200 Yi:48D Unknown:3 Yi:37 Unknown:9 Lisu:30",
  "Vai:12C Unknown:14 Cyrillic:60 Bamum:58 Unknown:8 Common:22 Latin:66 Common:3 Latin:40",
  "Unknown:5 Latin:2 Unknown:1 Latin:1 Unknown:1 Latin:5 Unknown:18 Latin:E Syloti_Nagri:2D",
  "Unknown:3 Common:A Unknown:6 Phags_Pa:38 Unknown:8 Saurashtra:46 Unknown:8 Saurashtra:C",
  "Unknown:6 Devanagari:20 Kayah_Li:2E Common:1 Kayah_Li:1 Rejang:24 Unknown:B Rejang:1",
  "Hangul:1D Unknown:3 Javanese:4E Unknown:1 Common:1 Javanese:A Unknown:4 Javanese:2",
  "Myanmar:1F Unknown:1 Cham:37 Unknown:9 Cham:E Unknown:2 Cham:A Unknown:2 Cham:4 Myanmar:20",
  "Tai_Viet:43 Unknown:18 Tai_Viet:5 Meetei_Mayek:17 Unknown:A Ethiopic:6 Unknown:2 Ethiopic:6",
  "Unknown:2 Ethiopic:6 Unknown:9 Ethiopic:7 Unknown:1 Ethiopic:7 Unknown:1 Latin:2B Common:1",
  "Latin:9 Greek:1 Latin:4 Common:2 Unknown:4 Cherokee:50 Meetei_Mayek:2E Unknown:2",
  "Meetei_Mayek:A Unknown:6 Hangul:2BA4 Unknown:C Hangul:17 Unknown:4 Hangul:31 Unknown:2104",
  "Han:16E Unknown:2 Han:6A Unknown:26 Latin:7 Unknown:C Armenian:5 Unknown:5 Hebrew:1A",
  "Unknown:1 Hebrew:5 Unknown:1 Hebrew:1 Unknown:1 Hebrew:2 Unknown:1 Hebrew:2 Unknown:1",
  "Hebrew:A Arabic:73 Unknown:10 Arabic:16B Common:2 Arabic:50 Unknown:2 Arabic:36 Unknown:7",
  "Arabic:1 Unknown:20 Arabic:10 Inherited:10 Common:A Unknown:6 Inherited:E Cyrillic:2",
  "Common:23 Unknown:1 Common:13 Unknown:1 Common:4 Unknown:4 Arabic:5 Unknown:1 Arabic:87",
  "Unknown:2 Common:1 Unknown:1 Common:20 Latin:1A Common:6 Latin:1A Common:B Katakana:A",
  "Common:1 Katakana:2D Common:2 Hangul:1F Unknown:3 Hangul:6 Unknown:2 Hangul:6 Unknown:2",
  "Hangul:6 Unknown:2 Hangul:3 Unknown:3 Common:7 Unknown:1 Common:7 Unknown:A Common:5",
  "Unknown:2 Linear_B:C Unknown:1 Linear_B:1A Unknown:1 Linear_B:13 Unknown:1 Linear_B:2",
  "Unknown:1 Linear_B:F Unknown:2 Linear_B:E Unknown:22 Linear_B:7B Unknown:5 Common:3",
  "Unknown:4 Common:2D Unknown:3 Common:9 Greek:4F Unknown:1 Common:D Unknown:3 Greek:1",
  "Unknown:2F Common:2D Inherited:1 Unknown:82 Lycian:1D Unknown:3 Carian:31 Unknown:F",
  "Inherited:1 Common:1B Unknown:4 Old_Italic:24 Unknown:9 Old_Italic:3 Gothic:1B Unknown:5",
  "Old_Permic:2B Unknown:5 Ugaritic:1E Unknown:1 Ugaritic:1 Old_Persian:24 Unknown:4",
  "Old_Persian:E Unknown:2A Deseret:50 Shavian:30 Osmanya:1E Unknown:2 Osmanya:A Unknown:6",
  "Osage:24 Unknown:4 Osage:24 Unknown:4 Elbasan:28 Unknown:8 Caucasian_Albanian:34 Unknown:B",
  "Caucasian_Albanian:1 Vithkuqi:B Unknown:1 Vithkuqi:F Unknown:1 Vithkuqi:7 Unknown:1",
  "Vithkuqi:2 Unknown:1 Vithkuqi:B Unknown:1 Vithkuqi:F Unknown:1 Vithkuqi:7 Unknown:1",
  "Vithkuqi:2 Unknown:43 Linear_A:137 Unknown:9 Linear_A:16 Unknown:A Linear_A:8 Unknown:18",
  "Latin:6 Unknown:1 Latin:2A Unknown:1 Latin:9 Unknown:45 Cypriot:6 Unknown:2 Cypriot:1",
  "Unknown:1 Cypriot:2C Unknown:1 Cypriot:2 Unknown:3 Cypriot:1 Unknown:2 Cypriot:1",
  "Imperial_Aramaic:16 Unknown:1 Imperial_Aramaic:9 Palmyrene:20 Nabataean:1F Unknown:8",
  "Nabataean:9 Unknown:30 Hatran:13 Unknown:1 Hatran:2 Unknown:5 Hatran:5 Phoenician:1C",
  "Unknown:3 Phoenician:1 Lydian:1A Unknown:5 Lydian:1 Unknown:40 Meroitic_Hieroglyphs:20",
  "Meroitic_Cursive:18 Unknown:4 Meroitic_Cursive:14 Unknown:2 Meroitic_Cursive:2E Kharoshthi:4",
  "Unknown:1 Kharoshthi:2 Unknown:5 Kharoshthi:8 Unknown:1 Kharoshthi:3 Unknown:1 Kharoshthi:1D",
  "Unknown:2 Kharoshthi:3 Unknown:4 Kharoshthi:A Unknown:7 Kharoshthi:9 Unknown:7",
  "Old_South_Arabian:20 Old_North_Arabian:20 Unknown:20 Manichaean:27 Unknown:4 Manichaean:C",
  "Unknown:9 Avestan:36 Unknown:3 Avestan:7 Inscriptional_Parthian:16 Unknown:2",
  "Inscriptional_Parthian:8 Inscriptional_Pahlavi:13 Unknown:5 Inscriptional_Pahlavi:8",
  "Psalter_Pahlavi:12 Unknown:7 Psalter_Pahlavi:4 Unknown:C Psalter_Pahlavi:7 Unknown:50",
  "Old_Turkic:49 Unknown:37 Old_Hungarian:33 Unknown:D Old_Hungarian:33 Unknown:7",
  "Old_Hungarian:6 Hanifi_Rohingya:28 Unknown:8 Hanifi_Rohingya:A Unknown:126 Arabic:1F",
  "Unknown:1 Yezidi:2A Unknown:1 Yezidi:3 Unknown:2 Yezidi:2 Unknown:4B Arabic:3 Old_Sogdian:28",
  "Unknown:8 Sogdian:2A Unknown:16 Old_Uyghur:1A Unknown:26 Chorasmian:1C Unknown:14 Elymaic:17",
  "Unknown:9 Brahmi:4E Unknown:4 Brahmi:24 Unknown:9 Brahmi:1 Kaithi:43 Unknown:A Kaithi:1",
  "Unknown:2 Sora_Sompeng:19 Unknown:7 Sora_Sompeng:A Unknown:6 Chakma:35 Unknown:1 Chakma:12",
  "Unknown:8 Mahajani:27 Unknown:9 Sharada:60 Unknown:1 Sinhala:14 Unknown:B Khojki:12",
  "Unknown:1 Khojki:2F Unknown:3E Multani:7 Unknown:1 Multani:1 Unknown:1 Multani:4 Unknown:1",
  "Multani:F Unknown:1 Multani:B Unknown:6 Khudawadi:3B Unknown:5 Khudawadi:A Unknown:6",
  "Grantha:4 Unknown:1 Grantha:8 Unknown:2 Grantha:2 Unknown:2 Grantha:16 Unknown:1 Grantha:7",
  "Unknown:1 Grantha:2 Unknown:1 Grantha:5 Unknown:1 Inherited:1 Grantha:9 Unknown:2 Grantha:2",
  "Unknown:2 Grantha:3 Unknown:2 Grantha:1 Unknown:6 Grantha:1 Unknown:5 Grantha:7 Unknown:2",
  "Grantha:7 Unknown:3 Grantha:5 Unknown:8B Newa:5C Unknown:1 Newa:5 Unknown:1E Tirhuta:48",
  "Unknown:8 Tirhuta:A Unknown:A6 Siddham:36 Unknown:2 Siddham:26 Unknown:22 Modi:45 Unknown:B",
  "Modi:A Unknown:6 Mongolian:D Unknown:13 Takri:3A Unknown:6 Takri:A Unknown:36 Ahom:1B",
  "Unknown:2 Ahom:F Unknown:4 Ahom:17 Unknown:B9 Dogra:3C Unknown:64 Warang_Citi:53 Unknown:C",
  "Warang_Citi:1 Dives_Akuru:7 Unknown:2 Dives_Akuru:1 Unknown:2 Dives_Akuru:8 Unknown:1",
  "Dives_Akuru:2 Unknown:1 Dives_Akuru:1E Unknown:1 Dives_Akuru:2 Unknown:2 Dives_Akuru:C",
  "Unknown:9 Dives_Akuru:A Unknown:46 Nandinagari:8 Unknown:2 Nandinagari:2E Unknown:2",
  "Nandinagari:B Unknown:1B Zanabazar_Square:48 Unknown:8 Soyombo:53 Unknown:D",
  "Canadian_Aboriginal:10 Pau_Cin_Hau:39 Unknown:7 Devanagari:A Unknown:F6 Bhaiksuki:9",
  "Unknown:1 Bhaiksuki:2D Unknown:1 Bhaiksuki:E Unknown:A Bhaiksuki:1D Unknown:3 Marchen:20",
  "Unknown:2 Marchen:16 Unknown:1 Marchen:E Unknown:49 Masaram_Gondi:7 Unknown:1",
  "Masaram_Gondi:2 Unknown:1 Masaram_Gondi:2C Unknown:3 Masaram_Gondi:1 Unknown:1",
  "Masaram_Gondi:2 Unknown:1 Masaram_Gondi:9 Unknown:8 Masaram_Gondi:A Unknown:6",
  "Gunjala_Gondi:6 Unknown:1 Gunjala_Gondi:2 Unknown:1 Gunjala_Gondi:25 Unknown:1",
  "Gunjala_Gondi:2 Unknown:1 Gunjala_Gondi:6 Unknown:7 Gunjala_Gondi:A Unknown:136 Makasar:19",
  "Unknown:7 Kawi:11 Unknown:1 Kawi:29 Unknown:3 Kawi:1C Unknown:56 Lisu:1 Unknown:F Tamil:32",
  "Unknown:D Tamil:1 Cuneiform:39A Unknown:66 Cuneiform:6F Unknown:1 Cuneiform:5 Unknown:B",
  "Cuneiform:C4 Unknown:A4C Cypro_Minoan:63 Unknown:D Egyptian_Hieroglyphs:456 Unknown:FAA",
  "Anatolian_Hieroglyphs:247 Unknown:21B9 Bamum:239 Unknown:7 Mro:1F Unknown:1 Mro:A Unknown:4",
  "Mro:2 Tangsa:4F Unknown:1 Tangsa:A Unknown:6 Bassa_Vah:1E Unknown:2 Bassa_Vah:6 Unknown:A",
  "Pahawh_Hmong:46 Unknown:A Pahawh_Hmong:A Unknown:1 Pahawh_Hmong:7 Unknown:1 Pahawh_Hmong:15",
  "Unknown:5 Pahawh_Hmong:13 Unknown:2B0 Medefaidrin:5B Unknown:65 Miao:4B Unknown:4 Miao:39",
  "Unknown:7 Miao:11 Unknown:40 Tangut:1 Nushu:1 Han:2 Khitan_Small_Script:1 Unknown:B Han:2",
  "Unknown:E Tangut:17F8 Unknown:8 Tangut:300 Khitan_Small_Script:1D6 Unknown:2A Tangut:9",
  "Unknown:22E7 Katakana:4 Unknown:1 Katakana:7 Unknown:1 Katakana:2 Unknown:1 Katakana:1",
  "Hiragana:11F Katakana:3 Unknown:F Hiragana:1 Unknown:1D Hiragana:3 Unknown:2 Katakana:1",
  "Unknown:E Katakana:4 Unknown:8 Nushu:18C Unknown:904 Duployan:6B Unknown:5 Duployan:D",
  "Unknown:3 Duployan:9 Unknown:7 Duployan:A Unknown:2 Duployan:4 Common:4 Unknown:125C",
  "Inherited:2E Unknown:2 Inherited:17 Unknown:9 Common:74 Unknown:3C Common:F6 Unknown:A",
  "Common:27 Unknown:2 Common:3E Inherited:3 Common:11 Inherited:8 Common:2 Inherited:7",
  "Common:1E Inherited:4 Common:3D Unknown:15 Greek:46 Unknown:7A Common:14 Unknown:C Common:14",
  "Unknown:C Common:57 Unknown:9 Common:19 Unknown:87 Common:55 Unknown:1 Common:47 Unknown:1",
  "Common:2 Unknown:2 Common:1 Unknown:2 Common:2 Unknown:2 Common:4 Unknown:1 Common:C",
  "Unknown:1 Common:1 Unknown:1 Common:7 Unknown:1 Common:41 Unknown:1 Common:4 Unknown:2",
  "Common:8 Unknown:1 Common:7 Unknown:1 Common:1C Unknown:1 Common:4 Unknown:1 Common:5",
  "Unknown:1 Common:1 Unknown:3 Common:7 Unknown:1 Common:154 Unknown:2 Common:124 Unknown:2",
  "Common:32 SignWriting:28C Unknown:F SignWriting:5 Unknown:1 SignWriting:F Unknown:450",
  "Latin:1F Unknown:6 Latin:6 Unknown:D5 Glagolitic:7 Unknown:1 Glagolitic:11 Unknown:2",
  "Glagolitic:7 Unknown:1 Glagolitic:2 Unknown:1 Glagolitic:5 Unknown:5 Cyrillic:3E Unknown:21",
  "Cyrillic:1 Unknown:70 Nyiakeng_Puachue_Hmong:2D Unknown:3 Nyiakeng_Puachue_Hmong:E Unknown:2",
  "Nyiakeng_Puachue_Hmong:A Unknown:4 Nyiakeng_Puachue_Hmong:2 Unknown:140 Toto:1F Unknown:11",
  "Wancho:3A Unknown:5 Wancho:1 Unknown:1D0 Nag_Mundari:2A Unknown:2E6 Ethiopic:7 Unknown:1",
  "Ethiopic:4 Unknown:1 Ethiopic:2 Unknown:1 Ethiopic:F Unknown:1 Mende_Kikakui:C5 Unknown:2",
  "Mende_Kikakui:10 Unknown:29 Adlam:4C Unknown:4 Adlam:A Unknown:4 Adlam:2 Unknown:311",
  "Common:44 Unknown:4C Common:3D Unknown:C2 Arabic:4 Unknown:1 Arabic:1B Unknown:1 Arabic:2",
  "Unknown:1 Arabic:1 Unknown:2 Arabic:1 Unknown:1 Arabic:A Unknown:1 Arabic:4 Unknown:1",
  "Arabic:1 Unknown:1 Arabic:1 Unknown:6 Arabic:1 Unknown:4 Arabic:1 Unknown:1 Arabic:1",
  "Unknown:1 Arabic:1 Unknown:1 Arabic:3 Unknown:1 Arabic:2 Unknown:1 Arabic:1 Unknown:2",
  "Arabic:1 Unknown:1 Arabic:1 Unknown:1 Arabic:1 Unknown:1 Arabic:1 Unknown:1 Arabic:1",
  "Unknown:1 Arabic:2 Unknown:1 Arabic:1 Unknown:2 Arabic:4 Unknown:1 Arabic:7 Unknown:1",
  "Arabic:4 Unknown:1 Arabic:4 Unknown:1 Arabic:1 Unknown:1 Arabic:A Unknown:1 Arabic:11",
  "Unknown:5 Arabic:3 Unknown:1 Arabic:5 Unknown:1 Arabic:11 Unknown:34 Arabic:2 Unknown:10E",
  "Common:2C Unknown:4 Common:64 Unknown:C Common:F Unknown:2 Common:F Unknown:1 Common:F",
  "Unknown:1 Common:25 Unknown:A Common:AE Unknown:38 Common:1A Hiragana:1 Common:2 Unknown:D",
  "Common:2C Unknown:4 Common:9 Unknown:7 Common:2 Unknown:E Common:6 Unknown:9A Common:3D8",
  "Unknown:4 Common:11 Unknown:3 Common:D Unknown:3 Common:77 Unknown:4 Common:5F Unknown:6",
  "Common:C Unknown:4 Common:1 Unknown:F Common:C Unknown:4 Common:38 Unknown:8 Common:A",
  "Unknown:6 Common:28 Unknown:8 Common:1E Unknown:2 Common:2 Unknown:4E Common:154 Unknown:C",
  "Common:E Unknown:2 Common:D Unknown:3 Common:9 Unknown:7 Common:2E Unknown:1 Common:7",
  "Unknown:8 Common:E Unknown:4 Common:9 Unknown:7 Common:9 Unknown:7 Common:93 Unknown:1",
  "Common:37 Unknown:25 Common:A Unknown:406 Han:A6E0 Unknown:20 Han:103A Unknown:6 Han:DE",
  "Unknown:2 Han:1682 Unknown:E Han:1D31 Unknown:C1F Han:21E Unknown:5E2 Han:134B Unknown:5",
  "Han:1060 Unknown:ADC51 Common:1 Unknown:1E Common:60 Unknown:80 Inherited:F0 Unknown:2FE10",
  "Unknown:0"]

def scriptNames : List String := [
  "Adlm:Adlam Aghb:Caucasian_Albanian Arab:Arabic Armi:Imperial_Aramaic Armn:Armenian",
  "Avst:Avestan Bali:Balinese Bamu:Bamum Bass:Bassa_Vah Batk:Batak Beng:Bengali Bhks:Bhaiksuki",
  "Bopo:Bopomofo Brah:Brahmi Brai:Braille Bugi:Buginese Buhd:Buhid Cakm:Chakma",
  "Cans:Canadian_Aboriginal Cari:Carian Cher:Cherokee Chrs:Chorasmian Copt:Coptic Qaac:Coptic",
  "Cpmn:Cypro_Minoan Cprt:Cypriot Cyrl:Cyrillic Deva:Devanagari Diak:Dives_Akuru Dogr:Dogra",
  "Dsrt:Deseret Dupl:Duployan Egyp:Egyptian_Hieroglyphs Elba:Elbasan Elym:Elymaic Ethi:Ethiopic",
  "Geor:Georgian Glag:Glagolitic Gong:Gunjala_Gondi Gonm:Masaram_Gondi Goth:Gothic Gran:Grantha",
  "Grek:Greek Gujr:Gujarati Guru:Gurmukhi Hang:Hangul Hani:Han Hano:Hanunoo Hatr:Hatran",
  "Hebr:Hebrew Hira:Hiragana Hluw:Anatolian_Hieroglyphs Hmng:Pahawh_Hmong",
  "Hmnp:Nyiakeng_Puachue_Hmong Hung:Old_Hungarian Ital:Old_Italic Java:Javanese Kali:Kayah_Li",
  "Kana:Katakana Khar:Kharoshthi Khmr:Khmer Khoj:Khojki Kits:Khitan_Small_Script Knda:Kannada",
  "Kthi:Kaithi Lana:Tai_Tham Laoo:Lao Latn:Latin Lepc:Lepcha Limb:Limbu Lina:Linear_A",
  "Linb:Linear_B Lyci:Lycian Lydi:Lydian Mahj:Mahajani Maka:Makasar Mand:Mandaic",
  "Mani:Manichaean Marc:Marchen Medf:Medefaidrin Mend:Mende_Kikakui Merc:Meroitic_Cursive",
  "Mero:Meroitic_Hieroglyphs Mlym:Malayalam Mong:Mongolian Mroo:Mro Mtei:Meetei_Mayek",
  "Mult:Multani Mymr:Myanmar Nagm:Nag_Mundari Nand:Nandinagari Narb:Old_North_Arabian",
  "Nbat:Nabataean Nkoo:Nko Nshu:Nushu Ogam:Ogham Olck:Ol_Chiki Orkh:Old_Turkic Orya:Oriya",
  "Osge:Osage Osma:Osmanya Ougr:Old_Uyghur Palm:Palmyrene Pauc:Pau_Cin_Hau Perm:Old_Permic",
  "Phag:Phags_Pa Phli:Inscriptional_Pahlavi Phlp:Psalter_Pahlavi Phnx:Phoenician Plrd:Miao",
  "Prti:Inscriptional_Parthian Rjng:Rejang Rohg:Hanifi_Rohingya Runr:Runic Samr:Samaritan",
  "Sarb:Old_South_Arabian Saur:Saurashtra Sgnw:SignWriting Shaw:Shavian Shrd:Sharada",
  "Sidd:Siddham Sind:Khudawadi Sinh:Sinhala Sogd:Sogdian Sogo:Old_Sogdian Sora:Sora_Sompeng",
  "Soyo:Soyombo Sund:Sundanese Sylo:Syloti_Nagri Syrc:Syriac Tagb:Tagbanwa Takr:Takri",
  "Tale:Tai_Le Talu:New_Tai_Lue Taml:Tamil Tang:Tangut Tavt:Tai_Viet Telu:Telugu Tfng:Tifinagh",
  "Tglg:Tagalog Thaa:Thaana Tibt:Tibetan Tirh:Tirhuta Tnsa:Tangsa Ugar:Ugaritic Vaii:Vai",
  "Vith:Vithkuqi Wara:Warang_Citi Wcho:Wancho Xpeo:Old_Persian Xsux:Cuneiform Yezi:Yezidi",
  "Yiii:Yi Zanb:Zanabazar_Square Zinh:Inherited Qaai:Inherited Zyyy:Common"]

end Rulebook.Unicode
