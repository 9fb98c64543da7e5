import LogBrowser.Unicode.CodeSet

/-!
# Scripts

The Script and Script_Extensions properties of Unicode 16.0. A script is known by its number in
`scriptNames`, which lists every name and alias of each script. The script table gives each
interval one script (a code point in no interval has the script Unknown); the extension table
gives each interval the scripts whose text it may appear in.
-/

namespace LogBrowser.Unicode

/-- The names of each script: its long name first, then its aliases. -/
def scriptNames : List (List String) :=
  [["Adlam", "Adlm"],
    ["Ahom"],
    ["Anatolian_Hieroglyphs", "Hluw"],
    ["Arabic", "Arab"],
    ["Armenian", "Armn"],
    ["Avestan", "Avst"],
    ["Balinese", "Bali"],
    ["Bamum", "Bamu"],
    ["Bassa_Vah", "Bass"],
    ["Batak", "Batk"],
    ["Bengali", "Beng"],
    ["Bhaiksuki", "Bhks"],
    ["Bopomofo", "Bopo"],
    ["Brahmi", "Brah"],
    ["Braille", "Brai"],
    ["Buginese", "Bugi"],
    ["Buhid", "Buhd"],
    ["Canadian_Aboriginal", "Cans"],
    ["Carian", "Cari"],
    ["Caucasian_Albanian", "Aghb"],
    ["Chakma", "Cakm"],
    ["Cham"],
    ["Cherokee", "Cher"],
    ["Chorasmian", "Chrs"],
    ["Common", "Zyyy"],
    ["Coptic", "Copt", "Qaac"],
    ["Cuneiform", "Xsux"],
    ["Cypriot", "Cprt"],
    ["Cypro_Minoan", "Cpmn"],
    ["Cyrillic", "Cyrl"],
    ["Deseret", "Dsrt"],
    ["Devanagari", "Deva"],
    ["Dives_Akuru", "Diak"],
    ["Dogra", "Dogr"],
    ["Duployan", "Dupl"],
    ["Egyptian_Hieroglyphs", "Egyp"],
    ["Elbasan", "Elba"],
    ["Elymaic", "Elym"],
    ["Ethiopic", "Ethi"],
    ["Garay", "Gara"],
    ["Georgian", "Geor"],
    ["Glagolitic", "Glag"],
    ["Gothic", "Goth"],
    ["Grantha", "Gran"],
    ["Greek", "Grek"],
    ["Gujarati", "Gujr"],
    ["Gunjala_Gondi", "Gong"],
    ["Gurmukhi", "Guru"],
    ["Gurung_Khema", "Gukh"],
    ["Han", "Hani"],
    ["Hangul", "Hang"],
    ["Hanifi_Rohingya", "Rohg"],
    ["Hanunoo", "Hano"],
    ["Hatran", "Hatr"],
    ["Hebrew", "Hebr"],
    ["Hiragana", "Hira"],
    ["Imperial_Aramaic", "Armi"],
    ["Inherited", "Zinh", "Qaai"],
    ["Inscriptional_Pahlavi", "Phli"],
    ["Inscriptional_Parthian", "Prti"],
    ["Javanese", "Java"],
    ["Kaithi", "Kthi"],
    ["Kannada", "Knda"],
    ["Katakana", "Kana"],
    ["Kawi"],
    ["Kayah_Li", "Kali"],
    ["Kharoshthi", "Khar"],
    ["Khitan_Small_Script", "Kits"],
    ["Khmer", "Khmr"],
    ["Khojki", "Khoj"],
    ["Khudawadi", "Sind"],
    ["Kirat_Rai", "Krai"],
    ["Lao", "Laoo"],
    ["Latin", "Latn"],
    ["Lepcha", "Lepc"],
    ["Limbu", "Limb"],
    ["Linear_A", "Lina"],
    ["Linear_B", "Linb"],
    ["Lisu"],
    ["Lycian", "Lyci"],
    ["Lydian", "Lydi"],
    ["Mahajani", "Mahj"],
    ["Makasar", "Maka"],
    ["Malayalam", "Mlym"],
    ["Mandaic", "Mand"],
    ["Manichaean", "Mani"],
    ["Marchen", "Marc"],
    ["Masaram_Gondi", "Gonm"],
    ["Medefaidrin", "Medf"],
    ["Meetei_Mayek", "Mtei"],
    ["Mende_Kikakui", "Mend"],
    ["Meroitic_Cursive", "Merc"],
    ["Meroitic_Hieroglyphs", "Mero"],
    ["Miao", "Plrd"],
    ["Modi"],
    ["Mongolian", "Mong"],
    ["Mro", "Mroo"],
    ["Multani", "Mult"],
    ["Myanmar", "Mymr"],
    ["Nabataean", "Nbat"],
    ["Nag_Mundari", "Nagm"],
    ["Nandinagari", "Nand"],
    ["New_Tai_Lue", "Talu"],
    ["Newa"],
    ["Nko", "Nkoo"],
    ["Nushu", "Nshu"],
    ["Nyiakeng_Puachue_Hmong", "Hmnp"],
    ["Ogham", "Ogam"],
    ["Ol_Chiki", "Olck"],
    ["Ol_Onal", "Onao"],
    ["Old_Hungarian", "Hung"],
    ["Old_Italic", "Ital"],
    ["Old_North_Arabian", "Narb"],
    ["Old_Permic", "Perm"],
    ["Old_Persian", "Xpeo"],
    ["Old_Sogdian", "Sogo"],
    ["Old_South_Arabian", "Sarb"],
    ["Old_Turkic", "Orkh"],
    ["Old_Uyghur", "Ougr"],
    ["Oriya", "Orya"],
    ["Osage", "Osge"],
    ["Osmanya", "Osma"],
    ["Pahawh_Hmong", "Hmng"],
    ["Palmyrene", "Palm"],
    ["Pau_Cin_Hau", "Pauc"],
    ["Phags_Pa", "Phag"],
    ["Phoenician", "Phnx"],
    ["Psalter_Pahlavi", "Phlp"],
    ["Rejang", "Rjng"],
    ["Runic", "Runr"],
    ["Samaritan", "Samr"],
    ["Saurashtra", "Saur"],
    ["Sharada", "Shrd"],
    ["Shavian", "Shaw"],
    ["Siddham", "Sidd"],
    ["SignWriting", "Sgnw"],
    ["Sinhala", "Sinh"],
    ["Sogdian", "Sogd"],
    ["Sora_Sompeng", "Sora"],
    ["Soyombo", "Soyo"],
    ["Sundanese", "Sund"],
    ["Sunuwar", "Sunu"],
    ["Syloti_Nagri", "Sylo"],
    ["Syriac", "Syrc"],
    ["Tagalog", "Tglg"],
    ["Tagbanwa", "Tagb"],
    ["Tai_Le", "Tale"],
    ["Tai_Tham", "Lana"],
    ["Tai_Viet", "Tavt"],
    ["Takri", "Takr"],
    ["Tamil", "Taml"],
    ["Tangsa", "Tnsa"],
    ["Tangut", "Tang"],
    ["Telugu", "Telu"],
    ["Thaana", "Thaa"],
    ["Thai"],
    ["Tibetan", "Tibt"],
    ["Tifinagh", "Tfng"],
    ["Tirhuta", "Tirh"],
    ["Todhri", "Todr"],
    ["Toto"],
    ["Tulu_Tigalari", "Tutg"],
    ["Ugaritic", "Ugar"],
    ["Unknown", "Zzzz"],
    ["Vai", "Vaii"],
    ["Vithkuqi", "Vith"],
    ["Wancho", "Wcho"],
    ["Warang_Citi", "Wara"],
    ["Yezidi", "Yezi"],
    ["Yi", "Yiii"],
    ["Zanabazar_Square", "Zanb"]]

/-- The script of each interval, by number. -/
def scriptTable : CodeMap Nat := CodeMap.ofHex (fun s => some (readHex s))
  (" ".intercalate [
    "0-40:18 41-5A:49 5B-60:18 61-7A:49 7B-A9:18 AA:49 AB-B9:18 BA:49 BB-BF:18 C0-D6:49 D7:18",
    "D8-F6:49 F7:18 F8-2B8:49 2B9-2DF:18 2E0-2E4:49 2E5-2E9:18 2EA-2EB:C 2EC-2FF:18 300-36F:39",
    "370-373:2C 374:18 375-377:2C 37A-37D:2C 37E:18 37F:2C 384:2C 385:18 386:2C 387:18",
    "388-38A:2C 38C:2C 38E-3A1:2C 3A3-3E1:2C 3E2-3EF:19 3F0-3FF:2C 400-484:1D 485-486:39",
    "487-52F:1D 531-556:4 559-58A:4 58D-58F:4 591-5C7:36 5D0-5EA:36 5EF-5F4:36 600-604:3 605:18",
    "606-60B:3 60C:18 60D-61A:3 61B:18 61C-61E:3 61F:18 620-63F:3 640:18 641-64A:3 64B-655:39",
    "656-66F:3 670:39 671-6DC:3 6DD:18 6DE-6FF:3 700-70D:8F 70F-74A:8F 74D-74F:8F 750-77F:3",
    "780-7B1:9A 7C0-7FA:68 7FD-7FF:68 800-82D:82 830-83E:82 840-85B:54 85E:54 860-86A:8F",
    "870-88E:3 890-891:3 897-8E1:3 8E2:18 8E3-8FF:3 900-950:1F 951-954:39 955-963:1F 964-965:18",
    "966-97F:1F 980-983:A 985-98C:A 98F-990:A 993-9A8:A 9AA-9B0:A 9B2:A 9B6-9B9:A 9BC-9C4:A",
    "9C7-9C8:A 9CB-9CE:A 9D7:A 9DC-9DD:A 9DF-9E3:A 9E6-9FE:A A01-A03:2F A05-A0A:2F A0F-A10:2F",
    "A13-A28:2F A2A-A30:2F A32-A33:2F A35-A36:2F A38-A39:2F A3C:2F A3E-A42:2F A47-A48:2F",
    "A4B-A4D:2F A51:2F A59-A5C:2F A5E:2F A66-A76:2F A81-A83:2D A85-A8D:2D A8F-A91:2D A93-AA8:2D",
    "AAA-AB0:2D AB2-AB3:2D AB5-AB9:2D ABC-AC5:2D AC7-AC9:2D ACB-ACD:2D AD0:2D AE0-AE3:2D",
    "AE6-AF1:2D AF9-AFF:2D B01-B03:77 B05-B0C:77 B0F-B10:77 B13-B28:77 B2A-B30:77 B32-B33:77",
    "B35-B39:77 B3C-B44:77 B47-B48:77 B4B-B4D:77 B55-B57:77 B5C-B5D:77 B5F-B63:77 B66-B77:77",
    "B82-B83:96 B85-B8A:96 B8E-B90:96 B92-B95:96 B99-B9A:96 B9C:96 B9E-B9F:96 BA3-BA4:96",
    "BA8-BAA:96 BAE-BB9:96 BBE-BC2:96 BC6-BC8:96 BCA-BCD:96 BD0:96 BD7:96 BE6-BFA:96 C00-C0C:99",
    "C0E-C10:99 C12-C28:99 C2A-C39:99 C3C-C44:99 C46-C48:99 C4A-C4D:99 C55-C56:99 C58-C5A:99",
    "C5D:99 C60-C63:99 C66-C6F:99 C77-C7F:99 C80-C8C:3E C8E-C90:3E C92-CA8:3E CAA-CB3:3E",
    "CB5-CB9:3E CBC-CC4:3E CC6-CC8:3E CCA-CCD:3E CD5-CD6:3E CDD-CDE:3E CE0-CE3:3E CE6-CEF:3E",
    "CF1-CF3:3E D00-D0C:53 D0E-D10:53 D12-D44:53 D46-D48:53 D4A-D4F:53 D54-D63:53 D66-D7F:53",
    "D81-D83:88 D85-D96:88 D9A-DB1:88 DB3-DBB:88 DBD:88 DC0-DC6:88 DCA:88 DCF-DD4:88 DD6:88",
    "DD8-DDF:88 DE6-DEF:88 DF2-DF4:88 E01-E3A:9B E3F:18 E40-E5B:9B E81-E82:48 E84:48 E86-E8A:48",
    "E8C-EA3:48 EA5:48 EA7-EBD:48 EC0-EC4:48 EC6:48 EC8-ECE:48 ED0-ED9:48 EDC-EDF:48 F00-F47:9C",
    "F49-F6C:9C F71-F97:9C F99-FBC:9C FBE-FCC:9C FCE-FD4:9C FD5-FD8:18 FD9-FDA:9C 1000-109F:62",
    "10A0-10C5:28 10C7:28 10CD:28 10D0-10FA:28 10FB:18 10FC-10FF:28 1100-11FF:32 1200-1248:26",
    "124A-124D:26 1250-1256:26 1258:26 125A-125D:26 1260-1288:26 128A-128D:26 1290-12B0:26",
    "12B2-12B5:26 12B8-12BE:26 12C0:26 12C2-12C5:26 12C8-12D6:26 12D8-1310:26 1312-1315:26",
    "1318-135A:26 135D-137C:26 1380-1399:26 13A0-13F5:16 13F8-13FD:16 1400-167F:11 1680-169C:6B",
    "16A0-16EA:81 16EB-16ED:18 16EE-16F8:81 1700-1715:90 171F:90 1720-1734:34 1735-1736:18",
    "1740-1753:10 1760-176C:91 176E-1770:91 1772-1773:91 1780-17DD:44 17E0-17E9:44 17F0-17F9:44",
    "1800-1801:5F 1802-1803:18 1804:5F 1805:18 1806-1819:5F 1820-1878:5F 1880-18AA:5F",
    "18B0-18F5:11 1900-191E:4B 1920-192B:4B 1930-193B:4B 1940:4B 1944-194F:4B 1950-196D:92",
    "1970-1974:92 1980-19AB:66 19B0-19C9:66 19D0-19DA:66 19DE-19DF:66 19E0-19FF:44 1A00-1A1B:F",
    "1A1E-1A1F:F 1A20-1A5E:93 1A60-1A7C:93 1A7F-1A89:93 1A90-1A99:93 1AA0-1AAD:93 1AB0-1ACE:39",
    "1B00-1B4C:6 1B4E-1B7F:6 1B80-1BBF:8C 1BC0-1BF3:9 1BFC-1BFF:9 1C00-1C37:4A 1C3B-1C49:4A",
    "1C4D-1C4F:4A 1C50-1C7F:6C 1C80-1C8A:1D 1C90-1CBA:28 1CBD-1CBF:28 1CC0-1CC7:8C 1CD0-1CD2:39",
    "1CD3:18 1CD4-1CE0:39 1CE1:18 1CE2-1CE8:39 1CE9-1CEC:18 1CED:39 1CEE-1CF3:18 1CF4:39",
    "1CF5-1CF7:18 1CF8-1CF9:39 1CFA:18 1D00-1D25:49 1D26-1D2A:2C 1D2B:1D 1D2C-1D5C:49",
    "1D5D-1D61:2C 1D62-1D65:49 1D66-1D6A:2C 1D6B-1D77:49 1D78:1D 1D79-1DBE:49 1DBF:2C",
    "1DC0-1DFF:39 1E00-1EFF:49 1F00-1F15:2C 1F18-1F1D:2C 1F20-1F45:2C 1F48-1F4D:2C 1F50-1F57:2C",
    "1F59:2C 1F5B:2C 1F5D:2C 1F5F-1F7D:2C 1F80-1FB4:2C 1FB6-1FC4:2C 1FC6-1FD3:2C 1FD6-1FDB:2C",
    "1FDD-1FEF:2C 1FF2-1FF4:2C 1FF6-1FFE:2C 2000-200B:18 200C-200D:39 200E-2064:18 2066-2070:18",
    "2071:49 2074-207E:18 207F:49 2080-208E:18 2090-209C:49 20A0-20C0:18 20D0-20F0:39",
    "2100-2125:18 2126:2C 2127-2129:18 212A-212B:49 212C-2131:18 2132:49 2133-214D:18 214E:49",
    "214F-215F:18 2160-2188:49 2189-218B:18 2190-2429:18 2440-244A:18 2460-27FF:18 2800-28FF:E",
    "2900-2B73:18 2B76-2B95:18 2B97-2BFF:18 2C00-2C5F:29 2C60-2C7F:49 2C80-2CF3:19 2CF9-2CFF:19",
    "2D00-2D25:28 2D27:28 2D2D:28 2D30-2D67:9D 2D6F-2D70:9D 2D7F:9D 2D80-2D96:26 2DA0-2DA6:26",
    "2DA8-2DAE:26 2DB0-2DB6:26 2DB8-2DBE:26 2DC0-2DC6:26 2DC8-2DCE:26 2DD0-2DD6:26 2DD8-2DDE:26",
    "2DE0-2DFF:1D 2E00-2E5D:18 2E80-2E99:31 2E9B-2EF3:31 2F00-2FD5:31 2FF0-3004:18 3005:31",
    "3006:18 3007:31 3008-3020:18 3021-3029:31 302A-302D:39 302E-302F:32 3030-3037:18",
    "3038-303B:31 303C-303F:18 3041-3096:37 3099-309A:39 309B-309C:18 309D-309F:37 30A0:18",
    "30A1-30FA:3F 30FB-30FC:18 30FD-30FF:3F 3105-312F:C 3131-318E:32 3190-319F:18 31A0-31BF:C",
    "31C0-31E5:18 31EF:18 31F0-31FF:3F 3200-321E:32 3220-325F:18 3260-327E:32 327F-32CF:18",
    "32D0-32FE:3F 32FF:18 3300-3357:3F 3358-33FF:18 3400-4DBF:31 4DC0-4DFF:18 4E00-9FFF:31",
    "A000-A48C:A9 A490-A4C6:A9 A4D0-A4FF:4E A500-A62B:A4 A640-A69F:1D A6A0-A6F7:7 A700-A721:18",
    "A722-A787:49 A788-A78A:18 A78B-A7CD:49 A7D0-A7D1:49 A7D3:49 A7D5-A7DC:49 A7F2-A7FF:49",
    "A800-A82C:8E A830-A839:18 A840-A877:7D A880-A8C5:83 A8CE-A8D9:83 A8E0-A8FF:1F A900-A92D:41",
    "A92E:18 A92F:41 A930-A953:80 A95F:80 A960-A97C:32 A980-A9CD:3C A9CF:18 A9D0-A9D9:3C",
    "A9DE-A9DF:3C A9E0-A9FE:62 AA00-AA36:15 AA40-AA4D:15 AA50-AA59:15 AA5C-AA5F:15 AA60-AA7F:62",
    "AA80-AAC2:94 AADB-AADF:94 AAE0-AAF6:59 AB01-AB06:26 AB09-AB0E:26 AB11-AB16:26 AB20-AB26:26",
    "AB28-AB2E:26 AB30-AB5A:49 AB5B:18 AB5C-AB64:49 AB65:2C AB66-AB69:49 AB6A-AB6B:18",
    "AB70-ABBF:16 ABC0-ABED:59 ABF0-ABF9:59 AC00-D7A3:32 D7B0-D7C6:32 D7CB-D7FB:32 F900-FA6D:31",
    "FA70-FAD9:31 FB00-FB06:49 FB13-FB17:4 FB1D-FB36:36 FB38-FB3C:36 FB3E:36 FB40-FB41:36",
    "FB43-FB44:36 FB46-FB4F:36 FB50-FBC2:3 FBD3-FD3D:3 FD3E-FD3F:18 FD40-FD8F:3 FD92-FDC7:3",
    "FDCF:3 FDF0-FDFF:3 FE00-FE0F:39 FE10-FE19:18 FE20-FE2D:39 FE2E-FE2F:1D FE30-FE52:18",
    "FE54-FE66:18 FE68-FE6B:18 FE70-FE74:3 FE76-FEFC:3 FEFF:18 FF01-FF20:18 FF21-FF3A:49",
    "FF3B-FF40:18 FF41-FF5A:49 FF5B-FF65:18 FF66-FF6F:3F FF70:18 FF71-FF9D:3F FF9E-FF9F:18",
    "FFA0-FFBE:32 FFC2-FFC7:32 FFCA-FFCF:32 FFD2-FFD7:32 FFDA-FFDC:32 FFE0-FFE6:18 FFE8-FFEE:18",
    "FFF9-FFFD:18 10000-1000B:4D 1000D-10026:4D 10028-1003A:4D 1003C-1003D:4D 1003F-1004D:4D",
    "10050-1005D:4D 10080-100FA:4D 10100-10102:18 10107-10133:18 10137-1013F:18 10140-1018E:2C",
    "10190-1019C:18 101A0:2C 101D0-101FC:18 101FD:39 10280-1029C:4F 102A0-102D0:12 102E0:39",
    "102E1-102FB:18 10300-10323:6F 1032D-1032F:6F 10330-1034A:2A 10350-1037A:71 10380-1039D:A2",
    "1039F:A2 103A0-103C3:72 103C8-103D5:72 10400-1044F:1E 10450-1047F:85 10480-1049D:79",
    "104A0-104A9:79 104B0-104D3:78 104D8-104FB:78 10500-10527:24 10530-10563:13 1056F:13",
    "10570-1057A:A5 1057C-1058A:A5 1058C-10592:A5 10594-10595:A5 10597-105A1:A5 105A3-105B1:A5",
    "105B3-105B9:A5 105BB-105BC:A5 105C0-105F3:9F 10600-10736:4C 10740-10755:4C 10760-10767:4C",
    "10780-10785:49 10787-107B0:49 107B2-107BA:49 10800-10805:1B 10808:1B 1080A-10835:1B",
    "10837-10838:1B 1083C:1B 1083F:1B 10840-10855:38 10857-1085F:38 10860-1087F:7B",
    "10880-1089E:63 108A7-108AF:63 108E0-108F2:35 108F4-108F5:35 108FB-108FF:35 10900-1091B:7E",
    "1091F:7E 10920-10939:50 1093F:50 10980-1099F:5C 109A0-109B7:5B 109BC-109CF:5B",
    "109D2-109FF:5B 10A00-10A03:42 10A05-10A06:42 10A0C-10A13:42 10A15-10A17:42 10A19-10A35:42",
    "10A38-10A3A:42 10A3F-10A48:42 10A50-10A58:42 10A60-10A7F:74 10A80-10A9F:70 10AC0-10AE6:55",
    "10AEB-10AF6:55 10B00-10B35:5 10B39-10B3F:5 10B40-10B55:3B 10B58-10B5F:3B 10B60-10B72:3A",
    "10B78-10B7F:3A 10B80-10B91:7F 10B99-10B9C:7F 10BA9-10BAF:7F 10C00-10C48:75 10C80-10CB2:6E",
    "10CC0-10CF2:6E 10CFA-10CFF:6E 10D00-10D27:33 10D30-10D39:33 10D40-10D65:27 10D69-10D85:27",
    "10D8E-10D8F:27 10E60-10E7E:3 10E80-10EA9:A8 10EAB-10EAD:A8 10EB0-10EB1:A8 10EC2-10EC4:3",
    "10EFC-10EFF:3 10F00-10F27:73 10F30-10F59:89 10F70-10F89:76 10FB0-10FCB:17 10FE0-10FF6:25",
    "11000-1104D:D 11052-11075:D 1107F:D 11080-110C2:3D 110CD:3D 110D0-110E8:8A 110F0-110F9:8A",
    "11100-11134:14 11136-11147:14 11150-11176:51 11180-111DF:84 111E1-111F4:88 11200-11211:45",
    "11213-11241:45 11280-11286:61 11288:61 1128A-1128D:61 1128F-1129D:61 1129F-112A9:61",
    "112B0-112EA:46 112F0-112F9:46 11300-11303:2B 11305-1130C:2B 1130F-11310:2B 11313-11328:2B",
    "1132A-11330:2B 11332-11333:2B 11335-11339:2B 1133B:39 1133C-11344:2B 11347-11348:2B",
    "1134B-1134D:2B 11350:2B 11357:2B 1135D-11363:2B 11366-1136C:2B 11370-11374:2B",
    "11380-11389:A1 1138B:A1 1138E:A1 11390-113B5:A1 113B7-113C0:A1 113C2:A1 113C5:A1",
    "113C7-113CA:A1 113CC-113D5:A1 113D7-113D8:A1 113E1-113E2:A1 11400-1145B:67 1145D-11461:67",
    "11480-114C7:9E 114D0-114D9:9E 11580-115B5:86 115B8-115DD:86 11600-11644:5E 11650-11659:5E",
    "11660-1166C:5F 11680-116B9:95 116C0-116C9:95 116D0-116E3:62 11700-1171A:1 1171D-1172B:1",
    "11730-11746:1 11800-1183B:21 118A0-118F2:A7 118FF:A7 11900-11906:20 11909:20",
    "1190C-11913:20 11915-11916:20 11918-11935:20 11937-11938:20 1193B-11946:20 11950-11959:20",
    "119A0-119A7:65 119AA-119D7:65 119DA-119E4:65 11A00-11A47:AA 11A50-11AA2:8B 11AB0-11ABF:11",
    "11AC0-11AF8:7C 11B00-11B09:1F 11BC0-11BE1:8D 11BF0-11BF9:8D 11C00-11C08:B 11C0A-11C36:B",
    "11C38-11C45:B 11C50-11C6C:B 11C70-11C8F:56 11C92-11CA7:56 11CA9-11CB6:56 11D00-11D06:57",
    "11D08-11D09:57 11D0B-11D36:57 11D3A:57 11D3C-11D3D:57 11D3F-11D47:57 11D50-11D59:57",
    "11D60-11D65:2E 11D67-11D68:2E 11D6A-11D8E:2E 11D90-11D91:2E 11D93-11D98:2E 11DA0-11DA9:2E",
    "11EE0-11EF8:52 11F00-11F10:40 11F12-11F3A:40 11F3E-11F5A:40 11FB0:4E 11FC0-11FF1:96",
    "11FFF:96 12000-12399:1A 12400-1246E:1A 12470-12474:1A 12480-12543:1A 12F90-12FF2:1C",
    "13000-13455:23 13460-143FA:23 14400-14646:2 16100-16139:30 16800-16A38:7 16A40-16A5E:60",
    "16A60-16A69:60 16A6E-16A6F:60 16A70-16ABE:97 16AC0-16AC9:97 16AD0-16AED:8 16AF0-16AF5:8",
    "16B00-16B45:7A 16B50-16B59:7A 16B5B-16B61:7A 16B63-16B77:7A 16B7D-16B8F:7A 16D40-16D79:47",
    "16E40-16E9A:58 16F00-16F4A:5D 16F4F-16F87:5D 16F8F-16F9F:5D 16FE0:98 16FE1:69",
    "16FE2-16FE3:31 16FE4:43 16FF0-16FF1:31 17000-187F7:98 18800-18AFF:98 18B00-18CD5:43",
    "18CFF:43 18D00-18D08:98 1AFF0-1AFF3:3F 1AFF5-1AFFB:3F 1AFFD-1AFFE:3F 1B000:3F",
    "1B001-1B11F:37 1B120-1B122:3F 1B132:37 1B150-1B152:37 1B155:3F 1B164-1B167:3F",
    "1B170-1B2FB:69 1BC00-1BC6A:22 1BC70-1BC7C:22 1BC80-1BC88:22 1BC90-1BC99:22 1BC9C-1BC9F:22",
    "1BCA0-1BCA3:18 1CC00-1CCF9:18 1CD00-1CEB3:18 1CF00-1CF2D:39 1CF30-1CF46:39 1CF50-1CFC3:18",
    "1D000-1D0F5:18 1D100-1D126:18 1D129-1D166:18 1D167-1D169:39 1D16A-1D17A:18 1D17B-1D182:39",
    "1D183-1D184:18 1D185-1D18B:39 1D18C-1D1A9:18 1D1AA-1D1AD:39 1D1AE-1D1EA:18 1D200-1D245:2C",
    "1D2C0-1D2D3:18 1D2E0-1D2F3:18 1D300-1D356:18 1D360-1D378:18 1D400-1D454:18 1D456-1D49C:18",
    "1D49E-1D49F:18 1D4A2:18 1D4A5-1D4A6:18 1D4A9-1D4AC:18 1D4AE-1D4B9:18 1D4BB:18",
    "1D4BD-1D4C3:18 1D4C5-1D505:18 1D507-1D50A:18 1D50D-1D514:18 1D516-1D51C:18 1D51E-1D539:18",
    "1D53B-1D53E:18 1D540-1D544:18 1D546:18 1D54A-1D550:18 1D552-1D6A5:18 1D6A8-1D7CB:18",
    "1D7CE-1D7FF:18 1D800-1DA8B:87 1DA9B-1DA9F:87 1DAA1-1DAAF:87 1DF00-1DF1E:49 1DF25-1DF2A:49",
    "1E000-1E006:29 1E008-1E018:29 1E01B-1E021:29 1E023-1E024:29 1E026-1E02A:29 1E030-1E06D:1D",
    "1E08F:1D 1E100-1E12C:6A 1E130-1E13D:6A 1E140-1E149:6A 1E14E-1E14F:6A 1E290-1E2AE:A0",
    "1E2C0-1E2F9:A6 1E2FF:A6 1E4D0-1E4F9:64 1E5D0-1E5FA:6D 1E5FF:6D 1E7E0-1E7E6:26",
    "1E7E8-1E7EB:26 1E7ED-1E7EE:26 1E7F0-1E7FE:26 1E800-1E8C4:5A 1E8C7-1E8D6:5A 1E900-1E94B:0",
    "1E950-1E959:0 1E95E-1E95F:0 1EC71-1ECB4:18 1ED01-1ED3D:18 1EE00-1EE03:3 1EE05-1EE1F:3",
    "1EE21-1EE22:3 1EE24:3 1EE27:3 1EE29-1EE32:3 1EE34-1EE37:3 1EE39:3 1EE3B:3 1EE42:3 1EE47:3",
    "1EE49:3 1EE4B:3 1EE4D-1EE4F:3 1EE51-1EE52:3 1EE54:3 1EE57:3 1EE59:3 1EE5B:3 1EE5D:3",
    "1EE5F:3 1EE61-1EE62:3 1EE64:3 1EE67-1EE6A:3 1EE6C-1EE72:3 1EE74-1EE77:3 1EE79-1EE7C:3",
    "1EE7E:3 1EE80-1EE89:3 1EE8B-1EE9B:3 1EEA1-1EEA3:3 1EEA5-1EEA9:3 1EEAB-1EEBB:3",
    "1EEF0-1EEF1:3 1F000-1F02B:18 1F030-1F093:18 1F0A0-1F0AE:18 1F0B1-1F0BF:18 1F0C1-1F0CF:18",
    "1F0D1-1F0F5:18 1F100-1F1AD:18 1F1E6-1F1FF:18 1F200:37 1F201-1F202:18 1F210-1F23B:18",
    "1F240-1F248:18 1F250-1F251:18 1F260-1F265:18 1F300-1F6D7:18 1F6DC-1F6EC:18 1F6F0-1F6FC:18",
    "1F700-1F776:18 1F77B-1F7D9:18 1F7E0-1F7EB:18 1F7F0:18 1F800-1F80B:18 1F810-1F847:18",
    "1F850-1F859:18 1F860-1F887:18 1F890-1F8AD:18 1F8B0-1F8BB:18 1F8C0-1F8C1:18 1F900-1FA53:18",
    "1FA60-1FA6D:18 1FA70-1FA7C:18 1FA80-1FA89:18 1FA8F-1FAC6:18 1FACE-1FADC:18 1FADF-1FAE9:18",
    "1FAF0-1FAF8:18 1FB00-1FB92:18 1FB94-1FBF9:18 20000-2A6DF:31 2A700-2B739:31 2B740-2B81D:31",
    "2B820-2CEA1:31 2CEB0-2EBE0:31 2EBF0-2EE5D:31 2F800-2FA1D:31 30000-3134A:31 31350-323AF:31",
    "E0001:18 E0020-E007F:18 E0100-E01EF:39"])

/-- The scripts of each interval, by number, for the Script_Extensions property. -/
def scriptExtensionTable : CodeMap (List Nat) :=
  CodeMap.ofHex (fun s => some ((s.splitOn ".").map readHex))
  (" ".intercalate [
    "0-40:18 41-5A:49 5B-60:18 61-7A:49 7B-A9:18 AA:49 AB-B9:18 BA:49 BB-BF:18 C0-D6:49 D7:18",
    "D8-F6:49 F7:18 F8-2B8:49 2B9-2DF:18 2E0-2E4:49 2E5-2E9:18 2EA-2EB:C 2EC-2FF:18 300-341:39",
    "342:2C 343-344:39 345:2C 346-362:39 363-36F:49 370-373:2C 374:18 375-377:2C 37A-37D:2C",
    "37E:18 37F:2C 384:2C 385:18 386:2C 387:18 388-38A:2C 38C:2C 38E-3A1:2C 3A3-3E1:2C",
    "3E2-3EF:19 3F0-3FF:2C 400-482:1D 483:1D.71 484:1D.29 485-486:1D.49 487:1D.29 488-52F:1D",
    "531-556:4 559-58A:4 58D-58F:4 591-5C7:36 5D0-5EA:36 5EF-5F4:36 600-604:3 605:18 606-60B:3",
    "60C:3.68.33.8F.9A.A8 60D-61A:3 61B:3.68.33.8F.9A.A8 61C:3.8F.9A 61D-61E:3",
    "61F:0.3.68.33.8F.9A.A8 620-63F:3 640:0.3.54.55.76.7F.33.89.8F 641-64A:3 64B-655:3.8F",
    "656-65F:3 660-669:3.9A.A8 66A-66F:3 670:3.8F 671-6D3:3 6D4:3.33 6D5-6DC:3 6DD:18 6DE-6FF:3",
    "700-70D:8F 70F-74A:8F 74D-74F:8F 750-77F:3 780-7B1:9A 7C0-7FA:68 7FD-7FF:68 800-82D:82",
    "830-83E:82 840-85B:54 85E:54 860-86A:8F 870-88E:3 890-891:3 897-8E1:3 8E2:18 8E3-8FF:3",
    "900-950:1F 951:A.1F.2B.2D.2F.3E.49.53.77.84.96.99.9E",
    "952:A.1F.2B.2D.2F.3E.49.53.77.96.99.9E 953-954:39 955-963:1F",
    "964:A.1F.21.2E.57.2B.2D.2F.3E.51.53.65.77.46.88.8E.95.96.99.9E",
    "965:A.1F.21.2E.57.2B.2D.2F.3E.4B.51.53.65.77.46.88.8E.95.96.99.9E 966-96F:1F.21.3D.51",
    "970-97F:1F 980-983:A 985-98C:A 98F-990:A 993-9A8:A 9AA-9B0:A 9B2:A 9B6-9B9:A 9BC-9C4:A",
    "9C7-9C8:A 9CB-9CE:A 9D7:A 9DC-9DD:A 9DF-9E3:A 9E6-9EF:A.14.8E 9F0-9FE:A A01-A03:2F",
    "A05-A0A:2F A0F-A10:2F A13-A28:2F A2A-A30:2F A32-A33:2F A35-A36:2F A38-A39:2F A3C:2F",
    "A3E-A42:2F A47-A48:2F A4B-A4D:2F A51:2F A59-A5C:2F A5E:2F A66-A6F:2F.61 A70-A76:2F",
    "A81-A83:2D A85-A8D:2D A8F-A91:2D A93-AA8:2D AAA-AB0:2D AB2-AB3:2D AB5-AB9:2D ABC-AC5:2D",
    "AC7-AC9:2D ACB-ACD:2D AD0:2D AE0-AE3:2D AE6-AEF:2D.45 AF0-AF1:2D AF9-AFF:2D B01-B03:77",
    "B05-B0C:77 B0F-B10:77 B13-B28:77 B2A-B30:77 B32-B33:77 B35-B39:77 B3C-B44:77 B47-B48:77",
    "B4B-B4D:77 B55-B57:77 B5C-B5D:77 B5F-B63:77 B66-B77:77 B82-B83:96 B85-B8A:96 B8E-B90:96",
    "B92-B95:96 B99-B9A:96 B9C:96 B9E-B9F:96 BA3-BA4:96 BA8-BAA:96 BAE-BB9:96 BBE-BC2:96",
    "BC6-BC8:96 BCA-BCD:96 BD0:96 BD7:96 BE6-BF3:2B.96 BF4-BFA:96 C00-C0C:99 C0E-C10:99",
    "C12-C28:99 C2A-C39:99 C3C-C44:99 C46-C48:99 C4A-C4D:99 C55-C56:99 C58-C5A:99 C5D:99",
    "C60-C63:99 C66-C6F:99 C77-C7F:99 C80-C8C:3E C8E-C90:3E C92-CA8:3E CAA-CB3:3E CB5-CB9:3E",
    "CBC-CC4:3E CC6-CC8:3E CCA-CCD:3E CD5-CD6:3E CDD-CDE:3E CE0-CE3:3E CE6-CEF:3E.65 CF1-CF3:3E",
    "D00-D0C:53 D0E-D10:53 D12-D44:53 D46-D48:53 D4A-D4F:53 D54-D63:53 D66-D7F:53 D81-D83:88",
    "D85-D96:88 D9A-DB1:88 DB3-DBB:88 DBD:88 DC0-DC6:88 DCA:88 DCF-DD4:88 DD6:88 DD8-DDF:88",
    "DE6-DEF:88 DF2-DF4:88 E01-E3A:9B E3F:18 E40-E5B:9B E81-E82:48 E84:48 E86-E8A:48 E8C-EA3:48",
    "EA5:48 EA7-EBD:48 EC0-EC4:48 EC6:48 EC8-ECE:48 ED0-ED9:48 EDC-EDF:48 F00-F47:9C F49-F6C:9C",
    "F71-F97:9C F99-FBC:9C FBE-FCC:9C FCE-FD4:9C FD5-FD8:18 FD9-FDA:9C 1000-103F:62",
    "1040-1049:14.62.92 104A-109F:62 10A0-10C5:28 10C7:28 10CD:28 10D0-10FA:28 10FB:28.49",
    "10FC-10FF:28 1100-11FF:32 1200-1248:26 124A-124D:26 1250-1256:26 1258:26 125A-125D:26",
    "1260-1288:26 128A-128D:26 1290-12B0:26 12B2-12B5:26 12B8-12BE:26 12C0:26 12C2-12C5:26",
    "12C8-12D6:26 12D8-1310:26 1312-1315:26 1318-135A:26 135D-137C:26 1380-1399:26 13A0-13F5:16",
    "13F8-13FD:16 1400-167F:11 1680-169C:6B 16A0-16EA:81 16EB-16ED:18 16EE-16F8:81 1700-1715:90",
    "171F:90 1720-1734:34 1735-1736:10.34.91.90 1740-1753:10 1760-176C:91 176E-1770:91",
    "1772-1773:91 1780-17DD:44 17E0-17E9:44 17F0-17F9:44 1800-1801:5F 1802-1803:5F.7D 1804:5F",
    "1805:5F.7D 1806-1819:5F 1820-1878:5F 1880-18AA:5F 18B0-18F5:11 1900-191E:4B 1920-192B:4B",
    "1930-193B:4B 1940:4B 1944-194F:4B 1950-196D:92 1970-1974:92 1980-19AB:66 19B0-19C9:66",
    "19D0-19DA:66 19DE-19DF:66 19E0-19FF:44 1A00-1A1B:F 1A1E-1A1F:F 1A20-1A5E:93 1A60-1A7C:93",
    "1A7F-1A89:93 1A90-1A99:93 1AA0-1AAD:93 1AB0-1ACE:39 1B00-1B4C:6 1B4E-1B7F:6 1B80-1BBF:8C",
    "1BC0-1BF3:9 1BFC-1BFF:9 1C00-1C37:4A 1C3B-1C49:4A 1C4D-1C4F:4A 1C50-1C7F:6C 1C80-1C8A:1D",
    "1C90-1CBA:28 1CBD-1CBF:28 1CC0-1CC7:8C 1CD0:A.1F.2B.3E 1CD1:1F 1CD2:A.1F.2B.3E 1CD3:1F.2B",
    "1CD4:1F 1CD5-1CD6:A.1F 1CD7:1F.84 1CD8:A.1F 1CD9:1F.84 1CDA:1F.3E.53.77.96.99 1CDB:1F",
    "1CDC-1CDD:1F.84 1CDE-1CDF:1F 1CE0:1F.84 1CE1:A.1F 1CE2-1CE8:1F 1CE9:1F.65 1CEA:A.1F",
    "1CEB-1CEC:1F 1CED:A.1F 1CEE-1CF1:1F 1CF2:A.1F.2B.3E.65.77.99.9E 1CF3:1F.2B 1CF4:1F.2B.3E",
    "1CF5-1CF6:A.1F 1CF7:A 1CF8-1CF9:1F.2B 1CFA:65 1D00-1D25:49 1D26-1D2A:2C 1D2B:1D",
    "1D2C-1D5C:49 1D5D-1D61:2C 1D62-1D65:49 1D66-1D6A:2C 1D6B-1D77:49 1D78:1D 1D79-1DBE:49",
    "1DBF-1DC1:2C 1DC2-1DF7:39 1DF8:1D.8F 1DF9:39 1DFA:8F 1DFB-1DFF:39 1E00-1EFF:49",
    "1F00-1F15:2C 1F18-1F1D:2C 1F20-1F45:2C 1F48-1F4D:2C 1F50-1F57:2C 1F59:2C 1F5B:2C 1F5D:2C",
    "1F5F-1F7D:2C 1F80-1FB4:2C 1FB6-1FC4:2C 1FC6-1FD3:2C 1FD6-1FDB:2C 1FDD-1FEF:2C 1FF2-1FF4:2C",
    "1FF6-1FFE:2C 2000-200B:18 200C-200D:39 200E-202E:18 202F:49.5F 2030-2064:18 2066-2070:18",
    "2071:49 2074-207E:18 207F:49 2080-208E:18 2090-209C:49 20A0-20C0:18 20D0-20EF:39",
    "20F0:1F.2B.49 2100-2125:18 2126:2C 2127-2129:18 212A-212B:49 212C-2131:18 2132:49",
    "2133-214D:18 214E:49 214F-215F:18 2160-2188:49 2189-218B:18 2190-2429:18 2440-244A:18",
    "2460-27FF:18 2800-28FF:E 2900-2B73:18 2B76-2B95:18 2B97-2BFF:18 2C00-2C5F:29 2C60-2C7F:49",
    "2C80-2CF3:19 2CF9-2CFF:19 2D00-2D25:28 2D27:28 2D2D:28 2D30-2D67:9D 2D6F-2D70:9D 2D7F:9D",
    "2D80-2D96:26 2DA0-2DA6:26 2DA8-2DAE:26 2DB0-2DB6:26 2DB8-2DBE:26 2DC0-2DC6:26 2DC8-2DCE:26",
    "2DD0-2DD6:26 2DD8-2DDE:26 2DE0-2DFF:1D 2E00-2E42:18 2E43:1D.29 2E44-2E5D:18 2E80-2E99:31",
    "2E9B-2EF3:31 2F00-2FD5:31 2FF0-3000:18 3001-3002:C.32.31.37.3F.A9 3003:C.32.31.37.3F",
    "3004:18 3005-3007:31 3008-3011:C.32.31.37.3F.A9 3012:18 3013:C.32.31.37.3F",
    "3014-301B:C.32.31.37.3F.A9 301C-301F:C.32.31.37.3F 3020:18 3021-3029:31 302A-302D:C.31",
    "302E-302F:32 3030:C.32.31.37.3F 3031-3035:37.3F 3036:18 3037:C.32.31.37.3F 3038-303B:31",
    "303C-303D:31.37.3F 303E-303F:31 3041-3096:37 3099-309C:37.3F 309D-309F:37 30A0:37.3F",
    "30A1-30FA:3F 30FB:C.32.31.37.3F.A9 30FC:37.3F 30FD-30FF:3F 3105-312F:C 3131-318E:32",
    "3190-319F:31 31A0-31BF:C 31C0-31E3:31 31E4-31E5:18 31EF:18 31F0-31FF:3F 3200-321E:32",
    "3220-3247:31 3248-325F:18 3260-327E:32 327F:18 3280-32B0:31 32B1-32BF:18 32C0-32CB:31",
    "32CC-32CF:18 32D0-32FE:3F 32FF:31 3300-3357:3F 3358-3370:31 3371-337A:18 337B-337F:31",
    "3380-33DF:18 33E0-33FE:31 33FF:18 3400-4DBF:31 4DC0-4DFF:18 4E00-9FFF:31 A000-A48C:A9",
    "A490-A4C6:A9 A4D0-A4FF:4E A500-A62B:A4 A640-A66E:1D A66F:1D.29 A670-A69F:1D A6A0-A6F7:7",
    "A700-A707:31.49 A708-A721:18 A722-A787:49 A788-A78A:18 A78B-A7CD:49 A7D0-A7D1:49 A7D3:49",
    "A7D5-A7DC:49 A7F2-A7FF:49 A800-A82C:8E A830-A832:1F.21.2D.2F.45.3E.3D.51.53.5E.65.46.95.9E",
    "A833-A835:1F.21.2D.2F.45.3E.3D.51.5E.65.46.95.9E",
    "A836-A839:1F.21.2D.2F.45.3D.51.5E.46.95.9E A840-A877:7D A880-A8C5:83 A8CE-A8D9:83",
    "A8E0-A8F0:1F A8F1:A.1F A8F2:1F A8F3:1F.96 A8F4-A8FF:1F A900-A92D:41 A92E:41.49.62 A92F:41",
    "A930-A953:80 A95F:80 A960-A97C:32 A980-A9CD:3C A9CF:F.3C A9D0-A9D9:3C A9DE-A9DF:3C",
    "A9E0-A9FE:62 AA00-AA36:15 AA40-AA4D:15 AA50-AA59:15 AA5C-AA5F:15 AA60-AA7F:62 AA80-AAC2:94",
    "AADB-AADF:94 AAE0-AAF6:59 AB01-AB06:26 AB09-AB0E:26 AB11-AB16:26 AB20-AB26:26 AB28-AB2E:26",
    "AB30-AB5A:49 AB5B:18 AB5C-AB64:49 AB65:2C AB66-AB69:49 AB6A-AB6B:18 AB70-ABBF:16",
    "ABC0-ABED:59 ABF0-ABF9:59 AC00-D7A3:32 D7B0-D7C6:32 D7CB-D7FB:32 F900-FA6D:31 FA70-FAD9:31",
    "FB00-FB06:49 FB13-FB17:4 FB1D-FB36:36 FB38-FB3C:36 FB3E:36 FB40-FB41:36 FB43-FB44:36",
    "FB46-FB4F:36 FB50-FBC2:3 FBD3-FD3D:3 FD3E-FD3F:3.68 FD40-FD8F:3 FD92-FDC7:3 FDCF:3",
    "FDF0-FDF1:3 FDF2:3.9A FDF3-FDFC:3 FDFD:3.9A FDFE-FDFF:3 FE00-FE0F:39 FE10-FE19:18",
    "FE20-FE2D:39 FE2E-FE2F:1D FE30-FE44:18 FE45-FE46:C.32.31.37.3F FE47-FE52:18 FE54-FE66:18",
    "FE68-FE6B:18 FE70-FE74:3 FE76-FEFC:3 FEFF:18 FF01-FF20:18 FF21-FF3A:49 FF3B-FF40:18",
    "FF41-FF5A:49 FF5B-FF60:18 FF61-FF65:C.32.31.37.3F.A9 FF66-FF6F:3F FF70:37.3F FF71-FF9D:3F",
    "FF9E-FF9F:37.3F FFA0-FFBE:32 FFC2-FFC7:32 FFCA-FFCF:32 FFD2-FFD7:32 FFDA-FFDC:32",
    "FFE0-FFE6:18 FFE8-FFEE:18 FFF9-FFFD:18 10000-1000B:4D 1000D-10026:4D 10028-1003A:4D",
    "1003C-1003D:4D 1003F-1004D:4D 10050-1005D:4D 10080-100FA:4D 10100-10101:1C.1B.4D",
    "10102:1B.4D 10107-10133:1B.4C.4D 10137-1013F:1B.4D 10140-1018E:2C 10190-1019C:18 101A0:2C",
    "101D0-101FC:18 101FD:39 10280-1029C:4F 102A0-102D0:12 102E0-102FB:3.19 10300-10323:6F",
    "1032D-1032F:6F 10330-1034A:2A 10350-1037A:71 10380-1039D:A2 1039F:A2 103A0-103C3:72",
    "103C8-103D5:72 10400-1044F:1E 10450-1047F:85 10480-1049D:79 104A0-104A9:79 104B0-104D3:78",
    "104D8-104FB:78 10500-10527:24 10530-10563:13 1056F:13 10570-1057A:A5 1057C-1058A:A5",
    "1058C-10592:A5 10594-10595:A5 10597-105A1:A5 105A3-105B1:A5 105B3-105B9:A5 105BB-105BC:A5",
    "105C0-105F3:9F 10600-10736:4C 10740-10755:4C 10760-10767:4C 10780-10785:49 10787-107B0:49",
    "107B2-107BA:49 10800-10805:1B 10808:1B 1080A-10835:1B 10837-10838:1B 1083C:1B 1083F:1B",
    "10840-10855:38 10857-1085F:38 10860-1087F:7B 10880-1089E:63 108A7-108AF:63 108E0-108F2:35",
    "108F4-108F5:35 108FB-108FF:35 10900-1091B:7E 1091F:7E 10920-10939:50 1093F:50",
    "10980-1099F:5C 109A0-109B7:5B 109BC-109CF:5B 109D2-109FF:5B 10A00-10A03:42 10A05-10A06:42",
    "10A0C-10A13:42 10A15-10A17:42 10A19-10A35:42 10A38-10A3A:42 10A3F-10A48:42 10A50-10A58:42",
    "10A60-10A7F:74 10A80-10A9F:70 10AC0-10AE6:55 10AEB-10AF1:55 10AF2:55.76 10AF3-10AF6:55",
    "10B00-10B35:5 10B39-10B3F:5 10B40-10B55:3B 10B58-10B5F:3B 10B60-10B72:3A 10B78-10B7F:3A",
    "10B80-10B91:7F 10B99-10B9C:7F 10BA9-10BAF:7F 10C00-10C48:75 10C80-10CB2:6E 10CC0-10CF2:6E",
    "10CFA-10CFF:6E 10D00-10D27:33 10D30-10D39:33 10D40-10D65:27 10D69-10D85:27 10D8E-10D8F:27",
    "10E60-10E7E:3 10E80-10EA9:A8 10EAB-10EAD:A8 10EB0-10EB1:A8 10EC2-10EC4:3 10EFC-10EFF:3",
    "10F00-10F27:73 10F30-10F59:89 10F70-10F89:76 10FB0-10FCB:17 10FE0-10FF6:25 11000-1104D:D",
    "11052-11075:D 1107F:D 11080-110C2:3D 110CD:3D 110D0-110E8:8A 110F0-110F9:8A 11100-11134:14",
    "11136-11147:14 11150-11176:51 11180-111DF:84 111E1-111F4:88 11200-11211:45 11213-11241:45",
    "11280-11286:61 11288:61 1128A-1128D:61 1128F-1129D:61 1129F-112A9:61 112B0-112EA:46",
    "112F0-112F9:46 11300:2B 11301:2B.96 11302:2B 11303:2B.96 11305-1130C:2B 1130F-11310:2B",
    "11313-11328:2B 1132A-11330:2B 11332-11333:2B 11335-11339:2B 1133B-1133C:2B.96",
    "1133D-11344:2B 11347-11348:2B 1134B-1134D:2B 11350:2B 11357:2B 1135D-11363:2B",
    "11366-1136C:2B 11370-11374:2B 11380-11389:A1 1138B:A1 1138E:A1 11390-113B5:A1",
    "113B7-113C0:A1 113C2:A1 113C5:A1 113C7-113CA:A1 113CC-113D5:A1 113D7-113D8:A1",
    "113E1-113E2:A1 11400-1145B:67 1145D-11461:67 11480-114C7:9E 114D0-114D9:9E 11580-115B5:86",
    "115B8-115DD:86 11600-11644:5E 11650-11659:5E 11660-1166C:5F 11680-116B9:95 116C0-116C9:95",
    "116D0-116E3:62 11700-1171A:1 1171D-1172B:1 11730-11746:1 11800-1183B:21 118A0-118F2:A7",
    "118FF:A7 11900-11906:20 11909:20 1190C-11913:20 11915-11916:20 11918-11935:20",
    "11937-11938:20 1193B-11946:20 11950-11959:20 119A0-119A7:65 119AA-119D7:65 119DA-119E4:65",
    "11A00-11A47:AA 11A50-11AA2:8B 11AB0-11ABF:11 11AC0-11AF8:7C 11B00-11B09:1F 11BC0-11BE1:8D",
    "11BF0-11BF9:8D 11C00-11C08:B 11C0A-11C36:B 11C38-11C45:B 11C50-11C6C:B 11C70-11C8F:56",
    "11C92-11CA7:56 11CA9-11CB6:56 11D00-11D06:57 11D08-11D09:57 11D0B-11D36:57 11D3A:57",
    "11D3C-11D3D:57 11D3F-11D47:57 11D50-11D59:57 11D60-11D65:2E 11D67-11D68:2E 11D6A-11D8E:2E",
    "11D90-11D91:2E 11D93-11D98:2E 11DA0-11DA9:2E 11EE0-11EF8:52 11F00-11F10:40 11F12-11F3A:40",
    "11F3E-11F5A:40 11FB0:4E 11FC0-11FCF:96 11FD0-11FD1:2B.96 11FD2:96 11FD3:2B.96",
    "11FD4-11FF1:96 11FFF:96 12000-12399:1A 12400-1246E:1A 12470-12474:1A 12480-12543:1A",
    "12F90-12FF2:1C 13000-13455:23 13460-143FA:23 14400-14646:2 16100-16139:30 16800-16A38:7",
    "16A40-16A5E:60 16A60-16A69:60 16A6E-16A6F:60 16A70-16ABE:97 16AC0-16AC9:97 16AD0-16AED:8",
    "16AF0-16AF5:8 16B00-16B45:7A 16B50-16B59:7A 16B5B-16B61:7A 16B63-16B77:7A 16B7D-16B8F:7A",
    "16D40-16D79:47 16E40-16E9A:58 16F00-16F4A:5D 16F4F-16F87:5D 16F8F-16F9F:5D 16FE0:98",
    "16FE1:69 16FE2-16FE3:31 16FE4:43 16FF0-16FF1:31 17000-187F7:98 18800-18AFF:98",
    "18B00-18CD5:43 18CFF:43 18D00-18D08:98 1AFF0-1AFF3:3F 1AFF5-1AFFB:3F 1AFFD-1AFFE:3F",
    "1B000:3F 1B001-1B11F:37 1B120-1B122:3F 1B132:37 1B150-1B152:37 1B155:3F 1B164-1B167:3F",
    "1B170-1B2FB:69 1BC00-1BC6A:22 1BC70-1BC7C:22 1BC80-1BC88:22 1BC90-1BC99:22 1BC9C-1BCA3:22",
    "1CC00-1CCF9:18 1CD00-1CEB3:18 1CF00-1CF2D:39 1CF30-1CF46:39 1CF50-1CFC3:18 1D000-1D0F5:18",
    "1D100-1D126:18 1D129-1D166:18 1D167-1D169:39 1D16A-1D17A:18 1D17B-1D182:39 1D183-1D184:18",
    "1D185-1D18B:39 1D18C-1D1A9:18 1D1AA-1D1AD:39 1D1AE-1D1EA:18 1D200-1D245:2C 1D2C0-1D2D3:18",
    "1D2E0-1D2F3:18 1D300-1D356:18 1D360-1D371:31 1D372-1D378:18 1D400-1D454:18 1D456-1D49C:18",
    "1D49E-1D49F:18 1D4A2:18 1D4A5-1D4A6:18 1D4A9-1D4AC:18 1D4AE-1D4B9:18 1D4BB:18",
    "1D4BD-1D4C3:18 1D4C5-1D505:18 1D507-1D50A:18 1D50D-1D514:18 1D516-1D51C:18 1D51E-1D539:18",
    "1D53B-1D53E:18 1D540-1D544:18 1D546:18 1D54A-1D550:18 1D552-1D6A5:18 1D6A8-1D7CB:18",
    "1D7CE-1D7FF:18 1D800-1DA8B:87 1DA9B-1DA9F:87 1DAA1-1DAAF:87 1DF00-1DF1E:49 1DF25-1DF2A:49",
    "1E000-1E006:29 1E008-1E018:29 1E01B-1E021:29 1E023-1E024:29 1E026-1E02A:29 1E030-1E06D:1D",
    "1E08F:1D 1E100-1E12C:6A 1E130-1E13D:6A 1E140-1E149:6A 1E14E-1E14F:6A 1E290-1E2AE:A0",
    "1E2C0-1E2F9:A6 1E2FF:A6 1E4D0-1E4F9:64 1E5D0-1E5FA:6D 1E5FF:6D 1E7E0-1E7E6:26",
    "1E7E8-1E7EB:26 1E7ED-1E7EE:26 1E7F0-1E7FE:26 1E800-1E8C4:5A 1E8C7-1E8D6:5A 1E900-1E94B:0",
    "1E950-1E959:0 1E95E-1E95F:0 1EC71-1ECB4:18 1ED01-1ED3D:18 1EE00-1EE03:3 1EE05-1EE1F:3",
    "1EE21-1EE22:3 1EE24:3 1EE27:3 1EE29-1EE32:3 1EE34-1EE37:3 1EE39:3 1EE3B:3 1EE42:3 1EE47:3",
    "1EE49:3 1EE4B:3 1EE4D-1EE4F:3 1EE51-1EE52:3 1EE54:3 1EE57:3 1EE59:3 1EE5B:3 1EE5D:3",
    "1EE5F:3 1EE61-1EE62:3 1EE64:3 1EE67-1EE6A:3 1EE6C-1EE72:3 1EE74-1EE77:3 1EE79-1EE7C:3",
    "1EE7E:3 1EE80-1EE89:3 1EE8B-1EE9B:3 1EEA1-1EEA3:3 1EEA5-1EEA9:3 1EEAB-1EEBB:3",
    "1EEF0-1EEF1:3 1F000-1F02B:18 1F030-1F093:18 1F0A0-1F0AE:18 1F0B1-1F0BF:18 1F0C1-1F0CF:18",
    "1F0D1-1F0F5:18 1F100-1F1AD:18 1F1E6-1F1FF:18 1F200:37 1F201-1F202:18 1F210-1F23B:18",
    "1F240-1F248:18 1F250-1F251:31 1F260-1F265:18 1F300-1F6D7:18 1F6DC-1F6EC:18 1F6F0-1F6FC:18",
    "1F700-1F776:18 1F77B-1F7D9:18 1F7E0-1F7EB:18 1F7F0:18 1F800-1F80B:18 1F810-1F847:18",
    "1F850-1F859:18 1F860-1F887:18 1F890-1F8AD:18 1F8B0-1F8BB:18 1F8C0-1F8C1:18 1F900-1FA53:18",
    "1FA60-1FA6D:18 1FA70-1FA7C:18 1FA80-1FA89:18 1FA8F-1FAC6:18 1FACE-1FADC:18 1FADF-1FAE9:18",
    "1FAF0-1FAF8:18 1FB00-1FB92:18 1FB94-1FBF9:18 20000-2A6DF:31 2A700-2B739:31 2B740-2B81D:31",
    "2B820-2CEA1:31 2CEB0-2EBE0:31 2EBF0-2EE5D:31 2F800-2FA1D:31 30000-3134A:31 31350-323AF:31",
    "E0001:18 E0020-E007F:18 E0100-E01EF:39"])

end LogBrowser.Unicode
