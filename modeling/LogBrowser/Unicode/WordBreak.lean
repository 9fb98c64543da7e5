import LogBrowser.Unicode.CodeSet

/-!
# Word break classes

The Word_Break property of Unicode 16.0. A code point in no interval has the class `other`.
-/

namespace LogBrowser.Unicode

/-- The classes that decide where a word may end. -/
inductive WordClass where
  | other | cr | lf | newline | extend | zwj | regionalIndicator | format | katakana
  | hebrewLetter | aLetter | singleQuote | doubleQuote | midNumLet | midLetter | midNum
  | numeric | extendNumLet | wSegSpace
  deriving DecidableEq, Repr, Inhabited

/-- Reads the one-letter class code of the table. -/
def WordClass.ofCode? : String → Option WordClass
  | "R" => some .cr
  | "N" => some .lf
  | "W" => some .newline
  | "E" => some .extend
  | "Z" => some .zwj
  | "I" => some .regionalIndicator
  | "F" => some .format
  | "K" => some .katakana
  | "H" => some .hebrewLetter
  | "A" => some .aLetter
  | "q" => some .singleQuote
  | "d" => some .doubleQuote
  | "B" => some .midNumLet
  | "L" => some .midLetter
  | "M" => some .midNum
  | "D" => some .numeric
  | "X" => some .extendNumLet
  | "S" => some .wSegSpace
  | _ => none

/-- The word break classes by interval. -/
def wordBreakTable : CodeMap WordClass := CodeMap.ofHex WordClass.ofCode?
  (" ".intercalate [
    "A:N B-C:W D:R 20:S 22:d 27:q 2C:M 2E:B 30-39:D 3A:L 3B:M 41-5A:A 5F:X 61-7A:A 85:W AA:A",
    "AD:F B5:A B7:L BA:A C0-D6:A D8-F6:A F8-2D7:A 2DE-2FF:A 300-36F:E 370-374:A 376-377:A",
    "37A-37D:A 37E:M 37F:A 386:A 387:L 388-38A:A 38C:A 38E-3A1:A 3A3-3F5:A 3F7-481:A 483-489:E",
    "48A-52F:A 531-556:A 559-55C:A 55E:A 55F:L 560-588:A 589:M 58A:A 591-5BD:E 5BF:E 5C1-5C2:E",
    "5C4-5C5:E 5C7:E 5D0-5EA:H 5EF-5F2:H 5F3:A 5F4:L 600-605:F 60C-60D:M 610-61A:E 61C:F",
    "620-64A:A 64B-65F:E 660-669:D 66B:D 66C:M 66E-66F:A 670:E 671-6D3:A 6D5:A 6D6-6DC:E 6DD:F",
    "6DF-6E4:E 6E5-6E6:A 6E7-6E8:E 6EA-6ED:E 6EE-6EF:A 6F0-6F9:D 6FA-6FC:A 6FF:A 70F:F 710:A",
    "711:E 712-72F:A 730-74A:E 74D-7A5:A 7A6-7B0:E 7B1:A 7C0-7C9:D 7CA-7EA:A 7EB-7F3:E",
    "7F4-7F5:A 7F8:M 7FA:A 7FD:E 800-815:A 816-819:E 81A:A 81B-823:E 824:A 825-827:E 828:A",
    "829-82D:E 840-858:A 859-85B:E 860-86A:A 870-887:A 889-88E:A 890-891:F 897-89F:E 8A0-8C9:A",
    "8CA-8E1:E 8E2:F 8E3-903:E 904-939:A 93A-93C:E 93D:A 93E-94F:E 950:A 951-957:E 958-961:A",
    "962-963:E 966-96F:D 971-980:A 981-983:E 985-98C:A 98F-990:A 993-9A8:A 9AA-9B0:A 9B2:A",
    "9B6-9B9:A 9BC:E 9BD:A 9BE-9C4:E 9C7-9C8:E 9CB-9CD:E 9CE:A 9D7:E 9DC-9DD:A 9DF-9E1:A",
    "9E2-9E3:E 9E6-9EF:D 9F0-9F1:A 9FC:A 9FE:E A01-A03:E A05-A0A:A A0F-A10:A A13-A28:A",
    "A2A-A30:A A32-A33:A A35-A36:A A38-A39:A A3C:E A3E-A42:E A47-A48:E A4B-A4D:E A51:E",
    "A59-A5C:A A5E:A A66-A6F:D A70-A71:E A72-A74:A A75:E A81-A83:E A85-A8D:A A8F-A91:A",
    "A93-AA8:A AAA-AB0:A AB2-AB3:A AB5-AB9:A ABC:E ABD:A ABE-AC5:E AC7-AC9:E ACB-ACD:E AD0:A",
    "AE0-AE1:A AE2-AE3:E AE6-AEF:D AF9:A AFA-AFF:E B01-B03:E B05-B0C:A B0F-B10:A B13-B28:A",
    "B2A-B30:A B32-B33:A B35-B39:A B3C:E B3D:A B3E-B44:E B47-B48:E B4B-B4D:E B55-B57:E",
    "B5C-B5D:A B5F-B61:A B62-B63:E B66-B6F:D B71:A B82:E B83:A B85-B8A:A B8E-B90:A B92-B95:A",
    "B99-B9A:A B9C:A B9E-B9F:A BA3-BA4:A BA8-BAA:A BAE-BB9:A BBE-BC2:E BC6-BC8:E BCA-BCD:E",
    "BD0:A BD7:E BE6-BEF:D C00-C04:E C05-C0C:A C0E-C10:A C12-C28:A C2A-C39:A C3C:E C3D:A",
    "C3E-C44:E C46-C48:E C4A-C4D:E C55-C56:E C58-C5A:A C5D:A C60-C61:A C62-C63:E C66-C6F:D",
    "C80:A C81-C83:E C85-C8C:A C8E-C90:A C92-CA8:A CAA-CB3:A CB5-CB9:A CBC:E CBD:A CBE-CC4:E",
    "CC6-CC8:E CCA-CCD:E CD5-CD6:E CDD-CDE:A CE0-CE1:A CE2-CE3:E CE6-CEF:D CF1-CF2:A CF3:E",
    "D00-D03:E D04-D0C:A D0E-D10:A D12-D3A:A D3B-D3C:E D3D:A D3E-D44:E D46-D48:E D4A-D4D:E",
    "D4E:A D54-D56:A D57:E D5F-D61:A D62-D63:E D66-D6F:D D7A-D7F:A D81-D83:E D85-D96:A",
    "D9A-DB1:A DB3-DBB:A DBD:A DC0-DC6:A DCA:E DCF-DD4:E DD6:E DD8-DDF:E DE6-DEF:D DF2-DF3:E",
    "E31:E E34-E3A:E E47-E4E:E E50-E59:D EB1:E EB4-EBC:E EC8-ECE:E ED0-ED9:D F00:A F18-F19:E",
    "F20-F29:D F35:E F37:E F39:E F3E-F3F:E F40-F47:A F49-F6C:A F71-F84:E F86-F87:E F88-F8C:A",
    "F8D-F97:E F99-FBC:E FC6:E 102B-103E:E 1040-1049:D 1056-1059:E 105E-1060:E 1062-1064:E",
    "1067-106D:E 1071-1074:E 1082-108D:E 108F:E 1090-1099:D 109A-109D:E 10A0-10C5:A 10C7:A",
    "10CD:A 10D0-10FA:A 10FC-1248:A 124A-124D:A 1250-1256:A 1258:A 125A-125D:A 1260-1288:A",
    "128A-128D:A 1290-12B0:A 12B2-12B5:A 12B8-12BE:A 12C0:A 12C2-12C5:A 12C8-12D6:A 12D8-1310:A",
    "1312-1315:A 1318-135A:A 135D-135F:E 1380-138F:A 13A0-13F5:A 13F8-13FD:A 1401-166C:A",
    "166F-167F:A 1680:S 1681-169A:A 16A0-16EA:A 16EE-16F8:A 1700-1711:A 1712-1715:E 171F-1731:A",
    "1732-1734:E 1740-1751:A 1752-1753:E 1760-176C:A 176E-1770:A 1772-1773:E 17B4-17D3:E 17DD:E",
    "17E0-17E9:D 180B-180D:E 180E:F 180F:E 1810-1819:D 1820-1878:A 1880-1884:A 1885-1886:E",
    "1887-18A8:A 18A9:E 18AA:A 18B0-18F5:A 1900-191E:A 1920-192B:E 1930-193B:E 1946-194F:D",
    "19D0-19D9:D 1A00-1A16:A 1A17-1A1B:E 1A55-1A5E:E 1A60-1A7C:E 1A7F:E 1A80-1A89:D 1A90-1A99:D",
    "1AB0-1ACE:E 1B00-1B04:E 1B05-1B33:A 1B34-1B44:E 1B45-1B4C:A 1B50-1B59:D 1B6B-1B73:E",
    "1B80-1B82:E 1B83-1BA0:A 1BA1-1BAD:E 1BAE-1BAF:A 1BB0-1BB9:D 1BBA-1BE5:A 1BE6-1BF3:E",
    "1C00-1C23:A 1C24-1C37:E 1C40-1C49:D 1C4D-1C4F:A 1C50-1C59:D 1C5A-1C7D:A 1C80-1C8A:A",
    "1C90-1CBA:A 1CBD-1CBF:A 1CD0-1CD2:E 1CD4-1CE8:E 1CE9-1CEC:A 1CED:E 1CEE-1CF3:A 1CF4:E",
    "1CF5-1CF6:A 1CF7-1CF9:E 1CFA:A 1D00-1DBF:A 1DC0-1DFF:E 1E00-1F15:A 1F18-1F1D:A 1F20-1F45:A",
    "1F48-1F4D:A 1F50-1F57:A 1F59:A 1F5B:A 1F5D:A 1F5F-1F7D:A 1F80-1FB4:A 1FB6-1FBC:A 1FBE:A",
    "1FC2-1FC4:A 1FC6-1FCC:A 1FD0-1FD3:A 1FD6-1FDB:A 1FE0-1FEC:A 1FF2-1FF4:A 1FF6-1FFC:A",
    "2000-2006:S 2008-200A:S 200C:E 200D:Z 200E-200F:F 2018-2019:B 2024:B 2027:L 2028-2029:W",
    "202A-202E:F 202F:X 203F-2040:X 2044:M 2054:X 205F:S 2060-2064:F 2066-206F:F 2071:A 207F:A",
    "2090-209C:A 20D0-20F0:E 2102:A 2107:A 210A-2113:A 2115:A 2119-211D:A 2124:A 2126:A 2128:A",
    "212A-212D:A 212F-2139:A 213C-213F:A 2145-2149:A 214E:A 2160-2188:A 24B6-24E9:A 2C00-2CE4:A",
    "2CEB-2CEE:A 2CEF-2CF1:E 2CF2-2CF3:A 2D00-2D25:A 2D27:A 2D2D:A 2D30-2D67:A 2D6F:A 2D7F:E",
    "2D80-2D96:A 2DA0-2DA6:A 2DA8-2DAE:A 2DB0-2DB6:A 2DB8-2DBE:A 2DC0-2DC6:A 2DC8-2DCE:A",
    "2DD0-2DD6:A 2DD8-2DDE:A 2DE0-2DFF:E 2E2F:A 3000:S 3005:A 302A-302F:E 3031-3035:K",
    "303B-303C:A 3099-309A:E 309B-309C:K 30A0-30FA:K 30FC-30FF:K 3105-312F:A 3131-318E:A",
    "31A0-31BF:A 31F0-31FF:K 32D0-32FE:K 3300-3357:K A000-A48C:A A4D0-A4FD:A A500-A60C:A",
    "A610-A61F:A A620-A629:D A62A-A62B:A A640-A66E:A A66F-A672:E A674-A67D:E A67F-A69D:A",
    "A69E-A69F:E A6A0-A6EF:A A6F0-A6F1:E A708-A7CD:A A7D0-A7D1:A A7D3:A A7D5-A7DC:A A7F2-A801:A",
    "A802:E A803-A805:A A806:E A807-A80A:A A80B:E A80C-A822:A A823-A827:E A82C:E A840-A873:A",
    "A880-A881:E A882-A8B3:A A8B4-A8C5:E A8D0-A8D9:D A8E0-A8F1:E A8F2-A8F7:A A8FB:A A8FD-A8FE:A",
    "A8FF:E A900-A909:D A90A-A925:A A926-A92D:E A930-A946:A A947-A953:E A960-A97C:A A980-A983:E",
    "A984-A9B2:A A9B3-A9C0:E A9CF:A A9D0-A9D9:D A9E5:E A9F0-A9F9:D AA00-AA28:A AA29-AA36:E",
    "AA40-AA42:A AA43:E AA44-AA4B:A AA4C-AA4D:E AA50-AA59:D AA7B-AA7D:E AAB0:E AAB2-AAB4:E",
    "AAB7-AAB8:E AABE-AABF:E AAC1:E AAE0-AAEA:A AAEB-AAEF:E AAF2-AAF4:A AAF5-AAF6:E AB01-AB06:A",
    "AB09-AB0E:A AB11-AB16:A AB20-AB26:A AB28-AB2E:A AB30-AB69:A AB70-ABE2:A ABE3-ABEA:E",
    "ABEC-ABED:E ABF0-ABF9:D AC00-D7A3:A D7B0-D7C6:A D7CB-D7FB:A FB00-FB06:A FB13-FB17:A FB1D:H",
    "FB1E:E FB1F-FB28:H FB2A-FB36:H FB38-FB3C:H FB3E:H FB40-FB41:H FB43-FB44:H FB46-FB4F:H",
    "FB50-FBB1:A FBD3-FD3D:A FD50-FD8F:A FD92-FDC7:A FDF0-FDFB:A FE00-FE0F:E FE10:M FE13:L",
    "FE14:M FE20-FE2F:E FE33-FE34:X FE4D-FE4F:X FE50:M FE52:B FE54:M FE55:L FE70-FE74:A",
    "FE76-FEFC:A FEFF:F FF07:B FF0C:M FF0E:B FF10-FF19:D FF1A:L FF1B:M FF21-FF3A:A FF3F:X",
    "FF41-FF5A:A FF66-FF9D:K FF9E-FF9F:E FFA0-FFBE:A FFC2-FFC7:A FFCA-FFCF:A FFD2-FFD7:A",
    "FFDA-FFDC:A FFF9-FFFB:F 10000-1000B:A 1000D-10026:A 10028-1003A:A 1003C-1003D:A",
    "1003F-1004D:A 10050-1005D:A 10080-100FA:A 10140-10174:A 101FD:E 10280-1029C:A",
    "102A0-102D0:A 102E0:E 10300-1031F:A 1032D-1034A:A 10350-10375:A 10376-1037A:E",
    "10380-1039D:A 103A0-103C3:A 103C8-103CF:A 103D1-103D5:A 10400-1049D:A 104A0-104A9:D",
    "104B0-104D3:A 104D8-104FB:A 10500-10527:A 10530-10563:A 10570-1057A:A 1057C-1058A:A",
    "1058C-10592:A 10594-10595:A 10597-105A1:A 105A3-105B1:A 105B3-105B9:A 105BB-105BC:A",
    "105C0-105F3:A 10600-10736:A 10740-10755:A 10760-10767:A 10780-10785:A 10787-107B0:A",
    "107B2-107BA:A 10800-10805:A 10808:A 1080A-10835:A 10837-10838:A 1083C:A 1083F-10855:A",
    "10860-10876:A 10880-1089E:A 108E0-108F2:A 108F4-108F5:A 10900-10915:A 10920-10939:A",
    "10980-109B7:A 109BE-109BF:A 10A00:A 10A01-10A03:E 10A05-10A06:E 10A0C-10A0F:E",
    "10A10-10A13:A 10A15-10A17:A 10A19-10A35:A 10A38-10A3A:E 10A3F:E 10A60-10A7C:A",
    "10A80-10A9C:A 10AC0-10AC7:A 10AC9-10AE4:A 10AE5-10AE6:E 10B00-10B35:A 10B40-10B55:A",
    "10B60-10B72:A 10B80-10B91:A 10C00-10C48:A 10C80-10CB2:A 10CC0-10CF2:A 10D00-10D23:A",
    "10D24-10D27:E 10D30-10D39:D 10D40-10D49:D 10D4A-10D65:A 10D69-10D6D:E 10D6F-10D85:A",
    "10E80-10EA9:A 10EAB-10EAC:E 10EB0-10EB1:A 10EC2-10EC4:A 10EFC-10EFF:E 10F00-10F1C:A",
    "10F27:A 10F30-10F45:A 10F46-10F50:E 10F70-10F81:A 10F82-10F85:E 10FB0-10FC4:A",
    "10FE0-10FF6:A 11000-11002:E 11003-11037:A 11038-11046:E 11066-1106F:D 11070:E",
    "11071-11072:A 11073-11074:E 11075:A 1107F-11082:E 11083-110AF:A 110B0-110BA:E 110BD:F",
    "110C2:E 110CD:F 110D0-110E8:A 110F0-110F9:D 11100-11102:E 11103-11126:A 11127-11134:E",
    "11136-1113F:D 11144:A 11145-11146:E 11147:A 11150-11172:A 11173:E 11176:A 11180-11182:E",
    "11183-111B2:A 111B3-111C0:E 111C1-111C4:A 111C9-111CC:E 111CE-111CF:E 111D0-111D9:D",
    "111DA:A 111DC:A 11200-11211:A 11213-1122B:A 1122C-11237:E 1123E:E 1123F-11240:A 11241:E",
    "11280-11286:A 11288:A 1128A-1128D:A 1128F-1129D:A 1129F-112A8:A 112B0-112DE:A",
    "112DF-112EA:E 112F0-112F9:D 11300-11303:E 11305-1130C:A 1130F-11310:A 11313-11328:A",
    "1132A-11330:A 11332-11333:A 11335-11339:A 1133B-1133C:E 1133D:A 1133E-11344:E",
    "11347-11348:E 1134B-1134D:E 11350:A 11357:E 1135D-11361:A 11362-11363:E 11366-1136C:E",
    "11370-11374:E 11380-11389:A 1138B:A 1138E:A 11390-113B5:A 113B7:A 113B8-113C0:E 113C2:E",
    "113C5:E 113C7-113CA:E 113CC-113D0:E 113D1:A 113D2:E 113D3:A 113E1-113E2:E 11400-11434:A",
    "11435-11446:E 11447-1144A:A 11450-11459:D 1145E:E 1145F-11461:A 11480-114AF:A",
    "114B0-114C3:E 114C4-114C5:A 114C7:A 114D0-114D9:D 11580-115AE:A 115AF-115B5:E",
    "115B8-115C0:E 115D8-115DB:A 115DC-115DD:E 11600-1162F:A 11630-11640:E 11644:A",
    "11650-11659:D 11680-116AA:A 116AB-116B7:E 116B8:A 116C0-116C9:D 116D0-116E3:D",
    "1171D-1172B:E 11730-11739:D 11800-1182B:A 1182C-1183A:E 118A0-118DF:A 118E0-118E9:D",
    "118FF-11906:A 11909:A 1190C-11913:A 11915-11916:A 11918-1192F:A 11930-11935:E",
    "11937-11938:E 1193B-1193E:E 1193F:A 11940:E 11941:A 11942-11943:E 11950-11959:D",
    "119A0-119A7:A 119AA-119D0:A 119D1-119D7:E 119DA-119E0:E 119E1:A 119E3:A 119E4:E 11A00:A",
    "11A01-11A0A:E 11A0B-11A32:A 11A33-11A39:E 11A3A:A 11A3B-11A3E:E 11A47:E 11A50:A",
    "11A51-11A5B:E 11A5C-11A89:A 11A8A-11A99:E 11A9D:A 11AB0-11AF8:A 11BC0-11BE0:A",
    "11BF0-11BF9:D 11C00-11C08:A 11C0A-11C2E:A 11C2F-11C36:E 11C38-11C3F:E 11C40:A",
    "11C50-11C59:D 11C72-11C8F:A 11C92-11CA7:E 11CA9-11CB6:E 11D00-11D06:A 11D08-11D09:A",
    "11D0B-11D30:A 11D31-11D36:E 11D3A:E 11D3C-11D3D:E 11D3F-11D45:E 11D46:A 11D47:E",
    "11D50-11D59:D 11D60-11D65:A 11D67-11D68:A 11D6A-11D89:A 11D8A-11D8E:E 11D90-11D91:E",
    "11D93-11D97:E 11D98:A 11DA0-11DA9:D 11EE0-11EF2:A 11EF3-11EF6:E 11F00-11F01:E 11F02:A",
    "11F03:E 11F04-11F10:A 11F12-11F33:A 11F34-11F3A:E 11F3E-11F42:E 11F50-11F59:D 11F5A:E",
    "11FB0:A 12000-12399:A 12400-1246E:A 12480-12543:A 12F90-12FF0:A 13000-1342F:A",
    "13430-1343F:F 13440:E 13441-13446:A 13447-13455:E 13460-143FA:A 14400-14646:A",
    "16100-1611D:A 1611E-1612F:E 16130-16139:D 16800-16A38:A 16A40-16A5E:A 16A60-16A69:D",
    "16A70-16ABE:A 16AC0-16AC9:D 16AD0-16AED:A 16AF0-16AF4:E 16B00-16B2F:A 16B30-16B36:E",
    "16B40-16B43:A 16B50-16B59:D 16B63-16B77:A 16B7D-16B8F:A 16D40-16D6C:A 16D70-16D79:D",
    "16E40-16E7F:A 16F00-16F4A:A 16F4F:E 16F50:A 16F51-16F87:E 16F8F-16F92:E 16F93-16F9F:A",
    "16FE0-16FE1:A 16FE3:A 16FE4:E 16FF0-16FF1:E 1AFF0-1AFF3:K 1AFF5-1AFFB:K 1AFFD-1AFFE:K",
    "1B000:K 1B120-1B122:K 1B155:K 1B164-1B167:K 1BC00-1BC6A:A 1BC70-1BC7C:A 1BC80-1BC88:A",
    "1BC90-1BC99:A 1BC9D-1BC9E:E 1BCA0-1BCA3:F 1CCF0-1CCF9:D 1CF00-1CF2D:E 1CF30-1CF46:E",
    "1D165-1D169:E 1D16D-1D172:E 1D173-1D17A:F 1D17B-1D182:E 1D185-1D18B:E 1D1AA-1D1AD:E",
    "1D242-1D244:E 1D400-1D454:A 1D456-1D49C:A 1D49E-1D49F:A 1D4A2:A 1D4A5-1D4A6:A",
    "1D4A9-1D4AC:A 1D4AE-1D4B9:A 1D4BB:A 1D4BD-1D4C3:A 1D4C5-1D505:A 1D507-1D50A:A",
    "1D50D-1D514:A 1D516-1D51C:A 1D51E-1D539:A 1D53B-1D53E:A 1D540-1D544:A 1D546:A",
    "1D54A-1D550:A 1D552-1D6A5:A 1D6A8-1D6C0:A 1D6C2-1D6DA:A 1D6DC-1D6FA:A 1D6FC-1D714:A",
    "1D716-1D734:A 1D736-1D74E:A 1D750-1D76E:A 1D770-1D788:A 1D78A-1D7A8:A 1D7AA-1D7C2:A",
    "1D7C4-1D7CB:A 1D7CE-1D7FF:D 1DA00-1DA36:E 1DA3B-1DA6C:E 1DA75:E 1DA84:E 1DA9B-1DA9F:E",
    "1DAA1-1DAAF:E 1DF00-1DF1E:A 1DF25-1DF2A:A 1E000-1E006:E 1E008-1E018:E 1E01B-1E021:E",
    "1E023-1E024:E 1E026-1E02A:E 1E030-1E06D:A 1E08F:E 1E100-1E12C:A 1E130-1E136:E",
    "1E137-1E13D:A 1E140-1E149:D 1E14E:A 1E290-1E2AD:A 1E2AE:E 1E2C0-1E2EB:A 1E2EC-1E2EF:E",
    "1E2F0-1E2F9:D 1E4D0-1E4EB:A 1E4EC-1E4EF:E 1E4F0-1E4F9:D 1E5D0-1E5ED:A 1E5EE-1E5EF:E",
    "1E5F0:A 1E5F1-1E5FA:D 1E7E0-1E7E6:A 1E7E8-1E7EB:A 1E7ED-1E7EE:A 1E7F0-1E7FE:A",
    "1E800-1E8C4:A 1E8D0-1E8D6:E 1E900-1E943:A 1E944-1E94A:E 1E94B:A 1E950-1E959:D",
    "1EE00-1EE03:A 1EE05-1EE1F:A 1EE21-1EE22:A 1EE24:A 1EE27:A 1EE29-1EE32:A 1EE34-1EE37:A",
    "1EE39:A 1EE3B:A 1EE42:A 1EE47:A 1EE49:A 1EE4B:A 1EE4D-1EE4F:A 1EE51-1EE52:A 1EE54:A",
    "1EE57:A 1EE59:A 1EE5B:A 1EE5D:A 1EE5F:A 1EE61-1EE62:A 1EE64:A 1EE67-1EE6A:A 1EE6C-1EE72:A",
    "1EE74-1EE77:A 1EE79-1EE7C:A 1EE7E:A 1EE80-1EE89:A 1EE8B-1EE9B:A 1EEA1-1EEA3:A",
    "1EEA5-1EEA9:A 1EEAB-1EEBB:A 1F130-1F149:A 1F150-1F169:A 1F170-1F189:A 1F1E6-1F1FF:I",
    "1F3FB-1F3FF:E 1FBF0-1FBF9:D E0001:F E0020-E007F:E E0100-E01EF:E"])

/-- The word break class of a character. -/
def WordClass.of (c : Char) : WordClass :=
  (wordBreakTable.find? c).getD .other

end LogBrowser.Unicode
