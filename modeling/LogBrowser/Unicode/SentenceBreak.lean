import LogBrowser.Unicode.CodeSet

/-!
# Sentence break classes

The Sentence_Break property of Unicode 16.0, each interval carrying the number of its class in
`sentenceBreakNames`. A code point in no interval has the class Other.
-/

namespace LogBrowser.Unicode

/-- The names of the sentence break classes, by number. -/
def sentenceBreakNames : List String :=
  ["ATerm", "CR", "Close", "Extend", "Format", "LF", "Lower", "Numeric", "OLetter", "SContinue", "STerm", "Sep", "Sp", "Upper"]

/-- The sentence break classes by interval. -/
def sentenceBreakTable : CodeMap Nat := CodeMap.ofHex (fun s => some (readHex s))
  (" ".intercalate [
    "9:C A:5 B-C:C D:1 20:C 21:A 22:2 27-29:2 2C-2D:9 2E:0 30-39:7 3A:9 3F:A 41-5A:D 5B:2 5D:2",
    "61-7A:6 7B:2 7D:2 85:B A0:C AA:6 AB:2 AD:4 B5:6 BA:6 BB:2 C0-D6:D D8-DE:D DF-F6:6 F8-FF:6",
    "100:D 101:6 102:D 103:6 104:D 105:6 106:D 107:6 108:D 109:6 10A:D 10B:6 10C:D 10D:6 10E:D",
    "10F:6 110:D 111:6 112:D 113:6 114:D 115:6 116:D 117:6 118:D 119:6 11A:D 11B:6 11C:D 11D:6",
    "11E:D 11F:6 120:D 121:6 122:D 123:6 124:D 125:6 126:D 127:6 128:D 129:6 12A:D 12B:6 12C:D",
    "12D:6 12E:D 12F:6 130:D 131:6 132:D 133:6 134:D 135:6 136:D 137-138:6 139:D 13A:6 13B:D",
    "13C:6 13D:D 13E:6 13F:D 140:6 141:D 142:6 143:D 144:6 145:D 146:6 147:D 148-149:6 14A:D",
    "14B:6 14C:D 14D:6 14E:D 14F:6 150:D 151:6 152:D 153:6 154:D 155:6 156:D 157:6 158:D 159:6",
    "15A:D 15B:6 15C:D 15D:6 15E:D 15F:6 160:D 161:6 162:D 163:6 164:D 165:6 166:D 167:6 168:D",
    "169:6 16A:D 16B:6 16C:D 16D:6 16E:D 16F:6 170:D 171:6 172:D 173:6 174:D 175:6 176:D 177:6",
    "178-179:D 17A:6 17B:D 17C:6 17D:D 17E-180:6 181-182:D 183:6 184:D 185:6 186-187:D 188:6",
    "189-18B:D 18C-18D:6 18E-191:D 192:6 193-194:D 195:6 196-198:D 199-19B:6 19C-19D:D 19E:6",
    "19F-1A0:D 1A1:6 1A2:D 1A3:6 1A4:D 1A5:6 1A6-1A7:D 1A8:6 1A9:D 1AA-1AB:6 1AC:D 1AD:6",
    "1AE-1AF:D 1B0:6 1B1-1B3:D 1B4:6 1B5:D 1B6:6 1B7-1B8:D 1B9-1BA:6 1BB:8 1BC:D 1BD-1BF:6",
    "1C0-1C3:8 1C4-1C5:D 1C6:6 1C7-1C8:D 1C9:6 1CA-1CB:D 1CC:6 1CD:D 1CE:6 1CF:D 1D0:6 1D1:D",
    "1D2:6 1D3:D 1D4:6 1D5:D 1D6:6 1D7:D 1D8:6 1D9:D 1DA:6 1DB:D 1DC-1DD:6 1DE:D 1DF:6 1E0:D",
    "1E1:6 1E2:D 1E3:6 1E4:D 1E5:6 1E6:D 1E7:6 1E8:D 1E9:6 1EA:D 1EB:6 1EC:D 1ED:6 1EE:D",
    "1EF-1F0:6 1F1-1F2:D 1F3:6 1F4:D 1F5:6 1F6-1F8:D 1F9:6 1FA:D 1FB:6 1FC:D 1FD:6 1FE:D 1FF:6",
    "200:D 201:6 202:D 203:6 204:D 205:6 206:D 207:6 208:D 209:6 20A:D 20B:6 20C:D 20D:6 20E:D",
    "20F:6 210:D 211:6 212:D 213:6 214:D 215:6 216:D 217:6 218:D 219:6 21A:D 21B:6 21C:D 21D:6",
    "21E:D 21F:6 220:D 221:6 222:D 223:6 224:D 225:6 226:D 227:6 228:D 229:6 22A:D 22B:6 22C:D",
    "22D:6 22E:D 22F:6 230:D 231:6 232:D 233-239:6 23A-23B:D 23C:6 23D-23E:D 23F-240:6 241:D",
    "242:6 243-246:D 247:6 248:D 249:6 24A:D 24B:6 24C:D 24D:6 24E:D 24F-293:6 294:8 295-2B8:6",
    "2B9-2BF:8 2C0-2C1:6 2C6-2D1:8 2E0-2E4:6 2EC:8 2EE:8 300-36F:3 370:D 371:6 372:D 373:6",
    "374:8 376:D 377:6 37A-37D:6 37F:D 386:D 388-38A:D 38C:D 38E-38F:D 390:6 391-3A1:D",
    "3A3-3AB:D 3AC-3CE:6 3CF:D 3D0-3D1:6 3D2-3D4:D 3D5-3D7:6 3D8:D 3D9:6 3DA:D 3DB:6 3DC:D",
    "3DD:6 3DE:D 3DF:6 3E0:D 3E1:6 3E2:D 3E3:6 3E4:D 3E5:6 3E6:D 3E7:6 3E8:D 3E9:6 3EA:D 3EB:6",
    "3EC:D 3ED:6 3EE:D 3EF-3F3:6 3F4:D 3F5:6 3F7:D 3F8:6 3F9-3FA:D 3FB-3FC:6 3FD-42F:D",
    "430-45F:6 460:D 461:6 462:D 463:6 464:D 465:6 466:D 467:6 468:D 469:6 46A:D 46B:6 46C:D",
    "46D:6 46E:D 46F:6 470:D 471:6 472:D 473:6 474:D 475:6 476:D 477:6 478:D 479:6 47A:D 47B:6",
    "47C:D 47D:6 47E:D 47F:6 480:D 481:6 483-489:3 48A:D 48B:6 48C:D 48D:6 48E:D 48F:6 490:D",
    "491:6 492:D 493:6 494:D 495:6 496:D 497:6 498:D 499:6 49A:D 49B:6 49C:D 49D:6 49E:D 49F:6",
    "4A0:D 4A1:6 4A2:D 4A3:6 4A4:D 4A5:6 4A6:D 4A7:6 4A8:D 4A9:6 4AA:D 4AB:6 4AC:D 4AD:6 4AE:D",
    "4AF:6 4B0:D 4B1:6 4B2:D 4B3:6 4B4:D 4B5:6 4B6:D 4B7:6 4B8:D 4B9:6 4BA:D 4BB:6 4BC:D 4BD:6",
    "4BE:D 4BF:6 4C0-4C1:D 4C2:6 4C3:D 4C4:6 4C5:D 4C6:6 4C7:D 4C8:6 4C9:D 4CA:6 4CB:D 4CC:6",
    "4CD:D 4CE-4CF:6 4D0:D 4D1:6 4D2:D 4D3:6 4D4:D 4D5:6 4D6:D 4D7:6 4D8:D 4D9:6 4DA:D 4DB:6",
    "4DC:D 4DD:6 4DE:D 4DF:6 4E0:D 4E1:6 4E2:D 4E3:6 4E4:D 4E5:6 4E6:D 4E7:6 4E8:D 4E9:6 4EA:D",
    "4EB:6 4EC:D 4ED:6 4EE:D 4EF:6 4F0:D 4F1:6 4F2:D 4F3:6 4F4:D 4F5:6 4F6:D 4F7:6 4F8:D 4F9:6",
    "4FA:D 4FB:6 4FC:D 4FD:6 4FE:D 4FF:6 500:D 501:6 502:D 503:6 504:D 505:6 506:D 507:6 508:D",
    "509:6 50A:D 50B:6 50C:D 50D:6 50E:D 50F:6 510:D 511:6 512:D 513:6 514:D 515:6 516:D 517:6",
    "518:D 519:6 51A:D 51B:6 51C:D 51D:6 51E:D 51F:6 520:D 521:6 522:D 523:6 524:D 525:6 526:D",
    "527:6 528:D 529:6 52A:D 52B:6 52C:D 52D:6 52E:D 52F:6 531-556:D 559:8 55D:9 560-588:6",
    "589:A 591-5BD:3 5BF:3 5C1-5C2:3 5C4-5C5:3 5C7:3 5D0-5EA:8 5EF-5F3:8 600-605:4 60C-60D:9",
    "610-61A:3 61C:4 61D-61F:A 620-64A:8 64B-65F:3 660-669:7 66B-66C:7 66E-66F:8 670:3",
    "671-6D3:8 6D4:A 6D5:8 6D6-6DC:3 6DD:4 6DF-6E4:3 6E5-6E6:8 6E7-6E8:3 6EA-6ED:3 6EE-6EF:8",
    "6F0-6F9:7 6FA-6FC:8 6FF:8 700-702:A 70F:4 710:8 711:3 712-72F:8 730-74A:3 74D-7A5:8",
    "7A6-7B0:3 7B1:8 7C0-7C9:7 7CA-7EA:8 7EB-7F3:3 7F4-7F5:8 7F8:9 7F9:A 7FA:8 7FD:3 800-815:8",
    "816-819:3 81A:8 81B-823:3 824:8 825-827:3 828:8 829-82D:3 837:A 839:A 83D-83E:A 840-858:8",
    "859-85B:3 860-86A:8 870-887:8 889-88E:8 890-891:4 897-89F:3 8A0-8C9:8 8CA-8E1:3 8E2:4",
    "8E3-903:3 904-939:8 93A-93C:3 93D:8 93E-94F:3 950:8 951-957:3 958-961:8 962-963:3",
    "964-965:A 966-96F:7 971-980:8 981-983:3 985-98C:8 98F-990:8 993-9A8:8 9AA-9B0:8 9B2:8",
    "9B6-9B9:8 9BC:3 9BD:8 9BE-9C4:3 9C7-9C8:3 9CB-9CD:3 9CE:8 9D7:3 9DC-9DD:8 9DF-9E1:8",
    "9E2-9E3:3 9E6-9EF:7 9F0-9F1:8 9FC:8 9FE:3 A01-A03:3 A05-A0A:8 A0F-A10:8 A13-A28:8",
    "A2A-A30:8 A32-A33:8 A35-A36:8 A38-A39:8 A3C:3 A3E-A42:3 A47-A48:3 A4B-A4D:3 A51:3",
    "A59-A5C:8 A5E:8 A66-A6F:7 A70-A71:3 A72-A74:8 A75:3 A81-A83:3 A85-A8D:8 A8F-A91:8",
    "A93-AA8:8 AAA-AB0:8 AB2-AB3:8 AB5-AB9:8 ABC:3 ABD:8 ABE-AC5:3 AC7-AC9:3 ACB-ACD:3 AD0:8",
    "AE0-AE1:8 AE2-AE3:3 AE6-AEF:7 AF9:8 AFA-AFF:3 B01-B03:3 B05-B0C:8 B0F-B10:8 B13-B28:8",
    "B2A-B30:8 B32-B33:8 B35-B39:8 B3C:3 B3D:8 B3E-B44:3 B47-B48:3 B4B-B4D:3 B55-B57:3",
    "B5C-B5D:8 B5F-B61:8 B62-B63:3 B66-B6F:7 B71:8 B82:3 B83:8 B85-B8A:8 B8E-B90:8 B92-B95:8",
    "B99-B9A:8 B9C:8 B9E-B9F:8 BA3-BA4:8 BA8-BAA:8 BAE-BB9:8 BBE-BC2:3 BC6-BC8:3 BCA-BCD:3",
    "BD0:8 BD7:3 BE6-BEF:7 C00-C04:3 C05-C0C:8 C0E-C10:8 C12-C28:8 C2A-C39:8 C3C:3 C3D:8",
    "C3E-C44:3 C46-C48:3 C4A-C4D:3 C55-C56:3 C58-C5A:8 C5D:8 C60-C61:8 C62-C63:3 C66-C6F:7",
    "C80:8 C81-C83:3 C85-C8C:8 C8E-C90:8 C92-CA8:8 CAA-CB3:8 CB5-CB9:8 CBC:3 CBD:8 CBE-CC4:3",
    "CC6-CC8:3 CCA-CCD:3 CD5-CD6:3 CDD-CDE:8 CE0-CE1:8 CE2-CE3:3 CE6-CEF:7 CF1-CF2:8 CF3:3",
    "D00-D03:3 D04-D0C:8 D0E-D10:8 D12-D3A:8 D3B-D3C:3 D3D:8 D3E-D44:3 D46-D48:3 D4A-D4D:3",
    "D4E:8 D54-D56:8 D57:3 D5F-D61:8 D62-D63:3 D66-D6F:7 D7A-D7F:8 D81-D83:3 D85-D96:8",
    "D9A-DB1:8 DB3-DBB:8 DBD:8 DC0-DC6:8 DCA:3 DCF-DD4:3 DD6:3 DD8-DDF:3 DE6-DEF:7 DF2-DF3:3",
    "E01-E30:8 E31:3 E32-E33:8 E34-E3A:3 E40-E46:8 E47-E4E:3 E50-E59:7 E81-E82:8 E84:8",
    "E86-E8A:8 E8C-EA3:8 EA5:8 EA7-EB0:8 EB1:3 EB2-EB3:8 EB4-EBC:3 EBD:8 EC0-EC4:8 EC6:8",
    "EC8-ECE:3 ED0-ED9:7 EDC-EDF:8 F00:8 F18-F19:3 F20-F29:7 F35:3 F37:3 F39:3 F3A-F3D:2",
    "F3E-F3F:3 F40-F47:8 F49-F6C:8 F71-F84:3 F86-F87:3 F88-F8C:8 F8D-F97:3 F99-FBC:3 FC6:3",
    "1000-102A:8 102B-103E:3 103F:8 1040-1049:7 104A-104B:A 1050-1055:8 1056-1059:3 105A-105D:8",
    "105E-1060:3 1061:8 1062-1064:3 1065-1066:8 1067-106D:3 106E-1070:8 1071-1074:3 1075-1081:8",
    "1082-108D:3 108E:8 108F:3 1090-1099:7 109A-109D:3 10A0-10C5:D 10C7:D 10CD:D 10D0-10FA:8",
    "10FC:6 10FD-1248:8 124A-124D:8 1250-1256:8 1258:8 125A-125D:8 1260-1288:8 128A-128D:8",
    "1290-12B0:8 12B2-12B5:8 12B8-12BE:8 12C0:8 12C2-12C5:8 12C8-12D6:8 12D8-1310:8 1312-1315:8",
    "1318-135A:8 135D-135F:3 1362:A 1367-1368:A 1380-138F:8 13A0-13F5:D 13F8-13FD:6 1401-166C:8",
    "166E:A 166F-167F:8 1680:C 1681-169A:8 169B-169C:2 16A0-16EA:8 16EE-16F8:8 1700-1711:8",
    "1712-1715:3 171F-1731:8 1732-1734:3 1735-1736:A 1740-1751:8 1752-1753:3 1760-176C:8",
    "176E-1770:8 1772-1773:3 1780-17B3:8 17B4-17D3:3 17D7:8 17DC:8 17DD:3 17E0-17E9:7 1802:9",
    "1803:A 1808:9 1809:A 180B-180D:3 180E:4 180F:3 1810-1819:7 1820-1878:8 1880-1884:8",
    "1885-1886:3 1887-18A8:8 18A9:3 18AA:8 18B0-18F5:8 1900-191E:8 1920-192B:3 1930-193B:3",
    "1944-1945:A 1946-194F:7 1950-196D:8 1970-1974:8 1980-19AB:8 19B0-19C9:8 19D0-19D9:7",
    "1A00-1A16:8 1A17-1A1B:3 1A20-1A54:8 1A55-1A5E:3 1A60-1A7C:3 1A7F:3 1A80-1A89:7 1A90-1A99:7",
    "1AA7:8 1AA8-1AAB:A 1AB0-1ACE:3 1B00-1B04:3 1B05-1B33:8 1B34-1B44:3 1B45-1B4C:8 1B50-1B59:7",
    "1B5A-1B5B:A 1B5E-1B5F:A 1B6B-1B73:3 1B7D-1B7E:A 1B80-1B82:3 1B83-1BA0:8 1BA1-1BAD:3",
    "1BAE-1BAF:8 1BB0-1BB9:7 1BBA-1BE5:8 1BE6-1BF3:3 1C00-1C23:8 1C24-1C37:3 1C3B-1C3C:A",
    "1C40-1C49:7 1C4D-1C4F:8 1C50-1C59:7 1C5A-1C7D:8 1C7E-1C7F:A 1C80-1C88:6 1C89:D 1C8A:6",
    "1C90-1CBA:8 1CBD-1CBF:8 1CD0-1CD2:3 1CD4-1CE8:3 1CE9-1CEC:8 1CED:3 1CEE-1CF3:8 1CF4:3",
    "1CF5-1CF6:8 1CF7-1CF9:3 1CFA:8 1D00-1DBF:6 1DC0-1DFF:3 1E00:D 1E01:6 1E02:D 1E03:6 1E04:D",
    "1E05:6 1E06:D 1E07:6 1E08:D 1E09:6 1E0A:D 1E0B:6 1E0C:D 1E0D:6 1E0E:D 1E0F:6 1E10:D 1E11:6",
    "1E12:D 1E13:6 1E14:D 1E15:6 1E16:D 1E17:6 1E18:D 1E19:6 1E1A:D 1E1B:6 1E1C:D 1E1D:6 1E1E:D",
    "1E1F:6 1E20:D 1E21:6 1E22:D 1E23:6 1E24:D 1E25:6 1E26:D 1E27:6 1E28:D 1E29:6 1E2A:D 1E2B:6",
    "1E2C:D 1E2D:6 1E2E:D 1E2F:6 1E30:D 1E31:6 1E32:D 1E33:6 1E34:D 1E35:6 1E36:D 1E37:6 1E38:D",
    "1E39:6 1E3A:D 1E3B:6 1E3C:D 1E3D:6 1E3E:D 1E3F:6 1E40:D 1E41:6 1E42:D 1E43:6 1E44:D 1E45:6",
    "1E46:D 1E47:6 1E48:D 1E49:6 1E4A:D 1E4B:6 1E4C:D 1E4D:6 1E4E:D 1E4F:6 1E50:D 1E51:6 1E52:D",
    "1E53:6 1E54:D 1E55:6 1E56:D 1E57:6 1E58:D 1E59:6 1E5A:D 1E5B:6 1E5C:D 1E5D:6 1E5E:D 1E5F:6",
    "1E60:D 1E61:6 1E62:D 1E63:6 1E64:D 1E65:6 1E66:D 1E67:6 1E68:D 1E69:6 1E6A:D 1E6B:6 1E6C:D",
    "1E6D:6 1E6E:D 1E6F:6 1E70:D 1E71:6 1E72:D 1E73:6 1E74:D 1E75:6 1E76:D 1E77:6 1E78:D 1E79:6",
    "1E7A:D 1E7B:6 1E7C:D 1E7D:6 1E7E:D 1E7F:6 1E80:D 1E81:6 1E82:D 1E83:6 1E84:D 1E85:6 1E86:D",
    "1E87:6 1E88:D 1E89:6 1E8A:D 1E8B:6 1E8C:D 1E8D:6 1E8E:D 1E8F:6 1E90:D 1E91:6 1E92:D 1E93:6",
    "1E94:D 1E95-1E9D:6 1E9E:D 1E9F:6 1EA0:D 1EA1:6 1EA2:D 1EA3:6 1EA4:D 1EA5:6 1EA6:D 1EA7:6",
    "1EA8:D 1EA9:6 1EAA:D 1EAB:6 1EAC:D 1EAD:6 1EAE:D 1EAF:6 1EB0:D 1EB1:6 1EB2:D 1EB3:6 1EB4:D",
    "1EB5:6 1EB6:D 1EB7:6 1EB8:D 1EB9:6 1EBA:D 1EBB:6 1EBC:D 1EBD:6 1EBE:D 1EBF:6 1EC0:D 1EC1:6",
    "1EC2:D 1EC3:6 1EC4:D 1EC5:6 1EC6:D 1EC7:6 1EC8:D 1EC9:6 1ECA:D 1ECB:6 1ECC:D 1ECD:6 1ECE:D",
    "1ECF:6 1ED0:D 1ED1:6 1ED2:D 1ED3:6 1ED4:D 1ED5:6 1ED6:D 1ED7:6 1ED8:D 1ED9:6 1EDA:D 1EDB:6",
    "1EDC:D 1EDD:6 1EDE:D 1EDF:6 1EE0:D 1EE1:6 1EE2:D 1EE3:6 1EE4:D 1EE5:6 1EE6:D 1EE7:6 1EE8:D",
    "1EE9:6 1EEA:D 1EEB:6 1EEC:D 1EED:6 1EEE:D 1EEF:6 1EF0:D 1EF1:6 1EF2:D 1EF3:6 1EF4:D 1EF5:6",
    "1EF6:D 1EF7:6 1EF8:D 1EF9:6 1EFA:D 1EFB:6 1EFC:D 1EFD:6 1EFE:D 1EFF-1F07:6 1F08-1F0F:D",
    "1F10-1F15:6 1F18-1F1D:D 1F20-1F27:6 1F28-1F2F:D 1F30-1F37:6 1F38-1F3F:D 1F40-1F45:6",
    "1F48-1F4D:D 1F50-1F57:6 1F59:D 1F5B:D 1F5D:D 1F5F:D 1F60-1F67:6 1F68-1F6F:D 1F70-1F7D:6",
    "1F80-1F87:6 1F88-1F8F:D 1F90-1F97:6 1F98-1F9F:D 1FA0-1FA7:6 1FA8-1FAF:D 1FB0-1FB4:6",
    "1FB6-1FB7:6 1FB8-1FBC:D 1FBE:6 1FC2-1FC4:6 1FC6-1FC7:6 1FC8-1FCC:D 1FD0-1FD3:6 1FD6-1FD7:6",
    "1FD8-1FDB:D 1FE0-1FE7:6 1FE8-1FEC:D 1FF2-1FF4:6 1FF6-1FF7:6 1FF8-1FFC:D 2000-200A:C 200B:4",
    "200C-200D:3 200E-200F:4 2013-2014:9 2018-201F:2 2024:0 2028-2029:B 202A-202E:4 202F:C",
    "2039-203A:2 203C-203D:A 2045-2046:2 2047-2049:A 205F:C 2060-2064:4 2066-206F:4 2071:6",
    "207D-207E:2 207F:6 208D-208E:2 2090-209C:6 20D0-20F0:3 2102:D 2107:D 210A:6 210B-210D:D",
    "210E-210F:6 2110-2112:D 2113:6 2115:D 2119-211D:D 2124:D 2126:D 2128:D 212A-212D:D 212F:6",
    "2130-2133:D 2134:6 2135-2138:8 2139:6 213C-213D:6 213E-213F:D 2145:D 2146-2149:6 214E:6",
    "2160-216F:D 2170-217F:6 2180-2182:8 2183:D 2184:6 2185-2188:8 2308-230B:2 2329-232A:2",
    "24B6-24CF:D 24D0-24E9:6 275B-2760:2 2768-2775:2 27C5-27C6:2 27E6-27EF:2 2983-2998:2",
    "29D8-29DB:2 29FC-29FD:2 2C00-2C2F:D 2C30-2C5F:6 2C60:D 2C61:6 2C62-2C64:D 2C65-2C66:6",
    "2C67:D 2C68:6 2C69:D 2C6A:6 2C6B:D 2C6C:6 2C6D-2C70:D 2C71:6 2C72:D 2C73-2C74:6 2C75:D",
    "2C76-2C7D:6 2C7E-2C80:D 2C81:6 2C82:D 2C83:6 2C84:D 2C85:6 2C86:D 2C87:6 2C88:D 2C89:6",
    "2C8A:D 2C8B:6 2C8C:D 2C8D:6 2C8E:D 2C8F:6 2C90:D 2C91:6 2C92:D 2C93:6 2C94:D 2C95:6 2C96:D",
    "2C97:6 2C98:D 2C99:6 2C9A:D 2C9B:6 2C9C:D 2C9D:6 2C9E:D 2C9F:6 2CA0:D 2CA1:6 2CA2:D 2CA3:6",
    "2CA4:D 2CA5:6 2CA6:D 2CA7:6 2CA8:D 2CA9:6 2CAA:D 2CAB:6 2CAC:D 2CAD:6 2CAE:D 2CAF:6 2CB0:D",
    "2CB1:6 2CB2:D 2CB3:6 2CB4:D 2CB5:6 2CB6:D 2CB7:6 2CB8:D 2CB9:6 2CBA:D 2CBB:6 2CBC:D 2CBD:6",
    "2CBE:D 2CBF:6 2CC0:D 2CC1:6 2CC2:D 2CC3:6 2CC4:D 2CC5:6 2CC6:D 2CC7:6 2CC8:D 2CC9:6 2CCA:D",
    "2CCB:6 2CCC:D 2CCD:6 2CCE:D 2CCF:6 2CD0:D 2CD1:6 2CD2:D 2CD3:6 2CD4:D 2CD5:6 2CD6:D 2CD7:6",
    "2CD8:D 2CD9:6 2CDA:D 2CDB:6 2CDC:D 2CDD:6 2CDE:D 2CDF:6 2CE0:D 2CE1:6 2CE2:D 2CE3-2CE4:6",
    "2CEB:D 2CEC:6 2CED:D 2CEE:6 2CEF-2CF1:3 2CF2:D 2CF3:6 2D00-2D25:6 2D27:6 2D2D:6",
    "2D30-2D67:8 2D6F:8 2D7F:3 2D80-2D96:8 2DA0-2DA6:8 2DA8-2DAE:8 2DB0-2DB6:8 2DB8-2DBE:8",
    "2DC0-2DC6:8 2DC8-2DCE:8 2DD0-2DD6:8 2DD8-2DDE:8 2DE0-2DFF:3 2E00-2E0D:2 2E1C-2E1D:2",
    "2E20-2E29:2 2E2E:A 2E2F:8 2E3C:A 2E42:2 2E53-2E54:A 2E55-2E5C:2 3000:C 3001:9 3002:A",
    "3005-3007:8 3008-3011:2 3014-301B:2 301D-301F:2 3021-3029:8 302A-302F:3 3031-3035:8",
    "3038-303C:8 3041-3096:8 3099-309A:3 309D-309F:8 30A1-30FA:8 30FC-30FF:8 3105-312F:8",
    "3131-318E:8 31A0-31BF:8 31F0-31FF:8 3400-4DBF:8 4E00-A48C:8 A4D0-A4FD:8 A4FF:A A500-A60C:8",
    "A60E-A60F:A A610-A61F:8 A620-A629:7 A62A-A62B:8 A640:D A641:6 A642:D A643:6 A644:D A645:6",
    "A646:D A647:6 A648:D A649:6 A64A:D A64B:6 A64C:D A64D:6 A64E:D A64F:6 A650:D A651:6 A652:D",
    "A653:6 A654:D A655:6 A656:D A657:6 A658:D A659:6 A65A:D A65B:6 A65C:D A65D:6 A65E:D A65F:6",
    "A660:D A661:6 A662:D A663:6 A664:D A665:6 A666:D A667:6 A668:D A669:6 A66A:D A66B:6 A66C:D",
    "A66D:6 A66E:8 A66F-A672:3 A674-A67D:3 A67F:8 A680:D A681:6 A682:D A683:6 A684:D A685:6",
    "A686:D A687:6 A688:D A689:6 A68A:D A68B:6 A68C:D A68D:6 A68E:D A68F:6 A690:D A691:6 A692:D",
    "A693:6 A694:D A695:6 A696:D A697:6 A698:D A699:6 A69A:D A69B-A69D:6 A69E-A69F:3",
    "A6A0-A6EF:8 A6F0-A6F1:3 A6F3:A A6F7:A A717-A71F:8 A722:D A723:6 A724:D A725:6 A726:D",
    "A727:6 A728:D A729:6 A72A:D A72B:6 A72C:D A72D:6 A72E:D A72F-A731:6 A732:D A733:6 A734:D",
    "A735:6 A736:D A737:6 A738:D A739:6 A73A:D A73B:6 A73C:D A73D:6 A73E:D A73F:6 A740:D A741:6",
    "A742:D A743:6 A744:D A745:6 A746:D A747:6 A748:D A749:6 A74A:D A74B:6 A74C:D A74D:6 A74E:D",
    "A74F:6 A750:D A751:6 A752:D A753:6 A754:D A755:6 A756:D A757:6 A758:D A759:6 A75A:D A75B:6",
    "A75C:D A75D:6 A75E:D A75F:6 A760:D A761:6 A762:D A763:6 A764:D A765:6 A766:D A767:6 A768:D",
    "A769:6 A76A:D A76B:6 A76C:D A76D:6 A76E:D A76F-A778:6 A779:D A77A:6 A77B:D A77C:6",
    "A77D-A77E:D A77F:6 A780:D A781:6 A782:D A783:6 A784:D A785:6 A786:D A787:6 A788:8 A78B:D",
    "A78C:6 A78D:D A78E:6 A78F:8 A790:D A791:6 A792:D A793-A795:6 A796:D A797:6 A798:D A799:6",
    "A79A:D A79B:6 A79C:D A79D:6 A79E:D A79F:6 A7A0:D A7A1:6 A7A2:D A7A3:6 A7A4:D A7A5:6 A7A6:D",
    "A7A7:6 A7A8:D A7A9:6 A7AA-A7AE:D A7AF:6 A7B0-A7B4:D A7B5:6 A7B6:D A7B7:6 A7B8:D A7B9:6",
    "A7BA:D A7BB:6 A7BC:D A7BD:6 A7BE:D A7BF:6 A7C0:D A7C1:6 A7C2:D A7C3:6 A7C4-A7C7:D A7C8:6",
    "A7C9:D A7CA:6 A7CB-A7CC:D A7CD:6 A7D0:D A7D1:6 A7D3:6 A7D5:6 A7D6:D A7D7:6 A7D8:D A7D9:6",
    "A7DA:D A7DB:6 A7DC:D A7F2-A7F4:6 A7F5:D A7F6:6 A7F7:8 A7F8-A7FA:6 A7FB-A801:8 A802:3",
    "A803-A805:8 A806:3 A807-A80A:8 A80B:3 A80C-A822:8 A823-A827:3 A82C:3 A840-A873:8",
    "A876-A877:A A880-A881:3 A882-A8B3:8 A8B4-A8C5:3 A8CE-A8CF:A A8D0-A8D9:7 A8E0-A8F1:3",
    "A8F2-A8F7:8 A8FB:8 A8FD-A8FE:8 A8FF:3 A900-A909:7 A90A-A925:8 A926-A92D:3 A92F:A",
    "A930-A946:8 A947-A953:3 A960-A97C:8 A980-A983:3 A984-A9B2:8 A9B3-A9C0:3 A9C8-A9C9:A A9CF:8",
    "A9D0-A9D9:7 A9E0-A9E4:8 A9E5:3 A9E6-A9EF:8 A9F0-A9F9:7 A9FA-A9FE:8 AA00-AA28:8 AA29-AA36:3",
    "AA40-AA42:8 AA43:3 AA44-AA4B:8 AA4C-AA4D:3 AA50-AA59:7 AA5D-AA5F:A AA60-AA76:8 AA7A:8",
    "AA7B-AA7D:3 AA7E-AAAF:8 AAB0:3 AAB1:8 AAB2-AAB4:3 AAB5-AAB6:8 AAB7-AAB8:3 AAB9-AABD:8",
    "AABE-AABF:3 AAC0:8 AAC1:3 AAC2:8 AADB-AADD:8 AAE0-AAEA:8 AAEB-AAEF:3 AAF0-AAF1:A",
    "AAF2-AAF4:8 AAF5-AAF6:3 AB01-AB06:8 AB09-AB0E:8 AB11-AB16:8 AB20-AB26:8 AB28-AB2E:8",
    "AB30-AB5A:6 AB5C-AB69:6 AB70-ABBF:6 ABC0-ABE2:8 ABE3-ABEA:3 ABEB:A ABEC-ABED:3 ABF0-ABF9:7",
    "AC00-D7A3:8 D7B0-D7C6:8 D7CB-D7FB:8 F900-FA6D:8 FA70-FAD9:8 FB00-FB06:6 FB13-FB17:6 FB1D:8",
    "FB1E:3 FB1F-FB28:8 FB2A-FB36:8 FB38-FB3C:8 FB3E:8 FB40-FB41:8 FB43-FB44:8 FB46-FBB1:8",
    "FBD3-FD3D:8 FD3E-FD3F:2 FD50-FD8F:8 FD92-FDC7:8 FDF0-FDFB:8 FE00-FE0F:3 FE10-FE11:9 FE13:9",
    "FE17-FE18:2 FE20-FE2F:3 FE31-FE32:9 FE35-FE44:2 FE47-FE48:2 FE50-FE51:9 FE52:0 FE55:9",
    "FE56-FE57:A FE58:9 FE59-FE5E:2 FE63:9 FE70-FE74:8 FE76-FEFC:8 FEFF:4 FF01:A FF08-FF09:2",
    "FF0C-FF0D:9 FF0E:0 FF10-FF19:7 FF1A:9 FF1F:A FF21-FF3A:D FF3B:2 FF3D:2 FF41-FF5A:6 FF5B:2",
    "FF5D:2 FF5F-FF60:2 FF61:A FF62-FF63:2 FF64:9 FF66-FF9D:8 FF9E-FF9F:3 FFA0-FFBE:8",
    "FFC2-FFC7:8 FFCA-FFCF:8 FFD2-FFD7:8 FFDA-FFDC:8 FFF9-FFFB:4 10000-1000B:8 1000D-10026:8",
    "10028-1003A:8 1003C-1003D:8 1003F-1004D:8 10050-1005D:8 10080-100FA:8 10140-10174:8",
    "101FD:3 10280-1029C:8 102A0-102D0:8 102E0:3 10300-1031F:8 1032D-1034A:8 10350-10375:8",
    "10376-1037A:3 10380-1039D:8 103A0-103C3:8 103C8-103CF:8 103D1-103D5:8 10400-10427:D",
    "10428-1044F:6 10450-1049D:8 104A0-104A9:7 104B0-104D3:D 104D8-104FB:6 10500-10527:8",
    "10530-10563:8 10570-1057A:D 1057C-1058A:D 1058C-10592:D 10594-10595:D 10597-105A1:6",
    "105A3-105B1:6 105B3-105B9:6 105BB-105BC:6 105C0-105F3:8 10600-10736:8 10740-10755:8",
    "10760-10767:8 10780:6 10781-10782:8 10783-10785:6 10787-107B0:6 107B2-107BA:6",
    "10800-10805:8 10808:8 1080A-10835:8 10837-10838:8 1083C:8 1083F-10855:8 10860-10876:8",
    "10880-1089E:8 108E0-108F2:8 108F4-108F5:8 10900-10915:8 10920-10939:8 10980-109B7:8",
    "109BE-109BF:8 10A00:8 10A01-10A03:3 10A05-10A06:3 10A0C-10A0F:3 10A10-10A13:8",
    "10A15-10A17:8 10A19-10A35:8 10A38-10A3A:3 10A3F:3 10A56-10A57:A 10A60-10A7C:8",
    "10A80-10A9C:8 10AC0-10AC7:8 10AC9-10AE4:8 10AE5-10AE6:3 10B00-10B35:8 10B40-10B55:8",
    "10B60-10B72:8 10B80-10B91:8 10C00-10C48:8 10C80-10CB2:D 10CC0-10CF2:6 10D00-10D23:8",
    "10D24-10D27:3 10D30-10D39:7 10D40-10D49:7 10D4A-10D4F:8 10D50-10D65:D 10D69-10D6D:3",
    "10D6F:8 10D70-10D85:6 10E80-10EA9:8 10EAB-10EAC:3 10EB0-10EB1:8 10EC2-10EC4:8",
    "10EFC-10EFF:3 10F00-10F1C:8 10F27:8 10F30-10F45:8 10F46-10F50:3 10F55-10F59:A",
    "10F70-10F81:8 10F82-10F85:3 10F86-10F89:A 10FB0-10FC4:8 10FE0-10FF6:8 11000-11002:3",
    "11003-11037:8 11038-11046:3 11047-11048:A 11066-1106F:7 11070:3 11071-11072:8",
    "11073-11074:3 11075:8 1107F-11082:3 11083-110AF:8 110B0-110BA:3 110BD:4 110BE-110C1:A",
    "110C2:3 110CD:4 110D0-110E8:8 110F0-110F9:7 11100-11102:3 11103-11126:8 11127-11134:3",
    "11136-1113F:7 11141-11143:A 11144:8 11145-11146:3 11147:8 11150-11172:8 11173:3 11176:8",
    "11180-11182:3 11183-111B2:8 111B3-111C0:3 111C1-111C4:8 111C5-111C6:A 111C9-111CC:3",
    "111CD:A 111CE-111CF:3 111D0-111D9:7 111DA:8 111DC:8 111DE-111DF:A 11200-11211:8",
    "11213-1122B:8 1122C-11237:3 11238-11239:A 1123B-1123C:A 1123E:3 1123F-11240:8 11241:3",
    "11280-11286:8 11288:8 1128A-1128D:8 1128F-1129D:8 1129F-112A8:8 112A9:A 112B0-112DE:8",
    "112DF-112EA:3 112F0-112F9:7 11300-11303:3 11305-1130C:8 1130F-11310:8 11313-11328:8",
    "1132A-11330:8 11332-11333:8 11335-11339:8 1133B-1133C:3 1133D:8 1133E-11344:3",
    "11347-11348:3 1134B-1134D:3 11350:8 11357:3 1135D-11361:8 11362-11363:3 11366-1136C:3",
    "11370-11374:3 11380-11389:8 1138B:8 1138E:8 11390-113B5:8 113B7:8 113B8-113C0:3 113C2:3",
    "113C5:3 113C7-113CA:3 113CC-113D0:3 113D1:8 113D2:3 113D3:8 113D4-113D5:A 113E1-113E2:3",
    "11400-11434:8 11435-11446:3 11447-1144A:8 1144B-1144C:A 11450-11459:7 1145E:3",
    "1145F-11461:8 11480-114AF:8 114B0-114C3:3 114C4-114C5:8 114C7:8 114D0-114D9:7",
    "11580-115AE:8 115AF-115B5:3 115B8-115C0:3 115C2-115C3:A 115C9-115D7:A 115D8-115DB:8",
    "115DC-115DD:3 11600-1162F:8 11630-11640:3 11641-11642:A 11644:8 11650-11659:7",
    "11680-116AA:8 116AB-116B7:3 116B8:8 116C0-116C9:7 116D0-116E3:7 11700-1171A:8",
    "1171D-1172B:3 11730-11739:7 1173C-1173E:A 11740-11746:8 11800-1182B:8 1182C-1183A:3",
    "118A0-118BF:D 118C0-118DF:6 118E0-118E9:7 118FF-11906:8 11909:8 1190C-11913:8",
    "11915-11916:8 11918-1192F:8 11930-11935:3 11937-11938:3 1193B-1193E:3 1193F:8 11940:3",
    "11941:8 11942-11943:3 11944:A 11946:A 11950-11959:7 119A0-119A7:8 119AA-119D0:8",
    "119D1-119D7:3 119DA-119E0:3 119E1:8 119E3:8 119E4:3 11A00:8 11A01-11A0A:3 11A0B-11A32:8",
    "11A33-11A39:3 11A3A:8 11A3B-11A3E:3 11A42-11A43:A 11A47:3 11A50:8 11A51-11A5B:3",
    "11A5C-11A89:8 11A8A-11A99:3 11A9B-11A9C:A 11A9D:8 11AB0-11AF8:8 11BC0-11BE0:8 11BE1:A",
    "11BF0-11BF9:7 11C00-11C08:8 11C0A-11C2E:8 11C2F-11C36:3 11C38-11C3F:3 11C40:8",
    "11C41-11C42:A 11C50-11C59:7 11C72-11C8F:8 11C92-11CA7:3 11CA9-11CB6:3 11D00-11D06:8",
    "11D08-11D09:8 11D0B-11D30:8 11D31-11D36:3 11D3A:3 11D3C-11D3D:3 11D3F-11D45:3 11D46:8",
    "11D47:3 11D50-11D59:7 11D60-11D65:8 11D67-11D68:8 11D6A-11D89:8 11D8A-11D8E:3",
    "11D90-11D91:3 11D93-11D97:3 11D98:8 11DA0-11DA9:7 11EE0-11EF2:8 11EF3-11EF6:3",
    "11EF7-11EF8:A 11F00-11F01:3 11F02:8 11F03:3 11F04-11F10:8 11F12-11F33:8 11F34-11F3A:3",
    "11F3E-11F42:3 11F43-11F44:A 11F50-11F59:7 11F5A:3 11FB0:8 12000-12399:8 12400-1246E:8",
    "12480-12543:8 12F90-12FF0:8 13000-1342F:8 13430-1343F:4 13440:3 13441-13446:8",
    "13447-13455:3 13460-143FA:8 14400-14646:8 16100-1611D:8 1611E-1612F:3 16130-16139:7",
    "16800-16A38:8 16A40-16A5E:8 16A60-16A69:7 16A6E-16A6F:A 16A70-16ABE:8 16AC0-16AC9:7",
    "16AD0-16AED:8 16AF0-16AF4:3 16AF5:A 16B00-16B2F:8 16B30-16B36:3 16B37-16B38:A",
    "16B40-16B43:8 16B44:A 16B50-16B59:7 16B63-16B77:8 16B7D-16B8F:8 16D40-16D6C:8",
    "16D70-16D79:7 16E40-16E5F:D 16E60-16E7F:6 16E98:A 16F00-16F4A:8 16F4F:3 16F50:8",
    "16F51-16F87:3 16F8F-16F92:3 16F93-16F9F:8 16FE0-16FE1:8 16FE3:8 16FE4:3 16FF0-16FF1:3",
    "17000-187F7:8 18800-18CD5:8 18CFF-18D08:8 1AFF0-1AFF3:8 1AFF5-1AFFB:8 1AFFD-1AFFE:8",
    "1B000-1B122:8 1B132:8 1B150-1B152:8 1B155:8 1B164-1B167:8 1B170-1B2FB:8 1BC00-1BC6A:8",
    "1BC70-1BC7C:8 1BC80-1BC88:8 1BC90-1BC99:8 1BC9D-1BC9E:3 1BC9F:A 1BCA0-1BCA3:4",
    "1CCF0-1CCF9:7 1CF00-1CF2D:3 1CF30-1CF46:3 1D165-1D169:3 1D16D-1D172:3 1D173-1D17A:4",
    "1D17B-1D182:3 1D185-1D18B:3 1D1AA-1D1AD:3 1D242-1D244:3 1D400-1D419:D 1D41A-1D433:6",
    "1D434-1D44D:D 1D44E-1D454:6 1D456-1D467:6 1D468-1D481:D 1D482-1D49B:6 1D49C:D",
    "1D49E-1D49F:D 1D4A2:D 1D4A5-1D4A6:D 1D4A9-1D4AC:D 1D4AE-1D4B5:D 1D4B6-1D4B9:6 1D4BB:6",
    "1D4BD-1D4C3:6 1D4C5-1D4CF:6 1D4D0-1D4E9:D 1D4EA-1D503:6 1D504-1D505:D 1D507-1D50A:D",
    "1D50D-1D514:D 1D516-1D51C:D 1D51E-1D537:6 1D538-1D539:D 1D53B-1D53E:D 1D540-1D544:D",
    "1D546:D 1D54A-1D550:D 1D552-1D56B:6 1D56C-1D585:D 1D586-1D59F:6 1D5A0-1D5B9:D",
    "1D5BA-1D5D3:6 1D5D4-1D5ED:D 1D5EE-1D607:6 1D608-1D621:D 1D622-1D63B:6 1D63C-1D655:D",
    "1D656-1D66F:6 1D670-1D689:D 1D68A-1D6A5:6 1D6A8-1D6C0:D 1D6C2-1D6DA:6 1D6DC-1D6E1:6",
    "1D6E2-1D6FA:D 1D6FC-1D714:6 1D716-1D71B:6 1D71C-1D734:D 1D736-1D74E:6 1D750-1D755:6",
    "1D756-1D76E:D 1D770-1D788:6 1D78A-1D78F:6 1D790-1D7A8:D 1D7AA-1D7C2:6 1D7C4-1D7C9:6",
    "1D7CA:D 1D7CB:6 1D7CE-1D7FF:7 1DA00-1DA36:3 1DA3B-1DA6C:3 1DA75:3 1DA84:3 1DA88:A",
    "1DA9B-1DA9F:3 1DAA1-1DAAF:3 1DF00-1DF09:6 1DF0A:8 1DF0B-1DF1E:6 1DF25-1DF2A:6",
    "1E000-1E006:3 1E008-1E018:3 1E01B-1E021:3 1E023-1E024:3 1E026-1E02A:3 1E030-1E06D:6",
    "1E08F:3 1E100-1E12C:8 1E130-1E136:3 1E137-1E13D:8 1E140-1E149:7 1E14E:8 1E290-1E2AD:8",
    "1E2AE:3 1E2C0-1E2EB:8 1E2EC-1E2EF:3 1E2F0-1E2F9:7 1E4D0-1E4EB:8 1E4EC-1E4EF:3",
    "1E4F0-1E4F9:7 1E5D0-1E5ED:8 1E5EE-1E5EF:3 1E5F0:8 1E5F1-1E5FA:7 1E7E0-1E7E6:8",
    "1E7E8-1E7EB:8 1E7ED-1E7EE:8 1E7F0-1E7FE:8 1E800-1E8C4:8 1E8D0-1E8D6:3 1E900-1E921:D",
    "1E922-1E943:6 1E944-1E94A:3 1E94B:8 1E950-1E959:7 1EE00-1EE03:8 1EE05-1EE1F:8",
    "1EE21-1EE22:8 1EE24:8 1EE27:8 1EE29-1EE32:8 1EE34-1EE37:8 1EE39:8 1EE3B:8 1EE42:8 1EE47:8",
    "1EE49:8 1EE4B:8 1EE4D-1EE4F:8 1EE51-1EE52:8 1EE54:8 1EE57:8 1EE59:8 1EE5B:8 1EE5D:8",
    "1EE5F:8 1EE61-1EE62:8 1EE64:8 1EE67-1EE6A:8 1EE6C-1EE72:8 1EE74-1EE77:8 1EE79-1EE7C:8",
    "1EE7E:8 1EE80-1EE89:8 1EE8B-1EE9B:8 1EEA1-1EEA3:8 1EEA5-1EEA9:8 1EEAB-1EEBB:8",
    "1F130-1F149:D 1F150-1F169:D 1F170-1F189:D 1F676-1F678:2 1FBF0-1FBF9:7 20000-2A6DF:8",
    "2A700-2B739:8 2B740-2B81D:8 2B820-2CEA1:8 2CEB0-2EBE0:8 2EBF0-2EE5D:8 2F800-2FA1D:8",
    "30000-3134A:8 31350-323AF:8 E0001:4 E0020-E007F:3 E0100-E01EF:3"])

end LogBrowser.Unicode
