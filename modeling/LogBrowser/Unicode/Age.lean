import LogBrowser.Unicode.CodeSet

/-!
# Ages

The Unicode version in which each code point was assigned (the Age property), up to Unicode 16.0.
Each interval carries the number of its version in `ageNames`.
-/

namespace LogBrowser.Unicode

/-- The versions of Unicode, by number, as major and minor version. -/
def ageNames : List (Nat × Nat) :=
  [(1, 1), (2, 0), (2, 1), (3, 0), (3, 1), (3, 2), (4, 0), (4, 1), (5, 0), (5, 1), (5, 2), (6, 0), (6, 1), (6, 2), (6, 3), (7, 0), (8, 0), (9, 0), (10, 0), (11, 0), (12, 0), (12, 1), (13, 0), (14, 0), (15, 0), (15, 1), (16, 0)]

/-- The version of each interval, by number. -/
def ageTable : CodeMap Nat := CodeMap.ofHex (fun s => some (readHex s))
  (" ".intercalate [
    "0-1F5:0 1F6-1F9:3 1FA-217:0 218-21F:3 220:5 221:6 222-233:3 234-236:6 237-241:7 242-24F:8",
    "250-2A8:0 2A9-2AD:3 2AE-2AF:6 2B0-2DE:0 2DF:3 2E0-2E9:0 2EA-2EE:3 2EF-2FF:6 300-345:0",
    "346-34E:3 34F:5 350-357:6 358-35C:7 35D-35F:6 360-361:0 362:3 363-36F:5 370-373:9",
    "374-375:0 376-377:9 37A:0 37B-37D:8 37E:0 37F:F 384-38A:0 38C:0 38E-3A1:0 3A3-3CE:0 3CF:9",
    "3D0-3D6:0 3D7:3 3D8-3D9:5 3DA:0 3DB:3 3DC:0 3DD:3 3DE:0 3DF:3 3E0:0 3E1:3 3E2-3F3:0",
    "3F4-3F5:4 3F6:5 3F7-3FB:6 3FC-3FF:7 400:3 401-40C:0 40D:3 40E-44F:0 450:3 451-45C:0 45D:3",
    "45E-486:0 487:9 488-489:3 48A-48B:5 48C-48F:3 490-4C4:0 4C5-4C6:5 4C7-4C8:0 4C9-4CA:5",
    "4CB-4CC:0 4CD-4CE:5 4CF:8 4D0-4EB:0 4EC-4ED:3 4EE-4F5:0 4F6-4F7:7 4F8-4F9:0 4FA-4FF:8",
    "500-50F:5 510-513:8 514-523:9 524-525:A 526-527:B 528-52F:F 531-556:0 559-55F:0 560:13",
    "561-587:0 588:13 589:0 58A:3 58D-58E:F 58F:C 591-5A1:1 5A2:7 5A3-5AF:1 5B0-5B9:0 5BA:8",
    "5BB-5C3:0 5C4:1 5C5-5C7:7 5D0-5EA:0 5EF:13 5F0-5F4:0 600-603:6 604:C 605:F 606-60A:9 60B:7",
    "60C:0 60D-615:6 616-61A:9 61B:0 61C:E 61D:17 61E:7 61F:0 620:B 621-63A:0 63B-63F:9",
    "640-652:0 653-655:3 656-658:6 659-65E:7 65F:B 660-66D:0 66E-66F:5 670-6B7:0 6B8-6B9:3",
    "6BA-6BE:0 6BF:3 6C0-6CE:0 6CF:3 6D0-6ED:0 6EE-6EF:6 6F0-6F9:0 6FA-6FE:3 6FF:6 700-70D:3",
    "70F-72C:3 72D-72F:6 730-74A:3 74D-74F:6 750-76D:7 76E-77F:9 780-7B0:3 7B1:5 7C0-7FA:8",
    "7FD-7FF:13 800-82D:A 830-83E:A 840-85B:B 85E:B 860-86A:12 870-88E:17 890-891:17 897:1A",
    "898-89F:17 8A0:C 8A1:F 8A2-8AC:C 8AD-8B2:F 8B3-8B4:10 8B5:17 8B6-8BD:11 8BE-8C7:16",
    "8C8-8D2:17 8D3:13 8D4-8E2:11 8E3:10 8E4-8FE:C 8FF:F 900:A 901-903:0 904:6 905-939:0",
    "93A-93B:B 93C-94D:0 94E:A 94F:B 950-954:0 955:A 956-957:B 958-970:0 971-972:9 973-977:B",
    "978:F 979-97A:A 97B-97C:8 97D:7 97E-97F:8 980:F 981-983:0 985-98C:0 98F-990:0 993-9A8:0",
    "9AA-9B0:0 9B2:0 9B6-9B9:0 9BC:0 9BD:6 9BE-9C4:0 9C7-9C8:0 9CB-9CD:0 9CE:7 9D7:0 9DC-9DD:0",
    "9DF-9E3:0 9E6-9FA:0 9FB:A 9FC-9FD:12 9FE:13 A01:6 A02:0 A03:6 A05-A0A:0 A0F-A10:0",
    "A13-A28:0 A2A-A30:0 A32-A33:0 A35-A36:0 A38-A39:0 A3C:0 A3E-A42:0 A47-A48:0 A4B-A4D:0",
    "A51:9 A59-A5C:0 A5E:0 A66-A74:0 A75:9 A76:13 A81-A83:0 A85-A8B:0 A8C:6 A8D:0 A8F-A91:0",
    "A93-AA8:0 AAA-AB0:0 AB2-AB3:0 AB5-AB9:0 ABC-AC5:0 AC7-AC9:0 ACB-ACD:0 AD0:0 AE0:0",
    "AE1-AE3:6 AE6-AEF:0 AF0:C AF1:6 AF9:10 AFA-AFF:12 B01-B03:0 B05-B0C:0 B0F-B10:0 B13-B28:0",
    "B2A-B30:0 B32-B33:0 B35:6 B36-B39:0 B3C-B43:0 B44:9 B47-B48:0 B4B-B4D:0 B55:16 B56-B57:0",
    "B5C-B5D:0 B5F-B61:0 B62-B63:9 B66-B70:0 B71:6 B72-B77:B B82-B83:0 B85-B8A:0 B8E-B90:0",
    "B92-B95:0 B99-B9A:0 B9C:0 B9E-B9F:0 BA3-BA4:0 BA8-BAA:0 BAE-BB5:0 BB6:7 BB7-BB9:0",
    "BBE-BC2:0 BC6-BC8:0 BCA-BCD:0 BD0:9 BD7:0 BE6:7 BE7-BF2:0 BF3-BFA:6 C00:F C01-C03:0 C04:13",
    "C05-C0C:0 C0E-C10:0 C12-C28:0 C2A-C33:0 C34:F C35-C39:0 C3C:17 C3D:9 C3E-C44:0 C46-C48:0",
    "C4A-C4D:0 C55-C56:0 C58-C59:9 C5A:10 C5D:17 C60-C61:0 C62-C63:9 C66-C6F:0 C77:14 C78-C7F:9",
    "C80:11 C81:F C82-C83:0 C84:13 C85-C8C:0 C8E-C90:0 C92-CA8:0 CAA-CB3:0 CB5-CB9:0 CBC-CBD:6",
    "CBE-CC4:0 CC6-CC8:0 CCA-CCD:0 CD5-CD6:0 CDD:17 CDE:0 CE0-CE1:0 CE2-CE3:8 CE6-CEF:0",
    "CF1-CF2:8 CF3:18 D00:12 D01:F D02-D03:0 D04:16 D05-D0C:0 D0E-D10:0 D12-D28:0 D29:B",
    "D2A-D39:0 D3A:B D3B-D3C:12 D3D:9 D3E-D43:0 D44:9 D46-D48:0 D4A-D4D:0 D4E:B D4F:11",
    "D54-D56:11 D57:0 D58-D5E:11 D5F:10 D60-D61:0 D62-D63:9 D66-D6F:0 D70-D75:9 D76-D78:11",
    "D79-D7F:9 D81:16 D82-D83:3 D85-D96:3 D9A-DB1:3 DB3-DBB:3 DBD:3 DC0-DC6:3 DCA:3 DCF-DD4:3",
    "DD6:3 DD8-DDF:3 DE6-DEF:F DF2-DF4:3 E01-E3A:0 E3F-E5B:0 E81-E82:0 E84:0 E86:14 E87-E88:0",
    "E89:14 E8A:0 E8C:14 E8D:0 E8E-E93:14 E94-E97:0 E98:14 E99-E9F:0 EA0:14 EA1-EA3:0 EA5:0",
    "EA7:0 EA8-EA9:14 EAA-EAB:0 EAC:14 EAD-EB9:0 EBA:14 EBB-EBD:0 EC0-EC4:0 EC6:0 EC8-ECD:0",
    "ECE:18 ED0-ED9:0 EDC-EDD:0 EDE-EDF:C F00-F47:1 F49-F69:1 F6A:3 F6B-F6C:9 F71-F8B:1",
    "F8C-F8F:B F90-F95:1 F96:3 F97:1 F99-FAD:1 FAE-FB0:3 FB1-FB7:1 FB8:3 FB9:1 FBA-FBC:3",
    "FBE-FCC:3 FCE:9 FCF:3 FD0-FD1:7 FD2-FD4:9 FD5-FD8:A FD9-FDA:B 1000-1021:3 1022:9",
    "1023-1027:3 1028:9 1029-102A:3 102B:9 102C-1032:3 1033-1035:9 1036-1039:3 103A-103F:9",
    "1040-1059:3 105A-1099:9 109A-109D:A 109E-109F:9 10A0-10C5:0 10C7:C 10CD:C 10D0-10F6:0",
    "10F7-10F8:5 10F9-10FA:7 10FB:0 10FC:7 10FD-10FF:C 1100-1159:0 115A-115E:A 115F-11A2:0",
    "11A3-11A7:A 11A8-11F9:0 11FA-11FF:A 1200-1206:3 1207:7 1208-1246:3 1247:7 1248:3",
    "124A-124D:3 1250-1256:3 1258:3 125A-125D:3 1260-1286:3 1287:7 1288:3 128A-128D:3",
    "1290-12AE:3 12AF:7 12B0:3 12B2-12B5:3 12B8-12BE:3 12C0:3 12C2-12C5:3 12C8-12CE:3 12CF:7",
    "12D0-12D6:3 12D8-12EE:3 12EF:7 12F0-130E:3 130F:7 1310:3 1312-1315:3 1318-131E:3 131F:7",
    "1320-1346:3 1347:7 1348-135A:3 135D-135E:B 135F-1360:7 1361-137C:3 1380-1399:7 13A0-13F4:3",
    "13F5:10 13F8-13FD:10 1400:A 1401-1676:3 1677-167F:A 1680-169C:3 16A0-16F0:3 16F1-16F8:F",
    "1700-170C:5 170D:17 170E-1714:5 1715:17 171F:17 1720-1736:5 1740-1753:5 1760-176C:5",
    "176E-1770:5 1772-1773:5 1780-17DC:3 17DD:6 17E0-17E9:3 17F0-17F9:6 1800-180E:3 180F:17",
    "1810-1819:3 1820-1877:3 1878:13 1880-18A9:3 18AA:9 18B0-18F5:A 1900-191C:6 191D-191E:F",
    "1920-192B:6 1930-193B:6 1940:6 1944-196D:6 1970-1974:6 1980-19A9:7 19AA-19AB:A 19B0-19C9:7",
    "19D0-19D9:7 19DA:A 19DE-19DF:7 19E0-19FF:6 1A00-1A1B:7 1A1E-1A1F:7 1A20-1A5E:A 1A60-1A7C:A",
    "1A7F-1A89:A 1A90-1A99:A 1AA0-1AAD:A 1AB0-1ABE:F 1ABF-1AC0:16 1AC1-1ACE:17 1B00-1B4B:8",
    "1B4C:17 1B4E-1B4F:1A 1B50-1B7C:8 1B7D-1B7E:17 1B7F:1A 1B80-1BAA:9 1BAB-1BAD:C 1BAE-1BB9:9",
    "1BBA-1BBF:C 1BC0-1BF3:B 1BFC-1BFF:B 1C00-1C37:9 1C3B-1C49:9 1C4D-1C7F:9 1C80-1C88:11",
    "1C89-1C8A:1A 1C90-1CBA:13 1CBD-1CBF:13 1CC0-1CC7:C 1CD0-1CF2:A 1CF3-1CF6:C 1CF7:12",
    "1CF8-1CF9:F 1CFA:14 1D00-1D6B:6 1D6C-1DC3:7 1DC4-1DCA:8 1DCB-1DE6:9 1DE7-1DF5:F",
    "1DF6-1DF9:12 1DFA:17 1DFB:11 1DFC:B 1DFD:A 1DFE-1DFF:8 1E00-1E9A:0 1E9B:1 1E9C-1E9F:9",
    "1EA0-1EF9:0 1EFA-1EFF:9 1F00-1F15:0 1F18-1F1D:0 1F20-1F45:0 1F48-1F4D:0 1F50-1F57:0 1F59:0",
    "1F5B:0 1F5D:0 1F5F-1F7D:0 1F80-1FB4:0 1FB6-1FC4:0 1FC6-1FD3:0 1FD6-1FDB:0 1FDD-1FEF:0",
    "1FF2-1FF4:0 1FF6-1FFE:0 2000-202E:0 202F:3 2030-2046:0 2047:5 2048-204D:3 204E-2052:5",
    "2053-2054:6 2055-2056:7 2057:5 2058-205E:7 205F-2063:5 2064:9 2066-2069:E 206A-2070:0",
    "2071:5 2074-208E:0 2090-2094:7 2095-209C:B 20A0-20AA:0 20AB:1 20AC:2 20AD-20AF:3",
    "20B0-20B1:5 20B2-20B5:7 20B6-20B8:A 20B9:B 20BA:D 20BB-20BD:F 20BE:10 20BF:12 20C0:17",
    "20D0-20E1:0 20E2-20E3:3 20E4-20EA:5 20EB:7 20EC-20EF:8 20F0:9 2100-2138:0 2139-213A:3",
    "213B:6 213C:7 213D-214B:5 214C:7 214D-214E:8 214F:9 2150-2152:A 2153-2182:0 2183:3 2184:8",
    "2185-2188:9 2189:A 218A-218B:10 2190-21EA:0 21EB-21F3:3 21F4-21FF:5 2200-22F1:0",
    "22F2-22FF:5 2300:0 2301:3 2302-237A:0 237B:3 237C:5 237D-239A:3 239B-23CE:5 23CF-23D0:6",
    "23D1-23DB:7 23DC-23E7:8 23E8:A 23E9-23F3:B 23F4-23FA:F 23FB-23FE:11 23FF:12 2400-2424:0",
    "2425-2426:3 2427-2429:1A 2440-244A:0 2460-24EA:0 24EB-24FE:5 24FF:6 2500-2595:0",
    "2596-259F:5 25A0-25EF:0 25F0-25F7:3 25F8-25FF:5 2600-2613:0 2614-2615:6 2616-2617:5 2618:7",
    "2619:3 261A-266F:0 2670-2671:3 2672-267D:5 267E-267F:7 2680-2689:5 268A-2691:6 2692-269C:7",
    "269D:9 269E-269F:A 26A0-26A1:6 26A2-26B1:7 26B2:8 26B3-26BC:9 26BD-26BF:A 26C0-26C3:9",
    "26C4-26CD:A 26CE:B 26CF-26E1:A 26E2:B 26E3:A 26E4-26E7:B 26E8-26FF:A 2700:F 2701-2704:0",
    "2705:B 2706-2709:0 270A-270B:B 270C-2727:0 2728:B 2729-274B:0 274C:B 274D:0 274E:B",
    "274F-2752:0 2753-2755:B 2756:0 2757:A 2758-275E:0 275F-2760:B 2761-2767:0 2768-2775:5",
    "2776-2794:0 2795-2797:B 2798-27AF:0 27B0:B 27B1-27BE:0 27BF:B 27C0-27C6:7 27C7-27CA:8",
    "27CB:C 27CC:9 27CD:C 27CE-27CF:B 27D0-27EB:5 27EC-27EF:9 27F0-27FF:5 2800-28FF:3",
    "2900-2AFF:5 2B00-2B0D:6 2B0E-2B13:7 2B14-2B1A:8 2B1B-2B1F:9 2B20-2B23:8 2B24-2B4C:9",
    "2B4D-2B4F:F 2B50-2B54:9 2B55-2B59:A 2B5A-2B73:F 2B76-2B95:F 2B97:16 2B98-2BB9:F",
    "2BBA-2BBC:13 2BBD-2BC8:F 2BC9:14 2BCA-2BD1:F 2BD2:12 2BD3-2BEB:13 2BEC-2BEF:10",
    "2BF0-2BFE:13 2BFF:14 2C00-2C2E:7 2C2F:17 2C30-2C5E:7 2C5F:17 2C60-2C6C:8 2C6D-2C6F:9",
    "2C70:A 2C71-2C73:9 2C74-2C77:8 2C78-2C7D:9 2C7E-2C7F:A 2C80-2CEA:7 2CEB-2CF1:A 2CF2-2CF3:C",
    "2CF9-2D25:7 2D27:C 2D2D:C 2D30-2D65:7 2D66-2D67:C 2D6F:7 2D70:B 2D7F:B 2D80-2D96:7",
    "2DA0-2DA6:7 2DA8-2DAE:7 2DB0-2DB6:7 2DB8-2DBE:7 2DC0-2DC6:7 2DC8-2DCE:7 2DD0-2DD6:7",
    "2DD8-2DDE:7 2DE0-2DFF:9 2E00-2E17:7 2E18-2E1B:9 2E1C-2E1D:7 2E1E-2E30:9 2E31:A 2E32-2E3B:C",
    "2E3C-2E42:F 2E43-2E44:11 2E45-2E49:12 2E4A-2E4E:13 2E4F:14 2E50-2E52:16 2E53-2E5D:17",
    "2E80-2E99:3 2E9B-2EF3:3 2F00-2FD5:3 2FF0-2FFB:3 2FFC-2FFF:19 3000-3037:0 3038-303A:3",
    "303B-303D:5 303E:3 303F:0 3041-3094:0 3095-3096:5 3099-309E:0 309F-30A0:5 30A1-30FE:0",
    "30FF:5 3105-312C:0 312D:9 312E:12 312F:13 3131-318E:0 3190-319F:0 31A0-31B7:3 31B8-31BA:B",
    "31BB-31BF:16 31C0-31CF:7 31D0-31E3:9 31E4-31E5:1A 31EF:19 31F0-31FF:5 3200-321C:0",
    "321D-321E:6 3220-3243:0 3244-324F:A 3250:6 3251-325F:5 3260-327B:0 327C-327D:6 327E:7",
    "327F-32B0:0 32B1-32BF:5 32C0-32CB:0 32CC-32CF:6 32D0-32FE:0 32FF:15 3300-3376:0",
    "3377-337A:6 337B-33DD:0 33DE-33DF:6 33E0-33FE:0 33FF:6 3400-4DB5:3 4DB6-4DBF:16",
    "4DC0-4DFF:6 4E00-9FA5:0 9FA6-9FBB:7 9FBC-9FC3:9 9FC4-9FCB:A 9FCC:C 9FCD-9FD5:10",
    "9FD6-9FEA:12 9FEB-9FEF:13 9FF0-9FFC:16 9FFD-9FFF:17 A000-A48C:3 A490-A4A1:3 A4A2-A4A3:5",
    "A4A4-A4B3:3 A4B4:5 A4B5-A4C0:3 A4C1:5 A4C2-A4C4:3 A4C5:5 A4C6:3 A4D0-A4FF:A A500-A62B:9",
    "A640-A65F:9 A660-A661:B A662-A673:9 A674-A67B:C A67C-A697:9 A698-A69D:F A69E:10 A69F:C",
    "A6A0-A6F7:A A700-A716:7 A717-A71A:8 A71B-A71F:9 A720-A721:8 A722-A78C:9 A78D-A78E:B",
    "A78F:10 A790-A791:B A792-A793:C A794-A79F:F A7A0-A7A9:B A7AA:C A7AB-A7AD:F A7AE:11 A7AF:13",
    "A7B0-A7B1:F A7B2-A7B7:10 A7B8-A7B9:13 A7BA-A7BF:14 A7C0-A7C1:17 A7C2-A7C6:14 A7C7-A7CA:16",
    "A7CB-A7CD:1A A7D0-A7D1:17 A7D3:17 A7D5-A7D9:17 A7DA-A7DC:1A A7F2-A7F4:17 A7F5-A7F6:16",
    "A7F7:F A7F8-A7F9:C A7FA:B A7FB-A7FF:9 A800-A82B:7 A82C:16 A830-A839:A A840-A877:8",
    "A880-A8C4:9 A8C5:11 A8CE-A8D9:9 A8E0-A8FB:A A8FC-A8FD:10 A8FE-A8FF:13 A900-A953:9 A95F:9",
    "A960-A97C:A A980-A9CD:A A9CF-A9D9:A A9DE-A9DF:A A9E0-A9FE:F AA00-AA36:9 AA40-AA4D:9",
    "AA50-AA59:9 AA5C-AA5F:9 AA60-AA7B:A AA7C-AA7F:F AA80-AAC2:A AADB-AADF:A AAE0-AAF6:C",
    "AB01-AB06:B AB09-AB0E:B AB11-AB16:B AB20-AB26:B AB28-AB2E:B AB30-AB5F:F AB60-AB63:10",
    "AB64-AB65:F AB66-AB67:14 AB68-AB6B:16 AB70-ABBF:10 ABC0-ABED:A ABF0-ABF9:A AC00-D7A3:1",
    "D7B0-D7C6:A D7CB-D7FB:A E000-FA2D:0 FA2E-FA2F:C FA30-FA6A:5 FA6B-FA6D:A FA70-FAD9:7",
    "FB00-FB06:0 FB13-FB17:0 FB1D:3 FB1E-FB36:0 FB38-FB3C:0 FB3E:0 FB40-FB41:0 FB43-FB44:0",
    "FB46-FBB1:0 FBB2-FBC1:B FBC2:17 FBD3-FD3F:0 FD40-FD4F:17 FD50-FD8F:0 FD92-FDC7:0 FDCF:17",
    "FDD0-FDEF:4 FDF0-FDFB:0 FDFC:5 FDFD:6 FDFE-FDFF:17 FE00-FE0F:5 FE10-FE19:7 FE20-FE23:0",
    "FE24-FE26:9 FE27-FE2D:F FE2E-FE2F:10 FE30-FE44:0 FE45-FE46:5 FE47-FE48:6 FE49-FE52:0",
    "FE54-FE66:0 FE68-FE6B:0 FE70-FE72:0 FE73:5 FE74:0 FE76-FEFC:0 FEFF:0 FF01-FF5E:0",
    "FF5F-FF60:5 FF61-FFBE:0 FFC2-FFC7:0 FFCA-FFCF:0 FFD2-FFD7:0 FFDA-FFDC:0 FFE0-FFE6:0",
    "FFE8-FFEE:0 FFF9-FFFB:3 FFFC:2 FFFD-FFFF:0 10000-1000B:6 1000D-10026:6 10028-1003A:6",
    "1003C-1003D:6 1003F-1004D:6 10050-1005D:6 10080-100FA:6 10100-10102:6 10107-10133:6",
    "10137-1013F:6 10140-1018A:7 1018B-1018C:F 1018D-1018E:11 10190-1019B:9 1019C:16 101A0:F",
    "101D0-101FD:9 10280-1029C:9 102A0-102D0:9 102E0-102FB:F 10300-1031E:4 1031F:F",
    "10320-10323:4 1032D-1032F:12 10330-1034A:4 10350-1037A:F 10380-1039D:6 1039F:6",
    "103A0-103C3:7 103C8-103D5:7 10400-10425:4 10426-10427:6 10428-1044D:4 1044E-1049D:6",
    "104A0-104A9:6 104B0-104D3:11 104D8-104FB:11 10500-10527:F 10530-10563:F 1056F:F",
    "10570-1057A:17 1057C-1058A:17 1058C-10592:17 10594-10595:17 10597-105A1:17 105A3-105B1:17",
    "105B3-105B9:17 105BB-105BC:17 105C0-105F3:1A 10600-10736:F 10740-10755:F 10760-10767:F",
    "10780-10785:17 10787-107B0:17 107B2-107BA:17 10800-10805:6 10808:6 1080A-10835:6",
    "10837-10838:6 1083C:6 1083F:6 10840-10855:A 10857-1085F:A 10860-1089E:F 108A7-108AF:F",
    "108E0-108F2:10 108F4-108F5:10 108FB-108FF:10 10900-10919:8 1091A-1091B:A 1091F:8",
    "10920-10939:9 1093F:9 10980-109B7:C 109BC-109BD:10 109BE-109BF:C 109C0-109CF:10",
    "109D2-109FF:10 10A00-10A03:7 10A05-10A06:7 10A0C-10A13:7 10A15-10A17:7 10A19-10A33:7",
    "10A34-10A35:13 10A38-10A3A:7 10A3F-10A47:7 10A48:13 10A50-10A58:7 10A60-10A7F:A",
    "10A80-10A9F:F 10AC0-10AE6:F 10AEB-10AF6:F 10B00-10B35:A 10B39-10B55:A 10B58-10B72:A",
    "10B78-10B7F:A 10B80-10B91:F 10B99-10B9C:F 10BA9-10BAF:F 10C00-10C48:A 10C80-10CB2:10",
    "10CC0-10CF2:10 10CFA-10CFF:10 10D00-10D27:13 10D30-10D39:13 10D40-10D65:1A 10D69-10D85:1A",
    "10D8E-10D8F:1A 10E60-10E7E:A 10E80-10EA9:16 10EAB-10EAD:16 10EB0-10EB1:16 10EC2-10EC4:1A",
    "10EFC:1A 10EFD-10EFF:18 10F00-10F27:13 10F30-10F59:13 10F70-10F89:17 10FB0-10FCB:16",
    "10FE0-10FF6:14 11000-1104D:B 11052-1106F:B 11070-11075:17 1107F:F 11080-110C1:A 110C2:17",
    "110CD:13 110D0-110E8:C 110F0-110F9:C 11100-11134:C 11136-11143:C 11144-11146:13 11147:16",
    "11150-11176:F 11180-111C8:C 111C9-111CC:10 111CD:F 111CE-111CF:16 111D0-111D9:C 111DA:F",
    "111DB-111DF:10 111E1-111F4:F 11200-11211:F 11213-1123D:F 1123E:11 1123F-11241:18",
    "11280-11286:10 11288:10 1128A-1128D:10 1128F-1129D:10 1129F-112A9:10 112B0-112EA:F",
    "112F0-112F9:F 11300:10 11301-11303:F 11305-1130C:F 1130F-11310:F 11313-11328:F",
    "1132A-11330:F 11332-11333:F 11335-11339:F 1133B:13 1133C-11344:F 11347-11348:F",
    "1134B-1134D:F 11350:10 11357:F 1135D-11363:F 11366-1136C:F 11370-11374:F 11380-11389:1A",
    "1138B:1A 1138E:1A 11390-113B5:1A 113B7-113C0:1A 113C2:1A 113C5:1A 113C7-113CA:1A",
    "113CC-113D5:1A 113D7-113D8:1A 113E1-113E2:1A 11400-11459:11 1145A:16 1145B:11 1145D:11",
    "1145E:13 1145F:14 11460-11461:16 11480-114C7:F 114D0-114D9:F 11580-115B5:F 115B8-115C9:F",
    "115CA-115DD:10 11600-11644:F 11650-11659:F 11660-1166C:11 11680-116B7:C 116B8:14 116B9:17",
    "116C0-116C9:C 116D0-116E3:1A 11700-11719:10 1171A:13 1171D-1172B:10 11730-1173F:10",
    "11740-11746:17 11800-1183B:13 118A0-118F2:F 118FF:F 11900-11906:16 11909:16 1190C-11913:16",
    "11915-11916:16 11918-11935:16 11937-11938:16 1193B-11946:16 11950-11959:16 119A0-119A7:14",
    "119AA-119D7:14 119DA-119E4:14 11A00-11A47:12 11A50-11A83:12 11A84-11A85:14 11A86-11A9C:12",
    "11A9D:13 11A9E-11AA2:12 11AB0-11ABF:17 11AC0-11AF8:F 11B00-11B09:18 11BC0-11BE1:1A",
    "11BF0-11BF9:1A 11C00-11C08:11 11C0A-11C36:11 11C38-11C45:11 11C50-11C6C:11 11C70-11C8F:11",
    "11C92-11CA7:11 11CA9-11CB6:11 11D00-11D06:12 11D08-11D09:12 11D0B-11D36:12 11D3A:12",
    "11D3C-11D3D:12 11D3F-11D47:12 11D50-11D59:12 11D60-11D65:13 11D67-11D68:13 11D6A-11D8E:13",
    "11D90-11D91:13 11D93-11D98:13 11DA0-11DA9:13 11EE0-11EF8:13 11F00-11F10:18 11F12-11F3A:18",
    "11F3E-11F59:18 11F5A:1A 11FB0:16 11FC0-11FF1:14 11FFF:14 12000-1236E:8 1236F-12398:F",
    "12399:10 12400-12462:8 12463-1246E:F 12470-12473:8 12474:F 12480-12543:10 12F90-12FF2:17",
    "13000-1342E:A 1342F:18 13430-13438:14 13439-13455:18 13460-143FA:1A 14400-14646:10",
    "16100-16139:1A 16800-16A38:B 16A40-16A5E:F 16A60-16A69:F 16A6E-16A6F:F 16A70-16ABE:17",
    "16AC0-16AC9:17 16AD0-16AED:F 16AF0-16AF5:F 16B00-16B45:F 16B50-16B59:F 16B5B-16B61:F",
    "16B63-16B77:F 16B7D-16B8F:F 16D40-16D79:1A 16E40-16E9A:13 16F00-16F44:C 16F45-16F4A:14",
    "16F4F:14 16F50-16F7E:C 16F7F-16F87:14 16F8F-16F9F:C 16FE0:11 16FE1:12 16FE2-16FE3:14",
    "16FE4:16 16FF0-16FF1:16 17000-187EC:11 187ED-187F1:13 187F2-187F7:14 18800-18AF2:11",
    "18AF3-18CD5:16 18CFF:1A 18D00-18D08:16 1AFF0-1AFF3:17 1AFF5-1AFFB:17 1AFFD-1AFFE:17",
    "1B000-1B001:B 1B002-1B11E:12 1B11F-1B122:17 1B132:18 1B150-1B152:14 1B155:18",
    "1B164-1B167:14 1B170-1B2FB:12 1BC00-1BC6A:F 1BC70-1BC7C:F 1BC80-1BC88:F 1BC90-1BC99:F",
    "1BC9C-1BCA3:F 1CC00-1CCF9:1A 1CD00-1CEB3:1A 1CF00-1CF2D:17 1CF30-1CF46:17 1CF50-1CFC3:17",
    "1D000-1D0F5:4 1D100-1D126:4 1D129:9 1D12A-1D1DD:4 1D1DE-1D1E8:10 1D1E9-1D1EA:17",
    "1D200-1D245:7 1D2C0-1D2D3:18 1D2E0-1D2F3:13 1D300-1D356:6 1D360-1D371:8 1D372-1D378:13",
    "1D400-1D454:4 1D456-1D49C:4 1D49E-1D49F:4 1D4A2:4 1D4A5-1D4A6:4 1D4A9-1D4AC:4",
    "1D4AE-1D4B9:4 1D4BB:4 1D4BD-1D4C0:4 1D4C1:6 1D4C2-1D4C3:4 1D4C5-1D505:4 1D507-1D50A:4",
    "1D50D-1D514:4 1D516-1D51C:4 1D51E-1D539:4 1D53B-1D53E:4 1D540-1D544:4 1D546:4",
    "1D54A-1D550:4 1D552-1D6A3:4 1D6A4-1D6A5:7 1D6A8-1D7C9:4 1D7CA-1D7CB:8 1D7CE-1D7FF:4",
    "1D800-1DA8B:10 1DA9B-1DA9F:10 1DAA1-1DAAF:10 1DF00-1DF1E:17 1DF25-1DF2A:18 1E000-1E006:11",
    "1E008-1E018:11 1E01B-1E021:11 1E023-1E024:11 1E026-1E02A:11 1E030-1E06D:18 1E08F:18",
    "1E100-1E12C:14 1E130-1E13D:14 1E140-1E149:14 1E14E-1E14F:14 1E290-1E2AE:17 1E2C0-1E2F9:14",
    "1E2FF:14 1E4D0-1E4F9:18 1E5D0-1E5FA:1A 1E5FF:1A 1E7E0-1E7E6:17 1E7E8-1E7EB:17",
    "1E7ED-1E7EE:17 1E7F0-1E7FE:17 1E800-1E8C4:F 1E8C7-1E8D6:F 1E900-1E94A:11 1E94B:14",
    "1E950-1E959:11 1E95E-1E95F:11 1EC71-1ECB4:13 1ED01-1ED3D:14 1EE00-1EE03:C 1EE05-1EE1F:C",
    "1EE21-1EE22:C 1EE24:C 1EE27:C 1EE29-1EE32:C 1EE34-1EE37:C 1EE39:C 1EE3B:C 1EE42:C 1EE47:C",
    "1EE49:C 1EE4B:C 1EE4D-1EE4F:C 1EE51-1EE52:C 1EE54:C 1EE57:C 1EE59:C 1EE5B:C 1EE5D:C",
    "1EE5F:C 1EE61-1EE62:C 1EE64:C 1EE67-1EE6A:C 1EE6C-1EE72:C 1EE74-1EE77:C 1EE79-1EE7C:C",
    "1EE7E:C 1EE80-1EE89:C 1EE8B-1EE9B:C 1EEA1-1EEA3:C 1EEA5-1EEA9:C 1EEAB-1EEBB:C",
    "1EEF0-1EEF1:C 1F000-1F02B:9 1F030-1F093:9 1F0A0-1F0AE:B 1F0B1-1F0BE:B 1F0BF:F",
    "1F0C1-1F0CF:B 1F0D1-1F0DF:B 1F0E0-1F0F5:F 1F100-1F10A:A 1F10B-1F10C:F 1F10D-1F10F:16",
    "1F110-1F12E:A 1F12F:13 1F130:B 1F131:A 1F132-1F13C:B 1F13D:A 1F13E:B 1F13F:A 1F140-1F141:B",
    "1F142:A 1F143-1F145:B 1F146:A 1F147-1F149:B 1F14A-1F14E:A 1F14F-1F156:B 1F157:A",
    "1F158-1F15E:B 1F15F:A 1F160-1F169:B 1F16A-1F16B:C 1F16C:14 1F16D-1F16F:16 1F170-1F178:B",
    "1F179:A 1F17A:B 1F17B-1F17C:A 1F17D-1F17E:B 1F17F:A 1F180-1F189:B 1F18A-1F18D:A",
    "1F18E-1F18F:B 1F190:A 1F191-1F19A:B 1F19B-1F1AC:11 1F1AD:16 1F1E6-1F1FF:B 1F200:A",
    "1F201-1F202:B 1F210-1F231:A 1F232-1F23A:B 1F23B:11 1F240-1F248:A 1F250-1F251:B",
    "1F260-1F265:12 1F300-1F320:B 1F321-1F32C:F 1F32D-1F32F:10 1F330-1F335:B 1F336:F",
    "1F337-1F37C:B 1F37D:F 1F37E-1F37F:10 1F380-1F393:B 1F394-1F39F:F 1F3A0-1F3C4:B 1F3C5:F",
    "1F3C6-1F3CA:B 1F3CB-1F3CE:F 1F3CF-1F3D3:10 1F3D4-1F3DF:F 1F3E0-1F3F0:B 1F3F1-1F3F7:F",
    "1F3F8-1F3FF:10 1F400-1F43E:B 1F43F:F 1F440:B 1F441:F 1F442-1F4F7:B 1F4F8:F 1F4F9-1F4FC:B",
    "1F4FD-1F4FE:F 1F4FF:10 1F500-1F53D:B 1F53E-1F53F:F 1F540-1F543:C 1F544-1F54A:F",
    "1F54B-1F54F:10 1F550-1F567:B 1F568-1F579:F 1F57A:11 1F57B-1F5A3:F 1F5A4:11 1F5A5-1F5FA:F",
    "1F5FB-1F5FF:B 1F600:C 1F601-1F610:B 1F611:C 1F612-1F614:B 1F615:C 1F616:B 1F617:C 1F618:B",
    "1F619:C 1F61A:B 1F61B:C 1F61C-1F61E:B 1F61F:C 1F620-1F625:B 1F626-1F627:C 1F628-1F62B:B",
    "1F62C:C 1F62D:B 1F62E-1F62F:C 1F630-1F633:B 1F634:C 1F635-1F640:B 1F641-1F642:F",
    "1F643-1F644:10 1F645-1F64F:B 1F650-1F67F:F 1F680-1F6C5:B 1F6C6-1F6CF:F 1F6D0:10",
    "1F6D1-1F6D2:11 1F6D3-1F6D4:12 1F6D5:14 1F6D6-1F6D7:16 1F6DC:18 1F6DD-1F6DF:17",
    "1F6E0-1F6EC:F 1F6F0-1F6F3:F 1F6F4-1F6F6:11 1F6F7-1F6F8:12 1F6F9:13 1F6FA:14 1F6FB-1F6FC:16",
    "1F700-1F773:B 1F774-1F776:18 1F77B-1F77F:18 1F780-1F7D4:F 1F7D5-1F7D8:13 1F7D9:18",
    "1F7E0-1F7EB:14 1F7F0:17 1F800-1F80B:F 1F810-1F847:F 1F850-1F859:F 1F860-1F887:F",
    "1F890-1F8AD:F 1F8B0-1F8B1:16 1F8B2-1F8BB:1A 1F8C0-1F8C1:1A 1F900-1F90B:12 1F90C:16",
    "1F90D-1F90F:14 1F910-1F918:10 1F919-1F91E:11 1F91F:12 1F920-1F927:11 1F928-1F92F:12",
    "1F930:11 1F931-1F932:12 1F933-1F93E:11 1F93F:14 1F940-1F94B:11 1F94C:12 1F94D-1F94F:13",
    "1F950-1F95E:11 1F95F-1F96B:12 1F96C-1F970:13 1F971:14 1F972:16 1F973-1F976:13",
    "1F977-1F978:16 1F979:17 1F97A:13 1F97B:14 1F97C-1F97F:13 1F980-1F984:10 1F985-1F991:11",
    "1F992-1F997:12 1F998-1F9A2:13 1F9A3-1F9A4:16 1F9A5-1F9AA:14 1F9AB-1F9AD:16 1F9AE-1F9AF:14",
    "1F9B0-1F9B9:13 1F9BA-1F9BF:14 1F9C0:10 1F9C1-1F9C2:13 1F9C3-1F9CA:14 1F9CB:16 1F9CC:17",
    "1F9CD-1F9CF:14 1F9D0-1F9E6:12 1F9E7-1F9FF:13 1FA00-1FA53:14 1FA60-1FA6D:13 1FA70-1FA73:14",
    "1FA74:16 1FA75-1FA77:18 1FA78-1FA7A:14 1FA7B-1FA7C:17 1FA80-1FA82:14 1FA83-1FA86:16",
    "1FA87-1FA88:18 1FA89:1A 1FA8F:1A 1FA90-1FA95:14 1FA96-1FAA8:16 1FAA9-1FAAC:17",
    "1FAAD-1FAAF:18 1FAB0-1FAB6:16 1FAB7-1FABA:17 1FABB-1FABD:18 1FABE:1A 1FABF:18",
    "1FAC0-1FAC2:16 1FAC3-1FAC5:17 1FAC6:1A 1FACE-1FACF:18 1FAD0-1FAD6:16 1FAD7-1FAD9:17",
    "1FADA-1FADB:18 1FADC:1A 1FADF:1A 1FAE0-1FAE7:17 1FAE8:18 1FAE9:1A 1FAF0-1FAF6:17",
    "1FAF7-1FAF8:18 1FB00-1FB92:16 1FB94-1FBCA:16 1FBCB-1FBEF:1A 1FBF0-1FBF9:16 1FFFE-1FFFF:1",
    "20000-2A6D6:4 2A6D7-2A6DD:16 2A6DE-2A6DF:17 2A700-2B734:A 2B735-2B738:17 2B739:18",
    "2B740-2B81D:B 2B820-2CEA1:10 2CEB0-2EBE0:12 2EBF0-2EE5D:19 2F800-2FA1D:4 2FFFE-2FFFF:1",
    "30000-3134A:16 31350-323AF:18 3FFFE-3FFFF:1 4FFFE-4FFFF:1 5FFFE-5FFFF:1 6FFFE-6FFFF:1",
    "7FFFE-7FFFF:1 8FFFE-8FFFF:1 9FFFE-9FFFF:1 AFFFE-AFFFF:1 BFFFE-BFFFF:1 CFFFE-CFFFF:1",
    "DFFFE-DFFFF:1 E0001:4 E0020-E007F:4 E0100-E01EF:6 EFFFE-10FFFF:1"])

end LogBrowser.Unicode
