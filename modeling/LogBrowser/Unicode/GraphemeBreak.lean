import LogBrowser.Unicode.CodeSet

/-!
# Grapheme cluster break classes

The Grapheme_Cluster_Break property of Unicode 16.0, and the characters that build Indic
conjuncts: the consonants, and the virama-like signs (linkers) that join a consonant to the next
one inside a single cluster. A code point in no interval has the class `other`.
-/

namespace LogBrowser.Unicode

/-- The classes that decide where a grapheme cluster may end. -/
inductive GraphemeClass where
  | other | prepend | extend | spacingMark | l | v | t | lv | lvt
  | control | cr | lf | zwj | regionalIndicator
  deriving DecidableEq, Repr, Inhabited

/-- Reads the one-letter class code of the table. -/
def GraphemeClass.ofCode? : String → Option GraphemeClass
  | "P" => some .prepend
  | "E" => some .extend
  | "S" => some .spacingMark
  | "L" => some .l
  | "V" => some .v
  | "T" => some .t
  | "v" => some .lv
  | "t" => some .lvt
  | "C" => some .control
  | "R" => some .cr
  | "N" => some .lf
  | "Z" => some .zwj
  | "I" => some .regionalIndicator
  | _ => none

/-- The grapheme break classes by interval. -/
def graphemeBreakTable : CodeMap GraphemeClass := CodeMap.ofHex GraphemeClass.ofCode?
  (" ".intercalate [
    "0-9:C A:N B-C:C D:R E-1F:C 7F-9F:C AD:C 300-36F:E 483-489:E 591-5BD:E 5BF:E 5C1-5C2:E",
    "5C4-5C5:E 5C7:E 600-605:P 610-61A:E 61C:C 64B-65F:E 670:E 6D6-6DC:E 6DD:P 6DF-6E4:E",
    "6E7-6E8:E 6EA-6ED:E 70F:P 711:E 730-74A:E 7A6-7B0:E 7EB-7F3:E 7FD:E 816-819:E 81B-823:E",
    "825-827:E 829-82D:E 859-85B:E 890-891:P 897-89F:E 8CA-8E1:E 8E2:P 8E3-902:E 903:S 93A:E",
    "93B:S 93C:E 93E-940:S 941-948:E 949-94C:S 94D:E 94E-94F:S 951-957:E 962-963:E 981:E",
    "982-983:S 9BC:E 9BE:E 9BF-9C0:S 9C1-9C4:E 9C7-9C8:S 9CB-9CC:S 9CD:E 9D7:E 9E2-9E3:E 9FE:E",
    "A01-A02:E A03:S A3C:E A3E-A40:S A41-A42:E A47-A48:E A4B-A4D:E A51:E A70-A71:E A75:E",
    "A81-A82:E A83:S ABC:E ABE-AC0:S AC1-AC5:E AC7-AC8:E AC9:S ACB-ACC:S ACD:E AE2-AE3:E",
    "AFA-AFF:E B01:E B02-B03:S B3C:E B3E-B3F:E B40:S B41-B44:E B47-B48:S B4B-B4C:S B4D:E",
    "B55-B57:E B62-B63:E B82:E BBE:E BBF:S BC0:E BC1-BC2:S BC6-BC8:S BCA-BCC:S BCD:E BD7:E",
    "C00:E C01-C03:S C04:E C3C:E C3E-C40:E C41-C44:S C46-C48:E C4A-C4D:E C55-C56:E C62-C63:E",
    "C81:E C82-C83:S CBC:E CBE:S CBF-CC0:E CC1:S CC2:E CC3-CC4:S CC6-CC8:E CCA-CCD:E CD5-CD6:E",
    "CE2-CE3:E CF3:S D00-D01:E D02-D03:S D3B-D3C:E D3E:E D3F-D40:S D41-D44:E D46-D48:S",
    "D4A-D4C:S D4D:E D4E:P D57:E D62-D63:E D81:E D82-D83:S DCA:E DCF:E DD0-DD1:S DD2-DD4:E",
    "DD6:E DD8-DDE:S DDF:E DF2-DF3:S E31:E E33:S E34-E3A:E E47-E4E:E EB1:E EB3:S EB4-EBC:E",
    "EC8-ECE:E F18-F19:E F35:E F37:E F39:E F3E-F3F:S F71-F7E:E F7F:S F80-F84:E F86-F87:E",
    "F8D-F97:E F99-FBC:E FC6:E 102D-1030:E 1031:S 1032-1037:E 1039-103A:E 103B-103C:S",
    "103D-103E:E 1056-1057:S 1058-1059:E 105E-1060:E 1071-1074:E 1082:E 1084:S 1085-1086:E",
    "108D:E 109D:E 1100-115F:L 1160-11A7:V 11A8-11FF:T 135D-135F:E 1712-1715:E 1732-1734:E",
    "1752-1753:E 1772-1773:E 17B4-17B5:E 17B6:S 17B7-17BD:E 17BE-17C5:S 17C6:E 17C7-17C8:S",
    "17C9-17D3:E 17DD:E 180B-180D:E 180E:C 180F:E 1885-1886:E 18A9:E 1920-1922:E 1923-1926:S",
    "1927-1928:E 1929-192B:S 1930-1931:S 1932:E 1933-1938:S 1939-193B:E 1A17-1A18:E 1A19-1A1A:S",
    "1A1B:E 1A55:S 1A56:E 1A57:S 1A58-1A5E:E 1A60:E 1A62:E 1A65-1A6C:E 1A6D-1A72:S 1A73-1A7C:E",
    "1A7F:E 1AB0-1ACE:E 1B00-1B03:E 1B04:S 1B34-1B3D:E 1B3E-1B41:S 1B42-1B44:E 1B6B-1B73:E",
    "1B80-1B81:E 1B82:S 1BA1:S 1BA2-1BA5:E 1BA6-1BA7:S 1BA8-1BAD:E 1BE6:E 1BE7:S 1BE8-1BE9:E",
    "1BEA-1BEC:S 1BED:E 1BEE:S 1BEF-1BF1:E 1BF2-1BF3:S 1C24-1C2B:S 1C2C-1C33:E 1C34-1C35:S",
    "1C36-1C37:E 1CD0-1CD2:E 1CD4-1CE0:E 1CE1:S 1CE2-1CE8:E 1CED:E 1CF4:E 1CF7:S 1CF8-1CF9:E",
    "1DC0-1DFF:E 200B:C 200C:E 200D:Z 200E-200F:C 2028-202E:C 2060-206F:C 20D0-20F0:E",
    "2CEF-2CF1:E 2D7F:E 2DE0-2DFF:E 302A-302F:E 3099-309A:E A66F-A672:E A674-A67D:E A69E-A69F:E",
    "A6F0-A6F1:E A802:E A806:E A80B:E A823-A824:S A825-A826:E A827:S A82C:E A880-A881:S",
    "A8B4-A8C3:S A8C4-A8C5:E A8E0-A8F1:E A8FF:E A926-A92D:E A947-A951:E A952:S A953:E",
    "A960-A97C:L A980-A982:E A983:S A9B3:E A9B4-A9B5:S A9B6-A9B9:E A9BA-A9BB:S A9BC-A9BD:E",
    "A9BE-A9BF:S A9C0:E A9E5:E AA29-AA2E:E AA2F-AA30:S AA31-AA32:E AA33-AA34:S AA35-AA36:E",
    "AA43:E AA4C:E AA4D:S AA7C:E AAB0:E AAB2-AAB4:E AAB7-AAB8:E AABE-AABF:E AAC1:E AAEB:S",
    "AAEC-AAED:E AAEE-AAEF:S AAF5:S AAF6:E ABE3-ABE4:S ABE5:E ABE6-ABE7:S ABE8:E ABE9-ABEA:S",
    "ABEC:S ABED:E AC00:v AC01-AC1B:t AC1C:v AC1D-AC37:t AC38:v AC39-AC53:t AC54:v AC55-AC6F:t",
    "AC70:v AC71-AC8B:t AC8C:v AC8D-ACA7:t ACA8:v ACA9-ACC3:t ACC4:v ACC5-ACDF:t ACE0:v",
    "ACE1-ACFB:t ACFC:v ACFD-AD17:t AD18:v AD19-AD33:t AD34:v AD35-AD4F:t AD50:v AD51-AD6B:t",
    "AD6C:v AD6D-AD87:t AD88:v AD89-ADA3:t ADA4:v ADA5-ADBF:t ADC0:v ADC1-ADDB:t ADDC:v",
    "ADDD-ADF7:t ADF8:v ADF9-AE13:t AE14:v AE15-AE2F:t AE30:v AE31-AE4B:t AE4C:v AE4D-AE67:t",
    "AE68:v AE69-AE83:t AE84:v AE85-AE9F:t AEA0:v AEA1-AEBB:t AEBC:v AEBD-AED7:t AED8:v",
    "AED9-AEF3:t AEF4:v AEF5-AF0F:t AF10:v AF11-AF2B:t AF2C:v AF2D-AF47:t AF48:v AF49-AF63:t",
    "AF64:v AF65-AF7F:t AF80:v AF81-AF9B:t AF9C:v AF9D-AFB7:t AFB8:v AFB9-AFD3:t AFD4:v",
    "AFD5-AFEF:t AFF0:v AFF1-B00B:t B00C:v B00D-B027:t B028:v B029-B043:t B044:v B045-B05F:t",
    "B060:v B061-B07B:t B07C:v B07D-B097:t B098:v B099-B0B3:t B0B4:v B0B5-B0CF:t B0D0:v",
    "B0D1-B0EB:t B0EC:v B0ED-B107:t B108:v B109-B123:t B124:v B125-B13F:t B140:v B141-B15B:t",
    "B15C:v B15D-B177:t B178:v B179-B193:t B194:v B195-B1AF:t B1B0:v B1B1-B1CB:t B1CC:v",
    "B1CD-B1E7:t B1E8:v B1E9-B203:t B204:v B205-B21F:t B220:v B221-B23B:t B23C:v B23D-B257:t",
    "B258:v B259-B273:t B274:v B275-B28F:t B290:v B291-B2AB:t B2AC:v B2AD-B2C7:t B2C8:v",
    "B2C9-B2E3:t B2E4:v B2E5-B2FF:t B300:v B301-B31B:t B31C:v B31D-B337:t B338:v B339-B353:t",
    "B354:v B355-B36F:t B370:v B371-B38B:t B38C:v B38D-B3A7:t B3A8:v B3A9-B3C3:t B3C4:v",
    "B3C5-B3DF:t B3E0:v B3E1-B3FB:t B3FC:v B3FD-B417:t B418:v B419-B433:t B434:v B435-B44F:t",
    "B450:v B451-B46B:t B46C:v B46D-B487:t B488:v B489-B4A3:t B4A4:v B4A5-B4BF:t B4C0:v",
    "B4C1-B4DB:t B4DC:v B4DD-B4F7:t B4F8:v B4F9-B513:t B514:v B515-B52F:t B530:v B531-B54B:t",
    "B54C:v B54D-B567:t B568:v B569-B583:t B584:v B585-B59F:t B5A0:v B5A1-B5BB:t B5BC:v",
    "B5BD-B5D7:t B5D8:v B5D9-B5F3:t B5F4:v B5F5-B60F:t B610:v B611-B62B:t B62C:v B62D-B647:t",
    "B648:v B649-B663:t B664:v B665-B67F:t B680:v B681-B69B:t B69C:v B69D-B6B7:t B6B8:v",
    "B6B9-B6D3:t B6D4:v B6D5-B6EF:t B6F0:v B6F1-B70B:t B70C:v B70D-B727:t B728:v B729-B743:t",
    "B744:v B745-B75F:t B760:v B761-B77B:t B77C:v B77D-B797:t B798:v B799-B7B3:t B7B4:v",
    "B7B5-B7CF:t B7D0:v B7D1-B7EB:t B7EC:v B7ED-B807:t B808:v B809-B823:t B824:v B825-B83F:t",
    "B840:v B841-B85B:t B85C:v B85D-B877:t B878:v B879-B893:t B894:v B895-B8AF:t B8B0:v",
    "B8B1-B8CB:t B8CC:v B8CD-B8E7:t B8E8:v B8E9-B903:t B904:v B905-B91F:t B920:v B921-B93B:t",
    "B93C:v B93D-B957:t B958:v B959-B973:t B974:v B975-B98F:t B990:v B991-B9AB:t B9AC:v",
    "B9AD-B9C7:t B9C8:v B9C9-B9E3:t B9E4:v B9E5-B9FF:t BA00:v BA01-BA1B:t BA1C:v BA1D-BA37:t",
    "BA38:v BA39-BA53:t BA54:v BA55-BA6F:t BA70:v BA71-BA8B:t BA8C:v BA8D-BAA7:t BAA8:v",
    "BAA9-BAC3:t BAC4:v BAC5-BADF:t BAE0:v BAE1-BAFB:t BAFC:v BAFD-BB17:t BB18:v BB19-BB33:t",
    "BB34:v BB35-BB4F:t BB50:v BB51-BB6B:t BB6C:v BB6D-BB87:t BB88:v BB89-BBA3:t BBA4:v",
    "BBA5-BBBF:t BBC0:v BBC1-BBDB:t BBDC:v BBDD-BBF7:t BBF8:v BBF9-BC13:t BC14:v BC15-BC2F:t",
    "BC30:v BC31-BC4B:t BC4C:v BC4D-BC67:t BC68:v BC69-BC83:t BC84:v BC85-BC9F:t BCA0:v",
    "BCA1-BCBB:t BCBC:v BCBD-BCD7:t BCD8:v BCD9-BCF3:t BCF4:v BCF5-BD0F:t BD10:v BD11-BD2B:t",
    "BD2C:v BD2D-BD47:t BD48:v BD49-BD63:t BD64:v BD65-BD7F:t BD80:v BD81-BD9B:t BD9C:v",
    "BD9D-BDB7:t BDB8:v BDB9-BDD3:t BDD4:v BDD5-BDEF:t BDF0:v BDF1-BE0B:t BE0C:v BE0D-BE27:t",
    "BE28:v BE29-BE43:t BE44:v BE45-BE5F:t BE60:v BE61-BE7B:t BE7C:v BE7D-BE97:t BE98:v",
    "BE99-BEB3:t BEB4:v BEB5-BECF:t BED0:v BED1-BEEB:t BEEC:v BEED-BF07:t BF08:v BF09-BF23:t",
    "BF24:v BF25-BF3F:t BF40:v BF41-BF5B:t BF5C:v BF5D-BF77:t BF78:v BF79-BF93:t BF94:v",
    "BF95-BFAF:t BFB0:v BFB1-BFCB:t BFCC:v BFCD-BFE7:t BFE8:v BFE9-C003:t C004:v C005-C01F:t",
    "C020:v C021-C03B:t C03C:v C03D-C057:t C058:v C059-C073:t C074:v C075-C08F:t C090:v",
    "C091-C0AB:t C0AC:v C0AD-C0C7:t C0C8:v C0C9-C0E3:t C0E4:v C0E5-C0FF:t C100:v C101-C11B:t",
    "C11C:v C11D-C137:t C138:v C139-C153:t C154:v C155-C16F:t C170:v C171-C18B:t C18C:v",
    "C18D-C1A7:t C1A8:v C1A9-C1C3:t C1C4:v C1C5-C1DF:t C1E0:v C1E1-C1FB:t C1FC:v C1FD-C217:t",
    "C218:v C219-C233:t C234:v C235-C24F:t C250:v C251-C26B:t C26C:v C26D-C287:t C288:v",
    "C289-C2A3:t C2A4:v C2A5-C2BF:t C2C0:v C2C1-C2DB:t C2DC:v C2DD-C2F7:t C2F8:v C2F9-C313:t",
    "C314:v C315-C32F:t C330:v C331-C34B:t C34C:v C34D-C367:t C368:v C369-C383:t C384:v",
    "C385-C39F:t C3A0:v C3A1-C3BB:t C3BC:v C3BD-C3D7:t C3D8:v C3D9-C3F3:t C3F4:v C3F5-C40F:t",
    "C410:v C411-C42B:t C42C:v C42D-C447:t C448:v C449-C463:t C464:v C465-C47F:t C480:v",
    "C481-C49B:t C49C:v C49D-C4B7:t C4B8:v C4B9-C4D3:t C4D4:v C4D5-C4EF:t C4F0:v C4F1-C50B:t",
    "C50C:v C50D-C527:t C528:v C529-C543:t C544:v C545-C55F:t C560:v C561-C57B:t C57C:v",
    "C57D-C597:t C598:v C599-C5B3:t C5B4:v C5B5-C5CF:t C5D0:v C5D1-C5EB:t C5EC:v C5ED-C607:t",
    "C608:v C609-C623:t C624:v C625-C63F:t C640:v C641-C65B:t C65C:v C65D-C677:t C678:v",
    "C679-C693:t C694:v C695-C6AF:t C6B0:v C6B1-C6CB:t C6CC:v C6CD-C6E7:t C6E8:v C6E9-C703:t",
    "C704:v C705-C71F:t C720:v C721-C73B:t C73C:v C73D-C757:t C758:v C759-C773:t C774:v",
    "C775-C78F:t C790:v C791-C7AB:t C7AC:v C7AD-C7C7:t C7C8:v C7C9-C7E3:t C7E4:v C7E5-C7FF:t",
    "C800:v C801-C81B:t C81C:v C81D-C837:t C838:v C839-C853:t C854:v C855-C86F:t C870:v",
    "C871-C88B:t C88C:v C88D-C8A7:t C8A8:v C8A9-C8C3:t C8C4:v C8C5-C8DF:t C8E0:v C8E1-C8FB:t",
    "C8FC:v C8FD-C917:t C918:v C919-C933:t C934:v C935-C94F:t C950:v C951-C96B:t C96C:v",
    "C96D-C987:t C988:v C989-C9A3:t C9A4:v C9A5-C9BF:t C9C0:v C9C1-C9DB:t C9DC:v C9DD-C9F7:t",
    "C9F8:v C9F9-CA13:t CA14:v CA15-CA2F:t CA30:v CA31-CA4B:t CA4C:v CA4D-CA67:t CA68:v",
    "CA69-CA83:t CA84:v CA85-CA9F:t CAA0:v CAA1-CABB:t CABC:v CABD-CAD7:t CAD8:v CAD9-CAF3:t",
    "CAF4:v CAF5-CB0F:t CB10:v CB11-CB2B:t CB2C:v CB2D-CB47:t CB48:v CB49-CB63:t CB64:v",
    "CB65-CB7F:t CB80:v CB81-CB9B:t CB9C:v CB9D-CBB7:t CBB8:v CBB9-CBD3:t CBD4:v CBD5-CBEF:t",
    "CBF0:v CBF1-CC0B:t CC0C:v CC0D-CC27:t CC28:v CC29-CC43:t CC44:v CC45-CC5F:t CC60:v",
    "CC61-CC7B:t CC7C:v CC7D-CC97:t CC98:v CC99-CCB3:t CCB4:v CCB5-CCCF:t CCD0:v CCD1-CCEB:t",
    "CCEC:v CCED-CD07:t CD08:v CD09-CD23:t CD24:v CD25-CD3F:t CD40:v CD41-CD5B:t CD5C:v",
    "CD5D-CD77:t CD78:v CD79-CD93:t CD94:v CD95-CDAF:t CDB0:v CDB1-CDCB:t CDCC:v CDCD-CDE7:t",
    "CDE8:v CDE9-CE03:t CE04:v CE05-CE1F:t CE20:v CE21-CE3B:t CE3C:v CE3D-CE57:t CE58:v",
    "CE59-CE73:t CE74:v CE75-CE8F:t CE90:v CE91-CEAB:t CEAC:v CEAD-CEC7:t CEC8:v CEC9-CEE3:t",
    "CEE4:v CEE5-CEFF:t CF00:v CF01-CF1B:t CF1C:v CF1D-CF37:t CF38:v CF39-CF53:t CF54:v",
    "CF55-CF6F:t CF70:v CF71-CF8B:t CF8C:v CF8D-CFA7:t CFA8:v CFA9-CFC3:t CFC4:v CFC5-CFDF:t",
    "CFE0:v CFE1-CFFB:t CFFC:v CFFD-D017:t D018:v D019-D033:t D034:v D035-D04F:t D050:v",
    "D051-D06B:t D06C:v D06D-D087:t D088:v D089-D0A3:t D0A4:v D0A5-D0BF:t D0C0:v D0C1-D0DB:t",
    "D0DC:v D0DD-D0F7:t D0F8:v D0F9-D113:t D114:v D115-D12F:t D130:v D131-D14B:t D14C:v",
    "D14D-D167:t D168:v D169-D183:t D184:v D185-D19F:t D1A0:v D1A1-D1BB:t D1BC:v D1BD-D1D7:t",
    "D1D8:v D1D9-D1F3:t D1F4:v D1F5-D20F:t D210:v D211-D22B:t D22C:v D22D-D247:t D248:v",
    "D249-D263:t D264:v D265-D27F:t D280:v D281-D29B:t D29C:v D29D-D2B7:t D2B8:v D2B9-D2D3:t",
    "D2D4:v D2D5-D2EF:t D2F0:v D2F1-D30B:t D30C:v D30D-D327:t D328:v D329-D343:t D344:v",
    "D345-D35F:t D360:v D361-D37B:t D37C:v D37D-D397:t D398:v D399-D3B3:t D3B4:v D3B5-D3CF:t",
    "D3D0:v D3D1-D3EB:t D3EC:v D3ED-D407:t D408:v D409-D423:t D424:v D425-D43F:t D440:v",
    "D441-D45B:t D45C:v D45D-D477:t D478:v D479-D493:t D494:v D495-D4AF:t D4B0:v D4B1-D4CB:t",
    "D4CC:v D4CD-D4E7:t D4E8:v D4E9-D503:t D504:v D505-D51F:t D520:v D521-D53B:t D53C:v",
    "D53D-D557:t D558:v D559-D573:t D574:v D575-D58F:t D590:v D591-D5AB:t D5AC:v D5AD-D5C7:t",
    "D5C8:v D5C9-D5E3:t D5E4:v D5E5-D5FF:t D600:v D601-D61B:t D61C:v D61D-D637:t D638:v",
    "D639-D653:t D654:v D655-D66F:t D670:v D671-D68B:t D68C:v D68D-D6A7:t D6A8:v D6A9-D6C3:t",
    "D6C4:v D6C5-D6DF:t D6E0:v D6E1-D6FB:t D6FC:v D6FD-D717:t D718:v D719-D733:t D734:v",
    "D735-D74F:t D750:v D751-D76B:t D76C:v D76D-D787:t D788:v D789-D7A3:t D7B0-D7C6:V",
    "D7CB-D7FB:T FB1E:E FE00-FE0F:E FE20-FE2F:E FEFF:C FF9E-FF9F:E FFF0-FFFB:C 101FD:E 102E0:E",
    "10376-1037A:E 10A01-10A03:E 10A05-10A06:E 10A0C-10A0F:E 10A38-10A3A:E 10A3F:E",
    "10AE5-10AE6:E 10D24-10D27:E 10D69-10D6D:E 10EAB-10EAC:E 10EFC-10EFF:E 10F46-10F50:E",
    "10F82-10F85:E 11000:S 11001:E 11002:S 11038-11046:E 11070:E 11073-11074:E 1107F-11081:E",
    "11082:S 110B0-110B2:S 110B3-110B6:E 110B7-110B8:S 110B9-110BA:E 110BD:P 110C2:E 110CD:P",
    "11100-11102:E 11127-1112B:E 1112C:S 1112D-11134:E 11145-11146:S 11173:E 11180-11181:E",
    "11182:S 111B3-111B5:S 111B6-111BE:E 111BF:S 111C0:E 111C2-111C3:P 111C9-111CC:E 111CE:S",
    "111CF:E 1122C-1122E:S 1122F-11231:E 11232-11233:S 11234-11237:E 1123E:E 11241:E 112DF:E",
    "112E0-112E2:S 112E3-112EA:E 11300-11301:E 11302-11303:S 1133B-1133C:E 1133E:E 1133F:S",
    "11340:E 11341-11344:S 11347-11348:S 1134B-1134C:S 1134D:E 11357:E 11362-11363:S",
    "11366-1136C:E 11370-11374:E 113B8:E 113B9-113BA:S 113BB-113C0:E 113C2:E 113C5:E",
    "113C7-113C9:E 113CA:S 113CC-113CD:S 113CE-113D0:E 113D1:P 113D2:E 113E1-113E2:E",
    "11435-11437:S 11438-1143F:E 11440-11441:S 11442-11444:E 11445:S 11446:E 1145E:E 114B0:E",
    "114B1-114B2:S 114B3-114B8:E 114B9:S 114BA:E 114BB-114BC:S 114BD:E 114BE:S 114BF-114C0:E",
    "114C1:S 114C2-114C3:E 115AF:E 115B0-115B1:S 115B2-115B5:E 115B8-115BB:S 115BC-115BD:E",
    "115BE:S 115BF-115C0:E 115DC-115DD:E 11630-11632:S 11633-1163A:E 1163B-1163C:S 1163D:E",
    "1163E:S 1163F-11640:E 116AB:E 116AC:S 116AD:E 116AE-116AF:S 116B0-116B7:E 1171D-1171F:E",
    "11722-11725:E 11726:S 11727-1172B:E 1182C-1182E:S 1182F-11837:E 11838:S 11839-1183A:E",
    "11930:E 11931-11935:S 11937-11938:S 1193B-1193E:E 1193F:P 11940:S 11941:P 11942:S 11943:E",
    "119D1-119D3:S 119D4-119D7:E 119DA-119DB:E 119DC-119DF:S 119E0:E 119E4:S 11A01-11A0A:E",
    "11A33-11A38:E 11A39:S 11A3A:P 11A3B-11A3E:E 11A47:E 11A51-11A56:E 11A57-11A58:S",
    "11A59-11A5B:E 11A84-11A89:P 11A8A-11A96:E 11A97:S 11A98-11A99:E 11C2F:S 11C30-11C36:E",
    "11C38-11C3D:E 11C3E:S 11C3F:E 11C92-11CA7:E 11CA9:S 11CAA-11CB0:E 11CB1:S 11CB2-11CB3:E",
    "11CB4:S 11CB5-11CB6:E 11D31-11D36:E 11D3A:E 11D3C-11D3D:E 11D3F-11D45:E 11D46:P 11D47:E",
    "11D8A-11D8E:S 11D90-11D91:E 11D93-11D94:S 11D95:E 11D96:S 11D97:E 11EF3-11EF4:E",
    "11EF5-11EF6:S 11F00-11F01:E 11F02:P 11F03:S 11F34-11F35:S 11F36-11F3A:E 11F3E-11F3F:S",
    "11F40-11F42:E 11F5A:E 13430-1343F:C 13440:E 13447-13455:E 1611E-16129:E 1612A-1612C:S",
    "1612D-1612F:E 16AF0-16AF4:E 16B30-16B36:E 16F4F:E 16F51-16F87:S 16F8F-16F92:E 16FE4:E",
    "16FF0-16FF1:S 1BC9D-1BC9E:E 1BCA0-1BCA3:C 1CF00-1CF2D:E 1CF30-1CF46:E 1D165:E 1D166:S",
    "1D167-1D169:E 1D16D:S 1D16E-1D172:E 1D173-1D17A:C 1D17B-1D182:E 1D185-1D18B:E",
    "1D1AA-1D1AD:E 1D242-1D244:E 1DA00-1DA36:E 1DA3B-1DA6C:E 1DA75:E 1DA84:E 1DA9B-1DA9F:E",
    "1DAA1-1DAAF:E 1E000-1E006:E 1E008-1E018:E 1E01B-1E021:E 1E023-1E024:E 1E026-1E02A:E",
    "1E08F:E 1E130-1E136:E 1E2AE:E 1E2EC-1E2EF:E 1E4EC-1E4EF:E 1E5EE-1E5EF:E 1E8D0-1E8D6:E",
    "1E944-1E94A:E 1F1E6-1F1FF:I 1F3FB-1F3FF:E E0000-E001F:C E0020-E007F:E E0080-E00FF:C",
    "E0100-E01EF:E E01F0-E0FFF:C"])

/-- The grapheme break class of a character. -/
def GraphemeClass.of (c : Char) : GraphemeClass :=
  (graphemeBreakTable.find? c).getD .other

/-- Signs that join the consonant before them to the next one. -/
def conjunctLinker : CodeSet := CodeSet.ofHex
  (" ".intercalate [
    "94D 9CD ACD B4D C4D D4D 1039 17D2 1A60 1BAB AAF6 10A3F 11133 113D0 1193E 11A47 11A99 11D45",
    "11D97 11F42"])

/-- Consonants of the scripts that join consonants into conjuncts. -/
def conjunctConsonant : CodeSet := CodeSet.ofHex
  (" ".intercalate [
    "915-939 958-95F 978-97F 995-9A8 9AA-9B0 9B2 9B6-9B9 9DC-9DD 9DF 9F0-9F1 A95-AA8 AAA-AB0",
    "AB2-AB3 AB5-AB9 AF9 B15-B28 B2A-B30 B32-B33 B35-B39 B5C-B5D B5F B71 C15-C28 C2A-C39",
    "C58-C5A D15-D3A 1000-1020 103F 1050-1051 105A-105D 1061 1065-1066 106E-1070 1075-1081 108E",
    "1780-17A2 1A20-1A4C 1A53-1A54 1B8A-1BA0 1BAE-1BAF 1BBB-1BBD A9E0-A9E4 A9E7-A9EF A9FA-A9FE",
    "AA60-AA6F AA71-AA73 AA7A AA7E-AA7F AAE2-AAEA ABC0-ABCD ABD0 ABD2-ABDA 10A00 10A10-10A13",
    "10A15-10A17 10A19-10A35 11107-11126 11144 11147 11392-113B5 1190C-11913 11915-11916",
    "11918-1192F 11A0B-11A32 11A5C-11A83 11D0C-11D30 11D6C-11D89 11F12-11F33"])

end LogBrowser.Unicode
