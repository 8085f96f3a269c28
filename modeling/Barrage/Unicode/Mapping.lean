import Barrage.Unicode.Ranges

/-! How characters of international domain names are prepared.
Some are not allowed, some are left out, and some are replaced: capitals by small letters, and
variants of ASCII characters by these. -/

namespace Barrage.Unicode

def disallowedText : String := "
  80-9F 378-379 380-383 38B 38D 3A2 530 557-558 58B-58C 590 5C8-5CF 5EB-5EE 5F5-605 61C 6DD
  70E-70F 74B-74C 7B2-7BF 7FB-7FC 82E-82F 83F 85C-85D 85F 86B-86F 890-896 8E2 984 98D-98E
  991-992 9A9 9B1 9B3-9B5 9BA-9BB 9C5-9C6 9C9-9CA 9CF-9D6 9D8-9DB 9DE 9E4-9E5 9FF-A00 A04
  A0B-A0E A11-A12 A29 A31 A34 A37 A3A-A3B A3D A43-A46 A49-A4A A4E-A50 A52-A58 A5D A5F-A65
  A77-A80 A84 A8E A92 AA9 AB1 AB4 ABA-ABB AC6 ACA ACE-ACF AD1-ADF AE4-AE5 AF2-AF8 B00 B04
  B0D-B0E B11-B12 B29 B31 B34 B3A-B3B B45-B46 B49-B4A B4E-B54 B58-B5B B5E B64-B65 B78-B81 B84
  B8B-B8D B91 B96-B98 B9B B9D BA0-BA2 BA5-BA7 BAB-BAD BBA-BBD BC3-BC5 BC9 BCE-BCF BD1-BD6
  BD8-BE5 BFB-BFF C0D C11 C29 C3A-C3B C45 C49 C4E-C54 C57 C5B C5E-C5F C64-C65 C70-C76 C8D C91
  CA9 CB4 CBA-CBB CC5 CC9 CCE-CD4 CD7-CDB CDF CE4-CE5 CF0 CF4-CFF D0D D11 D45 D49 D50-D53
  D64-D65 D80 D84 D97-D99 DB2 DBC DBE-DBF DC7-DC9 DCB-DCE DD5 DD7 DE0-DE5 DF0-DF1 DF5-E00
  E3B-E3E E5C-E80 E83 E85 E8B EA4 EA6 EBE-EBF EC5 EC7 ECF EDA-EDB EE0-EFF F48 F6D-F70 F98 FBD
  FCD FDB-FFF 10C6 10C8-10CC 10CE-10CF 1249 124E-124F 1257 1259 125E-125F 1289 128E-128F 12B1
  12B6-12B7 12BF 12C1 12C6-12C7 12D7 1311 1316-1317 135B-135C 137D-137F 139A-139F 13F6-13F7
  13FE-13FF 1680 169D-169F 16F9-16FF 1716-171E 1737-173F 1754-175F 176D 1771 1774-177F
  17DE-17DF 17EA-17EF 17FA-17FF 181A-181F 1879-187F 18AB-18AF 18F6-18FF 191F 192C-192F
  193C-193F 1941-1943 196E-196F 1975-197F 19AC-19AF 19CA-19CF 19DB-19DD 1A1C-1A1D 1A5F
  1A7D-1A7E 1A8A-1A8F 1A9A-1A9F 1AAE-1AAF 1ADE-1ADF 1AEC-1AFF 1B4D 1BF4-1BFB 1C38-1C3A
  1C4A-1C4C 1C8B-1C8F 1CBB-1CBC 1CC8-1CCF 1CFB-1CFF 1F16-1F17 1F1E-1F1F 1F46-1F47 1F4E-1F4F
  1F58 1F5A 1F5C 1F5E 1F7E-1F7F 1FB5 1FC5 1FD4-1FD5 1FDC 1FF0-1FF1 1FF5 1FFF 200E-200F
  2024-2026 2028-202E 2065-2069 2072-2073 208F 209D-209F 20C2-20CF 20F1-20FF 218C-218F
  242A-243F 244B-245F 2488-249B 2B74-2B75 2CF4-2CF8 2D26 2D28-2D2C 2D2E-2D2F 2D68-2D6E
  2D71-2D7E 2D97-2D9F 2DA7 2DAF 2DB7 2DBF 2DC7 2DCF 2DD7 2DDF 2E5E-2E7F 2E9A 2EF4-2EFF
  2FD6-2FFF 3040 3097-3098 3100-3104 3130 318F 31E6-31EF 321F 33C2 33C7 33D8 A48D-A48F
  A4C7-A4CF A62C-A63F A6F8-A6FF A7DD-A7F0 A82D-A82F A83A-A83F A878-A87F A8C6-A8CD A8DA-A8DF
  A954-A95E A97D-A97F A9CE A9DA-A9DD A9FF AA37-AA3F AA4E-AA4F AA5A-AA5B AAC3-AADA AAF7-AB00
  AB07-AB08 AB0F-AB10 AB17-AB1F AB27 AB2F AB6C-AB6F ABEE-ABEF ABFA-ABFF D7A4-D7AF D7C7-D7CA
  D7FC-D7FF E000-F8FF FA6E-FA6F FADA-FAFF FB07-FB12 FB18-FB1C FB37 FB3D FB3F FB42 FB45
  FDD0-FDEF FE12 FE19-FE1F FE30 FE52-FE53 FE67 FE6C-FE6F FE75 FEFD-FEFE FF00 FFBF-FFC1
  FFC8-FFC9 FFD0-FFD1 FFD8-FFD9 FFDD-FFDF FFE7 FFEF-FFFF 1000C 10027 1003B 1003E 1004E-1004F
  1005E-1007F 100FB-100FF 10103-10106 10134-10136 1018F 1019D-1019F 101A1-101CF 101FE-1027F
  1029D-1029F 102D1-102DF 102FC-102FF 10324-1032C 1034B-1034F 1037B-1037F 1039E 103C4-103C7
  103D6-103FF 1049E-1049F 104AA-104AF 104D4-104D7 104FC-104FF 10528-1052F 10564-1056E 1057B
  1058B 10593 10596 105A2 105B2 105BA 105BD-105BF 105F4-105FF 10737-1073F 10756-1075F
  10768-1077F 10786 107B1 107BB-107FF 10806-10807 10809 10836 10839-1083B 1083D-1083E 10856
  1089F-108A6 108B0-108DF 108F3 108F6-108FA 1091C-1091E 1093A-1093E 1095A-1097F 109B8-109BB
  109D0-109D1 10A04 10A07-10A0B 10A14 10A18 10A36-10A37 10A3B-10A3E 10A49-10A4F 10A59-10A5F
  10AA0-10ABF 10AE7-10AEA 10AF7-10AFF 10B36-10B38 10B56-10B57 10B73-10B77 10B92-10B98
  10B9D-10BA8 10BB0-10BFF 10C49-10C7F 10CB3-10CBF 10CF3-10CF9 10D28-10D2F 10D3A-10D3F
  10D66-10D68 10D86-10D8D 10D90-10E5F 10E7F 10EAA 10EAE-10EAF 10EB2-10EC1 10EC8-10ECF
  10ED9-10EF9 10F28-10F2F 10F5A-10F6F 10F8A-10FAF 10FCC-10FDF 10FF7-10FFF 1104E-11051
  11076-1107E 110BD 110C3-110CF 110E9-110EF 110FA-110FF 11135 11148-1114F 11177-1117F 111E0
  111F5-111FF 11212 11242-1127F 11287 11289 1128E 1129E 112AA-112AF 112EB-112EF 112FA-112FF
  11304 1130D-1130E 11311-11312 11329 11331 11334 1133A 11345-11346 11349-1134A 1134E-1134F
  11351-11356 11358-1135C 11364-11365 1136D-1136F 11375-1137F 1138A 1138C-1138D 1138F 113B6
  113C1 113C3-113C4 113C6 113CB 113D6 113D9-113E0 113E3-113FF 1145C 11462-1147F 114C8-114CF
  114DA-1157F 115B6-115B7 115DE-115FF 11645-1164F 1165A-1165F 1166D-1167F 116BA-116BF
  116CA-116CF 116E4-116FF 1171B-1171C 1172C-1172F 11747-117FF 1183C-1189F 118F3-118FE
  11907-11908 1190A-1190B 11914 11917 11936 11939-1193A 11947-1194F 1195A-1199F 119A8-119A9
  119D8-119D9 119E5-119FF 11A48-11A4F 11AA3-11AAF 11AF9-11AFF 11B0A-11B5F 11B68-11BBF
  11BE2-11BEF 11BFA-11BFF 11C09 11C37 11C46-11C4F 11C6D-11C6F 11C90-11C91 11CA8 11CB7-11CFF
  11D07 11D0A 11D37-11D39 11D3B 11D3E 11D48-11D4F 11D5A-11D5F 11D66 11D69 11D8F 11D92
  11D99-11D9F 11DAA-11DAF 11DDC-11DDF 11DEA-11EDF 11EF9-11EFF 11F11 11F3B-11F3D 11F5B-11FAF
  11FB1-11FBF 11FF2-11FFE 1239A-123FF 1246F 12475-1247F 12544-12F8F 12FF3-12FFF 13430-1343F
  13456-1345F 143FB-143FF 14647-160FF 1613A-167FF 16A39-16A3F 16A5F 16A6A-16A6D 16ABF
  16ACA-16ACF 16AEE-16AEF 16AF6-16AFF 16B46-16B4F 16B5A 16B62 16B78-16B7C 16B90-16D3F
  16D7A-16E3F 16E9B-16E9F 16EB9-16EBA 16ED4-16EFF 16F4B-16F4E 16F88-16F8E 16FA0-16FDF
  16FE5-16FEF 16FF7-16FFF 18CD6-18CFE 18D1F-18D7F 18DF3-1AFEF 1AFF4 1AFFC 1AFFF 1B123-1B131
  1B133-1B14F 1B153-1B154 1B156-1B163 1B168-1B16F 1B2FC-1BBFF 1BC6B-1BC6F 1BC7D-1BC7F
  1BC89-1BC8F 1BC9A-1BC9B 1BCA4-1CBFF 1CCFD-1CCFF 1CEB4-1CEB9 1CED1-1CEDF 1CEF1-1CEFF
  1CF2E-1CF2F 1CF47-1CF4F 1CFC4-1CFFF 1D0F6-1D0FF 1D127-1D128 1D1EB-1D1FF 1D246-1D2BF
  1D2D4-1D2DF 1D2F4-1D2FF 1D357-1D35F 1D379-1D3FF 1D455 1D49D 1D4A0-1D4A1 1D4A3-1D4A4
  1D4A7-1D4A8 1D4AD 1D4BA 1D4BC 1D4C4 1D506 1D50B-1D50C 1D515 1D51D 1D53A 1D53F 1D545
  1D547-1D549 1D551 1D6A6-1D6A7 1D7CC-1D7CD 1DA8C-1DA9A 1DAA0 1DAB0-1DEFF 1DF1F-1DF24
  1DF2B-1DFFF 1E007 1E019-1E01A 1E022 1E025 1E02B-1E02F 1E06E-1E08E 1E090-1E0FF 1E12D-1E12F
  1E13E-1E13F 1E14A-1E14D 1E150-1E28F 1E2AF-1E2BF 1E2FA-1E2FE 1E300-1E4CF 1E4FA-1E5CF
  1E5FB-1E5FE 1E600-1E6BF 1E6DF 1E6F6-1E6FD 1E700-1E7DF 1E7E7 1E7EC 1E7EF 1E7FF 1E8C5-1E8C6
  1E8D7-1E8FF 1E94C-1E94F 1E95A-1E95D 1E960-1EC70 1ECB5-1ED00 1ED3E-1EDFF 1EE04 1EE20 1EE23
  1EE25-1EE26 1EE28 1EE33 1EE38 1EE3A 1EE3C-1EE41 1EE43-1EE46 1EE48 1EE4A 1EE4C 1EE50 1EE53
  1EE55-1EE56 1EE58 1EE5A 1EE5C 1EE5E 1EE60 1EE63 1EE65-1EE66 1EE6B 1EE73 1EE78 1EE7D 1EE7F
  1EE8A 1EE9C-1EEA0 1EEA4 1EEAA 1EEBC-1EEEF 1EEF2-1EFFF 1F02C-1F02F 1F094-1F09F 1F0AF-1F0B0
  1F0C0 1F0D0 1F0F6-1F100 1F1AE-1F1E5 1F203-1F20F 1F23C-1F23F 1F249-1F24F 1F252-1F25F
  1F266-1F2FF 1F6D9-1F6DB 1F6ED-1F6EF 1F6FD-1F6FF 1F7DA-1F7DF 1F7EC-1F7EF 1F7F1-1F7FF
  1F80C-1F80F 1F848-1F84F 1F85A-1F85F 1F888-1F88F 1F8AE-1F8AF 1F8BC-1F8BF 1F8C2-1F8CF
  1F8D9-1F8FF 1FA58-1FA5F 1FA6E-1FA6F 1FA7D-1FA7F 1FA8B-1FA8D 1FAC7 1FAC9-1FACC 1FADD-1FADE
  1FAEB-1FAEE 1FAF9-1FAFF 1FB93 1FBFB-1FFFF 2A6E0-2A6FF 2B81E-2B81F 2CEAE-2CEAF 2EBE1-2EBEF
  2EE5E-2F7FF 2FA1E-2FFFF 3134B-3134F 3347A-E00FF E01F0-10FFFF"

/-- Code points that are left out. -/
def ignoredText : String := "
  AD 34F 115F-1160 17B4-17B5 180B-180F 200B 2060-2064 206A-206F 3164 FE00-FE0F FEFF FFA0
  1BCA0-1BCA3 1D173-1D17A E0100-E01EF"

/-- Code points that are replaced by one: a range, with a step of two where a two follows it, and what
its first member becomes; the others keep their distance from that. -/
def singleText : String := "
  A0>20 AA>61 B2-B3>32 B9>31 BA>6F C0-D6>E0 D8-DE>F8 100-12E/2>101 134-136/2>135 139-13D/2>13A
  141-147/2>142 14A-176/2>14B 178>FF 179-17D/2>17A 17F>73 181>253 182-184/2>183 186>254
  187>188 189-18A>256 18B>18C 18E>1DD 18F>259 190>25B 191>192 193>260 194>263 196>269 197>268
  198>199 19C>26F 19D>272 19F>275 1A0-1A4/2>1A1 1A6>280 1A7>1A8 1A9>283 1AC>1AD 1AE>288
  1AF>1B0 1B1-1B2>28A 1B3-1B5/2>1B4 1B7>292 1B8>1B9 1BC>1BD 1CD-1DB/2>1CE 1DE-1EE/2>1DF
  1F4>1F5 1F6>195 1F7>1BF 1F8-21E/2>1F9 220>19E 222-232/2>223 23A>2C65 23B>23C 23D>19A
  23E>2C66 241>242 243>180 244>289 245>28C 246-24E/2>247 2B0-2B2/2>68 2B3>72 2B7>77 2B8>79
  2E1>6C 2E2>73 2E3>78 370-372/2>371 376>377 37E>3B 37F>3F3 386>3AC 388-38A>3AD 38C>3CC
  38E-38F>3CD 391-3A1>3B1 3A3-3AB>3C3 3CF>3D7 3D8-3EE/2>3D9 3F4>3B8 3F7>3F8 3FA>3FB
  3FD-3FF>37B 400-40F>450 410-42F>430 460-480/2>461 48A-4BE/2>48B 4C0>4CF 4C1-4CD/2>4C2
  4D0-52E/2>4D1 531-556>561 10A0-10C5>2D00 10C7>2D27 10CD>2D2D 1C90-1CBA>10D0 1CBD-1CBF>10FD
  1D2C>61 1D2E-1D30/2>62 1D31-1D33/2>65 1D34-1D3A>68 1D3C>6F 1D3E>70 1D3F>72 1D40-1D41>74
  1D42>77 1D43>61 1D47>62 1D48-1D49>64 1D4D>67 1D4F>6B 1D50-1D52/2>6D 1D56>70 1D57-1D58>74
  1D5B>76 1D62>69 1D63>72 1D64-1D65>75 1D9C>63 1DA0>66 1DBB>7A 1E00-1E94/2>1E01 1E9E>DF
  1EA0-1EFE/2>1EA1 1F08-1F0F>1F00 1F18-1F1D>1F10 1F28-1F2F>1F20 1F38-1F3F>1F30 1F48-1F4D>1F40
  1F59-1F5F/2>1F51 1F68-1F6F>1F60 1FB8-1FB9>1FB0 1FBA>1F70 1FC8-1FCA/2>1F72 1FD8-1FD9>1FD0
  1FDA>1F76 1FE8-1FE9>1FE0 1FEA>1F7A 1FEC>1FE5 1FEF>60 1FF8>1F78 1FFA>1F7C 2000>20 2001>20
  2002>20 2003>20 2004>20 2005>20 2006>20 2007>20 2008>20 2009>20 200A>20 202F>20 205F>20
  2070>30 2071>69 2074-2079>34 207A>2B 207C>3D 207D-207E>28 207F>6E 2080-2089>30 208A>2B
  208C>3D 208D-208E>28 2090>61 2091>65 2092>6F 2093>78 2095>68 2096-2099>6B 209A>70
  209B-209C>73 2102>63 210A-210B>67 210C>68 210D>68 210E>68 2110>69 2111>69 2112>6C
  2113-2115/2>6C 2119-211B>70 211C>72 211D>72 2124>7A 2126>3C9 2128>7A 212A>6B 212B>E5
  212C-212D>62 212F>65 2130-2131>65 2132>214E 2133>6D 2134>6F 2139>69 2145>64 2146-2147>64
  2148-2149>69 2160>69 2164>76 2169>78 216C>6C 216D-216E>63 216F>6D 2170>69 2174>76 2179>78
  217C>6C 217D-217E>63 217F>6D 2183>2184 2460-2468>31 24B6-24CF>61 24D0-24E9>61 24EA>30
  2C00-2C2F>2C30 2C60>2C61 2C62>26B 2C63>1D7D 2C64>27D 2C67-2C6B/2>2C68 2C6D>251 2C6E>271
  2C6F>250 2C70>252 2C72>2C73 2C75>2C76 2C7C>6A 2C7D>76 2C7E-2C7F>23F 2C80-2CE2/2>2C81
  2CEB-2CED/2>2CEC 2CF2>2CF3 3000>20 3002>2E A640-A66C/2>A641 A680-A69A/2>A681
  A722-A72E/2>A723 A732-A76E/2>A733 A779-A77B/2>A77A A77D>1D79 A77E-A786/2>A77F A78B>A78C
  A78D>265 A790-A792/2>A791 A796-A7A8/2>A797 A7AA>266 A7AB>25C A7AC>261 A7AD>26C A7AE>26A
  A7B0>29E A7B1>287 A7B2>29D A7B3>AB53 A7B4-A7C2/2>A7B5 A7C4>A794 A7C5>282 A7C6>1D8E
  A7C7-A7C9/2>A7C8 A7D0>A7D1 A7D6-A7D8/2>A7D7 A7F1>73 A7F2>63 A7F3>66 A7F4>71 A7F5>A7F6
  FB29>2B FE10>2C FE13-FE14>3A FE15>21 FE16>3F FE33>5F FE34>5F FE35-FE36>28 FE37>7B FE38>7D
  FE47>5B FE48>5D FE4D>5F FE4E>5F FE4F>5F FE50>2C FE54>3B FE55>3A FE56>3F FE57>21 FE59-FE5A>28
  FE5B>7B FE5C>7D FE5F>23 FE60>26 FE61-FE62>2A FE63>2D FE64>3C FE65>3E FE66>3D FE68>5C
  FE69-FE6A>24 FE6B>40 FF01-FF20>21 FF21-FF3A>61 FF3B-FF5E>5B FF61>2E 10400-10427>10428
  104B0-104D3>104D8 10570-1057A>10597 1057C-1058A>105A3 1058C-10592>105B3 10594-10595>105BB
  107A5>71 10C80-10CB2>10CC0 118A0-118BF>118C0 16E40-16E5F>16E60 1CCD6-1CCEF>61 1CCF0-1CCF9>30
  1D400-1D419>61 1D41A-1D433>61 1D434-1D44D>61 1D44E-1D454>61 1D456-1D467>69 1D468-1D481>61
  1D482-1D49B>61 1D49C-1D49E/2>61 1D49F>64 1D4A2>67 1D4A5-1D4A6>6A 1D4A9-1D4AC>6E
  1D4AE-1D4B5>73 1D4B6-1D4B9>61 1D4BB-1D4BD/2>66 1D4BE-1D4C3>69 1D4C5-1D4CF>70 1D4D0-1D4E9>61
  1D4EA-1D503>61 1D504-1D505>61 1D507-1D50A>64 1D50D-1D514>6A 1D516-1D51C>73 1D51E-1D537>61
  1D538-1D539>61 1D53B-1D53E>64 1D540-1D544>69 1D546>6F 1D54A-1D550>73 1D552-1D56B>61
  1D56C-1D585>61 1D586-1D59F>61 1D5A0-1D5B9>61 1D5BA-1D5D3>61 1D5D4-1D5ED>61 1D5EE-1D607>61
  1D608-1D621>61 1D622-1D63B>61 1D63C-1D655>61 1D656-1D66F>61 1D670-1D689>61 1D68A-1D6A3>61
  1D7CE-1D7D7>30 1D7D8-1D7E1>30 1D7E2-1D7EB>30 1D7EC-1D7F5>30 1D7F6-1D7FF>30 1E900-1E921>1E922
  1F12B>63 1F12C>72 1F130-1F149>61 1FBF0-1FBF9>30"

def severalText : String := "
  A8>20,308 AF>20,304 B4>20,301 B8>20,327 BC>31,2044,34 BD>31,2044,32 BE>33,2044,34 130>69,307
  132>69,6A 133>69,6A 13F>6C,B7 140>6C,B7 149>2BC,6E 1C4>64,17E 1C5>64,17E 1C6>64,17E
  1C7>6C,6A 1C8>6C,6A 1C9>6C,6A 1CA>6E,6A 1CB>6E,6A 1CC>6E,6A 1F1>64,7A 1F2>64,7A 1F3>64,7A
  2D8>20,306 2D9>20,307 2DA>20,30A 2DB>20,328 2DC>20,303 2DD>20,30B 37A>20,3B9 384>20,301
  385>20,308,301 1E9A>61,2BE 1FBD>20,313 1FBF>20,313 1FC0>20,342 1FC1>20,308,342
  1FCD>20,313,300 1FCE>20,313,301 1FCF>20,313,342 1FDD>20,314,300 1FDE>20,314,301
  1FDF>20,314,342 1FED>20,308,300 1FEE>20,308,301 1FFD>20,301 1FFE>20,314 2017>20,333
  203C>21,21 203E>20,305 2047>3F,3F 2048>3F,21 2049>21,3F 20A8>72,73 2100>61,2F,63
  2101>61,2F,73 2103>B0,63 2105>63,2F,6F 2106>63,2F,75 2109>B0,66 2116>6E,6F 2120>73,6D
  2121>74,65,6C 2122>74,6D 213B>66,61,78 2150>31,2044,37 2151>31,2044,39 2152>31,2044,31,30
  2153>31,2044,33 2154>32,2044,33 2155>31,2044,35 2156>32,2044,35 2157>33,2044,35
  2158>34,2044,35 2159>31,2044,36 215A>35,2044,36 215B>31,2044,38 215C>33,2044,38
  215D>35,2044,38 215E>37,2044,38 215F>31,2044 2161>69,69 2162>69,69,69 2163>69,76 2165>76,69
  2166>76,69,69 2167>76,69,69,69 2168>69,78 216A>78,69 216B>78,69,69 2171>69,69 2172>69,69,69
  2173>69,76 2175>76,69 2176>76,69,69 2177>76,69,69,69 2178>69,78 217A>78,69 217B>78,69,69
  2189>30,2044,33 2469>31,30 246A>31,31 246B>31,32 246C>31,33 246D>31,34 246E>31,35 246F>31,36
  2470>31,37 2471>31,38 2472>31,39 2473>32,30 2474>28,31,29 2475>28,32,29 2476>28,33,29
  2477>28,34,29 2478>28,35,29 2479>28,36,29 247A>28,37,29 247B>28,38,29 247C>28,39,29
  247D>28,31,30,29 247E>28,31,31,29 247F>28,31,32,29 2480>28,31,33,29 2481>28,31,34,29
  2482>28,31,35,29 2483>28,31,36,29 2484>28,31,37,29 2485>28,31,38,29 2486>28,31,39,29
  2487>28,32,30,29 249C>28,61,29 249D>28,62,29 249E>28,63,29 249F>28,64,29 24A0>28,65,29
  24A1>28,66,29 24A2>28,67,29 24A3>28,68,29 24A4>28,69,29 24A5>28,6A,29 24A6>28,6B,29
  24A7>28,6C,29 24A8>28,6D,29 24A9>28,6E,29 24AA>28,6F,29 24AB>28,70,29 24AC>28,71,29
  24AD>28,72,29 24AE>28,73,29 24AF>28,74,29 24B0>28,75,29 24B1>28,76,29 24B2>28,77,29
  24B3>28,78,29 24B4>28,79,29 24B5>28,7A,29 2A74>3A,3A,3D 2A75>3D,3D 2A76>3D,3D,3D
  309B>20,3099 309C>20,309A 3200>28,1100,29 3201>28,1102,29 3202>28,1103,29 3203>28,1105,29
  3204>28,1106,29 3205>28,1107,29 3206>28,1109,29 3207>28,110B,29 3208>28,110C,29
  3209>28,110E,29 320A>28,110F,29 320B>28,1110,29 320C>28,1111,29 320D>28,1112,29
  320E>28,AC00,29 320F>28,B098,29 3210>28,B2E4,29 3211>28,B77C,29 3212>28,B9C8,29
  3213>28,BC14,29 3214>28,C0AC,29 3215>28,C544,29 3216>28,C790,29 3217>28,CC28,29
  3218>28,CE74,29 3219>28,D0C0,29 321A>28,D30C,29 321B>28,D558,29 321C>28,C8FC,29
  321D>28,C624,C804,29 321E>28,C624,D6C4,29 3220>28,4E00,29 3221>28,4E8C,29 3222>28,4E09,29
  3223>28,56DB,29 3224>28,4E94,29 3225>28,516D,29 3226>28,4E03,29 3227>28,516B,29
  3228>28,4E5D,29 3229>28,5341,29 322A>28,6708,29 322B>28,706B,29 322C>28,6C34,29
  322D>28,6728,29 322E>28,91D1,29 322F>28,571F,29 3230>28,65E5,29 3231>28,682A,29
  3232>28,6709,29 3233>28,793E,29 3234>28,540D,29 3235>28,7279,29 3236>28,8CA1,29
  3237>28,795D,29 3238>28,52B4,29 3239>28,4EE3,29 323A>28,547C,29 323B>28,5B66,29
  323C>28,76E3,29 323D>28,4F01,29 323E>28,8CC7,29 323F>28,5354,29 3240>28,796D,29
  3241>28,4F11,29 3242>28,81EA,29 3243>28,81F3,29 3250>70,74,65 3251>32,31 3252>32,32
  3253>32,33 3254>32,34 3255>32,35 3256>32,36 3257>32,37 3258>32,38 3259>32,39 325A>33,30
  325B>33,31 325C>33,32 325D>33,33 325E>33,34 325F>33,35 32B1>33,36 32B2>33,37 32B3>33,38
  32B4>33,39 32B5>34,30 32B6>34,31 32B7>34,32 32B8>34,33 32B9>34,34 32BA>34,35 32BB>34,36
  32BC>34,37 32BD>34,38 32BE>34,39 32BF>35,30 32C0>31,6708 32C1>32,6708 32C2>33,6708
  32C3>34,6708 32C4>35,6708 32C5>36,6708 32C6>37,6708 32C7>38,6708 32C8>39,6708
  32C9>31,30,6708 32CA>31,31,6708 32CB>31,32,6708 32CC>68,67 32CD>65,72,67 32CE>65,76
  32CF>6C,74,64 3358>30,70B9 3359>31,70B9 335A>32,70B9 335B>33,70B9 335C>34,70B9 335D>35,70B9
  335E>36,70B9 335F>37,70B9 3360>38,70B9 3361>39,70B9 3362>31,30,70B9 3363>31,31,70B9
  3364>31,32,70B9 3365>31,33,70B9 3366>31,34,70B9 3367>31,35,70B9 3368>31,36,70B9
  3369>31,37,70B9 336A>31,38,70B9 336B>31,39,70B9 336C>32,30,70B9 336D>32,31,70B9
  336E>32,32,70B9 336F>32,33,70B9 3370>32,34,70B9 3371>68,70,61 3372>64,61 3373>61,75
  3374>62,61,72 3375>6F,76 3376>70,63 3377>64,6D 3378>64,6D,32 3379>64,6D,33 337A>69,75
  3380>70,61 3381>6E,61 3382>3BC,61 3383>6D,61 3384>6B,61 3385>6B,62 3386>6D,62 3387>67,62
  3388>63,61,6C 3389>6B,63,61,6C 338A>70,66 338B>6E,66 338C>3BC,66 338D>3BC,67 338E>6D,67
  338F>6B,67 3390>68,7A 3391>6B,68,7A 3392>6D,68,7A 3393>67,68,7A 3394>74,68,7A 3395>3BC,6C
  3396>6D,6C 3397>64,6C 3398>6B,6C 3399>66,6D 339A>6E,6D 339B>3BC,6D 339C>6D,6D 339D>63,6D
  339E>6B,6D 339F>6D,6D,32 33A0>63,6D,32 33A1>6D,32 33A2>6B,6D,32 33A3>6D,6D,33 33A4>63,6D,33
  33A5>6D,33 33A6>6B,6D,33 33A7>6D,2215,73 33A8>6D,2215,73,32 33A9>70,61 33AA>6B,70,61
  33AB>6D,70,61 33AC>67,70,61 33AD>72,61,64 33AE>72,61,64,2215,73 33AF>72,61,64,2215,73,32
  33B0>70,73 33B1>6E,73 33B2>3BC,73 33B3>6D,73 33B4>70,76 33B5>6E,76 33B6>3BC,76 33B7>6D,76
  33B8>6B,76 33B9>6D,76 33BA>70,77 33BB>6E,77 33BC>3BC,77 33BD>6D,77 33BE>6B,77 33BF>6D,77
  33C0>6B,3C9 33C1>6D,3C9 33C3>62,71 33C4>63,63 33C5>63,64 33C6>63,2215,6B,67 33C8>64,62
  33C9>67,79 33CA>68,61 33CB>68,70 33CC>69,6E 33CD>6B,6B 33CE>6B,6D 33CF>6B,74 33D0>6C,6D
  33D1>6C,6E 33D2>6C,6F,67 33D3>6C,78 33D4>6D,62 33D5>6D,69,6C 33D6>6D,6F,6C 33D7>70,68
  33D9>70,70,6D 33DA>70,72 33DB>73,72 33DC>73,76 33DD>77,62 33DE>76,2215,6D 33DF>61,2215,6D
  33E0>31,65E5 33E1>32,65E5 33E2>33,65E5 33E3>34,65E5 33E4>35,65E5 33E5>36,65E5 33E6>37,65E5
  33E7>38,65E5 33E8>39,65E5 33E9>31,30,65E5 33EA>31,31,65E5 33EB>31,32,65E5 33EC>31,33,65E5
  33ED>31,34,65E5 33EE>31,35,65E5 33EF>31,36,65E5 33F0>31,37,65E5 33F1>31,38,65E5
  33F2>31,39,65E5 33F3>32,30,65E5 33F4>32,31,65E5 33F5>32,32,65E5 33F6>32,33,65E5
  33F7>32,34,65E5 33F8>32,35,65E5 33F9>32,36,65E5 33FA>32,37,65E5 33FB>32,38,65E5
  33FC>32,39,65E5 33FD>33,30,65E5 33FE>33,31,65E5 33FF>67,61,6C FB00>66,66 FB01>66,69
  FB02>66,6C FB03>66,66,69 FB04>66,66,6C FB05>73,74 FB06>73,74 FC5E>20,64C,651 FC5F>20,64D,651
  FC60>20,64E,651 FC61>20,64F,651 FC62>20,650,651 FC63>20,651,670
  FDFA>635,644,649,20,627,644,644,647,20,639,644,64A,647,20,648,633,644,645
  FDFB>62C,644,20,62C,644,627,644,647 FE49>20,305 FE4A>20,305 FE4B>20,305 FE4C>20,305
  FE70>20,64B FE72>20,64C FE74>20,64D FE76>20,64E FE78>20,64F FE7A>20,650 FE7C>20,651
  FE7E>20,652 FFE3>20,304 1F101>30,2C 1F102>31,2C 1F103>32,2C 1F104>33,2C 1F105>34,2C
  1F106>35,2C 1F107>36,2C 1F108>37,2C 1F109>38,2C 1F10A>39,2C 1F110>28,61,29 1F111>28,62,29
  1F112>28,63,29 1F113>28,64,29 1F114>28,65,29 1F115>28,66,29 1F116>28,67,29 1F117>28,68,29
  1F118>28,69,29 1F119>28,6A,29 1F11A>28,6B,29 1F11B>28,6C,29 1F11C>28,6D,29 1F11D>28,6E,29
  1F11E>28,6F,29 1F11F>28,70,29 1F120>28,71,29 1F121>28,72,29 1F122>28,73,29 1F123>28,74,29
  1F124>28,75,29 1F125>28,76,29 1F126>28,77,29 1F127>28,78,29 1F128>28,79,29 1F129>28,7A,29
  1F12A>3014,73,3015 1F12D>63,64 1F12E>77,7A 1F14A>68,76 1F14B>6D,76 1F14C>73,64 1F14D>73,73
  1F14E>70,70,76 1F14F>77,63 1F16A>6D,63 1F16B>6D,64 1F16C>6D,72 1F190>64,6A"

def disallowed : Ranges := readRanges disallowedText

def ignored : Ranges := readRanges ignoredText

structure Shift where
  first : Nat
  last : Nat
  step : Nat
  target : Nat
  deriving Repr

def readShift (cs : List Char) : Shift :=
  match Text.splitAt '>' cs with
  | [source, target] =>
    let (a, b) := readRange (source.takeWhile (· ≠ '/'))
    ⟨a, b, if source.contains '/' then 2 else 1, hexNumber target⟩
  | _ => ⟨0, 0, 1, 0⟩

def shifts : List Shift := (words singleText).map readShift

def Shift.target? (s : Shift) (n : Nat) : Option Char :=
  if s.first ≤ n ∧ n ≤ s.last ∧ (n - s.first) % s.step = 0 then
    some (Char.ofNat (s.target + (n - s.first)))
  else none

def readSeveral (cs : List Char) : Nat × List Char :=
  match Text.splitAt '>' cs with
  | [source, target] =>
    (hexNumber source, (Text.splitAt ',' target).map fun d => Char.ofNat (hexNumber d))
  | _ => (0, [])

def several : List (Nat × List Char) := (words severalText).map readSeveral

/-- What becomes of a character, none if it is not allowed. -/
def prepare (c : Char) : Option (List Char) :=
  if Text.isAscii c then some [c.toLower]
  else if disallowed.has c then none
  else if ignored.has c then some []
  else match shifts.findSome? (·.target? c.toNat) with
    | some d => some [d]
    | none =>
      match several.find? (·.1 == c.toNat) with
      | some e => some e.2
      | none => some [c]

def isPrepared (c : Char) : Bool := prepare c = some [c]

end Barrage.Unicode
