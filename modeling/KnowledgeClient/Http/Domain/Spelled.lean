/-!
# Spelled characters

Characters that stand for one or more others in a domain, in no regular way, each
with what it stands for: ligatures, letters in circles and brackets, units, numbers,
radicals and forms of writing that are no longer told apart.
-/

namespace KnowledgeClient
namespace Http
namespace Domain

/-- Characters below U+F900 and what each stands for, from U+00AA on. -/
def spelledLinesFromAA : List String :=
  ["AA:61",
    "B2:32,33,,3BC",
    "B9:31,6F,,31 2044 34,31 2044 32,33 2044 34",
    "130:69 307,,69 6A,69 6A,135,,137",
    "13F:6C B7,6C B7",
    "149:2BC 6E",
    "178:FF",
    "17F:73,,253,183,,185,,254,188,,256,257,18C,,,1DD,259,25B,192,,260,263,,269,268,199",
    "19C:26F,272,,275",
    "1A6:280,1A8,,283,,,1AD,,288,1B0,,28A,28B,1B4,,1B6,,292,1B9",
    "1BC:1BD",
    "1C4:64 17E,64 17E,64 17E,6C 6A,6C 6A,6C 6A,6E 6A,6E 6A,6E 6A",
    "1F1:64 7A,64 7A,64 7A,1F5,,195,1BF",
    "220:19E",
    "23A:2C65,23C,,19A,2C66,,,242,,180,289,28C",
    "2B0:68,266,6A,72,279,27B,281,77,79",
    "2E0:263,6C,73,78,295",
    "340:300,301,,313,308 301,3B9",
    "370:371,,373,,2B9,,377",
    "37E:3B,3F3",
    "386:3AC,B7",
    "38C:3CC,,3CD,3CE",
    "3CF:3D7,3B2,3B8,3C5,3CD,3CB,3C6,3C0",
    "3F0:3BA,3C1,3C3,,3B8,3B5,,3F8,,3C3,3FB",
    "4C0:4CF",
    "587:565 582",
    "675:627 674,648 674,6C7 674,64A 674",
    "958:915 93C,916 93C,917 93C,91C 93C,921 93C,922 93C,92B 93C,92F 93C",
    "9DC:9A1 9BC,9A2 9BC,,9AF 9BC",
    "A33:A32 A3C,,,A38 A3C",
    "A59:A16 A3C,A17 A3C,A1C A3C,,,A2B A3C",
    "B5C:B21 B3C,B22 B3C",
    "E33:E4D E32",
    "EB3:ECD EB2",
    "EDC:EAB E99,EAB EA1",
    "F0C:F0B",
    "F43:F42 FB7",
    "F4D:F4C FB7",
    "F52:F51 FB7",
    "F57:F56 FB7",
    "F5C:F5B FB7",
    "F69:F40 FB5",
    "F73:F71 F72,,F71 F74,FB2 F80,FB2 F71 F80,FB3 F80,FB3 F71 F80",
    "F81:F71 F80",
    "F93:F92 FB7",
    "F9D:F9C FB7",
    "FA2:FA1 FB7",
    "FA7:FA6 FB7",
    "FAC:FAB FB7",
    "FB9:F90 FB5",
    "10C7:2D27",
    "10CD:2D2D",
    "10FC:10DC",
    "1C80:432,434,43E,441,442,442,44A,463,A64B,1C8A"]

/-- Characters below U+F900 and what each stands for, from U+1D2C on. -/
def spelledLinesFrom1D2C : List String :=
  ["1D2C:61,E6,62,,64,65,1DD",
    "1D3C:6F,223,70,72,74,75,77,61,250,251,1D02,62,64,65,259,25B,25C,67,,6B,6D,14B,6F,254,1D16",
    "1D55:1D17,70,74,75,1D1D,26F,76,1D25",
    "1D60:3C6,3C7,69,72,75,76,3B2,3B3,3C1,3C6,3C7",
    "1D78:43D",
    "1D9B:252,63,255,F0,25C,66,25F,261,265",
    "1DA7:1D7B,29D,26D,1D85,29F,271,270",
    "1DB2:278,282,283,1AB,289,28A,1D1C,28B,28C,7A",
    "1DBF:3B8",
    "1E9A:61 2BE,1E61,,,DF",
    "1F71:3AC,,3AD,,3AE,,3AF,,3CC,,3CD,,3CE,,,1F00 3B9,1F01 3B9,1F02 3B9,1F03 3B9,1F04 3B9",
    "1F85:1F05 3B9,1F06 3B9,1F07 3B9,1F00 3B9,1F01 3B9,1F02 3B9,1F03 3B9,1F04 3B9,1F05 3B9",
    "1F8E:1F06 3B9,1F07 3B9,1F20 3B9,1F21 3B9,1F22 3B9,1F23 3B9,1F24 3B9,1F25 3B9,1F26 3B9",
    "1F97:1F27 3B9,1F20 3B9,1F21 3B9,1F22 3B9,1F23 3B9,1F24 3B9,1F25 3B9,1F26 3B9,1F27 3B9",
    "1FA0:1F60 3B9,1F61 3B9,1F62 3B9,1F63 3B9,1F64 3B9,1F65 3B9,1F66 3B9,1F67 3B9,1F60 3B9",
    "1FA9:1F61 3B9,1F62 3B9,1F63 3B9,1F64 3B9,1F65 3B9,1F66 3B9,1F67 3B9,,,1F70 3B9,3B1 3B9",
    "1FB4:3AC 3B9,,,1FB6 3B9,1FB0,1FB1,1F70,3AC,3B1 3B9,,3B9",
    "1FC2:1F74 3B9,3B7 3B9,3AE 3B9,,,1FC6 3B9,1F72,3AD,1F74,3AE,3B7 3B9",
    "1FD3:390",
    "1FD8:1FD0,1FD1,1F76,3AF",
    "1FE3:3B0",
    "1FE8:1FE0,1FE1,1F7A,3CD,1FE5,,,60,,,1F7C 3B9,3C9 3B9,3CE 3B9,,,1FF6 3B9,1F78,3CC,1F7C,3CE",
    "1FFC:3C9 3B9",
    "2011:2010",
    "2033:2032 2032,2032 2032 2032,,2035 2035,2035 2035 2035",
    "203C:21 21",
    "2047:3F 3F,3F 21,21 3F",
    "2057:2032 2032 2032 2032",
    "2070:30,69",
    "207A:2B,2212,3D,28,29,6E",
    "208A:2B,2212,3D,28,29,,61,65,6F,78,259,68",
    "209A:70,73,74",
    "20A8:72 73",
    "2100:61 2F 63,61 2F 73,63,B0 63,,63 2F 6F,63 2F 75,25B,,B0 66,67,68,68,68,68,127,69,69,6C,6C",
    "2115:6E,6E 6F",
    "211C:72,72,,,73 6D,74 65 6C,74 6D,,7A,,3C9,,7A,,6B,E5,62,63,,65,65,66,214E,6D,6F",
    "2139:69,,66 61 78,3C0,3B3,3B3,3C0,2211",
    "2145:64,64,65,69,6A",
    "2150:31 2044 37,31 2044 39,31 2044 31 30,31 2044 33,32 2044 33,31 2044 35,32 2044 35",
    "2157:33 2044 35,34 2044 35,31 2044 36,35 2044 36,31 2044 38,33 2044 38,35 2044 38,37 2044 38",
    "215F:31 2044,69,69 69,69 69 69,69 76,76,76 69,76 69 69,76 69 69 69,69 78,78,78 69,78 69 69",
    "216C:6C,63,64,6D,69,69 69,69 69 69,69 76,76,76 69,76 69 69,76 69 69 69,69 78,78,78 69",
    "217B:78 69 69,6C,63,64,6D",
    "2183:2184",
    "2189:30 2044 33",
    "222C:222B 222B,222B 222B 222B,,222E 222E,222E 222E 222E",
    "2329:3008,3009",
    "2469:31 30,31 31,31 32,31 33,31 34,31 35,31 36,31 37,31 38,31 39,32 30,28 31 29,28 32 29",
    "2476:28 33 29,28 34 29,28 35 29,28 36 29,28 37 29,28 38 29,28 39 29,28 31 30 29,28 31 31 29",
    "247F:28 31 32 29,28 31 33 29,28 31 34 29,28 31 35 29,28 31 36 29,28 31 37 29,28 31 38 29",
    "2486:28 31 39 29,28 32 30 29",
    "249C:28 61 29,28 62 29,28 63 29,28 64 29,28 65 29,28 66 29,28 67 29,28 68 29,28 69 29",
    "24A5:28 6A 29,28 6B 29,28 6C 29,28 6D 29,28 6E 29,28 6F 29,28 70 29,28 71 29,28 72 29",
    "24AE:28 73 29,28 74 29,28 75 29,28 76 29,28 77 29,28 78 29,28 79 29,28 7A 29"]

/-- Characters below U+F900 and what each stands for, from U+24EA on. -/
def spelledLinesFrom24EA : List String :=
  ["24EA:30",
    "2A0C:222B 222B 222B 222B",
    "2A74:3A 3A 3D,3D 3D,3D 3D 3D",
    "2ADC:2ADD 338",
    "2C60:2C61,,26B,1D7D,27D",
    "2C6D:251,271,250,252,,2C73,,,2C76",
    "2C7C:6A,76,23F,240",
    "2CEB:2CEC,,2CEE",
    "2CF2:2CF3",
    "2D6F:2D61",
    "2E9F:6BCD",
    "2EF3:9F9F",
    "2F00:4E00,4E28,4E36,4E3F,4E59,4E85,4E8C,4EA0,4EBA,513F,5165,516B,5182,5196,51AB,51E0,51F5",
    "2F11:5200,529B,52F9,5315,531A,5338,5341,535C,5369,5382,53B6,53C8,53E3,56D7,571F,58EB,5902",
    "2F22:590A,5915,5927,5973,5B50,5B80,5BF8,5C0F,5C22,5C38,5C6E,5C71,5DDB,5DE5,5DF1,5DFE,5E72",
    "2F33:5E7A,5E7F,5EF4,5EFE,5F0B,5F13,5F50,5F61,5F73,5FC3,6208,6236,624B,652F,6534,6587,6597",
    "2F44:65A4,65B9,65E0,65E5,66F0,6708,6728,6B20,6B62,6B79,6BB3,6BCB,6BD4,6BDB,6C0F,6C14,6C34",
    "2F55:706B,722A,7236,723B,723F,7247,7259,725B,72AC,7384,7389,74DC,74E6,7518,751F,7528,7530",
    "2F66:758B,7592,7676,767D,76AE,76BF,76EE,77DB,77E2,77F3,793A,79B8,79BE,7A74,7ACB,7AF9,7C73",
    "2F77:7CF8,7F36,7F51,7F8A,7FBD,8001,800C,8012,8033,807F,8089,81E3,81EA,81F3,81FC,820C,821B",
    "2F88:821F,826E,8272,8278,864D,866B,8840,884C,8863,897E,898B,89D2,8A00,8C37,8C46,8C55,8C78",
    "2F99:8C9D,8D64,8D70,8DB3,8EAB,8ECA,8F9B,8FB0,8FB5,9091,9149,91C6,91CC,91D1,9577,9580,961C",
    "2FAA:96B6,96B9,96E8,9751,975E,9762,9769,97CB,97ED,97F3,9801,98A8,98DB,98DF,9996,9999,99AC",
    "2FBB:9AA8,9AD8,9ADF,9B25,9B2F,9B32,9B3C,9B5A,9CE5,9E75,9E7F,9EA5,9EBB,9EC3,9ECD,9ED1,9EF9",
    "2FCC:9EFD,9F0E,9F13,9F20,9F3B,9F4A,9F52,9F8D,9F9C,9FA0",
    "3002:2E",
    "3036:3012,,5341,5344,5345",
    "309F:3088 308A",
    "30FF:30B3 30C8",
    "3131:1100,1101,11AA,1102,11AC,11AD",
    "3140:111A",
    "3144:1121",
    "3165:1114,1115,11C7,11C8,11CC,11CE,11D3,11D7,11D9,111C,11DD,11DF,111D,111E,1120,1122,1123",
    "3176:1127,1129",
    "317D:1132,1136,1140,1147,114C,11F1,11F2",
    "3187:1184,1185,1188,1191,1192,1194,119E,11A1",
    "3192:4E00,4E8C,4E09,56DB,4E0A,4E2D,4E0B,7532,4E59,4E19,4E01,5929,5730,4EBA",
    "3200:28 1100 29,28 1102 29,28 1103 29,28 1105 29,28 1106 29,28 1107 29,28 1109 29,28 110B 29",
    "3208:28 110C 29,28 110E 29,28 110F 29,28 1110 29,28 1111 29,28 1112 29,28 AC00 29,28 B098 29",
    "3210:28 B2E4 29,28 B77C 29,28 B9C8 29,28 BC14 29,28 C0AC 29,28 C544 29,28 C790 29,28 CC28 29",
    "3218:28 CE74 29,28 D0C0 29,28 D30C 29,28 D558 29,28 C8FC 29,28 C624 C804 29,28 C624 D6C4 29",
    "3220:28 4E00 29,28 4E8C 29,28 4E09 29,28 56DB 29,28 4E94 29,28 516D 29,28 4E03 29,28 516B 29",
    "3228:28 4E5D 29,28 5341 29,28 6708 29,28 706B 29,28 6C34 29,28 6728 29,28 91D1 29,28 571F 29",
    "3230:28 65E5 29,28 682A 29,28 6709 29,28 793E 29,28 540D 29,28 7279 29,28 8CA1 29,28 795D 29",
    "3238:28 52B4 29,28 4EE3 29,28 547C 29,28 5B66 29,28 76E3 29,28 4F01 29,28 8CC7 29,28 5354 29",
    "3240:28 796D 29,28 4F11 29,28 81EA 29,28 81F3 29,554F,5E7C,6587,7B8F",
    "3250:70 74 65,32 31,32 32,32 33,32 34,32 35,32 36,32 37,32 38,32 39,33 30,33 31,33 32,33 33",
    "325E:33 34,33 35,1100,1102,1103",
    "3266:1109,110B,110C",
    "326E:AC00,B098,B2E4,B77C,B9C8,BC14,C0AC,C544,C790,CC28,CE74,D0C0,D30C,D558,CC38 ACE0",
    "327D:C8FC C758,C6B0,,4E00,4E8C,4E09,56DB,4E94,516D,4E03,516B,4E5D,5341,6708,706B,6C34,6728",
    "328E:91D1,571F,65E5,682A,6709,793E,540D,7279,8CA1,795D,52B4,79D8,7537,5973,9069,512A,5370",
    "329F:6CE8,9805,4F11,5199,6B63,4E0A,4E2D,4E0B,5DE6,53F3,533B,5B97,5B66,76E3,4F01,8CC7,5354",
    "32B0:591C,33 36,33 37,33 38,33 39,34 30,34 31,34 32,34 33,34 34,34 35,34 36,34 37,34 38"]

/-- Characters below U+F900 and what each stands for, from U+32BE on. -/
def spelledLinesFrom32BE : List String :=
  ["32BE:34 39,35 30,31 6708,32 6708,33 6708,34 6708,35 6708,36 6708,37 6708,38 6708,39 6708",
    "32C9:31 30 6708,31 31 6708,31 32 6708,68 67,65 72 67,65 76,6C 74 64,30A2,30A4,30A6,30A8,30AA",
    "32D5:30AB,30AD,30AF,30B1,30B3,30B5,30B7,30B9,30BB,30BD,30BF,30C1,30C4,30C6,30C8",
    "32EA:30D2,30D5,30D8,30DB",
    "32F3:30E4,30E6",
    "32FF:4EE4 548C,30A2 30D1 30FC 30C8,30A2 30EB 30D5 30A1,30A2 30F3 30DA 30A2,30A2 30FC 30EB",
    "3304:30A4 30CB 30F3 30B0,30A4 30F3 30C1,30A6 30A9 30F3,30A8 30B9 30AF 30FC 30C9",
    "3308:30A8 30FC 30AB 30FC,30AA 30F3 30B9,30AA 30FC 30E0,30AB 30A4 30EA,30AB 30E9 30C3 30C8",
    "330D:30AB 30ED 30EA 30FC,30AC 30ED 30F3,30AC 30F3 30DE,30AE 30AC,30AE 30CB 30FC",
    "3312:30AD 30E5 30EA 30FC,30AE 30EB 30C0 30FC,30AD 30ED,30AD 30ED 30B0 30E9 30E0",
    "3316:30AD 30ED 30E1 30FC 30C8 30EB,30AD 30ED 30EF 30C3 30C8,30B0 30E9 30E0",
    "3319:30B0 30E9 30E0 30C8 30F3,30AF 30EB 30BC 30A4 30ED,30AF 30ED 30FC 30CD,30B1 30FC 30B9",
    "331D:30B3 30EB 30CA,30B3 30FC 30DD,30B5 30A4 30AF 30EB,30B5 30F3 30C1 30FC 30E0",
    "3321:30B7 30EA 30F3 30B0,30BB 30F3 30C1,30BB 30F3 30C8,30C0 30FC 30B9,30C7 30B7,30C9 30EB",
    "3327:30C8 30F3,30CA 30CE,30CE 30C3 30C8,30CF 30A4 30C4,30D1 30FC 30BB 30F3 30C8",
    "332C:30D1 30FC 30C4,30D0 30FC 30EC 30EB,30D4 30A2 30B9 30C8 30EB,30D4 30AF 30EB,30D4 30B3",
    "3331:30D3 30EB,30D5 30A1 30E9 30C3 30C9,30D5 30A3 30FC 30C8,30D6 30C3 30B7 30A7 30EB",
    "3335:30D5 30E9 30F3,30D8 30AF 30BF 30FC 30EB,30DA 30BD,30DA 30CB 30D2,30D8 30EB 30C4",
    "333A:30DA 30F3 30B9,30DA 30FC 30B8,30D9 30FC 30BF,30DD 30A4 30F3 30C8,30DC 30EB 30C8",
    "333F:30DB 30F3,30DD 30F3 30C9,30DB 30FC 30EB,30DB 30FC 30F3,30DE 30A4 30AF 30ED",
    "3344:30DE 30A4 30EB,30DE 30C3 30CF,30DE 30EB 30AF,30DE 30F3 30B7 30E7 30F3",
    "3348:30DF 30AF 30ED 30F3,30DF 30EA,30DF 30EA 30D0 30FC 30EB,30E1 30AC,30E1 30AC 30C8 30F3",
    "334D:30E1 30FC 30C8 30EB,30E4 30FC 30C9,30E4 30FC 30EB,30E6 30A2 30F3,30EA 30C3 30C8 30EB",
    "3352:30EA 30E9,30EB 30D4 30FC,30EB 30FC 30D6 30EB,30EC 30E0,30EC 30F3 30C8 30B2 30F3",
    "3357:30EF 30C3 30C8,30 70B9,31 70B9,32 70B9,33 70B9,34 70B9,35 70B9,36 70B9,37 70B9,38 70B9",
    "3361:39 70B9,31 30 70B9,31 31 70B9,31 32 70B9,31 33 70B9,31 34 70B9,31 35 70B9,31 36 70B9",
    "3369:31 37 70B9,31 38 70B9,31 39 70B9,32 30 70B9,32 31 70B9,32 32 70B9,32 33 70B9,32 34 70B9",
    "3371:68 70 61,64 61,61 75,62 61 72,6F 76,70 63,64 6D,64 6D 32,64 6D 33,69 75,5E73 6210",
    "337C:662D 548C,5927 6B63,660E 6CBB,682A 5F0F 4F1A 793E,70 61,6E 61,3BC 61,6D 61,6B 61,6B 62",
    "3386:6D 62,67 62,63 61 6C,6B 63 61 6C,70 66,6E 66,3BC 66,3BC 67,6D 67,6B 67,68 7A,6B 68 7A",
    "3392:6D 68 7A,67 68 7A,74 68 7A,3BC 6C,6D 6C,64 6C,6B 6C,66 6D,6E 6D,3BC 6D,6D 6D,63 6D",
    "339E:6B 6D,6D 6D 32,63 6D 32,6D 32,6B 6D 32,6D 6D 33,63 6D 33,6D 33,6B 6D 33,6D 2215 73",
    "33A8:6D 2215 73 32,70 61,6B 70 61,6D 70 61,67 70 61,72 61 64,72 61 64 2215 73",
    "33AF:72 61 64 2215 73 32,70 73,6E 73,3BC 73,6D 73,70 76,6E 76,3BC 76,6D 76,6B 76,6D 76,70 77",
    "33BB:6E 77,3BC 77,6D 77,6B 77,6D 77,6B 3C9,6D 3C9,,62 71,63 63,63 64,63 2215 6B 67,,64 62",
    "33C9:67 79,68 61,68 70,69 6E,6B 6B,6B 6D,6B 74,6C 6D,6C 6E,6C 6F 67,6C 78,6D 62,6D 69 6C",
    "33D6:6D 6F 6C,70 68,,70 70 6D,70 72,73 72,73 76,77 62,76 2215 6D,61 2215 6D,31 65E5,32 65E5",
    "33E2:33 65E5,34 65E5,35 65E5,36 65E5,37 65E5,38 65E5,39 65E5,31 30 65E5,31 31 65E5",
    "33EB:31 32 65E5,31 33 65E5,31 34 65E5,31 35 65E5,31 36 65E5,31 37 65E5,31 38 65E5,31 39 65E5",
    "33F3:32 30 65E5,32 31 65E5,32 32 65E5,32 33 65E5,32 34 65E5,32 35 65E5,32 36 65E5,32 37 65E5",
    "33FB:32 38 65E5,32 39 65E5,33 30 65E5,33 31 65E5,67 61 6C",
    "A69C:44A,44C",
    "A770:A76F",
    "A779:A77A,,A77C,,1D79",
    "A78B:A78C,,265,,,A791,,A793",
    "A7AA:266,25C,261,26C,26A,,29E,287,29D,AB53",
    "A7C4:A794,282,1D8E,A7C8,,A7CA,,264",
    "A7DC:19B",
    "A7F1:73,63,66,71,A7F6,,,127,153",
    "AB5C:A727,AB37,26B,AB52",
    "AB69:28D"]

/-- Characters below U+F900 and what each stands for. -/
def spelledLines : List String :=
  spelledLinesFromAA ++
    spelledLinesFrom1D2C ++
    spelledLinesFrom24EA ++
    spelledLinesFrom32BE

end Domain
end Http
end KnowledgeClient
