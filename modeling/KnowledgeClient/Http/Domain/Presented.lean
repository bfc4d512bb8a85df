/-!
# Presentation forms

Characters from U+F900 on that stand for one or more others in a domain, in no
regular way, each with what it stands for: second forms of ideographs, the forms
that letters take inside a word, and signs of half and full width.
-/

namespace KnowledgeClient
namespace Http
namespace Domain

/-- Characters from U+F900 on and what each stands for, from U+F900 on. -/
def presentedLinesFromF900 : List String :=
  ["F900:8C48,66F4,8ECA,8CC8,6ED1,4E32,53E5,9F9C,9F9C,5951,91D1,5587,5948,61F6,7669,7F85,863F",
    "F911:87BA,88F8,908F,6A02,6D1B,70D9,73DE,843D,916A,99F1,4E82,5375,6B04,721B,862D,9E1E,5D50",
    "F922:6FEB,85CD,8964,62C9,81D8,881F,5ECA,6717,6D6A,72FC,90CE,4F86,51B7,52DE,64C4,6AD3,7210",
    "F933:76E7,8001,8606,865C,8DEF,9732,9B6F,9DFA,788C,797F,7DA0,83C9,9304,9E7F,8AD6,58DF,5F04",
    "F944:7C60,807E,7262,78CA,8CC2,96F7,58D8,5C62,6A13,6DDA,6F0F,7D2F,7E37,964B,52D2,808B,51DC",
    "F955:51CC,7A1C,7DBE,83F1,9675,8B80,62CF,6A02,8AFE,4E39,5BE7,6012,7387,7570,5317,78FB,4FBF",
    "F966:5FA9,4E0D,6CCC,6578,7D22,53C3,585E,7701,8449,8AAA,6BBA,8FB0,6C88,62FE,82E5,63A0,7565",
    "F977:4EAE,5169,51C9,6881,7CE7,826F,8AD2,91CF,52F5,5442,5973,5EEC,65C5,6FFE,792A,95AD,9A6A",
    "F988:9E97,9ECE,529B,66C6,6B77,8F62,5E74,6190,6200,649A,6F23,7149,7489,79CA,7DF4,806F,8F26",
    "F999:84EE,9023,934A,5217,52A3,54BD,70C8,88C2,8AAA,5EC9,5FF5,637B,6BAE,7C3E,7375,4EE4,56F9",
    "F9AA:5BE7,5DBA,601C,73B2,7469,7F9A,8046,9234,96F6,9748,9818,4F8B,79AE,91B4,96B8,60E1,4E86",
    "F9BB:50DA,5BEE,5C3F,6599,6A02,71CE,7642,84FC,907C,9F8D,6688,962E,5289,677B,67F3,6D41,6E9C",
    "F9CC:7409,7559,786B,7D10,985E,516D,622E,9678,502B,5D19,6DEA,8F2A,5F8B,6144,6817,7387,9686",
    "F9DD:5229,540F,5C65,6613,674E,68A8,6CE5,7406,75E2,7F79,88CF,88E1,91CC,96E2,533F,6EBA,541D",
    "F9EE:71D0,7498,85FA,96A3,9C57,9E9F,6797,6DCB,81E8,7ACB,7B20,7C92,72C0,7099,8B58,4EC0,8336",
    "F9FF:523A,5207,5EA6,62D3,7CD6,5B85,6D1E,66B4,8F3B,884C,964D,898B,5ED3,5140,55C0,,,585A,,6674",
    "FA15:51DE,732A,76CA,793C,795E,7965,798F,9756,7CBE,7FBD,,8612,,8AF8,,,9038,90FD",
    "FA2A:98EF,98FC,9928,9DB4,90DE,96B7,4FAE,50E7,514D,52C9,52E4,5351,559D,5606,5668,5840,58A8",
    "FA3B:5C64,5C6E,6094,6168,618E,61F2,654F,65E2,6691,6885,6D77,6E1A,6F22,716E,722B,7422,7891",
    "FA4C:793E,7949,7948,7950,7956,795D,798D,798E,7A40,7A81,7BC0,7DF4,7E09,7E41,7F72,8005,81ED",
    "FA5D:8279,8279,8457,8910,8996,8B01,8B39,8CD3,8D08,8FB6,9038,96E3,97FF,983B,6075,242EE,8218",
    "FA70:4E26,51B5,5168,4F80,5145,5180,52C7,52FA,559D,5555,5599,55E2,585A,58B3,5944,5954,5A62",
    "FA81:5B28,5ED2,5ED9,5F69,5FAD,60D8,614E,6108,618E,6160,61F2,6234,63C4,641C,6452,6556,6674",
    "FA92:6717,671B,6756,6B79,6BBA,6D41,6EDB,6ECB,6F22,701E,716E,77A7,7235,72AF,732A,7471,7506",
    "FAA3:753B,761D,761F,76CA,76DB,76F4,774A,7740,78CC,7AB1,7BC0,7C7B,7D5B,7DF4,7F3E,8005,8352",
    "FAB4:83EF,8779,8941,8986,8996,8ABF,8AF8,8ACB,8B01,8AFE,8AED,8B39,8B8A,8D08,8F38,9072,9199",
    "FAC5:9276,967C,96E3,9756,97DB,97FF,980B,983B,9B12,9F9C,2284A,22844,233D5,3B9D,4018,4039",
    "FAD5:25249,25CD0,27ED3,9F43,9F8E",
    "FB00:66 66,66 69,66 6C,66 66 69,66 66 6C,73 74,73 74",
    "FB13:574 576,574 565,574 56B,57E 576,574 56D",
    "FB1D:5D9 5B4,,5F2 5B7,5E2,5D0,5D3,5D4",
    "FB27:5E8,5EA,2B,5E9 5C1,5E9 5C2,5E9 5BC 5C1,5E9 5BC 5C2,5D0 5B7,5D0 5B8,5D0 5BC,5D1 5BC",
    "FB32:5D2 5BC,5D3 5BC,5D4 5BC,5D5 5BC,5D6 5BC,,5D8 5BC,5D9 5BC,5DA 5BC,5DB 5BC,5DC 5BC",
    "FB3E:5DE 5BC,,5E0 5BC,5E1 5BC,,5E3 5BC,5E4 5BC,,5E6 5BC,5E7 5BC,5E8 5BC,5E9 5BC,5EA 5BC",
    "FB4B:5D5 5B9,5D1 5BF,5DB 5BF,5E4 5BF,5D0 5DC,671,671,67B,67B,67B,67B,67E,67E,67E,67E,680,680",
    "FB5C:680,680,67A,67A,67A,67A,67F,67F,67F,67F,679,679,679,679,6A4,6A4,6A4,6A4,6A6,6A6,6A6,6A6",
    "FB72:684,684,684,684,683,683,683,683,686,686,686,686,687,687,687,687,68D,68D,68C,68C,68E,68E",
    "FB88:688,688,698,698,691,691,6A9,6A9,6A9,6A9,6AF,6AF,6AF,6AF,6B3,6B3,6B3,6B3,6B1,6B1,6B1,6B1",
    "FB9E:6BA,6BA,6BB,6BB,6BB,6BB,6C0,6C0,6C1,6C1,6C1,6C1,6BE,6BE,6BE,6BE,6D2,6D2,6D3,6D3",
    "FBD3:6AD,6AD,6AD,6AD,6C7,6C7,6C6,6C6,6C8,6C8,6C7 674,6CB,6CB,6C5,6C5,6C9,6C9,6D0,6D0,6D0,6D0",
    "FBE8:649,649,626 627,626 627,626 6D5,626 6D5,626 648,626 648,626 6C7,626 6C7,626 6C6,626 6C6",
    "FBF4:626 6C8,626 6C8,626 6D0,626 6D0,626 6D0,626 649,626 649,626 649,6CC,6CC,6CC,6CC,626 62C",
    "FC01:626 62D,626 645,626 649,626 64A,628 62C,628 62D,628 62E,628 645,628 649,628 64A,62A 62C",
    "FC0C:62A 62D,62A 62E,62A 645,62A 649,62A 64A,62B 62C,62B 645,62B 649,62B 64A,62C 62D,62C 645",
    "FC17:62D 62C,62D 645,62E 62C,62E 62D,62E 645,633 62C,633 62D,633 62E,633 645,635 62D,635 645",
    "FC22:636 62C,636 62D,636 62E,636 645,637 62D,637 645,638 645,639 62C,639 645,63A 62C,63A 645",
    "FC2D:641 62C,641 62D,641 62E,641 645,641 649,641 64A,642 62D,642 645,642 649,642 64A,643 627",
    "FC38:643 62C,643 62D,643 62E,643 644,643 645,643 649,643 64A,644 62C,644 62D,644 62E,644 645",
    "FC43:644 649,644 64A,645 62C,645 62D,645 62E,645 645,645 649,645 64A,646 62C,646 62D,646 62E",
    "FC4E:646 645,646 649,646 64A,647 62C,647 645,647 649,647 64A,64A 62C,64A 62D,64A 62E,64A 645",
    "FC59:64A 649,64A 64A,630 670,631 670,649 670",
    "FC64:626 631,626 632,626 645,626 646,626 649,626 64A,628 631,628 632,628 645,628 646,628 649",
    "FC6F:628 64A,62A 631,62A 632,62A 645,62A 646,62A 649,62A 64A,62B 631,62B 632,62B 645,62B 646"]

/-- Characters from U+F900 on and what each stands for, from U+FC7A on. -/
def presentedLinesFromFC7A : List String :=
  ["FC7A:62B 649,62B 64A,641 649,641 64A,642 649,642 64A,643 627,643 644,643 645,643 649,643 64A",
    "FC85:644 645,644 649,644 64A,645 627,645 645,646 631,646 632,646 645,646 646,646 649,646 64A",
    "FC90:649 670,64A 631,64A 632,64A 645,64A 646,64A 649,64A 64A,626 62C,626 62D,626 62E,626 645",
    "FC9B:626 647,628 62C,628 62D,628 62E,628 645,628 647,62A 62C,62A 62D,62A 62E,62A 645,62A 647",
    "FCA6:62B 645,62C 62D,62C 645,62D 62C,62D 645,62E 62C,62E 645,633 62C,633 62D,633 62E,633 645",
    "FCB1:635 62D,635 62E,635 645,636 62C,636 62D,636 62E,636 645,637 62D,638 645,639 62C,639 645",
    "FCBC:63A 62C,63A 645,641 62C,641 62D,641 62E,641 645,642 62D,642 645,643 62C,643 62D,643 62E",
    "FCC7:643 644,643 645,644 62C,644 62D,644 62E,644 645,644 647,645 62C,645 62D,645 62E,645 645",
    "FCD2:646 62C,646 62D,646 62E,646 645,646 647,647 62C,647 645,647 670,64A 62C,64A 62D,64A 62E",
    "FCDD:64A 645,64A 647,626 645,626 647,628 645,628 647,62A 645,62A 647,62B 645,62B 647,633 645",
    "FCE8:633 647,634 645,634 647,643 644,643 645,644 645,646 645,646 647,64A 645,64A 647",
    "FCF2:640 64E 651,640 64F 651,640 650 651,637 649,637 64A,639 649,639 64A,63A 649,63A 64A",
    "FCFB:633 649,633 64A,634 649,634 64A,62D 649,62D 64A,62C 649,62C 64A,62E 649,62E 64A,635 649",
    "FD06:635 64A,636 649,636 64A,634 62C,634 62D,634 62E,634 645,634 631,633 631,635 631,636 631",
    "FD11:637 649,637 64A,639 649,639 64A,63A 649,63A 64A,633 649,633 64A,634 649,634 64A,62D 649",
    "FD1C:62D 64A,62C 649,62C 64A,62E 649,62E 64A,635 649,635 64A,636 649,636 64A,634 62C,634 62D",
    "FD27:634 62E,634 645,634 631,633 631,635 631,636 631,634 62C,634 62D,634 62E,634 645,633 647",
    "FD32:634 647,637 645,633 62C,633 62D,633 62E,634 62C,634 62D,634 62E,637 645,638 645,627 64B",
    "FD3D:627 64B",
    "FD50:62A 62C 645,62A 62D 62C,62A 62D 62C,62A 62D 645,62A 62E 645,62A 645 62C,62A 645 62D",
    "FD57:62A 645 62E,62C 645 62D,62C 645 62D,62D 645 64A,62D 645 649,633 62D 62C,633 62C 62D",
    "FD5E:633 62C 649,633 645 62D,633 645 62D,633 645 62C,633 645 645,633 645 645,635 62D 62D",
    "FD65:635 62D 62D,635 645 645,634 62D 645,634 62D 645,634 62C 64A,634 645 62E,634 645 62E",
    "FD6C:634 645 645,634 645 645,636 62D 649,636 62E 645,636 62E 645,637 645 62D,637 645 62D",
    "FD73:637 645 645,637 645 64A,639 62C 645,639 645 645,639 645 645,639 645 649,63A 645 645",
    "FD7A:63A 645 64A,63A 645 649,641 62E 645,641 62E 645,642 645 62D,642 645 645,644 62D 645",
    "FD81:644 62D 64A,644 62D 649,644 62C 62C,644 62C 62C,644 62E 645,644 62E 645,644 645 62D",
    "FD88:644 645 62D,645 62D 62C,645 62D 645,645 62D 64A,645 62C 62D,645 62C 645,645 62E 62C",
    "FD8F:645 62E 645,,,645 62C 62E,647 645 62C,647 645 645,646 62D 645,646 62D 649,646 62C 645",
    "FD98:646 62C 645,646 62C 649,646 645 64A,646 645 649,64A 645 645,64A 645 645,628 62E 64A",
    "FD9F:62A 62C 64A,62A 62C 649,62A 62E 64A,62A 62E 649,62A 645 64A,62A 645 649,62C 645 64A",
    "FDA6:62C 62D 649,62C 645 649,633 62E 649,635 62D 64A,634 62D 64A,636 62D 64A,644 62C 64A",
    "FDAD:644 645 64A,64A 62D 64A,64A 62C 64A,64A 645 64A,645 645 64A,642 645 64A,646 62D 64A",
    "FDB4:642 645 62D,644 62D 645,639 645 64A,643 645 64A,646 62C 62D,645 62E 64A,644 62C 645",
    "FDBB:643 645 645,644 62C 645,646 62C 62D,62C 62D 64A,62D 62C 64A,645 62C 64A,641 645 64A",
    "FDC2:628 62D 64A,643 645 645,639 62C 645,635 645 645,633 62E 64A,646 62C 64A",
    "FDF0:635 644 6D2,642 644 6D2,627 644 644 647,627 643 628 631,645 62D 645 62F,635 644 639 645",
    "FDF6:631 633 648 644,639 644 64A 647,648 633 644 645,635 644 649,,,631 6CC 627 644",
    "FE10:2C,3001,,3A,3B,21,3F,3016,3017",
    "FE31:2014,2013,5F,5F,28,29,7B,7D,3014,3015,3010,3011,300A,300B,3008,3009",
    "FE47:5B,5D",
    "FE4D:5F,5F,5F,2C,3001,,,3B,3A,3F,21,2014,28,29,7B,7D,3014,3015,23,26,2A,2B,2D,3C,3E,3D,,5C",
    "FE69:24,25,40",
    "FE71:640 64B",
    "FE77:640 64E,,640 64F,,640 650,,640 651,,640 652,621,622,622,623,623,624,624,625,625,626,626",
    "FE8B:626,626,627,627,628,628,628,628,629,629,62A,62A,62A,62A,62B,62B,62B,62B,62C,62C,62C,62C",
    "FEA1:62D,62D,62D,62D,62E,62E,62E,62E,62F,62F,630,630,631,631,632,632,633,633,633,633,634,634",
    "FEB7:634,634,635,635,635,635,636,636,636,636,637,637,637,637,638,638,638,638,639,639,639,639",
    "FECD:63A,63A,63A,63A,641,641,641,641,642,642,642,642,643,643,643,643,644,644,644,644,645,645",
    "FEE3:645,645,646,646,646,646,647,647,647,647,648,648,649,649,64A,64A,64A,64A,644 622,644 622",
    "FEF7:644 623,644 623,644 625,644 625,644 627,644 627",
    "FF5F:2985,2986,2E,300C,300D,3001,30FB,30F2,30A1,30A3,30A5,30A7,30A9,30E3,30E5,30E7,30C3,30FC",
    "FF71:30A2,30A4,30A6,30A8,30AA,30AB,30AD,30AF,30B1,30B3,30B5,30B7,30B9,30BB,30BD,30BF,30C1"]

/-- Characters from U+F900 on and what each stands for, from U+FF82 on. -/
def presentedLinesFromFF82 : List String :=
  ["FF82:30C4,30C6,30C8",
    "FF8B:30D2,30D5,30D8,30DB",
    "FF94:30E4,30E6",
    "FF9C:30EF,30F3,3099,309A,,1100,1101,11AA,1102,11AC,11AD",
    "FFB0:111A",
    "FFB4:1121",
    "FFE0:A2,A3,AC,,A6,A5,20A9,,2502",
    "FFED:25A0,25CB",
    "10594:105BB,105BC",
    "10781:2D0,2D1,E6,299,253,,2A3,AB66,2A5,2A4,256,257,1D91,258,25E,2A9,264,262,260,29B,127,29C",
    "10797:267,284,2AA,2AB,26C,1DF04,A78E,26E,1DF05,28E,1DF06,F8,276,277,71,27A,1DF08,27D,27E,280",
    "107AB:2A8,2A6,AB67,2A7,288,2C71,,28F,2A1,2A2,298",
    "107B9:1DF0A,1DF1E",
    "1D15E:1D157 1D165,1D158 1D165,1D158 1D165 1D16E,1D158 1D165 1D16F,1D158 1D165 1D170",
    "1D163:1D158 1D165 1D171,1D158 1D165 1D172",
    "1D1BB:1D1B9 1D165,1D1BA 1D165,1D1B9 1D165 1D16E,1D1BA 1D165 1D16E,1D1B9 1D165 1D16F",
    "1D1C0:1D1BA 1D165 1D16F",
    "1D49C:61,,63,64,,,67,,,6A,6B",
    "1D4BB:66",
    "1D504:61,62",
    "1D538:61,62",
    "1D546:6F",
    "1D6A4:131,237",
    "1D6B9:3B8",
    "1D6C1:2207",
    "1D6D3:3C3",
    "1D6DB:2202,3B5,3B8,3BA,3C6,3C1,3C0",
    "1D6F3:3B8",
    "1D6FB:2207",
    "1D70D:3C3",
    "1D715:2202,3B5,3B8,3BA,3C6,3C1,3C0",
    "1D72D:3B8",
    "1D735:2207",
    "1D747:3C3",
    "1D74F:2202,3B5,3B8,3BA,3C6,3C1,3C0",
    "1D767:3B8",
    "1D76F:2207",
    "1D781:3C3",
    "1D789:2202,3B5,3B8,3BA,3C6,3C1,3C0",
    "1D7A1:3B8",
    "1D7A9:2207",
    "1D7BB:3C3",
    "1D7C3:2202,3B5,3B8,3BA,3C6,3C1,3C0,3DD,3DD",
    "1E047:44B,44D,44E,A689,4D9,456,458,4E9,4AF,4CF",
    "1E05A:43A,43B,43E,43F,441",
    "1E065:44A,44B,491,456,455,45F,4AB,A651,4B1",
    "1EE00:627,628,62C,62F,,648,632,62D,637,64A",
    "1EE0E:633,639,641,635,642,631,634,62A,62B,62E,630,636,638,63A,66E,6BA,6A1,66F,,628,62C,,647",
    "1EE27:62D,,64A",
    "1EE2E:633,639,641,635,642,,634,62A,62B,62E,,636,,63A",
    "1EE42:62C",
    "1EE47:62D,,64A,,644,,646,633,639,,635,642,,634,,,62E,,636,,63A,,6BA,,66F,,628,62C,,647,,,62D",
    "1EE68:637,64A,643,,645,646,633,639,641,635,642,,634,62A,62B,62E,,636,638,63A,66E,,6A1,,627"]

/-- Characters from U+F900 on and what each stands for, from U+1EE81 on. -/
def presentedLinesFrom1EE81 : List String :=
  ["1EE81:628,62C,62F,647,648,632,62D,637,64A",
    "1EE8E:633,639,641,635,642,631,634,62A,62B,62E,630,636,638,63A",
    "1EEA1:628,62C,62F,,648,632,62D,637,64A",
    "1EEAE:633,639,641,635,642,631,634,62A,62B,62E,630,636,638,63A",
    "1F101:30 2C,31 2C,32 2C,33 2C,34 2C,35 2C,36 2C,37 2C,38 2C,39 2C",
    "1F110:28 61 29,28 62 29,28 63 29,28 64 29,28 65 29,28 66 29,28 67 29,28 68 29,28 69 29",
    "1F119:28 6A 29,28 6B 29,28 6C 29,28 6D 29,28 6E 29,28 6F 29,28 70 29,28 71 29,28 72 29",
    "1F122:28 73 29,28 74 29,28 75 29,28 76 29,28 77 29,28 78 29,28 79 29,28 7A 29,3014 73 3015",
    "1F12B:63,72,63 64,77 7A",
    "1F14A:68 76,6D 76,73 64,73 73,70 70 76,77 63",
    "1F16A:6D 63,6D 64,6D 72",
    "1F190:64 6A",
    "1F200:307B 304B,30B3 30B3,30B5",
    "1F210:624B,5B57,53CC,30C7,4E8C,591A,89E3,5929,4EA4,6620,7121,6599,524D,5F8C,518D,65B0,521D",
    "1F221:7D42,751F,8CA9,58F0,5439,6F14,6295,6355,4E00,4E09,904A,5DE6,4E2D,53F3,6307,8D70,6253",
    "1F232:7981,7A7A,5408,6E80,6709,6708,7533,5272,55B6,914D",
    "1F240:3014 672C 3015,3014 4E09 3015,3014 4E8C 3015,3014 5B89 3015,3014 70B9 3015",
    "1F245:3014 6253 3015,3014 76D7 3015,3014 52DD 3015,3014 6557 3015",
    "1F250:5F97,53EF",
    "2F800:4E3D,4E38,4E41,20122,4F60,4FAE,4FBB,5002,507A,5099,50E7,50CF,349E,2063A,514D,5154,5164",
    "2F811:5177,2051C,34B9,5167,518D,2054B,5197,51A4,4ECC,51AC,51B5,291DF,51F5,5203,34DF,523B",
    "2F821:5246,5272,5277,3515,52C7,52C9,52E4,52FA,5305,5306,5317,5349,5351,535A,5373,537D,537F",
    "2F832:537F,537F,20A2C,7070,53CA,53DF,20B63,53EB,53F1,5406,549E,5438,5448,5468,54A2,54F6,5510",
    "2F843:5553,5563,5584,5584,5599,55AB,55B3,55C2,5716,5606,5717,5651,5674,5207,58EE,57CE,57F4",
    "2F854:580D,578B,5832,5831,58AC,214E4,58F2,58F7,5906,591A,5922,5962,216A8,216EA,59EC,5A1B",
    "2F864:5A27,59D8,5A66,36EE,36FC,5B08,5B3E,5B3E,219C8,5BC3,5BD8,5BE7,5BF3,21B18,5BFF,5C06,5F53",
    "2F875:5C22,3781,5C60,5C6E,5CC0,5C8D,21DE4,5D43,21DE6,5D6E,5D6B,5D7C,5DE1,5DE2,382F,5DFD,5E28",
    "2F886:5E3D,5E69,3862,22183,387C,5EB0,5EB3,5EB6,5ECA,2A392,5EFE,22331,22331,8201,5F22,5F22",
    "2F896:38C7,232B8,261DA,5F62,5F6B,38E3,5F9A,5FCD,5FD7,5FF9,6081,393A,391C,6094,226D4,60C7",
    "2F8A6:6148,614C,614E,614C,617A,618E,61B2,61A4,61AF,61DE,61F2,61F6,6210,621B,625D,62B1,62D4",
    "2F8B7:6350,22B0C,633D,62FC,6368,6383,63E4,22BF1,6422,63C5,63A9,3A2E,6469,647E,649D,6477,3A6C",
    "2F8C8:654F,656C,2300A,65E3,66F8,6649,3B19,6691,3B08,3AE4,5192,5195,6700,669C,80AD,43D9,6717",
    "2F8D9:671B,6721,675E,6753,233C3,3B49,67FA,6785,6852,6885,2346D,688E,681F,6914,3B9D,6942,69A3",
    "2F8EA:69EA,6AA8,236A3,6ADB,3C18,6B21,238A7,6B54,3C4E,6B72,6B9F,6BBA,6BBB,23A8D,21D0B,23AFA",
    "2F8FA:6C4E,23CBC,6CBF,6CCD,6C67,6D16,6D3E,6D77,6D41,6D69,6D78,6D85,23D1E,6D34,6E2F,6E6E,3D33",
    "2F90B:6ECB,6EC7,23ED1,6DF9,6F6E,23F5E,23F8E,6FC6,7039,701E,701B,3D96,704A,707D,7077,70AD",
    "2F91B:20525,7145,24263,719C,243AB,7228,7235,7250,24608,7280,7295,24735,24814,737A,738B,3EAC",
    "2F92B:73A5,3EB8,3EB8,7447,745C,7471,7485,74CA,3F1B,7524,24C36,753E,24C92,7570,2219F,7610",
    "2F93B:24FA1,24FB8,25044,3FFC,4008,76F4,250F3,250F2,25119,25133,771E,771F,771F,774A,4039,778B",
    "2F94B:4046,4096,2541D,784E,788C,78CC,40E3,25626,7956,2569A,256C5,798F,79EB,412F,7A40,7A4A",
    "2F95B:7A4F,2597C,25AA7,25AA7,7AEE,4202,25BAB,7BC6,7BC9,4227,25C80,7CD2,42A0,7CE8,7CE3,7D00",
    "2F96B:25F86,7D63,4301,7DC7,7E02,7E45,4334,26228,26247,4359,262D9,7F7A,2633E,7F95,7FFA,8005",
    "2F97B:264DA,26523,8060,265A8,8070,2335F,43D5,80B2,8103,440B,813E,5AB5,267A7,267B5,23393",
    "2F98A:2339C,8201,8204,8F9E,446B,8291,828B,829D,52B3,82B1,82B3,82BD,82E6,26B3C,82E5,831D,8363",
    "2F99B:83AD,8323,83BD,83E7,8457,8353,83CA,83CC,83DC,26C36,26D6B,26CD5,452B,84F1,84F3,8516",
    "2F9AB:273CA,8564,26F2C,455D,4561,26FB1,270D2,456B,8650,865C,8667,8669,86A9,8688,870E,86E2",
    "2F9BB:8779,8728,876B,8786,45D7,87E1,8801,45F9,8860,8863,27667,88D7,88DE,4635,88FA,34BB,278AE",
    "2F9CC:27966,46BE,46C7,8AA0,8AED,8B8A,8C55,27CA8,8CAB,8CC1,8D1B,8D77,27F2F,20804,8DCB,8DBC",
    "2F9DC:8DF0,208DE,8ED4,8F38,285D2,285ED,9094,90F1,9111,2872E,911B,9238,92D7,92D8,927C,93F9",
    "2F9EC:9415,28BFA,958B,4995,95B7,28D77,49E6,96C3,5DB2,9723,29145,2921A,4A6E,4A76,97E0,2940A",
    "2F9FC:4AB2,29496,980B,980B,9829,295B6,98E2,4B33,9929,99A7,99C2,99FE,4BCE,29B30,9B12,9C40",
    "2FA0C:9CFD,4CCE,4CED,9D67,2A0CE,4CF8,2A105,2A20E,2A291,9EBB,4D56,9EF9,9EFE,9F05,9F0F,9F16",
    "2FA1C:9F3B,2A600"]

/-- Characters from U+F900 on and what each stands for. -/
def presentedLines : List String :=
  presentedLinesFromF900 ++
    presentedLinesFromFC7A ++
    presentedLinesFromFF82 ++
    presentedLinesFrom1EE81

end Domain
end Http
end KnowledgeClient
