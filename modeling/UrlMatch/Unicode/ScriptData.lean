/-!
# Scripts, packed

Each numeral packs six spans of 50 bits, lowest first: the gap since the last span, the
length, and the tag. The tag is the position of the script in `scriptNames`, or of the set
of scripts in `extensionSets`.
-/

namespace UrlMatch.Unicode

/-- The scripts as (short name, long name), in the order of their tags. -/
def scriptNames : List (String × String) := [
  ("Adlm", "Adlam"), ("Aghb", "Caucasian_Albanian"), ("Ahom", "Ahom"), ("Arab", "Arabic"),
  ("Armi", "Imperial_Aramaic"), ("Armn", "Armenian"), ("Avst", "Avestan"), ("Bali", "Balinese"),
  ("Bamu", "Bamum"), ("Bass", "Bassa_Vah"), ("Batk", "Batak"), ("Beng", "Bengali"),
  ("Berf", "Beria_Erfe"), ("Bhks", "Bhaiksuki"), ("Bopo", "Bopomofo"), ("Brah", "Brahmi"),
  ("Brai", "Braille"), ("Bugi", "Buginese"), ("Buhd", "Buhid"), ("Cakm", "Chakma"),
  ("Cans", "Canadian_Aboriginal"), ("Cari", "Carian"), ("Cham", "Cham"), ("Cher", "Cherokee"),
  ("Chrs", "Chorasmian"), ("Copt", "Coptic"), ("Cpmn", "Cypro_Minoan"), ("Cprt", "Cypriot"),
  ("Cyrl", "Cyrillic"), ("Deva", "Devanagari"), ("Diak", "Dives_Akuru"), ("Dogr", "Dogra"),
  ("Dsrt", "Deseret"), ("Dupl", "Duployan"), ("Egyp", "Egyptian_Hieroglyphs"),
  ("Elba", "Elbasan"), ("Elym", "Elymaic"), ("Ethi", "Ethiopic"), ("Gara", "Garay"),
  ("Geor", "Georgian"), ("Glag", "Glagolitic"), ("Gong", "Gunjala_Gondi"),
  ("Gonm", "Masaram_Gondi"), ("Goth", "Gothic"), ("Gran", "Grantha"), ("Grek", "Greek"),
  ("Gujr", "Gujarati"), ("Gukh", "Gurung_Khema"), ("Guru", "Gurmukhi"), ("Hang", "Hangul"),
  ("Hani", "Han"), ("Hano", "Hanunoo"), ("Hatr", "Hatran"), ("Hebr", "Hebrew"),
  ("Hira", "Hiragana"), ("Hluw", "Anatolian_Hieroglyphs"), ("Hmng", "Pahawh_Hmong"),
  ("Hmnp", "Nyiakeng_Puachue_Hmong"), ("Hung", "Old_Hungarian"), ("Ital", "Old_Italic"),
  ("Java", "Javanese"), ("Kali", "Kayah_Li"), ("Kana", "Katakana"), ("Kawi", "Kawi"),
  ("Khar", "Kharoshthi"), ("Khmr", "Khmer"), ("Khoj", "Khojki"), ("Kits", "Khitan_Small_Script"),
  ("Knda", "Kannada"), ("Krai", "Kirat_Rai"), ("Kthi", "Kaithi"), ("Lana", "Tai_Tham"),
  ("Laoo", "Lao"), ("Latn", "Latin"), ("Lepc", "Lepcha"), ("Limb", "Limbu"), ("Lina", "Linear_A"),
  ("Linb", "Linear_B"), ("Lisu", "Lisu"), ("Lyci", "Lycian"), ("Lydi", "Lydian"),
  ("Mahj", "Mahajani"), ("Maka", "Makasar"), ("Mand", "Mandaic"), ("Mani", "Manichaean"),
  ("Marc", "Marchen"), ("Medf", "Medefaidrin"), ("Mend", "Mende_Kikakui"),
  ("Merc", "Meroitic_Cursive"), ("Mero", "Meroitic_Hieroglyphs"), ("Mlym", "Malayalam"),
  ("Modi", "Modi"), ("Mong", "Mongolian"), ("Mroo", "Mro"), ("Mtei", "Meetei_Mayek"),
  ("Mult", "Multani"), ("Mymr", "Myanmar"), ("Nagm", "Nag_Mundari"), ("Nand", "Nandinagari"),
  ("Narb", "Old_North_Arabian"), ("Nbat", "Nabataean"), ("Newa", "Newa"), ("Nkoo", "Nko"),
  ("Nshu", "Nushu"), ("Ogam", "Ogham"), ("Olck", "Ol_Chiki"), ("Onao", "Ol_Onal"),
  ("Orkh", "Old_Turkic"), ("Orya", "Oriya"), ("Osge", "Osage"), ("Osma", "Osmanya"),
  ("Ougr", "Old_Uyghur"), ("Palm", "Palmyrene"), ("Pauc", "Pau_Cin_Hau"), ("Perm", "Old_Permic"),
  ("Phag", "Phags_Pa"), ("Phli", "Inscriptional_Pahlavi"), ("Phlp", "Psalter_Pahlavi"),
  ("Phnx", "Phoenician"), ("Plrd", "Miao"), ("Prti", "Inscriptional_Parthian"),
  ("Rjng", "Rejang"), ("Rohg", "Hanifi_Rohingya"), ("Runr", "Runic"), ("Samr", "Samaritan"),
  ("Sarb", "Old_South_Arabian"), ("Saur", "Saurashtra"), ("Sgnw", "SignWriting"),
  ("Shaw", "Shavian"), ("Shrd", "Sharada"), ("Sidd", "Siddham"), ("Sidt", "Sidetic"),
  ("Sind", "Khudawadi"), ("Sinh", "Sinhala"), ("Sogd", "Sogdian"), ("Sogo", "Old_Sogdian"),
  ("Sora", "Sora_Sompeng"), ("Soyo", "Soyombo"), ("Sund", "Sundanese"), ("Sunu", "Sunuwar"),
  ("Sylo", "Syloti_Nagri"), ("Syrc", "Syriac"), ("Tagb", "Tagbanwa"), ("Takr", "Takri"),
  ("Tale", "Tai_Le"), ("Talu", "New_Tai_Lue"), ("Taml", "Tamil"), ("Tang", "Tangut"),
  ("Tavt", "Tai_Viet"), ("Tayo", "Tai_Yo"), ("Telu", "Telugu"), ("Tfng", "Tifinagh"),
  ("Tglg", "Tagalog"), ("Thaa", "Thaana"), ("Thai", "Thai"), ("Tibt", "Tibetan"),
  ("Tirh", "Tirhuta"), ("Tnsa", "Tangsa"), ("Todr", "Todhri"), ("Tols", "Tolong_Siki"),
  ("Toto", "Toto"), ("Tutg", "Tulu_Tigalari"), ("Ugar", "Ugaritic"), ("Vaii", "Vai"),
  ("Vith", "Vithkuqi"), ("Wara", "Warang_Citi"), ("Wcho", "Wancho"), ("Xpeo", "Old_Persian"),
  ("Xsux", "Cuneiform"), ("Yezi", "Yezidi"), ("Yiii", "Yi"), ("Zanb", "Zanabazar_Square"),
  ("Zinh", "Inherited"), ("Zyyy", "Common")]

/-- The scripts with one more name, as (that name, short name). -/
def scriptAliases : List (String × String) := [("Qaac", "Copt"), ("Qaai", "Zinh")]

/-- Every code point that belongs to a script, with the script. -/
def scriptWords : List Nat := [
  0x4900000800002b40005e00000490000d000002b40000c00000490000d000002b40008200000,
  0x490000f800002b40000200000490000b800002b40000a000004900000800002b40001e00000,
  0xe00001000002b40000a000004900002800002b40004e0000049000e0800002b40000200000,
  0x2d00002000008b40000600000ad00000800000b40000800000ac00038000002b40002800000,
  0xad00000800000b40000200000ad00000800000b400002000042d00000800002b40000200000,
  0x2d00008000000640001c000002d0001f800004b400028000012d00000800004b40000600000,
  0x5000018000081400064000020500013000004700015200000ac00001000000700010a00000,
  0x300003000002b40000200000030000280002cd40000c00004350000d800020d40006e00001,
  0x300010000002b400002000000300001800002b400002000000300007000002b40000200000,
  0x300036000002b00000200000030000d000002b000016000000300005000002b40000200000,
  0x3000180000023400006000028d0001e000006340001c000000300011000002b40000200000,
  0x530000e000005f00001e000027c00017000001980000600002660001d80003a640006400000,
  0x30000e800002b4000020000003000258000140c00044000058d000058000054c0000200002,
  0xb00002000000740003400000ad00001000000740001e00000ac0000200000074000a200000,
  0xb0000200000c2c00002000010b000038000042c0002c000020b000010000082c0001000001,
  0xb000028000042c00004000040b000008000202c00008000020b000010000082c0001200002,
  0x3000003800004c00002c000023000001000010c00000c0000130000018000082c0003200002,
  0x3000001000010c00000a000013000000800008c000004000013000001000004c00000400001,
  0x2e00001800028c000022000073000000800004c00000800007300000080000cc00000600002,
  0x2e00002800004b800004000012e00003800004b80002c000012e00001800004b80001200001,
  0x2e00006000008b8000080000f2e00000800008b800006000012e00001800004b80001400002,
  0x6c00003800005b00002c000026c00001000009b000010000016c00001800004b80000e00007,
  0x6c0000180001db000006000026c00001000009b000012000026c00002800005b00000400001,
  0x920000180000e480000c000019200001000029b000024000026c00002800005b00000400004,
  0x920000180000e4800004000039200001000006480000200001920000100000e480000800001,
  0x920000080001a48000020000292000020000064800006000039200002800012480001800003,
  0x960000480000a580002000001960000b8000065800006000019600006800016480002a0000e,
  0x960000200000a58000040000196000018000065800004000079600002000006580000600001,
  0x4400005000005100002e000014400001800005100001a00000960000480001e580001400002,
  0x440000180001510000040000744000020000051000006000014400004800009100000a00001,
  0x5a000198000056800006000015a000068000311000006000014400005000009100000800001,
  0x85000090000061400006000015a0000d0000096800020000045a00003000005680000600001,
  0x8500003000012140000200003850000380000a1400002000018500004800006140003000003,
  0xad0000080001268000740000c850000180000a1400014000068500004000006140000200001,
  0x480000080000520000300000148000028000052000002000014800001000096680003800000,
  0x480000200000920000140000148000038000052000002000014800002800009200002e00001,
  0x9b000038000066c0001e000019b000120000066c0004e000049b000120000066c0009000020,
  0x27000008000149c000020000127000130000018000140000259b00001000002b40000800000,
  0x250000200000494000920000031000800000009c0000800000ad000008000009c0005600002,
  0x250001080000894000080000125000148000089400008000012500000800004940000e00002,
  0x250001c800004940001e0000225000020000049400002000012500003800008940000800001,
  0x17000030000085c000ac00006250000d00000c9400040000022500021800008940000800001,
  0x980000b00001dec0001600000ad00001800001ec0009600003680000e800000500050000002,
  0x8e00001800006380001a0000c120000a000026b40000400000330000a800002600000200009,
  0xad000010000017000004000064100005000019040001400002410002f000032380000400001,
  0x14000230000157000056000075c0002c800019700002800000ad00000800001700000200000,
  0x900000f0000012c00018000034b000008000112c00018000044b000060000052c0003e0000a,
  0x4100010000002440000400003910000580001a440003400004910001600002e400000a00002,
  0x47000050000191c0001600002470000e8000051c0007e000001100001000008440003800000,
  0x8a000200000001c00064000010700026800052b00001800002ac000170000091c0001c00006,
  0x69000180000012800006000034a0000780000d2800070000000a00002000020280006800000,
  0xad00000800002b000006000088a000040000009c00006000022700015800014700001600000,
  0xad00003000002b00000200000ad00002000002b00000e00000ad00000800002b00001a00000,
  0x2d00002800001240004c00005ad00000800002b00000400000ad00001800002b00000200000,
  0x4900006800000b40000a000004900002000000b40000a000004900018800000700000200000,
  0x2d0000b000001240020000000ac00020000000b400002000004900023000000700000200000,
  0x2d00000800004b400002000012d00004000008b40000c000022d00013000008b40000c00002,
  0x2d00003000008b40001c000012d00007800004b40006a000022d0000f800004b40000200001,
  0xad0002b800002b00000400000ad00006000004b400012000012d00001800008b40002600001,
  0x4900006800006b40001e000004900000800002b400016000024900000800002b40001600001,
  0x4900001000002b400006000002d00000800002b40004c0000fac0001080003ab40004400003,
  0x4900014800002b400022000004900000800002b400036000004900000800002b40000c00000,
  0xad0013a000000400020000000ad001d0000056b40001600016ad0014d000012b40000600000,
  0x2700013000000640000e00005190003a0000012400040000002800030000002b40011400002,
  0x250000b8000025c000020000e970000100001e5c000700000227000008000149c0000200001,
  0x2500003800004940000e000012500003800004940000e000012500003800004940000e00009,
  0x320002c800004c80003400022ad0002f0000007000040000012500003800004940000e00001,
  0xad0000c800000c80000200000ad00000800000c80000200000ad0000a800068c8001ac0000c,
  0xad00002000000c80000800000ad00004000000c40000400000ac00002000000c80001200000,
  0x3e0002d000002b400002000003600001800002b40000400000ac00001000008d8000ac00001,
  0xe00010000002b40002000001310002f0000043800056000053e00001800002b40000400000,
  0x310000f800002b40008000001310000f800000f80002000000ad00000800026b40004c00000,
  0x3200ce0000002b400150000003e0002c000002b400002000003e00017800002b4000a200000,
  0xa300096000001380006000009aa0001b80000ea80091a000003202900000002b40008000000,
  0x4900029000002b400006000004900033000002b40004400008080002c00000070000c000014,
  0x7e00006000021f80008c00008730001c00001ab400014000038c00016800001240001e00014,
  0x790000080002de400048000003d00000800002b400002000003d00017000000740004000006,
  0x600000f800000f000004000043c00005000002b400002000013c0002700000cc40003a00000,
  0x940002180000180000400000016000020000085800014000021600007000024580006e00001,
  0x2500003800024940000c000022500003000008940000c0000a5e0000b800002500000a00018,
  0x4900002000000b400002000004900004800002b400002000004900015800004940000e00001,
  0x310000b800030c405748000065e00005000009780005c000001700028000012b40000400000,
  0x350000d000014140000a0000c4900003800098c8000d40000232000b7008410c40006200004,
  0x3000f7000000d400014000013500001000004d400004000013500000800004d40000a00001,
  0xac0000700001ab40001400000ac000080000000c00020000200300048000002b40000400000,
  0x3000438000040c0000a00004ad00002000006b40002600001ad00011800000700000400000,
  0xad00005800001240003400000ad00003000001240003400000ad00010000006b40000200002,
  0x310000300000cc40003e00000ad00001000000f80005a00000ad00000800000f80001400000,
  0xad0000280002ab40000e00001ad0000380000cc400006000023100003000008c40000c00002,
  0x4d00007000009340001e000014d000010000053400026000014d0000d000005340001800002,
  0xad00006800004b40009e00000ad0000480000eb40005a00004ad0000180001534000f600022,
  0xac0000080003c5400062000034f0000e80020ab00000200000ad000168000bcb40000200003,
  0xa20000f000015c800056000052b0000d800000ec00006000093b00012000012b40003600000,
  0x6e0000f00000200000600000020000280000aa9c0001c00004a700012000002880000200001,
  0x10000080002c0400068000082300014000011b400048000046d00012000019b80001400002,
  0xa400007800006900001600001a400001000006900000e00001a400007800006900001600000,
  0x4c00004000029300002c000094c0009b800032780006800003a400001000006900000e00001,
  0x1b000160000046c00002000021b000030001152400012000014900015000005240000c00018,
  0x7000010000000100001200001040000b0000006c00002000021b0000080000c6c0000400001,
  0x760000e000000d00000a000053400001000004d000026000306400004800021900003e00000,
  0x580000c000001640004000026830000d000001400000200005500000d000001d80000200003,
  0x400000180000500000100000540000010000050000008000005800017000009600002800004,
  0x6300010000001f40004000007400000480001d0000014000044000001800009000003a00001,
  0x7800004000009e00002c00000060000380000c180006c000095400006000011500004e00020,
  0x6b00024800141d40000e0000c750000200001dd400024000007400004000015d00002600000,
  0x2600013000019e800014000087a00014000000e80000c000073a00019800034e80006600037,
  0xa90000100000aa40000600001a9000150000040c0003e000d02600001000020980003a00003,
  0x6f0000d00005a18000540000887000140000000c0000c0002103000048000200c0000c00010,
  0x46000218000003c00002000090f000120000103c0009c00009240000b800050600003800026,
  0x51000138000204c0002400001130001a80001a200001400007880000c80000918000020000a,
  0x5f000008000057c0000e0003e420001780000508000240000b850000a00000604000c000009,
  0x2c0000200001a100001400005840001d8000197c00016000015f000078000057c0000800001,
  0x2c00002800004b000004000012c00003800004b00002c000022c00001000008b00001000001,
  0x2c00000800018b000002000022c00001800008b000004000022c00004800002b00000200001,
  0xa10000080000a840000200001a10000500002cb00000a000032c00003800008b00000e00005,
  0xa100005000006840000800001a10000080000a840000200001a100005000006840004c00001,
  0x9c0000500002270000900001e650000280000594000b80001da100001000022840000400001,
  0x8f0001d00004d700001a000065b0000500002d6c0008a00022820001300000a080006c000a6,
  0x1f0001e0002e4080002e00004020000780000808000360001c600000a00001a3c0001400006,
  0x1e000010000047800010000021e00000800008780000e00000a50000080003294000a600064,
  0x62000170000098800010000461e000050000247800018000021e00001000004780003c00001,
  0x1d0000500001dc40007200000140000800003624000a600008ab0002400006d880001600002,
  0xd00007000004340005a000010d0000480001a2c000140000e8b00011000162040001000056,
  0x2a00001000004a80000e000495500007000005540002c00002550001000000c340003a0000a,
  0x2900003000018a800014000082a00004800004a800004000012a0000080000ca80005800001,
  0x9f00016000018a400014000072900003000004a400004000012900012800004a40000400001,
  0x4e00000800154fc0003a000033f00014800004fc0002200007520000c8003da7c0001400004,
  0xa80006200002ea00000a00001a80003780019aa00073400000920000080003648000640000f,
  0x80011c801b18bc0007401ab937001238000148801f360000a220022b00003468000c600a4c,
  0x90000f00001a7400014000019d000278000017400004000045d00005000005740003e00007,
  0x3800009800014e00002a000013800003800004e0000140000a3800023000028240000c00002,
  0x770001c800011dc000960002c0c0000c800008300003200005560002d8003191400074001b0,
  0x320000380002d0c000020000032000010000019c00002000009300000800101dc0002200007,
  0x3e000020087f64c000e600061930000f8000010c000020002943000eb0000024c0360000009,
  0x360000080003cf80000600000360008f800000f800002000013e00001000004f80000e00001,
  0x210000680001484000d60090467000c6000020f8000080000e3e00000800008d8000060001d,
  0xad000da00000eb4001fa00f5cad00002000000840000800002210000500001c840001200003,
  0xad0007b0000f2b4000e800009ac0000b80000ab00005c0000fad0000880003eb40002e00006,
  0xad00001000002b00001000000ad00008800002b00000600000ad0001f00000ab40004e0000a,
  0xad0000a0001e8b40008c00015ad0001e800002b00000800000ad0000f000002b00000e00000,
  0xad00001000006b40008e00001ad0002a80021eb40003200009ad0002b800032b4000280000c,
  0xad00003800006b40000200001ad00006000006b40000800002ad0000100000ab40000200002,
  0xad00002000006b40003800001ad00003800006b40001000002ad00002000006b40008200001,
  0xad0001900000ab40024800002ad000aa000006b40000e00003ad00000800006b40000a00001,
  0x2800003800355240000c00006490000f801141fc0001e000017f0000280003dfc0051800000,
  0x1c00000800084700007c000052800002800004a000004000012800003800008a00002200001,
  0xa60001d000046800003e001403900001000010e40001400002390000700000ce40005a00070,
  0x950000b000006540003e000c06a00000800011a800056000d66100015000742980000200005,
  0x5700062800004940001e0000125000010000049400008000012500003800382540000400008,
  0xad0001e800132b40008800311000000100001000000140000400000260000a55c0002000002,
  0x3000050000040c000020000203000008000040c0000400001030000d8000040c00008000c2,
  0x3000008000040c000020000403000008000180c000020000103000008000040c0000800001,
  0x3000008000040c000020000203000008000040c000040000103000018000040c0000200001,
  0x3000020000080c000020000103000010000040c000020000103000008000040c0000200001,
  0x3000088000040c000140000103000008000040c000080000103000020000040c0000e00001,
  0xad00032000012b4000580010e03000010000d00c000220000103000028000040c0000600005,
  0xad0000d0000e2b40015c0000aad00012800006b40001e00001ad0000780000ab40001e0000c,
  0xad0000300003ab40000400007ad00004800012b4000580000dad00001000000d80000200000,
  0xad00000800012b40001800006ad0006d00000eb40001a00003ad0000880000eb4007b20009a,
  0xad0000600000ab40003c00008ad0001400001ab40001400008ad0001c000012b4000180000f,
  0xad0000580000eb40001a00002ad00007000022b4002b000027ad0000480003ab40000400004,
  0xad0004980001eb40001400004ad0000600000ab40002000004ad00000800006b40007200003,
  0x320013700003cc803a62000023200b47000008c80223c000203205370001016b4000ce00001,
  0xac00078000202b4000c00001ead00000ab2e1cc8042540000532009a5801788c80043c009a2]

/-- The sets of scripts that use a character in common, by their short names. -/
def extensionSets : List (List String) := [
  ["Avst", "Cari", "Copt", "Dupl", "Elba", "Geor", "Glag", "Gong", "Goth", "Grek", "Hani", "Latn",
    "Lydi", "Mahj", "Perm", "Shaw"], ["Beng", "Cyrl", "Deva", "Latn", "Lisu", "Thai", "Toto"],
  ["Bopo", "Latn"], ["Latn", "Lisu"], ["Latn", "Thai"],
  ["Cher", "Copt", "Cyrl", "Grek", "Latn", "Perm", "Sunu", "Tale"],
  ["Cher", "Cyrl", "Grek", "Latn", "Osge", "Sunu", "Tale", "Todr"],
  ["Cher", "Cyrl", "Latn", "Tfng"], ["Glag", "Latn", "Sunu", "Syrc", "Thai"],
  ["Aghb", "Cher", "Copt", "Cyrl", "Goth", "Grek", "Latn", "Osge", "Syrc", "Tfng", "Todr"],
  ["Copt", "Elba", "Glag", "Goth", "Kana", "Latn"], ["Cyrl", "Grek", "Latn", "Perm", "Tfng"],
  ["Copt", "Dupl", "Hebr", "Latn", "Perm", "Syrc", "Tale", "Tfng", "Todr"],
  ["Armn", "Cyrl", "Dupl", "Goth", "Grek", "Hebr", "Latn", "Perm", "Syrc", "Tale", "Tfng"],
  ["Latn", "Tfng"], ["Dupl", "Latn", "Syrc"], ["Cher", "Cyrl", "Latn", "Osge"],
  ["Cher", "Latn", "Tale"], ["Latn", "Sunu"], ["Ethi", "Latn"], ["Cyrl", "Latn", "Todr"],
  ["Grek", "Latn", "Perm", "Todr"], ["Cher", "Dupl", "Kana", "Latn", "Syrc", "Tfng"],
  ["Cher", "Dupl", "Latn", "Syrc"], ["Latn", "Syrc"], ["Latn", "Sunu", "Syrc"],
  ["Cher", "Latn", "Syrc"], ["Aghb", "Cher", "Goth", "Latn", "Sunu", "Syrc", "Thai"], ["Grek"],
  ["Latn", "Osge"], ["Aghb", "Latn", "Todr"], ["Latn"], ["Copt", "Grek"], ["Cyrl", "Perm"],
  ["Cyrl", "Glag"], ["Cyrl", "Latn"], ["Armn", "Geor", "Glag"],
  ["Arab", "Gara", "Nkoo", "Rohg", "Syrc", "Thaa", "Yezi"], ["Arab", "Syrc", "Thaa"],
  ["Adlm", "Arab", "Gara", "Nkoo", "Rohg", "Syrc", "Thaa", "Yezi"],
  ["Adlm", "Arab", "Mand", "Mani", "Ougr", "Phlp", "Rohg", "Sogd", "Syrc"], ["Arab", "Syrc"],
  ["Arab", "Thaa", "Yezi"], ["Arab", "Rohg"], ["Beng", "Deva", "Gran", "Gujr", "Guru", "Knda",
    "Latn", "Mlym", "Nand", "Newa", "Orya", "Shrd", "Taml", "Telu", "Tirh"], ["Beng", "Deva",
    "Gran", "Gujr", "Guru", "Knda", "Latn", "Mlym", "Newa", "Orya", "Taml", "Telu", "Tirh"],
  ["Beng", "Deva", "Dogr", "Gong", "Gonm", "Gran", "Gujr", "Guru", "Knda", "Mahj", "Mlym", "Nand",
    "Onao", "Orya", "Sind", "Sinh", "Sylo", "Takr", "Taml", "Telu", "Tirh"], ["Beng", "Deva",
    "Dogr", "Gong", "Gonm", "Gran", "Gujr", "Gukh", "Guru", "Knda", "Limb", "Mahj", "Mlym",
    "Nand", "Onao", "Orya", "Sind", "Sinh", "Sylo", "Takr", "Taml", "Telu", "Tirh"],
  ["Deva", "Dogr", "Kthi", "Mahj"], ["Beng", "Cakm", "Sylo"], ["Guru", "Mult"], ["Gujr", "Khoj"],
  ["Gran", "Taml"], ["Knda", "Nand", "Tutg"], ["Cakm", "Mymr", "Tale"], ["Geor", "Glag", "Latn"],
  ["Runr"], ["Buhd", "Hano", "Tagb", "Tglg"], ["Mong", "Phag"], ["Beng", "Deva", "Gran", "Knda"],
  ["Deva"], ["Deva", "Gran", "Knda"], ["Beng", "Deva", "Newa", "Telu", "Tirh"],
  ["Beng", "Deva", "Telu"], ["Deva", "Newa", "Shrd"], ["Beng", "Deva", "Newa", "Telu"],
  ["Deva", "Shrd"], ["Deva", "Knda", "Mlym", "Orya", "Taml", "Telu"], ["Beng", "Deva"],
  ["Deva", "Newa", "Tirh"], ["Deva", "Nand", "Newa"], ["Beng", "Deva", "Shrd"], ["Deva", "Newa"],
  ["Beng", "Deva", "Newa", "Shrd"],
  ["Beng", "Deva", "Gran", "Knda", "Mlym", "Nand", "Orya", "Sinh", "Telu", "Tirh", "Tutg"],
  ["Deva", "Gran"], ["Deva", "Gran", "Knda", "Tutg"], ["Beng"], ["Nand"],
  ["Cyrl", "Latn", "Syrc"], ["Syrc"], ["Latn", "Mong", "Phag"], ["Adlm", "Arab"],
  ["Cari", "Geor", "Glag", "Hung", "Lyci", "Orkh"], ["Cari", "Grek", "Hung", "Mero"],
  ["Deva", "Gran", "Latn"], ["Copt", "Latn"], ["Avst", "Orkh"],
  ["Avst", "Cari", "Geor", "Hung", "Kthi", "Lydi", "Samr"], ["Dupl"], ["Adlm", "Arab", "Hung"],
  ["Hani", "Tang"], ["Bopo", "Hang", "Hani", "Hira", "Kana", "Mong", "Yiii"],
  ["Bopo", "Hang", "Hani", "Hira", "Kana", "Mong", "Phag", "Yiii"],
  ["Bopo", "Hang", "Hani", "Hira", "Kana"], ["Hani"],
  ["Bopo", "Hang", "Hani", "Hira", "Kana", "Mong", "Tibt", "Yiii"],
  ["Bopo", "Hang", "Hani", "Hira", "Kana", "Lisu", "Mong", "Tibt", "Yiii"],
  ["Bopo", "Hang", "Hani", "Hira", "Kana", "Yiii"], ["Bopo", "Hani"], ["Hira", "Kana"],
  ["Hani", "Hira", "Kana"], ["Hani", "Latn"], ["Deva", "Dogr", "Gujr", "Guru", "Khoj", "Knda",
    "Kthi", "Mahj", "Mlym", "Modi", "Nand", "Shrd", "Sind", "Takr", "Tirh", "Tutg"], ["Deva",
    "Dogr", "Gujr", "Guru", "Khoj", "Knda", "Kthi", "Mahj", "Modi", "Nand", "Shrd", "Sind",
    "Takr", "Tirh", "Tutg"],
  ["Deva", "Dogr", "Gujr", "Guru", "Khoj", "Kthi", "Mahj", "Modi", "Sind", "Takr", "Tirh"],
  ["Deva", "Dogr", "Gujr", "Guru", "Khoj", "Kthi", "Mahj", "Modi", "Shrd", "Sind", "Takr",
    "Tirh"], ["Beng", "Deva", "Tutg"], ["Deva", "Taml"], ["Kali", "Latn", "Mymr"],
  ["Bugi", "Java"], ["Arab", "Nkoo"], ["Arab", "Thaa"], ["Cpmn", "Cprt", "Linb"],
  ["Cprt", "Linb"], ["Cprt", "Lina", "Linb"], ["Arab", "Copt"], ["Mani", "Ougr"]]

/-- Every code point whose scripts are not just its own, with the set of them. -/
def extensionWords : List Nat := [
  0x4000008000240c0000200001020000180000408000020000a01000008008100000002000b7,
  0x90000080000020000020000007000008000001800002000000500000800098080000200001,
  0xf000008000003800002000000d000008000003000002000000b00000800000280000200000,
  0x140000080000048000020000113000008000004800002000001100000800000400000200000,
  0x180000080000064000020000718000008000005c0000200000160000080003c540000200001,
  0x1e000008000147400002000121c000008000087000002000101b00000800000680000200001,
  0x22000008000008c0000400000220000080000084000020010d20000010000107c0001a00004,
  0x28000008000809c0000200002260000080000094000020000e2500000800208900000200101,
  0x2d00000800000b0000020027c2b0000080018ca400002000062a00005000028a4000160000a,
  0x33000050001d8c8000140007631000050001d8c000014000002f00000800000b80000200011,
  0x390000100011ce000006005ef37000008002c4d8000140035035000050003c8d00001c000f6,
  0x3d00000800000ec00002000003c00000800000ec00002004ca3a00000800004e800004000cb,
  0x42000008000010400002000004000000800000fc00002000003e00000800000f00000200000,
  0x44000008000010800002000003c000010000010800004000003c000008000010c0000200000,
  0x3c0000080000120000020000047000008000011800002000003c00003000001140000200000,
  0x44000010000013000002000004b000008000012800002000003c00002000001240000200000,
  0x50000008000053c00002000361c000010003153800002000004b00001000001340000200000,
  0x560000080349954000020009254000008000094c000020000a520000080007d440000200234,
  0x5b000080006b08800002000015a0000080001164000020000a58000008000015c0000200018,
  0x61000010000018000004000015f000008000097800002000005d00000800001700000200001,
  0x5e000008000098c000080000a5e000020000018800010000005e00000800005880000c00000,
  0x640000080000d9000008000595f000010000019400004000045e00000800005900000a00000,
  0x5f000140000c16c00002000095f000130000817c0002000093640000080000188000020005a,
  0x5f0000f8001817c0000a0000a5f0000c8001617c00002000335f0000600003d7c0006200038,
  0x6a00000800001a4000040000068000018000019c00006001286600004000240880000207270,
  0x6f00001014db9b800002000a06d000008000e9b000002000016b000008002dda40000200000,
  0x64000010000b590000020000a62000028004697800004000477000000800029c000002000b2,
  0x7500000801fd9d000038001a0720000480000dcc0005a000047200000800001c40000400160,
  0x5900002027330d00000200001340000100324cd000004000373400000800004d0000020080e,
  0x5f00001007b797c00024016bc]

end UrlMatch.Unicode
