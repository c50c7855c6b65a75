/-!
# Simple case folding, packed

Each numeral packs four orbits of 84 bits, lowest first, and an orbit is up to four code
points of 21 bits that fold to the same one.
-/

namespace UrlMatch.Unicode

/-- The classes of code points that differ only in case. -/
def caseOrbitWords : List Nat := [
  0xc80004400000000000000c60004300000000000000c40004200000000000000c200041,
  0xd00004800000000000000ce0004700000000000000cc0004600000000000000ca00045,
  0xd80004c000000084a8000d60004b00000000000000d40004a00000000000000d200049,
  0xe00005000000000000000de0004f00000000000000dc0004e00000000000000da0004d,
  0xe800054000000005fc000e60005300000000000000e40005200000000000000e200051,
  0xf00005800000000000000ee0005700000000000000ec0005600000000000000ea00055,
  0x1c0000c000000000ef000738000b500000000000000f40005a00000000000000f200059,
  0x1c8000c400000000000001c6000c300000000000001c4000c200000000000001c2000c1,
  0x1d0000c800000000000001ce000c700000000000001cc000c6000000084ac001ca000c5,
  0x1d8000cc00000000000001d6000cb00000000000001d4000ca00000000000001d2000c9,
  0x1e0000d000000000000001de000cf00000000000001dc000ce00000000000001da000cd,
  0x1e8000d400000000000001e6000d300000000000001e4000d200000000000001e2000d1,
  0x1f2000d900000000000001f0000d800000000000001ec000d600000000000001ea000d5,
  0x1fa000dd00000000000001f8000dc00000000000001f6000db00000000000001f4000da,
  0x2020010000000000000002f0000ff0000000000003d3c000df00000000000001fc000de,
  0x21200108000000000000020e00106000000000000020a00104000000000000020600102,
  0x22200110000000000000021e0010e000000000000021a0010c00000000000002160010a,
  0x23200118000000000000022e00116000000000000022a00114000000000000022600112,
  0x24200120000000000000023e0011e000000000000023a0011c00000000000002360011a,
  0x25200128000000000000024e00126000000000000024a00124000000000000024600122,
  0x26600132000000000000025e0012e000000000000025a0012c00000000000002560012a,
  0x2780013b000000000000027400139000000000000026e00136000000000000026a00134,
  0x2880014300000000000002840014100000000000002800013f000000000000027c0013d,
  0x29a0014c00000000000002960014a000000000000029000147000000000000028c00145,
  0x2aa0015400000000000002a60015200000000000002a200150000000000000029e0014e,
  0x2ba0015c00000000000002b60015a00000000000002b20015800000000000002ae00156,
  0x2ca0016400000000000002c60016200000000000002c20016000000000000002be0015e,
  0x2da0016c00000000000002d60016a00000000000002d20016800000000000002ce00166,
  0x2ea0017400000000000002e60017200000000000002e20017000000000000002de0016e,
  0x2fc0017d00000000000002f80017b00000000000002f40017900000000000002ee00176,
  0x30a0018400000000000003060018200000000000004a600181000000000000048600180,
  0x4ae0018a00000000000004ac0018900000000000003100018700000000000004a800186,
  0x4b60019000000000000004b20018f00000000000003ba0018e00000000000003180018b,
  0x3ec0019500000000000004c60019400000000000004c000193000000000000032400191,
  0x47a0019a00000000000003320019800000000000004d00019700000000000004d200196,
  0x4400019e00000000000004e40019d00000000000004de0019c0000000000014fb80019b,
  0x34a001a40000000000000346001a20000000000000342001a000000000000004ea0019f,
  0x35a001ac0000000000000506001a90000000000000350001a70000000000000500001a6,
  0x516001b20000000000000514001b10000000000000360001af0000000000000510001ae,
  0x372001b80000000000000524001b7000000000000036c001b50000000000000368001b3,
  0x72400390001c7000000007180038a001c400000000000003ee001bf000000000000037a001bc,
  0x3a4001d100000000000003a0001cf000000000000039c001cd0000000073000396001ca,
  0x3b4001d900000000000003b0001d700000000000003ac001d500000000000003a8001d3,
  0x3c6001e200000000000003c2001e000000000000003be001de00000000000003b8001db,
  0x3d6001ea00000000000003d2001e800000000000003ce001e600000000000003ca001e4,
  0x3ea001f4000000007cc003e4001f100000000000003de001ee00000000000003da001ec,
  0x3fe001fe00000000000003fa001fc00000000000003f6001fa00000000000003f2001f8,
  0x40e00206000000000000040a00204000000000000040600202000000000000040200200,
  0x41e0020e000000000000041a0020c00000000000004160020a000000000000041200208,
  0x42e00216000000000000042a00214000000000000042600212000000000000042200210,
  0x43e0021e000000000000043a0021c00000000000004360021a000000000000043200218,
  0x45200228000000000000044e00226000000000000044a00224000000000000044600222,
  0x46200230000000000000045e0022e000000000000045a0022c00000000000004560022a,
  0x58cc0023e00000000000004780023b00000000000058ca0023a000000000000046600232,
  0x5120024400000000000004840024100000000000058fe0024000000000000058fc0023f,
  0x4960024a000000000000049200248000000000000048e00246000000000000051800245,
  0x58da0025100000000000058de00250000000000000049e0024e000000000000049a0024c,
  0x14f96002640000000000014f58002610000000000014f560025c00000000000058e000252,
  0x58c40026b0000000000014f5c0026a0000000000014f54002660000000000014f1a00265,
  0x14f8a0028200000000000058c80027d00000000000058dc002710000000000014f5a0026c,
  0xfdf000ee400732003450000000000014f600029e0000000000014f640029d0000000000014f6200287,
  0x7fa0037b00000000000006ee0037600000000000006e60037200000000000006e200370,
  0x7580038600000000000007e60037f00000000000007fe0037d00000000000007fc0037c,
  0x7980038c000000000000075e0038a000000000000075c00389000000000000075a00388,
  0x762003910000000000003fa600390000000000000079c0038f000000000000079a0038e,
  0xfd40076a0039500000000000007680039400000000000007660039300000000f400076400392,
  0xfc0007740039a001fa000f440077000398000000000000076e00397000000000000076c00396,
  0x77e0039f000000000000077c0039e000000000000077a0039d00000000000007760039b,
  0x788003a400000000f0c00784003a300000000fc400782003a100000000f5800780003a0,
  0x790003a8000000000000078e003a700000000f540078c003a6000000000000078a003a5,
  0x3fc6003b00000000000000796003ab0000000000000794003aa0000000849800792003a9,
  0x7ba003dc00000000000007b6003da00000000000007b2003d800000000000007ae003cf,
  0x7ca003e400000000000007c6003e200000000000007c2003e000000000000007be003de,
  0x7da003ec00000000000007d6003ea00000000000007d2003e800000000000007ce003e6,
  0x7f6003fa00000000000007f0003f700000000000007f2003f200000000000007de003ee,
  0x8a60040300000000000008a40040200000000000008a20040100000000000008a000400,
  0x8ae0040700000000000008ac0040600000000000008aa0040500000000000008a800404,
  0x8b60040b00000000000008b40040a00000000000008b20040900000000000008b000408,
  0x8be0040f00000000000008bc0040e00000000000008ba0040d00000000000008b80040c,
  0x86600413000000072000086400412000000000000086200411000000000000086000410,
  0x86e00417000000000000086c00416000000000000086a00415000000072040086800414,
  0x8760041b00000000000008740041a000000000000087200419000000000000087000418,
  0x87e0041f000000072080087c0041e000000000000087a0041d00000000000008780041c,
  0x8860042300e4280721000884004220000000720c0088200421000000000000088000420,
  0x88e00427000000000000088c00426000000000000088a00425000000000000088800424,
  0x8960042b00000007218008940042a000000000000089200429000000000000089000428,
  0x89e0042f000000000000089c0042e000000000000089a0042d00000000000008980042c,
  0x8ce0046600000000000008ca004640000000721c008c60046200000000000008c200460,
  0x8de0046e00000000000008da0046c00000000000008d60046a00000000000008d200468,
  0x8ee0047600000000000008ea0047400000000000008e60047200000000000008e200470,
  0x8fe0047e00000000000008fa0047c00000000000008f60047a00000000000008f200478,
  0x91e0048e000000000000091a0048c00000000000009160048a000000000000090200480,
  0x92e00496000000000000092a00494000000000000092600492000000000000092200490,
  0x93e0049e000000000000093a0049c00000000000009360049a000000000000093200498,
  0x94e004a6000000000000094a004a40000000000000946004a20000000000000942004a0,
  0x95e004ae000000000000095a004ac0000000000000956004aa0000000000000952004a8,
  0x96e004b6000000000000096a004b40000000000000966004b20000000000000962004b0,
  0x97e004be000000000000097a004bc0000000000000976004ba0000000000000972004b8,
  0x98c004c50000000000000988004c30000000000000984004c1000000000000099e004c0,
  0x99c004cd0000000000000998004cb0000000000000994004c90000000000000990004c7,
  0x9ae004d600000000000009aa004d400000000000009a6004d200000000000009a2004d0,
  0x9be004de00000000000009ba004dc00000000000009b6004da00000000000009b2004d8,
  0x9ce004e600000000000009ca004e400000000000009c6004e200000000000009c2004e0,
  0x9de004ee00000000000009da004ec00000000000009d6004ea00000000000009d2004e8,
  0x9ee004f600000000000009ea004f400000000000009e6004f200000000000009e2004f0,
  0x9fe004fe00000000000009fa004fc00000000000009f6004fa00000000000009f2004f8,
  0xa0e005060000000000000a0a005040000000000000a06005020000000000000a0200500,
  0xa1e0050e0000000000000a1a0050c0000000000000a160050a0000000000000a1200508,
  0xa2e005160000000000000a2a005140000000000000a26005120000000000000a2200510,
  0xa3e0051e0000000000000a3a0051c0000000000000a360051a0000000000000a3200518,
  0xa4e005260000000000000a4a005240000000000000a46005220000000000000a4200520,
  0xa5e0052e0000000000000a5a0052c0000000000000a560052a0000000000000a5200528,
  0xac8005340000000000000ac6005330000000000000ac4005320000000000000ac200531,
  0xad0005380000000000000ace005370000000000000acc005360000000000000aca00535,
  0xad80053c0000000000000ad60053b0000000000000ad40053a0000000000000ad200539,
  0xae0005400000000000000ade0053f0000000000000adc0053e0000000000000ada0053d,
  0xae8005440000000000000ae6005430000000000000ae4005420000000000000ae200541,
  0xaf0005480000000000000aee005470000000000000aec005460000000000000aea00545,
  0xaf80054c0000000000000af60054b0000000000000af40054a0000000000000af200549,
  0xb00005500000000000000afe0054f0000000000000afc0054e0000000000000afa0054d,
  0xb08005540000000000000b06005530000000000000b04005520000000000000b0200551,
  0x5a02010a10000000000005a00010a00000000000000b0c005560000000000000b0a00555,
  0x5a0a010a50000000000005a08010a40000000000005a06010a30000000000005a04010a2,
  0x5a12010a90000000000005a10010a80000000000005a0e010a70000000000005a0c010a6,
  0x5a1a010ad0000000000005a18010ac0000000000005a16010ab0000000000005a14010aa,
  0x5a22010b10000000000005a20010b00000000000005a1e010af0000000000005a1c010ae,
  0x5a2a010b50000000000005a28010b40000000000005a26010b30000000000005a24010b2,
  0x5a32010b90000000000005a30010b80000000000005a2e010b70000000000005a2c010b6,
  0x5a3a010bd0000000000005a38010bc0000000000005a36010bb0000000000005a34010ba,
  0x5a42010c10000000000005a40010c00000000000005a3e010bf0000000000005a3c010be,
  0x5a4a010c50000000000005a48010c40000000000005a46010c30000000000005a44010c2,
  0x3922010d10000000000003920010d00000000000005a5a010cd0000000000005a4e010c7,
  0x392a010d50000000000003928010d40000000000003926010d30000000000003924010d2,
  0x3932010d90000000000003930010d8000000000000392e010d7000000000000392c010d6,
  0x393a010dd0000000000003938010dc0000000000003936010db0000000000003934010da,
  0x3942010e10000000000003940010e0000000000000393e010df000000000000393c010de,
  0x394a010e50000000000003948010e40000000000003946010e30000000000003944010e2,
  0x3952010e90000000000003950010e8000000000000394e010e7000000000000394c010e6,
  0x395a010ed0000000000003958010ec0000000000003956010eb0000000000003954010ea,
  0x3962010f10000000000003960010f0000000000000395e010ef000000000000395c010ee,
  0x396a010f50000000000003968010f40000000000003966010f30000000000003964010f2,
  0x3972010f90000000000003970010f8000000000000396e010f7000000000000396c010f6,
  0x397e010ff000000000000397c010fe000000000000397a010fd0000000000003974010fa,
  0x156e6013a300000000000156e4013a200000000000156e2013a100000000000156e0013a0,
  0x156ee013a700000000000156ec013a600000000000156ea013a500000000000156e8013a4,
  0x156f6013ab00000000000156f4013aa00000000000156f2013a900000000000156f0013a8,
  0x156fe013af00000000000156fc013ae00000000000156fa013ad00000000000156f8013ac,
  0x15706013b30000000000015704013b20000000000015702013b10000000000015700013b0,
  0x1570e013b7000000000001570c013b6000000000001570a013b50000000000015708013b4,
  0x15716013bb0000000000015714013ba0000000000015712013b90000000000015710013b8,
  0x1571e013bf000000000001571c013be000000000001571a013bd0000000000015718013bc,
  0x15726013c30000000000015724013c20000000000015722013c10000000000015720013c0,
  0x1572e013c7000000000001572c013c6000000000001572a013c50000000000015728013c4,
  0x15736013cb0000000000015734013ca0000000000015732013c90000000000015730013c8,
  0x1573e013cf000000000001573c013ce000000000001573a013cd0000000000015738013cc,
  0x15746013d30000000000015744013d20000000000015742013d10000000000015740013d0,
  0x1574e013d7000000000001574c013d6000000000001574a013d50000000000015748013d4,
  0x15756013db0000000000015754013da0000000000015752013d90000000000015750013d8,
  0x1575e013df000000000001575c013de000000000001575a013dd0000000000015758013dc,
  0x15766013e30000000000015764013e20000000000015762013e10000000000015760013e0,
  0x1576e013e7000000000001576c013e6000000000001576a013e50000000000015768013e4,
  0x15776013eb0000000000015774013ea0000000000015772013e90000000000015770013e8,
  0x1577e013ef000000000001577c013ee000000000001577a013ed0000000000015778013ec,
  0x27f6013f300000000000027f4013f200000000000027f2013f100000000000027f0013f0,
  0x391401c890000002992c14c9401c8800000000000027fa013f500000000000027f8013f4,
  0x3c0201e000000000000014f8c01d8e00000000000058c601d7d0000000000014efa01d79,
  0x3c1201e080000000000003c0e01e060000000000003c0a01e040000000000003c0601e02,
  0x3c2201e100000000000003c1e01e0e0000000000003c1a01e0c0000000000003c1601e0a,
  0x3c3201e180000000000003c2e01e160000000000003c2a01e140000000000003c2601e12,
  0x3c4201e200000000000003c3e01e1e0000000000003c3a01e1c0000000000003c3601e1a,
  0x3c5201e280000000000003c4e01e260000000000003c4a01e240000000000003c4601e22,
  0x3c6201e300000000000003c5e01e2e0000000000003c5a01e2c0000000000003c5601e2a,
  0x3c7201e380000000000003c6e01e360000000000003c6a01e340000000000003c6601e32,
  0x3c8201e400000000000003c7e01e3e0000000000003c7a01e3c0000000000003c7601e3a,
  0x3c9201e480000000000003c8e01e460000000000003c8a01e440000000000003c8601e42,
  0x3ca201e500000000000003c9e01e4e0000000000003c9a01e4c0000000000003c9601e4a,
  0x3cb201e580000000000003cae01e560000000000003caa01e540000000000003ca601e52,
  0x7a6c03cc201e600000000000003cbe01e5e0000000000003cba01e5c0000000000003cb601e5a,
  0x3cd201e680000000000003cce01e660000000000003cca01e640000000000003cc601e62,
  0x3ce201e700000000000003cde01e6e0000000000003cda01e6c0000000000003cd601e6a,
  0x3cf201e780000000000003cee01e760000000000003cea01e740000000000003ce601e72,
  0x3d0201e800000000000003cfe01e7e0000000000003cfa01e7c0000000000003cf601e7a,
  0x3d1201e880000000000003d0e01e860000000000003d0a01e840000000000003d0601e82,
  0x3d2201e900000000000003d1e01e8e0000000000003d1a01e8c0000000000003d1601e8a,
  0x3d4601ea20000000000003d4201ea00000000000003d2a01e940000000000003d2601e92,
  0x3d5601eaa0000000000003d5201ea80000000000003d4e01ea60000000000003d4a01ea4,
  0x3d6601eb20000000000003d6201eb00000000000003d5e01eae0000000000003d5a01eac,
  0x3d7601eba0000000000003d7201eb80000000000003d6e01eb60000000000003d6a01eb4,
  0x3d8601ec20000000000003d8201ec00000000000003d7e01ebe0000000000003d7a01ebc,
  0x3d9601eca0000000000003d9201ec80000000000003d8e01ec60000000000003d8a01ec4,
  0x3da601ed20000000000003da201ed00000000000003d9e01ece0000000000003d9a01ecc,
  0x3db601eda0000000000003db201ed80000000000003dae01ed60000000000003daa01ed4,
  0x3dc601ee20000000000003dc201ee00000000000003dbe01ede0000000000003dba01edc,
  0x3dd601eea0000000000003dd201ee80000000000003dce01ee60000000000003dca01ee4,
  0x3de601ef20000000000003de201ef00000000000003dde01eee0000000000003dda01eec,
  0x3df601efa0000000000003df201ef80000000000003dee01ef60000000000003dea01ef4,
  0x3e1201f010000000000003e1001f000000000000003dfe01efe0000000000003dfa01efc,
  0x3e1a01f050000000000003e1801f040000000000003e1601f030000000000003e1401f02,
  0x3e3201f110000000000003e3001f100000000000003e1e01f070000000000003e1c01f06,
  0x3e3a01f150000000000003e3801f140000000000003e3601f130000000000003e3401f12,
  0x3e5601f230000000000003e5401f220000000000003e5201f210000000000003e5001f20,
  0x3e5e01f270000000000003e5c01f260000000000003e5a01f250000000000003e5801f24,
  0x3e7601f330000000000003e7401f320000000000003e7201f310000000000003e7001f30,
  0x3e7e01f370000000000003e7c01f360000000000003e7a01f350000000000003e7801f34,
  0x3e9601f430000000000003e9401f420000000000003e9201f410000000000003e9001f40,
  0x3eb601f530000000000003eb201f510000000000003e9a01f450000000000003e9801f44,
  0x3ed201f610000000000003ed001f600000000000003ebe01f570000000000003eba01f55,
  0x3eda01f650000000000003ed801f640000000000003ed601f630000000000003ed401f62,
  0x3f7601f710000000000003f7401f700000000000003ede01f670000000000003edc01f66,
  0x3f9601f750000000000003f9401f740000000000003f9201f730000000000003f9001f72,
  0x3ff201f790000000000003ff001f780000000000003fb601f770000000000003fb401f76,
  0x3ff601f7d0000000000003ff401f7c0000000000003fd601f7b0000000000003fd401f7a,
  0x3f1601f830000000000003f1401f820000000000003f1201f810000000000003f1001f80,
  0x3f1e01f870000000000003f1c01f860000000000003f1a01f850000000000003f1801f84,
  0x3f3601f930000000000003f3401f920000000000003f3201f910000000000003f3001f90,
  0x3f3e01f970000000000003f3c01f960000000000003f3a01f950000000000003f3801f94,
  0x3f5601fa30000000000003f5401fa20000000000003f5201fa10000000000003f5001fa0,
  0x3f5e01fa70000000000003f5c01fa60000000000003f5a01fa50000000000003f5801fa4,
  0x3f9801fc30000000000003f7801fb30000000000003f7201fb10000000000003f7001fb0,
  0x3fd201fe10000000000003fd001fe00000000000003fb201fd10000000000003fb001fd0,
  0x42e002160000000000000429c021320000000000003ff801ff30000000000003fd801fe5,
  0x42e80216400000000000042e60216300000000000042e40216200000000000042e202161,
  0x42f00216800000000000042ee0216700000000000042ec0216600000000000042ea02165,
  0x42f80216c00000000000042f60216b00000000000042f40216a00000000000042f202169,
  0x43080218300000000000042fe0216f00000000000042fc0216e00000000000042fa0216d,
  0x49a6024b900000000000049a4024b800000000000049a2024b700000000000049a0024b6,
  0x49ae024bd00000000000049ac024bc00000000000049aa024bb00000000000049a8024ba,
  0x49b6024c100000000000049b4024c000000000000049b2024bf00000000000049b0024be,
  0x49be024c500000000000049bc024c400000000000049ba024c300000000000049b8024c2,
  0x49c6024c900000000000049c4024c800000000000049c2024c700000000000049c0024c6,
  0x49ce024cd00000000000049cc024cc00000000000049ca024cb00000000000049c8024ca,
  0x586202c01000000000000586002c0000000000000049d2024cf00000000000049d0024ce,
  0x586a02c05000000000000586802c04000000000000586602c03000000000000586402c02,
  0x587202c09000000000000587002c08000000000000586e02c07000000000000586c02c06,
  0x587a02c0d000000000000587802c0c000000000000587602c0b000000000000587402c0a,
  0x588202c11000000000000588002c10000000000000587e02c0f000000000000587c02c0e,
  0x588a02c15000000000000588802c14000000000000588602c13000000000000588402c12,
  0x589202c19000000000000589002c18000000000000588e02c17000000000000588c02c16,
  0x589a02c1d000000000000589802c1c000000000000589602c1b000000000000589402c1a,
  0x58a202c2100000000000058a002c20000000000000589e02c1f000000000000589c02c1e,
  0x58aa02c2500000000000058a802c2400000000000058a602c2300000000000058a402c22,
  0x58b202c2900000000000058b002c2800000000000058ae02c2700000000000058ac02c26,
  0x58ba02c2d00000000000058b802c2c00000000000058b602c2b00000000000058b402c2a,
  0x58d002c6700000000000058c202c6000000000000058be02c2f00000000000058bc02c2e,
  0x58ec02c7500000000000058e602c7200000000000058d802c6b00000000000058d402c69,
  0x590e02c86000000000000590a02c84000000000000590602c82000000000000590202c80,
  0x591e02c8e000000000000591a02c8c000000000000591602c8a000000000000591202c88,
  0x592e02c96000000000000592a02c94000000000000592602c92000000000000592202c90,
  0x593e02c9e000000000000593a02c9c000000000000593602c9a000000000000593202c98,
  0x594e02ca6000000000000594a02ca4000000000000594602ca2000000000000594202ca0,
  0x595e02cae000000000000595a02cac000000000000595602caa000000000000595202ca8,
  0x596e02cb6000000000000596a02cb4000000000000596602cb2000000000000596202cb0,
  0x597e02cbe000000000000597a02cbc000000000000597602cba000000000000597202cb8,
  0x598e02cc6000000000000598a02cc4000000000000598602cc2000000000000598202cc0,
  0x599e02cce000000000000599a02ccc000000000000599602cca000000000000599202cc8,
  0x59ae02cd600000000000059aa02cd400000000000059a602cd200000000000059a202cd0,
  0x59be02cde00000000000059ba02cdc00000000000059b602cda00000000000059b202cd8,
  0x59dc02ced00000000000059d802ceb00000000000059c602ce200000000000059c202ce0,
  0x14c8a0a6440000000000014c860a6420000000000014c820a64000000000000059e602cf2,
  0x14c9e0a64e0000000000014c9a0a64c0000000000014c920a6480000000000014c8e0a646,
  0x14cae0a6560000000000014caa0a6540000000000014ca60a6520000000000014ca20a650,
  0x14cbe0a65e0000000000014cba0a65c0000000000014cb60a65a0000000000014cb20a658,
  0x14cce0a6660000000000014cca0a6640000000000014cc60a6620000000000014cc20a660,
  0x14d020a6800000000000014cda0a66c0000000000014cd60a66a0000000000014cd20a668,
  0x14d120a6880000000000014d0e0a6860000000000014d0a0a6840000000000014d060a682,
  0x14d220a6900000000000014d1e0a68e0000000000014d1a0a68c0000000000014d160a68a,
  0x14d320a6980000000000014d2e0a6960000000000014d2a0a6940000000000014d260a692,
  0x14e4e0a7260000000000014e4a0a7240000000000014e460a7220000000000014d360a69a,
  0x14e5e0a72e0000000000014e5a0a72c0000000000014e560a72a0000000000014e520a728,
  0x14e720a7380000000000014e6e0a7360000000000014e6a0a7340000000000014e660a732,
  0x14e820a7400000000000014e7e0a73e0000000000014e7a0a73c0000000000014e760a73a,
  0x14e920a7480000000000014e8e0a7460000000000014e8a0a7440000000000014e860a742,
  0x14ea20a7500000000000014e9e0a74e0000000000014e9a0a74c0000000000014e960a74a,
  0x14eb20a7580000000000014eae0a7560000000000014eaa0a7540000000000014ea60a752,
  0x14ec20a7600000000000014ebe0a75e0000000000014eba0a75c0000000000014eb60a75a,
  0x14ed20a7680000000000014ece0a7660000000000014eca0a7640000000000014ec60a762,
  0x14ef40a7790000000000014ede0a76e0000000000014eda0a76c0000000000014ed60a76a,
  0x14f060a7820000000000014f020a7800000000000014efe0a77e0000000000014ef80a77b,
  0x14f220a7900000000000014f180a78b0000000000014f0e0a7860000000000014f0a0a784,
  0x14f320a7980000000000014f2e0a7960000000000014f880a7940000000000014f260a792,
  0x14f420a7a00000000000014f3e0a79e0000000000014f3a0a79c0000000000014f360a79a,
  0x14f520a7a80000000000014f4e0a7a60000000000014f4a0a7a40000000000014f460a7a2,
  0x14f720a7b80000000000014f6e0a7b60000000000014f6a0a7b400000000000156a60a7b3,
  0x14f820a7c00000000000014f7e0a7be0000000000014f7a0a7bc0000000000014f760a7ba,
  0x14f9a0a7cc0000000000014f940a7c90000000000014f900a7c70000000000014f860a7c2,
  0x14faa0a7d40000000000014fa60a7d20000000000014fa20a7d00000000000014f9e0a7ce,
  0x14fec0a7f50000000000014fb60a7da0000000000014fb20a7d80000000000014fae0a7d6,
  0x1fe860ff23000000000001fe840ff22000000000001fe820ff21000000000001f60c0fb05,
  0x1fe8e0ff27000000000001fe8c0ff26000000000001fe8a0ff25000000000001fe880ff24,
  0x1fe960ff2b000000000001fe940ff2a000000000001fe920ff29000000000001fe900ff28,
  0x1fe9e0ff2f000000000001fe9c0ff2e000000000001fe9a0ff2d000000000001fe980ff2c,
  0x1fea60ff33000000000001fea40ff32000000000001fea20ff31000000000001fea00ff30,
  0x1feae0ff37000000000001feac0ff36000000000001feaa0ff35000000000001fea80ff34,
  0x2085010400000000000001feb40ff3a000000000001feb20ff39000000000001feb00ff38,
  0x2085810404000000000002085610403000000000002085410402000000000002085210401,
  0x2086010408000000000002085e10407000000000002085c10406000000000002085a10405,
  0x208681040c00000000000208661040b00000000000208641040a000000000002086210409,
  0x2087010410000000000002086e1040f000000000002086c1040e000000000002086a1040d,
  0x2087810414000000000002087610413000000000002087410412000000000002087210411,
  0x2088010418000000000002087e10417000000000002087c10416000000000002087a10415,
  0x208881041c00000000000208861041b00000000000208841041a000000000002088210419,
  0x2089010420000000000002088e1041f000000000002088c1041e000000000002088a1041d,
  0x2089810424000000000002089610423000000000002089410422000000000002089210421,
  0x209b0104b0000000000002089e10427000000000002089c10426000000000002089a10425,
  0x209b8104b400000000000209b6104b300000000000209b4104b200000000000209b2104b1,
  0x209c0104b800000000000209be104b700000000000209bc104b600000000000209ba104b5,
  0x209c8104bc00000000000209c6104bb00000000000209c4104ba00000000000209c2104b9,
  0x209d0104c000000000000209ce104bf00000000000209cc104be00000000000209ca104bd,
  0x209d8104c400000000000209d6104c300000000000209d4104c200000000000209d2104c1,
  0x209e0104c800000000000209de104c700000000000209dc104c600000000000209da104c5,
  0x209e8104cc00000000000209e6104cb00000000000209e4104ca00000000000209e2104c9,
  0x209f0104d000000000000209ee104cf00000000000209ec104ce00000000000209ea104cd,
  0x20b2e1057000000000000209f6104d300000000000209f4104d200000000000209f2104d1,
  0x20b36105740000000000020b34105730000000000020b32105720000000000020b3010571,
  0x20b3e105780000000000020b3c105770000000000020b3a105760000000000020b3810575,
  0x20b481057d0000000000020b461057c0000000000020b421057a0000000000020b4010579,
  0x20b50105810000000000020b4e105800000000000020b4c1057f0000000000020b4a1057e,
  0x20b58105850000000000020b56105840000000000020b54105830000000000020b5210582,
  0x20b60105890000000000020b5e105880000000000020b5c105870000000000020b5a10586,
  0x20b6a1058e0000000000020b681058d0000000000020b661058c0000000000020b621058a,
  0x20b72105920000000000020b70105910000000000020b6e105900000000000020b6c1058f,
  0x2198210c81000000000002198010c800000000000020b78105950000000000020b7610594,
  0x2198a10c85000000000002198810c84000000000002198610c83000000000002198410c82,
  0x2199210c89000000000002199010c88000000000002198e10c87000000000002198c10c86,
  0x2199a10c8d000000000002199810c8c000000000002199610c8b000000000002199410c8a,
  0x219a210c9100000000000219a010c90000000000002199e10c8f000000000002199c10c8e,
  0x219aa10c9500000000000219a810c9400000000000219a610c9300000000000219a410c92,
  0x219b210c9900000000000219b010c9800000000000219ae10c9700000000000219ac10c96,
  0x219ba10c9d00000000000219b810c9c00000000000219b610c9b00000000000219b410c9a,
  0x219c210ca100000000000219c010ca000000000000219be10c9f00000000000219bc10c9e,
  0x219ca10ca500000000000219c810ca400000000000219c610ca300000000000219c410ca2,
  0x219d210ca900000000000219d010ca800000000000219ce10ca700000000000219cc10ca6,
  0x219da10cad00000000000219d810cac00000000000219d610cab00000000000219d410caa,
  0x219e210cb100000000000219e010cb000000000000219de10caf00000000000219dc10cae,
  0x21ae410d520000000000021ae210d510000000000021ae010d5000000000000219e410cb2,
  0x21aec10d560000000000021aea10d550000000000021ae810d540000000000021ae610d53,
  0x21af410d5a0000000000021af210d590000000000021af010d580000000000021aee10d57,
  0x21afc10d5e0000000000021afa10d5d0000000000021af810d5c0000000000021af610d5b,
  0x21b0410d620000000000021b0210d610000000000021b0010d600000000000021afe10d5f,
  0x23180118a00000000000021b0a10d650000000000021b0810d640000000000021b0610d63,
  0x23188118a40000000000023186118a30000000000023184118a20000000000023182118a1,
  0x23190118a8000000000002318e118a7000000000002318c118a6000000000002318a118a5,
  0x23198118ac0000000000023196118ab0000000000023194118aa0000000000023192118a9,
  0x231a0118b0000000000002319e118af000000000002319c118ae000000000002319a118ad,
  0x231a8118b400000000000231a6118b300000000000231a4118b200000000000231a2118b1,
  0x231b0118b800000000000231ae118b700000000000231ac118b600000000000231aa118b5,
  0x231b8118bc00000000000231b6118bb00000000000231b4118ba00000000000231b2118b9,
  0x2dcc016e4000000000000231be118bf00000000000231bc118be00000000000231ba118bd,
  0x2dcc816e44000000000002dcc616e43000000000002dcc416e42000000000002dcc216e41,
  0x2dcd016e48000000000002dcce16e47000000000002dccc16e46000000000002dcca16e45,
  0x2dcd816e4c000000000002dcd616e4b000000000002dcd416e4a000000000002dcd216e49,
  0x2dce016e50000000000002dcde16e4f000000000002dcdc16e4e000000000002dcda16e4d,
  0x2dce816e54000000000002dce616e53000000000002dce416e52000000000002dce216e51,
  0x2dcf016e58000000000002dcee16e57000000000002dcec16e56000000000002dcea16e55,
  0x2dcf816e5c000000000002dcf616e5b000000000002dcf416e5a000000000002dcf216e59,
  0x2dd7616ea0000000000002dcfe16e5f000000000002dcfc16e5e000000000002dcfa16e5d,
  0x2dd7e16ea4000000000002dd7c16ea3000000000002dd7a16ea2000000000002dd7816ea1,
  0x2dd8616ea8000000000002dd8416ea7000000000002dd8216ea6000000000002dd8016ea5,
  0x2dd8e16eac000000000002dd8c16eab000000000002dd8a16eaa000000000002dd8816ea9,
  0x2dd9616eb0000000000002dd9416eaf000000000002dd9216eae000000000002dd9016ead,
  0x2dd9e16eb4000000000002dd9c16eb3000000000002dd9a16eb2000000000002dd9816eb1,
  0x2dda616eb8000000000002dda416eb7000000000002dda216eb6000000000002dda016eb5,
  0x3d24a1e903000000000003d2481e902000000000003d2461e901000000000003d2441e900,
  0x3d2521e907000000000003d2501e906000000000003d24e1e905000000000003d24c1e904,
  0x3d25a1e90b000000000003d2581e90a000000000003d2561e909000000000003d2541e908,
  0x3d2621e90f000000000003d2601e90e000000000003d25e1e90d000000000003d25c1e90c,
  0x3d26a1e913000000000003d2681e912000000000003d2661e911000000000003d2641e910,
  0x3d2721e917000000000003d2701e916000000000003d26e1e915000000000003d26c1e914,
  0x3d27a1e91b000000000003d2781e91a000000000003d2761e919000000000003d2741e918,
  0x3d2821e91f000000000003d2801e91e000000000003d27e1e91d000000000003d27c1e91c,
  0x3d2861e921000000000003d2841e920]

end UrlMatch.Unicode
