/-!
# Mapping of domain names, packed

A run takes 58 bits, five to a numeral: its first code point (21 bits), how many it has (12),
the step between them (2), the step between their images (2) and the first image (21). The
images of other lengths than one are a stream of 21-bit numbers, fourteen to a numeral: the
code point, the number of its images, the images. The rest are spans of 50 bits, six to a
numeral.
-/

namespace UrlMatch.Unicode

/-- The code points that a domain name replaces by one other. -/
def domainRunWords : List Nat := [
  0x622002000b9001de08008002d400064a004000b20003088008002a8000402002000a0,
  0x26b40040013400080d00c000400001f0a00e000d800070280b800300000de2002000ba,
  0x2f54006001790007f88008005e000297402e0014a000a1500200050400275400600139,
  0x3102002001870012a080080061800307400400182001298800800604000e620020017f,
  0x3242002001910012cc80100063c003ba20020018e000c6080080062c004aca00400189,
  0x33220020019800134080080065c004d2200200196001318800800650004c0200200193,
  0x5002002001a6000d0d001800680004ea20020019f001390800800674004de20020019c,
  0x3602002001af0014408008006b80035a2002001ac0014188008006a4003502002001a7,
  0x37a2002001bc000dc88008006e0005242002001b7000da50010006cc00514a004001b1,
  0x37e2002001f7000ca88008007d8003ea2002001f4000efd0048007780039d4010001cd,
  0x47820020023b0163288008008e800447401200222000cf0800800880003f34028001f8,
  0x512200200244000c0080080090c004842002002410163308008008f80033420020023d,
  0xe42002002b3001330800800ac4000d14004002b000123d00280091800518200200245,
  0xd82002002e1001318800800b80000ef2004002b7001408800800ad8004f32004002b4,
  0x626200200343001802801000d000052a2002002e40003c0800800b8c000e62002002e2,
  0x7620020037e001bb8800800dd800572200200374001b8d001000dc000772200200345,
  0x798c0040038c001d72801000e240016e200200387001d63001000e18007e620020037f,
  0x7642002003d0001eb8800800f3c00786a012003a3001d8a808800e440079c20020038f,
  0x78c2002003d5001e58800800f500079a2002003d3001e28800800f48007702002003d1,
  0x7702002003f4001e0c801000fc4007742002003f0001ecd006000f60007802002003d6,
  0x6f6a006003fd001fd8800800fe8007862002003f9001fc0800800fdc0076a2002003f5,
  0x99e2002004c000245d00d801228008c3402200460002182810001040008a0a02000400,
  0x5a00a04c010a0007858800803c3000ac2a04c0053100268d01800134000985400e004c1,
  0x865200401c80009f82803004fe0021b82002010fc01696880080433405a4e2002010c7,
  0x8c6200201c8700225080080721800884200201c8500220a80100720c0087c200201c82,
  0xc2c00401d2c0087ea8018072f4021a0a05601c9000e45080080722414c96200201c88,
  0xdec00401d3c00033a8040074cc003ba200201d320003228010074c0001cc200201d2d,
  0x4a0a00401d4400030880080750c000eb200401d410003948010074fc00446200201d3d,
  0x4b8200201d4c0012cc801007528000ca200201d4900031480100751c03a04200201d46,
  0x4a8200201d5300037880080754800296200201d5100035c80100753c000ce200201d4d,
  0x4de200201d5a00e8e8800807564000e8a00401d5700038080080755803a2ca00401d54,
  0xd2200201d62001e3280100758000764a00601d5d00e928800807570000ec200201d5b,
  0x78ca00401d69001e088008075a000764a00401d660003aa801007590000e4200201d63,
  0x1e0200201d9e0012a8800807674000c6200201d9c00129080080766c0087a200201d78,
  0x4d0a00601da400132880080768c004bf200401da1000330800807680004b8200201d9f,
  0x53e200201dab00ec288008076a8004da200201da90014e88008076a003af6200201da7,
  0x504a00401db30013c08008076c8004e6a00601daf0013808008076b4004e2c00401dac,
  0xf4200201dbb00145a8010076e403a38200201db800144a8010076d800356200201db5,
  0x1be200201e9e00f308800807a6c03c03409601e00001dc08008076fc00520a00601dbc,
  0x3e60a01001f3800f902804007ca003e20a00c01f1800f802804007c2003d43406001ea0,
  0x798c00601f79001d63002007dc403ec0a01001f6800fa8d002007d6403e80a00c01f48,
  0x3ee5400401fc8001dc8800807ef800758200201fbb00fb80800807ee803f60a00401fb8,
  0x75e200201fdb00fbb0800807f6803fa0a00401fd8001c80800807f4c0075ac00401fc9,
  0x3fca200201fec001e68800807fac03ef4200201fea00ff02801007fa000760200201fe3,
  0x4020160200000fbe0800807fe800799400401ff900fbc0800807fe0000c0200201fef,
  0xd22002020710001808008081c00004020020205f0001008008080bc04020200202011,
  0x50a0040207d0001e88008081f00442420020207b0001588008081e800068a00c02074,
  0x7a20020208c01109080080822c0005620020208a000182805008200000dc20020207f,
  0xf0200202093000378800808248000ca20020209100030880080824000050a0040208d,
  0xe6a0040209b000380800808268000d6a00802096000340800808254004b2200202094,
  0x24e20020210f000340801808430000cea0040210a0012d880080841c000c6200202102,
  0xe420040211c000382801808464000dc200202115000360801008448000d2200402110,
  0x1ca20020212b0003588008084a8000f4200202128001e48800808498000f4200202124,
  0xdb200402133010a708008084c8000cc2002021310003288010084bc000c4a0040212c,
  0x78020020213f001d988010084f40078020020213c0003488008084e400ba0a00802135,
  0xd220020216000034a801008520000ca20020214700032080100851404422200202140,
  0xda20020216f00031a8010085b4000d820020216c0003c08008085a4000ec200202164,
  0xc6a0040217d0003608008085f0000f02002021790003b08008085d0000d2200202170,
  0xc2a034024b600018a80480918006010a00402329010c2080080860c000da20020217f,
  0x4d6200202c6201630880080b18005860a06002c000001808008093a8000c2a034024d0,
  0x4e2200202c6e00128880080b1b4058d1400602c670013e880080b19003afa200202c63,
  0xec200202c7d00035080080b1f0058ec200202c7501639880080b1c8004a1200402c6f,
  0x5ac2200202d6f01679880080b3c8059d9400402ceb01640d01900b2000047ea00402c7e,
  0x9c6c200202f0202714080080bc0409c00200202f0004fcf880080bbcc0d79a200202e9f,
  0x9d40200202f0702746080080bc1809d0a200202f050272c880080bc1009c7e200202f03,
  0xa304200202f0c028b5880080bc2c0a2ca200202f0a0289f880080bc2409d74200202f08,
  0xa400200202f11028fa880080bc400a3c0200202f0f028d5880080bc380a32c200202f0d,
  0xa670200202f160298d080080bc540a62a200202f140297c880080bc4c0a536200202f12,
  0xa76c200202f1b029c1080080bc680a6d2200202f19029ae080080bc600a682200202f17,
  0xb1d6200202f2002b8f880080bc7c0adae200202f1e029f1880080bc740a790200202f1c,
  0xb2e6200202f2502c93880080bc900b22a200202f2302c85080080bc880b204200202f21,
  0xb844200202f2a02e07880080bca40b7f0200202f2802dc0080080bc9c0b6a0200202f26,
  0xbbca200202f2f02eed880080bcb80b8e2200202f2d02e37080080bcb00b870200202f2b,
  0xbcfe200202f3402f3d080080bccc0bce4200202f3202eff080080bcc40bbe2200202f30,
  0xbea0200202f3902f89880080bce00be16200202f3702f7f080080bcd80bde8200202f35,
  0xc46c200202f3e03104080080bcf40bf86200202f3c02fb9880080bcec0bec2200202f3a,
  0xcb2e200202f43032c3880080bd080ca68200202f4103297880080bd000c496200202f3f,
  0xcde0200202f48032f2880080bd1c0cbc0200202f46032dc880080bd140cb48200202f44,
  0xd6f2200202f4d035b1080080bd300d640200202f4b03394080080bd280ce10200202f49,
  0xd81e200202f52035ed880080bd440d7a8200202f50035e5880080bd3c0d766200202f4e,
  0xe46c200202f5703915080080bd580e0d6200202f550361a080080bd500d828200202f53,
  0xe558200202f5d0392cc80100bd6c0e48e200202f5a0391f880080bd640e476200202f58,
  0xea30200202f6203a73080080bd840e9b8200202f60039c4880080bd7c0e708200202f5e,
  0xeb24200202f6703ac5880080bd980ea60200202f6503a94080080bd900ea3e200202f63,
  0xeddc200202f6c03b5f880080bdac0ed5c200202f6a03b3e880080bda40ecec200202f68,
  0xf370200202f7103c9d080080bdc00efe6200202f6f03bf1080080bdb80efb6200202f6d,
  0xf8e6200202f7603d7c880080bdd40f596200202f7403d3a080080bdcc0f37c200202f72,
  0xff7a200202f7b03fc5080080bde80fea2200202f7903f9b080080bde00f9f0200202f77,
  0x100fe200202f8004019880080bdfc10024200202f7e04006080080bdf410002200202f7c,
  0x103f8200202f85040f9880080be10103d4200202f83040f1880080be0810112200202f81,
  0x104e4200202f8a04137080080be241043e200202f880410d880080be1c10418200202f86,
  0x11098200202f8f04420080080be3810cd6200202f8d04326880080be30104f0200202f8b,
  0x11400200202f94044e9080080be4c11316200202f92044bf080080be44110c6200202f90,
  0x1193a200202f990463c080080be60118aa200202f9704623080080be581186e200202f95,
  0x11d94200202f9e04755880080be7411b66200202f9c046b8080080be6c11ac8200202f9a,
  0x12292200202fa304848880080be8811f6a200202fa1047d8080080be8011f36200202f9f,
  0x12b00200202fa804abb880080be9c123a2200202fa6048e6080080be941238c200202fa4,
  0x12ea2200202fad04b74080080beb012d72200202fab04b5b080080bea812c38200202fa9,
  0x12fda200202fb204be5880080bec412ed2200202fb004bb1080080bebc12ebc200202fae,
  0x131be200202fb704c6d880080bed813150200202fb504c00880080bed012fe6200202fb3,
  0x135b0200202fbc04d54080080beec13358200202fba04ccc880080bee41332c200202fb8,
  0x13678200202fc104d99080080bf001365e200202fbf04d92880080bef8135be200202fbd,
  0x13d4a200202fc604f3f880080bf1413cea200202fc404e72880080bf0c136b4200202fc2,
  0x13df2200202fcb04f68880080bf2813d9a200202fc904f61880080bf2013d76200202fc7,
  0x13e76200202fd004f90080080bf3c13e26200202fce04f87080080bf3413dfa200202fcc,
  0x13f40200202fd504fce080080bf5013f1a200202fd304fa9080080bf4813e94200202fd1,
  0xa688a00403039029a0880080c0e00602420020303600017080080c00800040200203000,
  0x2206a00603137008d6880080c4d802204200203134008d5500100c4cc02200a00403131,
  0x2212a0140314500890880080c5100220ca006031410088d080080c50002360a00c0313a,
  0x23a620020316b008e6480100c5a40238ea004031670088a280100c594022c2a02a0314f,
  0x22412004031730088ea80100c5c4023bb20040316f0088e080080c5b8023af20040316c,
  0x226c20020317e00899080080c5f402258a0080317900893c80180c5d802246200203175,
  0x22aea00603184008f8a80100c60802298200203181008a3880080c6000228020020317f,
  0x233c20020318d008ca080080c63002322a0040318a008c4080080c62402308a00403187,
  0xadb620020319502704b00180c65009d1820020319302700080080c6480234220020318e,
  0x9c0220020319c0270c880080c66c09cb220020319a03a99080080c66409c5a200203197,
  0xbcf820020324502aa7880080c91009d7420020319f02b98080080c6780b25220020319d,
  0x220ca0040326400881c80100c9880220120040326003dc7880080c91c0cb0e200203246,
  0x1613020020326f05600080080c9b80221ea0080326a00886480100c9a002213200403266,
  0x1815820020327405e0a080080c9cc1739020020327205bbe080080c9c4165c8200203270,
  0x1a1802002032790673a080080c9e019850200203277063c8080080c9d818a88200203275,
  0x9d1820020328102700080080ca0018d6020020327e06aac080080c9ec1a61820020327a,
  0x9c06200203286028b6880080ca1409d2820020328402b6d880080ca0c09c12200203282,
  0xe0d620020328b03384080080ca280a6822002032890272e880080ca200a2d6200203287,
  0xcbca20020329002b8f880080ca3c123a220020328e03394080080ca340d86820020328c,
  0xe4f220020329502a06880080ca500f27c20020329303384880080ca480d054200203291,
  0xea6e20020329a03cec080080ca640a56820020329803cae880080ca5c11942200203296,
  0xd9d020020329f029b8080080ca780a25420020329d04834880080ca700b2e620020329b,
  0x9c14c004032a4035b1880080ca8c0a3322002032a202788880080ca841300a2002032a0,
  0xb72e2002032aa0299d880080caa40a7e62002032a802ef3080080ca9c09c5a2002032a5,
  0xa6a82002032af04663880080cab809e022002032ad03b71880080cab00b6cc2002032ab,
  0x6196a00a032e501862480200cb84061572018032d501851480280cb400b2382002032b0,
  0x61bca00a032ee0186d880080cbb4061b02002032ec0186a880080cbac061a42002032ea,
  0x14d03401c0a68005320d00b829900061dea008032fb01874a80280cbd8061c92006032f3,
  0x14ef540040a779053b78800829dc014e67403e0a73205391d003829c880089520040a69c,
  0x14f2340040a790001328800829e3414f1820020a78b053bfd002829df803af220020a77d,
  0x4d820020a7ad001308800829eb0004b820020a7ab001330800829ea814f2f40140a796,
  0x156a620020a7b30014e8800829ec80050e20020a7b10014f0800829ec0004d420020a7ae,
  0x14f9140040a7c700ec70800829f180050420020a7c5053ca0800829f1014f6b40100a7b4,
  0xc620020a7f2000398800829fc40033620020a7dc053e6d004029f30004c820020a7cb,
  0x2a620020a7f9000938800829fe014fec20020a7f5000388800829fd0000cc20020a7f3,
  0x51a20020ab69055a9080082ad7c004d620020ab5e0559b880082ad7414e4e20020ab5c,
  0x1199020020f90304765080083e4080cde820020f90104624080083e40002740a0a00ab70,
  0xb2a220020f90904fce080103e41c0a7ca20020f90602719080083e4140dda220020f904,
  0xecd220020f90e030fb080083e4340b29020020f90c02ac3880083e42c123a220020f90a,
  0x1211e20020f9130447c080083e44810f7420020f9110431f880083e4400ff0a20020f90f,
  0x1087a20020f918039ef080083e45c0e1b220020f9160368d880083e4540d40420020f914,
  0xd60820020f91d029ba880083e47009d0420020f91b04cf8880083e468122d420020f919,
  0xdfd620020f92202ea8080083e48413c3c20020f92004316880083e47c0e43620020f91e,
  0x1103e20020f927040ec080083e4980c59220020f925044b2080083e49010b9a20020f923,
  0x1219c20020f92c0397e080083e4ac0dad420020f92a0338b880083e4a40bd9420020f928,
  0xd5a620020f93103262080083e4c00a5bc20020f92f028db880083e4b809f0c20020f92d,
  0x10cb820020f93604303080083e4d41000220020f93403b73880083e4cc0e42020020f932,
  0xf11820020f93b04efd080083e4e8136de20020f93904b99080083e4e011bde20020f937,
  0x13cfe20020f94004982080083e4fc1079220020f93e03ed0080083e4f40f2fe20020f93c,
  0x100fc20020f94503e30080083e5100be0820020f94302c6f880083e508115ac20020f941,
  0xb1b020020f94a04b7b880083e5241198420020f94803c65080083e51c0e4c420020f946,
  0xfa5e20020f94f03787880083e5380dbb420020f94d03509880083e5300b8c420020f94b,
  0xa3b820020f95404045880083e54c0a5a420020f95204b25880083e5440fc6e20020f950,
  0x12cea20020f959041f8880083e5600fb7c20020f95703d0e080083e5580a39820020f955,
  0x9c7220020f95e0457f080083e5740d40420020f95c03167880083e56c1170020020f95a,
  0xa62e20020f96303ab8080083e5880e70e20020f96103009080083e5800b7ce20020f95f,
  0xd99820020f96802706880083e59c0bf5220020f966027df880083e5940f1f620020f964,
  0xee0220020f96d02c2f080083e5b00a78620020f96b03e91080083e5a80caf020020f969,
  0xd91020020f972047d8080083e5c40d77420020f97004555080083e5bc1089220020f96e,
  0x9d5c20020f97703ab2880083e5d80c74020020f97504172880083e5d00c5fc20020f973,
  0x104de20020f97c03e73880083e5ec0d10220020f97a028e4880083e5e40a2d220020f978,
  0xb2e620020f98102a21080083e6000a5ea20020f97f048e7880083e5f8115a420020f97d,
  0x12b5a20020f98603c95080083e6140dffc20020f984032e2880083e60c0bdd820020f982,
  0xcd8c20020f98b0294d880083e62813d9c20020f98904f4b880083e620134d420020f987,
  0xc40020020f990030c8080083e63c0bce820020f98e047b1080083e6340d6ee20020f98c,
  0xf39420020f99503a44880083e6500e29220020f99303791880083e6480c93420020f991,
  0x1204620020f99a04277080083e66411e4c20020f99804037880083e65c0fbe820020f996,
  0xe19020020f99f02a5e880083e6780a54620020f99d0290b880083e6701269420020f99b,
  0xc6f620020f9a402ffa880083e68c0bd9220020f9a204555080083e6841118420020f9a0,
  0xadf220020f9a902772080083e6a00e6ea20020f9a703e1f080083e6980d75c20020f9a5,
  0xe8d220020f9ae039d9080083e6b40c03820020f9ac02edd080083e6ac0b7ce20020f9aa,
  0x12e9020020f9b304b7b080083e6c81246820020f9b104023080083e6c00ff3420020f9af,
  0x12d7020020f9b8048da080083e6dc0f35c20020f9b6027c5880083e6d41303020020f9b4,
  0xb87e20020f9bd02df7080083e6f00a1b420020f9bb02743080083e6e80c1c220020f9b9,
  0x109f820020f9c203b21080083e7040e39c20020f9c003501080083e6fc0cb3220020f9be,
  0xa51220020f9c704b17080083e7180cd1020020f9c504fc6880083e710120f820020f9c3,
  0xe81220020f9cc0374e080083e72c0da8220020f9ca033f9880083e7240cef620020f9c8,
  0xa2da20020f9d104c2f080083e7400fa2020020f9cf03c35880083e7380eab220020f9cd,
  0xdbd420020f9d602e8c880083e7540a05620020f9d404b3c080083e74c0c45c20020f9d2,
  0xe70e20020f9db0340b880083e7680c28820020f9d902fc5880083e76011e5420020f9d7,
  0xcc2620020f9e002e32880083e77c0a81e20020f9de02914880083e77412d0c20020f9dc,
  0xebc420020f9e503a03080083e7900d9ca20020f9e303454080083e7880ce9c20020f9e1,
  0x12dc420020f9ea048e6080083e7a4111c220020f9e804467880083e79c0fef220020f9e6,
  0xe93020020f9ef038e8080083e7b80a83a20020f9ed0375d080083e7b00a67e20020f9eb,
  0xcf2e20020f9f404f4f880083e7cc138ae20020f9f204b51880083e7c410bf420020f9f0,
  0xf92420020f9f903d90080083e7e00f59620020f9f7040f4080083e7d80db9620020f9f5,
  0x1066c20020f9fe02760080083e7f4116b020020f9fc0384c880083e7ec0e58020020f9fa,
  0xf9ac20020fa0303169880083e8080bd4c20020fa0102903880083e8000a47420020f9ff,
  0x1109820020fa080479d880083e81c0cd6820020fa060368f080083e8140b70a20020fa04,
  0xab8020020fa0d028a0080083e8300bda620020fa0b044c5880083e82812c9a20020fa09,
  0xed9420020fa1703995080083e8580a3bc20020fa150333a080083e8480b0b420020fa10,
  0x12eac20020fa1c03cc7880083e86c0f2ca20020fa1a03caf080083e8640f27820020fa18,
  0x1207020020fa250457c080083e88810c2420020fa2003fde880083e8780f97c20020fa1d,
  0x13b6820020fa2d04c94080083e8b0131f820020fa2b04c77880083e8a8121fa20020fa26,
  0xa29a20020fa3202873880083e8c409f5c20020fa3004b5b880083e8bc121bc20020fa2e,
  0xac0c20020fa3702ace880083e8d80a6a220020fa3502972080083e8d00a59220020fa33,
  0xb8dc20020fa3c02e32080083e8ec0b15020020fa3a02c20080083e8e40acd020020fa38,
  0xca9e20020fa41030f9080083e9000c31c20020fa3f030b4080083e8f80c12820020fa3d,
  0xdc3420020fa46036bb880083e9140d10a20020fa4403348880083e90c0cbc420020fa42,
  0xf12220020fa4b03a11080083e9280e45620020fa49038b7080083e9200de4420020fa47,
  0xf2ac20020fa5003ca8080083e93c0f29020020fa4e03ca4880083e9340f27c20020fa4c,
  0xf78020020fa5603d40880083e9540f48020020fa5403cc6a80103e9480f2ba20020fa51,
  0x1000a20020fa5b03fb9080083e9680fc8220020fa5903f04880083e9600fbe820020fa57,
  0x1132c20020fa6104488080083e980108ae20020fa5f0413c880103e974103da20020fa5c,
  0x11f6c20020fa6604684080083e994119a620020fa640459c880083e98c1160220020fa62,
  0xc0ea20020fa6b04c1d880083e9a812ffe20020fa6904b71880083e9a01207020020fa67,
  0xa2d020020fa72028da880083e9c409c4c20020fa700410c080083e9b4485dc20020fa6c,
  0xa5f420020fa7702963880083e9d80a30020020fa75028a2880083e9d009f0020020fa73,
  0xb0b420020fa7c02af1080083e9ec0ab3220020fa7a02aaa880083e9e40ab3a20020fa78,
  0xb65020020fa8102d31080083ea000b2a820020fa7f02ca2080083e9f80b16620020fa7d,
  0xc1b020020fa8602fd6880083ea140bed220020fa8402f6c880083ea0c0bda420020fa82,
  0xc3e420020fa8b030b0080083ea280c31c20020fa8903084080083ea200c29c20020fa87,
  0xcaac20020fa9003229080083ea3c0c83820020fa8e031e2080083ea340c46820020fa8c,
  0xd6f220020fa95033ab080083ea500ce3620020fa930338b880083ea480cce820020fa91,
  0xde4420020fa9a03765880083ea640ddb620020fa98036a0880083ea5c0d77420020fa96,
  0xe55e20020fa9f0391a880083ea780ef4e20020fa9d038b7080083ea700e03c20020fa9b,
  0xec3b20040faa403a9d880083ea8c0ea0c20020faa203a38880083ea840e65420020faa0,
  0xee8020020faaa03ba5080083eaa40ede820020faa803b6d880083ea9c0ed9420020faa6,
  0xfab620020faaf03e3d880083eab80f78020020faad03d58880083eab00f19820020faab,
  0x107de20020fab4041a9080083eacc1000a20020fab203f9f080083eac40fbe820020fab0,
  0x1157e20020fab9044cb080083eae01130c20020fab7044a0880083ead810ef220020fab5,
  0x115da20020fabe0457f080083eaf41160220020fabc04565880083eaec115f020020faba,
  0x120e420020fac30479c080083eb0811a1020020fac1045c5080083eb001167220020fabf,
  0x12eac20020fac804b71880083eb1c12cf820020fac60493b080083eb141233220020fac4,
  0x1362420020facd04c1d880083eb301301620020facb04bff880083eb2812fb620020fac9,
  0x773a20020fad2119ea880083eb444508820020fad011425080083eb3c13f3820020face,
  0x4fda620020fad712e68080083eb584a49220020fad50201c880083eb500803020020fad3,
  0xba6a0040fb22002e8080083ec8400bc420020fb2004fc7080083eb6413e8620020fad8,
  0xcf620080fb5200338880103ed400005620020fb29002f4480103ec9c00bb6a0060fb24,
  0xcf220080fb660033f880203ed8800cf420080fb5e00340080203ed6800cfc20080fb56,
  0xd0c20080fb7a00341880203edd800d0820080fb7200353080203edb800d4820080fb6a,
  0xd1020040fb8800347080103ee1800d1820040fb8400346880103ee0800d0e20080fb7e,
  0xd6620080fb9600357880203ee4800d5220080fb8e00348880103ee3000d3020040fb8a,
  0xd8220080fba600360080103ee9000d7620080fba00035d080103ee7800d6220080fb9a,
  0xd8e20040fbd700356880203ef4c00da620040fbb000369080103eeb800d7c20080fbaa,
  0xd9220040fbe200362880103ef8000d9620040fbde00364080103ef6c00d8c20040fbd9,
  0x600220020fe1100016080083f84000d9820080fbfc00324880103efa000da020080fbe4,
  0x402820020fe310180b280103f85c0007e20020fe1600010880083f85400074a0040fe13,
  0x6028a0040fe390003dc80103f8dc00050a0040fe350002f880103f8cc0402620020fe32,
  0xb720040fe4701806280203f90406010a0040fe3f01805280103f8f406020a0040fe3b,
  0x7420020fe550001d880083f9500600220020fe5100016080083f940000be20060fe4d,
  0xf720040fe5b00014280103f9640402820020fe5800010880083f95c0007e20020fe56,
  0x5a20020fe6300015280103f9840004c20020fe6000011880083f97c06028a0040fe5d,
  0x8020020fe6b00012280103f9a4000b820020fe680001e880083f9980007920040fe64,
  0xc50c0060fe9100313300183fa3000c4cc0060fe8b00311300283fa0400c42c00c0fe80,
  0xc5a20080fea100316080203fa7400c5620080fe9900315080103fa5c00c50c0060fe92,
  0xc6820080feb500319880103facc00c5ec00a0feaa00317b00283faa400c5c20080fea5,
  0xc7220080fec90031c080203fb1400c6e20080fec10031b080203faf400c6a20080feb9,
  0xc8820080fedd00321880203fb6400c8420080fed500320880203fb4400c7420080fecd,
  0xc90c0060feee00324300183fbb400c8e20080fee900323080203fb9400c8a20080fee1,
  0x530aa0040ff5f0002da81203fcec000c2a0340ff2100010a81003fc0400c9420040fef3,
  0x61e420020ff660187d880083fd940600220020ff6401806280103fd880005c20020ff61,
  0x6145200a0ff710187e080083fdc00618620020ff6f01871c80183fdb006143200a0ff67,
  0x61aa20020ff8c01869080083fe2c06196a00a0ff8601862480203fe080615720180ff76,
  0x61d2a00a0ff9701872480183fe50061bca00a0ff8f0186d880083fe38061b020020ff8d,
  0x235540040ffa300880280103fe8406132a0040ff9e01879880083fe74061de20020ff9c,
  0x223420020ffb0008d8280303fea802206a0060ffa7008d6880083fe980220420020ffa4,
  0x22cea00c0ffca008b0a80303ff0802212a0140ffb500890880083fed00220ca0060ffb1,
  0x14c20020ffe400056080083ff8800144a0040ffe0008b9a80183ff68022daa00c0ffd2,
  0x4b4020020ffed010c8280203ffa404a0420020ffe801054880083ff980014a20020ffe5,
  0x20b31400a10571082cbd0098415c0209b0a048104b008214281404100004b9620020ffee,
  0x1cc200210783001682801041e0420b78200210595082da500184163420b49400e1057d,
  0x54820021078a055b30800841e2000547400410787001298800841e1400532200210784,
  0x5522002107900012f0800841e3c004b020021078e00ec88800841e34004aca0041078b,
  0x24e2002107950014db001041e50004c0200210793001310800841e48004c8200210791,
  0x3be0820021079c001360800841e6c00554a00410799001420800841e60004ce200210797,
  0x1f02002107a2001470800841e803be0ac0041079f001370800841e7814f1c20021079d,
  0x4faa004107a80ef840800841e9c004f42002107a6000388800841e94004eca004107a3,
  0x5102002107af055b38800841eb40054cc004107ac001540800841eac005002002107aa,
  0x380a006107b60014c0800841ed400542a004107b3001478800841ec8058e22002107b0,
  0x23180a040118a0086b8280b04354021980a06610c800ef8f0800841ee83be142002107b9,
  0xc2a0341d4000001828050733c0000c2a0341ccd60b75da80c85ba802dcc0a04016e40,
  0xd540121d45700031500187513c000c3401a1d44e00030a80d0750d0000c2a0341d41a,
  0xce20021d4a200032080087527c000c340041d49c00030a80d075208000c2a0341d468,
  0xcd40161d4bb00030a8020752d8000e6a0101d4ae0003728020752a4000d4a0041d4a5,
  0xc2a0041d50400030a80d0753a8000c2a0341d4d000038d002875318000d340061d4be,
  0xc2a0041d53800030a80d075478000e6a00e1d516000352804075434000c8a0081d507,
  0xc2a0341d55200039a803875528000de20021d54600034a802875500000c8a0081d53b,
  0xc2a0341d5d400030a80d0756e8000c2a0341d5a000030a80d075618000c2a0341d56c,
  0xc2a0341d65600030a80d0758f0000c2a0341d62200030a80d075820000c2a0341d5ee,
  0x762a0221d6a80011b8800875a940026220021d6a400030a80d075a28000c2a0341d670,
  0x78620041d6d3001d8a808875b080440e20021d6c1001e1a803875ae80077020021d6b9,
  0x78c20021d6df001dc4801075b740076a20021d6dc011010800875b6c00788a00c1d6d5,
  0x786a00e1d6f4001dc0800875bcc00762a0221d6e2001e00800875b840078220021d6e0,
  0x440420021d715001e22803075c3c0078620041d70d001d8a808875bf00440e20021d6fb,
  0x78020021d71b001e08800875c680078c20021d719001dc4801075c5c0076a20021d716,
  0x762a0221d736011038800875cd400786a00e1d72e001dc0800875cb400762a0221d71c,
  0x77120041d751001da8800875d400440420021d74f001e22803075d240078620041d747,
  0x77020021d767001d8a808875d580078020021d755001e08800875d500078c20021d753,
  0x788a00c1d783001e18801075e0400762a0221d770011038800875dbc00786a00e1d768,
  0x78220021d78e001e30800875e340077120041d78b001da8800875e280440420021d789,
  0x440e20021d7a9001e1a803875e880077020021d7a1001d8a808875e400078020021d78f,
  0x76a20021d7c4011010800875f0c00788a00c1d7bd001e18801075eec00762a0221d7aa,
  0x7ba20041d7ca001e00800875f240078220021d7c8001e30800875f1c0077120041d7c5,
  0x60a0141d7f6000182805075fb000060a0141d7e2000182805075f6000060a0141d7ce,
  0x89c20021e04900225c80107811c0087ca0161e03c0021d28018780e400860a0121e030,
  0x95e20021e04f002748800878138008ad20041e04c0026c880087812c14d1220021e04a,
  0x88320041e05e0021f280107817000874a0041e05a0021828048781440099e20021e050,
  0x8aa20021e0690022b08008781a00092220021e06700225280107819400888a00a1e060,
  0x3d244a0441e9000025888008781b414ca220021e06c0025588008781ac008be20021e06a,
  0xc6420021ee0600324080087b81400c5e20021ee0300316080087b80800c4ea0041ee00,
  0xc6620021ee0e00321a80207b82800c9420021ee090031b880087b82000c5a20021ee07,
  0xc6820021ee1400318880087b84c00c6a20021ee1100320b00107b84000c7220021ee0f,
  0xd7420021ee1d00337080087b87000c6d20061ee1900317480107b85c00c54a0041ee15,
  0xc8e20021ee2400316080087b88800c5020021ee2100337880087b87c00d4220021ee1e,
  0xc7220021ee2f00319880087b8b800c86a0081ee2a00325080087b8a400c5a20021ee27,
  0xc5c20021ee3700315280107b8d400c6820021ee340031a880087b8c400c82c0041ee30,
  0xc9420021ee4900316880087b91c00c5820021ee420031d080087b8ec00c6c20021ee39,
  0xc8420021ee520031a880087b94400c7220021ee4f00319880087b93800c8940041ee4b,
  0xd7420021ee5d0031d080087b96c00c6c20021ee5900317080087b95c00c6820021ee54,
  0xc5a20021ee6700323880087b99000c5820021ee6200314080087b98400cde20021ee5f,
  0xc6620021ee6e00323080087b9b400c8740041ee6a00325080087b9a400c6e20021ee68,
  0xc54a0041ee750031a080087b9d000c6a20021ee7100320b00107b9c000c7220021ee6f,
  0xc4ea0041ee8000350880087b9f800cdc20021ee7c0031b480187b9e400c5c20021ee77,
  0xc5a20021ee8700319080087ba1800c8ea0041ee8400317880087ba0c00c5820021ee82,
  0xc7220021ee8f00319880087ba3800c88a0061ee8b00325080087ba2400c6e20021ee88,
  0xc54a0041ee950031a080087ba5000c6220021ee930031a880087ba4400c82c0041ee90,
  0xc5e20021eea300316080087ba8800c5020021eea10031b480187ba6400c5d20041ee97,
  0xc9420021eea90031b880087baa000c5a20021eea700319080087ba9800c9020021eea5,
  0xc6a20021eeb100320b00107bac000c7220021eeaf00319880087bab800c88a0061eeab,
  0xc6d20061eeb900317480107badc00c54a0041eeb50031a080087bad000c6220021eeb3,
  0xc49620021f2100185a880087c808000c2a0341f13000039080087c4b0000c620021f12b,
  0xb23420021f21502746080087c8500618e20021f213029e6080087c8480b6ae20021f211,
  0xe24220021f21a03310080087c86409d4820021f21802c94880087c85c113c620021f216,
  0xcb6020021f21f028c6880087c8780bf1820021f21d02926880087c8700cb3220021f21b,
  0xb1e020021f22404654880087c88c0ea3e20021f22203ea1080087c8840a43a20021f220,
  0x9c0020021f229031aa880087c8a00c52a20021f2270378a080087c8980a87220021f225,
  0xa7e620021f22e02716880087c8b40bbcc20021f22c04825080087c8ac09c1220021f22a,
  0xf4f420021f23303cc0880087c8c80c4a620021f231046b8080087c8c00c60e20021f22f,
  0xea6620021f23803384080087c8dc0ce1220021f23603740080087c8d40a81020021f234,
  0xa7de20021f25102fcb880087c9401229a20021f23b02adb080087c8e80a4e420021f239,
  0x4024420022f8030272088008be00809c7020022f8010271e88008be00000060a0141fbf0,
  0xa0f420022f8080280108008be01c09f7620022f806027d708008be01409ec020022f804,
  0x40c7420022f80d01a4f08008be0300a19e20022f80b0287388008be0280a13220022f809,
  0x40a3820022f812028bb88008be0440a2c820022f810028aa08008be03c0a29a20022f80e,
  0xa32e20022f817102a588008be0580a31a20022f815028b388008be0500697220022f813,
  0x523be20022f81c028da88008be06c0a35820022f81a0276608008be0640a34820022f818,
  0xa48c20022f8210291d88008be080069be20022f81f0290188008be0780a3ea20022f81d,
  0xa5c820022f82702963c8010be09406a2a20022f8240293b88008be08c0a4e420022f822,
  0xa6a220022f82d029a488008be0b00a62e20022f82b02982a8010be0a40a5f420022f828,
  0x4145820022f834029bf88010be0c80a6fb20042f830029b988008be0bc0a6b420022f82e,
  0xa7d620022f839105b188008be0e00a7be20022f837029e508008be0d80e0e020022f835,
  0xa89020022f83e02a1c08008be0f40a93c20022f83c02a0308008be0ec0a7e220022f83a,
  0xaaa620022f84302a8808008be1080a9ec20022f84102a5108008be1000a8d020022f83f,
  0xab6620022f84902ad588008be1200ab3220022f84702ac208010be1140aac620022f844,
  0xace820022f84f02b2888008be1380ac0c20022f84c02b8b30010be12c0ab8420022f84a,
  0xb01a20022f85402bfa08008be14c0af9c20022f85202c7708008be1440a40e20022f850,
  0x429c820022f85902c5608008be1600b06220022f85702c1908008be1580af1620022f855,
  0xb24420022f85e02c8d08008be1740b20c20022f85c02c7b88008be16c0b1e420022f85a,
  0xb43620022f86302cf608008be18842dd420022f86110b5408008be1800b2c420022f85f,
  0x6df820022f86801b7708008be19c0b4cc20022f86602cec08008be1940b44e20022f864,
  0xb7b020022f86e02de188008be1b44339020022f86c02d9f08010be1a80b61020022f869,
  0xb80c20022f87302dff88008be1c84363020022f87102df988008be1c00b7ce20022f86f,
  0xb8dc20022f87802e3008008be1dc06f0220022f87602e1108008be1d40bea620022f874,
  0xbadc20022f87e02ea188008be1f043bc940042f87b02e4688008be1e80b98020022f879,
  0xbbfa20022f88401c1788008be20c0bbc2a0042f88102ebe08008be2000bad620022f87f,
  0x4430620022f88901c3108008be2200bcd220022f88702f1e88008be2180bc5020022f885,
  0xbd9420022f88e02f5b08008be2340bd6620022f88c02f5808008be22c070f820022f88a,
  0xbe4420042f8940410088008be24c4466220042f89102f7f08008be2405472420022f88f,
  0xbed620022f89a02fb108008be2644c3b420022f8981195c08008be25c0718e20022f896,
  0xbff220022f89f02feb88008be2780bf9a20022f89d02fcd08008be270071c620022f89b,
  0x44da820022f8a40304a08008be28c0723820022f8a201c9d08008be2840c10220022f8a0,
  0xc2f420022f8aa030a608008be2a40c29920042f8a7030a408008be2980c18e20022f8a5,
  0xc3bc20022f8af030d788008be2b80c34820022f8ad030d908008be2b00c31c20022f8ab,
  0xc4ba20022f8b40310d88008be2cc0c42020022f8b2030fb08008be2c40c3e420022f8b0,
  0xc67a20022f8b91158608008be2e00c6a020022f8b70316a08008be2d80c56220022f8b5,
  0x457e220022f8be031f208008be2f40c70620022f8bc031b408008be2ec0c5f820022f8ba,
  0xc8d220022f8c301d1708008be3080c75220022f8c1031e288008be3000c84420022f8bf,
  0xca9e20022f8c801d3608008be31c0c8ee20022f8c60324e88008be3140c8fc20022f8c4,
  0xcc9220022f8cd0337c08008be3300cbc620022f8cb1180508008be3280cad820022f8c9,
  0xa32420022f8d201d7208008be3440761020022f8d00334888008be33c0763220022f8ce,
  0x87b220022f8d70405688008be3580cd3820022f8d50338008008be3500a32a20022f8d3,
  0xcea620022f8dc033af08008be36c0ce4220022f8da0338d88008be3640ce2e20022f8d8,
  0xd0a420022f8e1033c288008be3800cff420022f8df01da488008be3784678620022f8dd,
  0xd22820022f8e60340f88008be3940d11c20022f8e411a3688008be38c0d10a20022f8e2,
  0xd55020022f8eb034f508008be3a80d34620022f8e9034a108008be3a00773a20022f8e7,
  0x4714e20022f8f00359088008be3bc0783020022f8ee0356d88008be3b446d4620022f8ec,
  0xd774a0042f8f5035cf88008be3d00d6e420022f8f301e2708008be3c80d6a820022f8f1,
  0x4797820022f8fb0362708008be3e8475f420022f8f910e8588008be3e04751a20022f8f7,
  0xda7c20022f9000368b08008be3fc0d8ce20022f8fe0366688008be3f40d97e20022f8fc,
  0xdb0a20022f905036bc08008be4100dad220022f903036a088008be4080daee20022f901,
  0x7a6620022f90a0373708008be4240dc5e20022f9080369a08008be41c47a3c20022f906,
  0xdedc20022f90f036fc88008be43847da220022f90d0376388008be4300dd9620022f90b,
  0xe03c20022f9140381c88008be44c0df8c20022f91211fc708008be44447ebc20022f910,
  0xe0ee20022f9190383e88008be4600e09420022f91701ecb08008be4580e03620022f915,
  0xe33820022f91e1213188008be4740e28a20022f91c1029288008be46c0e15a20022f91a,
  0x48c1020022f9230392808008be4880e46a20022f9210391408008be4804875620022f91f,
  0xe6f420022f9281240a08008be49c48e6a20022f9260394a88008be4940e50020022f924,
  0xe88e20022f92e01f5c08010be4b00e74a20022f92b01f5608008be4a80e71620022f929,
  0x7e3620022f93303a6508008be4c80e90a20022f93103a3888008be4c00e8b820022f92f,
  0xeae020022f9381264908008be4dc0ea7c20022f9361261b08008be4d40ea4820022f934,
  0x4a08820022f93d127dc08008be4f049f4220022f93b03b0808008be4e84433e20022f939,
  0x4a1e420022f9421287988008be5040ede820022f9400200408008be4fc07ff820022f93e,
  0xee9420022f94803b8f88008be51c0ee3ca0042f9451289988008be5104a23220022f943,
  0x4a83a20022f94d0204b08008be5300808c20022f94b03bc588008be5280807220022f949,
  0x4ac4c20022f9520207188008be5440f19820022f95003c4608008be53c0f09c20022f94e,
  0xf3d620022f95703cc788008be5584ad8a20022f95512b4d08008be5500f2ac20022f953,
  0x4b2f820022f95c03d2788008be56c0f49420022f95a03d2008008be5640825e20022f958,
  0xf78c20022f96212dd588008be5840840420022f96003d7708008be57c4b54e20042f95d,
  0x854020022f96703e6908008be5984b90020022f9650211388008be5900f79220022f963,
  0xfac620022f96c12fc308008be5ac0fa0020022f96a03e7188008be5a40f9d020022f968,
  0x866820022f97103f2288008be5c00fc0420022f96f03ee388008be5b80860220022f96d,
  0xfef420022f9761316c88008be5d4086b220022f9741312388008be5cc4c45020022f972,
  0x4c9b420022f97b0400288008be5e80fff420022f97903fca88008be5e04c67c20022f977,
  0x466be20022f9800403808008be5fc4cb5020022f97e0403008008be5f44ca4620022f97c,
  0x1027c20022f9850220588008be6101020620022f9830405908008be608087aa20022f981,
  0x4673820022f98a119c988008be6244cf6a20022f988133d388008be61c0b56a20022f986,
  0x1052220022f98f0223588008be63811f3c20022f98d0410208008be6301040220022f98b,
  0x1057a20022f99504158c8010be64c0a56620022f9920414e88008be6441051620022f990,
  0x106c620022f99a0418e88008be664105ca20022f9981359e08008be65c105cc20022f996,
  0x108ae20022f99f041f388008be6781077a20022f99d0419188008be6701075a20022f99b,
  0x4dad620022f9a51361b08008be690107b820022f9a3041e548010be684106a620022f9a0,
  0x4e79420022f9ab0428b08008be6a8109e320042f9a80229588008be69c4d9aa20022f9a6,
  0x4df6220022f9b0022b088008be6bc08aba20022f9ae1379608008be6b410ac820022f9ac,
  0x10ccf20042f9b50432e08008be6d010ca020022f9b3022b588008be6c84e1a420022f9b1,
  0x10ef220022f9bb0437108008be6e810e1c20022f9b90434408008be6e010d5220022f9b7,
  0x10fc220022f9c0022eb88008be6fc10f0c20022f9be043b588008be6f410e5020022f9bc,
  0x4ecce20022f9c50443188008be710110c020022f9c3022fc88008be7081100220022f9c1,
  0x697620022f9ca0447d08008be72408c6a20022f9c80446f08008be71c111ae20022f9c6,
  0x1154020022f9cf0236388008be73808d7c20022f9cd13cb308008be7304f15c20022f9cb,
  0x1195620022f9d413e5408008be74c118aa20022f9d2045c508008be744115da20022f9d0,
  0x4100820022f9d913f9788008be76011aee20022f9d70468d88008be7581198220022f9d5,
  0x11da820022f9de1046f08008be77411be020022f9dc046de08008be76c11b9620022f9da,
  0x121e220022f9e30484a08008be78850bda20022f9e1142e908008be78011e7020022f9df,
  0x125aea0042f9e80491c08008be79c1223620022f9e61439708008be7941222220022f9e4,
  0x12b1620022f9ee145fd08008be7b41282a20022f9ec049fc88008be7ac124f820022f9ea,
  0x12d8620022f9f3024f308008be7c851aee20022f9f104adb88008be7c00932a20022f9ef,
  0x94dc20022f9f81490d08008be7dc5228a20022f9f604b9188008be7d40bb6420022f9f4,
  0x5292c20022f9fd0255908008be7f05281420022f9fb04bf008008be7e8094ec20022f9f9,
  0x966620022fa0304c7108008be80852b6c20022fa0104c1488008be8001301620042f9fe,
  0x979c20022fa0804cff08008be81c1338420022fa0604cd388008be8141325220022fa04,
  0x999c20022fa0d04e7e88008be8301388020022fa0b04d8908008be8285366020022fa09,
  0x5420a20022fa120267c08008be8445419c20022fa1004eb388008be83c099da20022fa0e,
  0x13df220022fa17026ab08008be85813d7620022fa151514888008be8505441c20022fa13,
  0x13e7620022fa1c04f8b08008be86c13e1e20022fa1a04f8288008be86413dfc20022fa18,
  0x54c0020022fa1d]

/-- The code points that a domain name replaces by several others. -/
def domainSequenceWords : List Nat := [
  0x4000b80018080008000004000b40018200008000004000af0018400008000004000a8,
  0x6000be0001900811000062000030005e8000d00408800031000018002f00064e00020,
  0xd200002000998001a8000d20000200099000c1c000d200002000980000d00408800033,
  0x3880006e0015e00000800292000b70003600000800280000b7000360000080027e0006a,
  0xd800002000e38005f8000c800002000e30005f8000c800002000e28005f8000c800002,
  0x3960006a00037000008003940006a00036000008003920006a00036000008003900006a,
  0xc800002000f90001e8000c800002000f88001a8000dc00002000e60001a8000dc00002,
  0x5b40030700010000008005b20030600010000008005b00007a00032000008003e60007a,
  0x40000020016e800c0c00040000020016e000ca000040000020016d800c280004000002,
  0x70a003010001000000800708003b900010000008006f40030100184000008006880030b,
  0x4006760033a00189c0000400675002c1001594000040058700180800c200004000003,
  0x1278009150000100256000ce80064a000010019e000ce8006c7000010019dc00ce800648,
  0x40095c0049e002470000040095b0049e00245c000040095a0049e0024580000400959,
  0x12780092f0000100257c012780092b000010025780127800922000010025740127800921,
  0x400a33004de0026bc00004009df004de00268800004009dd004de00268400004009dc,
  0x147800a17000010029680147800a16000010029640147800a38000010028d80147800a32,
  0x400b5d0059e002c840000400b5c0051e0028ac0000400a5e0051e0028700000400a5b,
  0x1d3200eab00001003b7001d6400ecd00001003acc01c6400e4d000010038cc0167800b22,
  0x400f52007db803d300000400f4d007db803d080000400f4300750803aac0000400edd,
  0x1f6a00f4000001003da401f6e00f5b00001003d7001f6e00f5600001003d5c01f6e00f51,
  0x600f77007c0003ec80000400f76007ba003dc40000400f75007b9003dc40000400f73,
  0x400f81007c0003dc401f6600003007bc803e0001f6600002007bc003e0001ee200fb2,
  0x1f6e00fa100001003e8801f6e00f9c00001003e7401f6e00f9200001003e4c01f0000f71,
  0x401e9a007da803e400000400fb9007db803eac0000400fac007db803e980000400fa7,
  0x77201f0200001007e080077201f0100001007e040077201f0000001007e000057c00061,
  0x401f86001dc807c140000401f85001dc807c100000401f84001dc807c0c0000401f83,
  0x77201f0100001007e240077201f0000001007e200077201f0700001007e1c0077201f06,
  0x401f8d001dc807c100000401f8c001dc807c0c0000401f8b001dc807c080000401f8a,
  0x77201f2000001007e400077201f0700001007e3c0077201f0600001007e380077201f05,
  0x401f94001dc807c8c0000401f93001dc807c880000401f92001dc807c840000401f91,
  0x77201f2700001007e5c0077201f2600001007e580077201f2500001007e540077201f24,
  0x401f9b001dc807c880000401f9a001dc807c840000401f99001dc807c800000401f98,
  0x77201f2600001007e780077201f2500001007e740077201f2400001007e700077201f23,
  0x401fa2001dc807d840000401fa1001dc807d800000401fa0001dc807c9c0000401f9f,
  0x77201f6500001007e940077201f6400001007e900077201f6300001007e8c0077201f62,
  0x401fa9001dc807d800000401fa8001dc807d9c0000401fa7001dc807d980000401fa6,
  0x77201f6400001007eb00077201f6300001007eac0077201f6200001007ea80077201f61,
  0x401fb2001dc807d9c0000401faf001dc807d980000401fae001dc807d940000401fad,
  0x77201fb600001007edc00772003ac00001007ed000772003b100001007ecc0077201f70,
  0x401fc0001898000800000401fbf001898000800000401fbd001dc800ec40000401fbc,
  0x76e0000200fe1800ee403ee80000200fe1000d08006100002000001807f040068400020,
  0x3f9a003b9001db80000803f98003b900fe300000803f8e003b9001d700000803f88003b9,
  0x684003130001000000c03f9e00301001898000800000601fce00180000c4c0004000003,
  0x6280002000001807f7c00602003140001000000c03fbc003000018a0000800000601fdd,
  0x3ef80000200ff9000c04006100002000001807fb800600003080001000000c03fda00342,
  0x3ff8003b900ffb00000803fee003b9001e700000803fe8003b9001e480000803fe6003b9,
  0x40000020100b800c50000400000200fff000c04000400000200ffe800ee40079200002,
  0x406a02035000010080d804064020320101900000c0406802032010190000080406600333,
  0x408e00305000100000080407c000210001080000804078020350101a8080d40000602037,
  0x4064000040102b8000fc0004200002010248000840007e00002010240000fc0007e00002,
  0x602101000318000bc000c200003010800001cc000e400002010540080c80406402032,
  0x602106000378000bc000c6000030108280018c0016000002010818001cc0005e00061,
  0xe600002010900001bc000dc000020108b0001980016000002010848001d40005e00063,
  0xc200066000018084ec000da0007400001008488000d8000650003a00000c042420006d,
  0x6200004010a90000e40408800031000018085440006e020440001880000c042a000078,
  0x42aa00033010220000c80000602154000198081100006200003010a98000c00006202044,
  0x6a020440001980000c042ae00035010220000c800006021560001a8081100006200003,
  0x408800035000018085680006c020440001880000c042b200035010220000d00000602158,
  0x6a00003010ae8000e004088000330000180857000070020440001880000c042b600036,
  0xd200002010b08081100006200002010af8000e00408800037000018085780007002044,
  0xd20007600001008594000ec000690000100858c000d2000690003480000c042c400069,
  0xd200002010b40001a4000d2000690003b000010042ce00069000348001d80000602166,
  0xd200069000010085c4000d2000690003c00000c042d6000690003c000008042d400078,
  0x42ec000690003b000008042ea0007600034800008042e600069000348001a40000602172,
  0xf000069000010085e0000d200069000348001d80000802177000348001a4000ec00003,
  0x66020440001800000c0431200069000348001e0000060217b000348001e0000040217a,
  0x44600222e011170000080445e0222b011158088ac000060222d011158088ac000040222c,
  0x40246b000188000c4000040246a000180000c40000402469011170088b80445c00003,
  0x6a00031000010091b80006800031000010091b40006600031000010091b00006400031,
  0x4024720001c0000c400004024710001b8000c400004024700001b0000c4000040246f,
  0x50000030123a8000a40006200028000018091d00006000032000010091cc0007200031,
  0x602478000148000d000050000030123b8000a40006600028000018091d80005200032,
  0x48f6000290001b8000a0000060247a000148000d800050000030123c8000a40006a00028,
  0x600003100014000010048fa000290001c8000a0000060247c000148000e00005000003,
  0x490000029000190000c400050000040123f8000a4000620003100014000010048fc00029,
  0x5000004012410000a40006800031000140000100490200029000198000c40005000004,
  0x6e000310001400001004908000290001b0000c40005000004012418000a40006a00031,
  0x490e000290001c8000c40005000004012430000a40007000031000140000100490a00029,
  0xc4000280000180927400052000610001400000c0493800029000180000c80005000004,
  0x5000003012500000a4000c8000280000180927c00052000630001400000c0493c00029,
  0x6024a30001480019c0005000003012510000a4000cc00028000018092840005200065,
  0x494c00029000350000a000006024a5000148001a40005000003012520000a4000d000028,
  0x520006d0001400000c0495000029000360000a000006024a7000148001ac0005000003,
  0xe000028000018092ac000520006f0001400000c0495400029000370000a000006024a9,
  0x5000003012570000a4000e400028000018092b400052000710001400000c0495800029,
  0x6024b1000148001d40005000003012580000a4000e800028000018092bc0005200073,
  0x4968000290003c0000a000006024b3000148001dc0005000003012590000a4000ec00028,
  0x44560222b0111580001005418000290003d0000a000006024b5000148001e40005000003,
  0x7a0003d0000180a9d80007a0003d0000100a9d40007a0003a0001d00000c054e80222b,
  0x613e0309a0001000000806138030990001000000806136003380156e800008055b80003d,
  0x6032010001480440000050000030190000c32006166000020187f80c2280611000002,
  0x640800029008828000a000006032030001480440c0005000003019010000a40220400028,
  0x52011090001400000c0640c00029008838000a00000603205000148044180005000003,
  0x221c000280000180c824000520110c0001400000c0641000029008858000a00000603207,
  0x5000003019060000a402220000280000180c82c000520110f0001400000c0641400029,
  0x60320f0001482b0000005000003019070000a402224000280000180c8340005201111,
  0x64240002905bbe0000a000006032110001482cb900005000003019080000a41613000028,
  0x520c0ac0001400000c064280002905e0a0000a000006032130001482e7200005000003,
  0x19850000280000180c85c000520c7900001400000c0642c00029062a20000a00000603215,
  0x50000030190d0000a41a180000280000180c864000520ce740001400000c0643000029,
  0x80321d000148323f000050000030190e0000a41aab0000280000180c86c000520d30c,
  0x9c00000280000180c880000520d6c4063120000a0000080321e0001483201018c4800028,
  0x5000003019118000a409c12000280000180c8880005204e8c0001400000c0644200029,
  0x603226000148145b40005000003019128000a409d28000280000180c89000052056db,
  0x6452000290272e8000a00000603228000148145ac0005000003019138000a409c0600028,
  0x520706b0001400000c0645600029033840000a0000060322a00014814d040005000003,
  0x123a2000280000180c8b800052067280001400000c0645a000290361a0000a0000060322c,
  0x5000003019188000a40cbca000280000180c8c0000520571f0001400000c0645e00029,
  0x6032340001481e4f80005000003019198000a40ce12000280000180c8c8000520682a,
  0x646e00029046508000a000006032360001481c9e400050000030191a8000a40a81a00028,
  0x5204ee30001400000c06472000290295a0000a000006032380001481e5740005000003,
  0xedc6000280000180c8f00005205b660001400000c064760002902a3e0000a0000060323a,
  0x50000030191f8000a41198e000280000180c8f80005204f010001400000c0647a00029,
  0x60324200014813c440005000003019208000a40f2da000280000180c9000005205354,
  0x64a2000650003a0001c00000603250000148207cc0005000003019218000a4103d400028,
  0x64000020192a0000cc0006400002019298000c80006400002019290000c40006400002,
  0x64b00003700019000008064ae0003600019000008064ac0003500019000008064aa00034,
  0x66000020192d8000c000066000020192d0000e400064000020192c8000e00006400002,
  0x64be0003400019800008064bc0003300019800008064ba0003200019800008064b800031,
  0x660000201958831d60191f8000020193e82b38019870000020193e0000d40006600002,
  0x656a00039000198000080656800038000198000080656600037000198000080656400036,
  0x68000020195c0000c800068000020195b8000c400068000020195b0000c00006800002,
  0x6578000360001a00000806576000350001a00000806574000340001a0000080657200033,
  0x6a000020195f8000e400068000020195f0000e000068000020195e8000dc0006800002,
  0x658606708000198000080658406708000190000080658206708000188000080658000030,
  0x6e0000201963019c200006c0000201962819c200006a0000201962019c200006800002,
  0xce10000300001880000c06592067080001c80000806590067080001c0000080658e06708,
  0xce000680000100cb300ce10000320001880000c0659606708000188000c400006032ca,
  0xc8000740003600000c0659e00076000328000080659c000670003900019400006032cd,
  0x61d6030a20000200cc0406190030fc0186880c288000080330002a46013b9000004032ff,
  0x6608030eb0187e00c28800006033030185100c368061e6030a20000200cc0806142030d5,
  0x6152030a60000180cc1806182030f30185200000c0660a030b00187980c32c0614800004,
  0x61f8030ab0187e00c2a000008033080186480c3f00615e030b9018540000140660e030f3,
  0x6148030ab0000180cc2c061c0030fc0185500000c06614030b90187980c2a80000603309,
  0x661c030fc0187500c3b406156000040198680c32006186030e90185580001006618030ea,
  0x6622030ac0185700000806620030de0187980c2b0000060330f0187980c3b40615800003,
  0x61d6030ae0000200cc4c061f8030ea0187280c2b400008033120187e00c32c0615c00003,
  0x662c030e00187480c2c0061da030ad0000280cc54061da030ad0000100cc50061f8030c0,
  0x6190030c30187780c3b40615a000050198b80c3ac06190030fc0187080c3b40615a00006,
  0xa0331a0187980c320061c0030e90185800001406632030e00187480c2c00000603318,
  0x6162000030198e00c334061f8030ed0185780001006636030ed0185200c2f0061d6030af,
  0x80331f0186e80c3f006166000030198f00c328061d6030b30000180cc7406172030fc,
  0x616e000040199080c380061f8030c10187980c2d40000a033200187580c2bc06148030b5,
  0x6648030c80187980c2ec00006033230186080c3cc06176000030199100c2c0061e6030ea,
  0x4033270187580c32400004033260185b80c31c00004033250185c80c3f00618000003,
  0x619e000030199500c32006186030ce0000180cca40619c030ca0000100cca0061e6030c8,
  0x6188030fc0186880000c06658030c80187980c2ec061f8030d10000280ccac06188030a4,
  0x665e030eb0186400c2e406144030d40000280ccb8061d6030ec0187e00c340000080332d,
  0xa033320187580c34c00004033310185980c35000004033300187580c2bc061a800003,
  0x61ac000050199a00c320061f8030a30186a80001006666030c90186180c3a406142030d5,
  0x617e030af0186c0000140666c030f30187480c35400006033350187580c29c0616e030c3,
  0x61b0000030199c80c34806196030da0000180cce00617a030da0000100ccdc061d6030fc,
  0x60333c0185c00c3f0061b4000030199d80c2e4061e6030da0000180cce806188030eb,
  0x6190030eb0186e00000c0667c030c80187980c290061ba000040199e80c2fc061f8030d9,
  0x61d6030fc0186d80000c06682030c90187980c37400006033400187980c36c000040333f,
  0x61bc00003019a200c3b40615e030a40186f00001006686030f30187e00c36c0000603342,
  0xa033470185780c3ac061bc00003019a300c33c06186030de0000180cd14061d6030a4,
  0x61be00002019a480c3cc061da030af0186f80001006690030f30187380c2dc061e6030de,
  0x80334c0185600c384000040334b0187580c3f0061a0030ea0186f80001406694030ea,
  0x61f8030e40000180cd38061d6030c80187e00c384000080334d0187980c32006158030e1,
  0x61d400004019a880c3cc06144030e60000180cd40061d6030fc0187200000c0669e030c9,
  0x8033540187e00c350061d600003019a980c3a4061d400002019a900c3ac06190030c3,
  0x6164030c80187980c3b00000a033560187000c3b000004033550187580c358061f8030eb,
  0xe172000310000100cd640e172000300000100cd6006190030c30187780000c066ae030f3,
  0x40335d0385c8000d0000040335c0385c8000cc000040335b0385c8000c8000040335a,
  0xe172000380000100cd800e172000370000100cd7c0e172000360000100cd780e17200035,
  0xe172000310001880000c066c6070b9000180000c400006033620385c8000e40000403361,
  0x68000310000180cd980e172000330001880000c066ca070b9000190000c40000603364,
  0x6200003019b481c2e40006c000310000180cda00e172000350001880000c066ce070b9,
  0x60336c0385c8000e40006200003019b581c2e400070000310000180cda80e17200037,
  0x66de070b9000190000c8000060336e0385c8000c40006400003019b681c2e40006000032,
  0xc2000700003400000c066e2070b90001a0000c800006033700385c8000cc0006400003,
  0x66ea000720003080018800006033740003a8001840000403373000308001900000403372,
  0xc800003019bc0001b4000c800002019bb80018c000e000002019bb0001d8000de00002,
  0xbce600002019bd8001d4000d200002019bd0000cc000da000640000180cde4000640006d,
  0x66fe06cbb03307000008066fc06b6302c93800008066fa0548c03316800008066f806210,
  0x67040006100037000008067020006100038000008067000793e0278d017c3c0d05400004,
  0xd600002019c2800184000d600002019c2000184000da00002019c18001840077800002,
  0xd8000610003180000c0671000062000338000080670e00062000368000080670c00062,
  0xcc0006e0000100ce2c000cc000700000100ce28000d800061000318001ac0000803389,
  0x40338f000338001b4000040338e00033800ef0000040338d00033000ef0000040338c,
  0xda00003019c90001e8000d00006b0000180ce44000f4000680000100ce40000ce0006b,
  0x4033950003d0001a0000e800003019ca0001e8000d0000670000180ce4c000f400068,
  0xd80006b0000100ce60000d8000640000100ce5c000d80006d0000100ce58000d8003bc,
  0x40339c00036800ef0000040339b000368001b8000040339a000368001980000403399,
  0xda0006d0000180ce7c000da0006b0000100ce78000da000630000100ce74000da0006d,
  0xda0006b0000180ce88000640006d0000100ce84000640006d0003180000c0674000032,
  0xda00002019d28000cc000da000630000180ce90000660006d0003680000c0674600032,
  0xda00004019d40001cc0442a0006d0000180ce9c000660006d0003580000c0674c00033,
  0x6033ab000308001c0000d600003019d5000184000e000002019d48000c8000e602215,
  0x675c00064000308001c800006033ad000308001c0000ce00003019d6000184000e00006d,
  0x64000730110a800190000c2000720000300cebc000e60221500032000184000e400005,
  0x4033b300039800ef000004033b2000398001b800004033b1000398001c000004033b0,
  0xec003bc0000100ced8000ec0006e0000100ced4000ec000700000100ced0000e60006d,
  0x4033ba0003b0001b400004033b90003b0001ac00004033b80003b0001b400004033b7,
  0xee0006d0000100cef4000ee003bc0000100cef0000ee0006e0000100ceec000ee00070,
  0x4033c1001e48001ac00004033c00003b8001b400004033bf0003b8001ac00004033be,
  0xc8000630000100cf14000c6000630000100cf10000e2000620000100cf0c007920006d,
  0xf2000670000100cf24000c4000640000100cf20000ce0006b0110a80018c00008033c6,
  0x4033cd000370001a400004033cc000380001a000004033cb000308001a000004033ca,
  0xda0006c0000100cf40000e80006b0000100cf3c000da0006b0000100cf38000d60006b,
  0x67a80007800036000008067a600067000378001b000006033d2000370001b000004033d1,
  0x67ae0006c000378001b400006033d6000360001a4000da00003019ea800188000da00002,
  0x4033db000390001c000004033da000368001c0000e000003019ec8001a0000e000002,
  0x442a000760000180cf78000c4000770000100cf74000ec000730000100cf70000e400073,
  0xcbca000320000100cf840cbca000310000100cf80000da022150003080000c067be0006d,
  0x4033e5032f28000d400004033e4032f28000d000004033e3032f28000cc00004033e2,
  0xcbca000390000100cfa00cbca000380000100cf9c0cbca000370000100cf980cbca00036,
  0x64000310000180cfac0cbca000310001880000c067d4065e5000180000c400006033e9,
  0x6200003019f701979400068000310000180cfb40cbca000330001880000c067d8065e5,
  0x6033f1032f28000dc0006200003019f80197940006c000310000180cfbc0cbca00035,
  0x67e8065e5000180000c800006033f3032f28000e40006200003019f90197940007000031,
  0xcbca000330001900000c067ec065e5000190000c800006033f5032f28000c40006400003,
  0x6c000320000180cfe40cbca000350001900000c067f0065e50001a0000c800006033f7,
  0x6400003019fe01979400070000320000180cfec0cbca000370001900000c067f4065e5,
  0x6033ff032f28000c40006600003019ff01979400060000330000180cff40cbca00039,
  0xcc0000207d810001a4000cc0000207d80800198000cc0000207d800001b0000c200067,
  0xe60000207d828001b0000cc000660000183ec10000d2000660003300000c1f6060006c,
  0x1f62a00565002ba0000081f62800576002ba0000081f62600074000398000081f60c00074,
  0xbb20000207d8e8015b400ae80000207d8b8015d800afc0000207d8b0015ac00ae800002,
  0x1f658005c2002f48000081f656005c1002f48000081f654005b7002f90000081f63e005b4,
  0x1f65e005b7002e80000081f65c005c2002de0017a4000060fb2d002e08016f000bd200003,
  0xba40000207d990016f000ba20000207d988016f000ba00000207d980016e000ba000002,
  0x1f66c005bc002ea8000081f66a005bc002ea0000081f668005bc002e98000081f666005bc,
  0xbb40000207d9d0016f000bb20000207d9c8016f000bb00000207d9c0016f000bac00002,
  0x1f680005bc002ef0000081f67c005bc002ee0000081f678005bc002ed8000081f676005bc,
  0xbc80000207da20016f000bc60000207da18016f000bc20000207da08016f000bc000002,
  0x1f692005bc002f40000081f690005bc002f38000081f68e005bc002f30000081f68c005bc,
  0xba20000207da60016e400baa0000207da58016f000bd40000207da50016f000bd200002,
  0x1f7ba005dc002e80000081f69e005bf002f20000081f69c005bf002ed8000081f69a005bf,
  0xc4c0000207df600189c00c4c0000207df580189c00c4c0000207df50019d000d8e00002,
  0x1f7e000648003130000081f7de00648003130000081f7dc006d5003130000081f7da006d5,
  0xc4c0000207df9801b1800c4c0000207df9001b1c00c4c0000207df8801b1c00c4c00002,
  0x1f7ee006d0003130000081f7ec006c8003130000081f7ea006c8003130000081f7e8006c6,
  0xc4c0000207dfd00192400c4c0000207dfc801b4000c4c0000207dfc001b4000c4c00002,
  0x1f8040062d003130000081f8020062c003130000081f80000649003130000081f7f600649,
  0xc500000207e0280192800c4c0000207e0200192400c4c0000207e0180191400c4c00002,
  0x1f81200645003140000081f8100062e003140000081f80e0062d003140000081f80c0062c,
  0xc540000207e060018b000c540000207e0580192800c500000207e0500192400c5000002,
  0x1f82000649003150000081f81e00645003150000081f81c0062e003150000081f81a0062d,
  0xc560000207e0980191400c560000207e090018b000c560000207e0880192800c5400002,
  0x1f82e00645003160000081f82c0062d003160000081f82a0064a003158000081f82800649,
  0xc5c0000207e0d0018b000c5c0000207e0c80191400c5a0000207e0c0018b000c5a00002,
  0x1f83c0062d003198000081f83a0062c003198000081f83800645003170000081f8360062d,
  0xc6a0000207e108018b400c6a0000207e1000191400c660000207e0f8018b800c6600002,
  0x1f84a0062e0031b0000081f8480062d0031b0000081f8460062c0031b0000081f84400645,
  0xc700000207e1400191400c6e0000207e138018b400c6e0000207e1300191400c6c00002,
  0x1f8580062c0031d0000081f856006450031c8000081f8540062c0031c8000081f85200645,
  0xc820000207e178018b400c820000207e170018b000c820000207e1680191400c7400002,
  0x1f8660064a003208000081f86400649003208000081f86200645003208000081f8600062e,
  0xc840000207e1b00192400c840000207e1a80191400c840000207e1a0018b400c8400002,
  0x1f8740062d003218000081f8720062c003218000081f87000627003218000081f86e0064a,
  0xc860000207e1e80191400c860000207e1e00191000c860000207e1d8018b800c8600002,
  0x1f8820062d003220000081f8800062c003220000081f87e0064a003218000081f87c00649,
  0xc880000207e2200192400c880000207e2180191400c880000207e210018b800c8800002,
  0x1f8900062e003228000081f88e0062d003228000081f88c0062c003228000081f88a0064a,
  0xc8c0000207e2580192800c8a0000207e2500192400c8a0000207e2480191400c8a00002,
  0x1f89e00645003230000081f89c0062e003230000081f89a0062d003230000081f8980062c,
  0xc8e0000207e290018b000c8e0000207e2880192800c8c0000207e2800192400c8c00002,
  0x1f8ac0062c003250000081f8aa0064a003238000081f8a800649003238000081f8a600645,
  0xc940000207e2c80191400c940000207e2c0018b800c940000207e2b8018b400c9400002,
  0x1f8ba00670003188000081f8b800670003180000081f8b60064a003250000081f8b400649,
  0x1f8c00065100326800080000060fc5f00328801930000400000307e2f0019c000c9200002,
  0xca2006500001000000c1f8c40065100327800080000060fc61003288019380004000003,
  0x1f8cc00632003130000081f8ca00631003130000081f8c80067000328800080000060fc63,
  0xc4c0000207e3480192400c4c0000207e3400191800c4c0000207e3380191400c4c00002,
  0x1f8da00645003140000081f8d800632003140000081f8d600631003140000081f8d40064a,
  0xc540000207e3800192800c500000207e3780192400c500000207e3700191800c5000002,
  0x1f8e800646003150000081f8e600645003150000081f8e400632003150000081f8e200631,
  0xc560000207e3b8018c400c560000207e3b00192800c540000207e3a80192400c5400002,
  0x1f8f600649003158000081f8f400646003158000081f8f200645003158000081f8f000632,
  0xc840000207e3f00192800c820000207e3e80192400c820000207e3e00192800c5600002,
  0x1f90400644003218000081f90200627003218000081f9000064a003210000081f8fe00649,
  0xc880000207e4280192800c860000207e4200192400c860000207e4180191400c8600002,
  0x1f91200627003228000081f9100064a003220000081f90e00649003220000081f90c00645,
  0xc8c0000207e460018c800c8c0000207e458018c400c8c0000207e4500191400c8a00002,
  0x1f9200064a003230000081f91e00649003230000081f91c00646003230000081f91a00645,
  0xc940000207e498018c800c940000207e490018c400c940000207e488019c000c9200002,
  0x1f92e0064a003250000081f92c00649003250000081f92a00646003250000081f92800645,
  0xc4c0000207e4d0018b800c4c0000207e4c8018b400c4c0000207e4c0018b000c4c00002,
  0x1f93c0062d003140000081f93a0062c003140000081f93800647003130000081f93600645,
  0xc540000207e5080191c00c500000207e5000191400c500000207e4f8018b800c5000002,
  0x1f94a00645003150000081f9480062e003150000081f9460062d003150000081f9440062c,
  0xc580000207e540018b400c580000207e5380191400c560000207e5300191c00c5400002,
  0x1f9580062c003170000081f95600645003168000081f9540062c003168000081f95200645,
  0xc660000207e578018b400c660000207e570018b000c660000207e5680191400c5c00002,
  0x1f9660062e0031a8000081f9640062d0031a8000081f96200645003198000081f9600062e,
  0xc6c0000207e5b0018b400c6c0000207e5a8018b000c6c0000207e5a00191400c6a00002,
  0x1f974006450031c0000081f9720062d0031b8000081f970006450031b0000081f96e0062e,
  0xc740000207e5e8018b000c740000207e5e00191400c720000207e5d8018b000c7200002,
  0x1f9820062e003208000081f9800062d003208000081f97e0062c003208000081f97c00645,
  0xc860000207e6200191400c840000207e618018b400c840000207e6100191400c8200002,
  0x1f99000644003218000081f98e0062e003218000081f98c0062d003218000081f98a0062c,
  0xc880000207e658018b400c880000207e650018b000c880000207e6480191400c8600002,
  0x1f99e0062c003228000081f99c00647003220000081f99a00645003220000081f9980062e,
  0xc8c0000207e6900191400c8a0000207e688018b800c8a0000207e680018b400c8a00002,
  0x1f9ac00645003230000081f9aa0062e003230000081f9a80062d003230000081f9a60062c,
  0xc8e0000207e6c80191400c8e0000207e6c0018b000c8e0000207e6b80191c00c8c00002,
  0x1f9ba0062e003250000081f9b80062d003250000081f9b60062c003250000081f9b400670,
  0xc4c0000207e7000191400c4c0000207e6f80191c00c940000207e6f00191400c9400002,
  0x1f9c800645003150000081f9c600647003140000081f9c400645003140000081f9c200647,
  0xc660000207e7380191c00c560000207e7300191400c560000207e7280191c00c5400002,
  0x1f9d6006470031a0000081f9d4006450031a0000081f9d200647003198000081f9d000645,
  0xc8c0000207e7700191400c880000207e7680191400c860000207e7600191000c8600002,
  0x1f9e400647003250000081f9e200645003250000081f9e000647003230000081f9de00645,
  0xca2006500032000000c1f9e80065100327801900000060fcf30032880193800c8000003,
  0x40fcf8003248018e4000040fcf7003250018dc000040fcf6003248018dc000040fcf5,
  0xc92006330000103f3ec00c940063a0000103f3e800c920063a0000103f3e400c9400639,
  0x40fcff003250018d0000040fcfe003248018d0000040fcfd003250018cc000040fcfc,
  0xc940062c0000103f40800c920062c0000103f40400c940062d0000103f40000c920062d,
  0x40fd06003248018d4000040fd05003250018b8000040fd04003248018b8000040fd03,
  0xc58006340000103f42400c94006360000103f42000c92006360000103f41c00c9400635,
  0x40fd0d003228018d0000040fd0c003170018d0000040fd0b003168018d0000040fd0a,
  0xc62006360000103f44000c62006350000103f43c00c62006330000103f43800c6200634,
  0x40fd14003248018e4000040fd13003250018dc000040fd12003248018dc000040fd11,
  0xc92006330000103f45c00c940063a0000103f45800c920063a0000103f45400c9400639,
  0x40fd1b003250018d0000040fd1a003248018d0000040fd19003250018cc000040fd18,
  0xc940062c0000103f47800c920062c0000103f47400c940062d0000103f47000c920062d,
  0x40fd22003248018d4000040fd21003250018b8000040fd20003248018b8000040fd1f,
  0xc58006340000103f49400c94006360000103f49000c92006360000103f48c00c9400635,
  0x40fd29003228018d0000040fd28003170018d0000040fd27003168018d0000040fd26,
  0xc62006360000103f4b000c62006350000103f4ac00c62006330000103f4a800c6200634,
  0x40fd30003170018d0000040fd2f003168018d0000040fd2e003160018d0000040fd2d,
  0xc8a006370000103f4cc00c8e006340000103f4c800c8e006330000103f4c400c8a00634,
  0x40fd37003170018cc000040fd36003168018cc000040fd35003160018cc000040fd34,
  0xc8a006370000103f4e800c5c006340000103f4e400c5a006340000103f4e000c5800634,
  0x60fd500032580189c000040fd3d0032580189c000040fd3c003228018e0000040fd3b,
  0x1faa60062c003168018a8000060fd52003160018b400c540000307ea880191400c580062a,
  0xc58006450031500000c1faaa00645003170018a8000060fd54003228018b400c5400003,
  0xc8a0062c0000183f56000c5c006450031500000c1faae0062d003228018a8000060fd56,
  0xc5a0000307ead80192800c8a0062d0000183f56800c5a006450031600000c1fab20062d,
  0x60fd5e003168018b000c660000307eae8018b000c5a006330000183f57000c9200645,
  0x1fac20062d003228018cc000060fd600031680191400c660000307eaf80192400c5800633,
  0xc8a006450031980000c1fac600645003228018cc000060fd620031600191400c6600003,
  0xc8a006350000183f59800c5a0062d0031a80000c1faca0062d003168018d4000060fd64,
  0xc680000307eb480191400c5a006340000183f5a000c8a0062d0031a00000c1face00645,
  0x60fd6c0031700191400c680000307eb58018b800c8a006340000183f5a800c940062c,
  0x1fade00649003168018d8000060fd6e0032280191400c680000307eb680191400c8a00634,
  0xc5a006450031b80000c1fae200645003170018d8000060fd70003228018b800c6c00003,
  0xc8a006370000183f5d000c8a006450031b80000c1fae60062d003228018dc000060fd72,
  0xc720000307ebb80191400c8a006390000183f5d800c8a0062c0031c80000c1faea0064a,
  0x60fd7a0032280191400c740000307ebc80192400c8a006390000183f5e000c8a00645,
  0x1fafa0064500317001904000060fd7c0032480191400c740000307ebd80192800c8a0063a,
  0xc8a006450032100000c1fafe0062d00322801908000060fd7e003228018b800c8200003,
  0xc5a006440000183f60800c940062d0032200000c1fb020064500316801910000060fd80,
  0xc880000307ec28018b000c58006440000183f61000c580062c0032200000c1fb0600649,
  0x60fd880031680191400c880000307ec380191400c5c006440000183f61800c8a0062e,
  0x1fb160064500316801914000060fd8a003160018b400c8a0000307ec48018b400c8a00644,
  0xc8a0062c0032280000c1fb1a0062d00316001914000060fd8c003250018b400c8a00003,
  0xc58006450000183f64800c8a0062e0032280000c1fb1e0062c00317001914000060fd8e,
  0xc8c0000307eca80191400c8a006470000183f65000c58006450032380000c1fb260062e,
  0x60fd98003228018b000c8c0000307ecb80192400c5a006460000183f65800c8a0062d,
  0x1fb360064a00322801918000060fd9a003248018b000c8c0000307ecc80191400c5800646,
  0xc8a006450032500000c1fb3a0064500322801928000060fd9c0032480191400c8c00003,
  0xc580062a0000183f68000c940062c0031500000c1fb3e0064a003170018a0000060fd9e,
  0xc540000307ed180192400c5c0062a0000183f68800c940062e0031500000c1fb4200649,
  0x60fda60032500191400c580000307ed280192400c8a0062a0000183f69000c9400645,
  0x1fb5200649003170018cc000060fda80032480191400c580000307ed380192400c5a0062c,
  0xc940062d0031b00000c1fb560064a003168018d0000060fdaa003250018b400c6a00003,
  0xc5a0064a0000183f6b800c94006450032200000c1fb5a0064a00316001910000060fdac,
  0xc8a0000307ed880192800c8a0064a0000183f6c000c940062c0032500000c1fb5e0064a,
  0x60fdb4003250018b400c8c0000307ed980192800c8a006420000183f6c800c9400645,
  0x1fb6e0064a003228018e4000060fdb6003228018b400c880000307eda8018b400c8a00642,
  0xc940062e0032280000c1fb720062d00316001918000060fdb80032500191400c8600003,
  0xc58006440000183f6f000c8a006450032180000c1fb760064500316001910000060fdba,
  0xc5a0000307edf80192800c5a0062c0000183f6f800c5a0062c0032300000c1fb7a00645,
  0x60fdc20032500191400c820000307ee080192800c58006450000183f70000c940062c,
  0x1fb8a00645003160018e4000060fdc40032280191400c860000307ee180192800c5a00628,
  0xc940062c0032300000c1fb8e0064a003170018cc000060fdc60032280191400c6a00003,
  0xc88006270000203f7c800da4006440032100000c1fbe2006d2003220018d4000060fdf0,
  0xc5e0064500316801914000080fdf4003188018a000c86006270000203f7cc00c8e00644,
  0x80fdf70032200192000c66006310000203f7d800c8a00639003220018d4000080fdf5,
  0xc88006350000183f7e400c8a0064400319801920000080fdf80032380192800c8800639,
  0xc88006390001000191c00c88006440031380008000c92006440031a8000481fbf400649,
  0xc880062c0001000191000c580000807efd80191400c88006330032400008000c8e0064a,
  0x1fc9400305000100000081fc920064400313801b3000c620000407efe00191c00c8800627,
  0x400000207f38000c14000400000207f26000c14000400000207f25800c140004000002,
  0x1fcec0064d000100000081fce80064c000100000081fce40064b003200000081fce20064b,
  0xc800000207f3c80193c000400000207f3c00193800c800000207f3b8019380004000002,
  0x1fcfa00651000100000081fcf800650003200000081fcf600650000100000081fcf40064f,
  0xc880000207f7a80194800c800000207f3f801948000400000207f3f00194400c8000002,
  0x1fdf200623003220000081fdf000623003220000081fdee00622003220000081fdec00622,
  0xc880000207f7e00189c00c880000207f7d80189400c880000207f7d00189400c8800002,
  0x3a2c01d1650e8ac0000083a2be1d1650e8ab8000083a2bc00304000100000081ffc600627,
  0x3a2e01d1650e8ac00000c3a2c41d16f0e8b2874560000061d1610e8b70745943a2b000003,
  0x3a2ca1d1b9000010746ec3a2e41d1650e8ac00000c3a2c81d1710e8b2874560000061d163,
  0x3a2dc1d1650e8dd00000c3a37c1d16e0e8b28746e4000061d1bd0e8b28746e8000041d1bc,
  0x58000300000107c4043a2de1d1650e8dd00000c3a3801d16f0e8b28746e4000061d1bf,
  0x41f105000160000cc000041f104000160000c8000041f103000160000c4000041f102,
  0x58000370000107c42000058000360000107c41c00058000350000107c4180005800034,
  0x3e22200029000308000a0000061f110000160000e4000041f10a000160000e0000041f109,
  0x52000640001400000c3e22600029000318000a0000061f112000148001880005000003,
  0xce000280000187c45800052000660001400000c3e22a00029000328000a0000061f114,
  0x50000030f88c8000a4000d2000280000187c46000052000680001400000c3e22e00029,
  0x61f11c000148001b000050000030f88d8000a4000d6000280000187c468000520006a,
  0x3e23e00029000378000a0000061f11e000148001b800050000030f88e8000a4000da00028,
  0x52000720001400000c3e24200029000388000a0000061f120000148001c00005000003,
  0xea000280000187c49000052000740001400000c3e24600029000398000a0000061f122,
  0x50000030f8938000a4000ee000280000187c49800052000760001400000c3e24a00029,
  0x61f12a000148001e800050000030f8948000a4000f2000280000187c4a00005200078,
  0xd0000020f8a50001e8000ee000020f897000190000c6000020f89680c054000e603014,
  0x3e29c00073000398000083e29a00064000398000083e29800076000368000083e29600076,
  0x41f16b000318001b4000041f16a000318001dc000041f14f0003b0001c0000e000003,
  0x60960307b0000107c800000d4000640000107c640000e40006d0000107c5b0000c80006d,
  0x602a04e090180a00000c3e482030150339600c050000061f2400185980c2cc000041f201,
  0xe172030140000187c9100602a05b890180a00000c3e486030150274600c050000061f242,
  0x6028000030f92380c0540edae030140000187c9180602a062530180a00000c3e48a03015,
  0xc0540caae030140000187c9200602a052dd]

/-- The code points that a domain name may hold. -/
def domainValidWords : List Nat := [
  0x8000040000004000010000000800004000000e000210000012800068000008200000,
  0x1080001c000000200017000000080000c0000002000030000001000010000000400001,
  0x80000400000020000100000008000040000002000010000000800004000000200001,
  0x80000400000020000100000008000040000002000010000000800004000000200001,
  0x80000400000020000100000008000040000002000010000000800004000000200001,
  0x80000400000020000100000008000040000002000010000000800004000000200001,
  0x8000040000002000010000000800004000000400001000000080000c000000200001,
  0x80000400000020000200000008000040000002000010000000800004000000200003,
  0x80000400000020000100000008000040000002000010000000800004000000200001,
  0x80000400000020000100000008000040000002000010000000800004000000200001,
  0x80000400000020000100000008000040000002000010000000800004000000200001,
  0x80000400000020000100000008000080000002000010000000800004000000200001,
  0x80001000000040000300000008000080000002000010000000800008000000200001,
  0x8000040000002000010000000800008000000200002000000180000c000000200002,
  0x80000400000020000300000008000080000002000010000001000004000000200002,
  0x800004000000200001000000080000400000020000a0000003800004000000600002,
  0x80000400000020000100000010000040000002000010000000800004000000200001,
  0x80000400000020000100000008000040000002000010000000800004000000200001,
  0x80000400000020000100000008000040000002000030000000800010000000400001,
  0x80000400000020000100000008000040000002000010000000800004000000200001,
  0x80000400000020000100000008000040000002000010000000800004000000200001,
  0x80000400000020000100000008000040000002000010000000800004000000200001,
  0x80000400000020000100000008000040000002000010000000800004000000200001,
  0x80001000000020000100000010000080000002000020000003800004000000200001,
  0x1000018000003e0000900000308000040000002000010000000800004000000200001,
  0x8000040000002000010000010000004000001200003000000080000800000b600005,
  0x80002000000460001b00000008000480000006000030000000800004000000200001,
  0x80000400000020000100000008000040000002000010000000800004000000200001,
  0x80000400000020000100000008000040000002000010000000800004000000200001,
  0x80000400000600003300000010000080000002000010000000800008000000200003,
  0x80000400000020000100000008000040000002000010000000800004000000200001,
  0x80000400000020000100000008000040000002000010000000800004000000200001,
  0x80000400000020000100000048000040000002000010000000800004000000200001,
  0x80000400000020000100000008000040000002000010000000800004000000200001,
  0x80000400000020000100000008000040000002000010000000800004000000200001,
  0x80000400000020000100000008000040000002000010000000800004000000200001,
  0x80000400000020000100000008000040000002000010000000800004000000200001,
  0x80000400000020000100000008000040000002000010000000800008000000200001,
  0x80000400000020000100000008000040000002000010000001000004000000200001,
  0x80000400000020000100000008000040000002000010000000800004000000200001,
  0x80000400000020000100000008000040000002000010000000800004000000200001,
  0x80000400000020000100000008000040000002000010000000800004000000200001,
  0x80000400000020000100000008000040000002000010000000800004000000200001,
  0x80000400000020000100000008000040000002000010000000800004000000200001,
  0x80000400000020000100000008000040000002000010000000800004000000200001,
  0x80000400000020000100000008000040000002000010000000800004000000200001,
  0x1b8000040000006000020000001800004000005c000290000000800004000000200001,
  0x1800000400000c800004000002c000004000002c000110000003000010000003600008,
  0xe000004000001e00002000001880000800000760000e0000032800008000007600002,
  0x1200002000000ea00001000002580001c0000040000050000005800004000000200002,
  0x200000c0000002000010000003800004000002c000020000001000008000001000001,
  0xc80000800000080000800000008000200000008000020000001000008000001200002,
  0x800004000000e00001000000b0000080000004000040000003000004000000600002,
  0x180000800000040000400000028000040000002000020000001000008000000200002,
  0x180000400000120000100000018000280000022000090000000800028000000200003,
  0x180000400000140000200000028000040000004000010000003800004000002c00001,
  0x1800004000000e00007000000600000800000080000f0000000800008000000600001,
  0x28000040000004000010000003800004000002c000020000001000008000001000001,
  0x9000008000000a00007000000180001c0000006000020000001000008000001200002,
  0x8000040000004000030000002000004000000600003000000300000400000040000a,
  0x180000c000000a00004000000600000c000000600003000000100000c000000400001,
  0x1800004000001a00005000000a8000380000002000060000000800008000000800001,
  0x100001c00000080000100000018000040000012000020000008000004000002e00001,
  0x1800004000002c0000700000050000080000008000020000001000004000000600001,
  0x20000040000006000010000004800008000000a000010000005000004000002e00001,
  0x680003000000060000100000050000080000008000010000001800014000000400007,
  0xd00000800000200000400000030000040000006000010000019800004000000600001,
  0x380000800000020000100000048000040000030000030000009000004000000600001,
  0x180000800000140000600000040000040000002000010000003000010000000200003,
  0x28000040000002000010000001000094000003a00004000000380000400000640000c,
  0x800004000000a0000200000050000040000018000010000000800004000003000001,
  0x2000004000006c0000100000060000800000004000040000005000004000000e00001,
  0x180000400000180000100000020000040000008000010000002000004000000800001,
  0x20000040000008000010000008800004000000e000050000000800004000000400004,
  0x780000400000060000100000060000040000008000010000002000004000000800001,
  0x200000400001d00000200000310000040000058000300000050000094000001a00001,
  0x1080000800000080000100000148000080000008000010000000800004000000e00002,
  0x1c800004000001e0000200000020000040000002000010000003800008000000800001,
  0x14000002800000ac00006000000d00000c0000040000020000021800008000000800001,
  0x6800030000002800009000000c000024000002c00007000002c80000c000003800001,
  0x5000018000001400002000001400000800000680000c0000001000004000000600001,
  0xf800028000008c00005000001580001c00000b2000060000005000014000001600006,
  0x1600002c000000a00002000001500000c0000002000040000006000010000001800001,
  0x5800008000003a000010000020800008000007c000030000005800018000003400004,
  0x53000004000009a000140000006000008000005c000020000007000018000001400006,
  0x158000200000010000350000000800028000006600003000000780000c000007800008,
  0x11000004000001a0001c000000080004800000020000b000000080000c000005800005,
  0x80000400000020000100000008000040000002000010000000800004000008000025,
  0x80000400000020000100000008000040000002000010000000800004000000200001,
  0x80000400000020000100000008000040000002000010000000800004000000200001,
  0x80000400000020000100000008000040000002000010000000800004000000200001,
  0x80000400000020000100000008000040000002000010000000800004000000200001,
  0x80000400000020000100000008000040000002000010000000800004000000200001,
  0x80000400000020000100000008000040000002000010000000800004000000200001,
  0x80000400000020000100000008000040000002000010000000800004000000200001,
  0x80000400000020000100000008000040000002000010000000800004000000200001,
  0x80000400000020000100000008000040000002000010000000800004000000200001,
  0x80000400000020000100000008000040000002000010000000800004000000200001,
  0x80000400000020000100000008000040000002000010000000800004000000200001,
  0x80000400000040000200000028000040000002000010000000800004000000200001,
  0x80000400000020000100000008000040000002000010000000800004000000200001,
  0x80000400000020000100000008000040000002000010000000800004000000200001,
  0x80000400000020000100000008000040000002000010000000800004000000200001,
  0x80000400000020000100000008000040000002000010000000800004000000200001,
  0x80000400000020000100000008000040000002000010000000800004000000200001,
  0x80000400000020000100000008000040000002000010000000800004000000200001,
  0x80000400000020000100000008000040000002000010000000800004000000200001,
  0x480000400000020000100000008000040000002000010000000800004000000200001,
  0x400002000000100000a00000030000200000010000080000004000028000000c00008,
  0x80000400000020000100000008000040000002000010000000800004000000200008,
  0x100000c000000600009000000080003c00000020000400000010000cc000000200001,
  0x2800004000000200002000000100005400000020000e0000002000004000000600008,
  0x8000040000008000020000000800008000000600008000000080000c000001800001,
  0x108000380000032000010000004000104000000e00001000000680000c000001000001,
  0x80000c000000400005000000100000800000020000b000000080000c000000200013,
  0x200001800000020000b00000008000100000002000010000000800004000000200001,
  0x8000080000138000040000001000004000000a0000100000018000c0000000c00005,
  0x3280000c00000ce000010000290800280000001600016000007f80000800001f000002,
  0x80000400000040000300000008000040000060000300000045000008000012e00001,
  0x800014000000c0000100000010000040000002000040000000800004000000200001,
  0x80000400000020000100000008000040000002000010000000800004000000200001,
  0x80000400000020000100000008000040000002000010000000800004000000200001,
  0x80000400000020000100000008000040000002000010000000800004000000200001,
  0x80000400000020000100000008000040000002000010000000800004000000200001,
  0x80000400000020000100000008000040000002000010000000800004000000200001,
  0x80000400000020000100000008000040000002000010000000800004000000200001,
  0x80000400000020000100000008000040000002000010000000800004000000200001,
  0x80000400000020000100000008000040000002000010000000800004000000200001,
  0x800004000005a0000500000008000040000008000010000000800004000001000001,
  0x3800004000000e00009000000c000038000000200008000001c000008000000200005,
  0x3800004000000e000010000003800004000000e000010000003800004000000e00001,
  0x1980000400000020010e0000029800004000000800001000000d00008800000fc00001,
  0x2f800004000000400002000000100000800000ac00001000000280000c000000200001,
  0x8000bc0000010000480000008000028000008c0000e0000001000180000005600006,
  0x800004000000200001000000080005400002b800009000001b80000c000e11a00180,
  0x80000400000020000100000008000040000002000010000000800004000000200001,
  0x80000400000020000100000008000040000002000010000000800004000000200001,
  0x80000400000020000100000008000040000002000010000000800004000000200001,
  0x80000400000020000100000008000040000002000010000009800004000000200001,
  0x80000400000020000100000008000040000002000010000000800004000000200001,
  0x1100002000000b40000200000008000040000002000010000000800004000000200001,
  0x80000400000020000100000008000040000002000010000000800004000000200001,
  0x80000400000020000100000008000040000002000010000000800004000000600001,
  0x80000400000020000100000008000040000002000010000000800004000000200001,
  0x80000400000020000100000008000040000002000010000000800004000000200001,
  0x80000400000020000100000008000040000002000010000000800004000000200001,
  0x80000400000020000100000008000040000002000010000000800004000000200001,
  0x80000800000020000100000008000040000010000010000000800004000000200001,
  0x100000400000020000100000020000040000002000010000000800004000000200001,
  0x80000400000020000100000008000040000002000010000001800004000000200001,
  0x80000400000020000100000008000040000002000010000000800004000000200001,
  0x80000400000020000100000008000040000002000010000000800014000000200005,
  0x80000800000020000100000008000100000002000010000000800004000000200001,
  0x80000400000020000100000008000040000002000010000000800004000000200001,
  0x23000020000007000006000000500000c0000066000020000001000068000000200001,
  0x10800010000001600001000002700000c000003c0000b000003a000018000001800008,
  0x300002800000380001800000338000080000014000020000007000024000006e00001,
  0x48000100000058000010000003800004000000e000090000003000008000000c00002,
  0x18800010000002e0000c00015d20000180000014000020000017000150000000400001,
  0x100000400000020000100000008000280000004000010000000800004000000402212,
  0x40000d800000040004000000090005ac00000420009300000008003d0000000600002,
  0xd00000400000180018c00000008000b0000000400015000000800008000000060002d,
  0x180001400000f6000220000007000008000001e000010000001000004000002600001,
  0xe800208000005c0002f000000080000c000001a00001000002c00000c000005a00004,
  0xf000014000005600005000000f000024000004800004000000e00003c000006200003,
  0x1400001000000480002e000000500000800000ec000520000007000010000004a00001,
  0x1000004000000e000010000007800004000001600027000000080002c000006800008,
  0x30001fc0000002000180000004000028000002c00009000009b800030000006800003,
  0x24000004000002e00002000000080000c0000004000010000016000004000000200002,
  0xd800014000003600003000001080001400000040000100000098000c0000001200008,
  0x18000040000010000050000001000004000006400002000000a000010000007000026,
  0x13800080000008000007000000480001c0000014000040000001800008000003a00001,
  0x200001c000003400005000000d800008000003a00003000001b000024000001800004,
  0x8000018000001400008000001700001c0000066000770000024800140000000e0000c,
  0x10000080000006000010000015000004000003e000d00000001000020000003a00019,
  0xe0000980000034000160000015000020000005c000210000004800020000000c00010,
  0xc800034000000a00001000001f0000240000048000040000027000024000002e00014,
  0xa00000400000c0000090000013800020000002400001000001a800018000001400007,
  0x78000040000008000010000000800004000000e0003e000001780000400000240000b,
  0x10000080000010000010000002000018000001400005000001d800018000001600001,
  0x100000800000140000100000028000040000004000010000003800004000002c00002,
  0x280000c000000e0000200000038000140000002000060000000800008000000600002,
  0x8000040000014000010000013000004000000200002000000080000400000140000b,
  0x2e00007400000040000800000010000040000014000010000002000004000000200002,
  0x22800088000004c00002000001b0002980000014000080000024000078000000a00001,
  0xd8000700000028000060000005000018000007400013000000680001800000140000b,
  0x80000800000100000c00000198002100000078000b9000000b800010000001e00002,
  0x50000240000018000020000001000004000003c000010000001000004000001000002,
  0x2480003400000a600008000002400006c0000016000020000017000008000001000046,
  0x1680000400000120000600000050000380000044000580000004000158000001400007,
  0x3800124000001c00001000000b000008000004000003000000e800028000001c00001,
  0x500002000000120000100000010000040000002000030000016000004000000400001,
  0x500001c000000c000010000001000004000004a000010000001000004000000c00006,
  0xe80000c000005200001000000880001c0000032000f60000005000010000005800006,
  0x6200002c000000a00001000003780019800007360000d000001900003c000000200055,
  0x1d006ae4000048e0000500007cd800028000002c00010000021800003400000c600a4c,
  0xf0000180000014000010000028800010000001400001000000f80001c0000472006c6,
  0x9800014000002a00001000000380000400000140000a0000023000028000000c00002,
  0x880001c00000720000400000258000b0000003200020000001d8003980000074001b0,
  0x20087f400000e60006100000100000a400039ac00009000000380002c000000a00040,
  0x80000800000060001d000000080003c0000246000010000001000004000000e00001,
  0x500001c000001200003000000680001400000d60090400000c600002000000080000e,
  0x880003c000002e0000600000da00000c000000600024000006b003d80000000800002,
  0x1a800008000004e0000a000007b0000f000000e800009000000b800008000005c0000f,
  0xa00003000000280007a00000230000540000054000060000020000020000001c00007,
  0xf801140000001e00001000000280003c000051800487000000c80002400000ae0000c,
  0x280000400000040000100000038000080000022000010000003800354000000c00006,
  0xf8005000000004000040000005000008000001c0000300000168001c0000000200064,
  0xf80030000000020000400000158003580000054001d00000000800014000007400011,
  0x78000040000004000010000002000004000000e000e00000001000020000002c00001,
  0x22000c44000000400004000000500001000000540004b0000008000008000018a00001,
  0x7800008000001e0000c000003200001000000580010e00000010006c8000007a0004c,
  0x1180000c000003400020000000080007c000000a000150000012800004000001e00001,
  0x680000c00000220000300001ec800268000000c00060000000d0000e0000003a00001,
  0x5000020000007000004000000600003c000000200004000000600001800001b400003,
  0xac00009c00000120000e0000001000010000001800002000000f000020000005000006,
  0x8000010000000200001000001c80000c0000016000030000006800008000001c00008,
  0x537000101400000020000a000002e0000040000126000070000005000010000001800002,
  0x10950000140002696011a2000013700003c0003a62000020000b47000008000223c00020]

/-- The code points that a domain name drops. -/
def domainIgnoredWords : List Nat := [
  0x801fec000000a00055000000100194c000000400e0f0000000800a840000002000ad,
  0x8002800000002000ef000000803326c0000002010f40000003000014000000a00054,
  0x1e0c2f85000000400533c00000080bcff]

end UrlMatch.Unicode
