/-!
# Canonical decompositions, packed

A decomposition takes 106 bits, three to a numeral: the code point, up to four code points of
its full decomposition, and whether composition may restore it. Combining classes are spans of
50 bits, six to a numeral, with the class as tag.
-/

namespace UrlMatch.Unicode

/-- The full canonical decompositions, Hangul syllables apart. -/
def decompositionWords : List Nat := [
  0x20000000000000c0800082000c28000000000000301000208003060000000000000c0000082000c0,
  0x20000000000000c2800082000c58000000000000308000208003120000000000000c0c00082000c3,
  0x20000000000000c040008a000c98000000000000300000228003220000000000000c9c00086000c7,
  0x20000000000000c0000092000cc80000000000003080002280032e0000000000000c080008a000ca,
  0x20000000000000c2000092000cf80000000000003020002480033a0000000000000c0400092000cd,
  0x20000000000000c040009e000d380000000000003000002780034a0000000000000c0c0009c000d1,
  0x20000000000000c200009e000d68000000000000303000278003560000000000000c080009e000d4,
  0x20000000000000c08000aa000db80000000000003010002a80036a0000000000000c00000aa000d9,
  0x20000000000000c00000c2000e080000000000003010002c8003760000000000000c20000aa000dc,
  0x20000000000000c0c000c2000e380000000000003020003080038a0000000000000c04000c2000e1,
  0x20000000000000c9c000c6000e7800000000000030a000308003960000000000000c20000c2000e4,
  0x20000000000000c08000ca000ea8000000000000301000328003a60000000000000c00000ca000e8,
  0x20000000000000c04000d2000ed8000000000000300000348003b20000000000000c20000ca000eb,
  0x20000000000000c0c000dc000f18000000000000308000348003be0000000000000c08000d2000ee,
  0x20000000000000c08000de000f48000000000000301000378003ce0000000000000c00000de000f2,
  0x20000000000000c00000ea000f98000000000000308000378003da0000000000000c0c000de000f5,
  0x20000000000000c20000ea000fc80000000000003020003a8003ee0000000000000c04000ea000fa,
  0x20000000000000c10000820010080000000000003080003c8003fe0000000000000c04000f2000fd,
  0x20000000000000c18000c20010380000000000003060002080040a0000000000000c10000c200101,
  0x20000000000000c0400086001068000000000000328000308004160000000000000ca00008200104,
  0x20000000000000c08000c6001098000000000000302000218004220000000000000c04000c600107,
  0x20000000000000c30000860010c80000000000003070003180042e0000000000000c1c000860010a,
  0x20000000000000c30000c80010f800000000000030c0002200043a0000000000000c30000c60010d,
  0x20000000000000c180008a0011480000000000003040003280044e0000000000000c100008a00112,
  0x20000000000000c1c000ca0011780000000000003070002280045a0000000000000c18000ca00115,
  0x20000000000000c300008a0011a8000000000000328000328004660000000000000ca00008a00118,
  0x20000000000000c08000ce0011d8000000000000302000238004720000000000000c30000ca0011b,
  0x20000000000000c1c0008e0012080000000000003060003380047e0000000000000c180008e0011e,
  0x20000000000000c9c000ce0012380000000000003270002380048a0000000000000c1c000ce00121,
  0x20000000000000c0c00092001288000000000000302000340004960000000000000c080009000124,
  0x20000000000000c10000d20012b8000000000000304000248004aa0000000000000c0c000d200129,
  0x20000000000000ca0000920012e8000000000000306000348004b60000000000000c18000920012c,
  0x20000000000000c0800094001348000000000000307000248004c20000000000000ca0000d20012f,
  0x20000000000000c9c000d6001378000000000000327000258004da0000000000000c08000d400135,
  0x20000000000000c9c000980013b8000000000000301000360004ea0000000000000c040009800139,
  0x20000000000000c30000d80013e800000000000030c000260004f60000000000000c9c000d80013c,
  0x20000000000000c9c0009c001458000000000000301000370005120000000000000c040009c00143,
  0x20000000000000c30000dc00148800000000000030c0002700051e0000000000000c9c000dc00146,
  0x20000000000000c180009e0014e8000000000000304000378005360000000000000c100009e0014c,
  0x20000000000000c2c000de00151800000000000030b000278005420000000000000c18000de0014f,
  0x20000000000000c9c000a4001568000000000000301000390005560000000000000c04000a400154,
  0x20000000000000c30000e400159800000000000030c000290005620000000000000c9c000e400157,
  0x20000000000000c08000a60015c80000000000003010003980056e0000000000000c04000a60015a,
  0x20000000000000c9c000e60015f80000000000003270002980057a0000000000000c08000e60015d,
  0x20000000000000c9c000a800162800000000000030c000398005860000000000000c30000a600160,
  0x20000000000000c30000e800165800000000000030c0002a0005920000000000000c9c000e800163,
  0x20000000000000c10000aa0016a80000000000003030003a8005a60000000000000c0c000aa00168,
  0x20000000000000c18000ea0016d80000000000003060002a8005b20000000000000c10000ea0016b,
  0x20000000000000c2c000aa00170800000000000030a0003a8005be0000000000000c28000aa0016e,
  0x20000000000000ca0000ea0017380000000000003280002a8005ca0000000000000c2c000ea00171,
  0x20000000000000c08000b20017680000000000003020003b8005d60000000000000c08000ae00174,
  0x20000000000000c04000b40017980000000000003080002c8005e20000000000000c08000f200177,
  0x20000000000000c1c000f40017c80000000000003070002d0005ee0000000000000c04000f40017a,
  0x20000000000000c6c0009e001a0800000000000030c0003d0005fa0000000000000c30000b40017d,
  0x20000000000000c6c000ea001b0800000000000031b0002a8006be0000000000000c6c000de001a1,
  0x20000000000000c3000092001cf800000000000030c0003080073a0000000000000c3000082001cd,
  0x20000000000000c30000de001d2800000000000030c000278007460000000000000c30000d2001d0,
  0x20000000182000c20000aa001d5800000000000030c0003a8007520000000000000c30000aa001d3,
  0x20000000180800c20000ea001d880000000602003080002a80075e0000000182000c20000ea001d6,
  0x20000000180000c20000aa001db80000000618003080003a80076a0000000186000c20000aa001d9,
  0x20000000182000c20000c2001df80000000608003080002080077a0000000180000c20000ea001dc,
  0x20000000000000c100018c001e28000000060800307000308007860000000182000c1c00082001e0,
  0x20000000000000c30000ce001e7800000000000030c0002380079a0000000000000c10001cc001e3,
  0x20000000000000ca00009e001ea800000000000030c000358007a60000000000000c3000096001e8,
  0x20000000182000ca0000de001ed8000000060800328000278007b20000000000000ca0000de001eb,
  0x20000000000000c30000d4001f0800000000000030c001490007be0000000000000c300036e001ee,
  0x20000000000000c000009c001f88000000000000301000338007d60000000000000c040008e001f4,
  0x20000000180800c28000c2001fb800000006020030a000208007ea0000000000000c00000dc001f9,
  0x20000000000000c04001b0001fe8000000000000301000730007f60000000000000c040018c001fc,
  0x20000000000000c3c000c200201800000000000030f000208008020000000000000c04001f0001ff,
  0x20000000000000c3c0008a0020480000000000003110003080080e0000000000000c440008200202,
  0x20000000000000c44000ca0020780000000000003110002280081a0000000000000c3c000ca00205,
  0x20000000000000c44000920020a800000000000030f000348008260000000000000c3c0009200208,
  0x20000000000000c3c000de0020d800000000000030f000278008320000000000000c44000d20020b,
  0x20000000000000c3c000a40021080000000000003110003780083e0000000000000c440009e0020e,
  0x20000000000000c44000e40021380000000000003110002900084a0000000000000c3c000e400211,
  0x20000000000000c44000aa00216800000000000030f0003a8008560000000000000c3c000aa00214,
  0x20000000000000c98000e6002198000000000000326000298008620000000000000c44000ea00217,
  0x20000000000000c30000900021e80000000000003260003a00086e0000000000000c98000a80021a,
  0x20000000000000c1c000c20022780000000000003070002080089a0000000000000c30000d00021f,
  0x20000000182000c200009e0022a8000000000000327000328008a60000000000000c9c0008a00228,
  0x20000000182000c0c000de0022d8000000060800303000278008b20000000182000c20000de0022b,
  0x20000000182000c1c0009e002308000000000000307000378008be0000000000000c1c0009e0022e,
  0x20000000000000c10000f20023380000000000003040002c8008ca0000000182000c1c000de00231,
  0x62600343000000000000000000180800d0400000000000000000060000340,
  0x760037e00000000000000000015c800dd00000000000000c040061000344,
  0x16e003878000000000000301001c8800e1a0000000000000c040015000385,
  0x20000000000000c04007320038a8000000000000301001cb800e260000000000000c040072a00388,
  0x20000000000000c04007520038f8000000000000301001d2800e3a0000000000000c040073e0038c,
  0x20000000000000c200074a003ab8000000000000308001cc800eaa0000000180800c200077200390,
  0x20000000000000c040076e003ae8000000000000301001da800eb60000000000000c0400762003ac,
  0x20000000000000c2000772003ca8000000060200308001e2800ec20000000000000c0400772003af,
  0x20000000000000c040078a003cd8000000000000301001df800f320000000000000c200078a003cb,
  0x20000000000000c20007a4003d48000000000000301001e9000f4e0000000000000c0400792003ce,
  0x20000000000000c04008260040380000000000003080020a8010060000000000000c000082a00400,
  0x20000000000000c00008300040d80000000000003010020d0010320000000000000c200080c00407,
  0x20000000000000c18008700043980000000000003060020c0010660000000000000c18008460040e,
  0x20000000000000c04008660045380000000000003080021a8011460000000000000c000086a00450,
  0x20000000000000c00008700045d80000000000003010021d0011720000000000000c20008ac00457,
  0x20000000000000c3c008ea00477800000000000030f0023a0011da0000000000000c18008860045e,
  0x20000000000000c1800820004d080000000000003060021b00130a0000000000000c180082c004c1,
  0x20000000000000c2000860004d380000000000003080020800134a0000000000000c1800860004d1,
  0x20000000000000c20009b0004da80000000000003060021a80135e0000000000000c180082a004d6,
  0x20000000000000c200086c004dd80000000000003080020b0013720000000000000c20009b2004db,
  0x20000000000000c1000830004e280000000000003080021b80137e0000000000000c200082e004de,
  0x20000000000000c2000870004e580000000000003080020c0013920000000000000c1000870004e3,
  0x20000000000000c20009d0004ea80000000000003080021f00139e0000000000000c200083c004e6,
  0x20000000000000c200089a004ed8000000000000308002168013b20000000000000c20009d2004eb,
  0x20000000000000c2000846004f08000000000000304002218013be0000000000000c1000846004ee,
  0x20000000000000c2c00886004f3800000000000030b002118013ca0000000000000c2000886004f1,
  0x20000000000000c2000856004f88000000000000308002238013d60000000000000c200084e004f4,
  0x2000000000000195000c4e0062380000000000006530031380188a0000000000000c2000896004f9,
  0x2000000000000195000c9400626800000000000065500313801896000000000000195000c9000624,
  0x2000000000000195000da4006d3800000000000065400360801b0a000000000000195000daa006c0,
  0x200000000000024f00126600934800000000000093c004980024c600000000000024f00125000929,
  0x24f00122e0095a000000000000093c0048b00256400000000000024f00122a00958,
  0x24f0012440095d000000000000093c0049080257000000000000024f0012380095b,
  0x200000000000026f80138e009cb000000000000093c0049780257c00000000000024f0012560095e,
  0x26f001344009dd00000000000009bc004d0802772000000000000275c0138e009cc,
  0x28f00147000a360000000000000a3c005190028cc00000000000026f00135e009df,
  0x28f00143800a5b0000000000000a3c0050b80296800000000000028f00142c00a59,
  0x20000000000002cf80168e00b4b8000000000000b56005a3802d2000000000000028f00145600a5e,
  0x2cf00164400b5d0000000000000b3c00590802d720000000000002d5c0168e00b4c,
  0x20000000000002ef80178e00bcb8000000000000bbe005e3002f2a0000000000002f5c0172400b94,
  0x200000000000033540197e00cc08000000000000c56006230031220000000000002f5c0178c00bcc,
  0x200000000000033080198c00cca8000000000000cd60066300332200000000000033540198c00cc7,
  0x200000000000034f801a8e00d4b8000000000000d3e006a300352a000000066a8033080198c00ccb,
  0x2000000000000373c01bb200ddc8000000000000dca006ec80376a000000000000355c01a8c00d4c,
  0x3edc01e8400f438000000000000ddf006ec80377a00000006e500373c01bb200ddd,
  0x3edc01eac00f570000000000000fb7007a8803d480000000000003edc01e9800f4d,
  0x3dc801ee200f730000000000000fb5007a0003da40000000000003edc01eb600f5c,
  0x3e0001f6600f780000000000000f80007d9003dd80000000000003dd001ee200f75,
  0x3edc01f3800f9d0000000000000fb7007c9003e4c0000000000003e0001ee200f81,
  0x3edc01f5600fac0000000000000fb7007d3003e9c0000000000003edc01f4200fa2,
  0x20000000000006cd40360a01b06800000000000102e008128040980000000000003ed401f2000fb9,
  0x20000000000006cd40361601b0c8000000000001b3500d84806c2a0000000000006cd40360e01b08,
  0x20000000000006cd40367401b3b8000000000001b3500d88806c4a0000000000006cd40361a01b0e,
  0x20000000000006cd40367e01b418000000000001b3500d9f006d020000000000006cd40367801b3d,
  0x20000000000000c94000c201e018000000000000325000208078020000000000006cd40368401b43,
  0x20000000000000c8c0008401e0480000000000003070003100780e0000000000000c1c0008401e02,
  0x20000000000000cc4000c401e0780000000000003310002100781a0000000000000c8c000c401e05,
  0x20000000000000c1c0008801e0a8000000060200327000318078260000000180800c9c0008601e08,
  0x20000000000000c8c000c801e0d8000000000000323000220078320000000000000c1c000c801e0b,
  0x20000000000000c9c0008801e1080000000000003310003200783e0000000000000cc40008801e0e,
  0x20000000000000cb4000c801e13800000000000032d0002200784a0000000000000c9c000c801e11,
  0x20000000180800c100008a01e168000000060000304000328078560000000180000c100008a01e14,
  0x20000000000000cb4000ca01e19800000000000032d000228078620000000180800c10000ca01e17,
  0x20000000183000c9c0008a01e1c80000000000003300003280786e0000000000000cc00008a01e1a,
  0x20000000000000c1c000cc01e1f80000000000003070002300787a0000000183000c9c000ca01e1d,
  0x20000000000000c1c0009001e228000000000000304000338078860000000000000c100008e01e20,
  0x20000000000000c8c000d001e258000000000000323000240078920000000000000c1c000d001e23,
  0x20000000000000c9c0009001e2880000000000003080003400789e0000000000000c200009001e26,
  0x20000000000000cb8000d001e2b800000000000032e000240078aa0000000000000c9c000d001e29,
  0x20000000180800c200009201e2e8000000000000330000348078b60000000000000cc00009201e2c,
  0x20000000000000c04000d601e318000000000000301000258078c20000000180800c20000d201e2f,
  0x20000000000000cc40009601e348000000000000323000358078ce0000000000000c8c0009601e32,
  0x20000000000000c8c000d801e378000000000000323000260078da0000000000000cc4000d601e35,
  0x20000000000000cc40009801e3a8000000060800323000360078e60000000182000c8c0009801e38,
  0x20000000000000cb4000d801e3d800000000000032d000260078f20000000000000cc4000d801e3b,
  0x20000000000000c1c0009a01e408000000000000301000368078fe0000000000000c040009a01e3e,
  0x20000000000000c8c000da01e4380000000000003230002680790a0000000000000c1c000da01e41,
  0x20000000000000c8c0009c01e468000000000000307000370079160000000000000c1c0009c01e44,
  0x20000000000000cc4000dc01e498000000000000331000270079220000000000000c8c000dc01e47,
  0x20000000180800c0c0009e01e4c800000000000032d0003700792e0000000000000cb40009c01e4a,
  0x20000000184000c0c000de01e4f80000000610003030002780793a0000000180800c0c000de01e4d,
  0x20000000180800c100009e01e528000000060000304000378079460000000180000c100009e01e50,
  0x20000000000000c04000e001e558000000000000301000280079520000000180800c10000de01e53,
  0x20000000000000c1c000a401e5880000000000003070003800795e0000000000000c1c000a001e56,
  0x20000000000000c8c000e401e5b80000000000003230002900796a0000000000000c1c000e401e59,
  0x20000000000000cc4000a401e5e8000000060800323000390079760000000182000c8c000a401e5c,
  0x20000000000000c1c000e601e618000000000000307000298079820000000000000cc4000e401e5f,
  0x20000000183800c04000a601e6480000000000003230003980798e0000000000000c8c000a601e62,
  0x20000000183800c30000e601e678000000060e0030c0002980799a0000000183800c04000e601e65,
  0x20000000000000c1c000a801e6a8000000060e00323000398079a60000000183800c8c000a601e68,
  0x20000000000000c8c000e801e6d80000000000003230002a0079b20000000000000c1c000e801e6b,
  0x20000000000000cb4000a801e7080000000000003310003a0079be0000000000000cc4000a801e6e,
  0x20000000000000c90000ea01e7380000000000003240002a8079ca0000000000000cb4000e801e71,
  0x20000000000000cb4000aa01e7680000000000003300003a8079d60000000000000cc0000aa01e74,
  0x20000000180800c0c000ea01e7980000000602003030002a8079e20000000000000cb4000ea01e77,
  0x20000000000000c0c000ac01e7c80000000610003040003a8079ee0000000184000c10000aa01e7a,
  0x20000000000000c8c000ec01e7f80000000000003230002b0079fa0000000000000c0c000ec01e7d,
  0x20000000000000c04000ae01e8280000000000003000003b807a060000000000000c00000ae01e80,
  0x20000000000000c20000ee01e8580000000000003080002b807a120000000000000c04000ee01e83,
  0x20000000000000c8c000ae01e8880000000000003070003b807a1e0000000000000c1c000ae01e86,
  0x20000000000000c1c000f001e8b80000000000003070002c007a2a0000000000000c8c000ee01e89,
  0x20000000000000c1c000b201e8e80000000000003080003c007a360000000000000c20000b001e8c,
  0x20000000000000c08000f401e9180000000000003020002d007a420000000000000c1c000f201e8f,
  0x20000000000000cc4000b401e9480000000000003230003d007a4e0000000000000c8c000b401e92,
  0x20000000000000c20000e801e97800000000000033100034007a5a0000000000000cc4000f401e95,
  0x20000000000000c1c002fe01e9b800000000000030a0003c807a660000000000000c28000ee01e98,
  0x20000000000000c240008201ea2800000000000032300030807a860000000000000c8c0008201ea0,
  0x20000000180800c08000c201ea5800000006020030200020807a920000000000000c24000c201ea3,
  0x20000000184800c080008201ea8800000006000030200030807a9e0000000180000c080008201ea6,
  0x20000000181800c08000c201eab800000006060030200020807aaa0000000184800c08000c201ea9,
  0x20000000180800c180008201eae800000006040032300030807ab60000000181000c8c0008201eac,
  0x20000000180000c18000c201eb1800000006000030600020807ac20000000180800c18000c201eaf,
  0x20000000181800c180008201eb4800000006120030600030807ace0000000184800c180008201eb2,
  0x20000000183000c8c000c201eb78000000060c0032300020807ada0000000181800c18000c201eb5,
  0x20000000000000c240008a01eba800000000000032300032807ae60000000000000c8c0008a01eb8,
  0x20000000000000c0c000ca01ebd800000000000030300022807af20000000000000c24000ca01ebb,
  0x20000000180000c080008a01ec0800000006020030200032807afe0000000180800c080008a01ebe,
  0x20000000184800c08000ca01ec3800000006120030200022807b0a0000000180000c08000ca01ec1,
  0x20000000181000c8c0008a01ec6800000006060030200032807b160000000181800c080008a01ec4,
  0x20000000000000c24000d201ec9800000000000030900024807b220000000181000c8c000ca01ec7,
  0x20000000000000c8c0009e01ecc800000000000032300034807b2e0000000000000c8c0009201eca,
  0x20000000000000c24000de01ecf800000000000030900027807b3a0000000000000c8c000de01ecd,
  0x20000000180000c080009e01ed2800000006020030200037807b460000000180800c080009e01ed0,
  0x20000000184800c08000de01ed5800000006120030200027807b520000000180000c08000de01ed3,
  0x20000000181000c8c0009e01ed8800000006060030200037807b5e0000000181800c080009e01ed6,
  0x20000000180800c6c000de01edb800000006020031b00027807b6a0000000181000c8c000de01ed9,
  0x20000000184800c6c0009e01ede800000006000031b00037807b760000000180000c6c0009e01edc,
  0x20000000181800c6c000de01ee1800000006060031b00027807b820000000184800c6c000de01edf,
  0x20000000000000c8c000aa01ee4800000006460031b00037807b8e0000000191800c6c0009e01ee2,
  0x20000000000000c24000ea01ee780000000000003090002a807b9a0000000000000c8c000ea01ee5,
  0x20000000180000c6c000aa01eea800000006020031b0003a807ba60000000180800c6c000aa01ee8,
  0x20000000184800c6c000ea01eed800000006120031b0002a807bb20000000180000c6c000ea01eeb,
  0x20000000191800c6c000aa01ef0800000006060031b0003a807bbe0000000181800c6c000aa01eee,
  0x20000000000000c00000f201ef380000000000003000002c807bca0000000191800c6c000ea01ef1,
  0x20000000000000c24000b201ef680000000000003230003c807bd60000000000000c8c000b201ef4,
  0x20000000000000c0c000f201ef980000000000003030002c807be20000000000000c24000f201ef7,
  0x20000000180000c4c0076201f028000000000000314001d8807c060000000000000c4c0076201f00,
  0x20000000180800c500076201f058000000060200313001d8807c120000000180000c500076201f03,
  0x20000000000000c4c0072201f088000000068400314001d8807c1e00000001a1000c4c0076201f06,
  0x20000000180000c500072201f0b8000000060000313001c8807c2a0000000000000c500072201f09,
  0x200000001a1000c4c0072201f0e8000000060200314001c8807c360000000180800c4c0072201f0c,
  0x20000000000000c500076a01f118000000000000313001da807c4200000001a1000c500072201f0f,
  0x20000000180800c4c0076a01f148000000060000314001da807c4e0000000180000c4c0076a01f12,
  0x20000000000000c500072a01f198000000000000313001ca807c620000000180800c500076a01f15,
  0x20000000180800c4c0072a01f1c8000000060000314001ca807c6e0000000180000c4c0072a01f1a,
  0x20000000000000c500076e01f218000000000000313001db807c820000000180800c500072a01f1d,
  0x20000000180800c4c0076e01f248000000060000314001db807c8e0000000180000c4c0076e01f22,
  0x200000001a1000c500076e01f278000000068400313001db807c9a0000000180800c500076e01f25,
  0x20000000180000c4c0072e01f2a8000000000000314001cb807ca60000000000000c4c0072e01f28,
  0x20000000180800c500072e01f2d8000000060200313001cb807cb20000000180000c500072e01f2b,
  0x20000000000000c4c0077201f308000000068400314001cb807cbe00000001a1000c4c0072e01f2e,
  0x20000000180000c500077201f338000000060000313001dc807cca0000000000000c500077201f31,
  0x200000001a1000c4c0077201f368000000060200314001dc807cd60000000180800c4c0077201f34,
  0x20000000000000c500073201f398000000000000313001cc807ce200000001a1000c500077201f37,
  0x20000000180800c4c0073201f3c8000000060000314001cc807cee0000000180000c4c0073201f3a,
  0x200000001a1000c500073201f3f8000000068400313001cc807cfa0000000180800c500073201f3d,
  0x20000000180000c4c0077e01f428000000000000314001df807d060000000000000c4c0077e01f40,
  0x20000000180800c500077e01f458000000060200313001df807d120000000180000c500077e01f43,
  0x20000000180000c4c0073e01f4a8000000000000314001cf807d260000000000000c4c0073e01f48,
  0x20000000180800c500073e01f4d8000000060200313001cf807d320000000180000c500073e01f4b,
  0x20000000180000c4c0078a01f528000000000000314001e2807d460000000000000c4c0078a01f50,
  0x20000000180800c500078a01f558000000060200313001e2807d520000000180000c500078a01f53,
  0x20000000000000c500074a01f598000000068400314001e2807d5e00000001a1000c4c0078a01f56,
  0x200000001a1000c500074a01f5f8000000060200314001d2807d760000000180000c500074a01f5b,
  0x20000000180000c4c0079201f628000000000000314001e4807d860000000000000c4c0079201f60,
  0x20000000180800c500079201f658000000060200313001e4807d920000000180000c500079201f63,
  0x20000000000000c4c0075201f688000000068400314001e4807d9e00000001a1000c4c0079201f66,
  0x20000000180000c500075201f6b8000000060000313001d4807daa0000000000000c500075201f69,
  0x200000001a1000c4c0075201f6e8000000060200314001d4807db60000000180800c4c0075201f6c,
  0xc040076201f718000000000000300001d8807dc200000001a1000c500075201f6f,
  0x20000000000000c000076e01f740000000000000301001da807dce0000000000000c000076a01f72,
  0xc040077201f778000000000000300001dc807dd80000000000000c040076e01f75,
  0x20000000000000c000078a01f7a0000000000000301001df807de60000000000000c000077e01f78,
  0xc040079201f7d8000000000000300001e4807df00000000000000c040078a01f7b,
  0x20034500180000c4c0076201f828000000068a00314001d8807e0600000001a2800c4c0076201f80,
  0x20034500180800c500076201f85800d140060200313001d8807e120034500180000c500076201f83,
  0x200000001a2800c4c0072201f88800d140068400314001d8807e1e00345001a1000c4c0076201f86,
  0x20034500180000c500072201f8b800d140060000313001c8807e2a00000001a2800c500072201f89,
  0x200345001a1000c4c0072201f8e800d140060200314001c8807e360034500180800c4c0072201f8c,
  0x200000001a2800c500076e01f918000000068a00313001db807e4200345001a1000c500072201f8f,
  0x20034500180800c4c0076e01f94800d140060000314001db807e4e0034500180000c4c0076e01f92,
  0x200345001a1000c500076e01f97800d140068400313001db807e5a0034500180800c500076e01f95,
  0x20034500180000c4c0072e01f9a8000000068a00314001cb807e6600000001a2800c4c0072e01f98,
  0x20034500180800c500072e01f9d800d140060200313001cb807e720034500180000c500072e01f9b,
  0x200000001a2800c4c0079201fa0800d140068400314001cb807e7e00345001a1000c4c0072e01f9e,
  0x20034500180000c500079201fa3800d140060000313001e4807e8a00000001a2800c500079201fa1,
  0x200345001a1000c4c0079201fa6800d140060200314001e4807e960034500180800c4c0079201fa4,
  0x200000001a2800c500075201fa98000000068a00313001d4807ea200345001a1000c500079201fa7,
  0x20034500180800c4c0075201fac800d140060000314001d4807eae0034500180000c4c0075201faa,
  0x200345001a1000c500075201faf800d140068400313001d4807eba0034500180800c500075201fad,
  0x200000001a2800c000076201fb28000000000000304001d8807ec60000000000000c180076201fb0,
  0x20000000000000d080076201fb68000000068a00301001d8807ed20000000000000d140076201fb3,
  0x20000000000000c100072201fb98000000000000306001c8807ee200000001a2800d080076201fb7,
  0x20000000000000d140072201fbc0000000000000301001c8807eee0000000000000c000072201fba,
  0x200000001a2800c000076e01fc2800000000000034200054007f0400000000000000000077201fbe,
  0x20000000000000d080076e01fc68000000068a00301001db807f120000000000000d140076e01fc3,
  0xc040072a01fc98000000000000300001ca807f2200000001a2800d080076e01fc7,
  0x20000000000000d140072e01fcc0000000000000301001cb807f2e0000000000000c000072e01fca,
  0x20000000000000d0803f7e01fcf800000000000030100fdf807f3a0000000000000c0003f7e01fcd,
  0x20000000180000c200077201fd28000000000000304001dc807f460000000000000c180077201fd0,
  0x200000001a1000c200077201fd78000000000000342001dc807f580000000180800c200077201fd3,
  0x20000000000000c000073201fda8000000000000304001cc807f660000000000000c180073201fd8,
  0x20000000000000c0403ffc01fde800000000000030000fff007f740000000000000c040073201fdb,
  0x20000000000000c100078a01fe18000000000000306001e2807f820000000000000d0803ffc01fdf,
  0x20000000000000c4c0078201fe40000000060200308001e2807f8e0000000180000c200078a01fe2,
  0x200000001a1000c200078a01fe78000000000000342001e2807f9a0000000000000c500078201fe5,
  0x20000000000000c000074a01fea8000000000000304001d2807fa60000000000000c180074a01fe8,
  0x20000000000000c000015001fed8000000000000314001d0807fb00000000000000c040074a01feb,
  0x200000001a2800c000079201ff2000000000000000000030007fbc0000000000000c040015001fee,
  0x20000000000000d080079201ff68000000068a00301001e4807fd20000000000000d140079201ff3,
  0xc040073e01ff98000000000000300001cf807fe200000001a2800d080079201ff7,
  0x20000000000000d140075201ffc0000000000000301001d4807fee0000000000000c000075201ffa,
  0x40060200100000000000000000100100800000000000000000000016801ffd,
  0xc28000820212b0000000000000000000258084a800000000000000000075202126,
  0x20000000000000ce004328021ae8000000000000338010c900866e0000000000000ce0043200219a,
  0x20000000000000ce0043a4021cf8000000000000338010ea00873a0000000000000ce0043a0021cd,
  0x20000000000000ce0044160220c8000000000000338011040088260000000000000ce00440602204,
  0x20000000000000ce0044780224180000000000003380111280889a0000000000000ce00444602224,
  0x20000000000000ce0044900224980000000000003380112280891e0000000000000ce00448602244,
  0x20000000000000ce00449a0226d80000000000003380113080898a0000000000000ce00007a02260,
  0x20000000000000ce0044c80227080000000000003380001f0089be0000000000000ce0000780226e,
  0x20000000000000ce0044e6022758000000000000338011390089d20000000000000ce0044ca02271,
  0x20000000000000ce0044f40228080000000000003380113b8089e60000000000000ce0044ec02278,
  0x20000000000000ce00450602285800000000000033801141008a120000000000000ce0044f602281,
  0x20000000000000ce004544022ac800000000000033801143808a260000000000000ce00450c02288,
  0x20000000000000ce004556022af800000000000033801154808aba0000000000000ce004550022ad,
  0x20000000000000ce004522022e280000000000003380113e808b860000000000000ce0044f8022e0,
  0x20000000000000ce004566022eb800000000000033801159008baa0000000000000ce004524022e3,
  0x60100232980000000000003380115a808bb60000000000000ce004568022ec,
  0x2000000000000c264060960304c00000000000003380156e80ab700000000000000000060120232a,
  0x2000000000000c264060a20305280000000000030990182780c142000000000000c2640609a0304e,
  0x2000000000000c264060ae0305880000000000030990182a80c15a000000000000c264060a603054,
  0x2000000000000c264060ba0305e80000000000030990182d80c172000000000000c264060b20305a,
  0x2000000000000c264060c80306580000000000030990183080c18a000000000000c264060be03060,
  0x2000000000000c264060de0307080000000000030990183400c1a6000000000000c264060cc03067,
  0x2000000000000c268060e40307480000000000030990183900c1ce000000000000c268060de03071,
  0x2000000000000c264060f003079800000000000309a0183a80c1de000000000000c264060ea03076,
  0x2000000000000c268060f60307d80000000000030990183d80c1f2000000000000c268060f00307a,
  0x2000000000000c26406156030ac80000000000030990184e80c27a000000000000c2640608c03094,
  0x2000000000000c26406162030b280000000000030990185780c2c2000000000000c2640615a030ae,
  0x2000000000000c2640616e030b880000000000030990185a80c2da000000000000c26406166030b4,
  0x2000000000000c2640617a030be80000000000030990185d80c2f2000000000000c26406172030ba,
  0x2000000000000c26406188030c580000000000030990186080c30a000000000000c2640617e030c0,
  0x2000000000000c2640619e030d080000000000030990186400c326000000000000c2640618c030c7,
  0x2000000000000c268061a4030d480000000000030990186900c34e000000000000c2680619e030d1,
  0x2000000000000c264061b0030d9800000000000309a0186a80c35e000000000000c264061aa030d6,
  0x2000000000000c268061b6030dd80000000000030990186d80c372000000000000c268061b0030da,
  0x2000000000000c264061e0030f880000000000030990187780c3de000000000000c2640614c030f4,
  0x2000000000000c264061fa030fe80000000000030990187900c3ea000000000000c264061e2030f9,
  0x11d940f90200000000000000000337a03e4040000000000000000118900f900,
  0x9c640f90500000000000000000376883e4100000000000000000119900f903,
  0x13f380f908000000000000000004fce03e41c00000000000000000a7ca0f906,
  0xab0e0f90b0000000000000000048e883e42800000000000000000b2a20f909,
  0xecd20f90e0000000000000000030fb03e43400000000000000000b2900f90c,
  0x10f740f91100000000000000000431f83e44000000000000000000ff0a0f90f,
  0xd4040f91400000000000000000484783e44c0000000000000000111f00f912,
  0xe7bc0f91700000000000000000386c83e45800000000000000000da360f915,
  0x133e20f91a0000000000000000048b503e46400000000000000001087a0f918,
  0xd6080f91d0000000000000000029ba83e470000000000000000009d040f91b,
  0x13c3c0f92000000000000000000431683e47c00000000000000000e4360f91e,
  0x10b9a0f9230000000000000000037f583e48800000000000000000baa00f921,
  0x103b00f92600000000000000000316483e4940000000000000000112c80f924,
  0xce2e0f929000000000000000002f6503e4a000000000000000001103e0f927,
  0x1219c0f92c00000000000000000397e03e4ac00000000000000000dad40f92a,
  0xa5bc0f92f0000000000000000028db83e4b8000000000000000009f0c0f92d,
  0xe4200f93200000000000000000356983e4c400000000000000000c9880f930,
  0x10c0c0f93500000000000000000400083e4d000000000000000000edce0f933,
  0x12e640f9380000000000000000046f783e4dc000000000000000010cb80f936,
  0xf1180f93b000000000000000004efd03e4e80000000000000000136de0f939,
  0x107920f93e000000000000000003ed003e4f400000000000000000f2fe0f93c,
  0x115ac0f941000000000000000004f3f83e5000000000000000000126080f93f,
  0xf8c00f944000000000000000002f8203e50c00000000000000000b1be0f942,
  0xf1940f94700000000000000000393103e5180000000000000000100fc0f945,
  0xb1b00f94a000000000000000004b7b83e5240000000000000000119840f948,
  0xdbb40f94d00000000000000000350983e53000000000000000000b8c40f94b,
  0xfc6e0f950000000000000000003e9783e53c00000000000000000de1e0f94e,
  0x101160f95300000000000000000296903e548000000000000000012c960f951,
  0xf4380f9560000000000000000028e603e55400000000000000000a3b80f954,
  0x12cea0f9590000000000000000041f883e56000000000000000000fb7c0f957,
  0xd4040f95c00000000000000000316783e56c0000000000000000117000f95a,
  0xb7ce0f95f00000000000000000271c83e5780000000000000000115fc0f95d,
  0xeae00f9620000000000000000039c383e58400000000000000000c0240f960,
  0x9f7e0f965000000000000000003c7d83e59000000000000000000a62e0f963,
  0xd9980f96800000000000000000270683e59c00000000000000000bf520f966,
  0xa7860f96b000000000000000003e9103e5a800000000000000000caf00f969,
  0x108920f96e000000000000000003b8083e5b400000000000000000b0bc0f96c,
  0x11f600f9710000000000000000035dd03e5c00000000000000000115540f96f,
  0x105ca0f97400000000000000000317f03e5cc00000000000000000d9100f972,
  0x9d5c0f977000000000000000003ab283e5d800000000000000000c7400f975,
  0xd1020f97a0000000000000000028e483e5e400000000000000000a2d20f978,
  0x115a40f97d00000000000000000413783e5f000000000000000000f9ce0f97b,
  0xa8840f98000000000000000000297a83e5fc00000000000000001239e0f97e,
  0xcb8a0f983000000000000000002f7603e60800000000000000000b2e60f981,
  0x12b5a0f986000000000000000003c9503e61400000000000000000dffc0f984,
  0x13d9c0f989000000000000000004f4b83e6200000000000000000134d40f987,
  0xd6ee0f98c00000000000000000336303e62c00000000000000000a5360f98a,
  0xc3200f98f000000000000000002f3a03e638000000000000000011ec40f98d,
  0xde460f99200000000000000000324d03e64400000000000000000c4000f990,
  0xf3940f995000000000000000003a4483e65000000000000000000e2920f993,
  0x11e4c0f99800000000000000000403783e65c00000000000000000fbe80f996,
  0x126940f99b00000000000000000481183e6680000000000000000109dc0f999,
  0xa97a0f99e00000000000000000295183e67400000000000000000a42e0f99c,
  0x115540f9a100000000000000000446103e68000000000000000000e1900f99f,
  0xc6f60f9a4000000000000000002ffa83e68c00000000000000000bd920f9a2,
  0xe6ea0f9a7000000000000000003e1f03e69800000000000000000d75c0f9a5,
  0xb7ce0f9aa000000000000000002b7c83e6a4000000000000000009dc80f9a8,
  0xe7640f9ad00000000000000000300e03e6b000000000000000000bb740f9ab,
  0x1008c0f9b0000000000000000003fcd03e6bc00000000000000000e8d20f9ae,
  0x12e900f9b3000000000000000004b7b03e6c80000000000000000124680f9b1,
  0xf35c0f9b60000000000000000027c583e6d40000000000000000130300f9b4,
  0xc1c20f9b9000000000000000004b5c03e6e00000000000000000123680f9b7,
  0xb7dc0f9bc00000000000000000286d03e6ec000000000000000009d0c0f9ba,
  0xd4040f9bf0000000000000000032cc83e6f800000000000000000b87e0f9bd,
  0x109f80f9c2000000000000000003b2103e70400000000000000000e39c0f9c0,
  0xcd100f9c5000000000000000004fc683e7100000000000000000120f80f9c3,
  0xcef60f9c800000000000000000294483e71c000000000000000012c5c0f9c6,
  0xdd380f9cb0000000000000000036a083e72800000000000000000cfe60f9c9,
  0xf0d60f9ce000000000000000003aac83e73400000000000000000e8120f9cc,
  0xa2da0f9d1000000000000000004c2f03e74000000000000000000fa200f9cf,
  0xa0560f9d4000000000000000004b3c03e74c00000000000000000c45c0f9d2,
  0x11e540f9d70000000000000000036f503e75800000000000000000ba320f9d5,
  0xd02e0f9da0000000000000000030a203e76400000000000000000bf160f9d8,
  0xa4520f9dd000000000000000004b4303e77000000000000000000e70e0f9db,
  0xcc260f9e0000000000000000002e3283e77c00000000000000000a81e0f9de,
  0xd9ca0f9e300000000000000000345403e78800000000000000000ce9c0f9e1,
  0xfef20f9e6000000000000000003af103e79400000000000000000e80c0f9e4,
  0x123980f9e900000000000000000447083e7a000000000000000001119e0f9e7,
  0xdd740f9ec00000000000000000299f83e7ac000000000000000012dc40f9ea,
  0xe9300f9ef0000000000000000038e803e7b800000000000000000a83a0f9ed,
  0x138ae0f9f2000000000000000004b5183e7c4000000000000000010bf40f9f0,
  0xdb960f9f50000000000000000033cb83e7d0000000000000000013d3e0f9f3,
  0xf6400f9f8000000000000000003d6583e7dc0000000000000000103d00f9f6,
  0xe1320f9fb00000000000000000396003e7e800000000000000000f9240f9f9,
  0x1066c0f9fe00000000000000000276003e7f40000000000000000116b00f9fc,
  0xbd4c0fa0100000000000000000290383e80000000000000000000a4740f9ff,
  0xb70a0fa04000000000000000003e6b03e80c00000000000000000c5a60fa02,
  0x11e760fa0700000000000000000335a03e81800000000000000000da3c0fa05,
  0x113160fa0a000000000000000004b2683e8240000000000000000110980fa08,
  0xab800fa0d0000000000000000028a003e83000000000000000000bda60fa0b,
  0xa3bc0fa1500000000000000000333a03e84800000000000000000b0b40fa10,
  0xf2780fa18000000000000000003b6503e85c00000000000000000e6540fa16,
  0xf31e0fa1b000000000000000003cb283e86800000000000000000f2bc0fa19,
  0xff7a0fa1e000000000000000003e5f03e874000000000000000012eac0fa1c,
  0x120700fa2500000000000000000457c03e888000000000000000010c240fa20,
  0x131f80fa2b000000000000000004c7783e8a80000000000000000121fa0fa26,
  0x121bc0fa2e000000000000000004eda03e8b40000000000000000132500fa2c,
  0xa1ce0fa310000000000000000027d703e8c0000000000000000012d6e0fa2f,
  0xa5c80fa3400000000000000000296483e8cc00000000000000000a29a0fa32,
  0xac0c0fa37000000000000000002ace83e8d800000000000000000a6a20fa35,
  0xb1500fa3a000000000000000002c2003e8e400000000000000000acd00fa38,
  0xc1280fa3d000000000000000002e3703e8f000000000000000000b8c80fa3b,
  0xc3e40fa400000000000000000030c703e8fc00000000000000000c2d00fa3e,
  0xcd220fa430000000000000000032f103e90800000000000000000ca9e0fa41,
  0xdc340fa460000000000000000036bb83e91400000000000000000d10a0fa44,
  0xe4560fa490000000000000000038b703e92000000000000000000de440fa47,
  0xf27c0fa4c000000000000000003c4883e92c00000000000000000e8440fa4a,
  0xf2a00fa4f000000000000000003ca403e93800000000000000000f2920fa4d,
  0xf31a0fa52000000000000000003cae83e94400000000000000000f2ac0fa50,
  0xf5020fa55000000000000000003d2003e95000000000000000000f31c0fa53,
  0xfc120fa58000000000000000003efa03e95c00000000000000000f7800fa56,
  0x1000a0fa5b000000000000000003fb903e96800000000000000000fc820fa59,
  0x104f20fa5e00000000000000000413c83e9740000000000000000103da0fa5c,
  0x1132c0fa6100000000000000000448803e9800000000000000000108ae0fa5f,
  0x119a60fa6400000000000000000459c83e98c0000000000000000116020fa62,
  0x120700fa670000000000000000047db03e998000000000000000011a100fa65,
  0x130760fa6a000000000000000004bff83e9a4000000000000000012dc60fa68,
  0x104300fa6d00000000000000001217703e9b000000000000000000c0ea0fa6b,
  0xa2d00fa720000000000000000028da83e9c4000000000000000009c4c0fa70,
  0xa3000fa750000000000000000028a283e9d0000000000000000009f000fa73,
  0xab3a0fa7800000000000000000297d03e9dc00000000000000000a58e0fa76,
  0xabc40fa7b000000000000000002acc83e9e800000000000000000aaaa0fa79,
  0xb2880fa7e000000000000000002c5983e9f400000000000000000b0b40fa7c,
  0xb6500fa81000000000000000002d3103ea0000000000000000000b2a80fa7f,
  0xbed20fa84000000000000000002f6c83ea0c00000000000000000bda40fa82,
  0xc29c0fa8700000000000000000306c03ea1800000000000000000bf5a0fa85,
  0xc2c00fa8a0000000000000000030c703ea2400000000000000000c2100fa88,
  0xc7880fa8d00000000000000000311a03ea3000000000000000000c3e40fa8b,
  0xcaac0fa9000000000000000000322903ea3c00000000000000000c8380fa8e,
  0xce360fa9300000000000000000338b83ea4800000000000000000cce80fa91,
  0xd7740fa960000000000000000035bc83ea5400000000000000000ceac0fa94,
  0xdd960fa9900000000000000000376d83ea6000000000000000000da820fa97,
  0xe2dc0fa9c00000000000000000380f03ea6c00000000000000000de440fa9a,
  0xe55e0fa9f00000000000000000391a83ea7800000000000000000ef4e0fa9d,
  0xea0c0faa2000000000000000003a3883ea8400000000000000000e6540faa0,
  0xec3e0faa5000000000000000003b0e83ea9000000000000000000ea760faa3,
  0xede80faa8000000000000000003b6d83ea9c00000000000000000ed940faa6,
  0xf1980faab000000000000000003ba003eaa800000000000000000ee940faa9,
  0xf8f60faae000000000000000003de003eab400000000000000000f5620faac,
  0xfe7c0fab1000000000000000003efa03eac000000000000000000fab60faaf,
  0x107de0fab40000000000000000041a903eacc00000000000000001000a0fab2,
  0x1130c0fab70000000000000000044a083ead8000000000000000010ef20fab5,
  0x115f00faba00000000000000000455f83eae400000000000000001132c0fab8,
  0x115fc0fabd00000000000000000458083eaf00000000000000000115960fabb,
  0x117140fac000000000000000000459c83eafc0000000000000000115da0fabe,
  0x120e40fac300000000000000000479c03eb08000000000000000011a100fac1,
  0x12cf80fac600000000000000000493b03eb140000000000000000123320fac4,
  0x12fb60fac9000000000000000004bab03eb20000000000000000012dc60fac7,
  0x130760facc000000000000000004c0583eb2c000000000000000012ffe0faca,
  0x450940facf000000000000000004fce03eb380000000000000000136240facd,
  0x773a0fad20000000000000000119ea83eb440000000000000000450880fad0,
  0x4a4920fad500000000000000000201c83eb500000000000000000080300fad3,
  0x13e860fad8000000000000000013f6983eb5c00000000000000004b9a00fad6,
  0x16dc00be40fb1f00000000000005b4002ec83ec74000000000000000013f1c0fad9,
  0x2e08016f000bd20fb2c00000000000005c2002f483ecac000000000000170400bd20fb2a,
  0x16e000ba00fb2f00000000000005b7002e803ecb800000002e10016f000bd20fb2d,
  0x16f000ba40fb3200000000000005bc002e883ecc400000000000016f000ba00fb30,
  0x16f000baa0fb3500000000000005bc002ea03ecd000000000000016f000ba60fb33,
  0x16f000bb20fb3900000000000005bc002ec03ece000000000000016f000bac0fb36,
  0x16f000bb80fb3c00000000000005bc002ed83ecec00000000000016f000bb40fb3a,
  0x16f000bc20fb4100000000000005bc002f003ed0000000000000016f000bbc0fb3e,
  0x16f000bcc0fb4600000000000005bc002f203ed1000000000000016f000bc60fb43,
  0x16f000bd20fb4900000000000005bc002f403ed2000000000000016f000bce0fb47,
  0x16fc00ba20fb4c00000000000005b9002ea83ed2c00000000000016f000bd40fb4a,
  0x20000000000000c1c20ba4105c900000000000005bf002f203ed3800000000000016fc00bb60fb4d,
  0x200000000000442e8221361109c80000000000110ba0884c84426a0000000000000c1c20bb4105e4,
  0x2000000000004449c222641112f8000000000011127088988444ba00000000000442e82214a110ab,
  0x20000000000044f2422704113838000000000011357089a3844d320000000000044cf82268e1134b,
  0x20000000000044f24227201139180000000000113c2089c5844e3a0000000000044eec2270811385,
  0x20000000000044f2422784113c880000000000113b8089e1044f1e0000000000044f0822784113c5,
  0x200000000000452f422972114be80000000000114b008a5c8452f200000000000452e822972114bb,
  0x200000000000464c02326a1193880000000000115af08adc8456ee00000000000456bc22b70115ba,
  0x2000000000005847c2c23c1612380000000000161290b08f05848a00000000000584782c23c16121,
  0x2000000b08f8584782c23c1612680000000000161200b08f058496000000000005847c2c25216124,
  0x2000000000005b59c2dace16d688000002c2401611e0b08f0584a2000000b08f8584a42c23c16127,
  0x745943a2ae1d15e8000002dace16d670b6b185b5aa000000000005b59c2dac616d69,
  0xe8b78745943a2b01d1610000003a2dc1d1650e8ac07458000000000000745943a2b01d15f,
  0xe8b90745943a2b01d1640000003a2e21d1650e8ac07458c000000e8b80745943a2b01d162,
  0xe8b70745943a3721d1bd000000000001d1650e8dd0746f000000000000745943a3721d1bb,
  0xe8b78745943a3741d1c00000003a2de1d1650e8dc8746fc000000e8b70745943a3741d1be,
  0x9c822f80200000000000000000271c0be004000000000000000009c7a2f800,
  0x9f5c2f8050000000000000000027b00be0100000000000000000402442f803,
  0xa0f42f8080000000000000000028010be01c000000000000000009f762f806,
  0xa19e2f80b0000000000000000028738be02800000000000000000a1322f809,
  0xa29a2f80e00000000000000001031d0be03400000000000000000693c2f80c,
  0xa2ee2f8110000000000000000028b20be04000000000000000000a2a82f80f,
  0xa2ce2f814000000000000000001a5c8be04c000000000000000040a382f812,
  0xa32e2f8170000000000000000102a58be05800000000000000000a31a2f815,
  0xa3582f81a0000000000000000027660be06400000000000000000a3482f818,
  0xa3ea2f81d0000000000000000148ef8be07000000000000000000a36a2f81b,
  0xa4762f820000000000000000001a6f8be07c00000000000000000a4062f81e,
  0xa4ee2f8230000000000000000029390be08800000000000000000a48c2f821,
  0xa5922f8260000000000000000029638be094000000000000000006a2a2f824,
  0xa60a2f82900000000000000000297d0be0a000000000000000000a5c82f827,
  0xa6922f82c00000000000000000298b8be0ac00000000000000000a60c2f82a,
  0xa6e62f82f0000000000000000029ad0be0b800000000000000000a6a22f82d,
  0xa6fe2f8320000000000000000029bf8be0c400000000000000000a6fa2f830,
  0xe0e02f8350000000000000000105160be0d000000000000000000a6fe2f833,
  0x416c62f8380000000000000000029ef8be0dc00000000000000000a7942f836,
  0xa80c2f83b0000000000000000029f88be0e800000000000000000a7d62f839,
  0xa8902f83e000000000000000002a1c0be0f400000000000000000a93c2f83c,
  0xa9ec2f841000000000000000002a510be10000000000000000000a8d02f83f,
  0xaac62f844000000000000000002aa98be10c00000000000000000aa202f842,
  0xab322f847000000000000000002ac20be11800000000000000000ab082f845,
  0xab842f84a000000000000000002ad98be12400000000000000000ab562f848,
  0xae2e2f84d000000000000000002b030be13000000000000000000ae2c2f84b,
  0xa40e2f850000000000000000002b3a0be13c00000000000000000aca22f84e,
  0xafe82f853000000000000000002be70be14800000000000000000b1dc2f851,
  0xb0642f856000000000000000002bc58be15400000000000000000b01a2f854,
  0x429c82f859000000000000000002c560be16000000000000000000b0622f857,
  0xb20c2f85c000000000000000002c7b8be16c00000000000000000b1e42f85a,
  0xb2c42f85f000000000000000002c910be17800000000000000000b2342f85d,
  0xb3d82f862000000000000000010b750be184000000000000000042d502f860,
  0xb3b02f865000000000000000002d138be19000000000000000000b4362f863,
  0x6df82f868000000000000000001b770be19c00000000000000000b4cc2f866,
  0xb67c2f86b000000000000000002d9f0be1a800000000000000000b6102f869,
  0xb7b02f86e000000000000000002de18be1b40000000000000000433902f86c,
  0x436302f871000000000000000002df98be1c000000000000000000b7ce2f86f,
  0xbea62f874000000000000000002e030be1cc00000000000000000b7fe2f872,
  0xb8c02f877000000000000000001bc08be1d800000000000000000b8442f875,
  0xb91a2f87a000000000000000002e600be1e400000000000000000b8dc2f878,
  0x43bcc2f87d000000000000000002ea18be1f0000000000000000043bc82f87b,
  0xbaf82f880000000000000000002eb58be1fc00000000000000000badc2f87e,
  0x705e2f883000000000000000002ef10be20800000000000000000bbc22f881,
  0xbc7a2f886000000000000000002f140be21400000000000000000bbfa2f884,
  0x443062f889000000000000000001c310be22000000000000000000bcd22f887,
  0xbd662f88c000000000000000002f580be22c0000000000000000070f82f88a,
  0x547242f88f000000000000000002f650be23800000000000000000bd6c2f88d,
  0x446622f8920000000000000000111988be24400000000000000000bdfc2f890,
  0xbe442f895000000000000000002f910be2500000000000000000104022f893,
  0x4c3b42f89800000000000000001195c0be25c00000000000000000718e2f896,
  0x71c62f89b000000000000000002fb58be26800000000000000000bec42f899,
  0xbfae2f89e000000000000000002fe68be27400000000000000000bf342f89c,
  0x72742f8a10000000000000000030408be28000000000000000000bff22f89f,
  0x44da82f8a400000000000000000304a0be28c0000000000000000072382f8a2,
  0xc2982f8a70000000000000000030a40be29800000000000000000c18e2f8a5,
  0xc2f42f8aa0000000000000000030a60be2a400000000000000000c29c2f8a8,
  0xc3482f8ad0000000000000000030d90be2b000000000000000000c31c2f8ab,
  0xc3e42f8b00000000000000000030ef0be2bc00000000000000000c35e2f8ae,
  0xc4362f8b30000000000000000031080be2c800000000000000000c3ec2f8b1,
  0xc5a82f8b60000000000000000031588be2d400000000000000000c4ba2f8b4,
  0xc67a2f8b90000000000000000115860be2e000000000000000000c6a02f8b7,
  0xc7062f8bc0000000000000000031b40be2ec00000000000000000c5f82f8ba,
  0xc8442f8bf0000000000000000115f88be2f800000000000000000c7c82f8bd,
  0x745c2f8c20000000000000000031d48be30400000000000000000c78a2f8c0,
  0xc93a2f8c500000000000000000323f0be31000000000000000000c8d22f8c3,
  0xca9e2f8c8000000000000000001d360be31c00000000000000000c8ee2f8c6,
  0xcbc62f8cb0000000000000000118050be32800000000000000000cad82f8c9,
  0x76322f8ce0000000000000000033248be33400000000000000000cdf02f8cc,
  0x75c82f8d1000000000000000001d840be34000000000000000000cd222f8cf,
  0xce002f8d40000000000000000028ca8be34c00000000000000000a3242f8d2,
  0x87b22f8d70000000000000000040568be35800000000000000000cd382f8d5,
  0xce422f8da00000000000000000338d8be36400000000000000000ce2e2f8d8,
  0x467862f8dd0000000000000000033a98be37000000000000000000cebc2f8db,
  0xcf0a2f8e00000000000000000033fd0be37c0000000000000000076922f8de,
  0x468da2f8e30000000000000000034428be38800000000000000000d0a42f8e1,
  0xd2282f8e600000000000000000340f8be39400000000000000000d11c2f8e4,
  0xd3462f8e90000000000000000034a10be3a000000000000000000773a2f8e7,
  0x46d462f8ec0000000000000000035540be3ac00000000000000000d3d42f8ea,
  0xd6422f8ef000000000000000001e0c0be3b800000000000000000d5b62f8ed,
  0x789c2f8f20000000000000000035aa0be3c400000000000000004714e2f8f0,
  0xd7742f8f50000000000000000035cf8be3d000000000000000000d6e42f8f3,
  0x43a162f8f8000000000000000011d468be3dc00000000000000000d7762f8f6,
  0x479782f8fb0000000000000000036270be3e80000000000000000475f42f8f9,
  0xd8ce2f8fe0000000000000000036668be3f400000000000000000d97e2f8fc,
  0xdaee2f90100000000000000000369f0be40000000000000000000da2c2f8ff,
  0xdaf02f9040000000000000000036b48be40c00000000000000000da822f902,
  0xda682f907000000000000000011e8f0be41800000000000000000db0a2f905,
  0x7a662f90a0000000000000000037370be42400000000000000000dc5e2f908,
  0x47da22f90d0000000000000000037638be43000000000000000000dd962f90b,
  0x47ebc2f9100000000000000000037b70be43c00000000000000000dbf22f90e,
  0xe0722f9130000000000000000037e30be448000000000000000047f1c2f911,
  0x7b2c2f91600000000000000000380d8be45400000000000000000e03c2f914,
  0xe0ee2f91900000000000000000383e8be46000000000000000000e0942f917,
  0xe28a2f91c0000000000000000102928be46c00000000000000000e15a2f91a,
  0x487562f91f0000000000000000038ce0be4780000000000000000484c62f91d,
  0xe4a02f92200000000000000000391a8be48400000000000000000e4502f920,
  0xe52a2f9250000000000000000039400be490000000000000000048c102f923,
  0xe6f42f92800000000000000001240a0be49c000000000000000048e6a2f926,
  0xe74a2f92b000000000000000001f560be4a800000000000000000e7162f929,
  0xe88e2f92e000000000000000001f5c0be4b4000000000000000007d702f92c,
  0xe90a2f931000000000000000003a388be4c000000000000000000e8b82f92f,
  0xea482f934000000000000000001f8d8be4cc00000000000000000e9942f932,
  0x499242f937000000000000000003a9f0be4d800000000000000004986c2f935,
  0xec202f93a0000000000000000110cf8be4e400000000000000000eae02f938,
  0x4a0882f93d0000000000000000127dc0be4f0000000000000000049f422f93b,
  0xede82f9400000000000000000020040be4fc000000000000000007ff82f93e,
  0x4a2322f9430000000000000000128790be50800000000000000004a1e62f941,
  0xee3e2f946000000000000000003b8f0be51400000000000000004a2662f944,
  0x80722f949000000000000000003ba50be52000000000000000000ee3e2f947,
  0x812c2f94c0000000000000000020230be52c00000000000000000ef162f94a,
  0xf1182f94f000000000000000003c270be53800000000000000004a83a2f94d,
  0x4ac4c2f9520000000000000000020718be54400000000000000000f1982f950,
  0x4ad8a2f955000000000000000012b4d0be55000000000000000000f2ac2f953,
  0x825e2f958000000000000000003cf58be55c00000000000000000f31e2f956,
  0xf49e2f95b000000000000000003d250be56800000000000000000f4802f959,
  0x4b54e2f95e000000000000000012d538be57400000000000000004b2f82f95c,
  0x4b7562f9610000000000000000021010be58000000000000000000f5dc2f95f,
  0x844e2f964000000000000000003de48be58c00000000000000000f78c2f962,
  0x85402f967000000000000000003e690be59800000000000000004b9002f965,
  0xfa002f96a000000000000000003e718be5a400000000000000000f9d02f968,
  0x86022f96d000000000000000003eb18be5b000000000000000004bf0c2f96b,
  0xfc8a2f970000000000000000003f010be5bc00000000000000000fb8e2f96e,
  0x4c48e2f9730000000000000000131140be5c80000000000000000086682f971,
  0xfef42f97600000000000000001316c8be5d40000000000000000086b22f974,
  0xfff42f979000000000000000003fca8be5e000000000000000004c67c2f977,
  0x4ca462f97c00000000000000001326d0be5ec00000000000000001000a2f97a,
  0x100e02f97f0000000000000000132d40be5f80000000000000000100c02f97d,
  0x101642f9820000000000000000021ea8be6040000000000000000466be2f980,
  0x1027c2f9850000000000000000022058be6100000000000000000102062f983,
  0x4cf6a2f9880000000000000000133d38be61c00000000000000000b56a2f986,
  0x104022f98b0000000000000000119ce0be6280000000000000000467262f989,
  0x88d62f98e0000000000000000047cf0be6340000000000000000104082f98c,
  0x1053a2f9910000000000000000041458be6400000000000000000105222f98f,
  0x105662f9940000000000000000041588be64c00000000000000000a5662f992,
  0x4d6782f9970000000000000000041730be65800000000000000001057a2f995,
  0x106c62f99a00000000000000000418e8be6640000000000000000105ca2f998,
  0x1077a2f99d0000000000000000041918be67000000000000000001075a2f99b,
  0x106a62f9a000000000000000000422b8be67c0000000000000000107ce2f99e,
  0x107b82f9a30000000000000000041e60be6880000000000000000107942f9a1,
  0x4d9aa2f9a60000000000000000136b58be69400000000000000004d86c2f9a4,
  0x109e62f9a90000000000000000042788be6a0000000000000000008a562f9a7,
  0x10ac82f9ac0000000000000000139e50be6ac000000000000000010a2c2f9aa,
  0x8ac22f9af0000000000000000022ae8be6b800000000000000004de582f9ad,
  0x8ad62f9b20000000000000000138690be6c400000000000000004df622f9b0,
  0x10cce2f9b500000000000000000432e0be6d0000000000000000010ca02f9b3,
  0x10d102f9b80000000000000000043548be6dc000000000000000010cd22f9b6,
  0x10ef22f9bb0000000000000000043710be6e8000000000000000010e1c2f9b9,
  0x10f0c2f9be0000000000000000043b58be6f4000000000000000010e502f9bc,
  0x110022f9c10000000000000000043f08be700000000000000000008bae2f9bf,
  0x110c62f9c40000000000000000044300be70c000000000000000008bf22f9c2,
  0x111bc2f9c700000000000000000446b8be71800000000000000004ecce2f9c5,
  0x69762f9ca00000000000000000447d0be724000000000000000008c6a2f9c8,
  0x8d7c2f9cd000000000000000013cb30be73000000000000000004f15c2f9cb,
  0x115da2f9d00000000000000000045500be73c000000000000000008d8e2f9ce,
  0x4f9502f9d300000000000000000462a8be7480000000000000000117142f9d1,
  0x11a362f9d60000000000000000046608be7540000000000000000119562f9d4,
  0x410082f9d9000000000000000013f978be760000000000000000011aee2f9d7,
  0x11be02f9dc0000000000000000046de0be76c000000000000000011b962f9da,
  0x11e702f9df00000000000000000476a0be7780000000000000000411bc2f9dd,
  0x121282f9e20000000000000000142f68be784000000000000000050ba42f9e0,
  0x50e5c2f9e50000000000000000048888be7900000000000000000121e22f9e3,
  0x125ae2f9e800000000000000000491c0be79c0000000000000000122362f9e6,
  0x127f22f9eb00000000000000000493e0be7a80000000000000000125b02f9e9,
  0x12b162f9ee0000000000000000145fd0be7b400000000000000001282a2f9ec,
  0x51aee2f9f1000000000000000004adb8be7c000000000000000000932a2f9ef,
  0xbb642f9f4000000000000000004b618be7cc0000000000000000093cc2f9f2,
  0x524342f9f70000000000000000148a28be7d8000000000000000012e462f9f5,
  0x12fc02f9fa00000000000000000253b0be7e40000000000000000094dc2f9f8,
  0x5292c2f9fd0000000000000000025590be7f00000000000000000528142f9fb,
  0x130522fa00000000000000000004c058be7fc0000000000000000130162f9fe,
  0x96662fa03000000000000000004c710be808000000000000000052b6c2fa01,
  0x133842fa06000000000000000004cd38be8140000000000000000132522fa04,
  0x536602fa090000000000000000025e70be8200000000000000000133fc2fa07,
  0x139fa2fa0c000000000000000004e200be82c0000000000000000136242fa0a,
  0x13ace2fa0f0000000000000000026768be83800000000000000000999c2fa0d,
  0x5420a2fa1200000000000000000267c0be84400000000000000005419c2fa10,
  0x13d762fa150000000000000000151488be85000000000000000005441c2fa13,
  0x13dfc2fa18000000000000000004f7c8be85c000000000000000009aac2fa16,
  0x13e2c2fa1b000000000000000004f878be868000000000000000013e0a2fa19,
  0x153000be874000000000000000013e762fa1c]

/-- The code points whose canonical combining class is not zero. -/
def combiningClassWords : List Nat := [
  0xdc00002800003600000200000e800000800003700000800000e800000800003980002a00300,
  0xdc00002000000040000a00000dc00005800003280000400000dc00002000003280000400000,
  0xdc00001000003980000600000dc00001800003980000200000f000000800003980001000000,
  0xe600000800003700000400000e800000800003980000200000dc00002000003980000600001,
  0xe600006800003a40000200000ea00001000003a40000200000ea00001000003a40000200000,
  0xde00000800003980000600000dc00000800003980000800000dc00000800427980000a00113,
  0xe600001000003700000200000e600001000003700000c00000e600003000003700000200000,
  0xc000008000002c00002000000a00000800003980000200000e400000800003780000200000,
  0x120000080000044000020000010000008000003c00002000000e00000800000340000200000,
  0x18000008000045c0000200001160000080000054000020000014000008000004c0000400000,
  0x1e000008000039800010000481200000800007700000200000e600000800004640000200000,
  0x1e000008000007400002000001c000008000006c000020003020000008000007c0000200000,
  0xdc00001000003980000400000220000080000084000020000020000008000007c0000200000,
  0xe6000038001948c0000200010dc00000800003980000400000dc00000800003980000a00000,
  0xe600001000003700000200001e60000100000b980000200000dc00000800003980000800002,
  0xdc00000800003980000400000dc0000080000398000020001e240000080008f700000200000,
  0xdc00000800003980000200000dc00001000003980000200000dc00001800003980000400000,
  0xdc00000800003980000200000dc00000800003980000200000dc00000800003980000600000,
  0xe600000800003700000200000e600003800283980000400000dc00000800003980000200000,
  0xdc000018000af980000a00001e600001800007980001200001e600002000063700000200009,
  0xe600007000003700000a00000e6000028000ab980000800000dc0000180000398000040003b,
  0xe600001800003700000200000e600001000003700000200000e600001000003700000200001,
  0xdc000008000039800006000001d000008000007000002000001b00000800003700000600000,
  0xe60000080000c24000020001007000008000f3980000a00000dc00001000003980000400000,
  0x7000008000f798000020003009000008000401c0000200067e600001000003700000200000,
  0x9000008001fc24000020001007000008001b824000020001007000008001b8240000200010,
  0x9000008000401c00002000655b0000080000150000020000709000008000401c000020006e,
  0x6b0000200003424000020000067000010001b424000020007c090000080004024000040006d,
  0xdc0000080000770000020001bdc00001000131e8000080000d0900000800001d8000040006c,
  0x820000080000a080000800005840000080000608000020000081000008000df600000200001,
  0x9000010000041c0000200070dc000008000fb9800004000010900000800003980000400001,
  0xe60000080002824000020009d09000008000782400004003b4e600001800b3f700000200052,
  0xdc000008000039800002000dbdc00000800003980000200000de0000080023f9000002000cb,
  0xe600001000003700000c00000e6000028000c3700000200002e600004000050240000200047,
  0xdc00000800003980000a00000dc00001000003980000400000dc00001000007700000200000,
  0xea00000800003980000800000dc00000800003980000c00002dc00000800003980002400000,
  0x9000010000db980000e00000dc00000800003980000200026090000080003c1c0000200048,
  0xdc00002800000040000200001e6000018002601c0000200043090000100002c1c000020003a,
  0xe60000080001b7000002000040100003800007980000200000dc00002000003980000400000,
  0xe600001000003700000200000e600003800003700000200000e60000100031b980000400003,
  0xe800000800003980004a00000ca00000800003700000200000d600000800003a80000200000,
  0xdc00000800003a40000200000e600000800003680000200000dc00000800003900000400000,
  0x10000180000398000080000001000010000039800004002d0dc00000800003980000200000,
  0xe600000800003700000200000e600000800000040000400003e600000800013980000400000,
  0xe60001000018024000020008de600001802ffb980000200000dc00002000000040000400000,
  0x8000010001a7800000400000de00000800003a00000200000e40000080000368000020022a,
  0x900000800094240000200114e600001000143980000400020e6000050000139800002075d4,
  0x9000008000301c000020005f0900000800097700000600039e60000900006c240000200097,
  0xe600000800007980000400005e60000100000b700000200000e6000010000079800002000ef,
  0xe600001000003700000e00000e600003800c04680000204f3009000008003d8240000200034,
  0xe6000008000a3980000200001dc00000801a4b980000a00095dc0000080038b7000002003cd,
  0xe6000020008f7700000200000e600000800294240000200004dc00000800000040000200000,
  0xe600001800003700000400046dc0000180000770000040004de6000010004f7980000a00041,
  0xe600000800003700000200000e6000008000c7700000800000e600000800003700000200000,
  0x70000080000024000020003909000008000382400002000290900000800303700000200000,
  0x9000008001a81c000020000909000008001301c000020003e09000010000c3980000600045,
  0xe600003800060240000200010070000100014024000020000007000008002c81c0000200000,
  0x90000080018f980000200017070000080000c2400002000710900001800167980000a00003,
  0x70000080000024000020007609000008001f81c000020000009000008003ec1c0000200000,
  0x9000008002701c000020000409000010004081c00002000000900000800434240000200073,
  0x9000010000041c000020010209000008006942400002000510900000800048240000200053,
  0x6000010012e7980000e0003b01000028027002400002041ec09000010006a4240000200051,
  0xdc00004000023600000a00000e20000080000c040000600000d800001005318040000204cac,
  0xe600008800007980000e00dbbe60000180025398000080001edc00001000003980000a00002,
  0xe6000008005df980000e000a0e600000800193980000a00001e600001000007980000e00002,
  0xdc000008000039800002000fee600000800003700000200000e8000010007f398000080003d,
  0xe6000030001b7700000e001dae600000800017980000400007e60000080000b9800002000f3,
  0x1c0000200000]

end UrlMatch.Unicode
