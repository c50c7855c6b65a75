/-!
# Bidirectional classes and joining types, packed

Each numeral packs six spans of 50 bits, lowest first: the gap since the last span, the
length, and the tag. The tags are positions in
`Direction.all` and `Joining.all`.
-/

namespace UrlMatch.Unicode

/-- Every code point whose bidirectional class is not `L`. -/
def directionWords : List Nat := [
  0x7000018000002000004000000b00002800000240001c000000b00002800000240001200000,
  0x40000500000018000040000005000008000001800002000000500000800000200000a00000,
  0xb00000800000240000c000000800002000068200000c0001a0800003000000180000200000,
  0x80000100000420000080000007000020000002000002000000600000800000240003400000,
  0x80000180000420000020000004000010000001c00004000000800001000000240000200000,
  0x80000700001c2000004001c1080000080007c2000002000170800002800004100000200000,
  0x8000008000202000004000040a000380000002000022000010800004800014200001c00002,
  0x8000010000082000002001000a0000380023020000020006e0800000800004200000400005,
  0x1000008000002800002000000100000800000280005a0000001000008000001c0000200000,
  0x10001c00000028000020000001000008000002800004000000100000800000280000400000,
  0x600000800000080000200000070000100000008000020000008000010000000c0000c00000,
  0x300005000000280002a0000002000180000002800016000000800001000000080000200000,
  0xa0000380000008000ca000000a0000080000008000060000003000010000001c0000200000,
  0x8000008000002800004000000200001000000280000c0000008000008000000c0000200000,
  0x20000f000000280000200000020000b8000001000014000000200001000000280000800000,
  0xa000048000000400056000000200007800000280001600000020002d800000280003600000,
  0xa000020000000400030000000a000008000000400006000000800002000000040000400000,
  0xa000028000000400002000000a000018000000400002000000a00004800000040000200000,
  0x2000028000000c000040000002000180000000400008000000a00001800000040005600000,
  0xa000008000dc28000400000003000008000002800030000000200015000000280001200000,
  0xa0000080007428000040000a0a0000380000c2800002000040a00004000010280000200001,
  0x70000080001c1c000040000e0a000010000502800002000080a0000200001028000020003a,
  0xa000018000082800004000040a000010000102800002000390a00001000008280000200002,
  0xa000028000102800002000390a0000100002c2800002000030a00001000078280000200003,
  0xa00000800004280000c0000807000008000342800004000140a00000800010280000400001,
  0xa0000100002c2800004000070a000008000202800008000010a0000080000828000020003a,
  0x8000008000001c0000200000080000300009428000020000c0a000008000f428000020001e,
  0xa000020000042800006000050a000018000042800002000370a0000080000c280000200005,
  0xa0000100003c28000020003a0a00000800008200000e000140a0000100002c280000400007,
  0xa000010000502800002000080a000020000102800004000390a00001000070280000400014,
  0xa0000380000828000020005a0a000008000042800006000070a0000080012028000020001d,
  0xa00001000124280000e0000b0a000048000082800002000620a0000400001c1c0000200004,
  0xa00002800004280001c0003308000020000002800002000010a0000080000428000020001b,
  0xa000030000042800008000660a000008000242800048000010a00005800014280000400001,
  0xa000008000342800008000100a000018000102800004000190a00001000008280000400001,
  0x8000008001982000014000300a00001800afc28000020000f0a00000800018280000400002,
  0xa0000100007828000040001e0a0000100007428000060007508000010000682c000020027f,
  0xa000008000041c00002000070a000058000082800002000080a00003800004280000400040,
  0xa000010001d428000020000009000008000002800006000000800005800018200001400012,
  0x8000008000102800006000060a000008000242800004000040a000018001d8280000200022,
  0xa0000380000428000020003a0a000008000082800004000170800011000260200000400003,
  0xa000170000c02800002000020a000050000182800010000020a00000800004280000200001,
  0xa000008000142800002000010a000028000042800002000300a00002000050280001800002,
  0xa000008000e02800006000010a000010000082800008000200a00001000030280001200028,
  0xa000018002602800004000020a000040000e82800006000010a0000080000c280000400001,
  0xa000200003182800004000030a000008000182800002000040a00003800004280001a00001,
  0x80000100003420000060000d080000180003420000060000b08000018000042000002001bd,
  0x6000008000002c0000e00000080000c00000004000020000109000018000002c0001600001,
  0x9000030000002c0000200000080000d00000018000020000008000078000001c0000a00000,
  0x800001800000140000400000040000300000c10000020000009000030000002c0000800000,
  0x80000100003c28000420000007000180000442000006000000500001000000100001400001,
  0x800000800004200000c00005080000180000420000020000a0800001000004200000800001,
  0x800002000014200000a00004080000100002c1c00002000040800000800004200000200001,
  0x8000910000001c0000200000050000080000020001040000408000018000a4200002000002,
  0x8000e100013810000280000008000140000542000016000190800048800004200003400045,
  0xa00001800010200000c000e50800034800004200004000002080013a00040020002a600001,
  0x80002c800004200003400022080002f0000002800040000600a000008001fc200000e00007,
  0xa0000200002420000320000308000020000002c0000200004080000600006820001ac0000c,
  0x80000080000c2000004000000a000010001642000006000050800001000014200000200002,
  0x8000078000c820000060001c08000080000c4200000400039080001200031020000020005a,
  0x80001b815a402000080019c0080000080007c200000400063080000200029c20000080000c,
  0xa000010000782000004000000a000050000002000002000000a0000200017c200000600146,
  0xa000008000102800002000030a000008001e42000002000660800011000038280000400050,
  0xa0000100013020000080003a070000100002c2800002000000800002000004280000400019,
  0xa000008000c028000060002e0a000058000642800010000260a0000080003428000240001a,
  0xa000010000082800004000020a0000300010c2800002000270a00001000008280000800002,
  0xa000010000082800006000010a000008000cc28000020002f0a0000080002028000020000c,
  0xa000008001e42000004000730a0000080002028000040002a0a00000800004280000400005,
  0x5000008000000400014000000a00000800000040000204f2f0a00000800010280000200002,
  0x900010000000200000200000020003f80000020000240000002000f7000000040004c00000,
  0x80001000000028000200000608000050000002800020000000800001800000080001a00000,
  0x80000480000018000020000008000008000041800002000000800000800000180000200000,
  0x700001000000200000200001080000180000014000040000008000010000001c0000200000,
  0x8000028000001c000060000008000010000042400002000000200047800010200000200000,
  0x60000080000010000140000006000010000001400002000000600000800000140000200000,
  0x70000100000020000060000007000010001e820000160001a0800003000068200000c00000,
  0x8000268000f82000002001010900001000000200000a000000900004800004200000e00001,
  0xa000028001e81000036000000a0000080038828000020005c080000080000c200001a00003,
  0xa000010000000400002000000a0000180000004001c2000000800000800000040023e00485,
  0xa000008000000400008000000a000018000000400050000000a00002000000040000a00000,
  0x200012000000040038000000080000380000004000a4000000a00001000000040014a00000,
  0xa0000280000004000520000002000030000000c00014000000200004000000280000800000,
  0x1000160000000c0003e000000100068000000200000400000010000f800000200000200000,
  0x20000b0000000400060000000a000030000000800074000000100009800000280000400000,
  0xa0000080000404000f4000000a00002000000040002400000020000f800000280001600000,
  0xa000020000c428000060000a0a0000100000828000020000a080000a00002c280001e00036,
  0xa000008000f82800010000010a0000280009028000060003d0a0000080001c280000400002,
  0xa0000080000828000060005f0a0000080000828000080000a0a000048000d028000040000c,
  0xa000010000542800010000030a000008002742800002000020a00000800018280000400001,
  0xa00000800034280000c000460a0000280000c280000e000250a0000080000c280000400039,
  0xa000008000042800006000020a0000400015428000040000e0a00000800004280000200001,
  0xa000020003b82800004000010a000010000102800002000010a00003000150280000200017,
  0xa000010000042800002000020a0000400015428000040001b0a00001000004280000400006,
  0xa000018001942800002000010a000030000082800002000010a000008000f8200001a0001f,
  0xa000008000042800004001000a000010000042800012001030a00002800004280000800002,
  0xa00001000008280000c000200a000008000102800004000020a00002000240280000200004,
  0xa000068000b82800006000020a000030000242800002000080a00002000008280000c00028,
  0xa00003000004280000e000c90a000008000042800006000010a00000800318280000400001,
  0xa0000080000c280000c0007a0a000010000042800004000010a00003800008280002c00054,
  0xa000008000042800002000030a000010001202800002000010a00003800004280000400001,
  0xa0000080005c2800002000010a00000800014280000a000340a0000100002c28000040015b,
  0xa0000600b320280001e000060a00000805138200002200000070000200000020000100007a,
  0x80000080013c28000080003f0a00000801060280000e0003b0a00002802700280000600003,
  0xa00001800880280002e000020a000170049702400008000010a000010132e0280000200001,
  0x80002100005420000040003b0a00002000078280000e000020a00004000000240001000009,
  0x8000008000e42000002000390800000800e1020000ae000ba0800000800000280000600000,
  0xa000008000202800064000040a0001b80080010000640000a08000008000e4200000200039,
  0xa000038000082800022000010a00003801540280001e000010a0000280005828000020000e,
  0xa000020000f42800002001770a000038002802800002000640a00002800004280000400001,
  0xa0000100001c2800002000020a000008003cc2800004000fe0a000020007b01c000020000f,
  0x100192800000280000e000000100036800000280000e000000100068000428280000200005,
  0x80000100000008001e000000010005800000008000a000000010002000000008000a000000,
  0x800007800008200001e0000c08000320000102000058000000100080000000080001c00000,
  0x8000030000e820000020001f080000280000010000160000a0800012800004200001e00001,
  0x80003b80000c200001a00003080000880001020007b00009a08000030002c820000020003d,
  0x800005000020200007000004080000600003c200000200004080000600001820000be00004,
  0x800006800008200001c0000c08000aa000138200000400002080000f000020200005000006,
  0x80000480001c2000012000040800007000020200000e00001080001700001c200001200003,
  0x90000103fff824000040fffe0900001001010100001400025080001b800004200012600007,
  0x90000103fff824000040fffe090000103fff824000040fffe090000103fff824000040fffe,
  0x90070800000028001e000000090008103fff824000040fffe090000103fff824000040fffe,
  0x24000040fffe090000103fff824000040effe]

/-- Every code point that joins or is transparent to joining. -/
def joiningWords : List Nat := [
  0x3000010000040c0000200001030001680041c0c0000e0011303000380009480c00002000ad,
  0x10000200000400000020000303000008000040c000160004803000008000040c0000400001,
  0x100002000000000000a0000001000008000000000002000000100000800000000000200000,
  0x30000a8000000000004000000100000800000000000e000000400000800000000001a00000,
  0x1000090000000000020000000100001800004040000600000030000080000000000040000e,
  0x10000080000000000020000001000048000000000004000000100000800000000004c00000,
  0x30000380000004000020000101000010000000000004000000100000800000000000200000,
  0x80000800000060000a01000010000000c000080000103000010000080c0000c00002,
  0x2000000040000a0000000000018000000c000020000001000008000000c000020000f,
  0x80000004000020000000000008000000400002000000000004800000040000200000,
  0x5800000040000200002030000d8000000400002000000000001000000040000200000,
  0x80000004000020000000000020000000400004000000000007800000040000600000,
  0x108000640c000160002600000030000000400004000000000001800000040000400000,
  0x3000018000040c000120000103000020000600c000020000204000008000180c0001200000,
  0x1000008000000000002000000100001000000000000a0000001000008000480c0000a00001,
  0x8000100c000060000001000018000000000002000000100000800000000001400000,
  0x40000180000004000260000501000010000000000002000000100000800004000000800001,
  0x50000000c000120000700000008000000400002000000000002800008000000200000,
  0x100000800000000000c0000001000010000000000004000000100000800004040000600000,
  0x3000040000100c000020000103000008000dc0c0004000001030000c000004000001e00000,
  0x3000020000100c000020003a03000008000740c000040000a030000380000c0c0000200004,
  0x3000010000100c000020003903000010000080c000020001a03000010000500c0000200008,
  0x30000100002c0c000020000303000010000780c000020000303000018000080c0000400004,
  0x3000030000580c000040001403000008000100c000040000103000028000100c0000200039,
  0x30000100001c0c000020000803000020000040c000020000203000008000e80c0000200001,
  0x30000080000c0c000020003203000008000300c000020003d03000008000780c000040000b,
  0x30000100002c0c000040000703000020000040c000060000503000018000040c0000200037,
  0x3000010000500c000040000503000008000180c000020000203000008000e80c000020001d,
  0x3000008000740c000040001403000008000200c000080000403000010000e40c000040001c,
  0x3000040000300c0000e0000203000008001680c0000200001030000180001c0c0000200048,
  0x3000008000040c000020001b03000010001240c0000e0000b03000048000080c0000200062,
  0x3000120000040c000160000503000010000040c0000a0000103000070000dc0c0000200001,
  0x3000010000640c000040000203000010000040c0000c0000103000020001980c0000200009,
  0x30000080003c0c000020000603000010000080c000020000d03000020000400c0000600004,
  0x3000010001000c000040001e03000010000780c000040001d0300001800ec80c00006002bf,
  0x40000080000800000020002903000008000240c000160000203000008000200c0000e00001,
  0x300000800000000004400000030000100003000000b20001003000008000040c0000600000,
  0x30000100036c0c000060000603000008000240c000040000403000018001d4000000200000,
  0x3000040000080c000020000103000008000040c0000e0000103000008000e80c0000200002,
  0x3000008000c00c000080001403000060000080c0005c0003003000008000080c0001400006,
  0x3000020000800c000040000c03000048000a00c000020000503000008000040c0000a00001,
  0x3000018000040c000020000303000010000040c000020003803000018000040c0000400002,
  0x3000008000100c0000e0000103000068000040c000060009803000010000080c000100003a,
  0x300001000000100000200001030000080082c0c00080000c6030000100000c0c0000200006,
  0x3000008002340c0000600bfe03000108001800c0000c0000503000028000c40c0000a0001a,
  0x3000010000800c0001400001030000201d7500c000040006b03000020008a80c0004000060,
  0x3000008000140c000040001903000008000100c000020000303000008004400c0000400050,
  0x3000040000980c000020000d03000090000680c00004000510200000800000000006400013,
  0x30000080009c0c000040000203000020000080c000020003003000018000b80c0001600019,
  0x3000008000bc0c000020000803000008000300c000040000203000010000080c0000c00043,
  0x3000010000a80c000020000103000010000140c000040000203000018000040c0000200033,
  0x300008000b840c0000204f3003000008000100c000020000203000008003b80c0000200008,
  0x3000028002540c00002000e203000008008040c00006000f9030000080033c0c0002000010,
  0x28002000c000020000403000018000a00c000080000503000010000040c0000600686,
  0x2000000040000a0000002000008000080400004000010100000800004040000200000,
  0x10000080000804000020000000000018000000400002000000000002800000080000200000,
  0x800000040000200000000000080024004000020000000000020000100c0000400000,
  0x80000004000020000000000010000000400002000000000001800000040000600000,
  0x200000800544000000400000010000200005c0400002000000000000800000040000400000,
  0x3000010004f40c0000a0004103000020000000000002000000100000800000000004200000,
  0x10000080000000000060003003000030000c80000004000010000001000000040000200015,
  0x10000100000000000080001b01000008000000000006000000300005800004000002200000,
  0x800004040000600000000000100000400000020002a0300002000000000001800000,
  0x10000100000000000020000100000010000000400002000000000001000000040000400000,
  0x3000078000d80c000020003502000008000000000002000000100000800010000000200000,
  0x30000080001c0c000040000203000020000c40c000060000a03000010000080c0000200029,
  0x3000048000d00c000040000c03000008000f80c000100000103000028000900c000060003d,
  0x3000008000180c000040000103000008000080c000060005f03000008000080c000080000a,
  0x30000080000c0c000040003903000010000540c000100000303000008002740c0000200002,
  0x3000008000040c000020000103000008000340c0000c00046030000280000c0c0000e00025,
  0x3000030001500c000020001703000008000040c000060000203000040001540c000040000e,
  0x3000010000040c000040000603000020003b80c000040000103000010000100c0000200001,
  0x3000008000040c000020006a03000010000040c000020000203000040001540c000040001b,
  0x3000028000040c000080000203000008000040c000020006503000008000040c0000c00002,
  0x3000020002400c000020000403000008000040c000040010003000010000040c0001200103,
  0x3000008000200c000080000203000030000a00c000140002003000008000100c0000400002,
  0x3000018000040c00002000c603000010000040c0001a0002e03000018000080c0000c00009,
  0x3000038000080c0002c0005203000008000040c0000c0000103000038003240c0000200001,
  0x3000038000040c0000400001030000080000c0c0000c0007a03000010000040c0000400001,
  0x30000100002c0c000040015b03000008000040c000020000303000010001200c0000200001,
  0x3000078000180c00022014d5030000080005c0c000020000103000008000140c0000a00034,
  0x3000020000fc0c000020041803000038000ec0c0000a009c0030000180000c0c0001802cc8,
  0x3000018008800c0002e0000203000170049700c000080000103000010132e00c0000200051,
  0x3000190000100c0006e007bb03000018002500c000080001e03000038000080c0002000009,
  0x3000088000040c0000e0055003000078000040c0000a0001603000008000380c0000200008,
  0x3000008005dc0c0000e000a003000008001900c0000a0000103000010000040c0000e00002,
  0x30000100001c0c000020000203000008003cc0c00004000fe03000020007f00c000080003d,
  0x3000300000780c00002c16b5030000400000000000880002903000038007680c0000200005,
  0xc001e000080]

end UrlMatch.Unicode
