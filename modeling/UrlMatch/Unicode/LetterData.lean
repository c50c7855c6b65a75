/-!
# Letters and letter case, packed

Each numeral packs six spans of 50 bits, lowest first: the gap since the last span, the
length, and the tag. The tag is not used.
-/

namespace UrlMatch.Unicode

/-- The code points with the property Alphabetic. -/
def alphabeticWords : List Nat := [
  0xb800014000000200004000000080002800000020002f000000d000018000003400041,
  0x800004000000200007000000280003800000180000400000e5000004000003e00001,
  0x80001800000020000100000020000080000004000010000009000074000000200056,
  0x5300002000001160000100000298000040000028000010000000800004000000600001,
  0x1000004000000200001000000700009c0000052000060000000800008000004c00001,
  0x1c00001400000160001d00000020000100000036000080000000800004000000400001,
  0x180002800000060000400000040000100000010000010000033000038000000e00001,
  0x800010000000400009000001080006000000ca0000d0000018000040000000200002,
  0x3800004000003000005000000580001c0000032000130000009800008000003000005,
  0x8000004000009800006000000380000c00000180000a0000015000020000000200007,
  0xb000008000000400002000000400000400000260000d0000007800010000000600001,
  0x1000008000000400002000000400000c0000008000030000000800004000000e00001,
  0x80002800000040000c00000028000040000004000040000000800020000000200001,
  0x1000004000000e00001000000b0000080000004000040000003000004000000600004,
  0x8000100000004000020000001000010000000a000040000001000004000000400001,
  0x1800004000001200001000000180002c000000c000110000000800004000000800007,
  0x180000400000120000300000028000040000004000010000003800004000002c00001,
  0x4000004000000600004000000200005400000080000f000000080000c000000400001,
  0x400000c000000a000010000001000004000000e00001000000b000008000000400002,
  0x800034000000a0000100000010000100000004000090000001000008000000400002,
  0x80000400000040000300000020000040000006000030000003000004000000400010,
  0x180000c000000a00004000000600000c000000600003000000100000c000000400001,
  0xb80000400000060000100000068000a0000000200006000000080000c000000600001,
  0x18000040000004000080000001800004000000600001000000400000c000002000001,
  0xb800004000000600001000000400000400000080001c0000002000008000000400001,
  0x100002000000060000100000018000040000010000030000002800004000001400001,
  0x14800004000000600001000000680003000000060000d0000002000004000000600005,
  0x280001c00000080000500000008000040000006000010000001800004000001000002,
  0x800004000001200001000000c00000c0000024000010000001800004000000c00016,
  0x1d00003400000040001200000040000040000002000010000003000020000000e00002,
  0xc000004000000a0000100000008000040000004000330000000800018000000e00005,
  0x80001800000020000100000028000080000006000010000009800004000000200001,
  0x8000010000002600004000001200000400000100003f000000080008000000080000e,
  0x20000280000080000100000002800008000000200001000001b80010c000004800001,
  0x2000004000029a0000100000158000080000002000050000000800004000004c00002,
  0x1080000800000080000100000148000080000008000010000000800004000000e00002,
  0x1c800004000001e0000200000020000040000002000010000003800008000000800001,
  0x13600000c000000c00002000002b0000400000020000250000021800008000000800001,
  0xa80002c000002800007000000580000c000009600005000000d000004000002200002,
  0x980000800000680000c0000001000004000000600001000000680003000000280000c,
  0xf800028000008c00005000001580001c00000b200043000000080001000000020000e,
  0xd00001000000580000b0000002800008000003c000170000004800010000001800001,
  0x180002c00000040001700000008000c8000002800002000001f800010000003800036,
  0x1600002800000080000200000150000cc0000010000010000007800004000006800031,
  0x158000140000016000020000012000028000000600016000001b800038000001600001,
  0x600000140000002000030000001000004000000c0000100000020000a4000000600002,
  0x4000008000000c000020000013000008000000c00002000008b00002c000004400013,
  0x3800004000006a00002000000f8000040000002000010000000800004000000200001,
  0x6800010000000c00002000000200000c000000e00001000000180000c000000200001,
  0x800194000001a0001000000008000340000002000740000003800004000000600005,
  0x800004000000200006000000280000c0000002000010000005000008000000200004,
  0x800010000000a0000500000020000080000016000010000002000004000000200001,
  0x13000030000000400003000000200001800001ca00716000001a000cb4000005200011,
  0x3800024000002e00010000000080001c0000070000020000000800014000000200001,
  0x3800004000000e000010000003800004000000e000010000003800004000000e00001,
  0x280001c000001200019000000180075400000020002f0000010000004000000e00001,
  0x15800014000000800001000002d000004000000600006000002b000010000000a00002,
  0x1700010c000ad1a000400000ce0000800000002000030000001000004400000bc00001,
  0x3880000c000001000005000001780005000000040000a000000800000c000021a00002,
  0x1a000060000004200001000000a80005000000a4000020000033800008000001200027,
  0x10800028000000600001000000080000c000000c0002c000000080000400000880000c,
  0x800004000000020000f0000006000004000006600003000000e800034000004600005,
  0x800004000008a00003000000b800048000001c00009000001b800004000000a0000a,
  0x3000008000000c0000b00000020000080000020000020000001800060000000200001,
  0x3d800018000001c000010000015800004000000e000010000003800024000000c00002,
  0x380009800000d40000200000b7008410000006200004000000b800030000574800015,
  0x10000040000002000010000002800004000001a000010000006000014000000a0000c,
  0x60000a0000006c00002000002000004800002d6000210000036000004000000400001,
  0x300000c00000b20000b000000d0000180000034000240000043800004000000a00074,
  0x9800004000003400001000000600008c0000006000020000003000008000000c00002,
  0xe80042c000006a00045000003d800088000001c000020000007800004000000400001,
  0x12000008000003c000050000015800014000003c0000d00000100000bc000006200003,
  0x140000100000048000040000012000048000013c0002a0000002800004000001000004,
  0x58000040000004000010000003800004000001e000010000005800030000006800008,
  0xb000024000026e0000c000001a00000c0000004000010000003800004000001e00001,
  0x800008000000c000450000004800004000005400001000000300006000000100000a,
  0xf800024000002e0000a000000b8000080000002000030000001000004000005800001,
  0x1c000098000003400006000000d000028000002c0000a0000001000004000002600041,
  0xe80000400000060000100000040000140000004000010000002000100000000400006,
  0xb000028000006c0001b000000e000004000001000023000000e80000c000003a0002a,
  0x1400003400000660000d00000198000dc00000920006e000000900003400000260000a,
  0x100000c00000040000100000150003e8000002e00005000000080000c000003800022,
  0x90000a8000002c000080000000800028000003a0000300000018000c8000000c00010,
  0x80002400000720000a00000028000ac000008c00009000000b80006c000002a0002e,
  0x200000240000002000030000011800020000000800011000001980005c00000320000d,
  0x11000004000002400023000000080000400000020000a0000001000024000000800001,
  0x78000040000008000010000000800004000000e0003e0000002000018000000200002,
  0xb0000080000004000020000004000004000000800017000001c80001c000001400001,
  0x1000008000000400002000000400000c000000a000010000001000004000000e00001,
  0x8000080000002000010000005000070000000e000050000000800018000000200003,
  0x100000400000080000100000008000080000002000010000005000004000004c00001,
  0x1800050000000800001000000180000400000840002c0000000800004000000200003,
  0x3000064000000e00002000001b0002e0000000200001000000100000800000840001e,
  0xd80011c000000200002000001b0000ec0000002000030000000800004000007e00022,
  0x80000800000100001f000002000019c0000072000b90000003800054000001c00002,
  0x20000080000004000020000001000004000003c000010000001000004000001000002,
  0x1980006c0000004000010000000800004000000c00002000001700000800000100005d,
  0x1080016000000100006700000248000480000002000050000024000044000001400002,
  0xb000008000003c000310000000800004000000e00001000001680000400000120001f,
  0x100000400000020000300000160000040000004000010000003800124000001c00001,
  0x1280000400000040000100000030000600000004000020000000800004000000600001,
  0x8800024000002e00104000001600005c0000002000010000002000004000000400001,
  0x6200004400000de0006600001cd00013c00000020006f000000180000c000005200001,
  0x17806ae4000048e0000500007cd800064000000c00011000021800003c00000c200a4c,
  0x2000040000006000012000000f000044000009e00011000000f80001c0000472006d1,
  0xc800008000003200020000002000034c000005a001b00000009800014000002a0001f,
  0x38000300000002000010000001000100000002200007000001c80001000000960002c,
  0x1000004000000e0000100000020087f400000e60006100000100000a400039ac00009,
  0xc600002000000080000e000000080000800000060001d000000080003c000024600001,
  0x2a805d84000000200004000000500001c000001200003000000680001400000d600904,
  0x600000400000080000200000010000080000002000020000001000004000008e00001,
  0x380000400000100000200000020000040000082000010000003800004000000200001,
  0xaa000004000000e000030000000800004000000a000010000002000004000003800001,
  0xc800004000003e00001000000c800004000003e00001000000c800004000003200002,
  0xf801cd0000001000001000000c800004000003e00001000000c800004000003e00001,
  0x280000400000040000100000038000080000022000010000003800354000000c00006,
  0xf0005040000002000100000003800028000005a000700000000800084000007c00005,
  0xb000004000003e000cf0000000800008000003c000e4000000e000790000005800012,
  0x62800004000001e0000100000010000040000008000010000003800380000000400008,
  0x100000400000360000100000020012d0000000200003000000080000c00000880003b,
  0x80000400000020000100000020000040000014000010000000800008000000200001,
  0x100000400000060000100000008000040000002000010000000800010000000200006,
  0x80000400000020000100000008000040000002000010000000800008000000200001,
  0x200000400000080000100000038000040000008000020000000800004000000400001,
  0x8800004000000a0000100000018000140000022000010000005000004000000200001,
  0xb47000008000223c0002000053700039d8000003400006000000d000018000003400274,
  0x42540000500009a5801788000043c009a2000013700003c0003a6200002]

/-- The code points with the property Lowercase. -/
def lowercaseWords : List Nat := [
  0x4000004000003000024000000080001000000020000a00000008000bc000003400061,
  0x80000400000020000100000008000040000002000010000000800004000000200001,
  0x80000400000020000100000008000040000002000010000000800004000000200001,
  0x80000400000020000100000008000040000002000010000000800004000000200001,
  0x80000400000020000100000008000040000002000010000000800004000000200001,
  0x80000400000020000100000010000040000002000010000000800004000000200001,
  0x100000400000020000100000008000040000002000010000000800004000000200001,
  0x80000400000020000100000008000040000002000010000000800004000000200001,
  0x80000400000020000100000008000040000002000010000000800004000000200001,
  0x80000400000020000100000008000040000002000010000000800004000000200001,
  0x80000800000020000100000008000040000002000010000000800004000000200001,
  0x100000c00000020000200000008000040000002000020000001800004000000200001,
  0x80000400000020000200000008000080000006000030000000800008000000200004,
  0x80000c00000020000200000008000040000004000010000000800008000000200001,
  0x80000800000020000200000008000180000006000020000001000008000000200001,
  0x80000400000020000100000008000040000002000010000000800004000000200001,
  0x80000400000020000100000008000040000002000010000001000004000000200001,
  0x80000800000040000100000008000040000002000010000000800004000000200001,
  0x8000040000002000010000000800004000000200001000000080000c000000200001,
  0x80000400000020000100000008000040000002000010000000800004000000200001,
  0x80000400000020000100000008000040000002000010000000800004000000200001,
  0x80000400000020000100000008000040000002000010000000800004000000200001,
  0x80000400000020000100000008000040000002000010000000800004000000200001,
  0x80000400000020000400000008000040000004000020000000800008000000e00001,
  0x28000780000004000070000011800008000008a000010000000800004000000200001,
  0x800048000000800002000000080000c00000020000100000008000ac000000200060,
  0x8000040000002000010000000800004000000600003000000100000400000460001b,
  0x80000400000020000100000008000040000002000010000000800004000000200001,
  0x10000080000002000020000000800004000000a000010000000800004000000200001,
  0x80000400000020000100000008000040000002000010000000800004000006000033,
  0x80000400000020000100000008000040000002000010000000800004000000200001,
  0x80000400000020000100000008000040000002000010000000800004000000200001,
  0x80000400000020000100000008000040000002000010000000800004000000200009,
  0x80000400000020000100000008000040000002000010000000800004000000200001,
  0x80000400000020000100000008000040000002000010000000800004000000200001,
  0x80000400000020000100000008000040000002000010000000800004000000200001,
  0x80000400000020000100000008000080000002000010000000800004000000200001,
  0x80000400000020000100000010000040000002000010000000800004000000200001,
  0x80000400000020000100000008000040000002000010000000800004000000200001,
  0x80000400000020000100000008000040000002000010000000800004000000200001,
  0x80000400000020000100000008000040000002000010000000800004000000200001,
  0x80000400000020000100000008000040000002000010000000800004000000200001,
  0x80000400000020000100000008000040000002000010000000800004000000200001,
  0x80000400000020000100000008000040000002000010000000800004000000200001,
  0x80000400000020000100000008000040000002000010000000800004000000200001,
  0x15802d1c00000520003000000008000040000002000010000000800004000000200001,
  0x80010400001800007500000008000040000012008820000003000be0000000800001,
  0x80000400000020000100000008000040000002000010000000800004000000200001,
  0x80000400000020000100000008000040000002000010000000800004000000200001,
  0x80000400000020000100000008000040000002000010000000800004000000200001,
  0x80000400000020000100000008000040000002000010000000800004000000200001,
  0x80000400000020000100000008000040000002000010000000800004000000200001,
  0x80000400000020000100000008000040000002000010000000800004000000200001,
  0x80000400000020000100000008000040000002000010000000800004000000200001,
  0x80000400000020000100000008000040000002000010000000800004000000200001,
  0x80000400000020000100000008000040000002000010000000800004000000200001,
  0x80000400000020000100000008000040000002000010000000800004000000200001,
  0x80000400000020000100000008000040000002000010000000800004000000200001,
  0x80000400000020000100000008000040000002000010000000800004000000200001,
  0x80000400000020000100000008000040000002000010000004800004000000200001,
  0x80000400000020000100000008000040000002000010000000800004000000200001,
  0x80000400000020000100000008000040000002000010000000800004000000200001,
  0x80000400000020000100000008000040000002000010000000800004000000200001,
  0x80000400000020000100000008000040000002000010000000800004000000200001,
  0x80000400000020000100000008000040000002000010000000800004000000200001,
  0x80000400000020000100000008000040000002000010000000800004000000200001,
  0x80000400000020000100000008000040000002000010000000800004000000200001,
  0x400002000000100000a00000030000200000012000010000000800004000000200001,
  0x400002000000100000200000070000200000010000080000004000028000000c00008,
  0x100000400000060000300000008000180000004000010000002800020000001000008,
  0x8001e400000040000100000018000280000010000080000001000008000000800008,
  0x80006c000000200003000000100000c00000020006d000000680004000000020000d,
  0x800008400000020000400000020000200000004000020000000800010000000200004,
  0x8000040000004000030000000800004000006000746000000d000d2c000000200004,
  0x80000c00000100000100000010000040000002000040000000800004000000200001,
  0x80000400000020000100000008000040000002000010000000800004000000200001,
  0x80000400000020000100000008000040000002000010000000800004000000200001,
  0x80000400000020000100000008000040000002000010000000800004000000200001,
  0x80000400000020000100000008000040000002000010000000800004000000200001,
  0x80000400000020000100000008000040000002000010000000800004000000200001,
  0x80000400000020000100000008000040000002000010000000800004000000200001,
  0x80000400000020000100000008000040000002000010000000800004000000200001,
  0x80000400000020000100000008000040000002000010000000800004000000200001,
  0x800004000004c0000c0000000800010000000200001000000080001c000000400001,
  0x8000040000002000010000000800004000000200001000000081e44c000000200005,
  0x80000400000020000100000008000040000002000010000000800004000000200001,
  0x80000400000020000100000008000040000002000010000000800004000000200001,
  0x80000400000020000100000008000040000002000010000000800004000000200001,
  0x80000400000020000100000008000040000002000010000000800004000000200013,
  0x80000400000020000100000008000040000002000010000000800004000000200001,
  0x80000400000020000100000008000040000002000850000001800004000000200001,
  0x80000400000020000100000008000040000006000010000000800004000000200001,
  0x80000400000020000100000008000040000002000010000000800004000000200001,
  0x80000400000020000100000008000040000002000010000000800004000000200001,
  0x80000400000020000100000008000040000002000010000000800004000000200001,
  0x80000400000020000100000008000040000002000010000000800004000000200001,
  0x80000400000020000100000050000040000002000010000000800004000000200001,
  0x80001000000020000100000008000040000002000010000000800004000000200002,
  0x80000400000020000100000008000040000006000010000000800008000000200001,
  0x80000400000020000100000008000040000002000010000000800004000000200001,
  0x80000400000020000100000008000040000002000050000000800014000000200001,
  0x80000400000020000400000008000040000002000010000000800004000000200001,
  0x80000400000020000100000008000040000002000010000000800004000000200002,
  0x15800cd400000060000100000008000040000008000150000000800004000000200001,
  0x140013340000034004290000002800030000000e04f400000028000018000001c00001,
  0x80070c0000004000010000003800004000001e00001000000580026c000004800088,
  0x10002ce8000002c0007d00000198014140000012000010000015000004000000600002,
  0xd0000680000024000010000003800068000003406546000000c8000ec000004005580,
  0xd00006800000340001a0000005800004000000e00001000000080000400000080001a,
  0xd00006800000340001a000000d00006800000340001a000000d00006800000340001a,
  0xc800068000000c00001000000c800068000000c00001000000c80007000000380001a,
  0x800004000000c00001000000c800068000000c00001000000c800068000000c00001,
  0x44008b4000001f000414000000c00006000000a000004000001400734]

/-- The code points with the property Uppercase. -/
def uppercaseWords : List Nat := [
  0x8000040000002000010000000800084000000e00001000000b800194000003400041,
  0x80000400000020000100000008000040000002000010000000800004000000200001,
  0x80000400000020000100000008000040000002000010000000800004000000200001,
  0x80000400000020000100000008000040000002000010000000800004000000200001,
  0x80000400000020000100000008000040000002000010000000800004000000200001,
  0x80000400000020000100000008000040000002000010000000800008000000200001,
  0x80000400000020000100000008000080000002000010000000800004000000200001,
  0x80000400000020000100000008000040000002000010000000800004000000200001,
  0x80000400000020000100000008000040000002000010000000800004000000200001,
  0x80000400000020000100000008000040000002000010000000800004000000200001,
  0x100000c00000020000100000008000040000004000010000000800004000000200001,
  0x180000400000040000100000020000080000006000010000001000004000000200001,
  0x80000400000040000100000008000040000002000010000001000004000000400003,
  0x80000c00000040000100000008000040000006000010000001000004000000200002,
  0x80000400000020000100000008000080000002000020000000800008000000200007,
  0x80000800000020000100000008000040000002000010000000800004000000200001,
  0x80000400000020000100000008000040000002000010000000800004000000200001,
  0x80000400000060000100000008000080000002000020000000800004000000200001,
  0x80000400000020000100000008000040000002000010000000800004000000200001,
  0x80000400000020000100000008000040000002000010000000800004000000200001,
  0x80000400000020000100000008000040000002000010000000800004000000200001,
  0x80000400000020000100000008000040000002000010000000800004000000200001,
  0x100000400000040000700000008000040000002000010000000800004000000200001,
  0x80000400000020000100000008000040000002000010000002000004000000200002,
  0x180000400000020000600000008000200000002000030000000800004000000200121,
  0x180000800000020002300000048000040000022000010000001000004000000200001,
  0x80000400000020000100000008000040000002000010000000800004000000200003,
  0x80000400000020000100000008000040000002000010000000800004000000200001,
  0x80000400000020003000000198000080000004000010000000800008000000200005,
  0x80000400000020000100000008000040000002000010000000800004000000200001,
  0x80000400000020000100000008000040000002000010000000800004000000200001,
  0x80000400000020000100000008000240000002000010000000800004000000200001,
  0x80000400000020000100000008000040000002000010000000800004000000200001,
  0x80000400000020000100000008000040000002000010000000800004000000200001,
  0x80000400000020000100000008000040000002000010000000800004000000200001,
  0x80000400000020000100000008000040000002000010000000800004000000200001,
  0x80000400000020000100000008000040000002000010000000800004000000400001,
  0x80000400000020000100000008000040000002000010000000800008000000200001,
  0x80000400000020000100000008000040000002000010000000800004000000200001,
  0x80000400000020000100000008000040000002000010000000800004000000200001,
  0x80000400000020000100000008000040000002000010000000800004000000200001,
  0x80000400000020000100000008000040000002000010000000800004000000200001,
  0x80000400000020000100000008000040000002000010000000800004000000200001,
  0x80000400000020000100000008000040000002000010000000800004000000200001,
  0x80000400000020000100000008000040000002000010000000800004000000200001,
  0x2b000b480000002000050000000800004000004c00b490000013000008000000200001,
  0x80000400000020000100000008005000000006000020000015800018000000200893,
  0x80000400000020000100000008000040000002000010000000800004000000200001,
  0x80000400000020000100000008000040000002000010000000800004000000200001,
  0x80000400000020000100000008000040000002000010000000800004000000200001,
  0x80000400000020000100000008000040000002000010000000800004000000200001,
  0x80000400000020000100000008000040000002000010000000800004000000200001,
  0x80000400000020000100000008000040000002000010000000800004000000200001,
  0x80000400000020000100000008000040000002000010000000800004000000200001,
  0x80000400000020000100000008000040000002000010000000800004000000200001,
  0x80000400000020000100000008000040000002000010000000800004000000200001,
  0x80000400000020000100000008000040000002000010000000800004000000200001,
  0x80000400000020000100000008000040000002000010000000800004000000200001,
  0x80000400000020000100000008000040000002000010000000800004000000200001,
  0x80000400000020000100000008000040000002000010000000800004000000200009,
  0x80000400000020000100000008000040000002000010000000800004000000200001,
  0x80000400000020000100000008000040000002000010000000800004000000200001,
  0x80000400000020000100000008000040000002000010000000800004000000200001,
  0x80000400000020000100000008000040000002000010000000800004000000200001,
  0x80000400000020000100000008000040000002000010000000800004000000200001,
  0x80000400000020000100000008000040000002000010000000800004000000200001,
  0x80000400000020000100000008000040000002000010000000800004000000200001,
  0x30000200000010000080000004000028000000c000080000004000024000000200001,
  0x20001200000010000080000000800004000000200001000000080000400000020000b,
  0x800010000000200106000000200002c000000a0000c000000200003000000080000c,
  0x800004000000200006000000280000c0000002000020000001800008000000600003,
  0x800006800000020000500000010000280000008000020000002000004000000200001,
  0x80000800000060000100000008000c0000006000730000000d000cc8000000200013,
  0x180002000000020000200000008000040000008000010000000800004000000200001,
  0x80000400000020000100000008000040000002000010000000800004000000200001,
  0x80000400000020000100000008000040000002000010000000800004000000200001,
  0x80000400000020000100000008000040000002000010000000800004000000200001,
  0x80000400000020000100000008000040000002000010000000800004000000200001,
  0x80000400000020000100000008000040000002000010000000800004000000200001,
  0x80000400000020000100000008000040000002000010000000800004000000200001,
  0x80000400000020000100000008000040000002000010000000800004000000200001,
  0x80000400000020000100000008000040000002000010000000800004000000200001,
  0x80000400000020794d00000008000100000002000010000000800020000000200001,
  0x80000400000020000100000008000040000002000010000000800004000000200001,
  0x80000400000020000100000008000040000002000010000000800004000000200001,
  0x80000400000020000100000008000040000002000010000000800004000000200001,
  0x800004000000200001000000080004c0000002000010000000800004000000200001,
  0x80000400000020000100000008000040000002000010000000800004000000200001,
  0x80021c00000020000100000008000040000002000010000000800004000000200001,
  0x80000400000020000100000008000040000002000010000000800004000000200001,
  0x80000400000020000100000008000040000002000010000000800004000000200003,
  0x80000400000020000100000008000040000002000010000000800004000000200001,
  0x80000400000020000100000008000040000002000010000000800004000000200001,
  0x80000400000020000100000008000040000002000010000000800004000000200001,
  0x80000400000020000100000008000040000002000010000000800004000000200001,
  0x80000400000020000100000010000040000002000010000000800028000000200001,
  0x80000400000020000200000008000040000002000040000000800004000000200001,
  0x80000400000020000100000008000040000002000010000000800004000000200003,
  0x2800004000000a0000100000008000040000002000010000000800004000000200001,
  0x80000400000020000100000008000040000002000010000000800004000000200001,
  0x80000400000020000100000010000040000002000010000002000004000000200001,
  0x80000400000020000100000008000040000002000010000000800004000000200001,
  0x780000400000160009c00000120002200000050004c5000000d015cac000000200018,
  0x10015600000004000b3a000000b0002740000066006ea0000001000004000000e00001,
  0x100000400000020001a000000d00006800000340001a000000d01951c000003200040,
  0x100006800000340001a00000040000040000008000020000001000008000000200002,
  0x2800004000000800001000000100006c000000e000010000004000008000000800001,
  0xd00006800000340001a000000d00006800000340001b000000380000c000000200001,
  0xc800084000003200021000000c80008400000320001e000000d00006800000340001a,
  0xd000018000003400006000000d0020380000044011350000000800084000003200021]

end UrlMatch.Unicode
