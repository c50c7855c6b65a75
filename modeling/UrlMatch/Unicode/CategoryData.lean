/-!
# General category, packed

Each numeral packs six spans of 50 bits, lowest first: the gap since the last span, the
length, and the tag. The tag is the position of the category in `Category.all`.
-/

namespace UrlMatch.Unicode

/-- Every assigned code point with its general category. -/
def categoryWords : List Nat := [
  0xd0000080000044000060000013000008000004400006000001600000800000640004000000,
  0x110000100000030000020000011000008000004800002000001100000800000380000200000,
  0xd0000080000000000340000011000010000004800006000001100001000000200001400000,
  0x10000d0000005000002000000b000008000005000002000000e00000800000440000200000,
  0x160000080000064000420000012000008000003800002000001200000800000340000200000,
  0x150000080000050000020000011000008000005400002000001300002000000440000200000,
  0x14000008000005400002000001a000008000004800002000000f00000800000100000200000,
  0x110000100000004000020000014000008000002800004000001200000800000540000200000,
  0x110000080000028000060000010000008000001000002000000a00000800000500000200000,
  0x100004000000480000200000010000c000000000000e000001200000800000000002e00000,
  0x10000080000000000020000001000008000000000002000000100000800000000000200000,
  0x10000080000000000020000001000008000000000002000000100000800000000000200000,
  0x10000080000000000020000001000008000000000002000000100000800000000000200000,
  0x10000080000000000020000001000008000000000002000000100000800000000000200000,
  0x10000080000000000020000001000008000000000002000000100000800000000000200000,
  0x10000080000000000020000001000008000000000002000000100000800000000000200000,
  0x10000080000000000020000001000008000000000002000000100000800000000000200000,
  0x10000080000000000020000001000008000000000002000000100000800000000000200000,
  0x10000080000000000020000001000008000000000002000000100000800000000000200000,
  0x10000080000000000020000001000008000000000002000000100001000000000000200000,
  0x10000080000000000020000001000008000000000002000000100000800000000000200000,
  0x10000100000000000020000001000008000000000002000000100000800000000000200000,
  0x10000080000000000020000001000008000000000002000000100000800000000000200000,
  0x10000080000000000020000001000008000000000002000000100000800000000000200000,
  0x10000080000000000020000001000008000000000002000000100000800000000000200000,
  0x10000080000000000020000001000008000000000002000000100000800000000000200000,
  0x10000080000000000020000001000008000000000002000000100000800000000000200000,
  0x10000080000000000020000001000008000000000002000000100000800000000000200000,
  0x10000080000000000020000001000008000000000002000000100000800000000000200000,
  0x10000080000000000040000001000008000000000002000000100000800000000000200000,
  0x10000080000000000040000001000018000000000002000000100000800000000000200000,
  0x10000100000000000060000001000008000000000004000000100000800000000000200000,
  0x10000180000000000060000001000008000000000004000000100000800000000000800000,
  0x10000080000000000020000001000008000000000004000000100000800000000000400000,
  0x10000100000000000020000001000008000000000004000000100000800000000000200000,
  0x10000080000000000060000001000008000000000004000000100000800000000000200000,
  0x80000010000020000001000010000000000004000000100000800000000000200000,
  0x80000004000020000002000008000000000002000000400002000000040000600000,
  0x80000004000020000002000008000000000002000000100000800000080000200000,
  0x80000004000020000000000008000000400002000000000000800000040000200000,
  0x80000004000020000000000008000000400002000000000000800000040000200000,
  0x80000004000020000000000008000000400004000000000000800000040000200000,
  0x80000004000020000000000008000000400002000000000000800000040000200000,
  0x80000004000020000000000008000000400002000000000000800000040000200000,
  0x10000080000008000020000000000008000000400004000000000000800000040000200000,
  0x10000080000000000020000001000008000000000006000000100000800000000000200000,
  0x10000080000000000020000001000008000000000002000000100000800000000000200000,
  0x10000080000000000020000001000008000000000002000000100000800000000000200000,
  0x10000080000000000020000001000008000000000002000000100000800000000000200000,
  0x10000080000000000020000001000008000000000002000000100000800000000000200000,
  0x10000080000000000020000001000008000000000002000000100000800000000000200000,
  0x10000080000000000020000001000008000000000002000000100000800000000000200000,
  0x10000080000000000020000001000008000000000002000000100000800000000000200000,
  0x10000080000000000020000001000008000000000002000000100000800000000000200000,
  0x10000080000000000020000001000008000000000002000000100000800000000000200000,
  0x10000100000000000040000001000008000000000004000000100003800000000000200000,
  0x10000080000000000020000001000008000000000008000000100000800000000000200000,
  0x10002280000000000020000001000008000000000002000000100000800000000000200000,
  0x14000070000000c000180000014000020000000c0002400000010000d000000100000400000,
  0x14000088000000c000020000014000008000000c000020000014000038000000c0000a00000,
  0x3000008000000400002000000000000800000040000200000000000080000014000e000000,
  0x110000080000004000060000003000008000080400002000000000000800000500000200000,
  0x80000400000060000011000008000000000002000001400001000010000000200000,
  0x80000004000460000000000048000040000022000000100000800000000000400001,
  0x80000004000020000000000008000000400006000000000001800000040000400000,
  0x80000004000020000000000008000000400002000000000000800000040000200000,
  0x80000004000020000000000008000000400002000000000000800000040000200000,
  0x80000004000020000000000008000000400002000000000000800000040000200000,
  0x12000008000000400002000000000000800000040000a000000000000800000040000200000,
  0x10001800000000000660000001000010000000000004000000100000800000000000200000,
  0x10000080000000000020000001000008000000000002000000100000800000000000200000,
  0x10000080000000000020000001000008000000000002000000100000800000000000200000,
  0x10000080000000000020000001000008000000000002000000100000800000000000200000,
  0x10000080000000000020000001000008000000000002000000100000800000000000200000,
  0x10000080000000000020000001000008000000000002000000100000800000000000200000,
  0x50000280000054000020000001000008000000000002000000100000800000000000200000,
  0x800000040000200000000000080000004000020000000000008000001c0000400000,
  0x80000004000020000000000008000000400002000000000000800000040000200000,
  0x80000004000020000000000008000000400002000000000000800000040000200000,
  0x80000004000020000000000008000000400002000000000000800000040000200000,
  0x80000004000020000000000008000000400002000000000000800000040000200000,
  0x80000004000020000000000008000000400002000000000000800000040000200000,
  0x80000004000020000000000008000000400002000000000000800000040000200000,
  0x80000004000020000000000008000000400002000000000000800000040000200000,
  0x80000004000020000000000008000000400002000000000000800000040000200000,
  0x80000004000020000000000008000000400002000000000001000000040000200000,
  0x80000004000020000000000008000000400002000000000000800000040000200000,
  0x80000004000020000000000008000000400004000000000000800000040000200000,
  0x80000004000020000000000008000000400002000000000000800000040000200000,
  0x80000004000020000000000008000000400002000000000000800000040000200000,
  0x80000004000020000000000008000000400002000000000000800000040000200000,
  0x80000004000020000000000008000000400002000000000000800000040000200000,
  0x80000004000020000000000008000000400002000000000000800000040000200000,
  0x80000004000020000000000008000000400002000000000000800000040000200000,
  0x80000004000020000000000008000000400002000000000000800000040000200000,
  0x80000004000020000000000008000000400002000000000000800000040000200000,
  0x80000004000020000000000008000000400002000000000000800000040000200000,
  0x80000004000020000000000008000000400002000000000000800000040000200000,
  0x80000004000020000000000008000000400002000000000000800000040000200000,
  0x80000004000020000000000008000000400002000000000000800000040000200000,
  0x80000004000020000000000008000000400002000000000000800000040000200000,
  0x80000004000020000000000008000000400002000000000000800000040000200000,
  0x80000004000020000000000008000000400002000000000000800000040000200000,
  0x11000030000000c000020000200000130000040400002000000000000800000040000200000,
  0x5000168000044c000020000015000010000083000002000001100000800000040005200000,
  0x50000100000044000020000005000010000004400002000000500000800000300000200000,
  0x1a0000300002c44000040000004000020000101000036000080500000800000440000200000,
  0x50000580000054000040000011000010000004c00002000001100001000000480000600000,
  0x4000050000000c000020000004000100000004400006000001a00000800000440000200000,
  0x40003180000014000020000004000010000004400008000000800005000000140002a00000,
  0x5000030000005400002000001a00000800000140000e000000400000800000440000200000,
  0x800005000000100000400000050000200000054000020000005000010000000c0000400000,
  0x40000080000068000020000111000070000001000002000001500001000000100000600000,
  0x400000800000140001600000040002c800008140003600000040000f000000140000200000,
  0x11000018000005400002000000300001000000140001200000040001080000020000140000e,
  0x300000800000140000800000040000b0000004c000040000005000008000080c0000200000,
  0x1100007800008140000a0000003000008000001400006000000300000800000140001200000,
  0x140000080000010000300000504000058000044400002000020500001800000100003200001,
  0x50000c0000000c000020000004000148000001400012000051a00001000000100000e00000,
  0x600000800000140000200000040001b0000001800002000000500010000000680000200000,
  0x50000080000018000080000005000040000001800006000000400000800000140000200000,
  0x11000010000001400004000000400005000000140000e000000400000800000180000400000,
  0x60000100000014000020000004000078000000c00002000001100000800000200001400000,
  0x40000200000c1000002000010400003800004100002c000020400001000008100001000001,
  0x60000100000818000040000205000020000001800006000000400000800000140000200002,
  0x50000100000010000060000104000010000101800002000080400000800000140000200000,
  0x13000008000005400002000000a000030000004c00004000000400001000000200001400002,
  0x40000300000418000020000005000010000081400002000001100000800000100000200000,
  0x4000010000041000004000010400001000004100000e00001040000b000008100000400004,
  0x50000080000c14000060000205000010000101400004000000600001800004140000200002,
  0x50000080000010000060000005000010000002000014000070400000800004100000800007,
  0x40000b00000410000060000104000048000041800002000000500001000028440000200000,
  0x6000018000001000002000000500000800008100000a000010400001000004100000e00001,
  0x40000080000814000020000006000010000041800002000000500001000004140000a00000,
  0x40000080001c4c00002000001100000800000200001400002050000100000010000040000f,
  0x40000b00000810000040000204000040000041800004000000500000800004140000c00000,
  0x6000008000001000002000000500000800008100000a000010400001000004100000e00001,
  0x50000080000018000040000206000010000081400008000000600000800000140000200000,
  0x80000500000814000040000004000018000041000004000040600000800000140000400007,
  0x4000030000041000002000000500000800028280000c000000400000800000540000200000,
  0x40000100000c10000040000104000008000041000004000030400002000004100000600003,
  0x60000180000c1800004000000500000800000180000400004040000600000c100000600003,
  0xa0000180000020000140000e06000008000181000002000020500000800000180000600001,
  0x50000080000018000060000005000008000145400002000001300000800000540000c00000,
  0x4000008000001400002000020400008000004100002e000010400001800004100001000000,
  0x40000180000414000040000705000020000041400006000010600002000000140000600000,
  0xa0000380000044000020000708000050000081400004000000400001000008100000400001,
  0x40000400000044000020000006000010000001400002000000400000800000540000200000,
  0x4000008000001400002000020400002800004100001400001040000b800004100000600001,
  0x6000010000041800004000000500000800004180000a000000500000800000180000200000,
  0x8000050000081400004000000400001000004100000600005060000100001c140000400000,
  0x400001800004100001200000060000100000014000040000c0600000800000100000400001,
  0x60000180000414000080000006000018000001000002000000500001000000100005200001,
  0x60000080000010000060000415000008000001000002000000500000800000180000600001,
  0x150000080000028000120000008000050000081400004000000400001800000280000e00000,
  0x40000480000410000300000304000090000041800004000000500000800004100000c00000,
  0x50000080000414000060000006000018000101400002000030400003800008100000200001,
  0x50000080000010000600000c11000008000001800004000020800005000018180001000001,
  0x5000040000000c000020000004000030000004c00002000040500003800000100000400000,
  0x40000280000410000020000104000010000944400004000000800005000000440000200000,
  0x50000480000010000040000005000008000001000014000010400000800004100003000001,
  0x40000200000820000140000105000038000040c00002000010400002800008100000200000,
  0x15000018000004400002000001500000800000440001e000001500001800000100000200020,
  0x5000008000005400002000000a000050000002000014000001500003000000140000400000,
  0xe0000080000034000020000005000008000005400002000000500000800000540000200000,
  0x50000700001010000480000104000040000001800004000000e00000800000340000200000,
  0x500005800000100000a0000005000010000004400002000000500002800000180000200000,
  0x110000280000054000040000115000030000001400002000001500004000004140004800001,
  0x60000080000014000080000006000010000001000056000251100001000000540000800000,
  0x40000080000014000040000006000010000001400004000000600000800000140000c00000,
  0x4000020000001400004000000600001000000100000c000001100003000000200001400000,
  0x400001800000180000e0000004000010000001800006000000400000800000140000600000,
  0x60000300000014000040000006000010000001400002000000400006800000140000800000,
  0x50000080000018000060000008000050000001800002000000400000800000140000200000,
  0x110000080000004000560000200000008000140000002000010000013000000540000400000,
  0x400000800004100000e00002040000200000410002920000001000018000000c0000200000,
  0x40000380000810000080000104000108000081000008000010400014800008100000800001,
  0x400021800008100000800001040001c800004100001e000020400002000004100000200001,
  0x2b000018540001400000040000800000c2800028000001100004800000140000600002,
  0x400008800000440000200000150000080000010004d8000000c00000800008040000c00002,
  0x11000018000001000096000030e00000800000340000200000040000d000000580000200000,
  0x40000980002418000020000005000018000001000024000070400004000000240000600000,
  0x40000680003014000040000004000090000244400004000000600000800000140000400000,
  0x500003800000180000200000050000100000010000680000c0500001000004100000600001,
  0x30000080000044000060000005000058000001800004000000500000800000180001000000,
  0xa0000500001820000140000205000008000001000002000001300000800000440000600000,
  0x50000080000068000020000005000018000004400008000000c00000800000440000c00006,
  0x500001000000100000a00007040001a8000000c00002000000400011800018200001400000,
  0x500001800004100003e0000a04000230000141000002000000500000800000100004400000,
  0x60000300000014000020000006000010000101800006000000500001000000180000800000,
  0x400002800008100003c0000008000050000004400004000031500000800010140000600000,
  0x40000b8000005400044000030a00000800000200001400006040000d00001010000580000b,
  0x600000800000100006a0000011000010000081400002000000600001000000140000400000,
  0x5000008000001800002000000500000800004140000e000000600000800000140000200000,
  0x8000050000001400002000020500005000000180000c000000500004000000180000400000,
  0x700000800000140001c0000211000030000000c00002000001100003800018200001400006,
  0x500000800000100005e0000006000008000001400008000140500006000008140003e00000,
  0x500000800000180000a0000005000008000001800002000000500002800000180000200000,
  0x1500005000000440000e0000008000050000004400004000010400004000000180000400000,
  0x40000f00000018000020000005000010000004400006000001500004800000140001200000,
  0x50000180000018000020000005000010000001800004000000500002000000180000200000,
  0x50000100000018000020000005000008000001000058000000800005000000100000400000,
  0x110000200002018000040000005000018000001800002000000500000800000180000600000,
  0x110000280000c14000040000006000010000001400010000000600004000000100004800000,
  0x11000010000000c0000c00000040000f000000200001400000040000180000c200001400000,
  0x110000400000000000060000200000158000140400002000000000000800000040001200000,
  0x400002000000140000e000000600000800000140001a000001100000800000140000600008,
  0x50000100000018000020000004000010000001400002000000400003000000140000200000,
  0x1000110000000c000020000001000068000000c0007e000000100016000014100000200000,
  0x100000800000000000200000010000080000000000020000005000200000000c0004a00000,
  0x10000080000000000020000001000008000000000002000000100000800000000000200000,
  0x10000080000000000020000001000008000000000002000000100000800000000000200000,
  0x10000080000000000020000001000008000000000002000000100000800000000000200000,
  0x10000080000000000020000001000008000000000002000000100000800000000000200000,
  0x10000080000000000020000001000008000000000002000000100000800000000000200000,
  0x10000080000000000020000001000008000000000002000000100000800000000000200000,
  0x10000080000000000020000001000008000000000002000000100000800000000000200000,
  0x10000080000000000020000001000008000000000002000000100000800000000000200000,
  0x10000080000000000020000001000008000000000002000000100000800000000000200000,
  0x10000080000000000020000001000008000000000002000000100000800000000000200000,
  0x10000080000000000020000001000008000000000002000000100000800000000000200000,
  0x10000080000000000020000001000008000000000002000000100000800000000000200000,
  0x10000080000000000020000001000008000000000002000000100000800000000000200000,
  0x10000080000000000020000001000008000000000002000000100000800000000000200000,
  0x10000080000000000020000001000008000000000002000000100000800000000000200000,
  0x10000080000000000020000001000008000000000002000000100000800000000000200000,
  0x10000080000000000020000001000008000000000002000000100000800000000000200000,
  0x10000080000000000020000001000008000000000002000000100000800000000000200000,
  0x10000080000000000020000001000008000000000002000000100000800000000000200000,
  0x10000080000000000020000001000008000000000002000000100000800000000000200000,
  0x10000080000000000020000001000008000000000002000000100000800000000000200000,
  0x10000080000000000020000001000008000000000002000000100000800000000000200000,
  0x10000080000000000020000001000008000000000002000000100000800000000000200000,
  0x10000080000000000020000001000008000000000002000000100000800000000000200000,
  0x10000080000000000020000001000008000000000002000000100004800000000000200000,
  0x10000080000000000020000001000008000000000002000000100000800000000000200000,
  0x10000080000000000020000001000008000000000002000000100000800000000000200000,
  0x10000080000000000020000001000008000000000002000000100000800000000000200000,
  0x10000080000000000020000001000008000000000002000000100000800000000000200000,
  0x10000080000000000020000001000008000000000002000000100000800000000000200000,
  0x10000080000000000020000001000008000000000002000000100000800000000000200000,
  0x10000080000000000020000001000008000000000002000000100000800000000000200000,
  0x10000080000000000020000001000008000000000002000000100000800000000000200000,
  0x10000080000000000020000001000008000000000002000000100000800000000000200000,
  0x10000080000000000020000001000008000000000002000000100000800000000000200000,
  0x10000080000000000020000001000008000000000002000000100000800000000000200000,
  0x10000080000000000020000001000008000000000002000000100000800000000000200000,
  0x10000080000000000020000001000008000000000002000000100000800000000000200000,
  0x10000080000000000020000001000008000000000002000000100000800000000000200000,
  0x10000080000000000020000001000008000000000002000000100000800000000000200000,
  0x10000300000000000100000001000048000000000002000000100000800000000000200000,
  0x10000300000000000100000001000040000000000010000000100004000008000000c00002,
  0x80000400000020000100000008000040000002000010100004000008000000c00002,
  0x1000040000000800010000000100004000008040001c000000000004000000040001000000,
  0x200000004000040000101000028000000800010000000100004000000080001000000,
  0x10000100000404000060000014000018000000400002000001400000800000080000200000,
  0x200000004000040000201000020000005000006000000200000800000000000800000,
  0x1000010000040400006000021400001800000000000a000000100004000000500000600001,
  0xc00003000000680000a0000016000058000045000004000000200000800000000000800000,
  0x10000008000003c00004000000d000008000004000002000000f00000800000440000400000,
  0x1a0000280000060000020000017000008000004400010000000f00000800000340000200000,
  0xb0000100000044000080000010000008000003c00002000001100004800000580000200000,
  0x12000008000004400016000000e000008000003400002000001200000800000440000600000,
  0x1a00005000004680000a0000016000008000004400014000000b00000800000440000200000,
  0xe000008000003400002000001200001800000280000c000020300000800000280000200000,
  0x3000068000043800002000000d000008000004800006000000a000050000000c0000200000,
  0x5000060000001c000060000005000008000001c000080000005000068000384c0004400003,
  0x1000008000005400004000000000000800000540000800000000000080000054000040000f,
  0x80000054000020000001000008000000000006000000100001000000000000600000,
  0x15000008000000000002000001500003000000000000a000001200000800000540000400000,
  0x150000080000000000080000015000008000000000002000001500000800000000000200000,
  0x150000100000004000020000004000020000000400002000000000002000000040000200000,
  0x15000008000000400008000000000000800000480000a000000000001000000040000400000,
  0x90001180000028000200000015000008000000400002000001500001000000480000200000,
  0x12000028000105400004000000a000008000002400008000000100000800000000000200000,
  0x120000080000054000040000012000008000005400008000001200001000000540000a00000,
  0x1200001000000540003e000001200000800000540000e000001200000800000540000400000,
  0x1200086000000540003e0000012000008000005400002000001200000800000540000400000,
  0x150000a0000003800002000000d000008000003800002000000d00000800000540001000000,
  0x120000080000054000a2000000e000008000003400002000001500003800000480000400000,
  0x15000058000585400090000001200003000000540005000000120000c800000540003c00000,
  0x1500004800000480000200000150005b800000280002c000001500027000000280007800015,
  0x150007c0000004800002000001500037800000480001000000150001b000000480000200000,
  0xe000008000003400002000000e000008000003400002000000e00000800000340000200000,
  0xe000008000003400002000000e000008000003400002000000e00000800000340000200000,
  0xd00000800000480000a000001500016000000280003c000000e00000800000340000200000,
  0xe000008000003400002000000e00000800000340000200000120000f800000380000200000,
  0xe000008000003400002000000e000008000003400002000000e00000800000340000200000,
  0xd000008000003800002000000d000008000004800106000001500080000000480002000000,
  0xd000008000003800002000000d000008000003800002000000d00000800000380000200000,
  0xd000008000003800002000000d000008000003800002000000d00000800000380000200000,
  0xd000008000003800002000000d000008000003800002000000d00000800000380000200000,
  0xe000008000003400002000000e00000800000340000200000120001f800000380000200000,
  0x120000a80000054000600000012000810000003800002000000d00000800000480004000000,
  0x1000180000000000060000001500045000008540004e000001200003000000540000400000,
  0x10000080000000000020000001000010000000000006000000100000800000000000200000,
  0x10000080000000000080000001000008000000000002000000100000800000000000200000,
  0x18000000c000040000001000030000000000002000000100001000000000000200000,
  0x80000004000020000000000008000000400002000000000000800000040000200000,
  0x80000004000020000000000008000000400002000000000000800000040000200000,
  0x80000004000020000000000008000000400002000000000000800000040000200000,
  0x80000004000020000000000008000000400002000000000000800000040000200000,
  0x80000004000020000000000008000000400002000000000000800000040000200000,
  0x80000004000020000000000008000000400002000000000000800000040000200000,
  0x80000004000020000000000008000000400002000000000000800000040000200000,
  0x80000004000020000000000008000000400002000000000000800000040000200000,
  0x80000004000020000000000008000000400002000000000000800000040000200000,
  0x80000004000020000000000008000000400002000000000000800000040000200000,
  0x80000004000020000000000008000000400002000000000000800000040000200000,
  0x80000004000020000000000008000000400002000000000000800000040000200000,
  0x80000004000020000000000008000000400002000000000000800000040000200000,
  0x80000004000020000000000008000000400002000000000000800000040000200000,
  0x80000004000020000000000008000000400002000000000000800000040000200000,
  0x80000004000020000000000008000000400002000000000000800000040000200000,
  0x10000080000000000020000015000030000000400004000000000000800000040000200000,
  0x110000200001404000020000000000008000001400006000000100000800000000000200000,
  0x40001c0000080400002000050100000800004040004c000001100001000000280000200000,
  0x400003800004100000e00009040000b80000014000020000e11000008000000c0000200007,
  0x400003800004100000e000010400003800004100000e000010400003800004100000e00001,
  0x10000008000003c000020000010000008000003c00002000001100001000000140004000001,
  0x10000008000003c000020000011000008000004000002000000f00000800000440000600000,
  0xf000008000004400002000000c000008000004400004000000c00000800000440001200000,
  0xe0000080000034000020000010000008000003c00002000001100001000000400000200000,
  0xe000008000003400002000000e000008000003400002000000e00000800000340000200000,
  0xc000008000004400008000000c000010000004400014000000300000800000440000a00000,
  0xd000008000004400006000001500001000000440001a000000d00000800000440000200000,
  0xd000008000003800002000000d000008000003800002000000d00000800000380000200000,
  0x150000800006854001ac0000c150002c8000045400034000220c00000800000380000200000,
  0x90000080000010000020000003000008000005400002000001100001800000580000200000,
  0xe000008000003400002000000e000008000003400002000000e00000800000340000200000,
  0xd000008000005400004000000e000008000003400002000000e00000800000340000200000,
  0xd000008000003800002000000d000008000003800002000000d00000800000380000200000,
  0x9000048000005400002000000e000010000003400002000000c00000800000380000200000,
  0x90000180000054000040000003000028000003000002000000600001000000140000800000,
  0x50000100000810000ac00001150000100000044000020000004000008000000c0000200000,
  0x110000080000010000b4000000c000008000001000002000000300001000000500000400000,
  0xa00002000000540000400001040002f00000410000560000504000008000000c0000600000,
  0x150000f8000001000020000001500000800024540004c000000400010000000540001400000,
  0x1500010000000280001e000001500000800000280001000000150000f000000280001400001,
  0x150002000000010033800000015000a0000000280001e000001500013800000280001400000,
  0x300003000000100005000009150001b80000c10008ee000000300000800000100a42a00000,
  0x80000500000010000200000011000018000000c00002000000400086000000440000400000,
  0x80000004000020000000000008000000400002000000000000800050100000400000,
  0x80000004000020000000000008000000400002000000000000800000040000200000,
  0x80000004000020000000000008000000400002000000000000800000040000200000,
  0x80000004000020000000000008000000400002000000000000800000040000200000,
  0x80000004000020000000000008000000400002000000000000800000040000200000,
  0x80000004000020000000000008000000400002000000000000800000040000200000,
  0x80000004000020000000000008000000400002000000000000800000040000200000,
  0x40000080000004000020000000000008000000400002000000000000800000040000200000,
  0x30000080000044000020000005000050000004400002000000700001800000140000200000,
  0x10000080000000000020000001000008000000000002000000100000800000000000200000,
  0x10000080000000000020000001000008000000000002000000100000800000000000200000,
  0x10000080000000000020000001000008000000000002000000100000800000000000200000,
  0x10000080000000000020000001000008000000000002000000100000800000000000200000,
  0x5000010000000c000040000001000008000000000002000000100000800000000000200000,
  0x300004800000500002e0000811000030000001400004000000900005000000100008c00000,
  0x80000004000020000000000008000000400002000000000000800000500000400000,
  0x80000004000020000000000008000000400002000000000000800000040000200000,
  0x80000004000020000000000008000000400006000000000000800000040000200000,
  0x80000004000020000000000008000000400002000000000000800000040000200000,
  0x80000004000020000000000008000000400002000000000000800000040000200000,
  0x80000004000020000000000008000000400002000000000000800000040000200000,
  0x80000004000020000000000008000000400002000000000000800000040000200000,
  0x80000004000020000000000008000000400002000000000000800000040000200000,
  0x80000004000020000000000008000000400002000000000000800000040000200000,
  0x80000004000020000000000008000000400002000000000000800000040000200000,
  0x80000004000020000000000008000000400002000000000000800000040000200000,
  0x80000004000020000000000008000000400002000000000000800000040000200000,
  0x30000080000004000020000000000008000000400002000000000000800000040000200000,
  0x100000004000020000000000008000000400002000000000000800000040001000000,
  0x80000004000020000000000008000000400002000000000000800000040000200000,
  0x80000050000040000003000008000000400002000000000000800000040000200000,
  0x10000080000000000020000004000008000000400002000000000000800000040000200000,
  0x10000080000000000020000001000008000000000002000000100001800000000000200000,
  0x10000080000000000020000001000008000000000002000000100000800000000000200000,
  0x10000080000000000020000001000008000000000002000000100000800000000000200000,
  0x100000800000000000a0000001000008000000000002000000100000800000000000200000,
  0x10000080000000000020000001000008000000000002000000100000800000000000a00000,
  0x10000080000000000020000001000008000000000002000000100000800000000000200000,
  0x10000080000000000080000001000008000000000002000000100000800000000000200000,
  0x10000080000000000020000001000008000000000004000000100000800000000000200000,
  0x10000080000000000020000001000008000000000002000000100000800000000000200000,
  0x10000080000000000020000001000008000000000002000000100000800000000000200000,
  0x30000100000010000020000001000008000000000002000000300002000050000000200000,
  0x40000200000014000020000004000018000001400002000000400003800000040000200000,
  0x15000020000001800002000000500001000000180000400000040000b800000140000200000,
  0x40001a00001854000020000013000008000005400004000000a0000300000c140000200000,
  0x110000100002014000040000006000080000001000064000000600001000020440000800000,
  0x11000008000001000002000001100001800000100000c000000500009000018200001400000,
  0x1100001000000140001000000040000e0000002000014000000500000800000100000400000,
  0x50000180000c100003a00000110000080002c1800004000000500005800000100002e00000,
  0x60000100000014000080000006000010000001400002000000400017800000180000200000,
  0x11000010000102000014000000300000800004440001a000000600001800000140000400000,
  0x40000280000020000140000004000048000000c00002000000500000800000100000a00000,
  0x50000100000018000040000005000010000001800004000000500003000000100005200001,
  0x80000500000818000020000005000008000001000010000000500000800000100000600009,
  0x40000080000054000060000004000030000000c00002000000400008000000440000800002,
  0x40000080000014000020000004000190000001800002000000500000800000180000200000,
  0x40000080000014000040000004000028000001400004000000400001000000140000600000,
  0x40000580000044000040000003000008000001000004000180400000800000140000200000,
  0x30000100000010000020000011000010000001800004000000500001000000180000200000,
  0x400003800024100000c000020400003000008100000c0000a0500000800000180000200000,
  0x30000080000004000120000003000020000005000002000000100015800004100000e00001,
  0x60000100000014000020000006000010000001000046000000100028000010500000400000,
  0x80000500000814000020000006000008000004400002000000600001000000140000200000,
  0x40003500000810002dc000001b00c80002010100006200004040000b800030100574800006,
  0x120000080000010000140000005000008000001000002000050100002800030040000e00026,
  0x40003600000410000040000104000010000041000002000010400002800004100001a00000,
  0x15000080000003400002000000e0000080000010002d6000001500008000000500002200000,
  0x13000008000001000018000201500004000000100006c000001500001000000100008000000,
  0x11000008000003800002000000d00000800000440000e000000500008000000540000600000,
  0xe000008000003400002000000b000010000003000004000001100000800000140002000006,
  0xe000008000003400002000000e000008000003400002000000e00000800000340000200000,
  0xe000008000003400002000000e000008000003400002000000e00000800000340000200000,
  0x11000020000003800002000000d000008000004400004000000e00000800000340000200000,
  0xe000008000003400002000000c0000080000044000080000111000018000002c0000600000,
  0x12000008000004400006000000e000008000003400002000000e00000800000340000200000,
  0x40000280001044000040000013000008000004400002000011200001800000300000200000,
  0xd0000080000044000060000013000008000004400006000011a00000800008100010e00001,
  0x110000100000030000020000011000008000004800002000001100000800000380000200000,
  0xd0000080000000000340000011000010000004800006000001100001000000200001400000,
  0x10000d0000005000002000000b000008000005000002000000e00000800000440000200000,
  0xe0000080000034000020000012000008000003800002000001200000800000340000200000,
  0x30000080000010000140000011000010000003800002000000d00000800000440000200000,
  0x400003000008100000c00002040000300000c100003e000000300001000000100005a00000,
  0x13000010000005400002000001400000800000480000200000130000100000c100000600002,
  0x4000060000085400004000001a000018000285400004000001200002000000540000200001,
  0x40003d800088100001c0000204000078000041000004000010400009800004100003400001,
  0x1500008800000280000800000090001a8000005400012000030a00016800010440000600005,
  0x500000800000540005a0002f150000080000c540001a000011500001800000280000400000,
  0xa000020000001000040000040a0000d80000014000020000f040001880000c100003a00082,
  0x500002800000100004c0000509000008000001000010000000900000800000100002800009,
  0x90000280000044000020000004000040000101000048000001100000800004100003c00005,
  0x1000120000100000048000060800005000008100009c00000010001400000000000500002a,
  0x3800004000001e00001000000580000044000020000b040001a000020100005000004,
  0x40001a00000c0400004000010100003800004040001e000010100005800004000000400001,
  0x3000048000040c0005400001030000300006010000100000a040000b000024100026e0000c,
  0x40000b80000810000020000304000010000041000058000010400000800008100000c00045,
  0x40000f800000280000e000001500001000000100002e000000a00004000000440000200001,
  0xa00003000000100002c000000a0000280001410000040000104000098000c0280001200008,
  0xa00001000010100007000026040000d000000440000200005040000d000000440000200003,
  0x5000010000041400006000000400000800000280005c000020a00008000000100000400000,
  0x500000800010140000600002040000e8000041000006000010400002000000140000800005,
  0x40000e8000004400002000000a00001000000100003a00007110000480001c280001200000,
  0xa00002800010140000400000040000e0000005400002000000400004000080280000600000,
  0x400009800000280001000002040000b000000440000e00003040001b000024440000e00000,
  0x198000dc1000092000500a000038000304400008000070400009000000280001000005,
  0x80000500001820000140000805000020000001000048000000a0000300001c04000660000d,
  0xc00000800000140000a00003000000b0000001000002000000300000800000100000800000,
  0x5000010000041000054000010a0000f800340480000400008010000b0000000c0000200000,
  0x110000080002010000040000003000008000001000006000100400001000008300000200000,
  0x40000b0000201000002000000a00005000000100003a000000500003000084540001000000,
  0x11000020000001400008000000400009000058440000a000000a00002000000140001600000,
  0x6000008000001400002000000600000800024100002e000140a00003800000100002a00026,
  0x5000008000002000014000000a0000a000010440000e000000500007800000100006a00000,
  0x40001680000018000020000005000018000241000002000000500001000000100000400000,
  0x1a0000080000044000040000005000010000001800004000000500002000000180000600000,
  0x500001800018200001400007040000c80000868000020000a0500000800000440000800000,
  0x110000200000020000140000105000040000001800002000000500002800000100004800000,
  0x110000100000014000020000004000118000201000002000000600001000000100000200000,
  0x50000480000018000060000004000180000001800002000000500001000024100000200000,
  0x60000080000044000020000005000020000004400008000000400002000000180000400000,
  0x110000180000010000020000011000008000001000002000000800005000000140000200000,
  0x6000010000001400006000000600001800000100003200001040000900002c280002800001,
  0x40000100000014000020000011000030000001400004000000600000800000140000200000,
  0x400005000004100001e00001040000200000410000020000104000038000f8140000200000,
  0x80000500001414000100000006000018000001400002000000400017800018440000200000,
  0x400003800004100002c0000204000010000081000010000010600001000000140000400006,
  0x50000080000018000040000004000008000001400004000010400002800004100000400001,
  0x40000280001418000020000604000008000081800006000020600001000008180000800000,
  0x400000800008100000200001040000500002c140000a000030500003800008180000400000,
  0x60000080000818000020000105000030000001800006000000400000800004100004c00001,
  0x40000080000014000020000006000008000001400002000000600001000004180000800001,
  0x40001a80007414000040000811000010000044400004000000400000800000140000200000,
  0x50000080000018000020000005000018000001800004000000500004000000180000600000,
  0x50000080000044000020000111000010000002000014000001100002800000100000800000,
  0x50000080000018000020000005000030000001800006000000400018000078100000600000,
  0x110000080000010000040000005000010000001800002000000500001000000180000800000,
  0x6000020000081400008000000600001800000100005e000a60800005000020100000200000,
  0x500001000000100000800000110000b8000001400004000000600000800000140000400000,
  0x60000080000014000020000006000010000001400010000000600001800000100006000022,
  0x40001580004c440001a00006080000500002c1000002000001100001800000140000400000,
  0x600000800000140000c0000006000010000001400002000000600000800000140000200000,
  0x40000d80007020000280000608000050000184400002000000400000800000140000200000,
  0x60000080000014000080000006000010000001400002000000600000800000140000200002,
  0x40000380000054000020000011000018000002800004000000800005000010140000a00000,
  0x1100000800000140000400000060000080000014000120000006000018000001000058000b9,
  0x40000080000810000100000c0a000048000002000014000000100010000000000004000064,
  0x50000100000818000040000106000030000001000030000010400001000004100001000002,
  0x60000080000010000020000006000008000001000002000000500000800000180000200000,
  0x600001800000100004e0000204000040001182000014000091100001800000140000200000,
  0x110000080000010000020000005000008000001800008000000500001000008140000800000,
  0x500003000000100005000000050000500000010000020001b0600000800000100000200000,
  0x40000080002014000020000011000040000001400008000000400000800000180000200000,
  0x600000800000140001a0000004000170000001400006000000600001000000140000c00000,
  0x110000500001c10000920000d11000028000001000002000001100001800000140000400000,
  0x60000080000014000020000006000008000001400006000000600000800000140000200056,
  0x600000800000100004a00001040000480001820000140000e1100000800000100004200058,
  0x110000280000010000020000005000008000001800002000000500003000004140000e00000,
  0x600000800004140002c00002040000f0000004400004000030a0000980000020000140000a,
  0x40000380012414000040000006000008000001400004000000600000800000140000e00000,
  0x500003800004140000400001050000080000c140000c000000400013000004100000400001,
  0x40001000000410000040000104000030000182000014000080500000800000100000200000,
  0x50000080000018000020000005000008000001800004000010500001000004180000a00000,
  0x8000050000101000004000000300000800000100005200006080000500001c100000200000,
  0x400000800000140000400007110000100000018000040000005000010000001000026000f6,
  0x60000100000c140000a0000006000010000001000044000010400006800000180000200000,
  0x50000080000020000140000011000068000001400002000000600000800000140000200000,
  0x110000080003454000220000013000020000005400010000000a0000a80003c100000200055,
  0x110000100000010000c200a4c040006200002c440000a000010900037800198100073400000,
  0x4007cd800028140001e0000004000030000001400002000001a0000800000010008600000d,
  0x8000050000001400006000000600001800000140001800000040000f006ae4100048e00005,
  0x800005000004100009e000001100001000010200001400001040000f80001c1000472006c6,
  0x1100002800000140000e0000004000180000284400002000000500002800008100003c00006,
  0xa0000380000420000140000a15000008000004400002000000300002000000540000800000,
  0x11000018000000c000040000004000140000000c00006001b00400009800014100002a00001,
  0xc8000144400008000000a0000b8000000400040000000000010000318200001400000,
  0x50000200001c180006e00000040000080000014000020000404000258000b0040003200002,
  0x60000100002c140000200000030000080000044000020000003000010001000c0001a00000,
  0x3000020087f410000e60006104000100000a410039ac0000909000018000000c0000400000,
  0x40000080000810000060001d040000080003c10002460000103000010000040c0000e00001,
  0x40000500001c100001200003040000680001410000d60090404000c600002010000080000e,
  0x80000500000054001e000f5c1a000020000004400002000000500001000000540000200002,
  0x50001700003c480000200000150000800003c540002e0000615000da00000c540000600000,
  0x600001000000540007800002150001380002854001ec0003c150003a000024140002e00002,
  0x15000010000001400010000001a00004000000180000c000001500001800000140000600000,
  0x500001800000540008400015150001e800000140000800000150000f000000140000e00000,
  0xd00021c280003200009150002b80003028000280000c0a0000a0001e8540000200000,
  0x10000d0000000000034000000100009000004040000e00000000000d000000040003400000,
  0x400000400000080000200000010000080000002000020000001000004000000200000,
  0x10000d0000000000034000000100005800004040000e000010100000800004040000800000,
  0x100000004000340000100000038000040000010000020000002000004000000400000,
  0xd000000040003400001000000380000c0000002000010000002800004000000800001,
  0xd000000040003400000000000d000000040003400000000000d000000040003400000,
  0xc800008040003800000000000d000000040003400000000000d000000040003400000,
  0x12000008000000000032000000100003000000480000200000010000c800000480000200000,
  0x10000c800000480000200000000000c800000040000c000001200000800000040003200000,
  0x120000080000004000320000012000008000000000032000000100003000000480000200000,
  0x100003000000480000200000010000c800000480000200000000000c800000040000c00000,
  0x1500002000000140006e0000015001000000002000064000020100000800000000000200000,
  0x150000100000014000020000015000070000001400002000001500004000000140006400000,
  0x10000a0000001000002000000100005001140140001e00001050000280003c440000a00000,
  0x50000280000414000040000105000038000081400022000010500003800354040000c00006,
  0x8000050000080c0000e00000050000380000c100005a0007005000008000840c0007c00005,
  0x5000020000001000058000110500000800000100003c001401500000800000100000200004,
  0x80000500000014000080000003000008000001000036001d01300000800014200001400000,
  0x40000f80030044000020000408000050000001000002000000500001000000100003c000d6,
  0x500001000000100000e0000005000008000001000004000000500000800000100000600001,
  0x400002000004100000e000e003000008000001000002000080500000800000100000a00000,
  0x110000a4140000e000000a00004800008100018a000010400007800004100000400001,
  0xa0001d800c4444000040000408000050000100c00002000000500003800000040004400000,
  0x1500000800000280005a0004c0a000020000004c00002000000a00001800000540000200000,
  0x40000080000810000020000104000010000041000036000010400002000308280001e00000,
  0x40000080001010000020000604000008000041000002000010400002000004100001400001,
  0x40000080000810000020000104000010000041000006000010400000800004100000200001,
  0x40000080000410000040000104000008000041000002000010400000800004100000200001,
  0x40000500000410000020000104000020000041000008000010400003800004100000800002,
  0x15000160004384800004000340400008800004100000a000010400001800014100002200001,
  0xa00006800028540004a000011500007800004540001e00002150000780003054000c800004,
  0x1500003000038540000400007150000480001054000580000d150000e8000e0540014200000,
  0x150006d00000c540001a00003150000880000c54005b200000140000280000054001f60009a,
  0x1500014000018540001400008150001c00001054000180000f1500000800010540001800006,
  0x150000700002054002b00002712000048000385400004000041500006000008540003c00008,
  0x15000060000085400020000041500000800004540007200003150000580000c540001a00002,
  0x405370001014540000200000080000500000054000b800001150004980001c540001400004,
  0x4009a5801788100043c009a2040013700003c1003a62000020400b47000008100223c00020,
  0x1b07fff0000086c1fffc0fe10050007800020068000c00001e1a00000ab2e1c100425400005]

end UrlMatch.Unicode
