/-!
# Properties of characters, packed

Each numeral packs six spans of 50 bits, lowest first: the gap since the last span, the
length, and the tag. Only the ages use the tag: it is the position in `ageNames`.
-/

namespace UrlMatch.Unicode

/-- The code points with the property Bidi_Mirrored. -/
def bidiMirroredWords : List Nat := [
  0x80007400000020000100000008000700000002000010000000800048000000400028,
  0x100267000000040075d00000020039f800000020000f00000008000b4000000200001,
  0x300000c0000008000c000000008002c400000040000e00000010000d800000040000a,
  0x8000040000002000010000002000004000000800003000000100000c000000200003,
  0x80000400000040000900000020000140000024000010000000800014000001200004,
  0x980000800000040000900000008000140000008000020000010000004000001000001,
  0x2000020000002000002000000c0000100000004000020000002800024000000400005,
  0x10000040000008000020000000800128000001c0043d000000100001c000000400014,
  0x3000008000002c00193000000700000c0000006000050000002000014000000600001,
  0x1000004000000a00004000000080000c000000c000070000000800020000001c00001,
  0x1000008000000c0000a00000010000080000006000010000000800010000000a00002,
  0x20000040000002000020000000800004000000200002000000200000400000260000c,
  0x1000004000000800004000000100002c0000004000180000001800018000000400005,
  0x80000400000020000500000140000040000010000020000015800010000000400002,
  0x800400000000200001000000280000c0000002000040000001800014000000a00003,
  0x40000ac0000014000020000001000038000000400001000000100000c000000800203,
  0x8000480000004000a20000001000014000000c0ce3d00000040000080000014001ab,
  0x100000400000020000100000008000740000002000010000000800070000000200001,
  0x8000e400000020003900000008000e40000002000390000000835ddc000000400001]

/-- The code points with the property Dash. -/
def dashWords : List Nat := [
  0x30020240000002004050000000803904000000200033000000080157000000020002d,
  0x800008000000200c04000000080061800000020000f000000080009c00000020003d,
  0x8001bc00000020001300000008006f800000020001c000000080001000000040001f,
  0x8004f8000000200e6000000008002a400000020000a000000080009400000040cd90]

/-- The code points with the property Diacritic. -/
def diacriticWords : List Nat := [
  0x10000080000002000040000000800018000000200047000000080000400000020005e,
  0x10000240000002000040000001000044000000c000050000004000004000013e001f7,
  0x10000040000004000010000000800004000005a000370000000800344000000a000fd,
  0x180000c0000004000040000001000218000000400004000000400020c000000200001,
  0x50000a400000100007e000000100008800000160003a000000580016c000003600043,
  0x80012800000020001c000000200000c00000020001000000008000f4000003800010,
  0x18000bc00000020001000000008001b800000020001000000008001b8000000200010,
  0x80004000000020006e00000008001dc000000200007000000080004000000020003c,
  0x8001bc00000020007c000000080004000000040006d000000080004000000020006e,
  0x80006c00000040004b000000280003400000020006b0000000800004000000c0000c,
  0x8000f800000040000100000018001080000004000040000000800004000000200001,
  0x800004000000e0001900000028000100000004000280000001000004000000200070,
  0x80002400000160009400000008000780000004003b40000001800b0400000040000a,
  0x5800008000001e000300000000800008000001000014000000080049000000060015b,
  0x10000d8000001200026000000080003c0000002000480000006000008000001e00003,
  0x8000100000032000520000003000100000000400042000000100002c00000020003a,
  0x580009400000180000500000120000c0000007e000320000001800008000000200006,
  0x100003400000060000d000000180003400000060000b00000018000040000002001bd,
  0x81d5c800000020005f00000020001a4000000c001fa00000008004f4000000600cf0,
  0x180019800000440000e000000100014800000040001c000000080000400000040000c,
  0x900006c000000200097000000080009400000020000c0000001000018000000200066,
  0x1800254000000200024000000080003000000020005f0000000800090000000800039,
  0x813cc00000004000800000001800024000000a0006400000008000cc000000800041,
  0x80010c00000040002d00000008000bc0000002000010000000800438000002000301,
  0x80001000000060027d0000004800004000005400001000000300127c0000002002fc,
  0x180000800000020018c000000280006800000020002600000030008ec0000004000a5,
  0x10001e000000040004800000008000a40000002000c000000020000c4000001600046,
  0x10001400000004000b200000010001a0000000600009000000080013000000020003e,
  0x10000340000004000010000001800164000000a000030000003800060000000200010,
  0x10001d800000020007e00000010003ec00000040007b000000080000c00000020005f,
  0x80014c00000020009c00000008000100000004001020000001000434000000200073,
  0x80014400000040000100000008004080000002001a50000000800144000000200012,
  0x2802700000000202cd900000078053b0000000200017000000100059c000000200041,
  0x3800004000000803ffe000000100014000000220022200000010008d0000000e0003b,
  0x4000020000000c000030000001800880000002e000020000017007c04000000400001,
  0x20000f40000002001770000003800308000007c00e820000002000078000000e00002,
  0x180000400000060006d0000003800b800000004002fe]

/-- The code points with the property Emoji. -/
def emojiWords : List Nat := [
  0x807e3400000020000400000008001bc0000014000050000000800018000000200023,
  0x10005bc00000040000f0000003000168000000200016000000080036000000020000c,
  0x100039c0000002000c70000001800010000001600019000000080029800000020000c,
  0x800008000000200009000000280000400000080003a000000080002400000020000a,
  0x80000800000040000100000008000080000002000040000000800008000000400002,
  0x60000140000002000010000000800014000000600008000000100000c000000200003,
  0x10000080000002000120000000800004000000400001000000080000800000040000b,
  0x1000008000000200005000000100000c0000004000010000000800004000000c00012,
  0x8000040000004000050000000800008000000400005000000100002c000000400004,
  0x8000100000002000020000002000004000000c000050000001000050000000400001,
  0x80000400000020000100000008000080000002000010000003000008000000200002,
  0x80000800000020000f0000001000028000000200006000000080000c000000200006,
  0x18000c000000040000b00000008000040000006000040000000800004000000200004,
  0x100004c0000006001cf00000010005d000000020000e0000000800038000000200009,
  0x80000400000020025900000008000300000002004da0000000800010000000200033,
  0x500000800000020000e00000010000300000004000a0000000080032800000021bd6a,
  0x10000540000012000020000000800050000000200017000000100000400000340004b,
  0x180000800000a600002000000180000400000040000200000380000080000044000ae,
  0x4000008000000400007000000c000004000000c0000b000001f800004000020e00001,
  0x80000800000040000d0000001000010000000200002000000200000800000020000c,
  0x80000800000060000800000018000300000006000050000000800024000000400008,
  0x230000c000000ac00006000000080000c0000002000060000000800010000000200001,
  0x80000c000000400001000000080000c0000014000030000002000008000001000005,
  0x5c800004000001400001000001780046c000000200004000000600038c000001400002,
  0x60000080000020000040000000800004000007200003000000580000c000001a00070,
  0x1400004]

/-- The code points with the property Emoji_Modifier_Base. -/
def emojiModifierBaseWords : List Nat := [
  0x80000800000060003c00000008731dc000000800010000000080036c00000020261d,
  0x1800010000000200003000000980005400000160000200000010001d4000000600002,
  0x8000100000004000c90000000800060000000200001000000080001c000000600001,
  0x1800040000000200053000000280000c0000006000ae0000001000010000000200015,
  0x800018000001000008000000080000800000020023f000000080002c000000200009,
  0x80000400000040000100000010000f40000002000380000001800008000001400009,
  0x48000a80000006000e50000006800004000000600011]

/-- The code points with the property Emoji_Presentation. -/
def emojiPresentationWords : List Nat := [
  0x10000540000004002090000000800008000000200003000000200033400000040231a,
  0x1000044000000400008000000080003400000020001300000008000ac000001800032,
  0x80000400000040000700000008000540000002000050000000800020000000400005,
  0x80008c00000020001c00000010000100000002000070000000800008000000200004,
  0x80003800000020001800000018000f40000002000010000001800010000000200001,
  0x8002f80000002000ca00000008712b800000020000400000008000cc00000040035b,
  0x28000080000002000140000000800060000000200001000000d00012c000001400002,
  0xb000004000008c0000100000048000300000042000ae0000001000054000000600001,
  0x800004000008e00003000000080000c00000220000c000000280001000000560000c,
  0x1000068000000200012000000c00000400000080000d000001f800008000017600001,
  0x20000080000006000030000000800018000008c00030000002a80015800000020000d,
  0x1780046c000000200004000000600038c000001200007000000100002c000000800003,
  0x800004000007200003000000580000c000001a00070000005c800004000001400001,
  0x14000040000006000008000002000004]

/-- The code points with the property Extended_Pictographic. -/
def extendedPictographicWords : List Nat := [
  0x8000580000002000d80000000800030000000201f8d00000008000100000002000a9,
  0x58000640000002000a6000000080003000000040016f000000100003c000000c0005a,
  0x20000e800000020000900000008000280000004000e7000000080031c000000600004,
  0x80001000000020000200000010000080000002000020000000800024000000a00001,
  0x1800020000000400003000000080000c0000002000020000001000004000000200002,
  0x1000004000000200002000000100002c0000018000050000000800004000000200005,
  0x100000400000020000100000030000480000004000020000000800048000000200001,
  0x100001400000040000b00000010000100000004000020000000800014000000400003,
  0x300001400000040001400000010000040000002000010000001000014000000200002,
  0x800004000000c0000200000008000080000002000040000000800008000000800001,
  0x80001800000020000300000008000180000002000010000000800004000000200002,
  0x18000100000002000010000000800010000000200002000000080003c00000040000a,
  0x80003800000020000e0000000800024000000600030000000100002c000000200001,
  0x80136800000020000400000008000cc000000400013000000180073c000000400174,
  0x6000190000000800027000000086f5a8000000200001000000080096400000020000c,
  0x1000030000000400070000000500009400000040000e000000080003c00000040000f,
  0x80005000000020000a000000780006c000007000013000000500000800000020000e,
  0x100000800000e000002000005e000018000002e000090000002000004000001200002,
  0x1f80000400001fc0000500000020000040000006000020000029800008000000600001,
  0x200000800000020000c0000004000008000000400007000000c000004000000c0000b,
  0x800024000000400008000000080000800000040000d0000001000010000000200002,
  0x80001000000020000100000008000080000006000080000001800030000000600005,
  0x880000800000100000500000230000c000000ac00006000000080000c000000200006,
  0x40000e000000080000c0000013000368000001a000020000003000004000000200003,
  0x13800024000001c00002000000200003000000040001e00000040000a0000000c0000a,
  0x1ff00040000001240000e00000040001600000172000010000005000004000005e0000c]

/-- The code points with the property Extender. -/
def extenderWords : List Nat := [
  0x80022400000020027600000008006e400000020036e00000010008600000002000b7,
  0x80098c000000200038000000080250c00000020007f0000000800bc0000000200059,
  0x180017400000040006700000028000ac000000201389000000080011000000020018e,
  0x8001b000000020008900000008000580000002003c200000008017d8000000206f16,
  0x80001000000020001b000000080172c00000040081000000008151ec000000400015,
  0x800d000000002004cf00000018007c800000040007400000008004940000002004c7,
  0x8012c400000040714800000010000380000002000010000001001270000000404d68,
  0x600354]

/-- The code points with the property Ideographic. -/
def ideographicWords : List Nat := [
  0xb7016400000a400000400000ce0000f1400000060000e0000004800064000000403006,
  0x398001840000040000290000e6b000024000000a0000d000000081d42800000d400002,
  0x13700003c0003a62000020000b47000008000223c00020000537001341000003180237d,
  0x42540000500009a5801788000043c009a2]

/-- The code points with the property Other_Grapheme_Extend. -/
def otherGraphemeExtendWords : List Nat := [
  0x800060000000200066000000080006000000020016600000008000600000002009be,
  0x80019c000000400009000000100000400000040000400000008000040000002000e8,
  0x80100000000020001e00000008024d400000020000f00000008001dc000000200018,
  0x80106000000040004700000008001940000004000050000000800004000000200005,
  0x8001d0000000201220000000101577400000020006c000000081e48c000000401021,
  0x80000800000020000900000008001800000002000090000000800038000000200108,
  0x8004180000002000f100000008000300000002000e00000000800014000000600001,
  0x300001800000040617300000010142b80000002006030000000800030000000200279,
  0xc0c2ead]

/-- The code points with the property Other_Math. -/
def otherMathWords : List Nat := [
  0x80708000000040000200000010000680000002000020000001800dc400000020005e,
  0x680010400000040000e0000001000060000000800020000000080002c00000060001b,
  0x50000080000002000040000000800048000000a00004000000100000c000000200004,
  0x1800004000000400002000000100000c000000200006000000280000c000000200001,
  0x1000004000000800002000000280012c000000a00005000000200000c000000c00001,
  0x90000100000004000040000001000008000000a000010000000800004000000400001,
  0x20004880000004000060000000800004000000e000010000000800004000000400002,
  0x48000300000004001bd000000080004400000020001800000008000040000004000a8,
  0x80000400000020000e000000280000c0000004000020000001000014000000a00005,
  0x100002400000080001d00000008000040000002000390000001000060000000c00002,
  0x83518c00000040002000000020000fc000002c00193000000500007c000000400156,
  0x2380000400000aa0d4c100000008000040000002000d30000000800010000000200001,
  0x80000400000180000100000020000080000004000020000000800008000000400001,
  0xe000004000000e0000100000040000080000008000010000020800004000000e00001,
  0xc80000800002a800001000000380000c0000002000010000002800004000000800001,
  0xf800004000003200001000000f800004000003200001000000f800004000003200001,
  0x20058000000064000020000004000004000003200001000000f800004000003200001,
  0x200000400000140000100000008000080000002000010000001000004000003600001,
  0x80000400000020000100000008000100000002000060000000800004000000200001,
  0x80000400000020000100000008000080000002000010000001000004000000600001,
  0x380000400000080000200000008000040000004000010000000800004000000200001,
  0x180001400000220000100000050000040000002000010000002000004000000800001,
  0x8800004000000a00001]

/-- The code points with the property Pattern_Syntax. -/
def patternSyntaxWords : List Nat := [
  0x380008800000080001a000000080000400000080001a0000003800028000001e00021,
  0x80001000000020000400000010000040000002000010000001000004000000200001,
  0x9800008000001e00008000000c007c6000000020001f000000080005c000000200003,
  0x1800604000010000200000023600007800004ec000a000001680004c4000001400001,
  0x100041400000040cd0d000000080003c000003200004]

/-- The code points with the property Sentence_Terminal. -/
def sentenceTerminalWords : List Nat := [
  0x8002d000000060009300000008015240000002000100000000800030000000200021,
  0x1000494000000400003000000080000400000020003d00000008003d800000060002b,
  0x10002740000004000c60000000800c140000004000040000000800c580000004006e4,
  0x10000280000004000a2000000200058800000040013a000000080001400000020002d,
  0x100005c0000002003a400000010001040000004000bb0000001800074000000400002,
  0x8006b4000000400016000000080003400000020013200000018032bc000000600009,
  0x100015800000040017e000000080000c0000002000e300000010004380000002074fc,
  0x8148980000002000f90000001000240000000600093000000100026000000020005f,
  0x80004000000020000c00000008002a400000040000300000008000ec000000400002,
  0x20001d40000004000bd00000020000b0000000a004fd0000001002bd0000000200041,
  0x10000040000004000580000001000040000000200006000000100020400000060007f,
  0x10001a4000001e0000500000010005d400000040007500000010004a800000020006c,
  0x100069000000040005700000010003ec00000020000100000008008140000006000f9,
  0x80002c0000004000410000000800214000000404b2900000010001280000004002b4,
  0x8077a0000000204e0600000008004a0000000400229]

/-- The code points with the property Soft_Dotted. -/
def softDottedWords : List Nat := [
  0x80005000000020003400000008000780000002001190000000800310000000400069,
  0x80003400000020003300000008064240000002000010000000800188000000200140,
  0x802cc80000004000d6000000080069400000020009d0000000800210000000200003,
  0x10000c800000040003200000010000c800000040003200000010000c800000041a7a5,
  0x10000c800000040003200000010000c800000040003200000010000c8000000400032,
  0x8000680000004001310000000802218000000400032]

/-- The code points with the property Terminal_Punctuation. -/
def terminalPunctuationWords : List Nat := [
  0x800cf8000000200003000000100002c0000002000010000000800028000000200021,
  0x180000400000020000e00000008001200000002000390000000800804000000200008,
  0x4000004000000c0003600000010003ac00000020000100000058000ac0000002000b4,
  0x10004dc000000c0000400000008002b00000004004f4000000100041400000020001f,
  0x80000c00000060009d000000100011c00000060007c0000000800c14000001000315,
  0x10000280000004000a2000000200058800000040013a0000001000008000000800027,
  0x100005c0000002003a400000010000f8000000a000bb0000001800074000000600001,
  0x800028000000200004000000080003400000020013200000018032bc000000600009,
  0x280038c00000060010d000000101d3ec0000004001ac000000100000c000000400001,
  0x8001fc000000600093000000180025c00000020005f000000100015800000040017e,
  0x2000004000000600039000000100000800000020522600000008003e4000000400010,
  0x800104000000200003000000100002c00000020000100000008000280000002000a9,
  0x10004d80000002000c7000000080121800000020003000000008010e8000000200002,
  0x38002f400000080002c0000002800ee00000008000590000003000110000000c00098,
  0x2800160000000400010000000080001800000040008100000018001fc000000800070,
  0x780000c000000800166000000100003000000060007500000010004a800000020006c,
  0x100015c0000004000fb000000080000400000020020500000018003e4000000400069,
  0x28014ac00000040004a0000001000a1400000020002d0000001800678000000400004,
  0x100049c000000400229000000080002800000060004100000008002140000004045f9,
  0x200779c000000204e06]

/-- The upper-case and title-case code points that have no lower case. -/
def withoutLowerWords : List Nat := [
  0x800008000000600002000000180000c00000020000400000008074b40000006003d2,
  0x800004000000400002000000100000c0000002000030000000800018000000a00003,
  0x80006800000340001a000000d00006800000341b2ba000000080001400000040000a,
  0xd00006800000100000100000020000080000004000020000000800008000000400001,
  0x200000400000040001b0000003800004000001000002000000200000400000040001a,
  0xd00006800000340001a000000d00006c000000e000030000000800004000000a00001,
  0xc800084000003200021000000c80007800000340001a000000d00006800000340001a,
  0xd000018000003400006000000d006594000000200021000000c800084000003200021]

/-- The lower-case and title-case code points that have no upper case. -/
def withoutUpperWords : List Nat := [
  0x80003800000040001c000000080015000000020007d000000080003c0000002000aa,
  0x800004000000200002000000080006c000000c000120000000800188000000200003,
  0x100000800000020000100000010000140000002000040000000800008000000600002,
  0x800004000000a0000600000018000080000002000010000001000004000000e00001,
  0x8002040000002000950000002800078000000400007000000d000008000000e00002,
  0x8000004000000600001000003c80300c000000200b73000000080009c000000200163,
  0x680004000000020000d00000008007440000002000010000001000370000006200001,
  0x800010000000200004000000080006c000000200003000000100000c00000020006d,
  0x800198000000e000020000000800008000000200b270000002000020000000400002,
  0x800064000000200006000000080005400000120003e00000010002480000004079b7,
  0x817058000001c000010000003800004000004600335000000180000c000000800041,
  0x9000004000000e0001a000000d03317c0000012000010000015000004000000600002,
  0xd0000680000016000010000003800004000000200001000000200006800000340001a,
  0xd00006800000340001a000000d00006800000340001a000000d00006800000340001a,
  0x300000400000320001a000000300000400000320001c000000e00006800000340001a,
  0x300000400000320001a000000300000400000320001a000000300000400000320001a,
  0x7c0010500000030000180000028000010000005001cd0000000200001]

/-- The code points that case folding changes, but not the mapping to lower case. -/
def onlyFoldedWords : List Nat := [
  0x8001f00000002001c500000008000d400000020006900000008000a40000002000b5,
  0x30039c0000000200191000000080000c000000400019000000100000c00000040000d,
  0x180002800000100000800000040000200000010000e40000001000844000001200882,
  0x28022de000000020000200000018000a80000002000020000001800028000000200002,
  0x2800030000000e04f40]

/-- The versions of the standard, as (short name, long name), oldest first. -/
def ageNames : List (String × String) := [
  ("1.1", "V1_1"), ("2.0", "V2_0"), ("2.1", "V2_1"), ("3.0", "V3_0"), ("3.1", "V3_1"),
  ("3.2", "V3_2"), ("4.0", "V4_0"), ("4.1", "V4_1"), ("5.0", "V5_0"), ("5.1", "V5_1"),
  ("5.2", "V5_2"), ("6.0", "V6_0"), ("6.1", "V6_1"), ("6.2", "V6_2"), ("6.3", "V6_3"),
  ("7.0", "V7_0"), ("8.0", "V8_0"), ("9.0", "V9_0"), ("10.0", "V10_0"), ("11.0", "V11_0"),
  ("12.0", "V12_0"), ("12.1", "V12_1"), ("13.0", "V13_0"), ("14.0", "V14_0"), ("15.0", "V15_0"),
  ("15.1", "V15_1"), ("16.0", "V16_0"), ("17.0", "V17_0")]

/-- Every assigned code point, tagged with the version of the standard that assigned it. -/
def ageWords : List Nat := [
  0x6000008000001400002000000300004000000000003c00000030000200000000003ec00000,
  0x30000280000000000b20000008000070000001c000160000006000018000000c0002400000,
  0x6000088000000c0000a0000000000050000000c00002000000000017800000180000400000,
  0x6000018000001c0000a0000006000040000001400002000000300004800000000008c00000,
  0x9000010000000000004000000900002000000140001a000000300000800000000000400000,
  0x800004000000e000040f000008000000000002000000800001800000000000200002,
  0x5000010000000c000020000000000038000002400002000000000016000004000002800001,
  0x30000080000000000020000003000008000000000002000000300000800000000000200000,
  0x60000280000014000020000004000010000000000024000000300000800000000000200000,
  0x300000800000000008400000030000080000000000180000003000008000001c0000800000,
  0x5000010000000c000040000009000008000000000052000000300000800000000001800000,
  0x10000001400004000000000001000000140000400000000001a8000000c0000800000,
  0x70000100000000000100000003000010000000000038000000800000800000140000400000,
  0xa0000100000024000200000008000020000001400020000000800003000000000000400000,
  0x138000004c00002000000000003800008000004c000010f000040000002c0000400000,
  0x1000088000043000002000000f000010000080c000020000000000008000004c0000200000,
  0x100000800000000001200000080000080000000000140000001000068000001c0000200000,
  0xc0000080000018000080000b00000028000004c0000200004000000d8000201c0000600000,
  0x90000280000018000120000000000008000001c000020000009000028000003c0000200000,
  0xb0000080000000000020000007000008000005c00002000000e00000800000000000200000,
  0x70000300000018000060000003000018000000000026000000900002800000000003400000,
  0x28000000c0000400000000002400000014000040000000000070000002c0000200000,
  0x5000000180000400000000000f0000000c000020000000000078000000c0000200000,
  0x30000d800000180000600000030000f0000040c0001c0000006000008000000c0000a00000,
  0x80001d8000381400002000000300018800000240002400000070000f000000180000600002,
  0x12000058000042c00002000020b0000e000004280001e000020a000170000004c0000600002,
  0xc000008000005c00010000001a000008000145c00004000001b000008000005c0003e00005,
  0x11000040000005c000020000010000010000003c0000c000000c000058000003c0000200000,
  0xc0000d80000040000020000011000078000004c00002000001700005800000580001400000,
  0xb00001000000000006a0000006000008000000000006000000a000008000003c0000200000,
  0xb0000100000028000020000000000028000002c00002000000a00000800000000002400000,
  0x8000010000002800004000000f000008000002c0000a000000900001000000000003200000,
  0x100000800000100000100000018000003c000020000008000010000001c0000200000,
  0x600000800000000000200002000000200000c0000002000010000003800004000002c00002,
  0x100001000000020000807000008000000000006000020000001000008000000e00000,
  0x6000008000084c00002000001200001000000280000200000000000a800008000000a00001,
  0x3800004000002c000020000001000010000000c000010600000800000000000200000,
  0x1000010000000a0000100000008000080000004000010000001000004000000400001,
  0x900000800000000001e000070000000800004000000800007090000080000c000000600002,
  0x18000040000002000000600000800000000000e0000100000018000284c0000200000,
  0x180000400000140000200000028000040000004000010000003800004000002c00001,
  0xc00000800000000001400002060000180000000000020000f0000000800008000000600001,
  0x10000080000010000010000001800004480000c00000100000080001c180000200000,
  0x400000800000080000006000008000040000004000010000003800004000002c00002,
  0x1000010000000400000160000080001c0000006000020000001000008240000200000,
  0x10000282c0000c0000006000008000000000016000020900001000000000000600001,
  0x1000004000000200001000000100000c000000800001000000180000c000000c00001,
  0x28000100000006000000700000800000000001000003000000180000c000000400003,
  0x60000001c000020000e00000008000182400002000020000002000004000000600003,
  0x180000400000100000013000008000000000006000000f00000800014180001000000,
  0x9000008000005c000020000200000028000003c00002000000000005000004000002e00001,
  0x1000000800000240000400001000000100001c0000008000010000001800004000000e00000,
  0x140000080001c000001400002090000100000000000040000217000008000006c0000200001,
  0x40000004c000020000000000010000003c00002000001100000800000240001000000,
  0x38000001800004000020000002800004000001400001000000b800004000000600001,
  0x8000005c00002000001b000008000140000004000070000002000004000000600001,
  0x120000080003060000020000008000010000040000014000020800001000000000000400001,
  0xb800004000000600001000000400000058000020000000000010000003c0000200000,
  0x300000024000020000012000010000002c000020000000000080000002c0000200000,
  0x11000018000104400002000000b000008000000000008000010000001800004240000200000,
  0x500000824000040000000000010000004000002000001100003800000000000200000,
  0x3000090000040c00004000001600000800004240000e000001100001800000240000c00000,
  0x3000030000100c000020000303000038000080c000020000103000048000040c0003000003,
  0xe80001000000740000c03000018000083c000140000603000040000040c0000200001,
  0x80000050000020000000000010000005000002000010000000800004000000400025,
  0x38000005000002000000000002000000500000c000000000000800000500000200001,
  0x100000050000040000000000008000040000002000010000001800000500000200000,
  0x800004000000a0000200000018000005000002000000000006800000500000200000,
  0x10002400008030000040000000000010000080000014000011800000800000000000c00001,
  0x1000030000002c0000800000010000d8000102400004000000300000800000040004200001,
  0x300000800000040000e000000300001800000040002a0000101000008000000c0000200000,
  0x7000010000000c000020000009000008000040c0001e000010300001800000040000200000,
  0x30000280000024000020000003000110000942c00004000000a00002000000240000600000,
  0x30000200000024000060000003000038000002400002000000300001000000240000200000,
  0x130000002400004000000a00002000000240008000000030000d000000240000c00000,
  0x8000001c00004000000500001000000000004e000020c00000800014300000200001,
  0xa000028000000000088000000a0000280000000000b4000000c000018000001c0000200000,
  0x7000008000000c0007e0000007000008000000c0000e000000a0000300000000000a400000,
  0x3000138000080c000080000103000008000040c0000e0000203000020000040c0000200000,
  0x3000008000001c0000200000030000f8000080c000080000103000008000001c0000200000,
  0x7000008000000c0000e0000203000020000040c000020000103000038000080c0000800001,
  0x3000008000001c0000200000030000f8000001c0000200000030000b8000040c0000e00000,
  0x3000098000001c000020000003000138000001c000020000003000038000080c0000800001,
  0x10000008000000c000aa00006070000d00000c0c000380000007000010000002c0000400002,
  0x30002880000c0c0003a000000a000048000000c004ec000000a00000800008400000c00002,
  0x17000008000245c000020000005000038000005c0000200000050000680001c3c0001000000,
  0x30002e8000301400004000010500001800004140001a0000c050000a000024140002e00000,
  0x3000050000005c000020000003000078000181800014000060300005000008180000200000,
  0x60000e800028280008c0000509000008000000c000540000713000008000000c000b000006,
  0x600002800008180005400003060000080001018000180000406000060000043c0000400000,
  0x70000100000c28000020000007000050000181c00034000040a000010000001c000540000b,
  0xa00005800008280003a000010a0001f8000001c0000400002070000e000000180004000000,
  0x1b000078000005c0001c0000016000010000003c0001e000020a00007000018280001400006,
  0x1700001000000200005a000001a000010000045c000020000008000260000506c0001800002,
  0xb0001a000000300000c0000009000060000003000006000000900015800000680000200000,
  0x1a00001000000440001200000090001980000c240001e00003090001c0000002c0000800008,
  0x12000008000003000008000000a0001180002030000100000013000018000084c0005600005,
  0x90000e000000200000e00000070002c00000018000d80000514000008000003c0000400000,
  0xa000008000002c000020000011000008000005c000020000012000020000003c0001e00000,
  0x90000300000000000b4000000900002000000040000200000000004d800000200000400000,
  0x8000040000010000020000003000008000004c000020000003000008000002c00000,
  0x7000004000001e00001000001a800008000003e000010000000800004000000200001,
  0x300000800000000005e0000100000048000040000006000020000009800004000000c00002,
  0x70000100000018000040000005000028000000c0000c000000500000800000000002e00000,
  0x38000003800008000010900000800000140000a000000700003800000140000200000,
  0x1000008000000000016000030b000040000001c0000a00001000000d800008140000200000,
  0xb0000080000028000060000007000020000001400004000000300001800000080000200000,
  0x1b000008000005c000020000012000008000004000002000000f00001800000340000200000,
  0x9000008000002000008000000700000800000140000e00000030000100000000000240000e,
  0x700000800000140001e000000700000800000180000200000030000100000000000720000f,
  0x8000008000000c000020000000000180000002800006000000900000800000200000400000,
  0x5000060000000c0001200000000002d8000104000004000000a00000800000240000800000,
  0x30000080000000000f2000000300000800000000000200000050000700000000001e400000,
  0x8000060000001c00016000000600001000000140006800000030000f000000140000200000,
  0x1280000048000020000011000020000003c0000e000000b00005800000280000200000,
  0x60000080000014000280000000000458000540000016000161a000018000000c0000400000,
  0xa000000140001000000030000400000000000a0000000500005000000000012c00000,
  0x30000100000000000ac0000003000008000001c00002000000500001000000180000400000,
  0x9000008000001c000160000006000040000001400014000000700001000000140001800000,
  0xa0000180000024000140000008000008000001c00020000000600001000000280000400000,
  0xa000008000002c00002000000a000098000002c00002000000a00005000000240000800000,
  0x20000002c000020000000000020000003c00002000000a0000c0000002c0000800000,
  0x8000002c000020000000000118000002c0000200000000000e0000002c0000400000,
  0x380000028000020000000000008000002c000060000000000020000002c0000200000,
  0xc0000002c0000600000000000f800000140001c0000000000038000002c0000400000,
  0xc0000080000020000080000007000038000002c000020000000000070000002c0000200000,
  0x500008000000240000800000050000e0000002c00004000000c00000800000240000200000,
  0x900002800000200000e000000700003000000180001c0000005001000000000c0020000000,
  0xf0000d000000280000a0000009000028000003c00006000000900014800000200000800000,
  0xf000060000004c00006000000f000110000005800002000001b000008000003c0004000002,
  0x1300007800000400000800000130000c8000004800002000000f00004000000500000200000,
  0x8000068000005c000020000007000178000005c00002000000700017800000500000200000,
  0xa00001000000240000c0000008000020000002400006000000a00000800000240000600000,
  0xc0000080001430000020000107000168000143000004000000a000038000001c000d600000,
  0x70000b8000002c000020000e0b000008000001c00002000070c000010000001c0006c00002,
  0x7000038000041c0000e0000107000038000041c0000e0000107000038000041c0000e00009,
  0x700001000000240000800000070000c00000024000400000107000038000041c0000e00001,
  0x12000028000004400004000000f000038000003000014000000a00000800000240002600000,
  0x30002c8000040c0003400022170000580000058000060000014000008000004c0000a00000,
  0x5000018000000c0000600000000001c00000064000080000003000060000680c001ac0000c,
  0x500001000000000000c00002050000100000000000a80000100000008000000c0000200000,
  0x13000008000004800002000000900000800000000005000005050000080000000000bc00000,
  0x700008000000580000a000000b000018000000c0003000000000000800000400000bc00001,
  0x600001000000000003a0000005000080000006400002000091a00001000000240002800000,
  0x60000100000000000380000005000078000001800002000000a00006000000000004800001,
  0x178000001800008000000000006000000140001e0000000000190000001c0000200000,
  0xf8000001800004000000000031800000180000800000000003b800000540000200000,
  0x70000b000000000a34c0000006000200000005800014000000300cdb000000180000200000,
  0x1300002800000480002a0000010000048000003000002000000a00004000000240001000000,
  0x300008000000140000400000030000900000c0c0091a000001700001800000580001a00000,
  0x30000080000014000020000003000018000001400002000000300006000000140000200000,
  0xc000040000002400024000000b000010000002400040000140900096000000280006000009,
  0x70000b80002028000b0000000c000008000004000002000000f00003000000240003800000,
  0x10000008000002c000040000009000358000002000004000000900002800000200000800000,
  0xf000018000003000002000000b000050000003c00018000000c000010000002c0000400000,
  0x14000030000004c000040000010000030000003c00004000001300000800000440000200000,
  0x17000010000006c00004000001a0000180000058000080000014000028000005c0000400000,
  0x1b0000080005068000060000017000028000006c000020000017000008000006c0000200000,
  0x9000028000002c00002000000c000010000003c000020000016000010000005c0000600000,
  0x1100000800000240008a00008080001c00001828000140000316000008000001c0005800000,
  0x90000080002c24000a80000013000010000004000004000000a0000e000018240001800008,
  0x90001b8000043c0003e000000a000010000102800016000010a0002700000c280003a00000,
  0xa000218000003c00008000000a0000e0000002400008000020900005000008240001c00009,
  0xb000038000242c0000c000020b000030000082c0000c0000a0c0000b800000280000a00018,
  0x16000020000005000004000000f000010000004000008000000f000180000042c0000e00001,
  0xa00018800010280002e0000c01015d20000182800014000020a0001700000040000a000004,
  0x38000981c000d4000020a000018000001400076000000c00001000000000345c00804,
  0x100000400000020000100000028000040000032000000300000800014000000a0000c,
  0xb68000006c000200000017000008000002c00020000000000036000004000000400001,
  0x17000008000006c0000e00000000001b0000006c000040000000000200000005c0002000000,
  0x5000080000005c000040000006000008000001400002000000000006000000100004000000,
  0xa8000004000004000000f0000380000024000060000000000020000181c0001400000,
  0x180001000000080000100000098000040000014000000600001000000140000400000,
  0x50000100000000000bc000010000000800008000010e000010000000800000140000200000,
  0x380000c0000006000020000003000008000000c00002000000300000c00000bc00000,
  0x60000d00000418000180000000000018000000800002000000300001800028000000e00001,
  0x60000180001418000f6000220600007000008180001e000010600001000004180002600001,
  0x9000060000044400004000000f000010000001c0009600000060000480000c180005a00004,
  0xf0000e00003c240006200003090000e800208240005c0002f0f0000080000c580000200000,
  0xf0001580001410000360000012000018000241000008000000f00000800000100003e00004,
  0x600001000000100004c0002a07000070000101c00048000000600000800004180003c00005,
  0xf0001400001044000480000411000120000181800014000020600028000000100004c00000,
  0x17000010000045c0000e0000117000078000045c00016000000f0000080002c3c0006800008,
  0xf0009b80003068000680000317000010000045c0000e0000117000078000045c0001600001,
  0x6000030001145c000120000117000150000045c0000c000180f000040000283c0002c00009,
  0xa0000b000000180000200002060000080000c1800004000010600016000004180000200002,
  0x100000280001440000040000110000098000c03c00012000080f0001f800000280001200001,
  0x1b0000d000000240000200005090000d0000002000002000030a00001000000200003400000,
  0x700002000000400005c0000210000080000003000004000001000001000010300007000026,
  0x7000018000084c0000400000070000d8000041c000060000107000040000141c0000400001,
  0xf000138000803c00040000000a0001000001c1c000120000713000008000001c0001200004,
  0xf000090000002800010000050a0000d800008280003a000030a0001b0000243c0001800004,
  0x100000300001c40000660000d10000198000dc2800092000500f000038000303c0000800007,
  0xa0000f8003406800004000081a0000e80000c680004c0000613000050000204c0005000000,
  0x1b000048000206c00006000001a000018000405800004000021600001800004580005400001,
  0x170000d0000584c000540000813000140000006000006000001a000008000006c0000400021,
  0xf000008000245c0000c000000b0000f0000102c0009c00009140000b800050580003800026,
  0xc0001a8000183000014000070c0000c8000084c000020000a1700000800000280008400000,
  0x10000020000003000092000090f000138000205800002000001300001800000300001c00001,
  0xf0000a000004400000a000000f0000080000030000140000016000010000003c0000200000,
  0x1000000800004400000e0003e18000018000004400002000000f000158000043c000240000b,
  0x10000008000183c00014000050f0001d8000184000016000011000007800004400000800001,
  0xf000010000043c0000e000010f0000b0000083c00004000020f000040000043c0000600000,
  0x10000008000083c00006000020f000010000083c000120000013000008000043c0000a00001,
  0x1a0000080000468000140000b0f0000280000c3c0000e000020f000038000143c0000200006,
  0x1a000020000046800002000021a000008000046800014000011a00013000004680000200002,
  0x1100000800000580000200000110002d0000746800004000081a00001000004680001400001,
  0xf000050000203c000900001e16000010000005000002000001300000800000440000200001,
  0x11000068000183c000140000b0f000228000884000028000000f000090000083c0006c000a6,
  0x100000d0000706800028000060c000050000185c00002000001400000800000300007000013,
  0xf000298001904c00078000b9170000380000040000200000410000078000084c0000200000,
  0x160000f000004580000400001160000400000858000020000216000038000003c000020000c,
  0x1400005800008500005c0000214000040001185800014000091600006000008580000400001,
  0x12000028000004c0000200000120000b800000500000400000120001a00002048000900001b,
  0x1a000050000386800044000581b000040001586000014000070f0001c8000005c000200000d,
  0x110000b000008440004000003110000e800028440001c000011100016800004440001200006,
  0x120000100000448000020000312000160000044800004000011200003800124440001c00001,
  0x13000010000044c0004a0000113000010000044c0000c000061200005000020480001200001,
  0x180000880001c4c00032000f61b000050000106c0005800006130000500001c4c0000c00001,
  0x140000080003450000640000f1600000800154680000200000180000e00000c600005200001,
  0x8000020000043c000180000008000318001984000002000000f0001500000020006de00000,
  0x14000048000006000002000000a002178000345c000c600a4c100006200002c3c0000200000,
  0xf0000f80001c2c00472006c61a0001d006ae4400048e000051a007cd800028600003a00000,
  0xf000030000083c0003c0000617000050000045c0009e000000f000010000103c0001400001,
  0x1a0001d0006c03c00026000050f0000a8000043c0000e000010f000050000283c0008c0000a,
  0x1400000800010500000c000000c000228000b06c00032000021b0000c8000144c000b6000c6,
  0x140000100000048000020000011000008001003000022000071400004800000300005e00000,
  0x14000030000004c0000a000001100bf68000246c0000a00000160000100002c580000200000,
  0x1b0000b0000005800012000001a000008000a458003c60000011001798000006c0001000000,
  0x120008e8000002c000040000117000010000045c0000e0000117000020087f46c000e600061,
  0x12000c600002050000080000e180000080000850000060001d180000080003c5c0000800000,
  0x1a0007d003d703c00010000020f0000500001c3c00012000030f000068000143c000d600904,
  0x170000b8000085c0005c0000f1b0000880003c6c0002e000061a000da00000c6c0000600000,
  0x10000058000001000168000000900000800008100004e0000a040007b0000f05c000e800009,
  0x80000900002418000ae0000c130000a00003060000280007a07000230000545c0000400000,
  0x4000010000081000002000020400001000004100008e00001040002a80021c4c0000e00000,
  0x40000100000018000020000004000020000041000002000010400006000004100000800002,
  0x40000200000410000380000104000038000041000010000020400002000004100008200001,
  0x4000910000081c000040000004000a9000004100000e000030400000800004100000a00001,
  0x170000f801140400001e00001100000280003c4000518000000400019000008200000400000,
  0x110000280000444000040000111000038000084400022000011100003800354600000c00006,
  0x1400001000010500001400002140000700000c500005a000701800000800084600007c00005,
  0x1a000008000106800056000d61800015000740500000200005140001d0000445c0003e00140,
  0x17000010000045c000080000117000038003806c00004000081b0000b0000046c0003e000c0,
  0x110000500001050000020000011000258000a43c00020000020f000628000045c0001e00001,
  0xc000010000043000036000010c00002000308500007a0004c1300022000c44440000400004,
  0xc000008000043000002000010c000020000043000014000010c00000800008300000200001,
  0xc000010000043000006000010c000008000043000002000010c00000800010300000200006,
  0xc000008000043000002000010c000008000043000002000010c00000800008300000200001,
  0xc000020000043000008000010c000038000043000008000020c00000800004300000400001,
  0xc00008800004300000a000010c000018000143000022000010c00005000004300000200001,
  0xf000008000002c0001c000020b0000780003024000c8000040900016000438300000400034,
  0x16000018000003c00004000000a000058000283c0002c000000b000078000042c0001e00001,
  0xa000008000002c00016000000a000008000002c00002000001300000800000280003e00000,
  0xa000008000002c00006000000a000008000002c00004000000a000008000002c0000200000,
  0xa000008000002c0000e000000a000008000002c00010000000a000028000002c0000600000,
  0xa000008000002c000120000016000018000005000002000000c000010000002c0001400000,
  0xa000020000002c00014000000a000008000002c00004000000a000010000002c0000200000,
  0xb0000d0000e058000020000011000090000002c00014000000a000008000002c0000400000,
  0xa000048000104400002000000b0000480000028000440000d0b00001000000280000200000,
  0xb000030000004000006000000f000060000002c000420009a12000030000382c0000400007,
  0xf000060000002c000280000010000010000003c00002000000b000230000003c0000200000,
  0xf00006000000400000a000000f000020000002c0000a000000f000008000002c0004a00000,
  0xb000008000003c00002000000b0001f8000004000010000000f000038000002c0002200000,
  0x10000008000003c00004000000b000020000003c00002000000b0005b0000003c0000200000,
  0xb0000c000000400000a000000f000038000003000008000000f000010000002c0007c00000,
  0xb000028000003c000ac0000011000008000003c000520000011000008000003c0002400000,
  0xb000008000003000002000000b000018000003000002000000b00008000000300000200000,
  0xb000018000003000002000000b000008000003000002000000b00000800000300000200000,
  0xb000008000003000002000000b000020000003000004000000b00003000000300000200000,
  0x10000010000003c00004000000b000060000003000002000000b00002000000300000400000,
  0x11000010000004000002000000f000050000002c0008c000000f000180000002c0001600000,
  0x17000018000006000002000031b000008000005800004000001400000800000480000400000,
  0x14000008000004c000020000012000010000004400006000000f0000200000c3c0001a00000,
  0xf0002a800000600000a000001b000020000006000006000000b0003a00000c580000400000,
  0xf0001c0000103c000180000f170000080001050000180000618000008000004c0000800000,
  0x1a0000100001068000140000016000010000083c0003c000080f000140000183c0001400008,
  0x11000030000004000012000001400001800000580000200000120000600009c6c000120000e,
  0x110000600000048000040000011000008000004800010000001100004000000480000200000,
  0x1200006800000440001e0000013000018000004800002000001100006000000500000200000,
  0x1700000800000580000400000130000200000058000020000014000008000004c0000a00000,
  0x1200003000000440001a0000010000028000004c000080000014000008000004c0000200000,
  0x13000050000005000004000001600001800000500000c0000016000010000004c0001600000,
  0x170000080000058000020000014000040000004c00004000001000000800000500000c00000,
  0x13000070000206c0000800000140002a0000004c0003200000120000b800000500000600000,
  0x140000180000c5c000040000014000018000006000006000001600000800000500000800002,
  0x1a000008000006c00002000031b000008000006800002000001800001000000580000800000,
  0x1700002000000580000e0000018000018000005c00008000001600009800000500000c00000,
  0x1a000008000005c000060000016000018000006000002000001a00000800000600000600000,
  0x18000010000005c000060000016000038000006000004000001b000008000106c0000200001,
  0x1b0000080000068000020000018000008000005c00010000001a00000800008680000200000,
  0x1a00012800000580006e00001160004980001c60000040000017000038000006c0000200004,
  0x1700001000000580000e00000040536b8000000400004004031b00000800000580001400000,
  0x1000b410000082c001bc000001b000030000006000002000001700002000000280206a00020,
  0x16009a58000000400004005e0040010f00268864004dc0000f1200e988000086c0001800000,
  0x10000103fff804000040fffe010000103fff804000040cb841b0086500000060020c000005,
  0x10000103fff804000040fffe010000103fff804000040fffe010000103fff804000040fffe,
  0x4400040fe0e060007800020010000c00001e040000080000404000040fffe]

end UrlMatch.Unicode
