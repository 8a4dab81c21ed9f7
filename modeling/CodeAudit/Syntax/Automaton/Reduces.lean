import CodeAudit.Syntax.Automaton.Row

/-! Which reductions a state offers, and before which tokens. -/
namespace CodeAudit.Syntax.Automaton

def reduceRows0 : Page Nat := [
  0, 1, 2, 0x33c, 0x53c, 0x2bcc115606df, 0x33cc115606df, 0x3bcc115606df, 0x43cc115606df,
  0x4bcc115606df, 0x53cc115606df, 0x5bcc115606df, 0x356618f3, 0x39e606df, 0x1cf3, 0x396618f3,
  0x83cc3d5606df, 0x456618f3, 0x41e606df, 0x49e606df, 0x4de606df, 0x51e606df, 0xa2cc55e606df,
  0x59e606df, 0x5d6618f3, 0x20f3, 0x92cc61e606df, 0x93cc655606df, 0x4d6618f3, 0xdacc69e606df,
  0xdbcc715606df, 0x26f3, 0x28f3, 0x6de606df, 0x31e63aab, 0x796618f3, 0x7de606df, 0x2cf3,
  0x61e606df, 0x24f3, 0x36f3, 0x3ef3, 0x31e608ab, 0x816618f3, 0x42ac, 0x42ad, 0x44ac, 0x44ad,
  0x46fe, 0x4920, 0x4921, 0x4b23, 0x4b26, 0x4b27, 0x4b29, 0x4d20, 0x46eb, 0x4d21, 0x46ec, 0x4f23,
  0x4f26, 0x4f27, 0x4f29, 0x5120]

def reduceRows1 : Page Nat := [
  0x5121, 0x5323, 0x5326, 0x5327, 0x5329, 0x31e646ab, 0x5426, 0x54fe, 0x32fe, 0x38fe, 0x5423,
  0x56eb, 0x3906, 0x56ec, 0x3907, 0x31e658b5, 0x31e658b3, 0x31e65aab, 0x5421, 0x5417, 0x5419,
  0x5c67, 0x31e65eb5, 0x5422, 0x541b, 0x541c, 0x5c68, 0x3908, 0x3909, 0x31e632ab, 0x32eb, 0x32ec,
  0x31e65eb3, 0x31e638ab, 0x38eb, 0x38ec, 0x5ceb, 0x5cec, 0x252, 0x254, 0x452, 0x454,
  0x183c8115406de, 0x2bc8115406de, 0x23a, 0x23c, 0x23d, 0x634b, 0x654c, 0x240, 0x43a, 0x43c,
  0x43d, 0x674b, 0x694c, 0x440, 0x15e808aa, 0x15e408aa, 0x162208ae, 0xd9666af3, 0xd9646af2,
  0x161c08b0, 0x6d01, 0x6d02]

def reduceRows2 : Page Nat := [
  0x6d03, 0x6d04, 0x6f45, 0x6d05, 0x7145, 0x1db58e96472f2, 0x19e808aa, 0x19e408aa, 0x1a2208ae,
  0x1a1c08b0, 0x7803, 0x7804, 0x7805, 0x6258, 0x6259, 0x625a, 0x645e, 0x625b, 0x645f, 0x625c,
  0x625d, 0x7899, 0x789a, 0x6658, 0x6659, 0x665a, 0x685e, 0x665b, 0x685f, 0x665c, 0x665d, 0x7a03,
  0x7cac, 0x7a04, 0x7cad, 0x6299, 0x7a05, 0x629a, 0x6203, 0x6204, 0x6499, 0x6205, 0x649a, 0x6403,
  0x6404, 0x7a99, 0x6405, 0x7a9a, 0x6603, 0x6604, 0x6699, 0x6605, 0x669a, 0x6803, 0x6804, 0x6899,
  0x6805, 0x689a, 0x24e, 0x6f44, 0x250, 0x253, 0x246, 0x256]

def reduceRows3 : Page Nat := [
  0x247, 0x249, 0x6e42, 0x24b, 0x6e43, 0x44e, 0x7144, 0x450, 0x453, 0x446, 0x456, 0x447, 0x449,
  0x7042, 0x44b, 0x7043, 0x7e44, 0x7e45, 0x8044, 0x8045, 0x297, 0x48a8, 0x48a9, 0x270, 0x26c,
  0x262, 0x28f, 0x23b, 0x26d, 0x271, 0x26e, 0x263, 0x24f, 0x264, 0x27f, 0x290, 0x291, 0x292,
  0x23e, 0x23f, 0x272, 0x26f, 0x265, 0x280, 0x251, 0x260, 0x255, 0x281, 0x282, 0x293, 0x294,
  0x295, 0x241, 0x283, 0x284, 0x248, 0x261, 0x257, 0x285, 0x286, 0x296, 0x24a, 0x287, 0x288]

def reduceRows4 : Page Nat := [
  0x24c, 0x289, 0x28a, 0x24d, 0x28b, 0x28c, 0x28d, 0x28e, 0x82ac, 0x497, 0x4ca8, 0x82ad, 0x4ca9,
  0x470, 0x46c, 0x462, 0x48f, 0x43b, 0x46d, 0x471, 0x46e, 0x463, 0x44f, 0x464, 0x47f, 0x490,
  0x491, 0x492, 0x43e, 0x43f, 0x472, 0x46f, 0x465, 0x480, 0x451, 0x460, 0x455, 0x481, 0x482,
  0x493, 0x494, 0x495, 0x441, 0x483, 0x484, 0x448, 0x461, 0x457, 0x485, 0x486, 0x496, 0x44a,
  0x487, 0x488, 0x44c, 0x489, 0x48a, 0x44d, 0x48b, 0x48c, 0x48d, 0x48e, 0x5ea5, 0x32a5]

def reduceRows5 : Page Nat := [
  0x84f2, 0x852c, 0x8764, 0x88f1, 0x8af8, 0x8b3b, 0x8af7, 0x8cf7, 0x8f5a, 0x90f7, 0x92f7, 0x94f7,
  0x96f7, 0x8f5c, 0x8f5d, 0x98f1, 0x9af2, 0x9b2c, 0x9d64, 0x9ef1, 0xa0f2, 0xa12c, 0xa364, 0xa4f1,
  0x872d, 0x109e606df, 0x109e406de, 0x872e, 0xa6f1, 0xa8f2, 0xa92c, 0xab64, 0xacf1, 0xaef2,
  0xaf2c, 0xb164, 0xb2f1, 0xb4f2, 0xb52c, 0xb764, 0xb8f8, 0xb93b, 0xb8f7, 0xbaf7, 0xbd5a, 0xbef7,
  0xc0f7, 0xc2f7, 0xc4f7, 0xbd5c, 0xbd5d, 0xc6f8, 0xc73b, 0xc901, 0xc6f7, 0xcaf7, 0xcd5a, 0xcef7,
  0xd0f7, 0xd2f7, 0xd4f7, 0xc902, 0xcd5c, 0xcd5d]

def reduceRows6 : Page Nat := [
  0xc903, 0xc904, 0xc905, 0xd6f2, 0xd72c, 0xd964, 0xdaf1, 0x84f3, 0x8513, 0x850b, 0x851e, 0x8512,
  0x850f, 0x8514, 0x8510, 0x84e4, 0x151e606df, 0x151e406de, 0x851b, 0x8518, 0x8515, 0x851a,
  0x8519, 0x84e5, 0x84e6, 0x8516, 0x84e7, 0x84e8, 0x84e9, 0x84ea, 0x84f4, 0x1b9e406de, 0xdef8,
  0xdf3b, 0x8511, 0x850e, 0xdef7, 0xe0f7, 0xe35a, 0xe4f7, 0xe6f7, 0xe8f7, 0xeaf7, 0xe35c, 0xe35d,
  0x283cc3d5606df, 0x109666af3, 0x135e606df, 0x135e406de, 0xecf8, 0xed3b, 0x26acddde606df,
  0x26ac9dde406de, 0x8501, 0xecf7, 0xf0f7, 0xf35a, 0xf4f7, 0xf6f7, 0xf8f7, 0xfaf7, 0x8502,
  0xf35c, 0xf35d]

def reduceRows7 : Page Nat := [
  0x8503, 0x8504, 0x8505, 0x283c83d5406de, 0x109646af2, 0x1f9e406de, 0xfef8, 0xff3b, 0xfef7,
  0x100f7, 0x1035a, 0x104f7, 0x106f7, 0x108f7, 0x10af7, 0x1035c, 0x1035d, 0x9d2d, 0x9d2e, 0xa32d,
  0x10cf8, 0x10d3b, 0xa32e, 0x10cf7, 0x10ef7, 0x1115a, 0x112f7, 0x114f7, 0x116f7, 0x118f7,
  0x1115c, 0x1115d, 0x11af2, 0x141e606df, 0x141e406de, 0x11b2c, 0x11d64, 0x11ef1,
  0x2a3cc655606df, 0x241e406de, 0x2a2ce45e606df, 0x2a2ca45e406de, 0x2a3c8655406de, 0xab2d,
  0x2d3cc715606df, 0x15de606df, 0x15de406de, 0xab2e, 0x2d2ce49e606df, 0x2d2ca49e406de, 0x12701,
  0x12702, 0x12703, 0x12704, 0x12705, 0x2d3c8715406de, 0xb12d, 0x9af4, 0x251e406de, 0xb12e,
  0x9b11, 0x9b0e, 0x141e81eaa, 0x141e41eaa]

def reduceRows8 : Page Nat := [
  0xb72d, 0x142221eae, 0x141666af3, 0x1ade606df, 0x1ade406de, 0x1421c1eb0, 0x9af3, 0x9b13,
  0x9b0b, 0xb72e, 0x9b1e, 0x9b12, 0x9b0f, 0x9b14, 0x9b10, 0x9ae4, 0x9b1b, 0x9b18, 0x9b15, 0x9b1a,
  0x9b19, 0x9ae5, 0x9ae6, 0x9b16, 0x9ae7, 0x9ae8, 0x9ae9, 0x9aea, 0x13564eef2, 0x169e606df,
  0x169e406de, 0xa0f3, 0xa113, 0xa10b, 0xa11e, 0xa112, 0xa10f, 0xa114, 0xa110, 0xa0e4, 0xa11b,
  0xa118, 0xa115, 0xa11a, 0xa119, 0xa0e5, 0xa0e6, 0xa116, 0xa0e7, 0xa0e8, 0xa0e9, 0xa0ea,
  0x12af1, 0xa101, 0xa102, 0xa103, 0xa104, 0xa105, 0x12cf1, 0xd92d, 0x141646af2, 0xa0f4, 0x12ef8,
  0x12f3b]

def reduceRows9 : Page Nat := [
  0xd92e, 0xa111, 0xa10e, 0x12ef7, 0x130f7, 0x1335a, 0x134f7, 0x136f7, 0x138f7, 0x13af7, 0x1335c,
  0x1335d, 0x135666af3, 0x135646af2, 0x13cf1, 0xaef4, 0xaf11, 0xaf0e, 0x151e832aa, 0x151e432aa,
  0x1522232ae, 0x15d666af3, 0x1516522f2, 0x1521c32b0, 0xa8f3, 0xa913, 0xa90b, 0xa91e, 0xa912,
  0x5035a7d6472f2, 0xa90f, 0xa914, 0xa910, 0xa8e4, 0x245e606df, 0x245e406de, 0xa91b, 0xa918,
  0xa915, 0xa91a, 0xa919, 0xa8e5, 0xa8e6, 0xa916, 0xa8e7, 0xa8e8, 0xa8e9, 0xa8ea, 0x15d646af2,
  0xaef3, 0xaf13, 0xaf0b, 0xaf1e, 0xaf12, 0xaf0f, 0xaf14, 0xaf10, 0xaee4, 0xaf1b, 0xaf18, 0xaf15,
  0xaf1a, 0xaf19, 0xaee5]

def reduceRows10 : Page Nat := [
  0xaee6, 0xaf16, 0xaee7, 0xaee8, 0xaee9, 0xaeea, 0x169e838aa, 0x169e438aa, 0x16a2238ae, 0xd6f4,
  0x16a1c38b0, 0xb4f3, 0xb513, 0xb50b, 0xb51e, 0xb512, 0xd711, 0xd70e, 0x50b5a7d6472f2, 0xb50f,
  0xb514, 0xb510, 0xaf01, 0xb4e4, 0xb51b, 0xb518, 0xb515, 0xb51a, 0xb519, 0xb4e5, 0xb4e6, 0xaf02,
  0xb516, 0xb4e7, 0xb4e8, 0xaf03, 0xaf04, 0xb4e9, 0xb4ea, 0xaf05, 0x1696524f2, 0xa8f4, 0xa911,
  0xa90e, 0xb501, 0xb502, 0xb503, 0xb504, 0xb505, 0x1ad666af3, 0xb4f4, 0xd5e63aab, 0xb511,
  0xb50e, 0x151666af3, 0x235e606df, 0x235e406de, 0xd6f3, 0xd713, 0xd70b, 0xd71e, 0xd712, 0xd70f,
  0xd714]

def reduceRows11 : Page Nat := [
  0xd710, 0xd6e4, 0xd71b, 0xd718, 0xd715, 0xd71a, 0xd719, 0xd6e5, 0xd6e6, 0xd716, 0xd6e7, 0xd6e8,
  0xd6e9, 0xd6ea, 0xd701, 0xd702, 0xd703, 0xd704, 0xd705, 0x11d2d, 0x169666af3, 0x1ad646af2,
  0x11d2e, 0xd5e83aaa, 0xd5e43aaa, 0xd6223aae, 0x151646af2, 0xd61c3ab0, 0x169646af2,
  0x5135a7d6472f2, 0x51b5a7d6472f2, 0x48ace45e606df, 0x48aca45e406de, 0x492ce49e606df,
  0x492ca49e406de, 0x3bacddde606df, 0x3bac9dde406de, 0x11af4, 0x11b11, 0x11b0e, 0x235666af3,
  0x11af3, 0x11b13, 0x11b0b, 0x11b1e, 0x11b12, 0x11b0f, 0x11b14, 0x11b10, 0x11ae4, 0x11b1b,
  0x11b18, 0x11b15, 0x11b1a, 0x11b19, 0x11ae5, 0x11ae6, 0x11b16, 0x11ae7, 0x11ae8, 0x11ae9,
  0x11aea, 0x11b01, 0x11b02]

def reduceRows12 : Page Nat := [
  0x11b03, 0x11b04, 0x11b05, 0x235646af2, 0xd5e608ab, 0xd5e808aa, 0xd5e408aa, 0xd62208ae,
  0xd61c08b0, 0x14901, 0x14902, 0x14903, 0x14904, 0x14905, 0x291666af3, 0x291646af2, 0x2456522f2,
  0x2496524f2, 0x1dd64eef2, 0x14af9, 0x14d5b, 0x14ef9, 0x1515b, 0xd5e646ab, 0x152f9, 0x1555b,
  0xd5e846aa, 0xd5e446aa, 0xd62246ae, 0xd61c46b0, 0x98f9, 0xbd5b, 0x9ef9, 0xcd5b, 0x156f9,
  0x1595b, 0xa6f9, 0xd5e658b5, 0xd5e458b4, 0xe35b, 0xb2f9, 0x1035b, 0x3b59, 0xd5e658b3,
  0xd5e458b2, 0xd5e65aab, 0xd5e65eb5, 0xd5e45eb4, 0xd5e632ab, 0xd5e85aaa, 0xd5e45aaa, 0xd6225aae,
  0xd61c5ab0, 0xd5e65eb3, 0xd5e638ab, 0x3aaa, 0x3aaf, 0x3ab1, 0xd5e832aa, 0xd5e432aa, 0xd62232ae,
  0xd61c32b0, 0xd5e45eb2, 0xd5e838aa]

def reduceRows13 : Page Nat := [
  0xd5e438aa, 0xd62238ae, 0xd61c38b0, 0x15aaa, 0x15aaf, 0x15ab1, 0x15b59, 0x5439, 0x959, 0x5c9f,
  0x5ca0, 0x489f, 0x48a0, 0x14af1, 0x511f, 0x14af5, 0x15cfa, 0x15edd, 0x15eef, 0x14af6, 0x160f6,
  0x15cfb, 0x15d2b, 0x4d1f, 0x1e6b, 0xedaa5420, 0x7d38, 0x16365, 0x140d5, 0x14ef1, 0x14ef5,
  0x164fa, 0x166dd, 0x166ef, 0x14ef6, 0x168f6, 0x164fb, 0x1652b, 0x142d5, 0x7cff, 0x152f1,
  0x152f5, 0x142fa, 0x16add, 0x16aef, 0x152f6, 0x16cf6, 0x142fb, 0x1432b, 0x5427, 0x144d5,
  0x16eed, 0x170ed, 0x170ee, 0x4743, 0x17353, 0x146d5, 0x4700, 0x98f5, 0x174fa, 0x176dd, 0x176ef,
  0x98f6, 0x178f6]

def reduceRows14 : Page Nat := [
  0x174fb, 0x1752b, 0x9ef5, 0x46fa, 0x17add, 0x17aef, 0x9ef6, 0x17cf6, 0x46fb, 0x472b, 0x156f1,
  0x156f5, 0x146fa, 0x17edd, 0x17eef, 0x156f6, 0x180f6, 0x146fb, 0x1472b, 0x5420, 0x5416, 0x541e,
  0x5424, 0x5425, 0x54ff, 0x18343, 0x5432, 0x18517, 0x186f0, 0x188b7, 0xa6f5, 0x18afa, 0x18cdd,
  0x18cef, 0xa6f6, 0x18ef6, 0x18afb, 0x18b2b, 0x190f0, 0x192ed, 0x194f0, 0x196ed, 0xb2f5,
  0x198fa, 0x19add, 0x19aef, 0xb2f6, 0x19cf6, 0x198fb, 0x1992b, 0x19eed, 0x1a12f, 0x16366,
  0x491c, 0x1a21d, 0x491d, 0x1a341, 0x4b2a, 0x4b61, 0x395e, 0x188b8, 0x48ff, 0x4d1c, 0x4d1d]

def reduceRows15 : Page Nat := [
  0x4f2a, 0x4f61, 0x1a4b7, 0x4cff, 0x192ee, 0x511c, 0x1a753, 0x511d, 0x532a, 0x5361, 0x1a8b7,
  0x196ee, 0x1ab53, 0x1acb7, 0x19eee, 0x1af53, 0x1b0ed, 0x5e6b, 0x1b352, 0x1b0ee, 0x32e0, 0x5428,
  0x1b4e1, 0x5500, 0x5435, 0x16330, 0x1b753, 0x3362, 0x5429, 0x5f46, 0x5ea3, 0x16331, 0x16332,
  0x16333, 0x1b8db, 0x330d, 0x330c, 0x3350, 0x16334, 0x16335, 0x16336, 0x4b22, 0x1bab6, 0x1b8dc,
  0x16337, 0x4b24, 0x4b25, 0x1baba, 0x1baef, 0x390a, 0x4b28, 0x18763, 0x1bacd, 0x18954, 0x326b,
  0x38e0, 0x7ceb, 0x140d6, 0x140d7, 0x32e1, 0x3300, 0x3962, 0x140da, 0x1bcd9]

def reduceRows16 : Page Nat := [
  0x140d8, 0x1b517, 0x32a2, 0x32a3, 0x140db, 0x4f22, 0x140dc, 0x32a4, 0x4f24, 0x4f25, 0x1a4b8,
  0x4f28, 0x19163, 0x1b4e0, 0x3900, 0x3343, 0x1b562, 0x5322, 0x5324, 0x5325, 0x1a8b8, 0x5328,
  0x19563, 0x142d6, 0x142d7, 0x4759, 0x3943, 0x142da, 0x1bed9, 0x142d8, 0x142db, 0x142dc,
  0x1acb8, 0x5f43, 0x540f, 0x5410, 0x144d6, 0x144d7, 0x5139, 0x5412, 0x144da, 0x1c0d9, 0x5434,
  0x144d8, 0x513a, 0x1c368, 0x394f, 0x188bf, 0x188ce, 0x188bb, 0x188c3, 0x1c4b7, 0x1c6ef,
  0x186fc, 0x188c0, 0x188bc, 0x188c5, 0x188c4, 0x188d3, 0x188cf, 0x186fd, 0x188c1, 0x188bd,
  0x188d4]

def reduceRows17 : Page Nat := [
  0x188c7, 0x188c8, 0x188c6, 0x188c9, 0x188d0, 0x188c2, 0x188be, 0x188ca, 0x188cb, 0x188d1,
  0x188d2, 0x1c8b6, 0x1c8ba, 0x190fc, 0x1c8cd, 0x1a554, 0x190fd, 0x146d6, 0x146d7, 0x146da,
  0x38d9, 0x146d8, 0x146db, 0x1cab6, 0x146dc, 0x1caba, 0x194fc, 0x1cacd, 0x1a954, 0x194fd,
  0x46aa, 0x46ff, 0x46af, 0x46b1, 0x5d2a, 0x1ccb6, 0x1cece, 0x1ccba, 0x1cccd, 0x1ad54, 0x1d007,
  0x5415, 0x542d, 0x542f, 0x5411, 0x1d33e, 0x5418, 0x541a, 0x541f, 0x542e, 0x5430, 0x1b298,
  0x1a33f, 0x1a340, 0x1a342, 0x1a34e, 0x5433, 0x1d549, 0x1d74a, 0x1bab9, 0x36aabc4b7, 0x480f,
  0x32a1, 0x4810]

def reduceRows18 : Page Nat := [
  0x4812, 0x1a4bf, 0x1a4ce, 0x1a4bb, 0x1a4c3, 0x1a4c0, 0x1a4bc, 0x1a4c5, 0x1a4c4, 0x1a4d3,
  0x1a4cf, 0x1a4c1, 0x1a4bd, 0x1a4d4, 0x1a4c7, 0x1a4c8, 0x1a4c6, 0x1a4c9, 0x1a4d0, 0x1a4c2,
  0x1a4be, 0x1a4ca, 0x1a4cb, 0x1a4d1, 0x1a4d2, 0x1a8bf, 0x1a8ce, 0x1a8bb, 0x1a8c3, 0x1a8c0,
  0x1a8bc, 0x1a8c5, 0x1a8c4, 0x1a8d3, 0x1a8cf, 0x1a8c1, 0x1a8bd, 0x1a8d4, 0x1a8c7, 0x1a8c8,
  0x1a8c6, 0x1a8c9, 0x1a8d0, 0x1a8c2, 0x1a8be, 0x1a8ca, 0x1a8cb, 0x1a8d1, 0x1a8d2, 0x1acbf,
  0x1acbb, 0x1acc3, 0x1acc0, 0x1acbc, 0x1acc5, 0x1acc4, 0x1acd3, 0x1accf, 0x1acc1, 0x1acbd,
  0x1acd4, 0x1acc7, 0x1acc8, 0x1acc6]

def reduceRows19 : Page Nat := [
  0x1acc9, 0x1acd0, 0x1acc2, 0x1acbe, 0x1acca, 0x1accb, 0x1acd1, 0x1acd2, 0x1d808, 0x491f,
  0x48a7, 0x5c66, 0x5431, 0x5ea1, 0x5c9e, 0x1daae, 0x553d, 0x1a213, 0x5f47, 0x1dc99, 0x5f4d,
  0x1b560, 0x5f58, 0x1c367, 0x1dc9a, 0x395f, 0x1b4cc, 0x1b557, 0x4ca7, 0x489e, 0x1dc03, 0x4811,
  0x1beaf, 0x1beae, 0x1dc04, 0x3359, 0x1c330, 0x333f, 0x3340, 0x334d, 0x3358, 0x1dc05, 0x1c331,
  0x1c332, 0x1c333, 0x1c334, 0x1c335, 0x1c336, 0x1c337, 0x334a, 0x1c8b9, 0x48eb, 0x3959, 0x394a,
  0x1cab9, 0x1df2d, 0x1df2e, 0x4ceb, 0x1ccb9, 0x5b59, 0x542a, 0x542b, 0x542c, 0x5406]

def reduceRows20 : Page Nat := [
  0x5ea6, 0x5436, 0x5438, 0x540a, 0x5414, 0x540c, 0x540d, 0x32e2, 0x32e3, 0x1e09b, 0x1d548,
  0x1e09c, 0x5437, 0x3351, 0x540b, 0x540e, 0x1d473, 0x1b556, 0x1d474, 0x1d475, 0x1d476, 0x1d477,
  0x1d478, 0x1d479, 0x1d47a, 0x1d47b, 0x1d47c, 0x1d47d, 0x1d47e, 0x32aa, 0x32a6, 0x32ff, 0x32b1,
  0x3213, 0x38e2, 0x38e3, 0x38aa, 0x38ff, 0x38af, 0x38b1, 0x1b4e2, 0x1b4e3, 0x1d403, 0x1d404,
  0x1d499, 0x1d405, 0x1d49a, 0x5c9d, 0x1d809, 0x5c69, 0x5c6a]

/-- The offers in pages of 64. An offer is a sequence of pairs, lowest bits first: the number of a reduction
plus one (9 bits) and the number of its set of tokens (8 bits). -/
def reduceRows : List (Page Nat) := [
  reduceRows0, reduceRows1, reduceRows2, reduceRows3, reduceRows4, reduceRows5, reduceRows6,
  reduceRows7, reduceRows8, reduceRows9, reduceRows10, reduceRows11, reduceRows12, reduceRows13,
  reduceRows14, reduceRows15, reduceRows16, reduceRows17, reduceRows18, reduceRows19,
  reduceRows20]

end CodeAudit.Syntax.Automaton
