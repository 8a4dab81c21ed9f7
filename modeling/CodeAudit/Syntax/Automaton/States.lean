import CodeAudit.Syntax.Automaton.Row

/-! The states: which rows each of them uses and how its next token is read. -/
namespace CodeAudit.Syntax.Automaton

def states0 : Page Nat := [
  0x2000000000, 0x42004fabe7, 0x62000dd3e8, 0x62000003e9, 0x6200000be9, 0x62000013e9,
  0x6200001be9, 0x62000023e9, 0x6200002be9, 0x62000033e9, 0x6200003be9, 0x62000043e9,
  0x6200004be9, 0x62000de3ea, 0x62000053e9, 0x6200005be9, 0x62000063e9, 0x6200006be9,
  0x62000073e9, 0x6200007be9, 0x62000debea, 0x62000dfbeb, 0x62000083e9, 0x6200008be9,
  0x62000e03ec, 0x62000093e9, 0x6200009be9, 0x62000e0bec, 0x62000e13ec, 0x620000a3e9,
  0x62000df3ea, 0x62000e1bec, 0x62000e23ec, 0x62000e2bec, 0x62000e33ed, 0x62000e3bed,
  0x62000e43ed, 0x62000e4bed, 0x62000e53ed, 0x62000e5bed, 0x62000e63ed, 0x62000e6bed,
  0x62000e73ed, 0x62000e7bed, 0x62000edbee, 0x62000e83ed, 0x62000e8bed, 0x62000e93ed,
  0x62000e9bed, 0x62000ea3ed, 0x62000eabed, 0x62000ee3ee, 0x62000ef3ef, 0x62000eb3ed,
  0x62000ebbed, 0x62000ec3ed, 0x62000ecbed, 0x62000ed3ed, 0x62000eebee, 0x62000ddbe8,
  0x42008fb3e7, 0x4200cfb4d1, 0x62000d7bf0, 0x62010d7cd2]

def states1 : Page Nat := [
  0x62000d7bf1, 0x62000d7bf2, 0x62000d7bf3, 0x62000d7bf4, 0x62000d7bf5, 0x62000d7bf6,
  0x62000d7bf7, 0x840151cc2e, 0x840191cc2e, 0xa6000f03f8, 0xa6000f0bf9, 0xa6000f13fa,
  0xa6000f1bfb, 0xa6000c8bfc, 0xa6000c93fd, 0xa6000c9bfe, 0xa6000ca3ff, 0x8401cbdb9f,
  0x84020bdb9f, 0x840251b415, 0x840251bc15, 0xa2000fbbb5, 0xa2000f23b6, 0xa2000f2bb7,
  0xa2000f33b8, 0xa2000f3bb9, 0xa2000f43ba, 0xa2000f4bbb, 0xa2000f53bc, 0xa2000f5bbd,
  0xa2000f63be, 0xa2000f6bbf, 0xa2000fcbc0, 0xa2000f73c1, 0xa2000f7bc2, 0xa2000f83c3,
  0xa2000f8bc4, 0xa2000f93c5, 0xa2000f9bc6, 0xa2000fd3c7, 0xa2000fe3c8, 0xa2000fa3c9,
  0xa2000febca, 0xa2000ff3cb, 0xa2000ffbcc, 0xa2000fdbcd, 0xa2001003ce, 0xa200100bcf,
  0xa2001013d0, 0xa20000abd1, 0xa20000b3d2, 0xa20000bbd3, 0xa20000c3d4, 0xa20000cbd5,
  0xa20000d3d6, 0xa20000dbd7, 0xa20000e3d8, 0xa20000ebd9, 0xa20000f3da, 0xa200101bdb,
  0xa20000fbdc, 0xa2000103dd, 0xa200010bde, 0xa2000113df]

def states2 : Page Nat := [
  0xa200011be0, 0xa2000123e1, 0xa2001023e2, 0xa2001033e3, 0xa200012be4, 0xa200102be5,
  0xa2000fc3e6, 0x82000efba5, 0x82000efba6, 0x82000efba7, 0x82000efba8, 0x82000efba9,
  0x82000efbaa, 0x82000efbab, 0x82000efbac, 0x82000efbad, 0x82000efbae, 0x82000efbaf,
  0x82000efbb0, 0x82000efbb1, 0x82000efbb2, 0x82000efbb3, 0x82000efbb4, 0x42000efba4,
  0x84028b7b9c, 0x8402cb7b9c, 0x8803103c00, 0x86034b7b9c, 0x8a038b7b9c, 0x8a03d03c00,
  0xc604137c37, 0xca04503c00, 0xc604937c37, 0xe604d46c7a, 0x4605103c00, 0xc605563c3f,
  0xc605937c37, 0xe605d7544c, 0xea06103c00, 0xca06537c37, 0xe60697544c, 0xe606d46c79,
  0x4a07103c00, 0x1060758849a, 0x106079a0cb9, 0x4a07d03c00, 0xe604d46c79, 0xca08163c3f,
  0x106085a0cb9, 0x8808903c00, 0x10a08d03c00, 0x1060918849a, 0xea0957544c, 0xe60997544d,
  0xe609d46c79, 0x1060a1a0cb9, 0x10a0a58849a, 0x480a903c00, 0x480ad03c00, 0xe20015f487,
  0x102001b1cc6, 0xc600171444, 0xe200162c88, 0x42000ccba3]

def states3 : Page Nat := [
  0x42000cd3a3, 0x42000cdba3, 0xe20015fc89, 0x102001b4cc7, 0xc600171c45, 0xe20016348a,
  0xe20016248b, 0x102001b24c8, 0xc600172446, 0xe20016048c, 0x102001b54c9, 0xc600172c47,
  0xe20015fc8d, 0x102001b5cca, 0xc600173448, 0xe200160c8e, 0x102001b2ccb, 0xc600173c49,
  0xe20016148f, 0x102001b24cc, 0xc60017444a, 0xe200161c90, 0x102001b34cd, 0xc600174c4b,
  0xe20015f491, 0x102001b3cce, 0x102001b44cf, 0x102001b1cd0, 0x8c0b118430, 0x8c0b518430,
  0x4200145c3e, 0x420014643e, 0xe20015447f, 0x4c0b912431, 0x46000ce3a2, 0xe60015b492,
  0x460019d4b5, 0x460011c42e, 0x46000ceba2, 0x460011d42e, 0xe600185c78, 0x4c0bd12431,
  0x460011dc2e, 0x460011e42e, 0x460019dcb5, 0x460011ec2e, 0x460011f42e, 0x46000cf3a2,
  0x46000cfba2, 0x4600186453, 0x4600186c53, 0x460019e4b5, 0x460019ecb5, 0xc20c143c3a,
  0x4600187453, 0x4600187c53, 0xe60015bc93, 0xe60015c494, 0xe60015cc95, 0xe60015d496,
  0xe60015dc97, 0xe60015e498, 0xe60015ec99, 0x460019f4b5]

def states4 : Page Nat := [
  0x460019fcb5, 0x46001a04b5, 0x460011fc2e, 0x460012042e, 0x4600120c2e, 0x460012142e,
  0xe200153c7f, 0x102001adcbe, 0xe20015a480, 0xe60017b458, 0xe60017b459, 0xe60017b45a,
  0xe60017b45b, 0xe200154c81, 0x102001ae4bf, 0xe200156482, 0xe60017b45c, 0xe60017b45d,
  0xe60017b45e, 0xe60017b45f, 0xe200155483, 0x102001aecc0, 0xe200158484, 0xe60017b460,
  0xe60017b461, 0xe60017b462, 0xe60017b463, 0xe200156c82, 0x102001af4c1, 0xe200155c83,
  0xe60017b464, 0xe60017b465, 0xe60017b466, 0xe60017b467, 0xe200157485, 0x102001afcc2,
  0xe200157c85, 0xe60017b468, 0xe60017b469, 0xe60017b46a, 0xe60017b46b, 0xe200158c84,
  0x102001b04c3, 0xe200159c86, 0xe60017b46c, 0xe60017b46d, 0xe60017b46e, 0xe60017b46f,
  0xe200159486, 0x102001b0cc4, 0xe60017b470, 0xe60017b471, 0xe60017b472, 0xe60017b473,
  0xe20015ac80, 0x102001b14c5, 0xe60017b474, 0xe60017b475, 0xe60017b476, 0xe60017b477,
  0xe20c585454, 0xe20c985454, 0x460017b457, 0xe20cd4cc7c]

def states5 : Page Nat := [
  0xe20d14cc7c, 0xe20d54cc7c, 0xe20d94cc7c, 0x1020dd9ccb6, 0xc20e13dc39, 0x1020e59ccb6,
  0xc20e93dc39, 0x1020edab4bb, 0x1020f1ab4bb, 0x1020f5ab4bb, 0x1020f9ab4bb, 0xc20fd4543b,
  0xc21014543b, 0xc21056ec41, 0xc21096ec41, 0xc210d6ec41, 0xc21116ec41, 0xca11503c00,
  0x82118c6ba0, 0x8211cc73a1, 0xc600135417, 0xc600135418, 0x4200185454, 0xe212183450,
  0x1021259649d, 0xc600135419, 0xc60013541a, 0x420019ccb6, 0xc60013541b, 0xc60013541c,
  0x420014543b, 0xc60013541d, 0xc60013541e, 0xc60013541f, 0xc600135420, 0xc600135421,
  0xc600135422, 0xc600135423, 0xc600135424, 0xc600135425, 0xc600135426, 0x82128c7b9e,
  0x8212cbe39e, 0x1021318e49e, 0x82134be39e, 0x1020018eca1, 0x1021398f49f, 0x4600135416,
  0x1020018eca2, 0xea13d03c00, 0xea14103c00, 0x1020018eca3, 0x1020018eca4, 0x1020018eca5,
  0x1020018eca6, 0x1020018eca7, 0x1020018eca8, 0x1020018eca9, 0x1020018ecaa, 0x1020018ecab,
  0x1020018ecac, 0x1020018ecad, 0x1020018ecae, 0x1020018ecaf]

def states6 : Page Nat := [
  0x1020018ecb0, 0x1020018ecb1, 0x1020018ecb2, 0x1020018ecb3, 0x1020018ecb4, 0x4200121c27,
  0x4200122427, 0x4614503c00, 0x82148be39e, 0x4200196ca0, 0x8214cbeb9e, 0x82150beb9e,
  0x4215522c15, 0x4a15903c00, 0x8215cbe39e, 0x82160beb9e, 0x82164beb9e, 0xe200183c51,
  0x4216922c15, 0x1021398fc9c, 0x4200151c7d, 0xe200183c52, 0x10216d9049c, 0x420015247d,
  0x10217190c9c, 0x420018eca0, 0x4200152c7d, 0x420015347d, 0x420014cc7d, 0xe617503c00,
  0xe21797bc4f, 0xe217d7bc4f, 0x4a18103c00, 0x10618503c00, 0x1021899149c, 0x10218d9149c,
  0x42001abcbc, 0x42001ac4bc, 0x42001accbc, 0x42001ad4bc, 0x42001ab4bc, 0x420016f442,
  0x420016fc42, 0x4200170442, 0x4200170c42, 0x420016ec42, 0x42001974a0, 0x4200197ca0,
  0x42001984a0, 0x4200198ca0, 0x42001994a0, 0x4200199ca0, 0x420019a4a0, 0x420019aca0,
  0x420019b4a0, 0x4200123427, 0x4200123c27, 0x42000c839e, 0x12e014001d2, 0x8e014131d3,
  0x4200124428, 0x4200135c15, 0x4200124429, 0x4200136415]

def states7 : Page Nat := [
  0x4200124c2a, 0x4200122c15, 0x8e018131d3, 0x4219125415, 0x4219525415, 0x420012442b,
  0x4200183c4f, 0x420012442c, 0x4200125c2d, 0x4200136c15, 0x4200137415, 0x12e014001d4,
  0x42000bf39e, 0x4200126415, 0x4200126c15, 0x42000bfb9e, 0x42000c039e, 0x4200184c55,
  0x42000c0b9e, 0x42000c139e, 0x420013e439, 0x42000c1b9e, 0x42000c239e, 0x42000c2b9e,
  0x42000c339e, 0x4200127415, 0x42000c3b9e, 0x42000c439e, 0x42000be39e, 0x42000c4b9e,
  0x42000c539e, 0x4200169c43, 0x4200127c15, 0x42000c5b9e, 0x420014d47e, 0x4200128415,
  0x50198001d5, 0x52198001d6, 0x42000c639e, 0x420017c44f, 0x420017cc4f, 0x42000beb9e,
  0x4200128c15, 0x4200124415, 0x5019c7e1d5, 0x5219c7e1d6, 0x4200129415, 0x4200129c15,
  0x420012a415, 0x420014dc7e, 0x420017d44f, 0x420014e47e, 0x420014ec7e, 0x420014f47e,
  0x420014fc7e, 0x420013dc39, 0x420015047e, 0x701a0801d7, 0x721a0819d8, 0x4200150c7e,
  0x701a4809d7, 0x721a4821d8, 0x420012ac15, 0x420012b415]

def states8 : Page Nat := [
  0x420012bc15, 0x420012c415, 0x420012cc15, 0x4200125415, 0x420012d415, 0x420012dc15,
  0x42001a6cbd, 0x42001a74bd, 0x42001a7cbd, 0x42001a84bd, 0x42001a8cbd, 0x42001a94bd,
  0x42001a9cbd, 0x420016a443, 0x420016ac43, 0x420016b443, 0x420016bc43, 0x420016c443,
  0x420016cc43, 0x420016d443, 0x420013ec39, 0x420013f439, 0x420013fc39, 0x4200140439,
  0x4200140c39, 0x4200141439, 0x4200141c39, 0x420017dc4f, 0x420017e44f, 0x420017ec4f,
  0x420017f44f, 0x420017fc4f, 0x420018044f, 0x4200180c4f, 0x4200191c9c, 0x420019249c,
  0x4200192c9c, 0x420019349c, 0x4200193c9c, 0x420019449c, 0x4200194c9c, 0x420015147e,
  0x420019c4b7, 0x420018144f, 0x4200142439, 0x4200181c4f, 0x42001aa4bd, 0x420018244f,
  0x420019549c, 0x420017bc4f, 0x420012e415, 0x4200144c3c, 0x420016dc43, 0x4200142c39,
  0x420019149c, 0x42001aacbd, 0x4200184456, 0x420012ec15, 0x420016e443, 0x420019bcb8,
  0x4200143439, 0x420014443d, 0x4200182c4f, 0x4200195c9c]

def states9 : Page Nat := [
  0x420012f415, 0x420012fc15, 0x4200130415, 0x4200130c15, 0x4200131415, 0x4200131c15,
  0x4200132415, 0x4200132c15, 0x4200133415, 0x4200133c15, 0x4200134415, 0x4200134c15,
  0x12e1a800001, 0x12e1ac00000, 0x421b07e809, 0x421b413809, 0x421b87f009, 0x501bc00002,
  0x521c000003, 0x421c414009, 0x621c88400c, 0x621cc8300c, 0x621d08480c, 0x701d47f804,
  0x721d881005, 0x621dc8380c, 0x12e01400000, 0x12e01400000, 0x12e01800000, 0x1341e000000,
  0x1341e400000, 0x1341e800000, 0x1341ec00000, 0x1341ec00000, 0x1341f000000, 0x1341f400000,
  0x1341f800000, 0x1341fc00000, 0x13420000000, 0x13420400000, 0x4220800006, 0x13420c00000,
  0x6221082807, 0x13421400000, 0x13421800000, 0x13421c00000, 0x13422000000, 0x13422400000,
  0x4222800000, 0x4222c00000, 0x4223000000, 0x5023400000, 0x5023800000, 0x5023c00000,
  0x5224000000, 0x5024400000, 0x5224800000, 0x5024c00000, 0x5025000000, 0x4225400000,
  0x4225800000, 0x7025c00000, 0x7026000000, 0x7026400000]

def states10 : Page Nat := [
  0x7226800000, 0x7026c00000, 0x7227000000, 0x7027400000, 0x7027800000, 0x6227c00000,
  0xc228118c32, 0x6228400000, 0xc228918c32, 0x5028c00000, 0x6229000000, 0x5029400000,
  0x5029800000, 0x5029c00000, 0x522a000000, 0x502a400000, 0x522a800000, 0x522ac00000,
  0x522b000000, 0x622b400000, 0x522b800000, 0x622bc00000, 0x702c000000, 0x702c400000,
  0x702c800000, 0x702cc00000, 0x702d000000, 0x722d400000, 0x722d800000, 0x722dc00000,
  0x722e000000, 0x722e400000, 0x422e814808, 0x422ec00000, 0x422f015008, 0x422f41580a,
  0x422f816008, 0x422fc1680a, 0x4230017008, 0x4230417808, 0x4230800000, 0x4230c18008,
  0x4231000000, 0x623141880b, 0x6231800000, 0x6231c1900b, 0x623201980d, 0x623241a00b,
  0x623281a80d, 0x6232c1b00b, 0x623301b80b, 0x6233400000, 0x623381c00b, 0x6233c00000,
  0xe200119434, 0x4234000000, 0x4234400000, 0x6234800000, 0x6234c00000, 0xe200119c35,
  0x420011342f, 0x4200113c2f, 0x4235000000, 0xe23551a433]

def states11 : Page Nat := [
  0x420011442f, 0xe23591a433, 0x4200114c2f, 0x4235c00000, 0x4236000000, 0x4219800000,
  0x4236400000, 0x4236800000, 0x4236c00000, 0x4237000000, 0x4237400000, 0x4237800000,
  0x4237c00000, 0x4238000000, 0x422f400000, 0x4219c00000, 0x4238400000, 0x4238800000,
  0x4238c00000, 0x4239000000, 0x4239400000, 0x4239800000, 0x4239c00000, 0x423a000000,
  0x423a400000, 0x423a800000, 0x423ac00000, 0x423b000000, 0x423b400000, 0x423b800000,
  0x422fc00000, 0x423bc00000, 0x423c000000, 0x423c400000, 0x423c800000, 0x423cc00000,
  0x423d000000, 0x423d400000, 0x423d800000, 0x423dc00000, 0x423e000000, 0x423e400000,
  0x423e800000, 0x423ec00000, 0x423f000000, 0x423f400000, 0x423f800000, 0x423fc00000,
  0x4240000000, 0x4240400000, 0x4240800000, 0x4240c00000, 0x4241000000, 0x4241400000,
  0x4241800000, 0x4241c00000, 0x4242112c2f, 0x6242400000, 0x1024291ac36, 0x4242d12c2f,
  0x1024311ac36, 0x6243400000, 0x6243800000, 0x621a000000]

def states12 : Page Nat := [
  0x6243c00000, 0x6244000000, 0x6244400000, 0x6244800000, 0x6244c00000, 0x6245000000,
  0x6245400000, 0x6245800000, 0x6232000000, 0x621a400000, 0x6245c00000, 0x6246000000,
  0x6246400000, 0x6246800000, 0x6246c00000, 0x6247000000, 0x6247400000, 0x6247800000,
  0x6247c00000, 0x6248000000, 0x6248400000, 0x6248800000, 0x6248c00000, 0x6249000000,
  0x6232800000, 0x6249400000, 0x6249800000, 0x6249c00000, 0x624a000000, 0x624a400000,
  0x624a800000, 0x624ac00000, 0x624b000000, 0x624b400000, 0x624b800000, 0x624bc00000,
  0x624c000000, 0x624c400000, 0x624c800000, 0x624cc00000, 0x624d000000, 0x624d400000,
  0x624d800000, 0x624dc00000, 0x624e000000, 0x624e400000, 0x624e800000, 0x624ec00000,
  0x624f000000, 0x624f400000, 0x420011542f, 0x4200115c2f, 0x420011642f, 0x4200116c2f,
  0x420011742f, 0x4200117c2f, 0x4200112431, 0x4200112c2f, 0x420011a433, 0x420011ac36,
  0x4200118c32, 0x4200118430, 0x424f909c02, 0xe24fd0b403]

def states13 : Page Nat := [
  0x42000b839d, 0x420014747b, 0x4200104401, 0x42001a14ba, 0x4200164440, 0x4200138438,
  0x4200175c4e, 0x4200188c9b, 0x420010dc04, 0x42000b8b9c, 0x420010a406, 0x420010ac08,
  0x42000b939c, 0x42000b9b9c, 0x42000b839c, 0x42000ba39c, 0x42000bab9c, 0x42000bb39c,
  0x42000bbb9c, 0x42000bc39c, 0x42000bcb9c, 0x42000bd39c, 0x420010dc05, 0x4200147c79,
  0x4200148479, 0x4200147479, 0x4200148c79, 0x4200149479, 0x4200149c79, 0x420014a479,
  0x420014ac79, 0x420014b479, 0x420014bc79, 0x4200104c00, 0x4200105400, 0x4200104400,
  0x4200105c00, 0x4200106400, 0x4200106c00, 0x4200107400, 0x4200107c00, 0x4200108400,
  0x4200108c00, 0x42001a1cb9, 0x42001a24b9, 0x42001a14b9, 0x42001a2cb9, 0x42001a34b9,
  0x42001a3cb9, 0x42001a44b9, 0x42001a4cb9, 0x42001a54b9, 0x42001a5cb9, 0x4200164c3f,
  0x420016543f, 0x420016443f, 0x4200165c3f, 0x420016643f, 0x4200166c3f, 0x420016743f,
  0x4200167c3f, 0x420016843f, 0x4200168c3f, 0x4200138c37]

def states14 : Page Nat := [
  0x4200139437, 0x4200138437, 0x4200139c37, 0x420013a437, 0x420013ac37, 0x420013b437,
  0x420013bc37, 0x420013c437, 0x420013cc37, 0x420017644c, 0x4200176c4c, 0x4200175c4c,
  0x420017744c, 0x4200177c4c, 0x420017844c, 0x4200178c4c, 0x420017944c, 0x4200179c4c,
  0x420017a44c, 0x420018949a, 0x4200189c9a, 0x4200188c9a, 0x420018a49a, 0x420018ac9a,
  0x420018b49a, 0x420018bc9a, 0x420018c49a, 0x420018cc9a, 0x420018d49a, 0x420010a407,
  0x420014c479, 0x420010e409, 0x420010bc0b, 0x420010e40a, 0x4200109400, 0x420010ec0c,
  0x420011040f, 0x42001a64b9, 0x420010d411, 0x420010d412, 0x420016943f, 0x420010c413,
  0x420013d437, 0x420010ec0d, 0x420017ac4c, 0x420010fc0e, 0x420018dc9a, 0x4200111410,
  0x4200111c14, 0x4200110c0f, 0x420010cc12, 0x420010f40d, 0x965008500e, 0x965041c80e,
  0x965081c80f, 0x13650c85b36, 0x13651085abf, 0x13651485abf, 0x13651885abf, 0x13651c85add,
  0x13652085ae1, 0x13651885abf, 0x13652485adc, 0x13652885ae0]

def states15 : Page Nat := [
  0x13652c85adf, 0x13653085ade, 0x13653485ae1, 0x13653885ae1, 0x15653c8bb38, 0xd654086010,
  0xd654486810, 0xd654886811, 0x15654c8cb39, 0xd655087012, 0xd655487812, 0xd655887813,
  0x13655c85b37, 0x9656000000, 0x13856400000, 0x13856400000, 0x13856800000, 0x9656c00000,
  0x1765708eb3b, 0xf657488014, 0xf657888814, 0xf657c88815, 0x1965801e33c, 0x5658489016,
  0x5658889816, 0x5658c89817, 0x1b65908fb3d, 0x1165948a018, 0x1165988a818, 0x11659c8a819,
  0x1565a08b2c0, 0x1565a48b2c0, 0x1565a88b2c0, 0x1565ac8b2e3, 0x1565b08b2e7, 0x1565a88b2c0,
  0x1565b48b2e2, 0x1565b88b2e6, 0x1565bc8b2e5, 0x1565c08b2e4, 0x1565c48b2e7, 0x1565c88b2e7,
  0x1565cc8c2c1, 0x1565d08c2c1, 0x1565d400000, 0x1565d88c2c1, 0x1565dc8c2e9, 0x1565e08c2ed,
  0x1565d88c2c1, 0x1565e48c2e8, 0x1565e88c2ec, 0x1565ec8c2eb, 0x1565f08c2ea, 0x1565f400000,
  0x1565f88c2ed, 0x1565fc8c2ed, 0x15660000000, 0x15660400000, 0x15660800000, 0xf660c8d01a,
  0xf66108d81a, 0xf66148d81b, 0x17661890b3e, 0x13650000000]

def states16 : Page Nat := [
  0x13661c00000, 0x13661c00000, 0x13662000000, 0x13662400000, 0x13662800000, 0x13662c00000,
  0x13663000000, 0x13663400000, 0x13663800000, 0x13663c00000, 0x1786400001c, 0x1786400001c,
  0x1786440001d, 0x13664800000, 0x13664c00000, 0x13665000000, 0x13665400000, 0x13665800000,
  0x13665c00000, 0x13666000000, 0x13666400000, 0x13666800000, 0x13666c00000, 0x13667000000,
  0x13667400000, 0x13667800000, 0x13867c1d01e, 0x1766808e2c2, 0x1766848e2c2, 0x13668800000,
  0x13668c00000, 0x1766908e2c2, 0x1766948e2ef, 0x1766988e2f3, 0x1766908e2c2, 0x17669c8e2ee,
  0x1766a08e2f2, 0x1766a48e2f1, 0x1766a88e2f0, 0x1766ac8e2f3, 0x1766b08e2f3, 0x1586b400000,
  0x1586b400000, 0x1366b800000, 0x1366b800000, 0x1586bc00000, 0x1586bc00000, 0x1586c000000,
  0x1966c41dac3, 0x1966c81dac3, 0x1586cc00000, 0x1586cc00000, 0x1586d000000, 0x1366d400000,
  0x1966d81dac3, 0x1966dc1daf5, 0x1966e01daf9, 0x1966d81dac3, 0x1966e41daf4, 0x1966e81daf8,
  0x1966ec1daf7, 0x1966f01daf6, 0x1366f400000, 0x1966f81daf9]

def states17 : Page Nat := [
  0x1966fc1daf9, 0x13670000000, 0x13670400000, 0x13670800000, 0x15870c00000, 0x13671000000,
  0x1787141e81f, 0x1b67188f2c4, 0x1b671c8f2c4, 0x1b67208f2c4, 0x1b67248f304, 0x1b67288f308,
  0x1b67208f2c4, 0x1b672c8f303, 0x1b67308f307, 0x1b67348f306, 0x1b67388f305, 0x1b673c8f308,
  0x1b67408f308, 0xd674400000, 0xd674800000, 0xd674c00000, 0x176750902c5, 0x176754902c5,
  0xd675800000, 0x17675c902c5, 0x1767609030a, 0x1767649030e, 0x17675c902c5, 0x17676890309,
  0x17676c9030d, 0x1767709030c, 0x1767749030b, 0x1767789030e, 0x17677c9030e, 0x11678091020,
  0x15878400000, 0x15878400000, 0x15878800000, 0x11678c91820, 0x11679091821, 0x1b679492b40,
  0x17879800000, 0x17879800000, 0x19879c00001, 0x1787a000000, 0x1787a000000, 0x1787a400000,
  0x1787a800000, 0xf67ac00000, 0x1b87b000000, 0x1b87b000000, 0x1987b400000, 0x1987b400000,
  0x1987b800000, 0xf67bc00000, 0x1b87c000000, 0x1b87c000000, 0x1b87c400000, 0x1767c800000,
  0x1767cc00000, 0x1767d000000, 0x1767d400000, 0x1767d800000]

def states18 : Page Nat := [
  0x1b87dc00000, 0x567e000000, 0x1567e400000, 0x1b87e81f022, 0x567ec00000, 0x1567f000000,
  0x1567f400000, 0x17864000000, 0x17864000000, 0x17864400000, 0x15654000000, 0x1567f800000,
  0x1567fc00000, 0x11680000000, 0x15680400000, 0x15680800000, 0x15680800000, 0x17880c00000,
  0x17880c00000, 0x17881000000, 0x15681400000, 0x15681800000, 0x15681800000, 0x15681c00000,
  0x15682000000, 0x11682400000, 0x15682800000, 0x15682c00000, 0x15683000000, 0x15683400000,
  0x15683800000, 0x15683c00000, 0x15684000000, 0x15684400000, 0x15684800000, 0x15684c00000,
  0x15685000000, 0x15685400000, 0x15685800000, 0x15685c00000, 0x15686000000, 0x15686400000,
  0x15686800000, 0x15686c00000, 0x15655000000, 0x15687000000, 0x1b887400000, 0x1b887400000,
  0x1b887800000, 0x15687c00000, 0x15687c00000, 0x15688000000, 0x15688400000, 0x15688800000,
  0x15688c00000, 0x15689000000, 0x15689400000, 0x15689800000, 0x15689c00000, 0x1568a000000,
  0x1568a400000, 0x1568a800000, 0x1568ac00000, 0x1568b000000]

def states19 : Page Nat := [
  0x1568b400000, 0x1568b800000, 0x1568bc00000, 0x1568c000000, 0x1568c400000, 0x1568c800000,
  0x1568cc00000, 0x1768d090b3f, 0x1568d400000, 0x1568d800000, 0x1568dc00000, 0x1568e000000,
  0x1568e400000, 0x1b68e892b41, 0xf68ec00000, 0x1568f000000, 0x1568f400000, 0x1b68f8922c6,
  0x1b68fc922c6, 0xf690000000, 0x15690400000, 0x15690800000, 0x1b690c922c6, 0x1b691092310,
  0x1b691492314, 0x1b690c922c6, 0x1b69189230f, 0x1b691c92313, 0x1b692092312, 0x1b692492311,
  0x1b692892314, 0x1b692c92314, 0x15693000000, 0x15693000000, 0x15693400000, 0x1569388cb3a,
  0x19693c00000, 0x19694000000, 0x19694400000, 0x17657400000, 0x17694800000, 0x17694c00000,
  0x17695000000, 0x19695400000, 0x19695400000, 0x17695800000, 0x17695c00000, 0x17696000000,
  0x17696000000, 0x17696400000, 0x17696800000, 0x17696c00000, 0x17697000000, 0x13697400000,
  0x17697800000, 0x17697c00000, 0x17698000000, 0x17698400000, 0x1789880001c, 0x1789880001c,
  0x17898c0001d, 0x17699000000, 0x17699400000, 0x17699800000]

def states20 : Page Nat := [
  0x17699c00000, 0x1769a000000, 0x1769a400000, 0x1769a800000, 0x1769ac00000, 0x1769b000000,
  0x1769b400000, 0x1769b800000, 0x1769bc00000, 0x19658400000, 0x1969c000000, 0x1969c400000,
  0x1969c400000, 0x1969c800000, 0x1969cc00000, 0x1969d000000, 0x1969d400000, 0x1969d800000,
  0x1969dc00000, 0x1969e000000, 0x1969e400000, 0x1969e800000, 0x1969ec00000, 0x1969f000000,
  0x1969f400000, 0x1969f800000, 0x1969fc00000, 0x196a0000000, 0x196a0400000, 0x196a0800000,
  0x196a0c00000, 0x196a1000000, 0x196a1400000, 0x1b659400000, 0x1b6a1800000, 0x1b6a1c00000,
  0x1b6a2000000, 0x176a2400000, 0x1b6a2800000, 0x1b6a2c00000, 0x1b6a2c00000, 0x1b6a3000000,
  0x1b6a3400000, 0x1b6a3800000, 0x1b6a3c00000, 0x176a4000000, 0x176a4400000, 0x176a4800000,
  0x1b6a4c00000, 0x1b6a5000000, 0x1b6a5400000, 0x196a5800000, 0x1b6a5c00000, 0x1b6a6000000,
  0x1b6a6400000, 0x1b6a6800000, 0x1b6a6c00000, 0x1b6a7000000, 0x1b6a7400000, 0x1b6a7800000,
  0x196a7c00000, 0x1b6a8000000, 0x1b6a8400000, 0x1b6a8800000]

def states21 : Page Nat := [
  0x196a8c00000, 0x196a9000000, 0x1b6a9400000, 0x1b6a9800000, 0x196a9c00000, 0x1b6aa000000,
  0x176aa400000, 0x176aa800000, 0x176aac00000, 0x1b6ab000000, 0x1b6ab400000, 0x1b6ab800000,
  0x1b6abc00000, 0x1b6ac000000, 0x176ac400000, 0x176ac400000, 0x1b6ac800000, 0x134acc00000,
  0x134acc00000, 0x1b6ad000000, 0x1b6ad400000, 0x17660c00000, 0x176ad800000, 0x176ad800000,
  0x1b8adc00000, 0x1b8adc00000, 0x1b8ae000000, 0x176ae400000, 0x176ae400000, 0x176ae800000,
  0x176aec00000, 0x176af000000, 0x176af400000, 0x176af800000, 0x176afc00000, 0x176b0000000,
  0x176b0400000, 0x176b0800000, 0x176b0c00000, 0x176b1000000, 0x176b1400000, 0x176b1800000,
  0x176b1c00000, 0x176b2000000, 0x176b2400000, 0x176b2800000, 0x176b2c00000, 0x176b3000000,
  0x176b3400000, 0x176b3800000, 0x176b3c00000, 0x176b4000000, 0x176b4400000, 0x176b4800000,
  0x116b4c00000, 0x1b6b5000000, 0x1b6b5000000, 0x176b5400000, 0x116b5800000, 0x134b5c00000,
  0x134b6000000, 0x134b6400000, 0x176b6800000, 0x134b6c00000]

def states22 : Page Nat := [
  0x1b6b7000000, 0x196b7400000, 0x1b6b7800000, 0x178b7c00000, 0x178b7c00000, 0x178b8000000,
  0x1b8b8400000, 0x1b8b8400000, 0x1b8b8800000, 0x158b8c00000, 0x158b8c00000, 0x158b9000000,
  0x1b6b9400000, 0x1b6b9800000, 0x1b6b9c00000, 0x1b678000000, 0x1b6ba000000, 0x1b6ba000000,
  0x1b6ba400000, 0x1b6ba400000, 0x1b6ba800000, 0x1b6bac00000, 0x1b6bb000000, 0x1b6bb400000,
  0x1b6bb800000, 0x1b6bbc00000, 0x1b6bc000000, 0x1b6bc400000, 0x1b6bc800000, 0x1b6bcc00000,
  0x1b6bd000000, 0x1b6bd400000, 0x1b6bd800000, 0x1b6bdc00000, 0x1b6be000000, 0x1b6be400000,
  0x1b6be800000, 0x1b6bec00000, 0x1b6bf000000, 0x1b6bf400000, 0x1b6bf800000, 0x1b6bfc00000,
  0x1b6c0000000, 0x1b6c0400000, 0x1b6c0800000, 0x1b6c0c00000, 0x194c1000000, 0x194c1000000,
  0x194c1400000, 0x194c1800000, 0x194c1c00000, 0x194c2000000, 0x194c2400000, 0x194c2800000,
  0x194c2c00000, 0x194c3000000, 0x194c3400000, 0x194c3800000, 0x194c3800000, 0x194c3c00000,
  0x176c4000000, 0x1b6c4400000, 0x156c4800000, 0x4a000dbb53]

def states23 : Page Nat := [
  0x4a000dc354, 0xe6000abb70, 0x106000d838b, 0xe6000ac371, 0xe6000ab372, 0x106000d8b8c,
  0xe6000ab373, 0x106000d8b8d, 0xe6000ab374, 0xe6000ab375, 0xe6000acb76, 0x106000d938e,
  0xe6000ad377, 0xe6000ab378, 0x106000d8b8f, 0xe6000ab379, 0x106000d8b90, 0xe6000ab37a,
  0xe6000ab37b, 0xe6000adb7c, 0x106000d9b91, 0xe6000ae37d, 0xe6000ab37e, 0x106000d8b92,
  0xe6000ab37f, 0x106000d8b93, 0xe6000ab380, 0xe6000ab381, 0xe6000aeb82, 0x106000da394,
  0xe6000af383, 0xe6000ab384, 0x106000d8b95, 0xe6000ab385, 0x106000d8b96, 0xe6000ab386,
  0xe6000ab387, 0x46000dab52, 0x46000dcb6c, 0x46000db352, 0x46000ab36f, 0x46000d8b8a,
  0xc6000d2b58, 0xc6000d2359, 0xc6000d235a, 0xc6000d235b, 0xc6000d235c, 0xc6000d335d,
  0xc6000d235e, 0xc6000d235f, 0xc6000d2360, 0xc6000d2361, 0xc6000d3b62, 0xc6000d2363,
  0xc6000d2364, 0xc6000d2365, 0xc6000d2366, 0xc6000d4367, 0xc6000d2368, 0xc6000d2369,
  0xc6000d236a, 0xc6000d236b, 0x46000d2357, 0x46000d4b55]

def states24 : Page Nat := [
  0x46000d5356, 0x46000d0388, 0x46000d0b89, 0x46000d5b97, 0x46000d6398, 0x46000d6b6d,
  0x46000d736e, 0x134c4c1fb42, 0x134c501fb43, 0x194c5420344, 0x194c5820345, 0x156c5c00000,
  0x156c5c00000, 0x174c6020b46, 0x174c6420b47, 0x156c6800000, 0x156c6c00000, 0x156c7000000,
  0x156c7400000, 0x142c7821348, 0x142c7c21349, 0x142c8021b4a, 0x142c8421b4b, 0x1b4c882234c,
  0x1b4c8c2234d, 0x162c9022b4e, 0x176c9400000, 0x176c9400000, 0x176c9800000, 0x162c9c22b4f,
  0x1280b023023, 0x1a2ca023b50, 0x1a2ca423b51, 0x128ca823024, 0x176cac00000, 0x176cac00000,
  0x176cb000000, 0x1960001dafa, 0x196cb400000, 0x196cb400000, 0x196cb800000, 0x196cb800000,
  0x196cbc00000, 0x176cc000000, 0x176cc000000, 0x196cc400000, 0x196cc800000, 0x196ccc00000,
  0x196cd000000, 0x196cd400000, 0x196cd400000, 0x1b6cd800000, 0x1b6cd800000, 0x128cdc00000,
  0x128ce000000, 0x128ce400000, 0x128ca800000, 0x176ce800000, 0x176cec00000, 0x176cf000000,
  0x176cf400000, 0x196cf800000, 0x1b6cfc00000, 0x1b6d0000000]

def states25 : Page Nat := [
  0x1b6d0400000, 0x1b6d0800000, 0x1960001daf9, 0x1960001dafb, 0x1960001dafc, 0x1960001dafd,
  0x1960001dafe, 0x1960001daff, 0x1960001db00, 0x1960001db01, 0x1960001db02, 0x18a00093316,
  0x1880002439a, 0x188d0c00000, 0x1880b824825, 0x188d1000000, 0x188d1400000, 0x188d1800000,
  0x128d1c00399, 0x188d2024826, 0x18a00093b17, 0x18a00094318, 0x1880002539b, 0x18a00094b19,
  0x18a0009531a, 0x18a00095b1b, 0x18a0009631c, 0x18a00096b1d, 0x18a0009731e, 0x18a00097b1f,
  0x18a00098320, 0x166000d1b22, 0x18800000399, 0x18ad2498b15, 0x18ad2898b15, 0x166d2cd1321,
  0x166d30d1321, 0x18600098b15, 0x186000d1321, 0x134d3400000, 0x142d38992c7, 0x134d3c00000,
  0x134d400002a, 0x134d4400029, 0x134d4800028, 0x134d4c00000, 0x134d5000027, 0x134d540002a,
  0x134d580002a, 0x142d3899ac7, 0x142d389a2c7, 0x142d389aac7, 0x142d389b2c7, 0x142d389bac7,
  0x142d389c2c7, 0x142d389cac7, 0x16200025ac8, 0x1a2d5c9d29f, 0x162d60002c9, 0x162000262d0,
  0x134d642682b, 0x162000272ca, 0x16200027ad1, 0x162000002c9]

def states26 : Page Nat := [
  0x162000282d2, 0x16200028acb, 0x162000292d3, 0x16200029acc, 0x1620002a2d4, 0x1620002aacd,
  0x1620002b2d5, 0x1620002bace, 0x1620002c2d6, 0x1620002cacf, 0x1620002d2d7, 0x1a2d5c9da9f,
  0x1a2d5c9e29f, 0x1a2d5c9ea9f, 0x1a2d5c9f29f, 0x1a2d5c9fa9f, 0x1a2d5ca029f, 0x1a2d5ca0a9f,
  0x1c0000afb24, 0x1c000000325, 0x142d682d83f, 0x1c0d6c00323, 0x134d700002a, 0x194d7400000,
  0x194d7800000, 0x194d7c0002f, 0x194d800002e, 0x194d840002d, 0x194d8800000, 0x194d8c0002c,
  0x194d900002f, 0x194d940002f, 0x174d9800033, 0x142d9c2d83f, 0x174da000000, 0x174da400000,
  0x174da800033, 0x174dac00032, 0x174db000031, 0x174db400000, 0x174db800030, 0x174dbc00033,
  0x174dc000033, 0x1c0000b0326, 0x1c000000327, 0x1c0000b0b28, 0x1c000000329, 0x1c0000b132a,
  0x1c00000032b, 0x1c0000b1b2c, 0x1c00000032d, 0x1c0000b232e, 0x1c00000032f, 0x1c0000b2b30,
  0x1c000000331, 0x1c0000b3332, 0x1c000000333, 0x1c0000b3b34, 0x1c000000335, 0x122dc400047,
  0x194dc80002f, 0x194dcc00035, 0x194dd000034, 0x194dd42e034]

def states27 : Page Nat := [
  0x142dd80003e, 0x194ddc2e036, 0x1b4de000043, 0x142de40003e, 0x14253c00000, 0x142de800000,
  0x142dec0003a, 0x142df000039, 0x142df400038, 0x142df800000, 0x142dfc00037, 0x142e000003a,
  0x142e040003a, 0x14254c00000, 0x142e0800000, 0x142e0c0003e, 0x142e100003d, 0x142e140003c,
  0x142e1800000, 0x142e1c0003b, 0x142e200003e, 0x142e240003e, 0x1b4e2800000, 0x1b4e2c00000,
  0x1b4e3000043, 0x1b4e3400042, 0x1b4e3800041, 0x1b4e3c00000, 0x1b4e4000040, 0x1b4e4400043,
  0x1b4e4800043, 0x122e4c2682b, 0x182000a62d8, 0x122e502e844, 0x122e542f045, 0x122e5800046,
  0x122e5c00046, 0x122e6000046, 0x19a000ca9d9, 0x122d1c00046, 0x122e640002a, 0x1a20002f9da,
  0x19a000cb1d9, 0x122e6830045, 0x142e6c0003a, 0x162e700004a, 0x42e7489016, 0x162e700004a,
  0x162e700004a, 0x16257000000, 0x162e7800000, 0x162e7c0004b, 0x162e800004a, 0x162e8400049,
  0x162e8800000, 0x162e8c00048, 0x194ddc00000, 0x162e900004b, 0x162e940004b, 0x1a2e980004e,
  0x16ee9c30855, 0x1a2e980004e, 0x1a2e980004e, 0x142ea000039]

def states28 : Page Nat := [
  0x1aeea431059, 0x142ea000039, 0x142ea000039, 0x1a259000000, 0x1a2ea800000, 0x1a2eac0004f,
  0x1a2eb00004e, 0x1a2eb40004d, 0x1a2eb800000, 0x1a2ebc0004c, 0x1a2ec00004f, 0x1a2ec40004f,
  0x14eec83185c, 0x182000a6ad9, 0x19a000cb9db, 0x1a2000321dc, 0x19a000cc1db, 0x1a2000329dd,
  0x1a2000331de, 0x1a2000339df, 0x1a2000341e0, 0x1a2000349e1, 0x1a2000351e2, 0x1a2000359e3,
  0x1a2000361e4, 0x18e000a11e5, 0x1c0ecc36ada, 0x182000371e6, 0x142000a19e7, 0x1c0ed036adb,
  0x1820004b9e8, 0x162ed4b42a0, 0x122ed80002a, 0x162edc37aa0, 0x122ee00002a, 0x182000381e9,
  0x162000281ed, 0x1a213800050, 0x162ee40004a, 0x162ee837aa1, 0x182000381ea, 0x1a2eec00051,
  0x1a216c00052, 0x182e74001ee, 0x182ef0001ef, 0x162ef438853, 0x1a2ef8b4aa2, 0x1a2efcb52a2,
  0x1a2f000004e, 0x1a2f04b52a3, 0xe2f088d01a, 0x16ee9c30854, 0x1a2f0c39056, 0x16ef1039854,
  0x142f14b5aa4, 0x16ef1839857, 0x142f1cb62a4, 0x142f2000039, 0x142f24b62a5, 0x102f2891020,
  0x1aeea431058, 0x1aef2c3a058, 0x1aef303a05a, 0xc2f3487012]

def states29 : Page Nat := [
  0x14eec83185b, 0x14ef383a85b, 0x14ef3c3a85d, 0x142000a21f0, 0x142000a29f1, 0x142000a31f2,
  0x142000a39f3, 0x142000a41f4, 0x142000a49f5, 0x142000a51f6, 0x1820003b1f7, 0x182000381eb,
  0x182000381ec, 0x12ef403b85e, 0x182f440002f, 0x182f48a585f, 0x12ef4c3c05e, 0x162f5000033,
  0x122f540002a, 0x142f580003e, 0x122f5c0002a, 0x134f60002aa, 0x1c0f6400000, 0x12ef683c060,
  0x162f6c00033, 0x122f700002a, 0x182f740002f, 0x1b40003cab9, 0x182f780002f, 0x1c0f7c00000,
  0x1c0f8000000, 0x1c0f8400000, 0x182000002a6, 0x194f8800000, 0x162f8c00033, 0x162f9000033,
  0x162f9400033, 0x1a216c00043, 0x1c0f9800000, 0x1c0f9c00000, 0x1c0fa000000, 0x162fa43d061,
  0x182e7400062, 0x182000a72a8, 0x182fa800063, 0x194fac00000, 0x1a217000043, 0x1c0fb000000,
  0x162fb43d864, 0x162fb800065, 0x182fbc3e063, 0x182fc00002d, 0x1a2fc400043, 0x162fc800066,
  0x162fcc00067, 0x182fd000063, 0x182fd400000, 0x182fd43e068, 0x162fd800033, 0x134d7000000,
  0x1422803e869, 0x1a2fdc00043, 0x142fe03f06a, 0x134fe400000]

def states30 : Page Nat := [
  0x134fe800000, 0x162fec00033, 0x162ff000033, 0x142dd83f06b, 0x1a2ff400043, 0x134ff800000,
  0x134ffc002a9, 0x13500000000, 0x1430040003e, 0x175008002ac, 0x16300c00033, 0x13501000000,
  0x1a30143f86c, 0x162f08001f8, 0x13501800000, 0x16301c00033, 0x1a30204006d, 0x1a30244086e,
  0x163028001f9, 0x1a302c4086f, 0x1a303040870, 0x1430340003e, 0x1a303800043, 0x16303c00033,
  0x16ef1800000, 0x1430400003e, 0x14304441071, 0x1a2f28001fa, 0x14304841872, 0x14304c42073,
  0x1a3050001fb, 0x14305442074, 0x14305842075, 0x174d9800000, 0x17505c00000, 0x17506000000,
  0x1430643e876, 0x1a306800043, 0x1aef3000000, 0x17506c00000, 0x175070002ab, 0x17507400000,
  0x17507800000, 0x142f34001fc, 0x17507c00000, 0x143080001fd, 0x1830840002f, 0x14ef3c00000,
  0x1b400042aba, 0x1b4000432bb, 0x1b400043abc, 0x182000002a7, 0x12308800097, 0x18200000077,
  0x18200000078, 0x194dc800000, 0x182000a79fe, 0x12200000079, 0x142000002ad, 0x12308ca807a,
  0x1820004c07b, 0x12212c4407c, 0x19509000000, 0x19509400000]

def states31 : Page Nat := [
  0x1820000007d, 0x122e644407e, 0x15d09845200, 0x12ef6800000, 0x12309ca807a, 0x1950a000000,
  0x1950a4002ae, 0x1350a8002a9, 0x1950ac00000, 0x1820000007f, 0x15d0b044a01, 0x18200000202,
  0x15d0b444a04, 0x18200000080, 0x1b50b8002b8, 0x1830bc00000, 0x1830c000000, 0x1830c400000,
  0x1830c800000, 0x1430cc45a05, 0x182000522bd, 0x18200000081, 0x1830d00002d, 0x1630d400000,
  0x162fcc00000, 0x1830d800000, 0x1830dc00000, 0x1830e000000, 0x1830e400000, 0x1830e800000,
  0x1830ec00000, 0x1630f000000, 0x1830f400000, 0x1830f800000, 0x1830fc00000, 0x18310000000,
  0x18310400000, 0x18310800000, 0x18310c00000, 0x18311000000, 0x18311400000, 0x18311800000,
  0x18311c00000, 0x18312000000, 0x18312400000, 0x18312800000, 0x175008002ab, 0x162f0800082,
  0x16312c46083, 0x16313046883, 0x1a313400000, 0x1a303000000, 0x16313846083, 0x16313c46000,
  0x16313c46884, 0x1a314000000, 0x1b4de000000, 0x1b514400000, 0x1b514800000, 0x1b514c00000,
  0x1b5150002b8, 0x1b515400000, 0x1b515800000, 0x1a2f2800085]

def states32 : Page Nat := [
  0x1a315c47086, 0x1b516000000, 0x1a316447886, 0x14316800000, 0x14305800000, 0x1a316c47086,
  0x1a317047000, 0x1a317047887, 0x14317400000, 0x14317800000, 0x14317c00000, 0x14318000000,
  0x14318400000, 0x14306400000, 0x1831880002f, 0x142f3400088, 0x14318c48089, 0x14319000000,
  0x14319448889, 0x14319848089, 0x14319c48000, 0x14319c4888a, 0x142000492be, 0x1820000008b,
  0x1430cc49a06, 0x1820000008c, 0x1430cc4a207, 0x1820000008d, 0x1430cc4aa08, 0x1820000008e,
  0x1820000008f, 0x18200000090, 0x18200000091, 0x18200000092, 0x18200000093, 0x182000a89ff,
  0x18200000203, 0x18200000094, 0x18200000095, 0x1820004b07a, 0x12308800096, 0x18f1a000098,
  0x1231a44c899, 0x1820004d09a, 0x1231a84d89b, 0x1231ac4e09b, 0x194000002af, 0x1221484409c,
  0x1231b04e89d, 0x18f1b40009e, 0x1231b80009f, 0x1231bc000a0, 0x1231c0440a1, 0x182000a909a,
  0x1231c40009b, 0x1231c80009b, 0x1831cc00000, 0x1420004f227, 0x1231d0000a2, 0x1231d44e8a3,
  0x182000b68a4, 0x182000b70a4, 0x1231d8000a5, 0x1e20004fa09]

def states33 : Page Nat := [
  0x1231dc000a6, 0x1e20000020a, 0x1231e0440a1, 0x182fa800000, 0x1e31e4000a7, 0x1620005020d,
  0x1a200050a0e, 0x1620005120f, 0x1831e8000a8, 0x1831ec00000, 0x1831e8518a9, 0x1431f000000,
  0x1631f4528c6, 0x1631f8000cb, 0x1631fca98a4, 0x163200a98a4, 0x16320400000, 0x16320800000,
  0x16320c00000, 0x16321000000, 0x16321400000, 0x16321800000, 0x16321c00000, 0x16322000000,
  0x16322400000, 0x16322800000, 0x16322c00000, 0x16323000000, 0x16323400000, 0x16323800000,
  0x16323c00000, 0x16324000000, 0x16324400000, 0x16324800000, 0x16324c00000, 0x16325000000,
  0x16325400000, 0x16325800000, 0x16325c00000, 0x16326000000, 0x1a326400000, 0x1a326800000,
  0x1a326c00000, 0x1a327000000, 0x1a327400000, 0x1a327800000, 0x1a327c00000, 0x1a328000000,
  0x1a328400000, 0x1a328800000, 0x1a328c00000, 0x1a329000000, 0x1a329400000, 0x1a329800000,
  0x1a329c00000, 0x1a32a000000, 0x1a32a400000, 0x1a32a800000, 0x1a32ac00000, 0x1a32b000000,
  0x1a32b400000, 0x1a32b800000, 0x1a32bc00000, 0x1a32c000000]

def states34 : Page Nat := [
  0x1432c400000, 0x1432c800000, 0x1432cc00000, 0x1432d000000, 0x1432d400000, 0x1432d800000,
  0x1432dc00000, 0x1432e000000, 0x1432e400000, 0x1432e800000, 0x1432ec00000, 0x1432f000000,
  0x1432f400000, 0x1432f800000, 0x1432fc00000, 0x14330000000, 0x14330400000, 0x14330800000,
  0x14330c00000, 0x14331000000, 0x14331400000, 0x14331800000, 0x14331c00000, 0x14200053228,
  0x1e200053a0b, 0x1e20000020c, 0x16200054210, 0x1a200054a11, 0x16200055212, 0x16200055a13,
  0x1a200056214, 0x16200056a15, 0x16200057216, 0x1a200057a17, 0x16200058218, 0x182000aa09a,
  0x182000aa89a, 0x12200058a19, 0x183320590aa, 0x163324000ab, 0x163328598ac, 0x162000000ad,
  0x122dc4000ae, 0x18200000100, 0x18332c5a0af, 0x123330000b0, 0x1420005a90f, 0x183334000b1,
  0x1833385b0b2, 0x183334000b1, 0x1220000021a, 0x162000000b3, 0x162000000b4, 0x1620c45b8b5,
  0x1623545c0b6, 0x2020000021b, 0x1820000021c, 0x18200000101, 0x1620005ca1d, 0x182154000b7,
  0x1820005d21e, 0x14200000220, 0x18333c00000, 0x182d24000b8]

def states35 : Page Nat := [
  0x123340000b9, 0x1620005d922, 0x1620005e221, 0x1a20002fa22, 0x1420005ea23, 0x1231d000000,
  0x12334400000, 0x162f6c5b8ba, 0x18200000102, 0x2020005f21b, 0x2020005fa1b, 0x183348000bb,
  0x19b34c00000, 0x16200060229, 0x183350000bc, 0x1231dc00000, 0x143354000bd, 0x183358000be,
  0x1620000022a, 0x1620000022b, 0x1a20000022c, 0x15d35c00000, 0x14200060a24, 0x182000a807a,
  0x18200000103, 0x2020006121b, 0x19b36000000, 0x1a20000022d, 0x194000002b0, 0x162f94000bf,
  0x1a3364000c0, 0x194000002b1, 0x1a30b8000c1, 0x194000002b2, 0x182000000c2, 0x14200061a31,
  0x194000002b3, 0x16200000232, 0x1a200062233, 0x14200000234, 0x14200000235, 0x143368000c3,
  0x14336c000c4, 0x16200000236, 0x1631f4528c5, 0x1a2d5c628c7, 0x1a3370630c8, 0x163374638c9,
  0x1631f8000ca, 0x1631f8000cc, 0x19b37800000, 0x16337c640cd, 0x1a20dc648ce, 0x16338000000,
  0x1a2428650cf, 0x16338400000, 0x162d2c658d0, 0x19b38800000, 0x16338c5c0d1, 0x15d39000000,
  0x163394000d2, 0x163398640d3, 0x1a2ff4648d4, 0x20200066237]

def states36 : Page Nat := [
  0x16339c600d5, 0x1633a0658d6, 0x19b3a400000, 0x15d3a800000, 0x15d3ac00000, 0x15d3b000000,
  0x182000a98a4, 0x20200066a37, 0x15d3b400000, 0x15d3b800000, 0x15d3bc00000, 0x16312c00000,
  0x15d3c000000, 0x1633c4000d7, 0x1633c800000, 0x1633c4000d8, 0x142d38670d9, 0x1420fc678da,
  0x1633cc680db, 0x1a33d0650dc, 0x16303c680dd, 0x143040678de, 0x1a315c00000, 0x1a33d4000df,
  0x1a33d800000, 0x1a33d4620e0, 0x1233dc00000, 0x1233e000000, 0x1a33e4688e1, 0x1a3068688e2,
  0x14318c00000, 0x1433e800000, 0x182190690e3, 0x183084690e4, 0x12200069a38, 0x162000000e5,
  0x1420006a13d, 0x12200000239, 0x1824206a8e6, 0x162000000e7, 0x162000000e8, 0x2020006b237,
  0x1820000023a, 0x1420000023b, 0x1833ec6a8e9, 0x1620006b94a, 0x1620006c23c, 0x1a20003223d,
  0x1420006ca25, 0x2020006d237, 0x1620000023e, 0x1620000023f, 0x1a200000240, 0x1420006da26,
  0x1a20000022e, 0x1420006e241, 0x16200000242, 0x1a200062243, 0x14200000244, 0x14200000245,
  0x16200000246, 0x1220006ea47, 0x162000000ea, 0x1420006f157]

def states37 : Page Nat := [
  0x12200000248, 0x162000000eb, 0x162000000ec, 0x14200000249, 0x16200028163, 0x1620006fa4a,
  0x1a200032a4b, 0x1620000024c, 0x1620000024d, 0x1a20000024e, 0x1a20000022f, 0x1420007024f,
  0x16200000250, 0x1a200062251, 0x14200000252, 0x14200000253, 0x16200000254, 0x12200070a55,
  0x162000000ed, 0x1420007116c, 0x12200000256, 0x14200000257, 0x16200071978, 0x16200072258,
  0x1a200033259, 0x1620000025a, 0x1620000025b, 0x1a20000025c, 0x1a200000230, 0x14200072a5d,
  0x1620000025e, 0x1a20006225f, 0x14200000260, 0x14200000261, 0x16200000262, 0x12200073263,
  0x162000000ee, 0x14200073980, 0x12200000264, 0x14200000265, 0x1620007418b, 0x16200074a66,
  0x1a200033a67, 0x16200000268, 0x16200000269, 0x1a20000026a, 0x1220007526b, 0x162000000ef,
  0x14200075990, 0x1220000026c, 0x1420000026d, 0x1620007619a, 0x16200076a6e, 0x1a20003426f,
  0x16200000270, 0x16200000271, 0x1a200000272, 0x12200077273, 0x162000000f0, 0x1420007799f,
  0x12200000274, 0x14200000275, 0x162000781a9, 0x16200078a76]

def states38 : Page Nat := [
  0x1a200034a77, 0x16200000278, 0x16200000279, 0x1a20000027a, 0x1220007927b, 0x162000000f1,
  0x142000799ae, 0x1220000027c, 0x1420000027d, 0x1620007a1b8, 0x1620007aa7e, 0x1a20003527f,
  0x16200000280, 0x16200000281, 0x1a200000282, 0x1a200035a83, 0x1a200000284, 0x1a200036285,
  0x1a200000286, 0x1820007b21f, 0x18200000104, 0x18200000105, 0x194000002b4, 0x194000002b5,
  0x194000002b6, 0x194000002b7, 0x18200000106, 0x18200000107, 0x18200000108, 0x18200000109,
  0x1233f000000, 0x1233f400000, 0x1233f800000, 0x122e4c00000, 0x1233fc00000, 0x122e5800000,
  0x122e5c00000, 0x18340000000, 0x18333400000, 0x18333400000, 0x122e6000000, 0x1820007b8f2,
  0x19a00000287, 0x1820007c0f3, 0x12334000000, 0x12340400000, 0x12340800000, 0x12340c00000,
  0x12341000000, 0x12341400000, 0x12341800000, 0x16341c00000, 0x16342000000, 0x162f6c00000,
  0x19a00000288, 0x1820007c8f3, 0x18335000000, 0x19b42400000, 0x19a00000289, 0x14335400000,
  0x18335800000, 0x1e342800000, 0x19a0000028a, 0x19b42c00000]

def states39 : Page Nat := [
  0x12343000000, 0x162f9400000, 0x16343400000, 0x1a2eec00000, 0x12343800000, 0x12343c00000,
  0x1820000028b, 0x1820000028c, 0x1820000028d, 0x1820000028e, 0x1e344000000, 0x14344400000,
  0x1e344800000, 0x1e344c00000, 0x1e345000000, 0x1e345400000, 0x1e345800000, 0x1e345c00000,
  0x1e346000000, 0x1e346400000, 0x1e346800000, 0x1e346c00000, 0x1e347000000, 0x16347400000,
  0x16347800000, 0x1631f800000, 0x16347c00000, 0x16348000000, 0x16338c00000, 0x16339400000,
  0x16348400000, 0x1a348800000, 0x1a348c00000, 0x1a2ff400000, 0x16339c00000, 0x1633a000000,
  0x1a349000000, 0x1a349400000, 0x1a349800000, 0x1a349c00000, 0x1a33d000000, 0x1434a000000,
  0x1434a400000, 0x14304000000, 0x1e34a800000, 0x1e34ac00000, 0x1e34b000000, 0x1e34b400000,
  0x1e34b800000, 0x1820000028f, 0x18200000290, 0x18200000291, 0x18200000292, 0x18200000293,
  0x18200000294, 0x18200000295, 0x18200000296, 0x18200000297, 0x18200000298, 0x18200000299,
  0x1820000029a, 0x19a0000029b, 0x19a0000029c, 0x19a0000029d]

def states40 : Page Nat := [
  0x19a0000029e, 0x1820007d0f3, 0x1820007d8f3, 0x182000000f4, 0x182000000f5, 0x182000000f6,
  0x182000000f7, 0x182000000f8, 0x18200000000, 0x184000000f9, 0x182000000fa, 0x182000000fb,
  0x162000000fc, 0x162000000fd, 0x182000000fe, 0x182000000ff, 0x1820000010a, 0x1820000010b,
  0x1a20000010c, 0x1a20000010d, 0x1420000010e, 0x14200000110, 0x18200000111, 0x1834bc00000,
  0x18200000112, 0x18200000113, 0x18200000114, 0x18200000115, 0x18200000116, 0x1834c000000,
  0x18200000117, 0x16200000118, 0x18200000119, 0x1820000011a, 0x1820000011b, 0x1820000011c,
  0x1820000011d, 0x1a20000011e, 0x1420000011f, 0x14200000120, 0x16200000121, 0x14200000123,
  0x18200000124, 0x18200000125, 0x18200000126, 0x18216800000, 0x16200000127, 0x18200000128,
  0x14200000129, 0x1420000012a, 0x1620000012b, 0x1620000012c, 0x1820000012d, 0x1820000012e,
  0x1820000012f, 0x1834c400000, 0x14200000130, 0x1834c800000, 0x18200000131, 0x18200000132,
  0x18200000133, 0x18200000134, 0x18200000135, 0x18400000136]

def states41 : Page Nat := [
  0x16200000137, 0x16200000138, 0x18200000139, 0x1a20000013a, 0x1a20000013b, 0x1420000013c,
  0x1420000013e, 0x1820000013f, 0x18200000140, 0x18200000141, 0x18200000142, 0x18200000143,
  0x16200000144, 0x18200000145, 0x1a200000146, 0x14200000147, 0x14200000148, 0x16200000149,
  0x1420000014b, 0x1420000014c, 0x1420000014d, 0x1420000014e, 0x1820000014f, 0x18400000150,
  0x16200000151, 0x16200000152, 0x18200000153, 0x1a200000154, 0x1a200000155, 0x14200000156,
  0x14200000158, 0x18200000159, 0x1820000015a, 0x1820000015b, 0x1820000015c, 0x1620000015d,
  0x1820000015e, 0x1a20000015f, 0x14200000160, 0x14200000161, 0x16200000162, 0x18200000164,
  0x18400000165, 0x16200000166, 0x16200000167, 0x18200000168, 0x1a200000169, 0x1a20000016a,
  0x1420000016b, 0x1420000016d, 0x1820000016e, 0x1820000016f, 0x18200000170, 0x18200000171,
  0x16200000172, 0x18200000173, 0x1a200000174, 0x14200000175, 0x14200000176, 0x16200000177,
  0x18200000179, 0x1840000017a, 0x1620000017b, 0x1620000017c]

def states42 : Page Nat := [
  0x1a20000017d, 0x1a20000017e, 0x1420000017f, 0x14200000181, 0x18200000182, 0x18200000183,
  0x18200000184, 0x18200000185, 0x16200000186, 0x1a200000187, 0x14200000188, 0x14200000189,
  0x1620000018a, 0x1840000018c, 0x1620000018d, 0x1a20000018e, 0x1420000018f, 0x14200000191,
  0x18200000192, 0x18200000193, 0x18200000194, 0x16200000195, 0x1a200000196, 0x14200000197,
  0x14200000198, 0x16200000199, 0x1840000019b, 0x1620000019c, 0x1a20000019d, 0x1420000019e,
  0x142000001a0, 0x182000001a1, 0x182000001a2, 0x182000001a3, 0x162000001a4, 0x1a2000001a5,
  0x142000001a6, 0x142000001a7, 0x162000001a8, 0x184000001aa, 0x162000001ab, 0x1a2000001ac,
  0x142000001ad, 0x142000001af, 0x182000001b0, 0x182000001b1, 0x182000001b2, 0x162000001b3,
  0x1a2000001b4, 0x142000001b5, 0x142000001b6, 0x162000001b7, 0x182000001b9, 0x182000001ba,
  0x182000001bb, 0x182000001bc, 0x182000001bd, 0x182000001be, 0x182000001bf, 0x182000001c0,
  0x182000001c1, 0x182000001c2, 0x182000001c3, 0x182000001c4]

def states43 : Page Nat := [
  0x182000001c5, 0x182000001c6, 0x182000001c7, 0x182000001c8, 0x182000001c9, 0x182000001ca,
  0x182000001cb, 0x182000001cc, 0x182000001cd, 0x182000001ce, 0x182000001cf, 0x182000001d0,
  0x182000001d1]

/-- The states in pages of 64. From the lowest bits up: the row of shifts (11 bits), of gotos (11), of
reductions (11), the token mode (4) and the layout mode (5). -/
def states : List (Page Nat) := [
  states0, states1, states2, states3, states4, states5, states6, states7, states8, states9,
  states10, states11, states12, states13, states14, states15, states16, states17, states18,
  states19, states20, states21, states22, states23, states24, states25, states26, states27,
  states28, states29, states30, states31, states32, states33, states34, states35, states36,
  states37, states38, states39, states40, states41, states42, states43]

end CodeAudit.Syntax.Automaton
