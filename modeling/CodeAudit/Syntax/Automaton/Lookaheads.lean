import CodeAudit.Syntax.Automaton.Row

/-! Sets of tokens before which a reduction applies. -/
namespace CodeAudit.Syntax.Automaton

def lookaheads0 : Page Nat := [
  1, 0x107e180020100d36f31b47f58ab, 0x187e180020100d36f31b47f58aa, 0x8000,
  0x7ffc000000100000800200, 0x20000001feffcb408040402e94, 0x20000001feffcb408040c02e94,
  0x20000001feffcb408040400e94, 0x20000001feffcb408040c00e94, 0x20000001feff09008040402614,
  0x20000001feff89008040402614, 0x20000001feff89008040c02614, 0xfc09008000002010,
  0x20007ffdfeff89108040c02614, 0x20000001feff89108040c02634, 0x200, 0x100001feffa9108040c02610,
  0x100001feffa9108060c02610, 0x1feff89008060402710, 0x1feff89108042c02610,
  0x1feffa9008060c02610, 0x1feffa9008040402610, 0x1feff89108040c02710, 0x1feff89108060c02710,
  0x1feff89008040402710, 0x300, 0x1feff89808040402610, 0x1feff89808060402610, 0x800000000200,
  0x20007ffc000000100000800204, 0x1feff89808060c02610, 0x1feff89808040c02610,
  0x7ffc00fc09108000802210, 0x20007ffc000000100000800004, 0x7ffc000000100000800000,
  0x100000000020100000800200, 0x100, 0x30400100, 0x800000000000, 0x800030400000,
  0x20000000000000, 0x20000030400000, 0x20000000000000000000000004, 0x20000000000000000000000024,
  0x800300, 0x40000200, 0x800000, 0x800200, 0x20000001feffcb008040c02e94,
  0x107e180020100d36f3bb67f58ab, 0x107e180020100d36f3db67f58ab, 0x187e180020100d36f3bb67f58aa,
  0x187e180020100d36f3db67f58aa, 0xfc4b408000002890, 0x20007ffdfeffcb508040c02e94,
  0x107e180020100d36f31b77f58ab, 0x187e180020100d36f31b77f58aa, 0xfc43408000002880,
  0x20007ffdfeffc3508040402e84, 0x8000000800010, 0x107e180020100d36f39b77f58ab,
  0x187e180020100d36f39b77f58aa, 0x100000000020100000800000, 0x107e180020100d36f39b47f58ab]

def lookaheads1 : Page Nat := [
  0x187e180020100d36f39b47f58aa, 0x40000000, 0x20000001feffcb508040c02eb4,
  0x120000001feffcb508040c02eb4, 0x20000000000300100000c00624, 0x20000001feffcb100040c02e24,
  0x20000001fee388100040c02624, 0x20000001fe0380100040c00624, 0x20000001fee3ca100040c02624,
  0x20000001fe0388100040c00624, 0x20000001fe2388100040c00624, 0x20000001fe6388100040c00624,
  0x320000030c00600, 0x1feffeb408070c02e90, 0x100000001feffeb408070c02e90,
  0x100000000320100000c00600, 0x100001feffeb508040c02e90, 0x100100001feffeb508040c02e90,
  0x20000000000300000000c00604, 0x300000030400700, 0x1feffcb408070402f90,
  0x100000001feffcb408070402f90, 0x300100002c00600, 0x1feffcb508042c02e90,
  0x100000001feffcb508042c02e90, 0x300800030400600, 0x1feffcbc08070402e90,
  0x100000001feffcbc08070402e90, 0x1feffeb000070c02e00, 0x1fee3a8000070c02600,
  0x1fe03a0000070c00600, 0x1fee3ea000070c02600, 0x1fe03a8000070c00600, 0x1fe23a8000070c00600,
  0x1fe63a8000070c00600, 0x100001feffeb100040c02e00, 0x100001feffeb508070c02e90,
  0x100001fee3a8100040c02600, 0x100001fe03a0100040c00600, 0x100001fee3ea100040c02600,
  0x100001fe03a8100040c00600, 0x100001fe23a8100040c00600, 0x100001fe63a8100040c00600,
  0x1feffcb508040c02f90, 0x100000001feffcb508040c02f90, 0x300100000c00700,
  0x20000001feffcb108040c02c94, 0x1feffcb000070402f00, 0x1fee388000070402700,
  0x1fe0380000070400700, 0x1fee3ca000070402700, 0x1fe0388000070400700, 0x1fe2388000070400700,
  0x1fe6388000070400700, 0x1feffcb100042c02e00, 0x1feffeb408040402e90, 0x1fee388100042c02600,
  0x1fe0380100042c00600, 0x1fee3ca100042c02600, 0x1fe0388100042c00600, 0x1fe2388100042c00600,
  0x1fe6388100042c00600, 0x1feffcb108040c02f90, 0x1feffcb800070402e00]

def lookaheads2 : Page Nat := [
  0x1fee388800070402600, 0x1fe0380800070400600, 0x1fee3ca800070402600, 0x1fe0388800070400600,
  0x1fe2388800070400600, 0x1fe6388800070400600, 0x1feffcb100040c02f00, 0x1fee388100040c02700,
  0x1fe0380100040c00700, 0x1fee3ca100040c02700, 0x1fe0388100040c00700, 0x1fe2388100040c00700,
  0x1fe6388100040c00700, 0x1feffcbc08040c02e90, 0x100000001feffcbc08040c02e90, 0x300800000c00600,
  0x1feffcb108040c02e90, 0x1feffcb408040402f90, 0x1feffcbc08040402e90, 0x1feffcb408070c02f90,
  0x1feffcb808040c02e90, 0x300000000400700, 0x300800000400600, 0x1feffcb800040c02e00,
  0x1fee388800040c02600, 0x1fe0380800040c00600, 0x1fee3ca800040c02600, 0x1fe0388800040c00600,
  0x1fe2388800040c00600, 0x1fe6388800040c00600, 0x320000000400600, 0x1feffc3408040402c80,
  0x20000000000008100000800014, 0x8100000800310, 0x8100000800210, 0x8800000800210,
  0x7ffc00fc4b508000802a90, 0x20000000000308100000c00634, 0x20000001fe0388100040c00634,
  0x308100002c00610, 0x1fe0388100042c00610, 0x308100000c00710, 0x1fe0388100040c00710,
  0x308800000c00610, 0x1fe0388800040c00610, 0x7ffc000000100040800200,
  0x20000000000008100000800234, 0x20000000000008100000c00634, 0x20000000000208100000c00634,
  0xe00060000000010000000000000, 0x8100002800210, 0x8100002c00610, 0x208100002c00610,
  0x8100000c00710, 0x208100000c00710, 0x8000000c00680, 0x8000000c00688, 0x8000000c00698,
  0x20000030800200, 0x20000030c00600, 0x220000030c00600, 0x100000000020100000c00600,
  0x100000000220100000c00600, 0x8800000c00610]

def lookaheads3 : Page Nat := [
  0x208800000c00610, 0x20000000000000000000000224, 0x20000030000200, 0x30400300, 0x8000000c00600,
  0x30000300, 0x30400700, 0x200000030400700, 0x800030400200, 0x8000000000780, 0x20000030400200,
  0x8800000000680, 0x800030000200, 0x800030400600, 0x200800030400600, 0x28000000000680,
  0x800000000000010000000000000, 0x20000000000000000000000204, 0x8000000000700, 0x8000000000790,
  0x8800000000600, 0x8800000000690, 0x28000000000600, 0x28000000000690,
  0x20000000000000000000000604, 0x1202010000000, 0x20000000000200, 0x20000000000000000000000614,
  0x8100000800290, 0xc00600, 0x20000000000000100000000004, 0x100000000300, 0x100000000200,
  0x80000000030000000000000, 0x8000000800000, 0xc00400, 0x700, 0x800000000600, 0x20000000000600,
  0x28000000800600, 0xa, 0x1a, 0x80000000000000000008000000, 0xc00200, 8, 0x100000800200,
  0xe00000000, 0x20000000000000000040000004, 0x4000800000]

/-- The sets in pages of 64: bit `n` stands for the `n`-th kind. -/
def lookaheads : List (Page Nat) := [
  lookaheads0, lookaheads1, lookaheads2, lookaheads3]

/-- The usual target of each node, in the form of one row of moves. -/
def usualGotos : Row := [
  0, 0x3339ed27a7a49e9e50547849e9dd364764141d53447449e9cd27a725059c514c7049e9bc0806e0201b54106c,
  0x2022c0808a02022537a8816221c08086151a145428402020d27a8249ea0527a8049e9fd27a7e49e9f54127c,
  0x2026d27a9a49ea6527a9849ea5d382964e0a5542c944d524c080924562454209002023c59c8e1292344a28c,
  0x4e5aacfe0aa3f82a4fe0a83f829d216a63f829521aa43b528cf74a2128284e1aa002027ca1c9e4e1274f7e9c,
  0x3ec2eccceba4d3ae44bab84d32dd34cb6326ad4c9ab43262cd160b25062c542eb03f82bcfe0ae3f82b5216ac,
  0x12f32c4bcca4d0b2535ac833031d342c64d0b14fb0c4333b0cccec21ffb047fec0333afcccebe1e62f4dbebc,
  0x1ffb6d376da1ffb647fed81ffb5c7fed64e0b54f6ed43dbb4cf6ed23dbb44f6ed03e333d34cce1ffb35386cc,
  0x1ffbad452ea3dd3a4d2ae834ab9c768e61ffb94ccee4393b8ce3ee252cb847fee0531b7c7fede1ffb747fedc,
  0x4203ed19cfa1293e44a2f8487bdd088f6465bd44d0f43debcd07cf24183c5062f04603bc080ee4d33b534cec,
  0x34ac2c76d0a3bb42516b08393c1d1a10646f414c0f0449340d1a302475404ee50035fbfce1afe46ebf51c0fc,
  0x3e6434e350c]

end CodeAudit.Syntax.Automaton
