import CodeAudit.Syntax.Automaton.Row

/-! Where a token leads. -/
namespace CodeAudit.Syntax.Automaton

def shiftRows0 : Page Row := [
  [0], [0, 0x1c82e], [0, 0x238021], [0, 0x23c622], [0, 0x239021], [0, 0x249222], [0, 0x23d418],
  [0, 0x249418], [0, 0x146a19], [8, 0x3d418], [0, 0x145823], [0, 0x157c19], [0xb, 0x49418],
  [0, 0x157623], [0, 0xd2468], [0, 0x2d2468], [0, 0xd6668], [0, 0x2d6668], [0, 0xd6a68],
  [0, 0x2d6a68], [0, 0xd5668], [0, 0x2d5668], [0, 0xd5a68], [0, 0x2d5a68], [0, 0xd6268],
  [0, 0x2d6268], [0, 0xd6e68], [0, 0x2d6e68], [0, 0x3ce2c], [0, 0x3d02c], [0, 0x1fe2e],
  [0, 0x2022e], [0, 0xd7268], [0, 0x2d7268], [0, 0x2002e], [0, 0x1ba09], [0, 0x267a09],
  [0, 0x1d209], [0, 0x267009], [0, 0x3b438], [0x27, 0x3b639], [0x28, 0x3b00a], [0x29, 0x3b216],
  [0x2a, 0x31009], [0, 0x40238], [0x2c, 0x40439], [0x2d, 0x4000a], [0x2e, 0x48216], [0, 0x43c38],
  [0x30, 0x43e39], [0x31, 0x43a0a], [0x32, 0x48a16], [0, 0x149404], [0x34, 0xbfe2c],
  [0, 0x349404], [0, 0x42038], [0x37, 0x42239], [0x38, 0x41e0a], [0x39, 0x48616], [0, 0x42e38],
  [0x3b, 0x43039], [0x3c, 0x42c0a], [0x3d, 0x48816], [0x3e, 0x28809]]

def shiftRows1 : Page Row := [
  [0, 0x44a38], [0x40, 0x44c39], [0x41, 0x4480a], [0x42, 0x48c16], [0x2a, 0x31609],
  [0x2a, 0x3b809], [0x2a, 0x2d409], [0x46, 0x3ba05], [0, 0x3ea38], [0x48, 0x3ec39],
  [0x49, 0x3e80a], [0x4a, 0x48016], [0, 0x41238], [0x4c, 0x41439], [0x4d, 0x4100a],
  [0x4e, 0x48416], [0x43, 0x32c17], [0x43, 0x2dc17], [0x43, 0x33017], [0x33, 0x33c09],
  [0, 0x14c404], [0x54, 0xc022c], [0x43, 0x34409], [0, 0x34c404], [0, 0x14ea04], [0x58, 0xc062c],
  [0, 0x34ea04], [0, 0x150e04], [0x5b, 0xc0a2c], [0, 0x350e04], [0, 0x143604], [0, 0x239e30],
  [0, 0x343604], [0, 0x27e09], [0, 0xb8607], [0, 0xc0033], [0, 0x28009], [0, 0x28209],
  [0, 0x28409], [0, 0x233809], [0, 0x2c0033], [0, 0x51009], [0, 0x28c09], [0, 0x23ee09],
  [0, 0x28e09], [0, 0x29009], [0, 0x29209], [0, 0x29409], [0, 0x235009], [0, 0x29a09],
  [0, 0x29c09], [0, 0x29e09], [0, 0x2a009], [0, 0x235a09], [0, 0x267809], [0x2f, 0xac17],
  [0x2f, 0xae17], [0x2a, 0x107065], [0, 0xe9a01], [0x7a, 0x107807], [0, 0x2d809],
  [0x2f, 0x3cc19], [0, 0x23b809], [0x2f, 0x45817]]

def shiftRows2 : Page Row := [
  [0x2f, 0xd217], [0x2f, 0xda17], [0, 0xb9807], [0, 0xc0433], [0, 0x2c0433], [0, 0xbaa07],
  [0, 0xc0833], [0, 0x2c0833], [0, 0xbbc07], [0, 0xc0c33], [0, 0x2c0c33], [0x2f, 0x3f619],
  [0x2f, 0x40a19], [0x2f, 0x41819], [0x2f, 0x42619], [0x2f, 0x43419], [0x2f, 0x44219],
  [0x2f, 0x45019], [0x2f, 0xe217], [0x2f, 0xe417], [0x2f, 0x10817], [0x2f, 0x10a17],
  [0, 0xf7609], [0x96, 0x14380a], [0, 0x106204], [0, 0x31409], [1, 0xcbe07], [0, 0x144409],
  [0, 0x31c09], [0, 0xf8809], [0, 0x306204], [0, 0x31e09], [0, 0x32009], [0, 0x3b809],
  [0, 0x14380a], [0, 0x31ae09], [0, 0xe6601], [0, 0x23d209], [0, 0x344409], [0, 0x2bca1b],
  [0, 0x14760a], [0, 0x2bce09], [0, 0xd7c01], [0, 0x27809], [0, 0x57e09], [0xab, 0x80808],
  [0, 0x3ba05], [0, 0x31809], [0, 0x3bc1e], [0, 0x3c02c], [0, 0xcc209], [0xab, 0x136608],
  [0xab, 0x136808], [0, 0x27a09], [0, 0x58209], [0, 0x32409], [0, 0xcc409], [0, 0x212e02],
  [0, 0x22ac09], [0, 0x23d609], [0, 0x238209], [0, 0x22de09], [0, 0x2cca09], [0, 0x227c09]]

def shiftRows3 : Page Row := [
  [0, 0x233209], [0, 0x21d809], [0x63, 0xbcc17], [0, 0x14f80a], [0, 0x2bfc09], [0, 0x109c09],
  [0xc5, 0x14960a], [0, 0x28609], [0, 0x5f409], [0, 0xcc609], [0, 0x45a2c], [0xca, 0x1e217],
  [0, 0x1e417], [0, 0x109e09], [0, 0x28a09], [0, 0x5f809], [0, 0xcc809], [0, 0x267409],
  [0, 0x14960a], [0, 0x320c09], [0, 0x22b609], [0, 0x238c09], [0, 0x2ccc09], [0, 0x14ac0a],
  [0, 0x2bd009], [0, 0x29609], [0, 0x29809], [0, 0x33e09], [0, 0x267609], [0, 0x246209],
  [0, 0x22bc09], [0, 0x14d20a], [0, 0x2bd209], [0, 0x34609], [0, 0x246c09], [0, 0x38809],
  [0, 0x240609], [0xab, 0x9e608], [0, 0x5f609], [0xab, 0x13be08], [0xab, 0x13c008],
  [0, 0x267209], [0xab, 0xa1e08], [0xab, 0x13d208], [0xab, 0x13d408], [0xab, 0xa5608],
  [0xab, 0x93408], [0xab, 0x96a08], [0xab, 0xabe08], [0xab, 0xb2c08], [0, 0x50c09], [0, 0xcbe07],
  [0, 0xaa17], [0, 0x105601], [0, 0x105801], [0, 0x105a01], [0, 0xf7001], [0, 0x3ae0f],
  [0, 0xf7803], [0, 0xe3c03], [0, 0xc9e08], [0, 0x80a08], [0, 0x106a01], [0, 0x37a1e]]

def shiftRows4 : Page Row := [
  [0xff, 0x5f009], [0x100, 0x37e1e], [0x100, 0x3281e], [0x100, 0x32e1e], [0x100, 0x3481e],
  [0x100, 0x34a1e], [0x100, 0x3521e], [0x100, 0x3541e], [0x100, 0x3921e], [0x100, 0x3941e],
  [0, 0xb017], [0, 0xf7c01], [0, 0xca02f], [0, 0x80c2f], [0, 0x80e35], [0x10e, 0x2a809],
  [0, 0x81035], [0, 0x3c217], [0, 0x4c801], [0, 0x6a81e], [0, 0x141c25], [0, 0xf8601],
  [0, 0x118c01], [0, 0x5841d], [0, 0x81a08], [0, 0x37e1e], [0, 0xb417], [0, 0x119e01],
  [0, 0xf8a01], [0, 0xba17], [0, 0x81c2f], [0, 0x82035], [0, 0x82235], [0, 0x82408],
  [0x121, 0x21209], [0, 0xebe35], [0, 0x3281e], [0, 0xbe17], [0, 0xc217], [0, 0x137e08],
  [0, 0xc617], [0, 0xece35], [0, 0xed035], [0, 0x138808], [0, 0x138a08], [0, 0x32e1e],
  [0, 0xc817], [0, 0xca17], [0, 0xede35], [0, 0x33617], [0, 0x109201], [0, 0xd817], [0, 0xdc17],
  [0, 0xe017], [0, 0x3e60f], [0, 0x11ea08], [0, 0x9e808], [0, 0xefe01], [0, 0x13b62f],
  [0, 0x9ec2f], [0, 0x9ee35], [0x13c, 0x2b209], [0, 0x9f035], [0, 0x3f017]]

def shiftRows5 : Page Row := [
  [0, 0x8f601], [0, 0x6be1e], [0, 0xdf001], [0, 0x13bc01], [0, 0x9fa08], [0, 0xf0a01],
  [0, 0x9fc2f], [0, 0xa0035], [0, 0xa0235], [0, 0xa0408], [0x149, 0x22009], [0, 0x120a35],
  [0, 0x121235], [0, 0x121435], [0, 0x121835], [0, 0x121c01], [0, 0x3fe0f], [0, 0x13cc08],
  [0, 0xa2008], [0, 0xff201], [0, 0x13ce2f], [0, 0xa222f], [0, 0xa2435], [0x156, 0x2b809],
  [0, 0xa2635], [0, 0x40817], [0, 0x86a01], [0, 0x6d21e], [0, 0xf3001], [0, 0xa2a08],
  [0, 0xff601], [0, 0xa2c2f], [0, 0xa3035], [0, 0xa3235], [0, 0xa3408], [0x162, 0x22e09],
  [0, 0x123001], [0, 0x40e0f], [0, 0x101608], [0, 0xa5808], [0, 0xf4401], [0, 0x10182f],
  [0, 0xa602f], [0, 0xa6235], [0x16b, 0x2be09], [0, 0xa6435], [0, 0x41617], [0, 0xa6601],
  [0, 0x6e61e], [0, 0xf4c01], [0, 0xa6a08], [0, 0xf4e01], [0, 0xa6c2f], [0, 0xa7035],
  [0, 0xa7235], [0, 0xa7408], [0x177, 0x23c09], [0, 0x123e01], [0, 0x41c0f], [0, 0xc6c08],
  [0, 0x93608], [0, 0xc6e2f], [0, 0x9382f], [0, 0x93a35]]

def shiftRows6 : Page Row := [
  [0x17f, 0x2c209], [0, 0x93c35], [0, 0x42417], [0, 0xa9201], [0, 0x6fa1e], [0, 0xf5e01],
  [0, 0x94008], [0, 0x9422f], [0, 0x94635], [0, 0x94835], [0, 0x94a08], [0x18a, 0x24a09],
  [0, 0x42a0f], [0, 0x96c08], [0, 0x96e2f], [0, 0x97035], [0x18f, 0x2c609], [0, 0x97235],
  [0, 0x43217], [0, 0x7d801], [0, 0x70e1e], [0, 0x97608], [0, 0x9782f], [0, 0x97c35],
  [0, 0x97e35], [0, 0x98008], [0x199, 0x25809], [0, 0x4380f], [0, 0xac008], [0, 0xac22f],
  [0, 0xac435], [0x19e, 0x2ca09], [0, 0xac635], [0, 0x44017], [0, 0x99001], [0, 0x7221e],
  [0, 0xaca08], [0, 0xacc2f], [0, 0xad035], [0, 0xad235], [0, 0xad408], [0x1a8, 0x26409],
  [0, 0x4460f], [0, 0xb2e08], [0, 0xb302f], [0, 0xb3235], [0x1ad, 0x2ce09], [0, 0xb3435],
  [0, 0x44e17], [0, 0xae201], [0, 0x7361e], [0, 0xb3808], [0, 0xb3a2f], [0, 0xb3e35],
  [0, 0xb4035], [0, 0xb4208], [0x1b7, 0x27009], [0, 0xb5001], [0, 0xb6801], [0, 0xe617],
  [0, 0xea17], [0, 0xf017], [0, 0x3481e], [0, 0xf417]]

def shiftRows7 : Page Row := [
  [0, 0xf817], [0, 0xfc17], [0, 0x34a1e], [0, 0xfe17], [0, 0x10017], [0, 0x34e17], [0, 0x3521e],
  [0, 0x3541e], [0, 0x35817], [0, 0x10c17], [0, 0x104601], [0, 0x114601], [0, 0x114801],
  [0, 0x3921e], [0, 0x158e25], [0, 0x6661d], [0, 0x3941e], [0, 0x66a1d], [0x114, 0xc309057a1d],
  [0, 0x3579a115a01], [0x1ce, 0xdc09066e1d], [8, 0x51608c38021], [8, 0x51608c3c622],
  [0xb, 0x55d88c39021], [0xb, 0x55d88c49222], [0xa, 0xf188838021], [0x51, 0x1328bc2da09],
  [0xd, 0x12488839021], [0x51, 0x23e0bc2e609], [0x51, 0x21f0bc2ea09], [0x51, 0x29e0bc2ee09],
  [0x51, 0x2a50bc2f209], [0x51, 0x1fa8bc2f609], [0x51, 0x2648bc2fa09], [0x51, 0x2b90bc2fe09],
  [0x51, 0x2d48bc30209], [0x51, 0x2da8bc30609], [0xaa, 0x50501905204], [0x2f, 0x45b85c37809],
  [0x10f, 0x19a0755981c], [0x7a, 0x4d802d07a07], [0x2f, 0x2f85c38609], [0x1e9, 0xca17],
  [0x1e9, 0xf417], [0x1e9, 0x10017], [0x33, 0x8b824a3408], [0, 0x4e40d939031],
  [0, 0x4e48d939231], [0x13d, 0x19a0755981c], [0x157, 0x19a0755981c], [0x16c, 0x19a0755981c],
  [0x180, 0x19a0755981c], [0x190, 0x19a0755981c], [0x19f, 0x19a0755981c], [0x1ae, 0x19a0755981c],
  [0x2f, 0x49485c38e09], [0, 0x4f98d93e631], [0, 0x4fa0d93e831], [0, 0x4fb8d93ee31],
  [0, 0x4fc0d93f031], [0, 0x4fd8d93f631], [0, 0x4fe0d93f831], [1, 0x2c85c1d007], [0x1fe, 0xe817]]

def shiftRows8 : Page Row := [
  [0, 0x3e516c1be34], [0x200, 0xf985b], [0x2f, 0x3405c3e00a], [0x202, 0x10617],
  [0, 0xbe616e1be34], [0, 0x3ee0d4bd809], [0, 0x42b8d4be209], [0, 0x4378d4bec09],
  [0, 0x4430d4bf609], [0, 0x16519cbca1b], [0x209, 0x5ae67], [0x209, 0x60867], [0x209, 0x62267],
  [0xd7, 0x2e2024fb208], [0xdf, 0x3ed0bcb8a09], [0xd7, 0x2e4024fce08], [0xd7, 0x2e68250a808],
  [0xdf, 0x42a8bcb9c09], [0xd7, 0x2e88250c208], [0xd7, 0x2eb0250d808], [0xdf, 0x4368bcbae09],
  [0xd7, 0x2ed0250f208], [0xd7, 0x2ef82510608], [0xdf, 0x4420bcbc009], [0xd7, 0x2f182512008],
  [0, 0x13819410e02], [0, 0x13899411002], [0, 0x41f99858665], [0, 0x46505c37c09],
  [0, 0xc882545a08], [0, 0x2e05c1d007], [0x21e, 0xee17], [0, 0x2078d42aa09], [0, 0x8502482608],
  [0, 0x1328bc2da09], [0, 0x3af0d4f8417], [0x223, 0xecc35], [0x223, 0x120835], [0x223, 0x121035],
  [0x223, 0x46b170eba35], [0x223, 0x49a97120635], [0, 0xca82546e08], [0, 0x8582482a08],
  [0, 0x8602482c08], [0, 0x1338bc2e009], [0, 0x3b68bc1d809], [0x22d, 0xf1c2f], [0x22d, 0x10022f],
  [0x22d, 0xf582f], [0, 0x3ed8d4bd609], [0, 0x2e3024fc008], [0, 0x3f08bcb8e09],
  [0, 0x3f20d4bda09], [0, 0x3f30d4bdc09], [0, 0x2e4824fd808], [0, 0x44c1985fa65],
  [0, 0x47919411202], [0, 0x47c99411402], [0, 0x47f85c38a09], [0, 0x27f8d42b409],
  [0, 0x88824a0608], [0, 0x23e0bc2e609], [0, 0x89024a0a08], [0, 0x89824a0c08]]

def shiftRows9 : Page Row := [
  [0, 0x23f0bc2e809], [0, 0x42b0d4be009], [0, 0x2e78250b408], [0, 0x42d8bcba009],
  [0, 0x42f0d4be409], [0, 0x4300d4be609], [0, 0x2e90250cc08], [0, 0x14299411602],
  [0, 0x14399411802], [0, 0x28b8d42ba09], [0, 0x8c024a3608], [0, 0x21f0bc2ea09],
  [0, 0x8c824a3a08], [0, 0x8d024a3c08], [0, 0x2210bc2ec09], [0, 0x4370d4bea09],
  [0, 0x2ec0250e408], [0, 0x4398bcbb209], [0, 0x43b0d4bee09], [0, 0x43c0d4bf009],
  [0, 0x2ed8250fc08], [0, 0x14619411a02], [0, 0x14699411c02], [0, 0x29b8d42c009],
  [0, 0x8f824a7608], [0, 0x29e0bc2ee09], [0, 0x90024a7c08], [0, 0x90824a7e08],
  [0, 0x2a08bc2f009], [0, 0x4428d4bf409], [0, 0x2f082511208], [0, 0x4450bcbc409],
  [0, 0x4468d4bf809], [0, 0x4478d4bfa09], [0, 0x2f202512a08], [0, 0x14899411e02],
  [0, 0x14919412002], [0, 0x2510d42c409], [0, 0x9302494c08], [0, 0x2a50bc2f209],
  [0, 0x9382495008], [0, 0x9402495208], [0, 0x2a60bc2f409], [0, 0x4f619412202],
  [0, 0x4f699412402], [0, 0x25e8d42c809], [0, 0x9682498208], [0, 0x1fa8bc2f609],
  [0, 0x9702498608], [0, 0x9782498808], [0, 0x1fc8bc2f809], [0, 0x14b19412602],
  [0, 0x14b99412802], [0, 0x2b38d42cc09], [0, 0x99824ad608], [0, 0x2648bc2fa09],
  [0, 0x9a024ada08], [0, 0x9a824adc08], [0, 0x2658bc2fc09], [0, 0x14d99412a02],
  [0, 0x14e19412c02], [0, 0x2cf0d42d009], [0, 0x9c824b4408], [0, 0x2b90bc2fe09]]

def shiftRows10 : Page Row := [
  [0, 0x9d024b4808], [0, 0x9d824b4a08], [0, 0x2ba0bc30009], [0, 0x2d48bc30209],
  [0, 0x2d58bc30409], [0, 0x2da8bc30609], [0, 0x2db8bc30809], [0, 0x750980b617],
  [0, 0x758980bc17], [0, 0x768980c417], [0, 0x770980cc17], [0, 0x3e80c8fa001],
  [0, 0x396178e585d], [0, 0x3ee978fba5d], [0, 0x3f1178fc45d], [0, 0x4288c90a201],
  [0, 0x3c9178f245d], [0, 0x42c1790b05d], [0, 0x42e1790b85d], [0, 0x4348c90d201],
  [0, 0x3cf178f3c5d], [0, 0x4381790e05d], [0, 0x43a1790e85d], [0, 0x4088c902201],
  [0, 0x3d6978f5a5d], [0, 0x44397910e5d], [0, 0x4459791165d], [0, 0x810980ec17],
  [0, 0x818980f217], [0, 0x820980fa17], [0, 0x8289810217], [0x4f, 0x6641d56507028609],
  [0, 0x5801d50f0703c416], [0, 0x25801dd0f0723c416], [0, 0x6641d56507045c16],
  [0, 0x26641dd6507245c16], [0, 0x6681d56607046816], [0, 0x26681dd6607246816],
  [0x2f, 0xce170f78283dc09], [0x2a6, 0x4105c49609], [0xa8, 0xd41711c858b7e09],
  [0, 0x1e03307785d49a04], [0x2a9, 0x1822c], [0, 0x1ee3307b05d4ee04], [0x2ab, 0x45e2c],
  [0x223, 0x11885c3ab0d50722c], [0, 0x1ce3307285d44604], [0x2ae, 0x1cc2c], [0x2ae, 0x9217],
  [0x2ae, 0x9417], [0x2ae, 0x9617], [0x2ae, 0x9817], [0x2ae, 0x9a17], [0x2ae, 0x9c17],
  [0x2ae, 0x9e17], [0x2ae, 0xa017], [0, 0x1e83307985d4c804], [0x2b8, 0x3b08bc1d809],
  [0x2b9, 0xf162f], [0x2b9, 0xffc2f], [0x2b9, 0xf542f], [0, 0xd61711c858b8009],
  [0x223, 0x12605c47d8d512e2c], [0, 0xd78b869e2707181d4c004]]

def shiftRows11 : Page Row := [
  [0, 0xd90b86f02707d81d52604], [0, 0xd98b87042707e01d54004], [0, 0xd70b86b42707c01d49004],
  [0, 0xd80b86c82707c81d4e604], [0, 0xd88b86dc2707d01d50a04], [0, 0xda0b87182707e81d55a04],
  [0, 0xda8b872c2707f01d56804], [0x3a, 0x19a0755981c0ef85c29609],
  [0x4b, 0x16007543c1c09e02480808], [0x2c8, 0xa1e08], [0x2c8, 0x9e608], [0x2c8, 0xa5608],
  [0x2c8, 0x93408], [0x2c8, 0x96a08], [0x2c8, 0xabe08], [0x2c8, 0xb2c08], [0x2c8, 0x8482482408],
  [0x2c8, 0x88024a0408], [0x2c8, 0x8b824a3408], [0x2c8, 0x8f024a7408], [0x2c8, 0x9282494a08],
  [0x2c8, 0x9602498008], [0x2c8, 0x99024ad408], [0x2c8, 0x9c024b4208],
  [0, 0xe78c140e2d5020954341c], [0x2d8, 0x158a2d5630955921c], [0, 0x38e9a8e3a6938e968e3a59],
  [0, 0xb8e9aae3a69b8e96ae3a59], [0x2bf, 0x6983c1a60ec6983a1a60c06980b], [0x2dc, 0x1a80d86a031],
  [0x2dd, 0x1a68fc69a0d], [0x2de, 0x6a63e], [0x2df, 0x6a43d], [0x2e0, 0x6a233],
  [0x2c0, 0x6ea3c1ba8ec6ea3a1ba8c06ea0b], [0x2e2, 0x1bc8d86f231], [0x2e3, 0x1bb0fc6ec0d],
  [0x2e4, 0x6f83e], [0x2e5, 0x6f63d], [0x2e6, 0x6f433], [0x2c1, 0x6fe3c1bf8ec6fe3a1bf8c06fe0b],
  [0x2e8, 0x1c18d870631], [0x2e9, 0x1c00fc7000d], [0x2ea, 0x70c3e], [0x2eb, 0x70a3d],
  [0x2ec, 0x70833], [0x2c2, 0x6ae3c1ab8ec6ae3a1ab8c06ae0b], [0x2ee, 0x1ad8d86b631],
  [0x2ef, 0x1ac0fc6b00d], [0x2f0, 0x6bc3e], [0x2f1, 0x6ba3d], [0x2f2, 0x6b833],
  [0x2c3, 0x6c23c1b08ec6c23a1b08c06c20b], [0x2f4, 0x1b28d86ca31], [0x2f5, 0x1b10fc6c40d],
  [0x2f6, 0x6d03e], [0x2f7, 0x6ce3d], [0x2f8, 0x6cc33], [0x2f9, 0xc48b943004],
  [0x2f9, 0xd78b94c004], [0x2f9, 0xd70b949004], [0x2f9, 0xdb0b956a04], [0x2f9, 0xd98b954004],
  [0x2f9, 0xda0b955a04]]

def shiftRows12 : Page Row := [
  [0x2f9, 0xda8b956804], [0x2f9, 0xd88b950a04], [0x2f9, 0xd90b952604],
  [0x2c4, 0x6d63c1b58ec6d63a1b58c06d60b], [0x303, 0x1b78d86de31], [0x304, 0x1b60fc6d80d],
  [0x305, 0x6e43e], [0x306, 0x6e23d], [0x307, 0x6e033], [0x2c5, 0x7123c1c48ec7123a1c48c07120b],
  [0x309, 0x1c68d871a31], [0x30a, 0x1c50fc7140d], [0x30b, 0x7203e], [0x30c, 0x71e3d],
  [0x30d, 0x71c33], [0x2c6, 0x7263c1c98ec7263a1c98c07260b], [0x30f, 0x1cb8d872e31],
  [0x310, 0x1ca0fc7280d], [0x311, 0x7343e], [0x312, 0x7323d], [0x313, 0x73033],
  [0, 0x134a3a1a589c67c0b15b01d15e01], [0x315, 0x3aa17], [0x315, 0x33417], [0x315, 0x3e217],
  [0x315, 0x3fc17], [0x315, 0x40c17], [0x315, 0x41a17], [0x315, 0x42817], [0x315, 0x43617],
  [0x315, 0x44417], [0x315, 0x34c17], [0x315, 0x35617], [0, 0x13b03a1d009c67e0b15d81d09a01],
  [0x321, 0x137208], [0, 0x2e346ab8d1a6e345ab8d1661bc34],
  [0, 0x1e69ace346a38d1a4e345a38d1641bc34], [0x324, 0x7a26b], [0x324, 0x8e26b], [0x324, 0x8ee6b],
  [0x324, 0x9026b], [0x324, 0x9086b], [0x324, 0x12346b], [0x324, 0x12366b], [0x324, 0x91a6b],
  [0x324, 0x9326b], [0x324, 0x8a66b], [0x324, 0x8a86b], [0x324, 0x8aa6b], [0x324, 0x8b06b],
  [0x324, 0x99c6b], [0x324, 0x9a66b], [0x324, 0xaec6b], [0x324, 0xaf46b],
  [0x2e1, 0x1a012069c471a711869c451a711069c431a710869c4150c8dc69c1e], [0x336, 0xc48b943004],
  [0x2e7, 0x1a21206ee471bb9186ee451bb9106ee431bb9086ee415430dc6ee1e],
  [0x2ed, 0x1a2920702471c0918702451c0910702431c09087024154a0dc7021e], [0x339, 0xd90b952604],
  [0x2f3, 0x1a09206b2471ac9186b2451ac9106b2431ac9086b2415248dc6b21e],
  [0x2f9, 0x1a11206c6471b19186c6451b19106c6431b19086c6415308dc6c61e],
  [0x308, 0x1a19206da471b69186da451b69106da431b69086da4153a0dc6da1e],
  [0x30e, 0x1a3120716471c5918716451c5910716431c5908716415508dc7161e], [0x33e, 0xd70b949004]]

def shiftRows13 : Page Row := [
  [0x314, 0x1a392072a471ca91872a451ca91072a431ca90872a415570dc72a1e], [0x340, 0xd88b950a04],
  [0, 0x1a012069c471a711869c451a711069c431a710869c4150c8dc69c1e],
  [0, 0x9a012269c479a711a69c459a711269c439a710a69c41d0c8de69c1e],
  [0, 0x1a11206c6471b19186c6451b19106c6431b19086c6415308dc6c61e],
  [0, 0x9a11226c6479b191a6c6459b19126c6439b190a6c641d308de6c61e],
  [0, 0x1a3120716471c5918716451c5910716431c5908716415508dc7161e],
  [0, 0x9a3122716479c591a716459c5912716439c590a71641d508de7161e],
  [0, 0x1a21206ee471bb9186ee451bb9106ee431bb9086ee415430dc6ee1e],
  [0, 0x9a21226ee479bb91a6ee459bb9126ee439bb90a6ee41d430de6ee1e],
  [0, 0x1a2920702471c0918702451c0910702431c09087024154a0dc7021e],
  [0, 0x9a2922702479c091a702459c0912702439c090a70241d4a0de7021e],
  [0, 0x1a392072a471ca91872a451ca91072a431ca90872a415570dc72a1e],
  [0, 0x9a392272a479ca91a72a459ca91272a439ca90a72a41d570de72a1e],
  [0, 0x1a09206b2471ac9186b2451ac9106b2431ac9086b2415248dc6b21e],
  [0, 0x9a09226b2479ac91a6b2459ac9126b2439ac90a6b241d248de6b21e],
  [0, 0x1a19206da471b69186da451b69106da431b69086da4153a0dc6da1e],
  [0, 0x9a19226da479b691a6da459b69126da439b690a6da41d3a0de6da1e],
  [0x16, 0xed8623b6184ed860395978e565d2f50d0ed8324e38c4b842e4e309d38c0b2e081cd7a01],
  [0x352, 0x3585c47216], [0x353, 0xde17], [0x352, 0xeee623bb984eee603bb8c8d7c01],
  [0x355, 0x3bc188ef0613bc180ef032], [0x355, 0x4711891c4614711811c4324fc89d3f20b],
  [0x357, 0xfa435], [0x357, 0xfc635], [0x357, 0xfca35], [0x357, 0xfd435], [0x357, 0xfd635],
  [0x357, 0x10a635], [0x357, 0x10ba35], [0x357, 0x10be35], [0x357, 0x10c835], [0x357, 0x10ca35],
  [0x357, 0x10d635], [0x357, 0x10ea35], [0x357, 0x10ee35], [0x357, 0x10f835], [0x357, 0x10fa35],
  [0x357, 0x110435], [0x357, 0x111835], [0x357, 0x111c35], [0x357, 0x112635], [0x357, 0x112835],
  [0x357, 0x35a9a102062408185020603d5978f565d2fc8d1020324fd0c4bba2e2ee01ce1801],
  [0x36c, 0x102662409985026604098c8e8001], [0x36d, 0x40a1890286140a18102832],
  [0x1a, 0xfe0623f8184fe0603c6978f1a5d2f78d0fe0324f90c4b962e4f889d3e20b2e501cdf801],
  [0x36f, 0xf9e08], [0x36f, 0xfbc08], [0x36f, 0xfc008], [0x36f, 0xfd008], [0x36f, 0xfd808],
  [0x36f, 0xfda08], [0x36f, 0x10a008], [0x36f, 0x10b208], [0x36f, 0x10b408], [0x36f, 0x10c408],
  [0x36f, 0x10cc08], [0x36f, 0x10ce08], [0x36f, 0x10d008], [0x36f, 0x10e208], [0x36f, 0x10e408],
  [0x36f, 0x10f408]]

def shiftRows14 : Page Row := [
  [0x36f, 0x10fc08], [0x36f, 0x10fe08], [0x36f, 0x110008], [0x36f, 0x111008], [0x36f, 0x111208],
  [0x36f, 0x112208], [0x36f, 0x112a08], [0x36f, 0x112c08],
  [0x36f, 0xfe8623fa184fe8603fa0c8e6601], [0x388, 0x3fa988fea613fa980fea32],
  [0x20, 0x100062400185000603cd978f365d2fa0d1000324fb0c4ba82e4fa89d3ea0b2e981ce0001],
  [0x38a, 0xfa22f], [0x38a, 0xfc22f], [0x38a, 0xfd22f], [0x38a, 0x10a42f], [0x38a, 0x10b62f],
  [0x38a, 0x10c62f], [0x38a, 0x10d42f], [0x38a, 0x10e62f], [0x38a, 0x10f62f], [0x38a, 0x11022f],
  [0x38a, 0x11142f], [0x38a, 0x11242f], [0x38a, 0x100a6240298500a604028c8e7801],
  [0x397, 0x40318900c6140318100c32],
  [0, 0x180560601541805406014c180520601441805006013c1804e0601341804c06012c1804a05f8b01c417],
  [0x399, 0x1c209], [0x399, 0x1b809],
  [0xe,
   0x1ff9787fe5d1ff960692401a48d817a341a48c421c2e2008ac8002a2000708001a2000307420b08681c7fe01,
   0x1ff9887fe611ff9801385f], [0x39c, 0x6aa37],
  [0x39c, 0x1365f3259243a0371e78ac79c2a1e707079c1a1e70307a001], [0x39e, 0x3a40d],
  [0x39e, 0x3a605], [0x39e, 0x3ac05], [0x39e, 0x1484271cf82c83401],
  [0x39e, 0x1305f0a995c1782e12d8ac4b42a12d0704b41a12d0306900b05d81c49a01],
  [0x3a3, 0x238ac3762a5030a540a284d005533e144cf04c2a4120dc8442d2100e60380a20c38c81504e03],
  [0x3a4, 0x4e265], [0x3a4, 0x4e465], [0x3a4, 0x11f265], [0x3a4, 0x120465], [0x3a4, 0x50e65],
  [0x3a4, 0x51465], [0x3a4, 0x51a65], [0x3a4, 0x51e65], [0x3a4, 0x52465], [0x3a4, 0x52865],
  [0x3a4, 0x13da65], [0x3a4, 0x13de65], [0x3a4, 0x52e65], [0x3a4, 0x53265], [0x3a4, 0x53865],
  [0x3a4, 0x53c65], [0x3a4, 0x1198dcc65], [0x3a4, 0x199849c65], [0x3a4, 0x219854065],
  [0x3a4, 0x299858c65], [0x3a4, 0x319858e65], [0x3a4, 0x399859865], [0x3a4, 0x41985a265],
  [0x3a4, 0x49985a665], [0x3a4, 0x51985a865], [0x3a4, 0x59985b465], [0x3a4, 0x619854865]]

def shiftRows15 : Page Row := [
  [0x3a4, 0x69984e665], [0x3a4, 0x71985b865], [0x3a4, 0x79985c065], [0x3a4, 0x81985c465],
  [0x3a4, 0x899856e65], [0x3a4, 0x919854c65], [0x3a4, 0x99985cc65], [0x3a4, 0xa1984ea65],
  [0x3a4, 0xa9984ec65], [0x3a4, 0xb99855065], [0x3a4, 0xc19939465], [0x3a4, 0xd99939865],
  [0x3a4, 0xe19939c65], [0x3a4, 0xf1984f265], [0x3a4, 0xf9993a065], [0x3a4, 0x101993a465],
  [0x3a4, 0x109993aa65], [0x3a4, 0x111984a865], [0x3a4, 0x1199855665], [0x3a4, 0x1219860065],
  [0x3a4, 0x1299860265], [0x3a4, 0x1319860c65], [0x3a4, 0x1399861665], [0x3a4, 0x1419861a65],
  [0x3a4, 0x1499861c65], [0x3a4, 0x1519862865], [0x3a4, 0x1599855e65], [0x3a4, 0x161984fa65],
  [0x3a4, 0x1699862c65], [0x3a4, 0x1719863465], [0x3a4, 0x1799863865], [0x3a4, 0x1819857265],
  [0x3a4, 0x1899856265], [0x3a4, 0x1919864065], [0x3a4, 0x199984fe65], [0x3a4, 0x1a19850065],
  [0x3a4, 0x1b19856665], [0x3a4, 0x1d19850665], [0x3a4, 0x1d998e1c65],
  [0x3a4, 0xe78c140e2d50209430a2450188039c1f15e0743741c02986839a16],
  [0x3e7, 0x46619d58a2d56309436e245620804901f19b0743961c02a06848e16], [0x3e8, 0x4f667],
  [0x3e8, 0x51267], [0x3e8, 0x51c67], [0x3e8, 0x13dc67], [0x3e8, 0x52667], [0x3e8, 0x53067],
  [0x3e8, 0x53a67], [0x3e8, 0x11b467], [0x3e8, 0x4f867], [0x3e8, 0x51667], [0x3e8, 0x52067],
  [0x3e8, 0x52a67], [0x3e8, 0x13e067], [0x3e8, 0x53467], [0x3e8, 0x53e67],
  [0x3a4, 0x2c661751941325f06d8b80902b0e10a94222712e0704b81a0290306ac0b06c01c49801],
  [0x3f8, 0xc9985dc65], [0x3f8, 0xd1985e465], [0x3f8, 0xe9985ea65], [0x3f8, 0x1a99864865],
  [0x3f8, 0x1b99865065], [0x3f8, 0x1c19865865], [0x3f8, 0x1c99865e65]]

def shiftRows16 : Page Row := [
  [0x16,
   0x284978a125d284960744401d10d8190341d10c420e2e2860aca162a285870a161a28583073a0b08301ca1201,
   0x284988a126128498015a5f], [0x400, 0x6d437],
  [0x400, 0x3405f3190acc622a318870c621a318830c7a01],
  [0x400, 0x2e45f3118acc442a311070c441a311030c4801],
  [0x400, 0x1345f1308ac4c02a1300704c01a1300304c401], [0x404, 0x4d601],
  [0x400, 0x1545f2760ac9d62a2758709d61a275830b0201], [0x406, 0xa1401],
  [0x400, 0x31a5f3148acc502a314070c501a314030c5401],
  [0x400, 0x13a5f2160ac8562a2158708561a2158309ea01], [0x409, 0x88a01],
  [0x400, 0x2e25f30d8acc342a30d070c341a30d030c3801],
  [0x400, 0x1645f2c88acb202a2c8070b201a2c8030b0401], [0x40c, 0xb5a01],
  [0x40c, 0x2bc0acaee2a2bb870aee1a2bb830b0001],
  [0x400, 0x13e5f2480ac91e2a24787091e1a24783099e01],
  [0x40f, 0x2708ac9c02a2700709c01a2700309c401],
  [0x400, 0x14c5f2a78aca9c2a2a7070a9c1a2a7030a5e01], [0x411, 0xaf201],
  [0x411, 0x2ab8acaac2a2ab070aac1a2ab030afc01],
  [0x400, 0x1745f2dd0acb722a2dc870b721a2dc830b7601],
  [0x400, 0x1445f32b9244643723a8ac8e82a23a0708e81a23a0308ec01], [0x415, 0x3a827],
  [0x416, 0x81e35], [0x416, 0x82835], [0x416, 0x9fe35], [0x416, 0xa0835], [0x416, 0xa2e35],
  [0x416, 0xa3835], [0x416, 0xa6e35], [0x416, 0xa7a35], [0x416, 0x94435], [0x416, 0x94e35],
  [0x416, 0x97a35], [0x416, 0x98435], [0x416, 0xace35], [0x416, 0xad835], [0x416, 0xb3c35],
  [0x416, 0xb4635], [0x415, 0x1c007], [0x415, 0x119217], [0x415, 0x11b217], [0x415, 0xc017],
  [0x415, 0x120e17], [0x415, 0x126217], [0x415, 0xf617], [0x415, 0x1422271a502c8d801],
  [0x400, 0x30e5f0638b8c4e2b3130a8c4c1c313068c4c0c06101cc5c01],
  [0x400, 0x5897c1b42e2a90acaa22a2a8870aa21a2a88306900b06a81caf801],
  [0x400, 0x5c97c1a62e2d78acb5c2a2d7070b5c1a2d70307600b06601cb6201],
  [0x400, 0xa897c1b22e3060acc162a305870c161a3058307620b06901cc2001],
  [0x400, 0xce97c1a02e3160acc562a315870c561a3158307640b06481cc7401], [0x433, 0x117c08],
  [0x433, 0x11ee08], [0x400, 0xd097c1ac2e31a0acc662a319870c661a3198307660b06781cc7e01],
  [0x12,
   0x2561789585d256160754401d50d81a2341d50c426e2e2590ac9622a2588709621a2588307480b09801c95801,
   0x2561889586125618014e5f], [0x437, 0x71037],
  [0x437, 0x1405f32d124478372328ac8c82a2320708c81a2320308cc01], [0x439, 0x46a05],
  [0x439, 0x1ea5711e82c25607], [0x439, 0x1485f2198ac8642a2190708641a21903086801],
  [0x43c, 0x2c50acb122a2c4870b121a2c4830b1601],
  [0x439, 0x4f17c1ea570668b88542b2148a88521c2148688520c06301c88801],
  [0x10,
   0x2451789145d245160750401d40d819c341d40c422a2e24b0ac92a2a24a87092a1a24a83075e0b09b01c91401,
   0x2451889146124518015e5f]]

def shiftRows17 : Page Row := [
  [0x43f, 0x6fc37], [0x43f, 0x1465f32f124474372170ac85a2a00007085a1a21683085e01],
  [0x441, 0x85a1c], [0x442, 0xcb249], [0x443, 0x7a95c804350ea09c4660b50a02421007],
  [0x444, 0x2788d548a09], [0x444, 0x2868d54ba09], [0x444, 0x2948d54e009], [0x444, 0x24b8d550409],
  [0x444, 0x2598d552009], [0x444, 0x2ae8d553a09], [0x444, 0x2ca0d555409],
  [0x1a,
   0x2aa978aaa5d2aa960758401d60d81a8341d60c42382e2ae0acab62a2ad870ab61a2ad83074e0b08a01caaa01,
   0x2aa988aaa612aa9801685f], [0x44c, 0x3ce2c], [0x44c, 0x72437],
  [0x44c, 0x14a5f32d92447c372490ac9222a2488709221a24883092601], [0x44f, 0x3e405],
  [0x44f, 0x146e08], [0x44f, 0x147208], [0x44f, 0x14da271d302c88c01],
  [0x44f, 0x2ae5711c02c23a07], [0x44f, 0x1505f2370ac8da2a2368708da1a2368308de01],
  [0x455, 0x2c20acb062a2c1870b061a2c1830b0a01],
  [0x454, 0x16a5f00015c9f62b27d0a84562727d0709f41a27d0309f801], [0x457, 0x82a08],
  [0x457, 0x82c08], [0x457, 0x82e08], [0x457, 0x83008], [0x457, 0xa0a08], [0x457, 0xa0c08],
  [0x457, 0xa0e08], [0x457, 0xa1008], [0x457, 0xa3a08], [0x457, 0xa3c08], [0x457, 0xa3e08],
  [0x457, 0xa4008], [0x457, 0xa7c08], [0x457, 0xa7e08], [0x457, 0xa8408], [0x457, 0xa8608],
  [0x457, 0x95008], [0x457, 0x95208], [0x457, 0x95408], [0x457, 0x95608], [0x457, 0x98608],
  [0x457, 0x98808], [0x457, 0x98a08], [0x457, 0x98c08], [0x457, 0xada08], [0x457, 0xadc08],
  [0x457, 0xade08], [0x457, 0xae008], [0x457, 0xb4808], [0x457, 0xb4a08], [0x457, 0xb4c08],
  [0x457, 0xb4e08], [0x457, 0x534024a2808],
  [0x14,
   0x2739789ce5d27396073c401cf0d8188341cf0c42462e2780ac9de2a2778709de1a2778307520b08d81c9ce01,
   0x2739889ce6127398016c5f], [0x479, 0x3ce2c], [0x479, 0x6c037],
  [0x479, 0x15c5f32a124452372440ac90e2a00007090e1a24383091201], [0x47c, 0x90e1c],
  [0x47d, 0xcaa49], [0x47e, 0xab95c3a20b27282021e07]]

def shiftRows18 : Page Row := [
  [0x47f, 0x90a08], [0x47f, 0x83a08], [0x47f, 0xa8e08], [0x47f, 0xa5a08], [0x47f, 0xaa608],
  [0x47f, 0xb1a08], [0x47f, 0x9a808],
  [0x47f, 0x5497c1862e2358ac8d42a2350708d41a2350304be0805f01c8e001], [0x487, 0x9d408],
  [0x487, 0xc5e08], [0x487, 0xa4808], [0x487, 0x91c08], [0x487, 0xc7608], [0x487, 0xb6408],
  [0x487, 0xc8008], [0x487, 0xc2208], [0x487, 0xafa08], [0x487, 0x4dc08],
  [0x47f, 0x1425f00015c8162b2050a8456272050708141a2050314500920482081801],
  [0x492, 0x5288249f208], [0x492, 0x534024a2808], [0x492, 0x53d824a6808], [0x492, 0x54602493e08],
  [0x492, 0x54c82497408], [0x492, 0x553024ac808], [0x492, 0x559824b3608],
  [0x20,
   0x2c7978b1e5d2c796075c401d70d81ae341d70c42622e2c98acb242a2c9070b241a2c90307560b09101cb1e01,
   0x2c7988b1e612c79801705f], [0x49a, 0x73837],
  [0x49a, 0x1665f32e12447e372ac8acab02a2ac070ab01a2ac030ab401], [0x49c, 0x46005],
  [0x49c, 0x32617], [0x49c, 0x32c17], [0x49c, 0x2d617], [0x4a0, 0x4cc2f], [0x4a0, 0x4d22f],
  [0x4a0, 0x8fa2f], [0x4a0, 0x8fe2f], [0x4a0, 0x8822f], [0x4a0, 0x8862f], [0x4a0, 0xa802f],
  [0x4a0, 0xa882f], [0x4a0, 0xa962f], [0x4a0, 0xa9a2f], [0x4a0, 0x7f02f], [0x4a0, 0x7f42f],
  [0x4a0, 0x9942f], [0x4a0, 0x9982f], [0x4a0, 0xae62f], [0x4a0, 0xaea2f], [0x4a0, 0xb542f],
  [0x4a0, 0xb582f], [0x4a0, 0xb6c2f], [0x4a0, 0xb702f], [0x49c, 0x14b4271d182c90601],
  [0x49c, 0x2b05711d82c24807], [0x49c, 0x1565f23c8ac8f02a23c0708f01a23c0308f401],
  [0x4b7, 0x2c38acb0c2a2c3070b0c1a2c3030b1001],
  [0x18,
   0x290978a425d29096074a401d28d8196341d28c42542e2940aca4e2a293870a4e1a29383075a0b09481ca4201,
   0x290988a426129098016e5f], [0x4b9, 0x6e837],
  [0x4b9, 0x1605f32e92446e372578ac95c2a00007095c1a25703096001], [0x4bb, 0x95c1c],
  [0x4bc, 0xcb049], [0x4bd, 0xac15c9cc2f11502c22c07], [0x4be, 0x83c2f]]

def shiftRows19 : Page Row := [
  [0x4be, 0x90c2f], [0x4be, 0xa5c2f], [0x4be, 0xa902f], [0x4be, 0xaa82f], [0x4be, 0xb1c2f],
  [0x4be, 0x9aa2f], [0x4be, 0x5617c4c62f0650b88e62b2390a88e41c2390688e40c06281c90001],
  [0x4c6, 0x9dc2f], [0x4c6, 0xc602f], [0x4c6, 0xa4c2f], [0x4c6, 0x9282f], [0x4c6, 0xc782f],
  [0x4c6, 0xb662f], [0x4c6, 0xc822f], [0x4c6, 0xc242f], [0x4c6, 0xafe2f], [0x4c6, 0x4de2f],
  [0xf,
   0x8dd0720a61a8e685b34015ccf85333c138a904a372118b48423980e8288326900b85d81ee3205c1380e49a01,
   0x8e80de6923685e8d2692318e78c21782ed038b608e2b8dd8ab40c29d028a3408258c2893406208e707e5781d,
   0x9ff98a7fe619ff9821305f9ff97a7fe5d9ff9622a657b2592669240],
  [0x4d1, 0x358a2dd6309636e24d620824901f99b0763961c82a06a48e16]]

/-- Rows of moves on tokens, in pages of 64. A thirteenth bit marks a move that only goes on with a
repetition: it is never made, since the repetition can be finished first. -/
def shiftRows : List (List Row) := [
  shiftRows0, shiftRows1, shiftRows2, shiftRows3, shiftRows4, shiftRows5, shiftRows6, shiftRows7,
  shiftRows8, shiftRows9, shiftRows10, shiftRows11, shiftRows12, shiftRows13, shiftRows14,
  shiftRows15, shiftRows16, shiftRows17, shiftRows18, shiftRows19]

end CodeAudit.Syntax.Automaton
