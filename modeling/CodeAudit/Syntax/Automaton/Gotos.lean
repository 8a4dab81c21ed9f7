import CodeAudit.Syntax.Automaton.Row

/-! Where a finished node leads, apart from its usual target. -/
namespace CodeAudit.Syntax.Automaton

def gotoRows0 : Page Row := [
  [0], [0, 0x544a1], [0, 0x5a0a1], [0, 0x5a4a1], [0, 0x5b2a1], [0, 0x5bea1], [0, 0x5c2a1],
  [0, 0x5c6a1], [0, 0x5caa1], [0, 0x54ea1], [0, 0x5d0a1], [0, 0x5d6a1], [0, 0x5d8a1],
  [0, 0x570a1], [0, 0x552a1], [0, 0x5dea1], [0, 0x5e2a1], [0, 0x554a1], [0, 0x5e8a1],
  [0, 0x5eca1], [0, 0x5eea1], [0, 0x4a86e], [0, 0x5566e], [0, 0x6006e], [0, 0x6026e],
  [0, 0x60c6e], [0, 0x6166e], [0, 0x61a6e], [0, 0x61c6e], [0, 0x6286e], [0, 0x55e6e],
  [0, 0x62c6e], [0, 0x6346e], [0, 0x6386e], [0, 0x5726e], [0, 0x5626e], [0, 0x6406e],
  [0, 0x5666e], [0, 0x115ae6], [0, 0x5aa85], [0, 0x5c885], [0, 0x59a85], [0, 0x5b685],
  [0, 0x5ba8e], [0, 0x5ce85], [0, 0x5d28e], [0, 0x5da85], [0, 0x5e085], [0, 0x5e685],
  [0, 0x60e85], [0, 0x62a85], [0, 0x62e8e], [0, 0x64285], [0, 0x6468e], [0, 0x64e85],
  [0, 0x65485], [0, 0x65a85], [0, 0x76ce6], [0, 0xf009c], [0, 0xa1cde], [0x3b, 0xc1304],
  [0, 0xf469c], [0, 0xff49c], [0, 0xc1104]]

def gotoRows1 : Page Row := [
  [0, 0xc1504], [0, 0xc1d04], [0, 0xc2904], [0, 0xc2d04], [0, 0xc3104], [0, 0xc3b04],
  [0, 0xc4303], [0, 0xc4104], [0, 0xc9d03], [0, 0xca703], [0, 0xc3d03], [0, 0x143edf],
  [0x4b, 0x11a4fd], [0, 0x105ef3], [0, 0x1498df], [0x4e, 0x1264fd], [0, 0x128efd], [0, 0x14ecdf],
  [0x51, 0x12b2fd], [0, 0x1510df], [0x53, 0x12d6fd], [0, 0x152adf], [0x55, 0x12ecfd],
  [0, 0x1544df], [0x57, 0x1302fd], [0, 0x155edf], [0x59, 0x1318fd], [0, 0xefcf3], [0, 0xd82ff],
  [0, 0x1066f2], [0, 0x1068f3], [0, 0x11a905], [0, 0x1084f3], [0, 0xe6aff], [0, 0xe7aff],
  [0, 0xe82ff], [0, 0x126905], [0, 0x129305], [0, 0x12b705], [0, 0x12db05], [0, 0x12f105],
  [0, 0x130705], [0, 0x131d05], [0, 0x132105], [0, 0x132505], [0, 0xe3b0c], [0, 0x1170f5],
  [0, 0xe4ee2], [0, 0x1240f3], [0, 0x1224f3], [0, 0x1238f3], [0, 0xe6eff], [0, 0xe7cff],
  [0, 0xe84ff], [0, 0x1254f5], [0, 0xea0ff], [0, 0xeaeff], [0, 0x11b6fc], [0, 0xee309],
  [0, 0xeeb09], [0, 0xef300], [0, 0xf4903], [0, 0xf06f3], [0, 0xf2309]]

def gotoRows2 : Page Row := [
  [0, 0xf2709], [0, 0xf2909], [0, 0xf3b09], [0, 0xf3f09], [0, 0xf4109], [0, 0x126cfc],
  [0, 0x1294fc], [0, 0x12b8fc], [0, 0xf82f3], [0, 0x11aae8], [0x89, 0xf950d], [0, 0x11d101],
  [0, 0xfe300], [0, 0xfed00], [0, 0x100500], [0, 0x100f00], [0, 0x102500], [0, 0x102b00],
  [0, 0x14a4ea], [0, 0x127701], [0, 0x129f01], [0, 0x12c301], [0, 0xf68a3], [0x96, 0x136274],
  [0x96, 0x135e74], [0, 0x1064f2], [0, 0x13569c], [0, 0x106cfb], [0, 0x106efb], [0, 0x1076f1],
  [0, 0x1460ea], [0, 0x1082f6], [0, 0x11caf7], [0, 0x11ccf7], [0, 0x11d6f7], [0, 0x1094f7],
  [0xa3, 0x147ae3], [0, 0x11e6f1], [0, 0x14a6ea], [0, 0x1132f6], [0, 0x1270f7], [0, 0x1272f7],
  [0, 0x1278f7], [0, 0x1298f7], [0, 0x129af7], [0, 0x12a0f7], [0, 0x12bcf7], [0, 0x12bef7],
  [0, 0x12c4f7], [0, 0x1164ef], [0, 0x143aa3], [0, 0x116d03], [0, 0x1176fa], [0, 0x117b06],
  [0, 0x117f02], [0, 0x118f08], [0, 0x11f503], [0, 0x119afa], [0, 0x145e9e], [0, 0x11a4fd],
  [0, 0x11a6fd], [0, 0x1462ea], [0, 0x59287], [0, 0x59687]]

def gotoRows3 : Page Row := [
  [0, 0x1200fa], [0, 0x1470ea], [0, 0x5b087], [0, 0x11cf01], [0, 0x1232f7], [0, 0x11e908],
  [0, 0x11ed03], [0, 0x11f102], [0, 0x11faf1], [0, 0x11fd08], [0, 0x122703], [0, 0x120302],
  [0, 0x60a87], [0, 0x62487], [0, 0x122308], [0, 0x122b08], [0, 0x1228f3], [0, 0x123af3],
  [0, 0x1242f3], [0, 0x124aef], [0, 0x125706], [0, 0x125903], [0, 0x5fc87], [0, 0x1264fd],
  [0, 0x1266fd], [0, 0x14a8ea], [0, 0x60687], [0, 0x14aaea], [0, 0x127501], [0, 0x1280ef],
  [0, 0x128706], [0, 0x1290fd], [0, 0x129d01], [0, 0x12a8ef], [0, 0x12ab06], [0, 0x12b2fd],
  [0, 0x12b4fd], [0, 0x12c101], [0, 0x12ccef], [0, 0x12cf06], [0, 0x12d6fd], [0, 0x12d8fd],
  [0, 0x12e2ef], [0, 0x12e506], [0, 0x12ecfd], [0, 0x12eefd], [0, 0x12f8ef], [0, 0x12fb06],
  [0, 0x1302fd], [0, 0x1304fd], [0, 0x130eef], [0, 0x131106], [0, 0x1318fd], [0, 0x131afd],
  [0, 0x15789e], [0, 0xef903], [0, 0x137493], [0, 0x137c93], [0, 0x13fe93], [0, 0x140093],
  [0, 0x16f23854a85], [0, 0x127bd059085], [0, 0x129bd05ac85], [0, 0x12bbe04ae8c]]

def gotoRows4 : Page Row := [
  [0xff, 0x18423855c85], [0xff, 0x18c23856085], [0, 0x12c3e44b08d], [0x102, 0x18423855c85],
  [0x102, 0x18c23856085], [0, 0x1353d055884], [0x105, 0x61e85], [0x105, 0x63c85],
  [0x105, 0x12abd060485], [0x105, 0x12cbd062085], [0, 0x1dac2876ae6], [0, 0x201b788069e],
  [0, 0x1e342878ce6], [0, 0x1e3c2878ee6], [0, 0x1e5428794e6], [0, 0x1e5c28796e6],
  [0, 0x1ea4287a8e6], [0, 0x1eac287aae6], [0, 0x1ec4287b0e6], [0, 0x1ecc287b2e6],
  [0, 0x1ee4287b8e6], [0, 0x1eec287bae6], [0, 0x24c3789309e], [0x116, 0xc2704],
  [0, 0x25a3789689e], [0x118, 0xc2b04], [0, 0x1fe4287f8e6], [0, 0x1fec287fae6],
  [0, 0x2793789e49e], [0x11c, 0xc3304], [0, 0x295378a549e], [0x11e, 0xc3f04], [0, 0x2af378abc9e],
  [0x120, 0xc1b04], [0, 0x233c288cee6], [0, 0x2344288d0e6], [0, 0x2cab78b2a9e], [0x124, 0xc2f04],
  [0, 0x4d3ae1162b4], [0x126, 0x147494], [0x126, 0x148e94], [0x126, 0x14be94], [0x126, 0x14e494],
  [0x126, 0x150894], [0x126, 0x152494], [0x126, 0x153e94], [0x126, 0x155894], [0x126, 0x158094],
  [0x126, 0x158694], [0x126, 0x1378b2], [0xce, 0x39b38944cdf], [0x132, 0x149edf],
  [0x132, 0x14ccdf], [0x132, 0x14f2df], [0x132, 0x1514df], [0x132, 0x152edf], [0x132, 0x1548df],
  [0x132, 0x1562df], [0xc5, 0x39738944adf], [0x13a, 0x149cdf], [0x13a, 0x14cadf],
  [0x13a, 0x14f0df], [0x13a, 0x1512df], [0x13a, 0x152cdf]]

def gotoRows5 : Page Row := [
  [0x13a, 0x1546df], [0x13a, 0x1560df], [0, 0x414bc1416a3], [0xb5, 0x39b38944edf],
  [0xd4, 0x39b3894a0df], [0xde, 0x39b3894cedf], [0xe2, 0x39b3894f4df], [0xe7, 0x39b389516df],
  [0xeb, 0x39b389530df], [0xef, 0x39b38954adf], [0xf3, 0x39b389564df], [0, 0x3a7bf8e9ea0],
  [0x14b, 0x15f26c57c92], [0x14b, 0x17ca6c5f292], [0, 0x3ea3dd478e3], [0, 0x5122791789c],
  [0, 0x41d28d18a75], [0, 0x55c2793269c], [0, 0x4dba7136c93], [0, 0x47e28d3ba75],
  [0, 0x500a713fa93], [0, 0x5012713fc93], [0, 0xe64e63f8394fdea3], [0x156, 0x108aa4],
  [0x156, 0x108ea4], [0x156, 0x1134a4], [0x156, 0x1138a4], [0x156, 0x113aa4], [0x156, 0x113ea4],
  [0x156, 0x1140a4], [0x156, 0x1144a4], [0, 0xd270b349ba0d26e7], [0, 0xd590b3563a0d58e7],
  [0, 0xd5d0b3573a0d5ce7], [0, 0xd610b3583a0d60e7], [0, 0xd650b3593a0d64e7],
  [0, 0xd690b35a3a0d68e7], [0, 0xd6d0b35b3a0d6ce7], [0, 0xd710b35c3a0d70e7],
  [0, 0xd750b35d3a0d74e7], [0, 0xe4307390b8ce42e2], [0, 0xe5f07397b8ce5ee2],
  [0, 0xe6307398b8ce62e2], [0, 0xe710739c38ce70e2], [0, 0xe750739d38ce74e2],
  [0, 0x1098a34761d546474], [0x16d, 0x146674], [0, 0x1ffb2c7feca1dcaf4832b8], [0x16f, 0x778bd],
  [0x16f, 0x770bd], [0x16f, 0x774bd], [0x16f, 0x776bd], [0x16f, 0x77abd], [0x16f, 0x77cbd],
  [0x16f, 0x77ebd], [0x16f, 0x780bd], [0x16f, 0x782bd], [0x16f, 0x784bd], [0x16f, 0x786bd],
  [0x16f, 0x1dbaf4dc2bc], [0x17b, 0xdd0bc], [0x17b, 0xe44bc], [0x17b, 0xdc4bc], [0x17b, 0xf72bc]]

def gotoRows6 : Page Row := [
  [0x17b, 0xcd2bc], [0x17b, 0xe40bc], [0x17b, 0xea4bc], [0x17b, 0xcd4bc], [0x17b, 0xea8bc],
  [0x17b, 0xcd6bc], [0x17b, 0xcd8bc], [0x17b, 0xcdabc], [0x17b, 0xcdcbc], [0x17b, 0xeb2bc],
  [0x17b, 0xdd6bc], [0x17b, 0xcdebc], [0x17b, 0xce0bc], [0x17b, 0x35daf1154a2],
  [0x17b, 0x372af1350a2], [0x17b, 0x371af1346a2], [0x17b, 0x3722f1348a2],
  [0, 0x4dacb136b28cf8bc1362e06486e], [0x191, 0x6506e], [0x191, 0x6586e], [0x191, 0x65e6e],
  [0, 0x3caf90f23e058a8e0f2a343c88c], [0, 0x3daf90f63e059e8e0f6a343d88c],
  [0, 0x3f4f90fcbe05fe8e0fd2343f28c], [0, 0x3faf90fe3e06128e0fea343f88c],
  [0, 0x135ac932931d35ac64d6b14dcebc32b2cd35aa2], [0x199, 0x135cc94d732135cc64d731535ca2],
  [0x199, 0x1380c94e0321380c64e0315380a2], [0x17b, 0xef6d43bdb4cef6d23bdb44ef6d03aab3cd2cbc],
  [0x19c, 0xf8ecf], [0x19c, 0xf0ccf], [0x19c, 0xf0ecf],
  [0x156, 0xfe8e53fa2bcfe8ae3fa2b4fe8aa3fa2a4fe8a83fa29cfe8a5],
  [0x156, 0xfeae53faabcfeaae3faab4feaaa3faaa4feaa83faa9cfeaa5],
  [0, 0x13b2ed4ecbb13b2ce478ae51e2b84ecadd3b2b64782d13c6b2], [0x1a2, 0x477ac945cb0],
  [0, 0x3773991c4e54712bd1c4ae425ab51c4aa4712a51c4a847129d1c4a5], [0x1a4, 0x3e9ab51c6ab],
  [0x1a4, 0x40c2b526eab], [0x1a4, 0x40d2b5296ab], [0x1a4, 0x40e2b52baab],
  [0x1a4, 0xeeee53bbabceeeae3bbab4eeeaa3bbaa4eeea83bba9ceeea5],
  [0x1a4, 0xef0e53bc2bcef0ae3bc2b4ef0aa3bc2a4ef0a83bc29cef0a5],
  [0, 0xe76e6402b9500aaf402ab900aad402aa900aa9402aa100aa7402a94ffea3],
  [0x1ab, 0x100ce54032bd00cae4032b500caa4032a500ca840329d00ca5],
  [0, 0xe7ee6409b95026af409ab9026ad409aa9026a9409aa1026a7409a9501ea3],
  [0x1ad, 0x1028e540a2bd028ae40a2b5028aa40a2a5028a840a29d028a5],
  [0, 0x1fbb807e9f01fa6c07e9201fa3c07e8b01fa2807e8901fa1807e8301f9b807e6d],
  [0x1ab, 0x400395000af4002b9000ad48b2b1000aa4002a5000a840029d22ca640029508ca4],
  [0x1b0, 0x122ea4], [0x1b0, 0x1136a4], [0x1b0, 0x113ca4], [0x1b0, 0x1142a4],
  [0x1a4, 0x3b6394ed8af3b62b8ed8ad421ab0ed8aa3b62a4ed8a83b629d086a63b6294ed6a4],
  [0x1b5, 0x1090a4], [0x1b6, 0x147ae3], [0x1b6, 0x147ce3],
  [0x1ad, 0x408395020af4082b9020ad48f2b1020aa4082a5020a840829d23ca64082951d2a4],
  [0, 0x7cee37528407c9f01f26c07c9201f23c07c8b01f22807c8901f21807c8301f1b807c6d],
  [0x1ba, 0xe20a1],
  [0, 0x82ee13a2840829f020a6c08292020a3c0828b020a2808289020a18082830209b80826d],
  [0x1bc, 0x4eea1], [0x1bc, 0x4f4a1],
  [0, 0x84ee13c2840849f02126c0849202123c0848b02122808489021218084830211b80846d]]

def gotoRows7 : Page Row := [
  [0, 0x88ee4e6a840889f02226c0889202223c0888b02222808889022218088830221b80886d],
  [0x1c0, 0x139ea1], [0x1c0, 0x13a2a1], [0x1c0, 0x13a6a1], [0x1c0, 0x13a8a1], [0x1c0, 0x13aca1],
  [0, 0x86ee12b2840869f021a6c08692021a3c0868b021a2808689021a18086830219b80866d],
  [0x1c6, 0x55aa1], [0x1c6, 0x614a1], [0x1c6, 0x618a1], [0x1c6, 0x626a1], [0x1c6, 0x632a1],
  [0x1c6, 0x636a1], [0x1c6, 0x63aa1], [0x1c6, 0x63ea1], [0x1c6, 0x564a1], [0x1c6, 0x644a1],
  [0x1c6, 0x64aa1], [0x1c6, 0x64ca1], [0x1c6, 0x574a1], [0x1c6, 0x568a1], [0x1c6, 0x652a1],
  [0x1c6, 0x656a1], [0x1c6, 0x56aa1], [0x1c6, 0x65ca1], [0x1c6, 0x660a1], [0x1c6, 0x662a1],
  [0, 0x8aee13f28408a9f022a6c08a92022a3c08a8b022a2808a89022a1808a830229b808a6d],
  [0x1db, 0x502a1], [0x1db, 0x508a1],
  [0, 0x8cee14128408c9f02326c08c9202323c08c8b02322808c8902321808c830231b808c6d],
  [0, 0x4d6269358994d6261358974d6209358814d62013587f4d61f93587d4d61e9358794d61dd358734d61c93586f],
  [0x191,
   0x452a6514a98452a5d14a82452a0514a804529fd14a7e4529f514a7a4529e514a774529cd14a724529bc5d46e,
   0x114a9a], [0x1e0, 0x5dc6e], [0x1e0, 0x5e46e], [0x1e0, 0x5ea6e],
  [0x1e0, 0xcb000328000bc0002e049c6e], [0x1e4, 0x5406e], [0x1e4, 0x58c6e], [0x1e4, 0x58e6e],
  [0x1e4, 0x5986e], [0x1e4, 0x5a26e], [0x1e4, 0x5a66e], [0x1e4, 0x5a86e], [0x1e4, 0x5b46e],
  [0x1e4, 0x5486e], [0x1e4, 0x5b86e], [0x1e4, 0x5c06e], [0x1e4, 0x5c46e], [0x1e4, 0x56e6e],
  [0x1e4, 0x54c6e], [0x1e4, 0x5cc6e], [0x1e4, 0x5506e],
  [0x1e4, 0x3703f8078ee3702800789f01e26c0789201e23c0788b01e2280788901e2180788301e1b80786d],
  [0x1f5, 0x1ebb807a9f01ea6c07a9201ea3c07a8b01ea2807a8901ea1807a8301e9b807a6d],
  [0, 0x4912652449849125d24482491205244804911fd2447e4911f52447a4911e5244774911cd244724911bcdcc6e,
   0x12449a], [0x1f7, 0xe1c6e],
  [0, 0x4a8a652a2984a8a5d2a2824a8a052a2804a89fd2a27e4a89f52a27a4a89e52a2774a89cd2a2724a89bc4e66e,
   0x12a29a], [0x1f9, 0x4ea6e], [0x1f9, 0x4f26e],
  [0, 0x4b1a652c6984b1a5d2c6824b1a052c6804b19fd2c67e4b19f52c67a4b19e52c6774b19cd2c6724b19bc4ec6e,
   0x12c69a],
  [0, 0x4b72652dc984b725d2dc824b72052dc804b71fd2dc7e4b71f52dc7a4b71e52dc774b71cd2dc724b71bd3946e,
   0x12dc9a], [0x1fd, 0x13986e], [0x1fd, 0x139c6e]]

def gotoRows8 : Page Row := [
  [0x1fd, 0x13a06e], [0x1fd, 0x13a46e], [0x1fd, 0x13aa6e],
  [0, 0x4bca652f2984bca5d2f2824bca052f2804bc9fd2f27e4bc9f52f27a4bc9e52f2774bc9cd2f2724bc9bc4fa6e,
   0x12f29a], [0x203, 0x4fe6e], [0x203, 0x5066e],
  [0, 0x4c2265308984c225d308824c2205308804c21fd3087e4c21f53087a4c21e5308774c21cd308724c21bc5006e,
   0x13089a],
  [0, 0x284b80a12de284b74a12dc284b6ca12d9284b60a12d7284b58a12cd284b2ca12ca284b04a12c0218af49c8b8,
   0xa12eb1ebb98a12e5], [0x207, 0x870bd], [0x207, 0x86cbd], [0x207, 0x86ebd], [0x207, 0x872bd],
  [0x207, 0x874bd], [0x207, 0x876bd], [0x207, 0x878bd], [0x207, 0x87abd], [0x207, 0x87ebd],
  [0x207, 0x880bd], [0x207, 0x860bd], [0x207, 0xc7acb31eb28c84bd], [0x213, 0x28532ca14ca],
  [0x213, 0x31532cc54ca], [0x207, 0xc48cb312328c88bd], [0x216, 0x30e32cc38ca],
  [0x216, 0x2bf32cafcca], [0x216, 0x2bcb2caf2ca], [0x219, 0xc8ebd], [0x207, 0x4c4cb131328c4abd],
  [0x207, 0x88acb222b28c86bd], [0x207, 0xb5acb2d6b28c90bd], [0x21d, 0xc92bd],
  [0x21e, 0x2c032cb00ca], [0x207, 0x99ecb267b28c8cbd], [0x220, 0xc94bd], [0x221, 0x27132c9c4ca],
  [0x207, 0xb76cb2ddb28c8abd], [0x223, 0x2d8b2cb62ca2d82e0ca2b3],
  [0x213, 0x31732cc5cca316ae0ca2b3], [0x225, 0x507b1d156b3], [0x225, 0x51031d172b3],
  [0x225, 0x51531d190b3], [0x225, 0x51a31d1b0b3], [0x225, 0x55cb1d328b3], [0x225, 0x55eb1d32ab3],
  [0x225, 0x560b1d334b3], [0x225, 0x56131d336b3], [0x225, 0x56431d338b3], [0x225, 0x565b1d33ab3],
  [0x21b, 0x2be32caf8ca2bdae0c6ab531aad0c70b3], [0x221, 0x30832cc20ca307ae1012b5404ad101ab3],
  [0x216, 0x31d32cc74ca31cae13aeb54ebad1150b3], [0x232, 0x1480b1], [0x232, 0x13b8b3],
  [0x21e, 0x31fb2cc7eca31f2e13c8b54f22d13d0b3],
  [0x207, 0x34bb90d2ec334bb08d2ebf34baf87acbd38daf0d2eba52b9f0d2e7b], [0x236, 0xe94bc],
  [0x236, 0xd78bc], [0x238, 0x105ccf], [0x238, 0xf90cf], [0x238, 0x11b8cf], [0x238, 0x11becf],
  [0x238, 0x11c2cf], [0x238, 0x11c8cf], [0x238, 0x132ccf]]

def gotoRows9 : Page Row := [
  [0x238, 0x132ecf], [0x238, 0x1330cf], [0x238, 0x1332cf], [0x236, 0xe9cbc], [0x243, 0x144290],
  [0x243, 0x137091], [0x243, 0x156c90], [0x243, 0x156e90], [0x236, 0xeb4bc], [0x236, 0xec0bc],
  [0x236, 0xf5cbc], [0x236, 0xf66bc], [0x236, 0xf6abc], [0x236, 0xf6cbc], [0x236, 0xf80bc],
  [0x236, 0xeb8bc], [0x236, 0xf96bc], [0x236, 0xf9abc], [0x236, 0xfaabc], [0x236, 0xee6bc],
  [0x236, 0xfacbc], [0x236, 0xd32bc], [0x236, 0xd34bc], [0x236, 0xd36bc], [0x236, 0xd38bc],
  [0x236, 0xd3abc], [0x236, 0xd3cbc], [0x236, 0xd3ebc], [0x236, 0xd30bc], [0x236, 0x101cbc],
  [0x236, 0x102ebc], [0x236, 0x1032bc], [0x236, 0x1036bc], [0x236, 0x103abc], [0x236, 0x103cbc],
  [0x236, 0x103ebc], [0x236, 0x1040bc], [0x236, 0x1042bc], [0x236, 0x1044bc], [0x236, 0x1048bc],
  [0x236, 0x104abc], [0x236, 0x104cbc], [0x236, 0x3e4af137696], [0x236, 0x391af1456a2],
  [0x236, 0x3942f146ca2], [0x236, 0x3a5af1574a2], [0x236, 0x3a62f157ea2],
  [0, 0x256380958de256374958dc25636c958d9256360958d7256358958cd25632c958ca256304958c01f5af49a0b8,
   0x958eb1e4b98958e5], [0x26f, 0x7debd], [0x26f, 0x7dabd], [0x26f, 0x7dcbd], [0x26f, 0x7e0bd],
  [0x26f, 0x7e2bd], [0x26f, 0x7e4bd], [0x26f, 0x7e6bd], [0x26f, 0x7e8bd], [0x26f, 0x7ecbd],
  [0x26f, 0x7eebd], [0x26f, 0x7d4bd],
  [0x26f, 0x366b90d9ac3366b08d9abf366af8790bd3602f0d9aba5469f0d9a7b], [0x27b, 0xea6bc],
  [0x27b, 0xd9ebc], [0x27b, 0xda0bc], [0x27b, 0xda2bc]]

def gotoRows10 : Page Row := [
  [0x27b, 0xda4bc], [0x27b, 0xda6bc], [0x27b, 0xda8bc], [0x27b, 0xdaabc], [0x27b, 0xf10bc],
  [0x27b, 0xd86bc], [0x27b, 0xd9cbc], [0x27b, 0x350af1014a2], [0x27b, 0xb7ccb2df328f2abc],
  [0x288, 0x95acb256b289c6bd], [0x27b, 0x4f5b24f32bc4f5a753d695],
  [0x27b, 0x918cb246328f74c93dd31cd28bc245ae1352b3], [0x28b, 0x40b3a502cc940b31d02ca2],
  [0, 0x273b809cede273b749cedc273b6c9ced9273b609ced7273b589cecd273b2c9ceca273b049cec020e2f4a8cb8,
   0x9ceeb1e9b989cee5], [0x28d, 0x842bd], [0x28d, 0x83ebd], [0x28d, 0x840bd], [0x28d, 0x844bd],
  [0x28d, 0x846bd], [0x28d, 0x848bd], [0x28d, 0x84abd], [0x28d, 0x84cbd], [0x28d, 0x84ebd],
  [0x28d, 0x850bd], [0x28d, 0x836bd],
  [0x28d, 0x378b90de2c3378b08de2bf378af87a4bd376af0de2ba51f9f0de27b], [0x299, 0xe4cbc],
  [0x299, 0xde6bc], [0x299, 0xde8bc], [0x299, 0xdeabc], [0x299, 0xdecbc], [0x299, 0xdeebc],
  [0x299, 0xdf2bc], [0x299, 0xdf4bc], [0x299, 0xde4bc], [0x299, 0x3b4b10ed2bb],
  [0x299, 0x3b8310ee0bb], [0x299, 0xfaec4377af0faebb], [0x299, 0xfbec43782f0fbebb],
  [0x299, 0x49f324cfebc453a7514e95], [0x2a7, 0x33d2f117491], [0x2a7, 0x141ae1454b24cf0bc],
  [0x2a7, 0x1536e14bd324d0ebc], [0x2aa, 0x45a27516695], [0x2ab, 0x1482e1491b24cfabc],
  [0x2ac, 0x453a7514e95], [0x2a7, 0x1550e14c2b24d12bc], [0x2ae, 0x49427524e95],
  [0x2af, 0x14d8e14a9324d02bc], [0x2b0, 0x453a7514e95], [0x2a7, 0x151ce14b7b24d0abc],
  [0x2b2, 0x4a127528295], [0x2b3, 0x14fee14b2324d06bc], [0x2b4, 0x453a7514e95],
  [0x299, 0x1182d533daf11849d460a5918295], [0x299, 0x125ad533f2f125c9d496a5925a95],
  [0x299, 0x1288d53402f128a9d4a225928895], [0x299, 0x12acd53412f12ae9d4ab2592ac95],
  [0x299, 0x12d0d53422f12d29d4b42592d095], [0x299, 0x12e6d53432f12e89d4b9a592e695],
  [0x299, 0x12fcd53442f12fe9d4bf2592fc95], [0x299, 0x1312d53452f13149d4c4a5931295],
  [0x2a9, 0x274b2c9d2ca2742e13aeb54ebad1150b3], [0x2be, 0xe149f324cfebc]]

def gotoRows11 : Page Row := [
  [0x2bf, 0x1480b1], [0x2bf, 0x14b0b1], [0x2bf, 0x14d6b1], [0x2bf, 0x14fcb1],
  [0x2be, 0x151ce14b7b24d0abc], [0x2c0, 0x1482e1491b24cfabc45a27516695],
  [0x2c1, 0x14d8e14a9324d02bc49427524e95],
  [0, 0x245380914de245374914dc24536c914d9245360914d7245358914cd24532c914ca245304914c01efaf4904b8,
   0x914eb1e2b98914e5], [0x2c7, 0x7c4bd], [0x2c7, 0x7c0bd], [0x2c7, 0x7c2bd], [0x2c7, 0x7c6bd],
  [0x2c7, 0x7c8bd], [0x2c7, 0x7cabd], [0x2c7, 0x7ccbd], [0x2c7, 0x7cebd], [0x2c7, 0x7d0bd],
  [0x2c7, 0x7d2bd], [0x2c7, 0x7bcbd],
  [0x2c7, 0x362390d88c3362308d88bf3622f8788bd3762f0d88ba53e9f0d887b], [0x2d3, 0xd8cbc],
  [0x2d3, 0xd8ebc], [0x2d3, 0xd90bc], [0x2d3, 0xd92bc], [0x2d3, 0xd94bc], [0x2d3, 0xd96bc],
  [0x2d3, 0xd98bc], [0x2d3, 0xe72bc], [0x2d3, 0xd8abc], [0x2d3, 0x1008c437faf1008bb],
  [0x2dd, 0x3cd310f34bb], [0x2dd, 0x3ce310f38bb], [0x2d3, 0x1006c4380af1006bb],
  [0x2d3, 0x1010c43812f1010bb], [0x2d3, 0x142ae138e369220c93342f12209d45725922095],
  [0x2e2, 0x523384e86da338af124896], [0x2e2, 0x52f384e88da3392f127e96],
  [0x2e2, 0x538b84e8ada339af12a696], [0x2e2, 0x541b84e8cda33a2f12ca96],
  [0x2e2, 0x548b84e8eda33aaf12e096], [0x2e2, 0x54f384e90da33b2f12f696],
  [0x2e2, 0x555b84e92da33baf130c96],
  [0, 0x2aab80aaade2aab74aaadc2aab6caaad92aab60aaad72aab58aaacd2aab2caaaca2aab04aaac022baf4a4ab8,
   0xaaaeb1fdb98aaae5], [0x2ea, 0x8b6bd], [0x2ea, 0x8b2bd], [0x2ea, 0x8b4bd], [0x2ea, 0x8b8bd],
  [0x2ea, 0x8babd], [0x2ea, 0x8bcbd], [0x2ea, 0x8bebd], [0x2ea, 0x8c0bd], [0x2ea, 0x8c2bd],
  [0x2ea, 0x8c4bd], [0x2ea, 0x8acbd],
  [0x2ea, 0x351390d44c3351308d44bf3512f87fcbd3b22f0d44ba54d1f0d447b], [0x2f6, 0xf2ebc],
  [0x2f6, 0xec4bc], [0x2f6, 0xec6bc], [0x2f6, 0xf04bc], [0x2f6, 0xd48bc], [0x2f6, 0xd4abc],
  [0x2f6, 0xd4cbc], [0x2f6, 0xd4ebc], [0x2f6, 0xd50bc]]

def gotoRows12 : Page Row := [
  [0x2f6, 0xd52bc], [0x2f6, 0xd54bc], [0x2f6, 0xf02bc], [0x2f6, 0xf14bc], [0x2f6, 0xf1ebc],
  [0x2f6, 0xd46bc], [0x2f6, 0x396af13b4a2], [0x2f6, 0x3bd2f13c491], [0x2f6, 0xb78cb2de328ea2bc],
  [0x308, 0x9dacb276b2898ebd], [0x2f6, 0x4dab24eb0bc4daa7536a95],
  [0x2f6, 0x1288d53922f128a9d4a225928895], [0x2f6, 0xf42d43d0b4cf42d23d0b44f42d03c4b3cd40bc],
  [0x30c, 0xfdccf], [0x30c, 0xf50cf], [0x30c, 0xf52cf],
  [0, 0x2c7b80b1ede2c7b74b1edc2c7b6cb1ed92c7b60b1ed72c7b58b1ecd2c7b2cb1eca2c7b04b1ec02692f4b18b8,
   0xb1eeb231b98b1ee5], [0x310, 0x9b0bd], [0x310, 0x9acbd], [0x310, 0x9aebd], [0x310, 0x9b2bd],
  [0x310, 0x9b4bd], [0x310, 0x9b6bd], [0x310, 0x9b8bd], [0x310, 0x9babd], [0x310, 0x9bcbd],
  [0x310, 0x9bebd], [0x310, 0x9a2bd],
  [0x310, 0x36b390dacc336b308dacbf36b2f88d2bd392af0dacba5539f0dac7b], [0x31c, 0xe52bc],
  [0x31c, 0xe54bc], [0x31c, 0xecabc], [0x31c, 0xedcbc], [0x31c, 0xee8bc], [0x31c, 0xf4abc],
  [0x31c, 0xdb0bc], [0x31c, 0xdb2bc], [0x31c, 0xdb4bc], [0x31c, 0xdb6bc], [0x31c, 0xdb8bc],
  [0x31c, 0xdbabc], [0x31c, 0xdbcbc], [0x31c, 0xf2cbc], [0x31c, 0xdaebc], [0x31c, 0x39a2f13caa2],
  [0x31c, 0x461b30dd2bc], [0x31c, 0x497b30e1ebc], [0x31c, 0x4a3330e22bc], [0x31c, 0x4ac330e24bc],
  [0x31c, 0x4b5330e26bc], [0x31c, 0x4bab30e28bc], [0x31c, 0x4c0330e2abc], [0x31c, 0x4c5b30e2cbc],
  [0x31c, 0x4c7b30e2ebc], [0x31c, 0x4c8b30e30bc], [0x31c, 0xb7acb2deb28efabc],
  [0x337, 0xa8acb2a2b2899abd], [0x31c, 0x4f0b24f08bc4f0a753c295],
  [0x31c, 0xff0d43fc34cff0d23fc344ff0d03adb3cd84bc], [0x33a, 0xf9ccf], [0x33a, 0xff8cf],
  [0x33a, 0xffacf], [0x33a, 0xf60cf], [0x33a, 0xf62cf]]

def gotoRows13 : Page Row := [
  [0x33a, 0xf64cf],
  [0, 0x290b80a42de290b74a42dc290b6ca42d9290b60a42d7290b58a42cd290b2ca42ca290b04a42c02242f4aa0b8,
   0xa42eb1edb98a42e5], [0x341, 0x896bd], [0x341, 0x892bd], [0x341, 0x894bd], [0x341, 0x898bd],
  [0x341, 0x89abd], [0x341, 0x89cbd], [0x341, 0x89ebd], [0x341, 0x8a0bd], [0x341, 0x8a2bd],
  [0x341, 0x8a4bd], [0x341, 0x88ebd],
  [0x341, 0x381b90e06c3381b08e06bf381af87b4bd382af0e06ba5351f0e067b], [0x34d, 0xe0cbc],
  [0x34d, 0xe0ebc], [0x34d, 0xe10bc], [0x34d, 0xe12bc], [0x34d, 0xe14bc], [0x34d, 0xe16bc],
  [0x34d, 0xe60bc], [0x34d, 0xe08bc], [0x34d, 0xfe6c437daf0fe6bb], [0x356, 0x3c6310f18bb],
  [0x356, 0x3c8310f20bb], [0x34d, 0xfe4c437eaf0fe4bb], [0x34d, 0xfeec437f2f0feebb],
  [0x34d, 0x14b8e1476b24d18bc476a751da95], [0x35b, 0x509b84cf2bc], [0x35b, 0x540b84d1cbc],
  [0x35b, 0x54e384d20bc], [0x35b, 0x522384d16bc], [0x35b, 0x537b84d1abc], [0x35b, 0x554b84d22bc],
  [0x35b, 0x547b84d1ebc], [0x35c, 0xa46cb291b28a44b84f22d53c8b44772cd424b1],
  [0x363, 0x52e384d18bc], [0x364, 0x1486b1], [0x364, 0x14b6b1], [0x364, 0x14dcb1],
  [0x364, 0x1500b1], [0x365, 0x522384d16bc], [0x366, 0x537b84d1abc], [0x363, 0x547b84d1ebc]]

/-- Rows of moves on nodes, in pages of 64. -/
def gotoRows : List (List Row) := [
  gotoRows0, gotoRows1, gotoRows2, gotoRows3, gotoRows4, gotoRows5, gotoRows6, gotoRows7,
  gotoRows8, gotoRows9, gotoRows10, gotoRows11, gotoRows12, gotoRows13]

end CodeAudit.Syntax.Automaton
