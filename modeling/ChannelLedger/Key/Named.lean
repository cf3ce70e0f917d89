import ChannelLedger.Key.Curve

/-!
# Named curves

The curves over prime fields that are known by an object identifier: those that channels use and
have a definition of their own, and the rest. A curve can have several names. Curves over binary
fields have names too; they are left out.
-/
namespace ChannelLedger.Curve

/-- The object identifier of the curve of the SM2 scheme, which also names the scheme. -/
def sm2Identifier : Bytes := [0x2a, 0x81, 0x1c, 0xcf, 0x55, 0x01, 0x82, 0x2d]

/-- The named curves that channels seldom use, over fields of 112 to 512 bits. -/
def others : List (Bytes × Curve) := [
  ([0x2b, 0x81, 0x04, 0x00, 0x06], {
    p := 0xdb7c2abf62e35e668076bead208b
    a := 0xdb7c2abf62e35e668076bead2088
    b := 0x659ef8ba043916eede8911702b22
    gx := 0x9487239995a5ee76b55f9c2f098
    gy := 0xa89ce5af8724c0a23e0e0ff77500
    order := 0xdb7c2abf62e35e7628dfac6561c5 }),
  ([0x2b, 0x81, 0x04, 0x00, 0x07], {
    p := 0xdb7c2abf62e35e668076bead208b
    a := 0x6127c24c05f38a0aaaf65c0ef02c
    b := 0x51def1815db5ed74fcc34c85d709
    gx := 0x4ba30ab5e892b4e1649dd0928643
    gy := 0xadcd46f5882e3747def36e956e97
    order := 0x36df0aafd8b8d7597ca10520d04b }),
  ([0x2b, 0x81, 0x04, 0x00, 0x1c], {
    p := 0xfffffffdffffffffffffffffffffffff
    a := 0xfffffffdfffffffffffffffffffffffc
    b := 0xe87579c11079f43dd824993c2cee5ed3
    gx := 0x161ff7528b899b2d0c28607ca52c5b86
    gy := 0xcf5ac8395bafeb13c02da292dded7a83
    order := 0xfffffffe0000000075a30d1b9038a115 }),
  ([0x2b, 0x81, 0x04, 0x00, 0x1d], {
    p := 0xfffffffdffffffffffffffffffffffff
    a := 0xd6031998d1b3bbfebf59cc9bbff9aee1
    b := 0x5eeefca380d02919dc2c6558bb6d8a5d
    gx := 0x7b6aa5d85e572983e6fb32a7cdebc140
    gy := 0x27b6916a894d3aee7106fe805fc34b44
    order := 0x3fffffff7fffffffbe0024720613b5a3 }),
  ([0x2b, 0x81, 0x04, 0x00, 0x09], {
    p := 0xfffffffffffffffffffffffffffffffeffffac73
    a := 0x0
    b := 0x7
    gx := 0x3b4c382ce37aa192a4019e763036f4f5dd4d7ebb
    gy := 0x938cf935318fdced6bc28286531733c3f03c4fee
    order := 0x100000000000000000001b8fa16dfab9aca16b6b3 }),
  ([0x2b, 0x81, 0x04, 0x00, 0x08], {
    p := 0xffffffffffffffffffffffffffffffff7fffffff
    a := 0xffffffffffffffffffffffffffffffff7ffffffc
    b := 0x1c97befc54bd7a8b65acf89f81d4d4adc565fa45
    gx := 0x4a96b5688ef573284664698968c38bb913cbfc82
    gy := 0x23a628553168947d59dcc912042351377ac5fb32
    order := 0x100000000000000000001f4c8f927aed3ca752257 }),
  ([0x2b, 0x81, 0x04, 0x00, 0x1e], {
    p := 0xfffffffffffffffffffffffffffffffeffffac73
    a := 0xfffffffffffffffffffffffffffffffeffffac70
    b := 0xb4e134d3fb59eb8bab57274904664d5af50388ba
    gx := 0x52dcb034293a117e1f4ff11b30f7199d3144ce6d
    gy := 0xfeaffef2e331f296e071fa0df9982cfea7d43f2e
    order := 0x100000000000000000000351ee786a818f3a1a16b }),
  ([0x2b, 0x81, 0x04, 0x00, 0x1f], {
    p := 0xfffffffffffffffffffffffffffffffffffffffeffffee37
    a := 0x0
    b := 0x3
    gx := 0xdb4ff10ec057e9ae26b07d0280b7f4341da5d1b1eae06c7d
    gy := 0x9b2f2f6d9c5628a7844163d015be86344082aa88d95e2f9d
    order := 0xfffffffffffffffffffffffe26f2fc170f69466a74defd8d }),
  ([0x2b, 0x81, 0x04, 0x00, 0x20], {
    p := 0xfffffffffffffffffffffffffffffffffffffffffffffffeffffe56d
    a := 0x0
    b := 0x5
    gx := 0xa1455b334df099df30fc28a169a467e9e47075a90f7e650eb6b7a45c
    gy := 0x7e089fed7fba344282cafbd6f7e319f7c0b0bd59e2ca4bdb556d61a5
    order := 0x10000000000000000000000000001dce8d2ec6184caf0a971769fb1f7 }),
  ([0x2a, 0x86, 0x48, 0xce, 0x3d, 0x03, 0x01, 0x01], {
    p := 0xfffffffffffffffffffffffffffffffeffffffffffffffff
    a := 0xfffffffffffffffffffffffffffffffefffffffffffffffc
    b := 0x64210519e59c80e70fa7e9ab72243049feb8deecc146b9b1
    gx := 0x188da80eb03090f67cbf20eb43a18800f4ff0afd82ff1012
    gy := 0x7192b95ffc8da78631011ed6b24cdd573f977a11e794811
    order := 0xffffffffffffffffffffffff99def836146bc9b1b4d22831 }),
  ([0x2a, 0x86, 0x48, 0xce, 0x3d, 0x03, 0x01, 0x02], {
    p := 0xfffffffffffffffffffffffffffffffeffffffffffffffff
    a := 0xfffffffffffffffffffffffffffffffefffffffffffffffc
    b := 0xcc22d6dfb95c6b25e49c0d6364a4e5980c393aa21668d953
    gx := 0xeea2bae7e1497842f2de7769cfe9c989c072ad696f48034a
    gy := 0x6574d11d69b6ec7a672bb82a083df2f2b0847de970b2de15
    order := 0xfffffffffffffffffffffffe5fb1a724dc80418648d8dd31 }),
  ([0x2a, 0x86, 0x48, 0xce, 0x3d, 0x03, 0x01, 0x03], {
    p := 0xfffffffffffffffffffffffffffffffeffffffffffffffff
    a := 0xfffffffffffffffffffffffffffffffefffffffffffffffc
    b := 0x22123dc2395a05caa7423daeccc94760a7d462256bd56916
    gx := 0x7d29778100c65a1da1783716588dce2b8b4aee8e228f1896
    gy := 0x38a90f22637337334b49dcb66a6dc8f9978aca7648a943b0
    order := 0xffffffffffffffffffffffff7a62d031c83f4294f640ec13 }),
  ([0x2a, 0x86, 0x48, 0xce, 0x3d, 0x03, 0x01, 0x04], {
    p := 0x7fffffffffffffffffffffff7fffffffffff8000000000007fffffffffff
    a := 0x7fffffffffffffffffffffff7fffffffffff8000000000007ffffffffffc
    b := 0x6b016c3bdcf18941d0d654921475ca71a9db2fb27d1d37796185c2942c0a
    gx := 0xffa963cdca8816ccc33b8642bedf905c3d358573d3f27fbbd3b3cb9aaaf
    gy := 0x7debe8e4e90a5dae6e4054ca530ba04654b36818ce226b39fccb7b02f1ae
    order := 0x7fffffffffffffffffffffff7fffff9e5e9a9f5d9071fbd1522688909d0b }),
  ([0x2a, 0x86, 0x48, 0xce, 0x3d, 0x03, 0x01, 0x05], {
    p := 0x7fffffffffffffffffffffff7fffffffffff8000000000007fffffffffff
    a := 0x7fffffffffffffffffffffff7fffffffffff8000000000007ffffffffffc
    b := 0x617fab6832576cbbfed50d99f0249c3fee58b94ba0038c7ae84c8c832f2c
    gx := 0x38af09d98727705120c921bb5e9e26296a3cdcf2f35757a0eafd87b830e7
    gy := 0x5b0125e4dbea0ec7206da0fc01d9b081329fb555de6ef460237dff8be4ba
    order := 0x7fffffffffffffffffffffff800000cfa7e8594377d414c03821bc582063 }),
  ([0x2a, 0x86, 0x48, 0xce, 0x3d, 0x03, 0x01, 0x06], {
    p := 0x7fffffffffffffffffffffff7fffffffffff8000000000007fffffffffff
    a := 0x7fffffffffffffffffffffff7fffffffffff8000000000007ffffffffffc
    b := 0x255705fa2a306654b1f4cb03d6a750a30c250102d4988717d9ba15ab6d3e
    gx := 0x6768ae8e18bb92cfcf005c949aa2c6d94853d0e660bbf854b1c9505fe95a
    gy := 0x1607e6898f390c06bc1d552bad226f3b6fcfe48b6e818499af18e3ed6cf3
    order := 0x7fffffffffffffffffffffff7fffff975deb41b3a6057c3c432146526551 }),
  ([0x67, 0x2b, 0x01, 0x04, 0x06], {
    p := 0xdb7c2abf62e35e668076bead208b
    a := 0xdb7c2abf62e35e668076bead2088
    b := 0x659ef8ba043916eede8911702b22
    gx := 0x9487239995a5ee76b55f9c2f098
    gy := 0xa89ce5af8724c0a23e0e0ff77500
    order := 0xdb7c2abf62e35e7628dfac6561c5 }),
  ([0x67, 0x2b, 0x01, 0x04, 0x07], {
    p := 0xfffffffffffffffffffffffffffffffeffffac73
    a := 0xfffffffffffffffffffffffffffffffeffffac70
    b := 0xb4e134d3fb59eb8bab57274904664d5af50388ba
    gx := 0x52dcb034293a117e1f4ff11b30f7199d3144ce6d
    gy := 0xfeaffef2e331f296e071fa0df9982cfea7d43f2e
    order := 0x100000000000000000000351ee786a818f3a1a16b }),
  ([0x67, 0x2b, 0x01, 0x04, 0x08], {
    p := 0xfffffffffffffffffffffffffde7
    a := 0x0
    b := 0x3
    gx := 0x1
    gy := 0x2
    order := 0x100000000000001ecea551ad837e9 }),
  ([0x67, 0x2b, 0x01, 0x04, 0x09], {
    p := 0xfffffffffffffffffffffffffffffffffffc808f
    a := 0x0
    b := 0x3
    gx := 0x1
    gy := 0x2
    order := 0x100000000000000000001cdc98ae0e2de574abf33 }),
  ([0x67, 0x2b, 0x01, 0x04, 0x0c], {
    p := 0xffffffffffffffffffffffffffffffff000000000000000000000001
    a := 0xfffffffffffffffffffffffffffffffefffffffffffffffffffffffe
    b := 0xb4050a850c04b3abf54132565044b0b7d7bfd8ba270b39432355ffb4
    gx := 0xb70e0cbd6bb4bf7f321390b94a03c1d356c21122343280d6115c1d21
    gy := 0xbd376388b5f723fb4c22dfe6cd4375a05a07476444d5819985007e34
    order := 0xffffffffffffffffffffffffffff16a2e0b8f03e13dd29455c5c2a3d }),
  ([0x2b, 0x24, 0x03, 0x03, 0x02, 0x08, 0x01, 0x01, 0x01], {
    p := 0xe95e4a5f737059dc60dfc7ad95b3d8139515620f
    a := 0x340e7be2a280eb74e2be61bada745d97e8f7c300
    b := 0x1e589a8595423412134faa2dbdec95c8d8675e58
    gx := 0xbed5af16ea3f6a4f62938c4631eb5af7bdbcdbc3
    gy := 0x1667cb477a1a8ec338f94741669c976316da6321
    order := 0xe95e4a5f737059dc60df5991d45029409e60fc09 }),
  ([0x2b, 0x24, 0x03, 0x03, 0x02, 0x08, 0x01, 0x01, 0x02], {
    p := 0xe95e4a5f737059dc60dfc7ad95b3d8139515620f
    a := 0xe95e4a5f737059dc60dfc7ad95b3d8139515620c
    b := 0x7a556b6dae535b7b51ed2c4d7daa7a0b5c55f380
    gx := 0xb199b13b9b34efc1397e64baeb05acc265ff2378
    gy := 0xadd6718b7c7c1961f0991b842443772152c9e0ad
    order := 0xe95e4a5f737059dc60df5991d45029409e60fc09 }),
  ([0x2b, 0x24, 0x03, 0x03, 0x02, 0x08, 0x01, 0x01, 0x03], {
    p := 0xc302f41d932a36cda7a3463093d18db78fce476de1a86297
    a := 0x6a91174076b1e0e19c39c031fe8685c1cae040e5c69a28ef
    b := 0x469a28ef7c28cca3dc721d044f4496bcca7ef4146fbf25c9
    gx := 0xc0a0647eaab6a48753b033c56cb0f0900a2f5c4853375fd6
    gy := 0x14b690866abd5bb88b5f4828c1490002e6773fa2fa299b8f
    order := 0xc302f41d932a36cda7a3462f9e9e916b5be8f1029ac4acc1 }),
  ([0x2b, 0x24, 0x03, 0x03, 0x02, 0x08, 0x01, 0x01, 0x04], {
    p := 0xc302f41d932a36cda7a3463093d18db78fce476de1a86297
    a := 0xc302f41d932a36cda7a3463093d18db78fce476de1a86294
    b := 0x13d56ffaec78681e68f9deb43b35bec2fb68542e27897b79
    gx := 0x3ae9e58c82f63c30282e1fe7bbf43fa72c446af6f4618129
    gy := 0x97e2c5667c2223a902ab5ca449d0084b7e5b3de7ccc01c9
    order := 0xc302f41d932a36cda7a3462f9e9e916b5be8f1029ac4acc1 }),
  ([0x2b, 0x24, 0x03, 0x03, 0x02, 0x08, 0x01, 0x01, 0x05], {
    p := 0xd7c134aa264366862a18302575d1d787b09f075797da89f57ec8c0ff
    a := 0x68a5e62ca9ce6c1c299803a6c1530b514e182ad8b0042a59cad29f43
    b := 0x2580f63ccfe44138870713b1a92369e33e2135d266dbb372386c400b
    gx := 0xd9029ad2c7e5cf4340823b2a87dc68c9e4ce3174c1e6efdee12c07d
    gy := 0x58aa56f772c0726f24c6b89e4ecdac24354b9e99caa3f6d3761402cd
    order := 0xd7c134aa264366862a18302575d0fb98d116bc4b6ddebca3a5a7939f }),
  ([0x2b, 0x24, 0x03, 0x03, 0x02, 0x08, 0x01, 0x01, 0x06], {
    p := 0xd7c134aa264366862a18302575d1d787b09f075797da89f57ec8c0ff
    a := 0xd7c134aa264366862a18302575d1d787b09f075797da89f57ec8c0fc
    b := 0x4b337d934104cd7bef271bf60ced1ed20da14c08b3bb64f18a60888d
    gx := 0x6ab1e344ce25ff3896424e7ffe14762ecb49f8928ac0c76029b4d580
    gy := 0x374e9f5143e568cd23f3f4d7c0d4b1e41c8cc0d1c6abd5f1a46db4c
    order := 0xd7c134aa264366862a18302575d0fb98d116bc4b6ddebca3a5a7939f }),
  ([0x2b, 0x24, 0x03, 0x03, 0x02, 0x08, 0x01, 0x01, 0x07], {
    p := 0xa9fb57dba1eea9bc3e660a909d838d726e3bf623d52620282013481d1f6e5377
    a := 0x7d5a0975fc2c3057eef67530417affe7fb8055c126dc5c6ce94a4b44f330b5d9
    b := 0x26dc5c6ce94a4b44f330b5d9bbd77cbf958416295cf7e1ce6bccdc18ff8c07b6
    gx := 0x8bd2aeb9cb7e57cb2c4b482ffc81b7afb9de27e1e3bd23c23a4453bd9ace3262
    gy := 0x547ef835c3dac4fd97f8461a14611dc9c27745132ded8e545c1d54c72f046997
    order := 0xa9fb57dba1eea9bc3e660a909d838d718c397aa3b561a6f7901e0e82974856a7 }),
  ([0x2b, 0x24, 0x03, 0x03, 0x02, 0x08, 0x01, 0x01, 0x08], {
    p := 0xa9fb57dba1eea9bc3e660a909d838d726e3bf623d52620282013481d1f6e5377
    a := 0xa9fb57dba1eea9bc3e660a909d838d726e3bf623d52620282013481d1f6e5374
    b := 0x662c61c430d84ea4fe66a7733d0b76b7bf93ebc4af2f49256ae58101fee92b04
    gx := 0xa3e8eb3cc1cfe7b7732213b23a656149afa142c47aafbc2b79a191562e1305f4
    gy := 0x2d996c823439c56d7f7b22e14644417e69bcb6de39d027001dabe8f35b25c9be
    order := 0xa9fb57dba1eea9bc3e660a909d838d718c397aa3b561a6f7901e0e82974856a7 }),
  ([0x2b, 0x24, 0x03, 0x03, 0x02, 0x08, 0x01, 0x01, 0x09], {
    p := 0xd35e472036bc4fb7e13c785ed201e065f98fcfa6f6f40def4f92b9ec7893ec28fcd412b1f1b32e27
    a := 0x3ee30b568fbab0f883ccebd46d3f3bb8a2a73513f5eb79da66190eb085ffa9f492f375a97d860eb4
    b := 0x520883949dfdbc42d3ad198640688a6fe13f41349554b49acc31dccd884539816f5eb4ac8fb1f1a6
    gx := 0x43bd7e9afb53d8b85289bcc48ee5bfe6f20137d10a087eb6e7871e2a10a599c710af8d0d39e20611
    gy := 0x14fdd05545ec1cc8ab4093247f77275e0743ffed117182eaa9c77877aaac6ac7d35245d1692e8ee1
    order := 0xd35e472036bc4fb7e13c785ed201e065f98fcfa5b68f12a32d482ec7ee8658e98691555b44c59311 }),
  ([0x2b, 0x24, 0x03, 0x03, 0x02, 0x08, 0x01, 0x01, 0x0a], {
    p := 0xd35e472036bc4fb7e13c785ed201e065f98fcfa6f6f40def4f92b9ec7893ec28fcd412b1f1b32e27
    a := 0xd35e472036bc4fb7e13c785ed201e065f98fcfa6f6f40def4f92b9ec7893ec28fcd412b1f1b32e24
    b := 0xa7f561e038eb1ed560b3d147db782013064c19f27ed27c6780aaf77fb8a547ceb5b4fef422340353
    gx := 0x925be9fb01afc6fb4d3e7d4990010f813408ab106c4f09cb7ee07868cc136fff3357f624a21bed52
    gy := 0x63ba3a7a27483ebf6671dbef7abb30ebee084e58a0b077ad42a5a0989d1ee71b1b9bc0455fb0d2c3
    order := 0xd35e472036bc4fb7e13c785ed201e065f98fcfa5b68f12a32d482ec7ee8658e98691555b44c59311 }),
  ([0x2b, 0x24, 0x03, 0x03, 0x02, 0x08, 0x01, 0x01, 0x0b], {
    p := 0x8cb91e82a3386d280f5d6f7e50e641df152f7109ed5456b412b1da197fb71123acd3a729901d1a71874700133107ec53
    a := 0x7bc382c63d8c150c3c72080ace05afa0c2bea28e4fb22787139165efba91f90f8aa5814a503ad4eb04a8c7dd22ce2826
    b := 0x4a8c7dd22ce28268b39b55416f0447c2fb77de107dcd2a62e880ea53eeb62d57cb4390295dbc9943ab78696fa504c11
    gx := 0x1d1c64f068cf45ffa2a63a81b7c13f6b8847a3e77ef14fe3db7fcafe0cbd10e8e826e03436d646aaef87b2e247d4af1e
    gy := 0x8abe1d7520f9c2a45cb1eb8e95cfd55262b70b29feec5864e19c054ff99129280e4646217791811142820341263c5315
    order := 0x8cb91e82a3386d280f5d6f7e50e641df152f7109ed5456b31f166e6cac0425a7cf3ab6af6b7fc3103b883202e9046565 }),
  ([0x2b, 0x24, 0x03, 0x03, 0x02, 0x08, 0x01, 0x01, 0x0c], {
    p := 0x8cb91e82a3386d280f5d6f7e50e641df152f7109ed5456b412b1da197fb71123acd3a729901d1a71874700133107ec53
    a := 0x8cb91e82a3386d280f5d6f7e50e641df152f7109ed5456b412b1da197fb71123acd3a729901d1a71874700133107ec50
    b := 0x7f519eada7bda81bd826dba647910f8c4b9346ed8ccdc64e4b1abd11756dce1d2074aa263b88805ced70355a33b471ee
    gx := 0x18de98b02db9a306f2afcd7235f72a819b80ab12ebd653172476fecd462aabffc4ff191b946a5f54d8d0aa2f418808cc
    gy := 0x25ab056962d30651a114afd2755ad336747f93475b7a1fca3b88f2b6a208ccfe469408584dc2b2912675bf5b9e582928
    order := 0x8cb91e82a3386d280f5d6f7e50e641df152f7109ed5456b31f166e6cac0425a7cf3ab6af6b7fc3103b883202e9046565 }),
  ([0x2b, 0x24, 0x03, 0x03, 0x02, 0x08, 0x01, 0x01, 0x0d], {
    p := 0xaadd9db8dbe9c48b3fd4e6ae33c9fc07cb308db3b3c9d20ed6639cca703308717d4d9b009bc66842aecda12ae6a380e62881ff2f2d82c68528aa6056583a48f3
    a := 0x7830a3318b603b89e2327145ac234cc594cbdd8d3df91610a83441caea9863bc2ded5d5aa8253aa10a2ef1c98b9ac8b57f1117a72bf2c7b9e7c1ac4d77fc94ca
    b := 0x3df91610a83441caea9863bc2ded5d5aa8253aa10a2ef1c98b9ac8b57f1117a72bf2c7b9e7c1ac4d77fc94cadc083e67984050b75ebae5dd2809bd638016f723
    gx := 0x81aee4bdd82ed9645a21322e9c4c6a9385ed9f70b5d916c1b43b62eef4d0098eff3b1f78e2d0d48d50d1687b93b97d5f7c6d5047406a5e688b352209bcb9f822
    gy := 0x7dde385d566332ecc0eabfa9cf7822fdf209f70024a57b1aa000c55b881f8111b2dcde494a5f485e5bca4bd88a2763aed1ca2b2fa8f0540678cd1e0f3ad80892
    order := 0xaadd9db8dbe9c48b3fd4e6ae33c9fc07cb308db3b3c9d20ed6639cca70330870553e5c414ca92619418661197fac10471db1d381085ddaddb58796829ca90069 }),
  ([0x2b, 0x24, 0x03, 0x03, 0x02, 0x08, 0x01, 0x01, 0x0e], {
    p := 0xaadd9db8dbe9c48b3fd4e6ae33c9fc07cb308db3b3c9d20ed6639cca703308717d4d9b009bc66842aecda12ae6a380e62881ff2f2d82c68528aa6056583a48f3
    a := 0xaadd9db8dbe9c48b3fd4e6ae33c9fc07cb308db3b3c9d20ed6639cca703308717d4d9b009bc66842aecda12ae6a380e62881ff2f2d82c68528aa6056583a48f0
    b := 0x7cbbbcf9441cfab76e1890e46884eae321f70c0bcb4981527897504bec3e36a62bcdfa2304976540f6450085f2dae145c22553b465763689180ea2571867423e
    gx := 0x640ece5c12788717b9c1ba06cbc2a6feba85842458c56dde9db1758d39c0313d82ba51735cdb3ea499aa77a7d6943a64f7a3f25fe26f06b51baa2696fa9035da
    gy := 0x5b534bd595f5af0fa2c892376c84ace1bb4e3019b71634c01131159cae03cee9d9932184beef216bd71df2dadf86a627306ecff96dbb8bace198b61e00f8b332
    order := 0xaadd9db8dbe9c48b3fd4e6ae33c9fc07cb308db3b3c9d20ed6639cca70330870553e5c414ca92619418661197fac10471db1d381085ddaddb58796829ca90069 })]

/-- The curves that are known by an object identifier. -/
def named : List (Bytes × Curve) := [
  ([0x2b, 0x81, 0x04, 0x00, 0x21], p224),
  ([0x2a, 0x86, 0x48, 0xce, 0x3d, 0x03, 0x01, 0x07], p256),
  ([0x2b, 0x81, 0x04, 0x00, 0x22], p384),
  ([0x2b, 0x81, 0x04, 0x00, 0x23], p521),
  ([0x2b, 0x81, 0x04, 0x00, 0x0a], k256),
  (sm2Identifier, sm2)] ++ others

end ChannelLedger.Curve
