import QueryGate.Text.Range
/-!
Letters and numerals of all scripts: the Unicode property Alphabetic and the general category N, version 17.
-/
set_option autoImplicit false

namespace QueryGate.Text

/-- Ranges of letters, packed. Part 1 of 4. -/
def letterRangesPart1 : List Nat := [
  0x000041_00005a, 0x000061_00007a, 0x0000aa_0000aa, 0x0000b5_0000b5, 0x0000ba_0000ba, 0x0000c0_0000d6,
  0x0000d8_0000f6, 0x0000f8_0002c1, 0x0002c6_0002d1, 0x0002e0_0002e4, 0x0002ec_0002ec, 0x0002ee_0002ee,
  0x000345_000345, 0x000363_000374, 0x000376_000377, 0x00037a_00037d, 0x00037f_00037f, 0x000386_000386,
  0x000388_00038a, 0x00038c_00038c, 0x00038e_0003a1, 0x0003a3_0003f5, 0x0003f7_000481, 0x00048a_00052f,
  0x000531_000556, 0x000559_000559, 0x000560_000588, 0x0005b0_0005bd, 0x0005bf_0005bf, 0x0005c1_0005c2,
  0x0005c4_0005c5, 0x0005c7_0005c7, 0x0005d0_0005ea, 0x0005ef_0005f2, 0x000610_00061a, 0x000620_000657,
  0x000659_00065f, 0x00066e_0006d3, 0x0006d5_0006dc, 0x0006e1_0006e8, 0x0006ed_0006ef, 0x0006fa_0006fc,
  0x0006ff_0006ff, 0x000710_00073f, 0x00074d_0007b1, 0x0007ca_0007ea, 0x0007f4_0007f5, 0x0007fa_0007fa,
  0x000800_000817, 0x00081a_00082c, 0x000840_000858, 0x000860_00086a, 0x000870_000887, 0x000889_00088f,
  0x000897_000897, 0x0008a0_0008c9, 0x0008d4_0008df, 0x0008e3_0008e9, 0x0008f0_00093b, 0x00093d_00094c,
  0x00094e_000950, 0x000955_000963, 0x000971_000983, 0x000985_00098c, 0x00098f_000990, 0x000993_0009a8,
  0x0009aa_0009b0, 0x0009b2_0009b2, 0x0009b6_0009b9, 0x0009bd_0009c4, 0x0009c7_0009c8, 0x0009cb_0009cc,
  0x0009ce_0009ce, 0x0009d7_0009d7, 0x0009dc_0009dd, 0x0009df_0009e3, 0x0009f0_0009f1, 0x0009fc_0009fc,
  0x000a01_000a03, 0x000a05_000a0a, 0x000a0f_000a10, 0x000a13_000a28, 0x000a2a_000a30, 0x000a32_000a33,
  0x000a35_000a36, 0x000a38_000a39, 0x000a3e_000a42, 0x000a47_000a48, 0x000a4b_000a4c, 0x000a51_000a51,
  0x000a59_000a5c, 0x000a5e_000a5e, 0x000a70_000a75, 0x000a81_000a83, 0x000a85_000a8d, 0x000a8f_000a91,
  0x000a93_000aa8, 0x000aaa_000ab0, 0x000ab2_000ab3, 0x000ab5_000ab9, 0x000abd_000ac5, 0x000ac7_000ac9,
  0x000acb_000acc, 0x000ad0_000ad0, 0x000ae0_000ae3, 0x000af9_000afc, 0x000b01_000b03, 0x000b05_000b0c,
  0x000b0f_000b10, 0x000b13_000b28, 0x000b2a_000b30, 0x000b32_000b33, 0x000b35_000b39, 0x000b3d_000b44,
  0x000b47_000b48, 0x000b4b_000b4c, 0x000b56_000b57, 0x000b5c_000b5d, 0x000b5f_000b63, 0x000b71_000b71,
  0x000b82_000b83, 0x000b85_000b8a, 0x000b8e_000b90, 0x000b92_000b95, 0x000b99_000b9a, 0x000b9c_000b9c,
  0x000b9e_000b9f, 0x000ba3_000ba4, 0x000ba8_000baa, 0x000bae_000bb9, 0x000bbe_000bc2, 0x000bc6_000bc8,
  0x000bca_000bcc, 0x000bd0_000bd0, 0x000bd7_000bd7, 0x000c00_000c0c, 0x000c0e_000c10, 0x000c12_000c28,
  0x000c2a_000c39, 0x000c3d_000c44, 0x000c46_000c48, 0x000c4a_000c4c, 0x000c55_000c56, 0x000c58_000c5a,
  0x000c5c_000c5d, 0x000c60_000c63, 0x000c80_000c83, 0x000c85_000c8c, 0x000c8e_000c90, 0x000c92_000ca8,
  0x000caa_000cb3, 0x000cb5_000cb9, 0x000cbd_000cc4, 0x000cc6_000cc8, 0x000cca_000ccc, 0x000cd5_000cd6,
  0x000cdc_000cde, 0x000ce0_000ce3, 0x000cf1_000cf3, 0x000d00_000d0c, 0x000d0e_000d10, 0x000d12_000d3a,
  0x000d3d_000d44, 0x000d46_000d48, 0x000d4a_000d4c, 0x000d4e_000d4e, 0x000d54_000d57, 0x000d5f_000d63,
  0x000d7a_000d7f, 0x000d81_000d83, 0x000d85_000d96, 0x000d9a_000db1, 0x000db3_000dbb, 0x000dbd_000dbd,
  0x000dc0_000dc6, 0x000dcf_000dd4, 0x000dd6_000dd6, 0x000dd8_000ddf, 0x000df2_000df3, 0x000e01_000e3a,
  0x000e40_000e46, 0x000e4d_000e4d, 0x000e81_000e82, 0x000e84_000e84, 0x000e86_000e8a, 0x000e8c_000ea3,
  0x000ea5_000ea5, 0x000ea7_000eb9, 0x000ebb_000ebd, 0x000ec0_000ec4, 0x000ec6_000ec6, 0x000ecd_000ecd,
  0x000edc_000edf, 0x000f00_000f00, 0x000f40_000f47, 0x000f49_000f6c, 0x000f71_000f83, 0x000f88_000f97,
  0x000f99_000fbc, 0x001000_001036, 0x001038_001038, 0x00103b_00103f, 0x001050_00108f, 0x00109a_00109d,
  0x0010a0_0010c5, 0x0010c7_0010c7, 0x0010cd_0010cd, 0x0010d0_0010fa, 0x0010fc_001248, 0x00124a_00124d,
  0x001250_001256, 0x001258_001258, 0x00125a_00125d, 0x001260_001288, 0x00128a_00128d, 0x001290_0012b0,
  0x0012b2_0012b5, 0x0012b8_0012be, 0x0012c0_0012c0, 0x0012c2_0012c5, 0x0012c8_0012d6, 0x0012d8_001310,
  0x001312_001315, 0x001318_00135a, 0x001380_00138f, 0x0013a0_0013f5, 0x0013f8_0013fd, 0x001401_00166c,
  0x00166f_00167f, 0x001681_00169a, 0x0016a0_0016ea, 0x0016ee_0016f8, 0x001700_001713, 0x00171f_001733,
  0x001740_001753, 0x001760_00176c, 0x00176e_001770, 0x001772_001773, 0x001780_0017b3, 0x0017b6_0017c8]

/-- Ranges of letters, packed. Part 2 of 4. -/
def letterRangesPart2 : List Nat := [
  0x0017d7_0017d7, 0x0017dc_0017dc, 0x001820_001878, 0x001880_0018aa, 0x0018b0_0018f5, 0x001900_00191e,
  0x001920_00192b, 0x001930_001938, 0x001950_00196d, 0x001970_001974, 0x001980_0019ab, 0x0019b0_0019c9,
  0x001a00_001a1b, 0x001a20_001a5e, 0x001a61_001a74, 0x001aa7_001aa7, 0x001abf_001ac0, 0x001acc_001ace,
  0x001b00_001b33, 0x001b35_001b43, 0x001b45_001b4c, 0x001b80_001ba9, 0x001bac_001baf, 0x001bba_001be5,
  0x001be7_001bf1, 0x001c00_001c36, 0x001c4d_001c4f, 0x001c5a_001c7d, 0x001c80_001c8a, 0x001c90_001cba,
  0x001cbd_001cbf, 0x001ce9_001cec, 0x001cee_001cf3, 0x001cf5_001cf6, 0x001cfa_001cfa, 0x001d00_001dbf,
  0x001dd3_001df4, 0x001e00_001f15, 0x001f18_001f1d, 0x001f20_001f45, 0x001f48_001f4d, 0x001f50_001f57,
  0x001f59_001f59, 0x001f5b_001f5b, 0x001f5d_001f5d, 0x001f5f_001f7d, 0x001f80_001fb4, 0x001fb6_001fbc,
  0x001fbe_001fbe, 0x001fc2_001fc4, 0x001fc6_001fcc, 0x001fd0_001fd3, 0x001fd6_001fdb, 0x001fe0_001fec,
  0x001ff2_001ff4, 0x001ff6_001ffc, 0x002071_002071, 0x00207f_00207f, 0x002090_00209c, 0x002102_002102,
  0x002107_002107, 0x00210a_002113, 0x002115_002115, 0x002119_00211d, 0x002124_002124, 0x002126_002126,
  0x002128_002128, 0x00212a_00212d, 0x00212f_002139, 0x00213c_00213f, 0x002145_002149, 0x00214e_00214e,
  0x002160_002188, 0x0024b6_0024e9, 0x002c00_002ce4, 0x002ceb_002cee, 0x002cf2_002cf3, 0x002d00_002d25,
  0x002d27_002d27, 0x002d2d_002d2d, 0x002d30_002d67, 0x002d6f_002d6f, 0x002d80_002d96, 0x002da0_002da6,
  0x002da8_002dae, 0x002db0_002db6, 0x002db8_002dbe, 0x002dc0_002dc6, 0x002dc8_002dce, 0x002dd0_002dd6,
  0x002dd8_002dde, 0x002de0_002dff, 0x002e2f_002e2f, 0x003005_003007, 0x003021_003029, 0x003031_003035,
  0x003038_00303c, 0x003041_003096, 0x00309d_00309f, 0x0030a1_0030fa, 0x0030fc_0030ff, 0x003105_00312f,
  0x003131_00318e, 0x0031a0_0031bf, 0x0031f0_0031ff, 0x003400_004dbf, 0x004e00_00a48c, 0x00a4d0_00a4fd,
  0x00a500_00a60c, 0x00a610_00a61f, 0x00a62a_00a62b, 0x00a640_00a66e, 0x00a674_00a67b, 0x00a67f_00a6ef,
  0x00a717_00a71f, 0x00a722_00a788, 0x00a78b_00a7dc, 0x00a7f1_00a805, 0x00a807_00a827, 0x00a840_00a873,
  0x00a880_00a8c3, 0x00a8c5_00a8c5, 0x00a8f2_00a8f7, 0x00a8fb_00a8fb, 0x00a8fd_00a8ff, 0x00a90a_00a92a,
  0x00a930_00a952, 0x00a960_00a97c, 0x00a980_00a9b2, 0x00a9b4_00a9bf, 0x00a9cf_00a9cf, 0x00a9e0_00a9ef,
  0x00a9fa_00a9fe, 0x00aa00_00aa36, 0x00aa40_00aa4d, 0x00aa60_00aa76, 0x00aa7a_00aabe, 0x00aac0_00aac0,
  0x00aac2_00aac2, 0x00aadb_00aadd, 0x00aae0_00aaef, 0x00aaf2_00aaf5, 0x00ab01_00ab06, 0x00ab09_00ab0e,
  0x00ab11_00ab16, 0x00ab20_00ab26, 0x00ab28_00ab2e, 0x00ab30_00ab5a, 0x00ab5c_00ab69, 0x00ab70_00abea,
  0x00ac00_00d7a3, 0x00d7b0_00d7c6, 0x00d7cb_00d7fb, 0x00f900_00fa6d, 0x00fa70_00fad9, 0x00fb00_00fb06,
  0x00fb13_00fb17, 0x00fb1d_00fb28, 0x00fb2a_00fb36, 0x00fb38_00fb3c, 0x00fb3e_00fb3e, 0x00fb40_00fb41,
  0x00fb43_00fb44, 0x00fb46_00fbb1, 0x00fbd3_00fd3d, 0x00fd50_00fd8f, 0x00fd92_00fdc7, 0x00fdf0_00fdfb,
  0x00fe70_00fe74, 0x00fe76_00fefc, 0x00ff21_00ff3a, 0x00ff41_00ff5a, 0x00ff66_00ffbe, 0x00ffc2_00ffc7,
  0x00ffca_00ffcf, 0x00ffd2_00ffd7, 0x00ffda_00ffdc, 0x010000_01000b, 0x01000d_010026, 0x010028_01003a,
  0x01003c_01003d, 0x01003f_01004d, 0x010050_01005d, 0x010080_0100fa, 0x010140_010174, 0x010280_01029c,
  0x0102a0_0102d0, 0x010300_01031f, 0x01032d_01034a, 0x010350_01037a, 0x010380_01039d, 0x0103a0_0103c3,
  0x0103c8_0103cf, 0x0103d1_0103d5, 0x010400_01049d, 0x0104b0_0104d3, 0x0104d8_0104fb, 0x010500_010527,
  0x010530_010563, 0x010570_01057a, 0x01057c_01058a, 0x01058c_010592, 0x010594_010595, 0x010597_0105a1,
  0x0105a3_0105b1, 0x0105b3_0105b9, 0x0105bb_0105bc, 0x0105c0_0105f3, 0x010600_010736, 0x010740_010755,
  0x010760_010767, 0x010780_010785, 0x010787_0107b0, 0x0107b2_0107ba, 0x010800_010805, 0x010808_010808,
  0x01080a_010835, 0x010837_010838, 0x01083c_01083c, 0x01083f_010855, 0x010860_010876, 0x010880_01089e,
  0x0108e0_0108f2, 0x0108f4_0108f5, 0x010900_010915, 0x010920_010939, 0x010940_010959, 0x010980_0109b7,
  0x0109be_0109bf, 0x010a00_010a03, 0x010a05_010a06, 0x010a0c_010a13, 0x010a15_010a17, 0x010a19_010a35,
  0x010a60_010a7c, 0x010a80_010a9c, 0x010ac0_010ac7, 0x010ac9_010ae4, 0x010b00_010b35, 0x010b40_010b55]

/-- Ranges of letters, packed. Part 3 of 4. -/
def letterRangesPart3 : List Nat := [
  0x010b60_010b72, 0x010b80_010b91, 0x010c00_010c48, 0x010c80_010cb2, 0x010cc0_010cf2, 0x010d00_010d27,
  0x010d4a_010d65, 0x010d69_010d69, 0x010d6f_010d85, 0x010e80_010ea9, 0x010eab_010eac, 0x010eb0_010eb1,
  0x010ec2_010ec7, 0x010efa_010efc, 0x010f00_010f1c, 0x010f27_010f27, 0x010f30_010f45, 0x010f70_010f81,
  0x010fb0_010fc4, 0x010fe0_010ff6, 0x011000_011045, 0x011071_011075, 0x011080_0110b8, 0x0110c2_0110c2,
  0x0110d0_0110e8, 0x011100_011132, 0x011144_011147, 0x011150_011172, 0x011176_011176, 0x011180_0111bf,
  0x0111c1_0111c4, 0x0111ce_0111cf, 0x0111da_0111da, 0x0111dc_0111dc, 0x011200_011211, 0x011213_011234,
  0x011237_011237, 0x01123e_011241, 0x011280_011286, 0x011288_011288, 0x01128a_01128d, 0x01128f_01129d,
  0x01129f_0112a8, 0x0112b0_0112e8, 0x011300_011303, 0x011305_01130c, 0x01130f_011310, 0x011313_011328,
  0x01132a_011330, 0x011332_011333, 0x011335_011339, 0x01133d_011344, 0x011347_011348, 0x01134b_01134c,
  0x011350_011350, 0x011357_011357, 0x01135d_011363, 0x011380_011389, 0x01138b_01138b, 0x01138e_01138e,
  0x011390_0113b5, 0x0113b7_0113c0, 0x0113c2_0113c2, 0x0113c5_0113c5, 0x0113c7_0113ca, 0x0113cc_0113cd,
  0x0113d1_0113d1, 0x0113d3_0113d3, 0x011400_011441, 0x011443_011445, 0x011447_01144a, 0x01145f_011461,
  0x011480_0114c1, 0x0114c4_0114c5, 0x0114c7_0114c7, 0x011580_0115b5, 0x0115b8_0115be, 0x0115d8_0115dd,
  0x011600_01163e, 0x011640_011640, 0x011644_011644, 0x011680_0116b5, 0x0116b8_0116b8, 0x011700_01171a,
  0x01171d_01172a, 0x011740_011746, 0x011800_011838, 0x0118a0_0118df, 0x0118ff_011906, 0x011909_011909,
  0x01190c_011913, 0x011915_011916, 0x011918_011935, 0x011937_011938, 0x01193b_01193c, 0x01193f_011942,
  0x0119a0_0119a7, 0x0119aa_0119d7, 0x0119da_0119df, 0x0119e1_0119e1, 0x0119e3_0119e4, 0x011a00_011a32,
  0x011a35_011a3e, 0x011a50_011a97, 0x011a9d_011a9d, 0x011ab0_011af8, 0x011b60_011b67, 0x011bc0_011be0,
  0x011c00_011c08, 0x011c0a_011c36, 0x011c38_011c3e, 0x011c40_011c40, 0x011c72_011c8f, 0x011c92_011ca7,
  0x011ca9_011cb6, 0x011d00_011d06, 0x011d08_011d09, 0x011d0b_011d36, 0x011d3a_011d3a, 0x011d3c_011d3d,
  0x011d3f_011d41, 0x011d43_011d43, 0x011d46_011d47, 0x011d60_011d65, 0x011d67_011d68, 0x011d6a_011d8e,
  0x011d90_011d91, 0x011d93_011d96, 0x011d98_011d98, 0x011db0_011ddb, 0x011ee0_011ef6, 0x011f00_011f10,
  0x011f12_011f3a, 0x011f3e_011f40, 0x011fb0_011fb0, 0x012000_012399, 0x012400_01246e, 0x012480_012543,
  0x012f90_012ff0, 0x013000_01342f, 0x013441_013446, 0x013460_0143fa, 0x014400_014646, 0x016100_01612e,
  0x016800_016a38, 0x016a40_016a5e, 0x016a70_016abe, 0x016ad0_016aed, 0x016b00_016b2f, 0x016b40_016b43,
  0x016b63_016b77, 0x016b7d_016b8f, 0x016d40_016d6c, 0x016e40_016e7f, 0x016ea0_016eb8, 0x016ebb_016ed3,
  0x016f00_016f4a, 0x016f4f_016f87, 0x016f8f_016f9f, 0x016fe0_016fe1, 0x016fe3_016fe3, 0x016ff0_016ff6,
  0x017000_018cd5, 0x018cff_018d1e, 0x018d80_018df2, 0x01aff0_01aff3, 0x01aff5_01affb, 0x01affd_01affe,
  0x01b000_01b122, 0x01b132_01b132, 0x01b150_01b152, 0x01b155_01b155, 0x01b164_01b167, 0x01b170_01b2fb,
  0x01bc00_01bc6a, 0x01bc70_01bc7c, 0x01bc80_01bc88, 0x01bc90_01bc99, 0x01bc9e_01bc9e, 0x01d400_01d454,
  0x01d456_01d49c, 0x01d49e_01d49f, 0x01d4a2_01d4a2, 0x01d4a5_01d4a6, 0x01d4a9_01d4ac, 0x01d4ae_01d4b9,
  0x01d4bb_01d4bb, 0x01d4bd_01d4c3, 0x01d4c5_01d505, 0x01d507_01d50a, 0x01d50d_01d514, 0x01d516_01d51c,
  0x01d51e_01d539, 0x01d53b_01d53e, 0x01d540_01d544, 0x01d546_01d546, 0x01d54a_01d550, 0x01d552_01d6a5,
  0x01d6a8_01d6c0, 0x01d6c2_01d6da, 0x01d6dc_01d6fa, 0x01d6fc_01d714, 0x01d716_01d734, 0x01d736_01d74e,
  0x01d750_01d76e, 0x01d770_01d788, 0x01d78a_01d7a8, 0x01d7aa_01d7c2, 0x01d7c4_01d7cb, 0x01df00_01df1e,
  0x01df25_01df2a, 0x01e000_01e006, 0x01e008_01e018, 0x01e01b_01e021, 0x01e023_01e024, 0x01e026_01e02a,
  0x01e030_01e06d, 0x01e08f_01e08f, 0x01e100_01e12c, 0x01e137_01e13d, 0x01e14e_01e14e, 0x01e290_01e2ad,
  0x01e2c0_01e2eb, 0x01e4d0_01e4eb, 0x01e5d0_01e5ed, 0x01e5f0_01e5f0, 0x01e6c0_01e6de, 0x01e6e0_01e6f5,
  0x01e6fe_01e6ff, 0x01e7e0_01e7e6, 0x01e7e8_01e7eb, 0x01e7ed_01e7ee, 0x01e7f0_01e7fe, 0x01e800_01e8c4,
  0x01e900_01e943, 0x01e947_01e947, 0x01e94b_01e94b, 0x01ee00_01ee03, 0x01ee05_01ee1f, 0x01ee21_01ee22]

/-- Ranges of letters, packed. Part 4 of 4. -/
def letterRangesPart4 : List Nat := [
  0x01ee24_01ee24, 0x01ee27_01ee27, 0x01ee29_01ee32, 0x01ee34_01ee37, 0x01ee39_01ee39, 0x01ee3b_01ee3b,
  0x01ee42_01ee42, 0x01ee47_01ee47, 0x01ee49_01ee49, 0x01ee4b_01ee4b, 0x01ee4d_01ee4f, 0x01ee51_01ee52,
  0x01ee54_01ee54, 0x01ee57_01ee57, 0x01ee59_01ee59, 0x01ee5b_01ee5b, 0x01ee5d_01ee5d, 0x01ee5f_01ee5f,
  0x01ee61_01ee62, 0x01ee64_01ee64, 0x01ee67_01ee6a, 0x01ee6c_01ee72, 0x01ee74_01ee77, 0x01ee79_01ee7c,
  0x01ee7e_01ee7e, 0x01ee80_01ee89, 0x01ee8b_01ee9b, 0x01eea1_01eea3, 0x01eea5_01eea9, 0x01eeab_01eebb,
  0x01f130_01f149, 0x01f150_01f169, 0x01f170_01f189, 0x020000_02a6df, 0x02a700_02b81d, 0x02b820_02cead,
  0x02ceb0_02ebe0, 0x02ebf0_02ee5d, 0x02f800_02fa1d, 0x030000_03134a, 0x031350_033479]

/-- Ranges of letters, packed. -/
def letterRanges : List Nat :=
  letterRangesPart1 ++ letterRangesPart2 ++ letterRangesPart3 ++ letterRangesPart4

/-- Ranges of numerals, packed. -/
def numeralRanges : List Nat := [
  0x000030_000039, 0x0000b2_0000b3, 0x0000b9_0000b9, 0x0000bc_0000be, 0x000660_000669, 0x0006f0_0006f9,
  0x0007c0_0007c9, 0x000966_00096f, 0x0009e6_0009ef, 0x0009f4_0009f9, 0x000a66_000a6f, 0x000ae6_000aef,
  0x000b66_000b6f, 0x000b72_000b77, 0x000be6_000bf2, 0x000c66_000c6f, 0x000c78_000c7e, 0x000ce6_000cef,
  0x000d58_000d5e, 0x000d66_000d78, 0x000de6_000def, 0x000e50_000e59, 0x000ed0_000ed9, 0x000f20_000f33,
  0x001040_001049, 0x001090_001099, 0x001369_00137c, 0x0016ee_0016f0, 0x0017e0_0017e9, 0x0017f0_0017f9,
  0x001810_001819, 0x001946_00194f, 0x0019d0_0019da, 0x001a80_001a89, 0x001a90_001a99, 0x001b50_001b59,
  0x001bb0_001bb9, 0x001c40_001c49, 0x001c50_001c59, 0x002070_002070, 0x002074_002079, 0x002080_002089,
  0x002150_002182, 0x002185_002189, 0x002460_00249b, 0x0024ea_0024ff, 0x002776_002793, 0x002cfd_002cfd,
  0x003007_003007, 0x003021_003029, 0x003038_00303a, 0x003192_003195, 0x003220_003229, 0x003248_00324f,
  0x003251_00325f, 0x003280_003289, 0x0032b1_0032bf, 0x00a620_00a629, 0x00a6e6_00a6ef, 0x00a830_00a835,
  0x00a8d0_00a8d9, 0x00a900_00a909, 0x00a9d0_00a9d9, 0x00a9f0_00a9f9, 0x00aa50_00aa59, 0x00abf0_00abf9,
  0x00ff10_00ff19, 0x010107_010133, 0x010140_010178, 0x01018a_01018b, 0x0102e1_0102fb, 0x010320_010323,
  0x010341_010341, 0x01034a_01034a, 0x0103d1_0103d5, 0x0104a0_0104a9, 0x010858_01085f, 0x010879_01087f,
  0x0108a7_0108af, 0x0108fb_0108ff, 0x010916_01091b, 0x0109bc_0109bd, 0x0109c0_0109cf, 0x0109d2_0109ff,
  0x010a40_010a48, 0x010a7d_010a7e, 0x010a9d_010a9f, 0x010aeb_010aef, 0x010b58_010b5f, 0x010b78_010b7f,
  0x010ba9_010baf, 0x010cfa_010cff, 0x010d30_010d39, 0x010d40_010d49, 0x010e60_010e7e, 0x010f1d_010f26,
  0x010f51_010f54, 0x010fc5_010fcb, 0x011052_01106f, 0x0110f0_0110f9, 0x011136_01113f, 0x0111d0_0111d9,
  0x0111e1_0111f4, 0x0112f0_0112f9, 0x011450_011459, 0x0114d0_0114d9, 0x011650_011659, 0x0116c0_0116c9,
  0x0116d0_0116e3, 0x011730_01173b, 0x0118e0_0118f2, 0x011950_011959, 0x011bf0_011bf9, 0x011c50_011c6c,
  0x011d50_011d59, 0x011da0_011da9, 0x011de0_011de9, 0x011f50_011f59, 0x011fc0_011fd4, 0x012400_01246e,
  0x016130_016139, 0x016a60_016a69, 0x016ac0_016ac9, 0x016b50_016b59, 0x016b5b_016b61, 0x016d70_016d79,
  0x016e80_016e96, 0x016ff4_016ff6, 0x01ccf0_01ccf9, 0x01d2c0_01d2d3, 0x01d2e0_01d2f3, 0x01d360_01d378,
  0x01d7ce_01d7ff, 0x01e140_01e149, 0x01e2f0_01e2f9, 0x01e4f0_01e4f9, 0x01e5f1_01e5fa, 0x01e8c7_01e8cf,
  0x01e950_01e959, 0x01ec71_01ecab, 0x01ecad_01ecaf, 0x01ecb1_01ecb4, 0x01ed01_01ed2d, 0x01ed2f_01ed3d,
  0x01f100_01f10c, 0x01fbf0_01fbf9]

/-- Whether a character is a letter. ASCII is settled without the table. -/
def isLetter (c : Char) : Bool := if c.toNat < 0x80 then c.isAlpha else letterRanges.any (inPackedRange c.toNat)

/-- Whether a character is a numeral. ASCII is settled without the table. -/
def isNumeral (c : Char) : Bool := if c.toNat < 0x80 then c.isDigit else numeralRanges.any (inPackedRange c.toNat)

/-- Whether a character is a letter or a numeral. -/
def isAlphanumeric (c : Char) : Bool := isLetter c || isNumeral c

end QueryGate.Text
