/-!
Decompositions of characters beyond U+FFFF: letters with marks, letters for mathematics and enclosed characters.
-/
set_option autoImplicit false

namespace QueryGate.Text.Decomposition

/-- The decompositions of U+10500 to U+105FF. -/
def page105 : List Nat :=
  [
    0x0105d2_000307_0105c9, 0x0105da_000307_0105e4]

/-- The decompositions of U+10700 to U+107FF. -/
def page107 : List Nat :=
  [
    0x0002d0_010781, 0x0002d1_010782, 0x0000e6_010783, 0x000299_010784, 0x000253_010785, 0x0002a3_010787,
    0x00ab66_010788, 0x0002a5_010789, 0x0002a4_01078a, 0x000256_01078b, 0x000257_01078c, 0x001d91_01078d,
    0x000258_01078e, 0x00025e_01078f, 0x0002a9_010790, 0x000264_010791, 0x000262_010792, 0x000260_010793,
    0x00029b_010794, 0x000127_010795, 0x00029c_010796, 0x000267_010797, 0x000284_010798, 0x0002aa_010799,
    0x0002ab_01079a, 0x00026c_01079b, 0x01df04_01079c, 0x00a78e_01079d, 0x00026e_01079e, 0x01df05_01079f,
    0x00028e_0107a0, 0x01df06_0107a1, 0x0000f8_0107a2, 0x000276_0107a3, 0x000277_0107a4, 0x000071_0107a5,
    0x00027a_0107a6, 0x01df08_0107a7, 0x00027d_0107a8, 0x00027e_0107a9, 0x000280_0107aa, 0x0002a8_0107ab,
    0x0002a6_0107ac, 0x00ab67_0107ad, 0x0002a7_0107ae, 0x000288_0107af, 0x002c71_0107b0, 0x00028f_0107b2,
    0x0002a1_0107b3, 0x0002a2_0107b4, 0x000298_0107b5, 0x01df0a_0107b9, 0x01df1e_0107ba]

/-- The decompositions of U+11000 to U+110FF. -/
def page110 : List Nat :=
  [
    0x011099_0110ba_01109a, 0x01109b_0110ba_01109c, 0x0110a5_0110ba_0110ab]

/-- The decompositions of U+11100 to U+111FF. -/
def page111 : List Nat :=
  [
    0x011131_011127_01112e, 0x011132_011127_01112f]

/-- The decompositions of U+11300 to U+113FF. -/
def page113 : List Nat :=
  [
    0x011347_01133e_01134b, 0x011347_011357_01134c, 0x011382_0113c9_011383, 0x011384_0113bb_011385,
    0x01138b_0113c2_01138e, 0x011390_0113c9_011391, 0x0113c2_0113c2_0113c5, 0x0113c2_0113b8_0113c7,
    0x0113c2_0113c9_0113c8]

/-- The decompositions of U+11400 to U+114FF. -/
def page114 : List Nat :=
  [
    0x0114b9_0114ba_0114bb, 0x0114b9_0114b0_0114bc, 0x0114b9_0114bd_0114be]

/-- The decompositions of U+11500 to U+115FF. -/
def page115 : List Nat :=
  [
    0x0115b8_0115af_0115ba, 0x0115b9_0115af_0115bb]

/-- The decompositions of U+11900 to U+119FF. -/
def page119 : List Nat :=
  [
    0x011935_011930_011938]

/-- The decompositions of U+16100 to U+161FF. -/
def page161 : List Nat :=
  [
    0x01611e_01611e_016121, 0x01611e_016129_016122, 0x01611e_01611f_016123, 0x016129_01611f_016124,
    0x01611e_016120_016125, 0x01611e_01611e_01611f_016126, 0x01611e_016129_01611f_016127,
    0x01611e_01611e_016120_016128]

/-- The decompositions of U+16D00 to U+16DFF. -/
def page16D : List Nat :=
  [
    0x016d67_016d67_016d68, 0x016d63_016d67_016d69, 0x016d63_016d67_016d67_016d6a]

/-- The decompositions of U+1D100 to U+1D1FF. -/
def page1D1 : List Nat :=
  [
    0x01d157_01d165_01d15e, 0x01d158_01d165_01d15f, 0x01d158_01d165_01d16e_01d160,
    0x01d158_01d165_01d16f_01d161, 0x01d158_01d165_01d170_01d162, 0x01d158_01d165_01d171_01d163,
    0x01d158_01d165_01d172_01d164, 0x01d1b9_01d165_01d1bb, 0x01d1ba_01d165_01d1bc,
    0x01d1b9_01d165_01d16e_01d1bd, 0x01d1ba_01d165_01d16e_01d1be, 0x01d1b9_01d165_01d16f_01d1bf,
    0x01d1ba_01d165_01d16f_01d1c0]

/-- The decompositions of U+1D400 to U+1D4FF. -/
def page1D4 : List Nat :=
  [
    0x000041_01d49c, 0x000043_01d49e, 0x000044_01d49f, 0x000047_01d4a2, 0x00004a_01d4a5, 0x00004b_01d4a6,
    0x000066_01d4bb]

/-- The decompositions of U+1D500 to U+1D5FF. -/
def page1D5 : List Nat :=
  [
    0x000041_01d504, 0x000042_01d505, 0x000041_01d538, 0x000042_01d539, 0x00004f_01d546]

/-- The decompositions of U+1D600 to U+1D6FF. -/
def page1D6 : List Nat :=
  [
    0x000131_01d6a4, 0x000237_01d6a5, 0x0000df_01d6a6, 0x000398_01d6b9, 0x002207_01d6c1, 0x002202_01d6db,
    0x0003b5_01d6dc, 0x0003b8_01d6dd, 0x0003ba_01d6de, 0x0003c6_01d6df, 0x0003c1_01d6e0, 0x0003c0_01d6e1,
    0x000398_01d6f3, 0x002207_01d6fb]

/-- The decompositions of U+1D700 to U+1D7FF. -/
def page1D7 : List Nat :=
  [
    0x002202_01d715, 0x0003b5_01d716, 0x0003b8_01d717, 0x0003ba_01d718, 0x0003c6_01d719, 0x0003c1_01d71a,
    0x0003c0_01d71b, 0x000398_01d72d, 0x002207_01d735, 0x002202_01d74f, 0x0003b5_01d750, 0x0003b8_01d751,
    0x0003ba_01d752, 0x0003c6_01d753, 0x0003c1_01d754, 0x0003c0_01d755, 0x000398_01d767, 0x002207_01d76f,
    0x002202_01d789, 0x0003b5_01d78a, 0x0003b8_01d78b, 0x0003ba_01d78c, 0x0003c6_01d78d, 0x0003c1_01d78e,
    0x0003c0_01d78f, 0x000398_01d7a1, 0x002207_01d7a9, 0x002202_01d7c3, 0x0003b5_01d7c4, 0x0003b8_01d7c5,
    0x0003ba_01d7c6, 0x0003c6_01d7c7, 0x0003c1_01d7c8, 0x0003c0_01d7c9, 0x0003dc_01d7ca, 0x0003dd_01d7cb]

/-- The decompositions of U+1DF00 to U+1DFFF. -/
def page1DF : List Nat :=
  [
    0x0000df_01df95, 0x000180_01dfd2, 0x000111_01dfd3, 0x0001e5_01dfd4, 0x000142_01dfd5, 0x00019a_01dfd6,
    0x000249_01dfd9, 0x00019e_01dfdc, 0x000238_01dfde, 0x000239_01dfdf, 0x000221_01dfef, 0x000234_01dff0,
    0x000235_01dff1, 0x000236_01dff2, 0x000188_01dffa, 0x000199_01dffb, 0x0001a5_01dffc, 0x0001ad_01dffe]

/-- The decompositions of U+1E000 to U+1E0FF. -/
def page1E0 : List Nat :=
  [
    0x00044b_01e047, 0x00044d_01e048, 0x00044e_01e049, 0x00a689_01e04a, 0x0004d9_01e04b, 0x000456_01e04c,
    0x000458_01e04d, 0x0004e9_01e04e, 0x0004af_01e04f, 0x0004cf_01e050, 0x00043a_01e05a, 0x00043b_01e05b,
    0x00043e_01e05c, 0x00043f_01e05d, 0x000441_01e05e, 0x00044a_01e065, 0x00044b_01e066, 0x000491_01e067,
    0x000456_01e068, 0x000455_01e069, 0x00045f_01e06a, 0x0004ab_01e06b, 0x00a651_01e06c, 0x0004b1_01e06d]

/-- The decompositions of U+1EE00 to U+1EEFF. -/
def page1EE : List Nat :=
  [
    0x000627_01ee00, 0x000628_01ee01, 0x00062c_01ee02, 0x00062f_01ee03, 0x000648_01ee05, 0x000632_01ee06,
    0x00062d_01ee07, 0x000637_01ee08, 0x00064a_01ee09, 0x000633_01ee0e, 0x000639_01ee0f, 0x000641_01ee10,
    0x000635_01ee11, 0x000642_01ee12, 0x000631_01ee13, 0x000634_01ee14, 0x00062a_01ee15, 0x00062b_01ee16,
    0x00062e_01ee17, 0x000630_01ee18, 0x000636_01ee19, 0x000638_01ee1a, 0x00063a_01ee1b, 0x00066e_01ee1c,
    0x0006ba_01ee1d, 0x0006a1_01ee1e, 0x00066f_01ee1f, 0x000628_01ee21, 0x00062c_01ee22, 0x000647_01ee24,
    0x00062d_01ee27, 0x00064a_01ee29, 0x000633_01ee2e, 0x000639_01ee2f, 0x000641_01ee30, 0x000635_01ee31,
    0x000642_01ee32, 0x000634_01ee34, 0x00062a_01ee35, 0x00062b_01ee36, 0x00062e_01ee37, 0x000636_01ee39,
    0x00063a_01ee3b, 0x00062c_01ee42, 0x00062d_01ee47, 0x00064a_01ee49, 0x000644_01ee4b, 0x000646_01ee4d,
    0x000633_01ee4e, 0x000639_01ee4f, 0x000635_01ee51, 0x000642_01ee52, 0x000634_01ee54, 0x00062e_01ee57,
    0x000636_01ee59, 0x00063a_01ee5b, 0x0006ba_01ee5d, 0x00066f_01ee5f, 0x000628_01ee61, 0x00062c_01ee62,
    0x000647_01ee64, 0x00062d_01ee67, 0x000637_01ee68, 0x00064a_01ee69, 0x000643_01ee6a, 0x000645_01ee6c,
    0x000646_01ee6d, 0x000633_01ee6e, 0x000639_01ee6f, 0x000641_01ee70, 0x000635_01ee71, 0x000642_01ee72,
    0x000634_01ee74, 0x00062a_01ee75, 0x00062b_01ee76, 0x00062e_01ee77, 0x000636_01ee79, 0x000638_01ee7a,
    0x00063a_01ee7b, 0x00066e_01ee7c, 0x0006a1_01ee7e, 0x000627_01ee80, 0x000628_01ee81, 0x00062c_01ee82,
    0x00062f_01ee83, 0x000647_01ee84, 0x000648_01ee85, 0x000632_01ee86, 0x00062d_01ee87, 0x000637_01ee88,
    0x00064a_01ee89, 0x000633_01ee8e, 0x000639_01ee8f, 0x000641_01ee90, 0x000635_01ee91, 0x000642_01ee92,
    0x000631_01ee93, 0x000634_01ee94, 0x00062a_01ee95, 0x00062b_01ee96, 0x00062e_01ee97, 0x000630_01ee98,
    0x000636_01ee99, 0x000638_01ee9a, 0x00063a_01ee9b, 0x000628_01eea1, 0x00062c_01eea2, 0x00062f_01eea3,
    0x000648_01eea5, 0x000632_01eea6, 0x00062d_01eea7, 0x000637_01eea8, 0x00064a_01eea9, 0x000633_01eeae,
    0x000639_01eeaf, 0x000641_01eeb0, 0x000635_01eeb1, 0x000642_01eeb2, 0x000631_01eeb3, 0x000634_01eeb4,
    0x00062a_01eeb5, 0x00062b_01eeb6, 0x00062e_01eeb7, 0x000630_01eeb8, 0x000636_01eeb9, 0x000638_01eeba,
    0x00063a_01eebb]

/-- The decompositions of U+1F100 to U+1F1FF. -/
def page1F1 : List Nat :=
  [
    0x000030_00002e_01f100, 0x000030_00002c_01f101, 0x000031_00002c_01f102, 0x000032_00002c_01f103,
    0x000033_00002c_01f104, 0x000034_00002c_01f105, 0x000035_00002c_01f106, 0x000036_00002c_01f107,
    0x000037_00002c_01f108, 0x000038_00002c_01f109, 0x000039_00002c_01f10a, 0x000028_000041_000029_01f110,
    0x000028_000042_000029_01f111, 0x000028_000043_000029_01f112, 0x000028_000044_000029_01f113,
    0x000028_000045_000029_01f114, 0x000028_000046_000029_01f115, 0x000028_000047_000029_01f116,
    0x000028_000048_000029_01f117, 0x000028_000049_000029_01f118, 0x000028_00004a_000029_01f119,
    0x000028_00004b_000029_01f11a, 0x000028_00004c_000029_01f11b, 0x000028_00004d_000029_01f11c,
    0x000028_00004e_000029_01f11d, 0x000028_00004f_000029_01f11e, 0x000028_000050_000029_01f11f,
    0x000028_000051_000029_01f120, 0x000028_000052_000029_01f121, 0x000028_000053_000029_01f122,
    0x000028_000054_000029_01f123, 0x000028_000055_000029_01f124, 0x000028_000056_000029_01f125,
    0x000028_000057_000029_01f126, 0x000028_000058_000029_01f127, 0x000028_000059_000029_01f128,
    0x000028_00005a_000029_01f129, 0x003014_000053_003015_01f12a, 0x000043_01f12b, 0x000052_01f12c,
    0x000043_000044_01f12d, 0x000057_00005a_01f12e, 0x000048_000056_01f14a, 0x00004d_000056_01f14b,
    0x000053_000044_01f14c, 0x000053_000053_01f14d, 0x000050_000050_000056_01f14e, 0x000057_000043_01f14f,
    0x00004d_000043_01f16a, 0x00004d_000044_01f16b, 0x00004d_000052_01f16c, 0x000044_00004a_01f190]

/-- The decompositions of U+1F200 to U+1F2FF. -/
def page1F2 : List Nat :=
  [
    0x00307b_00304b_01f200, 0x0030b3_0030b3_01f201, 0x0030b5_01f202, 0x00624b_01f210, 0x005b57_01f211,
    0x0053cc_01f212, 0x0030c6_003099_01f213, 0x004e8c_01f214, 0x00591a_01f215, 0x0089e3_01f216,
    0x005929_01f217, 0x004ea4_01f218, 0x006620_01f219, 0x007121_01f21a, 0x006599_01f21b, 0x00524d_01f21c,
    0x005f8c_01f21d, 0x00518d_01f21e, 0x0065b0_01f21f, 0x00521d_01f220, 0x007d42_01f221, 0x00751f_01f222,
    0x008ca9_01f223, 0x0058f0_01f224, 0x005439_01f225, 0x006f14_01f226, 0x006295_01f227, 0x006355_01f228,
    0x004e00_01f229, 0x004e09_01f22a, 0x00904a_01f22b, 0x005de6_01f22c, 0x004e2d_01f22d, 0x0053f3_01f22e,
    0x006307_01f22f, 0x008d70_01f230, 0x006253_01f231, 0x007981_01f232, 0x007a7a_01f233, 0x005408_01f234,
    0x006e80_01f235, 0x006709_01f236, 0x006708_01f237, 0x007533_01f238, 0x005272_01f239, 0x0055b6_01f23a,
    0x00914d_01f23b, 0x003014_00672c_003015_01f240, 0x003014_004e09_003015_01f241,
    0x003014_004e8c_003015_01f242, 0x003014_005b89_003015_01f243, 0x003014_0070b9_003015_01f244,
    0x003014_006253_003015_01f245, 0x003014_0076d7_003015_01f246, 0x003014_0052dd_003015_01f247,
    0x003014_006557_003015_01f248, 0x005f97_01f250, 0x0053ef_01f251]

/-- The pages of this part. -/
def supplementaryPages : List (Nat × List Nat) :=
  [
    (0x105, page105), (0x107, page107), (0x110, page110), (0x111, page111), (0x113, page113), (0x114, page114),
    (0x115, page115), (0x119, page119), (0x161, page161), (0x16d, page16D), (0x1d1, page1D1), (0x1d4, page1D4),
    (0x1d5, page1D5), (0x1d6, page1D6), (0x1d7, page1D7), (0x1df, page1DF), (0x1e0, page1E0), (0x1ee, page1EE),
    (0x1f1, page1F1), (0x1f2, page1F2)]

end QueryGate.Text.Decomposition
