/-!
Decompositions of punctuation, letterlike symbols, number forms, enclosed characters and radicals, from U+2000
to U+2FFF.
-/
set_option autoImplicit false

namespace QueryGate.Text.Decomposition

/-- The decompositions of U+2000 to U+20FF. -/
def page20 : List Nat :=
  [
    0x000020_002000, 0x000020_002001, 0x000020_002002, 0x000020_002003, 0x000020_002004, 0x000020_002005,
    0x000020_002006, 0x000020_002007, 0x000020_002008, 0x000020_002009, 0x000020_00200a, 0x002010_002011,
    0x000020_000333_002017, 0x00002e_002024, 0x00002e_00002e_002025, 0x00002e_00002e_00002e_002026,
    0x000020_00202f, 0x002032_002032_002033, 0x002032_002032_002032_002034, 0x002035_002035_002036,
    0x002035_002035_002035_002037, 0x000021_000021_00203c, 0x000020_000305_00203e, 0x00003f_00003f_002047,
    0x00003f_000021_002048, 0x000021_00003f_002049, 0x002032_002032_002032_002032_002057, 0x000020_00205f,
    0x000030_002070, 0x000069_002071, 0x00002b_00207a, 0x002212_00207b, 0x00003d_00207c, 0x000028_00207d,
    0x000029_00207e, 0x00006e_00207f, 0x00002b_00208a, 0x002212_00208b, 0x00003d_00208c, 0x000028_00208d,
    0x000029_00208e, 0x000061_002090, 0x000065_002091, 0x00006f_002092, 0x000078_002093, 0x000259_002094,
    0x000068_002095, 0x000070_00209a, 0x000073_00209b, 0x000074_00209c, 0x000077_00209d, 0x000079_00209e,
    0x00007a_00209f, 0x000052_000073_0020a8]

/-- The decompositions of U+2100 to U+21FF. -/
def page21 : List Nat :=
  [
    0x000061_00002f_000063_002100, 0x000061_00002f_000073_002101, 0x000043_002102, 0x0000b0_000043_002103,
    0x000063_00002f_00006f_002105, 0x000063_00002f_000075_002106, 0x000190_002107, 0x0000b0_000046_002109,
    0x000067_00210a, 0x000048_00210b, 0x000048_00210c, 0x000048_00210d, 0x000068_00210e, 0x000127_00210f,
    0x000049_002110, 0x000049_002111, 0x00004c_002112, 0x00006c_002113, 0x00004e_002115,
    0x00004e_00006f_002116, 0x000052_00211c, 0x000052_00211d, 0x000053_00004d_002120,
    0x000054_000045_00004c_002121, 0x000054_00004d_002122, 0x00005a_002124, 0x0003a9_002126, 0x00005a_002128,
    0x00004b_00212a, 0x000041_00030a_00212b, 0x000042_00212c, 0x000043_00212d, 0x000065_00212f,
    0x000045_002130, 0x000046_002131, 0x00004d_002133, 0x00006f_002134, 0x000069_002139,
    0x000046_000041_000058_00213b, 0x0003c0_00213c, 0x0003b3_00213d, 0x000393_00213e, 0x0003a0_00213f,
    0x002211_002140, 0x000044_002145, 0x000064_002146, 0x000065_002147, 0x000069_002148, 0x00006a_002149,
    0x000031_002044_000037_002150, 0x000031_002044_000039_002151, 0x000031_002044_000031_000030_002152,
    0x000031_002044_000033_002153, 0x000032_002044_000033_002154, 0x000031_002044_000035_002155,
    0x000032_002044_000035_002156, 0x000033_002044_000035_002157, 0x000034_002044_000035_002158,
    0x000031_002044_000036_002159, 0x000035_002044_000036_00215a, 0x000031_002044_000038_00215b,
    0x000033_002044_000038_00215c, 0x000035_002044_000038_00215d, 0x000037_002044_000038_00215e,
    0x000031_002044_00215f, 0x000049_002160, 0x000049_000049_002161, 0x000049_000049_000049_002162,
    0x000049_000056_002163, 0x000056_002164, 0x000056_000049_002165, 0x000056_000049_000049_002166,
    0x000056_000049_000049_000049_002167, 0x000049_000058_002168, 0x000058_002169, 0x000058_000049_00216a,
    0x000058_000049_000049_00216b, 0x00004c_00216c, 0x000043_00216d, 0x000044_00216e, 0x00004d_00216f,
    0x000069_002170, 0x000069_000069_002171, 0x000069_000069_000069_002172, 0x000069_000076_002173,
    0x000076_002174, 0x000076_000069_002175, 0x000076_000069_000069_002176,
    0x000076_000069_000069_000069_002177, 0x000069_000078_002178, 0x000078_002179, 0x000078_000069_00217a,
    0x000078_000069_000069_00217b, 0x00006c_00217c, 0x000063_00217d, 0x000064_00217e, 0x00006d_00217f,
    0x000030_002044_000033_002189, 0x002190_000338_00219a, 0x002192_000338_00219b, 0x002194_000338_0021ae,
    0x0021d0_000338_0021cd, 0x0021d4_000338_0021ce, 0x0021d2_000338_0021cf]

/-- The decompositions of U+2200 to U+22FF. -/
def page22 : List Nat :=
  [
    0x002203_000338_002204, 0x002208_000338_002209, 0x00220b_000338_00220c, 0x002223_000338_002224,
    0x002225_000338_002226, 0x00222b_00222b_00222c, 0x00222b_00222b_00222b_00222d, 0x00222e_00222e_00222f,
    0x00222e_00222e_00222e_002230, 0x00223c_000338_002241, 0x002243_000338_002244, 0x002245_000338_002247,
    0x002248_000338_002249, 0x00003d_000338_002260, 0x002261_000338_002262, 0x00224d_000338_00226d,
    0x00003c_000338_00226e, 0x00003e_000338_00226f, 0x002264_000338_002270, 0x002265_000338_002271,
    0x002272_000338_002274, 0x002273_000338_002275, 0x002276_000338_002278, 0x002277_000338_002279,
    0x00227a_000338_002280, 0x00227b_000338_002281, 0x002282_000338_002284, 0x002283_000338_002285,
    0x002286_000338_002288, 0x002287_000338_002289, 0x0022a2_000338_0022ac, 0x0022a8_000338_0022ad,
    0x0022a9_000338_0022ae, 0x0022ab_000338_0022af, 0x00227c_000338_0022e0, 0x00227d_000338_0022e1,
    0x002291_000338_0022e2, 0x002292_000338_0022e3, 0x0022b2_000338_0022ea, 0x0022b3_000338_0022eb,
    0x0022b4_000338_0022ec, 0x0022b5_000338_0022ed]

/-- The decompositions of U+2300 to U+23FF. -/
def page23 : List Nat :=
  [
    0x003008_002329, 0x003009_00232a]

/-- The decompositions of U+2400 to U+24FF. -/
def page24 : List Nat :=
  [
    0x000031_000030_002469, 0x000031_000031_00246a, 0x000031_000032_00246b, 0x000031_000033_00246c,
    0x000031_000034_00246d, 0x000031_000035_00246e, 0x000031_000036_00246f, 0x000031_000037_002470,
    0x000031_000038_002471, 0x000031_000039_002472, 0x000032_000030_002473, 0x000028_000031_000029_002474,
    0x000028_000032_000029_002475, 0x000028_000033_000029_002476, 0x000028_000034_000029_002477,
    0x000028_000035_000029_002478, 0x000028_000036_000029_002479, 0x000028_000037_000029_00247a,
    0x000028_000038_000029_00247b, 0x000028_000039_000029_00247c, 0x000028_000031_000030_000029_00247d,
    0x000028_000031_000031_000029_00247e, 0x000028_000031_000032_000029_00247f,
    0x000028_000031_000033_000029_002480, 0x000028_000031_000034_000029_002481,
    0x000028_000031_000035_000029_002482, 0x000028_000031_000036_000029_002483,
    0x000028_000031_000037_000029_002484, 0x000028_000031_000038_000029_002485,
    0x000028_000031_000039_000029_002486, 0x000028_000032_000030_000029_002487, 0x000031_00002e_002488,
    0x000032_00002e_002489, 0x000033_00002e_00248a, 0x000034_00002e_00248b, 0x000035_00002e_00248c,
    0x000036_00002e_00248d, 0x000037_00002e_00248e, 0x000038_00002e_00248f, 0x000039_00002e_002490,
    0x000031_000030_00002e_002491, 0x000031_000031_00002e_002492, 0x000031_000032_00002e_002493,
    0x000031_000033_00002e_002494, 0x000031_000034_00002e_002495, 0x000031_000035_00002e_002496,
    0x000031_000036_00002e_002497, 0x000031_000037_00002e_002498, 0x000031_000038_00002e_002499,
    0x000031_000039_00002e_00249a, 0x000032_000030_00002e_00249b, 0x000028_000061_000029_00249c,
    0x000028_000062_000029_00249d, 0x000028_000063_000029_00249e, 0x000028_000064_000029_00249f,
    0x000028_000065_000029_0024a0, 0x000028_000066_000029_0024a1, 0x000028_000067_000029_0024a2,
    0x000028_000068_000029_0024a3, 0x000028_000069_000029_0024a4, 0x000028_00006a_000029_0024a5,
    0x000028_00006b_000029_0024a6, 0x000028_00006c_000029_0024a7, 0x000028_00006d_000029_0024a8,
    0x000028_00006e_000029_0024a9, 0x000028_00006f_000029_0024aa, 0x000028_000070_000029_0024ab,
    0x000028_000071_000029_0024ac, 0x000028_000072_000029_0024ad, 0x000028_000073_000029_0024ae,
    0x000028_000074_000029_0024af, 0x000028_000075_000029_0024b0, 0x000028_000076_000029_0024b1,
    0x000028_000077_000029_0024b2, 0x000028_000078_000029_0024b3, 0x000028_000079_000029_0024b4,
    0x000028_00007a_000029_0024b5, 0x000030_0024ea]

/-- The decompositions of U+2A00 to U+2AFF. -/
def page2A : List Nat :=
  [
    0x00222b_00222b_00222b_00222b_002a0c, 0x00003a_00003a_00003d_002a74, 0x00003d_00003d_002a75,
    0x00003d_00003d_00003d_002a76, 0x002add_000338_002adc]

/-- The decompositions of U+2C00 to U+2CFF. -/
def page2C : List Nat :=
  [
    0x00006a_002c7c, 0x000056_002c7d]

/-- The decompositions of U+2D00 to U+2DFF. -/
def page2D : List Nat :=
  [
    0x002d61_002d6f]

/-- The decompositions of U+2E00 to U+2EFF. -/
def page2E : List Nat :=
  [
    0x006bcd_002e9f, 0x009f9f_002ef3]

/-- The decompositions of U+2F00 to U+2FFF. -/
def page2F : List Nat :=
  [
    0x004e00_002f00, 0x004e28_002f01, 0x004e36_002f02, 0x004e3f_002f03, 0x004e59_002f04, 0x004e85_002f05,
    0x004e8c_002f06, 0x004ea0_002f07, 0x004eba_002f08, 0x00513f_002f09, 0x005165_002f0a, 0x00516b_002f0b,
    0x005182_002f0c, 0x005196_002f0d, 0x0051ab_002f0e, 0x0051e0_002f0f, 0x0051f5_002f10, 0x005200_002f11,
    0x00529b_002f12, 0x0052f9_002f13, 0x005315_002f14, 0x00531a_002f15, 0x005338_002f16, 0x005341_002f17,
    0x00535c_002f18, 0x005369_002f19, 0x005382_002f1a, 0x0053b6_002f1b, 0x0053c8_002f1c, 0x0053e3_002f1d,
    0x0056d7_002f1e, 0x00571f_002f1f, 0x0058eb_002f20, 0x005902_002f21, 0x00590a_002f22, 0x005915_002f23,
    0x005927_002f24, 0x005973_002f25, 0x005b50_002f26, 0x005b80_002f27, 0x005bf8_002f28, 0x005c0f_002f29,
    0x005c22_002f2a, 0x005c38_002f2b, 0x005c6e_002f2c, 0x005c71_002f2d, 0x005ddb_002f2e, 0x005de5_002f2f,
    0x005df1_002f30, 0x005dfe_002f31, 0x005e72_002f32, 0x005e7a_002f33, 0x005e7f_002f34, 0x005ef4_002f35,
    0x005efe_002f36, 0x005f0b_002f37, 0x005f13_002f38, 0x005f50_002f39, 0x005f61_002f3a, 0x005f73_002f3b,
    0x005fc3_002f3c, 0x006208_002f3d, 0x006236_002f3e, 0x00624b_002f3f, 0x00652f_002f40, 0x006534_002f41,
    0x006587_002f42, 0x006597_002f43, 0x0065a4_002f44, 0x0065b9_002f45, 0x0065e0_002f46, 0x0065e5_002f47,
    0x0066f0_002f48, 0x006708_002f49, 0x006728_002f4a, 0x006b20_002f4b, 0x006b62_002f4c, 0x006b79_002f4d,
    0x006bb3_002f4e, 0x006bcb_002f4f, 0x006bd4_002f50, 0x006bdb_002f51, 0x006c0f_002f52, 0x006c14_002f53,
    0x006c34_002f54, 0x00706b_002f55, 0x00722a_002f56, 0x007236_002f57, 0x00723b_002f58, 0x00723f_002f59,
    0x007247_002f5a, 0x007259_002f5b, 0x00725b_002f5c, 0x0072ac_002f5d, 0x007384_002f5e, 0x007389_002f5f,
    0x0074dc_002f60, 0x0074e6_002f61, 0x007518_002f62, 0x00751f_002f63, 0x007528_002f64, 0x007530_002f65,
    0x00758b_002f66, 0x007592_002f67, 0x007676_002f68, 0x00767d_002f69, 0x0076ae_002f6a, 0x0076bf_002f6b,
    0x0076ee_002f6c, 0x0077db_002f6d, 0x0077e2_002f6e, 0x0077f3_002f6f, 0x00793a_002f70, 0x0079b8_002f71,
    0x0079be_002f72, 0x007a74_002f73, 0x007acb_002f74, 0x007af9_002f75, 0x007c73_002f76, 0x007cf8_002f77,
    0x007f36_002f78, 0x007f51_002f79, 0x007f8a_002f7a, 0x007fbd_002f7b, 0x008001_002f7c, 0x00800c_002f7d,
    0x008012_002f7e, 0x008033_002f7f, 0x00807f_002f80, 0x008089_002f81, 0x0081e3_002f82, 0x0081ea_002f83,
    0x0081f3_002f84, 0x0081fc_002f85, 0x00820c_002f86, 0x00821b_002f87, 0x00821f_002f88, 0x00826e_002f89,
    0x008272_002f8a, 0x008278_002f8b, 0x00864d_002f8c, 0x00866b_002f8d, 0x008840_002f8e, 0x00884c_002f8f,
    0x008863_002f90, 0x00897e_002f91, 0x00898b_002f92, 0x0089d2_002f93, 0x008a00_002f94, 0x008c37_002f95,
    0x008c46_002f96, 0x008c55_002f97, 0x008c78_002f98, 0x008c9d_002f99, 0x008d64_002f9a, 0x008d70_002f9b,
    0x008db3_002f9c, 0x008eab_002f9d, 0x008eca_002f9e, 0x008f9b_002f9f, 0x008fb0_002fa0, 0x008fb5_002fa1,
    0x009091_002fa2, 0x009149_002fa3, 0x0091c6_002fa4, 0x0091cc_002fa5, 0x0091d1_002fa6, 0x009577_002fa7,
    0x009580_002fa8, 0x00961c_002fa9, 0x0096b6_002faa, 0x0096b9_002fab, 0x0096e8_002fac, 0x009751_002fad,
    0x00975e_002fae, 0x009762_002faf, 0x009769_002fb0, 0x0097cb_002fb1, 0x0097ed_002fb2, 0x0097f3_002fb3,
    0x009801_002fb4, 0x0098a8_002fb5, 0x0098db_002fb6, 0x0098df_002fb7, 0x009996_002fb8, 0x009999_002fb9,
    0x0099ac_002fba, 0x009aa8_002fbb, 0x009ad8_002fbc, 0x009adf_002fbd, 0x009b25_002fbe, 0x009b2f_002fbf,
    0x009b32_002fc0, 0x009b3c_002fc1, 0x009b5a_002fc2, 0x009ce5_002fc3, 0x009e75_002fc4, 0x009e7f_002fc5,
    0x009ea5_002fc6, 0x009ebb_002fc7, 0x009ec3_002fc8, 0x009ecd_002fc9, 0x009ed1_002fca, 0x009ef9_002fcb,
    0x009efd_002fcc, 0x009f0e_002fcd, 0x009f13_002fce, 0x009f20_002fcf, 0x009f3b_002fd0, 0x009f4a_002fd1,
    0x009f52_002fd2, 0x009f8d_002fd3, 0x009f9c_002fd4, 0x009fa0_002fd5]

/-- The pages of this part. -/
def symbolsPages : List (Nat × List Nat) :=
  [
    (0x20, page20), (0x21, page21), (0x22, page22), (0x23, page23), (0x24, page24), (0x2a, page2A),
    (0x2c, page2C), (0x2d, page2D), (0x2e, page2E), (0x2f, page2F)]

end QueryGate.Text.Decomposition
