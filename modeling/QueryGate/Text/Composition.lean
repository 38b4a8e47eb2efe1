/-!
Canonical composition of pairs of characters (Unicode, version 17). Hangul letters are composed by arithmetic.
-/
set_option autoImplicit false

namespace QueryGate.Text

/-- For each second character of a pair, the entries of the characters that may stand before it. An entry packs the
first character and the composite in six hexadecimal digits each. -/
def compositions : List (Nat × List Nat) :=
  [
    (0x0300, [
      0x000041_0000c0, 0x000045_0000c8, 0x000049_0000cc, 0x00004f_0000d2, 0x000055_0000d9, 0x000061_0000e0,
      0x000065_0000e8, 0x000069_0000ec, 0x00006f_0000f2, 0x000075_0000f9, 0x0000dc_0001db, 0x0000fc_0001dc,
      0x00004e_0001f8, 0x00006e_0001f9, 0x000415_000400, 0x000418_00040d, 0x000435_000450, 0x000438_00045d,
      0x000112_001e14, 0x000113_001e15, 0x00014c_001e50, 0x00014d_001e51, 0x000057_001e80, 0x000077_001e81,
      0x0000c2_001ea6, 0x0000e2_001ea7, 0x000102_001eb0, 0x000103_001eb1, 0x0000ca_001ec0, 0x0000ea_001ec1,
      0x0000d4_001ed2, 0x0000f4_001ed3, 0x0001a0_001edc, 0x0001a1_001edd, 0x0001af_001eea, 0x0001b0_001eeb,
      0x000059_001ef2, 0x000079_001ef3, 0x001f00_001f02, 0x001f01_001f03, 0x001f08_001f0a, 0x001f09_001f0b,
      0x001f10_001f12, 0x001f11_001f13, 0x001f18_001f1a, 0x001f19_001f1b, 0x001f20_001f22, 0x001f21_001f23,
      0x001f28_001f2a, 0x001f29_001f2b, 0x001f30_001f32, 0x001f31_001f33, 0x001f38_001f3a, 0x001f39_001f3b,
      0x001f40_001f42, 0x001f41_001f43, 0x001f48_001f4a, 0x001f49_001f4b, 0x001f50_001f52, 0x001f51_001f53,
      0x001f59_001f5b, 0x001f60_001f62, 0x001f61_001f63, 0x001f68_001f6a, 0x001f69_001f6b, 0x0003b1_001f70,
      0x0003b5_001f72, 0x0003b7_001f74, 0x0003b9_001f76, 0x0003bf_001f78, 0x0003c5_001f7a, 0x0003c9_001f7c,
      0x000391_001fba, 0x000395_001fc8, 0x000397_001fca, 0x001fbf_001fcd, 0x0003ca_001fd2, 0x000399_001fda,
      0x001ffe_001fdd, 0x0003cb_001fe2, 0x0003a5_001fea, 0x0000a8_001fed, 0x00039f_001ff8, 0x0003a9_001ffa]),
    (0x0301, [
      0x000041_0000c1, 0x000045_0000c9, 0x000049_0000cd, 0x00004f_0000d3, 0x000055_0000da, 0x000059_0000dd,
      0x000061_0000e1, 0x000065_0000e9, 0x000069_0000ed, 0x00006f_0000f3, 0x000075_0000fa, 0x000079_0000fd,
      0x000043_000106, 0x000063_000107, 0x00004c_000139, 0x00006c_00013a, 0x00004e_000143, 0x00006e_000144,
      0x000052_000154, 0x000072_000155, 0x000053_00015a, 0x000073_00015b, 0x00005a_000179, 0x00007a_00017a,
      0x0000dc_0001d7, 0x0000fc_0001d8, 0x000047_0001f4, 0x000067_0001f5, 0x0000c5_0001fa, 0x0000e5_0001fb,
      0x0000c6_0001fc, 0x0000e6_0001fd, 0x0000d8_0001fe, 0x0000f8_0001ff, 0x0000a8_000385, 0x000391_000386,
      0x000395_000388, 0x000397_000389, 0x000399_00038a, 0x00039f_00038c, 0x0003a5_00038e, 0x0003a9_00038f,
      0x0003ca_000390, 0x0003b1_0003ac, 0x0003b5_0003ad, 0x0003b7_0003ae, 0x0003b9_0003af, 0x0003cb_0003b0,
      0x0003bf_0003cc, 0x0003c5_0003cd, 0x0003c9_0003ce, 0x0003d2_0003d3, 0x000413_000403, 0x00041a_00040c,
      0x000433_000453, 0x00043a_00045c, 0x0000c7_001e08, 0x0000e7_001e09, 0x000112_001e16, 0x000113_001e17,
      0x0000cf_001e2e, 0x0000ef_001e2f, 0x00004b_001e30, 0x00006b_001e31, 0x00004d_001e3e, 0x00006d_001e3f,
      0x0000d5_001e4c, 0x0000f5_001e4d, 0x00014c_001e52, 0x00014d_001e53, 0x000050_001e54, 0x000070_001e55,
      0x000168_001e78, 0x000169_001e79, 0x000057_001e82, 0x000077_001e83, 0x0000c2_001ea4, 0x0000e2_001ea5,
      0x000102_001eae, 0x000103_001eaf, 0x0000ca_001ebe, 0x0000ea_001ebf, 0x0000d4_001ed0, 0x0000f4_001ed1,
      0x0001a0_001eda, 0x0001a1_001edb, 0x0001af_001ee8, 0x0001b0_001ee9, 0x001f00_001f04, 0x001f01_001f05,
      0x001f08_001f0c, 0x001f09_001f0d, 0x001f10_001f14, 0x001f11_001f15, 0x001f18_001f1c, 0x001f19_001f1d,
      0x001f20_001f24, 0x001f21_001f25, 0x001f28_001f2c, 0x001f29_001f2d, 0x001f30_001f34, 0x001f31_001f35,
      0x001f38_001f3c, 0x001f39_001f3d, 0x001f40_001f44, 0x001f41_001f45, 0x001f48_001f4c, 0x001f49_001f4d,
      0x001f50_001f54, 0x001f51_001f55, 0x001f59_001f5d, 0x001f60_001f64, 0x001f61_001f65, 0x001f68_001f6c,
      0x001f69_001f6d, 0x001fbf_001fce, 0x001ffe_001fde]),
    (0x0302, [
      0x000041_0000c2, 0x000045_0000ca, 0x000049_0000ce, 0x00004f_0000d4, 0x000055_0000db, 0x000061_0000e2,
      0x000065_0000ea, 0x000069_0000ee, 0x00006f_0000f4, 0x000075_0000fb, 0x000043_000108, 0x000063_000109,
      0x000047_00011c, 0x000067_00011d, 0x000048_000124, 0x000068_000125, 0x00004a_000134, 0x00006a_000135,
      0x000053_00015c, 0x000073_00015d, 0x000057_000174, 0x000077_000175, 0x000059_000176, 0x000079_000177,
      0x00005a_001e90, 0x00007a_001e91, 0x001ea0_001eac, 0x001ea1_001ead, 0x001eb8_001ec6, 0x001eb9_001ec7,
      0x001ecc_001ed8, 0x001ecd_001ed9]),
    (0x0303, [
      0x000041_0000c3, 0x00004e_0000d1, 0x00004f_0000d5, 0x000061_0000e3, 0x00006e_0000f1, 0x00006f_0000f5,
      0x000049_000128, 0x000069_000129, 0x000055_000168, 0x000075_000169, 0x000056_001e7c, 0x000076_001e7d,
      0x0000c2_001eaa, 0x0000e2_001eab, 0x000102_001eb4, 0x000103_001eb5, 0x000045_001ebc, 0x000065_001ebd,
      0x0000ca_001ec4, 0x0000ea_001ec5, 0x0000d4_001ed6, 0x0000f4_001ed7, 0x0001a0_001ee0, 0x0001a1_001ee1,
      0x0001af_001eee, 0x0001b0_001eef, 0x000059_001ef8, 0x000079_001ef9]),
    (0x0304, [
      0x000041_000100, 0x000061_000101, 0x000045_000112, 0x000065_000113, 0x000049_00012a, 0x000069_00012b,
      0x00004f_00014c, 0x00006f_00014d, 0x000055_00016a, 0x000075_00016b, 0x0000dc_0001d5, 0x0000fc_0001d6,
      0x0000c4_0001de, 0x0000e4_0001df, 0x000226_0001e0, 0x000227_0001e1, 0x0000c6_0001e2, 0x0000e6_0001e3,
      0x0001ea_0001ec, 0x0001eb_0001ed, 0x0000d6_00022a, 0x0000f6_00022b, 0x0000d5_00022c, 0x0000f5_00022d,
      0x00022e_000230, 0x00022f_000231, 0x000059_000232, 0x000079_000233, 0x000418_0004e2, 0x000438_0004e3,
      0x000423_0004ee, 0x000443_0004ef, 0x000047_001e20, 0x000067_001e21, 0x001e36_001e38, 0x001e37_001e39,
      0x001e5a_001e5c, 0x001e5b_001e5d, 0x0003b1_001fb1, 0x000391_001fb9, 0x0003b9_001fd1, 0x000399_001fd9,
      0x0003c5_001fe1, 0x0003a5_001fe9]),
    (0x0306, [
      0x000041_000102, 0x000061_000103, 0x000045_000114, 0x000065_000115, 0x000047_00011e, 0x000067_00011f,
      0x000049_00012c, 0x000069_00012d, 0x00004f_00014e, 0x00006f_00014f, 0x000055_00016c, 0x000075_00016d,
      0x000423_00040e, 0x000418_000419, 0x000438_000439, 0x000443_00045e, 0x000416_0004c1, 0x000436_0004c2,
      0x000410_0004d0, 0x000430_0004d1, 0x000415_0004d6, 0x000435_0004d7, 0x000228_001e1c, 0x000229_001e1d,
      0x001ea0_001eb6, 0x001ea1_001eb7, 0x0003b1_001fb0, 0x000391_001fb8, 0x0003b9_001fd0, 0x000399_001fd8,
      0x0003c5_001fe0, 0x0003a5_001fe8]),
    (0x0307, [
      0x000043_00010a, 0x000063_00010b, 0x000045_000116, 0x000065_000117, 0x000047_000120, 0x000067_000121,
      0x000049_000130, 0x00005a_00017b, 0x00007a_00017c, 0x000041_000226, 0x000061_000227, 0x00004f_00022e,
      0x00006f_00022f, 0x000042_001e02, 0x000062_001e03, 0x000044_001e0a, 0x000064_001e0b, 0x000046_001e1e,
      0x000066_001e1f, 0x000048_001e22, 0x000068_001e23, 0x00004d_001e40, 0x00006d_001e41, 0x00004e_001e44,
      0x00006e_001e45, 0x000050_001e56, 0x000070_001e57, 0x000052_001e58, 0x000072_001e59, 0x000053_001e60,
      0x000073_001e61, 0x00015a_001e64, 0x00015b_001e65, 0x000160_001e66, 0x000161_001e67, 0x001e62_001e68,
      0x001e63_001e69, 0x000054_001e6a, 0x000074_001e6b, 0x000057_001e86, 0x000077_001e87, 0x000058_001e8a,
      0x000078_001e8b, 0x000059_001e8e, 0x000079_001e8f, 0x00017f_001e9b, 0x0105d2_0105c9, 0x0105da_0105e4]),
    (0x0308, [
      0x000041_0000c4, 0x000045_0000cb, 0x000049_0000cf, 0x00004f_0000d6, 0x000055_0000dc, 0x000061_0000e4,
      0x000065_0000eb, 0x000069_0000ef, 0x00006f_0000f6, 0x000075_0000fc, 0x000079_0000ff, 0x000059_000178,
      0x000399_0003aa, 0x0003a5_0003ab, 0x0003b9_0003ca, 0x0003c5_0003cb, 0x0003d2_0003d4, 0x000415_000401,
      0x000406_000407, 0x000435_000451, 0x000456_000457, 0x000410_0004d2, 0x000430_0004d3, 0x0004d8_0004da,
      0x0004d9_0004db, 0x000416_0004dc, 0x000436_0004dd, 0x000417_0004de, 0x000437_0004df, 0x000418_0004e4,
      0x000438_0004e5, 0x00041e_0004e6, 0x00043e_0004e7, 0x0004e8_0004ea, 0x0004e9_0004eb, 0x00042d_0004ec,
      0x00044d_0004ed, 0x000423_0004f0, 0x000443_0004f1, 0x000427_0004f4, 0x000447_0004f5, 0x00042b_0004f8,
      0x00044b_0004f9, 0x000048_001e26, 0x000068_001e27, 0x0000d5_001e4e, 0x0000f5_001e4f, 0x00016a_001e7a,
      0x00016b_001e7b, 0x000057_001e84, 0x000077_001e85, 0x000058_001e8c, 0x000078_001e8d, 0x000074_001e97]),
    (0x0309, [
      0x000041_001ea2, 0x000061_001ea3, 0x0000c2_001ea8, 0x0000e2_001ea9, 0x000102_001eb2, 0x000103_001eb3,
      0x000045_001eba, 0x000065_001ebb, 0x0000ca_001ec2, 0x0000ea_001ec3, 0x000049_001ec8, 0x000069_001ec9,
      0x00004f_001ece, 0x00006f_001ecf, 0x0000d4_001ed4, 0x0000f4_001ed5, 0x0001a0_001ede, 0x0001a1_001edf,
      0x000055_001ee6, 0x000075_001ee7, 0x0001af_001eec, 0x0001b0_001eed, 0x000059_001ef6, 0x000079_001ef7]),
    (0x030a, [
      0x000041_0000c5, 0x000061_0000e5, 0x000055_00016e, 0x000075_00016f, 0x000077_001e98, 0x000079_001e99]),
    (0x030b, [
      0x00004f_000150, 0x00006f_000151, 0x000055_000170, 0x000075_000171, 0x000423_0004f2, 0x000443_0004f3]),
    (0x030c, [
      0x000043_00010c, 0x000063_00010d, 0x000044_00010e, 0x000064_00010f, 0x000045_00011a, 0x000065_00011b,
      0x00004c_00013d, 0x00006c_00013e, 0x00004e_000147, 0x00006e_000148, 0x000052_000158, 0x000072_000159,
      0x000053_000160, 0x000073_000161, 0x000054_000164, 0x000074_000165, 0x00005a_00017d, 0x00007a_00017e,
      0x000041_0001cd, 0x000061_0001ce, 0x000049_0001cf, 0x000069_0001d0, 0x00004f_0001d1, 0x00006f_0001d2,
      0x000055_0001d3, 0x000075_0001d4, 0x0000dc_0001d9, 0x0000fc_0001da, 0x000047_0001e6, 0x000067_0001e7,
      0x00004b_0001e8, 0x00006b_0001e9, 0x0001b7_0001ee, 0x000292_0001ef, 0x00006a_0001f0, 0x000048_00021e,
      0x000068_00021f]),
    (0x030f, [
      0x000041_000200, 0x000061_000201, 0x000045_000204, 0x000065_000205, 0x000049_000208, 0x000069_000209,
      0x00004f_00020c, 0x00006f_00020d, 0x000052_000210, 0x000072_000211, 0x000055_000214, 0x000075_000215,
      0x000474_000476, 0x000475_000477]),
    (0x0311, [
      0x000041_000202, 0x000061_000203, 0x000045_000206, 0x000065_000207, 0x000049_00020a, 0x000069_00020b,
      0x00004f_00020e, 0x00006f_00020f, 0x000052_000212, 0x000072_000213, 0x000055_000216, 0x000075_000217]),
    (0x0313, [
      0x0003b1_001f00, 0x000391_001f08, 0x0003b5_001f10, 0x000395_001f18, 0x0003b7_001f20, 0x000397_001f28,
      0x0003b9_001f30, 0x000399_001f38, 0x0003bf_001f40, 0x00039f_001f48, 0x0003c5_001f50, 0x0003c9_001f60,
      0x0003a9_001f68, 0x0003c1_001fe4]),
    (0x0314, [
      0x0003b1_001f01, 0x000391_001f09, 0x0003b5_001f11, 0x000395_001f19, 0x0003b7_001f21, 0x000397_001f29,
      0x0003b9_001f31, 0x000399_001f39, 0x0003bf_001f41, 0x00039f_001f49, 0x0003c5_001f51, 0x0003a5_001f59,
      0x0003c9_001f61, 0x0003a9_001f69, 0x0003c1_001fe5, 0x0003a1_001fec]),
    (0x031b, [
      0x00004f_0001a0, 0x00006f_0001a1, 0x000055_0001af, 0x000075_0001b0]),
    (0x0323, [
      0x000042_001e04, 0x000062_001e05, 0x000044_001e0c, 0x000064_001e0d, 0x000048_001e24, 0x000068_001e25,
      0x00004b_001e32, 0x00006b_001e33, 0x00004c_001e36, 0x00006c_001e37, 0x00004d_001e42, 0x00006d_001e43,
      0x00004e_001e46, 0x00006e_001e47, 0x000052_001e5a, 0x000072_001e5b, 0x000053_001e62, 0x000073_001e63,
      0x000054_001e6c, 0x000074_001e6d, 0x000056_001e7e, 0x000076_001e7f, 0x000057_001e88, 0x000077_001e89,
      0x00005a_001e92, 0x00007a_001e93, 0x000041_001ea0, 0x000061_001ea1, 0x000045_001eb8, 0x000065_001eb9,
      0x000049_001eca, 0x000069_001ecb, 0x00004f_001ecc, 0x00006f_001ecd, 0x0001a0_001ee2, 0x0001a1_001ee3,
      0x000055_001ee4, 0x000075_001ee5, 0x0001af_001ef0, 0x0001b0_001ef1, 0x000059_001ef4, 0x000079_001ef5]),
    (0x0324, [
      0x000055_001e72, 0x000075_001e73]),
    (0x0325, [
      0x000041_001e00, 0x000061_001e01]),
    (0x0326, [
      0x000053_000218, 0x000073_000219, 0x000054_00021a, 0x000074_00021b]),
    (0x0327, [
      0x000043_0000c7, 0x000063_0000e7, 0x000047_000122, 0x000067_000123, 0x00004b_000136, 0x00006b_000137,
      0x00004c_00013b, 0x00006c_00013c, 0x00004e_000145, 0x00006e_000146, 0x000052_000156, 0x000072_000157,
      0x000053_00015e, 0x000073_00015f, 0x000054_000162, 0x000074_000163, 0x000045_000228, 0x000065_000229,
      0x000044_001e10, 0x000064_001e11, 0x000048_001e28, 0x000068_001e29]),
    (0x0328, [
      0x000041_000104, 0x000061_000105, 0x000045_000118, 0x000065_000119, 0x000049_00012e, 0x000069_00012f,
      0x000055_000172, 0x000075_000173, 0x00004f_0001ea, 0x00006f_0001eb]),
    (0x032d, [
      0x000044_001e12, 0x000064_001e13, 0x000045_001e18, 0x000065_001e19, 0x00004c_001e3c, 0x00006c_001e3d,
      0x00004e_001e4a, 0x00006e_001e4b, 0x000054_001e70, 0x000074_001e71, 0x000055_001e76, 0x000075_001e77]),
    (0x032e, [
      0x000048_001e2a, 0x000068_001e2b]),
    (0x0330, [
      0x000045_001e1a, 0x000065_001e1b, 0x000049_001e2c, 0x000069_001e2d, 0x000055_001e74, 0x000075_001e75]),
    (0x0331, [
      0x000042_001e06, 0x000062_001e07, 0x000044_001e0e, 0x000064_001e0f, 0x00004b_001e34, 0x00006b_001e35,
      0x00004c_001e3a, 0x00006c_001e3b, 0x00004e_001e48, 0x00006e_001e49, 0x000052_001e5e, 0x000072_001e5f,
      0x000054_001e6e, 0x000074_001e6f, 0x00005a_001e94, 0x00007a_001e95, 0x000068_001e96]),
    (0x0338, [
      0x002190_00219a, 0x002192_00219b, 0x002194_0021ae, 0x0021d0_0021cd, 0x0021d4_0021ce, 0x0021d2_0021cf,
      0x002203_002204, 0x002208_002209, 0x00220b_00220c, 0x002223_002224, 0x002225_002226, 0x00223c_002241,
      0x002243_002244, 0x002245_002247, 0x002248_002249, 0x00003d_002260, 0x002261_002262, 0x00224d_00226d,
      0x00003c_00226e, 0x00003e_00226f, 0x002264_002270, 0x002265_002271, 0x002272_002274, 0x002273_002275,
      0x002276_002278, 0x002277_002279, 0x00227a_002280, 0x00227b_002281, 0x002282_002284, 0x002283_002285,
      0x002286_002288, 0x002287_002289, 0x0022a2_0022ac, 0x0022a8_0022ad, 0x0022a9_0022ae, 0x0022ab_0022af,
      0x00227c_0022e0, 0x00227d_0022e1, 0x002291_0022e2, 0x002292_0022e3, 0x0022b2_0022ea, 0x0022b3_0022eb,
      0x0022b4_0022ec, 0x0022b5_0022ed]),
    (0x0342, [
      0x001f00_001f06, 0x001f01_001f07, 0x001f08_001f0e, 0x001f09_001f0f, 0x001f20_001f26, 0x001f21_001f27,
      0x001f28_001f2e, 0x001f29_001f2f, 0x001f30_001f36, 0x001f31_001f37, 0x001f38_001f3e, 0x001f39_001f3f,
      0x001f50_001f56, 0x001f51_001f57, 0x001f59_001f5f, 0x001f60_001f66, 0x001f61_001f67, 0x001f68_001f6e,
      0x001f69_001f6f, 0x0003b1_001fb6, 0x0000a8_001fc1, 0x0003b7_001fc6, 0x001fbf_001fcf, 0x0003b9_001fd6,
      0x0003ca_001fd7, 0x001ffe_001fdf, 0x0003c5_001fe6, 0x0003cb_001fe7, 0x0003c9_001ff6]),
    (0x0345, [
      0x001f00_001f80, 0x001f01_001f81, 0x001f02_001f82, 0x001f03_001f83, 0x001f04_001f84, 0x001f05_001f85,
      0x001f06_001f86, 0x001f07_001f87, 0x001f08_001f88, 0x001f09_001f89, 0x001f0a_001f8a, 0x001f0b_001f8b,
      0x001f0c_001f8c, 0x001f0d_001f8d, 0x001f0e_001f8e, 0x001f0f_001f8f, 0x001f20_001f90, 0x001f21_001f91,
      0x001f22_001f92, 0x001f23_001f93, 0x001f24_001f94, 0x001f25_001f95, 0x001f26_001f96, 0x001f27_001f97,
      0x001f28_001f98, 0x001f29_001f99, 0x001f2a_001f9a, 0x001f2b_001f9b, 0x001f2c_001f9c, 0x001f2d_001f9d,
      0x001f2e_001f9e, 0x001f2f_001f9f, 0x001f60_001fa0, 0x001f61_001fa1, 0x001f62_001fa2, 0x001f63_001fa3,
      0x001f64_001fa4, 0x001f65_001fa5, 0x001f66_001fa6, 0x001f67_001fa7, 0x001f68_001fa8, 0x001f69_001fa9,
      0x001f6a_001faa, 0x001f6b_001fab, 0x001f6c_001fac, 0x001f6d_001fad, 0x001f6e_001fae, 0x001f6f_001faf,
      0x001f70_001fb2, 0x0003b1_001fb3, 0x0003ac_001fb4, 0x001fb6_001fb7, 0x000391_001fbc, 0x001f74_001fc2,
      0x0003b7_001fc3, 0x0003ae_001fc4, 0x001fc6_001fc7, 0x000397_001fcc, 0x001f7c_001ff2, 0x0003c9_001ff3,
      0x0003ce_001ff4, 0x001ff6_001ff7, 0x0003a9_001ffc]),
    (0x0653, [
      0x000627_000622]),
    (0x0654, [
      0x000627_000623, 0x000648_000624, 0x00064a_000626, 0x0006d5_0006c0, 0x0006c1_0006c2, 0x0006d2_0006d3]),
    (0x0655, [
      0x000627_000625]),
    (0x093c, [
      0x000928_000929, 0x000930_000931, 0x000933_000934]),
    (0x09be, [
      0x0009c7_0009cb]),
    (0x09d7, [
      0x0009c7_0009cc]),
    (0x0b3e, [
      0x000b47_000b4b]),
    (0x0b56, [
      0x000b47_000b48]),
    (0x0b57, [
      0x000b47_000b4c]),
    (0x0bbe, [
      0x000bc6_000bca, 0x000bc7_000bcb]),
    (0x0bd7, [
      0x000b92_000b94, 0x000bc6_000bcc]),
    (0x0c56, [
      0x000c46_000c48]),
    (0x0cc2, [
      0x000cc6_000cca]),
    (0x0cd5, [
      0x000cbf_000cc0, 0x000cc6_000cc7, 0x000cca_000ccb]),
    (0x0cd6, [
      0x000cc6_000cc8]),
    (0x0d3e, [
      0x000d46_000d4a, 0x000d47_000d4b]),
    (0x0d57, [
      0x000d46_000d4c]),
    (0x0dca, [
      0x000dd9_000dda, 0x000ddc_000ddd]),
    (0x0dcf, [
      0x000dd9_000ddc]),
    (0x0ddf, [
      0x000dd9_000dde]),
    (0x102e, [
      0x001025_001026]),
    (0x1b35, [
      0x001b05_001b06, 0x001b07_001b08, 0x001b09_001b0a, 0x001b0b_001b0c, 0x001b0d_001b0e, 0x001b11_001b12,
      0x001b3a_001b3b, 0x001b3c_001b3d, 0x001b3e_001b40, 0x001b3f_001b41, 0x001b42_001b43]),
    (0x3099, [
      0x00304b_00304c, 0x00304d_00304e, 0x00304f_003050, 0x003051_003052, 0x003053_003054, 0x003055_003056,
      0x003057_003058, 0x003059_00305a, 0x00305b_00305c, 0x00305d_00305e, 0x00305f_003060, 0x003061_003062,
      0x003064_003065, 0x003066_003067, 0x003068_003069, 0x00306f_003070, 0x003072_003073, 0x003075_003076,
      0x003078_003079, 0x00307b_00307c, 0x003046_003094, 0x00309d_00309e, 0x0030ab_0030ac, 0x0030ad_0030ae,
      0x0030af_0030b0, 0x0030b1_0030b2, 0x0030b3_0030b4, 0x0030b5_0030b6, 0x0030b7_0030b8, 0x0030b9_0030ba,
      0x0030bb_0030bc, 0x0030bd_0030be, 0x0030bf_0030c0, 0x0030c1_0030c2, 0x0030c4_0030c5, 0x0030c6_0030c7,
      0x0030c8_0030c9, 0x0030cf_0030d0, 0x0030d2_0030d3, 0x0030d5_0030d6, 0x0030d8_0030d9, 0x0030db_0030dc,
      0x0030a6_0030f4, 0x0030ef_0030f7, 0x0030f0_0030f8, 0x0030f1_0030f9, 0x0030f2_0030fa, 0x0030fd_0030fe]),
    (0x309a, [
      0x00306f_003071, 0x003072_003074, 0x003075_003077, 0x003078_00307a, 0x00307b_00307d, 0x0030cf_0030d1,
      0x0030d2_0030d4, 0x0030d5_0030d7, 0x0030d8_0030da, 0x0030db_0030dd]),
    (0x110ba, [
      0x011099_01109a, 0x01109b_01109c, 0x0110a5_0110ab]),
    (0x11127, [
      0x011131_01112e, 0x011132_01112f]),
    (0x1133e, [
      0x011347_01134b]),
    (0x11357, [
      0x011347_01134c]),
    (0x113b8, [
      0x0113c2_0113c7]),
    (0x113bb, [
      0x011384_011385]),
    (0x113c2, [
      0x01138b_01138e, 0x0113c2_0113c5]),
    (0x113c9, [
      0x011382_011383, 0x011390_011391, 0x0113c2_0113c8]),
    (0x114b0, [
      0x0114b9_0114bc]),
    (0x114ba, [
      0x0114b9_0114bb]),
    (0x114bd, [
      0x0114b9_0114be]),
    (0x115af, [
      0x0115b8_0115ba, 0x0115b9_0115bb]),
    (0x11930, [
      0x011935_011938]),
    (0x1611e, [
      0x01611e_016121]),
    (0x1611f, [
      0x01611e_016123, 0x016129_016124, 0x016121_016126, 0x016122_016127]),
    (0x16120, [
      0x01611e_016125, 0x016121_016128]),
    (0x16129, [
      0x01611e_016122]),
    (0x16d67, [
      0x016d67_016d68, 0x016d63_016d69, 0x016d69_016d6a])]

/-- The composite of a Hangul letter or syllable with the letter after it. -/
def composeHangul (first second : Nat) : Option Nat :=
  if 0x1100 ≤ first ∧ first ≤ 0x1112 ∧ 0x1161 ≤ second ∧ second ≤ 0x1175 then
    some (0xac00 + ((first - 0x1100) * 21 + (second - 0x1161)) * 28)
  else if 0xac00 ≤ first ∧ first ≤ 0xd7a3 ∧ (first - 0xac00) % 28 = 0 ∧ 0x11a8 ≤ second ∧ second ≤ 0x11c2 then
    some (first + (second - 0x11a7))
  else none

/-- The composite of a pair of characters by the table. -/
def composeByTable (first second : Nat) : Option Nat := do
  let entries ← compositions.lookup second
  let entry ← entries.find? fun e => e / 0x1000000 = first
  return entry % 0x1000000

/-- The character that a pair composes to. -/
def compose? (first second : Char) : Option Char :=
  ((composeByTable first.toNat second.toNat).or (composeHangul first.toNat second.toNat)).map Char.ofNat

end QueryGate.Text
