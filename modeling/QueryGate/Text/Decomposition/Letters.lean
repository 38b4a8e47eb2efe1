/-!
Decompositions of letters with marks, digraphs and the like, up to U+1FFF.
-/
set_option autoImplicit false

namespace QueryGate.Text.Decomposition

/-- The decompositions of U+0000 to U+00FF. -/
def page00 : List Nat :=
  [
    0x000020_0000a0, 0x000020_000308_0000a8, 0x000061_0000aa, 0x000020_000304_0000af, 0x000032_0000b2,
    0x000033_0000b3, 0x000020_000301_0000b4, 0x0003bc_0000b5, 0x000020_000327_0000b8, 0x000031_0000b9,
    0x00006f_0000ba, 0x000031_002044_000034_0000bc, 0x000031_002044_000032_0000bd,
    0x000033_002044_000034_0000be, 0x000041_000300_0000c0, 0x000041_000301_0000c1, 0x000041_000302_0000c2,
    0x000041_000303_0000c3, 0x000041_000308_0000c4, 0x000041_00030a_0000c5, 0x000043_000327_0000c7,
    0x000045_000300_0000c8, 0x000045_000301_0000c9, 0x000045_000302_0000ca, 0x000045_000308_0000cb,
    0x000049_000300_0000cc, 0x000049_000301_0000cd, 0x000049_000302_0000ce, 0x000049_000308_0000cf,
    0x00004e_000303_0000d1, 0x00004f_000300_0000d2, 0x00004f_000301_0000d3, 0x00004f_000302_0000d4,
    0x00004f_000303_0000d5, 0x00004f_000308_0000d6, 0x000055_000300_0000d9, 0x000055_000301_0000da,
    0x000055_000302_0000db, 0x000055_000308_0000dc, 0x000059_000301_0000dd, 0x000061_000300_0000e0,
    0x000061_000301_0000e1, 0x000061_000302_0000e2, 0x000061_000303_0000e3, 0x000061_000308_0000e4,
    0x000061_00030a_0000e5, 0x000063_000327_0000e7, 0x000065_000300_0000e8, 0x000065_000301_0000e9,
    0x000065_000302_0000ea, 0x000065_000308_0000eb, 0x000069_000300_0000ec, 0x000069_000301_0000ed,
    0x000069_000302_0000ee, 0x000069_000308_0000ef, 0x00006e_000303_0000f1, 0x00006f_000300_0000f2,
    0x00006f_000301_0000f3, 0x00006f_000302_0000f4, 0x00006f_000303_0000f5, 0x00006f_000308_0000f6,
    0x000075_000300_0000f9, 0x000075_000301_0000fa, 0x000075_000302_0000fb, 0x000075_000308_0000fc,
    0x000079_000301_0000fd, 0x000079_000308_0000ff]

/-- The decompositions of U+0100 to U+01FF. -/
def page01 : List Nat :=
  [
    0x000041_000304_000100, 0x000061_000304_000101, 0x000041_000306_000102, 0x000061_000306_000103,
    0x000041_000328_000104, 0x000061_000328_000105, 0x000043_000301_000106, 0x000063_000301_000107,
    0x000043_000302_000108, 0x000063_000302_000109, 0x000043_000307_00010a, 0x000063_000307_00010b,
    0x000043_00030c_00010c, 0x000063_00030c_00010d, 0x000044_00030c_00010e, 0x000064_00030c_00010f,
    0x000045_000304_000112, 0x000065_000304_000113, 0x000045_000306_000114, 0x000065_000306_000115,
    0x000045_000307_000116, 0x000065_000307_000117, 0x000045_000328_000118, 0x000065_000328_000119,
    0x000045_00030c_00011a, 0x000065_00030c_00011b, 0x000047_000302_00011c, 0x000067_000302_00011d,
    0x000047_000306_00011e, 0x000067_000306_00011f, 0x000047_000307_000120, 0x000067_000307_000121,
    0x000047_000327_000122, 0x000067_000327_000123, 0x000048_000302_000124, 0x000068_000302_000125,
    0x000049_000303_000128, 0x000069_000303_000129, 0x000049_000304_00012a, 0x000069_000304_00012b,
    0x000049_000306_00012c, 0x000069_000306_00012d, 0x000049_000328_00012e, 0x000069_000328_00012f,
    0x000049_000307_000130, 0x000049_00004a_000132, 0x000069_00006a_000133, 0x00004a_000302_000134,
    0x00006a_000302_000135, 0x00004b_000327_000136, 0x00006b_000327_000137, 0x00004c_000301_000139,
    0x00006c_000301_00013a, 0x00004c_000327_00013b, 0x00006c_000327_00013c, 0x00004c_00030c_00013d,
    0x00006c_00030c_00013e, 0x00004c_0000b7_00013f, 0x00006c_0000b7_000140, 0x00004e_000301_000143,
    0x00006e_000301_000144, 0x00004e_000327_000145, 0x00006e_000327_000146, 0x00004e_00030c_000147,
    0x00006e_00030c_000148, 0x0002bc_00006e_000149, 0x00004f_000304_00014c, 0x00006f_000304_00014d,
    0x00004f_000306_00014e, 0x00006f_000306_00014f, 0x00004f_00030b_000150, 0x00006f_00030b_000151,
    0x000052_000301_000154, 0x000072_000301_000155, 0x000052_000327_000156, 0x000072_000327_000157,
    0x000052_00030c_000158, 0x000072_00030c_000159, 0x000053_000301_00015a, 0x000073_000301_00015b,
    0x000053_000302_00015c, 0x000073_000302_00015d, 0x000053_000327_00015e, 0x000073_000327_00015f,
    0x000053_00030c_000160, 0x000073_00030c_000161, 0x000054_000327_000162, 0x000074_000327_000163,
    0x000054_00030c_000164, 0x000074_00030c_000165, 0x000055_000303_000168, 0x000075_000303_000169,
    0x000055_000304_00016a, 0x000075_000304_00016b, 0x000055_000306_00016c, 0x000075_000306_00016d,
    0x000055_00030a_00016e, 0x000075_00030a_00016f, 0x000055_00030b_000170, 0x000075_00030b_000171,
    0x000055_000328_000172, 0x000075_000328_000173, 0x000057_000302_000174, 0x000077_000302_000175,
    0x000059_000302_000176, 0x000079_000302_000177, 0x000059_000308_000178, 0x00005a_000301_000179,
    0x00007a_000301_00017a, 0x00005a_000307_00017b, 0x00007a_000307_00017c, 0x00005a_00030c_00017d,
    0x00007a_00030c_00017e, 0x000073_00017f, 0x00004f_00031b_0001a0, 0x00006f_00031b_0001a1,
    0x000055_00031b_0001af, 0x000075_00031b_0001b0, 0x000044_00005a_00030c_0001c4,
    0x000044_00007a_00030c_0001c5, 0x000064_00007a_00030c_0001c6, 0x00004c_00004a_0001c7,
    0x00004c_00006a_0001c8, 0x00006c_00006a_0001c9, 0x00004e_00004a_0001ca, 0x00004e_00006a_0001cb,
    0x00006e_00006a_0001cc, 0x000041_00030c_0001cd, 0x000061_00030c_0001ce, 0x000049_00030c_0001cf,
    0x000069_00030c_0001d0, 0x00004f_00030c_0001d1, 0x00006f_00030c_0001d2, 0x000055_00030c_0001d3,
    0x000075_00030c_0001d4, 0x000055_000308_000304_0001d5, 0x000075_000308_000304_0001d6,
    0x000055_000308_000301_0001d7, 0x000075_000308_000301_0001d8, 0x000055_000308_00030c_0001d9,
    0x000075_000308_00030c_0001da, 0x000055_000308_000300_0001db, 0x000075_000308_000300_0001dc,
    0x000041_000308_000304_0001de, 0x000061_000308_000304_0001df, 0x000041_000307_000304_0001e0,
    0x000061_000307_000304_0001e1, 0x0000c6_000304_0001e2, 0x0000e6_000304_0001e3, 0x000047_00030c_0001e6,
    0x000067_00030c_0001e7, 0x00004b_00030c_0001e8, 0x00006b_00030c_0001e9, 0x00004f_000328_0001ea,
    0x00006f_000328_0001eb, 0x00004f_000328_000304_0001ec, 0x00006f_000328_000304_0001ed,
    0x0001b7_00030c_0001ee, 0x000292_00030c_0001ef, 0x00006a_00030c_0001f0, 0x000044_00005a_0001f1,
    0x000044_00007a_0001f2, 0x000064_00007a_0001f3, 0x000047_000301_0001f4, 0x000067_000301_0001f5,
    0x00004e_000300_0001f8, 0x00006e_000300_0001f9, 0x000041_00030a_000301_0001fa,
    0x000061_00030a_000301_0001fb, 0x0000c6_000301_0001fc, 0x0000e6_000301_0001fd, 0x0000d8_000301_0001fe,
    0x0000f8_000301_0001ff]

/-- The decompositions of U+0200 to U+02FF. -/
def page02 : List Nat :=
  [
    0x000041_00030f_000200, 0x000061_00030f_000201, 0x000041_000311_000202, 0x000061_000311_000203,
    0x000045_00030f_000204, 0x000065_00030f_000205, 0x000045_000311_000206, 0x000065_000311_000207,
    0x000049_00030f_000208, 0x000069_00030f_000209, 0x000049_000311_00020a, 0x000069_000311_00020b,
    0x00004f_00030f_00020c, 0x00006f_00030f_00020d, 0x00004f_000311_00020e, 0x00006f_000311_00020f,
    0x000052_00030f_000210, 0x000072_00030f_000211, 0x000052_000311_000212, 0x000072_000311_000213,
    0x000055_00030f_000214, 0x000075_00030f_000215, 0x000055_000311_000216, 0x000075_000311_000217,
    0x000053_000326_000218, 0x000073_000326_000219, 0x000054_000326_00021a, 0x000074_000326_00021b,
    0x000048_00030c_00021e, 0x000068_00030c_00021f, 0x000041_000307_000226, 0x000061_000307_000227,
    0x000045_000327_000228, 0x000065_000327_000229, 0x00004f_000308_000304_00022a,
    0x00006f_000308_000304_00022b, 0x00004f_000303_000304_00022c, 0x00006f_000303_000304_00022d,
    0x00004f_000307_00022e, 0x00006f_000307_00022f, 0x00004f_000307_000304_000230,
    0x00006f_000307_000304_000231, 0x000059_000304_000232, 0x000079_000304_000233, 0x000068_0002b0,
    0x000266_0002b1, 0x00006a_0002b2, 0x000072_0002b3, 0x000279_0002b4, 0x00027b_0002b5, 0x000281_0002b6,
    0x000077_0002b7, 0x000079_0002b8, 0x000020_000306_0002d8, 0x000020_000307_0002d9, 0x000020_00030a_0002da,
    0x000020_000328_0002db, 0x000020_000303_0002dc, 0x000020_00030b_0002dd, 0x000263_0002e0, 0x00006c_0002e1,
    0x000073_0002e2, 0x000078_0002e3, 0x000295_0002e4]

/-- The decompositions of U+0300 to U+03FF. -/
def page03 : List Nat :=
  [
    0x000300_000340, 0x000301_000341, 0x000313_000343, 0x000308_000301_000344, 0x0002b9_000374,
    0x000020_000345_00037a, 0x00003b_00037e, 0x000020_000301_000384, 0x000020_000308_000301_000385,
    0x000391_000301_000386, 0x0000b7_000387, 0x000395_000301_000388, 0x000397_000301_000389,
    0x000399_000301_00038a, 0x00039f_000301_00038c, 0x0003a5_000301_00038e, 0x0003a9_000301_00038f,
    0x0003b9_000308_000301_000390, 0x000399_000308_0003aa, 0x0003a5_000308_0003ab, 0x0003b1_000301_0003ac,
    0x0003b5_000301_0003ad, 0x0003b7_000301_0003ae, 0x0003b9_000301_0003af, 0x0003c5_000308_000301_0003b0,
    0x0003b9_000308_0003ca, 0x0003c5_000308_0003cb, 0x0003bf_000301_0003cc, 0x0003c5_000301_0003cd,
    0x0003c9_000301_0003ce, 0x0003b2_0003d0, 0x0003b8_0003d1, 0x0003a5_0003d2, 0x0003a5_000301_0003d3,
    0x0003a5_000308_0003d4, 0x0003c6_0003d5, 0x0003c0_0003d6, 0x0003ba_0003f0, 0x0003c1_0003f1,
    0x0003c2_0003f2, 0x000398_0003f4, 0x0003b5_0003f5, 0x0003a3_0003f9]

/-- The decompositions of U+0400 to U+04FF. -/
def page04 : List Nat :=
  [
    0x000415_000300_000400, 0x000415_000308_000401, 0x000413_000301_000403, 0x000406_000308_000407,
    0x00041a_000301_00040c, 0x000418_000300_00040d, 0x000423_000306_00040e, 0x000418_000306_000419,
    0x000438_000306_000439, 0x000435_000300_000450, 0x000435_000308_000451, 0x000433_000301_000453,
    0x000456_000308_000457, 0x00043a_000301_00045c, 0x000438_000300_00045d, 0x000443_000306_00045e,
    0x000474_00030f_000476, 0x000475_00030f_000477, 0x000416_000306_0004c1, 0x000436_000306_0004c2,
    0x000410_000306_0004d0, 0x000430_000306_0004d1, 0x000410_000308_0004d2, 0x000430_000308_0004d3,
    0x000415_000306_0004d6, 0x000435_000306_0004d7, 0x0004d8_000308_0004da, 0x0004d9_000308_0004db,
    0x000416_000308_0004dc, 0x000436_000308_0004dd, 0x000417_000308_0004de, 0x000437_000308_0004df,
    0x000418_000304_0004e2, 0x000438_000304_0004e3, 0x000418_000308_0004e4, 0x000438_000308_0004e5,
    0x00041e_000308_0004e6, 0x00043e_000308_0004e7, 0x0004e8_000308_0004ea, 0x0004e9_000308_0004eb,
    0x00042d_000308_0004ec, 0x00044d_000308_0004ed, 0x000423_000304_0004ee, 0x000443_000304_0004ef,
    0x000423_000308_0004f0, 0x000443_000308_0004f1, 0x000423_00030b_0004f2, 0x000443_00030b_0004f3,
    0x000427_000308_0004f4, 0x000447_000308_0004f5, 0x00042b_000308_0004f8, 0x00044b_000308_0004f9]

/-- The decompositions of U+0500 to U+05FF. -/
def page05 : List Nat :=
  [
    0x000565_000582_000587]

/-- The decompositions of U+0600 to U+06FF. -/
def page06 : List Nat :=
  [
    0x000627_000653_000622, 0x000627_000654_000623, 0x000648_000654_000624, 0x000627_000655_000625,
    0x00064a_000654_000626, 0x000627_000674_000675, 0x000648_000674_000676, 0x0006c7_000674_000677,
    0x00064a_000674_000678, 0x0006d5_000654_0006c0, 0x0006c1_000654_0006c2, 0x0006d2_000654_0006d3]

/-- The decompositions of U+0900 to U+09FF. -/
def page09 : List Nat :=
  [
    0x000928_00093c_000929, 0x000930_00093c_000931, 0x000933_00093c_000934, 0x000915_00093c_000958,
    0x000916_00093c_000959, 0x000917_00093c_00095a, 0x00091c_00093c_00095b, 0x000921_00093c_00095c,
    0x000922_00093c_00095d, 0x00092b_00093c_00095e, 0x00092f_00093c_00095f, 0x0009c7_0009be_0009cb,
    0x0009c7_0009d7_0009cc, 0x0009a1_0009bc_0009dc, 0x0009a2_0009bc_0009dd, 0x0009af_0009bc_0009df]

/-- The decompositions of U+0A00 to U+0AFF. -/
def page0A : List Nat :=
  [
    0x000a32_000a3c_000a33, 0x000a38_000a3c_000a36, 0x000a16_000a3c_000a59, 0x000a17_000a3c_000a5a,
    0x000a1c_000a3c_000a5b, 0x000a2b_000a3c_000a5e]

/-- The decompositions of U+0B00 to U+0BFF. -/
def page0B : List Nat :=
  [
    0x000b47_000b56_000b48, 0x000b47_000b3e_000b4b, 0x000b47_000b57_000b4c, 0x000b21_000b3c_000b5c,
    0x000b22_000b3c_000b5d, 0x000b92_000bd7_000b94, 0x000bc6_000bbe_000bca, 0x000bc7_000bbe_000bcb,
    0x000bc6_000bd7_000bcc]

/-- The decompositions of U+0C00 to U+0CFF. -/
def page0C : List Nat :=
  [
    0x000c46_000c56_000c48, 0x000cbf_000cd5_000cc0, 0x000cc6_000cd5_000cc7, 0x000cc6_000cd6_000cc8,
    0x000cc6_000cc2_000cca, 0x000cc6_000cc2_000cd5_000ccb]

/-- The decompositions of U+0D00 to U+0DFF. -/
def page0D : List Nat :=
  [
    0x000d46_000d3e_000d4a, 0x000d47_000d3e_000d4b, 0x000d46_000d57_000d4c, 0x000dd9_000dca_000dda,
    0x000dd9_000dcf_000ddc, 0x000dd9_000dcf_000dca_000ddd, 0x000dd9_000ddf_000dde]

/-- The decompositions of U+0E00 to U+0EFF. -/
def page0E : List Nat :=
  [
    0x000e4d_000e32_000e33, 0x000ecd_000eb2_000eb3, 0x000eab_000e99_000edc, 0x000eab_000ea1_000edd]

/-- The decompositions of U+0F00 to U+0FFF. -/
def page0F : List Nat :=
  [
    0x000f0b_000f0c, 0x000f42_000fb7_000f43, 0x000f4c_000fb7_000f4d, 0x000f51_000fb7_000f52,
    0x000f56_000fb7_000f57, 0x000f5b_000fb7_000f5c, 0x000f40_000fb5_000f69, 0x000f71_000f72_000f73,
    0x000f71_000f74_000f75, 0x000fb2_000f80_000f76, 0x000fb2_000f71_000f80_000f77, 0x000fb3_000f80_000f78,
    0x000fb3_000f71_000f80_000f79, 0x000f71_000f80_000f81, 0x000f92_000fb7_000f93, 0x000f9c_000fb7_000f9d,
    0x000fa1_000fb7_000fa2, 0x000fa6_000fb7_000fa7, 0x000fab_000fb7_000fac, 0x000f90_000fb5_000fb9]

/-- The decompositions of U+1000 to U+10FF. -/
def page10 : List Nat :=
  [
    0x001025_00102e_001026, 0x0010dc_0010fc]

/-- The decompositions of U+1B00 to U+1BFF. -/
def page1B : List Nat :=
  [
    0x001b05_001b35_001b06, 0x001b07_001b35_001b08, 0x001b09_001b35_001b0a, 0x001b0b_001b35_001b0c,
    0x001b0d_001b35_001b0e, 0x001b11_001b35_001b12, 0x001b3a_001b35_001b3b, 0x001b3c_001b35_001b3d,
    0x001b3e_001b35_001b40, 0x001b3f_001b35_001b41, 0x001b42_001b35_001b43]

/-- The decompositions of U+1D00 to U+1DFF. -/
def page1D : List Nat :=
  [
    0x000041_001d2c, 0x0000c6_001d2d, 0x000042_001d2e, 0x000044_001d30, 0x000045_001d31, 0x00018e_001d32,
    0x00004f_001d3c, 0x000222_001d3d, 0x000050_001d3e, 0x000052_001d3f, 0x000054_001d40, 0x000055_001d41,
    0x000057_001d42, 0x000061_001d43, 0x000250_001d44, 0x000251_001d45, 0x001d02_001d46, 0x000062_001d47,
    0x000064_001d48, 0x000065_001d49, 0x000259_001d4a, 0x00025b_001d4b, 0x00025c_001d4c, 0x000067_001d4d,
    0x00006b_001d4f, 0x00006d_001d50, 0x00014b_001d51, 0x00006f_001d52, 0x000254_001d53, 0x001d16_001d54,
    0x001d17_001d55, 0x000070_001d56, 0x000074_001d57, 0x000075_001d58, 0x001d1d_001d59, 0x00026f_001d5a,
    0x000076_001d5b, 0x001d25_001d5c, 0x0003c6_001d60, 0x0003c7_001d61, 0x000069_001d62, 0x000072_001d63,
    0x000075_001d64, 0x000076_001d65, 0x0003b2_001d66, 0x0003b3_001d67, 0x0003c1_001d68, 0x0003c6_001d69,
    0x0003c7_001d6a, 0x00043d_001d78, 0x000252_001d9b, 0x000063_001d9c, 0x000255_001d9d, 0x0000f0_001d9e,
    0x00025c_001d9f, 0x000066_001da0, 0x00025f_001da1, 0x000261_001da2, 0x000265_001da3, 0x001d7b_001da7,
    0x00029d_001da8, 0x00026d_001da9, 0x001d85_001daa, 0x00029f_001dab, 0x000271_001dac, 0x000270_001dad,
    0x000278_001db2, 0x000282_001db3, 0x000283_001db4, 0x0001ab_001db5, 0x000289_001db6, 0x00028a_001db7,
    0x001d1c_001db8, 0x00028b_001db9, 0x00028c_001dba, 0x00007a_001dbb, 0x0003b8_001dbf]

/-- The decompositions of U+1E00 to U+1EFF. -/
def page1E : List Nat :=
  [
    0x000041_000325_001e00, 0x000061_000325_001e01, 0x000042_000307_001e02, 0x000062_000307_001e03,
    0x000042_000323_001e04, 0x000062_000323_001e05, 0x000042_000331_001e06, 0x000062_000331_001e07,
    0x000043_000327_000301_001e08, 0x000063_000327_000301_001e09, 0x000044_000307_001e0a,
    0x000064_000307_001e0b, 0x000044_000323_001e0c, 0x000064_000323_001e0d, 0x000044_000331_001e0e,
    0x000064_000331_001e0f, 0x000044_000327_001e10, 0x000064_000327_001e11, 0x000044_00032d_001e12,
    0x000064_00032d_001e13, 0x000045_000304_000300_001e14, 0x000065_000304_000300_001e15,
    0x000045_000304_000301_001e16, 0x000065_000304_000301_001e17, 0x000045_00032d_001e18,
    0x000065_00032d_001e19, 0x000045_000330_001e1a, 0x000065_000330_001e1b, 0x000045_000327_000306_001e1c,
    0x000065_000327_000306_001e1d, 0x000046_000307_001e1e, 0x000066_000307_001e1f, 0x000047_000304_001e20,
    0x000067_000304_001e21, 0x000048_000307_001e22, 0x000068_000307_001e23, 0x000048_000323_001e24,
    0x000068_000323_001e25, 0x000048_000308_001e26, 0x000068_000308_001e27, 0x000048_000327_001e28,
    0x000068_000327_001e29, 0x000048_00032e_001e2a, 0x000068_00032e_001e2b, 0x000049_000330_001e2c,
    0x000069_000330_001e2d, 0x000049_000308_000301_001e2e, 0x000069_000308_000301_001e2f,
    0x00004b_000301_001e30, 0x00006b_000301_001e31, 0x00004b_000323_001e32, 0x00006b_000323_001e33,
    0x00004b_000331_001e34, 0x00006b_000331_001e35, 0x00004c_000323_001e36, 0x00006c_000323_001e37,
    0x00004c_000323_000304_001e38, 0x00006c_000323_000304_001e39, 0x00004c_000331_001e3a,
    0x00006c_000331_001e3b, 0x00004c_00032d_001e3c, 0x00006c_00032d_001e3d, 0x00004d_000301_001e3e,
    0x00006d_000301_001e3f, 0x00004d_000307_001e40, 0x00006d_000307_001e41, 0x00004d_000323_001e42,
    0x00006d_000323_001e43, 0x00004e_000307_001e44, 0x00006e_000307_001e45, 0x00004e_000323_001e46,
    0x00006e_000323_001e47, 0x00004e_000331_001e48, 0x00006e_000331_001e49, 0x00004e_00032d_001e4a,
    0x00006e_00032d_001e4b, 0x00004f_000303_000301_001e4c, 0x00006f_000303_000301_001e4d,
    0x00004f_000303_000308_001e4e, 0x00006f_000303_000308_001e4f, 0x00004f_000304_000300_001e50,
    0x00006f_000304_000300_001e51, 0x00004f_000304_000301_001e52, 0x00006f_000304_000301_001e53,
    0x000050_000301_001e54, 0x000070_000301_001e55, 0x000050_000307_001e56, 0x000070_000307_001e57,
    0x000052_000307_001e58, 0x000072_000307_001e59, 0x000052_000323_001e5a, 0x000072_000323_001e5b,
    0x000052_000323_000304_001e5c, 0x000072_000323_000304_001e5d, 0x000052_000331_001e5e,
    0x000072_000331_001e5f, 0x000053_000307_001e60, 0x000073_000307_001e61, 0x000053_000323_001e62,
    0x000073_000323_001e63, 0x000053_000301_000307_001e64, 0x000073_000301_000307_001e65,
    0x000053_00030c_000307_001e66, 0x000073_00030c_000307_001e67, 0x000053_000323_000307_001e68,
    0x000073_000323_000307_001e69, 0x000054_000307_001e6a, 0x000074_000307_001e6b, 0x000054_000323_001e6c,
    0x000074_000323_001e6d, 0x000054_000331_001e6e, 0x000074_000331_001e6f, 0x000054_00032d_001e70,
    0x000074_00032d_001e71, 0x000055_000324_001e72, 0x000075_000324_001e73, 0x000055_000330_001e74,
    0x000075_000330_001e75, 0x000055_00032d_001e76, 0x000075_00032d_001e77, 0x000055_000303_000301_001e78,
    0x000075_000303_000301_001e79, 0x000055_000304_000308_001e7a, 0x000075_000304_000308_001e7b,
    0x000056_000303_001e7c, 0x000076_000303_001e7d, 0x000056_000323_001e7e, 0x000076_000323_001e7f,
    0x000057_000300_001e80, 0x000077_000300_001e81, 0x000057_000301_001e82, 0x000077_000301_001e83,
    0x000057_000308_001e84, 0x000077_000308_001e85, 0x000057_000307_001e86, 0x000077_000307_001e87,
    0x000057_000323_001e88, 0x000077_000323_001e89, 0x000058_000307_001e8a, 0x000078_000307_001e8b,
    0x000058_000308_001e8c, 0x000078_000308_001e8d, 0x000059_000307_001e8e, 0x000079_000307_001e8f,
    0x00005a_000302_001e90, 0x00007a_000302_001e91, 0x00005a_000323_001e92, 0x00007a_000323_001e93,
    0x00005a_000331_001e94, 0x00007a_000331_001e95, 0x000068_000331_001e96, 0x000074_000308_001e97,
    0x000077_00030a_001e98, 0x000079_00030a_001e99, 0x000061_0002be_001e9a, 0x000073_000307_001e9b,
    0x000041_000323_001ea0, 0x000061_000323_001ea1, 0x000041_000309_001ea2, 0x000061_000309_001ea3,
    0x000041_000302_000301_001ea4, 0x000061_000302_000301_001ea5, 0x000041_000302_000300_001ea6,
    0x000061_000302_000300_001ea7, 0x000041_000302_000309_001ea8, 0x000061_000302_000309_001ea9,
    0x000041_000302_000303_001eaa, 0x000061_000302_000303_001eab, 0x000041_000323_000302_001eac,
    0x000061_000323_000302_001ead, 0x000041_000306_000301_001eae, 0x000061_000306_000301_001eaf,
    0x000041_000306_000300_001eb0, 0x000061_000306_000300_001eb1, 0x000041_000306_000309_001eb2,
    0x000061_000306_000309_001eb3, 0x000041_000306_000303_001eb4, 0x000061_000306_000303_001eb5,
    0x000041_000323_000306_001eb6, 0x000061_000323_000306_001eb7, 0x000045_000323_001eb8,
    0x000065_000323_001eb9, 0x000045_000309_001eba, 0x000065_000309_001ebb, 0x000045_000303_001ebc,
    0x000065_000303_001ebd, 0x000045_000302_000301_001ebe, 0x000065_000302_000301_001ebf,
    0x000045_000302_000300_001ec0, 0x000065_000302_000300_001ec1, 0x000045_000302_000309_001ec2,
    0x000065_000302_000309_001ec3, 0x000045_000302_000303_001ec4, 0x000065_000302_000303_001ec5,
    0x000045_000323_000302_001ec6, 0x000065_000323_000302_001ec7, 0x000049_000309_001ec8,
    0x000069_000309_001ec9, 0x000049_000323_001eca, 0x000069_000323_001ecb, 0x00004f_000323_001ecc,
    0x00006f_000323_001ecd, 0x00004f_000309_001ece, 0x00006f_000309_001ecf, 0x00004f_000302_000301_001ed0,
    0x00006f_000302_000301_001ed1, 0x00004f_000302_000300_001ed2, 0x00006f_000302_000300_001ed3,
    0x00004f_000302_000309_001ed4, 0x00006f_000302_000309_001ed5, 0x00004f_000302_000303_001ed6,
    0x00006f_000302_000303_001ed7, 0x00004f_000323_000302_001ed8, 0x00006f_000323_000302_001ed9,
    0x00004f_00031b_000301_001eda, 0x00006f_00031b_000301_001edb, 0x00004f_00031b_000300_001edc,
    0x00006f_00031b_000300_001edd, 0x00004f_00031b_000309_001ede, 0x00006f_00031b_000309_001edf,
    0x00004f_00031b_000303_001ee0, 0x00006f_00031b_000303_001ee1, 0x00004f_00031b_000323_001ee2,
    0x00006f_00031b_000323_001ee3, 0x000055_000323_001ee4, 0x000075_000323_001ee5, 0x000055_000309_001ee6,
    0x000075_000309_001ee7, 0x000055_00031b_000301_001ee8, 0x000075_00031b_000301_001ee9,
    0x000055_00031b_000300_001eea, 0x000075_00031b_000300_001eeb, 0x000055_00031b_000309_001eec,
    0x000075_00031b_000309_001eed, 0x000055_00031b_000303_001eee, 0x000075_00031b_000303_001eef,
    0x000055_00031b_000323_001ef0, 0x000075_00031b_000323_001ef1, 0x000059_000300_001ef2,
    0x000079_000300_001ef3, 0x000059_000323_001ef4, 0x000079_000323_001ef5, 0x000059_000309_001ef6,
    0x000079_000309_001ef7, 0x000059_000303_001ef8, 0x000079_000303_001ef9]

/-- The decompositions of U+1F00 to U+1FFF. -/
def page1F : List Nat :=
  [
    0x0003b1_000313_001f00, 0x0003b1_000314_001f01, 0x0003b1_000313_000300_001f02,
    0x0003b1_000314_000300_001f03, 0x0003b1_000313_000301_001f04, 0x0003b1_000314_000301_001f05,
    0x0003b1_000313_000342_001f06, 0x0003b1_000314_000342_001f07, 0x000391_000313_001f08,
    0x000391_000314_001f09, 0x000391_000313_000300_001f0a, 0x000391_000314_000300_001f0b,
    0x000391_000313_000301_001f0c, 0x000391_000314_000301_001f0d, 0x000391_000313_000342_001f0e,
    0x000391_000314_000342_001f0f, 0x0003b5_000313_001f10, 0x0003b5_000314_001f11,
    0x0003b5_000313_000300_001f12, 0x0003b5_000314_000300_001f13, 0x0003b5_000313_000301_001f14,
    0x0003b5_000314_000301_001f15, 0x000395_000313_001f18, 0x000395_000314_001f19,
    0x000395_000313_000300_001f1a, 0x000395_000314_000300_001f1b, 0x000395_000313_000301_001f1c,
    0x000395_000314_000301_001f1d, 0x0003b7_000313_001f20, 0x0003b7_000314_001f21,
    0x0003b7_000313_000300_001f22, 0x0003b7_000314_000300_001f23, 0x0003b7_000313_000301_001f24,
    0x0003b7_000314_000301_001f25, 0x0003b7_000313_000342_001f26, 0x0003b7_000314_000342_001f27,
    0x000397_000313_001f28, 0x000397_000314_001f29, 0x000397_000313_000300_001f2a,
    0x000397_000314_000300_001f2b, 0x000397_000313_000301_001f2c, 0x000397_000314_000301_001f2d,
    0x000397_000313_000342_001f2e, 0x000397_000314_000342_001f2f, 0x0003b9_000313_001f30,
    0x0003b9_000314_001f31, 0x0003b9_000313_000300_001f32, 0x0003b9_000314_000300_001f33,
    0x0003b9_000313_000301_001f34, 0x0003b9_000314_000301_001f35, 0x0003b9_000313_000342_001f36,
    0x0003b9_000314_000342_001f37, 0x000399_000313_001f38, 0x000399_000314_001f39,
    0x000399_000313_000300_001f3a, 0x000399_000314_000300_001f3b, 0x000399_000313_000301_001f3c,
    0x000399_000314_000301_001f3d, 0x000399_000313_000342_001f3e, 0x000399_000314_000342_001f3f,
    0x0003bf_000313_001f40, 0x0003bf_000314_001f41, 0x0003bf_000313_000300_001f42,
    0x0003bf_000314_000300_001f43, 0x0003bf_000313_000301_001f44, 0x0003bf_000314_000301_001f45,
    0x00039f_000313_001f48, 0x00039f_000314_001f49, 0x00039f_000313_000300_001f4a,
    0x00039f_000314_000300_001f4b, 0x00039f_000313_000301_001f4c, 0x00039f_000314_000301_001f4d,
    0x0003c5_000313_001f50, 0x0003c5_000314_001f51, 0x0003c5_000313_000300_001f52,
    0x0003c5_000314_000300_001f53, 0x0003c5_000313_000301_001f54, 0x0003c5_000314_000301_001f55,
    0x0003c5_000313_000342_001f56, 0x0003c5_000314_000342_001f57, 0x0003a5_000314_001f59,
    0x0003a5_000314_000300_001f5b, 0x0003a5_000314_000301_001f5d, 0x0003a5_000314_000342_001f5f,
    0x0003c9_000313_001f60, 0x0003c9_000314_001f61, 0x0003c9_000313_000300_001f62,
    0x0003c9_000314_000300_001f63, 0x0003c9_000313_000301_001f64, 0x0003c9_000314_000301_001f65,
    0x0003c9_000313_000342_001f66, 0x0003c9_000314_000342_001f67, 0x0003a9_000313_001f68,
    0x0003a9_000314_001f69, 0x0003a9_000313_000300_001f6a, 0x0003a9_000314_000300_001f6b,
    0x0003a9_000313_000301_001f6c, 0x0003a9_000314_000301_001f6d, 0x0003a9_000313_000342_001f6e,
    0x0003a9_000314_000342_001f6f, 0x0003b1_000300_001f70, 0x0003b1_000301_001f71, 0x0003b5_000300_001f72,
    0x0003b5_000301_001f73, 0x0003b7_000300_001f74, 0x0003b7_000301_001f75, 0x0003b9_000300_001f76,
    0x0003b9_000301_001f77, 0x0003bf_000300_001f78, 0x0003bf_000301_001f79, 0x0003c5_000300_001f7a,
    0x0003c5_000301_001f7b, 0x0003c9_000300_001f7c, 0x0003c9_000301_001f7d, 0x0003b1_000313_000345_001f80,
    0x0003b1_000314_000345_001f81, 0x0003b1_000313_000300_000345_001f82, 0x0003b1_000314_000300_000345_001f83,
    0x0003b1_000313_000301_000345_001f84, 0x0003b1_000314_000301_000345_001f85,
    0x0003b1_000313_000342_000345_001f86, 0x0003b1_000314_000342_000345_001f87, 0x000391_000313_000345_001f88,
    0x000391_000314_000345_001f89, 0x000391_000313_000300_000345_001f8a, 0x000391_000314_000300_000345_001f8b,
    0x000391_000313_000301_000345_001f8c, 0x000391_000314_000301_000345_001f8d,
    0x000391_000313_000342_000345_001f8e, 0x000391_000314_000342_000345_001f8f, 0x0003b7_000313_000345_001f90,
    0x0003b7_000314_000345_001f91, 0x0003b7_000313_000300_000345_001f92, 0x0003b7_000314_000300_000345_001f93,
    0x0003b7_000313_000301_000345_001f94, 0x0003b7_000314_000301_000345_001f95,
    0x0003b7_000313_000342_000345_001f96, 0x0003b7_000314_000342_000345_001f97, 0x000397_000313_000345_001f98,
    0x000397_000314_000345_001f99, 0x000397_000313_000300_000345_001f9a, 0x000397_000314_000300_000345_001f9b,
    0x000397_000313_000301_000345_001f9c, 0x000397_000314_000301_000345_001f9d,
    0x000397_000313_000342_000345_001f9e, 0x000397_000314_000342_000345_001f9f, 0x0003c9_000313_000345_001fa0,
    0x0003c9_000314_000345_001fa1, 0x0003c9_000313_000300_000345_001fa2, 0x0003c9_000314_000300_000345_001fa3,
    0x0003c9_000313_000301_000345_001fa4, 0x0003c9_000314_000301_000345_001fa5,
    0x0003c9_000313_000342_000345_001fa6, 0x0003c9_000314_000342_000345_001fa7, 0x0003a9_000313_000345_001fa8,
    0x0003a9_000314_000345_001fa9, 0x0003a9_000313_000300_000345_001faa, 0x0003a9_000314_000300_000345_001fab,
    0x0003a9_000313_000301_000345_001fac, 0x0003a9_000314_000301_000345_001fad,
    0x0003a9_000313_000342_000345_001fae, 0x0003a9_000314_000342_000345_001faf, 0x0003b1_000306_001fb0,
    0x0003b1_000304_001fb1, 0x0003b1_000300_000345_001fb2, 0x0003b1_000345_001fb3,
    0x0003b1_000301_000345_001fb4, 0x0003b1_000342_001fb6, 0x0003b1_000342_000345_001fb7,
    0x000391_000306_001fb8, 0x000391_000304_001fb9, 0x000391_000300_001fba, 0x000391_000301_001fbb,
    0x000391_000345_001fbc, 0x000020_000313_001fbd, 0x0003b9_001fbe, 0x000020_000313_001fbf,
    0x000020_000342_001fc0, 0x000020_000308_000342_001fc1, 0x0003b7_000300_000345_001fc2,
    0x0003b7_000345_001fc3, 0x0003b7_000301_000345_001fc4, 0x0003b7_000342_001fc6,
    0x0003b7_000342_000345_001fc7, 0x000395_000300_001fc8, 0x000395_000301_001fc9, 0x000397_000300_001fca,
    0x000397_000301_001fcb, 0x000397_000345_001fcc, 0x000020_000313_000300_001fcd,
    0x000020_000313_000301_001fce, 0x000020_000313_000342_001fcf, 0x0003b9_000306_001fd0,
    0x0003b9_000304_001fd1, 0x0003b9_000308_000300_001fd2, 0x0003b9_000308_000301_001fd3,
    0x0003b9_000342_001fd6, 0x0003b9_000308_000342_001fd7, 0x000399_000306_001fd8, 0x000399_000304_001fd9,
    0x000399_000300_001fda, 0x000399_000301_001fdb, 0x000020_000314_000300_001fdd,
    0x000020_000314_000301_001fde, 0x000020_000314_000342_001fdf, 0x0003c5_000306_001fe0,
    0x0003c5_000304_001fe1, 0x0003c5_000308_000300_001fe2, 0x0003c5_000308_000301_001fe3,
    0x0003c1_000313_001fe4, 0x0003c1_000314_001fe5, 0x0003c5_000342_001fe6, 0x0003c5_000308_000342_001fe7,
    0x0003a5_000306_001fe8, 0x0003a5_000304_001fe9, 0x0003a5_000300_001fea, 0x0003a5_000301_001feb,
    0x0003a1_000314_001fec, 0x000020_000308_000300_001fed, 0x000020_000308_000301_001fee, 0x000060_001fef,
    0x0003c9_000300_000345_001ff2, 0x0003c9_000345_001ff3, 0x0003c9_000301_000345_001ff4,
    0x0003c9_000342_001ff6, 0x0003c9_000342_000345_001ff7, 0x00039f_000300_001ff8, 0x00039f_000301_001ff9,
    0x0003a9_000300_001ffa, 0x0003a9_000301_001ffb, 0x0003a9_000345_001ffc, 0x000020_000301_001ffd,
    0x000020_000314_001ffe]

/-- The pages of this part. -/
def lettersPages : List (Nat × List Nat) :=
  [
    (0x00, page00), (0x01, page01), (0x02, page02), (0x03, page03), (0x04, page04), (0x05, page05),
    (0x06, page06), (0x09, page09), (0x0a, page0A), (0x0b, page0B), (0x0c, page0C), (0x0d, page0D),
    (0x0e, page0E), (0x0f, page0F), (0x10, page10), (0x1b, page1B), (0x1d, page1D), (0x1e, page1E),
    (0x1f, page1F)]

end QueryGate.Text.Decomposition
