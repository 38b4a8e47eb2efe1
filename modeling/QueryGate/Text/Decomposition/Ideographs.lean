/-!
Decompositions of the characters of East Asian scripts: kana, enclosed and squared characters, and compatibility
ideographs.
-/
set_option autoImplicit false

namespace QueryGate.Text.Decomposition

/-- The decompositions of U+3000 to U+30FF. -/
def page30 : List Nat :=
  [
    0x000020_003000, 0x003012_003036, 0x005341_003038, 0x005344_003039, 0x005345_00303a,
    0x00304b_003099_00304c, 0x00304d_003099_00304e, 0x00304f_003099_003050, 0x003051_003099_003052,
    0x003053_003099_003054, 0x003055_003099_003056, 0x003057_003099_003058, 0x003059_003099_00305a,
    0x00305b_003099_00305c, 0x00305d_003099_00305e, 0x00305f_003099_003060, 0x003061_003099_003062,
    0x003064_003099_003065, 0x003066_003099_003067, 0x003068_003099_003069, 0x00306f_003099_003070,
    0x00306f_00309a_003071, 0x003072_003099_003073, 0x003072_00309a_003074, 0x003075_003099_003076,
    0x003075_00309a_003077, 0x003078_003099_003079, 0x003078_00309a_00307a, 0x00307b_003099_00307c,
    0x00307b_00309a_00307d, 0x003046_003099_003094, 0x000020_003099_00309b, 0x000020_00309a_00309c,
    0x00309d_003099_00309e, 0x003088_00308a_00309f, 0x0030ab_003099_0030ac, 0x0030ad_003099_0030ae,
    0x0030af_003099_0030b0, 0x0030b1_003099_0030b2, 0x0030b3_003099_0030b4, 0x0030b5_003099_0030b6,
    0x0030b7_003099_0030b8, 0x0030b9_003099_0030ba, 0x0030bb_003099_0030bc, 0x0030bd_003099_0030be,
    0x0030bf_003099_0030c0, 0x0030c1_003099_0030c2, 0x0030c4_003099_0030c5, 0x0030c6_003099_0030c7,
    0x0030c8_003099_0030c9, 0x0030cf_003099_0030d0, 0x0030cf_00309a_0030d1, 0x0030d2_003099_0030d3,
    0x0030d2_00309a_0030d4, 0x0030d5_003099_0030d6, 0x0030d5_00309a_0030d7, 0x0030d8_003099_0030d9,
    0x0030d8_00309a_0030da, 0x0030db_003099_0030dc, 0x0030db_00309a_0030dd, 0x0030a6_003099_0030f4,
    0x0030ef_003099_0030f7, 0x0030f0_003099_0030f8, 0x0030f1_003099_0030f9, 0x0030f2_003099_0030fa,
    0x0030fd_003099_0030fe, 0x0030b3_0030c8_0030ff]

/-- The decompositions of U+3100 to U+31FF. -/
def page31 : List Nat :=
  [
    0x001100_003131, 0x001101_003132, 0x0011aa_003133, 0x001102_003134, 0x0011ac_003135, 0x0011ad_003136,
    0x00111a_003140, 0x001121_003144, 0x001160_003164, 0x001114_003165, 0x001115_003166, 0x0011c7_003167,
    0x0011c8_003168, 0x0011cc_003169, 0x0011ce_00316a, 0x0011d3_00316b, 0x0011d7_00316c, 0x0011d9_00316d,
    0x00111c_00316e, 0x0011dd_00316f, 0x0011df_003170, 0x00111d_003171, 0x00111e_003172, 0x001120_003173,
    0x001122_003174, 0x001123_003175, 0x001127_003176, 0x001129_003177, 0x001132_00317d, 0x001136_00317e,
    0x001140_00317f, 0x001147_003180, 0x00114c_003181, 0x0011f1_003182, 0x0011f2_003183, 0x001184_003187,
    0x001185_003188, 0x001188_003189, 0x001191_00318a, 0x001192_00318b, 0x001194_00318c, 0x00119e_00318d,
    0x0011a1_00318e, 0x004e00_003192, 0x004e8c_003193, 0x004e09_003194, 0x0056db_003195, 0x004e0a_003196,
    0x004e2d_003197, 0x004e0b_003198, 0x007532_003199, 0x004e59_00319a, 0x004e19_00319b, 0x004e01_00319c,
    0x005929_00319d, 0x005730_00319e, 0x004eba_00319f]

/-- The decompositions of U+3200 to U+32FF. -/
def page32 : List Nat :=
  [
    0x000028_001100_000029_003200, 0x000028_001102_000029_003201, 0x000028_001103_000029_003202,
    0x000028_001105_000029_003203, 0x000028_001106_000029_003204, 0x000028_001107_000029_003205,
    0x000028_001109_000029_003206, 0x000028_00110b_000029_003207, 0x000028_00110c_000029_003208,
    0x000028_00110e_000029_003209, 0x000028_00110f_000029_00320a, 0x000028_001110_000029_00320b,
    0x000028_001111_000029_00320c, 0x000028_001112_000029_00320d, 0x000028_001100_001161_000029_00320e,
    0x000028_001102_001161_000029_00320f, 0x000028_001103_001161_000029_003210,
    0x000028_001105_001161_000029_003211, 0x000028_001106_001161_000029_003212,
    0x000028_001107_001161_000029_003213, 0x000028_001109_001161_000029_003214,
    0x000028_00110b_001161_000029_003215, 0x000028_00110c_001161_000029_003216,
    0x000028_00110e_001161_000029_003217, 0x000028_00110f_001161_000029_003218,
    0x000028_001110_001161_000029_003219, 0x000028_001111_001161_000029_00321a,
    0x000028_001112_001161_000029_00321b, 0x000028_00110c_00116e_000029_00321c,
    0x000028_00110b_001169_00110c_001165_0011ab_000029_00321d,
    0x000028_00110b_001169_001112_00116e_000029_00321e, 0x000028_004e00_000029_003220,
    0x000028_004e8c_000029_003221, 0x000028_004e09_000029_003222, 0x000028_0056db_000029_003223,
    0x000028_004e94_000029_003224, 0x000028_00516d_000029_003225, 0x000028_004e03_000029_003226,
    0x000028_00516b_000029_003227, 0x000028_004e5d_000029_003228, 0x000028_005341_000029_003229,
    0x000028_006708_000029_00322a, 0x000028_00706b_000029_00322b, 0x000028_006c34_000029_00322c,
    0x000028_006728_000029_00322d, 0x000028_0091d1_000029_00322e, 0x000028_00571f_000029_00322f,
    0x000028_0065e5_000029_003230, 0x000028_00682a_000029_003231, 0x000028_006709_000029_003232,
    0x000028_00793e_000029_003233, 0x000028_00540d_000029_003234, 0x000028_007279_000029_003235,
    0x000028_008ca1_000029_003236, 0x000028_00795d_000029_003237, 0x000028_0052b4_000029_003238,
    0x000028_004ee3_000029_003239, 0x000028_00547c_000029_00323a, 0x000028_005b66_000029_00323b,
    0x000028_0076e3_000029_00323c, 0x000028_004f01_000029_00323d, 0x000028_008cc7_000029_00323e,
    0x000028_005354_000029_00323f, 0x000028_00796d_000029_003240, 0x000028_004f11_000029_003241,
    0x000028_0081ea_000029_003242, 0x000028_0081f3_000029_003243, 0x00554f_003244, 0x005e7c_003245,
    0x006587_003246, 0x007b8f_003247, 0x000050_000054_000045_003250, 0x000032_000031_003251,
    0x000032_000032_003252, 0x000032_000033_003253, 0x000032_000034_003254, 0x000032_000035_003255,
    0x000032_000036_003256, 0x000032_000037_003257, 0x000032_000038_003258, 0x000032_000039_003259,
    0x000033_000030_00325a, 0x000033_000031_00325b, 0x000033_000032_00325c, 0x000033_000033_00325d,
    0x000033_000034_00325e, 0x000033_000035_00325f, 0x001100_003260, 0x001102_003261, 0x001103_003262,
    0x001109_003266, 0x00110b_003267, 0x00110c_003268, 0x001100_001161_00326e, 0x001102_001161_00326f,
    0x001103_001161_003270, 0x001105_001161_003271, 0x001106_001161_003272, 0x001107_001161_003273,
    0x001109_001161_003274, 0x00110b_001161_003275, 0x00110c_001161_003276, 0x00110e_001161_003277,
    0x00110f_001161_003278, 0x001110_001161_003279, 0x001111_001161_00327a, 0x001112_001161_00327b,
    0x00110e_001161_0011b7_001100_001169_00327c, 0x00110c_00116e_00110b_001174_00327d, 0x00110b_00116e_00327e,
    0x004e00_003280, 0x004e8c_003281, 0x004e09_003282, 0x0056db_003283, 0x004e94_003284, 0x00516d_003285,
    0x004e03_003286, 0x00516b_003287, 0x004e5d_003288, 0x005341_003289, 0x006708_00328a, 0x00706b_00328b,
    0x006c34_00328c, 0x006728_00328d, 0x0091d1_00328e, 0x00571f_00328f, 0x0065e5_003290, 0x00682a_003291,
    0x006709_003292, 0x00793e_003293, 0x00540d_003294, 0x007279_003295, 0x008ca1_003296, 0x00795d_003297,
    0x0052b4_003298, 0x0079d8_003299, 0x007537_00329a, 0x005973_00329b, 0x009069_00329c, 0x00512a_00329d,
    0x005370_00329e, 0x006ce8_00329f, 0x009805_0032a0, 0x004f11_0032a1, 0x005199_0032a2, 0x006b63_0032a3,
    0x004e0a_0032a4, 0x004e2d_0032a5, 0x004e0b_0032a6, 0x005de6_0032a7, 0x0053f3_0032a8, 0x00533b_0032a9,
    0x005b97_0032aa, 0x005b66_0032ab, 0x0076e3_0032ac, 0x004f01_0032ad, 0x008cc7_0032ae, 0x005354_0032af,
    0x00591c_0032b0, 0x000033_000036_0032b1, 0x000033_000037_0032b2, 0x000033_000038_0032b3,
    0x000033_000039_0032b4, 0x000034_000030_0032b5, 0x000034_000031_0032b6, 0x000034_000032_0032b7,
    0x000034_000033_0032b8, 0x000034_000034_0032b9, 0x000034_000035_0032ba, 0x000034_000036_0032bb,
    0x000034_000037_0032bc, 0x000034_000038_0032bd, 0x000034_000039_0032be, 0x000035_000030_0032bf,
    0x000031_006708_0032c0, 0x000032_006708_0032c1, 0x000033_006708_0032c2, 0x000034_006708_0032c3,
    0x000035_006708_0032c4, 0x000036_006708_0032c5, 0x000037_006708_0032c6, 0x000038_006708_0032c7,
    0x000039_006708_0032c8, 0x000031_000030_006708_0032c9, 0x000031_000031_006708_0032ca,
    0x000031_000032_006708_0032cb, 0x000048_000067_0032cc, 0x000065_000072_000067_0032cd,
    0x000065_000056_0032ce, 0x00004c_000054_000044_0032cf, 0x0030a2_0032d0, 0x0030a4_0032d1, 0x0030a6_0032d2,
    0x0030a8_0032d3, 0x0030aa_0032d4, 0x0030ab_0032d5, 0x0030ad_0032d6, 0x0030af_0032d7, 0x0030b1_0032d8,
    0x0030b3_0032d9, 0x0030b5_0032da, 0x0030b7_0032db, 0x0030b9_0032dc, 0x0030bb_0032dd, 0x0030bd_0032de,
    0x0030bf_0032df, 0x0030c1_0032e0, 0x0030c4_0032e1, 0x0030c6_0032e2, 0x0030c8_0032e3, 0x0030d2_0032ea,
    0x0030d5_0032eb, 0x0030d8_0032ec, 0x0030db_0032ed, 0x0030e4_0032f3, 0x0030e6_0032f4, 0x004ee4_00548c_0032ff]

/-- The decompositions of U+3300 to U+33FF. -/
def page33 : List Nat :=
  [
    0x0030a2_0030cf_00309a_0030fc_0030c8_003300, 0x0030a2_0030eb_0030d5_0030a1_003301,
    0x0030a2_0030f3_0030d8_00309a_0030a2_003302, 0x0030a2_0030fc_0030eb_003303,
    0x0030a4_0030cb_0030f3_0030af_003099_003304, 0x0030a4_0030f3_0030c1_003305, 0x0030a6_0030a9_0030f3_003306,
    0x0030a8_0030b9_0030af_0030fc_0030c8_003099_003307, 0x0030a8_0030fc_0030ab_0030fc_003308,
    0x0030aa_0030f3_0030b9_003309, 0x0030aa_0030fc_0030e0_00330a, 0x0030ab_0030a4_0030ea_00330b,
    0x0030ab_0030e9_0030c3_0030c8_00330c, 0x0030ab_0030ed_0030ea_0030fc_00330d,
    0x0030ab_003099_0030ed_0030f3_00330e, 0x0030ab_003099_0030f3_0030de_00330f,
    0x0030ad_003099_0030ab_003099_003310, 0x0030ad_003099_0030cb_0030fc_003311,
    0x0030ad_0030e5_0030ea_0030fc_003312, 0x0030ad_003099_0030eb_0030bf_003099_0030fc_003313,
    0x0030ad_0030ed_003314, 0x0030ad_0030ed_0030af_003099_0030e9_0030e0_003315,
    0x0030ad_0030ed_0030e1_0030fc_0030c8_0030eb_003316, 0x0030ad_0030ed_0030ef_0030c3_0030c8_003317,
    0x0030af_003099_0030e9_0030e0_003318, 0x0030af_003099_0030e9_0030e0_0030c8_0030f3_003319,
    0x0030af_0030eb_0030bb_003099_0030a4_0030ed_00331a, 0x0030af_0030ed_0030fc_0030cd_00331b,
    0x0030b1_0030fc_0030b9_00331c, 0x0030b3_0030eb_0030ca_00331d, 0x0030b3_0030fc_0030db_00309a_00331e,
    0x0030b5_0030a4_0030af_0030eb_00331f, 0x0030b5_0030f3_0030c1_0030fc_0030e0_003320,
    0x0030b7_0030ea_0030f3_0030af_003099_003321, 0x0030bb_0030f3_0030c1_003322, 0x0030bb_0030f3_0030c8_003323,
    0x0030bf_003099_0030fc_0030b9_003324, 0x0030c6_003099_0030b7_003325, 0x0030c8_003099_0030eb_003326,
    0x0030c8_0030f3_003327, 0x0030ca_0030ce_003328, 0x0030ce_0030c3_0030c8_003329,
    0x0030cf_0030a4_0030c4_00332a, 0x0030cf_00309a_0030fc_0030bb_0030f3_0030c8_00332b,
    0x0030cf_00309a_0030fc_0030c4_00332c, 0x0030cf_003099_0030fc_0030ec_0030eb_00332d,
    0x0030d2_00309a_0030a2_0030b9_0030c8_0030eb_00332e, 0x0030d2_00309a_0030af_0030eb_00332f,
    0x0030d2_00309a_0030b3_003330, 0x0030d2_003099_0030eb_003331,
    0x0030d5_0030a1_0030e9_0030c3_0030c8_003099_003332, 0x0030d5_0030a3_0030fc_0030c8_003333,
    0x0030d5_003099_0030c3_0030b7_0030a7_0030eb_003334, 0x0030d5_0030e9_0030f3_003335,
    0x0030d8_0030af_0030bf_0030fc_0030eb_003336, 0x0030d8_00309a_0030bd_003337,
    0x0030d8_00309a_0030cb_0030d2_003338, 0x0030d8_0030eb_0030c4_003339, 0x0030d8_00309a_0030f3_0030b9_00333a,
    0x0030d8_00309a_0030fc_0030b7_003099_00333b, 0x0030d8_003099_0030fc_0030bf_00333c,
    0x0030db_00309a_0030a4_0030f3_0030c8_00333d, 0x0030db_003099_0030eb_0030c8_00333e, 0x0030db_0030f3_00333f,
    0x0030db_00309a_0030f3_0030c8_003099_003340, 0x0030db_0030fc_0030eb_003341, 0x0030db_0030fc_0030f3_003342,
    0x0030de_0030a4_0030af_0030ed_003343, 0x0030de_0030a4_0030eb_003344, 0x0030de_0030c3_0030cf_003345,
    0x0030de_0030eb_0030af_003346, 0x0030de_0030f3_0030b7_0030e7_0030f3_003347,
    0x0030df_0030af_0030ed_0030f3_003348, 0x0030df_0030ea_003349,
    0x0030df_0030ea_0030cf_003099_0030fc_0030eb_00334a, 0x0030e1_0030ab_003099_00334b,
    0x0030e1_0030ab_003099_0030c8_0030f3_00334c, 0x0030e1_0030fc_0030c8_0030eb_00334d,
    0x0030e4_0030fc_0030c8_003099_00334e, 0x0030e4_0030fc_0030eb_00334f, 0x0030e6_0030a2_0030f3_003350,
    0x0030ea_0030c3_0030c8_0030eb_003351, 0x0030ea_0030e9_003352, 0x0030eb_0030d2_00309a_0030fc_003353,
    0x0030eb_0030fc_0030d5_003099_0030eb_003354, 0x0030ec_0030e0_003355,
    0x0030ec_0030f3_0030c8_0030b1_003099_0030f3_003356, 0x0030ef_0030c3_0030c8_003357, 0x000030_0070b9_003358,
    0x000031_0070b9_003359, 0x000032_0070b9_00335a, 0x000033_0070b9_00335b, 0x000034_0070b9_00335c,
    0x000035_0070b9_00335d, 0x000036_0070b9_00335e, 0x000037_0070b9_00335f, 0x000038_0070b9_003360,
    0x000039_0070b9_003361, 0x000031_000030_0070b9_003362, 0x000031_000031_0070b9_003363,
    0x000031_000032_0070b9_003364, 0x000031_000033_0070b9_003365, 0x000031_000034_0070b9_003366,
    0x000031_000035_0070b9_003367, 0x000031_000036_0070b9_003368, 0x000031_000037_0070b9_003369,
    0x000031_000038_0070b9_00336a, 0x000031_000039_0070b9_00336b, 0x000032_000030_0070b9_00336c,
    0x000032_000031_0070b9_00336d, 0x000032_000032_0070b9_00336e, 0x000032_000033_0070b9_00336f,
    0x000032_000034_0070b9_003370, 0x000068_000050_000061_003371, 0x000064_000061_003372,
    0x000041_000055_003373, 0x000062_000061_000072_003374, 0x00006f_000056_003375, 0x000070_000063_003376,
    0x000064_00006d_003377, 0x000064_00006d_000032_003378, 0x000064_00006d_000033_003379,
    0x000049_000055_00337a, 0x005e73_006210_00337b, 0x00662d_00548c_00337c, 0x005927_006b63_00337d,
    0x00660e_006cbb_00337e, 0x00682a_005f0f_004f1a_00793e_00337f, 0x000070_000041_003380,
    0x00006e_000041_003381, 0x0003bc_000041_003382, 0x00006d_000041_003383, 0x00006b_000041_003384,
    0x00004b_000042_003385, 0x00004d_000042_003386, 0x000047_000042_003387, 0x000063_000061_00006c_003388,
    0x00006b_000063_000061_00006c_003389, 0x000070_000046_00338a, 0x00006e_000046_00338b,
    0x0003bc_000046_00338c, 0x0003bc_000067_00338d, 0x00006d_000067_00338e, 0x00006b_000067_00338f,
    0x000048_00007a_003390, 0x00006b_000048_00007a_003391, 0x00004d_000048_00007a_003392,
    0x000047_000048_00007a_003393, 0x000054_000048_00007a_003394, 0x0003bc_00006c_003395,
    0x00006d_00006c_003396, 0x000064_00006c_003397, 0x00006b_00006c_003398, 0x000066_00006d_003399,
    0x00006e_00006d_00339a, 0x0003bc_00006d_00339b, 0x00006d_00006d_00339c, 0x000063_00006d_00339d,
    0x00006b_00006d_00339e, 0x00006d_00006d_000032_00339f, 0x000063_00006d_000032_0033a0,
    0x00006d_000032_0033a1, 0x00006b_00006d_000032_0033a2, 0x00006d_00006d_000033_0033a3,
    0x000063_00006d_000033_0033a4, 0x00006d_000033_0033a5, 0x00006b_00006d_000033_0033a6,
    0x00006d_002215_000073_0033a7, 0x00006d_002215_000073_000032_0033a8, 0x000050_000061_0033a9,
    0x00006b_000050_000061_0033aa, 0x00004d_000050_000061_0033ab, 0x000047_000050_000061_0033ac,
    0x000072_000061_000064_0033ad, 0x000072_000061_000064_002215_000073_0033ae,
    0x000072_000061_000064_002215_000073_000032_0033af, 0x000070_000073_0033b0, 0x00006e_000073_0033b1,
    0x0003bc_000073_0033b2, 0x00006d_000073_0033b3, 0x000070_000056_0033b4, 0x00006e_000056_0033b5,
    0x0003bc_000056_0033b6, 0x00006d_000056_0033b7, 0x00006b_000056_0033b8, 0x00004d_000056_0033b9,
    0x000070_000057_0033ba, 0x00006e_000057_0033bb, 0x0003bc_000057_0033bc, 0x00006d_000057_0033bd,
    0x00006b_000057_0033be, 0x00004d_000057_0033bf, 0x00006b_0003a9_0033c0, 0x00004d_0003a9_0033c1,
    0x000061_00002e_00006d_00002e_0033c2, 0x000042_000071_0033c3, 0x000063_000063_0033c4,
    0x000063_000064_0033c5, 0x000043_002215_00006b_000067_0033c6, 0x000043_00006f_00002e_0033c7,
    0x000064_000042_0033c8, 0x000047_000079_0033c9, 0x000068_000061_0033ca, 0x000048_000050_0033cb,
    0x000069_00006e_0033cc, 0x00004b_00004b_0033cd, 0x00004b_00004d_0033ce, 0x00006b_000074_0033cf,
    0x00006c_00006d_0033d0, 0x00006c_00006e_0033d1, 0x00006c_00006f_000067_0033d2, 0x00006c_000078_0033d3,
    0x00006d_000062_0033d4, 0x00006d_000069_00006c_0033d5, 0x00006d_00006f_00006c_0033d6,
    0x000050_000048_0033d7, 0x000070_00002e_00006d_00002e_0033d8, 0x000050_000050_00004d_0033d9,
    0x000050_000052_0033da, 0x000073_000072_0033db, 0x000053_000076_0033dc, 0x000057_000062_0033dd,
    0x000056_002215_00006d_0033de, 0x000041_002215_00006d_0033df, 0x000031_0065e5_0033e0,
    0x000032_0065e5_0033e1, 0x000033_0065e5_0033e2, 0x000034_0065e5_0033e3, 0x000035_0065e5_0033e4,
    0x000036_0065e5_0033e5, 0x000037_0065e5_0033e6, 0x000038_0065e5_0033e7, 0x000039_0065e5_0033e8,
    0x000031_000030_0065e5_0033e9, 0x000031_000031_0065e5_0033ea, 0x000031_000032_0065e5_0033eb,
    0x000031_000033_0065e5_0033ec, 0x000031_000034_0065e5_0033ed, 0x000031_000035_0065e5_0033ee,
    0x000031_000036_0065e5_0033ef, 0x000031_000037_0065e5_0033f0, 0x000031_000038_0065e5_0033f1,
    0x000031_000039_0065e5_0033f2, 0x000032_000030_0065e5_0033f3, 0x000032_000031_0065e5_0033f4,
    0x000032_000032_0065e5_0033f5, 0x000032_000033_0065e5_0033f6, 0x000032_000034_0065e5_0033f7,
    0x000032_000035_0065e5_0033f8, 0x000032_000036_0065e5_0033f9, 0x000032_000037_0065e5_0033fa,
    0x000032_000038_0065e5_0033fb, 0x000032_000039_0065e5_0033fc, 0x000033_000030_0065e5_0033fd,
    0x000033_000031_0065e5_0033fe, 0x000067_000061_00006c_0033ff]

/-- The decompositions of U+F900 to U+F9FF. -/
def pageF9 : List Nat :=
  [
    0x008c48_00f900, 0x0066f4_00f901, 0x008eca_00f902, 0x008cc8_00f903, 0x006ed1_00f904, 0x004e32_00f905,
    0x0053e5_00f906, 0x009f9c_00f907, 0x009f9c_00f908, 0x005951_00f909, 0x0091d1_00f90a, 0x005587_00f90b,
    0x005948_00f90c, 0x0061f6_00f90d, 0x007669_00f90e, 0x007f85_00f90f, 0x00863f_00f910, 0x0087ba_00f911,
    0x0088f8_00f912, 0x00908f_00f913, 0x006a02_00f914, 0x006d1b_00f915, 0x0070d9_00f916, 0x0073de_00f917,
    0x00843d_00f918, 0x00916a_00f919, 0x0099f1_00f91a, 0x004e82_00f91b, 0x005375_00f91c, 0x006b04_00f91d,
    0x00721b_00f91e, 0x00862d_00f91f, 0x009e1e_00f920, 0x005d50_00f921, 0x006feb_00f922, 0x0085cd_00f923,
    0x008964_00f924, 0x0062c9_00f925, 0x0081d8_00f926, 0x00881f_00f927, 0x005eca_00f928, 0x006717_00f929,
    0x006d6a_00f92a, 0x0072fc_00f92b, 0x0090ce_00f92c, 0x004f86_00f92d, 0x0051b7_00f92e, 0x0052de_00f92f,
    0x0064c4_00f930, 0x006ad3_00f931, 0x007210_00f932, 0x0076e7_00f933, 0x008001_00f934, 0x008606_00f935,
    0x00865c_00f936, 0x008def_00f937, 0x009732_00f938, 0x009b6f_00f939, 0x009dfa_00f93a, 0x00788c_00f93b,
    0x00797f_00f93c, 0x007da0_00f93d, 0x0083c9_00f93e, 0x009304_00f93f, 0x009e7f_00f940, 0x008ad6_00f941,
    0x0058df_00f942, 0x005f04_00f943, 0x007c60_00f944, 0x00807e_00f945, 0x007262_00f946, 0x0078ca_00f947,
    0x008cc2_00f948, 0x0096f7_00f949, 0x0058d8_00f94a, 0x005c62_00f94b, 0x006a13_00f94c, 0x006dda_00f94d,
    0x006f0f_00f94e, 0x007d2f_00f94f, 0x007e37_00f950, 0x00964b_00f951, 0x0052d2_00f952, 0x00808b_00f953,
    0x0051dc_00f954, 0x0051cc_00f955, 0x007a1c_00f956, 0x007dbe_00f957, 0x0083f1_00f958, 0x009675_00f959,
    0x008b80_00f95a, 0x0062cf_00f95b, 0x006a02_00f95c, 0x008afe_00f95d, 0x004e39_00f95e, 0x005be7_00f95f,
    0x006012_00f960, 0x007387_00f961, 0x007570_00f962, 0x005317_00f963, 0x0078fb_00f964, 0x004fbf_00f965,
    0x005fa9_00f966, 0x004e0d_00f967, 0x006ccc_00f968, 0x006578_00f969, 0x007d22_00f96a, 0x0053c3_00f96b,
    0x00585e_00f96c, 0x007701_00f96d, 0x008449_00f96e, 0x008aaa_00f96f, 0x006bba_00f970, 0x008fb0_00f971,
    0x006c88_00f972, 0x0062fe_00f973, 0x0082e5_00f974, 0x0063a0_00f975, 0x007565_00f976, 0x004eae_00f977,
    0x005169_00f978, 0x0051c9_00f979, 0x006881_00f97a, 0x007ce7_00f97b, 0x00826f_00f97c, 0x008ad2_00f97d,
    0x0091cf_00f97e, 0x0052f5_00f97f, 0x005442_00f980, 0x005973_00f981, 0x005eec_00f982, 0x0065c5_00f983,
    0x006ffe_00f984, 0x00792a_00f985, 0x0095ad_00f986, 0x009a6a_00f987, 0x009e97_00f988, 0x009ece_00f989,
    0x00529b_00f98a, 0x0066c6_00f98b, 0x006b77_00f98c, 0x008f62_00f98d, 0x005e74_00f98e, 0x006190_00f98f,
    0x006200_00f990, 0x00649a_00f991, 0x006f23_00f992, 0x007149_00f993, 0x007489_00f994, 0x0079ca_00f995,
    0x007df4_00f996, 0x00806f_00f997, 0x008f26_00f998, 0x0084ee_00f999, 0x009023_00f99a, 0x00934a_00f99b,
    0x005217_00f99c, 0x0052a3_00f99d, 0x0054bd_00f99e, 0x0070c8_00f99f, 0x0088c2_00f9a0, 0x008aaa_00f9a1,
    0x005ec9_00f9a2, 0x005ff5_00f9a3, 0x00637b_00f9a4, 0x006bae_00f9a5, 0x007c3e_00f9a6, 0x007375_00f9a7,
    0x004ee4_00f9a8, 0x0056f9_00f9a9, 0x005be7_00f9aa, 0x005dba_00f9ab, 0x00601c_00f9ac, 0x0073b2_00f9ad,
    0x007469_00f9ae, 0x007f9a_00f9af, 0x008046_00f9b0, 0x009234_00f9b1, 0x0096f6_00f9b2, 0x009748_00f9b3,
    0x009818_00f9b4, 0x004f8b_00f9b5, 0x0079ae_00f9b6, 0x0091b4_00f9b7, 0x0096b8_00f9b8, 0x0060e1_00f9b9,
    0x004e86_00f9ba, 0x0050da_00f9bb, 0x005bee_00f9bc, 0x005c3f_00f9bd, 0x006599_00f9be, 0x006a02_00f9bf,
    0x0071ce_00f9c0, 0x007642_00f9c1, 0x0084fc_00f9c2, 0x00907c_00f9c3, 0x009f8d_00f9c4, 0x006688_00f9c5,
    0x00962e_00f9c6, 0x005289_00f9c7, 0x00677b_00f9c8, 0x0067f3_00f9c9, 0x006d41_00f9ca, 0x006e9c_00f9cb,
    0x007409_00f9cc, 0x007559_00f9cd, 0x00786b_00f9ce, 0x007d10_00f9cf, 0x00985e_00f9d0, 0x00516d_00f9d1,
    0x00622e_00f9d2, 0x009678_00f9d3, 0x00502b_00f9d4, 0x005d19_00f9d5, 0x006dea_00f9d6, 0x008f2a_00f9d7,
    0x005f8b_00f9d8, 0x006144_00f9d9, 0x006817_00f9da, 0x007387_00f9db, 0x009686_00f9dc, 0x005229_00f9dd,
    0x00540f_00f9de, 0x005c65_00f9df, 0x006613_00f9e0, 0x00674e_00f9e1, 0x0068a8_00f9e2, 0x006ce5_00f9e3,
    0x007406_00f9e4, 0x0075e2_00f9e5, 0x007f79_00f9e6, 0x0088cf_00f9e7, 0x0088e1_00f9e8, 0x0091cc_00f9e9,
    0x0096e2_00f9ea, 0x00533f_00f9eb, 0x006eba_00f9ec, 0x00541d_00f9ed, 0x0071d0_00f9ee, 0x007498_00f9ef,
    0x0085fa_00f9f0, 0x0096a3_00f9f1, 0x009c57_00f9f2, 0x009e9f_00f9f3, 0x006797_00f9f4, 0x006dcb_00f9f5,
    0x0081e8_00f9f6, 0x007acb_00f9f7, 0x007b20_00f9f8, 0x007c92_00f9f9, 0x0072c0_00f9fa, 0x007099_00f9fb,
    0x008b58_00f9fc, 0x004ec0_00f9fd, 0x008336_00f9fe, 0x00523a_00f9ff]

/-- The decompositions of U+FA00 to U+FAFF. -/
def pageFA : List Nat :=
  [
    0x005207_00fa00, 0x005ea6_00fa01, 0x0062d3_00fa02, 0x007cd6_00fa03, 0x005b85_00fa04, 0x006d1e_00fa05,
    0x0066b4_00fa06, 0x008f3b_00fa07, 0x00884c_00fa08, 0x00964d_00fa09, 0x00898b_00fa0a, 0x005ed3_00fa0b,
    0x005140_00fa0c, 0x0055c0_00fa0d, 0x00585a_00fa10, 0x006674_00fa12, 0x0051de_00fa15, 0x00732a_00fa16,
    0x0076ca_00fa17, 0x00793c_00fa18, 0x00795e_00fa19, 0x007965_00fa1a, 0x00798f_00fa1b, 0x009756_00fa1c,
    0x007cbe_00fa1d, 0x007fbd_00fa1e, 0x008612_00fa20, 0x008af8_00fa22, 0x009038_00fa25, 0x0090fd_00fa26,
    0x0098ef_00fa2a, 0x0098fc_00fa2b, 0x009928_00fa2c, 0x009db4_00fa2d, 0x0090de_00fa2e, 0x0096b7_00fa2f,
    0x004fae_00fa30, 0x0050e7_00fa31, 0x00514d_00fa32, 0x0052c9_00fa33, 0x0052e4_00fa34, 0x005351_00fa35,
    0x00559d_00fa36, 0x005606_00fa37, 0x005668_00fa38, 0x005840_00fa39, 0x0058a8_00fa3a, 0x005c64_00fa3b,
    0x005c6e_00fa3c, 0x006094_00fa3d, 0x006168_00fa3e, 0x00618e_00fa3f, 0x0061f2_00fa40, 0x00654f_00fa41,
    0x0065e2_00fa42, 0x006691_00fa43, 0x006885_00fa44, 0x006d77_00fa45, 0x006e1a_00fa46, 0x006f22_00fa47,
    0x00716e_00fa48, 0x00722b_00fa49, 0x007422_00fa4a, 0x007891_00fa4b, 0x00793e_00fa4c, 0x007949_00fa4d,
    0x007948_00fa4e, 0x007950_00fa4f, 0x007956_00fa50, 0x00795d_00fa51, 0x00798d_00fa52, 0x00798e_00fa53,
    0x007a40_00fa54, 0x007a81_00fa55, 0x007bc0_00fa56, 0x007df4_00fa57, 0x007e09_00fa58, 0x007e41_00fa59,
    0x007f72_00fa5a, 0x008005_00fa5b, 0x0081ed_00fa5c, 0x008279_00fa5d, 0x008279_00fa5e, 0x008457_00fa5f,
    0x008910_00fa60, 0x008996_00fa61, 0x008b01_00fa62, 0x008b39_00fa63, 0x008cd3_00fa64, 0x008d08_00fa65,
    0x008fb6_00fa66, 0x009038_00fa67, 0x0096e3_00fa68, 0x0097ff_00fa69, 0x00983b_00fa6a, 0x006075_00fa6b,
    0x0242ee_00fa6c, 0x008218_00fa6d, 0x004e26_00fa70, 0x0051b5_00fa71, 0x005168_00fa72, 0x004f80_00fa73,
    0x005145_00fa74, 0x005180_00fa75, 0x0052c7_00fa76, 0x0052fa_00fa77, 0x00559d_00fa78, 0x005555_00fa79,
    0x005599_00fa7a, 0x0055e2_00fa7b, 0x00585a_00fa7c, 0x0058b3_00fa7d, 0x005944_00fa7e, 0x005954_00fa7f,
    0x005a62_00fa80, 0x005b28_00fa81, 0x005ed2_00fa82, 0x005ed9_00fa83, 0x005f69_00fa84, 0x005fad_00fa85,
    0x0060d8_00fa86, 0x00614e_00fa87, 0x006108_00fa88, 0x00618e_00fa89, 0x006160_00fa8a, 0x0061f2_00fa8b,
    0x006234_00fa8c, 0x0063c4_00fa8d, 0x00641c_00fa8e, 0x006452_00fa8f, 0x006556_00fa90, 0x006674_00fa91,
    0x006717_00fa92, 0x00671b_00fa93, 0x006756_00fa94, 0x006b79_00fa95, 0x006bba_00fa96, 0x006d41_00fa97,
    0x006edb_00fa98, 0x006ecb_00fa99, 0x006f22_00fa9a, 0x00701e_00fa9b, 0x00716e_00fa9c, 0x0077a7_00fa9d,
    0x007235_00fa9e, 0x0072af_00fa9f, 0x00732a_00faa0, 0x007471_00faa1, 0x007506_00faa2, 0x00753b_00faa3,
    0x00761d_00faa4, 0x00761f_00faa5, 0x0076ca_00faa6, 0x0076db_00faa7, 0x0076f4_00faa8, 0x00774a_00faa9,
    0x007740_00faaa, 0x0078cc_00faab, 0x007ab1_00faac, 0x007bc0_00faad, 0x007c7b_00faae, 0x007d5b_00faaf,
    0x007df4_00fab0, 0x007f3e_00fab1, 0x008005_00fab2, 0x008352_00fab3, 0x0083ef_00fab4, 0x008779_00fab5,
    0x008941_00fab6, 0x008986_00fab7, 0x008996_00fab8, 0x008abf_00fab9, 0x008af8_00faba, 0x008acb_00fabb,
    0x008b01_00fabc, 0x008afe_00fabd, 0x008aed_00fabe, 0x008b39_00fabf, 0x008b8a_00fac0, 0x008d08_00fac1,
    0x008f38_00fac2, 0x009072_00fac3, 0x009199_00fac4, 0x009276_00fac5, 0x00967c_00fac6, 0x0096e3_00fac7,
    0x009756_00fac8, 0x0097db_00fac9, 0x0097ff_00faca, 0x00980b_00facb, 0x00983b_00facc, 0x009b12_00facd,
    0x009f9c_00face, 0x02284a_00facf, 0x022844_00fad0, 0x0233d5_00fad1, 0x003b9d_00fad2, 0x004018_00fad3,
    0x004039_00fad4, 0x025249_00fad5, 0x025cd0_00fad6, 0x027ed3_00fad7, 0x009f43_00fad8, 0x009f8e_00fad9]

/-- The decompositions of U+2F800 to U+2F8FF. -/
def page2F8 : List Nat :=
  [
    0x004e3d_02f800, 0x004e38_02f801, 0x004e41_02f802, 0x020122_02f803, 0x004f60_02f804, 0x004fae_02f805,
    0x004fbb_02f806, 0x005002_02f807, 0x00507a_02f808, 0x005099_02f809, 0x0050e7_02f80a, 0x0050cf_02f80b,
    0x00349e_02f80c, 0x02063a_02f80d, 0x00514d_02f80e, 0x005154_02f80f, 0x005164_02f810, 0x005177_02f811,
    0x02051c_02f812, 0x0034b9_02f813, 0x005167_02f814, 0x00518d_02f815, 0x02054b_02f816, 0x005197_02f817,
    0x0051a4_02f818, 0x004ecc_02f819, 0x0051ac_02f81a, 0x0051b5_02f81b, 0x0291df_02f81c, 0x0051f5_02f81d,
    0x005203_02f81e, 0x0034df_02f81f, 0x00523b_02f820, 0x005246_02f821, 0x005272_02f822, 0x005277_02f823,
    0x003515_02f824, 0x0052c7_02f825, 0x0052c9_02f826, 0x0052e4_02f827, 0x0052fa_02f828, 0x005305_02f829,
    0x005306_02f82a, 0x005317_02f82b, 0x005349_02f82c, 0x005351_02f82d, 0x00535a_02f82e, 0x005373_02f82f,
    0x00537d_02f830, 0x00537f_02f831, 0x00537f_02f832, 0x00537f_02f833, 0x020a2c_02f834, 0x007070_02f835,
    0x0053ca_02f836, 0x0053df_02f837, 0x020b63_02f838, 0x0053eb_02f839, 0x0053f1_02f83a, 0x005406_02f83b,
    0x00549e_02f83c, 0x005438_02f83d, 0x005448_02f83e, 0x005468_02f83f, 0x0054a2_02f840, 0x0054f6_02f841,
    0x005510_02f842, 0x005553_02f843, 0x005563_02f844, 0x005584_02f845, 0x005584_02f846, 0x005599_02f847,
    0x0055ab_02f848, 0x0055b3_02f849, 0x0055c2_02f84a, 0x005716_02f84b, 0x005606_02f84c, 0x005717_02f84d,
    0x005651_02f84e, 0x005674_02f84f, 0x005207_02f850, 0x0058ee_02f851, 0x0057ce_02f852, 0x0057f4_02f853,
    0x00580d_02f854, 0x00578b_02f855, 0x005832_02f856, 0x005831_02f857, 0x0058ac_02f858, 0x0214e4_02f859,
    0x0058f2_02f85a, 0x0058f7_02f85b, 0x005906_02f85c, 0x00591a_02f85d, 0x005922_02f85e, 0x005962_02f85f,
    0x0216a8_02f860, 0x0216ea_02f861, 0x0059ec_02f862, 0x005a1b_02f863, 0x005a27_02f864, 0x0059d8_02f865,
    0x005a66_02f866, 0x0036ee_02f867, 0x0036fc_02f868, 0x005b08_02f869, 0x005b3e_02f86a, 0x005b3e_02f86b,
    0x0219c8_02f86c, 0x005bc3_02f86d, 0x005bd8_02f86e, 0x005be7_02f86f, 0x005bf3_02f870, 0x021b18_02f871,
    0x005bff_02f872, 0x005c06_02f873, 0x005f53_02f874, 0x005c22_02f875, 0x003781_02f876, 0x005c60_02f877,
    0x005c6e_02f878, 0x005cc0_02f879, 0x005c8d_02f87a, 0x021de4_02f87b, 0x005d43_02f87c, 0x021de6_02f87d,
    0x005d6e_02f87e, 0x005d6b_02f87f, 0x005d7c_02f880, 0x005de1_02f881, 0x005de2_02f882, 0x00382f_02f883,
    0x005dfd_02f884, 0x005e28_02f885, 0x005e3d_02f886, 0x005e69_02f887, 0x003862_02f888, 0x022183_02f889,
    0x00387c_02f88a, 0x005eb0_02f88b, 0x005eb3_02f88c, 0x005eb6_02f88d, 0x005eca_02f88e, 0x02a392_02f88f,
    0x005efe_02f890, 0x022331_02f891, 0x022331_02f892, 0x008201_02f893, 0x005f22_02f894, 0x005f22_02f895,
    0x0038c7_02f896, 0x0232b8_02f897, 0x0261da_02f898, 0x005f62_02f899, 0x005f6b_02f89a, 0x0038e3_02f89b,
    0x005f9a_02f89c, 0x005fcd_02f89d, 0x005fd7_02f89e, 0x005ff9_02f89f, 0x006081_02f8a0, 0x00393a_02f8a1,
    0x00391c_02f8a2, 0x006094_02f8a3, 0x0226d4_02f8a4, 0x0060c7_02f8a5, 0x006148_02f8a6, 0x00614c_02f8a7,
    0x00614e_02f8a8, 0x00614c_02f8a9, 0x00617a_02f8aa, 0x00618e_02f8ab, 0x0061b2_02f8ac, 0x0061a4_02f8ad,
    0x0061af_02f8ae, 0x0061de_02f8af, 0x0061f2_02f8b0, 0x0061f6_02f8b1, 0x006210_02f8b2, 0x00621b_02f8b3,
    0x00625d_02f8b4, 0x0062b1_02f8b5, 0x0062d4_02f8b6, 0x006350_02f8b7, 0x022b0c_02f8b8, 0x00633d_02f8b9,
    0x0062fc_02f8ba, 0x006368_02f8bb, 0x006383_02f8bc, 0x0063e4_02f8bd, 0x022bf1_02f8be, 0x006422_02f8bf,
    0x0063c5_02f8c0, 0x0063a9_02f8c1, 0x003a2e_02f8c2, 0x006469_02f8c3, 0x00647e_02f8c4, 0x00649d_02f8c5,
    0x006477_02f8c6, 0x003a6c_02f8c7, 0x00654f_02f8c8, 0x00656c_02f8c9, 0x02300a_02f8ca, 0x0065e3_02f8cb,
    0x0066f8_02f8cc, 0x006649_02f8cd, 0x003b19_02f8ce, 0x006691_02f8cf, 0x003b08_02f8d0, 0x003ae4_02f8d1,
    0x005192_02f8d2, 0x005195_02f8d3, 0x006700_02f8d4, 0x00669c_02f8d5, 0x0080ad_02f8d6, 0x0043d9_02f8d7,
    0x006717_02f8d8, 0x00671b_02f8d9, 0x006721_02f8da, 0x00675e_02f8db, 0x006753_02f8dc, 0x0233c3_02f8dd,
    0x003b49_02f8de, 0x0067fa_02f8df, 0x006785_02f8e0, 0x006852_02f8e1, 0x006885_02f8e2, 0x02346d_02f8e3,
    0x00688e_02f8e4, 0x00681f_02f8e5, 0x006914_02f8e6, 0x003b9d_02f8e7, 0x006942_02f8e8, 0x0069a3_02f8e9,
    0x0069ea_02f8ea, 0x006aa8_02f8eb, 0x0236a3_02f8ec, 0x006adb_02f8ed, 0x003c18_02f8ee, 0x006b21_02f8ef,
    0x0238a7_02f8f0, 0x006b54_02f8f1, 0x003c4e_02f8f2, 0x006b72_02f8f3, 0x006b9f_02f8f4, 0x006bba_02f8f5,
    0x006bbb_02f8f6, 0x023a8d_02f8f7, 0x021d0b_02f8f8, 0x023afa_02f8f9, 0x006c4e_02f8fa, 0x023cbc_02f8fb,
    0x006cbf_02f8fc, 0x006ccd_02f8fd, 0x006c67_02f8fe, 0x006d16_02f8ff]

/-- The decompositions of U+2F900 to U+2F9FF. -/
def page2F9 : List Nat :=
  [
    0x006d3e_02f900, 0x006d77_02f901, 0x006d41_02f902, 0x006d69_02f903, 0x006d78_02f904, 0x006d85_02f905,
    0x023d1e_02f906, 0x006d34_02f907, 0x006e2f_02f908, 0x006e6e_02f909, 0x003d33_02f90a, 0x006ecb_02f90b,
    0x006ec7_02f90c, 0x023ed1_02f90d, 0x006df9_02f90e, 0x006f6e_02f90f, 0x023f5e_02f910, 0x023f8e_02f911,
    0x006fc6_02f912, 0x007039_02f913, 0x00701e_02f914, 0x00701b_02f915, 0x003d96_02f916, 0x00704a_02f917,
    0x00707d_02f918, 0x007077_02f919, 0x0070ad_02f91a, 0x020525_02f91b, 0x007145_02f91c, 0x024263_02f91d,
    0x00719c_02f91e, 0x0243ab_02f91f, 0x007228_02f920, 0x007235_02f921, 0x007250_02f922, 0x024608_02f923,
    0x007280_02f924, 0x007295_02f925, 0x024735_02f926, 0x024814_02f927, 0x00737a_02f928, 0x00738b_02f929,
    0x003eac_02f92a, 0x0073a5_02f92b, 0x003eb8_02f92c, 0x003eb8_02f92d, 0x007447_02f92e, 0x00745c_02f92f,
    0x007471_02f930, 0x007485_02f931, 0x0074ca_02f932, 0x003f1b_02f933, 0x007524_02f934, 0x024c36_02f935,
    0x00753e_02f936, 0x024c92_02f937, 0x007570_02f938, 0x02219f_02f939, 0x007610_02f93a, 0x024fa1_02f93b,
    0x024fb8_02f93c, 0x025044_02f93d, 0x003ffc_02f93e, 0x004008_02f93f, 0x0076f4_02f940, 0x0250f3_02f941,
    0x0250f2_02f942, 0x025119_02f943, 0x025133_02f944, 0x00771e_02f945, 0x00771f_02f946, 0x00771f_02f947,
    0x00774a_02f948, 0x004039_02f949, 0x00778b_02f94a, 0x004046_02f94b, 0x004096_02f94c, 0x02541d_02f94d,
    0x00784e_02f94e, 0x00788c_02f94f, 0x0078cc_02f950, 0x0040e3_02f951, 0x025626_02f952, 0x007956_02f953,
    0x02569a_02f954, 0x0256c5_02f955, 0x00798f_02f956, 0x0079eb_02f957, 0x00412f_02f958, 0x007a40_02f959,
    0x007a4a_02f95a, 0x007a4f_02f95b, 0x02597c_02f95c, 0x025aa7_02f95d, 0x025aa7_02f95e, 0x007aee_02f95f,
    0x004202_02f960, 0x025bab_02f961, 0x007bc6_02f962, 0x007bc9_02f963, 0x004227_02f964, 0x025c80_02f965,
    0x007cd2_02f966, 0x0042a0_02f967, 0x007ce8_02f968, 0x007ce3_02f969, 0x007d00_02f96a, 0x025f86_02f96b,
    0x007d63_02f96c, 0x004301_02f96d, 0x007dc7_02f96e, 0x007e02_02f96f, 0x007e45_02f970, 0x004334_02f971,
    0x026228_02f972, 0x026247_02f973, 0x004359_02f974, 0x0262d9_02f975, 0x007f7a_02f976, 0x02633e_02f977,
    0x007f95_02f978, 0x007ffa_02f979, 0x008005_02f97a, 0x0264da_02f97b, 0x026523_02f97c, 0x008060_02f97d,
    0x0265a8_02f97e, 0x008070_02f97f, 0x02335f_02f980, 0x0043d5_02f981, 0x0080b2_02f982, 0x008103_02f983,
    0x00440b_02f984, 0x00813e_02f985, 0x005ab5_02f986, 0x0267a7_02f987, 0x0267b5_02f988, 0x023393_02f989,
    0x02339c_02f98a, 0x008201_02f98b, 0x008204_02f98c, 0x008f9e_02f98d, 0x00446b_02f98e, 0x008291_02f98f,
    0x00828b_02f990, 0x00829d_02f991, 0x0052b3_02f992, 0x0082b1_02f993, 0x0082b3_02f994, 0x0082bd_02f995,
    0x0082e6_02f996, 0x026b3c_02f997, 0x0082e5_02f998, 0x00831d_02f999, 0x008363_02f99a, 0x0083ad_02f99b,
    0x008323_02f99c, 0x0083bd_02f99d, 0x0083e7_02f99e, 0x008457_02f99f, 0x008353_02f9a0, 0x0083ca_02f9a1,
    0x0083cc_02f9a2, 0x0083dc_02f9a3, 0x026c36_02f9a4, 0x026d6b_02f9a5, 0x026cd5_02f9a6, 0x00452b_02f9a7,
    0x0084f1_02f9a8, 0x0084f3_02f9a9, 0x008516_02f9aa, 0x0273ca_02f9ab, 0x008564_02f9ac, 0x026f2c_02f9ad,
    0x00455d_02f9ae, 0x004561_02f9af, 0x026fb1_02f9b0, 0x0270d2_02f9b1, 0x00456b_02f9b2, 0x008650_02f9b3,
    0x00865c_02f9b4, 0x008667_02f9b5, 0x008669_02f9b6, 0x0086a9_02f9b7, 0x008688_02f9b8, 0x00870e_02f9b9,
    0x0086e2_02f9ba, 0x008779_02f9bb, 0x008728_02f9bc, 0x00876b_02f9bd, 0x008786_02f9be, 0x0045d7_02f9bf,
    0x0087e1_02f9c0, 0x008801_02f9c1, 0x0045f9_02f9c2, 0x008860_02f9c3, 0x008863_02f9c4, 0x027667_02f9c5,
    0x0088d7_02f9c6, 0x0088de_02f9c7, 0x004635_02f9c8, 0x0088fa_02f9c9, 0x0034bb_02f9ca, 0x0278ae_02f9cb,
    0x027966_02f9cc, 0x0046be_02f9cd, 0x0046c7_02f9ce, 0x008aa0_02f9cf, 0x008aed_02f9d0, 0x008b8a_02f9d1,
    0x008c55_02f9d2, 0x027ca8_02f9d3, 0x008cab_02f9d4, 0x008cc1_02f9d5, 0x008d1b_02f9d6, 0x008d77_02f9d7,
    0x027f2f_02f9d8, 0x020804_02f9d9, 0x008dcb_02f9da, 0x008dbc_02f9db, 0x008df0_02f9dc, 0x0208de_02f9dd,
    0x008ed4_02f9de, 0x008f38_02f9df, 0x0285d2_02f9e0, 0x0285ed_02f9e1, 0x009094_02f9e2, 0x0090f1_02f9e3,
    0x009111_02f9e4, 0x02872e_02f9e5, 0x00911b_02f9e6, 0x009238_02f9e7, 0x0092d7_02f9e8, 0x0092d8_02f9e9,
    0x00927c_02f9ea, 0x0093f9_02f9eb, 0x009415_02f9ec, 0x028bfa_02f9ed, 0x00958b_02f9ee, 0x004995_02f9ef,
    0x0095b7_02f9f0, 0x028d77_02f9f1, 0x0049e6_02f9f2, 0x0096c3_02f9f3, 0x005db2_02f9f4, 0x009723_02f9f5,
    0x029145_02f9f6, 0x02921a_02f9f7, 0x004a6e_02f9f8, 0x004a76_02f9f9, 0x0097e0_02f9fa, 0x02940a_02f9fb,
    0x004ab2_02f9fc, 0x029496_02f9fd, 0x00980b_02f9fe, 0x00980b_02f9ff]

/-- The decompositions of U+2FA00 to U+2FAFF. -/
def page2FA : List Nat :=
  [
    0x009829_02fa00, 0x0295b6_02fa01, 0x0098e2_02fa02, 0x004b33_02fa03, 0x009929_02fa04, 0x0099a7_02fa05,
    0x0099c2_02fa06, 0x0099fe_02fa07, 0x004bce_02fa08, 0x029b30_02fa09, 0x009b12_02fa0a, 0x009c40_02fa0b,
    0x009cfd_02fa0c, 0x004cce_02fa0d, 0x004ced_02fa0e, 0x009d67_02fa0f, 0x02a0ce_02fa10, 0x004cf8_02fa11,
    0x02a105_02fa12, 0x02a20e_02fa13, 0x02a291_02fa14, 0x009ebb_02fa15, 0x004d56_02fa16, 0x009ef9_02fa17,
    0x009efe_02fa18, 0x009f05_02fa19, 0x009f0f_02fa1a, 0x009f16_02fa1b, 0x009f3b_02fa1c, 0x02a600_02fa1d]

/-- The pages of this part. -/
def ideographsPages : List (Nat × List Nat) :=
  [
    (0x30, page30), (0x31, page31), (0x32, page32), (0x33, page33), (0xf9, pageF9), (0xfa, pageFA),
    (0x2f8, page2F8), (0x2f9, page2F9), (0x2fa, page2FA)]

end QueryGate.Text.Decomposition
