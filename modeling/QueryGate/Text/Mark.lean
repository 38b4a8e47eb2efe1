import QueryGate.Text.Range
/-!
Combining marks (Unicode, version 17): those that take no room of their own, the general categories Mn and Me, and
those that do, the category Mc.
-/
set_option autoImplicit false

namespace QueryGate.Text

/-- Ranges of marks that take no room, packed. -/
def nonspacingRanges : List Nat := [
  0x000300_00036f, 0x000483_000489, 0x000591_0005bd, 0x0005bf_0005bf, 0x0005c1_0005c2, 0x0005c4_0005c5,
  0x0005c7_0005c7, 0x000610_00061a, 0x00064b_00065f, 0x000670_000670, 0x0006d6_0006dc, 0x0006df_0006e4,
  0x0006e7_0006e8, 0x0006ea_0006ed, 0x000711_000711, 0x000730_00074a, 0x0007a6_0007b0, 0x0007eb_0007f3,
  0x0007fd_0007fd, 0x000816_000819, 0x00081b_000823, 0x000825_000827, 0x000829_00082d, 0x000859_00085b,
  0x000897_00089f, 0x0008ca_0008e1, 0x0008e3_000902, 0x00093a_00093a, 0x00093c_00093c, 0x000941_000948,
  0x00094d_00094d, 0x000951_000957, 0x000962_000963, 0x000981_000981, 0x0009bc_0009bc, 0x0009c1_0009c4,
  0x0009cd_0009cd, 0x0009e2_0009e3, 0x0009fe_0009fe, 0x000a01_000a02, 0x000a3c_000a3c, 0x000a41_000a42,
  0x000a47_000a48, 0x000a4b_000a4d, 0x000a51_000a51, 0x000a70_000a71, 0x000a75_000a75, 0x000a81_000a82,
  0x000abc_000abc, 0x000ac1_000ac5, 0x000ac7_000ac8, 0x000acd_000acd, 0x000ae2_000ae3, 0x000afa_000aff,
  0x000b01_000b01, 0x000b3c_000b3c, 0x000b3f_000b3f, 0x000b41_000b44, 0x000b4d_000b4d, 0x000b55_000b56,
  0x000b62_000b63, 0x000b82_000b82, 0x000bc0_000bc0, 0x000bcd_000bcd, 0x000c00_000c00, 0x000c04_000c04,
  0x000c3c_000c3c, 0x000c3e_000c40, 0x000c46_000c48, 0x000c4a_000c4d, 0x000c55_000c56, 0x000c62_000c63,
  0x000c81_000c81, 0x000cbc_000cbc, 0x000cbf_000cbf, 0x000cc6_000cc6, 0x000ccc_000ccd, 0x000ce2_000ce3,
  0x000d00_000d01, 0x000d3b_000d3c, 0x000d41_000d44, 0x000d4d_000d4d, 0x000d62_000d63, 0x000d81_000d81,
  0x000dca_000dca, 0x000dd2_000dd4, 0x000dd6_000dd6, 0x000e31_000e31, 0x000e34_000e3a, 0x000e47_000e4e,
  0x000eb1_000eb1, 0x000eb4_000ebc, 0x000ec8_000ece, 0x000f18_000f19, 0x000f35_000f35, 0x000f37_000f37,
  0x000f39_000f39, 0x000f71_000f7e, 0x000f80_000f84, 0x000f86_000f87, 0x000f8d_000f97, 0x000f99_000fbc,
  0x000fc6_000fc6, 0x00102d_001030, 0x001032_001037, 0x001039_00103a, 0x00103d_00103e, 0x001058_001059,
  0x00105e_001060, 0x001071_001074, 0x001082_001082, 0x001085_001086, 0x00108d_00108d, 0x00109d_00109d,
  0x00135d_00135f, 0x001712_001714, 0x001732_001733, 0x001752_001753, 0x001772_001773, 0x0017b4_0017b5,
  0x0017b7_0017bd, 0x0017c6_0017c6, 0x0017c9_0017d3, 0x0017dd_0017dd, 0x00180b_00180d, 0x00180f_00180f,
  0x001885_001886, 0x0018a9_0018a9, 0x001920_001922, 0x001927_001928, 0x001932_001932, 0x001939_00193b,
  0x001a17_001a18, 0x001a1b_001a1b, 0x001a56_001a56, 0x001a58_001a5e, 0x001a60_001a60, 0x001a62_001a62,
  0x001a65_001a6c, 0x001a73_001a7c, 0x001a7f_001a7f, 0x001ab0_001add, 0x001ae0_001aeb, 0x001b00_001b03,
  0x001b34_001b34, 0x001b36_001b3a, 0x001b3c_001b3c, 0x001b42_001b42, 0x001b6b_001b73, 0x001b80_001b81,
  0x001ba2_001ba5, 0x001ba8_001ba9, 0x001bab_001bad, 0x001be6_001be6, 0x001be8_001be9, 0x001bed_001bed,
  0x001bef_001bf1, 0x001c2c_001c33, 0x001c36_001c37, 0x001cd0_001cd2, 0x001cd4_001ce0, 0x001ce2_001ce8,
  0x001ced_001ced, 0x001cf4_001cf4, 0x001cf8_001cf9, 0x001dc0_001dff, 0x0020d0_0020f0, 0x002cef_002cf1,
  0x002d7f_002d7f, 0x002de0_002dff, 0x00302a_00302d, 0x003099_00309a, 0x00a66f_00a672, 0x00a674_00a67d,
  0x00a69e_00a69f, 0x00a6f0_00a6f1, 0x00a802_00a802, 0x00a806_00a806, 0x00a80b_00a80b, 0x00a825_00a826,
  0x00a82c_00a82c, 0x00a8c4_00a8c5, 0x00a8e0_00a8f1, 0x00a8ff_00a8ff, 0x00a926_00a92d, 0x00a947_00a951,
  0x00a980_00a982, 0x00a9b3_00a9b3, 0x00a9b6_00a9b9, 0x00a9bc_00a9bd, 0x00a9e5_00a9e5, 0x00aa29_00aa2e,
  0x00aa31_00aa32, 0x00aa35_00aa36, 0x00aa43_00aa43, 0x00aa4c_00aa4c, 0x00aa7c_00aa7c, 0x00aab0_00aab0,
  0x00aab2_00aab4, 0x00aab7_00aab8, 0x00aabe_00aabf, 0x00aac1_00aac1, 0x00aaec_00aaed, 0x00aaf6_00aaf6,
  0x00abe5_00abe5, 0x00abe8_00abe8, 0x00abed_00abed, 0x00fb1e_00fb1e, 0x00fe00_00fe0f, 0x00fe20_00fe2f,
  0x0101fd_0101fd, 0x0102e0_0102e0, 0x010376_01037a, 0x010a01_010a03, 0x010a05_010a06, 0x010a0c_010a0f,
  0x010a38_010a3a, 0x010a3f_010a3f, 0x010ae5_010ae6, 0x010d24_010d27, 0x010d69_010d6d, 0x010eab_010eac,
  0x010efa_010eff, 0x010f46_010f50, 0x010f82_010f85, 0x011001_011001, 0x011038_011046, 0x011070_011070,
  0x011073_011074, 0x01107f_011081, 0x0110b3_0110b6, 0x0110b9_0110ba, 0x0110c2_0110c2, 0x011100_011102,
  0x011127_01112b, 0x01112d_011134, 0x011173_011173, 0x011180_011181, 0x0111b6_0111be, 0x0111c9_0111cc,
  0x0111cf_0111cf, 0x01122f_011231, 0x011234_011234, 0x011236_011237, 0x01123e_01123e, 0x011241_011241,
  0x0112df_0112df, 0x0112e3_0112ea, 0x011300_011301, 0x01133b_01133c, 0x011340_011340, 0x011366_01136c,
  0x011370_011374, 0x0113bb_0113c0, 0x0113ce_0113ce, 0x0113d0_0113d0, 0x0113d2_0113d2, 0x0113e1_0113e2,
  0x011438_01143f, 0x011442_011444, 0x011446_011446, 0x01145e_01145e, 0x0114b3_0114b8, 0x0114ba_0114ba,
  0x0114bf_0114c0, 0x0114c2_0114c3, 0x0115b2_0115b5, 0x0115bc_0115bd, 0x0115bf_0115c0, 0x0115dc_0115dd,
  0x011633_01163a, 0x01163d_01163d, 0x01163f_011640, 0x0116ab_0116ab, 0x0116ad_0116ad, 0x0116b0_0116b5,
  0x0116b7_0116b7, 0x01171d_01171d, 0x01171f_01171f, 0x011722_011725, 0x011727_01172b, 0x01182f_011837,
  0x011839_01183a, 0x01193b_01193c, 0x01193e_01193e, 0x011943_011943, 0x0119d4_0119d7, 0x0119da_0119db,
  0x0119e0_0119e0, 0x011a01_011a0a, 0x011a33_011a38, 0x011a3b_011a3e, 0x011a47_011a47, 0x011a51_011a56,
  0x011a59_011a5b, 0x011a8a_011a96, 0x011a98_011a99, 0x011b60_011b60, 0x011b62_011b64, 0x011b66_011b66,
  0x011c30_011c36, 0x011c38_011c3d, 0x011c3f_011c3f, 0x011c92_011ca7, 0x011caa_011cb0, 0x011cb2_011cb3,
  0x011cb5_011cb6, 0x011d31_011d36, 0x011d3a_011d3a, 0x011d3c_011d3d, 0x011d3f_011d45, 0x011d47_011d47,
  0x011d90_011d91, 0x011d95_011d95, 0x011d97_011d97, 0x011ef3_011ef4, 0x011f00_011f01, 0x011f36_011f3a,
  0x011f40_011f40, 0x011f42_011f42, 0x011f5a_011f5a, 0x013440_013440, 0x013447_013455, 0x01611e_016129,
  0x01612d_01612f, 0x016af0_016af4, 0x016b30_016b36, 0x016f4f_016f4f, 0x016f8f_016f92, 0x016fe4_016fe4,
  0x01bc9d_01bc9e, 0x01cf00_01cf2d, 0x01cf30_01cf46, 0x01d167_01d169, 0x01d17b_01d182, 0x01d185_01d18b,
  0x01d1aa_01d1ad, 0x01d242_01d244, 0x01da00_01da36, 0x01da3b_01da6c, 0x01da75_01da75, 0x01da84_01da84,
  0x01da9b_01da9f, 0x01daa1_01daaf, 0x01e000_01e006, 0x01e008_01e018, 0x01e01b_01e021, 0x01e023_01e024,
  0x01e026_01e02a, 0x01e08f_01e08f, 0x01e130_01e136, 0x01e2ae_01e2ae, 0x01e2ec_01e2ef, 0x01e4ec_01e4ef,
  0x01e5ee_01e5ef, 0x01e6e3_01e6e3, 0x01e6e6_01e6e6, 0x01e6ee_01e6ef, 0x01e6f5_01e6f5, 0x01e8d0_01e8d6,
  0x01e944_01e94a, 0x0e0100_0e01ef]

/-- Ranges of marks that take room, packed. -/
def spacingRanges : List Nat := [
  0x000903_000903, 0x00093b_00093b, 0x00093e_000940, 0x000949_00094c, 0x00094e_00094f, 0x000982_000983,
  0x0009be_0009c0, 0x0009c7_0009c8, 0x0009cb_0009cc, 0x0009d7_0009d7, 0x000a03_000a03, 0x000a3e_000a40,
  0x000a83_000a83, 0x000abe_000ac0, 0x000ac9_000ac9, 0x000acb_000acc, 0x000b02_000b03, 0x000b3e_000b3e,
  0x000b40_000b40, 0x000b47_000b48, 0x000b4b_000b4c, 0x000b57_000b57, 0x000bbe_000bbf, 0x000bc1_000bc2,
  0x000bc6_000bc8, 0x000bca_000bcc, 0x000bd7_000bd7, 0x000c01_000c03, 0x000c41_000c44, 0x000c82_000c83,
  0x000cbe_000cbe, 0x000cc0_000cc4, 0x000cc7_000cc8, 0x000cca_000ccb, 0x000cd5_000cd6, 0x000cf3_000cf3,
  0x000d02_000d03, 0x000d3e_000d40, 0x000d46_000d48, 0x000d4a_000d4c, 0x000d57_000d57, 0x000d82_000d83,
  0x000dcf_000dd1, 0x000dd8_000ddf, 0x000df2_000df3, 0x000f3e_000f3f, 0x000f7f_000f7f, 0x00102b_00102c,
  0x001031_001031, 0x001038_001038, 0x00103b_00103c, 0x001056_001057, 0x001062_001064, 0x001067_00106d,
  0x001083_001084, 0x001087_00108c, 0x00108f_00108f, 0x00109a_00109c, 0x001715_001715, 0x001734_001734,
  0x0017b6_0017b6, 0x0017be_0017c5, 0x0017c7_0017c8, 0x001923_001926, 0x001929_00192b, 0x001930_001931,
  0x001933_001938, 0x001a19_001a1a, 0x001a55_001a55, 0x001a57_001a57, 0x001a61_001a61, 0x001a63_001a64,
  0x001a6d_001a72, 0x001b04_001b04, 0x001b35_001b35, 0x001b3b_001b3b, 0x001b3d_001b41, 0x001b43_001b44,
  0x001b82_001b82, 0x001ba1_001ba1, 0x001ba6_001ba7, 0x001baa_001baa, 0x001be7_001be7, 0x001bea_001bec,
  0x001bee_001bee, 0x001bf2_001bf3, 0x001c24_001c2b, 0x001c34_001c35, 0x001ce1_001ce1, 0x001cf7_001cf7,
  0x00302e_00302f, 0x00a823_00a824, 0x00a827_00a827, 0x00a880_00a881, 0x00a8b4_00a8c3, 0x00a952_00a953,
  0x00a983_00a983, 0x00a9b4_00a9b5, 0x00a9ba_00a9bb, 0x00a9be_00a9c0, 0x00aa2f_00aa30, 0x00aa33_00aa34,
  0x00aa4d_00aa4d, 0x00aa7b_00aa7b, 0x00aa7d_00aa7d, 0x00aaeb_00aaeb, 0x00aaee_00aaef, 0x00aaf5_00aaf5,
  0x00abe3_00abe4, 0x00abe6_00abe7, 0x00abe9_00abea, 0x00abec_00abec, 0x011000_011000, 0x011002_011002,
  0x011082_011082, 0x0110b0_0110b2, 0x0110b7_0110b8, 0x01112c_01112c, 0x011145_011146, 0x011182_011182,
  0x0111b3_0111b5, 0x0111bf_0111c0, 0x0111ce_0111ce, 0x01122c_01122e, 0x011232_011233, 0x011235_011235,
  0x0112e0_0112e2, 0x011302_011303, 0x01133e_01133f, 0x011341_011344, 0x011347_011348, 0x01134b_01134d,
  0x011357_011357, 0x011362_011363, 0x0113b8_0113ba, 0x0113c2_0113c2, 0x0113c5_0113c5, 0x0113c7_0113ca,
  0x0113cc_0113cd, 0x0113cf_0113cf, 0x011435_011437, 0x011440_011441, 0x011445_011445, 0x0114b0_0114b2,
  0x0114b9_0114b9, 0x0114bb_0114be, 0x0114c1_0114c1, 0x0115af_0115b1, 0x0115b8_0115bb, 0x0115be_0115be,
  0x011630_011632, 0x01163b_01163c, 0x01163e_01163e, 0x0116ac_0116ac, 0x0116ae_0116af, 0x0116b6_0116b6,
  0x01171e_01171e, 0x011720_011721, 0x011726_011726, 0x01182c_01182e, 0x011838_011838, 0x011930_011935,
  0x011937_011938, 0x01193d_01193d, 0x011940_011940, 0x011942_011942, 0x0119d1_0119d3, 0x0119dc_0119df,
  0x0119e4_0119e4, 0x011a39_011a39, 0x011a57_011a58, 0x011a97_011a97, 0x011b61_011b61, 0x011b65_011b65,
  0x011b67_011b67, 0x011c2f_011c2f, 0x011c3e_011c3e, 0x011ca9_011ca9, 0x011cb1_011cb1, 0x011cb4_011cb4,
  0x011d8a_011d8e, 0x011d93_011d94, 0x011d96_011d96, 0x011ef5_011ef6, 0x011f03_011f03, 0x011f34_011f35,
  0x011f3e_011f3f, 0x011f41_011f41, 0x01612a_01612c, 0x016f51_016f87, 0x016ff0_016ff1, 0x01d165_01d166,
  0x01d16d_01d172]

/-- Whether a character is a mark that takes no room of its own. No ASCII character is one. -/
def isNonspacing (c : Char) : Bool := 0x80 ≤ c.toNat && nonspacingRanges.any (inPackedRange c.toNat)

/-- Whether a character is a mark of either kind. -/
def isCombining (c : Char) : Bool := isNonspacing c || 0x80 ≤ c.toNat && spacingRanges.any (inPackedRange c.toNat)

end QueryGate.Text
