/-!
Canonical combining classes (Unicode, version 17, with marks that version 18 adds). A character of class zero starts
a new combining sequence; marks of different classes after one start do not interact.
-/
set_option autoImplicit false

namespace QueryGate.Text

/-- The characters of each class other than zero, as ranges that pack the first and the last code point in six
hexadecimal digits each. -/
def combiningClasses : List (Nat × List Nat) :=
  [
    (1, [
      0x000334_000338, 0x001cd4_001cd4, 0x001ce2_001ce8, 0x0020d2_0020d3, 0x0020d8_0020da, 0x0020e5_0020e6,
      0x0020ea_0020eb, 0x010a39_010a39, 0x016af0_016af4, 0x01bc9e_01bc9e, 0x01d167_01d169, 0x01d25b_01d25d]),
    (6, [
      0x016ff0_016ff1]),
    (7, [
      0x00093c_00093c, 0x0009bc_0009bc, 0x000a3c_000a3c, 0x000abc_000abc, 0x000b3c_000b3c, 0x000c3c_000c3c,
      0x000cbc_000cbc, 0x001037_001037, 0x001b34_001b34, 0x001be6_001be6, 0x001c37_001c37, 0x00a9b3_00a9b3,
      0x0110ba_0110ba, 0x011173_011173, 0x0111ca_0111ca, 0x011236_011236, 0x0112e9_0112e9, 0x01133b_01133c,
      0x011446_011446, 0x0114c3_0114c3, 0x0115c0_0115c0, 0x0116b7_0116b7, 0x01183a_01183a, 0x011943_011943,
      0x011d42_011d42, 0x01e94a_01e94a]),
    (8, [
      0x003099_00309a]),
    (9, [
      0x00094d_00094d, 0x0009cd_0009cd, 0x000a4d_000a4d, 0x000acd_000acd, 0x000b4d_000b4d, 0x000bcd_000bcd,
      0x000c4d_000c4d, 0x000ccd_000ccd, 0x000d3b_000d3c, 0x000d4d_000d4d, 0x000dca_000dca, 0x000e3a_000e3a,
      0x000eba_000eba, 0x000f84_000f84, 0x001039_00103a, 0x001714_001715, 0x001734_001734, 0x0017d2_0017d2,
      0x001a60_001a60, 0x001b44_001b44, 0x001baa_001bab, 0x001bf2_001bf3, 0x002d7f_002d7f, 0x00a806_00a806,
      0x00a82c_00a82c, 0x00a8c4_00a8c4, 0x00a953_00a953, 0x00a9c0_00a9c0, 0x00aaf6_00aaf6, 0x00abed_00abed,
      0x010a3f_010a3f, 0x011046_011046, 0x011070_011070, 0x01107f_01107f, 0x0110b9_0110b9, 0x011133_011134,
      0x0111c0_0111c0, 0x011235_011235, 0x0112ea_0112ea, 0x01134d_01134d, 0x0113ce_0113d0, 0x011442_011442,
      0x0114c2_0114c2, 0x0115bf_0115bf, 0x01163f_01163f, 0x0116b6_0116b6, 0x01172b_01172b, 0x011839_011839,
      0x01193d_01193e, 0x0119e0_0119e0, 0x011a34_011a34, 0x011a47_011a47, 0x011a99_011a99, 0x011c3f_011c3f,
      0x011d44_011d45, 0x011d97_011d97, 0x011f41_011f42, 0x01612f_01612f]),
    (10, [
      0x0005b0_0005b0, 0x0005c8_0005c8]),
    (11, [
      0x0005b1_0005b1]),
    (12, [
      0x0005b2_0005b2]),
    (13, [
      0x0005b3_0005b3]),
    (14, [
      0x0005b4_0005b4]),
    (15, [
      0x0005b5_0005b5]),
    (16, [
      0x0005b6_0005b6]),
    (17, [
      0x0005b7_0005b7]),
    (18, [
      0x0005b8_0005b8, 0x0005c7_0005c7]),
    (19, [
      0x0005b9_0005ba]),
    (20, [
      0x0005bb_0005bb]),
    (21, [
      0x0005bc_0005bc, 0x0005c9_0005c9]),
    (22, [
      0x0005bd_0005bd]),
    (23, [
      0x0005bf_0005bf]),
    (24, [
      0x0005c1_0005c1]),
    (25, [
      0x0005c2_0005c2]),
    (26, [
      0x00fb1e_00fb1e]),
    (27, [
      0x00064b_00064b, 0x0008f0_0008f0]),
    (28, [
      0x00064c_00064c, 0x0008f1_0008f1]),
    (29, [
      0x00064d_00064d, 0x0008f2_0008f2]),
    (30, [
      0x000618_000618, 0x00064e_00064e]),
    (31, [
      0x000619_000619, 0x00064f_00064f]),
    (32, [
      0x00061a_00061a, 0x000650_000650]),
    (33, [
      0x000651_000651]),
    (34, [
      0x000652_000652]),
    (35, [
      0x000670_000670]),
    (36, [
      0x000711_000711]),
    (84, [
      0x000c55_000c55]),
    (91, [
      0x000c56_000c56]),
    (103, [
      0x000e38_000e39]),
    (107, [
      0x000e48_000e4b]),
    (118, [
      0x000eb8_000eb9]),
    (122, [
      0x000ec8_000ecb]),
    (129, [
      0x000f71_000f71]),
    (130, [
      0x000f72_000f72, 0x000f7a_000f7d, 0x000f80_000f80]),
    (132, [
      0x000f74_000f74]),
    (202, [
      0x000321_000322, 0x000327_000328, 0x001dd0_001dd0]),
    (214, [
      0x001dce_001dce]),
    (216, [
      0x00031b_00031b, 0x000f39_000f39, 0x01d165_01d166, 0x01d16e_01d172, 0x01d250_01d252, 0x01d25f_01d25f,
      0x01d261_01d266, 0x01d268_01d276, 0x01d278_01d27e, 0x01d280_01d281]),
    (218, [
      0x001dfa_001dfa, 0x00302a_00302a]),
    (220, [
      0x000316_000319, 0x00031c_000320, 0x000323_000326, 0x000329_000333, 0x000339_00033c, 0x000347_000349,
      0x00034d_00034e, 0x000353_000356, 0x000359_00035a, 0x000591_000591, 0x000596_000596, 0x00059b_00059b,
      0x0005a2_0005a7, 0x0005aa_0005aa, 0x0005c5_0005c5, 0x000655_000656, 0x00065c_00065c, 0x00065f_00065f,
      0x0006e3_0006e3, 0x0006ea_0006ea, 0x0006ed_0006ed, 0x000731_000731, 0x000734_000734, 0x000737_000739,
      0x00073b_00073c, 0x00073e_00073e, 0x000742_000742, 0x000744_000744, 0x000746_000746, 0x000748_000748,
      0x0007f2_0007f2, 0x0007fd_0007fd, 0x000859_00085b, 0x000899_00089b, 0x0008cf_0008d3, 0x0008e3_0008e3,
      0x0008e6_0008e6, 0x0008e9_0008e9, 0x0008ed_0008ef, 0x0008f6_0008f6, 0x0008f9_0008fa, 0x000952_000952,
      0x000f18_000f19, 0x000f35_000f35, 0x000f37_000f37, 0x000fc6_000fc6, 0x00108d_00108d, 0x00193b_00193b,
      0x001a18_001a18, 0x001a7f_001a7f, 0x001ab5_001aba, 0x001abd_001abd, 0x001abf_001ac0, 0x001ac3_001ac4,
      0x001aca_001aca, 0x001add_001add, 0x001ae6_001ae6, 0x001aee_001aef, 0x001b6c_001b6c, 0x001cd5_001cd9,
      0x001cdc_001cdf, 0x001ced_001ced, 0x001dc2_001dc2, 0x001dca_001dca, 0x001dcf_001dcf, 0x001df9_001df9,
      0x001dfd_001dfd, 0x001dff_001dff, 0x0020e8_0020e8, 0x0020ec_0020ef, 0x00a92b_00a92d, 0x00aab4_00aab4,
      0x00fe27_00fe2d, 0x0101fd_0101fd, 0x0102e0_0102e0, 0x010a0d_010a0d, 0x010a3a_010a3a, 0x010ae6_010ae6,
      0x010ecc_010ecd, 0x010ef0_010ef2, 0x010ef4_010ef4, 0x010efa_010efb, 0x010efd_010eff, 0x010f46_010f47,
      0x010f4b_010f4b, 0x010f4d_010f50, 0x010f83_010f83, 0x010f85_010f85, 0x01d127_01d128, 0x01d17b_01d182,
      0x01d18a_01d18b, 0x01e4ee_01e4ee, 0x01e5ef_01e5ef, 0x01e8d0_01e8d6]),
    (222, [
      0x00059a_00059a, 0x0005ad_0005ad, 0x001939_001939, 0x00302d_00302d]),
    (224, [
      0x00302e_00302f]),
    (226, [
      0x01d16d_01d16d]),
    (228, [
      0x0005ae_0005ae, 0x0018a9_0018a9, 0x001df7_001df8, 0x00302b_00302b]),
    (230, [
      0x000300_000314, 0x00033d_00033f, 0x000342_000342, 0x000346_000346, 0x00034a_00034c, 0x000350_000352,
      0x000357_000357, 0x00035b_00035b, 0x000363_00036f, 0x000483_000487, 0x000592_000595, 0x000597_000599,
      0x00059c_0005a1, 0x0005a8_0005a9, 0x0005ab_0005ac, 0x0005af_0005af, 0x0005c4_0005c4, 0x000610_000617,
      0x000653_000654, 0x000657_00065b, 0x00065d_00065e, 0x0006d6_0006dc, 0x0006df_0006e2, 0x0006e4_0006e4,
      0x0006e7_0006e8, 0x0006eb_0006ec, 0x000730_000730, 0x000732_000733, 0x000735_000736, 0x00073a_00073a,
      0x00073d_00073d, 0x00073f_000741, 0x000743_000743, 0x000745_000745, 0x000747_000747, 0x000749_00074a,
      0x0007eb_0007f1, 0x0007f3_0007f3, 0x000816_000819, 0x00081b_000823, 0x000825_000827, 0x000829_00082d,
      0x000897_000898, 0x00089c_00089f, 0x0008ca_0008ce, 0x0008d4_0008e1, 0x0008e4_0008e5, 0x0008e7_0008e8,
      0x0008ea_0008ec, 0x0008f3_0008f5, 0x0008f7_0008f8, 0x0008fb_0008ff, 0x000951_000951, 0x000953_000954,
      0x0009fe_0009fe, 0x000f82_000f83, 0x000f86_000f87, 0x00135d_00135f, 0x0017dd_0017dd, 0x00193a_00193a,
      0x001a17_001a17, 0x001a75_001a7c, 0x001ab0_001ab4, 0x001abb_001abc, 0x001ac1_001ac2, 0x001ac5_001ac9,
      0x001acb_001adc, 0x001ade_001ae5, 0x001ae7_001aea, 0x001aec_001aed, 0x001af0_001af0, 0x001b6b_001b6b,
      0x001b6d_001b73, 0x001cd0_001cd2, 0x001cda_001cdb, 0x001ce0_001ce0, 0x001cf4_001cf4, 0x001cf8_001cf9,
      0x001dc0_001dc1, 0x001dc3_001dc9, 0x001dcb_001dcc, 0x001dd1_001df5, 0x001dfb_001dfb, 0x001dfe_001dfe,
      0x0020d0_0020d1, 0x0020d4_0020d7, 0x0020db_0020dc, 0x0020e1_0020e1, 0x0020e7_0020e7, 0x0020e9_0020e9,
      0x0020f0_0020f0, 0x002cef_002cf1, 0x002de0_002dff, 0x00a66f_00a66f, 0x00a674_00a67d, 0x00a69e_00a69f,
      0x00a6f0_00a6f1, 0x00a8e0_00a8f1, 0x00aab0_00aab0, 0x00aab2_00aab3, 0x00aab7_00aab8, 0x00aabe_00aabf,
      0x00aac1_00aac1, 0x00fe20_00fe26, 0x00fe2e_00fe2f, 0x010376_01037a, 0x010a0f_010a0f, 0x010a38_010a38,
      0x010ae5_010ae5, 0x010d24_010d27, 0x010d69_010d6d, 0x010eab_010eac, 0x010ecb_010ecb, 0x010ece_010ecf,
      0x010ef3_010ef3, 0x010ef5_010ef9, 0x010f48_010f4a, 0x010f4c_010f4c, 0x010f82_010f82, 0x010f84_010f84,
      0x011100_011102, 0x011366_01136c, 0x011370_011374, 0x01145e_01145e, 0x016b30_016b36, 0x01d185_01d189,
      0x01d1aa_01d1ad, 0x01d242_01d244, 0x01e000_01e006, 0x01e008_01e018, 0x01e01b_01e021, 0x01e023_01e024,
      0x01e026_01e02a, 0x01e08f_01e08f, 0x01e130_01e136, 0x01e2ae_01e2ae, 0x01e2ec_01e2ef, 0x01e4ef_01e4ef,
      0x01e5ee_01e5ee, 0x01e6e3_01e6e3, 0x01e6e6_01e6e6, 0x01e6ee_01e6ef, 0x01e6f5_01e6f5, 0x01e944_01e949]),
    (232, [
      0x000315_000315, 0x00031a_00031a, 0x000358_000358, 0x001df6_001df6, 0x00302c_00302c, 0x01e4ec_01e4ed]),
    (233, [
      0x00035c_00035c, 0x00035f_00035f, 0x000362_000362, 0x001dfc_001dfc]),
    (234, [
      0x00035d_00035e, 0x000360_000361, 0x001aeb_001aeb, 0x001dcd_001dcd]),
    (240, [
      0x000345_000345])]

/-- The canonical combining class of a character. No class below U+0300 differs from zero. -/
def combiningClass (c : Char) : Nat :=
  let code := c.toNat
  if code < 0x300 then 0
  else
    match combiningClasses.find? fun entry =>
        entry.2.any fun range => decide (range / 0x1000000 ≤ code) && decide (code ≤ range % 0x1000000) with
    | some (n, _) => n
    | none => 0

end QueryGate.Text
