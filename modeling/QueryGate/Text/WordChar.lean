import QueryGate.Text.Alphanumeric
/-!
Characters that words consist of: letters, numerals, the marks that go with them, and those that connect two words to
one. Marks are those of the Unicode general category M, version 8, and connectors those of the category Pc.
-/
set_option autoImplicit false

namespace QueryGate.Text

/-- Ranges of marks, packed. -/
def markRanges : List Nat := [
  0x000300_00036f, 0x000483_000489, 0x000591_0005bd, 0x0005bf_0005bf, 0x0005c1_0005c2, 0x0005c4_0005c5,
  0x0005c7_0005c7, 0x000610_00061a, 0x00064b_00065f, 0x000670_000670, 0x0006d6_0006dc, 0x0006df_0006e4,
  0x0006e7_0006e8, 0x0006ea_0006ed, 0x000711_000711, 0x000730_00074a, 0x0007a6_0007b0, 0x0007eb_0007f3,
  0x000816_000819, 0x00081b_000823, 0x000825_000827, 0x000829_00082d, 0x000859_00085b, 0x0008e3_000903,
  0x00093a_00093c, 0x00093e_00094f, 0x000951_000957, 0x000962_000963, 0x000981_000983, 0x0009bc_0009bc,
  0x0009be_0009c4, 0x0009c7_0009c8, 0x0009cb_0009cd, 0x0009d7_0009d7, 0x0009e2_0009e3, 0x000a01_000a03,
  0x000a3c_000a3c, 0x000a3e_000a42, 0x000a47_000a48, 0x000a4b_000a4d, 0x000a51_000a51, 0x000a70_000a71,
  0x000a75_000a75, 0x000a81_000a83, 0x000abc_000abc, 0x000abe_000ac5, 0x000ac7_000ac9, 0x000acb_000acd,
  0x000ae2_000ae3, 0x000b01_000b03, 0x000b3c_000b3c, 0x000b3e_000b44, 0x000b47_000b48, 0x000b4b_000b4d,
  0x000b56_000b57, 0x000b62_000b63, 0x000b82_000b82, 0x000bbe_000bc2, 0x000bc6_000bc8, 0x000bca_000bcd,
  0x000bd7_000bd7, 0x000c00_000c03, 0x000c3e_000c44, 0x000c46_000c48, 0x000c4a_000c4d, 0x000c55_000c56,
  0x000c62_000c63, 0x000c81_000c83, 0x000cbc_000cbc, 0x000cbe_000cc4, 0x000cc6_000cc8, 0x000cca_000ccd,
  0x000cd5_000cd6, 0x000ce2_000ce3, 0x000d01_000d03, 0x000d3e_000d44, 0x000d46_000d48, 0x000d4a_000d4d,
  0x000d57_000d57, 0x000d62_000d63, 0x000d82_000d83, 0x000dca_000dca, 0x000dcf_000dd4, 0x000dd6_000dd6,
  0x000dd8_000ddf, 0x000df2_000df3, 0x000e31_000e31, 0x000e34_000e3a, 0x000e47_000e4e, 0x000eb1_000eb1,
  0x000eb4_000eb9, 0x000ebb_000ebc, 0x000ec8_000ecd, 0x000f18_000f19, 0x000f35_000f35, 0x000f37_000f37,
  0x000f39_000f39, 0x000f3e_000f3f, 0x000f71_000f84, 0x000f86_000f87, 0x000f8d_000f97, 0x000f99_000fbc,
  0x000fc6_000fc6, 0x00102b_00103e, 0x001056_001059, 0x00105e_001060, 0x001062_001064, 0x001067_00106d,
  0x001071_001074, 0x001082_00108d, 0x00108f_00108f, 0x00109a_00109d, 0x00135d_00135f, 0x001712_001714,
  0x001732_001734, 0x001752_001753, 0x001772_001773, 0x0017b4_0017d3, 0x0017dd_0017dd, 0x00180b_00180d,
  0x001885_001886, 0x0018a9_0018a9, 0x001920_00192b, 0x001930_00193b, 0x001a17_001a1b, 0x001a55_001a5e,
  0x001a60_001a7c, 0x001a7f_001a7f, 0x001ab0_001abe, 0x001b00_001b04, 0x001b34_001b44, 0x001b6b_001b73,
  0x001b80_001b82, 0x001ba1_001bad, 0x001be6_001bf3, 0x001c24_001c37, 0x001cd0_001cd2, 0x001cd4_001ce8,
  0x001ced_001ced, 0x001cf4_001cf4, 0x001cf8_001cf9, 0x001dc0_001df5, 0x001dfc_001dff, 0x0020d0_0020f0,
  0x002cef_002cf1, 0x002d7f_002d7f, 0x002de0_002dff, 0x00302a_00302f, 0x003099_00309a, 0x00a66f_00a672,
  0x00a674_00a67d, 0x00a69e_00a69f, 0x00a6f0_00a6f1, 0x00a802_00a802, 0x00a806_00a806, 0x00a80b_00a80b,
  0x00a823_00a827, 0x00a880_00a881, 0x00a8b4_00a8c4, 0x00a8e0_00a8f1, 0x00a926_00a92d, 0x00a947_00a953,
  0x00a980_00a983, 0x00a9b3_00a9c0, 0x00a9e5_00a9e5, 0x00aa29_00aa36, 0x00aa43_00aa43, 0x00aa4c_00aa4d,
  0x00aa7b_00aa7d, 0x00aab0_00aab0, 0x00aab2_00aab4, 0x00aab7_00aab8, 0x00aabe_00aabf, 0x00aac1_00aac1,
  0x00aaeb_00aaef, 0x00aaf5_00aaf6, 0x00abe3_00abea, 0x00abec_00abed, 0x00fb1e_00fb1e, 0x00fe00_00fe0f,
  0x00fe20_00fe2f, 0x0101fd_0101fd, 0x0102e0_0102e0, 0x010376_01037a, 0x010a01_010a03, 0x010a05_010a06,
  0x010a0c_010a0f, 0x010a38_010a3a, 0x010a3f_010a3f, 0x010ae5_010ae6, 0x011000_011002, 0x011038_011046,
  0x01107f_011082, 0x0110b0_0110ba, 0x011100_011102, 0x011127_011134, 0x011173_011173, 0x011180_011182,
  0x0111b3_0111c0, 0x0111ca_0111cc, 0x01122c_011237, 0x0112df_0112ea, 0x011300_011303, 0x01133c_01133c,
  0x01133e_011344, 0x011347_011348, 0x01134b_01134d, 0x011357_011357, 0x011362_011363, 0x011366_01136c,
  0x011370_011374, 0x0114b0_0114c3, 0x0115af_0115b5, 0x0115b8_0115c0, 0x0115dc_0115dd, 0x011630_011640,
  0x0116ab_0116b7, 0x01171d_01172b, 0x016af0_016af4, 0x016b30_016b36, 0x016f51_016f7e, 0x016f8f_016f92,
  0x01bc9d_01bc9e, 0x01d165_01d169, 0x01d16d_01d172, 0x01d17b_01d182, 0x01d185_01d18b, 0x01d1aa_01d1ad,
  0x01d242_01d244, 0x01da00_01da36, 0x01da3b_01da6c, 0x01da75_01da75, 0x01da84_01da84, 0x01da9b_01da9f,
  0x01daa1_01daaf, 0x01e8d0_01e8d6, 0x0e0100_0e01ef]

/-- Ranges of connectors, packed. -/
def connectorRanges : List Nat := [
  0x00005f_00005f, 0x00203f_002040, 0x002054_002054, 0x00fe33_00fe34, 0x00fe4d_00fe4f, 0x00ff3f_00ff3f]

/-- Whether a character may stand in a word. ASCII is settled without the tables. -/
def isWordChar (c : Char) : Bool :=
  if c.toNat < 0x80 then c.isAlphanum || c = '_'
  else
    isAlphanumeric c || markRanges.any (inPackedRange c.toNat) || connectorRanges.any (inPackedRange c.toNat)

end QueryGate.Text
