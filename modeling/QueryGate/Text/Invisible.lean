import QueryGate.Text.Range
/-!
Characters that do not show as themselves: controls, format characters, unassigned and private code points,
separators other than the space, marks that extend the character before them, and fillers. The table is that of the
Unicode general categories C and Z and of the properties Grapheme_Extend and Default_Ignorable_Code_Point, version 17,
but for the halfwidth sound marks U+FF9E and U+FF9F, which have a width of their own.
-/
set_option autoImplicit false

namespace QueryGate.Text

/-- Ranges of invisible characters, packed as first and last code point in six hexadecimal digits each. Part 1 of 4. -/
def invisibleRangesPart1 : List Nat := [
  0x000000_00001f, 0x00007f_0000a0, 0x0000ad_0000ad, 0x000300_00036f, 0x000378_000379, 0x000380_000383,
  0x00038b_00038b, 0x00038d_00038d, 0x0003a2_0003a2, 0x000483_000489, 0x000530_000530, 0x000557_000558,
  0x00058b_00058c, 0x000590_0005bd, 0x0005bf_0005bf, 0x0005c1_0005c2, 0x0005c4_0005c5, 0x0005c7_0005cf,
  0x0005eb_0005ee, 0x0005f5_000605, 0x000610_00061a, 0x00061c_00061c, 0x00064b_00065f, 0x000670_000670,
  0x0006d6_0006dd, 0x0006df_0006e4, 0x0006e7_0006e8, 0x0006ea_0006ed, 0x00070e_00070f, 0x000711_000711,
  0x000730_00074c, 0x0007a6_0007b0, 0x0007b2_0007bf, 0x0007eb_0007f3, 0x0007fb_0007fd, 0x000816_000819,
  0x00081b_000823, 0x000825_000827, 0x000829_00082f, 0x00083f_00083f, 0x000859_00085d, 0x00085f_00085f,
  0x00086b_00086f, 0x000890_00089f, 0x0008ca_000902, 0x00093a_00093a, 0x00093c_00093c, 0x000941_000948,
  0x00094d_00094d, 0x000951_000957, 0x000962_000963, 0x000981_000981, 0x000984_000984, 0x00098d_00098e,
  0x000991_000992, 0x0009a9_0009a9, 0x0009b1_0009b1, 0x0009b3_0009b5, 0x0009ba_0009bc, 0x0009be_0009be,
  0x0009c1_0009c6, 0x0009c9_0009ca, 0x0009cd_0009cd, 0x0009cf_0009db, 0x0009de_0009de, 0x0009e2_0009e5,
  0x0009fe_000a02, 0x000a04_000a04, 0x000a0b_000a0e, 0x000a11_000a12, 0x000a29_000a29, 0x000a31_000a31,
  0x000a34_000a34, 0x000a37_000a37, 0x000a3a_000a3d, 0x000a41_000a58, 0x000a5d_000a5d, 0x000a5f_000a65,
  0x000a70_000a71, 0x000a75_000a75, 0x000a77_000a82, 0x000a84_000a84, 0x000a8e_000a8e, 0x000a92_000a92,
  0x000aa9_000aa9, 0x000ab1_000ab1, 0x000ab4_000ab4, 0x000aba_000abc, 0x000ac1_000ac8, 0x000aca_000aca,
  0x000acd_000acf, 0x000ad1_000adf, 0x000ae2_000ae5, 0x000af2_000af8, 0x000afa_000b01, 0x000b04_000b04,
  0x000b0d_000b0e, 0x000b11_000b12, 0x000b29_000b29, 0x000b31_000b31, 0x000b34_000b34, 0x000b3a_000b3c,
  0x000b3e_000b3f, 0x000b41_000b46, 0x000b49_000b4a, 0x000b4d_000b5b, 0x000b5e_000b5e, 0x000b62_000b65,
  0x000b78_000b82, 0x000b84_000b84, 0x000b8b_000b8d, 0x000b91_000b91, 0x000b96_000b98, 0x000b9b_000b9b,
  0x000b9d_000b9d, 0x000ba0_000ba2, 0x000ba5_000ba7, 0x000bab_000bad, 0x000bba_000bbe, 0x000bc0_000bc0,
  0x000bc3_000bc5, 0x000bc9_000bc9, 0x000bcd_000bcf, 0x000bd1_000be5, 0x000bfb_000c00, 0x000c04_000c04,
  0x000c0d_000c0d, 0x000c11_000c11, 0x000c29_000c29, 0x000c3a_000c3c, 0x000c3e_000c40, 0x000c45_000c57,
  0x000c5b_000c5b, 0x000c5e_000c5f, 0x000c62_000c65, 0x000c70_000c76, 0x000c81_000c81, 0x000c8d_000c8d,
  0x000c91_000c91, 0x000ca9_000ca9, 0x000cb4_000cb4, 0x000cba_000cbc, 0x000cbf_000cc0, 0x000cc2_000cc2,
  0x000cc5_000cdb, 0x000cdf_000cdf, 0x000ce2_000ce5, 0x000cf0_000cf0, 0x000cf4_000d01, 0x000d0d_000d0d,
  0x000d11_000d11, 0x000d3b_000d3c, 0x000d3e_000d3e, 0x000d41_000d45, 0x000d49_000d49, 0x000d4d_000d4d,
  0x000d50_000d53, 0x000d57_000d57, 0x000d62_000d65, 0x000d80_000d81, 0x000d84_000d84, 0x000d97_000d99,
  0x000db2_000db2, 0x000dbc_000dbc, 0x000dbe_000dbf, 0x000dc7_000dcf, 0x000dd2_000dd7, 0x000ddf_000de5,
  0x000df0_000df1, 0x000df5_000e00, 0x000e31_000e31, 0x000e34_000e3e, 0x000e47_000e4e, 0x000e5c_000e80,
  0x000e83_000e83, 0x000e85_000e85, 0x000e8b_000e8b, 0x000ea4_000ea4, 0x000ea6_000ea6, 0x000eb1_000eb1,
  0x000eb4_000ebc, 0x000ebe_000ebf, 0x000ec5_000ec5, 0x000ec7_000ecf, 0x000eda_000edb, 0x000ee0_000eff,
  0x000f18_000f19, 0x000f35_000f35, 0x000f37_000f37, 0x000f39_000f39, 0x000f48_000f48, 0x000f6d_000f7e,
  0x000f80_000f84, 0x000f86_000f87, 0x000f8d_000fbd, 0x000fc6_000fc6, 0x000fcd_000fcd, 0x000fdb_000fff,
  0x00102d_001030, 0x001032_001037, 0x001039_00103a, 0x00103d_00103e, 0x001058_001059, 0x00105e_001060,
  0x001071_001074, 0x001082_001082, 0x001085_001086, 0x00108d_00108d, 0x00109d_00109d, 0x0010c6_0010c6,
  0x0010c8_0010cc, 0x0010ce_0010cf, 0x00115f_001160, 0x001249_001249, 0x00124e_00124f, 0x001257_001257,
  0x001259_001259, 0x00125e_00125f, 0x001289_001289, 0x00128e_00128f, 0x0012b1_0012b1, 0x0012b6_0012b7,
  0x0012bf_0012bf, 0x0012c1_0012c1, 0x0012c6_0012c7, 0x0012d7_0012d7, 0x001311_001311, 0x001316_001317,
  0x00135b_00135f, 0x00137d_00137f, 0x00139a_00139f, 0x0013f6_0013f7, 0x0013fe_0013ff, 0x001680_001680,
  0x00169d_00169f, 0x0016f9_0016ff, 0x001712_00171e, 0x001732_001734, 0x001737_00173f, 0x001752_00175f]

/-- Ranges of invisible characters, packed as first and last code point in six hexadecimal digits each. Part 2 of 4. -/
def invisibleRangesPart2 : List Nat := [
  0x00176d_00176d, 0x001771_00177f, 0x0017b4_0017b5, 0x0017b7_0017bd, 0x0017c6_0017c6, 0x0017c9_0017d3,
  0x0017dd_0017df, 0x0017ea_0017ef, 0x0017fa_0017ff, 0x00180b_00180f, 0x00181a_00181f, 0x001879_00187f,
  0x001885_001886, 0x0018a9_0018a9, 0x0018ab_0018af, 0x0018f6_0018ff, 0x00191f_001922, 0x001927_001928,
  0x00192c_00192f, 0x001932_001932, 0x001939_00193f, 0x001941_001943, 0x00196e_00196f, 0x001975_00197f,
  0x0019ac_0019af, 0x0019ca_0019cf, 0x0019db_0019dd, 0x001a17_001a18, 0x001a1b_001a1d, 0x001a56_001a56,
  0x001a58_001a60, 0x001a62_001a62, 0x001a65_001a6c, 0x001a73_001a7f, 0x001a8a_001a8f, 0x001a9a_001a9f,
  0x001aae_001b03, 0x001b34_001b3d, 0x001b42_001b44, 0x001b4d_001b4d, 0x001b6b_001b73, 0x001b80_001b81,
  0x001ba2_001ba5, 0x001ba8_001bad, 0x001be6_001be6, 0x001be8_001be9, 0x001bed_001bed, 0x001bef_001bfb,
  0x001c2c_001c33, 0x001c36_001c3a, 0x001c4a_001c4c, 0x001c8b_001c8f, 0x001cbb_001cbc, 0x001cc8_001cd2,
  0x001cd4_001ce0, 0x001ce2_001ce8, 0x001ced_001ced, 0x001cf4_001cf4, 0x001cf8_001cf9, 0x001cfb_001cff,
  0x001dc0_001dff, 0x001f16_001f17, 0x001f1e_001f1f, 0x001f46_001f47, 0x001f4e_001f4f, 0x001f58_001f58,
  0x001f5a_001f5a, 0x001f5c_001f5c, 0x001f5e_001f5e, 0x001f7e_001f7f, 0x001fb5_001fb5, 0x001fc5_001fc5,
  0x001fd4_001fd5, 0x001fdc_001fdc, 0x001ff0_001ff1, 0x001ff5_001ff5, 0x001fff_00200f, 0x002028_00202f,
  0x00205f_00206f, 0x002072_002073, 0x00208f_00208f, 0x00209d_00209f, 0x0020c2_0020ff, 0x00218c_00218f,
  0x00242a_00243f, 0x00244b_00245f, 0x002b74_002b75, 0x002cef_002cf1, 0x002cf4_002cf8, 0x002d26_002d26,
  0x002d28_002d2c, 0x002d2e_002d2f, 0x002d68_002d6e, 0x002d71_002d7f, 0x002d97_002d9f, 0x002da7_002da7,
  0x002daf_002daf, 0x002db7_002db7, 0x002dbf_002dbf, 0x002dc7_002dc7, 0x002dcf_002dcf, 0x002dd7_002dd7,
  0x002ddf_002dff, 0x002e5e_002e7f, 0x002e9a_002e9a, 0x002ef4_002eff, 0x002fd6_002fef, 0x003000_003000,
  0x00302a_00302f, 0x003040_003040, 0x003097_00309a, 0x003100_003104, 0x003130_003130, 0x003164_003164,
  0x00318f_00318f, 0x0031e6_0031ee, 0x00321f_00321f, 0x00a48d_00a48f, 0x00a4c7_00a4cf, 0x00a62c_00a63f,
  0x00a66f_00a672, 0x00a674_00a67d, 0x00a69e_00a69f, 0x00a6f0_00a6f1, 0x00a6f8_00a6ff, 0x00a7dd_00a7f0,
  0x00a802_00a802, 0x00a806_00a806, 0x00a80b_00a80b, 0x00a825_00a826, 0x00a82c_00a82f, 0x00a83a_00a83f,
  0x00a878_00a87f, 0x00a8c4_00a8cd, 0x00a8da_00a8f1, 0x00a8ff_00a8ff, 0x00a926_00a92d, 0x00a947_00a951,
  0x00a953_00a95e, 0x00a97d_00a982, 0x00a9b3_00a9b3, 0x00a9b6_00a9b9, 0x00a9bc_00a9bd, 0x00a9c0_00a9c0,
  0x00a9ce_00a9ce, 0x00a9da_00a9dd, 0x00a9e5_00a9e5, 0x00a9ff_00a9ff, 0x00aa29_00aa2e, 0x00aa31_00aa32,
  0x00aa35_00aa3f, 0x00aa43_00aa43, 0x00aa4c_00aa4c, 0x00aa4e_00aa4f, 0x00aa5a_00aa5b, 0x00aa7c_00aa7c,
  0x00aab0_00aab0, 0x00aab2_00aab4, 0x00aab7_00aab8, 0x00aabe_00aabf, 0x00aac1_00aac1, 0x00aac3_00aada,
  0x00aaec_00aaed, 0x00aaf6_00ab00, 0x00ab07_00ab08, 0x00ab0f_00ab10, 0x00ab17_00ab1f, 0x00ab27_00ab27,
  0x00ab2f_00ab2f, 0x00ab6c_00ab6f, 0x00abe5_00abe5, 0x00abe8_00abe8, 0x00abed_00abef, 0x00abfa_00abff,
  0x00d7a4_00d7af, 0x00d7c7_00d7ca, 0x00d7fc_00d7ff, 0x00e000_00f8ff, 0x00fa6e_00fa6f, 0x00fada_00faff,
  0x00fb07_00fb12, 0x00fb18_00fb1c, 0x00fb1e_00fb1e, 0x00fb37_00fb37, 0x00fb3d_00fb3d, 0x00fb3f_00fb3f,
  0x00fb42_00fb42, 0x00fb45_00fb45, 0x00fdd0_00fdef, 0x00fe00_00fe0f, 0x00fe1a_00fe2f, 0x00fe53_00fe53,
  0x00fe67_00fe67, 0x00fe6c_00fe6f, 0x00fe75_00fe75, 0x00fefd_00ff00, 0x00ffa0_00ffa0, 0x00ffbf_00ffc1,
  0x00ffc8_00ffc9, 0x00ffd0_00ffd1, 0x00ffd8_00ffd9, 0x00ffdd_00ffdf, 0x00ffe7_00ffe7, 0x00ffef_00fffb,
  0x00fffe_00ffff, 0x01000c_01000c, 0x010027_010027, 0x01003b_01003b, 0x01003e_01003e, 0x01004e_01004f,
  0x01005e_01007f, 0x0100fb_0100ff, 0x010103_010106, 0x010134_010136, 0x01018f_01018f, 0x01019d_01019f,
  0x0101a1_0101cf, 0x0101fd_01027f, 0x01029d_01029f, 0x0102d1_0102e0, 0x0102fc_0102ff, 0x010324_01032c,
  0x01034b_01034f, 0x010376_01037f, 0x01039e_01039e, 0x0103c4_0103c7, 0x0103d6_0103ff, 0x01049e_01049f,
  0x0104aa_0104af, 0x0104d4_0104d7, 0x0104fc_0104ff, 0x010528_01052f, 0x010564_01056e, 0x01057b_01057b,
  0x01058b_01058b, 0x010593_010593, 0x010596_010596, 0x0105a2_0105a2, 0x0105b2_0105b2, 0x0105ba_0105ba]

/-- Ranges of invisible characters, packed as first and last code point in six hexadecimal digits each. Part 3 of 4. -/
def invisibleRangesPart3 : List Nat := [
  0x0105bd_0105bf, 0x0105f4_0105ff, 0x010737_01073f, 0x010756_01075f, 0x010768_01077f, 0x010786_010786,
  0x0107b1_0107b1, 0x0107bb_0107ff, 0x010806_010807, 0x010809_010809, 0x010836_010836, 0x010839_01083b,
  0x01083d_01083e, 0x010856_010856, 0x01089f_0108a6, 0x0108b0_0108df, 0x0108f3_0108f3, 0x0108f6_0108fa,
  0x01091c_01091e, 0x01093a_01093e, 0x01095a_01097f, 0x0109b8_0109bb, 0x0109d0_0109d1, 0x010a01_010a0f,
  0x010a14_010a14, 0x010a18_010a18, 0x010a36_010a3f, 0x010a49_010a4f, 0x010a59_010a5f, 0x010aa0_010abf,
  0x010ae5_010aea, 0x010af7_010aff, 0x010b36_010b38, 0x010b56_010b57, 0x010b73_010b77, 0x010b92_010b98,
  0x010b9d_010ba8, 0x010bb0_010bff, 0x010c49_010c7f, 0x010cb3_010cbf, 0x010cf3_010cf9, 0x010d24_010d2f,
  0x010d3a_010d3f, 0x010d66_010d6d, 0x010d86_010d8d, 0x010d90_010e5f, 0x010e7f_010e7f, 0x010eaa_010eac,
  0x010eae_010eaf, 0x010eb2_010ec1, 0x010ec8_010ecf, 0x010ed9_010eff, 0x010f28_010f2f, 0x010f46_010f50,
  0x010f5a_010f6f, 0x010f82_010f85, 0x010f8a_010faf, 0x010fcc_010fdf, 0x010ff7_010fff, 0x011001_011001,
  0x011038_011046, 0x01104e_011051, 0x011070_011070, 0x011073_011074, 0x011076_011081, 0x0110b3_0110b6,
  0x0110b9_0110ba, 0x0110bd_0110bd, 0x0110c2_0110cf, 0x0110e9_0110ef, 0x0110fa_011102, 0x011127_01112b,
  0x01112d_011135, 0x011148_01114f, 0x011173_011173, 0x011177_011181, 0x0111b6_0111be, 0x0111c0_0111c0,
  0x0111c9_0111cc, 0x0111cf_0111cf, 0x0111e0_0111e0, 0x0111f5_0111ff, 0x011212_011212, 0x01122f_011231,
  0x011234_011237, 0x01123e_01123e, 0x011241_01127f, 0x011287_011287, 0x011289_011289, 0x01128e_01128e,
  0x01129e_01129e, 0x0112aa_0112af, 0x0112df_0112df, 0x0112e3_0112ef, 0x0112fa_011301, 0x011304_011304,
  0x01130d_01130e, 0x011311_011312, 0x011329_011329, 0x011331_011331, 0x011334_011334, 0x01133a_01133c,
  0x01133e_01133e, 0x011340_011340, 0x011345_011346, 0x011349_01134a, 0x01134d_01134f, 0x011351_01135c,
  0x011364_01137f, 0x01138a_01138a, 0x01138c_01138d, 0x01138f_01138f, 0x0113b6_0113b6, 0x0113b8_0113b8,
  0x0113bb_0113c9, 0x0113cb_0113cb, 0x0113ce_0113d0, 0x0113d2_0113d2, 0x0113d6_0113d6, 0x0113d9_0113ff,
  0x011438_01143f, 0x011442_011444, 0x011446_011446, 0x01145c_01145c, 0x01145e_01145e, 0x011462_01147f,
  0x0114b0_0114b0, 0x0114b3_0114b8, 0x0114ba_0114ba, 0x0114bd_0114bd, 0x0114bf_0114c0, 0x0114c2_0114c3,
  0x0114c8_0114cf, 0x0114da_01157f, 0x0115af_0115af, 0x0115b2_0115b7, 0x0115bc_0115bd, 0x0115bf_0115c0,
  0x0115dc_0115ff, 0x011633_01163a, 0x01163d_01163d, 0x01163f_011640, 0x011645_01164f, 0x01165a_01165f,
  0x01166d_01167f, 0x0116ab_0116ab, 0x0116ad_0116ad, 0x0116b0_0116b7, 0x0116ba_0116bf, 0x0116ca_0116cf,
  0x0116e4_0116ff, 0x01171b_01171d, 0x01171f_01171f, 0x011722_011725, 0x011727_01172f, 0x011747_0117ff,
  0x01182f_011837, 0x011839_01183a, 0x01183c_01189f, 0x0118f3_0118fe, 0x011907_011908, 0x01190a_01190b,
  0x011914_011914, 0x011917_011917, 0x011930_011930, 0x011936_011936, 0x011939_01193e, 0x011943_011943,
  0x011947_01194f, 0x01195a_01199f, 0x0119a8_0119a9, 0x0119d4_0119db, 0x0119e0_0119e0, 0x0119e5_0119ff,
  0x011a01_011a0a, 0x011a33_011a38, 0x011a3b_011a3e, 0x011a47_011a4f, 0x011a51_011a56, 0x011a59_011a5b,
  0x011a8a_011a96, 0x011a98_011a99, 0x011aa3_011aaf, 0x011af9_011aff, 0x011b0a_011b60, 0x011b62_011b64,
  0x011b66_011b66, 0x011b68_011bbf, 0x011be2_011bef, 0x011bfa_011bff, 0x011c09_011c09, 0x011c30_011c3d,
  0x011c3f_011c3f, 0x011c46_011c4f, 0x011c6d_011c6f, 0x011c90_011ca8, 0x011caa_011cb0, 0x011cb2_011cb3,
  0x011cb5_011cff, 0x011d07_011d07, 0x011d0a_011d0a, 0x011d31_011d45, 0x011d47_011d4f, 0x011d5a_011d5f,
  0x011d66_011d66, 0x011d69_011d69, 0x011d8f_011d92, 0x011d95_011d95, 0x011d97_011d97, 0x011d99_011d9f,
  0x011daa_011daf, 0x011ddc_011ddf, 0x011dea_011edf, 0x011ef3_011ef4, 0x011ef9_011f01, 0x011f11_011f11,
  0x011f36_011f3d, 0x011f40_011f42, 0x011f5a_011faf, 0x011fb1_011fbf, 0x011ff2_011ffe, 0x01239a_0123ff,
  0x01246f_01246f, 0x012475_01247f, 0x012544_012f8f, 0x012ff3_012fff, 0x013430_013440, 0x013447_01345f,
  0x0143fb_0143ff, 0x014647_0160ff, 0x01611e_016129, 0x01612d_01612f, 0x01613a_0167ff, 0x016a39_016a3f,
  0x016a5f_016a5f, 0x016a6a_016a6d, 0x016abf_016abf, 0x016aca_016acf, 0x016aee_016af4, 0x016af6_016aff]

/-- Ranges of invisible characters, packed as first and last code point in six hexadecimal digits each. Part 4 of 4. -/
def invisibleRangesPart4 : List Nat := [
  0x016b30_016b36, 0x016b46_016b4f, 0x016b5a_016b5a, 0x016b62_016b62, 0x016b78_016b7c, 0x016b90_016d3f,
  0x016d7a_016e3f, 0x016e9b_016e9f, 0x016eb9_016eba, 0x016ed4_016eff, 0x016f4b_016f4f, 0x016f88_016f92,
  0x016fa0_016fdf, 0x016fe4_016ff1, 0x016ff7_016fff, 0x018cd6_018cfe, 0x018d1f_018d7f, 0x018df3_01afef,
  0x01aff4_01aff4, 0x01affc_01affc, 0x01afff_01afff, 0x01b123_01b131, 0x01b133_01b14f, 0x01b153_01b154,
  0x01b156_01b163, 0x01b168_01b16f, 0x01b2fc_01bbff, 0x01bc6b_01bc6f, 0x01bc7d_01bc7f, 0x01bc89_01bc8f,
  0x01bc9a_01bc9b, 0x01bc9d_01bc9e, 0x01bca0_01cbff, 0x01ccfd_01ccff, 0x01ceb4_01ceb9, 0x01ced1_01cedf,
  0x01cef1_01cf4f, 0x01cfc4_01cfff, 0x01d0f6_01d0ff, 0x01d127_01d128, 0x01d165_01d169, 0x01d16d_01d182,
  0x01d185_01d18b, 0x01d1aa_01d1ad, 0x01d1eb_01d1ff, 0x01d242_01d244, 0x01d246_01d2bf, 0x01d2d4_01d2df,
  0x01d2f4_01d2ff, 0x01d357_01d35f, 0x01d379_01d3ff, 0x01d455_01d455, 0x01d49d_01d49d, 0x01d4a0_01d4a1,
  0x01d4a3_01d4a4, 0x01d4a7_01d4a8, 0x01d4ad_01d4ad, 0x01d4ba_01d4ba, 0x01d4bc_01d4bc, 0x01d4c4_01d4c4,
  0x01d506_01d506, 0x01d50b_01d50c, 0x01d515_01d515, 0x01d51d_01d51d, 0x01d53a_01d53a, 0x01d53f_01d53f,
  0x01d545_01d545, 0x01d547_01d549, 0x01d551_01d551, 0x01d6a6_01d6a7, 0x01d7cc_01d7cd, 0x01da00_01da36,
  0x01da3b_01da6c, 0x01da75_01da75, 0x01da84_01da84, 0x01da8c_01deff, 0x01df1f_01df24, 0x01df2b_01e02f,
  0x01e06e_01e0ff, 0x01e12d_01e136, 0x01e13e_01e13f, 0x01e14a_01e14d, 0x01e150_01e28f, 0x01e2ae_01e2bf,
  0x01e2ec_01e2ef, 0x01e2fa_01e2fe, 0x01e300_01e4cf, 0x01e4ec_01e4ef, 0x01e4fa_01e5cf, 0x01e5ee_01e5ef,
  0x01e5fb_01e5fe, 0x01e600_01e6bf, 0x01e6df_01e6df, 0x01e6e3_01e6e3, 0x01e6e6_01e6e6, 0x01e6ee_01e6ef,
  0x01e6f5_01e6fd, 0x01e700_01e7df, 0x01e7e7_01e7e7, 0x01e7ec_01e7ec, 0x01e7ef_01e7ef, 0x01e7ff_01e7ff,
  0x01e8c5_01e8c6, 0x01e8d0_01e8ff, 0x01e944_01e94a, 0x01e94c_01e94f, 0x01e95a_01e95d, 0x01e960_01ec70,
  0x01ecb5_01ed00, 0x01ed3e_01edff, 0x01ee04_01ee04, 0x01ee20_01ee20, 0x01ee23_01ee23, 0x01ee25_01ee26,
  0x01ee28_01ee28, 0x01ee33_01ee33, 0x01ee38_01ee38, 0x01ee3a_01ee3a, 0x01ee3c_01ee41, 0x01ee43_01ee46,
  0x01ee48_01ee48, 0x01ee4a_01ee4a, 0x01ee4c_01ee4c, 0x01ee50_01ee50, 0x01ee53_01ee53, 0x01ee55_01ee56,
  0x01ee58_01ee58, 0x01ee5a_01ee5a, 0x01ee5c_01ee5c, 0x01ee5e_01ee5e, 0x01ee60_01ee60, 0x01ee63_01ee63,
  0x01ee65_01ee66, 0x01ee6b_01ee6b, 0x01ee73_01ee73, 0x01ee78_01ee78, 0x01ee7d_01ee7d, 0x01ee7f_01ee7f,
  0x01ee8a_01ee8a, 0x01ee9c_01eea0, 0x01eea4_01eea4, 0x01eeaa_01eeaa, 0x01eebc_01eeef, 0x01eef2_01efff,
  0x01f02c_01f02f, 0x01f094_01f09f, 0x01f0af_01f0b0, 0x01f0c0_01f0c0, 0x01f0d0_01f0d0, 0x01f0f6_01f0ff,
  0x01f1ae_01f1e5, 0x01f203_01f20f, 0x01f23c_01f23f, 0x01f249_01f24f, 0x01f252_01f25f, 0x01f266_01f2ff,
  0x01f6d9_01f6db, 0x01f6ed_01f6ef, 0x01f6fd_01f6ff, 0x01f7da_01f7df, 0x01f7ec_01f7ef, 0x01f7f1_01f7ff,
  0x01f80c_01f80f, 0x01f848_01f84f, 0x01f85a_01f85f, 0x01f888_01f88f, 0x01f8ae_01f8af, 0x01f8bc_01f8bf,
  0x01f8c2_01f8cf, 0x01f8d9_01f8ff, 0x01fa58_01fa5f, 0x01fa6e_01fa6f, 0x01fa7d_01fa7f, 0x01fa8b_01fa8d,
  0x01fac7_01fac7, 0x01fac9_01facc, 0x01fadd_01fade, 0x01faeb_01faee, 0x01faf9_01faff, 0x01fb93_01fb93,
  0x01fbfb_01ffff, 0x02a6e0_02a6ff, 0x02b81e_02b81f, 0x02ceae_02ceaf, 0x02ebe1_02ebef, 0x02ee5e_02f7ff,
  0x02fa1e_02ffff, 0x03134b_03134f, 0x03347a_10ffff]

/-- Ranges of invisible characters, each packed as its first and its last code point in six hexadecimal digits. -/
def invisibleRanges : List Nat :=
  invisibleRangesPart1 ++ invisibleRangesPart2 ++ invisibleRangesPart3 ++ invisibleRangesPart4

/-- Whether a character does not show as itself. Printable ASCII is settled without the table. -/
def isInvisible (c : Char) : Bool :=
  if 0x20 ≤ c.toNat ∧ c.toNat < 0x7f then false else invisibleRanges.any (inPackedRange c.toNat)

end QueryGate.Text
