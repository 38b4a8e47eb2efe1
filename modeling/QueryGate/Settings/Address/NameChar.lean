import QueryGate.Text.Range
/-!
Which characters the names of hosts leave out and which they refuse (Unicode, version 17). What a name does not refuse
it takes, some of it only in another form, such as small letters for capital ones.
-/
set_option autoImplicit false

namespace QueryGate.Settings.Address

/-- The characters that no host has. -/
def isForbidden (c : Char) : Bool := "\x00\t\n\r #/:<>?@[\\]^|".toList.contains c

/-- The characters that no name of a host has once it is in standard form. -/
def isForbiddenInName (c : Char) : Bool := isForbidden c || c = '%' || c.toNat < 0x20 || c.toNat = 0x7f

/-- Ranges of characters that mean nothing in a name and are left out, packed. -/
def ignoredRanges : List Nat := [
  0x0000ad_0000ad, 0x00034f_00034f, 0x00115f_001160, 0x0017b4_0017b5, 0x00180b_00180f, 0x00200b_00200b,
  0x002060_002064, 0x00206a_00206f, 0x003164_003164, 0x00fe00_00fe0f, 0x00feff_00feff, 0x00ffa0_00ffa0,
  0x01bca0_01bca3, 0x01d173_01d17a, 0x0e0100_0e01ef]

/-- Ranges of characters that no name has, packed as first and last code point. Part 1 of 4. -/
def refusedRangesPart1 : List Nat := [
  0x000080_00009f, 0x000378_000379, 0x000380_000383, 0x00038b_00038b, 0x00038d_00038d, 0x0003a2_0003a2,
  0x000530_000530, 0x000557_000558, 0x00058b_00058c, 0x000590_000590, 0x0005c8_0005cf, 0x0005eb_0005ee,
  0x0005f5_000605, 0x00061c_00061c, 0x0006dd_0006dd, 0x00070e_00070f, 0x00074b_00074c, 0x0007b2_0007bf,
  0x0007fb_0007fc, 0x00082e_00082f, 0x00083f_00083f, 0x00085c_00085d, 0x00085f_00085f, 0x00086b_00086f,
  0x000890_000896, 0x0008e2_0008e2, 0x000984_000984, 0x00098d_00098e, 0x000991_000992, 0x0009a9_0009a9,
  0x0009b1_0009b1, 0x0009b3_0009b5, 0x0009ba_0009bb, 0x0009c5_0009c6, 0x0009c9_0009ca, 0x0009cf_0009d6,
  0x0009d8_0009db, 0x0009de_0009de, 0x0009e4_0009e5, 0x0009ff_000a00, 0x000a04_000a04, 0x000a0b_000a0e,
  0x000a11_000a12, 0x000a29_000a29, 0x000a31_000a31, 0x000a34_000a34, 0x000a37_000a37, 0x000a3a_000a3b,
  0x000a3d_000a3d, 0x000a43_000a46, 0x000a49_000a4a, 0x000a4e_000a50, 0x000a52_000a58, 0x000a5d_000a5d,
  0x000a5f_000a65, 0x000a77_000a80, 0x000a84_000a84, 0x000a8e_000a8e, 0x000a92_000a92, 0x000aa9_000aa9,
  0x000ab1_000ab1, 0x000ab4_000ab4, 0x000aba_000abb, 0x000ac6_000ac6, 0x000aca_000aca, 0x000ace_000acf,
  0x000ad1_000adf, 0x000ae4_000ae5, 0x000af2_000af8, 0x000b00_000b00, 0x000b04_000b04, 0x000b0d_000b0e,
  0x000b11_000b12, 0x000b29_000b29, 0x000b31_000b31, 0x000b34_000b34, 0x000b3a_000b3b, 0x000b45_000b46,
  0x000b49_000b4a, 0x000b4e_000b54, 0x000b58_000b5b, 0x000b5e_000b5e, 0x000b64_000b65, 0x000b78_000b81,
  0x000b84_000b84, 0x000b8b_000b8d, 0x000b91_000b91, 0x000b96_000b98, 0x000b9b_000b9b, 0x000b9d_000b9d,
  0x000ba0_000ba2, 0x000ba5_000ba7, 0x000bab_000bad, 0x000bba_000bbd, 0x000bc3_000bc5, 0x000bc9_000bc9,
  0x000bce_000bcf, 0x000bd1_000bd6, 0x000bd8_000be5, 0x000bfb_000bff, 0x000c0d_000c0d, 0x000c11_000c11,
  0x000c29_000c29, 0x000c3a_000c3b, 0x000c45_000c45, 0x000c49_000c49, 0x000c4e_000c54, 0x000c57_000c57,
  0x000c5b_000c5b, 0x000c5e_000c5f, 0x000c64_000c65, 0x000c70_000c76, 0x000c8d_000c8d, 0x000c91_000c91,
  0x000ca9_000ca9, 0x000cb4_000cb4, 0x000cba_000cbb, 0x000cc5_000cc5, 0x000cc9_000cc9, 0x000cce_000cd4,
  0x000cd7_000cdb, 0x000cdf_000cdf, 0x000ce4_000ce5, 0x000cf0_000cf0, 0x000cf4_000cff, 0x000d0d_000d0d,
  0x000d11_000d11, 0x000d45_000d45, 0x000d49_000d49, 0x000d50_000d53, 0x000d64_000d65, 0x000d80_000d80,
  0x000d84_000d84, 0x000d97_000d99, 0x000db2_000db2, 0x000dbc_000dbc, 0x000dbe_000dbf, 0x000dc7_000dc9,
  0x000dcb_000dce, 0x000dd5_000dd5, 0x000dd7_000dd7, 0x000de0_000de5, 0x000df0_000df1, 0x000df5_000e00,
  0x000e3b_000e3e, 0x000e5c_000e80, 0x000e83_000e83, 0x000e85_000e85, 0x000e8b_000e8b, 0x000ea4_000ea4,
  0x000ea6_000ea6, 0x000ebe_000ebf, 0x000ec5_000ec5, 0x000ec7_000ec7, 0x000ecf_000ecf, 0x000eda_000edb,
  0x000ee0_000eff, 0x000f48_000f48, 0x000f6d_000f70, 0x000f98_000f98, 0x000fbd_000fbd, 0x000fcd_000fcd,
  0x000fdb_000fff, 0x0010c6_0010c6, 0x0010c8_0010cc, 0x0010ce_0010cf, 0x001249_001249, 0x00124e_00124f,
  0x001257_001257, 0x001259_001259, 0x00125e_00125f, 0x001289_001289, 0x00128e_00128f, 0x0012b1_0012b1,
  0x0012b6_0012b7, 0x0012bf_0012bf, 0x0012c1_0012c1, 0x0012c6_0012c7, 0x0012d7_0012d7, 0x001311_001311,
  0x001316_001317, 0x00135b_00135c, 0x00137d_00137f, 0x00139a_00139f, 0x0013f6_0013f7, 0x0013fe_0013ff,
  0x001680_001680, 0x00169d_00169f, 0x0016f9_0016ff, 0x001716_00171e, 0x001737_00173f, 0x001754_00175f]

/-- Ranges of characters that no name has, packed as first and last code point. Part 2 of 4. -/
def refusedRangesPart2 : List Nat := [
  0x00176d_00176d, 0x001771_001771, 0x001774_00177f, 0x0017de_0017df, 0x0017ea_0017ef, 0x0017fa_0017ff,
  0x00181a_00181f, 0x001879_00187f, 0x0018ab_0018af, 0x0018f6_0018ff, 0x00191f_00191f, 0x00192c_00192f,
  0x00193c_00193f, 0x001941_001943, 0x00196e_00196f, 0x001975_00197f, 0x0019ac_0019af, 0x0019ca_0019cf,
  0x0019db_0019dd, 0x001a1c_001a1d, 0x001a5f_001a5f, 0x001a7d_001a7e, 0x001a8a_001a8f, 0x001a9a_001a9f,
  0x001aae_001aaf, 0x001ade_001adf, 0x001aec_001aff, 0x001b4d_001b4d, 0x001bf4_001bfb, 0x001c38_001c3a,
  0x001c4a_001c4c, 0x001c8b_001c8f, 0x001cbb_001cbc, 0x001cc8_001ccf, 0x001cfb_001cff, 0x001f16_001f17,
  0x001f1e_001f1f, 0x001f46_001f47, 0x001f4e_001f4f, 0x001f58_001f58, 0x001f5a_001f5a, 0x001f5c_001f5c,
  0x001f5e_001f5e, 0x001f7e_001f7f, 0x001fb5_001fb5, 0x001fc5_001fc5, 0x001fd4_001fd5, 0x001fdc_001fdc,
  0x001ff0_001ff1, 0x001ff5_001ff5, 0x001fff_001fff, 0x00200e_00200f, 0x002024_002026, 0x002028_00202e,
  0x002065_002069, 0x002072_002073, 0x00208f_00208f, 0x00209d_00209f, 0x0020c2_0020cf, 0x0020f1_0020ff,
  0x00218c_00218f, 0x00242a_00243f, 0x00244b_00245f, 0x002488_00249b, 0x002b74_002b75, 0x002cf4_002cf8,
  0x002d26_002d26, 0x002d28_002d2c, 0x002d2e_002d2f, 0x002d68_002d6e, 0x002d71_002d7e, 0x002d97_002d9f,
  0x002da7_002da7, 0x002daf_002daf, 0x002db7_002db7, 0x002dbf_002dbf, 0x002dc7_002dc7, 0x002dcf_002dcf,
  0x002dd7_002dd7, 0x002ddf_002ddf, 0x002e5e_002e7f, 0x002e9a_002e9a, 0x002ef4_002eff, 0x002fd6_002fff,
  0x003040_003040, 0x003097_003098, 0x003100_003104, 0x003130_003130, 0x00318f_00318f, 0x0031e6_0031ef,
  0x00321f_00321f, 0x0033c2_0033c2, 0x0033c7_0033c7, 0x0033d8_0033d8, 0x00a48d_00a48f, 0x00a4c7_00a4cf,
  0x00a62c_00a63f, 0x00a6f8_00a6ff, 0x00a7dd_00a7f0, 0x00a82d_00a82f, 0x00a83a_00a83f, 0x00a878_00a87f,
  0x00a8c6_00a8cd, 0x00a8da_00a8df, 0x00a954_00a95e, 0x00a97d_00a97f, 0x00a9ce_00a9ce, 0x00a9da_00a9dd,
  0x00a9ff_00a9ff, 0x00aa37_00aa3f, 0x00aa4e_00aa4f, 0x00aa5a_00aa5b, 0x00aac3_00aada, 0x00aaf7_00ab00,
  0x00ab07_00ab08, 0x00ab0f_00ab10, 0x00ab17_00ab1f, 0x00ab27_00ab27, 0x00ab2f_00ab2f, 0x00ab6c_00ab6f,
  0x00abee_00abef, 0x00abfa_00abff, 0x00d7a4_00d7af, 0x00d7c7_00d7ca, 0x00d7fc_00d7ff, 0x00e000_00f8ff,
  0x00fa6e_00fa6f, 0x00fada_00faff, 0x00fb07_00fb12, 0x00fb18_00fb1c, 0x00fb37_00fb37, 0x00fb3d_00fb3d,
  0x00fb3f_00fb3f, 0x00fb42_00fb42, 0x00fb45_00fb45, 0x00fdd0_00fdef, 0x00fe12_00fe12, 0x00fe19_00fe1f,
  0x00fe30_00fe30, 0x00fe52_00fe53, 0x00fe67_00fe67, 0x00fe6c_00fe6f, 0x00fe75_00fe75, 0x00fefd_00fefe,
  0x00ff00_00ff00, 0x00ffbf_00ffc1, 0x00ffc8_00ffc9, 0x00ffd0_00ffd1, 0x00ffd8_00ffd9, 0x00ffdd_00ffdf,
  0x00ffe7_00ffe7, 0x00ffef_00ffff, 0x01000c_01000c, 0x010027_010027, 0x01003b_01003b, 0x01003e_01003e,
  0x01004e_01004f, 0x01005e_01007f, 0x0100fb_0100ff, 0x010103_010106, 0x010134_010136, 0x01018f_01018f,
  0x01019d_01019f, 0x0101a1_0101cf, 0x0101fe_01027f, 0x01029d_01029f, 0x0102d1_0102df, 0x0102fc_0102ff,
  0x010324_01032c, 0x01034b_01034f, 0x01037b_01037f, 0x01039e_01039e, 0x0103c4_0103c7, 0x0103d6_0103ff,
  0x01049e_01049f, 0x0104aa_0104af, 0x0104d4_0104d7, 0x0104fc_0104ff, 0x010528_01052f, 0x010564_01056e,
  0x01057b_01057b, 0x01058b_01058b, 0x010593_010593, 0x010596_010596, 0x0105a2_0105a2, 0x0105b2_0105b2,
  0x0105ba_0105ba, 0x0105bd_0105bf, 0x0105f4_0105ff, 0x010737_01073f, 0x010756_01075f, 0x010768_01077f]

/-- Ranges of characters that no name has, packed as first and last code point. Part 3 of 4. -/
def refusedRangesPart3 : List Nat := [
  0x010786_010786, 0x0107b1_0107b1, 0x0107bb_0107ff, 0x010806_010807, 0x010809_010809, 0x010836_010836,
  0x010839_01083b, 0x01083d_01083e, 0x010856_010856, 0x01089f_0108a6, 0x0108b0_0108df, 0x0108f3_0108f3,
  0x0108f6_0108fa, 0x01091c_01091e, 0x01093a_01093e, 0x01095a_01097f, 0x0109b8_0109bb, 0x0109d0_0109d1,
  0x010a04_010a04, 0x010a07_010a0b, 0x010a14_010a14, 0x010a18_010a18, 0x010a36_010a37, 0x010a3b_010a3e,
  0x010a49_010a4f, 0x010a59_010a5f, 0x010aa0_010abf, 0x010ae7_010aea, 0x010af7_010aff, 0x010b36_010b38,
  0x010b56_010b57, 0x010b73_010b77, 0x010b92_010b98, 0x010b9d_010ba8, 0x010bb0_010bff, 0x010c49_010c7f,
  0x010cb3_010cbf, 0x010cf3_010cf9, 0x010d28_010d2f, 0x010d3a_010d3f, 0x010d66_010d68, 0x010d86_010d8d,
  0x010d90_010e5f, 0x010e7f_010e7f, 0x010eaa_010eaa, 0x010eae_010eaf, 0x010eb2_010ec1, 0x010ec8_010ecf,
  0x010ed9_010ef9, 0x010f28_010f2f, 0x010f5a_010f6f, 0x010f8a_010faf, 0x010fcc_010fdf, 0x010ff7_010fff,
  0x01104e_011051, 0x011076_01107e, 0x0110bd_0110bd, 0x0110c3_0110cf, 0x0110e9_0110ef, 0x0110fa_0110ff,
  0x011135_011135, 0x011148_01114f, 0x011177_01117f, 0x0111e0_0111e0, 0x0111f5_0111ff, 0x011212_011212,
  0x011242_01127f, 0x011287_011287, 0x011289_011289, 0x01128e_01128e, 0x01129e_01129e, 0x0112aa_0112af,
  0x0112eb_0112ef, 0x0112fa_0112ff, 0x011304_011304, 0x01130d_01130e, 0x011311_011312, 0x011329_011329,
  0x011331_011331, 0x011334_011334, 0x01133a_01133a, 0x011345_011346, 0x011349_01134a, 0x01134e_01134f,
  0x011351_011356, 0x011358_01135c, 0x011364_011365, 0x01136d_01136f, 0x011375_01137f, 0x01138a_01138a,
  0x01138c_01138d, 0x01138f_01138f, 0x0113b6_0113b6, 0x0113c1_0113c1, 0x0113c3_0113c4, 0x0113c6_0113c6,
  0x0113cb_0113cb, 0x0113d6_0113d6, 0x0113d9_0113e0, 0x0113e3_0113ff, 0x01145c_01145c, 0x011462_01147f,
  0x0114c8_0114cf, 0x0114da_01157f, 0x0115b6_0115b7, 0x0115de_0115ff, 0x011645_01164f, 0x01165a_01165f,
  0x01166d_01167f, 0x0116ba_0116bf, 0x0116ca_0116cf, 0x0116e4_0116ff, 0x01171b_01171c, 0x01172c_01172f,
  0x011747_0117ff, 0x01183c_01189f, 0x0118f3_0118fe, 0x011907_011908, 0x01190a_01190b, 0x011914_011914,
  0x011917_011917, 0x011936_011936, 0x011939_01193a, 0x011947_01194f, 0x01195a_01199f, 0x0119a8_0119a9,
  0x0119d8_0119d9, 0x0119e5_0119ff, 0x011a48_011a4f, 0x011aa3_011aaf, 0x011af9_011aff, 0x011b0a_011b5f,
  0x011b68_011bbf, 0x011be2_011bef, 0x011bfa_011bff, 0x011c09_011c09, 0x011c37_011c37, 0x011c46_011c4f,
  0x011c6d_011c6f, 0x011c90_011c91, 0x011ca8_011ca8, 0x011cb7_011cff, 0x011d07_011d07, 0x011d0a_011d0a,
  0x011d37_011d39, 0x011d3b_011d3b, 0x011d3e_011d3e, 0x011d48_011d4f, 0x011d5a_011d5f, 0x011d66_011d66,
  0x011d69_011d69, 0x011d8f_011d8f, 0x011d92_011d92, 0x011d99_011d9f, 0x011daa_011daf, 0x011ddc_011ddf,
  0x011dea_011edf, 0x011ef9_011eff, 0x011f11_011f11, 0x011f3b_011f3d, 0x011f5b_011faf, 0x011fb1_011fbf,
  0x011ff2_011ffe, 0x01239a_0123ff, 0x01246f_01246f, 0x012475_01247f, 0x012544_012f8f, 0x012ff3_012fff,
  0x013430_01343f, 0x013456_01345f, 0x0143fb_0143ff, 0x014647_0160ff, 0x01613a_0167ff, 0x016a39_016a3f,
  0x016a5f_016a5f, 0x016a6a_016a6d, 0x016abf_016abf, 0x016aca_016acf, 0x016aee_016aef, 0x016af6_016aff,
  0x016b46_016b4f, 0x016b5a_016b5a, 0x016b62_016b62, 0x016b78_016b7c, 0x016b90_016d3f, 0x016d7a_016e3f,
  0x016e9b_016e9f, 0x016eb9_016eba, 0x016ed4_016eff, 0x016f4b_016f4e, 0x016f88_016f8e, 0x016fa0_016fdf]

/-- Ranges of characters that no name has, packed as first and last code point. Part 4 of 4. -/
def refusedRangesPart4 : List Nat := [
  0x016fe5_016fef, 0x016ff7_016fff, 0x018cd6_018cfe, 0x018d1f_018d7f, 0x018df3_01afef, 0x01aff4_01aff4,
  0x01affc_01affc, 0x01afff_01afff, 0x01b123_01b131, 0x01b133_01b14f, 0x01b153_01b154, 0x01b156_01b163,
  0x01b168_01b16f, 0x01b2fc_01bbff, 0x01bc6b_01bc6f, 0x01bc7d_01bc7f, 0x01bc89_01bc8f, 0x01bc9a_01bc9b,
  0x01bca4_01cbff, 0x01ccfd_01ccff, 0x01ceb4_01ceb9, 0x01ced1_01cedf, 0x01cef1_01ceff, 0x01cf2e_01cf2f,
  0x01cf47_01cf4f, 0x01cfc4_01cfff, 0x01d0f6_01d0ff, 0x01d127_01d128, 0x01d1eb_01d1ff, 0x01d246_01d2bf,
  0x01d2d4_01d2df, 0x01d2f4_01d2ff, 0x01d357_01d35f, 0x01d379_01d3ff, 0x01d455_01d455, 0x01d49d_01d49d,
  0x01d4a0_01d4a1, 0x01d4a3_01d4a4, 0x01d4a7_01d4a8, 0x01d4ad_01d4ad, 0x01d4ba_01d4ba, 0x01d4bc_01d4bc,
  0x01d4c4_01d4c4, 0x01d506_01d506, 0x01d50b_01d50c, 0x01d515_01d515, 0x01d51d_01d51d, 0x01d53a_01d53a,
  0x01d53f_01d53f, 0x01d545_01d545, 0x01d547_01d549, 0x01d551_01d551, 0x01d6a6_01d6a7, 0x01d7cc_01d7cd,
  0x01da8c_01da9a, 0x01daa0_01daa0, 0x01dab0_01deff, 0x01df1f_01df24, 0x01df2b_01dfff, 0x01e007_01e007,
  0x01e019_01e01a, 0x01e022_01e022, 0x01e025_01e025, 0x01e02b_01e02f, 0x01e06e_01e08e, 0x01e090_01e0ff,
  0x01e12d_01e12f, 0x01e13e_01e13f, 0x01e14a_01e14d, 0x01e150_01e28f, 0x01e2af_01e2bf, 0x01e2fa_01e2fe,
  0x01e300_01e4cf, 0x01e4fa_01e5cf, 0x01e5fb_01e5fe, 0x01e600_01e6bf, 0x01e6df_01e6df, 0x01e6f6_01e6fd,
  0x01e700_01e7df, 0x01e7e7_01e7e7, 0x01e7ec_01e7ec, 0x01e7ef_01e7ef, 0x01e7ff_01e7ff, 0x01e8c5_01e8c6,
  0x01e8d7_01e8ff, 0x01e94c_01e94f, 0x01e95a_01e95d, 0x01e960_01ec70, 0x01ecb5_01ed00, 0x01ed3e_01edff,
  0x01ee04_01ee04, 0x01ee20_01ee20, 0x01ee23_01ee23, 0x01ee25_01ee26, 0x01ee28_01ee28, 0x01ee33_01ee33,
  0x01ee38_01ee38, 0x01ee3a_01ee3a, 0x01ee3c_01ee41, 0x01ee43_01ee46, 0x01ee48_01ee48, 0x01ee4a_01ee4a,
  0x01ee4c_01ee4c, 0x01ee50_01ee50, 0x01ee53_01ee53, 0x01ee55_01ee56, 0x01ee58_01ee58, 0x01ee5a_01ee5a,
  0x01ee5c_01ee5c, 0x01ee5e_01ee5e, 0x01ee60_01ee60, 0x01ee63_01ee63, 0x01ee65_01ee66, 0x01ee6b_01ee6b,
  0x01ee73_01ee73, 0x01ee78_01ee78, 0x01ee7d_01ee7d, 0x01ee7f_01ee7f, 0x01ee8a_01ee8a, 0x01ee9c_01eea0,
  0x01eea4_01eea4, 0x01eeaa_01eeaa, 0x01eebc_01eeef, 0x01eef2_01efff, 0x01f02c_01f02f, 0x01f094_01f09f,
  0x01f0af_01f0b0, 0x01f0c0_01f0c0, 0x01f0d0_01f0d0, 0x01f0f6_01f100, 0x01f1ae_01f1e5, 0x01f203_01f20f,
  0x01f23c_01f23f, 0x01f249_01f24f, 0x01f252_01f25f, 0x01f266_01f2ff, 0x01f6d9_01f6db, 0x01f6ed_01f6ef,
  0x01f6fd_01f6ff, 0x01f7da_01f7df, 0x01f7ec_01f7ef, 0x01f7f1_01f7ff, 0x01f80c_01f80f, 0x01f848_01f84f,
  0x01f85a_01f85f, 0x01f888_01f88f, 0x01f8ae_01f8af, 0x01f8bc_01f8bf, 0x01f8c2_01f8cf, 0x01f8d9_01f8ff,
  0x01fa58_01fa5f, 0x01fa6e_01fa6f, 0x01fa7d_01fa7f, 0x01fa8b_01fa8d, 0x01fac7_01fac7, 0x01fac9_01facc,
  0x01fadd_01fade, 0x01faeb_01faee, 0x01faf9_01faff, 0x01fb93_01fb93, 0x01fbfb_01ffff, 0x02a6e0_02a6ff,
  0x02b81e_02b81f, 0x02ceae_02ceaf, 0x02ebe1_02ebef, 0x02ee5e_02f7ff, 0x02fa1e_02ffff, 0x03134b_03134f,
  0x03347a_0e00ff, 0x0e01f0_10ffff]

/-- Ranges of characters that no name has: those that stand for nothing, those for private use, and those that look
like a dot or like nothing. -/
def refusedRanges : List Nat :=
  refusedRangesPart1 ++ refusedRangesPart2 ++ refusedRangesPart3 ++ refusedRangesPart4

/-- Whether a character is left out of names. -/
def isIgnored (c : Char) : Bool := ignoredRanges.any (Text.inPackedRange c.toNat)

/-- Whether a character is refused in names. -/
def isRefused (c : Char) : Bool := 0x80 ≤ c.toNat && refusedRanges.any (Text.inPackedRange c.toNat)

end QueryGate.Settings.Address
