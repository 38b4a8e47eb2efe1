import QueryGate.Text.Mark
/-!
The direction in which characters are written (Unicode, version 17), as far as it matters to whether a text with both
directions can be read in one way only.
-/
set_option autoImplicit false

namespace QueryGate.Text

/-- How a character takes part in the direction of a text. -/
inductive Direction where
  | leftToRight
  | rightToLeft
  /-- A digit that stands with Arabic letters, or a sign between such digits. -/
  | arabicNumber
  | europeanNumber
  /-- A mark, which goes with what it stands on. -/
  | mark
  | neutral
deriving DecidableEq, Repr

/-- Ranges of characters that are written from right to left, packed. -/
def rightToLeftRanges : List Nat := [
  0x000590_000590, 0x0005be_0005be, 0x0005c0_0005c0, 0x0005c3_0005c3, 0x0005c6_0005c6, 0x0005c8_0005ff,
  0x000608_000608, 0x00060b_00060b, 0x00060d_00060d, 0x00061b_00064a, 0x00066d_00066f, 0x000671_0006d5,
  0x0006e5_0006e6, 0x0006ee_0006ef, 0x0006fa_000710, 0x000712_00072f, 0x00074b_0007a5, 0x0007b1_0007ea,
  0x0007f4_0007f5, 0x0007fa_0007fc, 0x0007fe_000815, 0x00081a_00081a, 0x000824_000824, 0x000828_000828,
  0x00082e_000858, 0x00085c_00088f, 0x000892_000896, 0x0008a0_0008c9, 0x00200f_00200f, 0x00fb1d_00fb1d,
  0x00fb1f_00fb28, 0x00fb2a_00fbc2, 0x00fbd3_00fd3d, 0x00fd50_00fd8f, 0x00fd92_00fdc7, 0x00fdf0_00fdfc,
  0x00fe70_00fefe, 0x010800_01091e, 0x010920_010a00, 0x010a04_010a04, 0x010a07_010a0b, 0x010a10_010a37,
  0x010a3b_010a3e, 0x010a40_010ae4, 0x010ae7_010b38, 0x010b40_010d23, 0x010d28_010d2f, 0x010d3a_010d3f,
  0x010d4a_010d68, 0x010d6f_010e5f, 0x010e7f_010eaa, 0x010ead_010ecf, 0x010ed9_010ef9, 0x010f00_010f45,
  0x010f51_010f81, 0x010f86_010fff, 0x01e800_01e8cf, 0x01e8d7_01e943, 0x01e94b_01eeef, 0x01eef2_01efff]

/-- Ranges of Arabic numbers, packed. -/
def arabicNumberRanges : List Nat := [
  0x000600_000605, 0x000660_000669, 0x00066b_00066c, 0x0006dd_0006dd, 0x000890_000891, 0x0008e2_0008e2,
  0x010d30_010d39, 0x010d40_010d49, 0x010e60_010e7e]

/-- Ranges of European numbers, packed. -/
def europeanNumberRanges : List Nat := [
  0x000030_000039, 0x0000b2_0000b3, 0x0000b9_0000b9, 0x0006f0_0006f9, 0x002070_002070, 0x002074_002079,
  0x002080_002089, 0x002488_00249b, 0x00ff10_00ff19, 0x0102e1_0102fb, 0x01ccf0_01ccf9, 0x01d7ce_01d7ff,
  0x01f100_01f10a, 0x01fbf0_01fbf9]

/-- Ranges of characters without a direction, packed. -/
def neutralRanges : List Nat := [
  0x000000_00002f, 0x00003a_000040, 0x00005b_000060, 0x00007b_0000a9, 0x0000ab_0000b1, 0x0000b4_0000b4,
  0x0000b6_0000b8, 0x0000bb_0000bf, 0x0000d7_0000d7, 0x0000f7_0000f7, 0x0002b9_0002ba, 0x0002c2_0002cf,
  0x0002d2_0002df, 0x0002e5_0002ed, 0x0002ef_0002ff, 0x000374_000375, 0x00037e_00037e, 0x000384_000385,
  0x000387_000387, 0x0003f6_0003f6, 0x00058a_00058a, 0x00058d_00058f, 0x000606_000607, 0x000609_00060a,
  0x00060c_00060c, 0x00060e_00060f, 0x00066a_00066a, 0x0006de_0006de, 0x0006e9_0006e9, 0x0007f6_0007f9,
  0x0009f2_0009f3, 0x0009fb_0009fb, 0x000af1_000af1, 0x000bf3_000bfa, 0x000c78_000c7e, 0x000e3f_000e3f,
  0x000f3a_000f3d, 0x001390_001399, 0x001400_001400, 0x001680_001680, 0x00169b_00169c, 0x0017db_0017db,
  0x0017f0_0017f9, 0x001800_00180a, 0x00180e_00180e, 0x001940_001940, 0x001944_001945, 0x0019de_0019ff,
  0x001fbd_001fbd, 0x001fbf_001fc1, 0x001fcd_001fcf, 0x001fdd_001fdf, 0x001fed_001fef, 0x001ffd_001ffe,
  0x002000_00200d, 0x002010_00206f, 0x00207a_00207e, 0x00208a_00208e, 0x0020a0_0020cf, 0x002100_002101,
  0x002103_002106, 0x002108_002109, 0x002114_002114, 0x002116_002118, 0x00211e_002123, 0x002125_002125,
  0x002127_002127, 0x002129_002129, 0x00212e_00212e, 0x00213a_00213b, 0x002140_002144, 0x00214a_00214d,
  0x002150_00215f, 0x002189_00218b, 0x002190_002335, 0x00237b_002394, 0x002396_002429, 0x002440_00244a,
  0x002460_002487, 0x0024ea_0026ab, 0x0026ad_0027ff, 0x002900_002b73, 0x002b76_002bff, 0x002ce5_002cea,
  0x002cf9_002cff, 0x002e00_002e5d, 0x002e80_002e99, 0x002e9b_002ef3, 0x002f00_002fd5, 0x002ff0_003004,
  0x003008_003020, 0x003030_003030, 0x003036_003037, 0x00303d_00303f, 0x00309b_00309c, 0x0030a0_0030a0,
  0x0030fb_0030fb, 0x0031c0_0031e5, 0x0031ef_0031ef, 0x00321d_00321e, 0x003250_00325f, 0x00327c_00327e,
  0x0032b1_0032bf, 0x0032cc_0032cf, 0x003377_00337a, 0x0033de_0033df, 0x0033ff_0033ff, 0x004dc0_004dff,
  0x00a490_00a4c6, 0x00a60d_00a60f, 0x00a673_00a673, 0x00a67e_00a67f, 0x00a700_00a721, 0x00a788_00a788,
  0x00a828_00a82b, 0x00a838_00a839, 0x00a874_00a877, 0x00ab6a_00ab6b, 0x00fb29_00fb29, 0x00fbc3_00fbd2,
  0x00fd3e_00fd4f, 0x00fd90_00fd91, 0x00fdc8_00fdef, 0x00fdfd_00fdff, 0x00fe10_00fe19, 0x00fe30_00fe52,
  0x00fe54_00fe66, 0x00fe68_00fe6b, 0x00feff_00feff, 0x00ff01_00ff0f, 0x00ff1a_00ff20, 0x00ff3b_00ff40,
  0x00ff5b_00ff65, 0x00ffe0_00ffe6, 0x00ffe8_00ffee, 0x00fff0_00ffff, 0x010101_010101, 0x010140_01018c,
  0x010190_01019c, 0x0101a0_0101a0, 0x01091f_01091f, 0x010b39_010b3f, 0x010d6e_010d6e, 0x010ed0_010ed8,
  0x011052_011065, 0x011660_01166c, 0x011fd5_011ff1, 0x016fe2_016fe2, 0x01bca0_01bca3, 0x01cc00_01ccd5,
  0x01ccfa_01ccfc, 0x01cd00_01ceb3, 0x01ceba_01ced0, 0x01cee0_01cef0, 0x01d173_01d17a, 0x01d1e9_01d1ea,
  0x01d200_01d241, 0x01d245_01d245, 0x01d300_01d356, 0x01d6c1_01d6c1, 0x01d6db_01d6db, 0x01d6fb_01d6fb,
  0x01d715_01d715, 0x01d735_01d735, 0x01d74f_01d74f, 0x01d76f_01d76f, 0x01d789_01d789, 0x01d7a9_01d7a9,
  0x01d7c3_01d7c3, 0x01e2ff_01e2ff, 0x01eef0_01eef1, 0x01f000_01f02b, 0x01f030_01f093, 0x01f0a0_01f0ae,
  0x01f0b1_01f0bf, 0x01f0c1_01f0cf, 0x01f0d1_01f0f5, 0x01f10b_01f10f, 0x01f12f_01f12f, 0x01f16a_01f16f,
  0x01f1ad_01f1ad, 0x01f260_01f265, 0x01f300_01f6d8, 0x01f6dc_01f6ec, 0x01f6f0_01f6fc, 0x01f700_01f7d9,
  0x01f7e0_01f7eb, 0x01f7f0_01f7f0, 0x01f800_01f80b, 0x01f810_01f847, 0x01f850_01f859, 0x01f860_01f887,
  0x01f890_01f8ad, 0x01f8b0_01f8bb, 0x01f8c0_01f8c1, 0x01f8d0_01f8d8, 0x01f900_01fa57, 0x01fa60_01fa6d,
  0x01fa70_01fa7c, 0x01fa80_01fa8a, 0x01fa8e_01fac6, 0x01fac8_01fac8, 0x01facd_01fadc, 0x01fadf_01faea,
  0x01faef_01faf8, 0x01fb00_01fb92, 0x01fb94_01fbef, 0x01fbfa_01fbfa, 0x01fffe_01ffff, 0x02fffe_02ffff,
  0x03fffe_03ffff, 0x04fffe_04ffff, 0x05fffe_05ffff, 0x06fffe_06ffff, 0x07fffe_07ffff, 0x08fffe_08ffff,
  0x09fffe_09ffff, 0x0afffe_0affff, 0x0bfffe_0bffff, 0x0cfffe_0cffff, 0x0dfffe_0e00ff, 0x0e01f0_0e0fff,
  0x0efffe_0effff, 0x0ffffe_0fffff, 0x10fffe_10ffff]

/-- Ranges of marks that have the direction of a letter, packed. -/
def spokenMarkRanges : List Nat := [
  0x000cbf_000cbf, 0x000cc6_000cc6, 0x011a07_011a08, 0x011c3f_011c3f]

/-- How a character takes part in the direction of a text. -/
def directionOf (c : Char) : Direction :=
  let among := fun ranges : List Nat => ranges.any (inPackedRange c.toNat)
  if among rightToLeftRanges then .rightToLeft
  else if among arabicNumberRanges then .arabicNumber
  else if among europeanNumberRanges then .europeanNumber
  else if among neutralRanges then .neutral
  else if isNonspacing c && !among spokenMarkRanges then .mark
  else .leftToRight

end QueryGate.Text
