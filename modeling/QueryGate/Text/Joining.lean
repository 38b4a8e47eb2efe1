import QueryGate.Text.Mark
/-!
How the letters of cursive scripts join (Unicode, version 17): to the one that follows, to the one before, or to both.
-/
set_option autoImplicit false

namespace QueryGate.Text

/-- Ranges of letters that join the following one, packed. -/
def joinsNextRanges : List Nat := [
  0x000620_000620, 0x000626_000626, 0x000628_000628, 0x00062a_00062e, 0x000633_00063f, 0x000641_000647,
  0x000649_00064a, 0x00066e_00066f, 0x000678_000687, 0x00069a_0006bf, 0x0006c1_0006c2, 0x0006cc_0006cc,
  0x0006ce_0006ce, 0x0006d0_0006d1, 0x0006fa_0006fc, 0x0006ff_0006ff, 0x000712_000714, 0x00071a_00071d,
  0x00071f_000727, 0x000729_000729, 0x00072b_00072b, 0x00072d_00072e, 0x00074e_000758, 0x00075c_00076a,
  0x00076d_000770, 0x000772_000772, 0x000775_000777, 0x00077a_00077f, 0x0007ca_0007ea, 0x000841_000845,
  0x000848_000848, 0x00084a_000853, 0x000855_000855, 0x000860_000860, 0x000862_000865, 0x000868_000868,
  0x000886_000886, 0x000889_00088d, 0x00088f_00088f, 0x0008a0_0008a9, 0x0008af_0008b0, 0x0008b3_0008b8,
  0x0008ba_0008c8, 0x001807_001807, 0x001820_001878, 0x001887_0018a8, 0x0018aa_0018aa, 0x00a840_00a872,
  0x010ac0_010ac4, 0x010acd_010acd, 0x010ad3_010adc, 0x010ade_010ae0, 0x010aeb_010aee, 0x010b80_010b80,
  0x010b82_010b82, 0x010b86_010b88, 0x010b8a_010b8b, 0x010b8d_010b8d, 0x010b90_010b90, 0x010bad_010bae,
  0x010d00_010d21, 0x010d23_010d23, 0x010ec3_010ec4, 0x010ec6_010ec7, 0x010f30_010f32, 0x010f34_010f44,
  0x010f51_010f53, 0x010f70_010f73, 0x010f76_010f81, 0x010fb0_010fb0, 0x010fb2_010fb3, 0x010fb8_010fb8,
  0x010fbb_010fbc, 0x010fbe_010fbf, 0x010fc1_010fc1, 0x010fc4_010fc4, 0x010fca_010fcb, 0x01e900_01e943]

/-- Ranges of letters that join the one before, packed. -/
def joinsPreviousRanges : List Nat := [
  0x000620_000620, 0x000622_00063f, 0x000641_00064a, 0x00066e_00066f, 0x000671_000673, 0x000675_0006d3,
  0x0006d5_0006d5, 0x0006ee_0006ef, 0x0006fa_0006fc, 0x0006ff_0006ff, 0x000710_000710, 0x000712_00072f,
  0x00074d_00077f, 0x0007ca_0007ea, 0x000840_000858, 0x000860_000860, 0x000862_000865, 0x000867_00086a,
  0x000870_000882, 0x000886_000886, 0x000889_00088f, 0x0008a0_0008ac, 0x0008ae_0008c8, 0x001807_001807,
  0x001820_001878, 0x001887_0018a8, 0x0018aa_0018aa, 0x00a840_00a871, 0x010ac0_010ac5, 0x010ac7_010ac7,
  0x010ac9_010aca, 0x010ace_010ad6, 0x010ad8_010ae1, 0x010ae4_010ae4, 0x010aeb_010aef, 0x010b80_010b91,
  0x010ba9_010bae, 0x010d01_010d23, 0x010ec2_010ec4, 0x010ec6_010ec7, 0x010f30_010f44, 0x010f51_010f54,
  0x010f70_010f81, 0x010fb0_010fb0, 0x010fb2_010fb6, 0x010fb8_010fbf, 0x010fc1_010fc4, 0x010fc9_010fca,
  0x01e900_01e943]

/-- Whether a letter joins the following one. -/
def joinsNext (c : Char) : Bool := joinsNextRanges.any (inPackedRange c.toNat)

/-- Whether a letter joins the one before. -/
def joinsPrevious (c : Char) : Bool := joinsPreviousRanges.any (inPackedRange c.toNat)

/-- Whether letters join across a character: marks, and one letter that is written like a mark. -/
def isTransparent (c : Char) : Bool := isNonspacing c || c.toNat = 0x1e94b

end QueryGate.Text
