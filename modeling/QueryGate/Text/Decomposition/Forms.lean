/-!
Decompositions of presentation forms, half-width and full-width characters, from U+A000 to U+FFFF.
-/
set_option autoImplicit false

namespace QueryGate.Text.Decomposition

/-- The decompositions of U+A600 to U+A6FF. -/
def pageA6 : List Nat :=
  [
    0x00044a_00a69c, 0x00044c_00a69d]

/-- The decompositions of U+A700 to U+A7FF. -/
def pageA7 : List Nat :=
  [
    0x00a76f_00a770, 0x000053_00a7f1, 0x000043_00a7f2, 0x000046_00a7f3, 0x000051_00a7f4, 0x000126_00a7f8,
    0x000153_00a7f9]

/-- The decompositions of U+AB00 to U+ABFF. -/
def pageAB : List Nat :=
  [
    0x00a727_00ab5c, 0x00ab37_00ab5d, 0x00026b_00ab5e, 0x00ab52_00ab5f, 0x00028d_00ab69]

/-- The decompositions of U+FB00 to U+FBFF. -/
def pageFB : List Nat :=
  [
    0x000066_000066_00fb00, 0x000066_000069_00fb01, 0x000066_00006c_00fb02, 0x000066_000066_000069_00fb03,
    0x000066_000066_00006c_00fb04, 0x000073_000074_00fb05, 0x000073_000074_00fb06, 0x000574_000576_00fb13,
    0x000574_000565_00fb14, 0x000574_00056b_00fb15, 0x00057e_000576_00fb16, 0x000574_00056d_00fb17,
    0x0005d9_0005b4_00fb1d, 0x0005f2_0005b7_00fb1f, 0x0005e2_00fb20, 0x0005d0_00fb21, 0x0005d3_00fb22,
    0x0005d4_00fb23, 0x0005e8_00fb27, 0x0005ea_00fb28, 0x00002b_00fb29, 0x0005e9_0005c1_00fb2a,
    0x0005e9_0005c2_00fb2b, 0x0005e9_0005bc_0005c1_00fb2c, 0x0005e9_0005bc_0005c2_00fb2d,
    0x0005d0_0005b7_00fb2e, 0x0005d0_0005b8_00fb2f, 0x0005d0_0005bc_00fb30, 0x0005d1_0005bc_00fb31,
    0x0005d2_0005bc_00fb32, 0x0005d3_0005bc_00fb33, 0x0005d4_0005bc_00fb34, 0x0005d5_0005bc_00fb35,
    0x0005d6_0005bc_00fb36, 0x0005d8_0005bc_00fb38, 0x0005d9_0005bc_00fb39, 0x0005da_0005bc_00fb3a,
    0x0005db_0005bc_00fb3b, 0x0005dc_0005bc_00fb3c, 0x0005de_0005bc_00fb3e, 0x0005e0_0005bc_00fb40,
    0x0005e1_0005bc_00fb41, 0x0005e3_0005bc_00fb43, 0x0005e4_0005bc_00fb44, 0x0005e6_0005bc_00fb46,
    0x0005e7_0005bc_00fb47, 0x0005e8_0005bc_00fb48, 0x0005e9_0005bc_00fb49, 0x0005ea_0005bc_00fb4a,
    0x0005d5_0005b9_00fb4b, 0x0005d1_0005bf_00fb4c, 0x0005db_0005bf_00fb4d, 0x0005e4_0005bf_00fb4e,
    0x0005d0_0005dc_00fb4f, 0x000671_00fb50, 0x000671_00fb51, 0x00067b_00fb52, 0x00067b_00fb53,
    0x00067b_00fb54, 0x00067b_00fb55, 0x00067e_00fb56, 0x00067e_00fb57, 0x00067e_00fb58, 0x00067e_00fb59,
    0x000680_00fb5a, 0x000680_00fb5b, 0x000680_00fb5c, 0x000680_00fb5d, 0x00067a_00fb5e, 0x00067a_00fb5f,
    0x00067a_00fb60, 0x00067a_00fb61, 0x00067f_00fb62, 0x00067f_00fb63, 0x00067f_00fb64, 0x00067f_00fb65,
    0x000679_00fb66, 0x000679_00fb67, 0x000679_00fb68, 0x000679_00fb69, 0x0006a4_00fb6a, 0x0006a4_00fb6b,
    0x0006a4_00fb6c, 0x0006a4_00fb6d, 0x0006a6_00fb6e, 0x0006a6_00fb6f, 0x0006a6_00fb70, 0x0006a6_00fb71,
    0x000684_00fb72, 0x000684_00fb73, 0x000684_00fb74, 0x000684_00fb75, 0x000683_00fb76, 0x000683_00fb77,
    0x000683_00fb78, 0x000683_00fb79, 0x000686_00fb7a, 0x000686_00fb7b, 0x000686_00fb7c, 0x000686_00fb7d,
    0x000687_00fb7e, 0x000687_00fb7f, 0x000687_00fb80, 0x000687_00fb81, 0x00068d_00fb82, 0x00068d_00fb83,
    0x00068c_00fb84, 0x00068c_00fb85, 0x00068e_00fb86, 0x00068e_00fb87, 0x000688_00fb88, 0x000688_00fb89,
    0x000698_00fb8a, 0x000698_00fb8b, 0x000691_00fb8c, 0x000691_00fb8d, 0x0006a9_00fb8e, 0x0006a9_00fb8f,
    0x0006a9_00fb90, 0x0006a9_00fb91, 0x0006af_00fb92, 0x0006af_00fb93, 0x0006af_00fb94, 0x0006af_00fb95,
    0x0006b3_00fb96, 0x0006b3_00fb97, 0x0006b3_00fb98, 0x0006b3_00fb99, 0x0006b1_00fb9a, 0x0006b1_00fb9b,
    0x0006b1_00fb9c, 0x0006b1_00fb9d, 0x0006ba_00fb9e, 0x0006ba_00fb9f, 0x0006bb_00fba0, 0x0006bb_00fba1,
    0x0006bb_00fba2, 0x0006bb_00fba3, 0x0006d5_000654_00fba4, 0x0006d5_000654_00fba5, 0x0006c1_00fba6,
    0x0006c1_00fba7, 0x0006c1_00fba8, 0x0006c1_00fba9, 0x0006be_00fbaa, 0x0006be_00fbab, 0x0006be_00fbac,
    0x0006be_00fbad, 0x0006d2_00fbae, 0x0006d2_00fbaf, 0x0006d2_000654_00fbb0, 0x0006d2_000654_00fbb1,
    0x0006ad_00fbd3, 0x0006ad_00fbd4, 0x0006ad_00fbd5, 0x0006ad_00fbd6, 0x0006c7_00fbd7, 0x0006c7_00fbd8,
    0x0006c6_00fbd9, 0x0006c6_00fbda, 0x0006c8_00fbdb, 0x0006c8_00fbdc, 0x0006c7_000674_00fbdd,
    0x0006cb_00fbde, 0x0006cb_00fbdf, 0x0006c5_00fbe0, 0x0006c5_00fbe1, 0x0006c9_00fbe2, 0x0006c9_00fbe3,
    0x0006d0_00fbe4, 0x0006d0_00fbe5, 0x0006d0_00fbe6, 0x0006d0_00fbe7, 0x000649_00fbe8, 0x000649_00fbe9,
    0x00064a_000654_000627_00fbea, 0x00064a_000654_000627_00fbeb, 0x00064a_000654_0006d5_00fbec,
    0x00064a_000654_0006d5_00fbed, 0x00064a_000654_000648_00fbee, 0x00064a_000654_000648_00fbef,
    0x00064a_000654_0006c7_00fbf0, 0x00064a_000654_0006c7_00fbf1, 0x00064a_000654_0006c6_00fbf2,
    0x00064a_000654_0006c6_00fbf3, 0x00064a_000654_0006c8_00fbf4, 0x00064a_000654_0006c8_00fbf5,
    0x00064a_000654_0006d0_00fbf6, 0x00064a_000654_0006d0_00fbf7, 0x00064a_000654_0006d0_00fbf8,
    0x00064a_000654_000649_00fbf9, 0x00064a_000654_000649_00fbfa, 0x00064a_000654_000649_00fbfb,
    0x0006cc_00fbfc, 0x0006cc_00fbfd, 0x0006cc_00fbfe, 0x0006cc_00fbff]

/-- The decompositions of U+FC00 to U+FCFF. -/
def pageFC : List Nat :=
  [
    0x00064a_000654_00062c_00fc00, 0x00064a_000654_00062d_00fc01, 0x00064a_000654_000645_00fc02,
    0x00064a_000654_000649_00fc03, 0x00064a_000654_00064a_00fc04, 0x000628_00062c_00fc05,
    0x000628_00062d_00fc06, 0x000628_00062e_00fc07, 0x000628_000645_00fc08, 0x000628_000649_00fc09,
    0x000628_00064a_00fc0a, 0x00062a_00062c_00fc0b, 0x00062a_00062d_00fc0c, 0x00062a_00062e_00fc0d,
    0x00062a_000645_00fc0e, 0x00062a_000649_00fc0f, 0x00062a_00064a_00fc10, 0x00062b_00062c_00fc11,
    0x00062b_000645_00fc12, 0x00062b_000649_00fc13, 0x00062b_00064a_00fc14, 0x00062c_00062d_00fc15,
    0x00062c_000645_00fc16, 0x00062d_00062c_00fc17, 0x00062d_000645_00fc18, 0x00062e_00062c_00fc19,
    0x00062e_00062d_00fc1a, 0x00062e_000645_00fc1b, 0x000633_00062c_00fc1c, 0x000633_00062d_00fc1d,
    0x000633_00062e_00fc1e, 0x000633_000645_00fc1f, 0x000635_00062d_00fc20, 0x000635_000645_00fc21,
    0x000636_00062c_00fc22, 0x000636_00062d_00fc23, 0x000636_00062e_00fc24, 0x000636_000645_00fc25,
    0x000637_00062d_00fc26, 0x000637_000645_00fc27, 0x000638_000645_00fc28, 0x000639_00062c_00fc29,
    0x000639_000645_00fc2a, 0x00063a_00062c_00fc2b, 0x00063a_000645_00fc2c, 0x000641_00062c_00fc2d,
    0x000641_00062d_00fc2e, 0x000641_00062e_00fc2f, 0x000641_000645_00fc30, 0x000641_000649_00fc31,
    0x000641_00064a_00fc32, 0x000642_00062d_00fc33, 0x000642_000645_00fc34, 0x000642_000649_00fc35,
    0x000642_00064a_00fc36, 0x000643_000627_00fc37, 0x000643_00062c_00fc38, 0x000643_00062d_00fc39,
    0x000643_00062e_00fc3a, 0x000643_000644_00fc3b, 0x000643_000645_00fc3c, 0x000643_000649_00fc3d,
    0x000643_00064a_00fc3e, 0x000644_00062c_00fc3f, 0x000644_00062d_00fc40, 0x000644_00062e_00fc41,
    0x000644_000645_00fc42, 0x000644_000649_00fc43, 0x000644_00064a_00fc44, 0x000645_00062c_00fc45,
    0x000645_00062d_00fc46, 0x000645_00062e_00fc47, 0x000645_000645_00fc48, 0x000645_000649_00fc49,
    0x000645_00064a_00fc4a, 0x000646_00062c_00fc4b, 0x000646_00062d_00fc4c, 0x000646_00062e_00fc4d,
    0x000646_000645_00fc4e, 0x000646_000649_00fc4f, 0x000646_00064a_00fc50, 0x000647_00062c_00fc51,
    0x000647_000645_00fc52, 0x000647_000649_00fc53, 0x000647_00064a_00fc54, 0x00064a_00062c_00fc55,
    0x00064a_00062d_00fc56, 0x00064a_00062e_00fc57, 0x00064a_000645_00fc58, 0x00064a_000649_00fc59,
    0x00064a_00064a_00fc5a, 0x000630_000670_00fc5b, 0x000631_000670_00fc5c, 0x000649_000670_00fc5d,
    0x000020_00064c_000651_00fc5e, 0x000020_00064d_000651_00fc5f, 0x000020_00064e_000651_00fc60,
    0x000020_00064f_000651_00fc61, 0x000020_000650_000651_00fc62, 0x000020_000651_000670_00fc63,
    0x00064a_000654_000631_00fc64, 0x00064a_000654_000632_00fc65, 0x00064a_000654_000645_00fc66,
    0x00064a_000654_000646_00fc67, 0x00064a_000654_000649_00fc68, 0x00064a_000654_00064a_00fc69,
    0x000628_000631_00fc6a, 0x000628_000632_00fc6b, 0x000628_000645_00fc6c, 0x000628_000646_00fc6d,
    0x000628_000649_00fc6e, 0x000628_00064a_00fc6f, 0x00062a_000631_00fc70, 0x00062a_000632_00fc71,
    0x00062a_000645_00fc72, 0x00062a_000646_00fc73, 0x00062a_000649_00fc74, 0x00062a_00064a_00fc75,
    0x00062b_000631_00fc76, 0x00062b_000632_00fc77, 0x00062b_000645_00fc78, 0x00062b_000646_00fc79,
    0x00062b_000649_00fc7a, 0x00062b_00064a_00fc7b, 0x000641_000649_00fc7c, 0x000641_00064a_00fc7d,
    0x000642_000649_00fc7e, 0x000642_00064a_00fc7f, 0x000643_000627_00fc80, 0x000643_000644_00fc81,
    0x000643_000645_00fc82, 0x000643_000649_00fc83, 0x000643_00064a_00fc84, 0x000644_000645_00fc85,
    0x000644_000649_00fc86, 0x000644_00064a_00fc87, 0x000645_000627_00fc88, 0x000645_000645_00fc89,
    0x000646_000631_00fc8a, 0x000646_000632_00fc8b, 0x000646_000645_00fc8c, 0x000646_000646_00fc8d,
    0x000646_000649_00fc8e, 0x000646_00064a_00fc8f, 0x000649_000670_00fc90, 0x00064a_000631_00fc91,
    0x00064a_000632_00fc92, 0x00064a_000645_00fc93, 0x00064a_000646_00fc94, 0x00064a_000649_00fc95,
    0x00064a_00064a_00fc96, 0x00064a_000654_00062c_00fc97, 0x00064a_000654_00062d_00fc98,
    0x00064a_000654_00062e_00fc99, 0x00064a_000654_000645_00fc9a, 0x00064a_000654_000647_00fc9b,
    0x000628_00062c_00fc9c, 0x000628_00062d_00fc9d, 0x000628_00062e_00fc9e, 0x000628_000645_00fc9f,
    0x000628_000647_00fca0, 0x00062a_00062c_00fca1, 0x00062a_00062d_00fca2, 0x00062a_00062e_00fca3,
    0x00062a_000645_00fca4, 0x00062a_000647_00fca5, 0x00062b_000645_00fca6, 0x00062c_00062d_00fca7,
    0x00062c_000645_00fca8, 0x00062d_00062c_00fca9, 0x00062d_000645_00fcaa, 0x00062e_00062c_00fcab,
    0x00062e_000645_00fcac, 0x000633_00062c_00fcad, 0x000633_00062d_00fcae, 0x000633_00062e_00fcaf,
    0x000633_000645_00fcb0, 0x000635_00062d_00fcb1, 0x000635_00062e_00fcb2, 0x000635_000645_00fcb3,
    0x000636_00062c_00fcb4, 0x000636_00062d_00fcb5, 0x000636_00062e_00fcb6, 0x000636_000645_00fcb7,
    0x000637_00062d_00fcb8, 0x000638_000645_00fcb9, 0x000639_00062c_00fcba, 0x000639_000645_00fcbb,
    0x00063a_00062c_00fcbc, 0x00063a_000645_00fcbd, 0x000641_00062c_00fcbe, 0x000641_00062d_00fcbf,
    0x000641_00062e_00fcc0, 0x000641_000645_00fcc1, 0x000642_00062d_00fcc2, 0x000642_000645_00fcc3,
    0x000643_00062c_00fcc4, 0x000643_00062d_00fcc5, 0x000643_00062e_00fcc6, 0x000643_000644_00fcc7,
    0x000643_000645_00fcc8, 0x000644_00062c_00fcc9, 0x000644_00062d_00fcca, 0x000644_00062e_00fccb,
    0x000644_000645_00fccc, 0x000644_000647_00fccd, 0x000645_00062c_00fcce, 0x000645_00062d_00fccf,
    0x000645_00062e_00fcd0, 0x000645_000645_00fcd1, 0x000646_00062c_00fcd2, 0x000646_00062d_00fcd3,
    0x000646_00062e_00fcd4, 0x000646_000645_00fcd5, 0x000646_000647_00fcd6, 0x000647_00062c_00fcd7,
    0x000647_000645_00fcd8, 0x000647_000670_00fcd9, 0x00064a_00062c_00fcda, 0x00064a_00062d_00fcdb,
    0x00064a_00062e_00fcdc, 0x00064a_000645_00fcdd, 0x00064a_000647_00fcde, 0x00064a_000654_000645_00fcdf,
    0x00064a_000654_000647_00fce0, 0x000628_000645_00fce1, 0x000628_000647_00fce2, 0x00062a_000645_00fce3,
    0x00062a_000647_00fce4, 0x00062b_000645_00fce5, 0x00062b_000647_00fce6, 0x000633_000645_00fce7,
    0x000633_000647_00fce8, 0x000634_000645_00fce9, 0x000634_000647_00fcea, 0x000643_000644_00fceb,
    0x000643_000645_00fcec, 0x000644_000645_00fced, 0x000646_000645_00fcee, 0x000646_000647_00fcef,
    0x00064a_000645_00fcf0, 0x00064a_000647_00fcf1, 0x000640_00064e_000651_00fcf2,
    0x000640_00064f_000651_00fcf3, 0x000640_000650_000651_00fcf4, 0x000637_000649_00fcf5,
    0x000637_00064a_00fcf6, 0x000639_000649_00fcf7, 0x000639_00064a_00fcf8, 0x00063a_000649_00fcf9,
    0x00063a_00064a_00fcfa, 0x000633_000649_00fcfb, 0x000633_00064a_00fcfc, 0x000634_000649_00fcfd,
    0x000634_00064a_00fcfe, 0x00062d_000649_00fcff]

/-- The decompositions of U+FD00 to U+FDFF. -/
def pageFD : List Nat :=
  [
    0x00062d_00064a_00fd00, 0x00062c_000649_00fd01, 0x00062c_00064a_00fd02, 0x00062e_000649_00fd03,
    0x00062e_00064a_00fd04, 0x000635_000649_00fd05, 0x000635_00064a_00fd06, 0x000636_000649_00fd07,
    0x000636_00064a_00fd08, 0x000634_00062c_00fd09, 0x000634_00062d_00fd0a, 0x000634_00062e_00fd0b,
    0x000634_000645_00fd0c, 0x000634_000631_00fd0d, 0x000633_000631_00fd0e, 0x000635_000631_00fd0f,
    0x000636_000631_00fd10, 0x000637_000649_00fd11, 0x000637_00064a_00fd12, 0x000639_000649_00fd13,
    0x000639_00064a_00fd14, 0x00063a_000649_00fd15, 0x00063a_00064a_00fd16, 0x000633_000649_00fd17,
    0x000633_00064a_00fd18, 0x000634_000649_00fd19, 0x000634_00064a_00fd1a, 0x00062d_000649_00fd1b,
    0x00062d_00064a_00fd1c, 0x00062c_000649_00fd1d, 0x00062c_00064a_00fd1e, 0x00062e_000649_00fd1f,
    0x00062e_00064a_00fd20, 0x000635_000649_00fd21, 0x000635_00064a_00fd22, 0x000636_000649_00fd23,
    0x000636_00064a_00fd24, 0x000634_00062c_00fd25, 0x000634_00062d_00fd26, 0x000634_00062e_00fd27,
    0x000634_000645_00fd28, 0x000634_000631_00fd29, 0x000633_000631_00fd2a, 0x000635_000631_00fd2b,
    0x000636_000631_00fd2c, 0x000634_00062c_00fd2d, 0x000634_00062d_00fd2e, 0x000634_00062e_00fd2f,
    0x000634_000645_00fd30, 0x000633_000647_00fd31, 0x000634_000647_00fd32, 0x000637_000645_00fd33,
    0x000633_00062c_00fd34, 0x000633_00062d_00fd35, 0x000633_00062e_00fd36, 0x000634_00062c_00fd37,
    0x000634_00062d_00fd38, 0x000634_00062e_00fd39, 0x000637_000645_00fd3a, 0x000638_000645_00fd3b,
    0x000627_00064b_00fd3c, 0x000627_00064b_00fd3d, 0x00062a_00062c_000645_00fd50,
    0x00062a_00062d_00062c_00fd51, 0x00062a_00062d_00062c_00fd52, 0x00062a_00062d_000645_00fd53,
    0x00062a_00062e_000645_00fd54, 0x00062a_000645_00062c_00fd55, 0x00062a_000645_00062d_00fd56,
    0x00062a_000645_00062e_00fd57, 0x00062c_000645_00062d_00fd58, 0x00062c_000645_00062d_00fd59,
    0x00062d_000645_00064a_00fd5a, 0x00062d_000645_000649_00fd5b, 0x000633_00062d_00062c_00fd5c,
    0x000633_00062c_00062d_00fd5d, 0x000633_00062c_000649_00fd5e, 0x000633_000645_00062d_00fd5f,
    0x000633_000645_00062d_00fd60, 0x000633_000645_00062c_00fd61, 0x000633_000645_000645_00fd62,
    0x000633_000645_000645_00fd63, 0x000635_00062d_00062d_00fd64, 0x000635_00062d_00062d_00fd65,
    0x000635_000645_000645_00fd66, 0x000634_00062d_000645_00fd67, 0x000634_00062d_000645_00fd68,
    0x000634_00062c_00064a_00fd69, 0x000634_000645_00062e_00fd6a, 0x000634_000645_00062e_00fd6b,
    0x000634_000645_000645_00fd6c, 0x000634_000645_000645_00fd6d, 0x000636_00062d_000649_00fd6e,
    0x000636_00062e_000645_00fd6f, 0x000636_00062e_000645_00fd70, 0x000637_000645_00062d_00fd71,
    0x000637_000645_00062d_00fd72, 0x000637_000645_000645_00fd73, 0x000637_000645_00064a_00fd74,
    0x000639_00062c_000645_00fd75, 0x000639_000645_000645_00fd76, 0x000639_000645_000645_00fd77,
    0x000639_000645_000649_00fd78, 0x00063a_000645_000645_00fd79, 0x00063a_000645_00064a_00fd7a,
    0x00063a_000645_000649_00fd7b, 0x000641_00062e_000645_00fd7c, 0x000641_00062e_000645_00fd7d,
    0x000642_000645_00062d_00fd7e, 0x000642_000645_000645_00fd7f, 0x000644_00062d_000645_00fd80,
    0x000644_00062d_00064a_00fd81, 0x000644_00062d_000649_00fd82, 0x000644_00062c_00062c_00fd83,
    0x000644_00062c_00062c_00fd84, 0x000644_00062e_000645_00fd85, 0x000644_00062e_000645_00fd86,
    0x000644_000645_00062d_00fd87, 0x000644_000645_00062d_00fd88, 0x000645_00062d_00062c_00fd89,
    0x000645_00062d_000645_00fd8a, 0x000645_00062d_00064a_00fd8b, 0x000645_00062c_00062d_00fd8c,
    0x000645_00062c_000645_00fd8d, 0x000645_00062e_00062c_00fd8e, 0x000645_00062e_000645_00fd8f,
    0x000645_00062c_00062e_00fd92, 0x000647_000645_00062c_00fd93, 0x000647_000645_000645_00fd94,
    0x000646_00062d_000645_00fd95, 0x000646_00062d_000649_00fd96, 0x000646_00062c_000645_00fd97,
    0x000646_00062c_000645_00fd98, 0x000646_00062c_000649_00fd99, 0x000646_000645_00064a_00fd9a,
    0x000646_000645_000649_00fd9b, 0x00064a_000645_000645_00fd9c, 0x00064a_000645_000645_00fd9d,
    0x000628_00062e_00064a_00fd9e, 0x00062a_00062c_00064a_00fd9f, 0x00062a_00062c_000649_00fda0,
    0x00062a_00062e_00064a_00fda1, 0x00062a_00062e_000649_00fda2, 0x00062a_000645_00064a_00fda3,
    0x00062a_000645_000649_00fda4, 0x00062c_000645_00064a_00fda5, 0x00062c_00062d_000649_00fda6,
    0x00062c_000645_000649_00fda7, 0x000633_00062e_000649_00fda8, 0x000635_00062d_00064a_00fda9,
    0x000634_00062d_00064a_00fdaa, 0x000636_00062d_00064a_00fdab, 0x000644_00062c_00064a_00fdac,
    0x000644_000645_00064a_00fdad, 0x00064a_00062d_00064a_00fdae, 0x00064a_00062c_00064a_00fdaf,
    0x00064a_000645_00064a_00fdb0, 0x000645_000645_00064a_00fdb1, 0x000642_000645_00064a_00fdb2,
    0x000646_00062d_00064a_00fdb3, 0x000642_000645_00062d_00fdb4, 0x000644_00062d_000645_00fdb5,
    0x000639_000645_00064a_00fdb6, 0x000643_000645_00064a_00fdb7, 0x000646_00062c_00062d_00fdb8,
    0x000645_00062e_00064a_00fdb9, 0x000644_00062c_000645_00fdba, 0x000643_000645_000645_00fdbb,
    0x000644_00062c_000645_00fdbc, 0x000646_00062c_00062d_00fdbd, 0x00062c_00062d_00064a_00fdbe,
    0x00062d_00062c_00064a_00fdbf, 0x000645_00062c_00064a_00fdc0, 0x000641_000645_00064a_00fdc1,
    0x000628_00062d_00064a_00fdc2, 0x000643_000645_000645_00fdc3, 0x000639_00062c_000645_00fdc4,
    0x000635_000645_000645_00fdc5, 0x000633_00062e_00064a_00fdc6, 0x000646_00062c_00064a_00fdc7,
    0x000635_000644_0006d2_00fdf0, 0x000642_000644_0006d2_00fdf1, 0x000627_000644_000644_000647_00fdf2,
    0x000627_000643_000628_000631_00fdf3, 0x000645_00062d_000645_00062f_00fdf4,
    0x000635_000644_000639_000645_00fdf5, 0x000631_000633_000648_000644_00fdf6,
    0x000639_000644_00064a_000647_00fdf7, 0x000648_000633_000644_000645_00fdf8, 0x000635_000644_000649_00fdf9,
    0x000635_000644_000649_000020_000627_000644_000644_000647_000020_000639_000644_00064a_000647_000020_000648_000633_000644_000645_00fdfa,
    0x00062c_000644_000020_00062c_000644_000627_000644_000647_00fdfb, 0x000631_0006cc_000627_000644_00fdfc]

/-- The decompositions of U+FE00 to U+FEFF. -/
def pageFE : List Nat :=
  [
    0x00002c_00fe10, 0x003001_00fe11, 0x003002_00fe12, 0x00003a_00fe13, 0x00003b_00fe14, 0x000021_00fe15,
    0x00003f_00fe16, 0x003016_00fe17, 0x003017_00fe18, 0x00002e_00002e_00002e_00fe19, 0x00002e_00002e_00fe30,
    0x002014_00fe31, 0x002013_00fe32, 0x00005f_00fe33, 0x00005f_00fe34, 0x000028_00fe35, 0x000029_00fe36,
    0x00007b_00fe37, 0x00007d_00fe38, 0x003014_00fe39, 0x003015_00fe3a, 0x003010_00fe3b, 0x003011_00fe3c,
    0x00300a_00fe3d, 0x00300b_00fe3e, 0x003008_00fe3f, 0x003009_00fe40, 0x00005b_00fe47, 0x00005d_00fe48,
    0x000020_000305_00fe49, 0x000020_000305_00fe4a, 0x000020_000305_00fe4b, 0x000020_000305_00fe4c,
    0x00005f_00fe4d, 0x00005f_00fe4e, 0x00005f_00fe4f, 0x00002c_00fe50, 0x003001_00fe51, 0x00002e_00fe52,
    0x00003b_00fe54, 0x00003a_00fe55, 0x00003f_00fe56, 0x000021_00fe57, 0x002014_00fe58, 0x000028_00fe59,
    0x000029_00fe5a, 0x00007b_00fe5b, 0x00007d_00fe5c, 0x003014_00fe5d, 0x003015_00fe5e, 0x000023_00fe5f,
    0x000026_00fe60, 0x00002a_00fe61, 0x00002b_00fe62, 0x00002d_00fe63, 0x00003c_00fe64, 0x00003e_00fe65,
    0x00003d_00fe66, 0x00005c_00fe68, 0x000024_00fe69, 0x000025_00fe6a, 0x000040_00fe6b,
    0x000020_00064b_00fe70, 0x000640_00064b_00fe71, 0x000020_00064c_00fe72, 0x000020_00064d_00fe74,
    0x000020_00064e_00fe76, 0x000640_00064e_00fe77, 0x000020_00064f_00fe78, 0x000640_00064f_00fe79,
    0x000020_000650_00fe7a, 0x000640_000650_00fe7b, 0x000020_000651_00fe7c, 0x000640_000651_00fe7d,
    0x000020_000652_00fe7e, 0x000640_000652_00fe7f, 0x000621_00fe80, 0x000627_000653_00fe81,
    0x000627_000653_00fe82, 0x000627_000654_00fe83, 0x000627_000654_00fe84, 0x000648_000654_00fe85,
    0x000648_000654_00fe86, 0x000627_000655_00fe87, 0x000627_000655_00fe88, 0x00064a_000654_00fe89,
    0x00064a_000654_00fe8a, 0x00064a_000654_00fe8b, 0x00064a_000654_00fe8c, 0x000627_00fe8d, 0x000627_00fe8e,
    0x000628_00fe8f, 0x000628_00fe90, 0x000628_00fe91, 0x000628_00fe92, 0x000629_00fe93, 0x000629_00fe94,
    0x00062a_00fe95, 0x00062a_00fe96, 0x00062a_00fe97, 0x00062a_00fe98, 0x00062b_00fe99, 0x00062b_00fe9a,
    0x00062b_00fe9b, 0x00062b_00fe9c, 0x00062c_00fe9d, 0x00062c_00fe9e, 0x00062c_00fe9f, 0x00062c_00fea0,
    0x00062d_00fea1, 0x00062d_00fea2, 0x00062d_00fea3, 0x00062d_00fea4, 0x00062e_00fea5, 0x00062e_00fea6,
    0x00062e_00fea7, 0x00062e_00fea8, 0x00062f_00fea9, 0x00062f_00feaa, 0x000630_00feab, 0x000630_00feac,
    0x000631_00fead, 0x000631_00feae, 0x000632_00feaf, 0x000632_00feb0, 0x000633_00feb1, 0x000633_00feb2,
    0x000633_00feb3, 0x000633_00feb4, 0x000634_00feb5, 0x000634_00feb6, 0x000634_00feb7, 0x000634_00feb8,
    0x000635_00feb9, 0x000635_00feba, 0x000635_00febb, 0x000635_00febc, 0x000636_00febd, 0x000636_00febe,
    0x000636_00febf, 0x000636_00fec0, 0x000637_00fec1, 0x000637_00fec2, 0x000637_00fec3, 0x000637_00fec4,
    0x000638_00fec5, 0x000638_00fec6, 0x000638_00fec7, 0x000638_00fec8, 0x000639_00fec9, 0x000639_00feca,
    0x000639_00fecb, 0x000639_00fecc, 0x00063a_00fecd, 0x00063a_00fece, 0x00063a_00fecf, 0x00063a_00fed0,
    0x000641_00fed1, 0x000641_00fed2, 0x000641_00fed3, 0x000641_00fed4, 0x000642_00fed5, 0x000642_00fed6,
    0x000642_00fed7, 0x000642_00fed8, 0x000643_00fed9, 0x000643_00feda, 0x000643_00fedb, 0x000643_00fedc,
    0x000644_00fedd, 0x000644_00fede, 0x000644_00fedf, 0x000644_00fee0, 0x000645_00fee1, 0x000645_00fee2,
    0x000645_00fee3, 0x000645_00fee4, 0x000646_00fee5, 0x000646_00fee6, 0x000646_00fee7, 0x000646_00fee8,
    0x000647_00fee9, 0x000647_00feea, 0x000647_00feeb, 0x000647_00feec, 0x000648_00feed, 0x000648_00feee,
    0x000649_00feef, 0x000649_00fef0, 0x00064a_00fef1, 0x00064a_00fef2, 0x00064a_00fef3, 0x00064a_00fef4,
    0x000644_000627_000653_00fef5, 0x000644_000627_000653_00fef6, 0x000644_000627_000654_00fef7,
    0x000644_000627_000654_00fef8, 0x000644_000627_000655_00fef9, 0x000644_000627_000655_00fefa,
    0x000644_000627_00fefb, 0x000644_000627_00fefc]

/-- The decompositions of U+FF00 to U+FFFF. -/
def pageFF : List Nat :=
  [
    0x002985_00ff5f, 0x002986_00ff60, 0x003002_00ff61, 0x00300c_00ff62, 0x00300d_00ff63, 0x003001_00ff64,
    0x0030fb_00ff65, 0x0030f2_00ff66, 0x0030a1_00ff67, 0x0030a3_00ff68, 0x0030a5_00ff69, 0x0030a7_00ff6a,
    0x0030a9_00ff6b, 0x0030e3_00ff6c, 0x0030e5_00ff6d, 0x0030e7_00ff6e, 0x0030c3_00ff6f, 0x0030fc_00ff70,
    0x0030a2_00ff71, 0x0030a4_00ff72, 0x0030a6_00ff73, 0x0030a8_00ff74, 0x0030aa_00ff75, 0x0030ab_00ff76,
    0x0030ad_00ff77, 0x0030af_00ff78, 0x0030b1_00ff79, 0x0030b3_00ff7a, 0x0030b5_00ff7b, 0x0030b7_00ff7c,
    0x0030b9_00ff7d, 0x0030bb_00ff7e, 0x0030bd_00ff7f, 0x0030bf_00ff80, 0x0030c1_00ff81, 0x0030c4_00ff82,
    0x0030c6_00ff83, 0x0030c8_00ff84, 0x0030d2_00ff8b, 0x0030d5_00ff8c, 0x0030d8_00ff8d, 0x0030db_00ff8e,
    0x0030e4_00ff94, 0x0030e6_00ff95, 0x0030ef_00ff9c, 0x0030f3_00ff9d, 0x003099_00ff9e, 0x00309a_00ff9f,
    0x001160_00ffa0, 0x001100_00ffa1, 0x001101_00ffa2, 0x0011aa_00ffa3, 0x001102_00ffa4, 0x0011ac_00ffa5,
    0x0011ad_00ffa6, 0x00111a_00ffb0, 0x001121_00ffb4, 0x0000a2_00ffe0, 0x0000a3_00ffe1, 0x0000ac_00ffe2,
    0x000020_000304_00ffe3, 0x0000a6_00ffe4, 0x0000a5_00ffe5, 0x0020a9_00ffe6, 0x002502_00ffe8,
    0x0025a0_00ffed, 0x0025cb_00ffee]

/-- The pages of this part. -/
def formsPages : List (Nat × List Nat) :=
  [
    (0xa6, pageA6), (0xa7, pageA7), (0xab, pageAB), (0xfb, pageFB), (0xfc, pageFC), (0xfd, pageFD),
    (0xfe, pageFE), (0xff, pageFF)]

end QueryGate.Text.Decomposition
