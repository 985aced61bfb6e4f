import SemanticQuery.Text.Property

/-!
# Finer character classes

The subdivisions of letters, marks, numbers, punctuation, symbols and separators, and scripts
besides the common ones. A subdivision without a table of its own is what the others leave.
-/

namespace SemanticQuery.Text

/-! ### Subdivisions -/

/-- Letters that are a capital and a small letter at once. -/
def titleLetters : CharSet := ⟨[
  (0x1C5, 0x1C5, 1), (0x1C8, 0x1C8, 1), (0x1CB, 0x1CB, 1), (0x1F2, 0x1F2, 1),
  (0x1F88, 0x1F8F, 1), (0x1F98, 0x1F9F, 1), (0x1FA8, 0x1FAF, 1), (0x1FBC, 0x1FBC, 1),
  (0x1FCC, 0x1FCC, 1), (0x1FFC, 0x1FFC, 1)]⟩

/-- Letters that modify the one before them. -/
def modifierLetters : CharSet := ⟨[
  (0x2B0, 0x2C1, 1), (0x2C6, 0x2D1, 1), (0x2E0, 0x2E4, 1), (0x2EC, 0x2EC, 1), (0x2EE, 0x2EE, 1),
  (0x374, 0x374, 1), (0x37A, 0x37A, 1), (0x559, 0x559, 1), (0x640, 0x640, 1), (0x6E5, 0x6E6, 1),
  (0x7F4, 0x7F5, 1), (0x7FA, 0x7FA, 1), (0x81A, 0x81A, 1), (0x824, 0x824, 1), (0x828, 0x828, 1),
  (0x8C9, 0x8C9, 1), (0x971, 0x971, 1), (0xE46, 0xE46, 1), (0xEC6, 0xEC6, 1),
  (0x10FC, 0x10FC, 1), (0x17D7, 0x17D7, 1), (0x1843, 0x1843, 1), (0x1AA7, 0x1AA7, 1),
  (0x1C78, 0x1C7D, 1), (0x1D2C, 0x1D6A, 1), (0x1D78, 0x1D78, 1), (0x1D9B, 0x1DBF, 1),
  (0x2071, 0x2071, 1), (0x207F, 0x207F, 1), (0x2090, 0x209C, 1), (0x2C7C, 0x2C7D, 1),
  (0x2D6F, 0x2D6F, 1), (0x2E2F, 0x2E2F, 1), (0x3005, 0x3005, 1), (0x3031, 0x3035, 1),
  (0x303B, 0x303B, 1), (0x309D, 0x309E, 1), (0x30FC, 0x30FE, 1), (0xA015, 0xA015, 1),
  (0xA4F8, 0xA4FD, 1), (0xA60C, 0xA60C, 1), (0xA67F, 0xA67F, 1), (0xA69C, 0xA69D, 1),
  (0xA717, 0xA71F, 1), (0xA770, 0xA770, 1), (0xA788, 0xA788, 1), (0xA7F1, 0xA7F4, 1),
  (0xA7F8, 0xA7F9, 1), (0xA9CF, 0xA9CF, 1), (0xA9E6, 0xA9E6, 1), (0xAA70, 0xAA70, 1),
  (0xAADD, 0xAADD, 1), (0xAAF3, 0xAAF4, 1), (0xAB5C, 0xAB5F, 1), (0xAB69, 0xAB69, 1),
  (0xFF70, 0xFF70, 1), (0xFF9E, 0xFF9F, 1), (0x10780, 0x10785, 1), (0x10787, 0x107B0, 1),
  (0x107B2, 0x107BA, 1), (0x10D4E, 0x10D4E, 1), (0x10D6F, 0x10D6F, 1), (0x10EC5, 0x10EC5, 1),
  (0x11DD9, 0x11DD9, 1), (0x16B40, 0x16B43, 1), (0x16D40, 0x16D42, 1), (0x16D6B, 0x16D6C, 1),
  (0x16F93, 0x16F9F, 1), (0x16FE0, 0x16FE1, 1), (0x16FE3, 0x16FE3, 1), (0x16FF2, 0x16FF3, 1),
  (0x1AFF0, 0x1AFF3, 1), (0x1AFF5, 0x1AFFB, 1), (0x1AFFD, 0x1AFFE, 1), (0x1E030, 0x1E06D, 1),
  (0x1E137, 0x1E13D, 1), (0x1E4EB, 0x1E4EB, 1), (0x1E6FF, 0x1E6FF, 1), (0x1E94B, 0x1E94B, 1)]⟩

/-- Marks that take room of their own. -/
def spacingMarks : CharSet := ⟨[
  (0x903, 0x903, 1), (0x93B, 0x93B, 1), (0x93E, 0x940, 1), (0x949, 0x94C, 1), (0x94E, 0x94F, 1),
  (0x982, 0x983, 1), (0x9BE, 0x9C0, 1), (0x9C7, 0x9C8, 1), (0x9CB, 0x9CC, 1), (0x9D7, 0x9D7, 1),
  (0xA03, 0xA03, 1), (0xA3E, 0xA40, 1), (0xA83, 0xA83, 1), (0xABE, 0xAC0, 1), (0xAC9, 0xAC9, 1),
  (0xACB, 0xACC, 1), (0xB02, 0xB03, 1), (0xB3E, 0xB3E, 1), (0xB40, 0xB40, 1), (0xB47, 0xB48, 1),
  (0xB4B, 0xB4C, 1), (0xB57, 0xB57, 1), (0xBBE, 0xBBF, 1), (0xBC1, 0xBC2, 1), (0xBC6, 0xBC8, 1),
  (0xBCA, 0xBCC, 1), (0xBD7, 0xBD7, 1), (0xC01, 0xC03, 1), (0xC41, 0xC44, 1), (0xC82, 0xC83, 1),
  (0xCBE, 0xCBE, 1), (0xCC0, 0xCC4, 1), (0xCC7, 0xCC8, 1), (0xCCA, 0xCCB, 1), (0xCD5, 0xCD6, 1),
  (0xCF3, 0xCF3, 1), (0xD02, 0xD03, 1), (0xD3E, 0xD40, 1), (0xD46, 0xD48, 1), (0xD4A, 0xD4C, 1),
  (0xD57, 0xD57, 1), (0xD82, 0xD83, 1), (0xDCF, 0xDD1, 1), (0xDD8, 0xDDF, 1), (0xDF2, 0xDF3, 1),
  (0xF3E, 0xF3F, 1), (0xF7F, 0xF7F, 1), (0x102B, 0x102C, 1), (0x1031, 0x1031, 1),
  (0x1038, 0x1038, 1), (0x103B, 0x103C, 1), (0x1056, 0x1057, 1), (0x1062, 0x1064, 1),
  (0x1067, 0x106D, 1), (0x1083, 0x1084, 1), (0x1087, 0x108C, 1), (0x108F, 0x108F, 1),
  (0x109A, 0x109C, 1), (0x1715, 0x1715, 1), (0x1734, 0x1734, 1), (0x17B6, 0x17B6, 1),
  (0x17BE, 0x17C5, 1), (0x17C7, 0x17C8, 1), (0x1923, 0x1926, 1), (0x1929, 0x192B, 1),
  (0x1930, 0x1931, 1), (0x1933, 0x1938, 1), (0x1A19, 0x1A1A, 1), (0x1A55, 0x1A55, 1),
  (0x1A57, 0x1A57, 1), (0x1A61, 0x1A61, 1), (0x1A63, 0x1A64, 1), (0x1A6D, 0x1A72, 1),
  (0x1B04, 0x1B04, 1), (0x1B35, 0x1B35, 1), (0x1B3B, 0x1B3B, 1), (0x1B3D, 0x1B41, 1),
  (0x1B43, 0x1B44, 1), (0x1B82, 0x1B82, 1), (0x1BA1, 0x1BA1, 1), (0x1BA6, 0x1BA7, 1),
  (0x1BAA, 0x1BAA, 1), (0x1BE7, 0x1BE7, 1), (0x1BEA, 0x1BEC, 1), (0x1BEE, 0x1BEE, 1),
  (0x1BF2, 0x1BF3, 1), (0x1C24, 0x1C2B, 1), (0x1C34, 0x1C35, 1), (0x1CE1, 0x1CE1, 1),
  (0x1CF7, 0x1CF7, 1), (0x302E, 0x302F, 1), (0xA823, 0xA824, 1), (0xA827, 0xA827, 1),
  (0xA880, 0xA881, 1), (0xA8B4, 0xA8C3, 1), (0xA952, 0xA953, 1), (0xA983, 0xA983, 1),
  (0xA9B4, 0xA9B5, 1), (0xA9BA, 0xA9BB, 1), (0xA9BE, 0xA9C0, 1), (0xAA2F, 0xAA30, 1),
  (0xAA33, 0xAA34, 1), (0xAA4D, 0xAA4D, 1), (0xAA7B, 0xAA7B, 1), (0xAA7D, 0xAA7D, 1),
  (0xAAEB, 0xAAEB, 1), (0xAAEE, 0xAAEF, 1), (0xAAF5, 0xAAF5, 1), (0xABE3, 0xABE4, 1),
  (0xABE6, 0xABE7, 1), (0xABE9, 0xABEA, 1), (0xABEC, 0xABEC, 1), (0x11000, 0x11000, 1),
  (0x11002, 0x11002, 1), (0x11082, 0x11082, 1), (0x110B0, 0x110B2, 1), (0x110B7, 0x110B8, 1),
  (0x1112C, 0x1112C, 1), (0x11145, 0x11146, 1), (0x11182, 0x11182, 1), (0x111B3, 0x111B5, 1),
  (0x111BF, 0x111C0, 1), (0x111CE, 0x111CE, 1), (0x1122C, 0x1122E, 1), (0x11232, 0x11233, 1),
  (0x11235, 0x11235, 1), (0x112E0, 0x112E2, 1), (0x11302, 0x11303, 1), (0x1133E, 0x1133F, 1),
  (0x11341, 0x11344, 1), (0x11347, 0x11348, 1), (0x1134B, 0x1134D, 1), (0x11357, 0x11357, 1),
  (0x11362, 0x11363, 1), (0x113B8, 0x113BA, 1), (0x113C2, 0x113C2, 1), (0x113C5, 0x113C5, 1),
  (0x113C7, 0x113CA, 1), (0x113CC, 0x113CD, 1), (0x113CF, 0x113CF, 1), (0x11435, 0x11437, 1),
  (0x11440, 0x11441, 1), (0x11445, 0x11445, 1), (0x114B0, 0x114B2, 1), (0x114B9, 0x114B9, 1),
  (0x114BB, 0x114BE, 1), (0x114C1, 0x114C1, 1), (0x115AF, 0x115B1, 1), (0x115B8, 0x115BB, 1),
  (0x115BE, 0x115BE, 1), (0x11630, 0x11632, 1), (0x1163B, 0x1163C, 1), (0x1163E, 0x1163E, 1),
  (0x116AC, 0x116AC, 1), (0x116AE, 0x116AF, 1), (0x116B6, 0x116B6, 1), (0x1171E, 0x1171E, 1),
  (0x11720, 0x11721, 1), (0x11726, 0x11726, 1), (0x1182C, 0x1182E, 1), (0x11838, 0x11838, 1),
  (0x11930, 0x11935, 1), (0x11937, 0x11938, 1), (0x1193D, 0x1193D, 1), (0x11940, 0x11940, 1),
  (0x11942, 0x11942, 1), (0x119D1, 0x119D3, 1), (0x119DC, 0x119DF, 1), (0x119E4, 0x119E4, 1),
  (0x11A39, 0x11A39, 1), (0x11A57, 0x11A58, 1), (0x11A97, 0x11A97, 1), (0x11B61, 0x11B61, 1),
  (0x11B65, 0x11B65, 1), (0x11B67, 0x11B67, 1), (0x11C2F, 0x11C2F, 1), (0x11C3E, 0x11C3E, 1),
  (0x11CA9, 0x11CA9, 1), (0x11CB1, 0x11CB1, 1), (0x11CB4, 0x11CB4, 1), (0x11D8A, 0x11D8E, 1),
  (0x11D93, 0x11D94, 1), (0x11D96, 0x11D96, 1), (0x11EF5, 0x11EF6, 1), (0x11F03, 0x11F03, 1),
  (0x11F34, 0x11F35, 1), (0x11F3E, 0x11F3F, 1), (0x11F41, 0x11F41, 1), (0x1612A, 0x1612C, 1),
  (0x16F51, 0x16F87, 1), (0x16FF0, 0x16FF1, 1), (0x1D165, 0x1D166, 1), (0x1D16D, 0x1D172, 1)]⟩

/-- Marks that enclose a character. -/
def enclosingMarks : CharSet := ⟨[
  (0x488, 0x489, 1), (0x1ABE, 0x1ABE, 1), (0x20DD, 0x20E0, 1), (0x20E2, 0x20E4, 1),
  (0xA670, 0xA672, 1)]⟩

/-- Characters of numbers that are neither digits nor letters. -/
def otherNumbers : CharSet := ⟨[
  (0xB2, 0xB3, 1), (0xB9, 0xB9, 1), (0xBC, 0xBE, 1), (0x9F4, 0x9F9, 1), (0xB72, 0xB77, 1),
  (0xBF0, 0xBF2, 1), (0xC78, 0xC7E, 1), (0xD58, 0xD5E, 1), (0xD70, 0xD78, 1), (0xF2A, 0xF33, 1),
  (0x1369, 0x137C, 1), (0x17F0, 0x17F9, 1), (0x19DA, 0x19DA, 1), (0x2070, 0x2070, 1),
  (0x2074, 0x2079, 1), (0x2080, 0x2089, 1), (0x2150, 0x215F, 1), (0x2189, 0x2189, 1),
  (0x2460, 0x249B, 1), (0x24EA, 0x24FF, 1), (0x2776, 0x2793, 1), (0x2CFD, 0x2CFD, 1),
  (0x3192, 0x3195, 1), (0x3220, 0x3229, 1), (0x3248, 0x324F, 1), (0x3251, 0x325F, 1),
  (0x3280, 0x3289, 1), (0x32B1, 0x32BF, 1), (0xA830, 0xA835, 1), (0x10107, 0x10133, 1),
  (0x10175, 0x10178, 1), (0x1018A, 0x1018B, 1), (0x102E1, 0x102FB, 1), (0x10320, 0x10323, 1),
  (0x10858, 0x1085F, 1), (0x10879, 0x1087F, 1), (0x108A7, 0x108AF, 1), (0x108FB, 0x108FF, 1),
  (0x10916, 0x1091B, 1), (0x109BC, 0x109BD, 1), (0x109C0, 0x109CF, 1), (0x109D2, 0x109FF, 1),
  (0x10A40, 0x10A48, 1), (0x10A7D, 0x10A7E, 1), (0x10A9D, 0x10A9F, 1), (0x10AEB, 0x10AEF, 1),
  (0x10B58, 0x10B5F, 1), (0x10B78, 0x10B7F, 1), (0x10BA9, 0x10BAF, 1), (0x10CFA, 0x10CFF, 1),
  (0x10E60, 0x10E7E, 1), (0x10F1D, 0x10F26, 1), (0x10F51, 0x10F54, 1), (0x10FC5, 0x10FCB, 1),
  (0x11052, 0x11065, 1), (0x111E1, 0x111F4, 1), (0x1173A, 0x1173B, 1), (0x118EA, 0x118F2, 1),
  (0x11C5A, 0x11C6C, 1), (0x11FC0, 0x11FD4, 1), (0x16B5B, 0x16B61, 1), (0x16E80, 0x16E96, 1),
  (0x1D2C0, 0x1D2D3, 1), (0x1D2E0, 0x1D2F3, 1), (0x1D360, 0x1D378, 1), (0x1E8C7, 0x1E8CF, 1),
  (0x1EC71, 0x1ECAB, 1), (0x1ECAD, 0x1ECAF, 1), (0x1ECB1, 0x1ECB4, 1), (0x1ED01, 0x1ED2D, 1),
  (0x1ED2F, 0x1ED3D, 1), (0x1F100, 0x1F10C, 1)]⟩

/-- Dashes. -/
def dashes : CharSet := ⟨[
  (0x2D, 0x2D, 1), (0x58A, 0x58A, 1), (0x5BE, 0x5BE, 1), (0x1400, 0x1400, 1),
  (0x1806, 0x1806, 1), (0x2010, 0x2015, 1), (0x2E17, 0x2E17, 1), (0x2E1A, 0x2E1A, 1),
  (0x2E3A, 0x2E3B, 1), (0x2E40, 0x2E40, 1), (0x2E5D, 0x2E5D, 1), (0x301C, 0x301C, 1),
  (0x3030, 0x3030, 1), (0x30A0, 0x30A0, 1), (0xFE31, 0xFE32, 1), (0xFE58, 0xFE58, 1),
  (0xFE63, 0xFE63, 1), (0xFF0D, 0xFF0D, 1), (0x10D6E, 0x10D6E, 1), (0x10EAD, 0x10EAD, 1)]⟩

/-- Opening brackets. -/
def openBrackets : CharSet := ⟨[
  (0x28, 0x28, 1), (0x5B, 0x5B, 1), (0x7B, 0x7B, 1), (0xF3A, 0xF3A, 1), (0xF3C, 0xF3C, 1),
  (0x169B, 0x169B, 1), (0x201A, 0x201A, 1), (0x201E, 0x201E, 1), (0x2045, 0x2045, 1),
  (0x207D, 0x207D, 1), (0x208D, 0x208D, 1), (0x2308, 0x2308, 1), (0x230A, 0x230A, 1),
  (0x2329, 0x2329, 1), (0x2768, 0x2774, 2), (0x27C5, 0x27C5, 1), (0x27E6, 0x27EE, 2),
  (0x2983, 0x2997, 2), (0x29D8, 0x29D8, 1), (0x29DA, 0x29DA, 1), (0x29FC, 0x29FC, 1),
  (0x2E22, 0x2E28, 2), (0x2E42, 0x2E42, 1), (0x2E55, 0x2E5B, 2), (0x3008, 0x3010, 2),
  (0x3014, 0x301A, 2), (0x301D, 0x301D, 1), (0xFD3F, 0xFD3F, 1), (0xFE17, 0xFE17, 1),
  (0xFE35, 0xFE43, 2), (0xFE47, 0xFE47, 1), (0xFE59, 0xFE5D, 2), (0xFF08, 0xFF08, 1),
  (0xFF3B, 0xFF3B, 1), (0xFF5B, 0xFF5B, 1), (0xFF5F, 0xFF5F, 1), (0xFF62, 0xFF62, 1)]⟩

/-- Closing brackets. -/
def closeBrackets : CharSet := ⟨[
  (0x29, 0x29, 1), (0x5D, 0x5D, 1), (0x7D, 0x7D, 1), (0xF3B, 0xF3B, 1), (0xF3D, 0xF3D, 1),
  (0x169C, 0x169C, 1), (0x2046, 0x2046, 1), (0x207E, 0x207E, 1), (0x208E, 0x208E, 1),
  (0x2309, 0x2309, 1), (0x230B, 0x230B, 1), (0x232A, 0x232A, 1), (0x2769, 0x2775, 2),
  (0x27C6, 0x27C6, 1), (0x27E7, 0x27EF, 2), (0x2984, 0x2998, 2), (0x29D9, 0x29D9, 1),
  (0x29DB, 0x29DB, 1), (0x29FD, 0x29FD, 1), (0x2E23, 0x2E29, 2), (0x2E56, 0x2E5C, 2),
  (0x3009, 0x3011, 2), (0x3015, 0x301B, 2), (0x301E, 0x301F, 1), (0xFD3E, 0xFD3E, 1),
  (0xFE18, 0xFE18, 1), (0xFE36, 0xFE44, 2), (0xFE48, 0xFE48, 1), (0xFE5A, 0xFE5E, 2),
  (0xFF09, 0xFF09, 1), (0xFF3D, 0xFF3D, 1), (0xFF5D, 0xFF5D, 1), (0xFF60, 0xFF60, 1),
  (0xFF63, 0xFF63, 1)]⟩

/-- Opening quotation marks. -/
def openQuotes : CharSet := ⟨[
  (0xAB, 0xAB, 1), (0x2018, 0x2018, 1), (0x201B, 0x201C, 1), (0x201F, 0x201F, 1),
  (0x2039, 0x2039, 1), (0x2E02, 0x2E02, 1), (0x2E04, 0x2E04, 1), (0x2E09, 0x2E09, 1),
  (0x2E0C, 0x2E0C, 1), (0x2E1C, 0x2E1C, 1), (0x2E20, 0x2E20, 1)]⟩

/-- Closing quotation marks. -/
def closeQuotes : CharSet := ⟨[
  (0xBB, 0xBB, 1), (0x2019, 0x2019, 1), (0x201D, 0x201D, 1), (0x203A, 0x203A, 1),
  (0x2E03, 0x2E03, 1), (0x2E05, 0x2E05, 1), (0x2E0A, 0x2E0A, 1), (0x2E0D, 0x2E0D, 1),
  (0x2E1D, 0x2E1D, 1), (0x2E21, 0x2E21, 1)]⟩

/-- Symbols of mathematics. -/
def mathSymbols : CharSet := ⟨[
  (0x2B, 0x2B, 1), (0x3C, 0x3E, 1), (0x7C, 0x7C, 1), (0x7E, 0x7E, 1), (0xAC, 0xAC, 1),
  (0xB1, 0xB1, 1), (0xD7, 0xD7, 1), (0xF7, 0xF7, 1), (0x3F6, 0x3F6, 1), (0x606, 0x608, 1),
  (0x2044, 0x2044, 1), (0x2052, 0x2052, 1), (0x207A, 0x207C, 1), (0x208A, 0x208C, 1),
  (0x2118, 0x2118, 1), (0x2140, 0x2144, 1), (0x214B, 0x214B, 1), (0x2190, 0x2194, 1),
  (0x219A, 0x219B, 1), (0x21A0, 0x21A0, 1), (0x21A3, 0x21A3, 1), (0x21A6, 0x21A6, 1),
  (0x21AE, 0x21AE, 1), (0x21CE, 0x21CF, 1), (0x21D2, 0x21D2, 1), (0x21D4, 0x21D4, 1),
  (0x21F4, 0x22FF, 1), (0x2320, 0x2321, 1), (0x237C, 0x237C, 1), (0x239B, 0x23B3, 1),
  (0x23DC, 0x23E1, 1), (0x25B7, 0x25B7, 1), (0x25C1, 0x25C1, 1), (0x25F8, 0x25FF, 1),
  (0x266F, 0x266F, 1), (0x27C0, 0x27C4, 1), (0x27C7, 0x27E5, 1), (0x27F0, 0x27FF, 1),
  (0x2900, 0x2982, 1), (0x2999, 0x29D7, 1), (0x29DC, 0x29FB, 1), (0x29FE, 0x2AFF, 1),
  (0x2B30, 0x2B44, 1), (0x2B47, 0x2B4C, 1), (0xFB29, 0xFB29, 1), (0xFE62, 0xFE62, 1),
  (0xFE64, 0xFE66, 1), (0xFF0B, 0xFF0B, 1), (0xFF1C, 0xFF1E, 1), (0xFF5C, 0xFF5C, 1),
  (0xFF5E, 0xFF5E, 1), (0xFFE2, 0xFFE2, 1), (0xFFE9, 0xFFEC, 1), (0x10D8E, 0x10D8F, 1),
  (0x1CEF0, 0x1CEF0, 1), (0x1D6C1, 0x1D6C1, 1), (0x1D6DB, 0x1D6DB, 1), (0x1D6FB, 0x1D6FB, 1),
  (0x1D715, 0x1D715, 1), (0x1D735, 0x1D735, 1), (0x1D74F, 0x1D74F, 1), (0x1D76F, 0x1D76F, 1),
  (0x1D789, 0x1D789, 1), (0x1D7A9, 0x1D7A9, 1), (0x1D7C3, 0x1D7C3, 1), (0x1EEF0, 0x1EEF1, 1),
  (0x1F8D0, 0x1F8D8, 1)]⟩

/-- Symbols of currencies. -/
def currencySymbols : CharSet := ⟨[
  (0x24, 0x24, 1), (0xA2, 0xA5, 1), (0x58F, 0x58F, 1), (0x60B, 0x60B, 1), (0x7FE, 0x7FF, 1),
  (0x9F2, 0x9F3, 1), (0x9FB, 0x9FB, 1), (0xAF1, 0xAF1, 1), (0xBF9, 0xBF9, 1), (0xE3F, 0xE3F, 1),
  (0x17DB, 0x17DB, 1), (0x20A0, 0x20C1, 1), (0xA838, 0xA838, 1), (0xFDFC, 0xFDFC, 1),
  (0xFE69, 0xFE69, 1), (0xFF04, 0xFF04, 1), (0xFFE0, 0xFFE1, 1), (0xFFE5, 0xFFE6, 1),
  (0x11FDD, 0x11FE0, 1), (0x1E2FF, 0x1E2FF, 1), (0x1ECB0, 0x1ECB0, 1)]⟩

/-- Symbols that modify the character before them. -/
def modifierSymbols : CharSet := ⟨[
  (0x5E, 0x5E, 1), (0x60, 0x60, 1), (0xA8, 0xA8, 1), (0xAF, 0xAF, 1), (0xB4, 0xB4, 1),
  (0xB8, 0xB8, 1), (0x2C2, 0x2C5, 1), (0x2D2, 0x2DF, 1), (0x2E5, 0x2EB, 1), (0x2ED, 0x2ED, 1),
  (0x2EF, 0x2FF, 1), (0x375, 0x375, 1), (0x384, 0x385, 1), (0x888, 0x888, 1),
  (0x1FBD, 0x1FBD, 1), (0x1FBF, 0x1FC1, 1), (0x1FCD, 0x1FCF, 1), (0x1FDD, 0x1FDF, 1),
  (0x1FED, 0x1FEF, 1), (0x1FFD, 0x1FFE, 1), (0x309B, 0x309C, 1), (0xA700, 0xA716, 1),
  (0xA720, 0xA721, 1), (0xA789, 0xA78A, 1), (0xAB5B, 0xAB5B, 1), (0xAB6A, 0xAB6B, 1),
  (0xFBB2, 0xFBC2, 1), (0xFF3E, 0xFF3E, 1), (0xFF40, 0xFF40, 1), (0xFFE3, 0xFFE3, 1),
  (0x1F3FB, 0x1F3FF, 1)]⟩

/-- The separator of lines. -/
def lineSeparators : CharSet := ⟨[
  (0x2028, 0x2028, 1)]⟩

/-- The separator of paragraphs. -/
def paragraphSeparators : CharSet := ⟨[
  (0x2029, 0x2029, 1)]⟩

/-- Control characters. -/
def controls : CharSet := ⟨[
  (0x00, 0x1F, 1), (0x7F, 0x9F, 1)]⟩

/-- Characters that direct the layout of the text around them. -/
def formats : CharSet := ⟨[
  (0xAD, 0xAD, 1), (0x600, 0x605, 1), (0x61C, 0x61C, 1), (0x6DD, 0x6DD, 1), (0x70F, 0x70F, 1),
  (0x890, 0x891, 1), (0x8E2, 0x8E2, 1), (0x180E, 0x180E, 1), (0x200B, 0x200F, 1),
  (0x202A, 0x202E, 1), (0x2060, 0x2064, 1), (0x2066, 0x206F, 1), (0xFEFF, 0xFEFF, 1),
  (0xFFF9, 0xFFFB, 1), (0x110BD, 0x110BD, 1), (0x110CD, 0x110CD, 1), (0x13430, 0x1343F, 1),
  (0x1BCA0, 0x1BCA3, 1), (0x1D173, 0x1D17A, 1), (0xE0001, 0xE0001, 1), (0xE0020, 0xE007F, 1)]⟩

/-- Characters without a common meaning. -/
def privateUse : CharSet := ⟨[
  (0xE000, 0xF8FF, 1), (0xF0000, 0xFFFFD, 1), (0x100000, 0x10FFFD, 1)]⟩

/-- Capitals that are no letters. -/
def capitalsBesides : CharSet := ⟨[
  (0x2160, 0x216F, 1), (0x24B6, 0x24CF, 1), (0x1F130, 0x1F149, 1), (0x1F150, 0x1F169, 1),
  (0x1F170, 0x1F189, 1)]⟩

/-- Small characters that are no small letters. -/
def smallBesides : CharSet := ⟨[
  (0xAA, 0xAA, 1), (0xBA, 0xBA, 1), (0x2B0, 0x2B8, 1), (0x2C0, 0x2C1, 1), (0x2E0, 0x2E4, 1),
  (0x345, 0x345, 1), (0x37A, 0x37A, 1), (0x10FC, 0x10FC, 1), (0x1D2C, 0x1D6A, 1),
  (0x1D78, 0x1D78, 1), (0x1D9B, 0x1DBF, 1), (0x2071, 0x2071, 1), (0x207F, 0x207F, 1),
  (0x2090, 0x209C, 1), (0x2170, 0x217F, 1), (0x24D0, 0x24E9, 1), (0x2C7C, 0x2C7D, 1),
  (0xA69C, 0xA69D, 1), (0xA770, 0xA770, 1), (0xA7F1, 0xA7F4, 1), (0xA7F8, 0xA7F9, 1),
  (0xAB5C, 0xAB5F, 1), (0xAB69, 0xAB69, 1), (0x10780, 0x10780, 1), (0x10783, 0x10785, 1),
  (0x10787, 0x107B0, 1), (0x107B2, 0x107BA, 1), (0x1E030, 0x1E06D, 1)]⟩

/-- Characters that stand for a word. -/
def ideographs : CharSet := ⟨[
  (0x3006, 0x3007, 1), (0x3021, 0x3029, 1), (0x3038, 0x303A, 1), (0x3400, 0x4DBF, 1),
  (0x4E00, 0x9FFF, 1), (0xF900, 0xFA6D, 1), (0xFA70, 0xFAD9, 1), (0x16FE4, 0x16FE4, 1),
  (0x16FF2, 0x16FF6, 1), (0x17000, 0x18CD5, 1), (0x18CFF, 0x18D1E, 1), (0x18D80, 0x18DF2, 1),
  (0x1B170, 0x1B2FB, 1), (0x20000, 0x2A6DF, 1), (0x2A700, 0x2B81D, 1), (0x2B820, 0x2CEAD, 1),
  (0x2CEB0, 0x2EBE0, 1), (0x2EBF0, 0x2EE5D, 1), (0x2F800, 0x2FA1D, 1), (0x30000, 0x3134A, 1),
  (0x31350, 0x33479, 1)]⟩

/-! ### Scripts -/

/-- Characters of the Arabic script. -/
def arabic : CharSet := ⟨[
  (0x600, 0x604, 1), (0x606, 0x60B, 1), (0x60D, 0x61A, 1), (0x61C, 0x61E, 1), (0x620, 0x63F, 1),
  (0x641, 0x64A, 1), (0x656, 0x66F, 1), (0x671, 0x6DC, 1), (0x6DE, 0x6FF, 1), (0x750, 0x77F, 1),
  (0x870, 0x891, 1), (0x897, 0x8E1, 1), (0x8E3, 0x8FF, 1), (0xFB50, 0xFD3D, 1),
  (0xFD40, 0xFDCF, 1), (0xFDF0, 0xFDFF, 1), (0xFE70, 0xFE74, 1), (0xFE76, 0xFEFC, 1),
  (0x10E60, 0x10E7E, 1), (0x10EC2, 0x10EC7, 1), (0x10ED0, 0x10ED8, 1), (0x10EFA, 0x10EFF, 1),
  (0x1EE00, 0x1EE03, 1), (0x1EE05, 0x1EE1F, 1), (0x1EE21, 0x1EE22, 1), (0x1EE24, 0x1EE24, 1),
  (0x1EE27, 0x1EE27, 1), (0x1EE29, 0x1EE32, 1), (0x1EE34, 0x1EE37, 1), (0x1EE39, 0x1EE39, 1),
  (0x1EE3B, 0x1EE3B, 1), (0x1EE42, 0x1EE42, 1), (0x1EE47, 0x1EE4B, 2), (0x1EE4D, 0x1EE4F, 1),
  (0x1EE51, 0x1EE52, 1), (0x1EE54, 0x1EE54, 1), (0x1EE57, 0x1EE5F, 2), (0x1EE61, 0x1EE62, 1),
  (0x1EE64, 0x1EE64, 1), (0x1EE67, 0x1EE6A, 1), (0x1EE6C, 0x1EE72, 1), (0x1EE74, 0x1EE77, 1),
  (0x1EE79, 0x1EE7C, 1), (0x1EE7E, 0x1EE7E, 1), (0x1EE80, 0x1EE89, 1), (0x1EE8B, 0x1EE9B, 1),
  (0x1EEA1, 0x1EEA3, 1), (0x1EEA5, 0x1EEA9, 1), (0x1EEAB, 0x1EEBB, 1), (0x1EEF0, 0x1EEF1, 1)]⟩

/-- Characters of the Armenian script. -/
def armenian : CharSet := ⟨[
  (0x531, 0x556, 1), (0x559, 0x58A, 1), (0x58D, 0x58F, 1), (0xFB13, 0xFB17, 1)]⟩

/-- Characters of the Bengali script. -/
def bengali : CharSet := ⟨[
  (0x980, 0x983, 1), (0x985, 0x98C, 1), (0x98F, 0x990, 1), (0x993, 0x9A8, 1), (0x9AA, 0x9B0, 1),
  (0x9B2, 0x9B2, 1), (0x9B6, 0x9B9, 1), (0x9BC, 0x9C4, 1), (0x9C7, 0x9C8, 1), (0x9CB, 0x9CE, 1),
  (0x9D7, 0x9D7, 1), (0x9DC, 0x9DD, 1), (0x9DF, 0x9E3, 1), (0x9E6, 0x9FE, 1)]⟩

/-- Characters of the Bopomofo script. -/
def bopomofo : CharSet := ⟨[
  (0x2EA, 0x2EB, 1), (0x3105, 0x312F, 1), (0x31A0, 0x31BF, 1)]⟩

/-- Characters of the Devanagari script. -/
def devanagari : CharSet := ⟨[
  (0x900, 0x950, 1), (0x955, 0x963, 1), (0x966, 0x97F, 1), (0xA8E0, 0xA8FF, 1),
  (0x11B00, 0x11B09, 1)]⟩

/-- Characters of the Georgian script. -/
def georgian : CharSet := ⟨[
  (0x10A0, 0x10C5, 1), (0x10C7, 0x10C7, 1), (0x10CD, 0x10CD, 1), (0x10D0, 0x10FA, 1),
  (0x10FC, 0x10FF, 1), (0x1C90, 0x1CBA, 1), (0x1CBD, 0x1CBF, 1), (0x2D00, 0x2D25, 1),
  (0x2D27, 0x2D27, 1), (0x2D2D, 0x2D2D, 1)]⟩

/-- Characters of the Hebrew script. -/
def hebrew : CharSet := ⟨[
  (0x591, 0x5C7, 1), (0x5D0, 0x5EA, 1), (0x5EF, 0x5F4, 1), (0xFB1D, 0xFB36, 1),
  (0xFB38, 0xFB3C, 1), (0xFB3E, 0xFB3E, 1), (0xFB40, 0xFB41, 1), (0xFB43, 0xFB44, 1),
  (0xFB46, 0xFB4F, 1)]⟩

/-- Characters of the Khmer script. -/
def khmer : CharSet := ⟨[
  (0x1780, 0x17DD, 1), (0x17E0, 0x17E9, 1), (0x17F0, 0x17F9, 1), (0x19E0, 0x19FF, 1)]⟩

/-- Characters of the Lao script. -/
def lao : CharSet := ⟨[
  (0xE81, 0xE82, 1), (0xE84, 0xE84, 1), (0xE86, 0xE8A, 1), (0xE8C, 0xEA3, 1), (0xEA5, 0xEA5, 1),
  (0xEA7, 0xEBD, 1), (0xEC0, 0xEC4, 1), (0xEC6, 0xEC6, 1), (0xEC8, 0xECE, 1), (0xED0, 0xED9, 1),
  (0xEDC, 0xEDF, 1)]⟩

/-- Characters of the Mongolian script. -/
def mongolian : CharSet := ⟨[
  (0x1800, 0x1801, 1), (0x1804, 0x1804, 1), (0x1806, 0x1819, 1), (0x1820, 0x1878, 1),
  (0x1880, 0x18AA, 1), (0x11660, 0x1166C, 1)]⟩

/-- Characters of the Myanmar script. -/
def myanmar : CharSet := ⟨[
  (0x1000, 0x109F, 1), (0xA9E0, 0xA9FE, 1), (0xAA60, 0xAA7F, 1), (0x116D0, 0x116E3, 1)]⟩

/-- Characters of the Tamil script. -/
def tamil : CharSet := ⟨[
  (0xB82, 0xB83, 1), (0xB85, 0xB8A, 1), (0xB8E, 0xB90, 1), (0xB92, 0xB95, 1), (0xB99, 0xB9A, 1),
  (0xB9C, 0xB9C, 1), (0xB9E, 0xB9F, 1), (0xBA3, 0xBA4, 1), (0xBA8, 0xBAA, 1), (0xBAE, 0xBB9, 1),
  (0xBBE, 0xBC2, 1), (0xBC6, 0xBC8, 1), (0xBCA, 0xBCD, 1), (0xBD0, 0xBD0, 1), (0xBD7, 0xBD7, 1),
  (0xBE6, 0xBFA, 1), (0x11FC0, 0x11FF1, 1), (0x11FFF, 0x11FFF, 1)]⟩

/-- Characters of the Telugu script. -/
def telugu : CharSet := ⟨[
  (0xC00, 0xC0C, 1), (0xC0E, 0xC10, 1), (0xC12, 0xC28, 1), (0xC2A, 0xC39, 1), (0xC3C, 0xC44, 1),
  (0xC46, 0xC48, 1), (0xC4A, 0xC4D, 1), (0xC55, 0xC56, 1), (0xC58, 0xC5A, 1), (0xC5C, 0xC5D, 1),
  (0xC60, 0xC63, 1), (0xC66, 0xC6F, 1), (0xC77, 0xC7F, 1)]⟩

/-- Characters of the Thai script. -/
def thai : CharSet := ⟨[
  (0xE01, 0xE3A, 1), (0xE40, 0xE5B, 1)]⟩

/-- Characters of the Tibetan script. -/
def tibetan : CharSet := ⟨[
  (0xF00, 0xF47, 1), (0xF49, 0xF6C, 1), (0xF71, 0xF97, 1), (0xF99, 0xFBC, 1), (0xFBE, 0xFCC, 1),
  (0xFCE, 0xFD4, 1), (0xFD9, 0xFDA, 1)]⟩

/-- Characters that many scripts use. -/
def common : CharSet := ⟨[
  (0x00, 0x40, 1), (0x5B, 0x60, 1), (0x7B, 0xA9, 1), (0xAB, 0xB9, 1), (0xBB, 0xBF, 1),
  (0xD7, 0xD7, 1), (0xF7, 0xF7, 1), (0x2B9, 0x2DF, 1), (0x2E5, 0x2E9, 1), (0x2EC, 0x2FF, 1),
  (0x374, 0x374, 1), (0x37E, 0x37E, 1), (0x385, 0x385, 1), (0x387, 0x387, 1), (0x605, 0x605, 1),
  (0x60C, 0x60C, 1), (0x61B, 0x61B, 1), (0x61F, 0x61F, 1), (0x640, 0x640, 1), (0x6DD, 0x6DD, 1),
  (0x8E2, 0x8E2, 1), (0x964, 0x965, 1), (0xE3F, 0xE3F, 1), (0xFD5, 0xFD8, 1),
  (0x10FB, 0x10FB, 1), (0x16EB, 0x16ED, 1), (0x1735, 0x1736, 1), (0x1802, 0x1803, 1),
  (0x1805, 0x1805, 1), (0x1CD3, 0x1CD3, 1), (0x1CE1, 0x1CE1, 1), (0x1CE9, 0x1CEC, 1),
  (0x1CEE, 0x1CF3, 1), (0x1CF5, 0x1CF7, 1), (0x1CFA, 0x1CFA, 1), (0x2000, 0x200B, 1),
  (0x200E, 0x2064, 1), (0x2066, 0x2070, 1), (0x2074, 0x207E, 1), (0x2080, 0x208E, 1),
  (0x20A0, 0x20C1, 1), (0x2100, 0x2125, 1), (0x2127, 0x2129, 1), (0x212C, 0x2131, 1),
  (0x2133, 0x214D, 1), (0x214F, 0x215F, 1), (0x2189, 0x218B, 1), (0x2190, 0x2429, 1),
  (0x2440, 0x244A, 1), (0x2460, 0x27FF, 1), (0x2900, 0x2B73, 1), (0x2B76, 0x2BFF, 1),
  (0x2E00, 0x2E5D, 1), (0x2FF0, 0x3004, 1), (0x3006, 0x3006, 1), (0x3008, 0x3020, 1),
  (0x3030, 0x3037, 1), (0x303C, 0x303F, 1), (0x309B, 0x309C, 1), (0x30A0, 0x30A0, 1),
  (0x30FB, 0x30FC, 1), (0x3190, 0x319F, 1), (0x31C0, 0x31E5, 1), (0x31EF, 0x31EF, 1),
  (0x3220, 0x325F, 1), (0x327F, 0x32CF, 1), (0x32FF, 0x32FF, 1), (0x3358, 0x33FF, 1),
  (0x4DC0, 0x4DFF, 1), (0xA700, 0xA721, 1), (0xA788, 0xA78A, 1), (0xA830, 0xA839, 1),
  (0xA92E, 0xA92E, 1), (0xA9CF, 0xA9CF, 1), (0xAB5B, 0xAB5B, 1), (0xAB6A, 0xAB6B, 1),
  (0xFD3E, 0xFD3F, 1), (0xFE10, 0xFE19, 1), (0xFE30, 0xFE52, 1), (0xFE54, 0xFE66, 1),
  (0xFE68, 0xFE6B, 1), (0xFEFF, 0xFEFF, 1), (0xFF01, 0xFF20, 1), (0xFF3B, 0xFF40, 1),
  (0xFF5B, 0xFF65, 1), (0xFF70, 0xFF70, 1), (0xFF9E, 0xFF9F, 1), (0xFFE0, 0xFFE6, 1),
  (0xFFE8, 0xFFEE, 1), (0xFFF9, 0xFFFD, 1), (0x10100, 0x10102, 1), (0x10107, 0x10133, 1),
  (0x10137, 0x1013F, 1), (0x10190, 0x1019C, 1), (0x101D0, 0x101FC, 1), (0x102E1, 0x102FB, 1),
  (0x1BCA0, 0x1BCA3, 1), (0x1CC00, 0x1CCFC, 1), (0x1CD00, 0x1CEB3, 1), (0x1CEBA, 0x1CED0, 1),
  (0x1CEE0, 0x1CEF0, 1), (0x1CF50, 0x1CFC3, 1), (0x1D000, 0x1D0F5, 1), (0x1D100, 0x1D126, 1),
  (0x1D129, 0x1D166, 1), (0x1D16A, 0x1D17A, 1), (0x1D183, 0x1D184, 1), (0x1D18C, 0x1D1A9, 1),
  (0x1D1AE, 0x1D1EA, 1), (0x1D2C0, 0x1D2D3, 1), (0x1D2E0, 0x1D2F3, 1), (0x1D300, 0x1D356, 1),
  (0x1D360, 0x1D378, 1), (0x1D400, 0x1D454, 1), (0x1D456, 0x1D49C, 1), (0x1D49E, 0x1D49F, 1),
  (0x1D4A2, 0x1D4A2, 1), (0x1D4A5, 0x1D4A6, 1), (0x1D4A9, 0x1D4AC, 1), (0x1D4AE, 0x1D4B9, 1),
  (0x1D4BB, 0x1D4BB, 1), (0x1D4BD, 0x1D4C3, 1), (0x1D4C5, 0x1D505, 1), (0x1D507, 0x1D50A, 1),
  (0x1D50D, 0x1D514, 1), (0x1D516, 0x1D51C, 1), (0x1D51E, 0x1D539, 1), (0x1D53B, 0x1D53E, 1),
  (0x1D540, 0x1D544, 1), (0x1D546, 0x1D546, 1), (0x1D54A, 0x1D550, 1), (0x1D552, 0x1D6A5, 1),
  (0x1D6A8, 0x1D7CB, 1), (0x1D7CE, 0x1D7FF, 1), (0x1EC71, 0x1ECB4, 1), (0x1ED01, 0x1ED3D, 1),
  (0x1F000, 0x1F02B, 1), (0x1F030, 0x1F093, 1), (0x1F0A0, 0x1F0AE, 1), (0x1F0B1, 0x1F0BF, 1),
  (0x1F0C1, 0x1F0CF, 1), (0x1F0D1, 0x1F0F5, 1), (0x1F100, 0x1F1AD, 1), (0x1F1E6, 0x1F1FF, 1),
  (0x1F201, 0x1F202, 1), (0x1F210, 0x1F23B, 1), (0x1F240, 0x1F248, 1), (0x1F250, 0x1F251, 1),
  (0x1F260, 0x1F265, 1), (0x1F300, 0x1F6D8, 1), (0x1F6DC, 0x1F6EC, 1), (0x1F6F0, 0x1F6FC, 1),
  (0x1F700, 0x1F7D9, 1), (0x1F7E0, 0x1F7EB, 1), (0x1F7F0, 0x1F7F0, 1), (0x1F800, 0x1F80B, 1),
  (0x1F810, 0x1F847, 1), (0x1F850, 0x1F859, 1), (0x1F860, 0x1F887, 1), (0x1F890, 0x1F8AD, 1),
  (0x1F8B0, 0x1F8BB, 1), (0x1F8C0, 0x1F8C1, 1), (0x1F8D0, 0x1F8D8, 1), (0x1F900, 0x1FA57, 1),
  (0x1FA60, 0x1FA6D, 1), (0x1FA70, 0x1FA7C, 1), (0x1FA80, 0x1FA8A, 1), (0x1FA8E, 0x1FAC6, 1),
  (0x1FAC8, 0x1FAC8, 1), (0x1FACD, 0x1FADC, 1), (0x1FADF, 0x1FAEA, 1), (0x1FAEF, 0x1FAF8, 1),
  (0x1FB00, 0x1FB92, 1), (0x1FB94, 0x1FBFA, 1), (0xE0001, 0xE0001, 1), (0xE0020, 0xE007F, 1)]⟩

/-- Characters of the script of the one before them. -/
def inherited : CharSet := ⟨[
  (0x300, 0x36F, 1), (0x485, 0x486, 1), (0x64B, 0x655, 1), (0x670, 0x670, 1), (0x951, 0x954, 1),
  (0x1AB0, 0x1ADD, 1), (0x1AE0, 0x1AEB, 1), (0x1CD0, 0x1CD2, 1), (0x1CD4, 0x1CE0, 1),
  (0x1CE2, 0x1CE8, 1), (0x1CED, 0x1CED, 1), (0x1CF4, 0x1CF4, 1), (0x1CF8, 0x1CF9, 1),
  (0x1DC0, 0x1DFF, 1), (0x200C, 0x200D, 1), (0x20D0, 0x20F0, 1), (0x302A, 0x302D, 1),
  (0x3099, 0x309A, 1), (0xFE00, 0xFE0F, 1), (0xFE20, 0xFE2D, 1), (0x101FD, 0x101FD, 1),
  (0x102E0, 0x102E0, 1), (0x1133B, 0x1133B, 1), (0x1CF00, 0x1CF2D, 1), (0x1CF30, 0x1CF46, 1),
  (0x1D167, 0x1D169, 1), (0x1D17B, 0x1D182, 1), (0x1D185, 0x1D18B, 1), (0x1D1AA, 0x1D1AD, 1),
  (0xE0100, 0xE01EF, 1)]⟩

end SemanticQuery.Text
