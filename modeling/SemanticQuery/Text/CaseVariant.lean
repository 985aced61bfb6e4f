import SemanticQuery.Text.Case

/-!
# Variants of case

The characters that are one when case does not count. Most characters have at most one small and
one capital form; the others are listed.
-/

namespace SemanticQuery.Text

/-- Characters with the same variants that the tables of case do not lead to, or that they lead to
and that are no variants. -/
def variantLists : List (List Nat) := [
  [0x4B, 0x6B, 0x212A], [0x53, 0x73, 0x17F], [0xB5, 0x39C, 0x3BC], [0xC5, 0xE5, 0x212B],
  [0xDF, 0x1E9E], [0x131], [0x1C4, 0x1C5, 0x1C6], [0x1C7, 0x1C8, 0x1C9], [0x1CA, 0x1CB, 0x1CC],
  [0x1F1, 0x1F2, 0x1F3], [0x345, 0x399, 0x3B9, 0x1FBE], [0x390, 0x1FD3], [0x392, 0x3B2, 0x3D0],
  [0x395, 0x3B5, 0x3F5], [0x398, 0x3B8, 0x3D1, 0x3F4], [0x39A, 0x3BA, 0x3F0],
  [0x3A0, 0x3C0, 0x3D6], [0x3A1, 0x3C1, 0x3F1], [0x3A3, 0x3C2, 0x3C3], [0x3A6, 0x3C6, 0x3D5],
  [0x3A9, 0x3C9, 0x2126], [0x3B0, 0x1FE3], [0x412, 0x432, 0x1C80], [0x414, 0x434, 0x1C81],
  [0x41E, 0x43E, 0x1C82], [0x421, 0x441, 0x1C83], [0x422, 0x442, 0x1C84, 0x1C85],
  [0x42A, 0x44A, 0x1C86], [0x462, 0x463, 0x1C87], [0x1C88, 0xA64A, 0xA64B],
  [0x1E60, 0x1E61, 0x1E9B], [0x1F80, 0x1F88], [0x1F81, 0x1F89], [0x1F82, 0x1F8A],
  [0x1F83, 0x1F8B], [0x1F84, 0x1F8C], [0x1F85, 0x1F8D], [0x1F86, 0x1F8E], [0x1F87, 0x1F8F],
  [0x1F90, 0x1F98], [0x1F91, 0x1F99], [0x1F92, 0x1F9A], [0x1F93, 0x1F9B], [0x1F94, 0x1F9C],
  [0x1F95, 0x1F9D], [0x1F96, 0x1F9E], [0x1F97, 0x1F9F], [0x1FA0, 0x1FA8], [0x1FA1, 0x1FA9],
  [0x1FA2, 0x1FAA], [0x1FA3, 0x1FAB], [0x1FA4, 0x1FAC], [0x1FA5, 0x1FAD], [0x1FA6, 0x1FAE],
  [0x1FA7, 0x1FAF], [0x1FB3, 0x1FBC], [0x1FC3, 0x1FCC], [0x1FF3, 0x1FFC], [0xFB05, 0xFB06]]

/-- The variants of a character, itself among them. -/
def caseVariants (c : Char) : List Char :=
  match variantLists.find? (·.contains c.toNat) with
  | some codes => codes.map Char.ofNat
  | none => [c, shifted lowerShifts c, shifted upperShifts c]

end SemanticQuery.Text
