import DocClient.Text.Ranges
/-!
Lowercase by the full lowercase mapping of Unicode 14.0, without the final-sigma rule.
-/
namespace DocClient

namespace Case

/-- Runs of characters with a one-character lowercase, with the step between them. -/
def lowerRuns : Array (Nat × Nat × Nat × Nat) :=
  #[(0x0041, 0x005A, 0x0061, 1), (0x00C0, 0x00D6, 0x00E0, 1), (0x00D8, 0x00DE, 0x00F8, 1),
   (0x0100, 0x012E, 0x0101, 2), (0x0132, 0x0136, 0x0133, 2), (0x0139, 0x0147, 0x013A, 2),
   (0x014A, 0x0176, 0x014B, 2), (0x0178, 0x0178, 0x00FF, 1), (0x0179, 0x017D, 0x017A, 2),
   (0x0181, 0x0181, 0x0253, 1), (0x0182, 0x0184, 0x0183, 2), (0x0186, 0x0186, 0x0254, 1),
   (0x0187, 0x0187, 0x0188, 1), (0x0189, 0x018A, 0x0256, 1), (0x018B, 0x018B, 0x018C, 1),
   (0x018E, 0x018E, 0x01DD, 1), (0x018F, 0x018F, 0x0259, 1), (0x0190, 0x0190, 0x025B, 1),
   (0x0191, 0x0191, 0x0192, 1), (0x0193, 0x0193, 0x0260, 1), (0x0194, 0x0194, 0x0263, 1),
   (0x0196, 0x0196, 0x0269, 1), (0x0197, 0x0197, 0x0268, 1), (0x0198, 0x0198, 0x0199, 1),
   (0x019C, 0x019C, 0x026F, 1), (0x019D, 0x019D, 0x0272, 1), (0x019F, 0x019F, 0x0275, 1),
   (0x01A0, 0x01A4, 0x01A1, 2), (0x01A6, 0x01A6, 0x0280, 1), (0x01A7, 0x01A7, 0x01A8, 1),
   (0x01A9, 0x01A9, 0x0283, 1), (0x01AC, 0x01AC, 0x01AD, 1), (0x01AE, 0x01AE, 0x0288, 1),
   (0x01AF, 0x01AF, 0x01B0, 1), (0x01B1, 0x01B2, 0x028A, 1), (0x01B3, 0x01B5, 0x01B4, 2),
   (0x01B7, 0x01B7, 0x0292, 1), (0x01B8, 0x01B8, 0x01B9, 1), (0x01BC, 0x01BC, 0x01BD, 1),
   (0x01C4, 0x01C4, 0x01C6, 1), (0x01C5, 0x01C5, 0x01C6, 1), (0x01C7, 0x01C7, 0x01C9, 1),
   (0x01C8, 0x01C8, 0x01C9, 1), (0x01CA, 0x01CA, 0x01CC, 1), (0x01CB, 0x01DB, 0x01CC, 2),
   (0x01DE, 0x01EE, 0x01DF, 2), (0x01F1, 0x01F1, 0x01F3, 1), (0x01F2, 0x01F4, 0x01F3, 2),
   (0x01F6, 0x01F6, 0x0195, 1), (0x01F7, 0x01F7, 0x01BF, 1), (0x01F8, 0x021E, 0x01F9, 2),
   (0x0220, 0x0220, 0x019E, 1), (0x0222, 0x0232, 0x0223, 2), (0x023A, 0x023A, 0x2C65, 1),
   (0x023B, 0x023B, 0x023C, 1), (0x023D, 0x023D, 0x019A, 1), (0x023E, 0x023E, 0x2C66, 1),
   (0x0241, 0x0241, 0x0242, 1), (0x0243, 0x0243, 0x0180, 1), (0x0244, 0x0244, 0x0289, 1),
   (0x0245, 0x0245, 0x028C, 1), (0x0246, 0x024E, 0x0247, 2), (0x0370, 0x0372, 0x0371, 2),
   (0x0376, 0x0376, 0x0377, 1), (0x037F, 0x037F, 0x03F3, 1), (0x0386, 0x0386, 0x03AC, 1),
   (0x0388, 0x038A, 0x03AD, 1), (0x038C, 0x038C, 0x03CC, 1), (0x038E, 0x038F, 0x03CD, 1),
   (0x0391, 0x03A1, 0x03B1, 1), (0x03A3, 0x03AB, 0x03C3, 1), (0x03CF, 0x03CF, 0x03D7, 1),
   (0x03D8, 0x03EE, 0x03D9, 2), (0x03F4, 0x03F4, 0x03B8, 1), (0x03F7, 0x03F7, 0x03F8, 1),
   (0x03F9, 0x03F9, 0x03F2, 1), (0x03FA, 0x03FA, 0x03FB, 1), (0x03FD, 0x03FF, 0x037B, 1),
   (0x0400, 0x040F, 0x0450, 1), (0x0410, 0x042F, 0x0430, 1), (0x0460, 0x0480, 0x0461, 2),
   (0x048A, 0x04BE, 0x048B, 2), (0x04C0, 0x04C0, 0x04CF, 1), (0x04C1, 0x04CD, 0x04C2, 2),
   (0x04D0, 0x052E, 0x04D1, 2), (0x0531, 0x0556, 0x0561, 1), (0x10A0, 0x10C5, 0x2D00, 1),
   (0x10C7, 0x10C7, 0x2D27, 1), (0x10CD, 0x10CD, 0x2D2D, 1), (0x13A0, 0x13EF, 0xAB70, 1),
   (0x13F0, 0x13F5, 0x13F8, 1), (0x1C90, 0x1CBA, 0x10D0, 1), (0x1CBD, 0x1CBF, 0x10FD, 1),
   (0x1E00, 0x1E94, 0x1E01, 2), (0x1E9E, 0x1E9E, 0x00DF, 1), (0x1EA0, 0x1EFE, 0x1EA1, 2),
   (0x1F08, 0x1F0F, 0x1F00, 1), (0x1F18, 0x1F1D, 0x1F10, 1), (0x1F28, 0x1F2F, 0x1F20, 1),
   (0x1F38, 0x1F3F, 0x1F30, 1), (0x1F48, 0x1F4D, 0x1F40, 1), (0x1F59, 0x1F5F, 0x1F51, 2),
   (0x1F68, 0x1F6F, 0x1F60, 1), (0x1F88, 0x1F8F, 0x1F80, 1), (0x1F98, 0x1F9F, 0x1F90, 1),
   (0x1FA8, 0x1FAF, 0x1FA0, 1), (0x1FB8, 0x1FB9, 0x1FB0, 1), (0x1FBA, 0x1FBB, 0x1F70, 1),
   (0x1FBC, 0x1FBC, 0x1FB3, 1), (0x1FC8, 0x1FCB, 0x1F72, 1), (0x1FCC, 0x1FCC, 0x1FC3, 1),
   (0x1FD8, 0x1FD9, 0x1FD0, 1), (0x1FDA, 0x1FDB, 0x1F76, 1), (0x1FE8, 0x1FE9, 0x1FE0, 1),
   (0x1FEA, 0x1FEB, 0x1F7A, 1), (0x1FEC, 0x1FEC, 0x1FE5, 1), (0x1FF8, 0x1FF9, 0x1F78, 1),
   (0x1FFA, 0x1FFB, 0x1F7C, 1), (0x1FFC, 0x1FFC, 0x1FF3, 1), (0x2126, 0x2126, 0x03C9, 1),
   (0x212A, 0x212A, 0x006B, 1), (0x212B, 0x212B, 0x00E5, 1), (0x2132, 0x2132, 0x214E, 1),
   (0x2160, 0x216F, 0x2170, 1), (0x2183, 0x2183, 0x2184, 1), (0x24B6, 0x24CF, 0x24D0, 1),
   (0x2C00, 0x2C2F, 0x2C30, 1), (0x2C60, 0x2C60, 0x2C61, 1), (0x2C62, 0x2C62, 0x026B, 1),
   (0x2C63, 0x2C63, 0x1D7D, 1), (0x2C64, 0x2C64, 0x027D, 1), (0x2C67, 0x2C6B, 0x2C68, 2),
   (0x2C6D, 0x2C6D, 0x0251, 1), (0x2C6E, 0x2C6E, 0x0271, 1), (0x2C6F, 0x2C6F, 0x0250, 1),
   (0x2C70, 0x2C70, 0x0252, 1), (0x2C72, 0x2C72, 0x2C73, 1), (0x2C75, 0x2C75, 0x2C76, 1),
   (0x2C7E, 0x2C7F, 0x023F, 1), (0x2C80, 0x2CE2, 0x2C81, 2), (0x2CEB, 0x2CED, 0x2CEC, 2),
   (0x2CF2, 0x2CF2, 0x2CF3, 1), (0xA640, 0xA66C, 0xA641, 2), (0xA680, 0xA69A, 0xA681, 2),
   (0xA722, 0xA72E, 0xA723, 2), (0xA732, 0xA76E, 0xA733, 2), (0xA779, 0xA77B, 0xA77A, 2),
   (0xA77D, 0xA77D, 0x1D79, 1), (0xA77E, 0xA786, 0xA77F, 2), (0xA78B, 0xA78B, 0xA78C, 1),
   (0xA78D, 0xA78D, 0x0265, 1), (0xA790, 0xA792, 0xA791, 2), (0xA796, 0xA7A8, 0xA797, 2),
   (0xA7AA, 0xA7AA, 0x0266, 1), (0xA7AB, 0xA7AB, 0x025C, 1), (0xA7AC, 0xA7AC, 0x0261, 1),
   (0xA7AD, 0xA7AD, 0x026C, 1), (0xA7AE, 0xA7AE, 0x026A, 1), (0xA7B0, 0xA7B0, 0x029E, 1),
   (0xA7B1, 0xA7B1, 0x0287, 1), (0xA7B2, 0xA7B2, 0x029D, 1), (0xA7B3, 0xA7B3, 0xAB53, 1),
   (0xA7B4, 0xA7C2, 0xA7B5, 2), (0xA7C4, 0xA7C4, 0xA794, 1), (0xA7C5, 0xA7C5, 0x0282, 1),
   (0xA7C6, 0xA7C6, 0x1D8E, 1), (0xA7C7, 0xA7C9, 0xA7C8, 2), (0xA7D0, 0xA7D0, 0xA7D1, 1),
   (0xA7D6, 0xA7D8, 0xA7D7, 2), (0xA7F5, 0xA7F5, 0xA7F6, 1), (0xFF21, 0xFF3A, 0xFF41, 1),
   (0x10400, 0x10427, 0x10428, 1), (0x104B0, 0x104D3, 0x104D8, 1), (0x10570, 0x1057A, 0x10597, 1),
   (0x1057C, 0x1058A, 0x105A3, 1), (0x1058C, 0x10592, 0x105B3, 1), (0x10594, 0x10595, 0x105BB, 1),
   (0x10C80, 0x10CB2, 0x10CC0, 1), (0x118A0, 0x118BF, 0x118C0, 1), (0x16E40, 0x16E5F, 0x16E60, 1),
   (0x1E900, 0x1E921, 0x1E922, 1)]

/-- The lowercase of a character. -/
def lowerChar (c : Char) : List Char :=
  if c.toNat = 0x130 then ['i', '\u0307']
  else
    match Ranges.rangeOf? lowerRuns c.toNat with
    | some (first, _, target, step) =>
      let d := c.toNat - first
      if d % step = 0 then [Char.ofNat (target + d)] else [c]
    | none => [c]

/-- The lowercase of a text, character by character. -/
def lower (cs : List Char) : List Char := cs.flatMap lowerChar

@[simp] theorem lower_nil : lower [] = [] := rfl

theorem lower_cons (c : Char) (cs : List Char) : lower (c :: cs) = lowerChar c ++ lower cs := by
  simp [lower]

theorem lower_append (xs ys : List Char) : lower (xs ++ ys) = lower xs ++ lower ys := by
  simp [lower]

end Case

end DocClient
