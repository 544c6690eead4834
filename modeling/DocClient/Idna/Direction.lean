import DocClient.Text.Ranges
/-!
The bidi rule for labels of internationalized domain names (RFC 5893), over the
bidirectional classes of Unicode 14.0.
-/
namespace DocClient

namespace Idna

/-- The bidirectional classes of the characters a label may hold. -/
inductive BidiClass where
  | leftToRight
  | rightToLeft
  | arabicLetter
  | europeanNumber
  | europeanSeparator
  | europeanTerminator
  | arabicNumber
  | commonSeparator
  | nonspacingMark
  | boundaryNeutral
  | otherNeutral
  deriving DecidableEq, Repr

/-- Ranges of the characters a label may hold whose class is not left-to-right. -/
def bidiRanges : Array (Nat × Nat × BidiClass) :=
  #[(0x002D, 0x002D, .europeanSeparator), (0x0030, 0x0039, .europeanNumber), (0x00B7, 0x00B7, .otherNeutral),
   (0x02B9, 0x02BA, .otherNeutral), (0x02C6, 0x02CF, .otherNeutral), (0x02EC, 0x02EC, .otherNeutral),
   (0x0300, 0x036F, .nonspacingMark), (0x0375, 0x0375, .otherNeutral), (0x0483, 0x0487, .nonspacingMark),
   (0x0591, 0x05C7, .nonspacingMark), (0x05D0, 0x05F4, .rightToLeft), (0x0610, 0x061A, .nonspacingMark),
   (0x0620, 0x064A, .arabicLetter), (0x064B, 0x065F, .nonspacingMark), (0x0660, 0x0669, .arabicNumber),
   (0x066E, 0x066F, .arabicLetter), (0x0670, 0x0670, .nonspacingMark), (0x0671, 0x06D5, .arabicLetter),
   (0x06D6, 0x06E4, .nonspacingMark), (0x06E5, 0x06E6, .arabicLetter), (0x06E7, 0x06ED, .nonspacingMark),
   (0x06EE, 0x06EF, .arabicLetter), (0x06F0, 0x06F9, .europeanNumber), (0x06FA, 0x0710, .arabicLetter),
   (0x0711, 0x0711, .nonspacingMark), (0x0712, 0x072F, .arabicLetter), (0x0730, 0x074A, .nonspacingMark),
   (0x074D, 0x07A5, .arabicLetter), (0x07A6, 0x07B0, .nonspacingMark), (0x07B1, 0x07B1, .arabicLetter),
   (0x07C0, 0x07EA, .rightToLeft), (0x07EB, 0x07F3, .nonspacingMark), (0x07F4, 0x07F5, .rightToLeft),
   (0x07FD, 0x07FD, .nonspacingMark), (0x0800, 0x0815, .rightToLeft), (0x0816, 0x0819, .nonspacingMark),
   (0x081A, 0x081A, .rightToLeft), (0x081B, 0x0823, .nonspacingMark), (0x0824, 0x0824, .rightToLeft),
   (0x0825, 0x0827, .nonspacingMark), (0x0828, 0x0828, .rightToLeft), (0x0829, 0x082D, .nonspacingMark),
   (0x0840, 0x0858, .rightToLeft), (0x0859, 0x085B, .nonspacingMark), (0x0860, 0x088E, .arabicLetter),
   (0x0898, 0x089F, .nonspacingMark), (0x08A0, 0x08C9, .arabicLetter), (0x08CA, 0x0902, .nonspacingMark),
   (0x093A, 0x093A, .nonspacingMark), (0x093C, 0x093C, .nonspacingMark), (0x0941, 0x0948, .nonspacingMark),
   (0x094D, 0x094D, .nonspacingMark), (0x0951, 0x0957, .nonspacingMark), (0x0962, 0x0963, .nonspacingMark),
   (0x0981, 0x0981, .nonspacingMark), (0x09BC, 0x09BC, .nonspacingMark), (0x09C1, 0x09C4, .nonspacingMark),
   (0x09CD, 0x09CD, .nonspacingMark), (0x09E2, 0x09E3, .nonspacingMark), (0x09FE, 0x0A02, .nonspacingMark),
   (0x0A3C, 0x0A3C, .nonspacingMark), (0x0A41, 0x0A51, .nonspacingMark), (0x0A70, 0x0A71, .nonspacingMark),
   (0x0A75, 0x0A82, .nonspacingMark), (0x0ABC, 0x0ABC, .nonspacingMark), (0x0AC1, 0x0AC8, .nonspacingMark),
   (0x0ACD, 0x0ACD, .nonspacingMark), (0x0AE2, 0x0AE3, .nonspacingMark), (0x0AFA, 0x0B01, .nonspacingMark),
   (0x0B3C, 0x0B3C, .nonspacingMark), (0x0B3F, 0x0B3F, .nonspacingMark), (0x0B41, 0x0B44, .nonspacingMark),
   (0x0B4D, 0x0B56, .nonspacingMark), (0x0B62, 0x0B63, .nonspacingMark), (0x0B82, 0x0B82, .nonspacingMark),
   (0x0BC0, 0x0BC0, .nonspacingMark), (0x0BCD, 0x0BCD, .nonspacingMark), (0x0C00, 0x0C00, .nonspacingMark),
   (0x0C04, 0x0C04, .nonspacingMark), (0x0C3C, 0x0C3C, .nonspacingMark), (0x0C3E, 0x0C40, .nonspacingMark),
   (0x0C46, 0x0C56, .nonspacingMark), (0x0C62, 0x0C63, .nonspacingMark), (0x0C81, 0x0C81, .nonspacingMark),
   (0x0CBC, 0x0CBC, .nonspacingMark), (0x0CCC, 0x0CCD, .nonspacingMark), (0x0CE2, 0x0CE3, .nonspacingMark),
   (0x0D00, 0x0D01, .nonspacingMark), (0x0D3B, 0x0D3C, .nonspacingMark), (0x0D41, 0x0D44, .nonspacingMark),
   (0x0D4D, 0x0D4D, .nonspacingMark), (0x0D62, 0x0D63, .nonspacingMark), (0x0D81, 0x0D81, .nonspacingMark),
   (0x0DCA, 0x0DCA, .nonspacingMark), (0x0DD2, 0x0DD6, .nonspacingMark), (0x0E31, 0x0E31, .nonspacingMark),
   (0x0E34, 0x0E3A, .nonspacingMark), (0x0E47, 0x0E4E, .nonspacingMark), (0x0EB1, 0x0EB1, .nonspacingMark),
   (0x0EB4, 0x0EBC, .nonspacingMark), (0x0EC8, 0x0ECD, .nonspacingMark), (0x0F18, 0x0F19, .nonspacingMark),
   (0x0F35, 0x0F39, .nonspacingMark), (0x0F71, 0x0F7E, .nonspacingMark), (0x0F80, 0x0F87, .nonspacingMark),
   (0x0F8D, 0x0FC6, .nonspacingMark), (0x102D, 0x1030, .nonspacingMark), (0x1032, 0x1037, .nonspacingMark),
   (0x1039, 0x103A, .nonspacingMark), (0x103D, 0x103E, .nonspacingMark), (0x1058, 0x1059, .nonspacingMark),
   (0x105E, 0x1060, .nonspacingMark), (0x1071, 0x1074, .nonspacingMark), (0x1082, 0x1082, .nonspacingMark),
   (0x1085, 0x1086, .nonspacingMark), (0x108D, 0x108D, .nonspacingMark), (0x109D, 0x109D, .nonspacingMark),
   (0x135D, 0x135F, .nonspacingMark), (0x1712, 0x1714, .nonspacingMark), (0x1732, 0x1733, .nonspacingMark),
   (0x1752, 0x1753, .nonspacingMark), (0x1772, 0x1773, .nonspacingMark), (0x17B7, 0x17BD, .nonspacingMark),
   (0x17C6, 0x17C6, .nonspacingMark), (0x17C9, 0x17D3, .nonspacingMark), (0x17DD, 0x17DD, .nonspacingMark),
   (0x1885, 0x1886, .nonspacingMark), (0x18A9, 0x18A9, .nonspacingMark), (0x1920, 0x1922, .nonspacingMark),
   (0x1927, 0x1928, .nonspacingMark), (0x1932, 0x1932, .nonspacingMark), (0x1939, 0x193B, .nonspacingMark),
   (0x1A17, 0x1A18, .nonspacingMark), (0x1A1B, 0x1A1B, .nonspacingMark), (0x1A56, 0x1A56, .nonspacingMark),
   (0x1A58, 0x1A60, .nonspacingMark), (0x1A62, 0x1A62, .nonspacingMark), (0x1A65, 0x1A6C, .nonspacingMark),
   (0x1A73, 0x1A7F, .nonspacingMark), (0x1AB0, 0x1B03, .nonspacingMark), (0x1B34, 0x1B34, .nonspacingMark),
   (0x1B36, 0x1B3A, .nonspacingMark), (0x1B3C, 0x1B3C, .nonspacingMark), (0x1B42, 0x1B42, .nonspacingMark),
   (0x1B6B, 0x1B81, .nonspacingMark), (0x1BA2, 0x1BA5, .nonspacingMark), (0x1BA8, 0x1BA9, .nonspacingMark),
   (0x1BAB, 0x1BAD, .nonspacingMark), (0x1BE6, 0x1BE6, .nonspacingMark), (0x1BE8, 0x1BE9, .nonspacingMark),
   (0x1BED, 0x1BED, .nonspacingMark), (0x1BEF, 0x1BF1, .nonspacingMark), (0x1C2C, 0x1C33, .nonspacingMark),
   (0x1C36, 0x1C37, .nonspacingMark), (0x1CD0, 0x1CE0, .nonspacingMark), (0x1CE2, 0x1CE8, .nonspacingMark),
   (0x1CED, 0x1CED, .nonspacingMark), (0x1CF4, 0x1CF4, .nonspacingMark), (0x1CF8, 0x1CF9, .nonspacingMark),
   (0x1DC0, 0x1DFF, .nonspacingMark), (0x200C, 0x200D, .boundaryNeutral), (0x2CEF, 0x2CF1, .nonspacingMark),
   (0x2D7F, 0x2D7F, .nonspacingMark), (0x2DE0, 0x2DFF, .nonspacingMark), (0x2E2F, 0x2E2F, .otherNeutral),
   (0x302A, 0x302D, .nonspacingMark), (0x3099, 0x309A, .nonspacingMark), (0x30FB, 0x30FB, .otherNeutral),
   (0xA66F, 0xA67D, .nonspacingMark), (0xA67F, 0xA67F, .otherNeutral), (0xA69E, 0xA69F, .nonspacingMark),
   (0xA6F0, 0xA6F1, .nonspacingMark), (0xA717, 0xA71F, .otherNeutral), (0xA788, 0xA788, .otherNeutral),
   (0xA802, 0xA802, .nonspacingMark), (0xA806, 0xA806, .nonspacingMark), (0xA80B, 0xA80B, .nonspacingMark),
   (0xA825, 0xA826, .nonspacingMark), (0xA82C, 0xA82C, .nonspacingMark), (0xA8C4, 0xA8C5, .nonspacingMark),
   (0xA8E0, 0xA8F1, .nonspacingMark), (0xA8FF, 0xA8FF, .nonspacingMark), (0xA926, 0xA92D, .nonspacingMark),
   (0xA947, 0xA951, .nonspacingMark), (0xA980, 0xA982, .nonspacingMark), (0xA9B3, 0xA9B3, .nonspacingMark),
   (0xA9B6, 0xA9B9, .nonspacingMark), (0xA9BC, 0xA9BD, .nonspacingMark), (0xA9E5, 0xA9E5, .nonspacingMark),
   (0xAA29, 0xAA2E, .nonspacingMark), (0xAA31, 0xAA32, .nonspacingMark), (0xAA35, 0xAA36, .nonspacingMark),
   (0xAA43, 0xAA43, .nonspacingMark), (0xAA4C, 0xAA4C, .nonspacingMark), (0xAA7C, 0xAA7C, .nonspacingMark),
   (0xAAB0, 0xAAB0, .nonspacingMark), (0xAAB2, 0xAAB4, .nonspacingMark), (0xAAB7, 0xAAB8, .nonspacingMark),
   (0xAABE, 0xAABF, .nonspacingMark), (0xAAC1, 0xAAC1, .nonspacingMark), (0xAAEC, 0xAAED, .nonspacingMark),
   (0xAAF6, 0xAAF6, .nonspacingMark), (0xABE5, 0xABE5, .nonspacingMark), (0xABE8, 0xABE8, .nonspacingMark),
   (0xABED, 0xABED, .nonspacingMark), (0xFB1E, 0xFE2F, .nonspacingMark), (0xFE73, 0xFE73, .arabicLetter),
   (0x101FD, 0x101FD, .nonspacingMark), (0x102E0, 0x102E0, .nonspacingMark), (0x10376, 0x1037A, .nonspacingMark),
   (0x10800, 0x10A00, .rightToLeft), (0x10A01, 0x10A0F, .nonspacingMark), (0x10A10, 0x10A35, .rightToLeft),
   (0x10A38, 0x10A3F, .nonspacingMark), (0x10A60, 0x10AE4, .rightToLeft), (0x10AE5, 0x10AE6, .nonspacingMark),
   (0x10B00, 0x10CF2, .rightToLeft), (0x10D00, 0x10D23, .arabicLetter), (0x10D24, 0x10D27, .nonspacingMark),
   (0x10D30, 0x10D39, .arabicNumber), (0x10E80, 0x10EA9, .rightToLeft), (0x10EAB, 0x10EAC, .nonspacingMark),
   (0x10EB0, 0x10F27, .rightToLeft), (0x10F30, 0x10F45, .arabicLetter), (0x10F46, 0x10F50, .nonspacingMark),
   (0x10F70, 0x10F81, .rightToLeft), (0x10F82, 0x10F85, .nonspacingMark), (0x10FB0, 0x10FF6, .rightToLeft),
   (0x11001, 0x11001, .nonspacingMark), (0x11038, 0x11046, .nonspacingMark), (0x11070, 0x11070, .nonspacingMark),
   (0x11073, 0x11074, .nonspacingMark), (0x1107F, 0x11081, .nonspacingMark), (0x110B3, 0x110B6, .nonspacingMark),
   (0x110B9, 0x110C2, .nonspacingMark), (0x11100, 0x11102, .nonspacingMark), (0x11127, 0x1112B, .nonspacingMark),
   (0x1112D, 0x11134, .nonspacingMark), (0x11173, 0x11173, .nonspacingMark), (0x11180, 0x11181, .nonspacingMark),
   (0x111B6, 0x111BE, .nonspacingMark), (0x111C9, 0x111CC, .nonspacingMark), (0x111CF, 0x111CF, .nonspacingMark),
   (0x1122F, 0x11231, .nonspacingMark), (0x11234, 0x11234, .nonspacingMark), (0x11236, 0x1123E, .nonspacingMark),
   (0x112DF, 0x112DF, .nonspacingMark), (0x112E3, 0x112EA, .nonspacingMark), (0x11300, 0x11301, .nonspacingMark),
   (0x1133B, 0x1133C, .nonspacingMark), (0x11340, 0x11340, .nonspacingMark), (0x11366, 0x11374, .nonspacingMark),
   (0x11438, 0x1143F, .nonspacingMark), (0x11442, 0x11444, .nonspacingMark), (0x11446, 0x11446, .nonspacingMark),
   (0x1145E, 0x1145E, .nonspacingMark), (0x114B3, 0x114B8, .nonspacingMark), (0x114BA, 0x114BA, .nonspacingMark),
   (0x114BF, 0x114C0, .nonspacingMark), (0x114C2, 0x114C3, .nonspacingMark), (0x115B2, 0x115B5, .nonspacingMark),
   (0x115BC, 0x115BD, .nonspacingMark), (0x115BF, 0x115C0, .nonspacingMark), (0x115DC, 0x115DD, .nonspacingMark),
   (0x11633, 0x1163A, .nonspacingMark), (0x1163D, 0x1163D, .nonspacingMark), (0x1163F, 0x11640, .nonspacingMark),
   (0x116AB, 0x116AB, .nonspacingMark), (0x116AD, 0x116AD, .nonspacingMark), (0x116B0, 0x116B5, .nonspacingMark),
   (0x116B7, 0x116B7, .nonspacingMark), (0x1171D, 0x1171F, .nonspacingMark), (0x11722, 0x11725, .nonspacingMark),
   (0x11727, 0x1172B, .nonspacingMark), (0x1182F, 0x11837, .nonspacingMark), (0x11839, 0x1183A, .nonspacingMark),
   (0x1193B, 0x1193C, .nonspacingMark), (0x1193E, 0x1193E, .nonspacingMark), (0x11943, 0x11943, .nonspacingMark),
   (0x119D4, 0x119DB, .nonspacingMark), (0x119E0, 0x119E0, .nonspacingMark), (0x11A01, 0x11A06, .nonspacingMark),
   (0x11A09, 0x11A0A, .nonspacingMark), (0x11A33, 0x11A38, .nonspacingMark), (0x11A3B, 0x11A47, .nonspacingMark),
   (0x11A51, 0x11A56, .nonspacingMark), (0x11A59, 0x11A5B, .nonspacingMark), (0x11A8A, 0x11A96, .nonspacingMark),
   (0x11A98, 0x11A99, .nonspacingMark), (0x11C30, 0x11C3D, .nonspacingMark), (0x11C92, 0x11CA7, .nonspacingMark),
   (0x11CAA, 0x11CB0, .nonspacingMark), (0x11CB2, 0x11CB3, .nonspacingMark), (0x11CB5, 0x11CB6, .nonspacingMark),
   (0x11D31, 0x11D45, .nonspacingMark), (0x11D47, 0x11D47, .nonspacingMark), (0x11D90, 0x11D91, .nonspacingMark),
   (0x11D95, 0x11D95, .nonspacingMark), (0x11D97, 0x11D97, .nonspacingMark), (0x11EF3, 0x11EF4, .nonspacingMark),
   (0x16AF0, 0x16AF4, .nonspacingMark), (0x16B30, 0x16B36, .nonspacingMark), (0x16F4F, 0x16F4F, .nonspacingMark),
   (0x16F8F, 0x16F92, .nonspacingMark), (0x16FE4, 0x16FE4, .nonspacingMark), (0x1BC9D, 0x1DAAF, .nonspacingMark),
   (0x1E000, 0x1E02A, .nonspacingMark), (0x1E130, 0x1E136, .nonspacingMark), (0x1E2AE, 0x1E2AE, .nonspacingMark),
   (0x1E2EC, 0x1E2EF, .nonspacingMark), (0x1E800, 0x1E8C4, .rightToLeft), (0x1E8D0, 0x1E8D6, .nonspacingMark),
   (0x1E922, 0x1E943, .rightToLeft), (0x1E944, 0x1E94A, .nonspacingMark), (0x1E94B, 0x1E959, .rightToLeft)]

/-- The bidirectional class of a character a label may hold. -/
def bidiClass (c : Char) : BidiClass := (Ranges.find? bidiRanges c.toNat).getD .leftToRight

namespace BidiClass

/-- The classes that make the rule apply to a label. -/
def isRightToLeft (d : BidiClass) : Bool :=
  d == .rightToLeft || d == .arabicLetter || d == .arabicNumber

/-- The classes a right-to-left label may hold. -/
def fitsRightToLeft (d : BidiClass) : Bool := d != .leftToRight

/-- The classes a left-to-right label may hold. -/
def fitsLeftToRight (d : BidiClass) : Bool :=
  d != .rightToLeft && d != .arabicLetter && d != .arabicNumber

/-- The classes a right-to-left label may end with. -/
def endsRightToLeft (d : BidiClass) : Bool :=
  d == .rightToLeft || d == .arabicLetter || d == .europeanNumber || d == .arabicNumber

/-- The classes a left-to-right label may end with. -/
def endsLeftToRight (d : BidiClass) : Bool := d == .leftToRight || d == .europeanNumber

end BidiClass

/-- The class a label ends with, nonspacing marks aside. -/
def lastClass (ds : List BidiClass) : Option BidiClass :=
  (ds.filter (· != .nonspacingMark)).getLast?

/-- Whether the classes of a right-to-left label meet the rule. -/
def rightToLeftHolds (ds : List BidiClass) : Bool :=
  ds.all BidiClass.fitsRightToLeft && (lastClass ds).any BidiClass.endsRightToLeft &&
    !(ds.contains .europeanNumber && ds.contains .arabicNumber)

/-- Whether the classes of a left-to-right label meet the rule. -/
def leftToRightHolds (ds : List BidiClass) : Bool :=
  ds.all BidiClass.fitsLeftToRight && (lastClass ds).any BidiClass.endsLeftToRight

/-- Whether a label meets the bidi rule. -/
def bidiRuleHolds (cs : List Char) : Bool :=
  let ds := cs.map bidiClass
  if !ds.any BidiClass.isRightToLeft then true
  else
    match ds with
    | [] => true
    | d :: _ =>
      if d == .rightToLeft || d == .arabicLetter then rightToLeftHolds ds
      else if d == .leftToRight then leftToRightHolds ds
      else false

theorem bidiRuleHolds_of_no_rightToLeft (cs : List Char)
    (h : ∀ c ∈ cs, (bidiClass c).isRightToLeft = false) : bidiRuleHolds cs = true := by
  have hn : (cs.map bidiClass).any BidiClass.isRightToLeft = false := by
    rw [List.any_eq_false]
    intro d hd
    obtain ⟨c, hc, rfl⟩ := List.mem_map.mp hd
    simp [h c hc]
  simp [bidiRuleHolds, hn]

end Idna

end DocClient
