import DocClient.Idna.Composed
/-!
The contexts the joiners and other contextual characters need in a label (RFC 5892,
appendix A).
-/
namespace DocClient

namespace Idna

/-- How a character joins its neighbours in cursive scripts. -/
inductive JoiningType where
  /-- Makes its neighbours join, without changing shape itself. -/
  | causing
  /-- Joins on both sides. -/
  | dual
  /-- Joins on the left side only. -/
  | left
  /-- Joins on the right side only. -/
  | right
  /-- Lets its neighbours join across it. -/
  | transparent
  deriving DecidableEq, Repr

/-- The scripts the contextual rules name. -/
inductive Script where
  | greek
  | han
  | hebrew
  | hiragana
  | katakana
  deriving DecidableEq, Repr

/-- Ranges of the characters a label may hold that join, with their joining type. -/
def joiningRanges : Array (Nat × Nat × JoiningType) :=
  #[(0x0300, 0x036F, .transparent), (0x0483, 0x0487, .transparent), (0x0591, 0x05C7, .transparent),
   (0x0610, 0x061A, .transparent), (0x0620, 0x0620, .dual), (0x0622, 0x0625, .right),
   (0x0626, 0x0626, .dual), (0x0627, 0x0627, .right), (0x0628, 0x0628, .dual),
   (0x0629, 0x0629, .right), (0x062A, 0x062E, .dual), (0x062F, 0x0632, .right),
   (0x0633, 0x0647, .dual), (0x0648, 0x0648, .right), (0x0649, 0x064A, .dual),
   (0x064B, 0x065F, .transparent), (0x066E, 0x066F, .dual), (0x0670, 0x0670, .transparent),
   (0x0671, 0x0673, .right), (0x0679, 0x0687, .dual), (0x0688, 0x0699, .right),
   (0x069A, 0x06BF, .dual), (0x06C0, 0x06C0, .right), (0x06C1, 0x06C2, .dual),
   (0x06C3, 0x06CB, .right), (0x06CC, 0x06CC, .dual), (0x06CD, 0x06CD, .right),
   (0x06CE, 0x06CE, .dual), (0x06CF, 0x06CF, .right), (0x06D0, 0x06D1, .dual),
   (0x06D2, 0x06D5, .right), (0x06D6, 0x06E4, .transparent), (0x06E7, 0x06ED, .transparent),
   (0x06EE, 0x06EF, .right), (0x06FA, 0x06FC, .dual), (0x06FF, 0x06FF, .dual),
   (0x0710, 0x0710, .right), (0x0711, 0x0711, .transparent), (0x0712, 0x0714, .dual),
   (0x0715, 0x0719, .right), (0x071A, 0x071D, .dual), (0x071E, 0x071E, .right),
   (0x071F, 0x0727, .dual), (0x0728, 0x0728, .right), (0x0729, 0x0729, .dual),
   (0x072A, 0x072A, .right), (0x072B, 0x072B, .dual), (0x072C, 0x072C, .right),
   (0x072D, 0x072E, .dual), (0x072F, 0x072F, .right), (0x0730, 0x074A, .transparent),
   (0x074D, 0x074D, .right), (0x074E, 0x0758, .dual), (0x0759, 0x075B, .right),
   (0x075C, 0x076A, .dual), (0x076B, 0x076C, .right), (0x076D, 0x0770, .dual),
   (0x0771, 0x0771, .right), (0x0772, 0x0772, .dual), (0x0773, 0x0774, .right),
   (0x0775, 0x0777, .dual), (0x0778, 0x0779, .right), (0x077A, 0x077F, .dual),
   (0x07A6, 0x07B0, .transparent), (0x07CA, 0x07EA, .dual), (0x07EB, 0x07F3, .transparent),
   (0x07FD, 0x07FD, .transparent), (0x0816, 0x0819, .transparent), (0x081B, 0x0823, .transparent),
   (0x0825, 0x0827, .transparent), (0x0829, 0x082D, .transparent), (0x0840, 0x0840, .right),
   (0x0841, 0x0845, .dual), (0x0846, 0x0847, .right), (0x0848, 0x0848, .dual),
   (0x0849, 0x0849, .right), (0x084A, 0x0853, .dual), (0x0854, 0x0854, .right),
   (0x0855, 0x0855, .dual), (0x0856, 0x0858, .right), (0x0859, 0x085B, .transparent),
   (0x0860, 0x0860, .dual), (0x0862, 0x0865, .dual), (0x0867, 0x0867, .right),
   (0x0868, 0x0868, .dual), (0x0869, 0x0882, .right), (0x0883, 0x0885, .causing),
   (0x0886, 0x0886, .dual), (0x0889, 0x088D, .dual), (0x088E, 0x088E, .right),
   (0x0898, 0x089F, .transparent), (0x08A0, 0x08A9, .dual), (0x08AA, 0x08AC, .right),
   (0x08AE, 0x08AE, .right), (0x08AF, 0x08B0, .dual), (0x08B1, 0x08B2, .right),
   (0x08B3, 0x08B8, .dual), (0x08B9, 0x08B9, .right), (0x08BA, 0x08C8, .dual),
   (0x08CA, 0x0902, .transparent), (0x093A, 0x093A, .transparent), (0x093C, 0x093C, .transparent),
   (0x0941, 0x0948, .transparent), (0x094D, 0x094D, .transparent), (0x0951, 0x0957, .transparent),
   (0x0962, 0x0963, .transparent), (0x0981, 0x0981, .transparent), (0x09BC, 0x09BC, .transparent),
   (0x09C1, 0x09C4, .transparent), (0x09CD, 0x09CD, .transparent), (0x09E2, 0x09E3, .transparent),
   (0x09FE, 0x0A02, .transparent), (0x0A3C, 0x0A3C, .transparent), (0x0A41, 0x0A51, .transparent),
   (0x0A70, 0x0A71, .transparent), (0x0A75, 0x0A82, .transparent), (0x0ABC, 0x0ABC, .transparent),
   (0x0AC1, 0x0AC8, .transparent), (0x0ACD, 0x0ACD, .transparent), (0x0AE2, 0x0AE3, .transparent),
   (0x0AFA, 0x0B01, .transparent), (0x0B3C, 0x0B3C, .transparent), (0x0B3F, 0x0B3F, .transparent),
   (0x0B41, 0x0B44, .transparent), (0x0B4D, 0x0B56, .transparent), (0x0B62, 0x0B63, .transparent),
   (0x0B82, 0x0B82, .transparent), (0x0BC0, 0x0BC0, .transparent), (0x0BCD, 0x0BCD, .transparent),
   (0x0C00, 0x0C00, .transparent), (0x0C04, 0x0C04, .transparent), (0x0C3C, 0x0C3C, .transparent),
   (0x0C3E, 0x0C40, .transparent), (0x0C46, 0x0C56, .transparent), (0x0C62, 0x0C63, .transparent),
   (0x0C81, 0x0C81, .transparent), (0x0CBC, 0x0CBC, .transparent), (0x0CBF, 0x0CBF, .transparent),
   (0x0CC6, 0x0CC6, .transparent), (0x0CCC, 0x0CCD, .transparent), (0x0CE2, 0x0CE3, .transparent),
   (0x0D00, 0x0D01, .transparent), (0x0D3B, 0x0D3C, .transparent), (0x0D41, 0x0D44, .transparent),
   (0x0D4D, 0x0D4D, .transparent), (0x0D62, 0x0D63, .transparent), (0x0D81, 0x0D81, .transparent),
   (0x0DCA, 0x0DCA, .transparent), (0x0DD2, 0x0DD6, .transparent), (0x0E31, 0x0E31, .transparent),
   (0x0E34, 0x0E3A, .transparent), (0x0E47, 0x0E4E, .transparent), (0x0EB1, 0x0EB1, .transparent),
   (0x0EB4, 0x0EBC, .transparent), (0x0EC8, 0x0ECD, .transparent), (0x0F18, 0x0F19, .transparent),
   (0x0F35, 0x0F39, .transparent), (0x0F71, 0x0F7E, .transparent), (0x0F80, 0x0F87, .transparent),
   (0x0F8D, 0x0FC6, .transparent), (0x102D, 0x1030, .transparent), (0x1032, 0x1037, .transparent),
   (0x1039, 0x103A, .transparent), (0x103D, 0x103E, .transparent), (0x1058, 0x1059, .transparent),
   (0x105E, 0x1060, .transparent), (0x1071, 0x1074, .transparent), (0x1082, 0x1082, .transparent),
   (0x1085, 0x1086, .transparent), (0x108D, 0x108D, .transparent), (0x109D, 0x109D, .transparent),
   (0x135D, 0x135F, .transparent), (0x1712, 0x1714, .transparent), (0x1732, 0x1733, .transparent),
   (0x1752, 0x1753, .transparent), (0x1772, 0x1773, .transparent), (0x17B7, 0x17BD, .transparent),
   (0x17C6, 0x17C6, .transparent), (0x17C9, 0x17D3, .transparent), (0x17DD, 0x17DD, .transparent),
   (0x1820, 0x1878, .dual), (0x1885, 0x1886, .transparent), (0x1887, 0x18A8, .dual),
   (0x18A9, 0x18A9, .transparent), (0x18AA, 0x18AA, .dual), (0x1920, 0x1922, .transparent),
   (0x1927, 0x1928, .transparent), (0x1932, 0x1932, .transparent), (0x1939, 0x193B, .transparent),
   (0x1A17, 0x1A18, .transparent), (0x1A1B, 0x1A1B, .transparent), (0x1A56, 0x1A56, .transparent),
   (0x1A58, 0x1A60, .transparent), (0x1A62, 0x1A62, .transparent), (0x1A65, 0x1A6C, .transparent),
   (0x1A73, 0x1A7F, .transparent), (0x1AB0, 0x1B03, .transparent), (0x1B34, 0x1B34, .transparent),
   (0x1B36, 0x1B3A, .transparent), (0x1B3C, 0x1B3C, .transparent), (0x1B42, 0x1B42, .transparent),
   (0x1B6B, 0x1B81, .transparent), (0x1BA2, 0x1BA5, .transparent), (0x1BA8, 0x1BA9, .transparent),
   (0x1BAB, 0x1BAD, .transparent), (0x1BE6, 0x1BE6, .transparent), (0x1BE8, 0x1BE9, .transparent),
   (0x1BED, 0x1BED, .transparent), (0x1BEF, 0x1BF1, .transparent), (0x1C2C, 0x1C33, .transparent),
   (0x1C36, 0x1C37, .transparent), (0x1CD0, 0x1CE0, .transparent), (0x1CE2, 0x1CE8, .transparent),
   (0x1CED, 0x1CED, .transparent), (0x1CF4, 0x1CF4, .transparent), (0x1CF8, 0x1CF9, .transparent),
   (0x1DC0, 0x1DFF, .transparent), (0x200D, 0x200D, .causing), (0x2CEF, 0x2CF1, .transparent),
   (0x2D7F, 0x2D7F, .transparent), (0x2DE0, 0x2DFF, .transparent), (0x302A, 0x302D, .transparent),
   (0x3099, 0x309A, .transparent), (0xA66F, 0xA67D, .transparent), (0xA69E, 0xA69F, .transparent),
   (0xA6F0, 0xA6F1, .transparent), (0xA802, 0xA802, .transparent), (0xA806, 0xA806, .transparent),
   (0xA80B, 0xA80B, .transparent), (0xA825, 0xA826, .transparent), (0xA82C, 0xA82C, .transparent),
   (0xA840, 0xA871, .dual), (0xA872, 0xA872, .left), (0xA8C4, 0xA8C5, .transparent),
   (0xA8E0, 0xA8F1, .transparent), (0xA8FF, 0xA8FF, .transparent), (0xA926, 0xA92D, .transparent),
   (0xA947, 0xA951, .transparent), (0xA980, 0xA982, .transparent), (0xA9B3, 0xA9B3, .transparent),
   (0xA9B6, 0xA9B9, .transparent), (0xA9BC, 0xA9BD, .transparent), (0xA9E5, 0xA9E5, .transparent),
   (0xAA29, 0xAA2E, .transparent), (0xAA31, 0xAA32, .transparent), (0xAA35, 0xAA36, .transparent),
   (0xAA43, 0xAA43, .transparent), (0xAA4C, 0xAA4C, .transparent), (0xAA7C, 0xAA7C, .transparent),
   (0xAAB0, 0xAAB0, .transparent), (0xAAB2, 0xAAB4, .transparent), (0xAAB7, 0xAAB8, .transparent),
   (0xAABE, 0xAABF, .transparent), (0xAAC1, 0xAAC1, .transparent), (0xAAEC, 0xAAED, .transparent),
   (0xAAF6, 0xAAF6, .transparent), (0xABE5, 0xABE5, .transparent), (0xABE8, 0xABE8, .transparent),
   (0xABED, 0xABED, .transparent), (0xFB1E, 0xFE2F, .transparent), (0x101FD, 0x101FD, .transparent),
   (0x102E0, 0x102E0, .transparent), (0x10376, 0x1037A, .transparent), (0x10A01, 0x10A0F, .transparent),
   (0x10A38, 0x10A3F, .transparent), (0x10AC0, 0x10AC4, .dual), (0x10AC5, 0x10AC5, .right),
   (0x10AC7, 0x10ACA, .right), (0x10ACD, 0x10ACD, .left), (0x10ACE, 0x10AD2, .right),
   (0x10AD3, 0x10AD6, .dual), (0x10AD7, 0x10AD7, .left), (0x10AD8, 0x10ADC, .dual),
   (0x10ADD, 0x10ADD, .right), (0x10ADE, 0x10AE0, .dual), (0x10AE1, 0x10AE1, .right),
   (0x10AE4, 0x10AE4, .right), (0x10AE5, 0x10AE6, .transparent), (0x10B80, 0x10B80, .dual),
   (0x10B81, 0x10B81, .right), (0x10B82, 0x10B82, .dual), (0x10B83, 0x10B85, .right),
   (0x10B86, 0x10B88, .dual), (0x10B89, 0x10B89, .right), (0x10B8A, 0x10B8B, .dual),
   (0x10B8C, 0x10B8C, .right), (0x10B8D, 0x10B8D, .dual), (0x10B8E, 0x10B8F, .right),
   (0x10B90, 0x10B90, .dual), (0x10B91, 0x10B91, .right), (0x10D00, 0x10D00, .left),
   (0x10D01, 0x10D21, .dual), (0x10D22, 0x10D22, .right), (0x10D23, 0x10D23, .dual),
   (0x10D24, 0x10D27, .transparent), (0x10EAB, 0x10EAC, .transparent), (0x10F30, 0x10F32, .dual),
   (0x10F33, 0x10F33, .right), (0x10F34, 0x10F44, .dual), (0x10F46, 0x10F50, .transparent),
   (0x10F70, 0x10F73, .dual), (0x10F74, 0x10F75, .right), (0x10F76, 0x10F81, .dual),
   (0x10F82, 0x10F85, .transparent), (0x10FB0, 0x10FB0, .dual), (0x10FB2, 0x10FB3, .dual),
   (0x10FB4, 0x10FB6, .right), (0x10FB8, 0x10FB8, .dual), (0x10FB9, 0x10FBA, .right),
   (0x10FBB, 0x10FBC, .dual), (0x10FBD, 0x10FBD, .right), (0x10FBE, 0x10FBF, .dual),
   (0x10FC1, 0x10FC1, .dual), (0x10FC2, 0x10FC3, .right), (0x10FC4, 0x10FC4, .dual),
   (0x11001, 0x11001, .transparent), (0x11038, 0x11046, .transparent), (0x11070, 0x11070, .transparent),
   (0x11073, 0x11074, .transparent), (0x1107F, 0x11081, .transparent), (0x110B3, 0x110B6, .transparent),
   (0x110B9, 0x110C2, .transparent), (0x11100, 0x11102, .transparent), (0x11127, 0x1112B, .transparent),
   (0x1112D, 0x11134, .transparent), (0x11173, 0x11173, .transparent), (0x11180, 0x11181, .transparent),
   (0x111B6, 0x111BE, .transparent), (0x111C9, 0x111CC, .transparent), (0x111CF, 0x111CF, .transparent),
   (0x1122F, 0x11231, .transparent), (0x11234, 0x11234, .transparent), (0x11236, 0x1123E, .transparent),
   (0x112DF, 0x112DF, .transparent), (0x112E3, 0x112EA, .transparent), (0x11300, 0x11301, .transparent),
   (0x1133B, 0x1133C, .transparent), (0x11340, 0x11340, .transparent), (0x11366, 0x11374, .transparent),
   (0x11438, 0x1143F, .transparent), (0x11442, 0x11444, .transparent), (0x11446, 0x11446, .transparent),
   (0x1145E, 0x1145E, .transparent), (0x114B3, 0x114B8, .transparent), (0x114BA, 0x114BA, .transparent),
   (0x114BF, 0x114C0, .transparent), (0x114C2, 0x114C3, .transparent), (0x115B2, 0x115B5, .transparent),
   (0x115BC, 0x115BD, .transparent), (0x115BF, 0x115C0, .transparent), (0x115DC, 0x115DD, .transparent),
   (0x11633, 0x1163A, .transparent), (0x1163D, 0x1163D, .transparent), (0x1163F, 0x11640, .transparent),
   (0x116AB, 0x116AB, .transparent), (0x116AD, 0x116AD, .transparent), (0x116B0, 0x116B5, .transparent),
   (0x116B7, 0x116B7, .transparent), (0x1171D, 0x1171D, .transparent), (0x1171F, 0x1171F, .transparent),
   (0x11722, 0x11725, .transparent), (0x11727, 0x1172B, .transparent), (0x1182F, 0x11837, .transparent),
   (0x11839, 0x1183A, .transparent), (0x1193B, 0x1193C, .transparent), (0x1193E, 0x1193E, .transparent),
   (0x11943, 0x11943, .transparent), (0x119D4, 0x119DB, .transparent), (0x119E0, 0x119E0, .transparent),
   (0x11A01, 0x11A0A, .transparent), (0x11A33, 0x11A38, .transparent), (0x11A3B, 0x11A47, .transparent),
   (0x11A51, 0x11A56, .transparent), (0x11A59, 0x11A5B, .transparent), (0x11A8A, 0x11A96, .transparent),
   (0x11A98, 0x11A99, .transparent), (0x11C30, 0x11C3D, .transparent), (0x11C3F, 0x11C3F, .transparent),
   (0x11C92, 0x11CA7, .transparent), (0x11CAA, 0x11CB0, .transparent), (0x11CB2, 0x11CB3, .transparent),
   (0x11CB5, 0x11CB6, .transparent), (0x11D31, 0x11D45, .transparent), (0x11D47, 0x11D47, .transparent),
   (0x11D90, 0x11D91, .transparent), (0x11D95, 0x11D95, .transparent), (0x11D97, 0x11D97, .transparent),
   (0x11EF3, 0x11EF4, .transparent), (0x16AF0, 0x16AF4, .transparent), (0x16B30, 0x16B36, .transparent),
   (0x16F4F, 0x16F4F, .transparent), (0x16F8F, 0x16F92, .transparent), (0x16FE4, 0x16FE4, .transparent),
   (0x1BC9D, 0x1DAAF, .transparent), (0x1E000, 0x1E02A, .transparent), (0x1E130, 0x1E136, .transparent),
   (0x1E2AE, 0x1E2AE, .transparent), (0x1E2EC, 0x1E2EF, .transparent), (0x1E8D0, 0x1E8D6, .transparent),
   (0x1E922, 0x1E943, .dual), (0x1E944, 0x1E94B, .transparent)]

/-- Ranges of the characters a label may hold in the scripts the rules name. -/
def scriptRanges : Array (Nat × Nat × Script) :=
  #[(0x0371, 0x03E1, .greek), (0x03F3, 0x03FC, .greek), (0x0591, 0x05F4, .hebrew),
   (0x1D26, 0x1D2A, .greek), (0x1F00, 0x1FF6, .greek), (0x3005, 0x3005, .han),
   (0x3007, 0x3007, .han), (0x3041, 0x3096, .hiragana), (0x309D, 0x309E, .hiragana),
   (0x30A1, 0x30FA, .katakana), (0x30FD, 0x30FE, .katakana), (0x31F0, 0x31FF, .katakana),
   (0x3400, 0x9FFF, .han), (0xAB65, 0xAB65, .greek), (0xFA0E, 0xFA29, .han),
   (0xFB1E, 0xFB1E, .hebrew), (0x16FE3, 0x16FE3, .han), (0x16FF0, 0x16FF1, .han),
   (0x1AFF0, 0x1B000, .katakana), (0x1B001, 0x1B11F, .hiragana), (0x1B120, 0x1B122, .katakana),
   (0x1B150, 0x1B152, .hiragana), (0x1B164, 0x1B167, .katakana), (0x20000, 0x3134A, .han)]

/-- The joining type of a character, if it joins. -/
def joiningType (c : Char) : Option JoiningType := Ranges.find? joiningRanges c.toNat

/-- The script of a character, among those the rules name. -/
def script? (c : Char) : Option Script := Ranges.find? scriptRanges c.toNat

/-- The virama class. -/
def viramaClass : Nat := 9

/-- Whether a character is a virama. -/
def isVirama (c : Char) : Bool := combiningClass c.toNat == viramaClass

/-- Whether a character is transparent to joining. -/
def isTransparent (c : Char) : Bool := joiningType c == some .transparent

/-- Whether the first character that is not transparent is dual or left joining. -/
def leftOrDual (cs : List Char) : Bool :=
  match (cs.dropWhile isTransparent).head? with
  | some c => joiningType c == some .dual || joiningType c == some .left
  | none => false

/-- Whether the first character that is not transparent is dual or right joining. -/
def rightOrDual (cs : List Char) : Bool :=
  match (cs.dropWhile isTransparent).head? with
  | some c => joiningType c == some .dual || joiningType c == some .right
  | none => false

/-- Whether a joiner fits between the characters before it and those after it. -/
def joinerFits (before : List Char) (c : Char) (after : List Char) : Bool :=
  before.getLast?.any isVirama ||
    (c.toNat = 0x200C && leftOrDual before.reverse && rightOrDual after)

/-- Whether a contextual character other than a joiner fits where it stands. -/
def contextFits (before : List Char) (c : Char) (after : List Char) : Bool :=
  let n := c.toNat
  let whole := before ++ c :: after
  if n = 0x00B7 then before.getLast? == some 'l' && after.head? == some 'l'
  else if n = 0x0375 then after.head?.any fun d => script? d == some .greek
  else if n = 0x05F3 || n = 0x05F4 then before.getLast?.any fun d => script? d == some .hebrew
  else if n = 0x30FB then
    whole.any fun d => d.toNat != 0x30FB &&
      (script? d == some .hiragana || script? d == some .katakana || script? d == some .han)
  else if 0x0660 ≤ n && n ≤ 0x0669 then !whole.any fun d => 0x06F0 ≤ d.toNat && d.toNat ≤ 0x06F9
  else if 0x06F0 ≤ n && n ≤ 0x06F9 then !whole.any fun d => 0x0660 ≤ d.toNat && d.toNat ≤ 0x0669
  else false

theorem joinerFits_of_virama (before after : List Char) (c v : Char) (h : isVirama v = true) :
    joinerFits (before ++ [v]) c after = true := by
  simp [joinerFits, h]

end Idna

end DocClient
