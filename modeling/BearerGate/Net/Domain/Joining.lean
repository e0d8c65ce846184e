import BearerGate.Net.Domain.Composition
import BearerGate.Net.Domain.Direction

/-!
# Marks and joiners

A mark follows the character that it belongs to, so no label begins with one. The two characters
that join letters, or keep them apart, are not seen; a label may hold one only where it changes
how its neighbours are written.
-/

namespace BearerGate.Domain

set_option maxRecDepth 8000 in
/-- First and last code point of each run of marks. -/
def markRuns : Array (Nat × Nat) := #[
  (0x300, 0x36F), (0x483, 0x489), (0x591, 0x5BD), (0x5BF, 0x5BF), (0x5C1, 0x5C2), (0x5C4, 0x5C5),
  (0x5C7, 0x5C7), (0x610, 0x61A), (0x64B, 0x65F), (0x670, 0x670), (0x6D6, 0x6DC), (0x6DF, 0x6E4),
  (0x6E7, 0x6E8), (0x6EA, 0x6ED), (0x711, 0x711), (0x730, 0x74A), (0x7A6, 0x7B0), (0x7EB, 0x7F3),
  (0x7FD, 0x7FD), (0x816, 0x819), (0x81B, 0x823), (0x825, 0x827), (0x829, 0x82D), (0x859, 0x85B),
  (0x897, 0x89F), (0x8CA, 0x903), (0x93A, 0x93C), (0x93E, 0x94F), (0x951, 0x957), (0x962, 0x963),
  (0x981, 0x983), (0x9BC, 0x9BC), (0x9BE, 0x9CD), (0x9D7, 0x9D7), (0x9E2, 0x9E3), (0x9FE, 0xA03),
  (0xA3C, 0xA51), (0xA70, 0xA71), (0xA75, 0xA75), (0xA81, 0xA83), (0xABC, 0xABC), (0xABE, 0xACD),
  (0xAE2, 0xAE3), (0xAFA, 0xB03), (0xB3C, 0xB3C), (0xB3E, 0xB57), (0xB62, 0xB63), (0xB82, 0xB82),
  (0xBBE, 0xBCD), (0xBD7, 0xBD7), (0xC00, 0xC04), (0xC3C, 0xC3C), (0xC3E, 0xC56), (0xC62, 0xC63),
  (0xC81, 0xC83), (0xCBC, 0xCBC), (0xCBE, 0xCD6), (0xCE2, 0xCE3), (0xCF3, 0xD03), (0xD3B, 0xD3C),
  (0xD3E, 0xD4D), (0xD57, 0xD57), (0xD62, 0xD63), (0xD81, 0xD83), (0xDCA, 0xDDF), (0xDF2, 0xDF3),
  (0xE31, 0xE31), (0xE34, 0xE3A), (0xE47, 0xE4E), (0xEB1, 0xEB1), (0xEB4, 0xEBC), (0xEC8, 0xECE),
  (0xF18, 0xF19), (0xF35, 0xF35), (0xF37, 0xF37), (0xF39, 0xF39), (0xF3E, 0xF3F), (0xF71, 0xF84),
  (0xF86, 0xF87), (0xF8D, 0xFBC), (0xFC6, 0xFC6), (0x102B, 0x103E), (0x1056, 0x1059),
  (0x105E, 0x1060), (0x1062, 0x1064), (0x1067, 0x106D), (0x1071, 0x1074), (0x1082, 0x108D),
  (0x108F, 0x108F), (0x109A, 0x109D), (0x135D, 0x135F), (0x1712, 0x1715), (0x1732, 0x1734),
  (0x1752, 0x1753), (0x1772, 0x1773), (0x17B6, 0x17D3), (0x17DD, 0x17DD), (0x1885, 0x1886),
  (0x18A9, 0x18A9), (0x1920, 0x193B), (0x1A17, 0x1A1B), (0x1A55, 0x1A7F), (0x1AB0, 0x1B04),
  (0x1B34, 0x1B44), (0x1B6B, 0x1B73), (0x1B80, 0x1B82), (0x1BA1, 0x1BAD), (0x1BE6, 0x1BF3),
  (0x1C24, 0x1C37), (0x1CD0, 0x1CD2), (0x1CD4, 0x1CE8), (0x1CED, 0x1CED), (0x1CF4, 0x1CF4),
  (0x1CF7, 0x1CF9), (0x1DC0, 0x1DFF), (0x20D0, 0x20F0), (0x2CEF, 0x2CF1), (0x2D7F, 0x2D7F),
  (0x2DE0, 0x2DFF), (0x302A, 0x302F), (0x3099, 0x309A), (0xA66F, 0xA672), (0xA674, 0xA67D),
  (0xA69E, 0xA69F), (0xA6F0, 0xA6F1), (0xA802, 0xA802), (0xA806, 0xA806), (0xA80B, 0xA80B),
  (0xA823, 0xA827), (0xA82C, 0xA82C), (0xA880, 0xA881), (0xA8B4, 0xA8C5), (0xA8E0, 0xA8F1),
  (0xA8FF, 0xA8FF), (0xA926, 0xA92D), (0xA947, 0xA953), (0xA980, 0xA983), (0xA9B3, 0xA9C0),
  (0xA9E5, 0xA9E5), (0xAA29, 0xAA36), (0xAA43, 0xAA43), (0xAA4C, 0xAA4D), (0xAA7B, 0xAA7D),
  (0xAAB0, 0xAAB0), (0xAAB2, 0xAAB4), (0xAAB7, 0xAAB8), (0xAABE, 0xAABF), (0xAAC1, 0xAAC1),
  (0xAAEB, 0xAAEF), (0xAAF5, 0xAAF6), (0xABE3, 0xABEA), (0xABEC, 0xABED), (0xFB1E, 0xFB1E),
  (0xFE20, 0xFE2F), (0x101FD, 0x101FD), (0x102E0, 0x102E0), (0x10376, 0x1037A), (0x10A01, 0x10A0F),
  (0x10A38, 0x10A3F), (0x10AE5, 0x10AE6), (0x10D24, 0x10D27), (0x10D69, 0x10D6D),
  (0x10EAB, 0x10EAC), (0x10EFA, 0x10EFF), (0x10F46, 0x10F50), (0x10F82, 0x10F85),
  (0x11000, 0x11002), (0x11038, 0x11046), (0x11070, 0x11070), (0x11073, 0x11074),
  (0x1107F, 0x11082), (0x110B0, 0x110BA), (0x110C2, 0x110C2), (0x11100, 0x11102),
  (0x11127, 0x11134), (0x11145, 0x11146), (0x11173, 0x11173), (0x11180, 0x11182),
  (0x111B3, 0x111C0), (0x111C9, 0x111CC), (0x111CE, 0x111CF), (0x1122C, 0x11237),
  (0x1123E, 0x1123E), (0x11241, 0x11241), (0x112DF, 0x112EA), (0x11300, 0x11303),
  (0x1133B, 0x1133C), (0x1133E, 0x1134D), (0x11357, 0x11357), (0x11362, 0x11374),
  (0x113B8, 0x113D0), (0x113D2, 0x113D2), (0x113E1, 0x113E2), (0x11435, 0x11446),
  (0x1145E, 0x1145E), (0x114B0, 0x114C3), (0x115AF, 0x115C0), (0x115DC, 0x115DD),
  (0x11630, 0x11640), (0x116AB, 0x116B7), (0x1171D, 0x1172B), (0x1182C, 0x1183A),
  (0x11930, 0x1193E), (0x11940, 0x11940), (0x11942, 0x11943), (0x119D1, 0x119E0),
  (0x119E4, 0x119E4), (0x11A01, 0x11A0A), (0x11A33, 0x11A39), (0x11A3B, 0x11A3E),
  (0x11A47, 0x11A47), (0x11A51, 0x11A5B), (0x11A8A, 0x11A99), (0x11B60, 0x11B67),
  (0x11C2F, 0x11C3F), (0x11C92, 0x11CB6), (0x11D31, 0x11D45), (0x11D47, 0x11D47),
  (0x11D8A, 0x11D97), (0x11EF3, 0x11EF6), (0x11F00, 0x11F01), (0x11F03, 0x11F03),
  (0x11F34, 0x11F42), (0x11F5A, 0x11F5A), (0x13440, 0x13440), (0x13447, 0x13455),
  (0x1611E, 0x1612F), (0x16AF0, 0x16AF4), (0x16B30, 0x16B36), (0x16F4F, 0x16F4F),
  (0x16F51, 0x16F92), (0x16FE4, 0x16FF1), (0x1BC9D, 0x1BC9E), (0x1CF00, 0x1CF46),
  (0x1D165, 0x1D169), (0x1D16D, 0x1D182), (0x1D185, 0x1D18B), (0x1D1AA, 0x1D1AD),
  (0x1D242, 0x1D244), (0x1DA00, 0x1DA36), (0x1DA3B, 0x1DA6C), (0x1DA75, 0x1DA75),
  (0x1DA84, 0x1DA84), (0x1DA9B, 0x1DAAF), (0x1E000, 0x1E08F), (0x1E130, 0x1E136),
  (0x1E2AE, 0x1E2AE), (0x1E2EC, 0x1E2EF), (0x1E4EC, 0x1E4EF), (0x1E5EE, 0x1E5EF),
  (0x1E6E3, 0x1E6E3), (0x1E6E6, 0x1E6E6), (0x1E6EE, 0x1E6EF), (0x1E6F5, 0x1E6F5),
  (0x1E8D0, 0x1E8D6), (0x1E944, 0x1E94A)]

/-- Whether a character is a mark on the one before it. -/
def isMark (c : Char) : Bool :=
  Text.isInRuns markRuns c

/-- The sides on which a letter is joined to its neighbours. -/
inductive Joining
  | left
  | right
  | both
  deriving DecidableEq

set_option maxRecDepth 8000 in
/-- First and last code point of each run of letters that are joined to their neighbours. -/
def joiningRuns : Array (Nat × Nat × Joining) := #[
  (0x620, 0x620, .both), (0x622, 0x625, .right), (0x626, 0x626, .both), (0x627, 0x627, .right),
  (0x628, 0x628, .both), (0x629, 0x629, .right), (0x62A, 0x62E, .both), (0x62F, 0x632, .right),
  (0x633, 0x63F, .both), (0x641, 0x647, .both), (0x648, 0x648, .right), (0x649, 0x64A, .both),
  (0x66E, 0x66F, .both), (0x671, 0x673, .right), (0x679, 0x687, .both), (0x688, 0x699, .right),
  (0x69A, 0x6BF, .both), (0x6C0, 0x6C0, .right), (0x6C1, 0x6C2, .both), (0x6C3, 0x6CB, .right),
  (0x6CC, 0x6CC, .both), (0x6CD, 0x6CD, .right), (0x6CE, 0x6CE, .both), (0x6CF, 0x6CF, .right),
  (0x6D0, 0x6D1, .both), (0x6D2, 0x6D3, .right), (0x6D5, 0x6D5, .right), (0x6EE, 0x6EF, .right),
  (0x6FA, 0x6FC, .both), (0x6FF, 0x6FF, .both), (0x710, 0x710, .right), (0x712, 0x714, .both),
  (0x715, 0x719, .right), (0x71A, 0x71D, .both), (0x71E, 0x71E, .right), (0x71F, 0x727, .both),
  (0x728, 0x728, .right), (0x729, 0x729, .both), (0x72A, 0x72A, .right), (0x72B, 0x72B, .both),
  (0x72C, 0x72C, .right), (0x72D, 0x72E, .both), (0x72F, 0x72F, .right), (0x74D, 0x74D, .right),
  (0x74E, 0x758, .both), (0x759, 0x75B, .right), (0x75C, 0x76A, .both), (0x76B, 0x76C, .right),
  (0x76D, 0x770, .both), (0x771, 0x771, .right), (0x772, 0x772, .both), (0x773, 0x774, .right),
  (0x775, 0x777, .both), (0x778, 0x779, .right), (0x77A, 0x77F, .both), (0x7CA, 0x7EA, .both),
  (0x840, 0x840, .right), (0x841, 0x845, .both), (0x846, 0x847, .right), (0x848, 0x848, .both),
  (0x849, 0x849, .right), (0x84A, 0x853, .both), (0x854, 0x854, .right), (0x855, 0x855, .both),
  (0x856, 0x858, .right), (0x860, 0x860, .both), (0x862, 0x865, .both), (0x867, 0x867, .right),
  (0x868, 0x868, .both), (0x869, 0x882, .right), (0x886, 0x886, .both), (0x889, 0x88D, .both),
  (0x88E, 0x88E, .right), (0x88F, 0x88F, .both), (0x8A0, 0x8A9, .both), (0x8AA, 0x8AC, .right),
  (0x8AE, 0x8AE, .right), (0x8AF, 0x8B0, .both), (0x8B1, 0x8B2, .right), (0x8B3, 0x8B8, .both),
  (0x8B9, 0x8B9, .right), (0x8BA, 0x8C8, .both), (0x1807, 0x1807, .both), (0x1820, 0x1878, .both),
  (0x1887, 0x18A8, .both), (0x18AA, 0x18AA, .both), (0xA840, 0xA871, .both),
  (0xA872, 0xA872, .left), (0x10AC0, 0x10AC4, .both), (0x10AC5, 0x10AC5, .right),
  (0x10AC7, 0x10AC7, .right), (0x10AC9, 0x10ACA, .right), (0x10ACD, 0x10ACD, .left),
  (0x10ACE, 0x10AD2, .right), (0x10AD3, 0x10AD6, .both), (0x10AD7, 0x10AD7, .left),
  (0x10AD8, 0x10ADC, .both), (0x10ADD, 0x10ADD, .right), (0x10ADE, 0x10AE0, .both),
  (0x10AE1, 0x10AE1, .right), (0x10AE4, 0x10AE4, .right), (0x10AEB, 0x10AEE, .both),
  (0x10AEF, 0x10AEF, .right), (0x10B80, 0x10B80, .both), (0x10B81, 0x10B81, .right),
  (0x10B82, 0x10B82, .both), (0x10B83, 0x10B85, .right), (0x10B86, 0x10B88, .both),
  (0x10B89, 0x10B89, .right), (0x10B8A, 0x10B8B, .both), (0x10B8C, 0x10B8C, .right),
  (0x10B8D, 0x10B8D, .both), (0x10B8E, 0x10B8F, .right), (0x10B90, 0x10B90, .both),
  (0x10B91, 0x10B91, .right), (0x10BA9, 0x10BAC, .right), (0x10BAD, 0x10BAE, .both),
  (0x10D00, 0x10D00, .left), (0x10D01, 0x10D21, .both), (0x10D22, 0x10D22, .right),
  (0x10D23, 0x10D23, .both), (0x10EC2, 0x10EC2, .right), (0x10EC3, 0x10EC4, .both),
  (0x10EC6, 0x10EC7, .both), (0x10F30, 0x10F32, .both), (0x10F33, 0x10F33, .right),
  (0x10F34, 0x10F44, .both), (0x10F51, 0x10F53, .both), (0x10F54, 0x10F54, .right),
  (0x10F70, 0x10F73, .both), (0x10F74, 0x10F75, .right), (0x10F76, 0x10F81, .both),
  (0x10FB0, 0x10FB0, .both), (0x10FB2, 0x10FB3, .both), (0x10FB4, 0x10FB6, .right),
  (0x10FB8, 0x10FB8, .both), (0x10FB9, 0x10FBA, .right), (0x10FBB, 0x10FBC, .both),
  (0x10FBD, 0x10FBD, .right), (0x10FBE, 0x10FBF, .both), (0x10FC1, 0x10FC1, .both),
  (0x10FC2, 0x10FC3, .right), (0x10FC4, 0x10FC4, .both), (0x10FC9, 0x10FC9, .right),
  (0x10FCA, 0x10FCA, .both), (0x10FCB, 0x10FCB, .left), (0x1E922, 0x1E943, .both)]

/-- Marks that take room of their own and still do not part the letters around them. -/
def joinedThrough : List Nat := [0xCBF, 0xCC6, 0x11A07, 0x11A08, 0x11C3F, 0x1E94B]

/-- Whether letters are joined as if the character did not stand between them. -/
def isTransparent (c : Char) : Bool :=
  direction c = .mark || joinedThrough.contains c.toNat

/-- Whether the first character that is not transparent is joined on one of the given sides. -/
def isJoinedOn (sides : List Joining) (text : List Char) : Bool :=
  match (text.dropWhile isTransparent).head? with
  | none => false
  | some c => ((Text.valueInRuns? joiningRuns c).map sides.contains).getD false

/-- The character that keeps letters apart. -/
def nonJoiner : Char := Char.ofNat 0x200C

/-- The character that joins letters. -/
def joiner : Char := Char.ofNat 0x200D

/-- The class of the marks that take the vowel from a letter. -/
def vowelKiller : Nat := 9

/-- Whether every joiner of a text changes how its neighbours are written, `before` being what
stands in front of the text, the last first: it follows a mark that takes the vowel from a letter,
or keeps apart two letters that would be joined. -/
def areJoinersSeen (before : List Char) : List Char → Bool
  | [] => true
  | c :: rest =>
    let afterKiller := before.head?.any fun d => markClass d = vowelKiller
    let keepsApart := isJoinedOn [.left, .both] before && isJoinedOn [.right, .both] rest
    let isSeen :=
      if c = nonJoiner then afterKiller || keepsApart else if c = joiner then afterKiller else true
    isSeen && areJoinersSeen (c :: before) rest

end BearerGate.Domain
