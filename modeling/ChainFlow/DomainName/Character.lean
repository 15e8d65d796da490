import ChainFlow.Text.Mark

/-!
# Characters beside one another

What decides whether the characters of a label may stand beside one another: the script of a character,
the direction in which it is written, and how it joins its neighbours. Each is given for the characters
that a label may hold.
-/

namespace ChainFlow.DomainName

/-! ## Scripts

A few characters may stand beside these scripts and nowhere else. -/

def greekBounds : Array Nat := #[
  0x370, 0x374, 0x375, 0x378, 0x37A, 0x37E, 0x37F, 0x380, 0x384, 0x385, 0x386, 0x387, 0x388, 0x38B,
  0x38C, 0x38D, 0x38E, 0x3A2, 0x3A3, 0x3E2, 0x3F0, 0x400, 0x1D26, 0x1D2B, 0x1D5D, 0x1D62, 0x1D66,
  0x1D6B, 0x1DBF, 0x1DC0, 0x1F00, 0x1F16, 0x1F18, 0x1F1E, 0x1F20, 0x1F46, 0x1F48, 0x1F4E, 0x1F50,
  0x1F58, 0x1F59, 0x1F5A, 0x1F5B, 0x1F5C, 0x1F5D, 0x1F5E, 0x1F5F, 0x1F7E, 0x1F80, 0x1FB5, 0x1FB6,
  0x1FC5, 0x1FC6, 0x1FD4, 0x1FD6, 0x1FDC, 0x1FDD, 0x1FF0, 0x1FF2, 0x1FF5, 0x1FF6, 0x1FFF, 0x2126,
  0x2127, 0xAB65, 0xAB66, 0x10140, 0x1018F, 0x101A0, 0x101A1, 0x1D200, 0x1D246]

def hebrewBounds : Array Nat := #[
  0x591, 0x5C8, 0x5D0, 0x5EB, 0x5EF, 0x5F5, 0xFB1D, 0xFB37, 0xFB38, 0xFB3D, 0xFB3E, 0xFB3F, 0xFB40,
  0xFB42, 0xFB43, 0xFB45, 0xFB46, 0xFB50]

def japaneseBounds : Array Nat := #[
  0x2E80, 0x2E9A, 0x2E9B, 0x2EF4, 0x2F00, 0x2FD6, 0x3005, 0x3006, 0x3007, 0x3008, 0x3021, 0x302A,
  0x3038, 0x303C, 0x3041, 0x3097, 0x309D, 0x30A0, 0x30A1, 0x30FB, 0x30FD, 0x3100, 0x31F0, 0x3200,
  0x32D0, 0x32FF, 0x3300, 0x3358, 0x3400, 0x4DC0, 0x4E00, 0xA000, 0xF900, 0xFA6E, 0xFA70, 0xFADA,
  0xFF66, 0xFF70, 0xFF71, 0xFF9E, 0x16FE2, 0x16FE4, 0x16FF0, 0x16FF2, 0x1AFF0, 0x1AFF4, 0x1AFF5,
  0x1AFFC, 0x1AFFD, 0x1AFFF, 0x1B000, 0x1B123, 0x1B150, 0x1B153, 0x1B164, 0x1B168, 0x1F200, 0x1F201,
  0x20000, 0x2A6E0, 0x2A700, 0x2B739, 0x2B740, 0x2B81E, 0x2B820, 0x2CEA2, 0x2CEB0, 0x2EBE1, 0x2F800,
  0x2FA1E, 0x30000, 0x3134B]

def isGreek (c : Char) : Bool := Text.inRuns greekBounds c

def isHebrew (c : Char) : Bool := Text.inRuns hebrewBounds c

def isJapanese (c : Char) : Bool := Text.inRuns japaneseBounds c

/-! ## Directions -/

inductive Direction where
  | left
  | right
  | arabic
  | number
  | arabicNumber
  | separator
  | neutral
  | boundary
  /-- That of the character before. -/
  | mark
  deriving DecidableEq

/-- Where the direction changes, marks passed over. -/
def directionStarts : List (Nat × Direction) := [
  (0x2D, .separator), (0x30, .number), (0x61, .left), (0xB7, .neutral), (0xDF, .left),
  (0x2B9, .neutral), (0x2BB, .left), (0x2C6, .neutral), (0x2D0, .left), (0x2EC, .neutral),
  (0x2EE, .left), (0x375, .neutral), (0x377, .left), (0x5D0, .right), (0x620, .arabic),
  (0x660, .arabicNumber), (0x66E, .arabic), (0x6F0, .number), (0x6FA, .arabic), (0x7C0, .right),
  (0x860, .arabic), (0x903, .left), (0x200C, .boundary), (0x214E, .left), (0x2E2F, .neutral),
  (0x3005, .left), (0x30FB, .neutral), (0x30FC, .left), (0xA67F, .neutral), (0xA681, .left),
  (0xA717, .neutral), (0xA723, .left), (0xA788, .neutral), (0xA78C, .left), (0xFE73, .arabic),
  (0x10000, .left), (0x10800, .right), (0x10D00, .arabic), (0x10D30, .arabicNumber),
  (0x10E80, .right), (0x10F30, .arabic), (0x10F70, .right), (0x11000, .left), (0x1E800, .right),
  (0x20000, .left)]

/-- The nonspacing marks that are written from left to right. -/
def leftMarks : List Nat := [0xCBF, 0xCC6, 0x11A07, 0x11A08, 0x11C3F]

def directionOf (c : Char) : Direction :=
  if leftMarks.contains c.toNat then .left
  else if Text.isNonspacingMark c then .mark
  else (((directionStarts.reverse).find? fun start => start.1 ≤ c.toNat).map (·.2)).getD .left

/-! ## Joining letters -/

inductive Joining where
  | none
  /-- Only the letter before it. -/
  | before
  /-- Only the letter after it. -/
  | after
  | both
  | causing
  /-- It lets its neighbours join one another. -/
  | through
  deriving DecidableEq

/-- Where the way of joining changes, marks passed over. -/
def joiningStarts : List (Nat × Joining) := [
  (0x620, .both), (0x621, .none), (0x622, .before), (0x626, .both), (0x627, .before),
  (0x628, .both), (0x629, .before), (0x62A, .both), (0x62F, .before), (0x633, .both),
  (0x648, .before), (0x649, .both), (0x660, .none), (0x66E, .both), (0x671, .before),
  (0x674, .none), (0x679, .both), (0x688, .before), (0x69A, .both), (0x6C0, .before),
  (0x6C1, .both), (0x6C3, .before), (0x6CC, .both), (0x6CD, .before), (0x6CE, .both),
  (0x6CF, .before), (0x6D0, .both), (0x6D2, .before), (0x6E5, .none), (0x6EE, .before),
  (0x6F0, .none), (0x6FA, .both), (0x6FD, .none), (0x6FF, .both), (0x710, .before), (0x712, .both),
  (0x715, .before), (0x71A, .both), (0x71E, .before), (0x71F, .both), (0x728, .before),
  (0x729, .both), (0x72A, .before), (0x72B, .both), (0x72C, .before), (0x72D, .both),
  (0x72F, .before), (0x74E, .both), (0x759, .before), (0x75C, .both), (0x76B, .before),
  (0x76D, .both), (0x771, .before), (0x772, .both), (0x773, .before), (0x775, .both),
  (0x778, .before), (0x77A, .both), (0x780, .none), (0x7CA, .both), (0x7F4, .none),
  (0x840, .before), (0x841, .both), (0x846, .before), (0x848, .both), (0x849, .before),
  (0x84A, .both), (0x854, .before), (0x855, .both), (0x856, .before), (0x860, .both),
  (0x861, .none), (0x862, .both), (0x866, .none), (0x867, .before), (0x868, .both),
  (0x869, .before), (0x883, .causing), (0x886, .both), (0x887, .none), (0x889, .both),
  (0x88E, .before), (0x8A0, .both), (0x8AA, .before), (0x8AD, .none), (0x8AE, .before),
  (0x8AF, .both), (0x8B1, .before), (0x8B3, .both), (0x8B9, .before), (0x8BA, .both),
  (0x8C9, .none), (0x1820, .both), (0x1880, .none), (0x1887, .both), (0x18B0, .none),
  (0x200D, .causing), (0x214E, .none), (0xA840, .both), (0xA872, .after), (0xA873, .none),
  (0x10AC0, .both), (0x10AC5, .before), (0x10AC6, .none), (0x10AC7, .before), (0x10ACB, .none),
  (0x10ACD, .after), (0x10ACE, .before), (0x10AD3, .both), (0x10AD7, .after), (0x10AD8, .both),
  (0x10ADD, .before), (0x10ADE, .both), (0x10AE1, .before), (0x10AE2, .none), (0x10AE4, .before),
  (0x10B00, .none), (0x10B80, .both), (0x10B81, .before), (0x10B82, .both), (0x10B83, .before),
  (0x10B86, .both), (0x10B89, .before), (0x10B8A, .both), (0x10B8C, .before), (0x10B8D, .both),
  (0x10B8E, .before), (0x10B90, .both), (0x10B91, .before), (0x10C00, .none), (0x10D00, .after),
  (0x10D01, .both), (0x10D22, .before), (0x10D23, .both), (0x10D30, .none), (0x10F30, .both),
  (0x10F33, .before), (0x10F34, .both), (0x10F45, .none), (0x10F70, .both), (0x10F74, .before),
  (0x10F76, .both), (0x10FB1, .none), (0x10FB2, .both), (0x10FB4, .before), (0x10FB7, .none),
  (0x10FB8, .both), (0x10FB9, .before), (0x10FBB, .both), (0x10FBD, .before), (0x10FBE, .both),
  (0x10FC0, .none), (0x10FC1, .both), (0x10FC2, .before), (0x10FC4, .both), (0x10FE0, .none),
  (0x1E922, .both), (0x1E94B, .through), (0x1E950, .none)]

def joiningOf (c : Char) : Joining :=
  if Text.isNonspacingMark c then .through
  else (((joiningStarts.reverse).find? fun start => start.1 ≤ c.toNat).map (·.2)).getD .none

end ChainFlow.DomainName
