/-!
# Characters of domain names

Which characters a domain name in letters of any script may hold, which of them count as nothing,
and which are marks or belong to scripts written from right to left.
-/

namespace TodoServer.Address.Repertoire

/-- Whether a number lies in one of some ranges. -/
def within (ranges : List (Nat × Nat)) (n : Nat) : Bool :=
  ranges.any fun (low, high) => low ≤ n && n ≤ high

/-- Characters that stand for nothing in a domain name. -/
def ignoredRanges : List (Nat × Nat) :=
  [(0xAD, 0xAD), (0x34F, 0x34F), (0x180B, 0x180D), (0x180F, 0x180F), (0x200B, 0x200B),
    (0x2060, 0x2060), (0x2064, 0x2064), (0xFE00, 0xFE0F), (0xFEFF, 0xFEFF), (0x1BCA0, 0x1BCA3),
    (0xE0100, 0xE01EF)]

/-- Characters that no domain name may hold. -/
def unusableRanges : List (Nat × Nat) :=
  [(0x80, 0xA0), (0xA8, 0xA8), (0xAF, 0xAF), (0xB4, 0xB4), (0xB8, 0xB8), (0x2D8, 0x2DD),
    (0x378, 0x37A), (0x37E, 0x37E), (0x380, 0x385), (0x600, 0x605), (0x61C, 0x61C),
    (0x6DD, 0x6DD), (0x70F, 0x70F), (0x890, 0x891), (0x8E2, 0x8E2), (0x115F, 0x1160),
    (0x1680, 0x1680), (0x17B4, 0x17B5), (0x1806, 0x1806), (0x180E, 0x180E), (0x1FBD, 0x1FBD),
    (0x1FBF, 0x1FC1), (0x1FCD, 0x1FCF), (0x1FDD, 0x1FDF), (0x1FED, 0x1FEF), (0x1FFD, 0x1FFE),
    (0x2000, 0x200A), (0x200E, 0x200F), (0x2017, 0x2017), (0x2024, 0x2026), (0x2028, 0x202F),
    (0x203C, 0x203C), (0x203E, 0x203E), (0x2047, 0x2049), (0x205F, 0x205F), (0x2061, 0x2063),
    (0x2065, 0x206F), (0x207A, 0x207A), (0x207C, 0x207E), (0x208A, 0x208A), (0x208C, 0x208E),
    (0x2100, 0x2101), (0x2105, 0x2106), (0x2474, 0x24B5), (0x2A74, 0x2A76), (0x2FF0, 0x3000),
    (0x309B, 0x309C), (0x3164, 0x3164), (0x3200, 0x321E), (0x3220, 0x3243), (0x33C2, 0x33C2),
    (0x33C7, 0x33C7), (0x33D8, 0x33D8), (0xD800, 0xF8FF), (0xFB29, 0xFB29), (0xFC5E, 0xFC63),
    (0xFDD0, 0xFDEF), (0xFDFA, 0xFDFB), (0xFE10, 0xFE10), (0xFE12, 0xFE16), (0xFE19, 0xFE19),
    (0xFE30, 0xFE30), (0xFE33, 0xFE38), (0xFE47, 0xFE50), (0xFE52, 0xFE57), (0xFE59, 0xFE5C),
    (0xFE5F, 0xFE62), (0xFE64, 0xFE6B), (0xFE70, 0xFE70), (0xFE72, 0xFE72), (0xFE74, 0xFE74),
    (0xFE76, 0xFE76), (0xFE78, 0xFE78), (0xFE7A, 0xFE7A), (0xFE7C, 0xFE7C), (0xFE7E, 0xFE7E),
    (0xFFA0, 0xFFA0), (0xFFE3, 0xFFE3), (0xFFF0, 0xFFFF), (0x110BD, 0x110BD), (0x110CD, 0x110CD),
    (0x13430, 0x1343F), (0x1D173, 0x1D17A), (0x1F100, 0x1F10A), (0x1F110, 0x1F129),
    (0x1FFFE, 0x1FFFF), (0x2FA1E, 0x2FFFF), (0x323B0, 0xE00FF), (0xE01F0, 0x10FFFF)]

/-- Marks that combine with the character before them, of the scripts most in use. -/
def markRanges : List (Nat × Nat) :=
  [(0x300, 0x36F), (0x483, 0x489), (0x591, 0x5BD), (0x5BF, 0x5BF), (0x5C1, 0x5C2), (0x5C4, 0x5C5),
    (0x5C7, 0x5C7), (0x610, 0x61A), (0x64B, 0x65F), (0x670, 0x670), (0x6D6, 0x6DC), (0x6DF, 0x6E4),
    (0x6E7, 0x6E8), (0x6EA, 0x6ED), (0x711, 0x711), (0x730, 0x74A), (0x7A6, 0x7B0), (0x7EB, 0x7F3),
    (0x816, 0x819), (0x81B, 0x823), (0x8CA, 0x903), (0x93A, 0x93C), (0x93E, 0x94F),
    (0x951, 0x957), (0x962, 0x963), (0x981, 0x983), (0x9BC, 0x9BC), (0x9BE, 0x9CD),
    (0xA01, 0xA03), (0xA3C, 0xA51), (0xA81, 0xA83), (0xABC, 0xABC), (0xABE, 0xACD),
    (0xB01, 0xB03), (0xB3C, 0xB3C), (0xB3E, 0xB57), (0xB82, 0xB82), (0xBBE, 0xBCD),
    (0xC00, 0xC04), (0xC3E, 0xC56), (0xC81, 0xC83), (0xCBE, 0xCD6), (0xD00, 0xD03),
    (0xD3B, 0xD3C), (0xD3E, 0xD4D), (0xE31, 0xE31), (0xE34, 0xE3A), (0xE47, 0xE4E),
    (0xEB1, 0xEB1), (0xEB4, 0xEBC), (0xEC8, 0xECE), (0xF18, 0xF19), (0xF71, 0xF84),
    (0x102B, 0x103E), (0x135D, 0x135F), (0x17B6, 0x17D3), (0x1AB0, 0x1ACE), (0x1DC0, 0x1DFF),
    (0x20D0, 0x20F0), (0x2CEF, 0x2CF1), (0x2DE0, 0x2DFF), (0x302A, 0x302F), (0x3099, 0x309A),
    (0xA66F, 0xA672), (0xA674, 0xA67D), (0xFB1E, 0xFB1E), (0xFE20, 0xFE2F), (0x1D165, 0x1D169),
    (0x1E000, 0x1E02A)]

/-- Signs of several scripts that cut off the vowel of a consonant, after which letters may be kept
together or apart. -/
def virama : List Nat :=
  [0x94D, 0x9CD, 0xA4D, 0xACD, 0xB4D, 0xBCD, 0xC4D, 0xCCD, 0xD4D, 0xDCA, 0xE3A, 0xF84, 0x1039,
    0x103A, 0x17D2]

/-- Scripts written from right to left. -/
def rightToLeftRanges : List (Nat × Nat) :=
  [(0x590, 0x8FF), (0x200F, 0x200F), (0xFB1D, 0xFDFF), (0xFE70, 0xFEFF), (0x10800, 0x10FFF),
    (0x1E800, 0x1EFFF)]

/-- Digits of Arabic, which are written from left to right within those scripts. -/
def isArabicDigit (c : Char) : Bool := within [(0x660, 0x669)] c.toNat

/-- Digits of Europe and their forms in Persian and Urdu. -/
def isDigit (c : Char) : Bool := within [(0x30, 0x39), (0x6F0, 0x6F9)] c.toNat

def isIgnored (c : Char) : Bool := within ignoredRanges c.toNat

def isUnusable (c : Char) : Bool := within unusableRanges c.toNat

def isMark (c : Char) : Bool := within markRanges c.toNat

/-- Letters of scripts written from right to left. -/
def isRightToLeft (c : Char) : Bool :=
  within rightToLeftRanges c.toNat && !isMark c && !isDigit c && !isArabicDigit c

/-- Letters of scripts written from left to right. -/
def isLeftToRight (c : Char) : Bool :=
  c.isAlpha || (128 ≤ c.toNat && !within rightToLeftRanges c.toNat && !isMark c)

end TodoServer.Address.Repertoire
