import LogTriage.Text.Intervals

/-!
# Data for text boundaries

How characters take part in the boundaries of user-perceived characters, of words and of sentences,
where it does not follow from general categories and other properties.
-/

namespace LogTriage.Text

def clusterControlRuns : SteppedRuns := #[
  (0x0, 0x9, 1), (0xB, 0xC, 1), (0xE, 0x1F, 1), (0x7F, 0x9F, 1), (0xAD, 0xAD, 1), (0x61C, 0x61C, 1),
  (0x180E, 0x180E, 1), (0x200B, 0x200B, 1), (0x200E, 0x200F, 1), (0x2028, 0x202E, 1),
  (0x2060, 0x206F, 1), (0xFEFF, 0xFEFF, 1), (0xFFF0, 0xFFFB, 1), (0x13430, 0x1343F, 1),
  (0x1BCA0, 0x1BCA3, 1), (0x1D173, 0x1D17A, 1), (0xE0000, 0xE001F, 1), (0xE0080, 0xE00FF, 1),
  (0xE01F0, 0xE0FFF, 1)
]

def clusterPrependRuns : SteppedRuns := #[
  (0x600, 0x605, 1), (0x6DD, 0x6DD, 1), (0x70F, 0x70F, 1), (0x890, 0x891, 1), (0x8E2, 0x8E2, 1),
  (0xD4E, 0xD4E, 1), (0x110BD, 0x110BD, 1), (0x110CD, 0x110CD, 1), (0x111C2, 0x111C3, 1),
  (0x113D1, 0x113D1, 1), (0x1193F, 0x1193F, 1), (0x11941, 0x11941, 1), (0x11A3A, 0x11A3A, 1),
  (0x11A84, 0x11A89, 1), (0x11D46, 0x11D46, 1), (0x11F02, 0x11F02, 1)
]

/-- Spacing marks that do not extend what stands before them. -/
def clusterLoneMarkRuns : SteppedRuns := #[
  (0x102B, 0x102C, 1), (0x1038, 0x1038, 1), (0x1062, 0x1064, 1), (0x1067, 0x106D, 1),
  (0x1083, 0x1083, 1), (0x1087, 0x108C, 1), (0x108F, 0x108F, 1), (0x109A, 0x109C, 1),
  (0x1A61, 0x1A61, 1), (0x1A63, 0x1A64, 1), (0xAA7B, 0xAA7B, 1), (0xAA7D, 0xAA7D, 1),
  (0x11720, 0x11721, 1)
]

/-- Hangul syllables that end in a vowel. -/
def vowelSyllableRuns : SteppedRuns := #[(0xAC00, 0xD788, 28)]

/-- Characters that are letters of words without being alphabetic. -/
def wordLetterRuns : SteppedRuns := #[
  (0x2C2, 0x2C5, 1), (0x2D2, 0x2D7, 1), (0x2DE, 0x2DF, 1), (0x2E5, 0x2EB, 1), (0x2ED, 0x2ED, 1),
  (0x2EF, 0x2FF, 1), (0x55A, 0x55C, 1), (0x55E, 0x55E, 1), (0x58A, 0x58A, 1), (0x5F3, 0x5F3, 1),
  (0x70F, 0x70F, 1), (0xA708, 0xA716, 1), (0xA720, 0xA721, 1), (0xA789, 0xA78A, 1),
  (0xAB5B, 0xAB5B, 1)
]

/-- Alphabetic characters of scripts that do not part words. -/
def wordlessLetterRuns : SteppedRuns := #[
  (0xE01, 0xE30, 1), (0xE32, 0xE33, 1), (0xE40, 0xE46, 1), (0xE81, 0xE82, 1), (0xE84, 0xE84, 1),
  (0xE86, 0xE8A, 1), (0xE8C, 0xEA3, 1), (0xEA5, 0xEA5, 1), (0xEA7, 0xEB0, 1), (0xEB2, 0xEB3, 1),
  (0xEBD, 0xEBD, 1), (0xEC0, 0xEC4, 1), (0xEC6, 0xEC6, 1), (0xEDC, 0xEDF, 1), (0x1000, 0x102A, 1),
  (0x103F, 0x103F, 1), (0x1050, 0x1055, 1), (0x105A, 0x105D, 1), (0x1061, 0x1061, 1),
  (0x1065, 0x1066, 1), (0x106E, 0x1070, 1), (0x1075, 0x1081, 1), (0x108E, 0x108E, 1),
  (0x1780, 0x17B3, 1), (0x17D7, 0x17D7, 1), (0x17DC, 0x17DC, 1), (0x1950, 0x196D, 1),
  (0x1970, 0x1974, 1), (0x1980, 0x19AB, 1), (0x19B0, 0x19C9, 1), (0x1A20, 0x1A54, 1),
  (0x1AA7, 0x1AA7, 1), (0x3041, 0x3096, 1), (0x309D, 0x309F, 1), (0xA9E0, 0xA9E4, 1),
  (0xA9E6, 0xA9EF, 1), (0xA9FA, 0xA9FE, 1), (0xAA60, 0xAA76, 1), (0xAA7A, 0xAA7A, 1),
  (0xAA7E, 0xAAAF, 1), (0xAAB1, 0xAAB1, 1), (0xAAB5, 0xAAB6, 1), (0xAAB9, 0xAABD, 1),
  (0xAAC0, 0xAAC0, 1), (0xAAC2, 0xAAC2, 1), (0xAADB, 0xAADD, 1), (0x11700, 0x1171A, 1),
  (0x11740, 0x11746, 1), (0x1B001, 0x1B11F, 1), (0x1B132, 0x1B132, 1), (0x1B150, 0x1B152, 1)
]

def wordFormatRuns : SteppedRuns := #[
  (0xAD, 0xAD, 1), (0x61C, 0x61C, 1), (0x180E, 0x180E, 1), (0x200E, 0x200F, 1), (0x202A, 0x202E, 1),
  (0x2060, 0x2064, 1), (0x2066, 0x206F, 1), (0xFEFF, 0xFEFF, 1), (0xFFF9, 0xFFFB, 1),
  (0x13430, 0x1343F, 1), (0x1BCA0, 0x1BCA3, 1), (0x1D173, 0x1D17A, 1), (0xE0001, 0xE0001, 1)
]

def wordKatakanaRuns : SteppedRuns := #[
  (0x3031, 0x3035, 1), (0x309B, 0x309C, 1), (0x30A0, 0x30FA, 1), (0x30FC, 0x30FF, 1),
  (0x31F0, 0x31FF, 1), (0x32D0, 0x32FE, 1), (0x3300, 0x3357, 1), (0xFF66, 0xFF9D, 1),
  (0x1AFF0, 0x1AFF3, 1), (0x1AFF5, 0x1AFFB, 1), (0x1AFFD, 0x1AFFE, 1), (0x1B000, 0x1B000, 1),
  (0x1B120, 0x1B122, 1), (0x1B155, 0x1B155, 1), (0x1B164, 0x1B167, 1)
]

def hebrewLetterRuns : SteppedRuns := #[
  (0x5D0, 0x5EA, 1), (0x5EF, 0x5F2, 1), (0xFB1D, 0xFB1D, 1), (0xFB1F, 0xFB28, 1),
  (0xFB2A, 0xFB36, 1), (0xFB38, 0xFB3C, 1), (0xFB3E, 0xFB3E, 1), (0xFB40, 0xFB41, 1),
  (0xFB43, 0xFB44, 1), (0xFB46, 0xFB4F, 1)
]

/-- Signs that are part of numbers. -/
def numberSignRuns : SteppedRuns := #[
  (0x600, 0x605, 1), (0x66B, 0x66B, 1), (0x6DD, 0x6DD, 1), (0x890, 0x891, 1), (0x8E2, 0x8E2, 1),
  (0x19DA, 0x19DA, 1), (0x110BD, 0x110BD, 1), (0x110CD, 0x110CD, 1)
]

def midLetterRuns : SteppedRuns := #[
  (0x3A, 0x3A, 1), (0xB7, 0xB7, 1), (0x387, 0x387, 1), (0x55F, 0x55F, 1), (0x5F4, 0x5F4, 1),
  (0x2027, 0x2027, 1), (0xFE13, 0xFE13, 1), (0xFE55, 0xFE55, 1), (0xFF1A, 0xFF1A, 1)
]

def midNumberRuns : SteppedRuns := #[
  (0x2C, 0x2C, 1), (0x3B, 0x3B, 1), (0x37E, 0x37E, 1), (0x589, 0x589, 1), (0x60C, 0x60D, 1),
  (0x66C, 0x66C, 1), (0x7F8, 0x7F8, 1), (0x2044, 0x2044, 1), (0xFE50, 0xFE50, 1),
  (0xFE54, 0xFE54, 1), (0xFF0C, 0xFF0C, 1), (0xFF1B, 0xFF1B, 1)
]

def midEitherRuns : SteppedRuns := #[
  (0x2E, 0x2E, 1), (0x2018, 0x2019, 1), (0x2024, 0x2024, 1), (0xFE52, 0xFE52, 1),
  (0xFF07, 0xFF07, 1), (0xFF0E, 0xFF0E, 1)
]

def sentenceFormatRuns : SteppedRuns := #[
  (0xAD, 0xAD, 1), (0x61C, 0x61C, 1), (0x70F, 0x70F, 1), (0x180E, 0x180E, 1), (0x200B, 0x200B, 1),
  (0x200E, 0x200F, 1), (0x202A, 0x202E, 1), (0x2060, 0x2064, 1), (0x2066, 0x206F, 1),
  (0xFEFF, 0xFEFF, 1), (0xFFF9, 0xFFFB, 1), (0x13430, 0x1343F, 1), (0x1BCA0, 0x1BCA3, 1),
  (0x1D173, 0x1D17A, 1), (0xE0001, 0xE0001, 1)
]

def sentenceContinueRuns : SteppedRuns := #[
  (0x2C, 0x2D, 1), (0x3A, 0x3B, 1), (0x37E, 0x37E, 1), (0x55D, 0x55D, 1), (0x60C, 0x60D, 1),
  (0x7F8, 0x7F8, 1), (0x1802, 0x1802, 1), (0x1808, 0x1808, 1), (0x2013, 0x2014, 1),
  (0x3001, 0x3001, 1), (0xFE10, 0xFE11, 1), (0xFE13, 0xFE14, 1), (0xFE31, 0xFE32, 1),
  (0xFE50, 0xFE51, 1), (0xFE54, 0xFE55, 1), (0xFE58, 0xFE58, 1), (0xFE63, 0xFE63, 1),
  (0xFF0C, 0xFF0D, 1), (0xFF1A, 0xFF1B, 1), (0xFF64, 0xFF64, 1)
]

def sentenceStopRuns : SteppedRuns := #[
  (0x2E, 0x2E, 1), (0x2024, 0x2024, 1), (0xFE52, 0xFE52, 1), (0xFF0E, 0xFF0E, 1)
]

def sentenceCloseRuns : SteppedRuns := #[
  (0x275B, 0x2760, 1), (0x2E00, 0x2E01, 1), (0x2E06, 0x2E08, 1), (0x2E0B, 0x2E0B, 1),
  (0x1F676, 0x1F678, 1)
]

end LogTriage.Text
