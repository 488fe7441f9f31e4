import OrderedChoice.Unicode.Category

/-!
# Binary properties

The yes-or-no properties of Unicode 16.0.  Those that the standard derives
from general categories are derived here in the same way, from the categories
and a short list of further values; the others are listed.
-/

namespace OrderedChoice.Unicode

/-- Scalar values, by how they are put together from tables. -/
inductive Values where
  | listed (ranges : Ranges)
  | categorized (categories : List Category)
  | complement (values : Values)
  | union (left right : Values)
  | difference (left right : Values)
deriving DecidableEq, Repr

/-- Membership of a scalar value. -/
def Values.contains : Values → Nat → Bool
  | .listed ranges, value => ranges.contains value
  | .categorized categories, value => inAnyCategory categories value
  | .complement values, value => !values.contains value
  | .union left right, value => left.contains value || right.contains value
  | .difference left right, value =>
    left.contains value && !right.contains value

/-- The binary properties, each named by its long name. -/
inductive Property where
  | alphabetic
  | lowercase
  | uppercase
  | cased
  | caseIgnorable
  | graphemeExtend
  | graphemeBase
  | idStart
  | idContinue
  | xidStart
  | xidContinue
  | asciiHexDigit
  | bidiControl
  | bidiMirrored
  | dash
  | defaultIgnorable
  | deprecated
  | diacritic
  | emoji
  | emojiComponent
  | emojiModifier
  | emojiModifierBase
  | emojiPresentation
  | extendedPictographic
  | extender
  | hexDigit
  | idsBinaryOperator
  | idsTrinaryOperator
  | ideographic
  | joinControl
  | logicalOrderException
  | math
  | noncharacter
  | patternSyntax
  | patternWhiteSpace
  | quotationMark
  | radical
  | regionalIndicator
  | sentenceTerminal
  | softDotted
  | terminalPunctuation
  | unifiedIdeograph
  | variationSelector
  | whiteSpace
deriving DecidableEq, Repr

namespace Property

/-! ## Listed values -/

/-- The values of the property ascii hex digit. -/
def asciiHexDigitRanges : Ranges := [
  (0x30, 0x39), (0x41, 0x46), (0x61, 0x66)]

/-- The values of the property bidi control. -/
def bidiControlRanges : Ranges := [
  (0x61C, 0x61C), (0x200E, 0x200F), (0x202A, 0x202E), (0x2066, 0x2069)]

/-- The values of the property bidi mirrored. -/
def bidiMirroredRanges : Ranges := [
  (0x28, 0x29), (0x3C, 0x3C), (0x3E, 0x3E), (0x5B, 0x5B), (0x5D, 0x5D),
  (0x7B, 0x7B), (0x7D, 0x7D), (0xAB, 0xAB), (0xBB, 0xBB), (0xF3A, 0xF3D),
  (0x169B, 0x169C), (0x2039, 0x203A), (0x2045, 0x2046), (0x207D, 0x207E),
  (0x208D, 0x208E), (0x2140, 0x2140), (0x2201, 0x2204), (0x2208, 0x220D),
  (0x2211, 0x2211), (0x2215, 0x2216), (0x221A, 0x221D), (0x221F, 0x2222),
  (0x2224, 0x2224), (0x2226, 0x2226), (0x222B, 0x2233), (0x2239, 0x2239),
  (0x223B, 0x224C), (0x2252, 0x2255), (0x225F, 0x2260), (0x2262, 0x2262),
  (0x2264, 0x226B), (0x226D, 0x228C), (0x228F, 0x2292), (0x2298, 0x2298),
  (0x22A2, 0x22A3), (0x22A6, 0x22B8), (0x22BE, 0x22BF), (0x22C9, 0x22CD),
  (0x22D0, 0x22D1), (0x22D6, 0x22ED), (0x22F0, 0x22FF), (0x2308, 0x230B),
  (0x2320, 0x2321), (0x2329, 0x232A), (0x2768, 0x2775), (0x27C0, 0x27C0),
  (0x27C3, 0x27C6), (0x27C8, 0x27C9), (0x27CB, 0x27CD), (0x27D3, 0x27D6),
  (0x27DC, 0x27DE), (0x27E2, 0x27EF), (0x2983, 0x2998), (0x299B, 0x29A0),
  (0x29A2, 0x29AF), (0x29B8, 0x29B8), (0x29C0, 0x29C5), (0x29C9, 0x29C9),
  (0x29CE, 0x29D2), (0x29D4, 0x29D5), (0x29D8, 0x29DC), (0x29E1, 0x29E1),
  (0x29E3, 0x29E5), (0x29E8, 0x29E9), (0x29F4, 0x29F9), (0x29FC, 0x29FD),
  (0x2A0A, 0x2A1C), (0x2A1E, 0x2A21), (0x2A24, 0x2A24), (0x2A26, 0x2A26),
  (0x2A29, 0x2A29), (0x2A2B, 0x2A2E), (0x2A34, 0x2A35), (0x2A3C, 0x2A3E),
  (0x2A57, 0x2A58), (0x2A64, 0x2A65), (0x2A6A, 0x2A6D), (0x2A6F, 0x2A70),
  (0x2A73, 0x2A74), (0x2A79, 0x2AA3), (0x2AA6, 0x2AAD), (0x2AAF, 0x2AD6),
  (0x2ADC, 0x2ADC), (0x2ADE, 0x2ADE), (0x2AE2, 0x2AE6), (0x2AEC, 0x2AEE),
  (0x2AF3, 0x2AF3), (0x2AF7, 0x2AFB), (0x2AFD, 0x2AFD), (0x2BFE, 0x2BFE),
  (0x2E02, 0x2E05), (0x2E09, 0x2E0A), (0x2E0C, 0x2E0D), (0x2E1C, 0x2E1D),
  (0x2E20, 0x2E29), (0x2E55, 0x2E5C), (0x3008, 0x3011), (0x3014, 0x301B),
  (0xFE59, 0xFE5E), (0xFE64, 0xFE65), (0xFF08, 0xFF09), (0xFF1C, 0xFF1C),
  (0xFF1E, 0xFF1E), (0xFF3B, 0xFF3B), (0xFF3D, 0xFF3D), (0xFF5B, 0xFF5B),
  (0xFF5D, 0xFF5D), (0xFF5F, 0xFF60), (0xFF62, 0xFF63), (0x1D6DB, 0x1D6DB),
  (0x1D715, 0x1D715), (0x1D74F, 0x1D74F), (0x1D789, 0x1D789),
  (0x1D7C3, 0x1D7C3)]

/-- The values of the property dash. -/
def dashRanges : Ranges := [
  (0x2D, 0x2D), (0x58A, 0x58A), (0x5BE, 0x5BE), (0x1400, 0x1400),
  (0x1806, 0x1806), (0x2010, 0x2015), (0x2053, 0x2053), (0x207B, 0x207B),
  (0x208B, 0x208B), (0x2212, 0x2212), (0x2E17, 0x2E17), (0x2E1A, 0x2E1A),
  (0x2E3A, 0x2E3B), (0x2E40, 0x2E40), (0x2E5D, 0x2E5D), (0x301C, 0x301C),
  (0x3030, 0x3030), (0x30A0, 0x30A0), (0xFE31, 0xFE32), (0xFE58, 0xFE58),
  (0xFE63, 0xFE63), (0xFF0D, 0xFF0D), (0x10D6E, 0x10D6E), (0x10EAD, 0x10EAD)]

/-- The values of the property default ignorable. -/
def defaultIgnorableRanges : Ranges := [
  (0xAD, 0xAD), (0x34F, 0x34F), (0x61C, 0x61C), (0x115F, 0x1160),
  (0x17B4, 0x17B5), (0x180B, 0x180F), (0x200B, 0x200F), (0x202A, 0x202E),
  (0x2060, 0x206F), (0x3164, 0x3164), (0xFE00, 0xFE0F), (0xFEFF, 0xFEFF),
  (0xFFA0, 0xFFA0), (0xFFF0, 0xFFF8), (0x1BCA0, 0x1BCA3), (0x1D173, 0x1D17A),
  (0xE0000, 0xE0FFF)]

/-- The values of the property deprecated. -/
def deprecatedRanges : Ranges := [
  (0x149, 0x149), (0x673, 0x673), (0xF77, 0xF77), (0xF79, 0xF79),
  (0x17A3, 0x17A4), (0x206A, 0x206F), (0x2329, 0x232A), (0xE0001, 0xE0001)]

/-- The values of the property diacritic. -/
def diacriticRanges : Ranges := [
  (0x5E, 0x5E), (0x60, 0x60), (0xA8, 0xA8), (0xAF, 0xAF), (0xB4, 0xB4),
  (0xB7, 0xB8), (0x2B0, 0x34E), (0x350, 0x357), (0x35D, 0x362), (0x374, 0x375),
  (0x37A, 0x37A), (0x384, 0x385), (0x483, 0x487), (0x559, 0x559),
  (0x591, 0x5BD), (0x5BF, 0x5BF), (0x5C1, 0x5C2), (0x5C4, 0x5C5),
  (0x5C7, 0x5C7), (0x64B, 0x652), (0x657, 0x658), (0x6DF, 0x6E0),
  (0x6E5, 0x6E6), (0x6EA, 0x6EC), (0x730, 0x74A), (0x7A6, 0x7B0),
  (0x7EB, 0x7F5), (0x818, 0x819), (0x898, 0x89F), (0x8C9, 0x8D2),
  (0x8E3, 0x8FE), (0x93C, 0x93C), (0x94D, 0x94D), (0x951, 0x954),
  (0x971, 0x971), (0x9BC, 0x9BC), (0x9CD, 0x9CD), (0xA3C, 0xA3C),
  (0xA4D, 0xA4D), (0xABC, 0xABC), (0xACD, 0xACD), (0xAFD, 0xAFF),
  (0xB3C, 0xB3C), (0xB4D, 0xB4D), (0xB55, 0xB55), (0xBCD, 0xBCD),
  (0xC3C, 0xC3C), (0xC4D, 0xC4D), (0xCBC, 0xCBC), (0xCCD, 0xCCD),
  (0xD3B, 0xD3C), (0xD4D, 0xD4D), (0xDCA, 0xDCA), (0xE3A, 0xE3A),
  (0xE47, 0xE4C), (0xE4E, 0xE4E), (0xEBA, 0xEBA), (0xEC8, 0xECC),
  (0xF18, 0xF19), (0xF35, 0xF35), (0xF37, 0xF37), (0xF39, 0xF39),
  (0xF3E, 0xF3F), (0xF82, 0xF84), (0xF86, 0xF87), (0xFC6, 0xFC6),
  (0x1037, 0x1037), (0x1039, 0x103A), (0x1063, 0x1064), (0x1069, 0x106D),
  (0x1087, 0x108D), (0x108F, 0x108F), (0x109A, 0x109B), (0x135D, 0x135F),
  (0x1714, 0x1715), (0x1734, 0x1734), (0x17C9, 0x17D3), (0x17DD, 0x17DD),
  (0x1939, 0x193B), (0x1A60, 0x1A60), (0x1A75, 0x1A7C), (0x1A7F, 0x1A7F),
  (0x1AB0, 0x1ABE), (0x1AC1, 0x1ACB), (0x1B34, 0x1B34), (0x1B44, 0x1B44),
  (0x1B6B, 0x1B73), (0x1BAA, 0x1BAB), (0x1BE6, 0x1BE6), (0x1BF2, 0x1BF3),
  (0x1C36, 0x1C37), (0x1C78, 0x1C7D), (0x1CD0, 0x1CE8), (0x1CED, 0x1CED),
  (0x1CF4, 0x1CF4), (0x1CF7, 0x1CF9), (0x1D2C, 0x1D6A), (0x1D9B, 0x1DBE),
  (0x1DC4, 0x1DCF), (0x1DF5, 0x1DFF), (0x1FBD, 0x1FBD), (0x1FBF, 0x1FC1),
  (0x1FCD, 0x1FCF), (0x1FDD, 0x1FDF), (0x1FED, 0x1FEF), (0x1FFD, 0x1FFE),
  (0x2CEF, 0x2CF1), (0x2E2F, 0x2E2F), (0x302A, 0x302F), (0x3099, 0x309C),
  (0x30FC, 0x30FC), (0xA66F, 0xA66F), (0xA67C, 0xA67D), (0xA67F, 0xA67F),
  (0xA69C, 0xA69D), (0xA6F0, 0xA6F1), (0xA700, 0xA721), (0xA788, 0xA78A),
  (0xA7F8, 0xA7F9), (0xA806, 0xA806), (0xA82C, 0xA82C), (0xA8C4, 0xA8C4),
  (0xA8E0, 0xA8F1), (0xA92B, 0xA92E), (0xA953, 0xA953), (0xA9B3, 0xA9B3),
  (0xA9C0, 0xA9C0), (0xA9E5, 0xA9E5), (0xAA7B, 0xAA7D), (0xAABF, 0xAAC2),
  (0xAAF6, 0xAAF6), (0xAB5B, 0xAB5F), (0xAB69, 0xAB6B), (0xABEC, 0xABED),
  (0xFB1E, 0xFB1E), (0xFE20, 0xFE2F), (0xFF3E, 0xFF3E), (0xFF40, 0xFF40),
  (0xFF70, 0xFF70), (0xFF9E, 0xFF9F), (0xFFE3, 0xFFE3), (0x102E0, 0x102E0),
  (0x10780, 0x10785), (0x10787, 0x107B0), (0x107B2, 0x107BA),
  (0x10A38, 0x10A3A), (0x10A3F, 0x10A3F), (0x10AE5, 0x10AE6),
  (0x10D22, 0x10D27), (0x10D4E, 0x10D4E), (0x10D69, 0x10D6D),
  (0x10EFD, 0x10EFF), (0x10F46, 0x10F50), (0x10F82, 0x10F85),
  (0x11046, 0x11046), (0x11070, 0x11070), (0x110B9, 0x110BA),
  (0x11133, 0x11134), (0x11173, 0x11173), (0x111C0, 0x111C0),
  (0x111CA, 0x111CC), (0x11235, 0x11236), (0x112E9, 0x112EA),
  (0x1133B, 0x1133C), (0x1134D, 0x1134D), (0x11366, 0x1136C),
  (0x11370, 0x11374), (0x113CE, 0x113D0), (0x113D2, 0x113D3),
  (0x113E1, 0x113E2), (0x11442, 0x11442), (0x11446, 0x11446),
  (0x114C2, 0x114C3), (0x115BF, 0x115C0), (0x1163F, 0x1163F),
  (0x116B6, 0x116B7), (0x1172B, 0x1172B), (0x11839, 0x1183A),
  (0x1193D, 0x1193E), (0x11943, 0x11943), (0x119E0, 0x119E0),
  (0x11A34, 0x11A34), (0x11A47, 0x11A47), (0x11A99, 0x11A99),
  (0x11C3F, 0x11C3F), (0x11D42, 0x11D42), (0x11D44, 0x11D45),
  (0x11D97, 0x11D97), (0x11F41, 0x11F42), (0x11F5A, 0x11F5A),
  (0x13447, 0x13455), (0x1612F, 0x1612F), (0x16AF0, 0x16AF4),
  (0x16B30, 0x16B36), (0x16D6B, 0x16D6C), (0x16F8F, 0x16F9F),
  (0x16FF0, 0x16FF1), (0x1AFF0, 0x1AFF3), (0x1AFF5, 0x1AFFB),
  (0x1AFFD, 0x1AFFE), (0x1CF00, 0x1CF2D), (0x1CF30, 0x1CF46),
  (0x1D167, 0x1D169), (0x1D16D, 0x1D172), (0x1D17B, 0x1D182),
  (0x1D185, 0x1D18B), (0x1D1AA, 0x1D1AD), (0x1E030, 0x1E06D),
  (0x1E130, 0x1E136), (0x1E2AE, 0x1E2AE), (0x1E2EC, 0x1E2EF),
  (0x1E5EE, 0x1E5EF), (0x1E8D0, 0x1E8D6), (0x1E944, 0x1E946),
  (0x1E948, 0x1E94A)]

/-- The values of the property emoji. -/
def emojiRanges : Ranges := [
  (0x23, 0x23), (0x2A, 0x2A), (0x30, 0x39), (0xA9, 0xA9), (0xAE, 0xAE),
  (0x203C, 0x203C), (0x2049, 0x2049), (0x2122, 0x2122), (0x2139, 0x2139),
  (0x2194, 0x2199), (0x21A9, 0x21AA), (0x231A, 0x231B), (0x2328, 0x2328),
  (0x23CF, 0x23CF), (0x23E9, 0x23F3), (0x23F8, 0x23FA), (0x24C2, 0x24C2),
  (0x25AA, 0x25AB), (0x25B6, 0x25B6), (0x25C0, 0x25C0), (0x25FB, 0x25FE),
  (0x2600, 0x2604), (0x260E, 0x260E), (0x2611, 0x2611), (0x2614, 0x2615),
  (0x2618, 0x2618), (0x261D, 0x261D), (0x2620, 0x2620), (0x2622, 0x2623),
  (0x2626, 0x2626), (0x262A, 0x262A), (0x262E, 0x262F), (0x2638, 0x263A),
  (0x2640, 0x2640), (0x2642, 0x2642), (0x2648, 0x2653), (0x265F, 0x2660),
  (0x2663, 0x2663), (0x2665, 0x2666), (0x2668, 0x2668), (0x267B, 0x267B),
  (0x267E, 0x267F), (0x2692, 0x2697), (0x2699, 0x2699), (0x269B, 0x269C),
  (0x26A0, 0x26A1), (0x26A7, 0x26A7), (0x26AA, 0x26AB), (0x26B0, 0x26B1),
  (0x26BD, 0x26BE), (0x26C4, 0x26C5), (0x26C8, 0x26C8), (0x26CE, 0x26CF),
  (0x26D1, 0x26D1), (0x26D3, 0x26D4), (0x26E9, 0x26EA), (0x26F0, 0x26F5),
  (0x26F7, 0x26FA), (0x26FD, 0x26FD), (0x2702, 0x2702), (0x2705, 0x2705),
  (0x2708, 0x270D), (0x270F, 0x270F), (0x2712, 0x2712), (0x2714, 0x2714),
  (0x2716, 0x2716), (0x271D, 0x271D), (0x2721, 0x2721), (0x2728, 0x2728),
  (0x2733, 0x2734), (0x2744, 0x2744), (0x2747, 0x2747), (0x274C, 0x274C),
  (0x274E, 0x274E), (0x2753, 0x2755), (0x2757, 0x2757), (0x2763, 0x2764),
  (0x2795, 0x2797), (0x27A1, 0x27A1), (0x27B0, 0x27B0), (0x27BF, 0x27BF),
  (0x2934, 0x2935), (0x2B05, 0x2B07), (0x2B1B, 0x2B1C), (0x2B50, 0x2B50),
  (0x2B55, 0x2B55), (0x3030, 0x3030), (0x303D, 0x303D), (0x3297, 0x3297),
  (0x3299, 0x3299), (0x1F004, 0x1F004), (0x1F0CF, 0x1F0CF), (0x1F170, 0x1F171),
  (0x1F17E, 0x1F17F), (0x1F18E, 0x1F18E), (0x1F191, 0x1F19A),
  (0x1F1E6, 0x1F1FF), (0x1F201, 0x1F202), (0x1F21A, 0x1F21A),
  (0x1F22F, 0x1F22F), (0x1F232, 0x1F23A), (0x1F250, 0x1F251),
  (0x1F300, 0x1F321), (0x1F324, 0x1F393), (0x1F396, 0x1F397),
  (0x1F399, 0x1F39B), (0x1F39E, 0x1F3F0), (0x1F3F3, 0x1F3F5),
  (0x1F3F7, 0x1F4FD), (0x1F4FF, 0x1F53D), (0x1F549, 0x1F54E),
  (0x1F550, 0x1F567), (0x1F56F, 0x1F570), (0x1F573, 0x1F57A),
  (0x1F587, 0x1F587), (0x1F58A, 0x1F58D), (0x1F590, 0x1F590),
  (0x1F595, 0x1F596), (0x1F5A4, 0x1F5A5), (0x1F5A8, 0x1F5A8),
  (0x1F5B1, 0x1F5B2), (0x1F5BC, 0x1F5BC), (0x1F5C2, 0x1F5C4),
  (0x1F5D1, 0x1F5D3), (0x1F5DC, 0x1F5DE), (0x1F5E1, 0x1F5E1),
  (0x1F5E3, 0x1F5E3), (0x1F5E8, 0x1F5E8), (0x1F5EF, 0x1F5EF),
  (0x1F5F3, 0x1F5F3), (0x1F5FA, 0x1F64F), (0x1F680, 0x1F6C5),
  (0x1F6CB, 0x1F6D2), (0x1F6D5, 0x1F6D7), (0x1F6DC, 0x1F6E5),
  (0x1F6E9, 0x1F6E9), (0x1F6EB, 0x1F6EC), (0x1F6F0, 0x1F6F0),
  (0x1F6F3, 0x1F6FC), (0x1F7E0, 0x1F7EB), (0x1F7F0, 0x1F7F0),
  (0x1F90C, 0x1F93A), (0x1F93C, 0x1F945), (0x1F947, 0x1F9FF),
  (0x1FA70, 0x1FA7C), (0x1FA80, 0x1FA89), (0x1FA8F, 0x1FAC6),
  (0x1FACE, 0x1FADC), (0x1FADF, 0x1FAE9), (0x1FAF0, 0x1FAF8)]

/-- The values of the property emoji component. -/
def emojiComponentRanges : Ranges := [
  (0x23, 0x23), (0x2A, 0x2A), (0x30, 0x39), (0x200D, 0x200D), (0x20E3, 0x20E3),
  (0xFE0F, 0xFE0F), (0x1F1E6, 0x1F1FF), (0x1F3FB, 0x1F3FF), (0x1F9B0, 0x1F9B3),
  (0xE0020, 0xE007F)]

/-- The values of the property emoji modifier. -/
def emojiModifierRanges : Ranges := [
  (0x1F3FB, 0x1F3FF)]

/-- The values of the property emoji modifier base. -/
def emojiModifierBaseRanges : Ranges := [
  (0x261D, 0x261D), (0x26F9, 0x26F9), (0x270A, 0x270D), (0x1F385, 0x1F385),
  (0x1F3C2, 0x1F3C4), (0x1F3C7, 0x1F3C7), (0x1F3CA, 0x1F3CC),
  (0x1F442, 0x1F443), (0x1F446, 0x1F450), (0x1F466, 0x1F478),
  (0x1F47C, 0x1F47C), (0x1F481, 0x1F483), (0x1F485, 0x1F487),
  (0x1F48F, 0x1F48F), (0x1F491, 0x1F491), (0x1F4AA, 0x1F4AA),
  (0x1F574, 0x1F575), (0x1F57A, 0x1F57A), (0x1F590, 0x1F590),
  (0x1F595, 0x1F596), (0x1F645, 0x1F647), (0x1F64B, 0x1F64F),
  (0x1F6A3, 0x1F6A3), (0x1F6B4, 0x1F6B6), (0x1F6C0, 0x1F6C0),
  (0x1F6CC, 0x1F6CC), (0x1F90C, 0x1F90C), (0x1F90F, 0x1F90F),
  (0x1F918, 0x1F91F), (0x1F926, 0x1F926), (0x1F930, 0x1F939),
  (0x1F93C, 0x1F93E), (0x1F977, 0x1F977), (0x1F9B5, 0x1F9B6),
  (0x1F9B8, 0x1F9B9), (0x1F9BB, 0x1F9BB), (0x1F9CD, 0x1F9CF),
  (0x1F9D1, 0x1F9DD), (0x1FAC3, 0x1FAC5), (0x1FAF0, 0x1FAF8)]

/-- The values of the property emoji presentation. -/
def emojiPresentationRanges : Ranges := [
  (0x231A, 0x231B), (0x23E9, 0x23EC), (0x23F0, 0x23F0), (0x23F3, 0x23F3),
  (0x25FD, 0x25FE), (0x2614, 0x2615), (0x2648, 0x2653), (0x267F, 0x267F),
  (0x2693, 0x2693), (0x26A1, 0x26A1), (0x26AA, 0x26AB), (0x26BD, 0x26BE),
  (0x26C4, 0x26C5), (0x26CE, 0x26CE), (0x26D4, 0x26D4), (0x26EA, 0x26EA),
  (0x26F2, 0x26F3), (0x26F5, 0x26F5), (0x26FA, 0x26FA), (0x26FD, 0x26FD),
  (0x2705, 0x2705), (0x270A, 0x270B), (0x2728, 0x2728), (0x274C, 0x274C),
  (0x274E, 0x274E), (0x2753, 0x2755), (0x2757, 0x2757), (0x2795, 0x2797),
  (0x27B0, 0x27B0), (0x27BF, 0x27BF), (0x2B1B, 0x2B1C), (0x2B50, 0x2B50),
  (0x2B55, 0x2B55), (0x1F004, 0x1F004), (0x1F0CF, 0x1F0CF), (0x1F18E, 0x1F18E),
  (0x1F191, 0x1F19A), (0x1F1E6, 0x1F1FF), (0x1F201, 0x1F201),
  (0x1F21A, 0x1F21A), (0x1F22F, 0x1F22F), (0x1F232, 0x1F236),
  (0x1F238, 0x1F23A), (0x1F250, 0x1F251), (0x1F300, 0x1F320),
  (0x1F32D, 0x1F335), (0x1F337, 0x1F37C), (0x1F37E, 0x1F393),
  (0x1F3A0, 0x1F3CA), (0x1F3CF, 0x1F3D3), (0x1F3E0, 0x1F3F0),
  (0x1F3F4, 0x1F3F4), (0x1F3F8, 0x1F43E), (0x1F440, 0x1F440),
  (0x1F442, 0x1F4FC), (0x1F4FF, 0x1F53D), (0x1F54B, 0x1F54E),
  (0x1F550, 0x1F567), (0x1F57A, 0x1F57A), (0x1F595, 0x1F596),
  (0x1F5A4, 0x1F5A4), (0x1F5FB, 0x1F64F), (0x1F680, 0x1F6C5),
  (0x1F6CC, 0x1F6CC), (0x1F6D0, 0x1F6D2), (0x1F6D5, 0x1F6D7),
  (0x1F6DC, 0x1F6DF), (0x1F6EB, 0x1F6EC), (0x1F6F4, 0x1F6FC),
  (0x1F7E0, 0x1F7EB), (0x1F7F0, 0x1F7F0), (0x1F90C, 0x1F93A),
  (0x1F93C, 0x1F945), (0x1F947, 0x1F9FF), (0x1FA70, 0x1FA7C),
  (0x1FA80, 0x1FA89), (0x1FA8F, 0x1FAC6), (0x1FACE, 0x1FADC),
  (0x1FADF, 0x1FAE9), (0x1FAF0, 0x1FAF8)]

/-- The values of the property extended pictographic. -/
def extendedPictographicRanges : Ranges := [
  (0xA9, 0xA9), (0xAE, 0xAE), (0x203C, 0x203C), (0x2049, 0x2049),
  (0x2122, 0x2122), (0x2139, 0x2139), (0x2194, 0x2199), (0x21A9, 0x21AA),
  (0x231A, 0x231B), (0x2328, 0x2328), (0x2388, 0x2388), (0x23CF, 0x23CF),
  (0x23E9, 0x23F3), (0x23F8, 0x23FA), (0x24C2, 0x24C2), (0x25AA, 0x25AB),
  (0x25B6, 0x25B6), (0x25C0, 0x25C0), (0x25FB, 0x25FE), (0x2600, 0x2605),
  (0x2607, 0x2612), (0x2614, 0x2685), (0x2690, 0x2705), (0x2708, 0x2712),
  (0x2714, 0x2714), (0x2716, 0x2716), (0x271D, 0x271D), (0x2721, 0x2721),
  (0x2728, 0x2728), (0x2733, 0x2734), (0x2744, 0x2744), (0x2747, 0x2747),
  (0x274C, 0x274C), (0x274E, 0x274E), (0x2753, 0x2755), (0x2757, 0x2757),
  (0x2763, 0x2767), (0x2795, 0x2797), (0x27A1, 0x27A1), (0x27B0, 0x27B0),
  (0x27BF, 0x27BF), (0x2934, 0x2935), (0x2B05, 0x2B07), (0x2B1B, 0x2B1C),
  (0x2B50, 0x2B50), (0x2B55, 0x2B55), (0x3030, 0x3030), (0x303D, 0x303D),
  (0x3297, 0x3297), (0x3299, 0x3299), (0x1F000, 0x1F0FF), (0x1F10D, 0x1F10F),
  (0x1F12F, 0x1F12F), (0x1F16C, 0x1F171), (0x1F17E, 0x1F17F),
  (0x1F18E, 0x1F18E), (0x1F191, 0x1F19A), (0x1F1AD, 0x1F1E5),
  (0x1F201, 0x1F20F), (0x1F21A, 0x1F21A), (0x1F22F, 0x1F22F),
  (0x1F232, 0x1F23A), (0x1F23C, 0x1F23F), (0x1F249, 0x1F3FA),
  (0x1F400, 0x1F53D), (0x1F546, 0x1F64F), (0x1F680, 0x1F6FF),
  (0x1F774, 0x1F77F), (0x1F7D5, 0x1F7FF), (0x1F80C, 0x1F80F),
  (0x1F848, 0x1F84F), (0x1F85A, 0x1F85F), (0x1F888, 0x1F88F),
  (0x1F8AE, 0x1F8FF), (0x1F90C, 0x1F93A), (0x1F93C, 0x1F945),
  (0x1F947, 0x1FAFF), (0x1FC00, 0x1FFFD)]

/-- The values of the property extender. -/
def extenderRanges : Ranges := [
  (0xB7, 0xB7), (0x2D0, 0x2D1), (0x640, 0x640), (0x7FA, 0x7FA), (0xA71, 0xA71),
  (0xAFB, 0xAFB), (0xB55, 0xB55), (0xE46, 0xE46), (0xEC6, 0xEC6),
  (0x180A, 0x180A), (0x1843, 0x1843), (0x1AA7, 0x1AA7), (0x1C36, 0x1C36),
  (0x1C7B, 0x1C7B), (0x3005, 0x3005), (0x3031, 0x3035), (0x309D, 0x309E),
  (0x30FC, 0x30FE), (0xA015, 0xA015), (0xA60C, 0xA60C), (0xA9CF, 0xA9CF),
  (0xA9E6, 0xA9E6), (0xAA70, 0xAA70), (0xAADD, 0xAADD), (0xAAF3, 0xAAF4),
  (0xFF70, 0xFF70), (0x10781, 0x10782), (0x10D4E, 0x10D4E), (0x10D6A, 0x10D6A),
  (0x10D6F, 0x10D6F), (0x11237, 0x11237), (0x1135D, 0x1135D),
  (0x113D2, 0x113D3), (0x115C6, 0x115C8), (0x11A98, 0x11A98),
  (0x16B42, 0x16B43), (0x16FE0, 0x16FE1), (0x16FE3, 0x16FE3),
  (0x1E13C, 0x1E13D), (0x1E5EF, 0x1E5EF), (0x1E944, 0x1E946)]

/-- The values of the property hex digit. -/
def hexDigitRanges : Ranges := [
  (0x30, 0x39), (0x41, 0x46), (0x61, 0x66), (0xFF10, 0xFF19), (0xFF21, 0xFF26),
  (0xFF41, 0xFF46)]

/-- The values of the property ids binary operator. -/
def idsBinaryOperatorRanges : Ranges := [
  (0x2FF0, 0x2FF1), (0x2FF4, 0x2FFD), (0x31EF, 0x31EF)]

/-- The values of the property ids trinary operator. -/
def idsTrinaryOperatorRanges : Ranges := [
  (0x2FF2, 0x2FF3)]

/-- The values of the property ideographic. -/
def ideographicRanges : Ranges := [
  (0x3006, 0x3007), (0x3021, 0x3029), (0x3038, 0x303A), (0x3400, 0x4DBF),
  (0x4E00, 0x9FFF), (0xF900, 0xFA6D), (0xFA70, 0xFAD9), (0x16FE4, 0x16FE4),
  (0x17000, 0x187F7), (0x18800, 0x18CD5), (0x18CFF, 0x18D08),
  (0x1B170, 0x1B2FB), (0x20000, 0x2A6DF), (0x2A700, 0x2B739),
  (0x2B740, 0x2B81D), (0x2B820, 0x2CEA1), (0x2CEB0, 0x2EBE0),
  (0x2EBF0, 0x2EE5D), (0x2F800, 0x2FA1D), (0x30000, 0x3134A),
  (0x31350, 0x323AF)]

/-- The values of the property join control. -/
def joinControlRanges : Ranges := [
  (0x200C, 0x200D)]

/-- The values of the property logical order exception. -/
def logicalOrderExceptionRanges : Ranges := [
  (0xE40, 0xE44), (0xEC0, 0xEC4), (0x19B5, 0x19B7), (0x19BA, 0x19BA),
  (0xAAB5, 0xAAB6), (0xAAB9, 0xAAB9), (0xAABB, 0xAABC)]

/-- The values of the property math. -/
def mathRanges : Ranges := [
  (0x2B, 0x2B), (0x3C, 0x3E), (0x5E, 0x5E), (0x7C, 0x7C), (0x7E, 0x7E),
  (0xAC, 0xAC), (0xB1, 0xB1), (0xD7, 0xD7), (0xF7, 0xF7), (0x3D0, 0x3D2),
  (0x3D5, 0x3D5), (0x3F0, 0x3F1), (0x3F4, 0x3F6), (0x606, 0x608),
  (0x2016, 0x2016), (0x2032, 0x2034), (0x2040, 0x2040), (0x2044, 0x2044),
  (0x2052, 0x2052), (0x2061, 0x2064), (0x207A, 0x207E), (0x208A, 0x208E),
  (0x20D0, 0x20DC), (0x20E1, 0x20E1), (0x20E5, 0x20E6), (0x20EB, 0x20EF),
  (0x2102, 0x2102), (0x2107, 0x2107), (0x210A, 0x2113), (0x2115, 0x2115),
  (0x2118, 0x211D), (0x2124, 0x2124), (0x2128, 0x2129), (0x212C, 0x212D),
  (0x212F, 0x2131), (0x2133, 0x2138), (0x213C, 0x2149), (0x214B, 0x214B),
  (0x2190, 0x21A7), (0x21A9, 0x21AE), (0x21B0, 0x21B1), (0x21B6, 0x21B7),
  (0x21BC, 0x21DB), (0x21DD, 0x21DD), (0x21E4, 0x21E5), (0x21F4, 0x22FF),
  (0x2308, 0x230B), (0x2320, 0x2321), (0x237C, 0x237C), (0x239B, 0x23B5),
  (0x23B7, 0x23B7), (0x23D0, 0x23D0), (0x23DC, 0x23E2), (0x25A0, 0x25A1),
  (0x25AE, 0x25B7), (0x25BC, 0x25C1), (0x25C6, 0x25C7), (0x25CA, 0x25CB),
  (0x25CF, 0x25D3), (0x25E2, 0x25E2), (0x25E4, 0x25E4), (0x25E7, 0x25EC),
  (0x25F8, 0x25FF), (0x2605, 0x2606), (0x2640, 0x2640), (0x2642, 0x2642),
  (0x2660, 0x2663), (0x266D, 0x266F), (0x27C0, 0x27FF), (0x2900, 0x2AFF),
  (0x2B30, 0x2B44), (0x2B47, 0x2B4C), (0xFB29, 0xFB29), (0xFE61, 0xFE66),
  (0xFE68, 0xFE68), (0xFF0B, 0xFF0B), (0xFF1C, 0xFF1E), (0xFF3C, 0xFF3C),
  (0xFF3E, 0xFF3E), (0xFF5C, 0xFF5C), (0xFF5E, 0xFF5E), (0xFFE2, 0xFFE2),
  (0xFFE9, 0xFFEC), (0x10D8E, 0x10D8F), (0x1D400, 0x1D454), (0x1D456, 0x1D49C),
  (0x1D49E, 0x1D49F), (0x1D4A2, 0x1D4A2), (0x1D4A5, 0x1D4A6),
  (0x1D4A9, 0x1D4AC), (0x1D4AE, 0x1D4B9), (0x1D4BB, 0x1D4BB),
  (0x1D4BD, 0x1D4C3), (0x1D4C5, 0x1D505), (0x1D507, 0x1D50A),
  (0x1D50D, 0x1D514), (0x1D516, 0x1D51C), (0x1D51E, 0x1D539),
  (0x1D53B, 0x1D53E), (0x1D540, 0x1D544), (0x1D546, 0x1D546),
  (0x1D54A, 0x1D550), (0x1D552, 0x1D6A5), (0x1D6A8, 0x1D7CB),
  (0x1D7CE, 0x1D7FF), (0x1EE00, 0x1EE03), (0x1EE05, 0x1EE1F),
  (0x1EE21, 0x1EE22), (0x1EE24, 0x1EE24), (0x1EE27, 0x1EE27),
  (0x1EE29, 0x1EE32), (0x1EE34, 0x1EE37), (0x1EE39, 0x1EE39),
  (0x1EE3B, 0x1EE3B), (0x1EE42, 0x1EE42), (0x1EE47, 0x1EE47),
  (0x1EE49, 0x1EE49), (0x1EE4B, 0x1EE4B), (0x1EE4D, 0x1EE4F),
  (0x1EE51, 0x1EE52), (0x1EE54, 0x1EE54), (0x1EE57, 0x1EE57),
  (0x1EE59, 0x1EE59), (0x1EE5B, 0x1EE5B), (0x1EE5D, 0x1EE5D),
  (0x1EE5F, 0x1EE5F), (0x1EE61, 0x1EE62), (0x1EE64, 0x1EE64),
  (0x1EE67, 0x1EE6A), (0x1EE6C, 0x1EE72), (0x1EE74, 0x1EE77),
  (0x1EE79, 0x1EE7C), (0x1EE7E, 0x1EE7E), (0x1EE80, 0x1EE89),
  (0x1EE8B, 0x1EE9B), (0x1EEA1, 0x1EEA3), (0x1EEA5, 0x1EEA9),
  (0x1EEAB, 0x1EEBB), (0x1EEF0, 0x1EEF1)]

/-- The values of the property noncharacter. -/
def noncharacterRanges : Ranges := [
  (0xFDD0, 0xFDEF), (0xFFFE, 0xFFFF), (0x1FFFE, 0x1FFFF), (0x2FFFE, 0x2FFFF),
  (0x3FFFE, 0x3FFFF), (0x4FFFE, 0x4FFFF), (0x5FFFE, 0x5FFFF),
  (0x6FFFE, 0x6FFFF), (0x7FFFE, 0x7FFFF), (0x8FFFE, 0x8FFFF),
  (0x9FFFE, 0x9FFFF), (0xAFFFE, 0xAFFFF), (0xBFFFE, 0xBFFFF),
  (0xCFFFE, 0xCFFFF), (0xDFFFE, 0xDFFFF), (0xEFFFE, 0xEFFFF),
  (0xFFFFE, 0xFFFFF), (0x10FFFE, 0x10FFFF)]

/-- The values of the property pattern syntax. -/
def patternSyntaxRanges : Ranges := [
  (0x21, 0x2F), (0x3A, 0x40), (0x5B, 0x5E), (0x60, 0x60), (0x7B, 0x7E),
  (0xA1, 0xA7), (0xA9, 0xA9), (0xAB, 0xAC), (0xAE, 0xAE), (0xB0, 0xB1),
  (0xB6, 0xB6), (0xBB, 0xBB), (0xBF, 0xBF), (0xD7, 0xD7), (0xF7, 0xF7),
  (0x2010, 0x2027), (0x2030, 0x203E), (0x2041, 0x2053), (0x2055, 0x205E),
  (0x2190, 0x245F), (0x2500, 0x2775), (0x2794, 0x2BFF), (0x2E00, 0x2E7F),
  (0x3001, 0x3003), (0x3008, 0x3020), (0x3030, 0x3030), (0xFD3E, 0xFD3F),
  (0xFE45, 0xFE46)]

/-- The values of the property pattern white space. -/
def patternWhiteSpaceRanges : Ranges := [
  (0x9, 0xD), (0x20, 0x20), (0x85, 0x85), (0x200E, 0x200F), (0x2028, 0x2029)]

/-- The values of the property quotation mark. -/
def quotationMarkRanges : Ranges := [
  (0x22, 0x22), (0x27, 0x27), (0xAB, 0xAB), (0xBB, 0xBB), (0x2018, 0x201F),
  (0x2039, 0x203A), (0x2E42, 0x2E42), (0x300C, 0x300F), (0x301D, 0x301F),
  (0xFE41, 0xFE44), (0xFF02, 0xFF02), (0xFF07, 0xFF07), (0xFF62, 0xFF63)]

/-- The values of the property radical. -/
def radicalRanges : Ranges := [
  (0x2E80, 0x2E99), (0x2E9B, 0x2EF3), (0x2F00, 0x2FD5)]

/-- The values of the property regional indicator. -/
def regionalIndicatorRanges : Ranges := [
  (0x1F1E6, 0x1F1FF)]

/-- The values of the property sentence terminal. -/
def sentenceTerminalRanges : Ranges := [
  (0x21, 0x21), (0x2E, 0x2E), (0x3F, 0x3F), (0x589, 0x589), (0x61D, 0x61F),
  (0x6D4, 0x6D4), (0x700, 0x702), (0x7F9, 0x7F9), (0x837, 0x837),
  (0x839, 0x839), (0x83D, 0x83E), (0x964, 0x965), (0x104A, 0x104B),
  (0x1362, 0x1362), (0x1367, 0x1368), (0x166E, 0x166E), (0x1735, 0x1736),
  (0x17D4, 0x17D5), (0x1803, 0x1803), (0x1809, 0x1809), (0x1944, 0x1945),
  (0x1AA8, 0x1AAB), (0x1B4E, 0x1B4F), (0x1B5A, 0x1B5B), (0x1B5E, 0x1B5F),
  (0x1B7D, 0x1B7F), (0x1C3B, 0x1C3C), (0x1C7E, 0x1C7F), (0x2024, 0x2024),
  (0x203C, 0x203D), (0x2047, 0x2049), (0x2CF9, 0x2CFB), (0x2E2E, 0x2E2E),
  (0x2E3C, 0x2E3C), (0x2E53, 0x2E54), (0x3002, 0x3002), (0xA4FF, 0xA4FF),
  (0xA60E, 0xA60F), (0xA6F3, 0xA6F3), (0xA6F7, 0xA6F7), (0xA876, 0xA877),
  (0xA8CE, 0xA8CF), (0xA92F, 0xA92F), (0xA9C8, 0xA9C9), (0xAA5D, 0xAA5F),
  (0xAAF0, 0xAAF1), (0xABEB, 0xABEB), (0xFE12, 0xFE12), (0xFE15, 0xFE16),
  (0xFE52, 0xFE52), (0xFE56, 0xFE57), (0xFF01, 0xFF01), (0xFF0E, 0xFF0E),
  (0xFF1F, 0xFF1F), (0xFF61, 0xFF61), (0x10A56, 0x10A57), (0x10F55, 0x10F59),
  (0x10F86, 0x10F89), (0x11047, 0x11048), (0x110BE, 0x110C1),
  (0x11141, 0x11143), (0x111C5, 0x111C6), (0x111CD, 0x111CD),
  (0x111DE, 0x111DF), (0x11238, 0x11239), (0x1123B, 0x1123C),
  (0x112A9, 0x112A9), (0x113D4, 0x113D5), (0x1144B, 0x1144C),
  (0x115C2, 0x115C3), (0x115C9, 0x115D7), (0x11641, 0x11642),
  (0x1173C, 0x1173E), (0x11944, 0x11944), (0x11946, 0x11946),
  (0x11A42, 0x11A43), (0x11A9B, 0x11A9C), (0x11C41, 0x11C42),
  (0x11EF7, 0x11EF8), (0x11F43, 0x11F44), (0x16A6E, 0x16A6F),
  (0x16AF5, 0x16AF5), (0x16B37, 0x16B38), (0x16B44, 0x16B44),
  (0x16D6E, 0x16D6F), (0x16E98, 0x16E98), (0x1BC9F, 0x1BC9F),
  (0x1DA88, 0x1DA88)]

/-- The values of the property soft dotted. -/
def softDottedRanges : Ranges := [
  (0x69, 0x6A), (0x12F, 0x12F), (0x249, 0x249), (0x268, 0x268), (0x29D, 0x29D),
  (0x2B2, 0x2B2), (0x3F3, 0x3F3), (0x456, 0x456), (0x458, 0x458),
  (0x1D62, 0x1D62), (0x1D96, 0x1D96), (0x1DA4, 0x1DA4), (0x1DA8, 0x1DA8),
  (0x1E2D, 0x1E2D), (0x1ECB, 0x1ECB), (0x2071, 0x2071), (0x2148, 0x2149),
  (0x2C7C, 0x2C7C), (0x1D422, 0x1D423), (0x1D456, 0x1D457), (0x1D48A, 0x1D48B),
  (0x1D4BE, 0x1D4BF), (0x1D4F2, 0x1D4F3), (0x1D526, 0x1D527),
  (0x1D55A, 0x1D55B), (0x1D58E, 0x1D58F), (0x1D5C2, 0x1D5C3),
  (0x1D5F6, 0x1D5F7), (0x1D62A, 0x1D62B), (0x1D65E, 0x1D65F),
  (0x1D692, 0x1D693), (0x1DF1A, 0x1DF1A), (0x1E04C, 0x1E04D),
  (0x1E068, 0x1E068)]

/-- The values of the property terminal punctuation. -/
def terminalPunctuationRanges : Ranges := [
  (0x21, 0x21), (0x2C, 0x2C), (0x2E, 0x2E), (0x3A, 0x3B), (0x3F, 0x3F),
  (0x37E, 0x37E), (0x387, 0x387), (0x589, 0x589), (0x5C3, 0x5C3),
  (0x60C, 0x60C), (0x61B, 0x61B), (0x61D, 0x61F), (0x6D4, 0x6D4),
  (0x700, 0x70A), (0x70C, 0x70C), (0x7F8, 0x7F9), (0x830, 0x835),
  (0x837, 0x83E), (0x85E, 0x85E), (0x964, 0x965), (0xE5A, 0xE5B),
  (0xF08, 0xF08), (0xF0D, 0xF12), (0x104A, 0x104B), (0x1361, 0x1368),
  (0x166E, 0x166E), (0x16EB, 0x16ED), (0x1735, 0x1736), (0x17D4, 0x17D6),
  (0x17DA, 0x17DA), (0x1802, 0x1805), (0x1808, 0x1809), (0x1944, 0x1945),
  (0x1AA8, 0x1AAB), (0x1B4E, 0x1B4F), (0x1B5A, 0x1B5B), (0x1B5D, 0x1B5F),
  (0x1B7D, 0x1B7F), (0x1C3B, 0x1C3F), (0x1C7E, 0x1C7F), (0x2024, 0x2024),
  (0x203C, 0x203D), (0x2047, 0x2049), (0x2CF9, 0x2CFB), (0x2E2E, 0x2E2E),
  (0x2E3C, 0x2E3C), (0x2E41, 0x2E41), (0x2E4C, 0x2E4C), (0x2E4E, 0x2E4F),
  (0x2E53, 0x2E54), (0x3001, 0x3002), (0xA4FE, 0xA4FF), (0xA60D, 0xA60F),
  (0xA6F3, 0xA6F7), (0xA876, 0xA877), (0xA8CE, 0xA8CF), (0xA92F, 0xA92F),
  (0xA9C7, 0xA9C9), (0xAA5D, 0xAA5F), (0xAADF, 0xAADF), (0xAAF0, 0xAAF1),
  (0xABEB, 0xABEB), (0xFE12, 0xFE12), (0xFE15, 0xFE16), (0xFE50, 0xFE52),
  (0xFE54, 0xFE57), (0xFF01, 0xFF01), (0xFF0C, 0xFF0C), (0xFF0E, 0xFF0E),
  (0xFF1A, 0xFF1B), (0xFF1F, 0xFF1F), (0xFF61, 0xFF61), (0xFF64, 0xFF64),
  (0x1039F, 0x1039F), (0x103D0, 0x103D0), (0x10857, 0x10857),
  (0x1091F, 0x1091F), (0x10A56, 0x10A57), (0x10AF0, 0x10AF5),
  (0x10B3A, 0x10B3F), (0x10B99, 0x10B9C), (0x10F55, 0x10F59),
  (0x10F86, 0x10F89), (0x11047, 0x1104D), (0x110BE, 0x110C1),
  (0x11141, 0x11143), (0x111C5, 0x111C6), (0x111CD, 0x111CD),
  (0x111DE, 0x111DF), (0x11238, 0x1123C), (0x112A9, 0x112A9),
  (0x113D4, 0x113D5), (0x1144B, 0x1144D), (0x1145A, 0x1145B),
  (0x115C2, 0x115C5), (0x115C9, 0x115D7), (0x11641, 0x11642),
  (0x1173C, 0x1173E), (0x11944, 0x11944), (0x11946, 0x11946),
  (0x11A42, 0x11A43), (0x11A9B, 0x11A9C), (0x11AA1, 0x11AA2),
  (0x11C41, 0x11C43), (0x11C71, 0x11C71), (0x11EF7, 0x11EF8),
  (0x11F43, 0x11F44), (0x12470, 0x12474), (0x16A6E, 0x16A6F),
  (0x16AF5, 0x16AF5), (0x16B37, 0x16B39), (0x16B44, 0x16B44),
  (0x16D6E, 0x16D6F), (0x16E97, 0x16E98), (0x1BC9F, 0x1BC9F),
  (0x1DA87, 0x1DA8A)]

/-- The values of the property unified ideograph. -/
def unifiedIdeographRanges : Ranges := [
  (0x3400, 0x4DBF), (0x4E00, 0x9FFF), (0xFA0E, 0xFA0F), (0xFA11, 0xFA11),
  (0xFA13, 0xFA14), (0xFA1F, 0xFA1F), (0xFA21, 0xFA21), (0xFA23, 0xFA24),
  (0xFA27, 0xFA29), (0x20000, 0x2A6DF), (0x2A700, 0x2B739), (0x2B740, 0x2B81D),
  (0x2B820, 0x2CEA1), (0x2CEB0, 0x2EBE0), (0x2EBF0, 0x2EE5D),
  (0x30000, 0x3134A), (0x31350, 0x323AF)]

/-- The values of the property variation selector. -/
def variationSelectorRanges : Ranges := [
  (0x180B, 0x180D), (0x180F, 0x180F), (0xFE00, 0xFE0F), (0xE0100, 0xE01EF)]

/-- The values of the property white space. -/
def whiteSpaceRanges : Ranges := [
  (0x9, 0xD), (0x20, 0x20), (0x85, 0x85), (0xA0, 0xA0), (0x1680, 0x1680),
  (0x2000, 0x200A), (0x2028, 0x2029), (0x202F, 0x202F), (0x205F, 0x205F),
  (0x3000, 0x3000)]

/-- The alphabetic values that are neither letters nor letter numbers. -/
def otherAlphabeticRanges : Ranges := [
  (0x345, 0x345), (0x363, 0x36F), (0x5B0, 0x5BD), (0x5BF, 0x5BF),
  (0x5C1, 0x5C2), (0x5C4, 0x5C5), (0x5C7, 0x5C7), (0x610, 0x61A),
  (0x64B, 0x657), (0x659, 0x65F), (0x670, 0x670), (0x6D6, 0x6DC),
  (0x6E1, 0x6E4), (0x6E7, 0x6E8), (0x6ED, 0x6ED), (0x711, 0x711),
  (0x730, 0x73F), (0x7A6, 0x7B0), (0x816, 0x817), (0x81B, 0x823),
  (0x825, 0x827), (0x829, 0x82C), (0x897, 0x897), (0x8D4, 0x8DF),
  (0x8E3, 0x8E9), (0x8F0, 0x903), (0x93A, 0x93B), (0x93E, 0x94C),
  (0x94E, 0x94F), (0x955, 0x957), (0x962, 0x963), (0x981, 0x983),
  (0x9BE, 0x9C4), (0x9C7, 0x9C8), (0x9CB, 0x9CC), (0x9D7, 0x9D7),
  (0x9E2, 0x9E3), (0xA01, 0xA03), (0xA3E, 0xA42), (0xA47, 0xA48),
  (0xA4B, 0xA4C), (0xA51, 0xA51), (0xA70, 0xA71), (0xA75, 0xA75),
  (0xA81, 0xA83), (0xABE, 0xAC5), (0xAC7, 0xAC9), (0xACB, 0xACC),
  (0xAE2, 0xAE3), (0xAFA, 0xAFC), (0xB01, 0xB03), (0xB3E, 0xB44),
  (0xB47, 0xB48), (0xB4B, 0xB4C), (0xB56, 0xB57), (0xB62, 0xB63),
  (0xB82, 0xB82), (0xBBE, 0xBC2), (0xBC6, 0xBC8), (0xBCA, 0xBCC),
  (0xBD7, 0xBD7), (0xC00, 0xC04), (0xC3E, 0xC44), (0xC46, 0xC48),
  (0xC4A, 0xC4C), (0xC55, 0xC56), (0xC62, 0xC63), (0xC81, 0xC83),
  (0xCBE, 0xCC4), (0xCC6, 0xCC8), (0xCCA, 0xCCC), (0xCD5, 0xCD6),
  (0xCE2, 0xCE3), (0xCF3, 0xCF3), (0xD00, 0xD03), (0xD3E, 0xD44),
  (0xD46, 0xD48), (0xD4A, 0xD4C), (0xD57, 0xD57), (0xD62, 0xD63),
  (0xD81, 0xD83), (0xDCF, 0xDD4), (0xDD6, 0xDD6), (0xDD8, 0xDDF),
  (0xDF2, 0xDF3), (0xE31, 0xE31), (0xE34, 0xE3A), (0xE4D, 0xE4D),
  (0xEB1, 0xEB1), (0xEB4, 0xEB9), (0xEBB, 0xEBC), (0xECD, 0xECD),
  (0xF71, 0xF83), (0xF8D, 0xF97), (0xF99, 0xFBC), (0x102B, 0x1036),
  (0x1038, 0x1038), (0x103B, 0x103E), (0x1056, 0x1059), (0x105E, 0x1060),
  (0x1062, 0x1064), (0x1067, 0x106D), (0x1071, 0x1074), (0x1082, 0x108D),
  (0x108F, 0x108F), (0x109A, 0x109D), (0x1712, 0x1713), (0x1732, 0x1733),
  (0x1752, 0x1753), (0x1772, 0x1773), (0x17B6, 0x17C8), (0x1885, 0x1886),
  (0x18A9, 0x18A9), (0x1920, 0x192B), (0x1930, 0x1938), (0x1A17, 0x1A1B),
  (0x1A55, 0x1A5E), (0x1A61, 0x1A74), (0x1ABF, 0x1AC0), (0x1ACC, 0x1ACE),
  (0x1B00, 0x1B04), (0x1B35, 0x1B43), (0x1B80, 0x1B82), (0x1BA1, 0x1BA9),
  (0x1BAC, 0x1BAD), (0x1BE7, 0x1BF1), (0x1C24, 0x1C36), (0x1DD3, 0x1DF4),
  (0x24B6, 0x24E9), (0x2DE0, 0x2DFF), (0xA674, 0xA67B), (0xA69E, 0xA69F),
  (0xA802, 0xA802), (0xA80B, 0xA80B), (0xA823, 0xA827), (0xA880, 0xA881),
  (0xA8B4, 0xA8C3), (0xA8C5, 0xA8C5), (0xA8FF, 0xA8FF), (0xA926, 0xA92A),
  (0xA947, 0xA952), (0xA980, 0xA983), (0xA9B4, 0xA9BF), (0xA9E5, 0xA9E5),
  (0xAA29, 0xAA36), (0xAA43, 0xAA43), (0xAA4C, 0xAA4D), (0xAA7B, 0xAA7D),
  (0xAAB0, 0xAAB0), (0xAAB2, 0xAAB4), (0xAAB7, 0xAAB8), (0xAABE, 0xAABE),
  (0xAAEB, 0xAAEF), (0xAAF5, 0xAAF5), (0xABE3, 0xABEA), (0xFB1E, 0xFB1E),
  (0x10376, 0x1037A), (0x10A01, 0x10A03), (0x10A05, 0x10A06),
  (0x10A0C, 0x10A0F), (0x10D24, 0x10D27), (0x10D69, 0x10D69),
  (0x10EAB, 0x10EAC), (0x10EFC, 0x10EFC), (0x11000, 0x11002),
  (0x11038, 0x11045), (0x11073, 0x11074), (0x11080, 0x11082),
  (0x110B0, 0x110B8), (0x110C2, 0x110C2), (0x11100, 0x11102),
  (0x11127, 0x11132), (0x11145, 0x11146), (0x11180, 0x11182),
  (0x111B3, 0x111BF), (0x111CE, 0x111CF), (0x1122C, 0x11234),
  (0x11237, 0x11237), (0x1123E, 0x1123E), (0x11241, 0x11241),
  (0x112DF, 0x112E8), (0x11300, 0x11303), (0x1133E, 0x11344),
  (0x11347, 0x11348), (0x1134B, 0x1134C), (0x11357, 0x11357),
  (0x11362, 0x11363), (0x113B8, 0x113C0), (0x113C2, 0x113C2),
  (0x113C5, 0x113C5), (0x113C7, 0x113CA), (0x113CC, 0x113CD),
  (0x11435, 0x11441), (0x11443, 0x11445), (0x114B0, 0x114C1),
  (0x115AF, 0x115B5), (0x115B8, 0x115BE), (0x115DC, 0x115DD),
  (0x11630, 0x1163E), (0x11640, 0x11640), (0x116AB, 0x116B5),
  (0x1171D, 0x1172A), (0x1182C, 0x11838), (0x11930, 0x11935),
  (0x11937, 0x11938), (0x1193B, 0x1193C), (0x11940, 0x11940),
  (0x11942, 0x11942), (0x119D1, 0x119D7), (0x119DA, 0x119DF),
  (0x119E4, 0x119E4), (0x11A01, 0x11A0A), (0x11A35, 0x11A39),
  (0x11A3B, 0x11A3E), (0x11A51, 0x11A5B), (0x11A8A, 0x11A97),
  (0x11C2F, 0x11C36), (0x11C38, 0x11C3E), (0x11C92, 0x11CA7),
  (0x11CA9, 0x11CB6), (0x11D31, 0x11D36), (0x11D3A, 0x11D3A),
  (0x11D3C, 0x11D3D), (0x11D3F, 0x11D41), (0x11D43, 0x11D43),
  (0x11D47, 0x11D47), (0x11D8A, 0x11D8E), (0x11D90, 0x11D91),
  (0x11D93, 0x11D96), (0x11EF3, 0x11EF6), (0x11F00, 0x11F01),
  (0x11F03, 0x11F03), (0x11F34, 0x11F3A), (0x11F3E, 0x11F40),
  (0x1611E, 0x1612E), (0x16F4F, 0x16F4F), (0x16F51, 0x16F87),
  (0x16F8F, 0x16F92), (0x16FF0, 0x16FF1), (0x1BC9E, 0x1BC9E),
  (0x1E000, 0x1E006), (0x1E008, 0x1E018), (0x1E01B, 0x1E021),
  (0x1E023, 0x1E024), (0x1E026, 0x1E02A), (0x1E08F, 0x1E08F),
  (0x1E947, 0x1E947), (0x1F130, 0x1F149), (0x1F150, 0x1F169),
  (0x1F170, 0x1F189)]

/-- The lowercase values that are not lowercase letters. -/
def otherLowercaseRanges : Ranges := [
  (0xAA, 0xAA), (0xBA, 0xBA), (0x2B0, 0x2B8), (0x2C0, 0x2C1), (0x2E0, 0x2E4),
  (0x345, 0x345), (0x37A, 0x37A), (0x10FC, 0x10FC), (0x1D2C, 0x1D6A),
  (0x1D78, 0x1D78), (0x1D9B, 0x1DBF), (0x2071, 0x2071), (0x207F, 0x207F),
  (0x2090, 0x209C), (0x2170, 0x217F), (0x24D0, 0x24E9), (0x2C7C, 0x2C7D),
  (0xA69C, 0xA69D), (0xA770, 0xA770), (0xA7F2, 0xA7F4), (0xA7F8, 0xA7F9),
  (0xAB5C, 0xAB5F), (0xAB69, 0xAB69), (0x10780, 0x10780), (0x10783, 0x10785),
  (0x10787, 0x107B0), (0x107B2, 0x107BA), (0x1E030, 0x1E06D)]

/-- The uppercase values that are not uppercase letters. -/
def otherUppercaseRanges : Ranges := [
  (0x2160, 0x216F), (0x24B6, 0x24CF), (0x1F130, 0x1F149), (0x1F150, 0x1F169),
  (0x1F170, 0x1F189)]

/-- The grapheme-extending values that are neither nonspacing nor enclosing
marks. -/
def otherGraphemeExtendRanges : Ranges := [
  (0x9BE, 0x9BE), (0x9D7, 0x9D7), (0xB3E, 0xB3E), (0xB57, 0xB57),
  (0xBBE, 0xBBE), (0xBD7, 0xBD7), (0xCC0, 0xCC0), (0xCC2, 0xCC2),
  (0xCC7, 0xCC8), (0xCCA, 0xCCB), (0xCD5, 0xCD6), (0xD3E, 0xD3E),
  (0xD57, 0xD57), (0xDCF, 0xDCF), (0xDDF, 0xDDF), (0x1715, 0x1715),
  (0x1734, 0x1734), (0x1B35, 0x1B35), (0x1B3B, 0x1B3B), (0x1B3D, 0x1B3D),
  (0x1B43, 0x1B44), (0x1BAA, 0x1BAA), (0x1BF2, 0x1BF3), (0x200C, 0x200C),
  (0x302E, 0x302F), (0xA953, 0xA953), (0xA9C0, 0xA9C0), (0xFF9E, 0xFF9F),
  (0x111C0, 0x111C0), (0x11235, 0x11235), (0x1133E, 0x1133E),
  (0x1134D, 0x1134D), (0x11357, 0x11357), (0x113B8, 0x113B8),
  (0x113C2, 0x113C2), (0x113C5, 0x113C5), (0x113C7, 0x113C9),
  (0x113CF, 0x113CF), (0x114B0, 0x114B0), (0x114BD, 0x114BD),
  (0x115AF, 0x115AF), (0x116B6, 0x116B6), (0x11930, 0x11930),
  (0x1193D, 0x1193D), (0x11F41, 0x11F41), (0x16FF0, 0x16FF1),
  (0x1D165, 0x1D166), (0x1D16D, 0x1D172), (0xE0020, 0xE007F)]

/-- The case-ignorable values that no category gives: punctuation found inside
words. -/
def otherCaseIgnorableRanges : Ranges := [
  (0x27, 0x27), (0x2E, 0x2E), (0x3A, 0x3A), (0xB7, 0xB7), (0x387, 0x387),
  (0x55F, 0x55F), (0x5F4, 0x5F4), (0x2018, 0x2019), (0x2024, 0x2024),
  (0x2027, 0x2027), (0xFE13, 0xFE13), (0xFE52, 0xFE52), (0xFE55, 0xFE55),
  (0xFF07, 0xFF07), (0xFF0E, 0xFF0E), (0xFF1A, 0xFF1A)]

/-- The identifier starts that are neither letters nor letter numbers. -/
def otherIdStartRanges : Ranges := [
  (0x1885, 0x1886), (0x2118, 0x2118), (0x212E, 0x212E), (0x309B, 0x309C)]

/-- The identifier continuations that no category gives. -/
def otherIdContinueRanges : Ranges := [
  (0xB7, 0xB7), (0x387, 0x387), (0x1369, 0x1371), (0x19DA, 0x19DA),
  (0x200C, 0x200D), (0x30FB, 0x30FB), (0xFF65, 0xFF65)]

/-- The identifier starts whose compatibility form does not start one. -/
def unstableStartRanges : Ranges := [
  (0x37A, 0x37A), (0xE33, 0xE33), (0xEB3, 0xEB3), (0x309B, 0x309C),
  (0xFC5E, 0xFC63), (0xFDFA, 0xFDFB), (0xFE70, 0xFE70), (0xFE72, 0xFE72),
  (0xFE74, 0xFE74), (0xFE76, 0xFE76), (0xFE78, 0xFE78), (0xFE7A, 0xFE7A),
  (0xFE7C, 0xFE7C), (0xFE7E, 0xFE7E), (0xFF9E, 0xFF9F)]

/-- The identifier continuations whose compatibility form does not continue
one. -/
def unstableContinueRanges : Ranges := [
  (0x37A, 0x37A), (0x309B, 0x309C), (0xFC5E, 0xFC63), (0xFDFA, 0xFDFB),
  (0xFE70, 0xFE70), (0xFE72, 0xFE72), (0xFE74, 0xFE74), (0xFE76, 0xFE76),
  (0xFE78, 0xFE78), (0xFE7A, 0xFE7A), (0xFE7C, 0xFE7C), (0xFE7E, 0xFE7E)]

/-! ## Membership -/

/-- The categories of letters. -/
def letterCategories : List Category :=
  [.uppercaseLetter, .lowercaseLetter, .titlecaseLetter, .modifierLetter,
    .otherLetter]

/-- Letters of the lower case. -/
def lowercaseValues : Values :=
  .union (.categorized [.lowercaseLetter]) (.listed otherLowercaseRanges)

/-- Letters of the upper case. -/
def uppercaseValues : Values :=
  .union (.categorized [.uppercaseLetter]) (.listed otherUppercaseRanges)

/-- Values that extend the user-perceived character before them. -/
def graphemeExtendValues : Values :=
  .union (.categorized [.nonspacingMark, .enclosingMark])
    (.listed otherGraphemeExtendRanges)

/-- Values that may start an identifier. -/
def idStartValues : Values :=
  .difference
    (.union (.categorized (.letterNumber :: letterCategories))
      (.listed otherIdStartRanges))
    (.listed patternSyntaxRanges)

/-- Values that may continue an identifier. -/
def idContinueValues : Values :=
  .union idStartValues
    (.union
      (.categorized
        [.nonspacingMark, .spacingMark, .decimalNumber, .connectorPunctuation])
      (.listed otherIdContinueRanges))

/-- The values of a property. -/
def values : Property → Values
  -- Letters, letter numbers and the marks and symbols used like them.
  | .alphabetic =>
    .union (.categorized (.letterNumber :: letterCategories))
      (.listed otherAlphabeticRanges)
  | .lowercase => lowercaseValues
  | .uppercase => uppercaseValues
  -- Values that take part in the case of a word.
  | .cased =>
    .union lowercaseValues
      (.union uppercaseValues (.categorized [.titlecaseLetter]))
  -- Values that the case of a word looks through.
  | .caseIgnorable =>
    .union
      (.categorized
        [.nonspacingMark, .enclosingMark, .format, .modifierLetter,
          .modifierSymbol])
      (.listed otherCaseIgnorableRanges)
  | .graphemeExtend => graphemeExtendValues
  -- Assigned values that stand for a character of their own.
  | .graphemeBase =>
    .complement
      (.union
        (.categorized
          [.control, .format, .surrogate, .privateUse, .unassigned,
            .lineSeparator, .paragraphSeparator])
        graphemeExtendValues)
  | .idStart => idStartValues
  | .idContinue => idContinueValues
  | .xidStart => .difference idStartValues (.listed unstableStartRanges)
  | .xidContinue =>
    .difference idContinueValues (.listed unstableContinueRanges)
  | .asciiHexDigit => .listed asciiHexDigitRanges
  | .bidiControl => .listed bidiControlRanges
  | .bidiMirrored => .listed bidiMirroredRanges
  | .dash => .listed dashRanges
  | .defaultIgnorable => .listed defaultIgnorableRanges
  | .deprecated => .listed deprecatedRanges
  | .diacritic => .listed diacriticRanges
  | .emoji => .listed emojiRanges
  | .emojiComponent => .listed emojiComponentRanges
  | .emojiModifier => .listed emojiModifierRanges
  | .emojiModifierBase => .listed emojiModifierBaseRanges
  | .emojiPresentation => .listed emojiPresentationRanges
  | .extendedPictographic => .listed extendedPictographicRanges
  | .extender => .listed extenderRanges
  | .hexDigit => .listed hexDigitRanges
  | .idsBinaryOperator => .listed idsBinaryOperatorRanges
  | .idsTrinaryOperator => .listed idsTrinaryOperatorRanges
  | .ideographic => .listed ideographicRanges
  | .joinControl => .listed joinControlRanges
  | .logicalOrderException => .listed logicalOrderExceptionRanges
  | .math => .listed mathRanges
  | .noncharacter => .listed noncharacterRanges
  | .patternSyntax => .listed patternSyntaxRanges
  | .patternWhiteSpace => .listed patternWhiteSpaceRanges
  | .quotationMark => .listed quotationMarkRanges
  | .radical => .listed radicalRanges
  | .regionalIndicator => .listed regionalIndicatorRanges
  | .sentenceTerminal => .listed sentenceTerminalRanges
  | .softDotted => .listed softDottedRanges
  | .terminalPunctuation => .listed terminalPunctuationRanges
  | .unifiedIdeograph => .listed unifiedIdeographRanges
  | .variationSelector => .listed variationSelectorRanges
  | .whiteSpace => .listed whiteSpaceRanges

/-- Membership of a scalar value in a property. -/
def contains (property : Property) (value : Nat) : Bool :=
  property.values.contains value

end Property

end OrderedChoice.Unicode
