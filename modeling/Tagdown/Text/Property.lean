/-
  Tagdown.Text.Property

  The properties of Unicode that a character has or has not. Some are tables, the
  others follow from general categories, case folding and tables.
-/

import Tagdown.Text.CaseFold
import Tagdown.Text.Category

namespace Tagdown

/-- A property that a character has or has not. -/
inductive Property where
  | alphabetic
  | asciiHexDigit
  | bidiControl
  | caseIgnorable
  | cased
  | changesWhenCasefolded
  | changesWhenCasemapped
  | changesWhenLowercased
  | changesWhenTitlecased
  | changesWhenUppercased
  | compatibilityMathContinue
  | compatibilityMathStart
  | dash
  | defaultIgnorable
  | deprecated
  | diacritic
  | emoji
  | emojiComponent
  | emojiModifier
  | emojiModifierBase
  | emojiPresentation
  | extendedPictographic
  | extender
  | graphemeBase
  | graphemeExtend
  | graphemeLink
  | hexDigit
  | hyphen
  | idContinue
  | idStart
  | ideographic
  | idsBinaryOperator
  | idsTrinaryOperator
  | idsUnaryOperator
  | joinControl
  | logicalOrderException
  | lowercase
  | math
  | modifierCombiningMark
  | noncharacter
  | otherAlphabetic
  | otherContinue
  | otherGraphemeExtend
  | otherIgnorable
  | otherLowercase
  | otherMath
  | otherStart
  | otherUppercase
  | patternBlank
  | patternSyntax
  | prependedMark
  | quotationMark
  | radical
  | regionalIndicator
  | sentenceTerminal
  | softDotted
  | terminalPunctuation
  | unifiedIdeograph
  | uppercase
  | variationSelector
  | whiteSpace
  | xidContinue
  | xidStart
  deriving DecidableEq, Repr

namespace Property

/-! ## Tables -/

/-- The characters that are listed for a property. For a property about case
    these are the ones that do not follow from the folding of characters. -/
def table : Property → String
  | .asciiHexDigit => "0030-0039 0041-0046 0061-0066"
  | .bidiControl => "061C 200E-200F 202A-202E 2066-2069"
  | .caseIgnorable =>
    "0027 002E 003A 00B7 0387 055F 05F4 2018-2019 2024 2027 FE13 FE52 FE55 FF07 FF0E FF1A"
  | .changesWhenCasefolded =>
    "00DF 0130 0149 0587 1E9A 1F80-1F87 1F90-1F97 1FA0-1FA7 1FB2-1FB4 1FB7 1FC2-1FC4 1FC7 1FF2-1FF4
     1FF7 FB00-FB04 FB06 FB13-FB17"
  | .changesWhenLowercased => "0130 13A0-13F5"
  | .changesWhenTitlecased =>
    "00B5 0131 0149 017F 01C4 01C7 01CA 01F0-01F1 0345 03C2 03D0-03D1 03D5-03D6 03F0-03F1 03F5 0587
     13F8-13FD 1C80-1C88 1E96-1E9B 1F50 1F52 1F54 1F56 1FB2 1FB4 1FB6-1FB7 1FBE 1FC2 1FC4 1FC6-1FC7
     1FD2-1FD3 1FD6-1FD7 1FE2-1FE4 1FE6-1FE7 1FF2 1FF4 1FF6-1FF7 AB70-ABBF FB00-FB05 FB13-FB17"
  | .changesWhenUppercased =>
    "00B5 0131 0149 017F 01C5 01C8 01CB 01F0 01F2 0345 03C2 03D0-03D1 03D5-03D6 03F0-03F1 03F5 0587
     13F8-13FD 1C80-1C88 1E96-1E9B 1F50 1F52 1F54 1F56 1F88-1F8F 1F98-1F9F 1FA8-1FAF 1FB2 1FB4
     1FB6-1FB7 1FBC 1FBE 1FC2 1FC4 1FC6-1FC7 1FCC 1FD2-1FD3 1FD6-1FD7 1FE2-1FE4 1FE6-1FE7 1FF2 1FF4
     1FF6-1FF7 1FFC AB70-ABBF FB00-FB05 FB13-FB17"
  | .compatibilityMathContinue =>
    "00B2-00B3 00B9 2070 2074-207E 2080-208E 2202 2207 221E 1D6C1 1D6DB 1D6FB 1D715 1D735 1D74F
     1D76F 1D789 1D7A9 1D7C3"
  | .compatibilityMathStart =>
    "2202 2207 221E 1D6C1 1D6DB 1D6FB 1D715 1D735 1D74F 1D76F 1D789 1D7A9 1D7C3"
  | .dash =>
    "002D 058A 05BE 1400 1806 2010-2015 2053 207B 208B 2212 2E17 2E1A 2E3A-2E3B 2E40 2E5D 301C 3030
     30A0 FE31-FE32 FE58 FE63 FF0D 10D6E 10EAD"
  | .deprecated => "0149 0673 0F77 0F79 17A3-17A4 206A-206F 2329-232A E0001"
  | .diacritic =>
    "005E 0060 00A8 00AF 00B4 00B7-00B8 02B0-034E 0350-0357 035D-0362 0374-0375 037A 0384-0385
     0483-0487 0559 0591-05BD 05BF 05C1-05C2 05C4-05C5 05C7 064B-0652 0657-0658 06DF-06E0 06E5-06E6
     06EA-06EC 0730-074A 07A6-07B0 07EB-07F5 0818-0819 0898-089F 08C9-08D2 08E3-08FE 093C 094D
     0951-0954 0971 09BC 09CD 0A3C 0A4D 0ABC 0ACD 0AFD-0AFF 0B3C 0B4D 0B55 0BCD 0C3C 0C4D 0CBC 0CCD
     0D3B-0D3C 0D4D 0DCA 0E3A 0E47-0E4C 0E4E 0EBA 0EC8-0ECC 0F18-0F19 0F35 0F37 0F39 0F3E-0F3F
     0F82-0F84 0F86-0F87 0FC6 1037 1039-103A 1063-1064 1069-106D 1087-108D 108F 109A-109B 135D-135F
     1714-1715 1734 17C9-17D3 17DD 1939-193B 1A60 1A75-1A7C 1A7F 1AB0-1ABE 1AC1-1ACB 1B34 1B44
     1B6B-1B73 1BAA-1BAB 1BE6 1BF2-1BF3 1C36-1C37 1C78-1C7D 1CD0-1CE8 1CED 1CF4 1CF7-1CF9 1D2C-1D6A
     1D9B-1DBE 1DC4-1DCF 1DF5-1DFF 1FBD 1FBF-1FC1 1FCD-1FCF 1FDD-1FDF 1FED-1FEF 1FFD-1FFE 2CEF-2CF1
     2E2F 302A-302F 3099-309C 30FC A66F A67C-A67D A67F A69C-A69D A6F0-A6F1 A700-A721 A788-A78A
     A7F8-A7F9 A806 A82C A8C4 A8E0-A8F1 A92B-A92E A953 A9B3 A9C0 A9E5 AA7B-AA7D AABF-AAC2 AAF6
     AB5B-AB5F AB69-AB6B ABEC-ABED FB1E FE20-FE2F FF3E FF40 FF70 FF9E-FF9F FFE3 102E0 10780-10785
     10787-107B0 107B2-107BA 10A38-10A3A 10A3F 10AE5-10AE6 10D22-10D27 10D4E 10D69-10D6D
     10EFD-10EFF 10F46-10F50 10F82-10F85 11046 11070 110B9-110BA 11133-11134 11173 111C0
     111CA-111CC 11235-11236 112E9-112EA 1133B-1133C 1134D 11366-1136C 11370-11374 113CE-113D0
     113D2-113D3 113E1-113E2 11442 11446 114C2-114C3 115BF-115C0 1163F 116B6-116B7 1172B
     11839-1183A 1193D-1193E 11943 119E0 11A34 11A47 11A99 11C3F 11D42 11D44-11D45 11D97
     11F41-11F42 11F5A 13447-13455 1612F 16AF0-16AF4 16B30-16B36 16D6B-16D6C 16F8F-16F9F
     16FF0-16FF1 1AFF0-1AFF3 1AFF5-1AFFB 1AFFD-1AFFE 1CF00-1CF2D 1CF30-1CF46 1D167-1D169
     1D16D-1D172 1D17B-1D182 1D185-1D18B 1D1AA-1D1AD 1E030-1E06D 1E130-1E136 1E2AE 1E2EC-1E2EF
     1E5EE-1E5EF 1E8D0-1E8D6 1E944-1E946 1E948-1E94A"
  | .emoji =>
    "0023 002A 0030-0039 00A9 00AE 203C 2049 2122 2139 2194-2199 21A9-21AA 231A-231B 2328 23CF
     23E9-23F3 23F8-23FA 24C2 25AA-25AB 25B6 25C0 25FB-25FE 2600-2604 260E 2611 2614-2615 2618 261D
     2620 2622-2623 2626 262A 262E-262F 2638-263A 2640 2642 2648-2653 265F-2660 2663 2665-2666 2668
     267B 267E-267F 2692-2697 2699 269B-269C 26A0-26A1 26A7 26AA-26AB 26B0-26B1 26BD-26BE 26C4-26C5
     26C8 26CE-26CF 26D1 26D3-26D4 26E9-26EA 26F0-26F5 26F7-26FA 26FD 2702 2705 2708-270D 270F 2712
     2714 2716 271D 2721 2728 2733-2734 2744 2747 274C 274E 2753-2755 2757 2763-2764 2795-2797 27A1
     27B0 27BF 2934-2935 2B05-2B07 2B1B-2B1C 2B50 2B55 3030 303D 3297 3299 1F004 1F0CF 1F170-1F171
     1F17E-1F17F 1F18E 1F191-1F19A 1F1E6-1F1FF 1F201-1F202 1F21A 1F22F 1F232-1F23A 1F250-1F251
     1F300-1F321 1F324-1F393 1F396-1F397 1F399-1F39B 1F39E-1F3F0 1F3F3-1F3F5 1F3F7-1F4FD
     1F4FF-1F53D 1F549-1F54E 1F550-1F567 1F56F-1F570 1F573-1F57A 1F587 1F58A-1F58D 1F590
     1F595-1F596 1F5A4-1F5A5 1F5A8 1F5B1-1F5B2 1F5BC 1F5C2-1F5C4 1F5D1-1F5D3 1F5DC-1F5DE 1F5E1
     1F5E3 1F5E8 1F5EF 1F5F3 1F5FA-1F64F 1F680-1F6C5 1F6CB-1F6D2 1F6D5-1F6D7 1F6DC-1F6E5 1F6E9
     1F6EB-1F6EC 1F6F0 1F6F3-1F6FC 1F7E0-1F7EB 1F7F0 1F90C-1F93A 1F93C-1F945 1F947-1F9FF
     1FA70-1FA7C 1FA80-1FA89 1FA8F-1FAC6 1FACE-1FADC 1FADF-1FAE9 1FAF0-1FAF8"
  | .emojiComponent =>
    "0023 002A 0030-0039 200D 20E3 FE0F 1F1E6-1F1FF 1F3FB-1F3FF 1F9B0-1F9B3 E0020-E007F"
  | .emojiModifier => "1F3FB-1F3FF"
  | .emojiModifierBase =>
    "261D 26F9 270A-270D 1F385 1F3C2-1F3C4 1F3C7 1F3CA-1F3CC 1F442-1F443 1F446-1F450 1F466-1F478
     1F47C 1F481-1F483 1F485-1F487 1F48F 1F491 1F4AA 1F574-1F575 1F57A 1F590 1F595-1F596
     1F645-1F647 1F64B-1F64F 1F6A3 1F6B4-1F6B6 1F6C0 1F6CC 1F90C 1F90F 1F918-1F91F 1F926
     1F930-1F939 1F93C-1F93E 1F977 1F9B5-1F9B6 1F9B8-1F9B9 1F9BB 1F9CD-1F9CF 1F9D1-1F9DD
     1FAC3-1FAC5 1FAF0-1FAF8"
  | .emojiPresentation =>
    "231A-231B 23E9-23EC 23F0 23F3 25FD-25FE 2614-2615 2648-2653 267F 2693 26A1 26AA-26AB 26BD-26BE
     26C4-26C5 26CE 26D4 26EA 26F2-26F3 26F5 26FA 26FD 2705 270A-270B 2728 274C 274E 2753-2755 2757
     2795-2797 27B0 27BF 2B1B-2B1C 2B50 2B55 1F004 1F0CF 1F18E 1F191-1F19A 1F1E6-1F1FF 1F201 1F21A
     1F22F 1F232-1F236 1F238-1F23A 1F250-1F251 1F300-1F320 1F32D-1F335 1F337-1F37C 1F37E-1F393
     1F3A0-1F3CA 1F3CF-1F3D3 1F3E0-1F3F0 1F3F4 1F3F8-1F43E 1F440 1F442-1F4FC 1F4FF-1F53D
     1F54B-1F54E 1F550-1F567 1F57A 1F595-1F596 1F5A4 1F5FB-1F64F 1F680-1F6C5 1F6CC 1F6D0-1F6D2
     1F6D5-1F6D7 1F6DC-1F6DF 1F6EB-1F6EC 1F6F4-1F6FC 1F7E0-1F7EB 1F7F0 1F90C-1F93A 1F93C-1F945
     1F947-1F9FF 1FA70-1FA7C 1FA80-1FA89 1FA8F-1FAC6 1FACE-1FADC 1FADF-1FAE9 1FAF0-1FAF8"
  | .extendedPictographic =>
    "00A9 00AE 203C 2049 2122 2139 2194-2199 21A9-21AA 231A-231B 2328 23CF 23E9-23F3 23F8-23FA 24C2
     25AA-25AB 25B6 25C0 25FB-25FE 2600-2604 260E 2611 2614-2615 2618 261D 2620 2622-2623 2626 262A
     262E-262F 2638-263A 2640 2642 2648-2653 265F-2660 2663 2665-2666 2668 267B 267E-267F 2692-2697
     2699 269B-269C 26A0-26A1 26A7 26AA-26AB 26B0-26B1 26BD-26BE 26C4-26C5 26C8 26CE-26CF 26D1
     26D3-26D4 26E9-26EA 26F0-26F5 26F7-26FA 26FD 2702 2705 2708-270D 270F 2712 2714 2716 271D 2721
     2728 2733-2734 2744 2747 274C 274E 2753-2755 2757 2763-2764 2795-2797 27A1 27B0 27BF 2934-2935
     2B05-2B07 2B1B-2B1C 2B50 2B55 3030 303D 3297 3299 1F004 1F02C-1F02F 1F094-1F09F 1F0AF-1F0B0
     1F0C0 1F0CF-1F0D0 1F0F6-1F0FF 1F170-1F171 1F17E-1F17F 1F18E 1F191-1F19A 1F1AE-1F1E5
     1F201-1F20F 1F21A 1F22F 1F232-1F23A 1F23C-1F23F 1F249-1F25F 1F266-1F321 1F324-1F393
     1F396-1F397 1F399-1F39B 1F39E-1F3F0 1F3F3-1F3F5 1F3F7-1F3FA 1F400-1F4FD 1F4FF-1F53D
     1F549-1F54E 1F550-1F567 1F56F-1F570 1F573-1F57A 1F587 1F58A-1F58D 1F590 1F595-1F596
     1F5A4-1F5A5 1F5A8 1F5B1-1F5B2 1F5BC 1F5C2-1F5C4 1F5D1-1F5D3 1F5DC-1F5DE 1F5E1 1F5E3 1F5E8
     1F5EF 1F5F3 1F5FA-1F64F 1F680-1F6C5 1F6CB-1F6D2 1F6D5-1F6E5 1F6E9 1F6EB-1F6F0 1F6F3-1F6FF
     1F7DA-1F7FF 1F80C-1F80F 1F848-1F84F 1F85A-1F85F 1F888-1F88F 1F8AE-1F8AF 1F8BC-1F8BF
     1F8C2-1F8CF 1F8D9-1F8FF 1F90C-1F93A 1F93C-1F945 1F947-1F9FF 1FA58-1FA5F 1FA6E-1FAFF
     1FC00-1FFFD"
  | .extender =>
    "00B7 02D0-02D1 0640 07FA 0A71 0AFB 0B55 0E46 0EC6 180A 1843 1AA7 1C36 1C7B 3005 3031-3035
     309D-309E 30FC-30FE A015 A60C A9CF A9E6 AA70 AADD AAF3-AAF4 FF70 10781-10782 10D4E 10D6A 10D6F
     11237 1135D 113D2-113D3 115C6-115C8 11A98 16B42-16B43 16FE0-16FE1 16FE3 1E13C-1E13D 1E5EF
     1E944-1E946"
  | .graphemeLink =>
    "094D 09CD 0A4D 0ACD 0B4D 0BCD 0C4D 0CCD 0D3B-0D3C 0D4D 0DCA 0E3A 0EBA 0F84 1039-103A 1714-1715
     1734 17D2 1A60 1B44 1BAA-1BAB 1BF2-1BF3 2D7F A806 A82C A8C4 A953 A9C0 AAF6 ABED 10A3F 11046
     11070 1107F 110B9 11133-11134 111C0 11235 112EA 1134D 113CE-113D0 11442 114C2 115BF 1163F
     116B6 1172B 11839 1193D-1193E 119E0 11A34 11A47 11A99 11C3F 11D44-11D45 11D97 11F41-11F42
     1612F"
  | .hexDigit => "0030-0039 0041-0046 0061-0066 FF10-FF19 FF21-FF26 FF41-FF46"
  | .hyphen => "002D 00AD 058A 1806 2010-2011 2E17 30FB FE63 FF0D FF65"
  | .ideographic =>
    "3006-3007 3021-3029 3038-303A 3400-4DBF 4E00-9FFF F900-FA6D FA70-FAD9 16FE4 17000-187F7
     18800-18CD5 18CFF-18D08 1B170-1B2FB 20000-2A6DF 2A700-2B739 2B740-2B81D 2B820-2CEA1
     2CEB0-2EBE0 2EBF0-2EE5D 2F800-2FA1D 30000-3134A 31350-323AF"
  | .idsBinaryOperator => "2FF0-2FF1 2FF4-2FFD 31EF"
  | .idsTrinaryOperator => "2FF2-2FF3"
  | .idsUnaryOperator => "2FFE-2FFF"
  | .joinControl => "200C-200D"
  | .logicalOrderException => "0E40-0E44 0EC0-0EC4 19B5-19B7 19BA AAB5-AAB6 AAB9 AABB-AABC"
  | .modifierCombiningMark => "0654-0655 0658 06DC 06E3 06E7-06E8 08CA-08CB 08CD-08CF 08D3 08F3"
  | .noncharacter =>
    "FDD0-FDEF FFFE-FFFF 1FFFE-1FFFF 2FFFE-2FFFF 3FFFE-3FFFF 4FFFE-4FFFF 5FFFE-5FFFF 6FFFE-6FFFF
     7FFFE-7FFFF 8FFFE-8FFFF 9FFFE-9FFFF AFFFE-AFFFF BFFFE-BFFFF CFFFE-CFFFF DFFFE-DFFFF
     EFFFE-EFFFF FFFFE-FFFFF 10FFFE-10FFFF"
  | .otherAlphabetic =>
    "0345 0363-036F 05B0-05BD 05BF 05C1-05C2 05C4-05C5 05C7 0610-061A 064B-0657 0659-065F 0670
     06D6-06DC 06E1-06E4 06E7-06E8 06ED 0711 0730-073F 07A6-07B0 0816-0817 081B-0823 0825-0827
     0829-082C 0897 08D4-08DF 08E3-08E9 08F0-0903 093A-093B 093E-094C 094E-094F 0955-0957 0962-0963
     0981-0983 09BE-09C4 09C7-09C8 09CB-09CC 09D7 09E2-09E3 0A01-0A03 0A3E-0A42 0A47-0A48 0A4B-0A4C
     0A51 0A70-0A71 0A75 0A81-0A83 0ABE-0AC5 0AC7-0AC9 0ACB-0ACC 0AE2-0AE3 0AFA-0AFC 0B01-0B03
     0B3E-0B44 0B47-0B48 0B4B-0B4C 0B56-0B57 0B62-0B63 0B82 0BBE-0BC2 0BC6-0BC8 0BCA-0BCC 0BD7
     0C00-0C04 0C3E-0C44 0C46-0C48 0C4A-0C4C 0C55-0C56 0C62-0C63 0C81-0C83 0CBE-0CC4 0CC6-0CC8
     0CCA-0CCC 0CD5-0CD6 0CE2-0CE3 0CF3 0D00-0D03 0D3E-0D44 0D46-0D48 0D4A-0D4C 0D57 0D62-0D63
     0D81-0D83 0DCF-0DD4 0DD6 0DD8-0DDF 0DF2-0DF3 0E31 0E34-0E3A 0E4D 0EB1 0EB4-0EB9 0EBB-0EBC 0ECD
     0F71-0F83 0F8D-0F97 0F99-0FBC 102B-1036 1038 103B-103E 1056-1059 105E-1060 1062-1064 1067-106D
     1071-1074 1082-108D 108F 109A-109D 1712-1713 1732-1733 1752-1753 1772-1773 17B6-17C8 1885-1886
     18A9 1920-192B 1930-1938 1A17-1A1B 1A55-1A5E 1A61-1A74 1ABF-1AC0 1ACC-1ACE 1B00-1B04 1B35-1B43
     1B80-1B82 1BA1-1BA9 1BAC-1BAD 1BE7-1BF1 1C24-1C36 1DD3-1DF4 24B6-24E9 2DE0-2DFF A674-A67B
     A69E-A69F A802 A80B A823-A827 A880-A881 A8B4-A8C3 A8C5 A8FF A926-A92A A947-A952 A980-A983
     A9B4-A9BF A9E5 AA29-AA36 AA43 AA4C-AA4D AA7B-AA7D AAB0 AAB2-AAB4 AAB7-AAB8 AABE AAEB-AAEF AAF5
     ABE3-ABEA FB1E 10376-1037A 10A01-10A03 10A05-10A06 10A0C-10A0F 10D24-10D27 10D69 10EAB-10EAC
     10EFC 11000-11002 11038-11045 11073-11074 11080-11082 110B0-110B8 110C2 11100-11102
     11127-11132 11145-11146 11180-11182 111B3-111BF 111CE-111CF 1122C-11234 11237 1123E 11241
     112DF-112E8 11300-11303 1133E-11344 11347-11348 1134B-1134C 11357 11362-11363 113B8-113C0
     113C2 113C5 113C7-113CA 113CC-113CD 11435-11441 11443-11445 114B0-114C1 115AF-115B5
     115B8-115BE 115DC-115DD 11630-1163E 11640 116AB-116B5 1171D-1172A 1182C-11838 11930-11935
     11937-11938 1193B-1193C 11940 11942 119D1-119D7 119DA-119DF 119E4 11A01-11A0A 11A35-11A39
     11A3B-11A3E 11A51-11A5B 11A8A-11A97 11C2F-11C36 11C38-11C3E 11C92-11CA7 11CA9-11CB6
     11D31-11D36 11D3A 11D3C-11D3D 11D3F-11D41 11D43 11D47 11D8A-11D8E 11D90-11D91 11D93-11D96
     11EF3-11EF6 11F00-11F01 11F03 11F34-11F3A 11F3E-11F40 1611E-1612E 16F4F 16F51-16F87
     16F8F-16F92 16FF0-16FF1 1BC9E 1E000-1E006 1E008-1E018 1E01B-1E021 1E023-1E024 1E026-1E02A
     1E08F 1E947 1F130-1F149 1F150-1F169 1F170-1F189"
  | .otherContinue => "00B7 0387 1369-1371 19DA 200C-200D 30FB FF65"
  | .otherGraphemeExtend =>
    "09BE 09D7 0B3E 0B57 0BBE 0BD7 0CC0 0CC2 0CC7-0CC8 0CCA-0CCB 0CD5-0CD6 0D3E 0D57 0DCF 0DDF 1715
     1734 1B35 1B3B 1B3D 1B43-1B44 1BAA 1BF2-1BF3 200C 302E-302F A953 A9C0 FF9E-FF9F 111C0 11235
     1133E 1134D 11357 113B8 113C2 113C5 113C7-113C9 113CF 114B0 114BD 115AF 116B6 11930 1193D
     11F41 16FF0-16FF1 1D165-1D166 1D16D-1D172 E0020-E007F"
  | .otherIgnorable =>
    "034F 115F-1160 17B4-17B5 2065 3164 FFA0 FFF0-FFF8 E0000 E0002-E001F E0080-E00FF E01F0-E0FFF"
  | .otherLowercase =>
    "00AA 00BA 02B0-02B8 02C0-02C1 02E0-02E4 0345 037A 10FC 1D2C-1D6A 1D78 1D9B-1DBF 2071 207F
     2090-209C 2170-217F 24D0-24E9 2C7C-2C7D A69C-A69D A770 A7F2-A7F4 A7F8-A7F9 AB5C-AB5F AB69
     10780 10783-10785 10787-107B0 107B2-107BA 1E030-1E06D"
  | .otherMath =>
    "005E 03D0-03D2 03D5 03F0-03F1 03F4-03F5 2016 2032-2034 2040 2061-2064 207D-207E 208D-208E
     20D0-20DC 20E1 20E5-20E6 20EB-20EF 2102 2107 210A-2113 2115 2119-211D 2124 2128-2129 212C-212D
     212F-2131 2133-2138 213C-213F 2145-2149 2195-2199 219C-219F 21A1-21A2 21A4-21A5 21A7 21A9-21AD
     21B0-21B1 21B6-21B7 21BC-21CD 21D0-21D1 21D3 21D5-21DB 21DD 21E4-21E5 2308-230B 23B4-23B5 23B7
     23D0 23E2 25A0-25A1 25AE-25B6 25BC-25C0 25C6-25C7 25CA-25CB 25CF-25D3 25E2 25E4 25E7-25EC
     2605-2606 2640 2642 2660-2663 266D-266E 27C5-27C6 27E6-27EF 2983-2998 29D8-29DB 29FC-29FD FE61
     FE63 FE68 FF3C FF3E 1D400-1D454 1D456-1D49C 1D49E-1D49F 1D4A2 1D4A5-1D4A6 1D4A9-1D4AC
     1D4AE-1D4B9 1D4BB 1D4BD-1D4C3 1D4C5-1D505 1D507-1D50A 1D50D-1D514 1D516-1D51C 1D51E-1D539
     1D53B-1D53E 1D540-1D544 1D546 1D54A-1D550 1D552-1D6A5 1D6A8-1D6C0 1D6C2-1D6DA 1D6DC-1D6FA
     1D6FC-1D714 1D716-1D734 1D736-1D74E 1D750-1D76E 1D770-1D788 1D78A-1D7A8 1D7AA-1D7C2
     1D7C4-1D7CB 1D7CE-1D7FF 1EE00-1EE03 1EE05-1EE1F 1EE21-1EE22 1EE24 1EE27 1EE29-1EE32
     1EE34-1EE37 1EE39 1EE3B 1EE42 1EE47 1EE49 1EE4B 1EE4D-1EE4F 1EE51-1EE52 1EE54 1EE57 1EE59
     1EE5B 1EE5D 1EE5F 1EE61-1EE62 1EE64 1EE67-1EE6A 1EE6C-1EE72 1EE74-1EE77 1EE79-1EE7C 1EE7E
     1EE80-1EE89 1EE8B-1EE9B 1EEA1-1EEA3 1EEA5-1EEA9 1EEAB-1EEBB"
  | .otherStart => "1885-1886 2118 212E 309B-309C"
  | .otherUppercase => "2160-216F 24B6-24CF 1F130-1F149 1F150-1F169 1F170-1F189"
  | .patternBlank => "0009-000D 0020 0085 200E-200F 2028-2029"
  | .patternSyntax =>
    "0021-002F 003A-0040 005B-005E 0060 007B-007E 00A1-00A7 00A9 00AB-00AC 00AE 00B0-00B1 00B6 00BB
     00BF 00D7 00F7 2010-2027 2030-203E 2041-2053 2055-205E 2190-245F 2500-2775 2794-2BFF 2E00-2E7F
     3001-3003 3008-3020 3030 FD3E-FD3F FE45-FE46"
  | .prependedMark => "0600-0605 06DD 070F 0890-0891 08E2 110BD 110CD"
  | .quotationMark =>
    "0022 0027 00AB 00BB 2018-201F 2039-203A 2E42 300C-300F 301D-301F FE41-FE44 FF02 FF07 FF62-FF63"
  | .radical => "2E80-2E99 2E9B-2EF3 2F00-2FD5"
  | .regionalIndicator => "1F1E6-1F1FF"
  | .sentenceTerminal =>
    "0021 002E 003F 0589 061D-061F 06D4 0700-0702 07F9 0837 0839 083D-083E 0964-0965 104A-104B 1362
     1367-1368 166E 1735-1736 17D4-17D5 1803 1809 1944-1945 1AA8-1AAB 1B4E-1B4F 1B5A-1B5B 1B5E-1B5F
     1B7D-1B7F 1C3B-1C3C 1C7E-1C7F 2024 203C-203D 2047-2049 2CF9-2CFB 2E2E 2E3C 2E53-2E54 3002 A4FF
     A60E-A60F A6F3 A6F7 A876-A877 A8CE-A8CF A92F A9C8-A9C9 AA5D-AA5F AAF0-AAF1 ABEB FE12 FE15-FE16
     FE52 FE56-FE57 FF01 FF0E FF1F FF61 10A56-10A57 10F55-10F59 10F86-10F89 11047-11048 110BE-110C1
     11141-11143 111C5-111C6 111CD 111DE-111DF 11238-11239 1123B-1123C 112A9 113D4-113D5
     1144B-1144C 115C2-115C3 115C9-115D7 11641-11642 1173C-1173E 11944 11946 11A42-11A43
     11A9B-11A9C 11C41-11C42 11EF7-11EF8 11F43-11F44 16A6E-16A6F 16AF5 16B37-16B38 16B44
     16D6E-16D6F 16E98 1BC9F 1DA88"
  | .softDotted =>
    "0069-006A 012F 0249 0268 029D 02B2 03F3 0456 0458 1D62 1D96 1DA4 1DA8 1E2D 1ECB 2071 2148-2149
     2C7C 1D422-1D423 1D456-1D457 1D48A-1D48B 1D4BE-1D4BF 1D4F2-1D4F3 1D526-1D527 1D55A-1D55B
     1D58E-1D58F 1D5C2-1D5C3 1D5F6-1D5F7 1D62A-1D62B 1D65E-1D65F 1D692-1D693 1DF1A 1E04C-1E04D
     1E068"
  | .terminalPunctuation =>
    "0021 002C 002E 003A-003B 003F 037E 0387 0589 05C3 060C 061B 061D-061F 06D4 0700-070A 070C
     07F8-07F9 0830-0835 0837-083E 085E 0964-0965 0E5A-0E5B 0F08 0F0D-0F12 104A-104B 1361-1368 166E
     16EB-16ED 1735-1736 17D4-17D6 17DA 1802-1805 1808-1809 1944-1945 1AA8-1AAB 1B4E-1B4F 1B5A-1B5B
     1B5D-1B5F 1B7D-1B7F 1C3B-1C3F 1C7E-1C7F 2024 203C-203D 2047-2049 2CF9-2CFB 2E2E 2E3C 2E41 2E4C
     2E4E-2E4F 2E53-2E54 3001-3002 A4FE-A4FF A60D-A60F A6F3-A6F7 A876-A877 A8CE-A8CF A92F A9C7-A9C9
     AA5D-AA5F AADF AAF0-AAF1 ABEB FE12 FE15-FE16 FE50-FE52 FE54-FE57 FF01 FF0C FF0E FF1A-FF1B FF1F
     FF61 FF64 1039F 103D0 10857 1091F 10A56-10A57 10AF0-10AF5 10B3A-10B3F 10B99-10B9C 10F55-10F59
     10F86-10F89 11047-1104D 110BE-110C1 11141-11143 111C5-111C6 111CD 111DE-111DF 11238-1123C
     112A9 113D4-113D5 1144B-1144D 1145A-1145B 115C2-115C5 115C9-115D7 11641-11642 1173C-1173E
     11944 11946 11A42-11A43 11A9B-11A9C 11AA1-11AA2 11C41-11C43 11C71 11EF7-11EF8 11F43-11F44
     12470-12474 16A6E-16A6F 16AF5 16B37-16B39 16B44 16D6E-16D6F 16E97-16E98 1BC9F 1DA87-1DA8A"
  | .unifiedIdeograph =>
    "3400-4DBF 4E00-9FFF FA0E-FA0F FA11 FA13-FA14 FA1F FA21 FA23-FA24 FA27-FA29 20000-2A6DF
     2A700-2B739 2B740-2B81D 2B820-2CEA1 2CEB0-2EBE0 2EBF0-2EE5D 30000-3134A 31350-323AF"
  | .variationSelector => "180B-180D 180F FE00-FE0F E0100-E01EF"
  | _ => ""

/-- The characters that do not have a property although they have the one that it
    follows from. -/
def omitted : Property → String
  | .changesWhenCasefolded => "1FBE 1FD3 1FE3"
  | .changesWhenLowercased =>
    "00B5 017F 0345 03C2 03D0-03D1 03D5-03D6 03F0-03F1 03F5 13F8-13FD 1C80-1C88 1E9B 1FBE 1FD3 1FE3
     AB70-ABBF FB05"
  | .changesWhenTitlecased => "10D0-10FA 10FD-10FF 13A0-13F5"
  | .changesWhenUppercased => "13A0-13F5"
  | .xidContinue => "037A 309B-309C FC5E-FC63 FDFA-FDFB FE70 FE72 FE74 FE76 FE78 FE7A FE7C FE7E"
  | .xidStart =>
    "037A 0E33 0EB3 309B-309C FC5E-FC63 FDFA-FDFB FE70 FE72 FE74 FE76 FE78 FE7A FE7C FE7E FF9E-FF9F"
  | _ => ""

/-- The characters that are listed for a property. -/
def listed (p : Property) : CharSet :=
  .ofTable p.table

/-! ## Properties that follow from others -/

/-- A set with the characters listed for a property, and without those that the
    property leaves out. -/
def amend (p : Property) (s : CharSet) : CharSet :=
  (s.union p.listed).diff (.ofTable p.omitted)

/-- The characters that fold to another one. -/
def folding : CharSet :=
  CharSet.empty.withCodes (CharSet.foldPairs.map (·.1))

/-- The characters that another one folds to. -/
def foldedTo : CharSet :=
  CharSet.empty.withCodes (CharSet.foldPairs.map (·.2))

/-- The characters of some categories and those listed for a property. -/
def listedWith (p : Property) (categories : List Category) : CharSet :=
  (Category.setOf categories).union p.listed

/-- The small letters. -/
def lowercaseSet : CharSet :=
  otherLowercase.listedWith [.lowercaseLetter]

/-- The capital letters. -/
def uppercaseSet : CharSet :=
  otherUppercase.listedWith [.uppercaseLetter]

/-- The characters that make up words. -/
def alphabeticSet : CharSet :=
  .unions [lowercaseSet, uppercaseSet,
    otherAlphabetic.listedWith [.titlecaseLetter, .modifierLetter, .otherLetter, .letterNumber]]

/-- The characters that have a case. -/
def casedSet : CharSet :=
  .unions [lowercaseSet, uppercaseSet, Category.titlecaseLetter.set]

/-- The characters that extend the one before. -/
def graphemeExtendSet : CharSet :=
  otherGraphemeExtend.listedWith [.enclosingMark, .nonspacingMark]

/-- What patterns are written with. -/
def patternSet : CharSet :=
  patternSyntax.listed.union patternBlank.listed

/-- The characters that a name can start with. -/
def idStartSet : CharSet :=
  (otherStart.listedWith (.letterNumber :: Category.letters)).diff patternSet

/-- The characters that a name can have. -/
def idContinueSet : CharSet :=
  (idStartSet.union (otherContinue.listedWith
    [.nonspacingMark, .spacingMark, .decimalNumber, .connectorPunctuation])).diff patternSet

/-- The characters that are not shown where they are not known. -/
def defaultIgnorableSet : CharSet :=
  ((otherIgnorable.listedWith [.format]).union variationSelector.listed).diff
    (.unions [.ofRanges Text.blankRanges, .ofTable "FFF9-FFFB 13430-13440", prependedMark.listed])

/-- The characters that stand for themselves. -/
def graphemeBaseSet : CharSet :=
  (Category.setOf Category.all).diff
    ((Category.setOf [.control, .format, .privateUse, .lineSeparator, .paragraphSeparator]).union
      graphemeExtendSet)

/-- The characters that have the property. -/
def set : Property → CharSet
  | alphabetic => alphabeticSet
  | caseIgnorable =>
    caseIgnorable.listedWith
      [.nonspacingMark, .enclosingMark, .format, .modifierLetter, .modifierSymbol]
  | cased => casedSet
  | changesWhenCasefolded => changesWhenCasefolded.amend folding
  | changesWhenCasemapped =>
    .unions [changesWhenLowercased.amend folding,
      changesWhenTitlecased.amend (foldedTo.diff folding),
      changesWhenUppercased.amend (foldedTo.diff folding)]
  | changesWhenLowercased => changesWhenLowercased.amend folding
  | changesWhenTitlecased => changesWhenTitlecased.amend (foldedTo.diff folding)
  | changesWhenUppercased => changesWhenUppercased.amend (foldedTo.diff folding)
  | defaultIgnorable => defaultIgnorableSet
  | graphemeBase => graphemeBaseSet
  | graphemeExtend => graphemeExtendSet
  | idContinue => idContinueSet
  | idStart => idStartSet
  | lowercase => lowercaseSet
  | math => otherMath.listedWith [.mathSymbol]
  | uppercase => uppercaseSet
  | whiteSpace => .ofRanges Text.blankRanges
  | xidContinue => xidContinue.amend idContinueSet
  | xidStart => xidStart.amend idStartSet
  | p => p.listed

/-- The names of a property. -/
def names : Property → List String
  | alphabetic => ["Alpha", "Alphabetic"]
  | asciiHexDigit => ["AHex", "ASCII_Hex_Digit"]
  | bidiControl => ["Bidi_C", "Bidi_Control"]
  | caseIgnorable => ["CI", "Case_Ignorable"]
  | cased => ["Cased"]
  | changesWhenCasefolded => ["CWCF", "Changes_When_Casefolded"]
  | changesWhenCasemapped => ["CWCM", "Changes_When_Casemapped"]
  | changesWhenLowercased => ["CWL", "Changes_When_Lowercased"]
  | changesWhenTitlecased => ["CWT", "Changes_When_Titlecased"]
  | changesWhenUppercased => ["CWU", "Changes_When_Uppercased"]
  | compatibilityMathContinue => ["ID_Compat_Math_Continue"]
  | compatibilityMathStart => ["ID_Compat_Math_Start"]
  | dash => ["Dash"]
  | defaultIgnorable => ["DI", "Default_Ignorable_Code_Point"]
  | deprecated => ["Dep", "Deprecated"]
  | diacritic => ["Dia", "Diacritic"]
  | emoji => ["Emoji"]
  | emojiComponent => ["EComp", "Emoji_Component"]
  | emojiModifier => ["EMod", "Emoji_Modifier"]
  | emojiModifierBase => ["EBase", "Emoji_Modifier_Base"]
  | emojiPresentation => ["EPres", "Emoji_Presentation"]
  | extendedPictographic => ["ExtPict", "Extended_Pictographic"]
  | extender => ["Ext", "Extender"]
  | graphemeBase => ["Gr_Base", "Grapheme_Base"]
  | graphemeExtend => ["Gr_Ext", "Grapheme_Extend"]
  | graphemeLink => ["Gr_Link", "Grapheme_Link"]
  | hexDigit => ["Hex", "Hex_Digit"]
  | hyphen => ["Hyphen"]
  | idContinue => ["IDC", "ID_Continue"]
  | idStart => ["IDS", "ID_Start"]
  | ideographic => ["Ideo", "Ideographic"]
  | idsBinaryOperator => ["IDSB", "IDS_Binary_Operator"]
  | idsTrinaryOperator => ["IDST", "IDS_Trinary_Operator"]
  | idsUnaryOperator => ["IDSU", "IDS_Unary_Operator"]
  | joinControl => ["Join_C", "Join_Control"]
  | logicalOrderException => ["LOE", "Logical_Order_Exception"]
  | lowercase => ["Lower", "Lowercase"]
  | math => ["Math"]
  | modifierCombiningMark => ["MCM", "Modifier_Combining_Mark"]
  | noncharacter => ["NChar", "Noncharacter_Code_Point"]
  | otherAlphabetic => ["OAlpha", "Other_Alphabetic"]
  | otherContinue => ["OIDC", "Other_ID_Continue"]
  | otherGraphemeExtend => ["OGr_Ext", "Other_Grapheme_Extend"]
  | otherIgnorable => ["ODI", "Other_Default_Ignorable_Code_Point"]
  | otherLowercase => ["OLower", "Other_Lowercase"]
  | otherMath => ["OMath", "Other_Math"]
  | otherStart => ["OIDS", "Other_ID_Start"]
  | otherUppercase => ["OUpper", "Other_Uppercase"]
  | patternBlank => ["Pat_WS", "Pattern_White_Space"]
  | patternSyntax => ["Pat_Syn", "Pattern_Syntax"]
  | prependedMark => ["PCM", "Prepended_Concatenation_Mark"]
  | quotationMark => ["QMark", "Quotation_Mark"]
  | radical => ["Radical"]
  | regionalIndicator => ["RI", "Regional_Indicator"]
  | sentenceTerminal => ["STerm", "Sentence_Terminal"]
  | softDotted => ["SD", "Soft_Dotted"]
  | terminalPunctuation => ["Term", "Terminal_Punctuation"]
  | unifiedIdeograph => ["UIdeo", "Unified_Ideograph"]
  | uppercase => ["Upper", "Uppercase"]
  | variationSelector => ["VS", "Variation_Selector"]
  | whiteSpace => ["WSpace", "White_Space", "space"]
  | xidContinue => ["XIDC", "XID_Continue"]
  | xidStart => ["XIDS", "XID_Start"]

/-- All properties. -/
def all : List Property :=
  [alphabetic, asciiHexDigit, bidiControl, caseIgnorable, cased, changesWhenCasefolded,
   changesWhenCasemapped, changesWhenLowercased, changesWhenTitlecased, changesWhenUppercased,
   compatibilityMathContinue, compatibilityMathStart, dash, defaultIgnorable, deprecated, diacritic,
   emoji, emojiComponent, emojiModifier, emojiModifierBase, emojiPresentation, extendedPictographic,
   extender, graphemeBase, graphemeExtend, graphemeLink, hexDigit, hyphen, idContinue, idStart,
   ideographic, idsBinaryOperator, idsTrinaryOperator, idsUnaryOperator, joinControl,
   logicalOrderException, lowercase, math, modifierCombiningMark, noncharacter, otherAlphabetic,
   otherContinue, otherGraphemeExtend, otherIgnorable, otherLowercase, otherMath, otherStart,
   otherUppercase, patternBlank, patternSyntax, prependedMark, quotationMark, radical,
   regionalIndicator, sentenceTerminal, softDotted, terminalPunctuation, unifiedIdeograph,
   uppercase, variationSelector, whiteSpace, xidContinue, xidStart]

end Property
end Tagdown
