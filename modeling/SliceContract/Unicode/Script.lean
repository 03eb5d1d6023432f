import SliceContract.Unicode.CharSet

/-!
# Scripts

Every character belongs to one script; some are used with several, which their script extensions
list. The tables are those of Unicode 17.
-/

namespace SliceContract

structure Script where
  /-- The standard's name. -/
  name : String
  /-- The standard's short name. -/
  abbreviation : String
  members : CharSet
  /-- The characters for which belonging to the script and being used with it do not agree. -/
  exceptions : CharSet
  deriving DecidableEq, Repr

namespace Script

/-- The characters that are used with a script. -/
def extended (s : Script) : CharSet := s.members.symmDiff s.exceptions

/-- Scripts from `Adlam` to `Gothic`. -/
def firstQuarter : List Script := [
  ⟨"Adlam", "Adlm", .ofTable "1E900-1E94B 1E950-1E959 1E95E-1E95F", .ofTable "61F 640 204F 2E41"⟩,
  ⟨"Ahom", "Ahom", .ofTable "11700-1171A 1171D-1172B 11730-11746", .empty⟩,
  ⟨"Anatolian_Hieroglyphs", "Hluw", .ofTable "14400-14646", .empty⟩,
  ⟨"Arabic", "Arab", .ofTable "
    600-604 606-60B 60D-61A 61C-61E 620-63F 641-64A 656-66F 671-6DC 6DE-6FF 750-77F 870-891
    897-8E1 8E3-8FF FB50-FD3D FD40-FDCF FDF0-FDFF FE70-FE74 FE76-FEFC 10E60-10E7E 10EC2-10EC7
    10ED0-10ED8 10EFA-10EFF 1EE00-1EE03 1EE05-1EE1F 1EE21-1EE22 1EE24 1EE27 1EE29-1EE32
    1EE34-1EE37 1EE39 1EE3B 1EE42 1EE47 1EE49 1EE4B 1EE4D-1EE4F 1EE51-1EE52 1EE54 1EE57 1EE59
    1EE5B 1EE5D 1EE5F 1EE61-1EE62 1EE64 1EE67-1EE6A 1EE6C-1EE72 1EE74-1EE77 1EE79-1EE7C 1EE7E
    1EE80-1EE89 1EE8B-1EE9B 1EEA1-1EEA3 1EEA5-1EEA9 1EEAB-1EEBB 1EEF0-1EEF1",
    .ofTable "60C 61B 61F 640 64B-655 670 204F 2E41 FD3E-FD3F 102E0-102FB"⟩,
  ⟨"Armenian", "Armn", .ofTable "531-556 559-58A 58D-58F FB13-FB17", .ofTable "308"⟩,
  ⟨"Avestan", "Avst", .ofTable "10B00-10B35 10B39-10B3F", .ofTable "B7 2E30-2E31"⟩,
  ⟨"Balinese", "Bali", .ofTable "1B00-1B4C 1B4E-1B7F", .empty⟩,
  ⟨"Bamum", "Bamu", .ofTable "A6A0-A6F7 16800-16A38", .empty⟩,
  ⟨"Bassa_Vah", "Bass", .ofTable "16AD0-16AED 16AF0-16AF5", .empty⟩,
  ⟨"Batak", "Batk", .ofTable "1BC0-1BF3 1BFC-1BFF", .empty⟩,
  ⟨"Bengali", "Beng", .ofTable "
    980-983 985-98C 98F-990 993-9A8 9AA-9B0 9B2 9B6-9B9 9BC-9C4 9C7-9C8 9CB-9CE 9D7 9DC-9DD
    9DF-9E3 9E6-9FE", .ofTable "
    2BC 951-952 964-965 1CD0 1CD2 1CD5-1CD6 1CD8 1CE1 1CEA 1CED 1CF2 1CF5-1CF7 A8F1"⟩,
  ⟨"Beria_Erfe", "Berf", .ofTable "16EA0-16EB8 16EBB-16ED3", .empty⟩,
  ⟨"Bhaiksuki", "Bhks", .ofTable "11C00-11C08 11C0A-11C36 11C38-11C45 11C50-11C6C", .empty⟩,
  ⟨"Bopomofo", "Bopo", .ofTable "2EA-2EB 3105-312F 31A0-31BF", .ofTable "
    2C7 2C9-2CB 2D9 3001-3003 3008-3011 3013-301F 302A-302D 3030 3037 30FB FE45-FE46 FF61-FF65"⟩,
  ⟨"Brahmi", "Brah", .ofTable "11000-1104D 11052-11075 1107F", .empty⟩,
  ⟨"Braille", "Brai", .ofTable "2800-28FF", .empty⟩,
  ⟨"Buginese", "Bugi", .ofTable "1A00-1A1B 1A1E-1A1F", .ofTable "A9CF"⟩,
  ⟨"Buhid", "Buhd", .ofTable "1740-1753", .ofTable "1735-1736"⟩,
  ⟨"Canadian_Aboriginal", "Cans", .ofTable "1400-167F 18B0-18F5 11AB0-11ABF", .empty⟩,
  ⟨"Carian", "Cari", .ofTable "102A0-102D0", .ofTable "B7 205A 205D 2E31"⟩,
  ⟨"Caucasian_Albanian", "Aghb", .ofTable "10530-10563 1056F", .ofTable "304 331 35E"⟩,
  ⟨"Chakma", "Cakm", .ofTable "11100-11134 11136-11147", .ofTable "9E6-9EF 1040-1049"⟩,
  ⟨"Cham", "Cham", .ofTable "AA00-AA36 AA40-AA4D AA50-AA59 AA5C-AA5F", .empty⟩,
  ⟨"Cherokee", "Cher", .ofTable "13A0-13F5 13F8-13FD AB70-ABBF",
    .ofTable "300-302 304 30B-30C 323-324 330-331"⟩,
  ⟨"Chorasmian", "Chrs", .ofTable "10FB0-10FCB", .empty⟩,
  ⟨"Common", "Zyyy", .ofTable "
    0-40 5B-60 7B-A9 AB-B9 BB-BF D7 F7 2B9-2DF 2E5-2E9 2EC-2FF 374 37E 385 387 605 60C 61B 61F 640
    6DD 8E2 964-965 E3F FD5-FD8 10FB 16EB-16ED 1735-1736 1802-1803 1805 1CD3 1CE1 1CE9-1CEC
    1CEE-1CF3 1CF5-1CF7 1CFA 2000-200B 200E-2064 2066-2070 2074-207E 2080-208E 20A0-20C1 2100-2125
    2127-2129 212C-2131 2133-214D 214F-215F 2189-218B 2190-2429 2440-244A 2460-27FF 2900-2B73
    2B76-2BFF 2E00-2E5D 2FF0-3004 3006 3008-3020 3030-3037 303C-303F 309B-309C 30A0 30FB-30FC
    3190-319F 31C0-31E5 31EF 3220-325F 327F-32CF 32FF 3358-33FF 4DC0-4DFF A700-A721 A788-A78A
    A830-A839 A92E A9CF AB5B AB6A-AB6B FD3E-FD3F FE10-FE19 FE30-FE52 FE54-FE66 FE68-FE6B FEFF
    FF01-FF20 FF3B-FF40 FF5B-FF65 FF70 FF9E-FF9F FFE0-FFE6 FFE8-FFEE FFF9-FFFD 10100-10102
    10107-10133 10137-1013F 10190-1019C 101D0-101FC 102E1-102FB 1BCA0-1BCA3 1CC00-1CCFC
    1CD00-1CEB3 1CEBA-1CED0 1CEE0-1CEF0 1CF50-1CFC3 1D000-1D0F5 1D100-1D126 1D129-1D166
    1D16A-1D17A 1D183-1D184 1D18C-1D1A9 1D1AE-1D1EA 1D2C0-1D2D3 1D2E0-1D2F3 1D300-1D356
    1D360-1D378 1D400-1D454 1D456-1D49C 1D49E-1D49F 1D4A2 1D4A5-1D4A6 1D4A9-1D4AC 1D4AE-1D4B9
    1D4BB 1D4BD-1D4C3 1D4C5-1D505 1D507-1D50A 1D50D-1D514 1D516-1D51C 1D51E-1D539 1D53B-1D53E
    1D540-1D544 1D546 1D54A-1D550 1D552-1D6A5 1D6A8-1D7CB 1D7CE-1D7FF 1EC71-1ECB4 1ED01-1ED3D
    1F000-1F02B 1F030-1F093 1F0A0-1F0AE 1F0B1-1F0BF 1F0C1-1F0CF 1F0D1-1F0F5 1F100-1F1AD
    1F1E6-1F1FF 1F201-1F202 1F210-1F23B 1F240-1F248 1F250-1F251 1F260-1F265 1F300-1F6D8
    1F6DC-1F6EC 1F6F0-1F6FC 1F700-1F7D9 1F7E0-1F7EB 1F7F0 1F800-1F80B 1F810-1F847 1F850-1F859
    1F860-1F887 1F890-1F8AD 1F8B0-1F8BB 1F8C0-1F8C1 1F8D0-1F8D8 1F900-1FA57 1FA60-1FA6D
    1FA70-1FA7C 1FA80-1FA8A 1FA8E-1FAC6 1FAC8 1FACD-1FADC 1FADF-1FAEA 1FAEF-1FAF8 1FB00-1FB92
    1FB94-1FBFA E0001 E0020-E007F", .ofTable "
    B7 2BC 2C7 2C9-2CB 2CD 2D7 2D9 374 60C 61B 61F 640 964-965 10FB 16EB-16ED 1735-1736 1802-1803
    1805 1CD3 1CE1 1CE9-1CEC 1CEE-1CF3 1CF5-1CF7 1CFA 202F 204F 205A 205D 2E17 2E30-2E31 2E3C 2E41
    2E43 2FF0-2FFF 3001-3003 3006 3008-3011 3013-301F 3030-3035 3037 303C-303F 309B-309C 30A0
    30FB-30FC 3190-319F 31C0-31E5 31EF 3220-3247 3280-32B0 32C0-32CB 32FF 3358-3370 337B-337F
    33E0-33FE A700-A707 A830-A839 A92E A9CF FD3E-FD3F FE45-FE46 FF61-FF65 FF70 FF9E-FF9F
    10100-10102 10107-10133 10137-1013F 102E1-102FB 1BCA0-1BCA3 1D360-1D371 1F250-1F251"⟩,
  ⟨"Coptic", "Copt", .ofTable "3E2-3EF 2C80-2CF3 2CF9-2CFF",
    .ofTable "B7 300 304-305 307 374-375 2E17 102E0-102FB"⟩,
  ⟨"Cuneiform", "Xsux", .ofTable "12000-12399 12400-1246E 12470-12474 12480-12543", .empty⟩,
  ⟨"Cypriot", "Cprt", .ofTable "10800-10805 10808 1080A-10835 10837-10838 1083C 1083F",
    .ofTable "10100-10102 10107-10133 10137-1013F"⟩,
  ⟨"Cypro_Minoan", "Cpmn", .ofTable "12F90-12FF2", .ofTable "10100-10101"⟩,
  ⟨"Cyrillic", "Cyrl", .ofTable "
    400-484 487-52F 1C80-1C8A 1D2B 1D78 2DE0-2DFF A640-A69F FE2E-FE2F 1E030-1E06D 1E08F",
    .ofTable "2BC 300-302 304 306 308 30B 311 485-486 1DF8 2E43"⟩,
  ⟨"Deseret", "Dsrt", .ofTable "10400-1044F", .empty⟩,
  ⟨"Devanagari", "Deva", .ofTable "900-950 955-963 966-97F A8E0-A8FF 11B00-11B09",
    .ofTable "2BC 951-952 964-965 1CD0-1CF6 1CF8-1CF9 20F0 A830-A839"⟩,
  ⟨"Dives_Akuru", "Diak", .ofTable "
    11900-11906 11909 1190C-11913 11915-11916 11918-11935 11937-11938 1193B-11946 11950-11959",
    .empty⟩,
  ⟨"Dogra", "Dogr", .ofTable "11800-1183B", .ofTable "964-96F A830-A839"⟩,
  ⟨"Duployan", "Dupl", .ofTable "1BC00-1BC6A 1BC70-1BC7C 1BC80-1BC88 1BC90-1BC99 1BC9C-1BC9F",
    .ofTable "B7 307-308 30A 323-324 2E3C 1BCA0-1BCA3"⟩,
  ⟨"Egyptian_Hieroglyphs", "Egyp", .ofTable "13000-13455 13460-143FA", .empty⟩,
  ⟨"Elbasan", "Elba", .ofTable "10500-10527", .ofTable "B7 305"⟩,
  ⟨"Elymaic", "Elym", .ofTable "10FE0-10FF6", .empty⟩,
  ⟨"Ethiopic", "Ethi", .ofTable "
    1200-1248 124A-124D 1250-1256 1258 125A-125D 1260-1288 128A-128D 1290-12B0 12B2-12B5 12B8-12BE
    12C0 12C2-12C5 12C8-12D6 12D8-1310 1312-1315 1318-135A 135D-137C 1380-1399 2D80-2D96 2DA0-2DA6
    2DA8-2DAE 2DB0-2DB6 2DB8-2DBE 2DC0-2DC6 2DC8-2DCE 2DD0-2DD6 2DD8-2DDE AB01-AB06 AB09-AB0E
    AB11-AB16 AB20-AB26 AB28-AB2E 1E7E0-1E7E6 1E7E8-1E7EB 1E7ED-1E7EE 1E7F0-1E7FE", .ofTable "30E"⟩,
  ⟨"Garay", "Gara", .ofTable "10D40-10D65 10D69-10D85 10D8E-10D8F", .ofTable "60C 61B 61F"⟩,
  ⟨"Georgian", "Geor", .ofTable "
    10A0-10C5 10C7 10CD 10D0-10FA 10FC-10FF 1C90-1CBA 1CBD-1CBF 2D00-2D25 2D27 2D2D",
    .ofTable "B7 589 10FB 205A 2E31"⟩,
  ⟨"Glagolitic", "Glag", .ofTable "
    2C00-2C5F 1E000-1E006 1E008-1E018 1E01B-1E021 1E023-1E024 1E026-1E02A",
    .ofTable "B7 303 305 484 487 589 10FB 205A 2E43 A66F"⟩,
  ⟨"Gothic", "Goth", .ofTable "10330-1034A", .ofTable "B7 304-305 308 331"⟩]

/-- Scripts from `Grantha` to `Marchen`. -/
def secondQuarter : List Script := [
  ⟨"Grantha", "Gran", .ofTable "
    11300-11303 11305-1130C 1130F-11310 11313-11328 1132A-11330 11332-11333 11335-11339
    1133C-11344 11347-11348 1134B-1134D 11350 11357 1135D-11363 11366-1136C 11370-11374", .ofTable "
    951-952 964-965 BE6-BF3 1CD0 1CD2-1CD3 1CF2-1CF4 1CF8-1CF9 20F0 1133B 11FD0-11FD1 11FD3"⟩,
  ⟨"Greek", "Grek", .ofTable "
    370-373 375-377 37A-37D 37F 384 386 388-38A 38C 38E-3A1 3A3-3E1 3F0-3FF 1D26-1D2A 1D5D-1D61
    1D66-1D6A 1DBF 1F00-1F15 1F18-1F1D 1F20-1F45 1F48-1F4D 1F50-1F57 1F59 1F5B 1F5D 1F5F-1F7D
    1F80-1FB4 1FB6-1FC4 1FC6-1FD3 1FD6-1FDB 1FDD-1FEF 1FF2-1FF4 1FF6-1FFE 2126 AB65 10140-1018E
    101A0 1D200-1D245", .ofTable "B7 300-301 304 306 308 313 342 345 374 1DC0-1DC1 205D"⟩,
  ⟨"Gujarati", "Gujr", .ofTable "
    A81-A83 A85-A8D A8F-A91 A93-AA8 AAA-AB0 AB2-AB3 AB5-AB9 ABC-AC5 AC7-AC9 ACB-ACD AD0 AE0-AE3
    AE6-AF1 AF9-AFF", .ofTable "951-952 964-965 A830-A839"⟩,
  ⟨"Gunjala_Gondi", "Gong", .ofTable "
    11D60-11D65 11D67-11D68 11D6A-11D8E 11D90-11D91 11D93-11D98 11DA0-11DA9",
    .ofTable "B7 964-965"⟩,
  ⟨"Gurmukhi", "Guru", .ofTable "
    A01-A03 A05-A0A A0F-A10 A13-A28 A2A-A30 A32-A33 A35-A36 A38-A39 A3C A3E-A42 A47-A48 A4B-A4D
    A51 A59-A5C A5E A66-A76", .ofTable "951-952 964-965 A830-A839"⟩,
  ⟨"Gurung_Khema", "Gukh", .ofTable "16100-16139", .ofTable "965"⟩,
  ⟨"Han", "Hani", .ofTable "
    2E80-2E99 2E9B-2EF3 2F00-2FD5 3005 3007 3021-3029 3038-303B 3400-4DBF 4E00-9FFF F900-FA6D
    FA70-FAD9 16FE2-16FE3 16FF0-16FF6 20000-2A6DF 2A700-2B81D 2B820-2CEAD 2CEB0-2EBE0 2EBF0-2EE5D
    2F800-2FA1D 30000-3134A 31350-33479", .ofTable "
    B7 2FF0-2FFF 3001-3003 3006 3008-3011 3013-301F 302A-302D 3030 3037 303C-303F 30FB 3190-319F
    31C0-31E5 31EF 3220-3247 3280-32B0 32C0-32CB 32FF 3358-3370 337B-337F 33E0-33FE A700-A707
    FE45-FE46 FF61-FF65 1D360-1D371 1F250-1F251"⟩,
  ⟨"Hangul", "Hang", .ofTable "
    1100-11FF 302E-302F 3131-318E 3200-321E 3260-327E A960-A97C AC00-D7A3 D7B0-D7C6 D7CB-D7FB
    FFA0-FFBE FFC2-FFC7 FFCA-FFCF FFD2-FFD7 FFDA-FFDC",
    .ofTable "3001-3003 3008-3011 3013-301F 3030 3037 30FB FE45-FE46 FF61-FF65"⟩,
  ⟨"Hanifi_Rohingya", "Rohg", .ofTable "10D00-10D27 10D30-10D39", .ofTable "60C 61B 61F 640 6D4"⟩,
  ⟨"Hanunoo", "Hano", .ofTable "1720-1734", .ofTable "1735-1736"⟩,
  ⟨"Hatran", "Hatr", .ofTable "108E0-108F2 108F4-108F5 108FB-108FF", .empty⟩,
  ⟨"Hebrew", "Hebr", .ofTable "
    591-5C7 5D0-5EA 5EF-5F4 FB1D-FB36 FB38-FB3C FB3E FB40-FB41 FB43-FB44 FB46-FB4F",
    .ofTable "307-308"⟩,
  ⟨"Hiragana", "Hira", .ofTable "3041-3096 309D-309F 1B001-1B11F 1B132 1B150-1B152 1F200",
    .ofTable "
    3001-3003 3008-3011 3013-301F 3030-3035 3037 303C-303D 3099-309C 30A0 30FB-30FC FE45-FE46
    FF61-FF65 FF70 FF9E-FF9F"⟩,
  ⟨"Imperial_Aramaic", "Armi", .ofTable "10840-10855 10857-1085F", .empty⟩,
  ⟨"Inherited", "Zinh", .ofTable "
    300-36F 485-486 64B-655 670 951-954 1AB0-1ADD 1AE0-1AEB 1CD0-1CD2 1CD4-1CE0 1CE2-1CE8 1CED
    1CF4 1CF8-1CF9 1DC0-1DFF 200C-200D 20D0-20F0 302A-302D 3099-309A FE00-FE0F FE20-FE2D 101FD
    102E0 1133B 1CF00-1CF2D 1CF30-1CF46 1D167-1D169 1D17B-1D182 1D185-1D18B 1D1AA-1D1AD
    E0100-E01EF", .ofTable "
    300-30E 310-311 313 323-325 32D-32E 330-331 342 345 358 35E 363-36F 485-486 64B-655 670
    951-952 1CD0-1CD2 1CD4-1CE0 1CE2-1CE8 1CED 1CF4 1CF8-1CF9 1DC0-1DC1 1DF8 1DFA 20F0 302A-302D
    3099-309A 102E0 1133B"⟩,
  ⟨"Inscriptional_Pahlavi", "Phli", .ofTable "10B60-10B72 10B78-10B7F", .empty⟩,
  ⟨"Inscriptional_Parthian", "Prti", .ofTable "10B40-10B55 10B58-10B5F", .empty⟩,
  ⟨"Javanese", "Java", .ofTable "A980-A9CD A9D0-A9D9 A9DE-A9DF", .ofTable "A9CF"⟩,
  ⟨"Kaithi", "Kthi", .ofTable "11080-110C2 110CD", .ofTable "966-96F 2E31 A830-A839"⟩,
  ⟨"Kannada", "Knda", .ofTable "
    C80-C8C C8E-C90 C92-CA8 CAA-CB3 CB5-CB9 CBC-CC4 CC6-CC8 CCA-CCD CD5-CD6 CDC-CDE CE0-CE3
    CE6-CEF CF1-CF3", .ofTable "951-952 964-965 1CD0 1CD2-1CD3 1CDA 1CF2 1CF4 A830-A835"⟩,
  ⟨"Katakana", "Kana", .ofTable "
    30A1-30FA 30FD-30FF 31F0-31FF 32D0-32FE 3300-3357 FF66-FF6F FF71-FF9D 1AFF0-1AFF3 1AFF5-1AFFB
    1AFFD-1AFFE 1B000 1B120-1B122 1B155 1B164-1B167", .ofTable "
    305 323 3001-3003 3008-3011 3013-301F 3030-3035 3037 303C-303D 3099-309C 30A0 30FB-30FC
    FE45-FE46 FF61-FF65 FF70 FF9E-FF9F"⟩,
  ⟨"Kawi", "Kawi", .ofTable "11F00-11F10 11F12-11F3A 11F3E-11F5A", .empty⟩,
  ⟨"Kayah_Li", "Kali", .ofTable "A900-A92D A92F", .ofTable "A92E"⟩,
  ⟨"Kharoshthi", "Khar", .ofTable "
    10A00-10A03 10A05-10A06 10A0C-10A13 10A15-10A17 10A19-10A35 10A38-10A3A 10A3F-10A48
    10A50-10A58", .empty⟩,
  ⟨"Khitan_Small_Script", "Kits", .ofTable "16FE4 18B00-18CD5 18CFF", .empty⟩,
  ⟨"Khmer", "Khmr", .ofTable "1780-17DD 17E0-17E9 17F0-17F9 19E0-19FF", .empty⟩,
  ⟨"Khojki", "Khoj", .ofTable "11200-11211 11213-11241", .ofTable "AE6-AEF A830-A839"⟩,
  ⟨"Khudawadi", "Sind", .ofTable "112B0-112EA 112F0-112F9", .ofTable "964-965 A830-A839"⟩,
  ⟨"Kirat_Rai", "Krai", .ofTable "16D40-16D79", .empty⟩,
  ⟨"Lao", "Laoo", .ofTable "
    E81-E82 E84 E86-E8A E8C-EA3 EA5 EA7-EBD EC0-EC4 EC6 EC8-ECE ED0-ED9 EDC-EDF", .empty⟩,
  ⟨"Latin", "Latn", .ofTable "
    41-5A 61-7A AA BA C0-D6 D8-F6 F8-2B8 2E0-2E4 1D00-1D25 1D2C-1D5C 1D62-1D65 1D6B-1D77 1D79-1DBE
    1E00-1EFF 2071 207F 2090-209C 212A-212B 2132 214E 2160-2188 2C60-2C7F A722-A787 A78B-A7DC
    A7F1-A7FF AB30-AB5A AB5C-AB64 AB66-AB69 FB00-FB06 FF21-FF3A FF41-FF5A 10780-10785 10787-107B0
    107B2-107BA 1DF00-1DF1E 1DF25-1DF2A", .ofTable "
    B7 2BC 2C7 2C9-2CB 2CD 2D7 2D9 300-30E 310-311 313 323-325 32D-32E 330-331 358 35E 363-36F
    485-486 951-952 10FB 1DF8 202F 20F0 2E17 A700-A707 A92E"⟩,
  ⟨"Lepcha", "Lepc", .ofTable "1C00-1C37 1C3B-1C49 1C4D-1C4F", .empty⟩,
  ⟨"Limbu", "Limb", .ofTable "1900-191E 1920-192B 1930-193B 1940 1944-194F", .ofTable "965"⟩,
  ⟨"Linear_A", "Lina", .ofTable "10600-10736 10740-10755 10760-10767", .ofTable "10107-10133"⟩,
  ⟨"Linear_B", "Linb", .ofTable "
    10000-1000B 1000D-10026 10028-1003A 1003C-1003D 1003F-1004D 10050-1005D 10080-100FA",
    .ofTable "10100-10102 10107-10133 10137-1013F"⟩,
  ⟨"Lisu", "Lisu", .ofTable "A4D0-A4FF 11FB0", .ofTable "2BC 2CD 300A-300B"⟩,
  ⟨"Lycian", "Lyci", .ofTable "10280-1029C", .ofTable "205A"⟩,
  ⟨"Lydian", "Lydi", .ofTable "10920-10939 1093F", .ofTable "B7 2E31"⟩,
  ⟨"Mahajani", "Mahj", .ofTable "11150-11176", .ofTable "B7 964-96F A830-A839"⟩,
  ⟨"Makasar", "Maka", .ofTable "11EE0-11EF8", .empty⟩,
  ⟨"Malayalam", "Mlym", .ofTable "D00-D0C D0E-D10 D12-D44 D46-D48 D4A-D4F D54-D63 D66-D7F",
    .ofTable "951-952 964-965 1CDA 1CF2 A830-A832"⟩,
  ⟨"Mandaic", "Mand", .ofTable "840-85B 85E", .ofTable "640"⟩,
  ⟨"Manichaean", "Mani", .ofTable "10AC0-10AE6 10AEB-10AF6", .ofTable "640"⟩,
  ⟨"Marchen", "Marc", .ofTable "11C70-11C8F 11C92-11CA7 11CA9-11CB6", .empty⟩]

/-- Scripts from `Masaram_Gondi` to `Samaritan`. -/
def thirdQuarter : List Script := [
  ⟨"Masaram_Gondi", "Gonm", .ofTable "
    11D00-11D06 11D08-11D09 11D0B-11D36 11D3A 11D3C-11D3D 11D3F-11D47 11D50-11D59",
    .ofTable "964-965"⟩,
  ⟨"Medefaidrin", "Medf", .ofTable "16E40-16E9A", .empty⟩,
  ⟨"Meetei_Mayek", "Mtei", .ofTable "AAE0-AAF6 ABC0-ABED ABF0-ABF9", .empty⟩,
  ⟨"Mende_Kikakui", "Mend", .ofTable "1E800-1E8C4 1E8C7-1E8D6", .empty⟩,
  ⟨"Meroitic_Cursive", "Merc", .ofTable "109A0-109B7 109BC-109CF 109D2-109FF", .empty⟩,
  ⟨"Meroitic_Hieroglyphs", "Mero", .ofTable "10980-1099F", .ofTable "205D"⟩,
  ⟨"Miao", "Plrd", .ofTable "16F00-16F4A 16F4F-16F87 16F8F-16F9F", .empty⟩,
  ⟨"Modi", "Modi", .ofTable "11600-11644 11650-11659", .ofTable "A830-A839"⟩,
  ⟨"Mongolian", "Mong", .ofTable "1800-1801 1804 1806-1819 1820-1878 1880-18AA 11660-1166C",
    .ofTable "1802-1803 1805 202F 3001-3002 3008-300B"⟩,
  ⟨"Mro", "Mroo", .ofTable "16A40-16A5E 16A60-16A69 16A6E-16A6F", .empty⟩,
  ⟨"Multani", "Mult", .ofTable "11280-11286 11288 1128A-1128D 1128F-1129D 1129F-112A9",
    .ofTable "A66-A6F"⟩,
  ⟨"Myanmar", "Mymr", .ofTable "1000-109F A9E0-A9FE AA60-AA7F 116D0-116E3", .ofTable "A92E"⟩,
  ⟨"Nabataean", "Nbat", .ofTable "10880-1089E 108A7-108AF", .empty⟩,
  ⟨"Nag_Mundari", "Nagm", .ofTable "1E4D0-1E4F9", .empty⟩,
  ⟨"Nandinagari", "Nand", .ofTable "119A0-119A7 119AA-119D7 119DA-119E4",
    .ofTable "951 964-965 CE6-CEF 1CE9 1CF2 1CFA A830-A835"⟩,
  ⟨"New_Tai_Lue", "Talu", .ofTable "1980-19AB 19B0-19C9 19D0-19DA 19DE-19DF", .empty⟩,
  ⟨"Newa", "Newa", .ofTable "11400-1145B 1145D-11461",
    .ofTable "951-952 1CD5 1CD7-1CD8 1CE2 1CE9 1CEB 1CED"⟩,
  ⟨"Nko", "Nkoo", .ofTable "7C0-7FA 7FD-7FF", .ofTable "60C 61B 61F FD3E-FD3F"⟩,
  ⟨"Nushu", "Nshu", .ofTable "16FE1 1B170-1B2FB", .empty⟩,
  ⟨"Nyiakeng_Puachue_Hmong", "Hmnp", .ofTable "1E100-1E12C 1E130-1E13D 1E140-1E149 1E14E-1E14F",
    .empty⟩,
  ⟨"Ogham", "Ogam", .ofTable "1680-169C", .empty⟩,
  ⟨"Ol_Chiki", "Olck", .ofTable "1C50-1C7F", .empty⟩,
  ⟨"Ol_Onal", "Onao", .ofTable "1E5D0-1E5FA 1E5FF", .ofTable "964-965"⟩,
  ⟨"Old_Hungarian", "Hung", .ofTable "10C80-10CB2 10CC0-10CF2 10CFA-10CFF",
    .ofTable "205A 205D 2E31 2E41"⟩,
  ⟨"Old_Italic", "Ital", .ofTable "10300-10323 1032D-1032F", .empty⟩,
  ⟨"Old_North_Arabian", "Narb", .ofTable "10A80-10A9F", .empty⟩,
  ⟨"Old_Permic", "Perm", .ofTable "10350-1037A", .ofTable "B7 300 306-308 313 483"⟩,
  ⟨"Old_Persian", "Xpeo", .ofTable "103A0-103C3 103C8-103D5", .empty⟩,
  ⟨"Old_Sogdian", "Sogo", .ofTable "10F00-10F27", .empty⟩,
  ⟨"Old_South_Arabian", "Sarb", .ofTable "10A60-10A7F", .empty⟩,
  ⟨"Old_Turkic", "Orkh", .ofTable "10C00-10C48", .ofTable "205A 2E30"⟩,
  ⟨"Old_Uyghur", "Ougr", .ofTable "10F70-10F89", .ofTable "640 10AF2"⟩,
  ⟨"Oriya", "Orya", .ofTable "
    B01-B03 B05-B0C B0F-B10 B13-B28 B2A-B30 B32-B33 B35-B39 B3C-B44 B47-B48 B4B-B4D B55-B57
    B5C-B5D B5F-B63 B66-B77", .ofTable "951-952 964-965 1CDA 1CF2"⟩,
  ⟨"Osage", "Osge", .ofTable "104B0-104D3 104D8-104FB", .ofTable "301 304 30B 358"⟩,
  ⟨"Osmanya", "Osma", .ofTable "10480-1049D 104A0-104A9", .empty⟩,
  ⟨"Pahawh_Hmong", "Hmng", .ofTable "16B00-16B45 16B50-16B59 16B5B-16B61 16B63-16B77 16B7D-16B8F",
    .empty⟩,
  ⟨"Palmyrene", "Palm", .ofTable "10860-1087F", .empty⟩,
  ⟨"Pau_Cin_Hau", "Pauc", .ofTable "11AC0-11AF8", .empty⟩,
  ⟨"Phags_Pa", "Phag", .ofTable "A840-A877", .ofTable "1802-1803 1805 202F 3002"⟩,
  ⟨"Phoenician", "Phnx", .ofTable "10900-1091B 1091F", .empty⟩,
  ⟨"Psalter_Pahlavi", "Phlp", .ofTable "10B80-10B91 10B99-10B9C 10BA9-10BAF", .ofTable "640"⟩,
  ⟨"Rejang", "Rjng", .ofTable "A930-A953 A95F", .empty⟩,
  ⟨"Runic", "Runr", .ofTable "16A0-16EA 16EE-16F8", .ofTable "16EB-16ED"⟩,
  ⟨"Samaritan", "Samr", .ofTable "800-82D 830-83E", .ofTable "2E31"⟩]

/-- Scripts from `Saurashtra` to `Zanabazar_Square`. -/
def fourthQuarter : List Script := [
  ⟨"Saurashtra", "Saur", .ofTable "A880-A8C5 A8CE-A8D9", .empty⟩,
  ⟨"Sharada", "Shrd", .ofTable "11180-111DF 11B60-11B67",
    .ofTable "951 1CD7 1CD9 1CDC-1CDD 1CE0 1CEA 1CED A830-A835 A838"⟩,
  ⟨"Shavian", "Shaw", .ofTable "10450-1047F", .ofTable "B7"⟩,
  ⟨"Siddham", "Sidd", .ofTable "11580-115B5 115B8-115DD", .empty⟩,
  ⟨"Sidetic", "Sidt", .ofTable "10940-10959", .empty⟩,
  ⟨"SignWriting", "Sgnw", .ofTable "1D800-1DA8B 1DA9B-1DA9F 1DAA1-1DAAF", .empty⟩,
  ⟨"Sinhala", "Sinh", .ofTable "
    D81-D83 D85-D96 D9A-DB1 DB3-DBB DBD DC0-DC6 DCA DCF-DD4 DD6 DD8-DDF DE6-DEF DF2-DF4
    111E1-111F4", .ofTable "964-965 1CF2"⟩,
  ⟨"Sogdian", "Sogd", .ofTable "10F30-10F59", .ofTable "640"⟩,
  ⟨"Sora_Sompeng", "Sora", .ofTable "110D0-110E8 110F0-110F9", .empty⟩,
  ⟨"Soyombo", "Soyo", .ofTable "11A50-11AA2", .empty⟩,
  ⟨"Sundanese", "Sund", .ofTable "1B80-1BBF 1CC0-1CC7", .empty⟩,
  ⟨"Sunuwar", "Sunu", .ofTable "11BC0-11BE1 11BF0-11BF9", .ofTable "300-301 303 30D 310 32D 331"⟩,
  ⟨"Syloti_Nagri", "Sylo", .ofTable "A800-A82C", .ofTable "964-965 9E6-9EF"⟩,
  ⟨"Syriac", "Syrc", .ofTable "700-70D 70F-74A 74D-74F 860-86A", .ofTable "
    303-304 307-308 30A 323-325 32D-32E 330-331 60C 61B-61C 61F 640 64B-655 670 1DF8 1DFA"⟩,
  ⟨"Tagalog", "Tglg", .ofTable "1700-1715 171F", .ofTable "1735-1736"⟩,
  ⟨"Tagbanwa", "Tagb", .ofTable "1760-176C 176E-1770 1772-1773", .ofTable "1735-1736"⟩,
  ⟨"Tai_Le", "Tale", .ofTable "1950-196D 1970-1974", .ofTable "300-301 307-308 30C 1040-1049"⟩,
  ⟨"Tai_Tham", "Lana", .ofTable "1A20-1A5E 1A60-1A7C 1A7F-1A89 1A90-1A99 1AA0-1AAD", .empty⟩,
  ⟨"Tai_Viet", "Tavt", .ofTable "AA80-AAC2 AADB-AADF", .empty⟩,
  ⟨"Tai_Yo", "Tayo", .ofTable "1E6C0-1E6DE 1E6E0-1E6F5 1E6FE-1E6FF", .empty⟩,
  ⟨"Takri", "Takr", .ofTable "11680-116B9 116C0-116C9", .ofTable "964-965 A830-A839"⟩,
  ⟨"Tamil", "Taml", .ofTable "
    B82-B83 B85-B8A B8E-B90 B92-B95 B99-B9A B9C B9E-B9F BA3-BA4 BA8-BAA BAE-BB9 BBE-BC2 BC6-BC8
    BCA-BCD BD0 BD7 BE6-BFA 11FC0-11FF1 11FFF",
    .ofTable "951-952 964-965 1CDA A8F3 11301 11303 1133B-1133C"⟩,
  ⟨"Tangsa", "Tnsa", .ofTable "16A70-16ABE 16AC0-16AC9", .empty⟩,
  ⟨"Tangut", "Tang", .ofTable "16FE0 17000-18AFF 18D00-18D1E 18D80-18DF2",
    .ofTable "2FF0-2FFF 31EF"⟩,
  ⟨"Telugu", "Telu", .ofTable "
    C00-C0C C0E-C10 C12-C28 C2A-C39 C3C-C44 C46-C48 C4A-C4D C55-C56 C58-C5A C5C-C5D C60-C63
    C66-C6F C77-C7F", .ofTable "951-952 964-965 1CD5-1CD6 1CD8 1CDA 1CF2"⟩,
  ⟨"Thaana", "Thaa", .ofTable "780-7B1", .ofTable "60C 61B-61C 61F 660-669 FDF2 FDFD"⟩,
  ⟨"Thai", "Thai", .ofTable "E01-E3A E40-E5B", .ofTable "2BC 2D7 303 331"⟩,
  ⟨"Tibetan", "Tibt", .ofTable "F00-F47 F49-F6C F71-F97 F99-FBC FBE-FCC FCE-FD4 FD9-FDA",
    .ofTable "3008-300B"⟩,
  ⟨"Tifinagh", "Tfng", .ofTable "2D30-2D67 2D6F-2D70 2D7F", .ofTable "302 304 306-309 323"⟩,
  ⟨"Tirhuta", "Tirh", .ofTable "11480-114C7 114D0-114D9",
    .ofTable "951-952 964-965 1CD5 1CE2 1CF2 A830-A839"⟩,
  ⟨"Todhri", "Todr", .ofTable "105C0-105F3", .ofTable "301 304 307 311 313 35E"⟩,
  ⟨"Tolong_Siki", "Tols", .ofTable "11DB0-11DDB 11DE0-11DE9", .empty⟩,
  ⟨"Toto", "Toto", .ofTable "1E290-1E2AE", .ofTable "2BC"⟩,
  ⟨"Tulu_Tigalari", "Tutg", .ofTable "
    11380-11389 1138B 1138E 11390-113B5 113B7-113C0 113C2 113C5 113C7-113CA 113CC-113D5
    113D7-113D8 113E1-113E2", .ofTable "CE6-CEF 1CF2 1CF4 A830-A835 A8F1"⟩,
  ⟨"Ugaritic", "Ugar", .ofTable "10380-1039D 1039F", .empty⟩,
  ⟨"Unknown", "Zzzz", .ofTable "
    378-379 380-383 38B 38D 3A2 530 557-558 58B-58C 590 5C8-5CF 5EB-5EE 5F5-5FF 70E 74B-74C
    7B2-7BF 7FB-7FC 82E-82F 83F 85C-85D 85F 86B-86F 892-896 984 98D-98E 991-992 9A9 9B1 9B3-9B5
    9BA-9BB 9C5-9C6 9C9-9CA 9CF-9D6 9D8-9DB 9DE 9E4-9E5 9FF-A00 A04 A0B-A0E A11-A12 A29 A31 A34
    A37 A3A-A3B A3D A43-A46 A49-A4A A4E-A50 A52-A58 A5D A5F-A65 A77-A80 A84 A8E A92 AA9 AB1 AB4
    ABA-ABB AC6 ACA ACE-ACF AD1-ADF AE4-AE5 AF2-AF8 B00 B04 B0D-B0E B11-B12 B29 B31 B34 B3A-B3B
    B45-B46 B49-B4A B4E-B54 B58-B5B B5E B64-B65 B78-B81 B84 B8B-B8D B91 B96-B98 B9B B9D BA0-BA2
    BA5-BA7 BAB-BAD BBA-BBD BC3-BC5 BC9 BCE-BCF BD1-BD6 BD8-BE5 BFB-BFF C0D C11 C29 C3A-C3B C45
    C49 C4E-C54 C57 C5B C5E-C5F C64-C65 C70-C76 C8D C91 CA9 CB4 CBA-CBB CC5 CC9 CCE-CD4 CD7-CDB
    CDF CE4-CE5 CF0 CF4-CFF D0D D11 D45 D49 D50-D53 D64-D65 D80 D84 D97-D99 DB2 DBC DBE-DBF
    DC7-DC9 DCB-DCE DD5 DD7 DE0-DE5 DF0-DF1 DF5-E00 E3B-E3E E5C-E80 E83 E85 E8B EA4 EA6 EBE-EBF
    EC5 EC7 ECF EDA-EDB EE0-EFF F48 F6D-F70 F98 FBD FCD FDB-FFF 10C6 10C8-10CC 10CE-10CF 1249
    124E-124F 1257 1259 125E-125F 1289 128E-128F 12B1 12B6-12B7 12BF 12C1 12C6-12C7 12D7 1311
    1316-1317 135B-135C 137D-137F 139A-139F 13F6-13F7 13FE-13FF 169D-169F 16F9-16FF 1716-171E
    1737-173F 1754-175F 176D 1771 1774-177F 17DE-17DF 17EA-17EF 17FA-17FF 181A-181F 1879-187F
    18AB-18AF 18F6-18FF 191F 192C-192F 193C-193F 1941-1943 196E-196F 1975-197F 19AC-19AF 19CA-19CF
    19DB-19DD 1A1C-1A1D 1A5F 1A7D-1A7E 1A8A-1A8F 1A9A-1A9F 1AAE-1AAF 1ADE-1ADF 1AEC-1AFF 1B4D
    1BF4-1BFB 1C38-1C3A 1C4A-1C4C 1C8B-1C8F 1CBB-1CBC 1CC8-1CCF 1CFB-1CFF 1F16-1F17 1F1E-1F1F
    1F46-1F47 1F4E-1F4F 1F58 1F5A 1F5C 1F5E 1F7E-1F7F 1FB5 1FC5 1FD4-1FD5 1FDC 1FF0-1FF1 1FF5 1FFF
    2065 2072-2073 208F 209D-209F 20C2-20CF 20F1-20FF 218C-218F 242A-243F 244B-245F 2B74-2B75
    2CF4-2CF8 2D26 2D28-2D2C 2D2E-2D2F 2D68-2D6E 2D71-2D7E 2D97-2D9F 2DA7 2DAF 2DB7 2DBF 2DC7 2DCF
    2DD7 2DDF 2E5E-2E7F 2E9A 2EF4-2EFF 2FD6-2FEF 3040 3097-3098 3100-3104 3130 318F 31E6-31EE 321F
    A48D-A48F A4C7-A4CF A62C-A63F A6F8-A6FF A7DD-A7F0 A82D-A82F A83A-A83F A878-A87F A8C6-A8CD
    A8DA-A8DF A954-A95E A97D-A97F A9CE A9DA-A9DD A9FF AA37-AA3F AA4E-AA4F AA5A-AA5B AAC3-AADA
    AAF7-AB00 AB07-AB08 AB0F-AB10 AB17-AB1F AB27 AB2F AB6C-AB6F ABEE-ABEF ABFA-ABFF D7A4-D7AF
    D7C7-D7CA D7FC-D7FF E000-F8FF FA6E-FA6F FADA-FAFF FB07-FB12 FB18-FB1C FB37 FB3D FB3F FB42 FB45
    FDD0-FDEF FE1A-FE1F FE53 FE67 FE6C-FE6F FE75 FEFD-FEFE FF00 FFBF-FFC1 FFC8-FFC9 FFD0-FFD1
    FFD8-FFD9 FFDD-FFDF FFE7 FFEF-FFF8 FFFE-FFFF 1000C 10027 1003B 1003E 1004E-1004F 1005E-1007F
    100FB-100FF 10103-10106 10134-10136 1018F 1019D-1019F 101A1-101CF 101FE-1027F 1029D-1029F
    102D1-102DF 102FC-102FF 10324-1032C 1034B-1034F 1037B-1037F 1039E 103C4-103C7 103D6-103FF
    1049E-1049F 104AA-104AF 104D4-104D7 104FC-104FF 10528-1052F 10564-1056E 1057B 1058B 10593
    10596 105A2 105B2 105BA 105BD-105BF 105F4-105FF 10737-1073F 10756-1075F 10768-1077F 10786
    107B1 107BB-107FF 10806-10807 10809 10836 10839-1083B 1083D-1083E 10856 1089F-108A6
    108B0-108DF 108F3 108F6-108FA 1091C-1091E 1093A-1093E 1095A-1097F 109B8-109BB 109D0-109D1
    10A04 10A07-10A0B 10A14 10A18 10A36-10A37 10A3B-10A3E 10A49-10A4F 10A59-10A5F 10AA0-10ABF
    10AE7-10AEA 10AF7-10AFF 10B36-10B38 10B56-10B57 10B73-10B77 10B92-10B98 10B9D-10BA8
    10BB0-10BFF 10C49-10C7F 10CB3-10CBF 10CF3-10CF9 10D28-10D2F 10D3A-10D3F 10D66-10D68
    10D86-10D8D 10D90-10E5F 10E7F 10EAA 10EAE-10EAF 10EB2-10EC1 10EC8-10ECF 10ED9-10EF9
    10F28-10F2F 10F5A-10F6F 10F8A-10FAF 10FCC-10FDF 10FF7-10FFF 1104E-11051 11076-1107E
    110C3-110CC 110CE-110CF 110E9-110EF 110FA-110FF 11135 11148-1114F 11177-1117F 111E0
    111F5-111FF 11212 11242-1127F 11287 11289 1128E 1129E 112AA-112AF 112EB-112EF 112FA-112FF
    11304 1130D-1130E 11311-11312 11329 11331 11334 1133A 11345-11346 11349-1134A 1134E-1134F
    11351-11356 11358-1135C 11364-11365 1136D-1136F 11375-1137F 1138A 1138C-1138D 1138F 113B6
    113C1 113C3-113C4 113C6 113CB 113D6 113D9-113E0 113E3-113FF 1145C 11462-1147F 114C8-114CF
    114DA-1157F 115B6-115B7 115DE-115FF 11645-1164F 1165A-1165F 1166D-1167F 116BA-116BF
    116CA-116CF 116E4-116FF 1171B-1171C 1172C-1172F 11747-117FF 1183C-1189F 118F3-118FE
    11907-11908 1190A-1190B 11914 11917 11936 11939-1193A 11947-1194F 1195A-1199F 119A8-119A9
    119D8-119D9 119E5-119FF 11A48-11A4F 11AA3-11AAF 11AF9-11AFF 11B0A-11B5F 11B68-11BBF
    11BE2-11BEF 11BFA-11BFF 11C09 11C37 11C46-11C4F 11C6D-11C6F 11C90-11C91 11CA8 11CB7-11CFF
    11D07 11D0A 11D37-11D39 11D3B 11D3E 11D48-11D4F 11D5A-11D5F 11D66 11D69 11D8F 11D92
    11D99-11D9F 11DAA-11DAF 11DDC-11DDF 11DEA-11EDF 11EF9-11EFF 11F11 11F3B-11F3D 11F5B-11FAF
    11FB1-11FBF 11FF2-11FFE 1239A-123FF 1246F 12475-1247F 12544-12F8F 12FF3-12FFF 13456-1345F
    143FB-143FF 14647-160FF 1613A-167FF 16A39-16A3F 16A5F 16A6A-16A6D 16ABF 16ACA-16ACF
    16AEE-16AEF 16AF6-16AFF 16B46-16B4F 16B5A 16B62 16B78-16B7C 16B90-16D3F 16D7A-16E3F
    16E9B-16E9F 16EB9-16EBA 16ED4-16EFF 16F4B-16F4E 16F88-16F8E 16FA0-16FDF 16FE5-16FEF
    16FF7-16FFF 18CD6-18CFE 18D1F-18D7F 18DF3-1AFEF 1AFF4 1AFFC 1AFFF 1B123-1B131 1B133-1B14F
    1B153-1B154 1B156-1B163 1B168-1B16F 1B2FC-1BBFF 1BC6B-1BC6F 1BC7D-1BC7F 1BC89-1BC8F
    1BC9A-1BC9B 1BCA4-1CBFF 1CCFD-1CCFF 1CEB4-1CEB9 1CED1-1CEDF 1CEF1-1CEFF 1CF2E-1CF2F
    1CF47-1CF4F 1CFC4-1CFFF 1D0F6-1D0FF 1D127-1D128 1D1EB-1D1FF 1D246-1D2BF 1D2D4-1D2DF
    1D2F4-1D2FF 1D357-1D35F 1D379-1D3FF 1D455 1D49D 1D4A0-1D4A1 1D4A3-1D4A4 1D4A7-1D4A8 1D4AD
    1D4BA 1D4BC 1D4C4 1D506 1D50B-1D50C 1D515 1D51D 1D53A 1D53F 1D545 1D547-1D549 1D551
    1D6A6-1D6A7 1D7CC-1D7CD 1DA8C-1DA9A 1DAA0 1DAB0-1DEFF 1DF1F-1DF24 1DF2B-1DFFF 1E007
    1E019-1E01A 1E022 1E025 1E02B-1E02F 1E06E-1E08E 1E090-1E0FF 1E12D-1E12F 1E13E-1E13F
    1E14A-1E14D 1E150-1E28F 1E2AF-1E2BF 1E2FA-1E2FE 1E300-1E4CF 1E4FA-1E5CF 1E5FB-1E5FE
    1E600-1E6BF 1E6DF 1E6F6-1E6FD 1E700-1E7DF 1E7E7 1E7EC 1E7EF 1E7FF 1E8C5-1E8C6 1E8D7-1E8FF
    1E94C-1E94F 1E95A-1E95D 1E960-1EC70 1ECB5-1ED00 1ED3E-1EDFF 1EE04 1EE20 1EE23 1EE25-1EE26
    1EE28 1EE33 1EE38 1EE3A 1EE3C-1EE41 1EE43-1EE46 1EE48 1EE4A 1EE4C 1EE50 1EE53 1EE55-1EE56
    1EE58 1EE5A 1EE5C 1EE5E 1EE60 1EE63 1EE65-1EE66 1EE6B 1EE73 1EE78 1EE7D 1EE7F 1EE8A
    1EE9C-1EEA0 1EEA4 1EEAA 1EEBC-1EEEF 1EEF2-1EFFF 1F02C-1F02F 1F094-1F09F 1F0AF-1F0B0 1F0C0
    1F0D0 1F0F6-1F0FF 1F1AE-1F1E5 1F203-1F20F 1F23C-1F23F 1F249-1F24F 1F252-1F25F 1F266-1F2FF
    1F6D9-1F6DB 1F6ED-1F6EF 1F6FD-1F6FF 1F7DA-1F7DF 1F7EC-1F7EF 1F7F1-1F7FF 1F80C-1F80F
    1F848-1F84F 1F85A-1F85F 1F888-1F88F 1F8AE-1F8AF 1F8BC-1F8BF 1F8C2-1F8CF 1F8D9-1F8FF
    1FA58-1FA5F 1FA6E-1FA6F 1FA7D-1FA7F 1FA8B-1FA8D 1FAC7 1FAC9-1FACC 1FADD-1FADE 1FAEB-1FAEE
    1FAF9-1FAFF 1FB93 1FBFB-1FFFF 2A6E0-2A6FF 2B81E-2B81F 2CEAE-2CEAF 2EBE1-2EBEF 2EE5E-2F7FF
    2FA1E-2FFFF 3134B-3134F 3347A-E0000 E0002-E001F E0080-E00FF E01F0-10FFFF", .empty⟩,
  ⟨"Vai", "Vaii", .ofTable "A500-A62B", .empty⟩,
  ⟨"Vithkuqi", "Vith", .ofTable "
    10570-1057A 1057C-1058A 1058C-10592 10594-10595 10597-105A1 105A3-105B1 105B3-105B9
    105BB-105BC", .empty⟩,
  ⟨"Wancho", "Wcho", .ofTable "1E2C0-1E2F9 1E2FF", .empty⟩,
  ⟨"Warang_Citi", "Wara", .ofTable "118A0-118F2 118FF", .empty⟩,
  ⟨"Yezidi", "Yezi", .ofTable "10E80-10EA9 10EAB-10EAD 10EB0-10EB1",
    .ofTable "60C 61B 61F 660-669"⟩,
  ⟨"Yi", "Yiii", .ofTable "A000-A48C A490-A4C6",
    .ofTable "3001-3002 3008-3011 3014-301B 30FB FF61-FF65"⟩,
  ⟨"Zanabazar_Square", "Zanb", .ofTable "11A00-11A47", .empty⟩]

def all : List Script := firstQuarter ++ secondQuarter ++ thirdQuarter ++ fourthQuarter

end Script

end SliceContract
