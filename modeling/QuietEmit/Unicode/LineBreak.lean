/-
  QuietEmit.Unicode.LineBreak

  Where a line of text may be broken, by the line breaking rules of the Unicode
  standard: characters have classes, and the rules look at the classes on both
  sides of a place. A character in no table counts as a letter.
-/
import QuietEmit.Unicode.Width

namespace QuietEmit.Unicode

/-- Classes of characters. -/
inductive LineClass where
  | letter
  | hebrew
  | digit
  | space
  | zeroWidthSpace
  /-- Ends a line by itself. -/
  | lineEnd
  | mark
  | joiner
  | wordJoiner
  | glue
  | openBracket
  | closeBracket
  /-- Closing round and square brackets. -/
  | closeParenthesis
  | quote
  | exclamation
  /-- Separators within numbers. -/
  | numberSeparator
  /-- The slash. -/
  | slash
  | hyphen
  | breakAfter
  | breakBefore
  | dash
  /-- Objects, with breaks on both sides. -/
  | contingent
  | inseparable
  | nonStarter
  | beforeNumber
  | afterNumber
  | ideograph
  | emojiBase
  | emojiModifier
  | leadingJamo
  | vowelJamo
  | trailingJamo
  /-- Syllables that a trailing jamo may close. -/
  | openSyllable
  | closedSyllable
  | flag
deriving DecidableEq, Repr, Inhabited

namespace LineClass

/-- Classes of ASCII characters other than letters, digits and controls. -/
def ofAscii (c : Char) : LineClass :=
  match c with
  | ' ' => .space
  | '\n' | '\x0b' | '\x0c' | '\r' => .lineEnd
  | '\t' | '|' => .breakAfter
  | '!' | '?' => .exclamation
  | '"' | '\'' => .quote
  | '$' | '+' | '\\' => .beforeNumber
  | '%' => .afterNumber
  | '(' | '[' | '\x7b' => .openBracket
  | ')' | ']' => .closeParenthesis
  | '\x7d' => .closeBracket
  | ',' | '.' | ':' | ';' => .numberSeparator
  | '-' => .hyphen
  | '/' => .slash
  | _ => if c.isDigit then .digit else if c.toNat < 32 || c.toNat == 127 then .mark else .letter

/-- Classes beyond ASCII, by tables. Of two tables with a character the first counts. -/
def tables : List (LineClass × List Range) := [
  (.lineEnd, decode [
    "85 2028-2029"]),
  (.zeroWidthSpace, decode [
    "200B"]),
  (.joiner, decode [
    "200D"]),
  (.wordJoiner, decode [
    "2060 FEFF"]),
  (.glue, decode [
    "A0 34F 35C-362 F08 F0C F12 FD9-FDA 180E 1DCD 1DFC 2007 2011 202F 13430-13436",
    "13439-1343B 16FE4"]),
  (.breakAfter, decode [
    "AD 58A 5BE 964-965 E5A-E5B F0B F34 F7F F85 FBE-FBF FD2 104A-104B 1361 1400 1680",
    "16EB-16ED 1735-1736 17D4-17D5 17D8 17DA 1804-1805 1B5A-1B5B 1B5D-1B60 1B7D-1B7E",
    "1C3B-1C3F 1C7E-1C7F 2000-2006 2008-200A 2010 2012-2013 2027 2056 2058-205B 205D-205F",
    "2CFA-2CFC 2CFF 2D70 2E0E-2E15 2E17 2E19 2E2A-2E2D 2E30-2E31 2E33-2E34 2E3C-2E3E",
    "2E40-2E41 2E43-2E4A 2E4C 2E4E-2E4F 2E5D 3000 A4FE-A4FF A60D A60F A6F3-A6F7 A8CE-A8CF",
    "A92E-A92F A9C7-A9C9 AA5D-AA5F AAF0-AAF1 ABEB 10100-10102 1039F 103D0 10857 1091F",
    "10A50-10A57 10AF0-10AF5 10B39-10B3F 10EAD 11047-11048 110BE-110C1 11140-11143",
    "111C5-111C6 111C8 111DD-111DF 11238-11239 1123B-1123C 112A9 1144B-1144E 1145A-1145B",
    "115C2-115C3 115C9-115D7 11641-11642 1173C-1173E 11944-11946 11A41-11A44 11A9A-11A9C",
    "11AA1-11AA2 11C41-11C45 11F43-11F44 11FFF 12470-12474 16A6E-16A6F 16AF5 16B37-16B39",
    "16B44 16E97-16E98 1BC9F 1DA87-1DA8A"]),
  (.breakBefore, decode [
    "B4 2C8 2CC 2DF C77 C84 F01-F04 F06-F07 F09-F0A FD0-FD1 FD3 1806 1FFD A874-A875 A8FC",
    "11175 111DB 115C1 11660-1166C 119E2 11A3F 11A45 11A9E-11AA0 11B00-11B09 11C70"]),
  (.dash, decode [
    "2014 2E3A-2E3B"]),
  (.contingent, decode [
    "FFFC"]),
  (.inseparable, decode [
    "2024-2026 22EF FE19 10AF6"]),
  (.quote, decode [
    "AB BB 2018-2019 201B-201D 201F 2039-203A 275B-2760 2E00-2E0D 2E1C-2E1D 2E20-2E21",
    "1F676-1F678"]),
  (.openBracket, decode [
    "A1 BF F3A F3C 169B 201A 201E 2045 207D 208D 2308 230A 2329 2768-2774/2 27C5 27E6-27EE/2",
    "2983-2997/2 29D8 29DA 29FC 2E18 2E22-2E28/2 2E42 2E55-2E5B/2 3008-3010/2 3014-301A/2",
    "301D FD3F FE17 FE35-FE43/2 FE47 FE59-FE5D/2 FF08 FF3B FF5B FF5F FF62 13258-1325A 13286",
    "13288 13379 13437 1343C 1343E 145CE 1E95E-1E95F"]),
  (.closeBracket, decode [
    "F3B F3D 169C 2046 207E 208E 2309 230B 232A 2769-2775/2 27C6 27E7-27EF/2 2984-2998/2",
    "29D9 29DB 29FD 2E23-2E29/2 2E56-2E5C/2 3001-3002 3009-3011/2 3015-301B/2 301E-301F FD3E",
    "FE11-FE12 FE18 FE36-FE44/2 FE48 FE50 FE52 FE5A-FE5E/2 FF09 FF0C FF0E FF3D FF5D",
    "FF60-FF61 FF63-FF64 1325B-1325D 13282 13287 13289 1337A-1337B 13438 1343D 1343F 145CF"]),
  (.exclamation, decode [
    "5C6 61B 61D-61F 6D4 7F9 F0D-F11 F14 1802-1803 1808-1809 1944-1945 2762-2763 2CF9 2CFE",
    "2E2E 2E53-2E54 A60E A876-A877 FE15-FE16 FE56-FE57 FF01 FF1F 115C4-115C5 11C71"]),
  (.numberSeparator, decode [
    "37E 589 60C-60D 7F8 2044 FE10 FE13-FE14"]),
  (.beforeNumber, decode [
    "A3-A5 B1 58F 7FE-7FF 9FB AF1 BF9 E3F 17DB 20A0-20A6 20A8-20B5 20B7-20BA 20BC-20BD 20BF",
    "20C1-20CF 2116 2212-2213 FE69 FF04 FFE1 FFE5-FFE6 1E2FF"]),
  (.afterNumber, decode [
    "A2 B0 609-60B 66A 9F2-9F3 9F9 D79 2030-2037 2057 20A7 20B6 20BB 20BE 20C0 2103 2109",
    "A838 FDFC FE6A FF05 FFE0 11FDD-11FE0 1ECAC 1ECB0"]),
  (.nonStarter, decode [
    "17D6 203C-203D 2047-2049 3005 301C 303B-303C 3041-3049/2 3063 3083-3087/2 308E",
    "3095-3096 309B-309E 30A0-30A1 30A3-30A9/2 30C3 30E3-30E7/2 30EE 30F5-30F6 30FB-30FE",
    "31F0-31FF A015 FE54-FE55 FF1A-FF1B FF65 FF67-FF70 FF9E-FF9F 16FE0-16FE3 1B132",
    "1B150-1B152 1B155 1B164-1B167 1F679-1F67B"]),
  (.digit, decode [
    "660-669 66B-66C 6F0-6F9 7C0-7C9 966-96F 9E6-9EF A66-A6F AE6-AEF B66-B6F BE6-BEF C66-C6F",
    "CE6-CEF D66-D6F DE6-DEF E50-E59 ED0-ED9 F20-F29 1040-1049 1090-1099 17E0-17E9 1810-1819",
    "1946-194F 19D0-19D9 1A80-1A89 1A90-1A99 1B50-1B59 1BB0-1BB9 1C40-1C49 1C50-1C59",
    "A620-A629 A8D0-A8D9 A900-A909 A9D0-A9D9 A9F0-A9F9 AA50-AA59 ABF0-ABF9 104A0-104A9",
    "10D30-10D39 11066-1106F 110F0-110F9 11136-1113F 111D0-111D9 112F0-112F9 11450-11459",
    "114D0-114D9 11650-11659 116C0-116C9 11730-11739 118E0-118E9 11950-11959 11C50-11C59",
    "11D50-11D59 11DA0-11DA9 11F50-11F59 16A60-16A69 16AC0-16AC9 16B50-16B59 1D7CE-1D7FF",
    "1E140-1E149 1E2F0-1E2F9 1E4F0-1E4F9 1E950-1E959 1FBF0-1FBF9"]),
  (.flag, decode [
    "1F1E6-1F1FF"]),
  (.hebrew, decode [
    "5D0-5EA 5EF-5F2 FB1D FB1F-FB28 FB2A-FB36 FB38-FB3C FB3E FB40-FB41 FB43-FB44 FB46-FB4F"]),
  (.leadingJamo, decode [
    "1100-115F A960-A97C"]),
  (.vowelJamo, decode [
    "1160-11A7 D7B0-D7C6"]),
  (.trailingJamo, decode [
    "11A8-11FF D7CB-D7FB"]),
  (.openSyllable, decode [
    "AC00 AC1C AC38 AC54 AC70 AC8C ACA8 ACC4 ACE0 ACFC AD18 AD34 AD50 AD6C AD88 ADA4 ADC0",
    "ADDC ADF8 AE14 AE30 AE4C AE68 AE84 AEA0 AEBC AED8 AEF4 AF10 AF2C AF48 AF64 AF80 AF9C",
    "AFB8 AFD4 AFF0 B00C B028 B044 B060 B07C B098 B0B4 B0D0 B0EC B108 B124 B140 B15C B178",
    "B194 B1B0 B1CC B1E8 B204 B220 B23C B258 B274 B290 B2AC B2C8 B2E4 B300 B31C B338 B354",
    "B370 B38C B3A8 B3C4 B3E0 B3FC B418 B434 B450 B46C B488 B4A4 B4C0 B4DC B4F8 B514 B530",
    "B54C B568 B584 B5A0 B5BC B5D8 B5F4 B610 B62C B648 B664 B680 B69C B6B8 B6D4 B6F0 B70C",
    "B728 B744 B760 B77C B798 B7B4 B7D0 B7EC B808 B824 B840 B85C B878 B894 B8B0 B8CC B8E8",
    "B904 B920 B93C B958 B974 B990 B9AC B9C8 B9E4 BA00 BA1C BA38 BA54 BA70 BA8C BAA8 BAC4",
    "BAE0 BAFC BB18 BB34 BB50 BB6C BB88 BBA4 BBC0 BBDC BBF8 BC14 BC30 BC4C BC68 BC84 BCA0",
    "BCBC BCD8 BCF4 BD10 BD2C BD48 BD64 BD80 BD9C BDB8 BDD4 BDF0 BE0C BE28 BE44 BE60 BE7C",
    "BE98 BEB4 BED0 BEEC BF08 BF24 BF40 BF5C BF78 BF94 BFB0 BFCC BFE8 C004 C020 C03C C058",
    "C074 C090 C0AC C0C8 C0E4 C100 C11C C138 C154 C170 C18C C1A8 C1C4 C1E0 C1FC C218 C234",
    "C250 C26C C288 C2A4 C2C0 C2DC C2F8 C314 C330 C34C C368 C384 C3A0 C3BC C3D8 C3F4 C410",
    "C42C C448 C464 C480 C49C C4B8 C4D4 C4F0 C50C C528 C544 C560 C57C C598 C5B4 C5D0 C5EC",
    "C608 C624 C640 C65C C678 C694 C6B0 C6CC C6E8 C704 C720 C73C C758 C774 C790 C7AC C7C8",
    "C7E4 C800 C81C C838 C854 C870 C88C C8A8 C8C4 C8E0 C8FC C918 C934 C950 C96C C988 C9A4",
    "C9C0 C9DC C9F8 CA14 CA30 CA4C CA68 CA84 CAA0 CABC CAD8 CAF4 CB10 CB2C CB48 CB64 CB80",
    "CB9C CBB8 CBD4 CBF0 CC0C CC28 CC44 CC60 CC7C CC98 CCB4 CCD0 CCEC CD08 CD24 CD40 CD5C",
    "CD78 CD94 CDB0 CDCC CDE8 CE04 CE20 CE3C CE58 CE74 CE90 CEAC CEC8 CEE4 CF00 CF1C CF38",
    "CF54 CF70 CF8C CFA8 CFC4 CFE0 CFFC D018 D034 D050 D06C D088 D0A4 D0C0 D0DC D0F8 D114",
    "D130 D14C D168 D184 D1A0 D1BC D1D8 D1F4 D210 D22C D248 D264 D280 D29C D2B8 D2D4 D2F0",
    "D30C D328 D344 D360 D37C D398 D3B4 D3D0 D3EC D408 D424 D440 D45C D478 D494 D4B0 D4CC",
    "D4E8 D504 D520 D53C D558 D574 D590 D5AC D5C8 D5E4 D600 D61C D638 D654 D670 D68C D6A8",
    "D6C4 D6E0 D6FC D718 D734 D750 D76C D788"]),
  (.closedSyllable, decode [
    "AC00-D7A3"]),
  (.emojiBase, decode [
    "261D 26F9 270A-270D 1F385 1F3C2-1F3C4 1F3C7 1F3CA-1F3CC 1F442-1F443 1F446-1F450",
    "1F466-1F478 1F47C 1F481-1F483 1F485-1F487 1F48F 1F491 1F4AA 1F574-1F575 1F57A 1F590",
    "1F595-1F596 1F645-1F647 1F64B-1F64F 1F6A3 1F6B4-1F6B6 1F6C0 1F6CC 1F90C 1F90F",
    "1F918-1F91F 1F926 1F930-1F939 1F93C-1F93E 1F977 1F9B5-1F9B6 1F9B8-1F9B9 1F9BB",
    "1F9CD-1F9CF 1F9D1-1F9DD 1FAC3-1FAC5 1FAF0-1FAF8"]),
  (.emojiModifier, decode [
    "1F3FB-1F3FF"]),
  (.mark, decode [
    "80-84 86-9F 300-34E 350-35B 363-36F 483-489 591-5BD 5BF 5C1-5C2 5C4-5C5 5C7 610-61A 61C",
    "64B-65F 670 6D6-6DC 6DF-6E4 6E7-6E8 6EA-6ED 711 730-74A 7A6-7B0 7EB-7F3 7FD 816-819",
    "81B-823 825-827 829-82D 859-85B 898-89F 8CA-8E1 8E3-903 93A-93C 93E-94F 951-957 962-963",
    "981-983 9BC 9BE-9C4 9C7-9C8 9CB-9CD 9D7 9E2-9E3 9FE A01-A03 A3C A3E-A42 A47-A48 A4B-A4D",
    "A51 A70-A71 A75 A81-A83 ABC ABE-AC5 AC7-AC9 ACB-ACD AE2-AE3 AFA-AFF B01-B03 B3C B3E-B44",
    "B47-B48 B4B-B4D B55-B57 B62-B63 B82 BBE-BC2 BC6-BC8 BCA-BCD BD7 C00-C04 C3C C3E-C44",
    "C46-C48 C4A-C4D C55-C56 C62-C63 C81-C83 CBC CBE-CC4 CC6-CC8 CCA-CCD CD5-CD6 CE2-CE3 CF3",
    "D00-D03 D3B-D3C D3E-D44 D46-D48 D4A-D4D D57 D62-D63 D81-D83 DCA DCF-DD4 DD6 DD8-DDF",
    "DF2-DF3 E31 E34-E3A E47-E4E EB1 EB4-EBC EC8-ECE F18-F19 F35-F39/2 F3E-F3F F71-F7E",
    "F80-F84 F86-F87 F8D-F97 F99-FBC FC6 102B-103E 1056-1059 105E-1060 1062-1064 1067-106D",
    "1071-1074 1082-108D 108F 109A-109D 135D-135F 1712-1715 1732-1734 1752-1753 1772-1773",
    "17B4-17D3 17DD 180B-180D 180F 1885-1886 18A9 1920-192B 1930-193B 1A17-1A1B 1A55-1A5E",
    "1A60-1A7C 1A7F 1AB0-1ACE 1B00-1B04 1B34-1B44 1B6B-1B73 1B80-1B82 1BA1-1BAD 1BE6-1BF3",
    "1C24-1C37 1CD0-1CD2 1CD4-1CE8 1CED 1CF4 1CF7-1CF9 1DC0-1DCC 1DCE-1DFB 1DFD-1DFF 200C",
    "200E-200F 202A-202E 2066-206F 20D0-20F0 2CEF-2CF1 2D7F 2DE0-2DFF 302A-302F 3035",
    "3099-309A A66F-A672 A674-A67D A69E-A69F A6F0-A6F1 A802 A806 A80B A823-A827 A82C",
    "A880-A881 A8B4-A8C5 A8E0-A8F1 A8FF A926-A92D A947-A953 A980-A983 A9B3-A9C0 A9E5",
    "AA29-AA36 AA43 AA4C-AA4D AA7B-AA7D AAB0 AAB2-AAB4 AAB7-AAB8 AABE-AABF AAC1 AAEB-AAEF",
    "AAF5-AAF6 ABE3-ABEA ABEC-ABED FB1E FE00-FE0F FE20-FE2F FFF9-FFFB 101FD 102E0",
    "10376-1037A 10A01-10A03 10A05-10A06 10A0C-10A0F 10A38-10A3A 10A3F 10AE5-10AE6",
    "10D24-10D27 10EAB-10EAC 10EFD-10EFF 10F46-10F50 10F82-10F85 11000-11002 11038-11046",
    "11070 11073-11074 1107F-11082 110B0-110BA 110C2 11100-11102 11127-11134 11145-11146",
    "11173 11180-11182 111B3-111C0 111C9-111CC 111CE-111CF 1122C-11237 1123E 11241",
    "112DF-112EA 11300-11303 1133B-1133C 1133E-11344 11347-11348 1134B-1134D 11357",
    "11362-11363 11366-1136C 11370-11374 11435-11446 1145E 114B0-114C3 115AF-115B5",
    "115B8-115C0 115DC-115DD 11630-11640 116AB-116B7 1171D-1172B 1182C-1183A 11930-11935",
    "11937-11938 1193B-1193E 11940 11942-11943 119D1-119D7 119DA-119E0 119E4 11A01-11A0A",
    "11A33-11A39 11A3B-11A3E 11A47 11A51-11A5B 11A8A-11A99 11C2F-11C36 11C38-11C3F",
    "11C92-11CA7 11CA9-11CB6 11D31-11D36 11D3A 11D3C-11D3D 11D3F-11D45 11D47 11D8A-11D8E",
    "11D90-11D91 11D93-11D97 11EF3-11EF6 11F00-11F01 11F03 11F34-11F3A 11F3E-11F42 13440",
    "13447-13455 16AF0-16AF4 16B30-16B36 16F4F 16F51-16F87 16F8F-16F92 16FF0-16FF1",
    "1BC9D-1BC9E 1BCA0-1BCA3 1CF00-1CF2D 1CF30-1CF46 1D165-1D169 1D16D-1D182 1D185-1D18B",
    "1D1AA-1D1AD 1D242-1D244 1DA00-1DA36 1DA3B-1DA6C 1DA75 1DA84 1DA9B-1DA9F 1DAA1-1DAAF",
    "1E000-1E006 1E008-1E018 1E01B-1E021 1E023-1E024 1E026-1E02A 1E08F 1E130-1E136 1E2AE",
    "1E2EC-1E2EF 1E4EC-1E4EF 1E8D0-1E8D6 1E944-1E94A E0001 E0020-E007F E0100-E01EF"]),
  (.ideograph, decode [
    "231A-231B 23F0-23F3 2600-2603 2614-2615 2618 261A-261C 261E-261F 2639-263B 2668 267F",
    "26BD-26C8 26CD 26CF-26D1 26D3-26D4 26D8-26D9 26DC 26DF-26E1 26EA 26F1-26F5 26F7-26F8",
    "26FA 26FD-2704 2708-2709 2764 2E80-2E99 2E9B-2EF3 2F00-2FD5 2FF0-2FFB 3003-3004",
    "3006-3007 3012-3013 3020-3029 3030-3034 3036-303A 303D-303F 3042-3048/2 304A-3062",
    "3064-3082 3084 3086 3088-308D 308F-3094 309F 30A2-30A8/2 30AA-30C2 30C4-30E2 30E4 30E6",
    "30E8-30ED 30EF-30F4 30F7-30FA 30FF 3105-312F 3131-318E 3190-31E3 3200-321E 3220-3247",
    "3250-4DBF 4E00-A014 A016-A48C A490-A4C6 F900-FAFF FE30-FE34 FE45-FE46 FE49-FE4F FE51",
    "FE58 FE5F-FE66 FE68 FE6B FF02-FF03 FF06-FF07 FF0A-FF0B FF0D FF0F-FF19 FF1C-FF1E",
    "FF20-FF3A FF3C FF3E-FF5A FF5C FF5E FF66 FF71-FF9D FFA0-FFBE FFC2-FFC7 FFCA-FFCF",
    "FFD2-FFD7 FFDA-FFDC FFE2-FFE4 11F45-11F4F 17000-187F7 18800-18AFF 18D00-18D08",
    "1B000-1B122 1B170-1B2FB 1F000-1F0FF 1F10D-1F10F 1F16D-1F16F 1F1AD-1F1E5 1F200-1F384",
    "1F386-1F39B 1F39E-1F3B4 1F3B7-1F3BB 1F3BD-1F3C1 1F3C5-1F3C6 1F3C8-1F3C9 1F3CD-1F3FA",
    "1F400-1F441 1F444-1F445 1F451-1F465 1F479-1F47B 1F47D-1F480 1F484 1F488-1F48E 1F490",
    "1F492-1F49F 1F4A1 1F4A3 1F4A5-1F4A9 1F4AB-1F4AE 1F4B0 1F4B3-1F4FF 1F507-1F516",
    "1F525-1F531 1F54A-1F573 1F576-1F579 1F57B-1F58F 1F591-1F594 1F597-1F5D3 1F5DC-1F5F3",
    "1F5FA-1F644 1F648-1F64A 1F680-1F6A2 1F6A4-1F6B3 1F6B7-1F6BF 1F6C1-1F6CB 1F6CD-1F6FF",
    "1F774-1F77F 1F7D5-1F7FF 1F80C-1F80F 1F848-1F84F 1F85A-1F85F 1F888-1F88F 1F8AE-1F8FF",
    "1F90D-1F90E 1F910-1F917 1F920-1F925 1F927-1F92F 1F93A-1F93B 1F93F-1F976 1F978-1F9B4",
    "1F9B7 1F9BA 1F9BC-1F9CC 1F9D0 1F9DE-1F9FF 1FA54-1FAC2 1FAC6-1FAEF 1FAF9-1FAFF",
    "1FC00-1FFFD 20000-2FFFD 30000-3FFFD"])]

/-- The class of a character. -/
def of (c : Char) : LineClass :=
  if c.toNat < 128 then ofAscii c
  else ((tables.find? fun (_, ranges) => inRanges ranges c).map (·.1)).getD .letter

/-- Letters of any kind. -/
def isLetterClass (k : LineClass) : Bool := k == .letter || k == .hebrew

/-- Ideographs and emoji. -/
def isIdeographClass (k : LineClass) : Bool :=
  k == .ideograph || k == .emojiBase || k == .emojiModifier

/-- Syllables and their parts. -/
def isSyllableClass (k : LineClass) : Bool :=
  [.leadingJamo, .vowelJamo, .trailingJamo, .openSyllable, .closedSyllable].contains k

/-- Whether two syllables, or parts of them, make one. -/
def joinSyllable (a next : LineClass) : Bool :=
  match a with
  | .leadingJamo => [.leadingJamo, .vowelJamo, .openSyllable, .closedSyllable].contains next
  | .vowelJamo | .openSyllable => next == .vowelJamo || next == .trailingJamo
  | .trailingJamo | .closedSyllable => next == .trailingJamo
  | _ => false

end LineClass

open LineClass

/-! ## Rules -/

/-- What stands before a place: the last character that is no space, without the marks after it. -/
structure Before where
  last : LineClass
  /-- Spaces follow it. -/
  spaces : Bool := false
  /-- A joiner ends it. -/
  joined : Bool := false
  /-- It follows a Hebrew letter. -/
  afterHebrew : Bool := false
  /-- It is the first flag of a pair. -/
  oddFlag : Bool := false
deriving Inhabited

namespace Before

/-- A start of text, or of text after something that marks do not join. -/
def start (k : LineClass) : Before :=
  { last := if k == .mark || k == .joiner then .letter else k
    joined := k == .joiner
    oddFlag := k == .flag }

/-- Whether marks join what stands before. -/
def takesMarks (b : Before) : Bool :=
  !b.spaces && b.last != .lineEnd && b.last != .zeroWidthSpace && b.last != .space

/-- Whether a pair of classes without quotes or objects stays together. -/
def holdsInner (b : Before) (next : LineClass) : Bool :=
  let a := b.last
  next == .breakAfter || next == .hyphen || next == .nonStarter || a == .breakBefore ||
  (b.afterHebrew && (a == .hyphen || a == .breakAfter)) ||
  (a == .slash && next == .hebrew) ||
  next == .inseparable ||
  (isLetterClass a && next == .digit) || (a == .digit && isLetterClass next) ||
  (a == .beforeNumber && isIdeographClass next) || (isIdeographClass a && next == .afterNumber) ||
  ((a == .beforeNumber || a == .afterNumber) && isLetterClass next) ||
  (isLetterClass a && (next == .beforeNumber || next == .afterNumber)) ||
  ([.closeBracket, .closeParenthesis, .digit].contains a &&
    (next == .afterNumber || next == .beforeNumber)) ||
  ((a == .afterNumber || a == .beforeNumber) && (next == .openBracket || next == .digit)) ||
  ([.hyphen, .numberSeparator, .digit, .slash].contains a && next == .digit) ||
  joinSyllable a next ||
  (isSyllableClass a && next == .afterNumber) || (a == .beforeNumber && isSyllableClass next) ||
  (isLetterClass a && isLetterClass next) ||
  (a == .numberSeparator && isLetterClass next) ||
  ((isLetterClass a || a == .digit) && next == .openBracket) ||
  (a == .closeParenthesis && (isLetterClass next || next == .digit)) ||
  (a == .flag && b.oddFlag && next == .flag) ||
  (a == .emojiBase && next == .emojiModifier)

/-- Whether a pair that no spaces separate stays together. -/
def holds (b : Before) (next : LineClass) : Bool :=
  let a := b.last
  next == .quote || a == .quote ||
    (a != .contingent && next != .contingent && b.holdsInner next)

/-- Whether a line may be broken between what stands before and the next character. -/
def breaks (b : Before) (next : LineClass) : Bool :=
  let a := b.last
  if a == .lineEnd then true
  else if next == .lineEnd || next == .space || next == .zeroWidthSpace then false
  else if a == .zeroWidthSpace then true
  else if b.joined && !b.spaces then false
  else if (next == .mark || next == .joiner) && b.takesMarks then false
  else
    let next := if next == .mark || next == .joiner then .letter else next
    if next == .wordJoiner || (a == .wordJoiner && !b.spaces) then false
    else if a == .glue && !b.spaces then false
    else if next == .glue && !b.spaces && a != .breakAfter && a != .hyphen then false
    else if [.closeBracket, .closeParenthesis, .exclamation, .numberSeparator, .slash].contains next then
      false
    else if a == .openBracket then false
    else if a == .quote && next == .openBracket then false
    else if (a == .closeBracket || a == .closeParenthesis) && next == .nonStarter then false
    else if a == .dash && next == .dash then false
    else if b.spaces || a == .space then true
    else !b.holds next

/-- What stands before the place after one more character. -/
def step (b : Before) (k : LineClass) : Before :=
  if k == .space then
    if b.last == .lineEnd then start .space else { b with spaces := true, joined := false }
  else if (k == .mark || k == .joiner) && b.takesMarks then { b with joined := k == .joiner }
  else { start k with
    afterHebrew := b.last == .hebrew && !b.spaces
    oddFlag := k == .flag && !(b.last == .flag && b.oddFlag && !b.spaces) }

end Before

/-! ## Parts of a text -/

/-- A text as read so far. -/
structure Parts where
  /-- What stands before the next character, once a character was shown. -/
  before : Option Before := none
  last : Option Char := none
  /-- Characters of control sequences after the last one shown, in reverse. -/
  hidden : List Char := []
  /-- The part that is being read, in reverse. -/
  part : List Char := []
  /-- The parts before it, the later ones first. -/
  done : List (List Char) := []
deriving Inhabited

namespace Parts

/-- One more character: a part ends where a break is allowed, but not after a hyphen. Control
sequences are not looked at, and belong to what follows them. -/
def step (p : Parts) : Bool × Char → Parts
  | (false, c) => { p with hidden := c :: p.hidden }
  | (true, c) =>
    let k := of c
    match p.before with
    | none => { p with before := some (Before.start k), last := some c, hidden := [], part := c :: p.hidden }
    | some b =>
      let after := { p with before := some (b.step k), last := some c, hidden := [] }
      if b.breaks k && p.last != some '-' && p.last != some '\u00ad' then
        { after with part := c :: p.hidden, done := p.part.reverse :: p.done }
      else { after with part := c :: (p.hidden ++ p.part) }

/-- All parts in order. -/
def toList (p : Parts) : List (List Char) :=
  match p.hidden ++ p.part with
  | [] => p.done.reverse
  | part => (part.reverse :: p.done).reverse

end Parts

/-- The parts of a text between the places where it may be broken; none of them ends in a
hyphen before the end of the text. -/
def lineParts (text : List Char) : List (List Char) :=
  ((Escape.outside.marked text).foldl Parts.step {}).toList

end QuietEmit.Unicode
