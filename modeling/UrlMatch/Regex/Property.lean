import UrlMatch.Regex.CharClass
import UrlMatch.Unicode.Character
import UrlMatch.Unicode.Normalization
import UrlMatch.Unicode.PropertyData
import UrlMatch.Unicode.ScriptData

/-!
# Properties of characters

The classes of characters that the Unicode standard defines: general categories, scripts, ages,
and the properties that a character has or has not. Most properties are combinations of categories
and of a few sets without any other definition; only these sets are stored.
-/

namespace UrlMatch.Regex

namespace CharClass

/-- The union of classes. -/
def unions (classes : List CharClass) : CharClass := classes.foldr union none

/-- The class of the code points in a packed table. -/
def packed (words : List Nat) : CharClass := table (Unicode.spans words)

/-! ### Categories, scripts and ages -/

/-- The class of the general categories with the given short names. -/
def categories (names : List String) : CharClass := table (Unicode.categoriesOf names)

/-- The letters. -/
def letter : CharClass := categories ["Lu", "Ll", "Lt", "Lm", "Lo"]

/-- The code points that no character is assigned to. -/
def unassigned : CharClass := compl (union (table Unicode.categorySpans) (range 0xD800 0xDFFF))

/-- The class of the scripts with the given short names. -/
def scripts (names : List String) : CharClass :=
  table ((Unicode.spans Unicode.scriptWords).filter fun s =>
    ((Unicode.scriptNames[s.tag]?).map (·.1)).any (· ∈ names))

/-- The class of the characters that a script uses: those that the table of extensions gives to
it, and its own characters that are not in that table. -/
def scriptExtension (name : String) : CharClass :=
  let extensions := Unicode.spans Unicode.extensionWords
  union (diff (scripts [name]) (table extensions))
    (table (extensions.filter fun s => (Unicode.extensionSets[s.tag]?).any (name ∈ ·)))

/-- The class of the characters of a version of the standard, by its position in `ageNames`:
those that it or an earlier version assigned. -/
def age (i : Nat) : CharClass := table ((Unicode.spans Unicode.ageWords).filter (·.tag ≤ i))

/-! ### Letters and letter case -/

/-- The property Alphabetic. -/
def alphabetic : CharClass := table Unicode.alphabeticSpans

/-- The property Lowercase. -/
def lowercase : CharClass := table Unicode.lowercaseSpans

/-- The property Uppercase. -/
def uppercase : CharClass := table Unicode.uppercaseSpans

/-- The property Ideographic. -/
def ideographic : CharClass := packed Unicode.ideographicWords

/-- The code points that the mapping to lower case changes. -/
def changedByLower : CharClass :=
  diff (union uppercase (categories ["Lt"])) (packed Unicode.withoutLowerWords)

/-- The code points that the mapping to upper case changes. -/
def changedByUpper : CharClass :=
  diff (union lowercase (categories ["Lt"])) (packed Unicode.withoutUpperWords)

/-- The code points that the mapping to title case changes. Georgian letters and the digraphs that
are in title case have an upper case of their own. -/
def changedByTitle : CharClass :=
  diff (union changedByUpper
      (ofRanges [(0x1C4, 0x1C4), (0x1C7, 0x1C7), (0x1CA, 0x1CA), (0x1F1, 0x1F1)]))
    (ofRanges [(0x1C5, 0x1C5), (0x1C8, 0x1C8), (0x1CB, 0x1CB), (0x1F2, 0x1F2), (0x10D0, 0x10FA),
      (0x10FD, 0x10FF), (0x1F88, 0x1F8F), (0x1F98, 0x1F9F), (0x1FA8, 0x1FAF), (0x1FBC, 0x1FBC),
      (0x1FCC, 0x1FCC), (0x1FFC, 0x1FFC)])

/-- The code points that case folding changes. Cherokee letters fold to upper case. -/
def changedByFolding : CharClass :=
  diff (union changedByLower (packed Unicode.onlyFoldedWords)) (range 0x13A0 0x13F5)

/-! ### Blanks, signs and marks -/

/-- The property White_Space. -/
def whiteSpace : CharClass := ofRanges Unicode.blankRanges

/-- The hexadecimal digits of ASCII. -/
def asciiHexDigit : CharClass := ofRanges [(0x30, 0x39), (0x41, 0x46), (0x61, 0x66)]

/-- The property Prepended_Concatenation_Mark. -/
def prependedMark : CharClass :=
  ofRanges [(0x600, 0x605), (0x6DD, 0x6DD), (0x70F, 0x70F), (0x890, 0x891), (0x8E2, 0x8E2),
    (0x110BD, 0x110BD), (0x110CD, 0x110CD)]

/-- The property Variation_Selector. -/
def variationSelector : CharClass :=
  ofRanges [(0x180B, 0x180D), (0x180F, 0x180F), (0xFE00, 0xFE0F), (0xE0100, 0xE01EF)]

/-- The property Other_Default_Ignorable_Code_Point. -/
def otherDefaultIgnorable : CharClass :=
  ofRanges [(0x34F, 0x34F), (0x115F, 0x1160), (0x17B4, 0x17B5), (0x2065, 0x2065),
    (0x3164, 0x3164), (0xFFA0, 0xFFA0), (0xFFF0, 0xFFF8), (0xE0000, 0xE0000),
    (0xE0002, 0xE001F), (0xE0080, 0xE00FF), (0xE01F0, 0xE0FFF)]

/-- The property Default_Ignorable_Code_Point. -/
def defaultIgnorable : CharClass :=
  diff (unions [otherDefaultIgnorable, categories ["Cf"], variationSelector])
    (unions [whiteSpace, prependedMark, range 0xFFF9 0xFFFB, range 0x13430 0x1345F])

/-- The property Grapheme_Extend. -/
def graphemeExtend : CharClass :=
  union (categories ["Mn", "Me"]) (packed Unicode.otherGraphemeExtendWords)

/-- The property Sentence_Terminal. -/
def sentenceTerminal : CharClass := packed Unicode.sentenceTerminalWords

/-- The property Emoji_Modifier. -/
def emojiModifier : CharClass := range 0x1F3FB 0x1F3FF

/-- The property Regional_Indicator. -/
def regionalIndicator : CharClass := range 0x1F1E6 0x1F1FF

/-- The signs that stand between the letters of a word. -/
def midLetter : CharClass :=
  ofRanges [(0x3A, 0x3A), (0xB7, 0xB7), (0x387, 0x387), (0x55F, 0x55F), (0x5F4, 0x5F4),
    (0x2027, 0x2027), (0xFE13, 0xFE13), (0xFE55, 0xFE55), (0xFF1A, 0xFF1A)]

/-- The signs that stand between the letters of a word and between the digits of a number. -/
def midNumLetter : CharClass :=
  ofRanges [(0x2E, 0x2E), (0x2018, 0x2019), (0x2024, 0x2024), (0xFE52, 0xFE52), (0xFF07, 0xFF07),
    (0xFF0E, 0xFF0E)]

/-! ### Identifiers and patterns -/

/-- The property Pattern_White_Space. -/
def patternWhiteSpace : CharClass :=
  ofRanges [(0x9, 0xD), (0x20, 0x20), (0x85, 0x85), (0x200E, 0x200F), (0x2028, 0x2029)]

/-- What belongs to the syntax of patterns. -/
def patternReserved : CharClass := union (packed Unicode.patternSyntaxWords) patternWhiteSpace

/-- The property Other_ID_Start. -/
def otherIdStart : CharClass :=
  ofRanges [(0x1885, 0x1886), (0x2118, 0x2118), (0x212E, 0x212E), (0x309B, 0x309C)]

/-- The property Other_ID_Continue. -/
def otherIdContinue : CharClass :=
  ofRanges [(0xB7, 0xB7), (0x387, 0x387), (0x1369, 0x1371), (0x19DA, 0x19DA), (0x200C, 0x200D),
    (0x30FB, 0x30FB), (0xFF65, 0xFF65)]

/-- The property ID_Start. -/
def idStart : CharClass :=
  diff (unions [letter, categories ["Nl"], otherIdStart]) patternReserved

/-- The property ID_Continue. -/
def idContinue : CharClass :=
  diff (unions [idStart, categories ["Mn", "Mc", "Nd", "Pc"], otherIdContinue]) patternReserved

/-- What may continue an identifier, but may not once the identifier has been normalized. -/
def unstableContinue : CharClass :=
  ofRanges [(0x37A, 0x37A), (0x309B, 0x309C), (0xFC5E, 0xFC63), (0xFDFA, 0xFDFB),
    (0xFE70, 0xFE70), (0xFE72, 0xFE72), (0xFE74, 0xFE74), (0xFE76, 0xFE76), (0xFE78, 0xFE78),
    (0xFE7A, 0xFE7A), (0xFE7C, 0xFE7C), (0xFE7E, 0xFE7E)]

/-- What may start an identifier, but may not once the identifier has been normalized. -/
def unstableStart : CharClass :=
  union unstableContinue (ofRanges [(0xE33, 0xE33), (0xEB3, 0xEB3), (0xFF9E, 0xFF9F)])

/-- The property ID_Compat_Math_Start. -/
def idCompatMathStart : CharClass :=
  ofRanges [(0x2202, 0x2202), (0x2207, 0x2207), (0x221E, 0x221E), (0x1D6C1, 0x1D6C1),
    (0x1D6DB, 0x1D6DB), (0x1D6FB, 0x1D6FB), (0x1D715, 0x1D715), (0x1D735, 0x1D735),
    (0x1D74F, 0x1D74F), (0x1D76F, 0x1D76F), (0x1D789, 0x1D789), (0x1D7A9, 0x1D7A9),
    (0x1D7C3, 0x1D7C3)]

/-! ### All properties -/

/-- The properties that a character has or has not, with their names. -/
def properties : List (List String × CharClass) := [
  (["ASCII_Hex_Digit", "AHex"], asciiHexDigit),
  (["Alphabetic", "Alpha"], alphabetic),
  (["Bidi_Control", "Bidi_C"],
    ofRanges [(0x61C, 0x61C), (0x200E, 0x200F), (0x202A, 0x202E), (0x2066, 0x2069)]),
  (["Bidi_Mirrored", "Bidi_M"], packed Unicode.bidiMirroredWords),
  (["Case_Ignorable", "CI"],
    unions [categories ["Mn", "Me", "Cf", "Lm", "Sk"], midLetter, midNumLetter, range 0x27 0x27]),
  (["Cased"], unions [lowercase, uppercase, categories ["Lt"]]),
  (["Changes_When_Casefolded", "CWCF"], changedByFolding),
  (["Changes_When_Casemapped", "CWCM"], unions [changedByLower, changedByUpper, changedByTitle]),
  (["Changes_When_Lowercased", "CWL"], changedByLower),
  (["Changes_When_Titlecased", "CWT"], changedByTitle),
  (["Changes_When_Uppercased", "CWU"], changedByUpper),
  (["Dash"], packed Unicode.dashWords),
  (["Default_Ignorable_Code_Point", "DI"], defaultIgnorable),
  (["Deprecated", "Dep"],
    ofRanges [(0x149, 0x149), (0x673, 0x673), (0xF77, 0xF77), (0xF79, 0xF79), (0x17A3, 0x17A4),
      (0x206A, 0x206F), (0x2329, 0x232A), (0xE0001, 0xE0001)]),
  (["Diacritic", "Dia"], packed Unicode.diacriticWords),
  (["Emoji"], packed Unicode.emojiWords),
  (["Emoji_Component", "EComp"],
    unions [ofRanges [(0x23, 0x23), (0x2A, 0x2A), (0x30, 0x39), (0x200D, 0x200D),
      (0x20E3, 0x20E3), (0xFE0F, 0xFE0F), (0x1F9B0, 0x1F9B3), (0xE0020, 0xE007F)],
      regionalIndicator, emojiModifier]),
  (["Emoji_Modifier", "EMod"], emojiModifier),
  (["Emoji_Modifier_Base", "EBase"], packed Unicode.emojiModifierBaseWords),
  (["Emoji_Presentation", "EPres"], packed Unicode.emojiPresentationWords),
  (["Extended_Pictographic", "ExtPict"], packed Unicode.extendedPictographicWords),
  (["Extender", "Ext"], packed Unicode.extenderWords),
  (["Grapheme_Base", "Gr_Base"],
    diff (table Unicode.categorySpans)
      (union (categories ["Cc", "Cf", "Co", "Zl", "Zp"]) graphemeExtend)),
  (["Grapheme_Extend", "Gr_Ext"], graphemeExtend),
  (["Grapheme_Link", "Gr_Link"], table (Unicode.withTag Unicode.combiningSpans 9)),
  (["Hex_Digit", "Hex"],
    union asciiHexDigit (ofRanges [(0xFF10, 0xFF19), (0xFF21, 0xFF26), (0xFF41, 0xFF46)])),
  (["Hyphen"],
    ofRanges [(0x2D, 0x2D), (0xAD, 0xAD), (0x58A, 0x58A), (0x1806, 0x1806), (0x2010, 0x2011),
      (0x2E17, 0x2E17), (0x30FB, 0x30FB), (0xFE63, 0xFE63), (0xFF0D, 0xFF0D), (0xFF65, 0xFF65)]),
  (["IDS_Binary_Operator", "IDSB"],
    ofRanges [(0x2FF0, 0x2FF1), (0x2FF4, 0x2FFD), (0x31EF, 0x31EF)]),
  (["IDS_Trinary_Operator", "IDST"], range 0x2FF2 0x2FF3),
  (["IDS_Unary_Operator", "IDSU"], range 0x2FFE 0x2FFF),
  (["ID_Compat_Math_Continue"],
    union idCompatMathStart (ofRanges [(0xB2, 0xB3), (0xB9, 0xB9), (0x2070, 0x2070),
      (0x2074, 0x207E), (0x2080, 0x208E)])),
  (["ID_Compat_Math_Start"], idCompatMathStart),
  (["ID_Continue", "IDC"], idContinue),
  (["ID_Start", "IDS"], idStart),
  (["Ideographic", "Ideo"], ideographic),
  (["Join_Control", "Join_C"], range 0x200C 0x200D),
  (["Logical_Order_Exception", "LOE"],
    ofRanges [(0xE40, 0xE44), (0xEC0, 0xEC4), (0x19B5, 0x19B7), (0x19BA, 0x19BA),
      (0xAAB5, 0xAAB6), (0xAAB9, 0xAAB9), (0xAABB, 0xAABC)]),
  (["Lowercase", "Lower"], lowercase),
  (["Math"], union (categories ["Sm"]) (packed Unicode.otherMathWords)),
  (["Modifier_Combining_Mark", "MCM"],
    ofRanges [(0x654, 0x655), (0x658, 0x658), (0x6DC, 0x6DC), (0x6E3, 0x6E3), (0x6E7, 0x6E8),
      (0x8CA, 0x8CB), (0x8CD, 0x8CF), (0x8D3, 0x8D3), (0x8F3, 0x8F3)]),
  (["Noncharacter_Code_Point", "NChar"],
    union (range 0xFDD0 0xFDEF) (ofRanges ((List.range 17).map fun i =>
      (0x10000 * i + 0xFFFE, 0x10000 * i + 0xFFFF)))),
  (["Other_Alphabetic", "OAlpha"], diff alphabetic (union letter (categories ["Nl"]))),
  (["Other_Default_Ignorable_Code_Point", "ODI"], otherDefaultIgnorable),
  (["Other_Grapheme_Extend", "OGr_Ext"], packed Unicode.otherGraphemeExtendWords),
  (["Other_ID_Continue", "OIDC"], otherIdContinue),
  (["Other_ID_Start", "OIDS"], otherIdStart),
  (["Other_Lowercase", "OLower"], diff lowercase (categories ["Ll"])),
  (["Other_Math", "OMath"], packed Unicode.otherMathWords),
  (["Other_Uppercase", "OUpper"], diff uppercase (categories ["Lu"])),
  (["Pattern_Syntax", "Pat_Syn"], packed Unicode.patternSyntaxWords),
  (["Pattern_White_Space", "Pat_WS"], patternWhiteSpace),
  (["Prepended_Concatenation_Mark", "PCM"], prependedMark),
  (["Quotation_Mark", "QMark"],
    ofRanges [(0x22, 0x22), (0x27, 0x27), (0xAB, 0xAB), (0xBB, 0xBB), (0x2018, 0x201F),
      (0x2039, 0x203A), (0x2E42, 0x2E42), (0x300C, 0x300F), (0x301D, 0x301F), (0xFE41, 0xFE44),
      (0xFF02, 0xFF02), (0xFF07, 0xFF07), (0xFF62, 0xFF63)]),
  (["Radical"], ofRanges [(0x2E80, 0x2E99), (0x2E9B, 0x2EF3), (0x2F00, 0x2FD5)]),
  (["Regional_Indicator", "RI"], regionalIndicator),
  (["Sentence_Terminal", "STerm"], sentenceTerminal),
  (["Soft_Dotted", "SD"], packed Unicode.softDottedWords),
  (["Terminal_Punctuation", "Term"], packed Unicode.terminalPunctuationWords),
  (["Unified_Ideograph", "UIdeo"],
    ofRanges [(0x3400, 0x4DBF), (0x4E00, 0x9FFF), (0xFA0E, 0xFA0F), (0xFA11, 0xFA11),
      (0xFA13, 0xFA14), (0xFA1F, 0xFA1F), (0xFA21, 0xFA21), (0xFA23, 0xFA24), (0xFA27, 0xFA29),
      (0x20000, 0x2A6DF), (0x2A700, 0x2B81D), (0x2B820, 0x2CEAD), (0x2CEB0, 0x2EBE0),
      (0x2EBF0, 0x2EE5D), (0x30000, 0x3134A), (0x31350, 0x33479)]),
  (["Uppercase", "Upper"], uppercase),
  (["Variation_Selector", "VS"], variationSelector),
  (["White_Space", "WSpace", "space"], whiteSpace),
  (["XID_Continue", "XIDC"], diff idContinue unstableContinue),
  (["XID_Start", "XIDS"], diff idStart unstableStart)]

end CharClass

end UrlMatch.Regex
