import OpcachePreload.Text.CharacterName.Alphabets
import OpcachePreload.Text.CharacterName.Ancient
import OpcachePreload.Text.CharacterName.EastAsian
import OpcachePreload.Text.CharacterName.Pictures
import OpcachePreload.Text.CharacterName.Scripts
import OpcachePreload.Text.CharacterName.Symbols
import OpcachePreload.Text.CodeRange

/-!
# Character names

Names of characters as Unicode 14 gives them, with the names of control characters, the usual
abbreviations, and the names that correct others. Most names are listed; ideographs, Korean
syllables and the characters of a few scripts are named by a rule. The case of a name does not
matter, but it does in the names of unified ideographs and of Korean syllables.
-/

namespace OpcachePreload.Text

/-! ## Listed names -/

/-- Names of single characters: control characters, abbreviations, and names that correct others. -/
def singleNames : List (Nat × String) := [
  (0x0, "NULL"), (0x0, "NUL"), (0x1, "START OF HEADING"), (0x1, "SOH"), (0x2, "START OF TEXT"),
  (0x2, "STX"), (0x3, "END OF TEXT"), (0x3, "ETX"), (0x4, "END OF TRANSMISSION"), (0x4, "EOT"),
  (0x5, "ENQUIRY"), (0x5, "ENQ"), (0x6, "ACKNOWLEDGE"), (0x6, "ACK"), (0x7, "ALERT"), (0x7, "BEL"),
  (0x8, "BACKSPACE"), (0x8, "BS"), (0x9, "CHARACTER TABULATION"), (0x9, "HT"),
  (0x9, "HORIZONTAL TABULATION"), (0x9, "TAB"), (0xa, "LINE FEED"), (0xa, "LF"), (0xa, "NEW LINE"),
  (0xa, "END OF LINE"), (0xa, "EOL"), (0xa, "NL"), (0xb, "LINE TABULATION"), (0xb, "VT"),
  (0xb, "VERTICAL TABULATION"), (0xc, "FORM FEED"), (0xc, "FF"), (0xd, "CARRIAGE RETURN"),
  (0xd, "CR"), (0xe, "SHIFT OUT"), (0xe, "SO"), (0xe, "LOCKING-SHIFT ONE"), (0xf, "SHIFT IN"),
  (0xf, "SI"), (0xf, "LOCKING-SHIFT ZERO"), (0x10, "DATA LINK ESCAPE"), (0x10, "DLE"),
  (0x11, "DEVICE CONTROL ONE"), (0x11, "DC1"), (0x12, "DEVICE CONTROL TWO"), (0x12, "DC2"),
  (0x13, "DEVICE CONTROL THREE"), (0x13, "DC3"), (0x14, "DEVICE CONTROL FOUR"), (0x14, "DC4"),
  (0x15, "NEGATIVE ACKNOWLEDGE"), (0x15, "NAK"), (0x16, "SYNCHRONOUS IDLE"), (0x16, "SYN"),
  (0x17, "END OF TRANSMISSION BLOCK"), (0x17, "ETB"), (0x18, "CANCEL"), (0x18, "CAN"),
  (0x19, "END OF MEDIUM"), (0x19, "EOM"), (0x1a, "SUBSTITUTE"), (0x1a, "SUB"), (0x1b, "ESCAPE"),
  (0x1b, "ESC"), (0x1c, "INFORMATION SEPARATOR FOUR"), (0x1c, "FS"), (0x1c, "FILE SEPARATOR"),
  (0x1d, "INFORMATION SEPARATOR THREE"), (0x1d, "GS"), (0x1d, "GROUP SEPARATOR"),
  (0x1e, "INFORMATION SEPARATOR TWO"), (0x1e, "RS"), (0x1e, "RECORD SEPARATOR"),
  (0x1f, "INFORMATION SEPARATOR ONE"), (0x1f, "US"), (0x1f, "UNIT SEPARATOR"), (0x20, "SP"),
  (0x7f, "DELETE"), (0x7f, "DEL"), (0x80, "PADDING CHARACTER"), (0x80, "PAD"),
  (0x81, "HIGH OCTET PRESET"), (0x81, "HOP"), (0x82, "BREAK PERMITTED HERE"), (0x82, "BPH"),
  (0x83, "NO BREAK HERE"), (0x83, "NBH"), (0x84, "INDEX"), (0x84, "IND"), (0x85, "NEXT LINE"),
  (0x85, "NEL"), (0x86, "START OF SELECTED AREA"), (0x86, "SSA"), (0x87, "END OF SELECTED AREA"),
  (0x87, "ESA"), (0x88, "CHARACTER TABULATION SET"), (0x88, "HTS"),
  (0x88, "HORIZONTAL TABULATION SET"), (0x89, "CHARACTER TABULATION WITH JUSTIFICATION"),
  (0x89, "HTJ"), (0x89, "HORIZONTAL TABULATION WITH JUSTIFICATION"), (0x8a, "LINE TABULATION SET"),
  (0x8a, "VTS"), (0x8a, "VERTICAL TABULATION SET"), (0x8b, "PARTIAL LINE FORWARD"), (0x8b, "PLD"),
  (0x8b, "PARTIAL LINE DOWN"), (0x8c, "PARTIAL LINE BACKWARD"), (0x8c, "PLU"),
  (0x8c, "PARTIAL LINE UP"), (0x8d, "REVERSE LINE FEED"), (0x8d, "RI"), (0x8d, "REVERSE INDEX"),
  (0x8e, "SINGLE SHIFT TWO"), (0x8e, "SS2"), (0x8e, "SINGLE-SHIFT-2"), (0x8f, "SINGLE SHIFT THREE"),
  (0x8f, "SS3"), (0x8f, "SINGLE-SHIFT-3"), (0x90, "DEVICE CONTROL STRING"), (0x90, "DCS"),
  (0x91, "PRIVATE USE ONE"), (0x91, "PU1"), (0x91, "PRIVATE USE-1"), (0x92, "PRIVATE USE TWO"),
  (0x92, "PU2"), (0x92, "PRIVATE USE-2"), (0x93, "SET TRANSMIT STATE"), (0x93, "STS"),
  (0x94, "CANCEL CHARACTER"), (0x94, "CCH"), (0x95, "MESSAGE WAITING"), (0x95, "MW"),
  (0x96, "START OF GUARDED AREA"), (0x96, "SPA"), (0x96, "START OF PROTECTED AREA"),
  (0x97, "END OF GUARDED AREA"), (0x97, "EPA"), (0x97, "END OF PROTECTED AREA"),
  (0x98, "START OF STRING"), (0x98, "SOS"), (0x99, "SINGLE GRAPHIC CHARACTER INTRODUCER"),
  (0x99, "SGC"), (0x9a, "SINGLE CHARACTER INTRODUCER"), (0x9a, "SCI"),
  (0x9b, "CONTROL SEQUENCE INTRODUCER"), (0x9b, "CSI"), (0x9c, "STRING TERMINATOR"), (0x9c, "ST"),
  (0x9d, "OPERATING SYSTEM COMMAND"), (0x9d, "OSC"), (0x9e, "PRIVACY MESSAGE"), (0x9e, "PM"),
  (0x9f, "APPLICATION PROGRAM COMMAND"), (0x9f, "APC"), (0xa0, "NBSP"), (0xad, "SHY"),
  (0x1a2, "LATIN CAPITAL LETTER GHA"), (0x1a3, "LATIN SMALL LETTER GHA"), (0x34f, "CGJ"),
  (0x61c, "ALM"), (0x709, "SYRIAC SUBLINEAR COLON SKEWED LEFT"), (0xcde, "KANNADA LETTER LLLA"),
  (0xe9d, "LAO LETTER FO FON"), (0xe9f, "LAO LETTER FO FAY"), (0xea3, "LAO LETTER RO"),
  (0xea5, "LAO LETTER LO"), (0xfd0, "TIBETAN MARK BKA- SHOG GI MGO RGYAN"),
  (0x11ec, "HANGUL JONGSEONG YESIEUNG-KIYEOK"), (0x11ed, "HANGUL JONGSEONG YESIEUNG-SSANGKIYEOK"),
  (0x11ee, "HANGUL JONGSEONG SSANGYESIEUNG"), (0x11ef, "HANGUL JONGSEONG YESIEUNG-KHIEUKH"),
  (0x180b, "FVS1"), (0x180c, "FVS2"), (0x180d, "FVS3"), (0x180e, "MVS"), (0x180f, "FVS4"),
  (0x200b, "ZWSP"), (0x200c, "ZWNJ"), (0x200d, "ZWJ"), (0x200e, "LRM"), (0x200f, "RLM"),
  (0x202a, "LRE"), (0x202b, "RLE"), (0x202c, "PDF"), (0x202d, "LRO"), (0x202e, "RLO"),
  (0x202f, "NNBSP"), (0x205f, "MMSP"), (0x2060, "WJ"), (0x2066, "LRI"), (0x2067, "RLI"),
  (0x2068, "FSI"), (0x2069, "PDI"), (0x2118, "WEIERSTRASS ELLIPTIC FUNCTION"),
  (0x2448, "MICR ON US SYMBOL"), (0x2449, "MICR DASH SYMBOL"),
  (0x2b7a, "LEFTWARDS TRIANGLE-HEADED ARROW WITH DOUBLE VERTICAL STROKE"),
  (0x2b7c, "RIGHTWARDS TRIANGLE-HEADED ARROW WITH DOUBLE VERTICAL STROKE"),
  (0xa015, "YI SYLLABLE ITERATION MARK"), (0xaa6e, "MYANMAR LETTER KHAMTI LLA"),
  (0xfe18, "PRESENTATION FORM FOR VERTICAL RIGHT WHITE LENTICULAR BRACKET"),
  (0xfeff, "BYTE ORDER MARK"), (0xfeff, "BOM"), (0xfeff, "ZWNBSP"),
  (0x122d4, "CUNEIFORM SIGN NU11 TENU"), (0x122d5, "CUNEIFORM SIGN NU11 OVER NU11 BUR OVER BUR"),
  (0x16e56, "MEDEFAIDRIN CAPITAL LETTER H"), (0x16e57, "MEDEFAIDRIN CAPITAL LETTER NG"),
  (0x16e76, "MEDEFAIDRIN SMALL LETTER H"), (0x16e77, "MEDEFAIDRIN SMALL LETTER NG"),
  (0x1b001, "HENTAIGANA LETTER E-1"),
  (0x1d0c5, "BYZANTINE MUSICAL SYMBOL FTHORA SKLIRON CHROMA VASIS")]

/-- Abbreviations for the selectors of variants. -/
def selectorNames : List NameBlock := [
  ⟨0xfe00, "VS", [
    "1;2;3;4;5;6;7;8;9;10;11;12;13;14;15;16"]⟩,
  ⟨0xe0100, "VS", [
    "17;18;19;20;21;22;23;24;25;26;27;28;29;30;31;32;33;34;35;36;37;38;39;40;41;42;43;44;45;46",
    "47;48;49;50;51;52;53;54;55;56;57;58;59;60;61;62;63;64;65;66;67;68;69;70;71;72;73;74;75;76",
    "77;78;79;80;81;82;83;84;85;86;87;88;89;90;91;92;93;94;95;96;97;98;99;100;101;102;103;104",
    "105;106;107;108;109;110;111;112;113;114;115;116;117;118;119;120;121;122;123;124;125;126",
    "127;128;129;130;131;132;133;134;135;136;137;138;139;140;141;142;143;144;145;146;147;148",
    "149;150;151;152;153;154;155;156;157;158;159;160;161;162;163;164;165;166;167;168;169;170",
    "171;172;173;174;175;176;177;178;179;180;181;182;183;184;185;186;187;188;189;190;191;192",
    "193;194;195;196;197;198;199;200;201;202;203;204;205;206;207;208;209;210;211;212;213;214",
    "215;216;217;218;219;220;221;222;223;224;225;226;227;228;229;230;231;232;233;234;235;236",
    "237;238;239;240;241;242;243;244;245;246;247;248;249;250;251;252;253;254;255;256"]⟩]

/-- Names in the order of the characters. -/
def nameBlocks : List NameBlock :=
  alphabetNames ++ scriptNames ++ symbolNames ++ eastAsianNames ++ ancientNames ++ pictureNames ++
    selectorNames

/-- The code point with a listed name, in capitals. -/
def listedCharacter? (name : List Char) : Option Nat :=
  ((singleNames.find? (·.2.toList = name)).map Prod.fst).or (nameBlocks.findSome? (·.find? name))

/-! ## Names with numbers -/

/-- The digits of a number to base sixteen, most significant first, in capitals. -/
def capitalHexValue? (digits : List Char) : Option Nat :=
  digits.foldl (fun value? c => do
    let value ← value?
    if '0' ≤ c && c ≤ '9' then return value * 16 + (c.toNat - '0'.toNat)
    else if 'A' ≤ c && c ≤ 'F' then return value * 16 + (c.toNat - 'A'.toNat + 10)
    else none) (some 0)

/-- What names start with that end in the number of their character, and the code points of these.
-/
def numberedNames : List (String × List CodeRange) := [
  ("CJK COMPATIBILITY IDEOGRAPH-", [⟨0xf900, 0xfa6d⟩, ⟨0xfa70, 0xfad9⟩, ⟨0x2f800, 0x2fa1d⟩]),
  ("KHITAN SMALL SCRIPT CHARACTER-", [⟨0x18b00, 0x18cd5⟩]),
  ("NUSHU CHARACTER-", [⟨0x1b170, 0x1b2fb⟩])]

/-- Whether a number is in one of some ranges. -/
def isInRanges (ranges : List CodeRange) (n : Nat) : Bool :=
  ranges.any fun range => range.first ≤ n && n ≤ range.last

/-- The character with a name that starts with a text and ends in its number, in capitals. -/
def numberedAfter? (start : String) (ranges : List CodeRange) (name : List Char) : Option Nat := do
  let digits ← afterStart? start name
  let value ← capitalHexValue? digits
  let length := if value < 0x10000 then 4 else 5
  if digits.length = length && isInRanges ranges value then some value else none

/-- The character with a name that ends in its number. -/
def numberedCharacter? (name : List Char) : Option Nat :=
  numberedNames.findSome? fun entry => numberedAfter? entry.1 entry.2 name

/-- Code points of unified ideographs. -/
def ideographRanges : List CodeRange := [
  ⟨0x3400, 0x4dbf⟩, ⟨0x4e00, 0x9fff⟩, ⟨0x20000, 0x2a6df⟩, ⟨0x2a700, 0x2b738⟩, ⟨0x2b740, 0x2b81d⟩,
  ⟨0x2b820, 0x2cea1⟩, ⟨0x2ceb0, 0x2ebe0⟩, ⟨0x30000, 0x3134a⟩]

/-- The unified ideograph with a name, which ends in its number with four or five digits. -/
def ideograph? (name : List Char) : Option Nat := do
  let digits ← afterStart? "CJK UNIFIED IDEOGRAPH-" name
  let value ← capitalHexValue? digits
  if (digits.length = 4 || digits.length = 5) && isInRanges ideographRanges value then some value
  else none

/-! ## Korean syllables -/

/-- Names of the first sounds of Korean syllables. -/
def firstSounds : List String :=
  ["G", "GG", "N", "D", "DD", "R", "M", "B", "BB", "S", "SS", "", "J", "JJ", "C", "K",
    "T", "P", "H"]

/-- Names of the middle sounds of Korean syllables. -/
def middleSounds : List String :=
  ["A", "AE", "YA", "YAE", "EO", "E", "YEO", "YE", "O", "WA", "WAE", "OE", "YO", "U", "WEO", "WE",
    "WI", "YU", "EU", "YI", "I"]

/-- Names of the last sounds of Korean syllables. -/
def lastSounds : List String :=
  ["", "G", "GG", "GS", "N", "NJ", "NH", "D", "L", "LG", "LM", "LB", "LS", "LT", "LP", "LH", "M",
    "B", "BS", "S", "SS", "NG", "J", "C", "K", "T", "P", "H"]

/-- What the names of Korean syllables end in, in the order of the characters. -/
def syllables : List String :=
  firstSounds.flatMap fun first =>
    middleSounds.flatMap fun middle =>
      lastSounds.map fun last => first ++ middle ++ last

/-- The Korean syllable with a name. -/
def syllable? (name : List Char) : Option Nat := do
  let sounds ← afterStart? "HANGUL SYLLABLE " name
  let place ← syllables.findIdx? (·.toList = sounds)
  return 0xac00 + place

/-! ## All names -/

/-- The code point of the character with a name. -/
def namedCharacter? (name : List Char) : Option Nat :=
  let capitals := name.map Char.toUpper
  (ideograph? name).or ((syllable? name).or ((numberedCharacter? capitals).or
    (listedCharacter? capitals)))

end OpcachePreload.Text
