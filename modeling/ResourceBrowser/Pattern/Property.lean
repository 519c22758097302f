import ResourceBrowser.Pattern.Tree
import ResourceBrowser.Text.Age
import ResourceBrowser.Text.Blank
import ResourceBrowser.Text.Grapheme
import ResourceBrowser.Text.Script

/-!
# Named properties

The sets of characters that a pattern can name: general categories, scripts, ages, yes-or-no
properties and the parts of grapheme clusters. Names compare without letter case, blanks, `_` and
`-`, and a leading `is` does not count.
-/

namespace ResourceBrowser.Pattern

open Text

/-- The form of a name in which names are compared. -/
def looseName (name : String) : String :=
  let (hadIs, cs) := match name.toList with
    | a :: b :: rest =>
      if a.toLower == 'i' && b.toLower == 's' then (true, rest) else (false, name.toList)
    | cs => (false, cs)
  let cs := cs.filter fun c => c.toNat < 128 && c != ' ' && c != '_' && c != '-'
  let cs := cs.map Char.toLower
  if hadIs && cs == ['c'] then "isc" else .ofList cs

/-- True when `name`, in loose form, is one of the blank-separated `names`. -/
def isOneOf (names : String) (name : String) : Bool :=
  ((names.splitOn " ").map looseName).contains name

/-- The categories behind a name. -/
def categoryNames : List (String × List String) := [
  ("C Other", ["Cc", "Cf", "Cs", "Co", "Cn"]),
  ("Cc Control Cntrl", ["Cc"]),
  ("Cf Format", ["Cf"]),
  ("Cn Unassigned", ["Cn"]),
  ("Co Private_Use", ["Co"]),
  ("L Letter", ["Lu", "Ll", "Lt", "Lm", "Lo"]),
  ("LC Cased_Letter", ["Lu", "Ll", "Lt"]),
  ("Ll Lowercase_Letter", ["Ll"]),
  ("Lm Modifier_Letter", ["Lm"]),
  ("Lo Other_Letter", ["Lo"]),
  ("Lt Titlecase_Letter", ["Lt"]),
  ("Lu Uppercase_Letter", ["Lu"]),
  ("M Mark Combining_Mark", ["Mn", "Mc", "Me"]),
  ("Mc Spacing_Mark", ["Mc"]),
  ("Me Enclosing_Mark", ["Me"]),
  ("Mn Nonspacing_Mark", ["Mn"]),
  ("N Number", ["Nd", "Nl", "No"]),
  ("Nd Decimal_Number Digit", ["Nd"]),
  ("Nl Letter_Number", ["Nl"]),
  ("No Other_Number", ["No"]),
  ("P Punctuation Punct", ["Pc", "Pd", "Ps", "Pe", "Pi", "Pf", "Po"]),
  ("Pc Connector_Punctuation", ["Pc"]),
  ("Pd Dash_Punctuation", ["Pd"]),
  ("Pe Close_Punctuation", ["Pe"]),
  ("Pf Final_Punctuation", ["Pf"]),
  ("Pi Initial_Punctuation", ["Pi"]),
  ("Po Other_Punctuation", ["Po"]),
  ("Ps Open_Punctuation", ["Ps"]),
  ("S Symbol", ["Sm", "Sc", "Sk", "So"]),
  ("Sc Currency_Symbol", ["Sc"]),
  ("Sk Modifier_Symbol", ["Sk"]),
  ("Sm Math_Symbol", ["Sm"]),
  ("So Other_Symbol", ["So"]),
  ("Z Separator", ["Zs", "Zl", "Zp"]),
  ("Zl Line_Separator", ["Zl"]),
  ("Zp Paragraph_Separator", ["Zp"]),
  ("Zs Space_Separator", ["Zs"])]

/-- Script codes, each with its longer names. -/
def scriptNames : List String := [
  "Adlm=Adlam Aghb=Caucasian_Albanian Ahom Arab=Arabic Armi=Imperial_Aramaic Armn=Armenian",
  "Avst=Avestan Bali=Balinese Bamu=Bamum Bass=Bassa_Vah Batk=Batak Beng=Bengali Bhks=Bhaiksuki",
  "Bopo=Bopomofo Brah=Brahmi Brai=Braille Bugi=Buginese Buhd=Buhid Cakm=Chakma",
  "Cans=Canadian_Aboriginal Cari=Carian Cham Cher=Cherokee Chrs=Chorasmian Copt=Coptic=Qaac",
  "Cpmn=Cypro_Minoan Cprt=Cypriot Cyrl=Cyrillic Deva=Devanagari Diak=Dives_Akuru Dogr=Dogra",
  "Dsrt=Deseret Dupl=Duployan Egyp=Egyptian_Hieroglyphs Elba=Elbasan Elym=Elymaic Ethi=Ethiopic",
  "Gara=Garay Geor=Georgian Glag=Glagolitic Gong=Gunjala_Gondi Gonm=Masaram_Gondi Goth=Gothic",
  "Gran=Grantha Grek=Greek Gujr=Gujarati Gukh=Gurung_Khema Guru=Gurmukhi Hang=Hangul Hani=Han",
  "Hano=Hanunoo Hatr=Hatran Hebr=Hebrew Hira=Hiragana Hluw=Anatolian_Hieroglyphs",
  "Hmng=Pahawh_Hmong Hmnp=Nyiakeng_Puachue_Hmong Hung=Old_Hungarian Ital=Old_Italic",
  "Java=Javanese Kali=Kayah_Li Kana=Katakana Kawi Khar=Kharoshthi Khmr=Khmer Khoj=Khojki",
  "Kits=Khitan_Small_Script Knda=Kannada Krai=Kirat_Rai Kthi=Kaithi Lana=Tai_Tham Laoo=Lao",
  "Latn=Latin Lepc=Lepcha Limb=Limbu Lina=Linear_A Linb=Linear_B Lisu Lyci=Lycian Lydi=Lydian",
  "Mahj=Mahajani Maka=Makasar Mand=Mandaic Mani=Manichaean Marc=Marchen Medf=Medefaidrin",
  "Mend=Mende_Kikakui Merc=Meroitic_Cursive Mero=Meroitic_Hieroglyphs Mlym=Malayalam Modi",
  "Mong=Mongolian Mroo=Mro Mtei=Meetei_Mayek Mult=Multani Mymr=Myanmar Nagm=Nag_Mundari",
  "Nand=Nandinagari Narb=Old_North_Arabian Nbat=Nabataean Newa Nkoo=Nko Nshu=Nushu Ogam=Ogham",
  "Olck=Ol_Chiki Onao=Ol_Onal Orkh=Old_Turkic Orya=Oriya Osge=Osage Osma=Osmanya",
  "Ougr=Old_Uyghur Palm=Palmyrene Pauc=Pau_Cin_Hau Perm=Old_Permic Phag=Phags_Pa",
  "Phli=Inscriptional_Pahlavi Phlp=Psalter_Pahlavi Phnx=Phoenician Plrd=Miao",
  "Prti=Inscriptional_Parthian Rjng=Rejang Rohg=Hanifi_Rohingya Runr=Runic Samr=Samaritan",
  "Sarb=Old_South_Arabian Saur=Saurashtra Sgnw=SignWriting Shaw=Shavian Shrd=Sharada",
  "Sidd=Siddham Sind=Khudawadi Sinh=Sinhala Sogd=Sogdian Sogo=Old_Sogdian Sora=Sora_Sompeng",
  "Soyo=Soyombo Sund=Sundanese Sunu=Sunuwar Sylo=Syloti_Nagri Syrc=Syriac Tagb=Tagbanwa",
  "Takr=Takri Tale=Tai_Le Talu=New_Tai_Lue Taml=Tamil Tang=Tangut Tavt=Tai_Viet Telu=Telugu",
  "Tfng=Tifinagh Tglg=Tagalog Thaa=Thaana Thai Tibt=Tibetan Tirh=Tirhuta Tnsa=Tangsa",
  "Todr=Todhri Toto Tutg=Tulu_Tigalari Ugar=Ugaritic Vaii=Vai Vith=Vithkuqi Wara=Warang_Citi",
  "Wcho=Wancho Xpeo=Old_Persian Xsux=Cuneiform Yezi=Yezidi Yiii=Yi Zanb=Zanabazar_Square",
  "Zinh=Inherited=Qaai Zyyy=Common"]

/-- The yes-or-no properties. -/
def binaryProperties : List (String × CodeSet) := [
  ("AHex ASCII_Hex_Digit", asciiHexDigit),
  ("Alpha Alphabetic", alphabetic),
  ("Bidi_C Bidi_Control", bidiControl),
  ("CI Case_Ignorable", caseIgnorable),
  ("Cased", cased),
  ("CWCF Changes_When_Casefolded", changesWhenCasefolded),
  ("CWCM Changes_When_Casemapped", changesWhenCasemapped),
  ("CWL Changes_When_Lowercased", changesWhenLowercased),
  ("CWT Changes_When_Titlecased", changesWhenTitlecased),
  ("CWU Changes_When_Uppercased", changesWhenUppercased),
  ("Dash", dash),
  ("DI Default_Ignorable_Code_Point", defaultIgnorable),
  ("Dep Deprecated", deprecatedCodes),
  ("Dia Diacritic", diacritic),
  ("Emoji", emoji),
  ("EComp Emoji_Component", emojiComponent),
  ("EMod Emoji_Modifier", emojiModifier),
  ("EBase Emoji_Modifier_Base", emojiModifierBase),
  ("EPres Emoji_Presentation", emojiPresentation),
  ("ExtPict Extended_Pictographic", extendedPictographic),
  ("Ext Extender", extender),
  ("Gr_Base Grapheme_Base", graphemeBase),
  ("Gr_Ext Grapheme_Extend", graphemeExtend),
  ("Hex Hex_Digit", hexDigits),
  ("Hyphen", hyphen),
  ("IDSB IDS_Binary_Operator", idsBinaryOperator),
  ("IDST IDS_Trinary_Operator", idsTrinaryOperator),
  ("IDC ID_Continue", idContinue),
  ("IDS ID_Start", idStart),
  ("Ideo Ideographic", ideographic),
  ("Join_C Join_Control", joinControl),
  ("LOE Logical_Order_Exception", logicalOrderException),
  ("Lower Lowercase", lowercaseSet),
  ("Math", mathSet),
  ("NChar Noncharacter_Code_Point", noncharacter),
  ("Pat_Syn Pattern_Syntax", patternSyntax),
  ("Pat_WS Pattern_White_Space", patternWhiteSpace),
  ("PCM Prepended_Concatenation_Mark", prependedMark),
  ("QMark Quotation_Mark", quotationMark),
  ("Radical", radical),
  ("RI Regional_Indicator", regionalIndicator),
  ("STerm Sentence_Terminal", sentenceTerminal),
  ("SD Soft_Dotted", softDotted),
  ("Term Terminal_Punctuation", terminalPunctuation),
  ("UIdeo Unified_Ideograph", unifiedIdeograph),
  ("Upper Uppercase", uppercaseSet),
  ("VS Variation_Selector", variationSelector),
  ("WSpace White_Space Space", whiteSpace),
  ("XIDC XID_Continue", xidContinue),
  ("XIDS XID_Start", xidStart),
  ("Gr_Link Grapheme_Link", graphemeLink),
  ("IDSU IDS_Unary_Operator", idsUnaryOperator),
  ("OAlpha Other_Alphabetic", otherAlphabetic),
  ("OGr_Ext Other_Grapheme_Extend", otherGraphemeExtend),
  ("OIDC Other_ID_Continue", otherIdContinue),
  ("OIDS Other_ID_Start", otherIdStart),
  ("OLower Other_Lowercase", otherLowercase),
  ("OMath Other_Math", otherMath),
  ("OUpper Other_Uppercase", otherUppercase)]

/-- The characters that behave alike at the edges of grapheme clusters. -/
def clusterParts : List (String × CodeSet) :=
  let syllables (offset : Nat) := (List.range 399).map fun i => 0xAC00 + i * 28 + offset
  let first := CodeSet.ofRanges ((syllables 0).map fun n => (n, n))
  [("CR", .singleton 0xD),
   ("LF", .singleton 0xA),
   ("CN Control", ((clusterControl.diff clusterExtend).diff clusterPrepend).diff
      (.read ["a d 200d"])),
   ("EX Extend", clusterExtend),
   ("ZWJ", .singleton 0x200D),
   ("RI Regional_Indicator", regionalIndicator),
   ("PP Prepend", clusterPrepend),
   ("SM SpacingMark", clusterSpacing.diff clusterExtend),
   ("L", .read ["1100-115f a960-a97c"]),
   ("V", .read ["1160-11a7 d7b0-d7c6"]),
   ("T", .read ["11a8-11ff d7cb-d7fb"]),
   ("LV", first),
   ("LVT", (CodeSet.range 0xAC00 0xD7A3).diff first)]

/-- The set of a general category, or of one of the names that cover all characters. -/
def categoryNamed? (name : String) : Option CodeSet :=
  if name == "any" then some .all
  else if name == "assigned" then some (categorySet ["Cn"]).complement
  else if name == "ascii" then some (.range 0 0x7F)
  else (categoryNames.find? fun entry => isOneOf entry.1 name).map fun entry =>
    categorySet entry.2

/-- The code of a script. -/
def scriptNamed? (name : String) : Option String :=
  ((words scriptNames).map (·.splitOn "=")).findSome? fun names =>
    if (names.map looseName).contains name then names.head? else none

/-- The set of a yes-or-no property. -/
def binaryNamed? (name : String) : Option CodeSet :=
  (binaryProperties.find? fun entry => isOneOf entry.1 name).map (·.2)

/-- The set of an age, given as `6.1` or `V6_1`. -/
def ageNamed? (value : String) : Option CodeSet :=
  (versions.find? fun version =>
    value == version || value == looseName ("V" ++ version.replace "." "_")).map ageSet

/-- The set that a query names; `none` when there is no such property or value. A name that
could be both a property and a category or script is the property, except for `cf`, `sc` and
`lc`, which are categories. -/
def PropertyQuery.set? : PropertyQuery → Option CodeSet
  | .named name =>
    let name := looseName name
    let isCategory := name == "cf" || name == "sc" || name == "lc"
    let property := if isCategory then none else binaryNamed? name
    (property.or (categoryNamed? name)).or ((scriptNamed? name).map scriptSet)
  | .valued name value =>
    let name := looseName name
    let value := looseName value
    if isOneOf "gc General_Category" name then categoryNamed? value
    else if isOneOf "sc Script" name then (scriptNamed? value).map scriptSet
    else if isOneOf "scx Script_Extensions" name then (scriptNamed? value).map scriptUseSet
    else if isOneOf "age" name then ageNamed? value
    else if isOneOf "GCB Grapheme_Cluster_Break" name then
      (clusterParts.find? fun entry => isOneOf entry.1 value).map (·.2)
    else none

end ResourceBrowser.Pattern
