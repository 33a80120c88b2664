import CircuitTrace.Unicode.Ranges

namespace CircuitTrace.Unicode

def binaryNames : List (List String) :=
  [["Alphabetic", "Alpha"], ["ASCII_Hex_Digit", "AHex"], ["Bidi_Control", "Bidi_C"],
    ["Bidi_Mirrored", "Bidi_M"], ["Case_Ignorable", "CI"], ["Cased"],
    ["Changes_When_Casefolded", "CWCF"], ["Changes_When_Casemapped", "CWCM"],
    ["Changes_When_Lowercased", "CWL"], ["Changes_When_Titlecased", "CWT"],
    ["Changes_When_Uppercased", "CWU"], ["Dash"], ["Default_Ignorable_Code_Point", "DI"],
    ["Deprecated", "Dep"], ["Diacritic", "Dia"], ["Emoji"], ["Emoji_Component", "EComp"],
    ["Emoji_Modifier", "EMod"], ["Emoji_Modifier_Base", "EBase"], ["Emoji_Presentation", "EPres"],
    ["Extended_Pictographic", "ExtPict"], ["Extender", "Ext"], ["Grapheme_Base", "Gr_Base"],
    ["Grapheme_Extend", "Gr_Ext"], ["Grapheme_Link", "Gr_Link"], ["Hex_Digit", "Hex"], ["Hyphen"],
    ["ID_Continue", "IDC"], ["ID_Start", "IDS"], ["Ideographic", "Ideo"],
    ["IDS_Binary_Operator", "IDSB"], ["IDS_Trinary_Operator", "IDST"], ["Join_Control", "Join_C"],
    ["Logical_Order_Exception", "LOE"], ["Lowercase", "Lower"], ["Math"],
    ["Noncharacter_Code_Point", "NChar"], ["Other_Alphabetic", "OAlpha"],
    ["Other_Default_Ignorable_Code_Point", "ODI"], ["Other_Grapheme_Extend", "OGr_Ext"],
    ["Other_ID_Continue", "OIDC"], ["Other_ID_Start", "OIDS"], ["Other_Lowercase", "OLower"],
    ["Other_Math", "OMath"], ["Other_Uppercase", "OUpper"], ["Pattern_Syntax", "Pat_Syn"],
    ["Pattern_White_Space", "Pat_WS"], ["Prepended_Concatenation_Mark", "PCM"],
    ["Quotation_Mark", "QMark"], ["Radical"], ["Regional_Indicator", "RI"],
    ["Sentence_Terminal", "STerm"], ["Soft_Dotted", "SD"], ["Terminal_Punctuation", "Term"],
    ["Unified_Ideograph", "UIdeo"], ["Uppercase", "Upper"], ["Variation_Selector", "VS"],
    ["White_Space", "WSpace", "space"], ["XID_Continue", "XIDC"], ["XID_Start", "XIDS"]]

def otherNames : List (List String) :=
  [["Age", "age"], ["Bidi_Class", "bc"], ["Bidi_Mirroring_Glyph", "bmg"],
    ["Bidi_Paired_Bracket", "bpb"], ["Bidi_Paired_Bracket_Type", "bpt"], ["Block", "blk"],
    ["Canonical_Combining_Class", "ccc"], ["Case_Folding", "cf"],
    ["Changes_When_NFKC_Casefolded", "CWKCF"], ["Composition_Exclusion", "CE"],
    ["Decomposition_Mapping", "dm"], ["Decomposition_Type", "dt"], ["East_Asian_Width", "ea"],
    ["Equivalent_Unified_Ideograph", "EqUIdeo"], ["Expands_On_NFC", "XO_NFC"],
    ["Expands_On_NFD", "XO_NFD"], ["Expands_On_NFKC", "XO_NFKC"], ["Expands_On_NFKD", "XO_NFKD"],
    ["FC_NFKC_Closure", "FC_NFKC"], ["Full_Composition_Exclusion", "Comp_Ex"],
    ["General_Category", "gc"], ["Grapheme_Cluster_Break", "GCB"], ["Hangul_Syllable_Type", "hst"],
    ["ISO_Comment", "isc"], ["Indic_Positional_Category", "InPC"],
    ["Indic_Syllabic_Category", "InSC"], ["Jamo_Short_Name", "JSN"], ["Joining_Group", "jg"],
    ["Joining_Type", "jt"], ["Line_Break", "lb"], ["Lowercase_Mapping", "lc"],
    ["NFC_Quick_Check", "NFC_QC"], ["NFD_Quick_Check", "NFD_QC"], ["NFKC_Casefold", "NFKC_CF"],
    ["NFKC_Quick_Check", "NFKC_QC"], ["NFKD_Quick_Check", "NFKD_QC"], ["Name", "na"],
    ["Name_Alias"], ["Numeric_Type", "nt"], ["Numeric_Value", "nv"], ["Script", "sc"],
    ["Script_Extensions", "scx"], ["Sentence_Break", "SB"], ["Simple_Case_Folding", "scf", "sfc"],
    ["Simple_Lowercase_Mapping", "slc"], ["Simple_Titlecase_Mapping", "stc"],
    ["Simple_Uppercase_Mapping", "suc"], ["Titlecase_Mapping", "tc"], ["Unicode_1_Name", "na1"],
    ["Uppercase_Mapping", "uc"], ["Vertical_Orientation", "vo"], ["Word_Break", "WB"],
    ["kAccountingNumeric", "cjkAccountingNumeric"],
    ["kCompatibilityVariant", "cjkCompatibilityVariant"], ["kIICore", "cjkIICore"],
    ["kIRG_GSource", "cjkIRG_GSource"], ["kIRG_HSource", "cjkIRG_HSource"],
    ["kIRG_JSource", "cjkIRG_JSource"], ["kIRG_KPSource", "cjkIRG_KPSource"],
    ["kIRG_KSource", "cjkIRG_KSource"], ["kIRG_MSource", "cjkIRG_MSource"],
    ["kIRG_SSource", "cjkIRG_SSource"], ["kIRG_TSource", "cjkIRG_TSource"],
    ["kIRG_UKSource", "cjkIRG_UKSource"], ["kIRG_USource", "cjkIRG_USource"],
    ["kIRG_VSource", "cjkIRG_VSource"], ["kOtherNumeric", "cjkOtherNumeric"],
    ["kPrimaryNumeric", "cjkPrimaryNumeric"],
    ["kRSUnicode", "cjkRSUnicode", "Unicode_Radical_Stroke", "URS"]]

/-- What counts in a name: ASCII characters up to case, without blanks, hyphens and underscores. -/
def significant (name : List Char) : List Char :=
  (name.filter fun c => isAscii c && c != ' ' && c != '-' && c != '_').map Char.toLower

/-- What counts in a name that may begin with `is`. The name `isc` is one of its own. -/
def looseName (name : List Char) : List Char :=
  match name with
  | i :: s :: rest =>
    if i.toLower = 'i' ∧ s.toLower = 's' then
      if significant rest = ['c'] then ['i', 's', 'c'] else significant rest
    else significant name
  | _ => significant name

def named? (names : α → List String) (table : List α) (name : List Char) : Option α :=
  table.find? fun entry => (names entry).any fun n => significant n.toList == name

def property? (name : List Char) : Option String :=
  (named? id (binaryNames ++ otherNames) name).bind List.head?

end CircuitTrace.Unicode
