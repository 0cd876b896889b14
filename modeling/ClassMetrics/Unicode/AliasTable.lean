import ClassMetrics.Prelude

/-!
The names of Unicode properties and of their values, as the Unicode character database gives
them: each word lists the aliases of one property or value, separated by semicolons, the name
used elsewhere in this library first. General categories and scripts are named by their short
codes, properties by their full names.
-/

namespace ClassMetrics.Unicode

/-- The aliases of every property. -/
def propertyAliases : String :=
  String.join [
  "kAccountingNumeric;cjkAccountingNumeric kOtherNumeric;cjkOtherNumeric ",
  "kPrimaryNumeric;cjkPrimaryNumeric Numeric_Value;nv Bidi_Mirroring_Glyph;bmg ",
  "Bidi_Paired_Bracket;bpb Case_Folding;cf kCompatibilityVariant;cjkCompatibilityVariant ",
  "Decomposition_Mapping;dm Equivalent_Unified_Ideograph;EqUIdeo FC_NFKC_Closure;FC_NFKC ",
  "Lowercase_Mapping;lc NFKC_Casefold;NFKC_CF NFKC_Simple_Casefold;NFKC_SCF ",
  "Simple_Case_Folding;scf;sfc Simple_Lowercase_Mapping;slc Simple_Titlecase_Mapping;stc ",
  "Simple_Uppercase_Mapping;suc Titlecase_Mapping;tc Uppercase_Mapping;uc kIICore;cjkIICore ",
  "kIRG_GSource;cjkIRG_GSource kIRG_HSource;cjkIRG_HSource kIRG_JSource;cjkIRG_JSource ",
  "kIRG_KPSource;cjkIRG_KPSource kIRG_KSource;cjkIRG_KSource kIRG_MSource;cjkIRG_MSource ",
  "kIRG_SSource;cjkIRG_SSource kIRG_TSource;cjkIRG_TSource kIRG_UKSource;cjkIRG_UKSource ",
  "kIRG_USource;cjkIRG_USource kIRG_VSource;cjkIRG_VSource ",
  "kRSUnicode;cjkRSUnicode;Unicode_Radical_Stroke;URS ISO_Comment;isc Jamo_Short_Name;JSN Name;na ",
  "Unicode_1_Name;na1 Name_Alias Age;age Block;blk Script;sc Script_Extensions;scx Bidi_Class;bc ",
  "Bidi_Paired_Bracket_Type;bpt Canonical_Combining_Class;ccc Decomposition_Type;dt ",
  "East_Asian_Width;ea General_Category;gc Grapheme_Cluster_Break;GCB Hangul_Syllable_Type;hst ",
  "Indic_Conjunct_Break;InCB Indic_Positional_Category;InPC Indic_Syllabic_Category;InSC ",
  "Joining_Group;jg Joining_Type;jt Line_Break;lb NFC_Quick_Check;NFC_QC NFD_Quick_Check;NFD_QC ",
  "NFKC_Quick_Check;NFKC_QC NFKD_Quick_Check;NFKD_QC Numeric_Type;nt Sentence_Break;SB ",
  "Vertical_Orientation;vo Word_Break;WB ASCII_Hex_Digit;AHex Alphabetic;Alpha ",
  "Bidi_Control;Bidi_C Bidi_Mirrored;Bidi_M Cased Composition_Exclusion;CE Case_Ignorable;CI ",
  "Full_Composition_Exclusion;Comp_Ex Changes_When_Casefolded;CWCF Changes_When_Casemapped;CWCM ",
  "Changes_When_NFKC_Casefolded;CWKCF Changes_When_Lowercased;CWL Changes_When_Titlecased;CWT ",
  "Changes_When_Uppercased;CWU Dash Deprecated;Dep Default_Ignorable_Code_Point;DI Diacritic;Dia ",
  "Emoji_Modifier_Base;EBase Emoji_Component;EComp Emoji_Modifier;EMod Emoji ",
  "Emoji_Presentation;EPres Extender;Ext Extended_Pictographic;ExtPict Grapheme_Base;Gr_Base ",
  "Grapheme_Extend;Gr_Ext Grapheme_Link;Gr_Link Hex_Digit;Hex Hyphen ID_Compat_Math_Continue ",
  "ID_Compat_Math_Start ID_Continue;IDC Ideographic;Ideo ID_Start;IDS IDS_Binary_Operator;IDSB ",
  "IDS_Trinary_Operator;IDST IDS_Unary_Operator;IDSU Join_Control;Join_C ",
  "Logical_Order_Exception;LOE Lowercase;Lower Math Modifier_Combining_Mark;MCM ",
  "Noncharacter_Code_Point;NChar Other_Alphabetic;OAlpha Other_Default_Ignorable_Code_Point;ODI ",
  "Other_Grapheme_Extend;OGr_Ext Other_ID_Continue;OIDC Other_ID_Start;OIDS ",
  "Other_Lowercase;OLower Other_Math;OMath Other_Uppercase;OUpper Pattern_Syntax;Pat_Syn ",
  "Pattern_White_Space;Pat_WS Prepended_Concatenation_Mark;PCM Quotation_Mark;QMark Radical ",
  "Regional_Indicator;RI Soft_Dotted;SD Sentence_Terminal;STerm Terminal_Punctuation;Term ",
  "Unified_Ideograph;UIdeo Uppercase;Upper Variation_Selector;VS White_Space;WSpace;space ",
  "XID_Continue;XIDC XID_Start;XIDS Expands_On_NFC;XO_NFC Expands_On_NFD;XO_NFD ",
  "Expands_On_NFKC;XO_NFKC Expands_On_NFKD;XO_NFKD"]

/-- The aliases of every general category, the groups of categories included. -/
def categoryAliases : String :=
  String.join [
  "Cc;Control;cntrl Cf;Format Cn;Unassigned Co;Private_Use Cs;Surrogate Ll;Lowercase_Letter ",
  "Lm;Modifier_Letter Lo;Other_Letter Lt;Titlecase_Letter Lu;Uppercase_Letter Mc;Spacing_Mark ",
  "Me;Enclosing_Mark Mn;Nonspacing_Mark Nd;Decimal_Number;digit Nl;Letter_Number No;Other_Number ",
  "Pc;Connector_Punctuation Pd;Dash_Punctuation Pe;Close_Punctuation Pf;Final_Punctuation ",
  "Pi;Initial_Punctuation Po;Other_Punctuation Ps;Open_Punctuation Sc;Currency_Symbol ",
  "Sk;Modifier_Symbol Sm;Math_Symbol So;Other_Symbol Zl;Line_Separator Zp;Paragraph_Separator ",
  "Zs;Space_Separator C;Other L;Letter LC;Cased_Letter M;Mark;Combining_Mark N;Number ",
  "P;Punctuation;punct S;Symbol Z;Separator"]

/-- The aliases of every script. -/
def scriptAliases : String :=
  String.join [
  "Adlm;Adlam Aghb;Caucasian_Albanian Ahom;Ahom Arab;Arabic Armi;Imperial_Aramaic Armn;Armenian ",
  "Avst;Avestan Bali;Balinese Bamu;Bamum Bass;Bassa_Vah Batk;Batak Beng;Bengali Bhks;Bhaiksuki ",
  "Bopo;Bopomofo Brah;Brahmi Brai;Braille Bugi;Buginese Buhd;Buhid Cakm;Chakma ",
  "Cans;Canadian_Aboriginal Cari;Carian Cham;Cham Cher;Cherokee Chrs;Chorasmian Copt;Coptic;Qaac ",
  "Cpmn;Cypro_Minoan Cprt;Cypriot Cyrl;Cyrillic Deva;Devanagari Diak;Dives_Akuru Dogr;Dogra ",
  "Dsrt;Deseret Dupl;Duployan Egyp;Egyptian_Hieroglyphs Elba;Elbasan Elym;Elymaic Ethi;Ethiopic ",
  "Geor;Georgian Glag;Glagolitic Gong;Gunjala_Gondi Gonm;Masaram_Gondi Goth;Gothic Gran;Grantha ",
  "Grek;Greek Gujr;Gujarati Guru;Gurmukhi Hang;Hangul Hani;Han Hano;Hanunoo Hatr;Hatran ",
  "Hebr;Hebrew Hira;Hiragana Hluw;Anatolian_Hieroglyphs Hmng;Pahawh_Hmong ",
  "Hmnp;Nyiakeng_Puachue_Hmong Hung;Old_Hungarian Ital;Old_Italic Java;Javanese Kali;Kayah_Li ",
  "Kana;Katakana Kawi;Kawi Khar;Kharoshthi Khmr;Khmer Khoj;Khojki Kits;Khitan_Small_Script ",
  "Knda;Kannada Kthi;Kaithi Lana;Tai_Tham Laoo;Lao Latn;Latin Lepc;Lepcha Limb;Limbu ",
  "Lina;Linear_A Linb;Linear_B Lisu;Lisu Lyci;Lycian Lydi;Lydian Mahj;Mahajani Maka;Makasar ",
  "Mand;Mandaic Mani;Manichaean Marc;Marchen Medf;Medefaidrin Mend;Mende_Kikakui ",
  "Merc;Meroitic_Cursive Mero;Meroitic_Hieroglyphs Mlym;Malayalam Modi;Modi Mong;Mongolian ",
  "Mroo;Mro Mtei;Meetei_Mayek Mult;Multani Mymr;Myanmar Nagm;Nag_Mundari Nand;Nandinagari ",
  "Narb;Old_North_Arabian Nbat;Nabataean Newa;Newa Nkoo;Nko Nshu;Nushu Ogam;Ogham Olck;Ol_Chiki ",
  "Orkh;Old_Turkic Orya;Oriya Osge;Osage Osma;Osmanya Ougr;Old_Uyghur Palm;Palmyrene ",
  "Pauc;Pau_Cin_Hau Perm;Old_Permic Phag;Phags_Pa Phli;Inscriptional_Pahlavi Phlp;Psalter_Pahlavi ",
  "Phnx;Phoenician Plrd;Miao Prti;Inscriptional_Parthian Rjng;Rejang Rohg;Hanifi_Rohingya ",
  "Runr;Runic Samr;Samaritan Sarb;Old_South_Arabian Saur;Saurashtra Sgnw;SignWriting Shaw;Shavian ",
  "Shrd;Sharada Sidd;Siddham Sind;Khudawadi Sinh;Sinhala Sogd;Sogdian Sogo;Old_Sogdian ",
  "Sora;Sora_Sompeng Soyo;Soyombo Sund;Sundanese Sylo;Syloti_Nagri Syrc;Syriac Tagb;Tagbanwa ",
  "Takr;Takri Tale;Tai_Le Talu;New_Tai_Lue Taml;Tamil Tang;Tangut Tavt;Tai_Viet Telu;Telugu ",
  "Tfng;Tifinagh Tglg;Tagalog Thaa;Thaana Thai;Thai Tibt;Tibetan Tirh;Tirhuta Tnsa;Tangsa ",
  "Toto;Toto Ugar;Ugaritic Vaii;Vai Vith;Vithkuqi Wara;Warang_Citi Wcho;Wancho Xpeo;Old_Persian ",
  "Xsux;Cuneiform Yezi;Yezidi Yiii;Yi Zanb;Zanabazar_Square Zinh;Inherited;Qaai Zyyy;Common ",
  "Zzzz;Unknown Gara;Garay Gukh;Gurung_Khema Krai;Kirat_Rai Onao;Ol_Onal Sunu;Sunuwar Todr;Todhri ",
  "Tutg;Tulu_Tigalari ",
  "Hrkt;Katakana_Or_Hiragana"]

end ClassMetrics.Unicode
