import InstanceIdentity.Charset.Basic

/-!
# Names of charsets

A charset goes by several names. Upper and lower case are the same, and all characters
between letters, digits and points count as one low line. A point is a part of some
names; in the other ones it may take the place of a low line, but not in a charset's
own name.

## Main definitions

* `Charset.normalName` — a name in normal form
* `Charset.Entry`, `Charset.entries` — what names stand for
* `Charset.find?` — what a given name stands for
-/

namespace InstanceIdentity

namespace Charset

/-- A name with its letters in lower case, one low line for each run of other characters between
letters, digits and points, and none at the ends. -/
def normalName (name : String) : String :=
  let isWordChar (c : Char) : Bool := c.isAlphanum || c = '.'
  let spread := name.toList.map fun c => if isWordChar c then c.toLower else ' '
  "_".intercalate (((String.ofList spread).splitOn " ").filter (· ≠ ""))

/-- What a name stands for: an encoding, the digits of Punycode, or something that cannot be decoded
with replacements, and then why. -/
inductive Meaning
  | charset (c : Charset)
  | punycode
  | unusable (complaint : String)
  deriving DecidableEq, Repr

/-- A charset's own name in normal form, its other names, and what they stand for. -/
structure Entry where
  name : String
  otherNames : List String
  meaning : Meaning
  deriving DecidableEq, Repr

/-- A charset of East Asia with its names. -/
def Entry.ofEastAsian (name : String) (otherNames : List String) (e : EastAsian) : Entry :=
  ⟨name, otherNames, .charset (.eastAsian e)⟩

/-- The names of the charsets of East Asia. -/
def eastAsianEntries : List Entry :=
  [.ofEastAsian "shift_jis" ["csshiftjis", "s_jis", "shiftjis", "sjis", "x_mac_japanese"] .shiftJis,
   .ofEastAsian "cp932" ["932", "ms932", "ms_kanji", "mskanji"] .makerShiftJis,
   .ofEastAsian "euc_jp" ["eucjp", "u_jis", "ujis"] .eucJp,
   .ofEastAsian "iso2022_jp" ["csiso2022jp", "iso2022jp", "iso_2022_jp"]
     (.switching ⟨[.kanji, .roman, .oldKanji], false, false, true⟩),
   .ofEastAsian "iso2022_jp_1" ["iso2022jp_1", "iso_2022_jp_1"]
     (.switching ⟨[.kanji, .rareKanji, .roman, .oldKanji], false, false, true⟩),
   .ofEastAsian "iso2022_jp_2" ["iso2022jp_2", "iso_2022_jp_2"]
     (.switching
       ⟨[.kanji, .rareKanji, .hangul, .hanzi, .roman, .oldKanji, .latin, .greek], false, true,
         true⟩),
   .ofEastAsian "iso2022_jp_ext" ["iso2022jp_ext", "iso_2022_jp_ext"]
     (.switching ⟨[.kanji, .rareKanji, .roman, .katakana, .oldKanji], false, false, true⟩),
   .ofEastAsian "shift_jisx0213" ["s_jisx0213", "shiftjisx0213", "sjisx0213"]
     (.extendedShiftJis .first),
   .ofEastAsian "shift_jis_2004" ["s_jis_2004", "shiftjis2004", "sjis_2004"]
     (.extendedShiftJis .second),
   .ofEastAsian "euc_jisx0213" ["eucjisx0213"] (.extendedEuc .first),
   .ofEastAsian "euc_jis_2004" ["euc_jis2004", "eucjis2004", "jisx0213"] (.extendedEuc .second),
   .ofEastAsian "iso2022_jp_3" ["iso2022jp_3", "iso_2022_jp_3"]
     (.switching ⟨[.kanji, .extendedKanji .first, .furtherKanji], false, false, true⟩),
   .ofEastAsian "iso2022_jp_2004" ["iso2022jp_2004", "iso_2022_jp_2004"]
     (.switching ⟨[.kanji, .extendedKanji .second, .furtherKanji], false, false, true⟩),
   .ofEastAsian "euc_kr"
     ["euckr", "korean", "ks_c_5601", "ks_c_5601_1987", "ks_x_1001", "ksc5601", "ksx1001",
      "x_mac_korean"] .eucKr,
   .ofEastAsian "cp949" ["949", "ms949", "uhc"] .unifiedKorean,
   .ofEastAsian "johab" ["cp1361", "ms1361"] .combiningKorean,
   .ofEastAsian "iso2022_kr" ["csiso2022kr", "iso2022kr", "iso_2022_kr"]
     (.switching ⟨[.hangul], true, false, false⟩),
   .ofEastAsian "gb2312"
     ["chinese", "csiso58gb231280", "euc_cn", "euccn", "eucgb2312_cn", "gb2312_1980", "gb2312_80",
      "iso_ir_58", "x_mac_simp_chinese"] .gb2312,
   .ofEastAsian "gbk" ["936", "cp936", "ms936"] .gbk,
   .ofEastAsian "gb18030" ["gb18030_2000"] .gb18030,
   .ofEastAsian "hz" ["hz_gb", "hz_gb_2312", "hzgb"] .hz,
   .ofEastAsian "big5" ["big5_tw", "csbig5", "x_mac_trad_chinese"] .big5,
   .ofEastAsian "cp950" ["950", "ms950"] .makerBig5,
   .ofEastAsian "big5hkscs" ["big5_hkscs", "hkscs"] .hongKong]

/-- The names of all charsets but those of East Asia and the code pages. -/
def entries : List Entry :=
  [⟨"ascii",
     ["646", "ansi_x3.4_1968", "ansi_x3.4_1986", "ansi_x3_4_1968", "cp367", "csascii", "ibm367",
      "iso646_us", "iso_646.irv_1991", "iso_ir_6", "us", "us_ascii"], .charset .ascii⟩,
   ⟨"latin_1",
     ["8859", "cp819", "csisolatin1", "ibm819", "iso8859", "iso8859_1", "iso_8859_1",
      "iso_8859_1_1987", "iso_ir_100", "l1", "latin", "latin1"], .charset .latin1⟩,
   ⟨"charmap", [], .charset .latin1⟩,
   ⟨"utf_7", ["u7", "unicode_1_1_utf_7", "utf7"], .charset .utf7⟩,
   ⟨"utf_8", ["cp65001", "u8", "utf", "utf8", "utf8_ucs2", "utf8_ucs4"], .charset (.utf8 false)⟩,
   ⟨"utf_8_sig", [], .charset (.utf8 true)⟩,
   ⟨"utf_16", ["u16", "utf16"], .charset (.utf16 none)⟩,
   ⟨"utf_16_le", ["unicodelittleunmarked", "utf_16le"], .charset (.utf16 (some .little))⟩,
   ⟨"utf_16_be", ["unicodebigunmarked", "utf_16be"], .charset (.utf16 (some .big))⟩,
   ⟨"utf_32", ["u32", "utf32"], .charset (.utf32 none)⟩,
   ⟨"utf_32_le", ["utf_32le"], .charset (.utf32 (some .little))⟩,
   ⟨"utf_32_be", ["utf_32be"], .charset (.utf32 (some .big))⟩,
   ⟨"unicode_escape", [], .charset (.escaped false)⟩,
   ⟨"raw_unicode_escape", [], .charset (.escaped true)⟩,
   ⟨"punycode", [], .punycode⟩,
   ⟨"idna", [], .unusable "Unsupported error handling replace"⟩,
   ⟨"undefined", [], .unusable "undefined encoding"⟩]

/-- The names of a code page. -/
def Entry.ofPage (p : CodePage) : Entry := ⟨p.name, p.otherNames, .charset (.page p)⟩

/-- The names of all charsets. -/
def allEntries : List Entry := entries ++ eastAsianEntries ++ CodePage.all.map Entry.ofPage

/-- The entry with a given other name. -/
def otherNamed? (name : String) : Option Entry :=
  allEntries.find? fun entry => entry.otherNames.contains name

/-- What a name stands for. -/
def find? (name : String) : Option Meaning :=
  let name := normalName name
  let spelled := String.ofList (name.toList.map fun c => if c = '.' then '_' else c)
  (((otherNamed? name).or (otherNamed? spelled)).or
    (allEntries.find? fun entry => entry.name = name)).map Entry.meaning

end Charset

end InstanceIdentity
