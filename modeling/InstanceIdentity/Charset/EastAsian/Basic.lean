import InstanceIdentity.Charset.EastAsian.Switching
import InstanceIdentity.Charset.EastAsian.Taiwanese

/-!
# East Asian charsets

The charsets of Japan, Korea, China, Taiwan and Hong Kong that have characters of several
bytes.

## Main definitions

* `EastAsian` — the charsets
* `EastAsian.units` — the characters of a byte sequence and its invalid parts
-/

namespace InstanceIdentity

/-- A charset of Japan, Korea, China, Taiwan or Hong Kong. -/
inductive EastAsian
  | shiftJis | makerShiftJis | eucJp | switching (k : EastAsian.Switching)
  | extendedShiftJis (e : EastAsian.Edition) | extendedEuc (e : EastAsian.Edition)
  | eucKr | unifiedKorean | combiningKorean
  | gb2312 | gbk | gb18030 | hz
  | big5 | makerBig5 | hongKong
  deriving DecidableEq, Repr

/-- The characters of a byte sequence, `none` for each invalid part. -/
def EastAsian.units (charset : EastAsian) (bytes : List UInt8) : List (Option Char) :=
  match charset with
  | .shiftJis => decodePlain shiftJisFront bytes
  | .makerShiftJis => decodePlain makerShiftJisFront bytes
  | .eucJp => decodePlain eucJpFront bytes
  | .switching k => decodeSequence k.front .start [] bytes
  | .extendedShiftJis e => decodePlain (extendedShiftJisFront e) bytes
  | .extendedEuc e => decodePlain (extendedEucFront e) bytes
  | .eucKr => decodePlain eucKrFront bytes
  | .unifiedKorean => decodePlain (pairFront unifiedKorean?) bytes
  | .combiningKorean => decodePlain (pairFront combining?) bytes
  | .gb2312 => decodePlain (pairFront gb2312?) bytes
  | .gbk => decodePlain (pairFront gbk?) bytes
  | .gb18030 => decodePlain gb18030Front bytes
  | .hz => decodeSequence hzFront false [] bytes
  | .big5 => decodePlain (pairFront big5?) bytes
  | .makerBig5 => decodePlain (pairFront makerBig5?) bytes
  | .hongKong => decodePlain hongKongFront bytes

end InstanceIdentity
