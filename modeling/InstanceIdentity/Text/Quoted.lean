import InstanceIdentity.Text.Basic
import InstanceIdentity.Text.Hexadecimal
import InstanceIdentity.Text.Printable

/-!
# Quoted text

The written form of a text inside a message: between quotation marks, on one line,
with nothing in it that does not show. The mark is the single one, unless the text
holds a single mark and no double one. The mark in use and the backslash are
escaped, tab, line feed and carriage return have letters, and every other code
point that is not printable is written in hexadecimal, as wide as it needs.

## Main definitions

* `Text.quoteMark` — the mark a text is quoted with
* `Text.escape` — one code point inside the marks
* `Text.quoted` — the written form
-/

namespace InstanceIdentity

namespace Text

/-- The mark a text is quoted with. -/
def quoteMark (t : Text) : CodePoint :=
  if (CodePoint.ofChar '\x27') ∈ t ∧ (CodePoint.ofChar '\x22') ∉ t then CodePoint.ofChar '\x22'
  else CodePoint.ofChar '\x27'

/-- A code point that does not show, by its number: two, four or eight digits. -/
def escapeByNumber (c : CodePoint) : List Char :=
  if c.val < 0x100 then '\\' :: 'x' :: hex 2 c.val
  else if c.val < 0x10000 then '\\' :: 'u' :: hex 4 c.val
  else '\\' :: 'U' :: hex 8 c.val

/-- A code point as it stands between two marks. -/
def escape (mark c : CodePoint) : Text :=
  if c = mark ∨ c = CodePoint.ofChar '\\' then [CodePoint.ofChar '\\', c]
  else if c = CodePoint.ofChar '\t' then ofString "\\t"
  else if c = CodePoint.ofChar '\n' then ofString "\\n"
  else if c = CodePoint.ofChar '\r' then ofString "\\r"
  else if CodePoint.isPrintable c then [c]
  else ofChars (escapeByNumber c)

/-- The written form of a text. -/
def quoted (t : Text) : Text :=
  let mark := quoteMark t
  mark :: (t.flatMap (escape mark) ++ [mark])

end Text

end InstanceIdentity
