import InstanceIdentity.Text.Basic
import InstanceIdentity.Unicode.NameTable
import InstanceIdentity.Unicode.Table

/-!
# Names of characters

Most characters have a name in a table, and some have further names. The names of other
characters are made of a number or of the parts of a syllable. In names from the table,
small letters of ASCII count as capital ones.

## Main definitions

* `Unicode.namesFrom` — the names in a table
* `Unicode.syllable?`, `Unicode.ideograph?` — characters whose names are not in a table
* `Unicode.named?` — the code point with a name
-/

namespace InstanceIdentity

namespace Unicode

/-! ## Names in tables -/

/-- Cuts a table in front of its small letters and at signs. -/
def rowsOfNames : List Char → List (Char × List Char)
  | [] => []
  | c :: rest =>
    if c.isLower ∨ c = '@' then (c, rest.takeWhile fun d => !(d.isLower || d = '@')) ::
      rowsOfNames rest
    else rowsOfNames rest

/-- The words of a name, from a row of a table and the words of the name before. -/
def wordsOfRow (before : List (List Char)) (mark : Char) (rest : List Char) : List (List Char) :=
  before.take (mark.toNat - 0x61) ++ if rest = [] then [] else Text.split ' ' rest

/-- The names in the rows of a table by their words, each with its code point, from a code point
on. -/
def namesFrom (n : Nat) (before : List (List Char)) :
    List (Char × List Char) → List (List (List Char) × Nat)
  | [] => []
  | (mark, content) :: rest =>
    if mark = '@' then namesFrom (number content) before rest
    else
      let words := wordsOfRow before mark content
      (words, n) :: namesFrom (n + 1) words rest

/-- The names in a table by their words, each with its code point. -/
def namesIn (lines : List String) : List (List (List Char) × Nat) :=
  namesFrom 0 [] (rowsOfNames (lines.flatMap String.toList))

/-! ## Names from numbers -/

/-- The ranges of the unified ideographs. -/
def unifiedIdeographs : List (Nat × Nat) :=
  ranges ["3400-4dbf 4e00-9fff 20000-2a6df 2a700-2b738 2b740-2b81d 2b820-2cea1 2ceb0-2ebe0",
    "30000-3134a"]

/-- The unified ideograph with a number. The number has four or five digits, and its letters are
capital ones. -/
def ideograph? (digits : List Char) : Option Nat :=
  let n := number digits
  if (digits.length = 4 ∨ digits.length = 5) ∧
      (digits.all fun c => c.isDigit || ('A' ≤ c && c ≤ 'F')) ∧ isWithin unifiedIdeographs n then
    some n
  else none

/-- The names that end with a hyphen and a number, and the ranges of these numbers. -/
def numberedNames : List (String × List (Nat × Nat)) :=
  [("CJK COMPATIBILITY IDEOGRAPH-", ranges ["f900-fa6d fa70-fad9 2f800-2fa1d"]),
   ("KHITAN SMALL SCRIPT CHARACTER-", ranges ["18b00-18cd5"]),
   ("NUSHU CHARACTER-", ranges ["1b170-1b2fb"])]

/-- The code point with a name that ends with its number. No digit zero stands in front. -/
def numbered? (name : List Char) : Option Nat :=
  numberedNames.findSome? fun (front, found) =>
    let digits := name.drop front.length
    let n := number digits
    if front.toList.isPrefixOf name ∧ digits.all (fun c => (Text.hexValue? c).isSome) ∧
        digits.head? ≠ some '0' ∧ isWithin found n then some n
    else none

/-! ## Names of syllables -/

/-- The names of the initials, vowels and finals of syllables. -/
def initialNames : List String :=
  ["G", "GG", "N", "D", "DD", "R", "M", "B", "BB", "S", "SS", "", "J", "JJ", "C", "K", "T", "P",
   "H"]

@[inherit_doc initialNames]
def vowelNames : List String :=
  ["A", "AE", "YA", "YAE", "EO", "E", "YEO", "YE", "O", "WA", "WAE", "OE", "YO", "U", "WEO", "WE",
   "WI", "YU", "EU", "YI", "I"]

@[inherit_doc initialNames]
def finalNames : List String :=
  ["", "G", "GG", "GS", "N", "NJ", "NH", "D", "L", "LG", "LM", "LB", "LS", "LT", "LP", "LH", "M",
   "B", "BS", "S", "SS", "NG", "J", "C", "K", "T", "P", "H"]

/-- The longest of some names that a text begins with, by its place among them, and what stands
behind it. -/
def longestName? (names : List String) (s : List Char) : Option (Nat × List Char) :=
  let fitting := names.zipIdx.filter fun name => name.1.toList.isPrefixOf s
  let longest := fitting.foldl
    (fun (best : Option (String × Nat)) name =>
      if best.all fun b => b.1.length < name.1.length then some name else best) none
  longest.map fun name => (name.2, s.drop name.1.length)

/-- The syllable whose parts have names that make up a text. -/
def syllable? (s : List Char) : Option Nat :=
  (longestName? initialNames s).bind fun (i, s) =>
    (longestName? vowelNames s).bind fun (v, s) =>
      (longestName? finalNames s).bind fun (f, s) =>
        if s = [] then some (0xAC00 + (i * 21 + v) * 28 + f) else none

/-! ## All names -/

/-- What stands behind the beginning of a text, if the text has it. -/
def behind? (front : String) (s : List Char) : Option (List Char) :=
  if front.toList.isPrefixOf s then some (s.drop front.length) else none

/-- The code point with a name in one of the tables. -/
def tabled? (name : List Char) : Option Nat :=
  let words := Text.split ' ' name
  ((namesIn nameLines).lookup words).or ((namesIn aliasLines).lookup words)

/-- The code point with a name. -/
def named? (name : List Char) : Option CodePoint :=
  let found :=
    match behind? "HANGUL SYLLABLE " name, behind? "CJK UNIFIED IDEOGRAPH-" name with
    | some parts, _ => syllable? parts
    | none, some digits => ideograph? digits
    | none, none =>
      let name := name.map Char.toUpper
      (numbered? name).or (tabled? name)
  found.map CodePoint.ofNat

end Unicode

end InstanceIdentity
