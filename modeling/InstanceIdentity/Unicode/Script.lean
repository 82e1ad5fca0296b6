import InstanceIdentity.Unicode.Table

/-!
# Scripts

The scripts that a few characters demand of their neighbours. The tables are as of
Unicode 17.

## Main definitions

* `Unicode.Script` — the scripts
* `Unicode.Script.holds` — whether a character belongs to a script
-/

namespace InstanceIdentity

namespace Unicode

/-- The scripts that other characters ask for. -/
inductive Script | greek | hebrew | hiragana | katakana | han
  deriving DecidableEq, Repr

/-- Closed ranges of the code points of the Greek script. -/
def greekRanges : List (Nat × Nat) :=
  ranges
  ["370-373 375-377 37a-37d 37f 384 386 388-38a 38c 38e-3a1 3a3-3e1 3f0-3ff 1d26-1d2a 1d5d-1d61",
   "1d66-1d6a 1dbf 1f00-1f15 1f18-1f1d 1f20-1f45 1f48-1f4d 1f50-1f57 1f59 1f5b 1f5d 1f5f-1f7d",
   "1f80-1fb4 1fb6-1fc4 1fc6-1fd3 1fd6-1fdb 1fdd-1fef 1ff2-1ff4 1ff6-1ffe 2126 ab65 10140-1018e",
   "101a0 1d200-1d245"]

/-- Closed ranges of the code points of the Hebrew script. -/
def hebrewRanges : List (Nat × Nat) :=
  ranges
  ["591-5c7 5d0-5ea 5ef-5f4 fb1d-fb36 fb38-fb3c fb3e fb40-fb41 fb43-fb44 fb46-fb4f"]

/-- Closed ranges of the code points of the Hiragana script. -/
def hiraganaRanges : List (Nat × Nat) :=
  ranges
  ["3041-3096 309d-309f 1b001-1b11f 1b132 1b150-1b152 1f200"]

/-- Closed ranges of the code points of the Katakana script. -/
def katakanaRanges : List (Nat × Nat) :=
  ranges
  ["30a1-30fa 30fd-30ff 31f0-31ff 32d0-32fe 3300-3357 ff66-ff6f ff71-ff9d 1aff0-1aff3",
   "1aff5-1affb 1affd-1affe 1b000 1b120-1b122 1b155 1b164-1b167"]

/-- Closed ranges of the code points of the Han script. -/
def hanRanges : List (Nat × Nat) :=
  ranges
  ["2e80-2e99 2e9b-2ef3 2f00-2fd5 3005 3007 3021-3029 3038-303b 3400-4dbf 4e00-9fff f900-fa6d",
   "fa70-fad9 16fe2-16fe3 16ff0-16ff6 20000-2a6df 2a700-2b81d 2b820-2cead 2ceb0-2ebe0",
   "2ebf0-2ee5d 2f800-2fa1d 30000-3134a 31350-33479"]

/-- The code points of a script. -/
def Script.ranges : Script → List (Nat × Nat)
  | .greek => greekRanges
  | .hebrew => hebrewRanges
  | .hiragana => hiraganaRanges
  | .katakana => katakanaRanges
  | .han => hanRanges

/-- Whether a character belongs to a script. -/
def Script.holds (s : Script) (c : Char) : Bool := isWithin s.ranges c.toNat

end Unicode

end InstanceIdentity
