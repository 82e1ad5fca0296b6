import InstanceIdentity.Charset.Utf16
import Mathlib.Tactic.Common

/-!
# UTF-16 and UTF-32 in both directions

A character has one unit or two in UTF-16 and one in UTF-32, and each unit has its bytes in one
of two orders. In either order, the bytes of a text are decoded as that text.

## Main definitions

* `Utf16.unitsOf`, `Utf16.encode` — the units of a character, and the bytes of a text
* `Utf32.encode` — the bytes of a text

## Main results

* `Utf16.decode_encode`, `Utf32.decode_encode` — decoding undoes encoding
-/

namespace InstanceIdentity

variable {order : ByteOrder} {c : Char}

namespace Utf16

/-- The units of a character: its number, or two surrogates with ten bits each. -/
def unitsOf (c : Char) : List Nat :=
  if c.toNat < 0x10000 then [c.toNat]
  else [0xD800 + (c.toNat - 0x10000) / 0x400, 0xDC00 + c.toNat % 0x400]

/-- The bytes of a unit. -/
def bytesOf (order : ByteOrder) (u : Nat) : List UInt8 :=
  match order with
  | .little => [UInt8.ofNat u, UInt8.ofNat (u / 0x100)]
  | .big => [UInt8.ofNat (u / 0x100), UInt8.ofNat u]

/-- The bytes of a text. -/
def encode (order : ByteOrder) (t : List Char) : List UInt8 :=
  (t.flatMap unitsOf).flatMap (bytesOf order)

theorem toNat_lt (c : Char) : c.toNat < 0xD800 ∨ (0xDFFF < c.toNat ∧ c.toNat < 0x110000) := c.valid

theorem lt_of_mem_unitsOf {u : Nat} (h : u ∈ unitsOf c) : u < 0x10000 := by
  have valid := toNat_lt c
  rw [unitsOf] at h
  split at h
  · rw [List.mem_singleton] at h
    omega
  · rw [List.mem_cons, List.mem_singleton] at h
    omega

theorem units_bytesOf_append {u : Nat} (h : u < 0x10000) (rest : List UInt8) (before : List Nat) :
    units order (bytesOf order u ++ rest) before = units order rest (u :: before) := by
  cases order with
  | little =>
    have number : unit .little (UInt8.ofNat u) (UInt8.ofNat (u / 0x100)) = u := by
      rw [unit, UInt8.toNat_ofNat', UInt8.toNat_ofNat']
      omega
    rw [bytesOf, List.cons_append, List.singleton_append, units, number]
  | big =>
    have number : unit .big (UInt8.ofNat (u / 0x100)) (UInt8.ofNat u) = u := by
      rw [unit, UInt8.toNat_ofNat', UInt8.toNat_ofNat']
      omega
    rw [bytesOf, List.cons_append, List.singleton_append, units, number]

/-- The bytes of units are split into these units, with nothing left over. -/
theorem units_flatMap {numbers : List Nat} (h : ∀ u ∈ numbers, u < 0x10000) (before : List Nat) :
    units order (numbers.flatMap (bytesOf order)) before = (before.reverse ++ numbers, false) := by
  -- The units before stand latest first.
  induction numbers generalizing before with
  | nil => simp [units]
  | cons u numbers ih =>
    rw [List.forall_mem_cons] at h
    rw [List.flatMap_cons, units_bytesOf_append h.1, ih h.2, List.reverse_cons, List.append_assoc,
      List.singleton_append]

/-- The units of a character make that character. -/
theorem pair_unitsOf_append (c : Char) (rest : List Nat) (before : List (Option Char)) :
    pair (unitsOf c ++ rest) none before = pair rest none (some c :: before) := by
  have valid := toNat_lt c
  rw [unitsOf]
  split
  · rw [List.singleton_append, pair, if_neg (by omega), if_neg (by omega), Char.ofNat_toNat]
    rfl
  · rename_i beyond
    have number : 0x10000 + (0xD800 + (c.toNat - 0x10000) / 0x400) % 0x400 * 0x400 +
        (0xDC00 + c.toNat % 0x400) % 0x400 = c.toNat := by omega
    rw [List.cons_append, List.singleton_append, pair, if_neg (by omega), if_pos (by omega), pair,
      if_pos (by omega), number, Char.ofNat_toNat]
    rfl

theorem pair_flatMap (t : List Char) (before : List (Option Char)) :
    pair (t.flatMap unitsOf) none before = (t.reverse.map some ++ before, false) := by
  induction t generalizing before with
  | nil => simp [pair]
  | cons c t ih => simp [pair_unitsOf_append, ih]

theorem decode_encode (order : ByteOrder) (t : List Char) :
    decode order (encode order t) = t.map some := by
  have bounded : ∀ u ∈ t.flatMap unitsOf, u < 0x10000 := by
    intro u member
    obtain ⟨c, -, unit⟩ := List.mem_flatMap.mp member
    exact lt_of_mem_unitsOf unit
  rw [decode, encode, units_flatMap bounded, List.reverse_nil, List.nil_append]
  dsimp only
  rw [pair_flatMap]
  simp

end Utf16

namespace Utf32

/-- The bytes of a number. -/
def bytesOf (order : ByteOrder) (n : Nat) : List UInt8 :=
  match order with
  | .little =>
    [UInt8.ofNat n, UInt8.ofNat (n / 0x100), UInt8.ofNat (n / 0x10000), UInt8.ofNat (n / 0x1000000)]
  | .big =>
    [UInt8.ofNat (n / 0x1000000), UInt8.ofNat (n / 0x10000), UInt8.ofNat (n / 0x100), UInt8.ofNat n]

/-- The bytes of a text. -/
def encode (order : ByteOrder) (t : List Char) : List UInt8 :=
  t.flatMap fun c => bytesOf order c.toNat

theorem character?_toNat (c : Char) : character? c.toNat = some c := by
  have valid : c.toNat.isValidChar := c.valid
  rw [character?, if_pos valid, Char.ofNat_toNat]

theorem collect_bytesOf_append (c : Char) (rest : List UInt8) (before : List (Option Char)) :
    collect order (bytesOf order c.toNat ++ rest) before =
      collect order rest (some c :: before) := by
  have bounded := Utf16.toNat_lt c
  cases order with
  | little =>
    have number : unit .little (UInt8.ofNat c.toNat) (UInt8.ofNat (c.toNat / 0x100))
        (UInt8.ofNat (c.toNat / 0x10000)) (UInt8.ofNat (c.toNat / 0x1000000)) = c.toNat := by
      simp only [unit, UInt8.toNat_ofNat']
      omega
    simp only [bytesOf, List.cons_append, List.nil_append]
    rw [collect, number, character?_toNat]
  | big =>
    have number : unit .big (UInt8.ofNat (c.toNat / 0x1000000)) (UInt8.ofNat (c.toNat / 0x10000))
        (UInt8.ofNat (c.toNat / 0x100)) (UInt8.ofNat c.toNat) = c.toNat := by
      simp only [unit, UInt8.toNat_ofNat']
      omega
    simp only [bytesOf, List.cons_append, List.nil_append]
    rw [collect, number, character?_toNat]

theorem collect_encode (t : List Char) (before : List (Option Char)) :
    collect order (encode order t) before = before.reverse ++ t.map some := by
  induction t generalizing before with
  | nil => simp [encode, collect]
  | cons c t ih =>
    rw [encode, List.flatMap_cons, collect_bytesOf_append]
    exact (ih (some c :: before)).trans (by simp)

theorem decode_encode (order : ByteOrder) (t : List Char) :
    decode order (encode order t) = t.map some :=
  collect_encode t []

end Utf32

end InstanceIdentity
