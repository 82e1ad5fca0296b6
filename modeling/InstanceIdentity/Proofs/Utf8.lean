import InstanceIdentity.Charset.Utf8
import Mathlib.Tactic.Common

/-!
# UTF-8 in both directions

The decoder goes through the bytes with a state, which holds the units so far. This file
gives an account of it from front to back: what the first byte leads to, and what is decoded
from there on. The bytes of a text are decoded as that text. Bytes may be decoded in two parts
if the first one does not end within a character, and bytes that are decoded as ASCII are
ASCII: every character that takes several bytes lies outside.

## Main definitions

* `Utf8.encode` — the bytes of a text
* `Utf8.decodeFrom` — what bytes are decoded as behind a character in progress
* `Utf8.pendingAfter` — the character in progress at the end of bytes
* `Utf8.Pending.IsLong` — a character in progress that lies outside ASCII

## Main results

* `Utf8.decode_encode` — decoding undoes encoding
* `Utf8.decode_append` — bytes decoded in two parts
* `Utf8.decode_of_isAscii` — bytes that are decoded as ASCII
-/

namespace InstanceIdentity

namespace Utf8

/-- The bytes of a text. -/
def encode (t : List Char) : List UInt8 := t.flatMap String.utf8EncodeChar

@[simp] theorem encode_cons (c : Char) (t : List Char) :
    encode (c :: t) = String.utf8EncodeChar c ++ encode t := rfl

/-- The characters and invalid parts of bytes, behind a character in progress if there is one. -/
def decodeFrom (pending : Option Pending) (bytes : List UInt8) : List (Option Char) :=
  (bytes.foldl State.step ⟨[], pending⟩).finish

/-- The character in progress at the end of bytes. -/
def pendingAfter (bytes : List UInt8) : Option Pending :=
  (bytes.foldl State.step ⟨[], none⟩).pending

/-- What is decoded from a byte on that leads somewhere. -/
def Progress.decode (rest : List UInt8) : Progress → List (Option Char)
  | .unit u => u :: decodeFrom none rest
  | .pending p => decodeFrom (some p) rest

variable {bytes rest : List UInt8} {p : Pending} {progress : Progress} {b : UInt8} {c : Char}
  {n : Nat}

/-! ## From front to back -/

theorem State.advance_append (before units : List (Option Char)) (progress : Progress) :
    advance (before ++ units) progress =
      ⟨(advance before progress).units ++ units, (advance before progress).pending⟩ := by
  cases progress with
  | unit u => rfl
  | pending p => rfl

/-- The units so far make no difference to a step. -/
theorem State.step_append (units : List (Option Char)) (pending : Option Pending) (b : UInt8) :
    step ⟨units, pending⟩ b =
      ⟨(step ⟨[], pending⟩ b).units ++ units, (step ⟨[], pending⟩ b).pending⟩ := by
  cases pending with
  | none => exact advance_append [] units (begin b.toNat)
  | some p =>
    simp only [step]
    cases p.next b.toNat with
    | none => exact advance_append [none] units (begin b.toNat)
    | some progress => exact advance_append [] units progress

theorem State.foldl_append (bytes : List UInt8) (units : List (Option Char))
    (pending : Option Pending) :
    bytes.foldl step ⟨units, pending⟩ =
      ⟨(bytes.foldl step ⟨[], pending⟩).units ++ units,
        (bytes.foldl step ⟨[], pending⟩).pending⟩ := by
  -- Units are put in front of those before and these are never looked at, so they can be taken out.
  induction bytes generalizing units pending with
  | nil => rfl
  | cons b rest ih =>
    rw [List.foldl_cons, List.foldl_cons, step_append, ih, ih (step ⟨[], pending⟩ b).units,
      List.append_assoc]

/-- What has been decoded stands before what is still to come. -/
theorem State.finish_foldl (bytes : List UInt8) (units : List (Option Char))
    (pending : Option Pending) :
    (bytes.foldl step ⟨units, pending⟩).finish = units.reverse ++ decodeFrom pending bytes := by
  rw [foldl_append, decodeFrom]
  generalize bytes.foldl step ⟨[], pending⟩ = s
  obtain ⟨units', pending'⟩ := s
  cases pending' with
  | none => simp [finish]
  | some p => simp [finish]

theorem State.finish_foldl_advance (rest : List UInt8) (units : List (Option Char))
    (progress : Progress) :
    (rest.foldl step (advance units progress)).finish = units.reverse ++ progress.decode rest := by
  cases progress with
  | unit u =>
    rw [advance, finish_foldl, List.reverse_cons, List.append_assoc]
    rfl
  | pending p => exact finish_foldl rest units (some p)

theorem decodeFrom_none_cons (b : UInt8) (rest : List UInt8) :
    decodeFrom none (b :: rest) = (begin b.toNat).decode rest :=
  State.finish_foldl_advance rest [] (begin b.toNat)

theorem decodeFrom_some_cons_of_next (h : p.next b.toNat = some progress) :
    decodeFrom (some p) (b :: rest) = progress.decode rest := by
  have step : State.step ⟨[], some p⟩ b = State.advance [] progress := by simp only [State.step, h]
  rw [decodeFrom, List.foldl_cons, step]
  exact State.finish_foldl_advance rest [] progress

theorem decodeFrom_some_cons_of_stuck (h : p.next b.toNat = none) :
    decodeFrom (some p) (b :: rest) = none :: (begin b.toNat).decode rest := by
  have step : State.step ⟨[], some p⟩ b = State.advance [none] (begin b.toNat) := by
    simp only [State.step, h]
  rw [decodeFrom, List.foldl_cons, step]
  exact State.finish_foldl_advance rest [none] (begin b.toNat)

/-- Bytes that do not end within a character are decoded by themselves, whatever follows them. -/
theorem decode_append (complete : pendingAfter bytes = none) (rest : List UInt8) :
    decode (bytes ++ rest) = decode bytes ++ decode rest := by
  rw [pendingAfter] at complete
  rw [decode, decode, List.foldl_append]
  generalize bytes.foldl State.step ⟨[], none⟩ = s at *
  obtain ⟨units, pending⟩ := s
  obtain rfl : pending = none := complete
  exact State.finish_foldl rest units none

/-- Bytes that end within a character end with an invalid part. -/
theorem exists_decode_eq_append (cut : pendingAfter bytes ≠ none) :
    ∃ front, decode bytes = front ++ [none] := by
  rw [pendingAfter] at cut
  rw [decode]
  generalize bytes.foldl State.step ⟨[], none⟩ = s at *
  obtain ⟨units, pending⟩ := s
  cases pending with
  | none => exact absurd rfl cut
  | some p => exact ⟨units.reverse, List.reverse_cons⟩

/-! ## One byte -/

theorem begin_one (h : n < 0x80) : begin n = .unit (some (Char.ofNat n)) := if_pos h

theorem begin_two (low : 0xC2 ≤ n) (high : n < 0xE0) :
    begin n = .pending ⟨1, n - 0xC0, 0x80, 0xBF⟩ := by
  rw [begin, if_neg (by omega), if_neg (by omega), if_pos high]

theorem begin_three (low : 0xE0 ≤ n) (high : n < 0xF0) :
    begin n = .pending
      ⟨2, n - 0xE0, if n = 0xE0 then 0xA0 else 0x80, if n = 0xED then 0x9F else 0xBF⟩ := by
  rw [begin, if_neg (by omega), if_neg (by omega), if_neg (by omega), if_pos high]

theorem begin_four (low : 0xF0 ≤ n) (high : n < 0xF5) :
    begin n = .pending
      ⟨3, n - 0xF0, if n = 0xF0 then 0x90 else 0x80, if n = 0xF4 then 0x8F else 0xBF⟩ := by
  rw [begin, if_neg (by omega), if_neg (by omega), if_neg (by omega), if_neg (by omega),
    if_pos high]

theorem Pending.next_last {bits least greatest : Nat} (low : least ≤ n) (high : n ≤ greatest) :
    (⟨1, bits, least, greatest⟩ : Pending).next n =
      some (.unit (some (Char.ofNat (bits * 0x40 + n % 0x40)))) := by
  rw [next, if_pos ⟨low, high⟩]
  rfl

theorem Pending.next_more {wanted bits least greatest : Nat} (low : least ≤ n)
    (high : n ≤ greatest) :
    (⟨wanted + 2, bits, least, greatest⟩ : Pending).next n =
      some (.pending ⟨wanted + 1, bits * 0x40 + n % 0x40, 0x80, 0xBF⟩) := by
  rw [next, if_pos ⟨low, high⟩]
  exact if_neg (by simp)

/-! ## Encoded text -/

theorem toNat_ofNat_of_lt (h : n < 0x100) : (UInt8.ofNat n).toNat = n := by
  rw [UInt8.toNat_ofNat']
  exact Nat.mod_eq_of_lt h

theorem decodeFrom_begin (byte : n < 0x100) (begun : begin n = progress) :
    decodeFrom none (UInt8.ofNat n :: rest) = progress.decode rest := by
  rw [decodeFrom_none_cons, toNat_ofNat_of_lt byte, begun]

theorem decodeFrom_last {bits least greatest : Nat} (byte : n < 0x100) (low : least ≤ n)
    (high : n ≤ greatest) :
    decodeFrom (some ⟨1, bits, least, greatest⟩) (UInt8.ofNat n :: rest) =
      some (Char.ofNat (bits * 0x40 + n % 0x40)) :: decodeFrom none rest := by
  have next := @Pending.next_last n bits least greatest low high
  rw [← toNat_ofNat_of_lt byte] at next
  rw [decodeFrom_some_cons_of_next next, toNat_ofNat_of_lt byte]
  rfl

theorem decodeFrom_more {wanted bits least greatest : Nat} (byte : n < 0x100) (low : least ≤ n)
    (high : n ≤ greatest) :
    decodeFrom (some ⟨wanted + 2, bits, least, greatest⟩) (UInt8.ofNat n :: rest) =
      decodeFrom (some ⟨wanted + 1, bits * 0x40 + n % 0x40, 0x80, 0xBF⟩) rest := by
  have next := @Pending.next_more n wanted bits least greatest low high
  rw [← toNat_ofNat_of_lt byte] at next
  rw [decodeFrom_some_cons_of_next next, toNat_ofNat_of_lt byte]
  rfl

/-- The bytes of a character are decoded as that character. -/
theorem decodeFrom_encodeChar_append (c : Char) (rest : List UInt8) :
    decodeFrom none (String.utf8EncodeChar c ++ rest) = some c :: decodeFrom none rest := by
  have valid : c.toNat < 0xD800 ∨ (0xDFFF < c.toNat ∧ c.toNat < 0x110000) := c.valid
  have value : c.val.toNat = c.toNat := rfl
  have same {n : Nat} (h : n = c.toNat) : Char.ofNat n = c := by rw [h, Char.ofNat_toNat]
  rw [String.utf8EncodeChar.eq_1, value]
  -- One to four bytes: the first one says how many, and each of the others adds its six bits.
  split
  · rw [List.singleton_append, decodeFrom_begin (by omega) (begin_one (by omega)), same rfl]
    rfl
  split
  · rw [List.cons_append, List.singleton_append,
      decodeFrom_begin (by omega) (begin_two (by omega) (by omega)), Progress.decode,
      decodeFrom_last (by omega) (by omega) (by omega), same (by omega)]
  split
  · rw [List.cons_append, List.cons_append, List.singleton_append,
      decodeFrom_begin (by omega) (begin_three (by omega) (by omega)), Progress.decode,
      decodeFrom_more (by omega) (by split <;> omega) (by split <;> omega),
      decodeFrom_last (by omega) (by omega) (by omega), same (by omega)]
  · rw [List.cons_append, List.cons_append, List.cons_append, List.singleton_append,
      decodeFrom_begin (by omega) (begin_four (by omega) (by omega)), Progress.decode,
      decodeFrom_more (by omega) (by split <;> omega) (by split <;> omega),
      decodeFrom_more (by omega) (by omega) (by omega),
      decodeFrom_last (by omega) (by omega) (by omega), same (by omega)]

theorem decode_encode (t : List Char) : decode (encode t) = t.map some := by
  show decodeFrom none (encode t) = t.map some
  induction t with
  | nil => rfl
  | cons c rest ih => rw [encode_cons, decodeFrom_encodeChar_append, ih, List.map_cons]

/-! ## ASCII -/

/-- A unit that is a character of ASCII. -/
def IsAscii (u : Option Char) : Prop := ∃ c, u = some c ∧ c.toNat < 0x80

theorem not_isAscii_none : ¬ IsAscii none := by
  rintro ⟨c, none, -⟩
  cases none

theorem not_isAscii_some (h : 0x80 ≤ c.toNat) : ¬ IsAscii (some c) := by
  rintro ⟨c', same, ascii⟩
  obtain rfl := Option.some.inj same
  omega

/-- Bytes of ASCII are the numbers of their characters. -/
theorem decode_of_forall_lt (ascii : ∀ b ∈ bytes, b.toNat < 0x80) :
    decode bytes = bytes.map fun b => some (Char.ofNat b.toNat) := by
  show decodeFrom none bytes = _
  induction bytes with
  | nil => rfl
  | cons b rest ih =>
    rw [List.forall_mem_cons] at ascii
    rw [decodeFrom_none_cons, begin_one ascii.1, Progress.decode, ih ascii.2, List.map_cons]

/-- A character in progress that lies outside ASCII, whatever bytes it goes on with, as the bounds
say together with the bits so far. In the end it is no surrogate and no number beyond the last
character. -/
inductive Pending.IsLong : Pending → Prop
  | one {bits least greatest : Nat} (long : 2 ≤ bits)
      (valid : bits < 0x360 ∨ (0x37F < bits ∧ bits < 0x4400)) : IsLong ⟨1, bits, least, greatest⟩
  | two {bits least greatest : Nat} (range : 0x80 ≤ least ∧ greatest ≤ 0xBF)
      (long : bits = 0 → 0xA0 ≤ least) (valid : bits = 0xD → greatest ≤ 0x9F)
      (bounded : bits < 0x110) : IsLong ⟨2, bits, least, greatest⟩
  | three {bits least greatest : Nat} (range : 0x80 ≤ least ∧ greatest ≤ 0xBF)
      (long : bits = 0 → 0x90 ≤ least) (valid : bits = 4 → greatest ≤ 0x8F)
      (bounded : bits ≤ 4) : IsLong ⟨3, bits, least, greatest⟩

/-- A first byte is a character of ASCII, or an invalid part, or it begins a longer character. -/
theorem begin_cases (n : Nat) :
    (n < 0x80 ∧ begin n = .unit (some (Char.ofNat n))) ∨ begin n = .unit none ∨
      ∃ p, begin n = .pending p ∧ p.IsLong := by
  rcases Nat.lt_or_ge n 0x80 with one | beyond
  · exact .inl ⟨one, begin_one one⟩
  rcases Nat.lt_or_ge n 0xC2 with tail | first
  · exact .inr (.inl (by rw [begin, if_neg (by omega), if_pos tail]))
  rcases Nat.lt_or_ge n 0xE0 with two | beyond
  · exact .inr (.inr ⟨_, begin_two first two, .one (by omega) (by omega)⟩)
  rcases Nat.lt_or_ge n 0xF0 with three | beyond
  · refine .inr (.inr ⟨_, begin_three beyond three, .two ?_ ?_ ?_ (by omega)⟩)
    · split <;> split <;> omega
    · split <;> omega
    · split <;> omega
  rcases Nat.lt_or_ge n 0xF5 with four | beyond
  · refine .inr (.inr ⟨_, begin_four beyond four, .three ?_ ?_ ?_ (by omega)⟩)
    · split <;> split <;> omega
    · split <;> omega
    · split <;> omega
  · refine .inr (.inl ?_)
    rw [begin, if_neg (by omega), if_neg (by omega), if_neg (by omega), if_neg (by omega),
      if_neg (by omega)]

theorem toNat_ofNat_of_isValidChar (valid : n.isValidChar) : (Char.ofNat n).toNat = n := by
  rw [Char.ofNat, dif_pos valid]
  rfl

/-- A byte is the number of a character. -/
theorem toNat_ofNat_toNat (b : UInt8) : (Char.ofNat b.toNat).toNat = b.toNat :=
  toNat_ofNat_of_isValidChar (.inl (Nat.lt_of_lt_of_le b.toNat_lt (by decide)))

/-- A long character that goes on stays long until it is complete. -/
theorem Pending.IsLong.next (h : p.IsLong) (next : p.next n = some progress) :
    (∃ p', progress = .pending p' ∧ p'.IsLong) ∨
      ∃ c, progress = .unit (some c) ∧ 0x80 ≤ c.toNat := by
  have fits : p.least ≤ n ∧ n ≤ p.greatest := by
    by_contra misfit
    rw [Pending.next, if_neg misfit] at next
    cases next
  cases h with
  | @one bits least greatest long valid =>
    rw [next_last fits.1 fits.2] at next
    obtain rfl := Option.some.inj next
    have character : (bits * 0x40 + n % 0x40).isValidChar := by
      rw [Nat.isValidChar]
      omega
    refine .inr ⟨_, rfl, ?_⟩
    rw [toNat_ofNat_of_isValidChar character]
    omega
  | two range long valid bounded =>
    rw [next_more fits.1 fits.2] at next
    obtain rfl := Option.some.inj next
    dsimp only at fits
    exact .inl ⟨_, rfl, .one (by omega) (by omega)⟩
  | three range long valid bounded =>
    rw [next_more fits.1 fits.2] at next
    obtain rfl := Option.some.inj next
    dsimp only at fits
    exact .inl ⟨_, rfl, .two (by omega) (by omega) (by omega) (by omega)⟩

/-- Behind a long character in progress, not everything is decoded as ASCII. -/
theorem Pending.IsLong.exists_not_isAscii (h : p.IsLong) (bytes : List UInt8) :
    ∃ u ∈ decodeFrom (some p) bytes, ¬ IsAscii u := by
  -- With each byte the character breaks off, or ends outside ASCII, or is still a long one.
  induction bytes generalizing p with
  | nil => exact ⟨none, List.mem_singleton.mpr rfl, not_isAscii_none⟩
  | cons b rest ih =>
    cases next : p.next b.toNat with
    | none =>
      rw [decodeFrom_some_cons_of_stuck next]
      exact ⟨none, List.mem_cons_self, not_isAscii_none⟩
    | some progress =>
      rw [decodeFrom_some_cons_of_next next]
      rcases h.next next with ⟨p', rfl, long⟩ | ⟨c, rfl, beyond⟩
      · exact ih long
      · exact ⟨some c, List.mem_cons_self, not_isAscii_some beyond⟩

/-- Bytes that are decoded as ASCII throughout are the numbers of their characters. -/
theorem decode_of_isAscii (h : ∀ u ∈ decode bytes, IsAscii u) :
    decode bytes = bytes.map fun b => some (Char.ofNat b.toNat) := by
  change ∀ u ∈ decodeFrom none bytes, IsAscii u at h
  show decodeFrom none bytes = _
  induction bytes with
  | nil => rfl
  | cons b rest ih =>
    rw [decodeFrom_none_cons] at h ⊢
    rcases begin_cases b.toNat with ⟨-, one⟩ | invalid | ⟨p, begun, long⟩
    · rw [one] at h ⊢
      rw [Progress.decode, ih fun u member => h u (List.mem_cons_of_mem _ member), List.map_cons]
    · rw [invalid] at h
      exact absurd (h none List.mem_cons_self) not_isAscii_none
    · rw [begun] at h
      obtain ⟨u, member, alien⟩ := long.exists_not_isAscii rest
      exact absurd (h u member) alien

end Utf8

end InstanceIdentity
