import InstanceIdentity.Exchange
import InstanceIdentity.Proofs.Preparation
import InstanceIdentity.Proofs.Utf8

/-!
# Where clear locations lead

A location may be complicated. This file is about the ones that are not: a scheme of the
two, a host and a path of unreserved characters. Such a location is requested as it
stands, from wherever it is named, provided that the address there can be taken apart.
The legs of an exchange are of this kind from its first leg on, so that a row of such
locations goes on for as long as redirects are followed.

## Main definitions

* `Url.IsClear` — characters that stand for themselves
* `Url.IsTarget` — the clear locations
* `Exchange.Leg.IsSettled` — legs from which they can be followed

## Main results

* `Url.resolve_of_isTarget` — such a location stands for itself
* `Exchange.Leg.isSettled_of_ofAddress` — the first leg of an exchange
* `Exchange.Leg.IsSettled.exists_next` — a settled leg leads to a settled leg
-/

namespace InstanceIdentity

/-! ## Reading a location -/

theorem Latin1.encode_of_forall_lt {s : List Char} (h : ∀ c ∈ s, c.toNat < 0x80) :
    Latin1.encode s = .ok (s.map fun c => UInt8.ofNat c.toNat) := by
  have fit : s.dropWhile fits = [] := by
    refine List.dropWhile_eq_nil_iff.mpr fun c member => decide_eq_true ?_
    have := h c member
    omega
  rw [Latin1.encode, fit]

theorem Utf8.readFrom_of_forall_lt {s : List Char} (h : ∀ c ∈ s, c.toNat < 0x80) (position : Nat)
    (before : List Char) :
    readFrom position before none (s.map fun c => UInt8.ofNat c.toNat) =
      .ok (before.reverse ++ s) := by
  -- No character of ASCII is ever in progress.
  induction s generalizing position before with
  | nil => simp [readFrom]
  | cons c s ih =>
    have ascii := h c List.mem_cons_self
    have byte : (UInt8.ofNat c.toNat).toNat = c.toNat := toNat_ofNat_of_lt (by omega)
    rw [List.map_cons, readFrom, byte, begin_one ascii, Char.ofNat_toNat]
    dsimp only
    rw [ih (fun d member => h d (List.mem_cons_of_mem _ member))]
    simp

/-- A location in ASCII is read as it stands. -/
theorem Exchange.readLocation_of_forall_lt {s : List Char} (h : ∀ c ∈ s, c.toNat < 0x80) :
    readLocation s = .ok s := by
  rw [readLocation, Latin1.encode_of_forall_lt h]
  exact congrArg (Except.mapError Utf8.Malformed.fault) (Utf8.readFrom_of_forall_lt h 0 [])

namespace Url

variable {c : Char} {s t scheme host path : List Char} {r : Reference}

/-! ## Clear characters -/

/-- A character that stands for itself in an address, outside a query and a fragment. -/
def IsClear (c : Char) : Prop := isUnreserved c = true ∨ c = ':' ∨ c = '/'

theorem IsClear.ascii (h : IsClear c) : c.toNat < 0x80 := by
  rcases h with unreserved | rfl | rfl
  · exact (isPlain_of_isUnreserved unreserved).ascii
  · decide
  · decide

theorem IsClear.visible (h : IsClear c) : 0x20 < c.toNat := by
  rcases h with unreserved | rfl | rfl
  · exact lt_of_isUnreserved unreserved
  · decide
  · decide

theorem requote_eq_of_isClear (h : ∀ c ∈ s, IsClear c) : requote s = s := by
  refine requote_eq_self fun c member => ?_
  rcases h c member with unreserved | rfl | rfl
  · exact .inl unreserved
  · exact .inr (by decide)
  · exact .inr (by decide)

theorem IsProtocol.isUnreserved (h : IsProtocol scheme) : ∀ c ∈ scheme, isUnreserved c = true := by
  rcases h with rfl | rfl
  · exact List.all_iff_forall_prop.mp (by decide)
  · exact List.all_iff_forall_prop.mp (by decide)

theorem isSendable_of_isProtocol (h : IsProtocol scheme) (s : List Char) :
    isSendable (scheme ++ ':' :: '/' :: '/' :: s) = true := by
  rcases h with rfl | rfl <;> simp [isSendable]

/-- There are neither brackets nor hidden delimiters among unreserved characters and colons. -/
theorem authorityDefect?_eq_none (h : ∀ c ∈ s, isUnreserved c = true ∨ c = ':') :
    authorityDefect? s = none := by
  have absent : ∀ d, isUnreserved d = false → d ≠ ':' → d ∉ s := fun d reserved other member => by
    rcases h d member with unreserved | colon
    · exact absurd unreserved (by simp [reserved])
    · exact other colon
  have unopened : s.contains '[' = false := by simpa using absent '[' (by decide) (by decide)
  have unclosed : s.contains ']' = false := by simpa using absent ']' (by decide) (by decide)
  have unhidden : s.any hiddenDelimiters.contains = false := by
    have all : ∀ c ∈ hiddenDelimiters, isUnreserved c = false ∧ c ≠ ':' :=
      List.all_iff_forall_prop.mp (by decide)
    simp only [List.any_eq_false, List.contains_iff_mem]
    exact fun c member hidden => absent c (all c hidden).1 (all c hidden).2 member
  rw [authorityDefect?, bracketDefect?, unopened, unclosed]
  simp [unhidden]

/-! ## Clear locations -/

/-- An address of one of the two protocols with a host of unreserved characters and a path of such
characters and slashes. -/
inductive IsTarget : List Char → Prop
  | intro {scheme host path : List Char} (protocol : IsProtocol scheme) (named : host ≠ [])
      (hostClear : ∀ c ∈ host, isUnreserved c = true)
      (pathClear : ∀ c ∈ path, isUnreserved c = true ∨ c = '/') :
      IsTarget (scheme ++ ':' :: '/' :: '/' :: (host ++ '/' :: path))

theorem not_isTarget_nil : ¬ IsTarget [] := by
  generalize empty : ([] : List Char) = s
  rintro ⟨protocol, -, -, -⟩
  rcases protocol with rfl | rfl <;> cases empty

/-- All that is in a clear location is clear. -/
theorem IsTarget.isClear (h : IsTarget s) : ∀ c ∈ s, IsClear c := by
  cases h with
  | intro protocol named hostClear pathClear =>
    intro c member
    simp only [List.mem_append, List.mem_cons] at member
    rcases member with member | rfl | rfl | rfl | member | rfl | member
    · exact .inl (protocol.isUnreserved c member)
    · exact .inr (.inl rfl)
    · exact .inr (.inr rfl)
    · exact .inr (.inr rfl)
    · exact .inl (hostClear c member)
    · exact .inr (.inr rfl)
    · exact (pathClear c member).imp id .inr

theorem IsTarget.isSendable (h : IsTarget s) : isSendable s = true := by
  cases h with
  | intro protocol named hostClear pathClear => exact isSendable_of_isProtocol protocol _

/-- A path without semicolons has no parameters. -/
theorem Reference.splitParameters_eq_self (parameters : r.parameters = []) (absent : ';' ∉ r.path) :
    r.splitParameters = r := by
  obtain ⟨front, whole⟩ : (r.path.reverse.takeWhile (· ≠ '/')).reverse <:+ r.path := by
    simpa using List.reverse_suffix.mpr (List.takeWhile_prefix (· ≠ '/') (l := r.path.reverse))
  have absent' : ';' ∉ (r.path.reverse.takeWhile (· ≠ '/')).reverse := fun member =>
    absent (whole ▸ List.mem_append_right _ member)
  rw [Reference.splitParameters]
  split
  · dsimp only
    rw [Text.splitFirst_of_notMem absent']
    generalize (r.path.reverse.takeWhile (· ≠ '/')).reverse = segment at whole
    have path : r.path.take (r.path.length - segment.length) ++ segment = r.path := by
      rw [← whole]
      simp
    rw [path, ← parameters]
  · rfl

/-- A clear location taken apart: nothing is hidden in it, and put together it is the same. -/
theorem IsTarget.exists_takeApart (h : IsTarget s) :
    ∃ r : Reference, takeApart s = .ok r ∧ r.text = s ∧ r.splitParameters = r ∧
      r.authority ≠ [] ∧ r.fragment = [] ∧ r.hostAndNumber.2 = [] := by
  have settled := tidy_eq_self fun c member => (h.isClear c member).visible
  cases h with
  | @intro scheme host path protocol named hostClear pathClear =>
    have form : IsAuthority [] host :=
      .location (.bare (.name fun c member => not_isDelimiter_of_isUnreserved (hostClear c member)))
    have clear : ∀ d, isUnreserved d = false → d ≠ '/' → d ∉ '/' :: path := by
      intro d reserved other member
      rcases List.mem_cons.mp member with slash | member
      · exact other slash
      · rcases pathClear d member with unreserved | slash
        · simp [reserved] at unreserved
        · exact other slash
    have unmarked := Text.splitFirst_of_notMem (clear '#' (by decide) (by decide))
    have unasked := Text.splitFirst_of_notMem (clear '?' (by decide) (by decide))
    have apart : Reference.parse endsReferenceAuthority
        (scheme ++ ':' :: '/' :: '/' :: (host ++ '/' :: path)) =
          ⟨scheme, host, '/' :: path, [], [], []⟩ := by
      rw [parse_address protocol form.endsReferenceAuthority_eq_false rfl, unmarked, unasked]
    have schemed : scheme ≠ [] := by
      rcases protocol with rfl | rfl <;> decide
    refine ⟨⟨scheme, host, '/' :: path, [], [], []⟩, ?_, ?_, ?_, named, rfl, form.number_eq⟩
    · rw [takeApart, settled, apart]
      dsimp only
      rw [authorityDefect?_eq_none fun c member => .inl (hostClear c member)]
    · rw [@Reference.text_eq path _ schemed named rfl rfl]
      simp
    · exact Reference.splitParameters_eq_self rfl (clear ';' (by decide) (by decide))

/-- Two slashes in front are no part of a clear location. -/
theorem IsTarget.isPrefixOf_eq_false (h : IsTarget s) : ['/', '/'].isPrefixOf s = false := by
  cases h with
  | intro protocol named hostClear pathClear => rcases protocol with rfl | rfl <;> rfl

/-- A clear location stands for itself, and it keeps no fragment where there is none. -/
theorem resolve_of_isTarget {current : List Char} {base : Reference}
    (apart : takeApart current = .ok base) (h : IsTarget s) :
    resolve current [] s = .ok (s, []) := by
  obtain ⟨r, apart', text, whole, named, unmarked, -⟩ := h.exists_takeApart
  have kept : { r with fragment := if r.fragment = [] then [] else r.fragment } = r := by
    rw [if_pos unmarked, ← unmarked]
  rw [resolve]
  refine bind_eq_ok_iff.mpr ⟨base, apart, ?_⟩
  rw [h.isPrefixOf_eq_false]
  refine bind_eq_ok_iff.mpr ⟨r, apart', ?_⟩
  rw [whole, kept, if_neg named, text, requote_eq_of_isClear h.isClear, unmarked]
  rfl

/-- Credentials go on, or not, where both numbers can be read. -/
theorem exists_keepsCredentials {old new : Reference} (readable : IsReadable old.hostAndNumber.2)
    (readable' : IsReadable new.hostAndNumber.2) : ∃ kept, keepsCredentials old new = .ok kept := by
  obtain ⟨number, read⟩ := readable
  obtain ⟨number', read'⟩ := readable'
  simp only [keepsCredentials]
  split
  · exact ⟨_, rfl⟩
  · rw [read, read']
    exact ⟨_, rfl⟩

end Url

/-! ## Legs -/

namespace Exchange.Leg

variable {leg : Leg} {address : String} {location : List Char}

/-- A leg from which clear locations can be followed: a request can go there, no fragment is kept,
and the number in its address can be read. -/
structure IsSettled (leg : Leg) : Prop where
  sendable : Url.isSendable leg.url = true
  fragment : leg.fragment = []
  readable : ∃ r, Url.takeApart leg.url = .ok r ∧ Url.IsReadable r.hostAndNumber.2

/-- The first leg of an address without a fragment, if a request can go there. -/
theorem isSettled_of_ofAddress (begins : Leg.ofAddress address = .ok leg)
    (sendable : Url.isSendable leg.url = true) (unmarked : '#' ∉ address.toList) :
    leg.IsSettled := by
  simp only [Leg.ofAddress, bind_eq_ok_iff, mapError_eq_ok_iff] at begins
  obtain ⟨url, prepared, r, apart, authorized, -, made⟩ := begins
  obtain rfl := Except.ok.inj made
  obtain ⟨readable, fragment⟩ := Url.takeApart_of_prepare prepared sendable apart
  exact ⟨sendable, fragment unmarked, r, apart, readable⟩

/-- From a settled leg a clear location leads to a settled leg, where it is requested as it
stands. -/
theorem IsSettled.exists_next (h : leg.IsSettled) (target : Url.IsTarget location) :
    ∃ next, leg.next location = .ok next ∧ next.url = location ∧ next.IsSettled := by
  obtain ⟨sendable, fragment, base, apart, readable⟩ := h
  obtain ⟨r, apart', -, -, -, -, unnumbered⟩ := target.exists_takeApart
  have readable' : Url.IsReadable r.hostAndNumber.2 := unnumbered ▸ Url.isReadable_nil
  obtain ⟨kept, keeps⟩ := Url.exists_keepsCredentials readable readable'
  refine ⟨⟨location, [], leg.authorized && kept⟩, ?_, rfl,
    ⟨target.isSendable, rfl, r, apart', readable'⟩⟩
  rw [Leg.next, fragment, Url.resolve_of_isTarget apart target]
  refine bind_eq_ok_iff.mpr ⟨(location, []), rfl, ?_⟩
  dsimp only
  rw [apart', apart]
  refine bind_eq_ok_iff.mpr ⟨r, rfl, ?_⟩
  cases leg.authorized with
  | false => rfl
  | true => exact bind_eq_ok_iff.mpr ⟨kept, mapError_eq_ok_iff.mpr keeps, rfl⟩

end Exchange.Leg

end InstanceIdentity
