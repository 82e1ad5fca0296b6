import InstanceIdentity.Proofs.Delimiters
import InstanceIdentity.Proofs.Except

/-!
# The form of a host

Behind the user information of an authority stands the host, and behind the host perhaps a
number. They can be told apart because a host in normal form is a name without delimiters,
or stands between brackets with no delimiters but colons. It is ASCII either way.

## Main definitions

* `Url.IsPlain` — an ASCII character that is no delimiter
* `Url.IsHost` — the two forms of a host

## Main results

* `Idna.isPlain_of_toAscii?` — the ASCII form of a label
* `Url.isHost_normalHost` — the normal form of a host of a location
* `Url.Authority.exists_of_parse` — an authority in normal form
-/

namespace InstanceIdentity

namespace Url

variable {c : Char} {s t host address label location : List Char}

/-! ## Plain characters -/

/-- An ASCII character that is no delimiter. -/
structure IsPlain (c : Char) : Prop where
  ascii : c.toNat < 0x80
  apart : ¬ IsDelimiter c

instance (c : Char) : Decidable (IsPlain c) :=
  decidable_of_iff (c.toNat < 0x80 ∧ ¬ IsDelimiter c) ⟨fun h => ⟨h.1, h.2⟩, fun h => ⟨h.1, h.2⟩⟩

theorem isPlain_of_isAlphanum (h : c.isAlphanum = true) : IsPlain c := by
  refine ⟨?_, fun delimiter => absurd h (by simp [delimiter.isAlphanum_eq_false])⟩
  rw [isAlphanum_iff] at h
  omega

theorem isPlain_of_isUnreserved (h : isUnreserved c = true) : IsPlain c := by
  simp only [isUnreserved, Bool.or_eq_true, decide_eq_true_eq] at h
  rcases h with (((letter | rfl) | rfl) | rfl) | rfl
  · exact isPlain_of_isAlphanum letter
  all_goals decide

theorem IsPlain.toLower (h : IsPlain c) : IsPlain c.toLower := by
  rcases toLower_eq_or c with same | lower
  · rwa [same]
  · exact isPlain_of_isAlphanum (isAlphanum_of_isLower lower)

theorem isPlain_of_isHexDigit (h : isHexDigit c = true) : IsPlain c := by
  refine isPlain_of_isAlphanum (isAlphanum_iff.mpr ?_)
  rw [isHexDigit, Text.hexValue?] at h
  simp only [Char.le_def, UInt32.le_iff_toNat_le, Char.reduceVal, UInt32.reduceToNat,
    Char.toNat_val] at h
  split at h
  · omega
  split at h
  · omega
  split at h
  · omega
  · cases h

end Url

/-! ## Labels -/

namespace Punycode

theorem isAlphanum_digit {n : Nat} (h : n < 36) : (digit n).isAlphanum = true := by
  have all : ∀ n < 36, (digit n).isAlphanum = true := by decide
  exact all n h

theorem threshold_le (bias weight : Nat) : threshold bias weight ≤ 26 := Nat.min_le_left _ _

theorem isAlphanum_of_mem_digits (bias weight n : Nat) :
    ∀ c ∈ digits bias weight n, c.isAlphanum = true := by
  have positive := threshold_pos bias weight
  have small := threshold_le bias weight
  rw [digits]
  split
  · next least =>
    intro c member
    obtain rfl := List.mem_singleton.mp member
    exact isAlphanum_digit (by omega)
  · intro c member
    rcases List.mem_cons.mp member with rfl | member
    · have := Nat.mod_lt (n - threshold bias weight) (y := 36 - threshold bias weight) (by omega)
      exact isAlphanum_digit (by omega)
    · exact isAlphanum_of_mem_digits bias _ _ c member
termination_by n
decreasing_by
  have smaller := Nat.div_le_self (n - threshold bias weight) (36 - threshold bias weight)
  omega

variable {s : List Char} {basic n : Nat} {p : Progress} {c : Char}

theorem Progress.isAlphanum_of_mem_pass (written : ∀ d ∈ p.output, d.isAlphanum = true) :
    ∀ d ∈ (p.pass basic n c).output, d.isAlphanum = true := by
  rw [pass]
  split
  · exact written
  split
  · intro d member
    rcases List.mem_append.mp member with member | member
    · exact written d member
    · exact isAlphanum_of_mem_digits _ _ _ d member
  · exact written

theorem Progress.isAlphanum_of_mem_foldl (written : ∀ d ∈ p.output, d.isAlphanum = true) :
    ∀ d ∈ (s.foldl (Progress.pass basic n) p).output, d.isAlphanum = true := by
  induction s generalizing p with
  | nil => exact written
  | cons c s ih => exact ih (isAlphanum_of_mem_pass written)

/-- Of the characters outside ASCII only digits are written. -/
theorem isAlphanum_of_mem_insertAll {least : Nat} {others : List Nat}
    (written : ∀ d ∈ p.output, d.isAlphanum = true) :
    ∀ d ∈ insertAll s basic least others p, d.isAlphanum = true := by
  -- One number after another is passed through, and each pass writes digits only.
  induction others generalizing least p with
  | nil => exact written
  | cons n others ih =>
    rw [insertAll]
    exact ih (Progress.isAlphanum_of_mem_foldl written)

/-- The written form of a text has the ASCII characters of the text, and otherwise letters, digits
and the hyphen. -/
theorem mem_encode (member : c ∈ encode s) :
    (c ∈ s ∧ c.toNat < 0x80) ∨ c = '-' ∨ c.isAlphanum = true := by
  rcases List.mem_append.mp member with member | member
  · split at member
    · cases member
    · rcases List.mem_append.mp member with member | member
      · exact .inl (by simpa using List.mem_filter.mp member)
      · exact .inr (.inl (List.mem_singleton.mp member))
  · exact .inr (.inr (isAlphanum_of_mem_insertAll (by simp) c member))

end Punycode

namespace Idna

open Url

variable {c : Char} {label before after ascii : List Char}

theorem not_isDelimiter_of_isJoinerPlace (h : isJoinerPlace c before after = true) :
    ¬ IsDelimiter c := by
  intro delimiter
  have all : ∀ c ∈ delimiters, c ≠ '\u200C' ∧ c ≠ '\u200D' :=
    List.all_iff_forall_prop.mp (by decide)
  obtain ⟨joiner, nonjoiner⟩ := all c delimiter
  rw [isJoinerPlace, if_neg joiner, if_neg nonjoiner] at h
  cases h

theorem not_isDelimiter_of_isPunctuationPlace (h : isPunctuationPlace c before after = true) :
    ¬ IsDelimiter c := by
  intro delimiter
  have all : ∀ c ∈ delimiters, c.toNat < 0x80 := List.all_iff_forall_prop.mp (by decide)
  have ascii := all c delimiter
  rw [isPunctuationPlace, if_neg (by omega), if_neg (by omega), if_neg (by omega),
    if_neg (by omega), if_neg (by omega), if_neg (by omega)] at h
  cases h

/-- There are no delimiters among characters that are allowed where they stand. -/
theorem not_isDelimiter_of_allAllowed (h : allAllowed before label = true) :
    ∀ c ∈ label, ¬ IsDelimiter c := by
  induction label generalizing before with
  | nil => simp
  | cons c rest ih =>
    rw [allAllowed, Bool.and_eq_true] at h
    obtain ⟨fits, later⟩ := h
    intro d member
    rcases List.mem_cons.mp member with rfl | member
    · rcases Bool.or_eq_true_iff.mp fits with fits | punctuation
      · rcases Bool.or_eq_true_iff.mp fits with allowed | joiner
        · exact fun delimiter => absurd allowed (by simp [delimiter.isAllowed_eq_false])
        · exact not_isDelimiter_of_isJoinerPlace joiner
      · exact not_isDelimiter_of_isPunctuationPlace punctuation
    · exact ih later d member

/-- The ASCII form of a label is plain. -/
theorem isPlain_of_toAscii? (h : toAscii? label = some ascii) : ∀ c ∈ ascii, IsPlain c := by
  rw [toAscii?, Option.ite_none_right_eq_some, Bool.and_eq_true] at h
  obtain ⟨⟨valid, -⟩, written⟩ := h
  obtain rfl := Option.some.inj written
  have apart : ∀ c ∈ label, ¬ IsDelimiter c := by
    simp only [isLabel, Bool.and_eq_true] at valid
    exact not_isDelimiter_of_allAllowed valid.1.2
  split
  · next ascii =>
    intro c member
    exact ⟨by simpa using List.all_eq_true.mp ascii c member, apart c member⟩
  · intro c member
    rcases List.mem_append.mp member with member | member
    · have all : ∀ c ∈ "xn--".toList, IsPlain c := List.all_iff_forall_prop.mp (by decide)
      exact all c member
    · rcases Punycode.mem_encode member with ⟨among, ascii⟩ | rfl | letter
      · exact ⟨ascii, apart c among⟩
      · decide
      · exact isPlain_of_isAlphanum letter

end Idna

namespace Url

variable {c : Char} {s t host address label location : List Char}

/-! ## Names -/

theorem isPlain_of_isDigit (h : c.isDigit = true) : IsPlain c :=
  isPlain_of_isAlphanum (by rw [Char.isAlphanum, h, Bool.or_true])

theorem isPlain_of_isNumber (h : isNumber s = true) : ∀ c ∈ s, IsPlain c := by
  rw [isNumber.eq_def] at h
  split at h
  · next mark digits =>
    intro c member
    split at h
    · next hexadecimal =>
      have digits : ∀ c ∈ digits, isHexDigit c = true :=
        List.all_eq_true.mp (Bool.and_eq_true_iff.mp h).2
      rcases List.mem_cons.mp member with rfl | member
      · decide
      rcases List.mem_cons.mp member with rfl | member
      · rcases hexadecimal with rfl | rfl <;> decide
      · exact isPlain_of_isHexDigit (digits c member)
    · rw [Bool.and_eq_true, List.all_eq_true] at h
      rcases List.mem_cons.mp member with rfl | member
      · decide
      rcases List.mem_cons.mp member with rfl | member
      · exact isPlain_of_isDigit h.1
      · exact isPlain_of_isDigit (h.2 c member)
  · rw [Bool.and_eq_true, List.all_eq_true] at h
    exact fun c member => isPlain_of_isDigit (h.2 c member)

theorem isPlain_of_isNumeric (h : isNumeric s = true) : ∀ c ∈ s, IsPlain c := by
  rw [isNumeric, Bool.and_eq_true] at h
  intro c member
  rcases Text.eq_or_mem_of_mem '.' member with rfl | ⟨piece, among, within⟩
  · decide
  · exact isPlain_of_isNumber (List.all_eq_true.mp h.2 piece among) c within

theorem isPlain_of_lowerBetweenEscapes (plain : ∀ c ∈ s, IsPlain c) :
    ∀ c ∈ lowerBetweenEscapes s, IsPlain c := by
  fun_induction lowerBetweenEscapes s with
  | case1 => exact plain
  | case2 a b rest ih =>
    simp only [List.forall_mem_cons] at plain ⊢
    exact ⟨plain.1, plain.2.1, plain.2.2.1, ih plain.2.2.2⟩
  | case3 c rest other ih =>
    rw [List.forall_mem_cons] at plain ⊢
    exact ⟨plain.1.toLower, ih plain.2⟩

theorem isPlain_of_normalLabel (apart : ∀ c ∈ label, ¬ IsDelimiter c)
    (h : normalLabel label = .ok t) : ∀ c ∈ t, IsPlain c := by
  rw [normalLabel] at h
  split at h
  · next ascii =>
    obtain rfl := Except.ok.inj h
    refine isPlain_of_lowerBetweenEscapes fun c member => ⟨?_, apart c member⟩
    simpa using List.all_eq_true.mp ascii c member
  · split at h
    · next ascii written =>
      obtain rfl := Except.ok.inj h
      exact Idna.isPlain_of_toAscii? written
    · cases h

/-- A character of joined texts is a separator or stands in one of the texts. -/
theorem eq_or_mem_of_mem_intercalate {separator : Char} {texts : List (List Char)}
    (member : c ∈ List.intercalate [separator] texts) :
    c = separator ∨ ∃ text ∈ texts, c ∈ text :=
  (Text.mem_or_mem_of_mem_intercalate member).imp_left List.mem_singleton.mp

/-- A name without delimiters has a plain normal form. -/
theorem isPlain_of_normalName (apart : ∀ c ∈ s, ¬ IsDelimiter c)
    (h : normalName s = .ok host) : ∀ c ∈ host, IsPlain c := by
  rw [normalName] at h
  split at h
  · next numeric =>
    obtain rfl := Except.ok.inj h
    exact isPlain_of_isNumeric numeric
  · obtain ⟨labels, written, rfl⟩ := map_eq_ok_iff.mp h
    intro c member
    rcases eq_or_mem_of_mem_intercalate member with rfl | ⟨t, among, within⟩
    · decide
    · obtain ⟨label, piece, normal⟩ := exists_of_mapM_eq_ok written t among
      refine isPlain_of_normalLabel (fun d member delimiter => ?_) normal c within
      have escaped := (Text.mem_of_mem_split piece member).1
      exact apart d (keeps_normalEscapes s d delimiter escaped) delimiter

/-! ## Addresses between brackets -/

/-- The characters of an address between brackets. -/
structure IsInner (c : Char) : Prop where
  ascii : c.toNat < 0x80
  colon : IsDelimiter c → c = ':'

theorem IsPlain.isInner (h : IsPlain c) : IsInner c :=
  ⟨h.ascii, fun delimiter => absurd delimiter h.apart⟩

theorem isInner_colon : IsInner ':' := ⟨by decide, fun _ => rfl⟩

theorem IsInner.toLower (h : IsInner c) : IsInner c.toLower := by
  rcases toLower_eq_or c with same | lower
  · rwa [same]
  · exact (isPlain_of_isAlphanum (isAlphanum_of_isLower lower)).isInner

theorem isPlain_of_isDottedQuad (h : isDottedQuad s = true) : ∀ c ∈ s, IsPlain c := by
  simp only [isDottedQuad, Bool.and_eq_true, List.all_eq_true] at h
  intro c member
  rcases Text.eq_or_mem_of_mem '.' member with rfl | ⟨piece, among, within⟩
  · decide
  · exact isPlain_of_isDigit ((h.2 piece among).2 c within)

theorem isPlain_of_isGroup (h : isGroup s = true) : ∀ c ∈ s, IsPlain c := by
  simp only [isGroup, Bool.and_eq_true, List.all_eq_true] at h
  exact fun c member => isPlain_of_isHexDigit (h.2 c member)

/-- Groups, and an IPv4 address behind them, have colons between them. -/
theorem isInner_of_unitCount? {ipv4? : Option (List Char → Bool)} {n : Nat}
    (quads : ∀ isIpv4 ∈ ipv4?, ∀ t, isIpv4 t = true → ∀ c ∈ t, IsPlain c)
    (h : unitCount? ipv4? s = some n) : ∀ c ∈ s, IsInner c := by
  intro c member
  rw [unitCount?] at h
  split at h
  · next empty =>
    rw [empty] at member
    cases member
  rcases Text.eq_or_mem_of_mem ':' member with rfl | ⟨piece, among, within⟩
  · exact isInner_colon
  dsimp only at h
  split at h
  · next groups =>
    exact (isPlain_of_isGroup (List.all_eq_true.mp groups piece among) c within).isInner
  split at h
  · next mixed =>
    rw [Bool.and_eq_true, List.all_eq_true, Option.any_eq_true] at mixed
    obtain ⟨groups, isIpv4, given, quad⟩ := mixed
    obtain ⟨last, final, quad⟩ := (Option.any_eq_true _ _).mp quad
    -- The piece is a group, or it is the last one.
    obtain ⟨others, row⟩ := List.getLast?_eq_some_iff.mp final
    rw [row, List.dropLast_concat] at groups
    rw [row, List.mem_append] at among
    rcases among with among | among
    · exact (isPlain_of_isGroup (groups piece among) c within).isInner
    · obtain rfl := List.mem_singleton.mp among
      exact (quads isIpv4 given piece quad c within).isInner
  · cases h

theorem eq_of_splitDoubleColon {before after : List Char}
    (h : splitDoubleColon s = some (before, after)) : s = before ++ ':' :: ':' :: after := by
  induction s generalizing before with
  | nil => cases h
  | cons c rest ih =>
    rw [splitDoubleColon.eq_def] at h
    split at h
    · next rest' shape =>
      obtain ⟨rfl, rfl⟩ := Prod.mk.inj (Option.some.inj h)
      exact shape
    · next c' rest' other shape =>
      obtain ⟨rfl, rfl⟩ := List.cons.inj shape
      obtain ⟨⟨before', after'⟩, parted, same⟩ := Option.map_eq_some_iff.mp h
      obtain ⟨rfl, rfl⟩ := Prod.mk.inj same
      rw [ih parted, List.cons_append]
    · cases h

theorem isInner_of_isIpv6 (h : isIpv6 isDottedQuad s = true) : ∀ c ∈ s, IsInner c := by
  have quads : ∀ isIpv4 ∈ some isDottedQuad, ∀ t, isIpv4 t = true → ∀ c ∈ t, IsPlain c := by
    rintro _ ⟨⟩ t quad
    exact isPlain_of_isDottedQuad quad
  rw [isIpv6] at h
  split at h
  · exact isInner_of_unitCount? quads (by simpa using h)
  · next before after parted =>
    split at h
    · next m n first second =>
      intro c member
      rw [eq_of_splitDoubleColon parted, List.mem_append, List.mem_cons, List.mem_cons] at member
      rcases member with member | rfl | rfl | member
      · exact isInner_of_unitCount? (by simp) first c member
      · exact isInner_colon
      · exact isInner_colon
      · exact isInner_of_unitCount? quads second c member
    · cases h

theorem isPlain_of_encodeComponent {allowed : Char → Bool}
    (plain : ∀ c, allowed c = true → IsPlain c) (s : List Char) :
    ∀ c ∈ encodeComponent allowed s, IsPlain c := by
  intro c member
  rcases mem_quote member with ⟨-, kept⟩ | rfl | letter
  · simp only [Bool.or_eq_true, Bool.and_eq_true, decide_eq_true_eq] at kept
    rcases kept with kept | ⟨rfl, -⟩
    · exact plain c kept
    · decide
  · decide
  · exact isPlain_of_isAlphanum letter

theorem isPlain_of_normalZone (zone : List Char) : ∀ c ∈ normalZone zone, IsPlain c := by
  rw [normalZone.eq_def]
  split
  all_goals exact isPlain_of_encodeComponent (fun _ => isPlain_of_isUnreserved) _

/-! ## Hosts -/

/-- A host that can be told apart from what stands around it: a name without delimiters, or a text
between brackets that has no delimiters but colons. -/
inductive IsHost : List Char → Prop
  | name {s : List Char} (apart : ∀ c ∈ s, ¬ IsDelimiter c) : IsHost s
  | bracketed {s : List Char} (colons : ∀ c ∈ s, IsDelimiter c → c = ':') :
      IsHost ('[' :: (s ++ [']']))

theorem isHost_normalBracketed (h : isBracketed s = true) :
    IsHost (normalBracketed s) ∧ isAscii (normalBracketed s) = true := by
  rw [isBracketed, Bool.and_eq_true, Bool.and_eq_true] at h
  have address := (Bool.and_eq_true_iff.mp h.2).1
  have inner : ∀ c ∈ (Text.splitFirst '%' s.tail.dropLast).1.map Char.toLower ++
      (if s.tail.dropLast.contains '%' then
        '%' :: normalZone (Text.splitFirst '%' s.tail.dropLast).2 else []), IsInner c := by
    intro c member
    rcases List.mem_append.mp member with member | member
    · obtain ⟨d, among, rfl⟩ := List.mem_map.mp member
      exact (isInner_of_isIpv6 address d among).toLower
    · split at member
      · rcases List.mem_cons.mp member with rfl | member
        · exact IsPlain.isInner (by decide)
        · exact (isPlain_of_normalZone _ c member).isInner
      · cases member
  refine ⟨.bracketed fun c member => (inner c member).colon, List.all_eq_true.mpr ?_⟩
  intro c member
  refine decide_eq_true ?_
  rcases List.mem_cons.mp member with rfl | member
  · decide
  rcases List.mem_append.mp member with member | member
  · exact (inner c member).ascii
  · obtain rfl := List.mem_singleton.mp member
    decide

/-- A number behind a host does not change the host. -/
theorem eq_of_number {front rest digits : List Char}
    (h : (match rest with
      | [] => some (front, [])
      | ':' :: number => (numberDigits? number).map fun digits => (front, digits)
      | _ => none) = some (host, digits)) : front = host := by
  split at h
  · exact (Prod.mk.inj (Option.some.inj h)).1
  · obtain ⟨digits', -, same⟩ := Option.map_eq_some_iff.mp h
    exact (Prod.mk.inj same).1
  · cases h

/-- A location has an address between brackets in front, or a name up to the first colon. -/
theorem splitLocation?_cases {digits : List Char}
    (h : splitLocation? location = some (host, digits)) :
    isBracketed host = true ∨
      ∀ c ∈ host, c ∈ location ∧ c ≠ ':' ∧ c ≠ '[' ∧ c ≠ ']' := by
  by_cases bracketed : location.head? = some '['
  · simp only [splitLocation?, bracketed, if_true] at h
    split at h
    · cases h
    · next enclosed =>
      obtain rfl := eq_of_number h
      simp only [Bool.not_eq_true', Bool.not_eq_false, Bool.and_eq_true] at enclosed
      exact .inl enclosed.2
  · simp only [splitLocation?, bracketed, if_false] at h
    split at h
    · cases h
    · next encoded =>
      obtain rfl := eq_of_number h
      simp only [Bool.not_eq_true', Bool.not_eq_false, isEncoded, Bool.and_eq_true,
        List.all_eq_true] at encoded
      refine .inr fun c member => ?_
      have front := (List.takeWhile_sublist _).mem member
      have colon : c ≠ ':' := by simpa using List.mem_takeWhile_imp member
      have brackets : c ≠ '[' ∧ c ≠ ']' := by
        rcases Bool.or_eq_true_iff.mp (encoded.2 c member) with allowed | percent
        · simpa using allowed
        · obtain rfl := of_decide_eq_true percent
          decide
      exact ⟨front, colon, brackets⟩

/-- The host of a location has a normal form if it has one as a name. -/
theorem isHost_normalHost {digits : List Char}
    (apart : ∀ c ∈ location, c ∉ ['#', '/', '?', '@'])
    (located : splitLocation? location = some (host, digits))
    (normal : Authority.normalHost host = .ok t) : IsHost t ∧ isAscii t = true := by
  rw [Authority.normalHost] at normal
  rcases splitLocation?_cases located with bracketed | name
  · have opened : host.head? = some '[' := by
      simp only [isBracketed, Bool.and_eq_true, decide_eq_true_eq] at bracketed
      exact bracketed.1.1
    rw [if_pos opened] at normal
    obtain rfl := Except.ok.inj normal
    exact isHost_normalBracketed bracketed
  · have unopened : host.head? ≠ some '[' := fun opened =>
      (name '[' (List.mem_of_mem_head? opened)).2.2.1 rfl
    rw [if_neg unopened, mapError_eq_ok_iff] at normal
    have plain := isPlain_of_normalName (fun c member delimiter => ?_) normal
    · exact ⟨.name fun c member => (plain c member).apart,
        List.all_eq_true.mpr fun c member => decide_eq_true (plain c member).ascii⟩
    · obtain ⟨among, colon, opening, closing⟩ := name c member
      have other := apart c among
      simp only [IsDelimiter, delimiters, List.mem_cons, List.not_mem_nil, or_false]
        at delimiter other
      simp_all

/-! ## Authorities -/

/-- An authority that stays whole between an address's slashes: nothing in the user information ends
it, the host has one of its forms, and the number is in range. -/
structure Authority.IsProper (a : Authority) : Prop where
  userinfo : ∀ c ∈ a.userinfo, c ∉ ['#', '/', '?']
  host : IsHost a.host
  ascii : isAscii a.host = true
  number : ∀ n ∈ a.portNumber, n < 0x10000

theorem lt_of_portNumber? {digits : List Char} {number : Option Nat}
    (h : portNumber? digits = some number) : ∀ n ∈ number, n < 0x10000 := by
  rw [portNumber?] at h
  split at h
  · obtain rfl := Option.some.inj h
    simp
  · split at h
    · next small =>
      obtain rfl := Option.some.inj h
      simpa using small
    · cases h

theorem splitLocation?_of_splitCleanLocation {digits : List Char}
    (h : splitCleanLocation location = .ok (host, digits)) :
    splitLocation? location = some (host, digits) := by
  rw [splitCleanLocation] at h
  split at h
  · cases h
  · next host' digits' located =>
    split at h
    · cases h
    · rw [located, Except.ok.inj h]

/-- What is taken apart in normal form is proper. -/
theorem Authority.isProper_of_parse {a : Authority} (apart : ∀ c ∈ s, c ∉ ['#', '/', '?'])
    (h : Authority.parse true s = .ok a) : a.IsProper := by
  obtain ⟨front, back⟩ := Text.splitLast_mem '@' s
  rw [Authority.parse] at h
  dsimp only at h
  obtain ⟨⟨host, digits⟩, located, h⟩ := bind_eq_ok_iff.mp h
  dsimp only at h
  split at h
  · cases h
  · next number ranged =>
    obtain ⟨t, normal, h⟩ := bind_eq_ok_iff.mp h
    obtain rfl := Except.ok.inj h
    have apart' : ∀ c ∈ (Text.splitLast '@' s).2, c ∉ ['#', '/', '?', '@'] := by
      intro c member
      have inside := apart c (back c member).1
      have behind := (back c member).2
      simp_all
    obtain ⟨form, ascii⟩ :=
      isHost_normalHost apart' (splitLocation?_of_splitCleanLocation located) normal
    refine ⟨fun c member ending => ?_, form, ascii, lt_of_portNumber? ranged⟩
    have kept := keeps_encodeComponent _ _ c (isDelimiter_of_mem ending) member
    exact apart c (front c kept) ending

end Url

end InstanceIdentity
