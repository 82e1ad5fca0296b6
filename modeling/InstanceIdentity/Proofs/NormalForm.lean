import InstanceIdentity.Proofs.Targets

/-!
# Addresses in normal form

The preparation of an address changes letters, escapes, dots and numbers. This file is about the
addresses that it finds nothing to change in: a scheme of the two, a host of small letters, digits,
hyphens and points, perhaps a number, and segments of unreserved characters none of which is a dot
segment. Without a segment only a slash is missing.

## Main definitions

* `Url.IsCanonicalHost`, `Url.IsCanonicalSegment` — hosts and segments in normal form
* `Url.IsCanonicalAuthority`, `Url.IsCanonical` — authorities in normal form by what they were put
  together from, and addresses in normal form by their segments

## Main results

* `Url.IsCanonicalHost.normalName_eq`, `Url.normalPath_eq_self` — hosts and paths stay as they are
* `Url.IsCanonicalAuthority.parse_eq` — an authority is taken apart to what it was made of
* `Url.IsCanonical.prepare_eq` — an address with a segment is requested as it stands
-/

namespace InstanceIdentity

/-! ## Pieces between separators -/

namespace Text

variable {separator : Char} {s before : List Char} {pieces : List (List Char)}

theorem split_of_notMem (absent : separator ∉ s) : split separator s = [s] := by
  induction s with
  | nil => rfl
  | cons c rest ih =>
    rw [List.mem_cons, not_or] at absent
    rw [split, if_neg (Ne.symm absent.1), ih absent.2]

theorem split_append (absent : separator ∉ before) (after : List Char) :
    split separator (before ++ separator :: after) = before :: split separator after := by
  induction before with
  | nil => rw [List.nil_append, split, if_pos rfl]
  | cons c rest ih =>
    rw [List.mem_cons, not_or] at absent
    rw [List.cons_append, split, if_neg (Ne.symm absent.1), ih absent.2]

/-- Joined pieces are told apart again. -/
theorem split_intercalate (nonempty : pieces ≠ []) (absent : ∀ piece ∈ pieces, separator ∉ piece) :
    split separator (List.intercalate [separator] pieces) = pieces := by
  induction pieces with
  | nil => exact absurd rfl nonempty
  | cons piece rest ih =>
    rw [List.forall_mem_cons] at absent
    cases rest with
    | nil => rw [List.intercalate_singleton, split_of_notMem absent.1]
    | cons next rest =>
      rw [List.intercalate_cons_cons, List.append_assoc, List.singleton_append,
        split_append absent.1, ih (List.cons_ne_nil _ _) absent.2]

theorem split_ne_nil (separator : Char) (s : List Char) : split separator s ≠ [] := by
  cases s with
  | nil => exact List.cons_ne_nil _ _
  | cons c rest =>
    rw [split]
    split
    · exact List.cons_ne_nil _ _
    · split <;> exact List.cons_ne_nil _ _

/-- The pieces of a text make the text. -/
theorem intercalate_split (separator : Char) (s : List Char) :
    List.intercalate [separator] (split separator s) = s := by
  induction s with
  | nil => rfl
  | cons c rest ih =>
    obtain ⟨piece, pieces, parted⟩ := List.exists_cons_of_ne_nil (split_ne_nil separator rest)
    rw [parted] at ih
    rw [split, parted]
    split
    · next same =>
      rw [List.intercalate_cons_cons, ih, same]
      rfl
    · -- The character in front belongs to the first piece.
      rw [← ih]
      cases pieces with
      | nil => rw [List.intercalate_singleton, List.intercalate_singleton]
      | cons next pieces =>
        rw [List.intercalate_cons_cons, List.intercalate_cons_cons]
        rfl

end Text

namespace Url

variable {c : Char} {s scheme host : List Char} {segments added : List (List Char)} {n : Nat}
  {number : Option Nat}

/-! ## What is in normal form -/

theorem toLower_eq_self (h : ¬ (0x41 ≤ c.toNat ∧ c.toNat ≤ 0x5A)) : c.toLower = c := by
  delta Char.toLower
  split
  · next upper =>
    simp only [UInt32.le_iff_toNat_le, Char.toNat_val, Char.reduceVal, UInt32.reduceToNat,
      ge_iff_le] at upper
    exact absurd upper h
  · rfl

theorem lowerBetweenEscapes_eq_self (h : ∀ c ∈ s, c.toLower = c) : lowerBetweenEscapes s = s := by
  fun_induction lowerBetweenEscapes s with
  | case1 => rfl
  | case2 a b rest ih =>
    simp only [List.forall_mem_cons] at h
    rw [ih h.2.2.2]
  | case3 c rest other ih =>
    rw [List.forall_mem_cons] at h
    rw [ih h.2, h.1]

theorem upperEscapes_eq_self (unescaped : '%' ∉ s) : upperEscapes s = s := by
  fun_induction upperEscapes s with
  | case1 => rfl
  | case2 | case3 => exact absurd List.mem_cons_self unescaped
  | case4 c rest other ih => rw [ih (mt (List.mem_cons_of_mem c) unescaped)]

theorem normalEscapes_eq_self (unescaped : '%' ∉ s) : normalEscapes s = s := by
  fun_induction normalEscapes s with
  | case1 => rfl
  | case2 | case3 | case4 => exact absurd List.mem_cons_self unescaped
  | case5 c rest other ih => rw [ih (mt (List.mem_cons_of_mem c) unescaped)]

theorem percentsEscape_of_notMem (unescaped : '%' ∉ s) : percentsEscape s = true := by
  fun_induction percentsEscape s with
  | case1 => rfl
  | case2 => exact absurd List.mem_cons_self unescaped
  | case3 c rest other ih =>
    rw [List.mem_cons, not_or] at unescaped
    rw [ih unescaped.2, Bool.and_true]
    exact decide_eq_true (Ne.symm unescaped.1)

theorem controlEscape?_cons (other : c ≠ '%') (s : List Char) :
    controlEscape? (c :: s) = controlEscape? s := by
  -- A single step of the recursion is enough: behind any other character it goes on.
  have step (below) : controlEscape?._f (c :: s) below = below.1 := by
    simp [controlEscape?._f, other]
  delta controlEscape?
  exact step _

theorem controlEscape?_eq_none (unescaped : '%' ∉ s) : controlEscape? s = none := by
  induction s with
  | nil => rfl
  | cons c s ih =>
    rw [List.mem_cons, not_or] at unescaped
    rw [controlEscape?_cons (Ne.symm unescaped.1), ih unescaped.2]

theorem encodeComponent_eq_self {allowed : Char → Bool} (unescaped : '%' ∉ s)
    (h : ∀ c ∈ s, allowed c = true) : encodeComponent allowed s = s := by
  rw [encodeComponent, upperEscapes_eq_self unescaped]
  exact quote_eq_self fun c member => by simp [h c member]

/-! ## Hosts -/

/-- A host of small letters, digits, hyphens and points, with no point in front. -/
structure IsCanonicalHost (host : List Char) : Prop where
  named : host ≠ []
  characters : ∀ c ∈ host, c.isLower = true ∨ c.isDigit = true ∨ c = '-' ∨ c = '.'
  first : host.head? ≠ some '.'

theorem IsCanonicalHost.isUnreserved (h : IsCanonicalHost host) :
    ∀ c ∈ host, isUnreserved c = true := by
  intro c member
  rcases h.characters c member with lower | digit | rfl | rfl
  · simp [Url.isUnreserved, isAlphanum_of_isLower lower]
  · simp [Url.isUnreserved, Char.isAlphanum, digit]
  · rfl
  · rfl

theorem IsCanonicalHost.toLower_eq (h : IsCanonicalHost host) : ∀ c ∈ host, c.toLower = c := by
  intro c member
  rcases h.characters c member with lower | digit | rfl | rfl
  · have := isLower_iff.mp lower
    exact toLower_eq_self (by omega)
  · have := Char.isDigit_iff_toNat.mp digit
    simp only [Char.reduceToNat] at this
    exact toLower_eq_self (by omega)
  · rfl
  · rfl

theorem IsCanonicalHost.notMem (h : IsCanonicalHost host) {d : Char}
    (reserved : Url.isUnreserved d = false) : d ∉ host := fun member =>
  absurd (h.isUnreserved d member) (by simp [reserved])

/-- A name in normal form, or one of numbers, stays as it is. -/
theorem IsCanonicalHost.normalName_eq (h : IsCanonicalHost host) : normalName host = .ok host := by
  rw [normalName]
  split
  · rfl
  · have labels : ∀ label ∈ Text.split '.' host, normalLabel label = .ok label := by
      intro label among
      have ascii : isAscii label = true := List.all_eq_true.mpr fun c member =>
        decide_eq_true (isPlain_of_isUnreserved
          (h.isUnreserved c (Text.mem_of_mem_split among member).1)).ascii
      rw [normalLabel, if_pos ascii, lowerBetweenEscapes_eq_self fun c member =>
        h.toLower_eq c (Text.mem_of_mem_split among member).1]
    rw [normalEscapes_eq_self (h.notMem rfl), mapM_eq_ok_self labels]
    exact congrArg Except.ok (Text.intercalate_split '.' host)

/-! ## Authorities -/

/-- The digits of a positive number do not begin with a zero. -/
theorem dropWhile_toDigits (positive : 0 < n) :
    (Nat.toDigits 10 n).dropWhile (· = '0') = Nat.toDigits 10 n := by
  -- In front of the last digit stand those of a tenth of the number.
  induction n using Nat.strong_induction_on with
  | _ n ih =>
    by_cases small : n < 10
    · have nonzero : ∀ n < 10, 0 < n → Nat.digitChar n ≠ '0' := by decide
      rw [Nat.toDigits_of_lt_base small]
      exact List.dropWhile_cons_of_neg (by simpa using nonzero n small positive)
    · have front := ih (n / 10) (by omega) (by omega)
      rw [Nat.toDigits_of_base_le (by decide) (by omega), List.dropWhile_append, front,
        if_neg (by simp [Nat.toDigits_ne_nil])]

/-- The digits of a number in range are all read. -/
theorem numberDigits?_toString (positive : 0 < n) (small : n < 0x10000) :
    numberDigits? (toString n).toList = some (toString n).toList := by
  have decimal : (toString n).toList.all Char.isDigit = true :=
    List.all_eq_true.mpr fun c member => isDigit_of_mem_toString member
  have zeros : (toString n).toList.dropWhile (· = '0') = (toString n).toList := by
    rw [Nat.toString_eq_repr, Nat.toList_repr]
    exact dropWhile_toDigits positive
  rw [numberDigits?, zeros, decimal]
  exact if_pos (decide_eq_true (length_toString_le small))

/-- Authorities in normal form, without user information: a host, or a host with a number. -/
inductive IsCanonicalAuthority : Authority → List Char → Prop
  | bare {host : List Char} (named : IsCanonicalHost host) :
      IsCanonicalAuthority ⟨[], host, none⟩ host
  | numbered {host : List Char} {n : Nat} (named : IsCanonicalHost host) (least : 1 ≤ n)
      (greatest : n ≤ 65535) :
      IsCanonicalAuthority ⟨[], host, some n⟩ (host ++ ':' :: (toString n).toList)

variable {a : Authority}

theorem IsCanonicalHost.isEncoded (h : IsCanonicalHost host) :
    isEncoded (fun c => c ≠ '[' && c ≠ ']') host = true := by
  have unbracketed : ∀ c ∈ host, c ≠ '[' ∧ c ≠ ']' := fun c member =>
    ⟨ne_of_mem_of_not_mem member (h.notMem rfl), ne_of_mem_of_not_mem member (h.notMem rfl)⟩
  rw [Url.isEncoded, percentsEscape_of_notMem (h.notMem rfl), Bool.true_and, List.all_eq_true]
  exact fun c member => by simp [unbracketed c member]

/-- What is behind a name in a location is looked at for itself. -/
theorem IsCanonicalHost.splitLocation?_append (h : IsCanonicalHost host) (rest : List Char)
    (front : (host ++ rest).takeWhile (· ≠ ':') = host) {result : Option (List Char × List Char)}
    (behind : (match dropFinalLineFeed rest with
      | [] => some (host, [])
      | ':' :: number => (numberDigits? number).map fun digits => (host, digits)
      | _ => none) = result) :
    splitLocation? (host ++ rest) = result := by
  have unopened : (host ++ rest).head? ≠ some '[' := by
    obtain ⟨c, name, rfl⟩ := List.exists_cons_of_ne_nil h.named
    rintro ⟨⟩
    exact h.notMem rfl List.mem_cons_self
  simp only [splitLocation?, unopened, Bool.false_eq_true, if_false, front,
    h.isEncoded, List.drop_left, Bool.not_true]
  exact behind

/-- A location in normal form is taken apart into its host and the digits of its number. -/
theorem IsCanonicalAuthority.exists_splitLocation? (h : IsCanonicalAuthority a s) :
    ∃ digits, splitLocation? s = some (a.host, digits) ∧
      portNumber? digits = some a.portNumber := by
  cases h with
  | @bare host named =>
    have other := Text.all_ne_of_notMem (named.notMem (d := ':') rfl)
    have split := named.splitLocation?_append [] (by simpa using other) rfl
    rw [List.append_nil] at split
    exact ⟨[], split, rfl⟩
  | @numbered host n named least greatest =>
    have other := Text.all_ne_of_notMem (named.notMem (d := ':') rfl)
    have kept : dropFinalLineFeed (':' :: (toString n).toList) = ':' :: (toString n).toList := by
      refine if_neg fun ending => ?_
      rcases List.mem_cons.mp (List.mem_of_getLast? ending) with colon | digit
      · exact absurd colon (by decide)
      · exact absurd (isDigit_of_mem_toString digit) (by decide)
    refine ⟨(toString n).toList, named.splitLocation?_append _ ?_ ?_, ?_⟩
    · rw [List.takeWhile_append_of_pos other, List.takeWhile_cons_of_neg (by decide),
        List.append_nil]
    · rw [kept]
      show (numberDigits? (toString n).toList).map _ = _
      rw [numberDigits?_toString (by omega) (by omega), Option.map_some]
    · rw [portNumber?, natOfDigits_toString]
      dsimp only
      rw [if_neg (by omega), if_pos (by omega)]

theorem IsCanonicalAuthority.named (h : IsCanonicalAuthority a s) : IsCanonicalHost a.host := by
  cases h with
  | bare named => exact named
  | numbered named => exact named

theorem IsCanonicalAuthority.text_eq (h : IsCanonicalAuthority a s) : a.text = s := by
  cases h with
  | bare named => simp [Authority.text]
  | numbered named => simp [Authority.text]

/-- The characters of an authority in normal form are unreserved, or colons. -/
theorem IsCanonicalAuthority.isUnreserved_or (h : IsCanonicalAuthority a s) :
    ∀ c ∈ s, isUnreserved c = true ∨ c = ':' := by
  cases h with
  | bare named => exact fun c member => .inl (named.isUnreserved c member)
  | numbered named =>
    intro c member
    rcases List.mem_append.mp member with member | member
    · exact .inl (named.isUnreserved c member)
    rcases List.mem_cons.mp member with rfl | member
    · exact .inr rfl
    · have digit := isDigit_of_mem_toString member
      exact .inl (by simp [Url.isUnreserved, Char.isAlphanum, digit])

/-- An authority in normal form is taken apart to what it was put together from. -/
theorem IsCanonicalAuthority.parse_eq (h : IsCanonicalAuthority a s) :
    Authority.parse true s = .ok a := by
  obtain ⟨digits, located, numbered⟩ := h.exists_splitLocation?
  have unsigned : '@' ∉ s := fun member => by
    rcases h.isUnreserved_or '@' member with unreserved | colon
    · exact absurd unreserved (by decide)
    · exact absurd colon (by decide)
  have clean : controlError? a.host = none := by
    have visible : a.host.find? isControlOrSpace = none := List.find?_eq_none.mpr fun c member => by
      have plain := lt_of_isUnreserved (h.named.isUnreserved c member)
      have ascii := h.named.notMem (d := '\x7F') rfl
      simp only [isControlOrSpace, Bool.or_eq_true, decide_eq_true_eq, not_or]
      exact ⟨by omega, ne_of_mem_of_not_mem member ascii⟩
    rw [controlError?, visible]
    dsimp only
    rw [controlEscape?_eq_none (h.named.notMem rfl), Option.map_none]
  have normal : Authority.normalHost a.host = .ok a.host := by
    have unopened : a.host.head? ≠ some '[' := fun opened =>
      h.named.notMem rfl (List.mem_of_mem_head? opened)
    rw [Authority.normalHost, if_neg unopened, h.named.normalName_eq]
    rfl
  have userinfo : a.userinfo = [] := by
    cases h <;> rfl
  have apart : splitCleanLocation s = .ok (a.host, digits) := by
    rw [splitCleanLocation, located]
    dsimp only
    rw [clean]
  rw [Authority.parse, Text.splitLast_of_notMem unsigned]
  refine bind_eq_ok_iff.mpr ⟨_, apart, ?_⟩
  dsimp only
  rw [numbered]
  refine bind_eq_ok_iff.mpr ⟨_, normal, ?_⟩
  have encoded : encodeComponent isUserinfoChar [] = a.userinfo := userinfo.symm
  rw [if_pos rfl, encoded]

/-! ## Paths -/

/-- A segment of unreserved characters that is no dot segment. -/
structure IsCanonicalSegment (segment : List Char) : Prop where
  nonempty : segment ≠ []
  characters : ∀ c ∈ segment, isUnreserved c = true
  notHere : segment ≠ here
  notAbove : segment ≠ above

instance (segment : List Char) : Decidable (IsCanonicalSegment segment) :=
  decidable_of_iff
    (segment ≠ [] ∧ segment.all isUnreserved = true ∧ segment ≠ here ∧ segment ≠ above)
    ⟨fun h => ⟨h.1, List.all_eq_true.mp h.2.1, h.2.2.1, h.2.2.2⟩,
      fun h => ⟨h.nonempty, List.all_eq_true.mpr h.characters, h.notHere, h.notAbove⟩⟩

/-- Segments in a row, each with a slash in front. -/
def writeSegments (segments : List (List Char)) : List Char := segments.flatMap ('/' :: ·)

theorem writeSegments_append (segments added : List (List Char)) :
    writeSegments (segments ++ added) = writeSegments segments ++ writeSegments added :=
  List.flatMap_append

/-- Behind the first one, each of joined segments has a slash in front. -/
theorem joinSegments_cons (first : List Char) (segments : List (List Char)) :
    joinSegments (first :: segments) = first ++ writeSegments segments := by
  rw [joinSegments]
  induction segments generalizing first with
  | nil => simp [writeSegments]
  | cons segment rest ih =>
    rw [List.intercalate_cons_cons, ih, List.append_assoc]
    rfl

theorem followDots_eq (passed : List (List Char))
    (h : ∀ segment ∈ segments, segment ≠ here ∧ segment ≠ above) :
    followDots passed segments = passed.reverse ++ segments := by
  induction segments generalizing passed with
  | nil => rw [followDots, List.append_nil]
  | cons segment rest ih =>
    rw [List.forall_mem_cons] at h
    rw [followDots, if_neg h.1.1, if_neg h.1.2, ih _ h.2, List.reverse_cons, List.append_assoc]
    rfl

theorem normalPath_eq_self (h : ∀ segment ∈ segments, IsCanonicalSegment segment) :
    normalPath (writeSegments segments) = writeSegments segments := by
  have whole : ∀ segment ∈ [] :: segments, '/' ∉ segment := by
    rw [List.forall_mem_cons]
    refine ⟨List.not_mem_nil, fun segment among member => ?_⟩
    exact absurd ((h segment among).characters '/' member) (by decide)
  have split : Text.split '/' (writeSegments segments) = [] :: segments := by
    rw [← List.nil_append (writeSegments segments), ← joinSegments_cons]
    exact Text.split_intercalate (List.cons_ne_nil _ _) whole
  have undotted : ∀ segment ∈ [] :: segments, segment ≠ here ∧ segment ≠ above := by
    rw [List.forall_mem_cons]
    exact ⟨by decide, fun segment among => ⟨(h segment among).notHere, (h segment among).notAbove⟩⟩
  have followed : followDots [] ([] :: segments) = [] :: segments := followDots_eq [] undotted
  have last :
      ¬ (([] :: segments).getLast? = some here ∨ ([] :: segments).getLast? = some above) := by
    rintro (dots | dots)
    · exact (undotted here (List.mem_of_getLast? dots)).1 rfl
    · exact (undotted above (List.mem_of_getLast? dots)).2 rfl
  rw [normalPath, split, followed]
  simp only [last, List.head?_cons, ne_eq, not_true_eq_false, and_false, if_false]
  rw [List.append_nil, List.nil_append, joinSegments_cons, List.nil_append]

/-- The characters of segments in normal form are unreserved, or slashes. -/
theorem isUnreserved_or_of_mem_writeSegments
    (h : ∀ segment ∈ segments, IsCanonicalSegment segment) :
    ∀ c ∈ writeSegments segments, isUnreserved c = true ∨ c = '/' := by
  intro c member
  obtain ⟨segment, among, within⟩ := List.mem_flatMap.mp member
  rcases List.mem_cons.mp within with rfl | within
  · exact .inr rfl
  · exact .inl ((h segment among).characters c within)

/-- A path of segments in normal form is prepared to itself. -/
theorem preparePath_eq_self (nonempty : segments ≠ [])
    (h : ∀ segment ∈ segments, IsCanonicalSegment segment) :
    preparePath true (writeSegments segments) = writeSegments segments := by
  have clear := isUnreserved_or_of_mem_writeSegments h
  have unescaped : '%' ∉ writeSegments segments := fun member =>
    absurd (clear '%' member) (by decide)
  have allowed : ∀ c ∈ writeSegments segments, isPathChar c = true := fun c member => by
    rcases clear c member with unreserved | rfl
    · simp [isPathChar, isUserinfoChar, unreserved]
    · rfl
  rw [preparePath, if_pos rfl, normalPath_eq_self h, encodeComponent_eq_self unescaped allowed]
  obtain ⟨segment, rest, rfl⟩ := List.exists_cons_of_ne_nil nonempty
  exact if_pos rfl

/-! ## Addresses -/

/-- Addresses in normal form: a scheme of the two, an authority in normal form, and segments in
normal form. -/
inductive IsCanonical (segments : List (List Char)) : List Char → Prop
  | intro {scheme authority : List Char} {a : Authority} (protocol : IsProtocol scheme)
      (form : IsCanonicalAuthority a authority)
      (path : ∀ segment ∈ segments, IsCanonicalSegment segment) :
      IsCanonical segments (scheme ++ ':' :: '/' :: '/' :: (authority ++ writeSegments segments))

/-- More segments may come behind an address. -/
theorem IsCanonical.append (h : IsCanonical segments s)
    (more : ∀ segment ∈ added, IsCanonicalSegment segment) :
    IsCanonical (segments ++ added) (s ++ writeSegments added) := by
  cases h with
  | @intro scheme authority a protocol form path =>
    have whole : scheme ++ ':' :: '/' :: '/' :: (authority ++ writeSegments segments) ++
          writeSegments added =
        scheme ++ ':' :: '/' :: '/' :: (authority ++ writeSegments (segments ++ added)) := by
      rw [writeSegments_append]
      simp
    rw [whole]
    exact .intro protocol form (List.forall_mem_append.mpr ⟨path, more⟩)

theorem IsCanonical.isClear (h : IsCanonical segments s) : ∀ c ∈ s, IsClear c := by
  cases h with
  | intro protocol form path =>
    intro c member
    simp only [List.mem_append, List.mem_cons] at member
    rcases member with member | rfl | rfl | rfl | member | member
    · exact .inl (protocol.isUnreserved c member)
    · exact .inr (.inl rfl)
    · exact .inr (.inr rfl)
    · exact .inr (.inr rfl)
    · exact (form.isUnreserved_or c member).imp id .inl
    · exact (isUnreserved_or_of_mem_writeSegments path c member).imp id .inr

theorem IsCanonical.isSendable (h : IsCanonical segments s) : isSendable s = true := by
  cases h with
  | intro protocol form path => exact isSendable_of_isProtocol protocol _

/-- An address in normal form does not end in a slash. -/
theorem IsCanonical.getLast?_ne (h : IsCanonical segments s) : s.getLast? ≠ some '/' := by
  -- It ends in its authority or in a segment.
  have ending : ∃ front last, s = front ++ last ∧ last ≠ [] ∧ '/' ∉ last := by
    cases h with
    | @intro scheme authority a protocol form path =>
      rcases List.eq_nil_or_concat segments with rfl | ⟨init, segment, rfl⟩
      · have named : authority ≠ [] := form.text_eq ▸ Authority.text_ne_nil form.named.named
        refine ⟨scheme ++ [':', '/', '/'], authority, by simp [writeSegments], named,
          fun slash => ?_⟩
        exact absurd (form.isUnreserved_or '/' slash) (by decide)
      · have last := path segment (by simp)
        refine ⟨scheme ++ ':' :: '/' :: '/' :: (authority ++ writeSegments init ++ ['/']), segment,
          by simp [writeSegments], last.nonempty, fun slash => ?_⟩
        exact absurd (last.characters '/' slash) (by decide)
  obtain ⟨front, last, rfl, nonempty, unslashed⟩ := ending
  rw [List.getLast?_append, List.getLast?_eq_some_getLast nonempty, Option.some_or]
  exact fun slash => unslashed (Option.some.inj slash ▸ List.getLast_mem nonempty)

/-- What is written with segments in normal form is taken apart into its components. -/
theorem parse_writeSegments {authority : List Char} {ends : Char → Bool}
    (protocol : IsProtocol scheme) (form : IsCanonicalAuthority a authority)
    (path : ∀ segment ∈ segments, IsCanonicalSegment segment) (nonempty : segments ≠ [])
    (inside : ∀ c, isUnreserved c = true ∨ c = ':' → ends c = false) (slash : ends '/' = true) :
    Reference.parse ends (scheme ++ ':' :: '/' :: '/' :: (authority ++ writeSegments segments)) =
      ⟨scheme, authority, writeSegments segments, [], [], []⟩ := by
  have clear := isUnreserved_or_of_mem_writeSegments path
  have unmarked : '#' ∉ writeSegments segments := fun member =>
    absurd (clear '#' member) (by decide)
  have unasked : '?' ∉ writeSegments segments := fun member => absurd (clear '?' member) (by decide)
  obtain ⟨segment, rest, rfl⟩ := List.exists_cons_of_ne_nil nonempty
  have written : writeSegments (segment :: rest) = '/' :: (segment ++ writeSegments rest) := rfl
  rw [written] at unmarked unasked ⊢
  rw [parse_address protocol (fun c member => inside c (form.isUnreserved_or c member)) slash,
    Text.splitFirst_of_notMem unmarked, Text.splitFirst_of_notMem unasked]

theorem endsAddressAuthority_eq_false (h : isUnreserved c = true ∨ c = ':') :
    endsAddressAuthority c = false := by
  have other : ∀ d ∈ ['/', '?', '#', '\\'], c ≠ d := by
    have all : ∀ d ∈ ['/', '?', '#', '\\'], ¬ (isUnreserved d = true ∨ d = ':') :=
      List.all_iff_forall_prop.mp (by decide)
    rintro d member rfl
    exact all c member h
  simp only [List.forall_mem_cons] at other
  simp [endsAddressAuthority, other]

theorem isNormalisable_of_isProtocol (h : IsProtocol scheme) : isNormalisable scheme = true := by
  rcases h with rfl | rfl <;> rfl

/-- The components of an address in normal form are requested as they are. -/
theorem prepareComponents_eq {authority : List Char} (protocol : IsProtocol scheme)
    (form : IsCanonicalAuthority a authority)
    (path : ∀ segment ∈ segments, IsCanonicalSegment segment) (nonempty : segments ≠ []) :
    let address := scheme ++ ':' :: '/' :: '/' :: (authority ++ writeSegments segments)
    prepareComponents address address =
      .ok ⟨scheme, authority, writeSegments segments, [], [], []⟩ := by
  intro address
  have parsed : Reference.parse endsAddressAuthority address =
      ⟨scheme, authority, writeSegments segments, [], [], []⟩ :=
    parse_writeSegments protocol form path nonempty (fun c => endsAddressAuthority_eq_false) rfl
  have schemed : scheme ≠ [] := by
    rcases protocol with rfl | rfl <;> decide
  have prepared : prepareHost a.host = .ok a.host := by
    have ascii : isAscii a.host = true := List.all_eq_true.mpr fun c member =>
      decide_eq_true (isPlain_of_isUnreserved (form.named.isUnreserved c member)).ascii
    have first : ¬ (a.host.head? = some '*' ∨ a.host.head? = some '.') := by
      rintro (asterisk | point)
      · exact form.named.notMem rfl (List.mem_of_mem_head? asterisk)
      · exact form.named.first point
    rw [prepareHost, if_pos ascii, if_neg first]
  rw [prepareComponents, parsed]
  dsimp only
  rw [isNormalisable_of_isProtocol protocol, form.parse_eq]
  refine bind_eq_ok_iff.mpr ⟨a, rfl, ?_⟩
  rw [if_neg schemed, if_neg form.named.named]
  refine bind_eq_ok_iff.mpr ⟨_, prepared, ?_⟩
  rw [preparePath_eq_self nonempty path, form.text_eq]
  rfl

/-- An address of one of the two protocols is complete as it is typed in. -/
theorem prepare_of_isProtocol (protocol : IsProtocol scheme) (t : List Char) :
    prepare (scheme ++ ':' :: t) =
      (prepareComponents (scheme ++ ':' :: t) (scheme ++ ':' :: t)).map fun r =>
        requote r.text := by
  rcases protocol with rfl | rfl <;> rfl

/-- An address in normal form with a segment is requested as it stands. -/
theorem IsCanonical.prepare_eq (h : IsCanonical segments s) (nonempty : segments ≠ []) :
    prepare s = .ok s := by
  have settled : requote s = s := requote_eq_of_isClear h.isClear
  cases h with
  | @intro scheme authority a protocol form path =>
    have schemed : scheme ≠ [] := by
      rcases protocol with rfl | rfl <;> decide
    have authorised : authority ≠ [] := form.text_eq ▸ Authority.text_ne_nil form.named.named
    rw [prepare_of_isProtocol protocol]
    refine map_eq_ok_iff.mpr ⟨_, prepareComponents_eq protocol form path nonempty, ?_⟩
    obtain ⟨segment, rest, rfl⟩ := List.exists_cons_of_ne_nil nonempty
    rw [@Reference.text_eq (segment ++ writeSegments rest) _ schemed authorised rfl rfl]
    dsimp only
    rw [if_pos rfl, if_pos rfl, List.append_nil, List.append_nil]
    exact settled

theorem endsReferenceAuthority_of_endsAddressAuthority (h : endsAddressAuthority c = false) :
    endsReferenceAuthority c = false := by
  simp only [endsAddressAuthority, Bool.or_eq_false_iff] at h
  simp [endsReferenceAuthority, h]

/-- An address in normal form with a segment can be taken apart, and holds no credentials. -/
theorem IsCanonical.exists_takeApart (h : IsCanonical segments s) (nonempty : segments ≠ []) :
    ∃ r, takeApart s = .ok r ∧ r.fragment = [] ∧ isAuthorized r = .ok false := by
  have settled := tidy_eq_self fun c member => (h.isClear c member).visible
  cases h with
  | @intro scheme authority a protocol form path =>
    have unsigned : '@' ∉ authority := fun member =>
      absurd (form.isUnreserved_or '@' member) (by decide)
    refine ⟨⟨scheme, authority, writeSegments segments, [], [], []⟩, ?_, rfl, ?_⟩
    · rw [takeApart, settled, parse_writeSegments protocol form path nonempty (fun c clear =>
        endsReferenceAuthority_of_endsAddressAuthority (endsAddressAuthority_eq_false clear)) rfl]
      dsimp only
      rw [authorityDefect?_eq_none form.isUnreserved_or]
    · rw [isAuthorized, Reference.credentials?, Text.splitLast_of_notMem unsigned]
      rfl

end Url

end InstanceIdentity
