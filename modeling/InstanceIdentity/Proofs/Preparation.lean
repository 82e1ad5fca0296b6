import InstanceIdentity.Proofs.Hosts
import InstanceIdentity.Url.Defect

/-!
# Prepared addresses

An address that requests can be sent to has come out of its preparation in one form: a
scheme of the two, an authority, and the rest behind a slash. Its authority can be told
apart from the rest, and the number in it can be read. A fragment is in it only if the
address had one.

## Main definitions

* `Url.IsLocation`, `Url.IsAuthority` — hosts with the digits of a number
* `Url.IsReadable` — digits that stand for a number, or for none
* `Url.IsRequested` — the form of a prepared address

## Main results

* `Url.parse_address` — taking apart what is written with a scheme and an authority
* `Url.isRequested_of_prepare` — the form of what comes out of the preparation
* `Url.IsRequested.exists_takeApart` — taking it apart again
-/

namespace InstanceIdentity

namespace Url

variable {c : Char} {m : Bool} {s t u scheme authority location digits rest address url : List Char}
  {ends : Char → Bool}

/-! ## Taking apart -/

/-- The schemes of the two protocols. -/
def IsProtocol (scheme : List Char) : Prop := scheme = "http".toList ∨ scheme = "https".toList

theorem splitScheme_of_isProtocol (h : IsProtocol scheme) (s : List Char) :
    splitScheme (scheme ++ ':' :: s) = (scheme, s) := by
  rcases h with rfl | rfl <;> rfl

/-- What is written with a scheme, an authority and a slash behind it is taken apart there. -/
theorem parse_address (protocol : IsProtocol scheme) (inside : ∀ c ∈ authority, ends c = false)
    (slash : ends '/' = true) (rest : List Char) :
    Reference.parse ends (scheme ++ ':' :: '/' :: '/' :: (authority ++ '/' :: rest)) =
      { scheme := scheme
        authority := authority
        path := (Text.splitFirst '?' (Text.splitFirst '#' ('/' :: rest)).1).1
        query := (Text.splitFirst '?' (Text.splitFirst '#' ('/' :: rest)).1).2
        fragment := (Text.splitFirst '#' ('/' :: rest)).2 } := by
  have goesOn : ∀ c ∈ authority, (!ends c) = true := fun c member => by simp [inside c member]
  have parted : splitAuthority ends ('/' :: '/' :: (authority ++ '/' :: rest)) =
      (authority, '/' :: rest) := by
    rw [splitAuthority, List.takeWhile_append_of_pos goesOn, List.dropWhile_append_of_pos goesOn,
      List.takeWhile_cons_of_neg (by simp [slash]), List.dropWhile_cons_of_neg (by simp [slash]),
      List.append_nil]
  rw [Reference.parse, splitScheme_of_isProtocol protocol]
  dsimp only
  rw [parted]

theorem isSchemeChar_toLower (h : isSchemeChar c = true) : isSchemeChar c.toLower = true := by
  rcases toLower_eq_or c with same | lower
  · rwa [same]
  · simp [isSchemeChar, isAlphanum_of_isLower lower]

/-- A scheme has the characters of one, and the text behind it is a part of the whole. -/
theorem splitScheme_mem (s : List Char) :
    (∀ c ∈ (splitScheme s).1, isSchemeChar c = true) ∧ ∀ c ∈ (splitScheme s).2, c ∈ s := by
  rw [splitScheme]
  split
  · next c name rest front back =>
    split
    · refine ⟨fun d member => ?_, fun d member => ?_⟩
      · obtain ⟨e, among, rfl⟩ := List.mem_map.mp member
        rw [← front] at among
        exact isSchemeChar_toLower (List.mem_takeWhile_imp among)
      · have behind : d ∈ s.dropWhile isSchemeChar := back ▸ List.mem_cons_of_mem _ member
        exact (List.dropWhile_sublist _).mem behind
    · simp
  · simp

/-- Nothing that ends an authority is in it, and the text behind it is a part of the whole. -/
theorem splitAuthority_mem (ends : Char → Bool) (s : List Char) :
    (∀ c ∈ (splitAuthority ends s).1, ends c = false) ∧
      ∀ c ∈ (splitAuthority ends s).2, c ∈ s := by
  rw [splitAuthority.eq_def]
  split
  · next rest =>
    refine ⟨fun c member => by simpa using List.mem_takeWhile_imp member, fun c member => ?_⟩
    have behind := (List.dropWhile_sublist _).mem member
    exact List.mem_cons_of_mem _ (List.mem_cons_of_mem _ behind)
  · simp

/-- The scheme of an address has the characters of one. -/
theorem isSchemeChar_of_parse (ends : Char → Bool) (s : List Char) :
    ∀ c ∈ (Reference.parse ends s).scheme, isSchemeChar c = true :=
  (splitScheme_mem s).1

/-- Nothing that ends the authority of an address is in it. -/
theorem ends_of_parse (ends : Char → Bool) (s : List Char) :
    ∀ c ∈ (Reference.parse ends s).authority, ends c = false :=
  (splitAuthority_mem ends _).1

/-- Neither the path nor the query of an address holds the mark of a fragment. -/
theorem hash_notMem_of_parse (ends : Char → Bool) (s : List Char) :
    '#' ∉ (Reference.parse ends s).path ∧ '#' ∉ (Reference.parse ends s).query := by
  have front := (Text.splitFirst_mem '#' (splitAuthority ends (splitScheme s).2).2).1
  have parts := Text.splitFirst_mem '?'
    (Text.splitFirst '#' (splitAuthority ends (splitScheme s).2).2).1
  exact ⟨fun member => (front '#' (parts.1 '#' member).1).2 rfl,
    fun member => (front '#' (parts.2 '#' member)).2 rfl⟩

/-- Without the mark there is no fragment. -/
theorem fragment_of_parse (ends : Char → Bool) (absent : '#' ∉ s) :
    (Reference.parse ends s).fragment = [] := by
  have unmarked : '#' ∉ (splitAuthority ends (splitScheme s).2).2 := fun member =>
    absent ((splitScheme_mem s).2 _ ((splitAuthority_mem ends _).2 _ member))
  show (Text.splitFirst '#' (splitAuthority ends (splitScheme s).2).2).2 = []
  rw [Text.splitFirst_of_notMem unmarked]

/-! ## Hosts with numbers -/

/-- A host with the digits of a number behind it, or without a number. -/
inductive IsLocation : List Char → List Char → Prop
  | bare {host : List Char} (form : IsHost host) : IsLocation [] host
  | numbered {host digits : List Char} (form : IsHost host)
      (decimal : ∀ c ∈ digits, c.isDigit = true) : IsLocation digits (host ++ ':' :: digits)

/-- A location, perhaps behind user information, in which nothing ends an authority. -/
inductive IsAuthority (digits : List Char) : List Char → Prop
  | location {s : List Char} (located : IsLocation digits s) : IsAuthority digits s
  | userinfo {s front : List Char} (inside : ∀ c ∈ front, c ∉ ['#', '/', '?'])
      (located : IsLocation digits s) : IsAuthority digits (front ++ '@' :: s)

/-- The delimiters in a host are its brackets, and colons between them. -/
theorem IsHost.eq_of_mem (h : IsHost s) (member : c ∈ s) (delimiter : IsDelimiter c) :
    c = '[' ∨ c = ']' ∨ c = ':' := by
  cases h with
  | name apart => exact absurd delimiter (apart c member)
  | bracketed colons =>
    rcases List.mem_cons.mp member with rfl | member
    · exact .inl rfl
    rcases List.mem_append.mp member with member | member
    · exact .inr (.inr (colons c member delimiter))
    · exact .inr (.inl (List.mem_singleton.mp member))

theorem not_isDelimiter_of_isDigit (h : c.isDigit = true) : ¬ IsDelimiter c :=
  (isPlain_of_isDigit h).apart

theorem IsLocation.eq_of_mem (h : IsLocation digits s) (member : c ∈ s)
    (delimiter : IsDelimiter c) : c = '[' ∨ c = ']' ∨ c = ':' := by
  cases h with
  | bare form => exact form.eq_of_mem member delimiter
  | numbered form decimal =>
    rcases List.mem_append.mp member with member | member
    · exact form.eq_of_mem member delimiter
    rcases List.mem_cons.mp member with rfl | member
    · exact .inr (.inr rfl)
    · exact absurd delimiter (not_isDelimiter_of_isDigit (decimal c member))

theorem IsLocation.at_notMem (h : IsLocation digits s) : '@' ∉ s := fun member =>
  absurd (h.eq_of_mem member (by decide)) (by decide)

/-- What ends an authority is none of its delimiters. -/
theorem endsReferenceAuthority_eq_false (h : c ∉ ['#', '/', '?']) :
    endsReferenceAuthority c = false := by
  simp_all [endsReferenceAuthority]

theorem IsLocation.endsReferenceAuthority_eq_false (h : IsLocation digits s) :
    ∀ c ∈ s, endsReferenceAuthority c = false := by
  intro c member
  refine Url.endsReferenceAuthority_eq_false fun ending => ?_
  have other : ∀ c ∈ ['#', '/', '?'], ¬ (c = '[' ∨ c = ']' ∨ c = ':') :=
    List.all_iff_forall_prop.mp (by decide)
  exact other c ending (h.eq_of_mem member (isDelimiter_of_mem ending))

/-- Nothing ends an authority inside of it. -/
theorem IsAuthority.endsReferenceAuthority_eq_false (h : IsAuthority digits s) :
    ∀ c ∈ s, endsReferenceAuthority c = false := by
  cases h with
  | location located => exact located.endsReferenceAuthority_eq_false
  | userinfo inside located =>
    intro c member
    rcases List.mem_append.mp member with member | member
    · exact Url.endsReferenceAuthority_eq_false (inside c member)
    rcases List.mem_cons.mp member with rfl | member
    · decide
    · exact located.endsReferenceAuthority_eq_false c member

/-! ### In canonical encoding -/

theorem Recodes.isHost (h : Recodes m s t) (form : IsHost s) : IsHost t := by
  cases form with
  | name apart =>
    exact .name fun c member delimiter => apart c (h.keeps c delimiter member) delimiter
  | @bracketed inner colons =>
    -- The brackets stay, and what is between them is encoded by itself.
    obtain ⟨back, opened, rfl⟩ := h.cons (by decide)
    obtain ⟨inner', behind, kept, empty, rfl⟩ := opened.split (d := ']') (b := []) (by decide)
    obtain rfl := empty.eq_self (by simp)
    exact .bracketed fun c member delimiter =>
      colons c (kept.keeps c delimiter member) delimiter

theorem Recodes.isLocation (h : Recodes m s t) (located : IsLocation digits s) :
    IsLocation digits t := by
  cases located with
  | bare form => exact .bare (h.isHost form)
  | numbered form decimal =>
    obtain ⟨host, number, host', kept, rfl⟩ := h.split (d := ':') (by decide)
    obtain rfl := kept.eq_self fun c member => .inl (by
      simp [isUnreserved, Char.isAlphanum, decimal c member])
    exact .numbered (host'.isHost form) decimal

theorem Recodes.isAuthority (h : Recodes m s t) (form : IsAuthority digits s) :
    IsAuthority digits t := by
  cases form with
  | location located => exact .location (h.isLocation located)
  | userinfo inside located =>
    obtain ⟨front, location, kept, behind, rfl⟩ := h.split (d := '@') (by decide)
    refine .userinfo (fun c member ending => ?_) (behind.isLocation located)
    exact inside c (kept.keeps c (isDelimiter_of_mem ending) member) ending

/-! ### Host and number -/

theorem IsAuthority.isLocation (h : IsAuthority digits s) :
    IsLocation digits (Text.splitLast '@' s).2 := by
  cases h with
  | location located => rwa [Text.splitLast_of_notMem located.at_notMem]
  | userinfo inside located => rwa [Text.splitLast_append located.at_notMem]

/-- The text of the number in a location: behind the first colon, or behind the first one after the
brackets. -/
def numberIn (location : List Char) : List Char :=
  if location.contains '[' then
    (Text.splitFirst ':' (Text.splitFirst ']' (Text.splitFirst '[' location).2).2).2
  else (Text.splitFirst ':' location).2

theorem Reference.snd_hostAndNumber (r : Reference) :
    r.hostAndNumber.2 = numberIn (Text.splitLast '@' r.authority).2 := by
  by_cases opened : (Text.splitLast '@' r.authority).2.contains '[' = true
  · simp only [hostAndNumber, numberIn, if_pos opened]
  · simp only [hostAndNumber, numberIn, if_neg opened]

/-- The number is looked for behind the host. -/
theorem IsHost.numberIn_append {host : List Char} (form : IsHost host) (unopened : '[' ∉ s) :
    numberIn (host ++ s) = (Text.splitFirst ':' s).2 := by
  cases form with
  | name apart =>
    have plain : '[' ∉ host := fun member => apart '[' member (by decide)
    have whole : ':' ∉ host := fun member => apart ':' member (by decide)
    rw [numberIn, if_neg (by simp [plain, unopened]), Text.snd_splitFirst_append whole]
  | @bracketed inner colons =>
    have unclosed : ']' ∉ inner := fun member => absurd (colons ']' member (by decide)) (by decide)
    have opened : Text.splitFirst '[' ('[' :: (inner ++ [']'] ++ s)) = ([], inner ++ ']' :: s) := by
      rw [List.append_assoc]
      exact Text.splitFirst_cons '[' _
    rw [numberIn, if_pos (by simp), List.cons_append, opened]
    dsimp only
    rw [Text.splitFirst_append unclosed]

theorem IsLocation.numberIn_eq (h : IsLocation digits s) : numberIn s = digits := by
  cases h with
  | bare form => simpa [Text.splitFirst] using form.numberIn_append (s := []) (by simp)
  | @numbered host digits form decimal =>
    have unopened : '[' ∉ ':' :: digits := by
      intro member
      rcases List.mem_cons.mp member with colon | member
      · exact absurd colon (by decide)
      · exact absurd (decimal '[' member) (by decide)
    rw [form.numberIn_append unopened]
    exact congrArg Prod.snd (Text.splitFirst_cons ':' digits)

/-- The number of an authority is the one behind its host. -/
theorem IsAuthority.number_eq {r : Reference} (h : IsAuthority digits r.authority) :
    r.hostAndNumber.2 = digits := by
  rw [r.snd_hostAndNumber, h.isLocation.numberIn_eq]

/-- Digits that stand for a number of a service, or for none. -/
def IsReadable (digits : List Char) : Prop := ∃ number, readNumber digits = .ok number

theorem isReadable_nil : IsReadable [] := ⟨none, rfl⟩

theorem natOfDigits_toString (n : Nat) : natOfDigits (toString n).toList = n := by
  rw [Nat.toString_eq_repr, Nat.toList_repr]
  refine Eq.trans ?_ (Nat.ofDigitChars_ten_toDigits (n := n))
  rw [Nat.ofDigitChars_eq_foldl]
  rfl

theorem isDigit_of_mem_toString {n : Nat} (member : c ∈ (toString n).toList) :
    c.isDigit = true := by
  rw [Nat.toString_eq_repr, Nat.toList_repr] at member
  exact Nat.isDigit_of_mem_toDigits (by decide) (by decide) member

theorem length_toString_le {n : Nat} (h : n < 0x10000) : (toString n).toList.length ≤ 5 := by
  rw [Nat.toString_eq_repr, Nat.toList_repr]
  exact (Nat.length_toDigits_le_iff (by decide) (by decide)).mpr (by omega)

/-- A number in range is read as it is written. -/
theorem readNumber_toString {n : Nat} (h : n < 0x10000) :
    readNumber (toString n).toList = .ok (some n) := by
  have decimal : (toString n).toList.all Char.isDigit = true :=
    List.all_eq_true.mpr fun c member => isDigit_of_mem_toString member
  have short := length_toString_le h
  have nonempty : (toString n).toList ≠ [] := by
    rw [Nat.toString_eq_repr, Nat.toList_repr]
    exact List.ne_nil_of_length_pos Nat.length_toDigits_pos
  rw [readNumber, if_neg nonempty, if_neg (by rw [decimal]; decide),
    if_neg (by rw [greatestDigits]; omega)]
  dsimp only
  rw [natOfDigits_toString, if_pos h]

theorem Authority.IsProper.isAuthority {a : Authority} (h : a.IsProper)
    (located : IsLocation digits location) :
    IsAuthority digits ((if a.userinfo = [] then [] else a.userinfo ++ ['@']) ++ location) := by
  split
  · exact .location located
  · rw [List.append_assoc]
    exact .userinfo h.userinfo located

/-- A proper authority is written with a number that can be read. -/
theorem Authority.IsProper.exists_isAuthority {a : Authority} (h : a.IsProper) :
    ∃ digits, IsReadable digits ∧ IsAuthority digits a.text := by
  rw [Authority.text, List.append_assoc]
  cases number : a.portNumber with
  | none =>
    rw [List.append_nil]
    exact ⟨[], isReadable_nil, h.isAuthority (.bare h.host)⟩
  | some n =>
    have written : IsLocation (toString n).toList (a.host ++ ':' :: (toString n).toList) :=
      .numbered h.host fun c member => isDigit_of_mem_toString member
    exact ⟨_, ⟨_, readNumber_toString (h.number n number)⟩, h.isAuthority written⟩

/-! ## Preparation -/

theorem mem_of_mem_followDots {passed segments : List (List Char)} {segment : List Char}
    (member : segment ∈ followDots passed segments) : segment ∈ passed ∨ segment ∈ segments := by
  -- A segment is dropped, or the one before is dropped with it, or it is passed.
  induction segments generalizing passed with
  | nil => exact .inl (List.mem_reverse.mp member)
  | cons first segments ih =>
    rw [followDots] at member
    split at member
    · exact (ih member).imp id (List.mem_cons_of_mem _)
    split at member
    · exact (ih member).imp List.mem_of_mem_tail (List.mem_cons_of_mem _)
    · rcases ih member with passed' | later
      · rcases List.mem_cons.mp passed' with rfl | passed'
        · exact .inr List.mem_cons_self
        · exact .inl passed'
      · exact .inr (List.mem_cons_of_mem _ later)

/-- A path in normal form has the characters of the path, and slashes. -/
theorem eq_or_mem_of_mem_normalPath {path : List Char} (member : c ∈ normalPath path) :
    c = '/' ∨ c ∈ path := by
  refine (eq_or_mem_of_mem_intercalate member).imp id fun ⟨segment, among, within⟩ => ?_
  -- The segments at the ends that are added are empty.
  have followed : segment ∈ followDots [] (Text.split '/' path) := by
    simp only [List.mem_append] at among
    rcases among with (added | followed) | added
    · split at added <;> simp_all
    · exact followed
    · split at added <;> simp_all
  rcases mem_of_mem_followDots followed with none | piece
  · cases none
  · exact (Text.mem_of_mem_split piece within).1

/-- A prepared path begins with a slash, and the mark of a fragment does not get into it. -/
theorem exists_preparePath {path : List Char} (unmarked : '#' ∉ path) (normal : Bool) :
    ∃ rest, preparePath normal path = '/' :: rest ∧ '#' ∉ rest := by
  have unmarked' : '#' ∉ if normal then encodeComponent isPathChar (normalPath path) else path := by
    split
    · intro member
      have kept := keeps_encodeComponent isPathChar _ '#' (by decide) member
      rcases eq_or_mem_of_mem_normalPath kept with slash | member
      · exact absurd slash (by decide)
      · exact unmarked member
    · exact unmarked
  rw [preparePath]
  revert unmarked'
  generalize (if normal then encodeComponent isPathChar (normalPath path) else path) = prepared
  intro unmarked'
  split
  · next slash =>
    obtain ⟨rest, rfl⟩ := List.head?_eq_some_iff.mp slash
    exact ⟨rest, rfl, mt (List.mem_cons_of_mem _) unmarked'⟩
  · exact ⟨prepared, rfl, unmarked'⟩

/-- Components that an address is prepared to. -/
structure Reference.IsPrepared (complete : List Char) (r : Reference) : Prop where
  scheme : r.scheme ≠ [] ∧ ∀ c ∈ r.scheme, isSchemeChar c = true
  parameters : r.parameters = []
  path : ∃ rest, r.path = '/' :: rest ∧ '#' ∉ rest
  query : '#' ∉ r.query
  fragment : '#' ∉ complete → r.fragment = []
  authority : IsProtocol r.scheme → ∃ a : Authority, a.IsProper ∧ a.host ≠ [] ∧ r.authority = a.text

theorem notMem_of_endsAddressAuthority (h : endsAddressAuthority c = false) :
    c ∉ ['#', '/', '?'] := by
  intro ending
  have all : ∀ c ∈ ['#', '/', '?'], endsAddressAuthority c = true :=
    List.all_iff_forall_prop.mp (by decide)
  rw [all c ending] at h
  cases h

theorem isPrepared_of_prepareComponents {complete : List Char} {r : Reference}
    (h : prepareComponents address complete = .ok r) : r.IsPrepared complete := by
  have signed := isSchemeChar_of_parse endsAddressAuthority complete
  have inside := ends_of_parse endsAddressAuthority complete
  have unmarked := hash_notMem_of_parse endsAddressAuthority complete
  have fragment := fragment_of_parse (s := complete) endsAddressAuthority
  have parameters : (Reference.parse endsAddressAuthority complete).parameters = [] := rfl
  rw [prepareComponents] at h
  dsimp only at h
  generalize Reference.parse endsAddressAuthority complete = p at *
  obtain ⟨a, parsed, h⟩ := bind_eq_ok_iff.mp h
  split at h
  · cases h
  split at h
  · cases h
  next schemed hosted =>
  obtain ⟨host, prepared, h⟩ := bind_eq_ok_iff.mp h
  obtain rfl := Except.ok.inj h
  refine ⟨⟨schemed, signed⟩, parameters, exists_preparePath unmarked.1 _, ?_, ?_, ?_⟩
  -- The query and the fragment are as they were, or encoded.
  · dsimp only
    split
    · exact mt (keeps_encodeComponent _ _ '#' (by decide)) unmarked.2
    · exact unmarked.2
  · intro absent
    dsimp only
    rw [fragment absent]
    split <;> rfl
  · intro protocol
    have normal : isNormalisable p.scheme = true := by
      rcases protocol with same | same <;> rw [isNormalisable, same] <;> decide
    rw [normal, mapError_eq_ok_iff] at parsed
    have proper := Authority.isProper_of_parse
      (fun c member => notMem_of_endsAddressAuthority (inside c member)) parsed
    -- A host in normal form is ASCII, so it is not changed any further.
    rw [prepareHost, if_pos proper.ascii] at prepared
    split at prepared
    · cases prepared
    · obtain rfl := Except.ok.inj prepared
      exact ⟨a, proper, hosted, rfl⟩

/-- The text of components with a scheme. -/
theorem Reference.exists_text_eq (r : Reference) (schemed : r.scheme ≠ []) :
    ∃ s, r.text = r.scheme ++ ':' :: s := by
  refine ⟨r.hierarchy ++ (if r.query = [] then [] else '?' :: r.query) ++
    (if r.fragment = [] then [] else '#' :: r.fragment), ?_⟩
  rw [Reference.text, if_neg schemed]
  simp

/-- The text of components with an authority. -/
theorem Reference.text_eq {r : Reference} (schemed : r.scheme ≠ []) (authorised : r.authority ≠ [])
    (parameters : r.parameters = []) (path : r.path = '/' :: rest) :
    r.text = r.scheme ++ ':' :: '/' :: '/' :: (r.authority ++ '/' :: (rest ++
      (if r.query = [] then [] else '?' :: r.query) ++
      (if r.fragment = [] then [] else '#' :: r.fragment))) := by
  rw [Reference.text, hierarchy, fullPath, if_neg schemed, if_pos parameters,
    if_pos (.inl authorised), path]
  simp

theorem Authority.text_ne_nil {a : Authority} (h : a.host ≠ []) : a.text ≠ [] := by
  simp [Authority.text, h]

/-- An address of one of the two protocols in which the authority can be told apart, with the digits
of its number and the text behind the first slash. -/
inductive IsRequested (digits rest : List Char) : List Char → Prop
  | intro {scheme authority : List Char} (protocol : IsProtocol scheme)
      (form : IsAuthority digits authority) :
      IsRequested digits rest (scheme ++ ':' :: '/' :: '/' :: (authority ++ '/' :: rest))

/-- The scheme stays as it is in canonical encoding. -/
theorem Recodes.exists_behind_scheme (h : Recodes m (scheme ++ ':' :: s) t)
    (signed : ∀ c ∈ scheme, isSchemeChar c = true) :
    ∃ s', Recodes m s s' ∧ t = scheme ++ ':' :: s' := by
  obtain ⟨scheme', s', kept, behind, rfl⟩ := h.split (d := ':') (by decide)
  have same : scheme' = scheme := by
    refine kept.eq_self fun c member => ?_
    have sign := signed c member
    simp only [isSchemeChar, Bool.or_eq_true, decide_eq_true_eq] at sign
    rcases sign with ((letter | rfl) | rfl) | rfl
    · exact .inl (by simp [isUnreserved, letter])
    all_goals decide
  exact ⟨s', behind, by rw [same]⟩

/-- Requests can be sent under one of the two protocols only. -/
theorem isProtocol_of_isSendable (whole : ':' ∉ scheme)
    (h : isSendable (scheme ++ ':' :: s) = true) : IsProtocol scheme := by
  -- Both texts have their first colon behind the scheme.
  have front : ∀ name t : List Char, ':' ∉ name → scheme ++ ':' :: s = name ++ ':' :: t →
      scheme = name := by
    intro name t whole' same
    have parts := congrArg (fun text => (Text.splitFirst ':' text).1) same
    simpa only [Text.splitFirst_append whole, Text.splitFirst_append whole'] using parts
  rw [isSendable, Bool.or_eq_true, List.isPrefixOf_iff_prefix, List.isPrefixOf_iff_prefix] at h
  rcases h with ⟨t, same⟩ | ⟨t, same⟩
  · exact .inl (front "http".toList ('/' :: '/' :: t) (by decide) same.symm)
  · exact .inr (front "https".toList ('/' :: '/' :: t) (by decide) same.symm)

variable {complete : List Char} {r : Reference}

theorem Reference.IsPrepared.isProtocol (h : r.IsPrepared complete)
    (sendable : isSendable (requote r.text) = true) : IsProtocol r.scheme := by
  obtain ⟨s, written⟩ := r.exists_text_eq h.scheme.1
  obtain ⟨m, recodes⟩ := exists_recodes r.text
  rw [written] at recodes sendable
  obtain ⟨s', -, same⟩ := recodes.exists_behind_scheme h.scheme.2
  rw [same] at sendable
  refine isProtocol_of_isSendable (fun member => ?_) sendable
  exact absurd (h.scheme.2 ':' member) (by decide)

/-- What is prepared for one of the two protocols has the form of what is requested. -/
theorem Reference.IsPrepared.exists_isRequested (h : r.IsPrepared complete)
    (protocol : IsProtocol r.scheme) :
    ∃ digits rest, IsReadable digits ∧ ('#' ∉ complete → '#' ∉ rest) ∧
      IsRequested digits rest (requote r.text) := by
  obtain ⟨a, proper, hosted, authority⟩ := h.authority protocol
  obtain ⟨rest, path, unmarked⟩ := h.path
  obtain ⟨digits, readable, form⟩ := proper.exists_isAuthority
  have authorised : r.authority ≠ [] := authority ▸ Authority.text_ne_nil hosted
  obtain ⟨m, recodes⟩ := exists_recodes r.text
  generalize requote r.text = url at recodes
  rw [text_eq h.scheme.1 authorised h.parameters path, authority] at recodes
  -- The delimiters one by one: the colon, the two slashes, and the one behind the authority.
  obtain ⟨_, slashes, rfl⟩ := recodes.exists_behind_scheme h.scheme.2
  obtain ⟨_, slash, rfl⟩ := slashes.cons (by decide)
  obtain ⟨_, hierarchy, rfl⟩ := slash.cons (by decide)
  obtain ⟨authority', rest', kept, behind, rfl⟩ := hierarchy.split (d := '/') (by decide)
  refine ⟨digits, rest', readable, fun absent member => ?_, .intro protocol (kept.isAuthority form)⟩
  have inside := behind.keeps '#' (by decide) member
  rw [h.fragment absent, if_pos rfl, List.append_nil] at inside
  rcases List.mem_append.mp inside with inside | inside
  · exact unmarked inside
  · split at inside
    · cases inside
    · rcases List.mem_cons.mp inside with mark | inside
      · exact absurd mark (by decide)
      · exact h.query inside

/-- An address that requests can be sent to has the form of what is requested, and it has a fragment
only if it was given one. -/
theorem exists_isRequested_of_prepare (prepared : prepare address = .ok url)
    (sendable : isSendable url = true) :
    ∃ digits rest, IsReadable digits ∧ ('#' ∉ address → '#' ∉ rest) ∧
      IsRequested digits rest url ∧ ∀ c ∈ url, 0x20 < c.toNat := by
  rw [prepare] at prepared
  split at prepared
  · -- An address of another protocol cannot be sent to.
    next other =>
    obtain rfl := Except.ok.inj prepared
    rw [isSendable, Bool.or_eq_true, List.isPrefixOf_iff_prefix, List.isPrefixOf_iff_prefix]
      at sendable
    rcases sendable with ⟨t, same⟩ | ⟨t, same⟩
    · rw [← same] at other
      exact absurd rfl other.2
    · rw [← same] at other
      exact absurd rfl other.2
  · obtain ⟨r, components, rfl⟩ := map_eq_ok_iff.mp prepared
    have form := isPrepared_of_prepareComponents components
    obtain ⟨digits, rest, readable, unmarked, requested⟩ :=
      form.exists_isRequested (form.isProtocol sendable)
    refine ⟨digits, rest, readable, fun absent => unmarked fun member => absent ?_, requested,
      fun c member => lt_of_mem_requote member⟩
    split at member
    · exact (List.dropWhile_sublist _).mem member
    · simp only [List.mem_cons, Char.reduceEq, false_or] at member
      exact (List.dropWhile_sublist _).mem member

/-! ## Taking apart again -/

theorem tidy_eq_self (visible : ∀ c ∈ s, 0x20 < c.toNat) : tidy s = s := by
  have kept : s.filter (fun c => c ≠ '\t' && c ≠ '\r' && c ≠ '\n') = s := by
    refine List.filter_eq_self.mpr fun c member => ?_
    have := visible c member
    simp only [Bool.and_eq_true, decide_eq_true_eq]
    refine ⟨⟨?_, ?_⟩, ?_⟩ <;> rintro rfl <;> simp at this
  rw [tidy, kept]
  cases s with
  | nil => rfl
  | cons c s =>
    refine List.dropWhile_cons_of_neg ?_
    have := visible c List.mem_cons_self
    simp only [decide_eq_true_eq]
    omega

/-- What is requested is taken apart between its authority and the rest. -/
theorem IsRequested.parse (h : IsRequested digits rest url) :
    IsAuthority digits (Reference.parse endsReferenceAuthority url).authority ∧
      ('#' ∉ rest → (Reference.parse endsReferenceAuthority url).fragment = []) := by
  cases h with
  | intro protocol form =>
    rw [parse_address protocol form.endsReferenceAuthority_eq_false rfl]
    refine ⟨form, fun absent => ?_⟩
    have unmarked : '#' ∉ '/' :: rest := by simpa using absent
    rw [Text.splitFirst_of_notMem unmarked]

/-- The number in an address that requests can be sent to can be read, and the address has a
fragment only if it was given one. -/
theorem takeApart_of_prepare (prepared : prepare address = .ok url)
    (sendable : isSendable url = true) (apart : takeApart url = .ok r) :
    IsReadable r.hostAndNumber.2 ∧ ('#' ∉ address → r.fragment = []) := by
  obtain ⟨digits, rest, readable, unmarked, requested, visible⟩ :=
    exists_isRequested_of_prepare prepared sendable
  obtain ⟨form, fragment⟩ := requested.parse
  rw [takeApart, tidy_eq_self visible] at apart
  split at apart
  · cases apart
  · obtain rfl := Except.ok.inj apart
    exact ⟨form.number_eq.symm ▸ readable, fun absent => fragment (unmarked absent)⟩

end Url

end InstanceIdentity
