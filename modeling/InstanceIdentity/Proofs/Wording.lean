import InstanceIdentity.Proofs.Deadlines
import InstanceIdentity.Proofs.Delivery
import InstanceIdentity.Proofs.Denotation
import InstanceIdentity.Proofs.Places
import InstanceIdentity.Proofs.Preparation

/-!
# What a failure of decoding tells of a body

A failure of decoding gives a reason in fixed words. They name one of the eight keys and a type, or
they have numbers in them that count what is in the body. Where a body is in Punycode, they may show
one byte of it in hexadecimal. Nothing else of a body gets into them. But two charsets cannot be
decoded with replacements, and if the content type names one of them, its name is told as it is
written there. So the failure, and the warning about it, are printable ASCII but for such a name.

## Main definitions

* `Charset.IsUnusable` — the names of these charsets, and what is said about them
* `Response.Quotes` — the responses in whose reason such a name is told
* `Response.Words` — the reasons in words
* `Text.IsPrintableAscii`, `Response.KeepsPrintable` — texts of printable ASCII, and those that are
  printable ASCII but for such a name

## Main results

* `Charset.find?_eq_unusable_iff` — no other name stands for a charset without replacements
* `Response.Withholds.words` — a response withholds a document in these words
* `Session.respond_of_decodeFailure` — what a failure of decoding and the warning about it tell
-/

namespace InstanceIdentity

/-! ## Charsets that cannot be used -/

namespace Charset

variable {name complaint : String} {entry : Entry}

/-- A name is that of a charset that cannot be decoded with replacements, and this is said about
it. -/
inductive IsUnusable (name : String) : String → Prop
  | idna (normal : normalName name = "idna") : IsUnusable name "Unsupported error handling replace"
  | undefined (normal : normalName name = "undefined") : IsUnusable name "undefined encoding"

/-- The two charsets have no other names. -/
theorem filter_unusable :
    allEntries.filter (fun entry => entry.meaning matches .unusable _) =
      [⟨"idna", [], .unusable "Unsupported error handling replace"⟩,
        ⟨"undefined", [], .unusable "undefined encoding"⟩] := by
  decide +kernel

theorem eq_or_eq_of_unusable (member : entry ∈ allEntries)
    (unusable : entry.meaning = .unusable complaint) :
    entry = ⟨"idna", [], .unusable "Unsupported error handling replace"⟩ ∨
      entry = ⟨"undefined", [], .unusable "undefined encoding"⟩ := by
  have listed : entry ∈ allEntries.filter fun entry => entry.meaning matches .unusable _ :=
    List.mem_filter.mpr ⟨member, by rw [unusable]⟩
  rw [filter_unusable] at listed
  exact List.mem_pair.mp listed

/-- The charsets that cannot be decoded with replacements are found by their own names only. -/
theorem find?_eq_unusable_iff :
    find? name = some (.unusable complaint) ↔ IsUnusable name complaint := by
  constructor
  · intro found
    rw [find?, Option.map_eq_some_iff] at found
    obtain ⟨entry, found, unusable⟩ := found
    have unnamed {other : String} : otherNamed? other ≠ some entry := by
      intro named
      have contains := List.find?_some named
      rcases eq_or_eq_of_unusable (List.mem_of_find?_eq_some named) unusable with rfl | rfl
      · cases contains
      · cases contains
    -- What is left is the name of its own.
    rw [Option.or_eq_some_iff, Option.or_eq_some_iff] at found
    rcases found with (named | ⟨-, named⟩) | ⟨-, own⟩
    · exact absurd named unnamed
    · exact absurd named unnamed
    have normal := List.find?_some own
    rw [decide_eq_true_iff] at normal
    rcases eq_or_eq_of_unusable (List.mem_of_find?_eq_some own) unusable with rfl | rfl
    · obtain rfl := Meaning.unusable.inj unusable
      exact .idna normal.symm
    · obtain rfl := Meaning.unusable.inj unusable
      exact .undefined normal.symm
  · intro unusable
    cases unusable with
    | idna normal =>
      rw [find?, normal]
      decide +kernel
    | undefined normal =>
      rw [find?, normal]
      decide +kernel

theorem normalName_empty : normalName "" = "" := by
  change "_".intercalate (("".splitOn " ").filter (· ≠ "")) = ""
  rw [String.splitOn, if_neg (by decide), splitOnAux_end (by decide)]
  decide

theorem IsUnusable.ne_empty (h : IsUnusable name complaint) : name ≠ "" := by
  rintro rfl
  cases h with
  | idna normal => exact absurd (normalName_empty.symm.trans normal) (by decide)
  | undefined normal => exact absurd (normalName_empty.symm.trans normal) (by decide)

end Charset

/-- Text in Punycode is refused for a byte outside of ASCII. The place of the byte is not counted
from the beginning, but from behind some beginning of the body. -/
theorem exists_of_punycodeText {body : List UInt8} {e : CharsetError}
    (h : punycodeText body = .error e) :
    ∃ before b after, before ++ b :: after <:+ body ∧ 0x80 ≤ b.toNat ∧
      e = .outsideAscii (Char.ofNat b.toNat) before.length := by
  rw [punycodeText] at h
  dsimp only at h
  -- The digits stand behind the last hyphen, so they are the end of the body.
  obtain ⟨front, parts⟩ := Text.splitLast_suffix '-' (body.map fun b => Char.ofNat b.toNat)
  obtain ⟨lead, digits, rfl, -, same⟩ := List.map_eq_append_iff.mp parts.symm
  rw [← same] at h
  split at h
  · next place found =>
    obtain ⟨within, outside, -⟩ := List.findIdx?_eq_some_iff_getElem.mp found
    rw [List.length_map] at within
    rw [List.getElem_map, Utf8.toNat_ofNat_toNat, decide_eq_true_iff] at outside
    refine ⟨digits.take place, digits[place], digits.drop (place + 1), ⟨lead, ?_⟩, outside, ?_⟩
    · rw [List.getElem_cons_drop, List.take_append_drop]
    · rw [← Except.error.inj h, List.length_take_of_le within.le, List.getD_eq_getElem?_getD,
        List.getElem?_map, List.getElem?_eq_getElem within]
      rfl
  · cases h

/-! ## Reasons in words -/

namespace Response

/-- A response quotes the name of its charset: there is something to decode, but nothing can be
decoded in that charset with replacements. -/
structure Quotes (r : Response) (name complaint : String) : Prop where
  named : r.charset? = some name
  sound : '\x00' ∉ name.toList
  unusable : Charset.IsUnusable name complaint
  filled : r.content ≠ []

/-- The reasons in words why a response gives no document. The place of a flaw is told by the number
of what stands before it: the lines, the characters of its own line, and all characters. -/
inductive Words (r : Response) : String → Prop
  | notAnObject {kind : Json.Kind} (other : kind ≠ .object) :
      Words r ("expected a JSON object, got " ++ kind.name)
  | notAString (field : Field) {kind : Json.Kind} (other : kind ≠ .string) :
      Words r ("expected a string for '" ++ field.key ++ "', got " ++ kind.name)
  | malformed (flaw : Json.Flaw) {text before : Text}
      (decoded : bodyText r.charset? r.content = .ok text) (begins : before <+: text) :
      Words r (flaw.phrase ++ ": line " ++ toString (before.count Json.lineFeed + 1) ++
        " column " ++ toString ((before.reverse.takeWhile (· ≠ Json.lineFeed)).length + 1) ++
        " (char " ++ toString before.length ++ ")")
  | tooManyDigits {text : Text} {digits : Nat}
      (decoded : bodyText r.charset? r.content = .ok text) (many : 4300 < digits)
      (few : digits ≤ text.length) :
      Words r ("Exceeds the limit (4300 digits) for integer string conversion: value has " ++
        toString digits ++ " digits; use sys.set_int_max_str_digits() to increase the limit")
  | deepArray : Words r
      "maximum recursion depth exceeded while decoding a JSON array from a unicode string"
  | deepObject : Words r
      "maximum recursion depth exceeded while decoding a JSON object from a unicode string"
  | noCall : Words r "maximum recursion depth exceeded"
  | noObjectCall : Words r "maximum recursion depth exceeded while calling a Python object"
  | nullInName {name : String} (named : r.charset? = some name) (null : '\x00' ∈ name.toList) :
      Words r "embedded null character"
  | unusable {name complaint : String} (quotes : r.Quotes name complaint) :
      Words r ("decoding with '" ++ name ++ "' codec failed (UnicodeError: " ++ complaint ++ ")")
  | outsideAscii {name : String} {before after : List UInt8} {b : UInt8}
      (named : r.charset? = some name) (punycode : Charset.find? name = some .punycode)
      (stands : before ++ b :: after <:+ r.content) (outside : 0x80 ≤ b.toNat) :
      Words r ("'ascii' codec can't decode byte 0x" ++ String.ofList (Text.hex 2 b.toNat) ++
        " in position " ++ toString before.length ++ ": ordinal not in range(128)")

/-! ### Reasons for withholding -/

/-- That a number has too many digits, with the limit put in. -/
theorem excessMessage_some (digits : Nat) : excessMessage (some digits) =
    "Exceeds the limit (4300 digits) for integer string conversion: value has " ++
      toString digits ++ " digits; use sys.set_int_max_str_digits() to increase the limit" := by
  have words : excessMessage (some digits) =
      "Exceeds the limit (" ++ toString greatestDigits ++
        " digits) for integer string conversion" ++
        (": value has " ++ toString digits ++ " digits") ++
        "; use sys.set_int_max_str_digits() to increase the limit" := rfl
  have front : "Exceeds the limit (" ++ toString greatestDigits ++
        " digits) for integer string conversion" ++ ": value has " =
      "Exceeds the limit (4300 digits) for integer string conversion: value has " := by
    decide +kernel
  have back : " digits" ++ "; use sys.set_int_max_str_digits() to increase the limit" =
      " digits; use sys.set_int_max_str_digits() to increase the limit" := by decide +kernel
  rw [words, ← front, ← back]
  simp only [String.append_assoc]

variable {r : Response} {room : Nat} {reason : String}

theorem words_of_charset {e : CharsetError}
    (undecoded : bodyText r.charset? r.content = .error e) : r.Words e.message := by
  cases named : r.charset? with
  | none =>
    rw [named] at undecoded
    cases undecoded
  | some name =>
    rw [named, bodyText] at undecoded
    -- An empty name does not count, and an empty body is not decoded.
    split at undecoded
    · cases undecoded
    split at undecoded
    · cases undecoded
    next filled =>
    rw [textIn] at undecoded
    split at undecoded
    · next null =>
      obtain rfl := Except.error.inj undecoded
      exact .nullInName named (List.contains_iff_mem.mp null)
    next sound =>
    split at undecoded
    · injection undecoded
    · next punycode =>
      obtain ⟨before, b, after, stands, outside, rfl⟩ := exists_of_punycodeText undecoded
      have words := Words.outsideAscii named punycode stands outside
      rwa [← Utf8.toNat_ofNat_toNat b] at words
    · next complaint found =>
      obtain rfl := Except.error.inj undecoded
      exact .unusable ⟨named, mt List.contains_iff_mem.mpr sound,
        Charset.find?_eq_unusable_iff.mp found, filled⟩
    · injection undecoded

theorem words_of_json {text : Text} {e : Json.Error}
    (decoded : bodyText r.charset? r.content = .ok text)
    (malformed : Json.readText room text = .error e) : r.Words e.message := by
  cases Json.recalls_of_readText malformed with
  | malformed flaw here =>
    obtain ⟨before, begins, rfl⟩ := here
    have words := Words.malformed flaw decoded begins
    -- The words are the same and only put together in another order.
    rw [Json.Error.message, Json.Place.text, Json.Place.behind_eq]
    simp only [String.append_assoc] at words ⊢
    exact words
  | tooManyDigits many few =>
    rw [Json.Error.message, excessMessage_some]
    exact .tooManyDigits decoded many few
  | tooDeep container =>
    cases container with
    | array => exact .deepArray
    | object => exact .deepObject
  | noCall isObject =>
    cases isObject with
    | true => exact .noObjectCall
    | false => exact .noCall

theorem words_of_mismatch {v : Json} {m : Mismatch} (refused : Document.ofJson v = .error m) :
    r.Words m.message := by
  have denotes : Document.Denotes v (.error m.message) :=
    Document.denotes_iff.mpr (by rw [refused]; rfl)
  generalize m.message = reason at denotes ⊢
  cases denotes with
  | notAnObject other => exact .notAnObject other
  | notAString order misfits first =>
    obtain ⟨last, other⟩ := misfits
    exact .notAString _ other

/-- A response that quotes the name of its charset has no text. -/
theorem Quotes.bodyText_eq {name complaint : String} (h : r.Quotes name complaint) :
    bodyText r.charset? r.content = .error (.unusable name complaint) := by
  have sound : ¬ name.toList.contains '\x00' := mt List.contains_iff_mem.mp h.sound
  have found := Charset.find?_eq_unusable_iff.mpr h.unusable
  rw [h.named, bodyText, if_neg h.unusable.ne_empty, if_neg h.filled, textIn, if_neg sound, found]

/-- A response withholds a document for one of the reasons in words. -/
theorem Withholds.words (h : r.Withholds room reason) : r.Words reason := by
  cases h with
  | charset undecoded => exact words_of_charset undecoded
  | json decoded malformed => exact words_of_json decoded malformed
  | mismatch decoded value misfits => exact words_of_mismatch misfits

end Response

/-! ## Printable ASCII -/

/-- The code points of printable ASCII. -/
def CodePoint.IsPrintableAscii (p : CodePoint) : Prop := 0x20 ≤ p.val ∧ p.val ≤ 0x7E

instance (p : CodePoint) : Decidable p.IsPrintableAscii :=
  inferInstanceAs (Decidable (0x20 ≤ p.val ∧ p.val ≤ 0x7E))

namespace Text

/-- A text of printable ASCII. -/
def IsPrintableAscii (t : Text) : Prop := ∀ p ∈ t, p.IsPrintableAscii

instance (t : Text) : Decidable t.IsPrintableAscii :=
  List.decidableBAll CodePoint.IsPrintableAscii t

theorem isPrintableAscii_of_isAlphanum {s : List Char} (h : ∀ c ∈ s, c.isAlphanum = true) :
    (ofChars s).IsPrintableAscii := by
  intro p member
  obtain ⟨c, inside, rfl⟩ := List.mem_map.mp member
  have alphanum := Url.isAlphanum_iff.mp (h c inside)
  rw [CodePoint.IsPrintableAscii, CodePoint.val_ofChar]
  omega

theorem isPrintableAscii_toString (n : Nat) : (ofString (toString n)).IsPrintableAscii :=
  isPrintableAscii_of_isAlphanum fun c member => by
    rw [Char.isAlphanum, Url.isDigit_of_mem_toString member, Bool.or_true]

theorem isPrintableAscii_toString_int (n : Int) : (ofString (toString n)).IsPrintableAscii := by
  rw [Int.toString_eq_repr, Int.repr_eq_if]
  split
  · exact isPrintableAscii_toString _
  · have minus : (ofString "-").IsPrintableAscii := by decide
    rw [ofString_append]
    exact List.forall_mem_append.mpr ⟨minus, isPrintableAscii_toString _⟩

theorem isPrintableAscii_hex (width n : Nat) :
    (ofString (String.ofList (hex width n))).IsPrintableAscii := by
  rw [ofString, String.toList_ofList]
  exact isPrintableAscii_of_isAlphanum fun c => Url.isAlphanum_of_mem_hex

end Text

namespace Response

variable {r : Response} {reason : String} {s t : String}

/-- A text keeps to printable ASCII, but for the name of a charset that the response quotes. -/
def KeepsPrintable (r : Response) (t : Text) : Prop :=
  ∀ p ∈ t, p.IsPrintableAscii ∨ ∃ name complaint, r.Quotes name complaint ∧ p ∈ Text.ofString name

theorem KeepsPrintable.of_isPrintableAscii {t : Text} (h : t.IsPrintableAscii) :
    r.KeepsPrintable t := fun p member => .inl (h p member)

theorem keepsPrintable_append : r.KeepsPrintable (Text.ofString (s ++ t)) ↔
    r.KeepsPrintable (Text.ofString s) ∧ r.KeepsPrintable (Text.ofString t) := by
  rw [Text.ofString_append]
  exact List.forall_mem_append

theorem Quotes.keepsPrintable {name complaint : String} (h : r.Quotes name complaint) :
    r.KeepsPrintable (Text.ofString name) := fun _ member => .inr ⟨name, complaint, h, member⟩

/-- A reason in words keeps to printable ASCII. -/
theorem Words.keepsPrintable (h : r.Words reason) : r.KeepsPrintable (Text.ofString reason) := by
  have number (n : Nat) : r.KeepsPrintable (Text.ofString (toString n)) :=
    .of_isPrintableAscii (Text.isPrintableAscii_toString n)
  have byte (n : Nat) : r.KeepsPrintable (Text.ofString (String.ofList (Text.hex 2 n))) :=
    .of_isPrintableAscii (Text.isPrintableAscii_hex 2 n)
  have type (kind : Json.Kind) : r.KeepsPrintable (Text.ofString kind.name) :=
    .of_isPrintableAscii (by cases kind <;> decide +kernel)
  have key (field : Field) : r.KeepsPrintable (Text.ofString field.key) :=
    .of_isPrintableAscii (by cases field <;> decide +kernel)
  have phrase (flaw : Json.Flaw) : r.KeepsPrintable (Text.ofString flaw.phrase) :=
    .of_isPrintableAscii (by cases flaw <;> decide +kernel)
  -- What is left of a reason without these parts is the same in all responses.
  have fixed {s : String} (same : (Text.ofString s).IsPrintableAscii) :
      r.KeepsPrintable (Text.ofString s) := .of_isPrintableAscii same
  cases h with
  | @unusable name complaint quotes =>
    have said : r.KeepsPrintable (Text.ofString complaint) :=
      .of_isPrintableAscii (by cases quotes.unusable <;> decide +kernel)
    simp (disch := decide +kernel) only [keepsPrintable_append, quotes.keepsPrintable, said, fixed,
      and_self]
  | _ =>
    simp (disch := decide +kernel) only [keepsPrintable_append, number, byte, type, key, phrase,
      fixed, and_self]

end Response

/-! ## Failures of decoding -/

variable {c : Client} {timeout limit : Seconds} {w : World} {message : Text}

/-- Behind a failure of decoding there is a final response without a document. -/
theorem Client.exists_withholds_of_fetch
    (fails : (c.fetch timeout w).1 = .failure ⟨.decode, message⟩) :
    ∃ r reason, Exchange.Ends w.replies c.documentUrl (.response r) ∧ r.Withholds w.room reason ∧
      message = Text.ofString
        ("failed to decode identity document (HTTP " ++ toString r.status ++ "): " ++ reason) := by
  cases pending : timeout.elapsed with
  | true =>
    rw [fetch_of_isSpent (Seconds.elapsed_iff.mp pending), refuse] at fails
    split at fails <;> cases fails
  | false =>
    obtain ⟨ending, ends⟩ := Exchange.exists_ends w.replies c.documentUrl
    obtain ⟨ground, o, settles⟩ := c.exists_settles w.room ending
    obtain rfl := (fst_fetch_of_settles pending ends settles).symm.trans fails
    cases settles with
    | noDocument withholds => exact ⟨_, _, ends, withholds, rfl⟩

/-- A detection warns of a failure of decoding, and an action logs nothing else on its own. -/
theorem Action.Concludes.own_of_decode {action : Action} {result : Result} {own : List Record}
    (h : action.Concludes (.failure ⟨.decode, message⟩) result own) :
    (∀ given, action = .detect given → own = [Detector.complaint .warning message]) ∧
      ∀ record ∈ own, record = Detector.complaint .warning message := by
  cases h with
  | fetch timeout => exact ⟨nofun, nofun⟩
  | detect given concludes =>
    cases concludes with
    | decode => exact ⟨fun _ _ => rfl, fun _ => List.mem_singleton.mp⟩
    | failure other => exact absurd rfl other

namespace Session

theorem recordsOf_respond_of_decode (suppressed : Bool) (step : Step)
    (fetches : step.action.timeLimit limit = some timeout)
    (fails : (c.fetch timeout (.begun step.replies step.spare)).1 = .failure ⟨.decode, message⟩) :
    let logged := (respond c limit suppressed step).recordsOf .detector
    (∀ given, step.action = .detect given → logged = [Detector.complaint .warning message]) ∧
      ∀ record ∈ logged, record = Detector.complaint .warning message := by
  have concludes := (recordsOf_respond c suppressed step fetches).2
  rw [fails] at concludes
  exact concludes.own_of_decode

/-- What a failure of decoding tells, and what a detection logs about it. Whatever is answered, the
message has the status of the final response and a reason in words. It keeps to printable ASCII,
but for the name of a charset that the response quotes, and so does the one warning of a detection.
So both are a single line, unless there is a line break in that name. -/
theorem respond_of_decodeFailure (c : Client) (limit : Seconds) (suppressed : Bool) (step : Step)
    {timeout : Seconds} {message : Text}
    (fetches : step.action.timeLimit limit = some timeout)
    (fails : (c.fetch timeout (.begun step.replies step.spare)).1 = .failure ⟨.decode, message⟩) :
    let shown := respond c limit suppressed step
    ∃ (r : Response) (reason : String),
      Exchange.Ends step.replies c.documentUrl (.response r) ∧ r.Words reason ∧
        message = Text.ofString
          ("failed to decode identity document (HTTP " ++ toString r.status ++ "): " ++ reason) ∧
        r.KeepsPrintable message ∧
        (∀ given, step.action = .detect given → shown.recordsOf .detector =
          [⟨.warning, .detector, Text.ofString "AwsEc2ResourceDetector failed: " ++ message⟩]) ∧
        ∀ record ∈ shown.recordsOf .detector, r.KeepsPrintable record.message := by
  intro shown
  obtain ⟨r, reason, ends, withholds, told⟩ := Client.exists_withholds_of_fetch fails
  have words := withholds.words
  have fixed {s : String} (same : (Text.ofString s).IsPrintableAscii) :
      r.KeepsPrintable (Text.ofString s) := .of_isPrintableAscii same
  have keeps : r.KeepsPrintable message := by
    have status : r.KeepsPrintable (Text.ofString (toString r.status)) :=
      .of_isPrintableAscii (Text.isPrintableAscii_toString_int r.status)
    rw [told]
    simp (disch := decide +kernel) only [Response.keepsPrintable_append, status,
      words.keepsPrintable, fixed, and_self]
  obtain ⟨warned, only⟩ := recordsOf_respond_of_decode suppressed step fetches fails
  refine ⟨r, reason, ends, words, told, keeps, warned, fun record member => ?_⟩
  rw [only record member]
  exact List.forall_mem_append.mpr ⟨fixed (by decide +kernel), keeps⟩

/-- A list with a line feed in it, where a region is due, makes a warning of one line. -/
theorem respond_of_decodeFailure_list :
    let step : Step :=
      ⟨.detect none, [.response ⟨500, none, [], "\x7b\"region\":[\"\\n\"]\x7d".toUTF8.toList⟩],
        spareCalls⟩
    let message := Text.ofString
      "failed to decode identity document (HTTP 500): expected a string for 'region', got list"
    step.action.timeLimit (.whole 5) = some (.whole 5) ∧
      (Client.standard.fetch (.whole 5) (.begun step.replies step.spare)).1 =
        .failure ⟨.decode, message⟩ ∧
      (respond .standard (.whole 5) false step).recordsOf .detector =
        [Detector.complaint .warning message] := by
  intro step message
  have fails : (Client.standard.fetch (.whole 5) (.begun step.replies step.spare)).1 =
      .failure ⟨.decode, message⟩ := by decide +kernel
  obtain ⟨r, reason, -, -, -, -, warned, -⟩ :=
    respond_of_decodeFailure .standard (.whole 5) false step rfl fails
  exact ⟨rfl, fails, warned none rfl⟩

theorem splitOn_undefined : "   undefined".splitOn " " = ["", "", "", "undefined"] := by
  rw [String.splitOn, if_neg (by decide)]
  simp (disch := decide) only [splitOnAux_letter, splitOnAux_space, splitOnAux_end]
  decide

theorem splitOn_punycode : "punycode".splitOn " " = ["punycode"] := by
  rw [String.splitOn, if_neg (by decide)]
  simp (disch := decide) only [splitOnAux_letter, splitOnAux_end]
  decide

/-- The name of a charset may stand on a second line. -/
theorem isUnusable_folded : Charset.IsUnusable "\r\n undefined" "undefined encoding" := by
  refine .undefined ?_
  change "_".intercalate (("   undefined".splitOn " ").filter (· ≠ "")) = "undefined"
  rw [splitOn_undefined]
  decide

theorem find?_punycode : Charset.find? "punycode" = some .punycode := by
  have normal : Charset.normalName "punycode" = "punycode" := by
    change "_".intercalate (("punycode".splitOn " ").filter (· ≠ "")) = "punycode"
    rw [splitOn_punycode]
    decide
  rw [Charset.find?, normal]
  decide +kernel

/-- The name of a charset is told with the line feed in it, and so is a byte of Punycode. -/
theorem respond_quotes_folded :
    let step (type : String) (body : List UInt8) : Step :=
      ⟨.detect none, [.response ⟨200, some "OK", [("Content-Type", type)], body⟩], spareCalls⟩
    let fetched (step : Step) : Outcome :=
      (Client.standard.fetch (.whole 5) (.begun step.replies step.spare)).1
    let folded := step "application/json; charset=\"\r\n undefined\"" "\x7b\x7d".toUTF8.toList
    let digits := step "application/json; charset=punycode" [0xE9]
    let quoted := Text.ofString
      ("failed to decode identity document (HTTP 200): decoding with '\r\n undefined' codec " ++
        "failed (UnicodeError: undefined encoding)")
    let shown := Text.ofString
      ("failed to decode identity document (HTTP 200): 'ascii' codec can't decode byte 0xe9 in " ++
        "position 0: ordinal not in range(128)")
    fetched folded = .failure ⟨.decode, quoted⟩ ∧ CodePoint.ofChar '\n' ∈ quoted ∧
      ¬ quoted.IsPrintableAscii ∧
      (respond .standard (.whole 5) false folded).recordsOf .detector =
        [Detector.complaint .warning quoted] ∧
      fetched digits = .failure ⟨.decode, shown⟩ := by
  intro step fetched folded digits quoted shown
  -- Both responses are successful and come whole, so they fail for what is withheld.
  have fetch_eq {r : Response} {reason : String} (uncoded : r.codings = [])
      (unmeasured : r.headerLength = .ok none) (status : r.status = 200)
      (withholds : r.Withholds (World.fresh [.response r]).room reason) :
      (Client.standard.fetch (.whole 5) (.fresh [.response r])).1 = .failure ⟨.decode,
        Text.ofString ("failed to decode identity document (HTTP 200): " ++ reason)⟩ := by
    obtain ⟨final, arrives⟩ := Response.final_of_comesWhole ⟨uncoded, .inl unmeasured⟩ status
    rw [Client.fetch_of_withholds Client.canSend_standard rfl rfl final arrives withholds, status]
    rfl
  have fails : fetched folded = .failure ⟨.decode, quoted⟩ := by
    let r : Response :=
      ⟨200, some "OK", [("Content-Type", "application/json; charset=\"\r\n undefined\"")],
        "\x7b\x7d".toUTF8.toList⟩
    have quotes : r.Quotes "\r\n undefined" "undefined encoding" :=
      ⟨by decide +kernel, by decide, isUnusable_folded, by decide +kernel⟩
    have told := fetch_eq (r := r) (by decide +kernel) (by decide +kernel) rfl
      (.charset quotes.bodyText_eq)
    refine told.trans (congrArg (fun m => Outcome.failure ⟨.decode, m⟩) ?_)
    decide +kernel
  refine ⟨fails, by decide +kernel, by decide +kernel, ?_, ?_⟩
  · exact (recordsOf_respond_of_decode false folded rfl fails).1 none rfl
  · let r : Response :=
      ⟨200, some "OK", [("Content-Type", "application/json; charset=punycode")], [0xE9]⟩
    have named : r.charset? = some "punycode" := by decide +kernel
    have undecoded : bodyText r.charset? [0xE9] = .error (.outsideAscii (Char.ofNat 0xE9) 0) := by
      rw [named, bodyText, if_neg (by decide), if_neg (by decide), textIn, if_neg (by decide),
        find?_punycode]
      decide +kernel
    have told := fetch_eq (r := r) (by decide +kernel) (by decide +kernel) rfl
      (.charset undecoded)
    refine told.trans (congrArg (fun m => Outcome.failure ⟨.decode, m⟩) ?_)
    decide +kernel

end Session

end InstanceIdentity
