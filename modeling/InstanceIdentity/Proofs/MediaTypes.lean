import InstanceIdentity.Proofs.Transcoding
import Mathlib.Data.List.Infix

/-!
# The media type of a body

A content type that names no charset may still imply one. A type that contains the word text
implies Latin-1, the type of JSON implies UTF-8, and any other type, like a response without one,
leaves it to the bytes to show their encoding. A text in UTF-8 shows it with four bytes, if no
null and no byte order mark is in the way. So of all types that name no charset there are only
two sorts for such a body, the textual ones and the others, and within each sort a fetch comes to
the same. They agree about bytes of ASCII, and about no others: a textual type turns a text
beyond ASCII into a different one.

## Main definitions

* `MediaType.NamesCharset`, `MediaType.IsTextual` — what counts about a type
* `ShowsUtf8` — texts whose bytes show that they are UTF-8
* `Response.Retypes` — a response under another content type
* `Latin1.text` — bytes read one by one

## Main results

* `textDetected_encode` — a plain text is detected
* `Response.Retypes.bodyText_eq` — the text under another type
* `Client.fetch_of_retypes` — a fetch under another type
* `Client.fetch_distinguishes_types` — a text beyond ASCII under a textual type
-/

namespace InstanceIdentity

open Exchange

variable {m : MediaType} {r r' : Response} {t : List Char} {bytes : List UInt8}

/-! ## Types -/

namespace MediaType

/-- A type has a parameter for the charset. -/
def NamesCharset (m : MediaType) : Prop := ∃ name, ("charset".toList, name) ∈ m.parameters

/-- The word text occurs in a type. -/
def IsTextual (m : MediaType) : Prop := "text".toList <:+: m.type

theorem occurs_iff {s t : List Char} : occurs s t = true ↔ s <:+: t := by
  induction t with
  | nil => rw [occurs, List.isEmpty_iff, List.infix_nil]
  | cons c rest ih =>
    rw [occurs, Bool.or_eq_true, ih, List.isPrefixOf_iff_prefix, List.infix_cons_iff]

instance (m : MediaType) : Decidable m.NamesCharset :=
  decidable_of_iff (∃ parameter ∈ m.parameters, parameter.1 = "charset".toList) <| by
    constructor
    · rintro ⟨⟨name, value⟩, member, rfl⟩
      exact ⟨value, member⟩
    · rintro ⟨value, member⟩
      exact ⟨_, member, rfl⟩

instance (m : MediaType) : Decidable m.IsTextual := decidable_of_iff _ occurs_iff

/-- What a type implies where it names no charset. -/
theorem charset?_of_unnamed (unnamed : ¬ m.NamesCharset) :
    m.charset? =
      if occurs "text".toList m.type then some "ISO-8859-1"
      else if occurs "application/json".toList m.type then some "utf-8"
      else none := by
  have absent : m.parameters.reverse.lookup "charset".toList = none := by
    rw [List.lookup_eq_none_iff]
    rintro ⟨name, value⟩ member
    rw [List.mem_reverse] at member
    rw [bne_iff_ne]
    rintro rfl
    exact unnamed ⟨value, member⟩
  rw [charset?, absent]

end MediaType

namespace Response

/-- The media type of a response. An empty content type is one without a name. -/
def mediaType? (r : Response) : Option MediaType :=
  (r.header? "content-type").map fun header => MediaType.parse header.toList

/-- A response names the charset of its body. -/
def NamesCharset (r : Response) : Prop := ∃ m ∈ r.mediaType?, m.NamesCharset

/-- A response has a textual type. -/
def IsTextual (r : Response) : Prop := ∃ m ∈ r.mediaType?, m.IsTextual

instance (r : Response) : Decidable r.NamesCharset :=
  inferInstanceAs (Decidable (∃ m ∈ r.mediaType?, m.NamesCharset))

instance (r : Response) : Decidable r.IsTextual :=
  inferInstanceAs (Decidable (∃ m ∈ r.mediaType?, m.IsTextual))

theorem charset?_eq (r : Response) : r.charset? = r.mediaType?.bind MediaType.charset? := by
  rw [charset?, mediaType?]
  cases r.header? "content-type" with
  | none => rfl
  | some header =>
    dsimp only [Option.map_some, Option.bind_some]
    split
    · rename_i empty
      cases empty
    · rename_i empty
      obtain rfl := Option.some.inj empty
      rfl
    · rename_i given
      obtain rfl := Option.some.inj given
      rfl

theorem charset?_of_textual (unnamed : ¬ r.NamesCharset) (textual : r.IsTextual) :
    r.charset? = some "ISO-8859-1" := by
  obtain ⟨m, type, text⟩ := textual
  rw [charset?_eq, type, Option.bind_some,
    MediaType.charset?_of_unnamed fun names => unnamed ⟨m, type, names⟩,
    if_pos (MediaType.occurs_iff.mpr text)]

theorem charset?_of_not_textual (unnamed : ¬ r.NamesCharset) (other : ¬ r.IsTextual) :
    r.charset? = none ∨ r.charset? = some "utf-8" := by
  rw [charset?_eq]
  cases type : r.mediaType? with
  | none => exact .inl rfl
  | some m =>
    have unnamed' : ¬ m.NamesCharset := fun names => unnamed ⟨m, type, names⟩
    have other' : ¬ MediaType.occurs "text".toList m.type = true :=
      fun text => other ⟨m, type, MediaType.occurs_iff.mp text⟩
    rw [Option.bind_some, MediaType.charset?_of_unnamed unnamed', if_neg other']
    split
    · exact .inr rfl
    · exact .inl rfl

end Response

/-! ## Plain texts -/

/-- A text whose bytes show that they are UTF-8: there are more than three of them, none is zero,
and they begin with no mark. -/
structure ShowsUtf8 (t : List Char) : Prop where
  long : 3 < (Utf8.encode t).length
  nonzero : '\x00' ∉ t
  unmarked : t.head? ≠ some byteOrderMark

/-- Only the byte order mark has the bytes of the byte order mark. -/
theorem head?_of_encode_eq_mark {rest : List UInt8}
    (h : Utf8.encode t = 0xEF :: 0xBB :: 0xBF :: rest) : t.head? = some byteOrderMark := by
  have marked : Utf8.decode (Utf8.encode t) = some byteOrderMark :: Utf8.decodeFrom none rest := by
    rw [h]
    exact Utf8.decodeFrom_encodeChar_append byteOrderMark rest
  rw [Utf8.decode_encode] at marked
  cases t with
  | nil => cases marked
  | cons c t =>
    rw [List.map_cons] at marked
    exact (List.cons.inj marked).1

theorem detect?_encode (h : ShowsUtf8 t) :
    Charset.detect? (Utf8.encode t) = some (.utf8 false) := by
  have bytes : ∀ b ∈ Utf8.encode t, b ≠ 0 ∧ b ≠ 0xFE ∧ b ≠ 0xFF := by
    intro b member
    obtain ⟨c, character, byte⟩ := List.mem_flatMap.mp member
    have nonzero := Encoding.ne_zero_of_mem_utf8EncodeChar
      (fun null => h.nonzero (null ▸ character)) byte
    refine ⟨nonzero, ?_, ?_⟩ <;> rintro rfl <;>
      rcases Encoding.toNat_of_mem_utf8EncodeChar byte with ⟨same, ascii⟩ | ⟨-, low⟩
    · rw [← same] at ascii
      exact absurd ascii (by decide)
    · exact absurd low (by decide)
    · rw [← same] at ascii
      exact absurd ascii (by decide)
    · exact absurd low (by decide)
  have long := h.long
  match encoded : Utf8.encode t with
  | [] | [_] | [_, _] | [_, _, _] =>
    rw [encoded] at long
    exact absurd long (by simp)
  | a :: b :: c :: d :: rest =>
    rw [encoded] at bytes
    simp only [List.forall_mem_cons] at bytes
    obtain ⟨first, second, third, fourth, -⟩ := bytes
    have unmarked : [a, b, c] ≠ [0xEF, 0xBB, 0xBF] := by
      intro mark
      simp only [List.cons.injEq, and_true] at mark
      obtain ⟨rfl, rfl, rfl⟩ := mark
      exact h.unmarked (head?_of_encode_eq_mark encoded)
    rw [Charset.detect?, if_neg (by simp [first]), if_neg unmarked, if_neg (by simp [first])]
    simp [first.1, second.1, third.1, fourth.1]

/-- A plain text is detected. -/
theorem textDetected_encode (h : ShowsUtf8 t) : textDetected (Utf8.encode t) = Text.ofChars t := by
  have decoded : Charset.decode? (.utf8 false) (Utf8.encode t) = some (Text.ofChars t) :=
    Encoding.utf8.decode?_write false t
  rw [textDetected, detect?_encode h, Option.bind_some, decoded, Option.getD_some]

/-- Bytes read one by one, each as the character of its number. -/
def Latin1.text (bytes : List UInt8) : List Char := bytes.map fun b => Char.ofNat b.toNat

theorem Latin1.decodeReplacing (bytes : List UInt8) :
    Charset.decodeReplacing .latin1 bytes = Text.ofChars (text bytes) := by
  rw [Charset.decodeReplacing, Charset.units, Charset.ofCharacters, List.map_map, List.map_map,
    Text.ofChars, text, List.map_map]
  rfl

/-- A text within ASCII is its bytes read one by one. -/
theorem Latin1.text_encode (ascii : ∀ b ∈ Utf8.encode t, b.toNat < 0x80) :
    text (Utf8.encode t) = t := by
  have decoded := Utf8.decode_of_forall_lt ascii
  rw [Utf8.decode_encode] at decoded
  refine List.map_injective_iff.mpr (fun _ _ => Option.some.inj) ?_
  rw [decoded, text, List.map_map]
  rfl

namespace Response

theorem bodyText_of_textual (unnamed : ¬ r.NamesCharset) (textual : r.IsTextual)
    (body : List UInt8) : bodyText r.charset? body = .ok (Text.ofChars (Latin1.text body)) := by
  rw [charset?_of_textual unnamed textual, bodyText_latin1, Latin1.decodeReplacing]

theorem bodyText_of_not_textual (unnamed : ¬ r.NamesCharset) (other : ¬ r.IsTextual)
    (plain : ShowsUtf8 t) : bodyText r.charset? (Utf8.encode t) = .ok (Text.ofChars t) := by
  rcases charset?_of_not_textual unnamed other with shown | implied
  · rw [shown, bodyText, textDetected_encode plain]
  · rw [implied, bodyText_utf8]
    exact congrArg Except.ok (Encoding.decodeReplacing_encode t)

/-! ## Other types -/

/-- A response is another one under another content type, and neither of them names a charset. -/
structure Retypes (r r' : Response) : Prop where
  agrees : r.Agrees r'
  body : r'.body = r.body
  unnamed : ¬ r.NamesCharset
  unnamed' : ¬ r'.NamesCharset

namespace Retypes

theorem intake_eq (h : r.Retypes r') : r'.intake = r.intake := by
  rw [intake, intake, h.agrees.codings_eq, h.body]

theorem decoded_eq (h : r.Retypes r') : r'.decoded = r.decoded := by
  rw [decoded, decoded, h.intake_eq, h.agrees.codingHeader_eq, h.agrees.status, h.body]

theorem reading_eq (h : r.Retypes r') : r'.reading = r.reading := by
  rw [reading, reading, h.agrees.declaredLength_eq, h.agrees.status, h.body]

theorem release_eq (h : r.Retypes r') : r'.release = r.release := by
  rw [release, release, isBroken, isBroken, h.intake_eq, h.reading_eq, h.agrees.codings_eq]

theorem reread_eq (h : r.Retypes r') : r'.reread = r.reread := by
  rw [reread, reread, h.intake_eq, h.reading_eq]

/-- A plain text is read alike under two types that are both textual or both not, and one within
ASCII under any two. -/
theorem bodyText_eq (h : r.Retypes r') (plain : ShowsUtf8 t)
    (alike : (r.IsTextual ↔ r'.IsTextual) ∨ ∀ b ∈ Utf8.encode t, b.toNat < 0x80) :
    bodyText r'.charset? (Utf8.encode t) = bodyText r.charset? (Utf8.encode t) := by
  by_cases textual : r.IsTextual <;> by_cases textual' : r'.IsTextual
  · rw [bodyText_of_textual h.unnamed textual, bodyText_of_textual h.unnamed' textual']
  · have ascii := alike.resolve_left fun same => textual' (same.mp textual)
    rw [bodyText_of_textual h.unnamed textual, bodyText_of_not_textual h.unnamed' textual' plain,
      Latin1.text_encode ascii]
  · have ascii := alike.resolve_left fun same => textual (same.mpr textual')
    rw [bodyText_of_not_textual h.unnamed textual plain, bodyText_of_textual h.unnamed' textual',
      Latin1.text_encode ascii]
  · rw [bodyText_of_not_textual h.unnamed textual plain,
      bodyText_of_not_textual h.unnamed' textual' plain]

/-- Under both types a response has the same place in an exchange. -/
theorem alike (h : r.Retypes r')
    (plain : ∀ body, r.decoded = .ok body → ∃ t, body = Utf8.encode t ∧ ShowsUtf8 t)
    (alike : (r.IsTextual ↔ r'.IsTextual) ∨
      ∀ body, r.decoded = .ok body → ∀ b ∈ body, b.toNat < 0x80) :
    Reply.Alike ReadsAs (.response r) (.response r') := by
  refine .response h.agrees.locationOf_eq (fun _ _ => ⟨h.release_eq, h.reread_eq⟩) fun _ => ?_
  rw [Ending.ofFinal, Ending.ofFinal, h.decoded_eq, h.reading_eq]
  cases unpacked : r.decoded with
  | error e => exact .same _
  | ok body =>
    cases r.reading with
    | some f => exact .same _
    | none =>
      obtain ⟨t, rfl, plain⟩ := plain body unpacked
      have texts := h.bodyText_eq plain (alike.imp_right fun ascii => ascii _ unpacked)
      refine .response ⟨h.agrees.status, h.agrees.reason, ?_⟩
      have counted : content ⟨r'.status, r'.reason, r'.headers, Utf8.encode t⟩ =
          content ⟨r.status, r.reason, r.headers, Utf8.encode t⟩ := by
        rw [content, content, h.agrees.status]
      rw [counted, content]
      split
      · rw [bodyText_nil, bodyText_nil]
      · exact texts

end Retypes

/-- A response whose only header is the content type has no other one. -/
theorem header?_of_typed {type name : String} (typed : r.headers = [("Content-Type", type)])
    (other : name ≠ "content-type") : r.header? name = none := by
  have none_found : r.headers.filter
      (fun header => header.1.toList.map Char.toLower = name.toList) = [] := by
    rw [typed, List.filter_eq_nil_iff]
    intro header only same
    rw [List.mem_singleton.mp only] at same
    have named : "Content-Type".toList.map Char.toLower = "content-type".toList := by decide
    exact other (String.toList_inj.mp ((of_decide_eq_true same).symm.trans named))
  rw [header?, none_found]

end Response

/-! ## Fetches -/

namespace Client

/-- The media type makes no difference to a fetch as long as it names no charset and is textual or
not as before. Wherever a script has a response with a body in UTF-8 that shows it, another response
may stand that differs in the content type only: the fetch comes to the same document, failure or
fault. A body within ASCII comes to the same under any type that names no charset. -/
theorem fetch_of_retypes (c : Client) (timeout : Seconds) (w : World) (earlier later : List Reply)
    (retypes : r.Retypes r')
    (plain : ∀ body, r.decoded = .ok body → ∃ t, body = Utf8.encode t ∧ ShowsUtf8 t)
    (alike : (r.IsTextual ↔ r'.IsTextual) ∨
      ∀ body, r.decoded = .ok body → ∀ b ∈ body, b.toNat < 0x80) :
    (c.fetch timeout { w with replies := earlier ++ .response r :: later }).1 =
      (c.fetch timeout { w with replies := earlier ++ .response r' :: later }).1 :=
  fst_fetch_of_alike id (scriptsAlike_replace (retypes.alike plain alike) earlier later) rfl
    fun _ _ reads => (reads.judge_eq c w.room).symm

/-- A region beyond ASCII comes to the same without a content type and under the type of JSON. -/
theorem fetch_of_retypes_json :
    let t := "\x7b\"region\":\"é\"\x7d"
    let untyped : Response := .written .utf8 t 200 "OK" []
    let json : Response := .written .utf8 t 200 "OK" [("Content-Type", "application/json")]
    untyped.Retypes json ∧
      (∀ body, untyped.decoded = .ok body → ∃ t, body = Utf8.encode t ∧ ShowsUtf8 t) ∧
      (untyped.IsTextual ↔ json.IsTextual) ∧
      (standard.fetch (.whole 5) (.fresh [.response json])).1 =
        .document { region := Text.ofString "é" } := by
  intro t untyped json
  have retypes : untyped.Retypes json := {
    agrees := ⟨rfl, rfl, fun name other =>
      (Response.header?_of_typed rfl other).trans (Response.header?_of_plain rfl name).symm⟩
    body := rfl
    unnamed := by decide +kernel
    unnamed' := by decide +kernel }
  have plain (body : List UInt8) (unpacked : untyped.decoded = .ok body) :
      ∃ t, body = Utf8.encode t ∧ ShowsUtf8 t := by
    have uncoded : untyped.codings = [] := by decide +kernel
    obtain rfl := Except.ok.inj ((Response.decoded_of_uncoded uncoded).symm.trans unpacked)
    exact ⟨t.toList, rfl, by decide +kernel, by decide +kernel, by decide +kernel⟩
  have sort : untyped.IsTextual ↔ json.IsTextual := by decide +kernel
  have same := standard.fetch_of_retypes (.whole 5) (.fresh []) [] [] retypes plain (.inl sort)
  refine ⟨retypes, plain, sort, same.symm.trans ?_⟩
  decide +kernel

/-- A textual type turns a region beyond ASCII into another one. -/
theorem fetch_distinguishes_types :
    let t := "\x7b\"region\":\"é\"\x7d"
    let sent (type : String) : Response := .written .utf8 t 200 "OK" [("Content-Type", type)]
    let fetched (type : String) : Outcome :=
      (standard.fetch (.whole 5) (.fresh [.response (sent type)])).1
    ShowsUtf8 t.toList ∧ (sent "application/json").Retypes (sent "text/plain") ∧
      fetched "application/json" = .document { region := Text.ofString "é" } ∧
      fetched "text/plain" = .document { region := Text.ofString "Ã©" } := by
  intro t sent fetched
  have plain : ShowsUtf8 t.toList := ⟨by decide +kernel, by decide +kernel, by decide +kernel⟩
  have retypes : (sent "application/json").Retypes (sent "text/plain") := {
    agrees := ⟨rfl, rfl, fun _ other =>
      (Response.header?_of_typed rfl other).trans (Response.header?_of_typed rfl other).symm⟩
    body := rfl
    unnamed := by decide +kernel
    unnamed' := by decide +kernel }
  -- What is read decides, since both responses are successful and come whole.
  let room := (World.fresh []).room
  have reads {type : String} {s : Text} {d : Document} (whole : (sent type).ComesWhole)
      (text : bodyText (sent type).charset? (Utf8.encode t.toList) = .ok s)
      (document : documentOfText room s = .ok d) : fetched type = .document d := by
    have gives : (sent type).Gives room d := by
      rw [Response.gives_iff, readDocument]
      exact text ▸ document
    exact (fetch_single_eq_document_iff rfl).mpr
      ⟨canSend_standard, rfl, Response.accepted_of_gives whole rfl gives⟩
  have whole (type : String) (uncoded : (sent type).codings = [])
      (unmeasured : (sent type).headerLength = .ok none) : (sent type).ComesWhole :=
    ⟨uncoded, .inl unmeasured⟩
  have declared := Response.bodyText_of_not_textual retypes.unnamed (by decide +kernel) plain
  have textual := Response.bodyText_of_textual retypes.unnamed' (by decide +kernel)
    (Utf8.encode t.toList)
  exact ⟨plain, retypes,
    reads (whole _ (by decide +kernel) (by decide +kernel)) declared (by decide +kernel),
    reads (whole _ (by decide +kernel) (by decide +kernel)) textual (by decide +kernel)⟩

end Client

end InstanceIdentity
