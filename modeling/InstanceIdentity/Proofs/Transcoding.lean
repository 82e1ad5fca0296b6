import InstanceIdentity.Proofs.Delivery
import InstanceIdentity.Proofs.Replacement

/-!
# The encoding of a body makes no difference

A service may send the text of a document in any encoding of Unicode. If the text is recognizable
and nothing else about the responses differs, a fetch comes to the same: the same document, or the
same failure, with the same places in its message. The ways in which the texts are read are not the
same. One is detected and decoded strictly, the other is decoded with replacements; they agree
because bytes that encode a text have no invalid part.

What counts bytes and not characters can tell the encodings apart: a declared length, a status that
says that there is no body, and a coding of the body.

## Main definitions

* `Response.ReadsAs` — final responses that are read as the same text
* `Response.Agrees` — responses that agree but for the content type and the body
* `Response.Transcribes` — responses that present one text, and agree otherwise
* `Response.written` — a text in an encoding, under no content type

## Main results

* `Client.fetch_of_transcribes` — a fetch with either of two such responses
* `Client.fetch_distinguishes_encodings` — what counts bytes
-/

namespace InstanceIdentity

open Exchange

variable {r r' f f' : Response} {t : List Char}

namespace Response

/-- A final response is read as another one is: they have one status, one reason and one text. -/
structure ReadsAs (f f' : Response) : Prop where
  status : f'.status = f.status
  reason : f'.reason = f.reason
  text : bodyText f'.charset? f'.content = bodyText f.charset? f.content

/-- Responses that are read alike are judged alike. -/
theorem ReadsAs.judge_eq (h : f.ReadsAs f') (c : Client) (room : Nat) :
    c.judge room f' = c.judge room f := by
  have document : readDocument room f' = readDocument room f := by
    rw [readDocument, readDocument, h.text]
  have error : f'.isError = f.isError := by rw [isError, isError, h.status]
  have phrase : f'.reasonText = f.reasonText := by rw [reasonText, reasonText, h.reason]
  rw [Client.judge, Client.judge, document, error, phrase, h.status]

/-- Two responses agree about their status, their reason, and all headers but the content type. -/
structure Agrees (r r' : Response) : Prop where
  status : r'.status = r.status
  reason : r'.reason = r.reason
  headers : ∀ name, name ≠ "content-type" → r'.header? name = r.header? name

namespace Agrees

theorem codingHeader_eq (h : r.Agrees r') : r'.codingHeader = r.codingHeader := by
  rw [codingHeader, codingHeader, h.headers _ (by decide)]

theorem codings_eq (h : r.Agrees r') : r'.codings = r.codings := by
  rw [codings, codings, h.codingHeader_eq]

theorem isBodiless_eq (h : r.Agrees r') : r'.isBodiless = r.isBodiless := by
  rw [isBodiless, isBodiless, h.status]

theorem headerLength_eq (h : r.Agrees r') : r'.headerLength = r.headerLength := by
  have chunked : r'.isChunked = r.isChunked := by
    rw [isChunked, isChunked, h.headers _ (by decide)]
  rw [headerLength, headerLength, h.headers _ (by decide), chunked]

theorem declaredLength_eq (h : r.Agrees r') : r'.declaredLength = r.declaredLength := by
  rw [r'.declaredLength_eq, r.declaredLength_eq, h.headerLength_eq, h.isBodiless_eq]

theorem locationOf_eq (h : r.Agrees r') : locationOf r' = locationOf r := by
  have location : r'.location? = r.location? := by
    rw [location?, location?, h.status, h.headers _ (by decide)]
  rw [locationOf, locationOf, h.declaredLength_eq, location]

/-- Where nothing counts bytes, responses that are read alike have the same place in an exchange. -/
theorem alike (h : r.Agrees r') (reads : r.ReadsAs r') (uncoded : r.codings = [])
    (bodied : r.isBodiless = false)
    (length : ∀ n, r.headerLength = .ok (some n) → n = r.body.length ∧ n = r'.body.length) :
    Reply.Alike ReadsAs (.response r) (.response r') := by
  have uncoded' : r'.codings = [] := h.codings_eq.trans uncoded
  have reading : r.reading = none := reading_of_exact bodied fun n declared => (length n declared).1
  have reading' : r'.reading = none := by
    refine reading_of_exact (h.isBodiless_eq.trans bodied) fun n declared => ?_
    rw [h.headerLength_eq] at declared
    exact (length n declared).2
  refine .response h.locationOf_eq (fun _ _ => ⟨?_, ?_⟩) fun _ => ?_
  · rw [release_of_uncoded uncoded, release_of_uncoded uncoded']
  · rw [reread_of_reading reading, reread_of_reading reading']
  · rw [Ending.ofFinal_of_uncoded uncoded reading, Ending.ofFinal_of_uncoded uncoded' reading']
    exact .response reads

end Agrees

/-- Two responses present one text, each in its own encoding and under its own content type, and
agree about everything else. -/
structure Transcribes (t : List Char) (r r' : Response) : Prop where
  presents : Presents t (r.header? "content-type") r.body
  presents' : Presents t (r'.header? "content-type") r'.body
  status : r'.status = r.status
  reason : r'.reason = r.reason
  headers : ∀ name, name ≠ "content-type" → r'.header? name = r.header? name

namespace Transcribes

theorem agrees (h : Transcribes t r r') : r.Agrees r' := ⟨h.status, h.reason, h.headers⟩

/-- A recognizable text is read alike from both. -/
theorem readsAs (h : Transcribes t r r') (recognizable : IsRecognizable t) : r.ReadsAs r' where
  status := h.status
  reason := h.reason
  text := by
    rw [h.presents.bodyText_eq recognizable, h.presents'.bodyText_eq recognizable, h.status]

end Transcribes

/-- A response that presents a text in an encoding, without a mark and without a content type. -/
def written (e : Encoding) (t : String) (status : Int) (reason : String)
    (headers : List (String × String)) : Response :=
  ⟨status, some reason, headers, e.write false t.toList⟩

theorem transcribes_written {e e' : Encoding} {t reason : String} {status : Int}
    {headers : List (String × String)}
    (untyped : (written e t status reason headers).header? "content-type" = none) :
    Transcribes t.toList (written e t status reason headers)
      (written e' t status reason headers) where
  presents := by
    rw [untyped]
    exact .shown e false
  presents' := by
    have untyped' : (written e' t status reason headers).header? "content-type" = none := untyped
    rw [untyped']
    exact .shown e' false
  status := rfl
  reason := rfl
  headers _ _ := rfl

end Response

namespace Client

/-- The encoding of a body makes no difference to a fetch. Wherever a script has a response that
presents a recognizable text, another response may stand that presents the same text and agrees
about everything else: the fetch comes to the same document, failure or fault. The body must not be
coded, the status must not say that there is none, and a length that is declared must be that of
both bodies. -/
theorem fetch_of_transcribes (c : Client) (timeout : Seconds) (w : World)
    (earlier later : List Reply) (recognizable : IsRecognizable t)
    (transcribes : Response.Transcribes t r r') (uncoded : r.codings = [])
    (bodied : ¬ (r.status = 204 ∨ r.status = 304 ∨ (100 ≤ r.status ∧ r.status < 200)))
    (length : ∀ n, r.headerLength = .ok (some n) → n = r.body.length ∧ n = r'.body.length) :
    (c.fetch timeout { w with replies := earlier ++ .response r :: later }).1 =
      (c.fetch timeout { w with replies := earlier ++ .response r' :: later }).1 := by
  have bodied' : r.isBodiless = false := by
    rwa [Bool.eq_false_iff, ne_eq, r.isBodiless_iff]
  have alike := transcribes.agrees.alike (transcribes.readsAs recognizable) uncoded bodied' length
  have scripts := scriptsAlike_replace alike earlier later
  exact fst_fetch_of_alike id scripts rfl fun f f' reads => (reads.judge_eq c w.room).symm

/-- An empty object between spaces is the same document in UTF-8 and in UTF-16. -/
theorem fetch_of_transcribes_emptyObject :
    let braces := "\x7b  \x7d"
    let sent (e : Encoding) : Response := .written e braces 200 "OK" []
    IsRecognizable braces.toList ∧
      Response.Transcribes braces.toList (sent .utf8) (sent (.utf16 .little)) ∧
      (sent .utf8).codings = [] ∧ (sent .utf8).headerLength = .ok none ∧
      (standard.fetch (.whole 5) (.fresh [.response (sent (.utf16 .little))])).1 =
        .document {} := by
  intro braces sent
  have recognizable : IsRecognizable braces.toList :=
    ⟨by decide, List.all_iff_forall_prop.mp (by decide), by decide⟩
  have transcribes : Response.Transcribes braces.toList (sent .utf8) (sent (.utf16 .little)) :=
    Response.transcribes_written (by decide +kernel)
  have uncoded : (sent .utf8).codings = [] := by decide +kernel
  have unmeasured : (sent .utf8).headerLength = .ok none := by decide +kernel
  have same := standard.fetch_of_transcribes (.whole 5) (.fresh []) [] [] recognizable transcribes
    uncoded (by decide) fun n length => by cases unmeasured.symm.trans length
  refine ⟨recognizable, transcribes, uncoded, unmeasured, same.symm.trans ?_⟩
  decide +kernel

/-! ## What counts bytes -/

/-- A response that says that its body is compressed. -/
def writtenDeflated (e : Encoding) : Response :=
  .written e "x\x01 a" 200 "OK" [("Content-Encoding", "deflate")]

/-- The bytes of this text in UTF-8 are the beginning of a compressed body, from which nothing is
unpacked yet. In UTF-16 they are none. -/
theorem conclude_writtenDeflated_ne (c : Client) (room : Nat) :
    c.conclude room (.ofFinal (writtenDeflated .utf8)) ≠
      c.conclude room (.ofFinal (writtenDeflated (.utf16 .little))) := by
  have named : (writtenDeflated .utf8).codings = [.deflate] :=
    Response.codings_deflate (by decide +kernel)
  have named' : (writtenDeflated (.utf16 .little)).codings = [.deflate] :=
    Response.codings_deflate (by decide +kernel)
  have unfinished : (writtenDeflated .utf8).intake = ⟨[], [], true, none⟩ := by
    rw [Response.intake_of_codings named]
    decide +kernel
  have broken : (writtenDeflated (.utf16 .little)).intake.flaw = some .storedLength := by
    rw [Response.intake_of_codings named']
    decide +kernel
  have arrives := Ending.ofFinal_of_unpacked (r := writtenDeflated .utf8) (by decide)
    (by rw [unfinished]) (by decide +kernel)
  obtain ⟨m, decode⟩ := c.exists_conclude_of_empty (f := ⟨200, some "OK", _, []⟩) room rfl
  obtain ⟨m', transport⟩ := c.exists_conclude_of_broken room (by decide) broken
  rw [arrives, unfinished, transport]
  exact fun same => by cases decode.symm.trans same

/-- What counts bytes tells the encodings apart. A status without a body has their number in the
message of its failure, a declared length can be that of one encoding only, and what is no coded
body in one encoding can be the beginning of one in another. -/
theorem fetch_distinguishes_encodings :
    let fetched (r : Response) : Outcome := (standard.fetch (.whole 5) (.fresh [.response r])).1
    let braces := "\x7b  \x7d"
    let bodiless (status : Int) (e : Encoding) : Response := .written e braces status "" []
    let measured (e : Encoding) : Response := .written e braces 200 "OK" [("Content-Length", "4")]
    (IsRecognizable braces.toList ∧ ∀ status ∈ [100, 199, 204, 304],
        Response.Transcribes braces.toList (bodiless status .utf8)
          (bodiless status (.utf16 .little)) ∧
        fetched (bodiless status .utf8) ≠ fetched (bodiless status (.utf16 .little))) ∧
      (IsRecognizable braces.toList ∧
        Response.Transcribes braces.toList (measured .utf8) (measured (.utf16 .little)) ∧
        fetched (measured .utf8) ≠ fetched (measured (.utf16 .little))) ∧
      (IsRecognizable "x\x01 a".toList ∧
        Response.Transcribes "x\x01 a".toList (writtenDeflated .utf8)
          (writtenDeflated (.utf16 .little)) ∧
        fetched (writtenDeflated .utf8) ≠ fetched (writtenDeflated (.utf16 .little))) := by
  intro fetched braces bodiless measured
  have recognizable : IsRecognizable braces.toList :=
    ⟨by decide, List.all_iff_forall_prop.mp (by decide), by decide⟩
  have concluded (e : Encoding) (final : locationOf (writtenDeflated e) = .ok none) :
      fetched (writtenDeflated e) =
        standard.conclude (World.fresh []).room (.ofFinal (writtenDeflated e)) :=
    fst_fetch_single canSend_standard rfl rfl final
  have counted : ∀ status ∈ [100, 199, 204, 304],
      fetched (bodiless status .utf8) ≠ fetched (bodiless status (.utf16 .little)) := by
    decide +kernel
  have recognizable' : IsRecognizable "x\x01 a".toList :=
    ⟨by decide, List.all_iff_forall_prop.mp (by decide), by decide⟩
  refine ⟨⟨recognizable, fun status inside => ⟨?_, counted status inside⟩⟩,
    ⟨recognizable, Response.transcribes_written (by decide +kernel), by decide +kernel⟩,
    recognizable', Response.transcribes_written (by decide +kernel), ?_⟩
  · exact Response.transcribes_written (Response.header?_of_plain rfl _)
  · rw [concluded _ (by decide +kernel), concluded _ (by decide +kernel)]
    exact conclude_writtenDeflated_ne standard _

end Client

end InstanceIdentity
