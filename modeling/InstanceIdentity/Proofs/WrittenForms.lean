import InstanceIdentity.Proofs.Deadlines
import InstanceIdentity.Proofs.Members
import InstanceIdentity.Proofs.Outcome
import InstanceIdentity.Proofs.Quotation
import InstanceIdentity.Proofs.Slashes

/-!
# What written forms tell apart

Documents, failures and faults have written forms in which their texts are quoted. The texts may
look like anything, even like the end of a written form and the names of further fields. Still a
written form tells all that it is made from. A document is read from the front, where its fields are
named in the order of the table. A failure and a fault are read from the end, since what they are
called stands in front of their text.

A written form stays on one line. And since a fetch tells of a fault of a request by its written
form, it tells such faults apart.

## Main definitions

* `Text.IsOneLine` — texts in which everything shows
* `Client.FailsBy` — fetches that fail by a fault of a request with one text as its argument

## Main results

* `Document.quoted_inj`, `Failure.quoted_inj`, `Fault.quoted_ofRequest_inj` — written forms tell all
* `Client.fetch_eq_iff_of_failsBy` — fetches fail alike by the same fault only
* `Client.quoted_unambiguous` — what written forms tell apart, and that they stay on one line
-/

namespace InstanceIdentity

/-! ## Documents -/

namespace Document

variable {d d' : Document}

/-- Fields that are written in the same order are read one after the other. -/
theorem get_eq_of_intercalate {separator : Text} {fields : List Field}
    (same : List.intercalate separator (fields.map d.quotedField) =
      List.intercalate separator (fields.map d'.quotedField)) :
    ∀ field ∈ fields, d.get field = d'.get field := by
  induction fields with
  | nil => exact fun field member => absurd member List.not_mem_nil
  | cons field fields ih =>
    cases fields with
    | nil =>
      simp only [List.map_cons, List.map_nil, List.intercalate_singleton, quotedField] at same
      have text := Text.quoted_inj.mp (List.append_cancel_left same)
      exact List.forall_mem_singleton.mpr text
    | cons next fields =>
      simp only [List.map_cons, List.intercalate_cons_cons, quotedField, List.append_assoc] at same
      -- The name of the first field is the same, so its text is, and all that is behind it.
      obtain ⟨text, behind⟩ := Text.quoted_append_inj.mp (List.append_cancel_left same)
      refine List.forall_mem_cons.mpr ⟨text, ih ?_⟩
      simpa only [List.map_cons, quotedField] using List.append_cancel_left behind

/-- The written form of a document tells all of its texts. -/
theorem quoted_inj : d.quoted = d'.quoted ↔ d = d' := by
  constructor
  · intro same
    have fields := get_eq_of_intercalate
      (List.append_cancel_left (List.append_cancel_right same))
    exact eq_iff_get.mpr fun field => fields field field.mem_all
  · exact congrArg quoted

-- A text that looks like the end of a field and the next one is told from these two.
example : Document.quoted { privateIp := Text.ofString "a', instance_id='b" } ≠
    Document.quoted { privateIp := Text.ofString "a", instanceId := Text.ofString "b" } := by
  decide +kernel

end Document

/-! ## Failures and faults -/

namespace Failure

variable {f f' : Failure}

theorem Kind.name_injective : Function.Injective Kind.name := by
  intro kind kind' same
  cases kind <;> cases kind' <;> first | rfl | exact absurd same (by decide)

/-- The written form of a failure tells its kind and its message. -/
theorem quoted_inj : f.quoted = f'.quoted ↔ f.kind = f'.kind ∧ f.message = f'.message := by
  -- The sign right in front of the message is what tells where the message begins.
  have form (f : Failure) : f.quoted = Text.ofString (f.kind.name ++ "(message") ++
      CodePoint.ofChar '=' :: f.message.quoted ++ Text.ofString ")" := by
    have words : f.kind.name ++ "(message=" = f.kind.name ++ "(message" ++ "=" := by
      rw [String.append_assoc]
      rfl
    rw [quoted, words, Text.ofString_append _ "=", List.append_assoc _ (Text.ofString "=")]
    rfl
  rw [form, form, Text.append_cons_quoted_append_inj (by rintro ⟨⟩) (by decide)]
  refine and_congr_left fun _ => ⟨fun same => ?_, fun same => by rw [same]⟩
  exact Kind.name_injective (String.append_left_inj _ |>.mp (Text.ofString_injective same))

end Failure

namespace Fault

variable {name name' : String} {a a' : Text}

theorem quoted_ofRequest : (ofRequest name (some a)).quoted =
    Text.ofString (name ++ "(") ++ a.quoted ++ Text.ofString ")" := rfl

/-- The written form of a fault with one text tells its name and the text. -/
theorem quoted_ofRequest_inj :
    (ofRequest name (some a)).quoted = (ofRequest name' (some a')).quoted ↔
      name = name' ∧ a = a' := by
  have form (name : String) (a : Text) : (ofRequest name (some a)).quoted =
      Text.ofString name ++ CodePoint.ofChar '(' :: a.quoted ++ Text.ofString ")" := by
    rw [quoted_ofRequest, Text.ofString_append, List.append_assoc _ (Text.ofString "(")]
    rfl
  rw [form, form, Text.append_cons_quoted_append_inj (by rintro ⟨⟩) (by decide),
    Text.ofString_injective.eq_iff]

end Fault

/-! ## On one line -/

/-- A code point that shows, so that it is no control character. -/
structure CodePoint.IsVisible (p : CodePoint) : Prop where
  printable : p.isPrintable = true
  above : 0x20 ≤ p.val
  ne_delete : p.val ≠ 0x7F

theorem CodePoint.isVisible_iff {p : CodePoint} : p.IsVisible ↔ p.isPrintable = true := by
  refine ⟨IsVisible.printable, fun printable => ?_⟩
  have ne_delete : p.val ≠ 0x7F := fun delete => by
    obtain rfl : p = 0x7F := Fin.ext delete
    exact absurd printable (by decide)
  refine ⟨printable, ?_, ne_delete⟩
  by_cases ascii : p.val < 0x7F
  · rw [isPrintable, if_pos ascii] at printable
    exact of_decide_eq_true printable
  · omega

instance (p : CodePoint) : Decidable p.IsVisible := decidable_of_iff _ p.isVisible_iff.symm

namespace Text

variable {s t separator : Text} {texts : List Text}

/-- A text on one line: all of it shows. -/
def IsOneLine (t : Text) : Prop := ∀ p ∈ t, p.IsVisible

instance (t : Text) : Decidable t.IsOneLine := List.decidableBAll CodePoint.IsVisible t

theorem isOneLine_quoted (t : Text) : t.quoted.IsOneLine := fun _ member =>
  CodePoint.isVisible_iff.mpr (isPrintable_of_mem_quoted member)

theorem IsOneLine.append (h : s.IsOneLine) (h' : t.IsOneLine) : IsOneLine (s ++ t) :=
  List.forall_mem_append.mpr ⟨h, h'⟩

theorem IsOneLine.intercalate (h : separator.IsOneLine) (each : ∀ t ∈ texts, t.IsOneLine) :
    IsOneLine (List.intercalate separator texts) := by
  intro p member
  rcases mem_or_mem_of_mem_intercalate member with between | ⟨t, among, inside⟩
  · exact h p between
  · exact each t among p inside

end Text

theorem Document.isOneLine_quoted (d : Document) : d.quoted.IsOneLine := by
  have name (field : Field) : (Text.ofString (field.name ++ "=")).IsOneLine := by
    cases field <;> decide
  have fields : ∀ t ∈ Field.all.map d.quotedField, t.IsOneLine := List.forall_mem_map.mpr
    fun field _ => (name field).append (Text.isOneLine_quoted _)
  have comma : (Text.ofString ", ").IsOneLine := by decide
  exact (Text.IsOneLine.append (by decide) (comma.intercalate fields)).append (by decide)

theorem Failure.isOneLine_quoted (f : Failure) : f.quoted.IsOneLine := by
  have name : (Text.ofString (f.kind.name ++ "(message=")).IsOneLine := by
    cases f.kind <;> decide
  exact (name.append (Text.isOneLine_quoted _)).append (by decide)

/-! ## Fetches -/

namespace Client

variable {c : Client} {timeout timeout' : Seconds} {w w' : World} {name name' : String}
  {a a' : Text}

/-- A fetch with time fails by a fault of a request that has one text as its argument, wherever on
its way the exchange meets the fault. -/
structure FailsBy (c : Client) (timeout : Seconds) (w : World) (name : String) (a : Text) :
    Prop where
  pending : ¬ timeout.IsSpent
  ends : Exchange.Ends w.replies c.documentUrl (.fault (.ofRequest name (some a)))

/-- Such a fetch puts the written form of the fault into its failure. -/
theorem FailsBy.fetch_eq (h : c.FailsBy timeout w name a) : (c.fetch timeout w).1 =
    .failure ⟨.transport, Text.ofString ("GET " ++ c.documentUrl ++ " failed: ") ++
      (Text.ofString (name ++ "(") ++ a.quoted ++ Text.ofString ")")⟩ :=
  fst_fetch_of_settles (Seconds.elapsed_eq_false h.pending) h.ends (.requestFault rfl)

theorem fetch_eq_iff_of_failsBy (h : c.FailsBy timeout w name a)
    (h' : c.FailsBy timeout' w' name' a') :
    (c.fetch timeout w).1 = (c.fetch timeout' w').1 ↔ name = name' ∧ a = a' := by
  rw [h.fetch_eq, h'.fetch_eq, Outcome.failure.injEq, Failure.mk.injEq, List.append_right_inj,
    ← Fault.quoted_ofRequest, ← Fault.quoted_ofRequest, Fault.quoted_ofRequest_inj]
  exact and_iff_right rfl

/-- The written form of a document tells all of its texts, and that of a failure its kind and its
message. Both stay on one line. The text of a fault of a request is quoted in the same way where a
fetch fails by it, so that fetches of one client fail alike by faults with the same name and the
same text only. -/
theorem quoted_unambiguous :
    (∀ d d' : Document, d.quoted = d'.quoted ↔ d = d') ∧
      (∀ f f' : Failure, f.quoted = f'.quoted ↔ f.kind = f'.kind ∧ f.message = f'.message) ∧
      (∀ d : Document, d.quoted.IsOneLine) ∧ (∀ f : Failure, f.quoted.IsOneLine) ∧
      ∀ (c : Client) {timeout timeout' : Seconds} {w w' : World} {name name' : String}
        {a a' : Text}, c.FailsBy timeout w name a → c.FailsBy timeout' w' name' a' →
        (c.fetch timeout w).1 =
            .failure ⟨.transport, Text.ofString ("GET " ++ c.documentUrl ++ " failed: ") ++
              (Text.ofString (name ++ "(") ++ a.quoted ++ Text.ofString ")")⟩ ∧
          ((c.fetch timeout w).1 = (c.fetch timeout' w').1 ↔ name = name' ∧ a = a') :=
  ⟨fun _ _ => Document.quoted_inj, fun _ _ => Failure.quoted_inj, Document.isOneLine_quoted,
    Failure.isOneLine_quoted, fun _ {_ _ _ _ _ _ _ _} h h' =>
      ⟨h.fetch_eq, fetch_eq_iff_of_failsBy h h'⟩⟩

/-- A mark is told apart from an escaped mark, also where a redirect comes before the fault. -/
theorem quoted_unambiguous_marks :
    let limit := Seconds.whole 5
    let marked := Text.ofString "it's"
    let escaped := Text.ofString "it\\'s"
    let w := World.fresh [.fault (.ofRequest "Timeout" (some marked))]
    let w' := World.fresh
      [.response ⟨302, some "Found", [("Location", "/elsewhere")], []⟩,
        .fault (.ofRequest "Timeout" (some escaped))]
    standard.FailsBy limit w "Timeout" marked ∧ standard.FailsBy limit w' "Timeout" escaped ∧
      (standard.fetch limit w).1 = .failure ⟨.transport, Text.ofString
        ("GET http://169.254.169.254/latest/dynamic/instance-identity/document failed: " ++
          "Timeout(\"it's\")")⟩ ∧
      (standard.fetch limit w).1 ≠ (standard.fetch limit w').1 := by
  intro limit marked escaped w w'
  have pending : ¬ limit.IsSpent := mt Seconds.elapsed_iff.mpr (by decide)
  have fails : standard.FailsBy limit w "Timeout" marked :=
    ⟨pending, (Exchange.ends_iff w limit).mpr (by decide +kernel)⟩
  have fails' : standard.FailsBy limit w' "Timeout" escaped :=
    ⟨pending, (Exchange.ends_iff w' limit).mpr (by decide +kernel)⟩
  obtain ⟨-, -, -, -, faults⟩ := quoted_unambiguous
  obtain ⟨told, alike⟩ := faults standard fails fails'
  refine ⟨fails, fails', told.trans ?_, fun same => absurd (alike.mp same).2 (by decide)⟩
  decide +kernel

end Client

end InstanceIdentity
