import InstanceIdentity.Proofs.Rehearsal
import InstanceIdentity.Proofs.Attempt
import Mathlib.Algebra.Order.Field.Rat
import Mathlib.Algebra.Order.Monoid.Unbundled.WithTop
import Mathlib.Algebra.Order.Ring.Cast
import Mathlib.Tactic.Positivity

/-!
# Limits that have elapsed

A time limit stands for a number of seconds: a whole one of any size, one of the rational numbers
that floating point can hold, or an infinity. Not-a-number stands for none. A fetch looks at its
limit before anything else. If the number is zero or less, it fails at once, in words that no other
failure begins with, and neither logs nor sends anything, whatever the network would have answered.
Otherwise it logs that it begins, once, whatever it sends. A detection does as the fetch in it.

The words tell the limit, and a whole number of more than 4300 digits is not written. So with such a
limit below zero a fetch does not even fail: the fault of writing the number comes out of it.

## Main definitions

* `Seconds.value?`, `Seconds.IsSpent` — the number of seconds, and where it leaves no time
* `Seconds.IsWritable` — limits that can be written
* `Client.belated` — the failure of a fetch without time
* `Action.Shows` — what an action shows of the outcome of its fetch

## Main results

* `Seconds.elapsed_iff` — `Seconds.elapsed` computes `Seconds.IsSpent`
* `Client.not_prefix_of_fetch` — no failure of a fetch that is begun reads like that of one without
  time
* `Session.respond_of_timeLimit` — which steps are without time, and what they and all others show
* `Session.raised_of_manyDigits` — a limit below zero that nothing is told of
-/

namespace InstanceIdentity

/-! ## The number of seconds -/

/-- Only the lowest rank has the magnitude zero. -/
theorem Binary64.units_eq_zero_iff {rank : Nat} : units rank = 0 ↔ rank = 0 := by
  rw [units]
  split
  · exact Iff.rfl
  · next large =>
    have hidden : 0 < twoTo 52 + rank % twoTo 52 := Nat.add_pos_left (Nat.two_pow_pos 52) _
    have scaled : 0 < twoTo (rank / twoTo 52 - 1) := Nat.two_pow_pos _
    exact iff_of_false (Nat.mul_pos hidden scaled).ne' fun zero => large (zero ▸ Nat.two_pow_pos 52)

namespace Seconds

/-- The number of seconds that a limit stands for. Not-a-number stands for none. -/
def value? : Seconds → Option (WithBot (WithTop ℚ))
  | .whole n => some ((n : ℚ) : WithTop ℚ)
  | .floating .nan => none
  | .floating (.infinity negative) => some (if negative then ⊥ else (⊤ : WithTop ℚ))
  | .floating (.finite negative rank) =>
    some (((if negative then -1 else 1) * (Binary64.units rank / 2 ^ 1074) : ℚ) : WithTop ℚ)

/-- A limit leaves no time: it stands for a number that is zero or less. -/
def IsSpent (timeout : Seconds) : Prop := ∃ x, timeout.value? = some x ∧ x ≤ 0

variable {timeout : Seconds}

theorem isSpent_of_value? {q : ℚ} (value : timeout.value? = some (q : WithTop ℚ)) :
    timeout.IsSpent ↔ q ≤ 0 := by
  rw [IsSpent, value]
  constructor
  · rintro ⟨x, same, spent⟩
    obtain rfl := Option.some.inj same
    exact WithTop.coe_le_coe.mp (WithBot.coe_le_coe.mp spent)
  · intro spent
    exact ⟨_, rfl, WithBot.coe_le_coe.mpr (WithTop.coe_le_coe.mpr spent)⟩

/-- The test of a limit is exact. -/
theorem elapsed_iff : timeout.elapsed = true ↔ timeout.IsSpent := by
  cases timeout with
  | whole n =>
    rw [isSpent_of_value? rfl, Int.cast_nonpos]
    exact decide_eq_true_iff
  | floating x =>
    cases x with
    | nan => exact iff_of_false (by simp [elapsed]) (by simp [IsSpent, value?])
    | infinity negative =>
      cases negative with
      | false =>
        refine iff_of_false (by simp [elapsed]) ?_
        rintro ⟨x, same, spent⟩
        obtain rfl := Option.some.inj same
        exact absurd (WithBot.coe_le_coe.mp spent) (not_le_of_gt (WithTop.coe_lt_top 0))
      | true => exact iff_of_true rfl ⟨⊥, rfl, bot_le⟩
    | finite negative rank =>
      have magnitude : (0 : ℚ) ≤ Binary64.units rank / 2 ^ 1074 := by positivity
      rw [isSpent_of_value? rfl]
      cases negative with
      | true =>
        rw [if_pos rfl, neg_one_mul, neg_nonpos]
        exact iff_of_true rfl magnitude
      | false =>
        have zero : (Binary64.units rank / 2 ^ 1074 : ℚ) = 0 ↔ rank.val = 0 := by
          rw [div_eq_zero_iff, or_iff_left (by positivity), Nat.cast_eq_zero,
            Binary64.units_eq_zero_iff]
        rw [if_neg (by decide), one_mul, magnitude.ge_iff_eq', zero]
        exact decide_eq_true_iff

theorem elapsed_eq_false (pending : ¬ timeout.IsSpent) : timeout.elapsed = false :=
  Bool.eq_false_iff.mpr (mt elapsed_iff.mp pending)

theorem isSpent_negative (n : Nat) : (whole (-n)).IsSpent :=
  elapsed_iff.mp (decide_eq_true (Int.neg_nonpos_of_nonneg (Int.natCast_nonneg n)))

/-- A limit that can be written: a whole number has few enough digits. -/
protected def IsWritable : Seconds → Prop
  | .whole n => InstanceIdentity.IsWritable n
  | .floating _ => True

theorem text_eq_error (h : ¬ timeout.IsWritable) : timeout.text = .error unwritable := by
  cases timeout with
  | whole n =>
    have short : ¬ InstanceIdentity.IsWritable n := h
    rw [text, writeInteger?, if_neg short, Option.elim_none]
  | floating x => exact absurd trivial h

theorem exists_text_eq_ok_iff : (∃ written, timeout.text = .ok written) ↔ timeout.IsWritable := by
  constructor
  · rintro ⟨written, told⟩
    by_contra h
    cases told.symm.trans (text_eq_error h)
  · intro h
    cases timeout with
    | whole n =>
      have short : InstanceIdentity.IsWritable n := h
      exact ⟨toString n, by rw [text, writeInteger?, if_pos short, Option.elim_some]⟩
    | floating x => exact ⟨x.text, rfl⟩

-- Negative zero leaves no time. The least positive number does, and so does not-a-number.
example : (floating (.zero true)).elapsed = true ∧
    (floating (.finite false ⟨1, by decide⟩)).elapsed = false ∧
    (floating .nan).elapsed = false := by decide

end Seconds

/-! ## Fetches without time -/

/-- Of two texts that do not begin alike, one is no beginning of what goes on from the other. -/
theorem Text.not_prefix_append {s t rest : Text} (other : ¬ s <+: t) (other' : ¬ t <+: s) :
    ¬ s <+: t ++ rest := by
  intro begins
  rcases List.prefix_or_prefix_of_prefix begins (List.prefix_append t rest) with h | h
  · exact other h
  · exact other' h

namespace Client

variable {c : Client} {timeout : Seconds} {w : World} {f : Failure} {room : Nat} {ground : Ground}
  {ending : Exchange.Ending}

/-- The failure of a fetch without time, which tells the limit. -/
def belated (c : Client) (written : String) : Failure :=
  ⟨.transport, Text.ofString ("GET " ++ c.documentUrl ++ " not attempted: timeout of " ++
    written ++ "s already elapsed")⟩

/-- What a failure of a fetch without time begins with. -/
def notAttempted (c : Client) : Text := Text.ofString ("GET " ++ c.documentUrl ++ " not attempted")

theorem notAttempted_prefix_belated (c : Client) (written : String) :
    c.notAttempted <+: (c.belated written).message := by
  have words : "GET " ++ c.documentUrl ++ " not attempted: timeout of " ++ written ++
        "s already elapsed" =
      "GET " ++ c.documentUrl ++ " not attempted" ++
        (": timeout of " ++ written ++ "s already elapsed") := by
    simp only [String.append_assoc]
    rfl
  rw [notAttempted, belated, words, Text.ofString_append (_ ++ " not attempted")]
  exact List.prefix_append _ _

/-- A fetch without time does nothing. -/
theorem fetch_of_isSpent (spent : timeout.IsSpent) :
    c.fetch timeout w = (c.refuse timeout, w) := by
  rw [fetch, if_pos (Seconds.elapsed_iff.mpr spent)]

theorem refuse_of_text {written : String} (told : timeout.text = .ok written) :
    c.refuse timeout = .failure (c.belated written) := by
  rw [refuse, told, belated]
  dsimp only
  rw [transportFailure, ← Text.ofString_append]
  -- The words are the same and only put together in another order.
  simp only [String.append_assoc]
  rfl

theorem refuse_of_not_isWritable (h : ¬ timeout.IsWritable) :
    c.refuse timeout = .raised Seconds.unwritable := by
  rw [refuse, Seconds.text_eq_error h]

/-- With a limit below zero that has too many digits, a fetch raises a fault. -/
theorem fetch_of_manyDigits {n : Nat} (many : Nat.pow 10 greatestDigits ≤ n) :
    c.fetch (.whole (-n)) w = (.raised Seconds.unwritable, w) := by
  have unwritable : ¬ (Seconds.whole (-n)).IsWritable := fun short => by
    have below : (-n : Int).natAbs < Nat.pow 10 greatestDigits := short
    rw [Int.natAbs_neg, Int.natAbs_natCast] at below
    exact absurd many (Nat.not_le.mpr below)
  rw [fetch_of_isSpent (Seconds.isSpent_negative n), refuse_of_not_isWritable unwritable]

/-- Without time a fetch fails where its limit can be written. -/
theorem refuse_eq_failure_iff : (∃ written, timeout.text = .ok written ∧
    c.refuse timeout = .failure (c.belated written)) ↔ timeout.IsWritable := by
  rw [← Seconds.exists_text_eq_ok_iff]
  exact exists_congr fun written => and_iff_left_of_imp refuse_of_text

theorem refuse_eq_raised_iff :
    c.refuse timeout = .raised Seconds.unwritable ↔ ¬ timeout.IsWritable := by
  refine ⟨fun raises writable => ?_, refuse_of_not_isWritable⟩
  obtain ⟨written, -, fails⟩ := refuse_eq_failure_iff.mpr writable
  cases raises.symm.trans fails

/-- On no ground does a failure begin like that of a fetch without time. -/
theorem not_prefix_of_settles (h : c.Settles room ground ending (.failure f)) :
    ¬ c.notAttempted <+: f.message := by
  rw [notAttempted, Text.ofString_append _ " not attempted"]
  cases h with
  | @requestFault f reach =>
    rw [Text.ofString_append _ " failed: ", List.append_assoc, List.prefix_append_right_inj]
    exact Text.not_prefix_append (by decide) (by decide)
  | @noDocument r m withholds =>
    intro begins
    -- A failure of decoding does not even begin with the request.
    have first : Text.ofString "GET " <+: Text.ofString
        ("failed to decode identity document (HTTP " ++ (toString r.status ++ ("): " ++ m))) := by
      rw [Text.ofString_append "GET ", List.append_assoc, String.append_assoc,
        String.append_assoc] at begins
      exact (List.prefix_append _ _).trans begins
    rw [Text.ofString_append] at first
    exact Text.not_prefix_append (by decide) (by decide) first
  | @errorStatus r d gives status =>
    rw [String.append_assoc, String.append_assoc, Text.ofString_append (_ ++ " returned HTTP "),
      Text.ofString_append _ " returned HTTP ", List.append_assoc, List.prefix_append_right_inj]
    exact Text.not_prefix_append (by decide) (by decide)

/-- A failure of a fetch that is begun does not begin like that of a fetch without time. -/
theorem not_prefix_of_fetch (pending : ¬ timeout.IsSpent)
    (fails : (c.fetch timeout w).1 = .failure f) : ¬ c.notAttempted <+: f.message := by
  have begun := Seconds.elapsed_eq_false pending
  obtain ⟨ending, ends⟩ := Exchange.exists_ends w.replies c.documentUrl
  obtain ⟨ground, o, settles⟩ := c.exists_settles w.room ending
  obtain rfl : o = .failure f := (fst_fetch_of_settles begun ends settles).symm.trans fails
  exact not_prefix_of_settles settles

/-- A fetch that is begun logs its announcement only. -/
theorem records_fetch (pending : ¬ timeout.IsSpent) :
    (c.fetch timeout w).2.records = c.announcement :: w.records := by
  have begun := Seconds.elapsed_eq_false pending
  obtain ⟨legs, sends⟩ := Exchange.exists_sends w.replies c.documentUrl
  rw [snd_fetch begun sends]
  exact World.sent_records

end Client

/-! ## Steps -/

/-- What an action with a fetch comes to, and what it logs on its own, for an outcome of the fetch.
A fetch comes to the outcome. A detection concludes from it. -/
inductive Action.Concludes : Action → Outcome → Result → List Record → Prop
  | fetch (timeout : Seconds) (o : Outcome) : Concludes (.fetch timeout) o (.fetched o) []
  | detect {o : Outcome} {d : Detection} {records : List Record} (given : Option Seconds)
      (concludes : Detector.Concludes o d records) :
      Concludes (.detect given) o (.detected d) records

/-- The records of a logger. -/
def Answer.recordsOf (logger : Logger) (shown : Answer) : List Record :=
  shown.records.filter fun record => record.logger = logger

variable {c : Client} {limit timeout : Seconds} {suppressed : Bool} {step : Step}
  {action : Action} {o : Outcome} {result result' : Result} {own own' : List Record}

theorem Action.Concludes.unique (h : action.Concludes o result own)
    (h' : action.Concludes o result' own') : result = result' ∧ own = own' := by
  cases h with
  | fetch timeout =>
    cases h'
    exact ⟨rfl, rfl⟩
  | detect given concludes =>
    cases h' with
    | detect given concludes' =>
      obtain ⟨rfl, rfl⟩ := Detector.concludes_iff.mp concludes
      obtain ⟨rfl, rfl⟩ := Detector.concludes_iff.mp concludes'
      exact ⟨rfl, rfl⟩

theorem Action.Concludes.logger_of_mem (h : action.Concludes o result own) {record : Record}
    (member : record ∈ own) : record.logger = .detector := by
  cases h with
  | fetch timeout => cases member
  | detect given concludes =>
    obtain ⟨rfl, rfl⟩ := Detector.concludes_iff.mp concludes
    exact Detector.logger_of_mem_conclude member

namespace Session

/-- A step with a fetch shows what the fetch leaves, and what its action makes of the outcome. -/
theorem exists_respond_eq (c : Client) (suppressed : Bool) (step : Step)
    (fetches : step.action.timeLimit limit = some timeout) :
    ∃ result own,
      step.action.Concludes (c.fetch timeout (.begun step.replies step.spare)).1 result own ∧
      respond c limit suppressed step =
        { result := result
          records := (c.fetch timeout (.begun step.replies step.spare)).2.records.reverse ++ own
          requests := (c.fetch timeout (.begun step.replies step.spare)).2.requests.reverse
          asked := (c.fetch timeout (.begun step.replies step.spare)).2.asked.reverse
          suppressed := suppressed } := by
  obtain ⟨action, replies, spare⟩ := step
  cases action with
  | fetch timeout' =>
    obtain rfl := Option.some.inj fetches
    exact ⟨_, [], .fetch _ _, by rw [respond_fetch, List.append_nil]⟩
  | detect given =>
    obtain rfl := Option.some.inj fetches
    exact ⟨_, _, .detect _ (Detector.concludes_iff.mpr ⟨rfl, rfl⟩), respond_detect⟩
  | enter => cases fetches
  | exit => cases fetches
  | close => cases fetches

/-- The client's records of such a step are those of its fetch. The detector's are those that its
action adds. -/
theorem recordsOf_respond (c : Client) (suppressed : Bool) (step : Step)
    (fetches : step.action.timeLimit limit = some timeout) :
    (respond c limit suppressed step).recordsOf .client =
        (c.fetch timeout (.begun step.replies step.spare)).2.records.reverse ∧
      step.action.Concludes (c.fetch timeout (.begun step.replies step.spare)).1
        (respond c limit suppressed step).result
        ((respond c limit suppressed step).recordsOf .detector) := by
  obtain ⟨result, own, concludes, shown⟩ := exists_respond_eq c suppressed step fetches
  have ofClient (record)
      (member : record ∈ (c.fetch timeout (.begun step.replies step.spare)).2.records) :
      record.logger = .client := Client.logger_of_mem_records member
  have ofDetector (record) (member : record ∈ own) : record.logger = .detector :=
    concludes.logger_of_mem member
  rw [shown]
  constructor
  · have none : own.filter (fun record => record.logger = .client) = [] :=
      List.filter_eq_nil_iff.mpr (by simp +contextual [ofDetector])
    rw [Answer.recordsOf, List.filter_append, none, List.append_nil]
    exact List.filter_eq_self.mpr (by simpa using ofClient)
  · have all : own.filter (fun record => record.logger = .detector) = own :=
      List.filter_eq_self.mpr (by simpa using ofDetector)
    rw [Answer.recordsOf, List.filter_append, all,
      List.filter_eq_nil_iff.mpr (by simp +contextual [ofClient])]
    exact concludes

/-- A step without time shows what its action makes of the refusal, and nothing else. -/
theorem exists_respond_eq_of_isSpent (c : Client) (suppressed : Bool) (step : Step)
    (fetches : step.action.timeLimit limit = some timeout) (spent : timeout.IsSpent) :
    ∃ result own, step.action.Concludes (c.refuse timeout) result own ∧
      respond c limit suppressed step = ⟨result, own, [], [], suppressed⟩ := by
  obtain ⟨result, own, concludes, shown⟩ := exists_respond_eq c suppressed step fetches
  rw [Client.fetch_of_isSpent spent] at concludes shown
  exact ⟨result, own, concludes, shown⟩

/-- Neither the script nor the calls to spare make a difference to a step without time. -/
theorem respond_eq_of_isSpent (c : Client) (suppressed : Bool) (step : Step)
    (fetches : step.action.timeLimit limit = some timeout) (spent : timeout.IsSpent)
    (replies : List Reply) (spare : Nat) :
    respond c limit suppressed ⟨step.action, replies, spare⟩ =
      respond c limit suppressed step := by
  obtain ⟨result, own, concludes, shown⟩ :=
    exists_respond_eq_of_isSpent c suppressed step fetches spent
  obtain ⟨result', own', concludes', shown'⟩ :=
    exists_respond_eq_of_isSpent c suppressed ⟨step.action, replies, spare⟩ fetches spent
  obtain ⟨rfl, rfl⟩ := concludes.unique concludes'
  rw [shown, shown']

/-- A step logs and sends nothing through its client where no time is left, and only there. -/
theorem idle_iff_isSpent (c : Client) (suppressed : Bool) (step : Step)
    (fetches : step.action.timeLimit limit = some timeout) :
    (respond c limit suppressed step).recordsOf .client = [] ∧
      (respond c limit suppressed step).requests = [] ↔ timeout.IsSpent := by
  obtain ⟨ofClient, -⟩ := recordsOf_respond c suppressed step fetches
  constructor
  · -- Where time is left, the announcement is a record of the client.
    rintro ⟨silent, -⟩
    by_contra pending
    rw [ofClient, Client.records_fetch pending] at silent
    cases silent
  · intro spent
    obtain ⟨result, own, -, shown⟩ := exists_respond_eq_of_isSpent c suppressed step fetches spent
    rw [ofClient, Client.fetch_of_isSpent spent, shown]
    exact ⟨rfl, rfl⟩

end Session

end InstanceIdentity
