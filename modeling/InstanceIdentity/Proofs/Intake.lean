import InstanceIdentity.Http.Intake
import Mathlib.Tactic.Common

/-!
# What is read of a body

Cutting a body into pieces loses nothing of it, so where no coding is named the body is read as it
is. Of nothing, nothing is read, whatever the codings are. A redirect whose body names no coding and
is as long as declared does not keep the exchange from going on.

## Main results

* `Response.flatten_pieces` — the pieces are the body
* `Response.decoded_of_uncoded`, `Response.decoded_eq_nil` — bodies that are read as they are
* `Response.release_of_uncoded`, `Response.reread_of_reading` — redirects whose bodies keep nothing
  back
-/

namespace InstanceIdentity

namespace Response

variable {r : Response} {bytes body : List UInt8}

/-! ## Pieces -/

theorem flatten_cut (missing : Nat) (begun bytes : List UInt8) :
    (cut missing begun bytes).flatten = begun.reverse ++ bytes := by
  -- What has been begun stands latest first and is cut off where no byte is missing.
  induction bytes generalizing missing begun with
  | nil =>
    rw [cut]
    split <;> simp [*]
  | cons b rest ih =>
    cases missing with
    | zero => rw [cut, List.flatten_cons, ih, List.reverse_singleton, List.singleton_append]
    | succ missing => rw [cut, ih, List.reverse_cons, List.append_assoc, List.singleton_append]

/-- The pieces of a body are the body. -/
theorem flatten_pieces (bytes : List UInt8) : (pieces bytes).flatten = bytes :=
  flatten_cut pieceSize [] bytes

/-! ## Bodies that are read as they are -/

/-- Without a coding, a piece is read as it is. -/
theorem Intake.read_uncoded (i : Intake) (pieces : List (List UInt8)) :
    (i.read [] pieces).output = i.output ++ pieces.flatten ∧ (i.read [] pieces).flaw = i.flaw := by
  induction pieces generalizing i with
  | nil => exact ⟨(List.append_nil _).symm, rfl⟩
  | cons piece rest ih =>
    obtain ⟨output, flaw⟩ := ih { i with output := i.output ++ piece, isBegun := true }
    rw [List.append_assoc, ← List.flatten_cons] at output
    exact ⟨output, flaw⟩

theorem intake_of_uncoded (uncoded : r.codings = []) :
    r.intake.output = r.body ∧ r.intake.flaw = none := by
  obtain ⟨output, flaw⟩ := Intake.read_uncoded ⟨[], [], false, none⟩ (pieces r.body)
  rw [flatten_pieces, List.nil_append] at output
  rw [intake, uncoded]
  exact ⟨output, flaw⟩

/-- The body of a response that names no coding stays as it is. -/
theorem decoded_of_uncoded (uncoded : r.codings = []) : r.decoded = .ok r.body := by
  obtain ⟨output, flaw⟩ := intake_of_uncoded uncoded
  rw [decoded, flaw, output]
  exact ite_self _

/-- Codings of nothing are nothing. -/
theorem decoded_eq_nil (empty : r.body = []) (h : r.decoded = .ok body) : body = [] := by
  have nothing : r.intake = ⟨[], [], false, none⟩ := by
    rw [intake, empty]
    rfl
  rw [decoded, nothing, empty] at h
  exact (Except.ok.inj ((ite_self _).symm.trans h)).symm

/-! ## Redirects -/

theorem release_of_uncoded (uncoded : r.codings = []) : r.release = .ok () := by
  simp [release, uncoded]

/-- A body that is as long as declared can be read once more. -/
theorem reread_of_reading (read : r.reading = none) : r.reread = .ok () := by
  rw [reread, read]

end Response

end InstanceIdentity
