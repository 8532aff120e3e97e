import Mathlib.Algebra.Group.Nat.Defs
import LinkPreview.Http.Head

/-!
# Statuses of responses

The status in the head of a response has exactly three digits and does not begin with a zero. Heads
that only inform are skipped, so what is left is 101 or a number from 200 to 999.
-/

namespace LinkPreview.Http.Head

variable {head : Head} {s rest : List UInt8}

namespace Unfinished

variable {p p' : Unfinished} {b : UInt8}

/-- What is known of the status, by how much of the head was read. -/
def IsSound (p : Unfinished) : Prop :=
  match p.place with
  | .start | .startReturn | .version _ | .minorVersion | .statusSpace => p.status = 0
  | .status missing => 1 ≤ missing ∧ missing ≤ 3 ∧ p.status < 10 ^ (3 - missing)
  | .statusEnd => p.status < 1000
  | _ => 100 ≤ p.status ∧ p.status < 1000

theorem isSound_empty : IsSound {} := rfl

/-- A byte keeps what is known of the status, and a head that it completes has three digits. -/
def Progress.Keeps : Progress → Prop
  | .ongoing p => p.IsSound
  | .complete h => 100 ≤ h.status ∧ h.status < 1000
  | .malformed => True

theorem keeps_expect {expected : UInt8} {next : Place}
    (h : IsSound { p with place := next }) : Progress.Keeps (p.expect expected b next) := by
  unfold expect
  split
  · exact h
  · trivial

theorem keeps_stepLine (h : 100 ≤ p.status ∧ p.status < 1000) :
    Progress.Keeps (p.stepLine b) := by
  unfold stepLine
  split
  · exact h
  · split
    · exact h
    · split
      · exact h
      · trivial

theorem keeps_stepValue (h : 100 ≤ p.status ∧ p.status < 1000) :
    Progress.Keeps (p.stepValue b) := by
  unfold stepValue
  split
  · exact h
  · split
    · exact h
    · split
      · exact h
      · trivial

theorem digit_le (hb : b ≤ 0x39) : b.toNat - 0x30 ≤ 9 := by
  have hle : b.toNat ≤ 0x39 := UInt8.le_iff_toNat_le.mp hb
  omega

/-- One more digit makes a status ten times as large at most. -/
theorem keeps_digit {missing : Nat} (hmissing : 1 ≤ missing ∧ missing ≤ 3)
    (hstatus : p.status < 10 ^ (3 - missing)) (hb : b ≤ 0x39) :
    IsSound { p with
      place := if missing ≤ 1 then .statusEnd else .status (missing - 1)
      status := p.status * 10 + (b.toNat - 0x30) } := by
  have hdigit := digit_le hb
  obtain rfl | rfl | rfl : missing = 1 ∨ missing = 2 ∨ missing = 3 := by omega
  all_goals simp [IsSound] at hstatus ⊢
  all_goals omega

theorem keeps_step (h : p.IsSound) (b : UInt8) : Progress.Keeps (p.step b) := by
  cases hplace : p.place with
  | start =>
      simp only [IsSound, step, hplace] at h ⊢
      split
      · exact h
      · split
        · simpa only [Progress.Keeps, IsSound, hplace] using h
        · exact keeps_expect h
  | version expected =>
      simp only [IsSound, hplace] at h
      match expected, hplace with
      | [], hplace => simp only [step, hplace]; trivial
      | [_], hplace => simp only [step, hplace]; exact keeps_expect h
      | _ :: _ :: _, hplace => simp only [step, hplace]; exact keeps_expect h
  | minorVersion =>
      simp only [IsSound, step, hplace] at h ⊢
      split
      · exact h
      · trivial
  | statusSpace =>
      simp only [IsSound, step, hplace] at h ⊢
      exact keeps_expect ⟨by decide, by decide, by simp [h]⟩
  | status missing =>
      simp only [IsSound, step, hplace] at h ⊢
      split
      · rename_i hb
        exact keeps_digit ⟨h.1, h.2.1⟩ h.2.2 (by simpa using (Bool.and_eq_true_iff.mp hb).2)
      · trivial
  | statusEnd =>
      simp only [IsSound, step, hplace] at h ⊢
      split
      · trivial
      · rename_i hlarge
        have hstatus : 100 ≤ p.status ∧ p.status < 1000 := ⟨Nat.le_of_not_lt hlarge, h⟩
        split
        · exact hstatus
        · split
          · exact hstatus
          · exact keeps_expect hstatus
  | reason =>
      simp only [IsSound, step, hplace] at h ⊢
      split
      · exact h
      · split
        · exact h
        · split
          · simpa only [Progress.Keeps, IsSound, hplace] using h
          · trivial
  | startReturn | lineReturn =>
      simp only [IsSound, step, hplace] at h ⊢
      exact keeps_expect h
  | line =>
      simp only [IsSound, step, hplace] at h ⊢
      exact keeps_stepLine h
  | name =>
      simp only [IsSound, step, hplace] at h ⊢
      split
      · exact h
      · split
        · simpa only [Progress.Keeps, IsSound, hplace] using h
        · trivial
  | valueStart =>
      simp only [IsSound, step, hplace] at h ⊢
      split
      · simpa only [Progress.Keeps, IsSound, hplace] using h
      · exact keeps_stepValue h
  | value =>
      simp only [IsSound, step, hplace] at h ⊢
      exact keeps_stepValue h
  | valueReturn | lastReturn =>
      simp only [IsSound, step, hplace] at h ⊢
      split
      · exact h
      · trivial

end Unfinished

open Unfinished (IsSound)

/-- Behind a head that only informs the reader begins anew, so the induction is over the bytes and
what is known of the status goes along. -/
theorem status_of_readBehind {p : Unfinished} (hp : p.IsSound)
    (h : readBehind p s = .complete head rest) :
    head.status = 101 ∨ 200 ≤ head.status ∧ head.status < 1000 := by
  induction s generalizing p with
  | nil => cases h
  | cons b s ih =>
      have hstep := Unfinished.keeps_step hp b
      rw [readBehind] at h
      split at h
      · rename_i p' hp'
        rw [hp'] at hstep
        exact ih hstep h
      · rename_i head' hhead
        rw [hhead] at hstep
        obtain ⟨hlow, hhigh⟩ := hstep
        split at h
        · exact ih Unfinished.isSound_empty h
        · rename_i hinforms
          cases h
          simp only [isInformational, Bool.and_eq_true, decide_eq_true_eq, bne_iff_ne] at hinforms
          omega
      · cases h

/-- The status of a response is 101 or a number from 200 to 999. -/
theorem status_of_read (h : read s = .complete head rest) :
    head.status = 101 ∨ 200 ≤ head.status ∧ head.status < 1000 :=
  status_of_readBehind Unfinished.isSound_empty h

end LinkPreview.Http.Head
