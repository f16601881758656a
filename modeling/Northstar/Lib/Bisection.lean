import Mathlib.Tactic
import Mathlib.Data.Nat.Log

/-!
# Bisecting an interval in dispute

Two parties disagree about a sequence of values: they agree on the value at the lower end
of an interval and disagree at the upper end. A value claimed at the midpoint splits the
dispute, and keeping the half on which they still disagree narrows it down to one step in
logarithmically many rounds.

## Main definitions

* `Interval`: an interval with the values claimed at its ends
* `Interval.halve`: keep one half
* `Interval.Meets`: what the claims at the two ends satisfy
* `Interval.rank`: the number of rounds an interval can still take

## Main results

* `Interval.Meets.halve`: halving keeps what the claims satisfy
* `Interval.rank_halve`: every round lowers the rank
-/

namespace Bisection

/-- **Interval in dispute**: its ends, and the values claimed there. -/
structure Interval (α : Type*) where
  lo : ℕ
  hi : ℕ
  loVal : α
  hiVal : α

namespace Interval

variable {α : Type*} {I : Interval α} {v : α} {upper : Bool} {P Q : ℕ → α → Prop} {n : ℕ}

def mid (I : Interval α) : ℕ := I.lo + (I.hi - I.lo) / 2

/-- **Halving** at the value `v` claimed at the midpoint. -/
def halve (I : Interval α) (v : α) (upper : Bool) : Interval α :=
  if upper then { I with lo := I.mid, loVal := v } else { I with hi := I.mid, hiVal := v }

/-- The number of rounds an interval can still take. -/
def rank (I : Interval α) : ℕ := Nat.clog 2 (I.hi - I.lo)

/-- The interval is proper and lies within `n`, the claim at its lower end satisfies `P`
and the one at its upper end `Q`. -/
structure Meets (P Q : ℕ → α → Prop) (n : ℕ) (I : Interval α) : Prop where
  lt : I.lo < I.hi
  le : I.hi ≤ n
  lo : P I.lo I.loVal
  hi : Q I.hi I.hiVal

theorem lo_lt_mid (h : I.lo + 2 ≤ I.hi) : I.lo < I.mid := by
  rw [mid]
  omega

theorem mid_lt_hi (h : I.lo < I.hi) : I.mid < I.hi := by
  rw [mid]
  omega

/-- **Halving keeps the claims**, when the new end satisfies what is asked of it. -/
theorem Meets.halve (h : I.Meets P Q n) (hwide : I.lo + 2 ≤ I.hi)
    (hupper : upper = true → P I.mid v) (hlower : upper = false → Q I.mid v) :
    (I.halve v upper).Meets P Q n := by
  cases upper with
  | false => exact ⟨lo_lt_mid hwide, (mid_lt_hi h.lt).le.trans h.le, h.lo, hlower rfl⟩
  | true => exact ⟨mid_lt_hi h.lt, h.le, hupper rfl, h.hi⟩

/-- Both halves are at most half as wide, rounded up. -/
theorem width_halve_le : (I.halve v upper).hi - (I.halve v upper).lo ≤ (I.hi - I.lo + 1) / 2 := by
  cases upper <;> simp only [Interval.halve, mid, if_true, Bool.false_eq_true, if_false] <;> omega

/-- **Every round lowers the rank.** -/
theorem rank_halve (hwide : I.lo + 2 ≤ I.hi) : (I.halve v upper).rank + 1 ≤ I.rank := by
  have hstep : I.rank = Nat.clog 2 ((I.hi - I.lo + 1) / 2) + 1 := by
    rw [rank, Nat.clog_of_two_le (by omega) (by omega)]
    rfl
  rw [hstep, rank]
  exact Nat.succ_le_succ (Nat.clog_mono_right 2 width_halve_le)

theorem rank_pos (hwide : I.lo + 2 ≤ I.hi) : 0 < I.rank := Nat.clog_pos (by omega) (by omega)

end Interval

end Bisection
