import Mathlib.Tactic
import Mathlib.Data.List.Basic

/-!
# Claims against a cumulative counter

A payer keeps one counter of everything paid so far. A claim carries its own amount and the
value the counter is to have after it; what is paid for it is the distance the counter
moves. This file says when the distances are the amounts.

## Main definitions

* `covered`: the claims a budget covers, taken greedily
* `advances`: the claims that advance the counter, with the distance
* `Contiguous`: every claim starts where the one before it ended

## Main results

* `covered_eq_self_iff`: everything is covered exactly when the budget suffices
* `advances_of_contiguous`, `contiguous_of_advances`: contiguous claims are paid their
  amounts, and only those
* `forall_advances`: a bound holds of the counters advanced to when it holds of the claims
-/

namespace Counters

variable {α : Type*} (amount counter : α → Nat)

/-- **Greedy cover**: a claim beyond what is left of the budget is passed over. -/
def covered : Nat → List α → List α
  | _, [] => []
  | budget, a :: as =>
    if budget < amount a then covered budget as else a :: covered (budget - amount a) as

/-- **Advances**: a claim whose counter lies beyond the current one moves it there. -/
def advances : Nat → List α → List (α × Nat)
  | _, [] => []
  | current, a :: as =>
    if counter a ≤ current then advances current as
    else (a, counter a - current) :: advances (counter a) as

/-- Every claim starts where the one before it ended, and claims something. -/
def Contiguous : Nat → List α → Prop
  | _, [] => True
  | current, a :: as =>
    0 < amount a ∧ counter a = current + amount a ∧ Contiguous (counter a) as

/-- No claim starts before the one before it ended. -/
def Spaced : Nat → List α → Prop
  | _, [] => True
  | current, a :: as => current + amount a ≤ counter a ∧ Spaced (counter a) as

instance decidableContiguous : (current : Nat) → (as : List α) →
    Decidable (Contiguous amount counter current as)
  | _, [] => isTrue trivial
  | _, a :: as =>
    have := decidableContiguous (counter a) as
    inferInstanceAs (Decidable (_ ∧ _ ∧ _))

variable {amount counter} {budget current : Nat} {as : List α}

/-! ## Covers -/

theorem covered_sublist : (covered amount budget as).Sublist as := by
  induction as generalizing budget with
  | nil => exact List.Sublist.slnil
  | cons a as ih =>
    unfold covered
    split
    · exact ih.cons a
    · exact ih.cons_cons a

theorem covered_eq_self_iff : covered amount budget as = as ↔ (as.map amount).sum ≤ budget := by
  induction as generalizing budget with
  | nil => simp [covered]
  | cons a as ih =>
    rw [List.map_cons, List.sum_cons]
    unfold covered
    split
    · rename_i hlt
      constructor
      · intro heq
        have hlength : (covered amount budget as).length ≤ as.length := covered_sublist.length_le
        rw [heq, List.length_cons] at hlength
        omega
      · omega
    · rename_i hle
      rw [List.cons_inj_right, ih]
      omega

/-! ## Advances -/

theorem advances_sublist : ((advances counter current as).map Prod.fst).Sublist as := by
  induction as generalizing current with
  | nil => exact List.Sublist.slnil
  | cons a as ih =>
    unfold advances
    split
    · exact ih.cons a
    · exact ih.cons_cons a

theorem advances_length_le : (advances counter current as).length ≤ as.length := by
  have hlength : ((advances counter current as).map Prod.fst).length ≤ as.length :=
    advances_sublist.length_le
  rwa [List.length_map] at hlength

theorem lt_of_mem_advances {p : α × Nat} (h : p ∈ advances counter current as) :
    current < counter p.1 ∧ p.2 ≤ counter p.1 := by
  induction as generalizing current with
  | nil => exact absurd h List.not_mem_nil
  | cons a as ih =>
    unfold advances at h
    split at h
    · exact ih h
    · rename_i hlt
      rcases List.mem_cons.mp h with rfl | h
      · exact ⟨Nat.lt_of_not_le hlt, Nat.sub_le _ _⟩
      · obtain ⟨hlt', hle⟩ := ih h
        exact ⟨by omega, hle⟩

/-- Advances move the counter up. -/
theorem advances_pairwise :
    (advances counter current as).Pairwise fun p q => counter p.1 < counter q.1 := by
  induction as generalizing current with
  | nil => exact List.Pairwise.nil
  | cons a as ih =>
    unfold advances
    split
    · exact ih
    · exact List.pairwise_cons.mpr ⟨fun p hp => (lt_of_mem_advances hp).1, ih⟩

/-- **Bounds**: what holds below a counter holds of all counters that were advanced to
exactly when it holds of every claim beyond the current one. -/
theorem forall_advances {P : Nat → Prop} (hP : ∀ m n, m ≤ n → P n → P m) :
    (∀ p ∈ advances counter current as, P (counter p.1)) ↔
      ∀ a ∈ as, current < counter a → P (counter a) := by
  induction as generalizing current with
  | nil => simp [advances]
  | cons a as ih =>
    unfold advances
    split
    · rename_i hle
      rw [ih, List.forall_mem_cons]
      exact ⟨fun h => ⟨fun hlt => absurd hle (by omega), h⟩, fun h => h.2⟩
    · rename_i hlt
      rw [List.forall_mem_cons, List.forall_mem_cons, ih]
      constructor
      · rintro ⟨ha, hrest⟩
        have ha : P (counter a) := ha
        refine ⟨fun _ => ha, fun b hb _ => ?_⟩
        -- a claim that is passed over lies below the counter of `a`
        by_cases hab : counter a < counter b
        · exact hrest b hb hab
        · exact hP _ _ (by omega) ha
      · rintro ⟨ha, hrest⟩
        exact ⟨ha (by omega), fun b hb hab => hrest b hb (by omega)⟩

/-- When every claim advances the counter, so does the first. -/
theorem advances_cons_of_length {a : α}
    (h : (advances counter current (a :: as)).length = (a :: as).length) :
    current < counter a ∧ (advances counter (counter a) as).length = as.length := by
  unfold advances at h
  split at h
  · have hle : (advances counter current as).length ≤ as.length := advances_length_le
    rw [h, List.length_cons] at hle
    omega
  · rename_i hlt
    refine ⟨by omega, ?_⟩
    rwa [List.length_cons, List.length_cons, Nat.add_right_cancel_iff] at h

/-- Claims that keep apart in some order do so in the order they advance the counter. -/
theorem spaced_of_pairwise (hbase : ∀ a ∈ as, current < counter a → current + amount a ≤ counter a)
    (happart : as.Pairwise fun a b => counter a + amount b ≤ counter b ∨
      counter b + amount a ≤ counter a)
    (h : (advances counter current as).length = as.length) :
    Spaced amount counter current as := by
  induction as generalizing current with
  | nil => trivial
  | cons a as ih =>
    obtain ⟨hlt, hrest⟩ := advances_cons_of_length h
    rw [List.pairwise_cons] at happart
    refine ⟨hbase a List.mem_cons_self hlt, ih (fun b hb hab => ?_) happart.2 hrest⟩
    rcases happart.1 b hb with hle | hle
    · exact hle
    · omega

/-- **Contiguous claims are paid their amounts.** -/
theorem advances_of_contiguous (h : Contiguous amount counter current as) :
    advances counter current as = as.map fun a => (a, amount a) := by
  induction as generalizing current with
  | nil => rfl
  | cons a as ih =>
    obtain ⟨hpos, hcounter, hrest⟩ := h
    unfold advances
    rw [if_neg (by omega), ih hrest, List.map_cons]
    congr 2
    omega

/-- **Exactly contiguous claims are paid their amounts**, each its own. -/
theorem map_snd_advances_iff : (advances counter current as).map Prod.snd = as.map amount ↔
    Contiguous amount counter current as := by
  constructor
  · intro h
    induction as generalizing current with
    | nil => trivial
    | cons a as ih =>
      have hlength : (advances counter current (a :: as)).length = (a :: as).length := by
        simpa using congrArg List.length h
      obtain ⟨hlt, -⟩ := advances_cons_of_length hlength
      rw [advances, if_neg (by omega), List.map_cons, List.map_cons, List.cons.injEq] at h
      exact ⟨by omega, by omega, ih h.2⟩
  · intro h
    rw [advances_of_contiguous h, List.map_map]
    rfl

theorem sum_amount_le_of_spaced (hspaced : Spaced amount counter current as)
    (h : (advances counter current as).length = as.length) :
    (as.map amount).sum ≤ ((advances counter current as).map Prod.snd).sum := by
  induction as generalizing current with
  | nil => exact le_rfl
  | cons a as ih =>
    obtain ⟨hle, hrest⟩ := hspaced
    obtain ⟨hlt, hlength⟩ := advances_cons_of_length h
    have hsum := ih hrest hlength
    unfold advances
    rw [if_neg (by omega), List.map_cons, List.map_cons, List.sum_cons, List.sum_cons]
    omega

/-- **Only contiguous claims are paid their amounts**: claims that all advance the counter,
keep apart and are paid no more than they claim together. -/
theorem contiguous_of_advances (hspaced : Spaced amount counter current as)
    (h : (advances counter current as).length = as.length)
    (hsum : ((advances counter current as).map Prod.snd).sum ≤ (as.map amount).sum) :
    Contiguous amount counter current as := by
  induction as generalizing current with
  | nil => trivial
  | cons a as ih =>
    obtain ⟨hle, hrest⟩ := hspaced
    obtain ⟨hlt, hlength⟩ := advances_cons_of_length h
    have hge := sum_amount_le_of_spaced hrest hlength
    unfold advances at hsum
    rw [if_neg (by omega), List.map_cons, List.map_cons, List.sum_cons, List.sum_cons] at hsum
    exact ⟨by omega, by omega, ih hrest hlength (by omega)⟩

end Counters
