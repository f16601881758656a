import Mathlib.Tactic
import Mathlib.Data.Nat.Init

/-!
# Checked computations

Code that refuses bad input computes in `Except`: a chain of guards, loads and
checked arithmetic, each of which either hands a value to the rest or stops with an
error. This file has the vocabulary of such chains and the rules that take a
successful one apart.

## Main definitions

* `rejectIf`: stop when a condition holds
* `okOr`: turn an absent value into an error
* `checkedAdd`, `checkedSub`, `saturatingAdd`, `saturatingSub`: arithmetic on 64-bit words

## Main results

* `bind_eq_ok`, `rejectIf_eq_ok`, `okOr_eq_ok`: inversion of a successful chain; `chain_ok` has
  them together
* `foldlM_induction`: the invariant rule of a loop
* `checkedAdd_eq_some`, `checkedSub_eq_some`: checked arithmetic is exact when it
  answers
-/

namespace Checked

universe u v

variable {ε : Type u} {α β : Type v}

/-! ## Guards and loads -/

/-- **Guard**: stop with `e` when `p` holds, continue otherwise. -/
def rejectIf (p : Prop) [Decidable p] (e : ε) : Except ε Unit :=
  if p then .error e else .ok ()

/-- The value of `o`, or the error `e` when there is none. -/
def okOr (o : Option α) (e : ε) : Except ε α :=
  match o with
  | some a => .ok a
  | none => .error e

@[simp] theorem rejectIf_eq_ok {p : Prop} [Decidable p] {e : ε} {u : Unit} :
    rejectIf p e = .ok u ↔ ¬p := by
  unfold rejectIf
  split <;> simp_all

theorem rejectIf_of_not {p : Prop} [Decidable p] {e : ε} (h : ¬p) : rejectIf p e = .ok () :=
  rejectIf_eq_ok.mpr h

@[simp] theorem okOr_eq_ok {o : Option α} {e : ε} {a : α} : okOr o e = .ok a ↔ o = some a := by
  cases o <;> simp [okOr]

@[simp] theorem okOr_some (a : α) (e : ε) : okOr (some a) e = .ok a := rfl

/-- A chain succeeds exactly when its first part does and hands its value to a
successful rest. -/
@[simp] theorem bind_eq_ok {x : Except ε α} {f : α → Except ε β} {b : β} :
    x >>= f = .ok b ↔ ∃ a, x = .ok a ∧ f a = .ok b := by
  cases x with
  | error e => simp [bind, Except.bind]
  | ok a => simp [bind, Except.bind]

@[simp] theorem pure_eq_ok {a b : α} : (pure a : Except ε α) = .ok b ↔ a = b := by
  simp [pure, Except.pure]

/-- **The rules that take a successful chain apart**, together. -/
theorem chain_ok :
    (∀ {ε α β : Type} {x : Except ε α} {f : α → Except ε β} {b : β},
      x >>= f = .ok b ↔ ∃ a, x = .ok a ∧ f a = .ok b) ∧
    (∀ {ε α : Type} {a b : α}, (pure a : Except ε α) = .ok b ↔ a = b) ∧
    (∀ {ε : Type} {p : Prop} [Decidable p] {e : ε} {u : Unit}, rejectIf p e = .ok u ↔ ¬p) ∧
    (∀ {ε α : Type} {o : Option α} {e : ε} {a : α}, okOr o e = .ok a ↔ o = some a) ∧
    (∀ p : Prop, (∃ _ : Unit, p) ↔ p) ∧ ∀ p : Prop, ¬¬p ↔ p :=
  ⟨bind_eq_ok, pure_eq_ok, rejectIf_eq_ok, okOr_eq_ok, fun _ => exists_const _, fun _ => not_not⟩

/-- The same for a chain of answers. -/
theorem chain_some :
    (∀ {α β : Type} {x : Option α} {f : α → Option β} {b : β},
      x >>= f = some b ↔ ∃ a, x = some a ∧ f a = some b) ∧
    ∀ {α : Type} {a b : α}, (pure a : Option α) = some b ↔ a = b :=
  ⟨Option.bind_eq_some_iff, Option.some_inj⟩

@[simp] theorem map_eq_ok {x : Except ε α} {f : α → β} {b : β} :
    f <$> x = .ok b ↔ ∃ a, x = .ok a ∧ f a = b := by
  cases x with
  | error e => simp [Functor.map, Except.map]
  | ok a => simp [Functor.map, Except.map]

theorem toOption_eq_some {x : Except ε α} {a : α} : x.toOption = some a ↔ x = .ok a := by
  cases x <;> simp [Except.toOption]

/-- **Invariant of a checked loop**: what every successful round keeps holds at its end. -/
theorem foldlM_induction {ι : Type*} {f : α → ι → Except ε α} {P : α → Prop}
    (hstep : ∀ a i a', P a → f a i = .ok a' → P a') {is : List ι} {a a' : α} (ha : P a)
    (h : is.foldlM f a = .ok a') : P a' := by
  induction is generalizing a with
  | nil =>
    cases h
    exact ha
  | cons i is ih =>
    rw [List.foldlM_cons, bind_eq_ok] at h
    obtain ⟨next, hnext, hrest⟩ := h
    exact ih (hstep a i next ha hnext) hrest

/-- What every answer has from its question, all answers have from theirs. -/
theorem map_of_mapM {ι κ γ : Type*} {f : ι → Option κ} {g : κ → γ} {h : ι → γ}
    (hanswer : ∀ i k, f i = some k → g k = h i) {is : List ι} {ks : List κ}
    (hall : is.mapM f = some ks) : ks.map g = is.map h := by
  induction is generalizing ks with
  | nil =>
    cases hall
    rfl
  | cons i is ih =>
    simp only [List.mapM_cons, Option.bind_eq_bind, Option.bind_eq_some_iff, Option.pure_def,
      Option.some.injEq] at hall
    obtain ⟨k, hk, ks, hks, rfl⟩ := hall
    rw [List.map_cons, List.map_cons, hanswer i k hk, ih hks]

/-! ## 64-bit arithmetic -/

/-- Addition that answers only when the sum fits in 64 bits. -/
def checkedAdd (a b : UInt64) : Option UInt64 :=
  if a.toNat + b.toNat < 2 ^ 64 then some (a + b) else none

/-- Subtraction that answers only when the difference is not negative. -/
def checkedSub (a b : UInt64) : Option UInt64 :=
  if b ≤ a then some (a - b) else none

/-- Addition that stops at the largest 64-bit word. -/
def saturatingAdd (a b : UInt64) : UInt64 :=
  if a.toNat + b.toNat < 2 ^ 64 then a + b else UInt64.ofNat (2 ^ 64 - 1)

/-- Subtraction that stops at zero. -/
def saturatingSub (a b : UInt64) : UInt64 := if b ≤ a then a - b else 0

theorem checkedAdd_eq_some {a b c : UInt64} :
    checkedAdd a b = some c ↔ c.toNat = a.toNat + b.toNat := by
  unfold checkedAdd
  have hc := c.toNat_lt
  split
  · rename_i h
    rw [Option.some_inj, ← UInt64.toNat_inj, UInt64.toNat_add, Nat.mod_eq_of_lt h, eq_comm]
  · simp only [reduceCtorEq, false_iff]
    omega

theorem checkedSub_eq_some {a b c : UInt64} :
    checkedSub a b = some c ↔ b.toNat + c.toNat = a.toNat := by
  unfold checkedSub
  split
  · rename_i h
    rw [Option.some_inj, ← UInt64.toNat_inj, UInt64.toNat_sub_of_le a b h]
    have := UInt64.le_iff_toNat_le.mp h
    omega
  · rename_i h
    have := mt UInt64.le_iff_toNat_le.mpr h
    simp only [reduceCtorEq, false_iff]
    omega

theorem toNat_saturatingSub (a b : UInt64) : (saturatingSub a b).toNat = a.toNat - b.toNat := by
  unfold saturatingSub
  split
  · rename_i h
    exact UInt64.toNat_sub_of_le a b h
  · rename_i h
    have := mt UInt64.le_iff_toNat_le.mpr h
    rw [UInt64.toNat_zero]
    omega

theorem toNat_max (a b : UInt64) : (max a b).toNat = max a.toNat b.toNat := by
  have hmax : max a b = if a ≤ b then b else a := rfl
  rw [hmax]
  split
  · rename_i h
    have := UInt64.le_iff_toNat_le.mp h
    omega
  · rename_i h
    have := mt UInt64.le_iff_toNat_le.mpr h
    omega

end Checked
