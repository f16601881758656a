import Northstar.Lib.Checked

/-!
# Simulation of checked computations

Two checked computations run side by side: whatever the first one answers, the second
answers too, and the two answers are related. The rules below follow the two programs from
one step to the next.

## Main definitions

* `Simulates`: the second computation answers whenever the first does, in relation

## Main results

* `Simulates.bind`: one step of each program, then the rest
* `simulates_reject`, `simulates_same`: guards and steps that the programs share
-/

namespace Checked

universe u

variable {ε ε' : Type u} {α β γ δ : Type}

/-- **Simulation**: every answer of `x` is matched by an answer of `y`. -/
def Simulates (R : α → β → Prop) (x : Except ε α) (y : Except ε' β) : Prop :=
  ∀ a, x = .ok a → ∃ b, y = .ok b ∧ R a b

theorem simulates_error {R : α → β → Prop} (e : ε) (y : Except ε' β) :
    Simulates R (.error e : Except ε α) y := by
  intro a h
  cases h

theorem simulates_ok {R : α → β → Prop} {a : α} {b : β} (h : R a b) :
    Simulates R (.ok a : Except ε α) (.ok b : Except ε' β) := by
  intro a' ha'
  cases ha'
  exact ⟨b, rfl, h⟩

theorem simulates_pure {R : α → β → Prop} {a : α} {b : β} (h : R a b) :
    Simulates R (pure a : Except ε α) (pure b : Except ε' β) :=
  simulates_ok h

/-- **Sequence**: a step of each program, then the rest on related answers. -/
theorem Simulates.bind {R : α → β → Prop} {T : γ → δ → Prop} {x : Except ε α} {y : Except ε' β}
    {f : α → Except ε γ} {g : β → Except ε' δ} (h : Simulates R x y)
    (hrest : ∀ a b, R a b → Simulates T (f a) (g b)) : Simulates T (x >>= f) (y >>= g) := by
  intro c hc
  obtain ⟨a, ha, hfa⟩ := bind_eq_ok.mp hc
  obtain ⟨b, hb, hab⟩ := h a ha
  obtain ⟨d, hd, hcd⟩ := hrest a b hab c hfa
  exact ⟨d, bind_eq_ok.mpr ⟨b, hb, hd⟩, hcd⟩

/-- A step that both programs share. -/
theorem simulates_same {T : γ → δ → Prop} {x : Except ε α} {f : α → Except ε γ}
    {g : α → Except ε δ} (hrest : ∀ a, x = .ok a → Simulates T (f a) (g a)) :
    Simulates T (x >>= f) (x >>= g) := by
  intro c hc
  obtain ⟨a, ha, hfa⟩ := bind_eq_ok.mp hc
  obtain ⟨d, hd, hcd⟩ := hrest a ha c hfa
  exact ⟨d, bind_eq_ok.mpr ⟨a, ha, hd⟩, hcd⟩

/-- A guard that the second program passes whenever the first does. -/
theorem simulates_reject {T : γ → δ → Prop} {p q : Prop} [Decidable p] [Decidable q] {e : ε}
    {e' : ε'} {f : Unit → Except ε γ} {g : Unit → Except ε' δ} (hguard : ¬p → ¬q)
    (hrest : ¬p → Simulates T (f ()) (g ())) :
    Simulates T (rejectIf p e >>= f) (rejectIf q e' >>= g) := by
  intro c hc
  obtain ⟨⟨⟩, hp, hf⟩ := bind_eq_ok.mp hc
  have hp := rejectIf_eq_ok.mp hp
  obtain ⟨d, hd, hcd⟩ := hrest hp c hf
  exact ⟨d, bind_eq_ok.mpr ⟨(), rejectIf_of_not (hguard hp), hd⟩, hcd⟩

/-- Programs that branch on the same condition. -/
theorem simulates_ite {T : γ → δ → Prop} {p q : Prop} [Decidable p] [Decidable q]
    {x x' : Except ε γ} {y y' : Except ε' δ} (hpq : p ↔ q) (hthen : p → Simulates T x y)
    (helse : ¬p → Simulates T x' y') :
    Simulates T (if p then x else x') (if q then y else y') := by
  by_cases hp : p
  · rw [if_pos hp, if_pos (hpq.mp hp)]
    exact hthen hp
  · rw [if_neg hp, if_neg (mt hpq.mpr hp)]
    exact helse hp

theorem Simulates.imp {R T : α → β → Prop} {x : Except ε α} {y : Except ε' β}
    (h : Simulates R x y) (himp : ∀ a b, R a b → T a b) : Simulates T x y := by
  intro a ha
  obtain ⟨b, hb, hab⟩ := h a ha
  exact ⟨b, hb, himp a b hab⟩

/-- What is known of the answers of the first program. -/
theorem Simulates.and {R : α → β → Prop} {P : α → Prop} {x : Except ε α} {y : Except ε' β}
    (h : Simulates R x y) (hP : ∀ a, x = .ok a → P a) :
    Simulates (fun a b => R a b ∧ P a) x y := by
  intro a ha
  obtain ⟨b, hb, hab⟩ := h a ha
  exact ⟨b, hb, hab, hP a ha⟩

end Checked
