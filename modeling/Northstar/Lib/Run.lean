import Mathlib.Tactic
import Mathlib.Data.List.Basic

/-!
# Runs of a step function

A machine whose step function is total runs on a list of inputs by folding it. This
file packages the inductions over such runs once: an invariant that every step keeps,
and conditions on the inputs that may depend on the state they meet.

## Main definitions

* `run`: the state after a list of inputs
* `Along`: every input of a run meets a condition on the state it is given to
* `ghost`: the machine that keeps a record of its run besides

## Main results

* `run_induction`: an invariant kept by every step that meets the condition holds
  after the run
* `along_or_latched`: what the first input outside a condition brings about stays
* `ghost_induction`: the same for an invariant that speaks of the record
-/

namespace Runs

variable {σ ι : Type*} (step : σ → ι → σ)

/-- **Run**: the state after the inputs `is`, in order. -/
def run (s : σ) (is : List ι) : σ := is.foldl step s

/-- Every input of the run from `s` meets `C` in the state it is given to. -/
def Along (C : σ → ι → Prop) : σ → List ι → Prop
  | _, [] => True
  | s, i :: is => C s i ∧ Along C (step s i) is

instance decidableAlong (C : σ → ι → Prop) [∀ s i, Decidable (C s i)] :
    (s : σ) → (is : List ι) → Decidable (Along step C s is)
  | _, [] => isTrue trivial
  | s, i :: is =>
    have := decidableAlong C (step s i) is
    inferInstanceAs (Decidable (C s i ∧ Along step C (step s i) is))

variable {step}

@[simp] theorem run_nil (s : σ) : run step s [] = s := rfl

@[simp] theorem run_cons (s : σ) (i : ι) (is : List ι) :
    run step s (i :: is) = run step (step s i) is := rfl

theorem run_append (s : σ) (is js : List ι) :
    run step s (is ++ js) = run step (run step s is) js := by
  simp [run]

theorem along_cons {C : σ → ι → Prop} {s : σ} {i : ι} {is : List ι} :
    Along step C s (i :: is) ↔ C s i ∧ Along step C (step s i) is := Iff.rfl

theorem Along.imp {C D : σ → ι → Prop} (h : ∀ s i, C s i → D s i) {s : σ} {is : List ι}
    (ha : Along step C s is) : Along step D s is := by
  induction is generalizing s with
  | nil => trivial
  | cons i is ih => exact ⟨h _ _ ha.1, ih ha.2⟩

theorem Along.and {C D : σ → ι → Prop} {s : σ} {is : List ι} (hC : Along step C s is)
    (hD : Along step D s is) : Along step (fun s i => C s i ∧ D s i) s is := by
  induction is generalizing s with
  | nil => trivial
  | cons i is ih => exact ⟨⟨hC.1, hD.1⟩, ih hC.2 hD.2⟩

/-- A condition on the inputs alone holds along every run on such inputs. -/
theorem along_of_forall {C : ι → Prop} {s : σ} {is : List ι} (h : ∀ i ∈ is, C i) :
    Along step (fun _ i => C i) s is := by
  induction is generalizing s with
  | nil => trivial
  | cons i is ih =>
    exact ⟨h i List.mem_cons_self, ih fun j hj => h j (List.mem_cons_of_mem i hj)⟩

/-- **Invariant rule**: what holds at the start and is kept by every step that meets
`C` holds after every run whose inputs meet `C`. -/
theorem run_induction {C : σ → ι → Prop} {P : σ → Prop}
    (hstep : ∀ s i, C s i → P s → P (step s i)) {s : σ} {is : List ι}
    (ha : Along step C s is) (hs : P s) : P (run step s is) := by
  induction is generalizing s with
  | nil => exact hs
  | cons i is ih => exact ih ha.2 (hstep s i ha.1 hs)

/-- **Latch rule**: until an input fails `C` the state keeps `P`, and from then on it has
`Q` for good. -/
theorem along_or_latched {A C : σ → ι → Prop} {P Q : σ → Prop}
    (hkeep : ∀ s i, A s i → P s → C s i → P (step s i))
    (hset : ∀ s i, A s i → P s → ¬C s i → Q (step s i))
    (hlatch : ∀ s i, A s i → Q s → Q (step s i)) {s : σ} {is : List ι}
    (ha : Along step A s is) (hs : P s) :
    Along step C s is ∧ P (run step s is) ∨ ¬Along step C s is ∧ Q (run step s is) := by
  induction is generalizing s with
  | nil => exact .inl ⟨trivial, hs⟩
  | cons i is ih =>
    rw [along_cons, run_cons]
    by_cases hC : C s i
    · rcases ih ha.2 (hkeep s i ha.1 hs hC) with ⟨halong, hP⟩ | ⟨halong, hQ⟩
      · exact .inl ⟨⟨hC, halong⟩, hP⟩
      · exact .inr ⟨fun h => halong h.2, hQ⟩
    · exact .inr ⟨fun h => hC h.1, run_induction hlatch ha.2 (hset s i ha.1 hs hC)⟩

/-! ## Records of a run -/

variable {τ : Type*}

variable (step) in
/-- **Ghost state**: the machine together with a record `g` keeps of its run. -/
def ghost (g : σ → τ → ι → τ) (p : σ × τ) (i : ι) : σ × τ := (step p.1 i, g p.1 p.2 i)

/-- The record does not influence the machine. -/
theorem run_ghost_fst (g : σ → τ → ι → τ) (s : σ) (t : τ) (is : List ι) :
    (run (ghost step g) (s, t) is).1 = run step s is := by
  induction is generalizing s t with
  | nil => rfl
  | cons i is ih => exact ih (step s i) (g s t i)

/-- A condition that does not speak of the record. -/
theorem Along.ghost {C : σ → ι → Prop} {g : σ → τ → ι → τ} {s : σ} {t : τ} {is : List ι}
    (ha : Along step C s is) : Along (ghost step g) (fun p i => C p.1 i) (s, t) is := by
  induction is generalizing s t with
  | nil => trivial
  | cons i is ih => exact ⟨ha.1, ih ha.2⟩

/-- **Invariant rule** for invariants and conditions that speak of the record. -/
theorem ghost_induction {C : σ × τ → ι → Prop} {g : σ → τ → ι → τ} {P : σ → τ → Prop}
    (hstep : ∀ s t i, C (s, t) i → P s t → P (step s i) (g s t i)) {s : σ} {t : τ} {is : List ι}
    (ha : Along (ghost step g) C (s, t) is) (hs : P s t) :
    P (run step s is) (run (ghost step g) (s, t) is).2 := by
  rw [← run_ghost_fst g s t is]
  refine run_induction (P := fun p => P p.1 p.2) ?_ ha hs
  rintro ⟨s, t⟩ i hC hP
  exact hstep s t i hC hP

end Runs
