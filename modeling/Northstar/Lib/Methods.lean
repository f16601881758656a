import Northstar.Lib.Checked

/-!
# Methods that may fail

A method reads and writes a value, and may fail at any point. What it wrote before it failed
stays written, unless it worked on a copy. This file says what a method does to a copy, and when
its failures leave the value as it was.

## Main definitions

* `Method`: a method, with `Method.call` for what it returns and what it leaves of the value
* `Method.on`: the method called on a copy, which is given up if it fails
* `Method.Reads`, `Method.Clean`: nothing is written at all, and nothing by a failure

## Main results

* `Method.on_steps`: a method on a copy is a chain of checks
* `Method.Clean.bind`: a method that reads first and writes at its end is clean
-/

/-- **A method** of a value of type `σ`. -/
abbrev Method (ε σ α : Type) := ExceptT ε (StateM σ) α

namespace Method

variable {ε σ α β : Type}

/-- What a method returns, and what it leaves of the value. -/
def call (m : Method ε σ α) (s : σ) : Except ε α × σ := StateT.run m.run s

/-- **A method on a copy** of the value. -/
def on (m : Method ε σ Unit) (s : σ) : Except ε σ :=
  match m.call s with
  | (.ok _, s') => .ok s'
  | (.error e, _) => .error e

/-! ## Methods on a copy -/

theorem on_eq_ok {m : Method ε σ Unit} {s s' : σ} : m.on s = .ok s' ↔ m.call s = (.ok (), s') := by
  unfold on
  rcases m.call s with ⟨_ | _, s''⟩ <;> simp

/-- A step that does not touch the value. -/
theorem on_lift_bind (r : Except ε α) (f : α → Method ε σ Unit) (s : σ) :
    (liftM r >>= f).on s = r >>= fun a => (f a).on s := by
  cases r <;> rfl

/-- **A method on a copy, step by step**: a chain of checks. -/
theorem on_steps :
    (∀ {ε σ : Type} (f : σ → Method ε σ Unit) (s : σ), (get >>= f).on s = (f s).on s) ∧
    (∀ {ε σ α : Type} (r : Except ε α) (f : α → Method ε σ Unit) (s : σ),
      (liftM r >>= f).on s = r >>= fun a => (f a).on s) ∧
    (∀ {ε σ : Type} (next s : σ), (set next : Method ε σ Unit).on s = pure next) ∧
    ∀ {ε σ : Type} (e : ε) (s : σ), (throw e : Method ε σ Unit).on s = .error e :=
  ⟨fun _ _ => rfl, on_lift_bind, fun _ _ => rfl, fun _ _ => rfl⟩

/-! ## Failures -/

/-- **Nothing is written.** -/
def Reads (x : Method ε σ α) : Prop := ∀ s, (x.call s).2 = s

/-- **Failures write nothing.** -/
def Clean (m : Method ε σ α) : Prop := ∀ s e, (m.call s).1 = .error e → (m.call s).2 = s

theorem clean_set (next : σ) : (set next : Method ε σ Unit).Clean := by
  rintro s e ⟨⟩

theorem clean_throw (e : ε) : (throw e : Method ε σ α).Clean := fun _ _ _ => rfl

theorem call_bind (x : Method ε σ α) (f : α → Method ε σ β) (s : σ) :
    (x >>= f).call s = match x.call s with
      | (.ok a, s') => (f a).call s'
      | (.error e, s') => (.error e, s') := by
  unfold call
  rw [ExceptT.run_bind, StateT.run_bind]
  rcases StateT.run (ExceptT.run x) s with ⟨_ | _, s'⟩ <;> rfl

/-- **What reads before it writes** fails before it writes. -/
theorem Clean.bind {x : Method ε σ α} {f : α → Method ε σ β} (hx : x.Reads)
    (hf : ∀ a, (f a).Clean) : (x >>= f).Clean := by
  intro s e h
  have hs := hx s
  rw [call_bind] at h ⊢
  rcases hcall : x.call s with ⟨e' | a, s'⟩ <;> rw [hcall] at h hs
  · exact hs
  · obtain rfl : s' = s := hs
    exact hf a s' e h

theorem Clean.get {f : σ → Method ε σ β} (hf : ∀ s, (f s).Clean) : (get >>= f).Clean :=
  .bind (fun _ => rfl) hf

theorem Clean.lift {r : Except ε α} {f : α → Method ε σ β} (hf : ∀ a, (f a).Clean) :
    (liftM r >>= f).Clean :=
  .bind (fun _ => rfl) hf

end Method
