import Northstar.Proof.Localstep

/-!
# Calls of accepted executions

The relation follows the calls of an execution from row to row. What it accepts is well
nested: every call comes back to its caller.

## Main results

* `replay_calls_return`: in every accepted execution, calls return
-/

namespace Northstar.Proof

open Bytes Checked Northstar.Portal

/-- Some row of `rows` exits to a row at `pc` with the registers `saved`. -/
def Returns (rows : List VmRowV1) (pc : UInt64) (saved : List UInt64) : Prop :=
  ∃ before exit next after, rows = before ++ exit :: next :: after ∧
    exit.instruction = exitInstruction ∧ next.pc = pc ∧ next.saved = saved

theorem Returns.cons (h : Returns rows pc saved) (row : VmRowV1) :
    Returns (row :: rows) pc saved := by
  obtain ⟨before, exit, next, after, rfl, h⟩ := h
  exact ⟨row :: before, exit, next, after, rfl, h⟩

/-- The calls that are open before the rows return in them, if none is open after them. -/
theorem returns_of_walkRows (h : walkRows words callTargets rows state = .ok state')
    (hclosed : state'.stack = []) : ∀ frame ∈ state.stack, Returns rows frame.1 frame.2 := by
  induction rows generalizing state with
  | nil =>
    cases h
    simp [hclosed]
  | cons row rows ih =>
    simp only [walkRows, chain_ok] at h
    obtain ⟨⟨⟩, -, middle, htrack, hrest⟩ := h
    intro frame hframe
    unfold trackCalls at htrack
    split at htrack
    · simp only [chain_ok] at htrack
      obtain ⟨returnPc, -, rfl⟩ := htrack
      exact (ih hrest frame (List.mem_cons_of_mem _ hframe)).cons row
    · split at htrack
      · next hexit =>
        split at htrack
        · cases htrack
        · next next returnPc saved stack hnext hstack =>
          simp only [chain_ok, not_or, not_not] at htrack
          obtain ⟨⟨hpc, hsaved⟩, rfl⟩ := htrack
          rw [hstack] at hframe
          rcases List.mem_cons.mp hframe with rfl | hframe
          · -- the innermost call returns here
            obtain ⟨after, rfl⟩ := List.head?_eq_some_iff.mp hnext
            exact ⟨[], row, next, after, rfl, hexit, hpc, hsaved⟩
          · exact (ih hrest frame hframe).cons row
        · simp only [chain_ok, not_not] at htrack
          simp [htrack.1] at hframe
      · cases htrack
        exact (ih hrest frame hframe).cons row

/-- **Every call returns**: to the instruction after it, with the registers that it saved. -/
theorem replay_calls_return (h : replay crypto w = .ok inputs)
    (hrows : w.vmRows = before ++ row :: after) (hopcode : row.instruction.get 0 = 0x85)
    (hinternal : row.syscallKey = 0) :
    ∃ pc, pc.toNat = row.pc.toNat + 1 ∧ Returns after pc row.saved := by
  simp only [replay, chain_ok, exists_and_left] at h
  obtain ⟨-, -, -, -, -, -, ⟨⟩, htrace, -⟩ := h
  simp only [validateTrace, chain_ok, exists_and_left, not_or, not_not] at htrace
  obtain ⟨-, -, -, -, -, -, -, -, -, state, hwalk, hclosed, -⟩ := htrace
  rw [hrows] at hwalk
  generalize (⟨[], []⟩ : CallState) = start at hwalk
  clear hrows
  induction before generalizing start with
  | nil =>
    simp only [List.nil_append, walkRows, chain_ok] at hwalk
    obtain ⟨⟨⟩, -, middle, htrack, hrest⟩ := hwalk
    unfold trackCalls at htrack
    simp only [if_pos (And.intro hopcode hinternal), chain_ok, checkedAdd_eq_some] at htrack
    obtain ⟨returnPc, hpc, rfl⟩ := htrack
    exact ⟨returnPc, hpc, returns_of_walkRows hrest hclosed _ List.mem_cons_self⟩
  | cons first before ih =>
    simp only [List.cons_append, walkRows, chain_ok] at hwalk
    obtain ⟨⟨⟩, -, middle, -, hrest⟩ := hwalk
    exact ih _ hrest

/-- The first instruction calls the third one, which makes the system call. -/
def localCalling : ReplayWitnessV1 :=
  let call := #v[0x85, 0, 0, 0, 5, 0, 0, 0]
  let syscall := #v[0x85, 0, 0, 0, 1, 0, 0, 0]
  let w := { LocalStep.unhashed {} with
    programWords := [⟨0, call, 0⟩, ⟨1, exitInstruction, 0⟩, ⟨2, syscall, 0⟩,
      ⟨3, exitInstruction, 0⟩]
    callTargets := [⟨5, 2⟩]
    vmRows := [localRow 0 call 0, localRow 2 syscall solMemcpyKey, localRow 3 exitInstruction 0,
      localRow 1 exitInstruction 0] }
  { w with traceHash := traceHash localCrypto w }

theorem replay_calls_return_local :
    ∃ pc, pc.toNat = 1 ∧ Returns localCalling.vmRows.tail pc (List.replicate 5 0) := by
  have haccepted : (replay localCrypto localCalling).toOption.isSome = true := by decide +kernel
  obtain ⟨inputs, hinputs⟩ := Option.isSome_iff_exists.mp haccepted
  exact replay_calls_return (toOption_eq_some.mp hinputs)
    (show localCalling.vmRows = [] ++ _ from rfl) (by decide) rfl

end Northstar.Proof
