import Mathlib.Algebra.Ring.Nat
import Mathlib.Data.List.Chain

/-!
# Packing instructions into transactions

The instructions of a settlement go out in transactions of at most one packet, filled in
order. How long a signed transaction is on the wire depends on the keys its instructions
share; nothing is assumed about it here.

## Main results

* `split_packs`: the instructions are packed, or none is sent
* `portalInstructionBatchesInner_flatten`: what is sent is everything, in order
-/

namespace Northstar.Runtime

/-- The bytes of a packet. -/
def packetDataSize : Nat := 1232

section Split

variable {Instruction : Type*} (size : List Instruction → Nat)

/-- The loop: `batches` are full, `current` is being filled. -/
def fillBatches (batches : List (List Instruction)) (current : List Instruction) :
    List Instruction → List (List Instruction)
  | [] => if current.isEmpty then batches else batches ++ [current]
  | i :: rest =>
    if packetDataSize < size [i] then []
    else if size (current ++ [i]) ≤ packetDataSize then
      fillBatches batches (current ++ [i]) rest
    else fillBatches (if current.isEmpty then batches else batches ++ [current]) [i] rest

/-- **Fill one transaction after the other.** -/
def splitSettlementInstructionBatches (instructions : List Instruction) : List (List Instruction) :=
  fillBatches size [] [] instructions

/-- With token withdrawals the last instruction, which finishes the settlement, gets a
transaction of its own. -/
def portalInstructionBatchesInner (withdrawals : Bool) (instructions : List Instruction) :
    List (List Instruction) :=
  if !withdrawals then splitSettlementInstructionBatches size instructions
  else
    let batches := splitSettlementInstructionBatches size instructions.dropLast
    if !instructions.dropLast.isEmpty && batches.isEmpty then []
    else batches ++ instructions.getLast?.toList.map fun finish => [finish]

/-- **A packing** of instructions: it loses nothing, and what starts a batch did not fit
into the batch before. -/
structure Packs (instructions : List Instruction) (batches : List (List Instruction)) : Prop where
  flatten : batches.flatten = instructions
  fits : ∀ b ∈ batches, size b ≤ packetDataSize
  nonempty : ∀ b ∈ batches, b ≠ []
  maximal : batches.IsChain fun b b' => ∀ i ∈ b'.head?, packetDataSize < size (b ++ [i])

variable {size} {i : Instruction}

/-- The next instruction still fits. -/
theorem Packs.extend (h : Packs size sent (batches ++ [current]))
    (hfits : size (current ++ [i]) ≤ packetDataSize) :
    Packs size (sent ++ [i]) (batches ++ [current ++ [i]]) := by
  obtain ⟨hflatten, hall, hne, hchain⟩ := h
  have hcurrent : current ≠ [] := hne current (by simp)
  refine ⟨?_, ?_, ?_, ?_⟩
  · rw [← hflatten]
    simp
  · rw [List.forall_mem_append] at hall ⊢
    exact ⟨hall.1, by simpa using hfits⟩
  · rw [List.forall_mem_append] at hne ⊢
    exact ⟨hne.1, by simp⟩
  · -- the batch starts as before, so its neighbour has no room for it
    rw [List.isChain_append] at hchain ⊢
    refine ⟨hchain.1, by simp, fun b hb b' hb' => ?_⟩
    obtain rfl : current ++ [i] = b' := by simpa using hb'
    rw [List.head?_append_of_ne_nil _ hcurrent]
    exact hchain.2.2 b hb current rfl

/-- The next instruction starts a batch. -/
theorem Packs.start (h : Packs size sent (batches ++ [current]))
    (hover : packetDataSize < size (current ++ [i])) (hfits : size [i] ≤ packetDataSize) :
    Packs size (sent ++ [i]) (batches ++ [current] ++ [[i]]) := by
  obtain ⟨hflatten, hall, hne, hchain⟩ := h
  refine ⟨?_, ?_, ?_, ?_⟩
  · rw [List.flatten_append, hflatten]
    simp
  · exact List.forall_mem_append.mpr ⟨hall, by simpa using hfits⟩
  · exact List.forall_mem_append.mpr ⟨hne, by simp⟩
  · rw [List.isChain_append]
    refine ⟨hchain, by simp, fun b hb b' hb' j hj => ?_⟩
    obtain rfl : current = b := by simpa using hb
    obtain rfl : [i] = b' := by simpa using hb'
    obtain rfl : i = j := by simpa using hj
    exact hover

/-- The loop keeps the packing, once a batch is being filled. -/
theorem packs_fillBatches (h : Packs size sent (batches ++ [current]))
    (hfits : ∀ i ∈ rest, size [i] ≤ packetDataSize) :
    Packs size (sent ++ rest) (fillBatches size batches current rest) := by
  induction rest generalizing sent batches current with
  | nil =>
    have hcurrent : current ≠ [] := h.nonempty current (by simp)
    rw [fillBatches, if_neg (by simpa using hcurrent), List.append_nil]
    exact h
  | cons i rest ih =>
    have hcurrent : current ≠ [] := h.nonempty current (by simp)
    obtain ⟨hi, hrest⟩ := List.forall_mem_cons.mp hfits
    rw [fillBatches, if_neg (by omega), List.append_cons sent i rest]
    split
    · next hroom => exact ih (h.extend hroom) hrest
    · next hroom =>
      rw [if_neg (by simpa using hcurrent)]
      exact ih (h.start (by omega) hi) hrest

theorem fillBatches_of_oversized (h : ∃ i ∈ rest, packetDataSize < size [i]) :
    fillBatches size batches current rest = [] := by
  induction rest generalizing batches current with
  | nil => simp at h
  | cons i rest ih =>
    rw [fillBatches]
    split
    · rfl
    · next hi =>
      have hrest : ∃ j ∈ rest, packetDataSize < size [j] := by
        obtain ⟨j, hj, hover⟩ := h
        rcases List.mem_cons.mp hj with rfl | hj
        · exact absurd hover hi
        · exact ⟨j, hj, hover⟩
      split <;> exact ih hrest

theorem packs_split (hfits : ∀ i ∈ rest, size [i] ≤ packetDataSize) :
    Packs size rest (splitSettlementInstructionBatches size rest) := by
  cases rest with
  | nil =>
    rw [show splitSettlementInstructionBatches size [] = [] from rfl]
    exact ⟨rfl, by simp, by simp, .nil⟩
  | cons i rest =>
    obtain ⟨hi, hrest⟩ := List.forall_mem_cons.mp hfits
    have hfirst : Packs size [i] ([] ++ [[i]]) := ⟨rfl, by simpa using hi, by simp, by simp⟩
    rw [splitSettlementInstructionBatches, fillBatches, if_neg (by omega),
      if_pos (by simpa using hi)]
    exact packs_fillBatches hfirst hrest

/-- What is sent, with the last instruction apart or not, is everything in order. -/
theorem portalInstructionBatchesInner_flatten (withdrawals : Bool)
    (hfits : ∀ i ∈ rest, size [i] ≤ packetDataSize) :
    (portalInstructionBatchesInner size withdrawals rest).flatten = rest := by
  cases withdrawals with
  | false => exact (packs_split hfits).flatten
  | true =>
    have hpacks : Packs size rest.dropLast _ :=
      packs_split fun i hi => hfits i (List.dropLast_subset rest hi)
    have hnone : ¬((!rest.dropLast.isEmpty &&
        (splitSettlementInstructionBatches size rest.dropLast).isEmpty) = true) := by
      intro hboth
      simp only [Bool.and_eq_true, Bool.not_eq_true', List.isEmpty_iff] at hboth
      have hflatten := hpacks.flatten
      rw [hboth.2] at hflatten
      simp [← hflatten] at hboth
    simp only [portalInstructionBatchesInner, Bool.not_true, Bool.false_eq_true, if_false, hnone]
    rw [List.flatten_append, hpacks.flatten]
    cases hlast : rest.getLast? with
    | none => simp [List.getLast?_eq_none_iff.mp hlast]
    | some finish => simp [List.dropLast_append_getLast? finish hlast]

theorem portalInstructionBatchesInner_flatten_three :
    (portalInstructionBatchesInner List.sum true [600, 700, 500]).flatten = [600, 700, 500] :=
  portalInstructionBatchesInner_flatten true (by decide)

/-- **Packing is lossless**: instructions that each fit are all packed, in order, into
batches that are filled as far as they go; if one does not fit, nothing is sent. -/
theorem split_packs (size : List Instruction → Nat) (instructions : List Instruction) :
    ((∀ i ∈ instructions, size [i] ≤ packetDataSize) →
      Packs size instructions (splitSettlementInstructionBatches size instructions)) ∧
    ((∃ i ∈ instructions, packetDataSize < size [i]) →
      splitSettlementInstructionBatches size instructions = []) :=
  ⟨packs_split, fillBatches_of_oversized⟩

end Split

/-- Three instructions of 600, 700 and 500 bytes take two packets. -/
theorem split_packs_three :
    Packs List.sum [600, 700, 500] [[600], [700, 500]] ∧
      splitSettlementInstructionBatches List.sum [600, 1300] = [] :=
  ⟨(split_packs List.sum [600, 700, 500]).1 (by decide),
    (split_packs List.sum [600, 1300]).2 (by decide)⟩

end Northstar.Runtime
