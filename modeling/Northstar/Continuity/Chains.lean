import Northstar.Lib.HashChain
import Northstar.Portal.Commitments

/-!
# Chains of ingress records

Every record of a session's ingress names the root before it and carries its own, so that a
root stands for all records up to it.

## Main definitions

* `IngressChain`: records that follow one another
* `ingressFold`: the hash of records, one after another
* `IngressRecordV2.depositTo`, `IngressRecordV2.lamports`: what comes in with a record

## Main results

* `IngressChain.fold`: the root of a chain is the hash of its records
* `IngressChain.split`: a record of a chain follows those before it
-/

namespace Northstar.Portal

open Bytes Checked

/-! ## Chains -/

/-- **Chained records**, with the root of the last one. -/
inductive IngressChain (env : Env) (context : Hash32) : List IngressRecordV2 → Hash32 → Prop
  | nil : IngressChain env context [] zero32
  | snoc {records : List IngressRecordV2} {root : Hash32} {r : IngressRecordV2}
      (chain : IngressChain env context records root)
      (next : r.ValidNext env context (UInt64.ofNat records.length) root) :
      IngressChain env context (records ++ [r]) r.root

/-- What is hashed for a record after the root before it. -/
def IngressRecordV2.preimage (root : Hash32) (r : IngressRecordV2) : List UInt8 :=
  [r.version] ++ r.sessionContext.toList ++ le64 r.sequence ++ le64 r.l1Slot ++ root.toList ++
    r.payload.bytes

/-- **The hash of records**, one after another. -/
def ingressFold (env : Env) (records : List IngressRecordV2) : Hash32 :=
  HashChain.chain (commitment env (ascii "ingress")) IngressRecordV2.preimage zero32 records

/-- What a record deposits to a receipt of lamports. -/
def IngressRecordV2.depositTo (receipt : Hash32) (r : IngressRecordV2) : Nat :=
  match r.payload with
  | .solDeposit _ receipt' amount _ => if receipt' = receipt then amount.toNat else 0
  | _ => 0

/-- The lamports that come in with a record. -/
def IngressRecordV2.lamports (r : IngressRecordV2) : Nat :=
  match r.payload with
  | .delegation _ _ _ lamports .. => lamports.toNat
  | .solDeposit _ _ amount _ => amount.toNat
  | _ => 0

theorem IngressChain.fold (h : IngressChain env context records root) :
    root = ingressFold env records := by
  induction h with
  | nil => rfl
  | snoc chain next ih =>
    obtain ⟨-, -, -, -, hprevious, hroot⟩ := next
    rw [ingressFold, HashChain.chain_append, ← ingressFold, ← ih, hroot, ← hprevious]
    rfl

/-- A prefix of a chain is a chain. -/
theorem IngressChain.take (h : IngressChain env context records root) (n : Nat) :
    IngressChain env context (records.take n) (ingressFold env (records.take n)) := by
  induction h with
  | nil =>
    rw [List.take_nil]
    exact .nil
  | @snoc records root r chain next ih =>
    by_cases hn : n ≤ records.length
    · rw [List.take_append_of_le_length hn]
      exact ih
    · rw [List.take_of_length_le (by simp; omega), ← (IngressChain.snoc chain next).fold]
      exact .snoc chain next

theorem ingressChain_append_singleton : IngressChain env context (records ++ [r]) root ↔
    IngressChain env context records (ingressFold env records) ∧
      r.ValidNext env context (UInt64.ofNat records.length) (ingressFold env records) ∧
      root = r.root := by
  constructor
  · intro h
    generalize hlist : records ++ [r] = list at h
    cases h with
    | nil => exact absurd hlist (by simp)
    | snoc chain next =>
      obtain ⟨rfl, hlast⟩ := List.append_inj' hlist rfl
      obtain rfl := List.singleton_inj.mp hlast
      rw [← chain.fold]
      exact ⟨chain, next, rfl⟩
  · rintro ⟨chain, next, rfl⟩
    exact .snoc chain next

/-- The record at a place of the chain follows the ones before it. -/
theorem IngressChain.split (h : IngressChain env context records root) (hr : records[n]? = some r) :
    IngressChain env context (records.take (n + 1)) r.root ∧
      r.ValidNext env context (UInt64.ofNat n) (ingressFold env (records.take n)) := by
  obtain ⟨hn, rfl⟩ := List.getElem?_eq_some_iff.mp hr
  have hchain := h.take (n + 1)
  rw [List.take_succ_eq_append_getElem hn] at hchain ⊢
  obtain ⟨hinit, hnext, -⟩ := ingressChain_append_singleton.mp hchain
  refine ⟨ingressChain_append_singleton.mpr ⟨hinit, hnext, rfl⟩, ?_⟩
  rwa [List.length_take, Nat.min_eq_left hn.le] at hnext

end Northstar.Portal
