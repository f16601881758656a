import Northstar.Continuity.Chains
import Northstar.Continuity.Committed
import Northstar.Game.Localnet
import Northstar.Lib.Run

/-!
# Accounting of the committed state

Whatever sequence of records, executions and settlement effects the state is given, its maps
and counters agree: every account has an origin, what is frozen is delegated, the counters of
receipts add up, the root of the ingress stands for the records that were applied, and the
lamports of all accounts are those that came in less those that were released.

Withdrawals stay within the credit as long as lamports are deposited to accounts without a
counter of their own, and tokens have receipts of their own. The counter of a delegated account
outlives its release.

## Main definitions

* `StateCall`: what the state can be given
* `Ledgered`: the records applied so far, and the lamports released
* `Accounted`: the maps and counters agree

## Main results

* `clean_method`: a call that fails leaves the state as it was
* `accounted_of_result`: every successful call keeps them in agreement
* `lamports_of_result`: and the lamports accounted for
* `committed_state_accounted`: both along every sequence of calls
* `release_keeps_withdrawn`: withdrawals beyond the credit of an account
-/

namespace Northstar.Runtime

open Northstar.Portal Northstar.Bridge Bytes Checked CommittedStateV2 IngressRecordV2

/-! ## Calls -/

/-- **Calls** of the state. -/
inductive StateCall
  | ingress (record : IngressRecordV2) (accountData : List UInt8)
  | tokenIngress (record : IngressRecordV2) (pre post : List CommittedStateV2.AccountEntry)
  | execution (pre post : List CommittedStateV2.AccountEntry)
  | settlement (effects : List (List UInt8))

open StateCall

/-- The method that is called. -/
def StateCall.method (env : Env) : StateCall → StateMethod
  | ingress record accountData => applyIngress env record accountData
  | tokenIngress record pre post => applyTokenIngressExecution env record pre post
  | execution pre post => applyExecution pre post
  | settlement effects => applySettlementEffects effects

/-- What a call returns. -/
def StateCall.result (env : Env) (s : CommittedStateV2) (call : StateCall) :
    Except StateErrorV2 Unit :=
  ((call.method env).call s).1

/-- The state that a call leaves, whether it fails or not. -/
def callState (env : Env) (s : CommittedStateV2) (call : StateCall) : CommittedStateV2 :=
  ((call.method env).call s).2

/-! ## What came in -/

/-- The record that a call applies. -/
def StateCall.record : StateCall → Option IngressRecordV2
  | ingress record _ | tokenIngress record _ _ => some record
  | _ => none

/-- The lamports that a call releases. -/
def StateCall.released (s : CommittedStateV2) : StateCall → Nat
  | ingress record _ => match record.payload with
    | .release account _ => (s.accounts[account]?.getD .empty).lamports.toNat
    | _ => 0
  | _ => 0

/-- The records applied so far, and the lamports released. -/
structure Ledgered where
  records : List IngressRecordV2
  released : Nat

def Ledgered.start : Ledgered := { records := [], released := 0 }

/-- The same after one more call. -/
def Ledgered.next (env : Env) (s : CommittedStateV2) (t : Ledgered) (call : StateCall) : Ledgered :=
  match call.result env s with
  | .ok _ =>
    { records := t.records ++ call.record.toList, released := t.released + call.released s }
  | .error _ => t

/-- The calls that were made of a state, with what they amount to. -/
def afterCalls (env : Env) (s : CommittedStateV2) (calls : List StateCall) :
    CommittedStateV2 × Ledgered :=
  Runs.run (Runs.ghost (callState env) (Ledgered.next env)) (s, Ledgered.start) calls

/-! ## The invariant -/

/-- **The maps agree**: every account has an origin, what is frozen is delegated, what is
credited to a receipt was deposited to it, and withdrawals stay within the credit. Receipts of
tokens have an origin of their own. -/
structure Balanced (s : CommittedStateV2) (deposited : Hash32 → Nat) : Prop where
  origins : ∀ k : Hash32, s.accounts[k]?.isSome = s.origins[k]?.isSome
  frozen : ∀ k : Hash32, s.frozen[k]?.isSome → ∃ record generation,
    s.origins[k]? = some (.delegated record generation)
  credited : ∀ receipt : Hash32, s.depositOrigins[receipt]? = none →
    (s.credited[receipt]?.getD 0).toNat = deposited receipt
  withdrawn : ∀ k receipt : Hash32, s.origins[k]? = some (.solReceipt receipt) →
    s.withdrawnOf k ≤ s.credited[receipt]?.getD 0

/-- What records deposit to each receipt of lamports. -/
def deposits (records : List IngressRecordV2) (receipt : Hash32) : Nat :=
  (records.map (depositTo receipt)).sum

/-- The receipt of a deposit of lamports. -/
def solReceipt? (record : IngressRecordV2) : Option Hash32 :=
  match record.payload with
  | .solDeposit _ receipt .. => some receipt
  | _ => none

/-- **The maps and counters agree** with the records that were applied. -/
structure Accounted (env : Env) (context : Hash32) (s : CommittedStateV2)
    (records : List IngressRecordV2) : Prop where
  committed : s.identity.commitment env = .ok context
  balanced : Balanced s (deposits records)
  /-- What lamports were deposited to is no receipt of tokens. -/
  apart : ∀ record ∈ records, ∀ receipt ∈ solReceipt? record,
    s.depositOrigins[receipt]? = none ∧ s.credited[receipt]?.isSome = true
  count : s.ingressCount.toNat = records.length
  chain : IngressChain env context records s.ingressRoot

/-- The lamports of all accounts. -/
def CommittedStateV2.total (s : CommittedStateV2) : Nat :=
  TreeMaps.weigh (fun value => value.lamports.toNat) s.accounts

/-! ## Conditions on calls -/

/-- A deposit of lamports goes to an account of the same receipt, or to one that nothing was
withdrawn from. Its receipt is none of tokens, and the receipt of a deposit of tokens is none of
lamports. -/
def FreshDeposit (s : CommittedStateV2) : IngressPayloadV2 → Prop
  | .solDeposit recipient receipt .. => s.depositOrigins[receipt]? = none ∧
    (s.origins[recipient]? = some (.solReceipt receipt) ∨ s.withdrawnOf recipient = 0)
  | .tokenDeposit _ _ _ receipt .. =>
    s.depositOrigins[receipt]? ≠ none ∨ s.credited[receipt]? = none
  | _ => True

def StateCall.Fresh (s : CommittedStateV2) : StateCall → Prop
  | ingress record _ | tokenIngress record _ _ => FreshDeposit s record.payload
  | _ => True

/-- An execution keeps the lamports of its accounts together. -/
def StateCall.Preserves : StateCall → Prop
  | tokenIngress _ pre post | execution pre post =>
    (pre.map fun entry => entry.2.lamports.toNat).sum =
      (post.map fun entry => entry.2.lamports.toNat).sum
  | _ => True

instance (s : CommittedStateV2) : (payload : IngressPayloadV2) → Decidable (FreshDeposit s payload)
  | .solDeposit .. => inferInstanceAs (Decidable (_ ∧ _))
  | .tokenDeposit .. => inferInstanceAs (Decidable (_ ∨ _))
  | .delegation .. | .freeze .. | .release .. => isTrue trivial

instance (s : CommittedStateV2) : (call : StateCall) → Decidable (call.Fresh s)
  | .ingress record _ | .tokenIngress record _ _ =>
    inferInstanceAs (Decidable (FreshDeposit s record.payload))
  | .execution .. | .settlement .. => isTrue trivial

instance : (call : StateCall) → Decidable call.Preserves
  | .tokenIngress _ _ _ | .execution _ _ => Nat.decEq _ _
  | .ingress .. | .settlement .. => isTrue trivial

section Maps

variable {β : Type} {m : KeyMap β} {k a : Hash32} {v : β}

@[simp] theorem getElem?_insert_key : (m.insert k v)[a]? = if a = k then some v else m[a]? := by
  rw [Std.ExtTreeMap.getElem?_insert]
  by_cases h : a = k
  · rw [if_pos h, if_pos (by rw [h]; exact Std.ReflCmp.compare_self)]
  · rw [if_neg h, if_neg]
    intro heq
    exact h (Std.LawfulEqCmp.eq_of_compare heq).symm

@[simp] theorem getElem?_erase_key : (m.erase k)[a]? = if a = k then none else m[a]? := by
  rw [Std.ExtTreeMap.getElem?_erase]
  by_cases h : a = k
  · rw [if_pos h, if_pos (by rw [h]; exact Std.ReflCmp.compare_self)]
  · rw [if_neg h, if_neg]
    intro heq
    exact h (Std.LawfulEqCmp.eq_of_compare heq).symm

theorem contains_key : m.contains k = m[k]?.isSome :=
  Std.ExtTreeMap.contains_eq_isSome_getElem?

end Maps

section Steps

variable {env : Env} {context : Hash32} {s s' : CommittedStateV2} {deposited : Hash32 → Nat}
  {records : List IngressRecordV2} {pre post : List CommittedStateV2.AccountEntry}
  {encoded accountData : List UInt8} {receipt account recipient request : Hash32}
  {amount cumulativeDeposited : UInt64} {call : StateCall}

/-! ## Executions -/

/-- **What executions do**: they replace and create accounts, and leave the counters alone. -/
structure Executed (s s' : CommittedStateV2) : Prop where
  identity : s'.identity = s.identity
  credited : s'.credited = s.credited
  depositOrigins : s'.depositOrigins = s.depositOrigins
  withdrawn : s'.withdrawn = s.withdrawn
  frozen : s'.frozen = s.frozen
  ingress : s'.ingressCount = s.ingressCount ∧ s'.ingressRoot = s.ingressRoot
  origins : ∀ k : Hash32, s'.origins[k]? = s.origins[k]? ∨
    s.origins[k]? = none ∧ s'.origins[k]? = some .erCreated
  accounts : (∀ k : Hash32, s.accounts[k]?.isSome = s.origins[k]?.isSome) →
    ∀ k : Hash32, s'.accounts[k]?.isSome = s'.origins[k]?.isSome

theorem Executed.refl (s : CommittedStateV2) : Executed s s :=
  ⟨rfl, rfl, rfl, rfl, rfl, ⟨rfl, rfl⟩, fun _ => .inl rfl, id⟩

theorem Executed.trans (h : Executed s s') (h' : Executed s' s'') :
    Executed s s'' where
  identity := h'.identity.trans h.identity
  credited := h'.credited.trans h.credited
  depositOrigins := h'.depositOrigins.trans h.depositOrigins
  withdrawn := h'.withdrawn.trans h.withdrawn
  frozen := h'.frozen.trans h.frozen
  ingress := ⟨h'.ingress.1.trans h.ingress.1, h'.ingress.2.trans h.ingress.2⟩
  origins k := by
    rcases h.origins k with h₁ | ⟨hnone, hcreated⟩ <;>
      rcases h'.origins k with h₂ | ⟨hnone', hcreated'⟩
    · exact .inl (h₂.trans h₁)
    · exact .inr ⟨h₁ ▸ hnone', hcreated'⟩
    · exact .inr ⟨hnone, h₂.trans hcreated⟩
    · rw [hcreated] at hnone'
      cases hnone'
  accounts hagree := h'.accounts (h.accounts hagree)

theorem executed_applyAccount (h : s.applyAccount step = .ok s') : Executed s s' ∧
      s'.total + step.1.2.lamports.toNat = s.total + step.2.2.lamports.toNat := by
  obtain ⟨⟨key, before⟩, ⟨key', after⟩⟩ := step
  simp only [applyAccount, chain_ok] at h
  obtain ⟨-, hbefore, rfl⟩ := h
  refine ⟨⟨rfl, rfl, rfl, rfl, rfl, ⟨rfl, rfl⟩, fun k => ?_, fun hagree k => ?_⟩, ?_⟩
  · by_cases hcontains : s.origins.contains key = true
    · exact .inl (by rw [if_pos hcontains])
    · rw [if_neg hcontains, getElem?_insert_key]
      by_cases hk : k = key
      · subst hk
        rw [contains_key, Bool.not_eq_true, Option.isSome_eq_false_iff,
          Option.isNone_iff_eq_none] at hcontains
        exact .inr ⟨hcontains, if_pos rfl⟩
      · exact .inl (if_neg hk)
  · rw [getElem?_insert_key]
    by_cases hk : k = key
    · subst hk
      rw [if_pos rfl]
      by_cases hcontains : s.origins.contains k = true
      · rw [if_pos hcontains, ← contains_key, hcontains]
        rfl
      · rw [if_neg hcontains, getElem?_insert_key, if_pos rfl]
        rfl
    · rw [if_neg hk, hagree]
      split
      · rfl
      · rw [getElem?_insert_key, if_neg hk]
  · -- what is replaced weighs as much as the account that was found
    have hweigh := TreeMaps.weigh_insert (fun value : CommittedAccountV2 => value.lamports.toNat)
      s.accounts key after
    have hfound : (s.accounts[key]?.map fun value => value.lamports.toNat).getD 0 =
        before.lamports.toNat := by
      rw [← hbefore]
      cases s.accounts[key]? <;> rfl
    rw [hfound] at hweigh
    exact hweigh

theorem executed_foldlM
    {steps : List (CommittedStateV2.AccountEntry × CommittedStateV2.AccountEntry)}
    (h : steps.foldlM applyAccount s = .ok s') : Executed s s' ∧
      s'.total + (steps.map fun step => step.1.2.lamports.toNat).sum =
        s.total + (steps.map fun step => step.2.2.lamports.toNat).sum := by
  induction steps generalizing s with
  | nil =>
    cases h
    exact ⟨.refl _, rfl⟩
  | cons step steps ih =>
    rw [List.foldlM_cons, bind_eq_ok] at h
    obtain ⟨next, hstep, hrest⟩ := h
    obtain ⟨hfirst, htotal⟩ := executed_applyAccount hstep
    obtain ⟨hexecuted, htotal'⟩ := ih hrest
    refine ⟨hfirst.trans hexecuted, ?_⟩
    simp only [List.map_cons, List.sum_cons]
    omega

/-- **An execution** leaves the counters alone, and changes the lamports as its accounts do. -/
theorem executed_applyExecution (h : (applyExecution pre post).on s = .ok s') : Executed s s' ∧
      s'.total + (pre.map fun entry => entry.2.lamports.toNat).sum =
        s.total + (post.map fun entry => entry.2.lamports.toNat).sum := by
  simp only [applyExecution, Method.on_steps, chain_ok] at h
  obtain ⟨⟨hlength, -, -⟩, next, hfold, -, -, rfl⟩ := h
  obtain ⟨hexecuted, htotal⟩ := executed_foldlM hfold
  refine ⟨hexecuted, ?_⟩
  have hpre : ((pre.zip post).map fun step => step.1.2.lamports.toNat) =
      pre.map fun entry => entry.2.lamports.toNat := by
    have hfst := List.map_fst_zip (Nat.le_of_eq hlength)
    conv_rhs => rw [← hfst, List.map_map]
    rfl
  have hpost : ((pre.zip post).map fun step => step.2.2.lamports.toNat) =
      post.map fun entry => entry.2.lamports.toNat := by
    have hsnd := List.map_snd_zip (Nat.le_of_eq hlength.symm)
    conv_rhs => rw [← hsnd, List.map_map]
    rfl
  rw [hpre, hpost] at htotal
  exact htotal

theorem Executed.balanced (h : Executed s s') (hb : Balanced s deposited) :
    Balanced s' deposited where
  origins := h.accounts hb.origins
  frozen k hk := by
    rw [h.frozen] at hk
    obtain ⟨record, generation, horigin⟩ := hb.frozen k hk
    rcases h.origins k with hsame | ⟨hnone, -⟩
    · exact ⟨record, generation, hsame.trans horigin⟩
    · rw [horigin] at hnone
      cases hnone
  credited receipt hreceipt := by
    rw [h.depositOrigins] at hreceipt
    rw [h.credited]
    exact hb.credited receipt hreceipt
  withdrawn k receipt hk := by
    rcases h.origins k with hsame | ⟨-, hcreated⟩
    · rw [withdrawnOf, h.withdrawn, h.credited]
      exact hb.withdrawn k receipt (hsame ▸ hk)
    · rw [hcreated] at hk
      cases hk

/-! ## Settlement effects -/

/-- What one effect does. -/
theorem applySettlementEffect_eq_ok :
    s.applySettlementEffect encoded = .ok s' ↔ ∃ effect,
      parseSettlementEffectV2 encoded = some effect ∧ s.checkSource effect = .ok () ∧
      effect.amount ≠ 0 ∧
      checkedAdd (s.withdrawnOf effect.account) effect.amount = some effect.cumulativeWithdrawn ∧
      s' = { s with
        withdrawn := s.withdrawn.insert effect.account effect.cumulativeWithdrawn } := by
  simp only [applySettlementEffect, chain_ok, not_or]
  constructor
  · rintro ⟨effect, hparse, ⟨⟩, hsource, ⟨hamount, hcounter⟩, rfl⟩
    exact ⟨effect, hparse, hsource, hamount, hcounter, rfl⟩
  · rintro ⟨effect, hparse, hsource, hamount, hcounter, rfl⟩
    exact ⟨effect, hparse, (), hsource, ⟨hamount, hcounter⟩, rfl⟩

/-- An effect on lamports stays within the credit of its account. -/
theorem le_credited_of_checkSource (h : s.checkSource effect = .ok ())
    (horigin : s.origins[effect.account]? = some (.solReceipt receipt)) :
    effect.cumulativeWithdrawn ≤ s.credited[receipt]?.getD 0 := by
  cases effect with
  | solWithdrawal source recipient amount cumulativeWithdrawn =>
    have horigin : s.origins[source]? = some (.solReceipt receipt) := horigin
    simp only [checkSource, horigin, rejectIf_eq_ok, UInt64.not_lt] at h
    exact h
  | tokenWithdrawal bridge sessionBridge account destination amount decimals cumulativeWithdrawn =>
    have horigin : s.origins[account]? = some (.solReceipt receipt) := horigin
    simp [checkSource, horigin] at h

theorem balanced_applySettlementEffect (hb : Balanced s deposited)
    (h : s.applySettlementEffect encoded = .ok s') : Balanced s' deposited := by
  obtain ⟨effect, -, hsource, -, -, rfl⟩ := applySettlementEffect_eq_ok.mp h
  refine ⟨hb.origins, hb.frozen, hb.credited, fun k receipt hk => ?_⟩
  rw [withdrawnOf, getElem?_insert_key]
  by_cases heq : k = effect.account
  · subst heq
    rw [if_pos rfl]
    exact le_credited_of_checkSource hsource hk
  · rw [if_neg heq]
    exact hb.withdrawn k receipt hk

/-- Effects leave the accounts, the credits and the ingress alone. -/
structure Settled (s s' : CommittedStateV2) : Prop where
  identity : s'.identity = s.identity
  accounts : s'.accounts = s.accounts
  credits : s'.depositOrigins = s.depositOrigins ∧ s'.credited = s.credited
  ingress : s'.ingressCount = s.ingressCount ∧ s'.ingressRoot = s.ingressRoot

theorem settled_applySettlementEffects (h : (applySettlementEffects effects).on s = .ok s') :
    Settled s s' ∧ ∀ deposited, Balanced s deposited → Balanced s' deposited := by
  simp only [applySettlementEffects, Method.on_steps, chain_ok] at h
  obtain ⟨next, hfold, -, -, rfl⟩ := h
  refine foldlM_induction (P := fun s' => Settled s s' ∧
    ∀ deposited, Balanced s deposited → Balanced s' deposited) ?_
    ⟨⟨rfl, rfl, ⟨rfl, rfl⟩, rfl, rfl⟩, fun _ hb => hb⟩ hfold
  rintro s₁ encoded s₂ ⟨hsettled, hbalanced⟩ hstep
  refine ⟨?_, fun deposited hb => balanced_applySettlementEffect (hbalanced deposited hb) hstep⟩
  obtain ⟨effect, -, -, -, -, rfl⟩ := applySettlementEffect_eq_ok.mp hstep
  exact ⟨hsettled.identity, hsettled.accounts, hsettled.credits, hsettled.ingress⟩

/-! ## Ingress -/

/-- What the payload of a record leaves alone. -/
structure Framed (s s' : CommittedStateV2) : Prop where
  identity : s'.identity = s.identity
  depositOrigins : s'.depositOrigins = s.depositOrigins
  /-- A credit stays one. -/
  credited : ∀ receipt : Hash32, s.credited[receipt]?.isSome → s'.credited[receipt]?.isSome
  ingress : s'.ingressCount = s.ingressCount ∧ s'.ingressRoot = s.ingressRoot

/-- **A delegation** brings in an account that was not there. -/
theorem balanced_applyDelegation {sequence lamports rentEpoch : UInt64}
    {record owner dataHash : Hash32} {dataLen : UInt32} {executable : Bool}
    (hb : Balanced s deposited)
    (h : s.applyDelegation env sequence account record owner lamports dataLen dataHash executable
      rentEpoch accountData = .ok s') :
    Framed s s' ∧ Balanced s' deposited ∧ s'.total = s.total + lamports.toNat := by
  simp only [applyDelegation, chain_ok] at h
  obtain ⟨hfresh, -, rfl⟩ := h
  rw [contains_key, Bool.not_eq_true, Option.isSome_eq_false_iff, Option.isNone_iff_eq_none]
    at hfresh
  refine ⟨⟨rfl, rfl, fun _ => id, rfl, rfl⟩, ⟨fun k => ?_, fun k hk => ?_, hb.credited,
    fun k receipt hk => ?_⟩, ?_⟩
  · rw [getElem?_insert_key, getElem?_insert_key]
    split
    · rfl
    · exact hb.origins k
  · rw [getElem?_insert_key]
    split
    · exact ⟨record, sequence, rfl⟩
    · exact hb.frozen k hk
  · rw [getElem?_insert_key] at hk
    split at hk
    · cases hk
    · exact hb.withdrawn k receipt hk
  · have hweigh := TreeMaps.weigh_insert (fun value : CommittedAccountV2 => value.lamports.toNat)
      s.accounts account { owner, lamports, data := accountData, executable, rentEpoch }
    rw [hfresh] at hweigh
    exact hweigh

/-- **A deposit of lamports** adds to the credit of its receipt. -/
theorem balanced_applySolDeposit (hb : Balanced s deposited)
    (hfresh : s.origins[recipient]? = some (.solReceipt receipt) ∨ s.withdrawnOf recipient = 0)
    (h : s.applySolDeposit recipient receipt amount cumulativeDeposited = .ok s') :
    Balanced s' (fun r => deposited r + if receipt = r then amount.toNat else 0) := by
  simp only [applySolDeposit, chain_ok] at h
  obtain ⟨hcredit, horigin, -, lamports, -, rfl⟩ := h
  have hcumulative := checkedAdd_eq_some.mp hcredit
  have hgrows : s.credited[receipt]?.getD 0 ≤ cumulativeDeposited := by
    rw [UInt64.le_iff_toNat_le]
    omega
  refine ⟨fun k => ?_, fun k hk => ?_, fun r hr => ?_, fun k r hk => ?_⟩
  · rw [getElem?_insert_key, getElem?_insert_key]
    split
    · rfl
    · exact hb.origins k
  · -- a frozen account is delegated, and no deposit goes to it
    obtain ⟨record, generation, hdelegated⟩ := hb.frozen k hk
    refine ⟨record, generation, ?_⟩
    rw [getElem?_insert_key, if_neg]
    · exact hdelegated
    · rintro rfl
      rw [hdelegated] at horigin
      rcases horigin with horigin | horigin | horigin <;> cases horigin
  · rw [getElem?_insert_key]
    by_cases heq : r = receipt
    · subst heq
      rw [if_pos rfl, if_pos rfl, Option.getD_some]
      have hbefore := hb.credited r hr
      omega
    · rw [if_neg heq, if_neg (Ne.symm heq), Nat.add_zero]
      exact hb.credited r hr
  · rw [getElem?_insert_key] at hk ⊢
    have hle : s.withdrawnOf k ≤ s.credited[r]?.getD 0 := by
      by_cases heq : k = recipient
      · subst heq
        rw [if_pos rfl] at hk
        cases hk
        rcases hfresh with hsame | hzero
        · exact hb.withdrawn k receipt hsame
        · rw [hzero]
          exact UInt64.zero_le
      · rw [if_neg heq] at hk
        exact hb.withdrawn k r hk
    split
    · rename_i heq
      subst heq
      exact UInt64.le_trans hle hgrows
    · exact hle

theorem framed_applySolDeposit
    (h : s.applySolDeposit recipient receipt amount cumulativeDeposited = .ok s') :
    Framed s s' ∧ s'.total = s.total + amount.toNat := by
  simp only [applySolDeposit, chain_ok] at h
  obtain ⟨-, -, -, lamports, hlamports, rfl⟩ := h
  refine ⟨⟨rfl, rfl, fun r hr => ?_, rfl, rfl⟩, ?_⟩
  · rw [getElem?_insert_key]
    split
    · rfl
    · exact hr
  have hsum := checkedAdd_eq_some.mp hlamports
  have hweigh := TreeMaps.weigh_insert (fun value : CommittedAccountV2 => value.lamports.toNat)
    s.accounts recipient { s.accounts[recipient]?.getD .empty with lamports }
  have hfound : (s.accounts[recipient]?.map fun value => value.lamports.toNat).getD 0 =
      (s.accounts[recipient]?.getD .empty).lamports.toNat := by
    cases s.accounts[recipient]? <;> rfl
  rw [hfound] at hweigh
  have htotal : TreeMaps.weigh (fun value : CommittedAccountV2 => value.lamports.toNat)
      (s.accounts.insert recipient { s.accounts[recipient]?.getD .empty with lamports }) =
      TreeMaps.weigh (fun value : CommittedAccountV2 => value.lamports.toNat) s.accounts +
        amount.toNat := by
    have hv : ({ s.accounts[recipient]?.getD .empty with lamports } :
      CommittedAccountV2).lamports.toNat = lamports.toNat := rfl
    omega
  exact htotal

theorem balanced_applyFreeze (hb : Balanced s deposited)
    (h : s.applyFreeze account request = .ok s') :
    Framed s s' ∧ Balanced s' deposited ∧ s'.total = s.total := by
  unfold applyFreeze at h
  split at h
  · rename_i record generation horigin
    simp only [chain_ok] at h
    obtain ⟨-, rfl⟩ := h
    refine ⟨⟨rfl, rfl, fun _ => id, rfl, rfl⟩, ⟨hb.origins, fun k hk => ?_, hb.credited,
      hb.withdrawn⟩, rfl⟩
    rw [getElem?_insert_key] at hk
    split at hk
    · rename_i heq
      subst heq
      exact ⟨record, generation, horigin⟩
    · exact hb.frozen k hk
  · cases h

/-- **A released account** leaves with its lamports. -/
theorem balanced_applyRelease (hb : Balanced s deposited)
    (h : s.applyRelease account request = .ok s') :
    Framed s s' ∧ Balanced s' deposited ∧
      s'.total + (s.accounts[account]?.getD .empty).lamports.toNat = s.total := by
  simp only [applyRelease, chain_ok] at h
  obtain ⟨-, rfl⟩ := h
  refine ⟨⟨rfl, rfl, fun _ => id, rfl, rfl⟩, ⟨fun k => ?_, fun k hk => ?_, hb.credited,
    fun k receipt hk => ?_⟩, ?_⟩
  · rw [getElem?_erase_key, getElem?_erase_key]
    split
    · rfl
    · exact hb.origins k
  · rw [getElem?_erase_key] at hk ⊢
    split at hk
    · cases hk
    · rename_i hne
      rw [if_neg hne]
      exact hb.frozen k hk
  · rw [getElem?_erase_key] at hk
    split at hk
    · cases hk
    · exact hb.withdrawn k receipt hk
  · have hweigh := TreeMaps.weigh_erase (fun value : CommittedAccountV2 => value.lamports.toNat)
      s.accounts account
    have hfound : (s.accounts[account]?.map fun value => value.lamports.toNat).getD 0 =
        (s.accounts[account]?.getD .empty).lamports.toNat := by
      cases s.accounts[account]? <;> rfl
    rw [hfound] at hweigh
    exact hweigh

theorem validateNext_eq_ok {record : IngressRecordV2} {context root : Hash32} {count : UInt64}
    {u : Unit} : validateNext env record context count root = .ok u ↔
      record.ValidNext env context count root := by
  simp only [validateNext, chain_ok, not_or, IngressRecordV2.ValidNext]

theorem deposits_append (r : IngressRecordV2) : deposits (records ++ [r]) =
    fun receipt => deposits records receipt + r.depositTo receipt := by
  funext receipt
  simp only [deposits, List.map_append, List.sum_append, List.map_cons, List.map_nil,
    List.sum_singleton]

/-- A record that deposits no lamports leaves the deposits as they are. -/
theorem deposits_append_of_eq_zero (h : ∀ receipt, r.depositTo receipt = 0) :
    deposits (records ++ [r]) = deposits records := by
  rw [deposits_append]
  funext receipt
  rw [h, Nat.add_zero]

/-- One more record of the chain. -/
theorem Accounted.append {record : IngressRecordV2} (h : Accounted env context s records)
    (hnext : record.ValidNext env context s.ingressCount s.ingressRoot)
    (hidentity : s'.identity = s.identity)
    (hingress : s'.ingressCount = record.sequence ∧ s'.ingressRoot = record.root)
    (hbalanced : Balanced s' (deposits (records ++ [record])))
    (hapart : ∀ r ∈ records ++ [record], ∀ receipt ∈ solReceipt? r,
      s'.depositOrigins[receipt]? = none ∧ s'.credited[receipt]?.isSome = true) :
    Accounted env context s' (records ++ [record]) where
  committed := hidentity ▸ h.committed
  balanced := hbalanced
  apart := hapart
  count := by
    have hsequence := checkedAdd_eq_some.mp hnext.2.2.1
    rw [hingress.1, hsequence, h.count, List.length_append]
    rfl
  chain := by
    rw [hingress.2]
    refine .snoc h.chain ?_
    rw [← h.count, UInt64.ofNat_toNat]
    exact hnext

/-- What the payload of a record does to the maps and to the lamports. -/
theorem balanced_applyPayload {record : IngressRecordV2} (hb : Balanced s (deposits records))
    (hfresh : (ingress record accountData).Fresh s)
    (h : s.applyPayload env record.sequence accountData record.payload = .ok s') :
    Framed s s' ∧ Balanced s' (deposits (records ++ [record])) ∧
      s'.total + (ingress record accountData).released s = s.total + record.lamports := by
  cases hpayload : record.payload <;> rw [hpayload] at h <;>
    simp only [StateCall.Fresh, FreshDeposit, hpayload] at hfresh <;>
    simp only [released, lamports, hpayload]
  case delegation account source owner lamports dataLen dataHash executable rentEpoch =>
    rw [deposits_append_of_eq_zero (fun _ => by simp only [depositTo, hpayload])]
    exact balanced_applyDelegation hb h
  case solDeposit recipient receipt amount cumulativeDeposited =>
    obtain ⟨hframed, htotal⟩ := framed_applySolDeposit h
    refine ⟨hframed, ?_, htotal⟩
    have hdeposits : deposits (records ++ [record]) =
        fun r => deposits records r + if receipt = r then amount.toNat else 0 := by
      rw [deposits_append]
      simp only [depositTo, hpayload]
    rw [hdeposits]
    exact balanced_applySolDeposit hb hfresh.2 h
  case tokenDeposit => cases h
  case freeze account request slot =>
    rw [deposits_append_of_eq_zero (fun _ => by simp only [depositTo, hpayload])]
    exact balanced_applyFreeze hb h
  case release account request =>
    rw [deposits_append_of_eq_zero (fun _ => by simp only [depositTo, hpayload])]
    exact balanced_applyRelease hb h

/-- A deposit of lamports credits its receipt, which is none of tokens. -/
theorem apart_applyPayload {record : IngressRecordV2}
    (hfresh : (ingress record accountData).Fresh s)
    (h : s.applyPayload env record.sequence accountData record.payload = .ok s')
    (hreceipt : receipt ∈ solReceipt? record) :
    s.depositOrigins[receipt]? = none ∧ s'.credited[receipt]?.isSome = true := by
  cases hpayload : record.payload <;> simp only [solReceipt?, hpayload, reduceCtorEq,
    Option.mem_def, Option.some.injEq] at hreceipt
  case solDeposit recipient receipt' amount cumulativeDeposited =>
    subst hreceipt
    rw [hpayload] at h
    simp only [StateCall.Fresh, FreshDeposit, hpayload] at hfresh
    simp only [applyPayload, applySolDeposit, chain_ok] at h
    obtain ⟨-, -, -, lamports, -, rfl⟩ := h
    exact ⟨hfresh.1, by rw [getElem?_insert_key, if_pos rfl]; rfl⟩

theorem accounted_applyIngress {record : IngressRecordV2} (ha : Accounted env context s records)
    (hfresh : (ingress record accountData).Fresh s)
    (h : (applyIngress env record accountData).on s = .ok s') :
    Accounted env context s' (records ++ [record]) ∧
      s'.total + (ingress record accountData).released s = s.total + record.lamports := by
  simp only [applyIngress, Method.on_steps, bind_eq_ok, pure_eq_ok, committing_eq_ok,
    validateNext_eq_ok] at h
  obtain ⟨context', hcontext, ⟨⟩, hnext, next, hpayload, ⟨⟩, -, rfl⟩ := h
  obtain rfl := Except.ok.inj (ha.committed.symm.trans hcontext)
  obtain ⟨hframed, hbalanced, htotal⟩ := balanced_applyPayload ha.balanced hfresh hpayload
  refine ⟨ha.append hnext hframed.identity ⟨rfl, rfl⟩ ?_ fun r hr receipt hreceipt => ?_, htotal⟩
  · exact ⟨hbalanced.origins, hbalanced.frozen, hbalanced.credited, hbalanced.withdrawn⟩
  · show next.depositOrigins[receipt]? = none ∧ next.credited[receipt]?.isSome = true
    rw [hframed.depositOrigins]
    rcases List.mem_append.mp hr with hr | hr
    · obtain ⟨horigin, hcredited⟩ := ha.apart r hr receipt hreceipt
      exact ⟨horigin, hframed.credited receipt hcredited⟩
    · rw [List.mem_singleton.mp hr] at hreceipt
      exact apart_applyPayload hfresh hpayload hreceipt

/-! ## Token deposits -/

/-- The credit of a receipt never falls. -/
theorem le_priorCredit (h : s.priorCredit generation receipt originDeposited = .ok prior) :
    s.credited[receipt]?.getD 0 ≤ prior := by
  have hfresh : priorCredit.freshCredit receipt originDeposited s = .ok prior →
      s.credited[receipt]?.getD 0 ≤ prior := by
    intro h
    simp only [priorCredit.freshCredit, chain_ok] at h
    obtain ⟨hle, rfl⟩ := h
    exact UInt64.not_lt.mp hle
  unfold priorCredit at h
  split at h
  · split at h
    · simp only [chain_ok] at h
      rw [h.2]
      exact UInt64.le_refl _
    · exact hfresh h
  · exact hfresh h

/-- **A token deposit** executes, and moves the credit of its receipt on. -/
theorem accounted_applyTokenIngressExecution {record : IngressRecordV2}
    (ha : Accounted env context s records) (hfresh : (tokenIngress record pre post).Fresh s)
    (h : (applyTokenIngressExecution env record pre post).on s = .ok s') :
    Accounted env context s' (records ++ [record]) ∧ record.lamports = 0 ∧
      s'.total + (pre.map fun entry => entry.2.lamports.toNat).sum =
        s.total + (post.map fun entry => entry.2.lamports.toNat).sum := by
  simp only [applyTokenIngressExecution, Method.on_steps, bind_eq_ok, committing_eq_ok,
    validateNext_eq_ok] at h
  obtain ⟨context', hcontext, ⟨⟩, hnext, h⟩ := h
  obtain rfl := Except.ok.inj (ha.committed.symm.trans hcontext)
  split at h
  · rename_i bridge sessionBridge account receipt mint tokenProgram originDeposited amount
      cumulativeDeposited hpayload
    split at h
    · rename_i source generation horigin
      simp only [Method.on_steps, chain_ok] at h
      obtain ⟨-, -, prior, hprior, hcumulative, next, hexecution, -, -, rfl⟩ := h
      obtain ⟨hexecuted, htotal⟩ := executed_applyExecution hexecution
      have hb := hexecuted.balanced ha.balanced
      refine ⟨ha.append hnext hexecuted.identity ⟨rfl, rfl⟩ ?_ fun r hr receipt' hreceipt => ?_, ?_,
        htotal⟩
      · rw [deposits_append_of_eq_zero (fun _ => by simp only [depositTo, hpayload])]
        refine ⟨hb.origins, hb.frozen, fun r hr => ?_, fun k r hk => ?_⟩
        · rw [getElem?_insert_key] at hr ⊢
          split at hr
          · cases hr
          · rename_i hne
            rw [if_neg hne]
            exact hb.credited r hr
        · have hle := hb.withdrawn k r hk
          rw [getElem?_insert_key]
          split
          · rename_i heq
            subst heq
            have hgrows := le_priorCredit hprior
            rw [← hexecuted.credited, UInt64.le_iff_toNat_le] at hgrows
            have hsum := checkedAdd_eq_some.mp hcumulative
            rw [UInt64.le_iff_toNat_le] at hle
            rw [Option.getD_some, UInt64.le_iff_toNat_le]
            exact hle.trans (by omega)
          · exact hle
      · -- the receipt is none that lamports were deposited to
        rcases List.mem_append.mp hr with hr | hr
        · obtain ⟨hnone, hsome⟩ := ha.apart r hr receipt' hreceipt
          have hne : receipt' ≠ receipt := by
            rintro rfl
            simp only [StateCall.Fresh, FreshDeposit, hpayload] at hfresh
            rcases hfresh with hfresh | hfresh
            · exact hfresh hnone
            · rw [hfresh] at hsome
              cases hsome
          rw [getElem?_insert_key, if_neg hne, getElem?_insert_key, if_neg hne,
            hexecuted.depositOrigins, hexecuted.credited]
          exact ⟨hnone, hsome⟩
        · rw [List.mem_singleton.mp hr] at hreceipt
          simp [solReceipt?, hpayload] at hreceipt
      · simp only [lamports, hpayload]
    · cases h
  · cases h

/-! ## Failures -/

/-- **A call that fails leaves the state as it was**: every method writes at its end only. -/
theorem clean_method (env : Env) (call : StateCall) : (call.method env).Clean := by
  cases call with
  | ingress record accountData =>
    exact .get fun _ => .lift fun _ => .lift fun _ => .lift fun _ => .lift fun _ =>
      Method.clean_set _
  | tokenIngress record pre post =>
    refine .get fun _ => .lift fun _ => .lift fun _ => ?_
    split
    · split
      · exact .lift fun _ => .lift fun _ => .lift fun _ => .lift fun _ => .lift fun _ =>
          Method.clean_set _
      · exact Method.clean_throw _
    · exact Method.clean_throw _
  | execution pre post =>
    exact .get fun _ => .lift fun _ => .lift fun _ => .lift fun _ => Method.clean_set _
  | settlement effects => exact .get fun _ => .lift fun _ => .lift fun _ => Method.clean_set _

/-! ## Runs -/

/-- **Every successful call keeps the maps and counters in agreement.** -/
theorem accounted_of_result (ha : Accounted env context s records) (hfresh : call.Fresh s)
    (h : (call.method env).on s = .ok s') :
    Accounted env context s' (records ++ call.record.toList) := by
  cases call with
  | ingress record accountData => exact (accounted_applyIngress ha hfresh h).1
  | tokenIngress record pre post => exact (accounted_applyTokenIngressExecution ha hfresh h).1
  | execution pre post =>
    obtain ⟨hexecuted, -⟩ := executed_applyExecution h
    simp only [record, Option.toList_none, List.append_nil]
    refine ⟨hexecuted.identity ▸ ha.committed, hexecuted.balanced ha.balanced, ?_,
      hexecuted.ingress.1 ▸ ha.count, hexecuted.ingress.2 ▸ ha.chain⟩
    rw [hexecuted.depositOrigins, hexecuted.credited]
    exact ha.apart
  | settlement effects =>
    obtain ⟨hsettled, hbalanced⟩ := settled_applySettlementEffects h
    simp only [record, Option.toList_none, List.append_nil]
    refine ⟨hsettled.identity ▸ ha.committed, hbalanced _ ha.balanced, ?_,
      hsettled.ingress.1 ▸ ha.count, hsettled.ingress.2 ▸ ha.chain⟩
    rw [hsettled.credits.1, hsettled.credits.2]
    exact ha.apart

/-- **The lamports stay accounted for**, if executions keep them together. -/
theorem lamports_of_result (ha : Accounted env context s records) (hfresh : call.Fresh s)
    (hpreserves : call.Preserves) (h : (call.method env).on s = .ok s') :
    s'.total + call.released s =
      s.total + (call.record.toList.map lamports).sum := by
  cases call with
  | ingress record accountData =>
    have htotal := (accounted_applyIngress ha hfresh h).2
    simp only [StateCall.record, Option.toList_some, List.map_cons, List.map_nil,
      List.sum_singleton]
    exact htotal
  | tokenIngress record pre post =>
    obtain ⟨-, hzero, htotal⟩ := accounted_applyTokenIngressExecution ha hfresh h
    have hpreserves : (pre.map fun entry => entry.2.lamports.toNat).sum =
      (post.map fun entry => entry.2.lamports.toNat).sum := hpreserves
    simp only [StateCall.record, Option.toList_some, List.map_cons, List.map_nil,
      List.sum_singleton, hzero, released]
    omega
  | execution pre post =>
    obtain ⟨-, htotal⟩ := executed_applyExecution h
    have hpreserves : (pre.map fun entry => entry.2.lamports.toNat).sum =
      (post.map fun entry => entry.2.lamports.toNat).sum := hpreserves
    simp only [record, Option.toList_none, List.map_nil, List.sum_nil, released]
    omega
  | settlement effects =>
    obtain ⟨hsettled, -⟩ := settled_applySettlementEffects h
    simp only [record, Option.toList_none, List.map_nil, List.sum_nil,
      released, total, hsettled.accounts]

/-- The empty state agrees with no records. -/
theorem accounted_new {identity : SessionIdentityV2}
    (h : new env identity = .ok s) :
    ∃ context, Accounted env context s [] ∧ s.total = 0 := by
  simp only [CommittedStateV2.new, chain_ok, committing_eq_ok] at h
  obtain ⟨context, hcontext, rfl⟩ := h
  refine ⟨context, ⟨hcontext, ⟨fun k => ?_, fun k hk => ?_, fun receipt _ => ?_,
    fun k receipt hk => ?_⟩, fun r hr => absurd hr List.not_mem_nil, rfl, .nil⟩,
    TreeMaps.weigh_empty _⟩
  · simp
  · simp at hk
  · simp [deposits]
  · simp at hk

end Steps

section Runs

variable {env : Env} {context : Hash32} {s₀ : CommittedStateV2} {calls : List StateCall}

/-- **Accounting along a run**: the maps and counters agree throughout, and so do the lamports
as long as executions keep them together. -/
theorem accounted_afterCalls {P : StateCall → Prop} (ha : Accounted env context s₀ [])
    (htotal : s₀.total = 0)
    (hfresh : Runs.Along (callState env) (fun s call => call.Fresh s) s₀ calls)
    (hcalls : ∀ call ∈ calls, P call) :
    Accounted env context (afterCalls env s₀ calls).1 (afterCalls env s₀ calls).2.records ∧
    ((∀ call, P call → call.Preserves) →
      (afterCalls env s₀ calls).1.total + (afterCalls env s₀ calls).2.released =
        ((afterCalls env s₀ calls).2.records.map lamports).sum) := by
  have halong := hfresh.and (Runs.along_of_forall hcalls)
  refine Runs.run_induction (P := fun p : CommittedStateV2 × Ledgered =>
    Accounted env context p.1 p.2.records ∧ ((∀ call, P call → call.Preserves) →
      p.1.total + p.2.released = (p.2.records.map lamports).sum))
    ?_ halong.ghost ⟨ha, fun _ => htotal⟩
  rintro ⟨s, t⟩ call ⟨hcall, hP⟩ ⟨ha, hlamports⟩
  have hclean := clean_method env call s
  simp only [Runs.ghost, callState, Ledgered.next, StateCall.result]
  rcases hresult : (call.method env).call s with ⟨e | ⟨⟩, s'⟩ <;> rw [hresult] at hclean
  · obtain rfl : s' = s := hclean e rfl
    exact ⟨ha, hlamports⟩
  · have hresult := Method.on_eq_ok.mpr hresult
    refine ⟨accounted_of_result ha hcall hresult, fun hpreserves => ?_⟩
    have hstep := lamports_of_result ha hcall (hpreserves call hP) hresult
    have hbefore := hlamports hpreserves
    simp only [List.map_append, List.sum_append] at hstep hbefore ⊢
    omega

/-- **Accounting of the committed state**: after every sequence of calls whose deposits of
lamports go to accounts of their receipt, or to accounts that nothing was withdrawn from, and
whose deposits of tokens have other receipts, the maps and counters agree with the records that
were applied. Every receipt of lamports is credited with the lamports deposited to it. If
executions keep the lamports of their accounts together, the lamports of all accounts are those
that came in less those released. A call that fails leaves the state as it was. -/
theorem committed_state_accounted {identity : SessionIdentityV2}
    (hstart : CommittedStateV2.new env identity = .ok s₀)
    (hfresh : Runs.Along (callState env) (fun s call => call.Fresh s) s₀ calls) :
    (∃ context, Accounted env context (afterCalls env s₀ calls).1
      (afterCalls env s₀ calls).2.records) ∧
    (afterCalls env s₀ calls).1.ingressRoot = ingressFold env (afterCalls env s₀ calls).2.records ∧
    (∀ record ∈ (afterCalls env s₀ calls).2.records, ∀ receipt ∈ solReceipt? record,
      ((afterCalls env s₀ calls).1.credited[receipt]?.getD 0).toNat =
        deposits (afterCalls env s₀ calls).2.records receipt) ∧
    ((∀ call ∈ calls, call.Preserves) →
      (afterCalls env s₀ calls).1.total + (afterCalls env s₀ calls).2.released =
        ((afterCalls env s₀ calls).2.records.map IngressRecordV2.lamports).sum) ∧
    ∀ call e, call.result env (afterCalls env s₀ calls).1 = .error e →
      callState env (afterCalls env s₀ calls).1 call = (afterCalls env s₀ calls).1 := by
  obtain ⟨context, ha, htotal⟩ := accounted_new hstart
  obtain ⟨haccounted, -⟩ :=
    accounted_afterCalls (P := fun _ => True) ha htotal hfresh fun _ _ => trivial
  refine ⟨⟨context, haccounted⟩, haccounted.chain.fold, fun record hrecord receipt hreceipt => ?_,
    fun hpreserves => ?_, fun call e herror => clean_method env call _ e herror⟩
  · exact haccounted.balanced.credited receipt (haccounted.apart record hrecord receipt hreceipt).1
  · exact (accounted_afterCalls ha htotal hfresh hpreserves).2 fun _ h => h

end Runs

/-! ## Deposits after a release -/

def localIdentity : SessionIdentityV2 :=
  { version := 2
    l1Genesis := tagged 60 []
    portal := localnet.programId
    session := (findSessionPda localnet).1
    nonce := 1
    gridId := 1
    validator := tagged 20 []
    profile := tagged 61 [] }

/-- The records of payloads, one after another. -/
def localRecords (context : Hash32) : UInt64 → Hash32 → List IngressPayloadV2 → List IngressRecordV2
  | _, _, [] => []
  | consumed, previousRoot, payload :: payloads =>
    let record : IngressRecordV2 :=
      { version := 2
        sessionContext := context
        sequence := consumed + 1
        l1Slot := 5
        previousRoot
        payload
        root := zero32
        bump := 255 }
    let record := { record with root := record.computedRoot localnet }
    record :: localRecords context (consumed + 1) record.root payloads

def localContext : Hash32 := Portal.commitment localnet (ascii "session") localIdentity.bytes

/-- A token account that is delegated and released. -/
def localToken : Hash32 := tagged 62 []

/-- The receipt of a deposit of lamports. -/
def localReceipt : Hash32 := tagged 63 []

/-- **The calls**: tokens are withdrawn from the account while it is delegated, and after its
release lamports are deposited to a recipient. -/
def localCalls (recipient : Hash32) : List StateCall :=
  let withdrawal : SettlementEffectV2 :=
    .tokenWithdrawal (tagged 64 []) (tagged 65 []) localToken (tagged 66 []) 5 6 5
  match localRecords localContext 0 zero32
    [.delegation localToken (tagged 67 []) (tagged 64 []) 10 1 (localnet.hashv [[7]]) false 0,
      .freeze localToken (tagged 68 []) 5, .release localToken (tagged 68 []),
      .solDeposit recipient localReceipt 1 1] with
  | delegation :: rest => .ingress delegation [7] :: .settlement [withdrawal.bytes] ::
      rest.map fun record => .ingress record []
  | [] => []

def localStart : CommittedStateV2 :=
  { identity := localIdentity
    accounts := ∅
    origins := ∅
    credited := ∅
    depositOrigins := ∅
    withdrawn := ∅
    frozen := ∅
    ingressCount := 0
    ingressRoot := zero32 }

/-- A deposit to an account that was never delegated meets the condition. -/
theorem committed_state_accounted_apart :
    (afterCalls localnet localStart (localCalls (tagged 69 []))).2.records.length = 4 ∧
    (afterCalls localnet localStart (localCalls (tagged 69 []))).1.ingressRoot =
      ingressFold localnet (afterCalls localnet localStart (localCalls (tagged 69 []))).2.records ∧
    ((afterCalls localnet localStart (localCalls (tagged 69 []))).1.credited[localReceipt]?.getD
      0).toNat =
        deposits (afterCalls localnet localStart (localCalls (tagged 69 []))).2.records
          localReceipt ∧
    (afterCalls localnet localStart (localCalls (tagged 69 []))).1.total +
      (afterCalls localnet localStart (localCalls (tagged 69 []))).2.released =
        ((afterCalls localnet localStart (localCalls (tagged 69 []))).2.records.map
          IngressRecordV2.lamports).sum := by
  have hstart : new localnet localIdentity = .ok localStart := by decide +kernel
  have hfresh : Runs.Along (callState localnet) (fun s call => call.Fresh s) localStart
      (localCalls (tagged 69 [])) := by decide +kernel
  have hrecord : ∃ record ∈ (afterCalls localnet localStart (localCalls (tagged 69 []))).2.records,
      localReceipt ∈ solReceipt? record := by decide +kernel
  obtain ⟨record, hrecord, hreceipt⟩ := hrecord
  have h := committed_state_accounted hstart hfresh
  exact ⟨by decide +kernel, h.2.1, h.2.2.1 record hrecord _ hreceipt,
    h.2.2.2.1 (by decide +kernel)⟩

/-- **The counter of a released account stays**: it exceeds what is credited to the account when
lamports are deposited to it. All calls of the run succeed. -/
theorem release_keeps_withdrawn : ∃ s, (localCalls localToken).foldlM
      (fun s (call : StateCall) => (call.method localnet).on s) localStart = .ok s ∧
    s.origins[localToken]? = some (.solReceipt localReceipt) ∧
    s.credited[localReceipt]?.getD 0 < s.withdrawnOf localToken := by
  have h : ((localCalls localToken).foldlM
      (fun s (call : StateCall) => (call.method localnet).on s) localStart).toOption.any (fun s =>
      decide (s.origins[localToken]? = some (.solReceipt localReceipt) ∧
        s.credited[localReceipt]?.getD 0 < s.withdrawnOf localToken)) = true := by
    decide +kernel
  obtain ⟨s, hs, hexceeds⟩ := (Option.any_eq_true _ _).mp h
  exact ⟨s, toOption_eq_some.mp hs, of_decide_eq_true hexceeds⟩

end Northstar.Runtime
