import Northstar.Settle.Transcript

/-!
# The effects of a settlement

What each instruction of a settlement does, as one equivalence: the guards it passes and
the effect it installs. An effect that is there already is installed a second time without
any change.

## Main results

* `writeSettlementChunk_eq_ok`, `settleAccountOwner_eq_ok`, `settleAccountLamports_eq_ok`,
  `settleDepositReceipt_eq_ok`, `accumulateTokenWithdrawal_eq_ok`: when an instruction
  succeeds, and with which ledger
* `installLamports_eq_ok`, `installReceipt_eq_ok`: the same for the effects that move
  lamports
-/

namespace Northstar.Portal

open Bytes Checked

section Effects

variable {validator session : AccountMeta}

/-! ## Data and owners -/

/-- The bytes a chunk brings. -/
def WriteSettlementChunk.bytes (args : WriteSettlementChunk) : List UInt8 :=
  args.chunk.toList.take args.chunkLen.toNat

theorem loadDelegationRecord_eq_ok :
    loadDelegationRecord env L s account record = .ok r ↔
      (L account).owner = env.programId ∧ record = (findDelegationRecordPda env account).1 ∧
        (L record).owner = env.programId ∧ (L record).data = .delegationRecord r ∧
        r.gridId = s.gridId := by
  simp only [loadDelegationRecord, chain_ok, parseDelegationRecord_eq_some, exists_and_left]
  constructor
  · rintro ⟨hdelegated, hkey, howner, state, hdata, hgrid, rfl⟩
    exact ⟨hdelegated, hkey, howner, hdata, hgrid⟩
  · rintro ⟨hdelegated, hkey, howner, hdata, hgrid⟩
    exact ⟨hdelegated, hkey, howner, r, hdata, hgrid, rfl⟩

variable {account record : AccountMeta}

theorem writeSettlementChunk_eq_ok :
    writeSettlementChunk env validator session account record args L = .ok L' ↔
      ∃ s r, Settling env L validator session args.erSlot args.checksum s ∧
        loadDelegationRecord env L s account.address record.address = .ok r ∧
        args.chunkLen.toNat ≤ maxSettlementChunk ∧
        args.accountDataOffset.toNat + args.chunkLen.toNat ≤ (L account.address).data.size ∧
        installChunk env L (env.address .session) s account.address args.accountDataOffset
          args.bytes = .ok L' := by
  simp only [writeSettlementChunk, chain_ok, requireValidator_eq_ok, requireActiveSettlement_eq_ok,
    not_lt]
  constructor
  · rintro ⟨s, hload, hvalidator, hactive, r, hrecord, hsmall, hbounds, hinstall⟩
    have hsettling := guards_iff.mp ⟨hload, hvalidator, hactive⟩
    rw [hsettling.address] at hinstall
    exact ⟨s, r, hsettling, hrecord, hsmall, hbounds, hinstall⟩
  · rintro ⟨s, r, hsettling, hrecord, hsmall, hbounds, hinstall⟩
    obtain ⟨hload, hvalidator, hactive⟩ := guards_iff.mpr hsettling
    rw [← hsettling.address] at hinstall
    exact ⟨s, hload, hvalidator, hactive, r, hrecord, hsmall, hbounds, hinstall⟩

theorem settleAccountOwner_eq_ok :
    settleAccountOwner env validator session account record args L = .ok L' ↔
      ∃ s r, Settling env L validator session args.erSlot args.checksum s ∧
        loadDelegationRecord env L s account.address record.address = .ok r ∧
        installOwner env L (env.address .session) s account.address record.address r args.owner =
          .ok L' := by
  simp only [settleAccountOwner, chain_ok, requireValidator_eq_ok, requireActiveSettlement_eq_ok]
  constructor
  · rintro ⟨s, hload, hvalidator, hactive, r, hrecord, hinstall⟩
    have hsettling := guards_iff.mp ⟨hload, hvalidator, hactive⟩
    rw [hsettling.address] at hinstall
    exact ⟨s, r, hsettling, hrecord, hinstall⟩
  · rintro ⟨s, r, hsettling, hrecord, hinstall⟩
    obtain ⟨hload, hvalidator, hactive⟩ := guards_iff.mpr hsettling
    rw [← hsettling.address] at hinstall
    exact ⟨s, hload, hvalidator, hactive, r, hrecord, hinstall⟩

/-! ## Lamports -/

/-- The balance each account is to end with. -/
def SettleAccountLamports.targets (args : SettleAccountLamports) (pairs : List (Pubkey × Pubkey)) :
    LamportTargets :=
  (pairs.map Prod.fst).zip args.lamports.toList

theorem requireDelegatedPairs_eq_ok : requireDelegatedPairs env L s seen pairs = .ok u ↔
      (∀ p ∈ pairs, ∃ r, loadDelegationRecord env L s p.1 p.2 = .ok r) ∧
        (pairs.map Prod.fst).Nodup ∧ ∀ p ∈ pairs, p.1 ∉ seen := by
  refine ⟨fun h => requireDelegatedPairs_ok h, ?_⟩
  induction pairs generalizing seen with
  | nil => exact fun _ => rfl
  | cons p rest ih =>
    rintro ⟨hload, hnodup, hfresh⟩
    rw [List.map_cons, List.nodup_cons] at hnodup
    obtain ⟨r, hr⟩ := hload p List.mem_cons_self
    simp only [requireDelegatedPairs, chain_ok]
    refine ⟨r, hr, hfresh p List.mem_cons_self, ih ⟨?_, hnodup.2, ?_⟩⟩
    · exact fun q hq => hload q (List.mem_cons_of_mem _ hq)
    · intro q hq hmem
      rcases List.mem_cons.mp hmem with heq | hmem
      · exact hnodup.1 (heq ▸ List.mem_map_of_mem hq)
      · exact hfresh q (List.mem_cons_of_mem _ hq) hmem

/-- The fee vault stands where a settlement that takes a surplus names it. -/
structure SurplusVault (env : Env) (L : Ledger) (s : Session) (targets : LamportTargets)
    (trailing : List AccountMeta) : Prop where
  named : ∃ m, trailing.head? = some m ∧ m.address = env.address .feeVault
  owner : (L (env.address .feeVault)).owner = env.programId
  record : (L (env.address .feeVault)).data = .feeVault ⟨s.authority, (findFeeVaultPda env).2⟩
  fresh : env.address .feeVault ∉ targets.map Prod.fst

theorem surplusVault_iff :
    (∃ m vault, trailing.head? = some m ∧ m.address = (findFeeVaultPda env).1 ∧
      (L m.address).owner = env.programId ∧ parseFeeVault (L m.address).data = .ok vault ∧
      vault.bump = (findFeeVaultPda env).2 ∧ vault.authority = s.authority ∧
      m.address ∉ targets.map Prod.fst) ↔ SurplusVault env L s targets trailing := by
  constructor
  · rintro ⟨m, vault, hnamed, hkey, howner, hparse, hbump, hauthority, hfresh⟩
    rw [hkey] at howner hparse hfresh
    refine ⟨⟨m, hnamed, hkey⟩, howner, ?_, hfresh⟩
    show (L (findFeeVaultPda env).1).data = _
    cases hd : (L (findFeeVaultPda env).1).data <;> rw [hd] at hparse <;> cases hparse
    rw [← hbump, ← hauthority]
  · rintro ⟨⟨m, hnamed, hkey⟩, howner, hrecord, hfresh⟩
    rw [← hkey] at howner hrecord hfresh
    refine ⟨m, ⟨s.authority, (findFeeVaultPda env).2⟩, hnamed, hkey, howner, ?_, rfl, rfl, hfresh⟩
    rw [hrecord]
    rfl

theorem loadSurplusVault_eq_ok :
    loadSurplusVault env L s targets trailing previous = .ok vault ↔
      previous = none ∧ vault = some none ∨
      ∃ p, previous = some p ∧ SurplusVault env L s targets trailing ∧
        (s.settlementAccumulator = targets.accumulate env p ∧ vault = none ∨
          s.settlementAccumulator ≠ targets.accumulate env p ∧ s.settlementAccumulator = p ∧
            vault = some (some (env.address .feeVault))) := by
  cases previous with
  | none => simp [loadSurplusVault, eq_comm]
  | some p =>
    simp only [loadSurplusVault, chain_ok, not_or, ← surplusVault_iff, Option.some.injEq,
      reduceCtorEq, false_and, false_or]
    constructor
    · rintro ⟨m, hnamed, hkey, howner, v, hparse, ⟨hbump, hauthority, hfresh⟩, h⟩
      refine ⟨p, rfl, ⟨m, v, hnamed, hkey, howner, hparse, hbump, hauthority, hfresh⟩, ?_⟩
      split at h
      · rename_i hdone
        rw [pure_eq_ok] at h
        exact .inl ⟨hdone, h.symm⟩
      · rename_i hdone
        simp only [chain_ok] at h
        refine .inr ⟨hdone, h.1, ?_⟩
        rw [← h.2, hkey]
        rfl
    · rintro ⟨_, rfl, ⟨m, v, hnamed, hkey, howner, hparse, hbump, hauthority, hfresh⟩, h⟩
      refine ⟨m, hnamed, hkey, howner, v, hparse, ⟨hbump, hauthority, hfresh⟩, ?_⟩
      rcases h with ⟨hdone, rfl⟩ | ⟨hdone, hprevious, rfl⟩
      · rw [if_pos hdone, pure_eq_ok]
      · rw [if_neg hdone]
        simp only [chain_ok]
        exact ⟨hprevious, by rw [hkey]; rfl⟩

theorem LamportTargets.requireRentExempt_eq_ok {targets : LamportTargets} {u : Unit} :
    targets.requireRentExempt env L = .ok u ↔
      ∀ t ∈ targets, 0 < (L t.1).data.size → env.minimumBalance (L t.1).data.size ≤ t.2 := by
  induction targets with
  | nil => simp [requireRentExempt]
  | cons t rest ih =>
    simp only [requireRentExempt, chain_ok, ih, not_and, UInt64.not_lt, List.forall_mem_cons]

/-- Every account holds its target. -/
def LamportTargets.Reached (targets : LamportTargets) (L : Ledger) : Prop :=
  ∀ t ∈ targets, (L t.1).lamports = t.2

theorem LamportTargets.all_eq_true_iff {targets : LamportTargets} :
    targets.all (fun target => (L target.1).lamports == target.2) = true ↔ targets.Reached L := by
  simp [Reached]

theorem installLamports_eq_ok {session : Pubkey} {targets : LamportTargets}
    {vault : Option Pubkey} :
    installLamports env L session s targets vault = .ok L' ↔
      (∀ t ∈ targets, 0 < (L t.1).data.size → env.minimumBalance (L t.1).data.size ≤ t.2) ∧
        ((targets.Reached L ∧ vault = none) ∧ L' = L ∨
          ¬(targets.Reached L ∧ vault = none) ∧ targets.targetTotal ≤ targets.currentTotal L ∧
            ∃ credit,
              creditSurplus L (targets.currentTotal L - targets.targetTotal) vault = .ok credit ∧
              storeSession (LamportTargets.install (targets ++ credit) L) session
                { s with settlementAccumulator :=
                    targets.accumulate env s.settlementAccumulator } = .ok L') := by
  simp only [installLamports, chain_ok, LamportTargets.requireRentExempt_eq_ok]
  refine and_congr_right fun _ => ?_
  split
  · rename_i hdone
    rw [LamportTargets.all_eq_true_iff] at hdone
    simp only [pure_eq_ok, hdone, and_self, not_true, false_and, or_false, true_and]
    exact eq_comm
  · rename_i hdone
    rw [LamportTargets.all_eq_true_iff] at hdone
    simp only [chain_ok, not_lt, hdone, not_false_eq_true, true_and, false_and, false_or]

theorem settleAccountLamports_eq_ok :
    settleAccountLamports env validator session pairs trailing args previous L = .ok L' ↔
      ∃ s, Settling env L validator session args.erSlot args.checksum s ∧
        (∀ p ∈ pairs, ∃ r, loadDelegationRecord env L s p.1 p.2 = .ok r) ∧
        (pairs.map Prod.fst).Nodup ∧
        (loadSurplusVault env L s (args.targets pairs) trailing previous = .ok none ∧ L' = L ∨
          ∃ vault,
            loadSurplusVault env L s (args.targets pairs) trailing previous = .ok (some vault) ∧
            installLamports env L (env.address .session) s (args.targets pairs) vault =
              .ok L') := by
  simp only [settleAccountLamports, chain_ok, requireValidator_eq_ok, requireActiveSettlement_eq_ok,
    requireDelegatedPairs_eq_ok]
  constructor
  · rintro ⟨s, hload, hvalidator, hactive, ⟨hrecords, hnodup, -⟩, vault, hvault, h⟩
    have hsettling := guards_iff.mp ⟨hload, hvalidator, hactive⟩
    refine ⟨s, hsettling, hrecords, hnodup, ?_⟩
    cases vault with
    | none =>
      rw [pure_eq_ok] at h
      exact .inl ⟨hvault, h.symm⟩
    | some vault =>
      rw [hsettling.address] at h
      exact .inr ⟨vault, hvault, h⟩
  · rintro ⟨s, hsettling, hrecords, hnodup, h⟩
    obtain ⟨hload, hvalidator, hactive⟩ := guards_iff.mpr hsettling
    refine ⟨s, hload, hvalidator, hactive, ⟨hrecords, hnodup, by simp⟩, ?_⟩
    rcases h with ⟨hvault, rfl⟩ | ⟨vault, hvault, h⟩
    · exact ⟨none, hvault, rfl⟩
    · rw [← hsettling.address] at h
      exact ⟨some vault, hvault, h⟩

/-! ## Receipts -/

/-- The receipt is settled already. -/
def SettleDepositReceipt.IsDuplicate (args : SettleDepositReceipt) (state : DepositReceipt) :
    Prop :=
  state.balance = args.balance ∧ args.withdrawn ≤ state.withdrawn
  deriving Decidable

/-- What a payout has to fit: it is what the counter of withdrawn lamports rises by, and
leaves the receipt its rent and its balance. -/
structure SettleDepositReceipt.Fits (args : SettleDepositReceipt) (env : Env)
    (state : DepositReceipt) (receipt : Account) : Prop where
  counted : state.withdrawn.toNat + args.payoutLamports.toNat = args.withdrawn.toNat
  funded : (env.minimumBalance receipt.data.size).toNat + args.payoutLamports.toNat +
    args.balance.toNat ≤ receipt.lamports.toNat

/-- The receipt after it is settled. -/
def SettleDepositReceipt.settled (args : SettleDepositReceipt) (state : DepositReceipt) :
    DepositReceipt :=
  { state with balance := args.balance, withdrawn := args.withdrawn }

/-- The accumulator after a receipt is settled. -/
def SettleDepositReceipt.accumulate (args : SettleDepositReceipt) (env : Env)
    (erSource recipient : Pubkey) (s : Session) : Session :=
  { s with
    settlementAccumulator := accumulateReceiptChecksum env s.settlementAccumulator erSource
      recipient args.balance args.withdrawn args.payoutLamports }

/-- What a payout does: it changes nothing but lamports, and what the recipient gets the
receipt gives. -/
theorem payOut_ok (h : payOut L receipt recipient lamports = .ok L') (a : Pubkey) :
    (L' a).data = (L a).data ∧ (L' a).owner = (L a).owner ∧
      (L' a).lamports.toNat + (if a = receipt then lamports.toNat else 0) =
        (L a).lamports.toNat + (if a = recipient then lamports.toNat else 0) := by
  unfold payOut at h
  split at h
  · simp only [chain_ok, checkedAdd_eq_some, checkedSub_eq_some] at h
    obtain ⟨credited, hcredited, left, hleft, rfl⟩ := h
    rw [Ledger.setLamports_lamports] at hleft
    refine ⟨by simp, by simp, ?_⟩
    rw [Ledger.setLamports_lamports, Ledger.setLamports_lamports]
    -- the receipt may be the recipient, and then both amounts cancel
    by_cases hr : receipt = recipient
    · subst hr
      by_cases ha : a = receipt
      · subst ha
        simp only [if_true] at hleft ⊢
        omega
      · simp only [if_neg ha]
    · rw [if_neg hr] at hleft
      by_cases ha : a = receipt
      · subst ha
        simp only [if_true, if_neg hr]
        omega
      · simp only [if_neg ha]
        by_cases ha' : a = recipient
        · subst ha'
          simp only [if_true]
          omega
        · simp only [if_neg ha']
  · rename_i hzero
    cases h
    have hlamports : lamports = 0 := by
      rw [UInt64.not_lt, UInt64.le_iff_toNat_le, UInt64.toNat_zero] at hzero
      exact UInt64.toNat_inj.mp (by rw [UInt64.toNat_zero]; omega)
    subst hlamports
    refine ⟨rfl, rfl, ?_⟩
    simp

/-- A receipt can pay what it holds to a recipient with room for it. -/
theorem exists_payOut (hfunds : lamports.toNat ≤ (L receipt).lamports.toNat)
    (hroom : (L recipient).lamports.toNat + lamports.toNat < 2 ^ 64) :
    ∃ L', payOut L receipt recipient lamports = .ok L' := by
  unfold payOut
  split
  · have hcredited : checkedAdd (L recipient).lamports lamports =
        some ((L recipient).lamports + lamports) := by
      rw [checkedAdd_eq_some, UInt64.toNat_add, Nat.mod_eq_of_lt hroom]
    have hpaid : lamports ≤
        (L.setLamports recipient ((L recipient).lamports + lamports) receipt).lamports := by
      rw [Ledger.setLamports_lamports, UInt64.le_iff_toNat_le]
      split
      · rw [UInt64.toNat_add, Nat.mod_eq_of_lt hroom]
        omega
      · exact hfunds
    have hleft : checkedSub
        (L.setLamports recipient ((L recipient).lamports + lamports) receipt).lamports lamports =
          some ((L.setLamports recipient ((L recipient).lamports + lamports) receipt).lamports -
            lamports) := by
      rw [checkedSub, if_pos hpaid]
    simp only [chain_ok]
    exact ⟨_, _, hcredited, _, hleft, rfl⟩
  · exact ⟨L, rfl⟩

theorem receiptEscrow_sub_eq_some :
    (∃ escrow, receiptEscrow env receipt = some escrow ∧
      ∃ left, checkedSub escrow payout = some left ∧ balance ≤ left) ↔
      (env.minimumBalance receipt.data.size).toNat + payout.toNat + balance.toNat ≤
        receipt.lamports.toNat := by
  simp only [receiptEscrow, checkedSub_eq_some, UInt64.le_iff_toNat_le]
  constructor
  · rintro ⟨escrow, hescrow, left, hleft, hbalance⟩
    omega
  · intro h
    have hlamports := receipt.lamports.toNat_lt
    refine ⟨UInt64.ofNat (receipt.lamports.toNat -
      (env.minimumBalance receipt.data.size).toNat), ?_, UInt64.ofNat (receipt.lamports.toNat -
      (env.minimumBalance receipt.data.size).toNat - payout.toNat), ?_, ?_⟩ <;>
    · simp only [UInt64.toNat_ofNat']
      omega

theorem installReceipt_eq_ok {session receipt erSource recipient : Pubkey}
    {state : DepositReceipt} {args : SettleDepositReceipt} :
    installReceipt env L session s receipt erSource recipient state args = .ok L' ↔
      args.IsDuplicate state ∧ L' = L ∨
      ¬args.IsDuplicate state ∧ args.Fits env state (L receipt) ∧
        ∃ L₁ d, payOut L receipt recipient args.payoutLamports = .ok L₁ ∧
          writeDepositReceipt (L₁ receipt).data (args.settled state) = .ok d ∧
          storeSession (L₁.setData receipt d) session (args.accumulate env erSource recipient s) =
            .ok L' := by
  unfold installReceipt SettleDepositReceipt.IsDuplicate
  split
  · rename_i hdup
    simp only [Except.ok.injEq, hdup, and_self, true_and, not_true, false_and, or_false]
    exact eq_comm
  · rename_i hdup
    simp only [chain_ok, hdup, false_and, false_or, not_false_eq_true, true_and, UInt64.not_lt]
    constructor
    · rintro ⟨-, delta, hdelta, hpayout, escrow, hescrow, left, hleft, hbalance, L₁, hpay, d, hd,
        hstore⟩
      subst hpayout
      rw [checkedSub_eq_some] at hdelta
      exact ⟨⟨hdelta, receiptEscrow_sub_eq_some.mp ⟨escrow, hescrow, left, hleft, hbalance⟩⟩, L₁,
        d, hpay, hd, hstore⟩
    · rintro ⟨⟨hcounted, hfunded⟩, L₁, d, hpay, hd, hstore⟩
      obtain ⟨escrow, hescrow, left, hleft, hbalance⟩ := receiptEscrow_sub_eq_some.mpr hfunded
      refine ⟨?_, args.payoutLamports, ?_, rfl, escrow, hescrow, left, hleft, hbalance, L₁, hpay,
        d, hd, hstore⟩
      · rw [UInt64.le_iff_toNat_le]
        omega
      · rwa [checkedSub_eq_some]

/-- The receipt that a settlement names, in the format of its session. -/
structure NamesReceipt (env : Env) (L : Ledger) (receipt erSource : Pubkey)
    (state : DepositReceipt) : Prop where
  context : ∃ context, receiptContext env L (env.address .session) = .ok context ∧
    receipt = (findReceiptPda env context (env.address .session) erSource).1 ∧
    requireReceiptContext context (L receipt).data = .ok () ∧
    state.bump = (findReceiptPda env context (env.address .session) erSource).2
  owner : (L receipt).owner = env.programId
  parsed : parseDepositReceipt (L receipt).data = .ok state
  session : state.session = env.address .session
  recipient : state.recipient = erSource

theorem settleDepositReceipt_eq_ok :
    settleDepositReceipt env validator session receipt erSource l1Recipient args L = .ok L' ↔
      ∃ s state, Settling env L validator session args.erSlot args.checksum s ∧
        l1Recipient.address = args.l1Recipient ∧
        NamesReceipt env L receipt.address erSource.address state ∧
        installReceipt env L (env.address .session) s receipt.address erSource.address
          l1Recipient.address state args = .ok L' := by
  simp only [settleDepositReceipt, chain_ok, requireValidator_eq_ok, requireActiveSettlement_eq_ok,
    not_or]
  constructor
  · rintro ⟨s, hload, hvalidator, hactive, hrecipient, context, hcontext, hkey, howner, ⟨⟩,
      hformat, state, hparse, ⟨hsession, hsource, hbump⟩, hinstall⟩
    have hsettling := guards_iff.mp ⟨hload, hvalidator, hactive⟩
    rw [hsettling.address] at hcontext hkey hsession hbump hinstall
    exact ⟨s, state, hsettling, hrecipient,
      ⟨⟨context, hcontext, hkey, hformat, hbump⟩, howner, hparse, hsession, hsource⟩, hinstall⟩
  · rintro ⟨s, state, hsettling, hrecipient,
      ⟨⟨context, hcontext, hkey, hformat, hbump⟩, howner, hparse, hsession, hsource⟩, hinstall⟩
    obtain ⟨hload, hvalidator, hactive⟩ := guards_iff.mpr hsettling
    rw [← hsettling.address] at hcontext hkey hsession hbump hinstall
    exact ⟨s, hload, hvalidator, hactive, hrecipient, context, hcontext, hkey, howner, ⟨⟩,
      hformat, state, hparse, ⟨hsession, hsource, hbump⟩, hinstall⟩

/-! ## Token withdrawals -/

theorem loadSettlementSession_ok (h : loadSettlementSession env L a = .ok s) :
    parseSession (L a).data = .ok s := by
  unfold loadSettlementSession at h
  split at h
  · simp only [loadSessionV2, chain_ok] at h
    obtain ⟨frame, ⟨-, hframe⟩, rfl⟩ := h
    cases hd : (L a).data <;> rw [hd] at hframe <;>
      simp only [chain_ok, reduceCtorEq] at hframe
    obtain ⟨hvalid, rfl⟩ := hframe
    simp [parseSession, hvalid]
  · cases hd : (L a).data <;> rw [hd] at h <;> simp only [parseSessionV1, reduceCtorEq] at h
    exact h

/-- The authorization that a withdrawal is given. -/
def TokenWithdrawal.authorization (args : TokenWithdrawal) (env : Env)
    (accounts : TokenWithdrawalAccounts) (bridge : SessionBridge) :
    TokenWithdrawalAuthorization :=
  { checkpoint := env.address (.checkpoint args.erSlot)
    tupleHash := tokenWithdrawalTupleHash env (args.tuple accounts bridge)
    consumed := false
    bump := (findTokenWithdrawalAuthorizationPda env (env.address (.checkpoint args.erSlot))
      accounts.vault.address args.withdrawn).2 }

theorem accumulateTokenWithdrawal_eq_ok :
    accumulateTokenWithdrawal env validator session authorization accounts args L = .ok L' ↔
      ∃ s bridge, Settling env L validator session args.erSlot args.checksum s ∧
        loadSettlementSession env L (env.address .session) = .ok s ∧
        loadBridge env L (env.address .session) accounts.sessionBridge.address
          accounts.vault.address accounts.mint.address accounts.tokenProgram.address = .ok bridge ∧
        authorization.address = (findTokenWithdrawalAuthorizationPda env
          (env.address (.checkpoint args.erSlot)) accounts.vault.address args.withdrawn).1 ∧
        installAuthorization env L validator (env.address .session) s authorization.address
          (args.authorization env accounts bridge) (args.tuple accounts bridge) = .ok L' := by
  simp only [accumulateTokenWithdrawal, chain_ok, requireValidator_eq_ok,
    requireActiveSettlement_eq_ok]
  constructor
  · rintro ⟨haddress, s, hload, howner, hvalidator, hactive, bridge, hbridge, hkey, hinstall⟩
    have haddress' : session.address = env.address .session := haddress
    have hsession : loadSession env L session.address = .ok s := by
      rw [loadSession_eq_ok]
      exact ⟨haddress, howner, loadSettlementSession_ok hload⟩
    rw [haddress'] at hload hbridge hkey hinstall
    exact ⟨s, bridge, guards_iff.mp ⟨hsession, hvalidator, hactive⟩, hload, hbridge, hkey, hinstall⟩
  · rintro ⟨s, bridge, hsettling, hload, hbridge, hkey, hinstall⟩
    obtain ⟨hsession, hvalidator, hactive⟩ := guards_iff.mpr hsettling
    obtain ⟨haddress, howner, -⟩ := loadSession_eq_ok.mp hsession
    rw [← hsettling.address] at hload hbridge hinstall
    refine ⟨haddress, s, hload, howner, hvalidator, hactive, bridge, hbridge, ?_, ?_⟩
    · rw [haddress]
      exact hkey
    · rw [haddress] at hinstall ⊢
      exact hinstall

end Effects

/-! ## Settlements call by call -/

/-- The calls of a settlement in order, each of which has to succeed. -/
def settleAll (env : Env) (calls : List Call) (L : Ledger) : ProgramResult :=
  calls.foldlM (fun L c => c.result env L) L

theorem settleAll_cons_eq_ok : settleAll env (c :: calls) L = .ok L' ↔
    ∃ L₁, c.result env L = .ok L₁ ∧ settleAll env calls L₁ = .ok L' := by
  rw [settleAll, List.foldlM_cons, bind_eq_ok]
  rfl

end Northstar.Portal
