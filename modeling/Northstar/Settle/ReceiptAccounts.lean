import Northstar.Game.Histories
import Northstar.Settle.Effects

/-!
# Updates of receipts

An update of a receipt concerns its account: the balance and the counter it records and the
lamports it holds. This file follows a sequence of updates from the accounts alone, and
shows that Portal accepts every sequence that the accounts can take. Payments into receipts
only help.

## Main definitions

* `SettleDepositReceipt.applyTo`: an update seen from the receipt account
* `applyAll`: a sequence of updates of one receipt
* `ReceiptUpdate`, `ReceiptUpdate.call`: an update as Portal is asked for it

## Main results

* `installReceipt_ok`: what an installed update does to the ledger
* `exists_settleAll_updates`: Portal accepts what the receipt accounts can take
-/

namespace Northstar.Portal

open Bytes Checked

/-! ## One update on the ledger -/

variable {env : Env} {L L' : Ledger} {s : Session} {recipient : Pubkey} {state : DepositReceipt}
  {args : SettleDepositReceipt}

section Install

variable {receipt erSource : Pubkey}

/-- What an update did to the ledger: the receipt holds `d`, the recipient was paid and the
session went to `s'`. -/
structure ReceiptInstalled (env : Env) (L L' : Ledger) (receipt recipient : Pubkey)
    (lamports : UInt64) (d : AccountData) (s' : Session) : Prop where
  session : sessionOf env L' = some s'
  context : receiptContext env L' (env.address .session) =
    receiptContext env L (env.address .session)
  owner : ∀ a, (L' a).owner = (L a).owner
  data : ∀ a, a ≠ env.address .session → (L' a).data = if a = receipt then d else (L a).data
  lamports : ∀ a, (L' a).lamports.toNat + (if a = receipt then lamports.toNat else 0) =
    (L a).lamports.toNat + (if a = recipient then lamports.toNat else 0)

/-- **An installed update**: the receipt was settled before, or it fits and is settled now. -/
theorem installReceipt_ok (hload : sessionOf env L = some s)
    (hne : receipt ≠ env.address .session)
    (h : installReceipt env L (env.address .session) s receipt erSource recipient state args =
      .ok L') :
    args.IsDuplicate state ∧ L' = L ∨
      ¬args.IsDuplicate state ∧ args.Fits env state (L receipt) ∧
        ∃ d, writeDepositReceipt (L receipt).data (args.settled state) = .ok d ∧
          ReceiptInstalled env L L' receipt recipient args.payoutLamports d
            (args.accumulate env erSource recipient s) := by
  rw [installReceipt_eq_ok] at h
  obtain h | ⟨hdup, hfits, L₁, d, hpay, hd, hstore⟩ := h
  · exact .inl h
  refine .inr ⟨hdup, hfits, d, ?_, ?_⟩
  · rwa [(payOut_ok hpay receipt).1] at hd
  have howner : ∀ a, (L₁.setData receipt d a).owner = (L a).owner := fun a => by
    rw [Ledger.setData_owner, (payOut_ok hpay a).2.1]
  have hdata : (L₁.setData receipt d (env.address .session)).data =
      (L (env.address .session)).data := by
    rw [Ledger.setData_data, if_neg hne.symm, (payOut_ok hpay _).1]
  obtain ⟨hsession, hother, hsame, hcontext⟩ := storeSession_eq_ok hstore
    ((howner _).trans (sessionOf_eq_some.mp hload).1)
  refine ⟨hsession, ?_, fun a => (hsame a).2.trans (howner a), fun a ha => ?_, fun a => ?_⟩
  · rw [hcontext]
    unfold receiptContext
    rw [hdata]
  · rw [hother a ha, Ledger.setData_data, (payOut_ok hpay a).1]
  · rw [(hsame a).1, Ledger.setData_lamports]
    exact (payOut_ok hpay a).2.2

/-- An update that fits can be installed. -/
theorem exists_installReceipt (hload : sessionOf env L = some s)
    (hne : receipt ≠ env.address .session) (hfits : args.Fits env state (L receipt))
    (hd : writeDepositReceipt (L receipt).data (args.settled state) = .ok d)
    (hroom : (L recipient).lamports.toNat + args.payoutLamports.toNat < 2 ^ 64) :
    ∃ L', installReceipt env L (env.address .session) s receipt erSource recipient state args =
      .ok L' := by
  by_cases hdup : args.IsDuplicate state
  · exact ⟨L, installReceipt_eq_ok.mpr (.inl ⟨hdup, rfl⟩)⟩
  have hfunds : args.payoutLamports.toNat ≤ (L receipt).lamports.toNat := by
    have := hfits.funded
    omega
  obtain ⟨L₁, hpay⟩ := exists_payOut hfunds hroom
  have hd' : writeDepositReceipt (L₁ receipt).data (args.settled state) = .ok d := by
    rwa [(payOut_ok hpay receipt).1]
  have hdata : (L₁.setData receipt d (env.address .session)).data =
      (L (env.address .session)).data := by
    rw [Ledger.setData_data, if_neg hne.symm, (payOut_ok hpay _).1]
  have hsame : s.SameIdentity (args.accumulate env erSource recipient s) :=
    ⟨rfl, rfl, rfl, rfl, rfl, rfl, rfl, rfl, rfl⟩
  obtain ⟨L', hstore⟩ := exists_storeSession hload hsame hdata
  exact ⟨L', installReceipt_eq_ok.mpr (.inr ⟨hdup, hfits, L₁, d, hpay, hd', hstore⟩)⟩

end Install

/-! ## Updates seen from the receipt -/

instance (args : SettleDepositReceipt) (env : Env) (state : DepositReceipt) (receipt : Account) :
    Decidable (args.Fits env state receipt) :=
  decidable_of_iff (_ ∧ _) ⟨fun h => ⟨h.1, h.2⟩, fun h => ⟨h.counted, h.funded⟩⟩

/-- **An update seen from the receipt account**: the account after it, if the receipt can take
it. -/
def SettleDepositReceipt.applyTo (args : SettleDepositReceipt) (env : Env) (receipt : Account) :
    Option Account :=
  match parseDepositReceipt receipt.data with
  | .error _ => none
  | .ok state =>
    if args.IsDuplicate state then some receipt
    else if args.Fits env state receipt then
      match writeDepositReceipt receipt.data (args.settled state) with
      | .error _ => none
      | .ok data => some { receipt with lamports := receipt.lamports - args.payoutLamports, data }
    else none

/-- A sequence of updates of one receipt. -/
def applyAll (env : Env) (receipt : Account) (updates : List SettleDepositReceipt) :
    Option Account :=
  updates.foldlM (fun receipt args => args.applyTo env receipt) receipt

section Apply

variable {receipt receipt' : Account} {updates : List SettleDepositReceipt}

theorem applyTo_eq_some : args.applyTo env receipt = some receipt' ↔
    ∃ state, parseDepositReceipt receipt.data = .ok state ∧
      (args.IsDuplicate state ∧ receipt' = receipt ∨
        ¬args.IsDuplicate state ∧ args.Fits env state receipt ∧
          ∃ d, writeDepositReceipt receipt.data (args.settled state) = .ok d ∧
            receipt' = { receipt with lamports := receipt.lamports - args.payoutLamports,
                                      data := d }) := by
  unfold SettleDepositReceipt.applyTo
  cases hparse : parseDepositReceipt receipt.data with
  | error e => simp
  | ok state =>
    simp only [Except.ok.injEq, exists_eq_left']
    by_cases hdup : args.IsDuplicate state
    · simp only [hdup, if_true, true_and, not_true, false_and, or_false, Option.some.injEq]
      exact eq_comm
    by_cases hfits : args.Fits env state receipt
    · cases hwrite : writeDepositReceipt receipt.data (args.settled state) with
      | error e => simp [hdup]
      | ok d => simp [hdup, hfits, eq_comm]
    · simp [hdup, hfits]

theorem applyAll_cons_eq_some : applyAll env receipt (args :: updates) = some receipt' ↔
    ∃ receipt₁, args.applyTo env receipt = some receipt₁ ∧
      applyAll env receipt₁ updates = some receipt' := by
  rw [applyAll, List.foldlM_cons]
  exact Option.bind_eq_some_iff

end Apply

/-! ## Sequences of updates on the ledger -/

variable {d : AccountData}

/-- A receipt is read back as it was written. -/
theorem parseDepositReceipt_of_write (hparse : parseDepositReceipt d = .ok state)
    (h : writeDepositReceipt d state' = .ok d') : parseDepositReceipt d' = .ok state' := by
  cases d <;> simp only [writeDepositReceipt, parseDepositReceipt, chain_ok, reduceCtorEq,
    Except.ok.injEq, not_or] at h hparse
  · rw [← h]
    rfl
  · obtain ⟨hwritten, rfl⟩ := h
    simp only [parseDepositReceipt, chain_ok, not_or]
    exact ⟨⟨hparse.1.1, hwritten.2.2.2.2⟩, trivial⟩

/-- Writing keeps the format of a receipt, its size and its context. -/
theorem size_of_writeDepositReceipt (h : writeDepositReceipt d state = .ok d') :
    d'.size = d.size := by
  cases d <;> simp only [writeDepositReceipt, chain_ok, reduceCtorEq, Except.ok.injEq] at h
  · rw [← h]
    rfl
  · rw [← h.2]
    rfl

theorem requireReceiptContext_of_write (hcontext : requireReceiptContext context d = .ok ())
    (h : writeDepositReceipt d state = .ok d') : requireReceiptContext context d' = .ok () := by
  cases d <;> simp only [writeDepositReceipt, chain_ok, reduceCtorEq, Except.ok.injEq] at h
  · cases context with
    | none => rw [← h]; rfl
    | some context => cases hcontext
  · rw [← h.2]
    cases context with
    | none => cases hcontext
    | some context => exact hcontext

/-- An update as the validator asks Portal for it. -/
structure ReceiptUpdate where
  receipt : Pubkey
  erSource : Pubkey
  args : SettleDepositReceipt

/-- The call that asks for an update. -/
def ReceiptUpdate.call (update : ReceiptUpdate) (slot : UInt64) (validator session : Pubkey) :
    Call :=
  ⟨slot, [⟨validator, true, false⟩, ⟨session, false, true⟩, ⟨update.receipt, false, true⟩,
    ⟨update.erSource, false, false⟩, ⟨update.args.l1Recipient, false, true⟩],
    .settleDepositReceipt update.args⟩

/-- **Updates the receipts can take**: a settlement is under way, the updates name receipts
of its session, and every receipt account, as far as it is not paid into, takes the updates
made of it. -/
structure UpdatesReady (env : Env) (L : Ledger) (validator : Pubkey) (S : Finset Pubkey)
    (receipts : Pubkey → Account) (updates : List ReceiptUpdate) : Prop where
  settling : ∃ s, sessionOf env L = some s ∧ validator = s.validator ∧
    s.settlementStatus = .inProgress ∧ ∀ u ∈ updates, u.args.erSlot = s.settlementErSlot ∧
      u.args.checksum = s.settlementChecksum
  named : ∀ u ∈ updates, ∃ state, NamesReceipt env L u.receipt u.erSource state
  data : ∀ u ∈ updates, (receipts u.receipt).data = (L u.receipt).data
  lamports : ∀ u ∈ updates, (receipts u.receipt).lamports ≤ (L u.receipt).lamports
  applies : ∀ a, (applyAll env (receipts a) ((updates.filter (·.receipt = a)).map (·.args))).isSome
  mem : ∀ u ∈ updates, u.receipt ∈ S ∧ u.args.l1Recipient ∈ S
  supply : L.total S < 2 ^ 63

section Sequences

variable {validator receipt : Pubkey} {S : Finset Pubkey} {receipts : Pubkey → Account}
  {updates : List ReceiptUpdate} {lamports : UInt64}

theorem NamesReceipt.ne_session (hl : env.Lawful) (h : NamesReceipt env L receipt erSource state) :
    receipt ≠ env.address .session := by
  obtain ⟨context, -, rfl, -⟩ := h.context
  exact (aside_findReceiptPda hl context _ _ .session).symm

/-- A payment leaves what the accounts hold together. -/
theorem ReceiptInstalled.total (h : ReceiptInstalled env L L' receipt recipient lamports d s)
    (hreceipt : receipt ∈ S) (hrecipient : recipient ∈ S) : L'.total S = L.total S := by
  have hsum : ∑ a ∈ S, ((L' a).lamports.toNat + if a = receipt then lamports.toNat else 0) =
      ∑ a ∈ S, ((L a).lamports.toNat + if a = recipient then lamports.toNat else 0) :=
    Finset.sum_congr rfl fun a _ => h.lamports a
  rw [Finset.sum_add_distrib, Finset.sum_add_distrib, Finset.sum_ite_eq', Finset.sum_ite_eq',
    if_pos hreceipt, if_pos hrecipient] at hsum
  exact Nat.add_right_cancel hsum

/-- An account that does not pay holds no less after a payment. -/
theorem ReceiptInstalled.le (h : ReceiptInstalled env L L' receipt recipient lamports d s)
    (ha : a ≠ receipt) : (L a).lamports ≤ (L' a).lamports := by
  have hlamports := h.lamports a
  rw [if_neg ha] at hlamports
  rw [UInt64.le_iff_toNat_le]
  omega

/-- Other receipts, and later the same one, are named as before. -/
theorem NamesReceipt.of_installed (hl : env.Lawful)
    (h : ReceiptInstalled env L L' receipt recipient lamports d s)
    (hwrite : writeDepositReceipt (L receipt).data written = .ok d)
    (hwritten : written.session = state.session ∧ written.recipient = state.recipient ∧
      written.bump = state.bump) (hnamed : NamesReceipt env L receipt erSource state)
    (hnamed' : NamesReceipt env L receipt' erSource' state') :
    ∃ state, NamesReceipt env L' receipt' erSource' state := by
  obtain ⟨context, hcontext, hkey, hformat, hbump⟩ := hnamed'.context
  have hdata := h.data receipt' (hnamed'.ne_session hl)
  by_cases hsame : receipt' = receipt
  · -- the receipt reads as it was written, and keeps its identity
    subst hsame
    rw [if_pos rfl] at hdata
    have hstate : state' = state := by
      have := hnamed'.parsed.symm.trans hnamed.parsed
      exact Except.ok.inj this
    subst hstate
    refine ⟨written, ⟨context, ?_, hkey, ?_, ?_⟩, ?_, ?_, ?_, ?_⟩
    · rw [h.context, hcontext]
    · rw [hdata]
      exact requireReceiptContext_of_write hformat hwrite
    · rw [hwritten.2.2, hbump]
    · rw [h.owner, hnamed'.owner]
    · rw [hdata]
      exact parseDepositReceipt_of_write hnamed'.parsed hwrite
    · rw [hwritten.1, hnamed'.session]
    · rw [hwritten.2.1, hnamed'.recipient]
  · rw [if_neg hsame] at hdata
    refine ⟨state', ⟨context, ?_, hkey, ?_, hbump⟩, ?_, ?_, hnamed'.session, hnamed'.recipient⟩
    · rw [h.context, hcontext]
    · rw [hdata, hformat]
    · rw [h.owner, hnamed'.owner]
    · rw [hdata, hnamed'.parsed]

/-- The receipt accounts take what is left of the updates after the first. -/
theorem UpdatesReady.applies_rest (h : UpdatesReady env L validator S receipts (u :: updates)) :
    ∃ receipt, u.args.applyTo env (receipts u.receipt) = some receipt ∧
      ∀ a, (applyAll env (Function.update receipts u.receipt receipt a)
        ((updates.filter (·.receipt = a)).map (·.args))).isSome := by
  have hfirst := h.applies u.receipt
  rw [List.filter_cons_of_pos (by simp), List.map_cons, Option.isSome_iff_exists] at hfirst
  obtain ⟨last, hlast⟩ := hfirst
  obtain ⟨receipt, happly, hrest⟩ := applyAll_cons_eq_some.mp hlast
  refine ⟨receipt, happly, fun a => ?_⟩
  by_cases ha : a = u.receipt
  · subst ha
    rw [Function.update_self]
    exact Option.isSome_of_mem hrest
  · have hother := h.applies a
    rw [List.filter_cons_of_neg (by simpa using Ne.symm ha)] at hother
    rwa [Function.update_of_ne ha]

/-- A receipt that takes an update on its own takes it on the ledger. -/
theorem SettleDepositReceipt.Fits.mono (h : args.Fits env state account)
    (hdata : account.data = account'.data) (hle : account.lamports ≤ account'.lamports) :
    args.Fits env state account' := by
  refine ⟨h.counted, ?_⟩
  have hfunded := h.funded
  rw [hdata] at hfunded
  rw [UInt64.le_iff_toNat_le] at hle
  omega

theorem Ledger.lamports_le_total (L : Ledger) (ha : a ∈ S) :
    (L a).lamports.toNat ≤ L.total S :=
  Finset.single_le_sum (f := fun b => (L b).lamports.toNat) (fun _ _ => Nat.zero_le _) ha

/-- **One update**: Portal accepts it, and the receipts can take the rest. -/
theorem UpdatesReady.step (hl : env.Lawful) (slot : UInt64)
    (h : UpdatesReady env L validator S receipts (u :: updates)) :
    ∃ L' receipts', (u.call slot validator (env.address .session)).result env L = .ok L' ∧
      UpdatesReady env L' validator S receipts' updates := by
  obtain ⟨s, hload, rfl, hstatus, hargs⟩ := h.settling
  obtain ⟨receipt, happly, hrest⟩ := h.applies_rest
  obtain ⟨state, hnamed⟩ := h.named u List.mem_cons_self
  have hdata := h.data u List.mem_cons_self
  have hle := h.lamports u List.mem_cons_self
  obtain ⟨hslot, hchecksum⟩ := hargs u List.mem_cons_self
  obtain ⟨hreceipt, hrecipient⟩ := h.mem u List.mem_cons_self
  have hsettling : Settling env L ⟨s.validator, true, false⟩
      ⟨env.address .session, false, true⟩ u.args.erSlot u.args.checksum s :=
    ⟨rfl, hload, rfl, rfl, hstatus, hslot, hchecksum⟩
  have hresult {L'} (hinstall : installReceipt env L (env.address .session) s u.receipt u.erSource
      u.args.l1Recipient state u.args = .ok L') :
      (u.call slot s.validator (env.address .session)).result env L = .ok L' :=
    settleDepositReceipt_eq_ok.mpr ⟨s, state, hsettling, rfl, hnamed, hinstall⟩
  obtain ⟨state', hparse, happly⟩ := applyTo_eq_some.mp happly
  obtain rfl : state' = state := by
    rw [hdata] at hparse
    exact Except.ok.inj (hparse.symm.trans hnamed.parsed)
  obtain ⟨hdup, rfl⟩ | ⟨hdup, hfits, d, hd, rfl⟩ := happly
  · -- the receipt is settled already, and nothing changes
    refine ⟨L, receipts, hresult (installReceipt_eq_ok.mpr (.inl ⟨hdup, rfl⟩)), ?_⟩
    rw [Function.update_eq_self] at hrest
    exact
      { settling := ⟨s, hload, rfl, hstatus, fun v hv => hargs v (List.mem_cons_of_mem _ hv)⟩
        named := fun v hv => h.named v (List.mem_cons_of_mem _ hv)
        data := fun v hv => h.data v (List.mem_cons_of_mem _ hv)
        lamports := fun v hv => h.lamports v (List.mem_cons_of_mem _ hv)
        applies := hrest
        mem := fun v hv => h.mem v (List.mem_cons_of_mem _ hv)
        supply := h.supply }
  have hfits' : u.args.Fits env state' (L u.receipt) := hfits.mono hdata hle
  have hwrite : writeDepositReceipt (L u.receipt).data (u.args.settled state') = .ok d := by
    rwa [← hdata]
  have hne := hnamed.ne_session hl
  have hroom : (L u.args.l1Recipient).lamports.toNat + u.args.payoutLamports.toNat < 2 ^ 64 := by
    have := L.lamports_le_total hreceipt
    have := L.lamports_le_total hrecipient
    have := hfits'.funded
    have := h.supply
    omega
  obtain ⟨L', hinstall⟩ := exists_installReceipt hload hne hfits' hwrite hroom
  obtain ⟨hdup', -⟩ | ⟨-, -, d', hd', hdone⟩ := installReceipt_ok hload hne hinstall
  · exact absurd hdup' hdup
  obtain rfl : d' = d := Except.ok.inj (hd'.symm.trans hwrite)
  refine ⟨L', _, hresult hinstall,
    { settling := ⟨_, hdone.session, rfl, hstatus, fun v hv => hargs v (List.mem_cons_of_mem _ hv)⟩
      named := fun v hv => ?_
      data := fun v hv => ?_
      lamports := fun v hv => ?_
      applies := hrest
      mem := fun v hv => h.mem v (List.mem_cons_of_mem _ hv)
      supply := ?_ }⟩
  · obtain ⟨state, hnamed'⟩ := h.named v (List.mem_cons_of_mem _ hv)
    apply NamesReceipt.of_installed hl hdone hwrite _ hnamed hnamed'
    exact ⟨rfl, rfl, rfl⟩
  · obtain ⟨state, hnamed'⟩ := h.named v (List.mem_cons_of_mem _ hv)
    rw [hdone.data v.receipt (hnamed'.ne_session hl)]
    by_cases hv' : v.receipt = u.receipt
    · rw [hv', Function.update_self, if_pos rfl]
    · rw [Function.update_of_ne hv', if_neg hv', h.data v (List.mem_cons_of_mem _ hv)]
  · by_cases hv' : v.receipt = u.receipt
    · rw [hv', Function.update_self, UInt64.le_iff_toNat_le]
      -- what the receipt paid is all it can have lost
      have hlamports := hdone.lamports u.receipt
      rw [if_pos rfl] at hlamports
      have hpaid : u.args.payoutLamports ≤ (receipts u.receipt).lamports := by
        rw [UInt64.le_iff_toNat_le]
        have := hfits.funded
        omega
      rw [UInt64.toNat_sub_of_le _ _ hpaid]
      rw [UInt64.le_iff_toNat_le] at hle
      omega
    · rw [Function.update_of_ne hv']
      exact UInt64.le_trans (h.lamports v (List.mem_cons_of_mem _ hv)) (hdone.le hv')
  · rw [hdone.total hreceipt hrecipient]
    exact h.supply

/-- **Portal accepts what the receipts can take.** -/
theorem exists_settleAll_updates (hl : env.Lawful) (slot : UInt64)
    (h : UpdatesReady env L validator S receipts updates) :
    ∃ L', settleAll env (updates.map (·.call slot validator (env.address .session))) L =
      .ok L' := by
  induction updates generalizing L receipts with
  | nil => exact ⟨L, rfl⟩
  | cons u updates ih =>
    obtain ⟨L₁, receipts', hresult, hready⟩ := h.step hl slot
    obtain ⟨L', hL'⟩ := ih hready
    exact ⟨L', settleAll_cons_eq_ok.mpr ⟨L₁, hresult, hL'⟩⟩

end Sequences

end Northstar.Portal
