import Northstar.Runtime.Attribution
import Northstar.Settle.ReceiptAccounts

/-!
# Whether the receipts can take their updates

An event that the net payout of its source does not cover is dropped as stale, but its
lamports stay in the counters of the events after it, so a later update may pay more than its
event is for, or ask for more than the receipt holds. This file says exactly when each update
pays the lamports of its own event, and when the receipts can take all updates; Portal then
accepts them.

## Main definitions

* `FitsEscrow`: an event and all that was recorded before it fit the receipt
* `SettlementOpen`: Portal is ready for the updates

## Main results

* `applyAll_advances`: a receipt takes the advances of its counter that it can pay
* `receipt_settlements_executable`: the receipts take their updates exactly when every
  covered event fits, and pay each covered event exactly when they continue the counter
-/

namespace Northstar.Runtime

open Northstar.Portal Bytes Checked Counters WithdrawalPayoutEvent

/-- An update as Portal is asked for it. -/
def ReceiptBalanceSettlement.update (item : ReceiptBalanceSettlement) (erSlot : UInt64)
    (checksum : Hash32) : ReceiptUpdate where
  receipt := item.receipt
  erSource := item.erSource
  args :=
    { erSlot
      checksum
      balance := item.balance
      withdrawn := item.withdrawn
      payoutLamports := item.payoutLamports
      l1Recipient := item.l1Recipient }

/-! ## One receipt -/

/-- A receipt whose counter stands at `current` can pay up to the counter `reached` and keep
its rent and `balance`. One of the second format accounts for no more than was deposited. -/
structure CanPay (env : Env) (receipt : Account) (balance current reached : Nat) : Prop where
  funded : (env.minimumBalance receipt.data.size).toNat + balance + (reached - current) ≤
    receipt.lamports.toNat
  deposited : ∀ frame, receipt.data = .depositReceiptV2 frame →
    balance + reached ≤ frame.totalDeposited.toNat

section Receipt

variable {env : Env} {receipt receipt' : Account} {balance current m n : Nat}
  {args : SettleDepositReceipt} {state : DepositReceipt}

theorem CanPay.mono (h : CanPay env receipt balance current n) (hmn : m ≤ n) :
    CanPay env receipt balance current m := by
  refine ⟨?_, fun frame hframe => ?_⟩
  · have := h.funded
    omega
  · have := h.deposited frame hframe
    omega

/-- What a receipt has to be written with. -/
theorem exists_writeDepositReceipt_iff (hparse : parseDepositReceipt d = .ok state)
    (hle : state.withdrawn ≤ args.withdrawn) :
    (∃ d', writeDepositReceipt d (args.settled state) = .ok d') ↔
      ∀ frame, d = .depositReceiptV2 frame →
        args.balance.toNat + args.withdrawn.toNat ≤ frame.totalDeposited.toNat := by
  cases d <;> simp only [parseDepositReceipt, chain_ok, reduceCtorEq, Except.ok.injEq] at hparse
  case depositReceipt => simp [writeDepositReceipt]
  case depositReceiptV2 frame =>
    obtain ⟨-, rfl⟩ := hparse
    constructor
    · rintro ⟨d', hd'⟩ _ hframe
      cases hframe
      simp only [writeDepositReceipt, chain_ok, not_or, not_lt] at hd'
      exact hd'.1.2.2.2.2
    · intro htotal
      have hframe := htotal frame rfl
      refine ⟨.depositReceiptV2 { frame with base := args.settled frame.base }, ?_⟩
      simp only [writeDepositReceipt, chain_ok, not_or, not_lt]
      exact ⟨⟨rfl, rfl, rfl, UInt64.not_lt.mpr hle, hframe⟩, trivial⟩

section Applying

variable (hparse : parseDepositReceipt receipt.data = .ok state)
  (hlt : state.withdrawn < args.withdrawn)

include hparse hlt

/-- An update that moves the counter is one the receipt can pay. -/
theorem exists_applyTo_iff
    (hpayout : args.payoutLamports.toNat = args.withdrawn.toNat - state.withdrawn.toNat) :
    (∃ receipt', args.applyTo env receipt = some receipt') ↔
      CanPay env receipt args.balance.toNat state.withdrawn.toNat args.withdrawn.toNat := by
  have hlt' := UInt64.lt_iff_toNat_lt.mp hlt
  have hdup : ¬args.IsDuplicate state := by
    rintro ⟨-, hle⟩
    have := UInt64.le_iff_toNat_le.mp hle
    omega
  have hwrite := exists_writeDepositReceipt_iff hparse (UInt64.le_of_lt hlt)
  constructor
  · rintro ⟨receipt', happly⟩
    obtain ⟨state', hparse', h⟩ := applyTo_eq_some.mp happly
    obtain rfl : state' = state := Except.ok.inj (hparse'.symm.trans hparse)
    obtain ⟨hdup', -⟩ | ⟨-, hfits, d, hd, -⟩ := h
    · exact absurd hdup' hdup
    · refine ⟨?_, hwrite.mp ⟨d, hd⟩⟩
      have := hfits.funded
      omega
  · rintro ⟨hfunded, hdeposited⟩
    obtain ⟨d, hd⟩ := hwrite.mpr hdeposited
    refine ⟨_, applyTo_eq_some.mpr ⟨state, hparse, .inr ⟨hdup, ⟨?_, ?_⟩, d, hd, rfl⟩⟩⟩
    · omega
    · omega

/-- The receipt after an update that moves the counter. -/
theorem applyTo_moved (happly : args.applyTo env receipt = some receipt') :
    args.Fits env state receipt ∧ ∃ d,
      writeDepositReceipt receipt.data (args.settled state) = .ok d ∧
      receipt' = { receipt with
        lamports := receipt.lamports - args.payoutLamports, data := d } := by
  obtain ⟨state', hparse', h⟩ := applyTo_eq_some.mp happly
  obtain rfl : state' = state := Except.ok.inj (hparse'.symm.trans hparse)
  obtain ⟨⟨-, hle⟩, -⟩ | ⟨-, hfits, d, hd, rfl⟩ := h
  · exact absurd hlt (UInt64.not_lt.mpr hle)
  · exact ⟨hfits, d, hd, rfl⟩

theorem parse_of_applyTo (happly : args.applyTo env receipt = some receipt') :
    parseDepositReceipt receipt'.data = .ok (args.settled state) := by
  obtain ⟨-, d, hd, rfl⟩ := applyTo_moved hparse hlt happly
  exact parseDepositReceipt_of_write hparse hd

/-- What is left to pay after an update. -/
theorem canPay_applyTo
    (hpayout : args.payoutLamports.toNat = args.withdrawn.toNat - state.withdrawn.toNat)
    (happly : args.applyTo env receipt = some receipt') (hn : args.withdrawn.toNat ≤ n) :
    CanPay env receipt' balance args.withdrawn.toNat n ↔
      CanPay env receipt balance state.withdrawn.toNat n := by
  have hlt' := UInt64.lt_iff_toNat_lt.mp hlt
  obtain ⟨hfits, d, hd, rfl⟩ := applyTo_moved hparse hlt happly
  have hpaid : args.payoutLamports ≤ receipt.lamports := by
    rw [UInt64.le_iff_toNat_le]
    have := hfits.funded
    omega
  have hlamports := UInt64.toNat_sub_of_le _ _ hpaid
  have hpaid' := UInt64.le_iff_toNat_le.mp hpaid
  have hframes : (∀ frame, d = .depositReceiptV2 frame →
      balance + n ≤ frame.totalDeposited.toNat) ↔
        ∀ frame, receipt.data = .depositReceiptV2 frame →
          balance + n ≤ frame.totalDeposited.toNat := by
    cases hdata : receipt.data <;> rw [hdata] at hd <;>
      simp only [writeDepositReceipt, chain_ok, reduceCtorEq, Except.ok.injEq] at hd
    · rw [← hd]
      simp
    · rw [← hd.2]
      simp
  constructor
  · rintro ⟨hfunded, hdeposited⟩
    simp only [size_of_writeDepositReceipt hd, hlamports] at hfunded
    exact ⟨by omega, hframes.mp hdeposited⟩
  · rintro ⟨hfunded, hdeposited⟩
    refine ⟨?_, hframes.mpr hdeposited⟩
    simp only [size_of_writeDepositReceipt hd, hlamports]
    omega

end Applying

end Receipt

section Advances

variable {env : Env} {entry : ReceiptEntry} {key : Pubkey} {erSlot : UInt64} {checksum : Hash32}

/-- The arguments of the updates for a list of events. -/
def updateArgs (entry : ReceiptEntry) (key : Pubkey) (erSlot : UInt64) (checksum : Hash32)
    (current : Nat) (events : List WithdrawalPayoutEvent) : List SettleDepositReceipt :=
  (advances counter current events).map fun p =>
    ((entry.item key p.1 p.2).update erSlot checksum).args

/-- **A receipt takes the advances of its counter** exactly when it can pay for each. -/
theorem applyAll_advances (hparse : parseDepositReceipt receipt.data = .ok state)
    (events : List WithdrawalPayoutEvent) :
    (applyAll env receipt
        (updateArgs entry key erSlot checksum state.withdrawn.toNat events)).isSome ↔
      ∀ p ∈ advances counter state.withdrawn.toNat events,
        CanPay env receipt entry.erBalance.toNat state.withdrawn.toNat p.1.counter := by
  induction events generalizing receipt state with
  | nil => exact ⟨fun _ p hp => absurd hp List.not_mem_nil, fun _ => rfl⟩
  | cons event events ih =>
    by_cases hpassed : event.counter ≤ state.withdrawn.toNat
    · have hskip : advances counter state.withdrawn.toNat (event :: events) =
          advances counter state.withdrawn.toNat events := by
        rw [advances, if_pos hpassed]
      rw [updateArgs, hskip]
      exact ih hparse
    · have hmove : advances counter state.withdrawn.toNat (event :: events) =
          (event, event.counter - state.withdrawn.toNat) ::
            advances counter event.counter events := by
        rw [advances, if_neg hpassed]
      have hlt : state.withdrawn < event.cumulativeWithdrawn :=
        UInt64.lt_iff_toNat_lt.mpr (Nat.lt_of_not_le hpassed)
      have hpayout : (UInt64.ofNat (event.counter - state.withdrawn.toNat)).toNat =
          event.counter - state.withdrawn.toNat := by
        have hmem : (event, event.counter - state.withdrawn.toNat) ∈
            advances counter state.withdrawn.toNat (event :: events) := by
          rw [hmove]
          exact List.mem_cons_self
        exact toNat_payout hmem
      rw [updateArgs, hmove, List.map_cons, List.forall_mem_cons, Option.isSome_iff_exists]
      set args := ((entry.item key event (event.counter - state.withdrawn.toNat)).update erSlot
        checksum).args with hargs
      have hiff : (∃ receipt', args.applyTo env receipt = some receipt') ↔
          CanPay env receipt entry.erBalance.toNat state.withdrawn.toNat event.counter :=
        exists_applyTo_iff hparse hlt hpayout
      constructor
      · rintro ⟨last, hlast⟩
        obtain ⟨receipt', happly, hrest⟩ := applyAll_cons_eq_some.mp hlast
        refine ⟨hiff.mp ⟨receipt', happly⟩, fun p hp => ?_⟩
        have hp' := (lt_of_mem_advances hp).1
        have hparse' : parseDepositReceipt receipt'.data = .ok (args.settled state) :=
          parse_of_applyTo hparse hlt happly
        exact (canPay_applyTo hparse hlt hpayout happly hp'.le).mp
          ((ih hparse').mp (Option.isSome_of_mem hrest) p hp)
      · rintro ⟨hfirst, hrest⟩
        obtain ⟨receipt', happly⟩ := hiff.mpr hfirst
        have hparse' : parseDepositReceipt receipt'.data = .ok (args.settled state) :=
          parse_of_applyTo hparse hlt happly
        have htail := (ih hparse').mpr fun p hp => by
          have hp' := (lt_of_mem_advances hp).1
          exact (canPay_applyTo hparse hlt hpayout happly hp'.le).mpr (hrest p hp)
        obtain ⟨last, hlast⟩ := Option.isSome_iff_exists.mp htail
        exact ⟨last, applyAll_cons_eq_some.mpr ⟨receipt', happly, hlast⟩⟩

end Advances

/-! ## The updates of a settlement -/

instance : Std.Total fun a b : ReceiptBalanceSettlement => a.order ≤ b.order :=
  ⟨fun a b => le_total a.order b.order⟩

instance : IsTrans ReceiptBalanceSettlement fun a b => a.order ≤ b.order :=
  ⟨fun _ _ _ => le_trans⟩

section Updates

variable {session : Pubkey} {events : List WithdrawalPayoutEvent} {r : ReceiptEntry}

/-- What an entry says about its receipt. -/
theorem receiptEntries_spec (h : r ∈ receiptEntries node session) :
    ∃ state, parseDepositReceipt
        (node.l1AnchorBank (settlementReceiptKey node session r.erSource)).data = .ok state ∧
      state.recipient = r.erSource ∧ state.withdrawn = r.withdrawn := by
  obtain ⟨entry, -, h⟩ := List.mem_filterMap.mp h
  have hsource := receiptEntry_erSource h
  simp only [receiptEntry, bind, Option.bind_eq_some_iff, pure, toOption_eq_some] at h
  obtain ⟨_, -, _, -, state, hparse, _, hidentity, h⟩ := h
  rw [hsource]
  refine ⟨state, hparse, ?_, ?_⟩
  · unfold guard at hidentity
    split at hidentity
    · rename_i hsame
      exact hsame.2
    · cases hidentity
  · cases h
    rfl

/-- The updates of one receipt move its counter up. -/
theorem updatesOf_pairwise : (updatesOf node session events r).Pairwise
    fun a b => a.withdrawn.toNat < b.withdrawn.toNat := by
  rw [updatesOf_eq, List.pairwise_map]
  have hadvances : (advances counter r.withdrawn.toNat (Counters.covered amount
      r.netPayout.toNat (events.filter (·.erSource = r.erSource)))).Pairwise
        fun p q => p.1.counter < q.1.counter := advances_pairwise
  exact hadvances

theorem order_lt {a b : ReceiptBalanceSettlement} (hsource : a.erSource = b.erSource)
    (h : a.withdrawn.toNat < b.withdrawn.toNat) : a.order < b.order := by
  unfold ReceiptBalanceSettlement.order
  rw [hsource]
  exact List.Lex.cons (List.Lex.rel (List.Lex.rel h))

/-- **The updates of one receipt keep their order** in the sorted list of all updates. -/
theorem filter_settlementReceiptBalances (hr : r ∈ receiptEntries node session) :
    (settlementReceiptBalances node session).1.filter (·.erSource = r.erSource) =
      updatesOf node session (unsettledEvents (receiptEntries node session)
        node.withdrawalPayoutEvents) r := by
  set updates := updatesOf node session (unsettledEvents (receiptEntries node session)
    node.withdrawalPayoutEvents) r with hupdates
  have hperm : ((settlementReceiptBalances node session).1.filter
      (·.erSource = r.erSource)).Perm updates := by
    refine (updates_perm.filter _).trans (List.Perm.of_eq ?_)
    exact Groups.filter_flatMap nodup_receiptEntries
      (fun r _ item hitem => erSource_of_mem_updatesOf hitem) hr
  have hsorted : updates.Pairwise fun a b => a.order ≤ b.order := by
    refine updatesOf_pairwise.imp_of_mem fun ha hb hlt => le_of_lt (order_lt ?_ hlt)
    rw [erSource_of_mem_updatesOf ha, erSource_of_mem_updatesOf hb]
  refine List.Perm.eq_of_pairwise ?_
    ((List.pairwise_insertionSort _ _).sublist List.filter_sublist) hsorted hperm
  -- two updates of one receipt that compare equal have the same counter
  intro a b ha hb hab hba
  have hcounter : a.withdrawn.toNat = b.withdrawn.toNat := by
    have horder : a.order = b.order := le_antisymm hab hba
    unfold ReceiptBalanceSettlement.order at horder
    simp only [List.cons.injEq, and_true] at horder
    exact horder.2.1
  have hnodup : (updates.map fun item => item.withdrawn.toNat).Nodup := by
    rw [List.nodup_iff_pairwise_ne, List.pairwise_map]
    exact updatesOf_pairwise.imp fun hlt => hlt.ne
  exact List.inj_on_of_nodup_map hnodup (hperm.mem_iff.mp ha) hb hcounter

/-- **An event fits its receipt**: the receipt can pay it together with all that was recorded
before it, and keep its rent and what the source still holds. -/
def FitsEscrow (node : Node) (session : Pubkey) (r : ReceiptEntry)
    (event : WithdrawalPayoutEvent) : Prop :=
  CanPay node.env (node.l1AnchorBank (settlementReceiptKey node session r.erSource))
    r.erBalance.toNat r.withdrawn.toNat event.counter

/-- The unsettled events of a receipt that its net payout covers. -/
def coveredEvents (node : Node) (session : Pubkey) (r : ReceiptEntry) :
    List WithdrawalPayoutEvent :=
  Counters.covered amount r.netPayout.toNat
    ((unsettledEvents (receiptEntries node session) node.withdrawalPayoutEvents).filter
      (·.erSource = r.erSource))

/-- The updates of a receipt, applied one after another to its account. -/
def applyUpdates (node : Node) (session : Pubkey) (erSlot : UInt64) (checksum : Hash32)
    (r : ReceiptEntry) : Option Account :=
  applyAll node.env (node.l1AnchorBank (settlementReceiptKey node session r.erSource))
    (((settlementReceiptBalances node session).1.filter (·.erSource = r.erSource)).map
      fun item => (item.update erSlot checksum).args)

theorem applyUpdates_isSome_iff (hr : r ∈ receiptEntries node session) {erSlot : UInt64}
    {checksum : Hash32} : (applyUpdates node session erSlot checksum r).isSome ↔
      ∀ event ∈ coveredEvents node session r, FitsEscrow node session r event := by
  obtain ⟨state, hparse, -, hwithdrawn⟩ := receiptEntries_spec hr
  have hargs : (((settlementReceiptBalances node session).1.filter
      (·.erSource = r.erSource)).map fun item => (item.update erSlot checksum).args) =
        updateArgs r (settlementReceiptKey node session r.erSource) erSlot checksum
          state.withdrawn.toNat (coveredEvents node session r) := by
    rw [filter_settlementReceiptBalances hr, updatesOf_eq, List.map_map, hwithdrawn]
    rfl
  rw [applyUpdates, hargs, applyAll_advances hparse, hwithdrawn]
  refine (forall_advances (P := CanPay node.env
    (node.l1AnchorBank (settlementReceiptKey node session r.erSource)) r.erBalance.toNat
    r.withdrawn.toNat) fun m n hmn h => h.mono hmn).trans ?_
  -- every unsettled event lies beyond the counter of its receipt
  refine forall₂_congr fun event hevent => ⟨fun h => h ?_, fun h _ => h⟩
  have hmem := covered_sublist.subset hevent
  rw [List.mem_filter, decide_eq_true_iff] at hmem
  have hunsettled := (List.mem_filter.mp hmem.1).2
  exact UInt64.lt_iff_toNat_lt.mp ((isUnsettled_iff nodup_receiptEntries hr hmem.2).mp hunsettled)

/-- The accounts that the updates move lamports between. -/
def payoutAccounts (items : List ReceiptBalanceSettlement) : Finset Pubkey :=
  (items.flatMap fun item => [item.receipt, item.l1Recipient]).toFinset

/-- **Portal is ready for the updates**: their settlement is under way, the receipts are
Portal's own records of the session, and there are fewer than 2⁶³ lamports. -/
structure SettlementOpen (node : Node) (validator : Pubkey) (erSlot : UInt64)
    (checksum : Hash32) : Prop where
  lawful : node.env.Lawful
  settling : ∃ s, sessionOf node.env node.l1AnchorBank = some s ∧ validator = s.validator ∧
    s.settlementStatus = .inProgress ∧ erSlot = s.settlementErSlot ∧
    checksum = s.settlementChecksum
  named : ∀ r ∈ receiptEntries node (node.env.address .session), ∃ state,
    NamesReceipt node.env node.l1AnchorBank
      (settlementReceiptKey node (node.env.address .session) r.erSource) r.erSource state
  supply : node.l1AnchorBank.total
    (payoutAccounts (settlementReceiptBalances node (node.env.address .session)).1) < 2 ^ 63

/-- An update is one of a receipt. -/
theorem mem_settlementReceiptBalances (h : item ∈ (settlementReceiptBalances node session).1) :
    ∃ r ∈ receiptEntries node session, item.erSource = r.erSource ∧
      item.receipt = settlementReceiptKey node session r.erSource := by
  obtain ⟨r, hr, hitem⟩ := List.mem_flatMap.mp (updates_perm.mem_iff.mp h)
  refine ⟨r, hr, erSource_of_mem_updatesOf hitem, ?_⟩
  rw [updatesOf_eq] at hitem
  obtain ⟨p, -, rfl⟩ := List.mem_map.mp hitem
  rfl

/-- Entries with the same receipt have the same source. -/
theorem erSource_of_receipt (hr : r ∈ receiptEntries node session)
    (hr' : r' ∈ receiptEntries node session) (h : settlementReceiptKey node session r.erSource =
      settlementReceiptKey node session r'.erSource) : r.erSource = r'.erSource := by
  obtain ⟨state, hparse, hrecipient, -⟩ := receiptEntries_spec hr
  obtain ⟨state', hparse', hrecipient', -⟩ := receiptEntries_spec hr'
  rw [h, hparse'] at hparse
  cases hparse
  rw [← hrecipient, ← hrecipient']

theorem updatesReady {validator : Pubkey} {erSlot : UInt64} {checksum : Hash32}
    (hopen : SettlementOpen node validator erSlot checksum)
    (h : ∀ r ∈ receiptEntries node (node.env.address .session),
      (applyUpdates node (node.env.address .session) erSlot checksum r).isSome) :
    UpdatesReady node.env node.l1AnchorBank validator
      (payoutAccounts (settlementReceiptBalances node (node.env.address .session)).1)
      node.l1AnchorBank
      ((settlementReceiptBalances node (node.env.address .session)).1.map
        (·.update erSlot checksum)) := by
  set items := (settlementReceiptBalances node (node.env.address .session)).1 with hitems
  obtain ⟨s, hload, hvalidator, hstatus, hslot, hchecksum⟩ := hopen.settling
  refine
    { settling := ⟨s, hload, hvalidator, hstatus, fun u hu => ?_⟩
      named := fun u hu => ?_
      data := fun _ _ => rfl
      lamports := fun _ _ => UInt64.le_refl _
      applies := fun a => ?_
      mem := fun u hu => ?_
      supply := hopen.supply }
  · obtain ⟨item, -, rfl⟩ := List.mem_map.mp hu
    exact ⟨hslot, hchecksum⟩
  · obtain ⟨item, hitem, rfl⟩ := List.mem_map.mp hu
    obtain ⟨r, hr, hsource, hreceipt⟩ := mem_settlementReceiptBalances hitem
    show ∃ state, NamesReceipt node.env node.l1AnchorBank item.receipt item.erSource state
    rw [hsource, hreceipt]
    exact hopen.named r hr
  · -- an address is the receipt of at most one source
    have hargs : ((items.map (·.update erSlot checksum)).filter (·.receipt = a)).map (·.args) =
        (items.filter (·.receipt = a)).map fun item => (item.update erSlot checksum).args := by
      rw [List.filter_map, List.map_map]
      rfl
    rw [hargs]
    by_cases ha : ∃ r ∈ receiptEntries node (node.env.address .session),
        settlementReceiptKey node (node.env.address .session) r.erSource = a
    · obtain ⟨r, hr, rfl⟩ := ha
      have hfilter : items.filter (·.receipt =
          settlementReceiptKey node (node.env.address .session) r.erSource) =
            items.filter (·.erSource = r.erSource) := by
        refine List.filter_congr fun item hitem => ?_
        obtain ⟨r', hr', hsource, hreceipt⟩ := mem_settlementReceiptBalances hitem
        rw [hsource, hreceipt]
        by_cases heq : r'.erSource = r.erSource
        · simp [heq]
        · have hne : settlementReceiptKey node (node.env.address .session) r'.erSource ≠
              settlementReceiptKey node (node.env.address .session) r.erSource :=
            fun hkey => heq (erSource_of_receipt hr' hr hkey)
          simp [heq, hne]
      rw [hfilter]
      exact h r hr
    · have hnone : items.filter (·.receipt = a) = [] := by
        refine List.filter_eq_nil_iff.mpr fun item hitem hkey => ha ?_
        obtain ⟨r, hr, -, hreceipt⟩ := mem_settlementReceiptBalances hitem
        rw [decide_eq_true_iff, hreceipt] at hkey
        exact ⟨r, hr, hkey⟩
      rw [hnone]
      rfl
  · obtain ⟨item, hitem, rfl⟩ := List.mem_map.mp hu
    constructor
    · exact List.mem_toFinset.mpr (List.mem_flatMap.mpr
        ⟨item, hitem, by simp [ReceiptBalanceSettlement.update]⟩)
    · exact List.mem_toFinset.mpr (List.mem_flatMap.mpr
        ⟨item, hitem, by simp [ReceiptBalanceSettlement.update]⟩)

/-- **Updates of receipts are executable** exactly when every event that the net payout of
its source covers fits the receipt together with all that was recorded before it; and then
Portal accepts them in order. The updates of a receipt pay its covered events, each its own
lamports to its own recipient, exactly when these continue the counter of the receipt one after
another. -/
theorem receipt_settlements_executable (node : Node) (erSlot : UInt64) (checksum : Hash32) :
    let session := node.env.address .session
    (∀ r ∈ receiptEntries node session,
      ((applyUpdates node session erSlot checksum r).isSome ↔
        ∀ event ∈ coveredEvents node session r, FitsEscrow node session r event) ∧
      (((settlementReceiptBalances node session).1.filter (·.erSource = r.erSource)).map
          (·.payment) = (coveredEvents node session r).map (·.payment) ↔
        Contiguous amount counter r.withdrawn.toNat (coveredEvents node session r))) ∧
    ((∀ r ∈ receiptEntries node session, ∀ event ∈ coveredEvents node session r,
        FitsEscrow node session r event) →
      ∀ slot validator, SettlementOpen node validator erSlot checksum →
        ∃ L', settleAll node.env ((settlementReceiptBalances node session).1.map
          fun item => (item.update erSlot checksum).call slot validator session)
          node.l1AnchorBank = .ok L') := by
  intro session
  refine ⟨fun r hr => ⟨applyUpdates_isSome_iff hr, ?_⟩, fun hfits slot validator hopen => ?_⟩
  · rw [filter_settlementReceiptBalances hr]
    exact payments_updatesOf_iff
  · obtain ⟨L', hL'⟩ := exists_settleAll_updates hopen.lawful slot
      (updatesReady hopen fun r hr => (applyUpdates_isSome_iff hr).mpr (hfits r hr))
    rw [List.map_map] at hL'
    exact ⟨L', hL'⟩

end Updates

/-! ## Updates on the local deployment -/

/-- How a call fails, if it does. -/
def failureOf (result : Except ProgramError Ledger) : Option ProgramError :=
  match result with
  | .error e => some e
  | .ok _ => none

theorem localSource_named : NamesReceipt localnet localReceiptBank
    (settlementReceiptKey (localNode 88 localTwoSlots) (localnet.address .session) localSource)
    localSource
    { session := localnet.address .session
      recipient := localSource
      balance := 100
      withdrawn := 0
      bump := 255 } where
  context := ⟨none, by decide +kernel, by decide +kernel, rfl, rfl⟩
  owner := by decide +kernel
  parsed := by decide +kernel
  session := rfl
  recipient := rfl

/-- The withdrawals of two slots are accepted by Portal, and each is paid its own lamports. -/
theorem receipt_settlements_executable_two_slots :
    (((settlementReceiptBalances (localNode 88 localTwoSlots) (localnet.address .session)).1.filter
      (·.erSource = localSource)).map (·.payment) = (coveredEvents (localNode 88 localTwoSlots)
        (localnet.address .session) ⟨localSource, 88, 100, 0⟩).map (·.payment)) ∧
    ∃ L', settleAll localnet ((settlementReceiptBalances (localNode 88 localTwoSlots)
      (localnet.address .session)).1.map fun item =>
        (item.update 7 zero32).call 140 (tagged 21 []) (localnet.address .session))
      localReceiptBank = .ok L' := by
  have hentries : receiptEntries (localNode 88 localTwoSlots) (localnet.address .session) =
      [⟨localSource, 88, 100, 0⟩] := by decide +kernel
  obtain ⟨hreceipts, haccepts⟩ := receipt_settlements_executable (localNode 88 localTwoSlots) 7
    zero32
  refine ⟨(hreceipts ⟨localSource, 88, 100, 0⟩ ?_).2.mpr (by decide +kernel),
    haccepts ?_ 140 (tagged 21 []) ?_⟩
  · show _ ∈ receiptEntries (localNode 88 localTwoSlots) (localnet.address .session)
    rw [hentries]
    exact List.mem_singleton_self _
  · intro r hr event hevent
    have hr : r ∈ receiptEntries (localNode 88 localTwoSlots) (localnet.address .session) := hr
    rw [hentries, List.mem_singleton] at hr
    subst hr
    have hcounters : ∀ event ∈ coveredEvents (localNode 88 localTwoSlots)
        (localnet.address .session) ⟨localSource, 88, 100, 0⟩, event.counter ≤ 12 := by
      decide +kernel
    have hdata : (localReceiptBank (settlementReceiptKey (localNode 88 localTwoSlots)
        (localnet.address .session) localSource)).data = .depositReceipt
          ⟨localnet.address .session, localSource, 100, 0, 255⟩ := by decide +kernel
    have hcan : CanPay localnet (localReceiptBank (settlementReceiptKey
        (localNode 88 localTwoSlots) (localnet.address .session) localSource)) 88 0 12 :=
      ⟨by decide +kernel, fun frame hframe => by rw [hdata] at hframe; cases hframe⟩
    exact hcan.mono (hcounters event hevent)
  · refine ⟨localnet_lawful, ⟨localSettlingSession, ?_, rfl, rfl, rfl, rfl⟩, ?_, ?_⟩
    · decide +kernel
    · intro r hr
      have hr : r ∈ receiptEntries (localNode 88 localTwoSlots) (localnet.address .session) := hr
      rw [hentries, List.mem_singleton] at hr
      subst hr
      exact ⟨_, localSource_named⟩
    · decide +kernel

/-- The source withdraws 50 lamports, receives 40 in the rollup and withdraws 30 more. -/
def localStale : List WithdrawalPayoutEvent :=
  localRecord 2 (localRecord 1 [] [localWithdrawal 9 (tagged 40 []) 50])
    [localWithdrawal 3 (tagged 41 []) 30]

/-- **A stale withdrawal enlarges a later payout and wedges the settlement**: the net payout of
40 lamports does not cover the first withdrawal, but the update for the second one, of 30
lamports, still asks for both, more than the receipt holds. -/
theorem stale_withdrawal_wedges_settlement :
    (coveredEvents (localNode 60 localStale) (localnet.address .session)
      ⟨localSource, 60, 100, 0⟩).map (·.payment) = [(localSource, tagged 41 [], 30)] ∧
    (settlementReceiptBalances (localNode 60 localStale) (localnet.address .session)).1 =
      [{ receipt := (findReceiptPda localnet none (localnet.address .session) localSource).1
         erSource := localSource
         l1Recipient := tagged 41 []
         balance := 60
         withdrawn := 80
         payoutLamports := 80 }] ∧
    ¬(∀ r ∈ receiptEntries (localNode 60 localStale) (localnet.address .session),
      (applyUpdates (localNode 60 localStale) (localnet.address .session) 7 zero32 r).isSome) ∧
    failureOf (settleAll localnet ((settlementReceiptBalances (localNode 60 localStale)
      (localnet.address .session)).1.map fun item =>
        (item.update 7 zero32).call 140 (tagged 21 []) (localnet.address .session))
      localReceiptBank) = some PortalError.insufficientFees := by
  refine ⟨?_, ?_, ?_, ?_⟩
  · decide +kernel
  · decide +kernel
  · decide +kernel
  · decide +kernel

end Northstar.Runtime
