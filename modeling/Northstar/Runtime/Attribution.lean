import Northstar.Runtime.Withdrawals
import Northstar.Settle.Lamports

/-!
# Whom the updates of receipts pay

Each update of a receipt pays the recipient of one event the distance its counter moves.
This file says exactly when every recipient gets the lamports of their own events: the
events of a source have to be processed in the order their counters were handed out, and
the net payout of the source has to cover them. Events of one slot are processed by the
text of their signatures, which need not be that order.

## Main results

* `withdrawals_attributed`: the updates pay the unsettled events exactly when those are in
  order
-/

namespace Northstar.Runtime

open Northstar.Portal Bytes Checked Counters WithdrawalPayoutEvent

/-- Source, recipient and lamports of an update. -/
def ReceiptBalanceSettlement.payment (item : ReceiptBalanceSettlement) : Pubkey × Pubkey × UInt64 :=
  (item.erSource, item.l1Recipient, item.payoutLamports)

/-- Source, recipient and lamports of an event. -/
def WithdrawalPayoutEvent.payment (event : WithdrawalPayoutEvent) : Pubkey × Pubkey × UInt64 :=
  (event.erSource, event.l1Recipient, event.lamports)

/-- **Events in order**: each has a receipt, and those of one source continue the counter of
its receipt one after another and are covered by its net payout. -/
structure InOrder (receipts : List ReceiptEntry) (events : List WithdrawalPayoutEvent) : Prop where
  receipt : ∀ event ∈ events, ∃ r ∈ receipts, r.erSource = event.erSource
  contiguous : ∀ r ∈ receipts, Contiguous amount counter r.withdrawn.toNat
    (events.filter (·.erSource = r.erSource))
  covered : ∀ r ∈ receipts,
    ((events.filter (·.erSource = r.erSource)).map amount).sum ≤ r.netPayout.toNat

/-- The updates of one receipt for the events to settle. -/
def updatesOf (node : Node) (session : Pubkey) (events : List WithdrawalPayoutEvent)
    (r : ReceiptEntry) : List ReceiptBalanceSettlement :=
  (receiptPayouts (settlementReceiptKey node session r.erSource) r r.withdrawn r.netPayout
    (events.filter (·.erSource = r.erSource))).1

section Attribution

variable {node : Node} {session : Pubkey} {events : List WithdrawalPayoutEvent} {r : ReceiptEntry}
  {receipts : List ReceiptEntry} {log : List WithdrawalPayoutEvent}

theorem updatesOf_eq : updatesOf node session events r =
    (advances counter r.withdrawn.toNat (Counters.covered amount r.netPayout.toNat
      (events.filter (·.erSource = r.erSource)))).map
        fun p => r.item (settlementReceiptKey node session r.erSource) p.1 p.2 :=
  receiptPayouts_eq _ _ _ _ _

theorem erSource_of_mem_updatesOf (h : item ∈ updatesOf node session events r) :
    item.erSource = r.erSource := by
  rw [updatesOf_eq] at h
  obtain ⟨p, -, rfl⟩ := List.mem_map.mp h
  rfl

/-- The updates of a settlement, receipt by receipt. -/
theorem updates_perm : (settlementReceiptBalances node session).1.Perm
    ((receiptEntries node session).flatMap (updatesOf node session
      (unsettledEvents (receiptEntries node session) node.withdrawalPayoutEvents))) := by
  refine (List.perm_insertionSort _ _).trans (List.Perm.of_eq ?_)
  rw [allPayouts, List.flatMap_map]
  rfl

/-- The lamports that the updates of one receipt pay. -/
theorem payouts_updatesOf : (updatesOf node session events r).map (·.payoutLamports.toNat) =
    (advances counter r.withdrawn.toNat (Counters.covered amount r.netPayout.toNat
      (events.filter (·.erSource = r.erSource)))).map Prod.snd := by
  rw [updatesOf_eq, List.map_map]
  refine List.map_congr_left fun p hp => ?_
  exact toNat_payout hp

/-- **The covered events of a receipt are paid by its updates**, each its own lamports, exactly
when they continue its counter one after another. -/
theorem payments_updatesOf_iff : (updatesOf node session events r).map (·.payment) =
      (Counters.covered amount r.netPayout.toNat (events.filter (·.erSource = r.erSource))).map
        (·.payment) ↔
    Contiguous amount counter r.withdrawn.toNat
      (Counters.covered amount r.netPayout.toNat (events.filter (·.erSource = r.erSource))) := by
  constructor
  · intro h
    have hlamports := congrArg (List.map fun payment => payment.2.2.toNat) h
    rw [List.map_map, List.map_map] at hlamports
    exact map_snd_advances_iff.mp (payouts_updatesOf.symm.trans hlamports)
  · intro h
    rw [updatesOf_eq, advances_of_contiguous h, List.map_map, List.map_map]
    refine List.map_congr_left fun event hevent => ?_
    have hsource : event.erSource = r.erSource :=
      of_decide_eq_true (List.mem_filter.mp (covered_sublist.subset hevent)).2
    show (r.erSource, event.l1Recipient, UInt64.ofNat event.lamports.toNat) = event.payment
    rw [UInt64.ofNat_toNat, ← hsource]
    rfl

/-- Events in order are paid by the updates of their receipt. -/
theorem payments_of_inOrder (h : InOrder receipts events) (hr : r ∈ receipts) :
    (updatesOf node session events r).map (·.payment) =
      (events.filter (·.erSource = r.erSource)).map (·.payment) := by
  have hcovered := covered_eq_self_iff.mpr (h.covered r hr)
  refine (payments_updatesOf_iff.mpr ?_).trans (by rw [hcovered])
  rw [hcovered]
  exact h.contiguous r hr

/-- The unsettled events of one source keep apart. -/
theorem apart_of_chronological (h : HandedOut log) (source : Pubkey) :
    ((unsettledEvents receipts log).filter (·.erSource = source)).Pairwise
      fun a b => a.counter + b.amount ≤ b.counter ∨ b.counter + a.amount ≤ a.counter := by
  obtain ⟨order, hperm, hpairwise⟩ := h
  have hsymm : order.Pairwise fun a b => a.erSource = b.erSource →
      a.counter + b.amount ≤ b.counter ∨ b.counter + a.amount ≤ a.counter :=
    hpairwise.imp fun hab hsource => .inl (hab hsource)
  have hsorted : (log.insertionSort fun a b => a.order ≤ b.order).Pairwise fun a b =>
      a.erSource = b.erSource →
        a.counter + b.amount ≤ b.counter ∨ b.counter + a.amount ≤ a.counter := by
    refine (List.Perm.pairwise_iff ?_ (hperm.trans (List.perm_insertionSort _ _).symm)).mp hsymm
    intro a b hab hsource
    exact (hab hsource.symm).symm
  refine ((hsorted.sublist List.filter_sublist).sublist List.filter_sublist).imp_of_mem ?_
  intro a b ha hb hab
  have ha : a.erSource = source := of_decide_eq_true (List.mem_filter.mp ha).2
  have hb : b.erSource = source := of_decide_eq_true (List.mem_filter.mp hb).2
  exact hab (ha.trans hb.symm)

/-- What the updates of one receipt pay, when all updates together pay the events. -/
theorem payments_perm_of_perm (hnodup : (receipts.map (·.erSource)).Nodup) (hr : r ∈ receipts)
    (h : ((receipts.flatMap (updatesOf node session events)).map (·.payment)).Perm (events.map
      (·.payment))) :
    ((updatesOf node session events r).map (·.payment)).Perm
      ((events.filter (·.erSource = r.erSource)).map (·.payment)) := by
  have hfilter := h.filter (fun payment => decide (payment.1 = r.erSource))
  rw [List.filter_map, List.filter_map] at hfilter
  have hgroup : (receipts.flatMap (updatesOf node session events)).filter
      (fun item => decide (item.erSource = r.erSource)) = updatesOf node session events r :=
    Groups.filter_flatMap hnodup (fun r _ item hitem => erSource_of_mem_updatesOf hitem) hr
  rw [← hgroup]
  exact hfilter

/-- Events that are paid are in order. -/
theorem inOrder_of_perm (hnodup : (receipts.map (·.erSource)).Nodup)
    (hchron : Chronological receipts log)
    (h : ((receipts.flatMap (updatesOf node session (unsettledEvents receipts log))).map
      (·.payment)).Perm ((unsettledEvents receipts log).map (·.payment))) :
    InOrder receipts (unsettledEvents receipts log) := by
  have hboth : ∀ r ∈ receipts,
      Contiguous amount counter r.withdrawn.toNat
        ((unsettledEvents receipts log).filter (·.erSource = r.erSource)) ∧
      (((unsettledEvents receipts log).filter (·.erSource = r.erSource)).map amount).sum ≤
        r.netPayout.toNat := by
    intro r hr
    have hpaid := payments_perm_of_perm hnodup hr h
    set es := (unsettledEvents receipts log).filter (·.erSource = r.erSource) with hes
    -- as many updates as events, so every event is covered and advances the counter
    have hlength := hpaid.length_eq
    rw [List.length_map, List.length_map, updatesOf_eq, List.length_map, ← hes] at hlength
    have hcovered : Counters.covered amount r.netPayout.toNat es = es := by
      refine covered_sublist.eq_of_length_le ?_
      rw [← hlength]
      exact advances_length_le
    rw [hcovered] at hlength
    refine ⟨?_, covered_eq_self_iff.mp hcovered⟩
    have hspaced : Spaced amount counter r.withdrawn.toNat es := by
      refine spaced_of_pairwise (fun event hevent hlt => ?_)
        (apart_of_chronological hchron.handedOut _) hlength
      rw [hes, List.mem_filter, decide_eq_true_iff] at hevent
      have hlog : event ∈ log :=
        (List.perm_insertionSort _ _).mem_iff.mp (List.mem_filter.mp hevent.1).1
      exact hchron.between r hr event hlog hevent.2 (UInt64.lt_iff_toNat_lt.mpr hlt)
    refine contiguous_of_advances hspaced hlength (le_of_eq ?_)
    have hsum := (hpaid.map fun payment => payment.2.2.toNat).sum_eq
    rw [List.map_map, List.map_map] at hsum
    have hupdates : ((updatesOf node session (unsettledEvents receipts log) r).map
        (·.payoutLamports.toNat)).sum =
          ((advances counter r.withdrawn.toNat es).map Prod.snd).sum := by
      rw [payouts_updatesOf, ← hes, hcovered]
    rw [← hupdates]
    exact hsum
  refine ⟨fun event hevent => ?_, fun r hr => (hboth r hr).1, fun r hr => (hboth r hr).2⟩
  -- the payment of an event is that of an update, whose receipt has the source
  obtain ⟨item, hitem, hpayment⟩ := List.mem_map.mp (h.mem_iff.mpr (List.mem_map_of_mem hevent))
  obtain ⟨r, hr, hitem⟩ := List.mem_flatMap.mp hitem
  refine ⟨r, hr, ?_⟩
  rw [← erSource_of_mem_updatesOf hitem]
  exact congrArg Prod.fst hpayment

/-- **Attribution of withdrawals**: with chronological counters, the updates of the receipts
pay the unsettled events, each its own recipient its own lamports, exactly when the events
are in order. -/
theorem withdrawals_attributed (node : Node) (session : Pubkey)
    (hchron : Chronological (receiptEntries node session) node.withdrawalPayoutEvents) :
    let events := unsettledEvents (receiptEntries node session) node.withdrawalPayoutEvents
    let items := (settlementReceiptBalances node session).1
    ((items.map (·.payment)).Perm (events.map (·.payment)) ↔
        InOrder (receiptEntries node session) events) ∧
      (InOrder (receiptEntries node session) events → ∀ recipient,
        ((items.filter (·.l1Recipient = recipient)).map (·.payoutLamports.toNat)).sum =
          ((events.filter (·.l1Recipient = recipient)).map (·.lamports.toNat)).sum) := by
  intro events items
  have hpaid (horder : InOrder (receiptEntries node session) events) :
      (items.map (·.payment)).Perm (events.map (·.payment)) := by
    refine (updates_perm.map _).trans ?_
    rw [List.map_flatMap]
    have hgroups : ((receiptEntries node session).flatMap fun r =>
        (events.filter (·.erSource = r.erSource)).map (·.payment)).Perm
          (events.map (·.payment)) := by
      rw [← List.map_flatMap]
      exact (Groups.flatMap_filter_perm nodup_receiptEntries horder.receipt).map _
    refine List.Perm.trans (List.Perm.of_eq ?_) hgroups
    exact List.flatMap_congr fun r hr => payments_of_inOrder horder hr
  refine ⟨⟨fun h => ?_, hpaid⟩, fun horder recipient => ?_⟩
  · exact inOrder_of_perm nodup_receiptEntries hchron ((updates_perm.map _).symm.trans h)
  · have hfilter := ((hpaid horder).filter fun payment => payment.2.1 = recipient).map
      fun payment => payment.2.2.toNat
    rw [List.filter_map, List.filter_map, List.map_map, List.map_map] at hfilter
    exact hfilter.sum_eq

end Attribution

/-! ## Withdrawals on the local deployment -/

/-- The source of the withdrawals. -/
def localSource : Pubkey := tagged 31 []

/-- Its receipt holds 100 lamports beyond rent, and a settlement is under way. -/
def localReceiptBank : Ledger := fun a =>
  if a = (findReceiptPda localnet none (localnet.address .session) localSource).1 then
    ⟨1100, localnet.programId, false, .depositReceipt
      { session := localnet.address .session
        recipient := localSource
        balance := 100
        withdrawn := 0
        bump := 255 }⟩
  else localSettling a

/-- A node that holds `balance` lamports of the source. -/
def localNode (balance : UInt64) (log : List WithdrawalPayoutEvent) : Node where
  env := localnet
  l1AnchorBank := localReceiptBank
  delegatedAccounts := []
  erAccountOverlay :=
    { entries := [(localSource, ⟨balance, systemProgramId, false, .empty⟩)]
      nodup := List.nodup_singleton _ }
  sessionContext := none
  sessionPda := some (localnet.address .session)
  withdrawalPayoutEvents := log
  active := true

/-- The source withdraws to `recipient` in a transaction with this signature. -/
def localWithdrawal (signature : UInt8) (recipient : Pubkey) (lamports : UInt64) :
    ExecutedTransaction where
  signatures := [Vector.replicate 64 signature]
  accountKeys := [localSource, recipient, withdrawalSink, systemProgramId, clockSysvarId,
    localnet.programId]
  numRequiredSignatures := 1
  instructions := [⟨5, [0, 1, 2, 3, 4], 13 :: le64 lamports⟩]
  innerInstructions := some [[⟨3, [0, 2], le32 2 ++ le64 lamports⟩]]
  succeeded := true

/-- The log after a batch at `slot`. -/
def localRecord (slot : UInt64) (log : List WithdrawalPayoutEvent)
    (txs : List ExecutedTransaction) : List WithdrawalPayoutEvent :=
  recordWithdrawalPayoutEventsForBatch (localNode 0 log) localReceiptBank slot txs

/-- Withdrawals in two slots: 5 lamports to wallet 40, then 7 to wallet 41. -/
def localTwoSlots : List WithdrawalPayoutEvent :=
  localRecord 2 (localRecord 1 [] [localWithdrawal 9 (tagged 40 []) 5])
    [localWithdrawal 3 (tagged 41 []) 7]

/-- The same withdrawals in one slot; the text of the second signature comes first. -/
def localOneSlot : List WithdrawalPayoutEvent :=
  localRecord 1 [] [localWithdrawal 9 (tagged 40 []) 5, localWithdrawal 3 (tagged 41 []) 7]

theorem handedOut_nil : HandedOut [] := ⟨[], List.Perm.refl _, List.Pairwise.nil⟩

theorem handedOut_localRecord (h : HandedOut log) : HandedOut (localRecord slot log txs) :=
  chronological_record (localNode 0 log) localReceiptBank slot txs h

/-- Both recipients are paid what they withdrew. -/
theorem withdrawals_attributed_two_slots :
    ((settlementReceiptBalances (localNode 88 localTwoSlots)
      (localnet.address .session)).1.map (·.payment)).Perm
        [(localSource, tagged 40 [], 5), (localSource, tagged 41 [], 7)] := by
  have hchron : Chronological
      (receiptEntries (localNode 88 localTwoSlots) (localnet.address .session))
      localTwoSlots :=
    ⟨handedOut_localRecord (handedOut_localRecord handedOut_nil), by decide +kernel⟩
  have horder : InOrder (receiptEntries (localNode 88 localTwoSlots) (localnet.address .session))
      (unsettledEvents (receiptEntries (localNode 88 localTwoSlots) (localnet.address .session))
        localTwoSlots) :=
    ⟨by decide +kernel, by decide +kernel, by decide +kernel⟩
  have hpaid := (withdrawals_attributed (localNode 88 localTwoSlots) _ hchron).1.mpr horder
  have hevents : (unsettledEvents (receiptEntries (localNode 88 localTwoSlots)
      (localnet.address .session)) localTwoSlots).map (·.payment) =
        [(localSource, tagged 40 [], 5), (localSource, tagged 41 [], 7)] := by decide +kernel
  exact hevents ▸ hpaid

/-- **Withdrawals of one slot may be paid to the wrong recipient**: the second withdrawal is
processed first and takes the lamports of both. -/
theorem one_slot_withdrawals_misattributed :
    Chronological (receiptEntries (localNode 88 localOneSlot) (localnet.address .session))
      localOneSlot ∧
    (unsettledEvents (receiptEntries (localNode 88 localOneSlot) (localnet.address .session))
      localOneSlot).map (·.payment) =
        [(localSource, tagged 41 [], 7), (localSource, tagged 40 [], 5)] ∧
    (settlementReceiptBalances (localNode 88 localOneSlot)
      (localnet.address .session)).1.map (·.payment) = [(localSource, tagged 41 [], 12)] ∧
    ¬((settlementReceiptBalances (localNode 88 localOneSlot)
      (localnet.address .session)).1.map (·.payment)).Perm
        ((unsettledEvents (receiptEntries (localNode 88 localOneSlot) (localnet.address .session))
          localOneSlot).map (·.payment)) := by
  refine ⟨⟨handedOut_localRecord handedOut_nil, ?_⟩, ?_, ?_, ?_⟩
  · decide +kernel
  · decide +kernel
  · decide +kernel
  · decide +kernel

end Northstar.Runtime
