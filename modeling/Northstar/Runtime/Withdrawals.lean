import Mathlib.Data.List.Sort
import Mathlib.Order.Lex
import Northstar.Lib.Counters
import Northstar.Lib.Groups
import Northstar.Portal.Deposits

/-!
# Withdrawals recorded by the validator

The validator records every withdrawal its rollup executes, with the amount and with the
value its source's counter of withdrawn lamports has after it. A settlement turns the
recorded events into updates of deposit receipts: it sorts the events, drops those the net
decrease of the source's balance does not cover, and pays for each of the others what the
counter moves by.

## Main results

* `receiptPayouts_eq`: the updates of one receipt are the advances of its counter
* `chronological_record`: recording keeps the counters chronological
-/

namespace Northstar.Runtime

open Northstar.Portal Bytes Checked

/-! ## Signatures -/

abbrev Signature := Vector UInt8 64

def base58Alphabet : List UInt8 :=
  ascii "123456789ABCDEFGHJKLMNPQRSTUVWXYZabcdefghijkmnopqrstuvwxyz"

/-- The digits of `n` in base 58, the first one first. -/
def base58Digits : (fuel n : Nat) → List UInt8
  | 0, _ => []
  | fuel + 1, n =>
    if n = 0 then [] else base58Digits fuel (n / 58) ++ [base58Alphabet.getD (n % 58) 0]

/-- A signature as text. -/
def signatureText (signature : Signature) : List UInt8 :=
  List.replicate (signature.toList.takeWhile (· = 0)).length (base58Alphabet.headD 0) ++
    base58Digits 88 (signature.toList.foldl (fun n b => n * 256 + b.toNat) 0)

/-! ## Recorded events -/

structure WithdrawalPayoutEvent where
  erSource : Pubkey
  l1Recipient : Pubkey
  lamports : UInt64
  /-- The counter of the source after this event. -/
  cumulativeWithdrawn : UInt64
  signature : Signature
  erSlot : UInt64
  deriving DecidableEq

/-- An instruction of a transaction; accounts are indices into its keys. -/
structure CompiledInstruction where
  programIdIndex : UInt8
  accounts : List UInt8
  data : List UInt8

/-- A transaction of a batch and how its execution ended. -/
structure ExecutedTransaction where
  signatures : List Signature
  /-- Its account keys, loaded addresses included. -/
  accountKeys : List Pubkey
  numRequiredSignatures : Nat
  instructions : List CompiledInstruction
  /-- The instructions each instruction called. -/
  innerInstructions : Option (List (List CompiledInstruction))
  succeeded : Bool

def ExecutedTransaction.key (tx : ExecutedTransaction) (index : UInt8) : Option Pubkey :=
  tx.accountKeys[index.toNat]?

/-- The key of the account an instruction names at `place`. -/
def ExecutedTransaction.account (tx : ExecutedTransaction) (ix : CompiledInstruction)
    (place : Nat) : Option Pubkey :=
  ix.accounts[place]?.bind tx.key

def systemTransferLamports (data : List UInt8) : Option UInt64 :=
  if data.length = 12 ∧ Reader.value (bytesAt data 0 4) = 2 then some (word64At data 4) else none

/-- The clock sysvar. -/
def clockSysvarId : Pubkey :=
  ⟨#[0x06, 0xa7, 0xd5, 0x17, 0x18, 0xc7, 0x74, 0xc9, 0x28, 0x56, 0x63, 0x98, 0x69, 0x1d, 0x5e,
    0xb6, 0x8b, 0x5e, 0xb8, 0xa3, 0x9b, 0x4b, 0x6d, 0x5c, 0x73, 0x55, 0x5b, 0x21, 0x00, 0x00,
    0x00, 0x00], rfl⟩

/-- A withdrawal that a transaction executed. -/
structure Withdrawal where
  erSource : Pubkey
  l1Recipient : Pubkey
  lamports : UInt64
  signature : Signature

/-- An inner instruction moves the lamports of a withdrawal to the sink. -/
def transfersToSink (tx : ExecutedTransaction) (index : Nat) (erSource : Pubkey)
    (lamports : UInt64) : Bool :=
  ((tx.innerInstructions.bind fun inner => inner[index]?).getD []).any fun ix =>
    tx.key ix.programIdIndex = some systemProgramId ∧ 2 ≤ ix.accounts.length ∧
      systemTransferLamports ix.data = some lamports ∧
      tx.account ix 0 = some erSource ∧ tx.account ix 1 = some withdrawalSink

/-- The withdrawal of one instruction, if it is one. -/
def withdrawalOf (portalProgramId : Pubkey) (tx : ExecutedTransaction) (signature : Signature)
    (index : Nat) (ix : CompiledInstruction) : Option Withdrawal := do
  let programId ← tx.key ix.programIdIndex
  guard (programId = portalProgramId ∧ ix.data.length = 9 ∧ ix.data.headD 0 = 13 ∧
    5 ≤ ix.accounts.length)
  let lamports := word64At ix.data 1
  guard (lamports ≠ 0)
  let erSource ← tx.account ix 0
  let l1Recipient ← tx.account ix 1
  let withdrawalSinkKey ← tx.account ix 2
  let system ← tx.account ix 3
  let clock ← tx.account ix 4
  guard ((ix.accounts.headD 0).toNat < tx.numRequiredSignatures ∧
    withdrawalSinkKey = withdrawalSink ∧ system = systemProgramId ∧ clock = clockSysvarId)
  guard (transfersToSink tx index erSource lamports = true)
  return ⟨erSource, l1Recipient, lamports, signature⟩

/-- The withdrawals of a transaction. One that failed has none. -/
def withdrawalsOf (portalProgramId : Pubkey) (tx : ExecutedTransaction) : List Withdrawal :=
  match tx.succeeded, tx.signatures.head? with
  | true, some signature =>
    tx.instructions.zipIdx.filterMap fun (ix, index) =>
      withdrawalOf portalProgramId tx signature index ix
  | _, _ => []

/-- The counter of each source that has one. -/
abbrev CumulativeBySource := Pubkey → Option UInt64

/-- The highest counter each source has among the recorded events. -/
def cumulativeBySource (log : List WithdrawalPayoutEvent) : CumulativeBySource :=
  log.foldl (fun cumulative event => Function.update cumulative event.erSource
    (some (match cumulative event.erSource with
      | some value => max value event.cumulativeWithdrawn
      | none => event.cumulativeWithdrawn))) fun _ => none

/-- Record one withdrawal after another; one that overflows its counter is left out. -/
def recordWithdrawals (erSlot : UInt64) (l1ReceiptWithdrawn : Pubkey → UInt64) :
    CumulativeBySource → List Withdrawal → List WithdrawalPayoutEvent
  | _, [] => []
  | cumulative, w :: ws =>
    let l1Withdrawn := l1ReceiptWithdrawn w.erSource
    let current := max ((cumulative w.erSource).getD l1Withdrawn) l1Withdrawn
    match checkedAdd current w.lamports with
    | none =>
      recordWithdrawals erSlot l1ReceiptWithdrawn
        (Function.update cumulative w.erSource (some current)) ws
    | some cumulativeWithdrawn =>
      { erSource := w.erSource
        l1Recipient := w.l1Recipient
        lamports := w.lamports
        cumulativeWithdrawn
        signature := w.signature
        erSlot } ::
      recordWithdrawals erSlot l1ReceiptWithdrawn
        (Function.update cumulative w.erSource (some cumulativeWithdrawn)) ws

/-- The counter of a receipt of the first format, as the bank of the rollup has it. -/
def l1ReceiptWithdrawn (env : Env) (bank : Ledger) (session erSource : Pubkey) : UInt64 :=
  match (bank (findDepositReceiptPda env session erSource).1).data with
  | .depositReceipt receipt => receipt.withdrawn
  | _ => 0

/-! ## The node -/

/-- The accounts the rollup holds, one entry for a key. -/
structure Overlay where
  entries : List (Pubkey × Account)
  nodup : (entries.map Prod.fst).Nodup

/-- What a settlement reads of the validator's node. -/
structure Node where
  env : Env
  /-- The bank of the chain that is settled to. -/
  l1AnchorBank : Ledger
  delegatedAccounts : List Pubkey
  erAccountOverlay : Overlay
  /-- The context of a session of the second format. -/
  sessionContext : Option Hash32
  sessionPda : Option Pubkey
  withdrawalPayoutEvents : List WithdrawalPayoutEvent
  active : Bool

def maxWithdrawalPayoutEvents : Nat := 10000

/-- **Recording** the withdrawals of a batch. Sessions of the second format keep no such
log. -/
def recordWithdrawalPayoutEventsForBatch (node : Node) (bank : Ledger) (erSlot : UInt64)
    (txs : List ExecutedTransaction) : List WithdrawalPayoutEvent :=
  match node.sessionContext, node.sessionPda with
  | none, some session =>
    node.withdrawalPayoutEvents ++
      recordWithdrawals erSlot (l1ReceiptWithdrawn node.env bank session)
        (cumulativeBySource node.withdrawalPayoutEvents)
        (txs.flatMap (withdrawalsOf node.env.programId))
  | _, _ => node.withdrawalPayoutEvents

/-! ## Updates of receipts -/

structure ReceiptBalanceSettlement where
  receipt : Pubkey
  erSource : Pubkey
  l1Recipient : Pubkey
  balance : UInt64
  withdrawn : UInt64
  payoutLamports : UInt64
  deriving DecidableEq

/-- A receipt that may be settled: its source, what the source holds in the rollup, what the
receipt covers and the counter of what was withdrawn. -/
structure ReceiptEntry where
  erSource : Pubkey
  erBalance : UInt64
  receiptBalance : UInt64
  withdrawn : UInt64
  deriving DecidableEq

def settlementReceiptKey (node : Node) (session erSource : Pubkey) : Pubkey :=
  (findReceiptPda node.env node.sessionContext session erSource).1

/-- The receipt of a plain account that is not delegated. -/
def receiptEntry (node : Node) (session : Pubkey) (entry : Pubkey × Account) :
    Option ReceiptEntry := do
  guard (entry.1 ∉ node.delegatedAccounts ∧ entry.2.owner = systemProgramId ∧ entry.2.data = .empty)
  let receipt := node.l1AnchorBank (settlementReceiptKey node session entry.1)
  guard (receipt.owner = node.env.programId)
  let state ← (parseDepositReceipt receipt.data).toOption
  guard (state.session = session ∧ state.recipient = entry.1)
  let escrowBalance :=
    saturatingSub receipt.lamports (node.env.minimumBalance receipt.data.size)
  return ⟨entry.1, entry.2.lamports, max state.balance escrowBalance, state.withdrawn⟩

def receiptEntries (node : Node) (session : Pubkey) : List ReceiptEntry :=
  node.erAccountOverlay.entries.filterMap (receiptEntry node session)

/-- The bytes of a key, for comparison. -/
def keyBytes (key : List UInt8) : List Nat := key.map UInt8.toNat

/-- Events are processed by slot, text of the signature, source and recipient. -/
def WithdrawalPayoutEvent.order (event : WithdrawalPayoutEvent) : List (List Nat) :=
  [[event.erSlot.toNat], keyBytes (signatureText event.signature),
    keyBytes event.erSource.toList, keyBytes event.l1Recipient.toList]

/-- Whether the receipt of the source has not come to the event yet. -/
def isUnsettled (receipts : List ReceiptEntry) (event : WithdrawalPayoutEvent) : Bool :=
  match receipts.find? (·.erSource = event.erSource) with
  | some receipt => receipt.withdrawn < event.cumulativeWithdrawn
  | none => true

/-- The unsettled events in the order they are processed. -/
def unsettledEvents (receipts : List ReceiptEntry) (log : List WithdrawalPayoutEvent) :
    List WithdrawalPayoutEvent :=
  (log.insertionSort fun a b => a.order ≤ b.order).filter (isUnsettled receipts)

/-- The updates of one receipt, and the events dropped as stale. -/
def receiptPayouts (receipt : Pubkey) (entry : ReceiptEntry) :
    (currentWithdrawn remainingNetPayout : UInt64) → List WithdrawalPayoutEvent →
      List ReceiptBalanceSettlement × List WithdrawalPayoutEvent
  | _, _, [] => ([], [])
  | currentWithdrawn, remainingNetPayout, event :: events =>
    if remainingNetPayout < event.lamports then
      let rest := receiptPayouts receipt entry currentWithdrawn remainingNetPayout events
      (rest.1, event :: rest.2)
    else
      let remainingNetPayout := saturatingSub remainingNetPayout event.lamports
      let nextWithdrawn := event.cumulativeWithdrawn
      if nextWithdrawn ≤ currentWithdrawn then
        receiptPayouts receipt entry currentWithdrawn remainingNetPayout events
      else
        let payoutLamports := saturatingSub nextWithdrawn currentWithdrawn
        let rest := receiptPayouts receipt entry nextWithdrawn remainingNetPayout events
        if 0 < payoutLamports then
          ({ receipt
             erSource := entry.erSource
             l1Recipient := event.l1Recipient
             balance := entry.erBalance
             withdrawn := nextWithdrawn
             payoutLamports } :: rest.1, rest.2)
        else rest

/-- What the receipt covers beyond what its source still holds. -/
def ReceiptEntry.netPayout (entry : ReceiptEntry) : UInt64 :=
  saturatingSub entry.receiptBalance entry.erBalance

/-- Updates are submitted by source, counter and recipient. -/
def ReceiptBalanceSettlement.order (item : ReceiptBalanceSettlement) : List (List Nat) :=
  [keyBytes item.erSource.toList, [item.withdrawn.toNat], keyBytes item.l1Recipient.toList]

/-- The updates of every receipt with the events dropped as stale, before sorting. -/
def allPayouts (node : Node) (session : Pubkey) :
    List (List ReceiptBalanceSettlement × List WithdrawalPayoutEvent) :=
  let receipts := receiptEntries node session
  let events := unsettledEvents receipts node.withdrawalPayoutEvents
  receipts.map fun entry =>
    receiptPayouts (settlementReceiptKey node session entry.erSource) entry entry.withdrawn
      entry.netPayout (events.filter (·.erSource = entry.erSource))

/-- **The updates of the receipts**, and the node with the log that is left. -/
def settlementReceiptBalances (node : Node) (session : Pubkey) :
    List ReceiptBalanceSettlement × Node :=
  let events := unsettledEvents (receiptEntries node session) node.withdrawalPayoutEvents
  let payouts := allPayouts node session
  ((payouts.flatMap Prod.fst).insertionSort (fun a b => a.order ≤ b.order),
    { node with
      withdrawalPayoutEvents := events.filter fun event => event ∉ payouts.flatMap Prod.snd
      active := node.active && !decide (maxWithdrawalPayoutEvents < events.length) })

/-! ## The updates of one receipt -/

namespace WithdrawalPayoutEvent

/-- The amount of an event, as a number. -/
def amount (event : WithdrawalPayoutEvent) : Nat := event.lamports.toNat

/-- The counter of an event, as a number. -/
def counter (event : WithdrawalPayoutEvent) : Nat := event.cumulativeWithdrawn.toNat

end WithdrawalPayoutEvent

/-- The update an event leads to when the counter moves by `distance`. -/
def ReceiptEntry.item (entry : ReceiptEntry) (receipt : Pubkey) (event : WithdrawalPayoutEvent)
    (distance : Nat) : ReceiptBalanceSettlement :=
  { receipt
    erSource := entry.erSource
    l1Recipient := event.l1Recipient
    balance := entry.erBalance
    withdrawn := event.cumulativeWithdrawn
    payoutLamports := UInt64.ofNat distance }

open WithdrawalPayoutEvent Counters

/-- **The updates of one receipt** are the advances of its counter by the events that its
net payout covers. -/
theorem receiptPayouts_eq (receipt : Pubkey) (entry : ReceiptEntry) (current remaining : UInt64)
    (events : List WithdrawalPayoutEvent) :
    (receiptPayouts receipt entry current remaining events).1 =
      (advances counter current.toNat (covered amount remaining.toNat events)).map
        fun p => entry.item receipt p.1 p.2 := by
  induction events generalizing current remaining with
  | nil => rfl
  | cons event events ih =>
    unfold receiptPayouts covered
    by_cases hstale : remaining < event.lamports
    · have hlt : remaining.toNat < event.amount := UInt64.lt_iff_toNat_lt.mp hstale
      rw [if_pos hstale, if_pos hlt]
      exact ih current remaining
    · have hle : ¬remaining.toNat < event.amount := mt UInt64.lt_iff_toNat_lt.mpr hstale
      rw [if_neg hstale, if_neg hle]
      unfold advances
      have hremaining : (saturatingSub remaining event.lamports).toNat =
        remaining.toNat - event.amount := toNat_saturatingSub _ _
      by_cases hpassed : event.cumulativeWithdrawn ≤ current
      · have hcounter : event.counter ≤ current.toNat := UInt64.le_iff_toNat_le.mp hpassed
        rw [if_pos hpassed, if_pos hcounter, ih, hremaining]
      · have hcounter : ¬event.counter ≤ current.toNat := mt UInt64.le_iff_toNat_le.mpr hpassed
        have hpayout : (saturatingSub event.cumulativeWithdrawn current).toNat =
          event.counter - current.toNat := toNat_saturatingSub _ _
        have hpos : 0 < saturatingSub event.cumulativeWithdrawn current := by
          rw [UInt64.lt_iff_toNat_lt, hpayout, UInt64.toNat_zero]
          omega
        have hitem : entry.item receipt event (event.counter - current.toNat) =
            { receipt
              erSource := entry.erSource
              l1Recipient := event.l1Recipient
              balance := entry.erBalance
              withdrawn := event.cumulativeWithdrawn
              payoutLamports := saturatingSub event.cumulativeWithdrawn current } := by
          rw [← hpayout]
          simp only [ReceiptEntry.item, UInt64.ofNat_toNat]
        rw [if_neg hpassed, if_neg hcounter, if_pos hpos, List.map_cons, hitem]
        show _ :: (receiptPayouts receipt entry event.cumulativeWithdrawn _ events).1 = _
        rw [ih, hremaining]
        rfl

/-- The distance a counter moves is a machine word. -/
theorem toNat_payout (h : p ∈ advances counter current events) :
    (UInt64.ofNat p.2).toNat = p.2 := by
  have hlt : p.2 ≤ p.1.counter := (lt_of_mem_advances h).2
  rw [UInt64.toNat_ofNat', Nat.mod_eq_of_lt]
  exact lt_of_le_of_lt hlt p.1.cumulativeWithdrawn.toNat_lt

/-! ## Entries -/

theorem receiptEntry_erSource (h : receiptEntry node session entry = some r) :
    r.erSource = entry.1 := by
  simp only [receiptEntry, bind, Option.bind_eq_some_iff, pure] at h
  obtain ⟨-, -, -, -, state, -, -, -, h⟩ := h
  cases h
  rfl

theorem nodup_receiptEntries : ((receiptEntries node session).map (·.erSource)).Nodup := by
  refine node.erAccountOverlay.nodup.sublist ?_
  unfold receiptEntries
  induction node.erAccountOverlay.entries with
  | nil => exact List.Sublist.slnil
  | cons entry entries ih =>
    cases hentry : receiptEntry node session entry with
    | none =>
      rw [List.filterMap_cons_none hentry]
      exact ih.cons _
    | some r =>
      rw [List.filterMap_cons_some hentry, List.map_cons, List.map_cons,
        receiptEntry_erSource hentry]
      exact ih.cons_cons _

/-- Entries are told apart by their sources. -/
theorem isUnsettled_iff (hnodup : (receipts.map (·.erSource)).Nodup) (hr : r ∈ receipts)
    (hsource : event.erSource = r.erSource) :
    isUnsettled receipts event = true ↔ r.withdrawn < event.cumulativeWithdrawn := by
  have hfind : receipts.find? (·.erSource = event.erSource) = some r := by
    rw [hsource]
    exact Groups.find?_of_nodup hnodup hr
  simp [isUnsettled, hfind]

/-! ## Chronological counters -/

/-- The counters were handed out one after another: each event moved the counter of its
source by its amount or more. -/
def HandedOut (log : List WithdrawalPayoutEvent) : Prop :=
  ∃ order : List WithdrawalPayoutEvent, order.Perm log ∧
    order.Pairwise fun a b => a.erSource = b.erSource → a.counter + b.amount ≤ b.counter

/-- **Chronological counters**: they were handed out one after another, and the counter of
a receipt stands between two events. -/
structure Chronological (receipts : List ReceiptEntry) (log : List WithdrawalPayoutEvent) :
    Prop where
  handedOut : HandedOut log
  between : ∀ r ∈ receipts, ∀ event ∈ log, event.erSource = r.erSource →
    r.withdrawn < event.cumulativeWithdrawn → r.withdrawn.toNat + event.amount ≤ event.counter

/-- The recorded counters bound those of the log. -/
theorem le_cumulativeBySource (h : event ∈ log) :
    ∃ c, cumulativeBySource log event.erSource = some c ∧
      event.cumulativeWithdrawn ≤ c := by
  induction log using List.reverseRecOn with
  | nil => exact absurd h List.not_mem_nil
  | append_singleton log last ih =>
    unfold cumulativeBySource at ih ⊢
    rw [List.foldl_append, List.foldl_cons, List.foldl_nil]
    by_cases hsource : event.erSource = last.erSource
    · rw [hsource, Function.update_self]
      rcases List.mem_append.mp h with h | h
      · obtain ⟨c, hc, hle⟩ := ih h
        rw [hsource] at hc
        rw [hc]
        refine ⟨max c last.cumulativeWithdrawn, rfl, UInt64.le_trans hle ?_⟩
        rw [UInt64.le_iff_toNat_le, toNat_max]
        exact Nat.le_max_left _ _
      · obtain rfl := List.mem_singleton.mp h
        split
        · refine ⟨_, rfl, ?_⟩
          rw [UInt64.le_iff_toNat_le, toNat_max]
          exact Nat.le_max_right _ _
        · exact ⟨_, rfl, UInt64.le_refl _⟩
    · rw [Function.update_of_ne hsource]
      rcases List.mem_append.mp h with h | h
      · exact ih h
      · exact absurd (congrArg erSource (List.mem_singleton.mp h)) hsource

/-- Recorded events lie beyond the counter of their source, each beyond those before it. -/
theorem recordWithdrawals_spec (erSlot : UInt64) (l1 : Pubkey → UInt64)
    (cumulative : CumulativeBySource) (ws : List Withdrawal) :
    (∀ event ∈ recordWithdrawals erSlot l1 cumulative ws, ∀ c,
        cumulative event.erSource = some c → c.toNat + event.amount ≤ event.counter) ∧
      (recordWithdrawals erSlot l1 cumulative ws).Pairwise
        fun a b => a.erSource = b.erSource → a.counter + b.amount ≤ b.counter := by
  induction ws generalizing cumulative with
  | nil => exact ⟨fun _ h => absurd h List.not_mem_nil, List.Pairwise.nil⟩
  | cons w ws ih =>
    -- the counter an event starts from is no less than the one recorded before
    have hcurrent : ∀ c, cumulative w.erSource = some c →
        c.toNat ≤ (max ((cumulative w.erSource).getD (l1 w.erSource)) (l1 w.erSource)).toNat := by
      intro c hc
      rw [hc, Option.getD_some, toNat_max]
      exact Nat.le_max_left _ _
    cases hadd : checkedAdd (max ((cumulative w.erSource).getD (l1 w.erSource)) (l1 w.erSource))
      w.lamports with
    | none =>
      simp only [recordWithdrawals, hadd]
      obtain ⟨hbeyond, hpairwise⟩ := ih (Function.update cumulative w.erSource
        (some (max ((cumulative w.erSource).getD (l1 w.erSource)) (l1 w.erSource))))
      refine ⟨fun event hevent c hc => ?_, hpairwise⟩
      by_cases hsource : event.erSource = w.erSource
      · rw [hsource] at hc
        have hle := hbeyond event hevent _ (by rw [hsource, Function.update_self])
        have := hcurrent c hc
        omega
      · exact hbeyond event hevent c (by rwa [Function.update_of_ne hsource])
    | some cumulativeWithdrawn =>
      simp only [recordWithdrawals, hadd]
      rw [checkedAdd_eq_some] at hadd
      obtain ⟨hbeyond, hpairwise⟩ := ih (Function.update cumulative w.erSource
        (some cumulativeWithdrawn))
      refine ⟨?_, List.pairwise_cons.mpr ⟨?_, hpairwise⟩⟩
      · intro event hevent c hc
        rcases List.mem_cons.mp hevent with rfl | hevent
        · have := hcurrent c hc
          show c.toNat + w.lamports.toNat ≤ cumulativeWithdrawn.toNat
          omega
        · by_cases hsource : event.erSource = w.erSource
          · rw [hsource] at hc
            have hle := hbeyond event hevent _ (by rw [hsource, Function.update_self])
            have := hcurrent c hc
            omega
          · exact hbeyond event hevent c (by rwa [Function.update_of_ne hsource])
      · intro event hevent hsource
        have hsource : w.erSource = event.erSource := hsource
        exact hbeyond event hevent _ (by rw [← hsource, Function.update_self])

/-- **Recording keeps the counters chronological.** -/
theorem chronological_record (node : Node) (bank : Ledger) (erSlot : UInt64)
    (txs : List ExecutedTransaction) (h : HandedOut node.withdrawalPayoutEvents) :
    HandedOut (recordWithdrawalPayoutEventsForBatch node bank erSlot txs) := by
  unfold recordWithdrawalPayoutEventsForBatch
  split
  · rename_i session _ _
    obtain ⟨order, hperm, hpairwise⟩ := h
    obtain ⟨hbeyond, hnew⟩ := recordWithdrawals_spec erSlot
      (l1ReceiptWithdrawn node.env bank session) (cumulativeBySource node.withdrawalPayoutEvents)
      (txs.flatMap (withdrawalsOf node.env.programId))
    refine ⟨order ++ _, hperm.append_right _, List.pairwise_append.mpr ⟨hpairwise, hnew, ?_⟩⟩
    intro a ha b hb hsource
    obtain ⟨c, hc, hle⟩ := le_cumulativeBySource (hperm.mem_iff.mp ha)
    rw [hsource] at hc
    have := hbeyond b hb c hc
    have : a.counter ≤ c.toNat := UInt64.le_iff_toNat_le.mp hle
    omega
  · exact h

end Northstar.Runtime
