import Northstar.Lib.Run
import Mathlib.Data.Finset.Max

/-!
# History of the rollup

Every submission of a transaction that reaches the bank is recorded under the signature:
what was executed with its status and fee, and what was refused with an error and no fee.
History keeps the first record of a signature, so a transaction that is refused, submitted
again and executed is reported as refused.

## Main definitions

* `ErHistoryStore`: the store, with its limit on slots
* `ErBank.attempts`: what a batch of transactions records

## Main results

* `recorded_run`: history reports the first attempt
* `history_reports_iff`: and so the execution, unless an attempt before it was recorded
  otherwise
-/

namespace Northstar.Runtime.History

open Runs

inductive TransactionError
  | blockhashNotFound
  | sanitizeFailure
  | other (code : UInt32)
  deriving DecidableEq

/-- What history keeps of a transaction, which succeeded if there is no error. -/
structure ConfirmedTransaction where
  slot : UInt64
  error : Option TransactionError
  fee : UInt64
  index : Nat
  deriving DecidableEq

structure ErSlotHistory (Signature : Type) where
  signatures : List Signature := []
  finalized : Bool := false

/-- **The store**: the slots it has, with their histories, and the transactions. -/
structure ErHistoryStore (Signature : Type) where
  maxRetainedSlots : Nat
  slots : Finset UInt64
  histories : UInt64 → ErSlotHistory Signature
  transactions : Signature → Option ConfirmedTransaction

/-- A submission that is recorded, and whether the transaction was executed. -/
structure Attempt (Signature : Type) where
  signature : Signature
  slot : UInt64
  error : Option TransactionError
  fee : UInt64
  executed : Bool
  deriving DecidableEq

structure CommittedTransaction where
  error : Option TransactionError
  fee : UInt64

/-- **What a bank makes of a batch**: the transactions it admits, those whose blockhash is
recent, the error of the first transaction that cannot be prepared, and the results, unless a
last check refuses them. -/
structure ErBank (Signature : Type) where
  slot : UInt64
  admits : Signature → Bool
  fresh : Signature → Bool
  prepared : Option TransactionError
  results : Option (List (Except TransactionError CommittedTransaction))

section Store

variable {Signature : Type} [DecidableEq Signature]

namespace ErHistoryStore

variable (store : ErHistoryStore Signature)

def new (maxRetainedSlots : Nat) : ErHistoryStore Signature :=
  ⟨maxRetainedSlots, ∅, fun _ => {}, fun _ => none⟩

def slotHistory (slot : UInt64) : Option (ErSlotHistory Signature) :=
  if slot ∈ store.slots then some (store.histories slot) else none

def withSlot (slot : UInt64) (history : ErSlotHistory Signature) : ErHistoryStore Signature :=
  { store with
    slots := insert slot store.slots
    histories := Function.update store.histories slot history }

/-- The earliest slot goes, with its transactions. -/
def removeFirst : ErHistoryStore Signature :=
  let slot := .ofNat ((store.slots.image UInt64.toNat).min.untopD 0)
  { store with
    slots := store.slots.erase slot
    transactions := fun signature =>
      if signature ∈ (store.histories slot).signatures then none else store.transactions signature }

def pruneExcessSlots : ErHistoryStore Signature :=
  removeFirst^[store.slots.card - store.maxRetainedSlots] store

/-- **The first record of a signature is kept.** -/
def recordTransaction (a : Attempt Signature) : ErHistoryStore Signature :=
  match store.transactions a.signature with
  | some _ => store
  | none =>
    let history := (store.slotHistory a.slot).getD {}
    let recorded := store.withSlot a.slot
      { history with signatures := history.signatures ++ [a.signature] }
    pruneExcessSlots { recorded with
      transactions := Function.update store.transactions a.signature
        (some ⟨a.slot, a.error, a.fee, history.signatures.length⟩) }

def finalizeSlot (slot : UInt64) : ErHistoryStore Signature :=
  match store.slotHistory slot with
  | none => store
  | some history => pruneExcessSlots (store.withSlot slot { history with finalized := true })

def getTransaction (signature : Signature) (finalized : Bool) : Option ConfirmedTransaction := do
  let transaction ← store.transactions signature
  let history ← store.slotHistory transaction.slot
  if finalized && !history.finalized then none else some transaction

/-- Slot and error, and whether the slot is finalized. -/
def getSignatureStatus (signature : Signature) :
    Option (UInt64 × Option TransactionError × Bool) :=
  (store.transactions signature).map fun transaction =>
    (transaction.slot, transaction.error,
      ((store.slotHistory transaction.slot).map (·.finalized)).getD false)

end ErHistoryStore

/-- **The records of a batch**, in order. -/
def ErBank.attempts (bank : ErBank Signature) (transactions : List Signature) :
    List (Attempt Signature) :=
  let failed (error : TransactionError) (signature : Signature) : Attempt Signature :=
    ⟨signature, bank.slot, some error, 0, false⟩
  let admitted := transactions.filter bank.admits
  let valid := admitted.filter bank.fresh
  (admitted.filter (!bank.fresh ·)).map (failed .blockhashNotFound) ++
    if valid.isEmpty then []
    else match bank.prepared, bank.results with
      | some error, _ => valid.map (failed error)
      | none, none => []
      | none, some results => (valid.zip results).map fun
        | (signature, .error error) => failed error signature
        | (signature, .ok result) => ⟨signature, bank.slot, result.error, result.fee, true⟩

inductive HistoryEvent (Signature : Type)
  | submit (bank : ErBank Signature) (transactions : List Signature)
  | finalize (slot : UInt64)

def HistoryEvent.attempts : HistoryEvent Signature → List (Attempt Signature)
  | .submit bank transactions => bank.attempts transactions
  | .finalize _ => []

def ErHistoryStore.exec (store : ErHistoryStore Signature) :
    HistoryEvent Signature → ErHistoryStore Signature
  | .submit bank transactions => (bank.attempts transactions).foldl recordTransaction store
  | .finalize slot => store.finalizeSlot slot

/-- There is room for the slot. -/
def ErHistoryStore.RoomFor (store : ErHistoryStore Signature) (slot : UInt64) : Prop :=
  slot ∈ store.slots ∨ store.slots.card < store.maxRetainedSlots
  deriving Decidable

/-- History does not overflow with the event. -/
def ErHistoryStore.HasRoom (store : ErHistoryStore Signature) (event : HistoryEvent Signature) :
    Prop :=
  ∀ a ∈ event.attempts, store.RoomFor a.slot
  deriving Decidable

def ConfirmedTransaction.outcome (t : ConfirmedTransaction) :
    UInt64 × Option TransactionError × UInt64 :=
  (t.slot, t.error, t.fee)

def Attempt.outcome (a : Attempt Signature) : UInt64 × Option TransactionError × UInt64 :=
  (a.slot, a.error, a.fee)

/-- The transaction is reported with slot, status and fee of the attempt. -/
def ErHistoryStore.Reports (store : ErHistoryStore Signature) (a : Attempt Signature) : Prop :=
  (store.getTransaction a.signature false).map (·.outcome) = some a.outcome ∧
    (store.getSignatureStatus a.signature).map (fun status => (status.1, status.2.1)) =
      some (a.slot, a.error)

/-! ## The first attempt is reported -/

/-- **History after some attempts**: it has the first one for each signature. -/
structure Recorded (past : List (Attempt Signature)) (store : ErHistoryStore Signature) : Prop where
  room : store.slots.card ≤ store.maxRetainedSlots
  first : ∀ signature, (store.transactions signature).map (·.outcome) =
    (past.find? (·.signature = signature)).map (·.outcome)
  listed : ∀ signature t, store.transactions signature = some t → t.slot ∈ store.slots

variable {store : ErHistoryStore Signature} {past : List (Attempt Signature)}

theorem pruneExcessSlots_of_le (h : store.slots.card ≤ store.maxRetainedSlots) :
    store.pruneExcessSlots = store := by
  rw [ErHistoryStore.pruneExcessSlots, Nat.sub_eq_zero_of_le h, Function.iterate_zero, id]

theorem Recorded.card_insert (h : Recorded past store) (hroom : store.RoomFor slot) :
    (insert slot store.slots).card ≤ store.maxRetainedSlots := by
  rcases hroom with hmem | hlt
  · rw [Finset.insert_eq_of_mem hmem]
    exact h.room
  · exact (Finset.card_insert_le slot store.slots).trans hlt

/-- **One attempt.** -/
theorem Recorded.record (h : Recorded past store) (hroom : store.RoomFor a.slot) :
    Recorded (past ++ [a]) (store.recordTransaction a) ∧
      (store.recordTransaction a).RoomFor a.slot := by
  have hknown := h.first a.signature
  unfold ErHistoryStore.recordTransaction
  split
  · next t ht =>
    -- the signature has a record, so an attempt before had it
    refine ⟨⟨h.room, fun signature => ?_, h.listed⟩, hroom⟩
    rw [h.first, List.find?_append]
    by_cases hsame : a.signature = signature
    · rw [ht, hsame] at hknown
      obtain ⟨b, hb, -⟩ := Option.map_eq_some_iff.mp hknown.symm
      rw [hb, Option.some_or]
    · simp [hsame]
  · next hnone =>
    dsimp only
    rw [pruneExcessSlots_of_le (by exact h.card_insert hroom)]
    rw [hnone, Option.map_none, eq_comm, Option.map_eq_none_iff] at hknown
    refine ⟨⟨h.card_insert hroom, fun signature => ?_, fun signature t ht => ?_⟩,
      .inl (Finset.mem_insert_self _ _)⟩
    · rw [List.find?_append]
      by_cases hsame : signature = a.signature
      · subst hsame
        simp [hknown]
        rfl
      · simp [hsame, Ne.symm hsame, h.first]
    · by_cases hsame : signature = a.signature
      · subst hsame
        simp at ht
        exact ht ▸ Finset.mem_insert_self _ _
      · simp [hsame] at ht
        exact Finset.mem_insert_of_mem (h.listed signature t ht)

omit [DecidableEq Signature] in
theorem slot_of_mem_attempts {bank : ErBank Signature} {transactions : List Signature}
    {a : Attempt Signature} (h : a ∈ bank.attempts transactions) : a.slot = bank.slot := by
  simp only [ErBank.attempts, List.mem_append, List.mem_map] at h
  rcases h with ⟨_, -, rfl⟩ | h
  · rfl
  · split at h
    · cases h
    · split at h
      · obtain ⟨_, -, rfl⟩ := List.mem_map.mp h
        rfl
      · cases h
      · obtain ⟨⟨_, result⟩, -, rfl⟩ := List.mem_map.mp h
        cases result <;> rfl

/-- **One event.** -/
theorem Recorded.exec {event : HistoryEvent Signature} (h : Recorded past store)
    (hroom : store.HasRoom event) : Recorded (past ++ event.attempts) (store.exec event) := by
  cases event with
  | submit bank transactions =>
    have hslots : ∀ a ∈ bank.attempts transactions, a.slot = bank.slot :=
      fun _ => slot_of_mem_attempts
    unfold ErHistoryStore.HasRoom at hroom
    rw [ErHistoryStore.exec]
    rw [HistoryEvent.attempts] at hroom ⊢
    generalize bank.attempts transactions = attempts at hslots hroom ⊢
    induction attempts generalizing store past with
    | nil => simpa using h
    | cons a attempts ih =>
      obtain ⟨ha, hrest⟩ := List.forall_mem_cons.mp hslots
      obtain ⟨hrecorded, hnext⟩ := h.record (hroom a List.mem_cons_self)
      -- all attempts of the batch are in the slot of the bank
      have := ih hrecorded hrest fun b hb => hrest b hb ▸ ha ▸ hnext
      rwa [List.append_assoc] at this
  | finalize slot =>
    rw [HistoryEvent.attempts, List.append_nil]
    show Recorded past (store.finalizeSlot slot)
    unfold ErHistoryStore.finalizeSlot
    split
    · exact h
    · next history hslot =>
      have hroom : store.RoomFor slot := .inl (by_contra fun hmem => by
        rw [ErHistoryStore.slotHistory, if_neg hmem] at hslot
        cases hslot)
      rw [pruneExcessSlots_of_le (h.card_insert hroom)]
      exact ⟨h.card_insert hroom, h.first, fun signature t ht =>
        Finset.mem_insert_of_mem (h.listed signature t ht)⟩

/-- **History reports the first attempt**, as long as it has room. -/
theorem recorded_run (h : Recorded past store)
    (hroom : Along ErHistoryStore.exec ErHistoryStore.HasRoom store events) :
    Recorded (past ++ events.flatMap (·.attempts)) (run ErHistoryStore.exec store events) := by
  induction events generalizing store past with
  | nil => simpa using h
  | cons event events ih =>
    have hrest := ih (h.exec hroom.1) hroom.2
    rwa [List.append_assoc] at hrest

theorem reports_iff (h : Recorded (before ++ a :: after) store) :
    store.Reports a ↔ ∀ b ∈ before.find? (·.signature = a.signature), b.outcome = a.outcome := by
  have hfirst := h.first a.signature
  rw [List.find?_append, List.find?_cons_of_pos (by simp)] at hfirst
  unfold ErHistoryStore.Reports ErHistoryStore.getTransaction ErHistoryStore.getSignatureStatus
  cases ht : store.transactions a.signature with
  | none =>
    -- there is a record, since `a` is one of the attempts
    rw [ht] at hfirst
    cases hb : before.find? (·.signature = a.signature) <;> simp [hb] at hfirst
  | some t =>
    have hhistory : store.slotHistory t.slot = some _ := if_pos (h.listed a.signature t ht)
    rw [ht, Option.map_some] at hfirst
    refine Iff.trans (b := t.outcome = a.outcome) ?_ ?_
    · simp [hhistory, ConfirmedTransaction.outcome, Attempt.outcome]
      tauto
    · cases hb : before.find? (·.signature = a.signature) with
      | none =>
        rw [hb] at hfirst
        simpa using Option.some.inj hfirst
      | some b =>
        rw [hb] at hfirst
        simp [Option.some.inj hfirst]

/-- **History reports an attempt**, and so an execution, if and only if no attempt with the
signature was recorded before it with another slot, status or fee. -/
theorem history_reports_iff {maxRetainedSlots : Nat} {events : List (HistoryEvent Signature)}
    (hroom : Along ErHistoryStore.exec ErHistoryStore.HasRoom (.new maxRetainedSlots) events)
    {before after : List (Attempt Signature)} {a : Attempt Signature}
    (hrun : events.flatMap (·.attempts) = before ++ a :: after) :
    (run ErHistoryStore.exec (.new maxRetainedSlots) events).Reports a ↔
      ∀ b ∈ before.find? (·.signature = a.signature), b.outcome = a.outcome := by
  have hstart : Recorded [] (ErHistoryStore.new maxRetainedSlots : ErHistoryStore Signature) :=
    ⟨Nat.zero_le _, fun _ => rfl, fun _ _ h => nomatch h⟩
  have hrecorded := recorded_run hstart hroom
  rw [List.nil_append, hrun] at hrecorded
  exact reports_iff hrecorded

end Store

/-- One transaction is executed. The next is submitted with one that does not sanitize, so that
the batch is not prepared; submitted again, it is executed. -/
def retried : List (HistoryEvent Nat) :=
  [.submit ⟨7, fun _ => true, fun _ => true, none, some [.ok ⟨none, 5000⟩]⟩ [1],
    .submit ⟨7, fun _ => true, fun _ => true, some .sanitizeFailure, none⟩ [2, 3],
    .submit ⟨8, fun _ => true, fun _ => true, none, some [.ok ⟨none, 5000⟩]⟩ [2]]

/-- **The refusal is reported**: the status is the error of the batch, and the fee zero. -/
theorem retried_reported_refused :
    retried.flatMap (·.attempts) = [⟨1, 7, none, 5000, true⟩,
      ⟨2, 7, some .sanitizeFailure, 0, false⟩, ⟨3, 7, some .sanitizeFailure, 0, false⟩,
      ⟨2, 8, none, 5000, true⟩] ∧
    (run ErHistoryStore.exec (.new 10000) retried).getSignatureStatus 2 =
      some (7, some .sanitizeFailure, false) ∧
    (run ErHistoryStore.exec (.new 10000) retried).getTransaction 2 false =
      some ⟨7, some .sanitizeFailure, 0, 1⟩ := by
  decide +kernel

/-- The transaction before is reported as it was executed. -/
theorem first_of_retried_reported :
    (run ErHistoryStore.exec (.new 10000) retried).Reports ⟨1, 7, none, 5000, true⟩ :=
  (@history_reports_iff Nat _ 10000 retried (by decide +kernel) [] _ _ rfl).mpr (by simp)

end Northstar.Runtime.History
