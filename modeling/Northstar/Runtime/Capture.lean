import Northstar.Bridge.State
import Northstar.Continuity.Accounting
import Northstar.Continuity.Heads
import Northstar.Runtime.Attribution

/-!
# Which withdrawals the validator records

A withdrawal is executed by Portal, as an instruction of a transaction or called by another
program. The validator does not hear of it from Portal: it reads the instructions of the
transaction again. In a session of the first format the events go to a log, in one of the
second format they are effects of the recorded transition. This file says exactly when what
is recorded is what was executed.

## Main results

* `withdrawals_captured_iff`: what is recorded is what was executed exactly when every
  withdrawal has the form the validator looks for
-/

namespace Northstar.Runtime

open Northstar.Portal Northstar.Bridge Bytes Checked Reader

variable (env : Env)

variable {α : Type}

/-! ## Traces -/

/-- One invocation of a program: how deep it is nested, and which of the transaction's keys
sign it and are writable for it. -/
structure Invocation where
  stackHeight : Nat
  instruction : CompiledInstruction
  isSigner : UInt8 → Bool
  isWritable : UInt8 → Bool

/-- **What the virtual machine did for a transaction.** An instruction of the message runs at
height one, signed by those who signed the message. -/
structure Trace where
  signature : Signature
  cosignatures : List Signature
  /-- The account keys, loaded addresses included. -/
  accountKeys : List Pubkey
  numRequiredSignatures : Nat
  /-- Each instruction of the message, with the invocations below it as they were made. -/
  runs : List (Invocation × List Invocation)
  succeeded : Bool
  height_eq : ∀ run ∈ runs, run.1.stackHeight = 1
  isSigner_eq : ∀ run ∈ runs, ∀ index : UInt8,
    run.1.isSigner index = decide (index.toNat < numRequiredSignatures)

/-- An inner instruction as it is recorded in a session of the second format. -/
structure RecordedInnerInstructionV2 where
  outerIndex : Nat
  stackHeight : Nat
  instruction : CompiledInstruction

namespace Trace

/-- What the recorders are given of the trace. -/
def executed (t : Trace) : ExecutedTransaction where
  signatures := t.signature :: t.cosignatures
  accountKeys := t.accountKeys
  numRequiredSignatures := t.numRequiredSignatures
  instructions := t.runs.map fun run => run.1.instruction
  innerInstructions := some (t.runs.map fun run => run.2.map (·.instruction))
  succeeded := t.succeeded

/-- The inner instructions below one instruction. -/
def innerOf (run : (Invocation × List Invocation) × Nat) : List RecordedInnerInstructionV2 :=
  run.1.2.map fun invocation => ⟨run.2, invocation.stackHeight, invocation.instruction⟩

def inner (t : Trace) : List RecordedInnerInstructionV2 := t.runs.zipIdx.flatMap innerOf

/-- Every invocation, with whether it is an instruction of the message. -/
def calls (t : Trace) : List (Bool × CompiledInstruction) :=
  t.runs.flatMap fun run =>
    (true, run.1.instruction) :: run.2.map fun invocation => (false, invocation.instruction)

/-- The accounts of an invocation. -/
def accountMetas (t : Trace) (invocation : Invocation) : Option (List AccountMeta) :=
  invocation.instruction.accounts.mapM fun index =>
    (t.executed.key index).map fun address =>
      ⟨address, invocation.isSigner index, invocation.isWritable index⟩

end Trace

/-! ## Withdrawals that are executed -/

/-- The lamports of a withdrawal as Portal reads them: a tag and a number. Whatever follows
is not looked at. -/
def startWithdrawalLamports (data : List UInt8) : Option UInt64 :=
  if 9 ≤ data.length ∧ data.headD 0 = 13 then some (word64At data 1) else none

/-- The instruction asks Portal for a withdrawal. -/
def StartsWithdrawal (portalProgramId : Pubkey) (tx : ExecutedTransaction)
    (ix : CompiledInstruction) : Prop :=
  tx.key ix.programIdIndex = some portalProgramId ∧ ix.data.headD 0 = 13
  deriving Decidable

/-- The instruction moves `lamports` from `source` to the sink. -/
structure IsTransfer (tx : ExecutedTransaction) (ix : CompiledInstruction) (source : Pubkey)
    (lamports : UInt64) : Prop where
  program : tx.key ix.programIdIndex = some systemProgramId
  accounts : 2 ≤ ix.accounts.length
  data : systemTransferLamports ix.data = some lamports
  source : tx.account ix 0 = some source
  sink : tx.account ix 1 = some withdrawalSink

/-- **Portal ran a withdrawal** on some state of the accounts: it read the lamports and the
clock, accepted the accounts, and the first thing that came after is its transfer. -/
def RanStartWithdrawal (t : Trace) (invocation : Invocation) (later : List Invocation) : Prop :=
  ∃ source recipient sink system clock rest lamports L L',
    t.accountMetas invocation = some (source :: recipient :: sink :: system :: clock :: rest) ∧
    startWithdrawalLamports invocation.instruction.data = some lamports ∧
    clock.address = clockSysvarId ∧
    processStartWithdrawal (source :: recipient :: sink :: system :: clock :: rest) lamports L =
      .ok L' ∧
    (lamports ≠ 0 → ∃ transfer rest, later = transfer :: rest ∧
      transfer.stackHeight = invocation.stackHeight + 1 ∧
      IsTransfer t.executed transfer.instruction source.address lamports)

/-- **A lawful trace**: where the transaction succeeded, Portal ran every withdrawal it was
asked for, at whatever depth. -/
def Trace.Lawful (t : Trace) : Prop :=
  t.succeeded = true → ∀ run ∈ t.runs, ∀ earlier invocation later,
    run.1 :: run.2 = earlier ++ invocation :: later →
    StartsWithdrawal env.programId t.executed invocation.instruction →
    RanStartWithdrawal t invocation later

/-- Source, recipient and lamports of a withdrawal. -/
def withdrawalIn (portalProgramId : Pubkey) (tx : ExecutedTransaction)
    (ix : CompiledInstruction) : Option (Pubkey × Pubkey × UInt64) :=
  if StartsWithdrawal portalProgramId tx ix then do
    let lamports ← startWithdrawalLamports ix.data
    let source ← tx.account ix 0
    let recipient ← tx.account ix 1
    return (source, recipient, lamports)
  else none

/-- **The withdrawals that a transaction executed**, at any depth. One that failed executed
none. -/
def Trace.withdrawals (portalProgramId : Pubkey) (t : Trace) : List (Pubkey × Pubkey × UInt64) :=
  if t.succeeded then t.calls.filterMap fun call => withdrawalIn portalProgramId t.executed call.2
  else []

/-! ## Effects in a session of the second format -/

inductive TransactionError
  | commitCancelled
  deriving DecidableEq

/-- What goes wrong cancels the commit. -/
def orCancel {α : Type} (x : Option α) : Except TransactionError α := okOr x .commitCancelled

@[simp] theorem orCancel_eq_ok {x : Option α} {a : α} :
    orCancel x = .ok a ↔ x = some a := okOr_eq_ok

/-- An instruction that is looked at. -/
structure RecordedCall where
  topLevel : Bool
  instruction : RecordedInnerInstructionV2

def recordedCalls (tx : ExecutedTransaction) (inner : List RecordedInnerInstructionV2) :
    List RecordedCall :=
  tx.instructions.zipIdx.flatMap fun (ix, outer) =>
    ⟨true, ⟨outer, 1, ix⟩⟩ ::
      (inner.filter (·.outerIndex = outer)).map fun instruction => ⟨false, instruction⟩

/-- A transfer to the sink right below the instruction. -/
def transfersBelow (tx : ExecutedTransaction) (inner : List RecordedInnerInstructionV2)
    (ix : RecordedInnerInstructionV2) (source sink : Pubkey) (amount : UInt64) : Bool :=
  inner.any fun i =>
    i.outerIndex = ix.outerIndex ∧ i.stackHeight = ix.stackHeight + 1 ∧
      tx.key i.instruction.programIdIndex = some systemProgramId ∧
      2 ≤ i.instruction.accounts.length ∧
      systemTransferLamports i.instruction.data = some amount ∧
      tx.account i.instruction 0 = some source ∧ tx.account i.instruction 1 = some sink

/-- The effect of a withdrawal of lamports. -/
def solWithdrawalEffect (tx : ExecutedTransaction) (inner : List RecordedInnerInstructionV2)
    (state : CommittedStateV2) (call : RecordedCall) :
    Except TransactionError SettlementEffectV2 := do
  let ix := call.instruction.instruction
  let source ← orCancel (tx.account ix 0)
  let recipient ← orCancel (tx.account ix 1)
  let sink ← orCancel (tx.account ix 2)
  let system ← orCancel (tx.account ix 3)
  let clock ← orCancel (tx.account ix 4)
  let amount := word64At ix.data 1
  rejectIf ((call.topLevel = true ∧ ¬(ix.accounts.headD 0).toNat < tx.numRequiredSignatures) ∨
    sink ≠ withdrawalSink ∨ system ≠ systemProgramId ∨ clock ≠ clockSysvarId ∨
    transfersBelow tx inner call.instruction source sink amount = false) .commitCancelled
  let cumulativeWithdrawn ← orCancel (checkedAdd (state.withdrawnOf source) amount)
  return .solWithdrawal source recipient amount cumulativeWithdrawn

/-- The registration of a bridge for the program of an instruction. -/
def registrationOf (bank : Ledger) (bridge program : Pubkey) : Option (Account × SessionBridgeV2) :=
  match getAccount bank bridge with
  | some registration =>
    if registration.owner ≠ env.programId then none
    else
      match registration.data with
      | .sessionBridgeV2 frame =>
        if frame.base.bridgeProgram ≠ program then none else some (registration, frame)
      | _ => none
  | none => none

/-- Amount and decimals, when the data is an instruction that starts a withdrawal. -/
def startWithdrawalArgs (data : List UInt8) : Option (UInt64 × UInt8) :=
  if data.length = 10 ∧ data.headD 0 = 7 then some (word64At data 1, data.getD 9 0) else none

/-- The effect of a withdrawal of tokens, for an instruction of a registered bridge. -/
def tokenWithdrawalEffect (bank : Ledger) (tx : ExecutedTransaction)
    (state : CommittedStateV2) (call : RecordedCall) (program : Pubkey) :
    Except TransactionError (Option SettlementEffectV2) :=
  let ix := call.instruction.instruction
  match startWithdrawalArgs ix.data with
  | none => .ok none
  | some (amount, decimals) =>
    if ix.accounts.length < 7 then .ok none
    else do
      let owner ← orCancel (tx.account ix 0)
      let account ← orCancel (tx.account ix 1)
      let bridge ← orCancel (tx.account ix 2)
      let portal ← orCancel (tx.account ix 3)
      let destination ← orCancel (tx.account ix 4)
      match registrationOf env bank bridge program with
      | none => return none
      | some (registration, frame) => do
        let context ← orCancel (state.identity.commitment env).toOption
        let (expected, bump) := findSessionBridgeV2Pda env context frame.base.mint
        rejectIf (frame.sessionContext ≠ context ∨ bridge ≠ expected ∨ frame.base.bump ≠ bump ∨
          frame.base.session ≠ state.identity.session ∨ registration.executable = true)
          .commitCancelled
        let value ← orCancel state.accounts[account]?
        let token ← orCancel (parseErTokenAccount value.data)
        rejectIf (portal ≠ env.programId ∨ value.owner ≠ program ∨ token.owner ≠ owner ∨
          token.sessionBridge ≠ bridge ∨ token.mint ≠ frame.base.mint ∨
          tx.account ix 5 ≠ some frame.base.tokenProgram ∨
          tx.account ix 6 ≠ some frame.base.mint ∨
          (call.topLevel = true ∧ ¬(ix.accounts.headD 0).toNat < tx.numRequiredSignatures))
          .commitCancelled
        let cumulativeWithdrawn ← orCancel (checkedAdd (state.withdrawnOf account) amount)
        return some (.tokenWithdrawal program bridge account destination amount decimals
          cumulativeWithdrawn)

/-- The effect of one instruction, if it has one. -/
def settlementEffectOf (bank : Ledger) (tx : ExecutedTransaction)
    (inner : List RecordedInnerInstructionV2) (state : CommittedStateV2) (call : RecordedCall) :
    Except TransactionError (Option SettlementEffectV2) :=
  let ix := call.instruction.instruction
  match tx.key ix.programIdIndex with
  | none => .ok none
  | some program =>
    if program = env.programId ∧ ix.data.length = 9 ∧ ix.data.headD 0 = 13 ∧
        5 ≤ ix.accounts.length then
      (solWithdrawalEffect tx inner state call).map some
    else tokenWithdrawalEffect env bank tx state call program

/-- The effects of instructions one after another, each applied to the state. -/
def settlementEffectsOf (env : Env) (bank : Ledger) (tx : ExecutedTransaction)
    (inner : List RecordedInnerInstructionV2) : CommittedStateV2 → List RecordedCall →
      Except TransactionError (List (List UInt8) × CommittedStateV2)
  | state, [] => .ok ([], state)
  | state, call :: calls => do
    match ← settlementEffectOf env bank tx inner state call with
    | none => settlementEffectsOf env bank tx inner state calls
    | some effect => do
      let state ← orCancel
        ((CommittedStateV2.applySettlementEffects [effect.bytes]).on state).toOption
      let (effects, state) ← settlementEffectsOf env bank tx inner state calls
      return (effect.bytes :: effects, state)

/-- **The effects of a transaction**, and the state after them. -/
def v2SettlementEffects (bank : Ledger) (tx : ExecutedTransaction)
    (inner : List RecordedInnerInstructionV2) (state : CommittedStateV2) :
    Except TransactionError (List (List UInt8) × CommittedStateV2) :=
  settlementEffectsOf env bank tx inner state (recordedCalls tx inner)

/-- Source, recipient and lamports of a recorded effect on lamports. -/
def effectPayment (encoded : List UInt8) : Option (Pubkey × Pubkey × UInt64) :=
  match parseSettlementEffectV2 encoded with
  | some (.solWithdrawal source recipient amount _) => some (source, recipient, amount)
  | _ => none

@[simp] theorem parseSettlementEffectV2_bytes (effect : SettlementEffectV2) :
    parseSettlementEffectV2 effect.bytes = some effect := by
  cases effect with
  | solWithdrawal source recipient amount cumulativeWithdrawn
  | tokenWithdrawal bridge sessionBridge account destination amount decimals cumulativeWithdrawn =>
    have hlast := read64_append [] cumulativeWithdrawn
    rw [List.append_nil] at hlast
    simp [parseSettlementEffectV2, SettlementEffectV2.bytes, hlast]

/-! ## What the log records -/

/-- Source, recipient and lamports of a withdrawal that was found. -/
def Withdrawal.payment (w : Withdrawal) : Pubkey × Pubkey × UInt64 :=
  (w.erSource, w.l1Recipient, w.lamports)

/-- What a source withdraws in some payments. -/
def withdrawnBy (source : Pubkey) (payments : List (Pubkey × Pubkey × UInt64)) : Nat :=
  ((payments.filter (·.1 = source)).map fun payment => payment.2.2.toNat).sum

/-- The counter that the next event of a source starts from. -/
def counterBefore (l1ReceiptWithdrawn : Pubkey → UInt64) (cumulative : CumulativeBySource)
    (source : Pubkey) : UInt64 :=
  max ((cumulative source).getD (l1ReceiptWithdrawn source)) (l1ReceiptWithdrawn source)

section Log

variable (erSlot : UInt64) (l1 : Pubkey → UInt64)

/-- Only withdrawals are recorded, in their order. -/
theorem recordWithdrawals_sublist (cumulative : CumulativeBySource) (ws : List Withdrawal) :
    ((recordWithdrawals erSlot l1 cumulative ws).map (·.payment)).Sublist (ws.map (·.payment)) := by
  induction ws generalizing cumulative with
  | nil => exact List.Sublist.slnil
  | cons w ws ih =>
    cases hadd : checkedAdd (max ((cumulative w.erSource).getD (l1 w.erSource)) (l1 w.erSource))
      w.lamports with
    | none =>
      simp only [recordWithdrawals, hadd]
      exact (ih _).cons _
    | some c =>
      simp only [recordWithdrawals, hadd]
      exact (ih _).cons_cons _

theorem withdrawnBy_cons (source : Pubkey) (payment : Pubkey × Pubkey × UInt64)
    (payments : List (Pubkey × Pubkey × UInt64)) :
    withdrawnBy source (payment :: payments) =
      (if payment.1 = source then payment.2.2.toNat else 0) + withdrawnBy source payments := by
  unfold withdrawnBy
  by_cases h : payment.1 = source
  · simp [h]
  · simp [h]

/-- Every withdrawal is recorded exactly when no counter overflows. -/
theorem recordWithdrawals_eq_iff (cumulative : CumulativeBySource) (ws : List Withdrawal) :
    (recordWithdrawals erSlot l1 cumulative ws).map (·.payment) = ws.map (·.payment) ↔
      ∀ source, (counterBefore l1 cumulative source).toNat +
        withdrawnBy source (ws.map (·.payment)) < 2 ^ 64 := by
  induction ws generalizing cumulative with
  | nil =>
    refine iff_of_true rfl fun source => ?_
    exact (counterBefore l1 cumulative source).toNat_lt
  | cons w ws ih =>
    have hcounter : max ((cumulative w.erSource).getD (l1 w.erSource)) (l1 w.erSource) =
      counterBefore l1 cumulative w.erSource := rfl
    unfold recordWithdrawals
    simp only [hcounter, List.map_cons, withdrawnBy_cons]
    cases hadd : checkedAdd (counterBefore l1 cumulative w.erSource) w.lamports with
    | none =>
      -- the withdrawal is left out, and its own counter overflows
      refine iff_of_false ?_ ?_
      · intro h
        have hle := (recordWithdrawals_sublist erSlot l1 (Function.update cumulative w.erSource
          (some (counterBefore l1 cumulative w.erSource))) ws).length_le
        have hlength := congrArg List.length h
        simp only [List.length_map, List.length_cons] at hle hlength
        omega
      · intro h
        have hsource := h w.erSource
        have hlt : (counterBefore l1 cumulative w.erSource).toNat + w.lamports.toNat < 2 ^ 64 := by
          rw [if_pos (show w.payment.1 = w.erSource from rfl)] at hsource
          show _ + w.payment.2.2.toNat < _
          omega
        have hsome : checkedAdd (counterBefore l1 cumulative w.erSource) w.lamports =
            some (UInt64.ofNat ((counterBefore l1 cumulative w.erSource).toNat +
              w.lamports.toNat)) := by
          rw [checkedAdd_eq_some, UInt64.toNat_ofNat', Nat.mod_eq_of_lt hlt]
        rw [hadd] at hsome
        cases hsome
    | some c =>
      rw [checkedAdd_eq_some] at hadd
      have hnext : ∀ source,
          (counterBefore l1 (Function.update cumulative w.erSource (some c)) source).toNat =
            (counterBefore l1 cumulative source).toNat +
              (if w.payment.1 = source then w.payment.2.2.toNat else 0) := by
        intro source
        by_cases hsource : w.erSource = source
        · subst hsource
          rw [if_pos (show w.payment.1 = w.erSource from rfl)]
          have hl1 : (l1 w.erSource).toNat ≤ (counterBefore l1 cumulative w.erSource).toNat := by
            rw [counterBefore, toNat_max]
            exact Nat.le_max_right _ _
          rw [counterBefore, Function.update_self, Option.getD_some, toNat_max, hadd]
          exact Nat.max_eq_left (by omega)
        · rw [if_neg (show ¬w.payment.1 = source from hsource), counterBefore, counterBefore,
            Function.update_of_ne (Ne.symm hsource), Nat.add_zero]
      have htail := ih (Function.update cumulative w.erSource (some c))
      simp only [hnext, Nat.add_assoc] at htail
      rw [List.map_cons, List.cons_eq_cons, htail]
      exact and_iff_right rfl

end Log

/-! ## What is known of an executed withdrawal -/

theorem mapM_eq_some_cons {β : Type} {f : α → Option β} {as : List α} {b : β} {bs : List β}
    (h : as.mapM f = some (b :: bs)) :
    ∃ a rest, as = a :: rest ∧ f a = some b ∧ rest.mapM f = some bs := by
  cases as with
  | nil => simp at h
  | cons a rest =>
    simp only [List.mapM_cons, chain_some, List.cons.injEq] at h
    obtain ⟨b', hb, bs', hbs, rfl, rfl⟩ := h
    exact ⟨a, rest, rfl, hb, hbs⟩

/-- What the recorders can read of an instruction that Portal ran. -/
structure Readable (tx : ExecutedTransaction) (ix : CompiledInstruction)
    (source recipient system : Pubkey) : Prop where
  data : 9 ≤ ix.data.length
  accounts : 5 ≤ ix.accounts.length
  source : tx.account ix 0 = some source
  recipient : tx.account ix 1 = some recipient
  sink : tx.account ix 2 = some withdrawalSink
  system : tx.account ix 3 = some system
  clock : tx.account ix 4 = some clockSysvarId

section Executed

variable {env} {t : Trace} {tx : ExecutedTransaction} {ix : CompiledInstruction}
  {source : Pubkey} {index : Nat} {recipient system : Pubkey} {signature : Signature}

theorem RanStartWithdrawal.readable {invocation : Invocation} {later : List Invocation}
    (h : RanStartWithdrawal t invocation later) : ∃ source recipient system,
      Readable t.executed invocation.instruction source recipient system ∧
      invocation.isSigner (invocation.instruction.accounts.headD 0) = true ∧
      (word64At invocation.instruction.data 1 ≠ 0 → ∃ transfer ∈ later,
        IsTransfer t.executed transfer.instruction source
          (word64At invocation.instruction.data 1)) := by
  obtain ⟨source, recipient, sink, system, clock, rest, lamports, L, L', hmetas, hlamports, hclock,
    hran, htransfer⟩ := h
  -- the places of the five accounts
  obtain ⟨i, is, his, hi, hmetas⟩ := mapM_eq_some_cons hmetas
  obtain ⟨j, js, rfl, hj, hmetas⟩ := mapM_eq_some_cons hmetas
  obtain ⟨k, ks, rfl, hk, hmetas⟩ := mapM_eq_some_cons hmetas
  obtain ⟨l, ls, rfl, hl, hmetas⟩ := mapM_eq_some_cons hmetas
  obtain ⟨m, ms, rfl, hm, -⟩ := mapM_eq_some_cons hmetas
  simp only [Option.map_eq_some_iff] at hi hj hk hl hm
  obtain ⟨source, hi, rfl⟩ := hi
  obtain ⟨recipient, hj, rfl⟩ := hj
  obtain ⟨sink, hk, rfl⟩ := hk
  obtain ⟨system, hl, rfl⟩ := hl
  obtain ⟨clock, hm, rfl⟩ := hm
  have hcalled := hran
  simp only [processStartWithdrawal, Portal.startWithdrawal, chain_ok, Bool.not_eq_false] at hcalled
  obtain ⟨hsigner, hsink, -⟩ := hcalled
  obtain ⟨hdata, rfl⟩ : 9 ≤ invocation.instruction.data.length ∧
      word64At invocation.instruction.data 1 = lamports := by
    unfold startWithdrawalLamports at hlamports
    split at hlamports
    · rename_i h
      exact ⟨h.1, Option.some.inj hlamports⟩
    · cases hlamports
  refine ⟨source, recipient, system, ⟨hdata, ?_, ?_, ?_, ?_, ?_, ?_⟩, ?_, ?_⟩
  · rw [his]
    exact Nat.le_add_left 5 _
  · rw [ExecutedTransaction.account, his]
    exact hi
  · rw [ExecutedTransaction.account, his]
    exact hj
  · rw [ExecutedTransaction.account, his]
    exact hsink ▸ hk
  · rw [ExecutedTransaction.account, his]
    exact hl
  · rw [ExecutedTransaction.account, his]
    exact hclock ▸ hm
  · rw [his]
    exact hsigner
  · intro hpos
    obtain ⟨transfer, rest, rfl, -, htransfer⟩ := htransfer hpos
    exact ⟨transfer, List.mem_cons_self, htransfer⟩

section Ran

variable {call : Bool × CompiledInstruction} (ht : t.Lawful env) (hsucceeded : t.succeeded = true)
  (hcall : call ∈ t.calls) (hstarts : StartsWithdrawal env.programId t.executed call.2)

include ht hsucceeded hcall hstarts

theorem Trace.Lawful.ran :
    ∃ invocation later, invocation.instruction = call.2 ∧
      RanStartWithdrawal t invocation later := by
  obtain ⟨run, hrun, hcall⟩ := List.mem_flatMap.mp hcall
  obtain ⟨invocation, hmem, hinvocation⟩ :
      ∃ invocation ∈ run.1 :: run.2, invocation.instruction = call.2 := by
    rcases List.mem_cons.mp hcall with rfl | hcall
    · exact ⟨run.1, List.mem_cons_self, rfl⟩
    · obtain ⟨invocation, hmem, rfl⟩ := List.mem_map.mp hcall
      exact ⟨invocation, List.mem_cons_of_mem _ hmem, rfl⟩
  obtain ⟨earlier, later, hsplit⟩ := List.append_of_mem hmem
  exact ⟨invocation, later, hinvocation,
    ht hsucceeded run hrun earlier invocation later hsplit (hinvocation ▸ hstarts)⟩

/-- In a lawful trace whatever asks for a withdrawal is one. -/
theorem Trace.Lawful.readable :
    ∃ source recipient system, Readable t.executed call.2 source recipient system := by
  obtain ⟨invocation, later, hinvocation, hran⟩ := ht.ran hsucceeded hcall hstarts
  obtain ⟨source, recipient, system, h, -⟩ := hran.readable
  exact ⟨source, recipient, system, hinvocation ▸ h⟩

end Ran

theorem withdrawalIn_of_readable (hstarts : StartsWithdrawal env.programId tx ix)
    (h : Readable tx ix source recipient system) :
    withdrawalIn env.programId tx ix = some (source, recipient, word64At ix.data 1) := by
  have hlamports : startWithdrawalLamports ix.data = some (word64At ix.data 1) :=
    if_pos ⟨h.data, hstarts.2⟩
  rw [withdrawalIn, if_pos hstarts, hlamports, h.source, h.recipient]
  rfl

theorem isSome_withdrawalIn_iff (ht : t.Lawful env) (hsucceeded : t.succeeded = true)
    (hcall : call ∈ t.calls) :
    (withdrawalIn env.programId t.executed call.2).isSome = true ↔
      StartsWithdrawal env.programId t.executed call.2 := by
  constructor
  · intro h
    by_contra hstarts
    rw [withdrawalIn, if_neg hstarts] at h
    cases h
  · intro hstarts
    obtain ⟨source, recipient, system, hreadable⟩ := ht.readable hsucceeded hcall hstarts
    rw [withdrawalIn_of_readable hstarts hreadable]
    rfl

/-! ## Exactness of the log -/

/-- **The form the log looks for**: nine bytes, a positive amount, and the system program in
its place among the accounts. -/
def PlainWithdrawal (tx : ExecutedTransaction) (ix : CompiledInstruction) : Prop :=
  ix.data.length = 9 ∧ word64At ix.data 1 ≠ 0 ∧ tx.account ix 3 = some systemProgramId
  deriving Decidable

/-- A withdrawal that the log finds has that form. -/
theorem plain_of_withdrawalOf (h : withdrawalOf env.programId tx signature index ix = some w) :
    StartsWithdrawal env.programId tx ix ∧ PlainWithdrawal tx ix := by
  simp only [withdrawalOf, bind, Option.bind_eq_some_iff, Option.guard_eq_some', exists_const] at h
  obtain ⟨program, hprogram, ⟨rfl, hlength, htag, -⟩, hpos, source, -, recipient, -, sink, -,
    system, hsystem, clock, -, ⟨-, -, rfl, -⟩, -⟩ := h
  exact ⟨⟨hprogram, htag⟩, hlength, hpos, hsystem⟩

/-- The log finds every instruction of the message that Portal ran and that has that form. -/
theorem withdrawalOf_of_plain (hstarts : StartsWithdrawal env.programId tx ix)
    (hplain : PlainWithdrawal tx ix) (h : Readable tx ix source recipient system)
    (hsigner : (ix.accounts.headD 0).toNat < tx.numRequiredSignatures)
    (htransfer : transfersToSink tx index source (word64At ix.data 1) = true) :
    withdrawalOf env.programId tx signature index ix =
      some ⟨source, recipient, word64At ix.data 1, signature⟩ := by
  obtain ⟨hlength, hpos, hsystem⟩ := hplain
  simp only [withdrawalOf, bind, Option.bind_eq_some_iff, Option.guard_eq_some', exists_const]
  exact ⟨env.programId, hstarts.1, ⟨rfl, hlength, hstarts.2, h.accounts⟩, hpos, source, h.source,
    recipient, h.recipient, withdrawalSink, h.sink, systemProgramId, hsystem, clockSysvarId,
    h.clock, ⟨hsigner, rfl, rfl, rfl⟩, htransfer, rfl⟩

/-- The instruction at some place of the message, with what is below it. -/
theorem transfersToSink_of_mem {run : Invocation × List Invocation}
    (hrun : t.runs[index]? = some run) {transfer : Invocation} (hmem : transfer ∈ run.2)
    {lamports : UInt64} (h : IsTransfer t.executed transfer.instruction source lamports) :
    transfersToSink t.executed index source lamports = true := by
  have hinner : t.executed.innerInstructions.bind (fun inner => inner[index]?) =
      some (run.2.map (·.instruction)) := by
    simp [Trace.executed, hrun]
  rw [transfersToSink, hinner, Option.getD_some, List.any_eq_true]
  refine ⟨transfer.instruction, List.mem_map_of_mem hmem, ?_⟩
  rw [decide_eq_true_iff]
  exact ⟨h.program, h.accounts, h.data, h.source, h.sink⟩

/-- What the log finds of one instruction of the message. -/
theorem withdrawalOf_run (ht : t.Lawful env) (hsucceeded : t.succeeded = true)
    (hrun : t.runs[index]? = some run) :
    (withdrawalOf env.programId t.executed t.signature index run.1.instruction).map (·.payment) =
      if PlainWithdrawal t.executed run.1.instruction then
        withdrawalIn env.programId t.executed run.1.instruction
      else none := by
  have hmem : run ∈ t.runs := List.mem_of_getElem? hrun
  by_cases hplain : PlainWithdrawal t.executed run.1.instruction
  · rw [if_pos hplain]
    by_cases hstarts : StartsWithdrawal env.programId t.executed run.1.instruction
    · obtain ⟨source, recipient, system, hreadable, hsigner, htransfer⟩ :=
        (ht hsucceeded run hmem [] run.1 run.2 rfl hstarts).readable
      obtain ⟨transfer, hbelow, htransfer⟩ := htransfer hplain.2.1
      rw [t.isSigner_eq run hmem, decide_eq_true_iff] at hsigner
      rw [withdrawalOf_of_plain hstarts hplain hreadable hsigner
        (transfersToSink_of_mem hrun hbelow htransfer), withdrawalIn_of_readable hstarts hreadable]
      rfl
    · rw [withdrawalIn, if_neg hstarts, Option.map_eq_none_iff, Option.eq_none_iff_forall_ne_some]
      exact fun w hw => hstarts (plain_of_withdrawalOf hw).1
  · rw [if_neg hplain, Option.map_eq_none_iff, Option.eq_none_iff_forall_ne_some]
    exact fun w hw => hplain (plain_of_withdrawalOf hw).2

/-- **What the log finds** of a transaction. -/
theorem withdrawalsOf_eq (ht : t.Lawful env) (hsucceeded : t.succeeded = true) :
    (withdrawalsOf env.programId t.executed).map (·.payment) =
      t.calls.filterMap fun call =>
        if call.1 = true ∧ PlainWithdrawal t.executed call.2 then
          withdrawalIn env.programId t.executed call.2
        else none := by
  have hfound : withdrawalsOf env.programId t.executed =
      t.executed.instructions.zipIdx.filterMap fun p =>
        withdrawalOf env.programId t.executed t.signature p.2 p.1 := by
    unfold withdrawalsOf
    rw [show t.executed.succeeded = true from hsucceeded]
    rfl
  -- instruction by instruction; what is below one is not looked at
  have hrun : ∀ p ∈ t.runs.zipIdx,
      ((withdrawalOf env.programId t.executed t.signature p.2 p.1.1.instruction).map
        (·.payment)).toList =
      (((true, p.1.1.instruction) :: p.1.2.map fun i => (false, i.instruction)).filterMap
        fun call =>
          if call.1 = true ∧ PlainWithdrawal t.executed call.2 then
            withdrawalIn env.programId t.executed call.2
          else none) := by
    intro p hp
    have hbelow : (p.1.2.map fun i => (false, i.instruction)).filterMap
        (fun call : Bool × CompiledInstruction =>
          if call.1 = true ∧ PlainWithdrawal t.executed call.2 then
            withdrawalIn env.programId t.executed call.2
          else none) = [] := by
      rw [List.filterMap_map, List.filterMap_eq_nil_iff]
      intro i _
      simp
    have hget : t.runs[p.2]? = some p.1 := List.mem_zipIdx_iff_getElem?.mp hp
    rw [withdrawalOf_run ht hsucceeded hget, List.filterMap_cons, hbelow]
    simp only [true_and]
    by_cases h : PlainWithdrawal t.executed p.1.1.instruction
    · rw [if_pos h]
      cases withdrawalIn env.programId t.executed p.1.1.instruction <;> rfl
    · rw [if_neg h]
      rfl
  calc (withdrawalsOf env.programId t.executed).map (·.payment)
      = t.runs.zipIdx.flatMap fun p =>
          ((withdrawalOf env.programId t.executed t.signature p.2 p.1.1.instruction).map
            (·.payment)).toList := by
        rw [hfound, List.map_filterMap, ← List.filterMap_eq_flatMap_toList]
        simp only [Trace.executed, List.zipIdx_map, List.filterMap_map]
        rfl
    _ = t.runs.zipIdx.flatMap fun p =>
          (((true, p.1.1.instruction) :: p.1.2.map fun i => (false, i.instruction)).filterMap
            fun call =>
              if call.1 = true ∧ PlainWithdrawal t.executed call.2 then
                withdrawalIn env.programId t.executed call.2
              else none) := List.flatMap_congr hrun
    _ = _ := by
        rw [Trace.calls, List.filterMap_flatMap]
        conv_rhs => rw [← List.zipIdx_map_fst 0 t.runs, List.flatMap_map]

end Executed

/-! ## Exactness of the effects -/

section Effects

variable {env} {t : Trace} {bank : Ledger} {inner : List RecordedInnerInstructionV2}
  {tx : ExecutedTransaction} {state state' : CommittedStateV2} {call : RecordedCall}
  {effect : SettlementEffectV2} {effects : List (List UInt8)}

theorem solWithdrawalEffect_eq_ok (h : solWithdrawalEffect tx inner state call = .ok effect) :
    ∃ source recipient cumulativeWithdrawn,
      tx.account call.instruction.instruction 0 = some source ∧
      tx.account call.instruction.instruction 1 = some recipient ∧
      effect = .solWithdrawal source recipient (word64At call.instruction.instruction.data 1)
        cumulativeWithdrawn := by
  simp only [solWithdrawalEffect, chain_ok, orCancel_eq_ok] at h
  obtain ⟨source, hsource, recipient, hrecipient, -, -, -, -, -, -, -, cumulativeWithdrawn, -,
    rfl⟩ := h
  exact ⟨source, recipient, cumulativeWithdrawn, hsource, hrecipient, rfl⟩

/-- An instruction of a bridge has no effect on lamports. -/
theorem effectPayment_tokenWithdrawal
    (h : tokenWithdrawalEffect env bank tx state call program = .ok (some effect)) :
    effectPayment effect.bytes = none := by
  simp only [tokenWithdrawalEffect] at h
  split at h
  · cases h
  · split at h
    · cases h
    · simp only [bind_eq_ok, orCancel_eq_ok] at h
      obtain ⟨owner, -, account, -, bridge, -, portal, -, destination, -, h⟩ := h
      split at h
      · cases h
      · simp only [chain_ok, orCancel_eq_ok, Option.some.injEq] at h
        obtain ⟨context, -, -, value, -, token, -, -, cumulativeWithdrawn, -, rfl⟩ := h
        simp only [effectPayment, parseSettlementEffectV2_bytes]

/-- **What one instruction contributes**: the withdrawal Portal reads from it, if it has nine
bytes. -/
theorem settlementEffectOf_eq_ok
    (haccounts : StartsWithdrawal env.programId tx call.instruction.instruction → 5 ≤
      call.instruction.instruction.accounts.length)
    (h : settlementEffectOf env bank tx inner state call = .ok result) :
    (result.bind fun effect => effectPayment effect.bytes) =
      if call.instruction.instruction.data.length = 9 then
        withdrawalIn env.programId tx call.instruction.instruction
      else none := by
  unfold settlementEffectOf at h
  cases hprogram : tx.key call.instruction.instruction.programIdIndex with
  | none =>
    have hstarts : ¬StartsWithdrawal env.programId tx call.instruction.instruction := by
      intro hstarts
      cases hprogram.symm.trans hstarts.1
    simp only [hprogram, Except.ok.injEq] at h
    rw [← h, withdrawalIn, if_neg hstarts, ite_self]
    rfl
  | some program =>
    simp only [hprogram] at h
    split at h
    · rename_i hcond
      obtain ⟨rfl, hlength, htag, -⟩ := hcond
      have hstarts : StartsWithdrawal env.programId tx call.instruction.instruction :=
        ⟨hprogram, htag⟩
      have hlamports : startWithdrawalLamports call.instruction.instruction.data =
          some (word64At call.instruction.instruction.data 1) :=
        if_pos ⟨hlength.ge, htag⟩
      obtain ⟨effect, heffect, rfl⟩ := map_eq_ok.mp h
      obtain ⟨source, recipient, cumulativeWithdrawn, hsource, hrecipient, rfl⟩ :=
        solWithdrawalEffect_eq_ok heffect
      rw [if_pos hlength, withdrawalIn, if_pos hstarts, hlamports, hsource, hrecipient]
      simp only [Option.bind_some, effectPayment, parseSettlementEffectV2_bytes]
      rfl
    · rename_i hcond
      have hnone : (result.bind fun effect => effectPayment effect.bytes) = none := by
        cases result with
        | none => rfl
        | some effect => exact effectPayment_tokenWithdrawal h
      rw [hnone]
      split
      · rename_i hlength
        have hstarts : ¬StartsWithdrawal env.programId tx call.instruction.instruction :=
          fun hstarts => hcond ⟨Option.some.inj (hprogram.symm.trans hstarts.1), hlength,
            hstarts.2, haccounts hstarts⟩
        rw [withdrawalIn, if_neg hstarts]
      · rfl

/-- The effects of instructions, one after another. -/
theorem settlementEffectsOf_eq_ok
    (haccounts : ∀ call ∈ calls, StartsWithdrawal env.programId tx call.instruction.instruction →
      5 ≤ call.instruction.instruction.accounts.length)
    (h : settlementEffectsOf env bank tx inner state calls = .ok (effects, state')) :
    effects.filterMap effectPayment = calls.filterMap fun call =>
      if call.instruction.instruction.data.length = 9 then
        withdrawalIn env.programId tx call.instruction.instruction
      else none := by
  induction calls generalizing state effects with
  | nil =>
    cases h
    rfl
  | cons call calls ih =>
    rw [List.forall_mem_cons] at haccounts
    simp only [settlementEffectsOf, bind_eq_ok] at h
    obtain ⟨result, hresult, h⟩ := h
    rw [List.filterMap_cons, ← settlementEffectOf_eq_ok haccounts.1 hresult]
    cases result with
    | none => exact ih haccounts.2 h
    | some effect =>
      simp only [chain_ok, Prod.mk.injEq] at h
      obtain ⟨next, -, ⟨rest, last⟩, hrest, rfl, rfl⟩ := h
      rw [List.filterMap_cons, ih haccounts.2 hrest]
      rfl

/-- The instructions that are looked at are those of the trace. -/
theorem recordedCalls_eq (t : Trace) :
    (recordedCalls t.executed t.inner).map (·.instruction.instruction) = t.calls.map Prod.snd := by
  have hnodup : (t.runs.zipIdx.map Prod.snd).Nodup := by
    rw [List.zipIdx_map_snd]
    exact List.nodup_range'
  have hinner : ∀ p ∈ t.runs.zipIdx, t.inner.filter (·.outerIndex = p.2) = Trace.innerOf p := by
    intro p hp
    refine Groups.filter_flatMap hnodup (fun q _ i hi => ?_) hp
    obtain ⟨invocation, -, rfl⟩ := List.mem_map.mp hi
    rfl
  have hrun : ∀ p ∈ t.runs.zipIdx,
      ((⟨true, ⟨p.2, 1, p.1.1.instruction⟩⟩ ::
        (t.inner.filter (·.outerIndex = p.2)).map fun i => (⟨false, i⟩ : RecordedCall)).map
          (·.instruction.instruction)) = (p.1.1 :: p.1.2).map (·.instruction) := by
    intro p hp
    rw [hinner p hp]
    simp [Trace.innerOf]
  calc (recordedCalls t.executed t.inner).map (·.instruction.instruction)
      = t.runs.zipIdx.flatMap fun p =>
          ((⟨true, ⟨p.2, 1, p.1.1.instruction⟩⟩ ::
            (t.inner.filter (·.outerIndex = p.2)).map fun i => (⟨false, i⟩ : RecordedCall)).map
              (·.instruction.instruction)) := by
        simp only [recordedCalls, Trace.executed, List.zipIdx_map, List.flatMap_map,
          List.map_flatMap]
        rfl
    _ = t.runs.zipIdx.flatMap fun p => (p.1.1 :: p.1.2).map (·.instruction) :=
        List.flatMap_congr hrun
    _ = t.runs.flatMap fun run => (run.1 :: run.2).map (·.instruction) := by
        conv_rhs => rw [← List.zipIdx_map_fst 0 t.runs, List.flatMap_map]
    _ = t.calls.map Prod.snd := by
        rw [Trace.calls, List.map_flatMap]
        refine List.flatMap_congr fun run _ => ?_
        simp

/-- **What the effects record** of a transaction. -/
theorem v2SettlementEffects_eq_ok (ht : t.Lawful env) (hsucceeded : t.succeeded = true)
    (h : v2SettlementEffects env bank t.executed t.inner state = .ok (effects, state')) :
    effects.filterMap effectPayment = t.calls.filterMap fun call =>
      if call.2.data.length = 9 then withdrawalIn env.programId t.executed call.2 else none := by
  have haccounts : ∀ call ∈ recordedCalls t.executed t.inner,
      StartsWithdrawal env.programId t.executed call.instruction.instruction →
        5 ≤ call.instruction.instruction.accounts.length := by
    intro call hcall hstarts
    have hmem : call.instruction.instruction ∈ t.calls.map Prod.snd :=
      recordedCalls_eq t ▸ List.mem_map_of_mem hcall
    obtain ⟨c, hc, heq⟩ := List.mem_map.mp hmem
    rw [← heq] at hstarts ⊢
    obtain ⟨source, recipient, system, hreadable⟩ := ht.readable hsucceeded hc hstarts
    exact hreadable.accounts
  have hcalls := settlementEffectsOf_eq_ok haccounts h
  have hmap := congrArg (List.filterMap fun ix : CompiledInstruction =>
    if ix.data.length = 9 then withdrawalIn env.programId t.executed ix else none)
    (recordedCalls_eq t)
  rw [List.filterMap_map, List.filterMap_map] at hmap
  exact hcalls.trans hmap

end Effects

/-! ## Exactness -/

/-- The invocations of the transactions of a batch that succeeded. -/
def attempts (batch : List Trace) : List (Trace × Bool × CompiledInstruction) :=
  batch.flatMap fun t => if t.succeeded then t.calls.map (t, ·) else []

theorem mem_attempts :
    a ∈ attempts batch ↔ a.1 ∈ batch ∧ a.1.succeeded = true ∧ a.2 ∈ a.1.calls := by
  obtain ⟨t, call⟩ := a
  simp only [attempts, List.mem_flatMap]
  constructor
  · rintro ⟨u, hu, hmem⟩
    split at hmem
    · rename_i hsucceeded
      obtain ⟨c, hc, heq⟩ := List.mem_map.mp hmem
      cases heq
      exact ⟨hu, hsucceeded, hc⟩
    · cases hmem
  · rintro ⟨ht, hsucceeded, hcall⟩
    refine ⟨t, ht, ?_⟩
    rw [if_pos hsucceeded]
    exact List.mem_map_of_mem hcall

section Batch

variable {env} {batch : List Trace}

theorem filterMap_attempts (f : Trace → Bool × CompiledInstruction →
    Option (Pubkey × Pubkey × UInt64)) :
    (attempts batch).filterMap (fun a => f a.1 a.2) =
      batch.flatMap fun t => if t.succeeded then t.calls.filterMap (f t) else [] := by
  rw [attempts, List.filterMap_flatMap]
  refine List.flatMap_congr fun t _ => ?_
  split
  · rw [List.filterMap_map]
    rfl
  · rfl

theorem withdrawals_eq_attempts : batch.flatMap (Trace.withdrawals env.programId) =
    (attempts batch).filterMap fun a => withdrawalIn env.programId a.1.executed a.2.2 :=
  (filterMap_attempts fun t call => withdrawalIn env.programId t.executed call.2).symm

theorem found_eq_attempts (hbatch : ∀ t ∈ batch, t.Lawful env) :
    ((batch.map Trace.executed).flatMap (withdrawalsOf env.programId)).map (·.payment) =
      (attempts batch).filterMap fun a =>
        if a.2.1 = true ∧ PlainWithdrawal a.1.executed a.2.2 then
          withdrawalIn env.programId a.1.executed a.2.2
        else none := by
  rw [filterMap_attempts fun t call =>
    if call.1 = true ∧ PlainWithdrawal t.executed call.2 then
      withdrawalIn env.programId t.executed call.2
    else none, List.flatMap_map, List.map_flatMap]
  refine List.flatMap_congr fun t ht => ?_
  by_cases hsucceeded : t.succeeded = true
  · rw [if_pos hsucceeded]
    exact withdrawalsOf_eq (hbatch t ht) hsucceeded
  · rw [if_neg hsucceeded]
    have hnone : withdrawalsOf env.programId t.executed = [] := by
      unfold withdrawalsOf
      rw [show t.executed.succeeded = false from Bool.eq_false_iff.mpr hsucceeded]
    rw [hnone, List.map_nil]

end Batch

/-- **Withdrawals are captured exactly** when they have the form the validator looks for. The
log finds instructions of the message only, with nine bytes, a positive amount and the system
program among the accounts, as long as no counter overflows; the effects find an invocation at
any depth, but with nine bytes only. -/
theorem withdrawals_captured_iff :
    (∀ (node : Node) (bank : Ledger) (erSlot : UInt64) (session : Pubkey) (batch : List Trace),
      node.env = env → node.sessionContext = none → node.sessionPda = some session →
      (∀ t ∈ batch, t.Lawful env) →
      ((recordWithdrawalPayoutEventsForBatch node bank erSlot (batch.map Trace.executed)).map
          (·.payment) =
        node.withdrawalPayoutEvents.map (·.payment) ++
          batch.flatMap (Trace.withdrawals env.programId) ↔
        (∀ t ∈ batch, t.succeeded = true → ∀ call ∈ t.calls,
          StartsWithdrawal env.programId t.executed call.2 →
            call.1 = true ∧ PlainWithdrawal t.executed call.2) ∧
        ∀ source, (counterBefore (l1ReceiptWithdrawn env bank session)
            (cumulativeBySource node.withdrawalPayoutEvents) source).toNat +
          withdrawnBy source (batch.flatMap (Trace.withdrawals env.programId)) < 2 ^ 64)) ∧
    (∀ (bank : Ledger) (t : Trace) (state state' : CommittedStateV2) (effects : List (List UInt8)),
      t.Lawful env → t.succeeded = true →
      v2SettlementEffects env bank t.executed t.inner state = .ok (effects, state') →
      (effects.filterMap effectPayment = t.withdrawals env.programId ↔
        ∀ call ∈ t.calls, StartsWithdrawal env.programId t.executed call.2 →
          call.2.data.length = 9)) := by
  constructor
  · intro node bank erSlot session batch henv hcontext hsession hbatch
    subst henv
    have hfound := found_eq_attempts hbatch
    have hrecorded := recordWithdrawals_sublist erSlot (l1ReceiptWithdrawn node.env bank session)
      (cumulativeBySource node.withdrawalPayoutEvents)
      ((batch.map Trace.executed).flatMap (withdrawalsOf node.env.programId))
    have hexact := recordWithdrawals_eq_iff erSlot (l1ReceiptWithdrawn node.env bank session)
      (cumulativeBySource node.withdrawalPayoutEvents)
      ((batch.map Trace.executed).flatMap (withdrawalsOf node.env.programId))
    simp only [recordWithdrawalPayoutEventsForBatch, hcontext, hsession, List.map_append]
    rw [List.append_cancel_left_eq, withdrawals_eq_attempts]
    rw [hfound] at hrecorded hexact
    have hguard := Groups.filterMap_guard_eq_iff
      (f := fun a : Trace × Bool × CompiledInstruction =>
        withdrawalIn node.env.programId a.1.executed a.2.2)
      (p := fun a => a.2.1 = true ∧ PlainWithdrawal a.1.executed a.2.2) (attempts batch)
    have hsublist := Groups.filterMap_guard_sublist
      (f := fun a : Trace × Bool × CompiledInstruction =>
        withdrawalIn node.env.programId a.1.executed a.2.2)
      (p := fun a => a.2.1 = true ∧ PlainWithdrawal a.1.executed a.2.2) (attempts batch)
    have hforms : (∀ a ∈ attempts batch,
        (withdrawalIn node.env.programId a.1.executed a.2.2).isSome = true →
          a.2.1 = true ∧ PlainWithdrawal a.1.executed a.2.2) ↔
        ∀ t ∈ batch, t.succeeded = true → ∀ call ∈ t.calls,
          StartsWithdrawal node.env.programId t.executed call.2 →
            call.1 = true ∧ PlainWithdrawal t.executed call.2 := by
      constructor
      · intro h t ht hsucceeded call hcall hstarts
        exact h (t, call) (mem_attempts.mpr ⟨ht, hsucceeded, hcall⟩)
          ((isSome_withdrawalIn_iff (hbatch t ht) hsucceeded hcall).mpr hstarts)
      · intro h a ha hsome
        obtain ⟨ht, hsucceeded, hcall⟩ := mem_attempts.mp ha
        exact h a.1 ht hsucceeded a.2 hcall
          ((isSome_withdrawalIn_iff (hbatch a.1 ht) hsucceeded hcall).mp hsome)
    constructor
    · intro h
      -- what is recorded lies within what is found, which lies within what was executed
      have hall := hsublist.eq_of_length (Nat.le_antisymm hsublist.length_le
        (h ▸ hrecorded.length_le))
      refine ⟨hforms.mp (hguard.mp hall), ?_⟩
      rw [hall] at hexact
      exact hexact.mp h
    · rintro ⟨hplain, hcounters⟩
      have hall := hguard.mpr (hforms.mpr hplain)
      rw [hall] at hexact
      exact hexact.mpr hcounters
  · intro bank t state state' effects ht hsucceeded h
    rw [v2SettlementEffects_eq_ok ht hsucceeded h, Trace.withdrawals, if_pos hsucceeded,
      Groups.filterMap_guard_eq_iff]
    refine forall₂_congr fun call hcall => ?_
    rw [isSome_withdrawalIn_iff ht hsucceeded hcall]

/-! ## A withdrawal with a trailing byte -/

/-- The source withdraws 5 lamports to wallet 40, with some bytes after the amount. -/
def localRun (trailing : List UInt8) : Trace where
  signature := Vector.replicate 64 9
  cosignatures := []
  accountKeys := [localSource, tagged 40 [], withdrawalSink, systemProgramId, clockSysvarId,
    localnet.programId]
  numRequiredSignatures := 1
  runs :=
    [(⟨1, ⟨5, [0, 1, 2, 3, 4], 13 :: le64 5 ++ trailing⟩, fun index => index.toNat < 1,
        fun index => index.toNat < 3⟩,
      [⟨2, ⟨3, [0, 2], le32 2 ++ le64 5⟩, fun index => index.toNat < 1,
        fun index => index.toNat < 3⟩])]
  succeeded := true
  height_eq := by simp
  isSigner_eq := by simp

/-- The rollup holds 100 lamports of the source. -/
def localRollup : Ledger := fun a =>
  if a = localSource then ⟨100, systemProgramId, false, .empty⟩
  else ⟨0, systemProgramId, false, .empty⟩

/-- Portal takes 5 lamports of the source, whatever follows the amount. -/
theorem localRun_lawful (trailing : List UInt8) : (localRun trailing).Lawful localnet := by
  intro _ run hrun earlier invocation later hsplit hstarts
  obtain rfl := List.mem_singleton.mp hrun
  rcases earlier with _ | ⟨first, _ | ⟨second, earlier⟩⟩
  · obtain ⟨rfl, rfl⟩ := List.cons.inj hsplit
    obtain ⟨L', hL'⟩ : ∃ L', processStartWithdrawal
        [⟨localSource, true, true⟩, ⟨tagged 40 [], false, true⟩, ⟨withdrawalSink, false, true⟩,
          ⟨systemProgramId, false, false⟩, ⟨clockSysvarId, false, false⟩] 5 localRollup =
            .ok L' := by
      have hok : (processStartWithdrawal
        [⟨localSource, true, true⟩, ⟨tagged 40 [], false, true⟩, ⟨withdrawalSink, false, true⟩,
          ⟨systemProgramId, false, false⟩, ⟨clockSysvarId, false, false⟩] 5
          localRollup).toOption.isSome = true := by decide +kernel
      obtain ⟨L', hL'⟩ := Option.isSome_iff_exists.mp hok
      exact ⟨L', toOption_eq_some.mp hL'⟩
    refine ⟨_, _, _, _, _, [], 5, localRollup, L', rfl, ?_, rfl, hL', fun _ => ?_⟩
    · have hlength : 9 ≤ (13 :: le64 5 ++ trailing).length := by simp [length_le64]
      exact if_pos ⟨hlength, rfl⟩
    · exact ⟨_, [], rfl, rfl, rfl, by decide, by decide, rfl, rfl⟩
  · obtain ⟨-, hsplit⟩ := List.cons.inj hsplit
    obtain ⟨rfl, -⟩ := List.cons.inj hsplit
    exact absurd (Option.some.inj hstarts.1) (by decide)
  · obtain ⟨-, hsplit⟩ := List.cons.inj hsplit
    obtain ⟨-, hsplit⟩ := List.cons.inj hsplit
    exact absurd hsplit (by simp)

/-- The source has deposited 100 lamports. -/
def localCredited : CommittedStateV2 :=
  { localStart with
    origins := (∅ : KeyMap AccountOriginV2).insert localSource (.solReceipt localReceipt)
    credited := (∅ : KeyMap UInt64).insert localReceipt 100 }

/-- A withdrawal of the usual form is recorded in both kinds of session. -/
theorem withdrawals_captured_plain :
    (recordWithdrawalPayoutEventsForBatch (localNode 95 []) localReceiptBank 1
      [(localRun []).executed]).map (·.payment) = (localRun []).withdrawals localnet.programId ∧
    ∃ effects state', v2SettlementEffects localnet localRollup (localRun []).executed
        (localRun []).inner localCredited = .ok (effects, state') ∧
      effects.filterMap effectPayment = (localRun []).withdrawals localnet.programId := by
  obtain ⟨hlog, heffects⟩ := withdrawals_captured_iff localnet
  constructor
  · have h := (hlog (localNode 95 []) localReceiptBank 1 (localnet.address .session)
      [localRun []] rfl rfl rfl (by simpa using localRun_lawful [])).mpr
      ⟨by decide +kernel, ?_⟩
    · simpa [localNode] using h
    · intro source
      by_cases hsource : source = localSource
      · subst hsource
        decide +kernel
      · have hpaid : [localRun []].flatMap (Trace.withdrawals localnet.programId) =
            [(localSource, tagged 40 [], 5)] := by decide +kernel
        rw [hpaid, withdrawnBy_cons, if_neg (Ne.symm hsource)]
        exact UInt64.toNat_lt _
  · have hok : (v2SettlementEffects localnet localRollup (localRun []).executed
        (localRun []).inner localCredited).toOption.isSome = true := by decide +kernel
    obtain ⟨⟨effects, state'⟩, hsome⟩ := Option.isSome_iff_exists.mp hok
    have hok := toOption_eq_some.mp hsome
    exact ⟨effects, state', hok, (heffects localRollup (localRun []) localCredited state' effects
      (localRun_lawful []) rfl hok).mpr (by decide +kernel)⟩

/-- **A trailing byte hides a withdrawal**: Portal takes the lamports to the sink, and neither
kind of session records it. -/
theorem trailing_byte_uncaptured :
    (localRun [0]).Lawful localnet ∧
    (localRun [0]).withdrawals localnet.programId = [(localSource, tagged 40 [], 5)] ∧
    recordWithdrawalPayoutEventsForBatch (localNode 95 []) localReceiptBank 1
      [(localRun [0]).executed] = [] ∧
    ∃ state', v2SettlementEffects localnet localRollup (localRun [0]).executed
      (localRun [0]).inner localCredited = .ok ([], state') := by
  refine ⟨localRun_lawful [0], ?_, ?_, ?_⟩
  · decide +kernel
  · decide +kernel
  · exact ⟨localCredited, by decide +kernel⟩

end Northstar.Runtime
