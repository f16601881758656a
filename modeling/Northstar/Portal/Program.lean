import Northstar.Lib.Run
import Northstar.Portal.Continuity
import Northstar.Portal.StepProof

/-!
# The Portal program

The instruction set of Portal, its dispatch, and histories of the chain it runs on. A
history interleaves calls of Portal with transactions of other programs; a failed call
leaves the ledger as it was.
-/

namespace Northstar.Portal

open Bytes Checked

variable (env : Env)

/-- **Instructions**, in the order of their tags. -/
inductive Instruction
  | openSession (args : OpenSession)
  | closeSession
  | depositFee (lamports : UInt64)
  | delegate (gridId : UInt64)
  | undelegate
  | beginSettlement (args : BeginSettlement)
  | writeSettlementChunk (args : WriteSettlementChunk)
  | finishSettlement (erSlot : UInt64) (checksum : Hash32)
  | abortSettlement
  | settleDepositReceipt (args : SettleDepositReceipt)
  | undelegateHandoff
  | settleAccountOwner (args : SettleAccountOwner)
  | settleAccountLamports (args : SettleAccountLamports) (previousAccumulator : Option Hash32)
  | startWithdrawal (lamports : UInt64)
  | proposeCheckpoint (args : ProposeCheckpoint)
  | commitCheckpoint (erSlot : UInt64)
  | cancelCheckpoint (erSlot : UInt64)
  | openChallenge (erSlot : UInt64)
  | createStepProof (args : CreateStepProof)
  | writeStepProof (args : WriteStepProof)
  | sealStepProof (erSlot : UInt64) (proofLen : UInt32)
  | resolveChallenge (erSlot : UInt64) (mode : StepProofVerifierMode)
  | registerSessionBridge (args : RegisterSessionBridge)
  | respondChallenge (args : RespondChallenge)
  | bisectChallenge (erSlot : UInt64) (disputeUpper : Bool)
  | timeoutChallenge (erSlot : UInt64)
  | accumulateTokenWithdrawal (args : TokenWithdrawal)
  | consumeTokenWithdrawal (args : TokenWithdrawal)
  | requestUndelegation
  | approveUndelegation
  | verifyErStepProofV1 (proof : Vector UInt8 356) (publicInputs : List UInt8)
  | openSessionV2 (args : OpenSessionV2)
  | delegateV2 (gridId : UInt64)
  | depositFeeV2 (lamports : UInt64)
  | proposeCheckpointV2 (args : ProposeCheckpointV2)
  | commitCheckpointV2 (erSlot : UInt64)
  | registerSessionBridgeV2 (args : RegisterSessionBridge)
  | recordTokenDepositV2 (amount : UInt64)

/-- An instruction that only some builds have. -/
def onlyWith (feature : Bool) (result : Except ProgramError Ledger) : ProgramResult :=
  if feature = true then result else .error .invalidInstructionData

/-- The bare check of a proof, which changes nothing. -/
def processVerifyErStepProofV1 (proof : Vector UInt8 356) (publicInputs : List UInt8)
    (L : Ledger) : ProgramResult := do
  rejectIf (env.verifyErStepProofV1 proof publicInputs = false)
    PortalError.stepProofVerificationFailed
  return L

/-- **Dispatch** of one instruction, at slot `now` of the clock. -/
def processInstruction (now : UInt64) (accounts : List AccountMeta)
    (instruction : Instruction) (L : Ledger) : ProgramResult :=
  match instruction with
  | .openSession args => processOpenSessionInitialized env now accounts args none L
  | .closeSession => processCloseSession env accounts L
  | .depositFee lamports => processDepositFee env now accounts lamports L
  | .delegate gridId => processDelegate env accounts gridId L
  | .undelegate => processUndelegateInner env accounts false L
  | .beginSettlement args => processBeginSettlement env now accounts args L
  | .writeSettlementChunk args => processWriteSettlementChunk env accounts args L
  | .finishSettlement erSlot checksum => processFinishSettlement env now accounts erSlot checksum L
  | .abortSettlement => processAbortSettlement env now accounts L
  | .settleDepositReceipt args => processSettleDepositReceipt env accounts args L
  | .undelegateHandoff => processUndelegateInner env accounts true L
  | .settleAccountOwner args => processSettleAccountOwner env accounts args L
  | .settleAccountLamports args previousAccumulator =>
    processSettleAccountLamportsInner env accounts args previousAccumulator L
  | .startWithdrawal lamports => processStartWithdrawal accounts lamports L
  | .proposeCheckpoint args => processProposeCheckpointVersioned env now accounts args false L
  | .commitCheckpoint erSlot => processCommitCheckpointVersioned env now accounts erSlot false L
  | .cancelCheckpoint erSlot => processCancelCheckpoint env now accounts erSlot L
  | .openChallenge erSlot => processOpenChallenge env now accounts erSlot L
  | .createStepProof args => processCreateStepProof env now accounts args L
  | .writeStepProof args => processWriteStepProof env now accounts args L
  | .sealStepProof erSlot proofLen => processSealStepProof env now accounts erSlot proofLen L
  | .resolveChallenge erSlot mode => processResolveChallenge env now accounts erSlot mode L
  | .registerSessionBridge args => processRegisterSessionBridge env accounts args L
  | .respondChallenge args => processRespondChallenge env now accounts args L
  | .bisectChallenge erSlot disputeUpper =>
    processBisectChallenge env now accounts erSlot disputeUpper L
  | .timeoutChallenge erSlot => processTimeoutChallenge env now accounts erSlot L
  | .accumulateTokenWithdrawal args => processAccumulateTokenWithdrawal env accounts args L
  | .consumeTokenWithdrawal args => processConsumeTokenWithdrawal env accounts args L
  | .requestUndelegation => processRequestUndelegation env now accounts L
  | .approveUndelegation => processApproveUndelegation env accounts L
  | .verifyErStepProofV1 proof publicInputs => onlyWith env.features.zkVerifierPrototype
    (processVerifyErStepProofV1 env proof publicInputs L)
  | .openSessionV2 args => onlyWith env.features.checkpointContinuityV2
    (processOpenSessionV2 env now accounts args L)
  | .delegateV2 gridId => onlyWith env.features.checkpointContinuityV2
    (processDelegateV2 env now accounts gridId L)
  | .depositFeeV2 lamports => onlyWith env.features.checkpointContinuityV2
    (processDepositFeeV2 env now accounts lamports L)
  | .proposeCheckpointV2 args => onlyWith env.features.checkpointContinuityV2
    (processProposeCheckpointV2 env now accounts args L)
  | .commitCheckpointV2 erSlot => onlyWith env.features.checkpointContinuityV2
    (processCommitCheckpointV2 env now accounts erSlot L)
  | .registerSessionBridgeV2 args => onlyWith env.features.checkpointContinuityV2
    (processRegisterSessionBridgeV2 env now accounts args L)
  | .recordTokenDepositV2 amount => onlyWith env.features.checkpointContinuityV2
    (processRecordTokenDepositV2 env now accounts amount L)

/-! ## Histories -/

/-- A call of Portal. -/
structure Call where
  slot : UInt64
  accounts : List AccountMeta
  instruction : Instruction

/-- **What happens on the chain**: a call of Portal, or transactions of other programs
with the ledger they lead to. -/
inductive Event
  | call (call : Call)
  | other (after : Ledger)

/-- What a call leads to. -/
def Call.result (c : Call) (L : Ledger) : ProgramResult :=
  processInstruction env c.slot c.accounts c.instruction L

/-- The ledger after an event. A failed call changes nothing. -/
def exec (L : Ledger) : Event → Ledger
  | .call c => match c.result env L with
    | .ok L' => L'
    | .error _ => L
  | .other after => after

/-- What other programs cannot do: change an account of Portal's or one at a derived
address, beyond adding lamports to it. -/
def LeavesPortalAlone (L L' : Ledger) : Prop :=
  ∀ a, (L a).owner = env.programId ∨ env.Derived a →
    (L' a).data = (L a).data ∧ (L' a).owner = (L a).owner ∧ (L a).lamports ≤ (L' a).lamports

/-- **What the runtime guarantees**: no one signs for a derived address, and other programs
leave Portal's accounts alone. -/
def Admissible (L : Ledger) : Event → Prop
  | .call c => ∀ m ∈ c.accounts, m.isSigner = true → ¬env.Derived m.address
  | .other after => LeavesPortalAlone env L after

theorem exec_call_of_ok {env : Env} {L L' : Ledger} {c : Call} (h : c.result env L = .ok L') :
    exec env L (.call c) = L' := by
  simp [exec, h]

theorem exec_call_of_error {env : Env} {L : Ledger} {c : Call} {e : ProgramError}
    (h : c.result env L = .error e) : exec env L (.call c) = L := by
  simp [exec, h]

end Northstar.Portal
