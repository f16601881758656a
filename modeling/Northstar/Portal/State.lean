import Northstar.Lib.Bytes

/-!
# Portal account state

The records that the Portal program keeps in its accounts, and the errors its
instructions answer with. An account's discriminator is its constructor in
`AccountData`: only Portal writes these accounts, each at an address derived for its
record, so a record is never read at an account of another kind.
-/

namespace Northstar.Portal

open Bytes

/-- Addresses of accounts and programs. -/
abbrev Pubkey := Bytes32

/-- 32-byte digests and roots. -/
abbrev Hash32 := Bytes32

/-! ## Protocol constants -/

def maxSettlementChunk : Nat := 700
def maxSettlementLamportAccounts : Nat := 7
def checkpointProposerBondLamports : UInt64 := 1000000
def maxCheckpointCadenceL1Slots : UInt64 := 75
def canonicalCheckpointSteps : UInt64 := 16
def maxChallengeWindowSlots : UInt64 := 9000
def challengeTurnWindowSlots : UInt64 := 750
def maxStepProofBytes : Nat := 356
def maxStepProofChunk : Nat := 128

/-! ## Records -/

/-- Whether a settlement is under way. -/
inductive SettlementStatus
  | idle
  | inProgress
  deriving DecidableEq, Repr

/-- The session: policy, settlement progress and the accumulator of the settlement
under way. -/
structure Session where
  gridId : UInt64
  ttlSlots : UInt64
  feeCap : UInt64
  createdAt : UInt64
  nonce : BitVec 128
  authority : Pubkey
  validator : Pubkey
  settlementIntervalSlots : UInt64
  lastSettledL1Slot : UInt64
  lastSettledErSlot : UInt64
  settlementStatus : SettlementStatus
  settlementErSlot : UInt64
  settlementChecksum : Hash32
  settlementAccumulator : Hash32
  settlementStartedL1Slot : UInt64
  bump : UInt8
  deriving DecidableEq

/-- How far a checkpoint got. -/
inductive CheckpointStatus
  | pending
  | committed
  | cancelled
  | settled
  | challenged
  | invalid
  deriving DecidableEq, Repr

/-- Where the bond of a proposal is. -/
inductive CheckpointBondStatus
  | locked
  | released
  | slashed
  deriving DecidableEq, Repr

/-- A proposed checkpoint: the roots it claims, its proposer's bond and how far its
challenge got. -/
structure Checkpoint where
  session : Pubkey
  erSlot : UInt64
  stepCount : UInt64
  previousStateRoot : Hash32
  newStateRoot : Hash32
  traceRoot : Hash32
  txEffectRoot : Hash32
  readonlyL1Root : Hash32
  daCommitment : Hash32
  effectCommitment : Hash32
  proposer : Pubkey
  proposedAtL1Slot : UInt64
  challengeDeadlineL1Slot : UInt64
  status : CheckpointStatus
  bondLamports : UInt64
  bondStatus : CheckpointBondStatus
  challenger : Pubkey
  challengedAtL1Slot : UInt64
  challengeResolved : Bool
  bump : UInt8
  deriving DecidableEq

/-- The cursor of a session: the checkpoint committed last and the one in flight. -/
structure CheckpointCursor where
  session : Pubkey
  latestFinalizedCheckpoint : Pubkey
  latestFinalizedErSlot : UInt64
  latestFinalizedStateRoot : Hash32
  activeCheckpoint : Pubkey
  activeErSlot : UInt64
  bump : UInt8
  deriving DecidableEq

/-- How a challenge stands. -/
inductive ChallengeStatus
  | active
  | challengerWon
  | validatorWon
  deriving DecidableEq, Repr

/-- Who is to move. -/
inductive ChallengeTurn
  | respondent
  | challenger
  | prove
  deriving DecidableEq, Repr

/-- A challenge: the disputed interval of steps with the roots claimed at its ends,
and whose turn it is. -/
structure Challenge where
  checkpoint : Pubkey
  challenger : Pubkey
  respondent : Pubkey
  openedAtL1Slot : UInt64
  hardDeadlineL1Slot : UInt64
  turnDeadlineL1Slot : UInt64
  startStep : UInt64
  endStep : UInt64
  midpointStep : UInt64
  startStateRoot : Hash32
  endStateRoot : Hash32
  midpointStateRoot : Hash32
  status : ChallengeStatus
  turn : ChallengeTurn
  rounds : UInt32
  bump : UInt8
  deriving DecidableEq

/-- Whether the data was revealed. -/
inductive DataAvailabilityStatus
  | missing
  | revealed
  | defaulted
  deriving DecidableEq, Repr

/-- The data the respondent has to reveal. -/
structure DataAvailabilityProof where
  challenge : Pubkey
  checkpoint : Pubkey
  commitment : Hash32
  payloadRoot : Hash32
  inclusionProofHash : Hash32
  revealedAtL1Slot : UInt64
  status : DataAvailabilityStatus
  bump : UInt8
  deriving DecidableEq

/-- The uploaded step proof with the public inputs it is bound to. -/
structure StepProofAccount where
  checkpoint : Pubkey
  challenge : Pubkey
  authority : Pubkey
  proofKind : UInt8
  proofVersion : UInt8
  stepIndex : UInt64
  sessionContext : Hash32
  txEffectRoot : Hash32
  readonlyL1Root : Hash32
  settlementEffectRoot : Hash32
  publicInputHash : Hash32
  writtenLen : UInt32
  isSealed : Bool
  proofHash : Hash32
  bump : UInt8
  data : Vector UInt8 356
  deriving DecidableEq

/-- The account that takes fees and surpluses. -/
structure FeeVault where
  authority : Pubkey
  bump : UInt8
  deriving DecidableEq

/-- The program an account was delegated from. -/
structure DelegationRecord where
  ownerProgram : Pubkey
  gridId : UInt64
  bump : UInt8
  deriving DecidableEq

/-- A request to give a delegated account back. -/
structure UndelegationRequest where
  session : Pubkey
  delegatedAccount : Pubkey
  ownerProgram : Pubkey
  authority : Pubkey
  requestedAtL1Slot : UInt64
  approved : Bool
  bump : UInt8
  deriving DecidableEq

/-- The escrow receipt of one recipient; `withdrawn` counts the lamports paid out. -/
structure DepositReceipt where
  session : Pubkey
  recipient : Pubkey
  balance : UInt64
  withdrawn : UInt64
  bump : UInt8
  deriving DecidableEq

/-- The bridge a session has for a mint. -/
structure SessionBridge where
  session : Pubkey
  mint : Pubkey
  bridgeProgram : Pubkey
  vault : Pubkey
  tokenProgram : Pubkey
  bump : UInt8
  deriving DecidableEq

/-- A token withdrawal that was settled. -/
structure TokenWithdrawalAuthorization where
  checkpoint : Pubkey
  tupleHash : Hash32
  consumed : Bool
  bump : UInt8
  deriving DecidableEq

/-! ## Records of the second checkpoint format -/

/-- A session of the second format: the common part and its ingress chain. -/
structure SessionV2 where
  base : Session
  l1Genesis : Hash32
  profile : Hash32
  ingressCount : UInt64
  ingressRoot : Hash32
  consumedIngressCount : UInt64
  consumedIngressRoot : Hash32
  deriving DecidableEq

/-- The number of sessions so far. -/
structure SessionEpochV2 where
  lastNonce : BitVec 128
  bump : UInt8
  deriving DecidableEq

/-- A receipt of one session. -/
structure DepositReceiptV2 where
  base : DepositReceipt
  sessionContext : Hash32
  totalDeposited : UInt64
  deriving DecidableEq

/-- A bridge of one session. -/
structure SessionBridgeV2 where
  base : SessionBridge
  sessionContext : Hash32
  deriving DecidableEq

/-- What a state root commits to. -/
structure StateRootOpeningV2 where
  sessionContext : Hash32
  accountRoot : Hash32
  originRoot : Hash32
  ingressCount : UInt64
  ingressRoot : Hash32
  deriving DecidableEq

/-- The openings that a checkpoint came with. -/
structure CheckpointBindingV2 where
  checkpoint : Pubkey
  pre : StateRootOpeningV2
  post : StateRootOpeningV2
  prefixRecord : Pubkey
  inputContextRoot : Hash32
  bump : UInt8
  deriving DecidableEq

/-- What a session is told of the base chain. -/
inductive IngressPayloadV2
  | delegation (account record owner : Pubkey) (lamports : UInt64) (dataLen : UInt32)
      (dataHash : Hash32) (executable : Bool) (rentEpoch : UInt64)
  | solDeposit (recipient receipt : Pubkey) (amount cumulativeDeposited : UInt64)
  | tokenDeposit (bridge sessionBridge account receipt mint tokenProgram : Pubkey)
      (originDeposited amount cumulativeDeposited : UInt64)
  | freeze (account request : Pubkey) (requestedL1Slot : UInt64)
  | release (account request : Pubkey)
  deriving DecidableEq

/-- An entry of the ingress chain. -/
structure IngressRecordV2 where
  version : UInt8
  sessionContext : Hash32
  sequence : UInt64
  l1Slot : UInt64
  previousRoot : Hash32
  payload : IngressPayloadV2
  root : Hash32
  bump : UInt8
  deriving DecidableEq

/-! ## Account contents -/

/-- **Account data**: a Portal record, or the bytes of an account Portal keeps no
record in (an empty account, a delegated account, another program's account). -/
inductive AccountData
  | raw (bytes : List UInt8)
  | session (state : Session)
  | sessionV2 (state : SessionV2)
  | checkpoint (state : Checkpoint)
  | cursor (state : CheckpointCursor)
  | challenge (state : Challenge)
  | daProof (state : DataAvailabilityProof)
  | stepProof (state : StepProofAccount)
  | feeVault (state : FeeVault)
  | delegationRecord (state : DelegationRecord)
  | undelegationRequest (state : UndelegationRequest)
  | depositReceipt (state : DepositReceipt)
  | depositReceiptV2 (state : DepositReceiptV2)
  | sessionBridge (state : SessionBridge)
  | sessionBridgeV2 (state : SessionBridgeV2)
  | tokenWithdrawalAuthorization (state : TokenWithdrawalAuthorization)
  | sessionEpochV2 (state : SessionEpochV2)
  | checkpointBindingV2 (state : CheckpointBindingV2)
  | ingressRecordV2 (state : IngressRecordV2)
  deriving DecidableEq

namespace AccountData

/-- No data at all. -/
def empty : AccountData := raw []

/-- The serialized length of an ingress payload, its variant tag included. -/
def payloadSize : IngressPayloadV2 → Nat
  | .delegation .. => 150
  | .solDeposit .. => 81
  | .tokenDeposit .. => 217
  | .freeze .. => 73
  | .release .. => 65

/-- The length of the data in bytes. -/
def size : AccountData → Nat
  | raw bytes => bytes.length
  | session _ => 226
  | sessionV2 _ => 378
  | checkpoint _ => 380
  | cursor _ => 153
  | challenge _ => 255
  | daProof _ => 178
  | stepProof _ => 668
  | feeVault _ => 41
  | delegationRecord _ => 49
  | undelegationRequest _ => 146
  | depositReceipt _ => 89
  | depositReceiptV2 _ => 137
  | sessionBridge _ => 169
  | sessionBridgeV2 _ => 209
  | tokenWithdrawalAuthorization _ => 74
  | sessionEpochV2 _ => 25
  | checkpointBindingV2 _ => 377
  | ingressRecordV2 state => 122 + payloadSize state.payload

end AccountData

/-! ## Errors -/

/-- The errors Portal itself defines. -/
inductive PortalError
  | invalidInstruction
  | invalidAccountData
  | sessionExpired
  | sessionStillActive
  | unauthorized
  | insufficientFees
  | arithmeticOverflow
  | invalidPdaSeeds
  | sessionAccountOwnerMismatch
  | sessionDeserializeFailed
  | sessionStateInvalid
  | depositReceiptDeserializeFailed
  | depositReceiptStateInvalid
  | delegatedAccountOwnerMismatch
  | delegationRecordAlreadyInitialized
  | delegationRecordDeserializeFailed
  | delegationRecordStateInvalid
  | delegateBufferOwnerMismatch
  | delegateBufferSizeMismatch
  | settlementInProgress
  | settlementNotInProgress
  | settlementTooEarly
  | settlementErSlotNotAdvanced
  | settlementErSlotMismatch
  | settlementChecksumMismatch
  | settlementChunkTooLarge
  | settlementChunkOutOfBounds
  | settlementUnauthorizedAbort
  | delegationRecordAccountMismatch
  | delegatedAccountDataNotEmpty
  | settlementLamportsNotConserved
  | settlementLamportsBelowRentExempt
  | withdrawalSinkMismatch
  | checkpointCommitTooEarly
  | checkpointStateInvalid
  | checkpointUnauthorizedCancel
  | checkpointErSlotNotAdvanced
  | checkpointDeserializeFailed
  | checkpointCursorStateInvalid
  | checkpointCursorDeserializeFailed
  | checkpointBondInsufficient
  | checkpointBondAlreadyResolved
  | checkpointChallenged
  | checkpointChallengeWindowClosed
  | stepProofStateInvalid
  | stepProofDeserializeFailed
  | stepProofAlreadySealed
  | stepProofNotSealed
  | stepProofChunkOutOfBounds
  | stepProofCheckpointMismatch
  | stepProofVerifierUnavailable
  | stepProofHashMismatch
  | checkpointCancelWindowClosed
  | checkpointPreviousRootMismatch
  | checkpointActiveExists
  | stepProofPublicInputMismatch
  | challengeStateInvalid
  | challengeDeserializeFailed
  | challengeTurnInvalid
  | challengeDeadlineNotReached
  | challengeResponseInvalid
  | dataAvailabilityStateInvalid
  | dataAvailabilityDeserializeFailed
  | dataAvailabilityCommitmentMismatch
  | checkpointChallengeWindowTooLong
  | stepProofVerificationFailed
  | undelegationRequestAlreadyInitialized
  | undelegationRequestDeserializeFailed
  | undelegationRequestStateInvalid
  | undelegationNotSettled
  deriving DecidableEq, Repr

/-- **How an instruction fails**: a Portal error, an error of the runtime or the
system program, or an aborted execution. -/
inductive ProgramError
  | portal (error : PortalError)
  | invalidInstructionData
  | invalidAccountData
  | notEnoughAccountKeys
  | incorrectProgramId
  | arithmeticOverflow
  | insufficientFunds
  | missingRequiredSignature
  | invalidArgument
  | externalAccountLamportSpend
  | accountAlreadyInUse
  | aborted
  deriving DecidableEq, Repr

instance : Coe PortalError ProgramError := ⟨ProgramError.portal⟩

end Northstar.Portal
