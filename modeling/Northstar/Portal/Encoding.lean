import Northstar.Portal.State

/-!
# The bytes of Portal records

The Borsh serialization of every record, with its discriminator. Portal reads records
through their loaders; the bytes matter where an account's data is copied, compared or
measured as a string.

## Main results

* `AccountData.length_bytes`: every record has the length its account was created with
-/

namespace Northstar.Portal

open Bytes

namespace SettlementStatus

def byte : SettlementStatus → UInt8
  | idle => 0
  | inProgress => 1

end SettlementStatus

namespace CheckpointStatus

def byte : CheckpointStatus → UInt8
  | pending => 0
  | committed => 1
  | cancelled => 2
  | settled => 3
  | challenged => 4
  | invalid => 5

end CheckpointStatus

namespace CheckpointBondStatus

def byte : CheckpointBondStatus → UInt8
  | locked => 0
  | released => 1
  | slashed => 2

end CheckpointBondStatus

namespace ChallengeStatus

def byte : ChallengeStatus → UInt8
  | active => 0
  | challengerWon => 1
  | validatorWon => 2

end ChallengeStatus

namespace ChallengeTurn

def byte : ChallengeTurn → UInt8
  | respondent => 0
  | challenger => 1
  | prove => 2

end ChallengeTurn

namespace DataAvailabilityStatus

def byte : DataAvailabilityStatus → UInt8
  | missing => 0
  | revealed => 1
  | defaulted => 2

end DataAvailabilityStatus

/-- A session, 226 bytes. -/
def Session.bytes (s : Session) : List UInt8 :=
  [243, 81, 72, 115, 214, 188, 72, 144] ++ le64 s.gridId ++ le64 s.ttlSlots ++ le64 s.feeCap ++
    le64 s.createdAt ++ le128 s.nonce ++ s.authority.toList ++ s.validator.toList ++
    le64 s.settlementIntervalSlots ++ le64 s.lastSettledL1Slot ++ le64 s.lastSettledErSlot ++
    [s.settlementStatus.byte] ++ le64 s.settlementErSlot ++ s.settlementChecksum.toList ++
    s.settlementAccumulator.toList ++ le64 s.settlementStartedL1Slot ++ [s.bump]

/-- A session of the second format. -/
def SessionV2.bytes (s : SessionV2) : List UInt8 :=
  ascii "NSSESS02" ++ s.base.bytes ++ s.l1Genesis.toList ++ s.profile.toList ++
    le64 s.ingressCount ++ s.ingressRoot.toList ++ le64 s.consumedIngressCount ++
    s.consumedIngressRoot.toList

/-- A checkpoint. -/
def Checkpoint.bytes (c : Checkpoint) : List UInt8 :=
  [199, 62, 186, 186, 98, 119, 211, 139] ++ c.session.toList ++ le64 c.erSlot ++
    le64 c.stepCount ++ c.previousStateRoot.toList ++ c.newStateRoot.toList ++
    c.traceRoot.toList ++ c.txEffectRoot.toList ++ c.readonlyL1Root.toList ++
    c.daCommitment.toList ++ c.effectCommitment.toList ++ c.proposer.toList ++
    le64 c.proposedAtL1Slot ++ le64 c.challengeDeadlineL1Slot ++ [c.status.byte] ++
    le64 c.bondLamports ++ [c.bondStatus.byte] ++ c.challenger.toList ++
    le64 c.challengedAtL1Slot ++ [c.challengeResolved.toUInt8] ++ [c.bump]

/-- A cursor. -/
def CheckpointCursor.bytes (c : CheckpointCursor) : List UInt8 :=
  [251, 223, 216, 188, 51, 244, 129, 196] ++ c.session.toList ++
    c.latestFinalizedCheckpoint.toList ++ le64 c.latestFinalizedErSlot ++
    c.latestFinalizedStateRoot.toList ++ c.activeCheckpoint.toList ++ le64 c.activeErSlot ++
    [c.bump]

/-- A challenge. -/
def Challenge.bytes (c : Challenge) : List UInt8 :=
  [119, 250, 161, 121, 119, 81, 22, 208] ++ c.checkpoint.toList ++ c.challenger.toList ++
    c.respondent.toList ++ le64 c.openedAtL1Slot ++ le64 c.hardDeadlineL1Slot ++
    le64 c.turnDeadlineL1Slot ++ le64 c.startStep ++ le64 c.endStep ++ le64 c.midpointStep ++
    c.startStateRoot.toList ++ c.endStateRoot.toList ++ c.midpointStateRoot.toList ++
    [c.status.byte] ++ [c.turn.byte] ++ le32 c.rounds ++ [c.bump]

/-- A data availability proof. -/
def DataAvailabilityProof.bytes (d : DataAvailabilityProof) : List UInt8 :=
  [24, 139, 155, 40, 135, 132, 79, 129] ++ d.challenge.toList ++ d.checkpoint.toList ++
    d.commitment.toList ++ d.payloadRoot.toList ++ d.inclusionProofHash.toList ++
    le64 d.revealedAtL1Slot ++ [d.status.byte] ++ [d.bump]

/-- A step proof. -/
def StepProofAccount.bytes (p : StepProofAccount) : List UInt8 :=
  [62, 34, 242, 0, 245, 185, 56, 19] ++ p.checkpoint.toList ++ p.challenge.toList ++
    p.authority.toList ++ [p.proofKind] ++ [p.proofVersion] ++ le64 p.stepIndex ++
    p.sessionContext.toList ++ p.txEffectRoot.toList ++ p.readonlyL1Root.toList ++
    p.settlementEffectRoot.toList ++ p.publicInputHash.toList ++ le32 p.writtenLen ++
    [p.isSealed.toUInt8] ++ p.proofHash.toList ++ [p.bump] ++ p.data.toList

/-- A fee vault. -/
def FeeVault.bytes (v : FeeVault) : List UInt8 :=
  [192, 178, 69, 232, 58, 149, 157, 132] ++ v.authority.toList ++ [v.bump]

/-- A delegation record. -/
def DelegationRecord.bytes (r : DelegationRecord) : List UInt8 :=
  [203, 185, 161, 226, 129, 251, 132, 155] ++ r.ownerProgram.toList ++ le64 r.gridId ++ [r.bump]

/-- A request to undelegate. -/
def UndelegationRequest.bytes (r : UndelegationRequest) : List UInt8 :=
  [141, 66, 225, 119, 110, 101, 37, 38] ++ r.session.toList ++ r.delegatedAccount.toList ++
    r.ownerProgram.toList ++ r.authority.toList ++ le64 r.requestedAtL1Slot ++
    [r.approved.toUInt8] ++ [r.bump]

/-- A receipt. -/
def DepositReceipt.bytes (r : DepositReceipt) : List UInt8 :=
  [64, 175, 24, 183, 138, 109, 70, 78] ++ r.session.toList ++ r.recipient.toList ++
    le64 r.balance ++ le64 r.withdrawn ++ [r.bump]

/-- A receipt of the second format. -/
def DepositReceiptV2.bytes (r : DepositReceiptV2) : List UInt8 :=
  ascii "NSRECP02" ++ r.base.bytes ++ r.sessionContext.toList ++ le64 r.totalDeposited

/-- A registered bridge. -/
def SessionBridge.bytes (b : SessionBridge) : List UInt8 :=
  [145, 47, 8, 254, 118, 119, 114, 215] ++ b.session.toList ++ b.mint.toList ++
    b.bridgeProgram.toList ++ b.vault.toList ++ b.tokenProgram.toList ++ [b.bump]

/-- A bridge of the second format. -/
def SessionBridgeV2.bytes (b : SessionBridgeV2) : List UInt8 :=
  ascii "NSBRDG02" ++ b.base.bytes ++ b.sessionContext.toList

/-- An authorization. -/
def TokenWithdrawalAuthorization.bytes (t : TokenWithdrawalAuthorization) : List UInt8 :=
  [201, 36, 84, 147, 113, 63, 92, 11] ++ t.checkpoint.toList ++ t.tupleHash.toList ++
    [t.consumed.toUInt8] ++ [t.bump]

/-- The counter of sessions. -/
def SessionEpochV2.bytes (s : SessionEpochV2) : List UInt8 :=
  ascii "NSEPOCH2" ++ le128 s.lastNonce ++ [s.bump]

/-- An opening of a state root. -/
def StateRootOpeningV2.bytes (o : StateRootOpeningV2) : List UInt8 :=
  o.sessionContext.toList ++ o.accountRoot.toList ++ o.originRoot.toList ++
    le64 o.ingressCount ++ o.ingressRoot.toList

/-- The openings of a checkpoint. -/
def CheckpointBindingV2.bytes (b : CheckpointBindingV2) : List UInt8 :=
  ascii "NSCHKP02" ++ b.checkpoint.toList ++ b.pre.bytes ++ b.post.bytes ++
    b.prefixRecord.toList ++ b.inputContextRoot.toList ++ [b.bump]

/-- A payload, after its tag. -/
def IngressPayloadV2.bytes : IngressPayloadV2 → List UInt8
  | .delegation account record owner lamports dataLen dataHash executable rentEpoch =>
    [0] ++ account.toList ++ record.toList ++ owner.toList ++ le64 lamports ++ le32 dataLen ++
      dataHash.toList ++ [executable.toUInt8] ++ le64 rentEpoch
  | .solDeposit recipient receipt amount cumulativeDeposited =>
    [1] ++ recipient.toList ++ receipt.toList ++ le64 amount ++ le64 cumulativeDeposited
  | .tokenDeposit bridge sessionBridge account receipt mint tokenProgram originDeposited amount
      cumulativeDeposited =>
    [2] ++ bridge.toList ++ sessionBridge.toList ++ account.toList ++ receipt.toList ++
      mint.toList ++ tokenProgram.toList ++ le64 originDeposited ++ le64 amount ++
      le64 cumulativeDeposited
  | .freeze account request requestedL1Slot =>
    [3] ++ account.toList ++ request.toList ++ le64 requestedL1Slot
  | .release account request => [4] ++ account.toList ++ request.toList

/-- An ingress record. -/
def IngressRecordV2.bytes (r : IngressRecordV2) : List UInt8 :=
  ascii "NSINGR02" ++ [r.version] ++ r.sessionContext.toList ++ le64 r.sequence ++
    le64 r.l1Slot ++ r.previousRoot.toList ++ r.payload.bytes ++ r.root.toList ++ [r.bump]

namespace AccountData

/-- **The serialized data** of an account. -/
def bytes : AccountData → List UInt8
  | raw bytes => bytes
  | session state => state.bytes
  | sessionV2 state => state.bytes
  | checkpoint state => state.bytes
  | cursor state => state.bytes
  | challenge state => state.bytes
  | daProof state => state.bytes
  | stepProof state => state.bytes
  | feeVault state => state.bytes
  | delegationRecord state => state.bytes
  | undelegationRequest state => state.bytes
  | depositReceipt state => state.bytes
  | depositReceiptV2 state => state.bytes
  | sessionBridge state => state.bytes
  | sessionBridgeV2 state => state.bytes
  | tokenWithdrawalAuthorization state => state.bytes
  | sessionEpochV2 state => state.bytes
  | checkpointBindingV2 state => state.bytes
  | ingressRecordV2 state => state.bytes

end AccountData

/-! ## Lengths -/

section Lengths

theorem Session.length_bytes (s : Session) : s.bytes.length = 226 := by
  unfold Session.bytes
  simp [-List.append_assoc]

theorem SessionV2.length_bytes (s : SessionV2) : s.bytes.length = 378 := by
  unfold SessionV2.bytes
  have hdiscriminator : (ascii "NSSESS02").length = 8 := rfl
  simp [-List.append_assoc, hdiscriminator, Session.length_bytes]

theorem Checkpoint.length_bytes (c : Checkpoint) : c.bytes.length = 380 := by
  unfold Checkpoint.bytes
  simp [-List.append_assoc]

theorem CheckpointCursor.length_bytes (c : CheckpointCursor) : c.bytes.length = 153 := by
  unfold CheckpointCursor.bytes
  simp [-List.append_assoc]

theorem Challenge.length_bytes (c : Challenge) : c.bytes.length = 255 := by
  unfold Challenge.bytes
  simp [-List.append_assoc]

theorem DataAvailabilityProof.length_bytes (d : DataAvailabilityProof) : d.bytes.length = 178 := by
  unfold DataAvailabilityProof.bytes
  simp [-List.append_assoc]

theorem StepProofAccount.length_bytes (p : StepProofAccount) : p.bytes.length = 668 := by
  unfold StepProofAccount.bytes
  simp [-List.append_assoc]

theorem FeeVault.length_bytes (v : FeeVault) : v.bytes.length = 41 := by
  unfold FeeVault.bytes
  simp [-List.append_assoc]

theorem DelegationRecord.length_bytes (r : DelegationRecord) : r.bytes.length = 49 := by
  unfold DelegationRecord.bytes
  simp [-List.append_assoc]

theorem UndelegationRequest.length_bytes (r : UndelegationRequest) : r.bytes.length = 146 := by
  unfold UndelegationRequest.bytes
  simp [-List.append_assoc]

theorem DepositReceipt.length_bytes (r : DepositReceipt) : r.bytes.length = 89 := by
  unfold DepositReceipt.bytes
  simp [-List.append_assoc]

theorem DepositReceiptV2.length_bytes (r : DepositReceiptV2) : r.bytes.length = 137 := by
  unfold DepositReceiptV2.bytes
  have hdiscriminator : (ascii "NSRECP02").length = 8 := rfl
  simp [-List.append_assoc, hdiscriminator, DepositReceipt.length_bytes]

theorem SessionBridge.length_bytes (b : SessionBridge) : b.bytes.length = 169 := by
  unfold SessionBridge.bytes
  simp [-List.append_assoc]

theorem SessionBridgeV2.length_bytes (b : SessionBridgeV2) : b.bytes.length = 209 := by
  unfold SessionBridgeV2.bytes
  have hdiscriminator : (ascii "NSBRDG02").length = 8 := rfl
  simp [-List.append_assoc, hdiscriminator, SessionBridge.length_bytes]

theorem TokenWithdrawalAuthorization.length_bytes (t : TokenWithdrawalAuthorization) :
    t.bytes.length = 74 := by
  unfold TokenWithdrawalAuthorization.bytes
  simp [-List.append_assoc]

theorem SessionEpochV2.length_bytes (s : SessionEpochV2) : s.bytes.length = 25 := by
  unfold SessionEpochV2.bytes
  have hdiscriminator : (ascii "NSEPOCH2").length = 8 := rfl
  simp [-List.append_assoc, hdiscriminator]

theorem StateRootOpeningV2.length_bytes (o : StateRootOpeningV2) : o.bytes.length = 136 := by
  unfold StateRootOpeningV2.bytes
  simp [-List.append_assoc]

theorem CheckpointBindingV2.length_bytes (b : CheckpointBindingV2) : b.bytes.length = 377 := by
  unfold CheckpointBindingV2.bytes
  have hdiscriminator : (ascii "NSCHKP02").length = 8 := rfl
  simp [-List.append_assoc, hdiscriminator, StateRootOpeningV2.length_bytes]

theorem IngressPayloadV2.length_bytes (p : IngressPayloadV2) :
    p.bytes.length = AccountData.payloadSize p := by
  cases p <;> simp [-List.append_assoc, IngressPayloadV2.bytes, AccountData.payloadSize]

theorem IngressRecordV2.length_bytes (r : IngressRecordV2) :
    r.bytes.length = 122 + AccountData.payloadSize r.payload := by
  unfold IngressRecordV2.bytes
  have hdiscriminator : (ascii "NSINGR02").length = 8 := rfl
  simp [-List.append_assoc, hdiscriminator, IngressPayloadV2.length_bytes]
  omega

/-- Every record has the length its account was created with. -/
theorem AccountData.length_bytes (d : AccountData) : d.bytes.length = d.size := by
  cases d with
  | raw bytes => rfl
  | session state | sessionV2 state | checkpoint state | cursor state | challenge state
  | daProof state | stepProof state | feeVault state | delegationRecord state
  | undelegationRequest state | depositReceipt state | depositReceiptV2 state
  | sessionBridge state | sessionBridgeV2 state | tokenWithdrawalAuthorization state
  | sessionEpochV2 state | checkpointBindingV2 state | ingressRecordV2 state =>
    exact state.length_bytes

end Lengths

end Northstar.Portal
