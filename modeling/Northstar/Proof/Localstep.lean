import Northstar.Game.Localnet
import Northstar.Proof.Relation

/-!
# Steps of the local deployment

Witnesses of one step, with the cryptography of the local deployment: a payer and a target,
and a program of two instructions that makes its one system call and exits. The roots are
those of the states that a step is given.
-/

namespace Northstar.Proof

open Bytes Checked Northstar.Portal

/-- Hashes as on the chain, and signatures that are always valid. -/
def localCrypto : Crypto where
  sha256 := localHash
  poseidon inputs := FrBytes.new (localHash (inputs.map fun x => x.bytes.toList).flatten)
  verifyStrict _ _ _ := true

/-- The account that pays the fee. -/
def localPayer (lamports : UInt64) (rentEpoch : UInt64) : AccountWitnessV1 where
  key := tagged 30 []
  signer := true
  writable := true
  lamports
  owner := zero32
  executable := false
  rentEpoch
  data := [0]

/-- The account that the program writes. -/
def localTarget (byte : UInt8) : AccountWitnessV1 where
  key := tagged 31 []
  signer := false
  writable := true
  lamports := 50
  owner := tagged 32 []
  executable := false
  rentEpoch := 0
  data := [byte]

/-- The message that the payer signs. -/
def localMessage : List UInt8 :=
  [1, 0, 1, 3] ++ (tagged 30 []).toList ++ (tagged 31 []).toList ++ (tagged 32 []).toList ++
    zero32.toList ++ [1, 2, 1, 1, 1, 1]

/-- The message with a signature. -/
def localTransaction : List UInt8 := 1 :: List.replicate 64 0 ++ localMessage

/-- A row of the execution. No register but the program counter is used. -/
def localRow (pc : UInt64) (instruction : Vector UInt8 8) (syscallKey : UInt32) : VmRowV1 :=
  { registers := #v[0, 0, 0, 0, 0, 0, 0, 0, 0, 0, 0, pc], instruction, syscallKey }

/-- **What a step may choose**: the fee, what becomes of the payer's rent epoch, and entries
of the states besides the payer and the target. -/
structure LocalStep where
  rate : UInt64 := 5
  rentEpoch : UInt64 := 0
  pre : List StateAccountValueV1 := []
  post : List StateAccountValueV1 := []

namespace LocalStep

variable (s : LocalStep)

/-- The accounts before the step. -/
def preAccounts : List AccountWitnessV1 := [localPayer 100 0, localTarget 7]

/-- The accounts after it. -/
def postAccounts : List AccountWitnessV1 :=
  [localPayer (100 - s.rate) s.rentEpoch, localTarget 100]

/-- What the step changes. -/
def effects : List CheckpointAccountEffectV1 := expectedEffects localHash 0 s.postAccounts

/-- The effect of the transaction. -/
def transactionEffect : List UInt8 :=
  CheckpointTransactionEffectV1.bytes
    { version := 1
      stepIndex := 0
      transactionHash := localHash localTransaction
      executedUnits := 1
      accountEffects := s.effects }

/-- The leaves of what is settled. -/
def settlementLeaves : List Hash32 :=
  s.effects.mapIdx fun i effect =>
    (settlementLeafHash localHash (UInt32.ofNat i) 0 (UInt32.ofNat i) effect.bytes).getD zero32

/-- What is settled, with its paths. -/
def settlementEffects : List AuthenticatedSettlementEffectV1 :=
  s.effects.mapIdx fun i effect =>
    { globalIndex := UInt32.ofNat i
      effectIndex := UInt32.ofNat i
      effect := effect.bytes
      path := (merklePath localHash .settlementEffect s.settlementLeaves i).getD ⟨0, 0, []⟩ }

/-- The part of the checkpoint. -/
def binding : CheckpointBindingV1 where
  preStateAccounts := s.pre ++ preAccounts.map (stateAccount localHash)
  postStateAccounts := s.post ++ s.postAccounts.map (stateAccount localHash)
  transactionEffect := s.transactionEffect
  transactionEffectPath := ⟨0, 1, []⟩
  checkpointTransactionEffectRoot := rootHash localHash .transactionEffect 1
    ((transactionEffectLeafHash localHash 0 localTransaction s.transactionEffect).getD zero32)
  readonlyL1Values := []
  readonlyL1Root := (merkleRoot localHash .readonlyL1 []).getD zero32
  settlementEffects := s.settlementEffects
  settlementEffectRoot :=
    (merkleRoot localHash .settlementEffect s.settlementLeaves).getD zero32

/-- The witness, but for the hash of its trace. -/
def unhashed : ReplayWitnessV1 where
  magic := witnessMagicV1
  version := 2
  proofKind := erStepProofKindFullTransaction
  proofVersion := erStepProofVersionV1
  traceSchemaVersion := 1
  sessionContext := ascii "local"
  erSlot := 3
  stepIndex := 0
  transactionBytes := localTransaction
  messageBytes := localMessage
  signature := Vector.replicate 64 0
  signer := tagged 30 []
  recentBlockhash := zero32
  instructionData := [1]
  preAccounts := preAccounts
  postAccounts := s.postAccounts
  rollbackAccounts := []
  readonlyAccounts := []
  checkpoint := s.binding
  runtime :=
    { recentBlockhashes := [zero32]
      lamportsPerSignature := s.rate
      slot := 9
      sbpfVersion := 0
      programId := tagged 32 []
      entryPc := 0
      programElf := [1]
      programHash := tagged 1 [] }
  eventTags := [6]
  programWords := [⟨0, #v[0x85, 0, 0, 0, 0, 0, 0, 0], 0⟩, ⟨1, exitInstruction, 0⟩]
  callTargets := []
  vmRows := [localRow 0 #v[0x85, 0, 0, 0, 0, 0, 0, 0] solMemcpyKey, localRow 1 exitInstruction 0]
  programInputBefore := []
  programInputAfter := []
  stackAfter := []
  heapAfter := []
  computeUnitsBefore := 2
  computeUnitsAfter := 1
  traceHash := zero32
  result :=
    { executedSuccess := true
      transactionError := 0
      instructionError := 0
      customError := 0
      executedUnits := 1
      transactionFee := s.rate
      prioritizationFee := 0 }

/-- **The witness** of the step. -/
def witness : ReplayWitnessV1 :=
  { s.unhashed with traceHash := traceHash localCrypto s.unhashed }

end LocalStep

end Northstar.Proof
