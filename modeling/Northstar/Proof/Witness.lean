import Northstar.Lib.Reader
import Northstar.Proof.Trees

/-!
# Witnesses of one step

What the prover is given for one step of a checkpoint: the transaction as it was signed, the
accounts before and after it, the rows of its execution, and the part of the checkpoint that
the step belongs to. Records that are hashed have their serialization beside them.
-/

namespace Northstar.Proof

open Bytes Reader Northstar.Portal

/-- What can be wrong with a witness. -/
inductive ReplayError
  | encoding
  | magic
  | version
  | domain
  | wire
  | signature
  | blockhash
  | accounts
  | fee
  | program
  | trace
  | opcode
  | register
  | memory
  | compute
  | outcome
  | commitment
  deriving DecidableEq

/-! ## Committed values -/

/-- An account in a committed state. -/
structure StateAccountValueV1 where
  account : Pubkey
  owner : Pubkey
  lamports : UInt64
  executable : Bool
  rentEpoch : UInt64
  dataHash : Hash32
  deriving DecidableEq

namespace StateAccountValueV1

/-- An entry as it is hashed. -/
def bytes (v : StateAccountValueV1) : List UInt8 :=
  v.account.toList ++ (v.owner.toList ++ (le64 v.lamports ++ (v.executable.toUInt8 ::
    (le64 v.rentEpoch ++ v.dataHash.toList))))

/-- Values are compared field by field. -/
def order (v : StateAccountValueV1) : List (List Nat) :=
  [v.account.toList.map UInt8.toNat, v.owner.toList.map UInt8.toNat, [v.lamports.toNat],
    [v.executable.toNat], [v.rentEpoch.toNat], v.dataHash.toList.map UInt8.toNat]

/-- An entry, and what is left. -/
def read (bytes : List UInt8) : Option (StateAccountValueV1 × List UInt8) := do
  let (account, rest) ← read32 bytes
  let (owner, rest) ← read32 rest
  let (lamports, rest) ← read64 rest
  let (executable, rest) ← readBool rest
  let (rentEpoch, rest) ← read64 rest
  let (dataHash, rest) ← read32 rest
  some (⟨account, owner, lamports, executable, rentEpoch, dataHash⟩, rest)

end StateAccountValueV1

/-- What a step does to an account. -/
structure CheckpointAccountEffectV1 where
  stepIndex : UInt32
  value : StateAccountValueV1
  deleted : Bool
  deriving DecidableEq

namespace CheckpointAccountEffectV1

/-- An effect as it is hashed. -/
def bytes (e : CheckpointAccountEffectV1) : List UInt8 :=
  le32 e.stepIndex ++ (e.value.bytes ++ [e.deleted.toUInt8])

/-- An effect, and what is left. -/
def read (bytes : List UInt8) : Option (CheckpointAccountEffectV1 × List UInt8) := do
  let (stepIndex, rest) ← readWord bytes
  let (value, rest) ← StateAccountValueV1.read rest
  let (deleted, rest) ← readBool rest
  some (⟨stepIndex, value, deleted⟩, rest)

end CheckpointAccountEffectV1

/-- What a step does. -/
structure CheckpointTransactionEffectV1 where
  version : UInt8
  stepIndex : UInt32
  transactionHash : Hash32
  executedUnits : UInt64
  accountEffects : List CheckpointAccountEffectV1
  deriving DecidableEq

namespace CheckpointTransactionEffectV1

/-- The effect as it is hashed. -/
def bytes (e : CheckpointTransactionEffectV1) : List UInt8 :=
  e.version :: (le32 e.stepIndex ++ (e.transactionHash.toList ++ (le64 e.executedUnits ++
    (le 4 e.accountEffects.length ++ e.accountEffects.flatMap CheckpointAccountEffectV1.bytes))))

/-- The effect that the bytes are. -/
def parse (bytes : List UInt8) : Option CheckpointTransactionEffectV1 := do
  let (version, rest) ← readByte bytes
  let (stepIndex, rest) ← readWord rest
  let (transactionHash, rest) ← read32 rest
  let (executedUnits, rest) ← read64 rest
  let (count, rest) ← readWord rest
  let (accountEffects, rest) ← readMany CheckpointAccountEffectV1.read count.toNat rest
  atEnd rest
  some { version, stepIndex, transactionHash, executedUnits, accountEffects }

end CheckpointTransactionEffectV1

/-- An account of the base chain that a step reads. -/
structure ReadonlyL1ValueV1 where
  account : Pubkey
  owner : Pubkey
  lamports : UInt64
  dataHash : Hash32
  observedL1Slot : UInt64
  deriving DecidableEq

namespace ReadonlyL1ValueV1

/-- A value as it is hashed. -/
def bytes (v : ReadonlyL1ValueV1) : List UInt8 :=
  v.account.toList ++ (v.owner.toList ++ (le64 v.lamports ++ (v.dataHash.toList ++
    le64 v.observedL1Slot)))

/-- Values are ordered by their fields. -/
def order (v : ReadonlyL1ValueV1) : List (List Nat) :=
  [v.account.toList.map UInt8.toNat, v.owner.toList.map UInt8.toNat, [v.lamports.toNat],
    v.dataHash.toList.map UInt8.toNat, [v.observedL1Slot.toNat]]

end ReadonlyL1ValueV1

/-- A value with its path. -/
structure AuthenticatedReadonlyL1ValueV1 where
  globalIndex : UInt32
  valueIndex : UInt32
  value : ReadonlyL1ValueV1
  path : MerkleAuthenticationPathV1
  deriving DecidableEq

/-- An effect with its path. -/
structure AuthenticatedSettlementEffectV1 where
  globalIndex : UInt32
  effectIndex : UInt32
  effect : List UInt8
  path : MerkleAuthenticationPathV1
  deriving DecidableEq

/-- **The part of the checkpoint** that a step is proved against. -/
structure CheckpointBindingV1 where
  preStateAccounts : List StateAccountValueV1
  postStateAccounts : List StateAccountValueV1
  transactionEffect : List UInt8
  transactionEffectPath : MerkleAuthenticationPathV1
  checkpointTransactionEffectRoot : Hash32
  readonlyL1Values : List AuthenticatedReadonlyL1ValueV1
  readonlyL1Root : Hash32
  settlementEffects : List AuthenticatedSettlementEffectV1
  settlementEffectRoot : Hash32
  deriving DecidableEq

/-! ## Execution -/

/-- An account of the transaction. -/
structure AccountWitnessV1 where
  key : Pubkey
  signer : Bool
  writable : Bool
  lamports : UInt64
  owner : Pubkey
  executable : Bool
  rentEpoch : UInt64
  data : List UInt8
  deriving DecidableEq

/-- An instruction of the program. -/
structure ProgramWordV1 where
  pc : UInt64
  instruction : Vector UInt8 8
  lddwHigh : UInt32
  deriving DecidableEq

/-- A function that may be called. -/
structure CallTargetV1 where
  functionHash : UInt32
  targetPc : UInt64
  deriving DecidableEq

/-- One executed instruction, with the registers before it. The last register is the program
counter. -/
structure VmRowV1 where
  registers : Vector UInt64 12
  instruction : Vector UInt8 8
  syscallKey : UInt32
  deriving DecidableEq

/-- The runtime and the program. -/
structure RuntimeWitnessV1 where
  recentBlockhashes : List Hash32
  lamportsPerSignature : UInt64
  /-- The slot of the base chain at which readonly values were observed. -/
  slot : UInt64
  sbpfVersion : UInt8
  programId : Pubkey
  entryPc : UInt64
  programElf : List UInt8
  programHash : Hash32
  deriving DecidableEq

/-- How the transaction ended. -/
structure ResultWitnessV1 where
  executedSuccess : Bool
  transactionError : UInt32
  instructionError : UInt32
  customError : UInt32
  executedUnits : UInt64
  transactionFee : UInt64
  prioritizationFee : UInt64
  deriving DecidableEq

/-- **The witness** of one step. -/
structure ReplayWitnessV1 where
  magic : Vector UInt8 8
  version : UInt16
  proofKind : UInt8
  proofVersion : UInt8
  traceSchemaVersion : UInt16
  sessionContext : List UInt8
  erSlot : UInt64
  stepIndex : UInt64
  transactionBytes : List UInt8
  messageBytes : List UInt8
  signature : Vector UInt8 64
  signer : Pubkey
  recentBlockhash : Hash32
  instructionData : List UInt8
  preAccounts : List AccountWitnessV1
  postAccounts : List AccountWitnessV1
  rollbackAccounts : List AccountWitnessV1
  readonlyAccounts : List AccountWitnessV1
  checkpoint : CheckpointBindingV1
  runtime : RuntimeWitnessV1
  eventTags : List UInt8
  programWords : List ProgramWordV1
  callTargets : List CallTargetV1
  vmRows : List VmRowV1
  programInputBefore : List UInt8
  programInputAfter : List UInt8
  stackAfter : List UInt8
  heapAfter : List UInt8
  computeUnitsBefore : UInt64
  computeUnitsAfter : UInt64
  traceHash : Hash32
  result : ResultWitnessV1

end Northstar.Proof
