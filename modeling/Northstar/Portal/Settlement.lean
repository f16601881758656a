import Northstar.Portal.Checkpoint
import Northstar.Portal.Commitments
import Northstar.Portal.Session

/-!
# Settling a committed checkpoint

The validator opens a settlement of a committed checkpoint with a checksum of its own,
replays the checkpoint's effects on the delegated accounts and receipts, and finishes it.
Every effect that changes something is hashed into the session's accumulator, and the
settlement finishes only when the accumulator has become the checksum.
-/

namespace Northstar.Portal

open Bytes Checked PortalError

variable (env : Env) (now : UInt64)

/-! ## The accumulator -/

/-- The accumulator before any effect. -/
def initialSettlementChecksum (erSlot : UInt64) : Hash32 :=
  env.hashv [ascii "northstar-settlement-v0", le64 erSlot]

/-- **Accumulator step**: the accumulator so far, the kind of effect and its fields. -/
def accumulateChecksum (accumulator : Hash32) (kind : String)
    (fields : List (List UInt8)) : Hash32 :=
  env.hashv (accumulator.toList :: ascii kind :: fields)

/-- A chunk of data was written. -/
def accumulateDataChunkChecksum (accumulator : Hash32) (account : Pubkey)
    (accountDataOffset : UInt32) (data : List UInt8) : Hash32 :=
  accumulateChecksum env accumulator "data"
    [account.toList, le32 accountDataOffset, le 4 data.length, data]

/-- An owner was noted. -/
def accumulateOwnerChecksum (accumulator : Hash32) (account owner : Pubkey) :
    Hash32 :=
  accumulateChecksum env accumulator "owner" [account.toList, owner.toList]

/-- A balance was set. -/
def accumulateLamportsChecksum (accumulator : Hash32) (account : Pubkey)
    (lamports : UInt64) : Hash32 :=
  accumulateChecksum env accumulator "lamports" [account.toList, le64 lamports]

/-- A receipt was settled. -/
def accumulateReceiptChecksum (accumulator : Hash32) (erSource l1Recipient : Pubkey)
    (balance withdrawn payoutLamports : UInt64) : Hash32 :=
  accumulateChecksum env accumulator "receipt"
    [erSource.toList, l1Recipient.toList, le64 balance, le64 withdrawn, le64 payoutLamports]

/-! ## Guards -/

/-- The validator of the session signs. -/
def requireValidator (validator : AccountMeta) (session : Session) : Except ProgramError Unit :=
  rejectIf (validator.isSigner = false ∨ validator.address ≠ session.validator) unauthorized

/-- The settlement under way is this one. -/
def requireActiveSettlement (session : Session) (erSlot : UInt64) (checksum : Hash32) :
    Except ProgramError Unit := do
  rejectIf (session.settlementStatus ≠ .inProgress) settlementNotInProgress
  rejectIf (erSlot ≠ session.settlementErSlot) settlementErSlotMismatch
  rejectIf (checksum ≠ session.settlementChecksum) settlementChecksumMismatch

/-- The checkpoint, if it is committed. -/
def loadCheckpointForSettlement (L : Ledger) (sessionKey : Pubkey)
    (erSlot : UInt64) (checkpoint : Pubkey) : Except ProgramError Checkpoint := do
  let state ← loadCheckpoint env L sessionKey erSlot checkpoint
  rejectIf (state.status = .challenged) checkpointChallenged
  rejectIf (state.status ≠ .committed) checkpointStateInvalid
  return state

/-- The delegation an account holds. -/
def parseDelegationRecord : AccountData → Option DelegationRecord
  | .delegationRecord state => some state
  | _ => none

/-- The delegation of an account to the session. -/
def loadDelegationRecord (L : Ledger) (session : Session)
    (delegatedAccount delegationRecord : Pubkey) : Except ProgramError DelegationRecord := do
  rejectIf ((L delegatedAccount).owner ≠ env.programId) delegatedAccountOwnerMismatch
  rejectIf (delegationRecord ≠ (findDelegationRecordPda env delegatedAccount).1)
    delegationRecordAccountMismatch
  rejectIf ((L delegationRecord).owner ≠ env.programId) delegationRecordStateInvalid
  let state ← okOr (parseDelegationRecord (L delegationRecord).data)
    delegationRecordDeserializeFailed
  rejectIf (state.gridId ≠ session.gridId) delegationRecordStateInvalid
  return state

/-! ## Beginning -/

/-- The settlement that begins. -/
structure BeginSettlement where
  erSlot : UInt64
  checksum : Hash32
  effectCommitment : Hash32

/-- Beginning on its named accounts. -/
def beginSettlement (validator session checkpoint : AccountMeta)
    (args : BeginSettlement) (L : Ledger) : ProgramResult := do
  let sessionState ← loadSession env L session.address
  requireValidator validator sessionState
  rejectIf (sessionState.settlementStatus = .inProgress) settlementInProgress
  rejectIf (now < saturatingAdd sessionState.lastSettledL1Slot
    sessionState.settlementIntervalSlots) settlementTooEarly
  rejectIf (args.erSlot ≤ sessionState.lastSettledErSlot) settlementErSlotNotAdvanced
  let checkpointState ← loadCheckpointForSettlement env L session.address args.erSlot
    checkpoint.address
  rejectIf (checkpointState.effectCommitment ≠ args.effectCommitment) settlementChecksumMismatch
  storeSession L session.address
    { sessionState with
      settlementStatus := .inProgress
      settlementErSlot := args.erSlot
      settlementChecksum := args.checksum
      settlementAccumulator := initialSettlementChecksum env args.erSlot
      settlementStartedL1Slot := now }

/-- The accounts of `BeginSettlement`, in order. -/
def processBeginSettlement (accounts : List AccountMeta)
    (args : BeginSettlement) (L : Ledger) : ProgramResult :=
  match accounts with
  | validator :: session :: checkpoint :: _ =>
    beginSettlement env now validator session checkpoint args L
  | _ => .error .notEnoughAccountKeys

/-! ## Account data -/

/-- A chunk of an account's data. -/
structure WriteSettlementChunk where
  erSlot : UInt64
  checksum : Hash32
  accountDataOffset : UInt32
  chunkLen : UInt16
  chunk : Vector UInt8 700

/-- Write a chunk into a delegated account and accumulate it, unless the account holds it
already. -/
def installChunk (L : Ledger) (session : Pubkey) (sessionState : Session)
    (account : Pubkey) (offset : UInt32) (chunk : List UInt8) : ProgramResult :=
  if ((L account).data.bytes.drop offset.toNat).take chunk.length = chunk then .ok L
  else
    storeSession (L.setData account (.raw (splice (L account).data.bytes offset.toNat chunk)))
      session
      { sessionState with
        settlementAccumulator := accumulateDataChunkChecksum env
          sessionState.settlementAccumulator account offset chunk }

/-- Writing on its named accounts. -/
def writeSettlementChunk (validator session delegatedAccount delegationRecord : AccountMeta)
    (args : WriteSettlementChunk) (L : Ledger) : ProgramResult := do
  let sessionState ← loadSession env L session.address
  requireValidator validator sessionState
  requireActiveSettlement sessionState args.erSlot args.checksum
  let _ ← loadDelegationRecord env L sessionState delegatedAccount.address
    delegationRecord.address
  rejectIf (maxSettlementChunk < args.chunkLen.toNat) settlementChunkTooLarge
  rejectIf ((L delegatedAccount.address).data.size <
    args.accountDataOffset.toNat + args.chunkLen.toNat) settlementChunkOutOfBounds
  installChunk env L session.address sessionState delegatedAccount.address
    args.accountDataOffset (args.chunk.toList.take args.chunkLen.toNat)

/-- The accounts of `WriteSettlementChunk`. -/
def processWriteSettlementChunk (accounts : List AccountMeta)
    (args : WriteSettlementChunk) (L : Ledger) : ProgramResult :=
  match accounts with
  | validator :: session :: delegatedAccount :: delegationRecord :: _ =>
    writeSettlementChunk env validator session delegatedAccount delegationRecord args L
  | _ => .error .notEnoughAccountKeys

/-! ## Account owners -/

/-- The owner an account is settled to. -/
structure SettleAccountOwner where
  erSlot : UInt64
  checksum : Hash32
  owner : Pubkey

/-- Note the new owner in the delegation record and accumulate it, unless it is there
already. -/
def installOwner (L : Ledger) (session : Pubkey) (sessionState : Session)
    (account record : Pubkey) (delegation : DelegationRecord) (owner : Pubkey) : ProgramResult :=
  if delegation.ownerProgram = owner then .ok L
  else
    storeSession (L.setData record (.delegationRecord { delegation with ownerProgram := owner }))
      session
      { sessionState with
        settlementAccumulator := accumulateOwnerChecksum env
          sessionState.settlementAccumulator account owner }

/-- Settling the owner on its named accounts. -/
def settleAccountOwner (validator session delegatedAccount delegationRecord : AccountMeta)
    (args : SettleAccountOwner) (L : Ledger) : ProgramResult := do
  let sessionState ← loadSession env L session.address
  requireValidator validator sessionState
  requireActiveSettlement sessionState args.erSlot args.checksum
  let delegation ← loadDelegationRecord env L sessionState delegatedAccount.address
    delegationRecord.address
  installOwner env L session.address sessionState delegatedAccount.address
    delegationRecord.address delegation args.owner

/-- The accounts of `SettleAccountOwner`. -/
def processSettleAccountOwner (accounts : List AccountMeta)
    (args : SettleAccountOwner) (L : Ledger) : ProgramResult :=
  match accounts with
  | validator :: session :: delegatedAccount :: delegationRecord :: _ =>
    settleAccountOwner env validator session delegatedAccount delegationRecord args L
  | _ => .error .notEnoughAccountKeys

/-! ## Account lamports -/

/-- The balances accounts are settled to. -/
structure SettleAccountLamports where
  erSlot : UInt64
  checksum : Hash32
  accountCount : UInt8
  lamports : Vector UInt64 7

/-- Accounts listed as delegated account and record, by turns. -/
def delegatedPairs : List AccountMeta → List (Pubkey × Pubkey)
  | account :: record :: rest => (account.address, record.address) :: delegatedPairs rest
  | _ => []

/-- Every pair is a delegation of the session, and no account stands in two pairs. -/
def requireDelegatedPairs (env : Env) (L : Ledger) (session : Session) :
    (seen : List Pubkey) → List (Pubkey × Pubkey) → Except ProgramError Unit
  | _, [] => .ok ()
  | seen, (account, record) :: rest => do
    let _ ← loadDelegationRecord env L session account record
    rejectIf (account ∈ seen) .invalidInstructionData
    requireDelegatedPairs env L session (account :: seen) rest

/-- The balance each account is to end with. -/
abbrev LamportTargets := List (Pubkey × UInt64)

namespace LamportTargets

/-- Set every account to its target. -/
def install (targets : LamportTargets) (L : Ledger) : Ledger :=
  targets.foldl (fun L target => L.setLamports target.1 target.2) L

/-- Accumulate the targets in their order. -/
def accumulate (targets : LamportTargets) (env : Env) (accumulator : Hash32) : Hash32 :=
  targets.foldl (fun accumulator target =>
    accumulateLamportsChecksum env accumulator target.1 target.2) accumulator

/-- What the accounts hold together. -/
def currentTotal (targets : LamportTargets) (L : Ledger) : Nat :=
  (targets.map fun target => (L target.1).lamports.toNat).sum

/-- What they are to hold together. -/
def targetTotal (targets : LamportTargets) : Nat := (targets.map fun target => target.2.toNat).sum

/-- No account with data falls below rent. -/
def requireRentExempt (env : Env) (L : Ledger) : LamportTargets → Except ProgramError Unit
  | [] => .ok ()
  | (account, lamports) :: rest => do
    rejectIf (0 < (L account).data.size ∧ lamports < env.minimumBalance (L account).data.size)
      settlementLamportsBelowRentExempt
    requireRentExempt env L rest

end LamportTargets

/-- The fee vault that takes a surplus. It is absent for a settlement that names none; a
settlement already applied answers `none`. -/
def loadSurplusVault (L : Ledger) (session : Session) (targets : LamportTargets)
    (trailing : List AccountMeta) :
    (previousAccumulator : Option Hash32) → Except ProgramError (Option (Option Pubkey))
  | none => .ok (some none)
  | some previous => do
    let feeVault ← okOr trailing.head? .notEnoughAccountKeys
    rejectIf (feeVault.address ≠ (findFeeVaultPda env).1) invalidPdaSeeds
    rejectIf ((L feeVault.address).owner ≠ env.programId) invalidAccountData
    let vault ← parseFeeVault (L feeVault.address).data
    rejectIf (vault.bump ≠ (findFeeVaultPda env).2 ∨ vault.authority ≠ session.authority ∨
      feeVault.address ∈ targets.map Prod.fst) invalidAccountData
    if session.settlementAccumulator = targets.accumulate env previous then return none
    else do
      rejectIf (session.settlementAccumulator ≠ previous) settlementChecksumMismatch
      return some (some feeVault.address)

/-- The vault's balance after it took the surplus. Without a vault there is none to take. -/
def creditSurplus (L : Ledger) (surplus : Nat) :
    (vault : Option Pubkey) → Except ProgramError LamportTargets
  | none => do
    rejectIf (surplus ≠ 0) settlementLamportsNotConserved
    return []
  | some vault => do
    rejectIf (2 ^ 64 ≤ surplus) arithmeticOverflow
    let balance ← okOr (checkedAdd (L vault).lamports (UInt64.ofNat surplus)) arithmeticOverflow
    return [(vault, balance)]

/-- Move the lamports and accumulate the targets, unless there is nothing to move. -/
def installLamports (L : Ledger) (session : Pubkey) (sessionState : Session)
    (targets : LamportTargets) (vault : Option Pubkey) : ProgramResult := do
  targets.requireRentExempt env L
  if targets.all (fun target => (L target.1).lamports == target.2) = true ∧ vault = none then
    return L
  else do
    rejectIf (targets.currentTotal L < targets.targetTotal) settlementLamportsNotConserved
    let credit ← creditSurplus L (targets.currentTotal L - targets.targetTotal) vault
    storeSession (LamportTargets.install (targets ++ credit) L) session
      { sessionState with
        settlementAccumulator := targets.accumulate env sessionState.settlementAccumulator }

/-- Settling lamports on its named accounts. -/
def settleAccountLamports (validator session : AccountMeta)
    (pairs : List (Pubkey × Pubkey)) (trailing : List AccountMeta) (args : SettleAccountLamports)
    (previousAccumulator : Option Hash32) (L : Ledger) : ProgramResult := do
  let sessionState ← loadSession env L session.address
  requireValidator validator sessionState
  requireActiveSettlement sessionState args.erSlot args.checksum
  requireDelegatedPairs env L sessionState [] pairs
  let targets := (pairs.map Prod.fst).zip args.lamports.toList
  match ← loadSurplusVault env L sessionState targets trailing previousAccumulator with
  | none => return L
  | some vault => installLamports env L session.address sessionState targets vault

/-- The pairs of accounts, and those after them. -/
def processSettleAccountLamportsInner (accounts : List AccountMeta)
    (args : SettleAccountLamports) (previousAccumulator : Option Hash32) (L : Ledger) :
    ProgramResult := do
  let count := args.accountCount.toNat
  rejectIf (count = 0 ∨ maxSettlementLamportAccounts < count) .invalidInstructionData
  rejectIf (accounts.length < 2 + count * 2) .notEnoughAccountKeys
  match accounts with
  | validator :: session :: rest =>
    settleAccountLamports env validator session (delegatedPairs (rest.take (count * 2)))
      (rest.drop (count * 2)) args previousAccumulator L
  | _ => .error .notEnoughAccountKeys

/-! ## Finishing and aborting -/

/-- The session with no settlement under way. -/
def Session.clearSettlement (session : Session) : Session :=
  { session with
    settlementStatus := .idle
    settlementErSlot := 0
    settlementChecksum := zero32
    settlementAccumulator := zero32
    settlementStartedL1Slot := 0 }

/-- Finishing on its named accounts. -/
def finishSettlement (validator session checkpoint cursor : AccountMeta)
    (erSlot : UInt64) (checksum : Hash32) (L : Ledger) : ProgramResult := do
  let sessionState ← loadSession env L session.address
  requireValidator validator sessionState
  requireActiveSettlement sessionState erSlot checksum
  rejectIf (checksum ≠ sessionState.settlementAccumulator) settlementChecksumMismatch
  let checkpointState ← loadCheckpointForSettlement env L session.address erSlot
    checkpoint.address
  let cursorState ← loadCursor env L session.address cursor.address
  requireActiveCheckpoint cursorState checkpoint.address erSlot
  let L := L.setData checkpoint.address (.checkpoint { checkpointState with status := .settled })
  let L := L.setData cursor.address (.cursor cursorState.clearActive)
  storeSession L session.address
    { sessionState with lastSettledL1Slot := now, lastSettledErSlot := erSlot }.clearSettlement

/-- The accounts of `FinishSettlement`, in order. -/
def processFinishSettlement (accounts : List AccountMeta)
    (erSlot : UInt64) (checksum : Hash32) (L : Ledger) : ProgramResult :=
  match accounts with
  | validator :: session :: checkpoint :: cursor :: _ =>
    finishSettlement env now validator session checkpoint cursor erSlot checksum L
  | _ => .error .notEnoughAccountKeys

/-- Aborting on its named accounts: by the validator, or by the authority once the
settlement is overdue, and only while nothing was settled. -/
def abortSettlement (authorityOrValidator session : AccountMeta) (L : Ledger) : ProgramResult := do
  let sessionState ← loadSession env L session.address
  rejectIf (authorityOrValidator.isSigner = false) unauthorized
  rejectIf (sessionState.settlementStatus ≠ .inProgress) settlementNotInProgress
  rejectIf (authorityOrValidator.address ≠ sessionState.validator ∧
    ¬(authorityOrValidator.address = sessionState.authority ∧
      saturatingAdd sessionState.settlementStartedL1Slot sessionState.settlementIntervalSlots <
        now)) settlementUnauthorizedAbort
  rejectIf (sessionState.settlementAccumulator ≠
    initialSettlementChecksum env sessionState.settlementErSlot) settlementInProgress
  storeSession L session.address sessionState.clearSettlement

/-- The accounts of `AbortSettlement`, in order. -/
def processAbortSettlement (accounts : List AccountMeta) (L : Ledger) : ProgramResult :=
  match accounts with
  | authorityOrValidator :: session :: _ =>
    abortSettlement env now authorityOrValidator session L
  | _ => .error .notEnoughAccountKeys

end Northstar.Portal
