import Northstar.Portal.Accounts

/-!
# Opening and closing the session

A deployment has one session at a time. Closing it gives its accounts back, and is refused
while a settlement is under way or a checkpoint is in flight.
-/

namespace Northstar.Portal

open Bytes Checked PortalError

variable (env : Env)

/-! ## Opening -/

/-- What a session is opened with. -/
structure OpenSession where
  gridId : UInt64
  ttlSlots : UInt64
  feeCap : UInt64
  validator : Pubkey
  settlementIntervalSlots : UInt64

/-- What a session of the second format is opened with besides. -/
structure V2SessionInitialization where
  nonce : BitVec 128
  l1Genesis : Hash32
  profile : Hash32

/-- The common part of a fresh session. -/
def OpenSession.record (args : OpenSession) (authority : Pubkey) (now : UInt64)
    (nonce : BitVec 128) (bump : UInt8) : Session :=
  { gridId := args.gridId
    ttlSlots := args.ttlSlots
    feeCap := args.feeCap
    createdAt := now
    nonce := nonce
    authority := authority
    validator := args.validator
    settlementIntervalSlots := args.settlementIntervalSlots
    lastSettledL1Slot := now
    lastSettledErSlot := 0
    settlementStatus := .idle
    settlementErSlot := 0
    settlementChecksum := zero32
    settlementAccumulator := zero32
    settlementStartedL1Slot := 0
    bump := bump }

/-- The account data of a fresh session of either format. -/
def OpenSession.data (args : OpenSession) (authority : Pubkey) (now : UInt64)
    (version2 : Option V2SessionInitialization) (bump : UInt8) : AccountData :=
  match version2 with
  | none => .session (args.record authority now 0 bump)
  | some initial => .sessionV2
    { base := args.record authority now initial.nonce bump
      l1Genesis := initial.l1Genesis
      profile := initial.profile
      ingressCount := 0
      ingressRoot := zero32
      consumedIngressCount := 0
      consumedIngressRoot := zero32 }

/-- Opening on its named accounts. -/
def openSession (now : UInt64) (payer session feeVault : AccountMeta)
    (args : OpenSession) (version2 : Option V2SessionInitialization) (L : Ledger) :
    ProgramResult := do
  rejectIf (payer.isSigner = false) unauthorized
  rejectIf (args.settlementIntervalSlots = 0 ∨
    maxCheckpointCadenceL1Slots < args.settlementIntervalSlots) .invalidInstructionData
  let (sessionKey, sessionBump) := findSessionPda env
  let (feeVaultKey, feeVaultBump) := findFeeVaultPda env
  rejectIf (session.address ≠ sessionKey) invalidPdaSeeds
  rejectIf (feeVault.address ≠ feeVaultKey) invalidPdaSeeds
  let data := args.data payer.address now version2 sessionBump
  let L ← initializePdaAccount env L payer session.address (env.minimumBalance data.size) data.size
  let L ← initializePdaAccount env L payer feeVault.address (env.minimumBalance 41) 41
  let L := L.setData session.address data
  return L.setData feeVault.address (.feeVault { authority := payer.address, bump := feeVaultBump })

/-- The accounts of `OpenSession`, in order. -/
def processOpenSessionInitialized (now : UInt64) (accounts : List AccountMeta)
    (args : OpenSession) (version2 : Option V2SessionInitialization) (L : Ledger) : ProgramResult :=
  match accounts with
  | payer :: session :: feeVault :: _systemProgram :: _ =>
    openSession env now payer session feeVault args version2 L
  | _ => .error .notEnoughAccountKeys

/-! ## Closing -/

/-- A session of the first format, which is the only one that can be closed. -/
def parseSessionV1 : AccountData → Except ProgramError Session
  | .session state => .ok state
  | _ => .error sessionDeserializeFailed

/-- The fee vault an account holds. -/
def parseFeeVault : AccountData → Except ProgramError FeeVault
  | .feeVault state => .ok state
  | _ => .error invalidAccountData

/-- A cursor that exists has no checkpoint in flight. -/
def requireIdleCursor (L : Ledger) (session cursor : Pubkey) : Except ProgramError Unit :=
  if (L cursor).data = .empty then .ok () else do
    rejectIf ((L cursor).owner ≠ env.programId) checkpointCursorStateInvalid
    match (L cursor).data with
    | .cursor state => do
      rejectIf (state.session ≠ session) checkpointCursorStateInvalid
      rejectIf (state.activeCheckpoint ≠ zero32) checkpointActiveExists
    | _ => .error checkpointCursorDeserializeFailed

/-- Credit the balance of `a` to `closer`. -/
def refund (L : Ledger) (closer a : Pubkey) : ProgramResult :=
  if (L a).lamports = 0 then .ok L else do
    let lamports ← okOr (checkedAdd (L closer).lamports (L a).lamports) arithmeticOverflow
    return L.setLamports closer lamports

/-- Give the cursor account back, unless it holds nothing. -/
def closeCursor (L : Ledger) (closer cursor : Pubkey) : ProgramResult :=
  if (L cursor).lamports = 0 then .ok L else do
    let L ← refund L closer cursor
    return (L.setLamports cursor 0).close cursor

/-- Closing on its named accounts. -/
def closeSession (closer session feeVault cursor : AccountMeta) (L : Ledger) : ProgramResult := do
  rejectIf (closer.isSigner = false) unauthorized
  rejectIf (session.address ≠ (findSessionPda env).1) invalidPdaSeeds
  rejectIf (feeVault.address ≠ (findFeeVaultPda env).1) invalidPdaSeeds
  rejectIf (cursor.address ≠ (findCheckpointCursorPda env session.address).1) invalidPdaSeeds
  let sessionState ← parseSessionV1 (L session.address).data
  rejectIf (closer.address ≠ sessionState.authority) unauthorized
  let feeVaultState ← parseFeeVault (L feeVault.address).data
  rejectIf (feeVaultState.authority ≠ closer.address) unauthorized
  rejectIf (sessionState.settlementStatus = .inProgress) settlementInProgress
  requireIdleCursor env L session.address cursor.address
  let L ← refund L closer.address feeVault.address
  let L := L.setLamports feeVault.address 0
  let L ← refund L closer.address session.address
  let L ← closeCursor L closer.address cursor.address
  let L := L.setLamports session.address 0
  return (L.close feeVault.address).close session.address

/-- The accounts of `CloseSession`, in order. -/
def processCloseSession (accounts : List AccountMeta) (L : Ledger) : ProgramResult :=
  match accounts with
  | closer :: session :: feeVault :: _systemProgram :: cursor :: _ =>
    closeSession env closer session feeVault cursor L
  | _ => .error .notEnoughAccountKeys

end Northstar.Portal
