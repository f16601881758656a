import Northstar.Portal.Settlement

/-!
# Delegating accounts to the session

An account that its holder assigned to Portal is delegated by a record under its address:
the record names the program the account returns to. Returning it takes a request of the
holder that the validator approved.
-/

namespace Northstar.Portal

open Bytes Checked PortalError

variable (env : Env)

/-- A session of the first format at its own address. -/
def loadSessionV1 (L : Ledger) (session : Pubkey) (wrongKey wrongOwner : PortalError) :
    Except ProgramError Session := do
  rejectIf (session ≠ (findSessionPda env).1) wrongKey
  rejectIf ((L session).owner ≠ env.programId) wrongOwner
  parseSessionV1 (L session).data

/-! ## Delegating -/

/-- Delegation of one account: create its record and install the bytes of the buffer. -/
def processDelegateAccount (payer delegated ownerProgram record buffer : AccountMeta)
    (session : Session) (L : Ledger) : ProgramResult := do
  rejectIf (payer.isSigner = false) unauthorized
  rejectIf (delegated.isSigner = false) unauthorized
  rejectIf ((L delegated.address).owner ≠ env.programId) delegatedAccountOwnerMismatch
  let (recordKey, bump) := findDelegationRecordPda env delegated.address
  rejectIf (record.address ≠ recordKey) invalidPdaSeeds
  rejectIf ((L record.address).data ≠ .empty ∨ (L record.address).owner ≠ systemProgramId)
    delegationRecordAlreadyInitialized
  rejectIf ((L buffer.address).owner ≠ ownerProgram.address) delegateBufferOwnerMismatch
  rejectIf ((L buffer.address).data.size ≠ (L delegated.address).data.size)
    delegateBufferSizeMismatch
  let L ← initializePdaAccount env L payer record.address (env.minimumBalance 49) 49
  let L := L.setData record.address (.delegationRecord
    { ownerProgram := ownerProgram.address, gridId := session.gridId, bump := bump })
  return L.setData delegated.address (.raw (L buffer.address).data.bytes)

/-- Delegation of the accounts, in groups of four. -/
def delegateGroups (env : Env) (payer : AccountMeta) (session : Session) :
    List AccountMeta → Ledger → Except ProgramError Ledger
  | delegated :: ownerProgram :: record :: buffer :: rest, L => do
    let L ← processDelegateAccount env payer delegated ownerProgram record buffer session L
    delegateGroups env payer session rest L
  | _, L => .ok L

/-- The groups of accounts of `Delegate`. -/
def processDelegate (accounts : List AccountMeta) (gridId : UInt64) (L : Ledger) :
    ProgramResult := do
  rejectIf (accounts.length < 7) .notEnoughAccountKeys
  match accounts with
  | payer :: _systemProgram :: session :: groups => do
    rejectIf (groups.length % 4 ≠ 0) .invalidInstructionData
    let sessionState ← loadSessionV1 env L session.address .invalidPdaSeeds
      .sessionAccountOwnerMismatch
    rejectIf (sessionState.settlementStatus = .inProgress) settlementInProgress
    rejectIf (sessionState.gridId ≠ gridId) unauthorized
    delegateGroups env payer sessionState groups L
  | _ => .error .notEnoughAccountKeys

/-! ## Requesting and approving the way back -/

/-- The request an account holds. -/
def parseUndelegationRequest : AccountData → Option UndelegationRequest
  | .undelegationRequest state => some state
  | _ => none

/-- Requesting on its named accounts. -/
def requestUndelegation (now : UInt64)
    (payer authority delegated ownerProgram record session request : AccountMeta) (L : Ledger) :
    ProgramResult := do
  rejectIf (payer.isSigner = false ∨ authority.isSigner = false ∨ delegated.isSigner = false)
    unauthorized
  let sessionState ← loadSessionV1 env L session.address .invalidPdaSeeds .invalidPdaSeeds
  rejectIf (sessionState.isExpired now) sessionExpired
  rejectIf ((L delegated.address).owner ≠ env.programId) delegatedAccountOwnerMismatch
  rejectIf (record.address ≠ (findDelegationRecordPda env delegated.address).1 ∨
    (L record.address).owner ≠ env.programId) invalidPdaSeeds
  let delegation ← okOr (parseDelegationRecord (L record.address).data)
    delegationRecordDeserializeFailed
  rejectIf (delegation.ownerProgram ≠ ownerProgram.address) delegationRecordStateInvalid
  let (requestKey, bump) := findUndelegationRequestPda env delegated.address
  rejectIf (request.address ≠ requestKey) invalidPdaSeeds
  rejectIf ((L request.address).data ≠ .empty) undelegationRequestAlreadyInitialized
  let L ← initializePdaAccount env L payer request.address (env.minimumBalance 146) 146
  return L.setData request.address (.undelegationRequest
    { session := session.address
      delegatedAccount := delegated.address
      ownerProgram := ownerProgram.address
      authority := authority.address
      requestedAtL1Slot := now
      approved := false
      bump := bump })

/-- The accounts of `RequestUndelegation`. -/
def processRequestUndelegation (now : UInt64) (accounts : List AccountMeta)
    (L : Ledger) : ProgramResult :=
  match accounts with
  | payer :: authority :: delegated :: ownerProgram :: record :: session :: request ::
      _systemProgram :: _ =>
    requestUndelegation env now payer authority delegated ownerProgram record session request L
  | _ => .error .notEnoughAccountKeys

/-- Approving on its named accounts. -/
def approveUndelegation (validator session request : AccountMeta) (L : Ledger) : ProgramResult := do
  rejectIf (validator.isSigner = false) unauthorized
  let sessionState ← loadSessionV1 env L session.address .invalidPdaSeeds .invalidPdaSeeds
  rejectIf (sessionState.validator ≠ validator.address) unauthorized
  rejectIf (sessionState.settlementStatus ≠ .idle) settlementInProgress
  let state ← okOr (parseUndelegationRequest (L request.address).data)
    undelegationRequestDeserializeFailed
  let (requestKey, bump) := findUndelegationRequestPda env state.delegatedAccount
  rejectIf ((L request.address).owner ≠ env.programId ∨ request.address ≠ requestKey ∨
    state.bump ≠ bump ∨ state.session ≠ session.address) undelegationRequestStateInvalid
  return L.setData request.address (.undelegationRequest { state with approved := true })

/-- The accounts of `ApproveUndelegation`. -/
def processApproveUndelegation (accounts : List AccountMeta) (L : Ledger) : ProgramResult :=
  match accounts with
  | validator :: session :: request :: _ => approveUndelegation env validator session request L
  | _ => .error .notEnoughAccountKeys

/-! ## Returning the account -/

/-- Account data with every byte zero. -/
def AccountData.zeroed (data : AccountData) : AccountData := .raw (List.replicate data.size 0)

/-- Credit the balances of the two closed accounts to the authority. -/
def refundClosed (L : Ledger) (authority record request : Pubkey) : ProgramResult := do
  let lamports ← okOr (checkedAdd (L record).lamports (L request).lamports) arithmeticOverflow
  let credited ← okOr (checkedAdd (L authority).lamports lamports) arithmeticOverflow
  return ((L.setLamports authority credited).setLamports record 0).setLamports request 0

/-- Returning on its named accounts. The two accounts closed here end with no lamports, so
the runtime gives their addresses back to the system program. -/
def undelegate
    (authority delegated ownerProgram record session request : AccountMeta)
    (allowNonEmptyHandoff : Bool) (L : Ledger) : ProgramResult := do
  rejectIf (authority.isSigner = false) unauthorized
  rejectIf (delegated.isSigner = false) unauthorized
  let sessionState ← loadSessionV1 env L session.address .invalidPdaSeeds
    .sessionAccountOwnerMismatch
  rejectIf (sessionState.settlementStatus = .inProgress) settlementInProgress
  rejectIf (record.address ≠ (findDelegationRecordPda env delegated.address).1) invalidPdaSeeds
  let delegation ← okOr (parseDelegationRecord (L record.address).data)
    delegationRecordDeserializeFailed
  rejectIf (delegation.ownerProgram ≠ ownerProgram.address) unauthorized
  rejectIf ((L delegated.address).owner ≠ env.programId) delegatedAccountOwnerMismatch
  let (requestKey, requestBump) := findUndelegationRequestPda env delegated.address
  rejectIf (request.address ≠ requestKey ∨ (L request.address).owner ≠ env.programId)
    invalidPdaSeeds
  let state ← okOr (parseUndelegationRequest (L request.address).data)
    undelegationRequestDeserializeFailed
  rejectIf (state.bump ≠ requestBump ∨ state.session ≠ session.address ∨
    state.delegatedAccount ≠ delegated.address ∨ state.ownerProgram ≠ ownerProgram.address ∨
    state.authority ≠ authority.address) undelegationRequestStateInvalid
  rejectIf (state.approved = false) undelegationNotSettled
  rejectIf ((L delegated.address).data.bytes.any (· != 0) = true ∧ allowNonEmptyHandoff = false)
    delegatedAccountDataNotEmpty
  let L := (L.setData delegated.address (L delegated.address).data.zeroed).setOwner
    delegated.address ownerProgram.address
  let L ← refundClosed L authority.address record.address request.address
  return (L.close record.address).close request.address

/-- The accounts of `Undelegate`, in order. -/
def processUndelegateInner (accounts : List AccountMeta)
    (allowNonEmptyHandoff : Bool) (L : Ledger) : ProgramResult :=
  match accounts with
  | authority :: delegated :: ownerProgram :: record :: _systemProgram :: session :: request ::
      _ =>
    undelegate env authority delegated ownerProgram record session request allowNonEmptyHandoff L
  | _ => .error .notEnoughAccountKeys

end Northstar.Portal
