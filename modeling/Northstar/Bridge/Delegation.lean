import Northstar.Bridge.Program
import Northstar.Portal.Program

/-!
# Delegating rollup accounts of the bridge

The owner of a rollup account delegates it to the session: the account is closed, created
again for Portal, and its bytes pass through a buffer. Deposits that follow are credited in
the rollup, up to the balance of the deposit receipt; the origin says from which balance on,
the cursor how far the rollup got.
-/

namespace Northstar.Bridge

open Northstar.Portal Bytes Checked Reader

variable (d : Deployment)

/-! ## Origins and cursors -/

/-- How far the deposits of a rollup account got. -/
structure TokenDepositProgress where
  discriminator : UInt8
  balance : UInt64
  bump : UInt8
  deriving DecidableEq

namespace TokenDepositProgress

def originDiscriminator : UInt8 := 4

def cursorDiscriminator : UInt8 := 5

def bytes (p : TokenDepositProgress) : List UInt8 :=
  p.discriminator :: (le64 p.balance ++ [p.bump])

end TokenDepositProgress

def parseTokenDepositProgress (bytes : List UInt8) : Option TokenDepositProgress := do
  let (discriminator, rest) ← readByte bytes
  let (balance, rest) ← read64 rest
  let (bump, rest) ← readByte rest
  atEnd rest
  return { discriminator, balance, bump }

def findOriginPda (account : Pubkey) : Pubkey × UInt8 :=
  d.portal.findProgramAddress [ascii "token_deposit_origin", account.toList] d.programId

def findCursorPda (account : Pubkey) (baseline : UInt64) : Pubkey × UInt8 :=
  d.portal.findProgramAddress [ascii "token_deposit_cursor", account.toList, le64 baseline]
    d.programId

def findBufferPda (erTokenAccount : Pubkey) : Pubkey × UInt8 :=
  d.portal.findProgramAddress [ascii "northstar-token-buffer", erTokenAccount.toList] d.programId

/-- The balance of the deposit receipt of an account, zero before the first deposit. -/
def receiptBalance (L : Ledger) (bridge account receipt : Pubkey) : Except BridgeError UInt64 := do
  let (expected, bump) := findTokenDepositReceiptPda d bridge account
  rejectIf (receipt ≠ expected) .invalidSeeds
  if (L receipt).lamports = 0 then
    return 0
  else do
    rejectIf ((L receipt).owner ≠ d.programId) .invalidAccountOwner
    let state ← okOr (parseTokenDepositReceipt (L receipt).data.bytes) .invalidAccountData
    rejectIf (state.bump ≠ bump ∨ state.sessionBridge ≠ bridge ∨ state.erTokenAccount ≠ account)
      .invalidAccountData
    return state.balance

/-- Create an account that the bridge does not own yet. -/
def createMissing (L : Ledger) (payer : AccountMeta) (pda : Pubkey)
    (space : Nat) : Except BridgeError Ledger :=
  if (L pda).owner ≠ d.programId then createPda d L payer pda space else .ok L

/-- The account of an origin: created once, and moved forward only. -/
def prepareOrigin (L : Ledger) (payer : AccountMeta) (origin : Pubkey)
    (state : TokenDepositProgress) : Except BridgeError Ledger :=
  if (L origin).owner ≠ d.programId then createPda d L payer origin 10
  else do
    let previous ← okOr (parseTokenDepositProgress (L origin).data.bytes) .invalidAccountData
    rejectIf (previous.discriminator ≠ state.discriminator ∨ previous.bump ≠ state.bump ∨
      state.balance < previous.balance) .invalidAccountData
    return L

/-- Deposits are credited in the rollup from the present balance of the receipt on. -/
def initializeOrigin (L : Ledger) (payer : AccountMeta)
    (bridge account receipt origin : Pubkey) : Except BridgeError Ledger := do
  let balance ← receiptBalance d L bridge account receipt
  let (expected, bump) := findOriginPda d account
  rejectIf (origin ≠ expected) .invalidSeeds
  let state : TokenDepositProgress :=
    { discriminator := TokenDepositProgress.originDiscriminator, balance, bump }
  let L ← prepareOrigin d L payer origin state
  store L origin state.bytes

/-! ## The buffer -/

/-- The buffer of a rollup account, as large as the account. -/
def createBuffer (L : Ledger) (payer : AccountMeta)
    (buffer erTokenAccount : Pubkey) : Except BridgeError Ledger := do
  rejectIf ((findBufferPda d erTokenAccount).1 ≠ buffer) .invalidSeeds
  let L ← createMissing d L payer buffer (L erTokenAccount).data.size
  rejectIf ((L buffer).owner ≠ d.programId ∨
    (L buffer).data.size ≠ (L erTokenAccount).data.size) .invalidAccountData
  return L

/-- Copy the bytes of one account over those of another of the same length. -/
def copyData (L : Ledger) (source destination : Pubkey) : Except BridgeError Ledger := do
  rejectIf ((L source).data.size ≠ (L destination).data.size) .invalidAccountData
  return L.setData destination (.raw (L source).data.bytes)

/-- Close an account and pay its balance to the recipient. -/
def closeBuffer (L : Ledger) (buffer recipient : Pubkey) : Except BridgeError Ledger := do
  let lamports ← okOr (checkedAdd (L recipient).lamports (L buffer).lamports) .arithmeticOverflow
  return (L.setLamports recipient lamports).close buffer

/-- Create the account for Portal, which the bridge signs for. -/
def createForPortal (L : Ledger) (payer : AccountMeta) (pda : Pubkey)
    (space : Nat) : Except BridgeError Ledger :=
  called (initializePdaAccount d.portal L payer pda (d.portal.minimumBalance space) space)

/-! ## Into the session -/

structure DelegateAccounts where
  payer : AccountMeta
  owner : AccountMeta
  erTokenAccount : AccountMeta
  bridgeProgram : AccountMeta
  sessionBridge : AccountMeta
  portalProgram : AccountMeta
  session : AccountMeta
  delegationRecord : AccountMeta
  buffer : AccountMeta
  systemProgram : AccountMeta
  receipt : AccountMeta
  origin : AccountMeta
  /-- Read in builds with the continuity feature only. -/
  ingress : AccountMeta

/-- Builds with the continuity feature check the session before anything is created. -/
def requireDelegationContext (now : UInt64) (L : Ledger)
    (accounts : DelegateAccounts) (gridId : UInt64) : Except BridgeError Unit :=
  if d.portal.features.checkpointContinuityV2 = true then do
    rejectIf ((L accounts.session.address).owner ≠ accounts.portalProgram.address ∨
      (L accounts.session.address).executable = true) .invalidAccountOwner
    let registration ← registrationV2 d L accounts.sessionBridge.address
    let frame ← sessionV2 d L registration accounts.session.address
    rejectIf (frame.base.gridId ≠ gridId ∨ frame.base.isExpired now) .invalidAccountData
  else .ok ()

/-- Portal delegates the account, for which the bridge signs. -/
def portalDelegate (now : UInt64) (accounts : DelegateAccounts)
    (gridId : UInt64) (L : Ledger) : ProgramResult :=
  let delegated := { accounts.erTokenAccount with isSigner := true, isWritable := true }
  if d.portal.features.checkpointContinuityV2 = true then
    processDelegateV2 d.portal now
      [accounts.payer, accounts.systemProgram, accounts.session, delegated,
        accounts.bridgeProgram, accounts.delegationRecord, accounts.buffer, accounts.ingress]
      gridId L
  else
    processDelegate d.portal
      [accounts.payer, accounts.systemProgram, accounts.session, delegated,
        accounts.bridgeProgram, accounts.delegationRecord, accounts.buffer] gridId L

/-- **Delegation** of a rollup account: its bytes wait in the buffer while the account is
closed and created again for Portal. -/
def delegateErTokenAccount (now : UInt64) (accounts : DelegateAccounts)
    (gridId : UInt64) (L : Ledger) : Except BridgeError Ledger := do
  rejectIf (accounts.payer.isSigner = false) .missingRequiredSignature
  rejectIf (accounts.owner.isSigner = false) .missingRequiredSignature
  rejectIf (accounts.bridgeProgram.address ≠ d.programId) .incorrectProgramId
  rejectIf (accounts.systemProgram.address ≠ systemProgramId) .incorrectProgramId
  let _ ← loadSessionBridge d L accounts.sessionBridge.address accounts.portalProgram.address
  let er ← loadErTokenAccount d L accounts.erTokenAccount.address
  rejectIf (er.sessionBridge ≠ accounts.sessionBridge.address ∨ er.owner ≠ accounts.owner.address)
    .invalidAccountData
  rejectIf ((findDelegationRecordPda d.portal accounts.erTokenAccount.address).1 ≠
    accounts.delegationRecord.address) .invalidSeeds
  requireDelegationContext d now L accounts gridId
  let L ← initializeOrigin d L accounts.payer accounts.sessionBridge.address
    accounts.erTokenAccount.address accounts.receipt.address accounts.origin.address
  let L ← createBuffer d L accounts.payer accounts.buffer.address accounts.erTokenAccount.address
  let space := (L accounts.erTokenAccount.address).data.size
  let L ← copyData L accounts.erTokenAccount.address accounts.buffer.address
  let L ← closeBuffer L accounts.erTokenAccount.address accounts.payer.address
  let L ← createForPortal d L accounts.payer accounts.erTokenAccount.address space
  let L ← called (portalDelegate d now accounts gridId L)
  closeBuffer L accounts.buffer.address accounts.payer.address

/-! ## The way back -/

/-- A rollup account that Portal holds, with its owner's authority. -/
def requireDelegated (erTokenAccount authority : Pubkey) (bytes : List UInt8) :
    Except BridgeError Unit := do
  let er ← okOr (parseErTokenAccount bytes) .invalidAccountData
  requireErTokenAccountPda d erTokenAccount er
  rejectIf (er.owner ≠ authority) .invalidAccountData

/-- **RequestUndelegation**: pass the owner's request on to Portal, which refuses an account that
is not its own. -/
def requestUndelegation (now : UInt64)
    (payer authority erTokenAccount bridgeProgram portalProgram session delegationRecord request
      systemProgram : AccountMeta) (L : Ledger) : Except BridgeError Ledger := do
  rejectIf (payer.isSigner = false) .missingRequiredSignature
  rejectIf (authority.isSigner = false) .missingRequiredSignature
  rejectIf (bridgeProgram.address ≠ d.programId) .incorrectProgramId
  rejectIf (systemProgram.address ≠ systemProgramId) .incorrectProgramId
  rejectIf ((L erTokenAccount.address).owner ≠ portalProgram.address) .invalidAccountOwner
  requireDelegated d erTokenAccount.address authority.address (L erTokenAccount.address).data.bytes
  called (processRequestUndelegation d.portal now
    [payer, authority, { erTokenAccount with isSigner := true, isWritable := false },
      bridgeProgram, delegationRecord, session, request, systemProgram] L)

/-- **Undelegation**: Portal hands the emptied account back, and its bytes return from the
buffer. -/
def undelegateErTokenAccount
    (authority erTokenAccount bridgeProgram portalProgram session delegationRecord buffer
      systemProgram request : AccountMeta) (L : Ledger) : Except BridgeError Ledger := do
  rejectIf (authority.isSigner = false) .missingRequiredSignature
  rejectIf (bridgeProgram.address ≠ d.programId) .incorrectProgramId
  rejectIf (systemProgram.address ≠ systemProgramId) .incorrectProgramId
  rejectIf ((L erTokenAccount.address).owner ≠ portalProgram.address) .invalidAccountOwner
  let L ← createBuffer d L authority buffer.address erTokenAccount.address
  let L ← copyData L erTokenAccount.address buffer.address
  requireDelegated d erTokenAccount.address authority.address (L buffer.address).data.bytes
  let L ← called (processUndelegateInner d.portal
    [authority, { erTokenAccount with isSigner := true, isWritable := true }, bridgeProgram,
      delegationRecord, systemProgram, session, request] true L)
  rejectIf ((L erTokenAccount.address).owner ≠ d.programId) .invalidAccountOwner
  let L ← copyData L buffer.address erTokenAccount.address
  closeBuffer L buffer.address authority.address

/-! ## Crediting in the rollup -/

structure ApplyAccounts where
  payer : AccountMeta
  account : AccountMeta
  bridge : AccountMeta
  portal : AccountMeta
  session : AccountMeta
  delegation : AccountMeta
  receipt : AccountMeta
  origin : AccountMeta
  cursor : AccountMeta
  system : AccountMeta
  /-- Read in builds with the continuity feature only. -/
  input : Option AccountMeta

/-- The session, in the format of the build. -/
def applySession (L : Ledger) (accounts : ApplyAccounts) : Except BridgeError Session :=
  if d.portal.features.checkpointContinuityV2 = true then do
    let registration ← registrationV2 d L accounts.bridge.address
    return (← sessionV2 d L registration accounts.session.address).base
  else match (L accounts.session.address).data with
    | .session state => .ok state
    | _ => .error .invalidAccountData

/-- The origin of an account. -/
def loadOrigin (L : Ledger) (account origin : Pubkey) :
    Except BridgeError TokenDepositProgress := do
  let (expected, bump) := findOriginPda d account
  rejectIf (origin ≠ expected ∨ (L origin).owner ≠ d.programId) .invalidSeeds
  let baseline ← okOr (parseTokenDepositProgress (L origin).data.bytes) .invalidAccountData
  rejectIf (baseline.discriminator ≠ TokenDepositProgress.originDiscriminator ∨
    baseline.bump ≠ bump) .invalidAccountData
  return baseline

/-- The cursor of an account, at the baseline before the first credit. -/
def loadProgress (L : Ledger) (cursor : Pubkey) (baseline : UInt64)
    (bump : UInt8) : Except BridgeError TokenDepositProgress :=
  if (L cursor).owner = d.programId then do
    let progress ← okOr (parseTokenDepositProgress (L cursor).data.bytes) .invalidAccountData
    rejectIf (progress.discriminator ≠ TokenDepositProgress.cursorDiscriminator ∨
      progress.bump ≠ bump ∨ progress.balance < baseline) .invalidAccountData
    return progress
  else .ok { discriminator := TokenDepositProgress.cursorDiscriminator, balance := baseline, bump }

/-- Builds with the continuity feature credit what an ingress record of the session says. -/
def requireInput (L : Ledger) (accounts : ApplyAccounts) (bridge : SessionBridge)
    (baseline progress balance : UInt64) : Except BridgeError Unit :=
  if d.portal.features.checkpointContinuityV2 = true then
    match accounts.input with
    | none => .error .notEnoughAccountKeys
    | some input => do
      rejectIf ((L input.address).owner ≠ accounts.portal.address ∨
        (L input.address).executable = true) .invalidAccountOwner
      let registration ← registrationV2 d L accounts.bridge.address
      match (L input.address).data with
      | .ingressRecordV2 record => do
        let (expected, bump) := findIngressRecordV2Pda d.portal registration.sessionContext
          record.sequence
        rejectIf (input.address ≠ expected ∨ record.bump ≠ bump) .invalidSeeds
        let previous ← okOr (checkedSub record.sequence 1) .invalidAccountData
        rejectIf (¬record.ValidNext d.portal registration.sessionContext previous
          record.previousRoot) .invalidAccountData
        let amount ← okOr (checkedSub balance progress) .invalidAccountData
        rejectIf (record.payload ≠ .tokenDeposit d.programId accounts.bridge.address
          accounts.account.address accounts.receipt.address bridge.mint bridge.tokenProgram
          baseline amount balance) .invalidAccountData
      | _ => .error .invalidAccountData
  else .ok ()

/-- **ApplyTokenDeposit**: credit a delegated account in the rollup, up to `balance`. -/
def applyTokenDeposit (accounts : ApplyAccounts) (balance : UInt64)
    (L : Ledger) : Except BridgeError Ledger := do
  rejectIf (accounts.payer.isSigner = false) .missingRequiredSignature
  rejectIf (accounts.system.address ≠ systemProgramId) .incorrectProgramId
  let bridge ← loadSessionBridge d L accounts.bridge.address accounts.portal.address
  rejectIf (accounts.session.address ≠ bridge.session ∨
    accounts.session.address ≠ (findSessionPda d.portal).1 ∨
    (L accounts.session.address).owner ≠ accounts.portal.address) .invalidAccountData
  let session ← applySession d L accounts
  rejectIf (session.validator ≠ accounts.payer.address) .missingRequiredSignature
  let er ← loadErTokenAccount d L accounts.account.address
  requireBridgeDelegation d L accounts.account.address accounts.delegation.address
    accounts.portal.address
  let record ← okOr (parseDelegationRecord (L accounts.delegation.address).data)
    .invalidAccountData
  rejectIf (record.gridId ≠ session.gridId) .invalidAccountData
  rejectIf (er.sessionBridge ≠ accounts.bridge.address ∨ er.mint ≠ bridge.mint) .invalidAccountData
  let available ← receiptBalance d L accounts.bridge.address accounts.account.address
    accounts.receipt.address
  let baseline ← loadOrigin d L accounts.account.address accounts.origin.address
  let (expected, bump) := findCursorPda d accounts.account.address baseline.balance
  rejectIf (accounts.cursor.address ≠ expected) .invalidSeeds
  let progress ← loadProgress d L accounts.cursor.address baseline.balance bump
  rejectIf (available < balance ∨ balance ≤ progress.balance) .invalidArgument
  requireInput d L accounts bridge baseline.balance progress.balance balance
  let amount ← okOr (checkedAdd er.amount (balance - progress.balance)) .arithmeticOverflow
  let L ← createMissing d L accounts.payer accounts.cursor.address 10
  let L ← store L accounts.cursor.address (TokenDepositProgress.bytes { progress with balance })
  store L accounts.account.address (ErTokenAccount.bytes { er with amount })

/-! ## Dispatch -/

/-- The instructions that move rollup accounts between the bridge and Portal, and the one that
credits them in the rollup. -/
inductive DelegationInstruction
  | delegateErTokenAccount (gridId : UInt64)
  | undelegateErTokenAccount
  | requestUndelegation
  | applyTokenDeposit (balance : UInt64)

/-- **Dispatch** of one of them, at slot `now` of the clock. -/
def processDelegationInstruction (now : UInt64) (accounts : List AccountMeta)
    (instruction : DelegationInstruction) (L : Ledger) : Except BridgeError Ledger :=
  match instruction, accounts with
  | .delegateErTokenAccount gridId, payer :: owner :: erTokenAccount :: bridgeProgram ::
      sessionBridge :: portalProgram :: session :: delegationRecord :: buffer :: systemProgram ::
      receipt :: origin :: more =>
    -- the ingress record is named in builds with the continuity feature only
    if d.portal.features.checkpointContinuityV2 = true ∧ more.isEmpty = true then
      .error .notEnoughAccountKeys
    else delegateErTokenAccount d now ⟨payer, owner, erTokenAccount, bridgeProgram, sessionBridge,
      portalProgram, session, delegationRecord, buffer, systemProgram, receipt, origin,
      more.getD 0 ⟨systemProgramId, false, false⟩⟩ gridId L
  | .undelegateErTokenAccount, authority :: erTokenAccount :: bridgeProgram :: portalProgram ::
      session :: delegationRecord :: buffer :: systemProgram :: request :: _ =>
    -- builds with the continuity feature do not have the way back
    if d.portal.features.checkpointContinuityV2 = true then .error .invalidInstructionData
    else undelegateErTokenAccount d authority erTokenAccount bridgeProgram portalProgram session
      delegationRecord buffer systemProgram request L
  | .requestUndelegation, payer :: authority :: erTokenAccount :: bridgeProgram ::
      portalProgram :: session :: delegationRecord :: request :: systemProgram :: _ =>
    if d.portal.features.checkpointContinuityV2 = true then .error .invalidInstructionData
    else requestUndelegation d now payer authority erTokenAccount bridgeProgram portalProgram
      session delegationRecord request systemProgram L
  | .applyTokenDeposit balance, payer :: account :: bridge :: portal :: session :: delegation ::
      receipt :: origin :: cursor :: system :: more =>
    applyTokenDeposit d ⟨payer, account, bridge, portal, session, delegation, receipt, origin,
      cursor, system, more.head?⟩ balance L
  | _, _ => .error .notEnoughAccountKeys

end Northstar.Bridge
