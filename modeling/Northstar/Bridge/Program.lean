import Northstar.Bridge.State
import Northstar.Lib.Run

/-!
# The token bridge program

Deposits move tokens into the vault of a session and count them. Tokens leave it on two
paths: the owner of a rollup account that is not delegated withdraws directly, and a settled
withdrawal of the rollup is released against Portal's authorization. Both advance the same
counter of the vault.

A call may name another program in Portal's place, which is refused here. Where that program runs
Portal's code too, it is a call of the deployment with it (`Deployment.at`), and leaves the vaults
of this Portal alone (`foreign_call_keepsVault`). Programs with other code, and delegations to
another program, are not modelled.
-/

namespace Northstar.Bridge

open Northstar.Portal Bytes Checked

variable (d : Deployment)

/-! ## Derived addresses -/

def findVaultPda (sessionBridge : Pubkey) : Pubkey × UInt8 :=
  d.portal.findProgramAddress [ascii "token_vault", sessionBridge.toList] d.programId

def findErTokenAccountPda (sessionBridge owner : Pubkey) : Pubkey × UInt8 :=
  d.portal.findProgramAddress [ascii "er_token", sessionBridge.toList, owner.toList] d.programId

def findTokenDepositReceiptPda (sessionBridge erTokenAccount : Pubkey) : Pubkey × UInt8 :=
  d.portal.findProgramAddress
    [ascii "token_deposit", sessionBridge.toList, erTokenAccount.toList] d.programId

/-- The deployment with another program in Portal's place. -/
def Deployment.at (program : Pubkey) : Deployment :=
  { d with portal := { d.portal with programId := program } }

/-- The bridge signs for the vault, whose seeds end in the bump of its record. -/
def vaultSigns (vault sessionBridge : Pubkey) (bump : UInt8) : Prop :=
  findVaultPda d sessionBridge = (vault, bump)
  deriving Decidable

/-! ## Loading -/

/-- The registration of a session of the second format. -/
def registrationV2 (L : Ledger) (address : Pubkey) : Except BridgeError SessionBridgeV2 :=
  match (L address).data with
  | .sessionBridgeV2 frame => do
    let (expected, bump) := findSessionBridgeV2Pda d.portal frame.sessionContext frame.base.mint
    rejectIf (frame.sessionContext = zero32 ∨ frame.base.bridgeProgram ≠ d.programId ∨
      frame.base.tokenProgram ≠ d.portal.tokenProgramId ∨
      frame.base.session ≠ (findSessionPda d.portal).1 ∨ address ≠ expected ∨
      frame.base.bump ≠ bump ∨ frame.base.vault ≠ (findVaultPda d address).1) .invalidAccountData
    return frame
  | _ => .error .invalidAccountData

/-- The session that a registration of the second format belongs to. -/
def sessionV2 (L : Ledger) (registration : SessionBridgeV2) (address : Pubkey) :
    Except BridgeError SessionV2 :=
  match (L address).data with
  | .sessionV2 frame => do
    let (expected, bump) := findSessionPda d.portal
    rejectIf (¬frame.IsValid ∨ address ≠ expected ∨ address ≠ registration.base.session ∨
      frame.base.bump ≠ bump) .invalidAccountData
    let context ← called (frame.context d.portal address)
    rejectIf (context ≠ registration.sessionContext) .invalidAccountData
    return frame
  | _ => .error .invalidAccountData

/-- The registered bridge, in the format of the build. -/
def readSessionBridge (L : Ledger) (sessionBridge : Pubkey) : Except BridgeError SessionBridge :=
  if d.portal.features.checkpointContinuityV2 = true then do
    return (← registrationV2 d L sessionBridge).base
  else match (L sessionBridge).data with
    | .sessionBridge bridge => .ok bridge
    | _ => .error .invalidAccountData

def loadSessionBridge (L : Ledger) (sessionBridge portalProgram : Pubkey) :
    Except BridgeError SessionBridge := do
  rejectIf (portalProgram ≠ d.portal.programId) .incorrectProgramId
  rejectIf ((L sessionBridge).owner ≠ portalProgram) .invalidAccountOwner
  let bridge ← readSessionBridge d L sessionBridge
  rejectIf (bridge.bridgeProgram ≠ d.programId) .invalidAccountData
  return bridge

def loadVault (L : Ledger) (vault sessionBridge : Pubkey) : Except BridgeError TokenVault := do
  rejectIf ((L vault).owner ≠ d.programId) .invalidAccountOwner
  let state ← okOr (parseTokenVault (L vault).data.bytes) .invalidAccountData
  rejectIf (state.sessionBridge ≠ sessionBridge) .invalidAccountData
  rejectIf (d.portal.features.checkpointContinuityV2 = true ∧
    findVaultPda d sessionBridge ≠ (vault, state.bump)) .invalidSeeds
  return state

def requireErTokenAccountPda (account : Pubkey) (state : ErTokenAccount) :
    Except BridgeError Unit :=
  rejectIf (findErTokenAccountPda d state.sessionBridge state.owner ≠ (account, state.bump))
    .invalidSeeds

def loadErTokenAccount (L : Ledger) (account : Pubkey) : Except BridgeError ErTokenAccount := do
  rejectIf ((L account).owner ≠ d.programId) .invalidAccountOwner
  let state ← okOr (parseErTokenAccount (L account).data.bytes) .invalidAccountData
  requireErTokenAccountPda d account state
  return state

def requireErAccount (state : ErTokenAccount) (sessionBridge owner mint : Pubkey) :
    Except BridgeError Unit :=
  rejectIf (state.sessionBridge ≠ sessionBridge ∨ state.owner ≠ owner ∨ state.mint ≠ mint)
    .invalidAccountData

def requireBridgeTokenAccounts (bridge : SessionBridge) (vault : TokenVault)
    (vaultTokenAccount mint tokenProgram : Pubkey) : Except BridgeError Unit :=
  rejectIf (bridge.mint ≠ mint ∨ bridge.tokenProgram ≠ tokenProgram ∨ vault.mint ≠ bridge.mint ∨
    vault.tokenProgram ≠ bridge.tokenProgram ∨ vault.vaultTokenAccount ≠ vaultTokenAccount)
    .invalidAccountData

/-- Portal's deployment with the bridge in Portal's place. -/
def Deployment.own : Env := { d.portal with programId := d.programId }

/-- Make a funded address an account of the bridge, all zeros. -/
def allocateAssign (L : Ledger) (pda : Pubkey) (space : Nat) : Ledger :=
  (L.setData pda (.raw (List.replicate space 0))).setOwner pda d.programId

/-- `CreateAccount` of the system program: the payer funds an address that holds nothing. -/
def createAccount (L : Ledger) (payer : AccountMeta) (pda : Pubkey) (lamports : UInt64)
    (space : Nat) : Except ProgramError Ledger := do
  rejectIf ((L pda).lamports ≠ 0 ∨ ¬Vacant L pda) .accountAlreadyInUse
  let L ← topUp L payer pda lamports
  return allocateAssign d L pda space

/-- Create an account of the bridge at a derived address, also where it holds lamports. -/
def createPda (L : Ledger) (payer : AccountMeta) (pda : Pubkey) (space : Nat) :
    Except BridgeError Ledger :=
  let lamports := d.portal.minimumBalance space
  if (L pda).lamports = 0 then called (createAccount d L payer pda lamports space)
  else do
    rejectIf (¬Vacant L pda) .invalidAccountData
    let L ← called (topUp L payer pda lamports)
    return allocateAssign d L pda space

/-- Both branches create what Portal's helper creates; they differ in their errors only. -/
theorem createPda_eq_ok {d : Deployment} : createPda d L payer pda space = .ok L' ↔
    initializePdaAccount d.own L payer pda (d.portal.minimumBalance space) space = .ok L' := by
  unfold createPda createAccount initializePdaAccount
  split
  · rename_i hzero
    simp only [chain_ok, called_eq_ok, hzero, not_or, not_not, true_and]
    rfl
  · simp only [chain_ok, called_eq_ok, not_or, not_not]
    rfl

/-! ## Opening accounts -/

/-- The vault of a registered bridge, at its derived address. -/
def initializeVault
    (payer vault sessionBridge portalProgram vaultTokenAccount systemProgram : AccountMeta)
    (L : Ledger) : Except BridgeError Ledger := do
  rejectIf (payer.isSigner = false) .missingRequiredSignature
  rejectIf (systemProgram.address ≠ systemProgramId) .incorrectProgramId
  let bridge ← loadSessionBridge d L sessionBridge.address portalProgram.address
  rejectIf (bridge.vault ≠ vault.address) .invalidSeeds
  let (expected, bump) := findVaultPda d sessionBridge.address
  rejectIf (expected ≠ vault.address) .invalidSeeds
  let vaultToken ← okOr (d.token L vaultTokenAccount.address) .invalidAccountData
  rejectIf (vaultToken.owner ≠ vault.address ∨ vaultToken.mint ≠ bridge.mint) .invalidAccountData
  rejectIf ((L vault.address).lamports ≠ 0) .accountAlreadyInitialized
  let L ← createPda d L payer vault.address 146
  store L vault.address (TokenVault.bytes
    { sessionBridge := sessionBridge.address
      mint := bridge.mint
      vaultTokenAccount := vaultTokenAccount.address
      tokenProgram := bridge.tokenProgram
      deposited := 0
      withdrawn := 0
      bump })

/-- The rollup account of `owner`. -/
def initializeErTokenAccount
    (payer erTokenAccount sessionBridge portalProgram systemProgram : AccountMeta) (owner : Pubkey)
    (L : Ledger) : Except BridgeError Ledger := do
  rejectIf (payer.isSigner = false) .missingRequiredSignature
  rejectIf (systemProgram.address ≠ systemProgramId) .incorrectProgramId
  let bridge ← loadSessionBridge d L sessionBridge.address portalProgram.address
  let (expected, bump) := findErTokenAccountPda d sessionBridge.address owner
  rejectIf (expected ≠ erTokenAccount.address) .invalidSeeds
  rejectIf ((L erTokenAccount.address).lamports ≠ 0) .accountAlreadyInitialized
  let L ← createPda d L payer erTokenAccount.address 106
  store L erTokenAccount.address (ErTokenAccount.bytes
    { sessionBridge := sessionBridge.address, owner, mint := bridge.mint, amount := 0, bump })

/-! ## Deposits -/

structure DepositAccounts where
  payer : AccountMeta
  owner : AccountMeta
  vault : AccountMeta
  erTokenAccount : AccountMeta
  sessionBridge : AccountMeta
  portalProgram : AccountMeta
  sourceTokenAccount : AccountMeta
  vaultTokenAccount : AccountMeta
  mint : AccountMeta
  tokenProgram : AccountMeta
  depositReceipt : AccountMeta
  delegationRecord : AccountMeta
  systemProgram : AccountMeta

/-- The accounts of a deposit into a session of the second format. -/
structure IngressAccounts where
  request : AccountMeta
  session : AccountMeta
  origin : AccountMeta
  ingress : AccountMeta

/-- The deposit can enter a session of the second format that is not over. -/
def validateContext (now : UInt64) (L : Ledger)
    (portalProgram session registry vault : Pubkey) : Except BridgeError Unit := do
  rejectIf ((L portalProgram).executable = false ∨ (L session).owner ≠ portalProgram ∨
    (L session).executable = true) .invalidAccountOwner
  let registration ← registrationV2 d L registry
  let frame ← sessionV2 d L registration session
  rejectIf (frame.base.isExpired now ∨ vault ≠ registration.base.vault) .invalidAccountData

def requireBridgeDelegation (L : Ledger)
    (erTokenAccount delegationRecord portalProgram : Pubkey) : Except BridgeError Unit := do
  rejectIf ((findDelegationRecordPda d.portal erTokenAccount).1 ≠ delegationRecord ∨
    (L delegationRecord).owner ≠ portalProgram) .invalidSeeds
  let record ← okOr (parseDelegationRecord (L delegationRecord).data) .invalidAccountData
  rejectIf (record.ownerProgram ≠ d.programId) .invalidAccountData

/-- A rollup account that takes deposits: one of the bridge, or a delegated one whose
undelegation is not requested. -/
def requireOpen (L : Ledger)
    (erTokenAccount delegationRecord portalProgram request : Pubkey) : Except BridgeError Unit :=
  if (L erTokenAccount).owner = portalProgram then do
    requireBridgeDelegation d L erTokenAccount delegationRecord portalProgram
    rejectIf (request ≠ (findUndelegationRequestPda d.portal erTokenAccount).1) .invalidSeeds
    rejectIf ((L request).owner ≠ systemProgramId ∨ (L request).data ≠ .empty) .invalidAccountData
  else rejectIf ((L erTokenAccount).owner ≠ d.programId) .invalidAccountOwner

/-- The account of a receipt, created on the first deposit. -/
def prepareReceipt (L : Ledger) (payer : AccountMeta) (depositReceipt : Pubkey) :
    Except BridgeError Ledger :=
  if (L depositReceipt).lamports = 0 then createPda d L payer depositReceipt 82
  else if (L depositReceipt).owner = d.programId then .ok L
  else .error .invalidAccountOwner

/-- The receipt that an account holds, or `initial` in a fresh account. -/
def readReceipt (L : Ledger) (depositReceipt : Pubkey) (initial : TokenDepositReceipt) :
    Except BridgeError TokenDepositReceipt :=
  if (L depositReceipt).data.bytes.headD 0 = 0 then .ok initial
  else okOr (parseTokenDepositReceipt (L depositReceipt).data.bytes) .invalidAccountData

/-- Add a deposit to the receipt of the rollup account. -/
def creditReceipt (L : Ledger) (payer : AccountMeta)
    (depositReceipt sessionBridge erTokenAccount : Pubkey) (bump : UInt8) (amount : UInt64) :
    Except BridgeError Ledger := do
  let L ← prepareReceipt d L payer depositReceipt
  let receipt ← readReceipt L depositReceipt
    { sessionBridge, erTokenAccount, balance := 0, withdrawn := 0, bump }
  rejectIf (receipt.sessionBridge ≠ sessionBridge ∨ receipt.erTokenAccount ≠ erTokenAccount ∨
    receipt.bump ≠ bump) .invalidAccountData
  let balance ← okOr (checkedAdd receipt.balance amount) .arithmeticOverflow
  store L depositReceipt (TokenDepositReceipt.bytes { receipt with balance })

/-- Checks that only builds with the continuity feature make. -/
def requireIngress (now : UInt64) (L : Ledger) (accounts : DepositAccounts)
    (ingress : IngressAccounts) (er : ErTokenAccount) (amount : UInt64) :
    Except BridgeError Unit :=
  if d.portal.features.checkpointContinuityV2 = true then do
    rejectIf (amount = 0 ∨
      accounts.sourceTokenAccount.address = accounts.vaultTokenAccount.address)
      .invalidInstructionData
    requireErTokenAccountPda d accounts.erTokenAccount.address er
    validateContext d now L accounts.portalProgram.address ingress.session.address
      accounts.sessionBridge.address accounts.vault.address
  else .ok ()

/-- Chain the deposit into the session, in builds that have ingress records. -/
def appendDeposit (now : UInt64) (L : Ledger) (accounts : DepositAccounts)
    (ingress : IngressAccounts) (bump : UInt8) (amount : UInt64) : Except BridgeError Ledger :=
  if d.portal.features.checkpointContinuityV2 = true then do
    rejectIf (¬vaultSigns d accounts.vault.address accounts.sessionBridge.address bump)
      .missingRequiredSignature
    called (processRecordTokenDepositV2 d.portal now
      [accounts.payer, accounts.systemProgram, ingress.session, accounts.sessionBridge,
        { accounts.vault with isSigner := true, isWritable := false }, accounts.erTokenAccount,
        accounts.delegationRecord, accounts.depositReceipt, ingress.origin, ingress.ingress]
      amount L)
  else .ok L

/-- **Deposit**: the owner's tokens enter the vault. An account that is not delegated is
credited at once, a delegated one through the rollup. -/
def deposit (now : UInt64) (accounts : DepositAccounts)
    (ingress : IngressAccounts) (amount : UInt64) (decimals : UInt8) (L : Ledger) :
    Except BridgeError Ledger := do
  rejectIf (accounts.payer.isSigner = false) .missingRequiredSignature
  rejectIf (accounts.owner.isSigner = false) .missingRequiredSignature
  rejectIf (accounts.systemProgram.address ≠ systemProgramId) .incorrectProgramId
  let bridge ← loadSessionBridge d L accounts.sessionBridge.address accounts.portalProgram.address
  let vaultState ← loadVault d L accounts.vault.address accounts.sessionBridge.address
  requireBridgeTokenAccounts bridge vaultState accounts.vaultTokenAccount.address
    accounts.mint.address accounts.tokenProgram.address
  let erState ← okOr (parseErTokenAccount (L accounts.erTokenAccount.address).data.bytes)
    .invalidAccountData
  requireErAccount erState accounts.sessionBridge.address accounts.owner.address bridge.mint
  requireIngress d now L accounts ingress erState amount
  let isDelegated := (L accounts.erTokenAccount.address).owner = accounts.portalProgram.address
  requireOpen d L accounts.erTokenAccount.address accounts.delegationRecord.address
    accounts.portalProgram.address ingress.request.address
  let (receiptKey, receiptBump) := findTokenDepositReceiptPda d accounts.sessionBridge.address
    accounts.erTokenAccount.address
  rejectIf (receiptKey ≠ accounts.depositReceipt.address) .invalidSeeds
  rejectIf (accounts.tokenProgram.address ≠ d.portal.tokenProgramId) .incorrectProgramId
  let L ← d.transferChecked L
    { source := accounts.sourceTokenAccount.address
      mint := accounts.mint.address
      destination := accounts.vaultTokenAccount.address
      authority := accounts.owner.address
      amount, decimals }
  let L ← creditReceipt d L accounts.payer accounts.depositReceipt.address
    accounts.sessionBridge.address accounts.erTokenAccount.address receiptBump amount
  let deposited ← okOr (checkedAdd vaultState.deposited amount) .arithmeticOverflow
  let L ← store L accounts.vault.address (TokenVault.bytes { vaultState with deposited })
  if isDelegated then
    appendDeposit d now L accounts ingress vaultState.bump amount
  else do
    let balance ← okOr (checkedAdd erState.amount amount) .arithmeticOverflow
    store L accounts.erTokenAccount.address
      (ErTokenAccount.bytes { erState with amount := balance })

/-! ## Balances of the rollup -/

def transfer (authority source destination : AccountMeta) (amount : UInt64)
    (L : Ledger) : Except BridgeError Ledger := do
  rejectIf (authority.isSigner = false) .missingRequiredSignature
  rejectIf (source.address = destination.address) .invalidAccountData
  let sourceState ← loadErTokenAccount d L source.address
  let destinationState ← loadErTokenAccount d L destination.address
  rejectIf (sourceState.owner ≠ authority.address ∨
    sourceState.sessionBridge ≠ destinationState.sessionBridge ∨
    sourceState.mint ≠ destinationState.mint) .invalidAccountData
  let left ← okOr (checkedSub sourceState.amount amount) .insufficientFunds
  let credited ← okOr (checkedAdd destinationState.amount amount) .arithmeticOverflow
  let L ← store L source.address (ErTokenAccount.bytes { sourceState with amount := left })
  store L destination.address (ErTokenAccount.bytes { destinationState with amount := credited })

/-- The mint of a withdrawal, which builds with the continuity feature check. -/
def requireMint (L : Ledger) (bridge : SessionBridge) (mint : Option AccountMeta)
    (tokenProgram : Pubkey) (amount : UInt64) (decimals : UInt8) : Except BridgeError Unit :=
  if d.portal.features.checkpointContinuityV2 = true then
    match mint with
    | none => .error .notEnoughAccountKeys
    | some mint => do
      rejectIf (amount = 0 ∨ mint.address ≠ bridge.mint ∨ (L mint.address).owner ≠ tokenProgram ∨
        (L mint.address).executable = true) .invalidAccountData
      let unpacked ← okOr (d.unpackMint (L mint.address).data.bytes) .invalidAccountData
      rejectIf (unpacked ≠ decimals) .invalidInstructionData
  else .ok ()

/-- Start a withdrawal in the rollup: the owner's balance goes down. -/
def startWithdrawal
    (owner erTokenAccount sessionBridge portalProgram destinationTokenAccount tokenProgram :
      AccountMeta) (mint : Option AccountMeta) (amount : UInt64) (decimals : UInt8) (L : Ledger) :
    Except BridgeError Ledger := do
  rejectIf (owner.isSigner = false) .missingRequiredSignature
  let bridge ← loadSessionBridge d L sessionBridge.address portalProgram.address
  rejectIf (bridge.tokenProgram ≠ tokenProgram.address) .invalidAccountData
  requireMint d L bridge mint tokenProgram.address amount decimals
  let destination ← okOr (d.token L destinationTokenAccount.address) .invalidAccountData
  rejectIf (destination.mint ≠ bridge.mint) .invalidAccountData
  let erState ← loadErTokenAccount d L erTokenAccount.address
  requireErAccount erState sessionBridge.address owner.address bridge.mint
  let left ← okOr (checkedSub erState.amount amount) .insufficientFunds
  store L erTokenAccount.address (ErTokenAccount.bytes { erState with amount := left })

/-! ## Direct withdrawals -/

structure WithdrawAccounts where
  owner : AccountMeta
  vault : AccountMeta
  erTokenAccount : AccountMeta
  sessionBridge : AccountMeta
  portalProgram : AccountMeta
  vaultTokenAccount : AccountMeta
  destinationTokenAccount : AccountMeta
  mint : AccountMeta
  tokenProgram : AccountMeta

/-- **Withdraw**: the owner of a rollup account that is not delegated takes tokens out of the
vault, which counts them as withdrawn. -/
def withdraw (accounts : WithdrawAccounts) (amount : UInt64) (decimals : UInt8)
    (L : Ledger) : Except BridgeError Ledger := do
  rejectIf (accounts.owner.isSigner = false) .missingRequiredSignature
  let bridge ← loadSessionBridge d L accounts.sessionBridge.address accounts.portalProgram.address
  let vaultState ← loadVault d L accounts.vault.address accounts.sessionBridge.address
  requireBridgeTokenAccounts bridge vaultState accounts.vaultTokenAccount.address
    accounts.mint.address accounts.tokenProgram.address
  let erState ← loadErTokenAccount d L accounts.erTokenAccount.address
  requireErAccount erState accounts.sessionBridge.address accounts.owner.address bridge.mint
  let left ← okOr (checkedSub erState.amount amount) .insufficientFunds
  let withdrawn ← okOr (checkedAdd vaultState.withdrawn amount) .insufficientFunds
  rejectIf (vaultState.deposited < withdrawn) .insufficientFunds
  rejectIf (accounts.tokenProgram.address ≠ d.portal.tokenProgramId) .incorrectProgramId
  rejectIf (¬vaultSigns d accounts.vault.address accounts.sessionBridge.address vaultState.bump)
    .missingRequiredSignature
  let L ← d.transferChecked L
    { source := accounts.vaultTokenAccount.address
      mint := accounts.mint.address
      destination := accounts.destinationTokenAccount.address
      authority := accounts.vault.address
      amount, decimals }
  let L ← store L accounts.vault.address (TokenVault.bytes { vaultState with withdrawn })
  store L accounts.erTokenAccount.address (ErTokenAccount.bytes { erState with amount := left })

/-! ## Settled withdrawals -/

/-- The accounts of a release. -/
structure ReleaseAccounts where
  validator : AccountMeta
  session : AccountMeta
  checkpoint : AccountMeta
  authorization : AccountMeta
  sessionBridge : AccountMeta
  portalProgram : AccountMeta
  vault : AccountMeta
  erTokenAccount : AccountMeta
  vaultTokenAccount : AccountMeta
  destinationTokenAccount : AccountMeta
  mint : AccountMeta
  tokenProgram : AccountMeta

/-- The session of a release, in the format of the build. -/
def releaseSession (L : Ledger) (accounts : ReleaseAccounts) : Except BridgeError Session :=
  if d.portal.features.checkpointContinuityV2 = true then do
    let registration ← registrationV2 d L accounts.sessionBridge.address
    return (← sessionV2 d L registration accounts.session.address).base
  else match (L accounts.session.address).data with
    | .session state => .ok state
    | _ => .error .invalidAccountData

/-- Where the registration of a bridge has to be, in the format of the build. -/
def expectedSessionBridge (L : Ledger) (accounts : ReleaseAccounts)
    (bridge : SessionBridge) : Except BridgeError Pubkey :=
  if d.portal.features.checkpointContinuityV2 = true then do
    let registration ← registrationV2 d L accounts.sessionBridge.address
    return (findSessionBridgeV2Pda d.portal registration.sessionContext bridge.mint).1
  else .ok (findSessionBridgePda d.portal accounts.session.address bridge.mint).1

def isValidSettlementCheckpoint (checkpoint : Checkpoint) (session : Pubkey) (erSlot : UInt64)
    (checksum : Hash32) : Prop :=
  checkpoint.session = session ∧ checkpoint.erSlot = erSlot ∧
    checkpoint.effectCommitment = checksum ∧ checkpoint.status = .settled
  deriving Decidable

/-- The checks of a release before the counter of the vault is read: the vault it is paid
from. -/
def checkRelease (accounts : ReleaseAccounts) (args : TokenWithdrawal)
    (L : Ledger) : Except BridgeError TokenVault := do
  rejectIf (accounts.validator.isSigner = false) .missingRequiredSignature
  rejectIf ((L accounts.session.address).owner ≠ (L accounts.checkpoint.address).owner ∨
    (L accounts.sessionBridge.address).owner ≠ (L accounts.session.address).owner ∨
    accounts.portalProgram.address ≠ (L accounts.session.address).owner) .invalidAccountOwner
  rejectIf (accounts.portalProgram.address ≠ d.portal.programId) .incorrectProgramId
  rejectIf ((findCheckpointPda d.portal accounts.session.address args.erSlot).1 ≠
    accounts.checkpoint.address) .invalidSeeds
  let session ← releaseSession d L accounts
  let checkpoint ← okOr (parseCheckpoint (L accounts.checkpoint.address).data) .invalidAccountData
  rejectIf (session.validator ≠ accounts.validator.address ∨
    ¬isValidSettlementCheckpoint checkpoint accounts.session.address args.erSlot args.checksum)
    .invalidAccountData
  let bridge ← readSessionBridge d L accounts.sessionBridge.address
  let expected ← expectedSessionBridge d L accounts bridge
  rejectIf (bridge.bridgeProgram ≠ d.programId ∨ bridge.session ≠ accounts.session.address ∨
    expected ≠ accounts.sessionBridge.address) .invalidAccountData
  let vaultState ← loadVault d L accounts.vault.address accounts.sessionBridge.address
  requireBridgeTokenAccounts bridge vaultState accounts.vaultTokenAccount.address
    accounts.mint.address accounts.tokenProgram.address
  let destination ← okOr (d.token L accounts.destinationTokenAccount.address) .invalidAccountData
  rejectIf (destination.mint ≠ bridge.mint) .invalidAccountData
  return vaultState

/-- Portal consumes the authorization; the bridge signs for the vault. -/
def consume (accounts : ReleaseAccounts) (args : TokenWithdrawal) (L : Ledger) :
    ProgramResult :=
  processConsumeTokenWithdrawal d.portal
    [{ accounts.validator with isWritable := false },
      { accounts.session with isSigner := false, isWritable := false },
      { accounts.checkpoint with isSigner := false, isWritable := false },
      { accounts.authorization with isSigner := false, isWritable := true },
      { accounts.sessionBridge with isSigner := false, isWritable := false },
      { accounts.vault with isSigner := true, isWritable := false },
      { accounts.erTokenAccount with isSigner := false, isWritable := false },
      { accounts.vaultTokenAccount with isSigner := false, isWritable := false },
      { accounts.destinationTokenAccount with isSigner := false, isWritable := false },
      { accounts.mint with isSigner := false, isWritable := false },
      { accounts.tokenProgram with isSigner := false, isWritable := false }] args L

/-- The transfer of a release. -/
def releaseTransfer (accounts : ReleaseAccounts) (args : TokenWithdrawal) : TokenTransfer :=
  { source := accounts.vaultTokenAccount.address
    mint := accounts.mint.address
    destination := accounts.destinationTokenAccount.address
    authority := accounts.vault.address
    amount := args.amount
    decimals := args.decimals }

/-- **SettleWithdrawal**: release a settled withdrawal. A counter the vault has passed
already counts as released; otherwise it has to continue the vault's counter exactly. -/
def settleWithdrawal (accounts : ReleaseAccounts) (args : TokenWithdrawal)
    (L : Ledger) : Except BridgeError Ledger := do
  let vaultState ← checkRelease d accounts args L
  if args.withdrawn ≤ vaultState.withdrawn then
    return L
  else do
    let expected ← okOr (checkedAdd vaultState.withdrawn args.amount) .arithmeticOverflow
    rejectIf (args.withdrawn ≠ expected ∨ vaultState.deposited < args.withdrawn) .invalidArgument
    rejectIf (accounts.tokenProgram.address ≠ d.portal.tokenProgramId) .incorrectProgramId
    rejectIf (¬vaultSigns d accounts.vault.address accounts.sessionBridge.address vaultState.bump)
      .missingRequiredSignature
    let L ← called (consume d accounts args L)
    let L ← d.transferChecked L (releaseTransfer accounts args)
    store L accounts.vault.address
      (TokenVault.bytes { vaultState with withdrawn := args.withdrawn })

/-! ## Dispatch -/

/-- **Instructions** of the bridge. Those that only move rollup accounts between their owners
never touch a vault; they are among the other transactions of a history. -/
inductive Instruction
  | initializeVault
  | initializeErTokenAccount (owner : Pubkey)
  | deposit (amount : UInt64) (decimals : UInt8)
  | transfer (amount : UInt64)
  | withdraw (amount : UInt64) (decimals : UInt8)
  | startWithdrawal (amount : UInt64) (decimals : UInt8)
  | settleWithdrawal (args : TokenWithdrawal)

def processDeposit (now : UInt64) (accounts : List AccountMeta) (amount : UInt64)
    (decimals : UInt8) (L : Ledger) : Except BridgeError Ledger :=
  match accounts with
  | payer :: owner :: vault :: erTokenAccount :: sessionBridge :: portalProgram ::
      sourceTokenAccount :: vaultTokenAccount :: mint :: tokenProgram :: depositReceipt ::
      delegationRecord :: systemProgram :: more =>
    -- the request is read for delegated accounts only, the rest in builds with continuity
    let missing : AccountMeta := ⟨systemProgramId, false, false⟩
    deposit d now ⟨payer, owner, vault, erTokenAccount, sessionBridge, portalProgram,
        sourceTokenAccount, vaultTokenAccount, mint, tokenProgram, depositReceipt,
        delegationRecord, systemProgram⟩
      { request := more.getD 0 missing, session := more.getD 1 missing,
        origin := more.getD 2 missing, ingress := more.getD 3 missing } amount decimals L
  | _ => .error .notEnoughAccountKeys

def processWithdraw (accounts : List AccountMeta) (amount : UInt64)
    (decimals : UInt8) (L : Ledger) : Except BridgeError Ledger :=
  match accounts with
  | owner :: vault :: erTokenAccount :: sessionBridge :: portalProgram :: vaultTokenAccount ::
      destinationTokenAccount :: mint :: tokenProgram :: _ =>
    withdraw d ⟨owner, vault, erTokenAccount, sessionBridge, portalProgram, vaultTokenAccount,
      destinationTokenAccount, mint, tokenProgram⟩ amount decimals L
  | _ => .error .notEnoughAccountKeys

def processSettleWithdrawal (accounts : List AccountMeta)
    (args : TokenWithdrawal) (L : Ledger) : Except BridgeError Ledger :=
  match accounts with
  | validator :: session :: checkpoint :: authorization :: sessionBridge :: portalProgram ::
      vault :: erTokenAccount :: vaultTokenAccount :: destinationTokenAccount :: mint ::
      tokenProgram :: _ =>
    settleWithdrawal d ⟨validator, session, checkpoint, authorization, sessionBridge,
      portalProgram, vault, erTokenAccount, vaultTokenAccount, destinationTokenAccount, mint,
      tokenProgram⟩ args L
  | _ => .error .notEnoughAccountKeys

/-- **Dispatch** of one instruction, at slot `now` of the clock. -/
def processInstruction (now : UInt64) (accounts : List AccountMeta)
    (instruction : Instruction) (L : Ledger) : Except BridgeError Ledger :=
  match instruction, accounts with
  | .initializeVault, payer :: vault :: sessionBridge :: portalProgram :: vaultTokenAccount ::
      systemProgram :: _ =>
    initializeVault d payer vault sessionBridge portalProgram vaultTokenAccount systemProgram L
  | .initializeErTokenAccount owner, payer :: erTokenAccount :: sessionBridge :: portalProgram ::
      systemProgram :: _ =>
    initializeErTokenAccount d payer erTokenAccount sessionBridge portalProgram systemProgram
      owner L
  | .deposit amount decimals, accounts => processDeposit d now accounts amount decimals L
  | .transfer amount, authority :: source :: destination :: _ =>
    transfer d authority source destination amount L
  | .withdraw amount decimals, accounts =>
    -- builds with the continuity feature do not have this instruction
    if d.portal.features.checkpointContinuityV2 = true then .error .invalidInstructionData
    else processWithdraw d accounts amount decimals L
  | .startWithdrawal amount decimals, owner :: erTokenAccount :: sessionBridge :: portalProgram ::
      destinationTokenAccount :: tokenProgram :: more =>
    startWithdrawal d owner erTokenAccount sessionBridge portalProgram destinationTokenAccount
      tokenProgram more.head? amount decimals L
  | .settleWithdrawal args, accounts => processSettleWithdrawal d accounts args L
  | _, _ => .error .notEnoughAccountKeys

/-! ## Histories -/

/-- A call of the bridge. -/
structure Call where
  slot : UInt64
  accounts : List AccountMeta
  instruction : Instruction

def Call.result (c : Call) (L : Ledger) : Except BridgeError Ledger :=
  processInstruction d c.slot c.accounts c.instruction L

/-- **What happens on the chain**: a call of the bridge, or other transactions with the ledger
they lead to. -/
inductive Event
  | call (call : Call)
  | other (after : Ledger)

/-- The ledger after an event. A failed call changes nothing. -/
def exec (L : Ledger) : Event → Ledger
  | .call c => match c.result d L with
    | .ok L' => L'
    | .error _ => L
  | .other after => after

/-- **What the runtime guarantees**: only the bridge writes its vaults. -/
def Admissible (L : Ledger) : Event → Prop
  | .call _ => True
  | .other after => ∀ a v, vaultAt d L a = some v → vaultAt d after a = some v

theorem exec_call_of_ok {d : Deployment} {L L' : Ledger} {c : Call} (h : c.result d L = .ok L') :
    exec d L (.call c) = L' := by
  simp [exec, h]

theorem exec_call_of_error {d : Deployment} {L : Ledger} {c : Call} {e : BridgeError}
    (h : c.result d L = .error e) : exec d L (.call c) = L := by
  simp [exec, h]

end Northstar.Bridge
