import Northstar.Portal.Deposits

/-!
# Token bridges and withdrawals

A session registers the bridge program that keeps the tokens of a mint. A settlement
authorizes token withdrawals one by one; the bridge consumes an authorization once the
checkpoint is settled.
-/

namespace Northstar.Portal

open Bytes Checked PortalError

variable (env : Env)

/-- A session of the second format at its own address. -/
def loadSessionV2 (L : Ledger) (session : Pubkey) : Except ProgramError SessionV2 := do
  rejectIf (session ≠ (findSessionPda env).1 ∨ (L session).owner ≠ env.programId)
    sessionAccountOwnerMismatch
  match (L session).data with
  | .sessionV2 frame => do
    rejectIf (¬frame.IsValid) sessionStateInvalid
    return frame
  | _ => .error sessionDeserializeFailed

theorem loadSessionV2_eq_ok {env : Env} {L : Ledger} {a : Pubkey} {frame : SessionV2} :
    loadSessionV2 env L a = .ok frame ↔ a = env.address .session ∧
      (L a).owner = env.programId ∧ (L a).data = .sessionV2 frame ∧ frame.IsValid := by
  cases hd : (L a).data <;>
    simp only [loadSessionV2, hd, chain_ok, not_or, reduceCtorEq, and_false, false_and,
      AccountData.sessionV2.injEq]
  constructor
  · rintro ⟨⟨hkey, howner⟩, hvalid, rfl⟩
    exact ⟨hkey, howner, rfl, hvalid⟩
  · rintro ⟨hkey, howner, rfl, hvalid⟩
    exact ⟨⟨hkey, howner⟩, hvalid, rfl⟩

/-- The vault of a registered bridge, derived for the bridge program. -/
def findTokenVaultPda (sessionBridge bridgeProgram : Pubkey) : Pubkey :=
  (env.findProgramAddress [ascii "token_vault", sessionBridge.toList] bridgeProgram).1

/-! ## Registration -/

/-- The bridge to be registered. -/
structure RegisterSessionBridge where
  mint : Pubkey
  bridgeProgram : Pubkey
  vault : Pubkey
  tokenProgram : Pubkey

/-- Its record. -/
def RegisterSessionBridge.record (args : RegisterSessionBridge) (session : Pubkey) (bump : UInt8) :
    SessionBridge :=
  { session := session
    mint := args.mint
    bridgeProgram := args.bridgeProgram
    vault := args.vault
    tokenProgram := args.tokenProgram
    bump := bump }

/-- Register the bridge, unless it is registered already; a different registration
stands. -/
def installBridge (L : Ledger) (payer : AccountMeta) (sessionBridge : Pubkey)
    (state : SessionBridge) : ProgramResult :=
  if (L sessionBridge).data = .empty then do
    let L ← initializePdaAccount env L payer sessionBridge (env.minimumBalance 169) 169
    return L.setData sessionBridge (.sessionBridge state)
  else do
    rejectIf ((L sessionBridge).owner ≠ env.programId) invalidAccountData
    rejectIf ((L sessionBridge).data ≠ .sessionBridge state) invalidAccountData
    return L

/-- Registration on its named accounts. -/
def registerSessionBridge
    (payer session sessionBridge mint bridgeProgram tokenProgram systemProgram : AccountMeta)
    (args : RegisterSessionBridge) (L : Ledger) : ProgramResult := do
  rejectIf (payer.isSigner = false) unauthorized
  rejectIf (systemProgram.address ≠ systemProgramId) .incorrectProgramId
  rejectIf (session.address ≠ (findSessionPda env).1) invalidPdaSeeds
  rejectIf ((L session.address).owner ≠ env.programId) sessionAccountOwnerMismatch
  let _ ← parseSessionV1 (L session.address).data
  let (bridgeKey, bump) := findSessionBridgePda env session.address args.mint
  rejectIf (sessionBridge.address ≠ bridgeKey) invalidPdaSeeds
  rejectIf (mint.address ≠ args.mint ∨ bridgeProgram.address ≠ args.bridgeProgram ∨
    tokenProgram.address ≠ args.tokenProgram) invalidAccountData
  rejectIf (args.tokenProgram ≠ env.tokenProgramId ∨
    (L tokenProgram.address).executable = false ∨ (L bridgeProgram.address).executable = false)
    .incorrectProgramId
  let initialized ← env.mintIsInitialized (L mint.address).data
  rejectIf (initialized = false) invalidAccountData
  rejectIf (args.vault ≠ findTokenVaultPda env sessionBridge.address args.bridgeProgram)
    invalidPdaSeeds
  installBridge env L payer sessionBridge.address (args.record session.address bump)

/-- The accounts of `RegisterSessionBridge`. -/
def processRegisterSessionBridge (accounts : List AccountMeta)
    (args : RegisterSessionBridge) (L : Ledger) : ProgramResult :=
  match accounts with
  | payer :: session :: sessionBridge :: mint :: bridgeProgram :: tokenProgram ::
      systemProgram :: _ =>
    registerSessionBridge env payer session sessionBridge mint bridgeProgram tokenProgram
      systemProgram args L
  | _ => .error .notEnoughAccountKeys

/-! ## Withdrawals -/

/-- The session a token withdrawal is settled in, in the format of the build. -/
def loadSettlementSession (L : Ledger) (session : Pubkey) : Except ProgramError Session :=
  if env.features.checkpointContinuityV2 = true then do
    return (← loadSessionV2 env L session).base
  else parseSessionV1 (L session).data

/-- The registered bridge of a session of the first format, with its expected address. -/
def readBridge (L : Ledger) (session sessionBridge : Pubkey) :
    Except ProgramError (SessionBridge × Pubkey) :=
  match (L sessionBridge).data with
  | .sessionBridge bridge => .ok (bridge, (findSessionBridgePda env session bridge.mint).1)
  | _ => .error invalidAccountData

/-- The registered bridge of a session of the second format. -/
def readBridgeV2 (L : Ledger) (session sessionBridge : Pubkey) :
    Except ProgramError (SessionBridge × Pubkey) :=
  match (L sessionBridge).data with
  | .sessionBridgeV2 registry => do
    let frame ← loadSessionV2 env L session
    let context ← frame.context env session
    let (expected, bump) := findSessionBridgeV2Pda env context registry.base.mint
    rejectIf (registry.sessionContext = zero32 ∨ registry.sessionContext ≠ context ∨
      registry.base.bump ≠ bump ∨
      registry.base.vault ≠ findTokenVaultPda env sessionBridge registry.base.bridgeProgram)
      invalidAccountData
    return (registry.base, expected)
  | _ => .error invalidAccountData

/-- The registered bridge, in the format of the build. -/
def readRegisteredBridge (L : Ledger) (session sessionBridge : Pubkey) :
    Except ProgramError (SessionBridge × Pubkey) :=
  if env.features.checkpointContinuityV2 = true then readBridgeV2 env L session sessionBridge
  else readBridge env L session sessionBridge

/-- The bridge a withdrawal goes through, checked against the accounts it names. -/
def loadBridge (L : Ledger)
    (session sessionBridge vault mint tokenProgram : Pubkey) :
    Except ProgramError SessionBridge := do
  rejectIf ((L sessionBridge).owner ≠ env.programId) invalidAccountData
  let (bridge, expected) ← readRegisteredBridge env L session sessionBridge
  rejectIf (bridge.session ≠ session ∨ sessionBridge ≠ expected ∨
    bridge.bridgeProgram ≠ (L vault).owner ∨ bridge.vault ≠ vault ∨ bridge.mint ≠ mint ∨
    bridge.tokenProgram ≠ tokenProgram) invalidAccountData
  return bridge

/-- A token withdrawal: the accounts it moves tokens between and the amounts. -/
structure TokenWithdrawalChecksum where
  bridgeProgram : Pubkey
  sessionBridge : Pubkey
  erTokenAccount : Pubkey
  vault : Pubkey
  vaultTokenAccount : Pubkey
  destinationTokenAccount : Pubkey
  mint : Pubkey
  tokenProgram : Pubkey
  amount : UInt64
  withdrawn : UInt64
  decimals : UInt8
  deriving DecidableEq

/-- What is hashed of a withdrawal. -/
def TokenWithdrawalChecksum.fields (w : TokenWithdrawalChecksum) : List (List UInt8) :=
  [w.bridgeProgram.toList, w.sessionBridge.toList, w.erTokenAccount.toList, w.vault.toList,
    w.vaultTokenAccount.toList, w.destinationTokenAccount.toList, w.mint.toList,
    w.tokenProgram.toList, le64 w.amount, le64 w.withdrawn, [w.decimals]]

/-- A withdrawal was authorized. -/
def accumulateTokenWithdrawalChecksum (accumulator : Hash32)
    (withdrawal : TokenWithdrawalChecksum) : Hash32 :=
  accumulateChecksum env accumulator "token_withdrawal" withdrawal.fields

/-- The hash an authorization keeps. -/
def tokenWithdrawalTupleHash (withdrawal : TokenWithdrawalChecksum) : Hash32 :=
  env.hashv (ascii "northstar-token-withdrawal-authorization-v0" :: withdrawal.fields)

/-- The arguments of both instructions. -/
structure TokenWithdrawal where
  erSlot : UInt64
  checksum : Hash32
  amount : UInt64
  withdrawn : UInt64
  decimals : UInt8

/-- The accounts both instructions name. -/
structure TokenWithdrawalAccounts where
  sessionBridge : AccountMeta
  vault : AccountMeta
  erTokenAccount : AccountMeta
  vaultTokenAccount : AccountMeta
  destinationTokenAccount : AccountMeta
  mint : AccountMeta
  tokenProgram : AccountMeta

/-- The withdrawal that accounts and arguments name. -/
def TokenWithdrawal.tuple (args : TokenWithdrawal) (accounts : TokenWithdrawalAccounts)
    (bridge : SessionBridge) : TokenWithdrawalChecksum :=
  { bridgeProgram := bridge.bridgeProgram
    sessionBridge := accounts.sessionBridge.address
    erTokenAccount := accounts.erTokenAccount.address
    vault := accounts.vault.address
    vaultTokenAccount := accounts.vaultTokenAccount.address
    destinationTokenAccount := accounts.destinationTokenAccount.address
    mint := accounts.mint.address
    tokenProgram := accounts.tokenProgram.address
    amount := args.amount
    withdrawn := args.withdrawn
    decimals := args.decimals }

/-- Create the authorization and accumulate the withdrawal, unless it is there already. -/
def installAuthorization (L : Ledger) (validator : AccountMeta) (session : Pubkey)
    (sessionState : Session) (authorization : Pubkey) (state : TokenWithdrawalAuthorization)
    (withdrawal : TokenWithdrawalChecksum) : ProgramResult :=
  if (L authorization).data = .empty then do
    let L ← initializePdaAccount env L validator authorization (env.minimumBalance 74) 74
    storeSession (L.setData authorization (.tokenWithdrawalAuthorization state)) session
      { sessionState with
        settlementAccumulator := accumulateTokenWithdrawalChecksum env
          sessionState.settlementAccumulator withdrawal }
  else do
    rejectIf ((L authorization).owner ≠ env.programId) invalidAccountData
    rejectIf ((L authorization).data ≠ .tokenWithdrawalAuthorization state) invalidAccountData
    return L

/-- Authorization on its named accounts. -/
def accumulateTokenWithdrawal (validator session authorization : AccountMeta)
    (accounts : TokenWithdrawalAccounts) (args : TokenWithdrawal) (L : Ledger) : ProgramResult := do
  rejectIf (session.address ≠ (findSessionPda env).1) invalidPdaSeeds
  let sessionState ← loadSettlementSession env L session.address
  rejectIf ((L session.address).owner ≠ env.programId) sessionStateInvalid
  requireValidator validator sessionState
  requireActiveSettlement sessionState args.erSlot args.checksum
  let bridge ← loadBridge env L session.address accounts.sessionBridge.address
    accounts.vault.address accounts.mint.address accounts.tokenProgram.address
  let checkpoint := (findCheckpointPda env session.address args.erSlot).1
  let (expected, bump) := findTokenWithdrawalAuthorizationPda env checkpoint
    accounts.vault.address args.withdrawn
  rejectIf (authorization.address ≠ expected) invalidPdaSeeds
  let withdrawal := args.tuple accounts bridge
  installAuthorization env L validator session.address sessionState authorization.address
    { checkpoint := checkpoint
      tupleHash := tokenWithdrawalTupleHash env withdrawal
      consumed := false
      bump := bump } withdrawal

/-- The accounts, in order. -/
def processAccumulateTokenWithdrawal (accounts : List AccountMeta)
    (args : TokenWithdrawal) (L : Ledger) : ProgramResult :=
  match accounts with
  | validator :: session :: sessionBridge :: vault :: erTokenAccount :: vaultTokenAccount ::
      destinationTokenAccount :: mint :: tokenProgram :: authorization :: _systemProgram :: _ =>
    accumulateTokenWithdrawal env validator session authorization
      { sessionBridge, vault, erTokenAccount, vaultTokenAccount, destinationTokenAccount, mint,
        tokenProgram } args L
  | _ => .error .notEnoughAccountKeys

/-- The authorization an account holds. -/
def parseTokenWithdrawalAuthorization : AccountData → Option TokenWithdrawalAuthorization
  | .tokenWithdrawalAuthorization state => some state
  | _ => none

/-- The checkpoint an account holds. -/
def parseCheckpoint : AccountData → Option Checkpoint
  | .checkpoint state => some state
  | _ => none

/-- Consumption on its named accounts, once the checkpoint is settled. -/
def consumeTokenWithdrawal (validator session checkpoint authorization : AccountMeta)
    (accounts : TokenWithdrawalAccounts) (args : TokenWithdrawal) (L : Ledger) : ProgramResult := do
  rejectIf (session.address ≠ (findSessionPda env).1 ∨
    (L session.address).owner ≠ env.programId) invalidPdaSeeds
  let sessionState ← loadSettlementSession env L session.address
  requireValidator validator sessionState
  rejectIf (checkpoint.address ≠ (findCheckpointPda env session.address args.erSlot).1 ∨
    (L checkpoint.address).owner ≠ env.programId) invalidPdaSeeds
  let checkpointState ← okOr (parseCheckpoint (L checkpoint.address).data) invalidAccountData
  rejectIf (checkpointState.session ≠ session.address ∨ checkpointState.erSlot ≠ args.erSlot ∨
    checkpointState.effectCommitment ≠ args.checksum ∨ checkpointState.status ≠ .settled)
    invalidAccountData
  let bridge ← loadBridge env L session.address accounts.sessionBridge.address
    accounts.vault.address accounts.mint.address accounts.tokenProgram.address
  rejectIf (accounts.vault.isSigner = false) unauthorized
  let (expected, bump) := findTokenWithdrawalAuthorizationPda env checkpoint.address
    accounts.vault.address args.withdrawn
  rejectIf (authorization.address ≠ expected ∨
    (L authorization.address).owner ≠ env.programId) invalidPdaSeeds
  let state ← okOr (parseTokenWithdrawalAuthorization (L authorization.address).data)
    invalidAccountData
  rejectIf (state.checkpoint ≠ checkpoint.address ∨
    state.tupleHash ≠ tokenWithdrawalTupleHash env (args.tuple accounts bridge) ∨
    state.bump ≠ bump ∨ state.consumed = true) invalidAccountData
  return L.setData authorization.address
    (.tokenWithdrawalAuthorization { state with consumed := true })

/-- The accounts, in order. -/
def processConsumeTokenWithdrawal (accounts : List AccountMeta)
    (args : TokenWithdrawal) (L : Ledger) : ProgramResult :=
  match accounts with
  | validator :: session :: checkpoint :: authorization :: sessionBridge :: vault ::
      erTokenAccount :: vaultTokenAccount :: destinationTokenAccount :: mint :: tokenProgram ::
      _ =>
    consumeTokenWithdrawal env validator session checkpoint authorization
      { sessionBridge, vault, erTokenAccount, vaultTokenAccount, destinationTokenAccount, mint,
        tokenProgram } args L
  | _ => .error .notEnoughAccountKeys

end Northstar.Portal
