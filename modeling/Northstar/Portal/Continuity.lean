import Northstar.Portal.Delegation
import Northstar.Portal.Tokens

/-!
# Instructions of the second checkpoint format

Builds with the continuity feature also run sessions of the second format. Everything that
enters such a session is chained into ingress records, and a proposal carries openings of
its two state roots that are bound to the consumed part of the chain.
-/

namespace Northstar.Portal

open Bytes Checked PortalError

variable (env : Env) (now : UInt64)

/-! ## Opening -/

/-- What a session is opened with. -/
structure OpenSessionV2 where
  session : OpenSession
  l1Genesis : Hash32
  profile : Hash32

/-- The counter of sessions, zero before the first one. -/
def loadSessionEpochV2 (L : Ledger) (epoch : Pubkey) : Except ProgramError SessionEpochV2 :=
  if (L epoch).data = .empty ∧ (L epoch).owner = systemProgramId then
    .ok { lastNonce := 0, bump := (findSessionEpochV2Pda env).2 }
  else do
    rejectIf ((L epoch).owner ≠ env.programId) invalidAccountData
    match (L epoch).data with
    | .sessionEpochV2 counter => do
      rejectIf (counter.bump ≠ (findSessionEpochV2Pda env).2) invalidAccountData
      return counter
    | _ => .error invalidAccountData

/-- Create the account of the counter, unless it exists. -/
def prepareSessionEpochV2 (L : Ledger) (payer : AccountMeta) (epoch : Pubkey) : ProgramResult :=
  if (L epoch).data = .empty then
    initializePdaAccount env L payer epoch (env.minimumBalance 25) 25
  else .ok L

/-- Opening on its named accounts. -/
def openSessionV2 (payer session feeVault epoch : AccountMeta)
    (args : OpenSessionV2) (L : Ledger) : ProgramResult := do
  rejectIf (args.l1Genesis = zero32 ∨ args.profile = zero32) .invalidInstructionData
  rejectIf (payer.isSigner = false ∨ epoch.address ≠ (findSessionEpochV2Pda env).1 ∨
    epoch.isWritable = false) unauthorized
  let counter ← loadSessionEpochV2 env L epoch.address
  rejectIf (2 ^ 128 ≤ counter.lastNonce.toNat + 1) arithmeticOverflow
  let counter := { counter with lastNonce := counter.lastNonce + 1 }
  let L ← prepareSessionEpochV2 env L payer epoch.address
  let L ← openSession env now payer session feeVault args.session
    (some ⟨counter.lastNonce, args.l1Genesis, args.profile⟩) L
  return L.setData epoch.address (.sessionEpochV2 counter)

/-- The accounts of `OpenSessionV2`, in order. -/
def processOpenSessionV2 (accounts : List AccountMeta)
    (args : OpenSessionV2) (L : Ledger) : ProgramResult :=
  match accounts with
  | payer :: session :: feeVault :: _systemProgram :: epoch :: _ =>
    openSessionV2 env now payer session feeVault epoch args L
  | _ => .error .notEnoughAccountKeys

/-! ## The ingress chain -/

/-- Chain one payload into the session. -/
def appendIngressV2 (payer session record : AccountMeta)
    (payload : IngressPayloadV2) (L : Ledger) : ProgramResult := do
  let frame ← loadSessionV2 env L session.address
  rejectIf (frame.base.isExpired now) sessionExpired
  let context ← frame.context env session.address
  let sequence ← okOr (checkedAdd frame.ingressCount 1) arithmeticOverflow
  let (expected, bump) := findIngressRecordV2Pda env context sequence
  rejectIf (record.address ≠ expected ∨ session.isWritable = false ∨ record.isWritable = false)
    invalidPdaSeeds
  let state ← IngressRecordV2.new env context sequence now frame.ingressRoot payload bump
  let size := (AccountData.ingressRecordV2 state).size
  let L ← initializePdaAccount env L payer record.address (env.minimumBalance size) size
  let L := L.setData record.address (.ingressRecordV2 state)
  return L.setData session.address (.sessionV2
    { frame with ingressCount := sequence, ingressRoot := state.root })

/-- The payload of a delegation, read off the delegated account. -/
def delegationPayload (L : Ledger) (account record ownerProgram : Pubkey) :
    IngressPayloadV2 :=
  .delegation account record ownerProgram (L account).lamports
    (UInt32.ofNat (L account).data.size) (env.hashv [(L account).data.bytes]) false 0

/-- Delegation on its named accounts. -/
def delegateV2
    (payer session account ownerProgram record buffer ingress : AccountMeta) (gridId : UInt64)
    (L : Ledger) : ProgramResult := do
  let frame ← loadSessionV2 env L session.address
  rejectIf (frame.base.gridId ≠ gridId ∨ (L ownerProgram.address).executable = false ∨
    (L account.address).executable = true) unauthorized
  rejectIf (frame.base.settlementStatus ≠ .idle) settlementInProgress
  let L ← processDelegateAccount env payer account ownerProgram record buffer frame.base L
  rejectIf (2 ^ 32 ≤ (L account.address).data.size) invalidAccountData
  appendIngressV2 env now payer session ingress
    (delegationPayload env L account.address record.address ownerProgram.address) L

/-- The groups of accounts of `DelegateV2`. -/
def processDelegateV2 (accounts : List AccountMeta) (gridId : UInt64)
    (L : Ledger) : ProgramResult :=
  match accounts with
  | [payer, _systemProgram, session, account, ownerProgram, record, buffer, ingress] =>
    delegateV2 env now payer session account ownerProgram record buffer ingress gridId L
  | _ => .error .notEnoughAccountKeys

/-! ## Deposits -/

/-- The receipt of the recipient, fresh before the first deposit. -/
def loadReceiptV2 (L : Ledger) (context : Hash32) (session receipt recipient : Pubkey) :
    Except ProgramError DepositReceiptV2 :=
  let bump := (findDepositReceiptV2Pda env context recipient).2
  if (L receipt).data = .empty ∧ (L receipt).owner = systemProgramId then
    .ok
      { base := { session, recipient, balance := 0, withdrawn := 0, bump }
        sessionContext := context
        totalDeposited := 0 }
  else do
    rejectIf ((L receipt).owner ≠ env.programId) invalidAccountData
    match (L receipt).data with
    | .depositReceiptV2 state => do
      rejectIf (state.sessionContext ≠ context ∨ state.base.session ≠ session ∨
        state.base.recipient ≠ recipient ∨ state.base.bump ≠ bump) depositReceiptStateInvalid
      return state
    | _ => .error depositReceiptDeserializeFailed

/-- Create the account of a fresh receipt. -/
def prepareReceiptV2 (L : Ledger) (depositor : AccountMeta) (receipt : Pubkey) : ProgramResult :=
  if (L receipt).data = .empty ∧ (L receipt).owner = systemProgramId then
    initializePdaAccount env L depositor receipt (env.minimumBalance 137) 137
  else .ok L

/-- Depositing on its named accounts. -/
def depositFeeV2
    (depositor session receipt recipient ingress : AccountMeta) (lamports : UInt64) (L : Ledger) :
    ProgramResult := do
  rejectIf (depositor.isSigner = false) unauthorized
  rejectIf (lamports = 0 ∨ recipient.address = withdrawalSink ∨ ¬(L recipient.address).IsPlain)
    .invalidInstructionData
  let frame ← loadSessionV2 env L session.address
  let context ← frame.context env session.address
  rejectIf (receipt.address ≠ (findDepositReceiptV2Pda env context recipient.address).1)
    invalidPdaSeeds
  let state ← loadReceiptV2 env L context session.address receipt.address recipient.address
  let total ← okOr (checkedAdd state.totalDeposited lamports) arithmeticOverflow
  let L ← prepareReceiptV2 env L depositor receipt.address
  let L ← systemTransfer L depositor receipt.address lamports
  let L := L.setData receipt.address (.depositReceiptV2 { state with totalDeposited := total })
  appendIngressV2 env now depositor session ingress
    (.solDeposit recipient.address receipt.address lamports total) L

/-- The accounts of `DepositFeeV2`, in order. -/
def processDepositFeeV2 (accounts : List AccountMeta)
    (lamports : UInt64) (L : Ledger) : ProgramResult :=
  match accounts with
  | [depositor, session, receipt, recipient, _systemProgram, ingress] =>
    depositFeeV2 env now depositor session receipt recipient ingress lamports L
  | _ => .error .notEnoughAccountKeys

/-! ## Token bridges -/

/-- Registration on its named accounts, by the session's authority. -/
def registerSessionBridgeV2
    (payer session registration mint bridgeProgram tokenProgram systemProgram : AccountMeta)
    (args : RegisterSessionBridge) (L : Ledger) : ProgramResult := do
  let frame ← loadSessionV2 env L session.address
  rejectIf (payer.isSigner = false ∨ payer.address ≠ frame.base.authority) unauthorized
  rejectIf (payer.isWritable = false ∨ registration.isWritable = false ∨
    systemProgram.address ≠ systemProgramId) invalidAccountData
  rejectIf (frame.base.isExpired now) sessionExpired
  rejectIf (mint.address ≠ args.mint ∨ bridgeProgram.address ≠ args.bridgeProgram ∨
    tokenProgram.address ≠ args.tokenProgram ∨ args.tokenProgram ≠ env.tokenProgramId ∨
    (L bridgeProgram.address).executable = false ∨ (L tokenProgram.address).executable = false)
    .incorrectProgramId
  let initialized ← env.mintIsInitialized (L mint.address).data
  rejectIf (initialized = false) invalidAccountData
  let context ← frame.context env session.address
  let (expected, bump) := findSessionBridgeV2Pda env context args.mint
  rejectIf (registration.address ≠ expected ∨
    args.vault ≠ findTokenVaultPda env expected args.bridgeProgram) invalidPdaSeeds
  let state : SessionBridgeV2 :=
    { base := args.record session.address bump, sessionContext := context }
  if (L registration.address).data = .empty then do
    let L ← initializePdaAccount env L payer registration.address (env.minimumBalance 209) 209
    return L.setData registration.address (.sessionBridgeV2 state)
  else do
    rejectIf ((L registration.address).owner ≠ env.programId) invalidAccountData
    rejectIf (state.sessionContext = zero32 ∨
      (L registration.address).data ≠ .sessionBridgeV2 state) invalidAccountData
    return L

/-- The accounts of `RegisterSessionBridgeV2`. -/
def processRegisterSessionBridgeV2 (accounts : List AccountMeta)
    (args : RegisterSessionBridge) (L : Ledger) : ProgramResult :=
  match accounts with
  | [payer, session, registration, mint, bridgeProgram, tokenProgram, systemProgram] =>
    registerSessionBridgeV2 env now payer session registration mint bridgeProgram tokenProgram
      systemProgram args L
  | _ => .error .notEnoughAccountKeys

/-- The bytes of an account of the bridge program, at the expected address, of the expected
kind and length. The bump is the last byte of every such account. -/
def bridgeAccountBytes (L : Ledger) (account owner : Pubkey) (expected : Pubkey × UInt8)
    (length : Nat) (discriminator : UInt8) : Except ProgramError (List UInt8) := do
  let bytes := (L account).data.bytes
  rejectIf (account ≠ expected.1 ∨ (L account).owner ≠ owner ∨ (L account).executable = true)
    invalidAccountData
  rejectIf (bytes.length ≠ length ∨ bytes.head? ≠ some discriminator ∨
    bytes.getLast? ≠ some expected.2) invalidAccountData
  return bytes

/-- The registered bridge that a deposit came through, with its signing vault. -/
def loadDepositBridge (L : Ledger) (context : Hash32) (session registration : Pubkey)
    (vault : AccountMeta) : Except ProgramError SessionBridge := do
  rejectIf ((L registration).owner ≠ env.programId ∨ (L registration).executable = true)
    invalidAccountData
  match (L registration).data with
  | .sessionBridgeV2 registry => do
    let (expected, bump) := findSessionBridgeV2Pda env context registry.base.mint
    rejectIf (registry.sessionContext = zero32 ∨ registry.sessionContext ≠ context ∨
      registry.base.session ≠ session ∨ registration ≠ expected ∨ registry.base.bump ≠ bump ∨
      registry.base.tokenProgram ≠ env.tokenProgramId) invalidAccountData
    let vaultKey := findTokenVaultPda env registration registry.base.bridgeProgram
    rejectIf (vault.address ≠ vaultKey ∨ registry.base.vault ≠ vaultKey ∨
      (L vault.address).owner ≠ registry.base.bridgeProgram ∨
      (L vault.address).executable = true) unauthorized
    return registry.base
  | _ => .error invalidAccountData

/-- Recording a token deposit on its named accounts: the bridge's own records say how much
was deposited beyond the origin. -/
def recordTokenDepositV2
    (payer systemProgram session registration vault account delegation receipt origin ingress :
      AccountMeta) (amount : UInt64) (L : Ledger) : ProgramResult := do
  rejectIf (payer.isSigner = false ∨ vault.isSigner = false) unauthorized
  rejectIf (systemProgram.address ≠ systemProgramId ∨ amount = 0) .invalidInstructionData
  let frame ← loadSessionV2 env L session.address
  let context ← frame.context env session.address
  let bridge ← loadDepositBridge env L context session.address registration.address vault
  let (recordKey, recordBump) := findDelegationRecordPda env account.address
  rejectIf (delegation.address ≠ recordKey ∨ (L delegation.address).owner ≠ env.programId ∨
    (L account.address).owner ≠ env.programId ∨ (L account.address).executable = true)
    invalidAccountData
  let binding ← okOr (parseDelegationRecord (L delegation.address).data) invalidAccountData
  rejectIf (binding.bump ≠ recordBump ∨ binding.ownerProgram ≠ bridge.bridgeProgram ∨
    binding.gridId ≠ frame.base.gridId) invalidAccountData
  let er := (L account.address).data.bytes
  let _ ← bridgeAccountBytes L account.address env.programId
    (env.findProgramAddress [ascii "er_token", registration.address.toList, bytesAt er 33 32]
      bridge.bridgeProgram) 106 2
  rejectIf (bytesAt er 1 32 ≠ registration.address.toList ∨ bytesAt er 65 32 ≠ bridge.mint.toList)
    invalidAccountData
  let deposited ← bridgeAccountBytes L receipt.address bridge.bridgeProgram
    (env.findProgramAddress [ascii "token_deposit", registration.address.toList,
      account.address.toList] bridge.bridgeProgram) 82 3
  rejectIf (bytesAt deposited 1 32 ≠ registration.address.toList ∨
    bytesAt deposited 33 32 ≠ account.address.toList ∨
    word64At deposited 65 < word64At deposited 73) invalidAccountData
  let baseline ← bridgeAccountBytes L origin.address bridge.bridgeProgram
    (env.findProgramAddress [ascii "token_deposit_origin", account.address.toList]
      bridge.bridgeProgram) 10 4
  rejectIf ((word64At deposited 65).toNat < (word64At baseline 1).toNat + amount.toNat)
    invalidAccountData
  appendIngressV2 env now payer session ingress
    (.tokenDeposit bridge.bridgeProgram registration.address account.address receipt.address
      bridge.mint bridge.tokenProgram (word64At baseline 1) amount (word64At deposited 65)) L

/-- The accounts of `RecordTokenDepositV2`. -/
def processRecordTokenDepositV2 (accounts : List AccountMeta)
    (amount : UInt64) (L : Ledger) : ProgramResult :=
  match accounts with
  | [payer, systemProgram, session, registration, vault, account, delegation, receipt, origin,
      ingress] =>
    recordTokenDepositV2 env now payer systemProgram session registration vault account
      delegation receipt origin ingress amount L
  | _ => .error .notEnoughAccountKeys

/-! ## Proposing and committing -/

/-- A proposal with the openings of its two roots. -/
structure ProposeCheckpointV2 where
  proposal : ProposeCheckpoint
  pre : StateRootOpeningV2
  post : StateRootOpeningV2
  readonlyL1Root : Hash32

/-- The openings continue the consumed part of the ingress chain and open the two roots of
the proposal. -/
def requireOpenings (frame : SessionV2) (context : Hash32)
    (args : ProposeCheckpointV2) : Except ProgramError Unit := do
  let preRoot ← args.pre.commitment env
  let postRoot ← args.post.commitment env
  rejectIf (args.pre.sessionContext ≠ context ∨ args.post.sessionContext ≠ context ∨
    args.pre.ingressCount ≠ frame.consumedIngressCount ∨
    args.pre.ingressRoot ≠ frame.consumedIngressRoot ∨
    frame.ingressCount < args.post.ingressCount ∨
    args.post.ingressCount < args.pre.ingressCount ∨
    args.pre.ingressCount.toNat + args.proposal.stepCount.toNat < args.post.ingressCount.toNat ∨
    args.proposal.previousStateRoot ≠ preRoot ∨ args.proposal.newStateRoot ≠ postRoot)
    checkpointPreviousRootMismatch

/-- Whether no checkpoint of the session was committed yet. -/
def isFirstCheckpoint (L : Ledger) (cursor : Pubkey) : Except ProgramError Bool :=
  if (L cursor).data = .empty then .ok true
  else do
    rejectIf ((L cursor).owner ≠ env.programId) invalidAccountData
    match (L cursor).data with
    | .cursor state => .ok (decide (state.latestFinalizedCheckpoint = zero32))
    | _ => .error invalidAccountData

/-- The first checkpoint of a session starts from the empty state. -/
def requireEmptyStart (context : Hash32) (first : Bool) (pre : StateRootOpeningV2) :
    Except ProgramError Unit :=
  if first = true then do
    let expected ← emptyStateOpeningV2 env context
    rejectIf (pre ≠ expected) checkpointPreviousRootMismatch
  else .ok ()

/-- The last ingress record that the proposal consumes, or none. -/
def requireIngressPrefix (L : Ledger) (context : Hash32)
    (post : StateRootOpeningV2) (record : Pubkey) : Except ProgramError Unit :=
  if 0 < post.ingressCount then do
    let (expected, bump) := findIngressRecordV2Pda env context post.ingressCount
    rejectIf (record ≠ expected ∨ (L record).owner ≠ env.programId) invalidPdaSeeds
    match (L record).data with
    | .ingressRecordV2 state =>
      rejectIf (¬state.ValidNext env context (post.ingressCount - 1) state.previousRoot ∨
        state.bump ≠ bump ∨ state.root ≠ post.ingressRoot ∨ now < state.l1Slot) invalidAccountData
    | _ => .error invalidAccountData
  else rejectIf (record ≠ systemProgramId) invalidPdaSeeds

/-- What the steps of the proposal read from outside the session. -/
def ProposeCheckpointV2.inputContext (args : ProposeCheckpointV2) (context : Hash32) :
    InputContextV2 :=
  { sessionContext := context
    readonlyL1Root := args.readonlyL1Root
    ingressStart := args.pre.ingressCount
    ingressStartRoot := args.pre.ingressRoot
    ingressEnd := args.post.ingressCount
    ingressEndRoot := args.post.ingressRoot }

/-- Proposing on its named accounts: the binding, then the proposal itself. -/
def proposeCheckpointV2
    (proposer session checkpoint cursor binding record : AccountMeta)
    (args : ProposeCheckpointV2) (L : Ledger) : ProgramResult := do
  let frame ← loadSessionV2 env L session.address
  let context ← frame.context env session.address
  requireOpenings env frame context args
  let first ← isFirstCheckpoint env L cursor.address
  requireEmptyStart env context first args.pre
  requireIngressPrefix env now L context args.post record.address
  let input ← (args.inputContext context).commitment env
  rejectIf (input ≠ args.proposal.readonlyL1Root) invalidAccountData
  let (expected, bump) := findCheckpointBindingV2Pda env checkpoint.address
  rejectIf (binding.address ≠ expected) invalidPdaSeeds
  let L ← initializePdaAccount env L proposer binding.address (env.minimumBalance 377) 377
  args.proposal.check
  let L ← proposeCheckpoint env now proposer session checkpoint cursor args.proposal true L
  return L.setData binding.address (.checkpointBindingV2
    { checkpoint := checkpoint.address
      pre := args.pre
      post := args.post
      prefixRecord := record.address
      inputContextRoot := input
      bump := bump })

/-- The accounts of `ProposeCheckpointV2`. -/
def processProposeCheckpointV2 (accounts : List AccountMeta)
    (args : ProposeCheckpointV2) (L : Ledger) : ProgramResult :=
  match accounts with
  | [proposer, session, checkpoint, cursor, _systemProgram, binding, record] =>
    proposeCheckpointV2 env now proposer session checkpoint cursor binding record args L
  | _ => .error .notEnoughAccountKeys

/-- The binding an account holds. -/
def parseCheckpointBinding : AccountData → Option CheckpointBindingV2
  | .checkpointBindingV2 state => some state
  | _ => none

/-- The binding still fits the session and opens the two roots of the checkpoint. -/
def requireBinding (frame : SessionV2) (context : Hash32) (checkpointKey : Pubkey)
    (checkpoint : Checkpoint) (bump : UInt8) (binding : CheckpointBindingV2) :
    Except ProgramError Unit := do
  let preRoot ← binding.pre.commitment env
  let postRoot ← binding.post.commitment env
  rejectIf (binding.bump ≠ bump ∨ binding.checkpoint ≠ checkpointKey ∨
    binding.pre.sessionContext ≠ context ∨ binding.post.sessionContext ≠ context ∨
    binding.pre.ingressCount ≠ frame.consumedIngressCount ∨
    binding.pre.ingressRoot ≠ frame.consumedIngressRoot ∨
    frame.ingressCount < binding.post.ingressCount ∨ checkpoint.previousStateRoot ≠ preRoot ∨
    checkpoint.newStateRoot ≠ postRoot ∨ checkpoint.readonlyL1Root ≠ binding.inputContextRoot)
    checkpointPreviousRootMismatch

/-- Committing on its named accounts: the commitment itself, then the consumed ingress. -/
def commitCheckpointV2
    (committer session checkpoint cursor proposer binding : AccountMeta) (erSlot : UInt64)
    (L : Ledger) : ProgramResult := do
  let frame ← loadSessionV2 env L session.address
  let (expected, bump) := findCheckpointBindingV2Pda env checkpoint.address
  rejectIf (binding.address ≠ expected ∨ (L binding.address).owner ≠ env.programId) invalidPdaSeeds
  let state ← okOr (parseCheckpointBinding (L binding.address).data) invalidAccountData
  let context ← frame.context env session.address
  let checkpointState ← okOr (parseCheckpoint (L checkpoint.address).data) invalidAccountData
  requireBinding env frame context checkpoint.address checkpointState bump state
  let L ← commitCheckpoint env now committer session checkpoint cursor proposer erSlot true L
  return L.setData session.address (.sessionV2
    { frame with
      consumedIngressCount := state.post.ingressCount
      consumedIngressRoot := state.post.ingressRoot })

/-- The accounts of `CommitCheckpointV2`. -/
def processCommitCheckpointV2 (accounts : List AccountMeta)
    (erSlot : UInt64) (L : Ledger) : ProgramResult :=
  match accounts with
  | [committer, session, checkpoint, cursor, proposer, binding] =>
    commitCheckpointV2 env now committer session checkpoint cursor proposer binding erSlot L
  | _ => .error .notEnoughAccountKeys

end Northstar.Portal
