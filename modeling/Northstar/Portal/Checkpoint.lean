import Northstar.Portal.Accounts

/-!
# Proposing, committing and cancelling checkpoints

The life of a checkpoint outside a challenge: the session's validator proposes it with a
bond, anyone commits it once its challenge window is over, and the proposer may cancel it
before.
-/

namespace Northstar.Portal

open Bytes Checked PortalError

variable (env : Env) (now : UInt64)

/-! ## The bond -/

/-- The rent-exempt balance of a checkpoint account. -/
def checkpointRent : UInt64 := env.minimumBalance 380

/-- Pay the bond to `recipient` and note in the checkpoint how it was resolved. -/
def resolveCheckpointBond (L : Ledger) (checkpoint recipient : Pubkey)
    (state : Checkpoint) (nextStatus : CheckpointBondStatus) :
    Except ProgramError (Ledger × Checkpoint) := do
  rejectIf (state.bondStatus ≠ .locked) checkpointBondAlreadyResolved
  rejectIf (state.bondLamports = 0) checkpointBondInsufficient
  let minimumLocked ← okOr (checkedAdd (checkpointRent env) state.bondLamports) arithmeticOverflow
  rejectIf ((L checkpoint).lamports < minimumLocked) checkpointBondInsufficient
  let recipientLamports ← okOr (checkedAdd (L recipient).lamports state.bondLamports)
    arithmeticOverflow
  let L := L.setLamports recipient recipientLamports
  let checkpointLamports ← okOr (checkedSub (L checkpoint).lamports state.bondLamports)
    arithmeticOverflow
  return (L.setLamports checkpoint checkpointLamports, { state with bondStatus := nextStatus })

/-- The bond goes back to the proposer. -/
def releaseCheckpointBond (L : Ledger) (checkpoint proposer : Pubkey)
    (state : Checkpoint) : Except ProgramError (Ledger × Checkpoint) := do
  rejectIf (proposer ≠ state.proposer) checkpointStateInvalid
  resolveCheckpointBond env L checkpoint proposer state .released

/-- The bond goes to whoever won against it. -/
def slashCheckpointBond (L : Ledger) (checkpoint recipient : Pubkey)
    (state : Checkpoint) : Except ProgramError (Ledger × Checkpoint) :=
  resolveCheckpointBond env L checkpoint recipient state .slashed

/-! ## The cursor -/

/-- The cursor of a session without checkpoints. -/
def CheckpointCursor.fresh (sessionKey : Pubkey) : CheckpointCursor :=
  { session := sessionKey
    latestFinalizedCheckpoint := zero32
    latestFinalizedErSlot := 0
    latestFinalizedStateRoot := zero32
    activeCheckpoint := zero32
    activeErSlot := 0
    bump := (findCheckpointCursorPda env sessionKey).2 }

/-- The cursor is created with the first proposal. -/
def createCursor (L : Ledger) (payer : AccountMeta) (sessionKey cursor : Pubkey) :
    Except ProgramError (Ledger × CheckpointCursor) := do
  rejectIf (cursor ≠ (findCheckpointCursorPda env sessionKey).1) invalidPdaSeeds
  let state := CheckpointCursor.fresh env sessionKey
  let L ← initializePdaAccount env L payer cursor (env.minimumBalance 153) 153
  return (L.setData cursor (.cursor state), state)

/-- The cursor, new or old. -/
def loadOrCreateCursor (L : Ledger) (payer : AccountMeta)
    (sessionKey cursor : Pubkey) : Except ProgramError (Ledger × CheckpointCursor) :=
  if (L cursor).data = .empty then
    createCursor env L payer sessionKey cursor
  else do
    let state ← loadCursor env L sessionKey cursor
    return (L, state)

/-- The slot is after all that is settled or committed. -/
def requireAdvancingCheckpoint (session : Session) (cursor : CheckpointCursor)
    (erSlot : UInt64) : Except ProgramError Unit :=
  rejectIf (erSlot ≤ session.lastSettledErSlot ∨ erSlot ≤ cursor.latestFinalizedErSlot)
    checkpointErSlotNotAdvanced

/-- No checkpoint is in flight. -/
def requireNoActiveCheckpoint (cursor : CheckpointCursor) : Except ProgramError Unit :=
  rejectIf (cursor.activeCheckpoint ≠ zero32) checkpointActiveExists

/-- This checkpoint is the one in flight. -/
def requireActiveCheckpoint (cursor : CheckpointCursor) (checkpointKey : Pubkey)
    (erSlot : UInt64) : Except ProgramError Unit :=
  rejectIf (cursor.activeCheckpoint ≠ checkpointKey ∨ cursor.activeErSlot ≠ erSlot)
    checkpointStateInvalid

/-- No checkpoint is in flight any more. -/
def CheckpointCursor.clearActive (cursor : CheckpointCursor) : CheckpointCursor :=
  { cursor with activeCheckpoint := zero32, activeErSlot := 0 }

/-- A proposal extends the committed state: its previous root is the latest finalized
one, once there is one. -/
def requireFinalizedRoot (cursor : CheckpointCursor) (previousStateRoot : Hash32) :
    Except ProgramError Unit :=
  rejectIf (cursor.latestFinalizedCheckpoint ≠ zero32 ∧
      previousStateRoot ≠ cursor.latestFinalizedStateRoot) checkpointPreviousRootMismatch

/-! ## Proposing -/

/-- What a proposal claims. -/
structure ProposeCheckpoint where
  erSlot : UInt64
  stepCount : UInt64
  previousStateRoot : Hash32
  newStateRoot : Hash32
  traceRoot : Hash32
  txEffectRoot : Hash32
  readonlyL1Root : Hash32
  daCommitment : Hash32
  effectCommitment : Hash32
  challengeWindowSlots : UInt64

/-- A finished checkpoint whose account a new proposal may take over. A settled one only
while the cursor remembers no commitment, that is, in a reopened session. -/
def reusableTerminal (previous : Checkpoint) (cursor : CheckpointCursor) : Prop :=
  previous.status = .cancelled ∨ previous.status = .invalid ∨
    (previous.status = .settled ∧ cursor.latestFinalizedCheckpoint = zero32 ∧
      cursor.latestFinalizedErSlot = 0 ∧ cursor.latestFinalizedStateRoot = zero32)
  deriving Decidable

/-- Lock the bond: create the account with rent and bond, or send the bond to a finished
checkpoint's account. -/
def fundCheckpoint (L : Ledger) (proposer : AccountMeta) (sessionKey : Pubkey)
    (erSlot : UInt64) (checkpoint : Pubkey) (cursor : CheckpointCursor) : ProgramResult :=
  if (L checkpoint).data = .empty then do
    let lamports ← okOr (checkedAdd (checkpointRent env) checkpointProposerBondLamports)
      arithmeticOverflow
    initializePdaAccount env L proposer checkpoint lamports 380
  else do
    let previous ← loadCheckpoint env L sessionKey erSlot checkpoint
    rejectIf (¬reusableTerminal previous cursor) checkpointStateInvalid
    rejectIf ((L checkpoint).lamports < checkpointRent env) checkpointBondInsufficient
    systemTransfer L proposer checkpoint checkpointProposerBondLamports

/-- The record a proposal starts with. -/
def ProposeCheckpoint.record (args : ProposeCheckpoint) (sessionKey proposer : Pubkey)
    (now deadline : UInt64) (bump : UInt8) : Checkpoint :=
  { session := sessionKey
    erSlot := args.erSlot
    stepCount := args.stepCount
    previousStateRoot := args.previousStateRoot
    newStateRoot := args.newStateRoot
    traceRoot := args.traceRoot
    txEffectRoot := args.txEffectRoot
    readonlyL1Root := args.readonlyL1Root
    daCommitment := args.daCommitment
    effectCommitment := args.effectCommitment
    proposer := proposer
    proposedAtL1Slot := now
    challengeDeadlineL1Slot := deadline
    status := .pending
    bondLamports := checkpointProposerBondLamports
    bondStatus := .locked
    challenger := zero32
    challengedAtL1Slot := 0
    challengeResolved := false
    bump := bump }

/-- The arguments a proposal is refused for before any account is read. -/
def ProposeCheckpoint.check (args : ProposeCheckpoint) : Except ProgramError Unit := do
  rejectIf (args.challengeWindowSlots = 0 ∨ args.stepCount = 0 ∨
    canonicalCheckpointSteps < args.stepCount) .invalidInstructionData
  rejectIf (maxChallengeWindowSlots < args.challengeWindowSlots) checkpointChallengeWindowTooLong

/-- The proposal on its named accounts. -/
def proposeCheckpoint (proposer session checkpoint cursor : AccountMeta)
    (args : ProposeCheckpoint) (version2 : Bool) (L : Ledger) : ProgramResult := do
  rejectIf (proposer.isSigner = false) unauthorized
  rejectIf (isSessionV2 (L session.address).data ≠ version2) .invalidInstructionData
  let sessionState ← loadSession env L session.address
  rejectIf (proposer.address ≠ sessionState.validator) unauthorized
  rejectIf (sessionState.isExpired now) sessionExpired
  let (L, cursorState) ← loadOrCreateCursor env L proposer session.address cursor.address
  requireNoActiveCheckpoint cursorState
  requireAdvancingCheckpoint sessionState cursorState args.erSlot
  requireFinalizedRoot cursorState args.previousStateRoot
  let (expectedKey, bump) := findCheckpointPda env session.address args.erSlot
  rejectIf (checkpoint.address ≠ expectedKey) invalidPdaSeeds
  let deadline ← okOr (checkedAdd now args.challengeWindowSlots) arithmeticOverflow
  let state := args.record session.address proposer.address now deadline bump
  let L ← fundCheckpoint env L proposer session.address args.erSlot checkpoint.address cursorState
  let L := L.setData checkpoint.address (.checkpoint state)
  return L.setData cursor.address (.cursor
    { cursorState with activeCheckpoint := checkpoint.address, activeErSlot := args.erSlot })

/-- The accounts of `ProposeCheckpoint`, in order. -/
def processProposeCheckpointVersioned (accounts : List AccountMeta)
    (args : ProposeCheckpoint) (version2 : Bool) (L : Ledger) : ProgramResult := do
  args.check
  match accounts with
  | proposer :: session :: checkpoint :: cursor :: _systemProgram :: _ =>
    proposeCheckpoint env now proposer session checkpoint cursor args version2 L
  | _ => .error .notEnoughAccountKeys

/-! ## Committing -/

/-- The commitment on its named accounts. -/
def commitCheckpoint
    (committer session checkpoint cursor proposer : AccountMeta) (erSlot : UInt64)
    (version2 : Bool) (L : Ledger) : ProgramResult := do
  rejectIf (committer.isSigner = false) unauthorized
  rejectIf (isSessionV2 (L session.address).data ≠ version2) .invalidInstructionData
  let sessionState ← loadSession env L session.address
  let state ← loadCheckpoint env L session.address erSlot checkpoint.address
  let cursorState ← loadCursor env L session.address cursor.address
  rejectIf (state.status = .challenged) checkpointChallenged
  rejectIf (state.status ≠ .pending) checkpointStateInvalid
  rejectIf (now < state.challengeDeadlineL1Slot) checkpointCommitTooEarly
  requireAdvancingCheckpoint sessionState cursorState erSlot
  requireActiveCheckpoint cursorState checkpoint.address erSlot
  requireFinalizedRoot cursorState state.previousStateRoot
  let (L, state) ← releaseCheckpointBond env L checkpoint.address proposer.address
    { state with status := .committed }
  let L := L.setData checkpoint.address (.checkpoint state)
  return L.setData cursor.address (.cursor
    { cursorState with
      latestFinalizedCheckpoint := checkpoint.address
      latestFinalizedErSlot := erSlot
      latestFinalizedStateRoot := state.newStateRoot })

/-- The accounts of `CommitCheckpoint`, in order. -/
def processCommitCheckpointVersioned (accounts : List AccountMeta)
    (erSlot : UInt64) (version2 : Bool) (L : Ledger) : ProgramResult :=
  match accounts with
  | committer :: session :: checkpoint :: cursor :: proposer :: _ =>
    commitCheckpoint env now committer session checkpoint cursor proposer erSlot version2 L
  | _ => .error .notEnoughAccountKeys

/-! ## Cancelling -/

/-- The cancellation on its named accounts. -/
def cancelCheckpoint (proposer session checkpoint cursor : AccountMeta)
    (erSlot : UInt64) (L : Ledger) : ProgramResult := do
  rejectIf (proposer.isSigner = false) unauthorized
  let _ ← loadSession env L session.address
  let state ← loadCheckpoint env L session.address erSlot checkpoint.address
  let cursorState ← loadCursor env L session.address cursor.address
  rejectIf (state.status = .challenged) checkpointChallenged
  rejectIf (state.status ≠ .pending) checkpointStateInvalid
  rejectIf (proposer.address ≠ state.proposer) checkpointUnauthorizedCancel
  rejectIf (state.challengeDeadlineL1Slot ≤ now) checkpointCancelWindowClosed
  requireActiveCheckpoint cursorState checkpoint.address erSlot
  let (L, state) ← releaseCheckpointBond env L checkpoint.address proposer.address
    { state with status := .cancelled }
  let L := L.setData checkpoint.address (.checkpoint state)
  return L.setData cursor.address (.cursor cursorState.clearActive)

/-- The accounts of `CancelCheckpoint`, in order. -/
def processCancelCheckpoint (accounts : List AccountMeta)
    (erSlot : UInt64) (L : Ledger) : ProgramResult :=
  match accounts with
  | proposer :: session :: checkpoint :: cursor :: _ =>
    cancelCheckpoint env now proposer session checkpoint cursor erSlot L
  | _ => .error .notEnoughAccountKeys

end Northstar.Portal
