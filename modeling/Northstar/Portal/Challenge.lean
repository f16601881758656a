import Northstar.Portal.Authentication
import Northstar.Portal.Checkpoint

/-!
# The challenge game

A challenger disputes a pending checkpoint. Respondent and challenger then alternate: the
respondent posts the state root in the middle of the disputed interval, authenticated
under the checkpoint's trace root, and the challenger keeps one half, until one step is
left to prove. Whoever misses a deadline loses.
-/

namespace Northstar.Portal

open Bytes Checked PortalError

variable (env : Env) (now : UInt64)

/-! ## Turns -/

/-- A turn ends with the challenge at the latest. -/
def nextTurnDeadline (currentSlot hardDeadline : UInt64) : Except ProgramError UInt64 := do
  let deadline ← okOr (checkedAdd currentSlot challengeTurnWindowSlots) arithmeticOverflow
  return min deadline hardDeadline

/-- Neither deadline of an active challenge is over. -/
def requireLiveTurn (challenge : Challenge) (currentSlot : UInt64) : Except ProgramError Unit := do
  rejectIf (challenge.status ≠ .active) challengeStateInvalid
  rejectIf (challenge.turnDeadlineL1Slot ≤ currentSlot ∨
    challenge.hardDeadlineL1Slot ≤ currentSlot) checkpointChallengeWindowClosed

/-- What the respondent posts. -/
structure RespondChallenge where
  erSlot : UInt64
  claimedStep : UInt64
  claimedStateRoot : Hash32
  tracePathLen : UInt8
  tracePath : Vector Hash32 5
  daPayloadRoot : Hash32
  daInclusionProofHash : Hash32

/-- **The respondent's move**: an interval of one step goes to the proof; a wider one gets
the authenticated root at its midpoint. -/
def Challenge.respond (checkpoint : Checkpoint) (challenge : Challenge)
    (args : RespondChallenge) : Except ProgramError Challenge := do
  let width ← okOr (checkedSub challenge.endStep challenge.startStep) challengeResponseInvalid
  rejectIf (width = 0) challengeResponseInvalid
  if width = 1 then do
    rejectIf (args.claimedStep ≠ challenge.startStep ∨
      args.claimedStateRoot ≠ challenge.endStateRoot) challengeResponseInvalid
    return { challenge with turn := .prove }
  else do
    let midpoint ← okOr (checkedAdd challenge.startStep (width / 2)) arithmeticOverflow
    rejectIf (args.claimedStep ≠ midpoint ∨
      verifyTraceAuthenticationPath env checkpoint args.claimedStep args.claimedStateRoot
        args.tracePathLen args.tracePath = false) challengeResponseInvalid
    return { challenge with
      midpointStep := midpoint
      midpointStateRoot := args.claimedStateRoot
      turn := .challenger }

/-- `n + 1`, when it fits in 32 bits. -/
def checkedSucc32 (n : UInt32) : Option UInt32 :=
  if n.toNat + 1 < 2 ^ 32 then some (n + 1) else none

/-- **The challenger's move**: keep the upper or the lower half of the interval. -/
def Challenge.bisect (challenge : Challenge) (disputeUpper : Bool) :
    Except ProgramError Challenge := do
  rejectIf (challenge.midpointStep ≤ challenge.startStep ∨
    challenge.endStep ≤ challenge.midpointStep) challengeResponseInvalid
  let half :=
    if disputeUpper then
      { challenge with
        startStep := challenge.midpointStep
        startStateRoot := challenge.midpointStateRoot }
    else
      { challenge with
        endStep := challenge.midpointStep
        endStateRoot := challenge.midpointStateRoot }
  let rounds ← okOr (checkedSucc32 half.rounds) arithmeticOverflow
  return { half with
    midpointStep := 0
    midpointStateRoot := zero32
    turn := .respondent
    rounds := rounds }

/-! ## What a turn does -/

section Turns

variable {env : Env} {c : Checkpoint} {ch ch' : Challenge}

theorem Challenge.respond_ok (h : ch.respond env c args = .ok ch') :
    (ch.endStep.toNat = ch.startStep.toNat + 1 ∧ args.claimedStep = ch.startStep ∧
      args.claimedStateRoot = ch.endStateRoot ∧ ch' = { ch with turn := .prove }) ∨
    (ch.startStep.toNat + 2 ≤ ch.endStep.toNat ∧
      args.claimedStep.toNat = ch.startStep.toNat + (ch.endStep.toNat - ch.startStep.toNat) / 2 ∧
      verifyTraceAuthenticationPath env c args.claimedStep args.claimedStateRoot
        args.tracePathLen args.tracePath = true ∧
      ch' = { ch with
        midpointStep := args.claimedStep
        midpointStateRoot := args.claimedStateRoot
        turn := .challenger }) := by
  simp only [respond, chain_ok, checkedSub_eq_some] at h
  obtain ⟨width, hwidth, hpositive, h⟩ := h
  have hpositive : 0 < width.toNat :=
    UInt64.lt_iff_toNat_lt.mp (UInt64.pos_iff_ne_zero.mpr hpositive)
  split at h
  · rename_i hone
    simp only [chain_ok, not_or] at h
    obtain ⟨⟨hstep, hroot⟩, rfl⟩ := h
    rw [hone] at hwidth
    exact .inl ⟨hwidth.symm, hstep, hroot, rfl⟩
  · rename_i hone
    have hone : width.toNat ≠ 1 := fun heq => hone (UInt64.toNat_inj.mp heq)
    simp only [chain_ok, checkedAdd_eq_some, not_or, Bool.not_eq_false] at h
    obtain ⟨midpoint, hmidpoint, ⟨rfl, hpath⟩, rfl⟩ := h
    rw [UInt64.toNat_div] at hmidpoint
    have hhalf : (ch.endStep.toNat - ch.startStep.toNat) / 2 = width.toNat / 2 := by
      rw [← hwidth, Nat.add_sub_cancel_left]
    refine .inr ⟨by omega, ?_, hpath, rfl⟩
    rw [hmidpoint, hhalf]
    rfl

theorem checkedSucc32_eq_some (h : checkedSucc32 n = some m) :
    m.toNat = n.toNat + 1 := by
  unfold checkedSucc32 at h
  split at h
  · rename_i hlt
    cases h
    rw [UInt32.toNat_add, UInt32.toNat_one, Nat.mod_eq_of_lt hlt]
  · cases h

theorem Challenge.bisect_ok (h : ch.bisect disputeUpper = .ok ch') :
    ch.startStep < ch.midpointStep ∧ ch.midpointStep < ch.endStep ∧
      ∃ rounds : UInt32, rounds.toNat = ch.rounds.toNat + 1 ∧
        ch' = { ch with
          startStep := if disputeUpper then ch.midpointStep else ch.startStep
          startStateRoot := if disputeUpper then ch.midpointStateRoot else ch.startStateRoot
          endStep := if disputeUpper then ch.endStep else ch.midpointStep
          endStateRoot := if disputeUpper then ch.endStateRoot else ch.midpointStateRoot
          midpointStep := 0
          midpointStateRoot := zero32
          turn := .respondent
          rounds := rounds } := by
  simp only [bisect, chain_ok, not_or, UInt64.not_le] at h
  obtain ⟨⟨hstart, hend⟩, rounds, hrounds, rfl⟩ := h
  have hrounds := checkedSucc32_eq_some hrounds
  cases disputeUpper
  · exact ⟨hstart, hend, rounds, hrounds, rfl⟩
  · exact ⟨hstart, hend, rounds, hrounds, rfl⟩

end Turns

/-! ## Opening -/

/-- The record a challenge starts with: the whole checkpoint is in dispute. -/
def Challenge.opened (checkpointKey challenger : Pubkey) (checkpoint : Checkpoint)
    (session : Session) (now turnDeadline : UInt64) (bump : UInt8) : Challenge :=
  { checkpoint := checkpointKey
    challenger := challenger
    respondent := session.validator
    openedAtL1Slot := now
    hardDeadlineL1Slot := checkpoint.challengeDeadlineL1Slot
    turnDeadlineL1Slot := turnDeadline
    startStep := 0
    endStep := checkpoint.stepCount
    midpointStep := 0
    startStateRoot := checkpoint.previousStateRoot
    endStateRoot := checkpoint.newStateRoot
    midpointStateRoot := zero32
    status := .active
    turn := .respondent
    rounds := 0
    bump := bump }

/-- The record that waits for the data behind a challenged checkpoint. -/
def DataAvailabilityProof.awaited (challengeKey checkpointKey : Pubkey) (commitment : Hash32)
    (bump : UInt8) : DataAvailabilityProof :=
  { challenge := challengeKey
    checkpoint := checkpointKey
    commitment := commitment
    payloadRoot := zero32
    inclusionProofHash := zero32
    revealedAtL1Slot := 0
    status := .missing
    bump := bump }

/-- Create the challenge account, or take over the one of a finished challenge. -/
def prepareChallengeAccount (L : Ledger) (challenger : AccountMeta)
    (checkpointKey challenge : Pubkey) : ProgramResult :=
  if (L challenge).data = .empty then
    initializePdaAccount env L challenger challenge (env.minimumBalance 255) 255
  else do
    let existing ← loadChallenge env L checkpointKey challenge
    rejectIf (existing.status = .active) checkpointChallenged
    return L

/-- Create the data-availability account, or take over an existing one. -/
def prepareDaAccount (L : Ledger) (challenger : AccountMeta)
    (challengeKey checkpointKey daProof : Pubkey) : ProgramResult :=
  if (L daProof).data = .empty then
    initializePdaAccount env L challenger daProof (env.minimumBalance 178) 178
  else do
    let _ ← loadDaProof env L challengeKey checkpointKey daProof
    return L

/-- Opening on its named accounts. -/
def openChallenge
    (challenger session checkpoint challenge daProof : AccountMeta) (erSlot : UInt64)
    (L : Ledger) : ProgramResult := do
  rejectIf (challenger.isSigner = false) unauthorized
  let sessionState ← loadSession env L session.address
  let state ← loadCheckpoint env L session.address erSlot checkpoint.address
  rejectIf (state.status ≠ .pending ∨ state.challengeResolved = true) checkpointStateInvalid
  rejectIf (state.challengeDeadlineL1Slot ≤ now) checkpointChallengeWindowClosed
  let (challengeKey, challengeBump) := findChallengePda env checkpoint.address
  rejectIf (challenge.address ≠ challengeKey) invalidPdaSeeds
  let turnDeadline ← nextTurnDeadline now state.challengeDeadlineL1Slot
  let L ← prepareChallengeAccount env L challenger checkpoint.address challenge.address
  let (daKey, daBump) := findDaProofPda env challenge.address
  rejectIf (daProof.address ≠ daKey) invalidPdaSeeds
  let L ← prepareDaAccount env L challenger challenge.address checkpoint.address daProof.address
  let L := L.setData challenge.address (.challenge (Challenge.opened checkpoint.address
    challenger.address state sessionState now turnDeadline challengeBump))
  let L := L.setData daProof.address (.daProof (DataAvailabilityProof.awaited challenge.address
    checkpoint.address state.daCommitment daBump))
  return L.setData checkpoint.address (.checkpoint
    { state with
      status := .challenged
      challenger := challenger.address
      challengedAtL1Slot := now })

/-- The accounts of `OpenChallenge`, in order. -/
def processOpenChallenge (accounts : List AccountMeta)
    (erSlot : UInt64) (L : Ledger) : ProgramResult :=
  match accounts with
  | challenger :: session :: checkpoint :: challenge :: daProof :: _systemProgram :: _ =>
    openChallenge env now challenger session checkpoint challenge daProof erSlot L
  | _ => .error .notEnoughAccountKeys

/-! ## Responding -/

/-- The first response reveals the data; every later one repeats it. -/
def DataAvailabilityProof.reveal (da : DataAvailabilityProof) (args : RespondChallenge)
    (now : UInt64) : Except ProgramError DataAvailabilityProof :=
  match da.status with
  | .missing => do
    rejectIf (args.daPayloadRoot ≠ da.commitment ∨ args.daInclusionProofHash = zero32)
      dataAvailabilityCommitmentMismatch
    return { da with
      payloadRoot := args.daPayloadRoot
      inclusionProofHash := args.daInclusionProofHash
      revealedAtL1Slot := now
      status := .revealed }
  | .revealed => do
    rejectIf (args.daPayloadRoot ≠ da.payloadRoot ∨
      args.daInclusionProofHash ≠ da.inclusionProofHash) dataAvailabilityCommitmentMismatch
    return da
  | .defaulted => .error dataAvailabilityStateInvalid

theorem DataAvailabilityProof.reveal_ok {d d' : DataAvailabilityProof} {args : RespondChallenge}
    {now : UInt64} (h : d.reveal args now = .ok d') :
    d'.status = .revealed ∧ d'.challenge = d.challenge ∧ d'.checkpoint = d.checkpoint := by
  unfold reveal at h
  cases hstatus : d.status with
  | missing =>
    simp only [hstatus, chain_ok] at h
    obtain ⟨-, rfl⟩ := h
    exact ⟨rfl, rfl, rfl⟩
  | revealed =>
    simp only [hstatus, chain_ok] at h
    obtain ⟨-, rfl⟩ := h
    exact ⟨hstatus, rfl, rfl⟩
  | defaulted =>
    simp only [hstatus] at h
    cases h

/-- Responding on its named accounts. -/
def respondChallenge
    (validator session checkpoint challenge daProof : AccountMeta) (args : RespondChallenge)
    (L : Ledger) : ProgramResult := do
  rejectIf (validator.isSigner = false) unauthorized
  let sessionState ← loadSession env L session.address
  rejectIf (validator.address ≠ sessionState.validator) unauthorized
  let checkpointState ← loadCheckpoint env L session.address args.erSlot checkpoint.address
  rejectIf (checkpointState.status ≠ .challenged) checkpointStateInvalid
  let challengeState ← loadChallenge env L checkpoint.address challenge.address
  requireLiveTurn challengeState now
  rejectIf (challengeState.turn ≠ .respondent ∨ validator.address ≠ challengeState.respondent)
    challengeTurnInvalid
  let daState ← loadDaProof env L challenge.address checkpoint.address daProof.address
  let daState ← daState.reveal args now
  let L := L.setData daProof.address (.daProof daState)
  let challengeState ← challengeState.respond env checkpointState args
  let turnDeadline ← nextTurnDeadline now challengeState.hardDeadlineL1Slot
  return L.setData challenge.address
    (.challenge { challengeState with turnDeadlineL1Slot := turnDeadline })

/-- The accounts of `RespondChallenge`, in order. -/
def processRespondChallenge (accounts : List AccountMeta)
    (args : RespondChallenge) (L : Ledger) : ProgramResult :=
  match accounts with
  | validator :: session :: checkpoint :: challenge :: daProof :: _ =>
    respondChallenge env now validator session checkpoint challenge daProof args L
  | _ => .error .notEnoughAccountKeys

/-! ## Bisecting -/

/-- Bisecting on its named accounts. -/
def bisectChallenge (challenger session checkpoint challenge : AccountMeta)
    (erSlot : UInt64) (disputeUpper : Bool) (L : Ledger) : ProgramResult := do
  rejectIf (challenger.isSigner = false) unauthorized
  let _ ← loadSession env L session.address
  let checkpointState ← loadCheckpoint env L session.address erSlot checkpoint.address
  rejectIf (checkpointState.status ≠ .challenged) checkpointStateInvalid
  let state ← loadChallenge env L checkpoint.address challenge.address
  requireLiveTurn state now
  rejectIf (state.turn ≠ .challenger ∨ challenger.address ≠ state.challenger) challengeTurnInvalid
  let state ← state.bisect disputeUpper
  let turnDeadline ← nextTurnDeadline now state.hardDeadlineL1Slot
  return L.setData challenge.address (.challenge { state with turnDeadlineL1Slot := turnDeadline })

/-- The accounts of `BisectChallenge`, in order. -/
def processBisectChallenge (accounts : List AccountMeta)
    (erSlot : UInt64) (disputeUpper : Bool) (L : Ledger) : ProgramResult :=
  match accounts with
  | challenger :: session :: checkpoint :: challenge :: _ =>
    bisectChallenge env now challenger session checkpoint challenge erSlot disputeUpper L
  | _ => .error .notEnoughAccountKeys

/-! ## Missed deadlines -/

/-- A respondent who never revealed the data has defaulted on it. -/
def DataAvailabilityProof.timedOut (da : DataAvailabilityProof) : DataAvailabilityProof :=
  if da.status = .missing then { da with status := .defaulted } else da

/-- The loser of a missed deadline: the respondent on their own turn, the challenger on
the two others. -/
def settleTimeout (checkpoint challenge daProof bondRecipient cursor : Pubkey)
    (checkpointState : Checkpoint) (challengeState : Challenge)
    (cursorState : CheckpointCursor) (daState : DataAvailabilityProof) (L : Ledger) :
    ProgramResult :=
  if challengeState.turn = .respondent then do
    let L := L.setData daProof (.daProof daState.timedOut)
    let (L, checkpointState) ← slashCheckpointBond env L checkpoint bondRecipient checkpointState
    let L := L.setData cursor (.cursor cursorState.clearActive)
    let L := L.setData checkpoint (.checkpoint
      { checkpointState with status := .invalid, challengeResolved := true })
    return L.setData challenge (.challenge { challengeState with status := .challengerWon })
  else do
    let L := L.setData checkpoint (.checkpoint
      { checkpointState with status := .pending, challengeResolved := true })
    return L.setData challenge (.challenge { challengeState with status := .validatorWon })

/-- The timeout on its named accounts. -/
def timeoutChallenge
    (caller session checkpoint challenge daProof bondRecipient cursor : AccountMeta)
    (erSlot : UInt64) (L : Ledger) : ProgramResult := do
  rejectIf (caller.isSigner = false) unauthorized
  let _ ← loadSession env L session.address
  let checkpointState ← loadCheckpoint env L session.address erSlot checkpoint.address
  rejectIf (checkpointState.status ≠ .challenged) checkpointStateInvalid
  let challengeState ← loadChallenge env L checkpoint.address challenge.address
  rejectIf (challengeState.status ≠ .active) challengeStateInvalid
  rejectIf (now < challengeState.turnDeadlineL1Slot ∧ now < challengeState.hardDeadlineL1Slot)
    challengeDeadlineNotReached
  rejectIf (bondRecipient.address ≠ challengeState.challenger) unauthorized
  let cursorState ← loadCursor env L session.address cursor.address
  requireActiveCheckpoint cursorState checkpoint.address erSlot
  let daState ← loadDaProof env L challenge.address checkpoint.address daProof.address
  settleTimeout env checkpoint.address challenge.address daProof.address bondRecipient.address
    cursor.address checkpointState challengeState cursorState daState L

/-- The accounts of `TimeoutChallenge`, in order. -/
def processTimeoutChallenge (accounts : List AccountMeta)
    (erSlot : UInt64) (L : Ledger) : ProgramResult :=
  match accounts with
  | caller :: session :: checkpoint :: challenge :: daProof :: bondRecipient :: cursor :: _ =>
    timeoutChallenge env now caller session checkpoint challenge daProof bondRecipient cursor
      erSlot L
  | _ => .error .notEnoughAccountKeys

end Northstar.Portal
