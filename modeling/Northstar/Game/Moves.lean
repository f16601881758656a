import Northstar.Game.Board

/-!
# Moves of the game

What each instruction of the checkpoint game does, as a move on the board: what it
requires of the records it reads, the records it leaves, and the lamports it pays.

## Main definitions

* `Pays`: paying a bond out of its checkpoint account
* `Proposes`, `Commits`, `Cancels`, `OpensChallenge`, `Responds`, `Bisects`,
  `ChallengerWins`, `ValidatorWins`, `Finishes`: the moves
* `Move`: the move an instruction makes
-/

namespace Northstar.Portal

open Bytes Checked AccountData

/-- The proposal an instruction makes, if any, of either format. -/
def Instruction.proposal : Instruction → Option ProposeCheckpoint
  | .proposeCheckpoint args => some args
  | .proposeCheckpointV2 args => some args.proposal
  | _ => none

/-- The slot an instruction commits, if any, in either format. -/
def Instruction.commitment : Instruction → Option UInt64
  | .commitCheckpoint e | .commitCheckpointV2 e => some e
  | _ => none

/-- Whether an instruction opens a session, of either format. -/
def Instruction.opensSession : Instruction → Bool
  | .openSession _ | .openSessionV2 _ => true
  | _ => false

/-- The slot whose proof account an instruction writes, if any. -/
def Instruction.provedSlot : Instruction → Option UInt64
  | .createStepProof args => some args.erSlot
  | .writeStepProof args => some args.erSlot
  | .sealStepProof e _ => some e
  | _ => none

/-- **Payout**: `n` lamports leave the checkpoint account of `e` for `r`, its rent stays,
and no other balance changes. -/
structure Pays (env : Env) (L L' : Ledger) (e : UInt64) (r : Pubkey) (n : UInt64) : Prop where
  funded : (checkpointRent env).toNat + n.toNat ≤ (L (env.address (.checkpoint e))).lamports.toNat
  debit : (L' (env.address (.checkpoint e))).lamports.toNat + n.toNat =
    (L (env.address (.checkpoint e))).lamports.toNat
  credit : (L' r).lamports.toNat = (L r).lamports.toNat + n.toNat
  others : ∀ b, b ≠ env.address (.checkpoint e) → b ≠ r → (L' b).lamports = (L b).lamports

section Moves

variable (env : Env) (S : Finset Pubkey) (now : UInt64) (actor : Pubkey) (L L' : Ledger)

/-! ## Sessions -/

structure OpensSession (s : Session) (v : FeeVault) : Prop where
  vacant : (boardOf env L).session = none
  fresh : s.lastSettledErSlot = 0
  track : Track env S {.session, .feeVault}
    (fun B => (B.put .session (.session s)).put .feeVault (.feeVault v)) L L'
  gains : Gains env L L'

structure ClosesSession : Prop where
  idle : ∀ k, (boardOf env L).cursor = some k → k.activeCheckpoint = zero32
  track : Track env S {.session, .feeVault, .cursor}
    (fun B => ((B.clear .cursor).clear .feeVault).clear .session) L L'
  vacated : ∀ g, g = .feeVault ∨ g = .cursor →
    (L' (env.address g)).data = .empty ∧ (L' (env.address g)).owner = systemProgramId
  balances : ∀ g, g ≠ .session → g ≠ .feeVault → g ≠ .cursor →
    (L (env.address g)).lamports = (L' (env.address g)).lamports

/-! ## Checkpoints -/

structure Proposes (args : ProposeCheckpoint) (s : Session) (k : CheckpointCursor)
    (c : Checkpoint) : Prop where
  session : (boardOf env L).session = some s
  validator : actor = s.validator
  signer : ¬env.Derived actor
  cursor : (boardOf env L).cursor = some k ∨
    (boardOf env L).cursor = none ∧ k = .fresh env (env.address .session)
  idle : k.activeCheckpoint = zero32
  advance : s.lastSettledErSlot < args.erSlot ∧ k.latestFinalizedErSlot < args.erSlot
  root : k.latestFinalizedCheckpoint = zero32 ∨ args.previousStateRoot = k.latestFinalizedStateRoot
  steps : 0 < args.stepCount ∧ args.stepCount ≤ canonicalCheckpointSteps
  record : ∃ deadline bump,
    deadline.toNat = now.toNat + args.challengeWindowSlots.toNat ∧
      c = args.record (env.address .session) actor now deadline bump
  reuse : (boardOf env L).checkpoint args.erSlot = none ∨
    ∃ previous, (boardOf env L).checkpoint args.erSlot = some previous ∧ reusableTerminal previous k
  track : Track env S {.checkpoint args.erSlot, .cursor}
    (fun B => (B.put (.checkpoint args.erSlot) (.checkpoint c)).put .cursor
      (.cursor { k with
        activeCheckpoint := env.address (.checkpoint args.erSlot)
        activeErSlot := args.erSlot })) L L'
  gains : Gains env L L'
  funded : (boardOf env L).cursor = none → 0 < (L' (env.address .cursor)).lamports
  locked : (checkpointRent env).toNat + c.bondLamports.toNat ≤
    (L' (env.address (.checkpoint args.erSlot))).lamports.toNat

/-- The checkpoint at `e` that the cursor has in flight. -/
structure InFlight (e : UInt64) (c : Checkpoint) (k : CheckpointCursor) : Prop where
  checkpoint : (boardOf env L).checkpoint e = some c
  cursor : (boardOf env L).cursor = some k
  active : k.activeCheckpoint = env.address (.checkpoint e) ∧ k.activeErSlot = e

structure Commits (e : UInt64) (s : Session) (c : Checkpoint) (k : CheckpointCursor) : Prop
    extends InFlight env L e c k where
  session : (boardOf env L).session = some s
  pending : c.status = .pending
  locked : c.bondStatus = .locked
  late : c.challengeDeadlineL1Slot ≤ now
  advance : s.lastSettledErSlot < e ∧ k.latestFinalizedErSlot < e
  root : k.latestFinalizedCheckpoint = zero32 ∨ c.previousStateRoot = k.latestFinalizedStateRoot
  track : Track env S {.checkpoint e, .cursor}
    (fun B => (B.put (.checkpoint e)
      (.checkpoint { c with status := .committed, bondStatus := .released })).put .cursor
      (.cursor { k with
        latestFinalizedCheckpoint := env.address (.checkpoint e)
        latestFinalizedErSlot := e
        latestFinalizedStateRoot := c.newStateRoot })) L L'
  pays : Pays env L L' e c.proposer c.bondLamports

structure Cancels (e : UInt64) (c : Checkpoint) (k : CheckpointCursor) : Prop
    extends InFlight env L e c k where
  pending : c.status = .pending
  locked : c.bondStatus = .locked
  early : now < c.challengeDeadlineL1Slot
  proposer : actor = c.proposer
  track : Track env S {.checkpoint e, .cursor}
    (fun B => (B.put (.checkpoint e)
      (.checkpoint { c with status := .cancelled, bondStatus := .released })).put .cursor
      (.cursor k.clearActive)) L L'
  pays : Pays env L L' e c.proposer c.bondLamports

structure Finishes (e : UInt64) (s : Session) (c : Checkpoint) (k : CheckpointCursor) : Prop
    extends InFlight env L e c k where
  session : (boardOf env L).session = some s
  validator : actor = s.validator
  committed : c.status = .committed
  track : Track env S {.checkpoint e, .cursor, .session}
    (fun B => ((B.put (.checkpoint e) (.checkpoint { c with status := .settled })).put .cursor
      (.cursor k.clearActive)).put .session
      (.session { s with lastSettledL1Slot := now, lastSettledErSlot := e })) L L'
  gains : Gains env L L'

/-! ## Challenges -/

structure OpensChallenge (e : UInt64) (s : Session) (c : Checkpoint) (ch : Challenge)
    (d : DataAvailabilityProof) : Prop where
  session : (boardOf env L).session = some s
  checkpoint : (boardOf env L).checkpoint e = some c
  signer : ¬env.Derived actor
  pending : c.status = .pending
  unresolved : c.challengeResolved = false
  early : now < c.challengeDeadlineL1Slot
  finished : ∀ previous, (boardOf env L).challenge e = some previous → previous.status ≠ .active
  record : ∃ deadline bump, nextTurnDeadline now c.challengeDeadlineL1Slot = .ok deadline ∧
    ch = .opened (env.address (.checkpoint e)) actor c s now deadline bump
  awaited : ∃ bump, d = .awaited (env.address (.challenge e)) (env.address (.checkpoint e))
    c.daCommitment bump
  track : Track env S {.checkpoint e, .challenge e, .daProof e}
    (fun B => ((B.put (.challenge e) (.challenge ch)).put (.daProof e) (.daProof d)).put
      (.checkpoint e) (.checkpoint
        { c with
          status := .challenged
          challenger := actor
          challengedAtL1Slot := now })) L L'
  gains : Gains env L L'

/-- The challenge of `e` under way. -/
structure UnderWay (e : UInt64) (c : Checkpoint) (ch : Challenge) : Prop where
  checkpoint : (boardOf env L).checkpoint e = some c
  challenge : (boardOf env L).challenge e = some ch
  challenged : c.status = .challenged
  isActive : ch.status = .active

/-- A turn whose deadlines are still ahead. -/
def Challenge.Live (ch : Challenge) (now : UInt64) : Prop :=
  now < ch.turnDeadlineL1Slot ∧ now < ch.hardDeadlineL1Slot

structure Responds (args : RespondChallenge) (c : Checkpoint) (ch ch' : Challenge)
    (d d' : DataAvailabilityProof) : Prop extends UnderWay env L args.erSlot c ch where
  live : ch.Live now
  turn : ch.turn = .respondent
  respondent : actor = ch.respondent
  answer : ch.respond env c args = .ok ch'
  daProof : (boardOf env L).daProof args.erSlot = some d
  reveals : d.reveal args now = .ok d'
  record : ∃ deadline, nextTurnDeadline now ch'.hardDeadlineL1Slot = .ok deadline ∧
    Track env S {.daProof args.erSlot, .challenge args.erSlot}
      (fun B => (B.put (.daProof args.erSlot) (.daProof d')).put (.challenge args.erSlot)
        (.challenge { ch' with turnDeadlineL1Slot := deadline })) L L'
  gains : Gains env L L'

structure Bisects (e : UInt64) (disputeUpper : Bool) (c : Checkpoint) (ch ch' : Challenge) : Prop
    extends UnderWay env L e c ch where
  live : ch.Live now
  turn : ch.turn = .challenger
  challenger : actor = ch.challenger
  choice : ch.bisect disputeUpper = .ok ch'
  record : ∃ deadline, nextTurnDeadline now ch'.hardDeadlineL1Slot = .ok deadline ∧
    Track env S {.challenge e}
      (fun B => B.put (.challenge e) (.challenge { ch' with turnDeadlineL1Slot := deadline })) L L'
  gains : Gains env L L'

structure ChallengerWins (e : UInt64) (c : Checkpoint) (ch : Challenge) (k : CheckpointCursor) :
    Prop extends InFlight env L e c k, UnderWay env L e c ch where
  locked : c.bondStatus = .locked
  track : ∃ d, Track env S {.checkpoint e, .challenge e, .cursor, .daProof e}
    (fun B => (((B.put (.daProof e) (.daProof d)).put (.checkpoint e)
      (.checkpoint { c with
        status := .invalid
        bondStatus := .slashed
        challengeResolved := true })).put (.challenge e)
      (.challenge { ch with status := .challengerWon })).put .cursor
      (.cursor k.clearActive)) L L'
  pays : Pays env L L' e ch.challenger c.bondLamports

structure ValidatorWins (e : UInt64) (c : Checkpoint) (ch : Challenge) : Prop
    extends UnderWay env L e c ch where
  track : Track env S {.checkpoint e, .challenge e}
    (fun B => (B.put (.checkpoint e)
      (.checkpoint { c with status := .pending, challengeResolved := true })).put (.challenge e)
      (.challenge { ch with status := .validatorWon })) L L'
  gains : Gains env L L'

/-- The proof account a resolution reads, and what it checks of it. -/
structure Resolves (e : UInt64) (mode : StepProofVerifierMode) (c : Checkpoint) (ch : Challenge)
    (p : StepProofAccount) (verdict : StepProofVerification) : Prop where
  live : ch.Live now
  turn : ch.turn = .prove
  isolated : ch.endStep = saturatingAdd ch.startStep 1
  proof : (boardOf env L).stepProof e = some p
  isSealed : p.isSealed = true
  bound : p.publicInputHash = stepProofPublicInputHash env (env.address .session)
    (env.address (.checkpoint e)) c ch p
  verdict : verifyStepProof env mode c ch p = verdict

/-- **Move**: what a successful instruction does to the game. -/
inductive Move : Instruction → Prop
  | aside {i : Instruction} (side : i.inGame = false) (frame : Frame env S L L') : Move i
  | openSession {i : Instruction} {s : Session} {v : FeeVault} (hi : i.opensSession = true)
      (move : OpensSession env S L L' s v) : Move i
  | closeSession (move : ClosesSession env S L L') : Move .closeSession
  | propose {i : Instruction} {args : ProposeCheckpoint} {s : Session} {k : CheckpointCursor}
      {c : Checkpoint} (hi : i.proposal = some args)
      (move : Proposes env S now actor L L' args s k c) : Move i
  | commit {i : Instruction} {e : UInt64} {s : Session} {c : Checkpoint} {k : CheckpointCursor}
      (hi : i.commitment = some e) (move : Commits env S now L L' e s c k) : Move i
  | cancel {e : UInt64} {c : Checkpoint} {k : CheckpointCursor}
      (move : Cancels env S now actor L L' e c k) : Move (.cancelCheckpoint e)
  | finish {e : UInt64} {checksum : Hash32} {s : Session} {c : Checkpoint}
      {k : CheckpointCursor} (move : Finishes env S now actor L L' e s c k) :
      Move (.finishSettlement e checksum)
  | openChallenge {e : UInt64} {s : Session} {c : Checkpoint} {ch : Challenge}
      {d : DataAvailabilityProof} (move : OpensChallenge env S now actor L L' e s c ch d) :
      Move (.openChallenge e)
  | respond {args : RespondChallenge} {c : Checkpoint} {ch ch' : Challenge}
      {d d' : DataAvailabilityProof} (move : Responds env S now actor L L' args c ch ch' d d') :
      Move (.respondChallenge args)
  | bisect {e : UInt64} {disputeUpper : Bool} {c : Checkpoint} {ch ch' : Challenge}
      (move : Bisects env S now actor L L' e disputeUpper c ch ch') :
      Move (.bisectChallenge e disputeUpper)
  | timeoutRespondent {e : UInt64} {c : Checkpoint} {ch : Challenge} {k : CheckpointCursor}
      (late : ¬ch.Live now) (turn : ch.turn = .respondent)
      (move : ChallengerWins env S L L' e c ch k) : Move (.timeoutChallenge e)
  | timeoutChallenger {e : UInt64} {c : Checkpoint} {ch : Challenge}
      (late : ¬ch.Live now) (turn : ch.turn ≠ .respondent)
      (move : ValidatorWins env S L L' e c ch) : Move (.timeoutChallenge e)
  | reject {e : UInt64} {mode : StepProofVerifierMode} {c : Checkpoint} {ch : Challenge}
      {k : CheckpointCursor} {p : StepProofAccount}
      (resolves : Resolves env now L e mode c ch p .invalid)
      (move : ChallengerWins env S L L' e c ch k) : Move (.resolveChallenge e mode)
  | accept {e : UInt64} {mode : StepProofVerifierMode} {c : Checkpoint} {ch : Challenge}
      {p : StepProofAccount} (resolves : Resolves env now L e mode c ch p .valid)
      (move : ValidatorWins env S L L' e c ch) : Move (.resolveChallenge e mode)
  | prove {i : Instruction} {e : UInt64} {p : StepProofAccount} (hi : i.provedSlot = some e)
      (track : Track env S {.stepProof e} (fun B => B.put (.stepProof e) (.stepProof p)) L L')
      (gains : Gains env L L') : Move i

end Moves

/-! ## The board after a move -/

section Views

variable {S : Finset Pubkey}

theorem Proposes.checkpoint_after (h : Proposes env S now actor L L' args s k c) (e' : UInt64) :
    (boardOf env L').checkpoint e' =
      if e' = args.erSlot then some c else (boardOf env L).checkpoint e' := by
  rw [h.track.board]
  simp [asCheckpoint]

theorem Proposes.cursor_after (h : Proposes env S now actor L L' args s k c) :
    (boardOf env L').cursor = some { k with
      activeCheckpoint := env.address (.checkpoint args.erSlot)
      activeErSlot := args.erSlot } := by
  rw [h.track.board]
  simp [asCursor]

theorem Commits.checkpoint_after (h : Commits env S now L L' e s c k) (e' : UInt64) :
    (boardOf env L').checkpoint e' =
      if e' = e then some { c with status := .committed, bondStatus := .released }
      else (boardOf env L).checkpoint e' := by
  rw [h.track.board]
  simp [asCheckpoint]

theorem Commits.cursor_after (h : Commits env S now L L' e s c k) :
    (boardOf env L').cursor = some { k with
      latestFinalizedCheckpoint := env.address (.checkpoint e)
      latestFinalizedErSlot := e
      latestFinalizedStateRoot := c.newStateRoot } := by
  rw [h.track.board]
  simp [asCursor]

theorem Cancels.checkpoint_after (h : Cancels env S now actor L L' e c k) (e' : UInt64) :
    (boardOf env L').checkpoint e' =
      if e' = e then some { c with status := .cancelled, bondStatus := .released }
      else (boardOf env L).checkpoint e' := by
  rw [h.track.board]
  simp [asCheckpoint]

theorem Cancels.cursor_after (h : Cancels env S now actor L L' e c k) :
    (boardOf env L').cursor = some k.clearActive := by
  rw [h.track.board]
  simp [asCursor]

theorem Finishes.checkpoint_after (h : Finishes env S now actor L L' e s c k) (e' : UInt64) :
    (boardOf env L').checkpoint e' =
      if e' = e then some { c with status := .settled } else (boardOf env L).checkpoint e' := by
  rw [h.track.board]
  simp [asCheckpoint]

theorem Finishes.cursor_after (h : Finishes env S now actor L L' e s c k) :
    (boardOf env L').cursor = some k.clearActive := by
  rw [h.track.board]
  simp [asCursor]

theorem OpensChallenge.checkpoint_after (h : OpensChallenge env S now actor L L' e s c ch d)
    (e' : UInt64) :
    (boardOf env L').checkpoint e' =
      if e' = e then
        some { c with status := .challenged, challenger := actor, challengedAtL1Slot := now }
      else (boardOf env L).checkpoint e' := by
  rw [h.track.board]
  simp [asCheckpoint]

theorem OpensChallenge.challenge_after (h : OpensChallenge env S now actor L L' e s c ch d)
    (e' : UInt64) :
    (boardOf env L').challenge e' = if e' = e then some ch else (boardOf env L).challenge e' := by
  rw [h.track.board]
  simp [asChallenge]

theorem ChallengerWins.checkpoint_after (h : ChallengerWins env S L L' e c ch k) (e' : UInt64) :
    (boardOf env L').checkpoint e' =
      if e' = e then
        some { c with status := .invalid, bondStatus := .slashed, challengeResolved := true }
      else (boardOf env L).checkpoint e' := by
  obtain ⟨d, htrack⟩ := h.track
  rw [htrack.board]
  simp [asCheckpoint]

theorem ChallengerWins.challenge_after (h : ChallengerWins env S L L' e c ch k) (e' : UInt64) :
    (boardOf env L').challenge e' =
      if e' = e then some { ch with status := .challengerWon }
      else (boardOf env L).challenge e' := by
  obtain ⟨d, htrack⟩ := h.track
  rw [htrack.board]
  simp [asChallenge]

theorem ChallengerWins.cursor_after (h : ChallengerWins env S L L' e c ch k) :
    (boardOf env L').cursor = some k.clearActive := by
  obtain ⟨d, htrack⟩ := h.track
  rw [htrack.board]
  simp [asCursor]

theorem ValidatorWins.checkpoint_after (h : ValidatorWins env S L L' e c ch) (e' : UInt64) :
    (boardOf env L').checkpoint e' =
      if e' = e then some { c with status := .pending, challengeResolved := true }
      else (boardOf env L).checkpoint e' := by
  rw [h.track.board]
  simp [asCheckpoint]

theorem ValidatorWins.challenge_after (h : ValidatorWins env S L L' e c ch) (e' : UInt64) :
    (boardOf env L').challenge e' =
      if e' = e then some { ch with status := .validatorWon }
      else (boardOf env L).challenge e' := by
  rw [h.track.board]
  simp [asChallenge]

end Views

end Northstar.Portal
