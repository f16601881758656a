import Northstar.Portal.Ledger

/-!
# Loading and storing Portal records

Every instruction reads a record through a loader that checks the account's address,
its owner and the identity the record carries. The accounts of the game are also read
as views: the record a loader would answer, if any.

## Main results

* `loadCheckpoint_eq_ok` and its siblings: what a successful load says about the ledger
* `checkpointOf_eq_some` and its siblings: the same at the game's own addresses
-/

namespace Northstar.Portal

open Bytes Checked PortalError

variable (env : Env)

/-! ## Sessions -/

/-- The discriminator of sessions of the second format. -/
def sessionV2Discriminator : List UInt8 := ascii "NSSESS02"

/-- Whether account data starts with the discriminator of the second format. -/
def isSessionV2 : AccountData → Bool
  | .sessionV2 _ => true
  | .raw bytes => sessionV2Discriminator.isPrefixOf bytes
  | _ => false

namespace Session

/-- The session has outlived its slots. -/
def isExpired (s : Session) (currentSlot : UInt64) : Prop :=
  saturatingAdd s.createdAt s.ttlSlots < currentSlot
  deriving Decidable

end Session

/-- A session of the second format whose ingress chain is well formed. -/
def SessionV2.IsValid (s : SessionV2) : Prop :=
  0 < s.base.nonce ∧ s.l1Genesis ≠ zero32 ∧ s.profile ≠ zero32 ∧
    s.consumedIngressCount ≤ s.ingressCount ∧
    (s.ingressCount = 0 ↔ s.ingressRoot = zero32) ∧
    (s.consumedIngressCount = 0 ↔ s.consumedIngressRoot = zero32)
  deriving Decidable

/-- The common part of a session of either format. -/
def parseSession : AccountData → Except ProgramError Session
  | .sessionV2 frame => do
    rejectIf (¬frame.IsValid) sessionStateInvalid
    return frame.base
  | .session state => .ok state
  | _ => .error sessionDeserializeFailed

/-- What a session may not change while it is written through its common part. -/
def Session.SameIdentity (s t : Session) : Prop :=
  s.nonce = t.nonce ∧ s.gridId = t.gridId ∧ s.authority = t.authority ∧
    s.validator = t.validator ∧ s.createdAt = t.createdAt ∧ s.ttlSlots = t.ttlSlots ∧
    s.feeCap = t.feeCap ∧ s.settlementIntervalSlots = t.settlementIntervalSlots ∧
    s.bump = t.bump
  deriving Decidable

/-- Write the common part of a session back into its account data. -/
def writeSession (data : AccountData) (state : Session) : Except ProgramError AccountData :=
  match data with
  | .sessionV2 frame => do
    rejectIf (¬frame.IsValid) sessionStateInvalid
    rejectIf (¬frame.base.SameIdentity state) sessionStateInvalid
    return .sessionV2 { frame with base := state }
  | .session _ => .ok (.session state)
  | _ => .error sessionStateInvalid

/-- The session at its own address. -/
def loadSession (L : Ledger) (session : Pubkey) : Except ProgramError Session := do
  rejectIf (session ≠ (findSessionPda env).1) invalidPdaSeeds
  rejectIf ((L session).owner ≠ env.programId) sessionAccountOwnerMismatch
  parseSession (L session).data

/-- Store the common part of the session. -/
def storeSession (L : Ledger) (session : Pubkey) (state : Session) : ProgramResult := do
  let data ← writeSession (L session).data state
  return L.setData session data

/-! ## Records of the game -/

/-- The checkpoint of a slot, at its own address. -/
def loadCheckpoint (L : Ledger) (sessionKey : Pubkey) (erSlot : UInt64)
    (checkpoint : Pubkey) : Except ProgramError Checkpoint := do
  rejectIf (checkpoint ≠ (findCheckpointPda env sessionKey erSlot).1) invalidPdaSeeds
  rejectIf ((L checkpoint).owner ≠ env.programId) checkpointStateInvalid
  match (L checkpoint).data with
  | .checkpoint state => do
    rejectIf (state.session ≠ sessionKey ∨ state.erSlot ≠ erSlot) checkpointStateInvalid
    return state
  | _ => .error checkpointDeserializeFailed

/-- The cursor of the session. -/
def loadCursor (L : Ledger) (sessionKey cursor : Pubkey) :
    Except ProgramError CheckpointCursor := do
  rejectIf (cursor ≠ (findCheckpointCursorPda env sessionKey).1) invalidPdaSeeds
  rejectIf ((L cursor).owner ≠ env.programId) checkpointCursorStateInvalid
  match (L cursor).data with
  | .cursor state => do
    rejectIf (state.session ≠ sessionKey) checkpointCursorStateInvalid
    return state
  | _ => .error checkpointCursorDeserializeFailed

/-- The challenge of a checkpoint. -/
def loadChallenge (L : Ledger) (checkpointKey challenge : Pubkey) :
    Except ProgramError Challenge := do
  rejectIf (challenge ≠ (findChallengePda env checkpointKey).1) invalidPdaSeeds
  rejectIf ((L challenge).owner ≠ env.programId) challengeStateInvalid
  match (L challenge).data with
  | .challenge state => do
    rejectIf (state.checkpoint ≠ checkpointKey) challengeStateInvalid
    return state
  | _ => .error challengeDeserializeFailed

/-- The data availability proof of a challenge. -/
def loadDaProof (L : Ledger) (challengeKey checkpointKey account : Pubkey) :
    Except ProgramError DataAvailabilityProof := do
  rejectIf (account ≠ (findDaProofPda env challengeKey).1) invalidPdaSeeds
  rejectIf ((L account).owner ≠ env.programId) dataAvailabilityStateInvalid
  match (L account).data with
  | .daProof state => do
    rejectIf (state.challenge ≠ challengeKey ∨ state.checkpoint ≠ checkpointKey)
      dataAvailabilityStateInvalid
    return state
  | _ => .error dataAvailabilityDeserializeFailed

/-- The step proof of a checkpoint. -/
def loadStepProof (L : Ledger) (checkpointKey proof : Pubkey) :
    Except ProgramError StepProofAccount := do
  rejectIf (proof ≠ (findStepProofPda env checkpointKey).1) invalidPdaSeeds
  rejectIf ((L proof).owner ≠ env.programId) stepProofStateInvalid
  match (L proof).data with
  | .stepProof state => do
    rejectIf (state.checkpoint ≠ checkpointKey) stepProofStateInvalid
    return state
  | _ => .error stepProofDeserializeFailed

/-! ## What a load says -/

section Loads

variable {env : Env} {L : Ledger} {a sessionKey checkpointKey challengeKey : Pubkey}
  {erSlot : UInt64}

theorem loadSession_eq_ok : loadSession env L a = .ok s ↔
    a = env.address .session ∧ (L a).owner = env.programId ∧ parseSession (L a).data = .ok s := by
  simp [loadSession, Env.address]

theorem loadCheckpoint_eq_ok :
    loadCheckpoint env L sessionKey erSlot a = .ok c ↔
      a = (findCheckpointPda env sessionKey erSlot).1 ∧ (L a).owner = env.programId ∧
        (L a).data = .checkpoint c ∧ c.session = sessionKey ∧ c.erSlot = erSlot := by
  cases hd : (L a).data <;> simp [loadCheckpoint, hd]
  grind

theorem loadCursor_eq_ok :
    loadCursor env L sessionKey a = .ok c ↔
      a = (findCheckpointCursorPda env sessionKey).1 ∧ (L a).owner = env.programId ∧
        (L a).data = .cursor c ∧ c.session = sessionKey := by
  cases hd : (L a).data <;> simp [loadCursor, hd]
  grind

theorem loadChallenge_eq_ok :
    loadChallenge env L checkpointKey a = .ok c ↔
      a = (findChallengePda env checkpointKey).1 ∧ (L a).owner = env.programId ∧
        (L a).data = .challenge c ∧ c.checkpoint = checkpointKey := by
  cases hd : (L a).data <;> simp [loadChallenge, hd]
  grind

theorem loadDaProof_eq_ok :
    loadDaProof env L challengeKey checkpointKey a = .ok d ↔
      a = (findDaProofPda env challengeKey).1 ∧ (L a).owner = env.programId ∧
        (L a).data = .daProof d ∧ d.challenge = challengeKey ∧
        d.checkpoint = checkpointKey := by
  cases hd : (L a).data <;> simp [loadDaProof, hd]
  grind

theorem loadStepProof_eq_ok :
    loadStepProof env L checkpointKey a = .ok p ↔
      a = (findStepProofPda env checkpointKey).1 ∧ (L a).owner = env.programId ∧
        (L a).data = .stepProof p ∧ p.checkpoint = checkpointKey := by
  cases hd : (L a).data <;> simp [loadStepProof, hd]
  grind

end Loads

/-! ## The game in a ledger -/

/-- The session of the chain, if it is open. -/
def sessionOf (L : Ledger) : Option Session :=
  (loadSession env L (env.address .session)).toOption

/-- Its cursor. -/
def cursorOf (L : Ledger) : Option CheckpointCursor :=
  (loadCursor env L (env.address .session) (env.address .cursor)).toOption

/-- The checkpoint of a slot. -/
def checkpointOf (L : Ledger) (e : UInt64) : Option Checkpoint :=
  (loadCheckpoint env L (env.address .session) e (env.address (.checkpoint e))).toOption

/-- The challenge of that checkpoint. -/
def challengeOf (L : Ledger) (e : UInt64) : Option Challenge :=
  (loadChallenge env L (env.address (.checkpoint e)) (env.address (.challenge e))).toOption

/-- The data availability proof of that challenge. -/
def daProofOf (L : Ledger) (e : UInt64) : Option DataAvailabilityProof :=
  (loadDaProof env L (env.address (.challenge e)) (env.address (.checkpoint e))
    (env.address (.daProof e))).toOption

/-- The step proof of that checkpoint. -/
def stepProofOf (L : Ledger) (e : UInt64) : Option StepProofAccount :=
  (loadStepProof env L (env.address (.checkpoint e)) (env.address (.stepProof e))).toOption

section Views

variable {env : Env} {L L' : Ledger} {e : UInt64}

theorem sessionOf_eq_some : sessionOf env L = some s ↔
    (L (env.address .session)).owner = env.programId ∧
      parseSession (L (env.address .session)).data = .ok s := by
  simp [sessionOf, toOption_eq_some, loadSession_eq_ok]

theorem cursorOf_eq_some : cursorOf env L = some c ↔
    (L (env.address .cursor)).owner = env.programId ∧
      (L (env.address .cursor)).data = .cursor c ∧ c.session = env.address .session := by
  rw [cursorOf, toOption_eq_some, loadCursor_eq_ok]
  exact and_iff_right rfl

theorem checkpointOf_eq_some : checkpointOf env L e = some c ↔
    (L (env.address (.checkpoint e))).owner = env.programId ∧
      (L (env.address (.checkpoint e))).data = .checkpoint c ∧
      c.session = env.address .session ∧ c.erSlot = e := by
  rw [checkpointOf, toOption_eq_some, loadCheckpoint_eq_ok]
  exact and_iff_right rfl

theorem challengeOf_eq_some : challengeOf env L e = some c ↔
    (L (env.address (.challenge e))).owner = env.programId ∧
      (L (env.address (.challenge e))).data = .challenge c ∧
      c.checkpoint = env.address (.checkpoint e) := by
  rw [challengeOf, toOption_eq_some, loadChallenge_eq_ok]
  exact and_iff_right rfl

theorem daProofOf_eq_some : daProofOf env L e = some d ↔
    (L (env.address (.daProof e))).owner = env.programId ∧
      (L (env.address (.daProof e))).data = .daProof d ∧
      d.challenge = env.address (.challenge e) ∧ d.checkpoint = env.address (.checkpoint e) := by
  rw [daProofOf, toOption_eq_some, loadDaProof_eq_ok]
  exact and_iff_right rfl

theorem stepProofOf_eq_some : stepProofOf env L e = some p ↔
    (L (env.address (.stepProof e))).owner = env.programId ∧
      (L (env.address (.stepProof e))).data = .stepProof p ∧
      p.checkpoint = env.address (.checkpoint e) := by
  rw [stepProofOf, toOption_eq_some, loadStepProof_eq_ok]
  exact and_iff_right rfl

end Views

end Northstar.Portal
