import Northstar.Portal.Challenge
import Northstar.ZkTypes

/-!
# Step proofs

Once a challenge is down to one step, the challenger uploads the proof of that step:
they create the account bound to the step's public inputs, write the proof in chunks and
seal it. Anyone may then resolve the challenge, which checks the sealed proof against the
public inputs rebuilt from checkpoint, challenge and proof account.
-/

namespace Northstar.Portal

open Bytes Checked PortalError

variable (env : Env) (now : UInt64)

/-! ## Session context -/

/-- The bytes of a session's policy. -/
def sessionContextBytes (programId sessionKey : Pubkey) (session : Session) : List UInt8 :=
  ascii "northstar-session-context-v1" ++ programId.toList ++ sessionKey.toList ++
    le64 session.gridId ++ le128 session.nonce ++ session.validator.toList ++ [1]

/-- **Session context**: the policy hashed as eight field elements, a tag, a kind, the
length and five chunks of 31 bytes. -/
def sessionContextV1 (sessionKey : Pubkey) (session : Session) : Option Hash32 :=
  let context := sessionContextBytes env.programId sessionKey session
  env.poseidon (leftPad32 (be 8 0x100) :: leftPad32 (be 8 0x10a) ::
    leftPad32 (be 8 context.length) :: ((chunksOf 31 context).take 5).map leftPad32)

/-! ## Binding -/

/-- The digest that ties a proof account to its checkpoint and challenge. -/
def stepProofPublicInputHash (sessionKey checkpointKey : Pubkey)
    (checkpoint : Checkpoint) (challenge : Challenge) (proof : StepProofAccount) : Hash32 :=
  env.hashv [ascii "northstar-er-step-v1", env.programId.toList, sessionKey.toList,
    checkpointKey.toList, [proof.proofKind], [proof.proofVersion], le64 checkpoint.erSlot,
    le64 challenge.startStep, proof.sessionContext.toList, challenge.startStateRoot.toList,
    challenge.endStateRoot.toList, proof.txEffectRoot.toList, proof.readonlyL1Root.toList,
    proof.settlementEffectRoot.toList]

/-- The transaction effect a proof is created for: a leaf with its path, or, for the
bounded relation, the root itself. -/
def verifyStepTxEffectBinding (checkpoint : Checkpoint) (stepIndex : UInt64)
    (proofKind proofVersion : UInt8) (commitment : Hash32) (pathLen : UInt8)
    (path : Vector Hash32 4) : Bool :=
  if env.features.zkVerifierBoundedVrf = true ∧ proofKind = erStepProofKindBoundedVrf then
    proofVersion == erStepProofVersionV1 &&
      checkpoint.stepCount == env.boundedVrfCheckpointSteps &&
      decide (stepIndex < checkpoint.stepCount) && commitment == checkpoint.txEffectRoot &&
      (FrBytes.new commitment).isSome && commitment != zero32 && pathLen == 0 &&
      path.toList.all (· == zero32)
  else
    verifyTxEffectAuthenticationPath env checkpoint stepIndex commitment pathLen path

/-! ## Creating, writing and sealing -/

/-- What a proof is about. -/
structure CreateStepProof where
  erSlot : UInt64
  proofKind : UInt8
  proofVersion : UInt8
  stepIndex : UInt64
  sessionContext : Hash32
  txEffectRoot : Hash32
  txEffectPathLen : UInt8
  txEffectPath : Vector Hash32 4
  readonlyL1Root : Hash32
  settlementEffectRoot : Hash32

/-- The empty proof account, before its binding digest is set. -/
def CreateStepProof.record (args : CreateStepProof) (checkpointKey challengeKey authority : Pubkey)
    (bump : UInt8) : StepProofAccount :=
  { checkpoint := checkpointKey
    challenge := challengeKey
    authority := authority
    proofKind := args.proofKind
    proofVersion := args.proofVersion
    stepIndex := args.stepIndex
    sessionContext := args.sessionContext
    txEffectRoot := args.txEffectRoot
    readonlyL1Root := args.readonlyL1Root
    settlementEffectRoot := args.settlementEffectRoot
    publicInputHash := zero32
    writtenLen := 0
    isSealed := false
    proofHash := zero32
    bump := bump
    data := Vector.replicate 356 0 }

/-- Create the proof account, or take over an existing one of Portal's. -/
def prepareStepProofAccount (L : Ledger) (authority : AccountMeta) (proof : Pubkey) :
    ProgramResult :=
  if (L proof).data = .empty then
    initializePdaAccount env L authority proof (env.minimumBalance 668) 668
  else do
    rejectIf ((L proof).owner ≠ env.programId ∨ (L proof).lamports < env.minimumBalance 668)
      stepProofStateInvalid
    return L

/-- Creation on its named accounts. -/
def createStepProof
    (authority session checkpoint challenge proof : AccountMeta) (args : CreateStepProof)
    (L : Ledger) : ProgramResult := do
  rejectIf (authority.isSigner = false) unauthorized
  rejectIf (isSessionV2 (L session.address).data = true) stepProofVerifierUnavailable
  let sessionState ← loadSession env L session.address
  let checkpointState ← loadCheckpoint env L session.address args.erSlot checkpoint.address
  rejectIf (checkpointState.status ≠ .challenged) checkpointStateInvalid
  let challengeState ← loadChallenge env L checkpoint.address challenge.address
  requireLiveTurn challengeState now
  rejectIf (challengeState.turn ≠ .prove ∨
    challengeState.endStep ≠ saturatingAdd challengeState.startStep 1 ∨
    args.stepIndex ≠ challengeState.startStep) challengeTurnInvalid
  rejectIf (args.proofKind = 0 ∨ args.proofVersion = 0) .invalidInstructionData
  rejectIf (sessionContextV1 env session.address sessionState ≠ some args.sessionContext)
    stepProofPublicInputMismatch
  rejectIf (authority.address ≠ challengeState.challenger ∨
    args.readonlyL1Root ≠ checkpointState.readonlyL1Root ∨
    args.settlementEffectRoot ≠ checkpointState.effectCommitment) unauthorized
  rejectIf (verifyStepTxEffectBinding env checkpointState args.stepIndex args.proofKind
    args.proofVersion args.txEffectRoot args.txEffectPathLen args.txEffectPath = false)
    stepProofPublicInputMismatch
  let (proofKey, bump) := findStepProofPda env checkpoint.address
  rejectIf (proof.address ≠ proofKey) invalidPdaSeeds
  let blank := args.record checkpoint.address challenge.address authority.address bump
  let proofState := { blank with
    publicInputHash := stepProofPublicInputHash env session.address checkpoint.address
      checkpointState challengeState blank }
  let L ← prepareStepProofAccount env L authority proof.address
  return L.setData proof.address (.stepProof proofState)

/-- The accounts of `CreateStepProof`, in order. -/
def processCreateStepProof (accounts : List AccountMeta)
    (args : CreateStepProof) (L : Ledger) : ProgramResult :=
  match accounts with
  | authority :: session :: checkpoint :: challenge :: proof :: _systemProgram :: _ =>
    createStepProof env now authority session checkpoint challenge proof args L
  | _ => .error .notEnoughAccountKeys

/-- The open proof account of a challenge in its proof turn, for the account's authority. -/
def loadOpenStepProof
    (authority session checkpoint challenge proof : AccountMeta) (erSlot : UInt64) (L : Ledger) :
    Except ProgramError StepProofAccount := do
  rejectIf (authority.isSigner = false) unauthorized
  let _ ← loadSession env L session.address
  let checkpointState ← loadCheckpoint env L session.address erSlot checkpoint.address
  rejectIf (checkpointState.status ≠ .challenged) checkpointStateInvalid
  let challengeState ← loadChallenge env L checkpoint.address challenge.address
  requireLiveTurn challengeState now
  rejectIf (challengeState.turn ≠ .prove) challengeTurnInvalid
  let proofState ← loadStepProof env L checkpoint.address proof.address
  rejectIf (proofState.challenge ≠ challenge.address) stepProofCheckpointMismatch
  rejectIf (proofState.authority ≠ authority.address) unauthorized
  rejectIf (proofState.isSealed = true) stepProofAlreadySealed
  return proofState

/-- A chunk of a proof. -/
structure WriteStepProof where
  erSlot : UInt64
  offset : UInt32
  chunkLen : UInt16
  chunk : Vector UInt8 128

/-- Writing on its named accounts. -/
def writeStepProof
    (authority session checkpoint challenge proof : AccountMeta) (args : WriteStepProof)
    (L : Ledger) : ProgramResult := do
  let proofState ← loadOpenStepProof env now authority session checkpoint challenge proof
    args.erSlot L
  let stop := args.offset.toNat + args.chunkLen.toNat
  rejectIf (maxStepProofBytes < stop ∨ maxStepProofChunk < args.chunkLen.toNat)
    stepProofChunkOutOfBounds
  return L.setData proof.address (.stepProof
    { proofState with
      data := overwrite proofState.data args.offset.toNat
        (args.chunk.toList.take args.chunkLen.toNat)
      writtenLen := max proofState.writtenLen (UInt32.ofNat stop) })

/-- The accounts of `WriteStepProof`, in order. -/
def processWriteStepProof (accounts : List AccountMeta)
    (args : WriteStepProof) (L : Ledger) : ProgramResult :=
  match accounts with
  | authority :: session :: checkpoint :: challenge :: proof :: _ =>
    writeStepProof env now authority session checkpoint challenge proof args L
  | _ => .error .notEnoughAccountKeys

/-- Sealing on its named accounts. -/
def sealStepProof
    (authority session checkpoint challenge proof : AccountMeta) (erSlot : UInt64)
    (proofLen : UInt32) (L : Ledger) : ProgramResult := do
  let proofState ← loadOpenStepProof env now authority session checkpoint challenge proof erSlot L
  rejectIf (proofLen = 0 ∨ proofState.writtenLen < proofLen) stepProofChunkOutOfBounds
  return L.setData proof.address (.stepProof
    { proofState with
      writtenLen := proofLen
      isSealed := true
      proofHash := env.hashv [proofState.data.toList.take proofLen.toNat] })

/-- The accounts of `SealStepProof`, in order. -/
def processSealStepProof (accounts : List AccountMeta)
    (erSlot : UInt64) (proofLen : UInt32) (L : Ledger) : ProgramResult :=
  match accounts with
  | authority :: session :: checkpoint :: challenge :: proof :: _ =>
    sealStepProof env now authority session checkpoint challenge proof erSlot proofLen L
  | _ => .error .notEnoughAccountKeys

/-! ## Verifying -/

/-- The verdict on a proof. -/
inductive StepProofVerification
  | valid
  | invalid
  | unavailable
  deriving DecidableEq, Repr

/-- The verifier that is asked. -/
inductive StepProofVerifierMode
  | production
  | testOnly
  deriving DecidableEq, Repr

/-- What a proof of the bounded relation must agree with its checkpoint on. -/
def boundedVrfCheckpointBinding (checkpoint : Checkpoint) (challenge : Challenge)
    (proof : StepProofAccount) : Bool :=
  checkpoint.stepCount == env.boundedVrfCheckpointSteps &&
    proof.txEffectRoot == checkpoint.txEffectRoot && proof.stepIndex == challenge.startStep &&
    decide (proof.stepIndex < checkpoint.stepCount) &&
    proof.readonlyL1Root == checkpoint.readonlyL1Root &&
    proof.settlementEffectRoot == checkpoint.effectCommitment

/-- **The public inputs Portal rebuilds** for a proof account, if every root in them is a
field element. -/
def stepPublicInputs (checkpoint : Checkpoint) (challenge : Challenge)
    (proof : StepProofAccount) : Option ErStepPublicInputsV1 := do
  let sessionContext ← FrBytes.new proof.sessionContext
  let preStateRoot ← FrBytes.new challenge.startStateRoot
  let postStateRoot ← FrBytes.new challenge.endStateRoot
  let txEffectRoot ← FrBytes.new proof.txEffectRoot
  let readonlyL1Root ← FrBytes.new proof.readonlyL1Root
  let settlementEffectRoot ← FrBytes.new proof.settlementEffectRoot
  return {
    domain := FrBytes.erStepDomainV1 proof.proofKind proof.proofVersion
    sessionContext
    slotStep := FrBytes.fromU64Pair checkpoint.erSlot proof.stepIndex
    preStateRoot
    postStateRoot
    txEffectRoot
    readonlyL1Root
    settlementEffectRoot }

/-- The verifier of releases. -/
def verifyStepProofProduction (checkpoint : Checkpoint) (challenge : Challenge)
    (proof : StepProofAccount) : StepProofVerification :=
  if env.features.zkVerifierPrototype = false then .unavailable
  else if env.features.zkVerifierBoundedVrf = true ∧
      proof.proofKind = erStepProofKindBoundedVrf ∧
      boundedVrfCheckpointBinding env checkpoint challenge proof = false then .invalid
  else match stepPublicInputs checkpoint challenge proof with
    | none => .invalid
    | some publicInputs =>
      if proof.writtenLen.toNat ≠ maxStepProofBytes then .invalid
      else if env.verifyErStepProofV1 proof.data publicInputs.toBytes = true then .valid
      else .invalid

/-- The dummy verifier of test builds, which reads its verdict off the first byte. -/
def verifyStepProofTestOnly (proof : StepProofAccount) : StepProofVerification :=
  if env.features.testVerifier = true then
    match proof.data.toList.head? with
    | some 2 => .valid
    | some 1 => .invalid
    | _ => .unavailable
  else .unavailable

/-- The verdict of a verifier. -/
def verifyStepProof (mode : StepProofVerifierMode) (checkpoint : Checkpoint)
    (challenge : Challenge) (proof : StepProofAccount) : StepProofVerification :=
  match mode with
  | .production => verifyStepProofProduction env checkpoint challenge proof
  | .testOnly => verifyStepProofTestOnly env proof

/-! ## Resolving -/

/-- The verdict's effect: a rejected proof slashes the bond and invalidates the
checkpoint, an accepted one sends it back to wait for its deadline. -/
def settleResolution (verification : StepProofVerification)
    (checkpoint challenge bondRecipient cursor : Pubkey) (checkpointState : Checkpoint)
    (challengeState : Challenge) (cursorState : CheckpointCursor) (L : Ledger) : ProgramResult :=
  match verification with
  | .unavailable => .error stepProofVerifierUnavailable
  | .invalid => do
    rejectIf (bondRecipient ≠ challengeState.challenger) unauthorized
    let (L, checkpointState) ← slashCheckpointBond env L checkpoint bondRecipient checkpointState
    let L := L.setData checkpoint (.checkpoint
      { checkpointState with status := .invalid, challengeResolved := true })
    let L := L.setData challenge (.challenge { challengeState with status := .challengerWon })
    return L.setData cursor (.cursor cursorState.clearActive)
  | .valid => do
    let L := L.setData checkpoint (.checkpoint
      { checkpointState with status := .pending, challengeResolved := true })
    return L.setData challenge (.challenge { challengeState with status := .validatorWon })

/-- Resolution on its named accounts. -/
def resolveChallenge
    (submitter session checkpoint challenge daProof proof bondRecipient cursor : AccountMeta)
    (erSlot : UInt64) (mode : StepProofVerifierMode) (L : Ledger) : ProgramResult := do
  rejectIf (submitter.isSigner = false) unauthorized
  let _ ← loadSession env L session.address
  let checkpointState ← loadCheckpoint env L session.address erSlot checkpoint.address
  rejectIf (checkpointState.status ≠ .challenged) checkpointStateInvalid
  let challengeState ← loadChallenge env L checkpoint.address challenge.address
  requireLiveTurn challengeState now
  rejectIf (challengeState.turn ≠ .prove ∨
    challengeState.endStep ≠ saturatingAdd challengeState.startStep 1) challengeTurnInvalid
  let daState ← loadDaProof env L challenge.address checkpoint.address daProof.address
  rejectIf (daState.status ≠ .revealed) dataAvailabilityStateInvalid
  let cursorState ← loadCursor env L session.address cursor.address
  requireActiveCheckpoint cursorState checkpoint.address erSlot
  let proofState ← loadStepProof env L checkpoint.address proof.address
  rejectIf (proofState.checkpoint ≠ checkpoint.address ∨ proofState.challenge ≠ challenge.address)
    stepProofCheckpointMismatch
  rejectIf (proofState.authority ≠ challengeState.challenger) unauthorized
  rejectIf (proofState.isSealed = false) stepProofNotSealed
  rejectIf (proofState.writtenLen = 0 ∨ maxStepProofBytes < proofState.writtenLen.toNat)
    stepProofChunkOutOfBounds
  rejectIf (env.hashv [proofState.data.toList.take proofState.writtenLen.toNat] ≠
    proofState.proofHash) stepProofHashMismatch
  rejectIf (proofState.publicInputHash ≠ stepProofPublicInputHash env session.address
    checkpoint.address checkpointState challengeState proofState) stepProofPublicInputMismatch
  settleResolution env (verifyStepProof env mode checkpointState challengeState proofState)
    checkpoint.address challenge.address bondRecipient.address cursor.address checkpointState
    challengeState cursorState L

/-- The accounts of `ResolveChallenge`, in order. -/
def processResolveChallenge (accounts : List AccountMeta)
    (erSlot : UInt64) (mode : StepProofVerifierMode) (L : Ledger) : ProgramResult :=
  match accounts with
  | submitter :: session :: checkpoint :: challenge :: daProof :: proof :: bondRecipient ::
      cursor :: _ =>
    resolveChallenge env now submitter session checkpoint challenge daProof proof bondRecipient
      cursor erSlot mode L
  | _ => .error .notEnoughAccountKeys

end Northstar.Portal
