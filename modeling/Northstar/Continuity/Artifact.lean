import Northstar.Continuity.Committed
import Northstar.Lib.Borsh

/-!
# Checkpoint artifacts

The recorded steps of a checkpoint are put into an artifact: the header that is proposed on
the L1, the openings of the two roots, and a page for every step with its paths in the trees
of the header. The header commits to the whole artifact.

## Main results

* `built_of_ok`: what a successful construction has computed
* `validate_of_build`, `build_of_validate`: validation constructs the artifact again
-/

namespace Northstar.Runtime

open Northstar.Portal Northstar.Proof Bytes Checked Borsh

/-! ## Encodings -/

def SessionIdentityV2.borsh : Borsh SessionIdentityV2 :=
  (byte.pair <| (vector 32).pair <| (vector 32).pair <| (vector 32).pair <| word128.pair <|
    word64.pair <| (vector 32).pair (vector 32)).iso
    (fun i => (i.version, i.l1Genesis, i.portal, i.session, i.nonce, i.gridId, i.validator,
      i.profile))
    (fun (a, b, c, d, e, f, g, h) => ⟨a, b, c, d, e, f, g, h⟩) fun _ => rfl

def CommittedAccountV2.borsh : Borsh CommittedAccountV2 :=
  ((vector 32).pair <| word64.pair <| byte.list.pair <| bool.pair word64).iso
    (fun v => (v.owner, v.lamports, v.data, v.executable, v.rentEpoch))
    (fun (a, b, c, d, e) => ⟨a, b, c, d, e⟩) fun _ => rfl

def AccountOriginV2.borsh : Borsh AccountOriginV2 :=
  (choice 0 .unit (choice 1 ((vector 32).pair word64) (tagged 2 (vector 32))
    (tagged_avoids (by decide))) (choice_avoids (by decide) (tagged_avoids (by decide)))).iso
    (fun
      | .erCreated => .inl ()
      | .delegated record generation => .inr (.inl (record, generation))
      | .solReceipt receipt => .inr (.inr receipt))
    (fun
      | .inl () => .erCreated
      | .inr (.inl (record, generation)) => .delegated record generation
      | .inr (.inr receipt) => .solReceipt receipt) fun origin => by cases origin <;> rfl

def CommittedStateV2.borsh : Borsh CommittedStateV2 :=
  (SessionIdentityV2.borsh.pair <| (treeMap (vector 32) CommittedAccountV2.borsh).pair <|
    (treeMap (vector 32) AccountOriginV2.borsh).pair <| (treeMap (vector 32) word64).pair <|
    (treeMap (vector 32) (word64.pair word64)).pair <| (treeMap (vector 32) word64).pair <|
    (treeMap (vector 32) (vector 32)).pair <| word64.pair (vector 32)).iso
    (fun s => (s.identity, s.accounts, s.origins, s.credited, s.depositOrigins, s.withdrawn,
      s.frozen, s.ingressCount, s.ingressRoot))
    (fun (a, b, c, d, e, f, g, h, i) => ⟨a, b, c, d, e, f, g, h, i⟩) fun _ => rfl

def openingBorsh : Borsh StateRootOpeningV2 :=
  ((vector 32).pair <| (vector 32).pair <| (vector 32).pair <| word64.pair (vector 32)).iso
    (fun o => (o.sessionContext, o.accountRoot, o.originRoot, o.ingressCount, o.ingressRoot))
    (fun (a, b, c, d, e) => ⟨a, b, c, d, e⟩) fun _ => rfl

/-- The payload of a record, each of its variants after the byte that tells it. -/
def payloadBorsh : Borsh IngressPayloadV2 :=
  (choice 0 ((vector 32).pair <| (vector 32).pair <| (vector 32).pair <| word64.pair <|
      word32.pair <| (vector 32).pair <| bool.pair word64)
    (choice 1 ((vector 32).pair <| (vector 32).pair <| word64.pair word64)
      (choice 2 ((vector 32).pair <| (vector 32).pair <| (vector 32).pair <| (vector 32).pair <|
          (vector 32).pair <| (vector 32).pair <| word64.pair <| word64.pair word64)
        (choice 3 ((vector 32).pair <| (vector 32).pair word64)
          (tagged 4 ((vector 32).pair (vector 32)))
          (tagged_avoids (by decide)))
        (choice_avoids (by decide) (tagged_avoids (by decide))))
      (choice_avoids (by decide) (choice_avoids (by decide) (tagged_avoids (by decide)))))
    (choice_avoids (by decide) (choice_avoids (by decide)
      (choice_avoids (by decide) (tagged_avoids (by decide)))))).iso
    (fun
      | .delegation account record owner lamports dataLen dataHash executable rentEpoch =>
        .inl (account, record, owner, lamports, dataLen, dataHash, executable, rentEpoch)
      | .solDeposit recipient receipt amount cumulativeDeposited =>
        .inr (.inl (recipient, receipt, amount, cumulativeDeposited))
      | .tokenDeposit bridge sessionBridge account receipt mint tokenProgram originDeposited amount
          cumulativeDeposited =>
        .inr (.inr (.inl (bridge, sessionBridge, account, receipt, mint, tokenProgram,
          originDeposited, amount, cumulativeDeposited)))
      | .freeze account request requestedL1Slot =>
        .inr (.inr (.inr (.inl (account, request, requestedL1Slot))))
      | .release account request => .inr (.inr (.inr (.inr (account, request)))))
    (fun
      | .inl (account, record, owner, lamports, dataLen, dataHash, executable, rentEpoch) =>
        .delegation account record owner lamports dataLen dataHash executable rentEpoch
      | .inr (.inl (recipient, receipt, amount, cumulativeDeposited)) =>
        .solDeposit recipient receipt amount cumulativeDeposited
      | .inr (.inr (.inl (bridge, sessionBridge, account, receipt, mint, tokenProgram,
          originDeposited, amount, cumulativeDeposited))) =>
        .tokenDeposit bridge sessionBridge account receipt mint tokenProgram originDeposited amount
          cumulativeDeposited
      | .inr (.inr (.inr (.inl (account, request, requestedL1Slot)))) =>
        .freeze account request requestedL1Slot
      | .inr (.inr (.inr (.inr (account, request)))) => .release account request)
    fun payload => by cases payload <;> rfl

/-- A record, after its discriminator. -/
def recordBorsh : Borsh IngressRecordV2 :=
  (word64.pair <| byte.pair <| (vector 32).pair <| word64.pair <| word64.pair <|
    (vector 32).pair <| payloadBorsh.pair <| (vector 32).pair byte).iso
    (fun r => (0x323052474e49534e, r.version, r.sessionContext, r.sequence, r.l1Slot,
      r.previousRoot, r.payload, r.root, r.bump))
    (fun (_, b, c, d, e, f, g, h, i) => ⟨b, c, d, e, f, g, h, i⟩) fun _ => rfl

/-- The accounts that an execution found or left. -/
def entriesBorsh : Borsh (List CommittedStateV2.AccountEntry) :=
  .list ((vector 32).pair CommittedAccountV2.borsh)

def TransitionPayloadV2.borsh : Borsh TransitionPayloadV2 :=
  (choice 0 (recordBorsh.pair <| byte.list.pair <| entriesBorsh.pair <| entriesBorsh.pair <|
      byte.list.pair byte.list)
    (choice 1 (recordBorsh.pair byte.list)
      (tagged 2 (byte.list.pair <| entriesBorsh.pair <| entriesBorsh.pair <|
        byte.list.pair byte.list))
      (tagged_avoids (by decide)))
    (choice_avoids (by decide) (tagged_avoids (by decide)))).iso
    (fun
      | .tokenIngress record transaction pre post executionResult replay =>
        .inl (record, transaction, pre, post, executionResult, replay)
      | .ingress record accountData => .inr (.inl (record, accountData))
      | .execution transaction pre post executionResult replay =>
        .inr (.inr (transaction, pre, post, executionResult, replay)))
    (fun
      | .inl (record, transaction, pre, post, executionResult, replay) =>
        .tokenIngress record transaction pre post executionResult replay
      | .inr (.inl (record, accountData)) => .ingress record accountData
      | .inr (.inr (transaction, pre, post, executionResult, replay)) =>
        .execution transaction pre post executionResult replay)
    fun payload => by cases payload <;> rfl

def readonlyBorsh : Borsh ReadonlyL1ValueV1 :=
  ((vector 32).pair <| (vector 32).pair <| word64.pair <| (vector 32).pair word64).iso
    (fun v => (v.account, v.owner, v.lamports, v.dataHash, v.observedL1Slot))
    (fun (a, b, c, d, e) => ⟨a, b, c, d, e⟩) fun _ => rfl

def RecordedTransitionV2.borsh : Borsh RecordedTransitionV2 :=
  (word64.pair <| openingBorsh.pair <| openingBorsh.pair <| TransitionPayloadV2.borsh.pair <|
    readonlyBorsh.list.pair byte.list.list).iso
    (fun t => (t.erSlot, t.before, t.after, t.payload, t.readonlyL1Values, t.settlementEffects))
    (fun (a, b, c, d, e, f) => ⟨a, b, c, d, e, f⟩) fun _ => rfl

def pathBorsh : Borsh MerkleAuthenticationPathV1 :=
  (word32.pair <| word32.pair (vector 32).list).iso
    (fun p => (p.leafIndex, p.leafCount, p.siblings))
    (fun (a, b, c) => ⟨a, b, c⟩) fun _ => rfl

/-! ## Artifacts -/

/-- **The header** of a checkpoint. -/
structure CheckpointCommitmentV1 where
  version : UInt8
  session : Hash32
  erSlot : UInt64
  stepCount : UInt32
  previousStateRoot : Hash32
  newStateRoot : Hash32
  traceRoot : Hash32
  transactionEffectRoot : Hash32
  readonlyL1Root : Hash32
  daCommitment : Hash32
  effectCommitment : Hash32
  deriving DecidableEq

/-- **The page** of a step. -/
structure DaStepPageV2 where
  index : UInt32
  preState : CommittedStateV2
  transition : RecordedTransitionV2
  preStatePath : MerkleAuthenticationPathV1
  postStatePath : MerkleAuthenticationPathV1
  effectPath : MerkleAuthenticationPathV1
  effectLeaf : Hash32
  readonlyPaths : List MerkleAuthenticationPathV1
  settlementPaths : List MerkleAuthenticationPathV1
  deriving DecidableEq

/-- **An artifact.** -/
structure CheckpointArtifactV2 where
  checkpoint : CheckpointCommitmentV1
  pre : StateRootOpeningV2
  post : StateRootOpeningV2
  readonlyL1Root : Hash32
  pages : List DaStepPageV2
  deriving DecidableEq

inductive ArtifactErrorV2
  | state (error : StateErrorV2)
  | transport
  | encoding
  | invalidBatch
  | capacity
  deriving DecidableEq

def CheckpointCommitmentV1.borsh : Borsh CheckpointCommitmentV1 :=
  (byte.pair <| (vector 32).pair <| word64.pair <| word32.pair <| (vector 32).pair <|
    (vector 32).pair <| (vector 32).pair <| (vector 32).pair <| (vector 32).pair <|
    (vector 32).pair (vector 32)).iso
    (fun c => (c.version, c.session, c.erSlot, c.stepCount, c.previousStateRoot, c.newStateRoot,
      c.traceRoot, c.transactionEffectRoot, c.readonlyL1Root, c.daCommitment, c.effectCommitment))
    (fun (a, b, c, d, e, f, g, h, i, j, k) => ⟨a, b, c, d, e, f, g, h, i, j, k⟩) fun _ => rfl

def DaStepPageV2.borsh : Borsh DaStepPageV2 :=
  (word32.pair <| CommittedStateV2.borsh.pair <| RecordedTransitionV2.borsh.pair <|
    pathBorsh.pair <| pathBorsh.pair <| pathBorsh.pair <| (vector 32).pair <|
    pathBorsh.list.pair pathBorsh.list).iso
    (fun p => (p.index, p.preState, p.transition, p.preStatePath, p.postStatePath, p.effectPath,
      p.effectLeaf, p.readonlyPaths, p.settlementPaths))
    (fun (a, b, c, d, e, f, g, h, i) => ⟨a, b, c, d, e, f, g, h, i⟩) fun _ => rfl

def CheckpointArtifactV2.borsh : Borsh CheckpointArtifactV2 :=
  (CheckpointCommitmentV1.borsh.pair <| openingBorsh.pair <| openingBorsh.pair <|
    (vector 32).pair DaStepPageV2.borsh.list).iso
    (fun a => (a.checkpoint, a.pre, a.post, a.readonlyL1Root, a.pages))
    (fun (a, b, c, d, e) => ⟨a, b, c, d, e⟩) fun _ => rfl

/-! ## Construction -/

section Construction

variable (env : Env)

/-- A result of the state, among those of the construction. -/
def stating {α : Type} (result : Except StateErrorV2 α) : Except ArtifactErrorV2 α :=
  result.mapError .state

@[simp] theorem stating_eq_ok {α : Type} {result : Except StateErrorV2 α} {a : α} :
    stating result = .ok a ↔ result = .ok a := by
  cases result <;> simp [stating, Except.mapError]

/-- The commitment to an opening. -/
def openingCommitment (opening : StateRootOpeningV2) : Except ContinuityError Hash32 :=
  if opening.sessionContext = zero32 then .error .invalidIdentity
  else (opening.commitment env).mapError fun _ => .invalidRoot

def inputCommitment (input : InputContextV2) : Except ContinuityError Hash32 :=
  (input.commitment env).mapError fun _ => .invalidRoot

/-- **The root of a state.** -/
def CommittedStateV2.root (s : CommittedStateV2) : Except StateErrorV2 Hash32 := do
  let opening ← s.opening env
  committing (openingCommitment env opening)

/-- What is committed to for a step besides its effect: its transaction, or its record. -/
def RecordedTransitionV2.input (transition : RecordedTransitionV2) : Option (List UInt8) :=
  match transition.payload with
  | .ingress record _ => recordBorsh.write record
  | .execution transaction .. | .tokenIngress _ transaction .. => some transaction

/-- What the steps amount to so far: the state, its roots, and the leaves of the trees. The
leaves of a step follow those of the steps before it. -/
structure Assembly where
  state : CommittedStateV2
  roots : List Hash32
  prestates : List CommittedStateV2
  effectLeaves : List Hash32
  readonlyLeaves : List Hash32
  settlementLeaves : List Hash32
  readonlyRanges : List (List Nat)
  settlementRanges : List (List Nat)

def readonlyLeavesOf (start stepIndex : Nat) (values : List ReadonlyL1ValueV1) : List Hash32 :=
  values.mapIdx fun i value => readonlyLeafHash env.sha256 (UInt32.ofNat (start + i))
    (UInt32.ofNat stepIndex) (UInt32.ofNat i) value

/-- The leaves of effects, none of which is empty or too long. -/
def settlementLeavesOf (start stepIndex : Nat) (effects : List (List UInt8)) :
    Except ArtifactErrorV2 (List Hash32) :=
  effects.zipIdx.mapM fun (effect, i) => do
    rejectIf (effect = [] ∨ 16384 < effect.length) .capacity
    okOr (settlementLeafHash env.sha256 (UInt32.ofNat (start + i)) (UInt32.ofNat stepIndex)
      (UInt32.ofNat i) effect) .transport

/-- Values in the order of their accounts. -/
def ascendingAccounts (values : List ReadonlyL1ValueV1) : Prop :=
  values.IsChain fun a b => compare a.account b.account = .lt
  deriving Decidable

/-- One more step. -/
def Assembly.step (assembly : Assembly) (entry : RecordedTransitionV2 × Nat) :
    Except ArtifactErrorV2 Assembly := do
  let (transition, stepIndex) := entry
  rejectIf (256 < transition.readonlyL1Values.length ∨
    ¬ascendingAccounts transition.readonlyL1Values ∨ 256 < transition.settlementEffects.length)
    .invalidBatch
  let state ← stating ((transition.apply env).on assembly.state)
  let root ← stating (state.root env)
  let input ← okOr transition.input .encoding
  let encoded ← okOr (RecordedTransitionV2.borsh.write transition) .encoding
  let effect := ascii "northstar-step-v2" ++ encoded
  rejectIf (1048576 < effect.length) .capacity
  let effectLeaf ← okOr (transactionEffectLeafHash env.sha256 (UInt32.ofNat stepIndex) input effect)
    .transport
  let readonlyLeaves := readonlyLeavesOf env assembly.readonlyLeaves.length stepIndex
    transition.readonlyL1Values
  let settlementLeaves ← settlementLeavesOf env assembly.settlementLeaves.length stepIndex
    transition.settlementEffects
  return {
    state
    roots := assembly.roots ++ [root]
    prestates := assembly.prestates ++ [assembly.state]
    effectLeaves := assembly.effectLeaves ++ [effectLeaf]
    readonlyLeaves := assembly.readonlyLeaves ++ readonlyLeaves
    settlementLeaves := assembly.settlementLeaves ++ settlementLeaves
    readonlyRanges := assembly.readonlyRanges ++
      [List.range' assembly.readonlyLeaves.length readonlyLeaves.length]
    settlementRanges := assembly.settlementRanges ++
      [List.range' assembly.settlementLeaves.length settlementLeaves.length] }

def traceLeafHash (index : Nat) (root : Hash32) : Hash32 :=
  typedHash env.sha256 .trace (ascii "leaf") (le 4 index ++ root.toList)

def Assembly.traceLeaves (assembly : Assembly) : List Hash32 :=
  assembly.roots.mapIdx (traceLeafHash env)

/-- The page of the step at a position, with its paths. -/
def Assembly.page (assembly : Assembly)
    (entry : ((CommittedStateV2 × RecordedTransitionV2) × Hash32 × List Nat × List Nat) × Nat) :
    Option DaStepPageV2 := do
  let (((preState, transition), effectLeaf, readonlyRange, settlementRange), position) := entry
  let trace := assembly.traceLeaves env
  let preStatePath ← merklePath env.sha256 .trace trace position
  let postStatePath ← merklePath env.sha256 .trace trace (position + 1)
  let effectPath ← merklePath env.sha256 .transactionEffect assembly.effectLeaves position
  let readonlyPaths ← readonlyRange.mapM
    (merklePath env.sha256 .readonlyL1 assembly.readonlyLeaves)
  let settlementPaths ← settlementRange.mapM
    (merklePath env.sha256 .settlementEffect assembly.settlementLeaves)
  return {
    index := UInt32.ofNat position
    preState, transition, preStatePath, postStatePath, effectPath, effectLeaf, readonlyPaths
    settlementPaths }

def Assembly.pages (assembly : Assembly) (transitions : List RecordedTransitionV2) :
    Option (List DaStepPageV2) :=
  ((assembly.prestates.zip transitions).zip (assembly.effectLeaves.zip
    (assembly.readonlyRanges.zip assembly.settlementRanges))).zipIdx.mapM (assembly.page env)

/-- One to sixteen steps, in the order of their slots, none of them after the checkpoint. -/
def CanonicalBatch (erSlot : UInt64) (transitions : List RecordedTransitionV2) : Prop :=
  transitions ≠ [] ∧ transitions.length ≤ 16 ∧ erSlot ≠ 0 ∧
    (∀ step ∈ transitions, step.erSlot ≤ erSlot) ∧
    transitions.IsChain fun a b => a.erSlot ≤ b.erSlot
  deriving Decidable

/-- The steps of a checkpoint, one after another. -/
def assemble (base : CommittedStateV2) (transitions : List RecordedTransitionV2) :
    Except ArtifactErrorV2 Assembly := do
  let root ← stating (base.root env)
  transitions.zipIdx.foldlM (Assembly.step env)
    { state := base
      roots := [root]
      prestates := []
      effectLeaves := []
      readonlyLeaves := []
      settlementLeaves := []
      readonlyRanges := []
      settlementRanges := [] }

/-- What the steps of a checkpoint read from outside the session. -/
def artifactInput (pre post : StateRootOpeningV2) (readonlyL1Root : Hash32) : InputContextV2 :=
  { sessionContext := pre.sessionContext
    readonlyL1Root
    ingressStart := pre.ingressCount
    ingressStartRoot := pre.ingressRoot
    ingressEnd := post.ingressCount
    ingressEndRoot := post.ingressRoot }

/-- The commitment of an artifact to itself. -/
def daCommitment (artifact : CheckpointArtifactV2) : Option Hash32 :=
  (CheckpointArtifactV2.borsh.write artifact).map fun encoded =>
    env.hashv [ascii "northstar-da-v2", encoded]

/-- **The artifact** of recorded steps. -/
def buildCheckpointArtifactV2 (base : CommittedStateV2) (erSlot : UInt64)
    (transitions : List RecordedTransitionV2) : Except ArtifactErrorV2 CheckpointArtifactV2 := do
  rejectIf (¬CanonicalBatch erSlot transitions) .invalidBatch
  let pre ← stating (base.opening env)
  let assembly ← assemble env base transitions
  let post ← stating (assembly.state.opening env)
  let traceRoot ← okOr (merkleRoot env.sha256 .trace (assembly.traceLeaves env)) .transport
  let effectRoot ← okOr (merkleRoot env.sha256 .transactionEffect assembly.effectLeaves) .transport
  let readonlyRoot ← okOr (merkleRoot env.sha256 .readonlyL1 assembly.readonlyLeaves) .transport
  let settlementRoot ← okOr (merkleRoot env.sha256 .settlementEffect assembly.settlementLeaves)
    .transport
  let inputContext ← stating
    (committing (inputCommitment env (artifactInput pre post readonlyRoot)))
  let pages ← okOr (assembly.pages env transitions) .transport
  let encoded ← okOr (DaStepPageV2.borsh.list.write pages) .encoding
  rejectIf (67108864 < encoded.length) .capacity
  let previousStateRoot ← stating (committing (openingCommitment env pre))
  let newStateRoot ← stating (committing (openingCommitment env post))
  let artifact : CheckpointArtifactV2 :=
    { checkpoint :=
        { version := 2
          session := base.identity.session
          erSlot
          stepCount := UInt32.ofNat transitions.length
          previousStateRoot
          newStateRoot
          traceRoot
          transactionEffectRoot := effectRoot
          readonlyL1Root := inputContext
          daCommitment := zero32
          effectCommitment := settlementRoot }
      pre
      post
      readonlyL1Root := readonlyRoot
      pages }
  let commitment ← okOr (daCommitment env artifact) .encoding
  return { artifact with checkpoint := { artifact.checkpoint with daCommitment := commitment } }

/-- **The binding hash**: the header and the openings of its two roots. -/
def checkpointBindingHashV2 (header : CheckpointCommitmentV1) (pre post : StateRootOpeningV2) :
    Except ArtifactErrorV2 Hash32 := do
  let encoded ← okOr ((CheckpointCommitmentV1.borsh.pair (openingBorsh.pair openingBorsh)).write
    (header, pre, post)) .encoding
  return env.hashv [ascii "northstar-checkpoint-binding-v2", encoded]

def CheckpointArtifactV2.bindingHash (artifact : CheckpointArtifactV2) :
    Except ArtifactErrorV2 Hash32 :=
  checkpointBindingHashV2 env artifact.checkpoint artifact.pre artifact.post

/-- **Validation**: the artifact is the one of its own pages. -/
def CheckpointArtifactV2.validate (artifact : CheckpointArtifactV2) :
    Except ArtifactErrorV2 Unit := do
  let first ← okOr artifact.pages.head? .invalidBatch
  let expected ← buildCheckpointArtifactV2 env first.preState artifact.checkpoint.erSlot
    (artifact.pages.map DaStepPageV2.transition)
  rejectIf (expected ≠ artifact) .invalidBatch

end Construction

/-! ## What was computed -/

theorem openingCommitment_eq_ok :
    openingCommitment env opening = .ok root ↔ opening.commitment env = .ok root := by
  unfold openingCommitment
  split
  · rename_i hzero
    simp [StateRootOpeningV2.commitment, rejectIf, hzero, bind, Except.bind]
  · cases opening.commitment env <;> simp [Except.mapError]

theorem inputCommitment_eq_ok :
    inputCommitment env input = .ok root ↔ input.commitment env = .ok root := by
  unfold inputCommitment
  cases input.commitment env <;> simp [Except.mapError]

/-- **What steps amount to**: the states between them, and something for each of them in every
list. -/
structure Assembled (env : Env) (start : Assembly) (transitions : List RecordedTransitionV2)
    (assembly : Assembly) : Prop where
  state : transitions.foldlM (fun s t => (t.apply env).on s) start.state = .ok assembly.state
  prestates : ∃ later, assembly.prestates = start.prestates ++ later ∧
    later.length = transitions.length ∧ (transitions ≠ [] → later.head? = some start.state)
  effectLeaves : assembly.effectLeaves.length = start.effectLeaves.length + transitions.length
  readonlyRanges : assembly.readonlyRanges.length = start.readonlyRanges.length + transitions.length
  settlementRanges :
    assembly.settlementRanges.length = start.settlementRanges.length + transitions.length

theorem assembled_of_steps
    (h : (transitions.zipIdx n).foldlM (Assembly.step env) start = .ok assembly) :
    Assembled env start transitions assembly := by
  induction transitions generalizing start n with
  | nil =>
    cases h
    exact ⟨rfl, ⟨[], by simp, rfl, fun h => absurd rfl h⟩, rfl, rfl, rfl⟩
  | cons transition transitions ih =>
    rw [List.zipIdx_cons, List.foldlM_cons, bind_eq_ok] at h
    obtain ⟨next, hstep, hrest⟩ := h
    have hlater := ih hrest
    simp only [Assembly.step, chain_ok, stating_eq_ok, exists_and_left] at hstep
    obtain ⟨-, state, happly, root, -, input, -, encoded, -, -, leaf, -, leaves, -, rfl⟩ := hstep
    obtain ⟨later, hprestates, hlength, -⟩ := hlater.prestates
    refine ⟨?_, ⟨start.state :: later, ?_, ?_, fun _ => rfl⟩, ?_, ?_, ?_⟩
    · rw [List.foldlM_cons, bind_eq_ok]
      exact ⟨state, happly, hlater.state⟩
    · rw [hprestates, List.append_assoc]
      rfl
    · rw [List.length_cons, List.length_cons, hlength]
    · rw [hlater.effectLeaves, List.length_append, List.length_singleton, List.length_cons]
      omega
    · rw [hlater.readonlyRanges, List.length_append, List.length_singleton, List.length_cons]
      omega
    · rw [hlater.settlementRanges, List.length_append, List.length_singleton, List.length_cons]
      omega

/-- The pages are those of the steps, each with the state before it. -/
theorem pages_eq {assembly : Assembly} {pages : List DaStepPageV2}
    (hprestates : assembly.prestates.length = transitions.length)
    (heffects : assembly.effectLeaves.length = transitions.length)
    (hreadonly : assembly.readonlyRanges.length = transitions.length)
    (hsettlement : assembly.settlementRanges.length = transitions.length)
    (h : assembly.pages env transitions = some pages) :
    pages.map (fun page => (page.preState, page.transition)) =
      assembly.prestates.zip transitions := by
  have hmap := map_of_mapM (g := fun page => (page.preState, page.transition))
    (h := fun entry => entry.1.1) ?_ h
  · have hcompose : (fun entry : ((CommittedStateV2 × RecordedTransitionV2) × Hash32 × List Nat ×
        List Nat) × Nat => entry.1.1) = Prod.fst ∘ Prod.fst := rfl
    rw [hmap, hcompose, ← List.map_map, List.zipIdx_map_fst]
    apply List.map_fst_zip
    simp only [List.length_zip]
    omega
  · rintro ⟨⟨⟨preState, transition⟩, effectLeaf, readonlyRange, settlementRange⟩, position⟩ page
      hpage
    simp only [Assembly.page, chain_some] at hpage
    obtain ⟨-, -, -, -, -, -, -, -, -, -, rfl⟩ := hpage
    rfl

/-- **A successful construction.** -/
structure Built (env : Env) (base : CommittedStateV2) (erSlot : UInt64)
    (transitions : List RecordedTransitionV2) (artifact : CheckpointArtifactV2) : Prop where
  batch : CanonicalBatch erSlot transitions
  pre : base.opening env = .ok artifact.pre
  post : ∃ final, transitions.foldlM (fun s t => (t.apply env).on s) base = .ok final ∧
    final.opening env = .ok artifact.post
  previousStateRoot : artifact.pre.commitment env = .ok artifact.checkpoint.previousStateRoot
  newStateRoot : artifact.post.commitment env = .ok artifact.checkpoint.newStateRoot
  input : (artifactInput artifact.pre artifact.post artifact.readonlyL1Root).commitment env =
    .ok artifact.checkpoint.readonlyL1Root
  version : artifact.checkpoint.version = 2
  session : artifact.checkpoint.session = base.identity.session
  erSlot : artifact.checkpoint.erSlot = erSlot
  stepCount : artifact.checkpoint.stepCount = UInt32.ofNat transitions.length
  pages : artifact.pages.map DaStepPageV2.transition = transitions
  first : artifact.pages.head?.map DaStepPageV2.preState = some base
  commitment : daCommitment env
    { artifact with checkpoint := { artifact.checkpoint with daCommitment := zero32 } } =
      some artifact.checkpoint.daCommitment

theorem built_of_ok (h : buildCheckpointArtifactV2 env base erSlot transitions = .ok artifact) :
    Built env base erSlot transitions artifact := by
  simp only [buildCheckpointArtifactV2, chain_ok, stating_eq_ok, committing_eq_ok,
    openingCommitment_eq_ok, inputCommitment_eq_ok, exists_and_left] at h
  obtain ⟨hbatch, pre, hpre, assembly, hassemble, post, hpost, traceRoot, -, effectRoot, -,
    readonlyRoot, -, settlementRoot, -, inputContext, hinput, pages, hpages, encoded, -, -,
    previousStateRoot, hprevious, newStateRoot, hnew, commitment, hcommitment, rfl⟩ := h
  simp only [assemble, bind_eq_ok] at hassemble
  obtain ⟨root, -, hassemble⟩ := hassemble
  have hassembled := assembled_of_steps hassemble
  obtain ⟨prestates, hprestates, hlength, hhead⟩ := hassembled.prestates
  rw [List.nil_append] at hprestates
  have heq := pages_eq (hprestates ▸ hlength)
    (hassembled.effectLeaves.trans (Nat.zero_add _))
    (hassembled.readonlyRanges.trans (Nat.zero_add _))
    (hassembled.settlementRanges.trans (Nat.zero_add _)) hpages
  refine ⟨hbatch, hpre, ⟨assembly.state, hassembled.state, hpost⟩, hprevious, hnew, hinput, rfl,
    rfl, rfl, rfl, ?_, ?_, hcommitment⟩
  · -- the transitions of the pages are the second components
    have hsnd := congrArg (List.map Prod.snd) heq
    rw [List.map_map, List.map_snd_zip (hprestates ▸ hlength.ge)] at hsnd
    exact hsnd
  · -- and the first state is the base
    have hfst := congrArg (List.map Prod.fst) heq
    rw [List.map_map, List.map_fst_zip (hprestates ▸ hlength.le), hprestates] at hfst
    have hfirst := congrArg List.head? hfst
    rw [List.head?_map, hhead hbatch.1] at hfirst
    exact hfirst

/-- **A built artifact validates.** -/
theorem validate_of_build
    (h : buildCheckpointArtifactV2 env base erSlot transitions = .ok artifact) :
    artifact.validate env = .ok () := by
  have hbuilt := built_of_ok h
  obtain ⟨page, hpage, hbase⟩ := Option.map_eq_some_iff.mp hbuilt.first
  simp only [CheckpointArtifactV2.validate, bind_eq_ok, okOr_eq_ok, rejectIf_eq_ok]
  refine ⟨page, hpage, artifact, ?_, not_not.mpr rfl⟩
  rw [hbase, hbuilt.erSlot, hbuilt.pages, h]

/-- A validated artifact is the one of its pages. -/
theorem build_of_validate (h : artifact.validate env = .ok ()) : ∃ base,
    artifact.pages.head?.map DaStepPageV2.preState = some base ∧
    buildCheckpointArtifactV2 env base artifact.checkpoint.erSlot
      (artifact.pages.map DaStepPageV2.transition) = .ok artifact := by
  simp only [CheckpointArtifactV2.validate, chain_ok] at h
  obtain ⟨page, hpage, expected, hexpected, rfl⟩ := h
  exact ⟨page.preState, by rw [hpage]; rfl, hexpected⟩

/-- **Validation accepts what construction builds**, and an artifact is built in one way. -/
theorem validate_iff_built (env : Env) (artifact : CheckpointArtifactV2) :
    artifact.validate env = .ok () ↔ ∃! p : CommittedStateV2 × UInt64 × List RecordedTransitionV2,
      buildCheckpointArtifactV2 env p.1 p.2.1 p.2.2 = .ok artifact := by
  constructor
  · intro h
    obtain ⟨base, hbase, hbuild⟩ := build_of_validate h
    refine ⟨⟨base, _, _⟩, hbuild, fun p hp => ?_⟩
    have hbuilt := built_of_ok hp
    rw [hbuilt.first, Option.some.injEq] at hbase
    exact Prod.ext hbase (Prod.ext hbuilt.erSlot.symm hbuilt.pages.symm)
  · rintro ⟨p, hp, -⟩
    exact validate_of_build hp

end Northstar.Runtime
