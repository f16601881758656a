import Northstar.Portal.Authentication
import Northstar.Proof.Witness

/-!
# Binding a step to its checkpoint

A step is proved against the checkpoint it belongs to. The prover opens the whole state
before and after the step, derives the effect of the transaction from the accounts it left
behind, and checks that the states differ by that effect only; transaction effect, readonly
values and settlement effects are checked against the roots of the checkpoint.
-/

namespace Northstar.Proof

open Bytes Checked Northstar.Portal

variable (sha256 : Digest)

/-! ## States -/

/-- An account as the state holds it. -/
def stateAccount (account : AccountWitnessV1) : StateAccountValueV1 :=
  { account := account.key
    owner := account.owner
    lamports := account.lamports
    executable := account.executable
    rentEpoch := account.rentEpoch
    dataHash := sha256 account.data }

/-- Every entry comes before the next one. -/
def ascending {α : Type} (order : α → List (List Nat)) : List α → Bool
  | a :: b :: rest => decide (order a < order b) && ascending order (b :: rest)
  | _ => true

/-- The accounts of a state ascend, and none has hash zero. -/
def stateAccountsAreCanonical (accounts : List StateAccountValueV1) : Bool :=
  (accounts.all fun account => account.dataHash ≠ zero32) &&
    ascending StateAccountValueV1.order accounts

/-- What the leaf of an account is hashed from. -/
def stateLeafString (index : Nat) (account : StateAccountValueV1) : List UInt8 :=
  typedString .state (ascii "leaf") (le 4 index ++ account.bytes)

/-- The leaves of a state. -/
def stateLeaves (accounts : List StateAccountValueV1) : List Hash32 :=
  accounts.mapIdx fun index account => sha256 (stateLeafString index account)

/-- **The root of a state.** -/
def stateRoot (accounts : List StateAccountValueV1) : Option Hash32 :=
  if stateAccountsAreCanonical accounts = true then
    merkleRoot sha256 .state (stateLeaves sha256 accounts)
  else none

/-- A state as a map: of two entries for one account the later one counts. -/
def stateMap (accounts : List StateAccountValueV1) (key : Pubkey) : Option StateAccountValueV1 :=
  accounts.reverse.find? (·.account = key)

/-- **The two states differ by the effects only**, and the accounts that the transaction was
executed on are those of the state before. -/
def validateStateTransition (pre post : List StateAccountValueV1)
    (effects : List CheckpointAccountEffectV1) (executionPre : List AccountWitnessV1) :
    Except ReplayError Unit := do
  let effectKeys := effects.map (·.value.account)
  rejectIf (¬effectKeys.Nodup) .commitment
  rejectIf (∃ account ∈ executionPre,
    stateMap pre account.key ≠ some (stateAccount sha256 account)) .commitment
  rejectIf (∃ key ∈ pre.map (·.account) ++ post.map (·.account),
    stateMap pre key ≠ stateMap post key ∧ key ∉ effectKeys) .commitment
  rejectIf (∃ effect ∈ effects,
    if effect.deleted = true then
      effect.value.lamports ≠ 0 ∨ stateMap post effect.value.account ≠ none
    else stateMap post effect.value.account ≠ some effect.value) .commitment

/-! ## Effects -/

/-- The effects that the accounts after the transaction amount to, by account. Accounts
without lamports are deleted. -/
def expectedEffects (stepIndex : UInt32) (postAccounts : List AccountWitnessV1) :
    List CheckpointAccountEffectV1 :=
  (postAccounts.map fun account =>
    ({ stepIndex, value := stateAccount sha256 account, deleted := account.lamports == 0 } :
      CheckpointAccountEffectV1)).insertionSort
    fun a b => a.value.account.toList.map UInt8.toNat ≤ b.value.account.toList.map UInt8.toNat

/-- A byte string with its length in front, if the length fits. -/
def sizedBytes (bytes : List UInt8) : Option (List UInt8) :=
  if bytes.length < 2 ^ 32 then some (le 4 bytes.length ++ bytes) else none

/-- The leaf of a transaction and its effect. -/
def transactionEffectLeafHash (index : UInt32) (transaction transactionEffect : List UInt8) :
    Option Hash32 := do
  let transaction ← sizedBytes transaction
  let transactionEffect ← sizedBytes transactionEffect
  return project (typedHash sha256 .transactionEffect (ascii "leaf")
    (le32 index ++ (transaction ++ transactionEffect)))

/-- The leaf of a readonly value. -/
def readonlyLeafHash (globalIndex stepIndex valueIndex : UInt32) (value : ReadonlyL1ValueV1) :
    Hash32 :=
  typedHash sha256 .readonlyL1 (ascii "leaf")
    (le32 globalIndex ++ (le32 stepIndex ++ (le32 valueIndex ++ value.bytes)))

/-- The leaf of a settlement effect. -/
def settlementLeafHash (globalIndex stepIndex effectIndex : UInt32) (effect : List UInt8) :
    Option Hash32 := do
  let effect ← sizedBytes effect
  return typedHash sha256 .settlementEffect (ascii "leaf")
    (le32 globalIndex ++ (le32 stepIndex ++ (le32 effectIndex ++ effect)))

/-! ## Values under the roots -/

/-- The readonly accounts as they were observed. -/
def expectedReadonly (w : ReplayWitnessV1) : List ReadonlyL1ValueV1 :=
  (w.readonlyAccounts.map fun account =>
    ({ account := account.key
       owner := account.owner
       lamports := account.lamports
       dataHash := sha256 account.data
       observedL1Slot := w.runtime.slot } : ReadonlyL1ValueV1)).insertionSort
    fun a b => a.order ≤ b.order

/-- The authenticated values are the expected ones, in order, each under the root. -/
def readonlyMatches (root : Hash32) (stepIndex : UInt32) :
    (valueIndex : Nat) → List AuthenticatedReadonlyL1ValueV1 → List ReadonlyL1ValueV1 → Bool
  | valueIndex, authenticated :: more, expected :: rest =>
    decide (valueIndex < 2 ^ 32) && authenticated.value == expected &&
      authenticated.valueIndex.toNat == valueIndex &&
      authenticated.path.leafIndex == authenticated.globalIndex &&
      verifyPath sha256 .readonlyL1 authenticated.path
        (readonlyLeafHash sha256 authenticated.globalIndex stepIndex authenticated.valueIndex
          expected) root &&
      readonlyMatches root stepIndex (valueIndex + 1) more rest
  | _, _, _ => true

/-- The readonly values are those under the root. -/
def validateReadonlyValues (w : ReplayWitnessV1) (stepIndex : UInt32) : Except ReplayError Unit :=
  let expected := expectedReadonly sha256 w
  if w.checkpoint.readonlyL1Values.length ≠ expected.length then .error .commitment
  else if expected = [] then
    rejectIf (some w.checkpoint.readonlyL1Root ≠ merkleRoot sha256 .readonlyL1 []) .commitment
  else
    rejectIf (readonlyMatches sha256 w.checkpoint.readonlyL1Root stepIndex 0
      w.checkpoint.readonlyL1Values expected = false) .commitment

/-- The authenticated effects are those of the step, in order, each under the root. -/
def settlementMatches (root : Hash32) (stepIndex : UInt32) :
    (effectIndex : Nat) → List AuthenticatedSettlementEffectV1 →
      List CheckpointAccountEffectV1 → Bool
  | effectIndex, authenticated :: more, effect :: rest =>
    decide (effectIndex < 2 ^ 32) && authenticated.effect == effect.bytes &&
      authenticated.effectIndex.toNat == effectIndex &&
      authenticated.path.leafIndex == authenticated.globalIndex &&
      (match settlementLeafHash sha256 authenticated.globalIndex stepIndex
          authenticated.effectIndex effect.bytes with
        | some leaf => verifyPath sha256 .settlementEffect authenticated.path leaf root
        | none => false) &&
      settlementMatches root stepIndex (effectIndex + 1) more rest
  | _, _, _ => true

/-- The effects are those under the root. -/
def validateSettlementEffects (w : ReplayWitnessV1) (stepIndex : UInt32)
    (effects : List CheckpointAccountEffectV1) : Except ReplayError Unit :=
  if w.checkpoint.settlementEffects.length ≠ effects.length then .error .commitment
  else if effects = [] then
    rejectIf (some w.checkpoint.settlementEffectRoot ≠ merkleRoot sha256 .settlementEffect [])
      .commitment
  else
    rejectIf (settlementMatches sha256 w.checkpoint.settlementEffectRoot stepIndex 0
      w.checkpoint.settlementEffects effects = false) .commitment

/-! ## The check -/

/-- What the proof of a step is checked against. -/
structure CheckpointPublicInputsV1 where
  preStateRoot : Hash32
  postStateRoot : Hash32
  transactionEffectCommitment : Hash32
  readonlyL1Root : Hash32
  settlementEffectRoot : Hash32
  deriving DecidableEq

/-- The steps of a checkpoint. -/
def canonicalCheckpointStepsV1 : UInt32 := 16

/-- **The binding of a step to its checkpoint.** -/
def verifyCheckpointBinding (w : ReplayWitnessV1) :
    Except ReplayError CheckpointPublicInputsV1 := do
  let binding := w.checkpoint
  let stepIndex ← okOr (tryU32 w.stepIndex) .commitment
  let stepCount := binding.transactionEffectPath.leafCount
  rejectIf (stepCount = 0 ∨ canonicalCheckpointStepsV1 < stepCount ∨ stepCount ≤ stepIndex ∨
    stateAccountsAreCanonical binding.preStateAccounts = false ∨
    stateAccountsAreCanonical binding.postStateAccounts = false) .commitment
  let preStateRoot ← okOr (stateRoot sha256 binding.preStateAccounts) .commitment
  let postStateRoot ← okOr (stateRoot sha256 binding.postStateAccounts) .commitment
  let effect ← okOr (CheckpointTransactionEffectV1.parse binding.transactionEffect) .commitment
  rejectIf (effect.bytes ≠ binding.transactionEffect ∨ effect.version ≠ 1 ∨
    effect.stepIndex ≠ stepIndex ∨ effect.transactionHash ≠ sha256 w.transactionBytes ∨
    effect.executedUnits ≠ w.result.executedUnits) .commitment
  rejectIf (effect.accountEffects ≠ expectedEffects sha256 stepIndex w.postAccounts) .commitment
  validateStateTransition sha256 binding.preStateAccounts binding.postStateAccounts
    effect.accountEffects w.preAccounts
  let transactionEffectCommitment ← okOr (transactionEffectLeafHash sha256 stepIndex
    w.transactionBytes binding.transactionEffect) .commitment
  rejectIf (binding.transactionEffectPath.leafIndex ≠ stepIndex ∨
    verifyPath sha256 .transactionEffect binding.transactionEffectPath
      transactionEffectCommitment binding.checkpointTransactionEffectRoot = false) .commitment
  validateReadonlyValues sha256 w stepIndex
  validateSettlementEffects sha256 w stepIndex effect.accountEffects
  return {
    preStateRoot
    postStateRoot
    transactionEffectCommitment
    readonlyL1Root := binding.readonlyL1Root
    settlementEffectRoot := binding.settlementEffectRoot }

variable {sha256}

/-- What the transition between two states was checked for. -/
structure TransitionChecks (sha256 : Digest) (pre post : List StateAccountValueV1)
    (effects : List CheckpointAccountEffectV1) (executionPre : List AccountWitnessV1) : Prop where
  nodup : (effects.map (·.value.account)).Nodup
  executed : ∀ account ∈ executionPre, stateMap pre account.key = some (stateAccount sha256 account)
  kept : ∀ key ∈ pre.map (·.account) ++ post.map (·.account),
    key ∉ effects.map (·.value.account) → stateMap pre key = stateMap post key
  deleted : ∀ e ∈ effects, e.deleted = true →
    e.value.lamports = 0 ∧ stateMap post e.value.account = none
  written : ∀ e ∈ effects, e.deleted = false → stateMap post e.value.account = some e.value

theorem validateStateTransition_eq_ok :
    validateStateTransition sha256 pre post effects executionPre = .ok () ↔
      TransitionChecks sha256 pre post effects executionPre := by
  simp only [validateStateTransition, chain_ok]
  constructor
  · rintro ⟨hnodup, hexecuted, hkept, heffects⟩
    refine ⟨hnodup, ?_, ?_, ?_, ?_⟩
    · intro account haccount
      by_contra hne
      exact hexecuted ⟨account, haccount, hne⟩
    · intro key hkey hnot
      by_contra hne
      exact hkept ⟨key, hkey, hne, hnot⟩
    · intro e he hdeleted
      by_contra hne
      refine heffects ⟨e, he, ?_⟩
      rw [if_pos hdeleted]
      rwa [not_and_or] at hne
    · intro e he hdeleted
      by_contra hne
      refine heffects ⟨e, he, ?_⟩
      rwa [if_neg (by simp [hdeleted])]
  · intro h
    refine ⟨h.nodup, ?_, ?_, ?_⟩
    · rintro ⟨account, haccount, hne⟩
      exact hne (h.executed account haccount)
    · rintro ⟨key, hkey, hne, hnot⟩
      exact hne (h.kept key hkey hnot)
    · rintro ⟨e, he, hbad⟩
      split at hbad
      · rename_i hdeleted
        obtain ⟨hzero, hnone⟩ := h.deleted e he hdeleted
        exact hbad.elim (fun hne => hne hzero) (fun hne => hne hnone)
      · rename_i hdeleted
        exact hbad (h.written e he (by simpa using hdeleted))

/-- What a step was checked for. -/
structure BindingChecks (sha256 : Digest) (w : ReplayWitnessV1) (inputs : CheckpointPublicInputsV1)
    (stepIndex : UInt32) (effect : CheckpointTransactionEffectV1) : Prop where
  stepIndex_eq : tryU32 w.stepIndex = some stepIndex
  steps : w.checkpoint.transactionEffectPath.leafCount ≠ 0 ∧
    w.checkpoint.transactionEffectPath.leafCount ≤ canonicalCheckpointStepsV1 ∧
    stepIndex < w.checkpoint.transactionEffectPath.leafCount
  pre_canonical : stateAccountsAreCanonical w.checkpoint.preStateAccounts = true
  post_canonical : stateAccountsAreCanonical w.checkpoint.postStateAccounts = true
  pre_root : stateRoot sha256 w.checkpoint.preStateAccounts = some inputs.preStateRoot
  post_root : stateRoot sha256 w.checkpoint.postStateAccounts = some inputs.postStateRoot
  parsed : CheckpointTransactionEffectV1.parse w.checkpoint.transactionEffect = some effect
  encoded : effect.bytes = w.checkpoint.transactionEffect
  effect_eq : effect =
    { version := 1, stepIndex, transactionHash := sha256 w.transactionBytes
      executedUnits := w.result.executedUnits
      accountEffects := expectedEffects sha256 stepIndex w.postAccounts }
  transition : TransitionChecks sha256 w.checkpoint.preStateAccounts
    w.checkpoint.postStateAccounts effect.accountEffects w.preAccounts
  leaf : transactionEffectLeafHash sha256 stepIndex w.transactionBytes
    w.checkpoint.transactionEffect = some inputs.transactionEffectCommitment
  leafIndex : w.checkpoint.transactionEffectPath.leafIndex = stepIndex
  path : verifyPath sha256 .transactionEffect w.checkpoint.transactionEffectPath
    inputs.transactionEffectCommitment w.checkpoint.checkpointTransactionEffectRoot = true
  readonly : validateReadonlyValues sha256 w stepIndex = .ok ()
  settlement : validateSettlementEffects sha256 w stepIndex effect.accountEffects = .ok ()
  readonlyL1Root : inputs.readonlyL1Root = w.checkpoint.readonlyL1Root
  settlementEffectRoot : inputs.settlementEffectRoot = w.checkpoint.settlementEffectRoot

theorem verifyCheckpointBinding_ok (h : verifyCheckpointBinding sha256 w = .ok inputs) :
    ∃ stepIndex effect, BindingChecks sha256 w inputs stepIndex effect := by
  simp only [verifyCheckpointBinding, chain_ok, exists_and_left, not_or] at h
  obtain ⟨stepIndex, hindex, ⟨hzero, hcount, hlt, hpre, hpost⟩, preRoot, hpreRoot, postRoot,
    hpostRoot, effect, hparse, ⟨hencoded, hversion, hstep, hhash, hunits⟩, heffects, ⟨⟩,
    htransition, leaf, hleaf, ⟨hleafIndex, hpath⟩, ⟨⟩, hreadonly, ⟨⟩, hsettlement, rfl⟩ := h
  refine ⟨stepIndex, effect, ?_⟩
  rw [Bool.not_eq_false] at hpre hpost hpath
  refine ⟨hindex, ⟨hzero, UInt32.not_lt.mp hcount, UInt32.not_le.mp hlt⟩, hpre, hpost, hpreRoot,
    hpostRoot, hparse, hencoded, ?_, validateStateTransition_eq_ok.mp htransition, hleaf,
    hleafIndex, hpath, hreadonly, hsettlement, rfl, rfl⟩
  rcases effect with ⟨version, index, hash, units, effects⟩
  obtain rfl : version = 1 := hversion
  obtain rfl : index = stepIndex := hstep
  obtain rfl : hash = sha256 w.transactionBytes := hhash
  obtain rfl : units = w.result.executedUnits := hunits
  rw [show effects = expectedEffects sha256 index w.postAccounts from heffects]

end Northstar.Proof
