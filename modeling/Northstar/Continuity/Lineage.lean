import Northstar.Continuity.Artifact
import Northstar.Runtime.Plan

/-!
# The lineage store

The validator keeps its accepted state, the steps recorded since then and the checkpoint it
is waiting for in a capsule, which is written out as a whole before it takes effect. Steps are
recorded until a checkpoint is sealed over them. The sealed checkpoint is accepted when its head is
found on the L1, and dropped when its settlement is.

## Main results

* `workingState_eq_ok`: what the capsule was checked for
* `commit_iff`: a checked capsule takes effect where there is room for it
-/

namespace Northstar.Runtime

open Northstar.Portal Bytes Checked

/-- The kinds of failures. -/
inductive IoErrorKind
  | invalidData
  | other
  deriving DecidableEq

/-- A failure that marks data as invalid. -/
def invalidOr {ε α : Type} (result : Except ε α) : Except IoErrorKind α :=
  result.mapError fun _ => .invalidData

@[simp] theorem invalidOr_eq_ok {ε α : Type} {result : Except ε α} {a : α} :
    invalidOr result = .ok a ↔ result = .ok a := by
  cases result <;> simp [invalidOr, Except.mapError]

/-! ## Capsules -/

/-- **The head** of the checkpoints accepted on the L1. -/
structure L1CheckpointHeadV2 where
  checkpoint : Hash32
  erSlot : UInt64
  stateRoot : Hash32
  checkpointHash : Hash32
  deriving DecidableEq

/-- **A sealed checkpoint**: its artifact, with the state and the steps it was made of. -/
structure SealedCheckpointV2 where
  checkpoint : Hash32
  erSlot : UInt64
  artifact : CheckpointArtifactV2
  artifactHash : Hash32
  checkpointHash : Hash32
  base : CommittedStateV2
  transitions : List RecordedTransitionV2
  settlementPlan : Option SettlementPlan
  accepted : Bool
  deriving DecidableEq

/-- **The capsule.** -/
structure LineageCapsuleV2 where
  version : UInt16
  sequence : UInt64
  acceptedState : CommittedStateV2
  acceptedHead : Option L1CheckpointHeadV2
  unsealed : List RecordedTransitionV2
  sealed : Option SealedCheckpointV2
  processedTransactions : KeyMap (UInt64 × List UInt8)

section Capsules

variable (env : Env)

/-- The steps, one after another. -/
def applyTransitions (transitions : List RecordedTransitionV2) (s : CommittedStateV2) :
    Except StateErrorV2 CommittedStateV2 :=
  transitions.foldlM (fun s transition => (transition.apply env).on s) s

/-- The hash of an artifact as it is stored. -/
def storedArtifactHash (artifact : CheckpointArtifactV2) : Option Hash32 :=
  (CheckpointArtifactV2.borsh.write artifact).map fun encoded => env.hashv [encoded]

/-- The plan is for the slot, has the checksum it says, and is not too long. -/
def validPlan (plan : SettlementPlan) (erSlot : UInt64) : Prop :=
  plan.encodedLength ≤ 1048576 ∧ plan.erSlot = erSlot ∧ plan.recomputedChecksum env = plan.checksum
  deriving Decidable

/-- Every retained transaction is stored under its hash. -/
def validRetained (processed : KeyMap (UInt64 × List UInt8)) : Prop :=
  processed.size ≤ 65536 ∧ ∀ entry ∈ processed.toList, entry.2.1 ≠ 0 ∧ entry.2.2 ≠ [] ∧
    entry.2.2.length ≤ 1232 ∧ env.hashv [entry.2.2] = entry.1
  deriving Decidable

/-- The artifact is that of the retained steps. -/
def SealedCheckpointV2.Matches (s : SealedCheckpointV2) : Prop :=
  s.transitions ≠ [] ∧ s.transitions.length ≤ 16 ∧
    storedArtifactHash env s.artifact = some s.artifactHash ∧
    s.artifact.validate env = .ok () ∧ s.artifact.bindingHash env = .ok s.checkpointHash ∧
    s.artifact.checkpoint.erSlot = s.erSlot ∧
    s.artifact.pages.head?.map DaStepPageV2.preState = some s.base ∧
    s.artifact.pages.map DaStepPageV2.transition = s.transitions ∧
    ∀ plan ∈ s.settlementPlan, validPlan env plan s.erSlot
  deriving Decidable

/-- The state with the sealed checkpoint, when it is not accepted yet. -/
def LineageCapsuleV2.afterSealed (c : LineageCapsuleV2) : Except IoErrorKind CommittedStateV2 :=
  match c.sealed with
  | none => .ok c.acceptedState
  | some s => do
    rejectIf (c.unsealed ≠ [] ∨ ¬s.Matches env) .invalidData
    let result ← invalidOr (applyTransitions env s.transitions s.base)
    if s.accepted = true then do
      rejectIf (result ≠ c.acceptedState) .invalidData
      return c.acceptedState
    else do
      rejectIf (s.base ≠ c.acceptedState) .invalidData
      return result

/-- Steps after an accepted checkpoint have later slots. -/
def LineageCapsuleV2.Advances (c : LineageCapsuleV2) : Prop :=
  ∀ head ∈ c.acceptedHead, ∀ transition ∈ c.unsealed, head.erSlot < transition.erSlot
  deriving Decidable

/-- The accepted state is the one of the head, or empty when there is none. -/
def LineageCapsuleV2.requireHead (c : LineageCapsuleV2) : Except IoErrorKind Unit :=
  match c.acceptedHead with
  | some head => do
    let root ← invalidOr (c.acceptedState.root env)
    rejectIf (root ≠ head.stateRoot) .invalidData
  | none => do
    let start ← invalidOr (CommittedStateV2.new env c.acceptedState.identity)
    rejectIf (c.acceptedState ≠ start) .invalidData

/-- **The working state**: the accepted state with all steps recorded since then. The capsule
is checked along the way. -/
def LineageCapsuleV2.workingState (c : LineageCapsuleV2) : Except IoErrorKind CommittedStateV2 := do
  rejectIf (c.version ≠ 3) .invalidData
  rejectIf (¬validRetained env c.processedTransactions) .invalidData
  let state ← c.afterSealed env
  rejectIf (16 < c.unsealed.length) .invalidData
  rejectIf (¬c.Advances) .invalidData
  let state ← invalidOr (applyTransitions env c.unsealed state)
  match c.unsealed.getLast? with
  | some last => do
    let _ ← invalidOr (buildCheckpointArtifactV2 env c.acceptedState last.erSlot c.unsealed)
    c.requireHead env
    return state
  | none => do
    c.requireHead env
    return state

end Capsules

/-- The capsule of a session that has no steps yet. -/
def LineageCapsuleV2.empty (state : CommittedStateV2) : LineageCapsuleV2 :=
  { version := 3
    sequence := 0
    acceptedState := state
    acceptedHead := none
    unsealed := []
    sealed := none
    processedTransactions := ∅ }

/-! ### Sizes -/

/-- The bytes of a sealed checkpoint. -/
def SealedCheckpointV2.encodedLength (s : SealedCheckpointV2) : Option Nat := do
  let artifact ← CheckpointArtifactV2.borsh.write s.artifact
  let base ← CommittedStateV2.borsh.write s.base
  let transitions ← RecordedTransitionV2.borsh.list.write s.transitions
  let plan := s.settlementPlan.elim 0 fun plan => 4 + plan.encodedLength
  return 32 + 8 + (4 + artifact.length) + 32 + 32 + base.length + transitions.length +
    (1 + plan) + 1

/-- The bytes of a capsule. -/
def LineageCapsuleV2.encodedLength (c : LineageCapsuleV2) : Option Nat := do
  let state ← CommittedStateV2.borsh.write c.acceptedState
  let unsealed ← RecordedTransitionV2.borsh.list.write c.unsealed
  let sealed ← c.sealed.elim (some 0) SealedCheckpointV2.encodedLength
  let head := c.acceptedHead.elim 0 fun _ => 104
  let processed := TreeMaps.weigh (fun entry => 32 + 8 + (4 + entry.2.length))
    c.processedTransactions
  return 2 + 8 + state.length + (1 + head) + unsealed.length + (1 + sealed) + (4 + processed)

/-- **The capsule fits**: it can be encoded, and is not too long to be written out. -/
def LineageCapsuleV2.fits (c : LineageCapsuleV2) : Bool :=
  c.encodedLength.any (· ≤ 67108864 - 32)

/-! ## The store -/

structure CheckpointLineageStoreV2 where
  capsule : LineageCapsuleV2
  poisoned : Bool

section Store

-- whether the disk takes a capsule that fits is for the file system to say
variable (env : Env) (persists : LineageCapsuleV2 → Bool)

/-- **Writing a capsule out.** One that is too long never reaches the disk. -/
def LineageCapsuleV2.install (c : LineageCapsuleV2) : Except IoErrorKind Unit := do
  rejectIf (c.fits = false) .invalidData
  rejectIf (persists c = false) .other

/-- **A capsule takes effect** once it is checked and written out. If it cannot be written out,
the store is poisoned. -/
def CheckpointLineageStoreV2.commit (store : CheckpointLineageStoreV2) (next : LineageCapsuleV2) :
    Except IoErrorKind Unit × CheckpointLineageStoreV2 :=
  if store.poisoned = true then (.error .other, store)
  else
    match checkedAdd store.capsule.sequence 1 with
    | none => (.error .invalidData, store)
    | some sequence =>
      let next := { next with sequence }
      match next.workingState env with
      | .error error => (.error error, store)
      | .ok _ =>
        match next.install persists with
        | .error error => (.error error, { store with poisoned := true })
        | .ok _ => (.ok (), { store with capsule := next })

/-- The operation of the store that replaces its capsule by what was prepared. -/
def CheckpointLineageStoreV2.update (store : CheckpointLineageStoreV2)
    (prepared : Except IoErrorKind LineageCapsuleV2) :
    Except IoErrorKind Unit × CheckpointLineageStoreV2 :=
  match prepared with
  | .error error => (.error error, store)
  | .ok next => store.commit env persists next

/-! ### Checkpoints -/

def LineageCapsuleV2.sealing (c : LineageCapsuleV2) (checkpoint : Hash32) (erSlot : UInt64)
    (artifact : CheckpointArtifactV2) : Except IoErrorKind LineageCapsuleV2 := do
  rejectIf (c.sealed ≠ none ∨ c.unsealed = [] ∨ checkpoint = zero32 ∨ erSlot = 0 ∨
    ∃ head ∈ c.acceptedHead, erSlot ≤ head.erSlot) .invalidData
  invalidOr (artifact.validate env)
  rejectIf (artifact.checkpoint.erSlot ≠ erSlot ∨
    artifact.checkpoint.session ≠ c.acceptedState.identity.session) .invalidData
  let checkpointHash ← invalidOr (artifact.bindingHash env)
  let artifactHash ← okOr (storedArtifactHash env artifact) .invalidData
  return { c with
    unsealed := []
    sealed := some
      { checkpoint
        erSlot
        artifact
        artifactHash
        checkpointHash
        base := c.acceptedState
        transitions := c.unsealed
        settlementPlan := none
        accepted := false } }

/-- **Sealing a checkpoint** over the recorded steps. -/
def CheckpointLineageStoreV2.seal (store : CheckpointLineageStoreV2) (checkpoint : Hash32)
    (erSlot : UInt64) (artifact : CheckpointArtifactV2) :
    Except IoErrorKind Unit × CheckpointLineageStoreV2 :=
  store.update env persists (store.capsule.sealing env checkpoint erSlot artifact)

def LineageCapsuleV2.accepting (c : LineageCapsuleV2) (head : L1CheckpointHeadV2) :
    Except IoErrorKind LineageCapsuleV2 := do
  let state ← c.workingState env
  let s ← okOr c.sealed .invalidData
  let root ← invalidOr (state.root env)
  rejectIf (s.accepted = true ∨ s.checkpoint ≠ head.checkpoint ∨ s.erSlot ≠ head.erSlot ∨
    s.checkpointHash ≠ head.checkpointHash ∨ root ≠ head.stateRoot) .invalidData
  return { c with
    acceptedState := state
    acceptedHead := some head
    sealed := some { s with accepted := true } }

/-- **Accepting the sealed checkpoint** when its head is found on the L1. -/
def CheckpointLineageStoreV2.recordAccepted (store : CheckpointLineageStoreV2)
    (head : L1CheckpointHeadV2) : Except IoErrorKind Unit × CheckpointLineageStoreV2 :=
  if store.capsule.acceptedHead = some head then (.ok (), store)
  else store.update env persists (store.capsule.accepting env head)

end Store

/-! ## Checked capsules -/

section Checks

variable {env : Env} {persists : LineageCapsuleV2 → Bool} {c next : LineageCapsuleV2}
  {store : CheckpointLineageStoreV2} {artifact : CheckpointArtifactV2} {erSlot : UInt64}
  {checkpoint : Hash32} {checkpointHash artifactHash : Hash32}

/-- The checks that do not concern the steps. -/
structure LineageCapsuleV2.WellKept (env : Env) (c : LineageCapsuleV2) : Prop where
  version : c.version = 3
  retained : validRetained env c.processedTransactions
  head : c.requireHead env = .ok ()

/-- **The working state** is that of the recorded steps after the sealed ones. -/
theorem workingState_eq_ok : c.workingState env = .ok w ↔ c.WellKept env ∧
    c.unsealed.length ≤ 16 ∧ c.Advances ∧ ∃ s, c.afterSealed env = .ok s ∧
      applyTransitions env c.unsealed s = .ok w ∧ ∀ last ∈ c.unsealed.getLast?,
        ∃ built, buildCheckpointArtifactV2 env c.acceptedState last.erSlot c.unsealed =
          .ok built := by
  simp only [LineageCapsuleV2.workingState, chain_ok, invalidOr_eq_ok, not_lt]
  constructor
  · rintro ⟨hversion, hretained, s, hsealed, hlength, hadvances, w', happly, hrest⟩
    cases hlast : c.unsealed.getLast? with
    | none =>
      rw [hlast] at hrest
      simp only [chain_ok] at hrest
      obtain ⟨⟨⟩, hhead, rfl⟩ := hrest
      refine ⟨⟨hversion, hretained, hhead⟩, hlength, hadvances, s, hsealed, happly, ?_⟩
      intro last hnone
      cases hnone
    | some last =>
      rw [hlast] at hrest
      simp only [chain_ok, invalidOr_eq_ok] at hrest
      obtain ⟨built, hbuilt, ⟨⟩, hhead, rfl⟩ := hrest
      refine ⟨⟨hversion, hretained, hhead⟩, hlength, hadvances, s, hsealed, happly, ?_⟩
      rintro last' ⟨⟩
      exact ⟨built, hbuilt⟩
  · rintro ⟨⟨hversion, hretained, hhead⟩, hlength, hadvances, s, hsealed, happly, hbuild⟩
    refine ⟨hversion, hretained, s, hsealed, hlength, hadvances, w, happly, ?_⟩
    cases hlast : c.unsealed.getLast? with
    | none =>
      exact bind_eq_ok.mpr ⟨(), hhead, rfl⟩
    | some last =>
      obtain ⟨built, hbuilt⟩ := hbuild last hlast
      exact bind_eq_ok.mpr ⟨built, invalidOr_eq_ok.mpr hbuilt, bind_eq_ok.mpr ⟨(), hhead, rfl⟩⟩

/-- **There is room** for a capsule: a number is left for it, it fits, and the disk takes it. -/
def CheckpointLineageStoreV2.Takes (persists : LineageCapsuleV2 → Bool)
    (store : CheckpointLineageStoreV2) (next : LineageCapsuleV2) : Prop :=
  store.capsule.sequence.toNat + 1 < 2 ^ 64 ∧ next.fits = true ∧
    persists { next with sequence := store.capsule.sequence + 1 } = true
  deriving Decidable

/-- **A checked capsule takes effect** exactly where there is room for it. -/
theorem commit_iff (hpoisoned : store.poisoned = false) (hworking : next.workingState env = .ok w) :
    store.commit env persists next = (.ok (), store') ↔ store.Takes persists next ∧
      store' = { store with capsule := { next with sequence := store.capsule.sequence + 1 } } := by
  have hnext : ({ next with sequence := store.capsule.sequence + 1 } :
      LineageCapsuleV2).workingState env = .ok w := hworking
  have hlength : ({ next with sequence := store.capsule.sequence + 1 } : LineageCapsuleV2).fits =
      next.fits := rfl
  have hfailed {error : IoErrorKind} {left : CheckpointLineageStoreV2} :
      ((.error error, left) : Except IoErrorKind Unit × _) ≠ (.ok (), store') := by simp
  unfold CheckpointLineageStoreV2.Takes CheckpointLineageStoreV2.commit
  rw [if_neg (by simp [hpoisoned])]
  by_cases hsequence : store.capsule.sequence.toNat + 1 < 2 ^ 64
  · have hadd : checkedAdd store.capsule.sequence 1 = some (store.capsule.sequence + 1) :=
      if_pos hsequence
    simp only [hadd, hnext, LineageCapsuleV2.install, hlength, hsequence, true_and]
    cases next.fits with
    | false => exact iff_of_false hfailed fun h => Bool.false_ne_true h.1.1
    | true =>
      cases persists { next with sequence := store.capsule.sequence + 1 } with
      | false => exact iff_of_false hfailed fun h => Bool.false_ne_true h.1.2
      | true =>
        refine Iff.trans ?_ (and_iff_right ⟨rfl, rfl⟩).symm
        exact ⟨fun h => (Prod.mk.inj h).2.symm, fun h => h ▸ rfl⟩
  · have hadd : checkedAdd store.capsule.sequence 1 = none := if_neg hsequence
    rw [hadd]
    exact iff_of_false hfailed fun h => hsequence h.1.1

/-- An artifact whose own commitment was computed can be stored. -/
theorem exists_storedArtifactHash
    (hbuild : buildCheckpointArtifactV2 env c.acceptedState erSlot c.unsealed = .ok artifact) :
    ∃ hash, storedArtifactHash env artifact = some hash := by
  obtain ⟨encoded, hencoded, -⟩ := Option.map_eq_some_iff.mp (built_of_ok hbuild).commitment
  -- the two differ in the header only, whose encoding cannot fail
  obtain ⟨-, -, rest, hrest, -⟩ := Borsh.write_pair.mp hencoded
  obtain ⟨header, hheader⟩ : ∃ x, CheckpointCommitmentV1.borsh.write artifact.checkpoint =
    some x := ⟨_, rfl⟩
  have hstored : CheckpointArtifactV2.borsh.write artifact = some (header ++ rest) :=
    Borsh.write_pair.mpr ⟨header, hheader, rest, hrest, rfl⟩
  exact ⟨_, Option.map_eq_some_iff.mpr ⟨_, hstored, rfl⟩⟩

/-! ### Sealing and accepting -/

/-- The capsule after a checkpoint was sealed over its steps. -/
def LineageCapsuleV2.withSealed (c : LineageCapsuleV2) (checkpoint : Hash32) (erSlot : UInt64)
    (artifact : CheckpointArtifactV2) (artifactHash checkpointHash : Hash32) : LineageCapsuleV2 :=
  { c with
    unsealed := []
    sealed := some
      { checkpoint
        erSlot
        artifact
        artifactHash
        checkpointHash
        base := c.acceptedState
        transitions := c.unsealed
        settlementPlan := none
        accepted := false } }

/-- The slot of the checkpoint comes after the accepted one. -/
theorem lt_of_advances (hworking : c.workingState env = .ok w)
    (hbuild : buildCheckpointArtifactV2 env c.acceptedState erSlot c.unsealed = .ok artifact) :
    ∀ head ∈ c.acceptedHead, head.erSlot < erSlot := by
  intro head hhead
  obtain ⟨-, -, hadvances, -⟩ := workingState_eq_ok.mp hworking
  obtain ⟨hne, -, -, hslots, -⟩ := (built_of_ok hbuild).batch
  obtain ⟨first, hfirst⟩ := List.exists_mem_of_ne_nil _ hne
  exact UInt64.lt_of_lt_of_le (hadvances head hhead first hfirst) (hslots first hfirst)

/-- The steps lead to the working state, whose opening the artifact has. -/
theorem working_of_build (hsealed : c.sealed = none) (hworking : c.workingState env = .ok w)
    (hbuild : buildCheckpointArtifactV2 env c.acceptedState erSlot c.unsealed = .ok artifact) :
    applyTransitions env c.unsealed c.acceptedState = .ok w ∧
      w.opening env = .ok artifact.post := by
  obtain ⟨-, -, -, s, hs, happly, -⟩ := workingState_eq_ok.mp hworking
  rw [LineageCapsuleV2.afterSealed, hsealed] at hs
  cases hs
  obtain ⟨final, hfinal, hopening⟩ := (built_of_ok hbuild).post
  obtain rfl : final = w := Except.ok.inj (hfinal.symm.trans happly)
  exact ⟨happly, hopening⟩

/-- A sealed checkpoint that matches its artifact leads to the state after its steps. -/
theorem afterSealed_of_matches (hsealed : c.sealed = some s) (hunsealed : c.unsealed = [])
    (hmatches : s.Matches env) (happly : applyTransitions env s.transitions s.base = .ok w)
    (hstate : if s.accepted = true then w = c.acceptedState else s.base = c.acceptedState) :
    c.afterSealed env = .ok w := by
  rw [LineageCapsuleV2.afterSealed, hsealed]
  refine bind_eq_ok.mpr ⟨(), rejectIf_eq_ok.mpr ?_, bind_eq_ok.mpr
    ⟨w, invalidOr_eq_ok.mpr happly, ?_⟩⟩
  · rintro (hne | hnot)
    · exact hne hunsealed
    · exact hnot hmatches
  · split at hstate
    · rename_i haccepted
      subst hstate
      rw [if_pos haccepted]
      exact bind_eq_ok.mpr ⟨(), rejectIf_eq_ok.mpr (not_not.mpr rfl), rfl⟩
    · rename_i hpending
      rw [if_neg hpending]
      exact bind_eq_ok.mpr ⟨(), rejectIf_eq_ok.mpr (not_not.mpr hstate), rfl⟩

/-- The checks of a capsule with a sealed checkpoint. -/
theorem workingState_of_sealed (hsealed : c.sealed = some s) :
    c.workingState env = .ok w ↔ c.WellKept env ∧ c.unsealed = [] ∧ s.Matches env ∧
      applyTransitions env s.transitions s.base = .ok w ∧
      if s.accepted = true then w = c.acceptedState else s.base = c.acceptedState := by
  constructor
  · intro h
    obtain ⟨hkept, -, -, s', hs', happly, -⟩ := workingState_eq_ok.mp h
    rw [LineageCapsuleV2.afterSealed, hsealed] at hs'
    simp only [chain_ok, invalidOr_eq_ok, not_or, not_not] at hs'
    obtain ⟨⟨hunsealed, hmatches⟩, result, hresult, hstate⟩ := hs'
    rw [hunsealed] at happly
    obtain rfl : s' = w := Except.ok.inj happly
    split at hstate
    · rename_i haccepted
      simp only [chain_ok, not_not] at hstate
      obtain ⟨rfl, rfl⟩ := hstate
      exact ⟨hkept, hunsealed, hmatches, hresult, by rw [if_pos haccepted]⟩
    · rename_i hpending
      simp only [chain_ok, not_not] at hstate
      obtain ⟨hbase, rfl⟩ := hstate
      exact ⟨hkept, hunsealed, hmatches, hresult, by rw [if_neg hpending, hbase]⟩
  · rintro ⟨hkept, hunsealed, hmatches, happly, hstate⟩
    refine workingState_eq_ok.mpr ⟨hkept, ?_, ?_, w,
      afterSealed_of_matches hsealed hunsealed hmatches happly hstate, ?_, ?_⟩
    · simp [hunsealed]
    · rintro head - transition hmem
      rw [hunsealed] at hmem
      cases hmem
    · rw [hunsealed]
      rfl
    · rintro last hlast
      rw [hunsealed] at hlast
      cases hlast

/-- The capsule with its sealed checkpoint accepted. -/
def LineageCapsuleV2.withAccepted (c : LineageCapsuleV2) (s : SealedCheckpointV2)
    (w : CommittedStateV2) (head : L1CheckpointHeadV2) : LineageCapsuleV2 :=
  { c with
    acceptedState := w
    acceptedHead := some head
    sealed := some { s with accepted := true } }

/-- **A sealed checkpoint can be accepted** with the root of the working state, which becomes the
accepted one. -/
theorem accepting_of_working (hsealed : c.sealed = some s) (hpending : s.accepted = false)
    (hworking : c.workingState env = .ok w) (hroot : w.root env = .ok root) :
    c.accepting env ⟨s.checkpoint, s.erSlot, root, s.checkpointHash⟩ =
        .ok (c.withAccepted s w ⟨s.checkpoint, s.erSlot, root, s.checkpointHash⟩) ∧
      (c.withAccepted s w ⟨s.checkpoint, s.erSlot, root, s.checkpointHash⟩).workingState env =
        .ok w := by
  obtain ⟨hkept, hunsealed, hmatches, happly, -⟩ := (workingState_of_sealed hsealed).mp hworking
  constructor
  · simp only [LineageCapsuleV2.accepting, chain_ok, invalidOr_eq_ok, not_or]
    exact ⟨w, hworking, s, hsealed, root, hroot, ⟨by simp [hpending], by simp⟩, rfl⟩
  · refine (workingState_of_sealed (s := { s with accepted := true }) rfl).mpr
      ⟨⟨hkept.version, hkept.retained, ?_⟩, hunsealed, hmatches, happly, rfl⟩
    simp only [LineageCapsuleV2.requireHead, LineageCapsuleV2.withAccepted, chain_ok,
      invalidOr_eq_ok]
    exact ⟨root, hroot, rfl⟩

/-- The root of the working state is that of the artifact. -/
theorem root_of_matches {s : SealedCheckpointV2} (hmatches : s.Matches env)
    (happly : applyTransitions env s.transitions s.base = .ok w) :
    w.root env = .ok s.artifact.checkpoint.newStateRoot := by
  obtain ⟨-, -, -, hvalid, -, -, hfirst, hpages, -⟩ := hmatches
  obtain ⟨base, hbase, hbuild⟩ := build_of_validate hvalid
  obtain rfl : base = s.base := Option.some.inj (hbase.symm.trans hfirst)
  have hbuilt := built_of_ok hbuild
  obtain ⟨final, hfinal, hopening⟩ := hbuilt.post
  rw [hpages] at hfinal
  obtain rfl : final = w := Except.ok.inj (hfinal.symm.trans happly)
  exact bind_eq_ok.mpr ⟨_, hopening,
    committing_eq_ok.mpr (openingCommitment_eq_ok.mpr hbuilt.newStateRoot)⟩

/-- **The first capsule is in order.** -/
theorem workingState_empty (h : CommittedStateV2.new env identity = .ok initial) :
    initial.identity = identity ∧ (LineageCapsuleV2.empty initial).workingState env =
      .ok initial := by
  have hidentity : initial.identity = identity := by
    simp only [CommittedStateV2.new, bind_eq_ok, pure_eq_ok] at h
    obtain ⟨-, -, rfl⟩ := h
    rfl
  refine ⟨hidentity, workingState_eq_ok.mpr ⟨⟨rfl, ?_, ?_⟩, Nat.zero_le _, ?_, initial, rfl, rfl,
    ?_⟩⟩
  · exact ⟨by simp [LineageCapsuleV2.empty], by simp [LineageCapsuleV2.empty]⟩
  · refine bind_eq_ok.mpr ⟨initial, invalidOr_eq_ok.mpr ?_, rejectIf_eq_ok.mpr (not_not.mpr rfl)⟩
    exact hidentity.symm ▸ h
  · rintro head ⟨⟩
  · rintro last ⟨⟩

/-- A built artifact matches the steps it was built from. -/
theorem matches_of_build
    (hbuild : buildCheckpointArtifactV2 env c.acceptedState erSlot c.unsealed = .ok artifact)
    (accepted : Bool) (hbinding : artifact.bindingHash env = .ok checkpointHash)
    (hstored : storedArtifactHash env artifact = some artifactHash) :
    SealedCheckpointV2.Matches env ⟨checkpoint, erSlot, artifact, artifactHash, checkpointHash,
      c.acceptedState, c.unsealed, none, accepted⟩ := by
  have hbuilt := built_of_ok hbuild
  refine ⟨hbuilt.batch.1, hbuilt.batch.2.1, hstored, validate_of_build hbuild, hbinding,
    hbuilt.erSlot, hbuilt.first, hbuilt.pages, ?_⟩
  rintro plan hnone
  cases hnone

section Built

variable (hsealed : c.sealed = none) (hworking : c.workingState env = .ok w)
  (hbuild : buildCheckpointArtifactV2 env c.acceptedState erSlot c.unsealed = .ok artifact)
  (hkey : checkpoint ≠ zero32) (hbinding : artifact.bindingHash env = .ok checkpointHash)
  (hstored : storedArtifactHash env artifact = some artifactHash)

include hsealed hworking hbuild hkey hbinding hstored

/-- **The steps of the working state can be sealed**, and the working state stays. -/
theorem sealing_of_build :
    c.sealing env checkpoint erSlot artifact =
        .ok (c.withSealed checkpoint erSlot artifact artifactHash checkpointHash) ∧
      (c.withSealed checkpoint erSlot artifact artifactHash checkpointHash).workingState env =
        .ok w := by
  have hbuilt := built_of_ok hbuild
  obtain ⟨hkept, -, -, -⟩ := workingState_eq_ok.mp hworking
  obtain ⟨happly, -⟩ := working_of_build hsealed hworking hbuild
  constructor
  · simp only [LineageCapsuleV2.sealing, chain_ok, invalidOr_eq_ok, not_or]
    refine ⟨⟨hsealed, hbuilt.batch.1, hkey, hbuilt.batch.2.2.1, ?_⟩, (), validate_of_build hbuild,
      ⟨hbuilt.erSlot, hbuilt.session⟩, checkpointHash, hbinding, artifactHash, hstored, rfl⟩
    rintro ⟨head, hhead, hle⟩
    exact UInt64.not_le.mpr (lt_of_advances hworking hbuild head hhead) hle
  · refine workingState_eq_ok.mpr ⟨⟨hkept.version, hkept.retained, hkept.head⟩, Nat.zero_le _, ?_,
      w, ?_, rfl, ?_⟩
    · rintro head - transition hnone
      cases hnone
    · exact afterSealed_of_matches rfl rfl (matches_of_build hbuild false hbinding hstored) happly
        rfl
    · rintro last hnone
      cases hnone

/-- **The sealed checkpoint can be accepted**, and the working state becomes the accepted one. -/
theorem accepting_of_build :
    ∃ next, (c.withSealed checkpoint erSlot artifact artifactHash checkpointHash).accepting env
        ⟨checkpoint, erSlot, artifact.checkpoint.newStateRoot, checkpointHash⟩ = .ok next ∧
      next.acceptedState = w ∧ next.acceptedHead =
        some ⟨checkpoint, erSlot, artifact.checkpoint.newStateRoot, checkpointHash⟩ ∧
      next.workingState env = .ok w := by
  obtain ⟨-, hafter⟩ := sealing_of_build hsealed hworking hbuild hkey hbinding hstored
  obtain ⟨-, -, hmatches, happly, -⟩ := (workingState_of_sealed rfl).mp hafter
  have hroot := root_of_matches hmatches happly
  obtain ⟨haccepting, hnext⟩ := accepting_of_working rfl rfl hafter hroot
  exact ⟨_, haccepting, rfl, rfl, hnext⟩

end Built

end Checks

end Northstar.Runtime
