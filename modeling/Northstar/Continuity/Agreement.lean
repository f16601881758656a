import Northstar.Continuity.Accounting
import Northstar.Continuity.Heads
import Northstar.Continuity.IngressChain

/-!
# Artifacts and the L1 agree

What the validator builds off the chain is what Portal checks on it. The proposal of a built
artifact is accepted on an L1 that the lineage has kept up with, its commitment consumes the
ingress that the artifact consumed, and the head that is read back is the one the lineage is
waiting for. No other artifact has that head.

## Main definitions

* `CheckpointArtifactV2.proposal`, `proposeAccounts`, `commitAccounts`: what is submitted
* `Followed`: the L1 as the lineage knows it
* `Pending`: a proposal that stands

## Main results

* `pending_of_propose`: the proposal of a built artifact is accepted
* `committed_of_commit`, `head_of_committed`: so is its commitment, and its head is read back
* `artifact_agreement`: from sealing to accepting
-/

namespace Northstar.Runtime

open Northstar.Portal Northstar.Proof Bytes Checked Ledger CommittedStateV2

/-! ## What is submitted -/

def defaultCheckpointChallengeWindowSlots : UInt64 := 10

/-- The proposal of an artifact. -/
def CheckpointArtifactV2.proposal (artifact : CheckpointArtifactV2) : ProposeCheckpointV2 :=
  let header := artifact.checkpoint
  { proposal :=
      { erSlot := header.erSlot
        stepCount := UInt64.ofNat header.stepCount.toNat
        previousStateRoot := header.previousStateRoot
        newStateRoot := header.newStateRoot
        traceRoot := header.traceRoot
        txEffectRoot := header.transactionEffectRoot
        readonlyL1Root := header.readonlyL1Root
        daCommitment := header.daCommitment
        effectCommitment := header.effectCommitment
        challengeWindowSlots := defaultCheckpointChallengeWindowSlots }
    pre := artifact.pre
    post := artifact.post
    readonlyL1Root := artifact.readonlyL1Root }

section Accounts

variable (env : Env) (validator : Pubkey) (artifact : CheckpointArtifactV2)

/-- The last record that the artifact consumes, or the system program in its place. -/
def prefixRecordOf (post : StateRootOpeningV2) : Pubkey :=
  if post.ingressCount = 0 then systemProgramId
  else (findIngressRecordV2Pda env post.sessionContext post.ingressCount).1

def proposeAccounts : List AccountMeta :=
  let session := (findSessionPda env).1
  let checkpoint := (findCheckpointPda env session artifact.checkpoint.erSlot).1
  [⟨validator, true, true⟩, ⟨session, false, false⟩, ⟨checkpoint, false, true⟩,
    ⟨(findCheckpointCursorPda env session).1, false, true⟩, ⟨systemProgramId, false, false⟩,
    ⟨(findCheckpointBindingV2Pda env checkpoint).1, false, true⟩,
    ⟨prefixRecordOf env artifact.post, false, false⟩]

def commitAccounts : List AccountMeta :=
  let session := (findSessionPda env).1
  let checkpoint := (findCheckpointPda env session artifact.checkpoint.erSlot).1
  [⟨validator, true, true⟩, ⟨session, false, true⟩, ⟨checkpoint, false, true⟩,
    ⟨(findCheckpointCursorPda env session).1, false, true⟩, ⟨validator, false, true⟩,
    ⟨(findCheckpointBindingV2Pda env checkpoint).1, false, false⟩]

end Accounts

/-! ## The L1 and the lineage -/

/-- The session serves the lineage of the state, which is the one after the consumed ingress. -/
structure Serves (env : Env) (L : Ledger) (frame : SessionV2) (s : CommittedStateV2) : Prop where
  session : loadSessionV2 env L (env.address .session) = .ok frame
  identity : identityOf env frame (env.address .session) = s.identity
  count : frame.consumedIngressCount = s.ingressCount
  root : frame.consumedIngressRoot = s.ingressRoot

/-- **The ingress chain of the L1 extends the recorded one**: the records that led to the state
are a prefix of it. -/
structure Extends (env : Env) (now : UInt64) (L : Ledger) (context : Hash32) (frame : SessionV2)
    (records : List IngressRecordV2) (w : CommittedStateV2) : Prop where
  recorded : Recorded env context L frame records
  kept : ∀ n r, (L (env.ingressOf context n)).data = .ingressRecordV2 r →
    (L (env.ingressOf context n)).owner = env.programId ∧
      r.bump = (findIngressRecordV2Pda env context n).2 ∧ r.l1Slot ≤ now
  known : w.ingressCount ≤ frame.ingressCount
  chain : IngressChain env context (records.take w.ingressCount.toNat) w.ingressRoot

/-- **The cursor is at the head**: it names the accepted checkpoint, if there is one, and no
other one is on its way. -/
structure AtHead (env : Env) (L : Ledger) (frame : SessionV2) (head : Option L1CheckpointHeadV2)
    (cursor : CheckpointCursor) : Prop where
  account : CursorAt env L cursor
  bump : cursor.bump = (findCheckpointCursorPda env (env.address .session)).2
  plain : (L (env.address .cursor)).executable = false
  latest : match head with
    | none => cursor.latestFinalizedCheckpoint = zero32 ∧ cursor.latestFinalizedErSlot = 0
    | some head => cursor.latestFinalizedCheckpoint = env.address (.checkpoint head.erSlot) ∧
        cursor.latestFinalizedErSlot = head.erSlot ∧
        cursor.latestFinalizedStateRoot = head.stateRoot
  idle : cursor.activeCheckpoint = zero32
  settled : frame.base.lastSettledErSlot ≤ (head.map (·.erSlot)).getD 0

/-- Nothing is at the address yet, but perhaps lamports. -/
structure Unused (L : Ledger) (key : Pubkey) : Prop where
  vacant : Vacant L key
  plain : (L key).executable = false

/-- **The L1 as the lineage knows it** at a slot: its session is live, its head is accepted and
its records are there, and nothing stands in the way of the next proposal. -/
structure Followed (env : Env) (now : UInt64) (L : Ledger) (frame : SessionV2)
    (records : List IngressRecordV2) (cursor : CheckpointCursor) (c : LineageCapsuleV2)
    (w : CommittedStateV2) (context : Hash32) (erSlot : UInt64) : Prop where
  serves : Serves env L frame c.acceptedState
  bound : frame.context env (env.address .session) = .ok context
  live : ¬frame.base.isExpired now
  time : now.toNat + defaultCheckpointChallengeWindowSlots.toNat < 2 ^ 64
  ingress : Extends env now L context frame records w
  head : AtHead env L frame c.acceptedHead cursor
  checkpoint : Unused L (env.address (.checkpoint erSlot))
  binding : Unused L (env.bindingOf erSlot)
  affords : Affords env L frame.base.validator

/-! ## Steps and openings -/

variable {env : Env} {context : Hash32}

section Steps

variable {s s' : CommittedStateV2}

theorem identity_applyPayload {sequence : UInt64} {accountData : List UInt8}
    {payload : IngressPayloadV2} (h : s.applyPayload env sequence accountData payload = .ok s') :
    s'.identity = s.identity := by
  cases payload <;> simp only [applyPayload, reduceCtorEq] at h
  case delegation =>
    simp only [applyDelegation, chain_ok] at h
    obtain ⟨-, -, -, -, rfl⟩ := h
    rfl
  case solDeposit =>
    simp only [applySolDeposit, chain_ok] at h
    obtain ⟨-, -, -, -, -, -, lamports, -, rfl⟩ := h
    rfl
  case freeze =>
    unfold applyFreeze at h
    split at h
    · simp only [chain_ok] at h
      obtain ⟨-, -, rfl⟩ := h
      rfl
    · cases h
  case release =>
    simp only [applyRelease, chain_ok] at h
    obtain ⟨-, -, rfl⟩ := h
    rfl

/-- The session stays, and the ingress goes on by some number of records. -/
structure Follows (n : Nat) (s s' : CommittedStateV2) : Prop where
  identity : s'.identity = s.identity
  le : s.ingressCount.toNat ≤ s'.ingressCount.toNat
  steps : s'.ingressCount.toNat ≤ s.ingressCount.toNat + n

theorem follows_of_next {n : Nat} {root : Hash32} {record : IngressRecordV2}
    (hidentity : s'.identity = s.identity)
    (hnext : record.ValidNext env context s.ingressCount root)
    (hcount : s'.ingressCount = record.sequence) : Follows (n + 1) s s' := by
  have hsequence := checkedAdd_eq_some.mp hnext.2.2.1
  refine ⟨hidentity, ?_, ?_⟩ <;> rw [hcount, hsequence] <;>
    simp only [UInt64.reduceToNat] <;> omega

theorem follows_of_payload {effects : List (List UInt8)} {payload : TransitionPayloadV2}
    (h : (payload.apply env effects).on s = .ok s') : Follows 1 s s' := by
  cases payload with
  | tokenIngress record transaction pre post result replay =>
    simp only [TransitionPayloadV2.apply, Method.on_steps, chain_ok, applyTokenIngressExecution,
      committing_eq_ok, validateNext_eq_ok] at h
    obtain ⟨-, context, -, hnext, h⟩ := h
    split at h
    · split at h
      · simp only [Method.on_steps, chain_ok] at h
        obtain ⟨-, -, prior, -, -, next, hexecute, -, -, rfl⟩ := h
        exact follows_of_next (executed_applyExecution hexecute).1.identity hnext rfl
      · cases h
    · cases h
  | ingress record accountData =>
    simp only [TransitionPayloadV2.apply, Method.on_steps, chain_ok, applyIngress, committing_eq_ok,
      validateNext_eq_ok] at h
    obtain ⟨-, context, -, hnext, next, hpayload, -, -, rfl⟩ := h
    have hidentity := identity_applyPayload hpayload
    exact follows_of_next hidentity hnext rfl
  | execution transaction pre post result replay =>
    simp only [TransitionPayloadV2.apply, Method.on_steps, chain_ok] at h
    obtain ⟨-, hexecute⟩ := h
    obtain ⟨hexecuted, -⟩ := executed_applyExecution hexecute
    refine ⟨hexecuted.identity, ?_, ?_⟩ <;> rw [hexecuted.ingress.1]
    omega

theorem follows_of_apply {transition : RecordedTransitionV2}
    (h : (transition.apply env).on s = .ok s') : Follows 1 s s' := by
  simp only [RecordedTransitionV2.apply, Method.on_steps, chain_ok] at h
  obtain ⟨-, before, -, -, candidate, hpayload, settled, hsettle, after, -, -, rfl⟩ := h
  have hfollows := follows_of_payload hpayload
  obtain ⟨hsettled, -⟩ := settled_applySettlementEffects hsettle
  refine ⟨hsettled.identity.trans hfollows.identity, ?_, ?_⟩ <;> rw [hsettled.ingress.1]
  · exact hfollows.le
  · exact hfollows.steps

/-- **Steps consume at most one record each.** -/
theorem follows_of_transitions {transitions : List RecordedTransitionV2}
    (h : applyTransitions env transitions s = .ok s') : Follows transitions.length s s' := by
  induction transitions generalizing s with
  | nil =>
    cases h
    exact ⟨rfl, Nat.le_refl _, Nat.le_refl _⟩
  | cons transition transitions ih =>
    rw [applyTransitions, List.foldlM_cons, bind_eq_ok] at h
    obtain ⟨next, hstep, hrest⟩ := h
    have hfirst := follows_of_apply hstep
    have hlater := ih hrest
    have hle := hfirst.le
    have hsteps := hfirst.steps
    have hle' := hlater.le
    have hsteps' := hlater.steps
    refine ⟨hlater.identity.trans hfirst.identity, ?_, ?_⟩
    · omega
    · rw [List.length_cons]
      omega

theorem opening_eq_ok (h : s.opening env = .ok o) :
    s.identity.commitment env = .ok o.sessionContext ∧ o.ingressCount = s.ingressCount ∧
      o.ingressRoot = s.ingressRoot := by
  simp only [opening, chain_ok, committing_eq_ok] at h
  obtain ⟨-, -, accountRoot, -, context, hcontext, rfl⟩ := h
  exact ⟨hcontext, rfl, rfl⟩

/-- The two commitments to a session agree. -/
theorem commitment_identityOf :
    (identityOf env frame session).commitment env = .ok context ↔
      frame.context env session = .ok context := by
  simp only [SessionIdentityV2.commitment, SessionV2.context, chain_ok]
  exact ⟨And.right, fun h => ⟨rfl, h⟩⟩

theorem stateRoot_nil (sha256 : Digest) : stateRoot sha256 [] =
    some (project (sha256 (rootString .state 0 (emptyLeafHash sha256 .state 0)))) :=
  rfl

theorem mapBytes_empty {β : Type} (value : β → List UInt8) :
    mapBytes value (∅ : KeyMap β) = le 4 0 := by
  have hempty : (∅ : KeyMap β).toList = [] := rfl
  rw [mapBytes, hempty, List.flatMap_nil, List.append_nil, Std.ExtTreeMap.size_empty]

theorem hashv_emptyLeaf : env.hashv [ascii "northstar-checkpoint-v1", ascii "state",
    ascii "empty-leaf", le64 4, le32 0] = emptyLeafHash env.sha256 .state 0 := by
  have hstring : [ascii "northstar-checkpoint-v1", ascii "state", ascii "empty-leaf", le64 4,
    le32 0].flatten = emptyLeafString .state 0 := by decide
  rw [Env.hashv, hstring, emptyLeafHash]

theorem hashv_root (inner : Hash32) : env.hashv [ascii "northstar-checkpoint-v1", ascii "state",
    ascii "root", le32 0, inner.toList] = env.sha256 (rootString .state 0 inner) := by
  have hcount : le32 0 = le 4 0 := by decide
  simp [Env.hashv, rootString, TreeKind.tag, hcount]

/-- **The state that a session starts with** opens as Portal expects. -/
theorem emptyStateOpening_of_new {identity : SessionIdentityV2}
    (hnew : new env identity = .ok s) (hopening : s.opening env = .ok o)
    (hcommitment : ∃ root, o.commitment env = .ok root) :
    emptyStateOpeningV2 env o.sessionContext = .ok o := by
  simp only [new, chain_ok] at hnew
  obtain ⟨-, -, rfl⟩ := hnew
  simp only [opening, chain_ok, committing_eq_ok] at hopening
  obtain ⟨-, -, accountRoot, hroot, context, -, rfl⟩ := hopening
  have hempty : (∅ : KeyMap CommittedAccountV2).toList = [] := rfl
  rw [hempty, List.map_nil, stateRoot_nil, Option.some.injEq] at hroot
  obtain ⟨root, hcommitment⟩ := hcommitment
  subst hroot
  have hmetadata : (⟨identity, ∅, ∅, ∅, ∅, ∅, ∅, 0, zero32⟩ : CommittedStateV2).metadata =
      List.replicate 20 0 := by
    simp only [metadata, mapBytes_empty]
    decide
  rw [hmetadata] at hcommitment ⊢
  simp only [emptyStateOpeningV2, hashv_emptyLeaf, hashv_root]
  exact bind_eq_ok.mpr ⟨root, hcommitment, rfl⟩

end Steps

/-! ## Proposing -/

variable {now erSlot : UInt64} {L : Ledger} {frame : SessionV2} {records : List IngressRecordV2}
  {cursor : CheckpointCursor} {c : LineageCapsuleV2} {w : CommittedStateV2}
  {artifact : CheckpointArtifactV2}

/-- **What the openings of an artifact say** of the session and of the working state. -/
structure Openings (frame : SessionV2) (w : CommittedStateV2) (context : Hash32)
    (artifact : CheckpointArtifactV2) : Prop where
  pre : artifact.pre.sessionContext = context
  post : artifact.post.sessionContext = context
  count : artifact.pre.ingressCount = frame.consumedIngressCount
  root : artifact.pre.ingressRoot = frame.consumedIngressRoot
  after : artifact.post.ingressCount = w.ingressCount ∧ artifact.post.ingressRoot = w.ingressRoot
  le : artifact.pre.ingressCount ≤ artifact.post.ingressCount
  steps : artifact.post.ingressCount.toNat ≤
    artifact.pre.ingressCount.toNat + artifact.checkpoint.stepCount.toNat

theorem toNat_stepCount (hbuilt : Built env c.acceptedState erSlot c.unsealed artifact) :
    artifact.checkpoint.stepCount.toNat = c.unsealed.length := by
  have hlength := hbuilt.batch.2.1
  rw [hbuilt.stepCount, UInt32.toNat_ofNat']
  omega

theorem openings_of_build (hserves : Serves env L frame c.acceptedState)
    (hbound : frame.context env (env.address .session) = .ok context)
    (hsealed : c.sealed = none) (hworking : c.workingState env = .ok w)
    (hbuild : buildCheckpointArtifactV2 env c.acceptedState erSlot c.unsealed = .ok artifact) :
    Openings frame w context artifact := by
  have hbuilt := built_of_ok hbuild
  obtain ⟨happly, hpost⟩ := working_of_build hsealed hworking hbuild
  have hfollows := follows_of_transitions happly
  obtain ⟨hpreContext, hpreCount, hpreRoot⟩ := opening_eq_ok hbuilt.pre
  obtain ⟨hpostContext, hpostCount, hpostRoot⟩ := opening_eq_ok hpost
  have hcommitment := commitment_identityOf.mpr hbound
  rw [hserves.identity] at hcommitment
  rw [hfollows.identity] at hpostContext
  refine ⟨Except.ok.inj (hpreContext.symm.trans hcommitment),
    Except.ok.inj (hpostContext.symm.trans hcommitment), hpreCount.trans hserves.count.symm,
    hpreRoot.trans hserves.root.symm, ⟨hpostCount, hpostRoot⟩, ?_, ?_⟩
  · rw [hpreCount, hpostCount, UInt64.le_iff_toNat_le]
    exact hfollows.le
  · rw [hpreCount, hpostCount, toNat_stepCount hbuilt]
    exact hfollows.steps

theorem requireOpenings_of_build (hknown : w.ingressCount ≤ frame.ingressCount)
    (hopenings : Openings frame w context artifact)
    (hbuilt : Built env c.acceptedState erSlot c.unsealed artifact) :
    requireOpenings env frame context artifact.proposal = .ok () := by
  simp only [requireOpenings, chain_ok, not_or]
  refine ⟨_, hbuilt.previousStateRoot, _, hbuilt.newStateRoot, hopenings.pre, hopenings.post,
    hopenings.count, hopenings.root, ?_, UInt64.not_lt.mpr hopenings.le, ?_, rfl, rfl⟩
  · show ¬frame.ingressCount < artifact.post.ingressCount
    rw [hopenings.after.1]
    exact UInt64.not_lt.mpr hknown
  · have hsteps := hopenings.steps
    have hlt := artifact.checkpoint.stepCount.toNat_lt
    show ¬artifact.pre.ingressCount.toNat +
      (UInt64.ofNat artifact.checkpoint.stepCount.toNat).toNat < artifact.post.ingressCount.toNat
    rw [UInt64.toNat_ofNat']
    omega

/-- Portal knows from the cursor whether the checkpoint is the first one, and the lineage from
its head. -/
theorem first_of_atHead (hl : env.Lawful) (hhead : AtHead env L frame c.acceptedHead cursor) :
    decide (cursor.latestFinalizedCheckpoint = zero32) = c.acceptedHead.isNone := by
  have hlatest := hhead.latest
  cases hopt : c.acceptedHead with
  | none =>
    rw [hopt] at hlatest
    rw [hlatest.1]
    rfl
  | some head =>
    rw [hopt] at hlatest
    rw [hlatest.1]
    exact decide_eq_false (hl.address_ne_default _)

theorem requireEmptyStart_of_build (hopenings : Openings frame w context artifact)
    (hkept : c.WellKept env) (hbuilt : Built env c.acceptedState erSlot c.unsealed artifact) :
    requireEmptyStart env context c.acceptedHead.isNone artifact.pre = .ok () := by
  unfold requireEmptyStart
  cases hopt : c.acceptedHead with
  | some head => rfl
  | none =>
    have hhead := hkept.head
    simp only [LineageCapsuleV2.requireHead, hopt, chain_ok, invalidOr_eq_ok] at hhead
    obtain ⟨start, hnew, hstart⟩ := hhead
    rw [← hstart] at hnew
    have hempty := emptyStateOpening_of_new hnew hbuilt.pre ⟨_, hbuilt.previousStateRoot⟩
    rw [hopenings.pre] at hempty
    exact bind_eq_ok.mpr ⟨_, hempty, rejectIf_eq_ok.mpr (not_not.mpr rfl)⟩

/-- The last record that was applied is the one of the L1. -/
theorem requireIngressPrefix_of_extends (hextends : Extends env now L context frame records w)
    (hopenings : Openings frame w context artifact) :
    requireIngressPrefix env now L context artifact.post (prefixRecordOf env artifact.post) =
      .ok () := by
  unfold requireIngressPrefix
  by_cases hpositive : 0 < artifact.post.ingressCount
  · have hne : artifact.post.ingressCount ≠ 0 := by
      rintro hzero
      rw [hzero] at hpositive
      exact absurd hpositive (UInt64.lt_irrefl 0)
    rw [if_pos hpositive, prefixRecordOf, if_neg hne, hopenings.post]
    -- the record at the end of the consumed part
    have hcount : 0 < w.ingressCount.toNat := by
      rw [← hopenings.after.1]
      exact UInt64.lt_iff_toNat_lt.mp hpositive
    have hlength : w.ingressCount.toNat ≤ records.length := by
      rw [hextends.recorded.length]
      exact UInt64.le_iff_toNat_le.mp hextends.known
    obtain ⟨r, hr⟩ : ∃ r, records[w.ingressCount.toNat - 1]? = some r :=
      ⟨_, List.getElem?_eq_getElem (by omega)⟩
    obtain ⟨hchain, hnext⟩ := hextends.recorded.chain.split hr
    rw [Nat.sub_add_cancel hcount] at hchain
    have hstored := (hextends.recorded.stored artifact.post.ingressCount r).mpr
      ⟨hpositive, by rw [hopenings.after.1]; exact hr⟩
    obtain ⟨howner, hbump, hslot⟩ := hextends.kept _ _ hstored
    have hdata : (L (findIngressRecordV2Pda env context artifact.post.ingressCount).1).data =
      .ingressRecordV2 r := hstored
    refine bind_eq_ok.mpr ⟨(), rejectIf_eq_ok.mpr ?_, ?_⟩
    · rintro (hkey | hnot)
      · exact hkey rfl
      · exact hnot howner
    rw [hdata]
    refine rejectIf_eq_ok.mpr ?_
    rintro (hinvalid | hwrong | hroot | hlater)
    · apply hinvalid
      have hprevious : artifact.post.ingressCount - 1 =
          UInt64.ofNat (w.ingressCount.toNat - 1) := by
        rw [hopenings.after.1]
        apply UInt64.toNat_inj.mp
        have hlt := w.ingressCount.toNat_lt
        rw [UInt64.toNat_ofNat', UInt64.toNat_sub_of_le _ _ (by
          rw [UInt64.le_iff_toNat_le]
          exact hcount)]
        simp only [UInt64.reduceToNat]
        omega
      rw [hprevious]
      obtain ⟨hversion, hcontext, hsequence, hvalid, -, hcomputed⟩ := hnext
      exact ⟨hversion, hcontext, hsequence, hvalid, rfl, hcomputed⟩
    · exact hwrong hbump
    · rw [hopenings.after.2, hextends.chain.fold, ← hchain.fold] at hroot
      exact hroot rfl
    · exact absurd hslot (UInt64.not_le.mpr hlater)
  · have hzero : artifact.post.ingressCount = 0 := by
      apply UInt64.toNat_inj.mp
      have := mt UInt64.lt_iff_toNat_lt.mpr hpositive
      simp only [UInt64.reduceToNat] at this ⊢
      omega
    rw [if_neg hpositive, prefixRecordOf, if_pos hzero]
    exact rejectIf_eq_ok.mpr (not_not.mpr rfl)

/-! ### The accounts of a proposal -/

/-- An account of Portal with the data. -/
structure Held (env : Env) (L : Ledger) (key : Pubkey) (data : AccountData) : Prop where
  owner : (L key).owner = env.programId
  data : (L key).data = data
  plain : (L key).executable = false

theorem held_setData (howner : (L key).owner = env.programId) (hplain : (L key).executable = false)
    (d : AccountData) : Held env (L.setData key d) key d :=
  ⟨by rw [setData_owner, howner], by rw [setData_data, if_pos rfl],
    by rw [setData_executable, hplain]⟩

theorem Held.write {key : Pubkey} {data : AccountData} (h : Held env L key data) (d : AccountData) :
    Held env (L.setData key d) key d :=
  held_setData h.owner h.plain d

theorem Held.besides {key other : Pubkey} {data : AccountData} (h : Held env L key data)
    (hne : key ≠ other) (d : AccountData) : Held env (L.setData other d) key data :=
  ⟨by rw [setData_owner, h.owner], by rw [setData_data, if_neg hne, h.data],
    by rw [setData_executable, h.plain]⟩

/-- The record of the proposal. -/
def CheckpointArtifactV2.checkpointRecord (env : Env) (artifact : CheckpointArtifactV2)
    (validator : Pubkey) (now deadline : UInt64) : Checkpoint :=
  artifact.proposal.proposal.record (env.address .session) validator now deadline
    (findCheckpointPda env (env.address .session) artifact.checkpoint.erSlot).2

/-- The binding of the proposal. -/
def CheckpointArtifactV2.bindingRecord (env : Env) (artifact : CheckpointArtifactV2) :
    CheckpointBindingV2 :=
  artifact.proposal.bindingRecord env (prefixRecordOf env artifact.post)

/-- The cursor has the proposal on its way, which continues what is finalized. -/
structure Awaits (env : Env) (artifact : CheckpointArtifactV2) (cursor : CheckpointCursor) :
    Prop where
  session : cursor.session = env.address .session
  bump : cursor.bump = (findCheckpointCursorPda env (env.address .session)).2
  active : cursor.activeCheckpoint = env.address (.checkpoint artifact.checkpoint.erSlot) ∧
    cursor.activeErSlot = artifact.checkpoint.erSlot
  advances : cursor.latestFinalizedErSlot < artifact.checkpoint.erSlot
  continues : cursor.latestFinalizedCheckpoint = zero32 ∨
    artifact.checkpoint.previousStateRoot = cursor.latestFinalizedStateRoot

/-- **A proposal that stands**: its three accounts are as they were proposed, nothing else was
committed, and the ingress of the session has at most grown. -/
structure Pending (env : Env) (artifact : CheckpointArtifactV2) (deadline : UInt64) (L : Ledger)
    (frame : SessionV2) : Prop where
  session : loadSessionV2 env L (env.address .session) = .ok frame
  bound : frame.context env (env.address .session) = .ok artifact.pre.sessionContext
  count : frame.consumedIngressCount = artifact.pre.ingressCount
  root : frame.consumedIngressRoot = artifact.pre.ingressRoot
  known : artifact.post.ingressCount ≤ frame.ingressCount
  settled : frame.base.lastSettledErSlot < artifact.checkpoint.erSlot
  checkpoint : ∃ now, Held env L (env.address (.checkpoint artifact.checkpoint.erSlot))
    (.checkpoint (artifact.checkpointRecord env frame.base.validator now deadline))
  bond : (checkpointRent env).toNat + checkpointProposerBondLamports.toNat ≤
    (L (env.address (.checkpoint artifact.checkpoint.erSlot))).lamports.toNat
  cursor : ∃ cursor, Held env L (env.address .cursor) (.cursor cursor) ∧ Awaits env artifact cursor
  binding : Held env L (env.bindingOf artifact.checkpoint.erSlot)
    (.checkpointBindingV2 (artifact.bindingRecord env))

/-- The slot of the artifact is later than what the L1 has settled and finalized. -/
theorem advances_of_atHead (hhead : AtHead env L frame c.acceptedHead cursor)
    (hworking : c.workingState env = .ok w)
    (hbuild : buildCheckpointArtifactV2 env c.acceptedState erSlot c.unsealed = .ok artifact) :
    frame.base.lastSettledErSlot < erSlot ∧ cursor.latestFinalizedErSlot < erSlot := by
  have hsettled := hhead.settled
  have hlatest := hhead.latest
  have hadvances := lt_of_advances hworking hbuild
  have hslot := (built_of_ok hbuild).batch.2.2.1
  have hpositive : (0 : UInt64) < erSlot := UInt64.pos_iff_ne_zero.mpr hslot
  cases hopt : c.acceptedHead with
  | none =>
    rw [hopt] at hsettled hlatest
    rw [hlatest.2]
    exact ⟨UInt64.lt_of_le_of_lt hsettled hpositive, hpositive⟩
  | some head =>
    rw [hopt] at hsettled hlatest
    rw [hlatest.2.1]
    have hlt := hadvances head hopt
    exact ⟨UInt64.lt_of_le_of_lt hsettled hlt, hlt⟩

/-- The artifact starts from the finalized root. -/
theorem continues_of_atHead (hhead : AtHead env L frame c.acceptedHead cursor)
    (hkept : c.WellKept env) (hbuilt : Built env c.acceptedState erSlot c.unsealed artifact) :
    cursor.latestFinalizedCheckpoint = zero32 ∨
      artifact.checkpoint.previousStateRoot = cursor.latestFinalizedStateRoot := by
  have hlatest := hhead.latest
  cases hopt : c.acceptedHead with
  | none =>
    rw [hopt] at hlatest
    exact .inl hlatest.1
  | some head =>
    rw [hopt] at hlatest
    have hroot := hkept.head
    simp only [LineageCapsuleV2.requireHead, hopt, chain_ok, invalidOr_eq_ok, root,
      committing_eq_ok, openingCommitment_eq_ok] at hroot
    obtain ⟨root, ⟨opening, hopening, hcommitment⟩, hstate⟩ := hroot
    obtain rfl : opening = artifact.pre := Except.ok.inj (hopening.symm.trans hbuilt.pre)
    obtain rfl : root = artifact.checkpoint.previousStateRoot :=
      Except.ok.inj (hcommitment.symm.trans hbuilt.previousStateRoot)
    exact .inr (hstate.trans hlatest.2.2.symm)

theorem check_proposal (hbuilt : Built env c.acceptedState erSlot c.unsealed artifact) :
    artifact.proposal.proposal.check = .ok () := by
  have hcount := toNat_stepCount hbuilt
  obtain ⟨hne, hlength, -⟩ := hbuilt.batch
  have hpositive := List.length_pos_iff.mpr hne
  have hsteps : (UInt64.ofNat artifact.checkpoint.stepCount.toNat).toNat = c.unsealed.length := by
    rw [UInt64.toNat_ofNat', hcount]
    omega
  have hwindow : artifact.proposal.proposal.challengeWindowSlots =
    defaultCheckpointChallengeWindowSlots := rfl
  refine bind_eq_ok.mpr ⟨(), rejectIf_eq_ok.mpr ?_, rejectIf_eq_ok.mpr (by rw [hwindow]; decide)⟩
  rintro (hnone | hzero | hmany)
  · rw [hwindow] at hnone
    exact absurd hnone (by decide)
  · have hzero : (UInt64.ofNat artifact.checkpoint.stepCount.toNat).toNat = 0 :=
      congrArg UInt64.toNat hzero
    omega
  · have hmany : canonicalCheckpointSteps.toNat <
        (UInt64.ofNat artifact.checkpoint.stepCount.toNat).toNat := UInt64.lt_iff_toNat_lt.mp hmany
    have hcanonical : canonicalCheckpointSteps.toNat = 16 := rfl
    omega

/-- The cursor that is there, or the one that is created, is the one of the session. -/
theorem session_of_cursorAt (h : CursorAt env L cursor) :
    cursor.session = env.address .session := by
  rcases h with ⟨-, rfl⟩ | hload
  · rfl
  · exact (loadCursor_eq_ok.mp hload).2.2.2

/-- The built artifact has all that its proposal needs. -/
theorem proposable_of_build (hl : env.Lawful)
    (hfollowed : Followed env now L frame records cursor c w context artifact.checkpoint.erSlot)
    (hsealed : c.sealed = none) (hworking : c.workingState env = .ok w)
    (hbuild : buildCheckpointArtifactV2 env c.acceptedState artifact.checkpoint.erSlot c.unsealed =
      .ok artifact) :
    Proposable env now L ⟨frame.base.validator, true, true⟩ artifact.proposal
      (prefixRecordOf env artifact.post) frame context cursor := by
  have hbuilt := built_of_ok hbuild
  obtain ⟨hkept, -⟩ := workingState_eq_ok.mp hworking
  have hopenings := openings_of_build hfollowed.serves hfollowed.bound hsealed hworking hbuild
  have hinput := hbuilt.input
  rw [artifactInput, hopenings.pre] at hinput
  have hstart := requireEmptyStart_of_build hopenings hkept hbuilt
  rw [← first_of_atHead hl hfollowed.head] at hstart
  exact
    { session := hfollowed.serves.session
      bound := hfollowed.bound
      live := hfollowed.live
      signer := rfl
      validator := rfl
      affords := hfollowed.affords
      pointed := hfollowed.head.account
      idle := hfollowed.head.idle
      advances := advances_of_atHead hfollowed.head hworking hbuild
      continues := continues_of_atHead hfollowed.head hkept hbuilt
      openings := requireOpenings_of_build hfollowed.ingress.known hopenings hbuilt
      start := hstart
      ingress := requireIngressPrefix_of_extends hfollowed.ingress hopenings
      input := hinput
      arguments := check_proposal hbuilt
      time := hfollowed.time
      checkpoint := .unclaimed hfollowed.checkpoint.vacant }

/-- **The proposal of a built artifact is accepted**, and stands. -/
theorem pending_of_propose (hl : env.Lawful)
    (hfollowed : Followed env now L frame records cursor c w context erSlot)
    (hsealed : c.sealed = none) (hworking : c.workingState env = .ok w)
    (hbuild : buildCheckpointArtifactV2 env c.acceptedState erSlot c.unsealed = .ok artifact) :
    ∃ L₁, processProposeCheckpointV2 env now (proposeAccounts env frame.base.validator artifact)
        artifact.proposal L = .ok L₁ ∧
      Pending env artifact (now + defaultCheckpointChallengeWindowSlots) L₁ frame := by
  have hbuilt := built_of_ok hbuild
  obtain rfl := hbuilt.erSlot
  have hopenings := openings_of_build hfollowed.serves hfollowed.bound hsealed hworking hbuild
  have hproposable := proposable_of_build hl hfollowed hsealed hworking hbuild
  obtain ⟨L₁, hpropose, hproposed⟩ := exists_proposeCheckpointV2 hl
    ⟨env.address .session, false, false⟩
    ⟨env.address (.checkpoint artifact.checkpoint.erSlot), false, true⟩
    ⟨env.address .cursor, false, true⟩ ⟨env.bindingOf artifact.checkpoint.erSlot, false, true⟩
    ⟨prefixRecordOf env artifact.post, false, false⟩ hproposable hfollowed.binding.vacant rfl rfl
    rfl rfl
  refine ⟨L₁, hpropose, ?_⟩
  -- the session is none of the accounts of the proposal
  have hbinding : env.address .session ≠ env.bindingOf artifact.checkpoint.erSlot :=
    hl.address_ne_side _ _ (.checkpointBindingV2 _)
  have hsession : env.address .session ∉ [env.address (.checkpoint artifact.checkpoint.erSlot),
      env.address .cursor, env.bindingOf artifact.checkpoint.erSlot] := by
    simp [hl.address_inj, hbinding]
  obtain ⟨hdata, howner⟩ := hproposed.besides _ hsession
  have hcursor := session_of_cursorAt hfollowed.head.account
  obtain ⟨-, hportal, hframe, hvalid⟩ := loadSessionV2_eq_ok.mp hfollowed.serves.session
  refine ⟨loadSessionV2_eq_ok.mpr ⟨rfl, howner.trans hportal, hdata.trans hframe, hvalid⟩, ?_,
    hopenings.count.symm, hopenings.root.symm, ?_, hproposable.advances.1,
    ⟨now, hproposed.owner _ (.head _), hproposed.checkpoint, ?_⟩, hproposed.bond,
    ⟨_, ⟨hproposed.owner _ (.tail _ (.head _)), hproposed.cursor, ?_⟩, hcursor,
      hfollowed.head.bump, ⟨rfl, rfl⟩, hproposable.advances.2, hproposable.continues⟩,
    hproposed.owner _ (.tail _ (.tail _ (.head _))), hproposed.binding, ?_⟩
  · rw [hopenings.pre]
    exact hfollowed.bound
  · rw [hopenings.after.1]
    exact hfollowed.ingress.known
  · exact (hproposed.plain _).trans hfollowed.checkpoint.plain
  · exact (hproposed.plain _).trans hfollowed.head.plain
  · exact (hproposed.plain _).trans hfollowed.binding.plain

/-! ## Committing -/

section Committing

variable {deadline : UInt64} {data : AccountData}

/-- The head of an artifact on the L1. -/
def CheckpointArtifactV2.head (env : Env) (artifact : CheckpointArtifactV2)
    (checkpointHash : Hash32) : L1CheckpointHeadV2 :=
  { checkpoint := env.address (.checkpoint artifact.checkpoint.erSlot)
    erSlot := artifact.checkpoint.erSlot
    stateRoot := artifact.checkpoint.newStateRoot
    checkpointHash }

/-- The session after the commitment of an artifact. -/
def CheckpointArtifactV2.consume (artifact : CheckpointArtifactV2) (frame : SessionV2) :
    SessionV2 :=
  { frame with
    consumedIngressCount := artifact.post.ingressCount
    consumedIngressRoot := artifact.post.ingressRoot }

/-- The record of a committed proposal, whose bond was paid back. -/
def CheckpointArtifactV2.committedRecord (env : Env) (artifact : CheckpointArtifactV2)
    (validator : Pubkey) (now deadline : UInt64) : Checkpoint :=
  { artifact.checkpointRecord env validator now deadline with
    status := .committed
    bondStatus := .released }

/-- The cursor at a committed proposal. -/
def CheckpointArtifactV2.finalize (env : Env) (artifact : CheckpointArtifactV2)
    (cursor : CheckpointCursor) : CheckpointCursor :=
  { cursor with
    latestFinalizedCheckpoint := env.address (.checkpoint artifact.checkpoint.erSlot)
    latestFinalizedErSlot := artifact.checkpoint.erSlot
    latestFinalizedStateRoot := artifact.checkpoint.newStateRoot }

/-- **A committed artifact**: the session has consumed its ingress, and the cursor is at it. -/
structure Committed (env : Env) (artifact : CheckpointArtifactV2) (L : Ledger)
    (frame : SessionV2) : Prop where
  session : (L (env.address .session)).data = .sessionV2 (artifact.consume frame)
  checkpoint : ∃ now deadline, Held env L (env.address (.checkpoint artifact.checkpoint.erSlot))
    (.checkpoint (artifact.committedRecord env frame.base.validator now deadline))
  cursor : ∃ cursor, Held env L (env.address .cursor) (.cursor (artifact.finalize env cursor)) ∧
    cursor.session = env.address .session ∧
    cursor.bump = (findCheckpointCursorPda env (env.address .session)).2
  binding : Held env L (env.bindingOf artifact.checkpoint.erSlot)
    (.checkpointBindingV2 (artifact.bindingRecord env))

/-- A locked bond that is there can be paid back. -/
theorem exists_releaseCheckpointBond (checkpoint : Pubkey) (state : Checkpoint)
    (hlocked : state.bondStatus = .locked)
    (hamount : state.bondLamports = checkpointProposerBondLamports)
    (hne : checkpoint ≠ state.proposer)
    (hbond : (checkpointRent env).toNat + checkpointProposerBondLamports.toNat ≤
      (L checkpoint).lamports.toNat)
    (hroom : (L state.proposer).lamports.toNat + checkpointProposerBondLamports.toNat < 2 ^ 64) :
    ∃ L', releaseCheckpointBond env L checkpoint state.proposer state =
        .ok (L', { state with bondStatus := .released }) ∧
      (∀ b, (L' b).data = (L b).data) ∧ (∀ b, (L' b).owner = (L b).owner) ∧
      ∀ b, (L' b).executable = (L b).executable := by
  have hlt := (L checkpoint).lamports.toNat_lt
  have hminimum : checkedAdd (checkpointRent env) state.bondLamports =
      some (checkpointRent env + state.bondLamports) := by
    rw [hamount]
    exact if_pos (by omega)
  have hcredit : checkedAdd (L state.proposer).lamports state.bondLamports =
      some ((L state.proposer).lamports + state.bondLamports) := by
    rw [hamount]
    exact if_pos hroom
  have hle : checkpointProposerBondLamports ≤ (L checkpoint).lamports := by
    rw [UInt64.le_iff_toNat_le]
    omega
  have hdebit : checkedSub (L checkpoint).lamports state.bondLamports =
      some ((L checkpoint).lamports - state.bondLamports) := by
    rw [hamount]
    exact if_pos hle
  have hsum := checkedAdd_eq_some.mp hminimum
  rw [hamount] at hsum
  refine ⟨(L.setLamports state.proposer
    ((L state.proposer).lamports + state.bondLamports)).setLamports checkpoint
      ((L checkpoint).lamports - state.bondLamports), ?_, ?_, ?_, ?_⟩
  · simp only [releaseCheckpointBond, resolveCheckpointBond, chain_ok, setLamports_lamports,
      if_neg hne]
    refine ⟨trivial, hlocked, ?_, _, hminimum, ?_, _, hcredit, _, hdebit, rfl⟩
    · rw [hamount]
      decide
    · rw [hamount, UInt64.not_lt, UInt64.le_iff_toNat_le, hsum]
      exact hbond
  · intro b
    rw [setLamports_data, setLamports_data]
  · intro b
    rw [setLamports_owner, setLamports_owner]
  · intro b
    rw [setLamports_executable, setLamports_executable]

theorem requireBinding_of_pending (hpending : Pending env artifact deadline L frame)
    (hbuilt : Built env c.acceptedState erSlot c.unsealed artifact)
    (hpost : artifact.post.sessionContext = artifact.pre.sessionContext) (now : UInt64) :
    requireBinding env frame artifact.pre.sessionContext
      (env.address (.checkpoint artifact.checkpoint.erSlot))
      (artifact.checkpointRecord env frame.base.validator now deadline)
      (findCheckpointBindingV2Pda env (env.address (.checkpoint artifact.checkpoint.erSlot))).2
      (artifact.bindingRecord env) = .ok () := by
  simp only [requireBinding, chain_ok, not_or]
  exact ⟨_, hbuilt.previousStateRoot, _, hbuilt.newStateRoot, rfl, rfl, rfl, hpost,
    hpending.count.symm, hpending.root.symm, UInt64.not_lt.mpr hpending.known, rfl, rfl, rfl⟩

/-- The commitment itself. -/
theorem exists_commitCheckpoint (hpending : Pending env artifact deadline L frame)
    (hne : ∀ g, env.address g ≠ frame.base.validator)
    (hroom : (L frame.base.validator).lamports.toNat + checkpointProposerBondLamports.toNat <
      2 ^ 64) (hdeadline : deadline ≤ now)
    (hcheckpoint : Held env L (env.address (.checkpoint artifact.checkpoint.erSlot)) (.checkpoint
      (artifact.checkpointRecord env frame.base.validator proposed deadline)))
    (hcursor : Held env L (env.address .cursor) (.cursor cursor))
    (hawaits : Awaits env artifact cursor)
    (committer session checkpoint cursorMeta proposer : AccountMeta)
    (hsigner : committer.isSigner = true) (hsession : session.address = env.address .session)
    (hcheckpointKey : checkpoint.address = env.address (.checkpoint artifact.checkpoint.erSlot))
    (hcursorKey : cursorMeta.address = env.address .cursor)
    (hproposer : proposer.address = frame.base.validator) :
    ∃ L₁ : Ledger, commitCheckpoint env now committer session checkpoint cursorMeta proposer
        artifact.checkpoint.erSlot true L =
        .ok ((L₁.setData (env.address (.checkpoint artifact.checkpoint.erSlot)) (.checkpoint
          (artifact.committedRecord env frame.base.validator proposed deadline))).setData
            (env.address .cursor) (.cursor (artifact.finalize env cursor))) ∧
      (∀ b, (L₁ b).data = (L b).data) ∧ (∀ b, (L₁ b).owner = (L b).owner) ∧
      ∀ b, (L₁ b).executable = (L b).executable := by
  obtain ⟨-, -, hframe, -⟩ := loadSessionV2_eq_ok.mp hpending.session
  have hloaded := loadSession_of_loadSessionV2 hpending.session
  have hloadCheckpoint : loadCheckpoint env L (env.address .session) artifact.checkpoint.erSlot
      (env.address (.checkpoint artifact.checkpoint.erSlot)) =
        .ok (artifact.checkpointRecord env frame.base.validator proposed deadline) :=
    loadCheckpoint_eq_ok.mpr ⟨rfl, hcheckpoint.owner, hcheckpoint.data, rfl, rfl⟩
  have hloadCursor : loadCursor env L (env.address .session) (env.address .cursor) = .ok cursor :=
    loadCursor_eq_ok.mpr ⟨rfl, hcursor.owner, hcursor.data, hawaits.session⟩
  obtain ⟨L₁, hrelease, hrest⟩ := exists_releaseCheckpointBond (L := L)
    (env.address (.checkpoint artifact.checkpoint.erSlot))
    { artifact.checkpointRecord env frame.base.validator proposed deadline with
      status := .committed } rfl rfl (hne _) hpending.bond hroom
  refine ⟨L₁, ?_, hrest⟩
  simp only [commitCheckpoint, hsession, hcheckpointKey, hcursorKey, hproposer, chain_ok,
    requireAdvancingCheckpoint, requireActiveCheckpoint, requireFinalizedRoot, not_or, not_and,
    Prod.exists]
  refine ⟨by simp [hsigner], by rw [hframe]; rfl, frame.base, hloaded, _, hloadCheckpoint, cursor,
    hloadCursor, ?_, rfl, UInt64.not_lt.mpr hdeadline,
    ⟨UInt64.not_le.mpr hpending.settled, UInt64.not_le.mpr hawaits.advances⟩, hawaits.active, ?_,
    L₁, _, hrelease, rfl⟩
  · rintro ⟨⟩
  · intro hlater
    exact hawaits.continues.resolve_left hlater

/-- **A proposal that stands is committed** when its window is over. -/
theorem committed_of_commit (hl : env.Lawful) (hpending : Pending env artifact deadline L frame)
    (hbuilt : Built env c.acceptedState erSlot c.unsealed artifact)
    (hpost : artifact.post.sessionContext = artifact.pre.sessionContext)
    (hwallet : ¬env.Derived frame.base.validator)
    (hroom : (L frame.base.validator).lamports.toNat + checkpointProposerBondLamports.toNat <
      2 ^ 64)
    (hdeadline : deadline ≤ now) :
    ∃ L', processCommitCheckpointV2 env now (commitAccounts env frame.base.validator artifact)
        artifact.checkpoint.erSlot L = .ok L' ∧ Committed env artifact L' frame := by
  obtain ⟨proposed, hcheckpoint⟩ := hpending.checkpoint
  obtain ⟨cursor, hcursor, hawaits⟩ := hpending.cursor
  -- the accounts are distinct
  have hbinding : ∀ g, env.address g ≠ env.bindingOf artifact.checkpoint.erSlot := fun g =>
    hl.address_ne_side g _ (.checkpointBindingV2 _)
  have hne : ∀ {g g' : GameAccount}, g ≠ g' → env.address g ≠ env.address g' :=
    fun hg => hl.address_inj.not.mpr hg
  obtain ⟨L₁, hcommit, hdata, howner, hplain⟩ := exists_commitCheckpoint hpending
    (fun g heq => hwallet (heq ▸ env.derived_address g)) hroom hdeadline hcheckpoint hcursor hawaits
    ⟨frame.base.validator, true, true⟩ ⟨env.address .session, false, true⟩
    ⟨env.address (.checkpoint artifact.checkpoint.erSlot), false, true⟩
    ⟨env.address .cursor, false, true⟩ ⟨frame.base.validator, false, true⟩ rfl rfl rfl rfl rfl
  have hheld {key : Pubkey} {data : AccountData} (h : Held env L key data) : Held env L₁ key data :=
    ⟨(howner _).trans h.owner, (hdata _).trans h.data, (hplain _).trans h.plain⟩
  refine ⟨((L₁.setData (env.address (.checkpoint artifact.checkpoint.erSlot)) (.checkpoint
      (artifact.committedRecord env frame.base.validator proposed deadline))).setData
        (env.address .cursor) (.cursor (artifact.finalize env cursor))).setData
      (env.address .session) (.sessionV2 (artifact.consume frame)), ?_,
    ⟨?_, ⟨proposed, deadline, ?_⟩, ⟨cursor, ?_, hawaits.session, hawaits.bump⟩, ?_⟩⟩
  · show commitCheckpointV2 env now _ _ _ _ _ _ _ _ = _
    simp only [commitCheckpointV2, chain_ok, not_or]
    refine ⟨frame, hpending.session, ⟨trivial, hpending.binding.owner⟩, artifact.bindingRecord env,
      ?_, _, hpending.bound, artifact.checkpointRecord env frame.base.validator proposed deadline,
      ?_, (), requireBinding_of_pending hpending hbuilt hpost proposed, _, hcommit, rfl⟩
    · show parseCheckpointBinding (L (env.bindingOf artifact.checkpoint.erSlot)).data = _
      rw [hpending.binding.data]
      rfl
    · show parseCheckpoint (L (env.address (.checkpoint artifact.checkpoint.erSlot))).data = _
      rw [hcheckpoint.data]
      rfl
  · rw [setData_data, if_pos rfl]
  · exact (((hheld hcheckpoint).write _).besides (hne (by simp)) _).besides (hne (by simp)) _
  · exact (((hheld hcursor).besides (hne (by simp)) _).write _).besides (hne (by simp)) _
  · exact (((hheld hpending.binding).besides (hbinding _).symm _).besides (hbinding _).symm
      _).besides (hbinding _).symm _

theorem getAccount_of_held (h : Held env L key data) (hdata : data ≠ .empty) :
    getAccount L key = some (L key) :=
  getAccount_of_data (by rw [h.data]; exact hdata)

theorem Held.requirePortal (h : Held env L key data) : requirePortal env (L key) = .ok () := by
  refine rejectIf_eq_ok.mpr ?_
  rintro (howner | hexecutable)
  · exact howner h.owner
  · rw [h.plain] at hexecutable
    cases hexecutable

/-- The header of the accepted checkpoint is the one of the artifact. -/
theorem headerOf_committedRecord (hbuilt : Built env c.acceptedState erSlot c.unsealed artifact)
    (hkey : artifact.checkpoint.session = env.address .session) (validator : Pubkey)
    (now deadline : UInt64) :
    headerOf (env.address .session) (artifact.committedRecord env validator now deadline) =
      some artifact.checkpoint := by
  have hlt := artifact.checkpoint.stepCount.toNat_lt
  have hcount : (UInt64.ofNat artifact.checkpoint.stepCount.toNat).toNat =
      artifact.checkpoint.stepCount.toNat := by
    rw [UInt64.toNat_ofNat']
    omega
  have hsteps : UInt32.ofNat (UInt64.ofNat artifact.checkpoint.stepCount.toNat).toNat =
      artifact.checkpoint.stepCount := by
    rw [hcount, UInt32.ofNat_toNat]
  have hversion := hbuilt.version
  show (if (UInt64.ofNat artifact.checkpoint.stepCount.toNat).toNat < 2 ^ 32 then _ else none) = _
  rw [if_pos (by rw [hcount]; exact hlt), ← hkey]
  show some (CheckpointCommitmentV1.mk 2 artifact.checkpoint.session _
    (UInt32.ofNat (UInt64.ofNat artifact.checkpoint.stepCount.toNat).toNat) _ _ _ _ _ _ _) = _
  rw [hsteps, ← hversion]
  rfl

theorem acceptedCheckpoint_of_committed
    (hcheckpoint : Held env L' (env.address (.checkpoint artifact.checkpoint.erSlot)) (.checkpoint
      (artifact.committedRecord env frame.base.validator proposed deadline))) :
    acceptedCheckpoint env L' (env.address .session) (artifact.consume frame)
      (artifact.finalize env cursor) =
        .ok (artifact.committedRecord env frame.base.validator proposed deadline) := by
  simp only [acceptedCheckpoint, chain_ok]
  refine ⟨_, getAccount_of_held hcheckpoint (by rintro ⟨⟩), (),
    hcheckpoint.requirePortal, ?_⟩
  erw [hcheckpoint.data]
  refine bind_eq_ok.mpr ⟨(), rejectIf_eq_ok.mpr ?_, rfl⟩
  simp only [not_or, not_not]
  exact ⟨rfl, rfl, rfl, rfl, rfl, fun hneither => hneither.1 rfl⟩

theorem acceptedBinding_of_committed
    (hheld : Held env L' (env.bindingOf artifact.checkpoint.erSlot) (.checkpointBindingV2
      (artifact.bindingRecord env))) (hbuilt : Built env c.acceptedState erSlot c.unsealed artifact)
    (hbound : frame.context env (env.address .session) = .ok artifact.pre.sessionContext)
    (hpost : artifact.post.sessionContext = artifact.pre.sessionContext) :
    acceptedBinding env L' (env.address .session) (artifact.consume frame)
      (env.address (.checkpoint artifact.checkpoint.erSlot))
      (artifact.committedRecord env frame.base.validator proposed deadline) =
        .ok (artifact.bindingRecord env) := by
  simp only [acceptedBinding, chain_ok]
  refine ⟨_, getAccount_of_held hheld (by rintro ⟨⟩), (), hheld.requirePortal, ?_⟩
  erw [hheld.data]
  simp only [chain_ok, invalidOr_eq_ok, openingCommitment_eq_ok, not_or]
  exact ⟨_, commitment_identityOf.mpr hbound, _, hbuilt.previousStateRoot, _, hbuilt.newStateRoot,
    ⟨rfl, rfl, rfl, hpost, rfl, rfl, rfl, rfl, rfl⟩, trivial⟩

/-- **The head is read back** as the artifact has it. -/
theorem head_of_committed (hl : env.Lawful) (hcommitted : Committed env artifact L' frame)
    (hbuilt : Built env c.acceptedState erSlot c.unsealed artifact)
    (hkey : artifact.checkpoint.session = env.address .session)
    (hbound : frame.context env (env.address .session) = .ok artifact.pre.sessionContext)
    (hpost : artifact.post.sessionContext = artifact.pre.sessionContext)
    (hbinding : artifact.bindingHash env = .ok checkpointHash) :
    ∃ checkpoint, checkpointHeadFromL1V2 env L' (env.address .session) (artifact.consume frame) =
      .ok (some (artifact.head env checkpointHash, checkpoint)) := by
  obtain ⟨proposed, deadline, hcheckpoint⟩ := hcommitted.checkpoint
  obtain ⟨cursor, hcursor, hsession, hbump⟩ := hcommitted.cursor
  refine ⟨artifact.committedRecord env frame.base.validator proposed deadline, ?_⟩
  have hfound : getAccount L' (findCheckpointCursorPda env (env.address .session)).1 =
    some (L' (env.address .cursor)) := getAccount_of_held hcursor nofun
  simp only [checkpointHeadFromL1V2, hfound, bind_eq_ok]
  refine ⟨(), hcursor.requirePortal, ?_⟩
  rw [hcursor.data]
  refine bind_eq_ok.mpr ⟨(), rejectIf_eq_ok.mpr ?_, ?_⟩
  · rintro (hne | hne)
    · exact hne hsession
    · exact hne hbump
  rw [if_neg (show ¬(artifact.finalize env cursor).latestFinalizedCheckpoint = zero32 from
    hl.address_ne_default (.checkpoint artifact.checkpoint.erSlot))]
  refine bind_eq_ok.mpr ⟨_, acceptedCheckpoint_of_committed hcheckpoint, bind_eq_ok.mpr
    ⟨_, acceptedBinding_of_committed hcommitted.binding hbuilt hbound hpost, bind_eq_ok.mpr
      ⟨_, okOr_eq_ok.mpr (headerOf_committedRecord hbuilt hkey _ _ _), bind_eq_ok.mpr
        ⟨_, invalidOr_eq_ok.mpr hbinding, rfl⟩⟩⟩⟩

end Committing

/-! ## Other artifacts -/

/-- What is hashed for the binding hash of an artifact. -/
def CheckpointArtifactV2.bindingString (artifact : CheckpointArtifactV2) : Option (List UInt8) :=
  ((CheckpointCommitmentV1.borsh.pair (openingBorsh.pair openingBorsh)).write
    (artifact.checkpoint, artifact.pre, artifact.post)).map fun encoded =>
      [ascii "northstar-checkpoint-binding-v2", encoded].flatten

/-- What is hashed for the commitment of an artifact to itself. -/
def CheckpointArtifactV2.daString (artifact : CheckpointArtifactV2) : Option (List UInt8) :=
  (CheckpointArtifactV2.borsh.write
    { artifact with checkpoint := { artifact.checkpoint with daCommitment := zero32 } }).map
      fun encoded => [ascii "northstar-da-v2", encoded].flatten

/-- **The hash does not collide** on the strings of two artifacts. -/
def NoCollision (env : Env) (a b : CheckpointArtifactV2) : Prop :=
  Set.InjOn env.sha256 {s | a.bindingString = some s ∨ b.bindingString = some s ∨
    a.daString = some s ∨ b.daString = some s}

/-- **An artifact is determined by its binding hash.** -/
theorem eq_of_bindingHash_eq {a b : CheckpointArtifactV2} {hash : Hash32}
    (ha : a.validate env = .ok ()) (hb : b.validate env = .ok ())
    (hahash : a.bindingHash env = .ok hash) (hbhash : b.bindingHash env = .ok hash)
    (hfree : NoCollision env a b) : a = b := by
  obtain ⟨_, -, habuilt⟩ := build_of_validate ha
  obtain ⟨_, -, hbbuilt⟩ := build_of_validate hb
  simp only [CheckpointArtifactV2.bindingHash, checkpointBindingHashV2, chain_ok] at hahash hbhash
  obtain ⟨x, hx, hxhash⟩ := hahash
  obtain ⟨y, hy, hyhash⟩ := hbhash
  -- the headers and the openings agree
  have hstrings : [ascii "northstar-checkpoint-binding-v2", x].flatten =
      [ascii "northstar-checkpoint-binding-v2", y].flatten := by
    refine hfree (.inl ?_) (.inr (.inl ?_)) (hxhash.trans hyhash.symm)
    · exact Option.map_eq_some_iff.mpr ⟨x, hx, rfl⟩
    · exact Option.map_eq_some_iff.mpr ⟨y, hy, rfl⟩
  simp only [List.flatten_cons, List.flatten_nil, List.append_nil, List.append_cancel_left_eq]
    at hstrings
  subst hstrings
  have hheaders := Borsh.write_inj _ hx hy
  simp only [Prod.mk.injEq] at hheaders
  obtain ⟨hcheckpoint, hpre, hpost⟩ := hheaders
  -- and so do the commitments of the artifacts to themselves
  obtain ⟨u, hu, huhash⟩ := Option.map_eq_some_iff.mp (built_of_ok habuilt).commitment
  obtain ⟨v, hv, hvhash⟩ := Option.map_eq_some_iff.mp (built_of_ok hbbuilt).commitment
  rw [hcheckpoint] at huhash
  have hencoded : [ascii "northstar-da-v2", u].flatten = [ascii "northstar-da-v2", v].flatten := by
    refine hfree (.inr (.inr (.inl ?_))) (.inr (.inr (.inr ?_))) (huhash.trans hvhash.symm)
    · exact Option.map_eq_some_iff.mpr ⟨u, hu, rfl⟩
    · exact Option.map_eq_some_iff.mpr ⟨v, hv, rfl⟩
  simp only [List.flatten_cons, List.flatten_nil, List.append_nil, List.append_cancel_left_eq]
    at hencoded
  subst hencoded
  have hartifacts := Borsh.write_inj _ hu hv
  obtain ⟨header, pre, post, root, pages⟩ := a
  obtain ⟨header', pre', post', root', pages'⟩ := b
  simp only [CheckpointArtifactV2.mk.injEq] at hartifacts hcheckpoint
  obtain ⟨-, rfl, rfl, rfl, rfl⟩ := hartifacts
  rw [hcheckpoint]

/-! ## From sealing to accepting -/

section Agreement

variable {persists : LineageCapsuleV2 → Bool} {store : CheckpointLineageStoreV2}
  {head : L1CheckpointHeadV2} {next : LineageCapsuleV2}

/-- The head of a validated artifact, in the form in which it is found on the L1. -/
def HeadOf (env : Env) (artifact : CheckpointArtifactV2) (head : L1CheckpointHeadV2) : Prop :=
  artifact.validate env = .ok () ∧ artifact.bindingHash env = .ok head.checkpointHash ∧
    head = artifact.head env head.checkpointHash

/-- **There is room** for the two capsules on the way: with the artifact sealed, and then with
its head accepted. -/
structure RoomToAccept (env : Env) (persists : LineageCapsuleV2 → Bool)
    (store : CheckpointLineageStoreV2) (erSlot : UInt64) (artifact : CheckpointArtifactV2) : Prop
    where
  sealing : ∀ next, store.capsule.sealing env (env.address (.checkpoint erSlot)) erSlot artifact =
    .ok next → store.Takes persists next
  accepting : ∀ waiting hash next, store.capsule.sealing env (env.address (.checkpoint erSlot))
      erSlot artifact = .ok waiting → artifact.bindingHash env = .ok hash →
    let numbered := { waiting with sequence := store.capsule.sequence + 1 }
    numbered.accepting env (artifact.head env hash) = .ok next →
      CheckpointLineageStoreV2.Takes persists ⟨numbered, false⟩ next

/-- What the store accepts is the head it waits for. -/
theorem accepting_eq_ok (hsealed : c.sealed = some s) (h : c.accepting env head = .ok next) :
    s.checkpointHash = head.checkpointHash := by
  simp only [LineageCapsuleV2.accepting, hsealed, chain_ok, not_or, Option.some.injEq] at h
  obtain ⟨state, -, s', rfl, root, -, ⟨-, -, -, hhash, -⟩, -⟩ := h
  exact hhash

/-- **From sealing to accepting.** Where an artifact is built from the recorded steps and there is
room for it, it is sealed, its proposal is accepted on an L1 that the lineage follows, its
commitment is accepted once the window is over, the head that is then read back is accepted by the
store, which takes the working state for the accepted one, and no other head that is new to the
store is. -/
theorem artifact_agreement (hl : env.Lawful) (hpoisoned : store.poisoned = false)
    (hsealed : store.capsule.sealed = none) (hworking : store.capsule.workingState env = .ok w)
    (hbuild : buildCheckpointArtifactV2 env store.capsule.acceptedState erSlot
      store.capsule.unsealed = .ok artifact)
    (hroom : RoomToAccept env persists store erSlot artifact)
    (hfollowed : Followed env now L frame records cursor store.capsule w context erSlot) :
    ∃ hash waiting, artifact.bindingHash env = .ok hash ∧
      store.seal env persists (env.address (.checkpoint erSlot)) erSlot artifact =
        (.ok (), waiting) ∧
      (∃ L₁, processProposeCheckpointV2 env now (proposeAccounts env frame.base.validator artifact)
          artifact.proposal L = .ok L₁ ∧
        Pending env artifact (now + defaultCheckpointChallengeWindowSlots) L₁ frame) ∧
      (∀ L₂ frame₂ later, Pending env artifact (now + defaultCheckpointChallengeWindowSlots) L₂
          frame₂ → frame₂.base.validator = frame.base.validator →
        (L₂ frame.base.validator).lamports.toNat + checkpointProposerBondLamports.toNat < 2 ^ 64 →
        now + defaultCheckpointChallengeWindowSlots ≤ later →
        ∃ L₃, processCommitCheckpointV2 env later (commitAccounts env frame.base.validator artifact)
            erSlot L₂ = .ok L₃ ∧ Committed env artifact L₃ frame₂ ∧
          ∃ checkpoint, checkpointHeadFromL1V2 env L₃ (env.address .session)
            (artifact.consume frame₂) = .ok (some (artifact.head env hash, checkpoint))) ∧
      (∃ accepted, waiting.recordAccepted env persists (artifact.head env hash) =
          (.ok (), accepted) ∧ accepted.capsule.acceptedState = w ∧
        accepted.capsule.acceptedHead = some (artifact.head env hash)) ∧
      ∀ other head accepted, HeadOf env other head → NoCollision env artifact other →
        waiting.recordAccepted env persists head = (.ok (), accepted) →
        store.capsule.acceptedHead = some head ∧ accepted = waiting ∨
          other = artifact ∧ head = artifact.head env hash := by
  have hbuilt := built_of_ok hbuild
  obtain rfl := hbuilt.erSlot
  have hkey := hl.address_ne_default (.checkpoint artifact.checkpoint.erSlot)
  have hopenings := openings_of_build hfollowed.serves hfollowed.bound hsealed hworking hbuild
  obtain ⟨hash, hbinding⟩ : ∃ hash, artifact.bindingHash env = .ok hash := ⟨_, rfl⟩
  obtain ⟨artifactHash, hstored⟩ := exists_storedArtifactHash hbuild
  obtain ⟨hsealing, hstate⟩ := sealing_of_build hsealed hworking hbuild hkey hbinding hstored
  -- sealing has moved the number of the capsule on, which nothing else reads
  obtain ⟨next, haccepting, hnextState, hnextHead, hnextWorking⟩ :=
    accepting_of_build (c := { store.capsule with sequence := store.capsule.sequence + 1 }) hsealed
      hworking hbuild hkey hbinding hstored
  have hadvances := lt_of_advances hworking hbuild
  have hfresh : store.capsule.acceptedHead ≠ some (artifact.head env hash) := by
    intro hhead
    exact absurd (hadvances _ hhead) (UInt64.lt_irrefl _)
  have hsession : artifact.checkpoint.session = env.address .session := by
    rw [hbuilt.session, ← hfollowed.serves.identity]
    rfl
  have hcontext := hopenings.pre.symm ▸ hfollowed.bound
  have hpost := hopenings.post.trans hopenings.pre.symm
  let numbered : LineageCapsuleV2 :=
    { store.capsule with sequence := store.capsule.sequence + 1 }
  let waiting : CheckpointLineageStoreV2 :=
    ⟨numbered.withSealed (env.address (.checkpoint artifact.checkpoint.erSlot))
      artifact.checkpoint.erSlot artifact artifactHash hash, store.poisoned⟩
  have hseal : store.seal env persists (env.address (.checkpoint artifact.checkpoint.erSlot))
      artifact.checkpoint.erSlot artifact = (.ok (), waiting) := by
    rw [CheckpointLineageStoreV2.seal, hsealing]
    exact (commit_iff hpoisoned hstate).mpr ⟨hroom.sealing _ hsealing, rfl⟩
  refine ⟨hash, waiting, hbinding, hseal, pending_of_propose hl hfollowed hsealed hworking hbuild,
    ?_, ?_, ?_⟩
  · intro L₂ frame₂ later hpending hvalidator hbalance hlater
    rw [← hvalidator] at hbalance ⊢
    have hwallet := hfollowed.affords.wallet
    rw [← hvalidator] at hwallet
    obtain ⟨L₃, hcommit, hcommitted⟩ := committed_of_commit hl hpending hbuilt hpost hwallet
      hbalance hlater
    exact ⟨L₃, hcommit, hcommitted,
      head_of_committed hl hcommitted hbuilt hsession hpending.bound hpost hbinding⟩
  · refine ⟨{ store with capsule := { next with sequence := store.capsule.sequence + 1 + 1 } }, ?_,
      hnextState, hnextHead⟩
    rw [CheckpointLineageStoreV2.recordAccepted, if_neg (show waiting.capsule.acceptedHead ≠ _ from
      hfresh)]
    show waiting.update env persists (waiting.capsule.accepting env _) = _
    rw [show waiting.capsule.accepting env (artifact.head env hash) = .ok next from haccepting]
    exact (commit_iff (show waiting.poisoned = false from hpoisoned) hnextWorking).mpr
      ⟨hroom.accepting _ _ _ hsealing hbinding haccepting, rfl⟩
  · intro other head accepted hother hfree haccepted
    unfold CheckpointLineageStoreV2.recordAccepted at haccepted
    split at haccepted
    · rename_i hsame
      cases haccepted
      exact .inl ⟨hsame, rfl⟩
    · refine .inr ?_
      unfold CheckpointLineageStoreV2.update at haccepted
      split at haccepted
      · cases haccepted
      · rename_i next' hnext'
        have hhash : hash = head.checkpointHash := accepting_eq_ok rfl hnext'
        subst hhash
        obtain ⟨hvalidate, hotherHash, hhead⟩ := hother
        obtain rfl := eq_of_bindingHash_eq (validate_of_build hbuild) hvalidate hbinding hotherHash
          hfree
        exact ⟨rfl, hhead⟩

end Agreement

/-! ### A lineage on the local deployment -/

/-- The steps that payloads make, one after another. -/
def recordSteps (env : Env) (erSlot : UInt64) :
    CommittedStateV2 → List TransitionPayloadV2 → Option (List RecordedTransitionV2)
  | _, [] => some []
  | s, payload :: payloads => do
    let before ← (s.opening env).toOption
    let next ← ((payload.apply env []).on s).toOption
    let after ← (next.opening env).toOption
    let rest ← recordSteps env erSlot next payloads
    return ⟨erSlot, before, after, payload, [], []⟩ :: rest

/-- The record of a delegated account. -/
def devRecord : IngressRecordV2 :=
  let record : IngressRecordV2 :=
    { version := 2
      sessionContext := devContext
      sequence := 1
      l1Slot := 20
      previousRoot := zero32
      payload := .delegation localToken (tagged 67 []) (tagged 64 []) 10 1 (devnet.hashv [[7]])
        false 0
      root := zero32
      bump := 255 }
  { record with root := record.computedRoot devnet }

/-- The session after the delegation, of which nothing is consumed yet. -/
def devFrame : SessionV2 := { devSession with ingressCount := 1, ingressRoot := devRecord.root }

/-- The L1 with that session and no checkpoint yet. -/
def devL1 : Ledger :=
  Function.update (Function.update devLedger (devnet.address .session)
    ⟨1000, devnet.programId, false, .sessionV2 devFrame⟩) (devnet.ingressOf devContext 1)
    ⟨1000, devnet.programId, false, .ingressRecordV2 devRecord⟩

def devStart : CommittedStateV2 :=
  { localStart with identity := identityOf devnet devSession (devnet.address .session) }

/-- The capsule that has recorded how the account came in. -/
def devCapsule : LineageCapsuleV2 :=
  { version := 3
    sequence := 7
    acceptedState := devStart
    acceptedHead := none
    unsealed := (recordSteps devnet 4 devStart [.ingress devRecord [7]]).getD []
    sealed := none
    processedTransactions := ∅ }

def devStore : CheckpointLineageStoreV2 := ⟨devCapsule, false⟩

def devWorking : CommittedStateV2 := (devCapsule.workingState devnet).toOption.getD devStart

def devArtifact : Option CheckpointArtifactV2 :=
  (buildCheckpointArtifactV2 devnet devStart 5 devCapsule.unsealed).toOption

set_option maxRecDepth 100000 in
theorem devStore_workingState : devStore.capsule.workingState devnet = .ok devWorking := by
  decide +kernel

/-- Only the one record is there. -/
theorem devL1_ingress (n : UInt64) (r : IngressRecordV2) :
    (devL1 (devnet.ingressOf devContext n)).data = .ingressRecordV2 r ↔ n = 1 ∧ r = devRecord := by
  unfold devL1
  by_cases hn : n = 1
  · subst hn
    rw [Function.update_self]
    simp [eq_comm]
  · rw [Function.update_of_ne fun h => hn ((devnet_ingressApart devContext).sequence n 1 h)]
    refine iff_of_false ?_ fun h => hn h.1
    by_cases hkey : devnet.ingressOf devContext n = devnet.address .session
    · rw [hkey, Function.update_self]
      nofun
    · rw [Function.update_of_ne hkey, (devLedger_vacant _).1]
      nofun

theorem devRecord_chain : IngressChain devnet devContext [devRecord] devRecord.root :=
  .snoc .nil (by decide +kernel)

set_option maxRecDepth 100000 in
theorem devL1_followed : Followed devnet 50 devL1 devFrame [devRecord]
    (.fresh devnet (devnet.address .session)) devCapsule devWorking devContext 5 where
  serves := ⟨by decide +kernel, by decide +kernel, rfl, rfl⟩
  bound := by decide +kernel
  live := by decide +kernel
  time := by decide +kernel
  ingress :=
    { recorded :=
        { length := rfl
          chain := devRecord_chain
          stored := fun n r => by
            rw [devL1_ingress]
            constructor
            · rintro ⟨rfl, rfl⟩
              exact ⟨by decide, rfl⟩
            · rintro ⟨hn, hr⟩
              have hlt : n.toNat - 1 < 1 := (List.getElem?_eq_some_iff.mp hr).1
              have hpos := UInt64.lt_iff_toNat_lt.mp hn
              obtain rfl : n = 1 := UInt64.toNat_inj.mp (by simp at hpos ⊢; omega)
              exact ⟨rfl, (Option.some.inj hr).symm⟩
          known := by decide
          consumed := .nil }
      kept := fun n r h => by
        obtain ⟨rfl, rfl⟩ := (devL1_ingress n r).mp h
        exact ⟨by decide +kernel, by decide +kernel, by decide⟩
      known := by decide +kernel
      chain := by
        have hcount : devWorking.ingressCount = 1 ∧ devWorking.ingressRoot = devRecord.root := by
          decide +kernel
        rw [hcount.1, hcount.2]
        exact devRecord_chain }
  head := ⟨by decide +kernel, rfl, by decide +kernel, ⟨rfl, rfl⟩, rfl, by decide⟩
  checkpoint := ⟨by decide +kernel, by decide +kernel⟩
  binding := ⟨by decide +kernel, by decide +kernel⟩
  affords := ⟨devnet_not_derived (by decide), by decide +kernel, by decide +kernel,
    by decide +kernel⟩

/-- The L1 once the artifact is proposed. -/
def devProposed (now : UInt64) (artifact : CheckpointArtifactV2) : Option Ledger :=
  (processProposeCheckpointV2 devnet now (proposeAccounts devnet (tagged 21 []) artifact)
    artifact.proposal devL1).toOption

set_option maxRecDepth 100000 in
/-- There is an artifact: it consumes the record, the two capsules on the way fit, the validator
can be paid back, and with the session over it is not proposed. -/
theorem devArtifact_any : devArtifact.any (fun artifact =>
    decide (artifact.post.ingressCount = 1) &&
    (devCapsule.sealing devnet (devnet.address (.checkpoint 5)) 5 artifact).toOption.all
      (fun waiting => waiting.fits && (artifact.bindingHash devnet).toOption.all fun hash =>
        (LineageCapsuleV2.accepting devnet { waiting with sequence := 8 }
          (artifact.head devnet hash)).toOption.all LineageCapsuleV2.fits) &&
    (devProposed 50 artifact).all (fun L₁ => decide ((L₁ (tagged 21 [])).lamports.toNat +
      checkpointProposerBondLamports.toNat < 2 ^ 64)) &&
    (devProposed 1000011 artifact).isNone) = true := by
  decide +kernel

/-- The same, spelled out. -/
theorem exists_devArtifact : ∃ artifact, devArtifact = some artifact ∧
    artifact.post.ingressCount = 1 ∧ RoomToAccept devnet (fun _ => true) devStore 5 artifact ∧
    (∀ L₁, devProposed 50 artifact = some L₁ → (L₁ (tagged 21 [])).lamports.toNat +
      checkpointProposerBondLamports.toNat < 2 ^ 64) ∧ devProposed 1000011 artifact = none := by
  obtain ⟨artifact, hartifact, hall⟩ := (Option.any_eq_true _ _).mp devArtifact_any
  simp only [Bool.and_eq_true, decide_eq_true_eq, Option.all_eq_true, toOption_eq_some,
    Option.isNone_iff_eq_none] at hall
  obtain ⟨⟨⟨hcount, hcapsules⟩, hbalance⟩, hover⟩ := hall
  refine ⟨artifact, hartifact, hcount, ⟨fun next hnext => ⟨by decide, ?_, rfl⟩, ?_⟩, hbalance,
    hover⟩
  · exact (hcapsules next hnext).1
  · intro waiting hash next hwaiting hhash numbered hnext
    exact ⟨show devCapsule.sequence.toNat + 1 + 1 < 2 ^ 64 by decide,
      (hcapsules waiting hwaiting).2 hash hhash next hnext, rfl⟩

/-- The delegation is proposed, committed and accepted. -/
theorem artifact_agreement_local : ∃ artifact hash waiting L₁ L₂ checkpoint accepted,
    devArtifact = some artifact ∧ artifact.post.ingressCount = 1 ∧
    devStore.seal devnet (fun _ => true) (devnet.address (.checkpoint 5)) 5 artifact =
      (.ok (), waiting) ∧
    processProposeCheckpointV2 devnet 50 (proposeAccounts devnet (tagged 21 []) artifact)
      artifact.proposal devL1 = .ok L₁ ∧
    processCommitCheckpointV2 devnet 60 (commitAccounts devnet (tagged 21 []) artifact) 5 L₁ =
      .ok L₂ ∧
    checkpointHeadFromL1V2 devnet L₂ (devnet.address .session) (artifact.consume devFrame) =
      .ok (some (artifact.head devnet hash, checkpoint)) ∧
    waiting.recordAccepted devnet (fun _ => true) (artifact.head devnet hash) =
      (.ok (), accepted) ∧ accepted.capsule.acceptedState = devWorking := by
  obtain ⟨artifact, hartifact, hcount, hroom, hbalance, -⟩ := exists_devArtifact
  obtain ⟨hash, waiting, -, hseal, ⟨L₁, hpropose, hpending⟩, hcommit, ⟨accepted, haccept, hstate,
    -⟩, -⟩ := artifact_agreement devnet_lawful (show devStore.poisoned = false from rfl) rfl
      devStore_workingState (toOption_eq_some.mp hartifact) hroom devL1_followed
  obtain ⟨L₂, hcommitted, -, checkpoint, hhead⟩ := hcommit L₁ devFrame 60 hpending rfl
    (hbalance L₁ (toOption_eq_some.mpr hpropose)) (by decide)
  exact ⟨artifact, hash, waiting, L₁, L₂, checkpoint, accepted, hartifact, hcount, hseal, hpropose,
    hcommitted, hhead, haccept, hstate⟩

/-- **The session may be over**: the ingress chain of the L1 still extends the recorded one, but
the proposal is refused. -/
theorem proposal_refused_when_expired : ∃ artifact, devArtifact = some artifact ∧
    ∀ L₁, processProposeCheckpointV2 devnet 1000011
      (proposeAccounts devnet (tagged 21 []) artifact) artifact.proposal devL1 ≠ .ok L₁ := by
  obtain ⟨artifact, hartifact, -, -, -, hover⟩ := exists_devArtifact
  refine ⟨artifact, hartifact, ?_⟩
  intro L₁ hok
  have hsome : devProposed 1000011 artifact = some L₁ := toOption_eq_some.mpr hok
  rw [hover] at hsome
  cases hsome

end Northstar.Runtime
