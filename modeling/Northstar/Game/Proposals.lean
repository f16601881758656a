import Northstar.Game.Bystanders

/-!
# What a proposal of the second format needs

A proposal of the second format is accepted in a live session without another proposal on its
way, if its openings fit the session, its validator can pay, nothing is stored for its binding,
and the account of its checkpoint is unclaimed or holds a finished checkpoint.

## Main definitions

* `Proposable`: what a proposal needs, but for its binding
* `Proposed`: what it leaves behind

## Main results

* `exists_proposeCheckpointV2`: a proposal is accepted where nothing is stored for its binding
-/

namespace Northstar.Portal

open Bytes Checked Ledger

/-- What creating an account leaves alone, and what it costs. -/
structure Creates (env : Env) (L L' : Ledger) (payer key : Pubkey) (lamports : Nat) : Prop where
  data : ∀ b, b ≠ key → (L' b).data = (L b).data
  owner : ∀ b, b ≠ key → (L' b).owner = (L b).owner
  plain : ∀ b, (L' b).executable = (L b).executable
  others : ∀ b, b ≠ key → b ≠ payer → (L' b).lamports = (L b).lamports
  cost : (L payer).lamports.toNat ≤ (L' payer).lamports.toNat + lamports
  created : (L' key).owner = env.programId

/-- The cursor of the session, or the one that is created in its place. -/
def CursorAt (env : Env) (L : Ledger) (cursor : CheckpointCursor) : Prop :=
  Vacant L (env.address .cursor) ∧ cursor = .fresh env (env.address .session) ∨
    loadCursor env L (env.address .session) (env.address .cursor) = .ok cursor
  deriving Decidable

/-- **The account of a checkpoint that can be proposed**: nothing is there, or a cancelled or
rejected checkpoint with its rent and room for a bond. -/
inductive Proposing (env : Env) (L : Ledger) (e : UInt64) : Prop
  | unclaimed (h : Vacant L (env.address (.checkpoint e)))
  | finished (previous : Checkpoint)
      (load : loadCheckpoint env L (env.address .session) e (env.address (.checkpoint e)) =
        .ok previous)
      (status : previous.status = .cancelled ∨ previous.status = .invalid)
      (rent : checkpointRent env ≤ (L (env.address (.checkpoint e))).lamports)
      (room : (L (env.address (.checkpoint e))).lamports.toNat +
        checkpointProposerBondLamports.toNat < 2 ^ 64)

/-- A wallet with enough for the accounts of a proposal and its bond. -/
structure Affords (env : Env) (L : Ledger) (validator : Pubkey) : Prop where
  wallet : ¬env.Derived validator
  data : (L validator).data = .empty
  owner : (L validator).owner = systemProgramId
  funds : (env.minimumBalance 377).toNat + (env.minimumBalance 153).toNat +
    (env.minimumBalance 380).toNat + checkpointProposerBondLamports.toNat ≤
      (L validator).lamports.toNat

/-- **What a proposal needs**, but for its binding: a live session without another proposal on
its way, its validator as a signer who can pay, roots that the openings open and that continue
the session, and an account for its checkpoint. -/
structure Proposable (env : Env) (now : UInt64) (L : Ledger) (payer : AccountMeta)
    (args : ProposeCheckpointV2) (record : Pubkey) (frame : SessionV2) (context : Hash32)
    (cursor : CheckpointCursor) : Prop where
  session : loadSessionV2 env L (env.address .session) = .ok frame
  bound : frame.context env (env.address .session) = .ok context
  live : ¬frame.base.isExpired now
  signer : payer.isSigner = true
  validator : payer.address = frame.base.validator
  affords : Affords env L payer.address
  pointed : CursorAt env L cursor
  idle : cursor.activeCheckpoint = zero32
  advances : frame.base.lastSettledErSlot < args.proposal.erSlot ∧
    cursor.latestFinalizedErSlot < args.proposal.erSlot
  continues : cursor.latestFinalizedCheckpoint = zero32 ∨
    args.proposal.previousStateRoot = cursor.latestFinalizedStateRoot
  openings : requireOpenings env frame context args = .ok ()
  start : requireEmptyStart env context (decide (cursor.latestFinalizedCheckpoint = zero32))
    args.pre = .ok ()
  ingress : requireIngressPrefix env now L context args.post record = .ok ()
  input : (args.inputContext context).commitment env = .ok args.proposal.readonlyL1Root
  arguments : args.proposal.check = .ok ()
  time : now.toNat + args.proposal.challengeWindowSlots.toNat < 2 ^ 64
  checkpoint : Proposing env L args.proposal.erSlot

/-- The binding of a proposal. -/
def ProposeCheckpointV2.bindingRecord (args : ProposeCheckpointV2) (env : Env) (record : Pubkey) :
    CheckpointBindingV2 :=
  { checkpoint := env.address (.checkpoint args.proposal.erSlot)
    pre := args.pre
    post := args.post
    prefixRecord := record
    inputContextRoot := args.proposal.readonlyL1Root
    bump := (findCheckpointBindingV2Pda env
      (env.address (.checkpoint args.proposal.erSlot))).2 }

/-- **What a proposal leaves behind**: its three accounts, and the others as they were. -/
structure Proposed (env : Env) (now : UInt64) (payer : Pubkey) (args : ProposeCheckpointV2)
    (record : Pubkey) (cursor : CheckpointCursor) (L L' : Ledger) : Prop where
  checkpoint : (L' (env.address (.checkpoint args.proposal.erSlot))).data =
    .checkpoint (args.proposal.record (env.address .session) payer now
      (now + args.proposal.challengeWindowSlots)
      (findCheckpointPda env (env.address .session) args.proposal.erSlot).2)
  bond : (checkpointRent env).toNat + checkpointProposerBondLamports.toNat ≤
    (L' (env.address (.checkpoint args.proposal.erSlot))).lamports.toNat
  cursor : (L' (env.address .cursor)).data = .cursor { cursor with
    activeCheckpoint := env.address (.checkpoint args.proposal.erSlot)
    activeErSlot := args.proposal.erSlot }
  binding : (L' (env.bindingOf args.proposal.erSlot)).data =
    .checkpointBindingV2 (args.bindingRecord env record)
  owner : ∀ b ∈ [env.address (.checkpoint args.proposal.erSlot), env.address .cursor,
    env.bindingOf args.proposal.erSlot], (L' b).owner = env.programId
  besides : ∀ b ∉ [env.address (.checkpoint args.proposal.erSlot), env.address .cursor,
    env.bindingOf args.proposal.erSlot], (L' b).data = (L b).data ∧ (L' b).owner = (L b).owner
  plain : ∀ b, (L' b).executable = (L b).executable

section Wallet

/-! ## What a wallet can create -/

variable {env : Env} {L : Ledger} {payer : AccountMeta} {cursor : CheckpointCursor} {e : UInt64}
  (hsigner : payer.isSigner = true) (hdata : (L payer.address).data = .empty)
  (howner : (L payer.address).owner = systemProgramId)

include hsigner hdata howner

/-- A wallet creates an account where there is none. -/
theorem exists_creates (env : Env) (key : Pubkey) (lamports : UInt64) (space : Nat)
    (hvacant : Vacant L key) (hne : key ≠ payer.address)
    (hfunds : lamports.toNat ≤ (L payer.address).lamports.toNat) :
    ∃ L', initializePdaAccount env L payer key lamports space = .ok L' ∧
      Creates env L L' payer.address key lamports.toNat ∧ lamports ≤ (L' key).lamports := by
  obtain ⟨L', hinit, hcost⟩ := exists_initializePdaAccount env space hvacant.1 hvacant.2 hsigner
    hdata howner hne (UInt64.le_iff_toNat_le.mpr hfunds)
  refine ⟨L', hinit, ⟨fun b hb => initializePdaAccount_data hinit hb, fun b hb => ?_,
    fun b => initializePdaAccount_executable hinit, fun b hb hpayer => ?_, hcost, ?_⟩,
    initializePdaAccount_funded hinit hne⟩
  · rw [initializePdaAccount_owner hinit, if_neg hb]
  · obtain ⟨-, -, L₁, ⟨rfl, -⟩ | ⟨missing, -, hpaid⟩, rfl⟩ := initializePdaAccount_ok hinit
    · simp
    · obtain ⟨-, left, credited, -, -, rfl⟩ := systemTransfer_ok hpaid
      simp [setLamports_lamports, hb, hpayer]
  · rw [initializePdaAccount_owner hinit, if_pos rfl]

/-- The cursor is there, or can be created. -/
theorem exists_loadOrCreateCursor (hcursor : CursorAt env L cursor)
    (hne : env.address .cursor ≠ payer.address)
    (hfunds : (env.minimumBalance 153).toNat ≤ (L payer.address).lamports.toNat) :
    ∃ L', loadOrCreateCursor env L payer (env.address .session) (env.address .cursor) =
        .ok (L', cursor) ∧
      Creates env L L' payer.address (env.address .cursor) (env.minimumBalance 153).toNat := by
  unfold loadOrCreateCursor
  rcases hcursor with ⟨hvacant, rfl⟩ | hload
  · obtain ⟨L', hinit, hcreates, -⟩ := exists_creates hsigner hdata howner env
      (env.address .cursor) (env.minimumBalance 153) 153 hvacant hne hfunds
    refine ⟨L'.setData (env.address .cursor) (.cursor (.fresh env (env.address .session))), ?_,
      ⟨fun b hb => ?_, fun b hb => ?_, fun b => ?_, fun b hb hp => ?_, ?_, ?_⟩⟩
    · rw [if_pos hvacant.1]
      exact bind_eq_ok.mpr ⟨(), rejectIf_eq_ok.mpr (not_not.mpr rfl),
        bind_eq_ok.mpr ⟨L', hinit, rfl⟩⟩
    · rw [setData_data, if_neg hb, hcreates.data b hb]
    · rw [setData_owner, hcreates.owner b hb]
    · rw [setData_executable, hcreates.plain b]
    · rw [setData_lamports, hcreates.others b hb hp]
    · rw [setData_lamports]
      exact hcreates.cost
    · rw [setData_owner, hcreates.created]
  · obtain ⟨-, hportal, hdata, -⟩ := loadCursor_eq_ok.mp hload
    refine ⟨L, ?_, ⟨fun _ _ => rfl, fun _ _ => rfl, fun _ => rfl, fun _ _ _ => rfl,
      Nat.le_add_right _ _, hportal⟩⟩
    rw [if_neg (by rw [hdata]; nofun)]
    exact bind_eq_ok.mpr ⟨cursor, hload, rfl⟩

/-- The bond is locked, in a new account or in the one of a finished checkpoint. -/
theorem exists_fundCheckpoint (cursor : CheckpointCursor) (hproposing : Proposing env L e)
    (hne : env.address (.checkpoint e) ≠ payer.address)
    (hfunds : (env.minimumBalance 380).toNat + checkpointProposerBondLamports.toNat ≤
      (L payer.address).lamports.toNat) :
    ∃ L', fundCheckpoint env L payer (env.address .session) e (env.address (.checkpoint e))
        cursor = .ok L' ∧
      Creates env L L' payer.address (env.address (.checkpoint e))
        ((env.minimumBalance 380).toNat + checkpointProposerBondLamports.toNat) ∧
      (checkpointRent env).toNat + checkpointProposerBondLamports.toNat ≤
        (L' (env.address (.checkpoint e))).lamports.toNat := by
  have hlt := (L payer.address).lamports.toNat_lt
  have hrent : (checkpointRent env).toNat = (env.minimumBalance 380).toNat := rfl
  unfold fundCheckpoint
  cases hproposing with
  | unclaimed hvacant =>
    have hbond : checkedAdd (checkpointRent env) checkpointProposerBondLamports =
        some (checkpointRent env + checkpointProposerBondLamports) := if_pos (by omega)
    have hsum := checkedAdd_eq_some.mp hbond
    obtain ⟨L', hinit, hcreates, hheld⟩ := exists_creates hsigner hdata howner env
      (env.address (.checkpoint e)) (checkpointRent env + checkpointProposerBondLamports) 380
      hvacant hne (by omega)
    refine ⟨L', ?_, ?_, ?_⟩
    · rw [if_pos hvacant.1]
      exact bind_eq_ok.mpr ⟨_, okOr_eq_ok.mpr hbond, hinit⟩
    · rw [hsum, hrent] at hcreates
      exact hcreates
    · have := UInt64.le_iff_toNat_le.mp hheld
      omega
  | finished previous hload hstatus hheld hroom =>
    obtain ⟨-, hportal, hrecord, -⟩ := loadCheckpoint_eq_ok.mp hload
    have hreusable : reusableTerminal previous cursor := hstatus.elim .inl fun h => .inr (.inl h)
    obtain ⟨L', htransfer⟩ := exists_systemTransfer hsigner hdata howner hne
      (UInt64.le_iff_toNat_le.mpr (by omega)) hroom
    refine ⟨L', ?_, ⟨fun b _ => systemTransfer_data htransfer, fun b _ =>
      systemTransfer_owner htransfer, fun b => systemTransfer_executable htransfer, ?_, ?_, ?_⟩, ?_⟩
    · rw [if_neg (by rw [hrecord]; nofun)]
      simp only [chain_ok]
      exact ⟨previous, hload, hreusable, UInt64.not_lt.mpr hheld, htransfer⟩
    all_goals
      obtain ⟨-, left, credited, hleft, hcredited, rfl⟩ := systemTransfer_ok htransfer
      rw [setLamports_lamports, if_neg hne] at hcredited
    · intro b hb hpayer
      rw [setLamports_lamports, if_neg hb, setLamports_lamports, if_neg hpayer]
    · rw [setLamports_lamports, if_neg hne.symm, setLamports_lamports, if_pos rfl]
      omega
    · rw [setLamports_owner, setLamports_owner, hportal]
    · have := UInt64.le_iff_toNat_le.mp hheld
      rw [setLamports_lamports, if_pos rfl]
      omega

end Wallet

section Frames

variable {env : Env} {L L' : Ledger} {payer key : Pubkey} {n : Nat} {cursor : CheckpointCursor}
  {e : UInt64}

/-- The cursor does not notice that another account is created. -/
theorem Creates.cursorAt (h : Creates env L L' payer key n) (hne : env.address .cursor ≠ key)
    (hcursor : CursorAt env L cursor) : CursorAt env L' cursor := by
  simpa only [CursorAt, Vacant, loadCursor, h.data _ hne, h.owner _ hne] using hcursor

theorem Creates.proposing (h : Creates env L L' payer key n)
    (hne : env.address (.checkpoint e) ≠ key) (hpayer : env.address (.checkpoint e) ≠ payer)
    (hproposing : Proposing env L e) : Proposing env L' e := by
  have hdata := h.data _ hne
  have howner := h.owner _ hne
  have hlamports := h.others _ hne hpayer
  cases hproposing with
  | unclaimed hvacant => exact .unclaimed ⟨hdata.trans hvacant.1, howner.trans hvacant.2⟩
  | finished previous hload hstatus hrent hroom =>
    refine .finished previous ?_ hstatus (by rwa [hlamports]) (by rwa [hlamports])
    simpa only [loadCheckpoint, hdata, howner] using hload

theorem loadSession_of_loadSessionV2 (h : loadSessionV2 env L (env.address .session) = .ok frame) :
    loadSession env L (env.address .session) = .ok frame.base := by
  obtain ⟨-, hportal, hframe, hvalid⟩ := loadSessionV2_eq_ok.mp h
  refine loadSession_eq_ok.mpr ⟨rfl, hportal, ?_⟩
  rw [hframe]
  exact bind_eq_ok.mpr ⟨(), rejectIf_eq_ok.mpr (not_not.mpr hvalid), rfl⟩

/-- Portal knows from the cursor whether the checkpoint is the first one. -/
theorem isFirstCheckpoint_of_cursorAt (hcursor : CursorAt env L cursor) :
    isFirstCheckpoint env L (env.address .cursor) =
      .ok (decide (cursor.latestFinalizedCheckpoint = zero32)) := by
  unfold isFirstCheckpoint
  rcases hcursor with ⟨hvacant, rfl⟩ | hload
  · rw [if_pos hvacant.1]
    rfl
  · obtain ⟨-, howner, hdata, -⟩ := loadCursor_eq_ok.mp hload
    rw [if_neg (by rw [hdata]; nofun), hdata]
    exact bind_eq_ok.mpr ⟨(), rejectIf_eq_ok.mpr (not_not.mpr howner), rfl⟩

end Frames

/-! ## Accepting a proposal -/

variable {env : Env} {now : UInt64} {L : Ledger} {args : ProposeCheckpointV2} {frame : SessionV2}
  {context : Hash32} {cursorState : CheckpointCursor} {proposer : AccountMeta}

/-- **A proposal is accepted** where nothing is stored for its binding. -/
theorem exists_proposeCheckpointV2 (hl : env.Lawful)
    (session checkpoint cursor binding record : AccountMeta)
    (h : Proposable env now L proposer args record.address frame context cursorState)
    (hvacant : Vacant L (env.bindingOf args.proposal.erSlot))
    (hsession : session.address = env.address .session)
    (hcheckpoint : checkpoint.address = env.address (.checkpoint args.proposal.erSlot))
    (hcursor : cursor.address = env.address .cursor)
    (hbinding : binding.address = env.bindingOf args.proposal.erSlot) :
    ∃ L', proposeCheckpointV2 env now proposer session checkpoint cursor binding record args L =
        .ok L' ∧
      Proposed env now proposer.address args record.address cursorState L L' := by
  obtain ⟨hwallet, hdata, howner, hfunds⟩ := h.affords
  -- the accounts are distinct
  have hpayer : ∀ g, env.address g ≠ proposer.address := fun g heq =>
    hwallet (heq ▸ env.derived_address g)
  have hne : ∀ g, env.address g ≠ env.bindingOf args.proposal.erSlot := fun g =>
    hl.address_ne_side g _ (.checkpointBindingV2 _)
  have hapart : env.address (.checkpoint args.proposal.erSlot) ≠ env.address .cursor :=
    hl.address_inj.not.mpr (by simp)
  have hbindingPayer : env.bindingOf args.proposal.erSlot ≠ proposer.address := fun heq =>
    hwallet (heq ▸ ⟨_, rfl⟩)
  -- the three accounts are paid for one after the other
  obtain ⟨L₁, hinit, hbound, -⟩ := exists_creates h.signer hdata howner env
    (env.bindingOf args.proposal.erSlot) (env.minimumBalance 377) 377 hvacant hbindingPayer
    (by omega)
  have hcost := hbound.cost
  have hdata₁ := (hbound.data _ hbindingPayer.symm).trans hdata
  have howner₁ := (hbound.owner _ hbindingPayer.symm).trans howner
  obtain ⟨L₂, hload, hpointed⟩ := exists_loadOrCreateCursor h.signer hdata₁ howner₁
    (hbound.cursorAt (hne _) h.pointed) (hpayer _) (by omega)
  have hcost₂ := hpointed.cost
  obtain ⟨L₃, hfund, hlocked, hbond⟩ := exists_fundCheckpoint h.signer
    ((hpointed.data _ (hpayer _).symm).trans hdata₁)
    ((hpointed.owner _ (hpayer _).symm).trans howner₁) cursorState
    (hpointed.proposing hapart (hpayer _) (hbound.proposing (hne _) (hpayer _) h.checkpoint))
    (hpayer _) (by omega)
  have hdeadline : checkedAdd now args.proposal.challengeWindowSlots =
      some (now + args.proposal.challengeWindowSlots) := if_pos h.time
  -- the session is as it was
  obtain ⟨-, hportal, hframe, hvalid⟩ := loadSessionV2_eq_ok.mp h.session
  have hsession₁ : loadSessionV2 env L₁ (env.address .session) = .ok frame :=
    loadSessionV2_eq_ok.mpr ⟨rfl, (hbound.owner _ (hne _)).trans hportal,
      (hbound.data _ (hne _)).trans hframe, hvalid⟩
  obtain ⟨L₄, hL₄, hpropose⟩ : ∃ L₄, L₄ = ((L₃.setData
        (env.address (.checkpoint args.proposal.erSlot)) (.checkpoint
          (args.proposal.record (env.address .session) proposer.address now
            (now + args.proposal.challengeWindowSlots)
            (findCheckpointPda env (env.address .session) args.proposal.erSlot).2))).setData
        (env.address .cursor) (.cursor { cursorState with
          activeCheckpoint := env.address (.checkpoint args.proposal.erSlot)
          activeErSlot := args.proposal.erSlot })) ∧
      proposeCheckpoint env now proposer session checkpoint cursor args.proposal true L₁ =
        .ok L₄ := by
    refine ⟨_, rfl, ?_⟩
    simp only [proposeCheckpoint, hsession, hcheckpoint, hcursor, chain_ok,
      requireNoActiveCheckpoint, requireAdvancingCheckpoint, requireFinalizedRoot, not_or, not_and,
      Prod.exists]
    refine ⟨by simp [h.signer], by rw [hbound.data _ (hne _), hframe]; rfl, frame.base,
      loadSession_of_loadSessionV2 hsession₁, h.validator, h.live, L₂, cursorState, hload, h.idle,
      ⟨UInt64.not_le.mpr h.advances.1, UInt64.not_le.mpr h.advances.2⟩,
      h.continues.resolve_left, rfl, _, hdeadline, L₃, hfund, rfl⟩
  refine ⟨L₄.setData (env.bindingOf args.proposal.erSlot)
    (.checkpointBindingV2 (args.bindingRecord env record.address)), ?_, ?_⟩
  · simp only [proposeCheckpointV2, hsession, hcheckpoint, hcursor, hbinding, chain_ok]
    exact ⟨frame, h.session, context, h.bound, (), h.openings, _,
      isFirstCheckpoint_of_cursorAt h.pointed, (), h.start, (), h.ingress, _, h.input, rfl, rfl, L₁,
      hinit, (), h.arguments, _, hpropose, rfl⟩
  · subst hL₄
    have hplain : ∀ b, (L₃ b).executable = (L b).executable := fun b =>
      (hlocked.plain b).trans ((hpointed.plain b).trans (hbound.plain b))
    refine ⟨?_, ?_, ?_, ?_, ?_, ?_, fun b => by simp [hplain]⟩
    · rw [setData_data, if_neg (hne _), setData_data, if_neg hapart, setData_data, if_pos rfl]
    · simpa only [setData_lamports] using hbond
    · rw [setData_data, if_neg (hne _), setData_data, if_pos rfl]
    · rw [setData_data, if_pos rfl]
    · intro b hb
      simp only [setData_owner]
      simp only [List.mem_cons, List.not_mem_nil, or_false] at hb
      rcases hb with rfl | rfl | rfl
      · exact hlocked.created
      · rw [hlocked.owner _ hapart.symm, hpointed.created]
      · rw [hlocked.owner _ (hne _).symm, hpointed.owner _ (hne _).symm, hbound.created]
    · intro b hb
      simp only [List.mem_cons, List.not_mem_nil, or_false, not_or] at hb
      obtain ⟨hc, hk, hbind⟩ := hb
      simp only [setData_data, setData_owner, if_neg hc, if_neg hk, if_neg hbind]
      exact ⟨(hlocked.data b hc).trans ((hpointed.data b hk).trans (hbound.data b hbind)),
        (hlocked.owner b hc).trans ((hpointed.owner b hk).trans (hbound.owner b hbind))⟩

end Northstar.Portal
