import Northstar.Game.Moves

/-!
# Instructions are moves

Every successful instruction of Portal makes a move of the game. The accounts an
instruction names are first identified with accounts of the game, then its writes are
followed one by one.

## Main definitions

* `Prepared`: an account of the game created or taken over

## Main results

* `proposeCheckpoint_move`, `commitCheckpoint_move`, `openChallenge_move` and their
  siblings: what each instruction does, once it succeeds
-/

namespace Northstar.Portal

open Bytes Checked Ledger

/-! ## Accounts of the game -/

theorem game_loadSession (h : loadSession env L a = .ok s) :
    a = env.address .session ∧ (boardOf env L).session = some s.clearSettlement := by
  obtain ⟨rfl, hpolicy⟩ := policyOf_of_loadSession h
  exact ⟨rfl, by rw [boardOf_session, hpolicy]⟩

theorem game_loadCheckpoint (h : loadCheckpoint env L (env.address .session) e a = .ok c) :
    a = env.address (.checkpoint e) ∧ (L a).owner = env.programId ∧
      (boardOf env L).checkpoint e = some c ∧ c.session = env.address .session ∧ c.erSlot = e := by
  obtain ⟨rfl, howner, hdata, hsession, hslot⟩ := loadCheckpoint_eq_ok.mp h
  refine ⟨rfl, howner, ?_, hsession, hslot⟩
  rw [boardOf_checkpoint, checkpointOf_eq_some]
  exact ⟨howner, hdata, hsession, hslot⟩

theorem game_loadCursor (h : loadCursor env L (env.address .session) a = .ok k) :
    a = env.address .cursor ∧ (L a).owner = env.programId ∧
      (boardOf env L).cursor = some k ∧ k.session = env.address .session := by
  obtain ⟨rfl, howner, hdata, hsession⟩ := loadCursor_eq_ok.mp h
  refine ⟨rfl, howner, ?_, hsession⟩
  rw [boardOf_cursor, cursorOf_eq_some]
  exact ⟨howner, hdata, hsession⟩

theorem game_loadChallenge (h : loadChallenge env L (env.address (.checkpoint e)) a = .ok ch) :
    a = env.address (.challenge e) ∧ (L a).owner = env.programId ∧
      (boardOf env L).challenge e = some ch ∧ ch.checkpoint = env.address (.checkpoint e) := by
  obtain ⟨rfl, howner, hdata, hkey⟩ := loadChallenge_eq_ok.mp h
  refine ⟨rfl, howner, ?_, hkey⟩
  rw [boardOf_challenge, challengeOf_eq_some]
  exact ⟨howner, hdata, hkey⟩

theorem game_loadDaProof
    (h : loadDaProof env L (env.address (.challenge e)) (env.address (.checkpoint e)) a = .ok d) :
    a = env.address (.daProof e) ∧ (L a).owner = env.programId ∧
      (boardOf env L).daProof e = some d ∧ d.challenge = env.address (.challenge e) ∧
      d.checkpoint = env.address (.checkpoint e) := by
  obtain ⟨rfl, howner, hdata, hkey⟩ := loadDaProof_eq_ok.mp h
  refine ⟨rfl, howner, ?_, hkey⟩
  rw [boardOf_daProof, daProofOf_eq_some]
  exact ⟨howner, hdata, hkey⟩

theorem game_loadStepProof (h : loadStepProof env L (env.address (.checkpoint e)) a = .ok p) :
    a = env.address (.stepProof e) ∧ (L a).owner = env.programId ∧
      (boardOf env L).stepProof e = some p ∧ p.checkpoint = env.address (.checkpoint e) := by
  obtain ⟨rfl, howner, hdata, hkey⟩ := loadStepProof_eq_ok.mp h
  refine ⟨rfl, howner, ?_, hkey⟩
  rw [boardOf_stepProof, stepProofOf_eq_some]
  exact ⟨howner, hdata, hkey⟩

/-- An account without data has no place on the board. -/
theorem boardOf_eq_none_of_empty (h : (L (env.address g)).data = .empty) :
    boardOf env L g = none := by
  by_cases hg : g = .session
  · subst hg
    show (policyOf _).map AccountData.session = none
    rw [h]
    rfl
  · rw [Option.eq_none_iff_forall_ne_some]
    intro d hd
    obtain ⟨-, hdata, hholds⟩ := (boardOf_eq_some hg).mp hd
    rw [← hdata, h] at hholds
    cases g <;> exact hholds

theorem liveTurn_ok (h : requireLiveTurn ch now = .ok u) :
    ch.status = .active ∧ ch.Live now := by
  simp only [requireLiveTurn, chain_ok, not_or, UInt64.not_le] at h
  exact h

theorem activeCheckpoint_ok (h : requireActiveCheckpoint k a e = .ok u) :
    k.activeCheckpoint = a ∧ k.activeErSlot = e := by
  simpa only [requireActiveCheckpoint, rejectIf_eq_ok, not_or, not_not] using h

theorem advancingCheckpoint_ok (h : requireAdvancingCheckpoint s k e = .ok u) :
    s.lastSettledErSlot < e ∧ k.latestFinalizedErSlot < e := by
  simpa only [requireAdvancingCheckpoint, rejectIf_eq_ok, not_or, UInt64.not_le] using h

theorem finalizedRoot_ok (h : requireFinalizedRoot k r = .ok u) :
    k.latestFinalizedCheckpoint = zero32 ∨ r = k.latestFinalizedStateRoot := by
  simp only [requireFinalizedRoot, rejectIf_eq_ok, not_and_or, not_not] at h
  exact h

/-! ## Paying a bond -/

variable {S : Finset Pubkey}

/-- Lamports that move among the accounts of `S` are no move on the board. -/
theorem track_of_lamports (hdata : ∀ a, (L' a).data = (L a).data)
    (howner : ∀ a, (L' a).owner = (L a).owner) (htotal : L'.total S = L.total S) :
    Track env S ∅ id L L' where
  board := by
    funext g
    by_cases hg : g = .session
    · subst hg
      show (policyOf _).map AccountData.session = (policyOf _).map AccountData.session
      rw [hdata]
    · exact boardOf_congr hg (hdata _) (howner _)
  untouched g _ _ := ⟨hdata _, howner _⟩
  undelegated hu g d := by rw [hdata]; exact hu g d
  total := htotal

theorem resolveCheckpointBond_ok
    (h : resolveCheckpointBond env L (env.address (.checkpoint e)) r c next = .ok (L', c'))
    (hr : ¬env.Derived r) (hS : env.address (.checkpoint e) ∈ S) (hrS : r ∈ S) :
    c.bondStatus = .locked ∧ c' = { c with bondStatus := next } ∧ Track env S ∅ id L L' ∧
      Pays env L L' e r c.bondLamports := by
  have hne : env.address (.checkpoint e) ≠ r := aside_of_not_derived hr _
  simp only [resolveCheckpointBond, chain_ok, checkedAdd_eq_some, checkedSub_eq_some,
    exists_and_left, Prod.mk.injEq, setLamports_lamports, if_neg hne, UInt64.not_lt] at h
  obtain ⟨hlocked, -, minimum, hminimum, hfunded, credited, hcredited, left, hleft, rfl, rfl⟩ := h
  have htotal := L.total_setLamports S credited hrS
  have htotal' := (L.setLamports r credited).total_setLamports S left hS
  rw [setLamports_lamports, if_neg hne] at htotal'
  refine ⟨hlocked, rfl, track_of_lamports (by simp) (by simp) (by omega), ?_, ?_, ?_, ?_⟩
  · rw [UInt64.le_iff_toNat_le] at hfunded
    omega
  · rw [setLamports_lamports, if_pos rfl]
    omega
  · rw [setLamports_lamports, if_neg hne.symm, setLamports_lamports, if_pos rfl, hcredited]
  · intro b hb hbr
    rw [setLamports_lamports, if_neg hb, setLamports_lamports, if_neg hbr]

/-- Writes before and after a payout do not change the balances. -/
theorem Pays.congr (h : Pays env L₁ L₂ e r n) (hL : ∀ a, (L a).lamports = (L₁ a).lamports)
    (hL' : ∀ a, (L' a).lamports = (L₂ a).lamports) :
    Pays env L L' e r n where
  funded := by rw [hL]; exact h.funded
  debit := by rw [hL, hL']; exact h.debit
  credit := by rw [hL, hL']; exact h.credit
  others b hb hbr := by rw [hL, hL']; exact h.others b hb hbr

/-! ## Accounts created or taken over -/

/-- An account of the game made ready to be written: created, or found with its owner. -/
structure Prepared (env : Env) (S : Finset Pubkey) (g : GameAccount) (L L' : Ledger) : Prop where
  track : ∃ f, Track env S {g} f L L' ∧ ∀ B g', g' ≠ g → f B g' = B g'
  owner : (L' (env.address g)).owner = env.programId
  gains : Gains env L L'

theorem Prepared.of_owner (h : (L (env.address g)).owner = env.programId) :
    Prepared env S g L L where
  track := ⟨id, (Track.refl env S L).congr (Set.empty_subset _) rfl, fun _ _ _ => rfl⟩
  owner := h
  gains := Gains.refl env L

theorem Prepared.of_create (hl : env.Lawful)
    (h : initializePdaAccount env L payer (env.address g) lamports space = .ok L')
    (hpayer : Named env S payer) (hS : env.address g ∈ S) : Prepared env S g L L' where
  track := ⟨_, track_initializePdaAccount hl h hpayer hS, fun B g' hg' => by
    rw [Board.clear_apply, if_neg hg']⟩
  owner := by rw [initializePdaAccount_owner h, if_pos rfl]
  gains := gains_initializePdaAccount h hpayer

/-- A transfer to an account of the game that Portal owns. -/
theorem Prepared.of_transfer (h : systemTransfer L payer (env.address g) amount = .ok L')
    (hpayer : Named env S payer) (hS : env.address g ∈ S)
    (howner : (L (env.address g)).owner = env.programId) :
    Prepared env S g L L' where
  track := ⟨id, (frame_systemTransfer h hpayer.signer hpayer.mem hS).track.congr
    (Set.empty_subset _) rfl, fun _ _ _ => rfl⟩
  owner := by rw [systemTransfer_owner h, howner]
  gains := gains_systemTransfer h hpayer

/-- The record written to a prepared account is all that changes on the board. -/
theorem Prepared.write (h : Prepared env S g L L₁) (hl : env.Lawful) (hg : g ≠ .session)
    (hd : Holds env g d) :
    Track env S {g} (fun B => B.put g d) L (L₁.setData (env.address g) d) := by
  obtain ⟨f, htrack, hf⟩ := h.track
  refine (htrack.write hl hg h.owner hd).congr (by simp) ?_
  funext g'
  rw [Board.put_apply, Board.put_apply]
  split
  · rfl
  · rename_i hne
    exact hf _ _ hne

/-- Preparing one account keeps the owners of the others. -/
theorem Prepared.owner_of_ne (h : Prepared env S g L L') (hne : g' ≠ g) (hg' : g' ≠ .session) :
    (L' (env.address g')).owner = (L (env.address g')).owner := by
  obtain ⟨f, htrack, -⟩ := h.track
  exact (htrack.untouched g' hne hg').2

theorem Prepared.board_of_ne (h : Prepared env S g L L') (hne : g' ≠ g) :
    boardOf env L' g' = boardOf env L g' := by
  obtain ⟨f, htrack, hf⟩ := h.track
  rw [htrack.board, hf _ _ hne]

theorem prepared_cursor (hl : env.Lawful) (hpayer : Named env S payer)
    (hsigner : payer.isSigner = true) (ha : a ∈ S)
    (h : loadOrCreateCursor env L payer (env.address .session) a = .ok (L', k)) :
    a = env.address .cursor ∧ Prepared env S .cursor L L' ∧ k.session = env.address .session ∧
      ((boardOf env L).cursor = some k ∨
        (boardOf env L).cursor = none ∧ k = .fresh env (env.address .session)) ∧
      ((boardOf env L).cursor = none → 0 < (L' (env.address .cursor)).lamports) := by
  unfold loadOrCreateCursor at h
  split at h
  · rename_i hempty
    simp only [createCursor, chain_ok, Prod.mk.injEq] at h
    obtain ⟨rfl, L₁, hcreate, rfl, rfl⟩ := h
    have hprepared : Prepared env S .cursor L L₁ := .of_create hl hcreate hpayer ha
    refine ⟨rfl, ⟨?_, ?_, hprepared.gains.trans (gains_setData _)⟩, rfl, .inr ⟨?_, rfl⟩,
      fun _ => ?_⟩
    · refine ⟨_, hprepared.write hl (by simp) rfl, ?_⟩
      intro B g' hg'
      rw [Board.put_apply, if_neg hg']
    · rw [setData_owner, hprepared.owner]
    · show (boardOf env L .cursor).bind _ = none
      rw [boardOf_eq_none_of_empty hempty]
      rfl
    · rw [setData_lamports]
      exact UInt64.lt_of_lt_of_le (hl.minimumBalance_pos 153) (initializePdaAccount_funded hcreate
        (aside_of_not_derived (hpayer.signer hsigner) .cursor))
  · simp only [chain_ok, Prod.mk.injEq] at h
    obtain ⟨state, hload, rfl, rfl⟩ := h
    obtain ⟨rfl, howner, hboard, hsession⟩ := game_loadCursor hload
    refine ⟨rfl, .of_owner howner, hsession, .inl hboard, fun hnone => ?_⟩
    rw [hnone] at hboard
    cases hboard

theorem prepared_checkpoint (hl : env.Lawful) (hpayer : Named env S payer)
    (hsigner : payer.isSigner = true) (hS : env.address (.checkpoint e) ∈ S)
    (h : fundCheckpoint env L payer (env.address .session) e (env.address (.checkpoint e)) k =
      .ok L') :
    Prepared env S (.checkpoint e) L L' ∧
      ((boardOf env L).checkpoint e = none ∨
        ∃ previous, (boardOf env L).checkpoint e = some previous ∧ reusableTerminal previous k) ∧
      (checkpointRent env).toNat + checkpointProposerBondLamports.toNat ≤
        (L' (env.address (.checkpoint e))).lamports.toNat := by
  have hne : env.address (.checkpoint e) ≠ payer.address :=
    aside_of_not_derived (hpayer.signer hsigner) _
  unfold fundCheckpoint at h
  split at h
  · rename_i hempty
    simp only [chain_ok, checkedAdd_eq_some] at h
    obtain ⟨lamports, hlamports, hcreate⟩ := h
    refine ⟨.of_create hl hcreate hpayer hS, .inl ?_, ?_⟩
    · show (boardOf env L (.checkpoint e)).bind _ = none
      rw [boardOf_eq_none_of_empty hempty]
      rfl
    · have hfunded := initializePdaAccount_funded hcreate hne
      rw [UInt64.le_iff_toNat_le] at hfunded
      omega
  · simp only [chain_ok, exists_and_left, UInt64.not_lt] at h
    obtain ⟨previous, hload, hreusable, hrent, htransfer⟩ := h
    obtain ⟨-, howner, hboard, -⟩ := game_loadCheckpoint hload
    refine ⟨.of_transfer htransfer hpayer hS howner, .inr ⟨previous, hboard, hreusable⟩, ?_⟩
    obtain ⟨-, left, credited, -, hcredited, rfl⟩ := systemTransfer_ok htransfer
    rw [setLamports_lamports, if_neg hne] at hcredited
    rw [setLamports_lamports, if_pos rfl]
    rw [UInt64.le_iff_toNat_le] at hrent
    omega

/-! ## Committing and cancelling -/

section Proposing

variable (hl : env.Lawful) (hproposer : Named env S proposer) (hcheckpoint : Named env S checkpoint)
  (hcursor : Named env S cursor)

include hl hproposer hcheckpoint hcursor

theorem proposeCheckpoint_move (hcheck : args.check = .ok u)
    (h : proposeCheckpoint env now proposer session checkpoint cursor args version2 L = .ok L') :
    ∃ s k c, Proposes env S now proposer.address L L' args s k c := by
  simp only [proposeCheckpoint, requireNoActiveCheckpoint, chain_ok, checkedAdd_eq_some,
    exists_and_left] at h
  obtain ⟨hsigner, -, s, hs, hvalidator, -, ⟨L₁, k⟩, hload, hidle, ⟨⟩, hadvance, ⟨⟩, hroot, hkey,
    deadline, hdeadline, L₂, hfund, rfl⟩ := h
  have hsigner : proposer.isSigner = true := by simpa using hsigner
  obtain ⟨hsession, hpolicy⟩ := game_loadSession hs
  rw [hsession] at hload hfund hkey
  have hkey : checkpoint.address = env.address (.checkpoint args.erSlot) := hkey
  obtain ⟨hkey', hprepared, hks, hk, hcreated⟩ :=
    prepared_cursor hl hproposer hsigner hcursor.mem hload
  rw [hkey] at hfund
  obtain ⟨hprepared', hreuse, hlocked⟩ :=
    prepared_checkpoint hl hproposer hsigner (hkey ▸ hcheckpoint.mem) hfund
  have hsame : (boardOf env L₁).checkpoint args.erSlot = (boardOf env L).checkpoint args.erSlot :=
    congrArg (Option.bind · _) (hprepared.board_of_ne (by simp))
  rw [hsame] at hreuse
  rw [hsession, hkey, hkey']
  obtain ⟨f, htrack, hf⟩ := hprepared.track
  have hwritten := htrack.trans (hprepared'.write hl (by simp)
    (d := .checkpoint (args.record (env.address .session) proposer.address now deadline
      (findCheckpointPda env (env.address .session) args.erSlot).2)) ⟨rfl, rfl⟩)
  have hwritten := hwritten.write hl (g := .cursor) (by simp)
    (by rw [setData_owner, hprepared'.owner_of_ne (by simp) (by simp), hprepared.owner])
    (d := .cursor { k with
      activeCheckpoint := env.address (.checkpoint args.erSlot)
      activeErSlot := args.erSlot }) hks
  simp only [ProposeCheckpoint.check, chain_ok, not_or, UInt64.not_lt] at hcheck
  refine ⟨s.clearSettlement, k, args.record (env.address .session) proposer.address now deadline
      (findCheckpointPda env (env.address .session) args.erSlot).2,
    { session := hpolicy
      validator := hvalidator
      signer := hproposer.signer hsigner
      cursor := hk
      idle := hidle
      advance := advancingCheckpoint_ok hadvance
      root := finalizedRoot_ok hroot
      steps := ⟨UInt64.pos_iff_ne_zero.mpr hcheck.1.2.1, hcheck.1.2.2⟩
      record := ⟨deadline, _, hdeadline, rfl⟩
      reuse := hreuse
      track := hwritten.congr (by simp) ?_
      gains := ((hprepared.gains.trans hprepared'.gains).trans (gains_setData _)).trans
        (gains_setData _)
      funded := fun hnone => by
        rw [setData_lamports, setData_lamports]
        exact UInt64.lt_of_lt_of_le (hcreated hnone) (hprepared'.gains .cursor)
      locked := by
        rw [setData_lamports, setData_lamports]
        exact hlocked }⟩
  -- whether the cursor was created or found, it is overwritten
  funext g
  simp only [Board.put_apply]
  split
  · rfl
  · rename_i hne
    rw [hf _ _ hne]

theorem proposeCheckpointV2_move (hbinding : Named env S binding)
    (h : proposeCheckpointV2 env now proposer session checkpoint cursor binding record args L = .ok
      L') : ∃ s k c, Proposes env S now proposer.address L L' args.proposal s k c := by
  simp only [proposeCheckpointV2, chain_ok, exists_and_left] at h
  obtain ⟨frame, -, context, -, -, -, first, -, -, -, -, -, input, -, -, hkey, L₁, hinit, u, hcheck,
    L₂, hpropose, rfl⟩ := h
  have haside : Aside env binding.address := by
    rw [hkey]
    exact aside_of_seeds hl (.checkpointBindingV2 _)
  have hbefore : Frame env S L L₁ :=
    frame_initializePdaAccount hinit hproposer.signer haside hproposer.mem hbinding.mem
  obtain ⟨s, k, c, hmove⟩ := proposeCheckpoint_move hl hproposer hcheckpoint hcursor hcheck hpropose
  have hafter : Frame env S L₂ (L₂.setData binding.address (.checkpointBindingV2
      { checkpoint := checkpoint.address
        pre := args.pre
        post := args.post
        prefixRecord := record.address
        inputContextRoot := input
        bump := (findCheckpointBindingV2Pda env checkpoint.address).2 })) :=
    frame_setData_of_ne haside (by simp)
  have hboard : boardOf env L₁ = boardOf env L := hbefore.track.board
  refine ⟨s, k, c, ?_⟩
  exact
    { hmove with
      session := hboard ▸ hmove.session
      cursor := hboard ▸ hmove.cursor
      reuse := hboard ▸ hmove.reuse
      track := ((hbefore.track.trans hmove.track).trans hafter.track).congr (by simp) rfl
      gains := (Gains.trans hbefore.lamports hmove.gains).trans hafter.lamports
      funded := fun hnone =>
        UInt64.lt_of_lt_of_le (hmove.funded (hboard ▸ hnone)) (hafter.lamports .cursor)
      locked := hmove.locked.trans (UInt64.le_iff_toNat_le.mp (hafter.lamports _)) }

end Proposing

section Committing

variable (hl : env.Lawful)
  (hderived : ∀ e c, (boardOf env L).checkpoint e = some c → ¬env.Derived c.proposer)
  (hcheckpoint : Named env S checkpoint) (hproposer : Named env S proposer)

include hl hderived hcheckpoint hproposer

theorem commitCheckpoint_move
    (h : commitCheckpoint env now committer session checkpoint cursor proposer e version2 L = .ok
      L') : ∃ s c k, Commits env S now L L' e s c k := by
  simp only [commitCheckpoint, releaseCheckpointBond, chain_ok, exists_and_left, UInt64.not_lt] at h
  obtain ⟨-, -, s, hs, c, hc, k, hk, -, hpending, hlate, ⟨⟩, hadvance, ⟨⟩, hactive, ⟨⟩, hroot,
    ⟨L₁, c'⟩, ⟨hrecipient, hbond⟩, rfl⟩ := h
  obtain ⟨hsession, hpolicy⟩ := game_loadSession hs
  rw [hsession] at hc hk
  obtain ⟨hkey, howner, hboard, hcs, hce⟩ := game_loadCheckpoint hc
  obtain ⟨hkey', howner', hboard', hks⟩ := game_loadCursor hk
  rw [hkey] at hactive hbond howner
  rw [hkey'] at howner'
  obtain ⟨hlocked, rfl, htrack, hpays⟩ := resolveCheckpointBond_ok hbond
    (hrecipient ▸ hderived e c hboard) (hkey ▸ hcheckpoint.mem) hproposer.mem
  have howners := fun g hg => (htrack.untouched g (Set.notMem_empty _) hg).2
  have hwritten := htrack.write hl (g := .checkpoint e) (by simp)
    ((howners _ (by simp)).trans howner)
    (d := .checkpoint { c with status := .committed, bondStatus := .released }) ⟨hcs, hce⟩
  have hwritten := hwritten.write hl (g := .cursor) (by simp)
    (by rw [setData_owner]; exact (howners _ (by simp)).trans howner')
    (d := .cursor { k with
        latestFinalizedCheckpoint := env.address (.checkpoint e)
        latestFinalizedErSlot := e
        latestFinalizedStateRoot := c.newStateRoot }) hks
  refine ⟨s.clearSettlement, c, k,
    { checkpoint := hboard
      cursor := hboard'
      active := activeCheckpoint_ok hactive
      session := hpolicy
      pending := hpending
      locked := hlocked
      late := hlate
      advance := advancingCheckpoint_ok hadvance
      root := finalizedRoot_ok hroot
      track := ?_
      pays := ?_ }⟩
  · rw [hkey, hkey']
    exact hwritten.congr (by simp [Set.insert_subset_iff]) rfl
  · rw [← hrecipient]
    exact hpays.congr (fun _ => rfl) (by simp)

theorem commitCheckpointV2_move
    (h : commitCheckpointV2 env now committer session checkpoint cursor proposer binding e L = .ok
      L') : ∃ s c k, Commits env S now L L' e s c k := by
  simp only [commitCheckpointV2, chain_ok, exists_and_left] at h
  obtain ⟨frame, hframe, -, state, -, context, -, checkpointState, -, -, -, L₁, hcommit, rfl⟩ := h
  obtain ⟨hsession, hdata⟩ := loadSessionV2_ok hframe
  obtain ⟨s, c, k, hmove⟩ := commitCheckpoint_move hl hderived hcheckpoint hproposer hcommit
  have hpolicy : policyOf (L₁ (env.address .session)).data = some frame.base.clearSettlement := by
    rw [← boardOf_session, hmove.track.board]
    simp [boardOf_session, hdata, policyOf, ← hsession]
  -- only the consumed part of the ingress chain changes, which is no part of the policy
  have hafter : Frame env S L₁ (L₁.setData (env.address .session) (.sessionV2
      { frame with
        consumedIngressCount := state.post.ingressCount
        consumedIngressRoot := state.post.ingressRoot })) :=
    frame_setSession hl hpolicy.symm (by simp)
  rw [hsession]
  exact ⟨s, c, k, { hmove with
    track := (hmove.track.trans hafter.track).congr (by simp) rfl
    pays := hmove.pays.congr (fun _ => rfl) (by simp) }⟩

end Committing

theorem cancelCheckpoint_move (hl : env.Lawful) (hproposer : Named env S proposer)
    (hcheckpoint : Named env S checkpoint)
    (h : cancelCheckpoint env now proposer session checkpoint cursor e L = .ok L') :
    ∃ c k, Cancels env S now proposer.address L L' e c k := by
  simp only [cancelCheckpoint, releaseCheckpointBond, chain_ok, exists_and_left, UInt64.not_le] at h
  obtain ⟨hsigner, s, hs, c, hc, k, hk, -, hpending, -, hearly, ⟨⟩, hactive,
    ⟨L₁, c'⟩, ⟨hrecipient, hbond⟩, rfl⟩ := h
  obtain ⟨hsession, hpolicy⟩ := game_loadSession hs
  rw [hsession] at hc hk
  obtain ⟨hkey, howner, hboard, hcs, hce⟩ := game_loadCheckpoint hc
  obtain ⟨hkey', howner', hboard', hks⟩ := game_loadCursor hk
  rw [hkey] at hactive hbond howner
  rw [hkey'] at howner'
  obtain ⟨hlocked, rfl, htrack, hpays⟩ := resolveCheckpointBond_ok hbond
    (hproposer.signer (by simpa using hsigner)) (hkey ▸ hcheckpoint.mem) hproposer.mem
  have howners := fun g hg => (htrack.untouched g (Set.notMem_empty _) hg).2
  have hwritten := htrack.write hl (g := .checkpoint e) (by simp)
    ((howners _ (by simp)).trans howner)
    (d := .checkpoint { c with status := .cancelled, bondStatus := .released }) ⟨hcs, hce⟩
  have hwritten := hwritten.write hl (g := .cursor) (by simp)
    (by rw [setData_owner]; exact (howners _ (by simp)).trans howner')
    (d := .cursor k.clearActive) hks
  refine ⟨c, k,
    { checkpoint := hboard
      cursor := hboard'
      active := activeCheckpoint_ok hactive
      pending := hpending
      locked := hlocked
      early := hearly
      proposer := hrecipient
      track := ?_
      pays := ?_ }⟩
  · rw [hkey, hkey']
    exact hwritten.congr (by simp [Set.insert_subset_iff]) rfl
  · rw [← hrecipient]
    exact hpays.congr (fun _ => rfl) (by simp)

theorem finishSettlement_move (hl : env.Lawful)
    (h : finishSettlement env now validator session checkpoint cursor e checksum L = .ok L') :
    ∃ s c k, Finishes env S now validator.address L L' e s c k := by
  simp only [finishSettlement, requireValidator, loadCheckpointForSettlement, chain_ok,
    exists_and_left, not_or] at h
  obtain ⟨s, hs, ⟨-, hvalidator⟩, ⟨⟩, -, -, c, ⟨c', hc, -, hcommitted, rfl⟩, k, hk, ⟨⟩, hactive,
    hstore⟩ := h
  obtain ⟨hsession, hpolicy⟩ := game_loadSession hs
  rw [hsession] at hc hk
  obtain ⟨hkey, howner, hboard, hcs, hce⟩ := game_loadCheckpoint hc
  obtain ⟨hkey', howner', hboard', hks⟩ := game_loadCursor hk
  rw [hkey] at hactive howner
  rw [hkey'] at howner'
  rw [hkey, hkey', hsession] at hstore
  obtain ⟨d, hd, rfl⟩ := storeSession_ok hstore
  have hwritten := (track_setData (S := S) hl (g := .checkpoint e) (by simp) howner
    (d := .checkpoint { c' with status := .settled }) ⟨hcs, hce⟩).write hl (g := .cursor)
    (by simp) (by rw [setData_owner]; exact howner') (d := .cursor k.clearActive) hks
  have hwritten := hwritten.trans (track_setSession hl (policyOf_writeSession hd).1)
  exact ⟨s.clearSettlement, c', k,
    { checkpoint := hboard
      cursor := hboard'
      active := activeCheckpoint_ok hactive
      session := hpolicy
      validator := hvalidator
      committed := hcommitted
      track := hwritten.congr (by simp [Set.insert_subset_iff]) rfl
      gains := ((gains_setData _).trans (gains_setData _)).trans (gains_setData _) }⟩

/-! ## Challenges -/

section Challenging

variable (hl : env.Lawful) (hchallenger : Named env S challenger)

include hl hchallenger

theorem prepared_challenge (hS : env.address (.challenge e) ∈ S)
    (h : prepareChallengeAccount env L challenger (env.address (.checkpoint e)) (env.address
      (.challenge e)) = .ok L') :
    Prepared env S (.challenge e) L L' ∧
      ∀ previous, (boardOf env L).challenge e = some previous → previous.status ≠ .active := by
  unfold prepareChallengeAccount at h
  split at h
  · rename_i hempty
    refine ⟨.of_create hl h hchallenger hS, fun previous hprevious => ?_⟩
    have hnone : (boardOf env L).challenge e = none := by
      show (boardOf env L (.challenge e)).bind _ = none
      rw [boardOf_eq_none_of_empty hempty]
      rfl
    rw [hnone] at hprevious
    cases hprevious
  · simp only [chain_ok] at h
    obtain ⟨existing, hload, hactive, rfl⟩ := h
    obtain ⟨-, howner, hboard, -⟩ := game_loadChallenge hload
    refine ⟨.of_owner howner, fun previous hprevious => ?_⟩
    rw [hboard] at hprevious
    cases hprevious
    exact hactive

theorem prepared_daProof (hS : env.address (.daProof e) ∈ S)
    (h : prepareDaAccount env L challenger (env.address (.challenge e)) (env.address (.checkpoint
      e)) (env.address (.daProof e)) = .ok L') : Prepared env S (.daProof e) L L' := by
  unfold prepareDaAccount at h
  split at h
  · exact .of_create hl h hchallenger hS
  · simp only [chain_ok] at h
    obtain ⟨existing, hload, rfl⟩ := h
    obtain ⟨-, howner, -⟩ := game_loadDaProof hload
    exact .of_owner howner

theorem openChallenge_move (hchallenge : Named env S challenge) (hdaProof : Named env S daProof)
    (h : openChallenge env now challenger session checkpoint challenge daProof e L = .ok L') :
    ∃ s c ch d, OpensChallenge env S now challenger.address L L' e s c ch d := by
  simp only [openChallenge, chain_ok, exists_and_left, not_or, UInt64.not_le, Bool.not_eq_true] at h
  obtain ⟨hsigner, s, hs, c, hc, ⟨hpending, hunresolved⟩, hearly, hkey', deadline, hdeadline, L₁,
    hprepare, hkey'', L₂, hprepare', rfl⟩ := h
  obtain ⟨hsession, hpolicy⟩ := game_loadSession hs
  rw [hsession] at hc
  obtain ⟨hkey, howner, hboard, hcs, hce⟩ := game_loadCheckpoint hc
  rw [hkey] at hkey' hprepare hprepare' howner
  have hkey' : challenge.address = env.address (.challenge e) := hkey'
  rw [hkey'] at hkey'' hprepare hprepare'
  have hkey'' : daProof.address = env.address (.daProof e) := hkey''
  rw [hkey''] at hprepare'
  obtain ⟨hprepared, hfinished⟩ := prepared_challenge hl hchallenger (hkey' ▸ hchallenge.mem)
    hprepare
  have hprepared' := prepared_daProof hl hchallenger (hkey'' ▸ hdaProof.mem) hprepare'
  rw [hkey, hkey', hkey'']
  obtain ⟨f, htrack, hf⟩ := hprepared.track
  obtain ⟨f', htrack', hf'⟩ := hprepared'.track
  have hwritten := (htrack.trans htrack').write hl (g := .challenge e) (by simp)
    (by rw [hprepared'.owner_of_ne (by simp) (by simp), hprepared.owner])
    (d := .challenge (.opened (env.address (.checkpoint e)) challenger.address c s now deadline
      (findChallengePda env (env.address (.checkpoint e))).2)) rfl
  have hwritten := hwritten.write hl (g := .daProof e) (by simp)
    (by rw [setData_owner, hprepared'.owner])
    (d := .daProof (.awaited (env.address (.challenge e)) (env.address (.checkpoint e))
      c.daCommitment (findDaProofPda env (env.address (.challenge e))).2)) ⟨rfl, rfl⟩
  have hwritten := hwritten.write hl (g := .checkpoint e) (by simp)
    (by rw [setData_owner, setData_owner,
      hprepared'.owner_of_ne (by simp) (by simp), hprepared.owner_of_ne (by simp) (by simp),
      howner])
    (d := .checkpoint
      { c with
        status := .challenged
        challenger := challenger.address
        challengedAtL1Slot := now }) ⟨hcs, hce⟩
  refine ⟨s.clearSettlement, c,
    .opened (env.address (.checkpoint e)) challenger.address c s.clearSettlement now deadline
      (findChallengePda env (env.address (.checkpoint e))).2,
    .awaited (env.address (.challenge e)) (env.address (.checkpoint e))
      c.daCommitment (findDaProofPda env (env.address (.challenge e))).2,
    { session := hpolicy
      checkpoint := hboard
      signer := hchallenger.signer (by simpa using hsigner)
      pending := hpending
      unresolved := hunresolved
      early := hearly
      finished := hfinished
      record := ⟨deadline, _, hdeadline, rfl⟩
      awaited := ⟨_, rfl⟩
      track := hwritten.congr ?_ ?_
      gains := (((hprepared.gains.trans hprepared'.gains).trans (gains_setData _)).trans
        (gains_setData _)).trans (gains_setData _) }⟩
  · rintro g ((((hg | hg) | hg) | hg) | hg) <;> simp [Set.mem_singleton_iff.mp hg]
  · funext g
    simp only [Board.put_apply]
    split_ifs with hcheckpoint hda hch
    · rfl
    · rfl
    · rfl
    · rw [hf' _ _ hda, hf _ _ hch]

end Challenging

theorem respondChallenge_move (hl : env.Lawful)
    (h : respondChallenge env now validator session checkpoint challenge daProof args L = .ok L') :
    ∃ c ch ch' d d', Responds env S now validator.address L L' args c ch ch' d d' := by
  simp only [respondChallenge, chain_ok, exists_and_left, not_or] at h
  obtain ⟨-, s, hs, -, c, hc, hchallenged, ch, hch, ⟨⟩, hlive, ⟨hturn, hrespondent⟩, d, hd, d',
    hreveal, ch', hrespond, deadline, hdeadline, rfl⟩ := h
  obtain ⟨hsession, -⟩ := game_loadSession hs
  rw [hsession] at hc
  obtain ⟨hkey, -, hboard, -, -⟩ := game_loadCheckpoint hc
  rw [hkey] at hch hd
  obtain ⟨hkey', howner', hboard', hchkey⟩ := game_loadChallenge hch
  rw [hkey'] at hd howner'
  obtain ⟨hkey'', howner'', hboard'', hdkey⟩ := game_loadDaProof hd
  rw [hkey''] at howner''
  obtain ⟨hactive, hlive⟩ := liveTurn_ok hlive
  obtain ⟨-, hdchallenge, hdcheckpoint⟩ := DataAvailabilityProof.reveal_ok hreveal
  have hch'key : ch'.checkpoint = env.address (.checkpoint args.erSlot) := by
    rcases Challenge.respond_ok hrespond with ⟨-, -, -, rfl⟩ | ⟨-, -, -, rfl⟩ <;> exact hchkey
  have hwritten := (track_setData (S := S) hl (g := .daProof args.erSlot) (by simp) howner''
    (d := .daProof d') ⟨hdchallenge.trans hdkey.1, hdcheckpoint.trans hdkey.2⟩).write hl
    (g := .challenge args.erSlot) (by simp) (by rw [setData_owner]; exact howner')
    (d := .challenge { ch' with turnDeadlineL1Slot := deadline }) hch'key
  rw [hkey', hkey'']
  exact ⟨c, ch, ch', d, d',
    { checkpoint := hboard
      challenge := hboard'
      challenged := hchallenged
      isActive := hactive
      live := hlive
      turn := hturn
      respondent := hrespondent
      answer := hrespond
      daProof := hboard''
      reveals := hreveal
      record := ⟨deadline, hdeadline, hwritten.congr (by simp [Set.insert_subset_iff]) rfl⟩
      gains := (gains_setData _).trans (gains_setData _) }⟩

theorem bisectChallenge_move (hl : env.Lawful)
    (h : bisectChallenge env now challenger session checkpoint challenge e disputeUpper L =
      .ok L') :
    ∃ c ch ch', Bisects env S now challenger.address L L' e disputeUpper c ch ch' := by
  simp only [bisectChallenge, chain_ok, exists_and_left, not_or] at h
  obtain ⟨-, s, hs, c, hc, hchallenged, ch, hch, ⟨⟩, hlive, ⟨hturn, hchallenger⟩, ch', hbisect,
    deadline, hdeadline, rfl⟩ := h
  obtain ⟨hsession, -⟩ := game_loadSession hs
  rw [hsession] at hc
  obtain ⟨hkey, -, hboard, -, -⟩ := game_loadCheckpoint hc
  rw [hkey] at hch
  obtain ⟨hkey', howner', hboard', hchkey⟩ := game_loadChallenge hch
  rw [hkey'] at howner'
  obtain ⟨hactive, hlive⟩ := liveTurn_ok hlive
  have hch'key : ch'.checkpoint = env.address (.checkpoint e) := by
    obtain ⟨-, -, rounds, -, rfl⟩ := Challenge.bisect_ok hbisect
    exact hchkey
  rw [hkey']
  exact ⟨c, ch, ch',
    { checkpoint := hboard
      challenge := hboard'
      challenged := hchallenged
      isActive := hactive
      live := hlive
      turn := hturn
      challenger := hchallenger
      choice := hbisect
      record := ⟨deadline, hdeadline, track_setData hl (by simp) howner' hch'key⟩
      gains := gains_setData _ }⟩

section Deciding

variable (hl : env.Lawful)
  (hderived : ∀ e ch, (boardOf env L).challenge e = some ch → ¬env.Derived ch.challenger)
  (hcheckpoint : Named env S checkpoint)

include hl hderived hcheckpoint

theorem timeoutChallenge_move (hrecipient : Named env S recipient)
    (h : timeoutChallenge env now caller session checkpoint challenge daProof recipient cursor e L =
      .ok L') :
    ∃ c ch, ¬ch.Live now ∧
      (ch.turn = .respondent ∧ (∃ k, ChallengerWins env S L L' e c ch k) ∨
        ch.turn ≠ .respondent ∧ ValidatorWins env S L L' e c ch) := by
  simp only [timeoutChallenge, chain_ok, exists_and_left] at h
  obtain ⟨-, s, hs, c, hc, hchallenged, ch, hch, hactive, hlate, hchallenger, k, hk, ⟨⟩, hinflight,
    d, hd, h⟩ := h
  obtain ⟨hsession, -⟩ := game_loadSession hs
  rw [hsession] at hc hk
  obtain ⟨hkey, howner, hboard, hcs, hce⟩ := game_loadCheckpoint hc
  rw [hkey] at hch hd hinflight howner
  obtain ⟨hkey', howner', hboard', hchkey⟩ := game_loadChallenge hch
  rw [hkey'] at hd howner'
  obtain ⟨hkey'', howner'', hboard'', hdkey⟩ := game_loadDaProof hd
  rw [hkey''] at howner''
  obtain ⟨hcursorkey, hcursorowner, hcursor, hks⟩ := game_loadCursor hk
  rw [hcursorkey] at hcursorowner
  rw [hkey, hkey', hkey'', hcursorkey] at h
  refine ⟨c, ch, hlate, ?_⟩
  unfold settleTimeout at h
  split at h
  · rename_i hturn
    simp only [slashCheckpointBond, chain_ok] at h
    obtain ⟨⟨L₁, c'⟩, hbond, rfl⟩ := h
    obtain ⟨hlocked, rfl, htrack, hpays⟩ := resolveCheckpointBond_ok hbond
      (hchallenger ▸ hderived e ch hboard') (hkey ▸ hcheckpoint.mem) hrecipient.mem
    have howners : ∀ g, g ≠ .session → (L₁ (env.address g)).owner = (L (env.address g)).owner := by
      intro g hg
      rw [(htrack.untouched g (Set.notMem_empty _) hg).2, setData_owner]
    have hwritten := (track_setData (S := S) hl (g := .daProof e) (by simp) howner''
      (d := .daProof d.timedOut)
      (by rw [Holds, DataAvailabilityProof.timedOut]; split <;> exact hdkey))
    have hwritten := (hwritten.trans htrack).write hl (g := .cursor) (by simp)
      ((howners _ (by simp)).trans hcursorowner) (d := .cursor k.clearActive) hks
    have hwritten := hwritten.write hl (g := .checkpoint e) (by simp)
      (by rw [setData_owner]; exact (howners _ (by simp)).trans howner)
      (d := .checkpoint
        { c with status := .invalid, bondStatus := .slashed, challengeResolved := true }) ⟨hcs, hce⟩
    have hwritten := hwritten.write hl (g := .challenge e) (by simp)
      (by rw [setData_owner, setData_owner]; exact (howners _ (by simp)).trans howner')
      (d := .challenge { ch with status := .challengerWon }) hchkey
    refine .inl ⟨hturn, k,
      { checkpoint := hboard
        cursor := hcursor
        active := activeCheckpoint_ok hinflight
        challenge := hboard'
        challenged := hchallenged
        isActive := hactive
        locked := hlocked
        track := ⟨d.timedOut, hwritten.congr ?_ ?_⟩
        pays := hchallenger ▸ hpays.congr (by simp) (by simp) }⟩
    · rintro g ((((hg | hg) | hg) | hg) | hg)
      · simp [Set.mem_singleton_iff.mp hg]
      · cases hg
      all_goals simp [Set.mem_singleton_iff.mp hg]
    · funext g
      simp only [Board.put_apply, id]
      split_ifs with h₁ h₂ h₃ h₄ <;> simp_all
  · rename_i hturn
    rw [pure_eq_ok] at h
    subst h
    have hwritten := (track_setData (S := S) hl (g := .checkpoint e) (by simp) howner
      (d := .checkpoint { c with status := .pending, challengeResolved := true })
      ⟨hcs, hce⟩).write hl (g := .challenge e) (by simp)
      (by rw [setData_owner]; exact howner')
      (d := .challenge { ch with status := .validatorWon }) hchkey
    exact .inr ⟨hturn,
      { checkpoint := hboard
        challenge := hboard'
        challenged := hchallenged
        isActive := hactive
        track := hwritten.congr (by simp [Set.insert_subset_iff]) rfl
        gains := (gains_setData _).trans (gains_setData _) }⟩

theorem resolveChallenge_move (hrecipient : Named env S recipient)
    (h : resolveChallenge env now submitter session checkpoint challenge daProof proof recipient
      cursor e mode L = .ok L') :
    ∃ c ch p,
      Resolves env now L e mode c ch p .invalid ∧ (∃ k, ChallengerWins env S L L' e c ch k) ∨
        Resolves env now L e mode c ch p .valid ∧ ValidatorWins env S L L' e c ch := by
  simp only [resolveChallenge, chain_ok, exists_and_left, not_or, Bool.not_eq_false] at h
  obtain ⟨-, s, hs, c, hc, hchallenged, ch, hch, ⟨⟩, hlive, ⟨hturn, hisolated⟩, d, hd, -, k, hk,
    ⟨⟩, hinflight, p, hp, -, -, hsealed, -, -, hbound, h⟩ := h
  obtain ⟨hsession, -⟩ := game_loadSession hs
  rw [hsession] at hc hk hbound
  obtain ⟨hkey, howner, hboard, hcs, hce⟩ := game_loadCheckpoint hc
  rw [hkey] at hch hd hp hinflight howner hbound
  obtain ⟨hkey', howner', hboard', hchkey⟩ := game_loadChallenge hch
  rw [hkey'] at hd howner'
  obtain ⟨hkey'', howner'', hboard'', hdkey⟩ := game_loadDaProof hd
  obtain ⟨hcursorkey, hcursorowner, hcursor, hks⟩ := game_loadCursor hk
  obtain ⟨-, -, hproof, -⟩ := game_loadStepProof hp
  obtain ⟨hactive, hlive⟩ := liveTurn_ok hlive
  rw [hcursorkey] at hcursorowner
  rw [hkey, hkey', hcursorkey] at h
  have hresolves : ∀ verdict, verifyStepProof env mode c ch p = verdict →
      Resolves env now L e mode c ch p verdict :=
    fun verdict hverdict => ⟨hlive, hturn, hisolated, hproof, hsealed, hbound, hverdict⟩
  refine ⟨c, ch, p, ?_⟩
  cases hverdict : verifyStepProof env mode c ch p with
  | unavailable =>
    rw [hverdict] at h
    cases h
  | invalid =>
    rw [hverdict] at h
    simp only [settleResolution, slashCheckpointBond, chain_ok] at h
    obtain ⟨hchallenger, ⟨L₁, c'⟩, hbond, rfl⟩ := h
    obtain ⟨hlocked, rfl, htrack, hpays⟩ := resolveCheckpointBond_ok hbond
      (hchallenger ▸ hderived e ch hboard') (hkey ▸ hcheckpoint.mem) hrecipient.mem
    have howners := fun g hg => (htrack.untouched g (Set.notMem_empty _) hg).2
    have hwritten := htrack.write hl (g := .checkpoint e) (by simp)
      ((howners _ (by simp)).trans howner)
      (d := .checkpoint
        { c with status := .invalid, bondStatus := .slashed, challengeResolved := true }) ⟨hcs, hce⟩
    have hwritten := hwritten.write hl (g := .challenge e) (by simp)
      (by rw [setData_owner]; exact (howners _ (by simp)).trans howner')
      (d := .challenge { ch with status := .challengerWon }) hchkey
    have hwritten := hwritten.write hl (g := .cursor) (by simp)
      (by rw [setData_owner, setData_owner]
          exact (howners _ (by simp)).trans hcursorowner)
      (d := .cursor k.clearActive) hks
    refine .inl ⟨hresolves _ hverdict, k,
      { checkpoint := hboard
        cursor := hcursor
        active := activeCheckpoint_ok hinflight
        challenge := hboard'
        challenged := hchallenged
        isActive := hactive
        locked := hlocked
        track := ⟨d, hwritten.congr ?_ ?_⟩
        pays := hchallenger ▸ hpays.congr (fun _ => rfl) (by simp) }⟩
    · rintro g (((hg | hg) | hg) | hg)
      · cases hg
      all_goals simp [Set.mem_singleton_iff.mp hg]
    · -- the data-availability record stays as it is
      have hsame : boardOf env L (.daProof e) = some (.daProof d) :=
        (boardOf_eq_some (by simp)).mpr
          ⟨hkey'' ▸ howner'', (daProofOf_eq_some.mp (boardOf_daProof ▸ hboard'')).2.1, hdkey⟩
      funext g
      simp only [Board.put_apply, id]
      split_ifs with h₁ h₂ h₃ h₄ <;> simp_all
  | valid =>
    rw [hverdict] at h
    simp only [settleResolution, pure_eq_ok] at h
    subst h
    have hwritten := (track_setData (S := S) hl (g := .checkpoint e) (by simp) howner
      (d := .checkpoint { c with status := .pending, challengeResolved := true })
      ⟨hcs, hce⟩).write hl (g := .challenge e) (by simp)
      (by rw [setData_owner]; exact howner')
      (d := .challenge { ch with status := .validatorWon }) hchkey
    exact .inr ⟨hresolves _ hverdict,
      { checkpoint := hboard
        challenge := hboard'
        challenged := hchallenged
        isActive := hactive
        track := hwritten.congr (by simp [Set.insert_subset_iff]) rfl
        gains := (gains_setData _).trans (gains_setData _) }⟩

end Deciding

/-! ## Step proofs -/

theorem createStepProof_move (hl : env.Lawful) (hauthority : Named env S authority)
    (hproof : Named env S proof)
    (h : createStepProof env now authority session checkpoint challenge proof args L = .ok L') :
    ∃ p, Track env S {.stepProof args.erSlot}
      (fun B => B.put (.stepProof args.erSlot) (.stepProof p)) L L' ∧ Gains env L L' := by
  simp only [createStepProof, chain_ok, exists_and_left] at h
  obtain ⟨-, -, s, hs, c, hc, -, ch, -, -, -, -, -, -, -, -, hkey', L₁, hprepare, rfl⟩ := h
  obtain ⟨hsession, -⟩ := game_loadSession hs
  rw [hsession] at hc
  obtain ⟨hkey, -⟩ := game_loadCheckpoint hc
  rw [hkey] at hkey'
  have hkey' : proof.address = env.address (.stepProof args.erSlot) := hkey'
  rw [hkey'] at hprepare
  have hprepared : Prepared env S (.stepProof args.erSlot) L L₁ := by
    unfold prepareStepProofAccount at hprepare
    split at hprepare
    · exact .of_create hl hprepare hauthority (hkey' ▸ hproof.mem)
    · simp only [chain_ok, not_or] at hprepare
      obtain ⟨⟨howner, -⟩, rfl⟩ := hprepare
      exact .of_owner howner
  rw [hkey']
  exact ⟨_, hprepared.write hl (by simp) hkey, hprepared.gains.trans (gains_setData _)⟩

theorem loadOpenStepProof_ok
    (h : loadOpenStepProof env now authority session checkpoint challenge proof e L = .ok p) :
    proof.address = env.address (.stepProof e) ∧ (L proof.address).owner = env.programId ∧
      p.checkpoint = env.address (.checkpoint e) := by
  simp only [loadOpenStepProof, chain_ok, exists_and_left] at h
  obtain ⟨-, s, hs, c, hc, -, ch, -, -, -, -, p', hp, -, -, -, rfl⟩ := h
  obtain ⟨hsession, -⟩ := game_loadSession hs
  rw [hsession] at hc
  obtain ⟨hkey, -⟩ := game_loadCheckpoint hc
  rw [hkey] at hp
  obtain ⟨hkey', howner, -, hcheckpoint⟩ := game_loadStepProof hp
  exact ⟨hkey', howner, hcheckpoint⟩

theorem writeStepProof_move (hl : env.Lawful)
    (h : writeStepProof env now authority session checkpoint challenge proof args L = .ok L') :
    ∃ p, Track env S {.stepProof args.erSlot}
      (fun B => B.put (.stepProof args.erSlot) (.stepProof p)) L L' ∧ Gains env L L' := by
  simp only [writeStepProof, chain_ok] at h
  obtain ⟨p, hload, -, rfl⟩ := h
  obtain ⟨hkey, howner, hcheckpoint⟩ := loadOpenStepProof_ok hload
  rw [hkey] at howner ⊢
  exact ⟨_, track_setData hl (by simp) howner hcheckpoint, gains_setData _⟩

theorem sealStepProof_move (hl : env.Lawful)
    (h : sealStepProof env now authority session checkpoint challenge proof e proofLen L = .ok L') :
    ∃ p, Track env S {.stepProof e}
      (fun B => B.put (.stepProof e) (.stepProof p)) L L' ∧ Gains env L L' := by
  simp only [sealStepProof, chain_ok] at h
  obtain ⟨p, hload, -, rfl⟩ := h
  obtain ⟨hkey, howner, hcheckpoint⟩ := loadOpenStepProof_ok hload
  rw [hkey] at howner ⊢
  exact ⟨_, track_setData hl (by simp) howner hcheckpoint, gains_setData _⟩

/-! ## Sessions -/

theorem OpenSession.policyOf_data (args : OpenSession) (authority : Pubkey) (now : UInt64)
    (version2 : Option V2SessionInitialization) (bump : UInt8) :
    ∃ nonce, policyOf (args.data authority now version2 bump) =
      some (args.record authority now nonce bump) := by
  cases version2 with
  | none => exact ⟨_, rfl⟩
  | some initial => exact ⟨_, rfl⟩

section Opening

variable (hl : env.Lawful) (hpayer : Named env S payer) (hsession : Named env S session)
  (hfeeVault : Named env S feeVault)

include hl hpayer hsession hfeeVault

theorem openSession_move (h : openSession env now payer session feeVault args version2 L = .ok L') :
    ∃ s v, OpensSession env S L L' s v := by
  simp only [openSession, chain_ok, exists_and_left] at h
  obtain ⟨-, -, hkey, hkey', L₁, hinit, L₂, hinit', rfl⟩ := h
  have hkey : session.address = env.address .session := hkey
  have hkey' : feeVault.address = env.address .feeVault := hkey'
  rw [hkey] at hinit
  rw [hkey'] at hinit'
  obtain ⟨hempty, -⟩ := initializePdaAccount_ok hinit
  have hprepared : Prepared env S .feeVault L₁ L₂ :=
    .of_create hl hinit' hpayer (hkey' ▸ hfeeVault.mem)
  obtain ⟨nonce, hpolicy⟩ :=
    args.policyOf_data payer.address now version2 (findSessionPda env).2
  have hwritten := (track_initializePdaAccount hl hinit hpayer (hkey ▸ hsession.mem)).trans
    (track_initializePdaAccount hl hinit' hpayer (hkey' ▸ hfeeVault.mem))
  have hwritten := hwritten.trans (track_setSession hl hpolicy)
  have hwritten := hwritten.write hl (g := .feeVault) (by simp)
    (by rw [setData_owner, hprepared.owner])
    (d := .feeVault { authority := payer.address, bump := (findFeeVaultPda env).2 }) trivial
  rw [hkey, hkey']
  refine ⟨args.record payer.address now nonce (findSessionPda env).2,
    { authority := payer.address, bump := (findFeeVaultPda env).2 },
    { vacant := ?_
      fresh := rfl
      track := hwritten.congr ?_ ?_
      gains := (((gains_initializePdaAccount hinit hpayer).trans hprepared.gains).trans
        (gains_setData _)).trans (gains_setData _) }⟩
  · rw [boardOf_session, hempty]
    rfl
  · rintro g (((hg | hg) | hg) | hg) <;> simp [Set.mem_singleton_iff.mp hg]
  · funext g
    simp only [Board.put_apply, Board.clear_apply]
    split_ifs <;> rfl

theorem openSessionV2_move (hepoch : Named env S epoch)
    (h : openSessionV2 env now payer session feeVault epoch args L = .ok L') :
    ∃ s v, OpensSession env S L L' s v := by
  simp only [openSessionV2, prepareSessionEpochV2, chain_ok, exists_and_left, not_or] at h
  obtain ⟨-, ⟨-, hkey, -⟩, counter, -, -, L₁, hprepare, L₂, hopen, rfl⟩ := h
  have haside : Aside env epoch.address := by
    rw [hkey]
    exact aside_of_seeds hl .sessionEpochV2
  have hbefore : Frame env S L L₁ := by
    split at hprepare
    · exact frame_initializePdaAccount hprepare hpayer.signer haside hpayer.mem hepoch.mem
    · cases hprepare
      exact Frame.refl env S L
  obtain ⟨s, v, hmove⟩ := openSession_move hl hpayer hsession hfeeVault hopen
  have hafter : Frame env S L₂ (L₂.setData epoch.address (.sessionEpochV2
      { counter with lastNonce := counter.lastNonce + 1 })) :=
    frame_setData_of_ne haside (by simp)
  have hboard : boardOf env L₁ = boardOf env L := hbefore.track.board
  exact ⟨s, v,
    { vacant := hboard ▸ hmove.vacant
      fresh := hmove.fresh
      track := ((hbefore.track.trans hmove.track).trans hafter.track).congr (by simp) rfl
      gains := (Gains.trans hbefore.lamports hmove.gains).trans hafter.lamports }⟩

end Opening

/-- A refund changes one balance, and adds what is refunded. -/
theorem refund_ok (h : refund L closer a = .ok L') :
    ∃ n : UInt64, n.toNat = (L closer).lamports.toNat + (L a).lamports.toNat ∧
      L' = L.setLamports closer n := by
  unfold refund at h
  split at h
  · rename_i hzero
    cases h
    exact ⟨(L closer).lamports, by rw [hzero]; rfl, (Function.update_eq_self closer L).symm⟩
  · simp only [chain_ok, checkedAdd_eq_some] at h
    obtain ⟨n, hn, rfl⟩ := h
    exact ⟨n, hn, rfl⟩

/-- Giving the cursor account back. -/
theorem closeCursor_ok (hne : a ≠ closer) (hcloser : closer ∈ S) (ha : a ∈ S)
    (h : closeCursor L closer a = .ok L') :
    L'.total S = L.total S ∧ (∀ b, b ≠ closer → b ≠ a → L' b = L b) ∧
      ((L' closer).data = (L closer).data ∧ (L' closer).owner = (L closer).owner) ∧
      ((L a).lamports = 0 ∧ L' a = L a ∨
        (L' a).data = .empty ∧ (L' a).owner = systemProgramId) := by
  unfold closeCursor at h
  split at h
  · rename_i hzero
    cases h
    exact ⟨rfl, fun _ _ _ => rfl, ⟨rfl, rfl⟩, .inl ⟨hzero, rfl⟩⟩
  · simp only [chain_ok] at h
    obtain ⟨L₁, hrefund, rfl⟩ := h
    obtain ⟨n, hn, rfl⟩ := refund_ok hrefund
    have h₁ := L.total_setLamports S n hcloser
    have h₂ := (L.setLamports closer n).total_setLamports S 0 ha
    have h₃ := ((L.setLamports closer n).setLamports a 0).total_close S ha
    rw [setLamports_lamports, if_neg hne] at h₂
    rw [setLamports_lamports, if_pos rfl] at h₃
    have hzero : (0 : UInt64).toNat = 0 := rfl
    refine ⟨by omega, ?_, ?_, .inr ⟨by simp, by simp⟩⟩
    · intro b hb hba
      rw [close_of_ne _ hba]
      simp [setLamports, hb, hba]
    · rw [close_of_ne _ hne.symm]
      simp

theorem requireIdleCursor_ok
    (h : requireIdleCursor env L (env.address .session) (env.address .cursor) = .ok u) :
    ∀ k, (boardOf env L).cursor = some k → k.activeCheckpoint = zero32 := by
  intro k hk
  rw [boardOf_cursor, cursorOf_eq_some] at hk
  obtain ⟨-, hdata, -⟩ := hk
  simp only [requireIdleCursor, hdata] at h
  split at h
  · rename_i hempty
    cases hempty
  · simp only [chain_ok] at h
    exact h.2.2

section Closing

variable (hl : env.Lawful) (hcloser : Named env S closer) (hsession : Named env S session)
  (hfeeVault : Named env S feeVault) (hcursor : Named env S cursor)

include hl hcloser hsession hfeeVault hcursor

/-- The balances after a session is closed: its three accounts are emptied into the
closer's. -/
theorem closeSession_ok (h : closeSession env closer session feeVault cursor L = .ok L') :
    (∀ k, (boardOf env L).cursor = some k → k.activeCheckpoint = zero32) ∧
      L'.total S = L.total S ∧
      (∀ b, env.Derived b → b ≠ env.address .session → b ≠ env.address .feeVault →
        b ≠ env.address .cursor → L' b = L b) ∧
      (∀ g, g = .session ∨ g = .feeVault →
        (L' (env.address g)).data = .empty ∧ (L' (env.address g)).owner = systemProgramId) ∧
      ((L (env.address .cursor)).lamports = 0 ∧ L' (env.address .cursor) = L (env.address .cursor) ∨
        (L' (env.address .cursor)).data = .empty ∧
          (L' (env.address .cursor)).owner = systemProgramId) := by
  simp only [closeSession, chain_ok, exists_and_left] at h
  obtain ⟨hsigner, hkey, hkey', hkey'', s, -, -, v, -, -, -, ⟨⟩, hidle, L₁, hrefund, L₃, hrefund',
    L₄, hclose, rfl⟩ := h
  have hkey : session.address = env.address .session := hkey
  have hkey' : feeVault.address = env.address .feeVault := hkey'
  rw [hkey] at hkey'' hidle hrefund'
  have hkey'' : cursor.address = env.address .cursor := hkey''
  rw [hkey''] at hidle hclose
  rw [hkey'] at hrefund hrefund'
  rw [hkey, hkey']
  have haside := aside_of_not_derived (hcloser.signer (by simpa using hsigner))
  obtain ⟨n, hn, rfl⟩ := refund_ok hrefund
  obtain ⟨n', hn', rfl⟩ := refund_ok hrefund'
  obtain ⟨htotal, hothers, -, hcursor'⟩ :=
    closeCursor_ok (haside .cursor) hcloser.mem (hkey'' ▸ hcursor.mem) hclose
  have hne : env.address .session ≠ env.address .feeVault := hl.address_inj.not.mpr (by simp)
  have hne' : env.address .session ≠ env.address .cursor := hl.address_inj.not.mpr (by simp)
  have hne'' : env.address .feeVault ≠ env.address .cursor := hl.address_inj.not.mpr (by simp)
  -- what the two accounts hold when they are closed
  have hsessionHolds : (L₄ (env.address .session)).lamports =
      (L (env.address .session)).lamports := by
    rw [hothers _ (haside _) hne']
    simp only [setLamports_lamports, if_neg (haside _), if_neg hne]
  have hvaultHolds : (L₄ (env.address .feeVault)).lamports = 0 := by
    rw [hothers _ (haside _) hne'']
    simp only [setLamports_lamports, if_neg (haside _), if_true]
  refine ⟨requireIdleCursor_ok hidle, ?_, ?_, ?_, ?_⟩
  · have hS := hkey ▸ hsession.mem
    have hS' := hkey' ▸ hfeeVault.mem
    have h₁ := L.total_setLamports S n hcloser.mem
    have h₂ := (L.setLamports closer.address n).total_setLamports S 0 hS'
    have h₃ := ((L.setLamports closer.address n).setLamports (env.address .feeVault)
      0).total_setLamports S n' hcloser.mem
    have h₄ := L₄.total_setLamports S 0 hS
    have h₅ := (L₄.setLamports (env.address .session) 0).total_close S hS'
    have h₆ := ((L₄.setLamports (env.address .session) 0).close
      (env.address .feeVault)).total_close S hS
    rw [close_of_ne _ hne] at h₆
    simp only [setLamports_lamports, if_neg (haside _), if_neg (haside _).symm, if_neg hne,
      if_neg hne.symm, if_true, hsessionHolds, hvaultHolds] at h₂ h₃ hn' h₄ h₅ h₆
    have hzero : (0 : UInt64).toNat = 0 := rfl
    omega
  · intro b hb hbs hbv hbc
    have hbcloser : b ≠ closer.address := by
      rintro rfl
      exact hcloser.signer (by simpa using hsigner) hb
    rw [close_of_ne _ hbs, close_of_ne _ hbv, setLamports,
      Function.update_of_ne hbs, hothers b hbcloser hbc]
    simp [setLamports, hbcloser, hbv]
  · rintro g (rfl | rfl)
    · simp
    · rw [close_of_ne _ hne.symm]
      simp
  · rw [close_of_ne _ hne'.symm, close_of_ne _ hne''.symm, setLamports,
      Function.update_of_ne hne'.symm]
    refine hcursor'.imp (fun hsame => ?_) id
    rw [hsame.2]
    simpa [setLamports, (haside .cursor), hne''.symm] using hsame.1

theorem closeSession_move
    (hfunded : boardOf env L .cursor ≠ none → 0 < (L (env.address .cursor)).lamports)
    (hplaced : boardOf env L .cursor = none → (L (env.address .cursor)).data = .empty ∧ (L
      (env.address .cursor)).owner = systemProgramId)
    (h : closeSession env closer session feeVault cursor L = .ok L') :
    ClosesSession env S L L' := by
  obtain ⟨hidle, htotal, hothers, hclosed, hcursor'⟩ :=
    closeSession_ok hl hcloser hsession hfeeVault hcursor h
  -- an account of the game that exists holds lamports, so it was closed
  have hcursorVacant : (L' (env.address .cursor)).data = .empty ∧
      (L' (env.address .cursor)).owner = systemProgramId := by
    rcases hcursor' with ⟨hzero, hsame⟩ | hvacant
    · have hnone : boardOf env L .cursor = none := by
        by_contra hsome
        have := hfunded hsome
        rw [hzero] at this
        exact absurd this (UInt64.lt_irrefl 0)
      rw [hsame]
      exact hplaced hnone
    · exact hvacant
  have hsame : ∀ g, g ≠ .session → g ≠ .feeVault → g ≠ .cursor →
      L' (env.address g) = L (env.address g) := fun g hs hv hc =>
    hothers _ (env.derived_address g) (hl.address_inj.not.mpr hs) (hl.address_inj.not.mpr hv)
      (hl.address_inj.not.mpr hc)
  refine ⟨hidle, ⟨?_, ?_, ?_, htotal⟩, ?_, ?_⟩
  · funext g
    simp only [Board.clear_apply]
    split_ifs with hs hv hc
    · exact boardOf_eq_none_of_empty (hs ▸ (hclosed _ (.inl rfl)).1)
    · exact boardOf_eq_none_of_empty (hv ▸ (hclosed _ (.inr rfl)).1)
    · exact boardOf_eq_none_of_empty (hc ▸ hcursorVacant.1)
    · exact boardOf_congr hs (by rw [hsame g hs hv hc]) (by rw [hsame g hs hv hc])
  · intro g hg _
    simp only [Set.mem_insert_iff, Set.mem_singleton_iff, not_or] at hg
    rw [hsame g hg.1 hg.2.1 hg.2.2]
    exact ⟨rfl, rfl⟩
  · intro hu g r
    rw [hothers (findDelegationRecordPda env (env.address g)).1 ⟨_, rfl⟩ (hl.record_ne g _)
      (hl.record_ne g _) (hl.record_ne g _)]
    exact hu g r
  · rintro g (rfl | rfl)
    · exact hclosed _ (.inr rfl)
    · exact hcursorVacant
  · intro g hs hv hc
    rw [hsame g hs hv hc]

end Closing

end Northstar.Portal
