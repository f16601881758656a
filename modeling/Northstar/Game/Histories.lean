import Northstar.Game.Refinement

/-!
# Histories of the game

Every event of a history is a move of the game or leaves it alone, and keeps the ledger
sound. Properties of whole histories follow by induction from what one event does.

## Main definitions

* `Sound`: what every event keeps of the ledger as a whole
* `Genesis`: a chain on which the game has not started
* `History`: a history of admissible events from a genesis

## Main results

* `move_of_processInstruction`: a successful instruction is a move
* `sound_of_move`: a move keeps the ledger sound
* `step_of_event`: an event is a move or leaves the game alone
-/

namespace Northstar.Portal

open Bytes Checked AccountData Board

/-- **Sound ledgers**: no account of the game is delegated, each one holds its record or
nothing, the cursor is funded, and the parties of the game hold keys. -/
structure Sound (env : Env) (L : Ledger) : Prop where
  undelegated : Undelegated env L
  placed : ∀ g, g ≠ .session → boardOf env L g = none →
    (L (env.address g)).data = .empty ∧ (L (env.address g)).owner = systemProgramId
  funded : boardOf env L .cursor ≠ none → 0 < (L (env.address .cursor)).lamports
  proposer : ∀ e c, (boardOf env L).checkpoint e = some c → ¬env.Derived c.proposer
  challenger : ∀ e ch, (boardOf env L).challenge e = some ch → ¬env.Derived ch.challenger

/-- The first account of a call, which acts in it. -/
def actorOf : List AccountMeta → Pubkey
  | m :: _ => m.address
  | [] => zero32

variable {env : Env} {S : Finset Pubkey} {L L' : Ledger}

/-- **Refinement**: a successful instruction is a move of the game. -/
theorem move_of_processInstruction (hl : env.Lawful) (hs : Sound env L)
    (hn : ∀ m ∈ accounts, Named env S m) (h : processInstruction env now accounts i L = .ok L') :
    Move env S now (actorOf accounts) L L' i := by
  by_cases hi : i.inGame = false
  · exact .aside hi (frame_processInstruction hl hs.undelegated hn hi h)
  cases i <;> simp only [Instruction.inGame, not_true_eq_false] at hi <;>
    simp only [processInstruction] at h
  case openSession args =>
    unfold processOpenSessionInitialized at h
    split at h
    · obtain ⟨s, v, hmove⟩ :=
        openSession_move hl (hn _ (by simp)) (hn _ (by simp)) (hn _ (by simp)) h
      exact .openSession rfl hmove
    · cases h
  case closeSession =>
    unfold processCloseSession at h
    split at h
    · exact .closeSession (closeSession_move hl (hn _ (by simp)) (hn _ (by simp))
        (hn _ (by simp)) (hn _ (by simp)) hs.funded (hs.placed _ (by simp)) h)
    · cases h
  case finishSettlement e checksum =>
    unfold processFinishSettlement at h
    split at h
    · obtain ⟨s, c, k, hmove⟩ := finishSettlement_move hl h
      exact .finish hmove
    · cases h
  case proposeCheckpoint args =>
    simp only [processProposeCheckpointVersioned, bind_eq_ok] at h
    obtain ⟨u, hcheck, h⟩ := h
    split at h
    · obtain ⟨s, k, c, hmove⟩ := proposeCheckpoint_move hl (hn _ (by simp)) (hn _ (by simp))
        (hn _ (by simp)) hcheck h
      exact .propose rfl hmove
    · cases h
  case commitCheckpoint e =>
    unfold processCommitCheckpointVersioned at h
    split at h
    · obtain ⟨s, c, k, hmove⟩ :=
        commitCheckpoint_move hl hs.proposer (hn _ (by simp)) (hn _ (by simp)) h
      exact .commit rfl hmove
    · cases h
  case cancelCheckpoint e =>
    unfold processCancelCheckpoint at h
    split at h
    · obtain ⟨c, k, hmove⟩ := cancelCheckpoint_move hl (hn _ (by simp)) (hn _ (by simp)) h
      exact .cancel hmove
    · cases h
  case openChallenge e =>
    unfold processOpenChallenge at h
    split at h
    · obtain ⟨s, c, ch, d, hmove⟩ :=
        openChallenge_move hl (hn _ (by simp)) (hn _ (by simp)) (hn _ (by simp)) h
      exact .openChallenge hmove
    · cases h
  case createStepProof args =>
    unfold processCreateStepProof at h
    split at h
    · obtain ⟨p, htrack, hgains⟩ := createStepProof_move hl (hn _ (by simp)) (hn _ (by simp)) h
      exact .prove rfl htrack hgains
    · cases h
  case writeStepProof args =>
    unfold processWriteStepProof at h
    split at h
    · obtain ⟨p, htrack, hgains⟩ := writeStepProof_move hl h
      exact .prove rfl htrack hgains
    · cases h
  case sealStepProof e proofLen =>
    unfold processSealStepProof at h
    split at h
    · obtain ⟨p, htrack, hgains⟩ := sealStepProof_move hl h
      exact .prove rfl htrack hgains
    · cases h
  case resolveChallenge e mode =>
    unfold processResolveChallenge at h
    split at h
    · obtain ⟨c, ch, p, ⟨hresolves, k, hmove⟩ | ⟨hresolves, hmove⟩⟩ :=
        resolveChallenge_move hl hs.challenger (hn _ (by simp)) (hn _ (by simp)) h
      · exact .reject hresolves hmove
      · exact .accept hresolves hmove
    · cases h
  case respondChallenge args =>
    unfold processRespondChallenge at h
    split at h
    · obtain ⟨c, ch, ch', d, d', hmove⟩ := respondChallenge_move hl h
      exact .respond hmove
    · cases h
  case bisectChallenge e disputeUpper =>
    unfold processBisectChallenge at h
    split at h
    · obtain ⟨c, ch, ch', hmove⟩ := bisectChallenge_move hl h
      exact .bisect hmove
    · cases h
  case timeoutChallenge e =>
    unfold processTimeoutChallenge at h
    split at h
    · obtain ⟨c, ch, hlate, ⟨hturn, k, hmove⟩ | ⟨hturn, hmove⟩⟩ :=
        timeoutChallenge_move hl hs.challenger (hn _ (by simp)) (hn _ (by simp)) h
      · exact .timeoutRespondent hlate hturn hmove
      · exact .timeoutChallenger hlate hturn hmove
    · cases h
  case openSessionV2 args =>
    have h := (onlyWith_ok h).2
    unfold processOpenSessionV2 at h
    split at h
    · obtain ⟨s, v, hmove⟩ := openSessionV2_move hl (hn _ (by simp)) (hn _ (by simp))
        (hn _ (by simp)) (hn _ (by simp)) h
      exact .openSession rfl hmove
    · cases h
  case proposeCheckpointV2 args =>
    have h := (onlyWith_ok h).2
    unfold processProposeCheckpointV2 at h
    split at h
    · obtain ⟨s, k, c, hmove⟩ := proposeCheckpointV2_move hl (hn _ (by simp)) (hn _ (by simp))
        (hn _ (by simp)) (hn _ (by simp)) h
      exact .propose rfl hmove
    · cases h
  case commitCheckpointV2 e =>
    have h := (onlyWith_ok h).2
    unfold processCommitCheckpointV2 at h
    split at h
    · obtain ⟨s, c, k, hmove⟩ :=
        commitCheckpointV2_move hl hs.proposer (hn _ (by simp)) (hn _ (by simp)) h
      exact .commit rfl hmove
    · cases h

/-! ## Moves keep the ledger sound -/

section Sound

variable {T : Set GameAccount} {f : Board → Board} {e : UInt64} {c : Checkpoint}
  {ch ch' : Challenge}

/-- Accounts the step does not touch stay placed; those it writes hold a record. -/
theorem Track.placed (h : Track env S T f L L') (hs : Sound env L)
    (hT : ∀ g ∈ T, g ≠ .session → f (boardOf env L) g ≠ none) (hg : g ≠ .session)
    (hnone : boardOf env L' g = none) :
    (L' (env.address g)).data = .empty ∧ (L' (env.address g)).owner = systemProgramId := by
  by_cases hmem : g ∈ T
  · rw [h.board] at hnone
    exact absurd hnone (hT g hmem hg)
  · obtain ⟨hdata, howner⟩ := h.untouched g hmem hg
    rw [hdata, howner]
    exact hs.placed g hg ((boardOf_congr hg hdata howner).symm.trans hnone)

/-- A payout to a party leaves the cursor's balance alone. -/
theorem Pays.cursor (h : Pays env L L' e r n) (hl : env.Lawful) (hr : ¬env.Derived r) :
    (L' (env.address .cursor)).lamports = (L (env.address .cursor)).lamports :=
  h.others _ (hl.address_inj.not.mpr (by simp)) (aside_of_not_derived hr _)

/-- The board keeps a cursor that is there, so its account stays funded. -/
theorem funded_of_le (hs : Sound env L)
    (hle : (L (env.address .cursor)).lamports ≤ (L' (env.address .cursor)).lamports)
    (hboard : boardOf env L .cursor ≠ none) : 0 < (L' (env.address .cursor)).lamports :=
  UInt64.lt_of_lt_of_le (hs.funded hboard) hle

theorem boardOf_cursor_ne_none (h : (boardOf env L).cursor = some k) :
    boardOf env L .cursor ≠ none := by
  intro hnone
  rw [Board.cursor, hnone] at h
  cases h

/-- A board that differs in one checkpoint keeps its proposers. -/
theorem Sound.proposer_of (hs : Sound env L) (hc : ¬env.Derived c.proposer)
    (h : ∀ e', (boardOf env L').checkpoint e' = if e' = e then some c else (boardOf env
      L).checkpoint e') :
    ∀ e' c', (boardOf env L').checkpoint e' = some c' → ¬env.Derived c'.proposer := by
  intro e' c' hc'
  rw [h] at hc'
  split at hc'
  · cases hc'
    exact hc
  · exact hs.proposer e' c' hc'

/-- A board that differs in one challenge keeps its challengers. -/
theorem Sound.challenger_of (hs : Sound env L) (hx : ¬env.Derived x.challenger)
    (h : ∀ e', (boardOf env L').challenge e' =
      if e' = e then some x else (boardOf env L).challenge e') :
    ∀ e' ch', (boardOf env L').challenge e' = some ch' → ¬env.Derived ch'.challenger := by
  intro e' ch' hch'
  rw [h] at hch'
  split at hch'
  · cases hch'
    exact hx
  · exact hs.challenger e' ch' hch'

theorem OpensSession.sound (h : OpensSession env S L L' s v) (hs : Sound env L) :
    Sound env L' where
  undelegated := h.track.undelegated hs.undelegated
  placed g := h.track.placed hs (by rintro g (rfl | rfl) <;> simp [put_apply])
  funded hboard := by
    rw [h.track.board] at hboard
    exact funded_of_le hs (h.gains _) (by simpa [put_apply] using hboard)
  proposer e c hc := hs.proposer e c (by simpa [h.track.board] using hc)
  challenger e ch hch := hs.challenger e ch (by simpa [h.track.board] using hch)

theorem ClosesSession.sound (h : ClosesSession env S L L') (hs : Sound env L) : Sound env L' where
  undelegated := h.track.undelegated hs.undelegated
  placed g hg hnone := by
    by_cases hvacated : g = .feeVault ∨ g = .cursor
    · exact h.vacated g hvacated
    · rw [not_or] at hvacated
      obtain ⟨hdata, howner⟩ := h.track.untouched g (by simp [hg, hvacated]) hg
      rw [hdata, howner]
      exact hs.placed g hg ((boardOf_congr hg hdata howner).symm.trans hnone)
  funded hboard := by
    rw [h.track.board] at hboard
    simp [clear_apply] at hboard
  proposer e c hc := hs.proposer e c (by simpa [h.track.board] using hc)
  challenger e ch hch := hs.challenger e ch (by simpa [h.track.board] using hch)

theorem Proposes.sound (h : Proposes env S now actor L L' args s k c) (hs : Sound env L) :
    Sound env L' where
  undelegated := h.track.undelegated hs.undelegated
  placed g := h.track.placed hs (by rintro g (rfl | rfl) <;> simp [put_apply])
  funded _ := by
    by_cases hnone : (boardOf env L).cursor = none
    · exact h.funded hnone
    · obtain ⟨k', hk'⟩ := Option.ne_none_iff_exists'.mp hnone
      exact funded_of_le hs (h.gains _) (boardOf_cursor_ne_none hk')
  proposer := by
    refine hs.proposer_of (e := args.erSlot) (c := c) ?_
      (by simp [h.track.board, asCheckpoint])
    obtain ⟨deadline, bump, -, rfl⟩ := h.record
    exact h.signer
  challenger e ch hch := hs.challenger e ch (by simpa [h.track.board] using hch)

theorem Commits.sound (h : Commits env S now L L' e s c k) (hl : env.Lawful) (hs : Sound env L) :
    Sound env L' where
  undelegated := h.track.undelegated hs.undelegated
  placed g := h.track.placed hs (by rintro g (rfl | rfl) <;> simp [put_apply])
  funded _ := funded_of_le hs
    (h.pays.cursor hl (hs.proposer e c h.checkpoint) ▸ UInt64.le_refl _)
    (boardOf_cursor_ne_none h.cursor)
  proposer := hs.proposer_of (e := e)
    (c := { c with status := .committed, bondStatus := .released })
    (hs.proposer e c h.checkpoint) (by simp [h.track.board, asCheckpoint])
  challenger e ch hch := hs.challenger e ch (by simpa [h.track.board] using hch)

theorem Cancels.sound (h : Cancels env S now actor L L' e c k) (hl : env.Lawful)
    (hs : Sound env L) :
    Sound env L' where
  undelegated := h.track.undelegated hs.undelegated
  placed g := h.track.placed hs (by rintro g (rfl | rfl) <;> simp [put_apply])
  funded _ := funded_of_le hs
    (h.pays.cursor hl (hs.proposer e c h.checkpoint) ▸ UInt64.le_refl _)
    (boardOf_cursor_ne_none h.cursor)
  proposer := hs.proposer_of (e := e)
    (c := { c with status := .cancelled, bondStatus := .released })
    (hs.proposer e c h.checkpoint) (by simp [h.track.board, asCheckpoint])
  challenger e ch hch := hs.challenger e ch (by simpa [h.track.board] using hch)

theorem Finishes.sound (h : Finishes env S now actor L L' e s c k) (hs : Sound env L) :
    Sound env L' where
  undelegated := h.track.undelegated hs.undelegated
  placed g := h.track.placed hs (by rintro g (rfl | rfl | rfl) <;> simp [put_apply])
  funded _ := funded_of_le hs (h.gains _) (boardOf_cursor_ne_none h.cursor)
  proposer := hs.proposer_of (e := e) (c := { c with status := .settled })
    (hs.proposer e c h.checkpoint) (by simp [h.track.board, asCheckpoint])
  challenger e ch hch := hs.challenger e ch (by simpa [h.track.board] using hch)

theorem OpensChallenge.sound (h : OpensChallenge env S now actor L L' e s c ch d)
    (hs : Sound env L) :
    Sound env L' where
  undelegated := h.track.undelegated hs.undelegated
  placed g := h.track.placed hs (by rintro g (rfl | rfl | rfl) <;> simp [put_apply])
  funded hboard := by
    rw [h.track.board] at hboard
    exact funded_of_le hs (h.gains _) (by simpa [put_apply] using hboard)
  proposer := hs.proposer_of (e := e)
    (c := { c with status := .challenged, challenger := actor, challengedAtL1Slot := now })
    (hs.proposer e c h.checkpoint) (by simp [h.track.board, asCheckpoint])
  challenger := by
    refine hs.challenger_of (e := e) (x := ch) ?_ (by simp [h.track.board, asChallenge])
    obtain ⟨deadline, bump, -, rfl⟩ := h.record
    exact h.signer

/-- A turn changes the challenge and the data behind it, and keeps the challenger. -/
theorem sound_of_turn (hs : Sound env L) (ht : Track env S T f L L') (hg : Gains env L L')
    (hT : ∀ g ∈ T, g ≠ .session → f (boardOf env L) g ≠ none)
    (hcursor : f (boardOf env L) .cursor = boardOf env L .cursor)
    (hcheckpoint : ∀ e', (f (boardOf env L)).checkpoint e' = (boardOf env L).checkpoint e')
    (hch : (boardOf env L).challenge e = some ch) (hx : x.challenger = ch.challenger)
    (hchallenge : ∀ e', (f (boardOf env L)).challenge e' = if e' = e then some x else (boardOf env
      L).challenge e') : Sound env L' where
  undelegated := ht.undelegated hs.undelegated
  placed g := ht.placed hs hT
  funded hboard := by
    rw [ht.board, hcursor] at hboard
    exact funded_of_le hs (hg _) hboard
  proposer e' c' hc' := by
    rw [ht.board, hcheckpoint] at hc'
    exact hs.proposer e' c' hc'
  challenger := hs.challenger_of (e := e) (x := x) (hx ▸ hs.challenger e ch hch)
    fun e' => by rw [ht.board, hchallenge]

theorem Challenge.challenger_respond (h : ch.respond env c args = .ok ch') :
    ch'.challenger = ch.challenger := by
  rcases Challenge.respond_ok h with ⟨-, -, -, rfl⟩ | ⟨-, -, -, rfl⟩ <;> rfl

theorem Challenge.challenger_bisect (h : ch.bisect disputeUpper = .ok ch') :
    ch'.challenger = ch.challenger := by
  obtain ⟨-, -, rounds, -, rfl⟩ := Challenge.bisect_ok h
  rfl

theorem Responds.sound (h : Responds env S now actor L L' args c ch ch' d d') (hs : Sound env L) :
    Sound env L' := by
  obtain ⟨deadline, -, htrack⟩ := h.record
  have hkept : ch'.challenger = ch.challenger := Challenge.challenger_respond h.answer
  refine sound_of_turn (x := { ch' with turnDeadlineL1Slot := deadline }) hs htrack h.gains ?_
    (by simp [put_apply]) (by simp) h.challenge hkept (by simp [asChallenge])
  rintro g (rfl | rfl) <;> simp [put_apply]

theorem Bisects.sound (h : Bisects env S now actor L L' e disputeUpper c ch ch')
    (hs : Sound env L) :
    Sound env L' := by
  obtain ⟨deadline, -, htrack⟩ := h.record
  have hkept : ch'.challenger = ch.challenger := Challenge.challenger_bisect h.choice
  refine sound_of_turn (x := { ch' with turnDeadlineL1Slot := deadline }) hs htrack h.gains ?_
    (by simp [put_apply]) (by simp) h.challenge hkept (by simp [asChallenge])
  rintro g rfl
  simp [put_apply]

theorem ChallengerWins.sound (h : ChallengerWins env S L L' e c ch k) (hl : env.Lawful)
    (hs : Sound env L) :
    Sound env L' := by
  obtain ⟨d, htrack⟩ := h.track
  exact
    { undelegated := htrack.undelegated hs.undelegated
      placed := fun g => htrack.placed hs
        (by rintro g (rfl | rfl | rfl | rfl) <;> simp [put_apply])
      funded := fun _ => funded_of_le hs
        (h.pays.cursor hl (hs.challenger e ch h.challenge) ▸ UInt64.le_refl _)
        (boardOf_cursor_ne_none h.cursor)
      proposer := hs.proposer_of (e := e)
        (c := { c with status := .invalid, bondStatus := .slashed, challengeResolved := true })
        (hs.proposer e c h.checkpoint) (by simp [htrack.board, asCheckpoint])
      challenger := hs.challenger_of (e := e) (x := { ch with status := .challengerWon })
        (hs.challenger e ch h.challenge) (by simp [htrack.board, asChallenge]) }

theorem ValidatorWins.sound (h : ValidatorWins env S L L' e c ch) (hs : Sound env L) :
    Sound env L' where
  undelegated := h.track.undelegated hs.undelegated
  placed g := h.track.placed hs (by rintro g (rfl | rfl) <;> simp [put_apply])
  funded hboard := by
    rw [h.track.board] at hboard
    exact funded_of_le hs (h.gains _) (by simpa [put_apply] using hboard)
  proposer := hs.proposer_of (e := e)
    (c := { c with status := .pending, challengeResolved := true })
    (hs.proposer e c h.checkpoint) (by simp [h.track.board, asCheckpoint])
  challenger := hs.challenger_of (e := e) (x := { ch with status := .validatorWon })
    (hs.challenger e ch h.challenge) (by simp [h.track.board, asChallenge])

theorem Frame.sound (h : Frame env S L L') (hs : Sound env L) : Sound env L' where
  undelegated := h.undelegated hs.undelegated
  placed g := h.track.placed hs (by simp)
  funded hboard := funded_of_le hs (h.lamports _) (by rwa [h.track.board] at hboard)
  proposer e c hc := hs.proposer e c (by rwa [h.track.board] at hc)
  challenger e ch hch := hs.challenger e ch (by rwa [h.track.board] at hch)

/-- **A move keeps the ledger sound.** -/
theorem sound_of_move (hl : env.Lawful) (hs : Sound env L) (h : Move env S now actor L L' i) :
    Sound env L' := by
  cases h with
  | aside side frame => exact frame.sound hs
  | openSession hi move | closeSession move | propose hi move | finish move | openChallenge move
  | respond move | bisect move | timeoutChallenger late turn move | accept resolves move =>
    exact move.sound hs
  | commit hi move | cancel move | timeoutRespondent late turn move | reject resolves move =>
    exact move.sound hl hs
  | prove hi track gains =>
    exact
      { undelegated := track.undelegated hs.undelegated
        placed := fun g => track.placed hs (by rintro g rfl; simp [put_apply])
        funded := fun hboard => by
          rw [track.board] at hboard
          exact funded_of_le hs (gains _) (by simpa [put_apply] using hboard)
        proposer := fun e c hc => hs.proposer e c (by simpa [track.board] using hc)
        challenger := fun e ch hch => hs.challenger e ch (by simpa [track.board] using hch) }

/-- A move leaves what the accounts of `S` hold together. -/
theorem total_of_move (h : Move env S now actor L L' i) :
    L'.total S = L.total S := by
  cases h with
  | aside side frame => exact frame.total
  | openSession hi move | closeSession move | propose hi move | commit hi move | cancel move
  | finish move | openChallenge move | timeoutChallenger late turn move | accept resolves move =>
    exact move.track.total
  | respond move | bisect move =>
    obtain ⟨deadline, -, htrack⟩ := move.record
    exact htrack.total
  | timeoutRespondent late turn move | reject resolves move =>
    obtain ⟨d, htrack⟩ := move.track
    exact htrack.total
  | prove hi track gains => exact track.total

end Sound

/-! ## Histories -/

/-- The addresses a call names. -/
def Call.addresses (c : Call) : Finset Pubkey := (c.accounts.map AccountMeta.address).toFinset

/-- **Genesis**: no account of the game exists. -/
structure Genesis (env : Env) (L : Ledger) : Prop where
  vacant : ∀ g, (L (env.address g)).data = .empty ∧ (L (env.address g)).owner = systemProgramId
  undelegated : Undelegated env L

/-- **Histories**: admissible events from a genesis. -/
structure History (env : Env) (L₀ : Ledger) (events : List Event) : Prop where
  genesis : Genesis env L₀
  admissible : Runs.Along (exec env) (Admissible env) L₀ events

/-- The ledger a history leads to. -/
def ledgerAfter (env : Env) (L₀ : Ledger) (events : List Event) : Ledger :=
  Runs.run (exec env) L₀ events

section Histories

variable {L₀ : Ledger} {event : Event} {events : List Event}

theorem Genesis.board_eq_none (h : Genesis env L) (g : GameAccount) : boardOf env L g = none :=
  boardOf_eq_none_of_empty (h.vacant g).1

theorem Genesis.sound (h : Genesis env L) : Sound env L where
  undelegated := h.undelegated
  placed g _ _ := h.vacant g
  funded hboard := absurd (h.board_eq_none .cursor) hboard
  proposer e c hc := by
    rw [Board.checkpoint, h.board_eq_none] at hc
    cases hc
  challenger e ch hch := by
    rw [Board.challenge, h.board_eq_none] at hch
    cases hch

theorem Call.named (h : Admissible env L (.call c)) (hS : c.addresses ⊆ S) :
    ∀ m ∈ c.accounts, Named env S m := by
  intro m hm
  exact ⟨hS (List.mem_toFinset.mpr (List.mem_map_of_mem hm)), h m hm⟩

theorem frame_of_other (h : LeavesPortalAlone env L after) :
    Frame env ∅ L after where
  data g _ := (h _ (.inr (env.derived_address g))).1
  policy := by rw [(h _ (.inr (env.derived_address .session))).1]
  owner g := (h _ (.inr (env.derived_address g))).2.1
  lamports g := (h _ (.inr (env.derived_address g))).2.2
  undelegated hu g r := by
    rw [(h (findDelegationRecordPda env (env.address g)).1 (.inr ⟨_, rfl⟩)).1]
    exact hu g r
  total := rfl

/-- **One event**: a successful call is a move, and everything else leaves the game alone. -/
theorem step_of_event (hl : env.Lawful) (hs : Sound env L) (ha : Admissible env L event) :
    (∃ c : Call, event = .call c ∧ c.result env L = .ok (exec env L event) ∧
      Move env c.addresses c.slot (actorOf c.accounts) L (exec env L event) c.instruction) ∨
    Frame env ∅ L (exec env L event) ∧
      ∀ c : Call, event = .call c → ∃ e, c.result env L = .error e := by
  cases event with
  | call c =>
    cases hresult : c.result env L with
    | ok L' =>
      rw [exec_call_of_ok hresult]
      exact .inl ⟨c, rfl, hresult,
        move_of_processInstruction hl hs (Call.named ha subset_rfl) hresult⟩
    | error e =>
      rw [exec_call_of_error hresult]
      refine .inr ⟨Frame.refl env ∅ L, fun c' hc' => ?_⟩
      cases hc'
      exact ⟨e, hresult⟩
  | other after =>
    refine .inr ⟨frame_of_other ha, fun c hc => ?_⟩
    cases hc

theorem sound_of_event (hl : env.Lawful) (hs : Sound env L) (ha : Admissible env L event) :
    Sound env (exec env L event) := by
  rcases step_of_event hl hs ha with ⟨c, -, -, hmove⟩ | ⟨hframe, -⟩
  · exact sound_of_move hl hs hmove
  · exact hframe.sound hs

/-- **Invariants of histories**: what genesis has and every event keeps, in sound ledgers. -/
theorem History.induction (hl : env.Lawful) {P : Ledger → Prop} (hinit : Genesis env L₀ → P L₀)
    (hstep : ∀ L event, Sound env L → Admissible env L event → P L → P (exec env L event))
    (h : History env L₀ events) : P (ledgerAfter env L₀ events) :=
  (Runs.run_induction (P := fun L => Sound env L ∧ P L)
    (fun L event ha hL => ⟨sound_of_event hl hL.1 ha, hstep L event hL.1 ha hL.2⟩)
    h.admissible ⟨h.genesis.sound, hinit h.genesis⟩).2

/-- The same under a condition `C` that every event meets. -/
theorem History.induction_along (hl : env.Lawful) {C : Ledger → Event → Prop} {P : Ledger → Prop}
    (hinit : Genesis env L₀ → P L₀)
    (hstep : ∀ L event, Sound env L → Admissible env L event → C L event → P L →
      P (exec env L event))
    (h : History env L₀ events) (hC : Runs.Along (exec env) C L₀ events) :
    P (ledgerAfter env L₀ events) :=
  (Runs.run_induction (P := fun L => Sound env L ∧ P L)
    (fun L event ha hL => ⟨sound_of_event hl hL.1 ha.1, hstep L event hL.1 ha.1 ha.2 hL.2⟩)
    (h.admissible.and hC) ⟨h.genesis.sound, hinit h.genesis⟩).2

section Ghost

variable {τ : Type*} {g : Ledger → τ → Event → τ} {t : τ} {P : Ledger → τ → Prop} (hl : env.Lawful)
  (hinit : Genesis env L₀ → P L₀ t)

include hl hinit

/-- The same for invariants and conditions that speak of a record of the history. -/
theorem History.ghost_induction_along {C : Ledger × τ → Event → Prop}
    (hstep : ∀ L t event, Sound env L → Admissible env L event → C (L, t) event → P L t → P (exec
      env L event) (g L t event)) (h : History env L₀ events)
    (hC : Runs.Along (Runs.ghost (exec env) g) C (L₀, t) events) :
    P (ledgerAfter env L₀ events) (Runs.run (Runs.ghost (exec env) g) (L₀, t) events).2 :=
  (Runs.ghost_induction (P := fun L t => Sound env L ∧ P L t)
    (fun L t event ha hL =>
      ⟨sound_of_event hl hL.1 ha.1, hstep L t event hL.1 ha.1 ha.2 hL.2⟩)
    (h.admissible.ghost.and hC) ⟨h.genesis.sound, hinit h.genesis⟩).2

theorem History.ghost_induction
    (hstep : ∀ L t event, Sound env L → Admissible env L event → P L t → P (exec env L event) (g L t
      event)) (h : History env L₀ events) :
    P (ledgerAfter env L₀ events) (Runs.run (Runs.ghost (exec env) g) (L₀, t) events).2 :=
  History.ghost_induction_along hl hinit (fun L t event hs ha _ => hstep L t event hs ha) h
    h.admissible.ghost

end Ghost

theorem History.sound (hl : env.Lawful) (h : History env L₀ events) :
    Sound env (ledgerAfter env L₀ events) :=
  History.induction hl Genesis.sound (fun _ _ hs ha _ => sound_of_event hl hs ha) h

end Histories

end Northstar.Portal
