import Northstar.Game.Bisection

/-!
# The honest respondent

A validator whose checkpoint claims the true states, and who answers every turn in time
with the true roots, keeps its bond against every challenger, as long as the proof that is
resolved proves the isolated step. The last condition is not theirs to meet: the challenger
alone uploads the proof, and a proof that does not verify slashes the bond by design.

## Main definitions

* `Truthful`: a checkpoint that claims the true states
* `RespondsHonestly`: the respondent answers in time, with true roots
* `CarriesProof`, `ResolvesWithProof`: the proof that is resolved proves the isolated step

## Main results

* `honest_respondent_safe`: a truthful checkpoint is never slashed
* `sealed_garbage_slashes`: a challenger who seals bytes that do not verify slashes a
  truthful checkpoint
-/

namespace Northstar.Portal

open Bytes Checked Bisection

variable (env : Env)

/-- The checkpoint starts from the true root and ends in the true root. -/
def Truthful (states : ℕ → Hash32) (c : Checkpoint) : Prop :=
  c.previousStateRoot = states 0 ∧ c.newStateRoot = states c.stepCount.toNat
  deriving Decidable

instance (ch : Challenge) (now : UInt64) : Decidable (ch.Live now) :=
  inferInstanceAs (Decidable (_ ∧ _))

/-- The answer an instruction gives, if any. -/
def Instruction.response : Instruction → Option RespondChallenge
  | .respondChallenge args => some args
  | _ => none

/-- The slot whose challenge an instruction resolves, if any. -/
def Instruction.resolution : Instruction → Option UInt64
  | .resolveChallenge e _ => some e
  | _ => none

/-- **The respondent's strategy** in disputes about a truthful checkpoint at `e`: whatever
happens during their turn happens before its deadlines, and the midpoints they post are the
true roots. -/
def RespondsHonestly (states : ℕ → Hash32) (e : UInt64) (L : Ledger) : Event → Prop
  | .call cl => ∀ c ∈ checkpointOf env L e, ∀ ch ∈ challengeOf env L e,
      c.status = .challenged → Truthful states c →
      (ch.turn = .respondent → ch.Live cl.slot) ∧
      (∀ args ∈ cl.instruction.response, args.erSlot = e → (cl.result env L).isOk = true →
        ch.startStep.toNat + 2 ≤ ch.endStep.toNat →
        args.claimedStateRoot = states args.claimedStep.toNat)
  | .other _ => True

/-- The public inputs of the true step `i`, for the transaction and the policy a proof
account names. -/
def trueStepInputs (states : ℕ → Hash32) (c : Checkpoint) (i : UInt64) (p : StepProofAccount) :
    Option ErStepPublicInputsV1 := do
  let sessionContext ← FrBytes.new p.sessionContext
  let preStateRoot ← FrBytes.new (states i.toNat)
  let postStateRoot ← FrBytes.new (states (i.toNat + 1))
  let txEffectRoot ← FrBytes.new p.txEffectRoot
  let readonlyL1Root ← FrBytes.new p.readonlyL1Root
  let settlementEffectRoot ← FrBytes.new p.settlementEffectRoot
  return {
    domain := FrBytes.erStepDomainV1 p.proofKind p.proofVersion
    sessionContext
    slotStep := FrBytes.fromU64Pair c.erSlot i
    preStateRoot
    postStateRoot
    txEffectRoot
    readonlyL1Root
    settlementEffectRoot }

/-- **A valid proof of the isolated step**: the account was created for it and holds a
complete proof that verifies for the true step. -/
def CarriesProof (states : ℕ → Hash32) (c : Checkpoint) (ch : Challenge)
    (p : StepProofAccount) : Prop :=
  p.stepIndex = ch.startStep ∧ p.writtenLen.toNat = maxStepProofBytes ∧
    (p.proofKind = erStepProofKindBoundedVrf → boundedVrfCheckpointBinding env c ch p = true) ∧
    ∃ inputs ∈ trueStepInputs states c ch.startStep p,
      env.verifyErStepProofV1 p.data inputs.toBytes = true
  deriving Decidable

/-- Whenever a dispute about a truthful checkpoint at `e` is resolved, the proof account
carries a valid proof of the isolated step. -/
def ResolvesWithProof (states : ℕ → Hash32) (e : UInt64) (L : Ledger) : Event → Prop
  | .call cl => ∀ c ∈ checkpointOf env L e, ∀ ch ∈ challengeOf env L e, ∀ p ∈ stepProofOf env L e,
      c.status = .challenged → Truthful states c → cl.instruction.resolution = some e →
      (cl.result env L).isOk = true → CarriesProof env states c ch p
  | .other _ => True

instance (states : ℕ → Hash32) (e : UInt64) (L : Ledger) (event : Event) :
    Decidable (RespondsHonestly env states e L event) := by
  unfold RespondsHonestly
  split <;> infer_instance

instance (states : ℕ → Hash32) (e : UInt64) (L : Ledger) (event : Event) :
    Decidable (ResolvesWithProof env states e L event) := by
  unfold ResolvesWithProof
  split <;> infer_instance

/-! ## The claimed roots -/

/-- A claim that only counts for truthful checkpoints. -/
def WhenTruthful (states : ℕ → Hash32) (c : Checkpoint) (i : ℕ) (root : Hash32) : Prop :=
  Truthful states c → root = states i

/-- Every root in a dispute about a truthful checkpoint is true. -/
def Grounded (states : ℕ → Hash32) (B : Board) (e : UInt64) : Prop :=
  ∀ D, disputeOf B e = some D →
    D.Meets (WhenTruthful states D.checkpoint) (WhenTruthful states D.checkpoint)
      (WhenTruthful states D.checkpoint)

/-- **A truthful checkpoint stands**: it is not invalid, its bond is not slashed, and its
challenge, if there was one, was not won by the challenger. -/
structure Upheld (states : ℕ → Hash32) (B : Board) (e : UInt64) : Prop where
  status : ∀ c, B.checkpoint e = some c → Truthful states c → c.status ≠ .invalid
  bond : ∀ c, B.checkpoint e = some c → Truthful states c → c.bondStatus ≠ .slashed
  challenge : ∀ c ch, B.checkpoint e = some c → Truthful states c →
    c.status = .challenged ∨ c.challengeResolved = true → B.challenge e = some ch →
    ch.status ≠ .challengerWon

section Steps

variable {env} {S : Finset Pubkey} {states : ℕ → Hash32}

theorem grounded_of_event (hl : env.Lawful) (hs : Sound env L) (hst : Standing (boardOf env L))
    (ha : Admissible env L event) (hr : RespondsHonestly env states e L event)
    (h : Grounded states (boardOf env L) e) :
    Grounded states (boardOf env (exec env L event)) e := by
  intro D hD
  rcases disputeMove_of_event hl hs ha e with ⟨cl, rfl, hresult, hmove⟩ | ⟨hsame, -⟩
  · refine Dispute.Meets.of_disputeMove (P := WhenTruthful states) (Q := WhenTruthful states)
      (M := WhenTruthful states) hst hmove ?_ ?_ ?_ h hD
    · intro c
      exact ⟨fun htrue => htrue.1, fun htrue => htrue.2⟩
    · intro args D₀ hi he hD₀ hwide hpath htrue
      obtain ⟨hc, hstatus, hch, -⟩ := disputeOf_eq_some.mp hD₀
      rw [boardOf_checkpoint] at hc
      rw [boardOf_challenge] at hch
      exact (hr _ hc _ hch hstatus htrue).2 args (by rw [hi]; rfl) he (by rw [hresult]; rfl) hwide
    · intro disputeUpper D₀ _ _ hmid
      exact ⟨fun _ => hmid, fun _ => hmid⟩
  · rw [hsame] at hD
    exact h D hD

/-- Portal rebuilds the public inputs of the true step. -/
theorem stepPublicInputs_of_true (hindex : p.stepIndex = ch.startStep)
    (hstart : ch.startStateRoot = states ch.startStep.toNat)
    (hend : ch.endStateRoot = states (ch.startStep.toNat + 1)) :
    stepPublicInputs c ch p = trueStepInputs states c ch.startStep p := by
  rw [stepPublicInputs, trueStepInputs, hindex, hstart, hend]

/-- A valid proof of the isolated step is never rejected. -/
theorem verifyStepProof_ne_invalid (htest : env.features.testVerifier = false)
    (hp : CarriesProof env states c ch p) (hstart : ch.startStateRoot = states ch.startStep.toNat)
    (hend : ch.endStateRoot = states (ch.startStep.toNat + 1)) :
    verifyStepProof env mode c ch p ≠ .invalid := by
  obtain ⟨hindex, hlength, hbound, inputs, hinputs, haccepts⟩ := hp
  cases mode with
  | testOnly => simp [verifyStepProof, verifyStepProofTestOnly, htest]
  | production =>
    rw [verifyStepProof, verifyStepProofProduction,
      stepPublicInputs_of_true hindex hstart hend, Option.mem_def.mp hinputs]
    split
    · nofun
    · split
      · rename_i hkind
        rw [hbound hkind.2.1] at hkind
        exact absurd hkind.2.2 (by decide)
      · simp [hlength, haccepts]

/-- A move that leaves the checkpoint and its challenge alone. -/
theorem Upheld.congr (h : Upheld states B e) (hc : B'.checkpoint e = B.checkpoint e)
    (hch : B'.challenge e = B.challenge e) : Upheld states B' e where
  status c hc' := h.status c (hc ▸ hc')
  bond c hc' := h.bond c (hc ▸ hc')
  challenge c ch hc' htrue hs hch' := h.challenge c ch (hc ▸ hc') htrue hs (hch ▸ hch')

/-- A move that changes the checkpoint at `e'` has to be followed there only. -/
theorem Upheld.step (h : Upheld states B e)
    (hcheckpoint : ∀ e, B'.checkpoint e = if e = e' then some c' else B.checkpoint e)
    (hother : e ≠ e' → B'.challenge e = B.challenge e)
    (hhere : e = e' → B'.checkpoint e = some c' → Upheld states B' e) : Upheld states B' e := by
  by_cases he : e = e'
  · exact hhere he (by rw [hcheckpoint, if_pos he])
  · exact h.congr (by rw [hcheckpoint, if_neg he]) (hother he)

/-- A checkpoint that makes progress without being invalidated or challenged. -/
theorem Upheld.update (h : Upheld states B e) (hc : B.checkpoint e = some c)
    (hc' : B'.checkpoint e = some c') (hsame : c.SameClaim c') (hstatus : c'.status ≠ .invalid)
    (hnot : c'.status ≠ .challenged) (hbond : c'.bondStatus ≠ .slashed)
    (hresolved : c'.challengeResolved = c.challengeResolved)
    (hch : B'.challenge e = B.challenge e) : Upheld states B' e := by
  have htruth : Truthful states c' → Truthful states c := by
    rw [hsame]
    exact id
  refine ⟨?_, ?_, ?_⟩
  · intro c₁ hc₁ _
    rw [hc'] at hc₁
    cases hc₁
    exact hstatus
  · intro c₁ hc₁ _
    rw [hc'] at hc₁
    cases hc₁
    exact hbond
  · intro c₁ ch hc₁ htrue hs hch'
    rw [hc'] at hc₁
    cases hc₁
    rw [hch] at hch'
    rcases hs with hs | hs
    · exact absurd hs hnot
    · exact h.challenge c ch hc (htruth htrue) (.inr (hresolved ▸ hs)) hch'

/-- A checkpoint whose challenge is open or was won by the validator. -/
theorem Upheld.of_challenge (hc' : B'.checkpoint e = some c') (hstatus : c'.status ≠ .invalid)
    (hbond : Truthful states c' → c'.bondStatus ≠ .slashed)
    (hch : ∀ ch, B'.challenge e = some ch → ch.status ≠ .challengerWon) :
    Upheld states B' e := by
  refine ⟨?_, ?_, ?_⟩
  · intro c₁ hc₁ _
    rw [hc'] at hc₁
    cases hc₁
    exact hstatus
  · intro c₁ hc₁ htrue
    rw [hc'] at hc₁
    cases hc₁
    exact hbond htrue
  · intro c₁ ch _ _ _ hch'
    exact hch ch hch'

/-- A turn of the game leaves the challenge active. -/
theorem Upheld.of_turn {ch' : Challenge} {t : UInt64} (h : Upheld states (boardOf env L) e)
    (hu : UnderWay env L e' c ch) (hactive : ch'.status = .active)
    (hcheckpoint : (boardOf env L').checkpoint e = (boardOf env L).checkpoint e)
    (hch : (boardOf env L').challenge e' = some { ch' with turnDeadlineL1Slot := t })
    (hother : e ≠ e' → (boardOf env L').challenge e = (boardOf env L).challenge e) :
    Upheld states (boardOf env L') e := by
  by_cases he : e = e'
  · subst he
    refine .of_challenge (hcheckpoint.trans hu.checkpoint) (by simp [hu.challenged])
      (fun htrue => h.bond c hu.checkpoint htrue) ?_
    intro ch₁ hch₁
    rw [hch] at hch₁
    cases hch₁
    simp [hactive]
  · exact h.congr hcheckpoint (hother he)

theorem ValidatorWins.upheld (hm : ValidatorWins env S L L' e' c ch)
    (h : Upheld states (boardOf env L) e) : Upheld states (boardOf env L') e := by
  refine h.step hm.checkpoint_after (fun he => by rw [hm.challenge_after, if_neg he]) ?_
  rintro rfl hc'
  refine .of_challenge hc' (by simp) (fun htrue => h.bond c hm.checkpoint htrue) ?_
  intro ch' hch'
  rw [hm.challenge_after, if_pos rfl] at hch'
  cases hch'
  nofun

/-- A checkpoint that is not truthful has nothing to uphold. -/
theorem Upheld.of_not_truthful (hc' : B'.checkpoint e = some c') (hfalse : ¬Truthful states c') :
    Upheld states B' e := by
  have hnone : ∀ c₁, B'.checkpoint e = some c₁ → ¬Truthful states c₁ := by
    intro c₁ hc₁
    rw [hc'] at hc₁
    cases hc₁
    exact hfalse
  exact ⟨fun c₁ hc₁ htrue => absurd htrue (hnone c₁ hc₁),
    fun c₁ hc₁ htrue => absurd htrue (hnone c₁ hc₁),
    fun c₁ _ hc₁ htrue => absurd htrue (hnone c₁ hc₁)⟩

/-- **Every move upholds a truthful checkpoint** whose respondent is not late and whose
resolutions read a valid proof. -/
theorem upheld_of_move (htest : env.features.testVerifier = false) (hst : Standing (boardOf env L))
    (hg : Grounded states (boardOf env L) e)
    (hlive : ∀ D, disputeOf (boardOf env L) e = some D → Truthful states D.checkpoint →
      D.challenge.turn = .respondent → D.challenge.Live now)
    (hproof : ∀ D p, disputeOf (boardOf env L) e = some D → Truthful states D.checkpoint →
      i.resolution = some e → (boardOf env L).stepProof e = some p →
      CarriesProof env states D.checkpoint D.challenge p)
    (h : Upheld states (boardOf env L) e) (hm : Move env S now actor L L' i) :
    Upheld states (boardOf env L') e := by
  cases hm with
  | aside side frame =>
    exact h.congr (by rw [frame.track.board]; rfl) (by rw [frame.track.board]; rfl)
  | openSession hi move | closeSession move =>
    exact h.congr (by simp [move.track.board]) (by simp [move.track.board])
  | propose hi move =>
    refine h.step move.checkpoint_after (fun _ => by simp [move.track.board]) ?_
    rintro rfl hc'
    obtain ⟨deadline, bump, -, rfl⟩ := move.record
    -- a new proposal has no challenge yet, whatever an old one left behind
    refine ⟨?_, ?_, ?_⟩ <;> intro c₁ <;> rw [hc']
    · rintro ⟨⟩ _
      nofun
    · rintro ⟨⟩ _
      nofun
    · rintro ch ⟨⟩ _ (hs | hs) <;> cases hs
  | commit hi move | cancel move =>
    refine h.step move.checkpoint_after (fun _ => by simp [move.track.board]) ?_
    rintro rfl hc'
    exact h.update move.checkpoint hc' rfl (by simp) (by simp) (by simp) rfl
      (by simp [move.track.board])
  | @finish e' checksum s c k move =>
    refine h.step move.checkpoint_after (fun _ => by simp [move.track.board]) ?_
    rintro rfl hc'
    -- settling keeps the bond as it is
    by_cases htrue : Truthful states c
    · exact h.update move.checkpoint hc' rfl (by simp) (by simp) (h.bond c move.checkpoint htrue)
        rfl (by simp [move.track.board])
    · exact .of_not_truthful hc' htrue
  | @openChallenge e' s c ch d move =>
    refine h.step move.checkpoint_after (fun he => by rw [move.challenge_after, if_neg he]) ?_
    rintro rfl hc'
    refine .of_challenge hc' (by simp) (fun htrue => h.bond c move.checkpoint htrue) ?_
    intro ch' hch'
    obtain ⟨deadline, bump, -, rfl⟩ := move.record
    rw [move.challenge_after, if_pos rfl] at hch'
    cases hch'
    nofun
  | @respond args c ch ch' d d' move =>
    obtain ⟨deadline, -, htrack⟩ := move.record
    have hactive : ch'.status = .active := by
      rcases Challenge.respond_ok move.answer with ⟨-, -, -, rfl⟩ | ⟨-, -, -, rfl⟩ <;>
        exact move.isActive
    exact h.of_turn (t := deadline) move.toUnderWay hactive (by simp [htrack.board])
      (by simp [htrack.board, AccountData.asChallenge]) fun he => by simp [htrack.board, he]
  | @bisect e' disputeUpper c ch ch' move =>
    obtain ⟨deadline, -, htrack⟩ := move.record
    have hactive : ch'.status = .active := by
      obtain ⟨-, -, rounds, -, rfl⟩ := Challenge.bisect_ok move.choice
      exact move.isActive
    exact h.of_turn (t := deadline) move.toUnderWay hactive (by simp [htrack.board])
      (by simp [htrack.board, AccountData.asChallenge]) fun he => by simp [htrack.board, he]
  | timeoutRespondent late turn move =>
    refine h.step move.checkpoint_after (fun he => by rw [move.challenge_after, if_neg he]) ?_
    rintro rfl hc'
    -- the respondent of a truthful checkpoint is never late
    obtain ⟨d, hD⟩ := hst.exists_dispute move.toUnderWay
    exact .of_not_truthful hc' fun htrue => late (hlive _ hD htrue turn)
  | @reject e' mode c ch k p resolves move =>
    refine h.step move.checkpoint_after (fun he => by rw [move.challenge_after, if_neg he]) ?_
    rintro rfl hc'
    obtain ⟨d, hD⟩ := hst.exists_dispute move.toUnderWay
    refine .of_not_truthful hc' fun htrue => ?_
    -- the roots of the isolated step are true, so its valid proof is accepted
    have hroots := (hg _ hD).interval
    have hend : ch.endStateRoot = states (ch.startStep.toNat + 1) := by
      rw [show ch.endStateRoot = states ch.endStep.toNat from hroots.hi htrue]
      exact congrArg states ((hst.proper e _ hD).isolated resolves.turn)
    exact verifyStepProof_ne_invalid htest (hproof _ p hD htrue rfl resolves.proof)
      (hroots.lo htrue) hend resolves.verdict
  | timeoutChallenger late turn move | accept resolves move => exact move.upheld h
  | prove hi track gains => exact h.congr (by simp [track.board]) (by simp [track.board])

theorem upheld_of_event (hl : env.Lawful) (htest : env.features.testVerifier = false)
    (hs : Sound env L) (hst : Standing (boardOf env L)) (hg : Grounded states (boardOf env L) e)
    (ha : Admissible env L event) (hr : RespondsHonestly env states e L event)
    (hp : ResolvesWithProof env states e L event) (h : Upheld states (boardOf env L) e) :
    Upheld states (boardOf env (exec env L event)) e := by
  rcases step_of_event hl hs ha with ⟨cl, rfl, hresult, hmove⟩ | ⟨hframe, -⟩
  · refine upheld_of_move htest hst hg ?_ ?_ h hmove
    · intro D hD htrue hturn
      obtain ⟨hc, hstatus, hch, -⟩ := disputeOf_eq_some.mp hD
      rw [boardOf_checkpoint] at hc
      rw [boardOf_challenge] at hch
      exact (hr _ hc _ hch hstatus htrue).1 hturn
    · intro D p hD htrue hi hproof
      obtain ⟨hc, hstatus, hch, -⟩ := disputeOf_eq_some.mp hD
      rw [boardOf_checkpoint] at hc
      rw [boardOf_challenge] at hch
      rw [boardOf_stepProof] at hproof
      exact hp _ hc _ hch _ hproof hstatus htrue hi (by rw [hresult]; rfl)
  · rw [hframe.track.board]
    exact h

end Steps

/-! ## Honest play along histories -/

section Histories

variable {env} {L₀ : Ledger} {events : List Event} {e : UInt64} {c : Checkpoint}
  {states : ℕ → Hash32}

/-- **The honest respondent keeps the bond.** In every history in which the respondent answers
in time with true roots, and in which the proofs that are resolved prove the isolated step,
a truthful checkpoint is never invalidated, its bond is never slashed, and its challenge is
never won by the challenger. -/
theorem honest_respondent_safe (hl : env.Lawful) (htest : env.features.testVerifier = false)
    (h : History env L₀ events)
    (hresponds : Runs.Along (exec env) (RespondsHonestly env states e) L₀ events)
    (hresolves : Runs.Along (exec env) (ResolvesWithProof env states e) L₀ events)
    (hc : checkpointOf env (ledgerAfter env L₀ events) e = some c) (htrue : Truthful states c) :
    c.status ≠ .invalid ∧ c.bondStatus ≠ .slashed ∧
      (c.status = .challenged ∨ c.challengeResolved = true →
        ∀ ch, challengeOf env (ledgerAfter env L₀ events) e = some ch →
          ch.status ≠ .challengerWon) := by
  have hinvariant : Standing (boardOf env (ledgerAfter env L₀ events)) ∧
      Grounded states (boardOf env (ledgerAfter env L₀ events)) e ∧
      Upheld states (boardOf env (ledgerAfter env L₀ events)) e := by
    refine History.induction_along hl
      (C := fun L event => RespondsHonestly env states e L event ∧
        ResolvesWithProof env states e L event)
      (P := fun L => Standing (boardOf env L) ∧ Grounded states (boardOf env L) e ∧
        Upheld states (boardOf env L) e) ?_ ?_ h (hresponds.and hresolves)
    · intro hg
      have hcheckpoint : (boardOf env L₀).checkpoint e = none := by
        rw [Board.checkpoint, hg.board_eq_none]
        rfl
      refine ⟨hg.standing, fun D hD => ?_, ⟨?_, ?_, ?_⟩⟩
      · rw [hg.disputeOf_eq_none] at hD
        cases hD
      · simp [hcheckpoint]
      · simp [hcheckpoint]
      · simp [hcheckpoint]
    · rintro L event hs ha ⟨hr, hp⟩ ⟨hst, hg, hupheld⟩
      exact ⟨standing_of_event hl hs ha hst, grounded_of_event hl hs hst ha hr hg,
        upheld_of_event hl htest hs hst hg ha hr hp hupheld⟩
  obtain ⟨-, -, hupheld⟩ := hinvariant
  rw [← boardOf_checkpoint] at hc
  refine ⟨hupheld.status c hc htrue, hupheld.bond c hc htrue, fun hs ch hch => ?_⟩
  rw [← boardOf_challenge] at hch
  exact hupheld.challenge c ch hc htrue hs hch

end Histories

/-! ## Challenges of a truthful checkpoint on the local deployment -/

/-- The commitment of the one transaction of the local proposal. -/
def localEffect : Hash32 := localRoot 5

/-- A truthful proposal of one step. -/
def localTrueProposal : ProposeCheckpoint :=
  { localProposal with
    txEffectRoot := rootHash localnet (ascii "transaction-effect") 1 localEffect }

/-- The context of the local session. -/
def localContext : Hash32 :=
  ((sessionOf localnet (ledgerAfter localnet localLedger [.call localOpening])).bind
    (sessionContextV1 localnet (localnet.address .session))).getD zero32

/-- The accounts of a proof upload by wallet 22. -/
def localProofAccounts : List AccountMeta :=
  [localWallet 22, localPlace .session, localPlace (.checkpoint 7), localPlace (.challenge 7),
    localPlace (.stepProof 7), localNamed systemProgramId]

/-- The challenger creates the proof account, writes `first` as the first byte of the proof
and seals `length` bytes of it. -/
def localUpload (first : UInt8) (length : UInt32) : List Call :=
  [⟨50, localProofAccounts, .createStepProof
      { erSlot := 7
        proofKind := erStepProofKindFullTransaction
        proofVersion := erStepProofVersionV1
        stepIndex := 0
        sessionContext := localContext
        txEffectRoot := localEffect
        txEffectPathLen := 0
        txEffectPath := Vector.replicate 4 zero32
        readonlyL1Root := zero32
        settlementEffectRoot := zero32 }⟩,
    ⟨50, localProofAccounts, .writeStepProof ⟨7, 0, 128, (Vector.replicate 128 0).set 0 first⟩⟩,
    ⟨50, localProofAccounts, .writeStepProof ⟨7, 128, 128, Vector.replicate 128 0⟩⟩,
    ⟨50, localProofAccounts, .writeStepProof ⟨7, 256, 100, Vector.replicate 128 0⟩⟩,
    ⟨50, localProofAccounts, .sealStepProof 7 length⟩]

/-- Anyone resolves the challenge. -/
def localResolving : Call :=
  ⟨60, [localWallet 23, localPlace .session, localPlace (.checkpoint 7), localPlace (.challenge 7),
    localPlace (.daProof 7), localPlace (.stepProof 7), localNamed (tagged 22 []),
    localPlace .cursor], .resolveChallenge 7 .production⟩

/-- A truthful checkpoint is challenged, answered at once, and resolved with an upload. -/
def localResolved (first : UInt8) (length : UInt32) : List Call :=
  [localOpening, localProposing localTrueProposal, localChallenging,
    respondCall localnet 40 (tagged 21 []) (localAnswer 0 (localRoot 1) 0)] ++
    localUpload first length ++ [localResolving]

/-- A challenge that is resolved with a proof that verifies leaves the checkpoint standing. -/
theorem honest_respondent_safe_proved :
    ∃ c,
      checkpointOf localnet (ledgerAfter localnet localLedger ((localResolved 7 356).map .call)) 7 =
        some c ∧
      c.challengeResolved = true ∧ c.status ≠ .invalid ∧ c.bondStatus ≠ .slashed := by
  have hrecord : ∃ c ∈ checkpointOf localnet
      (ledgerAfter localnet localLedger ((localResolved 7 356).map .call)) 7,
      Truthful localStates c ∧ c.challengeResolved = true := by decide +kernel
  obtain ⟨c, hc, htrue, hresolved⟩ := hrecord
  have hsafe := honest_respondent_safe localnet_lawful rfl (localnet_history (by decide +kernel))
    (by decide +kernel) (by decide +kernel) hc htrue
  exact ⟨c, hc, hresolved, hsafe.1, hsafe.2.1⟩

/-- **Sealed garbage slashes.** The respondent of a truthful checkpoint answered in time with
true roots, and there is a proof of the isolated step that verifies; the challenger seals
other bytes, and the bond is theirs. -/
theorem sealed_garbage_slashes :
    History localnet localLedger ((localResolved 6 356).map .call) ∧
      Runs.Along (exec localnet) (RespondsHonestly localnet localStates 7) localLedger
        ((localResolved 6 356).map .call) ∧
      ∃ c ch p proof,
        checkpointOf localnet
          (ledgerAfter localnet localLedger ((localResolved 6 356).map .call)) 7 = some c ∧
        challengeOf localnet
          (ledgerAfter localnet localLedger ((localResolved 6 356).map .call)) 7 = some ch ∧
        stepProofOf localnet
          (ledgerAfter localnet localLedger ((localResolved 6 356).map .call)) 7 = some p ∧
        Truthful localStates c ∧ CarriesProof localnet localStates c ch { p with data := proof } ∧
        c.status = .invalid ∧ c.bondStatus = .slashed ∧ ch.status = .challengerWon := by
  have houtcome : ∃ c ∈ checkpointOf localnet
      (ledgerAfter localnet localLedger ((localResolved 6 356).map .call)) 7,
      ∃ ch ∈ challengeOf localnet
        (ledgerAfter localnet localLedger ((localResolved 6 356).map .call)) 7,
      ∃ p ∈ stepProofOf localnet
        (ledgerAfter localnet localLedger ((localResolved 6 356).map .call)) 7,
      Truthful localStates c ∧
        CarriesProof localnet localStates c ch { p with data := p.data.set 0 7 } ∧
        c.status = .invalid ∧ c.bondStatus = .slashed ∧ ch.status = .challengerWon := by
    decide +kernel
  obtain ⟨c, hc, ch, hch, p, hp, hrest⟩ := houtcome
  exact ⟨localnet_history (by decide +kernel), by decide +kernel, c, ch, p, _, hc, hch, hp, hrest⟩

end Northstar.Portal
