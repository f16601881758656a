import Northstar.Game.Bonds
import Northstar.Game.HonestRespondent

/-!
# The honest challenger

A checkpoint that claims a wrong state is not committed when an honest challenger is the one
who opens its challenge, tries to do so before the deadline, and takes every turn in time.
The first condition is not theirs to meet: a checkpoint has one challenge, so a challenger
who plays for the proposer can open it first and let it lapse, by design.

## Main definitions

* `Wrong`: a checkpoint that starts from the true root and ends in a wrong one
* `VerifierSound`: proofs of the steps of a slot verify for the true steps only
* `openCall`, `Tries`: the call that opens a challenge, and an attempt to open it
* `Persists`: the challenger's strategy, given whether they tried

## Main results

* `openCall_accepted`: an attempt on an open proposal goes through
* `honest_challenger_stops`: a wrong checkpoint is never committed
* `lapsed_challenge_commits`: a challenge opened first and left to lapse lets it commit
-/

namespace Northstar.Portal

open Bytes Checked Bisection

variable (env : Env)

/-- The checkpoint starts from the true root and ends in a wrong one. -/
def Wrong (states : ℕ → Hash32) (c : Checkpoint) : Prop :=
  c.previousStateRoot = states 0 ∧ c.newStateRoot ≠ states c.stepCount.toNat
  deriving Decidable

/-- **Soundness of the verifier** for the steps of slot `e`: a proof that verifies from the
true root of a step leads to the true root after it. -/
def VerifierSound (states : ℕ → Hash32) (e : UInt64) : Prop :=
  ∀ (proof : Vector UInt8 356) (inputs : ErStepPublicInputsV1) (i : UInt64),
    env.verifyErStepProofV1 proof inputs.toBytes = true →
    inputs.slotStep = FrBytes.fromU64Pair e i → inputs.preStateRoot.bytes = states i.toNat →
    inputs.postStateRoot.bytes = states (i.toNat + 1)

/-! ## Trying -/

/-- The call that opens the challenge of `e`. -/
def openCall (now : UInt64) (challenger : Pubkey) (e : UInt64) : Call where
  slot := now
  accounts := [⟨challenger, true, true⟩, ⟨env.address .session, false, false⟩,
    ⟨env.address (.checkpoint e), false, true⟩, ⟨env.address (.challenge e), false, true⟩,
    ⟨env.address (.daProof e), false, true⟩, ⟨systemProgramId, false, false⟩]
  instruction := .openChallenge e

/-- The slot whose challenge an instruction opens, if any. -/
def Instruction.opening : Instruction → Option UInt64
  | .openChallenge e => some e
  | _ => none

/-- **An attempt**: a call that opens the challenge of `e` before the checkpoint's deadline, by
a wallet that can pay for its two accounts. -/
def Tries (challenger : Pubkey) (e : UInt64) (L : Ledger) (cl : Call) : Prop :=
  cl.instruction.opening = some e ∧ cl.accounts = (openCall env cl.slot challenger e).accounts ∧
    (∀ c ∈ checkpointOf env L e, cl.slot < c.challengeDeadlineL1Slot) ∧
    cl.slot.toNat + challengeTurnWindowSlots.toNat < 2 ^ 64 ∧
    (sessionOf env L).isSome = true ∧
    (L challenger).data = .empty ∧ (L challenger).owner = systemProgramId ∧
    (env.minimumBalance 255).toNat + (env.minimumBalance 178).toNat ≤ (L challenger).lamports.toNat
  deriving Decidable

/-- The event is an attempt. -/
def Event.tries (challenger : Pubkey) (e : UInt64) (L : Ledger) : Event → Bool
  | .call cl => decide (Tries env challenger e L cl)
  | .other _ => false

/-- Whether the challenger tried since the last proposal at `e`, after one more event. -/
def triedAfter (challenger : Pubkey) (e : UInt64) (L : Ledger) (tried : Bool)
    (event : Event) : Bool :=
  if event.locksBond env L e = true then false else tried || event.tries env challenger e L

/-- **The challenger's part** in disputes about a wrong checkpoint at `e`: by the deadline they
have tried to open the challenge, no one else's challenge is opened, what happens during
their turns happens before their deadlines, and the proof account that is resolved was
created for the isolated step. -/
def Persists (states : ℕ → Hash32) (challenger : Pubkey) (e : UInt64)
    (before : Ledger × Bool) : Event → Prop
  | .call cl => ∀ c ∈ checkpointOf env before.1 e, Wrong states c →
      (c.challengeDeadlineL1Slot ≤ cl.slot → before.2 = true) ∧
      (cl.instruction.opening = some e → (cl.result env before.1).isOk = true →
        actorOf cl.accounts = challenger) ∧
      ∀ ch ∈ challengeOf env before.1 e, c.status = .challenged → ch.challenger = challenger →
        (ch.turn ≠ .respondent → ch.Live cl.slot) ∧
        (cl.instruction.resolution = some e → (cl.result env before.1).isOk = true →
          ∀ p ∈ stepProofOf env before.1 e, p.stepIndex = ch.startStep)
  | .other _ => True

instance (states : ℕ → Hash32) (challenger : Pubkey) (e : UInt64)
    (before : Ledger × Bool) : (event : Event) →
      Decidable (Persists env states challenger e before event)
  | .call _ | .other _ => by unfold Persists; infer_instance

/-! ## Attempts on an open proposal -/

/-- An active challenge is about a challenged checkpoint. -/
def Engaged (B : Board) : Prop :=
  ∀ e ch, B.challenge e = some ch → ch.status = .active →
    ∃ c, B.checkpoint e = some c ∧ c.status = .challenged

variable {S : Finset Pubkey} {L L' : Ledger} {now e e' : UInt64} {actor challenger : Pubkey}
  {c c' : Checkpoint} {ch : Challenge}

section Attempts

variable {env}

theorem Engaged.congr (h : Engaged B) (hc : ∀ e, B'.checkpoint e = B.checkpoint e)
    (hch : ∀ e, B'.challenge e = B.challenge e) : Engaged B' := by
  intro e ch hch' hactive
  obtain ⟨c, hc', hstatus⟩ := h e ch (hch e ▸ hch') hactive
  exact ⟨c, (hc e).trans hc', hstatus⟩

/-- A checkpoint that is not challenged changes. -/
theorem Engaged.update (h : Engaged B)
    (hbefore : ∀ c, B.checkpoint e' = some c → c.status ≠ .challenged)
    (hcheckpoint : ∀ e, B'.checkpoint e = if e = e' then some c' else B.checkpoint e)
    (hch : ∀ e, B'.challenge e = B.challenge e) : Engaged B' := by
  intro e ch hch' hactive
  obtain ⟨c, hc, hstatus⟩ := h e ch (hch e ▸ hch') hactive
  have hne : e ≠ e' := by
    rintro rfl
    exact hbefore c hc hstatus
  exact ⟨c, by rw [hcheckpoint, if_neg hne, hc], hstatus⟩

/-- The challenge of one slot is replaced, by one that is active only while its checkpoint
is challenged. -/
theorem Engaged.replace (h : Engaged B)
    (hcheckpoint : ∀ e, e ≠ e' → B'.checkpoint e = B.checkpoint e)
    (hchallenge : ∀ e, B'.challenge e = if e = e' then some x else B.challenge e)
    (hx : x.status = .active → ∃ c, B'.checkpoint e' = some c ∧ c.status = .challenged) :
    Engaged B' := by
  intro e ch hch hactive
  rw [hchallenge] at hch
  split at hch
  · rename_i heq
    cases hch
    subst heq
    exact hx hactive
  · rename_i hne
    obtain ⟨c, hc, hstatus⟩ := h e ch hch hactive
    exact ⟨c, (hcheckpoint e hne).trans hc, hstatus⟩

theorem engaged_of_move (h : Engaged (boardOf env L)) (hm : Move env S now actor L L' i) :
    Engaged (boardOf env L') := by
  cases hm with
  | aside side frame =>
    rw [frame.track.board]
    exact h
  | openSession hi move | closeSession move =>
    rw [move.track.board]
    exact h.congr (by simp) (by simp)
  | propose hi move =>
    refine h.update (fun c hc hstatus => ?_) move.checkpoint_after (by simp [move.track.board])
    -- only a finished checkpoint's account is proposed to again
    rcases move.reuse with hnone | ⟨previous, hprevious, hreusable⟩
    · rw [hnone] at hc
      cases hc
    · rw [hprevious] at hc
      cases hc
      have hdead := reusableTerminal_not_live hreusable
      rw [hstatus] at hdead
      cases hdead
  | commit hi move | cancel move =>
    refine h.update (fun c hc => ?_) move.checkpoint_after (by simp [move.track.board])
    cases hc.symm.trans move.checkpoint
    simp [move.pending]
  | finish move =>
    refine h.update (fun c hc => ?_) move.checkpoint_after (by simp [move.track.board])
    cases hc.symm.trans move.checkpoint
    simp [move.committed]
  | openChallenge move =>
    refine h.replace (fun e he => by rw [move.checkpoint_after, if_neg he]) move.challenge_after ?_
    intro _
    exact ⟨_, by rw [move.checkpoint_after, if_pos rfl], rfl⟩
  | @respond args c ch ch' d d' move =>
    obtain ⟨deadline, -, htrack⟩ := move.record
    have hchallenge : ∀ e, (boardOf env L').challenge e = if e = args.erSlot then
        some { ch' with turnDeadlineL1Slot := deadline } else (boardOf env L).challenge e := by
      simp [htrack.board, AccountData.asChallenge]
    refine h.replace (fun e _ => by simp [htrack.board]) hchallenge fun _ => ?_
    exact ⟨c, by simp [htrack.board, move.checkpoint], move.challenged⟩
  | @bisect e' disputeUpper c ch ch' move =>
    obtain ⟨deadline, -, htrack⟩ := move.record
    have hchallenge : ∀ e, (boardOf env L').challenge e = if e = e' then
        some { ch' with turnDeadlineL1Slot := deadline } else (boardOf env L).challenge e := by
      simp [htrack.board, AccountData.asChallenge]
    refine h.replace (fun e _ => by simp [htrack.board]) hchallenge fun _ => ?_
    exact ⟨c, by simp [htrack.board, move.checkpoint], move.challenged⟩
  | timeoutRespondent late turn move | reject resolves move
  | timeoutChallenger late turn move | accept resolves move =>
    exact h.replace (fun e he => by rw [move.checkpoint_after, if_neg he])
      move.challenge_after (by simp)
  | prove hi track gains =>
    rw [track.board]
    exact h.congr (by simp) (by simp)

theorem engaged_of_event (hl : env.Lawful) (hs : Sound env L) (ha : Admissible env L event)
    (h : Engaged (boardOf env L)) :
    Engaged (boardOf env (exec env L event)) := by
  rcases step_of_event hl hs ha with ⟨cl, -, -, hmove⟩ | ⟨hframe, -⟩
  · exact engaged_of_move h hmove
  · rw [hframe.track.board]
    exact h

/-- The challenge account can be prepared, at the cost of its rent. -/
theorem exists_prepareChallengeAccount (hs : Sound env L) (hengaged : Engaged (boardOf env L))
    (hc : (boardOf env L).checkpoint e = some c) (hpending : c.status = .pending)
    (hsigner : payer.isSigner = true) (hkey : ¬env.Derived payer.address)
    (hdata : (L payer.address).data = .empty) (howner : (L payer.address).owner = systemProgramId)
    (hfunds : env.minimumBalance 255 ≤ (L payer.address).lamports) :
    ∃ L₁, prepareChallengeAccount env L payer (env.address (.checkpoint e))
        (env.address (.challenge e)) = .ok L₁ ∧
      (∀ b, b ≠ env.address (.challenge e) →
        (L₁ b).data = (L b).data ∧ (L₁ b).owner = (L b).owner) ∧
      (L payer.address).lamports.toNat ≤
        (L₁ payer.address).lamports.toNat + (env.minimumBalance 255).toNat := by
  have hne : env.address (.challenge e) ≠ payer.address := aside_of_not_derived hkey _
  cases hboard : boardOf env L (.challenge e) with
  | none =>
    obtain ⟨hempty, hsystem⟩ := hs.placed (.challenge e) (by simp) hboard
    obtain ⟨L₁, hL₁, hcost⟩ := exists_initializePdaAccount env 255 hempty hsystem
      hsigner hdata howner hne hfunds
    refine ⟨L₁, by rw [prepareChallengeAccount, if_pos hempty, hL₁], fun b hb => ?_, hcost⟩
    exact ⟨initializePdaAccount_data hL₁ hb, by rw [initializePdaAccount_owner hL₁, if_neg hb]⟩
  | some d =>
    obtain ⟨howner', hdata', hholds⟩ := (boardOf_eq_some (by simp)).mp hboard
    cases d <;> try exact hholds.elim
    rename_i ch
    have hload : loadChallenge env L (env.address (.checkpoint e)) (env.address (.challenge e)) =
        .ok ch := loadChallenge_eq_ok.mpr ⟨rfl, howner', hdata', hholds⟩
    -- the checkpoint is pending, so what is left of an old challenge is finished
    have hfinished : ch.status ≠ .active := by
      intro hactive
      have hch : (boardOf env L).challenge e = some ch := by
        rw [Board.challenge, hboard]
        rfl
      obtain ⟨c', hc', hstatus⟩ := hengaged e ch hch hactive
      cases hc.symm.trans hc'
      rw [hpending] at hstatus
      cases hstatus
    have hnonempty : (L (env.address (.challenge e))).data ≠ .empty := by
      rw [hdata']
      rintro ⟨⟩
    refine ⟨L, ?_, fun b _ => ⟨rfl, rfl⟩, Nat.le_add_right _ _⟩
    rw [prepareChallengeAccount, if_neg hnonempty, hload]
    simp [hfinished]

/-- The data-availability account can be prepared. -/
theorem exists_prepareDaAccount (hs : Sound env L)
    (hsame : (L₁ (env.address (.daProof e))).data = (L (env.address (.daProof e))).data ∧
      (L₁ (env.address (.daProof e))).owner = (L (env.address (.daProof e))).owner)
    (hsigner : payer.isSigner = true) (hkey : ¬env.Derived payer.address)
    (hdata : (L₁ payer.address).data = .empty) (howner : (L₁ payer.address).owner = systemProgramId)
    (hfunds : env.minimumBalance 178 ≤ (L₁ payer.address).lamports) :
    ∃ L₂, prepareDaAccount env L₁ payer (env.address (.challenge e)) (env.address (.checkpoint e))
      (env.address (.daProof e)) = .ok L₂ := by
  have hne : env.address (.daProof e) ≠ payer.address := aside_of_not_derived hkey _
  cases hboard : boardOf env L (.daProof e) with
  | none =>
    obtain ⟨hempty, hsystem⟩ := hs.placed (.daProof e) (by simp) hboard
    rw [← hsame.1] at hempty
    rw [← hsame.2] at hsystem
    obtain ⟨L₂, hL₂, -⟩ := exists_initializePdaAccount env 178 hempty hsystem
      hsigner hdata howner hne hfunds
    exact ⟨L₂, by rw [prepareDaAccount, if_pos hempty, hL₂]⟩
  | some d =>
    obtain ⟨howner', hdata', hholds⟩ := (boardOf_eq_some (by simp)).mp hboard
    rw [← hsame.2] at howner'
    rw [← hsame.1] at hdata'
    cases d <;> try exact hholds.elim
    rename_i d
    have hload : loadDaProof env L₁ (env.address (.challenge e)) (env.address (.checkpoint e))
        (env.address (.daProof e)) = .ok d := loadDaProof_eq_ok.mpr ⟨rfl, howner', hdata', hholds⟩
    have hnonempty : (L₁ (env.address (.daProof e))).data ≠ .empty := by
      rw [hdata']
      nofun
    exact ⟨L₁, by rw [prepareDaAccount, if_neg hnonempty, hload]; rfl⟩

/-- **An attempt on an open proposal goes through.** -/
theorem openCall_accepted (hl : env.Lawful) (hs : Sound env L) (hengaged : Engaged (boardOf env L))
    (ha : Admissible env L (.call cl)) (htries : Tries env challenger e L cl)
    (hc : (boardOf env L).checkpoint e = some c) (hpending : c.status = .pending)
    (hunresolved : c.challengeResolved = false) : ∃ L', cl.result env L = .ok L' := by
  obtain ⟨hopening, haccounts, hearly, hclock, hsession, hdata, howner, hfunds⟩ := htries
  obtain ⟨slot, accounts, instruction⟩ := cl
  obtain ⟨s, hs'⟩ := Option.isSome_iff_exists.mp hsession
  rw [sessionOf, toOption_eq_some] at hs'
  have hkey : ¬env.Derived challenger := by
    refine ha ⟨challenger, true, true⟩ ?_ rfl
    show _ ∈ accounts
    rw [show accounts = _ from haccounts]
    simp [openCall]
  have hload := hc
  rw [boardOf_checkpoint] at hload
  have hearly := hearly c hload
  rw [checkpointOf, toOption_eq_some] at hload
  obtain ⟨deadline, hdeadline⟩ := exists_nextTurnDeadline c.challengeDeadlineL1Slot hclock
  have hfirst : env.minimumBalance 255 ≤ (L challenger).lamports := by
    rw [UInt64.le_iff_toNat_le]
    omega
  obtain ⟨L₁, hL₁, hsame, hcost⟩ : ∃ L₁,
      prepareChallengeAccount env L ⟨challenger, true, true⟩ (env.address (.checkpoint e))
        (env.address (.challenge e)) = .ok L₁ ∧
      (∀ b, b ≠ env.address (.challenge e) →
        (L₁ b).data = (L b).data ∧ (L₁ b).owner = (L b).owner) ∧
      (L challenger).lamports.toNat ≤
        (L₁ challenger).lamports.toNat + (env.minimumBalance 255).toNat :=
    exists_prepareChallengeAccount hs hengaged hc hpending rfl hkey hdata howner hfirst
  have hwallet := hsame challenger (aside_of_not_derived hkey _).symm
  have hsecond : env.minimumBalance 178 ≤ (L₁ challenger).lamports := by
    rw [UInt64.le_iff_toNat_le]
    omega
  obtain ⟨L₂, hL₂⟩ : ∃ L₂, prepareDaAccount env L₁ ⟨challenger, true, true⟩
      (env.address (.challenge e)) (env.address (.checkpoint e)) (env.address (.daProof e)) =
        .ok L₂ :=
    exists_prepareDaAccount hs (hsame _ (hl.address_inj.not.mpr (by simp))) rfl hkey
      (hwallet.1.trans hdata) (hwallet.2.trans howner) hsecond
  cases instruction <;> cases hopening
  cases haccounts
  show ∃ L', openChallenge env slot _ _ _ _ _ e L = .ok L'
  simp only [openChallenge, hs', hload, hdeadline, hL₁, hL₂, bind_eq_ok, rejectIf_eq_ok, pure_eq_ok,
    Except.ok.injEq, exists_eq_left', exists_const]
  exact ⟨_, by simp, by simp [hpending, hunresolved], by simpa using hearly, not_not.mpr rfl,
    not_not.mpr rfl, rfl⟩

end Attempts

/-! ## The course of the dispute -/

/-- **A wrong checkpoint is contested**: it is not committed, it has not survived a challenge,
while it is still open to one the challenger has not tried, and its dispute is theirs. -/
structure Contested (states : ℕ → Hash32) (challenger : Pubkey) (B : Board) (e : UInt64)
    (tried : Bool) : Prop where
  open_ : ∀ c, B.checkpoint e = some c → Wrong states c →
    c.status ≠ .committed ∧ c.status ≠ .settled
  unresolved : ∀ c, B.checkpoint e = some c → Wrong states c →
    c.status = .pending ∨ c.status = .challenged → c.challengeResolved = false
  untried : ∀ c, B.checkpoint e = some c → Wrong states c → c.status = .pending → tried = false
  theirs : ∀ D, disputeOf B e = some D → Wrong states D.checkpoint →
    D.challenge.challenger = challenger

variable {states : ℕ → Hash32}

section Course

variable {env}

/-- A checkpoint that is not wrong has nothing to contest. -/
theorem Contested.of_not_wrong (hc' : B'.checkpoint e = some c') (hfalse : ¬Wrong states c') :
    Contested states challenger B' e tried' := by
  have hnone : ∀ c₁, B'.checkpoint e = some c₁ → ¬Wrong states c₁ := by
    intro c₁ hc₁
    rw [hc'] at hc₁
    cases hc₁
    exact hfalse
  refine ⟨?_, ?_, ?_, ?_⟩
  · exact fun c₁ hc₁ hwrong => absurd hwrong (hnone c₁ hc₁)
  · exact fun c₁ hc₁ hwrong => absurd hwrong (hnone c₁ hc₁)
  · exact fun c₁ hc₁ hwrong => absurd hwrong (hnone c₁ hc₁)
  · intro D hD hwrong
    exact absurd hwrong (hnone _ (disputeOf_eq_some.mp hD).1)

/-- A wrong checkpoint after which nothing is in dispute. -/
theorem Contested.of_after (hc' : B'.checkpoint e = some c')
    (hopen : c'.status ≠ .committed ∧ c'.status ≠ .settled) (hstatus : c'.status ≠ .challenged)
    (hpending : c'.status = .pending → c'.challengeResolved = false ∧ tried' = false) :
    Contested states challenger B' e tried' := by
  have hsame : ∀ c₁, B'.checkpoint e = some c₁ → c₁ = c' :=
    fun c₁ hc₁ => Option.some.inj (hc₁.symm.trans hc')
  refine ⟨?_, ?_, ?_, ?_⟩
  · intro c₁ hc₁ _
    rw [hsame c₁ hc₁]
    exact hopen
  · intro c₁ hc₁ _ hs
    rw [hsame c₁ hc₁] at hs ⊢
    exact (hpending (hs.resolve_right hstatus)).1
  · intro c₁ hc₁ _ hs
    rw [hsame c₁ hc₁] at hs
    exact (hpending hs).2
  · intro D hD _
    obtain ⟨hc, hs, -⟩ := disputeOf_eq_some.mp hD
    rw [hsame _ hc] at hs
    exact absurd hs hstatus

/-- A move that leaves the checkpoint alone and the dispute with its challenger. -/
theorem Contested.congr (h : Contested states challenger B e tried) (htried : tried' = tried)
    (hc : B'.checkpoint e = B.checkpoint e)
    (hD : ∀ D', disputeOf B' e = some D' → ∃ D, disputeOf B e = some D ∧
      D'.checkpoint = D.checkpoint ∧ D'.challenge.challenger = D.challenge.challenger) :
    Contested states challenger B' e tried' where
  open_ c hc' := h.open_ c (hc ▸ hc')
  unresolved c hc' := h.unresolved c (hc ▸ hc')
  untried c hc' hwrong hs := htried.trans (h.untried c (hc ▸ hc') hwrong hs)
  theirs D' hD' hwrong := by
    obtain ⟨D, hD₀, hsame, hchallenger⟩ := hD D' hD'
    rw [hchallenger]
    exact h.theirs D hD₀ (hsame ▸ hwrong)

/-- The challenger of a dispute never changes. -/
theorem DisputeMove.same_challenger (hm : DisputeMove env now actor e B B' i)
    (hi : i.opening ≠ some e) (hD' : disputeOf B' e = some D') :
    ∃ D, disputeOf B e = some D ∧ D'.checkpoint = D.checkpoint ∧
      D'.challenge.challenger = D.challenge.challenger := by
  cases hm with
  | stay quiet hc hsame => exact ⟨D', hsame ▸ hD', rfl, rfl⟩
  | closed hclosed =>
    obtain ⟨hc, hstatus, -⟩ := disputeOf_eq_some.mp hD'
    exact absurd hstatus (hclosed _ hc)
  | opened hB early hdeadline session hnew => exact absurd rfl hi
  | responded he hB live turn respondent answer reveals hdeadline hnew =>
    rw [hnew] at hD'
    cases hD'
    have hkept := Challenge.challenger_respond answer
    exact ⟨_, hB, rfl, hkept⟩
  | bisected hB live turn challenger choice hdeadline hnew =>
    rw [hnew] at hD'
    cases hD'
    have hkept := Challenge.challenger_bisect choice
    exact ⟨_, hB, rfl, hkept⟩

/-- A proof of a step with a wrong end is not accepted. -/
theorem verifyStepProof_ne_valid (hsound : VerifierSound env states e)
    (htest : env.features.testVerifier = false) (hslot : c.erSlot = e)
    (hindex : p.stepIndex = ch.startStep) (hstart : ch.startStateRoot = states ch.startStep.toNat)
    (hend : ch.endStateRoot ≠ states (ch.startStep.toNat + 1)) :
    verifyStepProof env mode c ch p ≠ .valid := by
  cases mode with
  | testOnly => simp [verifyStepProof, verifyStepProofTestOnly, htest]
  | production =>
    intro hvalid
    rw [verifyStepProof, verifyStepProofProduction] at hvalid
    cases hinputs : stepPublicInputs c ch p with
    | none =>
      rw [hinputs] at hvalid
      split at hvalid
      · cases hvalid
      · split at hvalid <;> cases hvalid
    | some inputs =>
      rw [hinputs] at hvalid
      have haccepts : env.verifyErStepProofV1 p.data inputs.toBytes = true := by
        by_contra hrejects
        split at hvalid
        · cases hvalid
        · split at hvalid
          · cases hvalid
          · simp [hrejects] at hvalid
      simp only [stepPublicInputs, Option.bind_eq_bind, Option.bind_eq_some_iff,
        FrBytes.new_eq_some] at hinputs
      obtain ⟨context, -, pre, hpre, post, hpost, tx, -, readonly, -, effect, -, hinputs⟩ := hinputs
      cases hinputs
      refine hend ?_
      rw [hpost]
      exact hsound p.data _ ch.startStep haccepts (by rw [← hindex, ← hslot])
        (hpre.symm.trans hstart)

/-- **Every move leaves a wrong checkpoint contested**, when the challenger plays their part. -/
theorem contested_of_move (hsound : VerifierSound env states e)
    (htest : env.features.testVerifier = false) (hst : Standing (boardOf env L))
    (hmisled : Misled states (boardOf env L) e)
    (hdiligent : ∀ c, (boardOf env L).checkpoint e = some c → Wrong states c →
      c.challengeDeadlineL1Slot ≤ now → tried = true)
    (hopens : ∀ c, (boardOf env L).checkpoint e = some c → Wrong states c → i.opening = some e →
      actor = challenger)
    (hlive : ∀ D, disputeOf (boardOf env L) e = some D → Wrong states D.checkpoint →
      D.challenge.challenger = challenger → D.challenge.turn ≠ .respondent → D.challenge.Live now)
    (hproof : ∀ D p, disputeOf (boardOf env L) e = some D → Wrong states D.checkpoint →
      D.challenge.challenger = challenger → i.resolution = some e →
      (boardOf env L).stepProof e = some p → p.stepIndex = D.challenge.startStep)
    (hreset : i.Proposes e → tried' = false)
    (hkeep : ¬i.Proposes e → i.opening ≠ some e → tried' = tried)
    (h : Contested states challenger (boardOf env L) e tried) (hm : Move env S now actor L L' i) :
    Contested states challenger (boardOf env L') e tried' := by
  have hdispute := disputeMove_of_move hm e
  -- moves that neither propose nor open at `e` and leave its checkpoint alone
  have hcongr : ¬i.Proposes e → i.opening ≠ some e →
      (boardOf env L').checkpoint e = (boardOf env L).checkpoint e →
      Contested states challenger (boardOf env L') e tried' :=
    fun hquiet hi hc => h.congr (hkeep hquiet hi) hc fun D' hD' => hdispute.same_challenger hi hD'
  have hquiet : i.proposal = none → i.opening = none →
      (boardOf env L').checkpoint e = (boardOf env L).checkpoint e →
      Contested states challenger (boardOf env L') e tried' :=
    fun hp ho hc => hcongr (Instruction.not_proposes hp e) (by simp [ho]) hc
  cases hm with
  | aside side frame =>
    refine hquiet ?_ ?_ (by rw [frame.track.board]; rfl)
    · cases i <;> first | rfl | cases side
    · cases i <;> first | rfl | cases side
  | openSession hi move =>
    refine hquiet ?_ ?_ (by simp [move.track.board])
    · cases i <;> first | rfl | cases hi
    · cases i <;> first | rfl | cases hi
  | closeSession move =>
    exact hquiet rfl rfl (by simp [move.track.board])
  | @propose _ args s k c hi move =>
    have hopening : i.opening = none := by cases i <;> first | rfl | cases hi
    by_cases he : e = args.erSlot
    · obtain ⟨deadline, bump, -, rfl⟩ := move.record
      have hc' := move.checkpoint_after e
      rw [if_pos he] at hc'
      exact .of_after hc' ⟨nofun, nofun⟩ nofun fun _ => ⟨rfl, hreset ⟨args, hi, he.symm⟩⟩
    · refine hcongr ?_ (by simp [hopening]) (by rw [move.checkpoint_after, if_neg he])
      rintro ⟨args', hi', he'⟩
      cases hi.symm.trans hi'
      exact he he'.symm
  | @commit _ e' s c k hi move =>
    by_cases he : e = e'
    · subst he
      -- by the deadline the challenger has tried, so the checkpoint is not pending any more
      refine .of_not_wrong (by rw [move.checkpoint_after, if_pos rfl]) fun hwrong => ?_
      have htried := hdiligent c move.checkpoint hwrong move.late
      rw [h.untried c move.checkpoint hwrong move.pending] at htried
      cases htried
    · refine hquiet ?_ ?_ (by rw [move.checkpoint_after, if_neg he])
      · cases i <;> first | rfl | cases hi
      · cases i <;> first | rfl | cases hi
  | @cancel e' c k move | @timeoutRespondent e' c ch k late turn move
  | @reject e' mode c ch k p resolves move =>
    by_cases he : e = e'
    · have hc' := move.checkpoint_after e
      rw [if_pos he] at hc'
      exact .of_after hc' ⟨nofun, nofun⟩ nofun nofun
    · exact hquiet rfl rfl (by rw [move.checkpoint_after, if_neg he])
  | @finish e' checksum s c k move =>
    by_cases he : e = e'
    · subst he
      refine .of_not_wrong (by rw [move.checkpoint_after, if_pos rfl]) fun hwrong => ?_
      exact (h.open_ c move.checkpoint hwrong).1 move.committed
    · exact hquiet rfl rfl (by rw [move.checkpoint_after, if_neg he])
  | @openChallenge e' s c ch d move =>
    by_cases he : e = e'
    · subst he
      have hc' := move.checkpoint_after e
      rw [if_pos rfl] at hc'
      refine ⟨?_, ?_, ?_, ?_⟩
      · intro c₁ hc₁ _
        cases hc₁.symm.trans hc'
        exact ⟨nofun, nofun⟩
      · intro c₁ hc₁ _ _
        cases hc₁.symm.trans hc'
        exact move.unresolved
      · intro c₁ hc₁ _ hs
        cases hc₁.symm.trans hc'
        cases hs
      · intro D hD hwrong
        obtain ⟨hc₁, -, hch, -⟩ := disputeOf_eq_some.mp hD
        obtain ⟨deadline, bump, -, rfl⟩ := move.record
        rw [move.challenge_after, if_pos rfl] at hch
        rw [Option.some.inj (hc₁.symm.trans hc')] at hwrong
        rw [← Option.some.inj hch]
        exact hopens c move.checkpoint hwrong rfl
    · exact hcongr (Instruction.not_proposes rfl e) (fun heq => he (Option.some.inj heq).symm)
        (by rw [move.checkpoint_after, if_neg he])
  | respond move | bisect move =>
    obtain ⟨deadline, -, htrack⟩ := move.record
    exact hquiet rfl rfl (by simp [htrack.board])
  | @timeoutChallenger e' c ch late turn move =>
    by_cases he : e = e'
    · subst he
      -- the challenger is never late
      obtain ⟨d, hD⟩ := hst.exists_dispute move.toUnderWay
      refine .of_not_wrong (by rw [move.checkpoint_after, if_pos rfl]) fun hwrong => late ?_
      exact hlive _ hD hwrong (h.theirs _ hD hwrong) turn
    · exact hquiet rfl rfl (by rw [move.checkpoint_after, if_neg he])
  | @accept e' mode c ch p resolves move =>
    by_cases he : e = e'
    · subst he
      -- the isolated step ends in a wrong root, so no proof of it verifies
      obtain ⟨d, hD⟩ := hst.exists_dispute move.toUnderWay
      refine .of_not_wrong (by rw [move.checkpoint_after, if_pos rfl]) fun hwrong => ?_
      have hroots := (hmisled _ hD).interval
      have hend : ch.endStateRoot ≠ states (ch.startStep.toNat + 1) := by
        have hhi : ch.endStateRoot ≠ states ch.endStep.toNat := hroots.hi hwrong.1 hwrong.2
        have hisolated : ch.endStep.toNat = ch.startStep.toNat + 1 :=
          (hst.proper e _ hD).isolated resolves.turn
        rwa [hisolated] at hhi
      have hslot : c.erSlot = e := by
        have hc := move.checkpoint
        rw [boardOf_checkpoint, checkpointOf_eq_some] at hc
        exact hc.2.2.2
      exact verifyStepProof_ne_valid hsound htest hslot
        (hproof _ p hD hwrong (h.theirs _ hD hwrong) rfl resolves.proof)
        (hroots.lo hwrong.1 hwrong.2) hend resolves.verdict
    · exact hquiet rfl rfl (by rw [move.checkpoint_after, if_neg he])
  | prove hi track gains =>
    refine hquiet ?_ ?_ (by simp [track.board])
    · cases i <;> first | rfl | cases hi
    · cases i <;> first | rfl | cases hi

/-- **Every event leaves a wrong checkpoint contested.** -/
theorem contested_of_event (hl : env.Lawful) (hsound : VerifierSound env states e)
    (htest : env.features.testVerifier = false) (hs : Sound env L) (hst : Standing (boardOf env L))
    (hengaged : Engaged (boardOf env L)) (hmisled : Misled states (boardOf env L) e)
    (ha : Admissible env L event) (hp : Persists env states challenger e (L, tried) event)
    (h : Contested states challenger (boardOf env L) e tried) :
    Contested states challenger (boardOf env (exec env L event)) e
      (triedAfter env challenger e L tried event) := by
  rcases step_of_event hl hs ha with ⟨cl, rfl, hresult, hmove⟩ | ⟨hframe, hfailed⟩
  · have hok : (cl.result env L).isOk = true := by
      rw [hresult]
      rfl
    refine contested_of_move hsound htest hst hmisled ?_ ?_ ?_ ?_ ?_ ?_ h hmove
    · intro c hc hwrong hlate
      rw [boardOf_checkpoint] at hc
      exact (hp c hc hwrong).1 hlate
    · intro c hc hwrong hopening
      rw [boardOf_checkpoint] at hc
      exact (hp c hc hwrong).2.1 hopening hok
    · intro D hD hwrong htheirs hturn
      obtain ⟨hc, hstatus, hch, -⟩ := disputeOf_eq_some.mp hD
      rw [boardOf_checkpoint] at hc
      rw [boardOf_challenge] at hch
      exact ((hp _ hc hwrong).2.2 _ hch hstatus htheirs).1 hturn
    · intro D p hD hwrong htheirs hresolution hproof
      obtain ⟨hc, hstatus, hch, -⟩ := disputeOf_eq_some.mp hD
      rw [boardOf_checkpoint] at hc
      rw [boardOf_challenge] at hch
      rw [boardOf_stepProof] at hproof
      exact ((hp _ hc hwrong).2.2 _ hch hstatus htheirs).2 hresolution hok p hproof
    · intro hproposes
      rw [triedAfter, if_pos ((Event.locksBond_call hresult).mpr hproposes)]
    · intro hquiet hopening
      have hnot : ¬Tries env challenger e L cl := fun htries => hopening htries.1
      rw [triedAfter, if_neg (mt (Event.locksBond_call hresult).mp hquiet), Event.tries,
        decide_eq_false hnot, Bool.or_false]
  · rw [hframe.track.board]
    have hlocks : event.locksBond env L e = false := Event.locksBond_of_failed hfailed
    refine ⟨h.open_, h.unresolved, fun c hc hwrong hs' => ?_, h.theirs⟩
    have hunresolved := h.unresolved c hc hwrong (.inl hs')
    rw [triedAfter, if_neg (by simp [hlocks]), h.untried c hc hwrong hs', Bool.false_or]
    -- an attempt on an open proposal does not fail
    cases event with
    | call cl =>
      refine decide_eq_false fun htries => ?_
      obtain ⟨L', hL'⟩ := openCall_accepted hl hs hengaged ha htries hc hs' hunresolved
      obtain ⟨err, herr⟩ := hfailed cl rfl
      rw [hL'] at herr
      cases herr
    | other after => rfl

end Course

/-! ## Honest challenges along histories -/

section Histories

variable {env} {L₀ : Ledger} {events : List Event}

/-- **The honest challenger stops a wrong checkpoint.** In every history, of sessions of either
format, in which the challenger tries to open the challenge before the deadline, is the only
one whose challenge is opened, takes every turn of theirs in time and chooses halves by the
true states, a wrong checkpoint is never committed, whatever everyone else does. -/
theorem honest_challenger_stops (hl : env.Lawful) (hsound : VerifierSound env states e)
    (htest : env.features.testVerifier = false) (h : History env L₀ events)
    (hfollows : Runs.Along (exec env) (ChallengerFollows env states e) L₀ events)
    (hpersists : Runs.Along (Runs.ghost (exec env) (triedAfter env challenger e))
      (Persists env states challenger e) (L₀, false) events)
    (hc : checkpointOf env (ledgerAfter env L₀ events) e = some c) (hwrong : Wrong states c) :
    c.status ≠ .committed ∧ c.status ≠ .settled := by
  have hinvariant := History.ghost_induction_along hl
    (C := fun before event => ChallengerFollows env states e before.1 event ∧
      Persists env states challenger e before event)
    (P := fun L tried => Standing (boardOf env L) ∧ Engaged (boardOf env L) ∧
      Misled states (boardOf env L) e ∧ Contested states challenger (boardOf env L) e tried)
    ?_ ?_ h (hfollows.ghost.and hpersists)
  · rw [← boardOf_checkpoint] at hc
    exact hinvariant.2.2.2.open_ c hc hwrong
  · intro hg
    have hcheckpoint : (boardOf env L₀).checkpoint e = none := by
      rw [Board.checkpoint, hg.board_eq_none]
      rfl
    refine ⟨hg.standing, fun e ch hch => ?_, fun D hD => ?_, ⟨?_, ?_, ?_, ?_⟩⟩
    · rw [Board.challenge, hg.board_eq_none] at hch
      cases hch
    · rw [hg.disputeOf_eq_none] at hD
      cases hD
    · simp [hcheckpoint]
    · simp [hcheckpoint]
    · simp [hcheckpoint]
    · intro D hD
      rw [hg.disputeOf_eq_none] at hD
      cases hD
  · rintro L tried event hs ha ⟨hf, hp⟩ ⟨hst, hengaged, hmisled, hcontested⟩
    exact ⟨standing_of_event hl hs ha hst, engaged_of_event hl hs ha hengaged,
      misled_of_event hl hs hst ha hf hmisled,
      contested_of_event hl hsound htest hs hst hengaged hmisled ha hp hcontested⟩

end Histories

/-! ## Wrong checkpoints on the local deployment -/

/-- A proposal of one step from root 0 that claims root 9, open for `window` slots. -/
def localFalseProposal (window : UInt64) : ProposeCheckpoint :=
  { localTrueProposal with
    newStateRoot := localRoot 9
    challengeWindowSlots := window }

theorem localNext_localRoot (n : UInt8) :
    localNext (localRoot n).toList = (localRoot (n + 1)).toList := by
  rw [localRoot, localRoot, tagged, tagged, toList_ofList32, toList_ofList32]
  rfl

theorem localStates_succ (i : ℕ) :
    (localStates (i + 1)).toList = localNext (localStates i).toList := by
  rw [localStates, localStates, localNext_localRoot, UInt8.ofNat_add]
  rfl

/-- The local verifier accepts the true steps only. -/
theorem localnet_verifierSound (e : UInt64) : VerifierSound localnet localStates e := by
  intro proof inputs i hverified _ hpre
  obtain ⟨-, hnext⟩ := Bool.and_eq_true_iff.mp hverified
  have hnext := beq_iff_eq.mp hnext
  have hpost : (inputs.toBytes.drop 128).take 32 = inputs.postStateRoot.bytes.toList := by
    simp [ErStepPublicInputsV1.toBytes, ErStepPublicInputsV1.toArray, List.drop_append,
      List.drop_of_length_le]
  have hbefore : (inputs.toBytes.drop 96).take 32 = inputs.preStateRoot.bytes.toList := by
    simp [ErStepPublicInputsV1.toBytes, ErStepPublicInputsV1.toArray, List.drop_append,
      List.drop_of_length_le]
  rw [hpost, hbefore, hpre, ← localStates_succ] at hnext
  exact toList_inj32.mp hnext

/-- Wallet 22 challenges a wrong proposal, and the bytes they seal do not verify. -/
def localRefuted : List Call :=
  [localOpening, localProposing (localFalseProposal 100), openCall localnet 30 (tagged 22 []) 7,
    respondCall localnet 40 (tagged 21 []) (localAnswer 0 (localRoot 9) 0)] ++
    localUpload 7 356 ++ [localResolving]

/-- The challenger's part ends with the proposal invalid. -/
theorem honest_challenger_stops_refuted :
    ∃ c, checkpointOf localnet (ledgerAfter localnet localLedger (localRefuted.map .call)) 7 =
        some c ∧
      Wrong localStates c ∧ c.status = .invalid ∧ c.status ≠ .committed := by
  have hrecord : ∃ c ∈ checkpointOf localnet
      (ledgerAfter localnet localLedger (localRefuted.map .call)) 7,
      Wrong localStates c ∧ c.status = .invalid := by decide +kernel
  obtain ⟨c, hc, hwrong, hstatus⟩ := hrecord
  have hpersists : Runs.Along (Runs.ghost (exec localnet) (triedAfter localnet (tagged 22 []) 7))
      (Persists localnet localStates (tagged 22 []) 7) (localLedger, false)
      (localRefuted.map .call) := by decide +kernel
  have hstopped := honest_challenger_stops localnet_lawful (localnet_verifierSound 7) rfl
    (localnet_history (by decide +kernel)) (by decide +kernel) hpersists hc hwrong
  exact ⟨c, hc, hwrong, hstatus, hstopped.1⟩

/-- Wallet 23 opens the challenge in the slot of the proposal and misses their turn. Wallet 22
tries in every slot of the window. -/
def localLapsed : List Call :=
  [localOpening, localProposing (localFalseProposal 3), openCall localnet 20 (tagged 23 []) 7,
    openCall localnet 20 (tagged 22 []) 7,
    respondCall localnet 20 (tagged 21 []) (localAnswer 0 (localRoot 9) 0),
    openCall localnet 21 (tagged 22 []) 7, openCall localnet 22 (tagged 22 []) 7,
    ⟨23, [localWallet 21, localPlace .session, localPlace (.checkpoint 7),
      localPlace (.challenge 7), localPlace (.daProof 7), localNamed (tagged 23 []),
      localPlace .cursor], .timeoutChallenge 7⟩,
    { localCommitting with slot := 23 }]

/-- **A lapsed challenge commits.** A wrong checkpoint is committed although wallet 22 tries to
open its challenge in every slot of its window, and has no turn to miss. -/
theorem lapsed_challenge_commits :
    History localnet localLedger (localLapsed.map .call) ∧
      (∀ slot ∈ ([20, 21, 22] : List UInt64),
        openCall localnet slot (tagged 22 []) 7 ∈ localLapsed) ∧
      ∃ c ch,
        checkpointOf localnet (ledgerAfter localnet localLedger (localLapsed.map .call)) 7 =
          some c ∧
        challengeOf localnet (ledgerAfter localnet localLedger (localLapsed.map .call)) 7 =
          some ch ∧
        Wrong localStates c ∧ c.proposedAtL1Slot = 20 ∧ c.challengeDeadlineL1Slot = 23 ∧
        ch.challenger = tagged 23 [] ∧ c.status = .committed := by
  have houtcome : ∃ c ∈ checkpointOf localnet
      (ledgerAfter localnet localLedger (localLapsed.map .call)) 7,
      ∃ ch ∈ challengeOf localnet (ledgerAfter localnet localLedger (localLapsed.map .call)) 7,
      Wrong localStates c ∧ c.proposedAtL1Slot = 20 ∧ c.challengeDeadlineL1Slot = 23 ∧
        ch.challenger = tagged 23 [] ∧ c.status = .committed := by decide +kernel
  obtain ⟨c, hc, ch, hch, hrest⟩ := houtcome
  refine ⟨localnet_history (by decide +kernel), ?_, c, ch, hc, hch, hrest⟩
  intro slot hslot
  fin_cases hslot <;> simp [localLapsed]

end Northstar.Portal
