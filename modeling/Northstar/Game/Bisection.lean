import Northstar.Game.Disputes

/-!
# Bisection

A challenger who knows the true states picks the half of the interval to keep by comparing
the posted midpoint with the true one. The dispute then always starts from a true root and
ends in a wrong one, every root in between is authenticated under the trace root of the
checkpoint, and after logarithmically many rounds a single step is left to be proved.

## Main definitions

* `Authenticated`: a root authenticated at its index in the trace of a checkpoint
* `ChallengerFollows`: the challenger's choices follow the true states
* `turnsTaken`: the turns taken since the challenge was opened
* `respondCall`, `bisectCall`: the calls of the two parties

## Main results

* `respondCall_accepted`, `bisectCall_accepted`: whoever has the turn can take it
* `bisection_soundness`: the invariant, the bound and the progress of the bisection
-/

namespace Northstar.Portal

open Bytes Checked Bisection Challenge

variable (env : Env)

/-- The root is authenticated at index `i` under the trace root of the checkpoint. -/
def Authenticated (c : Checkpoint) (i : ℕ) (root : Hash32) : Prop :=
  ∃ (step : UInt64) (len : UInt8) (path : Vector Hash32 5), step.toNat = i ∧
    verifyTraceAuthenticationPath env c step root len path = true

/-- **The challenger's strategy**: whenever a half is chosen in a dispute about `e` that starts
from the true root and ends in a wrong one, it is the upper half exactly when the posted
midpoint is the true root. -/
def ChallengerFollows (states : ℕ → Hash32) (e : UInt64) (L : Ledger) : Event → Prop
  | .call ⟨slot, accounts, .bisectChallenge e' disputeUpper⟩ =>
    e' = e → (Call.result env ⟨slot, accounts, .bisectChallenge e' disputeUpper⟩ L).isOk = true →
    ∀ c ∈ checkpointOf env L e, ∀ ch ∈ challengeOf env L e,
      c.previousStateRoot = states 0 → c.newStateRoot ≠ states c.stepCount.toNat →
      (disputeUpper = true ↔ ch.midpointStateRoot = states ch.midpointStep.toNat)
  | _ => True

instance (states : ℕ → Hash32) (e : UInt64) (L : Ledger) (event : Event) :
    Decidable (ChallengerFollows env states e L event) := by
  unfold ChallengerFollows
  split <;> infer_instance

/-! ## The claimed roots -/

variable {L L₀ : Ledger} {e : UInt64} {event : Event} {events : List Event} {states : ℕ → Hash32}
  {D : Dispute}

section Roots

variable {env}

/-- The interval starts from the checkpoint's first root or an authenticated one. -/
def StartVouched (env : Env) (c : Checkpoint) (i : ℕ) (root : Hash32) : Prop :=
  i = 0 ∧ root = c.previousStateRoot ∨ Authenticated env c i root

/-- The interval ends in the checkpoint's last root or an authenticated one. -/
def EndVouched (env : Env) (c : Checkpoint) (i : ℕ) (root : Hash32) : Prop :=
  i = c.stepCount.toNat ∧ root = c.newStateRoot ∨ Authenticated env c i root

/-- The roots of a dispute are vouched for. -/
def Vouched (env : Env) (B : Board) (e : UInt64) : Prop :=
  ∀ D, disputeOf B e = some D → D.Meets (StartVouched env D.checkpoint)
    (EndVouched env D.checkpoint) (Authenticated env D.checkpoint)

theorem vouched_of_event (hl : env.Lawful) (hs : Sound env L) (hst : Standing (boardOf env L))
    (ha : Admissible env L event) (h : Vouched env (boardOf env L) e) :
    Vouched env (boardOf env (exec env L event)) e := by
  intro D hD
  rcases disputeMove_of_event hl hs ha e with ⟨cl, -, -, hmove⟩ | ⟨hsame, -⟩
  · refine Dispute.Meets.of_disputeMove (P := StartVouched env) (Q := EndVouched env)
      (M := Authenticated env) hst hmove ?_ ?_ ?_ h hD
    · intro c
      exact ⟨.inl ⟨rfl, rfl⟩, .inl ⟨rfl, rfl⟩⟩
    · intro args D₀ _ _ _ _ hpath
      exact ⟨args.claimedStep, args.tracePathLen, args.tracePath, rfl, hpath⟩
    · intro disputeUpper D₀ _ _ hmid
      exact ⟨fun _ => .inr hmid, fun _ => .inr hmid⟩
  · rw [hsame] at hD
    exact h D hD

/-- A claim about the checkpoint that only counts when it starts from the true root and
ends in a wrong one. -/
def WhenWrong (states : ℕ → Hash32) (P : ℕ → Hash32 → Prop) (c : Checkpoint) (i : ℕ)
    (root : Hash32) : Prop :=
  c.previousStateRoot = states 0 → c.newStateRoot ≠ states c.stepCount.toNat → P i root

/-- The dispute starts from a true root and ends in a wrong one. -/
def Misled (states : ℕ → Hash32) (B : Board) (e : UInt64) : Prop :=
  ∀ D, disputeOf B e = some D →
    D.Meets (WhenWrong states (fun i root => root = states i) D.checkpoint)
      (WhenWrong states (fun i root => root ≠ states i) D.checkpoint) (fun _ _ => True)

theorem misled_of_event (hl : env.Lawful) (hs : Sound env L) (hst : Standing (boardOf env L))
    (ha : Admissible env L event) (hf : ChallengerFollows env states e L event)
    (h : Misled states (boardOf env L) e) : Misled states (boardOf env (exec env L event)) e := by
  intro D hD
  rcases disputeMove_of_event hl hs ha e with ⟨cl, rfl, hresult, hmove⟩ | ⟨hsame, -⟩
  · refine Dispute.Meets.of_disputeMove
      (P := WhenWrong states fun i root => root = states i)
      (Q := WhenWrong states fun i root => root ≠ states i)
      (M := fun _ _ _ => True) hst hmove ?_ ?_ ?_ h hD
    · intro c
      exact ⟨fun hstart _ => hstart, fun _ hend => hend⟩
    · intro args D₀ _ _ _ _ _
      trivial
    · intro disputeUpper D₀ hi hD₀ _
      obtain ⟨hc, -, hch, -⟩ := disputeOf_eq_some.mp hD₀
      rw [boardOf_checkpoint] at hc
      rw [boardOf_challenge] at hch
      obtain ⟨slot, accounts, instruction⟩ := cl
      cases hi
      have hchoice := hf rfl (by rw [hresult]; rfl) _ hc _ hch
      refine ⟨fun hu hstart hend => (hchoice hstart hend).mp hu, fun hu hstart hend heq => ?_⟩
      rw [(hchoice hstart hend).mpr heq] at hu
      cases hu
  · rw [hsame] at hD
    exact h D hD

end Roots

/-! ## The number of turns -/

/-- The turns taken in the dispute about `e`, after one more instruction. -/
def Instruction.turnsAfter (e : UInt64) (turns : ℕ) : Instruction → ℕ
  | .openChallenge e' => if e' = e then 0 else turns
  | .respondChallenge args => if args.erSlot = e then turns + 1 else turns
  | .bisectChallenge e' _ => if e' = e then turns + 1 else turns
  | _ => turns

def turnsAfter (e : UInt64) (L : Ledger) (turns : ℕ) : Event → ℕ
  | .call c => match c.result env L with
    | .ok _ => c.instruction.turnsAfter e turns
    | .error _ => turns
  | .other _ => turns

/-- **The turns taken** since the challenge of `e` was last opened. -/
def turnsTaken (L₀ : Ledger) (events : List Event) (e : UInt64) : ℕ :=
  (Runs.run (Runs.ghost (exec env) (turnsAfter env e)) (L₀, 0) events).2

/-- A round is a response and a choice; the turn after a response has the response more. -/
def Challenge.turns (ch : Challenge) : ℕ :=
  2 * ch.rounds.toNat + if ch.turn = .respondent then 0 else 1

section Turns

variable {env} {turns : ℕ}

theorem Instruction.turnsAfter_of_quiet {i : Instruction} (h : i.disputed ≠ some e) :
    i.turnsAfter e turns = turns := by
  cases i <;> first | rfl | exact if_neg fun heq => h (congrArg some heq)

theorem turnsAfter_of_ok (h : c.result env L = .ok L') :
    turnsAfter env e L turns (.call c) = c.instruction.turnsAfter e turns := by
  rw [turnsAfter, h]

theorem turnsAfter_of_failed
    (h : ∀ c : Call, event = .call c → ∃ err, c.result env L = .error err) :
    turnsAfter env e L turns event = turns := by
  cases event with
  | call c =>
    obtain ⟨err, herr⟩ := h c rfl
    rw [turnsAfter, herr]
  | other after => rfl

/-- The record of a dispute tells how many turns it took. -/
def Counted (B : Board) (e : UInt64) (turns : ℕ) : Prop :=
  ∀ D, disputeOf B e = some D → turns = D.challenge.turns

theorem counted_of_event (hl : env.Lawful) (hs : Sound env L) (ha : Admissible env L event)
    (h : Counted (boardOf env L) e turns) :
    Counted (boardOf env (exec env L event)) e (turnsAfter env e L turns event) := by
  intro D hD
  rcases disputeMove_of_event hl hs ha e with ⟨cl, rfl, hresult, hmove⟩ | ⟨hsame, hfailed⟩
  · rw [turnsAfter_of_ok hresult]
    generalize cl.instruction = i at hmove ⊢
    cases hmove with
    | stay quiet hc hsame =>
      rw [hsame] at hD
      rcases quiet with hquiet | hnone
      · rw [Instruction.turnsAfter_of_quiet hquiet]
        exact h D hD
      · rw [hnone] at hD
        cases hD
    | closed hclosed =>
      obtain ⟨hc, hstatus, -⟩ := disputeOf_eq_some.mp hD
      exact absurd hstatus (hclosed _ hc)
    | opened hB early hdeadline session hnew =>
      rw [hnew] at hD
      cases hD
      exact if_pos rfl
    | @responded args D₀ ch d deadline he hB live turn respondent answer reveals hdeadline hnew =>
      rw [hnew] at hD
      cases hD
      have hbefore : turns = 2 * D₀.challenge.rounds.toNat := by
        rw [h D₀ hB, Challenge.turns, if_pos turn]
        rfl
      rw [Instruction.turnsAfter, if_pos he, hbefore]
      rcases respond_ok answer with ⟨-, -, -, rfl⟩ | ⟨-, -, -, rfl⟩ <;> rfl
    | @bisected disputeUpper D₀ ch deadline hB live turn challenger choice hdeadline hnew =>
      rw [hnew] at hD
      cases hD
      have hbefore : turns = 2 * D₀.challenge.rounds.toNat + 1 := by
        rw [h D₀ hB, Challenge.turns, if_neg (by simp [turn])]
      obtain ⟨-, -, rounds, hrounds, rfl⟩ := bisect_ok choice
      rw [Instruction.turnsAfter, if_pos rfl, hbefore]
      show _ = 2 * rounds.toNat + 0
      omega
  · rw [turnsAfter_of_failed hfailed]
    rw [hsame] at hD
    exact h D hD

/-- **The bound on turns**: a proper dispute takes at most two turns a round and the last
response, and that many turns lead to the proof. -/
theorem Dispute.Proper.turns_le (h : D.Proper) :
    D.challenge.turns ≤ 2 * Nat.clog 2 D.checkpoint.stepCount.toNat + 1 ∧
      (D.challenge.turns = 2 * Nat.clog 2 D.checkpoint.stepCount.toNat + 1 →
        D.challenge.turn = .prove) := by
  have hrounds := h.rounds
  cases hturn : D.challenge.turn with
  | respondent =>
    rw [turns, if_pos hturn]
    exact ⟨by omega, by omega⟩
  | challenger =>
    have hpos := Interval.rank_pos (h.midpoint hturn).1
    rw [turns, if_neg (by simp [hturn])]
    exact ⟨by omega, by omega⟩
  | prove =>
    rw [turns, if_neg (by simp [hturn])]
    exact ⟨by omega, fun _ => rfl⟩

end Turns

/-! ## Taking a turn -/

/-- The respondent's call. -/
def respondCall (now : UInt64) (validator : Pubkey) (args : RespondChallenge) : Call where
  slot := now
  accounts := [⟨validator, true, false⟩, ⟨env.address .session, false, false⟩,
    ⟨env.address (.checkpoint args.erSlot), false, false⟩,
    ⟨env.address (.challenge args.erSlot), false, true⟩,
    ⟨env.address (.daProof args.erSlot), false, true⟩]
  instruction := .respondChallenge args

/-- The challenger's call. -/
def bisectCall (now : UInt64) (challenger : Pubkey) (e : UInt64) (disputeUpper : Bool) : Call where
  slot := now
  accounts := [⟨challenger, true, false⟩, ⟨env.address .session, false, false⟩,
    ⟨env.address (.checkpoint e), false, false⟩, ⟨env.address (.challenge e), false, true⟩]
  instruction := .bisectChallenge e disputeUpper

/-- What the respondent has to post: the end of the last step, or an authenticated root at
the midpoint. -/
def Answers (c : Checkpoint) (ch : Challenge) (args : RespondChallenge) : Prop :=
  if ch.interval.hi = ch.interval.lo + 1 then
    args.claimedStep = ch.startStep ∧ args.claimedStateRoot = ch.endStateRoot
  else
    args.claimedStep.toNat = ch.interval.mid ∧
      verifyTraceAuthenticationPath env c args.claimedStep args.claimedStateRoot
        args.tracePathLen args.tracePath = true

variable {c : Checkpoint}

section Progress

variable {env} {S : Finset Pubkey} {L' : Ledger} {i : Instruction} {ch : Challenge} {s : Session}

/-- The respondent of every dispute is the validator of the session. -/
def Seated (B : Board) : Prop :=
  ∀ e D, disputeOf B e = some D → ∃ s, B.session = some s ∧ s.validator = D.challenge.respondent

theorem Seated.of_session (h : Seated B) (hm : ∀ e, DisputeMove env now actor e B B' i)
    (hsession : ∀ s, B.session = some s →
      ∃ s', B'.session = some s' ∧ s'.validator = s.validator) : Seated B' := by
  -- the respondent of a dispute never changes, so only the session has to be followed
  have hcarry : ∀ e D, disputeOf B e = some D →
      ∃ s', B'.session = some s' ∧ s'.validator = D.challenge.respondent := by
    intro e D hD
    obtain ⟨s, hs, hvalidator⟩ := h e D hD
    obtain ⟨s', hs', hsame⟩ := hsession s hs
    exact ⟨s', hs', hsame.trans hvalidator⟩
  intro e D hD
  cases hm e with
  | stay quiet hc hsame => exact hcarry e D (hsame ▸ hD)
  | closed hclosed =>
    obtain ⟨hc, hstatus, -⟩ := disputeOf_eq_some.mp hD
    exact absurd hstatus (hclosed _ hc)
  | opened hB early hdeadline session hnew =>
    rw [hnew] at hD
    cases hD
    exact hsession _ session
  | responded he hB live turn respondent answer reveals hdeadline hnew =>
    rw [hnew] at hD
    cases hD
    obtain ⟨s', hs', hvalidator⟩ := hcarry _ _ hB
    refine ⟨s', hs', hvalidator.trans ?_⟩
    rcases respond_ok answer with ⟨-, -, -, rfl⟩ | ⟨-, -, -, rfl⟩ <;> rfl
  | bisected hB live turn challenger choice hdeadline hnew =>
    rw [hnew] at hD
    cases hD
    obtain ⟨s', hs', hvalidator⟩ := hcarry _ _ hB
    refine ⟨s', hs', hvalidator.trans ?_⟩
    obtain ⟨-, -, rounds, -, rfl⟩ := bisect_ok choice
    rfl

theorem seated_of_move (hl : env.Lawful) (hlife : Lifecycle env (boardOf env L))
    (h : Seated (boardOf env L)) (hm : Move env S now actor L L' i) : Seated (boardOf env L') := by
  have hdispute := disputeMove_of_move hm
  have hkept : (boardOf env L').session = (boardOf env L).session → Seated (boardOf env L') :=
    fun hsame => h.of_session hdispute fun s hs => ⟨s, hsame.trans hs, rfl⟩
  cases hm with
  | aside side frame => exact hkept (by rw [frame.track.board]; rfl)
  | openSession hi move =>
    refine h.of_session hdispute fun s hs => ?_
    rw [move.vacant] at hs
    cases hs
  | closeSession move =>
    -- a session with a dispute has a checkpoint in flight, and cannot be closed
    intro e D hD
    obtain ⟨hc, hstatus, -⟩ := disputeOf_eq_some.mp hD
    have hc : (boardOf env L).checkpoint e = some D.checkpoint := by
      simpa [move.track.board] using hc
    obtain ⟨k, hk, hactive⟩ := (hlife.live_iff e _ hc).mp (by rw [hstatus]; rfl)
    exact absurd (hactive.symm.trans (move.idle k hk)) (hl.address_ne_default _)
  | propose hi move | commit hi move | cancel move | openChallenge move
  | timeoutChallenger late turn move | accept resolves move =>
    exact hkept (by simp [move.track.board])
  | @finish e checksum s c k move =>
    refine h.of_session hdispute fun s₁ hs₁ => ?_
    rw [move.session] at hs₁
    cases hs₁
    exact ⟨{ s with lastSettledL1Slot := now, lastSettledErSlot := e },
      by simp [move.track.board, AccountData.asSession], rfl⟩
  | respond move | bisect move =>
    obtain ⟨deadline, -, htrack⟩ := move.record
    exact hkept (by simp [htrack.board])
  | timeoutRespondent late turn move | reject resolves move =>
    obtain ⟨d, htrack⟩ := move.track
    exact hkept (by simp [htrack.board])
  | prove hi track gains => exact hkept (by simp [track.board])

theorem exists_nextTurnDeadline (hard : UInt64)
    (h : now.toNat + challengeTurnWindowSlots.toNat < 2 ^ 64) :
    ∃ deadline, nextTurnDeadline now hard = .ok deadline := by
  have hsum : checkedAdd now challengeTurnWindowSlots = some (now + challengeTurnWindowSlots) := by
    rw [checkedAdd_eq_some, UInt64.toNat_add, Nat.mod_eq_of_lt h]
  refine ⟨min (now + challengeTurnWindowSlots) hard, ?_⟩
  rw [nextTurnDeadline, hsum]
  rfl

/-- Few enough rounds to count. -/
theorem Dispute.Proper.rounds_lt (h : D.Proper)
    (hsized : D.checkpoint.stepCount ≤ canonicalCheckpointSteps) :
    D.challenge.rounds.toNat + 1 < 2 ^ 32 := by
  have hsteps : D.checkpoint.stepCount.toNat ≤ 16 := UInt64.le_iff_toNat_le.mp hsized
  have hlog : Nat.clog 2 D.checkpoint.stepCount.toNat ≤ 4 := by
    rw [Nat.clog_le_iff_le_pow (by omega)]
    omega
  have hrounds := h.rounds
  omega

theorem Dispute.Proper.exists_bisect (h : D.Proper)
    (hsized : D.checkpoint.stepCount ≤ canonicalCheckpointSteps)
    (hturn : D.challenge.turn = .challenger) (disputeUpper : Bool) :
    ∃ ch, D.challenge.bisect disputeUpper = .ok ch := by
  obtain ⟨hwide, hmid⟩ := h.midpoint hturn
  have hstart : D.challenge.startStep < D.challenge.midpointStep := by
    rw [UInt64.lt_iff_toNat_lt, hmid]
    exact Interval.lo_lt_mid hwide
  have hend : D.challenge.midpointStep < D.challenge.endStep := by
    rw [UInt64.lt_iff_toNat_lt, hmid]
    exact Interval.mid_lt_hi h.range.1
  have hrounds : ∀ ch : Challenge, ch.rounds = D.challenge.rounds →
      checkedSucc32 ch.rounds = some (ch.rounds + 1) := by
    intro ch hch
    rw [hch, checkedSucc32, if_pos (h.rounds_lt hsized)]
  simp only [bisect, chain_ok, not_or, UInt64.not_le]
  cases disputeUpper
  · exact ⟨_, ⟨hstart, hend⟩, _, hrounds _ rfl, rfl⟩
  · exact ⟨_, ⟨hstart, hend⟩, _, hrounds _ rfl, rfl⟩

theorem Dispute.Proper.exists_respond (h : D.Proper)
    (hanswers : Answers env D.checkpoint D.challenge args) :
    ∃ ch, D.challenge.respond env D.checkpoint args = .ok ch := by
  have hlt : D.challenge.startStep.toNat < D.challenge.endStep.toNat := h.range.1
  obtain ⟨width, hwidth⟩ : ∃ width, checkedSub D.challenge.endStep D.challenge.startStep =
      some width := by
    refine ⟨D.challenge.endStep - D.challenge.startStep, checkedSub_eq_some.mpr ?_⟩
    rw [UInt64.toNat_sub_of_le _ _ (UInt64.le_iff_toNat_le.mpr hlt.le)]
    omega
  have hnat := checkedSub_eq_some.mp hwidth
  have hzero : width ≠ 0 := by
    rintro rfl
    simp at hnat
    omega
  unfold Answers at hanswers
  unfold respond
  simp only [hwidth, okOr_some, chain_ok, Except.ok.injEq, exists_eq_left']
  split at hanswers
  · -- one step is left
    rename_i hone
    have hwidth_one : width = 1 := by
      have hinterval : D.challenge.endStep.toNat = D.challenge.startStep.toNat + 1 := hone
      rw [← UInt64.toNat_inj, UInt64.toNat_one]
      omega
    refine ⟨{ D.challenge with turn := .prove }, hzero, ?_⟩
    rw [if_pos hwidth_one]
    simp [hanswers]
  · rename_i hone
    have hwidth_ne : width ≠ 1 := by
      rintro rfl
      exact hone hnat.symm
    have hmid : checkedAdd D.challenge.startStep (width / 2) = some args.claimedStep := by
      rw [checkedAdd_eq_some, hanswers.1, UInt64.toNat_div]
      show D.challenge.startStep.toNat +
        (D.challenge.endStep.toNat - D.challenge.startStep.toNat) / 2 = _
      rw [← hnat, Nat.add_sub_cancel_left]
      rfl
    refine ⟨{ D.challenge with
      midpointStep := args.claimedStep
      midpointStateRoot := args.claimedStateRoot
      turn := .challenger }, hzero, ?_⟩
    rw [if_neg hwidth_ne, hmid]
    simp [hanswers.2]

/-- **The challenger can take their turn**, with either choice. -/
theorem bisectCall_accepted (hD : disputeOf (boardOf env L) e = some D) (h : D.Proper)
    (hsized : D.checkpoint.stepCount ≤ canonicalCheckpointSteps)
    (hsession : sessionOf env L = some s) (hturn : D.challenge.turn = .challenger)
    (hlive : D.challenge.Live now) (hclock : now.toNat + challengeTurnWindowSlots.toNat < 2 ^ 64)
    (disputeUpper : Bool) :
    ∃ L', (bisectCall env now D.challenge.challenger e disputeUpper).result env L = .ok L' := by
  obtain ⟨hc, hstatus, hch, -⟩ := disputeOf_eq_some.mp hD
  rw [boardOf_checkpoint, checkpointOf, toOption_eq_some] at hc
  rw [boardOf_challenge, challengeOf, toOption_eq_some] at hch
  rw [sessionOf, toOption_eq_some] at hsession
  obtain ⟨ch, hchoice⟩ := h.exists_bisect hsized hturn disputeUpper
  obtain ⟨deadline, hdeadline⟩ := exists_nextTurnDeadline ch.hardDeadlineL1Slot hclock
  refine ⟨L.setData (env.address (.challenge e))
    (.challenge { ch with turnDeadlineL1Slot := deadline }), ?_⟩
  show bisectChallenge env now _ _ _ _ e disputeUpper L = _
  simp [bisectChallenge, requireLiveTurn, hsession, hc, hstatus, hch, h.isActive, hturn, hchoice,
    hdeadline, hlive.1, hlive.2]

/-- **The respondent can take their turn**, with an answer and the data behind it. -/
theorem respondCall_accepted (hD : disputeOf (boardOf env L) args.erSlot = some D) (h : D.Proper)
    (hseated : Seated (boardOf env L)) (hsession : sessionOf env L = some s)
    (hturn : D.challenge.turn = .respondent) (hlive : D.challenge.Live now)
    (hclock : now.toNat + challengeTurnWindowSlots.toNat < 2 ^ 64)
    (hanswers : Answers env D.checkpoint D.challenge args)
    (hreveals : D.daProof.reveal args now = .ok d) :
    ∃ L', (respondCall env now D.challenge.respondent args).result env L = .ok L' := by
  obtain ⟨s', hs', hvalidator⟩ := hseated _ _ hD
  obtain ⟨hc, hstatus, hch, hd⟩ := disputeOf_eq_some.mp hD
  rw [boardOf_checkpoint, checkpointOf, toOption_eq_some] at hc
  rw [boardOf_challenge, challengeOf, toOption_eq_some] at hch
  rw [boardOf_daProof, daProofOf, toOption_eq_some] at hd
  rw [sessionOf, toOption_eq_some] at hsession
  have hvalidator : D.challenge.respondent = s.validator := by
    have hpolicy := (game_loadSession hsession).2
    rw [hs'] at hpolicy
    cases hpolicy
    exact hvalidator.symm
  obtain ⟨ch, hanswer⟩ := h.exists_respond hanswers
  obtain ⟨deadline, hdeadline⟩ := exists_nextTurnDeadline ch.hardDeadlineL1Slot hclock
  refine ⟨(L.setData (env.address (.daProof args.erSlot)) (.daProof d)).setData
    (env.address (.challenge args.erSlot))
    (.challenge { ch with turnDeadlineL1Slot := deadline }), ?_⟩
  show respondChallenge env now _ _ _ _ _ args L = _
  simp [respondChallenge, requireLiveTurn, hsession, hvalidator.symm, hc, hstatus, hch, h.isActive,
    hturn, hd, hreveals, hanswer, hdeadline, hlive.1, hlive.2]

end Progress

/-! ## Bisection along histories -/

section Histories

variable {env}

theorem Genesis.disputeOf_eq_none (h : Genesis env L₀) (e : UInt64) :
    disputeOf (boardOf env L₀) e = none := by
  rw [disputeOf, Board.checkpoint, h.board_eq_none]
  rfl

theorem History.seated (hl : env.Lawful) (h : History env L₀ events) :
    Seated (boardOf env (ledgerAfter env L₀ events)) := by
  refine (History.induction hl
    (P := fun L => Lifecycle env (boardOf env L) ∧ Seated (boardOf env L)) ?_ ?_ h).2
  · intro hg
    refine ⟨hg.lifecycle, fun e D hD => ?_⟩
    rw [hg.disputeOf_eq_none] at hD
    cases hD
  · intro L event hs ha hL
    refine ⟨lifecycle_of_event hl hs ha hL.1, ?_⟩
    rcases step_of_event hl hs ha with ⟨cl, -, -, hmove⟩ | ⟨hframe, -⟩
    · exact seated_of_move hl hL.1 hL.2 hmove
    · rw [hframe.track.board]
      exact hL.2

theorem History.counted (hl : env.Lawful) (h : History env L₀ events) (e : UInt64) :
    Counted (boardOf env (ledgerAfter env L₀ events)) e (turnsTaken env L₀ events e) := by
  refine History.ghost_induction hl (P := fun L turns => Counted (boardOf env L) e turns) ?_ ?_ h
  · intro hg D hD
    rw [hg.disputeOf_eq_none] at hD
    cases hD
  · intro L turns event hs ha hL
    exact counted_of_event hl hs ha hL

theorem History.vouched (hl : env.Lawful) (h : History env L₀ events) (e : UInt64) :
    Vouched env (boardOf env (ledgerAfter env L₀ events)) e := by
  refine (History.induction hl
    (P := fun L => Standing (boardOf env L) ∧ Vouched env (boardOf env L) e) ?_ ?_ h).2
  · intro hg
    refine ⟨hg.standing, fun D hD => ?_⟩
    rw [hg.disputeOf_eq_none] at hD
    cases hD
  · intro L event hs ha hL
    exact ⟨standing_of_event hl hs ha hL.1, vouched_of_event hl hs hL.1 ha hL.2⟩

theorem History.misled (hl : env.Lawful) (h : History env L₀ events)
    (hfollows : Runs.Along (exec env) (ChallengerFollows env states e) L₀ events) :
    Misled states (boardOf env (ledgerAfter env L₀ events)) e := by
  refine (History.induction_along hl
    (P := fun L => Standing (boardOf env L) ∧ Misled states (boardOf env L) e) ?_ ?_ h hfollows).2
  · intro hg
    refine ⟨hg.standing, fun D hD => ?_⟩
    rw [hg.disputeOf_eq_none] at hD
    cases hD
  · intro L event hs ha hf hL
    exact ⟨standing_of_event hl hs ha hL.1, misled_of_event hl hs hL.1 ha hf hL.2⟩

/-- **Bisection finds a wrong step.** In every history in which the challenger follows the
true states, the dispute about a checkpoint that starts from the true root and ends in a
wrong one keeps a proper interval from a true root to a wrong one, whose inner roots are
authenticated at their own index; it has taken at most `⌈log₂ n⌉` rounds, and
`2 * ⌈log₂ n⌉ + 1` turns lead to the proof of a single step; until then, whoever has the
turn can take it. -/
theorem bisection_soundness (hl : env.Lawful) (h : History env L₀ events)
    (hfollows : Runs.Along (exec env) (ChallengerFollows env states e) L₀ events)
    (hc : checkpointOf env (ledgerAfter env L₀ events) e = some c)
    (hstatus : c.status = .challenged)
    (hstart : c.previousStateRoot = states 0) (hend : c.newStateRoot ≠ states c.stepCount.toNat) :
    ∃ ch d, challengeOf env (ledgerAfter env L₀ events) e = some ch ∧
      daProofOf env (ledgerAfter env L₀ events) e = some d ∧ ch.status = .active ∧
      c.stepCount.toNat ≤ 16 ∧
      ch.startStep < ch.endStep ∧ ch.endStep ≤ c.stepCount ∧
      ch.startStateRoot = states ch.startStep.toNat ∧
      ch.endStateRoot ≠ states ch.endStep.toNat ∧
      (ch.startStep ≠ 0 → Authenticated env c ch.startStep.toNat ch.startStateRoot) ∧
      (ch.endStep ≠ c.stepCount → Authenticated env c ch.endStep.toNat ch.endStateRoot) ∧
      (ch.turn = .challenger → ch.startStep < ch.midpointStep ∧ ch.midpointStep < ch.endStep ∧
        Authenticated env c ch.midpointStep.toNat ch.midpointStateRoot) ∧
      (ch.turn = .prove → ch.endStep.toNat = ch.startStep.toNat + 1) ∧
      ch.rounds.toNat ≤ Nat.clog 2 c.stepCount.toNat ∧
      turnsTaken env L₀ events e = ch.turns ∧
      turnsTaken env L₀ events e ≤ 2 * Nat.clog 2 c.stepCount.toNat + 1 ∧
      (turnsTaken env L₀ events e = 2 * Nat.clog 2 c.stepCount.toNat + 1 → ch.turn = .prove) ∧
      (∀ now s, sessionOf env (ledgerAfter env L₀ events) = some s → ch.Live now →
        now.toNat + challengeTurnWindowSlots.toNat < 2 ^ 64 →
        (ch.turn = .challenger → ∀ disputeUpper, ∃ L',
          (bisectCall env now ch.challenger e disputeUpper).result env
            (ledgerAfter env L₀ events) = .ok L') ∧
        (ch.turn = .respondent → ∀ args d', args.erSlot = e → Answers env c ch args →
          d.reveal args now = .ok d' → ∃ L',
          (respondCall env now ch.respondent args).result env
            (ledgerAfter env L₀ events) = .ok L')) := by
  have hstanding := h.standing hl
  have hseated := h.seated hl
  have hcounted := h.counted hl e
  have hvouched := h.vouched hl e
  have hmisled := h.misled hl hfollows
  generalize ledgerAfter env L₀ events = L at *
  rw [← boardOf_checkpoint] at hc
  obtain ⟨D, hD⟩ := hstanding.present e c hc hstatus
  obtain ⟨hc', -, hch, hd⟩ := disputeOf_eq_some.mp hD
  obtain rfl : D.checkpoint = c := Option.some.inj (hc'.symm.trans hc)
  have hproper := hstanding.proper e D hD
  have hsized := hstanding.sized e _ hc
  obtain ⟨hroots, hmid⟩ := hvouched D hD
  obtain ⟨htrue, -⟩ := hmisled D hD
  have hturns := hcounted D hD
  rw [boardOf_challenge] at hch
  rw [boardOf_daProof] at hd
  refine ⟨D.challenge, D.daProof, hch, hd, hproper.isActive, UInt64.le_iff_toNat_le.mp hsized.2,
    UInt64.lt_iff_toNat_lt.mpr hproper.range.1, UInt64.le_iff_toNat_le.mpr hproper.range.2,
    htrue.lo hstart hend, htrue.hi hstart hend, ?_, ?_, ?_, hproper.isolated, ?_, hturns, ?_, ?_,
    ?_⟩
  · intro hne
    refine hroots.lo.resolve_left fun hzero => hne ?_
    exact UInt64.toNat_inj.mp hzero.1
  · intro hne
    refine hroots.hi.resolve_left fun hlast => hne ?_
    exact UInt64.toNat_inj.mp hlast.1
  · intro hturn
    obtain ⟨hwide, hsplit⟩ := hproper.midpoint hturn
    refine ⟨?_, ?_, hmid hturn⟩
    · rw [UInt64.lt_iff_toNat_lt, hsplit]
      exact Interval.lo_lt_mid hwide
    · rw [UInt64.lt_iff_toNat_lt, hsplit]
      exact Interval.mid_lt_hi hproper.range.1
  · have hrounds := hproper.rounds
    omega
  · rw [hturns]
    exact hproper.turns_le.1
  · rw [hturns]
    exact hproper.turns_le.2
  · intro now s hs hlive hclock
    refine ⟨fun hturn disputeUpper => ?_, ?_⟩
    · exact bisectCall_accepted hD hproper hsized.2 hs hturn hlive hclock disputeUpper
    · rintro hturn args d' rfl hanswers hreveals
      exact respondCall_accepted hD hproper hseated hs hturn hlive hclock hanswers hreveals

end Histories

/-! ## A bisection on the local deployment -/

/-- A proposal of two steps from root 0 that claims root 9, with root 1 in its trace. -/
def localWrongProposal : ProposeCheckpoint :=
  { localProposal with
    stepCount := 2
    newStateRoot := localRoot 9
    traceRoot := rootHash localnet (ascii "trace") 3
      (MerklePath.climb (nodeHash localnet (ascii "trace")) 0 1
        (traceLeaf localnet 1 (localRoot 1)) [zero32, zero32]) }

/-- The validator's answer, with a path of `len` zeros. -/
def localAnswer (step : UInt64) (root : Hash32) (len : UInt8) : RespondChallenge :=
  { erSlot := 7
    claimedStep := step
    claimedStateRoot := root
    tracePathLen := len
    tracePath := Vector.replicate 5 zero32
    daPayloadRoot := zero32
    daInclusionProofHash := localRoot 1 }

/-- The true states count the steps. -/
def localStates (i : ℕ) : Hash32 := localRoot (UInt8.ofNat i)

/-- The proposal is challenged, and one round isolates its second step. -/
def localBisected : List Call :=
  [localOpening, localProposing localWrongProposal, localChallenging,
    respondCall localnet 40 (tagged 21 []) (localAnswer 1 (localRoot 1) 2),
    bisectCall localnet 50 (tagged 22 []) 7 true,
    respondCall localnet 60 (tagged 21 []) (localAnswer 1 (localRoot 9) 0)]

/-- The bisection of two steps reaches the proof after three turns. -/
theorem bisection_soundness_two_steps :
    turnsTaken localnet localLedger (localBisected.map .call) 7 = 3 ∧
      ∃ ch, challengeOf localnet (ledgerAfter localnet localLedger (localBisected.map .call)) 7 =
          some ch ∧
        ch.turn = .prove ∧ ch.startStep < ch.endStep ∧
        ch.startStateRoot = localStates ch.startStep.toNat ∧
        ch.endStateRoot ≠ localStates ch.endStep.toNat := by
  have hrecord : (checkpointOf localnet
      (ledgerAfter localnet localLedger (localBisected.map .call)) 7).map
        (fun c => (c.status, c.previousStateRoot, c.newStateRoot, c.stepCount)) =
      some (.challenged, localRoot 0, localRoot 9, 2) := by decide +kernel
  have hturns : turnsTaken localnet localLedger (localBisected.map .call) 7 = 3 := by
    decide +kernel
  obtain ⟨c, hc, hfields⟩ := Option.map_eq_some_iff.mp hrecord
  simp only [Prod.mk.injEq] at hfields
  obtain ⟨hstatus, hprevious, hnew, hsteps⟩ := hfields
  have hwrong : c.newStateRoot ≠ localStates c.stepCount.toNat := by
    rw [hnew, hsteps]
    decide
  obtain ⟨ch, d, hch, -, -, -, hlt, -, hstart, hend, -, -, -, -, -, -, -, hprove, -⟩ :=
    bisection_soundness localnet_lawful (localnet_history (by decide +kernel))
      (by decide +kernel) hc hstatus hprevious hwrong
  have hlog : Nat.clog 2 c.stepCount.toNat = 1 := by
    rw [hsteps]
    decide
  exact ⟨hturns, ch, hch, hprove (by rw [hturns, hlog]), hlt, hstart, hend⟩

end Northstar.Portal
