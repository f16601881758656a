import Northstar.Lib.Bisection
import Northstar.Game.Lifecycle

/-!
# Disputes

A dispute is a challenged checkpoint with its challenge and its data-availability record.
This file says once what a move can do to a dispute, and from it what every dispute of a
history has: a proper interval whose ends are vouched for, and a bounded number of rounds.

## Main definitions

* `ClaimMove`: what a move does to the record of a proposal
* `Dispute`, `disputeOf`: the dispute about a slot
* `DisputeMove`: what a move does to a dispute
* `Dispute.Meets`: what the roots claimed in a dispute satisfy
* `Dispute.Proper`: the invariant of disputes

## Main results

* `disputeMove_of_move`: every move does one of the few things to a dispute
* `Dispute.Meets.of_disputeMove`: the rule for what the claimed roots satisfy
* `History.standing`: in every history, a challenged checkpoint has a proper dispute
-/

namespace Northstar.Portal

open Bytes Checked Bisection

/-! ## The record of a proposal -/

/-- The two records differ only in how far the proposal got. -/
def Checkpoint.SameClaim (c c' : Checkpoint) : Prop :=
  c' = { c with
    status := c'.status
    bondStatus := c'.bondStatus
    challenger := c'.challenger
    challengedAtL1Slot := c'.challengedAtL1Slot
    challengeResolved := c'.challengeResolved }

/-- **What a move does to a checkpoint**: nothing, a new proposal, or progress of the old. -/
inductive ClaimMove (env : Env) (now : UInt64) (actor : Pubkey) (i : Instruction) (e : UInt64) :
    Option Checkpoint → Option Checkpoint → Prop
  | stay (o : Option Checkpoint) : ClaimMove env now actor i e o o
  | propose {o : Option Checkpoint} {args : ProposeCheckpoint} {deadline : UInt64} {bump : UInt8}
      (hi : i.proposal = some args) (he : args.erSlot = e)
      (hdeadline : deadline.toNat = now.toNat + args.challengeWindowSlots.toNat)
      (hsteps : 0 < args.stepCount ∧ args.stepCount ≤ canonicalCheckpointSteps) :
      ClaimMove env now actor i e o
        (some (args.record (env.address .session) actor now deadline bump))
  | update {c c' : Checkpoint} (same : c.SameClaim c') :
      ClaimMove env now actor i e (some c) (some c')

variable {env : Env} {S : Finset Pubkey} {now e : UInt64} {actor : Pubkey} {i : Instruction}
  {c : Checkpoint}

theorem Checkpoint.SameClaim.stepCount_eq (h : c.SameClaim c') : c'.stepCount = c.stepCount := by
  rw [h]

theorem claimMove_of_update (hc : (boardOf env L).checkpoint e = some c)
    (hcheckpoint : ∀ e', (boardOf env L').checkpoint e' =
      if e' = e then some c' else (boardOf env L).checkpoint e')
    (hsame : c.SameClaim c') (e' : UInt64) :
    ClaimMove env now actor i e' ((boardOf env L).checkpoint e')
      ((boardOf env L').checkpoint e') := by
  rw [hcheckpoint]
  split
  · rename_i heq
    subst heq
    rw [hc]
    exact .update hsame
  · exact .stay _

theorem claimMove_of_eq (h : (boardOf env L').checkpoint e = (boardOf env L).checkpoint e) :
    ClaimMove env now actor i e ((boardOf env L).checkpoint e) ((boardOf env L').checkpoint e) := by
  rw [h]
  exact .stay _

theorem claimMove_of_move (hm : Move env S now actor L L' i) (e : UInt64) :
    ClaimMove env now actor i e ((boardOf env L).checkpoint e) ((boardOf env L').checkpoint e) := by
  cases hm with
  | aside side frame => exact claimMove_of_eq (by rw [frame.track.board]; rfl)
  | openSession hi move | closeSession move =>
    exact claimMove_of_eq (by rw [move.track.board]; simp)
  | propose hi move =>
    obtain ⟨deadline, bump, hdeadline, rfl⟩ := move.record
    rw [move.checkpoint_after]
    split
    · rename_i heq
      exact .propose hi heq.symm hdeadline move.steps
    · exact .stay _
  | commit hi move | cancel move | finish move | openChallenge move
  | timeoutRespondent late turn move | reject resolves move
  | timeoutChallenger late turn move | accept resolves move =>
    exact claimMove_of_update move.checkpoint move.checkpoint_after rfl e
  | respond move | bisect move =>
    obtain ⟨deadline, -, htrack⟩ := move.record
    exact claimMove_of_eq (by rw [htrack.board]; simp)
  | prove hi track gains => exact claimMove_of_eq (by rw [track.board]; simp)

/-- Every checkpoint has between one and sixteen steps. -/
def Sized (B : Board) : Prop :=
  ∀ e c, B.checkpoint e = some c → 0 < c.stepCount ∧ c.stepCount ≤ canonicalCheckpointSteps

theorem sized_of_move (h : Sized (boardOf env L)) (hm : Move env S now actor L L' i) :
    Sized (boardOf env L') := by
  intro e c' hc'
  have hclaim := claimMove_of_move hm e
  rw [hc'] at hclaim
  generalize hc : (boardOf env L).checkpoint e = o at hclaim
  cases hclaim with
  | stay => exact h e c' hc
  | propose hi he hdeadline hsteps => exact hsteps
  | update same =>
    rw [same.stepCount_eq]
    exact h e _ hc

/-! ## Disputes -/

/-- **Dispute**: a challenged checkpoint with what belongs to its challenge. -/
structure Dispute where
  checkpoint : Checkpoint
  challenge : Challenge
  daProof : DataAvailabilityProof

/-- The dispute about slot `e`, if there is one. -/
def disputeOf (B : Board) (e : UInt64) : Option Dispute :=
  (B.checkpoint e).bind fun c =>
    if c.status = .challenged then
      (B.challenge e).bind fun ch => (B.daProof e).map fun d => ⟨c, ch, d⟩
    else none

/-- The slot whose dispute an instruction opens or plays on, if any. -/
def Instruction.disputed : Instruction → Option UInt64
  | .openChallenge e | .bisectChallenge e _ => some e
  | .respondChallenge args => some args.erSlot
  | _ => none

/-- **What a move does to the dispute about `e`.** -/
inductive DisputeMove (env : Env) (now : UInt64) (actor : Pubkey) (e : UInt64) (B B' : Board) :
    Instruction → Prop
  | stay {i : Instruction} (quiet : i.disputed ≠ some e ∨ disputeOf B e = none)
      (hc : B'.checkpoint e = B.checkpoint e)
      (hD : disputeOf B' e = disputeOf B e) : DisputeMove env now actor e B B' i
  | closed {i : Instruction} (hc : ∀ c, B'.checkpoint e = some c → c.status ≠ .challenged) :
      DisputeMove env now actor e B B' i
  | opened {c : Checkpoint} {s : Session} {deadline : UInt64} {bump bump' : UInt8}
      (hB : B.checkpoint e = some c) (early : now < c.challengeDeadlineL1Slot)
      (hdeadline : nextTurnDeadline now c.challengeDeadlineL1Slot = .ok deadline)
      (session : B.session = some s)
      (hD : disputeOf B' e = some
        { checkpoint := { c with
            status := .challenged
            challenger := actor
            challengedAtL1Slot := now }
          challenge := .opened (env.address (.checkpoint e)) actor c s now deadline bump
          daProof := .awaited (env.address (.challenge e)) (env.address (.checkpoint e))
            c.daCommitment bump' }) :
      DisputeMove env now actor e B B' (.openChallenge e)
  | responded {args : RespondChallenge} {D : Dispute} {ch : Challenge} {d : DataAvailabilityProof}
      {deadline : UInt64} (he : args.erSlot = e) (hB : disputeOf B e = some D)
      (live : D.challenge.Live now) (turn : D.challenge.turn = .respondent)
      (respondent : actor = D.challenge.respondent)
      (answer : D.challenge.respond env D.checkpoint args = .ok ch)
      (reveals : D.daProof.reveal args now = .ok d)
      (hdeadline : nextTurnDeadline now ch.hardDeadlineL1Slot = .ok deadline)
      (hD : disputeOf B' e = some ⟨D.checkpoint, { ch with turnDeadlineL1Slot := deadline }, d⟩) :
      DisputeMove env now actor e B B' (.respondChallenge args)
  | bisected {disputeUpper : Bool} {D : Dispute} {ch : Challenge} {deadline : UInt64}
      (hB : disputeOf B e = some D) (live : D.challenge.Live now)
      (turn : D.challenge.turn = .challenger) (challenger : actor = D.challenge.challenger)
      (choice : D.challenge.bisect disputeUpper = .ok ch)
      (hdeadline : nextTurnDeadline now ch.hardDeadlineL1Slot = .ok deadline)
      (hD : disputeOf B' e = some
        ⟨D.checkpoint, { ch with turnDeadlineL1Slot := deadline }, D.daProof⟩) :
      DisputeMove env now actor e B B' (.bisectChallenge e disputeUpper)

variable {B B' : Board} {ch ch' : Challenge} {D : Dispute}

section Moves

variable {d : DataAvailabilityProof}

theorem disputeOf_eq_some : disputeOf B e = some D ↔
    B.checkpoint e = some D.checkpoint ∧ D.checkpoint.status = .challenged ∧
      B.challenge e = some D.challenge ∧ B.daProof e = some D.daProof := by
  rw [disputeOf, Option.bind_eq_some_iff]
  constructor
  · rintro ⟨c, hc, hD⟩
    split at hD
    · rename_i hstatus
      obtain ⟨ch, hch, hD⟩ := Option.bind_eq_some_iff.mp hD
      obtain ⟨d, hd, rfl⟩ := Option.map_eq_some_iff.mp hD
      exact ⟨hc, hstatus, hch, hd⟩
    · cases hD
  · rintro ⟨hc, hstatus, hch, hd⟩
    exact ⟨_, hc, by rw [if_pos hstatus, hch, hd]; rfl⟩

theorem disputeOf_congr (hc : B'.checkpoint e = B.checkpoint e)
    (hch : B'.challenge e = B.challenge e) (hd : B'.daProof e = B.daProof e) :
    disputeOf B' e = disputeOf B e := by
  rw [disputeOf, disputeOf, hc, hch, hd]

/-- A move that leaves the three records of the dispute alone. -/
theorem DisputeMove.of_eq (quiet : i.disputed ≠ some e) (hc : B'.checkpoint e = B.checkpoint e)
    (hch : B'.challenge e = B.challenge e) (hd : B'.daProof e = B.daProof e) :
    DisputeMove env now actor e B B' i :=
  .stay (.inl quiet) hc (disputeOf_congr hc hch hd)

/-- A move after which the checkpoint is not challenged. -/
theorem DisputeMove.of_after (hc : B'.checkpoint e = some c) (hstatus : c.status ≠ .challenged) :
    DisputeMove env now actor e B B' i := by
  refine .closed fun c' hc' => ?_
  rw [hc] at hc'
  cases hc'
  exact hstatus

theorem OpensChallenge.disputeMove (hm : OpensChallenge env S now actor L L' e' s c ch d)
    (e : UInt64) :
    DisputeMove env now actor e (boardOf env L) (boardOf env L') (.openChallenge e') := by
  by_cases he : e = e'
  · subst he
    obtain ⟨deadline, bump, hdeadline, rfl⟩ := hm.record
    obtain ⟨bump', rfl⟩ := hm.awaited
    have hD : disputeOf (boardOf env L') e = some
        { checkpoint := { c with
            status := .challenged
            challenger := actor
            challengedAtL1Slot := now }
          challenge := .opened (env.address (.checkpoint e)) actor c s now deadline bump
          daProof := .awaited (env.address (.challenge e)) (env.address (.checkpoint e))
            c.daCommitment bump' } := by
      rw [disputeOf_eq_some, hm.track.board]
      simp [AccountData.asCheckpoint, AccountData.asChallenge, AccountData.asDaProof]
    exact .opened hm.checkpoint hm.early hdeadline hm.session hD
  · have hquiet : (Instruction.openChallenge e').disputed ≠ some e :=
      fun heq => he (Option.some.inj heq).symm
    refine .of_eq hquiet ?_ ?_ ?_ <;> simp [hm.track.board, he]

theorem Responds.disputeMove (hm : Responds env S now actor L L' args c ch ch' d d') (e : UInt64) :
    DisputeMove env now actor e (boardOf env L) (boardOf env L') (.respondChallenge args) := by
  obtain ⟨deadline, hdeadline, htrack⟩ := hm.record
  by_cases he : e = args.erSlot
  · subst he
    have hB : disputeOf (boardOf env L) args.erSlot = some ⟨c, ch, d⟩ :=
      disputeOf_eq_some.mpr ⟨hm.checkpoint, hm.challenged, hm.challenge, hm.daProof⟩
    refine .responded rfl hB hm.live hm.turn hm.respondent hm.answer hm.reveals hdeadline
      (disputeOf_eq_some.mpr ⟨?_, hm.challenged, ?_, ?_⟩) <;>
      simp [htrack.board, AccountData.asChallenge, AccountData.asDaProof, hm.checkpoint]
  · have hquiet : (Instruction.respondChallenge args).disputed ≠ some e :=
      fun heq => he (Option.some.inj heq).symm
    refine .of_eq hquiet ?_ ?_ ?_ <;> simp [htrack.board, he]

theorem Bisects.disputeMove (hm : Bisects env S now actor L L' e' disputeUpper c ch ch')
    (e : UInt64) :
    DisputeMove env now actor e (boardOf env L) (boardOf env L')
      (.bisectChallenge e' disputeUpper) := by
  obtain ⟨deadline, hdeadline, htrack⟩ := hm.record
  by_cases he : e = e'
  · subst he
    have hc : (boardOf env L').checkpoint e = (boardOf env L).checkpoint e := by
      simp [htrack.board]
    have hch : (boardOf env L').challenge e = some { ch' with turnDeadlineL1Slot := deadline } := by
      simp [htrack.board, AccountData.asChallenge]
    have hd : (boardOf env L').daProof e = (boardOf env L).daProof e := by
      simp [htrack.board]
    cases hda : (boardOf env L).daProof e with
    | none =>
      -- without its data-availability record there is no dispute, before or after
      have hnone : disputeOf (boardOf env L) e = none := by
        simp [disputeOf, hm.checkpoint, hm.challenge, hda]
      refine .stay (.inr hnone) hc ?_
      simp [disputeOf, hd, hda]
    | some d =>
      have hB : disputeOf (boardOf env L) e = some ⟨c, ch, d⟩ :=
        disputeOf_eq_some.mpr ⟨hm.checkpoint, hm.challenged, hm.challenge, hda⟩
      exact .bisected hB hm.live hm.turn hm.challenger hm.choice hdeadline
        (disputeOf_eq_some.mpr ⟨hc.trans hm.checkpoint, hm.challenged, hch, hd.trans hda⟩)
  · have hquiet : (Instruction.bisectChallenge e' disputeUpper).disputed ≠ some e :=
      fun heq => he (Option.some.inj heq).symm
    refine .of_eq hquiet ?_ ?_ ?_ <;> simp [htrack.board, he]

/-- A win closes the dispute about its slot and leaves the others alone. -/
theorem DisputeMove.of_win (quiet : i.disputed = none)
    (hc : (boardOf env L').checkpoint e' = some c)
    (hstatus : c.status ≠ .challenged)
    (hother : e ≠ e' → (boardOf env L').checkpoint e = (boardOf env L).checkpoint e ∧
      (boardOf env L').challenge e = (boardOf env L).challenge e ∧
      (boardOf env L').daProof e = (boardOf env L).daProof e) :
    DisputeMove env now actor e (boardOf env L) (boardOf env L') i := by
  by_cases he : e = e'
  · subst he
    exact .of_after hc hstatus
  · obtain ⟨hc', hch', hd'⟩ := hother he
    exact .of_eq (by simp [quiet]) hc' hch' hd'

/-- **What moves do to disputes.** -/
theorem disputeMove_of_move (hm : Move env S now actor L L' i) (e : UInt64) :
    DisputeMove env now actor e (boardOf env L) (boardOf env L') i := by
  cases hm with
  | aside side frame =>
    have hquiet : i.disputed = none := by cases i <;> first | rfl | cases side
    rw [frame.track.board]
    exact .of_eq (by simp [hquiet]) rfl rfl rfl
  | openSession hi move =>
    have hquiet : i.disputed = none := by cases i <;> first | rfl | cases hi
    rw [move.track.board]
    refine .of_eq ?_ ?_ ?_ ?_ <;> simp [hquiet]
  | closeSession move =>
    rw [move.track.board]
    refine .of_eq ?_ ?_ ?_ ?_ <;> simp [Instruction.disputed]
  | propose hi move =>
    have hquiet : i.disputed = none := by cases i <;> first | rfl | cases hi
    obtain ⟨deadline, bump, -, rfl⟩ := move.record
    refine .of_win hquiet (by rw [move.checkpoint_after, if_pos rfl]) ?_ fun he => ?_
    · simp [ProposeCheckpoint.record]
    · simp [move.track.board, he]
  | commit hi move =>
    have hquiet : i.disputed = none := by cases i <;> first | rfl | cases hi
    exact .of_win hquiet (by rw [move.checkpoint_after, if_pos rfl]) (by simp)
      fun he => by simp [move.track.board, he]
  | cancel move | finish move | timeoutChallenger late turn move | accept resolves move =>
    exact .of_win rfl (by rw [move.checkpoint_after, if_pos rfl]) (by simp)
      fun he => by simp [move.track.board, he]
  | openChallenge move | respond move | bisect move => exact move.disputeMove e
  | timeoutRespondent late turn move | reject resolves move =>
    obtain ⟨d, htrack⟩ := move.track
    exact .of_win rfl (by rw [move.checkpoint_after, if_pos rfl]) (by simp)
      fun he => by simp [htrack.board, he]
  | prove hi track gains =>
    have hquiet : i.disputed = none := by cases i <;> first | rfl | cases hi
    rw [track.board]
    refine .of_eq ?_ ?_ ?_ ?_ <;> simp [hquiet]

end Moves

/-! ## The interval in dispute -/

/-- The steps in dispute, with the roots claimed at their ends. -/
def Challenge.interval (ch : Challenge) : Bisection.Interval Hash32 :=
  ⟨ch.startStep.toNat, ch.endStep.toNat, ch.startStateRoot, ch.endStateRoot⟩

/-- What the roots claimed in a dispute satisfy: `P` at the start of the interval, `Q` at
its end, and `M` at the midpoint the challenger has to choose a half by. -/
structure Dispute.Meets (P Q M : ℕ → Hash32 → Prop) (D : Dispute) : Prop where
  interval : D.challenge.interval.Meets P Q D.checkpoint.stepCount.toNat
  midpoint : D.challenge.turn = .challenger →
    M D.challenge.midpointStep.toNat D.challenge.midpointStateRoot

/-- **Proper disputes**: the interval lies within the checkpoint, a midpoint splits it, the
proof is about one step, and the rounds are bounded. -/
structure Dispute.Proper (D : Dispute) : Prop where
  isActive : D.challenge.status = .active
  deadline : D.challenge.hardDeadlineL1Slot = D.checkpoint.challengeDeadlineL1Slot
  challenger : D.challenge.challenger = D.checkpoint.challenger
  range : D.challenge.interval.lo < D.challenge.interval.hi ∧
    D.challenge.interval.hi ≤ D.checkpoint.stepCount.toNat
  midpoint : D.challenge.turn = .challenger →
    D.challenge.interval.lo + 2 ≤ D.challenge.interval.hi ∧
      D.challenge.midpointStep.toNat = D.challenge.interval.mid
  isolated : D.challenge.turn = .prove → D.challenge.interval.hi = D.challenge.interval.lo + 1
  rounds : D.challenge.rounds.toNat + D.challenge.interval.rank ≤
    Nat.clog 2 D.checkpoint.stepCount.toNat
  revealed : D.daProof.status ≠ .defaulted

/-- **Standing disputes**: every challenged checkpoint has its dispute, and it is proper. -/
structure Standing (B : Board) : Prop where
  sized : Sized B
  present : ∀ e c, B.checkpoint e = some c → c.status = .challenged → ∃ D, disputeOf B e = some D
  proper : ∀ e D, disputeOf B e = some D → D.Proper

section Intervals

variable {args : RespondChallenge} {disputeUpper : Bool} {deadline : UInt64}

/-- A response leaves the interval alone. -/
theorem Challenge.interval_respond (h : ch.respond env c args = .ok ch') :
    ch'.interval = ch.interval := by
  rcases Challenge.respond_ok h with ⟨-, -, -, rfl⟩ | ⟨-, -, -, rfl⟩ <;> rfl

/-- A choice of the challenger halves the interval. -/
theorem Challenge.interval_bisect (hmid : ch.midpointStep.toNat = ch.interval.mid)
    (h : ch.bisect disputeUpper = .ok ch') :
    ch'.interval = ch.interval.halve ch.midpointStateRoot disputeUpper := by
  obtain ⟨-, -, rounds, -, rfl⟩ := Challenge.bisect_ok h
  cases disputeUpper <;> simp only [Interval.halve, ← hmid] <;> rfl

theorem Dispute.Proper.opened (hsized : 0 < c.stepCount) :
    Dispute.Proper
      { checkpoint := { c with
          status := .challenged
          challenger := actor
          challengedAtL1Slot := now }
        challenge := .opened key actor c s now deadline bump
        daProof := .awaited key' key c.daCommitment bump' } where
  isActive := rfl
  deadline := rfl
  challenger := rfl
  range := ⟨UInt64.lt_iff_toNat_lt.mp hsized, le_rfl⟩
  midpoint := nofun
  isolated := nofun
  rounds := (Nat.zero_add _).le
  revealed := nofun

theorem Dispute.Proper.responded (h : D.Proper)
    (hanswer : D.challenge.respond env D.checkpoint args = .ok ch)
    (hreveals : D.daProof.reveal args now = .ok d) :
    Dispute.Proper ⟨D.checkpoint, { ch with turnDeadlineL1Slot := deadline }, d⟩ := by
  have hinterval := Challenge.interval_respond hanswer
  have hrevealed := (DataAvailabilityProof.reveal_ok hreveals).1
  have hstatus : d.status ≠ .defaulted := by
    rw [hrevealed]
    nofun
  rcases Challenge.respond_ok hanswer with ⟨hone, -, -, rfl⟩ | ⟨hwide, hmid, -, rfl⟩
  · exact ⟨h.isActive, h.deadline, h.challenger, h.range, nofun, fun _ => hone, h.rounds, hstatus⟩
  · exact ⟨h.isActive, h.deadline, h.challenger, h.range, fun _ => ⟨hwide, hmid⟩,
      nofun, h.rounds, hstatus⟩

theorem Dispute.Proper.bisected (h : D.Proper) (hturn : D.challenge.turn = .challenger)
    (hchoice : D.challenge.bisect disputeUpper = .ok ch) :
    Dispute.Proper ⟨D.checkpoint, { ch with turnDeadlineL1Slot := deadline }, D.daProof⟩ := by
  obtain ⟨hwide, hmid⟩ := h.midpoint hturn
  have hinterval := Challenge.interval_bisect hmid hchoice
  have hrange : (D.challenge.interval.halve D.challenge.midpointStateRoot disputeUpper).Meets
      (fun _ _ => True) (fun _ _ => True) D.checkpoint.stepCount.toNat :=
    Interval.Meets.halve ⟨h.range.1, h.range.2, trivial, trivial⟩ hwide (fun _ => trivial)
      fun _ => trivial
  have hrank : (D.challenge.interval.halve D.challenge.midpointStateRoot disputeUpper).rank + 1 ≤
      D.challenge.interval.rank := Interval.rank_halve hwide
  rw [← hinterval] at hrange hrank
  have hbound := h.rounds
  obtain ⟨-, -, rounds, hrounds, hch⟩ := Challenge.bisect_ok hchoice
  have htotal : ch.rounds.toNat + ch.interval.rank ≤ Nat.clog 2 D.checkpoint.stepCount.toNat := by
    have hnext : ch.rounds.toNat = D.challenge.rounds.toNat + 1 := by rw [hch, ← hrounds]
    omega
  subst hch
  exact ⟨h.isActive, h.deadline, h.challenger, ⟨hrange.lt, hrange.le⟩, nofun, nofun, htotal,
    h.revealed⟩

theorem Dispute.Proper.of_disputeMove (hsized : Sized B) (hm : DisputeMove env now actor e B B' i)
    (h : ∀ D, disputeOf B e = some D → D.Proper) (hD : disputeOf B' e = some D) : D.Proper := by
  cases hm with
  | stay quiet hc hsame => exact h D (hsame ▸ hD)
  | closed hclosed =>
    obtain ⟨hc, hstatus, -⟩ := disputeOf_eq_some.mp hD
    exact absurd hstatus (hclosed _ hc)
  | opened hB early hdeadline session hnew =>
    rw [hnew] at hD
    cases hD
    exact .opened (hsized e _ hB).1
  | responded he hB live turn respondent answer reveals hdeadline hnew =>
    rw [hnew] at hD
    cases hD
    exact (h _ hB).responded answer reveals
  | bisected hB live turn challenger choice hdeadline hnew =>
    rw [hnew] at hD
    cases hD
    exact (h _ hB).bisected turn choice

theorem standing_of_move (h : Standing (boardOf env L)) (hm : Move env S now actor L L' i) :
    Standing (boardOf env L') where
  sized := sized_of_move h.sized hm
  present e c hc hstatus := by
    cases disputeMove_of_move hm e with
    | stay quiet hsame hD =>
      rw [hD]
      exact h.present e c (hsame ▸ hc) hstatus
    | closed hclosed => exact absurd hstatus (hclosed c hc)
    | opened hB early hdeadline session hD
    | responded he hB live turn respondent answer reveals hdeadline hD
    | bisected hB live turn challenger choice hdeadline hD => exact ⟨_, hD⟩
  proper e D hD := .of_disputeMove h.sized (disputeMove_of_move hm e) (h.proper e) hD

/-- A challenge under way is part of a dispute. -/
theorem Standing.exists_dispute (h : Standing (boardOf env L)) (hu : UnderWay env L e c ch) :
    ∃ d, disputeOf (boardOf env L) e = some ⟨c, ch, d⟩ := by
  obtain ⟨D, hD⟩ := h.present e c hu.checkpoint hu.challenged
  obtain ⟨hc, -, hch, -⟩ := disputeOf_eq_some.mp hD
  obtain ⟨c', ch', d⟩ := D
  cases hc.symm.trans hu.checkpoint
  cases hch.symm.trans hu.challenge
  exact ⟨d, hD⟩

/-- **The rule for claimed roots.** What the checkpoint's own roots satisfy, what every
response establishes at the midpoint, and what every choice carries over to the new end. -/
theorem Dispute.Meets.of_disputeMove {P Q M : Checkpoint → ℕ → Hash32 → Prop} (hB : Standing B)
    (hm : DisputeMove env now actor e B B' i)
    (hopen : ∀ c, P c 0 c.previousStateRoot ∧ Q c c.stepCount.toNat c.newStateRoot)
    (hrespond : ∀ args D, i = .respondChallenge args → args.erSlot = e →
      disputeOf B e = some D → D.challenge.interval.lo + 2 ≤ D.challenge.interval.hi →
      verifyTraceAuthenticationPath env D.checkpoint args.claimedStep args.claimedStateRoot
        args.tracePathLen args.tracePath = true →
      M D.checkpoint args.claimedStep.toNat args.claimedStateRoot)
    (hbisect : ∀ disputeUpper D, i = .bisectChallenge e disputeUpper → disputeOf B e = some D →
      M D.checkpoint D.challenge.midpointStep.toNat D.challenge.midpointStateRoot →
      (disputeUpper = true →
        P D.checkpoint D.challenge.midpointStep.toNat D.challenge.midpointStateRoot) ∧
      (disputeUpper = false →
        Q D.checkpoint D.challenge.midpointStep.toNat D.challenge.midpointStateRoot))
    (h : ∀ D, disputeOf B e = some D → D.Meets (P D.checkpoint) (Q D.checkpoint) (M D.checkpoint))
    (hD : disputeOf B' e = some D) :
    D.Meets (P D.checkpoint) (Q D.checkpoint) (M D.checkpoint) := by
  have hproper := Dispute.Proper.of_disputeMove hB.sized hm (hB.proper e) hD
  cases hm with
  | stay quiet hc hsame => exact h D (hsame ▸ hD)
  | closed hclosed =>
    obtain ⟨hc, hstatus, -⟩ := disputeOf_eq_some.mp hD
    exact absurd hstatus (hclosed _ hc)
  | opened hc early hdeadline session hnew =>
    rw [hnew] at hD
    cases hD
    exact ⟨⟨hproper.range.1, hproper.range.2, (hopen _).1, (hopen _).2⟩, nofun⟩
  | @responded args D₀ ch d deadline he hD₀ live turn respondent answer reveals hdeadline hnew =>
    rw [hnew] at hD
    cases hD
    rcases Challenge.respond_ok answer with ⟨-, -, -, rfl⟩ | ⟨hwide, hmid, hpath, rfl⟩
    · exact ⟨(h D₀ hD₀).interval, nofun⟩
    · exact ⟨(h D₀ hD₀).interval, fun _ => hrespond args D₀ rfl he hD₀ hwide hpath⟩
  | @bisected disputeUpper D₀ ch deadline hD₀ live turn challenger choice hdeadline hnew =>
    rw [hnew] at hD
    cases hD
    obtain ⟨hwide, hmid⟩ := (hB.proper e D₀ hD₀).midpoint turn
    obtain ⟨hupper, hlower⟩ := hbisect disputeUpper D₀ rfl hD₀ ((h D₀ hD₀).midpoint turn)
    have hinterval := (h D₀ hD₀).interval.halve hwide (fun hu => hmid ▸ hupper hu)
      fun hu => hmid ▸ hlower hu
    rw [← Challenge.interval_bisect hmid choice] at hinterval
    obtain ⟨-, -, rounds, -, rfl⟩ := Challenge.bisect_ok choice
    exact ⟨hinterval, nofun⟩

end Intervals

/-! ## Disputes of a history -/

theorem standing_of_event (hl : env.Lawful) (hs : Sound env L) (ha : Admissible env L event)
    (h : Standing (boardOf env L)) : Standing (boardOf env (exec env L event)) := by
  rcases step_of_event hl hs ha with ⟨c, -, -, hmove⟩ | ⟨hframe, -⟩
  · exact standing_of_move h hmove
  · rw [hframe.track.board]
    exact h

theorem Genesis.standing (h : Genesis env L₀) : Standing (boardOf env L₀) := by
  have hcheckpoint : ∀ e, (boardOf env L₀).checkpoint e = none := by
    intro e
    rw [Board.checkpoint, h.board_eq_none]
    rfl
  refine ⟨?_, ?_, ?_⟩
  · intro e c hc
    rw [hcheckpoint] at hc
    cases hc
  · intro e c hc
    rw [hcheckpoint] at hc
    cases hc
  · intro e D hD
    obtain ⟨hc, -⟩ := disputeOf_eq_some.mp hD
    rw [hcheckpoint] at hc
    cases hc

theorem History.standing (hl : env.Lawful) (h : History env L₀ events) :
    Standing (boardOf env (ledgerAfter env L₀ events)) :=
  History.induction hl Genesis.standing (fun _ _ hs ha hL => standing_of_event hl hs ha hL) h

/-- A dispute after an event: the event is an accepted move on it, or did not touch it. -/
theorem disputeMove_of_event (hl : env.Lawful) (hs : Sound env L) (ha : Admissible env L event)
    (e : UInt64) :
    (∃ c : Call, event = .call c ∧ c.result env L = .ok (exec env L event) ∧
      DisputeMove env c.slot (actorOf c.accounts) e (boardOf env L)
        (boardOf env (exec env L event)) c.instruction) ∨
    boardOf env (exec env L event) = boardOf env L ∧
      ∀ c : Call, event = .call c → ∃ err, c.result env L = .error err := by
  rcases step_of_event hl hs ha with ⟨c, hc, hresult, hmove⟩ | ⟨hframe, hfailed⟩
  · exact .inl ⟨c, hc, hresult, disputeMove_of_move hmove e⟩
  · exact .inr ⟨by rw [hframe.track.board]; rfl, hfailed⟩

end Northstar.Portal
