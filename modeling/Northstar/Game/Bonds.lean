import Northstar.Game.Lifecycle

/-!
# Bonds

A proposal locks a bond in its checkpoint account. The bond stays there while the
proposal is open, and leaves the account once: back to the proposer, or to the
challenger who won. The account may then be proposed to again, with a new bond.

## Main definitions

* `Bonded`: a bond is locked exactly while its proposal is open, and then it is there
* `BondMove`: what an event may do to a bond
* `bondLog`: when the bond of a slot was locked and what left its account

## Main results

* `bondMove_of_move`: every move treats bonds as `BondMove` allows
* `bond_conservation`: bonds along every history
-/

namespace Northstar.Portal

open Bytes Checked Instruction

variable (env : Env)

/-- How the bond of a slot stands. -/
def bondOf (L : Ledger) (e : UInt64) : Option CheckpointBondStatus :=
  (checkpointOf env L e).map Checkpoint.bondStatus

/-- The balance of the checkpoint account of a slot. -/
def bondBalance (L : Ledger) (e : UInt64) : UInt64 :=
  (L (env.address (.checkpoint e))).lamports

/-- **Bond invariant**: a bond is locked exactly while its proposal is open, and a locked
bond is in the account, on top of its rent. -/
structure Bonded (L : Ledger) : Prop where
  amount : ∀ e c, (boardOf env L).checkpoint e = some c →
    c.bondLamports = checkpointProposerBondLamports
  locked_iff : ∀ e c, (boardOf env L).checkpoint e = some c →
    (c.bondStatus = .locked ↔ c.status = .pending ∨ c.status = .challenged)
  funded : ∀ e c, (boardOf env L).checkpoint e = some c → c.bondStatus = .locked →
    (checkpointRent env).toNat + c.bondLamports.toNat ≤ (bondBalance env L e).toNat

/-- **What may happen to a bond**: nothing, beyond gifts to its account; a proposal locks
it; or it is paid, to the proposer or to the challenger whose challenge won. -/
inductive BondMove (L L' : Ledger) (e : UInt64) (proposed : Prop) : Prop
  | keep (quiet : ¬proposed) (same : bondOf env L' e = bondOf env L e)
      (gains : bondBalance env L e ≤ bondBalance env L' e)
  | lock (h : proposed) (before : bondOf env L e ≠ some .locked)
      (after : bondOf env L' e = some .locked)
      (gains : bondBalance env L e ≤ bondBalance env L' e)
      (funded : (checkpointRent env).toNat + checkpointProposerBondLamports.toNat ≤
        (bondBalance env L' e).toNat)
  | release (quiet : ¬proposed) {c : Checkpoint} (checkpoint : checkpointOf env L e = some c)
      (before : bondOf env L e = some .locked) (after : bondOf env L' e = some .released)
      (pays : Pays env L L' e c.proposer checkpointProposerBondLamports)
  | slash (quiet : ¬proposed) {ch : Challenge}
      (won : challengeOf env L' e = some { ch with status := .challengerWon })
      (before : bondOf env L e = some .locked) (after : bondOf env L' e = some .slashed)
      (pays : Pays env L L' e ch.challenger checkpointProposerBondLamports)

/-! ## Bonds along moves -/

section Moves

variable {env} {S : Finset Pubkey} {L L' : Ledger} {now : UInt64} {actor : Pubkey} {e : UInt64}
  {c c' : Checkpoint} {k : CheckpointCursor} {i : Instruction} {proposed : Prop} {e₀ : UInt64}

theorem bondOf_eq (env : Env) (L : Ledger) (e : UInt64) :
    bondOf env L e = ((boardOf env L).checkpoint e).map Checkpoint.bondStatus := by
  rw [bondOf, boardOf_checkpoint]

/-- A payout leaves every other checkpoint account alone. -/
theorem Pays.bondBalance_of_ne (h : Pays env L L' e r n) (hl : env.Lawful) (hr : ¬env.Derived r)
    (hne : e' ≠ e) : bondBalance env L' e' = bondBalance env L e' :=
  h.others _ (hl.address_inj.not.mpr (by simpa using hne)) (aside_of_not_derived hr _)

/-- A checkpoint whose bond neither moves nor is resolved. -/
theorem Bonded.update (h : Bonded env L) (hc : (boardOf env L).checkpoint e = some c)
    (hcheckpoint : ∀ e', (boardOf env L').checkpoint e' =
      if e' = e then some c' else (boardOf env L).checkpoint e')
    (hamount : c'.bondLamports = c.bondLamports) (hbond : c'.bondStatus = c.bondStatus)
    (hopen : c'.status = .pending ∨ c'.status = .challenged ↔
      c.status = .pending ∨ c.status = .challenged)
    (hgains : Gains env L L') : Bonded env L' := by
  refine ⟨?_, ?_, ?_⟩
  · intro e₁ c₁ hc₁
    rw [hcheckpoint] at hc₁
    split at hc₁
    · cases hc₁
      rw [hamount]
      exact h.amount e c hc
    · exact h.amount e₁ c₁ hc₁
  · intro e₁ c₁ hc₁
    rw [hcheckpoint] at hc₁
    split at hc₁
    · cases hc₁
      rw [hbond, hopen]
      exact h.locked_iff e c hc
    · exact h.locked_iff e₁ c₁ hc₁
  · intro e₁ c₁ hc₁ hlocked
    have hle := UInt64.le_iff_toNat_le.mp (hgains (.checkpoint e₁))
    rw [hcheckpoint] at hc₁
    split at hc₁
    · rename_i heq
      subst heq
      cases hc₁
      rw [hamount]
      exact (h.funded e₁ c hc (hbond ▸ hlocked)).trans hle
    · exact (h.funded e₁ c₁ hc₁ hlocked).trans hle

/-- A checkpoint whose bond is paid. -/
theorem Bonded.pay (hl : env.Lawful) (h : Bonded env L)
    (hc : (boardOf env L).checkpoint e = some c)
    (hcheckpoint : ∀ e', (boardOf env L').checkpoint e' =
      if e' = e then some c' else (boardOf env L).checkpoint e')
    (hamount : c'.bondLamports = c.bondLamports) (hbond : c'.bondStatus ≠ .locked)
    (hclosed : ¬(c'.status = .pending ∨ c'.status = .challenged)) (hr : ¬env.Derived r)
    (hpays : Pays env L L' e r n) : Bonded env L' := by
  refine ⟨?_, ?_, ?_⟩
  · intro e₁ c₁ hc₁
    rw [hcheckpoint] at hc₁
    split at hc₁
    · cases hc₁
      rw [hamount]
      exact h.amount e c hc
    · exact h.amount e₁ c₁ hc₁
  · intro e₁ c₁ hc₁
    rw [hcheckpoint] at hc₁
    split at hc₁
    · cases hc₁
      exact ⟨fun hlocked => absurd hlocked hbond, fun hopen => absurd hopen hclosed⟩
    · exact h.locked_iff e₁ c₁ hc₁
  · intro e₁ c₁ hc₁ hlocked
    rw [hcheckpoint] at hc₁
    split at hc₁
    · cases hc₁
      exact absurd hlocked hbond
    · rename_i hne
      rw [hpays.bondBalance_of_ne hl hr hne]
      exact h.funded e₁ c₁ hc₁ hlocked

theorem Bonded.congr (h : Bonded env L)
    (hcheckpoint : ∀ e, (boardOf env L').checkpoint e = (boardOf env L).checkpoint e)
    (hgains : ∀ e, bondBalance env L e ≤ bondBalance env L' e) : Bonded env L' := by
  refine ⟨fun e c hc => ?_, fun e c hc => ?_, fun e c hc hlocked => ?_⟩
  · exact h.amount e c (hcheckpoint e ▸ hc)
  · exact h.locked_iff e c (hcheckpoint e ▸ hc)
  · have hfunded := h.funded e c (hcheckpoint e ▸ hc) hlocked
    exact hfunded.trans (UInt64.le_iff_toNat_le.mp (hgains e))

theorem Proposes.bonded (h : Bonded env L) (hm : Proposes env S now actor L L' args s k c) :
    Bonded env L' := by
  have hlocked := hm.locked
  obtain ⟨deadline, bump, -, rfl⟩ := hm.record
  refine ⟨?_, ?_, ?_⟩
  · intro e₁ c₁ hc₁
    rw [hm.checkpoint_after] at hc₁
    split at hc₁
    · cases hc₁
      rfl
    · exact h.amount e₁ c₁ hc₁
  · intro e₁ c₁ hc₁
    rw [hm.checkpoint_after] at hc₁
    split at hc₁
    · cases hc₁
      exact ⟨fun _ => .inl rfl, fun _ => rfl⟩
    · exact h.locked_iff e₁ c₁ hc₁
  · intro e₁ c₁ hc₁ hlocked₁
    rw [hm.checkpoint_after] at hc₁
    split at hc₁
    · rename_i heq
      subst heq
      cases hc₁
      exact hlocked
    · exact (h.funded e₁ c₁ hc₁ hlocked₁).trans
        (UInt64.le_iff_toNat_le.mp (hm.gains (.checkpoint e₁)))

/-- **Every move keeps the bond invariant.** -/
theorem bonded_of_move (hl : env.Lawful) (hs : Sound env L) (h : Bonded env L)
    (hm : Move env S now actor L L' i) : Bonded env L' := by
  cases hm with
  | aside side frame =>
    exact h.congr (fun e => by rw [frame.track.board]; rfl) fun e => frame.lamports _
  | openSession hi move =>
    exact h.congr (by rw [move.track.board]; simp) fun e => move.gains _
  | closeSession move =>
    refine h.congr (by rw [move.track.board]; simp) fun e => ?_
    exact UInt64.le_of_eq (move.balances (.checkpoint e) (by simp) (by simp) (by simp))
  | propose hi move => exact move.bonded h
  | commit hi move | cancel move =>
    exact h.pay hl move.checkpoint move.checkpoint_after rfl (by simp) (by simp)
      (hs.proposer _ _ move.checkpoint) move.pays
  | finish move =>
    exact h.update move.checkpoint move.checkpoint_after rfl rfl (by simp [move.committed])
      move.gains
  | openChallenge move =>
    exact h.update move.checkpoint move.checkpoint_after rfl rfl (by simp [move.pending]) move.gains
  | respond move | bisect move =>
    obtain ⟨deadline, -, htrack⟩ := move.record
    exact h.congr (by rw [htrack.board]; simp) fun e => move.gains _
  | timeoutRespondent late turn move | reject resolves move =>
    exact h.pay hl move.checkpoint move.checkpoint_after rfl (by simp) (by simp)
      (hs.challenger _ _ move.challenge) move.pays
  | timeoutChallenger late turn move | accept resolves move =>
    exact h.update move.checkpoint move.checkpoint_after rfl rfl (by simp [move.challenged])
      move.gains
  | prove hi track gains =>
    exact h.congr (by rw [track.board]; simp) fun e => gains _

/-! ## What happens to one bond -/

/-- A move that changes no bond. -/
theorem bondMove_of_keep (hquiet : ¬proposed)
    (hcheckpoint : (boardOf env L').checkpoint e = (boardOf env L).checkpoint e)
    (hgains : bondBalance env L e ≤ bondBalance env L' e) : BondMove env L L' e proposed :=
  .keep hquiet (by rw [bondOf_eq, bondOf_eq, hcheckpoint]) hgains

/-- A move that changes one checkpoint and leaves its bond as it is. -/
theorem bondMove_of_update (hquiet : ¬proposed) (hc : (boardOf env L).checkpoint e₀ = some c)
    (hcheckpoint : ∀ e', (boardOf env L').checkpoint e' = if e' = e₀ then some c' else (boardOf
      env L).checkpoint e') (hbond : c'.bondStatus = c.bondStatus) (hgains : Gains env L L') :
    BondMove env L L' e proposed := by
  refine .keep hquiet ?_ (hgains _)
  rw [bondOf_eq, bondOf_eq, hcheckpoint]
  split
  · rename_i heq
    rw [heq, hc]
    exact congrArg some hbond
  · rfl

/-- The bonds of the other slots, when one is paid. -/
theorem bondMove_of_other (hl : env.Lawful) (hquiet : ¬proposed) (hne : e ≠ e₀)
    (hcheckpoint : ∀ e', (boardOf env L').checkpoint e' = if e' = e₀ then some c' else (boardOf
      env L).checkpoint e') (hr : ¬env.Derived r) (hpays : Pays env L L' e₀ r n) :
    BondMove env L L' e proposed := by
  refine bondMove_of_keep hquiet (by rw [hcheckpoint, if_neg hne]) ?_
  rw [hpays.bondBalance_of_ne hl hr hne]
  exact UInt64.le_refl _

theorem bondOf_of_checkpoint (hc : (boardOf env L).checkpoint e = some c) (hb : c.bondStatus = b) :
    bondOf env L e = some b := by
  rw [bondOf_eq, hc, ← hb]
  rfl

theorem Instruction.not_proposes (hi : i.proposal = none) (e : UInt64) : ¬i.Proposes e := by
  rintro ⟨args, hargs, -⟩
  rw [hi] at hargs
  cases hargs

theorem ChallengerWins.bondMove (hl : env.Lawful) (hs : Sound env L) (hb : Bonded env L)
    (hquiet : ¬proposed) (hm : ChallengerWins env S L L' e₀ c ch k) :
    BondMove env L L' e proposed := by
  by_cases heq : e = e₀
  · subst heq
    have hpays := hm.pays
    rw [hb.amount e c hm.checkpoint] at hpays
    refine @BondMove.slash env L L' e proposed hquiet ch ?_
      (bondOf_of_checkpoint hm.checkpoint hm.locked) ?_ hpays
    · rw [← boardOf_challenge, hm.challenge_after, if_pos rfl]
    · rw [bondOf_eq, hm.checkpoint_after, if_pos rfl]
      rfl
  · exact bondMove_of_other hl hquiet heq hm.checkpoint_after
      (hs.challenger _ _ hm.challenge) hm.pays

/-- **Every move treats bonds as it may.** -/
theorem bondMove_of_move (hl : env.Lawful) (hs : Sound env L) (hb : Bonded env L)
    (hm : Move env S now actor L L' i) (e : UInt64) :
    BondMove env L L' e (i.Proposes e) := by
  cases hm with
  | aside side frame =>
    have hquiet : i.proposal = none := by cases i <;> first | rfl | cases side
    exact bondMove_of_keep (not_proposes hquiet e)
      (by rw [frame.track.board]; rfl) (frame.lamports _)
  | openSession hi move =>
    have hquiet : i.proposal = none := by cases i <;> first | rfl | cases hi
    exact bondMove_of_keep (not_proposes hquiet e)
      (by rw [move.track.board]; simp) (move.gains _)
  | closeSession move =>
    exact bondMove_of_keep (not_proposes rfl e) (by rw [move.track.board]; simp)
      (UInt64.le_of_eq (move.balances (.checkpoint e) (by simp) (by simp) (by simp)))
  | @propose _ args s k c hi move =>
    have hlocked := move.locked
    obtain ⟨deadline, bump, -, rfl⟩ := move.record
    by_cases heq : e = args.erSlot
    · subst heq
      refine .lock ⟨args, hi, rfl⟩ ?_ ?_ (move.gains _) hlocked
      · -- the account was empty or held a finished checkpoint
        rw [bondOf_eq]
        rcases move.reuse with hnone | ⟨previous, hprevious, hreusable⟩
        · rw [hnone]
          simp
        · rw [hprevious]
          intro hbond
          have hopen := (hb.locked_iff _ _ hprevious).mp (Option.some.inj hbond)
          have hdead := reusableTerminal_not_live hreusable
          rcases hopen with hopen | hopen <;> rw [hopen] at hdead <;> cases hdead
      · rw [bondOf_eq, move.checkpoint_after, if_pos rfl]
        rfl
    · refine bondMove_of_keep ?_ (by rw [move.checkpoint_after, if_neg heq]) (move.gains _)
      rintro ⟨args', hargs', heq'⟩
      rw [hi] at hargs'
      cases hargs'
      exact heq heq'.symm
  | @commit _ e₀ s c k hi move =>
    have hquiet : i.proposal = none := by cases i <;> first | rfl | cases hi
    have hquiet := not_proposes hquiet e
    by_cases heq : e = e₀
    · subst heq
      have hpays := move.pays
      rw [hb.amount e c move.checkpoint] at hpays
      refine .release hquiet (boardOf_checkpoint ▸ move.checkpoint)
        (bondOf_of_checkpoint move.checkpoint move.locked) ?_ hpays
      rw [bondOf_eq, move.checkpoint_after, if_pos rfl]
      rfl
    · exact bondMove_of_other hl hquiet heq move.checkpoint_after
        (hs.proposer _ _ move.checkpoint) move.pays
  | @cancel e₀ c k move =>
    have hquiet := not_proposes (i := .cancelCheckpoint e₀) rfl e
    by_cases heq : e = e₀
    · subst heq
      have hpays := move.pays
      rw [hb.amount e c move.checkpoint] at hpays
      refine .release hquiet (boardOf_checkpoint ▸ move.checkpoint)
        (bondOf_of_checkpoint move.checkpoint move.locked) ?_ hpays
      rw [bondOf_eq, move.checkpoint_after, if_pos rfl]
      rfl
    · exact bondMove_of_other hl hquiet heq move.checkpoint_after
        (hs.proposer _ _ move.checkpoint) move.pays
  | finish move | openChallenge move | timeoutChallenger late turn move | accept resolves move =>
    exact bondMove_of_update (not_proposes rfl e) move.checkpoint
      move.checkpoint_after rfl move.gains
  | respond move | bisect move =>
    obtain ⟨deadline, -, htrack⟩ := move.record
    exact bondMove_of_keep (not_proposes rfl e) (by rw [htrack.board]; simp)
      (move.gains _)
  | timeoutRespondent late turn move | reject resolves move =>
    exact move.bondMove hl hs hb (not_proposes rfl e)
  | prove hi track gains =>
    have hquiet : i.proposal = none := by cases i <;> first | rfl | cases hi
    exact bondMove_of_keep (not_proposes hquiet e) (by rw [track.board]; simp) (gains _)

end Moves

/-! ## The log of a bond -/

/-- What happens to the bond of a slot: a proposal locks it, or lamports leave its account. -/
inductive BondEvent
  | locked
  | paid (lamports : Nat)
  deriving DecidableEq, Repr

/-- Whether a proposal at `e` goes through. -/
def Event.locksBond (L : Ledger) (e : UInt64) : Event → Bool
  | .call c => match c.result env L with
    | .ok _ => c.instruction.proposal.map ProposeCheckpoint.erSlot == some e
    | .error _ => false
  | .other _ => false

/-- The log of the bond of `e` after one more event. -/
def bondLogAfter (e : UInt64) (L : Ledger) (log : List BondEvent)
    (event : Event) : List BondEvent :=
  if event.locksBond env L e = true then log ++ [.locked]
  else if bondBalance env (exec env L event) e < bondBalance env L e then
    log ++ [.paid ((bondBalance env L e).toNat - (bondBalance env (exec env L event) e).toNat)]
  else log

/-- **The log of a bond** along a history: its locks, and everything that left its account. -/
def bondLog (L₀ : Ledger) (events : List Event) (e : UInt64) : List BondEvent :=
  (Runs.run (Runs.ghost (exec env) (bondLogAfter env e)) (L₀, []) events).2

/-- `n` rounds in which the bond was locked and paid. -/
def bondRounds (n : Nat) : List BondEvent :=
  (List.replicate n [.locked, .paid checkpointProposerBondLamports.toNat]).flatten

theorem bondRounds_succ (n : Nat) : bondRounds (n + 1) =
    bondRounds n ++ [.locked] ++ [.paid checkpointProposerBondLamports.toNat] := by
  simp [bondRounds, List.replicate_succ']

/-- The log is rounds of locking and paying, and one more lock while the bond is locked. -/
def BondLogged (L : Ledger) (e : UInt64) (log : List BondEvent) : Prop :=
  ∃ n, log = bondRounds n ++ (if bondOf env L e = some .locked then [.locked] else [])

section Histories

variable {env} {L L₀ : Ledger} {e : UInt64} {event : Event} {events : List Event}

theorem Event.locksBond_call (h : c.result env L = .ok L') :
    (Event.call c).locksBond env L e = true ↔ c.instruction.Proposes e := by
  simp only [Event.locksBond, h, beq_iff_eq, Option.map_eq_some_iff]
  rfl

theorem Event.locksBond_of_failed
    (h : ∀ c : Call, event = .call c → ∃ err, c.result env L = .error err) :
    event.locksBond env L e = false := by
  cases event with
  | call c =>
    obtain ⟨err, herr⟩ := h c rfl
    simp [Event.locksBond, herr]
  | other after => rfl

theorem bonded_of_event (hl : env.Lawful) (hs : Sound env L) (ha : Admissible env L event)
    (h : Bonded env L) : Bonded env (exec env L event) := by
  rcases step_of_event hl hs ha with ⟨c, -, -, hmove⟩ | ⟨hframe, -⟩
  · exact bonded_of_move hl hs h hmove
  · exact h.congr (fun e => by rw [hframe.track.board]; rfl) fun e => hframe.lamports _

theorem bondMove_of_event (hl : env.Lawful) (hs : Sound env L) (hb : Bonded env L)
    (ha : Admissible env L event) (e : UInt64) :
    BondMove env L (exec env L event) e (event.locksBond env L e = true) := by
  rcases step_of_event hl hs ha with ⟨c, rfl, hresult, hmove⟩ | ⟨hframe, hfailed⟩
  · rw [Event.locksBond_call hresult]
    exact bondMove_of_move hl hs hb hmove e
  · refine bondMove_of_keep ?_ (by rw [hframe.track.board]; rfl) (hframe.lamports _)
    rw [Event.locksBond_of_failed hfailed]
    exact Bool.false_ne_true

/-- A payout is one more entry of the log, of exactly the bond. -/
theorem bondLogAfter_of_pays (hquiet : ¬event.locksBond env L e = true)
    (h : Pays env L (exec env L event) e r checkpointProposerBondLamports) :
    bondLogAfter env e L log event = log ++ [.paid checkpointProposerBondLamports.toNat] := by
  have hdebit := h.debit
  have hpositive : checkpointProposerBondLamports.toNat = 1000000 := rfl
  have hlt : bondBalance env (exec env L event) e < bondBalance env L e := by
    rw [UInt64.lt_iff_toNat_lt, bondBalance, bondBalance]
    omega
  have hamount : (bondBalance env L e).toNat - (bondBalance env (exec env L event) e).toNat =
      checkpointProposerBondLamports.toNat := by
    rw [bondBalance, bondBalance]
    omega
  rw [bondLogAfter, if_neg hquiet, if_pos hlt, hamount]

theorem bondLogged_of_event (hl : env.Lawful) (hs : Sound env L) (hb : Bonded env L)
    (ha : Admissible env L event) (h : BondLogged env L e log) :
    BondLogged env (exec env L event) e (bondLogAfter env e L log event) := by
  obtain ⟨n, rfl⟩ := h
  cases bondMove_of_event hl hs hb ha e with
  | keep quiet same gains =>
    refine ⟨n, ?_⟩
    rw [bondLogAfter, if_neg quiet, if_neg (UInt64.not_lt.mpr gains), same]
  | lock hlock before after gains funded =>
    refine ⟨n, ?_⟩
    rw [bondLogAfter, if_pos hlock, if_neg before, if_pos after, List.append_nil]
  | release quiet checkpoint before after pays | slash quiet won before after pays =>
    refine ⟨n + 1, ?_⟩
    rw [bondLogAfter_of_pays quiet pays, if_pos before, after, bondRounds_succ]
    simp

theorem Genesis.bonded (h : Genesis env L₀) : Bonded env L₀ := by
  have hcheckpoint : ∀ e, (boardOf env L₀).checkpoint e = none := by
    intro e
    rw [Board.checkpoint, h.board_eq_none]
    rfl
  refine ⟨?_, ?_, ?_⟩ <;> intro e c hc <;> rw [hcheckpoint] at hc <;> cases hc

theorem History.bonded (hl : env.Lawful) (h : History env L₀ events) :
    Bonded env (ledgerAfter env L₀ events) :=
  History.induction hl (fun hg => hg.bonded) (fun _ _ hs ha hb => bonded_of_event hl hs ha hb) h

theorem History.bondLogged (hl : env.Lawful) (h : History env L₀ events) (e : UInt64) :
    BondLogged env (ledgerAfter env L₀ events) e (bondLog env L₀ events e) := by
  refine (History.ghost_induction (P := fun L log => Bonded env L ∧ BondLogged env L e log) hl ?_ ?_
    h).2
  · intro hg
    refine ⟨hg.bonded, 0, ?_⟩
    rw [bondOf_eq, Board.checkpoint, hg.board_eq_none]
    rfl
  · intro L log event hs ha hL
    exact ⟨bonded_of_event hl hs ha hL.1, bondLogged_of_event hl hs hL.1 ha hL.2⟩

/-- **Bond conservation.** After every history, a bond is locked exactly while its proposal
is open, and a locked bond is in its account on top of the rent; the log of every slot is
rounds of one lock and one payout of exactly the bond, with an open lock exactly while the
bond is locked; the next event keeps, locks, releases to the proposer or slashes to the
winning challenger; and a call changes no total of the accounts it names. -/
theorem bond_conservation (hl : env.Lawful) (h : History env L₀ events) :
    (∀ e c, checkpointOf env (ledgerAfter env L₀ events) e = some c →
      (c.bondStatus = .locked ↔ c.status = .pending ∨ c.status = .challenged) ∧
      (c.bondStatus = .locked → (checkpointRent env).toNat + c.bondLamports.toNat ≤
        (bondBalance env (ledgerAfter env L₀ events) e).toNat)) ∧
    (∀ e, BondLogged env (ledgerAfter env L₀ events) e (bondLog env L₀ events e)) ∧
    (∀ event, Admissible env (ledgerAfter env L₀ events) event → ∀ e,
      BondMove env (ledgerAfter env L₀ events) (exec env (ledgerAfter env L₀ events) event) e
        (event.locksBond env (ledgerAfter env L₀ events) e = true)) ∧
    (∀ c L' S, Admissible env (ledgerAfter env L₀ events) (.call c) →
      c.result env (ledgerAfter env L₀ events) = .ok L' → c.addresses ⊆ S →
      L'.total S = (ledgerAfter env L₀ events).total S) := by
  have hbonded := h.bonded hl
  have hsound := h.sound hl
  refine ⟨fun e c hc => ?_, h.bondLogged hl, fun event ha e => ?_, fun c L' S ha hresult hS => ?_⟩
  · rw [← boardOf_checkpoint] at hc
    exact ⟨hbonded.locked_iff e c hc, hbonded.funded e c hc⟩
  · exact bondMove_of_event hl hsound hbonded ha e
  · exact total_of_move (move_of_processInstruction hl hsound (Call.named ha hS) hresult)

/-- A session whose one checkpoint was committed: its bond was locked and paid once. -/
theorem bond_conservation_committed :
    bondLog localnet localLedger (localCommitted.map .call) 7 = [.locked, .paid 1000000] ∧
      bondOf localnet (ledgerAfter localnet localLedger (localCommitted.map .call)) 7 =
        some .released ∧
      BondLogged localnet (ledgerAfter localnet localLedger (localCommitted.map .call)) 7
        (bondLog localnet localLedger (localCommitted.map .call) 7) :=
  ⟨by decide +kernel, by decide +kernel,
    (bond_conservation localnet_lawful (localnet_history (by decide +kernel))).2.1 7⟩

end Histories

end Northstar.Portal
