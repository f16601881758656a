import Northstar.Game.Localnet

/-!
# The life of checkpoints

At any time at most one checkpoint is in flight, and the cursor of the session points to
it. Checkpoints go through a fixed set of statuses, and the committed ones of a session
form a chain: each starts from the root the one before ended in.

## Main definitions

* `CheckpointStatus.isLive`: a checkpoint that is not finished
* `Lifecycle`: the invariant that ties the cursor to the checkpoint in flight
* `StatusMove`: how the status of a checkpoint may change
* `commitLog`: the checkpoints committed in the session under way

## Main results

* `lifecycle_of_move`: every move keeps the invariant
* `statusMove_of_move`: every move follows the allowed edges
* `checkpoint_lifecycle`: the invariant, the edges and the chain, along every history
-/

namespace Northstar.Portal

open Bytes Checked

/-- A checkpoint that is neither settled, cancelled nor invalid. -/
def CheckpointStatus.isLive : CheckpointStatus → Bool
  | .pending | .challenged | .committed => true
  | .cancelled | .settled | .invalid => false

/-- **Lifecycle invariant**: the cursor points to the checkpoint in flight, if any, and an
open proposal starts from the root committed last. -/
structure Lifecycle (env : Env) (B : Board) : Prop where
  live_iff : ∀ e c, B.checkpoint e = some c →
    (c.status.isLive = true ↔
      ∃ k, B.cursor = some k ∧ k.activeCheckpoint = env.address (.checkpoint e))
  active : ∀ k, B.cursor = some k → k.activeCheckpoint ≠ zero32 →
    ∃ e c, k.activeCheckpoint = env.address (.checkpoint e) ∧ k.activeErSlot = e ∧
      B.checkpoint e = some c
  root : ∀ e c k, B.checkpoint e = some c → B.cursor = some k →
    c.status = .pending ∨ c.status = .challenged →
    k.latestFinalizedErSlot < e ∧
      (k.latestFinalizedCheckpoint = zero32 ∨ c.previousStateRoot = k.latestFinalizedStateRoot)

/-! ## The invariant along moves -/

variable {env : Env} {S : Finset Pubkey} {L L' : Ledger} {now e : UInt64} {c c' : Checkpoint}
  {k : CheckpointCursor}

/-- A checkpoint in flight is the one the cursor points to. -/
theorem Lifecycle.eq_of_active (hl : env.Lawful) (h : Lifecycle env B) (hk : B.cursor = some k)
    (hactive : k.activeCheckpoint = env.address (.checkpoint e)) (hc' : B.checkpoint e' = some c')
    (hlive : c'.status.isLive = true) : e' = e := by
  obtain ⟨k', hk', hactive'⟩ := (h.live_iff e' c' hc').mp hlive
  rw [hk] at hk'
  cases hk'
  have haddress := hactive'.symm.trans hactive
  exact GameAccount.checkpoint.inj (hl.address_inj.mp haddress)

theorem Lifecycle.congr (h : Lifecycle env B) (hcheckpoint : ∀ e, B'.checkpoint e = B.checkpoint e)
    (hcursor : B'.cursor = B.cursor) : Lifecycle env B' where
  live_iff e c hc := by
    rw [hcursor]
    exact h.live_iff e c (by rw [← hcheckpoint, hc])
  active k hk hne := by
    rw [hcursor] at hk
    obtain ⟨e, c, hactive, hslot, hc⟩ := h.active k hk hne
    exact ⟨e, c, hactive, hslot, by rw [hcheckpoint, hc]⟩
  root e c k hc hk := h.root e c k (by rw [← hcheckpoint, hc]) (by rw [← hcursor, hk])

/-- A checkpoint in flight that changes without being finished or committed. -/
theorem Lifecycle.update (h : Lifecycle env B) (hc : B.checkpoint e = some c)
    (hcheckpoint : ∀ e', B'.checkpoint e' = if e' = e then some c' else B.checkpoint e')
    (hlive : c.status = .pending ∨ c.status = .challenged)
    (hlive' : c'.status = .pending ∨ c'.status = .challenged)
    (hroot : c'.previousStateRoot = c.previousStateRoot)
    (hcursor : B'.cursor = B.cursor) : Lifecycle env B' where
  live_iff e₁ c₁ hc₁ := by
    rw [hcursor]
    rw [hcheckpoint] at hc₁
    split at hc₁
    · rename_i heq
      subst heq
      cases hc₁
      have hboth : c'.status.isLive = c.status.isLive := by
        rcases hlive with hs | hs <;> rcases hlive' with hs' | hs' <;> rw [hs, hs'] <;> rfl
      rw [hboth]
      exact h.live_iff e₁ c hc
    · exact h.live_iff e₁ c₁ hc₁
  active k hk hne := by
    rw [hcursor] at hk
    obtain ⟨e₁, c₁, hactive, hslot, hc₁⟩ := h.active k hk hne
    by_cases heq : e₁ = e
    · exact ⟨e₁, c', hactive, hslot, by rw [hcheckpoint, if_pos heq]⟩
    · exact ⟨e₁, c₁, hactive, hslot, by rw [hcheckpoint, if_neg heq, hc₁]⟩
  root e₁ c₁ k hc₁ hk hs := by
    rw [hcursor] at hk
    rw [hcheckpoint] at hc₁
    split at hc₁
    · rename_i heq
      subst heq
      cases hc₁
      rw [hroot]
      exact h.root e₁ c k hc hk hlive
    · exact h.root e₁ c₁ k hc₁ hk hs

/-- The checkpoint in flight is finished, and the cursor points nowhere. -/
theorem Lifecycle.retire (hl : env.Lawful) (h : Lifecycle env B) (hk : B.cursor = some k)
    (hactive : k.activeCheckpoint = env.address (.checkpoint e))
    (hcheckpoint : ∀ e', B'.checkpoint e' = if e' = e then some c' else B.checkpoint e')
    (hc' : c'.status.isLive = false) (hcursor : B'.cursor = some k.clearActive) :
    Lifecycle env B' := by
  -- no checkpoint is live any more
  have hdead : ∀ e₁ c₁, B'.checkpoint e₁ = some c₁ → c₁.status.isLive = false := by
    intro e₁ c₁ hc₁
    rw [hcheckpoint] at hc₁
    split at hc₁
    · cases hc₁
      exact hc'
    · rename_i hne
      by_contra hlive
      rw [Bool.not_eq_false] at hlive
      exact hne (h.eq_of_active hl hk hactive hc₁ hlive)
  refine ⟨?_, ?_, ?_⟩
  · intro e₁ c₁ hc₁
    rw [hdead e₁ c₁ hc₁, hcursor]
    constructor
    · intro hfalse
      cases hfalse
    · rintro ⟨k₁, hk₁, haddress⟩
      cases hk₁
      exact absurd haddress.symm (hl.address_ne_default _)
  · intro k₁ hk₁ hne
    rw [hcursor] at hk₁
    cases hk₁
    exact absurd rfl hne
  · intro e₁ c₁ k₁ hc₁ hk₁ hs
    have hfalse := hdead e₁ c₁ hc₁
    rcases hs with hs | hs <;> rw [hs] at hfalse <;> cases hfalse

section Keeping

variable (hl : env.Lawful) (h : Lifecycle env (boardOf env L))

include hl h

theorem Proposes.lifecycle (hm : Proposes env S now actor L L' args s k c) :
    Lifecycle env (boardOf env L') := by
  obtain ⟨deadline, bump, -, rfl⟩ := hm.record
  -- nothing was in flight before
  have hdead : ∀ e₁ c₁, (boardOf env L).checkpoint e₁ = some c₁ → c₁.status.isLive = false := by
    intro e₁ c₁ hc₁
    by_contra hlive
    rw [Bool.not_eq_false] at hlive
    obtain ⟨k₁, hk₁, haddress⟩ := (h.live_iff e₁ c₁ hc₁).mp hlive
    rcases hm.cursor with hk | ⟨hnone, -⟩
    · rw [hk] at hk₁
      cases hk₁
      exact hl.address_ne_default _ (haddress.symm.trans hm.idle)
    · rw [hnone] at hk₁
      cases hk₁
  refine ⟨?_, ?_, ?_⟩
  · intro e₁ c₁ hc₁
    rw [hm.checkpoint_after] at hc₁
    rw [hm.cursor_after]
    split at hc₁
    · rename_i heq
      subst heq
      cases hc₁
      exact ⟨fun _ => ⟨_, rfl, rfl⟩, fun _ => rfl⟩
    · rename_i hne
      rw [hdead e₁ c₁ hc₁]
      constructor
      · intro hfalse
        cases hfalse
      · rintro ⟨k₁, hk₁, haddress⟩
        cases hk₁
        exact absurd (GameAccount.checkpoint.inj (hl.address_inj.mp haddress)).symm hne
  · intro k₁ hk₁ _
    rw [hm.cursor_after] at hk₁
    cases hk₁
    exact ⟨args.erSlot, _, rfl, rfl, by rw [hm.checkpoint_after, if_pos rfl]⟩
  · intro e₁ c₁ k₁ hc₁ hk₁ hs
    rw [hm.checkpoint_after] at hc₁
    rw [hm.cursor_after] at hk₁
    cases hk₁
    split at hc₁
    · rename_i heq
      subst heq
      cases hc₁
      exact ⟨hm.advance.2, hm.root⟩
    · have hfalse := hdead e₁ c₁ hc₁
      rcases hs with hs | hs <;> rw [hs] at hfalse <;> cases hfalse

theorem Commits.lifecycle (hm : Commits env S now L L' e s c k) :
    Lifecycle env (boardOf env L') := by
  -- the committed checkpoint stays in flight, and no other one is
  have hother : ∀ e₁ c₁, e₁ ≠ e → (boardOf env L).checkpoint e₁ = some c₁ →
      c₁.status.isLive = false := by
    intro e₁ c₁ hne hc₁
    by_contra hlive
    rw [Bool.not_eq_false] at hlive
    exact hne (h.eq_of_active hl hm.cursor hm.active.1 hc₁ hlive)
  refine ⟨?_, ?_, ?_⟩
  · intro e₁ c₁ hc₁
    rw [hm.checkpoint_after] at hc₁
    rw [hm.cursor_after]
    split at hc₁
    · rename_i heq
      subst heq
      cases hc₁
      exact ⟨fun _ => ⟨_, rfl, hm.active.1⟩, fun _ => rfl⟩
    · rename_i hne
      rw [hother e₁ c₁ hne hc₁]
      constructor
      · intro hfalse
        cases hfalse
      · rintro ⟨k₁, hk₁, haddress⟩
        cases hk₁
        have haddress := hm.active.1.symm.trans haddress
        exact absurd (GameAccount.checkpoint.inj (hl.address_inj.mp haddress)).symm hne
  · intro k₁ hk₁ _
    rw [hm.cursor_after] at hk₁
    cases hk₁
    exact ⟨e, _, hm.active.1, hm.active.2, by rw [hm.checkpoint_after, if_pos rfl]⟩
  · intro e₁ c₁ k₁ hc₁ _ hs
    rw [hm.checkpoint_after] at hc₁
    split at hc₁
    · cases hc₁
      rcases hs with hs | hs <;> cases hs
    · rename_i hne
      have hfalse := hother e₁ c₁ hne hc₁
      rcases hs with hs | hs <;> rw [hs] at hfalse <;> cases hfalse

theorem ClosesSession.lifecycle (hm : ClosesSession env S L L') :
    Lifecycle env (boardOf env L') := by
  have hcheckpoint : ∀ e', (boardOf env L').checkpoint e' = (boardOf env L).checkpoint e' := by
    intro e'
    rw [hm.track.board]
    simp
  have hcursor : (boardOf env L').cursor = none := by
    rw [hm.track.board]
    simp
  refine ⟨?_, ?_, ?_⟩
  · intro e₁ c₁ hc₁
    rw [hcheckpoint] at hc₁
    rw [hcursor, h.live_iff e₁ c₁ hc₁]
    constructor
    · rintro ⟨k₁, hk₁, haddress⟩
      exact absurd (haddress.symm.trans (hm.idle k₁ hk₁)) (hl.address_ne_default _)
    · rintro ⟨k₁, hk₁, -⟩
      cases hk₁
  · intro k₁ hk₁
    rw [hcursor] at hk₁
    cases hk₁
  · intro e₁ c₁ k₁ _ hk₁
    rw [hcursor] at hk₁
    cases hk₁

/-- **Every move keeps the lifecycle invariant.** -/
theorem lifecycle_of_move (hm : Move env S now actor L L' i) :
    Lifecycle env (boardOf env L') := by
  cases hm with
  | aside side frame =>
    rw [frame.track.board]
    exact h
  | openSession hi move =>
    rw [move.track.board]
    exact h.congr (by simp) (by simp)
  | closeSession move | propose hi move | commit hi move => exact move.lifecycle hl h
  | cancel move | finish move | timeoutRespondent late turn move | reject resolves move =>
    exact h.retire hl move.cursor move.active.1 move.checkpoint_after rfl move.cursor_after
  | openChallenge move =>
    exact h.update move.checkpoint move.checkpoint_after (.inl move.pending) (.inr rfl) rfl
      (by rw [move.track.board]; simp)
  | respond move | bisect move =>
    obtain ⟨deadline, -, htrack⟩ := move.record
    rw [htrack.board]
    exact h.congr (by simp) (by simp)
  | timeoutChallenger late turn move | accept resolves move =>
    exact h.update move.checkpoint move.checkpoint_after (.inr move.challenged) (.inl rfl) rfl
      (by rw [move.track.board]; simp)
  | prove hi track gains =>
    rw [track.board]
    exact h.congr (by simp) (by simp)

end Keeping

/-! ## Statuses -/

/-- The status of the checkpoint at a slot, if there is one. -/
def statusOf (env : Env) (L : Ledger) (e : UInt64) : Option CheckpointStatus :=
  (checkpointOf env L e).map Checkpoint.status

/-- **How a status may change**: along the life of a proposal, and back to its start when
the account of a finished checkpoint is proposed to again. -/
inductive StatusMove (proposed : Prop) : Option CheckpointStatus → Option CheckpointStatus → Prop
  | stay (s : Option CheckpointStatus) : StatusMove proposed s s
  | propose (h : proposed) : StatusMove proposed none (some .pending)
  | challenge : StatusMove proposed (some .pending) (some .challenged)
  | commit : StatusMove proposed (some .pending) (some .committed)
  | cancel : StatusMove proposed (some .pending) (some .cancelled)
  | uphold : StatusMove proposed (some .challenged) (some .pending)
  | reject : StatusMove proposed (some .challenged) (some .invalid)
  | settle : StatusMove proposed (some .committed) (some .settled)
  | repropose (h : proposed) {s : CheckpointStatus} (hs : s.isLive = false) :
      StatusMove proposed (some s) (some .pending)

/-- The instruction proposes a checkpoint at `e`. -/
def Instruction.Proposes (i : Instruction) (e : UInt64) : Prop :=
  ∃ args, i.proposal = some args ∧ args.erSlot = e

section Statuses

variable {proposed : Prop}

theorem statusOf_eq (env : Env) (L : Ledger) (e : UInt64) :
    statusOf env L e = ((boardOf env L).checkpoint e).map Checkpoint.status := by
  rw [statusOf, boardOf_checkpoint]

/-- A move that changes one checkpoint from `c` to `c'`. -/
theorem statusMove_of_update (hc : (boardOf env L).checkpoint e = some c)
    (hcheckpoint : ∀ e', (boardOf env L').checkpoint e' =
      if e' = e then some c' else (boardOf env L).checkpoint e')
    (hmove : StatusMove proposed (some c.status) (some c'.status)) (e' : UInt64) :
    StatusMove proposed (statusOf env L e') (statusOf env L' e') := by
  rw [statusOf_eq, statusOf_eq, hcheckpoint]
  split
  · rename_i heq
    subst heq
    rw [hc]
    exact hmove
  · exact .stay _

theorem statusMove_of_congr
    (hcheckpoint : ∀ e', (boardOf env L').checkpoint e' = (boardOf env L).checkpoint e')
    (e' : UInt64) : StatusMove proposed (statusOf env L e') (statusOf env L' e') := by
  rw [statusOf_eq, statusOf_eq, hcheckpoint]
  exact .stay _

theorem reusableTerminal_not_live (h : reusableTerminal c k) :
    c.status.isLive = false := by
  rcases h with h | h | ⟨h, -⟩ <;> rw [h] <;> rfl

/-- **Every move follows the allowed edges.** -/
theorem statusMove_of_move (hm : Move env S now actor L L' i) (e' : UInt64) :
    StatusMove (i.Proposes e') (statusOf env L e') (statusOf env L' e') := by
  cases hm with
  | aside side frame =>
    rw [statusOf_eq, statusOf_eq, frame.track.board]
    exact .stay _
  | openSession hi move | closeSession move =>
    exact statusMove_of_congr (by rw [move.track.board]; simp) e'
  | propose hi move =>
    obtain ⟨deadline, bump, -, rfl⟩ := move.record
    rw [statusOf_eq, statusOf_eq, move.checkpoint_after]
    split
    · rename_i heq
      subst heq
      rcases move.reuse with hnone | ⟨previous, hprevious, hreusable⟩
      · rw [hnone]
        exact .propose ⟨_, hi, rfl⟩
      · rw [hprevious]
        exact .repropose ⟨_, hi, rfl⟩ (reusableTerminal_not_live hreusable)
    · exact .stay _
  | commit hi move =>
    exact statusMove_of_update move.checkpoint move.checkpoint_after (move.pending ▸ .commit) e'
  | cancel move =>
    exact statusMove_of_update move.checkpoint move.checkpoint_after (move.pending ▸ .cancel) e'
  | finish move =>
    exact statusMove_of_update move.checkpoint move.checkpoint_after (move.committed ▸ .settle) e'
  | openChallenge move =>
    exact statusMove_of_update move.checkpoint move.checkpoint_after (move.pending ▸ .challenge) e'
  | respond move | bisect move =>
    obtain ⟨deadline, -, htrack⟩ := move.record
    exact statusMove_of_congr (by rw [htrack.board]; simp) e'
  | timeoutRespondent late turn move | reject resolves move =>
    exact statusMove_of_update move.checkpoint move.checkpoint_after (move.challenged ▸ .reject) e'
  | timeoutChallenger late turn move | accept resolves move =>
    exact statusMove_of_update move.checkpoint move.checkpoint_after (move.challenged ▸ .uphold) e'
  | prove hi track gains => exact statusMove_of_congr (by rw [track.board]; simp) e'

theorem StatusMove.imp {proposed' : Prop} (h : proposed → proposed')
    {s s' : Option CheckpointStatus} (hm : StatusMove proposed s s') :
    StatusMove proposed' s s' := by
  cases hm with
  | stay => exact .stay _
  | propose hp => exact .propose (h hp)
  | challenge => exact .challenge
  | commit => exact .commit
  | cancel => exact .cancel
  | uphold => exact .uphold
  | reject => exact .reject
  | settle => exact .settle
  | repropose hp hs => exact .repropose (h hp) hs

theorem statusMove_of_event (hl : env.Lawful) (hs : Sound env L) {event : Event}
    (ha : Admissible env L event) (e : UInt64) :
    StatusMove (∃ c, event = .call c ∧ c.instruction.Proposes e) (statusOf env L e)
      (statusOf env (exec env L event) e) := by
  rcases step_of_event hl hs ha with ⟨c, rfl, -, hmove⟩ | ⟨hframe, -⟩
  · exact (statusMove_of_move hmove e).imp fun hproposes => ⟨c, rfl, hproposes⟩
  · exact statusMove_of_congr (fun e' => by rw [hframe.track.board]; rfl) e

end Statuses

/-! ## The committed chain -/

/-- The checkpoints committed in a session, after one more instruction that led to `L'`. A
commitment adds to them; closing the session ends them. -/
def Instruction.logAfter (env : Env) (L' : Ledger) (log : List Checkpoint) :
    Instruction → List Checkpoint
  | .commitCheckpoint e | .commitCheckpointV2 e => log ++ (checkpointOf env L' e).toList
  | .closeSession => []
  | _ => log

/-- The same after one more event. -/
def logAfter (env : Env) (L : Ledger) (log : List Checkpoint) : Event → List Checkpoint
  | .call c => match c.result env L with
    | .ok L' => c.instruction.logAfter env L' log
    | .error _ => log
  | .other _ => log

/-- **The committed checkpoints** of the session under way, in order. -/
def commitLog (env : Env) (L₀ : Ledger) (events : List Event) : List Checkpoint :=
  (Runs.run (Runs.ghost (exec env) (logAfter env)) (L₀, []) events).2

/-- `d` continues `c`: at a later slot, from the root `c` ended in. -/
def Checkpoint.Continues (c d : Checkpoint) : Prop :=
  c.erSlot < d.erSlot ∧ d.previousStateRoot = c.newStateRoot

/-- The cursor remembers the end of the committed chain. -/
def Remembers (B : Board) : Option Checkpoint → Prop
  | none => ∀ k, B.cursor = some k → k.latestFinalizedCheckpoint = zero32
  | some c => ∃ k, B.cursor = some k ∧ k.latestFinalizedCheckpoint ≠ zero32 ∧
      k.latestFinalizedErSlot = c.erSlot ∧ k.latestFinalizedStateRoot = c.newStateRoot

/-- **Chain invariant**: the log is a chain, and the cursor remembers its end. -/
structure Chained (env : Env) (L : Ledger) (log : List Checkpoint) : Prop where
  chain : log.IsChain Checkpoint.Continues
  last : Remembers (boardOf env L) log.getLast?

section Chain

variable {log : List Checkpoint} {i : Instruction}

/-- A cursor that keeps what it remembers of the chain. -/
theorem Remembers.congr (h : Remembers B o) (hk : B.cursor = some k) (hk' : B'.cursor = some k')
    (hkey : k'.latestFinalizedCheckpoint = k.latestFinalizedCheckpoint)
    (hslot : k'.latestFinalizedErSlot = k.latestFinalizedErSlot)
    (hroot : k'.latestFinalizedStateRoot = k.latestFinalizedStateRoot) : Remembers B' o := by
  cases o with
  | none =>
    intro k₁ hk₁
    rw [hk'] at hk₁
    cases hk₁
    rw [hkey]
    exact h k hk
  | some c =>
    obtain ⟨k₁, hk₁, hne, hslot₁, hroot₁⟩ := h
    rw [hk] at hk₁
    cases hk₁
    exact ⟨k', hk', hkey ▸ hne, hslot.trans hslot₁, hroot.trans hroot₁⟩

theorem Remembers.of_cursor_eq (h : Remembers B o) (hcursor : B'.cursor = B.cursor) :
    Remembers B' o := by
  cases o with
  | none => exact fun k hk => h k (hcursor ▸ hk)
  | some c =>
    obtain ⟨k, hk, hrest⟩ := h
    exact ⟨k, hcursor.trans hk, hrest⟩

theorem Proposes.chained (h : Chained env L log) (hm : Proposes env S now actor L L' args s k c) :
    Chained env L' log := by
  refine ⟨h.chain, ?_⟩
  rcases hm.cursor with hk | ⟨hnone, rfl⟩
  · exact h.last.congr hk hm.cursor_after rfl rfl rfl
  · -- a chain has a cursor that remembers it, so there is none yet
    have hlast := h.last
    cases hlog : log.getLast? with
    | none =>
      intro k₁ hk₁
      rw [hm.cursor_after] at hk₁
      cases hk₁
      rfl
    | some d =>
      rw [hlog] at hlast
      obtain ⟨k₁, hk₁, -⟩ := hlast
      rw [hnone] at hk₁
      cases hk₁

theorem Commits.chained (hl : env.Lawful) (h : Chained env L log)
    (hm : Commits env S now L L' e s c k) (hc' : (boardOf env L').checkpoint e = some c') :
    Chained env L' (log ++ [c']) := by
  have hslot : c.erSlot = e := by
    have hc := hm.checkpoint
    rw [boardOf_checkpoint, checkpointOf_eq_some] at hc
    exact hc.2.2.2
  rw [hm.checkpoint_after, if_pos rfl] at hc'
  cases hc'
  refine ⟨?_, ?_⟩
  · rw [List.isChain_append]
    refine ⟨h.chain, List.isChain_singleton _, fun d hd c₁ hc₁ => ?_⟩
    cases hc₁
    have hlast := h.last
    rw [Option.mem_def.mp hd] at hlast
    obtain ⟨k₁, hk₁, hne, hslot₁, hroot₁⟩ := hlast
    rw [hm.cursor] at hk₁
    cases hk₁
    refine ⟨?_, ?_⟩
    · rw [← hslot₁, hslot]
      exact hm.advance.2
    · rw [← hroot₁]
      exact hm.root.resolve_left hne
  · rw [List.getLast?_append_of_ne_nil _ (by simp), List.getLast?_singleton]
    exact ⟨_, hm.cursor_after, hl.address_ne_default (.checkpoint e), hslot.symm, rfl⟩

/-- An instruction that leaves cursor and log alone. -/
theorem Chained.congr (h : Chained env L log)
    (hcursor : (boardOf env L').cursor = (boardOf env L).cursor)
    (hi : i.logAfter env L' log = log) : Chained env L' (i.logAfter env L' log) := by
  rw [hi]
  exact ⟨h.chain, h.last.of_cursor_eq hcursor⟩

/-- An instruction that finishes the checkpoint in flight. -/
theorem Chained.clearActive (h : Chained env L log) (hk : (boardOf env L).cursor = some k)
    (hk' : (boardOf env L').cursor = some k.clearActive) :
    Chained env L' log :=
  ⟨h.chain, h.last.congr hk hk' rfl rfl rfl⟩

/-- **Every move keeps the chain.** -/
theorem chained_of_move (hl : env.Lawful) (h : Chained env L log)
    (hm : Move env S now actor L L' i) : Chained env L' (i.logAfter env L' log) := by
  cases hm with
  | aside side frame =>
    refine h.congr (by rw [frame.track.board]; rfl) ?_
    cases i <;> first | rfl | cases side
  | openSession hi move =>
    refine h.congr (by rw [move.track.board]; simp) ?_
    cases i <;> first | rfl | cases hi
  | closeSession move =>
    refine ⟨List.isChain_nil, fun k hk => ?_⟩
    rw [move.track.board] at hk
    simp at hk
  | propose hi move =>
    have hlog : i.logAfter env L' log = log := by cases i <;> first | rfl | cases hi
    rw [hlog]
    exact move.chained h
  | @commit _ e s c k hi move =>
    obtain ⟨c', hc'⟩ : ∃ c', (boardOf env L').checkpoint e = some c' := by
      rw [move.checkpoint_after, if_pos rfl]
      exact ⟨_, rfl⟩
    have hlog : i.logAfter env L' log = log ++ [c'] := by
      rw [boardOf_checkpoint] at hc'
      cases i <;> cases hi <;> simp [Instruction.logAfter, hc']
    rw [hlog]
    exact move.chained hl h hc'
  | cancel move | finish move | timeoutRespondent late turn move | reject resolves move =>
    exact h.clearActive move.cursor move.cursor_after
  | openChallenge move | timeoutChallenger late turn move | accept resolves move =>
    exact h.congr (by rw [move.track.board]; simp) rfl
  | respond move | bisect move =>
    obtain ⟨deadline, -, htrack⟩ := move.record
    exact h.congr (by rw [htrack.board]; simp) rfl
  | prove hi track gains =>
    refine h.congr (by rw [track.board]; simp) ?_
    cases i <;> first | rfl | cases hi

theorem chained_of_event (hl : env.Lawful) (hs : Sound env L) (ha : Admissible env L event)
    (h : Chained env L log) :
    Chained env (exec env L event) (logAfter env L log event) := by
  rcases step_of_event hl hs ha with ⟨c, rfl, hresult, hmove⟩ | ⟨hframe, hfailed⟩
  · have hlog : logAfter env L log (.call c) =
        c.instruction.logAfter env (exec env L (.call c)) log := by
      rw [logAfter, hresult]
    rw [hlog]
    exact chained_of_move hl h hmove
  · have hlog : logAfter env L log event = log := by
      cases event with
      | call c =>
        obtain ⟨e, he⟩ := hfailed c rfl
        rw [logAfter, he]
      | other after => rfl
    rw [hlog]
    exact ⟨h.chain, h.last.of_cursor_eq (by rw [hframe.track.board]; rfl)⟩

/-- The slots of a chain increase throughout. -/
theorem increasing_of_chain (h : log.IsChain Checkpoint.Continues) :
    log.Pairwise (fun c d => c.erSlot < d.erSlot) := by
  have htrans : IsTrans Checkpoint (fun c d => c.erSlot < d.erSlot) :=
    ⟨fun _ _ _ h h' => UInt64.lt_trans h h'⟩
  exact List.isChain_iff_pairwise.mp (h.imp fun _ _ hc => hc.1)

end Chain

/-! ## The whole life -/

section Histories

variable {L₀ : Ledger} {events : List Event}

theorem lifecycle_of_event (hl : env.Lawful) (hs : Sound env L) (ha : Admissible env L event)
    (h : Lifecycle env (boardOf env L)) :
    Lifecycle env (boardOf env (exec env L event)) := by
  rcases step_of_event hl hs ha with ⟨c, -, -, hmove⟩ | ⟨hframe, -⟩
  · exact lifecycle_of_move hl h hmove
  · rw [hframe.track.board]
    exact h

theorem Genesis.lifecycle (h : Genesis env L₀) : Lifecycle env (boardOf env L₀) := by
  have hcheckpoint : ∀ e, (boardOf env L₀).checkpoint e = none := by
    intro e
    rw [Board.checkpoint, h.board_eq_none]
    rfl
  refine ⟨?_, ?_, ?_⟩
  · intro e c hc
    rw [hcheckpoint] at hc
    cases hc
  · intro k hk
    rw [Board.cursor, h.board_eq_none] at hk
    cases hk
  · intro e c k hc
    rw [hcheckpoint] at hc
    cases hc

theorem Genesis.chained (h : Genesis env L₀) : Chained env L₀ [] := by
  refine ⟨List.isChain_nil, fun k hk => ?_⟩
  rw [Board.cursor, h.board_eq_none] at hk
  cases hk

theorem History.lifecycle (hl : env.Lawful) (h : History env L₀ events) :
    Lifecycle env (boardOf env (ledgerAfter env L₀ events)) :=
  History.induction hl (fun hg => hg.lifecycle)
    (fun _ _ hs ha hL => lifecycle_of_event hl hs ha hL) h

theorem History.chained (hl : env.Lawful) (h : History env L₀ events) :
    Chained env (ledgerAfter env L₀ events) (commitLog env L₀ events) :=
  History.ghost_induction hl (fun hg => hg.chained)
    (fun _ _ _ hs ha hL => chained_of_event hl hs ha hL) h

/-- **The life of checkpoints.** After every history, the checkpoint in flight is exactly
the one the cursor points to, so there is at most one; the next event moves statuses along
the allowed edges only; and the checkpoints committed in the session form a chain of
increasing slots, each starting from the root the one before ended in, which the open
proposal continues as well. -/
theorem checkpoint_lifecycle (hl : env.Lawful) (h : History env L₀ events) :
    (∀ e c, checkpointOf env (ledgerAfter env L₀ events) e = some c →
      (c.status.isLive = true ↔ ∃ k, cursorOf env (ledgerAfter env L₀ events) = some k ∧
        k.activeCheckpoint = env.address (.checkpoint e))) ∧
    (∀ k, cursorOf env (ledgerAfter env L₀ events) = some k → k.activeCheckpoint ≠ zero32 →
      ∃ e c, k.activeCheckpoint = env.address (.checkpoint e) ∧ k.activeErSlot = e ∧
        checkpointOf env (ledgerAfter env L₀ events) e = some c ∧ c.status.isLive = true) ∧
    (∀ e e' c c', checkpointOf env (ledgerAfter env L₀ events) e = some c →
      checkpointOf env (ledgerAfter env L₀ events) e' = some c' →
      c.status.isLive = true → c'.status.isLive = true → e = e') ∧
    (∀ event, Admissible env (ledgerAfter env L₀ events) event → ∀ e,
      StatusMove (∃ c, event = .call c ∧ c.instruction.Proposes e)
        (statusOf env (ledgerAfter env L₀ events) e)
        (statusOf env (exec env (ledgerAfter env L₀ events) event) e)) ∧
    (commitLog env L₀ events).IsChain Checkpoint.Continues ∧
    (commitLog env L₀ events).Pairwise (fun c d => c.erSlot < d.erSlot) ∧
    (∀ e c d, checkpointOf env (ledgerAfter env L₀ events) e = some c →
      c.status = .pending ∨ c.status = .challenged → (commitLog env L₀ events).getLast? = some d →
      d.Continues c) := by
  have hlife := h.lifecycle hl
  have hchain := h.chained hl
  have hsound := h.sound hl
  generalize ledgerAfter env L₀ events = L at hlife hchain hsound ⊢
  generalize commitLog env L₀ events = log at hchain ⊢
  simp only [← boardOf_checkpoint, ← boardOf_cursor]
  refine ⟨hlife.live_iff, ?_, ?_, ?_, hchain.chain, ?_, ?_⟩
  · intro k hk hne
    obtain ⟨e, c, hactive, hslot, hc⟩ := hlife.active k hk hne
    exact ⟨e, c, hactive, hslot, hc, (hlife.live_iff e c hc).mpr ⟨k, hk, hactive⟩⟩
  · intro e e' c c' hc hc' hlive hlive'
    obtain ⟨k, hk, hactive⟩ := (hlife.live_iff e' c' hc').mp hlive'
    exact hlife.eq_of_active hl hk hactive hc hlive
  · intro event ha e
    exact statusMove_of_event hl hsound ha e
  · exact increasing_of_chain hchain.chain
  · intro e c d hc hopen hd
    have hlast := hchain.last
    rw [hd] at hlast
    obtain ⟨k, hk, hne, hslot, hroot⟩ := hlast
    obtain ⟨hlater, hstart⟩ := hlife.root e c k hc hk hopen
    refine ⟨?_, (hstart.resolve_left hne).trans hroot⟩
    rw [boardOf_checkpoint, checkpointOf_eq_some] at hc
    rw [← hslot, hc.2.2.2]
    exact hlater

/-- A session with one committed checkpoint, whose log the theorem speaks of. -/
theorem checkpoint_lifecycle_committed :
    statusOf localnet (ledgerAfter localnet localLedger (localCommitted.map .call)) 7 =
        some .committed ∧
      (commitLog localnet localLedger (localCommitted.map .call)).map Checkpoint.erSlot = [7] ∧
      (∀ e c, checkpointOf localnet (ledgerAfter localnet localLedger
          (localCommitted.map .call)) e = some c →
        (c.status.isLive = true ↔ ∃ k, cursorOf localnet (ledgerAfter localnet localLedger
            (localCommitted.map .call)) = some k ∧
          k.activeCheckpoint = localnet.address (.checkpoint e))) :=
  ⟨by decide +kernel, by decide +kernel,
    (checkpoint_lifecycle localnet_lawful (localnet_history (by decide +kernel))).1⟩

end Histories

end Northstar.Portal
