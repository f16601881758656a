import Northstar.Settle.SessionMoves

/-!
# The settlement under way

While a settlement is under way, the accumulator of the session is the hash chain of the
effects installed since it began, and the checkpoint it is for stays committed. Once an effect
is hashed the settlement can no longer be aborted, so it ends only by being finished, with
exactly these effects.

## Main definitions

* `effectsAfter`: the effects of the settlement under way
* `Call.messages`: what a call hashes into the accumulator
* `Accumulating`: what holds while a settlement is under way

## Main results

* `committed_of_event`: a committed checkpoint stays committed until its settlement finishes
* `effected_of_event`: every event keeps it
* `Accumulating.not_untouched`: after an effect, the accumulator has left its start
-/

namespace Northstar.Portal

open Bytes Checked

/-! ## Committed checkpoints -/

section Committed

variable {env : Env} {S : Finset Pubkey} {L L' : Ledger} {c c' : Checkpoint}

/-- A move of another checkpoint, or of one that is not committed. -/
theorem committed_of_update (hc : (boardOf env L).checkpoint e' = some c)
    (hcheckpoint : ∀ e, (boardOf env L').checkpoint e =
      if e = e' then some c' else (boardOf env L).checkpoint e)
    (hstatus : c.status ≠ .committed) (h : statusOf env L e = some .committed) :
    statusOf env L' e = some .committed := by
  rw [statusOf_eq] at h ⊢
  rw [hcheckpoint, if_neg]
  · exact h
  · rintro rfl
    rw [hc, Option.map_some, Option.some.injEq] at h
    exact hstatus h

theorem committed_of_congr
    (hcheckpoint : ∀ e, (boardOf env L').checkpoint e = (boardOf env L).checkpoint e)
    (h : statusOf env L e = some .committed) : statusOf env L' e = some .committed := by
  rw [statusOf_eq] at h ⊢
  rw [hcheckpoint]
  exact h

/-- **A committed checkpoint stays committed** until its settlement finishes. -/
theorem committed_of_move (hm : Move env S now actor L L' i)
    (h : statusOf env L e = some .committed) :
    statusOf env L' e = some .committed ∨ ∃ checksum, i = .finishSettlement e checksum := by
  cases hm with
  | aside side frame => exact .inl (committed_of_congr (by rw [frame.track.board]; simp) h)
  | openSession hi move | closeSession move =>
    exact .inl (committed_of_congr (by rw [move.track.board]; simp) h)
  | propose hi move =>
    left
    rw [statusOf_eq] at h ⊢
    rw [move.checkpoint_after, if_neg]
    · exact h
    · rintro rfl
      rcases move.reuse with hnone | ⟨previous, hprevious, hreusable⟩
      · rw [hnone] at h
        cases h
      · rw [hprevious, Option.map_some, Option.some.injEq] at h
        have hlive := reusableTerminal_not_live hreusable
        rw [h] at hlive
        cases hlive
  | commit hi move | cancel move | openChallenge move =>
    exact .inl (committed_of_update move.checkpoint move.checkpoint_after (by simp [move.pending])
      h)
  | @finish slot checksum s c k move =>
    by_cases heq : e = slot
    · subst heq
      exact .inr ⟨checksum, rfl⟩
    · left
      rw [statusOf_eq] at h ⊢
      rw [move.checkpoint_after, if_neg heq]
      exact h
  | respond move | bisect move =>
    obtain ⟨deadline, -, htrack⟩ := move.record
    exact .inl (committed_of_congr (by rw [htrack.board]; simp) h)
  | timeoutRespondent late turn move | reject resolves move | timeoutChallenger late turn move
  | accept resolves move =>
    exact .inl (committed_of_update move.checkpoint move.checkpoint_after
      (by simp [move.challenged]) h)
  | prove hi track gains => exact .inl (committed_of_congr (by rw [track.board]; simp) h)

theorem committed_of_event (hl : env.Lawful) (hs : Sound env L) (ha : Admissible env L event)
    (h : statusOf env L e = some .committed) :
    statusOf env (exec env L event) e = some .committed ∨ ∃ call checksum, event = .call call ∧
      call.instruction = .finishSettlement e checksum ∧
      call.result env L = .ok (exec env L event) := by
  rcases step_of_event hl hs ha with ⟨call, rfl, hresult, hmove⟩ | ⟨hframe, -⟩
  · rcases committed_of_move hmove h with h | ⟨checksum, hi⟩
    · exact .inl h
    · exact .inr ⟨call, checksum, rfl, hi, hresult⟩
  · exact .inl (committed_of_congr (fun e' => by rw [hframe.track.board]; rfl) h)

end Committed

/-! ## The effects so far -/

/-- The settlement part of a session, whatever else the account holds. -/
def baseOf : AccountData → Option Session
  | .session s => some s
  | .sessionV2 frame => some frame.base
  | _ => none

/-- What a call hashes into the accumulator, if it succeeds. -/
def Call.messages (env : Env) (c : Call) (L : Ledger) : List (List UInt8) :=
  match c.instruction with
  | .beginSettlement args => [initialMessage args.erSlot]
  | _ => match parseSession (L (env.address .session)).data with
    | .ok s => hashed env s.settlementAccumulator (c.effects env L)
    | .error _ => []

/-- The effects of the settlement under way, after one more event. -/
def effectsAfter (env : Env) (L : Ledger) (es : List SettlementEffect) :
    Event → List SettlementEffect
  | .call c => match c.result env L with
    | .ok _ => match c.instruction with
      | .beginSettlement _ => []
      | _ => es ++ c.effects env L
    | .error _ => es
  | .other _ => es

/-- The event, if it is a call that succeeds, hashes messages of `M` alone. -/
def HashesIn (env : Env) (M : Set (List UInt8)) (L : Ledger) : Event → Prop
  | .call c => (c.result env L).isOk = true → ∀ m ∈ c.messages env L, m ∈ M
  | .other _ => True

/-- **A settlement under way**: its checkpoint is committed, and the accumulator is the hash
chain of the effects `es`, whose messages are in `M`. -/
structure Accumulating (env : Env) (M : Set (List UInt8)) (L : Ledger) (es : List SettlementEffect)
    (s : Session) : Prop where
  committed : statusOf env L s.settlementErSlot = some .committed
  accumulator : s.settlementAccumulator =
    digest env (initialSettlementChecksum env s.settlementErSlot) es
  start : initialMessage s.settlementErSlot ∈ M
  messages : ∀ m ∈ hashed env (initialSettlementChecksum env s.settlementErSlot) es, m ∈ M

/-- If a settlement is under way, the effects `es` are its effects. -/
def Effected (env : Env) (M : Set (List UInt8)) (L : Ledger) (es : List SettlementEffect) : Prop :=
  ∀ s, parseSession (L (env.address .session)).data = .ok s → s.settlementStatus = .inProgress →
    Accumulating env M L es s

section UnderWay

variable {env : Env} {M : Set (List UInt8)} {L L' : Ledger} {es : List SettlementEffect}
  {s : Session} {c : Call}

theorem Call.effects_of_not_settles (hi : c.instruction.settles = false) :
    c.effects env L = [] := by
  obtain ⟨now, accounts, i⟩ := c
  cases i <;> first | rfl | cases hi

theorem effectsAfter_of_ok (hi : c.instruction.steers = false) (h : c.result env L = .ok L') :
    effectsAfter env L es (.call c) = es ++ c.effects env L := by
  obtain ⟨now, accounts, i⟩ := c
  cases i <;> simp only [Instruction.steers, reduceCtorEq] at hi <;> simp only [effectsAfter, h]

theorem effectsAfter_of_begin (hi : c.instruction = .beginSettlement args)
    (h : c.result env L = .ok L') :
    effectsAfter env L es (.call c) = [] := by
  simp only [effectsAfter, h, hi]

/-- **After an effect, the accumulator has left its start**: the settlement cannot be aborted. -/
theorem Accumulating.not_untouched (h : Accumulating env M L es s) (hinj : Set.InjOn env.sha256 M)
    (hne : es ≠ []) :
    s.settlementAccumulator ≠ initialSettlementChecksum env s.settlementErSlot := by
  intro heq
  refine hne (digest_injective (hinj.mono ?_) (h.accumulator.symm.trans heq))
  rintro m (rfl | hm | hm)
  · exact h.start
  · exact h.messages m hm
  · cases hm

/-- One more effect of the settlement. -/
theorem Accumulating.append (h : Accumulating env M L es s)
    (hslot : s'.settlementErSlot = s.settlementErSlot)
    (hacc : s'.settlementAccumulator = digest env s.settlementAccumulator more)
    (hstatus : statusOf env L' s.settlementErSlot = some .committed)
    (hM : ∀ m ∈ hashed env s.settlementAccumulator more, m ∈ M) :
    Accumulating env M L' (es ++ more) s' where
  committed := by rw [hslot, hstatus]
  accumulator := by rw [hslot, hacc, h.accumulator, digest_append]
  start := by
    rw [hslot]
    exact h.start
  messages m hm := by
    rw [hslot] at hm
    unfold hashed at hm
    rw [HashChain.messages_append, List.mem_append] at hm
    rcases hm with hm | hm
    · exact h.messages m hm
    · refine hM m ?_
      rw [h.accumulator]
      exact hm

theorem Effected.of_parse (h : Effected env M L es)
    (hparses : ∀ s, parseSession (L' (env.address .session)).data = .ok s →
      parseSession (L (env.address .session)).data = .ok s)
    (hstatus : ∀ e, statusOf env L e = some .committed → statusOf env L' e = some .committed) :
    Effected env M L' es := by
  intro s hparse hactive
  have hs := h s (hparses s hparse) hactive
  exact ⟨hstatus _ hs.committed, hs.accumulator, hs.start, hs.messages⟩

/-- A session that is written as idle settles nothing. -/
theorem Effected.of_idle (hwritten : writeSession d s = .ok (L' (env.address .session)).data)
    (hidle : s.settlementStatus ≠ .inProgress) :
    Effected env M L' es := by
  intro s' hparse hactive
  rw [parseSession_of_writeSession hwritten, Except.ok.injEq] at hparse
  subst hparse
  exact absurd hactive hidle

theorem messages_of_settles (hi : c.instruction.settles = true)
    (hparse : parseSession (L (env.address .session)).data = .ok s) :
    c.messages env L = hashed env s.settlementAccumulator (c.effects env L) := by
  obtain ⟨now, accounts, i⟩ := c
  cases i <;> simp only [Instruction.settles, reduceCtorEq] at hi <;>
    simp only [Call.messages, hparse]

/-- A call that ends no settlement keeps what is committed. -/
theorem committed_of_steady (hl : env.Lawful) (hs : Sound env L)
    (ha : Admissible env L (.call c)) (h : c.result env L = .ok L')
    (hi : ∀ e checksum, c.instruction ≠ .finishSettlement e checksum) (e : UInt64)
    (he : statusOf env L e = some .committed) : statusOf env L' e = some .committed := by
  rcases committed_of_event hl hs ha he with hkeep | ⟨call, checksum, hcall, hfinish, -⟩
  · rwa [exec_call_of_ok h] at hkeep
  · cases hcall
    exact absurd hfinish (hi e checksum)

theorem parseSession_sessionV2 :
    parseSession (.sessionV2 frame) = .ok s ↔ frame.IsValid ∧ frame.base = s := by
  simp only [parseSession, chain_ok]

theorem baseOf_of_parseSession (h : parseSession d = .ok s) :
    baseOf d = some s := by
  cases d with
  | session s' =>
    cases h
    rfl
  | sessionV2 frame =>
    obtain ⟨-, rfl⟩ := parseSession_sessionV2.mp h
    rfl
  | _ => cases h

/-- **Successful calls keep the effects of the settlement under way.** -/
theorem effected_of_result (hl : env.Lawful) (hs : Sound env L)
    (ha : Admissible env L (.call c)) (h : Effected env M L es) (hresult : c.result env L = .ok L')
    (hM : ∀ m ∈ c.messages env L, m ∈ M) :
    Effected env M L' (effectsAfter env L es (.call c)) := by
  have hmove := sessionMove_of_result hl hs (Call.named ha subset_rfl) hresult
  have hkeep := committed_of_steady hl hs ha hresult
  generalize hd : (L (env.address .session)).data = d at hmove
  generalize hd' : (L' (env.address .session)).data = d' at hmove
  cases hmove with
  | stay hi steady =>
    have heffects : c.effects env L = [] := by
      cases hsettles : c.instruction.settles with
      | true => exact hi hsettles
      | false => exact Call.effects_of_not_settles hsettles
    rw [effectsAfter_of_ok steady hresult, heffects, List.append_nil]
    refine h.of_parse (fun s => by rw [hd', hd]; exact id) (hkeep ?_)
    intro e checksum hfinish
    rw [hfinish] at steady
    cases steady
  | opened hi payer bump =>
    intro s hparse hactive
    rw [hd'] at hparse
    cases hparse
    cases hactive
  | openedV2 hi payer nonce bump =>
    intro s hparse hactive
    rw [hd'] at hparse
    obtain ⟨-, rfl⟩ := parseSession_sessionV2.mp hparse
    cases hactive
  | closed hi idle =>
    intro s hparse hactive
    rw [hd'] at hparse
    cases hparse
  | @begun args s₀ _ _ hi loaded idle committed written =>
    -- a settlement begins with no effects
    intro s hparse hactive
    rw [hd', parseSession_of_writeSession written] at hparse
    cases hparse
    rw [effectsAfter_of_begin hi hresult]
    refine ⟨?_, rfl, hM _ ?_, fun m hm => by cases hm⟩
    · exact hkeep (fun e checksum hfinish => by rw [hi] at hfinish; cases hfinish) _ committed
    · simp only [Call.messages, hi, List.mem_singleton]
      rfl
  | @accumulated s₀ _ _ hi loaded active written =>
    -- the effects of the call are hashed
    intro s hparse hactive
    rw [hd', parseSession_of_writeSession written] at hparse
    cases hparse
    have hsteady : c.instruction.steers = false := by
      revert hi
      cases c.instruction <;> simp [Instruction.settles, Instruction.steers]
    rw [effectsAfter_of_ok hsteady hresult]
    have hbefore := h s₀ (by rw [hd]; exact loaded) active
    refine hbefore.append rfl rfl (hkeep ?_ _ hbefore.committed) ?_
    · intro e checksum hfinish
      rw [hfinish] at hsteady
      cases hsteady
    · rw [← messages_of_settles hi (by rw [hd]; exact loaded)]
      exact hM
  | finished hi loaded active slot expected reached committed written
  | aborted hi loaded active untouched written =>
    rw [← hd'] at written
    exact .of_idle written (by simp [Session.clearSettlement])
  | @appended frame context sequence payload bump state hi valid bound next record =>
    have hsettles : c.instruction.settles = false ∧ c.instruction.steers = false := by
      revert hi
      cases c.instruction <;> simp [Instruction.appends, Instruction.settles, Instruction.steers]
    rw [effectsAfter_of_ok hsettles.2 hresult, Call.effects_of_not_settles hsettles.1,
      List.append_nil]
    refine h.of_parse (fun s hparse => ?_) (hkeep fun e checksum hfinish => ?_)
    · rw [hd', parseSession_sessionV2] at hparse
      rw [hd, parseSession_sessionV2]
      exact ⟨valid, hparse.2⟩
    · rw [hfinish] at hi
      cases hi
  | @consumed e frame binding hi valid recorded continues known context =>
    have hsettles : c.instruction.settles = false ∧ c.instruction.steers = false := by
      rw [hi]
      exact ⟨rfl, rfl⟩
    rw [effectsAfter_of_ok hsettles.2 hresult, Call.effects_of_not_settles hsettles.1,
      List.append_nil]
    refine h.of_parse (fun s hparse => ?_) (hkeep fun e checksum hfinish => ?_)
    · rw [hd', parseSession_sessionV2] at hparse
      rw [hd, parseSession_sessionV2]
      exact ⟨valid, hparse.2⟩
    · rw [hi] at hfinish
      cases hfinish

/-- **Every event keeps the effects** of the settlement under way. -/
theorem effected_of_event (hl : env.Lawful) (hs : Sound env L) (ha : Admissible env L event)
    (hM : HashesIn env M L event) (h : Effected env M L es) :
    Effected env M (exec env L event) (effectsAfter env L es event) := by
  cases event with
  | other after =>
    have hsame := (spared_of_other hl.beside_session ha).data
    refine h.of_parse (fun s => (congrArg parseSession hsame.symm).trans) fun e he => ?_
    rcases committed_of_event hl hs ha he with hkeep | ⟨call, checksum, hcall, -⟩
    · exact hkeep
    · cases hcall
  | call c =>
    cases hresult : c.result env L with
    | error e =>
      rw [exec_call_of_error hresult]
      simp only [effectsAfter, hresult]
      exact h
    | ok L' =>
      rw [exec_call_of_ok hresult]
      refine effected_of_result hl hs ha h hresult (hM ?_)
      rw [hresult]
      rfl

end UnderWay

end Northstar.Portal
