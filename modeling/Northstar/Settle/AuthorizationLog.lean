import Northstar.Game.Devnet
import Northstar.Settle.Authorizations
import Northstar.Settle.UnderWay

/-!
# The life of an authorization

A token withdrawal is accumulated into the settlement of a checkpoint, which creates its
authorization. Once the settlement has finished, the registered bridge consumes it.

The automaton `AuthorizationState.step` says in which order this may happen. The main result
is that every history follows it: the log of what happened to one authorization is a run of
the automaton.

## Main definitions

* `AuthorizationEntry`, `AuthorizationState.step`: what may happen, and when
* `authorizationLog`: what happened to an authorization in a history

## Main results

* `authorization_follows`: every history follows the automaton
-/

namespace Northstar.Portal

open Bytes Checked

variable (env : Env)

/-! ## The automaton -/

/-- What happens to an authorization, and to the settlement of its checkpoint. -/
inductive AuthorizationEntry
  | accumulated (tuple : TokenWithdrawalChecksum)
  | finished (effects : List SettlementEffect)
  | consumed (tuple : TokenWithdrawalChecksum)
  deriving DecidableEq

/-- The states of an authorization: created by a settlement under way, ready once that has
finished, and spent. -/
inductive AuthorizationState
  | absent
  | pending (tuple : TokenWithdrawalChecksum)
  | ready (tuple : TokenWithdrawalChecksum)
  | spent (tuple : TokenWithdrawalChecksum)
  deriving DecidableEq

/-- **What may happen**: one accumulation, of a tuple that is among the effects with which
the settlement finishes, and after that one consumption of the same tuple. -/
def AuthorizationState.step : AuthorizationState → AuthorizationEntry → Option AuthorizationState
  | absent, .accumulated t => some (pending t)
  | absent, .finished _ => some absent
  | pending t, .finished es => if .tokenWithdrawal t ∈ es then some (ready t) else none
  | ready t, .finished _ => some (ready t)
  | ready t, .consumed t' => if t' = t then some (spent t) else none
  | spent t, .finished _ => some (spent t)
  | _, _ => none

/-! ## The log -/

/-- The authorization that a call accumulates or consumes. -/
def Call.authorization (c : Call) : Option Pubkey :=
  match c.instruction with
  | .accumulateTokenWithdrawal _ => c.accounts[9]?.map AccountMeta.address
  | .consumeTokenWithdrawal _ => c.accounts[3]?.map AccountMeta.address
  | _ => none

/-- The tuple of a withdrawal by the bridge that is registered for it. -/
def TokenWithdrawal.tupleOn (args : TokenWithdrawal) (env : Env) (L : Ledger) (session : Pubkey)
    (accounts : TokenWithdrawalAccounts) : Option TokenWithdrawalChecksum :=
  (loadBridge env L session accounts.sessionBridge.address accounts.vault.address
    accounts.mint.address accounts.tokenProgram.address).toOption.map (args.tuple accounts)

/-- The tuple that a call accumulates or consumes. -/
def Call.tuple (c : Call) (L : Ledger) : Option TokenWithdrawalChecksum :=
  match c.instruction with
  | .accumulateTokenWithdrawal args =>
    match c.accounts with
    | _ :: session :: sessionBridge :: vault :: erTokenAccount :: vaultTokenAccount ::
        destinationTokenAccount :: mint :: tokenProgram :: _ =>
      args.tupleOn env L session.address
        { sessionBridge, vault, erTokenAccount, vaultTokenAccount, destinationTokenAccount, mint,
          tokenProgram }
    | _ => none
  | .consumeTokenWithdrawal args =>
    match c.accounts with
    | _ :: session :: _ :: _ :: sessionBridge :: vault :: erTokenAccount :: vaultTokenAccount ::
        destinationTokenAccount :: mint :: tokenProgram :: _ =>
      args.tupleOn env L session.address
        { sessionBridge, vault, erTokenAccount, vaultTokenAccount, destinationTokenAccount, mint,
          tokenProgram }
    | _ => none
  | _ => none

/-- What a call that succeeds does to the authorization `w` of the checkpoint at `e`, while
`es` are the effects of the settlement under way. An accumulation counts if it has an effect. -/
def Call.authorizationEntry (w : Pubkey) (e : UInt64) (L : Ledger)
    (es : List SettlementEffect) (c : Call) : Option AuthorizationEntry :=
  match c.instruction with
  | .accumulateTokenWithdrawal _ =>
    if c.authorization = some w ∧ c.effects env L ≠ [] then (c.tuple env L).map .accumulated
    else none
  | .finishSettlement e' _ => if e' = e then some (.finished es) else none
  | .consumeTokenWithdrawal _ =>
    if c.authorization = some w then (c.tuple env L).map .consumed else none
  | _ => none

def authorizationEntry (env : Env) (w : Pubkey) (e : UInt64) (L : Ledger)
    (es : List SettlementEffect) : Event → Option AuthorizationEntry
  | .call c => match c.result env L with
    | .ok _ => c.authorizationEntry env w e L es
    | .error _ => none
  | .other _ => none

/-- The effects of the settlement under way and the log, after one more event. -/
def authorizationTrail (w : Pubkey) (e : UInt64) (L : Ledger)
    (trail : List SettlementEffect × List AuthorizationEntry) (event : Event) :
    List SettlementEffect × List AuthorizationEntry :=
  (effectsAfter env L trail.1 event, trail.2 ++ (authorizationEntry env w e L trail.1 event).toList)

/-- **The log** of the authorization `w` of the checkpoint at `e`. -/
def authorizationLog (w : Pubkey) (e : UInt64) (L₀ : Ledger) (events : List Event) :
    List AuthorizationEntry :=
  (Runs.run (Runs.ghost (exec env) (authorizationTrail env w e)) (L₀, ([], [])) events).2.2

/-! ## One authorization -/

/-- Where the authorization of a withdrawal lives. -/
abbrev Env.authorizationOf (e : UInt64) (vault : Pubkey) (n : UInt64) : Pubkey :=
  (findTokenWithdrawalAuthorizationPda env (env.address (.checkpoint e)) vault n).1

/-- The address of an authorization is its own. -/
structure AuthorizationApart (e : UInt64) (vault : Pubkey) (n : UInt64) : Prop where
  beside : Beside env [ascii "token_withdrawal_auth"] (env.authorizationOf e vault n)
  unique : ∀ e' vault' n', env.authorizationOf e' vault' n' = env.authorizationOf e vault n →
    e' = e ∧ vault' = vault ∧ n' = n

/-- What is hashed for the tuple of an authorization. -/
def tupleMessage (t : TokenWithdrawalChecksum) : List UInt8 :=
  (ascii "northstar-token-withdrawal-authorization-v0" :: t.fields).flatten

/-- The event, if it is a call that succeeds, hashes tuples with messages of `M` alone. -/
def TuplesIn (M : Set (List UInt8)) (L : Ledger) : Event → Prop
  | .call c => (c.result env L).isOk = true → ∀ t, c.tuple env L = some t → tupleMessage t ∈ M
  | .other _ => True

/-- The authorization of the tuple `t`. -/
def authorizationRecord (e : UInt64) (vault : Pubkey) (n : UInt64)
    (t : TokenWithdrawalChecksum) (consumed : Bool) : TokenWithdrawalAuthorization :=
  { checkpoint := env.address (.checkpoint e)
    tupleHash := tokenWithdrawalTupleHash env t
    consumed := consumed
    bump := (findTokenWithdrawalAuthorizationPda env (env.address (.checkpoint e)) vault n).2 }

/-- **What the ledger holds** in each state of the authorization. A pending one belongs to the
settlement under way. -/
inductive AuthorizationHolds (env : Env) (M : Set (List UInt8)) (e : UInt64) (vault : Pubkey)
    (n : UInt64) (L : Ledger) (es : List SettlementEffect) : AuthorizationState → Prop
  | absent (data : (L (env.authorizationOf e vault n)).data = .empty) :
      AuthorizationHolds env M e vault n L es .absent
  | pending {t : TokenWithdrawalChecksum} {s : Session}
      (data : (L (env.authorizationOf e vault n)).data =
        .tokenWithdrawalAuthorization (authorizationRecord env e vault n t false))
      (hashed : tupleMessage t ∈ M)
      (session : baseOf (L (env.address .session)).data = some s)
      (active : s.settlementStatus = .inProgress) (slot : s.settlementErSlot = e)
      (effect : .tokenWithdrawal t ∈ es) : AuthorizationHolds env M e vault n L es (.pending t)
  | ready {t : TokenWithdrawalChecksum}
      (data : (L (env.authorizationOf e vault n)).data =
        .tokenWithdrawalAuthorization (authorizationRecord env e vault n t false))
      (hashed : tupleMessage t ∈ M) : AuthorizationHolds env M e vault n L es (.ready t)
  | spent {t : TokenWithdrawalChecksum}
      (data : (L (env.authorizationOf e vault n)).data =
        .tokenWithdrawalAuthorization (authorizationRecord env e vault n t true)) :
      AuthorizationHolds env M e vault n L es (.spent t)

variable {M : Set (List UInt8)} {e n : UInt64} {vault : Pubkey}

section Steps

variable {env} {S : Finset Pubkey} {L L' : Ledger} {es : List SettlementEffect}
  {t t' : TokenWithdrawalChecksum} {c : Call} {s : Session} {event : Event}

theorem tupleMessage_injective : Function.Injective tupleMessage := by
  intro t t' h
  unfold tupleMessage at h
  rw [List.flatten_cons, List.flatten_cons, append_inj_iff rfl] at h
  exact TokenWithdrawalChecksum.fields_inj h.2

/-- The hash of a tuple determines it. -/
theorem tuple_of_hash (hinj : Set.InjOn env.sha256 M) (ht : tupleMessage t ∈ M)
    (ht' : tupleMessage t' ∈ M)
    (h : tokenWithdrawalTupleHash env t = tokenWithdrawalTupleHash env t') : t = t' :=
  tupleMessage_injective (hinj ht ht' h)

/-! ### What calls do -/

/-- An accumulation names its authorization by the withdrawal it is for. -/
theorem accumulation_of_result (hi : c.instruction = .accumulateTokenWithdrawal args)
    (hw : c.authorization = some w) (h : c.result env L = .ok L') : ∃ validator ∈ c.accounts,
      ∃ session authorization accounts s bridge,
      authorization.address = w ∧ c.tuple env L = some (args.tuple accounts bridge) ∧
      accumulateTokenWithdrawal env validator session authorization accounts args L = .ok L' ∧
      Settling env L validator session args.erSlot args.checksum s ∧
      w = env.authorizationOf args.erSlot accounts.vault.address args.withdrawn ∧
      c.effects env L =
        (if (L w).data = .empty then [.tokenWithdrawal (args.tuple accounts bridge)] else []) ∧
      installAuthorization env L validator (env.address .session) s w
        (args.authorization env accounts bridge) (args.tuple accounts bridge) = .ok L' := by
  obtain ⟨now, accounts, i⟩ := c
  cases hi
  simp only [Call.result, processInstruction] at h
  unfold processAccumulateTokenWithdrawal at h
  split at h
  · rename_i validator session sessionBridge tokenVault erTokenAccount vaultTokenAccount
      destinationTokenAccount mint tokenProgram authorization system rest
    obtain rfl : authorization.address = w := by simpa [Call.authorization] using hw
    obtain ⟨s, bridge, hsettling, -, hbridge, hkey, hinstall⟩ :=
      accumulateTokenWithdrawal_eq_ok.mp h
    refine ⟨validator, by simp, session, authorization, _, s, bridge, rfl, ?_, h, hsettling, hkey,
      ?_, hinstall⟩
    · simp only [Call.tuple, TokenWithdrawal.tupleOn, hsettling.address, hbridge,
        Except.toOption, Option.map_some]
    · simp only [Call.effects, withdrawalEffects, hsettling.address, hbridge, Except.toOption]
  · cases h

theorem consumption_of_result (hi : c.instruction = .consumeTokenWithdrawal args)
    (hw : c.authorization = some w) (h : c.result env L = .ok L') :
    ∃ validator session checkpoint authorization accounts bridge,
      authorization.address = w ∧ c.tuple env L = some (args.tuple accounts bridge) ∧
      Consuming env L validator session checkpoint authorization accounts args bridge ∧
      w = env.authorizationOf args.erSlot accounts.vault.address args.withdrawn ∧
      L' = L.setData w (.tokenWithdrawalAuthorization
        { args.authorization env accounts bridge with consumed := true }) := by
  obtain ⟨now, accounts, i⟩ := c
  cases hi
  simp only [Call.result, processInstruction] at h
  unfold processConsumeTokenWithdrawal at h
  split at h
  · rename_i validator session checkpoint authorization sessionBridge tokenVault erTokenAccount
      vaultTokenAccount destinationTokenAccount mint tokenProgram rest
    obtain rfl : authorization.address = w := by simpa [Call.authorization] using hw
    obtain ⟨bridge, hconsuming, rfl⟩ := consumeTokenWithdrawal_eq_ok.mp h
    refine ⟨validator, session, checkpoint, authorization, _, bridge, rfl, ?_, hconsuming, ?_, rfl⟩
    · simp only [Call.tuple, TokenWithdrawal.tupleOn, hconsuming.registered, Except.toOption,
        Option.map_some]
    · rw [hconsuming.derived, hconsuming.place]
  · cases h

/-- Calls that accumulate and consume other authorizations spare this one. -/
theorem spared_authorization (hl : env.Lawful) (hapart : AuthorizationApart env e vault n)
    (ha : Admissible env L (.call c))
    (hu : ∀ r, (L (env.recordOf (env.authorizationOf e vault n))).data ≠ .delegationRecord r)
    (hc : c.authorization ≠ some (env.authorizationOf e vault n))
    (h : c.result env L = .ok L') : Spared env (env.authorizationOf e vault n) L L' := by
  have hn := Call.named ha subset_rfl
  have hsession : env.authorizationOf e vault n ≠ env.address .session :=
    (hl.address_ne_side .session _ (.tokenWithdrawalAuthorization _ _ _)).symm
  by_cases hkind : ascii "token_withdrawal_auth" ∈ c.instruction.sideKinds
  · obtain ⟨now, accounts, i⟩ := c
    simp only [Call.result] at h
    cases i <;> simp only [Instruction.sideKinds, List.mem_cons, List.not_mem_nil, or_false]
      at hkind
    case accumulateTokenWithdrawal args =>
      simp only [processInstruction] at h
      unfold processAccumulateTokenWithdrawal at h
      split at h
      · refine SideStep.spares hapart.beside (sideStep_accumulateTokenWithdrawal hsession.symm
          (hapart.beside.admits (hn _ (by simp))) Scope.counts ?_ h)
        intro _ _ _ _ heq
        exact hc (by simp [Call.authorization, heq])
      · cases h
    case consumeTokenWithdrawal args =>
      simp only [processInstruction] at h
      unfold processConsumeTokenWithdrawal at h
      split at h
      · refine SideStep.spares hapart.beside (sideStep_consumeTokenWithdrawal ?_ h)
        intro _ _ _ _ heq
        exact hc (by simp [Call.authorization, heq])
      · cases h
    all_goals exact absurd hkind (by decide)
  · refine spared_processInstruction hapart.beside hu hn (fun _ => hsession) ?_ h
    intro kind hmem hkinds
    rw [List.mem_singleton] at hkinds
    exact hkind (hkinds ▸ hmem)

/-! ### The settlement of a pending authorization -/

/-- **A pending authorization keeps its settlement**: once its effect is hashed, the
settlement goes on until it finishes. -/
theorem settlement_of_result (hl : env.Lawful) (hs : Sound env L) (ha : Admissible env L (.call c))
    (hinj : Set.InjOn env.sha256 M) (heffected : Effected env M L es)
    (hbase : baseOf (L (env.address .session)).data = some s)
    (hactive : s.settlementStatus = .inProgress) (hmem : effect ∈ es)
    (h : c.result env L = .ok L') :
    (∃ checksum, c.instruction = .finishSettlement s.settlementErSlot checksum) ∨
    ∃ s', baseOf (L' (env.address .session)).data = some s' ∧
      s'.settlementStatus = .inProgress ∧ s'.settlementErSlot = s.settlementErSlot ∧
      effect ∈ effectsAfter env L es (.call c) := by
  have hmove := sessionMove_of_result hl hs (Call.named ha subset_rfl) h
  have hgrows : c.instruction.steers = false → effect ∈ effectsAfter env L es (.call c) := by
    intro hsteady
    rw [effectsAfter_of_ok hsteady h]
    exact List.mem_append_left _ hmem
  have hsame : ∀ {s₀ : Session}, parseSession (L (env.address .session)).data = .ok s₀ → s₀ = s :=
    fun hparse => Option.some.inj ((baseOf_of_parseSession hparse).symm.trans hbase)
  generalize hd : (L (env.address .session)).data = d at hmove hbase hsame
  generalize hd' : (L' (env.address .session)).data = d' at hmove
  cases hmove with
  | stay hi steady => exact .inr ⟨s, hbase, hactive, rfl, hgrows steady⟩
  | opened hi payer bump | openedV2 hi payer nonce bump => cases hbase
  | closed hi idle =>
    cases hbase
    exact absurd hactive idle
  | begun hi loaded idle committed written =>
    cases hsame loaded
    exact absurd hactive idle
  | accumulated hi loaded active written =>
    cases hsame loaded
    refine .inr ⟨_, baseOf_of_parseSession (parseSession_of_writeSession written), hactive, rfl,
      hgrows ?_⟩
    revert hi
    cases c.instruction <;> simp [Instruction.settles, Instruction.steers]
  | @finished slot checksum s₀ _ _ hi loaded active hslot expected reached committed written =>
    cases hsame loaded
    exact .inl ⟨checksum, by rw [hi, hslot]⟩
  | aborted hi loaded active untouched written =>
    -- an abort needs the accumulator of a settlement without effects
    cases hsame loaded
    have haccumulating := heffected s (by rw [hd]; exact loaded) hactive
    exact absurd untouched (haccumulating.not_untouched hinj (List.ne_nil_of_mem hmem))
  | appended hi valid bound next record =>
    cases hbase
    refine .inr ⟨_, rfl, hactive, rfl, hgrows ?_⟩
    revert hi
    cases c.instruction <;> simp [Instruction.appends, Instruction.steers]
  | consumed hi valid recorded continues known context =>
    cases hbase
    exact .inr ⟨_, rfl, hactive, rfl, hgrows (by rw [hi]; rfl)⟩

/-! ### One event -/

section Staying

variable {es' : List SettlementEffect} (h : AuthorizationHolds env M e vault n L es st)
  (hdata : (L' (env.authorizationOf e vault n)).data = (L (env.authorizationOf e vault n)).data)

include h hdata

/-- A state whose log says nothing new. -/
theorem AuthorizationHolds.stay
    (hsettlement : ∀ s effect, baseOf (L (env.address .session)).data = some s → s.settlementStatus
      = .inProgress → s.settlementErSlot = e → effect ∈ es → ∃ s', baseOf (L' (env.address
      .session)).data = some s' ∧ s'.settlementStatus = .inProgress ∧ s'.settlementErSlot = e ∧
      effect ∈ es') : AuthorizationHolds env M e vault n L' es' st := by
  cases h with
  | absent data => exact .absent (hdata.trans data)
  | pending data hashed session active slot effect =>
    obtain ⟨s', hsession, hactive, hslot, heffect⟩ := hsettlement _ _ session active slot effect
    exact .pending (hdata.trans data) hashed hsession hactive hslot heffect
  | ready data hashed => exact .ready (hdata.trans data) hashed
  | spent data => exact .spent (hdata.trans data)

/-- **The settlement of the checkpoint finishes**: what is pending becomes ready. -/
theorem AuthorizationHolds.finish :
    ∃ st', st.step (.finished es) = some st' ∧ AuthorizationHolds env M e vault n L' es' st' := by
  cases h with
  | absent data => exact ⟨_, rfl, .absent (hdata.trans data)⟩
  | pending data hashed session active slot effect =>
    exact ⟨_, if_pos effect, .ready (hdata.trans data) hashed⟩
  | ready data hashed => exact ⟨_, rfl, .ready (hdata.trans data) hashed⟩
  | spent data => exact ⟨_, rfl, .spent (hdata.trans data)⟩

end Staying

/-- The states in which there is an authorization. -/
theorem AuthorizationHolds.absent_of_empty (h : AuthorizationHolds env M e vault n L es st)
    (hempty : (L (env.authorizationOf e vault n)).data = .empty) : st = .absent := by
  cases h with
  | absent data => rfl
  | pending data | ready data | spent data =>
    rw [hempty] at data
    cases data

/-- What storing the session leaves of an account that was written before. -/
theorem data_of_installAuthorization (hw : w ≠ env.address .session) (hempty : (L w).data = .empty)
    (h : installAuthorization env L validator (env.address .session) s w state t = .ok L') :
    (L' w).data = .tokenWithdrawalAuthorization state ∧
      parseSession (L' (env.address .session)).data = .ok { s with
        settlementAccumulator :=
          accumulateTokenWithdrawalChecksum env s.settlementAccumulator t } := by
  unfold installAuthorization at h
  rw [if_pos hempty] at h
  simp only [bind_eq_ok] at h
  obtain ⟨L₁, -, hstore⟩ := h
  refine ⟨?_, parseSession_of_writeSession (data_of_storeSession hstore)⟩
  obtain ⟨d, -, rfl⟩ := storeSession_ok hstore
  rw [Ledger.setData_data, if_neg hw, Ledger.setData_data, if_pos rfl]

/-- Nothing becomes delegated by it. -/
theorem undelegated_of_installAuthorization
    (h : installAuthorization env L validator (env.address .session) s w state t = .ok L')
    (hu : ∀ r, (L a).data ≠ .delegationRecord r) : ∀ r, (L' a).data ≠ .delegationRecord r := by
  intro r
  unfold installAuthorization at h
  split at h
  · simp only [bind_eq_ok] at h
    obtain ⟨L₁, hinit, hstore⟩ := h
    obtain ⟨d, hd, rfl⟩ := storeSession_ok hstore
    rw [Ledger.setData_data]
    split
    · rintro rfl
      cases parseSession_of_writeSession hd
    rw [Ledger.setData_data]
    split
    · nofun
    · rename_i hne
      rw [initializePdaAccount_data hinit hne]
      exact hu r
  · simp only [chain_ok] at h
    obtain ⟨-, -, rfl⟩ := h
    exact hu r

/-- **An accumulation** creates the authorization, or finds it and does nothing. -/
theorem AuthorizationHolds.accumulate (hl : env.Lawful) (hapart : AuthorizationApart env e vault n)
    (hi : c.instruction = .accumulateTokenWithdrawal args)
    (hw : c.authorization = some (env.authorizationOf e vault n))
    (hM : ∀ t, c.tuple env L = some t → tupleMessage t ∈ M)
    (h : AuthorizationHolds env M e vault n L es st) (hresult : c.result env L = .ok L') :
    (∃ t, c.tuple env L = some t ∧ c.effects env L = [.tokenWithdrawal t] ∧ st = .absent ∧
      AuthorizationHolds env M e vault n L' (es ++ [.tokenWithdrawal t]) (.pending t)) ∨
    (c.effects env L = [] ∧ L' = L ∧ (L (env.authorizationOf e vault n)).data ≠ .empty) := by
  obtain ⟨validator, -, session, authorization, accounts, s, bridge, -, htuple, -, hsettling, hkey,
    heffects, hinstall⟩ := accumulation_of_result hi hw hresult
  obtain ⟨hslot, hvault, hn⟩ := hapart.unique _ _ _ hkey.symm
  by_cases hempty : (L (env.authorizationOf e vault n)).data = .empty
  · left
    rw [if_pos hempty] at heffects
    have hne : env.authorizationOf e vault n ≠ env.address .session :=
      (hl.address_ne_side .session _ (.tokenWithdrawalAuthorization _ _ _)).symm
    obtain ⟨hdata, hparse⟩ := data_of_installAuthorization hne hempty hinstall
    refine ⟨_, htuple, heffects, h.absent_of_empty hempty,
      .pending ?_ (hM _ htuple) (baseOf_of_parseSession hparse) hsettling.status ?_
        (List.mem_append_right _ List.mem_cons_self)⟩
    · rw [hdata]
      subst hslot hvault hn
      rfl
    · exact hsettling.slot.symm.trans hslot
  · right
    rw [if_neg hempty] at heffects
    unfold installAuthorization at hinstall
    rw [if_neg hempty] at hinstall
    simp only [chain_ok] at hinstall
    obtain ⟨-, -, rfl⟩ := hinstall
    exact ⟨heffects, rfl, hempty⟩

/-- A settled checkpoint is not committed any more. -/
theorem Consuming.status
    (h : Consuming env L validator session checkpoint authorization accounts args bridge) :
    statusOf env L args.erSlot = some .settled := by
  obtain ⟨record, hdata, hsession, hslot, -, hsettled⟩ := h.settled
  have hload : checkpointOf env L args.erSlot = some record := by
    rw [checkpointOf, toOption_eq_some, loadCheckpoint_eq_ok]
    rw [h.place] at hdata
    refine ⟨rfl, ?_, hdata, hsession.trans h.address, hslot⟩
    rw [← h.place]
    exact h.checkpointOwner
  rw [statusOf, hload, Option.map_some, hsettled]

/-- **A consumption** finds the authorization ready, for the tuple it consumes. -/
theorem AuthorizationHolds.consume (hapart : AuthorizationApart env e vault n)
    (hinj : Set.InjOn env.sha256 M) (heffected : Effected env M L es)
    (hi : c.instruction = .consumeTokenWithdrawal args)
    (hw : c.authorization = some (env.authorizationOf e vault n))
    (hM : ∀ t, c.tuple env L = some t → tupleMessage t ∈ M)
    (h : AuthorizationHolds env M e vault n L es st) (hresult : c.result env L = .ok L') :
    ∃ t st', c.tuple env L = some t ∧ st.step (.consumed t) = some st' ∧
      ∀ es', AuthorizationHolds env M e vault n L' es' st' := by
  obtain ⟨validator, session, checkpoint, authorization, accounts, bridge, haddress, htuple,
    hconsuming, hkey, rfl⟩ := consumption_of_result hi hw hresult
  obtain ⟨hslot, hvault, hn⟩ := hapart.unique _ _ _ hkey.symm
  have hrecorded := hconsuming.recorded
  rw [haddress] at hrecorded
  -- the record found is the one of the withdrawal, not consumed yet
  have hrecord : args.authorization env accounts bridge =
      authorizationRecord env e vault n (args.tuple accounts bridge) false := by
    subst hslot hvault hn
    rfl
  rw [hrecord] at hrecorded ⊢
  cases h with
  | absent data =>
    rw [hrecorded] at data
    cases data
  | spent data =>
    rw [hrecorded, AccountData.tokenWithdrawalAuthorization.injEq] at data
    exact absurd (congrArg TokenWithdrawalAuthorization.consumed data) Bool.false_ne_true
  | pending data hashed hsession active hslot' effect =>
    -- the settlement of a pending authorization has not finished
    obtain ⟨s', hload, -⟩ := hconsuming.signedBy
    have hparse := loadSettlementSession_ok hload
    rw [hconsuming.address] at hparse
    cases Option.some.inj ((baseOf_of_parseSession hparse).symm.trans hsession)
    have hcommitted := (heffected _ hparse active).committed
    rw [hslot', ← hslot, hconsuming.status] at hcommitted
    cases hcommitted
  | @ready t data hashed =>
    rw [hrecorded, AccountData.tokenWithdrawalAuthorization.injEq] at data
    have heq : args.tuple accounts bridge = t := tuple_of_hash hinj (hM _ htuple) hashed
      (congrArg TokenWithdrawalAuthorization.tupleHash data)
    refine ⟨_, .spent t, htuple, if_pos heq, fun es' => .spent ?_⟩
    rw [Ledger.setData_data, if_pos rfl, heq]
    rfl

/-- The log of a history up to now, and what the ledger holds after it. -/
structure AuthorizationInv (env : Env) (M : Set (List UInt8)) (e : UInt64) (vault : Pubkey)
    (n : UInt64) (L : Ledger) (trail : List SettlementEffect × List AuthorizationEntry) :
    Prop where
  undelegated : ∀ r, (L (env.recordOf (env.authorizationOf e vault n))).data ≠ .delegationRecord r
  effected : Effected env M L trail.1
  follows : ∃ st, trail.2.foldlM AuthorizationState.step .absent = some st ∧
    AuthorizationHolds env M e vault n L trail.1 st

variable {trail : List SettlementEffect × List AuthorizationEntry} {args : TokenWithdrawal}
  {w : Pubkey} {st : AuthorizationState} {validator : AccountMeta}

/-- The calls that are about the authorization. -/
theorem Call.authorization_cases (h : c.authorization = some w) :
    (∃ args, c.instruction = .accumulateTokenWithdrawal args) ∨
      ∃ args, c.instruction = .consumeTokenWithdrawal args := by
  obtain ⟨now, accounts, i⟩ := c
  cases i with
  | accumulateTokenWithdrawal args => exact .inl ⟨args, rfl⟩
  | consumeTokenWithdrawal args => exact .inr ⟨args, rfl⟩
  | _ => cases h

/-- Calls that name another authorization have no entry unless they finish the settlement. -/
theorem authorizationEntry_eq_none (hw : c.authorization ≠ some w)
    (hfinish : ∀ checksum, c.instruction ≠ .finishSettlement e checksum) :
    c.authorizationEntry env w e L es = none := by
  unfold Call.authorizationEntry
  split
  · exact if_neg fun h => hw h.1
  · rename_i slot checksum hi
    refine if_neg ?_
    rintro rfl
    exact hfinish checksum hi
  · exact if_neg hw
  · rfl

section Following

variable (hl : env.Lawful) (hapart : AuthorizationApart env e vault n) (hs : Sound env L)
  (ha : Admissible env L (.call c)) (hinj : Set.InjOn env.sha256 M)
  (h : AuthorizationInv env M e vault n L trail)

include hl hapart hs ha hinj h

/-- **Calls of other withdrawals, and the end of the settlement.** -/
theorem follows_of_aside (hw : c.authorization ≠ some (env.authorizationOf e vault n))
    (hresult : c.result env L = .ok L') (hholds : AuthorizationHolds env M e vault n L trail.1 st) :
    ∃ st', (c.authorizationEntry env (env.authorizationOf e vault n) e L trail.1).toList.foldlM
        AuthorizationState.step st = some st' ∧
      AuthorizationHolds env M e vault n L' (effectsAfter env L trail.1 (.call c)) st' := by
  have hspared := spared_authorization hl hapart ha h.undelegated hw hresult
  by_cases hfinish : ∃ checksum, c.instruction = .finishSettlement e checksum
  · obtain ⟨checksum, hi⟩ := hfinish
    obtain ⟨st', hstep, hst'⟩ := hholds.finish hspared.data
    refine ⟨st', ?_, hst'⟩
    simp only [Call.authorizationEntry, hi, if_true, Option.toList_some, List.foldlM_cons, hstep,
      List.foldlM_nil, Option.bind_eq_bind, Option.bind_some, Option.pure_def]
  · rw [authorizationEntry_eq_none hw (fun checksum hi => hfinish ⟨checksum, hi⟩)]
    refine ⟨st, rfl, hholds.stay hspared.data ?_⟩
    rintro s effect hbase hactive rfl hmem
    rcases settlement_of_result hl hs ha hinj h.effected hbase hactive hmem hresult with hi | hgoes
    · exact absurd hi hfinish
    · exact hgoes

/-- **Successful calls follow the automaton.** -/
theorem authorization_of_result (hresult : c.result env L = .ok L')
    (hmessages : ∀ m ∈ c.messages env L, m ∈ M)
    (htuples : ∀ t, c.tuple env L = some t → tupleMessage t ∈ M) :
    AuthorizationInv env M e vault n L' (authorizationTrail env (env.authorizationOf e vault n) e L
      trail (.call c)) := by
  have heffected := effected_of_result hl hs ha h.effected hresult hmessages
  obtain ⟨st, hlog, hholds⟩ := h.follows
  have hentry : authorizationEntry env (env.authorizationOf e vault n) e L trail.1 (.call c) =
      c.authorizationEntry env (env.authorizationOf e vault n) e L trail.1 := by
    simp only [authorizationEntry, hresult]
  -- what the entry of the call makes of the state reached before
  have hextend : ∀ {st'}, (c.authorizationEntry env (env.authorizationOf e vault n) e L
      trail.1).toList.foldlM AuthorizationState.step st = some st' →
      (trail.2 ++ (authorizationEntry env (env.authorizationOf e vault n) e L trail.1
        (.call c)).toList).foldlM AuthorizationState.step .absent = some st' := by
    intro st' hst'
    rw [List.foldlM_append, hlog, hentry]
    exact hst'
  by_cases hw : c.authorization = some (env.authorizationOf e vault n)
  · rcases Call.authorization_cases hw with ⟨args, hi⟩ | ⟨args, hi⟩
    · have hgrows := @effectsAfter_of_ok _ _ _ trail.1 _ (by rw [hi]; rfl) hresult
      rcases hholds.accumulate hl hapart hi hw htuples hresult with
        ⟨t, htuple, heffects, rfl, hpending⟩ | ⟨heffects, rfl, -⟩
      · obtain ⟨validator, -, session, authorization, accounts, s, bridge, -, -, -, -, -, -,
          hinstall⟩ := accumulation_of_result hi hw hresult
        refine ⟨undelegated_of_installAuthorization hinstall h.undelegated, heffected,
          .pending t, hextend ?_, ?_⟩
        · simp only [Call.authorizationEntry, hi, hw, heffects, htuple, true_and, ne_eq,
            reduceCtorEq, not_false_eq_true, if_true, Option.map_some]
          rfl
        · show AuthorizationHolds env M e vault n L' (effectsAfter env L trail.1 (.call c)) _
          rw [hgrows, heffects]
          exact hpending
      · refine ⟨h.undelegated, heffected, st, hextend ?_, ?_⟩
        · simp only [Call.authorizationEntry, hi, heffects, ne_eq, not_true_eq_false, and_false,
            if_false]
          rfl
        · show AuthorizationHolds env M e vault n _ (effectsAfter env _ trail.1 (.call c)) _
          rw [hgrows, heffects, List.append_nil]
          exact hholds
    · obtain ⟨t, st', htuple, hstep, hst'⟩ :=
        hholds.consume hapart hinj h.effected hi hw htuples hresult
      obtain ⟨-, -, -, -, accounts, bridge, -, -, -, -, hafter⟩ :=
        consumption_of_result hi hw hresult
      refine ⟨fun r => ?_, heffected, st', hextend ?_, hst' _⟩
      · rw [hafter, Ledger.setData_data]
        split
        · simp
        · exact h.undelegated r
      · simp only [Call.authorizationEntry, hi, hw, htuple, if_true, Option.map_some,
          Option.toList_some, List.foldlM_cons, hstep, List.foldlM_nil, Option.bind_eq_bind,
          Option.bind_some, Option.pure_def]
  · obtain ⟨st', hst', hholds'⟩ := follows_of_aside hl hapart hs ha hinj h hw hresult hholds
    exact ⟨(spared_authorization hl hapart ha h.undelegated hw hresult).undelegated h.undelegated,
      heffected, st', hextend hst', hholds'⟩

end Following

/-- **Every event follows the automaton.** -/
theorem authorization_of_event (hl : env.Lawful) (hapart : AuthorizationApart env e vault n)
    (hs : Sound env L) (ha : Admissible env L event) (hinj : Set.InjOn env.sha256 M)
    (hM : HashesIn env M L event ∧ TuplesIn env M L event)
    (h : AuthorizationInv env M e vault n L trail) :
    AuthorizationInv env M e vault n (exec env L event)
      (authorizationTrail env (env.authorizationOf e vault n) e L trail event) := by
  have heffected := effected_of_event hl hs ha hM.1 h.effected
  obtain ⟨st, hlog, hholds⟩ := h.follows
  cases event with
  | other after =>
    have hspared := spared_of_other hapart.beside ha
    refine ⟨hspared.undelegated h.undelegated, heffected, st, ?_, hholds.stay hspared.data ?_⟩
    · show (trail.2 ++ []).foldlM AuthorizationState.step .absent = some st
      rw [List.append_nil]
      exact hlog
    · intro s effect hbase hactive hslot hmem
      rw [exec, (spared_of_other hl.beside_session ha).data]
      exact ⟨s, hbase, hactive, hslot, hmem⟩
  | call c =>
    cases hresult : c.result env L with
    | error error =>
      rw [exec_call_of_error hresult] at heffected ⊢
      simp only [authorizationTrail, effectsAfter, authorizationEntry, hresult, Option.toList_none,
        List.append_nil]
      exact h
    | ok L' =>
      rw [exec_call_of_ok hresult]
      have hok : (c.result env L).isOk = true := by
        rw [hresult]
        rfl
      exact authorization_of_result hl hapart hs ha hinj h hresult (hM.1 hok) (hM.2 hok)

end Steps

section Histories

variable {env} {L₀ : Ledger} {events : List Event}

/-- **The life of an authorization**: in every history, what happens to the authorization of
a withdrawal follows the automaton. It is accumulated at most once, and consumed at most once,
after a settlement of its checkpoint has finished with the tuple among its effects, and for
that tuple.

A call that consumes it finds the checkpoint settled and the registered bridge's signature,
and a call that accumulates it again leaves the ledger as it is. -/
theorem authorization_follows (hl : env.Lawful) (hapart : AuthorizationApart env e vault n)
    (h : History env L₀ events) (hstart : (L₀ (env.authorizationOf e vault n)).data = .empty)
    (hu : ∀ r, (L₀ (env.recordOf (env.authorizationOf e vault n))).data ≠ .delegationRecord r)
    (hinj : Set.InjOn env.sha256 M)
    (hM : Runs.Along (exec env)
      (fun L event => HashesIn env M L event ∧ TuplesIn env M L event) L₀ events) :
    (∃ st, (authorizationLog env (env.authorizationOf e vault n) e L₀ events).foldlM
      AuthorizationState.step .absent = some st) ∧
    ∀ (c : Call) (L' : Ledger), c.result env (ledgerAfter env L₀ events) = .ok L' →
      c.authorization = some (env.authorizationOf e vault n) →
      (∀ args, c.instruction = .consumeTokenWithdrawal args →
        ∃ validator session checkpoint authorization accounts bridge,
          authorization.address = env.authorizationOf e vault n ∧
          Consuming env (ledgerAfter env L₀ events) validator session checkpoint authorization
            accounts args bridge) ∧
      (∀ args, c.instruction = .accumulateTokenWithdrawal args →
        (ledgerAfter env L₀ events (env.authorizationOf e vault n)).data ≠ .empty →
        L' = ledgerAfter env L₀ events) := by
  have hinv : AuthorizationInv env M e vault n (ledgerAfter env L₀ events)
      (Runs.run (Runs.ghost (exec env) (authorizationTrail env (env.authorizationOf e vault n) e))
        (L₀, ([], [])) events).2 := by
    refine History.ghost_induction_along hl (fun hgenesis => ?_)
      (fun L trail event hs ha hC hP => authorization_of_event hl hapart hs ha hinj hC hP)
      h hM.ghost
    refine ⟨hu, fun s hparse => ?_, .absent, rfl, .absent hstart⟩
    rw [(hgenesis.vacant .session).1] at hparse
    cases hparse
  refine ⟨?_, fun c L' hresult hw => ⟨fun args hi => ?_, fun args hi hpresent => ?_⟩⟩
  · obtain ⟨st, hlog, -⟩ := hinv.follows
    exact ⟨st, hlog⟩
  · obtain ⟨validator, session, checkpoint, authorization, accounts, bridge, haddress, -,
      hconsuming, -⟩ := consumption_of_result hi hw hresult
    exact ⟨validator, session, checkpoint, authorization, accounts, bridge, haddress, hconsuming⟩
  · obtain ⟨validator, -, session, authorization, accounts, s, bridge, -, -, -, -, -, -,
      hinstall⟩ := accumulation_of_result hi hw hresult
    unfold installAuthorization at hinstall
    rw [if_neg hpresent] at hinstall
    simp only [chain_ok] at hinstall
    exact hinstall.2.2.symm

end Histories

/-! ## On the local deployment -/

/-- Where the authorizations of the vault live. -/
theorem devnet_authorizationOf (e n : UInt64) :
    devnet.authorizationOf e devVault n = tagged 35 (le64 e ++ le64 n) := by
  have hslot : ((tagged 1 (le64 e)).toList.drop 1).take 8 = le64 e := by
    rw [tagged, toList_ofList32, List.drop_one, List.tail_cons, List.take_take,
      Nat.min_eq_left (by decide), List.take_left' (length_le64 e)]
  have htag : devTag [ascii "token_withdrawal_auth", (tagged 1 (le64 e)).toList, devVault.toList,
      le64 n] = 35 := by
    show (if devVault.toList = devVault.toList ∧ (tagged 1 (le64 e)).toList =
      (tagged 1 (((tagged 1 (le64 e)).toList.drop 1).take 8)).toList then (35 : UInt8) else 16) = 35
    rw [hslot, if_pos ⟨rfl, rfl⟩]
  show tagged (devTag [ascii "token_withdrawal_auth", (tagged 1 (le64 e)).toList, devVault.toList,
    le64 n]) (((tagged 1 (le64 e)).toList.drop 1).take 8 ++ le64 n) = _
  rw [htag, hslot]

theorem devnet_authorizationApart (e n : UInt64) : AuthorizationApart devnet e devVault n where
  beside := by
    refine devnet_beside (.tokenWithdrawalAuthorization _ _ _) ?_
    have htag := congrArg tagOf (devnet_authorizationOf e n)
    rw [tagOf_tagged] at htag
    have hdev : devTag [ascii "token_withdrawal_auth", (devnet.address (.checkpoint e)).toList,
      devVault.toList, le64 n] = 35 := htag
    rw [hdev]
    decide
  unique e' vault' n' h := by
    rw [devnet_authorizationOf] at h
    have htag := congrArg tagOf h
    rw [tagOf_tagged] at htag
    -- the tag of the authorizations of the vault is theirs
    have hvault : vault' = devVault := by
      by_contra hne
      have hother : tagOf (devnet.authorizationOf e' vault' n') = 16 := by
        show (if vault'.toList = devVault.toList ∧ _ then (35 : UInt8) else 16) = 16
        rw [if_neg fun hand => hne (toList_inj32.mp hand.1)]
      rw [hother] at htag
      exact absurd htag (by decide)
    subst hvault
    rw [devnet_authorizationOf, tagged_inj] at h
    have hpayload := payload_of_padded (by simp) (by simp) h.2
    rw [le64_append_inj, le64_inj] at hpayload
    exact ⟨hpayload.1, rfl, hpayload.2⟩

/-- A withdrawal of 5 tokens, the first from the vault. -/
def devWithdrawal (checksum : Hash32) : TokenWithdrawal :=
  { erSlot := 7, checksum, amount := 5, withdrawn := 5, decimals := 0 }

/-- The accounts of the withdrawal. -/
def devWithdrawalAccounts : TokenWithdrawalAccounts :=
  { sessionBridge := localNamed devBridge
    vault := ⟨devVault, true, true⟩
    erTokenAccount := localNamed (tagged 82 [])
    vaultTokenAccount := localNamed (tagged 83 [])
    destinationTokenAccount := localNamed (tagged 84 [])
    mint := localNamed (tagged 24 [])
    tokenProgram := localNamed (tagged 18 []) }

def devTuple : TokenWithdrawalChecksum :=
  (devWithdrawal zero32).tuple devWithdrawalAccounts
    { session := devnet.address .session
      mint := tagged 24 []
      bridgeProgram := tagged 81 []
      vault := devVault
      tokenProgram := tagged 18 []
      bump := 255 }

/-- The checksum of the settlement. -/
def devChecksum : Hash32 :=
  digest devnet (initialSettlementChecksum devnet 7) [.tokenWithdrawal devTuple]

def devAccumulating (now : UInt64) : Call :=
  ⟨now, [localWallet 21, devPlace .session, localNamed devBridge, localNamed devVault,
    localNamed (tagged 82 []), localNamed (tagged 83 []), localNamed (tagged 84 []),
    localNamed (tagged 24 []), localNamed (tagged 18 []),
    localNamed (devnet.authorizationOf 7 devVault 5), localNamed systemProgramId],
    .accumulateTokenWithdrawal (devWithdrawal devChecksum)⟩

def devConsuming (now : UInt64) : Call :=
  ⟨now, [localWallet 21, devPlace .session, devPlace (.checkpoint 7),
    localNamed (devnet.authorizationOf 7 devVault 5), localNamed devBridge,
    ⟨devVault, true, true⟩, localNamed (tagged 82 []), localNamed (tagged 83 []),
    localNamed (tagged 84 []), localNamed (tagged 24 []), localNamed (tagged 18 [])],
    .consumeTokenWithdrawal (devWithdrawal zero32)⟩

/-- The withdrawal is accumulated twice, settled and consumed. -/
def devWithdrawn : List Call :=
  devBridged ++ [devBeginning 130 7 devChecksum, devAccumulating 131, devAccumulating 132,
    devFinishing 133 7 devChecksum, devConsuming 134]

/-- What the history hashes. -/
def devMessages : List (List UInt8) :=
  [initialMessage 7,
    SettlementEffect.message (initialSettlementChecksum devnet 7) (.tokenWithdrawal devTuple),
    tupleMessage devTuple]

instance (l : List (List UInt8)) (L : Ledger) (event : Event) :
    Decidable (HashesIn devnet { m | m ∈ l } L event) :=
  match event with
  | .call c => inferInstanceAs (Decidable ((c.result devnet L).isOk = true →
      ∀ m ∈ c.messages devnet L, m ∈ l))
  | .other _ => inferInstanceAs (Decidable True)

instance (l : List (List UInt8)) (L : Ledger) (event : Event) :
    Decidable (TuplesIn devnet { m | m ∈ l } L event) :=
  match event with
  | .call c => inferInstanceAs (Decidable ((c.result devnet L).isOk = true →
      ∀ t ∈ c.tuple devnet L, tupleMessage t ∈ l))
  | .other _ => inferInstanceAs (Decidable True)

/-- The withdrawal is accumulated once, and consumed after its settlement. -/
theorem authorization_follows_withdrawn :
    authorizationLog devnet (devnet.authorizationOf 7 devVault 5) 7 devTokenLedger
      (devWithdrawn.map .call) =
        [.accumulated devTuple, .finished [.tokenWithdrawal devTuple], .consumed devTuple] ∧
    ∃ st, (authorizationLog devnet (devnet.authorizationOf 7 devVault 5) 7 devTokenLedger
      (devWithdrawn.map .call)).foldlM AuthorizationState.step .absent = some st := by
  refine ⟨by decide +kernel, ?_⟩
  refine (authorization_follows (M := { m | m ∈ devMessages }) devnet_lawful
    (devnet_authorizationApart 7 5) (devToken_history (by decide)) (devTokenLedger_data _)
    (fun r => by rw [devTokenLedger_data]; nofun) ?_ ?_).1
  · have hdistinct : ∀ m ∈ devMessages, ∀ m' ∈ devMessages, devnet.sha256 m = devnet.sha256 m' →
        m = m' := by decide +kernel
    exact fun m hm m' hm' h => hdistinct m hm m' hm' h
  · decide +kernel

/-- **What is finished is what the checksum commits to**: a settlement that finishes with the
checksum of some effects has installed these since it began, in this order, and no others. -/
theorem finished_effects_exact {env : Env} (hl : env.Lawful) (h : History env L₀ events)
    (hinj : Set.InjOn env.sha256 M) (hM : Runs.Along (exec env) (HashesIn env M) L₀ events)
    (hes : ∀ m ∈ hashed env (initialSettlementChecksum env e) es, m ∈ M)
    (ha : Admissible env (ledgerAfter env L₀ events) (.call c))
    (hc : c.instruction = .finishSettlement e (digest env (initialSettlementChecksum env e) es))
    (hresult : c.result env (ledgerAfter env L₀ events) = .ok L') :
    (Runs.run (Runs.ghost (exec env) (effectsAfter env)) (L₀, []) events).2 = es := by
  have heffected := History.ghost_induction_along (P := Effected env M) (t := []) hl
    (fun hgenesis s hparse => by
      rw [(hgenesis.vacant .session).1] at hparse
      cases hparse)
    (fun L es event hs ha hC => effected_of_event hl hs ha hC) h hM.ghost
  have hmove := sessionMove_of_result hl (h.sound hl) (Call.named ha subset_rfl) hresult
  generalize hd : (ledgerAfter env L₀ events (env.address .session)).data = d at hmove
  generalize (L' (env.address .session)).data = d' at hmove
  cases hmove with
  | @finished _ _ s _ _ hi loaded active hslot expected reached =>
    rw [hc] at hi
    cases hi
    subst hslot
    have hs := heffected s (by rw [hd, loaded]) active
    refine digest_injective (hinj.mono ?_) (hs.accumulator.symm.trans reached.symm)
    rintro m (rfl | hm | hm)
    exacts [hs.start, hs.messages m hm, hes m hm]
  | stay hi steady =>
    rw [hc] at steady
    cases steady
  | _ hi =>
    rw [hc] at hi
    cases hi

theorem finished_effects_exact_withdrawn :
    (Runs.run (Runs.ghost (exec devnet) (effectsAfter devnet)) (devTokenLedger, [])
      ((devWithdrawn.take 7).map .call)).2 = [.tokenWithdrawal devTuple] := by
  have hdistinct : ∀ m ∈ devMessages, ∀ m' ∈ devMessages, devnet.sha256 m = devnet.sha256 m' →
      m = m' := by decide +kernel
  have hfinished : ((devFinishing 133 7 devChecksum).result devnet (ledgerAfter devnet
      devTokenLedger ((devWithdrawn.take 7).map .call))).toOption.isSome = true := by
    decide +kernel
  obtain ⟨L', hresult⟩ := Option.isSome_iff_exists.mp hfinished
  exact finished_effects_exact (M := { m | m ∈ devMessages }) devnet_lawful
    (devToken_history (by decide)) hdistinct (by decide +kernel) (by decide +kernel)
    (@devnet_admissible [_] (by decide) _).1 rfl (toOption_eq_some.mp hresult)

end Northstar.Portal
