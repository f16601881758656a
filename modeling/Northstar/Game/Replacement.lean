import Northstar.Game.Devnet
import Northstar.Game.Proposals

/-!
# Replacing a proposal of the second format

A proposal of the second format creates an account for its binding. Nothing closes that
account, and creation is refused where something is stored. A cancelled or rejected proposal
therefore keeps its slot from every later proposal of the second format, while the account of
the checkpoint itself would be taken over.

## Main definitions

* `ProposedV2`: an event in which a proposal of the second format is accepted
* `Replacement`: a proposal for the slot of a finished checkpoint, with all it needs but for
  its binding

## Main results

* `binding_latch`: the account of a binding is vacant until the first proposal, and holds its
  binding from then on
* `replacement_accepted_iff`: a replacement is accepted as long as no proposal of the second
  format was accepted for its slot
-/

namespace Northstar.Portal

open Bytes Checked Ledger

variable (env : Env)

/-- The slot for which a call proposes in the second format. -/
def Call.slotV2 (c : Call) : Option UInt64 :=
  match c.instruction with
  | .proposeCheckpointV2 args => some args.proposal.erSlot
  | _ => none

/-- The event is an accepted proposal of the second format for slot `e`. -/
def ProposedV2 (e : UInt64) (L : Ledger) : Event → Prop
  | .call c => c.slotV2 = some e ∧ ∃ L', c.result env L = .ok L'
  | .other _ => False

/-- **A replacement** for the finished checkpoint of slot `e`: the call proposes for the slot on
its accounts, in a live session, by its validator who can pay, with roots that continue what is
finalized. -/
structure Replacement (L : Ledger) (e : UInt64) (c : Call) : Prop where
  finished : ∃ checkpoint, checkpointOf env L e = some checkpoint ∧
    (checkpoint.status = .cancelled ∨ checkpoint.status = .invalid)
  build : env.features.checkpointContinuityV2 = true
  proposes : ∃ payer args record frame context cursor,
    c.instruction = .proposeCheckpointV2 args ∧ args.proposal.erSlot = e ∧
      c.accounts.head? = some payer ∧
      c.accounts.map (·.address) = [payer.address, env.address .session,
        env.address (.checkpoint e), env.address .cursor, systemProgramId, env.bindingOf e,
        record] ∧
      Proposable env c.slot L payer args record frame context cursor

/-- The addresses of bindings do not collide at slot `e`. -/
structure BindingApart (e : UInt64) : Prop where
  beside : Beside env [ascii "checkpoint_v2"] (env.bindingOf e)
  slot : ∀ e', env.bindingOf e' = env.bindingOf e → e' = e

/-- Nothing is stored for the binding of slot `e`. -/
structure Unbound (e : UInt64) (L : Ledger) : Prop where
  data : (L (env.bindingOf e)).data = .empty
  owner : (L (env.bindingOf e)).owner = systemProgramId
  undelegated : ∀ r, (L (env.recordOf (env.bindingOf e))).data ≠ .delegationRecord r

/-- The account of the binding holds one. -/
structure Bound (e : UInt64) (L : Ledger) : Prop where
  data : ∃ state, (L (env.bindingOf e)).data = .checkpointBindingV2 state
  undelegated : ∀ r, (L (env.recordOf (env.bindingOf e))).data ≠ .delegationRecord r

section Bindings

variable {env} {L L' : Ledger} {e : UInt64} {c : Call} {event : Event}

theorem Replacement.slot (h : Replacement env L e c) : c.slotV2 = some e := by
  obtain ⟨-, args, -, -, -, -, hi, rfl, -⟩ := h.proposes
  rw [Call.slotV2, hi]

/-- **A replacement is accepted** where nothing is stored for its binding. -/
theorem Replacement.accepted (hl : env.Lawful) (h : Replacement env L e c)
    (hunbound : Unbound env e L) : ∃ L', c.result env L = .ok L' := by
  obtain ⟨payer, args, record, frame, context, cursor, hi, rfl, hpayer, haccounts, hproposable⟩ :=
    h.proposes
  obtain ⟨now, accounts, i⟩ := c
  subst hi
  simp only [List.map_eq_cons_iff, List.map_eq_nil_iff] at haccounts
  obtain ⟨_, _, rfl, -, session, _, rfl, hsession, checkpoint, _, rfl, hcheckpoint, cursorMeta, _,
    rfl, hcursor, system, _, rfl, -, binding, _, rfl, hbinding, recordMeta, _, rfl, rfl, rfl⟩ :=
    haccounts
  obtain rfl := Option.some.inj hpayer
  obtain ⟨L', hresult, -⟩ := exists_proposeCheckpointV2 hl session checkpoint cursorMeta binding
    recordMeta hproposable ⟨hunbound.data, hunbound.owner⟩ hsession hcheckpoint hcursor hbinding
  exact ⟨L', (if_pos h.build).trans hresult⟩

/-- What an accepted proposal of the second format is. -/
theorem proposeCheckpointV2_of_result (hslot : c.slotV2 = some e)
    (h : c.result env L = .ok L') : ∃ proposer ∈ c.accounts,
      ∃ session checkpoint cursor binding record args, args.proposal.erSlot = e ∧
        proposeCheckpointV2 env c.slot proposer session checkpoint cursor binding record args L =
          .ok L' := by
  obtain ⟨now, accounts, i⟩ := c
  cases i with
  | proposeCheckpointV2 args =>
    have he : args.proposal.erSlot = e := Option.some.inj hslot
    have h : processProposeCheckpointV2 env now accounts args L = .ok L' := (onlyWith_ok h).2
    unfold processProposeCheckpointV2 at h
    split at h
    · exact ⟨_, List.mem_cons_self, _, _, _, _, _, args, he, h⟩
    · cases h
  | _ => cases hslot

/-- A proposal is accepted where nothing is stored, and leaves its binding there. -/
theorem bound_of_proposeCheckpointV2 (hb : BindingApart env e)
    (hadmissible : ∀ m ∈ c.accounts, m.isSigner = true → ¬env.Derived m.address)
    (hslot : c.slotV2 = some e) (h : c.result env L = .ok L') :
    (L (env.bindingOf e)).data = .empty ∧
      ((∀ r, (L (env.recordOf (env.bindingOf e))).data ≠ .delegationRecord r) →
        Bound env e L') := by
  obtain ⟨proposer, hmem, session, checkpoint, cursor, binding, record, args, rfl, h⟩ :=
    proposeCheckpointV2_of_result hslot h
  obtain ⟨hkey, L₁, L₂, state, hinit, hpropose, rfl⟩ := proposeCheckpointV2_ok h
  obtain ⟨hempty, -, L₀, hfund, rfl⟩ := initializePdaAccount_ok hinit
  rw [hkey] at hempty ⊢
  refine ⟨hempty, fun hu => ⟨⟨state, by rw [setData_data, if_pos rfl]⟩, ?_⟩⟩
  -- neither paying for the account nor the proposal itself delegates anything
  have hnamed : Named env {proposer.address} proposer :=
    ⟨Finset.mem_singleton_self _, hadmissible proposer hmem⟩
  have hfunded : Spared env (env.bindingOf args.proposal.erSlot) L L₀ := by
    rcases hfund with ⟨rfl, -⟩ | ⟨m, -, hm⟩
    · exact Spared.refl env _ _
    · exact (footprint_systemTransfer hm (hb.beside.charged hnamed)).spares
  have hspared := (footprint_proposeCheckpoint hb.beside.permits (hb.beside.charged hnamed)
    hpropose).spares
  intro r
  rw [setData_data]
  split
  · nofun
  · refine hspared.undelegated (fun r => ?_) r
    rw [setOwner_data, setData_data]
    split
    · nofun
    · exact hfunded.undelegated hu r

/-- Only proposals of the second format write bindings. -/
theorem Instruction.writes_binding {i : Instruction} (h : ascii "checkpoint_v2" ∈ i.sideKinds) :
    ∃ args, i = .proposeCheckpointV2 args := by
  cases i with
  | proposeCheckpointV2 args => exact ⟨args, rfl⟩
  | _ =>
    simp only [Instruction.sideKinds] at h
    exact absurd h (by decide)

/-- An event spares the binding, unless it is an accepted proposal for its slot. -/
theorem spared_binding (hl : env.Lawful) (hb : BindingApart env e) (ha : Admissible env L event)
    (hu : ∀ r, (L (env.recordOf (env.bindingOf e))).data ≠ .delegationRecord r)
    (hevent : ¬ProposedV2 env e L event) :
    Spared env (env.bindingOf e) L (exec env L event) := by
  by_cases hslot : ∃ c e', event = .call c ∧ c.slotV2 = some e'
  · -- a proposal for another slot writes another binding
    obtain ⟨c, e', rfl, hslot⟩ := hslot
    cases hresult : c.result env L with
    | error error =>
      rw [exec_call_of_error hresult]
      exact Spared.refl env _ L
    | ok L' =>
      rw [exec_call_of_ok hresult]
      obtain ⟨proposer, hmem, session, checkpoint, cursor, binding, record, args, rfl, h⟩ :=
        proposeCheckpointV2_of_result hslot hresult
      refine (footprint_proposeCheckpointV2 hb.beside.permits
        (hb.beside.charged (Call.named ha subset_rfl proposer hmem)) ?_ h).spares
      intro heq
      obtain rfl := hb.slot _ heq
      exact hevent ⟨hslot, L', hresult⟩
  · refine spared_of_event hb.beside hu ha ?_
    intro c L' hc hresult
    refine ⟨fun _ => (hl.address_ne_side .session _ (.checkpointBindingV2 _)).symm, ?_⟩
    intro kind hkind hmem
    rw [List.mem_singleton] at hmem
    subst hmem
    obtain ⟨args, hi⟩ := Instruction.writes_binding hkind
    refine hslot ⟨c, args.proposal.erSlot, hc, ?_⟩
    rw [Call.slotV2, hi]

/-- **The account of a binding**: vacant until the first accepted proposal for its slot, and
taken from then on. -/
theorem binding_latch (hl : env.Lawful) (hb : BindingApart env e) (h : History env L₀ events)
    (hL₀ : Unbound env e L₀) :
    Runs.Along (exec env) (fun L event => ¬ProposedV2 env e L event) L₀ events ∧
        Unbound env e (ledgerAfter env L₀ events) ∨
      ¬Runs.Along (exec env) (fun L event => ¬ProposedV2 env e L event) L₀ events ∧
        Bound env e (ledgerAfter env L₀ events) := by
  refine Runs.along_or_latched ?_ ?_ ?_ h.admissible hL₀
  · intro L event ha hunbound hevent
    have hspared := spared_binding hl hb ha hunbound.undelegated hevent
    exact ⟨hspared.data.trans hunbound.data, hspared.owner.trans hunbound.owner,
      hspared.undelegated hunbound.undelegated⟩
  · intro L event ha hunbound hevent
    cases event with
    | other after => exact absurd id hevent
    | call c =>
      obtain ⟨hslot, L', hresult⟩ := not_not.mp hevent
      rw [exec_call_of_ok hresult]
      exact (bound_of_proposeCheckpointV2 hb ha hslot hresult).2 hunbound.undelegated
  · intro L event ha hbound
    have hspared := spared_binding hl hb ha hbound.undelegated (by
      cases event with
      | other after => exact id
      | call c =>
        rintro ⟨hslot, L', hresult⟩
        obtain ⟨state, hstate⟩ := hbound.data
        rw [(bound_of_proposeCheckpointV2 hb ha hslot hresult).1] at hstate
        exact AccountData.noConfusion hstate)
    refine ⟨?_, hspared.undelegated hbound.undelegated⟩
    rw [hspared.data]
    exact hbound.data

/-- **Replacing a finished proposal**: in every history, a replacement is accepted exactly if
no proposal of the second format was accepted for its slot before. -/
theorem replacement_accepted_iff (hl : env.Lawful) (hb : BindingApart env e) {L₀ : Ledger}
    {events : List Event} (h : History env L₀ events) (hL₀ : Unbound env e L₀)
    (hc : Admissible env (ledgerAfter env L₀ events) (.call c))
    (hreplacement : Replacement env (ledgerAfter env L₀ events) e c) :
    (∃ L', c.result env (ledgerAfter env L₀ events) = .ok L') ↔
      Runs.Along (exec env) (fun L event => ¬ProposedV2 env e L event) L₀ events := by
  rcases binding_latch hl hb h hL₀ with ⟨halong, hunbound⟩ | ⟨halong, hbound⟩
  · exact iff_of_true (hreplacement.accepted hl hunbound) halong
  · refine iff_of_false ?_ halong
    rintro ⟨L', hresult⟩
    obtain ⟨state, hstate⟩ := hbound.data
    rw [(bound_of_proposeCheckpointV2 hb hc hreplacement.slot hresult).1] at hstate
    exact AccountData.noConfusion hstate

end Bindings

/-! ## On the local deployment -/

theorem devnet_bindingApart (e : UInt64) : BindingApart devnet e where
  beside := devnet_beside (.checkpointBindingV2 _) (by decide : (_, (40 : UInt8)) ∈ kindTags)
  slot _ := devnet_bindingOf_inj

theorem devLedger_unbound (e : UInt64) : Unbound devnet e devLedger where
  data := (devLedger_vacant _).1
  owner := (devLedger_vacant _).2
  undelegated r := by
    rw [(devLedger_vacant _).1]
    nofun

/-- The proposal that should replace a cancelled one. -/
def devReplacing : Call := devProposing 40 (devProposal 7 (localRoot 2))

/-- The ledger has the session of wallet 20, a cancelled checkpoint for slot 7 and nothing on its
way, and wallet 21 has enough for a proposal. -/
def DevReplaceable (L : Ledger) : Prop :=
  loadSessionV2 devnet L (devnet.address .session) = .ok devSession ∧
    CursorAt devnet L (.fresh devnet (devnet.address .session)) ∧
    (checkpointOf devnet L 7).any (fun c => decide (c.status = .cancelled)) = true ∧
    checkpointRent devnet ≤ (L (devnet.address (.checkpoint 7))).lamports ∧
    (L (devnet.address (.checkpoint 7))).lamports.toNat +
      checkpointProposerBondLamports.toNat < 2 ^ 64 ∧
    Vacant L (tagged 21 []) ∧
    (devnet.minimumBalance 377).toNat + (devnet.minimumBalance 153).toNat +
      (devnet.minimumBalance 380).toNat + checkpointProposerBondLamports.toNat ≤
        (L (tagged 21 [])).lamports.toNat
  deriving Decidable

theorem devReplacing_replacement {L : Ledger} (h : DevReplaceable L) :
    Replacement devnet L 7 devReplacing := by
  obtain ⟨hsession, hcursor, hcancelled, hrent, hroom, hvacant, hfunds⟩ := h
  obtain ⟨checkpoint, hboard, hstatus⟩ := (Option.any_eq_true ..).mp hcancelled
  have hstatus := of_decide_eq_true hstatus
  refine ⟨⟨checkpoint, hboard, .inl hstatus⟩, rfl, localWallet 21, devProposal 7 (localRoot 2),
    systemProgramId, devSession, devContext, .fresh devnet (devnet.address .session), rfl, rfl, rfl,
    rfl, ?_⟩
  exact
    { session := hsession
      bound := by decide +kernel
      live := by decide +kernel
      signer := rfl
      validator := rfl
      affords := ⟨devnet_not_derived (by decide), hvacant.1, hvacant.2, hfunds⟩
      pointed := hcursor
      idle := rfl
      advances := by decide +kernel
      continues := .inl rfl
      openings := by decide +kernel
      start := by decide +kernel
      ingress := rfl
      input := by decide +kernel
      arguments := by decide +kernel
      time := by decide +kernel
      checkpoint := .finished checkpoint (toOption_eq_some.mp hboard) (.inl hstatus) hrent hroom }

/-- A session of the first format with a cancelled checkpoint, closed, and a session of the
second format opened in its place. -/
def devReopened : List Call :=
  [{ localOpening with slot := 1 }, { localProposing localProposal with slot := 2 },
    devCancelling 3 7,
    ⟨4, [localWallet 20, devPlace .session, devPlace .feeVault, localNamed systemProgramId,
      devPlace .cursor], .closeSession⟩,
    devOpening]

/-- There the replacement is accepted. -/
theorem replacement_accepted_after_reopening :
    ∃ L', devReplacing.result devnet (ledgerAfter devnet devLedger (devReopened.map .call)) =
      .ok L' := by
  have hhistory : History devnet devLedger (devReopened.map .call) := devnet_history (by decide)
  refine (replacement_accepted_iff devnet_lawful (devnet_bindingApart 7) hhistory
    (devLedger_unbound 7) ?_ ?_).mpr ?_
  · exact fun m hm hsigner => devnet_not_derived ((by decide : devReplacing.ByKeys) m hm hsigner)
  · exact devReplacing_replacement (by decide +kernel)
  · refine Runs.Along.imp (fun L event h => ?_) (Runs.along_of_forall
      (C := fun event => ∀ c, event = .call c → c.slotV2 = none) ?_)
    · cases event with
      | other after => exact id
      | call c =>
        rintro ⟨hslot, -⟩
        rw [h c rfl] at hslot
        cases hslot
    · intro event hevent c hc
      subst hc
      obtain ⟨c', hmem, hc'⟩ := List.mem_map.mp hevent
      cases hc'
      exact (by decide : ∀ c ∈ devReopened, c.slotV2 = none) c hmem

/-- The validator cancels a proposal of the second format. -/
def devCancelled : List Call :=
  [devOpening, devProposing 20 (devProposal 7 (localRoot 1)), devCancelling 30 7]

/-- Its replacement is refused. -/
theorem replacement_refused :
    History devnet devLedger (devCancelled.map .call) ∧
      Replacement devnet (ledgerAfter devnet devLedger (devCancelled.map .call)) 7 devReplacing ∧
      ¬∃ L', devReplacing.result devnet (ledgerAfter devnet devLedger (devCancelled.map .call)) =
        .ok L' := by
  refine ⟨devnet_history (by decide), ?_, ?_⟩
  · exact devReplacing_replacement (by decide +kernel)
  · rintro ⟨L', hL'⟩
    have hrefused : (devReplacing.result devnet
        (ledgerAfter devnet devLedger (devCancelled.map .call))).toOption.isSome = false := by
      decide +kernel
    rw [hL'] at hrefused
    cases hrefused

end Northstar.Portal
