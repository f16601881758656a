import Northstar.Settle.Effects

/-!
# Consuming authorizations

When the bridge may consume the authorization of a token withdrawal, and what that does.

## Main definitions

* `Consuming`: the guards of a consumption

## Main results

* `consumeTokenWithdrawal_eq_ok`: when a consumption succeeds, and with which ledger
* `Consuming.congr`: it depends on the accounts it names
-/

namespace Northstar.Portal

open Bytes Checked

section Consuming

variable {env : Env} {validator session checkpoint authorization : AccountMeta}
  {accounts : TokenWithdrawalAccounts} {args : TokenWithdrawal} {bridge : SessionBridge}

/-- **The guards of a consumption**: the checkpoint is settled, the vault of the registered
bridge signs, and the authorization is the one the withdrawal was given, not consumed yet. -/
structure Consuming (env : Env) (L : Ledger)
    (validator session checkpoint authorization : AccountMeta)
    (accounts : TokenWithdrawalAccounts) (args : TokenWithdrawal) (bridge : SessionBridge) :
    Prop where
  address : session.address = env.address .session
  owner : (L session.address).owner = env.programId
  signedBy : ∃ s, loadSettlementSession env L session.address = .ok s ∧
    requireValidator validator s = .ok ()
  place : checkpoint.address = env.address (.checkpoint args.erSlot)
  checkpointOwner : (L checkpoint.address).owner = env.programId
  settled : ∃ c, (L checkpoint.address).data = .checkpoint c ∧ c.session = session.address ∧
    c.erSlot = args.erSlot ∧ c.effectCommitment = args.checksum ∧ c.status = .settled
  registered : loadBridge env L session.address accounts.sessionBridge.address
    accounts.vault.address accounts.mint.address accounts.tokenProgram.address = .ok bridge
  signed : accounts.vault.isSigner = true
  derived : authorization.address = (findTokenWithdrawalAuthorizationPda env
    checkpoint.address accounts.vault.address args.withdrawn).1
  authorizationOwner : (L authorization.address).owner = env.programId
  recorded : (L authorization.address).data =
    .tokenWithdrawalAuthorization (args.authorization env accounts bridge)

theorem parseCheckpoint_eq_some :
    parseCheckpoint d = some c ↔ d = .checkpoint c := by
  cases d <;> simp [parseCheckpoint]

theorem parseTokenWithdrawalAuthorization_eq_some :
    parseTokenWithdrawalAuthorization d = some state ↔
      d = .tokenWithdrawalAuthorization state := by
  cases d <;> simp [parseTokenWithdrawalAuthorization]

/-- The record is compared field by field with the one the withdrawal was given. -/
theorem eq_authorization_iff :
    state = args.authorization env accounts bridge ↔
      state.checkpoint = env.address (.checkpoint args.erSlot) ∧
        state.tupleHash = tokenWithdrawalTupleHash env (args.tuple accounts bridge) ∧
        state.bump = (findTokenWithdrawalAuthorizationPda env
          (env.address (.checkpoint args.erSlot)) accounts.vault.address args.withdrawn).2 ∧
        state.consumed = false := by
  cases state
  simp only [TokenWithdrawal.authorization, TokenWithdrawalAuthorization.mk.injEq]
  tauto

theorem consumeTokenWithdrawal_eq_ok :
    consumeTokenWithdrawal env validator session checkpoint authorization accounts args L = .ok L' ↔
      ∃ bridge, Consuming env L validator session checkpoint authorization accounts args bridge ∧
        L' = L.setData authorization.address (.tokenWithdrawalAuthorization
          { args.authorization env accounts bridge with consumed := true }) := by
  simp only [consumeTokenWithdrawal, chain_ok, parseCheckpoint_eq_some,
    parseTokenWithdrawalAuthorization_eq_some, not_or, Bool.not_eq_true, Bool.not_eq_false]
  constructor
  · rintro ⟨⟨haddress, howner⟩, s, hload, ⟨⟩, hvalidator, ⟨hcheckpoint, hcheckpointOwner⟩, c, hc,
      ⟨hsession, hslot, hcommitment, hsettled⟩, bridge, hbridge, hsigned,
      ⟨hkey, hauthorizationOwner⟩, state, hstate, ⟨hstateKey, htuple, hbump, hfresh⟩, rfl⟩
    have haddress' : session.address = env.address .session := haddress
    have hplace : checkpoint.address = env.address (.checkpoint args.erSlot) := by
      rw [hcheckpoint, haddress]
      rfl
    have hrecord : state = args.authorization env accounts bridge := by
      rw [eq_authorization_iff, ← hplace]
      exact ⟨hstateKey, htuple, hbump, hfresh⟩
    subst hrecord
    exact ⟨bridge, ⟨haddress', howner, ⟨s, hload, hvalidator⟩, hplace, hcheckpointOwner,
      ⟨c, hc, hsession, hslot, hcommitment, hsettled⟩, hbridge, hsigned, hkey,
      hauthorizationOwner, hstate⟩, rfl⟩
  · rintro ⟨bridge, ⟨haddress, howner, ⟨s, hload, hvalidator⟩, hplace, hcheckpointOwner,
      ⟨c, hc, hsession, hslot, hcommitment, hsettled⟩, hbridge, hsigned, hkey,
      hauthorizationOwner, hstate⟩, rfl⟩
    obtain ⟨hstateKey, htuple, hbump, hfresh⟩ := eq_authorization_iff.mp
      (rfl : args.authorization env accounts bridge = args.authorization env accounts bridge)
    refine ⟨⟨haddress, howner⟩, s, hload, ⟨⟩, hvalidator, ⟨?_, hcheckpointOwner⟩, c, hc,
      ⟨hsession, hslot, hcommitment, hsettled⟩, bridge, hbridge, hsigned,
      ⟨hkey, hauthorizationOwner⟩, _, hstate, ⟨?_, htuple, ?_, hfresh⟩, rfl⟩
    · rw [hplace, haddress]
      rfl
    · rw [hplace, hstateKey]
    · rw [hplace, hbump]

/-! ## Which accounts matter -/

theorem loadSettlementSession_congr (h : L' a = L a) :
    loadSettlementSession env L' a = loadSettlementSession env L a := by
  simp only [loadSettlementSession, loadSessionV2, h]

theorem loadBridge_congr {session sessionBridge vault mint tokenProgram : Pubkey}
    (hsession : L' session = L session) (hbridge : L' sessionBridge = L sessionBridge)
    (hvault : (L' vault).owner = (L vault).owner) :
    loadBridge env L' session sessionBridge vault mint tokenProgram =
      loadBridge env L session sessionBridge vault mint tokenProgram := by
  simp only [loadBridge, readRegisteredBridge, readBridge, readBridgeV2, loadSessionV2, hsession,
    hbridge, hvault]

theorem Consuming.congr
    (h : Consuming env L validator session checkpoint authorization accounts args bridge)
    (hsession : L' session.address = L session.address)
    (hcheckpoint : L' checkpoint.address = L checkpoint.address)
    (hbridge : L' accounts.sessionBridge.address = L accounts.sessionBridge.address)
    (hvault : (L' accounts.vault.address).owner = (L accounts.vault.address).owner)
    (hauthorization : L' authorization.address = L authorization.address) :
    Consuming env L' validator session checkpoint authorization accounts args bridge where
  address := h.address
  owner := by rw [hsession, h.owner]
  signedBy := by
    rw [loadSettlementSession_congr hsession]
    exact h.signedBy
  place := h.place
  checkpointOwner := by rw [hcheckpoint, h.checkpointOwner]
  settled := by
    rw [hcheckpoint]
    exact h.settled
  registered := by
    rw [loadBridge_congr hsession hbridge hvault]
    exact h.registered
  signed := h.signed
  derived := h.derived
  authorizationOwner := by rw [hauthorization, h.authorizationOwner]
  recorded := by rw [hauthorization, h.recorded]

end Consuming

end Northstar.Portal
