import Northstar.Portal.Program

/-!
# What the other instructions leave alone

Most of Portal's instructions do not belong to the checkpoint game: they move lamports in
and out of receipts, delegate accounts and settle effects. This file says once what they
all leave alone: the records of the game, the policy of the session, and the lamports of
the accounts they name, taken together.

## Main definitions

* `Frame`: what a step outside the game leaves alone
* `Undelegated`: no account of the game has a delegation record
* `Aside`: an address outside the game

## Main results

* `Frame.trans`, `frame_setData`, `frame_systemTransfer`, `frame_initializePdaAccount`: frames
  compose, and the primitive steps have one
-/

namespace Northstar.Portal

open Bytes Checked Ledger

/-- The policy of a session: everything but the settlement under way. -/
def policyOf : AccountData → Option Session
  | .session state => some state.clearSettlement
  | .sessionV2 frame => some frame.base.clearSettlement
  | _ => none

/-- An address outside the game. -/
def Aside (env : Env) (a : Pubkey) : Prop := ∀ g, env.address g ≠ a

/-- No account of the game has a delegation record. -/
def Undelegated (env : Env) (L : Ledger) : Prop :=
  ∀ g r, (L (findDelegationRecordPda env (env.address g)).1).data ≠ .delegationRecord r

/-- **Frame**: the game's records, owners and policy are unchanged, no account of the game
loses lamports or becomes delegated, and the accounts of `S` hold together what they held. -/
structure Frame (env : Env) (S : Finset Pubkey) (L L' : Ledger) : Prop where
  data : ∀ g, g ≠ .session → (L' (env.address g)).data = (L (env.address g)).data
  policy : policyOf (L' (env.address .session)).data = policyOf (L (env.address .session)).data
  owner : ∀ g, (L' (env.address g)).owner = (L (env.address g)).owner
  lamports : ∀ g, (L (env.address g)).lamports ≤ (L' (env.address g)).lamports
  undelegated : Undelegated env L → Undelegated env L'
  total : L'.total S = L.total S

section Frames

variable {S : Finset Pubkey}

theorem Frame.refl (env : Env) (S : Finset Pubkey) (L : Ledger) : Frame env S L L :=
  ⟨fun _ _ => rfl, rfl, fun _ => rfl, fun _ => UInt64.le_refl _, id, rfl⟩

theorem Frame.trans (h : Frame env S L₁ L₂) (h' : Frame env S L₂ L₃) : Frame env S L₁ L₃ where
  data g hg := (h'.data g hg).trans (h.data g hg)
  policy := h'.policy.trans h.policy
  owner g := (h'.owner g).trans (h.owner g)
  lamports g := UInt64.le_trans (h.lamports g) (h'.lamports g)
  undelegated hu := h'.undelegated (h.undelegated hu)
  total := h'.total.trans h.total

/-! ## Addresses outside the game -/

theorem aside_of_not_derived (h : ¬env.Derived a) : Aside env a := by
  rintro g rfl
  exact h (env.derived_address g)

theorem aside_of_seeds (hl : env.Lawful) (h : Env.SideSeeds seeds) :
    Aside env (env.findProgramAddress seeds env.programId).1 :=
  fun g => hl.address_ne_side g seeds h

/-- An account with a delegation record is outside the game. -/
theorem aside_of_delegated (hu : Undelegated env L)
    (h : (L (findDelegationRecordPda env a).1).data = .delegationRecord r) : Aside env a := by
  rintro g rfl
  exact hu g r h

/-! ## Primitive steps -/

/-- Lamports that move, from outside the game. -/
theorem frame_of_lamports (hdata : ∀ a, (L' a).data = (L a).data)
    (howner : ∀ a, (L' a).owner = (L a).owner)
    (hlamports : ∀ g, (L (env.address g)).lamports ≤ (L' (env.address g)).lamports)
    (htotal : L'.total S = L.total S) : Frame env S L L' where
  data g _ := hdata _
  policy := by rw [hdata]
  owner g := howner _
  lamports := hlamports
  undelegated hu g r := by rw [hdata]; exact hu g r
  total := htotal

/-- Data written outside the game, which is no delegation record of an account of it. -/
theorem frame_setData (ha : Aside env a)
    (hd : ∀ g r, a = (findDelegationRecordPda env (env.address g)).1 → d ≠ .delegationRecord r) :
    Frame env S L (L.setData a d) where
  data g _ := by rw [setData_data, if_neg (ha g)]
  policy := by rw [setData_data, if_neg (ha .session)]
  owner g := by simp
  lamports g := by simp
  undelegated hu g r := by
    rw [setData_data]
    split
    · rename_i heq
      exact hd g r heq.symm
    · exact hu g r
  total := by simp

/-- Data that is no delegation record, written outside the game. -/
theorem frame_setData_of_ne (ha : Aside env a) (hd : ∀ r, d ≠ .delegationRecord r) :
    Frame env S L (L.setData a d) :=
  frame_setData ha fun _ r _ => hd r

theorem frame_setOwner (ha : Aside env a) : Frame env S L (L.setOwner a o) where
  data g _ := by simp
  policy := by simp
  owner g := by rw [setOwner_owner, if_neg (ha g)]
  lamports g := by simp
  undelegated hu g r := by simpa using hu g r
  total := by simp

theorem frame_systemTransfer (h : systemTransfer L source dest amount = .ok L')
    (hsource : source.isSigner = true → ¬env.Derived source.address) (hs : source.address ∈ S)
    (hd : dest ∈ S) : Frame env S L L' := by
  have hsigner := (systemTransfer_ok h).1
  exact frame_of_lamports (fun _ => systemTransfer_data h) (fun _ => systemTransfer_owner h)
    (fun g => systemTransfer_lamports_le h (aside_of_not_derived (hsource hsigner) g))
    (systemTransfer_total h hs hd)

theorem frame_initializePdaAccount
    (h : initializePdaAccount env L payer pda lamports space = .ok L')
    (hpayer : payer.isSigner = true → ¬env.Derived payer.address) (hpda : Aside env pda)
    (hs : payer.address ∈ S) (hd : pda ∈ S) : Frame env S L L' := by
  obtain ⟨-, -, L₁, hfund, rfl⟩ := initializePdaAccount_ok h
  have hfunded : Frame env S L L₁ := by
    rcases hfund with ⟨rfl, -⟩ | ⟨m, -, hm⟩
    · exact Frame.refl env S _
    · exact frame_systemTransfer hm hpayer hs hd
  refine hfunded.trans ((frame_setData_of_ne hpda fun r => ?_).trans (frame_setOwner hpda))
  simp

/-- What `storeSession` answers. -/
theorem storeSession_ok (h : storeSession L a s = .ok L') :
    ∃ d, writeSession (L a).data s = .ok d ∧ L' = L.setData a d := by
  simp only [storeSession, chain_ok] at h
  obtain ⟨d, hd, rfl⟩ := h
  exact ⟨d, hd, rfl⟩

/-- Writing the common part of a session keeps its format and everything but the part
written. -/
theorem policyOf_writeSession (h : writeSession d s = .ok d') :
    policyOf d' = some s.clearSettlement ∧ (∀ r, d' ≠ .delegationRecord r) := by
  cases d <;> simp [writeSession] at h
  · subst h
    simp [policyOf]
  · obtain ⟨-, -, rfl⟩ := h
    simp [policyOf]

/-- Session data that keeps the policy. -/
theorem frame_setSession (hl : env.Lawful)
    (hp : policyOf d = policyOf (L (env.address .session)).data)
    (hd : ∀ r, d ≠ .delegationRecord r) :
    Frame env S L (L.setData (env.address .session) d) where
  data g hg := by rw [setData_data, if_neg (hl.address_inj.not.mpr hg)]
  policy := by rw [setData_data, if_pos rfl, hp]
  owner g := by simp
  lamports g := by simp
  undelegated hu g r := by
    rw [setData_data]
    split
    · exact hd r
    · exact hu g r
  total := by simp

/-- The session a loader answers has the policy of its account. -/
theorem policyOf_of_parseSession (h : parseSession d = .ok s) :
    policyOf d = some s.clearSettlement := by
  cases d <;> simp [parseSession] at h
  · subst h
    rfl
  · obtain ⟨-, rfl⟩ := h
    rfl

theorem policyOf_of_loadSession (h : loadSession env L a = .ok s) :
    a = env.address .session ∧ policyOf (L a).data = some s.clearSettlement := by
  obtain ⟨hkey, -, hparse⟩ := loadSession_eq_ok.mp h
  exact ⟨hkey, policyOf_of_parseSession hparse⟩

end Frames

end Northstar.Portal
