import Northstar.Game.Histories

/-!
# Accounts that an instruction does not write

An account at a derived address changes only by an instruction of Portal's that writes an
account of its kind. Nobody signs for it, so it pays for nothing and is never delegated;
what instructions write otherwise are accounts of the game, delegated accounts and accounts
of other kinds. An account at no derived address comes to Portal when its holder assigns it,
and Portal writes its owner only when it returns it.

This file follows every instruction once, for the set of accounts it may write. What is
spared and what stays Portal's are read off that.

## Main definitions

* `Footprint`: what a step leaves alone outside the accounts it may write
* `Spared`: what is left alone of one account
* `Kept`: an account of Portal's stays Portal's
* `Beside`: an account that only instructions of its kinds write
* `Instruction.sideKinds`: the kinds of accounts beside the game that an instruction writes
* `Call.Returns`: the calls that return an account

## Main results

* `footprint_processInstruction`: the footprint of an instruction
* `spared_processInstruction`: an instruction spares the accounts of the kinds it does not
  write
* `kept_of_call`: a call keeps the account, unless it returns it
-/

namespace Northstar.Portal

open Bytes Checked Ledger

/-- **Spared**: the account keeps its data and its owner, loses no lamports, and does not
become delegated. -/
structure Spared (env : Env) (w : Pubkey) (L L' : Ledger) : Prop where
  data : (L' w).data = (L w).data
  owner : (L' w).owner = (L w).owner
  lamports : (L w).lamports ≤ (L' w).lamports
  undelegated : (∀ r, (L (env.recordOf w)).data ≠ .delegationRecord r) →
    ∀ r, (L' (env.recordOf w)).data ≠ .delegationRecord r

/-- **Kept**: an account of Portal's stays Portal's. -/
def Kept (env : Env) (a : Pubkey) (L L' : Ledger) : Prop :=
  (L a).owner = env.programId → (L' a).owner = env.programId

/-- **Footprint**: accounts outside `T` are spared, and those outside `R` are kept. -/
structure Footprint (env : Env) (T R : Pubkey → Prop) (L L' : Ledger) : Prop where
  spared : ∀ w, ¬T w → Spared env w L L'
  kept : ∀ a, ¬R a → Kept env a L L'

/-- What a footprint of an instruction has to cover in any case: the accounts of the game. A
delegation record outside is that of one account. -/
structure Permits (env : Env) (T : Pubkey → Prop) : Prop where
  game : ∀ {g : GameAccount}, g ≠ .session → T (env.address g)
  delegation : ∀ {w : Pubkey}, ¬T w → ∀ a, env.recordOf a = env.recordOf w → a = w

/-- **Beside**: a derived account, not of the game but for the session, that seeds of `kinds`
alone lead to, and whose delegation record is its own. -/
structure Beside (env : Env) (kinds : List (List UInt8)) (w : Pubkey) : Prop where
  derived : env.Derived w
  game : ∀ g, g ≠ .session → env.address g ≠ w
  side : ∀ seeds, Env.SideSeeds seeds → (env.findProgramAddress seeds env.programId).1 = w →
    ∃ kind ∈ kinds, seeds.head? = some kind
  delegation : ∀ a, env.recordOf a = env.recordOf w → a = w

variable {T R : Pubkey → Prop}

theorem Spared.refl (env : Env) (w : Pubkey) (L : Ledger) : Spared env w L L :=
  ⟨rfl, rfl, UInt64.le_refl _, id⟩

theorem Spared.trans (h : Spared env w L₁ L₂) (h' : Spared env w L₂ L₃) : Spared env w L₁ L₃ where
  data := h'.data.trans h.data
  owner := h'.owner.trans h.owner
  lamports := UInt64.le_trans h.lamports h'.lamports
  undelegated hu := h'.undelegated (h.undelegated hu)

theorem Footprint.refl (env : Env) (T R : Pubkey → Prop) (L : Ledger) : Footprint env T R L L :=
  ⟨fun w _ => Spared.refl env w L, fun _ _ => id⟩

theorem Footprint.trans (h : Footprint env T R L₁ L₂) (h' : Footprint env T R L₂ L₃) :
    Footprint env T R L₁ L₃ where
  spared w hw := (h.spared w hw).trans (h'.spared w hw)
  kept a ha := h'.kept a ha ∘ h.kept a ha

/-! ## Primitive steps -/

theorem kept_of_owner (h : (L' a).owner = (L a).owner) : Kept env a L L' := by
  intro howner
  rw [h, howner]

theorem footprint_setData (ha : T a) (hd : ∀ r, d ≠ .delegationRecord r) :
    Footprint env T R L (L.setData a d) where
  spared w hw :=
    { data := by rw [setData_data, if_neg (ne_of_covered hw ha)]
      owner := by simp
      lamports := by simp
      undelegated hu r := by
        rw [setData_data]
        split
        · exact hd r
        · exact hu r }
  kept _ _ := kept_of_owner (by simp)

theorem Footprint.write (h : Footprint env T R L L') (ha : T a)
    (hd : ∀ r, d ≠ .delegationRecord r) :
    Footprint env T R L (L'.setData a d) :=
  h.trans (footprint_setData ha hd)

/-- The delegation record of an account that is covered. -/
theorem footprint_setRecord (hT : Permits env T) (ha : T a) (hrecord : T (env.recordOf a))
    (d : AccountData) : Footprint env T R L (L.setData (env.recordOf a) d) where
  spared w hw :=
    { data := by rw [setData_data, if_neg (ne_of_covered hw hrecord)]
      owner := by simp
      lamports := by simp
      undelegated hu r := by
        rw [setData_data, if_neg]
        · exact hu r
        · intro heq
          exact ne_of_covered hw ha (hT.delegation hw a heq.symm).symm }
  kept _ _ := kept_of_owner (by simp)

theorem footprint_setOwner (ha : T a) (ho : o = env.programId ∨ R a) :
    Footprint env T R L (L.setOwner a o) where
  spared w hw :=
    { data := by simp
      owner := by rw [setOwner_owner, if_neg (ne_of_covered hw ha)]
      lamports := by simp
      undelegated hu r := by simpa using hu r }
  kept b hb howner := by
    rw [setOwner_owner]
    split
    · rename_i heq
      exact ho.resolve_right (heq ▸ hb)
    · exact howner

theorem footprint_of_lamports (hdata : ∀ a, (L' a).data = (L a).data)
    (howner : ∀ a, (L' a).owner = (L a).owner)
    (hlamports : ∀ a, ¬T a → (L a).lamports ≤ (L' a).lamports) : Footprint env T R L L' where
  spared w hw := ⟨hdata w, howner w, hlamports w hw, fun hu r => by rw [hdata]; exact hu r⟩
  kept a _ := kept_of_owner (howner a)

theorem footprint_setLamports (ha : T a) (n : UInt64) :
    Footprint env T R L (L.setLamports a n) := by
  refine footprint_of_lamports (by simp) (by simp) fun w hw => ?_
  rw [setLamports_lamports, if_neg (ne_of_covered hw ha)]
  exact UInt64.le_refl _

/-- Lamports added to an account. -/
theorem footprint_credit {n m : UInt64} (h : n.toNat = (L a).lamports.toNat + m.toNat) :
    Footprint env T R L (L.setLamports a n) := by
  refine footprint_of_lamports (by simp) (by simp) fun w _ => ?_
  rw [setLamports_lamports]
  split
  · rename_i heq
    rw [heq, UInt64.le_iff_toNat_le]
    omega
  · exact UInt64.le_refl _

theorem footprint_close (ha : T a) (hr : R a) : Footprint env T R L (L.close a) where
  spared w hw := by
    have hne := ne_of_covered hw ha
    refine ⟨by rw [L.close_of_ne hne], by rw [L.close_of_ne hne], ?_, fun hu r => ?_⟩
    · rw [L.close_of_ne hne]
      exact UInt64.le_refl _
    · by_cases heq : env.recordOf w = a
      · rw [heq, close_data_self]
        simp [AccountData.empty]
      · rw [L.close_of_ne heq]
        exact hu r
  kept b hb := kept_of_owner (by rw [L.close_of_ne (ne_of_covered hb hr)])

theorem footprint_systemTransfer (h : systemTransfer L source dest amount = .ok L')
    (hsource : Charged T source) :
    Footprint env T R L L' :=
  footprint_of_lamports (fun _ => systemTransfer_data h) (fun _ => systemTransfer_owner h)
    fun _ hw => systemTransfer_lamports_le h (ne_of_covered hw (hsource (systemTransfer_ok h).1))

theorem footprint_initializePdaAccount
    (h : initializePdaAccount env L payer pda lamports space = .ok L') (hpayer : Charged T payer)
    (hpda : T pda) : Footprint env T R L L' := by
  obtain ⟨-, -, L₁, hfund, rfl⟩ := initializePdaAccount_ok h
  have hfunded : Footprint env T R L L₁ := by
    rcases hfund with ⟨rfl, -⟩ | ⟨m, -, hm⟩
    · exact Footprint.refl env T R _
    · exact footprint_systemTransfer hm hpayer
  exact (hfunded.write hpda (by simp)).trans
    (footprint_setOwner hpda (.inl rfl))

theorem footprint_storeSession (ha : T a) (h : storeSession L a s = .ok L') :
    Footprint env T R L L' := by
  obtain ⟨d, hd, rfl⟩ := storeSession_ok h
  exact footprint_setData ha (policyOf_writeSession hd).2

/-- The scope of accounts that a step may write and return. -/
def Scope.of (env : Env) (T R : Pubkey → Prop) : Scope := ⟨T, R, T (env.address .session), none⟩

theorem Scope.admits (h : Charged T m) : (Scope.of env T R).Admits env m :=
  ⟨h, fun _ hS => nomatch hS⟩

theorem Scope.counts : (Scope.of env T R).Counts a := fun _ hS => nomatch hS

/-- **Steps beside the game** leave alone what is outside their scope. -/
theorem footprint_of_sideStep (hT : Permits env T) (h : SideStep env (.of env T R) L L') :
    Footprint env T R L L' := by
  induction h with
  | refl L => exact Footprint.refl env T R L
  | trans _ _ ih ih' => exact ih.trans ih'
  | setData ha hd => exact footprint_setData ha hd
  | setRecord ha hrecord d => exact footprint_setRecord hT ha hrecord d
  | setSession hs hd _ => exact footprint_setData hs hd
  | setOwner ha ho => exact footprint_setOwner ha ho
  | lamports hdata howner hle _ => exact footprint_of_lamports hdata howner hle
  | close ha hr _ => exact footprint_close ha hr

/-! ## One account beside the game -/

variable {S : Finset Pubkey}

theorem Footprint.spares (h : Footprint env (· ≠ w) (fun _ => True) L L') : Spared env w L L' :=
  h.spared w (not_not.mpr rfl)

theorem Beside.permits (hw : Beside env kinds w) : Permits env (· ≠ w) where
  game hg := hw.game _ hg
  delegation hne a ha := by
    obtain rfl := not_not.mp hne
    exact hw.delegation a ha

theorem Permits.all (env : Env) : Permits env fun _ => True :=
  ⟨fun _ => trivial, fun h => absurd trivial h⟩

theorem Beside.covers (hw : Beside env kinds w) (hnot : kind ∉ kinds) :
    Covers env (· ≠ w) kind := by
  rintro seeds hs hkind rfl
  obtain ⟨kind', hmem, hhead⟩ := hw.side seeds hs rfl
  obtain rfl : kind = kind' := Option.some.inj (hkind.symm.trans hhead)
  exact hnot hmem

theorem Beside.charged (hw : Beside env kinds w) (hm : Named env S m) : Charged (· ≠ w) m := by
  rintro hsigner rfl
  exact hm.signer hsigner hw.derived

theorem Beside.admits (hw : Beside env kinds w) (hm : Named env S m) :
    (Scope.of env (· ≠ w) fun _ => True).Admits env m :=
  Scope.admits (hw.charged hm)

/-- Steps beside the game spare an account outside their scope. -/
theorem SideStep.spares (hw : Beside env kinds w)
    (h : SideStep env (.of env (· ≠ w) fun _ => True) L L') : Spared env w L L' :=
  (footprint_of_sideStep hw.permits h).spares

/-- Steps that close and return nothing. -/
theorem SideStep.keeps (h : SideStep env (.of env (fun _ => True) fun _ => False) L L') :
    Kept env a L L' :=
  (footprint_of_sideStep (Permits.all env) h).kept a id

/-- The session is beside the rest of the game. -/
theorem Env.Lawful.beside_session (hl : env.Lawful) : Beside env [] (env.address .session) where
  derived := env.derived_address .session
  game _ hg := hl.address_inj.not.mpr hg
  side seeds hs heq := absurd heq.symm (hl.address_ne_side .session seeds hs)
  delegation a ha := hl.delegation_address .session a ha

/-! ## Checkpoints -/

variable {session checkpoint cursor : AccountMeta}

theorem footprint_resolveCheckpointBond (hT : Permits env T)
    (h : resolveCheckpointBond env L (env.address (.checkpoint e)) r c next = .ok (L', c')) :
    Footprint env T R L L' := by
  simp only [resolveCheckpointBond, chain_ok, checkedAdd_eq_some, exists_and_left, Prod.mk.injEq]
    at h
  obtain ⟨-, -, minimum, -, -, credited, hcredited, left, -, rfl, -⟩ := h
  exact (footprint_credit hcredited).trans (footprint_setLamports (hT.game (by simp)) left)

theorem footprint_loadOrCreateCursor (hT : Permits env T) (hproposer : Charged T proposer)
    (h : loadOrCreateCursor env L proposer (env.address .session) a = .ok (L', k)) :
    a = env.address .cursor ∧ Footprint env T R L L' := by
  unfold loadOrCreateCursor at h
  split at h
  · simp only [createCursor, chain_ok, Prod.mk.injEq] at h
    obtain ⟨hkey, L₁, hcreate, rfl, rfl⟩ := h
    have hkey : a = env.address .cursor := hkey
    have hne : T a := hkey ▸ hT.game (by simp)
    exact ⟨hkey, (footprint_initializePdaAccount hcreate hproposer hne).write hne (by simp)⟩
  · simp only [chain_ok, Prod.mk.injEq] at h
    obtain ⟨state, hload, rfl, rfl⟩ := h
    exact ⟨(game_loadCursor hload).1, Footprint.refl env T R _⟩

theorem footprint_proposeCheckpoint (hT : Permits env T) (hproposer : Charged T proposer)
    (h : proposeCheckpoint env now proposer session checkpoint cursor args version2 L = .ok L') :
    Footprint env T R L L' := by
  simp only [proposeCheckpoint, chain_ok, exists_and_left] at h
  obtain ⟨-, -, s, hs, -, -, ⟨L₁, k⟩, hload, -, -, -, -, -, -, hkey, deadline, -, L₂, hfund,
    rfl⟩ := h
  obtain ⟨hsession, -⟩ := game_loadSession hs
  rw [hsession] at hload hfund hkey
  have hkey : checkpoint.address = env.address (.checkpoint args.erSlot) := hkey
  obtain ⟨hkey', hcursor⟩ := footprint_loadOrCreateCursor hT hproposer hload
  have hne : T checkpoint.address := hkey ▸ hT.game (by simp)
  have hne' : T cursor.address := hkey' ▸ hT.game (by simp)
  have hfunded : Footprint env T R L₁ L₂ := by
    unfold fundCheckpoint at hfund
    split at hfund
    · simp only [bind_eq_ok] at hfund
      obtain ⟨lamports, -, hcreate⟩ := hfund
      exact footprint_initializePdaAccount hcreate hproposer hne
    · simp only [chain_ok, exists_and_left] at hfund
      obtain ⟨previous, -, -, -, htransfer⟩ := hfund
      exact footprint_systemTransfer htransfer hproposer
  exact ((hcursor.trans hfunded).write hne (by simp)).write hne' (by simp)

/-- Where the binding of the proposals for a slot lives. -/
def Env.bindingOf (env : Env) (e : UInt64) : Pubkey :=
  (findCheckpointBindingV2Pda env (env.address (.checkpoint e))).1

/-- The checkpoint of an accepted proposal is the one of its slot. -/
theorem checkpoint_of_proposeCheckpoint
    (h : proposeCheckpoint env now proposer session checkpoint cursor args version2 L = .ok L') :
    checkpoint.address = env.address (.checkpoint args.erSlot) := by
  simp only [proposeCheckpoint, chain_ok, exists_and_left] at h
  obtain ⟨-, -, s, hs, -, -, -, -, -, -, -, -, -, -, hkey, -⟩ := h
  obtain ⟨hsession, -⟩ := game_loadSession hs
  rw [hkey, hsession]
  rfl

/-- What a proposal of the second format does: it creates its binding, which must be vacant,
and proposes as the first format does. -/
theorem proposeCheckpointV2_ok
    (h : proposeCheckpointV2 env now proposer session checkpoint cursor binding record args L =
      .ok L') :
    binding.address = env.bindingOf args.proposal.erSlot ∧ ∃ L₁ L₂ state,
      initializePdaAccount env L proposer binding.address (env.minimumBalance 377) 377 = .ok L₁ ∧
      proposeCheckpoint env now proposer session checkpoint cursor args.proposal true L₁ = .ok L₂ ∧
      L' = L₂.setData binding.address (.checkpointBindingV2 state) := by
  simp only [proposeCheckpointV2, chain_ok, exists_and_left] at h
  obtain ⟨frame, -, context, -, -, -, first, -, -, -, -, -, input, -, -, hkey, L₁, hinit, -, -,
    L₂, hpropose, rfl⟩ := h
  rw [checkpoint_of_proposeCheckpoint hpropose] at hkey
  exact ⟨hkey, L₁, L₂, _, hinit, hpropose, rfl⟩

/-- A proposal of the second format spares every account but its own binding. -/
theorem footprint_proposeCheckpointV2 (hT : Permits env T) (hproposer : Charged T proposer)
    (hne : T (env.bindingOf args.proposal.erSlot))
    (h : proposeCheckpointV2 env now proposer session checkpoint cursor binding record args L =
      .ok L') : Footprint env T R L L' := by
  obtain ⟨hkey, L₁, L₂, state, hinit, hpropose, rfl⟩ := proposeCheckpointV2_ok h
  rw [← hkey] at hne
  exact ((footprint_initializePdaAccount hinit hproposer hne).trans
    (footprint_proposeCheckpoint hT hproposer hpropose)).write hne (by simp)

theorem footprint_commitCheckpoint (hT : Permits env T)
    (h : commitCheckpoint env now committer session checkpoint cursor proposer e version2 L = .ok
      L') : Footprint env T R L L' := by
  simp only [commitCheckpoint, releaseCheckpointBond, chain_ok, exists_and_left] at h
  obtain ⟨-, -, s, hs, c, hc, k, hk, -, -, -, -, -, -, -, -, -, ⟨L₁, c'⟩, ⟨-, hbond⟩, rfl⟩ := h
  obtain ⟨hsession, -⟩ := game_loadSession hs
  rw [hsession] at hc hk
  obtain ⟨hkey, -⟩ := game_loadCheckpoint hc
  obtain ⟨hkey', -⟩ := game_loadCursor hk
  rw [hkey] at hbond ⊢
  rw [hkey']
  exact ((footprint_resolveCheckpointBond hT hbond).write (hT.game (by simp)) (by simp)).write
    (hT.game (by simp)) (by simp)

/-- A commitment of the second format writes the session besides. -/
theorem footprint_commitCheckpointV2 (hT : Permits env T) (hne : T (env.address .session))
    (h : commitCheckpointV2 env now committer session checkpoint cursor proposer binding e L = .ok
      L') : Footprint env T R L L' := by
  simp only [commitCheckpointV2, chain_ok, exists_and_left] at h
  obtain ⟨frame, hframe, -, state, -, context, -, checkpointState, -, -, -, L₁, hcommit, rfl⟩ := h
  obtain ⟨hsession, -⟩ := loadSessionV2_ok hframe
  rw [hsession]
  exact (footprint_commitCheckpoint hT hcommit).write hne (by simp)

theorem footprint_cancelCheckpoint (hT : Permits env T)
    (h : cancelCheckpoint env now proposer session checkpoint cursor e L = .ok L') :
    Footprint env T R L L' := by
  simp only [cancelCheckpoint, releaseCheckpointBond, chain_ok, exists_and_left] at h
  obtain ⟨-, s, hs, c, hc, k, hk, -, -, -, -, -, -, ⟨L₁, c'⟩, ⟨-, hbond⟩, rfl⟩ := h
  obtain ⟨hsession, -⟩ := game_loadSession hs
  rw [hsession] at hc hk
  obtain ⟨hkey, -⟩ := game_loadCheckpoint hc
  obtain ⟨hkey', -⟩ := game_loadCursor hk
  rw [hkey] at hbond ⊢
  rw [hkey']
  exact ((footprint_resolveCheckpointBond hT hbond).write (hT.game (by simp)) (by simp)).write
    (hT.game (by simp)) (by simp)

/-! ## Challenges and step proofs -/

section Permitted

variable (hT : Permits env T)

include hT

theorem footprint_openChallenge (hchallenger : Charged T challenger)
    (h : openChallenge env now challenger session checkpoint challenge daProof e L = .ok L') :
    Footprint env T R L L' := by
  simp only [openChallenge, chain_ok, exists_and_left] at h
  obtain ⟨-, s, hs, c, hc, -, -, hkey', deadline, -, L₁, hprepare, hkey'', L₂, hprepare', rfl⟩ := h
  obtain ⟨hsession, -⟩ := game_loadSession hs
  rw [hsession] at hc
  obtain ⟨hkey, -⟩ := game_loadCheckpoint hc
  rw [hkey] at hkey'
  have hkey' : challenge.address = env.address (.challenge e) := hkey'
  rw [hkey'] at hkey''
  have hkey'' : daProof.address = env.address (.daProof e) := hkey''
  have hne : T challenge.address := hkey' ▸ hT.game (by simp)
  have hne' : T daProof.address := hkey'' ▸ hT.game (by simp)
  have hfirst : Footprint env T R L L₁ := by
    unfold prepareChallengeAccount at hprepare
    split at hprepare
    · exact footprint_initializePdaAccount hprepare hchallenger hne
    · simp only [chain_ok] at hprepare
      obtain ⟨existing, -, -, rfl⟩ := hprepare
      exact Footprint.refl env T R _
  have hsecond : Footprint env T R L₁ L₂ := by
    unfold prepareDaAccount at hprepare'
    split at hprepare'
    · exact footprint_initializePdaAccount hprepare' hchallenger hne'
    · simp only [chain_ok] at hprepare'
      obtain ⟨existing, -, rfl⟩ := hprepare'
      exact Footprint.refl env T R _
  rw [hkey]
  exact (((hfirst.trans hsecond).write hne (by simp)).write hne' (by simp)).write
    (hT.game (by simp)) (by simp)

theorem footprint_respondChallenge
    (h : respondChallenge env now validator session checkpoint challenge daProof args L = .ok L') :
    Footprint env T R L L' := by
  simp only [respondChallenge, chain_ok, exists_and_left] at h
  obtain ⟨-, s, hs, -, c, hc, -, ch, hch, -, -, -, d, hd, d', -, ch', -, deadline, -, rfl⟩ := h
  obtain ⟨hsession, -⟩ := game_loadSession hs
  rw [hsession] at hc
  obtain ⟨hkey, -⟩ := game_loadCheckpoint hc
  rw [hkey] at hch hd
  obtain ⟨hkey', -⟩ := game_loadChallenge hch
  rw [hkey'] at hd ⊢
  obtain ⟨hkey'', -⟩ := game_loadDaProof hd
  rw [hkey'']
  exact (footprint_setData (hT.game (by simp)) (by simp)).write (hT.game (by simp)) (by simp)

theorem footprint_bisectChallenge
    (h : bisectChallenge env now challenger session checkpoint challenge e disputeUpper L =
      .ok L') :
    Footprint env T R L L' := by
  simp only [bisectChallenge, chain_ok, exists_and_left] at h
  obtain ⟨-, s, hs, c, hc, -, ch, hch, -, -, -, ch', -, deadline, -, rfl⟩ := h
  obtain ⟨hsession, -⟩ := game_loadSession hs
  rw [hsession] at hc
  obtain ⟨hkey, -⟩ := game_loadCheckpoint hc
  rw [hkey] at hch
  obtain ⟨hkey', -⟩ := game_loadChallenge hch
  rw [hkey']
  exact footprint_setData (hT.game (by simp)) (by simp)

theorem footprint_timeoutChallenge
    (h : timeoutChallenge env now caller session checkpoint challenge daProof recipient cursor e L =
      .ok L') : Footprint env T R L L' := by
  simp only [timeoutChallenge, chain_ok, exists_and_left] at h
  obtain ⟨-, s, hs, c, hc, -, ch, hch, -, -, -, k, hk, -, -, d, hd, h⟩ := h
  obtain ⟨hsession, -⟩ := game_loadSession hs
  rw [hsession] at hc hk
  obtain ⟨hkey, -⟩ := game_loadCheckpoint hc
  rw [hkey] at hch hd
  obtain ⟨hkey', -⟩ := game_loadChallenge hch
  rw [hkey'] at hd
  obtain ⟨hkey'', -⟩ := game_loadDaProof hd
  obtain ⟨hcursorkey, -⟩ := game_loadCursor hk
  rw [hkey, hkey', hkey'', hcursorkey] at h
  unfold settleTimeout at h
  split at h
  · simp only [slashCheckpointBond, chain_ok] at h
    obtain ⟨⟨L₁, c'⟩, hbond, rfl⟩ := h
    have hpaid : Footprint env T R L L₁ := (footprint_setData (hT.game (by simp)) (by simp)).trans
      (footprint_resolveCheckpointBond hT hbond)
    exact ((hpaid.write (hT.game (by simp)) (by simp)).write (hT.game (by simp)) (by simp)).write
      (hT.game (by simp)) (by simp)
  · rw [pure_eq_ok] at h
    subst h
    exact (footprint_setData (hT.game (by simp)) (by simp)).write (hT.game (by simp)) (by simp)

theorem footprint_resolveChallenge
    (h : resolveChallenge env now submitter session checkpoint challenge daProof proof recipient
      cursor e mode L = .ok L') : Footprint env T R L L' := by
  simp only [resolveChallenge, chain_ok, exists_and_left] at h
  obtain ⟨-, s, hs, c, hc, -, ch, hch, -, -, -, d, -, -, k, hk, -, -, p, -, -, -, -, -, -, -,
    h⟩ := h
  obtain ⟨hsession, -⟩ := game_loadSession hs
  rw [hsession] at hc hk
  obtain ⟨hkey, -⟩ := game_loadCheckpoint hc
  rw [hkey] at hch
  obtain ⟨hkey', -⟩ := game_loadChallenge hch
  obtain ⟨hcursorkey, -⟩ := game_loadCursor hk
  rw [hkey, hkey', hcursorkey] at h
  cases hverdict : verifyStepProof env mode c ch p with
  | unavailable =>
    rw [hverdict] at h
    cases h
  | invalid =>
    rw [hverdict] at h
    simp only [settleResolution, slashCheckpointBond, chain_ok] at h
    obtain ⟨-, ⟨L₁, c'⟩, hbond, rfl⟩ := h
    exact (((footprint_resolveCheckpointBond hT hbond).write (hT.game (by simp)) (by simp)).write
      (hT.game (by simp)) (by simp)).write (hT.game (by simp)) (by simp)
  | valid =>
    rw [hverdict] at h
    simp only [settleResolution, pure_eq_ok] at h
    subst h
    exact (footprint_setData (hT.game (by simp)) (by simp)).write (hT.game (by simp)) (by simp)

theorem footprint_createStepProof (hauthority : Charged T authority)
    (h : createStepProof env now authority session checkpoint challenge proof args L = .ok L') :
    Footprint env T R L L' := by
  simp only [createStepProof, chain_ok, exists_and_left] at h
  obtain ⟨-, -, s, hs, c, hc, -, ch, -, -, -, -, -, -, -, -, hkey', L₁, hprepare, rfl⟩ := h
  obtain ⟨hsession, -⟩ := game_loadSession hs
  rw [hsession] at hc
  obtain ⟨hkey, -⟩ := game_loadCheckpoint hc
  rw [hkey] at hkey'
  have hkey' : proof.address = env.address (.stepProof args.erSlot) := hkey'
  have hne : T proof.address := hkey' ▸ hT.game (by simp)
  have hprepared : Footprint env T R L L₁ := by
    unfold prepareStepProofAccount at hprepare
    split at hprepare
    · exact footprint_initializePdaAccount hprepare hauthority hne
    · simp only [chain_ok] at hprepare
      obtain ⟨-, rfl⟩ := hprepare
      exact Footprint.refl env T R _
  exact hprepared.write hne (by simp)

theorem footprint_writeStepProof
    (h : writeStepProof env now authority session checkpoint challenge proof args L = .ok L') :
    Footprint env T R L L' := by
  simp only [writeStepProof, chain_ok] at h
  obtain ⟨p, hload, -, rfl⟩ := h
  obtain ⟨hkey, -⟩ := loadOpenStepProof_ok hload
  rw [hkey]
  exact footprint_setData (hT.game (by simp)) (by simp)

theorem footprint_sealStepProof
    (h : sealStepProof env now authority session checkpoint challenge proof e proofLen L = .ok L') :
    Footprint env T R L L' := by
  simp only [sealStepProof, chain_ok] at h
  obtain ⟨p, hload, -, rfl⟩ := h
  obtain ⟨hkey, -⟩ := loadOpenStepProof_ok hload
  rw [hkey]
  exact footprint_setData (hT.game (by simp)) (by simp)

end Permitted

/-! ## Sessions -/

theorem footprint_openSession (hT : Permits env T) (hne : T (env.address .session))
    (hpayer : Charged T payer)
    (h : openSession env now payer session feeVault args version2 L = .ok L') :
    Footprint env T R L L' := by
  simp only [openSession, chain_ok, exists_and_left] at h
  obtain ⟨-, -, hkey, hkey', L₁, hinit, L₂, hinit', rfl⟩ := h
  have hkey : session.address = env.address .session := hkey
  have hkey' : feeVault.address = env.address .feeVault := hkey'
  have hne : T session.address := hkey ▸ hne
  have hne' : T feeVault.address := hkey' ▸ hT.game (by simp)
  refine (((footprint_initializePdaAccount hinit hpayer hne).trans
    (footprint_initializePdaAccount hinit' hpayer hne')).write hne ?_).write hne' (by simp)
  cases version2 <;> simp [OpenSession.data]

theorem footprint_openSessionV2 (hT : Permits env T) (hne : T (env.address .session))
    (hpayer : Charged T payer) (hkind : Covers env T (ascii "session_epoch_v2"))
    (h : openSessionV2 env now payer session feeVault epoch args L = .ok L') :
    Footprint env T R L L' := by
  simp only [openSessionV2, prepareSessionEpochV2, chain_ok, exists_and_left, not_or] at h
  obtain ⟨-, ⟨-, hkey, -⟩, counter, -, -, L₁, hprepare, L₂, hopen, rfl⟩ := h
  have hne' := hkind.of_eq .sessionEpochV2 rfl hkey
  have hprepared : Footprint env T R L L₁ := by
    split at hprepare
    · exact footprint_initializePdaAccount hprepare hpayer hne'
    · cases hprepare
      exact Footprint.refl env T R L
  exact (hprepared.trans (footprint_openSession hT hne hpayer hopen)).write hne' (by simp)

theorem footprint_refund (hcloser : T closer) (h : refund L closer a = .ok L') :
    Footprint env T R L L' := by
  obtain ⟨n, -, rfl⟩ := refund_ok h
  exact footprint_setLamports hcloser n

theorem footprint_closeSession (hT : Permits env T) (hne : T (env.address .session))
    (hcloser : Charged T closer) (hR : ∀ a, env.Derived a → R a)
    (h : closeSession env closer session feeVault cursor L = .ok L') : Footprint env T R L L' := by
  simp only [closeSession, chain_ok, exists_and_left] at h
  obtain ⟨hsigner, hkey, hkey', hkey'', s, -, -, v, -, -, -, -, -, L₁, hrefund, L₃, hrefund', L₄,
    hclose, rfl⟩ := h
  have hkey : session.address = env.address .session := hkey
  have hkey' : feeVault.address = env.address .feeVault := hkey'
  rw [hkey] at hkey''
  have hkey'' : cursor.address = env.address .cursor := hkey''
  have hne : T session.address := hkey ▸ hne
  have hne' : T feeVault.address := hkey' ▸ hT.game (by simp)
  have hne'' : T cursor.address := hkey'' ▸ hT.game (by simp)
  have hpayee := hcloser (by simpa using hsigner)
  have hclosed : Footprint env T R L₃ L₄ := by
    unfold closeCursor at hclose
    split at hclose
    · cases hclose
      exact Footprint.refl env T R _
    · simp only [chain_ok] at hclose
      obtain ⟨L₅, hrefund'', rfl⟩ := hclose
      exact ((footprint_refund hpayee hrefund'').trans (footprint_setLamports hne'' 0)).trans
        (footprint_close hne'' (hR _ ⟨_, hkey''⟩))
  exact (((((footprint_refund hpayee hrefund).trans (footprint_setLamports hne' 0)).trans
    (footprint_refund hpayee hrefund')).trans hclosed).trans (footprint_setLamports hne 0)).trans
    ((footprint_close hne' (hR _ ⟨_, hkey'⟩)).trans (footprint_close hne (hR _ ⟨_, hkey⟩)))

theorem footprint_finishSettlement (hT : Permits env T) (hne : T (env.address .session))
    (h : finishSettlement env now validator session checkpoint cursor e checksum L = .ok L') :
    Footprint env T R L L' := by
  simp only [finishSettlement, loadCheckpointForSettlement, chain_ok, exists_and_left] at h
  obtain ⟨s, hs, -, -, -, -, -, c, ⟨c', hc, -, -, rfl⟩, k, hk, -, -, hstore⟩ := h
  obtain ⟨hsession, -⟩ := game_loadSession hs
  rw [hsession] at hc hk hstore
  obtain ⟨hkey, -⟩ := game_loadCheckpoint hc
  obtain ⟨hkey', -⟩ := game_loadCursor hk
  rw [hkey, hkey'] at hstore
  exact ((footprint_setData (hT.game (by simp)) (by simp)).write (hT.game (by simp))
    (by simp)).trans (footprint_storeSession hne hstore)

/-! ## Dispatch -/

/-- **Returning**: the account a call of one of the two returning instructions names. -/
def Call.Returns (c : Call) (a : Pubkey) : Prop :=
  (c.instruction = .undelegate ∨ c.instruction = .undelegateHandoff) ∧
    (c.accounts[1]?).map AccountMeta.address = some a

/-- The footprint of an instruction of the game: its accounts, those of its kinds and accounts
that sign. -/
theorem footprint_of_inGame (hT : Permits env T) (hn : ∀ m ∈ accounts, Charged T m)
    (hi : i.inGame = true) (hsession : i.writesSession = true → T (env.address .session))
    (hkinds : ∀ kind ∈ i.sideKinds, Covers env T kind) (hderived : ∀ a, env.Derived a → R a)
    (h : processInstruction env now accounts i L = .ok L') : Footprint env T R L L' := by
  cases i <;> simp only [Instruction.inGame, reduceCtorEq] at hi <;>
    simp only [Instruction.writesSession, Instruction.sideKinds, true_implies, List.mem_cons,
      List.not_mem_nil, or_false, forall_eq] at hsession hkinds <;>
    simp only [processInstruction] at h
  case openSession args =>
    unfold processOpenSessionInitialized at h
    split at h
    · exact footprint_openSession hT hsession (hn _ (by simp)) h
    · cases h
  case closeSession =>
    unfold processCloseSession at h
    split at h
    · exact footprint_closeSession hT hsession (hn _ (by simp)) hderived h
    · cases h
  case finishSettlement e checksum =>
    unfold processFinishSettlement at h
    split at h
    · exact footprint_finishSettlement hT hsession h
    · cases h
  case proposeCheckpoint args =>
    simp only [processProposeCheckpointVersioned, bind_eq_ok] at h
    obtain ⟨u, -, h⟩ := h
    split at h
    · exact footprint_proposeCheckpoint hT (hn _ (by simp)) h
    · cases h
  case commitCheckpoint e =>
    unfold processCommitCheckpointVersioned at h
    split at h
    · exact footprint_commitCheckpoint hT h
    · cases h
  case cancelCheckpoint e =>
    unfold processCancelCheckpoint at h
    split at h
    · exact footprint_cancelCheckpoint hT h
    · cases h
  case openChallenge e =>
    unfold processOpenChallenge at h
    split at h
    · exact footprint_openChallenge hT (hn _ (by simp)) h
    · cases h
  case createStepProof args =>
    unfold processCreateStepProof at h
    split at h
    · exact footprint_createStepProof hT (hn _ (by simp)) h
    · cases h
  case writeStepProof args =>
    unfold processWriteStepProof at h
    split at h
    · exact footprint_writeStepProof hT h
    · cases h
  case sealStepProof e proofLen =>
    unfold processSealStepProof at h
    split at h
    · exact footprint_sealStepProof hT h
    · cases h
  case resolveChallenge e mode =>
    unfold processResolveChallenge at h
    split at h
    · exact footprint_resolveChallenge hT h
    · cases h
  case respondChallenge args =>
    unfold processRespondChallenge at h
    split at h
    · exact footprint_respondChallenge hT h
    · cases h
  case bisectChallenge e disputeUpper =>
    unfold processBisectChallenge at h
    split at h
    · exact footprint_bisectChallenge hT h
    · cases h
  case timeoutChallenge e =>
    unfold processTimeoutChallenge at h
    split at h
    · exact footprint_timeoutChallenge hT h
    · cases h
  case openSessionV2 args =>
    have h := (onlyWith_ok h).2
    unfold processOpenSessionV2 at h
    split at h
    · exact footprint_openSessionV2 hT hsession (hn _ (by simp)) hkinds h
    · cases h
  case proposeCheckpointV2 args =>
    have h := (onlyWith_ok h).2
    unfold processProposeCheckpointV2 at h
    split at h
    · exact footprint_proposeCheckpointV2 hT (hn _ (by simp))
        (hkinds (.checkpointBindingV2 _) rfl) h
    · cases h
  case commitCheckpointV2 e =>
    have h := (onlyWith_ok h).2
    unfold processCommitCheckpointV2 at h
    split at h
    · exact footprint_commitCheckpointV2 hT hsession h
    · cases h

/-- **The footprint of an instruction**: the game, the accounts of its kinds, delegated accounts
and accounts that sign. What it closes or returns is in `R`. -/
theorem footprint_processInstruction (hT : Permits env T)
    (hu : ∀ a r, (L (env.recordOf a)).data = .delegationRecord r → T a)
    (hn : ∀ m ∈ accounts, Charged T m)
    (hsession : i.writesSession = true → T (env.address .session))
    (hkinds : ∀ kind ∈ i.sideKinds, Covers env T kind)
    (hR : ∀ a, env.Derived a ∨ Call.Returns ⟨now, accounts, i⟩ a → R a)
    (h : processInstruction env now accounts i L = .ok L') : Footprint env T R L L' := by
  cases hi : i.inGame with
  | false =>
    exact footprint_of_sideStep hT (sideStep_processInstruction hi hu
      (fun m hm => Scope.admits (hn m hm)) hsession hkinds hR h)
  | true =>
    exact footprint_of_inGame hT hn hi hsession hkinds (fun a ha => hR a (.inl ha)) h

/-- **An instruction spares the accounts of the kinds it does not write.** -/
theorem spared_processInstruction (hw : Beside env kinds w)
    (hu : ∀ r, (L (env.recordOf w)).data ≠ .delegationRecord r) (hn : ∀ m ∈ accounts, Named env S m)
    (hsession : i.writesSession = true → w ≠ env.address .session)
    (hkinds : ∀ kind ∈ i.sideKinds, kind ∉ kinds)
    (h : processInstruction env now accounts i L = .ok L') : Spared env w L L' := by
  refine (footprint_processInstruction hw.permits ?_
    (fun m hm => hw.charged (hn m hm)) (fun hi => (hsession hi).symm)
    (fun kind hkind => hw.covers (hkinds kind hkind)) (fun _ _ => trivial) h).spares
  rintro a r hr rfl
  exact hu r hr

/-- **A call keeps the account**, unless it returns it. -/
theorem kept_of_call {a : Pubkey} (ha : ¬env.Derived a) {c : Call} (hc : ¬c.Returns a)
    (h : c.result env L = .ok L') : Kept env a L L' :=
  (footprint_processInstruction (T := fun _ => True)
    (R := fun b => env.Derived b ∨ c.Returns b) (Permits.all env) (fun _ _ _ => trivial)
    (fun _ _ _ => trivial) (fun _ => trivial) (fun _ _ _ _ _ => trivial) (fun _ => id) h).kept a
    (not_or.mpr ⟨ha, hc⟩)

theorem spared_of_other (hw : Beside env kinds w) (h : LeavesPortalAlone env L after) :
    Spared env w L after := by
  obtain ⟨hdata, howner, hlamports⟩ := h w (.inr hw.derived)
  refine ⟨hdata, howner, hlamports, fun hu r => ?_⟩
  rw [(h (env.recordOf w) (.inr ⟨_, rfl⟩)).1]
  exact hu r

/-- **One event** spares the account, unless it is a successful call of an instruction that
writes accounts of its kind. -/
theorem spared_of_event (hw : Beside env kinds w)
    (hu : ∀ r, (L (env.recordOf w)).data ≠ .delegationRecord r) (ha : Admissible env L event)
    (hevent : ∀ c L', event = .call c → c.result env L = .ok L' →
      (c.instruction.writesSession = true → w ≠ env.address .session) ∧
      ∀ kind ∈ c.instruction.sideKinds, kind ∉ kinds) :
    Spared env w L (exec env L event) := by
  cases event with
  | other after => exact spared_of_other hw ha
  | call c =>
    cases hresult : c.result env L with
    | error e =>
      rw [exec_call_of_error hresult]
      exact Spared.refl env w L
    | ok L' =>
      rw [exec_call_of_ok hresult]
      obtain ⟨hsession, hkinds⟩ := hevent c L' rfl hresult
      exact spared_processInstruction hw hu (Call.named ha subset_rfl) hsession hkinds hresult

end Northstar.Portal
