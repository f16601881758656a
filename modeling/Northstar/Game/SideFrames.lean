import Northstar.Game.Frame

/-!
# Frames of the instructions outside the game

Every instruction that does not belong to the checkpoint game is a frame. The proofs follow
the instructions once: guards are dropped, loads say which accounts may be written, and the
writes that remain are primitive steps. What such a run of steps leaves alone is then a matter
of the primitive steps.

## Main definitions

* `Scope`: what an instruction may write, return and count
* `SideStep`: the steps of an instruction outside the game

## Main results

* `sideStep_processInstruction`: every instruction outside the game is a run of such steps
* `frame_processInstruction`: and so a frame
-/

namespace Northstar.Portal

open Bytes Checked Ledger

/-- An account that an instruction names: it counts in `S`, and it signs only if it is not
derived. -/
structure Named (env : Env) (S : Finset Pubkey) (m : AccountMeta) : Prop where
  mem : m.address ∈ S
  signer : m.isSigner = true → ¬env.Derived m.address

/-- Where the delegation record of an account lives. -/
abbrev Env.recordOf (env : Env) (a : Pubkey) : Pubkey := (findDelegationRecordPda env a).1

/-- Accounts beside the game of one kind. -/
def Covers (env : Env) (T : Pubkey → Prop) (kind : List UInt8) : Prop :=
  ∀ {seeds : List (List UInt8)}, Env.SideSeeds seeds → seeds.head? = some kind →
    T (env.findProgramAddress seeds env.programId).1

/-- An account that is covered if it signs. -/
def Charged (T : Pubkey → Prop) (m : AccountMeta) : Prop := m.isSigner = true → T m.address

variable {env : Env} {L : Ledger}

section Loads

variable {session : Session} {account record : Pubkey}

theorem parseDelegationRecord_eq_some :
    parseDelegationRecord d = some r ↔ d = .delegationRecord r := by
  cases d <;> simp [parseDelegationRecord]

theorem loadDelegationRecord_ok (h : loadDelegationRecord env L session account record = .ok r) :
    record = (findDelegationRecordPda env account).1 ∧ (L record).data = .delegationRecord r := by
  simp only [loadDelegationRecord, chain_ok, parseDelegationRecord_eq_some, exists_and_left] at h
  obtain ⟨-, hkey, -, state, hdata, -, rfl⟩ := h
  exact ⟨hkey, hdata⟩

end Loads

/-! ## Steps -/

/-- **The scope** of an instruction: the accounts it may write, those it may close or return,
whether it may write the session, and the accounts whose lamports are counted together, if any
are. -/
structure Scope where
  writes : Pubkey → Prop
  returns : Pubkey → Prop
  session : Prop
  counted : Option (Finset Pubkey)

/-- The lamports of the account are counted, if any are. -/
def Scope.Counts (s : Scope) (a : Pubkey) : Prop := ∀ S ∈ s.counted, a ∈ S

/-- An account that an instruction names is in its scope: it may pay if it signs. -/
structure Scope.Admits (env : Env) (s : Scope) (m : AccountMeta) : Prop where
  charged : Charged s.writes m
  named : ∀ S ∈ s.counted, Named env S m

theorem Scope.Admits.counts {env : Env} {s : Scope} {m : AccountMeta} (h : s.Admits env m) :
    s.Counts m.address :=
  fun S hS => (h.named S hS).mem

/-- **Steps beside the game.** -/
inductive SideStep (env : Env) (s : Scope) : Ledger → Ledger → Prop
  | refl (L : Ledger) : SideStep env s L L
  | trans {L₁ L₂ L₃ : Ledger} : SideStep env s L₁ L₂ → SideStep env s L₂ L₃ → SideStep env s L₁ L₃
  | setData {L : Ledger} {a : Pubkey} {d : AccountData} (ha : s.writes a)
      (hd : ∀ r, d ≠ .delegationRecord r) : SideStep env s L (L.setData a d)
  /-- The delegation record of an account that may be written. -/
  | setRecord {L : Ledger} {a : Pubkey} (ha : s.writes a) (hrecord : s.writes (env.recordOf a))
      (d : AccountData) : SideStep env s L (L.setData (env.recordOf a) d)
  /-- The session keeps its policy, if it is written in no other way. -/
  | setSession {L : Ledger} {d : AccountData} (hs : s.session) (hd : ∀ r, d ≠ .delegationRecord r)
      (hpolicy : ¬s.writes (env.address .session) →
        policyOf d = policyOf (L (env.address .session)).data) :
      SideStep env s L (L.setData (env.address .session) d)
  | setOwner {L : Ledger} {a o : Pubkey} (ha : s.writes a) (ho : o = env.programId ∨ s.returns a) :
      SideStep env s L (L.setOwner a o)
  /-- Lamports move, and what is counted stays the same. -/
  | lamports {L L' : Ledger} (hdata : ∀ a, (L' a).data = (L a).data)
      (howner : ∀ a, (L' a).owner = (L a).owner)
      (hle : ∀ a, ¬s.writes a → (L a).lamports ≤ (L' a).lamports)
      (htotal : ∀ S ∈ s.counted, L'.total S = L.total S) : SideStep env s L L'
  | close {L : Ledger} {a : Pubkey} (ha : s.writes a) (hr : s.returns a)
      (hzero : (L a).lamports = 0) : SideStep env s L (L.close a)

variable {s : Scope} {L' : Ledger} {a : Pubkey}

section Steps

variable {L₁ : Ledger}

theorem ne_of_covered {T : Pubkey → Prop} (hw : ¬T w) (ha : T a) : w ≠ a := by
  rintro rfl
  exact hw ha

theorem Covers.of_eq {T : Pubkey → Prop} (hkind : Covers env T kind) (hseeds : Env.SideSeeds seeds)
    (hhead : seeds.head? = some kind) (ha : a = (env.findProgramAddress seeds env.programId).1) :
    T a := by
  rw [ha]
  exact hkind hseeds hhead

/-- Without the session in the scope, its policy stays. -/
theorem SideStep.policy (h : SideStep env s L L') (hs : ¬s.writes (env.address .session)) :
    policyOf (L' (env.address .session)).data = policyOf (L (env.address .session)).data := by
  induction h with
  | refl L => rfl
  | trans _ _ ih ih' => exact ih'.trans ih
  | setData ha hd => rw [setData_data, if_neg (ne_of_covered hs ha)]
  | setRecord ha hrecord d => rw [setData_data, if_neg (ne_of_covered hs hrecord)]
  | setSession hs' hd hpolicy => rw [setData_data, if_pos rfl, hpolicy hs]
  | setOwner ha ho => rw [setOwner_data]
  | lamports hdata => rw [hdata]
  | close ha hr hzero => rw [close_of_ne _ (ne_of_covered hs ha)]

theorem sideStep_systemTransfer (hsource : s.Admits env source) (hdest : s.Counts dest)
    (h : systemTransfer L source dest amount = .ok L') : SideStep env s L L' :=
  .lamports (fun _ => systemTransfer_data h) (fun _ => systemTransfer_owner h)
    (fun _ ha => systemTransfer_lamports_le h
      (ne_of_covered ha (hsource.charged (systemTransfer_ok h).1)))
    fun S hS => systemTransfer_total h (hsource.named S hS).mem (hdest S hS)

theorem sideStep_initializePdaAccount (hpayer : s.Admits env payer) (hpda : s.Counts pda)
    (hwrites : s.writes pda) (h : initializePdaAccount env L payer pda lamports space = .ok L') :
    SideStep env s L L' := by
  obtain ⟨-, -, L₁, hfund, rfl⟩ := initializePdaAccount_ok h
  have hfunded : SideStep env s L L₁ := by
    rcases hfund with ⟨rfl, -⟩ | ⟨m, -, hm⟩
    · exact .refl _
    · exact sideStep_systemTransfer hpayer hpda hm
  exact (hfunded.trans (.setData hwrites (by simp))).trans (.setOwner hwrites (.inl rfl))

/-- Steps, and then the settlement under way stored in the session. -/
theorem SideStep.store (hbefore : SideStep env s L L₁) (hs : s.session)
    (h : storeSession L₁ (env.address .session) state = .ok L')
    (hp : policyOf (L (env.address .session)).data = some state.clearSettlement) :
    SideStep env s L L' := by
  obtain ⟨d, hd, rfl⟩ := storeSession_ok h
  obtain ⟨hpolicy, hrecord⟩ := policyOf_writeSession hd
  refine hbefore.trans (.setSession hs hrecord fun hw => ?_)
  rw [hpolicy, hbefore.policy hw, hp]

end Steps

/-! ## Settlement -/

variable {S : Finset Pubkey} {targets : LamportTargets}

section Settlement

variable {validator session : AccountMeta}

section Delegated

variable {delegatedAccount delegationRecord : AccountMeta} (hs : s.session)
  (hu : ∀ a r, (L (env.recordOf a)).data = .delegationRecord r → s.writes a)

include hs hu

theorem sideStep_writeSettlementChunk
    (h : writeSettlementChunk env validator session delegatedAccount delegationRecord args L = .ok
      L') : SideStep env s L L' := by
  simp only [writeSettlementChunk, chain_ok, exists_and_left] at h
  obtain ⟨state, hstate, -, -, -, -, r, hr, -, -, hinstall⟩ := h
  obtain ⟨hkey, hp⟩ := policyOf_of_loadSession hstate
  obtain ⟨hrecord, hdata⟩ := loadDelegationRecord_ok hr
  rw [hrecord] at hdata
  rw [hkey] at hinstall hp
  unfold installChunk at hinstall
  split at hinstall
  · cases hinstall
    exact .refl L
  · exact SideStep.store (.setData (hu _ _ hdata) (by simp)) hs hinstall hp

theorem sideStep_settleAccountOwner (hkind : Covers env s.writes (ascii "delegation"))
    (h : settleAccountOwner env validator session delegatedAccount delegationRecord args L =
      .ok L') :
    SideStep env s L L' := by
  simp only [settleAccountOwner, bind_eq_ok] at h
  obtain ⟨state, hstate, -, -, -, -, r, hr, hinstall⟩ := h
  obtain ⟨hkey, hp⟩ := policyOf_of_loadSession hstate
  obtain ⟨hrecord, hdata⟩ := loadDelegationRecord_ok hr
  rw [hrecord] at hdata
  rw [hkey] at hinstall hp
  unfold installOwner at hinstall
  split at hinstall
  · cases hinstall
    exact .refl L
  · -- The record written is the delegated account's own.
    rw [hrecord] at hinstall
    exact SideStep.store (.setRecord (hu _ _ hdata) (hkind (.delegation _) rfl) _) hs hinstall hp

end Delegated

theorem requireDelegatedPairs_ok {session : Session} {seen : List Pubkey}
    {pairs : List (Pubkey × Pubkey)} (h : requireDelegatedPairs env L session seen pairs = .ok ()) :
    (∀ p ∈ pairs, ∃ r, loadDelegationRecord env L session p.1 p.2 = .ok r) ∧
      (pairs.map Prod.fst).Nodup ∧ ∀ p ∈ pairs, p.1 ∉ seen := by
  induction pairs generalizing seen with
  | nil => simp
  | cons p rest ih =>
    obtain ⟨account, record⟩ := p
    simp only [requireDelegatedPairs, chain_ok] at h
    obtain ⟨r, hr, hseen, hrest⟩ := h
    obtain ⟨hload, hnodup, hfresh⟩ := ih hrest
    refine ⟨?_, ?_, ?_⟩
    · rintro q (_ | ⟨_, hq⟩)
      · exact ⟨r, hr⟩
      · exact hload q hq
    · rw [List.map_cons, List.nodup_cons]
      refine ⟨fun hmem => ?_, hnodup⟩
      obtain ⟨q, hq, heq⟩ := List.mem_map.mp hmem
      exact hfresh q hq (heq ▸ List.mem_cons_self)
    · rintro q (_ | ⟨_, hq⟩)
      · exact hseen
      · exact fun hmem => hfresh q hq (List.mem_cons_of_mem _ hmem)

namespace LamportTargets

theorem install_append (targets targets' : LamportTargets) (L : Ledger) :
    install (targets ++ targets') L = install targets' (install targets L) :=
  List.foldl_append

@[simp] theorem install_data (targets : LamportTargets) (L : Ledger) (a : Pubkey) :
    (install targets L a).data = (L a).data := by
  induction targets generalizing L with
  | nil => rfl
  | cons t rest ih => exact (ih (L.setLamports t.1 t.2)).trans (by simp)

@[simp] theorem install_owner (targets : LamportTargets) (L : Ledger) (a : Pubkey) :
    (install targets L a).owner = (L a).owner := by
  induction targets generalizing L with
  | nil => rfl
  | cons t rest ih => exact (ih (L.setLamports t.1 t.2)).trans (by simp)

theorem install_lamports_of_not_mem (h : a ∉ targets.map Prod.fst) (L : Ledger) :
    (install targets L a).lamports = (L a).lamports := by
  induction targets generalizing L with
  | nil => rfl
  | cons t rest ih =>
    rw [List.map_cons, List.mem_cons, not_or] at h
    refine (ih h.2 (L.setLamports t.1 t.2)).trans ?_
    rw [setLamports_lamports, if_neg h.1]

theorem currentTotal_setLamports (h : a ∉ targets.map Prod.fst) (L : Ledger) (n : UInt64) :
    targets.currentTotal (L.setLamports a n) = targets.currentTotal L := by
  unfold currentTotal
  congr 1
  refine List.map_congr_left fun t ht => ?_
  have hne : t.1 ≠ a := by
    rintro rfl
    exact h (List.mem_map_of_mem ht)
  rw [setLamports_lamports, if_neg hne]

/-- Installing targets replaces what the accounts held by what they are to hold. -/
theorem total_install (hnodup : (targets.map Prod.fst).Nodup) (hS : ∀ t ∈ targets, t.1 ∈ S)
    (L : Ledger) :
    (install targets L).total S + targets.currentTotal L = L.total S + targets.targetTotal := by
  induction targets generalizing L with
  | nil => rfl
  | cons t rest ih =>
    rw [List.map_cons, List.nodup_cons] at hnodup
    have hrest := ih hnodup.2 (fun u hu => hS u (List.mem_cons_of_mem _ hu)) (L.setLamports t.1 t.2)
    have hhead := L.total_setLamports S t.2 (hS t List.mem_cons_self)
    rw [currentTotal_setLamports hnodup.1] at hrest
    have hcurrent : currentTotal (t :: rest) L = (L t.1).lamports.toNat + currentTotal rest L := rfl
    have htarget : targetTotal (t :: rest) = t.2.toNat + targetTotal rest := rfl
    have hinstall : install (t :: rest) L = install rest (L.setLamports t.1 t.2) := rfl
    rw [hinstall]
    omega

end LamportTargets

/-- The credit of a surplus: nothing without a surplus, or the vault's balance with it. -/
theorem creditSurplus_ok (h : creditSurplus L surplus vault = .ok credit) :
    vault = none ∧ surplus = 0 ∧ credit = [] ∨
      ∃ v balance, vault = some v ∧ balance.toNat = (L v).lamports.toNat + surplus ∧
        credit = [(v, balance)] := by
  cases vault with
  | none =>
    simp only [creditSurplus, chain_ok] at h
    exact .inl ⟨rfl, h.1, h.2.symm⟩
  | some v =>
    simp only [creditSurplus, chain_ok, checkedAdd_eq_some] at h
    obtain ⟨hsmall, balance, hbalance, rfl⟩ := h
    rw [UInt64.toNat_ofNat', Nat.mod_eq_of_lt (by omega)] at hbalance
    exact .inr ⟨v, balance, rfl, hbalance, rfl⟩

namespace LamportTargets

/-- Targets and a credited surplus leave what the accounts hold together. -/
theorem total_install_credit (hnodup : (targets.map Prod.fst).Nodup)
    (htargets : ∀ t ∈ targets, t.1 ∈ S)
    (hvault : ∀ v, vault = some v → v ∈ S ∧ v ∉ targets.map Prod.fst)
    (henough : targets.targetTotal ≤ targets.currentTotal L)
    (h : creditSurplus L (targets.currentTotal L - targets.targetTotal) vault = .ok credit) :
    (install (targets ++ credit) L).total S = L.total S := by
  have htotal := total_install hnodup htargets L
  rw [install_append]
  rcases creditSurplus_ok h with ⟨-, hzero, rfl⟩ | ⟨v, balance, hv, hbalance, rfl⟩
  · show (install targets L).total S = L.total S
    omega
  · obtain ⟨hmem, hfresh⟩ := hvault v hv
    have hold := install_lamports_of_not_mem hfresh L
    have hcredited := (install targets L).total_setLamports S balance hmem
    show ((install targets L).setLamports v balance).total S = L.total S
    rw [hold] at hcredited
    omega

/-- An account that is no target loses nothing, and only the vault gains. -/
theorem install_credit_lamports (ha : a ∉ targets.map Prod.fst)
    (h : creditSurplus L surplus vault = .ok credit) :
    (install (targets ++ credit) L a).lamports.toNat =
      (L a).lamports.toNat + if vault = some a then surplus else 0 := by
  have hold := install_lamports_of_not_mem ha L
  rw [install_append]
  rcases creditSurplus_ok h with ⟨rfl, -, rfl⟩ | ⟨v, balance, rfl, hbalance, rfl⟩
  · show (install targets L a).lamports.toNat = _
    simp [hold]
  · show ((install targets L).setLamports v balance a).lamports.toNat = _
    rw [setLamports_lamports]
    by_cases hav : a = v
    · subst hav
      simp [hbalance]
    · simp [hav, hold, Ne.symm hav]

end LamportTargets

/-- A vault that takes a surplus is named by the instruction and is no target. -/
theorem loadSurplusVault_ok {session : Session} {targets : LamportTargets}
    {trailing : List AccountMeta} {previous : Option Hash32} {v : Pubkey}
    (h : loadSurplusVault env L session targets trailing previous = .ok (some (some v))) :
    ∃ m ∈ trailing, m.address = v ∧ v ∉ targets.map Prod.fst := by
  cases previous with
  | none => simp [loadSurplusVault] at h
  | some previous =>
    simp only [loadSurplusVault, chain_ok] at h
    obtain ⟨m, hm, -, -, vault, -, hstate, h⟩ := h
    split at h
    · simp at h
    · simp only [chain_ok, Option.some.injEq] at h
      obtain ⟨-, rfl⟩ := h
      exact ⟨m, List.mem_of_mem_head? hm, rfl, fun hmem => hstate (.inr (.inr hmem))⟩

theorem map_fst_zip_sublist {α β : Type*} (l : List α) (m : List β) :
    ((l.zip m).map Prod.fst).Sublist l := by
  induction l generalizing m with
  | nil => simp
  | cons a l ih =>
    cases m with
    | nil => simp
    | cons b m => exact (ih m).cons_cons a

/-- Lamports move among delegated accounts, and from them to the fee vault. -/
theorem sideStep_settleAccountLamports (hs : s.session)
    (hu : ∀ a r, (L (env.recordOf a)).data = .delegationRecord r → s.writes a)
    (hpairs : ∀ p ∈ pairs, ∀ S ∈ s.counted, p.1 ∈ S) (htrailing : ∀ m ∈ trailing, s.Admits env m)
    (h : settleAccountLamports env validator session pairs trailing args previous L = .ok L') :
    SideStep env s L L' := by
  simp only [settleAccountLamports, bind_eq_ok] at h
  obtain ⟨state, hstate, -, -, -, -, ⟨⟩, hrequire, vault, hvault, h⟩ := h
  obtain ⟨hkey, hp⟩ := policyOf_of_loadSession hstate
  rw [hkey] at h hp
  obtain ⟨hload, hnodup, -⟩ := requireDelegatedPairs_ok hrequire
  cases vault with
  | none =>
    rw [pure_eq_ok] at h
    subst h
    exact .refl L
  | some vault =>
    have hsub : (((pairs.map Prod.fst).zip args.lamports.toList).map Prod.fst).Sublist
        (pairs.map Prod.fst) := map_fst_zip_sublist _ _
    simp only [installLamports, bind_eq_ok] at h
    obtain ⟨-, -, h⟩ := h
    split at h
    · cases h
      exact .refl L
    · simp only [chain_ok, not_lt] at h
      obtain ⟨henough, credit, hcredit, hstore⟩ := h
      refine SideStep.store (.lamports (LamportTargets.install_data _ L)
        (LamportTargets.install_owner _ L) (fun w hw => ?_) fun S hS => ?_) hs hstore hp
      · -- every target has a delegation record
        have hnot : w ∉ ((pairs.map Prod.fst).zip args.lamports.toList).map Prod.fst := by
          intro hmem
          obtain ⟨p, hpair, heq⟩ := List.mem_map.mp (hsub.subset hmem)
          obtain ⟨r, hr⟩ := hload p hpair
          obtain ⟨hrecord, hdata⟩ := loadDelegationRecord_ok hr
          rw [hrecord, heq] at hdata
          exact hw (hu _ r hdata)
        rw [UInt64.le_iff_toNat_le, LamportTargets.install_credit_lamports hnot hcredit]
        exact Nat.le_add_right _ _
      · refine LamportTargets.total_install_credit (hnodup.sublist hsub) ?_ ?_ henough hcredit
        · intro t ht
          obtain ⟨p, hpair, heq⟩ := List.mem_map.mp (hsub.subset (List.mem_map_of_mem ht))
          exact heq ▸ hpairs p hpair S hS
        · rintro v rfl
          obtain ⟨m, hm, rfl, hfresh⟩ := loadSurplusVault_ok hvault
          exact ⟨((htrailing m hm).named S hS).mem, hfresh⟩

theorem sideStep_beginSettlement (hs : s.session)
    (h : beginSettlement env now validator session checkpoint args L = .ok L') :
    SideStep env s L L' := by
  simp only [beginSettlement, chain_ok] at h
  obtain ⟨state, hstate, -, -, -, -, -, c, -, -, hstore⟩ := h
  obtain ⟨hkey, hp⟩ := policyOf_of_loadSession hstate
  rw [hkey] at hstore hp
  exact SideStep.store (.refl L) hs hstore hp

theorem sideStep_abortSettlement (hs : s.session)
    (h : abortSettlement env now caller session L = .ok L') : SideStep env s L L' := by
  simp only [abortSettlement, chain_ok] at h
  obtain ⟨state, hstate, -, -, -, -, hstore⟩ := h
  obtain ⟨hkey, hp⟩ := policyOf_of_loadSession hstate
  rw [hkey] at hstore hp
  exact SideStep.store (.refl L) hs hstore hp

end Settlement

/-! ## Receipts and withdrawals -/

section Deposits

variable {lamports : UInt64}

/-- A payout takes from the receipt what it gives to the recipient. -/
theorem sideStep_payOut (hreceipt : s.Counts receipt) (hrecipient : s.Counts recipient)
    (hwrites : s.writes receipt) (h : payOut L receipt recipient lamports = .ok L') :
    SideStep env s L L' := by
  unfold payOut at h
  split at h
  · simp only [chain_ok, checkedAdd_eq_some, checkedSub_eq_some] at h
    obtain ⟨credited, hcredited, left, hleft, rfl⟩ := h
    refine .lamports (fun a => by simp) (fun a => by simp) (fun a ha => ?_) fun S hS => ?_
    · rw [setLamports_lamports, if_neg (ne_of_covered ha hwrites), setLamports_lamports]
      split
      · rename_i heq
        rw [heq, UInt64.le_iff_toNat_le]
        omega
      · exact UInt64.le_refl _
    · have hgiven := L.total_setLamports S credited (hrecipient S hS)
      have htaken := (L.setLamports recipient credited).total_setLamports S left (hreceipt S hS)
      omega
  · cases h
    exact .refl L

theorem writeDepositReceipt_ne (h : writeDepositReceipt d state = .ok d') (r : DelegationRecord) :
    d' ≠ .delegationRecord r := by
  cases d <;> simp [writeDepositReceipt] at h
  · subst h
    simp
  · obtain ⟨-, rfl⟩ := h
    simp

theorem aside_findReceiptPda (hl : env.Lawful) (context : Option Hash32)
    (session erSource : Pubkey) : Aside env (findReceiptPda env context session erSource).1 := by
  cases context with
  | none => exact aside_of_seeds hl (.depositReceipt _ _)
  | some context => exact aside_of_seeds hl (.depositReceiptV2 _ _)

theorem covers_findReceiptPda {T : Pubkey → Prop} (hkind : Covers env T (ascii "deposit_receipt"))
    (hkind' : Covers env T (ascii "deposit_receipt_v2")) (context : Option Hash32)
    (session erSource : Pubkey) : T (findReceiptPda env context session erSource).1 := by
  cases context with
  | none => exact hkind (.depositReceipt _ _) rfl
  | some context => exact hkind' (.depositReceiptV2 _ _) rfl

theorem sideStep_settleDepositReceipt (hs : s.session)
    (hkind : Covers env s.writes (ascii "deposit_receipt"))
    (hkind' : Covers env s.writes (ascii "deposit_receipt_v2"))
    (hreceipt : s.Counts depositReceipt.address) (hrecipient : s.Counts l1Recipient.address)
    (h : settleDepositReceipt env validator session depositReceipt erSource l1Recipient args L =
      .ok L') : SideStep env s L L' := by
  simp only [settleDepositReceipt, chain_ok] at h
  obtain ⟨state, hstate, -, -, -, -, -, context, -, haddress, -, -, -, receipt, -, -, h⟩ := h
  obtain ⟨hkey, hp⟩ := policyOf_of_loadSession hstate
  rw [hkey] at h hp
  have hwrites : s.writes depositReceipt.address := by
    rw [haddress]
    exact covers_findReceiptPda hkind hkind' _ _ _
  unfold installReceipt at h
  split at h
  · cases h
    exact .refl L
  · simp only [chain_ok] at h
    obtain ⟨-, -, -, -, -, -, -, -, -, L₁, hpay, d, hd, hstore⟩ := h
    exact ((sideStep_payOut hreceipt hrecipient hwrites hpay).trans
      (.setData hwrites (writeDepositReceipt_ne hd))).store hs hstore hp

theorem sideStep_depositFee (hkind : Covers env s.writes (ascii "deposit_receipt"))
    (hdepositor : s.Admits env depositor) (hreceipt : s.Counts receipt.address)
    (h : depositFee env now depositor session receipt recipient lamports L = .ok L') :
    SideStep env s L L' := by
  simp only [depositFee, chain_ok] at h
  obtain ⟨-, -, state, -, -, -, h⟩ := h
  unfold deposit at h
  split at h
  · cases h
    exact .refl L
  · simp only [chain_ok] at h
    obtain ⟨hkey, -, -, -, -, L₁, hprepare, htransfer⟩ := h
    have hwrites := hkind.of_eq (.depositReceipt _ _) rfl hkey
    have hprepared : SideStep env s L L₁ := by
      unfold prepareReceipt at hprepare
      split at hprepare
      · simp only [chain_ok] at hprepare
        obtain ⟨L₂, hinit, rfl⟩ := hprepare
        exact (sideStep_initializePdaAccount hdepositor hreceipt hwrites hinit).trans
          (.setData hwrites (by simp))
      · split at hprepare
        · simp only [chain_ok] at hprepare
          obtain ⟨-, rfl⟩ := hprepare
          exact .refl _
        · cases hprepare
    exact hprepared.trans (sideStep_systemTransfer hdepositor hreceipt htransfer)

theorem sideStep_startWithdrawal (hsource : s.Admits env source) (hsink : s.Counts sink.address)
    (h : startWithdrawal source sink lamports L = .ok L') :
    SideStep env s L L' := by
  simp only [startWithdrawal, chain_ok] at h
  obtain ⟨-, -, h⟩ := h
  unfold withdraw at h
  split at h
  · cases h
    exact .refl L
  · simp only [bind_eq_ok] at h
    obtain ⟨-, -, htransfer⟩ := h
    exact sideStep_systemTransfer hsource hsink htransfer

end Deposits

/-! ## Delegation -/

/-- Delegation takes the delegated account's signature. -/
theorem sideStep_processDelegateAccount (hkind : Covers env s.writes (ascii "delegation"))
    (hpayer : s.Admits env payer) (hdelegated : Charged s.writes delegated)
    (hrecord : s.Counts record.address)
    (h : processDelegateAccount env payer delegated ownerProgram record buffer session L = .ok L') :
    SideStep env s L L' := by
  simp only [processDelegateAccount, chain_ok] at h
  obtain ⟨-, hsigner, -, hkey, -, -, -, L₁, hinit, rfl⟩ := h
  have hwrites := hdelegated (by simpa using hsigner)
  have hcovered : s.writes (env.recordOf delegated.address) := hkind (.delegation _) rfl
  have hcreated := sideStep_initializePdaAccount hpayer hrecord (hkey ▸ hcovered) hinit
  rw [hkey]
  exact (hcreated.trans (.setRecord hwrites hcovered _)).trans (.setData hwrites (by simp))

theorem sideStep_delegateGroups (hkind : Covers env s.writes (ascii "delegation"))
    {session : Session} (hpayer : s.Admits env payer) {groups : List AccountMeta}
    (hgroups : ∀ m ∈ groups, s.Admits env m)
    (h : delegateGroups env payer session groups L = .ok L') : SideStep env s L L' := by
  fun_induction delegateGroups env payer session groups L with
  | case1 delegated ownerProgram record buffer rest L ih =>
    simp only [bind_eq_ok] at h
    obtain ⟨L₁, hfirst, hrest⟩ := h
    exact (sideStep_processDelegateAccount hkind hpayer (hgroups _ (by simp)).charged
      (hgroups _ (by simp)).counts hfirst).trans
        (ih L₁ (fun m hm => hgroups m (by simp [hm])) hrest)
  | case2 =>
    cases h
    exact .refl _

theorem sideStep_processDelegate (hkind : Covers env s.writes (ascii "delegation"))
    (hn : ∀ m ∈ accounts, s.Admits env m) (h : processDelegate env accounts gridId L = .ok L') :
    SideStep env s L L' := by
  simp only [processDelegate, chain_ok] at h
  obtain ⟨-, h⟩ := h
  split at h
  · simp only [chain_ok] at h
    obtain ⟨-, state, -, -, -, h⟩ := h
    exact sideStep_delegateGroups hkind (hn _ (by simp)) (fun m hm => hn m (by simp [hm])) h
  · cases h

theorem sideStep_requestUndelegation (hkind : Covers env s.writes (ascii "undelegation_request"))
    (hpayer : s.Admits env payer) (hrequest : s.Counts request.address)
    (h : requestUndelegation env now payer authority delegated ownerProgram record session request
      L = .ok L') : SideStep env s L L' := by
  simp only [requestUndelegation, chain_ok] at h
  obtain ⟨-, state, -, -, -, -, r, -, -, hkey, -, L₁, hinit, rfl⟩ := h
  have hwrites := hkind.of_eq (.undelegationRequest _) rfl hkey
  exact (sideStep_initializePdaAccount hpayer hrequest hwrites hinit).trans
    (.setData hwrites (by simp))

theorem sideStep_approveUndelegation (hkind : Covers env s.writes (ascii "undelegation_request"))
    (h : approveUndelegation env validator session request L = .ok L') : SideStep env s L L' := by
  simp only [approveUndelegation, chain_ok, not_or] at h
  obtain ⟨-, session, -, -, -, state, -, ⟨-, hkey, -, -⟩, rfl⟩ := h
  have hwrites := hkind.of_eq (.undelegationRequest _) rfl hkey
  exact .setData hwrites (by simp)

/-- The two closed accounts pay the authority what they held. -/
theorem sideStep_refundClosed (hne : record ≠ request) (hauthority : s.writes authority)
    (hrecord : s.writes record) (hrequest : s.writes request)
    (hcounted : ∀ S ∈ s.counted, authority ∈ S ∧ record ∈ S ∧ request ∈ S ∧
      authority ≠ record ∧ authority ≠ request)
    (h : refundClosed L authority record request = .ok L') :
    SideStep env s L L' ∧ (L' record).lamports = 0 ∧ (L' request).lamports = 0 := by
  simp only [refundClosed, chain_ok, checkedAdd_eq_some] at h
  obtain ⟨lamports, hlamports, credited, hcredited, rfl⟩ := h
  refine ⟨.lamports (fun a => by simp) (fun a => by simp) (fun a ha => ?_) fun S hS => ?_, ?_, ?_⟩
  · rw [setLamports_lamports, if_neg (ne_of_covered ha hrequest),
      setLamports_lamports, if_neg (ne_of_covered ha hrecord), setLamports_lamports,
      if_neg (ne_of_covered ha hauthority)]
    exact UInt64.le_refl _
  · obtain ⟨hauthorityS, hrecordS, hrequestS, hne₁, hne₂⟩ := hcounted S hS
    have h₁ := L.total_setLamports S credited hauthorityS
    have h₂ := (L.setLamports authority credited).total_setLamports S 0 hrecordS
    have h₃ := ((L.setLamports authority credited).setLamports record 0).total_setLamports S 0
      hrequestS
    rw [setLamports_lamports, if_neg hne₁.symm] at h₂
    rw [setLamports_lamports, if_neg hne.symm, setLamports_lamports, if_neg hne₂.symm] at h₃
    simp only [UInt64.toNat_zero] at h₂ h₃
    omega
  · rw [setLamports_lamports, if_neg hne, setLamports_lamports, if_pos rfl]
  · rw [setLamports_lamports, if_pos rfl]

theorem parseUndelegationRequest_eq_some :
    parseUndelegationRequest d = some r ↔ d = .undelegationRequest r := by
  cases d <;> simp [parseUndelegationRequest]

theorem sideStep_undelegate (hkind : Covers env s.writes (ascii "delegation"))
    (hkind' : Covers env s.writes (ascii "undelegation_request"))
    (hauthority : s.Admits env authority) (hdelegated : Charged s.writes delegated)
    (hrecord : s.Counts record.address) (hrequest : s.Counts request.address)
    (hR : ∀ a, env.Derived a → s.returns a) (hreturned : s.returns delegated.address)
    (h : undelegate env authority delegated ownerProgram record session request handoff L =
      .ok L') :
    SideStep env s L L' := by
  simp only [undelegate, chain_ok, parseDelegationRecord_eq_some, parseUndelegationRequest_eq_some,
    not_or] at h
  obtain ⟨hsigner, hdsigner, session, -, -, hrecordKey, r, hr, -, -, ⟨hrequestKey, -⟩, state,
    hstate, -, -, -, L₁, hrefund, rfl⟩ := h
  have hsigner : authority.isSigner = true := by simpa using hsigner
  have hwrites := hdelegated (by simpa using hdsigner)
  have hrecordWrites := hkind.of_eq (.delegation _) rfl hrecordKey
  have hrequestWrites := hkind'.of_eq (.undelegationRequest _) rfl hrequestKey
  -- Record and request hold different records, so they are two accounts.
  have hne : record.address ≠ request.address := by
    intro heq
    rw [heq, hstate] at hr
    cases hr
  have hcounted : ∀ S ∈ s.counted, authority.address ∈ S ∧ record.address ∈ S ∧
      request.address ∈ S ∧ authority.address ≠ record.address ∧
      authority.address ≠ request.address := by
    intro S hS
    have hnot := (hauthority.named S hS).signer hsigner
    exact ⟨(hauthority.named S hS).mem, hrecord S hS, hrequest S hS,
      fun heq => hnot ⟨_, heq.trans hrecordKey⟩, fun heq => hnot ⟨_, heq.trans hrequestKey⟩⟩
  obtain ⟨hrefunded, hzero, hzero'⟩ := @sideStep_refundClosed env _ _ _ _ _ _ hne
    (hauthority.charged hsigner) hrecordWrites hrequestWrites hcounted hrefund
  have hzeroed : SideStep env s L (L.setData delegated.address (L delegated.address).data.zeroed) :=
    .setData hwrites (by simp [AccountData.zeroed])
  refine (((hzeroed.trans (.setOwner hwrites (.inr hreturned))).trans hrefunded).trans
    (.close hrecordWrites (hR _ ⟨_, hrecordKey⟩) hzero)).trans
    (.close hrequestWrites (hR _ ⟨_, hrequestKey⟩) ?_)
  rw [close_of_ne _ hne.symm, hzero']

/-! ## Tokens and ingress -/

section Tokens

variable {session : AccountMeta}

theorem sideStep_registerSessionBridge (hkind : Covers env s.writes (ascii "session_bridge"))
    (hpayer : s.Admits env payer) (hbridge : s.Counts sessionBridge.address)
    (h : registerSessionBridge env payer session sessionBridge mint bridgeProgram tokenProgram
      systemProgram args L = .ok L') : SideStep env s L L' := by
  simp only [registerSessionBridge, chain_ok] at h
  obtain ⟨-, -, -, -, -, -, hkey, -, -, -, -, -, -, h⟩ := h
  have hwrites := hkind.of_eq (.sessionBridge _ _) rfl hkey
  unfold installBridge at h
  split at h
  · simp only [chain_ok] at h
    obtain ⟨L₁, hinit, rfl⟩ := h
    exact (sideStep_initializePdaAccount hpayer hbridge hwrites hinit).trans
      (.setData hwrites (by simp))
  · simp only [chain_ok] at h
    obtain ⟨-, -, rfl⟩ := h
    exact .refl _

/-- A session of the second format that loads is at its address, with its policy. -/
theorem loadSessionV2_ok (h : loadSessionV2 env L a = .ok frame) :
    a = env.address .session ∧ (L a).data = .sessionV2 frame := by
  simp only [loadSessionV2, chain_ok, not_or] at h
  obtain ⟨⟨hkey, -⟩, h⟩ := h
  split at h
  · rename_i state hdata
    simp only [chain_ok] at h
    exact ⟨hkey, h.2 ▸ hdata⟩
  · cases h

theorem policyOf_of_loadSettlementSession {s : Session}
    (h : loadSettlementSession env L (env.address .session) = .ok s) :
    policyOf (L (env.address .session)).data = some s.clearSettlement := by
  unfold loadSettlementSession at h
  split at h
  · simp only [chain_ok] at h
    obtain ⟨frame, hframe, rfl⟩ := h
    rw [(loadSessionV2_ok hframe).2]
    rfl
  · cases hd : (L (env.address .session)).data <;> simp [hd, parseSessionV1] at h
    subst h
    rfl

theorem sideStep_registerSessionBridgeV2 (hkind : Covers env s.writes (ascii "session_bridge_v2"))
    (hpayer : s.Admits env payer) (hregistration : s.Counts registration.address)
    (h : registerSessionBridgeV2 env now payer session registration mint bridgeProgram
      tokenProgram systemProgram args L = .ok L') : SideStep env s L L' := by
  simp only [registerSessionBridgeV2, chain_ok, not_or] at h
  obtain ⟨frame, -, -, -, -, -, -, -, -, context, -, ⟨hkey, -⟩, h⟩ := h
  have hwrites := hkind.of_eq (.sessionBridgeV2 _ _) rfl hkey
  split at h
  · simp only [chain_ok] at h
    obtain ⟨L₁, hinit, rfl⟩ := h
    exact (sideStep_initializePdaAccount hpayer hregistration hwrites hinit).trans
      (.setData hwrites (by simp))
  · simp only [chain_ok] at h
    obtain ⟨-, -, rfl⟩ := h
    exact .refl _

theorem Covers.authorization {T : Pubkey → Prop}
    (hkind : Covers env T (ascii "token_withdrawal_auth")) (checkpoint vault : Pubkey) (n : UInt64)
    (ha : a = (findTokenWithdrawalAuthorizationPda env checkpoint vault n).1) : T a :=
  hkind.of_eq (.tokenWithdrawalAuthorization _ _ _) rfl ha

theorem sideStep_accumulateTokenWithdrawal (hs : s.session) (hvalidator : s.Admits env validator)
    (hauthorization : s.Counts authorization.address)
    (hwrites : ∀ checkpoint vault n, authorization.address = (findTokenWithdrawalAuthorizationPda
      env checkpoint vault n).1 → s.writes authorization.address)
    (h : accumulateTokenWithdrawal env validator session authorization accounts args L = .ok L') :
    SideStep env s L L' := by
  simp only [accumulateTokenWithdrawal, chain_ok] at h
  obtain ⟨hsession, state, hstate, -, -, -, -, -, bridge, -, hkey, h⟩ := h
  have hsession : session.address = env.address .session := hsession
  rw [hsession] at hstate h
  have hp := policyOf_of_loadSettlementSession hstate
  have hwrites := hwrites _ _ _ hkey
  unfold installAuthorization at h
  split at h
  · simp only [bind_eq_ok] at h
    obtain ⟨L₁, hinit, hstore⟩ := h
    exact ((sideStep_initializePdaAccount hvalidator hauthorization hwrites hinit).trans
      (.setData hwrites (by simp))).store hs hstore hp
  · simp only [chain_ok] at h
    obtain ⟨-, -, rfl⟩ := h
    exact .refl _

theorem sideStep_consumeTokenWithdrawal
    (hwrites : ∀ checkpoint vault n, authorization.address = (findTokenWithdrawalAuthorizationPda
      env checkpoint vault n).1 → s.writes authorization.address)
    (h : consumeTokenWithdrawal env validator session checkpoint authorization accounts args L =
      .ok L') : SideStep env s L L' := by
  simp only [consumeTokenWithdrawal, chain_ok, not_or] at h
  obtain ⟨-, -, -, -, -, -, -, -, -, -, -, -, ⟨hkey, -⟩, -, -, -, rfl⟩ := h
  exact .setData (hwrites _ _ _ hkey) (by simp)

theorem Covers.ingress {T : Pubkey → Prop} (hkind : Covers env T (ascii "ingress_v2"))
    (context : Hash32) (n : UInt64) (ha : a = (findIngressRecordV2Pda env context n).1) : T a :=
  hkind.of_eq (.ingressRecordV2 _ _) rfl ha

/-- The ingress record that an instruction appends may be written. -/
def Scope.Appends (env : Env) (s : Scope) (record : AccountMeta) : Prop :=
  ∀ context n, record.address = (findIngressRecordV2Pda env context n).1 → s.writes record.address

theorem sideStep_appendIngressV2 (hs : s.session) (hpayer : s.Admits env payer)
    (hrecord : s.Counts record.address) (hwrites : s.Appends env record)
    (h : appendIngressV2 env now payer session record payload L = .ok L') :
    SideStep env s L L' := by
  simp only [appendIngressV2, chain_ok, not_or] at h
  obtain ⟨frame, hframe, -, context, -, sequence, -, ⟨hkey, -, -⟩, state, -, L₁, hinit, rfl⟩ := h
  obtain ⟨hsession, hdata⟩ := loadSessionV2_ok hframe
  have hwrites := hwrites context sequence hkey
  have hcreated : SideStep env s L (L₁.setData record.address (.ingressRecordV2 state)) :=
    (sideStep_initializePdaAccount hpayer hrecord hwrites hinit).trans (.setData hwrites (by simp))
  rw [hsession] at hdata ⊢
  refine hcreated.trans (.setSession hs (by simp) fun hw => ?_)
  rw [hcreated.policy hw, hdata]
  rfl

theorem sideStep_delegateV2 (hs : s.session) (hkind : Covers env s.writes (ascii "delegation"))
    (hpayer : s.Admits env payer) (haccount : Charged s.writes account)
    (hrecord : s.Counts record.address) (hingress : s.Counts ingress.address)
    (hwrites : s.Appends env ingress)
    (h : delegateV2 env now payer session account ownerProgram record buffer ingress gridId L =
      .ok L') : SideStep env s L L' := by
  simp only [delegateV2, chain_ok] at h
  obtain ⟨frame, -, -, -, L₁, hdelegate, -, happend⟩ := h
  exact (sideStep_processDelegateAccount hkind hpayer haccount hrecord hdelegate).trans
    (sideStep_appendIngressV2 hs hpayer hingress hwrites happend)

/-- The receipt of a deposit of the second format, created if need be, credited and written. -/
theorem sideStep_creditReceiptV2 (hdepositor : s.Admits env depositor) (hreceipt : s.Counts receipt)
    (hwrites : s.writes receipt) (hprepare : prepareReceiptV2 env L depositor receipt = .ok L₁)
    (htransfer : systemTransfer L₁ depositor receipt lamports = .ok L₂) :
    SideStep env s L (L₂.setData receipt (.depositReceiptV2 state)) := by
  have hprepared : SideStep env s L L₁ := by
    unfold prepareReceiptV2 at hprepare
    split at hprepare
    · exact sideStep_initializePdaAccount hdepositor hreceipt hwrites hprepare
    · cases hprepare
      exact .refl _
  exact (hprepared.trans (sideStep_systemTransfer hdepositor hreceipt htransfer)).trans
    (.setData hwrites (by simp))

theorem sideStep_depositFeeV2 (hs : s.session)
    (hkind : Covers env s.writes (ascii "deposit_receipt_v2")) (hdepositor : s.Admits env depositor)
    (hreceipt : s.Counts receipt.address) (hingress : s.Counts ingress.address)
    (hwrites : s.Appends env ingress)
    (h : depositFeeV2 env now depositor session receipt recipient ingress lamports L = .ok L') :
    SideStep env s L L' := by
  simp only [depositFeeV2, chain_ok] at h
  obtain ⟨-, -, frame, -, context, -, hkey, state, -, total, -, L₁, hprepare, L₂, htransfer,
    happend⟩ := h
  have hcovered := hkind.of_eq (.depositReceiptV2 _ _) rfl hkey
  exact (sideStep_creditReceiptV2 hdepositor hreceipt hcovered hprepare htransfer).trans
    (sideStep_appendIngressV2 hs hdepositor hingress hwrites happend)

theorem sideStep_recordTokenDepositV2 (hs : s.session)
    {payer systemProgram session registration vault account delegation receipt origin ingress :
      AccountMeta} (hpayer : s.Admits env payer) (hingress : s.Counts ingress.address)
    (hwrites : s.Appends env ingress)
    (h : recordTokenDepositV2 env now payer systemProgram session registration vault account
      delegation receipt origin ingress amount L = .ok L') : SideStep env s L L' := by
  simp only [recordTokenDepositV2, chain_ok] at h
  obtain ⟨-, -, frame, -, context, -, bridge, -, -, binding, -, -, -, -, -, deposited, -, -,
    baseline, -, -, happend⟩ := h
  exact sideStep_appendIngressV2 hs hpayer hingress hwrites happend

end Tokens

/-! ## Dispatch -/

/-- The instructions of the game: those that open or close the session, and those that
write a checkpoint, a challenge, a proof or the cursor. -/
def Instruction.inGame : Instruction → Bool
  | .openSession _ | .closeSession | .finishSettlement .. | .proposeCheckpoint _
  | .commitCheckpoint _ | .cancelCheckpoint _ | .openChallenge _ | .createStepProof _
  | .writeStepProof _ | .sealStepProof .. | .resolveChallenge .. | .respondChallenge _
  | .bisectChallenge .. | .timeoutChallenge _ | .openSessionV2 _ | .proposeCheckpointV2 _
  | .commitCheckpointV2 _ => true
  | _ => false

theorem onlyWith_ok (h : onlyWith feature result = .ok L') : feature = true ∧ result = .ok L' := by
  unfold onlyWith at h
  split at h
  · exact ⟨‹_›, h⟩
  · cases h

theorem mem_of_mem_delegatedPairs (h : p ∈ delegatedPairs accounts) :
    ∃ m ∈ accounts, m.address = p.1 := by
  fun_induction delegatedPairs accounts with
  | case1 account record rest ih =>
    rcases List.mem_cons.mp h with rfl | h
    · exact ⟨account, by simp, rfl⟩
    · obtain ⟨m, hm, heq⟩ := ih h
      exact ⟨m, by simp [hm], heq⟩
  | case2 => cases h

/-- The kinds of accounts beside the game that an instruction writes, by the first seed of
their addresses. -/
def Instruction.sideKinds : Instruction → List (List UInt8)
  | .depositFee _ => [ascii "deposit_receipt"]
  | .delegate _ => [ascii "delegation"]
  | .undelegate => [ascii "delegation", ascii "undelegation_request"]
  | .undelegateHandoff => [ascii "delegation", ascii "undelegation_request"]
  | .settleDepositReceipt _ => [ascii "deposit_receipt", ascii "deposit_receipt_v2"]
  | .settleAccountOwner _ => [ascii "delegation"]
  | .registerSessionBridge _ => [ascii "session_bridge"]
  | .accumulateTokenWithdrawal _ => [ascii "token_withdrawal_auth"]
  | .consumeTokenWithdrawal _ => [ascii "token_withdrawal_auth"]
  | .requestUndelegation => [ascii "undelegation_request"]
  | .approveUndelegation => [ascii "undelegation_request"]
  | .openSessionV2 _ => [ascii "session_epoch_v2"]
  | .delegateV2 _ => [ascii "delegation", ascii "ingress_v2"]
  | .depositFeeV2 _ => [ascii "deposit_receipt_v2", ascii "ingress_v2"]
  | .proposeCheckpointV2 _ => [ascii "checkpoint_v2"]
  | .registerSessionBridgeV2 _ => [ascii "session_bridge_v2"]
  | .recordTokenDepositV2 _ => [ascii "ingress_v2"]
  | _ => []

/-- The instructions that write the account of the session. -/
def Instruction.writesSession : Instruction → Bool
  | .openSession _ | .closeSession | .beginSettlement _ | .writeSettlementChunk _
  | .finishSettlement _ _ | .abortSettlement | .settleDepositReceipt _ | .settleAccountOwner _
  | .settleAccountLamports _ _ | .accumulateTokenWithdrawal _ | .openSessionV2 _ | .delegateV2 _
  | .depositFeeV2 _ | .commitCheckpointV2 _ | .recordTokenDepositV2 _ => true
  | _ => false

section Dispatch

variable {accounts : List AccountMeta}

theorem sideStep_processSettleAccountLamportsInner (hs : s.session)
    (hu : ∀ a r, (L (env.recordOf a)).data = .delegationRecord r → s.writes a)
    (hn : ∀ m ∈ accounts, s.Admits env m)
    (h : processSettleAccountLamportsInner env accounts args previous L = .ok L') :
    SideStep env s L L' := by
  simp only [processSettleAccountLamportsInner, chain_ok] at h
  obtain ⟨-, -, h⟩ := h
  split at h
  · rename_i validator session rest
    refine sideStep_settleAccountLamports hs hu ?_ ?_ h
    · intro p hp S hS
      obtain ⟨m, hm, heq⟩ := mem_of_mem_delegatedPairs hp
      exact heq ▸ ((hn m (by simp [List.mem_of_mem_take hm])).named S hS).mem
    · intro m hm
      exact hn m (by simp [List.mem_of_mem_drop hm])
  · cases h

/-- **An instruction outside the game** writes delegated accounts, accounts that sign, accounts of
its kinds and the session. What it closes or returns is derived, or the account it names for
that. -/
theorem sideStep_processInstruction {i : Instruction} (hi : i.inGame = false)
    (hu : ∀ a r, (L (env.recordOf a)).data = .delegationRecord r → s.writes a)
    (hn : ∀ m ∈ accounts, s.Admits env m) (hsession : i.writesSession = true → s.session)
    (hkinds : ∀ kind ∈ i.sideKinds, Covers env s.writes kind)
    (hR : ∀ a, env.Derived a ∨ (i = .undelegate ∨ i = .undelegateHandoff) ∧
      (accounts[1]?).map AccountMeta.address = some a → s.returns a)
    (h : processInstruction env now accounts i L = .ok L') : SideStep env s L L' := by
  cases i <;> simp only [Instruction.inGame, reduceCtorEq] at hi <;>
    simp only [Instruction.writesSession, Instruction.sideKinds, true_implies, List.mem_cons,
      List.not_mem_nil, or_false, forall_eq_or_imp, forall_eq] at hsession hkinds <;>
    simp only [processInstruction] at h <;>
    have hderived (a) (ha : env.Derived a) : s.returns a := hR a (.inl ha)
  case depositFee lamports =>
    unfold processDepositFee at h
    split at h
    · exact sideStep_depositFee hkinds (hn _ (by simp)) (hn _ (by simp)).counts h
    · cases h
  case delegate gridId => exact sideStep_processDelegate hkinds hn h
  case undelegate | undelegateHandoff =>
    unfold processUndelegateInner at h
    split at h
    · exact sideStep_undelegate hkinds.1 hkinds.2 (hn _ (by simp)) (hn _ (by simp)).charged
        (hn _ (by simp)).counts (hn _ (by simp)).counts hderived (hR _ (.inr ⟨by simp, by simp⟩)) h
    · cases h
  case beginSettlement args =>
    unfold processBeginSettlement at h
    split at h
    · exact sideStep_beginSettlement hsession h
    · cases h
  case writeSettlementChunk args =>
    unfold processWriteSettlementChunk at h
    split at h
    · exact sideStep_writeSettlementChunk hsession hu h
    · cases h
  case abortSettlement =>
    unfold processAbortSettlement at h
    split at h
    · exact sideStep_abortSettlement hsession h
    · cases h
  case settleDepositReceipt args =>
    unfold processSettleDepositReceipt at h
    split at h
    · exact sideStep_settleDepositReceipt hsession hkinds.1 hkinds.2 (hn _ (by simp)).counts
        (hn _ (by simp)).counts h
    · cases h
  case settleAccountOwner args =>
    unfold processSettleAccountOwner at h
    split at h
    · exact sideStep_settleAccountOwner hsession hu hkinds h
    · cases h
  case settleAccountLamports args previous =>
    exact sideStep_processSettleAccountLamportsInner hsession hu hn h
  case startWithdrawal lamports =>
    unfold processStartWithdrawal at h
    split at h
    · exact sideStep_startWithdrawal (hn _ (by simp)) (hn _ (by simp)).counts h
    · cases h
  case registerSessionBridge args =>
    unfold processRegisterSessionBridge at h
    split at h
    · exact sideStep_registerSessionBridge hkinds (hn _ (by simp)) (hn _ (by simp)).counts h
    · cases h
  case accumulateTokenWithdrawal args =>
    unfold processAccumulateTokenWithdrawal at h
    split at h
    · exact sideStep_accumulateTokenWithdrawal hsession (hn _ (by simp)) (hn _ (by simp)).counts
        (Covers.authorization hkinds) h
    · cases h
  case consumeTokenWithdrawal args =>
    unfold processConsumeTokenWithdrawal at h
    split at h
    · exact sideStep_consumeTokenWithdrawal (Covers.authorization hkinds) h
    · cases h
  case requestUndelegation =>
    unfold processRequestUndelegation at h
    split at h
    · exact sideStep_requestUndelegation hkinds (hn _ (by simp)) (hn _ (by simp)).counts h
    · cases h
  case approveUndelegation =>
    unfold processApproveUndelegation at h
    split at h
    · exact sideStep_approveUndelegation hkinds h
    · cases h
  case verifyErStepProofV1 proof publicInputs =>
    have h := (onlyWith_ok h).2
    simp only [processVerifyErStepProofV1, chain_ok] at h
    obtain ⟨-, rfl⟩ := h
    exact .refl _
  case delegateV2 gridId =>
    have h := (onlyWith_ok h).2
    unfold processDelegateV2 at h
    split at h
    · exact sideStep_delegateV2 hsession hkinds.1 (hn _ (by simp)) (hn _ (by simp)).charged
        (hn _ (by simp)).counts (hn _ (by simp)).counts (Covers.ingress hkinds.2) h
    · cases h
  case depositFeeV2 lamports =>
    have h := (onlyWith_ok h).2
    unfold processDepositFeeV2 at h
    split at h
    · exact sideStep_depositFeeV2 hsession hkinds.1 (hn _ (by simp)) (hn _ (by simp)).counts
        (hn _ (by simp)).counts (Covers.ingress hkinds.2) h
    · cases h
  case registerSessionBridgeV2 args =>
    have h := (onlyWith_ok h).2
    unfold processRegisterSessionBridgeV2 at h
    split at h
    · exact sideStep_registerSessionBridgeV2 hkinds (hn _ (by simp)) (hn _ (by simp)).counts h
    · cases h
  case recordTokenDepositV2 amount =>
    have h := (onlyWith_ok h).2
    unfold processRecordTokenDepositV2 at h
    split at h
    · exact sideStep_recordTokenDepositV2 hsession (hn _ (by simp)) (hn _ (by simp)).counts
        (Covers.ingress hkinds) h
    · cases h

/-! ## Frames -/

theorem frame_close (ha : Aside env a) (hzero : (L a).lamports = 0) :
    Frame env S L (L.close a) where
  data g _ := by rw [L.close_of_ne (ha g)]
  policy := by rw [L.close_of_ne (ha .session)]
  owner g := by rw [L.close_of_ne (ha g)]
  lamports g := by rw [L.close_of_ne (ha g)]; exact UInt64.le_refl _
  undelegated hu g r := by
    by_cases hg : (findDelegationRecordPda env (env.address g)).1 = a
    · simp [hg, AccountData.empty]
    · rw [L.close_of_ne hg]
      exact hu g r
  total := by
    refine Finset.sum_congr rfl fun b _ => ?_
    by_cases hb : b = a
    · simp [hb, hzero]
    · rw [L.close_of_ne hb]

/-- **Steps beside the game are frames.** -/
theorem frame_of_sideStep (hl : env.Lawful) (haside : ∀ a, s.writes a → Aside env a)
    (hS : s.counted = some S) (h : SideStep env s L L') : Frame env S L L' := by
  have hgame (g) : ¬s.writes (env.address g) := fun hg => haside _ hg g rfl
  induction h with
  | refl L => exact Frame.refl env S L
  | trans _ _ ih ih' => exact ih.trans ih'
  | setData ha hd => exact frame_setData_of_ne (haside _ ha) hd
  | setRecord ha hrecord d =>
    refine frame_setData (haside _ hrecord) fun g _ hg => ?_
    exact absurd (hl.delegation_address g _ hg).symm (haside _ ha g)
  | setSession _ hd hpolicy => exact frame_setSession hl (hpolicy (hgame .session)) hd
  | setOwner ha _ => exact frame_setOwner (haside _ ha)
  | lamports hdata howner hle htotal =>
    exact frame_of_lamports hdata howner (fun g => hle _ (hgame g)) (htotal S hS)
  | close ha _ hzero => exact frame_close (haside _ ha) hzero

/-- **Every instruction outside the game is a frame.** -/
theorem frame_processInstruction (hl : env.Lawful) (hu : Undelegated env L)
    (hn : ∀ m ∈ accounts, Named env S m) (hi : i.inGame = false)
    (h : processInstruction env now accounts i L = .ok L') : Frame env S L L' := by
  refine frame_of_sideStep (s := ⟨Aside env, fun _ => True, True, some S⟩) hl (fun _ => id) rfl
    (sideStep_processInstruction hi ?_ ?_ (fun _ => trivial) ?_ (fun _ _ => trivial) h)
  · intro a r hr
    exact aside_of_delegated hu hr
  · intro m hm
    refine ⟨fun hsigner => aside_of_not_derived ((hn m hm).signer hsigner), ?_⟩
    rintro _ ⟨⟩
    exact hn m hm
  · intro kind _ seeds hseeds _
    exact aside_of_seeds hl hseeds

end Dispatch

end Northstar.Portal
