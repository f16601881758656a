import Northstar.Game.Devnet
import Northstar.Game.Bystanders

/-!
# The way back of a delegated account

The program an account returns to stands in two places: in its delegation record, which a
settlement may change, and in the request for its return, which nobody changes. The account
is returned only while the two agree.

A request agrees with the record when it is made. From then on only a settlement of the
account's owner can part the two, so requests agree with their records in every history
whose owner settlements spare requested accounts. The approval does not look at the record:
a request that was parted from it is approved all the same, and nobody can carry it out.

## Main definitions

* `Env.TellsApart`: the addresses of one account's record and request are its own
* `Agrees`: a request agrees with the record of its account
* `Spares`: an owner settlement leaves the owner that the request names
* `returning`: the call that carries an approved request out

## Main results

* `History.wayBack`: what a history makes of a request and its record
* `undelegation_coherent`: requests agree with their records, and approved ones are carried
  out
-/

namespace Northstar.Portal

open Bytes Checked Ledger AccountData

variable (env : Env)

variable {a : Pubkey}

variable {seeds : List (List UInt8)}

/-- Where the request for the return of an account lives. -/
abbrev Env.requestOf (a : Pubkey) : Pubkey := (findUndelegationRequestPda env a).1

/-- **The record and the request of `a` are its own**: no other seeds lead to them. -/
structure Env.TellsApart (a : Pubkey) : Prop where
  record : Beside env [ascii "delegation"] (env.recordOf a)
  request : Beside env [ascii "undelegation_request"] (env.requestOf a)
  record_inj : ∀ b, env.recordOf b = env.recordOf a → b = a
  request_inj : ∀ b, env.requestOf b = env.requestOf a → b = a

/-- No delegation record stands for `w`. -/
def NoRecord (w : Pubkey) (L : Ledger) : Prop :=
  ∀ r, (L (env.recordOf w)).data ≠ .delegationRecord r

/-- **Agreement** of the request `q` with the record of the account `a`, which is Portal's. -/
structure Agrees (a : Pubkey) (L : Ledger) (q : UndelegationRequest) : Prop where
  notDerived : ¬env.Derived a
  owner : (L a).owner = env.programId
  requestOwner : (L (env.requestOf a)).owner = env.programId
  account : q.delegatedAccount = a
  session : q.session = env.address .session
  bump : q.bump = (findUndelegationRequestPda env a).2
  record : ∃ r, (L (env.recordOf a)).data = .delegationRecord r ∧ r.ownerProgram = q.ownerProgram

/-- **Invariant**: a request agrees with its record, and neither of the two is delegated. -/
structure WayBack (a : Pubkey) (L : Ledger) : Prop where
  record : NoRecord env (env.recordOf a) L
  request : NoRecord env (env.requestOf a) L
  agrees : ∀ q, (L (env.requestOf a)).data = .undelegationRequest q → Agrees env a L q

/-! ## What the instructions write -/

variable {S : Finset Pubkey} {L L' : Ledger} {now : UInt64}
  {payer delegated ownerProgram record authority request validator : AccountMeta}

section Writes

variable {env} {w : Pubkey}

theorem loadSessionV1_ok (h : loadSessionV1 env L k e e' = .ok s) :
    k = env.address .session := by
  simp only [loadSessionV1, chain_ok] at h
  exact h.1

theorem storeSession_data (h : storeSession L k s = .ok L') (hx : x ≠ k) :
    (L' x).data = (L x).data := by
  obtain ⟨d, -, rfl⟩ := storeSession_ok h
  rw [setData_data, if_neg hx]

/-- A delegation writes the record of its account, which was vacant, and the account. -/
theorem processDelegateAccount_data {session : Session}
    (h : processDelegateAccount env payer delegated ownerProgram record buffer session L = .ok L') :
    delegated.isSigner = true ∧ (L (env.recordOf delegated.address)).data = .empty ∧
      ∀ x, x ≠ delegated.address → x ≠ env.recordOf delegated.address →
        (L' x).data = (L x).data := by
  simp only [processDelegateAccount, chain_ok, not_or] at h
  obtain ⟨-, hsigner, -, hkey, ⟨hempty, -⟩, -, -, L₁, hinit, rfl⟩ := h
  rw [hkey] at hempty hinit ⊢
  refine ⟨by simpa using hsigner, hempty, fun x hx hx' => ?_⟩
  rw [setData_data, if_neg hx, setData_data, if_neg hx', initializePdaAccount_data hinit hx']

/-- A delegation keeps the records that stand, and gives none to a derived account. -/
theorem record_processDelegateAccount (hw : env.Derived w) {session : Session}
    (hdelegated : Named env S delegated)
    (h : processDelegateAccount env payer delegated ownerProgram record buffer session L = .ok L') :
    ((L w).data ≠ .empty → (L' w).data = (L w).data) ∧
      ((∀ b, env.recordOf b = env.recordOf w → b = w) → NoRecord env w L → NoRecord env w L') := by
  obtain ⟨hsigner, hempty, hdata⟩ := processDelegateAccount_data h
  have hkey := hdelegated.signer hsigner
  have hne {x : Pubkey} (hx : env.Derived x) : x ≠ delegated.address := by
    rintro rfl
    exact hkey hx
  constructor
  · intro hw'
    refine hdata w (hne hw) ?_
    rintro rfl
    exact hw' hempty
  · intro hinj hno r
    have hrecord : env.recordOf w ≠ env.recordOf delegated.address := by
      intro heq
      exact hne hw (hinj _ heq.symm).symm
    rw [hdata (env.recordOf w) (hne ⟨_, rfl⟩) hrecord]
    exact hno r

theorem record_delegateGroups (hw : env.Derived w) {session : Session} {groups : List AccountMeta}
    (hgroups : ∀ m ∈ groups, Named env S m)
    (h : delegateGroups env payer session groups L = .ok L') :
    ((L w).data ≠ .empty → (L' w).data = (L w).data) ∧
      ((∀ b, env.recordOf b = env.recordOf w → b = w) → NoRecord env w L → NoRecord env w L') := by
  fun_induction delegateGroups env payer session groups L with
  | case1 delegated ownerProgram record buffer rest L ih =>
    simp only [bind_eq_ok] at h
    obtain ⟨L₁, hfirst, hrest⟩ := h
    obtain ⟨hdata, hno⟩ := record_processDelegateAccount hw (hgroups _ (by simp)) hfirst
    obtain ⟨hdata', hno'⟩ := ih L₁ (fun m hm => hgroups m (by simp [hm])) hrest
    refine ⟨fun hempty => ?_, fun hinj h => hno' hinj (hno hinj h)⟩
    rw [hdata' (by rwa [hdata hempty]), hdata hempty]
  | case2 =>
    cases h
    exact ⟨fun _ => rfl, fun _ h => h⟩

theorem record_processDelegate (hw : env.Derived w) {accounts : List AccountMeta}
    (hn : ∀ m ∈ accounts, Named env S m) {gridId : UInt64}
    (h : processDelegate env accounts gridId L = .ok L') :
    ((L w).data ≠ .empty → (L' w).data = (L w).data) ∧
      ((∀ b, env.recordOf b = env.recordOf w → b = w) → NoRecord env w L → NoRecord env w L') := by
  simp only [processDelegate, chain_ok] at h
  obtain ⟨-, h⟩ := h
  split at h
  · simp only [chain_ok] at h
    obtain ⟨-, s, -, -, -, h⟩ := h
    exact record_delegateGroups hw (fun m hm => hn m (by simp [hm])) h
  · cases h

/-- What a settled owner writes: the record of its account, with the new owner. -/
theorem settleAccountOwner_data {session delegatedAccount delegationRecord : AccountMeta}
    {args : SettleAccountOwner}
    (h : settleAccountOwner env validator session delegatedAccount delegationRecord args L =
      .ok L') :
    ∃ r, (L (env.recordOf delegatedAccount.address)).data = .delegationRecord r ∧
      ∀ x, x ≠ env.address .session → (L' x).data =
        if x = env.recordOf delegatedAccount.address then
          .delegationRecord { r with ownerProgram := args.owner }
        else (L x).data := by
  simp only [settleAccountOwner, bind_eq_ok] at h
  obtain ⟨s, hs, -, -, -, -, r, hr, hinstall⟩ := h
  obtain ⟨hkey, -⟩ := game_loadSession hs
  obtain ⟨hrecord, hdata⟩ := loadDelegationRecord_ok hr
  rw [hrecord] at hdata hinstall
  refine ⟨r, hdata, fun x hx => ?_⟩
  unfold installOwner at hinstall
  split at hinstall
  · rename_i howner
    cases hinstall
    -- the owner was there already
    split
    · rename_i heq
      rw [heq, ← howner]
      exact hdata
    · rfl
  · rw [storeSession_data hinstall (hkey ▸ hx), setData_data]

/-- What a request writes. -/
theorem requestUndelegation_data {session : AccountMeta}
    (h : requestUndelegation env now payer authority delegated ownerProgram record session request
      L = .ok L') :
    delegated.isSigner = true ∧ (L delegated.address).owner = env.programId ∧
      request.address = env.requestOf delegated.address ∧
      (∀ x, (L' x).owner = if x = request.address then env.programId else (L x).owner) ∧
      ∃ r q, (L (env.recordOf delegated.address)).data = .delegationRecord r ∧
        q.delegatedAccount = delegated.address ∧ q.session = env.address .session ∧
        q.bump = (findUndelegationRequestPda env delegated.address).2 ∧
        r.ownerProgram = q.ownerProgram ∧
        ∀ x, (L' x).data = if x = request.address then .undelegationRequest q
          else (L x).data := by
  simp only [requestUndelegation, chain_ok, parseDelegationRecord_eq_some, not_or] at h
  obtain ⟨⟨-, -, hsigner⟩, s, hs, -, howner, ⟨hrecord, -⟩, r, hr, hprogram, hkey, -, L₁, hinit,
    rfl⟩ := h
  rw [hrecord] at hr
  refine ⟨by simpa using hsigner, howner, hkey, fun x => ?_, r,
    ⟨session.address, delegated.address, ownerProgram.address, authority.address, now, false,
      (findUndelegationRequestPda env delegated.address).2⟩, hr, rfl, loadSessionV1_ok hs, rfl,
    hprogram, fun x => ?_⟩
  · rw [setData_owner, initializePdaAccount_owner hinit]
  · rw [setData_data]
    split
    · rfl
    · rename_i hx
      exact initializePdaAccount_data hinit hx

/-- What an approval writes: the request, approved. -/
theorem approveUndelegation_data {session : AccountMeta}
    (h : approveUndelegation env validator session request L = .ok L') :
    ∃ q, request.address = env.requestOf q.delegatedAccount ∧
      (L request.address).data = .undelegationRequest q ∧
      L' = L.setData request.address (.undelegationRequest { q with approved := true }) := by
  simp only [approveUndelegation, chain_ok, parseUndelegationRequest_eq_some, not_or] at h
  obtain ⟨-, s, -, -, -, q, hq, ⟨-, hkey, -, -⟩, rfl⟩ := h
  exact ⟨q, hkey, hq, rfl⟩

/-- A return takes an approved request that agrees with the record. -/
theorem undelegate_checks {session : AccountMeta}
    (h : undelegate env authority delegated ownerProgram record session request handoff L =
      .ok L') :
    ∃ r q, (L (env.recordOf delegated.address)).data = .delegationRecord r ∧
      (L (env.requestOf delegated.address)).data = .undelegationRequest q ∧
      r.ownerProgram = q.ownerProgram ∧ q.approved = true := by
  simp only [undelegate, chain_ok, parseDelegationRecord_eq_some, parseUndelegationRequest_eq_some,
    not_or] at h
  obtain ⟨-, -, s, -, -, hrecord, r, hr, hprogram, -, ⟨hrequest, -⟩, q, hq,
    ⟨-, -, -, hprogram', -⟩, happroved, -⟩ := h
  rw [hrecord] at hr
  rw [hrequest] at hq
  exact ⟨r, q, hr, hq, hprogram.trans hprogram'.symm, by simpa using happroved⟩

/-- What a return writes: the account becomes the program's that the record names, and its
record and request are vacant. -/
theorem undelegate_effect {session : AccountMeta} (hdelegated : Named env S delegated)
    (h : undelegate env authority delegated ownerProgram record session request handoff L =
      .ok L') :
    ∃ r, delegated.isSigner = true ∧
      (L (env.recordOf delegated.address)).data = .delegationRecord r ∧
      (L' delegated.address).owner = r.ownerProgram ∧
      (∀ x, (x = env.recordOf delegated.address ∨ x = env.requestOf delegated.address) →
        (L' x).data = .empty) ∧
      ∀ x, x ≠ delegated.address → x ≠ env.recordOf delegated.address →
        x ≠ env.requestOf delegated.address →
        (L' x).data = (L x).data ∧ (L' x).owner = (L x).owner := by
  simp only [undelegate, refundClosed, chain_ok, parseDelegationRecord_eq_some, not_or] at h
  obtain ⟨-, hsigner, s, -, -, hrecord, r, hr, hprogram, -, ⟨hrequest, -⟩, q, -, -, -, -, L₁,
    ⟨lamports, -, credited, -, rfl⟩, rfl⟩ := h
  have hsigner : delegated.isSigner = true := by simpa using hsigner
  rw [hrecord] at hr
  rw [hrecord, hrequest]
  have hkey := hdelegated.signer hsigner
  have hne : delegated.address ≠ env.recordOf delegated.address := by
    intro heq
    exact hkey ⟨_, heq⟩
  have hne' : delegated.address ≠ env.requestOf delegated.address := by
    intro heq
    exact hkey ⟨_, heq⟩
  refine ⟨r, hsigner, hr, ?_, ?_, fun x hx hx' hx'' => ?_⟩
  · rw [close_of_ne _ hne', close_of_ne _ hne]
    simp [setOwner_owner, hprogram]
  · intro x hx
    by_cases heq : x = env.requestOf delegated.address
    · rw [heq, close_data_self]
    · obtain rfl := hx.resolve_right heq
      rw [close_of_ne _ heq, close_data_self]
  · rw [close_of_ne _ hx'', close_of_ne _ hx']
    simp [setData_data, setOwner_owner, hx]

end Writes

/-! ## One event -/

/-- **Sparing**: an owner settlement of `a` that is executed leaves the owner that the request
for the return of `a` names. -/
def Spares (a : Pubkey) (L : Ledger) (event : Event) : Prop :=
  ∀ c L' args q, event = .call c → c.result env L = .ok L' →
    c.instruction = .settleAccountOwner args →
    (c.accounts[2]?).map AccountMeta.address = some a →
    (L (env.requestOf a)).data = .undelegationRequest q → args.owner = q.ownerProgram

variable {q : UndelegationRequest}

section Event

variable {env} {session : AccountMeta}

/-- Agreement speaks of the account, its record and its request alone. -/
theorem Agrees.congr (h : Agrees env a L q) (ha : Kept env a L L')
    (hrecord : (L' (env.recordOf a)).data = (L (env.recordOf a)).data)
    (hrequest : (L' (env.requestOf a)).owner = (L (env.requestOf a)).owner) :
    Agrees env a L' q where
  notDerived := h.notDerived
  owner := ha h.owner
  requestOwner := hrequest.trans h.requestOwner
  account := h.account
  session := h.session
  bump := h.bump
  record := by
    rw [hrecord]
    exact h.record

section OnTheWay

variable (h : WayBack env a L)

include h

theorem WayBack.congr (hrecord : NoRecord env (env.recordOf a) L')
    (hrequest : NoRecord env (env.requestOf a) L')
    (hdata : (L' (env.requestOf a)).data = (L (env.requestOf a)).data)
    (hagrees : ∀ q, (L (env.requestOf a)).data = .undelegationRequest q → Agrees env a L q → Agrees
      env a L' q) : WayBack env a L' where
  record := hrecord
  request := hrequest
  agrees q hq := by
    rw [hdata] at hq
    exact hagrees q hq (h.agrees q hq)

/-- Instructions that write neither records nor requests. -/
theorem WayBack.spared (hrecord : Spared env (env.recordOf a) L L')
    (hrequest : Spared env (env.requestOf a) L L') (ha : ¬env.Derived a → Kept env a L L') :
    WayBack env a L' :=
  h.congr (hrecord.undelegated h.record) (hrequest.undelegated h.request) hrequest.data
    fun _ _ hq => hq.congr (ha hq.notDerived) hrecord.data hrequest.owner

/-- Delegations: a record that stands is not written again. -/
theorem WayBack.delegate
    (hdata : (L (env.recordOf a)).data ≠ .empty → (L' (env.recordOf a)).data = (L (env.recordOf
      a)).data) (hrecord : NoRecord env (env.recordOf a) L')
    (hrequest : Spared env (env.requestOf a) L L') (ha : Kept env a L L') : WayBack env a L' := by
  refine h.congr hrecord (hrequest.undelegated h.request) hrequest.data fun q _ hq => ?_
  obtain ⟨r, hr, -⟩ := hq.record
  refine hq.congr ha (hdata ?_) hrequest.owner
  rw [hr]
  nofun

/-- An owner settlement keeps the agreement if it leaves the owner of the request. -/
theorem WayBack.settleAccountOwner (hl : env.Lawful) (hapart : env.TellsApart a)
    {delegatedAccount delegationRecord : AccountMeta} {args : SettleAccountOwner}
    (hspares : delegatedAccount.address = a → ∀ q, (L (env.requestOf a)).data = .undelegationRequest
      q → args.owner = q.ownerProgram) (hrequest : Spared env (env.requestOf a) L L')
    (hstep : settleAccountOwner env validator session delegatedAccount delegationRecord args L = .ok
      L') : WayBack env a L' := by
  obtain ⟨r, hr, hdata⟩ := settleAccountOwner_data hstep
  have hne {b : Pubkey} : env.recordOf b ≠ env.address .session :=
    (hl.address_ne_side .session _ (.delegation b)).symm
  refine h.congr (fun r' => ?_) (hrequest.undelegated h.request) hrequest.data
    fun q hq hagrees => ?_
  · -- only what is a record already is written as one
    rw [hdata _ hne]
    split
    · rename_i heq
      rw [← heq] at hr
      exact absurd hr (h.record r)
    · exact h.record r'
  · have hkept : Kept env a L L' := SideStep.keeps (sideStep_settleAccountOwner
      trivial (fun _ _ _ => trivial) (fun _ _ => trivial) hstep)
    by_cases heq : delegatedAccount.address = a
    · rw [heq] at hr hdata
      refine ⟨hagrees.notDerived, hkept hagrees.owner, hrequest.owner.trans hagrees.requestOwner,
        hagrees.account, hagrees.session, hagrees.bump, { r with ownerProgram := args.owner }, ?_,
        hspares heq q hq⟩
      rw [hdata _ hne, if_pos rfl]
    · refine hagrees.congr hkept ?_ hrequest.owner
      rw [hdata _ hne, if_neg]
      intro hrecord
      exact heq (hapart.record_inj _ hrecord.symm)

/-- A new request agrees with the record it was checked against. -/
theorem WayBack.requestUndelegation (hapart : env.TellsApart a) (hdelegated : Named env S delegated)
    (hstep : requestUndelegation env now payer authority delegated ownerProgram record session
      request L = .ok L') : WayBack env a L' := by
  obtain ⟨hsigner, howner, hkey, howners, r, q, hr, haccount, hsession, hbump, hprogram, hdata⟩ :=
    requestUndelegation_data hstep
  have hkept : Kept env a L L' :=
    SideStep.keeps (sideStep_requestUndelegation (fun _ _ => trivial)
      (Scope.admits fun _ => trivial) Scope.counts hstep)
  have hnone {w : Pubkey} (hno : NoRecord env w L) : NoRecord env w L' := by
    intro r'
    rw [hdata]
    split
    · nofun
    · exact hno r'
  have hrecord : (L' (env.recordOf a)).data = (L (env.recordOf a)).data := by
    rw [hdata, if_neg]
    rw [hkey]
    exact (hapart.record.covers (by decide) (.undelegationRequest _) rfl).symm
  by_cases heq : delegated.address = a
  · rw [heq] at hkey hr haccount hbump howner
    refine ⟨hnone h.record, hnone h.request, fun q' hq' => ?_⟩
    rw [hdata, if_pos hkey.symm] at hq'
    obtain rfl := undelegationRequest.inj hq'
    have hnot := hdelegated.signer hsigner
    rw [heq] at hnot
    refine ⟨hnot, hkept howner, ?_, haccount, hsession, hbump, r, hrecord.trans hr, hprogram⟩
    rw [howners, if_pos hkey.symm]
  · have hne : env.requestOf a ≠ request.address := by
      rw [hkey]
      intro hrequest
      exact heq (hapart.request_inj _ hrequest.symm)
    refine h.congr (hnone h.record) (hnone h.request) ?_ fun _ _ hq => hq.congr hkept hrecord ?_
    · rw [hdata, if_neg hne]
    · rw [howners, if_neg hne]

/-- An approval leaves what the request names. -/
theorem WayBack.approveUndelegation (hapart : env.TellsApart a)
    (hstep : approveUndelegation env validator session request L = .ok L') : WayBack env a L' := by
  obtain ⟨q, hkey, hq, rfl⟩ := approveUndelegation_data hstep
  have hkept : Kept env a L _ :=
    SideStep.keeps (sideStep_approveUndelegation (fun _ _ => trivial) hstep)
  have hnone {w : Pubkey} (hno : NoRecord env w L) : NoRecord env w (L.setData request.address
      (.undelegationRequest { q with approved := true })) := by
    intro r
    rw [setData_data]
    split
    · nofun
    · exact hno r
  have hrecord : env.recordOf a ≠ request.address := by
    rw [hkey]
    exact (hapart.record.covers (by decide) (.undelegationRequest _) rfl).symm
  by_cases heq : request.address = env.requestOf a
  · rw [heq] at hq hkept hrecord hnone ⊢
    refine ⟨hnone h.record, hnone h.request, fun q' hq' => ?_⟩
    rw [setData_data, if_pos rfl] at hq'
    obtain rfl := undelegationRequest.inj hq'
    have hagrees := h.agrees q hq
    refine ⟨hagrees.notDerived, hkept hagrees.owner, ?_, hagrees.account, hagrees.session,
      hagrees.bump, ?_⟩
    · rw [setData_owner]
      exact hagrees.requestOwner
    · rw [setData_data, if_neg hrecord]
      exact hagrees.record
  · refine h.congr (hnone h.record) (hnone h.request) ?_ fun _ _ hq => hq.congr hkept ?_ ?_
    · rw [setData_data, if_neg (Ne.symm heq)]
    · rw [setData_data, if_neg hrecord]
    · rw [setData_owner]

/-- A return takes the request with it. -/
theorem WayBack.undelegate (hapart : env.TellsApart a) (hdelegated : Named env S delegated)
    (hstep : undelegate env authority delegated ownerProgram record session request handoff L = .ok
      L') : WayBack env a L' := by
  obtain ⟨r, hsigner, hr, -, hclosed, hdata⟩ := undelegate_effect hdelegated hstep
  have hnot := hdelegated.signer hsigner
  have hne {x : Pubkey} (hx : env.Derived x) : x ≠ delegated.address := by
    rintro rfl
    exact hnot hx
  have hnone {w : Pubkey} (hno : NoRecord env w L) : NoRecord env w L' := by
    intro r'
    by_cases hx : env.recordOf w = env.recordOf delegated.address ∨
        env.recordOf w = env.requestOf delegated.address
    · rw [hclosed _ hx]
      nofun
    · rw [not_or] at hx
      rw [(hdata (env.recordOf w) (hne ⟨_, rfl⟩) hx.1 hx.2).1]
      exact hno r'
  by_cases heq : delegated.address = a
  · refine ⟨hnone h.record, hnone h.request, fun q' hq' => ?_⟩
    rw [hclosed _ (.inr (by rw [heq]))] at hq'
    cases hq'
  · -- the record and the request of another account
    have hrequest : env.requestOf a ≠ env.recordOf delegated.address :=
      (hapart.request.covers (by decide) (.delegation _) rfl).symm
    have hrequest' : env.requestOf a ≠ env.requestOf delegated.address := by
      intro hsame
      exact heq (hapart.request_inj _ hsame.symm)
    have hrecord : env.recordOf a ≠ env.requestOf delegated.address :=
      (hapart.record.covers (by decide) (.undelegationRequest _) rfl).symm
    have hrecord' : env.recordOf a ≠ env.recordOf delegated.address := by
      intro hsame
      exact heq (hapart.record_inj _ hsame.symm)
    have hkeep := hdata (env.requestOf a) (hne ⟨_, rfl⟩) hrequest hrequest'
    refine h.congr (hnone h.record) (hnone h.request) hkeep.1 fun _ _ hagrees => ?_
    have hkept : Kept env a L L' :=
      (footprint_of_sideStep (R := fun b => env.Derived b ∨ b = delegated.address)
        (Permits.all env) (sideStep_undelegate (fun _ _ => trivial) (fun _ _ => trivial)
          (Scope.admits fun _ => trivial) (fun _ => trivial) Scope.counts Scope.counts
          (fun _ => .inl) (.inr rfl) hstep)).kept a
        (not_or.mpr ⟨hagrees.notDerived, Ne.symm heq⟩)
    exact hagrees.congr hkept (hdata (env.recordOf a) (hne ⟨_, rfl⟩) hrecord' hrecord).1 hkeep.2

/-- A delegation of the second format, which appends an ingress record besides. -/
theorem WayBack.delegateV2 (hl : env.Lawful) (hapart : env.TellsApart a)
    (hpayer : Named env S payer) (haccount : Named env S account)
    (hrequest : Spared env (env.requestOf a) L L')
    (hstep : delegateV2 env now payer session account ownerProgram record buffer ingress gridId L =
      .ok L') : WayBack env a L' := by
  have hkept : Kept env a L L' := SideStep.keeps (sideStep_delegateV2 trivial
    (fun _ _ => trivial) (Scope.admits fun _ => trivial) (fun _ => trivial) Scope.counts
    Scope.counts (fun _ _ _ => trivial) hstep)
  simp only [Portal.delegateV2, chain_ok] at hstep
  obtain ⟨frame, -, -, -, L₁, hdelegate, -, happend⟩ := hstep
  obtain ⟨hdata, hno⟩ := record_processDelegateAccount hapart.record.derived haccount hdelegate
  have hkind : Covers env (· ≠ env.recordOf a) (ascii "ingress_v2") :=
    hapart.record.covers (by decide)
  have hspared : Spared env (env.recordOf a) L₁ L' :=
    SideStep.spares hapart.record (sideStep_appendIngressV2
      (hl.address_ne_side .session _ (.delegation a)) (hapart.record.admits hpayer) Scope.counts
      (Covers.ingress hkind) happend)
  refine h.delegate (fun hne => hspared.data.trans (hdata hne)) ?_ hrequest hkept
  exact hspared.undelegated (hno hapart.record.delegation h.record)

/-- **One call**, unless it settles the owner of a requested account. -/
theorem WayBack.call (hl : env.Lawful) (hapart : env.TellsApart a)
    (hn : ∀ m ∈ c.accounts, Named env S m) (hspares : Spares env a L (.call c))
    (hresult : c.result env L = .ok L') : WayBack env a L' := by
  have hrecordNe : env.recordOf a ≠ env.address .session :=
    (hl.address_ne_side .session _ (.delegation a)).symm
  have hrequestNe : env.requestOf a ≠ env.address .session :=
    (hl.address_ne_side .session _ (.undelegationRequest a)).symm
  have hrecord (hkinds : ∀ kind ∈ c.instruction.sideKinds, kind ∉ [ascii "delegation"]) :
      Spared env (env.recordOf a) L L' :=
    spared_processInstruction hapart.record h.record hn (fun _ => hrecordNe) hkinds hresult
  have hrequest (hkinds : ∀ kind ∈ c.instruction.sideKinds,
      kind ∉ [ascii "undelegation_request"]) : Spared env (env.requestOf a) L L' :=
    spared_processInstruction hapart.request h.request hn (fun _ => hrequestNe) hkinds hresult
  -- all but the instructions of delegation write neither records nor requests
  have hother (hkinds : ∀ kind ∈ c.instruction.sideKinds, kind ∉ [ascii "delegation"])
      (hkinds' : ∀ kind ∈ c.instruction.sideKinds, kind ∉ [ascii "undelegation_request"]) :
      WayBack env a L' := by
    refine h.spared (hrecord hkinds) (hrequest hkinds') fun hnot => ?_
    refine kept_of_call hnot ?_ hresult
    rintro ⟨hi | hi, -⟩ <;>
    · rw [hi] at hkinds
      exact hkinds (ascii "delegation") (by decide) (by decide)
  have hdelegation : ∀ kind ∈ [ascii "delegation"], kind ∉ [ascii "undelegation_request"] := by
    decide
  have hingress : ∀ kind ∈ [ascii "delegation", ascii "ingress_v2"],
      kind ∉ [ascii "undelegation_request"] := by
    decide
  obtain ⟨now, accounts, i⟩ := c
  cases i
  case delegate gridId =>
    obtain ⟨hdata, hno⟩ := record_processDelegate hapart.record.derived hn hresult
    exact h.delegate hdata (hno hapart.record.delegation h.record) (hrequest hdelegation)
      (SideStep.keeps (sideStep_processDelegate (fun _ _ => trivial)
        (fun _ _ => Scope.admits fun _ => trivial) hresult))
  case delegateV2 gridId =>
    have hdelegated : processDelegateV2 env now accounts gridId L = .ok L' :=
      (onlyWith_ok hresult).2
    unfold processDelegateV2 at hdelegated
    split at hdelegated
    · exact h.delegateV2 hl hapart (hn _ (by simp)) (hn _ (by simp)) (hrequest hingress) hdelegated
    · cases hdelegated
  case settleAccountOwner args =>
    have hsettle : processSettleAccountOwner env accounts args L = .ok L' := hresult
    unfold processSettleAccountOwner at hsettle
    split at hsettle
    · refine h.settleAccountOwner hl hapart (fun heq q hq => ?_) (hrequest hdelegation) hsettle
      exact hspares _ L' args q rfl hresult rfl (by simp [heq]) hq
    · cases hsettle
  case requestUndelegation =>
    have hrequested : processRequestUndelegation env now accounts L = .ok L' := hresult
    unfold processRequestUndelegation at hrequested
    split at hrequested
    · exact h.requestUndelegation hapart (hn _ (by simp)) hrequested
    · cases hrequested
  case approveUndelegation =>
    have happroved : processApproveUndelegation env accounts L = .ok L' := hresult
    unfold processApproveUndelegation at happroved
    split at happroved
    · exact h.approveUndelegation hapart happroved
    · cases happroved
  case undelegate =>
    have hreturned : processUndelegateInner env accounts false L = .ok L' := hresult
    unfold processUndelegateInner at hreturned
    split at hreturned
    · exact h.undelegate hapart (hn _ (by simp)) hreturned
    · cases hreturned
  case undelegateHandoff =>
    have hreturned : processUndelegateInner env accounts true L = .ok L' := hresult
    unfold processUndelegateInner at hreturned
    split at hreturned
    · exact h.undelegate hapart (hn _ (by simp)) hreturned
    · cases hreturned
  all_goals
    refine hother ?_ ?_ <;>
    · show ∀ kind ∈ Instruction.sideKinds _, _
      simp only [Instruction.sideKinds]
      decide

/-- **One event.** -/
theorem WayBack.event (hl : env.Lawful) (hapart : env.TellsApart a) {event : Event}
    (ha : Admissible env L event) (hspares : Spares env a L event) :
    WayBack env a (exec env L event) := by
  cases event with
  | other after =>
    refine h.spared (spared_of_other hapart.record ha) (spared_of_other hapart.request ha) ?_
    intro _ howner
    exact (ha a (.inl howner)).2.1.trans howner
  | call c =>
    cases hresult : c.result env L with
    | error e =>
      rw [exec_call_of_error hresult]
      exact h
    | ok L' =>
      rw [exec_call_of_ok hresult]
      exact h.call hl hapart (Call.named ha subset_rfl) hspares hresult

end OnTheWay

end Event

/-! ## Carrying a request out -/

/-- The call by which the holder and the authority of a request take the account back. -/
def returning (now : UInt64) (a : Pubkey) (q : UndelegationRequest) : Call :=
  ⟨now, [⟨q.authority, true, true⟩, ⟨a, true, true⟩, ⟨q.ownerProgram, false, false⟩,
    ⟨env.recordOf a, false, true⟩, ⟨systemProgramId, false, false⟩,
    ⟨env.address .session, false, false⟩, ⟨env.requestOf a, false, true⟩], .undelegateHandoff⟩

/-- A session of the first format stands, and no settlement is in progress. -/
def StandsIdle (L : Ledger) : Prop :=
  (L (env.address .session)).owner = env.programId ∧
    ∃ s, (L (env.address .session)).data = .session s ∧ s.settlementStatus ≠ .inProgress

/-- The balances that a return puts together fit into a word. -/
def RefundFits (L : Ledger) (a : Pubkey) (q : UndelegationRequest) : Prop :=
  (L q.authority).lamports.toNat +
    ((L (env.recordOf a)).lamports.toNat + (L (env.requestOf a)).lamports.toNat) < 2 ^ 64

section Returning

variable {env} {c : Call}

theorem loadSessionV1_eq_ok :
    loadSessionV1 env L (env.address .session) e e' = .ok s ↔
      (L (env.address .session)).owner = env.programId ∧
        (L (env.address .session)).data = .session s := by
  simp only [loadSessionV1, chain_ok]
  constructor
  · rintro ⟨-, howner, hparse⟩
    refine ⟨howner, ?_⟩
    cases hdata : (L (env.address .session)).data with
    | session state =>
      rw [hdata] at hparse
      rw [Except.ok.inj hparse]
    | _ =>
      rw [hdata] at hparse
      cases hparse
  · rintro ⟨howner, hdata⟩
    exact ⟨rfl, howner, by rw [hdata]; rfl⟩

theorem refundClosed_isOk {authority record request : Pubkey} :
    (∃ L', refundClosed L authority record request = .ok L') ↔
      (L authority).lamports.toNat +
        ((L record).lamports.toNat + (L request).lamports.toNat) < 2 ^ 64 := by
  simp only [refundClosed, chain_ok, checkedAdd_eq_some]
  constructor
  · rintro ⟨L', lamports, hlamports, credited, hcredited, -⟩
    have hbound := credited.toNat_lt
    omega
  · intro h
    have hlamports : ((L record).lamports + (L request).lamports).toNat =
        (L record).lamports.toNat + (L request).lamports.toNat := by
      rw [UInt64.toNat_add, Nat.mod_eq_of_lt (by omega)]
    refine ⟨_, _, hlamports, (L authority).lamports + ((L record).lamports + (L request).lamports),
      ?_, rfl⟩
    rw [UInt64.toNat_add, hlamports, Nat.mod_eq_of_lt (by omega)]

/-- **An approved request that agrees is carried out** whenever a session of the first format
stands idle and the refund fits. -/
theorem Agrees.returning_isOk (h : Agrees env a L q) (now : UInt64)
    (hq : (L (env.requestOf a)).data = .undelegationRequest q) (happroved : q.approved = true) :
    (∃ L', (returning env now a q).result env L = .ok L') ↔
      StandsIdle env L ∧ RefundFits env L a q := by
  obtain ⟨r, hr, hprogram⟩ := h.record
  have hfits : RefundFits env L a q ↔ ∃ L', refundClosed
      ((L.setData a (L a).data.zeroed).setOwner a q.ownerProgram) q.authority (env.recordOf a)
        (env.requestOf a) = .ok L' := by
    rw [refundClosed_isOk]
    simp [RefundFits]
  rw [hfits]
  show (∃ L', undelegate env _ _ _ _ _ _ true L = .ok L') ↔ _
  simp only [undelegate, chain_ok, parseDelegationRecord_eq_some, parseUndelegationRequest_eq_some,
    not_or, loadSessionV1_eq_ok]
  constructor
  · rintro ⟨L', -, -, s, hs, hidle, -, r', -, -, -, -, q', -, -, -, -, L₁, hrefund, -⟩
    exact ⟨⟨hs.1, s, hs.2, hidle⟩, L₁, hrefund⟩
  · rintro ⟨⟨howner, s, hs, hidle⟩, L₁, hrefund⟩
    exact ⟨_, by simp, by simp, s, ⟨howner, hs⟩, hidle, trivial, r, hr, hprogram, h.owner,
      ⟨trivial, h.requestOwner⟩, q, hq, ⟨h.bump, h.session, h.account, rfl, rfl⟩,
      by simp [happroved], by simp, L₁, hrefund, rfl⟩

/-- A returning call runs the undelegation of the account it returns. -/
theorem undelegate_of_returns (hc : c.Returns a) (h : c.result env L = .ok L') :
    ∃ authority delegated ownerProgram record session request handoff, delegated ∈ c.accounts ∧
      delegated.address = a ∧
      undelegate env authority delegated ownerProgram record session request handoff L =
        .ok L' := by
  obtain ⟨now, accounts, i⟩ := c
  have hinner : ∃ handoff, processUndelegateInner env accounts handoff L = .ok L' := by
    obtain ⟨rfl | rfl, -⟩ := hc
    · exact ⟨false, h⟩
    · exact ⟨true, h⟩
  obtain ⟨handoff, hinner⟩ := hinner
  have hname := hc.2
  unfold processUndelegateInner at hinner
  split at hinner
  · exact ⟨_, _, _, _, _, _, _, by simp, Option.some.inj hname, hinner⟩
  · cases hinner

/-- What a returning call was checked against. -/
theorem checks_of_returns (hc : c.Returns a) (h : c.result env L = .ok L') :
    ∃ r q, (L (env.recordOf a)).data = .delegationRecord r ∧
      (L (env.requestOf a)).data = .undelegationRequest q ∧ r.ownerProgram = q.ownerProgram := by
  obtain ⟨_, _, _, _, _, _, _, -, rfl, hundelegate⟩ := undelegate_of_returns hc h
  obtain ⟨r, q, hr, hq, hsame, -⟩ := undelegate_checks hundelegate
  exact ⟨r, q, hr, hq, hsame⟩

/-- **The account goes to the program that its record names.** -/
theorem owner_of_returns (ha : Admissible env L (.call c)) (hc : c.Returns a)
    (h : c.result env L = .ok L') :
    ∃ r, (L (env.recordOf a)).data = .delegationRecord r ∧ (L' a).owner = r.ownerProgram := by
  have hn := Call.named (S := c.addresses) ha subset_rfl
  obtain ⟨_, _, _, _, _, _, _, hmem, rfl, hundelegate⟩ := undelegate_of_returns hc h
  obtain ⟨r, -, hr, howner, -⟩ := undelegate_effect (hn _ hmem) hundelegate
  exact ⟨r, hr, howner⟩

end Returning

/-! ## Histories -/

/-- At the start no return of `a` was requested, and neither the record of `a` nor the
account of its request is delegated. -/
structure Unrequested (a : Pubkey) (L : Ledger) : Prop where
  request : ∀ q, (L (env.requestOf a)).data ≠ .undelegationRequest q
  recordOfRecord : NoRecord env (env.recordOf a) L
  recordOfRequest : NoRecord env (env.requestOf a) L

section Histories

variable {env} {L₀ : Ledger} {events : List Event}

theorem History.wayBack (hl : env.Lawful) (hapart : env.TellsApart a)
    (hstart : Unrequested env a L₀) (h : History env L₀ events)
    (hspares : Runs.Along (exec env) (Spares env a) L₀ events) :
    WayBack env a (ledgerAfter env L₀ events) :=
  History.induction_along hl
    (fun _ => ⟨hstart.recordOfRecord, hstart.recordOfRequest,
      fun q hq => absurd hq (hstart.request q)⟩)
    (fun _ _ _ ha hC hL => hL.event hl hapart ha hC) h hspares

/-- **Coherence of the way back.** In every history whose owner settlements spare requested
accounts, a request agrees with the delegation record; whoever returns the account gives it
to the program the record names; and an approved request is carried out, by its holder and
authority, whenever a session of the first format stands idle. -/
theorem undelegation_coherent (hl : env.Lawful) (hapart : env.TellsApart a)
    (hstart : Unrequested env a L₀) (h : History env L₀ events)
    (hspares : Runs.Along (exec env) (Spares env a) L₀ events) {q : UndelegationRequest}
    (hq : (ledgerAfter env L₀ events (env.requestOf a)).data = .undelegationRequest q)
    (happroved : q.approved = true) :
    ∃ r, (ledgerAfter env L₀ events (env.recordOf a)).data = .delegationRecord r ∧
      (q.delegatedAccount = a ∧ q.session = env.address .session ∧
        q.ownerProgram = r.ownerProgram) ∧
      (∀ c L', Admissible env (ledgerAfter env L₀ events) (.call c) → c.Returns a →
        c.result env (ledgerAfter env L₀ events) = .ok L' → (L' a).owner = r.ownerProgram) ∧
      ∀ now, (∃ L', (returning env now a q).result env (ledgerAfter env L₀ events) = .ok L') ↔
        StandsIdle env (ledgerAfter env L₀ events) ∧
          RefundFits env (ledgerAfter env L₀ events) a q := by
  have hagrees := (h.wayBack hl hapart hstart hspares).agrees q hq
  obtain ⟨r, hr, hprogram⟩ := hagrees.record
  refine ⟨r, hr, ⟨hagrees.account, hagrees.session, hprogram.symm⟩, fun c L' ha hc hresult => ?_,
    fun now => hagrees.returning_isOk now hq happroved⟩
  obtain ⟨r', hr', howner⟩ := owner_of_returns ha hc hresult
  obtain rfl := delegationRecord.inj (hr.symm.trans hr')
  exact howner

end Histories

/-! ## A deployment with one delegated account -/

/-- An account that the holder of wallet 23 assigned to Portal. -/
def wayAccount : Pubkey := tagged 23 []

/-- Addresses of their own for the record and the request of the account, and for the
records that these two would have. -/
def wayTable : List (List (List UInt8) × Pubkey) :=
  [([ascii "delegation", wayAccount.toList], tagged 90 []),
    ([ascii "undelegation_request", wayAccount.toList], tagged 91 []),
    ([ascii "delegation", (tagged 90 []).toList], tagged 92 []),
    ([ascii "delegation", (tagged 91 []).toList], tagged 93 [])]

def wayAddress (seeds : List (List UInt8)) : Bytes32 :=
  match wayTable.find? (fun p => p.1 = seeds) with
  | some p => p.2
  | none => devAddress seeds

/-- **The deployment**: as `devnet`, with the addresses of the table. -/
def waynet : Env :=
  { devnet with
    findProgramAddress := fun seeds program =>
      if program = devnet.programId then (wayAddress seeds, 255)
      else devnet.findProgramAddress seeds program }

theorem wayTable_tags : ∀ p ∈ wayTable, ¬IsDevTag (tagOf p.2) ∧ 7 < tagOf p.2 := by decide

theorem wayTable_inj : ∀ p ∈ wayTable, ∀ p' ∈ wayTable, p.2 = p'.2 → p.1 = p'.1 := by decide

theorem wayTable_heads : ∀ p ∈ wayTable, p.1.head? = some (ascii "delegation") ∨
    p.1.head? = some (ascii "undelegation_request") := by decide

/-- An address stands in the table, or is the one of `devnet`. -/
theorem wayAddress_cases (seeds : List (List UInt8)) :
    (seeds, wayAddress seeds) ∈ wayTable ∨
      (∀ p ∈ wayTable, p.1 ≠ seeds) ∧ wayAddress seeds = devAddress seeds := by
  unfold wayAddress
  cases hfind : wayTable.find? (fun p => p.1 = seeds) with
  | some p =>
    left
    have hseeds : p.1 = seeds := by simpa using List.find?_some hfind
    rw [← hseeds]
    exact List.mem_of_find?_eq_some hfind
  | none =>
    right
    refine ⟨fun p hp => ?_, rfl⟩
    simpa using List.find?_eq_none.mp hfind p hp

/-- An address of the table belongs to its seeds alone. -/
theorem eq_of_wayAddress (hp : p ∈ wayTable) (h : wayAddress seeds = p.2) : seeds = p.1 := by
  rcases wayAddress_cases seeds with hmem | ⟨-, hdev⟩
  · exact wayTable_inj _ hmem p hp h
  · refine absurd ?_ (wayTable_tags p hp).1
    rw [← h, hdev]
    exact isDevTag_devTag seeds

/-- Seeds that start with other words than those of the table. -/
theorem wayAddress_of_name (h : name ≠ ascii "delegation")
    (h' : name ≠ ascii "undelegation_request") :
    wayAddress (name :: rest) = devAddress (name :: rest) := by
  rcases wayAddress_cases (name :: rest) with hmem | ⟨-, hdev⟩
  · rcases wayTable_heads _ hmem with heads | heads
    · exact absurd (Option.some.inj heads) h
    · exact absurd (Option.some.inj heads) h'
  · exact hdev

theorem waynet_address (g : GameAccount) : waynet.address g = devnet.address g := by
  have hsession : waynet.address .session = devnet.address .session := by
    show wayAddress [ascii "session"] = _
    exact wayAddress_of_name (by decide) (by decide)
  have hcheckpoint (e : UInt64) : waynet.address (.checkpoint e) =
      devnet.address (.checkpoint e) := by
    show wayAddress [ascii "checkpoint", (waynet.address .session).toList, le64 e] = _
    rw [hsession]
    exact wayAddress_of_name (by decide) (by decide)
  have hchallenge (e : UInt64) : waynet.address (.challenge e) = devnet.address (.challenge e) := by
    show wayAddress [ascii "challenge", (waynet.address (.checkpoint e)).toList] = _
    rw [hcheckpoint]
    exact wayAddress_of_name (by decide) (by decide)
  cases g with
  | session => exact hsession
  | feeVault =>
    show wayAddress [ascii "fee_vault"] = _
    exact wayAddress_of_name (by decide) (by decide)
  | cursor =>
    show wayAddress [ascii "checkpoint_cursor", (waynet.address .session).toList] = _
    rw [hsession]
    exact wayAddress_of_name (by decide) (by decide)
  | checkpoint e => exact hcheckpoint e
  | challenge e => exact hchallenge e
  | daProof e =>
    show wayAddress [ascii "da_proof", (waynet.address (.challenge e)).toList] = _
    rw [hchallenge]
    exact wayAddress_of_name (by decide) (by decide)
  | stepProof e =>
    show wayAddress [ascii "step_proof", (waynet.address (.checkpoint e)).toList] = _
    rw [hcheckpoint]
    exact wayAddress_of_name (by decide) (by decide)

theorem tagOf_waynet_address (g : GameAccount) : tagOf (waynet.address g) ≤ 7 := by
  rw [waynet_address, devnet_address, tagOf_tagged]
  exact (localCode_range g).2

theorem wayAddress_side (h : Env.SideSeeds seeds) : 7 < tagOf (wayAddress seeds) := by
  rcases wayAddress_cases seeds with hmem | ⟨-, hdev⟩
  · exact (wayTable_tags _ hmem).2
  · rw [hdev]
    exact devTag_side h

theorem waynet_ne_side (g : GameAccount) (h : Env.SideSeeds seeds) :
    waynet.address g ≠ wayAddress seeds := by
  intro heq
  have hlow := tagOf_waynet_address g
  rw [heq] at hlow
  exact absurd (UInt8.lt_of_lt_of_le (wayAddress_side h) hlow) (UInt8.lt_irrefl _)

/-- The record of an account that has one in the table. -/
theorem waynet_recordOf_inj (hp : p ∈ wayTable) (hw : p.1 = [ascii "delegation", w.toList])
    (h : waynet.recordOf a = waynet.recordOf w) :
    a = w := by
  have hrecord : wayAddress [ascii "delegation", w.toList] = p.2 := by
    rcases wayAddress_cases [ascii "delegation", w.toList] with hmem | ⟨hnone, -⟩
    · have hunique : ∀ p ∈ wayTable, ∀ p' ∈ wayTable, p.1 = p'.1 → p.2 = p'.2 := by decide
      exact hunique _ hmem p hp hw.symm
    · exact absurd hw (hnone p hp)
  have hseeds := eq_of_wayAddress hp (h.trans hrecord)
  rw [hw] at hseeds
  exact Vector.toList_inj.mp (by simpa using hseeds)

theorem waynet_lawful : waynet.Lawful where
  address_injective g g' h := by
    rw [waynet_address, waynet_address] at h
    exact devnet_lawful.address_injective h
  address_ne_default g := by
    rw [waynet_address]
    exact devnet_lawful.address_ne_default g
  address_ne_side g seeds hs := waynet_ne_side g hs
  delegation_address g a h := by
    have h : wayAddress [ascii "delegation", a.toList] =
      wayAddress [ascii "delegation", (waynet.address g).toList] := h
    have hrange : ∀ p ∈ wayTable, ∀ w : Pubkey, p.1 = [ascii "delegation", w.toList] →
        7 < tagOf w := by
      intro p hp w hw
      have hkeys : ∀ p ∈ wayTable, 7 < (p.1.getD 1 []).headD 0 := by decide
      have := hkeys p hp
      rwa [hw] at this
    rcases wayAddress_cases [ascii "delegation", (waynet.address g).toList] with hmem | ⟨-, hdev⟩
    · have hlow := hrange _ hmem _ rfl
      exact absurd (UInt8.lt_of_lt_of_le hlow (tagOf_waynet_address g)) (UInt8.lt_irrefl _)
    · rcases wayAddress_cases [ascii "delegation", a.toList] with hmem | ⟨-, hdev'⟩
      · have hnot := (wayTable_tags _ hmem).1
        rw [h, hdev] at hnot
        exact absurd (isDevTag_devTag [ascii "delegation", (waynet.address g).toList]) hnot
      · rw [hdev, hdev', waynet_address] at h
        rw [waynet_address]
        exact devnet_lawful.delegation_address g a h
  minimumBalance_pos := devnet_lawful.minimumBalance_pos
  programId_ne_system := devnet_lawful.programId_ne_system

/-- An address of the table is beside the game. -/
theorem waynet_beside (hp : p ∈ wayTable) (hs : Env.SideSeeds p.1) (hhead : p.1.head? = some kind)
    (hr : r ∈ wayTable) (hrecord : r.1 = [ascii "delegation", p.2.toList])
    (hfind : wayAddress p.1 = p.2) : Beside waynet [kind] p.2 where
  derived := ⟨p.1, hfind.symm⟩
  game g _ := by
    rw [← hfind]
    exact waynet_ne_side g hs
  side seeds hs' h := by
    rw [eq_of_wayAddress hp h]
    exact ⟨kind, List.mem_singleton_self _, hhead⟩
  delegation a h := waynet_recordOf_inj hr hrecord h

/-- **The account's record and request are told apart.** -/
theorem waynet_tellsApart : waynet.TellsApart wayAccount where
  record := waynet_beside (p := ([ascii "delegation", wayAccount.toList], tagged 90 []))
    (r := ([ascii "delegation", (tagged 90 []).toList], tagged 92 [])) (by decide)
    (.delegation wayAccount) rfl (by decide) rfl (by decide)
  request := waynet_beside (p := ([ascii "undelegation_request", wayAccount.toList], tagged 91 []))
    (r := ([ascii "delegation", (tagged 91 []).toList], tagged 93 [])) (by decide)
    (.undelegationRequest wayAccount) rfl (by decide) rfl (by decide)
  record_inj a h :=
    waynet_recordOf_inj (p := ([ascii "delegation", wayAccount.toList], tagged 90 [])) (by decide)
      rfl h
  request_inj a h := by
    have hseeds := eq_of_wayAddress
      (p := ([ascii "undelegation_request", wayAccount.toList], tagged 91 [])) (by decide) h
    exact Vector.toList_inj.mp (by simpa using hseeds)

/-! ## Its histories -/

/-- The wallets, the account at Portal, and a buffer of the program it comes from. -/
def wayLedger : Ledger :=
  (devLedger.setOwner wayAccount waynet.programId).setOwner (tagged 27 []) (tagged 26 [])

theorem wayLedger_data (a : Pubkey) : (wayLedger a).data = .empty := by
  simp [wayLedger, (devLedger_vacant a).1]

theorem wayLedger_genesis : Genesis waynet wayLedger where
  vacant g := by
    refine ⟨wayLedger_data _, ?_⟩
    have hne {b : Pubkey} (hb : 7 < tagOf b) : waynet.address g ≠ b := by
      rintro rfl
      exact absurd (UInt8.lt_of_lt_of_le hb (tagOf_waynet_address g)) (UInt8.lt_irrefl _)
    unfold wayLedger
    rw [setOwner_owner, if_neg (hne (by decide)), setOwner_owner, if_neg (hne (by decide))]
    exact (devLedger_vacant _).2
  undelegated g r := by
    rw [wayLedger_data]
    nofun

theorem wayLedger_unrequested : Unrequested waynet wayAccount wayLedger where
  request q := by
    rw [wayLedger_data]
    nofun
  recordOfRecord r := by
    rw [wayLedger_data]
    nofun
  recordOfRequest r := by
    rw [wayLedger_data]
    nofun

/-- Every signer of a call is a wallet. -/
def Call.ByWayWallets (c : Call) : Prop :=
  ∀ m ∈ c.accounts, m.isSigner = true → 17 < tagOf m.address ∧ tagOf m.address < 32

instance (c : Call) : Decidable c.ByWayWallets := List.decidableBAll _ _

/-- No seeds lead to a wallet. -/
theorem waynet_not_derived (h : 17 < tagOf a ∧ tagOf a < 32) : ¬waynet.Derived a := by
  rintro ⟨seeds, heq⟩
  have heq : a = wayAddress seeds := heq
  rcases wayAddress_cases seeds with hmem | ⟨-, hdev⟩
  · have htags : ∀ p ∈ wayTable, ¬(17 < tagOf p.2 ∧ tagOf p.2 < 32) := by decide
    rw [heq] at h
    exact htags _ hmem h
  · have hdevTag : IsDevTag (tagOf a) := by
      rw [heq, hdev]
      exact isDevTag_devTag seeds
    have hrange : 17 < (tagOf a).toNat ∧ (tagOf a).toNat < 32 := h
    have hdevTag : 1 ≤ (tagOf a).toNat ∧ (tagOf a).toNat ≤ 16 ∨
      32 ≤ (tagOf a).toNat ∧ (tagOf a).toNat ≤ 72 := hdevTag
    omega

theorem waynet_history {calls : List Call} (h : ∀ c ∈ calls, c.ByWayWallets) :
    History waynet wayLedger (calls.map .call) :=
  ⟨wayLedger_genesis, admissible_calls (fun c hc m hm hsigner =>
    waynet_not_derived (h c hc m hm hsigner)) wayLedger⟩

/-- The holder delegates the account, which comes from program 26. -/
def wayDelegating : Call :=
  ⟨15, [localWallet 22, localNamed systemProgramId, localPlace .session, localWallet 23,
    localNamed (tagged 26 []), localNamed (waynet.recordOf wayAccount), localNamed (tagged 27 [])],
    .delegate 1⟩

/-- The holder requests the account back, with wallet 24 as the authority. -/
def wayRequesting : Call :=
  ⟨16, [localWallet 22, localWallet 24, localWallet 23, localNamed (tagged 26 []),
    localNamed (waynet.recordOf wayAccount), localPlace .session,
    localNamed (waynet.requestOf wayAccount), localNamed systemProgramId], .requestUndelegation⟩

/-- The validator approves the request. -/
def wayApproving (now : UInt64) : Call :=
  ⟨now, [localWallet 21, localPlace .session, localNamed (waynet.requestOf wayAccount)],
    .approveUndelegation⟩

/-- The request, approved. -/
def wayRequest : UndelegationRequest :=
  { session := waynet.address .session
    delegatedAccount := wayAccount
    ownerProgram := tagged 26 []
    authority := tagged 24 []
    requestedAtL1Slot := 16
    approved := true
    bump := 255 }

/-- The account is delegated, requested back and approved. -/
def wayApproved : List Call := [localOpening, wayDelegating, wayRequesting, wayApproving 17]

theorem standsIdle_of_parse {env : Env} {L : Ledger}
    (howner : (L (env.address .session)).owner = env.programId)
    (h : (parseSessionV1 (L (env.address .session)).data).toOption.any
      (fun s => decide (s.settlementStatus ≠ .inProgress)) = true) : StandsIdle env L := by
  obtain ⟨s, hs, hidle⟩ := (Option.any_eq_true _ _).mp h
  have hload : loadSessionV1 env L (env.address .session) .invalidPdaSeeds .invalidPdaSeeds =
      .ok s := by
    simp only [loadSessionV1, chain_ok]
    exact ⟨rfl, howner, toOption_eq_some.mp hs⟩
  exact ⟨howner, s, (loadSessionV1_eq_ok.mp hload).2, by simpa using hidle⟩

set_option maxRecDepth 100000 in
/-- The request agrees with its record, and is carried out. -/
theorem undelegation_coherent_way :
    ∃ r L', (ledgerAfter waynet wayLedger (wayApproved.map .call)
        (waynet.recordOf wayAccount)).data = .delegationRecord r ∧
      wayRequest.ownerProgram = r.ownerProgram ∧
      (returning waynet 18 wayAccount wayRequest).result waynet
        (ledgerAfter waynet wayLedger (wayApproved.map .call)) = .ok L' := by
  have hhistory : History waynet wayLedger (wayApproved.map .call) :=
    waynet_history (by decide)
  have hspares : Runs.Along (exec waynet) (Spares waynet wayAccount) wayLedger
      (wayApproved.map .call) := by
    refine ⟨?_, ?_, ?_, ?_, trivial⟩ <;>
    · rintro c L' args q hc - hi
      obtain rfl := Event.call.inj hc
      cases hi
  obtain ⟨r, hr, ⟨-, -, hprogram⟩, -, hcarried⟩ := undelegation_coherent waynet_lawful
    waynet_tellsApart wayLedger_unrequested hhistory
    hspares (q := wayRequest) (by decide +kernel) rfl
  obtain ⟨L', hL'⟩ := (hcarried 18).mpr
    ⟨standsIdle_of_parse (by decide +kernel) (by decide +kernel),
      show _ < _ by decide +kernel⟩
  exact ⟨r, L', hr, hprogram, hL'⟩

/-- What the settlement of slot 7 amounts to: the account goes over to program 28. -/
def wayChecksum : Hash32 :=
  accumulateOwnerChecksum waynet (initialSettlementChecksum waynet 7) wayAccount (tagged 28 [])

/-- The validator settles the new owner. -/
def waySettling : List Call :=
  [⟨130, [localWallet 21, localPlace .session, localPlace (.checkpoint 7)],
      .beginSettlement { erSlot := 7, checksum := wayChecksum, effectCommitment := zero32 }⟩,
    ⟨131, [localWallet 21, localPlace .session, localNamed wayAccount,
      localNamed (waynet.recordOf wayAccount)],
      .settleAccountOwner { erSlot := 7, checksum := wayChecksum, owner := tagged 28 [] }⟩,
    ⟨132, [localWallet 21, localPlace .session, localPlace (.checkpoint 7), localPlace .cursor],
      .finishSettlement 7 wayChecksum⟩]

/-- The account is requested back, its owner settled, and the request approved. -/
def wayParted : List Call :=
  [localOpening, wayDelegating, wayRequesting, localProposing localProposal, localCommitting] ++
    waySettling ++ [wayApproving 140]

set_option maxRecDepth 100000 in
/-- **An approved request that nobody can carry out**: the settlement changed the owner in
the record after the request, the approval did not notice, and no return succeeds although
the session stands idle. -/
theorem approved_request_parted :
    History waynet wayLedger (wayParted.map .call) ∧
    (ledgerAfter waynet wayLedger (wayParted.map .call) (waynet.requestOf wayAccount)).data =
      .undelegationRequest wayRequest ∧
    (ledgerAfter waynet wayLedger (wayParted.map .call) (waynet.recordOf wayAccount)).data =
      .delegationRecord { ownerProgram := tagged 28 [], gridId := 1, bump := 255 } ∧
    StandsIdle waynet (ledgerAfter waynet wayLedger (wayParted.map .call)) ∧
    ∀ (c : Call) L', c.Returns wayAccount →
      c.result waynet (ledgerAfter waynet wayLedger (wayParted.map .call)) ≠ .ok L' := by
  have hrequest : (ledgerAfter waynet wayLedger (wayParted.map .call)
      (waynet.requestOf wayAccount)).data = .undelegationRequest wayRequest := by decide +kernel
  have hrecord : (ledgerAfter waynet wayLedger (wayParted.map .call)
      (waynet.recordOf wayAccount)).data =
        .delegationRecord { ownerProgram := tagged 28 [], gridId := 1, bump := 255 } := by
    decide +kernel
  refine ⟨waynet_history (by decide), hrequest, hrecord,
    standsIdle_of_parse (by decide +kernel) (by decide +kernel), fun c L' hc hresult => ?_⟩
  obtain ⟨r, q, hr, hq, hsame⟩ := checks_of_returns hc hresult
  obtain rfl := delegationRecord.inj (hrecord.symm.trans hr)
  obtain rfl := undelegationRequest.inj (hrequest.symm.trans hq)
  exact absurd hsame (by decide)

end Northstar.Portal
