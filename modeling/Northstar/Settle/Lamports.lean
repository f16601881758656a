import Northstar.Game.Localnet
import Northstar.Settle.Effects

/-!
# Settling lamports

A settlement moves lamports among the delegated accounts it names and passes what is left
over to the fee vault. This file shows that it creates and destroys none, sets every
delegated account to its target, and that submitting the same settlement again changes
nothing, whatever others donated to the accounts in the meantime.

## Main definitions

* `SettleAccountLamports.pairs`, `SettleAccountLamports.trailing`: the accounts a call names
* `IsRetry`: what may happen between a settlement and its retry

## Main results

* `processSettleAccountLamportsInner_eq_ok`: when a settlement of lamports succeeds
* `total_of_settleAccountLamports`, `applied_of_settleAccountLamports`: what it does
* `settled_lamports_conserved`: conservation and retries
-/

namespace Northstar.Portal

open Bytes Checked

/-! ## The accounts a call names -/

/-- The delegated accounts of a call, with their records. -/
def SettleAccountLamports.pairs (args : SettleAccountLamports) (accounts : List AccountMeta) :
    List (Pubkey × Pubkey) :=
  delegatedPairs ((accounts.drop 2).take (args.accountCount.toNat * 2))

/-- The accounts that follow them. -/
def SettleAccountLamports.trailing (args : SettleAccountLamports) (accounts : List AccountMeta) :
    List AccountMeta :=
  (accounts.drop 2).drop (args.accountCount.toNat * 2)

/-- The delegated accounts stand at every second place. -/
theorem mem_zip_delegatedPairs {β : Type*} {accounts : List AccountMeta} {values : List β}
    {i : Nat} {m : AccountMeta} {v : β} (hm : accounts[2 * i]? = some m)
    (hrecord : 2 * i + 1 < accounts.length) (hv : values[i]? = some v) :
    (m.address, v) ∈ ((delegatedPairs accounts).map Prod.fst).zip values := by
  induction i generalizing accounts values with
  | zero =>
    obtain _ | ⟨account, _ | ⟨record, rest⟩⟩ := accounts <;> obtain _ | ⟨w, values⟩ := values
    all_goals simp at hm hrecord hv
    subst hm hv
    simp [delegatedPairs]
  | succ i ih =>
    obtain _ | ⟨account, _ | ⟨record, rest⟩⟩ := accounts <;> obtain _ | ⟨w, values⟩ := values
    all_goals simp [Nat.mul_add] at hm hrecord hv
    exact List.mem_cons_of_mem _ (ih hm (by omega) hv)

section Lamports

variable {env : Env} {L L' L₁ : Ledger} {s : Session} {accounts : List AccountMeta}
  {args : SettleAccountLamports} {previous : Option Hash32}

/-- **Success** of a settlement of lamports. -/
theorem processSettleAccountLamportsInner_eq_ok :
    processSettleAccountLamportsInner env accounts args previous L = .ok L' ↔
      0 < args.accountCount.toNat ∧ args.accountCount.toNat ≤ maxSettlementLamportAccounts ∧
      2 + args.accountCount.toNat * 2 ≤ accounts.length ∧
      ∃ validator session rest, accounts = validator :: session :: rest ∧
        settleAccountLamports env validator session (args.pairs accounts)
          (args.trailing accounts) args previous L = .ok L' := by
  simp only [processSettleAccountLamportsInner, chain_ok, not_or, not_lt]
  constructor
  · rintro ⟨⟨hpos, hmax⟩, hlength, h⟩
    split at h
    · rename_i validator session rest
      exact ⟨by omega, hmax, hlength, validator, session, rest, rfl, h⟩
    · cases h
  · rintro ⟨hpos, hmax, hlength, validator, session, rest, rfl, h⟩
    exact ⟨⟨by omega, hmax⟩, hlength, h⟩

/-! ## Conservation -/

namespace LamportTargets

variable {targets : LamportTargets} {S : Finset Pubkey}

/-- Installed targets are reached. -/
theorem reached_install (hnodup : (targets.map Prod.fst).Nodup) (L : Ledger) :
    targets.Reached (install targets L) := by
  induction targets generalizing L with
  | nil => exact fun t ht => absurd ht List.not_mem_nil
  | cons t rest ih =>
    rw [List.map_cons, List.nodup_cons] at hnodup
    intro u hu
    rcases List.mem_cons.mp hu with rfl | hu
    · show (install rest (L.setLamports u.1 u.2) u.1).lamports = u.2
      rw [install_lamports_of_not_mem hnodup.1, Ledger.setLamports_lamports, if_pos rfl]
    · exact ih hnodup.2 _ u hu

theorem Reached.congr (h : ∀ a, (L' a).lamports = (L a).lamports) (hr : targets.Reached L) :
    targets.Reached L' :=
  fun t ht => (h t.1).trans (hr t ht)

/-- Accounts that hold no less than their targets, and together no more, hold them exactly. -/
theorem reached_of_total (hle : ∀ t ∈ targets, t.2 ≤ (L t.1).lamports)
    (htotal : targets.currentTotal L ≤ targets.targetTotal) : targets.Reached L := by
  induction targets with
  | nil => exact fun t ht => absurd ht List.not_mem_nil
  | cons t rest ih =>
    rw [List.forall_mem_cons] at hle
    obtain ⟨hhead, htail⟩ := hle
    rw [UInt64.le_iff_toNat_le] at hhead
    have hsum : ∀ {rest : LamportTargets}, (∀ t ∈ rest, t.2 ≤ (L t.1).lamports) →
        rest.targetTotal ≤ rest.currentTotal L := by
      intro rest hrest
      refine List.sum_le_sum fun t ht => ?_
      exact UInt64.le_iff_toNat_le.mp (hrest t ht)
    have hrest := hsum htail
    have hcurrent : currentTotal (t :: rest) L = (L t.1).lamports.toNat + currentTotal rest L := rfl
    have htarget : targetTotal (t :: rest) = t.2.toNat + targetTotal rest := rfl
    intro u hu
    rcases List.mem_cons.mp hu with rfl | hu
    · exact UInt64.toNat_inj.mp (by omega)
    · exact ih htail (by omega) u hu

end LamportTargets

section Settled

variable {validator session : AccountMeta} {pairs : List (Pubkey × Pubkey)}
  {trailing : List AccountMeta} {S : Finset Pubkey}

/-- Storing the session moves no lamports. -/
theorem storeSession_lamports (h : storeSession L a s = .ok L') (b : Pubkey) :
    (L' b).lamports = (L b).lamports := by
  obtain ⟨d, -, rfl⟩ := storeSession_ok h
  simp

theorem nodup_targets (h : (pairs.map Prod.fst).Nodup) :
    ((args.targets pairs).map Prod.fst).Nodup :=
  h.sublist (map_fst_zip_sublist _ _)

theorem mem_pairs_of_mem_targets (h : t ∈ args.targets pairs) :
    ∃ p ∈ pairs, p.1 = t.1 := by
  have hmem := (map_fst_zip_sublist (pairs.map Prod.fst) args.lamports.toList).subset
    (List.mem_map_of_mem h)
  exact List.mem_map.mp hmem

/-- **Conservation**: a settlement of lamports leaves what the accounts it names hold
together. -/
theorem total_of_settleAccountLamports (hpairs : ∀ p ∈ pairs, p.1 ∈ S)
    (htrailing : ∀ m ∈ trailing, m.address ∈ S)
    (h : settleAccountLamports env validator session pairs trailing args previous L = .ok L') :
    L'.total S = L.total S := by
  rw [settleAccountLamports_eq_ok] at h
  obtain ⟨s, -, -, hnodup, ⟨-, rfl⟩ | ⟨vault, hvault, h⟩⟩ := h
  · rfl
  rw [installLamports_eq_ok] at h
  obtain ⟨-, ⟨-, rfl⟩ | ⟨-, henough, credit, hcredit, hstore⟩⟩ := h
  · rfl
  obtain ⟨d, -, rfl⟩ := storeSession_ok hstore
  rw [Ledger.total_setData]
  refine LamportTargets.total_install_credit (nodup_targets hnodup) ?_ ?_ henough hcredit
  · intro t ht
    obtain ⟨p, hp, heq⟩ := mem_pairs_of_mem_targets ht
    exact heq ▸ hpairs p hp
  · rintro v rfl
    obtain ⟨m, hm, rfl, hfresh⟩ := loadSurplusVault_ok hvault
    exact ⟨htrailing m hm, hfresh⟩

/-- **The settlement was applied**: without a guard every account holds its target or more,
with a guard the accumulator is the one after the targets. -/
def Applied (env : Env) (targets : LamportTargets) (L : Ledger) : Option Hash32 → Prop
  | none => ∀ t ∈ targets, (L t.1).owner = env.programId ∧ t.2 ≤ (L t.1).lamports
  | some p => ∃ s, sessionOf env L = some s ∧ s.settlementAccumulator = targets.accumulate env p

/-- A settlement that succeeds was applied now or before. -/
theorem applied_of_settleAccountLamports
    (h : settleAccountLamports env validator session pairs trailing args previous L = .ok L') :
    Applied env (args.targets pairs) L' previous ∧
      ((args.targets pairs).Reached L' ∨
        L' = L ∧ previous ≠ none ∧ Applied env (args.targets pairs) L previous) := by
  rw [settleAccountLamports_eq_ok] at h
  obtain ⟨s, hsettling, hrecords, hnodup, ⟨hvault, rfl⟩ | ⟨vault, hvault, h⟩⟩ := h <;>
    rw [loadSurplusVault_eq_ok] at hvault
  · -- the guard tells that the targets were accumulated already
    obtain ⟨-, hvault⟩ | ⟨p, rfl, -, ⟨hdone, -⟩ | ⟨-, -, hvault⟩⟩ := hvault
    · cases hvault
    · have happlied : Applied env (args.targets pairs) L' (some p) := ⟨s, hsettling.loaded, hdone⟩
      exact ⟨happlied, .inr ⟨rfl, by simp, happlied⟩⟩
    · cases hvault
  have howner : ∀ t ∈ args.targets pairs, (L t.1).owner = env.programId := by
    intro t ht
    obtain ⟨p, hp, heq⟩ := mem_pairs_of_mem_targets ht
    obtain ⟨r, hr⟩ := hrecords p hp
    exact heq ▸ (loadDelegationRecord_eq_ok.mp hr).1
  rw [installLamports_eq_ok] at h
  obtain ⟨-, ⟨⟨hreached, rfl⟩, rfl⟩ | ⟨hmoved, henough, credit, hcredit, hstore⟩⟩ := h
  · -- there is nothing to move, which only happens without a guard
    obtain ⟨rfl, -⟩ | ⟨p, -, -, ⟨-, hvault⟩ | ⟨-, -, hvault⟩⟩ := hvault
    · refine ⟨fun t ht => ⟨howner t ht, ?_⟩, .inl hreached⟩
      rw [hreached t ht]
      exact UInt64.le_refl _
    · cases hvault
    · cases hvault
  have hfresh : ∀ t ∈ args.targets pairs, ∀ u ∈ credit, u.1 ≠ t.1 := by
    intro t ht u hu heq
    rcases creditSurplus_ok hcredit with ⟨-, -, rfl⟩ | ⟨v, balance, rfl, -, rfl⟩
    · exact absurd hu List.not_mem_nil
    · obtain rfl := List.mem_singleton.mp hu
      obtain ⟨-, hvault⟩ | ⟨p, -, hv, ⟨-, hvault⟩ | ⟨-, -, hvault⟩⟩ := hvault
      · cases hvault
      · cases hvault
      · cases hvault
        exact hv.fresh (List.mem_map.mpr ⟨t, ht, heq.symm⟩)
  have hreached : (args.targets pairs).Reached L' := by
    refine LamportTargets.Reached.congr (storeSession_lamports hstore) fun t ht => ?_
    rw [LamportTargets.install_append, LamportTargets.install_lamports_of_not_mem]
    · exact LamportTargets.reached_install (nodup_targets hnodup) L t ht
    · intro hmem
      obtain ⟨u, hu, heq⟩ := List.mem_map.mp hmem
      exact hfresh t ht u hu heq
  have hsession := storeSession_eq_ok hstore (by
    rw [LamportTargets.install_owner]
    exact (sessionOf_eq_some.mp hsettling.loaded).1)
  refine ⟨?_, .inl hreached⟩
  obtain ⟨rfl, -⟩ | ⟨p, rfl, -, ⟨-, hvault⟩ | ⟨-, hprevious, -⟩⟩ := hvault
  · intro t ht
    refine ⟨?_, ?_⟩
    · rw [(hsession.2.2.1 t.1).2, LamportTargets.install_owner]
      exact howner t ht
    · rw [hreached t ht]
      exact UInt64.le_refl _
  · cases hvault
  · exact ⟨_, hsession.1, by rw [← hprevious]⟩

/-- Donations leave a settlement applied. -/
theorem Applied.of_other (h : Applied env targets L previous)
    (hother : LeavesPortalAlone env L L') :
    Applied env targets L' previous := by
  cases previous with
  | none =>
    intro t ht
    obtain ⟨howner, hle⟩ := h t ht
    obtain ⟨-, howner', hle'⟩ := hother t.1 (.inl howner)
    exact ⟨howner'.trans howner, UInt64.le_trans hle hle'⟩
  | some p =>
    obtain ⟨s, hs, hdone⟩ := h
    obtain ⟨hdata, howner, -⟩ := hother _ (.inr (env.derived_address .session))
    refine ⟨s, ?_, hdone⟩
    rw [sessionOf_eq_some] at hs ⊢
    rwa [hdata, howner]

/-- **A retry changes nothing.** -/
theorem eq_of_applied (happlied : Applied env (args.targets pairs) L previous)
    (h : settleAccountLamports env validator session pairs trailing args previous L = .ok L') :
    L' = L := by
  rw [settleAccountLamports_eq_ok] at h
  obtain ⟨s, hsettling, -, -, ⟨-, rfl⟩ | ⟨vault, hvault, h⟩⟩ := h
  · rfl
  rw [loadSurplusVault_eq_ok] at hvault
  obtain ⟨rfl, hvault⟩ | ⟨p, rfl, -, ⟨-, hvault⟩ | ⟨hdone, -, -⟩⟩ := hvault
  · -- without a guard there is no surplus to place, so nothing was donated
    obtain rfl : vault = none := Option.some.inj hvault
    rw [installLamports_eq_ok] at h
    obtain ⟨-, ⟨-, rfl⟩ | ⟨hmoved, -, credit, hcredit, -⟩⟩ := h
    · rfl
    rcases creditSurplus_ok hcredit with ⟨-, hzero, -⟩ | ⟨v, -, hv, -⟩
    · refine absurd ⟨LamportTargets.reached_of_total (fun t ht => (happlied t ht).2) ?_, rfl⟩ hmoved
      omega
    · cases hv
  · cases hvault
  · obtain ⟨s', hs', hdone'⟩ := happlied
    rw [hsettling.loaded] at hs'
    cases hs'
    exact absurd hdone' hdone

end Settled

/-! ## Retries -/

/-- What may happen before a retry: the same settlement again, or transactions of other
programs, among them donations to the accounts. -/
def IsRetry (accounts : List AccountMeta) (args : SettleAccountLamports)
    (previous : Option Hash32) : Event → Prop
  | .call c => c.accounts = accounts ∧ c.instruction = .settleAccountLamports args previous
  | .other _ => True

/-- The same settlement on a ledger it was applied to. -/
theorem exec_retry (happlied : Applied env (args.targets (args.pairs accounts)) L previous) :
    exec env L (.call ⟨slot, accounts, .settleAccountLamports args previous⟩) = L := by
  cases hresult : Call.result env ⟨slot, accounts, .settleAccountLamports args previous⟩ L with
  | error e => exact exec_call_of_error hresult
  | ok L' =>
    rw [exec_call_of_ok hresult]
    obtain ⟨-, -, -, validator, session, rest, -, h⟩ :=
      processSettleAccountLamportsInner_eq_ok.mp hresult
    exact eq_of_applied happlied h

theorem applied_of_retries (hretry : ∀ event ∈ events, IsRetry accounts args previous event)
    (hadmissible : Runs.Along (exec env) (Admissible env) L events)
    (happlied : Applied env (args.targets (args.pairs accounts)) L previous) :
    Applied env (args.targets (args.pairs accounts)) (ledgerAfter env L events) previous := by
  refine Runs.run_induction
    (P := fun L => Applied env (args.targets (args.pairs accounts)) L previous) ?_
    (hadmissible.and (Runs.along_of_forall hretry)) happlied
  rintro L event ⟨ha, hr⟩ happlied
  cases event with
  | call c =>
    obtain ⟨slot, accounts', instruction⟩ := c
    obtain ⟨rfl, rfl⟩ := hr
    rwa [exec_retry happlied]
  | other after => exact happlied.of_other ha

/-- **Lamports are conserved and retries are safe.** A settlement of lamports fails and
changes nothing, or it leaves what its accounts hold together and sets every delegated
account to its target, unless its guard tells that it was applied before. The same
settlement again changes nothing, whatever was donated since. -/
theorem settled_lamports_conserved (env : Env) (slot : UInt64) (accounts : List AccountMeta)
    (args : SettleAccountLamports) (previous : Option Hash32) (L : Ledger) :
    let c : Call := ⟨slot, accounts, .settleAccountLamports args previous⟩
    (∀ e, c.result env L = .error e → exec env L (.call c) = L) ∧
    ∀ L', c.result env L = .ok L' →
      L'.total c.addresses = L.total c.addresses ∧
      ((∀ i : Fin 7, i.val < args.accountCount.toNat →
          ∃ m, accounts[2 + 2 * i.val]? = some m ∧ (L' m.address).lamports = args.lamports[i]) ∨
        L' = L ∧ ∃ p s, previous = some p ∧ sessionOf env L = some s ∧
          s.settlementAccumulator = (args.targets (args.pairs accounts)).accumulate env p) ∧
      ∀ events, (∀ event ∈ events, IsRetry accounts args previous event) →
        Runs.Along (exec env) (Admissible env) L' events →
        exec env (ledgerAfter env L' events) (.call c) = ledgerAfter env L' events := by
  intro c
  refine ⟨fun e he => exec_call_of_error he, fun L' hresult => ?_⟩
  obtain ⟨-, hmax, hlength, validator, session, rest, haccounts, h⟩ :=
    processSettleAccountLamportsInner_eq_ok.mp hresult
  have hlength : 2 + args.accountCount.toNat * 2 ≤ accounts.length := hlength
  have hmem : ∀ m ∈ accounts, m.address ∈ c.addresses :=
    fun m hm => List.mem_toFinset.mpr (List.mem_map_of_mem hm)
  obtain ⟨happlied, houtcome⟩ := applied_of_settleAccountLamports h
  refine ⟨?_, ?_, fun events hretry hadmissible =>
    exec_retry (applied_of_retries hretry hadmissible happlied)⟩
  · refine total_of_settleAccountLamports ?_ ?_ h
    · intro p hp
      obtain ⟨m, hm, heq⟩ := mem_of_mem_delegatedPairs hp
      exact heq ▸ hmem m (List.mem_of_mem_drop (List.mem_of_mem_take hm))
    · exact fun m hm => hmem m (List.mem_of_mem_drop (List.mem_of_mem_drop hm))
  · rcases houtcome with hreached | ⟨rfl, hguard, happlied⟩
    · left
      intro i hi
      have hplace : 2 + 2 * i.val < accounts.length := by omega
      refine ⟨accounts[2 + 2 * i.val], List.getElem?_eq_getElem hplace, ?_⟩
      refine hreached (accounts[2 + 2 * i.val].address, args.lamports[i]) ?_
      refine mem_zip_delegatedPairs (i := i.val) ?_ ?_ ?_
      · rw [List.getElem?_take_of_lt (by omega), List.getElem?_drop]
        exact List.getElem?_eq_getElem hplace
      · rw [List.length_take, List.length_drop]
        omega
      · simp
    · right
      cases previous with
      | none => exact absurd rfl hguard
      | some p =>
        obtain ⟨s, hs, hdone⟩ := happlied
        exact ⟨rfl, p, s, rfl, hs, hdone⟩

end Lamports

/-! ## A settlement on the local deployment -/

/-- A session whose validator settles slot 7. -/
def localSettlingSession : Session :=
  { gridId := 1
    ttlSlots := 1000000
    feeCap := 0
    createdAt := 10
    nonce := 0
    authority := tagged 20 []
    validator := tagged 21 []
    settlementIntervalSlots := 10
    lastSettledL1Slot := 10
    lastSettledErSlot := 0
    settlementStatus := .inProgress
    settlementErSlot := 7
    settlementChecksum := zero32
    settlementAccumulator := initialSettlementChecksum localnet 7
    settlementStartedL1Slot := 130
    bump := 255 }

/-- The delegated accounts of the session. -/
def localDelegated (n : UInt8) : Pubkey := tagged 30 [n]

/-- Accounts 1 and 2 are delegated, with 5000 and 3000 lamports and no data. -/
def localSettling : Ledger := fun a =>
  if a = localnet.address .session then
    ⟨1000, localnet.programId, false, .session localSettlingSession⟩
  else if a = localnet.address .feeVault then
    ⟨1000, localnet.programId, false, .feeVault ⟨tagged 20 [], 255⟩⟩
  else if a = localDelegated 1 then ⟨5000, localnet.programId, false, .empty⟩
  else if a = localDelegated 2 then ⟨3000, localnet.programId, false, .empty⟩
  else if a = (findDelegationRecordPda localnet (localDelegated 1)).1 ∨
      a = (findDelegationRecordPda localnet (localDelegated 2)).1 then
    ⟨1000, localnet.programId, false, .delegationRecord ⟨tagged 40 [], 1, 255⟩⟩
  else localLedger a

/-- Account 1 gives 1000 lamports away, of which account 2 gets 400. -/
def localLamports : SettleAccountLamports :=
  { erSlot := 7
    checksum := zero32
    accountCount := 2
    lamports := ⟨#[4000, 3400, 0, 0, 0, 0, 0], rfl⟩ }

/-- The guarded settlement, with the fee vault last. -/
def localLamportsAccounts : List AccountMeta :=
  [localWallet 21, localPlace .session, localNamed (localDelegated 1),
    localNamed (findDelegationRecordPda localnet (localDelegated 1)).1,
    localNamed (localDelegated 2),
    localNamed (findDelegationRecordPda localnet (localDelegated 2)).1, localPlace .feeVault]

/-- A donation is not the business of Portal. -/
theorem leavesPortalAlone_setLamports (h : (L a).lamports ≤ n) :
    LeavesPortalAlone env L (L.setLamports a n) := by
  intro b _
  refine ⟨Ledger.setLamports_data L a b n, Ledger.setLamports_owner L a b n, ?_⟩
  rw [Ledger.setLamports_lamports]
  split
  · rename_i heq
    rwa [heq]
  · exact UInt64.le_refl _

/-- The surplus of 600 lamports goes to the fee vault; after a donation to account 1 the
settlement is submitted again, twice. -/
theorem settled_lamports_conserved_donation :
    let c : Call := ⟨140, localLamportsAccounts,
      .settleAccountLamports localLamports (some (initialSettlementChecksum localnet 7))⟩
    ∃ L', c.result localnet localSettling = .ok L' ∧
      L'.total c.addresses = localSettling.total c.addresses ∧
      exec localnet (ledgerAfter localnet L'
        [.other (L'.setLamports (localDelegated 1) 9000), .call c]) (.call c) =
      ledgerAfter localnet L' [.other (L'.setLamports (localDelegated 1) 9000), .call c] := by
  intro c
  have hok : (c.result localnet localSettling).toOption.any
      (fun L' => (L' (localDelegated 1)).lamports == 4000) = true := by decide +kernel
  obtain ⟨L', hL', hfirst⟩ := (Option.any_eq_true _ _).mp hok
  rw [toOption_eq_some] at hL'
  obtain ⟨htotal, -, hretry⟩ :=
    (settled_lamports_conserved localnet 140 localLamportsAccounts localLamports _ _).2 L' hL'
  refine ⟨L', hL', htotal, hretry _ ?_ ⟨?_, ?_, trivial⟩⟩
  · intro event hevent
    rcases List.mem_cons.mp hevent with rfl | hevent
    · trivial
    · obtain rfl := List.mem_singleton.mp hevent
      exact ⟨rfl, rfl⟩
  · refine leavesPortalAlone_setLamports ?_
    rw [beq_iff_eq.mp hfirst]
    decide
  · intro m hm hsigner
    have hwallets : c.ByWallets := by decide
    exact localnet_not_derived (hwallets m hm hsigner)

end Northstar.Portal
