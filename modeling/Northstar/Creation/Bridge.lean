import Northstar.Bridge.Delegation
import Northstar.Creation.Richer

/-!
# Accounts of the bridge that were paid to before they exist

The comparison of two runs, on a ledger and on a richer one, for the instructions of the token
bridge. Most of them create their accounts whatever an address holds. Some ask whether an
address holds lamports to tell whether its account exists; for those the address has to be
another one than the one that was paid to.

## Main definitions

* `Deployment.TokensOnly`: what is assumed of the token program
* `Paying`: the payer of a call of the bridge

## Main results

* `simulates_deposit`, `simulates_delegateErTokenAccount` and their siblings: the creating
  instructions of the bridge
-/

namespace Northstar.Bridge

open Northstar.Portal Bytes Checked Ledger DelegateAccounts

/-- **What is assumed of the token program**: a transfer reads and moves no lamports but those
of its two accounts, and loses none. -/
structure Deployment.TokensOnly (d : Deployment) : Prop where
  ne_system : d.portal.tokenProgramId ≠ systemProgramId
  total : ∀ {L L' : Ledger} {t : TokenTransfer} {S : Finset Pubkey},
    d.transferChecked L t = .ok L' → t.source ∈ S → t.destination ∈ S → L'.total S = L.total S
  blind : ∀ {L M L' : Ledger} {t : TokenTransfer}, M.withoutLamports = L.withoutLamports →
    (M t.source).lamports = (L t.source).lamports →
    (M t.destination).lamports = (L t.destination).lamports →
    d.transferChecked L t = .ok L' →
    ∃ M', d.transferChecked M t = .ok M' ∧ M'.withoutLamports = L'.withoutLamports ∧
      (M' t.source).lamports = (L' t.source).lamports ∧
      (M' t.destination).lamports = (L' t.destination).lamports

/-- The payer of a call of the bridge: an account it names, and not a derived one of either
program. -/
structure Paying (d : Deployment) (S : Finset Pubkey) (p : Pubkey) (payer : AccountMeta) :
    Prop where
  portal : PaidBy d.portal S p payer
  own : PaidBy d.own S p payer

variable {d : Deployment} {S : Finset Pubkey} {p a : Pubkey} {L M : Ledger} {payer : AccountMeta}

theorem simulates_called {R : Ledger → Ledger → Prop} (h : Simulates R x y) :
    Simulates R (called x) (called y) := by
  intro L' hL'
  obtain ⟨M', hM', hR⟩ := h L' (called_eq_ok.mp hL')
  exact ⟨M', called_eq_ok.mpr hM', hR⟩

theorem simulates_store (h : Richer S p a L M) (b : Pubkey) (bytes : List UInt8) :
    Simulates (Richer S p a) (store L b bytes) (store M b bytes) := by
  unfold store
  apply simulates_ite
  · rw [h.data]
  · intro _
    exact simulates_ok (h.setData _ _)
  · intro _
    exact simulates_error _ _

/-- An address that the bridge derives is not the payer's. -/
theorem Paying.ne (h : Paying d S p payer)
    (hb : (d.portal.findProgramAddress seeds d.programId).1 = b) : b ≠ p :=
  h.own.ne (show b = (d.own.findProgramAddress seeds d.own.programId).1 from hb.symm)

/-- Creating an account of the bridge. -/
theorem simulates_createPda (h : Richer S p a L M) (hpays : Paying d S p payer) (hpda : pda ∈ S)
    (hne : pda ≠ p) :
    Simulates (Richer S p a) (createPda d L payer pda space) (createPda d M payer pda space) := by
  intro L' hL'
  obtain ⟨M', hM', hR⟩ := h.initializePdaAccount hpays.own.address hpays.own.mem hpda hne L'
    (createPda_eq_ok.mp hL')
  exact ⟨M', createPda_eq_ok.mpr hM', hR⟩

theorem simulates_transferChecked (hd : d.Lawful) (ht : d.TokensOnly) (h : Richer S p a L M)
    (ha : (L a).owner ≠ d.portal.tokenProgramId) (hsource : t.source ∈ S)
    (hdestination : t.destination ∈ S) :
    Simulates (Richer S p a) (d.transferChecked L t) (d.transferChecked M t) := by
  intro L' hL'
  have hmoved := hd.moved L t L' hL'
  -- the two accounts of the transfer are the token program's, so their balances are the same
  have heq {b : Pubkey} (hb : (L b).owner = d.portal.tokenProgramId) :
      (M b).lamports = (L b).lamports := by
    apply h.lamports_eq
    · rintro rfl
      exact ha hb
    · intro _
      rw [hb]
      exact ht.ne_system
  obtain ⟨M', hM', hsame, hs, ht'⟩ := ht.blind h.same (heq hmoved.source.1)
    (heq hmoved.destination.1) hL'
  have hmoved' := hd.moved M t M' hM'
  have hat {b : Pubkey} (hb : b = t.source ∨ b = t.destination) :
      (M' b).lamports = (L' b).lamports := by
    rcases hb with rfl | rfl
    · exact hs
    · exact ht'
  have hother {b : Pubkey} (hb : ¬(b = t.source ∨ b = t.destination)) :
      (L' b).lamports = (L b).lamports ∧ (M' b).lamports = (M b).lamports := by
    rw [not_or] at hb
    rw [hmoved.others b hb.1 hb.2, hmoved'.others b hb.1 hb.2]
    exact ⟨rfl, rfl⟩
  refine ⟨M', hM', hsame, fun b => ?_, fun b hba hbp => ?_, ?_⟩
  · by_cases hb : b = t.source ∨ b = t.destination
    · rw [hat hb]
      exact UInt64.le_refl _
    · rw [(hother hb).1, (hother hb).2]
      exact h.lamports_le b
  · by_cases hb : b = t.source ∨ b = t.destination
    · exact hat hb
    · rw [hmoved.owner] at hbp
      rw [(hother hb).1, (hother hb).2]
      exact h.lamports_eq b hba hbp
  · rw [ht.total hM' hsource hdestination]
    exact h.supply

/-! ## Opening accounts and depositing -/

variable {portalProgram systemProgram : AccountMeta}

section Deposits

variable {accounts : DepositAccounts} {ingress : IngressAccounts}

/-- The vault is opened unless its own address was paid to. -/
theorem simulates_initializeVault (h : Richer S p a L M) (hpays : Paying d S p payer)
    {vault sessionBridge vaultTokenAccount : AccountMeta} (hvault : vault.address ∈ S)
    (hne : vault.address ≠ a) :
    Carries S p a (initializeVault d payer vault sessionBridge portalProgram vaultTokenAccount
      systemProgram) L M := by
  unfold Carries initializeVault
  iterate 4
    apply h.step
    · exact fun _ => rfl
    intro _ _
  apply h.step
  · exact fun _ => rfl
  intro _ hkey
  have hp : vault.address ≠ p := hpays.ne (eq_of_reject hkey)
  iterate 2
    apply h.step
    · exact fun _ => rfl
    intro _ _
  rw [h.lamports_eq _ hne fun heq => absurd heq hp]
  apply simulates_same
  intro _ _
  apply (simulates_createPda h hpays hvault hp).bind
  intro L₁ M₁ h₁
  exact simulates_store h₁ _ _

/-- The rollup account is opened unless its own address was paid to. -/
theorem simulates_initializeErTokenAccount (h : Richer S p a L M) (hpays : Paying d S p payer)
    {erTokenAccount sessionBridge : AccountMeta} {owner : Pubkey} (her : erTokenAccount.address ∈ S)
    (hne : erTokenAccount.address ≠ a) :
    Carries S p a (initializeErTokenAccount d payer erTokenAccount sessionBridge portalProgram
      systemProgram owner) L M := by
  unfold Carries initializeErTokenAccount
  iterate 3
    apply h.step
    · exact fun _ => rfl
    intro _ _
  apply h.step
  · exact fun _ => rfl
  intro _ hkey
  have hp : erTokenAccount.address ≠ p := hpays.ne (eq_of_reject hkey)
  rw [h.lamports_eq _ hne fun heq => absurd heq hp]
  apply simulates_same
  intro _ _
  apply (simulates_createPda h hpays her hp).bind
  intro L₁ M₁ h₁
  exact simulates_store h₁ _ _

theorem simulates_creditReceipt (h : Richer S p a L M) (hpays : Paying d S p payer)
    {receipt sessionBridge er : Pubkey} (hreceipt : receipt ∈ S) (hp : receipt ≠ p)
    (hne : receipt ≠ a) :
    Simulates (Richer S p a) (creditReceipt d L payer receipt sessionBridge er bump amount)
      (creditReceipt d M payer receipt sessionBridge er bump amount) := by
  unfold creditReceipt
  have hprepare : Simulates (Richer S p a) (prepareReceipt d L payer receipt)
      (prepareReceipt d M payer receipt) := by
    unfold prepareReceipt
    apply simulates_ite
    · rw [h.lamports_eq _ hne fun heq => absurd heq hp]
    · intro _
      exact simulates_createPda h hpays hreceipt hp
    · intro _
      apply simulates_ite
      · rw [h.owner]
      · intro _
        exact simulates_ok h
      · intro _
        exact simulates_error _ _
  apply hprepare.bind
  intro L₁ M₁ h₁
  iterate 3
    apply h₁.step
    · exact fun _ => rfl
    intro _ _
  exact simulates_store h₁ _ _

theorem simulates_appendDeposit (h : Richer S p a L M) (hpays : Paying d S p accounts.payer)
    (hingress : ingress.ingress.address ∈ S) :
    Simulates (Richer S p a) (appendDeposit d now L accounts ingress bump amount)
      (appendDeposit d now M accounts ingress bump amount) := by
  unfold appendDeposit
  apply simulates_ite Iff.rfl
  · intro _
    apply simulates_same
    intro _ _
    exact simulates_called (h.recordTokenDepositV2 hpays.portal hingress)
  · intro _
    exact simulates_ok h

/-- **A deposit** goes through unless the address of its receipt was paid to. -/
theorem simulates_deposit (hd : d.Lawful) (ht : d.TokensOnly) (h : Richer S p a L M)
    (ha : (L a).owner ≠ d.portal.tokenProgramId) (hpays : Paying d S p accounts.payer)
    (hsource : accounts.sourceTokenAccount.address ∈ S)
    (hvault : accounts.vaultTokenAccount.address ∈ S)
    (hreceipt : accounts.depositReceipt.address ∈ S) (hingress : ingress.ingress.address ∈ S)
    (hne : accounts.depositReceipt.address ≠ a) :
    Carries S p a (deposit d now accounts ingress amount decimals) L M := by
  unfold Carries deposit
  iterate 10
    apply h.step
    · exact fun _ => rfl
    intro _ _
  apply h.step
  · exact fun _ => rfl
  intro _ hkey
  have hp : accounts.depositReceipt.address ≠ p := hpays.ne (eq_of_reject hkey)
  apply h.step
  · exact fun _ => rfl
  intro _ _
  apply (simulates_transferChecked hd ht h ha hsource hvault).bind
  intro L₁ M₁ h₁
  apply (simulates_creditReceipt h₁ hpays hreceipt hp hne).bind
  intro L₂ M₂ h₂
  apply simulates_same
  intro deposited _
  apply (simulates_store h₂ _ _).bind
  intro L₃ M₃ h₃
  apply simulates_ite
  · rw [h.owner]
  · intro _
    exact simulates_appendDeposit h₃ hpays hingress
  · intro _
    apply simulates_same
    intro balance _
    exact simulates_store h₃ _ _

end Deposits

/-! ## Delegating -/

/-- **What two runs have in common in the end**: the same data and the same owners, and the
same balances but for the address that was paid to and the payer, who are not poorer. -/
structure SameBut (p a : Pubkey) (L M : Ledger) : Prop where
  same : M.withoutLamports = L.withoutLamports
  lamports_le : ∀ b, (L b).lamports ≤ (M b).lamports
  lamports_eq : ∀ b, b ≠ a → b ≠ p → (M b).lamports = (L b).lamports

/-- The accounts that a delegation names. -/
def DelegateAccounts.metas (accounts : DelegateAccounts) : List AccountMeta :=
  [accounts.payer, accounts.owner, accounts.erTokenAccount, accounts.bridgeProgram,
    accounts.sessionBridge, accounts.portalProgram, accounts.session, accounts.delegationRecord,
    accounts.buffer, accounts.systemProgram, accounts.receipt, accounts.origin, accounts.ingress]

variable {L' : Ledger}

section Delegation

variable {buffer recipient pda bridge account receipt : Pubkey} {origin : Pubkey}
  {accounts : DelegateAccounts}

theorem sameBut_of_richer (h : Richer S p a L M) : SameBut p a L M where
  same := h.same
  lamports_le := h.lamports_le
  lamports_eq b hb hp := h.lamports_eq b hb fun heq => absurd heq hp

theorem closeBuffer_eq_ok :
    closeBuffer L buffer recipient = .ok L' ↔
      ∃ n : UInt64, n.toNat = (L recipient).lamports.toNat + (L buffer).lamports.toNat ∧
        L' = (L.setLamports recipient n).close buffer := by
  simp only [closeBuffer, chain_ok, checkedAdd_eq_some]
  constructor
  · rintro ⟨n, hn, rfl⟩
    exact ⟨n, hn, rfl⟩
  · rintro ⟨n, hn, rfl⟩
    exact ⟨n, hn, rfl⟩

/-- The balances after an account was closed. -/
theorem close_lamports (b : Pubkey) : ((L.setLamports recipient n).close buffer b).lamports =
      if b = buffer then 0 else if b = recipient then n else (L b).lamports := by
  by_cases hb : b = buffer
  · rw [hb, close_lamports_self, if_pos rfl]
  · rw [close_of_ne _ hb, setLamports_lamports, if_neg hb]

theorem close_same (h : M.withoutLamports = L.withoutLamports) :
    ((M.setLamports recipient m).close buffer).withoutLamports =
      ((L.setLamports recipient n).close buffer).withoutLamports := by
  have hfields (b : Pubkey) := congrFun h b
  funext b
  have hb := hfields b
  simp only [withoutLamports, Account.mk.injEq, true_and] at hb
  by_cases hbuffer : b = buffer
  · subst hbuffer
    simp [withoutLamports, close, setLamports_executable, hb.2.1]
  · simp [withoutLamports, close_of_ne _ hbuffer, hb.1, hb.2.1, hb.2.2]

section Buffers

variable (h : Richer S p a L M) (hp : p ∈ S) (hbuffer : buffer ∈ S) (hne : buffer ≠ p)

include h hp hbuffer hne

/-- Closing an account in favour of the payer. -/
theorem exists_closeBuffer :
    ∃ m : UInt64, m.toNat = (M p).lamports.toNat + (M buffer).lamports.toNat ∧
      closeBuffer M buffer p = .ok ((M.setLamports p m).close buffer) := by
  have hroom := h.room hp hbuffer hne.symm
  refine ⟨UInt64.ofNat ((M p).lamports.toNat + (M buffer).lamports.toNat), ?_, ?_⟩
  · rw [UInt64.toNat_ofNat', Nat.mod_eq_of_lt hroom]
  · rw [closeBuffer_eq_ok]
    exact ⟨_, by rw [UInt64.toNat_ofNat', Nat.mod_eq_of_lt hroom], rfl⟩

/-- What was paid to an account goes to the payer when the account is closed. -/
theorem sameBut_closeBuffer :
    Simulates (SameBut p a) (closeBuffer L buffer p) (closeBuffer M buffer p) := by
  intro L' hL'
  obtain ⟨n, hn, rfl⟩ := closeBuffer_eq_ok.mp hL'
  obtain ⟨m, hm, hM'⟩ := exists_closeBuffer h hp hbuffer hne
  refine ⟨_, hM', close_same h.same, fun b => ?_, fun b hba hbp => ?_⟩
  · have hb := UInt64.le_iff_toNat_le.mp (h.lamports_le b)
    have hlep := UInt64.le_iff_toNat_le.mp (h.lamports_le p)
    have hleb := UInt64.le_iff_toNat_le.mp (h.lamports_le buffer)
    rw [close_lamports, close_lamports, UInt64.le_iff_toNat_le]
    split_ifs <;> omega
  · rw [close_lamports, close_lamports, if_neg hbp, if_neg hbp,
      h.lamports_eq b hba fun heq => absurd heq hbp]

/-- Closing an account other than the one that was paid to. -/
theorem simulates_closeBuffer (hba : buffer ≠ a) :
    Simulates (Richer S p a) (closeBuffer L buffer p) (closeBuffer M buffer p) := by
  intro L' hL'
  obtain ⟨M', hM', hsame⟩ := sameBut_closeBuffer h hp hbuffer hne L' hL'
  obtain ⟨n, hn, rfl⟩ := closeBuffer_eq_ok.mp hL'
  obtain ⟨m, hm, rfl⟩ := closeBuffer_eq_ok.mp hM'
  have heqbuffer := h.lamports_eq buffer hba fun heq => absurd heq hne
  refine ⟨_, hM', hsame.same, hsame.lamports_le, fun b hb hbp => ?_, ?_⟩
  · by_cases hpayer : b = p
    · -- a payer that cannot pay has the same balance in both runs
      subst hpayer
      have howner : (L b).owner ≠ systemProgramId := by
        have hbp := hbp rfl
        rwa [close_of_ne _ hne.symm, setLamports_owner] at hbp
      have heq := h.lamports_eq b hb fun _ => howner
      rw [close_lamports, close_lamports, if_neg hne.symm, if_neg hne.symm, if_pos rfl,
        if_pos rfl, ← UInt64.toNat_inj, hn, hm, heq, heqbuffer]
    · exact hsame.lamports_eq b hb hpayer
  · have hpaid := M.total_setLamports S m hp
    have hclosed := (M.setLamports p m).total_close S hbuffer
    rw [setLamports_lamports, if_neg hne] at hclosed
    have hsupply := h.supply
    omega

end Buffers

theorem simulates_copyData (h : Richer S p a L M) (source destination : Pubkey) :
    Simulates (Richer S p a) (copyData L source destination) (copyData M source destination) := by
  unfold copyData
  apply h.step
  · exact fun _ => rfl
  intro _ _
  apply simulates_pure
  apply h.setData_same
  rw [h.data]

section Missing

variable (h : Richer S p a L M) (hpays : Paying d S p payer)

include h hpays

theorem simulates_createMissing (hpda : pda ∈ S) (hne : pda ≠ p) :
    Simulates (Richer S p a) (createMissing d L payer pda space)
      (createMissing d M payer pda space) := by
  unfold createMissing
  apply simulates_ite
  · rw [h.owner]
  · intro _
    exact simulates_createPda h hpays hpda hne
  · intro _
    exact simulates_ok h

/-- The buffer, which is not the payer's. -/
theorem simulates_createBuffer (hbuffer : buffer ∈ S) :
    Simulates (fun L' M' => Richer S p a L' M' ∧ buffer ≠ p)
      (createBuffer d L payer buffer er) (createBuffer d M payer buffer er) := by
  unfold createBuffer
  apply h.step
  · exact fun _ => rfl
  intro _ hkey
  have hne : buffer ≠ p := hpays.ne (eq_of_reject hkey)
  rw [h.data]
  apply (simulates_createMissing h hpays hbuffer hne).bind
  intro L₁ M₁ h₁
  apply h₁.step
  · exact fun _ => rfl
  intro _ _
  exact simulates_pure ⟨h₁, hne⟩

theorem receiptBalance_eq (hne : receipt ≠ a) :
    receiptBalance d M bridge account receipt = receiptBalance d L bridge account receipt := by
  unfold receiptBalance
  by_cases hkey : receipt = (findTokenDepositReceiptPda d bridge account).1
  · have hp : receipt ≠ p := hpays.ne hkey.symm
    simp only [h.lamports_eq _ hne fun heq => absurd heq hp, h.owner, h.data]
  · simp only [rejectIf, if_pos (show receipt ≠ _ from hkey)]
    rfl

theorem simulates_initializeOrigin (horigin : origin ∈ S) (hne : receipt ≠ a) :
    Simulates (Richer S p a) (initializeOrigin d L payer bridge account receipt origin)
      (initializeOrigin d M payer bridge account receipt origin) := by
  unfold initializeOrigin
  rw [receiptBalance_eq h hpays hne]
  apply simulates_same
  intro balance _
  apply simulates_same
  intro _ hkey
  have hp : origin ≠ p := hpays.ne (eq_of_reject hkey).symm
  have hprepare (state : TokenDepositProgress) : Simulates (Richer S p a)
      (prepareOrigin d L payer origin state) (prepareOrigin d M payer origin state) := by
    unfold prepareOrigin
    apply simulates_ite
    · rw [h.owner]
    · intro _
      exact simulates_createPda h hpays horigin hp
    · intro _
      iterate 2
        apply h.step
        · exact fun _ => rfl
        intro _ _
      exact simulates_pure h
  apply (hprepare _).bind
  intro L₁ M₁ h₁
  exact simulates_store h₁ _ _

end Missing

/-! What the steps before the call of Portal leave at an address. -/

theorem owner_of_createPda (h : createPda d L payer pda space = .ok L') (b : Pubkey) :
    (L' b).owner = (L b).owner ∨ (L' b).owner = d.programId := by
  rw [initializePdaAccount_owner (createPda_eq_ok.mp h)]
  split
  · exact .inr rfl
  · exact .inl rfl

theorem owner_of_createMissing (h : createMissing d L payer pda space = .ok L') (b : Pubkey) :
    (L' b).owner = (L b).owner ∨ (L' b).owner = d.programId := by
  unfold createMissing at h
  split at h
  · exact owner_of_createPda h b
  · cases h
    exact .inl rfl

theorem owner_of_initializeOrigin
    (h : initializeOrigin d L payer bridge account receipt origin = .ok L') (b : Pubkey) :
    (L' b).owner = (L b).owner ∨ (L' b).owner = d.programId := by
  simp only [initializeOrigin, bind_eq_ok] at h
  obtain ⟨balance, -, _, -, L₁, hprepare, hstore⟩ := h
  obtain ⟨-, rfl⟩ := store_eq_ok.mp hstore
  rw [setData_owner]
  unfold prepareOrigin at hprepare
  split at hprepare
  · exact owner_of_createPda hprepare b
  · simp only [chain_ok] at hprepare
    obtain ⟨_, -, _, -, rfl⟩ := hprepare
    exact .inl rfl

theorem owner_of_createBuffer (h : createBuffer d L payer buffer er = .ok L') (b : Pubkey) :
    (L' b).owner = (L b).owner ∨ (L' b).owner = d.programId := by
  simp only [createBuffer, bind_eq_ok, pure_eq_ok] at h
  obtain ⟨_, -, L₁, hcreate, _, -, rfl⟩ := h
  exact owner_of_createMissing hcreate b

/-- Portal delegates the account, unless the account is the one that was paid to. -/
theorem simulates_portalDelegate (hsystem : d.portal.programId ≠ systemProgramId)
    (h : Richer S p a L M) (ha : (L a).owner ≠ d.portal.programId)
    (hpays : Paying d S p accounts.payer) (hS : ∀ m ∈ accounts.metas, m.address ∈ S) :
    Carries S p a (portalDelegate d now accounts gridId) L M := by
  have hmem {m : AccountMeta} (hm : m ∈ accounts.metas) : m.address ∈ S := hS m hm
  unfold Carries portalDelegate
  apply simulates_ite Iff.rfl
  · intro _
    exact h.delegateV2 hpays.portal ha hsystem
      (hmem (m := accounts.delegationRecord) (by simp [metas]))
      (hmem (m := accounts.ingress) (by simp [metas]))
  · intro _
    apply h.processDelegate hpays.portal
    intro m hm
    simp only [List.mem_cons, List.not_mem_nil, or_false] at hm
    rcases hm with rfl | rfl | rfl | rfl | rfl | rfl
    · exact hmem (by simp [metas])
    · exact hmem (by simp [metas])
    · exact hmem (m := accounts.erTokenAccount) (by simp [metas])
    · exact hmem (by simp [metas])
    · exact hmem (by simp [metas])
    · exact hmem (by simp [metas])

/-- A rollup account is at an address that the bridge derives. -/
theorem loadErTokenAccount_ok (h : loadErTokenAccount d L account = .ok er) :
    (L account).owner = d.programId ∧
      (findErTokenAccountPda d er.sessionBridge er.owner).1 = account := by
  simp only [loadErTokenAccount, requireErTokenAccountPda, chain_ok] at h
  obtain ⟨howner, state, -, hpda, rfl⟩ := h
  exact ⟨howner, by rw [hpda]⟩

/-- **Delegation** goes through unless the address of the receipt was paid to. -/
theorem simulates_delegateErTokenAccount (hd : d.Lawful)
    (hsystem : d.portal.programId ≠ systemProgramId) (h : Richer S p a L M)
    (ha : (L a).owner = systemProgramId) (hpays : Paying d S p accounts.payer)
    (hS : ∀ m ∈ accounts.metas, m.address ∈ S) (hne : accounts.receipt.address ≠ a) :
    Simulates (SameBut p a) (delegateErTokenAccount d now accounts gridId L)
      (delegateErTokenAccount d now accounts gridId M) := by
  have horigin : accounts.origin.address ∈ S := hS _ (by simp [metas])
  have hbuffer : accounts.buffer.address ∈ S := hS _ (by simp [metas])
  have herS : accounts.erTokenAccount.address ∈ S := hS _ (by simp [metas])
  have hforeign {K K' : Ledger} (hK : (K a).owner ≠ d.portal.programId)
      (hK' : (K' a).owner = (K a).owner ∨ (K' a).owner = d.programId) :
      (K' a).owner ≠ d.portal.programId := by
    rcases hK' with heq | heq
    · rw [heq]
      exact hK
    · rw [heq]
      exact hd.ne_portal
  unfold delegateErTokenAccount
  iterate 5
    apply h.step
    · exact fun _ => rfl
    intro _ _
  apply h.step
  · exact fun _ => rfl
  intro _ her
  obtain ⟨howner, hkey⟩ := loadErTokenAccount_ok her
  have herp : accounts.erTokenAccount.address ≠ p := hpays.ne hkey
  have hera : accounts.erTokenAccount.address ≠ a := by
    intro heq
    rw [heq, ha] at howner
    exact hd.ne_system howner.symm
  iterate 3
    apply h.step
    · exact fun _ => rfl
    intro _ _
  -- up to the call of Portal, only the bridge's own accounts change their owner
  apply Simulates.bind (R := fun K N => Richer S p a K N ∧ (K a).owner ≠ d.portal.programId)
  · apply (simulates_initializeOrigin h hpays horigin hne).and
    intro L₁ hL₁
    exact hforeign (ha.trans_ne hsystem.symm) (owner_of_initializeOrigin hL₁ a)
  rintro L₁ M₁ ⟨h₁, ha₁⟩
  apply Simulates.bind (R := fun K N => (Richer S p a K N ∧ accounts.buffer.address ≠ p) ∧
    (K a).owner ≠ d.portal.programId)
  · apply (simulates_createBuffer h₁ hpays hbuffer).and
    intro L₂ hL₂
    exact hforeign ha₁ (owner_of_createBuffer hL₂ a)
  rintro L₂ M₂ ⟨⟨h₂, hbufferp⟩, ha₂⟩
  rw [h₂.data, hpays.own.address]
  apply Simulates.bind (R := fun K N => Richer S p a K N ∧ (K a).owner ≠ d.portal.programId)
  · apply (simulates_copyData h₂ _ _).and
    intro L₃ hL₃
    simp only [copyData, chain_ok] at hL₃
    obtain ⟨_, -, rfl⟩ := hL₃
    rwa [setData_owner]
  rintro L₃ M₃ ⟨h₃, ha₃⟩
  apply Simulates.bind (R := fun K N => Richer S p a K N ∧ (K a).owner ≠ d.portal.programId)
  · apply (simulates_closeBuffer h₃ hpays.own.mem herS herp hera).and
    intro L₄ hL₄
    obtain ⟨n, -, rfl⟩ := closeBuffer_eq_ok.mp hL₄
    rwa [close_of_ne _ hera.symm, setLamports_owner]
  rintro L₄ M₄ ⟨h₄, ha₄⟩
  apply Simulates.bind (R := fun K N => Richer S p a K N ∧ (K a).owner ≠ d.portal.programId)
  · apply (simulates_called (h₄.initializePdaAccount hpays.own.address hpays.own.mem herS herp)).and
    intro L₅ hL₅
    rwa [initializePdaAccount_owner (called_eq_ok.mp hL₅), if_neg hera.symm]
  rintro L₅ M₅ ⟨h₅, ha₅⟩
  apply (simulates_called (simulates_portalDelegate hsystem h₅ ha₅ hpays hS)).bind
  intro L₆ M₆ h₆
  exact sameBut_closeBuffer h₆ hpays.own.mem hbuffer hbufferp

end Delegation

/-! ## The way back -/

section Undelegation

variable {session : AccountMeta} {bridgeProgram : AccountMeta}

theorem simulates_requestUndelegation (h : Richer S p a L M) (hpays : Paying d S p payer)
    (hrequest : request.address ∈ S) :
    Carries S p a (requestUndelegation d now payer authority er bridgeProgram portalProgram session
      record request systemProgram) L M := by
  unfold Carries requestUndelegation
  iterate 6
    apply h.step
    · exact fun _ => rfl
    intro _ _
  exact simulates_called (h.requestUndelegation hpays.portal hrequest)

/-- Refunding two accounts and closing them is closing one after the other. -/
theorem refundClosed_eq_ok (hrecord : record ≠ authority) (hrequest : request ≠ authority)
    (hne : request ≠ record) :
    (refundClosed L authority record request >>= fun K =>
        pure ((K.close record).close request)) = .ok L' ↔
      ∃ L₁, closeBuffer L record authority = .ok L₁ ∧
        closeBuffer L₁ request authority = .ok L' := by
  have hledger (n m : UInt64) :
      ((((L.setLamports authority m).setLamports record 0).setLamports request 0).close
        record).close request =
      ((((L.setLamports authority n).close record).setLamports authority m).close request) := by
    funext b
    by_cases hq : b = request
    · subst hq
      simp [close, setLamports, hne, hrequest]
    by_cases hr : b = record
    · subst hr
      simp [close, setLamports, hq, hrecord]
    by_cases ha : b = authority
    · subst ha
      simp [close, setLamports, hq, hr]
    · simp [close, setLamports, hq, hr, ha]
  have hafter (n : UInt64) : ((L.setLamports authority n).close record request).lamports =
      (L request).lamports := by
    rw [close_lamports, if_neg hne, if_neg hrequest]
  have hcredit (n : UInt64) : ((L.setLamports authority n).close record authority).lamports =
      n := by
    rw [close_lamports, if_neg hrecord.symm, if_pos rfl]
  simp only [refundClosed, chain_ok, checkedAdd_eq_some, closeBuffer_eq_ok]
  constructor
  · rintro ⟨K, ⟨sum, hsum, m, hm, rfl⟩, rfl⟩
    have hfit := m.toNat_lt
    refine ⟨_, ⟨UInt64.ofNat ((L authority).lamports.toNat + (L record).lamports.toNat), ?_, rfl⟩,
      m, ?_, hledger _ _⟩
    · rw [UInt64.toNat_ofNat', Nat.mod_eq_of_lt (by omega)]
    · rw [hafter, hcredit, UInt64.toNat_ofNat', Nat.mod_eq_of_lt (by omega)]
      omega
  · rintro ⟨_, ⟨n, hn, rfl⟩, m, hm, rfl⟩
    rw [hafter, hcredit] at hm
    have hfit := m.toNat_lt
    refine ⟨_, ⟨UInt64.ofNat ((L record).lamports.toNat + (L request).lamports.toNat), ?_, m, ?_,
      rfl⟩, hledger n m⟩
    · rw [UInt64.toNat_ofNat', Nat.mod_eq_of_lt (by omega)]
    · rw [UInt64.toNat_ofNat', Nat.mod_eq_of_lt (by omega)]
      omega

/-- An account that holds no record of Portal's. -/
def Plain (L : Ledger) (a : Pubkey) : Prop :=
  (L a).data = .empty ∨ ∃ bytes, (L a).data = .raw bytes

/-- Portal returns an account: the record and the request that it closes are not the address
that was paid to. -/
theorem simulates_undelegate (h : Richer S p a L M) (hpaid : PaidBy env S p authority)
    (ha : Plain L a) (hrecord : record.address ∈ S) (hrequest : request.address ∈ S)
    (hdelegated : delegated.address ≠ p) :
    Carries S p a (undelegate env authority delegated ownerProgram record session request allow) L M
      := by
  unfold Carries undelegate
  iterate 4
    apply h.step
    · exact fun _ => rfl
    intro _ _
  apply h.step
  · exact fun _ => rfl
  intro _ hrecordKey
  apply h.step
  · exact fun _ => rfl
  intro _ hdelegation
  iterate 2
    apply h.step
    · exact fun _ => rfl
    intro _ _
  apply h.step
  · exact fun _ => rfl
  intro _ hrequestKey
  apply h.step
  · exact fun _ => rfl
  intro _ hstate
  iterate 3
    apply h.step
    · exact fun _ => rfl
    intro _ _
  have hrecordData := parseDelegationRecord_eq_some.mp (okOr_eq_ok.mp hdelegation)
  have hrequestData := parseUndelegationRequest_eq_some.mp (okOr_eq_ok.mp hstate)
  simp only [rejectIf_eq_ok, not_or, not_not] at hrequestKey
  have hrecordp : record.address ≠ p := hpaid.ne (eq_of_reject hrecordKey)
  have hrequestp : request.address ≠ p := hpaid.ne hrequestKey.1
  -- what a vacant address or a buffer holds is neither a record nor a request
  have hrecorda : record.address ≠ a := by
    rintro rfl
    rcases ha with ha | ⟨bytes, ha⟩
    · rw [ha] at hrecordData
      cases hrecordData
    · rw [ha] at hrecordData
      cases hrecordData
  have hrequesta : request.address ≠ a := by
    rintro rfl
    rcases ha with ha | ⟨bytes, ha⟩
    · rw [ha] at hrequestData
      cases hrequestData
    · rw [ha] at hrequestData
      cases hrequestData
  have hne : request.address ≠ record.address := by
    intro heq
    rw [heq, hrecordData] at hrequestData
    cases hrequestData
  have hreturned : Richer S p a
      ((L.setData delegated.address (L delegated.address).data.zeroed).setOwner delegated.address
        ownerProgram.address)
      ((M.setData delegated.address (M delegated.address).data.zeroed).setOwner delegated.address
        ownerProgram.address) := by
    apply Richer.setOwner _ _ hdelegated
    apply h.setData_same
    rw [h.data]
  rw [hpaid.address]
  intro L' hL'
  obtain ⟨L₁, hL₁, hL₂⟩ := (refundClosed_eq_ok hrecordp hrequestp hne).mp hL'
  obtain ⟨M₁, hM₁, h₁⟩ := simulates_closeBuffer hreturned hpaid.mem hrecord hrecordp hrecorda L₁ hL₁
  obtain ⟨M₂, hM₂, h₂⟩ := simulates_closeBuffer h₁ hpaid.mem hrequest hrequestp hrequesta L' hL₂
  exact ⟨M₂, (refundClosed_eq_ok hrecordp hrequestp hne).mpr ⟨M₁, hM₁, hM₂⟩, h₂⟩

theorem plain_of_createBuffer {buffer er : Pubkey} (h : createBuffer d L payer buffer er = .ok L')
    (ha : Plain L a) : Plain L' a := by
  simp only [createBuffer, createMissing, bind_eq_ok, pure_eq_ok] at h
  obtain ⟨_, -, L₁, hcreate, _, -, rfl⟩ := h
  split at hcreate
  · by_cases hb : a = buffer
    · obtain ⟨-, -, L₂, -, rfl⟩ := initializePdaAccount_ok (createPda_eq_ok.mp hcreate)
      refine .inr ⟨List.replicate (L er).data.size 0, ?_⟩
      rw [setOwner_data, setData_data, if_pos hb]
    · unfold Plain
      rw [initializePdaAccount_data (createPda_eq_ok.mp hcreate) hb]
      exact ha
  · cases hcreate
    exact ha

theorem plain_of_copyData (h : copyData L source destination = .ok L') (ha : Plain L a) :
    Plain L' a := by
  simp only [copyData, chain_ok] at h
  obtain ⟨_, -, rfl⟩ := h
  unfold Plain
  rw [setData_data]
  split
  · exact .inr ⟨_, rfl⟩
  · exact ha

/-- **Undelegation** goes through whatever was paid to the buffer. -/
theorem simulates_undelegateErTokenAccount (h : Richer S p a L M) {authority : AccountMeta}
    (hpays : Paying d S p authority) (ha : (L a).data = .empty)
    {er record buffer request : AccountMeta} (hrecord : record.address ∈ S)
    (hrequest : request.address ∈ S) (hbuffer : buffer.address ∈ S) :
    Simulates (SameBut p a)
      (undelegateErTokenAccount d authority er bridgeProgram portalProgram session record buffer
        systemProgram request L)
      (undelegateErTokenAccount d authority er bridgeProgram portalProgram session record buffer
        systemProgram request M) := by
  unfold undelegateErTokenAccount
  iterate 4
    apply h.step
    · exact fun _ => rfl
    intro _ _
  apply Simulates.bind (R := fun K N => (Richer S p a K N ∧ buffer.address ≠ p) ∧ Plain K a)
  · apply (simulates_createBuffer h hpays hbuffer).and
    intro L₁ hL₁
    exact plain_of_createBuffer hL₁ (.inl ha)
  rintro L₁ M₁ ⟨⟨h₁, hbufferp⟩, ha₁⟩
  apply Simulates.bind (R := fun K N => Richer S p a K N ∧ Plain K a)
  · apply (simulates_copyData h₁ _ _).and
    intro L₂ hL₂
    exact plain_of_copyData hL₂ ha₁
  rintro L₂ M₂ ⟨h₂, ha₂⟩
  apply h₂.step
  · exact fun _ => rfl
  intro _ hdelegated
  have herp : er.address ≠ p := by
    simp only [requireDelegated, requireErTokenAccountPda, bind_eq_ok, rejectIf_eq_ok,
      not_not] at hdelegated
    obtain ⟨state, -, _, hkey, -⟩ := hdelegated
    apply hpays.ne
    rw [← show _ = er.address from congrArg Prod.fst hkey]
    rfl
  apply Simulates.bind (R := Richer S p a)
  · exact simulates_called (simulates_undelegate h₂ hpays.portal ha₂ hrecord hrequest herp)
  intro L₃ M₃ h₃
  apply h₃.step
  · exact fun _ => rfl
  intro _ _
  apply (simulates_copyData h₃ _ _).bind
  intro L₄ M₄ h₄
  rw [hpays.own.address]
  exact sameBut_closeBuffer h₄ hpays.own.mem hbuffer hbufferp

end Undelegation

/-! ## Crediting in the rollup -/

/-- A receipt that does not exist yet has no balance to credit. -/
theorem receiptBalance_of_vacant (hd : d.Lawful) {bridge account receipt : Pubkey} {n : UInt64}
    (ha : (L receipt).owner = systemProgramId)
    (h : receiptBalance d L bridge account receipt = .ok n) : n = 0 := by
  simp only [receiptBalance, bind_eq_ok] at h
  obtain ⟨_, -, h⟩ := h
  split at h
  · exact (Except.ok.inj h).symm
  · obtain ⟨_, hguard, -⟩ := bind_eq_ok.mp h
    rw [rejectIf_eq_ok, ha, not_not] at hguard
    exact absurd hguard.symm hd.ne_system

/-- **A credit** goes through whatever was paid to the cursor. -/
theorem simulates_applyTokenDeposit (hd : d.Lawful) (h : Richer S p a L M)
    (ha : (L a).owner = systemProgramId) (hpays : Paying d S p accounts.payer)
    (hcursor : accounts.cursor.address ∈ S) :
    Carries S p a (applyTokenDeposit d accounts balance) L M := by
  unfold Carries applyTokenDeposit
  iterate 11
    apply h.step
    · exact fun _ => rfl
    intro _ _
  by_cases hne : accounts.receipt.address = a
  · -- nothing is credited against a receipt that does not exist
    intro L' hL'
    obtain ⟨available, havailable, hrest⟩ := bind_eq_ok.mp hL'
    have hzero : available = 0 := receiptBalance_of_vacant hd (hne ▸ ha) havailable
    simp only [bind_eq_ok] at hrest
    obtain ⟨baseline, -, _, -, progress, -, _, hguard, -⟩ := hrest
    rw [rejectIf_eq_ok, hzero, not_or, UInt64.not_lt, UInt64.not_le] at hguard
    have h0 := UInt64.le_iff_toNat_le.mp hguard.1
    have h1 := UInt64.lt_iff_toNat_lt.mp hguard.2
    simp at h0
    omega
  rw [receiptBalance_eq h hpays hne]
  apply simulates_same
  intro available _
  apply h.step
  · exact fun _ => rfl
  intro _ _
  apply h.step
  · exact fun _ => rfl
  intro _ hkey
  have hp : accounts.cursor.address ≠ p := hpays.ne (eq_of_reject hkey).symm
  iterate 4
    apply h.step
    · exact fun _ => rfl
    intro _ _
  apply (simulates_createMissing h hpays hcursor hp).bind
  intro L₁ M₁ h₁
  apply (simulates_store h₁ _ _).bind
  intro L₂ M₂ h₂
  exact simulates_store h₂ _ _

end Northstar.Bridge
