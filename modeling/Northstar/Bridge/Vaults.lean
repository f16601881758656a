import Northstar.Bridge.Program
import Northstar.Settle.Authorizations

/-!
# Vaults along histories

Which calls of the bridge change a vault, and how. Vault records are told from the other
records of the bridge by their length, and from the accounts of Portal and of the token
program by their owner; so only a deposit, a withdrawal and a release reach one, and the
counter of withdrawn tokens never goes down.

## Main definitions

* `KeepsVaults`: the vault records stay
* `Advances`: no counter of withdrawn tokens goes down
* `Reaches`: what one call does to the vaults

## Main results

* `vaults_of_withdraw`, `settleWithdrawal_eq_ok`: what the two ways out of a vault do
* `foreign_call_keepsVault`: calls that name another program in Portal's place
* `advances_run`: along every history no counter goes down
-/

namespace Northstar.Bridge

open Northstar.Portal Bytes Checked Ledger Reader Runs

/-! ## Telling vaults from other accounts -/

theorem length_of_parseTokenVault (h : parseTokenVault bytes = some v) : bytes.length = 146 := by
  simp only [parseTokenVault, Option.bind_eq_bind, Option.bind_eq_some_iff, Prod.exists] at h
  obtain ⟨_, r₁, h₁, _, r₂, h₂, _, r₃, h₃, _, r₄, h₄, _, r₅, h₅, _, r₆, h₆, _, r₇, h₇, _, r₈, h₈,
    _, hend, -⟩ := h
  have h₁ := length_of_readByte h₁
  have h₂ := length_of_read32 h₂
  have h₃ := length_of_read32 h₃
  have h₄ := length_of_read32 h₄
  have h₅ := length_of_read32 h₅
  have h₆ := length_of_read64 h₆
  have h₇ := length_of_read64 h₇
  have h₈ := length_of_readByte h₈
  rw [eq_nil_of_atEnd hend, List.length_nil] at h₈
  omega

section Keeping

variable {a : Pubkey}

/-- Every vault record stays as it is. -/
def KeepsVaults (d : Deployment) (L L' : Ledger) : Prop :=
  ∀ a v, vaultAt d L a = some v → vaultAt d L' a = some v

theorem KeepsVaults.refl (d : Deployment) (L : Ledger) : KeepsVaults d L L := fun _ _ h => h

theorem KeepsVaults.trans (h : KeepsVaults d L L₁) (h' : KeepsVaults d L₁ L₂) :
    KeepsVaults d L L₂ :=
  fun a v hv => h' a v (h a v hv)

theorem keepsVaults_of_accounts
    (h : ∀ a, (L a).owner = d.programId → (L' a).owner = (L a).owner ∧ (L' a).data = (L a).data) :
    KeepsVaults d L L' := by
  intro a v hv
  obtain ⟨howner, hdata⟩ := h a (vaultAt_eq_some.mp hv).1
  rw [vaultAt_congr howner hdata, hv]

/-- Records of another length are not written over a vault. -/
theorem keepsVaults_store (h : store L a bytes = .ok L') (hlength : bytes.length ≠ 146) :
    KeepsVaults d L L' := by
  obtain ⟨hsize, rfl⟩ := store_eq_ok.mp h
  intro b v hv
  rw [← hv]
  apply vaultAt_congr
  · rw [setData_owner]
  · have hb : b ≠ a := by
      rintro rfl
      have := length_of_parseTokenVault (vaultAt_eq_some.mp hv).2
      rw [AccountData.length_bytes, hsize] at this
      exact hlength this
    rw [setData_data, if_neg hb]

theorem keepsVaults_transfer (hd : d.Lawful) (h : d.transferChecked L t = .ok L') :
    KeepsVaults d L L' := by
  have hmoved := hd.moved L t L' h
  apply keepsVaults_of_accounts
  intro a ha
  have hne : ∀ b, (L b).owner = d.portal.tokenProgramId → a ≠ b := by
    rintro b hb rfl
    exact hd.ne_token (ha.symm.trans hb)
  rw [hmoved.others a (hne _ hmoved.source.1) (hne _ hmoved.destination.1)]
  exact ⟨rfl, rfl⟩

/-- Accounts are created at addresses of the system program. -/
theorem keepsVaults_initializePdaAccount (hd : d.Lawful)
    (h : initializePdaAccount env L payer a lamports space = .ok L') : KeepsVaults d L L' := by
  have hsystem := (initializePdaAccount_ok h).2.1
  apply keepsVaults_of_accounts
  intro b hb
  have hne : b ≠ a := by
    rintro rfl
    exact hd.ne_system (hb.symm.trans hsystem)
  rw [initializePdaAccount_owner h, if_neg hne, initializePdaAccount_data h hne]
  exact ⟨rfl, rfl⟩

theorem keepsVaults_createPda (hd : d.Lawful) (h : createPda d L payer a space = .ok L') :
    KeepsVaults d L L' :=
  keepsVaults_initializePdaAccount hd (createPda_eq_ok.mp h)

/-- Portal writes its own accounts only. -/
theorem keepsVaults_setData (hd : d.Lawful) (ha : (L a).owner = d.portal.programId) :
    KeepsVaults d L (L.setData a data) := by
  apply keepsVaults_of_accounts
  intro b hb
  have hne : b ≠ a := by
    rintro rfl
    exact hd.ne_portal (hb.symm.trans ha)
  rw [setData_owner, setData_data, if_neg hne]
  exact ⟨rfl, rfl⟩

/-- A vault record is replaced, and the other vaults stay. -/
theorem vaultAt_storeVault (h : store L a v'.bytes = .ok L') (hv : vaultAt d L a = some v) :
    vaultAt d L' a = some v' ∧ ∀ b, b ≠ a → vaultAt d L' b = vaultAt d L b := by
  obtain ⟨-, rfl⟩ := store_eq_ok.mp h
  refine ⟨vaultAt_eq_some.mpr ⟨?_, ?_⟩, fun b hb => vaultAt_congr ?_ ?_⟩
  · rw [setData_owner]
    exact (vaultAt_eq_some.mp hv).1
  · rw [setData_data, if_pos rfl]
    exact parseTokenVault_bytes v'
  · rw [setData_owner]
  · rw [setData_data, if_neg hb]

end Keeping

/-! ## Growing vaults -/

/-- What a vault can become: its identity stays, and its counters do not go down. -/
structure TokenVault.Grows (v v' : TokenVault) : Prop where
  sessionBridge : v'.sessionBridge = v.sessionBridge
  mint : v'.mint = v.mint
  vaultTokenAccount : v'.vaultTokenAccount = v.vaultTokenAccount
  tokenProgram : v'.tokenProgram = v.tokenProgram
  bump : v'.bump = v.bump
  deposited : v.deposited ≤ v'.deposited
  withdrawn : v.withdrawn ≤ v'.withdrawn

theorem TokenVault.Grows.refl (v : TokenVault) : v.Grows v :=
  ⟨rfl, rfl, rfl, rfl, rfl, UInt64.le_refl _, UInt64.le_refl _⟩

theorem TokenVault.Grows.trans {v₁ v₂ v₃ : TokenVault} (h : v₁.Grows v₂) (h' : v₂.Grows v₃) :
    v₁.Grows v₃ where
  sessionBridge := h'.sessionBridge.trans h.sessionBridge
  mint := h'.mint.trans h.mint
  vaultTokenAccount := h'.vaultTokenAccount.trans h.vaultTokenAccount
  tokenProgram := h'.tokenProgram.trans h.tokenProgram
  bump := h'.bump.trans h.bump
  deposited := UInt64.le_trans h.deposited h'.deposited
  withdrawn := UInt64.le_trans h.withdrawn h'.withdrawn

/-- **No vault is lost**, and no counter of one goes down. -/
def Advances (d : Deployment) (L L' : Ledger) : Prop :=
  ∀ a v, vaultAt d L a = some v → ∃ v', vaultAt d L' a = some v' ∧ v.Grows v'

/-- **What a call does to the vaults**: they advance, and one whose bridge is not registered with
Portal stays as it is. -/
def Reaches (d : Deployment) (L L' : Ledger) : Prop :=
  ∀ a v, vaultAt d L a = some v → ∃ v', vaultAt d L' a = some v' ∧ v.Grows v' ∧
    ((L v.sessionBridge).owner ≠ d.portal.programId → v' = v)

section Advancing

variable {L L₁ L₂ L' : Ledger} {bump decimals : UInt8} {amount now : UInt64}

theorem KeepsVaults.advances (h : KeepsVaults d L L') : Advances d L L' :=
  fun a v hv => ⟨v, h a v hv, .refl v⟩

theorem KeepsVaults.reaches (h : KeepsVaults d L L') : Reaches d L L' :=
  fun a v hv => ⟨v, h a v hv, .refl v, fun _ => rfl⟩

/-- A call that changes one vault, of a bridge registered with Portal. -/
theorem reaches_of_grows {v v' : TokenVault} (hv : vaultAt d L a = some v)
    (hregistered : (L v.sessionBridge).owner = d.portal.programId)
    (hnew : vaultAt d L' a = some v')
    (hold : ∀ b w, b ≠ a → vaultAt d L b = some w → vaultAt d L' b = some w)
    (hgrows : v.Grows v') : Reaches d L L' := by
  intro b w hw
  by_cases hb : b = a
  · subst hb
    obtain rfl : v = w := Option.some.inj (hv.symm.trans hw)
    exact ⟨v', hnew, hgrows, fun hother => absurd hregistered hother⟩
  · exact ⟨w, hold b w hb hw, .refl w, fun _ => rfl⟩

theorem Reaches.advances (h : Reaches d L L') : Advances d L L' := by
  intro a v hv
  obtain ⟨v', hv', hgrows, -⟩ := h a v hv
  exact ⟨v', hv', hgrows⟩

theorem Advances.trans (h : Advances d L L₁) (h' : Advances d L₁ L₂) : Advances d L L₂ := by
  intro a v hv
  obtain ⟨v₁, hv₁, hgrows₁⟩ := h a v hv
  obtain ⟨v₂, hv₂, hgrows₂⟩ := h' a v₁ hv₁
  exact ⟨v₂, hv₂, hgrows₁.trans hgrows₂⟩

theorem loadVault_eq_ok :
    loadVault d L vault sessionBridge = .ok v ↔
      vaultAt d L vault = some v ∧ v.sessionBridge = sessionBridge ∧
        (d.portal.features.checkpointContinuityV2 = true →
          findVaultPda d sessionBridge = (vault, v.bump)) := by
  simp only [loadVault, chain_ok, not_and, vaultAt_eq_some]
  constructor
  · rintro ⟨howner, v', hparse, hbridge, hseeds, rfl⟩
    exact ⟨⟨howner, hparse⟩, hbridge, hseeds⟩
  · rintro ⟨⟨howner, hparse⟩, hbridge, hseeds⟩
    exact ⟨howner, v, hparse, hbridge, hseeds, rfl⟩

theorem owner_of_loadSessionBridge (h : loadSessionBridge d L sessionBridge program = .ok bridge) :
    (L sessionBridge).owner = d.portal.programId := by
  simp only [loadSessionBridge, chain_ok] at h
  obtain ⟨hprogram, howner, -⟩ := h
  rw [howner, hprogram]

/-! ## The ways into a vault -/

theorem keepsVaults_initializeVault (hd : d.Lawful)
    (h : initializeVault d payer vault sessionBridge portalProgram vaultTokenAccount systemProgram
      L = .ok L') : KeepsVaults d L L' := by
  simp only [initializeVault, chain_ok, exists_and_left] at h
  obtain ⟨-, -, bridge, -, -, -, token, -, -, -, L₁, hcreate, hstore⟩ := h
  have hsystem := (initializePdaAccount_ok (createPda_eq_ok.mp hcreate)).2.1
  intro a v hv
  have hne : a ≠ vault.address := by
    rintro rfl
    exact hd.ne_system ((vaultAt_eq_some.mp hv).1.symm.trans hsystem)
  have hkept := keepsVaults_createPda hd hcreate a v hv
  obtain ⟨-, rfl⟩ := store_eq_ok.mp hstore
  rw [← hkept]
  apply vaultAt_congr
  · rw [setData_owner]
  · rw [setData_data, if_neg hne]

theorem keepsVaults_initializeErTokenAccount (hd : d.Lawful)
    (h : initializeErTokenAccount d payer erTokenAccount sessionBridge portalProgram systemProgram
      owner L = .ok L') : KeepsVaults d L L' := by
  simp only [initializeErTokenAccount, chain_ok, exists_and_left] at h
  obtain ⟨-, -, bridge, -, -, -, L₁, hcreate, hstore⟩ := h
  apply (keepsVaults_createPda hd hcreate).trans
  exact keepsVaults_store hstore (by simp)

theorem keepsVaults_creditReceipt (hd : d.Lawful)
    (h : creditReceipt d L payer depositReceipt sessionBridge erTokenAccount bump amount = .ok L') :
    KeepsVaults d L L' := by
  simp only [creditReceipt, chain_ok, exists_and_left] at h
  obtain ⟨L₁, hprepared, receipt, -, -, balance, -, hstore⟩ := h
  have hkept : KeepsVaults d L L₁ := by
    unfold prepareReceipt at hprepared
    split at hprepared
    · exact keepsVaults_createPda hd hprepared
    · split at hprepared
      · rw [← Except.ok.inj hprepared]
        exact .refl d L
      · simp at hprepared
  exact hkept.trans (keepsVaults_store hstore (by simp))

theorem keepsVaults_appendIngressV2 (hd : d.Lawful)
    (h : appendIngressV2 d.portal now payer session record payload L = .ok L') :
    KeepsVaults d L L' := by
  simp only [appendIngressV2, chain_ok, exists_and_left] at h
  obtain ⟨frame, hframe, -, context, -, sequence, -, -, state, -, L₁, hcreate, rfl⟩ := h
  have hsession : (L session.address).owner = d.portal.programId := by
    simp only [loadSessionV2, chain_ok, not_or] at hframe
    exact hframe.1.2
  have hrecord : (L₁ record.address).owner = d.portal.programId := by
    rw [initializePdaAccount_owner hcreate, if_pos rfl]
  refine ((keepsVaults_initializePdaAccount hd hcreate).trans
    (keepsVaults_setData hd hrecord)).trans (keepsVaults_setData hd ?_)
  rw [setData_owner, initializePdaAccount_owner hcreate]
  split
  · rfl
  · exact hsession

theorem keepsVaults_appendDeposit (hd : d.Lawful)
    (h : appendDeposit d now L accounts ingress bump amount = .ok L') : KeepsVaults d L L' := by
  unfold appendDeposit at h
  split at h
  · simp only [chain_ok, called_eq_ok, processRecordTokenDepositV2, recordTokenDepositV2] at h
    obtain ⟨-, -, -, frame, -, context, -, bridge, -, -, binding, -, -, er, -, -, deposited, -, -,
      baseline, -, -, happend⟩ := h
    exact keepsVaults_appendIngressV2 hd happend
  · rw [← Except.ok.inj h]
    exact .refl d L

/-- A deposit raises what its vault counts as deposited, and nothing else in a vault. -/
theorem reaches_deposit (hd : d.Lawful)
    (h : deposit d now accounts ingress amount decimals L = .ok L') : Reaches d L L' := by
  simp only [deposit, chain_ok, exists_and_left] at h
  obtain ⟨-, -, -, bridge, hbridge, vaultState, hload, -, -, erState, -, -, -, -, -, -, -, -, -, L₁,
    htransfer, L₂, hcredit, deposited, hdeposited, L₃, hstore, hlast⟩ := h
  have hbefore : KeepsVaults d L L₂ :=
    (keepsVaults_transfer hd htransfer).trans (keepsVaults_creditReceipt hd hcredit)
  have hafter : KeepsVaults d L₃ L' := by
    split at hlast
    · exact keepsVaults_appendDeposit hd hlast
    · simp only [chain_ok] at hlast
      obtain ⟨balance, -, hlast⟩ := hlast
      exact keepsVaults_store hlast (by simp)
  obtain ⟨hvault, hsessionBridge, -⟩ := loadVault_eq_ok.mp hload
  obtain ⟨hnew, hold⟩ := vaultAt_storeVault hstore (hbefore _ _ hvault)
  rw [checkedAdd_eq_some] at hdeposited
  have hle : vaultState.deposited ≤ deposited := UInt64.le_iff_toNat_le.mpr (by omega)
  refine reaches_of_grows hvault ?_ (hafter _ _ hnew)
    (fun b w hb hw => hafter _ _ ((hold b hb).trans (hbefore _ _ hw)))
    ⟨rfl, rfl, rfl, rfl, rfl, hle, UInt64.le_refl _⟩
  rw [hsessionBridge]
  exact owner_of_loadSessionBridge hbridge

/-! ## Balances of the rollup -/

theorem keepsVaults_transferCall (h : transfer d authority source destination amount L = .ok L') :
    KeepsVaults d L L' := by
  simp only [transfer, chain_ok, exists_and_left] at h
  obtain ⟨-, -, sourceState, -, destinationState, -, -, left, -, credited, -, L₁, hsource,
    hdestination⟩ := h
  apply (keepsVaults_store hsource (by simp)).trans
  exact keepsVaults_store hdestination (by simp)

theorem keepsVaults_startWithdrawal
    {owner erTokenAccount sessionBridge portalProgram destinationTokenAccount tokenProgram :
      AccountMeta} (h : startWithdrawal d owner erTokenAccount sessionBridge portalProgram
      destinationTokenAccount tokenProgram mint amount decimals L = .ok L') :
    KeepsVaults d L L' := by
  simp only [startWithdrawal, chain_ok, exists_and_left] at h
  obtain ⟨-, bridge, -, -, -, -, destination, -, -, erState, -, -, -, left, -, hstore⟩ := h
  exact keepsVaults_store hstore (by simp)

/-! ## The ways out of a vault -/

/-- **A direct withdrawal** moves the counter of its vault by its amount. -/
theorem vaults_of_withdraw (hd : d.Lawful) (h : withdraw d accounts amount decimals L = .ok L') :
    ∃ v withdrawn, vaultAt d L accounts.vault.address = some v ∧
      (L v.sessionBridge).owner = d.portal.programId ∧
      withdrawn.toNat = v.withdrawn.toNat + amount.toNat ∧
      withdrawn ≤ v.deposited ∧ vaultAt d L' accounts.vault.address = some { v with withdrawn } ∧
      ∀ b w, b ≠ accounts.vault.address → vaultAt d L b = some w → vaultAt d L' b = some w := by
  simp only [withdraw, chain_ok, checkedAdd_eq_some, exists_and_left, UInt64.not_lt] at h
  obtain ⟨-, bridge, hbridge, v, hload, -, -, erState, -, -, -, left, -, withdrawn, hwithdrawn,
    hcovered, -, -, L₁, htransfer, L₂, hstore, hlast⟩ := h
  obtain ⟨hvault, hsessionBridge, -⟩ := loadVault_eq_ok.mp hload
  have hbefore := keepsVaults_transfer hd htransfer
  have hafter : KeepsVaults d L₂ L' := keepsVaults_store hlast (by simp)
  obtain ⟨hnew, hold⟩ := vaultAt_storeVault hstore (hbefore _ _ hvault)
  refine ⟨v, withdrawn, hvault, ?_, hwithdrawn, hcovered, hafter _ _ hnew, ?_⟩
  · rw [hsessionBridge]
    exact owner_of_loadSessionBridge hbridge
  intro b w hb hw
  exact hafter _ _ ((hold b hb).trans (hbefore _ _ hw))

/-- **A release that is paid**: it continues the counter of the vault, Portal consumes its
authorization, and the tokens move. -/
structure Releases (d : Deployment) (accounts : ReleaseAccounts) (args : TokenWithdrawal)
    (L : Ledger) (v : TokenVault) (L' : Ledger) : Prop where
  behind : v.withdrawn < args.withdrawn
  continues : args.withdrawn.toNat = v.withdrawn.toNat + args.amount.toNat
  covered : args.withdrawn ≤ v.deposited
  tokenProgram : accounts.tokenProgram.address = d.portal.tokenProgramId
  signs : vaultSigns d accounts.vault.address accounts.sessionBridge.address v.bump
  installed : ∃ L₁ L₂, consume d accounts args L = .ok L₁ ∧
    d.transferChecked L₁ (releaseTransfer accounts args) = .ok L₂ ∧
    store L₂ accounts.vault.address
      (TokenVault.bytes { v with withdrawn := args.withdrawn }) = .ok L'

/-- A release succeeds in two ways: it is paid, or the counter of the vault has passed it. -/
theorem settleWithdrawal_eq_ok :
    settleWithdrawal d accounts args L = .ok L' ↔
      ∃ v, checkRelease d accounts args L = .ok v ∧
        (args.withdrawn ≤ v.withdrawn ∧ L' = L ∨ Releases d accounts args L v L') := by
  simp only [settleWithdrawal, bind_eq_ok]
  constructor
  · rintro ⟨v, hcheck, h⟩
    refine ⟨v, hcheck, ?_⟩
    split at h
    · rename_i hle
      exact .inl ⟨hle, (pure_eq_ok.mp h).symm⟩
    · rename_i hlt
      simp only [chain_ok, checkedAdd_eq_some, called_eq_ok, exists_and_left, not_or, UInt64.not_lt]
        at h
      obtain ⟨expected, hexpected, ⟨rfl, hcovered⟩, htoken, hsigns, L₁, hconsume, L₂, htransfer,
        hstore⟩ := h
      exact .inr ⟨UInt64.not_le.mp hlt, hexpected, hcovered, htoken, hsigns, L₁, L₂, hconsume,
        htransfer, hstore⟩
  · rintro ⟨v, hcheck, ⟨hle, rfl⟩ | h⟩
    · exact ⟨v, hcheck, by rw [if_pos hle]; rfl⟩
    · refine ⟨v, hcheck, ?_⟩
      rw [if_neg (UInt64.not_le.mpr h.behind)]
      simp only [chain_ok, checkedAdd_eq_some, called_eq_ok, exists_and_left, not_or, UInt64.not_lt]
      obtain ⟨L₁, L₂, hconsume, htransfer, hstore⟩ := h.installed
      exact ⟨args.withdrawn, h.continues, ⟨rfl, h.covered⟩, h.tokenProgram, h.signs, L₁, hconsume,
        L₂, htransfer, hstore⟩

/-- The vault that a release is checked against is that of a registered bridge. -/
theorem vault_of_checkRelease (h : checkRelease d accounts args L = .ok v) :
    vaultAt d L accounts.vault.address = some v ∧
      (L v.sessionBridge).owner = d.portal.programId := by
  simp only [checkRelease, chain_ok, exists_and_left, not_or] at h
  obtain ⟨-, ⟨-, hbridge, hsession⟩, hprogram, -, session, -, checkpoint, -, -, bridge, -,
    expected, -, -, v', hload, -, -, destination, -, -, rfl⟩ := h
  obtain ⟨hvault, hsessionBridge, -⟩ := loadVault_eq_ok.mp hload
  exact ⟨hvault, by rw [hsessionBridge, hbridge, ← hsession, hprogram]⟩

/-- What a consumption does, as far as the bridge sees it. -/
theorem consume_ok (h : consume d accounts args L = .ok L') :
    (L accounts.authorization.address).owner = d.portal.programId ∧ ∃ state,
      (L accounts.authorization.address).data = .tokenWithdrawalAuthorization state ∧
      state.consumed = false ∧
      L' = L.setData accounts.authorization.address
        (.tokenWithdrawalAuthorization { state with consumed := true }) := by
  obtain ⟨bridge, hconsuming, rfl⟩ := consumeTokenWithdrawal_eq_ok.mp h
  exact ⟨hconsuming.authorizationOwner, _, hconsuming.recorded, rfl, rfl⟩

/-- A paid release moves the counter of its vault to its own. -/
theorem Releases.vaults (hd : d.Lawful) (h : Releases d accounts args L v L')
    (hv : vaultAt d L accounts.vault.address = some v) :
    vaultAt d L' accounts.vault.address = some { v with withdrawn := args.withdrawn } ∧
      ∀ b w, b ≠ accounts.vault.address → vaultAt d L b = some w → vaultAt d L' b = some w := by
  obtain ⟨L₁, L₂, hconsume, htransfer, hstore⟩ := h.installed
  have hbefore : KeepsVaults d L L₂ := by
    obtain ⟨howner, state, -, -, rfl⟩ := consume_ok hconsume
    exact (keepsVaults_setData hd howner).trans (keepsVaults_transfer hd htransfer)
  obtain ⟨hnew, hold⟩ := vaultAt_storeVault hstore (hbefore _ _ hv)
  exact ⟨hnew, fun b w hb hw => (hold b hb).trans (hbefore _ _ hw)⟩

/-! ## Histories -/

theorem reaches_processDeposit (hd : d.Lawful)
    (h : processDeposit d now accounts amount decimals L = .ok L') : Reaches d L L' := by
  unfold processDeposit at h
  split at h
  · exact reaches_deposit hd h
  · simp at h

theorem reaches_processWithdraw (hd : d.Lawful)
    (h : processWithdraw d accounts amount decimals L = .ok L') : Reaches d L L' := by
  unfold processWithdraw at h
  split at h
  · obtain ⟨v, withdrawn, hv, hregistered, hwithdrawn, -, hnew, hold⟩ := vaults_of_withdraw hd h
    have hle : v.withdrawn ≤ withdrawn := UInt64.le_iff_toNat_le.mpr (by omega)
    exact reaches_of_grows hv hregistered hnew hold ⟨rfl, rfl, rfl, rfl, rfl, UInt64.le_refl _, hle⟩
  · simp at h

theorem reaches_processSettleWithdrawal (hd : d.Lawful)
    (h : processSettleWithdrawal d accounts args L = .ok L') : Reaches d L L' := by
  unfold processSettleWithdrawal at h
  split at h
  · obtain ⟨v, hcheck, ⟨-, rfl⟩ | hreleases⟩ := settleWithdrawal_eq_ok.mp h
    · exact (KeepsVaults.refl d L').reaches
    · obtain ⟨hv, hregistered⟩ := vault_of_checkRelease hcheck
      obtain ⟨hnew, hold⟩ := hreleases.vaults hd hv
      exact reaches_of_grows hv hregistered hnew hold
        ⟨rfl, rfl, rfl, rfl, rfl, UInt64.le_refl _, UInt64.le_of_lt hreleases.behind⟩
  · simp at h

/-- **No call lowers a counter**, or changes a vault whose bridge Portal did not register. -/
theorem reaches_call (hd : d.Lawful) {c : Call} (h : c.result d L = .ok L') : Reaches d L L' := by
  rcases c with ⟨now, accounts, instruction⟩
  simp only [Call.result, processInstruction] at h
  split at h
  · exact (keepsVaults_initializeVault hd h).reaches
  · exact (keepsVaults_initializeErTokenAccount hd h).reaches
  · exact reaches_processDeposit hd h
  · exact (keepsVaults_transferCall h).reaches
  · split at h
    · simp at h
    · exact reaches_processWithdraw hd h
  · exact (keepsVaults_startWithdrawal h).reaches
  · exact reaches_processSettleWithdrawal hd h
  · simp at h

/-- **A call that names another program in Portal's place** leaves the vaults of the bridges that
Portal registered alone. -/
theorem foreign_call_keepsVault {program : Pubkey} (hd : (d.at program).Lawful)
    (hforeign : program ≠ d.portal.programId) {c : Call} (h : c.result (d.at program) L = .ok L')
    (hv : vaultAt d L a = some v) (hregistered : (L v.sessionBridge).owner = d.portal.programId) :
    vaultAt d L' a = some v := by
  obtain ⟨v', hv', -, hsame⟩ := reaches_call hd h a v hv
  obtain rfl : v' = v := hsame fun howner => hforeign (howner.symm.trans hregistered)
  exact hv'

theorem advances_exec (hd : d.Lawful) {e : Event} (h : Admissible d L e) :
    Advances d L (exec d L e) := by
  cases e with
  | call c =>
    cases hresult : c.result d L with
    | ok L' =>
      rw [exec_call_of_ok hresult]
      exact (reaches_call hd hresult).advances
    | error e =>
      rw [exec_call_of_error hresult]
      exact (KeepsVaults.refl d L).advances
  | other after => exact KeepsVaults.advances h

/-- **Along every history** no counter of a vault goes down. -/
theorem advances_run (hd : d.Lawful) (h : Along (exec d) (Admissible d) L events) :
    Advances d L (run (exec d) L events) := by
  refine run_induction (P := Advances d L) ?_ h (KeepsVaults.refl d L).advances
  intro L₁ e he hL₁
  exact hL₁.trans (advances_exec hd he)

end Advancing

end Northstar.Bridge
