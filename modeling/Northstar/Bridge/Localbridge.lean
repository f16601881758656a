import Northstar.Bridge.Program
import Northstar.Game.Localnet

/-!
# A deployment of the bridge

The development assumes of the token program that a checked transfer moves its amount
(`Deployment.Lawful`). This file has a deployment of which that is true, with executable
transfers, next to a build of Portal for sessions of the first format.

## Main results

* `localBridge_lawful`: the deployment is as assumed
-/

namespace Northstar.Bridge

open Northstar.Portal Bytes Checked Reader

/-! ## The token program -/

def localTokenBytes (x : TokenAccount) : List UInt8 :=
  x.mint.toList ++ (x.owner.toList ++ (le64 x.amount ++ [x.frozen.toUInt8]))

def localUnpackToken (bytes : List UInt8) : Option TokenAccount := do
  let (mint, rest) ← read32 bytes
  let (owner, rest) ← read32 rest
  let (amount, rest) ← read64 rest
  let (frozen, rest) ← readByte rest
  atEnd rest
  some { mint, owner, amount, frozen := frozen = 1 }

/-- A mint is its decimals. -/
def localUnpackMint (bytes : List UInt8) : Option UInt8 := do
  let (decimals, rest) ← readByte bytes
  atEnd rest
  some decimals

@[simp] theorem localUnpackToken_bytes (x : TokenAccount) :
    localUnpackToken (localTokenBytes x) = some x := by
  rcases x with ⟨mint, owner, amount, _ | _⟩ <;>
    simp [localUnpackToken, localTokenBytes, Bool.toUInt8]

theorem length_of_localUnpackToken (h : localUnpackToken bytes = some x) : bytes.length = 73 := by
  simp only [localUnpackToken, Option.bind_eq_bind, Option.bind_eq_some_iff, Prod.exists] at h
  obtain ⟨_, r₁, h₁, _, r₂, h₂, _, r₃, h₃, _, r₄, h₄, _, hend, -⟩ := h
  have h₁ := length_of_read32 h₁
  have h₂ := length_of_read32 h₂
  have h₃ := length_of_read64 h₃
  have h₄ := length_of_readByte h₄
  rw [eq_nil_of_atEnd hend, List.length_nil] at h₄
  omega

/-- What an account holds as an account of this token program. -/
def localToken (L : Ledger) (a : Pubkey) : Option TokenAccount :=
  localUnpackToken (L a).data.bytes

/-- A checked transfer: the source pays, then the destination is credited. -/
def localTransfer (L : Ledger) (t : TokenTransfer) : Except BridgeError Ledger := do
  let source ← okOr (localToken L t.source) (.token 0)
  let destination ← okOr (localToken L t.destination) (.token 0)
  rejectIf ((L t.source).owner ≠ tagged 18 [] ∨ (L t.destination).owner ≠ tagged 18 [])
    .incorrectProgramId
  rejectIf (source.mint ≠ t.mint ∨ destination.mint ≠ t.mint ∨ source.owner ≠ t.authority ∨
    source.frozen = true ∨ destination.frozen = true) (.token 1)
  rejectIf (localUnpackMint (L t.mint).data.bytes ≠ some t.decimals) (.token 2)
  let left ← okOr (checkedSub source.amount t.amount) .insufficientFunds
  let L := L.setData t.source (.raw (localTokenBytes { source with amount := left }))
  let destination ← okOr (localToken L t.destination) (.token 0)
  let credited ← okOr (checkedAdd destination.amount t.amount) .arithmeticOverflow
  return L.setData t.destination (.raw (localTokenBytes { destination with amount := credited }))

theorem localToken_setData :
    localToken (L.setData a (.raw (localTokenBytes x))) b =
      if b = a then some x else localToken L b := by
  unfold localToken
  rw [Ledger.setData_data]
  split
  · exact localUnpackToken_bytes x
  · rfl

/-! ## The deployment -/

/-- The bridge has vaults and authorizations of its own kinds of address. -/
def localBridgeAddress (seeds : List (List UInt8)) : Bytes32 :=
  match seeds with
  | [name, key] =>
    if name = ascii "token_vault" then tagged 33 (key.drop 1) else localAddress seeds
  | [name, _, owner] =>
    if name = ascii "er_token" then tagged 34 owner else localAddress seeds
  | [_, _, _, counter] => tagged 35 counter
  | _ => localAddress seeds

/-- Portal built for sessions of the first format. -/
def localnetV1 : Env :=
  { localnet with
    features := { localnet.features with checkpointContinuityV2 := false }
    findProgramAddress := fun seeds _ => (localBridgeAddress seeds, 255) }

def localBridge : Deployment where
  portal := localnetV1
  programId := tagged 19 []
  unpackTokenAccount := localUnpackToken
  unpackMint := localUnpackMint
  transferChecked := localTransfer

theorem localBridge_token (L : Ledger) (a : Pubkey) : localBridge.token L a = localToken L a := rfl

theorem localTransfer_moved (h : localTransfer L t = .ok L') : localBridge.Moved t L L' := by
  simp only [localTransfer, chain_ok, checkedSub_eq_some, checkedAdd_eq_some, exists_and_left,
    not_or] at h
  obtain ⟨source, hsource, destination, hdestination, ⟨hsourceOwner, hdestinationOwner⟩, -, -, left,
    hleft, paid, hpaid, credited, hcredited, rfl⟩ := h
  rw [localToken_setData] at hpaid
  constructor
  · exact ⟨hsourceOwner, by rw [localBridge_token, hsource]; exact Option.some_ne_none _⟩
  · exact ⟨hdestinationOwner, by rw [localBridge_token, hdestination]; exact Option.some_ne_none _⟩
  · intro a x hx
    rw [localBridge_token] at hx ⊢
    rw [localToken_setData, localToken_setData]
    by_cases hd : a = t.destination
    · subst hd
      rw [if_pos rfl, if_pos rfl]
      by_cases hs : t.destination = t.source
      · rw [if_pos hs] at hpaid ⊢
        obtain rfl := Option.some.inj hpaid
        rw [hs, hsource] at hx
        obtain rfl := Option.some.inj hx
        refine ⟨_, rfl, rfl, rfl, rfl, ?_⟩
        simp only at hcredited ⊢
        omega
      · rw [if_neg hs] at hpaid ⊢
        rw [hpaid] at hx
        obtain rfl := Option.some.inj hx
        refine ⟨_, rfl, rfl, rfl, rfl, ?_⟩
        simp only at hcredited ⊢
        omega
    · rw [if_neg hd, if_neg hd]
      by_cases hs : a = t.source
      · subst hs
        rw [if_pos rfl, if_pos rfl]
        rw [hsource] at hx
        obtain rfl := Option.some.inj hx
        refine ⟨_, rfl, rfl, rfl, rfl, ?_⟩
        simp only
        omega
      · rw [if_neg hs, if_neg hs]
        exact ⟨x, hx, rfl, rfl, rfl, rfl⟩
  · intro a hs hd
    simp [Ledger.setData, hs, hd]
  · intro a
    simp

theorem localTransfer_succeeds (h : localBridge.CanMove t L) :
    ∃ L', localTransfer L t = .ok L' := by
  obtain ⟨source, hsource, hsourceMint, hauthority, hsourceFrozen, hfunds⟩ := h.source
  obtain ⟨destination, hdestination, hdestinationMint, hdestinationFrozen, hroom⟩ := h.destination
  obtain ⟨hsourceOwner, hdestinationOwner, -⟩ := h.owners
  rw [localBridge_token] at hsource hdestination
  have hleft : (source.amount - t.amount).toNat = source.amount.toNat - t.amount.toNat :=
    UInt64.toNat_sub_of_le _ _ hfunds
  have hfunds := UInt64.le_iff_toNat_le.mp hfunds
  -- what the destination holds once the source has paid
  obtain ⟨paid, hpaid, hpaidRoom⟩ : ∃ paid, localToken (L.setData t.source (.raw
      (localTokenBytes { source with amount := source.amount - t.amount }))) t.destination =
        some paid ∧ paid.amount.toNat + t.amount.toNat < 2 ^ 64 := by
    rw [localToken_setData]
    by_cases hs : t.destination = t.source
    · rw [if_pos hs]
      refine ⟨_, rfl, ?_⟩
      have hbound := source.amount.toNat_lt
      simp only
      omega
    · rw [if_neg hs]
      exact ⟨destination, hdestination, hroom⟩
  simp only [localTransfer, chain_ok, checkedSub_eq_some, checkedAdd_eq_some, exists_and_left,
    not_or, Bool.not_eq_true]
  refine ⟨_, source, hsource, destination, hdestination, ⟨hsourceOwner, hdestinationOwner⟩,
    ⟨hsourceMint, hdestinationMint, hauthority, hsourceFrozen, hdestinationFrozen⟩, h.decimals,
    source.amount - t.amount, by omega, paid, hpaid, paid.amount + t.amount, ?_, rfl⟩
  rw [UInt64.toNat_add, Nat.mod_eq_of_lt hpaidRoom]

/-- **The deployment is as assumed.** -/
theorem localBridge_lawful : localBridge.Lawful where
  ne_portal := by decide
  ne_system := by decide
  ne_token := by decide
  portal_ne_token := by decide
  token_not_mint bytes h := by
    obtain ⟨x, hx⟩ := Option.ne_none_iff_exists'.mp h
    have hlength := length_of_localUnpackToken hx
    -- what follows the first byte of a mint is not empty here
    cases hmint : localBridge.unpackMint bytes with
    | none => rfl
    | some decimals =>
      have hmint : localUnpackMint bytes = some decimals := hmint
      simp only [localUnpackMint, Option.bind_eq_bind, Option.bind_eq_some_iff, Prod.exists]
        at hmint
      obtain ⟨_, rest, hread, _, hend, -⟩ := hmint
      have hread := length_of_readByte hread
      rw [eq_nil_of_atEnd hend, List.length_nil] at hread
      omega
  moved _ _ _ h := localTransfer_moved h
  transfers _ _ h := localTransfer_succeeds h

/-! ## A vault with settled withdrawals -/

def localSession : Pubkey := localnetV1.address .session

def localMint : Pubkey := tagged 36 []

def localSessionBridge : Pubkey := (findSessionBridgePda localnetV1 localSession localMint).1

def localVault : Pubkey := (findVaultPda localBridge localSessionBridge).1

def localVaultTokens : Pubkey := tagged 37 []

/-- Token accounts that tokens are withdrawn to. -/
def localDestination (n : UInt8) : Pubkey := tagged 38 [n]

/-- The rollup account of wallet 22. -/
def localErToken : Pubkey := (findErTokenAccountPda localBridge localSessionBridge (tagged 22 [])).1

def localRegistration : SessionBridge :=
  { session := localSession
    mint := localMint
    bridgeProgram := localBridge.programId
    vault := localVault
    tokenProgram := localnetV1.tokenProgramId
    bump := 255 }

def localVaultState : TokenVault :=
  { sessionBridge := localSessionBridge
    mint := localMint
    vaultTokenAccount := localVaultTokens
    tokenProgram := localnetV1.tokenProgramId
    deposited := 100
    withdrawn := 0
    bump := 255 }

/-- The session between two settlements. -/
def localIdleSession : Session :=
  { gridId := 1
    ttlSlots := 1000000
    feeCap := 0
    createdAt := 10
    nonce := 0
    authority := tagged 20 []
    validator := tagged 21 []
    settlementIntervalSlots := 10
    lastSettledL1Slot := 140
    lastSettledErSlot := 7
    settlementStatus := .idle
    settlementErSlot := 0
    settlementChecksum := zero32
    settlementAccumulator := zero32
    settlementStartedL1Slot := 0
    bump := 255 }

/-- The settled checkpoint of slot 7. -/
def localSettledCheckpoint : Checkpoint :=
  { session := localSession
    erSlot := 7
    stepCount := 1
    previousStateRoot := localRoot 0
    newStateRoot := localRoot 1
    traceRoot := zero32
    txEffectRoot := zero32
    readonlyL1Root := zero32
    daCommitment := zero32
    effectCommitment := zero32
    proposer := tagged 21 []
    proposedAtL1Slot := 20
    challengeDeadlineL1Slot := 120
    status := .settled
    bondLamports := 0
    bondStatus := .released
    challenger := zero32
    challengedAtL1Slot := 0
    challengeResolved := false
    bump := 255 }

/-- A withdrawal of the settled checkpoint. -/
def localWithdrawn (amount withdrawn : UInt64) : TokenWithdrawal :=
  { erSlot := 7, checksum := zero32, amount, withdrawn, decimals := 6 }

def localAuthorization (withdrawn : UInt64) : Pubkey :=
  (findTokenWithdrawalAuthorizationPda localnetV1 (localnetV1.address (.checkpoint 7)) localVault
    withdrawn).1

/-- The accounts of a release to the destination `n`. -/
def localReleaseAccounts (n : UInt8) (withdrawn : UInt64) : ReleaseAccounts :=
  { validator := localWallet 21
    session := localNamed localSession
    checkpoint := localNamed (localnetV1.address (.checkpoint 7))
    authorization := localNamed (localAuthorization withdrawn)
    sessionBridge := localNamed localSessionBridge
    portalProgram := localNamed localnetV1.programId
    vault := localNamed localVault
    erTokenAccount := localNamed localErToken
    vaultTokenAccount := localNamed localVaultTokens
    destinationTokenAccount := localNamed (localDestination n)
    mint := localNamed localMint
    tokenProgram := localNamed localnetV1.tokenProgramId }

/-- The record of the authorization that a settlement gave a withdrawal. -/
def localAuthorized (n : UInt8) (amount withdrawn : UInt64) : TokenWithdrawalAuthorization :=
  { checkpoint := localnetV1.address (.checkpoint 7)
    tupleHash := tokenWithdrawalTupleHash localnetV1
      { bridgeProgram := localBridge.programId
        sessionBridge := localSessionBridge
        erTokenAccount := localErToken
        vault := localVault
        vaultTokenAccount := localVaultTokens
        destinationTokenAccount := localDestination n
        mint := localMint
        tokenProgram := localnetV1.tokenProgramId
        amount, withdrawn
        decimals := 6 }
    consumed := false
    bump := 255 }

/-- A vault with 100 tokens and settled withdrawals of 10 tokens to destination 1 and of 5
tokens to destination 2. Wallet 22 holds 30 tokens that are not delegated, and 50 of its own. -/
def localVaultLedger : Ledger := fun a =>
  let portal := localnetV1.programId
  let token := localnetV1.tokenProgramId
  let bridge := localBridge.programId
  let tokens (owner : Pubkey) (amount : UInt64) : AccountData :=
    .raw (localTokenBytes ⟨localMint, owner, amount, false⟩)
  if a = localSession then ⟨1000, portal, false, .session localIdleSession⟩
  else if a = localnetV1.address (.checkpoint 7) then
    ⟨1000, portal, false, .checkpoint localSettledCheckpoint⟩
  else if a = localSessionBridge then ⟨1000, portal, false, .sessionBridge localRegistration⟩
  else if a = localAuthorization 10 then
    ⟨1000, portal, false, .tokenWithdrawalAuthorization (localAuthorized 1 10 10)⟩
  else if a = localAuthorization 15 then
    ⟨1000, portal, false, .tokenWithdrawalAuthorization (localAuthorized 2 5 15)⟩
  else if a = localVault then ⟨1000, bridge, false, .raw localVaultState.bytes⟩
  else if a = localErToken then
    ⟨1000, bridge, false, .raw (ErTokenAccount.bytes
      ⟨localSessionBridge, tagged 22 [], localMint, 30, 255⟩)⟩
  else if a = localMint then ⟨1000, token, false, .raw [6]⟩
  else if a = localVaultTokens then ⟨1000, token, false, tokens localVault 100⟩
  else if a = localDestination 1 ∨ a = localDestination 2 then
    ⟨1000, token, false, tokens (tagged 23 []) 0⟩
  else if a = localDestination 3 then ⟨1000, token, false, tokens (tagged 22 []) 50⟩
  else localLedger a

/-- Wallet 22 takes its tokens out of the vault. -/
def localWithdrawing (amount : UInt64) : Call :=
  ⟨150, [localWallet 22, localNamed localVault, localNamed localErToken,
    localNamed localSessionBridge, localNamed localnetV1.programId, localNamed localVaultTokens,
    localNamed (localDestination 3), localNamed localMint, localNamed localnetV1.tokenProgramId],
    .withdraw amount 6⟩

end Northstar.Bridge
