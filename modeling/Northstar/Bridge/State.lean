import Northstar.Lib.Reader
import Northstar.Portal.Continuity

/-!
# The accounts of the token bridge

The bridge program keeps the tokens of a session in a token account and counts what went
in and out of it in a vault record. The token program is a parameter of a deployment; the
bridge's own records are read from the bytes of its accounts.
-/

namespace Northstar.Bridge

open Northstar.Portal Bytes Checked Reader

/-- **How an instruction of the bridge fails**, by itself or in a program it calls. -/
inductive BridgeError
  | notEnoughAccountKeys
  | missingRequiredSignature
  | invalidAccountOwner
  | invalidAccountData
  | invalidSeeds
  | invalidArgument
  | invalidInstructionData
  | incorrectProgramId
  | arithmeticOverflow
  | insufficientFunds
  | accountAlreadyInitialized
  | portal (error : ProgramError)
  | token (code : UInt32)
  deriving DecidableEq, Repr

/-- The result of a call of Portal or of the system program. -/
def called {α : Type} (result : Except ProgramError α) : Except BridgeError α :=
  result.mapError .portal

@[simp] theorem called_eq_ok {α : Type} {result : Except ProgramError α} {a : α} :
    called result = .ok a ↔ result = .ok a := by
  cases result <;> simp [called, Except.mapError]

/-! ## Records -/

/-- The vault of a registered bridge: where its tokens are, and how many tokens were
deposited and withdrawn so far. -/
structure TokenVault where
  sessionBridge : Pubkey
  mint : Pubkey
  vaultTokenAccount : Pubkey
  tokenProgram : Pubkey
  deposited : UInt64
  withdrawn : UInt64
  bump : UInt8
  deriving DecidableEq

def TokenVault.bytes (v : TokenVault) : List UInt8 :=
  1 :: (v.sessionBridge.toList ++ (v.mint.toList ++ (v.vaultTokenAccount.toList ++
    (v.tokenProgram.toList ++ (le64 v.deposited ++ (le64 v.withdrawn ++ [v.bump]))))))

def parseTokenVault (bytes : List UInt8) : Option TokenVault := do
  let (discriminator, rest) ← readByte bytes
  let (sessionBridge, rest) ← read32 rest
  let (mint, rest) ← read32 rest
  let (vaultTokenAccount, rest) ← read32 rest
  let (tokenProgram, rest) ← read32 rest
  let (deposited, rest) ← read64 rest
  let (withdrawn, rest) ← read64 rest
  let (bump, rest) ← readByte rest
  atEnd rest
  if discriminator = 1 then
    some { sessionBridge, mint, vaultTokenAccount, tokenProgram, deposited, withdrawn, bump }
  else none

/-- What one owner holds in the rollup. -/
structure ErTokenAccount where
  sessionBridge : Pubkey
  owner : Pubkey
  mint : Pubkey
  amount : UInt64
  bump : UInt8
  deriving DecidableEq

def ErTokenAccount.bytes (e : ErTokenAccount) : List UInt8 :=
  2 :: (e.sessionBridge.toList ++ (e.owner.toList ++ (e.mint.toList ++ (le64 e.amount ++
    [e.bump]))))

def parseErTokenAccount (bytes : List UInt8) : Option ErTokenAccount := do
  let (discriminator, rest) ← readByte bytes
  let (sessionBridge, rest) ← read32 rest
  let (owner, rest) ← read32 rest
  let (mint, rest) ← read32 rest
  let (amount, rest) ← read64 rest
  let (bump, rest) ← readByte rest
  atEnd rest
  if discriminator = 2 then some { sessionBridge, owner, mint, amount, bump } else none

/-- What was deposited for one account of the rollup. -/
structure TokenDepositReceipt where
  sessionBridge : Pubkey
  erTokenAccount : Pubkey
  balance : UInt64
  withdrawn : UInt64
  bump : UInt8
  deriving DecidableEq

def TokenDepositReceipt.bytes (r : TokenDepositReceipt) : List UInt8 :=
  3 :: (r.sessionBridge.toList ++ (r.erTokenAccount.toList ++ (le64 r.balance ++
    (le64 r.withdrawn ++ [r.bump]))))

def parseTokenDepositReceipt (bytes : List UInt8) : Option TokenDepositReceipt := do
  let (discriminator, rest) ← readByte bytes
  let (sessionBridge, rest) ← read32 rest
  let (erTokenAccount, rest) ← read32 rest
  let (balance, rest) ← read64 rest
  let (withdrawn, rest) ← read64 rest
  let (bump, rest) ← readByte rest
  atEnd rest
  if discriminator = 3 then some { sessionBridge, erTokenAccount, balance, withdrawn, bump }
  else none

@[simp] theorem parseTokenVault_bytes (v : TokenVault) : parseTokenVault v.bytes = some v := by
  simp [parseTokenVault, TokenVault.bytes]

@[simp] theorem length_tokenVault_bytes (v : TokenVault) : v.bytes.length = 146 := by
  simp [TokenVault.bytes]

@[simp] theorem length_erTokenAccount_bytes (e : ErTokenAccount) : e.bytes.length = 106 := by
  simp [ErTokenAccount.bytes]

@[simp] theorem length_tokenDepositReceipt_bytes (r : TokenDepositReceipt) :
    r.bytes.length = 82 := by
  simp [TokenDepositReceipt.bytes]

/-! ## Deployments -/

/-- An account of the token program. -/
structure TokenAccount where
  mint : Pubkey
  owner : Pubkey
  amount : UInt64
  frozen : Bool
  deriving DecidableEq

/-- A checked transfer of the token program, signed by its authority. -/
structure TokenTransfer where
  source : Pubkey
  mint : Pubkey
  destination : Pubkey
  authority : Pubkey
  amount : UInt64
  decimals : UInt8

/-- **Deployment** of the bridge next to Portal and the token program. -/
structure Deployment where
  portal : Env
  programId : Pubkey
  unpackTokenAccount : List UInt8 → Option TokenAccount
  /-- The decimals of an initialized mint. -/
  unpackMint : List UInt8 → Option UInt8
  transferChecked : Ledger → TokenTransfer → Except BridgeError Ledger

namespace Deployment

variable (d : Deployment)

/-- What an account holds as an account of the token program. -/
def token (L : Ledger) (a : Pubkey) : Option TokenAccount :=
  d.unpackTokenAccount (L a).data.bytes

/-- **What a transfer does**: the amount leaves the source and reaches the destination, and
nothing else changes. -/
structure Moved (t : TokenTransfer) (L L' : Ledger) : Prop where
  source : (L t.source).owner = d.portal.tokenProgramId ∧ d.token L t.source ≠ none
  destination : (L t.destination).owner = d.portal.tokenProgramId ∧ d.token L t.destination ≠ none
  balance : ∀ a x, d.token L a = some x → ∃ y, d.token L' a = some y ∧ y.mint = x.mint ∧
    y.owner = x.owner ∧ y.frozen = x.frozen ∧
    y.amount.toNat + (if a = t.source then t.amount.toNat else 0) =
      x.amount.toNat + (if a = t.destination then t.amount.toNat else 0)
  others : ∀ a, a ≠ t.source → a ≠ t.destination → L' a = L a
  owner : ∀ a, (L' a).owner = (L a).owner

/-- **When a transfer has to succeed**: its authority owns the source, which holds the
amount, and the destination has room for it. -/
structure CanMove (t : TokenTransfer) (L : Ledger) : Prop where
  source : ∃ x, d.token L t.source = some x ∧ x.mint = t.mint ∧ x.owner = t.authority ∧
    x.frozen = false ∧ t.amount ≤ x.amount
  destination : ∃ y, d.token L t.destination = some y ∧ y.mint = t.mint ∧ y.frozen = false ∧
    y.amount.toNat + t.amount.toNat < 2 ^ 64
  owners : (L t.source).owner = d.portal.tokenProgramId ∧
    (L t.destination).owner = d.portal.tokenProgramId ∧
    (L t.mint).owner = d.portal.tokenProgramId
  decimals : d.unpackMint (L t.mint).data.bytes = some t.decimals

/-- **What is assumed of a deployment**: the programs are different, a token account is not
a mint, and a checked transfer moves the amount or fails, and succeeds when it can. -/
structure Lawful : Prop where
  ne_portal : d.programId ≠ d.portal.programId
  ne_system : d.programId ≠ systemProgramId
  ne_token : d.programId ≠ d.portal.tokenProgramId
  portal_ne_token : d.portal.programId ≠ d.portal.tokenProgramId
  token_not_mint : ∀ bytes, d.unpackTokenAccount bytes ≠ none → d.unpackMint bytes = none
  moved : ∀ L t L', d.transferChecked L t = .ok L' → d.Moved t L L'
  transfers : ∀ L t, d.CanMove t L → ∃ L', d.transferChecked L t = .ok L'

end Deployment

/-! ## Vaults -/

/-- The vault record of an account of the bridge. -/
def vaultAt (d : Deployment) (L : Ledger) (a : Pubkey) : Option TokenVault :=
  if (L a).owner = d.programId then parseTokenVault (L a).data.bytes else none

theorem vaultAt_eq_some {d : Deployment} {L : Ledger} {a : Pubkey} {v : TokenVault} :
    vaultAt d L a = some v ↔
      (L a).owner = d.programId ∧ parseTokenVault (L a).data.bytes = some v := by
  unfold vaultAt
  split <;> simp_all

/-- A vault record depends on the owner and the data of its account. -/
theorem vaultAt_congr {d : Deployment} {L L' : Ledger} {a : Pubkey}
    (howner : (L' a).owner = (L a).owner) (hdata : (L' a).data = (L a).data) :
    vaultAt d L' a = vaultAt d L a := by
  rw [vaultAt, vaultAt, howner, hdata]

/-- Overwrite the whole data of an account; its length stays. -/
def store (L : Ledger) (a : Pubkey) (bytes : List UInt8) : Except BridgeError Ledger :=
  if (L a).data.size = bytes.length then .ok (L.setData a (.raw bytes))
  else .error .invalidAccountData

theorem store_eq_ok :
    store L a bytes = .ok L' ↔ (L a).data.size = bytes.length ∧ L' = L.setData a (.raw bytes) := by
  unfold store
  split
  · rename_i h
    simp only [Except.ok.injEq, h, true_and]
    exact eq_comm
  · rename_i h
    simp [h]

end Northstar.Bridge
