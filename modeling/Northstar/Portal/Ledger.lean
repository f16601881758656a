import Northstar.Lib.Checked
import Northstar.Portal.State

/-!
# The ledger Portal runs on

Accounts by address, the parameters of a deployment and the system program. What lies
outside the repository is a parameter of `Env`: address derivation, rent, the hash
functions and the step-proof verifier.

## Main results

* `systemTransfer_ok`, `initializePdaAccount_ok`: what a successful transfer and a
  successful creation do
-/

namespace Northstar.Portal

open Bytes Checked

/-! ## Accounts -/

/-- An account of the chain. -/
structure Account where
  lamports : UInt64
  owner : Pubkey
  executable : Bool
  data : AccountData
  deriving DecidableEq

/-- The system program, which owns every account not assigned to another program. -/
def systemProgramId : Pubkey := zero32

/-- An address nothing was ever stored at. -/
def Account.vacant : Account := ⟨0, systemProgramId, false, .empty⟩

/-- Every account of the chain. -/
abbrev Ledger := Pubkey → Account

/-- What an instruction leads to. -/
abbrev ProgramResult := Except ProgramError Ledger

namespace Ledger

/-- Write the data of an account. -/
def setData (L : Ledger) (a : Pubkey) (d : AccountData) : Ledger :=
  Function.update L a { L a with data := d }

/-- Set the balance of an account. -/
def setLamports (L : Ledger) (a : Pubkey) (n : UInt64) : Ledger :=
  Function.update L a { L a with lamports := n }

/-- Assign an account to a program. -/
def setOwner (L : Ledger) (a : Pubkey) (o : Pubkey) : Ledger :=
  Function.update L a { L a with owner := o }

/-- Close an account: its data, lamports and owner are given back. -/
def close (L : Ledger) (a : Pubkey) : Ledger :=
  Function.update L a { L a with lamports := 0, owner := systemProgramId, data := .empty }

variable (L : Ledger) (a b : Pubkey)

@[simp] theorem setData_lamports (d : AccountData) :
    (L.setData a d b).lamports = (L b).lamports := by
  unfold setData
  by_cases h : b = a <;> simp [h]

@[simp] theorem setData_owner (d : AccountData) : (L.setData a d b).owner = (L b).owner := by
  unfold setData
  by_cases h : b = a <;> simp [h]

theorem setData_data (d : AccountData) :
    (L.setData a d b).data = if b = a then d else (L b).data := by
  unfold setData
  by_cases h : b = a <;> simp [h]

@[simp] theorem setLamports_data (n : UInt64) : (L.setLamports a n b).data = (L b).data := by
  unfold setLamports
  by_cases h : b = a <;> simp [h]

@[simp] theorem setLamports_owner (n : UInt64) : (L.setLamports a n b).owner = (L b).owner := by
  unfold setLamports
  by_cases h : b = a <;> simp [h]

theorem setLamports_lamports (n : UInt64) :
    (L.setLamports a n b).lamports = if b = a then n else (L b).lamports := by
  unfold setLamports
  by_cases h : b = a <;> simp [h]

@[simp] theorem setOwner_data (o : Pubkey) : (L.setOwner a o b).data = (L b).data := by
  unfold setOwner
  by_cases h : b = a <;> simp [h]

@[simp] theorem setOwner_lamports (o : Pubkey) : (L.setOwner a o b).lamports = (L b).lamports := by
  unfold setOwner
  by_cases h : b = a <;> simp [h]

theorem setOwner_owner (o : Pubkey) :
    (L.setOwner a o b).owner = if b = a then o else (L b).owner := by
  unfold setOwner
  by_cases h : b = a <;> simp [h]

@[simp] theorem setData_executable (d : AccountData) :
    (L.setData a d b).executable = (L b).executable := by
  unfold setData
  by_cases h : b = a <;> simp [h]

@[simp] theorem setLamports_executable (n : UInt64) :
    (L.setLamports a n b).executable = (L b).executable := by
  unfold setLamports
  by_cases h : b = a <;> simp [h]

@[simp] theorem setOwner_executable (o : Pubkey) :
    (L.setOwner a o b).executable = (L b).executable := by
  unfold setOwner
  by_cases h : b = a <;> simp [h]

theorem close_of_ne {a b : Pubkey} (h : b ≠ a) : L.close a b = L b := by
  simp [close, h]

@[simp] theorem close_data_self : (L.close a a).data = .empty := by simp [close]

@[simp] theorem close_owner_self : (L.close a a).owner = systemProgramId := by simp [close]

@[simp] theorem close_lamports_self : (L.close a a).lamports = 0 := by simp [close]

end Ledger

/-! ## Deployments -/

/-- The compile-time features of the program. -/
structure Features where
  zkVerifierPrototype : Bool
  zkVerifierBoundedVrf : Bool
  testVerifier : Bool
  checkpointContinuityV2 : Bool

/-- **Deployment**: the program's own identity and the code it calls but does not
contain. -/
structure Env where
  programId : Pubkey
  features : Features
  /-- Derivation of an off-curve address and its bump from seeds and a program. -/
  findProgramAddress : List (List UInt8) → Pubkey → Pubkey × UInt8
  /-- The rent-exempt balance of an account of the given length. -/
  minimumBalance : Nat → UInt64
  sha256 : List UInt8 → Hash32
  poseidon : List Hash32 → Option Hash32
  /-- The Groth16 verifier of step proofs, on a complete envelope and the public inputs. -/
  verifyErStepProofV1 : Vector UInt8 356 → List UInt8 → Bool
  /-- The step count of the bounded relation that the verifier was built for. -/
  boundedVrfCheckpointSteps : UInt64
  tokenProgramId : Pubkey
  /-- Whether the data of an account is an initialized token mint. -/
  mintIsInitialized : AccountData → Except ProgramError Bool

variable (env : Env)

/-- The hash of the concatenation of `parts`. -/
def Env.hashv (parts : List (List UInt8)) : Hash32 := env.sha256 parts.flatten

/-- An account as an instruction names it. -/
structure AccountMeta where
  address : Pubkey
  isSigner : Bool
  isWritable : Bool
  deriving DecidableEq

/-! ## Derived addresses -/

/-- Where the session is. -/
def findSessionPda : Pubkey × UInt8 :=
  env.findProgramAddress [ascii "session"] env.programId

/-- Where the fee vault is. -/
def findFeeVaultPda : Pubkey × UInt8 :=
  env.findProgramAddress [ascii "fee_vault"] env.programId

/-- Where a delegation is recorded. -/
def findDelegationRecordPda (delegatedAccount : Pubkey) : Pubkey × UInt8 :=
  env.findProgramAddress [ascii "delegation", delegatedAccount.toList] env.programId

/-- Where undelegation is requested. -/
def findUndelegationRequestPda (delegatedAccount : Pubkey) : Pubkey × UInt8 :=
  env.findProgramAddress [ascii "undelegation_request", delegatedAccount.toList] env.programId

/-- Where the checkpoint of a slot is. -/
def findCheckpointPda (session : Pubkey) (erSlot : UInt64) : Pubkey × UInt8 :=
  env.findProgramAddress [ascii "checkpoint", session.toList, le64 erSlot] env.programId

/-- Where the cursor is. -/
def findCheckpointCursorPda (session : Pubkey) : Pubkey × UInt8 :=
  env.findProgramAddress [ascii "checkpoint_cursor", session.toList] env.programId

/-- Where a challenge is. -/
def findChallengePda (checkpoint : Pubkey) : Pubkey × UInt8 :=
  env.findProgramAddress [ascii "challenge", checkpoint.toList] env.programId

/-- Where a data availability proof is. -/
def findDaProofPda (challenge : Pubkey) : Pubkey × UInt8 :=
  env.findProgramAddress [ascii "da_proof", challenge.toList] env.programId

/-- Where a step proof is. -/
def findStepProofPda (checkpoint : Pubkey) : Pubkey × UInt8 :=
  env.findProgramAddress [ascii "step_proof", checkpoint.toList] env.programId

/-- Where a receipt is. -/
def findDepositReceiptPda (session recipient : Pubkey) : Pubkey × UInt8 :=
  env.findProgramAddress [ascii "deposit_receipt", session.toList, recipient.toList] env.programId

/-- Where the bridge of a mint is. -/
def findSessionBridgePda (session mint : Pubkey) : Pubkey × UInt8 :=
  env.findProgramAddress [ascii "session_bridge", session.toList, mint.toList] env.programId

/-- Where a withdrawal is authorized. -/
def findTokenWithdrawalAuthorizationPda (checkpoint vault : Pubkey)
    (withdrawn : UInt64) : Pubkey × UInt8 :=
  env.findProgramAddress
    [ascii "token_withdrawal_auth", checkpoint.toList, vault.toList, le64 withdrawn]
    env.programId

/-- Where sessions are counted. -/
def findSessionEpochV2Pda : Pubkey × UInt8 :=
  env.findProgramAddress [ascii "session_epoch_v2"] env.programId

/-- Where an ingress record is. -/
def findIngressRecordV2Pda (sessionContext : Hash32) (sequence : UInt64) : Pubkey × UInt8 :=
  env.findProgramAddress [ascii "ingress_v2", sessionContext.toList, le64 sequence] env.programId

/-- Where a receipt of the second format is. -/
def findDepositReceiptV2Pda (sessionContext : Hash32) (recipient : Pubkey) : Pubkey × UInt8 :=
  env.findProgramAddress [ascii "deposit_receipt_v2", sessionContext.toList, recipient.toList]
    env.programId

/-- Where a bridge of the second format is. -/
def findSessionBridgeV2Pda (sessionContext : Hash32) (mint : Pubkey) : Pubkey × UInt8 :=
  env.findProgramAddress [ascii "session_bridge_v2", sessionContext.toList, mint.toList]
    env.programId

/-- Where the openings of a checkpoint are. -/
def findCheckpointBindingV2Pda (checkpoint : Pubkey) : Pubkey × UInt8 :=
  env.findProgramAddress [ascii "checkpoint_v2", checkpoint.toList] env.programId

/-- The accounts of the checkpoint game of the one session a deployment has. -/
inductive GameAccount
  | session
  | feeVault
  | cursor
  | checkpoint (erSlot : UInt64)
  | challenge (erSlot : UInt64)
  | daProof (erSlot : UInt64)
  | stepProof (erSlot : UInt64)
  deriving DecidableEq

/-- Where each account of the game lives. -/
def Env.address : GameAccount → Pubkey
  | .session => (findSessionPda env).1
  | .feeVault => (findFeeVaultPda env).1
  | .cursor => (findCheckpointCursorPda env (findSessionPda env).1).1
  | .checkpoint e => (findCheckpointPda env (findSessionPda env).1 e).1
  | .challenge e => (findChallengePda env (findCheckpointPda env (findSessionPda env).1 e).1).1
  | .daProof e =>
    (findDaProofPda env
      (findChallengePda env (findCheckpointPda env (findSessionPda env).1 e).1).1).1
  | .stepProof e => (findStepProofPda env (findCheckpointPda env (findSessionPda env).1 e).1).1

/-- An address derived for Portal. No one holds a key for it, and Portal itself signs for
it only to create the account. -/
def Env.Derived (a : Pubkey) : Prop :=
  ∃ seeds, a = (env.findProgramAddress seeds env.programId).1

theorem Env.derived_address (g : GameAccount) : env.Derived (env.address g) := by
  cases g <;> exact ⟨_, rfl⟩

/-- The seeds under which Portal derives an account outside the game. -/
inductive Env.SideSeeds : List (List UInt8) → Prop
  | delegation (a : Pubkey) : SideSeeds [ascii "delegation", a.toList]
  | undelegationRequest (a : Pubkey) : SideSeeds [ascii "undelegation_request", a.toList]
  | depositReceipt (s r : Pubkey) : SideSeeds [ascii "deposit_receipt", s.toList, r.toList]
  | sessionBridge (s m : Pubkey) : SideSeeds [ascii "session_bridge", s.toList, m.toList]
  | tokenWithdrawalAuthorization (c v : Pubkey) (n : UInt64) :
      SideSeeds [ascii "token_withdrawal_auth", c.toList, v.toList, le64 n]
  | sessionEpochV2 : SideSeeds [ascii "session_epoch_v2"]
  | ingressRecordV2 (c : Hash32) (n : UInt64) : SideSeeds [ascii "ingress_v2", c.toList, le64 n]
  | depositReceiptV2 (c : Hash32) (r : Pubkey) :
      SideSeeds [ascii "deposit_receipt_v2", c.toList, r.toList]
  | sessionBridgeV2 (c : Hash32) (m : Pubkey) :
      SideSeeds [ascii "session_bridge_v2", c.toList, m.toList]
  | checkpointBindingV2 (c : Pubkey) : SideSeeds [ascii "checkpoint_v2", c.toList]

/-- **Address derivation does not collide** on the accounts of the game: they are
distinct, distinct from the default address and from every account Portal derives
outside the game, and no other account shares their delegation record. No account is
free of rent, and Portal is not the system program. -/
structure Env.Lawful : Prop where
  address_injective : Function.Injective env.address
  address_ne_default : ∀ g, env.address g ≠ zero32
  address_ne_side : ∀ g seeds, Env.SideSeeds seeds →
    env.address g ≠ (env.findProgramAddress seeds env.programId).1
  delegation_address : ∀ g a, (findDelegationRecordPda env a).1 =
    (findDelegationRecordPda env (env.address g)).1 → a = env.address g
  minimumBalance_pos : ∀ size, 0 < env.minimumBalance size
  programId_ne_system : env.programId ≠ systemProgramId

theorem Env.Lawful.address_inj {env : Env} (h : env.Lawful) {g g' : GameAccount} :
    env.address g = env.address g' ↔ g = g' :=
  h.address_injective.eq_iff

/-! ## Totals -/

/-- What the accounts of `S` hold together. -/
def Ledger.total (L : Ledger) (S : Finset Pubkey) : Nat := ∑ a ∈ S, (L a).lamports.toNat

section Totals

variable (L : Ledger) (S : Finset Pubkey) {a : Pubkey}

@[simp] theorem Ledger.total_setData (d : AccountData) : (L.setData a d).total S = L.total S := by
  simp [Ledger.total]

@[simp] theorem Ledger.total_setOwner (o : Pubkey) : (L.setOwner a o).total S = L.total S := by
  simp [Ledger.total]

theorem Ledger.total_setLamports (n : UInt64) (ha : a ∈ S) :
    (L.setLamports a n).total S + (L a).lamports.toNat = L.total S + n.toNat := by
  have hnew : (L.setLamports a n).total S = n.toNat + L.total (S.erase a) := by
    rw [Ledger.total, ← Finset.add_sum_erase S _ ha]
    congr 1
    · rw [Ledger.setLamports_lamports, if_pos rfl]
    · refine Finset.sum_congr rfl fun b hb => ?_
      rw [Ledger.setLamports_lamports, if_neg (Finset.ne_of_mem_erase hb)]
  have hold : (L a).lamports.toNat + L.total (S.erase a) = L.total S :=
    Finset.add_sum_erase S (fun b => (L b).lamports.toNat) ha
  omega

theorem Ledger.total_close (ha : a ∈ S) :
    (L.close a).total S + (L a).lamports.toNat = L.total S := by
  have hzero := L.total_setLamports S 0 ha
  have hsame : (L.close a).total S = (L.setLamports a 0).total S := by
    refine Finset.sum_congr rfl fun b _ => ?_
    by_cases hb : b = a <;> simp [Ledger.close, Ledger.setLamports, hb]
  rw [hsame]
  exact hzero

end Totals

/-! ## The system program -/

/-- Transfer by the system program: the payer signs, holds no data and is not another
program's account. -/
def systemTransfer (L : Ledger) (source : AccountMeta) (dest : Pubkey) (amount : UInt64) :
    Except ProgramError Ledger := do
  rejectIf (source.isSigner = false) .missingRequiredSignature
  rejectIf ((L source.address).data ≠ .empty) .invalidArgument
  rejectIf ((L source.address).owner ≠ systemProgramId) .externalAccountLamportSpend
  let left ← okOr (checkedSub (L source.address).lamports amount) .insufficientFunds
  let L := L.setLamports source.address left
  let credited ← okOr (checkedAdd (L dest).lamports amount) .arithmeticOverflow
  return L.setLamports dest credited

/-- Raise the balance of `pda` to `lamports` at the payer's cost. -/
def topUp (L : Ledger) (payer : AccountMeta) (pda : Pubkey) (lamports : UInt64) :
    Except ProgramError Ledger :=
  if (L pda).lamports < lamports then do
    let missing ← okOr (checkedSub lamports (L pda).lamports) PortalError.arithmeticOverflow
    systemTransfer L payer pda missing
  else .ok L

/-- An address without an account: whatever lamports it holds, it is the system program's and
holds no data. -/
def Vacant (L : Ledger) (a : Pubkey) : Prop :=
  (L a).data = .empty ∧ (L a).owner = systemProgramId
  deriving Decidable

/-- Create the account at a derived address: top its balance up to `lamports`, allocate
`space` zero bytes and assign it to Portal. -/
def initializePdaAccount (L : Ledger) (payer : AccountMeta) (pda : Pubkey)
    (lamports : UInt64) (space : Nat) : ProgramResult := do
  rejectIf ((L pda).data ≠ .empty ∨ (L pda).owner ≠ systemProgramId) PortalError.invalidAccountData
  let L ← topUp L payer pda lamports
  return (L.setData pda (.raw (List.replicate space 0))).setOwner pda env.programId

/-! ## What a transfer and a creation do -/

section Effects

variable {env : Env} {L L' : Ledger} {source payer : AccountMeta} {dest pda b : Pubkey}
  {amount lamports : UInt64} {space : Nat}

section Transfer

variable (h : systemTransfer L source dest amount = .ok L')

include h

theorem systemTransfer_ok :
    source.isSigner = true ∧ ∃ left credited,
      amount.toNat + left.toNat = (L source.address).lamports.toNat ∧
      credited.toNat = (L.setLamports source.address left dest).lamports.toNat + amount.toNat ∧
      L' = (L.setLamports source.address left).setLamports dest credited := by
  simp only [systemTransfer, chain_ok, checkedSub_eq_some, checkedAdd_eq_some, exists_and_left] at h
  obtain ⟨hsigner, -, -, left, hleft, credited, hcredited, rfl⟩ := h
  exact ⟨by simpa using hsigner, left, credited, hleft, hcredited, rfl⟩

theorem systemTransfer_data : (L' b).data = (L b).data := by
  obtain ⟨-, left, credited, -, -, rfl⟩ := systemTransfer_ok h
  simp

theorem systemTransfer_owner : (L' b).owner = (L b).owner := by
  obtain ⟨-, left, credited, -, -, rfl⟩ := systemTransfer_ok h
  simp

theorem systemTransfer_executable : (L' b).executable = (L b).executable := by
  obtain ⟨-, left, credited, -, -, rfl⟩ := systemTransfer_ok h
  simp

theorem systemTransfer_lamports_le (hb : b ≠ source.address) :
    (L b).lamports ≤ (L' b).lamports := by
  obtain ⟨-, left, credited, -, hcredited, rfl⟩ := systemTransfer_ok h
  rw [Ledger.setLamports_lamports] at hcredited ⊢
  by_cases hd : b = dest
  · subst hd
    rw [if_neg hb] at hcredited
    rw [if_pos rfl, UInt64.le_iff_toNat_le]
    omega
  · rw [if_neg hd, Ledger.setLamports_lamports, if_neg hb]
    exact UInt64.le_refl _

theorem systemTransfer_total {S : Finset Pubkey} (hs : source.address ∈ S) (hd : dest ∈ S) :
    L'.total S = L.total S := by
  obtain ⟨-, left, credited, hleft, hcredited, rfl⟩ := systemTransfer_ok h
  have hpaid := L.total_setLamports S left hs
  have hreceived := (L.setLamports source.address left).total_setLamports S credited hd
  omega

end Transfer

section Creation

variable (h : initializePdaAccount env L payer pda lamports space = .ok L')

include h

/-- A creation leaves the balance, the data and the owner of every other account alone,
but for what its payer paid. -/
theorem initializePdaAccount_ok :
    (L pda).data = .empty ∧ (L pda).owner = systemProgramId ∧ ∃ L₁,
      (L₁ = L ∧ lamports ≤ (L pda).lamports ∨
        ∃ missing, (L pda).lamports.toNat + missing.toNat = lamports.toNat ∧
          systemTransfer L payer pda missing = .ok L₁) ∧
      L' = (L₁.setData pda (.raw (List.replicate space 0))).setOwner pda env.programId := by
  simp only [initializePdaAccount, chain_ok, exists_and_left, not_or] at h
  obtain ⟨⟨hdata, howner⟩, L₁, hL₁, rfl⟩ := h
  refine ⟨hdata, howner, L₁, ?_, rfl⟩
  unfold topUp at hL₁
  split at hL₁
  · simp only [chain_ok, checkedSub_eq_some] at hL₁
    exact .inr hL₁
  · rename_i hle
    exact .inl ⟨(Except.ok.inj hL₁).symm, UInt64.not_lt.mp hle⟩

theorem initializePdaAccount_data (hb : b ≠ pda) : (L' b).data = (L b).data := by
  obtain ⟨-, -, L₁, ⟨rfl, -⟩ | ⟨m, -, hm⟩, rfl⟩ := initializePdaAccount_ok h
  · simp [Ledger.setData_data, hb]
  · simp [Ledger.setData_data, hb, systemTransfer_data hm]

theorem initializePdaAccount_owner :
    (L' b).owner = if b = pda then env.programId else (L b).owner := by
  obtain ⟨-, -, L₁, ⟨rfl, -⟩ | ⟨m, -, hm⟩, rfl⟩ := initializePdaAccount_ok h
  · simp [Ledger.setOwner_owner]
  · simp [Ledger.setOwner_owner, systemTransfer_owner hm]

theorem initializePdaAccount_executable : (L' b).executable = (L b).executable := by
  obtain ⟨-, -, L₁, ⟨rfl, -⟩ | ⟨m, -, hm⟩, rfl⟩ := initializePdaAccount_ok h
  · simp
  · simp [systemTransfer_executable hm]

theorem initializePdaAccount_total {S : Finset Pubkey} (hpayer : payer.address ∈ S)
    (hpda : pda ∈ S) : L'.total S = L.total S := by
  obtain ⟨-, -, L₁, ⟨rfl, -⟩ | ⟨m, -, hm⟩, rfl⟩ := initializePdaAccount_ok h
  · simp
  · simpa using systemTransfer_total hm hpayer hpda

/-- The created account holds at least the balance asked for. -/
theorem initializePdaAccount_funded (hpayer : pda ≠ payer.address) :
    lamports ≤ (L' pda).lamports := by
  obtain ⟨-, -, L₁, ⟨rfl, hle⟩ | ⟨m, hm, ht⟩, rfl⟩ := initializePdaAccount_ok h
  · simpa using hle
  · obtain ⟨-, left, credited, -, hcredited, rfl⟩ := systemTransfer_ok ht
    rw [Ledger.setLamports_lamports, if_neg hpayer] at hcredited
    rw [Ledger.setOwner_lamports, Ledger.setData_lamports, Ledger.setLamports_lamports,
      if_pos rfl, UInt64.le_iff_toNat_le]
    omega

end Creation

/-- A wallet can pay for what it holds. -/
theorem exists_systemTransfer (hsigner : source.isSigner = true)
    (hdata : (L source.address).data = .empty) (howner : (L source.address).owner = systemProgramId)
    (hne : dest ≠ source.address) (hfunds : amount ≤ (L source.address).lamports)
    (hroom : (L dest).lamports.toNat + amount.toNat < 2 ^ 64) :
    ∃ L', systemTransfer L source dest amount = .ok L' := by
  have hleft : checkedSub (L source.address).lamports amount =
      some ((L source.address).lamports - amount) := by
    rw [checkedSub_eq_some, UInt64.toNat_sub_of_le _ _ hfunds]
    have := UInt64.le_iff_toNat_le.mp hfunds
    omega
  have hcredited : checkedAdd (L dest).lamports amount = some ((L dest).lamports + amount) := by
    rw [checkedAdd_eq_some, UInt64.toNat_add, Nat.mod_eq_of_lt hroom]
  refine ⟨(L.setLamports source.address ((L source.address).lamports - amount)).setLamports dest
    ((L dest).lamports + amount), ?_⟩
  simp [systemTransfer, hsigner, hdata, howner, hleft, hcredited, Ledger.setLamports_lamports, hne]

/-- A wallet that holds the balance of an account can create it, and keeps the rest. -/
theorem exists_initializePdaAccount (env : Env) (space : Nat) (hempty : (L pda).data = .empty)
    (hsystem : (L pda).owner = systemProgramId) (hsigner : payer.isSigner = true)
    (hdata : (L payer.address).data = .empty) (howner : (L payer.address).owner = systemProgramId)
    (hne : pda ≠ payer.address) (hfunds : lamports ≤ (L payer.address).lamports) :
    ∃ L', initializePdaAccount env L payer pda lamports space = .ok L' ∧
      (L payer.address).lamports.toNat ≤ (L' payer.address).lamports.toNat + lamports.toNat := by
  have hfunds' := UInt64.le_iff_toNat_le.mp hfunds
  by_cases hlow : (L pda).lamports < lamports
  · -- the missing lamports come from the payer
    have hlow' := UInt64.lt_iff_toNat_lt.mp hlow
    have hmissing : (lamports - (L pda).lamports).toNat = lamports.toNat - (L pda).lamports.toNat :=
      UInt64.toNat_sub_of_le _ _ (UInt64.le_of_lt hlow)
    have hsub : checkedSub lamports (L pda).lamports = some (lamports - (L pda).lamports) := by
      rw [checkedSub_eq_some, hmissing]
      omega
    have hpays : lamports - (L pda).lamports ≤ (L payer.address).lamports := by
      rw [UInt64.le_iff_toNat_le]
      omega
    have hroom : (L pda).lamports.toNat + (lamports - (L pda).lamports).toNat < 2 ^ 64 := by
      have hbound := lamports.toNat_lt
      omega
    obtain ⟨L₁, hL₁⟩ := exists_systemTransfer hsigner hdata howner hne hpays hroom
    refine ⟨(L₁.setData pda (.raw (List.replicate space 0))).setOwner pda env.programId, ?_, ?_⟩
    · simp [initializePdaAccount, topUp, hempty, hsystem, hlow, hsub, hL₁]
    · obtain ⟨-, left, credited, hleft, -, rfl⟩ := systemTransfer_ok hL₁
      rw [Ledger.setOwner_lamports, Ledger.setData_lamports, Ledger.setLamports_lamports,
        if_neg hne.symm, Ledger.setLamports_lamports, if_pos rfl]
      omega
  · refine ⟨(L.setData pda (.raw (List.replicate space 0))).setOwner pda env.programId, ?_, ?_⟩
    · simp [initializePdaAccount, topUp, hempty, hsystem, hlow]
    · simp

end Effects

end Northstar.Portal
