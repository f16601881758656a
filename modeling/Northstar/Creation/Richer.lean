import Northstar.Game.Bystanders
import Northstar.Lib.Simulation

/-!
# Accounts that were paid to before they exist

Anybody can send lamports to an address at which Portal will create an account. This file
compares two runs of an instruction, on a ledger and on the same ledger with more lamports
at one address: what succeeds on the first succeeds on the second and leaves the same data
and the same owners. Only the balances of that address and of the payer differ.

## Main definitions

* `Richer`: the second ledger, seen from the first
* `Carries`: what goes through on the first ledger goes through on the second
* `Instruction.creates`: the instructions that create accounts

## Main results

* `Richer.initializePdaAccount`: creating an account
* `Richer.processInstruction`: every instruction of Portal's that creates accounts
* `Call.creates_prefunded`: such a call after anybody paid to a vacant address
-/

namespace Northstar.Portal

open Bytes Checked Ledger

/-- A ledger without its balances. -/
def Ledger.withoutLamports (L : Ledger) : Ledger := fun b => { L b with lamports := 0 }

/-- **More lamports at `a`**: `M` is `L` but for the balances of `a` and of the payer `p`,
which are not lower. The payer's differs only while the payer can pay, that is, while it is
the system program's. What the accounts of `S` hold together fits into a word. -/
structure Richer (S : Finset Pubkey) (p a : Pubkey) (L M : Ledger) : Prop where
  same : M.withoutLamports = L.withoutLamports
  lamports_le : ∀ b, (L b).lamports ≤ (M b).lamports
  lamports_eq : ∀ b, b ≠ a → (b = p → (L b).owner ≠ systemProgramId) →
    (M b).lamports = (L b).lamports
  supply : M.total S < 2 ^ 64

/-- An operation that goes through goes through on the richer ledger too, which stays richer. -/
abbrev Carries (S : Finset Pubkey) (p a : Pubkey) {ε : Type} (op : Ledger → Except ε Ledger)
    (L M : Ledger) : Prop :=
  Simulates (Richer S p a) (op L) (op M)

section Rules

variable {env : Env} {S : Finset Pubkey} {p a : Pubkey} {L M : Ledger} {b dest pda : Pubkey}
  {source payer : AccountMeta} {amount lamports : UInt64} {L' : Ledger}

/-- What reads no balance reads the same. -/
theorem Richer.reads {β : Type} (h : Richer S p a L M) {f : Ledger → β}
    (hf : ∀ K : Ledger, f K = f K.withoutLamports) : f M = f L := by
  rw [hf M, hf L, h.same]

theorem Richer.data (h : Richer S p a L M) (b : Pubkey) : (M b).data = (L b).data :=
  h.reads (f := fun K => (K b).data) fun _ => rfl

theorem Richer.owner (h : Richer S p a L M) (b : Pubkey) : (M b).owner = (L b).owner :=
  h.reads (f := fun K => (K b).owner) fun _ => rfl

theorem Richer.executable (h : Richer S p a L M) (b : Pubkey) :
    (M b).executable = (L b).executable :=
  h.reads (f := fun K => (K b).executable) fun _ => rfl

/-- **A step that reads no balance** is the same in both runs. -/
theorem Richer.step {ε : Type} {α γ δ : Type} {T : γ → δ → Prop} (h : Richer S p a L M)
    {x : Ledger → Except ε α} {f : α → Except ε γ} {g : α → Except ε δ}
    (hx : ∀ K : Ledger, x K = x K.withoutLamports)
    (hrest : ∀ v, x L = .ok v → Simulates T (f v) (g v)) :
    Simulates T (x L >>= f) (x M >>= g) := by
  rw [h.reads hx]
  exact simulates_same hrest

theorem withoutLamports_ext {K N : Ledger} (hdata : ∀ b, (K b).data = (N b).data)
    (howner : ∀ b, (K b).owner = (N b).owner)
    (hexecutable : ∀ b, (K b).executable = (N b).executable) :
    K.withoutLamports = N.withoutLamports := by
  funext b
  simp only [withoutLamports, hdata, howner, hexecutable]

/-- Writing data writes the same in both runs. -/
theorem Richer.setData (h : Richer S p a L M) (b : Pubkey) (d : AccountData) :
    Richer S p a (L.setData b d) (M.setData b d) where
  same := withoutLamports_ext (by simp [setData_data, h.data]) (by simp [h.owner])
    (by simp [h.executable])
  lamports_le c := by simpa using h.lamports_le c
  lamports_eq c hc hp := by simpa using h.lamports_eq c hc (by simpa using hp)
  supply := by simpa using h.supply

/-- Writing what both runs read the same. -/
theorem Richer.setData_same (h : Richer S p a L M) (b : Pubkey) (hd : d' = d) :
    Richer S p a (L.setData b d) (M.setData b d') := by
  rw [hd]
  exact h.setData b d

/-- Two accounts of `S` do not hold more than fits into a word. -/
theorem Richer.room (h : Richer S p a L M) (hb : b ∈ S) (hc : c ∈ S) (hne : b ≠ c) :
    (M b).lamports.toNat + (M c).lamports.toNat < 2 ^ 64 := by
  have hsum : ∑ x ∈ ({b, c} : Finset Pubkey), (M x).lamports.toNat ≤ M.total S := by
    apply Finset.sum_le_sum_of_subset
    intro x hx
    rcases Finset.mem_insert.mp hx with rfl | hx
    · exact hb
    · rw [Finset.mem_singleton.mp hx]
      exact hc
  rw [Finset.sum_pair hne] at hsum
  exact lt_of_le_of_lt hsum h.supply

theorem systemTransfer_payer (h : systemTransfer L source dest amount = .ok L') :
    source.isSigner = true ∧ (L source.address).data = .empty ∧
      (L source.address).owner = systemProgramId ∧ amount ≤ (L source.address).lamports := by
  simp only [systemTransfer, chain_ok, checkedSub_eq_some, exists_and_left] at h
  obtain ⟨hsigner, hdata, howner, left, hleft, -⟩ := h
  refine ⟨by simpa using hsigner, hdata, howner, ?_⟩
  rw [UInt64.le_iff_toNat_le]
  omega

/-- The balances after a transfer between two accounts. -/
theorem systemTransfer_lamports (h : systemTransfer L source dest amount = .ok L')
    (hne : dest ≠ source.address) (b : Pubkey) : (L' b).lamports.toNat =
      if b = dest then (L dest).lamports.toNat + amount.toNat
      else if b = source.address then (L source.address).lamports.toNat - amount.toNat
      else (L b).lamports.toNat := by
  obtain ⟨-, left, credited, hleft, hcredited, rfl⟩ := systemTransfer_ok h
  rw [setLamports_lamports, if_neg hne] at hcredited
  rw [setLamports_lamports]
  split
  · exact hcredited
  · rw [setLamports_lamports]
    split
    · omega
    · rfl

theorem systemTransfer_same (h : systemTransfer L source dest amount = .ok L') :
    L'.withoutLamports = L.withoutLamports :=
  withoutLamports_ext (fun _ => systemTransfer_data h) (fun _ => systemTransfer_owner h)
    fun _ => systemTransfer_executable h

/-- The two runs after balances changed. -/
theorem Richer.balances (h : Richer S p a L M) (hL : L'.withoutLamports = L.withoutLamports)
    (hM : M'.withoutLamports = M.withoutLamports)
    (hle : ∀ b, (L' b).lamports.toNat ≤ (M' b).lamports.toNat)
    (heq : ∀ b, b ≠ a → (b = p → (L b).owner ≠ systemProgramId) → (M' b).lamports.toNat = (L'
      b).lamports.toNat) (hsupply : M'.total S < 2 ^ 64) : Richer S p a L' M' where
  same := by rw [hL, hM, h.same]
  lamports_le b := UInt64.le_iff_toNat_le.mpr (hle b)
  lamports_eq b hb hp := by
    have howner : (L'.withoutLamports b).owner = (L.withoutLamports b).owner := by rw [hL]
    have howner : (L' b).owner = (L b).owner := howner
    rw [howner] at hp
    exact UInt64.toNat_inj.mp (heq b hb hp)
  supply := hsupply

/-- **A transfer** of the payer's. -/
theorem Richer.systemTransfer (h : Richer S p a L M) (hsource : source.address = p) (hp : p ∈ S)
    (hdest : dest ∈ S) (hne : dest ≠ p) :
    Simulates (Richer S p a) (systemTransfer L source dest amount)
      (systemTransfer M source dest amount) := by
  subst hsource
  intro L' hL'
  obtain ⟨hsigner, hdata, howner, hfunds⟩ := systemTransfer_payer hL'
  have hle := UInt64.le_iff_toNat_le.mp (h.lamports_le source.address)
  have hfunds := UInt64.le_iff_toNat_le.mp hfunds
  have hroom := h.room hdest hp hne
  obtain ⟨M', hM'⟩ : ∃ M', Portal.systemTransfer M source dest amount = .ok M' := by
    apply exists_systemTransfer hsigner
    · rw [h.data, hdata]
    · rw [h.owner, howner]
    · exact hne
    · rw [UInt64.le_iff_toNat_le]
      omega
    · omega
  have hL := systemTransfer_lamports hL' hne
  have hM := systemTransfer_lamports hM' hne
  refine ⟨M', hM', h.balances (systemTransfer_same hL') (systemTransfer_same hM') (fun b => ?_)
    (fun b hb hbp => ?_) ?_⟩
  · have hb := UInt64.le_iff_toNat_le.mp (h.lamports_le b)
    have hd := UInt64.le_iff_toNat_le.mp (h.lamports_le dest)
    rw [hL, hM]
    split_ifs <;> omega
  · have hpayer : b ≠ source.address := by
      rintro rfl
      exact hbp rfl howner
    have heq := h.lamports_eq b hb hbp
    rw [hL, hM]
    split
    · rename_i hbd
      rw [← hbd, heq]
    · rw [heq]
  · rw [systemTransfer_total hM' hp hdest]
    exact h.supply

/-- What raising a balance does. -/
theorem topUp_ok (h : topUp L payer pda lamports = .ok L') :
    L' = L ∧ lamports ≤ (L pda).lamports ∨
      ∃ missing, (L pda).lamports.toNat + missing.toNat = lamports.toNat ∧ 0 < missing.toNat ∧
        systemTransfer L payer pda missing = .ok L' := by
  unfold topUp at h
  split at h
  · rename_i hlow
    simp only [chain_ok, checkedSub_eq_some] at h
    obtain ⟨missing, hmissing, htransfer⟩ := h
    have hlow := UInt64.lt_iff_toNat_lt.mp hlow
    exact .inr ⟨missing, hmissing, by omega, htransfer⟩
  · rename_i hhigh
    exact .inl ⟨(Except.ok.inj h).symm, UInt64.not_lt.mp hhigh⟩

/-- **Raising a balance** at the payer's cost: what was paid before is not paid again. -/
theorem Richer.topUp (h : Richer S p a L M) (hpayer : payer.address = p) (hp : p ∈ S)
    (hpda : pda ∈ S) (hne : pda ≠ p) :
    Simulates (Richer S p a) (topUp L payer pda lamports) (topUp M payer pda lamports) := by
  subst hpayer
  intro L' hL'
  have hle := UInt64.le_iff_toNat_le.mp (h.lamports_le pda)
  have hlep := UInt64.le_iff_toNat_le.mp (h.lamports_le payer.address)
  rcases topUp_ok hL' with ⟨rfl, hhigh⟩ | ⟨missing, hmissing, hpos, htransfer⟩
  · -- nothing is missing in either run
    have hhigh := UInt64.le_iff_toNat_le.mp hhigh
    refine ⟨M, if_neg ?_, h⟩
    rw [UInt64.lt_iff_toNat_lt]
    omega
  obtain ⟨hsigner, hdata, howner, hfunds⟩ := systemTransfer_payer htransfer
  have hfunds := UInt64.le_iff_toNat_le.mp hfunds
  have hL := systemTransfer_lamports htransfer hne
  by_cases hlow : (M pda).lamports < lamports
  · -- less is missing in the second run
    have hlow' := UInt64.lt_iff_toNat_lt.mp hlow
    have hless : (lamports - (M pda).lamports).toNat = lamports.toNat - (M pda).lamports.toNat :=
      UInt64.toNat_sub_of_le _ _ (UInt64.le_of_lt hlow)
    have hroom := h.room hpda hp hne
    obtain ⟨M', hM'⟩ : ∃ M', Portal.systemTransfer M payer pda (lamports - (M pda).lamports) =
        .ok M' := by
      apply exists_systemTransfer hsigner
      · rw [h.data, hdata]
      · rw [h.owner, howner]
      · exact hne
      · rw [UInt64.le_iff_toNat_le]
        omega
      · omega
    have hsub : checkedSub lamports (M pda).lamports = some (lamports - (M pda).lamports) := by
      rw [checkedSub_eq_some]
      omega
    have hM := systemTransfer_lamports hM' hne
    refine ⟨M', ?_, h.balances (systemTransfer_same htransfer) (systemTransfer_same hM')
      (fun b => ?_) (fun b hb hbp => ?_) ?_⟩
    · unfold Portal.topUp
      rw [if_pos hlow, hsub]
      exact hM'
    · have hb := UInt64.le_iff_toNat_le.mp (h.lamports_le b)
      rw [hL, hM]
      split_ifs <;> omega
    · have hpayer : b ≠ payer.address := by
        rintro rfl
        exact hbp rfl howner
      rw [hL, hM, if_neg hpayer, if_neg hpayer, h.lamports_eq b hb hbp]
      split
      · omega
      · rfl
    · rw [systemTransfer_total hM' hp hpda]
      exact h.supply
  · -- nothing is missing any more
    have hhigh := UInt64.le_iff_toNat_le.mp (UInt64.not_lt.mp hlow)
    refine ⟨M, if_neg hlow, h.balances (systemTransfer_same htransfer) rfl (fun b => ?_)
      (fun b hb hbp => ?_) h.supply⟩
    · have hb := UInt64.le_iff_toNat_le.mp (h.lamports_le b)
      rw [hL]
      split_ifs with hbpda hbpayer
      · rw [hbpda]
        omega
      · rw [hbpayer]
        omega
      · exact hb
    · have hpayer : b ≠ payer.address := by
        rintro rfl
        exact hbp rfl howner
      have heq := h.lamports_eq b hb hbp
      rw [hL, if_neg hpayer, heq]
      split
      · rename_i hbpda
        rw [hbpda] at heq
        rw [heq] at hhigh
        omega
      · rfl

theorem Richer.setOwner (h : Richer S p a L M) (o : Pubkey) (hb : b ≠ p) :
    Richer S p a (L.setOwner b o) (M.setOwner b o) where
  same := withoutLamports_ext (by simp [h.data]) (by simp [setOwner_owner, h.owner])
    (by simp [h.executable])
  lamports_le c := by simpa using h.lamports_le c
  lamports_eq c hc hp := by
    rw [setOwner_lamports, setOwner_lamports]
    refine h.lamports_eq c hc fun hcp => ?_
    have hp := hp hcp
    rwa [setOwner_owner, if_neg (hcp ▸ hb.symm)] at hp
  supply := by simpa using h.supply

/-- **Creating an account**: what was paid to its address before does not keep it from being
created. -/
theorem Richer.initializePdaAccount (h : Richer S p a L M) (hpayer : payer.address = p) (hp : p ∈ S)
    (hpda : pda ∈ S) (hne : pda ≠ p) :
    Simulates (Richer S p a) (initializePdaAccount env L payer pda lamports space)
      (initializePdaAccount env M payer pda lamports space) := by
  unfold Portal.initializePdaAccount
  apply h.step
  · exact fun _ => rfl
  intro _ _
  apply (h.topUp hpayer hp hpda hne).bind
  intro L₁ M₁ h₁
  exact simulates_pure ((h₁.setData _ _).setOwner _ hne)

theorem Richer.storeSession (h : Richer S p a L M) (k : Pubkey) (s : Session) :
    Simulates (Richer S p a) (storeSession L k s) (storeSession M k s) := by
  unfold Portal.storeSession
  apply h.step
  · exact fun _ => rfl
  intro _ _
  exact simulates_pure (h.setData _ _)

end Rules

/-! ## The instructions that create accounts -/

/-- The payer of an instruction: one of the accounts it names, and not a derived one. -/
structure PaidBy (env : Env) (S : Finset Pubkey) (p : Pubkey) (payer : AccountMeta) : Prop where
  address : payer.address = p
  mem : p ∈ S
  notDerived : ¬env.Derived p

section Instructions

variable {env : Env} {S : Finset Pubkey} {p a : Pubkey} {L M : Ledger} {now : UInt64}
  {payer session : AccountMeta} {seeds : List (List UInt8)} {lamports gridId erSlot : UInt64}
  {feeVault record ingress delegated ownerProgram buffer account challenge mint bridgeProgram
    tokenProgram systemProgram registration : AccountMeta}
  {k : Pubkey} {s : Session}

/-- A derived account is not the payer's. -/
theorem PaidBy.ne (h : PaidBy env S p payer)
    (hb : b = (env.findProgramAddress seeds env.programId).1) : b ≠ p := by
  rintro rfl
  exact h.notDerived ⟨seeds, hb⟩

/-- Creating an account at the address that was checked before. -/
theorem Richer.create (h : Richer S p a L M) (hpaid : PaidBy env S p payer) (hpda : pda ∈ S)
    (hkey : pda = (env.findProgramAddress seeds env.programId).1) :
    Simulates (Richer S p a) (Portal.initializePdaAccount env L payer pda lamports space)
      (Portal.initializePdaAccount env M payer pda lamports space) :=
  h.initializePdaAccount hpaid.address hpaid.mem hpda (hpaid.ne hkey)

/-- The address that a guard let pass. -/
theorem eq_of_reject {ε : Type} {x y : Pubkey} {e : ε} {u : Unit}
    (h : rejectIf (x ≠ y) e = .ok u) : x = y :=
  not_not.mp (rejectIf_eq_ok.mp h)

variable (h : Richer S p a L M) (hpaid : PaidBy env S p payer)

include h hpaid

theorem Richer.openSession {args : OpenSession} {version2 : Option V2SessionInitialization}
    (hsession : session.address ∈ S) (hvault : feeVault.address ∈ S) :
    Carries S p a (openSession env now payer session feeVault args version2) L M := by
  unfold Carries Portal.openSession
  iterate 2
    apply h.step
    · exact fun _ => rfl
    intro _ _
  apply h.step
  · exact fun _ => rfl
  intro _ hkey
  apply h.step
  · exact fun _ => rfl
  intro _ hkey'
  apply (h.create hpaid hsession (eq_of_reject hkey)).bind
  intro L₁ M₁ h₁
  apply (h₁.create hpaid hvault (eq_of_reject hkey')).bind
  intro L₂ M₂ h₂
  exact simulates_pure ((h₂.setData _ _).setData _ _)

theorem Richer.openSessionV2 (hsession : session.address ∈ S) (hvault : feeVault.address ∈ S)
    (hepoch : epoch.address ∈ S) :
    Carries S p a (openSessionV2 env now payer session feeVault epoch args) L M := by
  unfold Carries Portal.openSessionV2
  apply h.step
  · exact fun _ => rfl
  intro _ _
  apply h.step
  · exact fun _ => rfl
  intro _ hguard
  simp only [rejectIf_eq_ok, not_or, not_not] at hguard
  iterate 2
    apply h.step
    · exact fun _ => rfl
    intro _ _
  have hprepare : Simulates (Richer S p a) (prepareSessionEpochV2 env L payer epoch.address)
      (prepareSessionEpochV2 env M payer epoch.address) := by
    unfold prepareSessionEpochV2
    apply simulates_ite
    · rw [h.data]
    · intro _
      exact h.create hpaid hepoch hguard.2.1
    · intro _
      exact simulates_ok h
  apply hprepare.bind
  intro L₁ M₁ h₁
  apply (h₁.openSession hpaid hsession hvault).bind
  intro L₂ M₂ h₂
  exact simulates_pure (h₂.setData _ _)

/-! ## Deposits and delegation -/

theorem Richer.prepareReceipt (hreceipt : receipt ∈ S)
    (hkey : receipt = (findDepositReceiptPda env k recipient).1) :
    Simulates (Richer S p a) (prepareReceipt env L payer k receipt recipient)
      (prepareReceipt env M payer k receipt recipient) := by
  unfold Portal.prepareReceipt
  apply simulates_ite
  · rw [h.data]
  · intro _
    apply (h.create hpaid hreceipt hkey).bind
    intro L₁ M₁ h₁
    exact simulates_pure (h₁.setData _ _)
  · intro _
    rw [h.data]
    split
    · apply simulates_same
      intro _ _
      exact simulates_pure h
    · exact simulates_error _ _

/-- The deposit of an account that was not created yet is told from its empty data. -/
theorem Richer.depositFee (ha : (L a).data = .empty) {receipt recipient : AccountMeta}
    (hreceipt : receipt.address ∈ S) :
    Carries S p a (depositFee env now payer session receipt recipient lamports) L M := by
  unfold Carries Portal.depositFee
  iterate 5
    apply h.step
    · exact fun _ => rfl
    intro _ _
  unfold deposit
  apply simulates_ite Iff.rfl
  · intro _
    exact simulates_ok h
  intro _
  apply h.step
  · exact fun _ => rfl
  intro _ hkey
  have hkey := eq_of_reject hkey
  -- an existing receipt is not the account that was paid to
  have hescrow : preEscrow env (M receipt.address) = preEscrow env (L receipt.address) := by
    unfold preEscrow
    rw [h.data]
    split
    · rfl
    · rename_i hdata
      have hne : receipt.address ≠ a := by
        intro heq
        exact hdata (heq ▸ ha)
      rw [h.lamports_eq _ hne fun heq => absurd heq (hpaid.ne hkey)]
  rw [hescrow]
  apply simulates_same
  intro escrow _
  apply simulates_same
  intro _ _
  apply (h.prepareReceipt hpaid hreceipt hkey).bind
  intro L₁ M₁ h₁
  exact h₁.systemTransfer hpaid.address hpaid.mem hreceipt (hpaid.ne hkey)

theorem Richer.appendIngressV2 (hrecord : record.address ∈ S) :
    Carries S p a (appendIngressV2 env now payer session record payload) L M := by
  unfold Carries Portal.appendIngressV2
  iterate 4
    apply h.step
    · exact fun _ => rfl
    intro _ _
  apply h.step
  · exact fun _ => rfl
  intro _ hguard
  simp only [rejectIf_eq_ok, not_or, not_not] at hguard
  apply h.step
  · exact fun _ => rfl
  intro _ _
  apply (h.create hpaid hrecord hguard.1).bind
  intro L₁ M₁ h₁
  exact simulates_pure ((h₁.setData _ _).setData _ _)

theorem Richer.depositFeeV2 {receipt recipient : AccountMeta} (hreceipt : receipt.address ∈ S)
    (hingress : ingress.address ∈ S) :
    Carries S p a (depositFeeV2 env now payer session receipt recipient ingress lamports) L M := by
  unfold Carries Portal.depositFeeV2
  iterate 4
    apply h.step
    · exact fun _ => rfl
    intro _ _
  apply h.step
  · exact fun _ => rfl
  intro _ hkey
  have hkey := eq_of_reject hkey
  iterate 2
    apply h.step
    · exact fun _ => rfl
    intro _ _
  have hprepare : Simulates (Richer S p a) (prepareReceiptV2 env L payer receipt.address)
      (prepareReceiptV2 env M payer receipt.address) := by
    unfold prepareReceiptV2
    apply simulates_ite
    · rw [h.data, h.owner]
    · intro _
      exact h.create hpaid hreceipt hkey
    · intro _
      exact simulates_ok h
  apply hprepare.bind
  intro L₁ M₁ h₁
  apply (h₁.systemTransfer hpaid.address hpaid.mem hreceipt (hpaid.ne hkey)).bind
  intro L₂ M₂ h₂
  exact (h₂.setData _ _).appendIngressV2 hpaid hingress

theorem Richer.processDelegateAccount (hrecord : record.address ∈ S) :
    Carries S p a (processDelegateAccount env payer delegated ownerProgram record buffer s)
      L M := by
  unfold Carries Portal.processDelegateAccount
  iterate 3
    apply h.step
    · exact fun _ => rfl
    intro _ _
  apply h.step
  · exact fun _ => rfl
  intro _ hkey
  iterate 3
    apply h.step
    · exact fun _ => rfl
    intro _ _
  apply (h.create hpaid hrecord (eq_of_reject hkey)).bind
  intro L₁ M₁ h₁
  apply simulates_pure
  apply (h₁.setData _ _).setData_same
  rw [(h₁.setData _ _).data]

omit h hpaid in
theorem Richer.delegateGroups (hpaid : PaidBy env S p payer) (hgroups : ∀ m ∈ groups, m.address ∈ S)
    (h : Richer S p a L M) :
    Carries S p a (delegateGroups env payer s groups) L M := by
  induction groups, L using delegateGroups.induct generalizing M with
  | case1 delegated ownerProgram record buffer rest L ih =>
    unfold Carries Portal.delegateGroups
    apply (h.processDelegateAccount hpaid (hgroups record (by simp))).bind
    intro L₁ M₁ h₁
    exact ih L₁ (fun m hm => hgroups m (by simp [hm])) h₁
  | case2 groups L hshort =>
    have hdone (K : Ledger) : Portal.delegateGroups env payer s groups K = .ok K := by
      unfold Portal.delegateGroups
      split
      · exact (hshort _ _ _ _ _ rfl).elim
      · rfl
    rw [Carries, hdone, hdone]
    exact simulates_ok h

theorem Richer.processDelegate (hrest : ∀ m ∈ rest, m.address ∈ S) :
    Carries S p a (processDelegate env (payer :: rest) gridId) L M := by
  unfold Carries Portal.processDelegate
  apply h.step
  · exact fun _ => rfl
  intro _ _
  rcases rest with _ | ⟨systemProgram, _ | ⟨session, groups⟩⟩
  · exact simulates_error _ _
  · exact simulates_error _ _
  iterate 4
    apply h.step
    · exact fun _ => rfl
    intro _ _
  exact h.delegateGroups hpaid fun m hm => hrest m (by simp [hm])

/-- The chained payload of a delegation holds the balance of the delegated account, which
is Portal's and so not the account that was paid to. -/
theorem Richer.delegateV2 (ha : (L a).owner ≠ env.programId)
    (hsystem : env.programId ≠ systemProgramId) (hrecord : record.address ∈ S)
    (hingress : ingress.address ∈ S) :
    Carries S p a (delegateV2 env now payer session account ownerProgram record buffer ingress
      gridId) L M := by
  unfold Carries Portal.delegateV2
  iterate 2
    apply h.step
    · exact fun _ => rfl
    intro _ _
  apply h.step
  · exact fun _ => rfl
  intro _ _ L' hL'
  obtain ⟨L₁, hL₁, hrest⟩ := bind_eq_ok.mp hL'
  obtain ⟨M₁, hM₁, h₁⟩ := h.processDelegateAccount hpaid hrecord L₁ hL₁
  have howner : (L account.address).owner = env.programId := by
    simp only [Portal.processDelegateAccount, chain_ok] at hL₁
    exact hL₁.2.2.1
  have howner₁ : (L₁ account.address).owner = env.programId :=
    SideStep.keeps (sideStep_processDelegateAccount (fun _ _ => trivial)
      (Scope.admits fun _ => trivial) (fun _ => trivial) Scope.counts hL₁) howner
  have hbalance : (M₁ account.address).lamports = (L₁ account.address).lamports := by
    refine h₁.lamports_eq _ ?_ fun _ => ?_
    · intro heq
      exact ha (heq ▸ howner)
    · rw [howner₁]
      exact hsystem
  have hpayload : delegationPayload env M₁ account.address record.address ownerProgram.address =
      delegationPayload env L₁ account.address record.address ownerProgram.address := by
    unfold delegationPayload
    rw [hbalance, h₁.data]
  obtain ⟨_, hsize, happend⟩ := bind_eq_ok.mp hrest
  obtain ⟨M', hM', h'⟩ := h₁.appendIngressV2 hpaid hingress L' happend
  refine ⟨M', bind_eq_ok.mpr ⟨M₁, hM₁, bind_eq_ok.mpr ⟨(), ?_, ?_⟩⟩, h'⟩
  · rw [h₁.data]
    exact hsize
  · rw [hpayload]
    exact hM'

theorem Richer.requestUndelegation {authority request : AccountMeta}
    (hrequest : request.address ∈ S) :
    Carries S p a (requestUndelegation env now payer authority delegated ownerProgram record session
      request) L M := by
  unfold Carries Portal.requestUndelegation
  iterate 7
    apply h.step
    · exact fun _ => rfl
    intro _ _
  apply h.step
  · exact fun _ => rfl
  intro _ hkey
  apply h.step
  · exact fun _ => rfl
  intro _ _
  apply (h.create hpaid hrequest (eq_of_reject hkey)).bind
  intro L₁ M₁ h₁
  exact simulates_pure (h₁.setData _ _)

/-! ## Checkpoints and challenges -/

theorem Richer.loadOrCreateCursor {cursor : Pubkey} (hcursor : cursor ∈ S) :
    Simulates (fun x y => Richer S p a x.1 y.1 ∧ y.2 = x.2)
      (loadOrCreateCursor env L payer k cursor) (loadOrCreateCursor env M payer k cursor) := by
  unfold Portal.loadOrCreateCursor
  apply simulates_ite
  · rw [h.data]
  · intro _
    unfold createCursor
    apply h.step
    · exact fun _ => rfl
    intro _ hkey
    apply (h.create hpaid hcursor (eq_of_reject hkey)).bind
    intro L₁ M₁ h₁
    exact simulates_pure ⟨h₁.setData _ _, rfl⟩
  · intro _
    apply h.step
    · exact fun _ => rfl
    intro _ _
    exact simulates_pure ⟨h, rfl⟩

theorem Richer.fundCheckpoint (hcheckpoint : checkpoint ∈ S)
    (hkey : checkpoint = (findCheckpointPda env k erSlot).1) :
    Simulates (Richer S p a) (fundCheckpoint env L payer k erSlot checkpoint cursor)
      (fundCheckpoint env M payer k erSlot checkpoint cursor) := by
  unfold Portal.fundCheckpoint
  apply simulates_ite
  · rw [h.data]
  · intro _
    apply simulates_same
    intro lamports _
    exact h.create hpaid hcheckpoint hkey
  · intro _
    iterate 2
      apply h.step
      · exact fun _ => rfl
      intro _ _
    -- the account of the finished checkpoint holds its rent in both runs
    apply simulates_reject
    · intro hrent
      rw [UInt64.not_lt] at hrent ⊢
      exact UInt64.le_trans hrent (h.lamports_le checkpoint)
    · intro _
      exact h.systemTransfer hpaid.address hpaid.mem hcheckpoint (hpaid.ne hkey)

theorem Richer.proposeCheckpoint {checkpoint cursor : AccountMeta} {args : ProposeCheckpoint}
    {version2 : Bool} (hcheckpoint : checkpoint.address ∈ S) (hcursor : cursor.address ∈ S) :
    Carries S p a (proposeCheckpoint env now payer session checkpoint cursor args version2)
      L M := by
  unfold Carries Portal.proposeCheckpoint
  iterate 5
    apply h.step
    · exact fun _ => rfl
    intro _ _
  apply (h.loadOrCreateCursor hpaid hcursor).bind
  rintro ⟨L₁, cursorState⟩ ⟨M₁, _⟩ ⟨h₁, rfl⟩
  apply simulates_same
  intro _ _
  apply simulates_same
  intro _ _
  apply simulates_same
  intro _ _
  apply simulates_same
  intro _ hkey
  apply simulates_same
  intro deadline _
  apply (h₁.fundCheckpoint hpaid hcheckpoint (eq_of_reject hkey)).bind
  intro L₂ M₂ h₂
  exact simulates_pure ((h₂.setData _ _).setData _ _)

theorem Richer.proposeCheckpointV2 {checkpoint cursor binding : AccountMeta}
    {args : ProposeCheckpointV2} (hcheckpoint : checkpoint.address ∈ S)
    (hcursor : cursor.address ∈ S) (hbinding : binding.address ∈ S) :
    Carries S p a (proposeCheckpointV2 env now payer session checkpoint cursor binding record args)
      L M := by
  unfold Carries Portal.proposeCheckpointV2
  iterate 8
    apply h.step
    · exact fun _ => rfl
    intro _ _
  apply h.step
  · exact fun _ => rfl
  intro _ hkey
  apply (h.create hpaid hbinding (eq_of_reject hkey)).bind
  intro L₁ M₁ h₁
  apply simulates_same
  intro _ _
  apply (h₁.proposeCheckpoint hpaid hcheckpoint hcursor).bind
  intro L₂ M₂ h₂
  exact simulates_pure (h₂.setData _ _)

theorem Richer.openChallenge {checkpoint daProof : AccountMeta} (hchallenge : challenge.address ∈ S)
    (hda : daProof.address ∈ S) :
    Carries S p a (openChallenge env now payer session checkpoint challenge daProof erSlot)
      L M := by
  unfold Carries Portal.openChallenge
  iterate 5
    apply h.step
    · exact fun _ => rfl
    intro _ _
  apply h.step
  · exact fun _ => rfl
  intro _ hkey
  apply h.step
  · exact fun _ => rfl
  intro _ _
  have hprepare : Simulates (Richer S p a)
      (prepareChallengeAccount env L payer checkpoint.address challenge.address)
      (prepareChallengeAccount env M payer checkpoint.address challenge.address) := by
    unfold prepareChallengeAccount
    apply simulates_ite
    · rw [h.data]
    · intro _
      exact h.create hpaid hchallenge (eq_of_reject hkey)
    · intro _
      iterate 2
        apply h.step
        · exact fun _ => rfl
        intro _ _
      exact simulates_pure h
  apply hprepare.bind
  intro L₁ M₁ h₁
  apply h₁.step
  · exact fun _ => rfl
  intro _ hkey'
  have hprepare' : Simulates (Richer S p a)
      (prepareDaAccount env L₁ payer challenge.address checkpoint.address daProof.address)
      (prepareDaAccount env M₁ payer challenge.address checkpoint.address daProof.address) := by
    unfold prepareDaAccount
    apply simulates_ite
    · rw [h₁.data]
    · intro _
      exact h₁.create hpaid hda (eq_of_reject hkey')
    · intro _
      apply h₁.step
      · exact fun _ => rfl
      intro _ _
      exact simulates_pure h₁
  apply hprepare'.bind
  intro L₂ M₂ h₂
  exact simulates_pure (((h₂.setData _ _).setData _ _).setData _ _)

theorem Richer.createStepProof {checkpoint proof : AccountMeta} {args : CreateStepProof}
    (hproof : proof.address ∈ S) :
    Carries S p a (createStepProof env now payer session checkpoint challenge proof args) L M := by
  unfold Carries Portal.createStepProof
  iterate 12
    apply h.step
    · exact fun _ => rfl
    intro _ _
  apply h.step
  · exact fun _ => rfl
  intro _ hkey
  have hprepare : Simulates (Richer S p a) (prepareStepProofAccount env L payer proof.address)
      (prepareStepProofAccount env M payer proof.address) := by
    unfold prepareStepProofAccount
    apply simulates_ite
    · rw [h.data]
    · intro _
      exact h.create hpaid hproof (eq_of_reject hkey)
    · intro _
      apply simulates_reject
      · intro hrent
        rw [not_or, UInt64.not_lt] at hrent ⊢
        rw [h.owner]
        exact ⟨hrent.1, UInt64.le_trans hrent.2 (h.lamports_le _)⟩
      · intro _
        exact simulates_pure h
  apply hprepare.bind
  intro L₁ M₁ h₁
  exact simulates_pure (h₁.setData _ _)

/-! ## Token bridges -/

theorem Richer.registerSessionBridge {sessionBridge : AccountMeta} {args : RegisterSessionBridge}
    (hbridge : sessionBridge.address ∈ S) :
    Carries S p a (registerSessionBridge env payer session sessionBridge mint bridgeProgram
      tokenProgram systemProgram args) L M := by
  unfold Carries Portal.registerSessionBridge
  iterate 5
    apply h.step
    · exact fun _ => rfl
    intro _ _
  apply h.step
  · exact fun _ => rfl
  intro _ hkey
  iterate 5
    apply h.step
    · exact fun _ => rfl
    intro _ _
  unfold installBridge
  apply simulates_ite
  · rw [h.data]
  · intro _
    apply (h.create hpaid hbridge (eq_of_reject hkey)).bind
    intro L₁ M₁ h₁
    exact simulates_pure (h₁.setData _ _)
  · intro _
    iterate 2
      apply h.step
      · exact fun _ => rfl
      intro _ _
    exact simulates_pure h

theorem Richer.registerSessionBridgeV2 (hregistration : registration.address ∈ S) :
    Carries S p a (registerSessionBridgeV2 env now payer session registration mint bridgeProgram
      tokenProgram systemProgram args) L M := by
  unfold Carries Portal.registerSessionBridgeV2
  iterate 8
    apply h.step
    · exact fun _ => rfl
    intro _ _
  apply h.step
  · exact fun _ => rfl
  intro _ hguard
  simp only [rejectIf_eq_ok, not_or, not_not] at hguard
  apply simulates_ite
  · rw [h.data]
  · intro _
    apply (h.create hpaid hregistration hguard.1).bind
    intro L₁ M₁ h₁
    exact simulates_pure (h₁.setData _ _)
  · intro _
    iterate 2
      apply h.step
      · exact fun _ => rfl
      intro _ _
    exact simulates_pure h

theorem Richer.accumulateTokenWithdrawal {authorization : AccountMeta}
    {accounts : TokenWithdrawalAccounts} {args : TokenWithdrawal}
    (hauthorization : authorization.address ∈ S) :
    Carries S p a (accumulateTokenWithdrawal env payer session authorization accounts args)
      L M := by
  unfold Carries Portal.accumulateTokenWithdrawal
  iterate 6
    apply h.step
    · exact fun _ => rfl
    intro _ _
  apply h.step
  · exact fun _ => rfl
  intro _ hkey
  unfold installAuthorization
  apply simulates_ite
  · rw [h.data]
  · intro _
    apply (h.create hpaid hauthorization (eq_of_reject hkey)).bind
    intro L₁ M₁ h₁
    exact (h₁.setData _ _).storeSession _ _
  · intro _
    iterate 2
      apply h.step
      · exact fun _ => rfl
      intro _ _
    exact simulates_pure h

theorem Richer.recordTokenDepositV2 (hingress : ingress.address ∈ S) :
    Carries S p a (recordTokenDepositV2 env now payer systemProgram session registration vault
      account delegation receipt origin ingress amount) L M := by
  unfold Carries Portal.recordTokenDepositV2
  iterate 14
    apply h.step
    · exact fun _ => rfl
    intro _ _
  exact h.appendIngressV2 hpaid hingress

end Instructions

/-! ## Every creating instruction -/

/-- **The instructions that create accounts.** The first account of each of them pays. -/
def Instruction.creates : Instruction → Bool
  | .openSession _ | .depositFee _ | .delegate _ | .proposeCheckpoint _ | .openChallenge _
  | .createStepProof _ | .registerSessionBridge _ | .accumulateTokenWithdrawal _
  | .requestUndelegation | .openSessionV2 _ | .delegateV2 _ | .depositFeeV2 _
  | .proposeCheckpointV2 _ | .registerSessionBridgeV2 _ | .recordTokenDepositV2 _ => true
  | _ => false

section Dispatch

variable {env : Env} {S : Finset Pubkey} {p a : Pubkey} {L M : Ledger} {now : UInt64}
  {accounts : List AccountMeta} {i : Instruction} {m : AccountMeta} {L' : Ledger} {n : UInt64}

theorem simulates_onlyWith {R : Ledger → Ledger → Prop} (h : Simulates R x y) :
    Simulates R (onlyWith feature x) (onlyWith feature y) := by
  unfold onlyWith
  apply simulates_ite Iff.rfl
  · intro _
    exact h
  · intro _
    exact simulates_error _ _

/-- **Portal creates accounts that were paid to before.** -/
theorem Richer.processInstruction (h : Richer S p a L M)
    (hpaid : ∀ m, accounts.head? = some m → PaidBy env S p m) (hdata : (L a).data = .empty)
    (howner : (L a).owner = systemProgramId) (hsystem : env.programId ≠ systemProgramId)
    (hmem : ∀ m ∈ accounts, m.address ∈ S) (hi : i.creates = true) :
    Carries S p a (processInstruction env now accounts i) L M := by
  unfold Carries
  cases i with
  | openSession args =>
    dsimp only [Portal.processInstruction, processOpenSessionInitialized]
    split
    · exact h.openSession (hpaid _ rfl) (hmem _ (by simp)) (hmem _ (by simp))
    · exact simulates_error _ _
  | depositFee lamports =>
    dsimp only [Portal.processInstruction, processDepositFee]
    split
    · exact h.depositFee (hpaid _ rfl) hdata (hmem _ (by simp))
    · exact simulates_error _ _
  | delegate gridId =>
    dsimp only [Portal.processInstruction]
    cases accounts with
    | nil => exact simulates_error _ _
    | cons payer rest => exact h.processDelegate (hpaid _ rfl) fun m hm => hmem m (by simp [hm])
  | proposeCheckpoint args =>
    dsimp only [Portal.processInstruction, processProposeCheckpointVersioned]
    apply simulates_same
    intro _ _
    split
    · exact h.proposeCheckpoint (hpaid _ rfl) (hmem _ (by simp)) (hmem _ (by simp))
    · exact simulates_error _ _
  | openChallenge erSlot =>
    dsimp only [Portal.processInstruction, processOpenChallenge]
    split
    · exact h.openChallenge (hpaid _ rfl) (hmem _ (by simp)) (hmem _ (by simp))
    · exact simulates_error _ _
  | createStepProof args =>
    dsimp only [Portal.processInstruction, processCreateStepProof]
    split
    · exact h.createStepProof (hpaid _ rfl) (hmem _ (by simp))
    · exact simulates_error _ _
  | registerSessionBridge args =>
    dsimp only [Portal.processInstruction, processRegisterSessionBridge]
    split
    · exact h.registerSessionBridge (hpaid _ rfl) (hmem _ (by simp))
    · exact simulates_error _ _
  | accumulateTokenWithdrawal args =>
    dsimp only [Portal.processInstruction, processAccumulateTokenWithdrawal]
    split
    · exact h.accumulateTokenWithdrawal (hpaid _ rfl) (hmem _ (by simp))
    · exact simulates_error _ _
  | requestUndelegation =>
    dsimp only [Portal.processInstruction, processRequestUndelegation]
    split
    · exact h.requestUndelegation (hpaid _ rfl) (hmem _ (by simp))
    · exact simulates_error _ _
  | openSessionV2 args =>
    apply simulates_onlyWith
    unfold processOpenSessionV2
    split
    · exact h.openSessionV2 (hpaid _ rfl) (hmem _ (by simp)) (hmem _ (by simp)) (hmem _ (by simp))
    · exact simulates_error _ _
  | delegateV2 gridId =>
    apply simulates_onlyWith
    unfold processDelegateV2
    split
    · exact h.delegateV2 (hpaid _ rfl) (howner.trans_ne hsystem.symm) hsystem (hmem _ (by simp))
        (hmem _ (by simp))
    · exact simulates_error _ _
  | depositFeeV2 lamports =>
    apply simulates_onlyWith
    unfold processDepositFeeV2
    split
    · exact h.depositFeeV2 (hpaid _ rfl) (hmem _ (by simp)) (hmem _ (by simp))
    · exact simulates_error _ _
  | proposeCheckpointV2 args =>
    apply simulates_onlyWith
    unfold processProposeCheckpointV2
    split
    · exact h.proposeCheckpointV2 (hpaid _ rfl) (hmem _ (by simp)) (hmem _ (by simp))
        (hmem _ (by simp))
    · exact simulates_error _ _
  | registerSessionBridgeV2 args =>
    apply simulates_onlyWith
    unfold processRegisterSessionBridgeV2
    split
    · exact h.registerSessionBridgeV2 (hpaid _ rfl) (hmem _ (by simp))
    · exact simulates_error _ _
  | recordTokenDepositV2 amount =>
    apply simulates_onlyWith
    unfold processRecordTokenDepositV2
    split
    · exact h.recordTokenDepositV2 (hpaid _ rfl) (hmem _ (by simp))
    · exact simulates_error _ _
  | _ => cases hi

theorem signer_of_guard {α : Type} {e : ProgramError} {f : Unit → Except ProgramError α} {v : α}
    (h : (rejectIf (m.isSigner = false) e >>= f) = .ok v) : m.isSigner = true := by
  obtain ⟨_, hguard, -⟩ := bind_eq_ok.mp h
  simpa using rejectIf_eq_ok.mp hguard

theorem signer_of_delegateGroups {s : Session} {payer : AccountMeta} {groups : List AccountMeta}
    (hgroups : 4 ≤ groups.length) (h : Portal.delegateGroups env payer s groups L = .ok L') :
    payer.isSigner = true := by
  rcases groups with _ | ⟨delegated, _ | ⟨ownerProgram, _ | ⟨record, _ | ⟨buffer, rest⟩⟩⟩⟩
  iterate 4
    simp at hgroups
  obtain ⟨L₁, hL₁, -⟩ := bind_eq_ok.mp h
  exact signer_of_guard hL₁

/-- **Whoever pays signs.** -/
theorem signer_of_creates (hi : i.creates = true)
    (h : Portal.processInstruction env now accounts i L = .ok L') (hm : accounts.head? = some m) :
    m.isSigner = true := by
  cases i with
  | openSession | depositFee | openChallenge | createStepProof | registerSessionBridge =>
    dsimp only [Portal.processInstruction, processOpenSessionInitialized, processDepositFee,
      processOpenChallenge, processCreateStepProof, processRegisterSessionBridge] at h
    split at h
    · cases hm
      exact signer_of_guard h
    · cases h
  | delegate gridId =>
    simp only [Portal.processInstruction, Portal.processDelegate, bind_eq_ok, rejectIf_eq_ok,
      exists_const, not_lt] at h
    obtain ⟨hlength, h⟩ := h
    split at h
    · cases hm
      simp only [bind_eq_ok] at h
      obtain ⟨_, -, _, -, _, -, _, -, hgroups⟩ := h
      apply signer_of_delegateGroups _ hgroups
      simp only [List.length_cons] at hlength
      omega
    · cases h
  | proposeCheckpoint args =>
    dsimp only [Portal.processInstruction, processProposeCheckpointVersioned] at h
    obtain ⟨_, -, h⟩ := bind_eq_ok.mp h
    split at h
    · cases hm
      exact signer_of_guard h
    · cases h
  | accumulateTokenWithdrawal args =>
    dsimp only [Portal.processInstruction, processAccumulateTokenWithdrawal] at h
    split at h
    · cases hm
      simp only [Portal.accumulateTokenWithdrawal, bind_eq_ok] at h
      obtain ⟨_, -, _, -, _, -, _, hvalidator, -⟩ := h
      simp only [requireValidator, rejectIf_eq_ok, not_or] at hvalidator
      simpa using hvalidator.1
    · cases h
  | requestUndelegation =>
    dsimp only [Portal.processInstruction, processRequestUndelegation] at h
    split at h
    · cases hm
      obtain ⟨_, hguard, -⟩ := bind_eq_ok.mp h
      simp only [rejectIf_eq_ok, not_or] at hguard
      simpa using hguard.1
    · cases h
  | openSessionV2 args =>
    obtain ⟨-, h⟩ := onlyWith_ok h
    unfold processOpenSessionV2 at h
    split at h
    · cases hm
      simp only [Portal.openSessionV2, bind_eq_ok, rejectIf_eq_ok, not_or] at h
      obtain ⟨_, -, _, hguard, -⟩ := h
      simpa using hguard.1
    · cases h
  | delegateV2 gridId =>
    obtain ⟨-, h⟩ := onlyWith_ok h
    unfold processDelegateV2 at h
    split at h
    · cases hm
      simp only [Portal.delegateV2, bind_eq_ok] at h
      obtain ⟨_, -, _, -, _, -, _, hdelegate, -⟩ := h
      exact signer_of_guard hdelegate
    · cases h
  | depositFeeV2 lamports =>
    obtain ⟨-, h⟩ := onlyWith_ok h
    unfold processDepositFeeV2 at h
    split at h
    · cases hm
      exact signer_of_guard h
    · cases h
  | proposeCheckpointV2 args =>
    obtain ⟨-, h⟩ := onlyWith_ok h
    unfold processProposeCheckpointV2 at h
    split at h
    · cases hm
      simp only [Portal.proposeCheckpointV2, bind_eq_ok] at h
      obtain ⟨_, -, _, -, _, -, _, -, _, -, _, -, _, -, _, -, _, -, _, -, _, -, _, hpropose, -⟩ := h
      exact signer_of_guard hpropose
    · cases h
  | registerSessionBridgeV2 args =>
    obtain ⟨-, h⟩ := onlyWith_ok h
    unfold processRegisterSessionBridgeV2 at h
    split at h
    · cases hm
      simp only [Portal.registerSessionBridgeV2, bind_eq_ok, rejectIf_eq_ok, not_or] at h
      obtain ⟨_, -, _, hguard, -⟩ := h
      simpa using hguard.1
    · cases h
  | recordTokenDepositV2 amount =>
    obtain ⟨-, h⟩ := onlyWith_ok h
    unfold processRecordTokenDepositV2 at h
    split at h
    · cases hm
      obtain ⟨_, hguard, -⟩ := bind_eq_ok.mp h
      simp only [rejectIf_eq_ok, not_or] at hguard
      simpa using hguard.1
    · cases h
  | _ => cases hi

/-! ## Paying to an address before its account exists -/

/-- The ledger after `n` lamports were sent to `a`. -/
def Ledger.prefund (L : Ledger) (a : Pubkey) (n : UInt64) : Ledger :=
  L.setLamports a ((L a).lamports + n)

theorem richer_prefund (hfit : (L a).lamports.toNat + n.toNat < 2 ^ 64)
    (hsupply : (L.prefund a n).total S < 2 ^ 64) : Richer S p a L (L.prefund a n) where
  same := withoutLamports_ext (by simp [prefund]) (by simp [prefund]) (by simp [prefund])
  lamports_le b := by
    rw [prefund, setLamports_lamports]
    split
    · rename_i hb
      rw [hb, UInt64.le_iff_toNat_le, UInt64.toNat_add, Nat.mod_eq_of_lt hfit]
      omega
    · exact UInt64.le_refl _
  lamports_eq b hb _ := by
    rw [prefund, setLamports_lamports, if_neg hb]
  supply := hsupply

/-- The payer of a call, if it names any account. -/
def Call.payer (c : Call) : Pubkey := (c.accounts.head?.map AccountMeta.address).getD zero32

/-- **What a creating call of Portal's does, it does after anybody paid to a vacant
address**: the same data, the same owners, and the same balances but for that address and
the payer. -/
theorem Call.creates_prefunded (hc : c.instruction.creates = true)
    (hadm : Admissible env L (.call c)) (hsystem : env.programId ≠ systemProgramId)
    (ha : Vacant L a) (hfit : (L a).lamports.toNat + n.toNat < 2 ^ 64)
    (hsupply : (L.prefund a n).total c.addresses < 2 ^ 64) (h : c.result env L = .ok L') :
    ∃ M', c.result env (L.prefund a n) = .ok M' ∧ Richer c.addresses c.payer a L' M' := by
  have hmem : ∀ m ∈ c.accounts, m.address ∈ c.addresses := fun m hm =>
    (Call.named hadm subset_rfl m hm).mem
  refine (richer_prefund hfit hsupply).processInstruction (fun m hm => ?_) ha.1 ha.2 hsystem hmem
    hc L' h
  have hmaccounts : m ∈ c.accounts := List.mem_of_head? hm
  have hpayer : m.address = c.payer := by simp [Call.payer, hm]
  exact ⟨hpayer, hpayer ▸ hmem m hmaccounts, hpayer ▸ hadm m hmaccounts (signer_of_creates hc h hm)⟩

end Dispatch

end Northstar.Portal
