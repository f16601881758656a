import Northstar.Bridge.Localbridge
import Northstar.Continuity.Heads
import Northstar.Creation.Bridge

/-!
# Prefunding

Anybody can send lamports to the address of an account that Portal or the bridge has yet to
create. The creating instruction has to succeed all the same, and those who read the chain
have to see that the account does not exist yet.

Portal creates its accounts whatever their addresses hold. The bridge does so too, but for its
vaults, its rollup accounts and its deposit receipts: there a balance stands for an existing
account. The uploader of proofs reads an address with a balance as a broken account.

## Main definitions

* `Creation`: the calls that create accounts, of both programs
* `Creation.guarded`: the address whose balance stands for an account
* `state`: what the uploader of proofs reads

## Main results

* `prefunding_harmless_iff`: when lamports sent before change nothing
-/

namespace Northstar.Bridge

open Northstar.Portal Northstar.Runtime Bytes Checked Ledger

/-! ## Calls that create accounts -/

/-- **A call of Portal or of the bridge.** -/
inductive Creation
  | portal (call : Portal.Call)
  | bridge (call : Call)
  | delegation (slot : UInt64) (accounts : List AccountMeta) (instruction : DelegationInstruction)

namespace Creation

def accounts : Creation → List AccountMeta
  | .portal c => c.accounts
  | .bridge c => c.accounts
  | .delegation _ accounts _ => accounts

def result (d : Deployment) (c : Creation) (L : Ledger) : Except BridgeError Ledger :=
  match c with
  | .portal c => called (c.result d.portal L)
  | .bridge c => c.result d L
  | .delegation slot accounts instruction =>
    processDelegationInstruction d slot accounts instruction L

/-- The call creates accounts. -/
def Creates : Creation → Prop
  | .portal c => c.instruction.creates = true
  | .bridge c => match c.instruction with
    | .initializeVault | .initializeErTokenAccount _ | .deposit _ _ => True
    | _ => False
  | .delegation .. => True

/-- **The address whose balance stands for an account**: the call takes the account to exist
as soon as its address holds lamports. -/
def guarded : Creation → Option Pubkey
  | .portal _ => none
  | .bridge c => match c.instruction with
    | .initializeVault | .initializeErTokenAccount _ => (c.accounts[1]?).map AccountMeta.address
    | .deposit _ _ => (c.accounts[10]?).map AccountMeta.address
    | _ => none
  | .delegation _ accounts instruction => match instruction with
    | .delegateErTokenAccount _ => (accounts[10]?).map AccountMeta.address
    | _ => none

/-- The first account of a call pays. -/
def payer (c : Creation) : Pubkey := (c.accounts.head?.map AccountMeta.address).getD zero32

/-- The accounts of a call. -/
def addresses (c : Creation) : Finset Pubkey :=
  insert systemProgramId (c.accounts.map AccountMeta.address).toFinset

/-- Nobody signs for a derived address of either program. -/
def Signed (d : Deployment) (c : Creation) : Prop :=
  ∀ m ∈ c.accounts, m.isSigner = true → ¬d.portal.Derived m.address ∧ ¬d.own.Derived m.address

end Creation

open Creation

/-- An address that nothing was ever sent to. -/
structure Unused (L : Ledger) (a : Pubkey) : Prop where
  vacant : Vacant L a
  lamports : (L a).lamports = 0

/-! ## What the uploader of proofs reads -/

/-- How the uploader fails to read an account. -/
inductive UploadError
  | ownerOrDiscriminator
  | encoding
  deriving DecidableEq

/-- The record at `key`, or none before its account is created. -/
def state {T : Type} (tryFromSlice : List UInt8 → Option T) (bank : Ledger) (portal key : Pubkey)
    (discriminator : Vector UInt8 8) : Except UploadError (Option T) :=
  match getAccount bank key with
  | none => .ok none
  | some account => do
    rejectIf (account.owner ≠ portal ∨
      discriminator.toList.isPrefixOf account.data.bytes = false) .ownerOrDiscriminator
    let record ← okOr (tryFromSlice account.data.bytes) .encoding
    return some record

/-- The accounts that the uploader reads: those of a challenged checkpoint. -/
def Uploads (env : Env) (a : Pubkey) : Prop := ∃ g, g ≠ .feeVault ∧ a = env.address g

section Reading

variable {env : Env} {L : Ledger} {a : Pubkey} {n : UInt64}

theorem prefund_zero (L : Ledger) (a : Pubkey) : L.prefund a 0 = L := by
  unfold prefund setLamports
  rw [UInt64.add_zero]
  exact Function.update_eq_self a L

theorem lamports_prefund (ha : Unused L a) : (L.prefund a n a).lamports = n := by
  rw [prefund, setLamports_lamports, if_pos rfl, ha.lamports, UInt64.zero_add]

/-- **The uploader sees that an account does not exist yet** only as long as nothing was sent
to its address. -/
theorem state_prefund_iff (hsystem : env.programId ≠ systemProgramId) (ha : Unused L a) {T : Type}
    (tryFromSlice : List UInt8 → Option T) (discriminator : Vector UInt8 8) :
    state tryFromSlice (L.prefund a n) env.programId a discriminator = .ok none ↔ n = 0 := by
  have hdata : (L.prefund a n a).data = .empty := by
    rw [prefund, setLamports_data]
    exact ha.vacant.1
  have howner : (L.prefund a n a).owner = systemProgramId := by
    rw [prefund, setLamports_owner]
    exact ha.vacant.2
  unfold state getAccount
  rw [lamports_prefund ha]
  by_cases hn : n = 0
  · rw [if_pos ⟨hn, hdata⟩]
    exact iff_of_true rfl hn
  · rw [if_neg fun hnone => hn hnone.1]
    refine iff_of_false (fun hread => ?_) hn
    obtain ⟨_, hguard, -⟩ := bind_eq_ok.mp hread
    rw [rejectIf_eq_ok, howner, not_or, not_not] at hguard
    exact hsystem hguard.1.symm

end Reading

/-! ## Creating accounts -/

section Creating

variable {d : Deployment} {c : Creation} {L L' M : Ledger} {a : Pubkey} {n : UInt64}

/-- The first account pays, and signs. -/
theorem Creation.Signed.paying (h : c.Signed d) (hm : c.accounts.head? = some m)
    (hsigner : m.isSigner = true) : Paying d c.addresses c.payer m := by
  have hmem : m ∈ c.accounts := List.mem_of_head? hm
  have hpayer : m.address = c.payer := by simp [payer, hm]
  have haddress : c.payer ∈ c.addresses := by
    rw [← hpayer, addresses, Finset.mem_insert, List.mem_toFinset]
    exact .inr (List.mem_map_of_mem hmem)
  have hderived := h m hmem hsigner
  rw [hpayer] at hderived
  exact ⟨⟨hpayer, haddress, hderived.1⟩, ⟨hpayer, haddress, hderived.2⟩⟩

theorem Creation.mem_addresses (hm : m ∈ c.accounts) :
    m.address ∈ c.addresses := by
  rw [addresses, Finset.mem_insert, List.mem_toFinset]
  exact .inr (List.mem_map_of_mem hm)

/-- An account that a call may leave out is the system program's. -/
theorem Creation.mem_getD {rest : List AccountMeta} (hrest : ∀ m ∈ rest, m ∈ c.accounts) (i : Nat) :
    (rest.getD i ⟨systemProgramId, false, false⟩).address ∈ c.addresses := by
  rw [List.getD_eq_getElem?_getD]
  cases hi : rest[i]? with
  | none => exact Finset.mem_insert_self _ _
  | some m => exact mem_addresses (hrest m (List.mem_of_getElem? hi))

theorem signer_of_required {α : Type} {m : AccountMeta} {e : BridgeError}
    {f : Unit → Except BridgeError α} {v : α}
    (h : (rejectIf (m.isSigner = false) e >>= f) = .ok v) : m.isSigner = true := by
  obtain ⟨_, hguard, -⟩ := bind_eq_ok.mp h
  simpa using rejectIf_eq_ok.mp hguard

/-- The calls of the bridge that open accounts or deposit. -/
theorem Creation.richer_bridge (hd : d.Lawful) (ht : d.TokensOnly) {call : Call}
    (hc : (bridge call).Creates) (hsigned : (bridge call).Signed d)
    (ha : Vacant L a)
    (hricher : Richer (bridge call).addresses (bridge call).payer a L M)
    (hguarded : (bridge call).guarded ≠ some a) (h : call.result d L = .ok L') :
    ∃ M', call.result d M = .ok M' ∧
      Richer (bridge call).addresses (bridge call).payer a L' M' := by
  have hmem {m : AccountMeta} := mem_addresses (c := .bridge call) (m := m)
  have hpays {m : AccountMeta} := hsigned.paying (m := m)
  obtain ⟨slot, accounts, instruction⟩ := call
  simp only [Call.result, processInstruction] at h
  split at h
  · refine simulates_initializeVault hricher (hpays rfl (signer_of_required h)) (hmem ?_) ?_ L' h
    · exact .tail _ (.head _)
    · rintro rfl
      exact hguarded rfl
  · refine simulates_initializeErTokenAccount hricher (hpays rfl (signer_of_required h)) (hmem ?_)
      ?_ L' h
    · exact .tail _ (.head _)
    · rintro rfl
      exact hguarded rfl
  · unfold processDeposit at h
    split at h
    · refine simulates_deposit hd ht hricher ?_ (hpays rfl (signer_of_required h)) (hmem ?_)
        (hmem ?_) (hmem ?_) ?_ ?_ L' h
      · rw [ha.2]
        exact ht.ne_system.symm
      · simp [accounts]
      · simp [accounts]
      · simp [accounts]
      · apply mem_getD
        intro m hm
        simp [accounts, hm]
      · rintro rfl
        exact hguarded rfl
    · cases h
  iterate 4
    · cases hc
  · cases h

/-- The calls of the bridge that move rollup accounts or credit them. -/
theorem Creation.sameBut_delegation (hd : d.Lawful)
    (hsystem : d.portal.programId ≠ systemProgramId) {slot : UInt64} {accounts : List AccountMeta}
    {instruction : DelegationInstruction}
    (hsigned : (delegation slot accounts instruction).Signed d) (ha : Vacant L a)
    (hricher : Richer (delegation slot accounts instruction).addresses
      (delegation slot accounts instruction).payer a L M)
    (hguarded : (delegation slot accounts instruction).guarded ≠ some a)
    (h : processDelegationInstruction d slot accounts instruction L = .ok L') :
    ∃ M', processDelegationInstruction d slot accounts instruction M = .ok M' ∧
      SameBut (delegation slot accounts instruction).payer a L' M' := by
  have hmem {m : AccountMeta} :=
    mem_addresses (c := .delegation slot accounts instruction) (m := m)
  have hpays {m : AccountMeta} := hsigned.paying (m := m)
  unfold processDelegationInstruction at h
  split at h
  · dsimp only [processDelegationInstruction]
    split at h
    · cases h
    rename_i hmore
    rw [if_neg hmore]
    refine simulates_delegateErTokenAccount hd hsystem hricher ha.2
      (hpays rfl (signer_of_required h)) ?_ ?_ L' h
    · intro m hm
      simp only [DelegateAccounts.metas, List.mem_cons, List.not_mem_nil, or_false] at hm
      rcases hm with hm | hm | hm | hm | hm | hm | hm | hm | hm | hm | hm | hm | rfl
      iterate 12
        · exact hmem (by simp [Creation.accounts, hm])
      apply mem_getD
      intro m hm
      simp [Creation.accounts, hm]
    · rintro rfl
      exact hguarded rfl
  · dsimp only [processDelegationInstruction]
    split at h
    · cases h
    rename_i hfeature
    rw [if_neg hfeature]
    refine simulates_undelegateErTokenAccount hricher (hpays rfl (signer_of_required h)) ha.1
      (hmem ?_) (hmem ?_) (hmem ?_) L' h
    · simp [Creation.accounts]
    · simp [Creation.accounts]
    · simp [Creation.accounts]
  · dsimp only [processDelegationInstruction]
    split at h
    · cases h
    rename_i hfeature
    rw [if_neg hfeature]
    refine ((simulates_requestUndelegation hricher (hpays rfl (signer_of_required h))
      (hmem ?_)).imp fun _ _ => sameBut_of_richer) L' h
    simp [Creation.accounts]
  · refine ((simulates_applyTokenDeposit hd hricher ha.2 (hpays rfl (signer_of_required h))
      (hmem ?_)).imp fun _ _ => sameBut_of_richer) L' h
    simp [Creation.accounts]
  · cases h

/-- A deposit fails when lamports were sent to the address of its receipt. -/
theorem deposit_blocked (hd : d.Lawful) (ht : d.TokensOnly) {now : UInt64}
    {accounts : DepositAccounts} {ingress : IngressAccounts} {amount : UInt64} {decimals : UInt8}
    (hlamports : (M accounts.depositReceipt.address).lamports ≠ 0)
    (howner : (M accounts.depositReceipt.address).owner = systemProgramId) :
    deposit d now accounts ingress amount decimals M ≠ .ok L' := by
  intro h
  simp only [deposit, creditReceipt, bind_eq_ok] at h
  obtain ⟨_, -, _, -, _, -, _, -, _, -, _, -, _, -, _, -, _, -, _, -, _, -, _, -, M₁, htransfer, _,
    ⟨_, hprepare, -⟩, -⟩ := h
  have hmoved := hd.moved _ _ _ htransfer
  -- the transfer leaves the receipt alone, which is not an account of the token program
  have hsame : M₁ accounts.depositReceipt.address = M accounts.depositReceipt.address := by
    apply hmoved.others
    · intro heq
      rw [heq, hmoved.source.1] at howner
      exact ht.ne_system howner
    · intro heq
      rw [heq, hmoved.destination.1] at howner
      exact ht.ne_system howner
  rw [prepareReceipt, hsame, if_neg hlamports, howner, if_neg hd.ne_system.symm] at hprepare
  cases hprepare

/-- A delegation fails when lamports were sent to the address of the receipt. -/
theorem delegate_blocked (hd : d.Lawful) {now : UInt64} {accounts : DelegateAccounts}
    {gridId : UInt64} (hlamports : (M accounts.receipt.address).lamports ≠ 0)
    (howner : (M accounts.receipt.address).owner = systemProgramId) :
    delegateErTokenAccount d now accounts gridId M ≠ .ok L' := by
  intro h
  simp only [delegateErTokenAccount, initializeOrigin, receiptBalance, bind_eq_ok] at h
  obtain ⟨_, -, _, -, _, -, _, -, _, -, _, -, _, -, _, -, _, -, _, ⟨balance, ⟨_, -, hbalance⟩, -⟩,
    -⟩ := h
  rw [if_neg hlamports] at hbalance
  obtain ⟨_, hguard, -⟩ := bind_eq_ok.mp hbalance
  rw [rejectIf_eq_ok, howner, not_not] at hguard
  exact hd.ne_system hguard.symm

/-- **A guarded address with lamports blocks the call.** -/
theorem Creation.blocked (hd : d.Lawful) (ht : d.TokensOnly) (hguarded : c.guarded = some a)
    (hlamports : (M a).lamports ≠ 0) (howner : (M a).owner = systemProgramId) :
    c.result d M ≠ .ok L' := by
  intro h
  match c with
  | .portal call => cases hguarded
  | .bridge ⟨slot, accounts, instruction⟩ =>
    simp only [result, Call.result, processInstruction] at h
    split at h
    · cases hguarded
      simp only [initializeVault, bind_eq_ok, rejectIf_eq_ok, not_not] at h
      obtain ⟨_, -, _, -, _, -, _, -, _, -, _, -, _, -, _, hzero, -⟩ := h
      exact hlamports hzero
    · cases hguarded
      simp only [initializeErTokenAccount, bind_eq_ok, rejectIf_eq_ok, not_not] at h
      obtain ⟨_, -, _, -, _, -, _, -, _, hzero, -⟩ := h
      exact hlamports hzero
    · unfold processDeposit at h
      split at h
      · cases hguarded
        exact deposit_blocked hd ht hlamports howner h
      · cases h
    iterate 4
      · cases hguarded
    · cases h
  | .delegation slot accounts instruction =>
    simp only [result, processDelegationInstruction] at h
    split at h
    · cases hguarded
      split at h
      · cases h
      · exact delegate_blocked hd hlamports howner h
    iterate 3
      · cases hguarded
    · cases h

theorem Creation.sameBut_prefund (hd : d.Lawful) (ht : d.TokensOnly)
    (hsystem : d.portal.programId ≠ systemProgramId) (hc : c.Creates) (hsigned : c.Signed d)
    (ha : Unused L a) (hsupply : (L.prefund a n).total c.addresses < 2 ^ 64)
    (hguarded : c.guarded ≠ some a) (h : c.result d L = .ok L') :
    ∃ M', c.result d (L.prefund a n) = .ok M' ∧ SameBut c.payer a L' M' := by
  have hfit : (L a).lamports.toNat + n.toNat < 2 ^ 64 := by
    rw [ha.lamports]
    simpa using n.toNat_lt
  match c with
  | .portal call =>
    have hsubset : call.addresses ⊆ (portal call).addresses := Finset.subset_insert _ _
    have hless : (L.prefund a n).total call.addresses < 2 ^ 64 :=
      lt_of_le_of_lt (Finset.sum_le_sum_of_subset hsubset) hsupply
    obtain ⟨M', hM', hricher⟩ := call.creates_prefunded hc
      (fun m hm hs => (hsigned m hm hs).1) hsystem ha.vacant hfit hless (called_eq_ok.mp h)
    exact ⟨M', called_eq_ok.mpr hM', sameBut_of_richer hricher⟩
  | .bridge call =>
    obtain ⟨M', hM', hricher⟩ := richer_bridge hd ht hc hsigned ha.vacant
      (richer_prefund hfit hsupply) hguarded h
    exact ⟨M', hM', sameBut_of_richer hricher⟩
  | .delegation slot accounts instruction =>
    exact sameBut_delegation hd hsystem hsigned ha.vacant (richer_prefund hfit hsupply)
      hguarded h

theorem SameBut.refl (p a : Pubkey) (L : Ledger) : SameBut p a L L :=
  ⟨rfl, fun _ => UInt64.le_refl _, fun _ _ _ => rfl⟩

/-- **Lamports sent to the address of an account before it is created** neither keep the
creating call from doing what it does without them, nor make the account appear to the
uploader of proofs, exactly when none were sent, or the call guards another address and the
uploader does not read this one. -/
theorem prefunding_harmless_iff (hd : d.Lawful) (ht : d.TokensOnly)
    (hsystem : d.portal.programId ≠ systemProgramId) (hc : c.Creates) (hsigned : c.Signed d)
    (h : c.result d L = .ok L') (ha : Unused L a)
    (hsupply : (L.prefund a n).total c.addresses < 2 ^ 64) {T : Type}
    (tryFromSlice : List UInt8 → Option T) (discriminator : Vector UInt8 8) :
    ((∃ M', c.result d (L.prefund a n) = .ok M' ∧ SameBut c.payer a L' M') ∧
        (Uploads d.portal a →
          state tryFromSlice (L.prefund a n) d.portal.programId a discriminator = .ok none)) ↔
      n = 0 ∨ c.guarded ≠ some a ∧ ¬Uploads d.portal a := by
  constructor
  · rintro ⟨⟨M', hM', -⟩, hread⟩
    by_cases hn : n = 0
    · exact .inl hn
    refine .inr ⟨fun hguarded => ?_, fun huploads => ?_⟩
    · apply blocked hd ht hguarded _ _ hM'
      · rwa [lamports_prefund ha]
      · rw [prefund, setLamports_owner]
        exact ha.vacant.2
    · exact hn ((state_prefund_iff hsystem ha tryFromSlice discriminator).mp (hread huploads))
  · rintro (rfl | ⟨hguarded, huploads⟩)
    · refine ⟨⟨L', ?_, SameBut.refl _ _ _⟩, fun _ => ?_⟩
      · rw [prefund_zero]
        exact h
      · exact (state_prefund_iff hsystem ha tryFromSlice discriminator).mpr rfl
    · exact ⟨sameBut_prefund hd ht hsystem hc hsigned ha hsupply hguarded h,
        fun hu => absurd hu huploads⟩

end Creating

/-! ## A fee vault that is created, and a vault that is not opened -/

/-- The bridge of the local deployment moves tokens only. -/
theorem localBridge_tokensOnly : localBridge.TokensOnly where
  ne_system := by decide
  total := by
    intro L L' t S h _ _
    have h : localTransfer L t = .ok L' := h
    simp only [localTransfer, bind_eq_ok, pure_eq_ok] at h
    obtain ⟨_, -, _, -, _, -, _, -, _, -, _, -, _, -, _, -, rfl⟩ := h
    rw [total_setData, total_setData]
  blind := by
    intro L M L' t hsame hsource hdestination h
    have hricher : ∀ b, (M b).data = (L b).data ∧ (M b).owner = (L b).owner ∧
        (M b).executable = (L b).executable := by
      intro b
      have hb := congrFun hsame b
      simp only [withoutLamports, Account.mk.injEq, true_and] at hb
      exact ⟨hb.2.2, hb.1, hb.2.1⟩
    have htoken (b : Pubkey) : localToken M b = localToken L b := by
      rw [localToken, localToken, (hricher b).1]
    have h : localTransfer L t = .ok L' := h
    simp only [localTransfer, bind_eq_ok, rejectIf_eq_ok, okOr_eq_ok, pure_eq_ok,
      localToken_setData] at h
    obtain ⟨source, hs, destination, hdst, u, howners, v, hchecks, w, hmint, left, hleft, paid,
      hpaid, credited, hcredited, rfl⟩ := h
    refine ⟨(M.setData t.source (.raw (localTokenBytes { source with amount := left }))).setData
      t.destination (.raw (localTokenBytes { paid with amount := credited })), ?_, ?_, ?_, ?_⟩
    · show localTransfer M t = _
      simp only [localTransfer, bind_eq_ok, rejectIf_eq_ok, okOr_eq_ok, pure_eq_ok,
        localToken_setData, htoken, (hricher _).1, (hricher _).2.1]
      exact ⟨source, hs, destination, hdst, u, howners, v, hchecks, w, hmint, left, hleft, paid,
        hpaid, credited, hcredited, rfl⟩
    · apply withoutLamports_ext
      · intro b
        simp only [setData_data, (hricher b).1]
      · intro b
        simp only [setData_owner, (hricher b).2.1]
      · intro b
        simp only [setData_executable, (hricher b).2.2]
    · simpa using hsource
    · simpa using hdestination

/-- Wallet 20 does not stand at a derived address. -/
theorem localWallet_not_derived (seeds : List (List UInt8)) :
    tagged 20 [] ≠ localBridgeAddress seeds := by
  intro heq
  have htag := congrArg tagOf heq
  have hlocal (seeds : List (List UInt8)) : tagOf (tagged 20 []) ≠ tagOf (localAddress seeds) := by
    unfold localAddress
    rw [tagOf_tagged, tagOf_tagged]
    intro h
    have hrange := (seedTag_range seeds).2
    rw [← h] at hrange
    exact absurd hrange (by decide)
  unfold localBridgeAddress at htag
  split at htag
  · split at htag
    · rw [tagOf_tagged, tagOf_tagged] at htag
      exact absurd htag (by decide)
    · exact hlocal _ htag
  · split at htag
    · rw [tagOf_tagged, tagOf_tagged] at htag
      exact absurd htag (by decide)
    · exact hlocal _ htag
  · rw [tagOf_tagged, tagOf_tagged] at htag
    exact absurd htag (by decide)
  · exact hlocal _ htag

/-- Wallet 20 opens the session. -/
def localSessionOpening : Creation := .portal Portal.localOpening

theorem localSessionOpening_signed : localSessionOpening.Signed localBridge := by
  intro m hm hsigner
  simp only [localSessionOpening, Portal.localOpening, accounts, List.mem_cons, List.not_mem_nil,
    or_false] at hm
  rcases hm with rfl | rfl | rfl | rfl
  · constructor
    · rintro ⟨seeds, hseeds⟩
      exact localWallet_not_derived seeds hseeds
    · rintro ⟨seeds, hseeds⟩
      exact localWallet_not_derived seeds hseeds
  all_goals
    cases hsigner

/-- The fee vault, which is created with the session. -/
def localFeeVault : Pubkey := localnetV1.address .feeVault

/-- The uploader of proofs does not read the fee vault. -/
theorem localFeeVault_not_uploads : ¬Uploads localnetV1 localFeeVault := by
  rintro ⟨g, hg, heq⟩
  have htag := congrArg tagOf heq
  cases g with
  | feeVault => exact hg rfl
  | session | cursor => exact absurd htag (by decide)
  | checkpoint e =>
    have htag : tagOf localFeeVault = 1 := htag
    exact absurd htag (by decide)
  | challenge e =>
    have htag : tagOf localFeeVault = 2 := htag
    exact absurd htag (by decide)
  | daProof e =>
    have htag : tagOf localFeeVault = 3 := htag
    exact absurd htag (by decide)
  | stepProof e =>
    have htag : tagOf localFeeVault = 4 := htag
    exact absurd htag (by decide)

set_option maxRecDepth 100000 in
/-- Whatever is sent to the fee vault, the session is opened with it. -/
theorem prefunding_harmless_local : ∃ L',
    localSessionOpening.result localBridge localLedger = .ok L' ∧
      (L' localFeeVault).owner = localnetV1.programId ∧
      ∃ M', localSessionOpening.result localBridge (localLedger.prefund localFeeVault 5) = .ok M' ∧
        SameBut localSessionOpening.payer localFeeVault L' M' := by
  have hcreated : (localSessionOpening.result localBridge localLedger).toOption.any (fun L' =>
      decide ((L' localFeeVault).owner = localnetV1.programId)) = true := by
    decide +kernel
  obtain ⟨L', hL', howner⟩ := (Option.any_eq_true _ _).mp hcreated
  have hL' := toOption_eq_some.mp hL'
  have hunused : Unused localLedger localFeeVault := ⟨by decide +kernel, by decide +kernel⟩
  have hsupply : (localLedger.prefund localFeeVault 5).total localSessionOpening.addresses <
      2 ^ 64 := by
    decide +kernel
  have hcreates : localSessionOpening.Creates := rfl
  have hguarded : localSessionOpening.guarded ≠ some localFeeVault :=
    (Option.some_ne_none _).symm
  refine ⟨L', hL', of_decide_eq_true howner, ?_⟩
  exact ((prefunding_harmless_iff localBridge_lawful localBridge_tokensOnly (by decide) hcreates
    localSessionOpening_signed hL' hunused hsupply (T := Unit) (fun _ => none)
    (Vector.replicate 8 0)).mpr (.inr ⟨hguarded, localFeeVault_not_uploads⟩)).1

/-- The bridge of the session is registered, and its vault is not opened yet. -/
def localUnopened : Ledger := fun a => if a = localVault then .vacant else localVaultLedger a

/-- Wallet 22 opens the vault. -/
def localVaultOpening : Creation :=
  .bridge ⟨150, [localWallet 22, localNamed localVault, localNamed localSessionBridge,
    localNamed localnetV1.programId, localNamed localVaultTokens, localNamed systemProgramId],
    .initializeVault⟩

set_option maxRecDepth 100000 in
/-- **One lamport keeps the vault from being opened.** -/
theorem vault_opening_blocked :
    (localVaultOpening.result localBridge localUnopened).toOption.isSome = true ∧
      (localVaultOpening.result localBridge (localUnopened.prefund localVault 1)).toOption.isNone =
        true := by
  decide +kernel

end Northstar.Bridge
