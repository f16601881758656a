import Northstar.Game.Histories

/-!
# A deployment without collisions

The development assumes of address derivation that it does not collide on the accounts
of the game (`Env.Lawful`). This file has a deployment of which that is true: an address
is a tag for the kind of account followed by the seed that tells accounts of one kind
apart. Its hash and its verifier are executable, so histories on it can be run.

## Main results

* `localnet_lawful`: its addresses do not collide
* `localnet_not_derived`: addresses with another tag are nobody's derived address
* `localnet_history`: calls signed by wallets make a history
-/

namespace Northstar.Portal

open Bytes Checked

/-! ## Tagged addresses -/

/-- A tag followed by at most 31 bytes of payload, padded with zeros. -/
def tagged (tag : UInt8) (payload : List UInt8) : Bytes32 :=
  ofList32 (tag :: (payload ++ List.replicate 31 0).take 31) (by simp)

theorem tagged_inj : tagged t p = tagged t' p' ↔
    t = t' ∧ (p ++ List.replicate 31 0).take 31 = (p' ++ List.replicate 31 0).take 31 := by
  rw [← toList_inj32, tagged, tagged, toList_ofList32, toList_ofList32, List.cons.injEq]

/-- The tag of an address. -/
def tagOf (a : Bytes32) : UInt8 := a.toList.headD 0

@[simp] theorem tagOf_tagged (t : UInt8) (p : List UInt8) : tagOf (tagged t p) = t := rfl

theorem tagged_tagOf (a : Bytes32) : tagged (tagOf a) (a.toList.drop 1) = a := by
  have hlength : a.toList.length = 32 := Vector.length_toList
  rw [← toList_inj32, tagged, toList_ofList32, tagOf]
  cases hl : a.toList with
  | nil =>
    rw [hl] at hlength
    cases hlength
  | cons b l =>
    rw [hl, List.length_cons] at hlength
    rw [List.drop_one, List.tail_cons, List.headD_cons, List.take_left' (by omega)]

/-- Padding once is padding for good. -/
theorem tagged_drop_tagged (t t' : UInt8) (p : List UInt8) :
    tagged t' ((tagged t p).toList.drop 1) = tagged t' p := by
  rw [tagged_inj]
  refine ⟨rfl, ?_⟩
  rw [tagged, toList_ofList32, List.drop_one, List.tail_cons, List.take_left' (by simp)]

/-- Delegation records are told apart by the kind of account they are for. -/
def delegationTag (tag : UInt8) : UInt8 := if 1 ≤ tag ∧ tag ≤ 7 then 8 + tag else 16

/-- The kind of account that seeds belong to. -/
def seedTag (seeds : List (List UInt8)) : UInt8 :=
  match seeds with
  | [name] => if name = ascii "session" then 5 else if name = ascii "fee_vault" then 6 else 16
  | [name, key] =>
    if name = ascii "checkpoint_cursor" then 7
    else if name = ascii "challenge" then 2
    else if name = ascii "da_proof" then 3
    else if name = ascii "step_proof" then 4
    else if name = ascii "delegation" then delegationTag (key.headD 0)
    else 16
  | name :: _ => if name = ascii "checkpoint" then 1 else 16
  | [] => 16

/-- **Tagged addresses**: what tells accounts of one kind apart follows the tag. -/
def localAddress (seeds : List (List UInt8)) : Bytes32 :=
  tagged (seedTag seeds) (match seeds with
    | [_, key] => key.drop 1
    | [_, _, last] => last
    | _ => [])

theorem toNat_delegationTag (tag : UInt8) : (delegationTag tag).toNat =
    if 1 ≤ tag.toNat ∧ tag.toNat ≤ 7 then 8 + tag.toNat else 16 := by
  have hiff : 1 ≤ tag ∧ tag ≤ 7 ↔ 1 ≤ tag.toNat ∧ tag.toNat ≤ 7 := by
    rw [UInt8.le_iff_toNat_le, UInt8.le_iff_toNat_le]
    rfl
  simp only [delegationTag, ← hiff]
  split_ifs with h
  · have hle := (hiff.mp h).2
    show (8 + tag.toNat) % 2 ^ 8 = _
    omega
  · rfl

theorem delegationTag_range (tag : UInt8) : 7 < delegationTag tag ∧ delegationTag tag ≤ 16 := by
  rw [UInt8.lt_iff_toNat_lt, UInt8.le_iff_toNat_le, toNat_delegationTag]
  show 7 < _ ∧ _ ≤ 16
  split <;> omega

theorem delegationTag_inj (ht : 1 ≤ t ∧ t ≤ 7) (h : delegationTag t' = delegationTag t) :
    t' = t := by
  have h := congrArg UInt8.toNat h
  rw [UInt8.le_iff_toNat_le, UInt8.le_iff_toNat_le] at ht
  have ht : 1 ≤ t.toNat ∧ t.toNat ≤ 7 := ht
  rw [toNat_delegationTag, toNat_delegationTag, if_pos ht] at h
  split at h
  · exact UInt8.toNat_inj.mp (by omega)
  · omega

theorem seedTag_range (seeds : List (List UInt8)) : 1 ≤ seedTag seeds ∧ seedTag seeds ≤ 16 := by
  unfold seedTag
  split
  · split_ifs <;> decide
  · split_ifs
    · decide
    · decide
    · decide
    · decide
    · obtain ⟨hlow, hhigh⟩ := delegationTag_range ((‹List UInt8›).headD 0)
      exact ⟨UInt8.le_of_lt (UInt8.lt_of_le_of_lt (by decide) hlow), hhigh⟩
    · decide
  · split_ifs <;> decide
  · decide

/-! ## The deployment -/

/-- A digest that is easy to compute: the bytes as digits, reduced to 31 bytes. -/
def localHash (bytes : List UInt8) : Hash32 :=
  tagged 0 (be 31 (bytes.foldl (fun acc b => acc * 257 + b.toNat + 1) 0 % 256 ^ 31))

/-- The state root one step after another: its last byte counts the steps. -/
def localNext (root : List UInt8) : List UInt8 := root.dropLast ++ [root.getLastD 0 + 1]

/-- **The deployment**: tagged addresses, a flat rent, and a verifier that accepts a proof
starting with 7 of a step from a root to the next. -/
def localnet : Env where
  programId := tagged 17 []
  features :=
    { zkVerifierPrototype := true
      zkVerifierBoundedVrf := false
      testVerifier := false
      checkpointContinuityV2 := true }
  findProgramAddress seeds _ := (localAddress seeds, 255)
  minimumBalance _ := 1000
  sha256 := localHash
  poseidon inputs := some (localHash (inputs.map Vector.toList).flatten)
  verifyErStepProofV1 proof publicInputs :=
    proof.toList.headD 0 == 7 &&
      (publicInputs.drop 128).take 32 == localNext ((publicInputs.drop 96).take 32)
  boundedVrfCheckpointSteps := 16
  tokenProgramId := tagged 18 []
  mintIsInitialized _ := .ok true

/-- An address no seeds lead to. -/
theorem localnet_not_derived (h : tagOf a = 0 ∨ 16 < tagOf a) :
    ¬localnet.Derived a := by
  rintro ⟨seeds, rfl⟩
  obtain ⟨hlow, hhigh⟩ := seedTag_range seeds
  have htag : tagOf (localAddress seeds) = seedTag seeds := rfl
  rcases h with h | h
  · rw [show tagOf (localnet.findProgramAddress seeds localnet.programId).1 = seedTag seeds
      from htag] at h
    rw [h] at hlow
    exact absurd hlow (by decide)
  · exact absurd (UInt8.lt_of_lt_of_le h hhigh) (UInt8.lt_irrefl _)

/-- The tag and the payload of an account of the game. -/
def localCode : GameAccount → UInt8 × List UInt8
  | .checkpoint e => (1, le64 e)
  | .challenge e => (2, le64 e)
  | .daProof e => (3, le64 e)
  | .stepProof e => (4, le64 e)
  | .session => (5, [])
  | .feeVault => (6, [])
  | .cursor => (7, [])

theorem localnet_address (g : GameAccount) :
    localnet.address g = tagged (localCode g).1 (localCode g).2 := by
  cases g with
  | session => rfl
  | feeVault => rfl
  | cursor => rfl
  | checkpoint e => rfl
  | challenge e => exact tagged_drop_tagged 1 2 (le64 e)
  | daProof e => exact (tagged_drop_tagged 2 3 _).trans (tagged_drop_tagged 1 3 (le64 e))
  | stepProof e => exact tagged_drop_tagged 1 4 (le64 e)

/-- Payloads of one length are read back from under the padding. -/
theorem payload_of_padded {p p' : List UInt8} (hlength : p.length = p'.length)
    (hle : p.length ≤ 31)
    (h : (p ++ List.replicate 31 0).take 31 = (p' ++ List.replicate 31 0).take 31) : p = p' := by
  rw [List.take_append, List.take_append, append_inj_iff (by simp [hlength])] at h
  rw [List.take_of_length_le hle, List.take_of_length_le (hlength ▸ hle)] at h
  exact h.1

theorem le64_of_padded {e e' : UInt64}
    (h : (le64 e ++ List.replicate 31 0).take 31 = (le64 e' ++ List.replicate 31 0).take 31) :
    e = e' :=
  le64_inj.mp (payload_of_padded (by simp) (by simp) h)

theorem localCode_range (g : GameAccount) : 1 ≤ (localCode g).1 ∧ (localCode g).1 ≤ 7 := by
  cases g <;> simp only [localCode] <;> decide

/-- Accounts outside the game have a tag of their own. -/
theorem seedTag_side (h : Env.SideSeeds seeds) : 7 < seedTag seeds := by
  have hother : (7 : UInt8) < 16 := by decide
  cases h with
  | delegation a => exact (delegationTag_range (a.toList.headD 0)).1
  | undelegationRequest a | depositReceipt s r | sessionBridge s m
  | tokenWithdrawalAuthorization c v n | sessionEpochV2 | ingressRecordV2 c n
  | depositReceiptV2 c r | sessionBridgeV2 c m | checkpointBindingV2 c => exact hother

theorem localnet_address_injective : Function.Injective localnet.address := by
  intro g g' h
  rw [localnet_address, localnet_address, tagged_inj] at h
  obtain ⟨htag, hpayload⟩ := h
  cases g <;> cases g' <;> simp only [localCode] at htag hpayload <;>
    first
    | rfl
    | exact absurd htag (by decide)
    | rw [le64_of_padded hpayload]

/-- **The deployment's addresses do not collide.** -/
theorem localnet_lawful : localnet.Lawful where
  address_injective := localnet_address_injective
  address_ne_default g h := by
    have htag := congrArg tagOf h
    rw [localnet_address, tagOf_tagged] at htag
    have hrange := (localCode_range g).1
    rw [htag] at hrange
    exact absurd hrange (by decide)
  address_ne_side g seeds hseeds h := by
    have htag := congrArg tagOf h
    rw [localnet_address, tagOf_tagged] at htag
    have hlow : 7 < (localCode g).1 := htag ▸ seedTag_side hseeds
    exact absurd (UInt8.lt_of_lt_of_le hlow (localCode_range g).2) (UInt8.lt_irrefl _)
  delegation_address g a h := by
    -- the record's tag tells the account's tag, its payload the rest
    have h : tagged (delegationTag (tagOf a)) (a.toList.drop 1) =
        tagged (delegationTag (tagOf (localnet.address g))) ((localnet.address g).toList.drop 1) :=
      h
    rw [tagged_inj] at h
    have htag : tagOf a = tagOf (localnet.address g) := by
      refine delegationTag_inj ?_ h.1
      rw [localnet_address, tagOf_tagged]
      exact localCode_range g
    rw [← tagged_tagOf a, ← tagged_tagOf (localnet.address g), tagged_inj]
    exact ⟨htag, h.2⟩
  minimumBalance_pos _ := show (0 : UInt64) < 1000 by decide
  programId_ne_system := by decide

/-! ## Wallets -/

/-- A wallet, whose key someone holds, as it signs an instruction. -/
def localWallet (n : UInt8) : AccountMeta := ⟨tagged n [], true, true⟩

/-- An account of the game, as an instruction names it. -/
def localPlace (g : GameAccount) : AccountMeta := ⟨localnet.address g, false, true⟩

/-- An account that an instruction names without its signature. -/
def localNamed (a : Pubkey) : AccountMeta := ⟨a, false, true⟩

/-- A chain of funded wallets on which nothing happened yet. -/
def localLedger : Ledger := fun a =>
  if 17 < tagOf a then ⟨1000000000, systemProgramId, false, .empty⟩ else .vacant

theorem localnet_genesis : Genesis localnet localLedger where
  vacant g := by
    unfold localLedger
    split <;> exact ⟨rfl, rfl⟩
  undelegated g r := by
    unfold localLedger
    split <;> nofun

/-- Every signer of a call is a wallet. -/
def Call.ByWallets (c : Call) : Prop :=
  ∀ m ∈ c.accounts, m.isSigner = true → tagOf m.address = 0 ∨ 16 < tagOf m.address

instance (c : Call) : Decidable c.ByWallets := List.decidableBAll _ _

/-- Calls are admissible if no seeds lead to a signer. -/
theorem admissible_calls {env : Env} {calls : List Call} (h : ∀ c ∈ calls, ∀ m ∈ c.accounts,
    m.isSigner = true → ¬env.Derived m.address) (L : Ledger) :
    Runs.Along (exec env) (Admissible env) L (calls.map .call) := by
  induction calls generalizing L with
  | nil => trivial
  | cons c calls ih =>
    exact ⟨h c List.mem_cons_self, ih (fun c' hc' => h c' (List.mem_cons_of_mem _ hc')) _⟩

/-- Calls signed by wallets make a history. -/
theorem localnet_history {calls : List Call} (h : ∀ c ∈ calls, c.ByWallets) :
    History localnet localLedger (calls.map .call) :=
  ⟨localnet_genesis, admissible_calls (fun c hc m hm hsigner =>
    localnet_not_derived (h c hc m hm hsigner)) localLedger⟩

/-! ## A session and a proposal -/

/-- A state root that counts steps in its last byte. -/
def localRoot (n : UInt8) : Hash32 := tagged 0 (List.replicate 30 0 ++ [n])

/-- Wallet 20 opens a session whose validator is wallet 21. -/
def localOpening : Call :=
  ⟨10, [localWallet 20, localPlace .session, localPlace .feeVault, localNamed systemProgramId],
    .openSession
      { gridId := 1
        ttlSlots := 1000000
        feeCap := 0
        validator := tagged 21 []
        settlementIntervalSlots := 10 }⟩

/-- The validator proposes at slot 20 of the clock. -/
def localProposing (args : ProposeCheckpoint) : Call :=
  ⟨20, [localWallet 21, localPlace .session, localPlace (.checkpoint args.erSlot),
    localPlace .cursor, localNamed systemProgramId], .proposeCheckpoint args⟩

/-- A proposal of one step at slot 7, from root 0 to root 1, open for 100 slots. -/
def localProposal : ProposeCheckpoint :=
  { erSlot := 7
    stepCount := 1
    previousStateRoot := localRoot 0
    newStateRoot := localRoot 1
    traceRoot := zero32
    txEffectRoot := zero32
    readonlyL1Root := zero32
    daCommitment := zero32
    effectCommitment := zero32
    challengeWindowSlots := 100 }

/-- Anyone commits the proposal once its window is over. -/
def localCommitting : Call :=
  ⟨120, [localWallet 22, localPlace .session, localPlace (.checkpoint 7), localPlace .cursor,
    localNamed (tagged 21 [])], .commitCheckpoint 7⟩

/-- Wallet 22 challenges the proposal at slot 30 of the clock. -/
def localChallenging : Call :=
  ⟨30, [localWallet 22, localPlace .session, localPlace (.checkpoint 7), localPlace (.challenge 7),
    localPlace (.daProof 7), localNamed systemProgramId], .openChallenge 7⟩

/-- A session with one committed checkpoint. -/
def localCommitted : List Call := [localOpening, localProposing localProposal, localCommitting]

end Northstar.Portal
