import Northstar.Game.Bystanders
import Northstar.Game.Localnet

/-!
# A deployment whose other accounts do not collide

On the deployment of `Northstar.Game.Localnet` the accounts outside the game share one tag.
Results about one such account assume of its address that other seeds do not lead to it
(`Beside`). Here every kind of account has a tag of its own, so that the assumption holds,
and the addresses of other programs are not Portal's.

## Main results

* `devnet_lawful`: its addresses do not collide
* `devnet_beside`: accounts outside the game are told apart by their kind
* `devnet_history`: calls signed by wallets make a history
-/

namespace Northstar.Portal

open Bytes Checked

/-! ## Tags -/

/-- Delegation records are told apart by the kind of account they are for, of the game or
outside it. -/
def recordTag (tag : UInt8) : UInt8 :=
  if 1 ≤ tag ∧ tag ≤ 7 then 8 + tag else if 32 ≤ tag ∧ tag ≤ 40 then 32 + tag else 16

/-- The vault of the one bridge program that runs beside Portal. -/
def devVault : Pubkey := tagged 80 []

/-- The kind of account that seeds belong to. Receipts are for wallets of one tag and
bridges for mints of another, and authorizations for checkpoints and the vault. -/
def devTag (seeds : List (List UInt8)) : UInt8 :=
  match seeds with
  | [name] =>
    if name = ascii "session" then 5
    else if name = ascii "fee_vault" then 6
    else if name = ascii "session_epoch_v2" then 36
    else 16
  | [name, key] =>
    if name = ascii "checkpoint_cursor" then 7
    else if name = ascii "challenge" then 2
    else if name = ascii "da_proof" then 3
    else if name = ascii "step_proof" then 4
    else if name = ascii "delegation" then recordTag (key.headD 0)
    else if name = ascii "undelegation_request" then 32
    else if name = ascii "checkpoint_v2" then 40
    else 16
  | [name, _, last] =>
    if name = ascii "checkpoint" then 1
    else if name = ascii "ingress_v2" then 37
    else if name = ascii "deposit_receipt" then if last.headD 0 = 22 then 33 else 16
    else if name = ascii "deposit_receipt_v2" then if last.headD 0 = 22 then 38 else 16
    else if name = ascii "session_bridge" then if last.headD 0 = 24 then 34 else 16
    else if name = ascii "session_bridge_v2" then if last.headD 0 = 24 then 39 else 16
    else 16
  | [name, checkpoint, vault, _] =>
    if name = ascii "token_withdrawal_auth" then
      if vault = devVault.toList ∧ checkpoint = (tagged 1 ((checkpoint.drop 1).take 8)).toList then
        35
      else 16
    else 16
  | _ => 16

/-- **Tagged addresses**: what tells accounts of one kind apart follows the tag. -/
def devAddress (seeds : List (List UInt8)) : Bytes32 :=
  tagged (devTag seeds) (match seeds with
    | [_, key] => key.drop 1
    | [_, _, last] => if last.length = 32 then last.drop 1 else last
    | [_, checkpoint, _, counter] => (checkpoint.drop 1).take 8 ++ counter
    | _ => [])

theorem toNat_recordTag (tag : UInt8) : (recordTag tag).toNat =
    if 1 ≤ tag.toNat ∧ tag.toNat ≤ 7 then 8 + tag.toNat
    else if 32 ≤ tag.toNat ∧ tag.toNat ≤ 40 then 32 + tag.toNat else 16 := by
  have hgame : 1 ≤ tag ∧ tag ≤ 7 ↔ 1 ≤ tag.toNat ∧ tag.toNat ≤ 7 := by
    rw [UInt8.le_iff_toNat_le, UInt8.le_iff_toNat_le]
    rfl
  have hside : 32 ≤ tag ∧ tag ≤ 40 ↔ 32 ≤ tag.toNat ∧ tag.toNat ≤ 40 := by
    rw [UInt8.le_iff_toNat_le, UInt8.le_iff_toNat_le]
    rfl
  simp only [recordTag, ← hgame, ← hside]
  split_ifs with h h'
  · have hle := (hgame.mp h).2
    show (8 + tag.toNat) % 2 ^ 8 = _
    omega
  · have hle := (hside.mp h').2
    show (32 + tag.toNat) % 2 ^ 8 = _
    omega
  · rfl

/-- The tags whose delegation records have a tag of their own. -/
def HasRecordTag (tag : UInt8) : Prop := 1 ≤ tag ∧ tag ≤ 7 ∨ 32 ≤ tag ∧ tag ≤ 40

theorem recordTag_inj (ht : HasRecordTag t) (h : recordTag t' = recordTag t) :
    t' = t := by
  have h := congrArg UInt8.toNat h
  simp only [HasRecordTag, UInt8.le_iff_toNat_le] at ht
  have ht : 1 ≤ t.toNat ∧ t.toNat ≤ 7 ∨ 32 ≤ t.toNat ∧ t.toNat ≤ 40 := ht
  rw [toNat_recordTag, toNat_recordTag] at h
  apply UInt8.toNat_inj.mp
  split_ifs at h <;> omega

/-- What tags derived addresses have. -/
def IsDevTag (tag : UInt8) : Prop := 1 ≤ tag ∧ tag ≤ 16 ∨ 32 ≤ tag ∧ tag ≤ 72
  deriving Decidable

theorem isDevTag_recordTag (tag : UInt8) : IsDevTag (recordTag tag) := by
  simp only [IsDevTag, UInt8.le_iff_toNat_le, toNat_recordTag]
  show 1 ≤ _ ∧ _ ≤ 16 ∨ 32 ≤ _ ∧ _ ≤ 72
  split
  · omega
  · split <;> omega

theorem isDevTag_devTag (seeds : List (List UInt8)) : IsDevTag (devTag seeds) := by
  unfold devTag
  split
  · split_ifs <;> decide
  · split_ifs <;> first | decide | exact isDevTag_recordTag _
  · split_ifs <;> decide
  · split_ifs <;> decide
  · decide

/-! ## The deployment -/

/-- **The deployment**: as on `localnet`, with a tag for every kind of account. -/
def devnet : Env :=
  { localnet with
    findProgramAddress := fun seeds program =>
      if program = localnet.programId then (devAddress seeds, 255)
      else (tagged 80 ((seeds.getLastD []).drop 1), 255) }

/-- An address no seeds lead to. -/
theorem devnet_not_derived (h : ¬IsDevTag (tagOf a)) : ¬devnet.Derived a := by
  rintro ⟨seeds, rfl⟩
  exact h (isDevTag_devTag seeds)

theorem devnet_address_eq (g : GameAccount) : devnet.address g = localnet.address g := by
  cases g <;> rfl

theorem devnet_address (g : GameAccount) :
    devnet.address g = tagged (localCode g).1 (localCode g).2 :=
  (devnet_address_eq g).trans (localnet_address g)

/-- Accounts outside the game have a tag of their own. -/
theorem devTag_side (h : Env.SideSeeds seeds) : 7 < devTag seeds := by
  have hother : (7 : UInt8) < 16 := by decide
  cases h with
  | delegation a =>
    show 7 < recordTag (a.toList.headD 0)
    rw [UInt8.lt_iff_toNat_lt, toNat_recordTag]
    show 7 < _
    split
    · omega
    · split <;> omega
  | undelegationRequest a => exact (by decide : (7 : UInt8) < 32)
  | depositReceipt s r | sessionBridge s m | tokenWithdrawalAuthorization c v n
  | depositReceiptV2 c r | sessionBridgeV2 c m =>
    show 7 < ite _ _ _
    split_ifs <;> decide
  | sessionEpochV2 => exact (by decide : (7 : UInt8) < 36)
  | ingressRecordV2 c n => exact (by decide : (7 : UInt8) < 37)
  | checkpointBindingV2 c => exact (by decide : (7 : UInt8) < 40)

/-- A delegation record tells the account it is for, if that has a tag for records. -/
theorem devnet_recordOf_inj (hw : HasRecordTag (tagOf w))
    (h : devnet.recordOf a = devnet.recordOf w) : a = w := by
  have h : tagged (recordTag (tagOf a)) (a.toList.drop 1) =
      tagged (recordTag (tagOf w)) (w.toList.drop 1) := h
  rw [tagged_inj] at h
  rw [← tagged_tagOf a, ← tagged_tagOf w, tagged_inj]
  exact ⟨recordTag_inj hw h.1, h.2⟩

/-- **The deployment's addresses do not collide.** -/
theorem devnet_lawful : devnet.Lawful where
  address_injective g g' h := by
    rw [devnet_address_eq, devnet_address_eq] at h
    exact localnet_address_injective h
  address_ne_default g := by
    rw [devnet_address_eq]
    exact localnet_lawful.address_ne_default g
  address_ne_side g seeds hseeds h := by
    have htag := congrArg tagOf h
    rw [devnet_address, tagOf_tagged] at htag
    have hlow : 7 < (localCode g).1 := htag ▸ devTag_side hseeds
    exact absurd (UInt8.lt_of_lt_of_le hlow (localCode_range g).2) (UInt8.lt_irrefl _)
  delegation_address g a h := by
    refine devnet_recordOf_inj (.inl ?_) h
    rw [devnet_address, tagOf_tagged]
    exact localCode_range g
  minimumBalance_pos := localnet_lawful.minimumBalance_pos
  programId_ne_system := localnet_lawful.programId_ne_system

/-! ## Accounts outside the game -/

/-- The tag of each kind of account that has one. -/
def kindTags : List (List UInt8 × UInt8) :=
  [(ascii "undelegation_request", 32), (ascii "deposit_receipt", 33),
    (ascii "session_bridge", 34), (ascii "token_withdrawal_auth", 35),
    (ascii "session_epoch_v2", 36), (ascii "ingress_v2", 37), (ascii "deposit_receipt_v2", 38),
    (ascii "session_bridge_v2", 39), (ascii "checkpoint_v2", 40)]

/-- Seeds outside the game are of a kind with a tag, or share the tag of a record or of
the rest. -/
theorem devTag_cases (h : Env.SideSeeds seeds) :
    (∃ kind, seeds.head? = some kind ∧ (kind, devTag seeds) ∈ kindTags) ∨
      ∃ tag, devTag seeds = recordTag tag := by
  -- receipts, bridges and authorizations have the tag of their kind or the one of the rest
  have hsplit : ∀ {p : Prop} [Decidable p] {seeds : List (List UInt8)} {kind : List UInt8}
      {tag : UInt8}, seeds.head? = some kind → (kind, tag) ∈ kindTags →
      devTag seeds = (if p then tag else 16) →
      (∃ kind, seeds.head? = some kind ∧ (kind, devTag seeds) ∈ kindTags) ∨
        ∃ tag, devTag seeds = recordTag tag := by
    intro p _ seeds kind tag hhead hmem htag
    by_cases hp : p
    · rw [if_pos hp] at htag
      exact .inl ⟨kind, hhead, htag ▸ hmem⟩
    · rw [if_neg hp] at htag
      exact .inr ⟨0, htag⟩
  cases h with
  | delegation a => exact .inr ⟨_, rfl⟩
  | undelegationRequest a => exact .inl ⟨_, rfl, (by decide : (_, (32 : UInt8)) ∈ kindTags)⟩
  | depositReceipt s r | sessionBridge s m | tokenWithdrawalAuthorization c v n
  | depositReceiptV2 c r | sessionBridgeV2 c m => exact hsplit rfl (by decide) rfl
  | sessionEpochV2 => exact .inl ⟨_, rfl, (by decide : (_, (36 : UInt8)) ∈ kindTags)⟩
  | ingressRecordV2 c n => exact .inl ⟨_, rfl, (by decide : (_, (37 : UInt8)) ∈ kindTags)⟩
  | checkpointBindingV2 c => exact .inl ⟨_, rfl, (by decide : (_, (40 : UInt8)) ∈ kindTags)⟩

theorem recordTag_not_kind (tag : UInt8) : ∀ p ∈ kindTags, recordTag tag ≠ p.2 := by
  intro p hp heq
  have hrange : ∀ p ∈ kindTags, 32 ≤ p.2.toNat ∧ p.2.toNat ≤ 40 := by decide
  have hp := hrange p hp
  have heq := congrArg UInt8.toNat heq
  rw [toNat_recordTag] at heq
  split_ifs at heq <;> omega

/-- **Accounts of a kind with a tag** are told apart from the rest by it. -/
theorem devnet_beside (hs : Env.SideSeeds seeds) (hkind : (kind, devTag seeds) ∈ kindTags) :
    Beside devnet [kind] (devAddress seeds) where
  derived := ⟨seeds, rfl⟩
  game g _ := devnet_lawful.address_ne_side g seeds hs
  side seeds' hs' h := by
    have htag : devTag seeds' = devTag seeds := congrArg tagOf h
    rcases devTag_cases hs' with ⟨kind', hhead, hmem⟩ | ⟨tag, hrecord⟩
    · have hnames : ∀ p ∈ kindTags, ∀ q ∈ kindTags, p.2 = q.2 → p.1 = q.1 := by decide
      obtain rfl : kind' = kind := hnames _ hmem _ hkind htag
      exact ⟨kind', List.mem_singleton_self _, hhead⟩
    · rw [htag] at hrecord
      exact absurd hrecord.symm (recordTag_not_kind tag _ hkind)
  delegation a h := by
    refine devnet_recordOf_inj (.inr ?_) h
    have hrange : ∀ p ∈ kindTags, 32 ≤ p.2 ∧ p.2 ≤ 40 := by decide
    exact hrange _ hkind

/-- Bindings of different slots have different addresses. -/
theorem devnet_bindingOf_inj (h : devnet.bindingOf e' = devnet.bindingOf e) :
    e' = e := by
  have h : tagged 40 ((tagged 1 (le64 e')).toList.drop 1) =
      tagged 40 ((tagged 1 (le64 e)).toList.drop 1) := h
  rw [tagged_drop_tagged, tagged_drop_tagged, tagged_inj] at h
  exact le64_of_padded h.2

/-! ## Wallets -/

/-- A chain of funded wallets on which nothing happened yet. -/
def devLedger : Ledger := fun a =>
  if 17 < tagOf a ∧ tagOf a < 32 then ⟨1000000000, systemProgramId, false, .empty⟩ else .vacant

theorem devLedger_vacant (a : Pubkey) :
    (devLedger a).data = .empty ∧ (devLedger a).owner = systemProgramId := by
  unfold devLedger
  split <;> exact ⟨rfl, rfl⟩

theorem devnet_genesis : Genesis devnet devLedger where
  vacant g := devLedger_vacant _
  undelegated g r := by
    rw [(devLedger_vacant _).1]
    nofun

/-- Every signer of a call is a wallet or an account of another program. -/
def Call.ByKeys (c : Call) : Prop :=
  ∀ m ∈ c.accounts, m.isSigner = true → ¬IsDevTag (tagOf m.address)

instance (c : Call) : Decidable c.ByKeys := List.decidableBAll _ _

/-- Calls signed by wallets are admissible. -/
theorem devnet_admissible {calls : List Call} (h : ∀ c ∈ calls, c.ByKeys) (L : Ledger) :
    Runs.Along (exec devnet) (Admissible devnet) L (calls.map .call) :=
  admissible_calls (fun c hc m hm hsigner => devnet_not_derived (h c hc m hm hsigner)) L

/-- Calls signed by wallets make a history. -/
theorem devnet_history {calls : List Call} (h : ∀ c ∈ calls, c.ByKeys) :
    History devnet devLedger (calls.map .call) :=
  ⟨devnet_genesis, devnet_admissible h devLedger⟩

/-! ## A session of the second format -/

/-- An account of the game, as an instruction names it. -/
def devPlace (g : GameAccount) : AccountMeta := ⟨devnet.address g, false, true⟩

/-- Wallet 20 opens a session of the second format whose validator is wallet 21. -/
def devOpening : Call :=
  ⟨10, [localWallet 20, devPlace .session, devPlace .feeVault, localNamed systemProgramId,
    localNamed (findSessionEpochV2Pda devnet).1],
    .openSessionV2
      { session :=
          { gridId := 1
            ttlSlots := 1000000
            feeCap := 0
            validator := tagged 21 []
            settlementIntervalSlots := 10 }
        l1Genesis := tagged 90 []
        profile := tagged 91 [] }⟩

/-- The session that the opening leads to. -/
def devSession : SessionV2 :=
  { base :=
      { gridId := 1
        ttlSlots := 1000000
        feeCap := 0
        createdAt := 10
        nonce := 1
        authority := tagged 20 []
        validator := tagged 21 []
        settlementIntervalSlots := 10
        lastSettledL1Slot := 10
        lastSettledErSlot := 0
        settlementStatus := .idle
        settlementErSlot := 0
        settlementChecksum := zero32
        settlementAccumulator := zero32
        settlementStartedL1Slot := 0
        bump := 255 }
    l1Genesis := tagged 90 []
    profile := tagged 91 []
    ingressCount := 0
    ingressRoot := zero32
    consumedIngressCount := 0
    consumedIngressRoot := zero32 }

/-- The context of the session. -/
def devContext : Hash32 :=
  commitment devnet (ascii "session")
    (devSession.identityBytes devnet.programId (devnet.address .session))

/-- Wallet 22 deposits for itself, which becomes record `n` of the ingress chain. -/
def devDepositing (now lamports n : UInt64) : Call :=
  ⟨now, [localWallet 22, devPlace .session,
    localNamed (findDepositReceiptV2Pda devnet devContext (tagged 22 [])).1,
    localNamed (tagged 22 []), localNamed systemProgramId,
    localNamed (findIngressRecordV2Pda devnet devContext n).1], .depositFeeV2 lamports⟩

/-- An opening with the given account root, before any ingress. -/
def devOpened (accountRoot : Hash32) : StateRootOpeningV2 :=
  { sessionContext := devContext
    accountRoot
    originRoot := commitment devnet (ascii "origins") (devnet.hashv [List.replicate 20 0]).toList
    ingressCount := 0
    ingressRoot := zero32 }

/-- The opening of the empty state. -/
def devEmpty : StateRootOpeningV2 :=
  devOpened (project (devnet.hashv [ascii "northstar-checkpoint-v1", ascii "state", ascii "root",
    le32 0, (devnet.hashv [ascii "northstar-checkpoint-v1", ascii "state", ascii "empty-leaf",
      le64 4, le32 0]).toList]))

/-- A proposal of one step at slot `e`, from the empty state to `accountRoot`. -/
def devProposal (e : UInt64) (accountRoot : Hash32) : ProposeCheckpointV2 :=
  { proposal :=
      { erSlot := e
        stepCount := 1
        previousStateRoot := commitment devnet (ascii "state") devEmpty.bytes
        newStateRoot := commitment devnet (ascii "state") (devOpened accountRoot).bytes
        traceRoot := zero32
        txEffectRoot := zero32
        readonlyL1Root := commitment devnet (ascii "input-context") (devContext.toList ++
          (localRoot 9).toList ++ le64 0 ++ zero32.toList ++ le64 0 ++ zero32.toList)
        daCommitment := zero32
        effectCommitment := zero32
        challengeWindowSlots := 100 }
    pre := devEmpty
    post := devOpened accountRoot
    readonlyL1Root := localRoot 9 }

/-- The validator proposes at a slot of the clock. -/
def devProposing (now : UInt64) (args : ProposeCheckpointV2) : Call :=
  ⟨now, [localWallet 21, devPlace .session, devPlace (.checkpoint args.proposal.erSlot),
    devPlace .cursor, localNamed systemProgramId,
    localNamed (devnet.bindingOf args.proposal.erSlot), localNamed systemProgramId],
    .proposeCheckpointV2 args⟩

/-- The validator cancels the proposal of slot `e`. -/
def devCancelling (now : UInt64) (e : UInt64) : Call :=
  ⟨now, [localWallet 21, devPlace .session, devPlace (.checkpoint e), devPlace .cursor],
    .cancelCheckpoint e⟩

/-- Anyone commits the proposal of slot `e`. -/
def devCommitting (now : UInt64) (e : UInt64) : Call :=
  ⟨now, [localWallet 22, devPlace .session, devPlace (.checkpoint e), devPlace .cursor,
    localNamed (tagged 21 []), localNamed (devnet.bindingOf e)], .commitCheckpointV2 e⟩

/-- The validator begins to settle slot `e`. -/
def devBeginning (now : UInt64) (e : UInt64) (checksum : Hash32) : Call :=
  ⟨now, [localWallet 21, devPlace .session, devPlace (.checkpoint e)],
    .beginSettlement { erSlot := e, checksum, effectCommitment := zero32 }⟩

def devFinishing (now : UInt64) (e : UInt64) (checksum : Hash32) : Call :=
  ⟨now, [localWallet 21, devPlace .session, devPlace (.checkpoint e), devPlace .cursor],
    .finishSettlement e checksum⟩

/-! ## A token bridge -/

/-- The wallets, the token program and a bridge program with the vault it owns. -/
def devTokenLedger : Ledger := fun a =>
  if a = tagged 18 [] ∨ a = tagged 81 [] then ⟨1000000000, systemProgramId, true, .empty⟩
  else if a = devVault then ⟨1000000000, tagged 81 [], false, .empty⟩
  else devLedger a

theorem devTokenLedger_data (a : Pubkey) : (devTokenLedger a).data = .empty := by
  unfold devTokenLedger
  split
  · rfl
  split
  · rfl
  · exact (devLedger_vacant a).1

theorem devTokenLedger_genesis : Genesis devnet devTokenLedger where
  vacant g := by
    refine ⟨devTokenLedger_data _, ?_⟩
    have htag : tagOf (devnet.address g) ≤ 7 := by
      rw [devnet_address, tagOf_tagged]
      exact (localCode_range g).2
    unfold devTokenLedger
    split
    · rfl
    split
    · rename_i hvault
      rw [hvault] at htag
      exact absurd htag (by decide)
    · exact (devLedger_vacant _).2
  undelegated g r := by
    rw [devTokenLedger_data]
    nofun

theorem devToken_history {calls : List Call} (h : ∀ c ∈ calls, c.ByKeys) :
    History devnet devTokenLedger (calls.map .call) :=
  ⟨devTokenLedger_genesis, devnet_admissible h devTokenLedger⟩

/-- Where the bridge of the mint is registered. -/
def devBridge : Pubkey := (findSessionBridgeV2Pda devnet devContext (tagged 24 [])).1

/-- The authority registers the bridge. -/
def devRegistering : Call :=
  ⟨15, [localWallet 20, devPlace .session, localNamed devBridge, localNamed (tagged 24 []),
    localNamed (tagged 81 []), localNamed (tagged 18 []), localNamed systemProgramId],
    .registerSessionBridgeV2
      { mint := tagged 24 []
        bridgeProgram := tagged 81 []
        vault := devVault
        tokenProgram := tagged 18 [] }⟩

/-- A session with a bridge and a committed checkpoint at slot 7. -/
def devBridged : List Call :=
  [devOpening, devRegistering, devProposing 20 (devProposal 7 (localRoot 1)), devCommitting 120 7]

end Northstar.Portal
