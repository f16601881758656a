import Northstar.Game.Bystanders
import Northstar.Game.Lifecycle
import Northstar.Settle.Effects

/-!
# What a call does to the session

The account of the session is written by opening and closing it, by the instructions of a
settlement, by ingress and by commitments of the second format. This file says once what each
of them can do to it, and which effects a settlement hashes.

## Main definitions

* `Call.effects`: the effects that a call installs on a ledger
* `SessionMove`: what a call does to the account of the session
* `continuityOf`: the part of a session that its settlement does not write

## Main results

* `sessionMove_of_result`: a successful call is a move of the session
* `continuityMove_of_sessionMove`: settlements keep the identity and the ingress chain of a
  session
-/

namespace Northstar.Portal

open Bytes Checked Ledger

/-! ## Effects of a call -/

def chunkEffects (L : Ledger) (account : Pubkey) (args : WriteSettlementChunk) :
    List SettlementEffect :=
  if ((L account).data.bytes.drop args.accountDataOffset.toNat).take args.bytes.length =
      args.bytes then []
  else [.data account args.accountDataOffset args.bytes]

def ownerEffects (L : Ledger) (account record : Pubkey) (args : SettleAccountOwner) :
    List SettlementEffect :=
  match parseDelegationRecord (L record).data with
  | some delegation =>
    if delegation.ownerProgram = args.owner then [] else [.owner account args.owner]
  | none => []

def lamportEffects (env : Env) (L : Ledger) (targets : LamportTargets)
    (trailing : List AccountMeta) (previous : Option Hash32) : List SettlementEffect :=
  match (sessionOf env L).bind fun s =>
    (loadSurplusVault env L s targets trailing previous).toOption with
  | some (some vault) =>
    if targets.all (fun target => (L target.1).lamports == target.2) = true ∧ vault = none then []
    else targets.effects
  | _ => []

def receiptEffects (L : Ledger) (receipt erSource l1Recipient : Pubkey)
    (args : SettleDepositReceipt) : List SettlementEffect :=
  match (parseDepositReceipt (L receipt).data).toOption with
  | some state =>
    if args.IsDuplicate state then []
    else [.receipt erSource l1Recipient args.balance args.withdrawn args.payoutLamports]
  | none => []

def withdrawalEffects (env : Env) (L : Ledger) (session authorization : Pubkey)
    (accounts : TokenWithdrawalAccounts) (args : TokenWithdrawal) : List SettlementEffect :=
  match (loadBridge env L session accounts.sessionBridge.address accounts.vault.address
    accounts.mint.address accounts.tokenProgram.address).toOption with
  | some bridge =>
    if (L authorization).data = .empty then [.tokenWithdrawal (args.tuple accounts bridge)] else []
  | none => []

/-- **The effects of a call** on a ledger, if it succeeds there: what it finds applied
already it does not install again. -/
def Call.effects (env : Env) (c : Call) (L : Ledger) : List SettlementEffect :=
  match c.instruction with
  | .writeSettlementChunk args =>
    match c.accounts with
    | _ :: _ :: account :: _ => chunkEffects L account.address args
    | _ => []
  | .settleAccountOwner args =>
    match c.accounts with
    | _ :: _ :: account :: record :: _ => ownerEffects L account.address record.address args
    | _ => []
  | .settleAccountLamports args previous =>
    let count := args.accountCount.toNat
    match c.accounts with
    | _ :: _ :: rest =>
      lamportEffects env L (args.targets (delegatedPairs (rest.take (count * 2))))
        (rest.drop (count * 2)) previous
    | _ => []
  | .settleDepositReceipt args =>
    match c.accounts with
    | _ :: _ :: receipt :: erSource :: l1Recipient :: _ =>
      receiptEffects L receipt.address erSource.address l1Recipient.address args
    | _ => []
  | .accumulateTokenWithdrawal args =>
    match c.accounts with
    | _ :: session :: sessionBridge :: vault :: erTokenAccount :: vaultTokenAccount ::
        destinationTokenAccount :: mint :: tokenProgram :: authorization :: _ =>
      withdrawalEffects env L session.address authorization.address
        { sessionBridge, vault, erTokenAccount, vaultTokenAccount, destinationTokenAccount, mint,
          tokenProgram } args
    | _ => []
  | _ => []

/-! ## Moves of the session -/

/-- The instructions that install effects. -/
def Instruction.settles : Instruction → Bool
  | .writeSettlementChunk _ | .settleAccountOwner _ | .settleAccountLamports _ _
  | .settleDepositReceipt _ | .accumulateTokenWithdrawal _ => true
  | _ => false

/-- The instructions that begin and end settlements. -/
def Instruction.steers : Instruction → Bool
  | .beginSettlement _ | .finishSettlement _ _ | .abortSettlement => true
  | _ => false

/-- The instructions that chain something into the session. -/
def Instruction.appends : Instruction → Bool
  | .delegateV2 _ | .depositFeeV2 _ | .recordTokenDepositV2 _ => true
  | _ => false

/-- The session once a settlement of `args` has begun. -/
def Session.beginning (s : Session) (env : Env) (now : UInt64) (args : BeginSettlement) : Session :=
  { s with
    settlementStatus := .inProgress
    settlementErSlot := args.erSlot
    settlementChecksum := args.checksum
    settlementAccumulator := initialSettlementChecksum env args.erSlot
    settlementStartedL1Slot := now }

/-- **Moves of the session**: what a successful call does to the data of its account. -/
inductive SessionMove (env : Env) (L : Ledger) (c : Call) : AccountData → AccountData → Prop
  | stay (hi : c.instruction.settles = true → c.effects env L = [])
      (steady : c.instruction.steers = false) (d : AccountData) : SessionMove env L c d d
  | opened {args : OpenSession} (hi : c.instruction = .openSession args) (payer : Pubkey)
      (bump : UInt8) :
      SessionMove env L c .empty (args.data payer c.slot none bump)
  | openedV2 {args : OpenSessionV2} (hi : c.instruction = .openSessionV2 args) (payer : Pubkey)
      (nonce : BitVec 128) (bump : UInt8) :
      SessionMove env L c .empty
        (args.session.data payer c.slot (some ⟨nonce, args.l1Genesis, args.profile⟩) bump)
  | closed {s : Session} (hi : c.instruction = .closeSession)
      (idle : s.settlementStatus ≠ .inProgress) : SessionMove env L c (.session s) .empty
  | begun {args : BeginSettlement} {s : Session} {d d' : AccountData}
      (hi : c.instruction = .beginSettlement args) (loaded : parseSession d = .ok s)
      (idle : s.settlementStatus ≠ .inProgress)
      (committed : statusOf env L args.erSlot = some .committed)
      (written : writeSession d (s.beginning env c.slot args) = .ok d') :
      SessionMove env L c d d'
  | accumulated {s : Session} {d d' : AccountData} (hi : c.instruction.settles = true)
      (loaded : parseSession d = .ok s) (active : s.settlementStatus = .inProgress)
      (written : writeSession d { s with
        settlementAccumulator := digest env s.settlementAccumulator (c.effects env L) } = .ok d') :
      SessionMove env L c d d'
  | finished {e : UInt64} {checksum : Hash32} {s : Session} {d d' : AccountData}
      (hi : c.instruction = .finishSettlement e checksum) (loaded : parseSession d = .ok s)
      (active : s.settlementStatus = .inProgress) (slot : e = s.settlementErSlot)
      (expected : checksum = s.settlementChecksum)
      (reached : checksum = s.settlementAccumulator)
      (committed : statusOf env L e = some .committed)
      (written : writeSession d { s with
        lastSettledL1Slot := c.slot, lastSettledErSlot := e }.clearSettlement = .ok d') :
      SessionMove env L c d d'
  | aborted {s : Session} {d d' : AccountData} (hi : c.instruction = .abortSettlement)
      (loaded : parseSession d = .ok s) (active : s.settlementStatus = .inProgress)
      (untouched : s.settlementAccumulator = initialSettlementChecksum env s.settlementErSlot)
      (written : writeSession d s.clearSettlement = .ok d') : SessionMove env L c d d'
  | appended {frame : SessionV2} {context : Hash32} {sequence : UInt64}
      {payload : IngressPayloadV2} {bump : UInt8} {state : IngressRecordV2}
      (hi : c.instruction.appends = true) (valid : frame.IsValid)
      (bound : frame.context env (env.address .session) = .ok context)
      (next : checkedAdd frame.ingressCount 1 = some sequence)
      (record : IngressRecordV2.new env context sequence c.slot frame.ingressRoot payload bump =
        .ok state) :
      SessionMove env L c (.sessionV2 frame)
        (.sessionV2 { frame with ingressCount := sequence, ingressRoot := state.root })
  | consumed {e : UInt64} {frame : SessionV2} {binding : CheckpointBindingV2}
      (hi : c.instruction = .commitCheckpointV2 e) (valid : frame.IsValid)
      (recorded : (L (env.bindingOf e)).data = .checkpointBindingV2 binding)
      (continues : binding.pre.ingressCount = frame.consumedIngressCount ∧
        binding.pre.ingressRoot = frame.consumedIngressRoot)
      (known : binding.post.ingressCount ≤ frame.ingressCount)
      (context : frame.context env (env.address .session) = .ok binding.post.sessionContext) :
      SessionMove env L c (.sessionV2 frame)
        (.sessionV2
          { frame with
            consumedIngressCount := binding.post.ingressCount
            consumedIngressRoot := binding.post.ingressRoot })

/-- The data of the session before and after the call. -/
abbrev MovesSession (env : Env) (c : Call) (L L' : Ledger) : Prop :=
  SessionMove env L c (L (env.address .session)).data (L' (env.address .session)).data

section Moves

variable {env : Env} {S : Finset Pubkey} {L L' : Ledger}

/-- Data of the session after it was stored. -/
theorem data_of_storeSession (h : storeSession L (env.address .session) s = .ok L') :
    writeSession (L (env.address .session)).data s = .ok (L' (env.address .session)).data := by
  obtain ⟨d, hd, rfl⟩ := storeSession_ok h
  rw [setData_data, if_pos rfl, hd]

/-- What is stored depends on the data that was there. -/
theorem data_of_storeSession_of_eq (h : storeSession L₁ (env.address .session) s = .ok L')
    (hdata : (L₁ (env.address .session)).data = (L (env.address .session)).data) :
    writeSession (L (env.address .session)).data s = .ok (L' (env.address .session)).data := by
  rw [← hdata]
  exact data_of_storeSession h

theorem statusOf_of_loadCheckpointForSettlement
    (h : loadCheckpointForSettlement env L (env.address .session) e a = .ok checkpoint) :
    statusOf env L e = some .committed := by
  simp only [loadCheckpointForSettlement, chain_ok, exists_and_left] at h
  obtain ⟨state, hload, -, hstatus, rfl⟩ := h
  obtain ⟨-, -, hboard, -⟩ := game_loadCheckpoint hload
  rw [statusOf_eq, hboard, Option.map_some, hstatus]

/-! ### Settlement -/

theorem sessionMove_beginSettlement (hi : c.instruction = .beginSettlement args)
    (h : beginSettlement env c.slot validator session checkpoint args L = .ok L') :
    MovesSession env c L L' := by
  simp only [beginSettlement, chain_ok] at h
  obtain ⟨s, hs, -, -, hidle, -, -, state, hstate, -, hstore⟩ := h
  obtain ⟨hkey, -, hparse⟩ := loadSession_eq_ok.mp hs
  rw [hkey] at hparse hstate hstore
  exact .begun hi hparse hidle (statusOf_of_loadCheckpointForSettlement hstate)
    (data_of_storeSession hstore)

theorem sessionMove_abortSettlement (hi : c.instruction = .abortSettlement)
    (h : abortSettlement env c.slot caller session L = .ok L') : MovesSession env c L L' := by
  simp only [abortSettlement, chain_ok] at h
  obtain ⟨s, hs, -, hactive, -, huntouched, hstore⟩ := h
  obtain ⟨hkey, -, hparse⟩ := loadSession_eq_ok.mp hs
  rw [hkey] at hparse hstore
  exact .aborted hi hparse hactive huntouched (data_of_storeSession hstore)

theorem sessionMove_finishSettlement (hl : env.Lawful)
    (hi : c.instruction = .finishSettlement e checksum)
    (h : finishSettlement env c.slot validator session checkpoint cursor e checksum L = .ok L') :
    MovesSession env c L L' := by
  simp only [finishSettlement, chain_ok, requireActiveSettlement_eq_ok] at h
  obtain ⟨s, hs, -, -, ⟨hactive, hslot, hexpected⟩, hreached, state, hstate, k, hk, -, -,
    hstore⟩ := h
  obtain ⟨hkey, -, hparse⟩ := loadSession_eq_ok.mp hs
  rw [hkey] at hparse hstate hk hstore
  have hstatus := statusOf_of_loadCheckpointForSettlement hstate
  simp only [loadCheckpointForSettlement, chain_ok, exists_and_left] at hstate
  obtain ⟨state', hload, -, -, rfl⟩ := hstate
  rw [(game_loadCheckpoint hload).1, (game_loadCursor hk).1] at hstore
  refine .finished hi hparse hactive hslot hexpected hreached hstatus
    (data_of_storeSession_of_eq hstore ?_)
  rw [setData_data, if_neg (hl.address_inj.not.mpr (by simp)), setData_data,
    if_neg (hl.address_inj.not.mpr (by simp))]

/-- Where a call has no effects it leaves the session as it is, and otherwise it hashes
them. -/
theorem sessionMove_of_effects (hi : c.instruction.settles = true)
    (hload : sessionOf env L = some s) (hactive : s.settlementStatus = .inProgress)
    (h : c.effects env L = [] ∧ L' = L ∨ ∃ L₁,
      (L₁ (env.address .session)).data = (L (env.address .session)).data ∧
      storeSession L₁ (env.address .session) { s with
        settlementAccumulator := digest env s.settlementAccumulator (c.effects env L) } =
          .ok L') : MovesSession env c L L' := by
  rcases h with ⟨heffects, rfl⟩ | ⟨L₁, hdata, hstore⟩
  · refine .stay (fun _ => heffects) ?_ _
    revert hi
    cases c.instruction <;> simp [Instruction.settles, Instruction.steers]
  · exact .accumulated hi (sessionOf_eq_some.mp hload).2 hactive
      (data_of_storeSession_of_eq hstore hdata)

/-- An account with a delegation record is not the session. -/
theorem session_ne_of_delegated (hs : Sound env L)
    (h : loadDelegationRecord env L s account record = .ok r) :
    env.address .session ≠ account := by
  obtain ⟨-, hkey, -, hdata, -⟩ := loadDelegationRecord_eq_ok.mp h
  rw [hkey] at hdata
  exact aside_of_delegated hs.undelegated hdata .session

theorem sessionMove_writeSettlementChunk (hs : Sound env L)
    (hi : c.instruction = .writeSettlementChunk args)
    (heffects : c.effects env L = chunkEffects L account.address args)
    (h : writeSettlementChunk env validator session account record args L = .ok L') :
    MovesSession env c L L' := by
  obtain ⟨s, r, hsettling, hrecord, -, -, hinstall⟩ := writeSettlementChunk_eq_ok.mp h
  refine sessionMove_of_effects (by rw [hi]; rfl) hsettling.loaded hsettling.status ?_
  rw [heffects]
  unfold installChunk at hinstall
  unfold chunkEffects
  split at hinstall
  · rename_i hsame
    cases hinstall
    exact .inl ⟨if_pos hsame, rfl⟩
  · rename_i hdiffers
    rw [if_neg hdiffers, digest_data]
    refine .inr ⟨_, ?_, hinstall⟩
    rw [setData_data, if_neg (session_ne_of_delegated hs hrecord)]

theorem sessionMove_settleAccountOwner (hl : env.Lawful)
    (hi : c.instruction = .settleAccountOwner args)
    (heffects : c.effects env L = ownerEffects L account.address record.address args)
    (h : settleAccountOwner env validator session account record args L = .ok L') :
    MovesSession env c L L' := by
  obtain ⟨s, r, hsettling, hrecord, hinstall⟩ := settleAccountOwner_eq_ok.mp h
  obtain ⟨-, hkey, -, hdata, -⟩ := loadDelegationRecord_eq_ok.mp hrecord
  refine sessionMove_of_effects (by rw [hi]; rfl) hsettling.loaded hsettling.status ?_
  rw [heffects]
  have hparse : parseDelegationRecord (L record.address).data = some r := by
    rw [hdata]
    rfl
  unfold installOwner at hinstall
  simp only [ownerEffects, hparse]
  split at hinstall
  · rename_i hsame
    cases hinstall
    exact .inl ⟨if_pos hsame, rfl⟩
  · rename_i hdiffers
    rw [if_neg hdiffers, digest_owner]
    refine .inr ⟨_, ?_, hinstall⟩
    rw [setData_data, if_neg]
    rw [hkey]
    exact hl.address_ne_side .session _ (.delegation _)

theorem sessionMove_settleAccountLamports
    (hi : c.instruction = .settleAccountLamports args previous)
    (heffects : c.effects env L = lamportEffects env L (args.targets pairs) trailing previous)
    (h : settleAccountLamports env validator session pairs trailing args previous L = .ok L') :
    MovesSession env c L L' := by
  obtain ⟨s, hsettling, -, -, hvault⟩ := settleAccountLamports_eq_ok.mp h
  refine sessionMove_of_effects (by rw [hi]; rfl) hsettling.loaded hsettling.status ?_
  rw [heffects]
  rcases hvault with ⟨hvault, rfl⟩ | ⟨vault, hvault, hinstall⟩
  · refine .inl ⟨?_, rfl⟩
    simp [lamportEffects, hsettling.loaded, hvault, Except.toOption]
  · have hread : lamportEffects env L (args.targets pairs) trailing previous =
        if (args.targets pairs).all (fun target => (L target.1).lamports == target.2) = true ∧
          vault = none then [] else (args.targets pairs).effects := by
      simp only [lamportEffects, hsettling.loaded, Option.bind_some, hvault, Except.toOption]
    rw [hread]
    obtain ⟨-, ⟨hreached, rfl⟩ | ⟨hreached, -, credit, -, hstore⟩⟩ :=
      installLamports_eq_ok.mp hinstall
    · rw [← LamportTargets.all_eq_true_iff] at hreached
      rw [if_pos hreached]
      exact .inl ⟨rfl, rfl⟩
    · rw [← LamportTargets.all_eq_true_iff] at hreached
      rw [if_neg hreached, digest_targets]
      exact .inr ⟨_, LamportTargets.install_data _ L _, hstore⟩

theorem sessionMove_settleDepositReceipt (hl : env.Lawful)
    (hi : c.instruction = .settleDepositReceipt args) (heffects : c.effects env L =
      receiptEffects L receipt.address erSource.address l1Recipient.address args)
    (h : settleDepositReceipt env validator session receipt erSource l1Recipient args L = .ok L') :
    MovesSession env c L L' := by
  obtain ⟨s, state, hsettling, hrecipient, hnames, hinstall⟩ := settleDepositReceipt_eq_ok.mp h
  refine sessionMove_of_effects (by rw [hi]; rfl) hsettling.loaded hsettling.status ?_
  have hread : receiptEffects L receipt.address erSource.address l1Recipient.address args =
      if args.IsDuplicate state then []
      else [.receipt erSource.address l1Recipient.address args.balance args.withdrawn
        args.payoutLamports] := by
    simp only [receiptEffects, hnames.parsed, Except.toOption]
  rw [heffects, hread]
  rcases installReceipt_eq_ok.mp hinstall with ⟨hdup, rfl⟩ | ⟨hdup, -, L₁, d, hpay, -, hstore⟩
  · rw [if_pos hdup]
    exact .inl ⟨rfl, rfl⟩
  · rw [if_neg hdup, digest_receipt]
    refine .inr ⟨_, ?_, hstore⟩
    obtain ⟨context, -, hkey, -⟩ := hnames.context
    rw [setData_data, if_neg, (payOut_ok hpay _).1]
    rw [hkey]
    exact aside_findReceiptPda hl _ _ _ .session

theorem sessionMove_accumulateTokenWithdrawal (hl : env.Lawful) (hvalidator : Named env S validator)
    (hi : c.instruction = .accumulateTokenWithdrawal args) (heffects : c.effects env L =
      withdrawalEffects env L session.address authorization.address accounts args)
    (h : accumulateTokenWithdrawal env validator session authorization accounts args L = .ok L') :
    MovesSession env c L L' := by
  obtain ⟨s, bridge, hsettling, -, hbridge, hkey, hinstall⟩ :=
    accumulateTokenWithdrawal_eq_ok.mp h
  refine sessionMove_of_effects (by rw [hi]; rfl) hsettling.loaded hsettling.status ?_
  have hread : withdrawalEffects env L session.address authorization.address accounts args =
      if (L authorization.address).data = .empty then
        [.tokenWithdrawal (args.tuple accounts bridge)] else [] := by
    simp only [withdrawalEffects, hsettling.address, hbridge, Except.toOption]
  rw [heffects, hread]
  have hne : env.address .session ≠ authorization.address := by
    rw [hkey]
    exact hl.address_ne_side .session _ (.tokenWithdrawalAuthorization _ _ _)
  unfold installAuthorization at hinstall
  split at hinstall
  · rename_i hempty
    simp only [bind_eq_ok] at hinstall
    obtain ⟨L₁, hinit, hstore⟩ := hinstall
    rw [if_pos hempty, digest_tokenWithdrawal]
    refine .inr ⟨_, ?_, hstore⟩
    rw [setData_data, if_neg hne]
    exact (footprint_initializePdaAccount hinit (hl.beside_session.charged hvalidator)
      hne.symm).spares.data
  · rename_i hpresent
    simp only [chain_ok] at hinstall
    obtain ⟨-, -, rfl⟩ := hinstall
    rw [if_neg hpresent]
    exact .inl ⟨rfl, rfl⟩

/-! ### Opening and closing -/

theorem sessionMove_openSession (hl : env.Lawful)
    (h : openSession env now payer session feeVault args version2 L = .ok L') :
    (L (env.address .session)).data = .empty ∧ ∃ bump,
      (L' (env.address .session)).data = args.data payer.address now version2 bump := by
  simp only [openSession, chain_ok, exists_and_left] at h
  obtain ⟨-, -, hkey, hkey', L₁, hinit, L₂, -, rfl⟩ := h
  have hkey : session.address = env.address .session := hkey
  have hkey' : feeVault.address = env.address .feeVault := hkey'
  obtain ⟨hempty, -⟩ := initializePdaAccount_ok hinit
  rw [hkey] at hempty ⊢
  refine ⟨hempty, (findSessionPda env).2, ?_⟩
  rw [hkey', setData_data, if_neg (hl.address_inj.not.mpr (by simp)), setData_data, if_pos rfl]

theorem sessionMove_openSessionV2 (hl : env.Lawful) (hpayer : Named env S payer)
    (hi : c.instruction = .openSessionV2 args)
    (h : openSessionV2 env c.slot payer session feeVault epoch args L = .ok L') :
    MovesSession env c L L' := by
  simp only [openSessionV2, prepareSessionEpochV2, chain_ok, exists_and_left, not_or] at h
  obtain ⟨-, ⟨-, hkey, -⟩, counter, -, -, L₁, hprepare, L₂, hopen, rfl⟩ := h
  have hne : env.address .session ≠ epoch.address := by
    rw [hkey]
    exact hl.address_ne_side .session _ .sessionEpochV2
  have hprepared : (L₁ (env.address .session)).data = (L (env.address .session)).data := by
    split at hprepare
    · exact (footprint_initializePdaAccount hprepare (hl.beside_session.charged hpayer)
        hne.symm).spares.data
    · cases hprepare
      rfl
  obtain ⟨hempty, bump, hdata⟩ := sessionMove_openSession hl hopen
  rw [MovesSession, setData_data, if_neg hne, hdata, ← hprepared, hempty]
  exact .openedV2 hi _ _ _

theorem sessionMove_closeSession (hi : c.instruction = .closeSession)
    (h : closeSession env closer session feeVault cursor L = .ok L') : MovesSession env c L L' := by
  simp only [closeSession, chain_ok, exists_and_left] at h
  obtain ⟨-, hkey, -, -, s, hs, -, v, -, -, hidle, -, -, L₁, -, L₃, -, L₄, -, rfl⟩ := h
  have hkey : session.address = env.address .session := hkey
  rw [hkey] at hs ⊢
  rw [MovesSession, close_data_self]
  cases hd : (L (env.address .session)).data with
  | session state =>
    rw [hd] at hs
    obtain rfl : state = s := Except.ok.inj hs
    exact .closed hi hidle
  | _ =>
    rw [hd] at hs
    cases hs

/-! ### The second format -/

theorem sessionMove_appendIngressV2 (hi : c.instruction.appends = true)
    (hdata : (L₁ (env.address .session)).data = (L (env.address .session)).data)
    (h : appendIngressV2 env c.slot payer session record payload L₁ = .ok L') :
    MovesSession env c L L' := by
  simp only [appendIngressV2, chain_ok, not_or] at h
  obtain ⟨frame, hframe, -, context, hcontext, sequence, hnext, -, state, hstate, L₂, -, rfl⟩ := h
  obtain ⟨hkey, -, hloaded, hvalid⟩ := loadSessionV2_eq_ok.mp hframe
  rw [hkey] at hcontext ⊢
  rw [MovesSession, setData_data, if_pos rfl, ← hdata, ← hkey, hloaded]
  exact .appended hi hvalid hcontext hnext hstate

theorem sessionMove_delegateV2 (hl : env.Lawful) (hpayer : Named env S payer)
    (haccount : Named env S account) (hi : c.instruction = .delegateV2 gridId)
    (h : delegateV2 env c.slot payer session account ownerProgram record buffer ingress gridId L =
      .ok L') : MovesSession env c L L' := by
  simp only [delegateV2, chain_ok] at h
  obtain ⟨frame, -, -, -, L₁, hdelegate, -, happend⟩ := h
  refine sessionMove_appendIngressV2 (by rw [hi]; rfl) ?_ happend
  exact (SideStep.spares hl.beside_session (sideStep_processDelegateAccount
    (hl.beside_session.covers (by simp)) (hl.beside_session.admits hpayer)
    (hl.beside_session.charged haccount) Scope.counts hdelegate)).data

theorem sessionMove_depositFeeV2 (hl : env.Lawful) (hdepositor : Named env S depositor)
    (hi : c.instruction = .depositFeeV2 lamports)
    (h : depositFeeV2 env c.slot depositor session receipt recipient ingress lamports L = .ok L') :
    MovesSession env c L L' := by
  simp only [depositFeeV2, chain_ok] at h
  obtain ⟨-, -, frame, -, context, -, hkey, state, -, total, -, L₁, hprepare, L₂, htransfer,
    happend⟩ := h
  have hne : receipt.address ≠ env.address .session := by
    rw [hkey]
    exact (hl.address_ne_side .session _ (.depositReceiptV2 _ _)).symm
  refine sessionMove_appendIngressV2 (by rw [hi]; rfl) ?_ happend
  exact (SideStep.spares hl.beside_session (sideStep_creditReceiptV2
    (hl.beside_session.admits hdepositor) Scope.counts hne hprepare htransfer)).data

theorem sessionMove_recordTokenDepositV2
    {payer systemProgram session registration vault account delegation receipt origin ingress :
      AccountMeta} (hi : c.instruction = .recordTokenDepositV2 amount)
    (h : recordTokenDepositV2 env c.slot payer systemProgram session registration vault account
      delegation receipt origin ingress amount L = .ok L') : MovesSession env c L L' := by
  simp only [recordTokenDepositV2, chain_ok] at h
  obtain ⟨-, -, frame, -, context, -, bridge, -, -, binding, -, -, -, -, -, deposited, -, -,
    baseline, -, -, happend⟩ := h
  exact sessionMove_appendIngressV2 (by rw [hi]; rfl) rfl happend

theorem parseCheckpointBinding_eq_some :
    parseCheckpointBinding d = some state ↔ d = .checkpointBindingV2 state := by
  cases d <;> simp [parseCheckpointBinding]

/-- The checkpoint of a commitment is the one of its slot. -/
theorem checkpoint_of_commitCheckpoint
    (h : commitCheckpoint env now committer session checkpoint cursor proposer e version2 L =
      .ok L') : checkpoint.address = env.address (.checkpoint e) := by
  simp only [commitCheckpoint, chain_ok, exists_and_left] at h
  obtain ⟨-, -, s, hs, state, hstate, -⟩ := h
  obtain ⟨hsession, -⟩ := game_loadSession hs
  rw [hsession] at hstate
  exact (game_loadCheckpoint hstate).1

theorem sessionMove_commitCheckpointV2 (hi : c.instruction = .commitCheckpointV2 e)
    (h : commitCheckpointV2 env c.slot committer session checkpoint cursor proposer binding e L =
      .ok L') : MovesSession env c L L' := by
  simp only [commitCheckpointV2, requireBinding, chain_ok, parseCheckpointBinding_eq_some,
    exists_and_left, not_or] at h
  obtain ⟨frame, hframe, ⟨hkey, -⟩, state, hstate, context, hcontext, checkpointState, -,
    ⟨preRoot, -, postRoot, -, -, -, -, hpost, hcount, hroot, hknown, -⟩, L₁, hcommit, rfl⟩ := h
  obtain ⟨hsession, -, hloaded, hvalid⟩ := loadSessionV2_eq_ok.mp hframe
  rw [checkpoint_of_commitCheckpoint hcommit] at hkey
  rw [hsession] at hloaded hcontext ⊢
  rw [MovesSession, setData_data, if_pos rfl, hloaded]
  refine .consumed hi hvalid ?_ ⟨hcount, hroot⟩ (UInt64.not_lt.mp hknown) (hpost ▸ hcontext)
  rw [← hstate, hkey]
  rfl

/-! ### Dispatch -/

/-- **A successful call is a move of the session.** -/
theorem sessionMove_of_result (hl : env.Lawful) (hs : Sound env L)
    (hn : ∀ m ∈ c.accounts, Named env S m) (h : c.result env L = .ok L') :
    SessionMove env L c (L (env.address .session)).data (L' (env.address .session)).data := by
  by_cases hwrites : c.instruction.writesSession = false
  · -- instructions that do not write the session spare its account
    have hspared := spared_processInstruction hl.beside_session (hs.undelegated .session) hn
      (by simp [hwrites]) (by simp) h
    rw [hspared.data]
    refine .stay (fun hi => ?_) ?_ _
    · revert hwrites hi
      cases c.instruction <;> simp [Instruction.writesSession, Instruction.settles]
    · revert hwrites
      cases c.instruction <;> simp [Instruction.writesSession, Instruction.steers]
  obtain ⟨now, accounts, i⟩ := c
  cases i <;> simp only [Instruction.writesSession, not_true_eq_false] at hwrites <;>
    simp only [Call.result, processInstruction] at h hn
  case openSession args =>
    unfold processOpenSessionInitialized at h
    split at h
    · obtain ⟨hempty, bump, hdata⟩ := sessionMove_openSession hl h
      rw [hempty, hdata]
      exact .opened rfl _ _
    · cases h
  case closeSession =>
    unfold processCloseSession at h
    split at h
    · exact sessionMove_closeSession rfl h
    · cases h
  case beginSettlement args =>
    unfold processBeginSettlement at h
    split at h
    · exact sessionMove_beginSettlement rfl h
    · cases h
  case writeSettlementChunk args =>
    unfold processWriteSettlementChunk at h
    split at h
    · exact sessionMove_writeSettlementChunk hs rfl rfl h
    · cases h
  case finishSettlement e checksum =>
    unfold processFinishSettlement at h
    split at h
    · exact sessionMove_finishSettlement hl rfl h
    · cases h
  case abortSettlement =>
    unfold processAbortSettlement at h
    split at h
    · exact sessionMove_abortSettlement rfl h
    · cases h
  case settleDepositReceipt args =>
    unfold processSettleDepositReceipt at h
    split at h
    · exact sessionMove_settleDepositReceipt hl rfl rfl h
    · cases h
  case settleAccountOwner args =>
    unfold processSettleAccountOwner at h
    split at h
    · exact sessionMove_settleAccountOwner hl rfl rfl h
    · cases h
  case settleAccountLamports args previous =>
    simp only [processSettleAccountLamportsInner, chain_ok] at h
    obtain ⟨-, -, h⟩ := h
    split at h
    · exact sessionMove_settleAccountLamports rfl rfl h
    · cases h
  case accumulateTokenWithdrawal args =>
    unfold processAccumulateTokenWithdrawal at h
    split at h
    · exact sessionMove_accumulateTokenWithdrawal hl (hn _ (by simp)) rfl rfl h
    · cases h
  case openSessionV2 args =>
    have h := (onlyWith_ok h).2
    unfold processOpenSessionV2 at h
    split at h
    · exact sessionMove_openSessionV2 hl (hn _ (by simp)) rfl h
    · cases h
  case delegateV2 gridId =>
    have h := (onlyWith_ok h).2
    unfold processDelegateV2 at h
    split at h
    · exact sessionMove_delegateV2 hl (hn _ (by simp)) (hn _ (by simp)) rfl h
    · cases h
  case depositFeeV2 lamports =>
    have h := (onlyWith_ok h).2
    unfold processDepositFeeV2 at h
    split at h
    · exact sessionMove_depositFeeV2 hl (hn _ (by simp)) rfl h
    · cases h
  case commitCheckpointV2 e =>
    have h := (onlyWith_ok h).2
    unfold processCommitCheckpointV2 at h
    split at h
    · exact sessionMove_commitCheckpointV2 rfl h
    · cases h
  case recordTokenDepositV2 amount =>
    have h := (onlyWith_ok h).2
    unfold processRecordTokenDepositV2 at h
    split at h
    · exact sessionMove_recordTokenDepositV2 rfl h
    · cases h

end Moves

/-! ## What settlements keep -/

/-- The session without what its settlements write. -/
def Session.identity (s : Session) : Session :=
  { s with lastSettledL1Slot := 0, lastSettledErSlot := 0 }.clearSettlement

/-- **Continuity**: the identity of a session of the second format and its ingress chain. -/
def continuityOf : AccountData → Option SessionV2
  | .sessionV2 frame => some { frame with base := frame.base.identity }
  | _ => none

/-- **How the continuity of a session changes**: settlements keep it. -/
inductive ContinuityMove (env : Env) (L : Ledger) (c : Call) :
    Option SessionV2 → Option SessionV2 → Prop
  | stay (o : Option SessionV2) : ContinuityMove env L c o o
  | openedV2 {frame : SessionV2} (count : frame.ingressCount = 0 ∧ frame.ingressRoot = zero32)
      (consumed : frame.consumedIngressCount = 0 ∧ frame.consumedIngressRoot = zero32) :
      ContinuityMove env L c none (some frame)
  | appended {o o' : Option SessionV2} (hi : c.instruction.appends = true) :
      ContinuityMove env L c o o'
  | consumed {e : UInt64} {frame : SessionV2} {binding : CheckpointBindingV2}
      (recorded : (L (env.bindingOf e)).data = .checkpointBindingV2 binding)
      (continues : binding.pre.ingressCount = frame.consumedIngressCount ∧
        binding.pre.ingressRoot = frame.consumedIngressRoot) :
      ContinuityMove env L c (some frame)
        (some { frame with
          consumedIngressCount := binding.post.ingressCount
          consumedIngressRoot := binding.post.ingressRoot })

section Continuity

variable {env : Env} {L : Ledger} {d d' : AccountData} {s t : Session}

theorem Session.SameIdentity.identity_eq (h : s.SameIdentity t) : t.identity = s.identity := by
  obtain ⟨hnonce, hgrid, hauthority, hvalidator, hcreated, httl, hcap, hinterval, hbump⟩ := h
  cases s
  cases t
  simp_all [Session.identity, Session.clearSettlement]

theorem continuityOf_of_writeSession (h : writeSession d s = .ok d') :
    continuityOf d' = continuityOf d := by
  cases d <;> simp only [writeSession, chain_ok, reduceCtorEq, Except.ok.injEq] at h
  · rw [← h]
    rfl
  · obtain ⟨-, hsame, rfl⟩ := h
    simp only [continuityOf, hsame.identity_eq]

/-- The context of a session depends on its continuity. -/
theorem context_identity (frame : SessionV2) (session : Pubkey) :
    ({ frame with base := frame.base.identity } : SessionV2).context env session =
      frame.context env session := rfl

theorem continuityMove_of_sessionMove (h : SessionMove env L c d d') :
    ContinuityMove env L c (continuityOf d) (continuityOf d') := by
  cases h with
  | stay hi steady d | opened hi payer bump | closed hi idle => exact .stay _
  | openedV2 hi payer nonce bump => exact .openedV2 ⟨rfl, rfl⟩ ⟨rfl, rfl⟩
  | begun hi loaded idle committed written | accumulated hi loaded active written
  | finished hi loaded active slot expected reached committed written
  | aborted hi loaded active untouched written =>
    rw [continuityOf_of_writeSession written]
    exact .stay _
  | appended hi valid bound next record => exact .appended hi
  | @consumed e frame binding hi valid recorded continues known context =>
    exact .consumed recorded continues

end Continuity

end Northstar.Portal
