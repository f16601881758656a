import Northstar.Continuity.Chains
import Northstar.Game.Replacement
import Northstar.Settle.SessionMoves

/-!
# The ingress chain

Everything that enters a session of the second format is recorded in an account of its own,
and the session keeps the number of records and the hash of the last one, which commits to
all before it. Commitments consume prefixes of the chain while records keep being appended.

## Main definitions

* `Appends`: what appending a record does
* `Recorded`: the records of a session, as they stand in the ledger

## Main results

* `ingress_of_event`: what one event keeps
* `ingress_chain_integrity`: in every history, the records of a session are its chain
-/

namespace Northstar.Portal

open Bytes Checked Ledger

variable (env : Env)

/-- Where the record of a sequence number lives. -/
def Env.ingressOf (context : Hash32) (n : UInt64) : Pubkey :=
  (findIngressRecordV2Pda env context n).1

/-! ## Appending -/

/-- **Appending a record**: what a call that chains something into the session does. -/
structure Appends (L L' : Ledger) (frame : SessionV2) (context : Hash32)
    (state : IngressRecordV2) : Prop where
  before : (L (env.address .session)).data = .sessionV2 frame
  bound : frame.context env (env.address .session) = .ok context
  next : state.ValidNext env context frame.ingressCount frame.ingressRoot
  stored : (L' (env.ingressOf context state.sequence)).data = .ingressRecordV2 state
  after : (L' (env.address .session)).data =
    .sessionV2 { frame with ingressCount := state.sequence, ingressRoot := state.root }
  spared : ∀ kinds w, Beside env kinds w → ascii "delegation" ∉ kinds →
    ascii "deposit_receipt_v2" ∉ kinds → w ≠ env.address .session →
    w ≠ env.ingressOf context state.sequence → Spared env w L L'
  undelegated : ∀ kinds w, Beside env kinds w → ascii "delegation" ∉ kinds →
    ascii "deposit_receipt_v2" ∉ kinds →
    (∀ r, (L (env.recordOf w)).data ≠ .delegationRecord r) →
    ∀ r, (L' (env.recordOf w)).data ≠ .delegationRecord r

variable {L L' : Ledger}

section Appending

variable {env} {S : Finset Pubkey}

/-- A fresh record follows the chain it is made for. -/
theorem validNext_of_new {context previousRoot : Hash32} {count sequence l1Slot : UInt64}
    {payload : IngressPayloadV2} {bump : UInt8} {state : IngressRecordV2}
    (hnext : checkedAdd count 1 = some sequence)
    (h : IngressRecordV2.new env context sequence l1Slot previousRoot payload bump = .ok state) :
    state.ValidNext env context count previousRoot ∧ state.sequence = sequence := by
  simp only [IngressRecordV2.new, chain_ok] at h
  obtain ⟨hvalid, -, rfl⟩ := h
  exact ⟨⟨rfl, rfl, hnext, hvalid, rfl, rfl⟩, rfl⟩

theorem appends_of_appendIngressV2 (hl : env.Lawful) (hpayer : Named env S payer)
    (hspared : ∀ kinds w, Beside env kinds w → ascii "delegation" ∉ kinds → ascii
      "deposit_receipt_v2" ∉ kinds → Spared env w L L₁)
    (h : appendIngressV2 env now payer session record payload L₁ = .ok L') :
    ∃ frame context state, Appends env L L' frame context state := by
  have happend := h
  simp only [appendIngressV2, chain_ok, not_or] at h
  obtain ⟨frame, hframe, -, context, hcontext, sequence, hnext, ⟨hkey, -⟩, state, hstate, L₂,
    hinit, rfl⟩ := h
  obtain ⟨hsession, -, hloaded, -⟩ := loadSessionV2_eq_ok.mp hframe
  obtain ⟨hvalid, rfl⟩ := validNext_of_new hnext hstate
  rw [hsession] at hcontext hloaded ⊢
  have hkey : record.address = env.ingressOf context state.sequence := hkey
  have hne : env.ingressOf context state.sequence ≠ env.address .session :=
    (hl.address_ne_side .session _ (.ingressRecordV2 _ _)).symm
  refine ⟨frame, context, state, ?_, hcontext, hvalid, ?_, ?_, ?_, ?_⟩
  · rw [← hloaded, (hspared [] _ hl.beside_session (by simp) (by simp)).data]
  · rw [hkey, setData_data, if_neg hne, setData_data, if_pos rfl]
  · rw [setData_data, if_pos rfl]
  · intro kinds w hw hdelegation hreceipt hsessionNe hrecordNe
    rw [← hkey] at hrecordNe
    rw [← hsession]
    exact (hspared kinds w hw hdelegation hreceipt).trans
      (SideStep.spares hw (sideStep_appendIngressV2 hsessionNe.symm (hw.admits hpayer) Scope.counts
        (fun _ _ _ => hrecordNe.symm) happend))
  · intro kinds w hw hdelegation hreceipt hu r
    -- the record itself and the session hold no delegation record
    have hu := (hspared kinds w hw hdelegation hreceipt).undelegated hu r
    obtain ⟨-, -, L₃, hfund, rfl⟩ := initializePdaAccount_ok hinit
    have hfunded : (L₃ (env.recordOf w)).data = (L₁ (env.recordOf w)).data := by
      rcases hfund with ⟨rfl, -⟩ | ⟨m, -, hm⟩
      · rfl
      · exact systemTransfer_data hm
    rw [setData_data]
    split
    · simp
    rw [setData_data]
    split
    · simp
    rw [setOwner_data, setData_data]
    split
    · simp
    · rwa [hfunded]

theorem appends_of_delegateV2 (hl : env.Lawful) (hpayer : Named env S payer)
    (haccount : Named env S account)
    (h : delegateV2 env now payer session account ownerProgram record buffer ingress gridId L =
      .ok L') : ∃ frame context state, Appends env L L' frame context state := by
  simp only [delegateV2, chain_ok] at h
  obtain ⟨frame, -, -, -, L₁, hdelegate, -, happend⟩ := h
  refine appends_of_appendIngressV2 hl hpayer ?_ happend
  intro kinds w hw hdelegation _
  exact SideStep.spares hw (sideStep_processDelegateAccount (hw.covers hdelegation)
    (hw.admits hpayer) (hw.charged haccount) Scope.counts hdelegate)

theorem appends_of_depositFeeV2 (hl : env.Lawful) (hdepositor : Named env S depositor)
    (h : depositFeeV2 env now depositor session receipt recipient ingress lamports L = .ok L') :
    ∃ frame context state, Appends env L L' frame context state := by
  simp only [depositFeeV2, chain_ok] at h
  obtain ⟨-, -, frame, -, context, -, hkey, state, -, total, -, L₁, hprepare, L₂, htransfer,
    happend⟩ := h
  refine appends_of_appendIngressV2 hl hdepositor ?_ happend
  intro kinds w hw _ hreceipt
  have hne : receipt.address ≠ w := by
    rw [hkey]
    exact hw.covers hreceipt (.depositReceiptV2 _ _) rfl
  exact SideStep.spares hw (sideStep_creditReceiptV2 (hw.admits hdepositor) Scope.counts hne
    hprepare htransfer)

theorem appends_of_recordTokenDepositV2 (hl : env.Lawful)
    {payer systemProgram session registration vault account delegation receipt origin ingress :
      AccountMeta} (hpayer : Named env S payer)
    (h : recordTokenDepositV2 env now payer systemProgram session registration vault account
      delegation receipt origin ingress amount L = .ok L') :
    ∃ frame context state, Appends env L L' frame context state := by
  simp only [recordTokenDepositV2, chain_ok] at h
  obtain ⟨-, -, frame, -, context, -, bridge, -, -, binding, -, -, -, -, -, deposited, -, -,
    baseline, -, -, happend⟩ := h
  exact appends_of_appendIngressV2 hl hpayer (fun _ w _ _ _ => Spared.refl env w L) happend

/-- **Every appending call** appends one record. -/
theorem appends_of_result (hl : env.Lawful) {c : Call} (hn : ∀ m ∈ c.accounts, Named env S m)
    (hi : c.instruction.appends = true) (h : c.result env L = .ok L') :
    ∃ frame context state, Appends env L L' frame context state := by
  obtain ⟨now, accounts, i⟩ := c
  cases i <;> simp only [Instruction.appends, Bool.false_eq_true] at hi <;>
    simp only [Call.result, processInstruction] at h hn
  case delegateV2 gridId =>
    have h := (onlyWith_ok h).2
    unfold processDelegateV2 at h
    split at h
    · exact appends_of_delegateV2 hl (hn _ (by simp)) (hn _ (by simp)) h
    · cases h
  case depositFeeV2 lamports =>
    have h := (onlyWith_ok h).2
    unfold processDepositFeeV2 at h
    split at h
    · exact appends_of_depositFeeV2 hl (hn _ (by simp)) h
    · cases h
  case recordTokenDepositV2 amount =>
    have h := (onlyWith_ok h).2
    unfold processRecordTokenDepositV2 at h
    split at h
    · exact appends_of_recordTokenDepositV2 hl (hn _ (by simp)) h
    · cases h

end Appending

/-! ## Records in the ledger -/

/-- The addresses of records and bindings do not collide. -/
structure IngressApart (context : Hash32) : Prop where
  beside : ∀ n, Beside env [ascii "ingress_v2"] (env.ingressOf context n)
  sequence : ∀ n n', env.ingressOf context n = env.ingressOf context n' → n = n'
  bindings : ∀ e, BindingApart env e

/-- No record or binding has a delegation record. -/
structure IngressUndelegated (context : Hash32) (L : Ledger) : Prop where
  records : ∀ n r, (L (env.recordOf (env.ingressOf context n))).data ≠ .delegationRecord r
  bindings : ∀ e r, (L (env.recordOf (env.bindingOf e))).data ≠ .delegationRecord r

/-- There is neither a record nor a binding. -/
structure NoIngress (context : Hash32) (L : Ledger) : Prop where
  records : ∀ n r, (L (env.ingressOf context n)).data ≠ .ingressRecordV2 r
  bindings : ∀ e b, (L (env.bindingOf e)).data ≠ .checkpointBindingV2 b

/-- The binding consumes a prefix of the chain. -/
structure OpensPrefix (context : Hash32) (records : List IngressRecordV2)
    (b : CheckpointBindingV2) : Prop where
  advances : b.pre.ingressCount ≤ b.post.ingressCount
  known : b.post.ingressCount.toNat ≤ records.length
  chain : IngressChain env context (records.take b.post.ingressCount.toNat) b.post.ingressRoot

/-- **The records of a session** as they stand in the ledger: they are the chain that the
session commits to, one account for each sequence number, and a prefix of it is consumed. -/
structure Recorded (context : Hash32) (L : Ledger) (frame : SessionV2)
    (records : List IngressRecordV2) : Prop where
  length : records.length = frame.ingressCount.toNat
  chain : IngressChain env context records frame.ingressRoot
  stored : ∀ n r, (L (env.ingressOf context n)).data = .ingressRecordV2 r ↔
    0 < n ∧ records[n.toNat - 1]? = some r
  known : frame.consumedIngressCount ≤ frame.ingressCount
  consumed : IngressChain env context (records.take frame.consumedIngressCount.toNat)
    frame.consumedIngressRoot

/-- **The session with its chain**: the records are those of its context, and every binding
consumes a prefix of them. -/
structure ChainOf (context : Hash32) (L : Ledger) (frame : SessionV2)
    (records : List IngressRecordV2) : Prop where
  session : continuityOf (L (env.address .session)).data = some frame
  bound : frame.context env (env.address .session) = .ok context
  recorded : Recorded env context L frame records
  bindings : ∀ e b, (L (env.bindingOf e)).data = .checkpointBindingV2 b →
    OpensPrefix env context records b

variable {context : Hash32} {frame : SessionV2} {records : List IngressRecordV2}

section Records

variable {env}

/-- A step that leaves the records alone, and the chain of the session. -/
theorem Recorded.congr (h : Recorded env context L frame records)
    (hrecords : ∀ n, (L' (env.ingressOf context n)).data = (L (env.ingressOf context n)).data)
    (hcount : frame'.ingressCount = frame.ingressCount)
    (hroot : frame'.ingressRoot = frame.ingressRoot)
    (hknown : frame'.consumedIngressCount ≤ frame'.ingressCount)
    (hconsumed : IngressChain env context (records.take frame'.consumedIngressCount.toNat)
      frame'.consumedIngressRoot) : Recorded env context L' frame' records where
  length := by rw [hcount, h.length]
  chain := by
    rw [hroot]
    exact h.chain
  stored n r := by
    rw [hrecords]
    exact h.stored n r
  known := hknown
  consumed := hconsumed

/-- Appending extends the chain by its record. -/
theorem Recorded.append (h : Recorded env context L frame records) (ha : IngressApart env context)
    (hl : env.Lawful) (happend : Appends env L L' frame context state) :
    Recorded env context L'
      { frame with ingressCount := state.sequence, ingressRoot := state.root }
      (records ++ [state]) := by
  have hsequence : state.sequence.toNat = frame.ingressCount.toNat + 1 :=
    checkedAdd_eq_some.mp happend.next.2.2.1
  have hpositive : 0 < state.sequence := by
    rw [UInt64.lt_iff_toNat_lt, hsequence]
    show 0 < _
    omega
  have hlength : UInt64.ofNat records.length = frame.ingressCount := by
    rw [h.length, UInt64.ofNat_toNat]
  refine ⟨?_, ?_, ?_, ?_, ?_⟩
  · rw [List.length_append, h.length, List.length_singleton]
    exact hsequence.symm
  · refine .snoc h.chain ?_
    rw [hlength]
    exact happend.next
  · intro n r
    by_cases hn : n = state.sequence
    · subst hn
      rw [happend.stored, hsequence, Nat.add_sub_cancel, ← h.length, List.getElem?_concat_length]
      simp [hpositive]
    · -- the other records stand where they stood
      have hspared := happend.spared _ _ (ha.beside n) (by decide) (by decide)
        (hl.address_ne_side .session _ (.ingressRecordV2 _ _)).symm
        (fun heq => hn (ha.sequence _ _ heq))
      rw [hspared.data, h.stored]
      refine and_congr_right fun hpos => ?_
      rw [UInt64.lt_iff_toNat_lt] at hpos
      have hpos : 0 < n.toNat := hpos
      have hne : n.toNat ≠ state.sequence.toNat := fun heq => hn (UInt64.toNat_inj.mp heq)
      rw [List.getElem?_append]
      split
      · rfl
      · rename_i hbeyond
        rw [h.length] at hbeyond
        rw [List.getElem?_eq_none (by rw [h.length]; omega), List.getElem?_eq_none]
        rw [List.length_singleton, h.length]
        omega
  · rw [UInt64.le_iff_toNat_le, hsequence]
    have hknown := UInt64.le_iff_toNat_le.mp h.known
    show frame.consumedIngressCount.toNat ≤ _
    omega
  · have hknown := UInt64.le_iff_toNat_le.mp h.known
    show IngressChain env context ((records ++ [state]).take frame.consumedIngressCount.toNat) _
    rw [List.take_append_of_le_length (by rw [h.length]; exact hknown)]
    exact h.consumed

theorem OpensPrefix.append (h : OpensPrefix env context records b) (r : IngressRecordV2) :
    OpensPrefix env context (records ++ [r]) b where
  advances := h.advances
  known := by
    rw [List.length_append]
    exact Nat.le_add_right_of_le h.known
  chain := by
    rw [List.take_append_of_le_length h.known]
    exact h.chain

end Records

/-! ## Proposals -/

section Proposals

variable {env}

theorem requireIngressPrefix_ok (h : requireIngressPrefix env now L context post record = .ok u)
    (hpost : 0 < post.ingressCount) : ∃ r,
      (L (env.ingressOf context post.ingressCount)).data = .ingressRecordV2 r ∧
        r.root = post.ingressRoot := by
  simp only [requireIngressPrefix, if_pos hpost, chain_ok, not_or] at h
  obtain ⟨⟨hkey, -⟩, h⟩ := h
  have hkey : record = env.ingressOf context post.ingressCount := hkey
  subst hkey
  cases hd : (L (env.ingressOf context post.ingressCount)).data <;> rw [hd] at h <;>
    simp only [rejectIf_eq_ok, not_or, not_not, reduceCtorEq] at h
  obtain ⟨-, -, hroot, -⟩ := h
  exact ⟨_, rfl, hroot⟩

/-- An opening without ingress has no root of it. -/
theorem ingressRoot_of_commitment {o : StateRootOpeningV2} {root : Hash32}
    (h : o.commitment env = .ok root) (hcount : o.ingressCount = 0) : o.ingressRoot = zero32 := by
  simp only [StateRootOpeningV2.commitment, chain_ok, not_or] at h
  obtain ⟨⟨-, -, -, hiff⟩, -⟩ := h
  exact hiff.mp hcount

/-- The binding of an accepted proposal opens a prefix of the chain. -/
theorem opensPrefix_of_proposeCheckpointV2 (hrecorded : Recorded env context L frame records)
    (hsession : continuityOf (L (env.address .session)).data = some frame)
    (hcontext : frame.context env (env.address .session) = .ok context)
    {proposer session checkpoint cursor binding record : AccountMeta}
    {args : ProposeCheckpointV2}
    (h : proposeCheckpointV2 env now proposer session checkpoint cursor binding record args L =
      .ok L') {b : CheckpointBindingV2}
    (hb : (L' (env.bindingOf args.proposal.erSlot)).data = .checkpointBindingV2 b) :
    OpensPrefix env context records b := by
  have hkey := (proposeCheckpointV2_ok h).1
  simp only [proposeCheckpointV2, requireOpenings, chain_ok, exists_and_left, not_or] at h
  obtain ⟨loaded, hloaded, context', hcontext', ⟨preRoot, hpre, postRoot, hpost, -, -, -, -, hknown,
    hadvances, -⟩, first, -, -, -, ⟨⟩, hprefix, input, -, -, -, L₁, -, -, -, L₂, -, rfl⟩ := h
  obtain ⟨haddress, -, hdata, -⟩ := loadSessionV2_eq_ok.mp hloaded
  -- the proposal loads the session of the chain
  rw [haddress] at hdata hcontext'
  rw [hdata] at hsession
  obtain rfl : _ = frame := Option.some.inj hsession
  obtain rfl : context' = context := Except.ok.inj (hcontext'.symm.trans hcontext)
  rw [← hkey, setData_data, if_pos rfl] at hb
  obtain rfl := AccountData.checkpointBindingV2.inj hb
  have hknown : args.post.ingressCount ≤ loaded.ingressCount := UInt64.not_lt.mp hknown
  have hlength : args.post.ingressCount.toNat ≤ records.length := by
    rw [hrecorded.length]
    exact UInt64.le_iff_toNat_le.mp hknown
  refine ⟨UInt64.not_lt.mp hadvances, hlength, ?_⟩
  show IngressChain env context' (records.take args.post.ingressCount.toNat) args.post.ingressRoot
  by_cases hcount : args.post.ingressCount = 0
  · rw [ingressRoot_of_commitment hpost hcount, hcount]
    exact .nil
  · have hpositive : 0 < args.post.ingressCount := by
      rw [UInt64.lt_iff_toNat_lt]
      exact Nat.pos_of_ne_zero fun hzero => hcount (UInt64.toNat_inj.mp hzero)
    obtain ⟨r, hr, hroot⟩ := requireIngressPrefix_ok hprefix hpositive
    obtain ⟨-, hget⟩ := (hrecorded.stored _ r).mp hr
    have hpositive := UInt64.lt_iff_toNat_lt.mp hpositive
    have hsucc : args.post.ingressCount.toNat - 1 + 1 = args.post.ingressCount.toNat :=
      Nat.succ_pred_eq_of_pos hpositive
    rw [← hroot, ← hsucc]
    exact (hrecorded.chain.split hget).1

end Proposals

/-! ## Events -/

section Events

variable {env}

/-- Only appending calls write records. -/
theorem Instruction.writes_ingress {i : Instruction} (h : ascii "ingress_v2" ∈ i.sideKinds) :
    i.appends = true := by
  cases i with
  | delegateV2 gridId => rfl
  | depositFeeV2 lamports => rfl
  | recordTokenDepositV2 amount => rfl
  | _ =>
    simp only [Instruction.sideKinds] at h
    exact absurd h (by decide)

/-- The event is an accepted call that appends a record. -/
def Appended (env : Env) (L : Ledger) (event : Event) : Prop :=
  ∃ c L', event = .call c ∧ c.result env L = .ok L' ∧ c.instruction.appends = true

theorem spared_ingress (hl : env.Lawful) (hapart : IngressApart env context)
    (ha : Admissible env L event) (hu : IngressUndelegated env context L)
    (hevent : ¬Appended env L event) (n : UInt64) :
    Spared env (env.ingressOf context n) L (exec env L event) := by
  refine spared_of_event (hapart.beside n) (hu.records n) ha ?_
  intro c L' hc hresult
  refine ⟨fun _ => (hl.address_ne_side .session _ (.ingressRecordV2 _ _)).symm, ?_⟩
  intro kind hkind hmem
  rw [List.mem_singleton] at hmem
  subst hmem
  exact hevent ⟨c, L', hc, hresult, Instruction.writes_ingress hkind⟩

/-- An appending call proposes nothing. -/
theorem not_proposedV2_of_appends (hi : c.instruction.appends = true) (e : UInt64) :
    ¬ProposedV2 env e L (.call c) := by
  rintro ⟨hslot, -⟩
  unfold Call.slotV2 at hslot
  revert hi hslot
  cases c.instruction <;> simp [Instruction.appends]

theorem ingressUndelegated_of_event (hl : env.Lawful) (hapart : IngressApart env context)
    (ha : Admissible env L event) (hu : IngressUndelegated env context L) :
    IngressUndelegated env context (exec env L event) := by
  by_cases hevent : Appended env L event
  · obtain ⟨c, L', rfl, hresult, hi⟩ := hevent
    obtain ⟨frame', context', state, happends⟩ :=
      appends_of_result hl (Call.named ha subset_rfl) hi hresult
    rw [exec_call_of_ok hresult]
    exact ⟨fun n => happends.undelegated _ _ (hapart.beside n) (by decide) (by decide)
        (hu.records n),
      fun e => happends.undelegated _ _ (hapart.bindings e).beside (by decide) (by decide)
        (hu.bindings e)⟩
  · refine ⟨fun n => (spared_ingress hl hapart ha hu hevent n).undelegated (hu.records n), ?_⟩
    intro e
    by_cases hproposed : ProposedV2 env e L event
    · cases event with
      | other after => exact hproposed.elim
      | call c =>
        obtain ⟨hslot, L', hresult⟩ := hproposed
        rw [exec_call_of_ok hresult]
        exact ((bound_of_proposeCheckpointV2 (hapart.bindings e) ha hslot hresult).2
          (hu.bindings e)).undelegated
    · exact (spared_binding hl (hapart.bindings e) ha (hu.bindings e) hproposed).undelegated
        (hu.bindings e)

/-- Sessions of the same identity have the same context. -/
theorem continuityOf_sessionV2 (h : (L (env.address .session)).data = .sessionV2 frame) :
    continuityOf (L (env.address .session)).data =
      some { frame with base := frame.base.identity } := by
  rw [h]
  rfl

/-- **An appending call extends the chain** by its record. -/
theorem ChainOf.append (hl : env.Lawful) (hapart : IngressApart env context)
    (h : ChainOf env context L frame records) (ha : Admissible env L event)
    (hu : IngressUndelegated env context L) (hevent : Appended env L event) :
    ∃ frame' r, ChainOf env context (exec env L event) frame' (records ++ [r]) ∧
      frame'.consumedIngressCount = frame.consumedIngressCount := by
  obtain ⟨c, L', rfl, hresult, hi⟩ := hevent
  obtain ⟨loaded, context', state, happends⟩ :=
    appends_of_result hl (Call.named ha subset_rfl) hi hresult
  have hframe : { loaded with base := loaded.base.identity } = frame :=
    Option.some.inj ((continuityOf_sessionV2 happends.before).symm.trans h.session)
  obtain rfl : context' = context := by
    have hbound := h.bound
    rw [← hframe, context_identity, happends.bound] at hbound
    exact Except.ok.inj hbound
  have hrecorded : Recorded env context' L loaded records := by
    refine h.recorded.congr (fun _ => rfl) ?_ ?_ ?_ ?_
    · rw [← hframe]
    · rw [← hframe]
    · have hknown := h.recorded.known
      rw [← hframe] at hknown
      exact hknown
    · have hconsumed := h.recorded.consumed
      rw [← hframe] at hconsumed
      exact hconsumed
  have happended := hrecorded.append hapart hl happends
  rw [exec_call_of_ok hresult]
  refine ⟨{ loaded with
    base := loaded.base.identity, ingressCount := state.sequence, ingressRoot := state.root },
    state, ⟨?_, ?_, ?_, ?_⟩, ?_⟩
  · rw [happends.after]
    rfl
  · exact happends.bound
  · exact happended.congr (fun _ => rfl) rfl rfl happended.known happended.consumed
  · intro e b hb
    -- no binding is written
    have hspared : Spared env (env.bindingOf e) L L' := by
      have hexec := spared_binding hl (hapart.bindings e) ha (hu.bindings e)
        (not_proposedV2_of_appends hi e)
      rwa [exec_call_of_ok hresult] at hexec
    rw [hspared.data] at hb
    exact (h.bindings e b hb).append state
  · rw [← hframe]

/-- **Every event keeps the chain** or extends it, and what is consumed of it does not move
backwards. -/
theorem ChainOf.step (hl : env.Lawful) (hapart : IngressApart env context) (hs : Sound env L)
    (h : ChainOf env context L frame records) (ha : Admissible env L event)
    (hu : IngressUndelegated env context L) :
    ∃ frame' records', ChainOf env context (exec env L event) frame' records' ∧
      frame.consumedIngressCount ≤ frame'.consumedIngressCount ∧ records <+: records' := by
  by_cases hevent : Appended env L event
  · obtain ⟨frame', r, hchain, hconsumed⟩ := h.append hl hapart ha hu hevent
    exact ⟨frame', records ++ [r], hchain, hconsumed ▸ UInt64.le_refl _, records.prefix_append _⟩
  have hrecords : ∀ n, (exec env L event (env.ingressOf context n)).data =
      (L (env.ingressOf context n)).data :=
    fun n => (spared_ingress hl hapart ha hu hevent n).data
  -- bindings stay, and a fresh one opens a prefix of the chain
  have hbindings : ∀ e b, (exec env L event (env.bindingOf e)).data = .checkpointBindingV2 b →
      OpensPrefix env context records b := by
    intro e b hb
    by_cases hproposed : ProposedV2 env e L event
    · cases event with
      | other after => exact hproposed.elim
      | call c =>
        obtain ⟨hslot, L', hresult⟩ := hproposed
        rw [exec_call_of_ok hresult] at hb
        obtain ⟨proposer, -, session, checkpoint, cursor, binding, record, args, rfl, hpropose⟩ :=
          proposeCheckpointV2_of_result hslot hresult
        exact opensPrefix_of_proposeCheckpointV2 h.recorded h.session h.bound hpropose hb
    · rw [(spared_binding hl (hapart.bindings e) ha (hu.bindings e) hproposed).data] at hb
      exact h.bindings e b hb
  have hstay : continuityOf (exec env L event (env.address .session)).data = some frame →
      ∃ frame' records', ChainOf env context (exec env L event) frame' records' ∧
        frame.consumedIngressCount ≤ frame'.consumedIngressCount ∧ records <+: records' := by
    intro hsession
    exact ⟨frame, records, ⟨hsession, h.bound, h.recorded.congr hrecords rfl rfl h.recorded.known
      h.recorded.consumed, hbindings⟩, UInt64.le_refl _, List.prefix_rfl⟩
  cases event with
  | other after =>
    refine hstay ?_
    rw [exec, (ha _ (.inr (env.derived_address .session))).1]
    exact h.session
  | call c =>
    cases hresult : c.result env L with
    | error error =>
      refine hstay ?_
      rw [exec_call_of_error hresult]
      exact h.session
    | ok L' =>
      have hmove := continuityMove_of_sessionMove
        (sessionMove_of_result hl hs (Call.named ha subset_rfl) hresult)
      rw [h.session] at hmove
      rw [exec_call_of_ok hresult] at hrecords hbindings hstay ⊢
      generalize hafter : continuityOf (L' (env.address .session)).data = o at hmove
      cases hmove with
      | stay => exact hstay hafter
      | appended hi => exact absurd ⟨c, L', rfl, hresult, hi⟩ hevent
      | @consumed e _ binding recorded continues =>
        have hopens := h.bindings e binding recorded
        refine ⟨_, records, ⟨hafter, h.bound, ?_, hbindings⟩, ?_, List.prefix_rfl⟩
        · refine h.recorded.congr hrecords rfl rfl ?_ hopens.chain
          rw [UInt64.le_iff_toNat_le, ← h.recorded.length]
          exact hopens.known
        · rw [← continues.1]
          exact hopens.advances

end Events

/-! ## Histories -/

/-- What every history has of the records of a context: there are none before a session of
the second format, and they are the chain of the session if it is the one of this context. -/
inductive IngressInv (context : Hash32) (L : Ledger) : Prop
  | before (session : continuityOf (L (env.address .session)).data = none)
      (none : NoIngress env context L)
  | other {frame : SessionV2}
      (session : continuityOf (L (env.address .session)).data = some frame)
      (bound : frame.context env (env.address .session) ≠ .ok context)
  | during {frame : SessionV2} {records : List IngressRecordV2}
      (chain : ChainOf env context L frame records)

section Histories

variable {env}

/-- Only a session of the second format is appended to. -/
theorem not_appended_of_none (hl : env.Lawful) (ha : Admissible env L event)
    (h : continuityOf (L (env.address .session)).data = none) : ¬Appended env L event := by
  rintro ⟨c, L', rfl, hresult, hi⟩
  obtain ⟨frame, context, state, happends⟩ :=
    appends_of_result hl (Call.named ha subset_rfl) hi hresult
  rw [continuityOf_sessionV2 happends.before] at h
  cases h

theorem not_proposedV2_of_none (h : continuityOf (L (env.address .session)).data = none)
    (e : UInt64) : ¬ProposedV2 env e L event := by
  intro hproposed
  cases event with
  | other after => exact hproposed.elim
  | call c =>
    obtain ⟨hslot, L', hresult⟩ := hproposed
    obtain ⟨proposer, -, session, checkpoint, cursor, binding, record, args, -, hpropose⟩ :=
      proposeCheckpointV2_of_result hslot hresult
    simp only [proposeCheckpointV2, bind_eq_ok] at hpropose
    obtain ⟨frame, hframe, -⟩ := hpropose
    obtain ⟨haddress, -, hdata, -⟩ := loadSessionV2_eq_ok.mp hframe
    rw [haddress] at hdata
    rw [hdata] at h
    cases h

/-- Before a session of the second format nothing is recorded. -/
theorem NoIngress.step (hl : env.Lawful) (hapart : IngressApart env context)
    (h : NoIngress env context L) (hsession : continuityOf (L (env.address .session)).data = none)
    (ha : Admissible env L event) (hu : IngressUndelegated env context L) :
    NoIngress env context (exec env L event) where
  records n r := by
    rw [(spared_ingress hl hapart ha hu (not_appended_of_none hl ha hsession) n).data]
    exact h.records n r
  bindings e b := by
    rw [(spared_binding hl (hapart.bindings e) ha (hu.bindings e)
      (not_proposedV2_of_none hsession e)).data]
    exact h.bindings e b

/-- The continuity of the session after an event. -/
theorem continuity_of_event (hl : env.Lawful) (hs : Sound env L) (ha : Admissible env L event) :
    continuityOf (exec env L event (env.address .session)).data =
        continuityOf (L (env.address .session)).data ∨
      ∃ c L', event = .call c ∧ c.result env L = .ok L' ∧
        ContinuityMove env L c (continuityOf (L (env.address .session)).data)
          (continuityOf (exec env L event (env.address .session)).data) := by
  cases event with
  | other after =>
    refine .inl ?_
    rw [exec, (ha _ (.inr (env.derived_address .session))).1]
  | call c =>
    cases hresult : c.result env L with
    | error error =>
      rw [exec_call_of_error hresult]
      exact .inl rfl
    | ok L' =>
      rw [exec_call_of_ok hresult]
      exact .inr ⟨c, L', rfl, hresult, continuityMove_of_sessionMove
        (sessionMove_of_result hl hs (Call.named ha subset_rfl) hresult)⟩

/-- A session without records starts an empty chain. -/
theorem ChainOf.fresh (h : NoIngress env context L)
    (hsession : continuityOf (L (env.address .session)).data = some frame)
    (hbound : frame.context env (env.address .session) = .ok context)
    (hcount : frame.ingressCount = 0 ∧ frame.ingressRoot = zero32)
    (hconsumed : frame.consumedIngressCount = 0 ∧ frame.consumedIngressRoot = zero32) :
    ChainOf env context L frame [] where
  session := hsession
  bound := hbound
  recorded :=
    { length := by
        rw [hcount.1]
        rfl
      chain := by
        rw [hcount.2]
        exact .nil
      stored := fun n r => iff_of_false (h.records n r) (by simp)
      known := by
        rw [hconsumed.1, hcount.1]
        exact UInt64.le_refl _
      consumed := by
        rw [List.take_nil, hconsumed.2]
        exact .nil }
  bindings e b hb := absurd hb (h.bindings e b)

/-- **What one event keeps** of the records of a context. -/
theorem ingress_of_event (hl : env.Lawful) (hapart : IngressApart env context) (hs : Sound env L)
    (h : IngressInv env context L) (ha : Admissible env L event)
    (hu : IngressUndelegated env context L) : IngressInv env context (exec env L event) := by
  cases h with
  | during chain =>
    obtain ⟨frame', records', hchain, -⟩ := chain.step hl hapart hs ha hu
    exact .during hchain
  | before session none =>
    have hnone := none.step hl hapart session ha hu
    rcases continuity_of_event hl hs ha with hsame | ⟨c, L', hc, hresult, hmove⟩
    · exact .before (hsame.trans session) hnone
    rw [session] at hmove
    generalize hafter : continuityOf (exec env L event (env.address .session)).data = o at hmove
    cases hmove with
    | stay => exact .before hafter hnone
    | @openedV2 frame count consumed =>
      by_cases hbound : frame.context env (env.address .session) = .ok context
      · exact .during (.fresh hnone hafter hbound count consumed)
      · exact .other hafter hbound
    | appended hi => exact absurd ⟨c, L', hc, hresult, hi⟩ (not_appended_of_none hl ha session)
  | @other frame session bound =>
    rcases continuity_of_event hl hs ha with hsame | ⟨c, L', hc, hresult, hmove⟩
    · exact .other (hsame.trans session) bound
    rw [session] at hmove
    generalize hafter : continuityOf (exec env L event (env.address .session)).data = o at hmove
    cases hmove with
    | stay => exact .other hafter bound
    | consumed recorded continues => exact .other hafter bound
    | appended hi =>
      -- a record is chained into the session that is there
      subst hc
      obtain ⟨loaded, context', state, happends⟩ :=
        appends_of_result hl (Call.named ha subset_rfl) hi hresult
      obtain rfl : { loaded with base := loaded.base.identity } = frame :=
        Option.some.inj ((continuityOf_sessionV2 happends.before).symm.trans session)
      have hsession := continuityOf_sessionV2 happends.after
      rw [← exec_call_of_ok hresult] at hsession
      exact .other hsession bound

theorem History.ingress (hl : env.Lawful) (hapart : IngressApart env context)
    (h : History env L₀ events) (hstart : NoIngress env context L₀)
    (hu : IngressUndelegated env context L₀) :
    IngressUndelegated env context (ledgerAfter env L₀ events) ∧
      IngressInv env context (ledgerAfter env L₀ events) := by
  refine History.induction (P := fun L => IngressUndelegated env context L ∧
    IngressInv env context L) hl (fun hgenesis => ⟨hu, ?_⟩) (fun L event hs ha hP => ?_) h
  · refine .before ?_ hstart
    rw [(hgenesis.vacant .session).1]
    rfl
  · exact ⟨ingressUndelegated_of_event hl hapart ha hP.1,
      ingress_of_event hl hapart hs hP.2 ha hP.1⟩

/-- The chain only grows, whatever happens after it. -/
theorem ChainOf.run (hl : env.Lawful) (hapart : IngressApart env context) (hs : Sound env L)
    (hu : IngressUndelegated env context L) (h : ChainOf env context L frame records)
    (ha : Runs.Along (exec env) (Admissible env) L more) :
    ∃ frame' records', ChainOf env context (Runs.run (exec env) L more) frame' records' ∧
      frame.consumedIngressCount ≤ frame'.consumedIngressCount ∧ records <+: records' := by
  refine (Runs.run_induction (P := fun L' => Sound env L' ∧ IngressUndelegated env context L' ∧
    ∃ frame' records', ChainOf env context L' frame' records' ∧
      frame.consumedIngressCount ≤ frame'.consumedIngressCount ∧ records <+: records')
    ?_ ha ⟨hs, hu, frame, records, h, UInt64.le_refl _, List.prefix_rfl⟩).2.2
  rintro L' event ha' ⟨hs', hu', frame', records', hchain, hle, hprefix⟩
  obtain ⟨frame'', records'', hchain', hle', hprefix'⟩ := hchain.step hl hapart hs' ha' hu'
  exact ⟨sound_of_event hl hs' ha', ingressUndelegated_of_event hl hapart ha' hu', frame'',
    records'', hchain', UInt64.le_trans hle hle', hprefix.trans hprefix'⟩

/-- A session whose data is known has the chain of its continuity. -/
theorem ChainOf.recorded_of_data (h : ChainOf env context L frame' records)
    (hdata : (L (env.address .session)).data = .sessionV2 frame) :
    Recorded env context L frame records ∧
      frame.consumedIngressCount = frame'.consumedIngressCount := by
  obtain rfl : { frame with base := frame.base.identity } = frame' :=
    Option.some.inj ((continuityOf_sessionV2 hdata).symm.trans h.session)
  exact ⟨h.recorded.congr (fun _ => rfl) rfl rfl h.recorded.known h.recorded.consumed, rfl⟩

/-- The records of a session are numbered from one. -/
theorem Recorded.sequence (h : Recorded env context L frame records) (hr : records[i]? = some r) :
    r.sequence.toNat = i + 1 := by
  have hnext := checkedAdd_eq_some.mp (h.chain.split hr).2.2.2.1
  obtain ⟨hi, -⟩ := List.getElem?_eq_some_iff.mp hr
  rw [h.length] at hi
  have hbound : i < UInt64.size := Nat.lt_trans hi frame.ingressCount.toNat_lt
  rw [hnext, UInt64.toNat_ofNat_of_lt' hbound]
  rfl

/-- **Integrity of the ingress chain**: in every history, the accounts of the ingress records
of a session are its chain. There is one for each sequence number up to the count of the
session and no other, the root of the session is their hash in order, and a prefix of them is
consumed. Whatever happens next extends the chain, and consumes no less of it. -/
theorem ingress_chain_integrity (hl : env.Lawful) (hapart : IngressApart env context)
    {L₀ : Ledger} {events : List Event} (h : History env L₀ events)
    (hstart : NoIngress env context L₀) (hu : IngressUndelegated env context L₀)
    {frame : SessionV2}
    (hframe : (ledgerAfter env L₀ events (env.address .session)).data = .sessionV2 frame)
    (hcontext : frame.context env (env.address .session) = .ok context) :
    ∃ records, Recorded env context (ledgerAfter env L₀ events) frame records ∧
      (∀ i r, records[i]? = some r → r.sequence.toNat = i + 1) ∧
      frame.ingressRoot = ingressFold env records ∧
      frame.consumedIngressRoot = ingressFold env (records.take frame.consumedIngressCount.toNat) ∧
      ∀ more, Runs.Along (exec env) (Admissible env) (ledgerAfter env L₀ events) more →
        ∃ frame' records',
          (ledgerAfter env L₀ (events ++ more) (env.address .session)).data = .sessionV2 frame' ∧
          Recorded env context (ledgerAfter env L₀ (events ++ more)) frame' records' ∧
          records <+: records' ∧ frame.consumedIngressCount ≤ frame'.consumedIngressCount := by
  obtain ⟨hundelegated, hinv⟩ := h.ingress hl hapart hstart hu
  have hsession := continuityOf_sessionV2 hframe
  cases hinv with
  | before session =>
    rw [hsession] at session
    cases session
  | other session bound =>
    rw [hsession] at session
    obtain rfl := Option.some.inj session
    exact absurd hcontext bound
  | @during _ records chain =>
    obtain ⟨hrecorded, hconsumed⟩ := chain.recorded_of_data hframe
    refine ⟨records, hrecorded, fun i r => hrecorded.sequence, hrecorded.chain.fold,
      hrecorded.consumed.fold, ?_⟩
    intro more hmore
    obtain ⟨next, records', hchain, hle, hprefix⟩ :=
      chain.run hl hapart (h.sound hl) hundelegated hmore
    have hrun : ledgerAfter env L₀ (events ++ more) =
        Runs.run (exec env) (ledgerAfter env L₀ events) more := Runs.run_append ..
    rw [hrun]
    cases hdata : (Runs.run (exec env) (ledgerAfter env L₀ events) more
      (env.address .session)).data with
    | sessionV2 frame' =>
      obtain ⟨hrecorded', hconsumed'⟩ := hchain.recorded_of_data hdata
      refine ⟨frame', records', rfl, hrecorded', hprefix, ?_⟩
      rw [hconsumed, hconsumed']
      exact hle
    | _ =>
      have hlost := hchain.session
      rw [hdata] at hlost
      cases hlost

end Histories

/-! ## On the local deployment -/

theorem devnet_ingressApart (context : Hash32) : IngressApart devnet context where
  beside _ := devnet_beside (.ingressRecordV2 _ _) (by decide : (_, (37 : UInt8)) ∈ kindTags)
  sequence n n' h := by
    have h : tagged 37 (if (le64 n).length = 32 then (le64 n).drop 1 else le64 n) =
        tagged 37 (if (le64 n').length = 32 then (le64 n').drop 1 else le64 n') := h
    rw [length_le64, length_le64, if_neg (by decide), tagged_inj] at h
    exact le64_of_padded h.2
  bindings := devnet_bindingApart

/-- Two deposits into a session of the second format. -/
def devDeposited : List Call := [devOpening, devDepositing 20 500 1, devDepositing 21 700 2]

theorem ingress_chain_integrity_deposited : ∃ frame records,
    (ledgerAfter devnet devLedger (devDeposited.map .call) (devnet.address .session)).data =
      .sessionV2 frame ∧ frame.ingressCount = 2 ∧
      Recorded devnet devContext (ledgerAfter devnet devLedger (devDeposited.map .call)) frame
        records := by
  have hevaluated : ∃ frame ∈ (loadSessionV2 devnet (ledgerAfter devnet devLedger
      (devDeposited.map .call)) (devnet.address .session)).toOption, frame.ingressCount = 2 ∧
      (frame.context devnet (devnet.address .session)).toOption = some devContext := by
    decide +kernel
  obtain ⟨frame, hframe, hcount, hcontext⟩ := hevaluated
  obtain ⟨-, -, hdata, -⟩ := loadSessionV2_eq_ok.mp (toOption_eq_some.mp hframe)
  obtain ⟨records, hrecorded, -⟩ := ingress_chain_integrity devnet_lawful
    (devnet_ingressApart devContext)
    (devnet_history (by decide) : History devnet devLedger (devDeposited.map .call))
    ⟨fun n r => by rw [(devLedger_vacant _).1]; rintro ⟨⟩,
      fun e b => by rw [(devLedger_vacant _).1]; rintro ⟨⟩⟩
    ⟨fun n r => by rw [(devLedger_vacant _).1]; rintro ⟨⟩,
      fun e r => by rw [(devLedger_vacant _).1]; rintro ⟨⟩⟩
    hdata (toOption_eq_some.mp hcontext)
  exact ⟨frame, records, hdata, hcount, hrecorded⟩

end Northstar.Portal
