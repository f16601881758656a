import Northstar.Game.SideFrames
import Northstar.Lib.HashChain

/-!
# The transcript of a settlement

A settlement hashes every effect it installs into the session's accumulator. This file
gives the effects as data and shows that the accumulator, as a hash chain, determines the
effects that were hashed.

## Main definitions

* `SettlementEffect`, `SettlementEffect.message`: an effect, and what is hashed for it
* `digest`: the accumulator after a list of effects
* `Settling`: the guards that the instructions of a settlement share

## Main results

* `message_injective2`: what is hashed determines the effect and the accumulator before it
* `digest_injective`: an accumulator determines its effects
* `storeSession_eq_ok`: what storing the accumulator does to the ledger
-/

namespace Northstar.Portal

open Bytes Checked

/-- **Effects** of a settlement, as the accumulator sees them. -/
inductive SettlementEffect
  | data (account : Pubkey) (offset : UInt32) (chunk : List UInt8)
  | owner (account owner : Pubkey)
  | lamports (account : Pubkey) (lamports : UInt64)
  | receipt (erSource l1Recipient : Pubkey) (balance withdrawn payoutLamports : UInt64)
  | tokenWithdrawal (withdrawal : TokenWithdrawalChecksum)
  deriving DecidableEq

namespace SettlementEffect

def kind : SettlementEffect → String
  | data .. => "data"
  | owner .. => "owner"
  | lamports .. => "lamports"
  | receipt .. => "receipt"
  | tokenWithdrawal _ => "token_withdrawal"

def fields : SettlementEffect → List (List UInt8)
  | data account offset chunk => [account.toList, le32 offset, le 4 chunk.length, chunk]
  | owner account program => [account.toList, program.toList]
  | lamports account balance => [account.toList, le64 balance]
  | receipt erSource l1Recipient balance withdrawn payoutLamports =>
    [erSource.toList, l1Recipient.toList, le64 balance, le64 withdrawn, le64 payoutLamports]
  | tokenWithdrawal withdrawal => withdrawal.fields

/-- What is hashed for an effect after the accumulator `h`. -/
def message (h : Hash32) (e : SettlementEffect) : List UInt8 :=
  (h.toList :: ascii e.kind :: e.fields).flatten

end SettlementEffect

/-- What the accumulator of a settlement starts from. -/
def initialMessage (erSlot : UInt64) : List UInt8 :=
  [ascii "northstar-settlement-v0", le64 erSlot].flatten

/-- **The accumulator** after a list of effects. -/
def digest (env : Env) (h : Hash32) (es : List SettlementEffect) : Hash32 :=
  HashChain.chain env.sha256 SettlementEffect.message h es

/-- Everything that is hashed for a list of effects. -/
def hashed (env : Env) (h : Hash32) (es : List SettlementEffect) : List (List UInt8) :=
  HashChain.messages env.sha256 SettlementEffect.message h es

theorem digest_append (es es' : List SettlementEffect) :
    digest env h (es ++ es') = digest env (digest env h es) es' :=
  HashChain.chain_append _ _ _

theorem digest_data (account : Pubkey) (offset : UInt32) (chunk : List UInt8) :
    digest env h [.data account offset chunk] =
      accumulateDataChunkChecksum env h account offset chunk := rfl

theorem digest_owner (account owner : Pubkey) :
    digest env h [.owner account owner] = accumulateOwnerChecksum env h account owner := rfl

theorem digest_receipt (s r : Pubkey) (b w p : UInt64) :
    digest env h [.receipt s r b w p] = accumulateReceiptChecksum env h s r b w p := rfl

theorem digest_tokenWithdrawal (w : TokenWithdrawalChecksum) :
    digest env h [.tokenWithdrawal w] = accumulateTokenWithdrawalChecksum env h w := rfl

/-- The effects of a list of lamport targets. -/
def LamportTargets.effects (targets : LamportTargets) : List SettlementEffect :=
  targets.map fun target => .lamports target.1 target.2

theorem digest_targets (targets : LamportTargets) :
    digest env h targets.effects = targets.accumulate env h := by
  unfold digest HashChain.chain LamportTargets.effects LamportTargets.accumulate
  rw [List.foldl_map]
  rfl

/-! ## What is hashed determines the effects -/

/-- The kinds of effects. -/
def effectKinds : List String := ["data", "owner", "lamports", "receipt", "token_withdrawal"]

theorem SettlementEffect.kind_mem (e : SettlementEffect) : e.kind ∈ effectKinds := by
  cases e <;> simp [kind, effectKinds]

/-- The kinds of effects start with different letters. -/
theorem effectKinds_head_inj :
    ∀ k ∈ effectKinds, ascii k ≠ [] ∧
      ∀ k' ∈ effectKinds, (ascii k).head? = (ascii k').head? → k = k' := by
  decide

theorem TokenWithdrawalChecksum.fields_inj {w w' : TokenWithdrawalChecksum}
    (h : w.fields.flatten = w'.fields.flatten) : w = w' := by
  obtain ⟨⟩ := w
  obtain ⟨⟩ := w'
  simp only [fields, List.flatten_cons, List.flatten_nil, List.append_nil, toList_append_inj,
    le64_append_inj, List.cons.injEq, and_true] at h
  simpa only [mk.injEq] using h

theorem SettlementEffect.fields_inj {e e' : SettlementEffect} (hkind : e.kind = e'.kind)
    (h : e.fields.flatten = e'.fields.flatten) : e = e' := by
  cases e <;> cases e' <;> simp only [kind, String.reduceEq] at hkind <;>
    simp only [fields, List.flatten_cons, List.flatten_nil, List.append_nil, toList_append_inj,
      toList_inj32] at h
  case data.data =>
    rw [append_inj_iff ((length_le32 _).trans (length_le32 _).symm), le32_inj,
      append_inj_iff ((length_le _ _).trans (length_le _ _).symm)] at h
    obtain ⟨rfl, rfl, -, rfl⟩ := h
    rfl
  case owner.owner =>
    obtain ⟨rfl, rfl⟩ := h
    rfl
  case lamports.lamports =>
    rw [le64_inj] at h
    obtain ⟨rfl, rfl⟩ := h
    rfl
  case receipt.receipt =>
    rw [le64_append_inj, le64_append_inj, le64_inj] at h
    obtain ⟨rfl, rfl, rfl, rfl, rfl⟩ := h
    rfl
  case tokenWithdrawal.tokenWithdrawal => rw [TokenWithdrawalChecksum.fields_inj h]

/-- **What is hashed determines the effect** and the accumulator before it. -/
theorem message_injective2 : Function.Injective2 SettlementEffect.message := by
  intro h h' e e' heq
  simp only [SettlementEffect.message, List.flatten_cons] at heq
  rw [toList_append_inj] at heq
  obtain ⟨rfl, heq⟩ := heq
  obtain ⟨hne, hhead⟩ := effectKinds_head_inj e.kind e.kind_mem
  have hne' := (effectKinds_head_inj e'.kind e'.kind_mem).1
  have hkind : e.kind = e'.kind := by
    refine hhead e'.kind e'.kind_mem ?_
    have hheads := congrArg List.head? heq
    rwa [List.head?_append_of_ne_nil _ hne, List.head?_append_of_ne_nil _ hne'] at hheads
  rw [hkind, append_inj_iff rfl] at heq
  exact ⟨rfl, SettlementEffect.fields_inj hkind heq.2⟩

/-- No effect is hashed as the start of a settlement is. -/
theorem message_ne_initialMessage (h : Hash32) (e : SettlementEffect) (erSlot : UInt64) :
    e.message h ≠ initialMessage erSlot := by
  intro heq
  have hlength := congrArg List.length heq
  have hprefix : (ascii "northstar-settlement-v0").length = 23 := rfl
  simp only [SettlementEffect.message, initialMessage, List.flatten_cons, List.length_append,
    Vector.length_toList, hprefix, length_le64, List.flatten_nil, List.length_nil] at hlength
  omega

/-- **An accumulator determines its effects**, when the hash does not collide on what was
hashed for them. -/
theorem digest_injective (hinj : Set.InjOn env.sha256 { m | m = initialMessage erSlot ∨
      m ∈ hashed env (initialSettlementChecksum env erSlot) es ∨
      m ∈ hashed env (initialSettlementChecksum env erSlot) es' })
    (h : digest env (initialSettlementChecksum env erSlot) es =
      digest env (initialSettlementChecksum env erSlot) es') : es = es' :=
  HashChain.chain_injective message_injective2
    (fun h e => message_ne_initialMessage h e erSlot) hinj (.inl rfl) (fun _ hm => .inr (.inl hm))
    (fun _ hm => .inr (.inr hm)) h

/-! ## Settlements under way -/

/-- **A settlement under way**: the session `s` settles `erSlot` with this checksum, and the
call names it with the signature of its validator. -/
structure Settling (env : Env) (L : Ledger) (validator session : AccountMeta) (erSlot : UInt64)
    (checksum : Hash32) (s : Session) : Prop where
  address : session.address = env.address .session
  loaded : sessionOf env L = some s
  signed : validator.isSigner = true
  validator : validator.address = s.validator
  status : s.settlementStatus = .inProgress
  slot : erSlot = s.settlementErSlot
  expected : checksum = s.settlementChecksum

theorem requireValidator_eq_ok : requireValidator validator s = .ok u ↔
    validator.isSigner = true ∧ validator.address = s.validator := by
  simp [requireValidator]

theorem requireActiveSettlement_eq_ok :
    requireActiveSettlement s erSlot checksum = .ok u ↔ s.settlementStatus = .inProgress ∧
      erSlot = s.settlementErSlot ∧ checksum = s.settlementChecksum := by
  simp [requireActiveSettlement]

theorem loadSession_eq_ok_iff : loadSession env L a = .ok s ↔
    a = env.address .session ∧ sessionOf env L = some s := by
  rw [loadSession_eq_ok, sessionOf_eq_some]
  constructor
  · rintro ⟨rfl, howner, hparse⟩
    exact ⟨rfl, howner, hparse⟩
  · rintro ⟨rfl, howner, hparse⟩
    exact ⟨rfl, howner, hparse⟩

/-- The three guards of every settlement instruction. -/
theorem guards_iff : (loadSession env L session.address = .ok s ∧
      (validator.isSigner = true ∧ validator.address = s.validator) ∧
      s.settlementStatus = .inProgress ∧ erSlot = s.settlementErSlot ∧
      checksum = s.settlementChecksum) ↔
    Settling env L validator session erSlot checksum s := by
  rw [loadSession_eq_ok_iff]
  constructor
  · rintro ⟨⟨haddress, hload⟩, ⟨hsigner, hvalidator⟩, hstatus, hslot, hchecksum⟩
    exact ⟨haddress, hload, hsigner, hvalidator, hstatus, hslot, hchecksum⟩
  · rintro ⟨haddress, hload, hsigner, hvalidator, hstatus, hslot, hchecksum⟩
    exact ⟨⟨haddress, hload⟩, ⟨hsigner, hvalidator⟩, hstatus, hslot, hchecksum⟩

/-! ## Storing the accumulator -/

/-- A session is read back as it was written. -/
theorem parseSession_of_writeSession (h : writeSession d s = .ok d') :
    parseSession d' = .ok s := by
  cases d <;> simp only [writeSession, chain_ok, reduceCtorEq, Except.ok.injEq] at h
  · rw [← h]
    rfl
  · obtain ⟨hvalid, hsame, rfl⟩ := h
    obtain ⟨hnonce, hrest⟩ := hvalid
    rw [hsame.1] at hnonce
    simp only [parseSession, chain_ok]
    exact ⟨⟨hnonce, hrest⟩, trivial⟩

/-- A session that keeps its identity can be written. -/
theorem exists_writeSession (h : parseSession d = .ok s) (hsame : s.SameIdentity s') :
    ∃ d', writeSession d s' = .ok d' := by
  cases d <;> simp only [parseSession, chain_ok, reduceCtorEq, Except.ok.injEq] at h
  · exact ⟨_, rfl⟩
  · obtain ⟨hvalid, rfl⟩ := h
    simp [writeSession, hvalid, hsame]

/-- Writing keeps the format of a session and its context. -/
theorem receiptContext_of_writeSession (h : writeSession (L (env.address .session)).data s = .ok d)
    (hdata : (L₁ (env.address .session)).data = d) :
    receiptContext env L₁ (env.address .session) = receiptContext env L (env.address .session) := by
  unfold receiptContext
  cases hd : (L (env.address .session)).data <;> rw [hd] at h <;>
    simp only [writeSession, chain_ok, reduceCtorEq, Except.ok.injEq] at h
  · rw [hdata, ← h]
  · obtain ⟨-, ⟨hnonce, hgrid, -, hvalidator, -⟩, rfl⟩ := h
    rw [hdata]
    simp only [SessionV2.context, SessionV2.identityBytes, hnonce, hgrid, hvalidator]

/-- What storing a session that keeps its identity does. -/
theorem storeSession_eq_ok (h : storeSession L (env.address .session) s = .ok L')
    (howner : (L (env.address .session)).owner = env.programId) :
    sessionOf env L' = some s ∧ (∀ a, a ≠ env.address .session → L' a = L a) ∧
      (∀ a, (L' a).lamports = (L a).lamports ∧ (L' a).owner = (L a).owner) ∧
      receiptContext env L' (env.address .session) =
        receiptContext env L (env.address .session) := by
  obtain ⟨d, hd, rfl⟩ := storeSession_ok h
  have hdata : (L.setData (env.address .session) d (env.address .session)).data = d := by
    rw [Ledger.setData_data, if_pos rfl]
  refine ⟨?_, fun a ha => ?_, fun a => by simp, receiptContext_of_writeSession hd hdata⟩
  · rw [sessionOf_eq_some, Ledger.setData_owner, hdata]
    exact ⟨howner, parseSession_of_writeSession hd⟩
  · simp [Ledger.setData, ha]

/-- The accumulator can always be stored. -/
theorem exists_storeSession (h : sessionOf env L = some s) (hsame : s.SameIdentity s')
    (hdata : (L₁ (env.address .session)).data = (L (env.address .session)).data) :
    ∃ L', storeSession L₁ (env.address .session) s' = .ok L' := by
  obtain ⟨d, hd⟩ := exists_writeSession (sessionOf_eq_some.mp h).2 hsame
  exact ⟨L₁.setData (env.address .session) d, by simp [storeSession, hdata, hd]⟩

end Northstar.Portal
