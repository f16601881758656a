import Northstar.Portal.Encoding
import Northstar.Portal.Ledger

/-!
# Commitments of the second checkpoint format

Sessions, ingress records, state roots and input contexts of the second format are
committed to by one labelled hash whose top three bits are cleared, so that every
commitment is a field element.
-/

namespace Northstar.Portal

open Bytes Checked PortalError

variable (env : Env)

/-- A digest with its top three bits cleared, which makes it a field element. -/
def project (h : Hash32) : Hash32 := h.set 0 (h.get 0 &&& 0x1f)

/-- **Labelled commitment** to an encoded value. -/
def commitment (label encoded : List UInt8) : Hash32 :=
  project (env.hashv [ascii "northstar-continuity-v2", le 2 label.length, label,
    le 2 encoded.length, encoded])

/-! ## Sessions -/

/-- What identifies a session of the second format. -/
def SessionV2.identityBytes (frame : SessionV2) (portal session : Pubkey) : List UInt8 :=
  [2] ++ frame.l1Genesis.toList ++ portal.toList ++ session.toList ++ le128 frame.base.nonce ++
    le64 frame.base.gridId ++ frame.base.validator.toList ++ frame.profile.toList

/-- The commitment to a session's identity, which every record of the second format
carries. -/
def SessionV2.context (frame : SessionV2) (session : Pubkey) : Except ProgramError Hash32 := do
  rejectIf (zero32 ∈ [frame.l1Genesis, env.programId, session, frame.base.validator,
    frame.profile] ∨ frame.base.nonce = 0) invalidAccountData
  return commitment env (ascii "session") (frame.identityBytes env.programId session)

/-! ## Ingress records -/

/-- The account a payload is about. -/
def IngressPayloadV2.account : IngressPayloadV2 → Pubkey
  | .delegation account .. => account
  | .solDeposit recipient .. => recipient
  | .tokenDeposit _ _ account .. => account
  | .freeze account .. => account
  | .release account .. => account

/-- A payload that names its accounts and moves what it says. -/
def IngressPayloadV2.Valid (payload : IngressPayloadV2) : Prop :=
  payload.account ≠ zero32 ∧
    match payload with
    | .delegation _ record _ _ _ dataHash executable _ =>
      record ≠ zero32 ∧ dataHash ≠ zero32 ∧ executable = false
    | .solDeposit _ receipt amount cumulativeDeposited =>
      receipt ≠ zero32 ∧ 0 < amount ∧ amount ≤ cumulativeDeposited
    | .tokenDeposit bridge sessionBridge _ receipt mint tokenProgram originDeposited amount
        cumulativeDeposited =>
      zero32 ∉ [bridge, sessionBridge, receipt, mint, tokenProgram] ∧ 0 < amount ∧
        originDeposited.toNat + amount.toNat ≤ cumulativeDeposited.toNat
    | .freeze _ request _ => request ≠ zero32
    | .release _ request => request ≠ zero32

instance : (payload : IngressPayloadV2) → Decidable payload.Valid
  | .delegation .. => inferInstanceAs (Decidable (_ ∧ _ ∧ _ ∧ _))
  | .solDeposit .. => inferInstanceAs (Decidable (_ ∧ _ ∧ _ ∧ _))
  | .tokenDeposit .. => inferInstanceAs (Decidable (_ ∧ _ ∧ _ ∧ _))
  | .freeze .. => inferInstanceAs (Decidable (_ ∧ _))
  | .release .. => inferInstanceAs (Decidable (_ ∧ _))

/-- The root a record commits to. -/
def IngressRecordV2.computedRoot (r : IngressRecordV2) : Hash32 :=
  commitment env (ascii "ingress") ([r.version] ++ r.sessionContext.toList ++ le64 r.sequence ++
    le64 r.l1Slot ++ r.previousRoot.toList ++ r.payload.bytes)

/-- The next record of a session's ingress chain. -/
def IngressRecordV2.new (sessionContext : Hash32) (sequence l1Slot : UInt64)
    (previousRoot : Hash32) (payload : IngressPayloadV2) (bump : UInt8) :
    Except ProgramError IngressRecordV2 := do
  rejectIf (¬payload.Valid) invalidAccountData
  rejectIf (sessionContext = zero32 ∨ sequence = 0) invalidAccountData
  let record : IngressRecordV2 :=
    { version := 2
      sessionContext := sessionContext
      sequence := sequence
      l1Slot := l1Slot
      previousRoot := previousRoot
      payload := payload
      root := zero32
      bump := bump }
  return { record with root := record.computedRoot env }

/-- A record that follows `consumed` others of its session. -/
def IngressRecordV2.ValidNext (r : IngressRecordV2) (sessionContext : Hash32)
    (consumed : UInt64) (previousRoot : Hash32) : Prop :=
  r.version = 2 ∧ r.sessionContext = sessionContext ∧ checkedAdd consumed 1 = some r.sequence ∧
    r.payload.Valid ∧ r.previousRoot = previousRoot ∧ r.root = r.computedRoot env
  deriving Decidable

/-! ## Roots of a proposal -/

/-- The state root that is opened. -/
def StateRootOpeningV2.commitment (env : Env) (o : StateRootOpeningV2) :
    Except ProgramError Hash32 := do
  rejectIf (o.sessionContext = zero32 ∨ o.accountRoot = zero32 ∨ o.originRoot = zero32 ∨
    ¬(o.ingressCount = 0 ↔ o.ingressRoot = zero32)) invalidAccountData
  return Portal.commitment env (ascii "state") o.bytes

/-- The opening of the state a session starts with. -/
def emptyStateOpeningV2 (sessionContext : Hash32) : Except ProgramError StateRootOpeningV2 := do
  let emptyLeaf := env.hashv [ascii "northstar-checkpoint-v1", ascii "state",
    ascii "empty-leaf", le64 4, le32 0]
  let accountRoot := project (env.hashv [ascii "northstar-checkpoint-v1", ascii "state",
    ascii "root", le32 0, emptyLeaf.toList])
  let originRoot := commitment env (ascii "origins")
    (env.hashv [List.replicate 20 0]).toList
  let opening : StateRootOpeningV2 :=
    { sessionContext := sessionContext
      accountRoot := accountRoot
      originRoot := originRoot
      ingressCount := 0
      ingressRoot := zero32 }
  let _ ← opening.commitment env
  return opening

/-- What the steps of a checkpoint read from outside the session. -/
structure InputContextV2 where
  sessionContext : Hash32
  readonlyL1Root : Hash32
  ingressStart : UInt64
  ingressStartRoot : Hash32
  ingressEnd : UInt64
  ingressEndRoot : Hash32

/-- The root of what is read. -/
def InputContextV2.commitment (env : Env) (c : InputContextV2) : Except ProgramError Hash32 := do
  rejectIf (c.sessionContext = zero32 ∨ c.readonlyL1Root = zero32 ∨
    c.ingressEnd < c.ingressStart ∨ ¬(c.ingressStart = 0 ↔ c.ingressStartRoot = zero32) ∨
    ¬(c.ingressEnd = 0 ↔ c.ingressEndRoot = zero32)) invalidAccountData
  return Portal.commitment env (ascii "input-context") (c.sessionContext.toList ++
    c.readonlyL1Root.toList ++ le64 c.ingressStart ++ c.ingressStartRoot.toList ++
    le64 c.ingressEnd ++ c.ingressEndRoot.toList)

end Northstar.Portal
