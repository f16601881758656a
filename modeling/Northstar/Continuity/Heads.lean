import Northstar.Continuity.Lineage
import Northstar.Portal.Continuity

/-!
# The head of a lineage on the L1

The validator finds the last accepted checkpoint of its session in the accounts of the L1: the
cursor names the checkpoint, and the binding opens its two roots.

## Main definitions

* `getAccount`: the accounts of a bank
* `checkpointHeadFromL1V2`: the head of the checkpoints of a session
-/

namespace Northstar.Runtime

open Northstar.Portal Bytes Checked

/-- The account at an address. Between transactions an account without lamports has no data
either, and the bank does not keep it. -/
def getAccount (L : Ledger) (key : Pubkey) : Option Account :=
  if (L key).lamports = 0 ∧ (L key).data = .empty then none else some (L key)

theorem getAccount_of_data {L : Ledger} {key : Pubkey} (h : (L key).data ≠ .empty) :
    getAccount L key = some (L key) :=
  if_neg fun hnone => h hnone.2

section Heads

variable (env : Env) (L : Ledger)

/-- The account is Portal's own. -/
def requirePortal (account : Account) : Except IoErrorKind Unit :=
  rejectIf (account.owner ≠ env.programId ∨ account.executable = true) .invalidData

/-- The identity of the session. -/
def identityOf (frame : SessionV2) (session : Pubkey) : SessionIdentityV2 :=
  { version := 2
    l1Genesis := frame.l1Genesis
    portal := env.programId
    session
    nonce := frame.base.nonce
    gridId := frame.base.gridId
    validator := frame.base.validator
    profile := frame.profile }

/-- The checkpoint that the cursor names. -/
def acceptedCheckpoint (session : Pubkey) (frame : SessionV2) (cursor : CheckpointCursor) :
    Except IoErrorKind Checkpoint := do
  let account ← okOr (getAccount L cursor.latestFinalizedCheckpoint) .invalidData
  requirePortal env account
  match account.data with
  | .checkpoint checkpoint => do
    rejectIf (checkpoint.session ≠ session ∨ checkpoint.erSlot ≠ cursor.latestFinalizedErSlot ∨
      checkpoint.newStateRoot ≠ cursor.latestFinalizedStateRoot ∨
      checkpoint.proposer ≠ frame.base.validator ∨
      (findCheckpointPda env session checkpoint.erSlot).1 ≠ cursor.latestFinalizedCheckpoint ∨
      ¬(checkpoint.status = .committed ∨ checkpoint.status = .settled)) .invalidData
    return checkpoint
  | _ => .error .invalidData

/-- The binding of the checkpoint, which opens its two roots and consumes the prefix of the
ingress that the session has recorded as consumed. -/
def acceptedBinding (session : Pubkey) (frame : SessionV2) (key : Pubkey)
    (checkpoint : Checkpoint) : Except IoErrorKind CheckpointBindingV2 := do
  let (bindingKey, bump) := findCheckpointBindingV2Pda env key
  let account ← okOr (getAccount L bindingKey) .invalidData
  requirePortal env account
  match account.data with
  | .checkpointBindingV2 binding => do
    let context ← invalidOr ((identityOf env frame session).commitment env)
    let preRoot ← invalidOr (openingCommitment env binding.pre)
    let postRoot ← invalidOr (openingCommitment env binding.post)
    rejectIf (binding.bump ≠ bump ∨ binding.checkpoint ≠ key ∨
      binding.pre.sessionContext ≠ context ∨ binding.post.sessionContext ≠ context ∨
      binding.post.ingressCount ≠ frame.consumedIngressCount ∨
      binding.post.ingressRoot ≠ frame.consumedIngressRoot ∨
      preRoot ≠ checkpoint.previousStateRoot ∨ postRoot ≠ checkpoint.newStateRoot ∨
      binding.inputContextRoot ≠ checkpoint.readonlyL1Root) .invalidData
    return binding
  | _ => .error .invalidData

/-- The header of an accepted checkpoint, when its number of steps fits. -/
def headerOf (session : Pubkey) (checkpoint : Checkpoint) : Option CheckpointCommitmentV1 :=
  if checkpoint.stepCount.toNat < 2 ^ 32 then
    some
      { version := 2
        session
        erSlot := checkpoint.erSlot
        stepCount := UInt32.ofNat checkpoint.stepCount.toNat
        previousStateRoot := checkpoint.previousStateRoot
        newStateRoot := checkpoint.newStateRoot
        traceRoot := checkpoint.traceRoot
        transactionEffectRoot := checkpoint.txEffectRoot
        readonlyL1Root := checkpoint.readonlyL1Root
        daCommitment := checkpoint.daCommitment
        effectCommitment := checkpoint.effectCommitment }
  else none

/-- **The head** of the session's checkpoints, or none before the first one. -/
def checkpointHeadFromL1V2 (session : Pubkey) (frame : SessionV2) :
    Except IoErrorKind (Option (L1CheckpointHeadV2 × Checkpoint)) :=
  let (cursorKey, bump) := findCheckpointCursorPda env session
  match getAccount L cursorKey with
  | none => do
    rejectIf (frame.consumedIngressCount ≠ 0) .invalidData
    return none
  | some account => do
    requirePortal env account
    match account.data with
    | .cursor cursor => do
      rejectIf (cursor.session ≠ session ∨ cursor.bump ≠ bump) .invalidData
      if cursor.latestFinalizedCheckpoint = zero32 then do
        rejectIf (frame.consumedIngressCount ≠ 0 ∨ cursor.latestFinalizedErSlot ≠ 0 ∨
          cursor.latestFinalizedStateRoot ≠ zero32) .invalidData
        return none
      else do
        let checkpoint ← acceptedCheckpoint env L session frame cursor
        let key := cursor.latestFinalizedCheckpoint
        let binding ← acceptedBinding env L session frame key checkpoint
        let header ← okOr (headerOf session checkpoint) .invalidData
        let checkpointHash ← invalidOr
          (checkpointBindingHashV2 env header binding.pre binding.post)
        return some
          ({ checkpoint := key
             erSlot := checkpoint.erSlot
             stateRoot := checkpoint.newStateRoot
             checkpointHash }, checkpoint)
    | _ => .error .invalidData

end Heads

end Northstar.Runtime
