import Northstar.Bridge.State
import Northstar.Lib.Methods
import Northstar.Lib.TreeMaps
import Northstar.Portal.Commitments
import Northstar.Proof.Binding

/-!
# The committed state of a rollup

The validator keeps the state of its rollup as a value of its own: the accounts, where each
of them came from, and counters for what was credited and withdrawn. Records of the ingress
chain and executed transactions change it. Every method checks its change on a copy, which takes
the place of the state at the end.
-/

namespace Northstar.Runtime

open Northstar.Portal Northstar.Proof Northstar.Bridge Bytes Checked Reader

/-- A map by keys of 32 bytes, in the order of the keys. -/
abbrev KeyMap (β : Type) := Std.ExtTreeMap Hash32 β compare

inductive ContinuityError
  | encoding
  | unsupportedVersion
  | invalidIdentity
  | invalidSequence
  | invalidRoot
  | invalidPayload
  deriving DecidableEq

inductive StateErrorV2
  | commitment (error : ContinuityError)
  | originConflict
  | invalidPrestate
  | invalidAccount
  | invalidCredit
  | tokenExecutionRequired
  | frozen
  | invalidAccounts
  | capacity
  deriving DecidableEq

/-- The result of a commitment. -/
def committing {α : Type} (result : Except ContinuityError α) : Except StateErrorV2 α :=
  result.mapError .commitment

@[simp] theorem committing_eq_ok {α : Type} {result : Except ContinuityError α} {a : α} :
    committing result = .ok a ↔ result = .ok a := by
  cases result <;> simp [committing, Except.mapError]

/-! ## Identities and records -/

structure SessionIdentityV2 where
  version : UInt8
  l1Genesis : Hash32
  portal : Hash32
  session : Hash32
  nonce : BitVec 128
  gridId : UInt64
  validator : Hash32
  profile : Hash32
  deriving DecidableEq

def SessionIdentityV2.bytes (identity : SessionIdentityV2) : List UInt8 :=
  [identity.version] ++ identity.l1Genesis.toList ++ identity.portal.toList ++
    identity.session.toList ++ le128 identity.nonce ++ le64 identity.gridId ++
    identity.validator.toList ++ identity.profile.toList

def SessionIdentityV2.commitment (env : Env) (identity : SessionIdentityV2) :
    Except ContinuityError Hash32 := do
  rejectIf (identity.version ≠ 2) .unsupportedVersion
  rejectIf (zero32 ∈ [identity.l1Genesis, identity.portal, identity.session, identity.validator,
    identity.profile] ∨ identity.nonce = 0) .invalidIdentity
  return Portal.commitment env (ascii "session") identity.bytes

/-- The record is the next one of the chain. Its authenticity on the L1 is checked elsewhere. -/
def validateNext (env : Env) (record : IngressRecordV2) (sessionContext : Hash32)
    (consumed : UInt64) (previousRoot : Hash32) : Except ContinuityError Unit := do
  rejectIf (record.version ≠ 2) .unsupportedVersion
  rejectIf (record.sessionContext ≠ sessionContext) .invalidIdentity
  rejectIf (checkedAdd consumed 1 ≠ some record.sequence) .invalidSequence
  rejectIf (¬record.payload.Valid) .invalidPayload
  rejectIf (record.previousRoot ≠ previousRoot ∨ record.root ≠ record.computedRoot env) .invalidRoot

/-! ## States -/

structure CommittedAccountV2 where
  owner : Hash32
  lamports : UInt64
  data : List UInt8
  executable : Bool
  rentEpoch : UInt64
  deriving DecidableEq

def CommittedAccountV2.empty : CommittedAccountV2 :=
  { owner := zero32
    lamports := 0
    data := []
    executable := false
    rentEpoch := 0 }

def CommittedAccountV2.stateValue (env : Env) (value : CommittedAccountV2) (account : Hash32) :
    StateAccountValueV1 :=
  { account
    owner := value.owner
    lamports := value.lamports
    executable := value.executable
    rentEpoch := value.rentEpoch
    dataHash := env.hashv [value.data] }

/-- **Where an account came from.** -/
inductive AccountOriginV2
  | erCreated
  | delegated (record : Hash32) (generation : UInt64)
  | solReceipt (receipt : Hash32)
  deriving DecidableEq

structure CommittedStateV2 where
  identity : SessionIdentityV2
  accounts : KeyMap CommittedAccountV2
  origins : KeyMap AccountOriginV2
  credited : KeyMap UInt64
  depositOrigins : KeyMap (UInt64 × UInt64)
  withdrawn : KeyMap UInt64
  frozen : KeyMap Hash32
  ingressCount : UInt64
  ingressRoot : Hash32
  deriving DecidableEq

/-! ### Encodings -/

def AccountOriginV2.bytes : AccountOriginV2 → List UInt8
  | erCreated => [0]
  | delegated record generation => [1] ++ record.toList ++ le64 generation
  | solReceipt receipt => [2] ++ receipt.toList

/-- Entries in the order of their keys, after their number. -/
def mapBytes {β : Type} (value : β → List UInt8) (m : KeyMap β) : List UInt8 :=
  le 4 m.size ++ m.toList.flatMap fun entry => entry.1.toList ++ value entry.2

/-- The length of an encoded map whose values have the length `value`. -/
def mapLength {β : Type} (value : β → Nat) (m : KeyMap β) : Nat :=
  4 + TreeMaps.weigh (fun v => 32 + value v) m

namespace CommittedStateV2

variable (env : Env)

/-- How many bytes the state takes, unless some part of it is too long for an encoding. -/
def objectLength (s : CommittedStateV2) : Option Nat :=
  if s.accounts.toList.all (fun entry => decide (entry.2.data.length < 2 ^ 32)) = true ∧
      s.origins.size < 2 ^ 32 ∧ s.credited.size < 2 ^ 32 ∧ s.depositOrigins.size < 2 ^ 32 ∧
      s.withdrawn.size < 2 ^ 32 ∧ s.frozen.size < 2 ^ 32 then
    some (s.identity.bytes.length + mapLength (fun v => 53 + v.data.length) s.accounts +
      mapLength (fun o => o.bytes.length) s.origins + mapLength (fun _ => 8) s.credited +
      mapLength (fun _ => 16) s.depositOrigins + mapLength (fun _ => 8) s.withdrawn +
      mapLength (fun _ => 32) s.frozen + 40)
  else none

/-- At most 4096 accounts, and at most a mebibyte. -/
def validateCapacity (s : CommittedStateV2) : Except StateErrorV2 Unit :=
  if 4096 < s.accounts.size then .error .capacity
  else do
    let length ← okOr s.objectLength .invalidAccounts
    rejectIf (1048576 < length) .capacity

def new (identity : SessionIdentityV2) : Except StateErrorV2 CommittedStateV2 := do
  let _ ← committing (identity.commitment env)
  return {
    identity
    accounts := ∅
    origins := ∅
    credited := ∅
    depositOrigins := ∅
    withdrawn := ∅
    frozen := ∅
    ingressCount := 0
    ingressRoot := zero32 }

def origin (s : CommittedStateV2) (account : Hash32) : Option AccountOriginV2 := s.origins[account]?

/-- What was withdrawn from an account so far. -/
def withdrawnOf (s : CommittedStateV2) (account : Hash32) : UInt64 := s.withdrawn[account]?.getD 0

def metadata (s : CommittedStateV2) : List UInt8 :=
  mapBytes AccountOriginV2.bytes s.origins ++ mapBytes le64 s.credited ++
    mapBytes (fun v => le64 v.1 ++ le64 v.2) s.depositOrigins ++ mapBytes le64 s.withdrawn ++
    mapBytes Vector.toList s.frozen

/-- **The opening** of the root of a state. -/
def opening (s : CommittedStateV2) : Except StateErrorV2 StateRootOpeningV2 := do
  s.validateCapacity
  let values := s.accounts.toList.map fun entry => entry.2.stateValue env entry.1
  let accountRoot ← okOr (stateRoot env.sha256 values) .invalidAccounts
  let originRoot := Portal.commitment env (ascii "origins") (env.hashv [s.metadata]).toList
  let sessionContext ← committing (s.identity.commitment env)
  return {
    sessionContext
    accountRoot
    originRoot
    ingressCount := s.ingressCount
    ingressRoot := s.ingressRoot }

end CommittedStateV2

/-- **A method of the state**: it returns nothing, and leaves a state. -/
abbrev StateMethod := Method StateErrorV2 CommittedStateV2 Unit

/-! ## Effects of a settlement -/

inductive SettlementEffectV2
  | solWithdrawal (source recipient : Hash32) (amount cumulativeWithdrawn : UInt64)
  | tokenWithdrawal (bridge sessionBridge account destination : Hash32) (amount : UInt64)
      (decimals : UInt8) (cumulativeWithdrawn : UInt64)
  deriving DecidableEq

def SettlementEffectV2.bytes : SettlementEffectV2 → List UInt8
  | solWithdrawal source recipient amount cumulativeWithdrawn =>
    0 :: (source.toList ++ (recipient.toList ++ (le64 amount ++ le64 cumulativeWithdrawn)))
  | tokenWithdrawal bridge sessionBridge account destination amount decimals cumulativeWithdrawn =>
    1 :: (bridge.toList ++ (sessionBridge.toList ++ (account.toList ++ (destination.toList ++
      (le64 amount ++ (decimals :: le64 cumulativeWithdrawn))))))

def parseSettlementEffectV2 (bytes : List UInt8) : Option SettlementEffectV2 := do
  let (variant, rest) ← readByte bytes
  if variant = 0 then do
    let (source, rest) ← read32 rest
    let (recipient, rest) ← read32 rest
    let (amount, rest) ← read64 rest
    let (cumulativeWithdrawn, rest) ← read64 rest
    atEnd rest
    some (.solWithdrawal source recipient amount cumulativeWithdrawn)
  else if variant = 1 then do
    let (bridge, rest) ← read32 rest
    let (sessionBridge, rest) ← read32 rest
    let (account, rest) ← read32 rest
    let (destination, rest) ← read32 rest
    let (amount, rest) ← read64 rest
    let (decimals, rest) ← readByte rest
    let (cumulativeWithdrawn, rest) ← read64 rest
    atEnd rest
    some (.tokenWithdrawal bridge sessionBridge account destination amount decimals
      cumulativeWithdrawn)
  else none

namespace SettlementEffectV2

/-- The account that an effect withdraws from. -/
def account : SettlementEffectV2 → Hash32
  | solWithdrawal source .. => source
  | tokenWithdrawal _ _ account .. => account

def amount : SettlementEffectV2 → UInt64
  | solWithdrawal _ _ amount _ => amount
  | tokenWithdrawal _ _ _ _ amount .. => amount

def cumulativeWithdrawn : SettlementEffectV2 → UInt64
  | solWithdrawal _ _ _ cumulativeWithdrawn => cumulativeWithdrawn
  | tokenWithdrawal _ _ _ _ _ _ cumulativeWithdrawn => cumulativeWithdrawn

end SettlementEffectV2

namespace CommittedStateV2

variable (env : Env)

/-- Lamports are withdrawn from accounts that deposits were credited to, within the credit,
and tokens from delegated accounts. -/
def checkSource (s : CommittedStateV2) : SettlementEffectV2 → Except StateErrorV2 Unit
  | .solWithdrawal source _ _ cumulativeWithdrawn =>
    match s.origins[source]? with
    | some (.solReceipt receipt) =>
      rejectIf (s.credited[receipt]?.getD 0 < cumulativeWithdrawn) .invalidCredit
    | _ => .error .originConflict
  | .tokenWithdrawal _ _ account .. =>
    match s.origins[account]? with
    | some (.delegated _ _) => .ok ()
    | _ => .error .originConflict

/-- One effect moves the counter of its account on by its amount. -/
def applySettlementEffect (s : CommittedStateV2) (encoded : List UInt8) :
    Except StateErrorV2 CommittedStateV2 := do
  let effect ← okOr (parseSettlementEffectV2 encoded) .invalidAccounts
  s.checkSource effect
  rejectIf (effect.amount = 0 ∨ checkedAdd (s.withdrawnOf effect.account) effect.amount ≠
    some effect.cumulativeWithdrawn) .invalidCredit
  return { s with withdrawn := s.withdrawn.insert effect.account effect.cumulativeWithdrawn }

def applySettlementEffects (effects : List (List UInt8)) : StateMethod := do
  let self ← get
  let next ← liftM (effects.foldlM applySettlementEffect self)
  next.validateCapacity
  set next

/-! ## Ingress -/

/-- A delegated account comes in with the data that was hashed on the L1. -/
def applyDelegation (s : CommittedStateV2) (sequence : UInt64) (account record owner : Hash32)
    (lamports : UInt64) (dataLen : UInt32) (dataHash : Hash32) (executable : Bool)
    (rentEpoch : UInt64) (accountData : List UInt8) : Except StateErrorV2 CommittedStateV2 := do
  rejectIf (s.accounts.contains account = true) .originConflict
  rejectIf (dataLen.toNat ≠ accountData.length ∨ env.hashv [accountData] ≠ dataHash) .invalidAccount
  return { s with
    accounts := s.accounts.insert account
      { owner, lamports, data := accountData, executable, rentEpoch }
    origins := s.origins.insert account (.delegated record sequence) }

/-- A deposit of lamports is credited to its recipient. -/
def applySolDeposit (s : CommittedStateV2) (recipient receipt : Hash32)
    (amount cumulativeDeposited : UInt64) : Except StateErrorV2 CommittedStateV2 := do
  rejectIf (checkedAdd (s.credited[receipt]?.getD 0) amount ≠ some cumulativeDeposited)
    .invalidCredit
  rejectIf (¬(s.origins[recipient]? = none ∨ s.origins[recipient]? = some .erCreated ∨
    s.origins[recipient]? = some (.solReceipt receipt))) .originConflict
  let value := s.accounts[recipient]?.getD .empty
  rejectIf (value.owner ≠ zero32 ∨ value.data ≠ [] ∨ value.executable = true) .invalidAccount
  let lamports ← okOr (checkedAdd value.lamports amount) .invalidCredit
  return { s with
    accounts := s.accounts.insert recipient { value with lamports }
    origins := s.origins.insert recipient (.solReceipt receipt)
    credited := s.credited.insert receipt cumulativeDeposited }

def applyFreeze (s : CommittedStateV2) (account request : Hash32) :
    Except StateErrorV2 CommittedStateV2 :=
  match s.origins[account]? with
  | some (.delegated _ _) => do
    rejectIf (s.frozen.contains account = true) .originConflict
    return { s with frozen := s.frozen.insert account request }
  | _ => .error .originConflict

/-- A released account leaves the state. -/
def applyRelease (s : CommittedStateV2) (account request : Hash32) :
    Except StateErrorV2 CommittedStateV2 := do
  rejectIf (s.frozen[account]? ≠ some request) .originConflict
  return { s with
    frozen := s.frozen.erase account
    accounts := s.accounts.erase account
    origins := s.origins.erase account }

/-- What the payload of a record does. -/
def applyPayload (s : CommittedStateV2) (sequence : UInt64) (accountData : List UInt8) :
    IngressPayloadV2 → Except StateErrorV2 CommittedStateV2
  | .delegation account record owner lamports dataLen dataHash executable rentEpoch =>
    s.applyDelegation env sequence account record owner lamports dataLen dataHash executable
      rentEpoch accountData
  | .solDeposit recipient receipt amount cumulativeDeposited =>
    s.applySolDeposit recipient receipt amount cumulativeDeposited
  | .tokenDeposit .. => .error .tokenExecutionRequired
  | .freeze account request _ => s.applyFreeze account request
  | .release account request => s.applyRelease account request

/-- **The next record of the ingress chain.** -/
def applyIngress (record : IngressRecordV2) (accountData : List UInt8) : StateMethod := do
  let self ← get
  let sessionContext ← committing (self.identity.commitment env)
  committing (validateNext env record sessionContext self.ingressCount self.ingressRoot)
  let next ← self.applyPayload env record.sequence accountData record.payload
  next.validateCapacity
  set { next with ingressCount := record.sequence, ingressRoot := record.root }

/-! ## Execution -/

/-- An account, as an execution finds or leaves it. -/
abbrev AccountEntry := Hash32 × CommittedAccountV2

/-- Keys ascend, and both lists have the same ones. -/
def canonical (pre post : List AccountEntry) : Prop :=
  pre.length = post.length ∧ pre.IsChain (fun a b => compare a.1 b.1 = .lt) ∧
    pre.map Prod.fst = post.map Prod.fst
  deriving Decidable

/-- One account: it is not frozen, it was found as it is committed, and it is replaced. -/
def applyAccount (s : CommittedStateV2) (step : AccountEntry × AccountEntry) :
    Except StateErrorV2 CommittedStateV2 := do
  let ((key, before), (_, after)) := step
  rejectIf (s.frozen.contains key = true) .frozen
  rejectIf (s.accounts[key]?.getD .empty ≠ before) .invalidPrestate
  return { s with
    origins := if s.origins.contains key = true then s.origins else s.origins.insert key .erCreated
    accounts := s.accounts.insert key after }

/-- **An executed transaction**: the accounts it found and left. -/
def applyExecution (pre post : List AccountEntry) : StateMethod := do
  let self ← get
  rejectIf (¬canonical pre post) StateErrorV2.invalidAccounts
  let next ← liftM ((pre.zip post).foldlM applyAccount self)
  next.validateCapacity
  set next

/-- The token account of a deposit, before and after it was executed. -/
def checkTokenAccount (s : CommittedStateV2) (bridge sessionBridge account mint : Hash32)
    (amount : UInt64) (post : List AccountEntry) : Except StateErrorV2 Unit := do
  let value ← okOr s.accounts[account]? .invalidAccount
  let before ← okOr (parseErTokenAccount value.data) .invalidAccount
  let entry ← okOr (post.find? fun entry => entry.1 = account) .invalidAccount
  let after ← okOr (parseErTokenAccount entry.2.data) .invalidAccount
  let credited ← okOr (checkedAdd before.amount amount) .invalidCredit
  rejectIf (before.sessionBridge ≠ sessionBridge ∨ before.mint ≠ mint ∨ value.owner ≠ bridge ∨
    entry.2.owner ≠ bridge ∨ after ≠ { before with amount := credited }) .invalidAccount

/-- What a receipt was credited with before a deposit. A new generation of its account starts
from what was deposited when it was delegated. -/
def priorCredit (s : CommittedStateV2) (generation : UInt64) (receipt : Hash32)
    (originDeposited : UInt64) : Except StateErrorV2 UInt64 :=
  match s.depositOrigins[receipt]? with
  | some (oldGeneration, origin) =>
    if oldGeneration = generation then do
      rejectIf (origin ≠ originDeposited) .invalidCredit
      okOr s.credited[receipt]? .invalidCredit
    else freshCredit s
  | none => freshCredit s
where
  freshCredit (s : CommittedStateV2) : Except StateErrorV2 UInt64 := do
    rejectIf (originDeposited < s.credited[receipt]?.getD 0) .invalidCredit
    return originDeposited

/-- **A token deposit**, executed by the bridge program. -/
def applyTokenIngressExecution (record : IngressRecordV2) (pre post : List AccountEntry) :
    StateMethod := do
  let self ← get
  let sessionContext ← committing (self.identity.commitment env)
  committing (validateNext env record sessionContext self.ingressCount self.ingressRoot)
  match record.payload with
  | .tokenDeposit bridge sessionBridge account receipt mint _ originDeposited amount
      cumulativeDeposited =>
    match self.origin account with
    | some (.delegated _ generation) => do
      self.checkTokenAccount bridge sessionBridge account mint amount post
      let prior ← self.priorCredit generation receipt originDeposited
      rejectIf (checkedAdd prior amount ≠ some cumulativeDeposited) StateErrorV2.invalidCredit
      let next ← (applyExecution pre post).on self
      let next := { next with
        credited := next.credited.insert receipt cumulativeDeposited
        depositOrigins := next.depositOrigins.insert receipt (generation, originDeposited)
        ingressCount := record.sequence
        ingressRoot := record.root }
      next.validateCapacity
      set next
    | _ => throw .originConflict
  | _ => throw .invalidCredit

end CommittedStateV2

/-! ## Recorded transitions -/

/-- What a step did. Its transaction is kept as the bytes that were signed. -/
inductive TransitionPayloadV2
  | tokenIngress (record : IngressRecordV2) (transaction : List UInt8)
      (pre post : List CommittedStateV2.AccountEntry) (executionResult replay : List UInt8)
  | ingress (record : IngressRecordV2) (accountData : List UInt8)
  | execution (transaction : List UInt8) (pre post : List CommittedStateV2.AccountEntry)
      (executionResult replay : List UInt8)
  deriving DecidableEq

structure RecordedTransitionV2 where
  erSlot : UInt64
  before : StateRootOpeningV2
  after : StateRootOpeningV2
  payload : TransitionPayloadV2
  readonlyL1Values : List ReadonlyL1ValueV1
  settlementEffects : List (List UInt8)
  deriving DecidableEq

/-- What the payload of a step does to the state. -/
def TransitionPayloadV2.apply (env : Env) (settlementEffects : List (List UInt8)) :
    TransitionPayloadV2 → StateMethod
  | tokenIngress record transaction pre post _ _ => do
    rejectIf (transaction = [] ∨ 1232 < transaction.length ∨ settlementEffects ≠ [])
      StateErrorV2.invalidAccounts
    CommittedStateV2.applyTokenIngressExecution env record pre post
  | ingress record accountData => do
    rejectIf (settlementEffects ≠ []) StateErrorV2.invalidAccounts
    CommittedStateV2.applyIngress env record accountData
  | execution transaction pre post _ _ => do
    rejectIf (transaction = [] ∨ 1232 < transaction.length) StateErrorV2.invalidAccounts
    CommittedStateV2.applyExecution pre post

/-- **One recorded step**, between the two openings that were recorded with it. -/
def RecordedTransitionV2.apply (env : Env) (transition : RecordedTransitionV2) : StateMethod := do
  let state ← get
  rejectIf (transition.erSlot = 0) StateErrorV2.invalidPrestate
  let before ← state.opening env
  rejectIf (before ≠ transition.before) StateErrorV2.invalidPrestate
  let candidate ← (transition.payload.apply env transition.settlementEffects).on state
  let candidate ←
    (CommittedStateV2.applySettlementEffects transition.settlementEffects).on candidate
  let after ← candidate.opening env
  rejectIf (after ≠ transition.after) StateErrorV2.invalidPrestate
  set candidate

end Northstar.Runtime
