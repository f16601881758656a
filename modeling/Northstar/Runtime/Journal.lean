import Northstar.Continuity.Committed
import Northstar.Lib.Borsh
import Northstar.Lib.Run
import Northstar.Lib.Storage
import Northstar.Runtime.Withdrawals

/-!
# The journal of unsettled state

What the rollup executed and has not settled yet is kept on disk: a snapshot, and a journal of
the updates since. Every update is appended to the journal as a frame with its length and
checksum; from time to time the snapshot is written anew and the journal is truncated. After a
crash the snapshot is read back and the updates of the journal are applied to it.
-/

namespace Northstar.Runtime

open Northstar.Portal Bytes Checked Reader Borsh

/-! ## What is kept -/

structure UnsettledSessionIdentity where
  formatVersion : UInt16
  portalProgramId : Pubkey
  sessionPda : Pubkey
  nonce : BitVec 128
  createdAt : UInt64
  authority : Pubkey
  validator : Pubkey
  gridId : UInt64
  ttlSlots : UInt64
  feeCap : UInt64
  settlementIntervalSlots : UInt64
  bump : UInt8
  deriving DecidableEq

structure PersistedAccount where
  pubkey : Pubkey
  lamports : UInt64
  data : List UInt8
  owner : Pubkey
  executable : Bool
  rentEpoch : UInt64
  deriving DecidableEq

structure TokenWithdrawalPayoutEvent where
  bridgeProgram : Pubkey
  sessionBridge : Pubkey
  erTokenAccount : Pubkey
  l1DestinationTokenAccount : Pubkey
  amount : UInt64
  decimals : UInt8
  signature : Signature
  erSlot : UInt64
  deriving DecidableEq

structure PersistedSignature where
  signature : Signature
  slot : UInt64
  deriving DecidableEq

/-- **What is kept** of a session. A set is a map to nothing. -/
structure PersistedState where
  accounts : KeyMap PersistedAccount
  touchedAccounts : KeyMap Unit
  payoutEvents : List WithdrawalPayoutEvent
  tokenPayoutEvents : List TokenWithdrawalPayoutEvent
  processedSignatures : Std.ExtTreeMap Signature UInt64 compare
  deriving DecidableEq

def PersistedState.default : PersistedState :=
  { accounts := ∅
    touchedAccounts := ∅
    payoutEvents := []
    tokenPayoutEvents := []
    processedSignatures := ∅ }

/-- **An update.** Events that are not given stay as they are. -/
structure Mutation where
  accounts : List PersistedAccount
  touchedAccounts : List Pubkey
  payoutEvents : Option (List WithdrawalPayoutEvent)
  tokenPayoutEvents : Option (List TokenWithdrawalPayoutEvent)
  processedSignatures : List PersistedSignature
  deriving DecidableEq

def PersistedState.apply (s : PersistedState) (mutation : Mutation) : PersistedState :=
  { accounts :=
      mutation.accounts.foldl (fun m account => m.insert account.pubkey account) s.accounts
    touchedAccounts :=
      mutation.touchedAccounts.foldl (fun m key => m.insert key ()) s.touchedAccounts
    payoutEvents := mutation.payoutEvents.getD s.payoutEvents
    tokenPayoutEvents := mutation.tokenPayoutEvents.getD s.tokenPayoutEvents
    processedSignatures := mutation.processedSignatures.foldl
      (fun m entry => m.insert entry.signature entry.slot) s.processedSignatures }

structure Snapshot where
  identity : UnsettledSessionIdentity
  lastSequence : UInt64
  state : PersistedState

structure JournalRecord where
  sequence : UInt64
  mutation : Mutation

/-! ### Serialization -/

def UnsettledSessionIdentity.borsh : Borsh UnsettledSessionIdentity :=
  (word16.pair <| (vector 32).pair <| (vector 32).pair <| word128.pair <|
    word64.pair <| (vector 32).pair <| (vector 32).pair <| word64.pair <|
    word64.pair <| word64.pair <| word64.pair byte).iso
      (fun i => (i.formatVersion, i.portalProgramId, i.sessionPda, i.nonce, i.createdAt,
        i.authority, i.validator, i.gridId, i.ttlSlots, i.feeCap, i.settlementIntervalSlots,
        i.bump))
      (fun (formatVersion, portalProgramId, sessionPda, nonce, createdAt, authority, validator,
        gridId, ttlSlots, feeCap, settlementIntervalSlots, bump) =>
        { formatVersion, portalProgramId, sessionPda, nonce, createdAt, authority, validator,
          gridId, ttlSlots, feeCap, settlementIntervalSlots, bump })
      fun _ => rfl

def PersistedAccount.borsh : Borsh PersistedAccount :=
  ((vector 32).pair <| word64.pair <| byte.list.pair <| (vector 32).pair <|
    bool.pair word64).iso
      (fun a => (a.pubkey, a.lamports, a.data, a.owner, a.executable, a.rentEpoch))
      (fun (pubkey, lamports, data, owner, executable, rentEpoch) =>
        { pubkey, lamports, data, owner, executable, rentEpoch })
      fun _ => rfl

def WithdrawalPayoutEvent.borsh : Borsh WithdrawalPayoutEvent :=
  ((vector 32).pair <| (vector 32).pair <| word64.pair <| word64.pair <|
    (vector 64).pair word64).iso
      (fun e => (e.erSource, e.l1Recipient, e.lamports, e.cumulativeWithdrawn, e.signature,
        e.erSlot))
      (fun (erSource, l1Recipient, lamports, cumulativeWithdrawn, signature, erSlot) =>
        { erSource, l1Recipient, lamports, cumulativeWithdrawn, signature, erSlot })
      fun _ => rfl

def TokenWithdrawalPayoutEvent.borsh : Borsh TokenWithdrawalPayoutEvent :=
  ((vector 32).pair <| (vector 32).pair <| (vector 32).pair <|
    (vector 32).pair <| word64.pair <| byte.pair <|
    (vector 64).pair word64).iso
      (fun e => (e.bridgeProgram, e.sessionBridge, e.erTokenAccount, e.l1DestinationTokenAccount,
        e.amount, e.decimals, e.signature, e.erSlot))
      (fun (bridgeProgram, sessionBridge, erTokenAccount, l1DestinationTokenAccount, amount,
        decimals, signature, erSlot) =>
        { bridgeProgram, sessionBridge, erTokenAccount, l1DestinationTokenAccount, amount,
          decimals, signature, erSlot })
      fun _ => rfl

def PersistedSignature.borsh : Borsh PersistedSignature :=
  ((vector 64).pair word64).iso (fun s => (s.signature, s.slot))
    (fun (signature, slot) => { signature, slot }) fun _ => rfl

def PersistedState.borsh : Borsh PersistedState :=
  ((treeMap (vector 32) PersistedAccount.borsh).pair <|
    (treeMap (vector 32) unit).pair <| WithdrawalPayoutEvent.borsh.list.pair <|
    TokenWithdrawalPayoutEvent.borsh.list.pair <|
    treeMap (vector 64) word64).iso
      (fun s => (s.accounts, s.touchedAccounts, s.payoutEvents, s.tokenPayoutEvents,
        s.processedSignatures))
      (fun (accounts, touchedAccounts, payoutEvents, tokenPayoutEvents, processedSignatures) =>
        { accounts, touchedAccounts, payoutEvents, tokenPayoutEvents, processedSignatures })
      fun _ => rfl

/-- There is one variant. -/
def Mutation.borsh : Borsh Mutation :=
  (tagged 0 <| PersistedAccount.borsh.list.pair <| (vector 32).list.pair <|
    WithdrawalPayoutEvent.borsh.list.option.pair <|
    TokenWithdrawalPayoutEvent.borsh.list.option.pair PersistedSignature.borsh.list).iso
      (fun m => (m.accounts, m.touchedAccounts, m.payoutEvents, m.tokenPayoutEvents,
        m.processedSignatures))
      (fun (accounts, touchedAccounts, payoutEvents, tokenPayoutEvents, processedSignatures) =>
        { accounts, touchedAccounts, payoutEvents, tokenPayoutEvents, processedSignatures })
      fun _ => rfl

def Snapshot.borsh : Borsh Snapshot :=
  (UnsettledSessionIdentity.borsh.pair <| word64.pair PersistedState.borsh).iso
    (fun s => (s.identity, s.lastSequence, s.state))
    (fun (identity, lastSequence, state) => { identity, lastSequence, state }) fun _ => rfl

def JournalRecord.borsh : Borsh JournalRecord :=
  (word64.pair Mutation.borsh).iso (fun r => (r.sequence, r.mutation))
    (fun (sequence, mutation) => { sequence, mutation }) fun _ => rfl

/-! ## Files -/

/-- **The files**: the snapshot, the journal, and the file a snapshot is first written to. -/
inductive StoreFile
  | snapshot
  | journal
  | tmp
  deriving DecidableEq

abbrev StoreDisk := Storage.Disk StoreFile UInt8

abbrev FileOp := Storage.Op StoreFile UInt8

/-- What is read of the files. -/
structure Files where
  snapshot : Option (List UInt8)
  journal : Option (List UInt8)

def Files.of (disk : StoreDisk) : Files := ⟨disk.read .snapshot, disk.read .journal⟩

/-! ## The store -/

structure ActiveStore where
  identity : UnsettledSessionIdentity
  state : PersistedState
  sequence : UInt64
  recordsSinceCompaction : Nat
  journalBytes : Nat

/-- What the store keeps in memory. -/
structure Memory where
  active : Option ActiveStore
  writesEnabled : Bool

inductive RecoveryDisposition
  | new
  | recovered
  | droppedIdentityMismatch
  | droppedCorrupt
  deriving DecidableEq

def compactRecords : Nat := 128
def compactBytes : Nat := 16 * 1024 * 1024
def maxRecordBytes : Nat := 64 * 1024 * 1024

section Store

variable (hash : List UInt8 → Hash32)

/-- **A frame** of the journal: length, checksum and record. -/
def encodeRecord (record : JournalRecord) : Option (List UInt8) := do
  let payload ← JournalRecord.borsh.write record
  return le64 (UInt64.ofNat payload.length) ++ ((hash payload).toList ++ payload)

/-- One frame off the front of the journal. -/
def readFrame (bytes : List UInt8) : Option (JournalRecord × List UInt8) := do
  let (len, rest) ← read64 bytes
  guard (len.toNat ≤ maxRecordBytes)
  let (expectedChecksum, rest) ← read32 rest
  guard (len.toNat ≤ rest.length)
  let payload := rest.take len.toNat
  guard (hash payload = expectedChecksum)
  let record ← JournalRecord.borsh.fromSlice payload
  return (record, rest.drop len.toNat)

/-- The records of the journal. One that cannot be read spoils them all. -/
def readRecords : (fuel : Nat) → List UInt8 → Option (List JournalRecord)
  | _, [] => some []
  | 0, _ => none
  | fuel + 1, bytes => do
    let (record, rest) ← readFrame hash bytes
    let records ← readRecords fuel rest
    return record :: records

/-- Every frame takes more than a byte. -/
def readJournal (bytes : List UInt8) : Option (List JournalRecord) :=
  readRecords hash bytes.length bytes

/-- The operations that add a frame to the journal. -/
def frameOps (frame : List UInt8) : List FileOp :=
  [.openAppend .journal, .append .journal frame, .sync .journal]

/-- The operations that put a new snapshot in the place of the old one. -/
def snapshotOps (bytes : List UInt8) : List FileOp :=
  Storage.Disk.replaceOps .tmp .snapshot bytes

def writeSnapshot (snapshot : Snapshot) : Option (List FileOp) := do
  let bytes ← Snapshot.borsh.write snapshot
  return snapshotOps bytes

/-- What a call does: operations on the files, the memory after it, and whether it returns
without an error. -/
structure Effect where
  ops : List FileOp
  memory : Memory
  ok : Bool

def freshSnapshot (identity : UnsettledSessionIdentity) : Snapshot :=
  { identity, lastSequence := 0, state := .default }

/-- The session starts over, with a new snapshot and no journal. -/
def startOver (memory : Memory) (identity : UnsettledSessionIdentity)
    (disposition : RecoveryDisposition) : Effect × RecoveryDisposition :=
  match writeSnapshot (freshSnapshot identity) with
  | some ops =>
    ({ ops := .remove .journal :: ops
       memory :=
        { active := some
            { identity, state := .default, sequence := 0, recordsSinceCompaction := 0,
              journalBytes := 0 }
          writesEnabled := false }
       ok := true }, disposition)
  | none =>
    ({ ops := [.remove .journal], memory := { memory with writesEnabled := false }, ok := false },
      disposition)

/-- Apply the records the snapshot does not have yet. They must follow it without a gap. -/
def replay : Snapshot → (replayed : Nat) → List JournalRecord → Option (Snapshot × Nat)
  | snapshot, replayed, [] => some (snapshot, replayed)
  | snapshot, replayed, record :: records =>
    if record.sequence ≤ snapshot.lastSequence then replay snapshot replayed records
    else if record.sequence ≠ saturatingAdd snapshot.lastSequence 1 then none
    else
      replay
        { snapshot with
          lastSequence := record.sequence
          state := snapshot.state.apply record.mutation }
        (replayed + 1) records

/-- The session goes on where the files leave off. -/
def goOn (snapshot : Snapshot) (replayed journalBytes : Nat) : Effect × RecoveryDisposition :=
  ({ ops := []
     memory :=
      { active := some
          { identity := snapshot.identity
            state := snapshot.state
            sequence := snapshot.lastSequence
            recordsSinceCompaction := replayed
            journalBytes }
        writesEnabled := false }
     ok := true }, .recovered)

/-- **Beginning a session**: the files are read back if they are those of the session. -/
def beginSession (files : Files) (memory : Memory) (identity : UnsettledSessionIdentity) :
    Effect × RecoveryDisposition :=
  match files.snapshot with
  | some bytes =>
    match Snapshot.borsh.fromSlice bytes with
    | some snapshot =>
      if snapshot.identity = identity then
        match files.journal with
        | none => goOn snapshot 0 0
        | some journal =>
          match (readJournal hash journal).bind (replay snapshot 0) with
          | some (snapshot, replayed) => goOn snapshot replayed journal.length
          | none => startOver memory identity .droppedCorrupt
      else startOver memory identity .droppedIdentityMismatch
    | none => startOver memory identity .droppedCorrupt
  | none =>
    if files.journal.getD [] ≠ [] then startOver memory identity .droppedCorrupt
    else startOver memory identity .new

/-- The snapshot is written anew, then the journal is emptied. -/
def compact (ops : List FileOp) (active : ActiveStore) (memory : Memory) : Effect :=
  match writeSnapshot
    { identity := active.identity, lastSequence := active.sequence, state := active.state } with
  | some snapshotOps =>
    { ops := ops ++ (snapshotOps ++ [.create .journal, .sync .journal])
      memory := { memory with
        active := some { active with recordsSinceCompaction := 0, journalBytes := 0 } }
      ok := true }
  | none => { ops, memory := { memory with active := some active }, ok := false }

/-- **Appending an update.** While writes are disabled nothing is written. -/
def appendUpdate (memory : Memory) (mutation : Mutation) : Effect :=
  match memory.writesEnabled, memory.active with
  | true, some active =>
    let sequence := saturatingAdd active.sequence 1
    match encodeRecord hash { sequence, mutation } with
    | none => { ops := [], memory, ok := false }
    | some frame =>
      let ops := frameOps frame
      let active :=
        { active with
          state := active.state.apply mutation
          sequence
          recordsSinceCompaction := active.recordsSinceCompaction + 1
          journalBytes := active.journalBytes + frame.length }
      if compactRecords ≤ active.recordsSinceCompaction ∨ compactBytes ≤ active.journalBytes then
        compact ops active memory
      else { ops, memory := { memory with active := some active }, ok := true }
  | _, _ => { ops := [], memory, ok := true }

/-- The files of a session that is over are removed. -/
def clear : Effect :=
  { ops := [.remove .snapshot, .remove .journal]
    memory := { active := none, writesEnabled := false }
    ok := true }

end Store

end Northstar.Runtime
