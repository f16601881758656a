import Northstar.Game.Localnet
import Northstar.Runtime.StoreFiles

/-!
# What the journal keeps through a crash

The store is used by one call after another, and a crash may come at any point of a call. What
was not synced by then may be lost, or be on the disk in part. This file follows which updates a
session was given and how many of them were acknowledged, and says what is read back afterwards.

A frame that was torn by a crash makes the whole journal unreadable. And a journal that was made
since the directory was last synced, which is when the snapshot was last written, may be missing
after a crash with everything in it. As long as no crash does either, and every update is
journaled and can be read back, nothing that was acknowledged is lost.

## Main definitions

* `StoreEvent`: a call that completes, or a crash within it
* `Asked`: the updates of each session and how many of them were acknowledged
* `Intact`: the condition on an event

## Main results

* `acknowledged_updates_survive`: in every run of such events, beginning a session gives the
  state after some of its updates in order, all acknowledged ones among them
-/

namespace Northstar.Runtime

open Northstar.Portal Bytes Checked Reader Storage

/-! ## Runs of the store -/

inductive StoreCall
  | begin (identity : UnsettledSessionIdentity)
  | enableWrites
  | disableWrites
  | append (mutation : Mutation)
  | clear

open StoreCall

/-- **An event**: a call completes, or a crash comes after `done` of its operations on the
files. -/
inductive StoreEvent
  | completes (call : StoreCall)
  | crashes (call : StoreCall) (done : Nat) (cut : Cut StoreFile)

/-- **What was asked of the store**: the updates of each session, and how many of them were
acknowledged. -/
structure Asked where
  updates : UnsettledSessionIdentity → List Mutation
  acknowledged : UnsettledSessionIdentity → Nat

structure StoreWorld where
  disk : StoreDisk
  memory : Memory
  asked : Asked

/-- Nothing is on disk yet. -/
def StoreWorld.start : StoreWorld where
  disk := .empty
  memory := { active := none, writesEnabled := false }
  asked := { updates := fun _ => [], acknowledged := fun _ => 0 }

namespace Asked

/-- An update of a session. -/
def add (asked : Asked) (identity : UnsettledSessionIdentity) (mutation : Mutation) : Asked :=
  { asked with
    updates := Function.update asked.updates identity (asked.updates identity ++ [mutation]) }

/-- All updates of a session are acknowledged. -/
def acknowledge (asked : Asked) (identity : UnsettledSessionIdentity) : Asked :=
  { asked with
    acknowledged := Function.update asked.acknowledged identity (asked.updates identity).length }

/-- Beginning a session gives up every other one. -/
def giveUpOthers (asked : Asked) (identity : UnsettledSessionIdentity) : Asked :=
  { asked with acknowledged := fun i => if i = identity then asked.acknowledged i else 0 }

/-- The session goes on from the first `n` of its updates. -/
def goOnFrom (asked : Asked) (identity : UnsettledSessionIdentity) (n : Nat) : Asked :=
  { asked with
    updates := Function.update asked.updates identity ((asked.updates identity).take n) }

def giveUp (asked : Asked) : Asked := { asked with acknowledged := fun _ => 0 }

end Asked

section Runs

variable (hash : List UInt8 → Hash32)

/-- What a call does. -/
def StoreCall.effect (disk : StoreDisk) (memory : Memory) : StoreCall → Effect
  | begin identity => (beginSession hash (.of disk) memory identity).1
  | enableWrites => { ops := [], memory := { memory with writesEnabled := true }, ok := true }
  | disableWrites => { ops := [], memory := { memory with writesEnabled := false }, ok := true }
  | append mutation => appendUpdate hash memory mutation
  | clear => Runtime.clear

/-- What is asked when a call is made. An update that cannot be written is refused. -/
def StoreCall.asks (memory : Memory) (asked : Asked) : StoreCall → Asked
  | begin identity => asked.giveUpOthers identity
  | append mutation =>
    match memory.active with
    | some active =>
      if (encodeRecord hash { sequence := saturatingAdd active.sequence 1, mutation }).isSome then
        asked.add active.identity mutation
      else asked
    | none => asked
  | clear => asked.giveUp
  | _ => asked

/-- What has been answered when the call is complete. -/
def StoreCall.answers (memory : Memory) (effect : Effect) (asked : Asked) : StoreCall → Asked
  | begin identity =>
    match effect.memory.active with
    | some active => asked.goOnFrom identity active.sequence.toNat
    | none => asked
  | append _ =>
    match memory.active with
    | some active => if effect.ok then asked.acknowledge active.identity else asked
    | none => asked
  | _ => asked

/-- **One event.** A crash takes the memory. -/
def storeStep (w : StoreWorld) : StoreEvent → StoreWorld
  | .completes call =>
    let effect := call.effect hash w.disk w.memory
    { disk := w.disk.applyAll effect.ops
      memory := effect.memory
      asked := call.answers w.memory effect (call.asks hash w.memory w.asked) }
  | .crashes call done cut =>
    { disk := crashed (w.disk.applyAll ((call.effect hash w.disk w.memory).ops.take done)) cut
      memory := { active := none, writesEnabled := false }
      asked := call.asks hash w.memory w.asked }

/-- The state after some updates. -/
def stateAfter (updates : List Mutation) : PersistedState :=
  updates.foldl PersistedState.apply .default

/-- An update is given while a session is active and writes are enabled, the session is not
out of sequence numbers, and the record is not too long to be read back. -/
def Journaled (memory : Memory) (mutation : Mutation) : Prop :=
  memory.writesEnabled = true ∧ memory.active.any (fun active =>
    decide (active.sequence.toNat + 1 < 2 ^ 64) &&
      (JournalRecord.borsh.write
        { sequence := saturatingAdd active.sequence 1, mutation }).all
          fun payload => decide (payload.length ≤ maxRecordBytes)) = true
  deriving Decidable

/-- **The condition on an event**: every update is journaled, and a crash keeps the journal. -/
def Intact (w : StoreWorld) : StoreEvent → Prop
  | .completes call => ∀ mutation, call = .append mutation → Journaled w.memory mutation
  | .crashes call done cut =>
    (∀ mutation, call = .append mutation → Journaled w.memory mutation) ∧
      Kept (w.disk.applyAll ((call.effect hash w.disk w.memory).ops.take done)) cut

instance (w : StoreWorld) (call : StoreCall) :
    Decidable (∀ mutation, call = .append mutation → Journaled w.memory mutation) :=
  match call with
  | .append mutation =>
    decidable_of_iff (Journaled w.memory mutation)
      ⟨fun h _ heq => StoreCall.append.inj heq ▸ h, fun h => h mutation rfl⟩
  | .begin _ | .enableWrites | .disableWrites | .clear => isTrue fun _ h => by cases h

instance (w : StoreWorld) (event : StoreEvent) : Decidable (Intact hash w event) :=
  match event with
  | .completes call =>
    inferInstanceAs (Decidable (∀ mutation, call = .append mutation → Journaled w.memory mutation))
  | .crashes _ _ _ => inferInstanceAs (Decidable (_ ∧ _))

end Runs

/-! ## Frames -/

variable {hash : List UInt8 → Hash32}

section Frames

/-- The records of updates, numbered from `j`. -/
def recordsFrom : (j : Nat) → List Mutation → List JournalRecord
  | _, [] => []
  | j, mutation :: mutations =>
    { sequence := UInt64.ofNat (j + 1), mutation } :: recordsFrom (j + 1) mutations

variable (hash) in
/-- The frame of a record that is not too long to be read back. -/
def readableFrame (record : JournalRecord) : Option (List UInt8) := do
  let payload ← JournalRecord.borsh.write record
  guard (payload.length ≤ maxRecordBytes)
  encodeRecord hash record

variable (hash) in
/-- The frames of records. -/
def framesOf : List JournalRecord → Option (List UInt8)
  | [] => some []
  | record :: records => do
    let frame ← readableFrame hash record
    let rest ← framesOf records
    return frame ++ rest

theorem recordsFrom_append (j : Nat) (mutations : List Mutation) (mutation : Mutation) :
    recordsFrom j (mutations ++ [mutation]) =
      recordsFrom j mutations ++ [⟨UInt64.ofNat (j + mutations.length + 1), mutation⟩] := by
  induction mutations generalizing j with
  | nil => rfl
  | cons m mutations ih =>
    simp only [List.cons_append, recordsFrom, ih, List.length_cons]
    rw [show j + 1 + mutations.length = j + (mutations.length + 1) by omega]

theorem framesOf_append (h : framesOf hash records = some bytes)
    (hframe : readableFrame hash record = some frame) :
    framesOf hash (records ++ [record]) = some (bytes ++ frame) := by
  induction records generalizing bytes with
  | nil =>
    cases h
    simp [framesOf, hframe]
  | cons r records ih =>
    simp only [framesOf, chain_some] at h
    obtain ⟨first, hfirst, rest, hrest, rfl⟩ := h
    rw [List.cons_append, framesOf, hfirst, ih hrest]
    simp

/-- A frame is read back, whatever follows it. -/
theorem readFrame_append (rest : List UInt8) (h : readableFrame hash record = some frame) :
    readFrame hash (frame ++ rest) = some (record, rest) := by
  simp only [readableFrame, encodeRecord, chain_some, Option.guard_eq_some', exists_const] at h
  obtain ⟨payload, hpayload, hle, payload', hpayload', rfl⟩ := h
  obtain rfl : payload = payload' := Option.some.inj (hpayload.symm.trans hpayload')
  have hlen : (UInt64.ofNat payload.length).toNat = payload.length := by
    rw [UInt64.toNat_ofNat', Nat.mod_eq_of_lt]
    exact lt_of_le_of_lt hle (by decide)
  have hslice := JournalRecord.borsh.fromSlice_write hpayload
  simp only [readFrame, List.append_assoc, read64_append, read32_append, Option.bind_eq_bind,
    Option.bind_some, hlen, List.take_left', List.drop_left', hslice]
  simp [guard, hle]

theorem readableFrame_ne_nil (h : readableFrame hash record = some frame) : 0 < frame.length := by
  simp only [readableFrame, encodeRecord, chain_some, Option.guard_eq_some', exists_const] at h
  obtain ⟨payload, -, -, payload', -, rfl⟩ := h
  simp

theorem readRecords_framesOf (h : framesOf hash records = some bytes) :
    records.length ≤ bytes.length ∧
      ∀ fuel, records.length ≤ fuel → readRecords hash fuel bytes = some records := by
  induction records generalizing bytes with
  | nil =>
    cases h
    exact ⟨Nat.zero_le _, fun fuel _ => by cases fuel <;> rfl⟩
  | cons record records ih =>
    simp only [framesOf, chain_some] at h
    obtain ⟨frame, hframe, rest, hrest, rfl⟩ := h
    obtain ⟨hlength, hread⟩ := ih hrest
    have hpos := readableFrame_ne_nil hframe
    refine ⟨?_, fun fuel hfuel => ?_⟩
    · rw [List.length_cons, List.length_append]
      omega
    · rw [List.length_cons] at hfuel
      obtain ⟨fuel, rfl⟩ : ∃ n, fuel = n + 1 := ⟨fuel - 1, by omega⟩
      obtain ⟨b, frame', rfl⟩ : ∃ b bs, frame = b :: bs := List.exists_cons_of_length_pos hpos
      rw [List.cons_append, readRecords, ← List.cons_append, readFrame_append rest hframe]
      · simp only [Option.bind_eq_bind, Option.bind_some, hread fuel (by omega), Option.pure_def]
      · exact fun hnil => by simp at hnil

/-- **The journal is read back.** -/
theorem readJournal_framesOf (h : framesOf hash records = some bytes) :
    readJournal hash bytes = some records :=
  (readRecords_framesOf h).2 _ (readRecords_framesOf h).1

/-! ## Replaying -/

theorem toNat_ofNat_lt (h : n < 2 ^ 64) : (UInt64.ofNat n).toNat = n := by
  rw [UInt64.toNat_ofNat', Nat.mod_eq_of_lt h]

theorem saturatingAdd_one (h : n + 1 < 2 ^ 64) :
    saturatingAdd (UInt64.ofNat n) 1 = UInt64.ofNat (n + 1) := by
  have hn : (UInt64.ofNat n).toNat = n := toNat_ofNat_lt (by omega)
  rw [saturatingAdd, hn, if_pos (by simpa using h)]
  rw [← UInt64.toNat_inj, UInt64.toNat_add, hn, toNat_ofNat_lt h]
  exact Nat.mod_eq_of_lt h

/-- **Replaying**: records that the snapshot has are passed over, the others are applied. -/
theorem replay_recordsFrom (identity : UnsettledSessionIdentity) (mutations : List Mutation)
    (hjk : j ≤ k) (hk : k ≤ j + mutations.length) (hlt : j + mutations.length < 2 ^ 64)
    (state : PersistedState) (replayed : Nat) :
    ∃ replayed', replay ⟨identity, UInt64.ofNat k, state⟩ replayed (recordsFrom j mutations) =
      some (⟨identity, UInt64.ofNat (j + mutations.length),
        (mutations.drop (k - j)).foldl PersistedState.apply state⟩, replayed') := by
  induction mutations generalizing j k state replayed with
  | nil =>
    obtain rfl : j = k := Nat.le_antisymm hjk hk
    exact ⟨replayed, by simp [recordsFrom, replay]⟩
  | cons mutation mutations ih =>
    rw [List.length_cons] at hk hlt ⊢
    have hjnat : (UInt64.ofNat (j + 1)).toNat = j + 1 := toNat_ofNat_lt (by omega)
    have hknat : (UInt64.ofNat k).toNat = k := toNat_ofNat_lt (by omega)
    have hsum : j + (mutations.length + 1) = j + 1 + mutations.length := by omega
    rw [hsum, recordsFrom, replay]
    by_cases hhas : j + 1 ≤ k
    · -- the snapshot has the update already
      rw [if_pos (UInt64.le_iff_toNat_le.mpr (by rw [hjnat, hknat]; exact hhas))]
      obtain ⟨replayed', h⟩ := ih hhas (by omega) (by omega) state replayed
      refine ⟨replayed', ?_⟩
      rw [h, show k - j = (k - (j + 1)) + 1 by omega, List.drop_succ_cons]
    · obtain rfl : j = k := by omega
      have hnext : saturatingAdd (UInt64.ofNat j) 1 = UInt64.ofNat (j + 1) :=
        saturatingAdd_one (by omega)
      rw [if_neg (by rw [UInt64.le_iff_toNat_le, hjnat, hknat]; omega),
        if_neg (not_not.mpr hnext.symm)]
      obtain ⟨replayed', h⟩ := ih (Nat.le_refl (j + 1)) (by omega) (by omega)
        (state.apply mutation) (replayed + 1)
      refine ⟨replayed', ?_⟩
      rw [h]
      simp

end Frames

/-! ## What is on disk -/

variable {files : Files} {asked : Asked} {identity : UnsettledSessionIdentity} {j k m : Nat}

section OnDisk

variable (hash : List UInt8 → Hash32)

/-- **The files hold** the first `m` updates of a session: the first `k` are in the snapshot,
those after the first `j` in the journal. No other session has anything acknowledged. -/
structure Holds (files : Files) (asked : Asked) (identity : UnsettledSessionIdentity)
    (j k m : Nat) : Prop where
  snapshot : ∃ bytes, files.snapshot = some bytes ∧ Snapshot.borsh.write
    ⟨identity, UInt64.ofNat k, stateAfter ((asked.updates identity).take k)⟩ = some bytes
  journal : framesOf hash (recordsFrom j (((asked.updates identity).take m).drop j)) =
    some (files.journal.getD [])
  snapshotted : j ≤ k
  journaled : k ≤ m
  given : m ≤ (asked.updates identity).length
  numbered : ∀ i, (asked.updates i).length < 2 ^ 64
  acknowledged : asked.acknowledged identity ≤ m
  others : ∀ i, i ≠ identity → asked.acknowledged i = 0

/-- What the files hold, if anything; nothing that was acknowledged is missing. -/
def OnDisk (files : Files) (asked : Asked) : Prop :=
  (files.snapshot = none ∧ (∀ i, (asked.updates i).length < 2 ^ 64) ∧
      ∀ i, asked.acknowledged i = 0) ∨
    ∃ identity j k m, Holds hash files asked identity j k m

variable {hash}

/-- What a snapshot and the updates after it make up. -/
theorem foldl_drop_take {updates : List Mutation} (hjk : j ≤ k) (hkm : k ≤ m) :
    (((updates.take m).drop j).drop (k - j)).foldl PersistedState.apply
      (stateAfter (updates.take k)) = stateAfter (updates.take m) := by
  have hsplit : updates.take m = updates.take k ++ (updates.take m).drop k := by
    conv_lhs => rw [← List.take_append_drop k (updates.take m)]
    rw [List.take_take, Nat.min_eq_left hkm]
  rw [List.drop_drop, Nat.add_sub_cancel' hjk]
  conv_rhs => rw [hsplit]
  rw [stateAfter, stateAfter, List.foldl_append]

/-! ## Beginning a session -/

/-- **A session that the files hold goes on.** -/
theorem Holds.beginSession (h : Holds hash files asked identity j k m) (memory : Memory) :
    ∃ replayed journalBytes, Runtime.beginSession hash files memory identity =
      goOn ⟨identity, UInt64.ofNat m, stateAfter ((asked.updates identity).take m)⟩ replayed
        journalBytes := by
  obtain ⟨bytes, hsnapshot, hwrite⟩ := h.snapshot
  have hslice := Snapshot.borsh.fromSlice_write hwrite
  have hlength : j + (((asked.updates identity).take m).drop j).length = m := by
    have hgiven := h.given
    have hjk := h.snapshotted
    have hkm := h.journaled
    simp only [List.length_drop, List.length_take]
    omega
  have hread := readJournal_framesOf h.journal
  have hgiven := h.given
  have hnumbered := h.numbered identity
  have hkm := h.journaled
  obtain ⟨replayed, hreplay⟩ := replay_recordsFrom identity
    (((asked.updates identity).take m).drop j) h.snapshotted (by rw [hlength]; exact h.journaled)
    (by rw [hlength]; omega) (stateAfter ((asked.updates identity).take k)) 0
  rw [hlength, foldl_drop_take h.snapshotted h.journaled] at hreplay
  simp only [Runtime.beginSession, hsnapshot, hslice, if_true]
  cases hjournal : files.journal with
  | none =>
    -- no journal, no records
    rw [hjournal, Option.getD_none] at hread
    have hnil : recordsFrom j (((asked.updates identity).take m).drop j) = [] :=
      (Option.some.inj hread).symm
    rw [hnil] at hreplay
    obtain ⟨hsame, -⟩ := Prod.mk.inj (Option.some.inj hreplay)
    exact ⟨0, 0, by rw [hsame]⟩
  | some journal =>
    rw [hjournal, Option.getD_some] at hread
    simp only [hread, Option.bind_some, hreplay]
    exact ⟨replayed, journal.length, rfl⟩

theorem Holds.beginSession_other (h : Holds hash files asked identity j k m) (memory : Memory)
    (hne : other ≠ identity) :
    Runtime.beginSession hash files memory other =
      startOver memory other .droppedIdentityMismatch := by
  obtain ⟨bytes, hsnapshot, hwrite⟩ := h.snapshot
  have hslice := Snapshot.borsh.fromSlice_write hwrite
  simp only [Runtime.beginSession, hsnapshot, hslice]
  exact if_neg (Ne.symm hne)

theorem beginSession_none (h : files.snapshot = none) (memory : Memory)
    (identity : UnsettledSessionIdentity) : ∃ disposition,
      Runtime.beginSession hash files memory identity = startOver memory identity disposition := by
  simp only [Runtime.beginSession, h]
  split
  · exact ⟨_, rfl⟩
  · exact ⟨_, rfl⟩

/-- The snapshot of a session without updates can be written. -/
theorem exists_write_freshSnapshot (identity : UnsettledSessionIdentity) :
    ∃ bytes, Snapshot.borsh.write (freshSnapshot identity) = some bytes := ⟨_, rfl⟩

theorem exists_startOver (memory : Memory) (identity : UnsettledSessionIdentity)
    (disposition : RecoveryDisposition) : ∃ bytes,
      Snapshot.borsh.write (freshSnapshot identity) = some bytes ∧
      (startOver memory identity disposition).1 =
        { ops := .remove .journal :: snapshotOps bytes
          memory :=
            { active := some
                { identity, state := .default, sequence := 0, recordsSinceCompaction := 0,
                  journalBytes := 0 }
              writesEnabled := false }
          ok := true } := by
  obtain ⟨bytes, hbytes⟩ := exists_write_freshSnapshot identity
  refine ⟨bytes, hbytes, ?_⟩
  simp only [startOver, writeSnapshot, hbytes]
  rfl

/-- A session that starts over has no updates on disk. -/
theorem holds_fresh (hsnapshot : files.snapshot = some bytes)
    (hbytes : Snapshot.borsh.write (freshSnapshot identity) = some bytes)
    (hjournal : files.journal.getD [] = []) (hnumbered : ∀ i, (asked.updates i).length < 2 ^ 64)
    (hzero : ∀ i, asked.acknowledged i = 0) : Holds hash files asked identity 0 0 0 where
  snapshot := ⟨bytes, hsnapshot, hbytes⟩
  journal := by
    rw [hjournal]
    rfl
  snapshotted := Nat.le_refl 0
  journaled := Nat.le_refl 0
  given := Nat.zero_le _
  numbered := hnumbered
  acknowledged := (hzero identity).le
  others i _ := hzero i

/-- Without its journal a session has what is in the snapshot. -/
theorem OnDisk.removeJournal (h : OnDisk hash files asked) (hzero : ∀ i, asked.acknowledged i = 0) :
    OnDisk hash ⟨files.snapshot, none⟩ asked := by
  rcases h with ⟨hnone, hnumbered, -⟩ | ⟨identity, j, k, m, h⟩
  · exact .inl ⟨hnone, hnumbered, hzero⟩
  · refine .inr ⟨identity, k, k, k, h.snapshot, ?_, Nat.le_refl k, Nat.le_refl k,
      h.journaled.trans h.given, h.numbered, ?_, h.others⟩
    · rw [List.drop_eq_nil_of_le (List.length_take_le _ _)]
      rfl
    · rw [hzero identity]
      exact Nat.zero_le k

end OnDisk

/-! ## Updates and snapshots -/

theorem Holds.congr (h : Holds hash files asked identity j k m)
    (hsnapshot : files'.snapshot = files.snapshot)
    (hjournal : files'.journal.getD [] = files.journal.getD []) :
    Holds hash files' asked identity j k m :=
  { h with
    snapshot := by
      rw [hsnapshot]
      exact h.snapshot
    journal := by
      rw [hjournal]
      exact h.journal }

@[simp] theorem updates_add_self : (asked.add identity mutation).updates identity =
    asked.updates identity ++ [mutation] := Function.update_self ..

theorem length_updates_add_lt (hnumbered : ∀ i, (asked.updates i).length < 2 ^ 64)
    (hroom : (asked.updates identity).length + 1 < 2 ^ 64) (i : UnsettledSessionIdentity) :
    ((asked.add identity mutation).updates i).length < 2 ^ 64 := by
  by_cases hi : i = identity
  · subst hi
    rw [updates_add_self, List.length_append, List.length_singleton]
    exact hroom
  · have hsame : (asked.add identity mutation).updates i = asked.updates i :=
      Function.update_of_ne hi ..
    rw [hsame]
    exact hnumbered i

/-- An update that is under way changes nothing on disk. -/
theorem Holds.add (h : Holds hash files asked identity j k m)
    (hroom : (asked.updates identity).length + 1 < 2 ^ 64) :
    Holds hash files (asked.add identity mutation) identity j k m where
  snapshot := by
    rw [updates_add_self, List.take_append_of_le_length (h.journaled.trans h.given)]
    exact h.snapshot
  journal := by
    rw [updates_add_self, List.take_append_of_le_length h.given]
    exact h.journal
  snapshotted := h.snapshotted
  journaled := h.journaled
  given := by
    rw [updates_add_self, List.length_append]
    exact h.given.trans (Nat.le_add_right _ _)
  numbered := length_updates_add_lt h.numbered hroom
  acknowledged := h.acknowledged
  others := h.others

/-- **An update that was written** is held. -/
theorem Holds.append (h : Holds hash files asked identity j k (asked.updates identity).length)
    (hroom : (asked.updates identity).length + 1 < 2 ^ 64)
    (hframe : readableFrame hash ⟨UInt64.ofNat ((asked.updates identity).length + 1), mutation⟩ =
      some frame) :
    Holds hash ⟨files.snapshot, some (files.journal.getD [] ++ frame)⟩ (asked.add identity mutation)
      identity j k ((asked.updates identity).length + 1) where
  snapshot := (h.add hroom).snapshot
  journal := by
    have hj : j ≤ (asked.updates identity).length := h.snapshotted.trans h.journaled
    have hold := h.journal
    rw [List.take_length] at hold
    have hall : (asked.updates identity ++ [mutation]).take
        ((asked.updates identity).length + 1) = asked.updates identity ++ [mutation] :=
      List.take_of_length_le (by simp)
    have hnumber : j + ((asked.updates identity).drop j).length + 1 =
        (asked.updates identity).length + 1 := by
      rw [List.length_drop]
      omega
    rw [updates_add_self, hall, List.drop_append_of_le_length hj, recordsFrom_append, hnumber]
    exact framesOf_append hold hframe
  snapshotted := h.snapshotted
  journaled := h.journaled.trans (Nat.le_succ _)
  given := by simp
  numbered := length_updates_add_lt h.numbered hroom
  acknowledged := h.acknowledged.trans (Nat.le_succ _)
  others := h.others

/-- A new snapshot holds everything the journal does. -/
theorem Holds.snapshotAll (h : Holds hash files asked identity j k m) (hbytes : Snapshot.borsh.write
      ⟨identity, UInt64.ofNat m, stateAfter ((asked.updates identity).take m)⟩ = some bytes) :
    Holds hash ⟨some bytes, files.journal⟩ asked identity j m m :=
  { h with
    snapshot := ⟨bytes, rfl, hbytes⟩
    snapshotted := h.snapshotted.trans h.journaled
    journaled := Nat.le_refl m }

/-- The journal is not needed beside a snapshot that holds everything. -/
theorem Holds.truncate (h : Holds hash files asked identity j m m) :
    Holds hash ⟨files.snapshot, some []⟩ asked identity m m m :=
  { h with
    journal := by
      rw [List.drop_eq_nil_of_le (List.length_take_le _ _)]
      rfl
    snapshotted := Nat.le_refl m }

/-! ## The invariant -/

section Invariant

variable (hash : List UInt8 → Hash32)

/-- The store in memory is up to date with the files. -/
structure Alive (files : Files) (asked : Asked) (active : ActiveStore) : Prop where
  holds : ∃ j k, Holds hash files asked active.identity j k (asked.updates active.identity).length
  sequence : active.sequence = UInt64.ofNat (asked.updates active.identity).length
  state : active.state = stateAfter (asked.updates active.identity)

/-- **The invariant.** What a crash may bring back after the files were removed matters to no
session, as nothing is acknowledged. -/
structure StoreInv (w : StoreWorld) : Prop where
  tidy : Tidy w.disk
  onDisk : OnDisk hash (.of w.disk) w.asked
  alive : ∀ active, w.memory.active = some active →
    Steady w.disk ∧ Alive hash (.of w.disk) w.asked active
  left : Steady w.disk ∨ w.disk.read .snapshot = none ∧
    (∀ i, w.asked.acknowledged i = 0) ∧ Always (fun files => OnDisk hash files w.asked) w.disk

variable {hash}

theorem storeInv_start : StoreInv hash .start where
  tidy := ⟨.settled (fun _ _ h => by cases h) _, fun _ _ _ _ _ => rfl, rfl⟩
  onDisk := .inl ⟨rfl, fun _ => Nat.two_pow_pos 64, fun _ => rfl⟩
  alive _ h := by cases h
  left := .inl fun _ => ⟨rfl, .inl rfl⟩

theorem OnDisk.insensitive : Insensitive fun files => OnDisk hash files asked := by
  intro snapshot
  constructor
  · rintro (h | ⟨identity, j, k, m, h⟩)
    · exact .inl h
    · exact .inr ⟨identity, j, k, m, h.congr rfl rfl⟩
  · rintro (h | ⟨identity, j, k, m, h⟩)
    · exact .inl h
    · exact .inr ⟨identity, j, k, m, h.congr rfl rfl⟩

theorem OnDisk.numbered (h : OnDisk hash files asked) (i : UnsettledSessionIdentity) :
    (asked.updates i).length < 2 ^ 64 := by
  rcases h with ⟨-, hnumbered, -⟩ | ⟨identity, j, k, m, h⟩
  · exact hnumbered i
  · exact h.numbered i

/-- Every session may be given up. -/
theorem OnDisk.giveUp (h : OnDisk hash files asked) (acknowledged : UnsettledSessionIdentity → Nat)
    (hzero : ∀ i, acknowledged i = 0) : OnDisk hash files { asked with acknowledged } := by
  rcases h with ⟨hnone, hnumbered, -⟩ | ⟨identity, j, k, m, h⟩
  · exact .inl ⟨hnone, hnumbered, hzero⟩
  · exact .inr ⟨identity, j, k, m, { h with
      acknowledged := (hzero identity).le.trans (Nat.zero_le m)
      others := fun i _ => hzero i }⟩

/-- Nothing that a crash takes from the files is missed. -/
theorem StoreInv.safe (h : StoreInv hash w) :
    Safe (fun files => OnDisk hash files w.asked) w.disk := by
  rcases h.left with hsteady | ⟨-, -, halways⟩
  · exact safe_of_steady h.tidy hsteady OnDisk.insensitive h.onDisk
  · exact halways.safe

/-- **When every session is given up**, it does not matter what a crash leaves. -/
theorem StoreInv.always (h : StoreInv hash w) (acknowledged : UnsettledSessionIdentity → Nat)
    (hzero : ∀ i, acknowledged i = 0) :
    Always (fun files => OnDisk hash files { w.asked with acknowledged }) w.disk := by
  intro cut
  rcases h.left with hsteady | ⟨-, -, halways⟩
  · have hon := h.onDisk.giveUp acknowledged hzero
    rcases files_crash_of_steady h.tidy hsteady cut with ⟨-, hfiles⟩ | hfiles
    · rw [hfiles]
      exact hon.removeJournal hzero
    · rw [hfiles]
      exact hon
  · exact (halways cut).giveUp acknowledged hzero

/-- **A crash** within a call leaves what it may, and nothing in memory. -/
theorem storeInv_crashed {disk : StoreDisk} {ops : List FileOp} (hsound : disk.Sound isJournal)
    (hops : ∀ op ∈ ops, Disk.Keeps isJournal op)
    (hsafe : ∀ done, Safe (fun files => OnDisk hash files asked) (disk.applyAll (ops.take done)))
    (hkept : Kept (disk.applyAll (ops.take done)) cut) :
    StoreInv hash ⟨crashed (disk.applyAll (ops.take done)) cut, ⟨none, false⟩, asked⟩ := by
  obtain ⟨htidy, hsteady⟩ := tidy_crashed
    (hsound.applyAll fun op hop => hops op (List.mem_of_mem_take hop)) cut
  refine ⟨htidy, ?_, fun _ h => ?_, .inl hsteady⟩
  · rw [files_crashed]
    exact hsafe done cut hkept
  · cases h

theorem keeps_snapshotOps (bytes : List UInt8) :
    ∀ op ∈ snapshotOps bytes, Disk.Keeps isJournal op := by
  simp only [snapshotOps, Disk.replaceOps, List.forall_mem_cons]
  exact ⟨trivial, trivial, trivial, rfl, trivial, fun _ h => by cases h⟩

/-- **Starting over** leaves the old session or the new one on disk, and in the end the new
one. -/
theorem startOver_spec {disk : StoreDisk} (h : Tidy disk) (hon : OnDisk hash (.of disk) asked)
    (halways : Always (fun files => OnDisk hash files asked) disk)
    (hzero : ∀ i, asked.acknowledged i = 0)
    (hbytes : Snapshot.borsh.write (freshSnapshot identity) = some bytes) :
    (∀ done, Safe (fun files => OnDisk hash files asked)
      (disk.applyAll ((.remove .journal :: snapshotOps bytes).take done))) ∧
    Tidy (disk.applyAll (.remove .journal :: snapshotOps bytes)) ∧
    Steady (disk.applyAll (.remove .journal :: snapshotOps bytes)) ∧
    Holds hash (.of (disk.applyAll (.remove .journal :: snapshotOps bytes)))
      asked identity 0 0 0 := by
  have hread : (disk.apply (.remove .journal)).read .journal = none := read_remove_self .journal
  have hremoved : Always (fun files => OnDisk hash files asked)
      (disk.apply (.remove .journal)) := by
    refine always_remove h .journal halways ?_
    rw [Files.of, hread, read_remove_of_ne (by decide)]
    exact hon.removeJournal hzero
  have hnew : Holds hash ⟨some bytes, (disk.apply (.remove .journal)).read .journal⟩ asked
      identity 0 0 0 := by
    rw [hread]
    exact holds_fresh rfl hbytes rfl hon.numbered hzero
  obtain ⟨htidy, hsteady, hfiles, -⟩ := tidy_snapshot (h.remove .journal) bytes
  refine ⟨Disk.forall_take_cons.mpr ⟨halways.safe, fun done => ?_⟩, htidy, hsteady, ?_⟩
  · exact forall_safe_snapshot (h.remove .journal) hremoved.safe (.inr ⟨_, _, _, _, hnew⟩) done
  · show Holds hash (.of ((disk.apply (.remove .journal)).applyAll (snapshotOps bytes))) _ _ _ _ _
    rw [hfiles]
    exact hnew

end Invariant

/-! ## Steps -/

section Steps

variable {memory : Memory}

/-- Giving up other sessions takes nothing from the one on disk. -/
theorem Holds.giveUpOthers (h : Holds hash files asked identity j k m) :
    Holds hash files (asked.giveUpOthers identity) identity j k m :=
  { h with
    acknowledged := by
      rw [show (asked.giveUpOthers identity).acknowledged identity =
        asked.acknowledged identity from if_pos rfl]
      exact h.acknowledged
    others := fun _ hi => if_neg hi }

/-- The session goes on from what is on disk. -/
theorem Holds.goOnFrom (h : Holds hash files asked identity j k m) :
    Holds hash files (asked.goOnFrom identity m) identity j k
      ((asked.goOnFrom identity m).updates identity).length ∧
    (asked.goOnFrom identity m).updates identity = (asked.updates identity).take m := by
  have hupdates : (asked.goOnFrom identity m).updates identity =
    (asked.updates identity).take m := Function.update_self ..
  have hlength : ((asked.updates identity).take m).length = m :=
    List.length_take_of_le h.given
  refine ⟨?_, hupdates⟩
  rw [hupdates, hlength]
  refine ⟨?_, ?_, h.snapshotted, h.journaled, ?_, ?_, h.acknowledged, h.others⟩
  · rw [hupdates, List.take_take, Nat.min_eq_left h.journaled]
    exact h.snapshot
  · rw [hupdates, List.take_take, Nat.min_self]
    exact h.journal
  · rw [hupdates, hlength]
  · intro i
    by_cases hi : i = identity
    · subst hi
      rw [hupdates, hlength]
      exact lt_of_le_of_lt h.given (h.numbered i)
    · have hsame : (asked.goOnFrom identity m).updates i = asked.updates i :=
        Function.update_of_ne hi ..
      rw [hsame]
      exact h.numbered i

/-- What beginning a session finds: its own files, or others that it replaces. -/
theorem OnDisk.beginSession (h : OnDisk hash files asked) (memory : Memory)
    (identity : UnsettledSessionIdentity) :
    (∃ j k m replayed journalBytes, Holds hash files asked identity j k m ∧
      Runtime.beginSession hash files memory identity =
        goOn ⟨identity, UInt64.ofNat m, stateAfter ((asked.updates identity).take m)⟩ replayed
          journalBytes) ∨
    ((∀ i, (asked.giveUpOthers identity).acknowledged i = 0) ∧ ∃ disposition,
        Runtime.beginSession hash files memory identity =
          startOver memory identity disposition) := by
  rcases h with ⟨hnone, hnumbered, hzero⟩ | ⟨on, j, k, m, hholds⟩
  · refine .inr ⟨fun i => ?_, beginSession_none hnone memory identity⟩
    show (if i = identity then asked.acknowledged i else 0) = 0
    rw [hzero i, ite_self]
  · by_cases hid : identity = on
    · subst hid
      obtain ⟨replayed, journalBytes, hbegin⟩ := hholds.beginSession memory
      exact .inl ⟨j, k, m, replayed, journalBytes, hholds, hbegin⟩
    · refine .inr ⟨fun i => ?_, .droppedIdentityMismatch, hholds.beginSession_other memory hid⟩
      show (if i = identity then asked.acknowledged i else 0) = 0
      split
      · rename_i hi
        exact hholds.others i fun heq => hid (hi.symm.trans heq)
      · rfl

/-- **Beginning a session** keeps the invariant. -/
theorem storeInv_begin (h : StoreInv hash w) (identity : UnsettledSessionIdentity) :
    StoreInv hash (storeStep hash w (.completes (.begin identity))) ∧
      ∀ done cut, Kept (w.disk.applyAll
          (((begin identity).effect hash w.disk w.memory).ops.take done)) cut →
        StoreInv hash (storeStep hash w (.crashes (.begin identity) done cut)) := by
  rcases h.onDisk.beginSession w.memory identity with
    ⟨j, k, m, replayed, journalBytes, hholds, hbegin⟩ | ⟨hzero, disposition, hbegin⟩
  · have heffect : (begin identity).effect hash w.disk w.memory =
      (goOn ⟨identity, UInt64.ofNat m, stateAfter ((w.asked.updates identity).take m)⟩ replayed
        journalBytes).1 := congrArg Prod.fst hbegin
    have hm : (UInt64.ofNat m).toNat = m :=
      toNat_ofNat_lt (lt_of_le_of_lt hholds.given (hholds.numbered identity))
    obtain ⟨hgoOn, hupdates⟩ := hholds.giveUpOthers.goOnFrom
    have hsteady : Steady w.disk := by
      -- a session has a snapshot
      obtain ⟨bytes, hsnapshot, -⟩ := hholds.snapshot
      rcases h.left with hsteady | ⟨hnone, -⟩
      · exact hsteady
      · cases hsnapshot.symm.trans hnone
    have hon : OnDisk hash (.of w.disk) (w.asked.giveUpOthers identity) :=
      .inr ⟨identity, j, k, m, hholds.giveUpOthers⟩
    constructor
    · simp only [storeStep, heffect, goOn, answers, asks, hm]
      refine ⟨h.tidy, .inr ⟨identity, j, k, _, hgoOn⟩, fun active hactive => ?_, .inl hsteady⟩
      cases hactive
      refine ⟨hsteady, ⟨j, k, hgoOn⟩, ?_, ?_⟩
      · rw [hupdates]
        exact congrArg UInt64.ofNat (List.length_take_of_le hholds.given).symm
      · rw [hupdates]
        rfl
    · intro done cut hkept
      refine storeInv_crashed h.tidy.sound ?_ ?_ hkept
      · rw [heffect]
        exact fun _ hop => by cases hop
      · intro done
        rw [heffect, goOn, List.take_nil]
        exact safe_of_steady h.tidy hsteady OnDisk.insensitive hon
  · obtain ⟨bytes, hbytes, hstart⟩ := exists_startOver w.memory identity disposition
    have heffect : (begin identity).effect hash w.disk w.memory =
      (startOver w.memory identity disposition).1 := congrArg Prod.fst hbegin
    rw [hstart] at heffect
    have hon : OnDisk hash (.of w.disk) (w.asked.giveUpOthers identity) :=
      h.onDisk.giveUp _ hzero
    obtain ⟨hsafe, htidy, hsteady, hfresh⟩ :=
      startOver_spec h.tidy hon (h.always _ hzero) hzero hbytes
    obtain ⟨hgoOn, hupdates⟩ := hfresh.goOnFrom
    constructor
    · simp only [storeStep, heffect, answers, asks, UInt64.toNat_zero]
      refine ⟨htidy, .inr ⟨identity, 0, 0, _, hgoOn⟩, fun active hactive => ?_, .inl hsteady⟩
      cases hactive
      exact ⟨hsteady, ⟨0, 0, hgoOn⟩, by rw [hupdates]; rfl, by rw [hupdates]; rfl⟩
    · intro done cut hkept
      refine storeInv_crashed h.tidy.sound ?_ ?_ hkept
      · rw [heffect]
        exact List.forall_mem_cons.mpr ⟨trivial, keeps_snapshotOps bytes⟩
      · rw [heffect]
        exact hsafe

/-- **Clearing the store** keeps the invariant. -/
theorem storeInv_clear (h : StoreInv hash w) :
    StoreInv hash (storeStep hash w (.completes .clear)) ∧
      ∀ done cut, Kept (w.disk.applyAll (Runtime.clear.ops.take done)) cut →
        StoreInv hash (storeStep hash w (.crashes .clear done cut)) := by
  have hgone : ∀ journal, OnDisk hash ⟨none, journal⟩ w.asked.giveUp :=
    fun _ => .inl ⟨rfl, h.onDisk.numbered, fun _ => rfl⟩
  have halways := h.always (fun _ => 0) fun _ => rfl
  have hfirst := always_remove h.tidy .snapshot halways (by
    rw [Files.of, read_remove_self]
    exact hgone _)
  have hsnapshot : ((w.disk.apply (.remove .snapshot)).apply (.remove .journal)).read .snapshot =
      none := by rw [read_remove_of_ne (by decide), read_remove_self]
  have hsecond := always_remove (h.tidy.remove .snapshot) .journal hfirst (by
    rw [Files.of, hsnapshot]
    exact hgone _)
  refine ⟨⟨(h.tidy.remove .snapshot).remove .journal, .inl ⟨hsnapshot, h.onDisk.numbered,
    fun _ => rfl⟩, fun _ h => ?_, .inr ⟨hsnapshot, fun _ => rfl, hsecond⟩⟩,
    fun done cut hkept => ?_⟩
  · cases h
  · refine storeInv_crashed h.tidy.sound ?_ ?_ hkept
    · refine List.forall_mem_cons.mpr ⟨trivial, List.forall_mem_cons.mpr ⟨trivial, fun _ h => ?_⟩⟩
      cases h
    · exact Disk.forall_take_cons.mpr ⟨halways.safe, Disk.forall_take_cons.mpr ⟨hfirst.safe,
        Disk.forall_take_nil.mpr fun _ => hsecond.safe⟩⟩

variable (hash) in
/-- The frame of an update that is journaled can be read back. -/
theorem Journaled.frame (h : Journaled memory mutation) :
    memory.writesEnabled = true ∧ ∃ active, memory.active = some active ∧
      active.sequence.toNat + 1 < 2 ^ 64 ∧
      ∀ frame, encodeRecord hash ⟨saturatingAdd active.sequence 1, mutation⟩ = some frame →
        readableFrame hash ⟨saturatingAdd active.sequence 1, mutation⟩ = some frame := by
  obtain ⟨henabled, hany⟩ := h
  obtain ⟨active, hactive, hcond⟩ := (Option.any_eq_true _ _).mp hany
  simp only [Bool.and_eq_true, decide_eq_true_eq] at hcond
  refine ⟨henabled, active, hactive, hcond.1, fun frame hframe => ?_⟩
  have hpayload := hframe
  simp only [encodeRecord, Option.bind_eq_bind, Option.bind_eq_some_iff] at hpayload
  obtain ⟨payload, hwrite, -⟩ := hpayload
  rw [hwrite, Option.all_some, decide_eq_true_eq] at hcond
  simp only [readableFrame, hwrite, Option.bind_eq_bind, Option.bind_some, guard, if_pos hcond.2]
  exact hframe

/-- What an effect leaves on disk: every crash keeps what is acknowledged, and the update is
there in the end. -/
structure Appends (hash : List UInt8 → Hash32) (disk : StoreDisk) (asked : Asked)
    (active : ActiveStore) (effect : Effect) : Prop where
  keeps : ∀ op ∈ effect.ops, Disk.Keeps isJournal op
  safe : ∀ done, Safe (fun files => OnDisk hash files asked) (disk.applyAll (effect.ops.take done))
  tidy : Tidy (disk.applyAll effect.ops)
  steady : Steady (disk.applyAll effect.ops)
  next : ∃ next, effect.memory.active = some next ∧ next.identity = active.identity ∧
    Alive hash (.of (disk.applyAll effect.ops)) asked next

theorem keeps_frameOps (frame : List UInt8) :
    ∀ op ∈ frameOps frame, Disk.Keeps isJournal op := by
  simp only [frameOps, List.forall_mem_cons]
  exact ⟨trivial, trivial, trivial, fun _ h => by cases h⟩

/-- **Compaction**: the snapshot is written anew, and the journal is emptied. -/
theorem compact_spec {disk : StoreDisk} {ops : List FileOp}
    (hkeeps : ∀ op ∈ ops, Disk.Keeps isJournal op)
    (hsafe : ∀ done, Safe (fun files => OnDisk hash files asked) (disk.applyAll (ops.take done)))
    (htidy : Tidy (disk.applyAll ops)) (hsteady : Steady (disk.applyAll ops))
    (hnow : (disk.applyAll ops).dir.now .journal = some file)
    (halive : Alive hash (.of (disk.applyAll ops)) asked active) (memory : Memory) :
    Appends hash disk asked active (compact ops active memory) := by
  unfold compact writeSnapshot
  cases hbytes : Snapshot.borsh.write ⟨active.identity, active.sequence, active.state⟩ with
  | none => exact ⟨hkeeps, hsafe, htidy, hsteady, _, rfl, rfl, halive⟩
  | some bytes =>
    obtain ⟨⟨j, k, hholds⟩, hsequence, hstate⟩ := halive
    have hcompacted := hholds.snapshotAll (show Snapshot.borsh.write _ = some bytes by
      rw [List.take_length, ← hsequence, ← hstate]
      exact hbytes)
    have hsnapshot := forall_safe_snapshot htidy (safe_of_steady htidy hsteady OnDisk.insensitive
      (.inr ⟨_, _, _, _, hholds⟩)) (.inr ⟨_, _, _, _, hcompacted⟩)
    obtain ⟨htidy', hsteady', hfiles, hsame⟩ := tidy_snapshot htidy bytes
    replace hcompacted : Holds hash (.of ((disk.applyAll ops).applyAll (snapshotOps bytes))) asked
        active.identity j (asked.updates active.identity).length
        (asked.updates active.identity).length := by
      rw [hfiles]
      exact hcompacted
    obtain ⟨htruncate, htidy'', hsteady'', hfiles', -⟩ := forall_safe_write htidy' hsteady'
      (hsame.trans hnow) OnDisk.insensitive (Disk.apply_create_of_now (hsame.trans hnow))
      (.inr ⟨_, _, _, _, hcompacted⟩) (.inr ⟨_, _, _, _, hcompacted.truncate⟩)
    have hops : disk.applyAll (ops ++ (snapshotOps bytes ++ [.create .journal, .sync .journal])) =
        ((disk.applyAll ops).applyAll (snapshotOps bytes)).applyAll
          [.create .journal, .sync .journal] := by
      rw [Disk.applyAll_append, Disk.applyAll_append]
    have hlast : Holds hash (.of (disk.applyAll (ops ++ (snapshotOps bytes ++
        [.create .journal, .sync .journal])))) asked active.identity
        (asked.updates active.identity).length (asked.updates active.identity).length
        (asked.updates active.identity).length := by
      rw [hops, hfiles']
      exact hcompacted.truncate
    refine ⟨?_, Disk.forall_take_append hsafe (Disk.forall_take_append hsnapshot htruncate),
      hops ▸ htidy'', hops ▸ hsteady'', _, rfl, rfl, ⟨_, _, hlast⟩, hsequence, hstate⟩
    refine List.forall_mem_append.mpr ⟨hkeeps, List.forall_mem_append.mpr
      ⟨keeps_snapshotOps bytes, List.forall_mem_cons.mpr ⟨trivial, ?_⟩⟩⟩
    exact List.forall_mem_cons.mpr ⟨trivial, fun _ h => by cases h⟩

/-- **An update that is journaled**, with compaction or without. -/
theorem appendUpdate_spec {disk : StoreDisk} (htidy : Tidy disk) (hsteady : Steady disk)
    (halive : Alive hash (.of disk) asked active)
    (henabled : memory.writesEnabled = true) (hactive : memory.active = some active)
    (hroom : active.sequence.toNat + 1 < 2 ^ 64)
    (hencode : encodeRecord hash ⟨saturatingAdd active.sequence 1, mutation⟩ = some frame)
    (hframe : readableFrame hash ⟨saturatingAdd active.sequence 1, mutation⟩ = some frame) :
    Appends hash disk (asked.add active.identity mutation) active
      (appendUpdate hash memory mutation) := by
  obtain ⟨⟨j, k, hholds⟩, hsequence, hstate⟩ := halive
  have hlength : active.sequence.toNat = (asked.updates active.identity).length := by
    rw [hsequence, toNat_ofNat_lt (hholds.numbered _)]
  rw [hlength] at hroom
  have hnext : saturatingAdd active.sequence 1 =
      UInt64.ofNat ((asked.updates active.identity).length + 1) := by
    rw [hsequence]
    exact saturatingAdd_one hroom
  have hwritten := hholds.append hroom (hnext ▸ hframe)
  have hcount : ((asked.add active.identity mutation).updates active.identity).length =
      (asked.updates active.identity).length + 1 := by simp
  have hstate' : active.state.apply mutation =
      stateAfter ((asked.add active.identity mutation).updates active.identity) := by
    rw [hstate, updates_add_self, stateAfter, stateAfter, List.foldl_append]
    rfl
  obtain ⟨hsafe, htidy', hsteady', hfiles, file, hnow⟩ := forall_safe_append
    (P := fun files => OnDisk hash files (asked.add active.identity mutation)) htidy hsteady
    OnDisk.insensitive (.inr ⟨_, _, _, _, hholds.add hroom⟩) frame (.inr ⟨_, _, _, _, hwritten⟩)
  replace hwritten : Holds hash (.of (disk.applyAll (frameOps frame)))
      (asked.add active.identity mutation) active.identity j k
      ((asked.updates active.identity).length + 1) := by
    rw [hfiles]
    exact hwritten
  have hlast : Alive hash (.of (disk.applyAll (frameOps frame)))
      (asked.add active.identity mutation)
      { active with
        state := active.state.apply mutation
        sequence := saturatingAdd active.sequence 1
        recordsSinceCompaction := active.recordsSinceCompaction + 1
        journalBytes := active.journalBytes + frame.length } :=
    ⟨⟨j, k, hcount ▸ hwritten⟩, by rw [hcount]; exact hnext, hstate'⟩
  simp only [appendUpdate, henabled, hactive, hencode]
  split
  · have hcompact :=
      compact_spec (keeps_frameOps frame) hsafe htidy' hsteady' hnow hlast memory
    exact ⟨hcompact.keeps, hcompact.safe, hcompact.tidy, hcompact.steady, hcompact.next⟩
  · exact ⟨keeps_frameOps frame, hsafe, htidy', hsteady', _, rfl, rfl, hlast⟩

end Steps

section Main

/-- What is on disk may be acknowledged. -/
theorem Holds.acknowledge
    (h : Holds hash files asked identity j k (asked.updates identity).length) :
    Holds hash files (asked.acknowledge identity) identity j k (asked.updates identity).length :=
  { h with
    acknowledged := (Function.update_self ..).le
    others := fun i hi => (Function.update_of_ne hi ..).trans (h.others i hi) }

/-- **Appending an update** keeps the invariant. -/
theorem storeInv_append (h : StoreInv hash w) (hjournaled : Journaled w.memory mutation) :
    StoreInv hash (storeStep hash w (.completes (.append mutation))) ∧
      ∀ done cut, Kept (w.disk.applyAll
          (((append mutation).effect hash w.disk w.memory).ops.take done)) cut →
        StoreInv hash (storeStep hash w (.crashes (.append mutation) done cut)) := by
  obtain ⟨henabled, active, hactive, hroom, hreadable⟩ := hjournaled.frame hash
  obtain ⟨hsteady, halive⟩ := h.alive active hactive
  cases hencode : encodeRecord hash ⟨saturatingAdd active.sequence 1, mutation⟩ with
  | none =>
    -- nothing is written, and the update is refused
    have heffect : (append mutation).effect hash w.disk w.memory = ⟨[], w.memory, false⟩ := by
      simp only [effect, appendUpdate, henabled, hactive, hencode]
    have hasks : (append mutation).asks hash w.memory w.asked = w.asked := by
      simp only [asks, hactive, hencode, Option.isSome_none, Bool.false_eq_true, if_false]
    constructor
    · simp only [storeStep, heffect, answers, hasks, hactive]
      exact h
    · intro done cut hkept
      simp only [storeStep, hasks]
      refine storeInv_crashed h.tidy.sound ?_ ?_ hkept
      · rw [heffect]
        exact fun _ hop => by cases hop
      · intro done
        rw [heffect, List.take_nil]
        exact h.safe
  | some frame =>
    have hspec :=
      appendUpdate_spec h.tidy hsteady halive henabled hactive hroom hencode
        (hreadable frame hencode)
    have hasks : (append mutation).asks hash w.memory w.asked =
        w.asked.add active.identity mutation := by
      simp only [asks, hactive, hencode, Option.isSome_some, if_true]
    constructor
    · obtain ⟨next, hnext, hidentity, ⟨j, k, hholds⟩, hsequence, hstate⟩ := hspec.next
      simp only [storeStep, hasks, answers, hactive, effect]
      rw [hidentity] at hholds hsequence hstate
      cases hok : (appendUpdate hash w.memory mutation).ok with
      | false =>
        refine ⟨hspec.tidy, .inr ⟨_, _, _, _, hholds⟩, fun a ha => ?_, .inl hspec.steady⟩
        obtain rfl := Option.some.inj (hnext.symm.trans ha)
        exact ⟨hspec.steady, ⟨j, k, hidentity ▸ hholds⟩, hidentity ▸ hsequence, hidentity ▸ hstate⟩
      | true =>
        refine ⟨hspec.tidy, .inr ⟨_, _, _, _, hholds.acknowledge⟩, fun a ha => ?_,
          .inl hspec.steady⟩
        obtain rfl := Option.some.inj (hnext.symm.trans ha)
        exact ⟨hspec.steady, ⟨j, k, hidentity ▸ hholds.acknowledge⟩, hidentity ▸ hsequence,
          hidentity ▸ hstate⟩
    · intro done cut hkept
      simp only [storeStep, hasks]
      exact storeInv_crashed h.tidy.sound hspec.keeps hspec.safe hkept

/-- **One event** keeps the invariant. -/
theorem storeInv_step (hintact : Intact hash w event) (h : StoreInv hash w) :
    StoreInv hash (storeStep hash w event) := by
  have hidle : ∀ done cut, Kept (w.disk.applyAll (([] : List FileOp).take done)) cut →
      StoreInv hash ⟨crashed (w.disk.applyAll (([] : List FileOp).take done)) cut, ⟨none, false⟩,
        w.asked⟩ := fun done cut => storeInv_crashed h.tidy.sound (fun _ hop => by cases hop)
    (Disk.forall_take_nil.mpr fun _ => h.safe)
  rcases event with ⟨call⟩ | ⟨call, done, cut⟩
  · cases call with
    | begin identity => exact (storeInv_begin h identity).1
    | enableWrites | disableWrites => exact ⟨h.tidy, h.onDisk, h.alive, h.left⟩
    | append mutation => exact (storeInv_append h (hintact mutation rfl)).1
    | clear => exact (storeInv_clear h).1
  · obtain ⟨hjournaled, hkept⟩ := hintact
    cases call with
    | begin identity => exact (storeInv_begin h identity).2 done cut hkept
    | enableWrites | disableWrites => exact hidle done cut hkept
    | append mutation => exact (storeInv_append h (hjournaled mutation rfl)).2 done cut hkept
    | clear => exact (storeInv_clear h).2 done cut hkept

variable (hash) in
/-- The store after some events. -/
def storeAfter (events : List StoreEvent) : StoreWorld := Runs.run (storeStep hash) .start events

end Main

/-- **Acknowledged updates survive**: whatever calls and crashes came before, beginning a
session succeeds and gives the state after some of its updates in order, all acknowledged ones
among them. -/
theorem acknowledged_updates_survive (hash : List UInt8 → Hash32) (events : List StoreEvent)
    (hintact : Runs.Along (storeStep hash) (Intact hash) .start events)
    (identity : UnsettledSessionIdentity) :
    ∃ active n, (beginSession hash (.of (storeAfter hash events).disk)
        (storeAfter hash events).memory identity).1.memory.active = some active ∧
      (beginSession hash (.of (storeAfter hash events).disk)
        (storeAfter hash events).memory identity).1.ok = true ∧
      (storeAfter hash events).asked.acknowledged identity ≤ n ∧
      n ≤ ((storeAfter hash events).asked.updates identity).length ∧
      active.state = stateAfter (((storeAfter hash events).asked.updates identity).take n) := by
  have hinv : StoreInv hash (storeAfter hash events) :=
    Runs.run_induction (fun w event hevent h => storeInv_step hevent h) hintact storeInv_start
  rcases hinv.onDisk.beginSession (storeAfter hash events).memory identity with
    ⟨j, k, m, replayed, journalBytes, hholds, hbegin⟩ | ⟨hzero, disposition, hbegin⟩
  · rw [hbegin]
    exact ⟨_, m, rfl, rfl, hholds.acknowledged, hholds.given, rfl⟩
  · obtain ⟨bytes, -, hstart⟩ := exists_startOver (storeAfter hash events).memory identity
      disposition
    have hnone : (storeAfter hash events).asked.acknowledged identity = 0 := by
      rw [← hzero identity]
      exact (if_pos rfl).symm
    rw [hbegin, hstart]
    exact ⟨_, 0, rfl, rfl, hnone.le, Nat.zero_le _, rfl⟩

/-! ## A torn frame -/

def localUnsettled : UnsettledSessionIdentity :=
  { formatVersion := 3
    portalProgramId := localnet.programId
    sessionPda := localnet.address .session
    nonce := 0
    createdAt := 10
    authority := tagged 20 []
    validator := tagged 21 []
    gridId := 1
    ttlSlots := 1000000
    feeCap := 0
    settlementIntervalSlots := 10
    bump := 255 }

/-- A signature is processed in some slot. -/
def localProcessed (signature : UInt8) (slot : UInt64) : Mutation :=
  { accounts := []
    touchedAccounts := []
    payoutEvents := none
    tokenPayoutEvents := none
    processedSignatures := [⟨Vector.replicate 64 signature, slot⟩] }

/-- One update is acknowledged; a crash comes after `done` operations of the next. -/
def localCrash (done : Nat) (cut : Cut StoreFile) : List StoreEvent :=
  [.completes (.begin localUnsettled), .completes .enableWrites,
    .completes (.append (localProcessed 1 7)), .crashes (.append (localProcessed 2 8)) done cut]

def localHash (bytes : List UInt8) : Hash32 := localnet.hashv [bytes]

/-- The store when the session is begun again. -/
def localReopened (done : Nat) (cut : Cut StoreFile) : Effect × RecoveryDisposition :=
  beginSession localHash (.of (storeAfter localHash (localCrash done cut)).disk)
    (storeAfter localHash (localCrash done cut)).memory localUnsettled

/-- Nothing of the next update has reached the disk. -/
def localUntorn : Cut StoreFile := ⟨1, fun _ => .whole 0⟩

/-- Five bytes of the next update have. -/
def localTorn : Cut StoreFile := ⟨1, fun _ => .torn 4⟩

/-- The directory is as it was when the snapshot was written. -/
def localMissing : Cut StoreFile := ⟨0, fun _ => .whole 0⟩

/-- A crash before the first byte of the next update is on the disk. -/
theorem acknowledged_updates_survive_untorn :
    ∃ active n, (localReopened 2 localUntorn).1.memory.active = some active ∧ 1 ≤ n ∧
      active.state = stateAfter
        (((storeAfter localHash (localCrash 2 localUntorn)).asked.updates
          localUnsettled).take n) := by
  obtain ⟨active, n, hactive, -, hacknowledged, -, hstate⟩ :=
    acknowledged_updates_survive localHash (localCrash 2 localUntorn) (by decide +kernel)
      localUnsettled
  have hone : (storeAfter localHash (localCrash 2 localUntorn)).asked.acknowledged localUnsettled =
      1 := by decide +kernel
  rw [hone] at hacknowledged
  exact ⟨active, n, by rw [localReopened, hactive], hacknowledged, hstate⟩

/-- The state of a session whose first update is there. -/
theorem processed_of_one_le (hn : 1 ≤ n) :
    (stateAfter ([localProcessed 1 7, localProcessed 2 8].take n)).processedSignatures.size ≠
      0 := by
  rcases n with _ | _ | n
  · omega
  · decide +kernel
  · rw [List.take_of_length_le (by simp)]
    decide +kernel

/-- **A torn frame loses the journal**: after five bytes of the second update the first one,
which was acknowledged, is gone. -/
theorem torn_frame_loses_acknowledged :
    (storeAfter localHash (localCrash 2 localTorn)).asked.acknowledged localUnsettled = 1 ∧
    (localReopened 2 localTorn).2 = .droppedCorrupt ∧
    (∃ active, (localReopened 2 localTorn).1.memory.active = some active ∧
      active.state.processedSignatures.size = 0) ∧
    ∀ n, 1 ≤ n → (stateAfter (((storeAfter localHash (localCrash 2 localTorn)).asked.updates
      localUnsettled).take n)).processedSignatures.size ≠ 0 := by
  have hupdates : (storeAfter localHash (localCrash 2 localTorn)).asked.updates localUnsettled =
      [localProcessed 1 7, localProcessed 2 8] := by decide +kernel
  refine ⟨by decide +kernel, by decide +kernel, ?_, fun n hn => hupdates ▸ processed_of_one_le hn⟩
  have hany : (localReopened 2 localTorn).1.memory.active.any
      (fun active => decide (active.state.processedSignatures.size = 0)) = true := by
    decide +kernel
  obtain ⟨active, hactive, hsize⟩ := (Option.any_eq_true _ _).mp hany
  exact ⟨active, hactive, of_decide_eq_true hsize⟩

/-- **A journal may be missing**: its entry in the directory is not synced with it. After a crash
that takes the entry back, the update that was acknowledged is gone, without a word. -/
theorem missing_journal_loses_acknowledged :
    (storeAfter localHash (localCrash 0 localMissing)).asked.acknowledged localUnsettled = 1 ∧
    (localReopened 0 localMissing).2 = .recovered ∧
    ∃ active, (localReopened 0 localMissing).1.memory.active = some active ∧
      active.state.processedSignatures.size = 0 := by
  have hany : (localReopened 0 localMissing).1.memory.active.any
      (fun active => decide (active.state.processedSignatures.size = 0)) = true := by
    decide +kernel
  obtain ⟨active, hactive, hsize⟩ := (Option.any_eq_true _ _).mp hany
  exact ⟨by decide +kernel, by decide +kernel, active, hactive, of_decide_eq_true hsize⟩

end Northstar.Runtime
