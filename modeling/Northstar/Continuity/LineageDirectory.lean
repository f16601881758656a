import Northstar.Continuity.Accounting
import Northstar.Continuity.Lineage
import Northstar.Lib.Storage

/-!
# The directory of the lineage store

The store keeps its capsule in one file of a directory, and the session it is for in another,
the marker. A capsule is written to a temporary file first, which then takes the place of the
old one. The marker is written once, after the first capsule.

A crash may come between any two file operations. What was not synced by then may be lost: the
directory itself, entries in it, and bytes of the marker.

## Main results

* `openLineage_initializeNew`, `openLineage_resume`: what the two ways to open it do
* `initialization_recoverable_iff`: what a crash of the first opening may leave
-/

namespace Northstar.Runtime

open Northstar.Portal Bytes Checked Storage

/-! ## Files -/

/-- **The files of the directory.** The temporary file has a new name each time. -/
inductive LineageFile
  | lock
  | temporary
  | capsule
  | marker
  deriving DecidableEq

/-- What a file is made of. A capsule is kept decoded, as one piece: a part of it does not have
the checksum in front of it. -/
inductive LineageUnit
  | byte (b : UInt8)
  | capsule (c : LineageCapsuleV2)

/-- The bytes of a file that has no capsule in it. -/
def bytesOf : List LineageUnit → Option (List UInt8)
  | [] => some []
  | .byte b :: file => (bytesOf file).map (b :: ·)
  | .capsule _ :: _ => none

/-- The capsule in a file. -/
def capsuleOf : List LineageUnit → Option LineageCapsuleV2
  | [.capsule c] => some c
  | _ => none

structure LineageDirectory where
  present : Unsynced Bool
  disk : Disk LineageFile LineageUnit

inductive DirectoryOp
  | createDirectory
  | syncParent
  | file (op : Op LineageFile LineageUnit)

namespace LineageDirectory

/-- A directory that is not there. -/
def absent : LineageDirectory := ⟨.settled false, .empty⟩

def apply (d : LineageDirectory) : DirectoryOp → LineageDirectory
  | .createDirectory => { d with present := d.present.change [] true }
  | .syncParent => { d with present := d.present.sync }
  | .file op => { d with disk := d.disk.apply op }

def applyAll (d : LineageDirectory) (ops : List DirectoryOp) : LineageDirectory :=
  ops.foldl apply d

/-- **What a crash leaves.** A directory that is lost takes its files with it. The next
temporary file has another name. -/
def crash (d : LineageDirectory) (parent : Nat) (cut : Cut LineageFile) : LineageDirectory :=
  if d.present.found (.whole parent) = true then
    { present := .settled true
      disk := { d.disk.crash cut with
        dir := .settled (Function.update (d.disk.crash cut).dir.now .temporary none) } }
  else absent

/-- The directory after a crash within some operations. -/
def crashed (d : LineageDirectory) (ops : List DirectoryOp) (done parent : Nat)
    (cut : Cut LineageFile) : LineageDirectory :=
  (d.applyAll (ops.take done)).crash parent cut

end LineageDirectory

open LineageDirectory

/-- **Writing out a capsule.** -/
def installing (c : LineageCapsuleV2) : List (Op LineageFile LineageUnit) :=
  Disk.replaceOps .temporary .capsule [.capsule c]

/-- Writing the marker. -/
def marking (marker : List UInt8) : List (Op LineageFile LineageUnit) :=
  [.create .marker, .append .marker (marker.map .byte), .sync .marker, .syncDir]

/-! ## Opening -/

inductive StartupModeV2
  | initializeNew
  | resume
  deriving DecidableEq

/-- The directory and the lock are made where they are missing. -/
def LineageDirectory.preparing (d : LineageDirectory) : List DirectoryOp :=
  (if d.present.now = true then [] else [.createDirectory, .syncParent]) ++
    [.file (.openAppend .lock)]

/-- The marker is written once the first capsule is in place. -/
def establishing (c : LineageCapsuleV2) (marker : List UInt8) : List (Op LineageFile LineageUnit) :=
  installing c ++ marking marker

/-- The operations of the first opening. -/
def LineageDirectory.opening (d : LineageDirectory) (c : LineageCapsuleV2) (marker : List UInt8) :
    List DirectoryOp :=
  d.preparing ++ (establishing c marker).map .file

section Opening

variable (env : Env)

/-- The capsule that is found, when the files are those of the session. -/
def LineageDirectory.load (d : LineageDirectory) (identity : SessionIdentityV2)
    (initial : CommittedStateV2) (onchainHead : Option L1CheckpointHeadV2) :
    Except IoErrorKind LineageCapsuleV2 :=
  match d.disk.read .marker, d.disk.read .capsule with
  | some marker, some file => do
    let identityHash ← invalidOr (identity.commitment env)
    rejectIf (bytesOf marker ≠ some identityHash.toList) .invalidData
    let c ← okOr (capsuleOf file) .invalidData
    rejectIf (c.acceptedState.identity ≠ identity) .invalidData
    let _ ← c.workingState env
    return c
  | none, none => do
    rejectIf (onchainHead ≠ none) .invalidData
    return .empty initial
  | _, _ => .error .invalidData

/-- The marker, and the first capsule, are written where there is no marker. -/
def LineageDirectory.establish (d : LineageDirectory) (identity : SessionIdentityV2)
    (c : LineageCapsuleV2) : Except IoErrorKind (List (Op LineageFile LineageUnit)) :=
  match d.disk.read .marker with
  | some _ => .ok []
  | none => do
    rejectIf (c.fits = false) .invalidData
    let identityHash ← invalidOr (identity.commitment env)
    return establishing c identityHash.toList

/-- The checkpoint that the L1 has accepted is recorded where the capsule does not have it. -/
def reconcile (c : LineageCapsuleV2) (onchainHead : Option L1CheckpointHeadV2) :
    Except IoErrorKind (List (Op LineageFile LineageUnit) × LineageCapsuleV2) :=
  if c.acceptedHead = onchainHead then .ok ([], c)
  else
    match onchainHead with
    | none => .error .invalidData
    | some head =>
      match CheckpointLineageStoreV2.recordAccepted env (fun _ => true) ⟨c, false⟩ head with
      | (.error error, _) => .error error
      | (.ok (), store) => .ok (installing store.capsule, store.capsule)

/-- **Opening the store**: the file operations, and the capsule in use after them. None of the
operations fails. -/
def openLineage (d : LineageDirectory) (identity : SessionIdentityV2)
    (onchainHead : Option L1CheckpointHeadV2) (mode : StartupModeV2) :
    Except IoErrorKind (List DirectoryOp × LineageCapsuleV2) := do
  let initial ← invalidOr (CommittedStateV2.new env identity)
  rejectIf (d.present.now = false ∧ mode = .resume) .other
  rejectIf (mode = .initializeNew ∧ ((d.disk.read .marker).isSome = true ∨
    (d.disk.read .capsule).isSome = true ∨ onchainHead.isSome = true)) .invalidData
  rejectIf (mode = .resume ∧ ((d.disk.read .marker).isSome = false ∨
    (d.disk.read .capsule).isSome = false)) .invalidData
  let c ← d.load env identity initial onchainHead
  let first ← d.establish env identity c
  let (rest, c) ← reconcile env c onchainHead
  return (d.preparing ++ (first ++ rest).map .file, c)

end Opening

/-! ## The first opening -/

section First

variable {env : Env} {d : LineageDirectory} {identity : SessionIdentityV2}
  {c next : LineageCapsuleV2} {ops : List DirectoryOp} {initial : CommittedStateV2} {hash : Hash32}

theorem bytesOf_eq_some {file : List LineageUnit} :
    bytesOf file = some bytes ↔ file = bytes.map .byte := by
  induction file generalizing bytes with
  | nil => simp [bytesOf, eq_comm]
  | cons u file ih =>
    cases u with
    | byte b =>
      cases bytes with
      | nil => simp [bytesOf]
      | cons b' bytes => simp [bytesOf, ih, and_comm]
    | capsule c => cases bytes <;> simp [bytesOf]

/-- What the first opening of a directory does. -/
theorem openLineage_initializeNew
    (h : openLineage env d identity onchainHead .initializeNew = .ok (ops, c)) :
    ∃ initial hash, CommittedStateV2.new env identity = .ok initial ∧
      identity.commitment env = .ok hash ∧ d.disk.read .marker = none ∧
      d.disk.read .capsule = none ∧ onchainHead = none ∧ c = .empty initial ∧ c.fits = true ∧
      ops = d.opening c hash.toList := by
  simp only [openLineage, chain_ok, invalidOr_eq_ok, Prod.exists, Prod.mk.injEq, not_and, not_or,
    Bool.not_eq_true, Option.isSome_eq_false_iff, Option.isNone_iff_eq_none, forall_const] at h
  obtain ⟨initial, hinitial, -, ⟨hmarker, hcapsule, rfl⟩, -, c', hload, first, hfirst, rest, c'',
    hrest, rfl, rfl⟩ := h
  simp only [load, hmarker, hcapsule, chain_ok] at hload
  obtain ⟨-, rfl⟩ := hload
  simp only [establish, hmarker, chain_ok, invalidOr_eq_ok,
    Bool.not_eq_false] at hfirst
  obtain ⟨hfits, hash, hhash, rfl⟩ := hfirst
  cases hrest
  exact ⟨initial, hash, hinitial, hhash, hmarker, hcapsule, rfl, rfl, hfits, by simp [opening]⟩

/-- A directory where neither file is found is one for a first opening. -/
theorem exists_openLineage_of_none (hinitial : CommittedStateV2.new env identity = .ok initial)
    (hhash : identity.commitment env = .ok hash)
    (hfits : (LineageCapsuleV2.empty initial).fits = true)
    (hmarker : d.disk.read .marker = none) (hcapsule : d.disk.read .capsule = none) :
    ∃ ops, openLineage env d identity none .initializeNew = .ok (ops, .empty initial) := by
  refine ⟨d.opening (.empty initial) hash.toList, ?_⟩
  simp only [openLineage, hinitial, hmarker, hcapsule, load, hhash, establish, reconcile,
    LineageCapsuleV2.empty, bind_eq_ok]
  simp only [LineageCapsuleV2.empty] at hfits
  simp [opening, invalidOr, Except.mapError, rejectIf, pure, Except.pure, hfits]

/-- A capsule that is there is taken with the marker of the session only. -/
theorem marker_of_openLineage (hhash : identity.commitment env = .ok hash)
    (hcapsule : d.disk.read .capsule = some file)
    (h : openLineage env d identity onchainHead mode = .ok r) :
    d.disk.read .marker = some (hash.toList.map .byte) := by
  obtain ⟨ops, c⟩ := r
  cases mode with
  | initializeNew =>
    obtain ⟨-, -, -, -, -, hnone, -⟩ := openLineage_initializeNew h
    cases hcapsule.symm.trans hnone
  | resume =>
    simp only [openLineage, bind_eq_ok] at h
    obtain ⟨initial, -, -, -, -, -, -, -, c', hload, -⟩ := h
    unfold load at hload
    rw [hcapsule] at hload
    cases hmarker : d.disk.read .marker with
    | none =>
      rw [hmarker] at hload
      cases hload
    | some marker =>
      rw [hmarker] at hload
      simp only [bind_eq_ok, invalidOr_eq_ok, hhash, rejectIf_eq_ok, Except.ok.injEq,
        exists_eq_left', exists_const, not_not] at hload
      rw [bytesOf_eq_some.mp hload.1]

/-- **An established directory** is opened by going on with its capsule. -/
theorem openLineage_resume (hpresent : d.present.now = true)
    (hmarker : d.disk.read .marker = some (hash.toList.map .byte))
    (hcapsule : d.disk.read .capsule = some [.capsule c])
    (hhash : identity.commitment env = .ok hash)
    (hinitial : CommittedStateV2.new env identity = .ok initial)
    (hidentity : c.acceptedState.identity = identity) (hworking : c.workingState env = .ok w) :
    openLineage env d identity c.acceptedHead .resume =
      .ok ([.file (.openAppend .lock)], c) := by
  have hbytes : bytesOf (hash.toList.map .byte) = some hash.toList := bytesOf_eq_some.mpr rfl
  simp only [openLineage, hinitial, hmarker, hcapsule, hpresent, load,
    establish, preparing, hhash, reconcile, hbytes, capsuleOf]
  simp [invalidOr, Except.mapError, rejectIf, okOr, bind, Except.bind, pure, Except.pure, hworking,
    hidentity]

/-! ### Crashes -/

/-- **A fresh directory** has no capsule and no marker, and no crash brings one back. -/
structure LineageDirectory.Fresh (d : LineageDirectory) : Prop where
  present : d.present = .settled d.present.now
  capsule : ∀ i, d.disk.dir.found (.whole i) .capsule = none
  marker : ∀ i, d.disk.dir.found (.whole i) .marker = none
  temporary : d.disk.dir.now .temporary = none

/-- What is found of a file that has not been given a name. -/
theorem found_applyAll_eq_none (h : ∀ i, d.disk.dir.found (.whole i) name = none)
    (hops : ∀ op, .file op ∈ ops → Disk.Avoids name op) (i : Nat) :
    (d.applyAll ops).disk.dir.found (.whole i) name = none := by
  induction ops generalizing d with
  | nil => exact h i
  | cons op ops ih =>
    refine ih (fun i => ?_) fun o ho => hops o (List.mem_cons_of_mem _ ho)
    cases op with
    | createDirectory | syncParent => exact h i
    | file op => exact Disk.found_apply_eq_none h (hops op List.mem_cons_self) i

theorem applyAll_append (ops later : List DirectoryOp) :
    d.applyAll (ops ++ later) = (d.applyAll ops).applyAll later := List.foldl_append ..

theorem applyAll_map_file (ops : List (Op LineageFile LineageUnit)) :
    d.applyAll (ops.map .file) = { d with disk := d.disk.applyAll ops } := by
  induction ops generalizing d with
  | nil => rfl
  | cons op ops ih => exact ih

theorem read_crash_none (h : ∀ i, d.disk.dir.found (.whole i) name = none) (parent : Nat)
    (cut : Cut LineageFile) : (d.crash parent cut).disk.read name = none := by
  unfold crash
  split
  · rw [Disk.read, Unsynced.now_settled]
    by_cases hname : name = .temporary
    · rw [hname, Function.update_self, Option.map_none]
    · rw [Function.update_of_ne hname, Disk.crash, Unsynced.now_settled, h, Option.map_none]
  · rfl

theorem read_crash_present (h : d.present = .settled true) (hname : name ≠ .temporary)
    (parent : Nat) (cut : Cut LineageFile) : (d.crash parent cut).present.now = true ∧
      (d.crash parent cut).disk.read name = (d.disk.crash cut).read name := by
  rw [crash, if_pos (by rw [h, Unsynced.found_settled])]
  refine ⟨rfl, ?_⟩
  rw [Disk.read, Unsynced.now_settled, Function.update_of_ne hname, Disk.read]

/-- The directory is there, and the lock in it. -/
theorem applyAll_preparing (h : d.present = .settled d.present.now) :
    d.applyAll d.preparing = ⟨.settled true, d.disk.apply (.openAppend .lock)⟩ := by
  unfold preparing
  cases hnow : d.present.now with
  | true =>
    rw [hnow] at h
    simp only [if_true, List.nil_append, applyAll, List.foldl_cons, List.foldl_nil,
      LineageDirectory.apply, h]
  | false =>
    simp only [Bool.false_eq_true, if_false, List.cons_append, List.nil_append, applyAll,
      List.foldl_cons, List.foldl_nil, LineageDirectory.apply, Unsynced.sync, Unsynced.now_change]

/-- **The marker, cut short** after some operations: the capsule is in place, and the marker is
the beginning of one. -/
structure Marked (c : LineageCapsuleV2) (marker : List UInt8) (cut : Cut LineageFile) (done : Nat)
    (disk : Disk LineageFile LineageUnit) : Prop where
  capsule : (disk.crash cut).read .capsule = some [.capsule c]
  beginning : ∀ file, (disk.crash cut).read .marker = some file → file <+: marker.map .byte
  empty : done < 2 → ∀ file, (disk.crash cut).read .marker = some file → file = []
  whole : 4 ≤ done → (disk.crash cut).read .marker = some (marker.map .byte)

section Marking

variable {disk : Disk LineageFile LineageUnit} {t : LineageFile × Nat}
  (hcapsule : ∀ i, disk.dir.found (.whole i) .capsule = some t)
  (hfile : disk.files t = .settled [.capsule c]) (hlt : t.2 < disk.made)
  (hmarker : ∀ i, disk.dir.found (.whole i) .marker = none)

include hcapsule hfile

theorem read_capsule (cut : Cut LineageFile) :
    (disk.crash cut).read .capsule = some [.capsule c] := by
  rw [Disk.read_crash, hcapsule, Option.map_some, hfile, Unsynced.found_settled]

include hlt

/-- **While the marker is written** the capsule stays, and the marker may be missing. -/
theorem read_staged_capsule (v : Unsynced (List LineageUnit)) (cut : Cut LineageFile) :
    ((disk.staged .marker v).crash cut).read .capsule = some [.capsule c] :=
  read_capsule (fun i => (Disk.found_staged (by decide) v i).trans (hcapsule i))
    ((Disk.files_staged hlt v).trans hfile) cut

omit hcapsule hfile hlt in
include hmarker in
theorem read_staged_marker {v : Unsynced (List LineageUnit)} {cut : Cut LineageFile}
    (h : ((disk.staged .marker v).crash cut).read .marker = some file) :
    ∃ pick, file = v.found pick := by
  rw [Disk.read_crash, Option.map_eq_some_iff] at h
  obtain ⟨m, hm, rfl⟩ := h
  rcases disk.dir.found_change [] _ cut.dir with hold | hnew
  · cases (hmarker _).symm.trans ((congrFun hold .marker).symm.trans hm)
  · have hmade := (congrFun hnew .marker).symm.trans hm
    rw [Function.update_self] at hmade
    cases hmade
    exact ⟨_, by rw [Disk.files_staged_self]⟩

include hmarker

theorem marked_marking (marker : List UInt8) (cut : Cut LineageFile) (done : Nat) :
    Marked c marker cut done (disk.applyAll ((marking marker).take done)) := by
  have hstaged : ∀ v done, (∀ pick, v.found pick <+: marker.map .byte) →
      (done < 2 → ∀ pick, v.found pick = []) → done < 4 →
      Marked c marker cut done (disk.staged .marker v) := by
    intro v done hbeginning hempty hdone
    refine ⟨read_staged_capsule hcapsule hfile hlt v cut, fun file h => ?_, fun hlt file h => ?_,
      fun h => absurd h (by omega)⟩
    · obtain ⟨pick, rfl⟩ := read_staged_marker hmarker h
      exact hbeginning pick
    · obtain ⟨pick, rfl⟩ := read_staged_marker hmarker h
      exact hempty hlt pick
  revert done
  refine Disk.forall_take_cons.mpr ⟨⟨read_capsule hcapsule hfile cut, fun file h => ?_,
    fun _ file h => ?_, fun h => absurd h (by omega)⟩, ?_⟩
  · rw [Disk.read_crash, hmarker, Option.map_none] at h
    cases h
  · rw [Disk.read_crash, hmarker, Option.map_none] at h
    cases h
  rw [Disk.apply_create_of_none (Disk.now_eq_none hmarker)]
  refine Disk.forall_take_cons.mpr ⟨hstaged _ 1 (fun pick => ?_) (fun _ pick => ?_) (by omega), ?_⟩
  · rw [Unsynced.found_settled]
    exact List.nil_prefix
  · rw [Unsynced.found_settled]
  rw [Disk.staged_append]
  refine Disk.forall_take_cons.mpr ⟨hstaged _ 2 (Disk.found_prefix _) (by omega) (by omega), ?_⟩
  rw [Disk.staged_sync]
  refine Disk.forall_take_cons.mpr ⟨hstaged _ 3 (fun pick => ?_) (by omega) (by omega), ?_⟩
  · rw [Unsynced.found_settled]
    exact List.prefix_rfl
  -- the directory is synced: the marker is found with all its bytes
  refine Disk.forall_take_nil.mpr fun done => ?_
  have hnow : disk.dir.now .capsule = some t := by
    rw [← Unsynced.found_of_le (v := disk.dir) (Nat.le_refl _)]
    exact hcapsule _
  have hwhole :
      (((disk.staged .marker (.settled (marker.map .byte))).apply .syncDir).crash cut).read
      .marker = some (marker.map .byte) := by
    rw [Disk.read_crash_syncDir, Disk.staged, Disk.dir_set, Disk.now_make, Option.map_some,
      Disk.files_set_self, Unsynced.found_settled]
  have hread : (((disk.staged .marker (.settled (marker.map .byte))).apply .syncDir).crash cut).read
      .capsule = some [.capsule c] := by
    rw [Disk.read_crash_syncDir, Disk.now_staged (by decide), hnow, Option.map_some,
      Disk.files_staged hlt, hfile, Unsynced.found_settled]
  refine ⟨hread, fun file h => ?_, fun h => absurd h (by omega), fun _ => hwhole⟩
  cases hwhole.symm.trans h
  exact List.prefix_rfl

end Marking

section CutShort

variable (h : d.Fresh) (c : LineageCapsuleV2) (marker : List UInt8)

/-- A file is not found before the operation that gives it its name. -/
theorem read_crashed_eq_none (hnone : ∀ i, d.disk.dir.found (.whole i) name = none)
    (hlock : name ≠ .lock) (havoids : ∀ op ∈ (establishing c marker).take n, Disk.Avoids name op)
    (hdone : done ≤ d.preparing.length + n) (parent : Nat) (cut : Cut LineageFile) :
    (d.crashed (d.opening c marker) done parent cut).disk.read name = none := by
  refine read_crash_none (found_applyAll_eq_none hnone fun op hop => ?_) parent cut
  have hmem : DirectoryOp.file op ∈ (d.opening c marker).take (d.preparing.length + n) := by
    rw [← Nat.min_eq_left hdone, ← List.take_take] at hop
    exact List.mem_of_mem_take hop
  rw [opening, List.take_length_add_append, ← List.map_take, List.mem_append] at hmem
  rcases hmem with hmem | hmem
  · have hop : op = .openAppend .lock := by
      unfold preparing at hmem
      split at hmem <;> simpa using hmem
    rw [hop]
    exact hlock
  · obtain ⟨op', hop', heq⟩ := List.mem_map.mp hmem
    cases heq
    exact havoids op hop'

include h

/-- **The first opening, cut short** once the capsule is in place. -/
theorem marked_crashed (cut : Cut LineageFile) (done : Nat) :
    ∃ disk, Marked c marker cut done disk ∧
      d.applyAll ((d.opening c marker).take (d.preparing.length + (5 + done))) =
        ⟨.settled true, disk⟩ := by
  have htemporary : (d.disk.apply (.openAppend .lock)).dir.now .temporary = none :=
    (Disk.now_openAppend_of_ne (by decide)).trans h.temporary
  have hmarker : (d.disk.apply (.openAppend .lock)).dir.now .marker = none :=
    (Disk.now_openAppend_of_ne (by decide)).trans (Disk.now_eq_none h.marker)
  have hops : d.applyAll ((d.opening c marker).take (d.preparing.length + (5 + done))) =
      ⟨.settled true, (((d.disk.apply (.openAppend .lock)).installed .temporary .capsule
        [.capsule c]).apply .syncDir).applyAll ((marking marker).take done)⟩ := by
    rw [opening, List.take_length_add_append, ← List.map_take, applyAll_append,
      applyAll_preparing h.present, applyAll_map_file, establishing,
      show 5 = (installing c).length from rfl, List.take_length_add_append, Disk.applyAll_append,
      installing, Disk.applyAll_replaceOps htemporary]
  refine ⟨_, ?_, hops⟩
  generalize d.disk.apply (.openAppend .lock) = disk at htemporary hmarker
  have hcapsule : (disk.installed .temporary .capsule [.capsule c]).dir.now .capsule =
      some (.temporary, disk.made) := (Disk.now_installed (by decide) _).1
  have hnone : (disk.installed .temporary .capsule [.capsule c]).dir.now .marker = none :=
    (Disk.now_installed_of_ne (by decide) (by decide) _).trans hmarker
  have hfile : (disk.installed .temporary .capsule [.capsule c]).files (.temporary, disk.made) =
      .settled [.capsule c] := Disk.files_staged_self _
  refine marked_marking (t := (.temporary, disk.made)) (fun i => ?_)
    (show ((disk.installed .temporary .capsule [.capsule c]).apply .syncDir).files _ = _ from hfile)
    (Nat.lt_succ_self _) (fun i => ?_) marker cut done
  · rw [Disk.apply, Unsynced.sync, Unsynced.found_settled, hcapsule]
  · rw [Disk.apply, Unsynced.sync, Unsynced.found_settled, hnone]

end CutShort

/-- **A crash of the first opening** leaves a directory that can be opened again, to the same
capsule, as long as the capsule has not been given its name for good, and once the marker is
whole. In between, neither mode takes the directory. -/
theorem initialization_recoverable_iff (hfresh : d.Fresh)
    (h : openLineage env d identity none .initializeNew = .ok (ops, c)) (done parent : Nat)
    (cut : Cut LineageFile) :
    (∃ mode ops', openLineage env (d.crashed ops done parent cut) identity none mode =
        .ok (ops', c)) ↔
      done < d.preparing.length + 4 ∨
      done = d.preparing.length + 4 ∧
        (d.crashed ops done parent cut).disk.read .capsule = none ∨
      d.preparing.length + 7 ≤ done ∧ done < d.preparing.length + 9 ∧
        (∃ file, (d.crashed ops done parent cut).disk.read .marker = some file ∧
          file.length = 32) ∨
      d.preparing.length + 9 ≤ done := by
  obtain ⟨initial, hash, hinitial, hhash, -, -, -, rfl, hfits, rfl⟩ := openLineage_initializeNew h
  have hlength : (hash.toList.map LineageUnit.byte).length = 32 := by simp
  rcases Nat.lt_or_ge done (d.preparing.length + 5) with hdone | hdone
  · have hmarker : (d.crashed (d.opening (.empty initial) hash.toList) done parent cut).disk.read
        .marker = none :=
      read_crashed_eq_none _ _ hfresh.marker (by decide) (n := 4) (by
        simp [establishing, installing, Disk.replaceOps, Disk.Avoids]) (by omega) parent cut
    rcases Nat.lt_or_ge done (d.preparing.length + 4) with hdone' | hdone'
    · -- no capsule is in place yet: the first opening is made again
      have hcapsule : (d.crashed (d.opening (.empty initial) hash.toList) done parent cut).disk.read
          .capsule = none :=
        read_crashed_eq_none _ _ hfresh.capsule (by decide) (n := 3) (by
          simp [establishing, installing, Disk.replaceOps, Disk.Avoids]) (by omega) parent cut
      exact iff_of_true ⟨_, exists_openLineage_of_none hinitial hhash hfits hmarker hcapsule⟩
        (.inl hdone')
    · -- the capsule has its name, for good or not
      generalize d.crashed _ done parent cut = d' at hmarker ⊢
      constructor
      · rintro ⟨mode, ops', hopen⟩
        refine .inr (.inl ⟨by omega, ?_⟩)
        by_contra hsome
        obtain ⟨file, hfile⟩ := Option.ne_none_iff_exists'.mp hsome
        cases hmarker.symm.trans (marker_of_openLineage hhash hfile hopen)
      · rintro (hlt | ⟨-, hcapsule⟩ | ⟨hle, -⟩ | hle)
        · omega
        · exact ⟨_, exists_openLineage_of_none hinitial hhash hfits hmarker hcapsule⟩
        · omega
        · omega
  · obtain ⟨n, rfl⟩ : ∃ n, done = d.preparing.length + (5 + n) :=
      ⟨done - d.preparing.length - 5, by omega⟩
    obtain ⟨disk, hmarked, hdisk⟩ := marked_crashed hfresh (.empty initial) hash.toList cut n
    have hcrashed : ∀ name, name ≠ .temporary →
        (d.crashed (d.opening (.empty initial) hash.toList) (d.preparing.length + (5 + n)) parent
          cut).present.now = true ∧
        (d.crashed (d.opening (.empty initial) hash.toList) (d.preparing.length + (5 + n)) parent
          cut).disk.read name = (disk.crash cut).read name := by
      intro name hname
      rw [LineageDirectory.crashed, hdisk]
      exact read_crash_present rfl hname parent cut
    obtain ⟨hpresent, hcapsule⟩ := hcrashed .capsule (by decide)
    obtain ⟨-, hmarker⟩ := hcrashed .marker (by decide)
    rw [hmarked.capsule] at hcapsule
    rw [hmarker]
    constructor
    · rintro ⟨mode, ops', hopen⟩
      -- the marker that is read is the whole one
      have hwhole := hmarker.symm.trans (marker_of_openLineage hhash hcapsule hopen)
      rcases Nat.lt_or_ge n 2 with hn | hn
      · rw [hmarked.empty hn _ hwhole] at hlength
        cases hlength
      · rcases Nat.lt_or_ge n 4 with hn' | hn'
        · exact .inr (.inr (.inl ⟨by omega, by omega, _, hwhole, hlength⟩))
        · exact .inr (.inr (.inr (by omega)))
    · intro hcut
      have hwhole : (disk.crash cut).read .marker = some (hash.toList.map .byte) := by
        rcases hcut with hlt | ⟨heq, -⟩ | ⟨-, -, file, hfile, h32⟩ | hle
        · omega
        · omega
        · rw [hfile, (hmarked.beginning file hfile).eq_of_length (h32.trans hlength.symm)]
        · exact hmarked.whole (by omega)
      obtain ⟨hidentity, hworking⟩ := workingState_empty hinitial
      exact ⟨.resume, _, openLineage_resume hpresent (hmarker.trans hwhole) hcapsule hhash hinitial
        hidentity hworking⟩

end First

theorem fresh_absent : LineageDirectory.absent.Fresh :=
  ⟨rfl, fun _ => rfl, fun _ => rfl, rfl⟩

/-- Everything reaches the disk. -/
def wholeCut : Cut LineageFile := ⟨100, fun _ => .whole 100⟩

/-- The entries of the directory are as they were when it was last synced. -/
def unsyncedCut : Cut LineageFile := ⟨0, fun _ => .whole 0⟩

set_option maxRecDepth 100000 in
theorem local_initializes :
    (openLineage localnet .absent localIdentity none .initializeNew).toOption.isSome = true := by
  decide +kernel

/-- A crash that takes back the name of the capsule does no harm. -/
theorem initialization_recovers_local : ∃ ops c,
    openLineage localnet .absent localIdentity none .initializeNew = .ok (ops, c) ∧
    ∃ mode ops', openLineage localnet (LineageDirectory.absent.crashed ops 7 0 unsyncedCut)
      localIdentity none mode = .ok (ops', c) := by
  obtain ⟨⟨ops, c⟩, hsome⟩ := Option.isSome_iff_exists.mp local_initializes
  have hopen := toOption_eq_some.mp hsome
  obtain ⟨initial, hash, -, -, -, -, -, -, -, hops⟩ := openLineage_initializeNew hopen
  refine ⟨ops, c, hopen,
    (initialization_recoverable_iff fresh_absent hopen 7 0 unsyncedCut).mpr (.inr (.inl ⟨rfl, ?_⟩))⟩
  rw [hops]
  rfl

set_option maxRecDepth 100000 in
/-- **The directory may be lost**: after a crash right before the marker is created, both modes
refuse it. -/
theorem initialization_refused_before_marker : ∃ ops c,
    openLineage localnet .absent localIdentity none .initializeNew = .ok (ops, c) ∧
    ∀ mode r, openLineage localnet (LineageDirectory.absent.crashed ops 8 0 wholeCut) localIdentity
      none mode ≠ .ok r := by
  have h : (openLineage localnet .absent localIdentity none .initializeNew).toOption.any
      (fun r => [StartupModeV2.initializeNew, .resume].all fun mode =>
        (openLineage localnet (absent.crashed r.1 8 0 wholeCut) localIdentity none
          mode).toOption.isNone) = true := by
    decide +kernel
  obtain ⟨⟨ops, c⟩, hopen, hrefused⟩ := (Option.any_eq_true _ _).mp h
  refine ⟨ops, c, toOption_eq_some.mp hopen, ?_⟩
  intro mode r hr
  have hnone := List.all_eq_true.mp hrefused mode (by cases mode <;> simp)
  rw [hr] at hnone
  cases hnone

end Northstar.Runtime
