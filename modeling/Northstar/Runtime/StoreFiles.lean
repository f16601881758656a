import Northstar.Runtime.Journal

/-!
# The files of the store and crashes

Between two calls everything in the snapshot and in the journal is synced. The directory need
not be: it is synced when a snapshot is written, so that a journal that was made since may be
missing after a crash, and files that were removed may be back.

What a call does to the files is a list of operations, and a crash may come after any of them.
For the operations of every call this file says what a crash may leave of the two files that are
read back.

## Main results

* `safe_of_steady`: the files as they are between two calls
* `forall_safe_write`, `forall_safe_append`: while the journal is written
* `forall_safe_snapshot`: while the snapshot is written
* `always_remove`: while files are removed
-/

namespace Northstar.Runtime

open Storage

/-- **What a crash leaves.** The file a snapshot is first written to is named after the process,
and the next process has another one. -/
def crashed (disk : StoreDisk) (cut : Cut StoreFile) : StoreDisk :=
  { disk.crash cut with
    dir := .settled (Function.update (disk.crash cut).dir.now .tmp none) }

/-- **The condition on a crash**: it leaves no part of a frame in the journal, and a journal in
which frames were synced stays in the directory. -/
def Kept (disk : StoreDisk) (cut : Cut StoreFile) : Prop :=
  ∀ file ∈ disk.dir.now .journal, (cut.files file).isWhole = true ∧
    ((disk.files file).synced ≠ [] → disk.dir.found (.whole cut.dir) .journal = some file)
  deriving Decidable

/-- The journal is one kind of file; a snapshot is renamed from the temporary file. -/
def isJournal (name : StoreFile) : Bool := decide (name = .journal)

/-- **Between two calls** everything in the snapshot and the journal is synced. -/
structure Tidy (d : StoreDisk) : Prop where
  sound : d.Sound isJournal
  quiet : ∀ i name file, name ≠ .tmp → d.dir.found (.whole i) name = some file →
    d.files file = .settled (d.files file).now
  tmp : d.dir.now .tmp = none

/-- A crash brings back no other snapshot, and no other journal; the journal may be missing. -/
def Steady (d : StoreDisk) : Prop :=
  ∀ i, d.dir.found (.whole i) .snapshot = d.dir.now .snapshot ∧
    (d.dir.found (.whole i) .journal = d.dir.now .journal ∨
      d.dir.found (.whole i) .journal = none)

/-- **Whatever a crash leaves** of the files has a property. -/
def Safe (P : Files → Prop) (d : StoreDisk) : Prop :=
  ∀ cut, Kept d cut → P (.of (d.crash cut))

/-- A journal that is missing is as good as an empty one. -/
def Insensitive (P : Files → Prop) : Prop :=
  ∀ snapshot, P ⟨snapshot, some []⟩ ↔ P ⟨snapshot, none⟩

/-- It has it even when the crash does not keep the journal. -/
def Always (P : Files → Prop) (d : StoreDisk) : Prop := ∀ cut, P (.of (d.crash cut))

variable {d : StoreDisk} {P : Files → Prop} {file : StoreFile × Nat} {bytes : List UInt8}

theorem files_crashed (cut : Cut StoreFile) : Files.of (crashed d cut) = .of (d.crash cut) := rfl

theorem Always.safe (h : Always P d) : Safe P d := fun cut _ => h cut

/-- The disk after a crash. -/
theorem tidy_crashed (h : d.Sound isJournal) (cut : Cut StoreFile) :
    Tidy (crashed d cut) ∧ Steady (crashed d cut) := by
  refine ⟨⟨?_, fun _ _ _ _ _ => rfl, rfl⟩, fun i => ?_⟩
  · refine Disk.Sound.settled (fun name file hfile => ?_) _
    by_cases hname : name = .tmp
    · subst hname
      cases hfile
    · rw [Function.update_of_ne hname] at hfile
      exact (h.crash cut).now hfile
  · rw [crashed, Unsynced.found_settled]
    exact ⟨rfl, .inl rfl⟩

namespace Tidy

theorem now_quiet (h : Tidy d) (hname : name ≠ .tmp) (hfile : d.dir.now name = some file) :
    d.files file = .settled (d.files file).now := by
  refine h.quiet d.dir.past.length name file hname ?_
  rw [Unsynced.found_of_le (Nat.le_refl _)]
  exact hfile

/-- What a crash leaves of the snapshot and the journal is what they are. -/
theorem read_crash (h : Tidy d) (cut : Cut StoreFile) (hname : name ≠ .tmp) :
    (d.crash cut).read name =
      (d.dir.found (.whole cut.dir) name).map fun file => (d.files file).now := by
  rw [Disk.read_crash]
  cases hfile : d.dir.found (.whole cut.dir) name with
  | none => rfl
  | some file =>
    rw [Option.map_some, Option.map_some, h.quiet _ _ _ hname hfile, Unsynced.found_settled]
    rfl

/-- A crash that takes back no change of the directory leaves the files as they are. -/
theorem files_crash (h : Tidy d) {cut : Cut StoreFile}
    (hfound : d.dir.found (.whole cut.dir) = d.dir.now) : Files.of (d.crash cut) = .of d := by
  rw [Files.of, h.read_crash cut (by decide), h.read_crash cut (by decide), hfound]
  rfl

end Tidy

/-- The journal's file is not the snapshot's. -/
theorem ne_of_sound (h : d.Sound isJournal) (hjournal : d.dir.now .journal = some file)
    (hother : d.dir.found (.whole i) .snapshot = some other) : other ≠ file := by
  rintro rfl
  have hkind := (h.now hjournal).2.symm.trans (h.kind _ _ _ hother)
  revert hkind
  decide

/-- A crash between two calls leaves the files as they are, or takes the journal. -/
theorem files_crash_of_steady (h : Tidy d) (hsteady : Steady d) (cut : Cut StoreFile) :
    d.dir.found (.whole cut.dir) .journal = none ∧
        Files.of (d.crash cut) = ⟨d.read .snapshot, none⟩ ∨
      Files.of (d.crash cut) = .of d := by
  obtain ⟨hsnapshot, hjournal⟩ := hsteady cut.dir
  rw [Files.of, h.read_crash cut (by decide), h.read_crash cut (by decide), hsnapshot]
  rcases hjournal with hsame | hnone
  · rw [hsame]
    exact .inr rfl
  · rw [hnone]
    exact .inl ⟨rfl, rfl⟩

/-- **The files between two calls.** A journal that a crash takes away had nothing in it. -/
theorem safe_of_steady (h : Tidy d) (hsteady : Steady d) (hempty : Insensitive P)
    (hP : P (.of d)) : Safe P d := by
  intro cut hkept
  rcases files_crash_of_steady h hsteady cut with ⟨hnone, hfiles⟩ | hfiles
  · rw [hfiles]
    cases hnow : d.dir.now .journal with
    | none =>
      have hread : d.read .journal = none := by rw [Disk.read, hnow, Option.map_none]
      rw [Files.of, hread] at hP
      exact hP
    | some file =>
      have hsynced : (d.files file).synced = [] := by
        by_contra hne
        cases hnone.symm.trans ((hkept file hnow).2 hne)
      rw [h.now_quiet (by decide) hnow] at hsynced
      rw [Files.of, Disk.read_of_now hnow, show (d.files file).now = [] from hsynced] at hP
      exact (hempty _).mp hP
  · rw [hfiles]
    exact hP

/-! ## The journal -/

section Journal

variable (h : Tidy d) (hsteady : Steady d) (hnow : d.dir.now .journal = some file)

include h hsteady hnow

/-- **While the journal is written** a crash leaves what it held or what it will hold. -/
theorem safe_setJournal (hempty : Insensitive P)
    (hold : P (.of d)) (partway : List (List UInt8)) (hnew : P ⟨d.read .snapshot, some bytes⟩) :
    Safe P (d.set file ((d.files file).change partway bytes)) := by
  intro cut hkept
  obtain ⟨hsnapshot, hjournal⟩ := hsteady cut.dir
  obtain ⟨hwhole, hentry⟩ := hkept file hnow
  have hquiet := h.now_quiet (by decide) hnow
  have hsame : ((d.set file ((d.files file).change partway bytes)).crash cut).read .snapshot =
      (d.crash cut).read .snapshot :=
    Disk.read_crash_congr rfl fun other hother =>
      Disk.files_set_of_ne (ne_of_sound h.sound hnow hother) _
  have hsynced : ((d.files file).change partway bytes).synced = (d.files file).now := by
    rw [hquiet]
    rfl
  rw [Disk.files_set_self, hsynced] at hentry
  rw [Files.of, Disk.read_of_now hnow] at hold
  rw [Files.of, hsame, h.read_crash cut (by decide), hsnapshot, Disk.read_crash, Disk.dir_set]
  rcases hjournal with hsame | hnone
  · rw [hsame, hnow, Option.map_some, Disk.files_set_self]
    cases hpick : cut.files file with
    | torn i =>
      rw [hpick] at hwhole
      cases hwhole
    | whole i =>
      rcases (d.files file).found_change partway bytes i with hfound | hfound
      · rw [hfound, hquiet, Unsynced.found_settled]
        exact hold
      · rw [hfound]
        exact hnew
  · rw [hnone, Option.map_none]
    have hnil : (d.files file).now = [] := by
      by_contra hne
      cases hnone.symm.trans (hentry hne)
    rw [hnil] at hold
    exact (hempty _).mp hold

/-- The journal is written and synced. -/
theorem tidy_setJournal (bytes : List UInt8) : Tidy (d.set file (.settled bytes)) ∧
    Steady (d.set file (.settled bytes)) ∧
    Files.of (d.set file (.settled bytes)) = ⟨d.read .snapshot, some bytes⟩ := by
  refine ⟨⟨⟨h.sound.made, h.sound.kind⟩, fun i name other hname hother => ?_, h.tmp⟩, hsteady, ?_⟩
  · by_cases heq : other = file
    · subst heq
      rw [Disk.files_set_self]
      rfl
    · rw [Disk.files_set_of_ne heq]
      exact h.quiet i name other hname hother
  · have hread : (d.set file (.settled bytes)).read .journal = some bytes := by
      rw [Disk.read_of_now (d := d.set file _) hnow, Disk.files_set_self, Unsynced.now_settled]
    have hsnapshot : (d.set file (.settled bytes)).read .snapshot = d.read .snapshot := by
      rw [Disk.read, Disk.read, Disk.dir_set]
      cases hother : d.dir.now .snapshot with
      | none => rfl
      | some other =>
        have hne : other ≠ file := by
          refine ne_of_sound (i := d.dir.past.length) h.sound hnow ?_
          rw [Unsynced.found_of_le (Nat.le_refl _), hother]
        rw [Option.map_some, Disk.files_set_of_ne hne, Option.map_some]
    rw [Files.of, hread, hsnapshot]

/-- **While the journal is written** and synced. -/
theorem forall_safe_write (hempty : Insensitive P)
    (hop : d.apply op = d.set file ((d.files file).change partway bytes)) (hold : P (.of d))
    (hnew : P ⟨d.read .snapshot, some bytes⟩) :
    (∀ done, Safe P (d.applyAll ([op, .sync .journal].take done))) ∧
      Tidy (d.applyAll [op, .sync .journal]) ∧ Steady (d.applyAll [op, .sync .journal]) ∧
      Files.of (d.applyAll [op, .sync .journal]) = ⟨d.read .snapshot, some bytes⟩ ∧
      (d.applyAll [op, .sync .journal]).dir.now .journal = some file := by
  obtain ⟨htidy, hsteady', hfiles⟩ := tidy_setJournal h hsteady hnow bytes
  have hops : d.applyAll [op, .sync .journal] = d.set file (.settled bytes) := by
    show (d.apply op).apply (.sync .journal) = _
    rw [hop, Disk.apply_sync_set hnow, Unsynced.now_change]
  rw [hops]
  refine ⟨Disk.forall_take_cons.mpr ⟨safe_of_steady h hsteady hempty hold, ?_⟩, htidy, hsteady',
    hfiles, hnow⟩
  rw [hop]
  refine Disk.forall_take_cons.mpr ⟨safe_setJournal h hsteady hnow hempty hold _ hnew, ?_⟩
  rw [Disk.apply_sync_set hnow]
  exact Disk.forall_take_nil.mpr fun _ => (safe_of_steady htidy hsteady' hempty (hfiles ▸ hnew))

end Journal

/-- **The journal is opened**, and made where it is missing. -/
theorem exists_opened (h : Tidy d) (hsteady : Steady d) :
    ∃ file, (d.apply (.openAppend .journal)).dir.now .journal = some file ∧
      Tidy (d.apply (.openAppend .journal)) ∧ Steady (d.apply (.openAppend .journal)) ∧
      Files.of (d.apply (.openAppend .journal)) =
        ⟨d.read .snapshot, some ((d.read .journal).getD [])⟩ := by
  cases hnow : d.dir.now .journal with
  | some file =>
    have hsame : d.apply (.openAppend .journal) = d := by
      rw [Disk.apply, hnow, Option.isSome_some, if_pos rfl]
    rw [hsame]
    refine ⟨file, hnow, h, hsteady, ?_⟩
    rw [Files.of, Disk.read_of_now hnow, Option.getD_some]
  | none =>
    have hmade : d.apply (.openAppend .journal) = d.make .journal := by
      rw [Disk.apply, hnow]
      rfl
    have hnone : ∀ i, d.dir.found (.whole i) .journal = none := by
      intro i
      rcases (hsteady i).2 with hsame | hnone
      · rw [hsame, hnow]
      · exact hnone
    have hfound : ∀ i, (d.make .journal).dir.found (.whole i) .journal =
        some (.journal, d.made) ∨ (d.make .journal).dir.found (.whole i) .journal = none := by
      intro i
      rcases d.dir.found_change [] _ i with hold | hnew
      · exact .inr ((congrFun hold .journal).trans (hnone i))
      · exact .inl ((congrFun hnew .journal).trans (Function.update_self ..))
    have hsnapshot : ∀ i, (d.make .journal).dir.found (.whole i) .snapshot =
        (d.make .journal).dir.now .snapshot := by
      intro i
      rw [Disk.found_make_of_ne (by decide), (hsteady i).1, Disk.now_make_of_ne (by decide)]
    rw [hmade]
    refine ⟨(.journal, d.made), Disk.now_make, ⟨h.sound.make .journal, ?_, ?_⟩,
      fun i => ⟨hsnapshot i, ?_⟩, ?_⟩
    · intro i name other hname hother
      cases name with
      | tmp => exact absurd rfl hname
      | snapshot =>
        rw [Disk.found_make_of_ne (by decide)] at hother
        rw [Disk.files_make_of_lt (h.sound.made _ _ _ hother)]
        exact h.quiet _ _ _ hname hother
      | journal =>
        rcases hfound i with hfile | hfile
        · cases hother.symm.trans hfile
          rw [Disk.files_make, Unsynced.now_settled]
        · cases hother.symm.trans hfile
    · rw [Disk.now_make_of_ne (by decide), h.tmp]
    · rw [Disk.now_make]
      exact hfound i
    · have hread : (d.make .journal).read .snapshot = d.read .snapshot := by
        rw [Disk.read, Disk.read, Disk.now_make_of_ne (by decide)]
        cases hother : d.dir.now .snapshot with
        | none => rfl
        | some other =>
          rw [Option.map_some, Disk.files_make_of_lt (h.sound.now hother).1, Option.map_some]
      have hnil : d.read .journal = none := by rw [Disk.read, hnow, Option.map_none]
      rw [Files.of, hread, Disk.read_of_now Disk.now_make, Disk.files_make, hnil, Option.getD_none,
        Unsynced.now_settled]

/-- **While a frame is written** a crash leaves the journal without it, or with it. -/
theorem forall_safe_append (h : Tidy d) (hsteady : Steady d) (hempty : Insensitive P)
    (hold : P (.of d)) (frame : List UInt8)
    (hnew : P ⟨d.read .snapshot, some ((d.read .journal).getD [] ++ frame)⟩) :
    (∀ done, Safe P (d.applyAll ((frameOps frame).take done))) ∧
      Tidy (d.applyAll (frameOps frame)) ∧ Steady (d.applyAll (frameOps frame)) ∧
      Files.of (d.applyAll (frameOps frame)) =
        ⟨d.read .snapshot, some ((d.read .journal).getD [] ++ frame)⟩ ∧
      ∃ file, (d.applyAll (frameOps frame)).dir.now .journal = some file := by
  obtain ⟨file, hnow, hopened, hsteady', hfiles⟩ := exists_opened h hsteady
  have hsnapshot : (d.apply (.openAppend .journal)).read .snapshot = d.read .snapshot :=
    congrArg Files.snapshot hfiles
  have hjournal : ((d.apply (.openAppend .journal)).files file).now =
      (d.read .journal).getD [] := by
    have hread := congrArg Files.journal hfiles
    rw [Files.of, Disk.read_of_now hnow] at hread
    exact Option.some.inj hread
  have hold' : P (.of (d.apply (.openAppend .journal))) := by
    rw [hfiles]
    rw [Files.of] at hold
    cases hread : d.read .journal with
    | none => exact (hempty _).mpr (hread ▸ hold)
    | some journal => exact hread ▸ hold
  obtain ⟨hsafe, htidy, hsteady'', hwritten, hlast⟩ :=
    forall_safe_write hopened hsteady' hnow hempty (Disk.apply_append_of_now hnow frame) hold'
      (by rw [hsnapshot, hjournal]; exact hnew)
  rw [hsnapshot, hjournal] at hwritten
  exact ⟨Disk.forall_take_cons.mpr ⟨safe_of_steady h hsteady hempty hold, hsafe⟩, htidy, hsteady'',
    hwritten, file, hlast⟩

/-! ## The snapshot -/

/-- A directory that is synced is found as it is. -/
theorem Safe.syncDir (h : Safe P d) : Safe P (d.apply .syncDir) := by
  intro cut hkept
  have hnow : d.dir.found (.whole d.dir.past.length) = d.dir.now :=
    Unsynced.found_of_le (Nat.le_refl _)
  have hsynced : (d.apply .syncDir).crash cut = d.crash { cut with dir := d.dir.past.length } := by
    simp only [Disk.crash, Disk.apply, Unsynced.sync, Unsynced.found_settled, hnow]
  rw [hsynced]
  refine h _ fun file hfile => ⟨(hkept file hfile).1, fun _ => ?_⟩
  rw [hnow]
  exact hfile

section Snapshot

variable (h : Tidy d)

include h

/-- The temporary file is not looked at. -/
theorem safe_staged (hP : Safe P d) (v : Unsynced (List UInt8)) : Safe P (d.staged .tmp v) := by
  intro cut hkept
  have hread : ∀ name, name ≠ .tmp →
      ((d.staged .tmp v).crash cut).read name = (d.crash cut).read name :=
    fun name hname => Disk.read_crash_congr (Disk.found_staged hname v _) fun file hfile =>
      Disk.files_staged (h.sound.made _ _ _ hfile) v
  rw [Files.of, hread _ (by decide), hread _ (by decide)]
  refine hP cut fun file hfile => ?_
  obtain ⟨hwhole, hentry⟩ := hkept file ((Disk.now_staged (by decide) v).trans hfile)
  rw [Disk.files_staged (h.sound.now hfile).1 v, Disk.found_staged (by decide)] at hentry
  exact ⟨hwhole, hentry⟩

theorem tidy_installed (bytes : List UInt8) : Tidy (d.installed .tmp .snapshot bytes) ∧
    Files.of (d.installed .tmp .snapshot bytes) = ⟨some bytes, d.read .journal⟩ := by
  obtain ⟨hsnapshot, htmp⟩ := d.now_installed (show StoreFile.snapshot ≠ .tmp by decide) bytes
  have hjournal : (d.installed .tmp .snapshot bytes).dir.now .journal = d.dir.now .journal :=
    Disk.now_installed_of_ne (by decide) (by decide) bytes
  have hnew : (d.installed .tmp .snapshot bytes).files (.tmp, d.made) = .settled bytes :=
    Disk.files_staged_self _
  have hold : ∀ file : StoreFile × Nat, file.2 < d.made →
      (d.installed .tmp .snapshot bytes).files file = d.files file :=
    fun file hlt => Disk.files_staged hlt _
  refine ⟨⟨((h.sound.make .tmp).set _ _).apply rfl, fun i name file hname hfile => ?_, htmp⟩, ?_⟩
  · rcases (d.staged .tmp (.settled bytes)).found_rename .tmp .snapshot i with hfound | hfound
    · rw [Disk.installed, hfound, Disk.found_staged hname] at hfile
      rw [hold file (h.sound.made _ _ _ hfile)]
      exact h.quiet i name file hname hfile
    · rw [Disk.installed, hfound] at hfile
      cases name with
      | tmp => exact absurd rfl hname
      | snapshot =>
        cases hsnapshot.symm.trans hfile
        rw [hnew, Unsynced.now_settled]
      | journal =>
        have hnow := hjournal.symm.trans hfile
        rw [hold file (h.sound.now hnow).1]
        exact h.now_quiet hname hnow
  · have hread : (d.installed .tmp .snapshot bytes).read .journal = d.read .journal := by
      rw [Disk.read, Disk.read, hjournal]
      cases hnow : d.dir.now .journal with
      | none => rfl
      | some file => rw [Option.map_some, hold file (h.sound.now hnow).1, Option.map_some]
    rw [Files.of, Disk.read_of_now hsnapshot, hnew, hread, Unsynced.now_settled]

/-- **A new snapshot takes the place of the old one**, while the journal stays. -/
theorem safe_installed (hP : Safe P d) (hnew : P ⟨some bytes, d.read .journal⟩) :
    Safe P (d.installed .tmp .snapshot bytes) := by
  intro cut hkept
  have hjournal : (d.installed .tmp .snapshot bytes).dir.now .journal =
      (d.staged .tmp (.settled bytes)).dir.now .journal :=
    (Disk.now_installed_of_ne (by decide) (by decide) bytes).trans
      (Disk.now_staged (by decide) _).symm
  rcases (d.staged .tmp (.settled bytes)).found_rename .tmp .snapshot cut.dir with hold | hfound
  · have hcrash : (d.installed .tmp .snapshot bytes).crash cut =
        (d.staged .tmp (.settled bytes)).crash cut :=
      congrArg (fun entries => Disk.mk (.settled entries) _ _) hold
    rw [hcrash]
    refine safe_staged h hP _ cut fun file hfile => ?_
    obtain ⟨hwhole, hentry⟩ := hkept file (hjournal.trans hfile)
    exact ⟨hwhole, fun hne => (congrFun hold .journal).symm.trans (hentry hne)⟩
  · obtain ⟨htidy, hfiles⟩ := tidy_installed h bytes
    rw [htidy.files_crash hfound, hfiles]
    exact hnew

/-- **While the snapshot is written** a crash leaves the old one or the new one. -/
theorem forall_safe_snapshot (hP : Safe P d) (hnew : P ⟨some bytes, d.read .journal⟩) (done : Nat) :
    Safe P (d.applyAll ((snapshotOps bytes).take done)) :=
  Disk.forall_take_replaceOps h.tmp hP (safe_staged h hP) (safe_installed h hP hnew)
    (safe_installed h hP hnew).syncDir done

/-- The snapshot is written and the directory is synced. -/
theorem tidy_snapshot (bytes : List UInt8) : Tidy (d.applyAll (snapshotOps bytes)) ∧
    Steady (d.applyAll (snapshotOps bytes)) ∧
    Files.of (d.applyAll (snapshotOps bytes)) = ⟨some bytes, d.read .journal⟩ ∧
    (d.applyAll (snapshotOps bytes)).dir.now .journal = d.dir.now .journal := by
  obtain ⟨htidy, hfiles⟩ := tidy_installed h bytes
  have hjournal : (d.installed .tmp .snapshot bytes).dir.now .journal = d.dir.now .journal :=
    Disk.now_installed_of_ne (by decide) (by decide) bytes
  rw [snapshotOps, Disk.applyAll_replaceOps h.tmp]
  refine ⟨⟨htidy.sound.apply trivial, fun i name file hname hfile => ?_, htidy.tmp⟩, fun i => ?_,
    hfiles, hjournal⟩
  · rw [Disk.apply, Unsynced.sync, Unsynced.found_settled] at hfile
    exact htidy.now_quiet hname hfile
  · rw [Disk.apply, Unsynced.sync, Unsynced.found_settled]
    exact ⟨rfl, .inl rfl⟩

end Snapshot

/-! ## Removing files -/

section Remove

variable (h : Tidy d) (name : StoreFile)

include h

theorem Tidy.remove : Tidy (d.apply (.remove name)) := by
  refine ⟨h.sound.apply trivial, fun i other file hother hfile => ?_, ?_⟩
  · rw [Disk.files_remove]
    rcases d.found_remove name i with hfound | hfound
    · rw [hfound] at hfile
      exact h.quiet i other file hother hfile
    · rw [hfound, Disk.now_remove] at hfile
      by_cases heq : other = name
      · subst heq
        rw [Function.update_self] at hfile
        cases hfile
      · rw [Function.update_of_ne heq] at hfile
        exact h.now_quiet hother hfile
  · rw [Disk.now_remove]
    by_cases heq : StoreFile.tmp = name
    · subst heq
      exact Function.update_self ..
    · rw [Function.update_of_ne heq, h.tmp]

/-- **While a file is removed** a crash leaves it or not. -/
theorem always_remove (hold : Always P d) (hnew : P (.of (d.apply (.remove name)))) :
    Always P (d.apply (.remove name)) := by
  intro cut
  rcases d.found_remove name cut.dir with hfound | hfound
  · have hfiles : Files.of ((d.apply (.remove name)).crash cut) = .of (d.crash cut) := by
      simp only [Files.of, Disk.read_crash, hfound, Disk.files_remove]
    rw [hfiles]
    exact hold cut
  · rw [(h.remove name).files_crash hfound]
    exact hnew

end Remove

theorem read_remove_self (name : StoreFile) : (d.apply (.remove name)).read name = none := by
  rw [Disk.read, Disk.now_remove, Function.update_self, Option.map_none]

theorem read_remove_of_ne (hname : other ≠ name) :
    (d.apply (.remove name)).read other = d.read other := by
  rw [Disk.read, Disk.now_remove, Function.update_of_ne hname, Disk.files_remove, Disk.read]

end Northstar.Runtime
