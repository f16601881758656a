import Mathlib.Tactic

/-!
# Files and crashes

What a program writes is on the disk for certain only once it is synced. Until then a crash may
bring back what a file held before, or leave part of what was appended to it; and it may bring
back an earlier state of the directory, in which files that were made since are missing and
files that were renamed or removed are where they were.

The directory and every file are kept as `Unsynced` values: the value as the program sees it,
and what a crash may leave in its place. A crash picks one value for the directory and, apart
from that, one for every file. The directory goes back to a state it was in: its changes reach
the disk in the order they are made.

## Main definitions

* `Unsynced`, `Unsynced.found`: a value on the disk, and what a crash leaves of it
* `Disk`, `Op`: a directory of files, and the operations on it
* `Disk.crash`: what a crash leaves of a disk

## Main results

* `map_found_change`: a change is invisible to a crash where it keeps what is looked at
* `Disk.forall_take_cons`: what holds at every crash point, operation by operation
* `Disk.forall_take_replaceOps`: a file is replaced as a whole
* `Disk.Sound.applyAll`: an entry names a file that was made under a name of the same kind
-/

namespace Storage

/-! ## Values -/

/-- **A value on the disk**: as it is, what it has been since it was last synced, and what a
change may leave of it when it is cut short. -/
structure Unsynced (α : Type*) where
  now : α
  past : List α
  torn : List α

/-- Which value a crash leaves: one of those it had, or part of a change. -/
inductive Pick
  | whole (index : Nat)
  | torn (index : Nat)

def Pick.isWhole : Pick → Bool
  | whole _ => true
  | torn _ => false

namespace Unsynced

variable {α γ : Type*} {v : Unsynced α} {partway : List α} {a : α}

/-- A value that is on the disk for certain. -/
def settled (a : α) : Unsynced α := ⟨a, [], []⟩

/-- **A change**, with what may be left of it when it is cut short. -/
def change (v : Unsynced α) (partway : List α) (a : α) : Unsynced α :=
  ⟨a, v.past ++ [v.now], v.torn ++ partway⟩

def sync (v : Unsynced α) : Unsynced α := settled v.now

/-- The value when it was last synced. -/
def synced (v : Unsynced α) : α := v.past.headD v.now

/-- **What a crash leaves.** A number past the end stands for the value as it is. -/
def found (v : Unsynced α) : Pick → α
  | .whole i => v.past.getD i v.now
  | .torn i => v.torn.getD i v.now

@[simp] theorem now_settled : (settled a).now = a := rfl

@[simp] theorem now_change : (v.change partway a).now = a := rfl

@[simp] theorem found_settled (pick : Pick) : (settled a).found pick = a := by
  cases pick <;> rfl

theorem found_change_of_le (h : i ≤ v.past.length) :
    (v.change partway a).found (.whole i) = v.found (.whole i) := by
  simp only [found, change, List.getD_eq_getElem?_getD]
  rcases h.lt_or_eq with hlt | rfl
  · rw [List.getElem?_append_left hlt]
    simp [hlt]
  · simp

theorem found_change_of_lt (h : v.past.length < i) :
    (v.change partway a).found (.whole i) = a := by
  simp only [found, change, List.getD_eq_getElem?_getD]
  rw [List.getElem?_eq_none (by simp; omega), Option.getD_none]

theorem found_of_le (h : v.past.length ≤ i) : v.found (.whole i) = v.now := by
  simp only [found, List.getD_eq_getElem?_getD, List.getElem?_eq_none h, Option.getD_none]

/-- Whatever has been changed, a crash leaves a value that was there, or the new one. -/
theorem found_change (v : Unsynced α) (partway : List α) (a : α) (i : Nat) :
    (v.change partway a).found (.whole i) = v.found (.whole i) ∨
      (v.change partway a).found (.whole i) = a := by
  rcases Nat.lt_or_ge v.past.length i with h | h
  · exact .inr (found_change_of_lt h)
  · exact .inl (found_change_of_le h)

/-- **A change is not seen** through anything it keeps. -/
theorem map_found_change (g : α → γ) (h : g a = g v.now) (i : Nat) :
    g ((v.change partway a).found (.whole i)) = g (v.found (.whole i)) := by
  rcases Nat.lt_or_ge v.past.length i with hi | hi
  · rw [found_change_of_lt hi, found_of_le hi.le, h]
  · rw [found_change_of_le hi]

end Unsynced

/-! ## Disks -/

/-- **A directory of files.** A file is known by the name it was made under and by a number; an
entry of the directory may give it another name. -/
structure Disk (ν β : Type*) where
  dir : Unsynced (ν → Option (ν × Nat))
  files : ν × Nat → Unsynced (List β)
  made : Nat

/-- **An operation.** A file that is created or opened is made if it is missing. -/
inductive Op (ν β : Type*)
  | create (name : ν)
  | openAppend (name : ν)
  | append (name : ν) (bytes : List β)
  | sync (name : ν)
  | rename (source target : ν)
  | remove (name : ν)
  | syncDir

/-- What a crash leaves of the directory and of each file. -/
structure Cut (ν : Type*) where
  dir : Nat
  files : ν × Nat → Pick

namespace Disk

variable {ν β : Type*} [DecidableEq ν] {d : Disk ν β} {op : Op ν β} {ops : List (Op ν β)}
  {name : ν} {file : ν × Nat}

/-- A new file, which is empty. -/
def make (d : Disk ν β) (name : ν) : Disk ν β where
  dir := d.dir.change [] (Function.update d.dir.now name (some (name, d.made)))
  files := Function.update d.files (name, d.made) (.settled [])
  made := d.made + 1

/-- A file is given other contents. -/
def set (d : Disk ν β) (file : ν × Nat) (v : Unsynced (List β)) : Disk ν β :=
  { d with files := Function.update d.files file v }

def changeFile (d : Disk ν β) (name : ν) (g : Unsynced (List β) → Unsynced (List β)) :
    Disk ν β :=
  match d.dir.now name with
  | some file => d.set file (g (d.files file))
  | none => d

/-- What may be left of bytes that are appended. -/
def partsOf (bytes : List β) (old : List β) : List (List β) :=
  (List.range' 1 (bytes.length - 1)).map fun n => old ++ bytes.take n

/-- What a crash leaves of a new file is the beginning of it. -/
theorem found_prefix (bytes : List β) (pick : Pick) :
    ((Unsynced.settled []).change (partsOf bytes []) bytes).found pick <+: bytes := by
  cases pick with
  | whole i =>
    rcases (Unsynced.settled []).found_change (partsOf bytes []) bytes i with h | h
    · rw [h, Unsynced.found_settled]
      exact List.nil_prefix
    · rw [h]
  | torn i =>
    show (partsOf bytes []).getD i bytes <+: bytes
    rw [List.getD_eq_getElem?_getD]
    cases h : (partsOf bytes [])[i]? with
    | none => exact List.prefix_rfl
    | some part =>
      obtain ⟨n, -, rfl⟩ := List.mem_map.mp (List.mem_of_getElem? h)
      exact List.take_prefix n bytes

/-- **One operation.** -/
def apply (d : Disk ν β) : Op ν β → Disk ν β
  | .create name =>
    if (d.dir.now name).isSome then d.changeFile name fun v => v.change [] [] else d.make name
  | .openAppend name => if (d.dir.now name).isSome then d else d.make name
  | .append name bytes =>
    d.changeFile name fun v => v.change (partsOf bytes v.now) (v.now ++ bytes)
  | .sync name => d.changeFile name .sync
  | .rename source target =>
    { d with
      dir := d.dir.change []
        (Function.update (Function.update d.dir.now target (d.dir.now source)) source none) }
  | .remove name =>
    if (d.dir.now name).isSome then
      { d with dir := d.dir.change [] (Function.update d.dir.now name none) }
    else d
  | .syncDir => { d with dir := d.dir.sync }

def applyAll (d : Disk ν β) (ops : List (Op ν β)) : Disk ν β := ops.foldl apply d

/-- What a file holds. -/
def read (d : Disk ν β) (name : ν) : Option (List β) :=
  (d.dir.now name).map fun file => (d.files file).now

/-- **What a crash leaves.** -/
def crash (d : Disk ν β) (cut : Cut ν) : Disk ν β where
  dir := .settled (d.dir.found (.whole cut.dir))
  files file := .settled ((d.files file).found (cut.files file))
  made := d.made

/-- A directory without files. -/
def empty : Disk ν β := ⟨.settled fun _ => none, fun _ => .settled [], 0⟩

omit [DecidableEq ν] in
theorem read_crash (cut : Cut ν) (name : ν) : (d.crash cut).read name =
    (d.dir.found (.whole cut.dir) name).map fun file => (d.files file).found (cut.files file) :=
  rfl

omit [DecidableEq ν] in
theorem read_of_now (h : d.dir.now name = some file) : d.read name = some (d.files file).now := by
  rw [read, h, Option.map_some]

omit [DecidableEq ν] in
/-- A crash leaves the same of a file where the same entry is found and the file is the same. -/
theorem read_crash_congr {d' : Disk ν β} {cut : Cut ν}
    (hdir : d'.dir.found (.whole cut.dir) name = d.dir.found (.whole cut.dir) name)
    (hfiles : ∀ file, d.dir.found (.whole cut.dir) name = some file →
      d'.files file = d.files file) :
    (d'.crash cut).read name = (d.crash cut).read name := by
  rw [read_crash, read_crash, hdir]
  cases hfile : d.dir.found (.whole cut.dir) name with
  | none => rfl
  | some file => rw [Option.map_some, Option.map_some, hfiles file hfile]

/-! ### One operation -/

@[simp] theorem files_set_self (v : Unsynced (List β)) : (d.set file v).files file = v :=
  Function.update_self ..

theorem files_set_of_ne (h : other ≠ file) (v : Unsynced (List β)) :
    (d.set file v).files other = d.files other := Function.update_of_ne h ..

@[simp] theorem dir_set (v : Unsynced (List β)) : (d.set file v).dir = d.dir := rfl

theorem set_set (v w : Unsynced (List β)) : (d.set file v).set file w = d.set file w := by
  rw [set, set, set, Function.update_idem]

theorem changeFile_of_now (h : d.dir.now name = some file)
    (g : Unsynced (List β) → Unsynced (List β)) :
    d.changeFile name g = d.set file (g (d.files file)) := by
  rw [changeFile, h]

/-- A file that is there is emptied when it is created. -/
theorem apply_create_of_now (h : d.dir.now name = some file) :
    d.apply (.create name) = d.set file ((d.files file).change [] []) := by
  rw [apply, h, Option.isSome_some, if_pos rfl, changeFile_of_now h]

theorem apply_append_of_now (h : d.dir.now name = some file) (bytes : List β) :
    d.apply (.append name bytes) = d.set file ((d.files file).change
      (partsOf bytes (d.files file).now) ((d.files file).now ++ bytes)) := by
  rw [apply, changeFile_of_now h]

theorem apply_sync_set (h : d.dir.now name = some file) (v : Unsynced (List β)) :
    (d.set file v).apply (.sync name) = d.set file (.settled v.now) := by
  rw [apply, changeFile_of_now (d := d.set file v) h, files_set_self, set_set, Unsynced.sync]

@[simp] theorem now_make : (d.make name).dir.now name = some (name, d.made) :=
  Function.update_self ..

theorem now_make_of_ne (h : other ≠ name) : (d.make name).dir.now other = d.dir.now other :=
  Function.update_of_ne h ..

@[simp] theorem files_make : (d.make name).files (name, d.made) = .settled [] :=
  Function.update_self ..

theorem found_make_of_ne (h : other ≠ name) (i : Nat) :
    (d.make name).dir.found (.whole i) other = d.dir.found (.whole i) other :=
  Unsynced.map_found_change (fun entries : ν → Option (ν × Nat) => entries other)
    (Function.update_of_ne h ..) i

theorem make_eq_set : d.make name = (d.make name).set (name, d.made) (.settled []) := by
  simp only [make, set, Function.update_idem]

theorem files_make_of_lt (h : file.2 < d.made) (name : ν) :
    (d.make name).files file = d.files file := by
  refine Function.update_of_ne ?_ ..
  rintro rfl
  exact Nat.lt_irrefl _ h

theorem now_openAppend_of_ne (h : other ≠ name) :
    (d.apply (.openAppend name)).dir.now other = d.dir.now other := by
  rw [apply]
  split
  · rfl
  · exact now_make_of_ne h

theorem now_rename (source target : ν) : (d.apply (.rename source target)).dir.now =
    Function.update (Function.update d.dir.now target (d.dir.now source)) source none := rfl

theorem found_rename (d : Disk ν β) (source target : ν) (i : Nat) :
    (d.apply (.rename source target)).dir.found (.whole i) = d.dir.found (.whole i) ∨
      (d.apply (.rename source target)).dir.found (.whole i) =
        (d.apply (.rename source target)).dir.now :=
  d.dir.found_change [] _ i

theorem now_remove (name : ν) :
    (d.apply (.remove name)).dir.now = Function.update d.dir.now name none := by
  rw [apply]
  split
  · rfl
  · rename_i h
    rw [Option.not_isSome_iff_eq_none] at h
    rw [← h, Function.update_eq_self]

theorem files_remove (name : ν) : (d.apply (.remove name)).files = d.files := by
  rw [apply]
  split <;> rfl

/-- A crash after a file is removed finds the directory as it was, or without the file. -/
theorem found_remove (d : Disk ν β) (name : ν) (i : Nat) :
    (d.apply (.remove name)).dir.found (.whole i) = d.dir.found (.whole i) ∨
      (d.apply (.remove name)).dir.found (.whole i) = (d.apply (.remove name)).dir.now := by
  rw [apply]
  split
  · exact d.dir.found_change [] _ i
  · exact .inl rfl

omit [DecidableEq ν] in
theorem now_eq_none (h : ∀ i, d.dir.found (.whole i) name = none) : d.dir.now name = none := by
  rw [← Unsynced.found_of_le (v := d.dir) (Nat.le_refl _)]
  exact h _

/-- The operation gives no file this name. -/
def Avoids (name : ν) : Op ν β → Prop
  | .create other | .openAppend other | .rename _ other => name ≠ other
  | _ => True

/-- **A name that is not given is not found.** -/
theorem found_apply_eq_none (h : ∀ i, d.dir.found (.whole i) name = none) (hop : Avoids name op)
    (i : Nat) : (d.apply op).dir.found (.whole i) name = none := by
  have hnow := now_eq_none h
  have hchange : ∀ other g, (d.changeFile other g).dir = d.dir := by
    intro other g
    unfold changeFile
    split <;> rfl
  cases op with
  | create other =>
    simp only [apply]
    split
    · rw [hchange]
      exact h i
    · rw [found_make_of_ne hop]
      exact h i
  | openAppend other =>
    simp only [apply]
    split
    · exact h i
    · rw [found_make_of_ne hop]
      exact h i
  | append other bytes | sync other =>
    simp only [apply, hchange]
    exact h i
  | rename source target =>
    rcases d.found_rename source target i with hold | hnew
    · rw [hold]
      exact h i
    · rw [hnew, now_rename]
      by_cases hsource : name = source
      · rw [hsource, Function.update_self]
      · rw [Function.update_of_ne hsource, Function.update_of_ne hop, hnow]
  | remove other =>
    rcases d.found_remove other i with hold | hnew
    · rw [hold]
      exact h i
    · rw [hnew, now_remove]
      by_cases hother : name = other
      · rw [hother, Function.update_self]
      · rw [Function.update_of_ne hother, hnow]
  | syncDir => rw [apply, Unsynced.sync, Unsynced.found_settled, hnow]

/-- A directory that was synced is found as it is. -/
theorem read_crash_syncDir (cut : Cut ν) (name : ν) : ((d.apply .syncDir).crash cut).read name =
    (d.dir.now name).map fun file => (d.files file).found (cut.files file) := by
  rw [read_crash, apply, Unsynced.sync, Unsynced.found_settled]

/-! ### Crash points -/

/-- **Every crash point**: before the first operation, or at some point after it. -/
theorem forall_take_cons {P : Nat → Disk ν β → Prop} :
    (∀ done, P done (d.applyAll ((op :: ops).take done))) ↔
      P 0 d ∧ ∀ done, P (done + 1) ((d.apply op).applyAll (ops.take done)) := by
  constructor
  · intro h
    exact ⟨h 0, fun done => h (done + 1)⟩
  · rintro ⟨hfirst, hlater⟩ (_ | done)
    · exact hfirst
    · exact hlater done

theorem forall_take_nil {P : Nat → Disk ν β → Prop} :
    (∀ done, P done (d.applyAll (([] : List (Op ν β)).take done))) ↔ ∀ done, P done d := by
  simp only [List.take_nil]
  rfl

theorem applyAll_append (ops later : List (Op ν β)) :
    d.applyAll (ops ++ later) = (d.applyAll ops).applyAll later := List.foldl_append ..

/-- Every crash point of one list of operations, and then of another. -/
theorem forall_take_append {P : Disk ν β → Prop} {later : List (Op ν β)}
    (hops : ∀ done, P (d.applyAll (ops.take done)))
    (hlater : ∀ done, P ((d.applyAll ops).applyAll (later.take done))) (done : Nat) :
    P (d.applyAll ((ops ++ later).take done)) := by
  rw [List.take_append]
  rcases Nat.lt_or_ge done ops.length with hdone | hdone
  · rw [Nat.sub_eq_zero_of_le hdone.le, List.take_zero, List.append_nil]
    exact hops done
  · rw [List.take_of_length_le hdone, applyAll_append]
    exact hlater _

/-! ### Replacing a file

A file is written anew under a temporary name, synced, and then given the name of the file it
replaces. -/

section Replace

variable {tmp target : ν} {bytes : List β}

/-- The file is made under the temporary name. -/
def staged (d : Disk ν β) (tmp : ν) (v : Unsynced (List β)) : Disk ν β :=
  (d.make tmp).set (tmp, d.made) v

/-- It takes the place of the other one. -/
def installed (d : Disk ν β) (tmp target : ν) (bytes : List β) : Disk ν β :=
  (d.staged tmp (.settled bytes)).apply (.rename tmp target)

def replaceOps (tmp target : ν) (bytes : List β) : List (Op ν β) :=
  [.create tmp, .append tmp bytes, .sync tmp, .rename tmp target, .syncDir]

theorem apply_create_of_none (h : d.dir.now tmp = none) :
    d.apply (.create tmp) = d.staged tmp (.settled []) := by
  rw [apply, h]
  exact make_eq_set

theorem staged_append (v : Unsynced (List β)) : (d.staged tmp v).apply (.append tmp bytes) =
    d.staged tmp (v.change (partsOf bytes v.now) (v.now ++ bytes)) := by
  rw [apply_append_of_now (d := d.staged tmp v) now_make, staged, files_set_self, set_set, staged]

theorem staged_sync (v : Unsynced (List β)) :
    (d.staged tmp v).apply (.sync tmp) = d.staged tmp (.settled v.now) :=
  apply_sync_set now_make v

@[simp] theorem files_staged_self (v : Unsynced (List β)) :
    (d.staged tmp v).files (tmp, d.made) = v := files_set_self v

theorem files_staged (hlt : file.2 < d.made) (v : Unsynced (List β)) :
    (d.staged tmp v).files file = d.files file := by
  rw [staged, files_set_of_ne, files_make_of_lt hlt]
  rintro rfl
  exact Nat.lt_irrefl _ hlt

theorem found_staged (hname : name ≠ tmp) (v : Unsynced (List β)) (i : Nat) :
    (d.staged tmp v).dir.found (.whole i) name = d.dir.found (.whole i) name :=
  found_make_of_ne hname i

theorem now_staged (hname : name ≠ tmp) (v : Unsynced (List β)) :
    (d.staged tmp v).dir.now name = d.dir.now name := now_make_of_ne hname

theorem now_installed (h : target ≠ tmp) (bytes : List β) :
    (d.installed tmp target bytes).dir.now target = some (tmp, d.made) ∧
      (d.installed tmp target bytes).dir.now tmp = none := by
  rw [installed, now_rename, Function.update_self, Function.update_of_ne h, Function.update_self]
  exact ⟨now_make, rfl⟩

theorem now_installed_of_ne (htarget : name ≠ target) (htmp : name ≠ tmp) (bytes : List β) :
    (d.installed tmp target bytes).dir.now name = d.dir.now name := by
  rw [installed, now_rename, Function.update_of_ne htmp, Function.update_of_ne htarget,
    now_staged htmp]

theorem applyAll_replaceOps (h : d.dir.now tmp = none) (bytes : List β) :
    d.applyAll (replaceOps tmp target bytes) = (d.installed tmp target bytes).apply .syncDir := by
  simp only [replaceOps, applyAll, List.foldl_cons, List.foldl_nil, apply_create_of_none h,
    staged_append, staged_sync, installed]
  rfl

/-- **Every crash point** while a file is replaced: the old one is there until the new one is
complete. -/
theorem forall_take_replaceOps {P : Disk ν β → Prop} (h : d.dir.now tmp = none) (hold : P d)
    (hstaged : ∀ v, P (d.staged tmp v)) (hinstalled : P (d.installed tmp target bytes))
    (hsynced : P ((d.installed tmp target bytes).apply .syncDir)) (done : Nat) :
    P (d.applyAll ((replaceOps tmp target bytes).take done)) := by
  revert done
  refine forall_take_cons.mpr ⟨hold, ?_⟩
  rw [apply_create_of_none h]
  refine forall_take_cons.mpr ⟨hstaged _, ?_⟩
  rw [staged_append]
  refine forall_take_cons.mpr ⟨hstaged _, ?_⟩
  rw [staged_sync]
  refine forall_take_cons.mpr ⟨hstaged _, ?_⟩
  exact forall_take_cons.mpr ⟨hinstalled, forall_take_nil.mpr fun _ => hsynced⟩

end Replace

/-! ### Kinds of names -/

/-- Every entry names a file that was made, under a name of the same kind. -/
structure Sound {κ : Type*} (kind : ν → κ) (d : Disk ν β) : Prop where
  made : ∀ i name file, d.dir.found (.whole i) name = some file → file.2 < d.made
  kind : ∀ i name file, d.dir.found (.whole i) name = some file → kind file.1 = kind name

variable {κ : Type*} {kind : ν → κ}

/-- The operation gives no file a name of another kind. -/
def Keeps (kind : ν → κ) : Op ν β → Prop
  | .rename source target => kind source = kind target
  | _ => True

namespace Sound

omit [DecidableEq ν] in
theorem now (h : d.Sound kind) (hfile : d.dir.now name = some file) :
    file.2 < d.made ∧ kind file.1 = kind name := by
  have hfound : d.dir.found (.whole d.dir.past.length) name = some file := by
    rw [Unsynced.found_of_le (Nat.le_refl _)]
    exact hfile
  exact ⟨h.made _ _ _ hfound, h.kind _ _ _ hfound⟩

omit [DecidableEq ν] in
theorem settled
    (hentries : ∀ name file, entries name = some file → file.2 < n ∧ kind file.1 = kind name)
    (files : ν × Nat → Unsynced (List β)) : Sound kind ⟨.settled entries, files, n⟩ := by
  refine ⟨fun i name file hfile => ?_, fun i name file hfile => ?_⟩
  · rw [Unsynced.found_settled] at hfile
    exact (hentries name file hfile).1
  · rw [Unsynced.found_settled] at hfile
    exact (hentries name file hfile).2

omit [DecidableEq ν] in
theorem change (h : d.Sound kind) (hn : d.made ≤ n)
    (hentries : ∀ name file, entries name = some file → file.2 < n ∧ kind file.1 = kind name)
    (files : ν × Nat → Unsynced (List β)) :
    Sound kind ⟨d.dir.change [] entries, files, n⟩ := by
  refine ⟨fun i name file hfile => ?_, fun i name file hfile => ?_⟩
  · rcases d.dir.found_change [] entries i with hsame | hnew
    · exact (h.made i name file (hsame ▸ hfile)).trans_le hn
    · exact (hentries name file (hnew ▸ hfile)).1
  · rcases d.dir.found_change [] entries i with hsame | hnew
    · exact h.kind i name file (hsame ▸ hfile)
    · exact (hentries name file (hnew ▸ hfile)).2

theorem make (h : d.Sound kind) (name : ν) : (d.make name).Sound kind := by
  refine h.change (Nat.le_succ _) (fun other file hfile => ?_) _
  by_cases hother : other = name
  · subst hother
    rw [Function.update_self] at hfile
    cases hfile
    exact ⟨Nat.lt_succ_self _, rfl⟩
  · rw [Function.update_of_ne hother] at hfile
    exact ⟨(h.now hfile).1.trans (Nat.lt_succ_self _), (h.now hfile).2⟩

theorem set (h : d.Sound kind) (file : ν × Nat) (v : Unsynced (List β)) :
    (d.set file v).Sound kind := ⟨h.made, h.kind⟩

theorem changeFile (h : d.Sound kind) (name : ν) (g : Unsynced (List β) → Unsynced (List β)) :
    (d.changeFile name g).Sound kind := by
  unfold Disk.changeFile
  split
  · exact h.set _ _
  · exact h

theorem apply (h : d.Sound kind) (hop : Keeps kind op) : (d.apply op).Sound kind := by
  cases op with
  | create name =>
    simp only [Disk.apply]
    split
    · exact h.changeFile name _
    · exact h.make name
  | openAppend name =>
    simp only [Disk.apply]
    split
    · exact h
    · exact h.make name
  | append name bytes =>
    exact h.changeFile name fun v => v.change (partsOf bytes v.now) (v.now ++ bytes)
  | sync name => exact h.changeFile name _
  | rename source target =>
    refine h.change (Nat.le_refl _) (fun name file hfile => ?_) _
    by_cases hsource : name = source
    · subst hsource
      rw [Function.update_self] at hfile
      cases hfile
    · rw [Function.update_of_ne hsource] at hfile
      by_cases htarget : name = target
      · subst htarget
        rw [Function.update_self] at hfile
        exact ⟨(h.now hfile).1, (h.now hfile).2.trans hop⟩
      · rw [Function.update_of_ne htarget] at hfile
        exact h.now hfile
  | remove name =>
    simp only [Disk.apply]
    split
    · refine h.change (Nat.le_refl _) (fun other file hfile => ?_) _
      by_cases hother : other = name
      · subst hother
        rw [Function.update_self] at hfile
        cases hfile
      · rw [Function.update_of_ne hother] at hfile
        exact h.now hfile
    · exact h
  | syncDir => exact settled (fun name file hfile => h.now hfile) d.files

theorem applyAll (h : d.Sound kind) (hops : ∀ op ∈ ops, Keeps kind op) :
    (d.applyAll ops).Sound kind := by
  induction ops generalizing d with
  | nil => exact h
  | cons op ops ih =>
    exact ih (h.apply (hops op List.mem_cons_self)) fun o ho => hops o (List.mem_cons_of_mem _ ho)

omit [DecidableEq ν] in
theorem crash (h : d.Sound kind) (cut : Cut ν) : (d.crash cut).Sound kind :=
  settled (fun name file hfile =>
    ⟨h.made cut.dir name file hfile, h.kind cut.dir name file hfile⟩) _

end Sound

end Disk

end Storage
