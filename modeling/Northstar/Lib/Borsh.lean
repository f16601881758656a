import Northstar.Lib.Reader
import Northstar.Lib.TreeMaps

/-!
# Serializers that are read back

Values are written one after another, and each is read off the front of a string again. A
serializer carries the proof that reading undoes writing, whatever follows, and the ways of
combining serializers keep it: a record is read back by the way it is put together.

Writing may fail: the length of a sequence is written as a 32-bit word.

## Main definitions

* `Borsh`: writing and reading the values of a type
* `Borsh.pair`, `Borsh.iso`, `Borsh.choice`, `Borsh.list`, `Borsh.option`, `Borsh.treeMap`:
  combinations
* `Borsh.fromSlice`: reading a value and nothing after it

## Main results

* `Borsh.fromSlice_write`: a value that was written is read back
* `Borsh.write_inj`: values that are written alike are equal
-/

open Bytes Reader

/-- **A serializer**: reading takes off what was written and leaves what follows. -/
structure Borsh (α : Type) where
  write : α → Option (List UInt8)
  read : List UInt8 → Option (α × List UInt8)
  read_write : ∀ {a : α} {bytes : List UInt8} (rest : List UInt8), write a = some bytes →
    read (bytes ++ rest) = some (a, rest)

namespace Borsh

variable {α β : Type}

/-- A value and nothing after it. -/
def fromSlice (b : Borsh α) (bytes : List UInt8) : Option α :=
  match b.read bytes with
  | some (a, []) => some a
  | _ => none

theorem fromSlice_write (b : Borsh α) {a : α} {bytes : List UInt8} (h : b.write a = some bytes) :
    b.fromSlice bytes = some a := by
  have hread := b.read_write [] h
  rw [List.append_nil] at hread
  rw [fromSlice, hread]

theorem write_inj (b : Borsh α) {a a' : α} {bytes : List UInt8} (ha : b.write a = some bytes)
    (ha' : b.write a' = some bytes) : a = a' :=
  Option.some.inj ((b.fromSlice_write ha).symm.trans (b.fromSlice_write ha'))

/-! ## Words -/

/-- Nothing at all. -/
def unit : Borsh Unit where
  write _ := some []
  read bytes := some ((), bytes)
  read_write := by
    rintro ⟨⟩ bytes rest h
    cases h
    rfl

def byte : Borsh UInt8 where
  write b := some [b]
  read := readByte
  read_write := by
    intro b bytes rest h
    cases h
    rfl

def bool : Borsh Bool where
  write b := some [b.toUInt8]
  read := readBool
  read_write := by
    rintro (_ | _) bytes rest h
    · cases h
      rfl
    · cases h
      rfl

/-- **Numbers of one width**, least byte first. -/
def word (width : Nat) (toNat : α → Nat) (ofNat : Nat → α)
    (hlt : ∀ a, toNat a < 256 ^ width) (hof : ∀ a, ofNat (toNat a) = a) : Borsh α where
  write a := some (le width (toNat a))
  read bytes :=
    if width ≤ bytes.length then some (ofNat (value (bytes.take width)), bytes.drop width) else none
  read_write := by
    intro a bytes rest h
    cases h
    have htake : (le width (toNat a) ++ rest).take width = le width (toNat a) :=
      List.take_left' (length_le width _)
    have hdrop : (le width (toNat a) ++ rest).drop width = rest :=
      List.drop_left' (length_le width _)
    rw [if_pos (by simp), htake, hdrop, value_le, Nat.mod_eq_of_lt (hlt a), hof]

def word16 : Borsh UInt16 :=
  word 2 UInt16.toNat UInt16.ofNat UInt16.toNat_lt fun _ => UInt16.ofNat_toNat

def word32 : Borsh UInt32 :=
  word 4 UInt32.toNat UInt32.ofNat UInt32.toNat_lt fun _ => UInt32.ofNat_toNat

def word64 : Borsh UInt64 :=
  word 8 UInt64.toNat UInt64.ofNat UInt64.toNat_lt fun _ => UInt64.ofNat_toNat

def word128 : Borsh (BitVec 128) :=
  word 16 BitVec.toNat (BitVec.ofNat 128) (fun x => x.isLt) fun x => by simp

/-- The length of a sequence. -/
def length : Borsh { n : Nat // n < 2 ^ 32 } :=
  word 4 Subtype.val (fun n => if h : n < 2 ^ 32 then ⟨n, h⟩ else ⟨0, by decide⟩)
    (fun n => n.2) fun n => dif_pos n.2

/-- So many bytes. -/
def vector (n : Nat) : Borsh (Vector UInt8 n) where
  write v := some v.toList
  read bytes :=
    if h : (bytes.take n).length = n then
      some (⟨(bytes.take n).toArray, by simpa using h⟩, bytes.drop n)
    else none
  read_write := by
    intro v bytes rest h
    cases h
    have hlength : v.toList.length = n := Vector.length_toList
    have htake : (v.toList ++ rest).take n = v.toList := List.take_left' hlength
    have hdrop : (v.toList ++ rest).drop n = rest := List.drop_left' hlength
    rw [dif_pos (by rw [htake, hlength]), hdrop]
    simp only [htake, Option.some.injEq, Prod.mk.injEq, and_true]
    exact Vector.toArray_inj.mp Vector.toArray_toList

/-! ## Combinations -/

/-- One value after another. -/
def pair (b : Borsh α) (c : Borsh β) : Borsh (α × β) where
  write p := do
    let x ← b.write p.1
    let y ← c.write p.2
    return x ++ y
  read bytes := do
    let (a, rest) ← b.read bytes
    let (a', rest) ← c.read rest
    return ((a, a'), rest)
  read_write := by
    rintro ⟨a, a'⟩ bytes rest h
    simp only [Option.bind_eq_bind, Option.bind_eq_some_iff, Option.pure_def,
      Option.some.injEq] at h
    obtain ⟨x, hx, y, hy, rfl⟩ := h
    rw [List.append_assoc, b.read_write _ hx]
    simp only [Option.bind_eq_bind, Option.bind_some, c.read_write rest hy, Option.pure_def]

theorem write_pair {b : Borsh α} {c : Borsh β} {p : α × β} {bytes : List UInt8} :
    (b.pair c).write p = some bytes ↔
      ∃ x, b.write p.1 = some x ∧ ∃ y, c.write p.2 = some y ∧ x ++ y = bytes := by
  simp only [pair, Option.bind_eq_bind, Option.bind_eq_some_iff, Option.pure_def, Option.some.injEq]

/-- The values of a type that is another one under a different name. -/
def iso (b : Borsh β) (f : α → β) (g : β → α) (h : ∀ a, g (f a) = a) : Borsh α where
  write a := b.write (f a)
  read bytes := (b.read bytes).map fun p => (g p.1, p.2)
  read_write := by
    intro a bytes rest hwrite
    rw [b.read_write rest hwrite, Option.map_some, h]

/-- A value after a byte that tells its variant. -/
def tagged (tag : UInt8) (b : Borsh α) : Borsh α where
  write a := (b.write a).map (tag :: ·)
  read
    | [] => none
    | byte :: bytes => if byte = tag then b.read bytes else none
  read_write := by
    intro a bytes rest h
    obtain ⟨x, hx, rfl⟩ := Option.map_eq_some_iff.mp h
    exact (if_pos rfl).trans (b.read_write rest hx)

/-- Every string starts with a byte, and not with this one. -/
def Avoids (c : Borsh β) (tag : UInt8) : Prop :=
  ∀ {b : β} {bytes : List UInt8}, c.write b = some bytes → ∃ byte more, bytes = byte :: more ∧
    byte ≠ tag

/-- **A value of either kind**, the first after a byte that the second does not start with. -/
def choice (tag : UInt8) (b : Borsh α) (c : Borsh β) (havoids : c.Avoids tag) :
    Borsh (α ⊕ β) where
  write
    | .inl a => (b.write a).map (tag :: ·)
    | .inr a => c.write a
  read
    | [] => none
    | byte :: bytes =>
      if byte = tag then (b.read bytes).map fun p => (.inl p.1, p.2)
      else (c.read (byte :: bytes)).map fun p => (.inr p.1, p.2)
  read_write := by
    rintro (a | a) bytes rest h
    · obtain ⟨x, hx, rfl⟩ := Option.map_eq_some_iff.mp h
      have hread := congrArg (Option.map fun p => (Sum.inl (β := β) p.1, p.2))
        (b.read_write rest hx)
      exact (if_pos rfl).trans hread
    · obtain ⟨byte, more, rfl, hne⟩ := havoids h
      have hread := congrArg (Option.map fun p => (Sum.inr (α := α) p.1, p.2)) (c.read_write rest h)
      exact (if_neg hne).trans hread

theorem tagged_avoids {b : Borsh α} {tag tag' : UInt8} (h : tag ≠ tag') :
    (tagged tag b).Avoids tag' := by
  intro a bytes hwrite
  obtain ⟨x, -, rfl⟩ := Option.map_eq_some_iff.mp hwrite
  exact ⟨tag, x, rfl, h⟩

theorem choice_avoids {b : Borsh α} {c : Borsh β} {tag tag' : UInt8} {havoids : c.Avoids tag}
    (h : tag ≠ tag') (hc : c.Avoids tag') : (choice tag b c havoids).Avoids tag' := by
  rintro (a | a) bytes hwrite
  · exact tagged_avoids h hwrite
  · exact hc hwrite

/-- A value that may be missing. -/
def option (b : Borsh α) : Borsh (Option α) where
  write
    | none => some [0]
    | some a => (b.write a).map (1 :: ·)
  read
    | [] => none
    | byte :: bytes =>
      if byte = 0 then some (none, bytes)
      else if byte = 1 then (b.read bytes).map fun p => (some p.1, p.2)
      else none
  read_write := by
    rintro (_ | a) bytes rest h
    · cases h
      rfl
    · obtain ⟨x, hx, rfl⟩ := Option.map_eq_some_iff.mp h
      have hread : (b.read (x ++ rest)).map (fun p => (some p.1, p.2)) = some (some a, rest) := by
        rw [b.read_write rest hx, Option.map_some]
      exact hread

/-- Values one after another, without their number. -/
def writeAll (b : Borsh α) : List α → Option (List UInt8)
  | [] => some []
  | a :: as => do
    let x ← b.write a
    let y ← b.writeAll as
    return x ++ y

theorem readMany_writeAll (b : Borsh α) {as : List α} {bytes : List UInt8} (rest : List UInt8)
    (h : b.writeAll as = some bytes) :
    readMany b.read as.length (bytes ++ rest) = some (as, rest) := by
  induction as generalizing bytes with
  | nil =>
    cases h
    rfl
  | cons a as ih =>
    simp only [writeAll, Option.bind_eq_bind, Option.bind_eq_some_iff, Option.pure_def,
      Option.some.injEq] at h
    obtain ⟨x, hx, y, hy, rfl⟩ := h
    rw [List.length_cons, readMany, List.append_assoc, b.read_write _ hx]
    simp only [Option.bind_eq_bind, Option.bind_some, ih hy]

/-- **A sequence** after its length. -/
def list (b : Borsh α) : Borsh (List α) where
  write as :=
    if h : as.length < 2 ^ 32 then do
      let n ← length.write ⟨as.length, h⟩
      let x ← b.writeAll as
      return n ++ x
    else none
  read bytes := do
    let (n, rest) ← length.read bytes
    readMany b.read n.1 rest
  read_write := by
    intro as bytes rest h
    split at h
    · rename_i hlt
      simp only [Option.bind_eq_bind, Option.bind_eq_some_iff, Option.pure_def,
        Option.some.injEq] at h
      obtain ⟨n, hn, x, hx, rfl⟩ := h
      rw [List.append_assoc, length.read_write _ hn]
      exact b.readMany_writeAll rest hx
    · cases h

/-! ## Ordered maps -/

section Maps

open Std

variable {cmp : α → α → Ordering} [TransCmp cmp] [LawfulEqCmp cmp]

/-- A map is made up of its entries. -/
theorem ofList_toList (m : ExtTreeMap α β cmp) : ExtTreeMap.ofList m.toList cmp = m := by
  let _ : BEq α := ⟨fun a b => cmp a b == .eq⟩
  have : LawfulBEqCmp cmp := ⟨fun {a b} => (beq_iff_eq (a := cmp a b) (b := .eq)).symm⟩
  refine ExtTreeMap.ext_getElem? fun a => ?_
  cases h : m[a]? with
  | none =>
    refine ExtTreeMap.getElem?_ofList_of_contains_eq_false ?_
    rw [Bool.eq_false_iff, Ne, List.contains_iff_exists_mem_beq]
    rintro ⟨k, hk, heq⟩
    obtain ⟨⟨_, v⟩, hmem, rfl⟩ := List.mem_map.mp hk
    obtain rfl := LawfulEqCmp.eq_of_compare (beq_iff_eq.mp heq)
    rw [ExtTreeMap.mem_toList_iff_getElem?_eq_some, h] at hmem
    cases hmem
  | some v =>
    exact ExtTreeMap.getElem?_ofList_of_mem ReflCmp.compare_self ExtTreeMap.distinct_keys_toList
      (ExtTreeMap.mem_toList_iff_getElem?_eq_some.mpr h)

/-- **An ordered map**: its entries in the order of the keys. -/
def treeMap (b : Borsh α) (c : Borsh β) : Borsh (ExtTreeMap α β cmp) :=
  (b.pair c).list.iso ExtTreeMap.toList (fun entries => ExtTreeMap.ofList entries cmp) ofList_toList

end Maps

end Borsh
