import Northstar.Lib.Bytes

/-!
# Reading fixed-width fields

A record is serialized field by field, each in a width fixed by its type. A reader takes one
field off the front of a string and hands on the rest; a record is read back by reading its
fields in order and nothing after them.

## Main definitions

* `readByte`, `read32`, `read64`, `readWord`: one byte, 32 bytes, a 64-bit and a 32-bit word
* `readBool`, `readMany`: a truth value, a number of records
* `atEnd`: nothing is left

## Main results

* `readByte_cons`, `read32_append`, `read64_append`: a reader takes off what was written
* `length_of_readByte`, `length_of_read32`, `length_of_read64`: and nothing more
-/

namespace Reader

open Bytes

/-- The number that a little-endian string encodes. -/
def value : List UInt8 → Nat
  | [] => 0
  | b :: bs => b.toNat + 256 * value bs

def readByte : List UInt8 → Option (UInt8 × List UInt8)
  | [] => none
  | b :: rest => some (b, rest)

def read32 (bytes : List UInt8) : Option (Bytes32 × List UInt8) :=
  if h : (bytes.take 32).length = 32 then some (ofList32 (bytes.take 32) h, bytes.drop 32)
  else none

def read64 (bytes : List UInt8) : Option (UInt64 × List UInt8) :=
  if 8 ≤ bytes.length then some (UInt64.ofNat (value (bytes.take 8)), bytes.drop 8) else none

def readWord (bytes : List UInt8) : Option (UInt32 × List UInt8) :=
  if 4 ≤ bytes.length then some (UInt32.ofNat (value (bytes.take 4)), bytes.drop 4) else none

/-- A truth value is one byte, zero or one. -/
def readBool : List UInt8 → Option (Bool × List UInt8)
  | 0 :: rest => some (false, rest)
  | 1 :: rest => some (true, rest)
  | _ => none

/-- So many records, one after another. -/
def readMany {α : Type*} (read : List UInt8 → Option (α × List UInt8)) :
    (count : Nat) → List UInt8 → Option (List α × List UInt8)
  | 0, bytes => some ([], bytes)
  | count + 1, bytes => do
    let (a, rest) ← read bytes
    let (as, rest) ← readMany read count rest
    some (a :: as, rest)

/-- Nothing is left to read. -/
def atEnd (bytes : List UInt8) : Option Unit := if bytes = [] then some () else none

variable (rest : List UInt8)

theorem value_le (w n : Nat) : value (le w n) = n % 256 ^ w := by
  induction w generalizing n with
  | zero => simp [le, value, Nat.mod_one]
  | succ w ih =>
    have hpow : 256 ^ (w + 1) = 256 * 256 ^ w := pow_succ' 256 w
    rw [le, value, ih, UInt8.toNat_ofNat', hpow, Nat.mod_mul]

@[simp] theorem readByte_cons (b : UInt8) : readByte (b :: rest) = some (b, rest) := rfl

@[simp] theorem read32_append (x : Bytes32) : read32 (x.toList ++ rest) = some (x, rest) := by
  have hlength : x.toList.length = 32 := Vector.length_toList
  have htake : (x.toList ++ rest).take 32 = x.toList := List.take_left' hlength
  have hdrop : (x.toList ++ rest).drop 32 = rest := List.drop_left' hlength
  have hread : ∀ l h, l = x.toList → ofList32 l h = x := by
    rintro l h rfl
    exact toList_inj32.mp (toList_ofList32 _ _)
  rw [read32, dif_pos (by rw [htake, hlength]), hread _ _ htake, hdrop]

@[simp] theorem read64_append (x : UInt64) : read64 (le64 x ++ rest) = some (x, rest) := by
  have htake : (le64 x ++ rest).take 8 = le64 x := List.take_left' (length_le64 x)
  have hdrop : (le64 x ++ rest).drop 8 = rest := List.drop_left' (length_le64 x)
  have hvalue : value (le64 x) = x.toNat := by
    rw [le64, value_le, Nat.mod_eq_of_lt (by simpa using x.toNat_lt)]
  rw [read64, if_pos (by simp), htake, hdrop, hvalue, UInt64.ofNat_toNat]

@[simp] theorem atEnd_nil : atEnd [] = some () := rfl

/-! ## How much is read -/

section Lengths

variable {bytes rest : List UInt8}

theorem length_of_readByte {b : UInt8} (h : readByte bytes = some (b, rest)) :
    bytes.length = 1 + rest.length := by
  cases bytes with
  | nil => simp [readByte] at h
  | cons c bytes =>
    simp only [readByte, Option.some.injEq, Prod.mk.injEq] at h
    rw [List.length_cons, h.2, Nat.add_comm]

theorem length_of_read32 {x : Bytes32} (h : read32 bytes = some (x, rest)) :
    bytes.length = 32 + rest.length := by
  unfold read32 at h
  split at h
  · rename_i htake
    simp only [Option.some.injEq, Prod.mk.injEq] at h
    rw [List.length_take] at htake
    rw [← h.2, List.length_drop]
    omega
  · simp at h

theorem length_of_read64 {x : UInt64} (h : read64 bytes = some (x, rest)) :
    bytes.length = 8 + rest.length := by
  unfold read64 at h
  split at h
  · rename_i hlong
    simp only [Option.some.injEq, Prod.mk.injEq] at h
    rw [← h.2, List.length_drop]
    omega
  · simp at h

theorem eq_nil_of_atEnd {u : Unit} (h : atEnd bytes = some u) : bytes = [] := by
  unfold atEnd at h
  split at h
  · assumption
  · simp at h

end Lengths

end Reader
