import Mathlib.Tactic
import Mathlib.Data.Vector.Basic

/-!
# Byte strings

Fixed-width encodings of machine words and the rules by which a concatenation of
fields determines its fields. Hash inputs are framed this way: every field has a
width fixed by its position, so equal strings have equal fields.

## Main definitions

* `ascii`: the bytes of a text
* `le`, `be`: the little- and big-endian encoding of a number in a given width
* `Bytes32`: strings of exactly 32 bytes
* `chunksOf`, `overwrite`: cutting a string into pieces and writing into one

## Main results

* `le_inj`: fixed-width little-endian encoding is injective below its bound
* `append_inj_iff`: a field of known width splits off a concatenation
-/

namespace Bytes

/-- Byte strings of length 32. -/
abbrev Bytes32 := Vector UInt8 32

/-- Strings of 32 bytes are compared byte by byte, from the first one on. -/
instance : DecidableEq Bytes32 := fun a b =>
  decidable_of_iff (a.toList = b.toList) Vector.toList_inj

instance : @LawfulBEq Bytes32 Vector.instBEq := inferInstance

instance : Std.TransOrd Bytes32 := inferInstance

instance : Std.LawfulEqOrd Bytes32 := inferInstance

/-- The string of 32 zero bytes. -/
def zero32 : Bytes32 := Vector.replicate 32 0

/-- The bytes of an ASCII text. -/
def ascii (s : String) : List UInt8 := s.toList.map fun c => UInt8.ofNat c.toNat

/-! ## Fixed-width numbers -/

/-- **Little-endian encoding** of `n` in `w` bytes, dropping what does not fit. -/
def le : (w : Nat) → (n : Nat) → List UInt8
  | 0, _ => []
  | w + 1, n => UInt8.ofNat n :: le w (n / 256)

/-- **Big-endian encoding** of `n` in `w` bytes. -/
def be (w n : Nat) : List UInt8 := (le w n).reverse

@[simp] theorem length_le (w n : Nat) : (le w n).length = w := by
  induction w generalizing n with
  | zero => rfl
  | succ w ih => simp [le, ih]

@[simp] theorem length_be (w n : Nat) : (be w n).length = w := by simp [be]

theorem le_inj {w n m : Nat} (hn : n < 256 ^ w) (hm : m < 256 ^ w) : le w n = le w m ↔ n = m := by
  refine ⟨fun h => ?_, fun h => h ▸ rfl⟩
  induction w generalizing n m with
  | zero =>
    rw [pow_zero] at hn hm
    omega
  | succ w ih =>
    rw [pow_succ] at hn hm
    obtain ⟨hhead, htail⟩ := List.cons.inj h
    have hlow : n % 256 = m % 256 := by
      have := congrArg UInt8.toNat hhead
      rwa [UInt8.toNat_ofNat', UInt8.toNat_ofNat'] at this
    have hhigh : n / 256 = m / 256 := ih (by omega) (by omega) htail
    omega

/-- The eight little-endian bytes of a 64-bit word. -/
def le64 (x : UInt64) : List UInt8 := le 8 x.toNat

/-- The four little-endian bytes of a 32-bit word. -/
def le32 (x : UInt32) : List UInt8 := le 4 x.toNat

/-- The sixteen little-endian bytes of a 128-bit word. -/
def le128 (x : BitVec 128) : List UInt8 := le 16 x.toNat

@[simp] theorem length_le64 (x : UInt64) : (le64 x).length = 8 := length_le 8 _

@[simp] theorem length_le32 (x : UInt32) : (le32 x).length = 4 := length_le 4 _

@[simp] theorem length_le128 (x : BitVec 128) : (le128 x).length = 16 := length_le 16 _

@[simp] theorem le64_inj {x y : UInt64} : le64 x = le64 y ↔ x = y := by
  rw [le64, le64, le_inj (by simpa using x.toNat_lt) (by simpa using y.toNat_lt), UInt64.toNat_inj]

@[simp] theorem le32_inj {x y : UInt32} : le32 x = le32 y ↔ x = y := by
  rw [le32, le32, le_inj (by simpa using x.toNat_lt) (by simpa using y.toNat_lt), UInt32.toNat_inj]

@[simp] theorem le128_inj {x y : BitVec 128} : le128 x = le128 y ↔ x = y := by
  rw [le128, le128, le_inj (by simpa using x.isLt) (by simpa using y.isLt), BitVec.toNat_inj]

/-! ## Strings of 32 bytes -/

/-- A list of 32 bytes as a string of that length. -/
def ofList32 (l : List UInt8) (h : l.length = 32) : Bytes32 := ⟨l.toArray, by simpa using h⟩

@[simp] theorem toList_ofList32 (l : List UInt8) (h : l.length = 32) :
    (ofList32 l h).toList = l := rfl

/-- At most 32 bytes, right-aligned in a string of 32. -/
def leftPad32 (l : List UInt8) : Bytes32 :=
  ofList32 ((List.replicate (32 - l.length) 0 ++ l).take 32) (by simp; omega)

/-- The pieces of `l` of length `n`, the last one shorter where `n` does not divide. -/
def chunksOf {α : Type*} (n : Nat) (l : List α) : List (List α) :=
  (List.range ((l.length + n - 1) / n)).map fun i => (l.drop (i * n)).take n

/-- `l` with `chunk` written at `offset`. -/
def splice {α : Type*} (l : List α) (offset : Nat) (chunk : List α) : List α :=
  l.take offset ++ chunk ++ l.drop (offset + chunk.length)

theorem length_splice {α : Type*} {l chunk : List α} {offset : Nat}
    (h : offset + chunk.length ≤ l.length) : (splice l offset chunk).length = l.length := by
  simp only [splice, List.length_append, List.length_take, List.length_drop]
  omega

/-- `data` with `chunk` written at `offset`, when it fits. -/
def overwrite {n : Nat} (data : Vector UInt8 n) (offset : Nat) (chunk : List UInt8) :
    Vector UInt8 n :=
  if h : offset + chunk.length ≤ n then
    ⟨(splice data.toList offset chunk).toArray, by
      rw [List.size_toArray, length_splice (by simpa using h), Vector.length_toList]⟩
  else data

/-! ## Concatenated fields -/

/-- A field of known width splits off a concatenation. -/
theorem append_inj_iff {α : Type*} {a b c d : List α} (h : a.length = c.length) :
    a ++ b = c ++ d ↔ a = c ∧ b = d :=
  ⟨fun e => List.append_inj e h, fun ⟨h₁, h₂⟩ => h₁ ▸ h₂ ▸ rfl⟩

@[simp] theorem toList_inj32 {a b : Bytes32} : a.toList = b.toList ↔ a = b :=
  Vector.toList_inj

section Fields

variable {l m : List UInt8}

theorem toList_append_inj {a b : Bytes32} : a.toList ++ l = b.toList ++ m ↔ a = b ∧ l = m := by
  rw [append_inj_iff (Vector.length_toList.trans Vector.length_toList.symm), toList_inj32]

theorem le32_append_inj {x y : UInt32} : le32 x ++ l = le32 y ++ m ↔ x = y ∧ l = m := by
  rw [append_inj_iff (by simp), le32_inj]

theorem le64_append_inj {x y : UInt64} : le64 x ++ l = le64 y ++ m ↔ x = y ∧ l = m := by
  rw [append_inj_iff (by simp), le64_inj]

theorem le128_append_inj {x y : BitVec 128} : le128 x ++ l = le128 y ++ m ↔ x = y ∧ l = m := by
  rw [append_inj_iff (by simp), le128_inj]

end Fields

end Bytes
