import Northstar.Proof.Relation

/-!
# Rows of arithmetic and jumps

A proof walks the rows of an execution and checks that the registers change as the instructions
say. For instructions that touch nothing but registers this is compared here with version 0 of
the machine. The two part in three places: the machine extends sums, differences and products
of 32 bits with their sign, it swaps bytes, and it has fewer opcodes.

## Main results

* `validateRow_iff`: what is accepted of arithmetic and jumps
* `rows_exact_iff`: when that is what the machine does
-/

namespace Northstar.Proof

open Bytes Checked

/-! ## The machine -/

/-- **Operations** on words of either width. -/
def operate {w : Nat} (operation : UInt8) (a b : BitVec w) : Option (BitVec w) :=
  match operation with
  | 0x00 => some (a + b)
  | 0x10 => some (a - b)
  | 0x20 => some (a * b)
  | 0x30 => if b = 0 then none else some (a / b)
  | 0x40 => some (a ||| b)
  | 0x50 => some (a &&& b)
  | 0x60 => some (a <<< (b.toNat % w))
  | 0x70 => some (a >>> (b.toNat % w))
  | 0x80 => some (-a)
  | 0x90 => if b = 0 then none else some (a % b)
  | 0xa0 => some (a ^^^ b)
  | 0xb0 => some b
  | 0xc0 => some (a.sshiftRight (b.toNat % w))
  | _ => none

/-- Whether a jump is taken. -/
def branches (operation : UInt8) (a b : UInt64) : Option Bool :=
  match operation with
  | 0x00 => some true
  | 0x10 => some (a == b)
  | 0x20 => some (b < a)
  | 0x30 => some (b ≤ a)
  | 0x40 => some (a &&& b != 0)
  | 0x50 => some (a != b)
  | 0x60 => some (b.toInt64.toInt < a.toInt64.toInt)
  | 0x70 => some (b.toInt64.toInt ≤ a.toInt64.toInt)
  | 0xa0 => some (a < b)
  | 0xb0 => some (a ≤ b)
  | 0xc0 => some (a.toInt64.toInt < b.toInt64.toInt)
  | 0xd0 => some (a.toInt64.toInt ≤ b.toInt64.toInt)
  | _ => none

/-- The low bytes of a register, in either order. -/
def byteSwap (big : Bool) (imm : BitVec 32) (x : UInt64) : Option (BitVec 64) :=
  if imm ∈ [16, 32, 64] then
    let bytes := le (imm.toNat / 8) x.toNat
    some (BitVec.ofNat 64 (Reader.value (if big then bytes.reverse else bytes)))
  else none

/-- The operations that jump on a comparison. -/
def isJump (operation : UInt8) : Bool := operation ≤ 0xd0 && operation != 0x80 && operation != 0x90

/-- The opcodes of version 0 for arithmetic and jumps. -/
def registerOnly (opcode : UInt8) : Bool :=
  (match opcode &&& 0x07 with
    | 4 => opcode &&& 0xf0 ≤ 0xd0
    | 7 => opcode &&& 0xf0 ≤ 0xc0
    | 5 => isJump (opcode &&& 0xf0)
    | _ => false) && opcode ∉ [0x0d, 0x8c, 0x8f]

/-- **The opcodes of version 0.** -/
def isOpcode (opcode : UInt8) : Bool :=
  registerOnly opcode || opcode ∈ [0x18, 0x61, 0x62, 0x63, 0x69, 0x6a, 0x6b, 0x71, 0x72, 0x73, 0x79,
    0x7a, 0x7b, 0x85, 0x8d, 0x95]

/-- Opcodes that pass though the machine may not have them. -/
def admitted (opcode : UInt8) : Bool :=
  opcode &&& 0x07 ∈ [1, 2, 3] || opcode &&& 0x07 == 6 && isJump (opcode &&& 0xf0) ||
    opcode ∈ [0x0d, 0x8c, 0x8f]

namespace VmRowV1

variable (row : VmRowV1)

/-- The instruction of a row. -/
def decoded : DecodedInstruction := decodeInstruction row.instruction

/-- Its class. -/
def cls : UInt8 := row.decoded.opcode &&& 0x07

/-- Its operation. -/
def operation : UInt8 := row.decoded.opcode &&& 0xf0

/-- Its first operand. -/
def left : UInt64 := row.registers.toList.getD row.decoded.dst 0

/-- Its second operand, a register or the immediate. -/
def right : UInt64 :=
  if row.decoded.opcode &&& 0x08 ≠ 0 then row.registers.toList.getD row.decoded.src 0
  else UInt64.ofBitVec (row.decoded.imm.signExtend 64)

/-- The result in 32 bits. -/
def word : Option (BitVec 32) :=
  operate row.operation (row.left.toBitVec.setWidth 32) (row.right.toBitVec.setWidth 32)

/-- The operations whose results of 32 bits are extended with their sign. -/
def signs : Bool := row.operation ∈ [0x00, 0x10, 0x20]

/-- **What arithmetic computes.** -/
def value : Option (BitVec 64) :=
  if row.cls = 7 then operate row.operation row.left.toBitVec row.right.toBitVec
  else if row.operation = 0xd0 then
    byteSwap (row.decoded.opcode &&& 0x08 ≠ 0) row.decoded.imm row.left
  else row.word.map fun v => if row.signs then v.signExtend 64 else v.setWidth 64

/-- **The registers after an instruction** that touches nothing else. A jump stays in the
address space. -/
def after (value : Option (BitVec 64)) : Option (Vector UInt64 12) :=
  if row.decoded.dst < 11 ∧ row.decoded.src < 11 then do
    let fallthrough ← checkedAdd row.pc 1
    if row.cls = 5 then do
      let taken ← branches row.operation row.left row.right
      let target ← if taken then jumpTarget fallthrough row.decoded.offset else some fallthrough
      return row.registers.setIfInBounds 11 target
    else do
      let v ← value
      return (row.registers.setIfInBounds row.decoded.dst (.ofBitVec v)).setIfInBounds 11
        fallthrough
  else none

/-- **What is checked otherwise**: byte swaps, and results that are extended with their sign
and are negative. -/
def Overlooked : Prop :=
  row.cls = 4 ∧ (row.operation = 0xd0 ∨ row.signs = true ∧ ∃ v ∈ row.word, v.msb = true)

end VmRowV1

open VmRowV1

/-! ## Arithmetic and jumps -/

theorem toBitVec_low32 (x : UInt64) :
    (low32 x).toBitVec = (x.toBitVec.setWidth 32).setWidth 64 := by
  apply BitVec.eq_of_toNat_eq
  rw [BitVec.toNat_setWidth_of_le (by decide), BitVec.toNat_setWidth]
  exact Nat.and_two_pow_sub_one_eq_mod _ 32

theorem alu_64 (operation : UInt8) (left right : UInt64) :
    (alu operation false left right).toOption.map (·.toBitVec) =
      operate operation left.toBitVec right.toBitVec := by
  have hzero : right.toBitVec = 0 ↔ right = 0 := UInt64.toBitVec_inj (b := 0)
  have hmask : right.toNat &&& 63 = right.toNat % 64 := Nat.and_two_pow_sub_one_eq_mod _ 6
  simp only [alu, Bool.false_eq_true, if_false]
  split <;> try rfl
  · simp only [operate, hzero]
    split <;> rfl
  · simp [operate, hmask, Except.toOption]
  · simp [operate, hmask, Except.toOption]
  · simp only [operate, hzero]
    split <;> rfl
  · simp [operate, hmask, Except.toOption]
  · unfold operate
    split <;> first | contradiction | rfl

theorem toBitVec_low32_of_mod {x : UInt64} {v : BitVec 32} (h : x.toNat % 2 ^ 32 = v.toNat) :
    (low32 x).toBitVec = v.setWidth 64 := by
  rw [toBitVec_low32]
  congr 1
  exact BitVec.eq_of_toNat_eq (by simpa using h)

theorem toBitVec_low32_of_toNat {x : UInt64} {v : BitVec 32} (h : x.toNat = v.toNat) :
    (low32 x).toBitVec = v.setWidth 64 :=
  toBitVec_low32_of_mod (by rw [h, Nat.mod_eq_of_lt v.isLt])

theorem alu_32 (operation : UInt8) (left right : UInt64) :
    (alu operation true left right).toOption.map (·.toBitVec) =
      (operate operation (left.toBitVec.setWidth 32) (right.toBitVec.setWidth 32)).map
        (·.setWidth 64) := by
  have hnat (x : UInt64) : (low32 x).toNat = (x.toBitVec.setWidth 32).toNat := by
    show (low32 x).toBitVec.toNat = _
    rw [toBitVec_low32, BitVec.toNat_setWidth_of_le (by decide)]
  have hl := hnat left
  have hr := hnat right
  simp only [alu, if_true]
  generalize low32 left = l at hl ⊢
  generalize low32 right = r at hr ⊢
  generalize left.toBitVec.setWidth 32 = a at hl ⊢
  generalize right.toBitVec.setWidth 32 = b at hr ⊢
  have hzero : r = 0 ↔ b = 0 := by
    rw [← UInt64.toNat_inj, ← BitVec.toNat_inj, hr]
    rfl
  have hshift : (r &&& 31).toNat = b.toNat % 32 := by
    rw [UInt64.toNat_and, hr]
    exact Nat.and_two_pow_sub_one_eq_mod _ 5
  have hcount : b.toNat % 32 % 64 = b.toNat % 32 := by omega
  have ha := a.isLt
  have hb := b.isLt
  split
  -- modular arithmetic first loses what lies above the low word
  case h_1 | h_2 | h_3 | h_7 | h_9 =>
    refine congrArg some (toBitVec_low32_of_mod ?_)
    simp [UInt64.toNat_sub, UInt64.toNat_neg, UInt64.size, hl, hr, hshift, hcount]
    try omega
  case h_4 | h_10 =>
    simp only [operate, hzero]
    split
    · rfl
    · exact congrArg some (toBitVec_low32_of_toNat (by simp [hl, hr]))
  case h_5 | h_6 | h_8 | h_11 | h_12 =>
    exact congrArg some (toBitVec_low32_of_toNat (by simp [hl, hr, hshift, hcount]))
  case h_13 =>
    have hword : l.toBitVec.setWidth 32 = a := BitVec.eq_of_toNat_eq (by simpa [hl] using ha)
    refine congrArg some (toBitVec_low32_of_toNat ?_)
    rw [UInt64.toNat_ofNat_of_lt' (Nat.lt_trans (BitVec.isLt _) (by decide)),
      BitVec.truncate_eq_setWidth, hword, hshift]
  case h_14 =>
    unfold operate
    split <;> first | rfl | simp_all

theorem jump_eq (operation : UInt8) (left right : UInt64) :
    (jump operation false left right).toOption = branches operation left right := by
  simp only [jump, Bool.false_eq_true, if_false]
  split <;> try rfl
  unfold branches
  split <;> first | contradiction | rfl

/-! ## Rows -/

section Rows

variable {row next : VmRowV1} {lddwHigh : UInt32} {callTargets : List CallTargetV1}

theorem registers_eq_iff {r : Vector UInt64 12} {target : UInt64} :
    r.setIfInBounds 11 target = next.registers ↔
      next.pc = target ∧ ∀ i < 11, r[i]? = next.registers[i]? := by
  have hpc : next.pc = next.registers[11] := rfl
  rw [hpc]
  constructor
  · intro h
    refine ⟨by simp [← h], fun i hi => ?_⟩
    rw [← h, Vector.getElem?_setIfInBounds_ne (by omega)]
  · rintro ⟨rfl, hrest⟩
    ext i hi
    by_cases h : i = 11
    · subst h
      simp
    · have hi' := hrest i (by omega)
      rw [Vector.getElem?_eq_getElem hi, Vector.getElem?_eq_getElem hi, Option.some.injEq] at hi'
      rw [Vector.getElem_setIfInBounds_ne hi (Ne.symm h), hi']

theorem delta_iff {d : Nat} {v target : UInt64} (hd : d < 11) :
    validateRegisterDelta row next d v target = .ok () ↔
      (row.registers.setIfInBounds d v).setIfInBounds 11 target = next.registers := by
  simp only [validateRegisterDelta, validateRegisterPreservation, chain_ok, not_or,
    registers_eq_iff, not_exists, not_and, List.mem_range, List.mem_singleton, and_assoc]
  refine and_congr_right fun _ => ⟨fun h i hi => ?_, fun h => ⟨?_, fun i hi hne => ?_⟩⟩
  · obtain ⟨hv, hrest⟩ := h
    by_cases h : i = d
    · rw [h, hv, Vector.getElem?_setIfInBounds_self_of_lt (by omega)]
    · rw [Vector.getElem?_setIfInBounds_ne (Ne.symm h), hrest i hi h]
  · rw [← h d hd, Vector.getElem?_setIfInBounds_self_of_lt (by omega)]
  · rw [← h i hi, Vector.getElem?_setIfInBounds_ne (Ne.symm hne)]

theorem cls_of_registerOnly (h : registerOnly row.decoded.opcode) :
    row.cls = 5 ∧ row.operation ≠ 0x80 ∧ row.operation ≠ 0x90 ∨ row.cls = 4 ∨ row.cls = 7 := by
  simp only [registerOnly, Bool.and_eq_true] at h
  have h := h.1
  unfold cls operation
  split at h <;> simp_all [isJump]

/-- What the arithmetic of a row comes to. -/
def VmRowV1.computed (row : VmRowV1) : Option (BitVec 64) :=
  (alu row.operation (row.cls == 4) row.left row.right).toOption.map (·.toBitVec)

/-- **Which rows are accepted.** -/
theorem validateRow_iff (h : registerOnly row.decoded.opcode) :
    validateRow row next lddwHigh callTargets = .ok () ↔
      row.syscallKey = 0 ∧ row.after row.computed = some next.registers := by
  simp only [validateRow, ← decoded.eq_1, ← cls.eq_1, ← operation.eq_1,
    ← left.eq_1, ← right.eq_1, chain_ok, after, not_or, Nat.not_le]
  by_cases hreg : row.decoded.dst < 11 ∧ row.decoded.src < 11
  swap
  · simp [hreg]
  cases hpc : checkedAdd row.pc 1 with
  | none => simp
  | some fallthrough =>
    rcases cls_of_registerOnly h with ⟨hjump, hcall⟩ | halu
    · have hstay : validateRegisterPreservation row next [] = .ok () ↔
          ∀ i < 11, row.registers[i]? = next.registers[i]? := by
        simp [validateRegisterPreservation]
      simp [hreg, hjump, hcall, ← jump_eq, toOption_eq_some, registers_eq_iff, hstay,
        Option.bind_eq_some_iff, @eq_comm _ fallthrough]
    · have hne : row.cls ≠ 0 ∧ row.cls ≠ 5 := by
        rcases halu with h | h <;> rw [h] <;> decide
      simp [hreg, hne, halu, computed, toOption_eq_some, delta_iff hreg.1, Option.bind_eq_some_iff]

theorem value_of_after (hcls : row.cls ≠ 5) (h : row.after x = some r) :
    x = r[row.decoded.dst]?.map (·.toBitVec) := by
  simp only [after, hcls, Option.ite_none_right_eq_some, Option.bind_eq_bind,
    Option.bind_eq_some_iff, if_false, Option.pure_def, Option.some.injEq] at h
  obtain ⟨⟨hd, -⟩, f, -, v, rfl, rfl⟩ := h
  rw [Vector.getElem?_setIfInBounds_ne (by omega),
    Vector.getElem?_setIfInBounds_self_of_lt (by omega)]
  rfl

theorem setWidth_eq_signExtend_iff {v : BitVec 32} :
    v.setWidth 64 = v.signExtend 64 ↔ v.msb = false := by
  refine ⟨fun h => ?_, fun h => (BitVec.signExtend_eq_setWidth_of_msb_false h).symm⟩
  have hbit := congrArg (·.getLsbD 32) h
  simpa [BitVec.getElem_signExtend] using hbit.symm

/-- **What is checked** is what the machine computes, where it is not overlooked. -/
theorem computed_eq_iff (h : row.cls = 4 ∨ row.cls = 7) :
    (row.value = none → row.computed = none) ∧
      (row.value ≠ none → (row.computed = row.value ↔ ¬row.Overlooked)) := by
  unfold computed value Overlooked word
  rcases h with h | h
  · by_cases hswap : row.operation = 0xd0
    · simp [h, hswap, alu_32, operate]
      exact fun hvalue heq => hvalue heq.symm
    · cases hs : row.signs <;> cases hw : operate row.operation (row.left.toBitVec.setWidth 32)
        (row.right.toBitVec.setWidth 32) <;>
        simp [h, hswap, hw, alu_32, setWidth_eq_signExtend_iff]
  · simp [h, alu_64]

theorem after_computed (h : registerOnly row.decoded.opcode) :
    (row.after row.value = none → row.after row.computed = none) ∧
      ∀ r, row.after row.value = some r → (row.after row.computed = some r ↔ ¬row.Overlooked) := by
  rcases cls_of_registerOnly h with ⟨hcls, -⟩ | hcls
  · simp [after, Overlooked, hcls]
  · have hne : row.cls ≠ 5 := by rcases hcls with h | h <;> rw [h] <;> decide
    obtain ⟨hfail, hiff⟩ := computed_eq_iff hcls
    refine ⟨fun hnone => ?_, fun r hr => ?_⟩
    · cases hv : row.value with
      | none => simp [hfail hv, after, hne]
      | some v =>
        simp only [hv, after, hne] at hnone ⊢
        simp at hnone ⊢
        exact fun hd hs f hf => absurd hf (hnone hd hs f)
    · have hv : row.value ≠ none := by
        intro hv
        simp [hv, after, hne] at hr
      rw [← hiff hv]
      exact ⟨fun hx => (value_of_after hne hx).trans (value_of_after hne hr).symm, fun h => h ▸ hr⟩

/-- An opcode with no operands. -/
def bareRow (opcode : UInt8) (pc : UInt64) : VmRowV1 :=
  ⟨(Vector.replicate 12 0).set 11 pc, #v[opcode, 0, 0, 0, 0, 0, 0, 0], 0⟩

theorem admitted_accepted : ∀ n < 256, admitted (.ofNat n) →
    validateRow (bareRow (.ofNat n) 0) (bareRow (.ofNat n) 1) 0 [] = .ok () := by
  decide +kernel

theorem isOpcode_or_admitted : ∀ n < 256, let opcode := UInt8.ofNat n
    opcode ∈ [0x18, 0x85, 0x95] ∨ opcode &&& 0x07 ∈ [1, 2, 3] ∨
      opcode &&& 0x07 ∈ [4, 7] ∧ opcode &&& 0xf0 ≤ 0xc0 ∨
      opcode &&& 0x07 ∈ [5, 6] ∧ isJump (opcode &&& 0xf0) → isOpcode opcode ∨ admitted opcode := by
  decide +kernel

theorem alu_operation {operation : UInt8} {is32 : Bool} {left right v : UInt64}
    (h : alu operation is32 left right = .ok v) : operation ≤ 0xc0 := by
  simp only [alu] at h
  split at h <;> first | decide | cases h

theorem jump_operation {operation : UInt8} {is32 taken : Bool} {left right : UInt64}
    (h : jump operation is32 left right = .ok taken) : isJump operation := by
  simp only [jump] at h
  split at h <;> first | decide | cases h

theorem accepted_opcode (h : validateRow row next lddwHigh callTargets = .ok ()) :
    isOpcode row.decoded.opcode ∨ admitted row.decoded.opcode := by
  have hlisted := isOpcode_or_admitted row.decoded.opcode.toNat row.decoded.opcode.toNat_lt
  rw [UInt8.ofNat_toNat] at hlisted
  apply hlisted
  simp only [validateRow, ← decoded.eq_1, ← right.eq_1, chain_ok] at h
  obtain ⟨-, f, -, -, h⟩ := h
  split_ifs at h with h0 halu hcall _ hexit hjump hload hstore <;> simp only [chain_ok] at h
  · simp [h0.2]
  · obtain ⟨v, hv, -⟩ := h
    simp [halu, alu_operation hv]
  · simp [h.1]
  · simp [h.1]
  · have hop : row.decoded.opcode = 0x95 := by
      rw [decoded, not_not.mp (not_or.mp h.1).1]
      rfl
    simp [hop]
  · obtain ⟨taken, htaken, -⟩ := h
    simp [hjump, jump_operation htaken]
  · simp [hload]
  · rcases hstore with h | h <;> simp [h]

/-- **When rows are checked as the machine runs**: for arithmetic and jumps exactly where the
instruction is not overlooked, and for opcodes that the machine has not, where they are refused. -/
theorem rows_exact_iff (opcode : UInt8) :
    (registerOnly opcode → ∀ row lddwHigh callTargets, row.decoded.opcode = opcode →
      ((∀ next, validateRow row next lddwHigh callTargets = .ok () ↔
        row.after row.value = some next.registers) ↔
        (row.after row.value ≠ none → row.syscallKey = 0 ∧ ¬row.Overlooked))) ∧
    (isOpcode opcode = false →
      ((∀ row next lddwHigh callTargets, row.decoded.opcode = opcode →
        validateRow row next lddwHigh callTargets ≠ .ok ()) ↔ admitted opcode = false)) := by
  refine ⟨?_, fun hop => ⟨fun h => ?_, fun h row next l c hrow hok => ?_⟩⟩
  · rintro hop row l c rfl
    simp only [validateRow_iff hop]
    obtain ⟨hnone, hsome⟩ := after_computed hop
    refine ⟨fun h hrun => ?_, fun h next => ?_⟩
    · obtain ⟨r, hr⟩ := Option.ne_none_iff_exists'.mp hrun
      obtain ⟨hkey, hx⟩ := (h ⟨r, row.instruction, 0⟩).2 hr
      exact ⟨hkey, (hsome r hr).1 hx⟩
    · cases hrun : row.after row.value with
      | none => simp [hnone hrun]
      | some r =>
        obtain ⟨hkey, hseen⟩ := h (by simp [hrun])
        rw [(hsome r hrun).2 hseen, and_iff_right hkey]
  · rw [Bool.eq_false_iff]
    intro hadmitted
    obtain ⟨n, hn, rfl⟩ : ∃ n < 256, opcode = .ofNat n := ⟨opcode.toNat, opcode.toNat_lt, by simp⟩
    exact h _ _ _ _ rfl (admitted_accepted n hn hadmitted)
  · subst hrow
    simpa [hop, h] using accepted_opcode hok

/-- The sum of `0x7fffffff` and one is not extended, and a comparison of 32 bits passes. -/
theorem add32_row_refused :
    let registers (r0 pc : UInt64) : Vector UInt64 12 := #v[r0, 0, 0, 0, 0, 0, 0, 0, 0, 0, 0, pc]
    let row (r0 pc : UInt64) : VmRowV1 := ⟨registers r0 pc, #v[0x04, 0, 0, 0, 1, 0, 0, 0], 0⟩
    let first := row 0x7fffffff 0
    first.after first.value = some (registers 0xffffffff80000000 1) ∧
      validateRow first (row 0xffffffff80000000 1) 0 [] = .error .register ∧
      validateRow first (row 0x80000000 1) 0 [] = .ok () ∧
      isOpcode 0x16 = false ∧ validateRow (bareRow 0x16 0) (bareRow 0x16 1) 0 [] = .ok () := by
  decide +kernel

end Rows

end Northstar.Proof
