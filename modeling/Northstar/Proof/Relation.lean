import Northstar.Proof.Binding
import Northstar.ZkTypes

/-!
# The relation of a step proof

A proof of the full-transaction kind shows that there is a witness which `replay` accepts
with the public inputs of the proof. The relation reads the transaction off its wire format,
checks its signature, the fee and the accounts it left behind, walks the rows of its
execution, and binds everything to the checkpoint.

Signature check and field hash are parameters.
-/

namespace Northstar.Proof

open Bytes Checked Northstar.Portal

/-- **Cryptography** that the prover is linked with. -/
structure Crypto where
  sha256 : Digest
  /-- The Poseidon hash of up to twelve field elements. -/
  poseidon : List FrBytes → Option FrBytes
  /-- Strict Ed25519 verification of a message. -/
  verifyStrict : Pubkey → List UInt8 → Vector UInt8 64 → Bool

/-! ## Commitments to byte strings -/

/-- The tag of session contexts. -/
def sessionContextTag : UInt64 := 0x100
/-- The tag of byte strings. -/
def byteStringTag : UInt64 := 0x10a

/-- At most 31 bytes as a field element. -/
def frOfChunk (chunk : List UInt8) : FrBytes :=
  ⟨leftPad32 (chunk.take 31), by
    apply FrBytes.canonical_of_zero_head
    have hlength : (chunk.take 31).length ≤ 31 := List.length_take_le 31 chunk
    obtain ⟨n, hn⟩ : ∃ n, 32 - (chunk.take 31).length = n + 1 :=
      ⟨31 - (chunk.take 31).length, by omega⟩
    rw [leftPad32, toList_ofList32, hn]
    rfl⟩

/-- Absorb the values eleven at a time. -/
def fold (crypto : Crypto) (tag : UInt64) (values : List FrBytes) : Option FrBytes :=
  (chunksOf 11 values).foldlM (fun accumulator chunk => crypto.poseidon (accumulator :: chunk))
    (FrBytes.fromU64 tag)

/-- The commitment to a byte string. -/
def commitBytes (crypto : Crypto) (tag : UInt64) (value : List UInt8) : Option FrBytes :=
  fold crypto tag (FrBytes.fromU64 byteStringTag :: FrBytes.fromU64 (UInt64.ofNat value.length) ::
    (chunksOf 31 value).map frOfChunk)

/-! ## The wire format -/

/-- A length in one to three bytes of seven bits, in the shortest way. -/
def readShortVec : List UInt8 → Option (Nat × List UInt8)
  | [] => none
  | b₀ :: rest =>
    if b₀ < 0x80 then some (b₀.toNat, rest)
    else
      match rest with
      | [] => none
      | b₁ :: rest =>
        if b₁ = 0 then none
        else if b₁ < 0x80 then some (b₀.toNat % 128 + 128 * b₁.toNat, rest)
        else
          match rest with
          | [] => none
          | b₂ :: rest =>
            let value := b₀.toNat % 128 + 128 * (b₁.toNat % 128) + 16384 * b₂.toNat
            if b₂ = 0 ∨ 0x80 ≤ b₂ ∨ 65536 ≤ value then none else some (value, rest)

/-- The first `n` bytes, and the rest. -/
def takeBytes (n : Nat) (bytes : List UInt8) : Option (List UInt8 × List UInt8) :=
  if n ≤ bytes.length then some (bytes.take n, bytes.drop n) else none

/-- The same, with the length in the type. -/
def takeArray (n : Nat) (bytes : List UInt8) : Option (Vector UInt8 n × List UInt8) :=
  if h : n ≤ bytes.length then
    some (⟨(bytes.take n).toArray, by simpa using h⟩, bytes.drop n)
  else none

/-- What a transaction says. -/
structure ParsedLegacyTransaction where
  signature : Vector UInt8 64
  message : List UInt8
  signer : Pubkey
  target : Pubkey
  program : Pubkey
  recentBlockhash : Hash32
  instructionData : List UInt8

/-- **The wire format**: one signature, three keys of which the first signs, and one
instruction that gives the second key to the third. -/
def parseLegacyTransaction (bytes : List UInt8) : Option ParsedLegacyTransaction := do
  let (signatures, rest) ← readShortVec bytes
  guard (signatures = 1)
  let (signature, message) ← takeArray 64 rest
  let (header, rest) ← takeBytes 3 message
  guard (header = [1, 0, 1])
  let (keyCount, rest) ← readShortVec rest
  guard (keyCount = 3)
  let (signer, rest) ← takeArray 32 rest
  let (target, rest) ← takeArray 32 rest
  let (program, rest) ← takeArray 32 rest
  let (recentBlockhash, rest) ← takeArray 32 rest
  let (instructions, rest) ← readShortVec rest
  guard (instructions = 1)
  let (programIndex, rest) ← takeBytes 1 rest
  let (accountCount, rest) ← readShortVec rest
  let (instructionAccounts, rest) ← takeBytes accountCount rest
  let (dataLength, rest) ← readShortVec rest
  let (instructionData, rest) ← takeBytes dataLength rest
  guard (programIndex = [2] ∧ instructionAccounts = [1] ∧ rest = [])
  some { signature, message, signer, target, program, recentBlockhash, instructionData }

/-! ## Header, transaction and accounts -/

/-- The bytes `NSTXPF01`. -/
def witnessMagicV1 : Vector UInt8 8 := #v[78, 83, 84, 88, 80, 70, 48, 49]

/-- The versions are those of the relation. -/
def validateHeader (w : ReplayWitnessV1) : Except ReplayError Unit := do
  rejectIf (w.magic ≠ witnessMagicV1) .magic
  rejectIf (w.version ≠ 2 ∨ w.proofKind ≠ erStepProofKindFullTransaction ∨
    w.proofVersion ≠ erStepProofVersionV1 ∨ w.traceSchemaVersion ≠ 1) .version
  rejectIf (w.runtime.sbpfVersion ≠ 0) .version

/-- The bytes of the transaction say what the witness says. -/
def validateTransaction (crypto : Crypto) (w : ReplayWitnessV1) : Except ReplayError Unit := do
  let parsed ← okOr (parseLegacyTransaction w.transactionBytes) .wire
  rejectIf (parsed.message ≠ w.messageBytes ∨ parsed.signature ≠ w.signature ∨
    parsed.signer ≠ w.signer ∨ parsed.recentBlockhash ≠ w.recentBlockhash ∨
    parsed.instructionData ≠ w.instructionData) .wire
  let target ← okOr w.preAccounts[1]? .accounts
  rejectIf (parsed.target ≠ target.key ∨ parsed.program ≠ w.runtime.programId) .wire
  rejectIf (crypto.verifyStrict w.signer w.messageBytes w.signature = false) .signature
  rejectIf (w.recentBlockhash ∉ w.runtime.recentBlockhashes) .blockhash

/-- The four accounts of a transaction with one payer and one target, before and after. -/
def accountPairs (w : ReplayWitnessV1) :
    Option ((AccountWitnessV1 × AccountWitnessV1) × (AccountWitnessV1 × AccountWitnessV1)) :=
  match w.preAccounts, w.postAccounts with
  | [preFee, preTarget], [postFee, postTarget] => some ((preFee, preTarget), (postFee, postTarget))
  | _, _ => none

/-- **The accounts and the result**: the payer pays the fee, and the first byte of the target's
data becomes 100. -/
def validateAccountsAndResult (w : ReplayWitnessV1) : Except ReplayError Unit := do
  let ((preFee, preTarget), (postFee, postTarget)) ← okOr (accountPairs w) .accounts
  rejectIf (w.rollbackAccounts ≠ [] ∨ ¬(w.instructionData = [1] ∨
    w.instructionData.length = 5 ∧ w.instructionData.head? = some 1)) .accounts
  rejectIf (preFee.signer = false ∨ preFee.writable = false ∨ preTarget.signer = true ∨
    preTarget.writable = false ∨ preTarget.owner ≠ w.runtime.programId ∨ preTarget.data = [] ∨
    preFee.key ≠ postFee.key ∨ preTarget.key ≠ postTarget.key ∨ preFee.owner ≠ postFee.owner ∨
    preTarget.owner ≠ postTarget.owner ∨ preFee.data ≠ postFee.data ∨
    preTarget.lamports ≠ postTarget.lamports) .accounts
  rejectIf (checkedSub preFee.lamports w.runtime.lamportsPerSignature ≠ some postFee.lamports ∨
    w.result.transactionFee ≠ w.runtime.lamportsPerSignature ∨ w.result.prioritizationFee ≠ 0) .fee
  rejectIf (postTarget.data ≠ 100 :: preTarget.data.tail) .accounts
  rejectIf (w.result.executedSuccess = false ∨ w.result.transactionError ≠ 0 ∨
    w.result.instructionError ≠ 0 ∨ w.result.customError ≠ 0) .outcome

/-! ## Rows of the execution -/

/-- The instruction that returns. -/
def exitInstruction : Vector UInt8 8 := #v[0x95, 0, 0, 0, 0, 0, 0, 0]

/-- The key of the one system call. -/
def solMemcpyKey : UInt32 := 0x717cc4a3

namespace VmRowV1

/-- The program counter. -/
def pc (row : VmRowV1) : UInt64 := row.registers.get 11

/-- The registers that a call saves. -/
def saved (row : VmRowV1) : List UInt64 := (row.registers.toList.drop 6).take 5

end VmRowV1

/-- A decoded instruction. Offset and immediate are signed. -/
structure DecodedInstruction where
  opcode : UInt8
  dst : Nat
  src : Nat
  offset : BitVec 16
  imm : BitVec 32

/-- An instruction from its bytes. -/
def decodeInstruction (bytes : Vector UInt8 8) : DecodedInstruction :=
  { opcode := bytes.get 0
    dst := (bytes.get 1).toNat % 16
    src := (bytes.get 1).toNat / 16
    offset := BitVec.ofNat 16 (Reader.value [bytes.get 2, bytes.get 3])
    imm := BitVec.ofNat 32 (Reader.value [bytes.get 4, bytes.get 5, bytes.get 6, bytes.get 7]) }

/-- The low half of a word. -/
def low32 (x : UInt64) : UInt64 := x &&& 0xffffffff

/-- The result of an arithmetic operation. -/
def alu (operation : UInt8) (is32 : Bool) (left right : UInt64) : Except ReplayError UInt64 := do
  let (left, right) := if is32 then (low32 left, low32 right) else (left, right)
  let shift := right &&& (if is32 then 31 else 63)
  let value ← match operation with
    | 0x00 => Except.ok (left + right)
    | 0x10 => .ok (left - right)
    | 0x20 => .ok (left * right)
    | 0x30 => if right = 0 then .error .opcode else .ok (left / right)
    | 0x40 => .ok (left ||| right)
    | 0x50 => .ok (left &&& right)
    | 0x60 => .ok (left <<< shift)
    | 0x70 => .ok (left >>> shift)
    | 0x80 => .ok (-left)
    | 0x90 => if right = 0 then .error .opcode else .ok (left % right)
    | 0xa0 => .ok (left ^^^ right)
    | 0xb0 => .ok right
    | 0xc0 =>
      if is32 then
        .ok (UInt64.ofNat (((left.toBitVec.truncate 32).sshiftRight shift.toNat).toNat))
      else .ok (UInt64.ofBitVec (left.toBitVec.sshiftRight shift.toNat))
    | _ => .error .opcode
  return if is32 then low32 value else value

/-- Whether a jump is taken. -/
def jump (operation : UInt8) (is32 : Bool) (left right : UInt64) : Except ReplayError Bool :=
  let (left, right) := if is32 then (low32 left, low32 right) else (left, right)
  let signed (x : UInt64) : Int :=
    if is32 then (x.toBitVec.truncate 32).toInt else x.toBitVec.toInt
  match operation with
  | 0x00 => .ok true
  | 0x10 => .ok (left == right)
  | 0x20 => .ok (decide (right < left))
  | 0x30 => .ok (decide (right ≤ left))
  | 0x40 => .ok (left &&& right != 0)
  | 0x50 => .ok (left != right)
  | 0x60 => .ok (decide (signed right < signed left))
  | 0x70 => .ok (decide (signed right ≤ signed left))
  | 0xa0 => .ok (decide (left < right))
  | 0xb0 => .ok (decide (left ≤ right))
  | 0xc0 => .ok (decide (signed left < signed right))
  | 0xd0 => .ok (decide (signed left ≤ signed right))
  | _ => .error .opcode

/-- The registers other than the program counter and the exceptions stay. -/
def validateRegisterPreservation (row next : VmRowV1) (exceptions : List Nat) :
    Except ReplayError Unit :=
  rejectIf (∃ index ∈ List.range 11, index ∉ exceptions ∧
    row.registers[index]? ≠ next.registers[index]?) .register

/-- One register gets a value, the others stay. -/
def validateRegisterDelta (row next : VmRowV1) (destination : Nat) (value nextPc : UInt64) :
    Except ReplayError Unit := do
  rejectIf (next.pc ≠ nextPc ∨ next.registers[destination]? ≠ some value) .register
  validateRegisterPreservation row next [destination]

/-- The target of a jump that is taken. -/
def jumpTarget (fallthrough : UInt64) (offset : BitVec 16) : Option UInt64 :=
  let target := fallthrough.toBitVec.toInt + offset.toInt
  if 0 ≤ target ∧ target < 2 ^ 63 then some (UInt64.ofNat target.toNat) else none

/-- **One row and the next**: the registers change as the instruction says. What loads and
system calls put into registers is not checked. -/
def validateRow (row next : VmRowV1) (lddwHigh : UInt32) (callTargets : List CallTargetV1) :
    Except ReplayError Unit := do
  let instruction := decodeInstruction row.instruction
  rejectIf (11 ≤ instruction.dst ∨ 11 ≤ instruction.src) .opcode
  let cls := instruction.opcode &&& 0x07
  let operation := instruction.opcode &&& 0xf0
  let fallthrough ← okOr (checkedAdd row.pc 1) .register
  rejectIf (row.syscallKey ≠ 0 ∧ (cls ≠ 5 ∨ operation ≠ 0x80)) .opcode
  let left := row.registers.toList.getD instruction.dst 0
  let right := if instruction.opcode &&& 0x08 ≠ 0 then row.registers.toList.getD instruction.src 0
    else UInt64.ofBitVec (instruction.imm.signExtend 64)
  if cls = 0 ∧ instruction.opcode = 0x18 then do
    let nextPc ← okOr (checkedAdd row.pc 2) .register
    let value := UInt64.ofNat instruction.imm.toNat ||| (lddwHigh.toUInt64 <<< 32)
    validateRegisterDelta row next instruction.dst value nextPc
  else if cls = 4 ∨ cls = 7 then do
    let value ← alu operation (cls == 4) left right
    validateRegisterDelta row next instruction.dst value fallthrough
  else if cls = 5 ∧ operation = 0x80 then do
    rejectIf (instruction.opcode ≠ 0x85) .opcode
    if row.syscallKey = solMemcpyKey then do
      rejectIf (next.pc ≠ fallthrough ∨ next.registers.get 0 ≠ 0) .register
      validateRegisterPreservation row next [0]
    else do
      let target ← okOr (callTargets.find? fun t => t.functionHash.toNat = instruction.imm.toNat)
        .register
      rejectIf (row.syscallKey ≠ 0 ∨ next.pc ≠ target.targetPc) .register
      validateRegisterPreservation row next [10]
  else if cls = 5 ∧ operation = 0x90 then do
    rejectIf (row.instruction ≠ exitInstruction ∨ row.syscallKey ≠ 0 ∨ next.pc = row.pc) .register
    validateRegisterPreservation row next [6, 7, 8, 9, 10]
  else if cls = 5 ∨ cls = 6 then do
    let taken ← jump operation (cls == 6) left right
    let target ← okOr (if taken then jumpTarget fallthrough instruction.offset
      else some fallthrough) .register
    rejectIf (next.pc ≠ target) .register
    validateRegisterPreservation row next []
  else if cls = 1 then do
    rejectIf (next.pc ≠ fallthrough) .register
    validateRegisterPreservation row next [instruction.dst]
  else if cls = 2 ∨ cls = 3 then do
    rejectIf (next.pc ≠ fallthrough) .register
    validateRegisterPreservation row next []
  else .error .opcode

/-- Check a row against its word and the next row. -/
def validateStep (words : List ProgramWordV1) (callTargets : List CallTargetV1) (row : VmRowV1)
    (next : Option VmRowV1) : Except ReplayError Unit := do
  let word ← okOr (words.find? (·.pc = row.pc)) .program
  rejectIf (word.instruction ≠ row.instruction) .program
  match next with
  | some next => validateRow row next word.lddwHigh callTargets
  | none => .ok ()

/-- The calls that were made, and the return addresses that are open. -/
structure CallState where
  used : List UInt32
  stack : List (UInt64 × List UInt64)

/-- What a row does to the open calls. -/
def trackCalls (row : VmRowV1) (next : Option VmRowV1) (state : CallState) :
    Except ReplayError CallState :=
  if row.instruction.get 0 = 0x85 ∧ row.syscallKey = 0 then do
    let functionHash := UInt32.ofNat (decodeInstruction row.instruction).imm.toNat
    let returnPc ← okOr (checkedAdd row.pc 1) .register
    return ⟨functionHash :: state.used, (returnPc, row.saved) :: state.stack⟩
  else if row.instruction = exitInstruction then
    match next, state.stack with
    | some _, [] => .error .register
    | some next, (returnPc, saved) :: stack => do
      rejectIf (next.pc ≠ returnPc ∨ next.saved ≠ saved) .register
      return { state with stack }
    | none, stack => do
      rejectIf (stack ≠ []) .register
      return state
  else return state

/-- Walk the rows in order. -/
def walkRows (words : List ProgramWordV1) (callTargets : List CallTargetV1) :
    List VmRowV1 → CallState → Except ReplayError CallState
  | [], state => .ok state
  | row :: rows, state => do
    validateStep words callTargets row rows.head?
    let state ← trackCalls row rows.head? state
    walkRows words callTargets rows state

/-- A memory with its length in front. -/
def memoryBytes (memory : List UInt8) : List UInt8 := le 8 memory.length ++ memory

/-- What the hash of a trace is taken of. -/
def traceString (crypto : Crypto) (w : ReplayWitnessV1) : List UInt8 :=
  w.eventTags ++ (crypto.sha256 w.runtime.programElf).toList ++ w.runtime.programHash.toList ++
    le64 w.runtime.entryPc ++
    w.programWords.flatMap (fun word => le64 word.pc ++ word.instruction.toList ++
      le32 word.lddwHigh) ++
    w.callTargets.flatMap (fun target => le32 target.functionHash ++ le64 target.targetPc) ++
    w.vmRows.flatMap (fun row => row.registers.toList.flatMap le64 ++ row.instruction.toList ++
      le32 row.syscallKey) ++
    [w.programInputBefore, w.programInputAfter, w.stackAfter, w.heapAfter].flatMap memoryBytes ++
    le64 w.computeUnitsBefore ++ le64 w.computeUnitsAfter

/-- The hash of a trace. -/
def traceHash (crypto : Crypto) (w : ReplayWitnessV1) : Hash32 :=
  crypto.sha256 (traceString crypto w)

/-- **The execution**: its rows run from the entry to an exit, call only what is listed, and
make exactly one system call. -/
def validateTrace (crypto : Crypto) (w : ReplayWitnessV1) : Except ReplayError Unit := do
  let first ← okOr w.vmRows.head? .trace
  let last ← okOr w.vmRows.getLast? .trace
  rejectIf (w.programWords = [] ∨ w.eventTags.getLast? ≠ some 6 ∨
    w.computeUnitsBefore ≤ w.computeUnitsAfter ∨ w.result.executedUnits = 0 ∨
    w.traceHash ≠ traceHash crypto w ∨ first.pc ≠ w.runtime.entryPc ∨
    last.instruction ≠ exitInstruction ∨ last.syscallKey ≠ 0) .trace
  rejectIf (w.runtime.programElf = [] ∨ w.runtime.programHash = zero32) .program
  rejectIf (¬(w.programWords.map (·.pc)).Nodup) .program
  rejectIf (¬(w.callTargets.IsChain fun a b => a.functionHash < b.functionHash) ∨
    ∃ target ∈ w.callTargets, target.targetPc ∉ w.programWords.map (·.pc)) .trace
  rejectIf ((w.vmRows.filter (·.syscallKey ≠ 0)).length ≠ 1 ∨
    ∃ row ∈ w.vmRows, row.syscallKey ≠ 0 ∧ row.syscallKey ≠ solMemcpyKey) .trace
  let state ← walkRows w.programWords w.callTargets w.vmRows ⟨[], []⟩
  rejectIf (state.stack ≠ [] ∨ state.used.dedup.length ≠ w.callTargets.length) .trace

/-! ## Public inputs -/

/-- **The public inputs** of a witness. -/
def derivePublicInputs (crypto : Crypto) (w : ReplayWitnessV1) :
    Except ReplayError ErStepPublicInputsV1 := do
  let checkpoint ← verifyCheckpointBinding crypto.sha256 w
  let sessionContext ← okOr (commitBytes crypto sessionContextTag w.sessionContext) .commitment
  let preStateRoot ← okOr (FrBytes.new checkpoint.preStateRoot) .commitment
  let postStateRoot ← okOr (FrBytes.new checkpoint.postStateRoot) .commitment
  let txEffectRoot ← okOr (FrBytes.new checkpoint.transactionEffectCommitment) .commitment
  let readonlyL1Root ← okOr (FrBytes.new checkpoint.readonlyL1Root) .commitment
  let settlementEffectRoot ← okOr (FrBytes.new checkpoint.settlementEffectRoot) .commitment
  return {
    domain := FrBytes.erStepDomainV1 erStepProofKindFullTransaction erStepProofVersionV1
    sessionContext
    slotStep := FrBytes.fromU64Pair w.erSlot w.stepIndex
    preStateRoot
    postStateRoot
    txEffectRoot
    readonlyL1Root
    settlementEffectRoot }

/-- No commitment is missing. -/
def hasCommitments (p : ErStepPublicInputsV1) : Bool :=
  [p.sessionContext, p.preStateRoot, p.postStateRoot, p.txEffectRoot, p.readonlyL1Root,
    p.settlementEffectRoot].all (· ≠ FrBytes.zero)

/-- **The relation.** -/
def replay (crypto : Crypto) (w : ReplayWitnessV1) : Except ReplayError ErStepPublicInputsV1 := do
  validateHeader w
  validateTransaction crypto w
  validateAccountsAndResult w
  validateTrace crypto w
  let inputs ← derivePublicInputs crypto w
  rejectIf (hasCommitments inputs = false) .domain
  return inputs

end Northstar.Proof
