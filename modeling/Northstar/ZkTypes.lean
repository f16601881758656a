import Northstar.Lib.Bytes

/-!
# Public inputs of step proofs

The eight field elements a step proof is checked against, in the order and the encoding
that guest and chain share. A field element is a 32-byte big-endian string below the
BN254 scalar modulus, and carries the proof that it is.
-/

namespace Northstar

open Bytes

/-- The BN254 scalar-field modulus, big-endian. -/
def bn254FrModulusBe : List UInt8 :=
  [0x30, 0x64, 0x4e, 0x72, 0xe1, 0x31, 0xa0, 0x29, 0xb8, 0x50, 0x45, 0xb6, 0x81, 0x81, 0x58,
    0x5d, 0x28, 0x33, 0xe8, 0x48, 0x79, 0xb9, 0x70, 0x91, 0x43, 0xe1, 0xf5, 0x93, 0xf0, 0x00,
    0x00, 0x01]

/-- **Canonical field elements**: 32 big-endian bytes below the modulus. -/
structure FrBytes where
  bytes : Bytes32
  canonical : bytes.toList < bn254FrModulusBe
  deriving DecidableEq

namespace FrBytes

/-- The field element with the given bytes, if they are below the modulus. -/
def new (bytes : Bytes32) : Option FrBytes :=
  if h : bytes.toList < bn254FrModulusBe then some ⟨bytes, h⟩ else none

theorem new_eq_some : new b = some x ↔ b = x.bytes := by
  unfold new
  constructor
  · intro h
    split at h
    · exact congrArg FrBytes.bytes (Option.some.inj h)
    · cases h
  · rintro rfl
    rw [dif_pos x.canonical]

/-- A string whose first byte is zero is below the modulus. -/
theorem canonical_of_zero_head (h : l.head? = some 0) : l < bn254FrModulusBe := by
  cases l with
  | nil => cases h
  | cons b l =>
    obtain rfl : b = 0 := Option.some.inj h
    exact List.Lex.rel (by decide)

def zero : FrBytes := ⟨zero32, canonical_of_zero_head rfl⟩

/-- `(high, low)` packed into one 128-bit value. -/
def fromU64Pair (high low : UInt64) : FrBytes :=
  ⟨ofList32 (List.replicate 16 0 ++ be 8 high.toNat ++ be 8 low.toNat) (by simp),
    canonical_of_zero_head rfl⟩

def fromU64 (value : UInt64) : FrBytes :=
  ⟨ofList32 (List.replicate 24 0 ++ be 8 value.toNat) (by simp), canonical_of_zero_head rfl⟩

/-- The protocol and the proof selector packed into one value. -/
def erStepDomainV1 (proofKind proofVersion : UInt8) : FrBytes :=
  ⟨ofList32 (List.replicate 8 0 ++ ascii "northstar-er-step-v1" ++ [0, 0, proofKind, proofVersion])
      (by simp [ascii]),
    canonical_of_zero_head rfl⟩

end FrBytes

def erStepProofKindFullTransaction : UInt8 := 2
def erStepProofKindBoundedVrf : UInt8 := 3
def erStepProofVersionV1 : UInt8 := 1

/-- **The public inputs** of a step proof. -/
structure ErStepPublicInputsV1 where
  domain : FrBytes
  sessionContext : FrBytes
  slotStep : FrBytes
  preStateRoot : FrBytes
  postStateRoot : FrBytes
  txEffectRoot : FrBytes
  readonlyL1Root : FrBytes
  settlementEffectRoot : FrBytes
  deriving DecidableEq

namespace ErStepPublicInputsV1

/-- The inputs in their canonical order. -/
def toArray (p : ErStepPublicInputsV1) : List Bytes32 :=
  [p.domain.bytes, p.sessionContext.bytes, p.slotStep.bytes, p.preStateRoot.bytes,
    p.postStateRoot.bytes, p.txEffectRoot.bytes, p.readonlyL1Root.bytes,
    p.settlementEffectRoot.bytes]

/-- The 256 bytes that are hashed into the proof. -/
def toBytes (p : ErStepPublicInputsV1) : List UInt8 := (p.toArray.map Vector.toList).flatten

end ErStepPublicInputsV1

end Northstar
