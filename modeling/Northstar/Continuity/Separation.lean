import Northstar.Continuity.Committed
import Northstar.Game.Localnet
import Northstar.ZkTypes

/-!
# Domains of the commitments

Session identities, ingress records, state openings, the maps of a state and input contexts are
committed to by one hash of a label and an encoding, each with its length in front. The hashed
string determines which of the five kinds was committed to and the value. The commitment is the
hash with its top three bits cleared, so it is as free of collisions as what is left of the
hash.

## Main definitions

* `ContinuityValue`: what is committed to, of any kind
* `ContinuityValue.message`: the string that is hashed

## Main results

* `continuity_commitments_separated`: messages determine values, commitments are canonical
  field elements, and equal ones are of equal values where the cleared hash does not collide
-/

namespace Northstar.Runtime

open Bytes Checked Portal

/-- **What is committed to.** An ingress record is, without its root and its bump. The maps of a
state are, by the hash of their encoding. -/
inductive ContinuityValue
  | session (identity : SessionIdentityV2)
  | ingress (version : UInt8) (sessionContext : Hash32) (sequence l1Slot : UInt64)
      (previousRoot : Hash32) (payload : IngressPayloadV2)
  | state (opening : StateRootOpeningV2)
  | origins (metadata : Hash32)
  | inputContext (context : InputContextV2)

namespace ContinuityValue

def label : ContinuityValue → List UInt8
  | session _ => ascii "session"
  | ingress .. => ascii "ingress"
  | state _ => ascii "state"
  | origins _ => ascii "origins"
  | inputContext _ => ascii "input-context"

def encoded : ContinuityValue → List UInt8
  | session identity => identity.bytes
  | ingress version sessionContext sequence l1Slot previousRoot payload =>
    [version] ++ sessionContext.toList ++ le64 sequence ++ le64 l1Slot ++ previousRoot.toList ++
      payload.bytes
  | state opening => opening.bytes
  | origins metadata => metadata.toList
  | inputContext c => c.sessionContext.toList ++ c.readonlyL1Root.toList ++ le64 c.ingressStart ++
      c.ingressStartRoot.toList ++ le64 c.ingressEnd ++ c.ingressEndRoot.toList

/-- **The string that is hashed.** -/
def message (v : ContinuityValue) : List UInt8 :=
  [ascii "northstar-continuity-v2", le 2 v.label.length, v.label, le 2 v.encoded.length,
    v.encoded].flatten

/-- The commitment that is returned for a value, if any. -/
def commitment (env : Env) : ContinuityValue → Option Hash32
  | session identity => (identity.commitment env).toOption
  | ingress version sessionContext sequence l1Slot previousRoot payload =>
    some (IngressRecordV2.computedRoot env
      ⟨version, sessionContext, sequence, l1Slot, previousRoot, payload, zero32, 0⟩)
  | state opening => (opening.commitment env).toOption
  | origins metadata => some (Portal.commitment env (ascii "origins") metadata.toList)
  | inputContext context => (context.commitment env).toOption

variable {v w : ContinuityValue} {env : Env} {root : Hash32}

theorem project_message (h : v.commitment env = some root) :
    project (env.sha256 v.message) = root := by
  cases v with
  | session identity =>
    simp only [commitment, toOption_eq_some, SessionIdentityV2.commitment, chain_ok] at h
    exact h.2.2
  | ingress version sessionContext sequence l1Slot previousRoot payload => exact Option.some.inj h
  | state opening =>
    simp only [commitment, toOption_eq_some, StateRootOpeningV2.commitment, chain_ok] at h
    exact h.2
  | origins metadata => exact Option.some.inj h
  | inputContext context =>
    simp only [commitment, toOption_eq_some, InputContextV2.commitment, chain_ok] at h
    exact h.2

/-! ## Reading a message -/

theorem toUInt8_inj {a b : Bool} : a.toUInt8 = b.toUInt8 ↔ a = b := by
  cases a <;> cases b <;> decide

theorem payload_bytes_inj {p q : IngressPayloadV2} : p.bytes = q.bytes ↔ p = q := by
  refine ⟨fun h => ?_, fun h => h ▸ rfl⟩
  cases p <;> cases q <;> simp [IngressPayloadV2.bytes, toList_append_inj, le64_append_inj,
    le32_append_inj, toUInt8_inj] at h ⊢ <;> exact h

theorem encoded_inj (hlabel : v.label = w.label) (h : v.encoded = w.encoded) : v = w := by
  cases v <;> cases w <;> simp [label, ascii] at hlabel
  case session.session a b =>
    obtain ⟨⟩ := a
    obtain ⟨⟩ := b
    simpa [encoded, SessionIdentityV2.bytes, toList_append_inj, le64_append_inj,
      le128_append_inj] using h
  case ingress.ingress =>
    simpa [encoded, toList_append_inj, le64_append_inj, payload_bytes_inj] using h
  case state.state a b =>
    obtain ⟨⟩ := a
    obtain ⟨⟩ := b
    simpa [encoded, StateRootOpeningV2.bytes, toList_append_inj, le64_append_inj] using h
  case origins.origins => exact congrArg origins (Vector.toList_inj.mp h)
  case inputContext.inputContext a b =>
    obtain ⟨⟩ := a
    obtain ⟨⟩ := b
    simpa [encoded, toList_append_inj, le64_append_inj] using h

/-- **A message is of one value.** The lengths in front say where label and encoding end. -/
theorem message_injective : Function.Injective message := by
  intro v w h
  have hlabels : ∀ v : ContinuityValue, v.label.length < 256 ^ 2 := by
    intro v
    cases v <;> simp [label, ascii]
  simp only [message, List.flatten_cons, List.flatten_nil, List.append_nil,
    List.append_cancel_left_eq] at h
  rw [append_inj_iff (by simp), le_inj (hlabels v) (hlabels w)] at h
  obtain ⟨hlength, h⟩ := h
  rw [append_inj_iff hlength, append_inj_iff (by simp)] at h
  exact encoded_inj h.1 h.2.2

theorem canonical_project (h : Hash32) : (project h).toList < bn254FrModulusBe := by
  obtain ⟨b, l, hl⟩ : ∃ b l, h.toList = b :: l :=
    List.exists_cons_of_length_pos (by simp [Vector.length_toList])
  have hlow : (h.get 0 &&& 0x1f).toNat ≤ 31 := by
    rw [UInt8.toNat_and]
    exact Nat.and_le_right
  rw [project, Vector.toList_set, hl, List.set_cons_zero]
  refine List.Lex.rel (UInt8.lt_iff_toNat_lt.mpr ?_)
  exact Nat.lt_of_le_of_lt hlow (by decide)

end ContinuityValue

/-- **Commitments keep their domains apart.** -/
theorem continuity_commitments_separated (env : Env) :
    Function.Injective ContinuityValue.message ∧
      (∀ v root, ContinuityValue.commitment env v = some root →
        root = project (env.sha256 v.message) ∧ root.toList < bn254FrModulusBe) ∧
      ∀ M : Set (List UInt8), M.InjOn (fun m => project (env.sha256 m)) →
        ∀ v w root, v.message ∈ M → w.message ∈ M → ContinuityValue.commitment env v = some root →
          ContinuityValue.commitment env w = some root → v = w := by
  refine ⟨ContinuityValue.message_injective, fun v root h => ?_, fun M hM v w root hv hw h h' => ?_⟩
  · obtain rfl := ContinuityValue.project_message h
    exact ⟨rfl, ContinuityValue.canonical_project _⟩
  · refine ContinuityValue.message_injective (hM hv hw ?_)
    exact (ContinuityValue.project_message h).trans (ContinuityValue.project_message h').symm

def localOpening (n : UInt8) : ContinuityValue :=
  .state ⟨tagged n [], tagged 1 [], tagged 1 [], 0, zero32⟩

theorem continuity_commitments_separated_local :
    ∃ root, (localOpening 1).commitment localnet = some root ∧
      (localOpening 2).commitment localnet ≠ some root := by
  obtain ⟨-, -, hinj⟩ := continuity_commitments_separated localnet
  have hpair : Set.InjOn (fun m => project (localnet.sha256 m))
      {(localOpening 1).message, (localOpening 2).message} :=
    Set.injOn_pair.mpr fun h => absurd h (by decide +kernel)
  have hroot : ((localOpening 1).commitment localnet).isSome := by decide +kernel
  obtain ⟨root, hroot⟩ := Option.isSome_iff_exists.mp hroot
  refine ⟨root, hroot, fun h => ?_⟩
  have heq := hinj _ hpair _ _ root (by simp) (by simp) hroot h
  exact absurd (congrArg ContinuityValue.message heq) (by decide +kernel)

/-- A hash that tells the messages of two openings apart by its top bits only. -/
def topnet : Env :=
  { localnet with
    sha256 := fun m => if m = (localOpening 1).message then tagged 1 [] else tagged 33 [] }

theorem cleared_hashes_collide :
    topnet.sha256 (localOpening 1).message ≠ topnet.sha256 (localOpening 2).message ∧
      (localOpening 1).commitment topnet = some (tagged 1 []) ∧
      (localOpening 2).commitment topnet = some (tagged 1 []) := by
  decide +kernel

end Northstar.Runtime
