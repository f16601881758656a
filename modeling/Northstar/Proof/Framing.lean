import Northstar.Lib.HashChain
import Northstar.Portal.StepProof
import Northstar.Proof.Localstep

/-!
# Framing under Poseidon

Byte strings and lists of field elements are committed to by a fold of Poseidon over eleven
elements at a time, with the length in front. The fold is a hash chain: it determines what it
absorbed if no two of its calls collide and none returns a tag, which would pass for the start
of another fold. Portal's session context is the same commitment, unrolled.

## Main results

* `framing_injective`: a commitment determines its tag and its content, and Portal computes
  the commitment that the proof does
-/

namespace Northstar.Proof

open Bytes Portal

/-- The field elements that a byte string is committed to with. -/
def bytesFields (value : List UInt8) : List FrBytes :=
  .fromU64 byteStringTag :: .fromU64 (.ofNat value.length) :: (chunksOf 31 value).map frOfChunk

/-- A list with its length in front. -/
def listFields (values : List FrBytes) : List FrBytes := .fromU64 (.ofNat values.length) :: values

/-- The commitment to a list of field elements. -/
def commitList (crypto : Crypto) (tag : UInt64) (values : List FrBytes) : Option FrBytes :=
  fold crypto tag (listFields values)

/-- What identifies a session. -/
def sessionContextBytesV1 (portalProgram session : Pubkey) (gridId : UInt64) (nonce : BitVec 128)
    (validator : Pubkey) : List UInt8 :=
  ascii "northstar-session-context-v1" ++ portalProgram.toList ++ session.toList ++ le64 gridId ++
    le128 nonce ++ validator.toList ++ [1]

/-! ## The fold as a chain -/

section Fold

variable (crypto : Crypto)

/-- Poseidon of an accumulator, if there is one, and a chunk. -/
def absorb (call : Option FrBytes × List FrBytes) : Option FrBytes :=
  call.1.bind fun accumulator => crypto.poseidon (accumulator :: call.2)

/-- The calls of Poseidon that a fold makes. -/
def calls (tag : UInt64) (values : List FrBytes) : List (Option FrBytes × List FrBytes) :=
  HashChain.messages (absorb crypto) Prod.mk (some (.fromU64 tag)) (chunksOf 11 values)

/-- Calls that do not collide, across their widths, and do not return a tag. -/
structure Unambiguous (C : Set (Option FrBytes × List FrBytes)) : Prop where
  inj : C.InjOn (absorb crypto)
  noTag : ∀ call ∈ C, ∀ tag, absorb crypto call ≠ some (.fromU64 tag)

theorem fold_eq_chain (tag : UInt64) (values : List FrBytes) : fold crypto tag values =
    HashChain.chain (absorb crypto) Prod.mk (some (.fromU64 tag)) (chunksOf 11 values) := by
  have hbind : ∀ (chunks : List (List FrBytes)) (start : Option FrBytes),
      HashChain.chain (absorb crypto) Prod.mk start chunks = start.bind fun accumulator =>
        chunks.foldlM (fun accumulator chunk => crypto.poseidon (accumulator :: chunk))
          accumulator := by
    intro chunks
    induction chunks with
    | nil => intro start; cases start <;> rfl
    | cons chunk chunks ih =>
      intro start
      rw [HashChain.chain_cons, ih]
      cases start <;> rfl
  rw [hbind]
  rfl

end Fold

variable {crypto : Crypto} {C : Set (Option FrBytes × List FrBytes)} {t t' : UInt64}

theorem fromU64_inj (h : FrBytes.fromU64 t = .fromU64 t') : t = t' := by
  have h := congrArg (fun x => x.bytes.toList) h
  simp only [FrBytes.fromU64, toList_ofList32, List.append_cancel_left_eq, be,
    List.reverse_inj] at h
  exact le64_inj.mp h

/-! ## Chunks -/

theorem flatten_chunksOf {α : Type*} {n : Nat} (hn : 0 < n) (l : List α) :
    (chunksOf n l).flatten = l := by
  have htake : ∀ k, ((List.range k).map fun i => (l.drop (i * n)).take n).flatten =
      l.take (k * n) := by
    intro k
    induction k with
    | zero => simp
    | succ k ih => simp [List.range_succ, ih, Nat.succ_mul, List.take_add]
  rw [chunksOf, htake, List.take_of_length_le]
  have hlast := Nat.lt_div_mul_add (a := l.length + n - 1) hn
  omega

theorem chunksOf_inj {α : Type*} {n : Nat} (hn : 0 < n) {l l' : List α}
    (h : chunksOf n l = chunksOf n l') : l = l' := by
  rw [← flatten_chunksOf hn l, h, flatten_chunksOf hn]

theorem frOfChunk_inj {a b : List UInt8} (hlength : a.length = b.length) (ha : a.length ≤ 31)
    (h : frOfChunk a = frOfChunk b) : a = b := by
  have h := congrArg (fun x => x.bytes.toList) h
  simp only [frOfChunk, leftPad32, toList_ofList32, List.take_of_length_le ha,
    List.take_of_length_le (hlength ▸ ha)] at h
  rw [List.take_of_length_le (by simp; omega), List.take_of_length_le (by simp; omega),
    hlength] at h
  exact List.append_cancel_left h

theorem bytesFields_inj {v v' : List UInt8} (hv : v.length < 2 ^ 64) (hv' : v'.length < 2 ^ 64)
    (h : bytesFields v = bytesFields v') : v = v' := by
  simp only [bytesFields, List.cons.injEq, true_and] at h
  obtain ⟨hlength, h⟩ := h
  have hlength := congrArg UInt64.toNat (fromU64_inj hlength)
  rw [UInt64.toNat_ofNat', UInt64.toNat_ofNat', Nat.mod_eq_of_lt hv, Nat.mod_eq_of_lt hv']
    at hlength
  refine chunksOf_inj (n := 31) (by decide) ?_
  simp only [chunksOf, List.map_map, hlength, List.map_inj_left] at h ⊢
  intro i hi
  exact frOfChunk_inj (by simp [hlength]) (by simp) (h i hi)

theorem fold_inj (hC : Unambiguous crypto C) {vs vs' : List FrBytes}
    (hvs : ∀ c ∈ calls crypto t vs, c ∈ C) (hvs' : ∀ c ∈ calls crypto t' vs', c ∈ C)
    (h : fold crypto t vs = fold crypto t' vs') : t = t' ∧ vs = vs' := by
  rw [fold_eq_chain, fold_eq_chain] at h
  obtain ⟨ht, hchunks⟩ := HashChain.chain_inj (fun _ _ _ _ => Prod.mk.inj) hC.inj
    (fun c hc => ⟨hC.noTag c hc t, hC.noTag c hc t'⟩) hvs hvs' h
  exact ⟨fromU64_inj (Option.some.inj ht), chunksOf_inj (by decide) hchunks⟩

/-- The session context is one call of eight field elements. -/
theorem sessionContextV1_eq {env : Env} (key : Pubkey) (session : Session)
    (h : ∀ xs, env.poseidon (xs.map FrBytes.bytes) = (crypto.poseidon xs).map FrBytes.bytes) :
    sessionContextV1 env key session = (commitBytes crypto sessionContextTag
      (sessionContextBytesV1 env.programId key session.gridId session.nonce
        session.validator)).map FrBytes.bytes := by
  have hcontext : sessionContextBytesV1 env.programId key session.gridId session.nonce
      session.validator = sessionContextBytes env.programId key session := rfl
  have hlength : (sessionContextBytes env.programId key session).length = 149 := by
    simp [sessionContextBytes, ascii]
  have hnumber : ∀ n : UInt64, (FrBytes.fromU64 n).bytes = leftPad32 (be 8 n.toNat) := by
    intro n
    simp [FrBytes.fromU64, leftPad32, List.take_of_length_le]
  rw [hcontext, sessionContextV1]
  generalize sessionContextBytes env.programId key session = context at hlength
  have hchunks : (chunksOf 31 context).length = 5 := by simp [chunksOf, hlength]
  have hpadded : (chunksOf 31 context).map leftPad32 =
      ((chunksOf 31 context).map frOfChunk).map FrBytes.bytes := by
    simp [chunksOf, frOfChunk, List.take_of_length_le]
  -- seven values are one chunk
  have hfold : commitBytes crypto sessionContextTag context =
      crypto.poseidon (.fromU64 sessionContextTag :: bytesFields context) := by
    have hone : chunksOf 11 (bytesFields context) = [bytesFields context] := by
      simp [chunksOf, bytesFields, hlength, List.take_of_length_le]
    rw [commitBytes, fold, ← bytesFields.eq_1, hone, List.foldlM_cons]
    simp
  rw [hfold, ← h, List.take_of_length_le hchunks.le, hpadded]
  simp [bytesFields, hnumber, hlength, sessionContextTag, byteStringTag]

/-- **Framing is injective and agrees on the chain.** -/
theorem framing_injective (hC : Unambiguous crypto C) :
    (∀ t t' v v', v.length < 2 ^ 64 → v'.length < 2 ^ 64 →
      (∀ c ∈ calls crypto t (bytesFields v), c ∈ C) →
      (∀ c ∈ calls crypto t' (bytesFields v'), c ∈ C) →
      commitBytes crypto t v = commitBytes crypto t' v' → t = t' ∧ v = v') ∧
    (∀ t t' vs vs', (∀ c ∈ calls crypto t (listFields vs), c ∈ C) →
      (∀ c ∈ calls crypto t' (listFields vs'), c ∈ C) →
      commitList crypto t vs = commitList crypto t' vs' → t = t' ∧ vs = vs') ∧
    ∀ env key session, (∀ xs, env.poseidon (xs.map FrBytes.bytes) =
        (crypto.poseidon xs).map FrBytes.bytes) →
      sessionContextV1 env key session = (commitBytes crypto sessionContextTag
        (sessionContextBytesV1 env.programId key session.gridId session.nonce
          session.validator)).map FrBytes.bytes := by
  refine ⟨fun t t' v v' hv hv' hin hin' h => ?_, fun t t' vs vs' hin hin' h => ?_,
    fun env key session => sessionContextV1_eq key session⟩
  · obtain ⟨rfl, hfields⟩ := fold_inj hC hin hin' h
    exact ⟨rfl, bytesFields_inj hv hv' hfields⟩
  · obtain ⟨rfl, hfields⟩ := fold_inj hC hin hin' h
    exact ⟨rfl, (List.cons.inj hfields).2⟩

/-- Three results, one of them a tag. -/
def framingCrypto : Crypto :=
  { localCrypto with
    poseidon := fun inputs => some (
      if inputs.length = 12 then .fromU64 1
      else .erStepDomainV1 (if inputs.getLast? = some (frOfChunk [7]) then 1 else 2) 1) }

/-- The calls for the strings `7` and `7, 0`. -/
def framingCalls : List (Option FrBytes × List FrBytes) :=
  calls framingCrypto 1 (bytesFields [7]) ++ calls framingCrypto 1 (bytesFields [7, 0])

theorem framing_injective_zeros :
    commitBytes framingCrypto 1 [7] ≠ commitBytes framingCrypto 1 [7, 0] := by
  have hinj : ∀ c ∈ framingCalls, ∀ d ∈ framingCalls,
      absorb framingCrypto c = absorb framingCrypto d → c = d := by decide +kernel
  have hbyte : ∀ c ∈ framingCalls,
      (absorb framingCrypto c).map (·.bytes.toList[8]?) = some (some 110) := by decide +kernel
  have hfree : Unambiguous framingCrypto { c | c ∈ framingCalls } := by
    refine ⟨fun c hc d hd => hinj c hc d hd, fun c hc tag h => ?_⟩
    have hbyte := hbyte c hc
    rw [h] at hbyte
    exact absurd (show (0 : UInt8) = 110 from Option.some.inj (Option.some.inj hbyte)) (by decide)
  intro heq
  have h := (framing_injective hfree).1 1 1 [7] [7, 0] (by decide) (by decide)
    (fun c hc => List.mem_append_left _ hc) (fun c hc => List.mem_append_right _ hc) heq
  simp at h

/-- **A tag passes for the start of a fold**: of the two inputs that are hashed, neither
collides with the other. -/
theorem tag_passes_for_start :
    commitList framingCrypto 1 [] = commitList framingCrypto 1 (List.replicate 11 .zero) ∧
      framingCrypto.poseidon (.fromU64 1 :: .fromU64 11 :: List.replicate 10 .zero) ≠
        framingCrypto.poseidon [.fromU64 1, .fromU64 0] := by
  decide +kernel

end Northstar.Proof
