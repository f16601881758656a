import Northstar.Game.Localnet
import Northstar.Portal.Authentication
import Northstar.Proof.Trees

/-!
# One tree, three verifiers

A path is checked in three places: by the validator when it reads a package, by the prover
inside the proved program, and on chain by Portal. Portal takes a path as an array of fixed
length, filled up with zeros, and knows the number of leaves from the checkpoint; it hashes
with its own code. The path the validator makes for a leaf passes everywhere, and a path that
passes anywhere starts at a leaf of the tree.

## Main results

* `authenticatePath_iff`: what Portal's procedure decides is the prover's check
* `merkle_paths_agree_and_bind`: the verifiers accept what the validator makes, and nothing
  that is not in the tree
-/

namespace Northstar.Proof

open Bytes Checked MerklePath Northstar.Portal

/-- **The validator's check** of a path. -/
def MerkleAuthenticationPathV1.verify (sha256 : Digest) (path : MerkleAuthenticationPathV1)
    (kind : TreeKind) (leafHash expectedRoot : Hash32) : Bool :=
  if path.leafCount = 0 ∨ path.leafCount ≤ path.leafIndex then false
  else if path.siblings.length ≠ pathDepth (max path.leafCount.toNat 1) then false
  else rootHash sha256 kind path.leafCount.toNat
    (climb (nodeHash sha256 kind) 0 path.leafIndex.toNat leafHash path.siblings) == expectedRoot

/-- **A path as an array**: the siblings and then zeros, when they fit. -/
def pathArray (n : Nat) (siblings : List Hash32) : Option (Vector Hash32 n) :=
  if h : siblings.length ≤ n then
    some ⟨(siblings ++ List.replicate (n - siblings.length) zero32).toArray, by simp; omega⟩
  else none

/-- The path that Portal reads from an array. -/
def arrayPath (index leafCount : UInt32) (nodes : List Hash32) : MerkleAuthenticationPathV1 :=
  { leafIndex := index
    leafCount
    siblings := nodes.take (pathDepth leafCount.toNat) }

/-- **Accepted**: every verifier takes the path, Portal in the two trees it looks into and
when the path fits its array. -/
structure Accepted (env : Env) (kind : TreeKind) (leaves : List Hash32) (root : Hash32)
    (leaf : Hash32) (path : MerkleAuthenticationPathV1) : Prop where
  validator : path.verify env.sha256 kind leaf root = true
  guest : verifyPath env.sha256 kind path leaf root = true
  trace : kind = .trace → leaves.length ≤ 2 ^ 5 → ∀ (checkpoint : Checkpoint) (stateRoot : Hash32),
    checkpoint.traceRoot = root → checkpoint.stepCount.toNat + 1 = leaves.length →
    leaf = traceLeaf env path.leafIndex stateRoot →
    ∃ nodes, pathArray 5 path.siblings = some nodes ∧
      verifyTraceAuthenticationPath env checkpoint path.leafIndex.toUInt64 stateRoot
        (UInt8.ofNat path.siblings.length) nodes = true
  transactionEffect : kind = .transactionEffect → leaves.length ≤ 2 ^ 4 →
    ∀ checkpoint : Checkpoint, checkpoint.txEffectRoot = root →
    checkpoint.stepCount.toNat = leaves.length →
    ∃ nodes, pathArray 4 path.siblings = some nodes ∧
      verifyTxEffectAuthenticationPath env checkpoint path.leafIndex.toUInt64 leaf
        (UInt8.ofNat path.siblings.length) nodes = true

/-- **Binding**: a path that a verifier takes under the root starts at the leaf of its index,
when the strings hashed to check it are among those of `S`. -/
structure BindsLeaves (env : Env) (kind : TreeKind) (leaves : List Hash32) (root : Hash32)
    (S : Set (List UInt8)) : Prop where
  validator (path : MerkleAuthenticationPathV1) (leaf : Hash32) :
    (∀ s ∈ pathStrings env.sha256 kind path leaf, s ∈ S) →
    path.verify env.sha256 kind leaf root = true → leaves[path.leafIndex.toNat]? = some leaf
  guest (path : MerkleAuthenticationPathV1) (leaf : Hash32) :
    (∀ s ∈ pathStrings env.sha256 kind path leaf, s ∈ S) →
    verifyPath env.sha256 kind path leaf root = true → leaves[path.leafIndex.toNat]? = some leaf
  trace : kind = .trace → ∀ (checkpoint : Checkpoint) (stateIndex : UInt64) (stateRoot : Hash32)
    (pathLen : UInt8) (nodes : Vector Hash32 5), checkpoint.traceRoot = root →
    (∀ s ∈ pathStrings env.sha256 kind (arrayPath stateIndex.toUInt32
      (saturatingAdd checkpoint.stepCount 1).toUInt32 nodes.toList)
      (traceLeaf env stateIndex.toUInt32 stateRoot), s ∈ S) →
    verifyTraceAuthenticationPath env checkpoint stateIndex stateRoot pathLen nodes = true →
    leaves[stateIndex.toNat]? = some (traceLeaf env stateIndex.toUInt32 stateRoot)
  transactionEffect : kind = .transactionEffect → ∀ (checkpoint : Checkpoint)
    (stepIndex : UInt64) (leaf : Hash32) (pathLen : UInt8) (nodes : Vector Hash32 4),
    checkpoint.txEffectRoot = root →
    (∀ s ∈ pathStrings env.sha256 kind (arrayPath stepIndex.toUInt32
      checkpoint.stepCount.toUInt32 nodes.toList) leaf, s ∈ S) →
    verifyTxEffectAuthenticationPath env checkpoint stepIndex leaf pathLen nodes = true →
    leaves[stepIndex.toNat]? = some leaf

/-! ## The validator and the prover -/

section Made

variable {sha256 : Digest}

theorem verify_eq_verifyPath (path : MerkleAuthenticationPathV1) (leaf root : Hash32) :
    path.verify sha256 kind leaf root = verifyPath sha256 kind path leaf root := by
  unfold MerkleAuthenticationPathV1.verify verifyPath
  by_cases hindex : path.leafIndex < path.leafCount
  · have hlt : path.leafIndex.toNat < path.leafCount.toNat := UInt32.lt_iff_toNat_lt.mp hindex
    have hcount : path.leafCount ≠ 0 := by
      intro hzero
      simp [hzero] at hlt
    have hmax : max path.leafCount.toNat 1 = path.leafCount.toNat := by omega
    rw [if_neg (not_or.mpr ⟨hcount, UInt32.not_le.mpr hindex⟩), hmax]
    by_cases hdepth : path.siblings.length = pathDepth path.leafCount.toNat
    · simp [hindex, hdepth]
    · simp [hdepth]
  · rw [if_pos (.inr (UInt32.not_lt.mp hindex))]
    simp [hindex]

/-- Every list of leaves that positions can count has a root. -/
theorem exists_merkleRoot (hcount : leaves.length < 2 ^ 32) :
    ∃ root, merkleRoot sha256 kind leaves = some root := by
  have hlayer : (leafLayer sha256 kind leaves).length = 2 ^ pathDepth leaves.length :=
    length_leafLayer
  have hpos : 0 < (leafLayer sha256 kind leaves).length := by
    rw [hlayer]
    exact Nat.two_pow_pos _
  obtain ⟨-, htop⟩ := @MerkleTree.climb_siblings _ (nodeHash sha256 kind) _ 0 0 _ _ hlayer
    (List.getElem?_eq_getElem hpos)
  rw [merkleRoot, if_pos hcount, htop]
  exact ⟨_, rfl⟩

/-- The path made for a leaf leads from it to the root. -/
theorem verifyPath_of_merklePath (hleaf : leaves[index]? = some leaf)
    (hroot : merkleRoot sha256 kind leaves = some root) :
    ∃ path, merklePath sha256 kind leaves index = some path ∧ path.leafIndex.toNat = index ∧
      path.leafCount.toNat = leaves.length ∧
      path.siblings.length = pathDepth leaves.length ∧
      verifyPath sha256 kind path leaf root = true := by
  obtain ⟨hcount, inner, hinner, hsealed, -⟩ := merkleRoot_eq_some hroot
  obtain ⟨hindex, -⟩ := List.getElem?_eq_some_iff.mp hleaf
  have hlayer : (leafLayer sha256 kind leaves)[index]? = some leaf := by
    rw [leafLayer, List.getElem?_append_left hindex]
    exact hleaf
  obtain ⟨hdepth, htop⟩ := @MerkleTree.climb_siblings _ (nodeHash sha256 kind) _ 0 _ _ _
    length_leafLayer hlayer
  have hindexWord : (UInt32.ofNat index).toNat = index :=
    UInt32.toNat_ofNat_of_lt (hindex.trans hcount)
  have hcountWord : (UInt32.ofNat leaves.length).toNat = leaves.length :=
    UInt32.toNat_ofNat_of_lt hcount
  refine ⟨_, if_pos ⟨hcount, hindex⟩, hindexWord, hcountWord, hdepth, ?_⟩
  rw [htop, Option.some.injEq] at hinner
  simp only [verifyPath, hindexWord, hcountWord, hdepth, hinner, hsealed, UInt32.lt_iff_toNat_lt,
    hindex, decide_true, beq_self_eq_true, Bool.and_self]

end Made

/-! ## Portal -/

section Arrays

variable (kind : TreeKind)

theorem portal_nodeHash : Portal.nodeHash env kind.tag = nodeHash env.sha256 kind := by
  funext level left right
  simp [Portal.nodeHash, nodeHash, MerkleTree.node, nodeString, Env.hashv, checkpointDomain]

theorem portal_rootHash (hfield : kind.rootIsField = false) (leafCount : UInt32) (top : Hash32) :
    Portal.rootHash env kind.tag leafCount top = rootHash env.sha256 kind leafCount.toNat top := by
  simp [Portal.rootHash, rootHash, rootString, Env.hashv, checkpointDomain, hfield, le32]

/-- **What Portal's procedure decides is the prover's check** of the path it reads, together
with the shape of the array. -/
theorem authenticatePath_iff (hfield : kind.rootIsField = false) (hindex : index < leafCount) :
    authenticatePath env kind.tag leafCount index.toNat leaf pathLen nodes root = true ↔
      pathLen.toNat = pathDepth leafCount.toNat ∧ pathDepth leafCount.toNat ≤ nodes.length ∧
      (∀ node ∈ nodes.drop (pathDepth leafCount.toNat), node = zero32) ∧
      verifyPath env.sha256 kind (arrayPath index leafCount nodes) leaf root = true := by
  simp only [authenticatePath, verifyPath, arrayPath, portal_nodeHash, portal_rootHash kind hfield,
    Bool.and_eq_true, beq_iff_eq, decide_eq_true_eq, List.all_eq_true, List.length_take, hindex,
    true_and]
  constructor
  · rintro ⟨⟨⟨hlen, hfits⟩, hzero⟩, hroot⟩
    exact ⟨hlen, hfits, hzero, by omega, hroot⟩
  · rintro ⟨hlen, hfits, hzero, -, hroot⟩
    exact ⟨⟨⟨hlen, hfits⟩, hzero⟩, hroot⟩

/-- A path that fits its array is read back from it. -/
theorem authenticatePath_of_pathArray (hfield : kind.rootIsField = false) (hn : n < 256)
    (hfits : path.siblings.length ≤ n) (h : verifyPath env.sha256 kind path leaf root = true) :
    ∃ nodes, pathArray n path.siblings = some nodes ∧
      authenticatePath env kind.tag path.leafCount path.leafIndex.toNat leaf
        (UInt8.ofNat path.siblings.length) nodes.toList root = true := by
  have hchecked := h
  simp only [verifyPath, Bool.and_eq_true, decide_eq_true_eq, beq_iff_eq] at hchecked
  obtain ⟨⟨hindex, hdepth⟩, -⟩ := hchecked
  refine ⟨_, dif_pos hfits, (authenticatePath_iff kind hfield hindex).mpr ?_⟩
  have hread : arrayPath path.leafIndex path.leafCount
      (path.siblings ++ List.replicate (n - path.siblings.length) zero32) = path := by
    rw [arrayPath, ← hdepth, List.take_left]
  refine ⟨?_, ?_, ?_, ?_⟩
  · rw [← hdepth]
    exact UInt8.toNat_ofNat_of_lt (show path.siblings.length < 256 by omega)
  · simp [← hdepth]
  · intro node hnode
    rw [← hdepth, Vector.toList_mk, List.drop_left] at hnode
    exact List.eq_of_mem_replicate hnode
  · rw [Vector.toList_mk, hread]
    exact h

theorem tryU32_eq_some (h : tryU32 x = some y) :
    y = x.toUInt32 ∧ y.toNat = x.toNat := by
  unfold tryU32 at h
  split at h
  · rename_i hlt
    obtain rfl := Option.some.inj h
    exact ⟨rfl, by rw [UInt64.toNat_toUInt32]; exact Nat.mod_eq_of_lt hlt⟩
  · cases h

theorem tryU32_of_toNat (h : x.toNat = y.toNat) : tryU32 x = some y := by
  have hlt := y.toNat_lt
  have hword : x.toUInt32 = y := by
    apply UInt32.toNat_inj.mp
    rw [UInt64.toNat_toUInt32, h]
    exact Nat.mod_eq_of_lt hlt
  rw [tryU32, if_pos (h ▸ hlt), hword]

end Arrays

/-! ## The theorem -/

section Agreement

variable {root : Hash32}

/-- A tree that small has no more levels than the array has places. -/
theorem pathDepth_le (h : count ≤ 2 ^ n) : pathDepth count ≤ n := by
  unfold pathDepth
  split
  · exact Nat.zero_le n
  · rename_i hcount
    have hlog : (count - 1).log2 < n := (Nat.log2_lt (by omega)).mpr (by omega)
    omega

theorem accepted_of_merklePath (hleaf : leaves[index]? = some leaf)
    (hroot : merkleRoot env.sha256 kind leaves = some root) :
    ∃ path, merklePath env.sha256 kind leaves index = some path ∧
      path.leafIndex.toNat = index ∧ Accepted env kind leaves root leaf path := by
  obtain ⟨path, hpath, hindex, hcount, hdepth, hguest⟩ := verifyPath_of_merklePath hleaf hroot
  obtain ⟨hlt, -⟩ := List.getElem?_eq_some_iff.mp hleaf
  have hlt : path.leafIndex < path.leafCount := by
    rw [UInt32.lt_iff_toNat_lt, hindex, hcount]
    exact hlt
  refine ⟨path, hpath, hindex, ⟨(verify_eq_verifyPath path leaf root).trans hguest, hguest, ?_, ?_⟩⟩
  · rintro rfl hsmall checkpoint stateRoot rfl hsteps rfl
    obtain ⟨nodes, hnodes, hauth⟩ := authenticatePath_of_pathArray .trace (n := 5) rfl
      (by decide) (hdepth ▸ pathDepth_le hsmall) hguest
    have hsum : (saturatingAdd checkpoint.stepCount 1).toNat = path.leafCount.toNat := by
      rw [saturatingAdd, if_pos (by simp; omega), UInt64.toNat_add, hcount, ← hsteps]
      simp only [UInt64.toNat_one]
      omega
    refine ⟨nodes, hnodes, ?_⟩
    unfold verifyTraceAuthenticationPath
    rw [tryU32_of_toNat (UInt32.toNat_toUInt64 _), tryU32_of_toNat hsum]
    simp only [hlt, decide_true, Bool.true_and]
    exact hauth
  · rintro rfl hsmall checkpoint rfl hsteps
    obtain ⟨nodes, hnodes, hauth⟩ := authenticatePath_of_pathArray .transactionEffect (n := 4)
      rfl (by decide) (hdepth ▸ pathDepth_le hsmall) hguest
    have hbelow : path.leafIndex.toUInt64 < checkpoint.stepCount := by
      rw [UInt64.lt_iff_toNat_lt, UInt32.toNat_toUInt64, hsteps, ← hcount]
      exact UInt32.lt_iff_toNat_lt.mp hlt
    refine ⟨nodes, hnodes, ?_⟩
    unfold verifyTxEffectAuthenticationPath
    rw [tryU32_of_toNat (hsteps.trans hcount.symm)]
    simp only [hbelow, decide_true, Bool.true_and, UInt32.toNat_toUInt64]
    exact hauth

theorem bindsLeaves {S : Set (List UInt8)} (hfree : CollisionFree env.sha256 kind S)
    (hS : ∀ s ∈ treeStrings env.sha256 kind leaves, s ∈ S)
    (hroot : merkleRoot env.sha256 kind leaves = some root) :
    BindsLeaves env kind leaves root S := by
  have hguest : ∀ (path : MerkleAuthenticationPathV1) (leaf : Hash32),
      (∀ s ∈ pathStrings env.sha256 kind path leaf, s ∈ S) →
      verifyPath env.sha256 kind path leaf root = true →
      leaves[path.leafIndex.toNat]? = some leaf :=
    fun path leaf hpath h => (leaf_of_verifyPath hfree hS hpath hroot h).2
  refine ⟨?_, hguest, ?_, ?_⟩
  · intro path leaf hpath h
    exact hguest path leaf hpath ((verify_eq_verifyPath path leaf root).symm.trans h)
  · rintro rfl checkpoint stateIndex stateRoot pathLen nodes rfl hpath h
    unfold verifyTraceAuthenticationPath at h
    split at h
    · rename_i index leafCount hword hcount
      obtain ⟨rfl, hindex⟩ := tryU32_eq_some hword
      obtain ⟨rfl, -⟩ := tryU32_eq_some hcount
      simp only [Bool.and_eq_true, decide_eq_true_eq] at h
      obtain ⟨-, -, -, hverified⟩ := (authenticatePath_iff .trace rfl h.1).mp h.2
      rw [← hindex]
      exact hguest _ _ hpath hverified
    · cases h
  · rintro rfl checkpoint stepIndex leaf pathLen nodes rfl hpath h
    unfold verifyTxEffectAuthenticationPath at h
    simp only [Bool.and_eq_true, decide_eq_true_eq] at h
    obtain ⟨hlt, h⟩ := h
    split at h
    · rename_i leafCount hcount
      obtain ⟨rfl, hcount⟩ := tryU32_eq_some hcount
      have hlt := UInt64.lt_iff_toNat_lt.mp hlt
      have hindex : stepIndex.toUInt32.toNat = stepIndex.toNat := by
        rw [UInt64.toNat_toUInt32]
        have hword := (checkpoint.stepCount.toUInt32).toNat_lt
        omega
      rw [← hindex] at h ⊢
      obtain ⟨-, -, -, hverified⟩ := (authenticatePath_iff .transactionEffect rfl
        (UInt32.lt_iff_toNat_lt.mpr (by omega))).mp h
      exact hguest _ _ hpath hverified
    · cases h

/-- **Agreement and binding of paths**: a list of leaves has a root; the path the validator
makes for a leaf is accepted under it by the validator, the prover and Portal; and whatever
path one of the three accepts under it starts at the leaf of its index, when no two of the
strings hashed for the tree and the path collide. -/
theorem merkle_paths_agree_and_bind (env : Env) (kind : TreeKind) (leaves : List Hash32)
    (hcount : leaves.length < 2 ^ 32) :
    ∃ root, merkleRoot env.sha256 kind leaves = some root ∧
      (∀ (index : Nat) (leaf : Hash32), leaves[index]? = some leaf →
        ∃ path, merklePath env.sha256 kind leaves index = some path ∧
          path.leafIndex.toNat = index ∧ Accepted env kind leaves root leaf path) ∧
      ∀ S : Set (List UInt8), CollisionFree env.sha256 kind S →
        (∀ s ∈ treeStrings env.sha256 kind leaves, s ∈ S) →
        BindsLeaves env kind leaves root S := by
  obtain ⟨root, hroot⟩ := @exists_merkleRoot env.sha256 kind leaves hcount
  refine ⟨root, hroot, ?_, ?_⟩
  · exact fun index leaf hleaf => accepted_of_merklePath hleaf hroot
  · exact fun S hfree hS => bindsLeaves hfree hS hroot

/-- The trace of a checkpoint of two steps. -/
def localTrace : List Hash32 :=
  [traceLeaf localnet 0 (tagged 0 [1]), traceLeaf localnet 1 (tagged 0 [2]),
    traceLeaf localnet 2 (tagged 0 [3])]

theorem localTrace_collisionFree : CollisionFree localnet.sha256 .trace
    {s | s ∈ treeStrings localnet.sha256 .trace localTrace} := by
  have hpairs : ∀ s ∈ treeStrings localnet.sha256 .trace localTrace,
      ∀ t ∈ treeStrings localnet.sha256 .trace localTrace,
        localnet.sha256 s = localnet.sha256 t → s = t := by
    decide +kernel
  intro s hs t ht h
  exact hpairs s hs t ht h

theorem localTrace_paths_agree_and_bind :
    localTrace.length < 2 ^ 32 ∧
    ∃ root, merkleRoot localnet.sha256 .trace localTrace = some root ∧
      (∃ path, merklePath localnet.sha256 .trace localTrace 2 = some path ∧
        Accepted localnet .trace localTrace root (traceLeaf localnet 2 (tagged 0 [3])) path) ∧
      BindsLeaves localnet .trace localTrace root
        {s | s ∈ treeStrings localnet.sha256 .trace localTrace} := by
  refine ⟨by decide, ?_⟩
  obtain ⟨root, hroot, hmade, hbinds⟩ :=
    merkle_paths_agree_and_bind localnet .trace localTrace (by decide)
  obtain ⟨path, hpath, -, haccepted⟩ := hmade 2 _ rfl
  exact ⟨root, hroot, ⟨path, hpath, haccepted⟩, hbinds _ localTrace_collisionFree fun _ h => h⟩

end Agreement

end Northstar.Proof
