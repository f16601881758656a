import Northstar.Lib.MerkleTree
import Northstar.Portal.Commitments

/-!
# Hash trees of a checkpoint

A checkpoint commits to its states, transactions, readonly values and settlement effects by
one kind of hash tree. Leaves, inner nodes and roots are hashed under the domain of the
format, the kind of the tree and a label; a layer is filled up to a power of two with empty
leaves that name their position, and the root names the number of leaves. Roots that are
public inputs of a proof are cut down to field elements.

The prover and the validator have this code once each, word for word.

## Main results

* `leaf_of_verifyPath`: a verified path starts at a leaf of the tree
-/

namespace Northstar.Proof

open Bytes MerklePath Northstar.Portal

/-- The trees of a checkpoint. -/
inductive TreeKind
  | state
  | trace
  | transactionEffect
  | readonlyL1
  | settlementEffect
  | dataAvailability
  deriving DecidableEq

namespace TreeKind

/-- The text that tells the trees apart. -/
def tag : TreeKind → List UInt8
  | state => ascii "state"
  | trace => ascii "trace"
  | transactionEffect => ascii "transaction-effect"
  | readonlyL1 => ascii "readonly-l1"
  | settlementEffect => ascii "settlement-effect"
  | dataAvailability => ascii "data-availability"

/-- Roots of these trees are public inputs. -/
def rootIsField : TreeKind → Bool
  | state | readonlyL1 | settlementEffect => true
  | trace | transactionEffect | dataAvailability => false

end TreeKind

/-- The hash function. -/
abbrev Digest := List UInt8 → Hash32

/-! ## Strings -/

/-- What a leaf is hashed from. -/
def typedString (kind : TreeKind) (label bytes : List UInt8) : List UInt8 :=
  ascii "northstar-checkpoint-v1" ++ (kind.tag ++ (label ++ (le 8 bytes.length ++ bytes)))

/-- What an inner node is hashed from. -/
def nodeString (kind : TreeKind) (level : Nat) (left right : Hash32) : List UInt8 :=
  ascii "northstar-checkpoint-v1" ++ (kind.tag ++ (ascii "node" ++ (le 4 level ++
    (left.toList ++ right.toList))))

/-- What a root is hashed from. -/
def rootString (kind : TreeKind) (leafCount : Nat) (inner : Hash32) : List UInt8 :=
  ascii "northstar-checkpoint-v1" ++ (kind.tag ++ (ascii "root" ++ (le 4 leafCount ++
    inner.toList)))

/-- The empty leaf at a position. -/
def emptyLeafString (kind : TreeKind) (index : Nat) : List UInt8 :=
  typedString kind (ascii "empty-leaf") (le 4 index)

section Hashes

variable (sha256 : Digest)

/-- The hash of a leaf. -/
def typedHash (kind : TreeKind) (label bytes : List UInt8) : Hash32 :=
  sha256 (typedString kind label bytes)

/-- The hash of an empty leaf. -/
def emptyLeafHash (kind : TreeKind) (index : Nat) : Hash32 := sha256 (emptyLeafString kind index)

/-- The hash of an inner node. -/
def nodeHash (kind : TreeKind) (level : Nat) (left right : Hash32) : Hash32 :=
  MerkleTree.node sha256 (nodeString kind) level left right

/-- The root, as a field element where it has to be one. -/
def rootHash (kind : TreeKind) (leafCount : Nat) (inner : Hash32) : Hash32 :=
  if kind.rootIsField = true then project (sha256 (rootString kind leafCount inner))
  else sha256 (rootString kind leafCount inner)

/-! ## Trees -/

/-- The leaves, filled up with empty ones to the next power of two. -/
def leafLayer (kind : TreeKind) (leaves : List Hash32) : List Hash32 :=
  leaves ++ (List.range' leaves.length (2 ^ pathDepth leaves.length - leaves.length)).map
    (emptyLeafHash sha256 kind)

/-- **The root** of a tree. Positions are 32-bit words, which bounds the number of leaves. -/
def merkleRoot (kind : TreeKind) (leaves : List Hash32) : Option Hash32 :=
  if leaves.length < 2 ^ 32 then
    (MerkleTree.top (nodeHash sha256 kind) (pathDepth leaves.length) 0
      (leafLayer sha256 kind leaves)).map (rootHash sha256 kind leaves.length)
  else none

/-- The siblings from a leaf to the root. -/
structure MerkleAuthenticationPathV1 where
  leafIndex : UInt32
  leafCount : UInt32
  siblings : List Hash32
  deriving DecidableEq

/-- The path of a leaf. -/
def merklePath (kind : TreeKind) (leaves : List Hash32) (leafIndex : Nat) :
    Option MerkleAuthenticationPathV1 :=
  if leaves.length < 2 ^ 32 ∧ leafIndex < leaves.length then
    some
      { leafIndex := UInt32.ofNat leafIndex
        leafCount := UInt32.ofNat leaves.length
        siblings := MerkleTree.siblings (nodeHash sha256 kind) (pathDepth leaves.length) 0
          leafIndex (leafLayer sha256 kind leaves) }
  else none

/-- **The check of a path**: it has the depth of its tree and climbs from the leaf to the
root. -/
def verifyPath (kind : TreeKind) (path : MerkleAuthenticationPathV1) (leaf expectedRoot : Hash32) :
    Bool :=
  decide (path.leafIndex < path.leafCount) &&
    path.siblings.length == pathDepth path.leafCount.toNat &&
    rootHash sha256 kind path.leafCount.toNat
      (climb (nodeHash sha256 kind) 0 path.leafIndex.toNat leaf path.siblings) == expectedRoot

/-! ## What is hashed -/

/-- The strings that are hashed to build a tree over its leaves. -/
def treeStrings (kind : TreeKind) (leaves : List Hash32) : List (List UInt8) :=
  (List.range' leaves.length (2 ^ pathDepth leaves.length - leaves.length)).map
      (emptyLeafString kind) ++
    (MerkleTree.hashedNodes sha256 (nodeString kind) (pathDepth leaves.length) 0
      (leafLayer sha256 kind leaves) ++
    ((MerkleTree.top (nodeHash sha256 kind) (pathDepth leaves.length) 0
      (leafLayer sha256 kind leaves)).map (rootString kind leaves.length)).toList)

/-- The strings that are hashed to check a path. -/
def pathStrings (kind : TreeKind) (path : MerkleAuthenticationPathV1) (leaf : Hash32) :
    List (List UInt8) :=
  MerkleTree.climbedNodes sha256 (nodeString kind) 0 path.leafIndex.toNat leaf path.siblings ++
    [rootString kind path.leafCount.toNat
      (climb (nodeHash sha256 kind) 0 path.leafIndex.toNat leaf path.siblings)]

/-- **No collisions** among the strings of `S`, also when digests are cut down to field
elements, if those of the kind's roots are. -/
def CollisionFree (kind : TreeKind) (S : Set (List UInt8)) : Prop :=
  Set.InjOn (fun s => if kind.rootIsField = true then project (sha256 s) else sha256 s) S

end Hashes

/-! ## Binding -/

theorem nodeString_injective (kind : TreeKind) (level : Nat)
    (h : nodeString kind level a b = nodeString kind level c d) : a = c ∧ b = d := by
  unfold nodeString at h
  rw [append_inj_iff rfl, append_inj_iff rfl, append_inj_iff rfl, append_inj_iff (by simp),
    append_inj_iff (by simp)] at h
  exact ⟨toList_inj32.mp h.2.2.2.2.1, toList_inj32.mp h.2.2.2.2.2⟩

theorem rootString_injective (kind : TreeKind) (hm : m < 2 ^ 32) (hn : n < 2 ^ 32)
    (h : rootString kind m a = rootString kind n b) : m = n ∧ a = b := by
  unfold rootString at h
  rw [append_inj_iff rfl, append_inj_iff rfl, append_inj_iff rfl, append_inj_iff (by simp)] at h
  exact ⟨(le_inj (by omega) (by omega)).mp h.2.2.2.1, toList_inj32.mp h.2.2.2.2⟩

section Binding

variable {sha256 : Digest} {S : Set (List UInt8)}

theorem CollisionFree.injOn (h : CollisionFree sha256 kind S) : Set.InjOn sha256 S := by
  intro s hs t ht hst
  exact h hs ht (by simp only [hst])

theorem CollisionFree.rootHash_inj (h : CollisionFree sha256 kind S) (hm : m < 2 ^ 32)
    (hn : n < 2 ^ 32) (ha : rootString kind m a ∈ S) (hb : rootString kind n b ∈ S)
    (heq : rootHash sha256 kind m a = rootHash sha256 kind n b) : m = n ∧ a = b :=
  rootString_injective kind hm hn (h ha hb heq)

theorem length_leafLayer : (leafLayer sha256 kind leaves).length = 2 ^ pathDepth leaves.length := by
  have hle := le_two_pow_pathDepth leaves.length
  rw [leafLayer, List.length_append, List.length_map, List.length_range']
  omega

theorem merkleRoot_eq_some (h : merkleRoot sha256 kind leaves = some root) :
    leaves.length < 2 ^ 32 ∧ ∃ inner, MerkleTree.top (nodeHash sha256 kind)
      (pathDepth leaves.length) 0 (leafLayer sha256 kind leaves) = some inner ∧
      rootHash sha256 kind leaves.length inner = root ∧
      rootString kind leaves.length inner ∈ treeStrings sha256 kind leaves := by
  unfold merkleRoot at h
  split at h
  · rename_i hlt
    obtain ⟨inner, hinner, hroot⟩ := Option.map_eq_some_iff.mp h
    refine ⟨hlt, inner, hinner, hroot, ?_⟩
    apply List.mem_append_right
    apply List.mem_append_right
    rw [hinner]
    exact List.mem_singleton_self _
  · cases h

/-- **A verified path starts at a leaf of the tree**, when no two strings hashed for them
collide. -/
theorem leaf_of_verifyPath (hfree : CollisionFree sha256 kind S)
    (hS : ∀ s ∈ treeStrings sha256 kind leaves, s ∈ S)
    (hS' : ∀ s ∈ pathStrings sha256 kind path leaf, s ∈ S)
    (h : merkleRoot sha256 kind leaves = some root)
    (hpath : verifyPath sha256 kind path leaf root = true) :
    path.leafCount.toNat = leaves.length ∧ leaves[path.leafIndex.toNat]? = some leaf := by
  obtain ⟨hlt, inner, hinner, hroot, hmem⟩ := merkleRoot_eq_some h
  simp only [verifyPath, Bool.and_eq_true, decide_eq_true_eq, beq_iff_eq] at hpath
  obtain ⟨⟨hindex, hdepth⟩, hclimb⟩ := hpath
  have hindex : path.leafIndex.toNat < path.leafCount.toNat := UInt32.lt_iff_toNat_lt.mp hindex
  obtain ⟨hcount, hinner'⟩ := hfree.rootHash_inj path.leafCount.toNat_lt hlt
    (hS' _ (List.mem_append_right _ (List.mem_singleton_self _))) (hS _ hmem)
    (hclimb.trans hroot.symm)
  refine ⟨hcount, ?_⟩
  rw [hcount] at hindex hdepth
  have hwide := le_two_pow_pathDepth leaves.length
  -- the leaf sits in the filled layer, and its index lies before the empty leaves
  have hlayer : (leafLayer sha256 kind leaves)[path.leafIndex.toNat]? = some leaf := by
    apply MerkleTree.leaf_eq_of_climb_eq (fun level a b c d => nodeString_injective kind level)
      hfree.injOn length_leafLayer (by omega) hdepth
    · intro s hs
      exact hS s (List.mem_append_right _ (List.mem_append_left _ hs))
    · intro s hs
      exact hS' s (List.mem_append_left _ hs)
    · rw [← hinner'] at hinner
      exact hinner
  rw [leafLayer, List.getElem?_append_left hindex] at hlayer
  exact hlayer

end Binding

end Northstar.Proof
