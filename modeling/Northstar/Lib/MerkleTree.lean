import Mathlib.Data.Nat.Bitwise
import Northstar.Lib.MerklePath

/-!
# Binary hash trees

A tree is built layer by layer from a list of leaves whose length is a power of two: a layer
pairs up neighbours, and each pair is hashed under its level. The hash and the encoding of a
pair are parameters. What is known of the hash is that it has no collision among the strings
that were hashed; so the results speak of those strings.

## Main definitions

* `pairUp`, `top`: the next layer of a tree, and its single top value
* `siblings`: the values beside the way from a leaf to the top
* `hashedNodes`, `climbedNodes`: the strings hashed to build a tree, and to climb a path

## Main results

* `climb_siblings`: the siblings of a leaf lead from it to the top
* `leaf_eq_of_climb_eq`: a path that climbs to the top starts at the leaf of its index
-/

namespace MerkleTree

open MerklePath

variable {α β : Type*}

/-- The next layer: neighbours are combined, and a single last value is dropped. -/
def pairUp (f : α → α → β) : List α → List β
  | a :: b :: rest => f a b :: pairUp f rest
  | _ => []

/-- **The top** of a tree of the given depth. -/
def top (node : Nat → α → α → α) : (depth level : Nat) → List α → Option α
  | 0, _, layer => layer.head?
  | depth + 1, level, layer => top node depth (level + 1) (pairUp (node level) layer)

/-- The values beside the way from the leaf at `index` to the top. -/
def siblings (node : Nat → α → α → α) : (depth level index : Nat) → List α → List α
  | 0, _, _, _ => []
  | depth + 1, level, index, layer =>
    (layer[index ^^^ 1]?).toList ++
      siblings node depth (level + 1) (index / 2) (pairUp (node level) layer)

section Nodes

variable (hash : β → α) (encode : Nat → α → α → β)

/-- The value above a pair. -/
def node (level : Nat) (a b : α) : α := hash (encode level a b)

/-- The strings that are hashed to build a tree. -/
def hashedNodes : (depth level : Nat) → List α → List β
  | 0, _, _ => []
  | depth + 1, level, layer => pairUp (encode level) layer ++
      hashedNodes depth (level + 1) (pairUp (node hash encode level) layer)

/-- The strings that are hashed to climb a path. -/
def climbedNodes : (level index : Nat) → (current : α) → List α → List β
  | _, _, _, [] => []
  | level, index, current, sibling :: rest =>
    (if index % 2 = 0 then encode level current sibling else encode level sibling current) ::
      climbedNodes (level + 1) (index / 2)
        (if index % 2 = 0 then node hash encode level current sibling
          else node hash encode level sibling current) rest

end Nodes

section Layers

variable {γ : Type*} {f : α → α → β} {layer : List α}

theorem length_pairUp : (pairUp f layer).length = layer.length / 2 := by
  induction layer using pairUp.induct with
  | case1 a b rest ih =>
    rw [pairUp, List.length_cons, ih, List.length_cons, List.length_cons]
    omega
  | case2 layer hshort =>
    cases layer with
    | nil => simp [pairUp]
    | cons a layer =>
      cases layer with
      | nil => simp [pairUp]
      | cons b rest => exact absurd rfl (hshort a b rest)

theorem pairUp_getElem? {j : Nat} {a b : α} (ha : layer[2 * j]? = some a)
    (hb : layer[2 * j + 1]? = some b) : (pairUp f layer)[j]? = some (f a b) := by
  induction j generalizing layer with
  | zero =>
    cases layer with
    | nil => simp at ha
    | cons x layer =>
      cases layer with
      | nil => simp at hb
      | cons y rest =>
        simp only [Nat.mul_zero, List.getElem?_cons_zero, Option.some.injEq, Nat.zero_add,
          List.getElem?_cons_succ] at ha hb
        rw [pairUp, List.getElem?_cons_zero, ha, hb]
  | succ j ih =>
    cases layer with
    | nil => simp at ha
    | cons x layer =>
      cases layer with
      | nil => simp at hb
      | cons y rest =>
        have hdouble : 2 * (j + 1) = 2 * j + 1 + 1 := by omega
        rw [hdouble, List.getElem?_cons_succ, List.getElem?_cons_succ] at ha hb
        rw [pairUp, List.getElem?_cons_succ]
        exact ih ha hb

end Layers

section Paths

variable {nodeOf : Nat → α → α → α}

/-- **The siblings of a leaf lead from it to the top.** -/
theorem climb_siblings {depth level index : Nat} {layer : List α} {leaf : α}
    (hlength : layer.length = 2 ^ depth) (hleaf : layer[index]? = some leaf) :
    (siblings nodeOf depth level index layer).length = depth ∧
      top nodeOf depth level layer =
        some (climb nodeOf level index leaf (siblings nodeOf depth level index layer)) := by
  induction depth generalizing level index layer leaf with
  | zero =>
    obtain ⟨a, rfl⟩ := List.length_eq_one_iff.mp hlength
    obtain ⟨hindex, rfl⟩ := List.getElem?_eq_some_iff.mp hleaf
    rw [List.length_singleton, Nat.lt_one_iff] at hindex
    simp [siblings, top, hindex]
  | succ depth ih =>
    rw [pow_succ, Nat.mul_comm] at hlength
    obtain ⟨hindex, -⟩ := List.getElem?_eq_some_iff.mp hleaf
    have hhalf : (pairUp (nodeOf level) layer).length = 2 ^ depth := by
      rw [length_pairUp, hlength]
      omega
    -- the bits of the index say which of the pair the leaf is
    obtain ⟨j, rfl | rfl⟩ := Nat.even_or_odd' index
    · have hsibling := List.getElem?_eq_getElem (show 2 * j + 1 < layer.length by omega)
      have hxor : 2 * j ^^^ 1 = 2 * j + 1 := Nat.xor_one_of_even (even_two_mul j)
      have hhalves : 2 * j / 2 = j := by omega
      obtain ⟨hcount, htop⟩ := @ih (level + 1) j _ _ hhalf (pairUp_getElem? hleaf hsibling)
      rw [siblings, hxor, hsibling, hhalves]
      refine ⟨by simp [hcount], ?_⟩
      simp [top, climb, htop]
    · have hsibling := List.getElem?_eq_getElem (show 2 * j < layer.length by omega)
      have hxor : (2 * j + 1) ^^^ 1 = 2 * j := Nat.xor_one_of_odd (odd_two_mul_add_one j)
      have hhalves : (2 * j + 1) / 2 = j := by omega
      obtain ⟨hcount, htop⟩ := @ih (level + 1) j _ _ hhalf (pairUp_getElem? hsibling hleaf)
      rw [siblings, hxor, hsibling, hhalves]
      refine ⟨by simp [hcount], ?_⟩
      simp [top, climb, htop, hhalves]

end Paths

section Collisions

variable {hash : β → α} {encode : Nat → α → α → β} {S : Set β}

/-- **A path that climbs to the top starts at the leaf of its index**, when no two of the
strings hashed on the way and for the tree collide. -/
theorem leaf_eq_of_climb_eq
    (hencode : ∀ level a b c d, encode level a b = encode level c d → a = c ∧ b = d)
    (hinj : Set.InjOn hash S) {depth level index : Nat} {layer path : List α} {leaf : α}
    (hlength : layer.length = 2 ^ depth) (hindex : index < 2 ^ depth) (hpath : path.length = depth)
    (hS : ∀ s ∈ hashedNodes hash encode depth level layer, s ∈ S)
    (hS' : ∀ s ∈ climbedNodes hash encode level index leaf path, s ∈ S)
    (h : top (node hash encode) depth level layer =
      some (climb (node hash encode) level index leaf path)) :
    layer[index]? = some leaf := by
  induction depth generalizing level index layer path leaf with
  | zero =>
    obtain ⟨a, rfl⟩ := List.length_eq_one_iff.mp hlength
    rw [pow_zero, Nat.lt_one_iff] at hindex
    obtain rfl := List.length_eq_zero_iff.mp hpath
    rw [hindex]
    exact h
  | succ depth ih =>
    rw [pow_succ, Nat.mul_comm] at hlength hindex
    obtain ⟨sibling, rest, rfl⟩ := List.exists_cons_of_length_eq_add_one hpath
    rw [List.length_cons, Nat.add_right_cancel_iff] at hpath
    have hhalf : (pairUp (node hash encode level) layer).length = 2 ^ depth := by
      rw [length_pairUp, hlength]
      omega
    have hnext := ih hhalf (by omega) hpath (fun s hs => hS s (List.mem_append_right _ hs))
      (fun s hs => hS' s (List.mem_cons_of_mem _ hs)) h
    -- the pair of the layer that the step of the path lands on
    have hleft : 2 * (index / 2) < layer.length := by omega
    have hright : 2 * (index / 2) + 1 < layer.length := by omega
    have ha := List.getElem?_eq_getElem hleft
    have hb := List.getElem?_eq_getElem hright
    rw [pairUp_getElem? ha hb, Option.some.injEq] at hnext
    have hmem : encode level layer[2 * (index / 2)] layer[2 * (index / 2) + 1] ∈ S := by
      apply hS
      apply List.mem_append_left
      exact List.mem_of_getElem? (pairUp_getElem? ha hb)
    have hstep := hS' _ List.mem_cons_self
    by_cases heven : index % 2 = 0
    · rw [if_pos heven] at hnext hstep
      have hsame : index = 2 * (index / 2) := by omega
      rw [hsame, ha, (hencode _ _ _ _ _ (hinj hmem hstep hnext)).1]
    · rw [if_neg heven] at hnext hstep
      have hsame : index = 2 * (index / 2) + 1 := by omega
      rw [hsame, hb, (hencode _ _ _ _ _ (hinj hmem hstep hnext)).2]

end Collisions

end MerkleTree
