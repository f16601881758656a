import Mathlib.Tactic
import Mathlib.Data.Nat.Log

/-!
# Authentication paths of binary trees

A path climbs from a leaf to the root, combining the value so far with a sibling at each
level; the bits of the leaf's index say on which side the sibling stands. The combining
function is a parameter and may depend on the level.

## Main definitions

* `pathDepth`: the number of levels above the leaves of a tree padded to a power of two
* `climb`: the value a path leads to
-/

namespace MerklePath

variable {α : Type*}

/-- The depth of the smallest power of two that holds `leafCount` leaves. -/
def pathDepth (leafCount : Nat) : Nat :=
  if leafCount ≤ 1 then 0 else Nat.log2 (leafCount - 1) + 1

theorem le_two_pow_pathDepth (leafCount : Nat) : leafCount ≤ 2 ^ pathDepth leafCount := by
  unfold pathDepth
  split
  · simpa using ‹leafCount ≤ 1›
  · have hlt : leafCount - 1 < 2 ^ ((leafCount - 1).log2 + 1) := Nat.lt_log2_self
    omega

/-- **Climb**: the value reached from `current` at `index`, one level for each sibling. -/
def climb (node : Nat → α → α → α) : (level index : Nat) → (current : α) → List α → α
  | _, _, current, [] => current
  | level, index, current, sibling :: rest =>
    climb node (level + 1) (index / 2)
      (if index % 2 = 0 then node level current sibling else node level sibling current) rest

@[simp] theorem climb_nil (node : Nat → α → α → α) (level index : Nat) (current : α) :
    climb node level index current [] = current := rfl

end MerklePath
