import Mathlib.Tactic
import Mathlib.Data.List.Perm.Basic

/-!
# Sums over ordered maps

What the values of an ordered map weigh together, and how inserting and erasing an entry
changes that.

## Main definitions

* `weigh`: the sum of a weight over the values of a map

## Main results

* `weigh_insert`, `weigh_erase`: the weight after an entry is inserted or erased
-/

namespace TreeMaps

open Std

variable {α β : Type*} {cmp : α → α → Ordering} [TransCmp cmp]

/-- **Weight** of a map: the sum of `weight` over its values. -/
def weigh (weight : β → Nat) (m : ExtTreeMap α β cmp) : Nat :=
  (m.toList.map fun entry => weight entry.2).sum

variable [LawfulEqCmp cmp] {m : ExtTreeMap α β cmp} {k : α} {v : β}

theorem nodup_toList (m : ExtTreeMap α β cmp) : m.toList.Nodup := by
  refine (ExtTreeMap.distinct_keys_toList (t := m)).imp fun {entry entry'} hne heq => ?_
  subst heq
  exact hne ReflCmp.compare_self

/-- An entry comes first, then what the map has under other keys. -/
theorem toList_insert_perm : (m.insert k v).toList.Perm ((k, v) :: (m.erase k).toList) := by
  have hfresh : (k, v) ∉ (m.erase k).toList := by
    rw [ExtTreeMap.mem_toList_iff_getElem?_eq_some, ExtTreeMap.getElem?_erase,
      if_pos ReflCmp.compare_self]
    exact Option.some_ne_none v ∘ Eq.symm
  refine (List.perm_ext_iff_of_nodup (nodup_toList _)
    (List.nodup_cons.mpr ⟨hfresh, nodup_toList _⟩)).mpr ?_
  rintro ⟨a, b⟩
  rw [List.mem_cons, ExtTreeMap.mem_toList_iff_getElem?_eq_some,
    ExtTreeMap.mem_toList_iff_getElem?_eq_some, ExtTreeMap.getElem?_insert,
    ExtTreeMap.getElem?_erase, Prod.mk.injEq]
  by_cases h : cmp k a = .eq
  · obtain rfl := LawfulEqCmp.eq_of_compare h
    simp [h, eq_comm]
  · have hne : a ≠ k := by
      rintro rfl
      exact h ReflCmp.compare_self
    simp [h, hne]

theorem erase_of_getElem?_eq_none (h : m[k]? = none) : m.erase k = m := by
  refine ExtTreeMap.ext_getElem? fun a => ?_
  rw [ExtTreeMap.getElem?_erase]
  split
  · rename_i heq
    obtain rfl := LawfulEqCmp.eq_of_compare heq
    exact h.symm
  · rfl

theorem insert_erase_self (h : m[k]? = some v) : (m.erase k).insert k v = m := by
  refine ExtTreeMap.ext_getElem? fun a => ?_
  rw [ExtTreeMap.getElem?_insert, ExtTreeMap.getElem?_erase]
  split
  · rename_i heq
    obtain rfl := LawfulEqCmp.eq_of_compare heq
    exact h.symm
  · rfl

theorem weigh_insert_of_erased (weight : β → Nat) (m : ExtTreeMap α β cmp) (k : α) (v : β) :
    weigh weight (m.insert k v) = weight v + weigh weight (m.erase k) := by
  unfold weigh
  rw [(toList_insert_perm.map _).sum_eq, List.map_cons, List.sum_cons]

/-- **Erasing an entry** takes its weight away. -/
theorem weigh_erase (weight : β → Nat) (m : ExtTreeMap α β cmp) (k : α) :
    weigh weight (m.erase k) + (m[k]?.map weight).getD 0 = weigh weight m := by
  cases h : m[k]? with
  | none => rw [erase_of_getElem?_eq_none h, Option.map_none, Option.getD_none, Nat.add_zero]
  | some v =>
    have hsplit := weigh_insert_of_erased weight (m.erase k) k v
    have hgone : (m.erase k)[k]? = none := by
      rw [ExtTreeMap.getElem?_erase, if_pos ReflCmp.compare_self]
    rw [insert_erase_self h, erase_of_getElem?_eq_none hgone] at hsplit
    rw [hsplit, Option.map_some, Option.getD_some, Nat.add_comm]

/-- **Inserting an entry** adds its weight, in the place of what was there. -/
theorem weigh_insert (weight : β → Nat) (m : ExtTreeMap α β cmp) (k : α) (v : β) :
    weigh weight (m.insert k v) + (m[k]?.map weight).getD 0 = weigh weight m + weight v := by
  have herase := weigh_erase weight m k
  have hsplit := weigh_insert_of_erased weight m k v
  omega

@[simp] theorem weigh_empty (weight : β → Nat) : weigh weight (∅ : ExtTreeMap α β cmp) = 0 := by
  have hnil : (∅ : ExtTreeMap α β cmp).toList = [] := by
    refine List.eq_nil_iff_forall_not_mem.mpr ?_
    rintro ⟨a, b⟩ h
    rw [ExtTreeMap.mem_toList_iff_getElem?_eq_some, ExtTreeMap.getElem?_empty] at h
    cases h
  rw [weigh, hnil, List.map_nil, List.sum_nil]

end TreeMaps
