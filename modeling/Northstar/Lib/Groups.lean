import Mathlib.Tactic
import Mathlib.Data.List.Basic

/-!
# Lists grouped by a key

A list whose members have keys falls into one group for each key. Groups that are computed
one by one and put together again are the list up to order.

## Main results

* `find?_of_nodup`: a member is found by its key
* `filter_flatMap`: a group is found again in the concatenation of all groups
* `flatMap_filter_perm`: the groups of a list make up the list
* `filterMap_guard_eq_iff`: a guarded selection misses nothing exactly when the guard lets
  everything through
-/

namespace Groups

variable {ρ κ β : Type*} [DecidableEq κ] {rs : List ρ} {key : ρ → κ} {group : ρ → List β}
  {source : β → κ}

/-- Where keys are distinct, a member is found by its key. -/
theorem find?_of_nodup (hnodup : (rs.map key).Nodup) {r : ρ} (hr : r ∈ rs) :
    rs.find? (fun t => key t = key r) = some r := by
  induction rs with
  | nil => exact absurd hr List.not_mem_nil
  | cons t rs ih =>
    rw [List.map_cons, List.nodup_cons] at hnodup
    rcases List.mem_cons.mp hr with rfl | hr
    · exact List.find?_cons_of_pos (decide_eq_true rfl)
    · have hne : key t ≠ key r := fun heq => hnodup.1 (heq ▸ List.mem_map_of_mem hr)
      rw [List.find?_cons_of_neg (by simpa using hne)]
      exact ih hnodup.2 hr

/-- A group is found again among all groups. -/
theorem filter_flatMap (hnodup : (rs.map key).Nodup)
    (hgroup : ∀ r ∈ rs, ∀ b ∈ group r, source b = key r) {r : ρ} (hr : r ∈ rs) :
    (rs.flatMap group).filter (fun b => source b = key r) = group r := by
  induction rs with
  | nil => exact absurd hr List.not_mem_nil
  | cons t rs ih =>
    rw [List.map_cons, List.nodup_cons] at hnodup
    rw [List.forall_mem_cons] at hgroup
    rw [List.flatMap_cons, List.filter_append]
    rcases List.mem_cons.mp hr with rfl | hr
    · -- no other group has this key
      have hrest : (rs.flatMap group).filter (fun b => source b = key r) = [] := by
        refine List.filter_eq_nil_iff.mpr fun b hb hkey => ?_
        obtain ⟨u, hu, hb⟩ := List.mem_flatMap.mp hb
        rw [hgroup.2 u hu b hb, decide_eq_true_iff] at hkey
        exact hnodup.1 (hkey ▸ List.mem_map_of_mem hu)
      rw [hrest, List.append_nil]
      exact List.filter_eq_self.mpr fun b hb => decide_eq_true (hgroup.1 b hb)
    · have hhead : (group t).filter (fun b => source b = key r) = [] := by
        refine List.filter_eq_nil_iff.mpr fun b hb hkey => ?_
        rw [hgroup.1 b hb, decide_eq_true_iff] at hkey
        exact hnodup.1 (hkey ▸ List.mem_map_of_mem hr)
      rw [hhead, List.nil_append]
      exact ih hnodup.2 hgroup.2 hr

/-- The groups of a list make up the list. -/
theorem flatMap_filter_perm (hnodup : (rs.map key).Nodup) {bs : List β}
    (hkeys : ∀ b ∈ bs, ∃ r ∈ rs, key r = source b) :
    (rs.flatMap fun r => bs.filter (fun b => source b = key r)).Perm bs := by
  induction rs generalizing bs with
  | nil =>
    obtain rfl : bs = [] := List.eq_nil_iff_forall_not_mem.mpr fun b hb => by
      obtain ⟨r, hr, -⟩ := hkeys b hb
      exact List.not_mem_nil hr
    exact List.Perm.refl _
  | cons t rs ih =>
    rw [List.map_cons, List.nodup_cons] at hnodup
    have hrest : (rs.flatMap fun r => (bs.filter fun b => !decide (source b = key t)).filter
        fun b => source b = key r).Perm (bs.filter fun b => !decide (source b = key t)) := by
      refine ih hnodup.2 fun b hb => ?_
      rw [List.mem_filter, Bool.not_eq_true', decide_eq_false_iff_not] at hb
      obtain ⟨r, hr, hkey⟩ := hkeys b hb.1
      rcases List.mem_cons.mp hr with rfl | hr
      · exact absurd hkey.symm hb.2
      · exact ⟨r, hr, hkey⟩
    rw [List.flatMap_cons]
    refine List.Perm.trans (List.Perm.append_left _ ?_)
      (List.filter_append_perm (fun b => source b = key t) bs)
    have hsame : (rs.flatMap fun r => bs.filter (fun b => source b = key r)) =
        rs.flatMap fun r => (bs.filter fun b => !decide (source b = key t)).filter
          (fun b => source b = key r) := by
      refine List.flatMap_congr fun r hr => ?_
      rw [List.filter_filter]
      refine List.filter_congr fun b _ => ?_
      by_cases hb : source b = key r
      · have hne : key r ≠ key t := fun heq => hnodup.1 (heq ▸ List.mem_map_of_mem hr)
        simp [hb, hne]
      · simp [hb]
    rw [hsame]
    exact hrest

/-! ## Guarded selections -/

section Guarded

variable {α : Type*} {f : α → Option β} {p : α → Prop} [DecidablePred p]

theorem filterMap_guard_sublist (as : List α) :
    (as.filterMap fun a => if p a then f a else none).Sublist (as.filterMap f) := by
  induction as with
  | nil => exact List.Sublist.slnil
  | cons a as ih =>
    rw [List.filterMap_cons, List.filterMap_cons]
    by_cases ha : p a
    · rw [if_pos ha]
      cases f a with
      | none => exact ih
      | some b => exact ih.cons_cons b
    · rw [if_neg ha]
      cases f a with
      | none => exact ih
      | some b => exact ih.cons b

/-- A guarded selection misses nothing exactly when the guard lets through everything that
is selected without it. -/
theorem filterMap_guard_eq_iff (as : List α) :
    (as.filterMap fun a => if p a then f a else none) = as.filterMap f ↔
      ∀ a ∈ as, (f a).isSome = true → p a := by
  induction as with
  | nil => simp
  | cons a as ih =>
    rw [List.filterMap_cons, List.filterMap_cons, List.forall_mem_cons, ← ih]
    by_cases ha : p a
    · rw [if_pos ha]
      cases f a <;> simp [ha]
    · rw [if_neg ha]
      cases hf : f a with
      | none => simp
      | some b =>
        -- the selection with the guard is shorter
        have hle := (filterMap_guard_sublist (f := f) (p := p) as).length_le
        constructor
        · intro h
          have hlength := congrArg List.length h
          simp only [List.length_cons] at hlength
          omega
        · rintro ⟨h, -⟩
          exact absurd (h rfl) ha

end Guarded

end Groups
