import Northstar.Lib.Groups
import Northstar.Proof.Localstep

/-!
# Exactness of state transitions

The states before and after a step are meant to be maps from accounts to values, and the
state after is meant to be the state before with the effects of the transaction written over
it. The check of the order compares whole values: two values of one account pass it one
after the other, and only the later one is compared with the other state.

## Main results

* `exactTransition_iff`: an accepted transition is exact exactly when no two neighbours in
  its states name the same account
-/

namespace Northstar.Proof

open Bytes Checked Northstar.Portal

/-- Neighbours name different accounts. -/
def KeysApart (accounts : List StateAccountValueV1) : Prop :=
  accounts.IsChain fun a b => a.account ≠ b.account
  deriving Decidable

/-- **The state after is the state before with the effects written over it**, and each state
has one entry for an account. -/
structure ExactTransition (pre post : List StateAccountValueV1)
    (effects : List CheckpointAccountEffectV1) : Prop where
  pre_nodup : (pre.map (·.account)).Nodup
  post_nodup : (post.map (·.account)).Nodup
  mem_post : ∀ v, v ∈ post ↔ (∃ e ∈ effects, e.deleted = false ∧ e.value = v) ∨
    (v ∈ pre ∧ v.account ∉ effects.map (·.value.account))

/-! ## Canonical lists -/

theorem isChain_of_ascending {α : Type} {order : α → List (List Nat)} {l : List α}
    (h : ascending order l = true) : l.IsChain fun a b => order a < order b := by
  induction l with
  | nil => exact List.IsChain.nil
  | cons a l ih =>
    cases l with
    | nil => exact List.IsChain.singleton a
    | cons b l =>
      rw [ascending, Bool.and_eq_true, decide_eq_true_eq] at h
      exact List.IsChain.cons_cons h.1 (ih h.2)

theorem isChain_imp₂ {α : Type} {R S T : α → α → Prop} (h : ∀ a b, R a b → S a b → T a b)
    {l : List α} (hR : l.IsChain R) (hS : l.IsChain S) : l.IsChain T := by
  induction l with
  | nil => exact List.IsChain.nil
  | cons a l ih =>
    cases l with
    | nil => exact List.IsChain.singleton a
    | cons b l =>
      rw [List.isChain_cons_cons] at hR hS
      exact List.IsChain.cons_cons (h a b hR.1 hS.1) (ih hR.2 hS.2)

theorem StateAccountValueV1.key_lt {a b : StateAccountValueV1} (h : a.order < b.order)
    (hne : a.account ≠ b.account) :
    a.account.toList.map UInt8.toNat < b.account.toList.map UInt8.toNat := by
  rcases List.cons_lt_cons_iff.mp h with hlt | ⟨heq, -⟩
  · exact hlt
  · have htoNat : Function.Injective UInt8.toNat := fun x y hxy => UInt8.toNat_inj.mp hxy
    exact absurd (toList_inj32.mp (List.map_injective_iff.mpr htoNat heq)) hne

/-- **In a canonical list whose neighbours are apart** every account has one entry. -/
theorem nodup_iff_keysApart (h : stateAccountsAreCanonical accounts = true) :
    (accounts.map (·.account)).Nodup ↔ KeysApart accounts := by
  rw [stateAccountsAreCanonical, Bool.and_eq_true] at h
  have hchain := isChain_of_ascending h.2
  constructor
  · intro hnodup
    exact (List.pairwise_map.mp hnodup).isChain
  · intro hapart
    have hkeys : accounts.IsChain fun a b : StateAccountValueV1 =>
        a.account.toList.map UInt8.toNat < b.account.toList.map UInt8.toNat := by
      exact isChain_imp₂ (fun a b hlt hne => StateAccountValueV1.key_lt hlt hne) hchain hapart
    have hpairwise := List.isChain_iff_pairwise.mp hkeys
    refine List.pairwise_map.mpr (hpairwise.imp ?_)
    intro a b hlt heq
    rw [heq] at hlt
    exact lt_irrefl _ hlt

theorem stateMap_eq_some (h : (accounts.map (·.account)).Nodup) :
    stateMap accounts key = some v ↔ v ∈ accounts ∧ v.account = key := by
  unfold stateMap
  constructor
  · intro hfind
    refine ⟨List.mem_reverse.mp (List.mem_of_find?_eq_some hfind), ?_⟩
    simpa using List.find?_some hfind
  · rintro ⟨hmem, rfl⟩
    have hnodup : (accounts.reverse.map (·.account)).Nodup := by
      rw [List.map_reverse, List.nodup_reverse]
      exact h
    exact Groups.find?_of_nodup hnodup (List.mem_reverse.mpr hmem)

/-! ## Accepted transitions -/

section Accepted

variable {sha256 : Digest}

/-- The state after a checked transition, entry by entry. -/
theorem TransitionChecks.mem_post (h : TransitionChecks sha256 pre post effects executionPre)
    (hpre : (pre.map (·.account)).Nodup) (hpost : (post.map (·.account)).Nodup)
    (v : StateAccountValueV1) :
    v ∈ post ↔ (∃ e ∈ effects, e.deleted = false ∧ e.value = v) ∨
      (v ∈ pre ∧ v.account ∉ effects.map (·.value.account)) := by
  constructor
  · intro hv
    have hlookup : stateMap post v.account = some v := (stateMap_eq_some hpost).mpr ⟨hv, rfl⟩
    by_cases hkey : v.account ∈ effects.map (·.value.account)
    · -- an account of the effects has the value that was written
      obtain ⟨e, he, heq⟩ := List.mem_map.mp hkey
      rw [← heq] at hlookup
      cases hdeleted : e.deleted with
      | true =>
        rw [(h.deleted e he hdeleted).2] at hlookup
        cases hlookup
      | false =>
        rw [h.written e he hdeleted] at hlookup
        exact .inl ⟨e, he, hdeleted, Option.some.inj hlookup⟩
    · refine .inr ⟨?_, hkey⟩
      have hmem : v.account ∈ pre.map (·.account) ++ post.map (·.account) :=
        List.mem_append_right _ (List.mem_map_of_mem hv)
      rw [← h.kept _ hmem hkey, stateMap_eq_some hpre] at hlookup
      exact hlookup.1
  · rintro (⟨e, he, hdeleted, rfl⟩ | ⟨hv, hkey⟩)
    · exact ((stateMap_eq_some hpost).mp (h.written e he hdeleted)).1
    · have hmem : v.account ∈ pre.map (·.account) ++ post.map (·.account) :=
        List.mem_append_left _ (List.mem_map_of_mem hv)
      have hlookup : stateMap pre v.account = some v := (stateMap_eq_some hpre).mpr ⟨hv, rfl⟩
      rw [h.kept _ hmem hkey, stateMap_eq_some hpost] at hlookup
      exact hlookup.1

end Accepted

/-- **An accepted transition is exact exactly when the states name every account once**: for
that it is enough that neighbours name different accounts. -/
theorem exactTransition_iff {sha256 : Digest} {w : ReplayWitnessV1}
    {inputs : CheckpointPublicInputsV1} (h : verifyCheckpointBinding sha256 w = .ok inputs) :
    ExactTransition w.checkpoint.preStateAccounts w.checkpoint.postStateAccounts
        (expectedEffects sha256 w.stepIndex.toUInt32 w.postAccounts) ↔
      KeysApart w.checkpoint.preStateAccounts ∧ KeysApart w.checkpoint.postStateAccounts := by
  obtain ⟨stepIndex, effect, hchecks⟩ := verifyCheckpointBinding_ok h
  have hindex : w.stepIndex.toUInt32 = stepIndex := by
    have hsome := hchecks.stepIndex_eq
    unfold tryU32 at hsome
    split at hsome
    · exact Option.some.inj hsome
    · cases hsome
  have heffects : effect.accountEffects = expectedEffects sha256 stepIndex w.postAccounts := by
    rw [hchecks.effect_eq]
  have htransition := hchecks.transition
  rw [heffects] at htransition
  rw [hindex]
  constructor
  · intro hexact
    exact ⟨(nodup_iff_keysApart hchecks.pre_canonical).mp hexact.pre_nodup,
      (nodup_iff_keysApart hchecks.post_canonical).mp hexact.post_nodup⟩
  · rintro ⟨hpre, hpost⟩
    have hpre := (nodup_iff_keysApart hchecks.pre_canonical).mpr hpre
    have hpost := (nodup_iff_keysApart hchecks.post_canonical).mpr hpost
    exact ⟨hpre, hpost, htransition.mem_post hpre hpost⟩

/-- The states of the local step name the payer and the target once. -/
theorem exactTransition_iff_local :
    ExactTransition (LocalStep.witness {}).checkpoint.preStateAccounts
      (LocalStep.witness {}).checkpoint.postStateAccounts
      (expectedEffects localHash 0 (LocalStep.witness {}).postAccounts) := by
  have haccepted : (verifyCheckpointBinding localHash (LocalStep.witness {})).toOption.isSome =
      true := by decide +kernel
  obtain ⟨inputs, hinputs⟩ := Option.isSome_iff_exists.mp haccepted
  exact (exactTransition_iff (toOption_eq_some.mp hinputs)).mpr (by decide +kernel)

/-- An account that the transaction does not touch, with some lamports. -/
def localBystander (lamports : UInt64) : StateAccountValueV1 where
  account := tagged 29 []
  owner := zero32
  lamports
  executable := false
  rentEpoch := 0
  dataHash := tagged 1 []

/-- A step whose state before has two entries for one account. -/
def localDouble : LocalStep :=
  { pre := [localBystander 1, localBystander 2], post := [localBystander 2] }

/-- **A state with two entries for one account is accepted**: account 29 has one lamport and
two lamports before the step. -/
theorem double_entry_accepted :
    (verifyCheckpointBinding localHash localDouble.witness).toOption.isSome = true ∧
      localBystander 1 ∈ localDouble.witness.checkpoint.preStateAccounts ∧
      localBystander 2 ∈ localDouble.witness.checkpoint.preStateAccounts ∧
      ¬ExactTransition localDouble.witness.checkpoint.preStateAccounts
        localDouble.witness.checkpoint.postStateAccounts
        (expectedEffects localHash 0 localDouble.witness.postAccounts) := by
  refine ⟨by decide +kernel, by decide +kernel, by decide +kernel, ?_⟩
  intro hexact
  have hdouble : ¬(localDouble.witness.checkpoint.preStateAccounts.map (·.account)).Nodup := by
    decide +kernel
  exact hdouble hexact.pre_nodup

end Northstar.Proof
