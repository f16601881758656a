import Mathlib.Tactic
import Mathlib.Data.Set.Function

/-!
# Hash chains

A transcript is hashed entry by entry: each entry is framed together with the digest so
far, and the frame is hashed. When the hash has no collision on the frames of two
transcripts, their digests agree only if the transcripts do, whatever their lengths,
because the chain starts from the hash of a message that is no frame.

## Main definitions

* `link`, `chain`: hashing one entry, and a transcript
* `messages`: everything a transcript hashes

## Main results

* `chain_inj`, `chain_injective`: equal digests have equal transcripts
-/

namespace HashChain

variable {H E M : Type*} (hash : M → H) (frame : H → E → M)

/-- The digest after one more entry. -/
def link (h : H) (e : E) : H := hash (frame h e)

/-- **Chain**: the digest after a transcript. -/
def chain (h : H) (es : List E) : H := es.foldl (link hash frame) h

/-- The messages that a transcript hashes. -/
def messages : H → List E → List M
  | _, [] => []
  | h, e :: es => frame h e :: messages (link hash frame h e) es

variable {hash frame}

@[simp] theorem chain_nil (h : H) : chain hash frame h [] = h := rfl

@[simp] theorem chain_cons (h : H) (e : E) (es : List E) :
    chain hash frame h (e :: es) = chain hash frame (link hash frame h e) es := rfl

theorem chain_append (h : H) (es es' : List E) :
    chain hash frame h (es ++ es') = chain hash frame (chain hash frame h es) es' :=
  List.foldl_append

theorem messages_append (h : H) (es es' : List E) : messages hash frame h (es ++ es') =
    messages hash frame h es ++ messages hash frame (chain hash frame h es) es' := by
  induction es generalizing h with
  | nil => rfl
  | cons e es ih => simp [messages, ih]

/-- **A chain binds its transcript and its start**, when the hash does not collide on what
is hashed and never returns a start. -/
theorem chain_inj (hframe : Function.Injective2 frame) {S : Set M} (hinj : Set.InjOn hash S)
    {h h' : H} {es es' : List E} (hstart : ∀ m ∈ S, hash m ≠ h ∧ hash m ≠ h')
    (hes : ∀ m ∈ messages hash frame h es, m ∈ S) (hes' : ∀ m ∈ messages hash frame h' es', m ∈ S)
    (heq : chain hash frame h es = chain hash frame h' es') : h = h' ∧ es = es' := by
  -- the last entries are hashed together with the digests before them
  induction es using List.reverseRecOn generalizing es' with
  | nil =>
    rcases List.eq_nil_or_concat' es' with rfl | ⟨es', e', rfl⟩
    · exact ⟨heq, rfl⟩
    · rw [chain_append] at heq
      rw [messages_append] at hes'
      exact absurd heq.symm (hstart _ (hes' _ (by simp [messages]))).1
  | append_singleton es e ih =>
    rw [chain_append] at heq
    rw [messages_append] at hes
    rcases List.eq_nil_or_concat' es' with rfl | ⟨es', e', rfl⟩
    · exact absurd heq (hstart _ (hes _ (by simp [messages]))).2
    · rw [chain_append] at heq
      rw [messages_append] at hes'
      obtain ⟨hdigest, rfl⟩ :=
        hframe (hinj (hes _ (by simp [messages])) (hes' _ (by simp [messages])) heq)
      obtain ⟨rfl, rfl⟩ :=
        ih (fun m hm => hes m (by simp [hm])) (fun m hm => hes' m (by simp [hm])) hdigest
      exact ⟨rfl, rfl⟩

/-- From the hash of a message that is no frame, equal digests have equal transcripts. -/
theorem chain_injective (hframe : Function.Injective2 frame) {start : M}
    (hstart : ∀ h e, frame h e ≠ start) {es es' : List E} {S : Set M} (hinj : Set.InjOn hash S)
    (hmem : start ∈ S) (hes : ∀ m ∈ messages hash frame (hash start) es, m ∈ S)
    (hes' : ∀ m ∈ messages hash frame (hash start) es', m ∈ S)
    (h : chain hash frame (hash start) es = chain hash frame (hash start) es') : es = es' := by
  have hframes : ∀ h es, ∀ m ∈ messages hash frame h es, m ≠ start := by
    intro h es
    induction es generalizing h with
    | nil => simp [messages]
    | cons e es ih => simpa [messages, hstart] using ih _
  have hne : ∀ m ∈ S \ {start}, hash m ≠ hash start := fun m hm heq => hm.2 (hinj hm.1 hmem heq)
  exact (chain_inj hframe (hinj.mono Set.sdiff_subset) (fun m hm => ⟨hne m hm, hne m hm⟩)
    (fun m hm => ⟨hes m hm, hframes _ _ m hm⟩) (fun m hm => ⟨hes' m hm, hframes _ _ m hm⟩) h).2

end HashChain
