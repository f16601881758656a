import Northstar.Game.SideFrames

/-!
# The board of the game

The board is what the checkpoint game consists of: for every account of the game the record
it holds, if any. Instructions of the game are followed as updates of the board, together
with what they do to lamports.

## Main definitions

* `Board`, `boardOf`: the records of the game, and those of a ledger
* `Track`: a step that updates the board by a given function
* `Gains`: a step that takes no lamports from the game

## Main results

* `boardOf_checkpoint` and its siblings: the board agrees with the loaders
* `Track.trans`, `track_setData`, `track_initializePdaAccount`: steps compose
-/

namespace Northstar.Portal

open Bytes Checked Ledger

/-- The record that belongs into an account of the game. -/
def Holds (env : Env) : GameAccount → AccountData → Prop
  | .feeVault, .feeVault _ => True
  | .cursor, .cursor c => c.session = env.address .session
  | .checkpoint e, .checkpoint c => c.session = env.address .session ∧ c.erSlot = e
  | .challenge e, .challenge c => c.checkpoint = env.address (.checkpoint e)
  | .daProof e, .daProof d =>
    d.challenge = env.address (.challenge e) ∧ d.checkpoint = env.address (.checkpoint e)
  | .stepProof e, .stepProof p => p.checkpoint = env.address (.checkpoint e)
  | _, _ => False

/-- **Board**: the record each account of the game holds, if any. The session stands on it
with its policy only. -/
def Board := GameAccount → Option AccountData

open Classical in
/-- The board of a ledger. -/
noncomputable def boardOf (env : Env) (L : Ledger) : Board
  | .session => (policyOf (L (env.address .session)).data).map .session
  | g =>
    if (L (env.address g)).owner = env.programId ∧ Holds env g (L (env.address g)).data then
      some (L (env.address g)).data
    else none

namespace AccountData

/-! ## Reading a record -/

def asSession : AccountData → Option Session
  | .session state => some state
  | _ => none

def asCursor : AccountData → Option CheckpointCursor
  | .cursor state => some state
  | _ => none

def asCheckpoint : AccountData → Option Checkpoint
  | .checkpoint state => some state
  | _ => none

def asChallenge : AccountData → Option Challenge
  | .challenge state => some state
  | _ => none

def asDaProof : AccountData → Option DataAvailabilityProof
  | .daProof state => some state
  | _ => none

def asStepProof : AccountData → Option StepProofAccount
  | .stepProof state => some state
  | _ => none

end AccountData

open AccountData

namespace Board

/-- The board with the record of one account replaced. -/
def put (B : Board) (g : GameAccount) (d : AccountData) : Board := Function.update B g (some d)

/-- The board with one account emptied. -/
def clear (B : Board) (g : GameAccount) : Board := Function.update B g none

def session (B : Board) : Option Session := (B .session).bind asSession

def cursor (B : Board) : Option CheckpointCursor := (B .cursor).bind asCursor

def checkpoint (B : Board) (e : UInt64) : Option Checkpoint :=
  (B (.checkpoint e)).bind asCheckpoint

def challenge (B : Board) (e : UInt64) : Option Challenge :=
  (B (.challenge e)).bind asChallenge

def daProof (B : Board) (e : UInt64) : Option DataAvailabilityProof :=
  (B (.daProof e)).bind asDaProof

def stepProof (B : Board) (e : UInt64) : Option StepProofAccount :=
  (B (.stepProof e)).bind asStepProof

/-! ## Reading an updated board -/

section Updates

variable (B : Board) (g g' : GameAccount) (d : AccountData) (e : UInt64)

theorem put_apply : B.put g d g' = if g' = g then some d else B g' := Function.update_apply ..

theorem clear_apply : B.clear g g' = if g' = g then none else B g' := Function.update_apply ..

@[simp] theorem session_put : (B.put g d).session =
    if .session = g then d.asSession else B.session := by
  rw [session, put_apply]
  split <;> rfl

@[simp] theorem cursor_put : (B.put g d).cursor =
    if .cursor = g then d.asCursor else B.cursor := by
  rw [cursor, put_apply]
  split <;> rfl

@[simp] theorem cursor_clear : (B.clear g).cursor = if .cursor = g then none else B.cursor := by
  rw [cursor, clear_apply]
  split <;> rfl

@[simp] theorem checkpoint_put : (B.put g d).checkpoint e =
    if (.checkpoint e) = g then d.asCheckpoint else B.checkpoint e := by
  rw [checkpoint, put_apply]
  split <;> rfl

@[simp] theorem checkpoint_clear :
    (B.clear g).checkpoint e = if (.checkpoint e) = g then none else B.checkpoint e := by
  rw [checkpoint, clear_apply]
  split <;> rfl

@[simp] theorem challenge_put : (B.put g d).challenge e =
    if (.challenge e) = g then d.asChallenge else B.challenge e := by
  rw [challenge, put_apply]
  split <;> rfl

@[simp] theorem challenge_clear :
    (B.clear g).challenge e = if (.challenge e) = g then none else B.challenge e := by
  rw [challenge, clear_apply]
  split <;> rfl

@[simp] theorem daProof_put : (B.put g d).daProof e =
    if (.daProof e) = g then d.asDaProof else B.daProof e := by
  rw [daProof, put_apply]
  split <;> rfl

@[simp] theorem daProof_clear :
    (B.clear g).daProof e = if (.daProof e) = g then none else B.daProof e := by
  rw [daProof, clear_apply]
  split <;> rfl

end Updates

end Board

/-! ## The board of a ledger -/

theorem boardOf_eq_some (hg : g ≠ .session) : boardOf env L g = some d ↔
    (L (env.address g)).owner = env.programId ∧ (L (env.address g)).data = d ∧ Holds env g d := by
  have hboard : boardOf env L g =
      open Classical in
      if (L (env.address g)).owner = env.programId ∧ Holds env g (L (env.address g)).data then
        some (L (env.address g)).data
      else none := by
    cases g <;> first | rfl | exact absurd rfl hg
  rw [hboard]
  constructor
  · intro h
    split at h
    · rename_i hholds
      cases h
      exact ⟨hholds.1, rfl, hholds.2⟩
    · cases h
  · rintro ⟨howner, rfl, hholds⟩
    rw [if_pos ⟨howner, hholds⟩]

/-- Off the session, the board of an account depends on its data and owner. -/
theorem boardOf_congr (hg : g ≠ .session)
    (hdata : (L' (env.address g)).data = (L (env.address g)).data)
    (howner : (L' (env.address g)).owner = (L (env.address g)).owner) :
    boardOf env L' g = boardOf env L g := by
  ext d
  rw [boardOf_eq_some hg, boardOf_eq_some hg, hdata, howner]

theorem boardOf_session (L : Ledger) : (boardOf env L).session =
    policyOf (L (env.address .session)).data := by
  show ((policyOf (L (env.address .session)).data).map session).bind
    asSession = _
  cases policyOf (L (env.address .session)).data <;> rfl

/-- An account of the board holds the record read off it. -/
theorem boardOf_bind_eq_some {α : Type} {read : AccountData → Option α} {m : α → AccountData}
    (hread : ∀ d a, read d = some a → d = m a) (hmake : ∀ a, read (m a) = some a)
    (hg : g ≠ .session) {a : α} : (boardOf env L g).bind read = some a ↔
      (L (env.address g)).owner = env.programId ∧ (L (env.address g)).data = m a ∧
        Holds env g (m a) := by
  rw [Option.bind_eq_some_iff]
  constructor
  · rintro ⟨d, hd, ha⟩
    obtain rfl := hread d a ha
    exact (boardOf_eq_some hg).mp hd
  · intro h
    exact ⟨m a, (boardOf_eq_some hg).mpr h, hmake a⟩

theorem boardOf_cursor : (boardOf env L).cursor = cursorOf env L := by
  ext c
  rw [cursorOf_eq_some]
  refine boardOf_bind_eq_some (m := .cursor) (fun d a h => ?_) (fun _ => rfl) (by simp)
  cases d <;> cases h
  rfl

theorem boardOf_checkpoint : (boardOf env L).checkpoint e = checkpointOf env L e := by
  ext c
  rw [checkpointOf_eq_some]
  refine boardOf_bind_eq_some (m := .checkpoint) (fun d a h => ?_) (fun _ => rfl) (by simp)
  cases d <;> cases h
  rfl

theorem boardOf_challenge : (boardOf env L).challenge e = challengeOf env L e := by
  ext c
  rw [challengeOf_eq_some]
  refine boardOf_bind_eq_some (m := .challenge) (fun d a h => ?_) (fun _ => rfl) (by simp)
  cases d <;> cases h
  rfl

theorem boardOf_daProof : (boardOf env L).daProof e = daProofOf env L e := by
  ext c
  rw [daProofOf_eq_some]
  refine boardOf_bind_eq_some (m := .daProof) (fun d a h => ?_) (fun _ => rfl) (by simp)
  cases d <;> cases h
  rfl

theorem boardOf_stepProof : (boardOf env L).stepProof e = stepProofOf env L e := by
  ext c
  rw [stepProofOf_eq_some]
  refine boardOf_bind_eq_some (m := .stepProof) (fun d a h => ?_) (fun _ => rfl) (by simp)
  cases d <;> cases h
  rfl

/-! ## Steps -/

/-- **Track**: a step that updates the board by `f`, writes no account of the game outside
`T` but the session, delegates no account of the game and keeps what the accounts of `S`
hold together. -/
structure Track (env : Env) (S : Finset Pubkey) (T : Set GameAccount) (f : Board → Board)
    (L L' : Ledger) : Prop where
  board : boardOf env L' = f (boardOf env L)
  untouched : ∀ g, g ∉ T → g ≠ .session →
    (L' (env.address g)).data = (L (env.address g)).data ∧
      (L' (env.address g)).owner = (L (env.address g)).owner
  undelegated : Undelegated env L → Undelegated env L'
  total : L'.total S = L.total S

/-- No account of the game loses lamports. -/
def Gains (env : Env) (L L' : Ledger) : Prop :=
  ∀ g, (L (env.address g)).lamports ≤ (L' (env.address g)).lamports

section Tracks

variable {S : Finset Pubkey} {T T' : Set GameAccount} {f f' : Board → Board}

theorem Frame.track (h : Frame env S L L') : Track env S ∅ id L L' where
  board := by
    funext g
    by_cases hg : g = .session
    · subst hg
      exact congrArg (Option.map session) h.policy
    · exact boardOf_congr hg (h.data g hg) (h.owner g)
  untouched g _ hg := ⟨h.data g hg, h.owner g⟩
  undelegated := h.undelegated
  total := h.total

theorem Track.trans (h : Track env S T f L₁ L₂) (h' : Track env S T' f' L₂ L₃) :
    Track env S (T ∪ T') (fun B => f' (f B)) L₁ L₃ where
  board := by rw [h'.board, h.board]
  untouched g hg hs := by
    rw [Set.mem_union, not_or] at hg
    obtain ⟨hdata, howner⟩ := h.untouched g hg.1 hs
    obtain ⟨hdata', howner'⟩ := h'.untouched g hg.2 hs
    exact ⟨hdata'.trans hdata, howner'.trans howner⟩
  undelegated hu := h'.undelegated (h.undelegated hu)
  total := h'.total.trans h.total

/-- A step may be described by any update that agrees on the board it starts from. -/
theorem Track.congr (h : Track env S T f L L') (hT : T ⊆ T')
    (hf : f (boardOf env L) = f' (boardOf env L)) : Track env S T' f' L L' where
  board := h.board.trans hf
  untouched g hg := h.untouched g fun hmem => hg (hT hmem)
  undelegated := h.undelegated
  total := h.total

theorem Track.refl (env : Env) (S : Finset Pubkey) (L : Ledger) : Track env S ∅ id L L :=
  (Frame.refl env S L).track

/-- The accounts of the game are no delegation records of the game. -/
theorem Env.Lawful.record_ne (hl : env.Lawful) (g g' : GameAccount) :
    (findDelegationRecordPda env (env.address g)).1 ≠ env.address g' :=
  (hl.address_ne_side g' _ (.delegation _)).symm

/-- What writing one account of the game means for the rest, whatever is written. -/
theorem track_of_setData (hl : env.Lawful)
    (hboard : boardOf env (L.setData (env.address g) d) g = f (boardOf env L) g)
    (hf : ∀ B g', g' ≠ g → f B g' = B g') :
    Track env S {g} f L (L.setData (env.address g) d) where
  board := by
    funext g'
    by_cases heq : g' = g
    · rw [heq, hboard]
    · have haddress : env.address g' ≠ env.address g := hl.address_inj.not.mpr heq
      rw [hf _ _ heq]
      by_cases hg' : g' = .session
      · subst hg'
        show (policyOf _).map session = (policyOf _).map session
        rw [setData_data, if_neg haddress]
      · refine boardOf_congr hg' ?_ (by simp)
        rw [setData_data, if_neg haddress]
  untouched g' hg' _ := by
    rw [setData_data, if_neg (hl.address_inj.not.mpr hg'), setData_owner]
    exact ⟨rfl, rfl⟩
  undelegated hu g' r := by
    rw [setData_data, if_neg (hl.record_ne g' g)]
    exact hu g' r
  total := by simp

/-- A record written to an account of the game that Portal owns. -/
theorem track_setData (hl : env.Lawful) (hg : g ≠ .session)
    (howner : (L (env.address g)).owner = env.programId) (hd : Holds env g d) :
    Track env S {g} (fun B => B.put g d) L (L.setData (env.address g) d) := by
  refine track_of_setData hl ?_ fun B g' hne => ?_
  · rw [Board.put_apply, if_pos rfl, boardOf_eq_some hg, setData_data, if_pos rfl, setData_owner]
    exact ⟨howner, rfl, hd⟩
  · rw [Board.put_apply, if_neg hne]

/-- Another record written after a step. -/
theorem Track.write (h : Track env S T f L L₁) (hl : env.Lawful) (hg : g ≠ .session)
    (howner : (L₁ (env.address g)).owner = env.programId) (hd : Holds env g d) :
    Track env S (T ∪ {g}) (fun B => (f B).put g d) L (L₁.setData (env.address g) d) :=
  h.trans (track_setData hl hg howner hd)

/-- A session written with its policy. -/
theorem track_setSession (hl : env.Lawful) (hd : policyOf d = some s) :
    Track env S {.session} (fun B => B.put .session (.session s)) L
      (L.setData (env.address .session) d) := by
  refine track_of_setData hl ?_ fun B g' hne => ?_
  · rw [Board.put_apply, if_pos rfl]
    show (policyOf _).map session = _
    rw [setData_data, if_pos rfl, hd]
    rfl
  · rw [Board.put_apply, if_neg hne]

/-- An account of the game that is created holds no record yet. -/
theorem track_initializePdaAccount (hl : env.Lawful)
    (h : initializePdaAccount env L payer (env.address g) lamports space = .ok L')
    (hpayer : Named env S payer) (hS : env.address g ∈ S) :
    Track env S {g} (fun B => B.clear g) L L' where
  board := by
    have hdata : (L' (env.address g)).data = .raw (List.replicate space 0) := by
      obtain ⟨-, -, L₁, -, rfl⟩ := initializePdaAccount_ok h
      simp [setData_data]
    funext g'
    rw [Board.clear_apply]
    split
    · rename_i heq
      subst heq
      by_cases hg : g' = .session
      · subst hg
        show (policyOf _).map session = none
        rw [hdata]
        rfl
      · rw [Option.eq_none_iff_forall_ne_some]
        intro d hd
        obtain ⟨-, hd, hholds⟩ := (boardOf_eq_some hg).mp hd
        rw [← hd, hdata] at hholds
        cases g' <;> exact hholds
    · rename_i hne
      have haddress : env.address g' ≠ env.address g := hl.address_inj.not.mpr hne
      by_cases hg' : g' = .session
      · subst hg'
        show (policyOf _).map session = (policyOf _).map session
        rw [initializePdaAccount_data h haddress]
      · refine boardOf_congr hg' (initializePdaAccount_data h haddress) ?_
        rw [initializePdaAccount_owner h, if_neg haddress]
  untouched g' hg' _ := by
    have haddress : env.address g' ≠ env.address g := hl.address_inj.not.mpr hg'
    exact ⟨initializePdaAccount_data h haddress, by
      rw [initializePdaAccount_owner h, if_neg haddress]⟩
  undelegated hu g' r := by
    rw [initializePdaAccount_data h (hl.record_ne g' g)]
    exact hu g' r
  total := initializePdaAccount_total h hpayer.mem hS

/-! ## Balances -/

theorem Gains.refl (env : Env) (L : Ledger) : Gains env L L := fun _ => UInt64.le_refl _

theorem Gains.trans (h : Gains env L₁ L₂) (h' : Gains env L₂ L₃) : Gains env L₁ L₃ :=
  fun g => UInt64.le_trans (h g) (h' g)

theorem gains_setData (a : Pubkey) : Gains env L (L.setData a d) := by
  intro g
  simp

theorem gains_systemTransfer (h : systemTransfer L source dest amount = .ok L')
    (hsource : Named env S source) :
    Gains env L L' := by
  intro g
  have hsigner := hsource.signer (systemTransfer_ok h).1
  exact systemTransfer_lamports_le h (aside_of_not_derived hsigner g)

theorem gains_initializePdaAccount
    (h : initializePdaAccount env L payer pda lamports space = .ok L')
    (hpayer : Named env S payer) :
    Gains env L L' := by
  obtain ⟨-, -, L₁, ⟨rfl, -⟩ | ⟨m, -, hm⟩, rfl⟩ := initializePdaAccount_ok h
  · intro g
    simp
  · intro g
    simpa using gains_systemTransfer hm hpayer g

end Tracks

end Northstar.Portal
