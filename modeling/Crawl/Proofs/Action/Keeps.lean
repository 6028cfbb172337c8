import Crawl.Action
/-!
# What an action keeps

An action ends with a value or with a failure, and the state it has reached stays in both cases. `stateOf`, `failureOf`
and `valueOf` read the three off a result, and `outcomeOf` all of it but the state. An action *keeps* a view of the state
when the view is the same before and after it, however it ends. Keeping is closed under everything actions are built
from, so what a composed action keeps follows from what its parts keep, without running it.
-/

namespace Crawl.Action

variable {σ τ α β γ : Type}

/-- The state that a result has reached. -/
def stateOf : EStateM.Result Failure σ α → σ
  | .ok _ s => s
  | .error _ s => s

/-- The failure that a result is, if it is one. -/
def failureOf : EStateM.Result Failure σ α → Option Failure
  | .ok _ _ => none
  | .error f _ => some f

/-- The value of a result, if it has one. -/
def valueOf : EStateM.Result Failure σ α → Option α
  | .ok a _ => some a
  | .error _ _ => none

/-- What a result ended with, without the state it has reached. -/
def outcomeOf : EStateM.Result Failure σ α → Except Failure α
  | .ok a _ => .ok a
  | .error f _ => .error f

theorem ok_of_outcomeOf {r : EStateM.Result Failure σ α} {a : α} (h : outcomeOf r = .ok a) : ∃ s, r = .ok a s := by
  cases r with
  | ok b s =>
      cases h
      exact ⟨s, rfl⟩
  | error f s => cases h

theorem error_of_outcomeOf {r : EStateM.Result Failure σ α} {f : Failure} (h : outcomeOf r = .error f) :
    ∃ s, r = .error f s := by
  cases r with
  | ok b s => cases h
  | error g s =>
      cases h
      exact ⟨s, rfl⟩

/-- A result with a value is that value in the state that was reached. -/
theorem ok_of_valueOf {r : EStateM.Result Failure σ α} {a : α} (h : valueOf r = some a) : r = .ok a (stateOf r) := by
  cases r with
  | ok b s =>
      cases h
      rfl
  | error f s => cases h

/-- An action keeps a view of the state when the view is the same however the action ends. -/
def Keeps (view : σ → γ) (act : Action σ α) : Prop := ∀ s, view (stateOf (act s)) = view s

namespace Keeps

variable {view : σ → γ}

theorem pure (a : α) : Keeps view (Pure.pure a : Action σ α) := fun _ => rfl

theorem throw (f : Failure) : Keeps view (MonadExcept.throw f : Action σ α) := fun _ => rfl

theorem get : Keeps view (MonadState.get : Action σ σ) := fun _ => rfl

theorem bind {x : Action σ α} {k : α → Action σ β} (hx : Keeps view x) (hk : ∀ a, Keeps view (k a)) :
    Keeps view (x >>= k) := by
  intro s
  have hs : view (stateOf (x s)) = view s := hx s
  show view (stateOf (EStateM.bind x k s)) = view s
  unfold EStateM.bind
  cases hr : x s with
  | ok a s' =>
      rw [hr] at hs
      exact (hk a s').trans hs
  | error f s' =>
      rw [hr] at hs
      exact hs

theorem ite {c : Prop} [Decidable c] {x y : Action σ α} (hx : Keeps view x) (hy : Keeps view y) :
    Keeps view (if c then x else y) := by
  split
  · exact hx
  · exact hy

theorem modifyGet {f : σ → α × σ} (h : ∀ s, view (f s).2 = view s) :
    Keeps view (MonadStateOf.modifyGet f : Action σ α) := fun s => h s

theorem modify {f : σ → σ} (h : ∀ s, view (f s) = view s) : Keeps view (modify f : Action σ PUnit) :=
  fun s => h s

/-- Work on a part of the state keeps every view that does not look at that part. -/
theorem within {get : σ → τ} {put : τ → σ → σ} (act : Action τ α) (h : ∀ t s, view (put t s) = view s) :
    Keeps view (Action.within get put act) := by
  intro s
  unfold Action.within
  split
  · exact h _ s
  · exact h _ s

theorem ofExcept (r : Except Failure α) : Keeps view (Action.ofExcept r : Action σ α) := by
  cases r with
  | ok a => exact pure a
  | error f => exact throw f

end Keeps

/-! ## Runs of composed actions -/

theorem bind_ok {x : Action σ α} {a : α} {s s' : σ} (h : x s = .ok a s') (k : α → Action σ β) :
    (x >>= k) s = k a s' := by
  show EStateM.bind x k s = k a s'
  unfold EStateM.bind
  rw [h]

theorem bind_error {x : Action σ α} {f : Failure} {s s' : σ} (h : x s = .error f s') (k : α → Action σ β) :
    (x >>= k) s = .error f s' := by
  show EStateM.bind x k s = .error f s'
  unfold EStateM.bind
  rw [h]

theorem failureOf_bind (x : Action σ α) (k : α → Action σ β) (s : σ) :
    failureOf ((x >>= k) s) = match x s with
      | .ok a s' => failureOf (k a s')
      | .error f _ => some f := by
  cases hr : x s with
  | ok a s' => rw [bind_ok hr]
  | error f s' =>
      rw [bind_error hr]
      rfl

theorem read_eq {δ : Type} (d : Desk δ) : Desk.read d = .ok d.device d := rfl

/-- Work on a part of the state changes that part as the work does. -/
theorem stateOf_within {get : σ → τ} {put : τ → σ → σ} (act : Action τ α) (s : σ) :
    stateOf (within get put act s) = put (stateOf (act (get s))) s := by
  unfold within
  cases act (get s) <;> rfl

theorem failureOf_within {get : σ → τ} {put : τ → σ → σ} (act : Action τ α) (s : σ) :
    failureOf (within get put act s) = failureOf (act (get s)) := by
  unfold within
  cases act (get s) <;> rfl

@[simp]
theorem stateOf_attempt (x : Action σ α) (s : σ) : stateOf (attempt x s) = stateOf (x s) := by
  unfold attempt
  split <;> simp only [stateOf, *]

/-- An action closed off by another one ends in the state that the second one reaches from where the first ended. -/
theorem stateOf_always (x : Action σ α) (after : Action σ Unit) (s : σ) :
    stateOf (always x after s) = stateOf (after (stateOf (x s))) := by
  unfold always
  cases x s with
  | ok a s' =>
      dsimp only [stateOf, failureOf]
      cases after s' <;> rfl
  | error f s' =>
      dsimp only [stateOf, failureOf]
      cases after s' <;> rfl

/-- A closed-off action that succeeds has succeeded twice. -/
theorem always_ok {x : Action σ α} {after : Action σ Unit} {a : α} {s s'' : σ} (h : always x after s = .ok a s'') :
    ∃ s', x s = .ok a s' ∧ after s' = .ok () s'' := by
  unfold always at h
  cases hx : x s with
  | ok a' s' =>
      rw [hx] at h
      dsimp only at h
      cases hafter : after s' with
      | ok u s₂ =>
          rw [hafter] at h
          cases h
          exact ⟨s', rfl, hafter⟩
      | error f s₂ => rw [hafter] at h; cases h
  | error f s' =>
      rw [hx] at h
      dsimp only at h
      split at h <;> cases h

theorem Keeps.always {view : σ → γ} {x : Action σ α} {after : Action σ Unit} (hx : Keeps view x) (hafter : Keeps view after) :
    Keeps view (Action.always x after) := by
  intro s
  rw [stateOf_always]
  exact (hafter _).trans (hx s)

theorem Keeps.attempt {view : σ → γ} {x : Action σ α} (hx : Keeps view x) : Keeps view (Action.attempt x) := by
  intro s
  rw [stateOf_attempt]
  exact hx s

/-- A failure of the closing action takes the place of whatever the first action ended with. -/
theorem failureOf_always (x : Action σ α) (after : Action σ Unit) (s : σ) :
    failureOf (always x after s) = (failureOf (after (stateOf (x s)))).or (failureOf (x s)) := by
  unfold always
  cases x s with
  | ok a s' =>
      dsimp only [stateOf, failureOf]
      cases after s' <;> rfl
  | error f s' =>
      dsimp only [stateOf, failureOf]
      cases after s' <;> rfl

end Crawl.Action
