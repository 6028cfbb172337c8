import Crawl.Proofs.Action.Keeps
/-!
# Actions that do the same on other states

An action *mirrors* another one through a map of states when the two end the same, from each state and from what the map
makes of it, and the map takes the state that the first has reached to the one that the second has reached. What the map
forgets then has no part in what the action does. Mirroring is closed under everything actions are built from.
-/

namespace Crawl.Action

variable {σ τ α β : Type}

/-- A result with what a map makes of the state that it has reached. -/
def through (f : σ → τ) : EStateM.Result Failure σ α → EStateM.Result Failure τ α
  | .ok a s => .ok a (f s)
  | .error e s => .error e (f s)

theorem outcomeOf_through (f : σ → τ) (r : EStateM.Result Failure σ α) : outcomeOf (through f r) = outcomeOf r := by
  cases r <;> rfl

theorem stateOf_through (f : σ → τ) (r : EStateM.Result Failure σ α) : stateOf (through f r) = f (stateOf r) := by
  cases r <;> rfl

/-- An action does, through a map of states, what another action does. -/
def Mirrors (f : σ → τ) (act : Action σ α) (act' : Action τ α) : Prop := ∀ s, through f (act s) = act' (f s)

/-- An action that goes on after another one is mirrored from a state if both parts are, the second from where the first
has got to. -/
theorem through_bind {f : σ → τ} {x : Action σ α} {x' : Action τ α} {k : α → Action σ β} {k' : α → Action τ β} {s : σ}
    (hx : through f (x s) = x' (f s)) (hk : ∀ a s', x s = .ok a s' → through f (k a s') = k' a (f s')) :
    through f ((x >>= k) s) = (x' >>= k') (f s) := by
  cases hr : x s with
  | ok a s' =>
      rw [hr] at hx
      rw [bind_ok hr, bind_ok hx.symm]
      exact hk a s' hr
  | error e s' =>
      rw [hr] at hx
      rw [bind_error hr, bind_error hx.symm]
      rfl

namespace Mirrors

variable {f : σ → τ}

theorem pure (a : α) : Mirrors f (Pure.pure a) (Pure.pure a) := fun _ => rfl

theorem throw (e : Failure) : Mirrors f (MonadExcept.throw e : Action σ α) (MonadExcept.throw e) := fun _ => rfl

theorem bind {x : Action σ α} {x' : Action τ α} {k : α → Action σ β} {k' : α → Action τ β} (hx : Mirrors f x x')
    (hk : ∀ a, Mirrors f (k a) (k' a)) : Mirrors f (x >>= k) (x' >>= k') :=
  fun s => through_bind (hx s) fun a s' _ => hk a s'

theorem ite {c : Prop} [Decidable c] {x y : Action σ α} {x' y' : Action τ α} (hx : Mirrors f x x') (hy : Mirrors f y y') :
    Mirrors f (if c then x else y) (if c then x' else y') := by
  split
  · exact hx
  · exact hy

theorem ofExcept (r : Except Failure α) : Mirrors f (Action.ofExcept r) (Action.ofExcept r) := by
  cases r with
  | ok a => exact pure a
  | error e => exact throw e

theorem always {x : Action σ α} {x' : Action τ α} {after : Action σ Unit} {after' : Action τ Unit} (hx : Mirrors f x x')
    (hafter : Mirrors f after after') : Mirrors f (Action.always x after) (Action.always x' after') := by
  intro s
  have hs := hx s
  unfold Action.always
  -- after the body both are in states that belong together, whether it has failed or not
  cases hr : x s with
  | ok a s' =>
      rw [hr] at hs
      rw [← hs]
      dsimp only [through]
      rw [← hafter s']
      cases after s' <;> rfl
  | error e s' =>
      rw [hr] at hs
      rw [← hs]
      dsimp only [through]
      rw [← hafter s']
      cases after s' <;> rfl

/-- An action on a part of the state mirrors one on that part of the other state. -/
theorem within {σ' τ' : Type} {f' : σ' → τ'} {get : σ → σ'} {put : σ' → σ → σ} {get' : τ → τ'} {put' : τ' → τ → τ}
    {act : Action σ' α} {act' : Action τ' α} (hact : Mirrors f' act act') (hget : ∀ s, get' (f s) = f' (get s))
    (hput : ∀ t s, put' (f' t) (f s) = f (put t s)) :
    Mirrors f (Action.within get put act) (Action.within get' put' act') := by
  intro s
  unfold Action.within
  rw [hget, ← hact]
  cases act (get s) with
  | ok a t => exact congrArg (EStateM.Result.ok a) (hput t s).symm
  | error e t => exact congrArg (EStateM.Result.error e) (hput t s).symm

end Mirrors

end Crawl.Action
