import Crawl.Proofs.Action.Keeps
/-!
# What stays true under an action

A property of the state *stays* under an action when it holds of the state that the action reaches, however it ends,
wherever it held before. This is weaker than keeping a view of the state: what grows is not kept, but that something is
in it stays true. As with keeping, what stays under a composed action follows from what stays under its parts.
-/

namespace Crawl.Action

variable {σ α β : Type}

/-- A property holds after an action wherever it held before it. -/
def Stays (holds : σ → Prop) (act : Action σ α) : Prop := ∀ s, holds s → holds (stateOf (act s))

namespace Stays

variable {holds : σ → Prop}

theorem pure (a : α) : Stays holds (Pure.pure a : Action σ α) := fun _ hs => hs

theorem throw (f : Failure) : Stays holds (MonadExcept.throw f : Action σ α) := fun _ hs => hs

theorem bind {x : Action σ α} {k : α → Action σ β} (hx : Stays holds x) (hk : ∀ a, Stays holds (k a)) :
    Stays holds (x >>= k) := by
  intro s hs
  have hstay := hx s hs
  cases hr : x s with
  | ok a s' =>
      rw [hr] at hstay
      rw [bind_ok hr]
      exact hk a s' hstay
  | error f s' =>
      rw [hr] at hstay
      rw [bind_error hr]
      exact hstay

theorem ite {c : Prop} [Decidable c] {x y : Action σ α} (hx : Stays holds x) (hy : Stays holds y) :
    Stays holds (if c then x else y) := by
  split
  · exact hx
  · exact hy

theorem ofExcept (r : Except Failure α) : Stays holds (Action.ofExcept r : Action σ α) := by
  cases r with
  | ok a => exact pure a
  | error f => exact throw f

end Stays

/-! ## At an engine's desk

What holds of the engine's own state is not touched by the journal. -/

section Desk

variable {δ : Type} {holds : δ → Prop}

theorem Stays.read : Stays (holds ·.device) (Desk.read : Action (Desk δ) δ) := fun _ hs => hs

theorem Stays.note (level : Level) (source : Source) (text : String) :
    Stays (holds ·.device) (Desk.note level source text : Action (Desk δ) Unit) := fun _ hs => hs

theorem Stays.update {f : δ → δ} (h : ∀ s, holds s → holds (f s)) : Stays (holds ·.device) (Desk.update f) :=
  fun d hd => h d.device hd

end Desk

end Crawl.Action
