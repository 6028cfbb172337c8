import Crawl.Proofs.Session.Closed
import Crawl.Proofs.Session.Scopes
import Crawl.Proofs.Session.Program
/-!
# Entries, called and entered

An entry can be called with a block, or entered before the block and left after it. The open uses that an entry keeps
for the second form are its own affair: no operation of a session looks at them, so a block does the same whatever they
are (`Blind`). From this it follows that a use of an entry around a block is the call of the entry with that block,
action for action, and that what holds of a session's operations holds of whole programs (`Closed.program`).
-/

namespace Crawl.Session

open Crawl.Action (stateOf failureOf bind_ok bind_error)

variable {δ ν τ α β : Type}

/-! ## Blocks do not see the open uses of entries -/

/-- A result with another state in its place. -/
def onResult {σ : Type} (f : σ → σ) : EStateM.Result Failure σ α → EStateM.Result Failure σ α
  | .ok a s => .ok a (f s)
  | .error e s => .error e (f s)

/-- An action does the same whatever the open uses of entries are, and leaves them as they are. -/
def Blind (act : Action (Session δ ν τ) α) : Prop :=
  ∀ s uses, act (s.withUses uses) = onResult (·.withUses uses) (act s)

theorem Blind.entered {act : Action (Session δ ν τ) α} (h : Blind act) (s : Session δ ν τ) :
    (stateOf (act s)).entered = s.entered := by
  have hs : act s = onResult (·.withUses s.entered) (act s) := h s s.entered
  rw [hs]
  cases act s <;> rfl

/-- Work on a part of the session that has nothing to do with entries. -/
theorem blind_within {ρ : Type} {get : Session δ ν τ → ρ} {put : ρ → Session δ ν τ → Session δ ν τ} (act : Action ρ α)
    (hget : ∀ s uses, get (s.withUses uses) = get s)
    (hput : ∀ r s uses, put r (s.withUses uses) = (put r s).withUses uses) : Blind (Action.within get put act) := by
  intro s uses
  unfold Action.within
  rw [hget]
  cases act (get s) with
  | ok a r => exact congrArg (EStateM.Result.ok a) (hput r s uses)
  | error f r => exact congrArg (EStateM.Result.error f) (hput r s uses)

theorem blind_onDesk (act : Action (Desk δ) α) : Blind (onDesk act : Action (Session δ ν τ) α) :=
  blind_within act (fun _ _ => rfl) fun _ _ _ => rfl

/-- Being blind to the open uses is kept by everything that operations are built from. -/
theorem blind_closed (E : Engine δ ν) : Closed E (@Blind δ ν τ) where
  pure _ := fun _ _ => rfl
  throw _ := fun _ _ => rfl
  bind := by
    intro α β x k hx hk s uses
    have hs := hx s uses
    cases hr : x s with
    | ok a s' =>
        rw [hr] at hs
        rw [bind_ok hs, bind_ok hr]
        exact hk a s' uses
    | error f s' =>
        rw [hr] at hs
        rw [bind_error hs, bind_error hr]
        rfl
  always := by
    intro α x after hx hafter s uses
    have hs := hx s uses
    unfold Action.always
    cases hr : x s with
    | ok a s' =>
        rw [hr] at hs
        have hs' := hafter s' uses
        simp only [hs, onResult]
        rw [hs']
        cases after s' <;> rfl
    | error f s' =>
        rw [hr] at hs
        have hs' := hafter s' uses
        simp only [hs, onResult]
        rw [hs']
        cases after s' <;> rfl
  attempt := by
    intro α x hx s uses
    unfold Action.attempt
    rw [hx s uses]
    cases x s <;> rfl
  step := by
    intro α f hf s uses
    show (match f (s.withUses uses) with | (a, s) => EStateM.Result.ok a s) = _
    rw [hf.uses]
    rfl
  note _ _ _ := blind_onDesk _
  call _ _ := blind_onDesk _

variable [DecidableEq ν] (E : Engine δ ν)

/-- **Used is called.** Entering an entry, running a block and leaving the entry again is calling the entry with the
block, if the block is blind to the open uses of entries. -/
theorem use_eq_call (entry : ScopedEntry) {block : Block δ ν τ α} (hb : ∀ n, Blind (block n)) :
    entry.use E block = entry.call E block := by
  funext s
  cases hr : resolveHere E entry.processor s with
  | error f s₁ =>
      have henter : entry.enter E s = .error f s₁ := bind_error hr _
      rw [ScopedEntry.use, bind_error henter]
      exact (bind_error hr _).symm
  | ok node s₁ =>
      obtain ⟨s₂, hpush, -⟩ := pushFront_eq E node s₁
      have henter : entry.enter E s =
          .ok node (s₂.withUses (replaceUses entry (node :: s₂.entered entry.serial) s₂.entered)) := by
        rw [ScopedEntry.enter, bind_ok hr, bind_ok hpush]
        rfl
      rw [ScopedEntry.use, bind_ok henter, ScopedEntry.call, runScoped, bind_ok hr, inScope, bind_ok hpush]
      -- the block runs the same with and without the new use, which is again the latest one when it has ended
      have hexit (s₃ : Session δ ν τ) (h : s₃.entered = s₂.entered) :
          entry.exit E (s₃.withUses (replaceUses entry (node :: s₂.entered entry.serial) s₂.entered)) =
            leave E node s₃ := by
        rw [exit_eq E entry (replaceUses_self _ _ _), ← h]
        show leave E node { s₃ with entered := replaceUses entry _ (replaceUses entry _ _) } = _
        rw [replaceUses_restore]
      have hentered := (hb node).entered s₂
      unfold Action.always
      rw [hb node]
      cases hblock : block node s₂ with
      | ok a s₃ =>
          rw [hblock] at hentered
          simp only [onResult]
          rw [hexit s₃ hentered]
      | error f s₃ =>
          rw [hblock] at hentered
          simp only [onResult]
          rw [hexit s₃ hentered]

/-! ## Programs -/

/-- The deeds that are no operations of the session alone: work of the host, looks at the session, work at the engine's
desk, and closing. -/
def Deed.Special : Deed δ ν τ α → Prop
  | .host _ => True
  | .observe _ => True
  | .engine _ => True
  | .close _ => True
  | _ => False

omit [DecidableEq ν] in
/-- A closed property holds of every deed if it holds of the special ones. -/
theorem Closed.deed {E : Engine δ ν} {P : ∀ {α : Type}, Action (Session δ ν τ) α → Prop} (h : Closed E P)
    (d : Deed δ ν τ α) (hd : d.Special → P (d.run E)) : P (d.run E) := by
  cases d with
  | host act => exact hd trivial
  | observe look => exact hd trivial
  | engine act => exact hd trivial
  | close owned => exact hd trivial
  | describe target document => exact h.describe target document
  | navigateTo url => exact h.navigateTo url
  | entryFor p => exact h.entryFor p
  | resolve p scope => exact h.resolve p scope
  | resolveList p scope => exact h.resolveList p scope
  | resolveFrom p => exact h.resolveFrom p
  | front => exact h.front
  | typeIn text => exact h.typeIn text
  | click => exact h.click
  | textOf node => exact h.textOf node
  | attributeOf name node => exact h.attributeOf name node

/-- A closed property that is kept by uses of entries holds of every program if it holds of all its deeds. -/
theorem Closed.program {E : Engine δ ν} {P : ∀ {α : Type}, Action (Session δ ν τ) α → Prop} (h : Closed E P)
    (huse : ∀ {α : Type} (entry : ScopedEntry) {block : Block δ ν τ α}, (∀ n, P (block n)) → P (entry.use E block))
    {m : Program δ ν τ α} (hm : m.AllDeeds fun d => P (d.run E)) : P (m.run E) := by
  induction m with
  | deed d => exact hm
  | bind m k ihm ihk => exact h.bind (ihm hm.1) fun a => ihk a (hm.2 a)
  | attempt m ih => exact h.attempt (ih hm)
  | call entry block ih => exact h.runScoped entry.processor fun n => ih n (hm n)
  | use entry block ih => exact huse entry fun n => ih n (hm n)
  | forAll p block ih => exact h.runEach p fun n => ih n (hm n)
  | endPush p => exact h.endPush p
  | endPushWith p block ih => exact h.endPushWith p fun n => ih n (hm n)
  | onCurrent block ih => exact h.onCurrent fun n => ih n (hm n)

omit [DecidableEq ν] in
theorem Program.AllDeeds.mono {P Q : ∀ {α : Type}, Deed δ ν τ α → Prop} (hPQ : ∀ {α : Type} (d : Deed δ ν τ α), P d → Q d)
    {m : Program δ ν τ α} (hm : m.AllDeeds P) : m.AllDeeds Q := by
  induction m with
  | deed d => exact hPQ d hm
  | bind m k ihm ihk => exact ⟨ihm hm.1, fun a => ihk a (hm.2 a)⟩
  | attempt m ih => exact ih hm
  | call entry block ih => exact fun n => ih n (hm n)
  | use entry block ih => exact fun n => ih n (hm n)
  | forAll p block ih => exact fun n => ih n (hm n)
  | endPush p => exact trivial
  | endPushWith p block ih => exact fun n => ih n (hm n)
  | onCurrent block ih => exact fun n => ih n (hm n)

/-- A deed that looks at nothing of an entry's own. -/
def Deed.Blind : Deed δ ν τ α → Prop
  | .observe look => ∀ s uses, look (s.withUses uses) = look s
  | _ => True

omit [DecidableEq ν] in
theorem Deed.Blind.run {d : Deed δ ν τ α} (hd : d.Blind) : Session.Blind (d.run E) := by
  refine (blind_closed E).deed d fun hs => ?_
  cases d with
  | host act => exact blind_within act (fun _ _ => rfl) fun _ _ _ => rfl
  | observe look => exact (blind_closed E).look hd
  | engine act => exact blind_onDesk act
  | close owned =>
      show Session.Blind (Session.close E owned)
      unfold Session.close
      split
      · exact blind_onDesk _
      · exact (blind_closed E).pure _
  | _ => exact hs.elim

/-- Programs that look at nothing of an entry's own are blind to the open uses, also where they use entries. -/
theorem Program.blind {m : Program δ ν τ α} (hm : m.AllDeeds Deed.Blind) : Session.Blind (m.run E) := by
  refine (blind_closed E).program (fun entry block hblock => ?_) (hm.mono fun d hd => Deed.Blind.run E hd)
  rw [use_eq_call E entry hblock]
  exact (blind_closed E).runScoped entry.processor hblock

end Crawl.Session
