import Crawl.Proofs.Session.AtDesk
/-!
# What the operations of a session do to its scopes

Two fields of a session hold its scopes: the nodes in scope, and for each entry the nodes of its open uses. Most
operations keep both (`keeps_…`). The few that do not are the ones that push and pop, and each of them has one lemma
that says all it does to the two fields. Later proofs use these lemmas only and never look into an operation again.
-/

namespace Crawl.Session

open Crawl.Action (Keeps stateOf failureOf bind_ok bind_error)

variable {δ ν τ α : Type}

/-- The part of a session that says which scopes are open. -/
def scopes (s : Session δ ν τ) : List ν × (Nat → List ν) := (s.frames, s.entered)

/-- An action that keeps the scopes. -/
abbrev KeepsScopes (act : Action (Session δ ν τ) α) : Prop := Keeps scopes act

/-- Work at the desk keeps the scopes. -/
theorem AtDesk.keepsScopes {act : Action (Session δ ν τ) α} (h : AtDesk act) : KeepsScopes act :=
  h.keeps fun s => (s.frames, s.entered)

/-! ## Operations that keep the scopes -/

theorem keeps_onDesk (act : Action (Desk δ) α) : KeepsScopes (onDesk act : Action (Session δ ν τ) α) :=
  (atDesk_onDesk act).keepsScopes

theorem keeps_fresh : KeepsScopes (fresh : Action (Session δ ν τ) Nat) := .modifyGet fun _ => rfl

theorem keeps_describe (target : Target) (document : Option ν) :
    KeepsScopes (describe target document : Action (Session δ ν τ) Processor) := by
  refine .bind keeps_fresh fun i => ?_
  cases document with
  | none => exact .bind (.pure _) fun _ => .pure _
  | some node => exact .bind (.modify fun _ => rfl) fun _ => .pure _

theorem keeps_frontOrNone : KeepsScopes (frontOrNone : Action (Session δ ν τ) (Option ν)) := atDesk_frontOrNone.keepsScopes

theorem keeps_front : KeepsScopes (front : Action (Session δ ν τ) ν) := atDesk_front.keepsScopes

theorem keeps_resolve (E : Engine δ ν) (p : Processor) (scope : Option ν) :
    KeepsScopes (resolve E p scope : Action (Session δ ν τ) ν) := by
  intro s
  have hkeep := (atDesk_search E p scope).keepsScopes s
  cases hr : search E p scope s with
  | ok node s' =>
      rw [hr] at hkeep
      rw [resolve_ok hr]
      exact hkeep
  | error f s' =>
      rw [hr] at hkeep
      rw [resolve_error hr]
      exact hkeep

theorem keeps_resolveList (E : Engine δ ν) (p : Processor) (scope : Option ν) :
    KeepsScopes (resolveList E p scope : Action (Session δ ν τ) (List ν)) := (atDesk_resolveList E p scope).keepsScopes

theorem keeps_resolveHere (E : Engine δ ν) (p : Processor) :
    KeepsScopes (resolveHere E p : Action (Session δ ν τ) ν) :=
  .bind keeps_frontOrNone fun _ => keeps_resolve E p _

theorem keeps_resolvedNode (p : Processor) : KeepsScopes (resolvedNode p : Action (Session δ ν τ) ν) :=
  (atDesk_resolvedNode p).keepsScopes

theorem keeps_entryFor (p : Processor) : KeepsScopes (entryFor p : Action (Session δ ν τ) ScopedEntry) :=
  .bind keeps_fresh fun _ => .pure _

theorem keeps_navigateTo (url : String) : KeepsScopes (navigateTo url : Action (Session δ ν τ) ScopedEntry) :=
  .bind (.modify fun _ => rfl) fun _ => .bind (keeps_onDesk _) fun _ => .bind (keeps_describe _ _) fun p =>
    keeps_entryFor p

theorem keeps_resolveFrom (E : Engine δ ν) (p : Processor) :
    KeepsScopes (resolveFrom E p : Action (Session δ ν τ) ν) :=
  .bind keeps_front fun _ => keeps_resolve E p _

theorem keeps_typeIn (E : Engine δ ν) (text : String) :
    KeepsScopes (typeIn E text : Action (Session δ ν τ) Unit) := (atDesk_typeIn E text).keepsScopes

theorem keeps_click (E : Engine δ ν) : KeepsScopes (click E : Action (Session δ ν τ) Processor) := by
  rw [click_eq]
  exact .bind (atDesk_activateFront E).keepsScopes fun document => keeps_describe _ _

theorem keeps_textOf (E : Engine δ ν) (node : Option ν) :
    KeepsScopes (textOf E node : Action (Session δ ν τ) String) := (atDesk_textOf E node).keepsScopes

theorem keeps_attributeOf (E : Engine δ ν) (name : String) (node : Option ν) :
    KeepsScopes (attributeOf E name node : Action (Session δ ν τ) (Option String)) :=
  (atDesk_attributeOf E name node).keepsScopes

theorem keeps_close (E : Engine δ ν) (owned : Bool) :
    KeepsScopes (close E owned : Action (Session δ ν τ) Unit) := (atDesk_close E owned).keepsScopes

/-! ## Operations that push -/

theorem pushFront_eq (E : Engine δ ν) (node : ν) (s : Session δ ν τ) :
    ∃ s', pushFront E node s = .ok () s' ∧ scopes s' = (node :: s.frames, s.entered) := ⟨_, rfl, rfl⟩

theorem pushBack_eq (E : Engine δ ν) (node : ν) (s : Session δ ν τ) :
    ∃ s', pushBack E node s = .ok () s' ∧ scopes s' = (s.frames ++ [node], s.entered) := ⟨_, rfl, rfl⟩

/-- The open uses of entries with those of one entry replaced. -/
def replaceUses (entry : ScopedEntry) (nodes : List ν) (uses : Nat → List ν) : Nat → List ν :=
  fun i => if i = entry.serial then nodes else uses i

theorem replaceUses_self (entry : ScopedEntry) (nodes : List ν) (uses : Nat → List ν) :
    replaceUses entry nodes uses entry.serial = nodes := if_pos rfl

/-- Taking a use back restores what was there before it. -/
theorem replaceUses_restore (entry : ScopedEntry) (nodes : List ν) (uses : Nat → List ν) :
    replaceUses entry (uses entry.serial) (replaceUses entry nodes uses) = uses := by
  funext i
  unfold replaceUses
  split
  · next h => rw [h]
  · rfl

/-- Entering either fails and keeps the scopes, or pushes the node and adds it to the open uses of the entry. -/
theorem enter_cases (E : Engine δ ν) (entry : ScopedEntry) (s : Session δ ν τ) :
    (∃ f s', entry.enter E s = .error f s' ∧ scopes s' = scopes s) ∨
      ∃ node s', entry.enter E s = .ok node s' ∧
        scopes s' = (node :: s.frames, replaceUses entry (node :: s.entered entry.serial) s.entered) := by
  have hkeep : scopes (stateOf (resolveHere E entry.processor s)) = scopes s := keeps_resolveHere E _ s
  cases hr : resolveHere E entry.processor s with
  | error f s₁ =>
      rw [hr] at hkeep
      exact .inl ⟨f, s₁, bind_error hr _, hkeep⟩
  | ok node s₁ =>
      rw [hr] at hkeep
      have hframes : s₁.frames = s.frames := congrArg Prod.fst hkeep
      have hentered : s₁.entered = s.entered := congrArg Prod.snd hkeep
      obtain ⟨s₂, hpush, hs₂⟩ := pushFront_eq E node s₁
      obtain ⟨hframes₂, hentered₂⟩ := Prod.mk.inj hs₂
      refine .inr ⟨node, { s₂ with entered := replaceUses entry (node :: s₂.entered entry.serial) s₂.entered }, ?_, ?_⟩
      · rw [ScopedEntry.enter, bind_ok hr, bind_ok hpush]
        rfl
      · show (s₂.frames, replaceUses entry (node :: s₂.entered entry.serial) s₂.entered) = _
        rw [hframes₂, hentered₂, hframes, hentered]

/-! ## Operations that pop -/

/-- What removing the current scope does to a session: the front node goes, whichever it is. The removal succeeds
exactly when it is `allowed` and fails with an imbalance otherwise, that of an empty pop exactly when there was no
node to remove. -/
structure Pops (allowed : Prop) (s : Session δ ν τ) (uses : Nat → List ν)
    (r : EStateM.Result Failure (Session δ ν τ) α) : Prop where
  scopes : scopes (stateOf r) = (s.frames.tail, uses)
  ends : failureOf r = none ↔ allowed
  empty : failureOf r = some (.stackImbalance .emptyPop) ↔ s.frames = []
  imbalance : ∀ f ∈ failureOf r, f.kind = .stackImbalance

theorem popFront_nil (E : Engine δ ν) {s : Session δ ν τ} (h : s.frames = []) :
    popFront E s = .error (.stackImbalance .emptyPop) s := by
  cases s
  cases h
  rfl

theorem popFront_cons (E : Engine δ ν) {s : Session δ ν τ} {node : ν} {rest : List ν}
    (h : s.frames = node :: rest) : ∃ s', popFront E s = .ok node s' ∧ scopes s' = (rest, s.entered) := by
  cases s
  cases h
  exact ⟨_, rfl, rfl⟩

/-- Dropping the current scope is allowed whenever there is one. -/
theorem pops_drop (E : Engine δ ν) (s : Session δ ν τ) :
    Pops (s.frames ≠ []) s s.entered ((do let _ ← popFront E : Action (Session δ ν τ) Unit) s) := by
  cases h : s.frames with
  | nil =>
      rw [bind_error (popFront_nil E h)]
      exact ⟨by simp [stateOf, Session.scopes, h], by simp [failureOf], by simp [failureOf, h],
        by simp [failureOf, Failure.kind]⟩
  | cons node rest =>
      obtain ⟨s', hpop, hs'⟩ := popFront_cons E h
      rw [bind_ok hpop]
      show Pops _ s s.entered (.ok () s')
      exact ⟨by simp [stateOf, hs', h], by simp [failureOf], by simp [failureOf, h], by simp [failureOf]⟩

/-- Leaving a scope is allowed when its node is the one in front. -/
theorem pops_leave [DecidableEq ν] (E : Engine δ ν) (node : ν) (s : Session δ ν τ) :
    Pops (s.frames.head? = some node) s s.entered (leave E node s) := by
  cases h : s.frames with
  | nil =>
      rw [leave, bind_error (popFront_nil E h)]
      exact ⟨by simp [stateOf, Session.scopes, h], by simp [failureOf], by simp [failureOf, h],
        by simp [failureOf, Failure.kind]⟩
  | cons n rest =>
      -- the node is gone in both cases; only what is reported depends on whether it was the expected one
      obtain ⟨s', hpop, hs'⟩ := popFront_cons E h
      by_cases hn : n = node
      · have hr : leave E node s = .ok () s' := by
          rw [leave, bind_ok hpop, if_pos hn]
          rfl
        rw [hr]
        exact ⟨by simp [stateOf, hs', h], by simp [failureOf, hn], by simp [failureOf, h], by simp [failureOf]⟩
      · have hr : leave E node s = .error
            (.stackImbalance (.foreign (E.quoted s'.desk.device node) (E.quoted s'.desk.device n))) s' := by
          rw [leave, bind_ok hpop, if_neg hn]
          rfl
        rw [hr]
        exact ⟨by simp [stateOf, hs', h], by simp [failureOf, hn], by simp [failureOf, h],
          by simp [failureOf, Failure.kind]⟩

/-- Leaving an entry takes its latest open use back and leaves the scope of that use. -/
theorem exit_eq [DecidableEq ν] (E : Engine δ ν) (entry : ScopedEntry) {s : Session δ ν τ} {node : ν}
    {nodes : List ν} (h : s.entered entry.serial = node :: nodes) :
    entry.exit E s = leave E node { s with entered := replaceUses entry nodes s.entered } := by
  have hget : (get : Action (Session δ ν τ) _) s = .ok s s := rfl
  rw [ScopedEntry.exit, bind_ok hget, h]
  rfl

/-- Leaving the latest open use of an entry also takes that use back. -/
theorem pops_exit [DecidableEq ν] (E : Engine δ ν) (entry : ScopedEntry) {s : Session δ ν τ} {node : ν}
    {nodes : List ν} (h : s.entered entry.serial = node :: nodes) :
    Pops (s.frames.head? = some node) s (replaceUses entry nodes s.entered) (entry.exit E s) := by
  have hpops := pops_leave E node { s with entered := replaceUses entry nodes s.entered }
  rw [exit_eq E entry h]
  exact ⟨hpops.scopes, hpops.ends, hpops.empty, hpops.imbalance⟩

end Crawl.Session
