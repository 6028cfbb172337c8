import Crawl.Proofs.Session.Loads
/-!
# What processors remember

A session remembers for each processor the node it last resolved to. Only two things are ever written there: the node of
a resolution that succeeded, and the document of a page processor when it is made. So at every moment of a run a
processor remembers what was last written for it, and what the session knew at the start if nothing was
(`Program.remembered`). An end-push without a block reads it.

What is remembered is kept under the number of the processor. A new processor gets its number from the session, which
hands out one after the other, so that no two processors of a run have the same one (`fresh_unused`).
-/

namespace Crawl.Session

open Crawl.Action (Keeps stateOf failureOf valueOf bind_ok bind_error)
open Crawl.Engine (Watched)

variable {δ ν τ α : Type}

/-- What a session keeps of its processors: the nodes they remember, and the number that it hands out next. -/
def books (s : Session δ ν τ) : (Nat → Option ν) × Nat := (s.resolved, s.serial)

/-- An action that changes nothing of that. -/
abbrev KeepsBooks (act : Action (Session δ ν τ) α) : Prop := Keeps books act

theorem AtDesk.keepsBooks {act : Action (Session δ ν τ) α} (h : AtDesk act) : KeepsBooks act := h.keeps books

/-! ## What is written -/

/-- What processors remember after something was written, or nothing. -/
def rewritten (written : Option (Processor × ν)) (resolved : Nat → Option ν) : Nat → Option ν :=
  match written with
  | some (p, node) => withNode p.serial node resolved
  | none => resolved

/-- A page processor that a step makes with a document. -/
def Step.built (E : Engine δ ν) : Step δ ν τ α → Session δ ν τ → Option (Processor × ν)
  | .deed (.describe target (some document)), s => (valueOf (describe target (some document) s)).map (·, document)
  | .deed .click, s => do
    let document ← valueOf (activateFront E s)
    let p ← valueOf (Session.click E s)
    return (p, document)
  | _, _ => none

/-- What a step writes: the node of its resolution, if that succeeds, or the document of the processor it makes. -/
def Step.written (E : Engine δ ν) (step : Step δ ν τ α) (s : Session δ ν τ) : Option (Processor × ν) :=
  match step.resolving s with
  | some (p, scope) => (valueOf (resolve E p scope s)).map (p, ·)
  | none => step.built E s

/-- A resolution writes its node if it succeeds and nothing if it fails, and hands out no number. -/
theorem books_resolve (E : Engine δ ν) (p : Processor) (scope : Option ν) (s : Session δ ν τ) :
    books (stateOf (resolve E p scope s)) =
      (rewritten ((valueOf (resolve E p scope s)).map (p, ·)) s.resolved, s.serial) := by
  have hkeep : books (stateOf (search E p scope s)) = books s := (atDesk_search E p scope).keepsBooks s
  cases hsearch : search E p scope s with
  | ok node s' =>
      rw [hsearch] at hkeep
      rw [resolve_ok hsearch]
      exact congrArg (fun b => (withNode p.serial node b.1, b.2)) hkeep
  | error f s' =>
      rw [hsearch] at hkeep
      rw [resolve_error hsearch]
      exact hkeep

/-- Whether a step hands out a number, for a processor or for an entry. -/
def Step.Numbers : Step δ ν τ α → Prop
  | .deed (.describe _ _) => True
  | .deed (.navigateTo _) => True
  | .deed (.entryFor _) => True
  | .deed .click => True
  | _ => False

/-- A deed that resolves nothing and hands out no number is no matter for the processors. -/
theorem keepsBooks_deed (E : Engine δ ν) {d : Deed δ ν τ α} {s : Session δ ν τ} (hnone : (Step.deed d).resolving s = none)
    (hnumbers : ¬ (Step.deed d).Numbers) : books (stateOf (d.run E s)) = books s := by
  cases d with
  | host act =>
      have hkeep : KeepsBooks ((Deed.host act : Deed δ ν τ α).run E) := .within act fun _ _ => rfl
      exact hkeep s
  | observe look => rfl
  | engine act => exact (atDesk_onDesk act).keepsBooks s
  | describe target document => exact absurd trivial hnumbers
  | navigateTo url => exact absurd trivial hnumbers
  | entryFor p => exact absurd trivial hnumbers
  | resolve p scope => cases hnone
  | resolveList p scope => exact (atDesk_resolveList E p scope).keepsBooks s
  | resolveFrom p =>
      show books (stateOf (Session.resolveFrom E p s)) = books s
      rw [resolveFrom_noScope E hnone, stateOf]
  | front => exact atDesk_front.keepsBooks s
  | typeIn text => exact (atDesk_typeIn E text).keepsBooks s
  | click => exact absurd trivial hnumbers
  | textOf node => exact (atDesk_textOf E node).keepsBooks s
  | attributeOf name node => exact (atDesk_attributeOf E name node).keepsBooks s
  | close owned => exact (atDesk_close E owned).keepsBooks s

/-! ## Scopes do not write -/

theorem keepsBooks_pushFront (E : Engine δ ν) (node : ν) : KeepsBooks (pushFront E node : Action (Session δ ν τ) Unit) :=
  fun _ => rfl

theorem keepsBooks_pushBack (E : Engine δ ν) (node : ν) : KeepsBooks (pushBack E node : Action (Session δ ν τ) Unit) :=
  fun _ => rfl

theorem keepsBooks_popFront (E : Engine δ ν) : KeepsBooks (popFront E : Action (Session δ ν τ) ν) := by
  rw [popFront_look]
  refine .bind (.bind .get fun _ => .pure _) fun frames => ?_
  cases frames with
  | nil => exact .throw _
  | cons node rest =>
      refine .bind (.modify fun _ => rfl) fun _ => ?_
      exact .bind (atDesk_quoted E node).keepsBooks fun _ => .bind (atDesk_note _ _ _).keepsBooks fun _ => .pure _

variable [DecidableEq ν]

theorem keepsBooks_leave (E : Engine δ ν) (node : ν) : KeepsBooks (leave E node : Action (Session δ ν τ) Unit) := by
  refine .bind (keepsBooks_popFront E) fun popped => ?_
  refine .ite (.pure _) ?_
  exact .bind (atDesk_quoted E node).keepsBooks fun _ => .bind (atDesk_quoted E popped).keepsBooks fun _ => .throw _

theorem keepsBooks_exit (E : Engine δ ν) (entry : ScopedEntry) :
    KeepsBooks (entry.exit E : Action (Session δ ν τ) Unit) := by
  refine .bind .get fun s => ?_
  split
  · exact .throw _
  · exact .bind (.modify fun _ => rfl) fun _ => keepsBooks_leave E _

/-- A step that resolves nothing and hands out no number is no matter for the processors. -/
theorem keepsBooks_step (E : Engine δ ν) {step : Step δ ν τ α} {s : Session δ ν τ} (hnone : step.resolving s = none)
    (hnumbers : ¬ step.Numbers) : books (stateOf (step.run E s)) = books s := by
  cases step with
  | deed d => exact keepsBooks_deed E hnone hnumbers
  | here p => cases hnone
  | listHere p =>
      exact Keeps.bind atDesk_frontOrNone.keepsBooks (fun scope => (atDesk_resolveList E p scope).keepsBooks) s
  | lookBack p => exact (atDesk_resolvedNode p).keepsBooks s
  | endPush p => exact Keeps.bind (atDesk_resolvedNode p).keepsBooks (fun node => keepsBooks_pushBack E node) s
  | push node => exact keepsBooks_pushFront E node s
  | openUse entry node => rfl
  | leave node => exact keepsBooks_leave E node s
  | exit entry => exact keepsBooks_exit E entry s
  | drop => exact Keeps.bind (keepsBooks_popFront E) (fun _ => .pure _) s

omit [DecidableEq ν] in
/-- A step that hands out no number makes no processor with a document. -/
theorem built_none (E : Engine δ ν) {step : Step δ ν τ α} (hnumbers : ¬ step.Numbers) (s : Session δ ν τ) :
    step.built E s = none := by
  cases step with
  | deed d =>
      cases d with
      | describe target document => exact absurd trivial hnumbers
      | click => exact absurd trivial hnumbers
      | _ => rfl
  | _ => rfl

omit [DecidableEq ν] in
/-- A click makes a processor with the next number and writes the document it led to for it, or it fails and changes
nothing that is kept of processors. -/
theorem books_click (E : Engine δ ν) (s : Session δ ν τ) :
    (∃ document, valueOf (activateFront E s) = some document ∧ valueOf (click E s) = some ⟨s.serial, .page none⟩ ∧
      books (stateOf (click E s)) = (withNode s.serial document s.resolved, s.serial + 1)) ∨
      valueOf (activateFront E s) = none ∧ valueOf (click E s) = none ∧ books (stateOf (click E s)) = books s := by
  have hkeep : books (stateOf (activateFront E s)) = books s := (atDesk_activateFront E).keepsBooks s
  rw [click_eq]
  cases hactivate : activateFront E s with
  | ok document s' =>
      rw [hactivate] at hkeep
      obtain ⟨hresolved, hserial⟩ : s'.resolved = s.resolved ∧ s'.serial = s.serial := Prod.mk.inj hkeep
      rw [bind_ok hactivate, ← hresolved, ← hserial]
      exact .inl ⟨document, rfl, rfl, rfl⟩
  | error f s' =>
      rw [hactivate] at hkeep
      rw [bind_error hactivate]
      exact .inr ⟨rfl, rfl, hkeep⟩

/-- After a step processors remember what the step has written, and otherwise what they remembered before. -/
theorem resolved_after_step (E : Engine δ ν) (t : AnyStep δ ν τ) (s : Session δ ν τ) :
    (t.after E s).resolved = rewritten (t.step.written E s) s.resolved := by
  unfold Step.written
  cases hres : t.step.resolving s with
  | some r =>
      rw [after_resolving hres]
      exact congrArg Prod.fst (books_resolve E r.1 r.2 s)
  | none =>
      obtain ⟨step⟩ := t
      show (stateOf (step.run E s)).resolved = rewritten (step.built E s) s.resolved
      by_cases hnumbers : step.Numbers
      · cases step with
        | deed d =>
            cases d with
            | describe target document => cases document <;> rfl
            | navigateTo url => rfl
            | entryFor p => rfl
            | click =>
                have hbuilt : (Step.deed .click : Step δ ν τ Processor).built E s =
                    (valueOf (activateFront E s)).bind fun document =>
                      (valueOf (click E s)).bind fun p => some (p, document) := rfl
                rw [hbuilt]
                rcases books_click E s with ⟨document, hactivated, hmade, hbooks⟩ | ⟨hactivated, -, hbooks⟩
                · rw [hactivated, hmade]
                  exact congrArg Prod.fst hbooks
                · rw [hactivated]
                  exact congrArg Prod.fst hbooks
            | _ => cases hnumbers
        | _ => cases hnumbers
      · rw [built_none E hnumbers]
        exact congrArg Prod.fst (keepsBooks_step E hres hnumbers)

/-! ## What was written last -/

/-- What the steps of a run have written, the latest first, each node under the number of its processor. -/
def memory (E : Engine δ ν) : List (AnyStep δ ν τ) → Session δ ν τ → List (Nat × ν)
  | [], _ => []
  | t :: ts, s => memory E ts (t.after E s) ++ (t.step.written E s).toList.map fun w => (w.1.serial, w.2)

omit [DecidableEq ν] in
/-- A write is read back under its number, and not under another one. -/
theorem rewritten_apply (w : Option (Processor × ν)) (resolved : Nat → Option ν) (i : Nat) :
    rewritten w resolved i = ((w.toList.map fun w => (w.1.serial, w.2)).lookup i).or (resolved i) := by
  cases w with
  | none => rfl
  | some w =>
      show (if i = w.1.serial then some w.2 else resolved i) = (List.lookup i [(w.1.serial, w.2)]).or (resolved i)
      by_cases h : i = w.1.serial
      · simp [h]
      · rw [if_neg h, List.lookup_cons, beq_eq_false_iff_ne.mpr h]
        rfl

/-- A processor remembers what was last written for it, and what was known at the start if nothing was. -/
theorem resolved_after (E : Engine δ ν) (ts : List (AnyStep δ ν τ)) (s : Session δ ν τ) (i : Nat) :
    (after E ts s).resolved i = ((memory E ts s).lookup i).or (s.resolved i) := by
  induction ts generalizing s with
  | nil => rfl
  -- the later steps come first in `memory`, so what they wrote hides what the first step wrote
  | cons t ts ih => rw [after, ih, resolved_after_step, rewritten_apply, memory, List.lookup_append, Option.or_assoc]

/-! ## Numbers -/

/-- The processor that a step makes. -/
def Step.made (E : Engine δ ν) : Step δ ν τ α → Session δ ν τ → Option Processor
  | .deed (.describe target document), s => valueOf (describe target document s)
  | .deed (.navigateTo url), s => (valueOf (navigateTo url s)).map ScopedEntry.processor
  | .deed .click, s => valueOf (Session.click E s)
  | _, _ => none

/-- The processors that the steps of a run make. -/
def processors (E : Engine δ ν) : List (AnyStep δ ν τ) → Session δ ν τ → List Processor
  | [], _ => []
  | t :: ts, s => (t.step.made E s).toList ++ processors E ts (t.after E s)

omit [DecidableEq ν] in
/-- A step that hands out no number makes no processor. -/
theorem made_none (E : Engine δ ν) {step : Step δ ν τ α} (hnumbers : ¬ step.Numbers) (s : Session δ ν τ) :
    step.made E s = none := by
  cases step with
  | deed d =>
      cases d with
      | describe target document => exact absurd trivial hnumbers
      | navigateTo url => exact absurd trivial hnumbers
      | click => exact absurd trivial hnumbers
      | _ => rfl
  | _ => rfl

/-- A step gives a processor that it makes the next number, and no step goes back to numbers that were handed out. -/
theorem serial_after_step (E : Engine δ ν) (t : AnyStep δ ν τ) (s : Session δ ν τ) :
    s.serial ≤ (t.after E s).serial ∧ ∀ p ∈ t.step.made E s, p.serial = s.serial ∧ s.serial < (t.after E s).serial := by
  obtain ⟨step⟩ := t
  by_cases hnumbers : step.Numbers
  · cases step with
    | deed d =>
        cases d with
        | describe target document =>
            have hserial : (AnyStep.after E ⟨.deed (.describe target document)⟩ s).serial = s.serial + 1 := by
              cases document <;> rfl
            have hmade : valueOf (describe target document s) = some ⟨s.serial, target⟩ := by cases document <;> rfl
            rw [hserial]
            refine ⟨Nat.le_succ s.serial, fun p hp => ?_⟩
            cases hmade.symm.trans hp
            exact ⟨rfl, Nat.lt_succ_self s.serial⟩
        | navigateTo url =>
            refine ⟨Nat.le_add_right s.serial 2, fun p hp => ?_⟩
            cases hp
            exact ⟨rfl, Nat.lt_add_of_pos_right Nat.two_pos⟩
        | entryFor p => exact ⟨Nat.le_succ s.serial, nofun⟩
        | click =>
            rcases books_click E s with ⟨document, -, hmade, hbooks⟩ | ⟨-, hmade, hbooks⟩
            · have hserial : (AnyStep.after E ⟨.deed .click⟩ s).serial = s.serial + 1 := congrArg Prod.snd hbooks
              rw [hserial]
              refine ⟨Nat.le_succ s.serial, fun p hp => ?_⟩
              cases hmade.symm.trans hp
              exact ⟨rfl, Nat.lt_succ_self s.serial⟩
            · have hserial : (AnyStep.after E ⟨.deed .click⟩ s).serial = s.serial := congrArg Prod.snd hbooks
              rw [hserial]
              refine ⟨Nat.le_refl s.serial, fun p hp => ?_⟩
              cases hmade.symm.trans hp
        | _ => cases hnumbers
    | _ => cases hnumbers
  · have hserial : (AnyStep.after E ⟨step⟩ s).serial = s.serial := by
      cases hres : step.resolving s with
      | some r =>
          rw [after_resolving hres]
          exact congrArg Prod.snd (books_resolve E r.1 r.2 s)
      | none => exact congrArg Prod.snd (keepsBooks_step E hres hnumbers)
    rw [hserial, made_none E hnumbers]
    exact ⟨Nat.le_refl s.serial, nofun⟩

/-- All numbers of processors that are made in a run have been handed out in it. -/
theorem serial_after (E : Engine δ ν) (ts : List (AnyStep δ ν τ)) (s : Session δ ν τ) :
    s.serial ≤ (after E ts s).serial ∧ ∀ p ∈ processors E ts s, s.serial ≤ p.serial ∧ p.serial < (after E ts s).serial := by
  induction ts generalizing s with
  | nil => exact ⟨Nat.le_refl s.serial, nofun⟩
  | cons t ts ih =>
      obtain ⟨hstep, hmade⟩ := serial_after_step E t s
      obtain ⟨hlater, hothers⟩ := ih (t.after E s)
      refine ⟨Nat.le_trans hstep hlater, fun p hp => ?_⟩
      rcases List.mem_append.mp hp with hp | hp
      · obtain ⟨hnumber, hbelow⟩ := hmade p (Option.mem_toList.mp hp)
        rw [hnumber]
        exact ⟨Nat.le_refl s.serial, Nat.lt_of_lt_of_le hbelow hlater⟩
      · obtain ⟨habove, hbelow⟩ := hothers p hp
        exact ⟨Nat.le_trans hstep habove, hbelow⟩

/-- **A new processor has a number of its own.** After any steps, the number that `fresh` hands out is that of no processor
made in any of them, nor was it handed out before them; and it is the number of the processor that a further step makes. -/
theorem fresh_unused (E : Engine δ ν) (past : List (AnyStep δ ν τ)) (s : Session δ ν τ) :
    ∃ n s', fresh (after E past s) = .ok n s' ∧ s.serial ≤ n ∧ (∀ p ∈ processors E past s, p.serial < n) ∧
      ∀ t : AnyStep δ ν τ, ∀ p ∈ t.step.made E (after E past s), p.serial = n := by
  obtain ⟨hstart, hmade⟩ := serial_after E past s
  refine ⟨(after E past s).serial, _, rfl, hstart, fun p hp => (hmade p hp).2, fun t p hp => ?_⟩
  exact ((serial_after_step E t (after E past s)).2 p hp).1

/-- So all processors made in a run have different numbers. -/
theorem processors_apart (E : Engine δ ν) (ts : List (AnyStep δ ν τ)) (s : Session δ ν τ) :
    (processors E ts s).Pairwise fun p q => p.serial < q.serial := by
  induction ts generalizing s with
  | nil => exact .nil
  | cons t ts ih =>
      refine List.pairwise_append.mpr ⟨?_, ih _, fun p hp q hq => ?_⟩
      · cases t.step.made E s with
        | none => exact .nil
        | some p => exact List.pairwise_singleton _ p
      · obtain ⟨hnumber, hbelow⟩ := (serial_after_step E t s).2 p (Option.mem_toList.mp hp)
        rw [hnumber]
        exact Nat.lt_of_lt_of_le hbelow ((serial_after E ts _).2 q hq).1

/-! ## End-push without a block -/

omit [DecidableEq ν] in
/-- An end-push of a processor that remembers a node puts this node behind all others. -/
theorem endPush_some (E : Engine δ ν) {p : Processor} {node : ν} {s : Session δ ν τ} (h : s.resolved p.serial = some node) :
    ∃ s', endPush E p s = .ok () s' ∧ s'.frames = s.frames ++ [node] := by
  have hlast : (lastNode p : Action (Session δ ν τ) (Option ν)) s = .ok (some node) s := by
    rw [← h]
    rfl
  have hresolved : resolvedNode p s = .ok node s := by
    rw [resolvedNode, bind_ok hlast]
    rfl
  rw [endPush, bind_ok hresolved]
  exact ⟨_, rfl, rfl⟩

omit [DecidableEq ν] in
/-- An end-push of a processor that remembers nothing fails and changes nothing. -/
theorem endPush_none (E : Engine δ ν) {p : Processor} {s : Session δ ν τ} (h : s.resolved p.serial = none) :
    endPush E p s = .error (.nodeNotFound (.unresolved (p.target.shown false))) s := by
  have hlast : (lastNode p : Action (Session δ ν τ) (Option ν)) s = .ok none s := by
    rw [← h]
    rfl
  have hshown : shown p s = .ok (p.target.shown false) s := by
    rw [shown, bind_ok hlast]
    rfl
  have hresolved : resolvedNode p s = .error (.nodeNotFound (.unresolved (p.target.shown false))) s := by
    rw [resolvedNode, bind_ok hlast]
    exact (bind_ok hshown _).trans rfl
  exact bind_error hresolved _

/-! ## Whole runs -/

/-- A step that lists all nodes of a path. -/
def Step.Lists : Step δ ν τ α → Prop
  | .listHere _ => True
  | .deed (.resolveList _ _) => True
  | _ => False

/-- What a step does to what processors remember, to the nodes in scope when it is an end-push, and to the pages that
were loaded. -/
structure Heeds (E : Engine δ ν) (now : Session (Watched δ ν) ν τ) (t : AnyStep (Watched δ ν) ν τ) : Prop where
  resolves : ∀ p scope, t.step.resolving now = some (p, scope) → t.after E.watched now = stateOf (resolve E.watched p scope now)
  fails : ∀ p scope f, t.step.resolving now = some (p, scope) → failureOf (resolve E.watched p scope now) = some f →
    (t.after E.watched now).resolved = now.resolved
  lists : t.step.Lists → (t.after E.watched now).resolved = now.resolved
  pushes : ∀ p node, t = ⟨.endPush p⟩ → now.resolved p.serial = some node →
    failureOf (endPush E.watched p now) = none ∧ (t.after E.watched now).frames = now.frames ++ [node]
  refuses : ∀ p, t = ⟨.endPush p⟩ → now.resolved p.serial = none →
    failureOf (endPush E.watched p now) = some (.nodeNotFound (.unresolved (p.target.shown false))) ∧
      t.after E.watched now = now
  loads : ¬ t.step.AtEngine → (t.after E.watched now).loads = now.loads ++ (t.step.address? now).toList

/-- A step that writes nothing leaves what processors remember. -/
theorem resolved_of_unwritten {E : Engine δ ν} {t : AnyStep δ ν τ} {s : Session δ ν τ} (h : t.step.written E s = none) :
    (t.after E s).resolved = s.resolved := by
  rw [resolved_after_step, h]
  rfl

omit [DecidableEq ν] in
theorem written_failed {E : Engine δ ν} {step : Step δ ν τ α} {s : Session δ ν τ} {p : Processor} {scope : Option ν}
    {f : Failure} (h : step.resolving s = some (p, scope)) (hf : failureOf (resolve E p scope s) = some f) :
    step.written E s = none := by
  unfold Step.written
  rw [h]
  show (valueOf (resolve E p scope s)).map (p, ·) = none
  cases hr : resolve E p scope s with
  | ok node s' =>
      rw [hr] at hf
      cases hf
  | error f s' => rfl

omit [DecidableEq ν] in
theorem written_lists (E : Engine δ ν) {step : Step δ ν τ α} (h : step.Lists) (s : Session δ ν τ) :
    step.written E s = none := by
  cases step with
  | listHere p => rfl
  | deed d =>
      cases d with
      | resolveList p scope => rfl
      | _ => cases h
  | _ => cases h

/-- Every step does so. -/
theorem heeds (E : Engine δ ν) (now : Session (Watched δ ν) ν τ) (t : AnyStep (Watched δ ν) ν τ) : Heeds E now t where
  resolves p scope h := after_resolving h
  fails p scope f h hf := resolved_of_unwritten (written_failed h hf)
  lists h := resolved_of_unwritten (written_lists E.watched h now)
  pushes p node ht h := by
    subst ht
    obtain ⟨s', hpush, hframes⟩ := endPush_some E.watched h
    show failureOf (endPush E.watched p now) = none ∧ (stateOf (endPush E.watched p now)).frames = _
    rw [hpush]
    exact ⟨rfl, hframes⟩
  refuses p ht h := by
    subst ht
    have hpush := endPush_none E.watched h
    show failureOf (endPush E.watched p now) = _ ∧ stateOf (endPush E.watched p now) = now
    rw [hpush]
    exact ⟨rfl, rfl⟩
  loads h := loads_after E t now h

/-- **What processors remember.** At every moment of a run, that is after every number of its steps, each processor
remembers the node that was last written for it, by a resolution of it that succeeded or by making it with a document,
and what was known at the start of the run if nothing was. What is written by each further step, which node an end-push
without a block takes, and which page is loaded, follows from the step. -/
theorem Program.remembered (E : Engine δ ν) (m : Program (Watched δ ν) ν τ α) (s : Session (Watched δ ν) ν τ) :
    stateOf (m.run E.watched s) = after E.watched (m.steps E.watched s) s ∧
      ∀ past rest, m.steps E.watched s = past ++ rest →
        (∀ q : Processor, (after E.watched past s).resolved q.serial =
          ((memory E.watched past s).lookup q.serial).or (s.resolved q.serial)) ∧
        ∀ t ∈ rest.head?, Heeds E (after E.watched past s) t :=
  ⟨m.run_steps E.watched s, fun past _ _ =>
    ⟨fun q => resolved_after E.watched past s q.serial, fun t _ => heeds E (after E.watched past s) t⟩⟩

namespace Program

/-- An engine that knows one page. -/
def onePage : Engine (Array Tabled.Call) String := Tabled.engine ⟨[], [("a", "A")], []⟩

/-- A session on this engine under watch, before anything is done. -/
def watching : Session (Watched (Array Tabled.Call) String) String Unit := Session.start ⟨#[], []⟩ ()

/-- Queues a page before it was visited, which fails, then visits it and queues it again. -/
def visitThenQueue : Program (Watched (Array Tabled.Call) String) String Unit Unit :=
  .bind (.deed (.describe (.page (some "a")) none)) fun p => .bind (.attempt (.endPush p)) fun _ =>
    .bind (inside p fun _ => .pure ()) fun _ => .endPush p

/-- The session after some steps of this run. -/
def watchingAfter (n : Nat) : Session (Watched (Array Tabled.Call) String) String Unit :=
  after onePage.watched ((visitThenQueue.steps onePage.watched watching).take n) watching

theorem remembered_visitThenQueue :
    (watchingAfter 1).resolved 0 = none ∧ (watchingAfter 7).resolved 0 = some "A" ∧ (watchingAfter 7).loads = ["a"] ∧
      (stateOf (visitThenQueue.run onePage.watched watching)).frames = ["A"] := by
  obtain ⟨hrun, hmoments⟩ := remembered onePage visitThenQueue watching
  have hsplit (n : Nat) := hmoments ((visitThenQueue.steps onePage.watched watching).take n)
    ((visitThenQueue.steps onePage.watched watching).drop n) (List.take_append_drop n _).symm
  have hbefore : (watchingAfter 1).resolved 0 = none := (hsplit 1).1 ⟨0, .page none⟩
  have hafter : (watchingAfter 7).resolved 0 = some "A" := (hsplit 7).1 ⟨0, .page none⟩
  -- the last step is the second end-push, which finds the node of the visit
  have hlast : (visitThenQueue.steps onePage.watched watching).drop 7 = [⟨.endPush ⟨0, .page (some "a")⟩⟩] := rfl
  have hheeds := (hsplit 7).2 ⟨.endPush ⟨0, .page (some "a")⟩⟩ (by rw [hlast]; rfl)
  have hframes := (hheeds.pushes ⟨0, .page (some "a")⟩ "A" rfl hafter).2
  refine ⟨hbefore, hafter, by decide +kernel, ?_⟩
  rw [hrun, ← List.take_append_drop 7 (visitThenQueue.steps onePage.watched watching), after_append, hlast]
  exact hframes

end Program

end Crawl.Session
