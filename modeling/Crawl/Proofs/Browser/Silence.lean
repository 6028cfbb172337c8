import Crawl.Proofs.Browser.Leaks
/-!
# What reports no error of a script

Errors of scripts are reported as warnings, or as a failure of their own kind. `Silent` says of one run that it did
neither, and an action is `Mute` when none of its runs does. Making calls to the browser is mute whatever the calls
deliver, so everything built from such calls is: all methods of the engine are, except for the end of a load and of a
click.
-/

namespace Crawl.Browser

open Crawl.Action (stateOf failureOf bind_ok bind_error)

variable {α β : Type}

/-- The warnings in a journal. -/
def warnings (j : Journal) : List Entry := j.toList.filter (·.level = .warning)

theorem warnings_push (j : Journal) (e : Entry) :
    warnings (j.push e) = warnings j ++ if e.level = .warning then [e] else [] := by
  unfold warnings
  rw [Array.toList_push, List.filter_append]
  split <;> simp [*]

/-- A call that ended in `r` reported no error of a script. -/
def Silent (d : Desk State) (r : EStateM.Result Failure (Desk State) α) : Prop :=
  warnings (stateOf r).journal = warnings d.journal ∧ ∀ f ∈ failureOf r, f.kind ≠ .scriptError

theorem Silent.error {d d' : Desk State} {f : Failure} (hwarnings : warnings d'.journal = warnings d.journal)
    (hf : f.kind ≠ .scriptError) : Silent d (.error f d' : EStateM.Result Failure (Desk State) α) := by
  refine ⟨hwarnings, fun g hg => ?_⟩
  cases hg
  exact hf

/-- An action that reports no error of a script, wherever it starts. -/
def Mute (act : Work α) : Prop := ∀ d, Silent d (act d)

namespace Mute

theorem pure (a : α) : Mute (Pure.pure a : Work α) := fun _ => ⟨rfl, nofun⟩

theorem throw {f : Failure} (hf : f.kind ≠ .scriptError) : Mute (MonadExcept.throw f : Work α) :=
  fun _ => .error rfl hf

theorem read : Mute (Desk.read : Work State) := fun _ => ⟨rfl, nofun⟩

theorem update (g : State → State) : Mute (Desk.update g) := fun _ => ⟨rfl, nofun⟩

theorem note {level : Level} (hlevel : level ≠ .warning) (source : Source) (text : String) :
    Mute (Desk.note level source text : Work Unit) := by
  intro d
  refine ⟨?_, nofun⟩
  show warnings (d.journal.push ⟨level, source, text⟩) = _
  rw [warnings_push, if_neg hlevel, List.append_nil]

theorem bind {x : Work α} {k : α → Work β} (hx : Mute x) (hk : ∀ a, Mute (k a)) : Mute (x >>= k) := by
  intro d
  obtain ⟨hwarnings, hfails⟩ := hx d
  cases hr : x d with
  | ok a d' =>
      rw [hr] at hwarnings
      obtain ⟨hwarnings', hfails'⟩ := hk a d'
      rw [bind_ok hr]
      exact ⟨hwarnings'.trans hwarnings, hfails'⟩
  | error f d' =>
      rw [hr] at hwarnings hfails
      rw [bind_error hr]
      exact ⟨hwarnings, hfails⟩

theorem ite {c : Prop} [Decidable c] {x y : Work α} (hx : Mute x) (hy : Mute y) : Mute (if c then x else y) := by
  split
  · exact hx
  · exact hy

/-- A step of the browser delivers errors and reports none. -/
theorem happen (step : Step) : Mute (happen step) := by
  refine bind (update _) fun _ => ?_
  split
  · next timedOut message _ => exact throw (by cases timedOut <;> nofun)
  · exact pure _

theorem make (c : Call) : Mute (make c) := bind (update _) fun _ => bind read fun _ => happen _

theorem translate {g : String → Failure} (hg : ∀ reason, (g reason).kind ≠ .scriptError) {act : Work α} (h : Mute act) :
    Mute (translate g act) := by
  intro d
  obtain ⟨hwarnings, hfails⟩ := h d
  unfold Browser.translate Action.recast
  cases hr : act d with
  | ok a d' =>
      rw [hr] at hwarnings
      exact ⟨hwarnings, nofun⟩
  | error f d' =>
      rw [hr] at hwarnings hfails
      refine ⟨hwarnings, fun e he => ?_⟩
      cases f with
      | browser timedOut message =>
          cases he
          exact hg message
      | _ =>
          cases he
          exact hfails _ rfl

theorem always {x : Work α} {after : Work Unit} (hx : Mute x) (hafter : Mute after) : Mute (Action.always x after) := by
  intro d
  obtain ⟨hwarnings, hfails⟩ := hx d
  obtain ⟨hwarnings', hfails'⟩ := hafter (stateOf (x d))
  constructor
  · rw [Action.stateOf_always]
    exact hwarnings'.trans hwarnings
  · intro f hf
    rw [Action.failureOf_always] at hf
    rcases Option.or_eq_some_iff.mp hf with h | ⟨-, h⟩
    · exact hfails' f h
    · exact hfails f h

end Mute

/-! ## The parts of the engine -/

theorem mute_ensurePage : Mute ensurePage := by
  refine .bind .read fun s => ?_
  split
  · exact .pure _
  · refine .bind (.update _) fun _ => .bind (.update _) fun _ => .bind (.update _) fun _ => ?_
    refine .bind (.update _) fun _ => .bind (.update _) fun _ => .bind (.update _) fun _ => ?_
    refine .bind (.update _) fun _ => .bind (.update _) fun _ => .bind (.update _) fun _ => ?_
    exact .bind (.update _) fun _ => .bind (.note (by decide) _ _) fun _ => .pure _

theorem mute_elementOf (h : Handle) : Mute (elementOf h) := by
  cases h with
  | page _ => exact .pure _
  | element name => exact .bind .read fun _ => .pure _

theorem mute_visit (page : Nat) (url : String) : Mute (visit page url) :=
  .bind (.make _) fun _ => .bind .read fun _ => .bind (.update _) fun _ => .happen _

theorem mute_awaitLoad (page : Nat) : Mute (awaitLoad page) :=
  .bind (.make _) fun _ => .bind .read fun _ => .bind (.update _) fun _ => .happen _

theorem mute_press (page : Nat) (h : Handle) : Mute (press page h) :=
  .bind (.make _) fun _ => .bind (mute_elementOf h) fun _ => .bind (.happen _) fun _ => mute_awaitLoad page

theorem mute_names (root : Handle) (selector : String) : Mute (names root selector) := by
  refine .bind .read fun s => ?_
  split
  · exact .pure _
  · exact .bind (.happen _) fun _ => .pure _

theorem mute_queryAll (root : Handle) (selector : String) : Mute (queryAll root selector) :=
  .bind (.make _) fun _ => .bind (mute_names root selector) fun _ => .pure _

theorem mute_query (root : Handle) (selector : String) : Mute (query root selector) :=
  .bind (.make _) fun _ => .bind (mute_names root selector) fun _ => .pure _

theorem mute_wordsOf (h : Handle) : Mute (wordsOf h) := .bind (.make _) fun _ => .bind (mute_elementOf h) fun _ => .pure _

theorem mute_firstWith (wanted : String) (hs : List Handle) : Mute (firstWith wanted hs) := by
  induction hs with
  | nil => exact .pure _
  | cons h hs ih => exact .bind (mute_wordsOf h) fun _ => .ite (.pure _) ih

theorem mute_ownerPage (h : Handle) : Mute (ownerPage h) := by
  cases h with
  | page _ => exact .pure _
  | element name =>
      refine .bind (.make _) fun _ => .bind (mute_elementOf _) fun e => ?_
      split
      · exact .pure _
      · refine .bind .read fun s => ?_
        split
        · exact .pure _
        · exact .throw nofun

theorem mute_ownerDocument (h : Handle) : Mute (ownerDocument h) := .bind (mute_ownerPage h) fun _ => .pure _

theorem mute_setValue (h : Handle) (text : String) : Mute (setValue h text) := by
  cases h with
  | page _ => exact .throw nofun
  | element name => exact .bind (.make _) fun _ => .bind (mute_elementOf _) fun e => .happen _

theorem mute_letGo (handle : Option Nat) (call : Nat → Call) (turn : Step) : Mute (letGo handle call turn) := by
  cases handle with
  | none => exact .pure _
  | some number => exact .bind (.update _) fun _ => .happen turn

theorem mute_close : Mute close := by
  refine .always (.bind .read fun s => .bind (mute_letGo _ _ _) fun _ => mute_letGo _ _ _) ?_
  exact .bind .read fun s => .bind (mute_letGo _ _ _) fun _ => .update _

end Crawl.Browser
