import Crawl.Proofs.Action.Mirrors
import Crawl.Proofs.Engine.Watched
import Crawl.Proofs.Session.Closed
import Crawl.Command.Listing
/-!
# Listing under watch

Watching an engine changes nothing about a listing: it ends the same as on the engine itself, and what it leaves behind
differs only by the calls that were noted down (`mirrors_list`). So what the notes of a watched engine say about a listing
is said about the listing on the engine.
-/

namespace Crawl

open Crawl.Action (Mirrors through bind_ok)
open Crawl.Engine (Watched)

variable {δ ν τ α : Type}

/-- The desk of a watched engine without what was noted down. -/
def Desk.unwatched (d : Desk (Watched δ ν)) : Desk δ := ⟨d.device.device, d.journal⟩

/-- A session on a watched engine without what was noted down. -/
def Session.unwatched (s : Session (Watched δ ν) ν τ) : Session δ ν τ :=
  ⟨s.desk.unwatched, s.frames, s.resolved, s.entered, s.serial, s.url, s.host⟩

/-- A watched engine does what the engine does. -/
theorem Engine.mirrors_perform (E : Engine δ ν) (c : Engine.Call ν) :
    Mirrors Desk.unwatched (E.watched.perform c) (E.perform c) := by
  intro d
  rw [Engine.perform_watched]
  unfold Engine.watch Action.within Desk.unwatched
  dsimp only
  cases E.perform c ⟨d.device.device, d.journal⟩ <;> rfl

namespace Session

variable (E : Engine δ ν)

theorem mirrors_call (c : Engine.Call ν) :
    Mirrors unwatched (onDesk (E.watched.perform c) : Action (Session (Watched δ ν) ν τ) c.Answer) (onDesk (E.perform c)) :=
  .within (E.mirrors_perform c) (fun _ => rfl) (fun _ _ => rfl)

theorem mirrors_note (level : Level) (source : Source) (text : String) :
    Mirrors unwatched (note level source text : Action (Session (Watched δ ν) ν τ) Unit) (note level source text) := fun _ => rfl

theorem mirrors_quoted (node : ν) :
    Mirrors unwatched (quoted E.watched node : Action (Session (Watched δ ν) ν τ) String) (quoted E node) := fun _ => rfl

theorem mirrors_shown (p : Processor) :
    Mirrors unwatched (shown p : Action (Session (Watched δ ν) ν τ) String) (shown p) := fun _ => rfl

theorem mirrors_frontOrNone :
    Mirrors unwatched (frontOrNone : Action (Session (Watched δ ν) ν τ) (Option ν)) frontOrNone := fun _ => rfl

theorem mirrors_front : Mirrors unwatched (front : Action (Session (Watched δ ν) ν τ) ν) front := by
  refine .bind mirrors_frontOrNone fun node => ?_
  cases node with
  | none => exact .throw _
  | some n => exact .pure n

theorem mirrors_popFront : Mirrors unwatched (popFront E.watched : Action (Session (Watched δ ν) ν τ) ν) (popFront E) := by
  rw [popFront_look, popFront_look]
  refine .bind (fun _ => rfl) fun frames => ?_
  cases frames with
  | nil => exact .throw _
  | cons node rest =>
      refine .bind (fun _ => rfl) fun _ => .bind (mirrors_quoted E node) fun _ => ?_
      exact .bind (mirrors_note _ _ _) fun _ => .pure _

theorem mirrors_inScope [DecidableEq ν] (node : ν) {body : Action (Session (Watched δ ν) ν τ) α}
    {body' : Action (Session δ ν τ) α} (hbody : Mirrors unwatched body body') :
    Mirrors unwatched (inScope E.watched node body) (inScope E node body') := by
  have hpush : Mirrors unwatched (pushFront E.watched node : Action (Session (Watched δ ν) ν τ) Unit) (pushFront E node) :=
    fun _ => rfl
  have hleave : Mirrors unwatched (leave E.watched node : Action (Session (Watched δ ν) ν τ) Unit) (leave E node) := by
    refine .bind (mirrors_popFront E) fun popped => .ite (.pure _) ?_
    exact .bind (mirrors_quoted E node) fun _ => .bind (mirrors_quoted E popped) fun _ => .throw _
  exact .bind hpush fun _ => .always hbody hleave

/-- The page at an address is loaded, if there is an address. -/
theorem mirrors_resolve_page (i : Nat) (url : String) (scope : Option ν) :
    Mirrors unwatched (resolve E.watched ⟨i, .page (some url)⟩ scope : Action (Session (Watched δ ν) ν τ) ν)
      (resolve E ⟨i, .page (some url)⟩ scope) := by
  have hpage : Mirrors unwatched (resolvePage E.watched ⟨i, .page (some url)⟩ : Action (Session (Watched δ ν) ν τ) ν)
      (resolvePage E ⟨i, .page (some url)⟩) := by
    refine .ite (mirrors_call E (.loadDocument url)) (.bind (fun _ => rfl) fun node => ?_)
    cases node with
    | none => exact .throw _
    | some n => exact .pure n
  refine .bind hpage fun node => .bind (fun _ => rfl) fun _ => ?_
  refine .bind (mirrors_shown _) fun _ => .bind (mirrors_quoted E node) fun _ => ?_
  exact .bind (mirrors_note _ _ _) fun _ => .pure _

theorem mirrors_resolveList (p : Processor) (scope : Option ν) :
    Mirrors unwatched (resolveList E.watched p scope : Action (Session (Watched δ ν) ν τ) (List ν)) (resolveList E p scope) := by
  unfold resolveList
  dsimp only
  split
  · exact .throw _
  · refine .ite (.throw _) ?_
    cases scope with
    | none => exact .bind (mirrors_shown p) fun _ => .throw _
    | some scope =>
        refine .bind (mirrors_call E (.findByPath scope _)) fun _ => ?_
        exact .bind (mirrors_shown p) fun _ => .bind (mirrors_note _ _ _) fun _ => .pure _

theorem mirrors_runOver [DecidableEq ν] {block : Block (Watched δ ν) ν τ α} {block' : Block δ ν τ α}
    (hblock : ∀ n, Mirrors unwatched (block n) (block' n)) (nodes : List ν) :
    Mirrors unwatched (runOver E.watched block nodes) (runOver E block' nodes) := by
  induction nodes with
  | nil => exact .pure _
  | cons node nodes ih => exact .bind (mirrors_inScope E node (hblock node)) fun _ => .bind ih fun _ => .pure _

end Session

namespace Command

open Session (unwatched)

variable (E : Engine δ ν)

theorem mirrors_readAttrs (names : List String) (known : List (String × Option String)) :
    Mirrors unwatched (readAttrs E.watched known names) (readAttrs E known names) := by
  induction names generalizing known with
  | nil => exact .pure _
  | cons name names ih =>
      exact .bind (.bind Session.mirrors_front fun n => Session.mirrors_call E (.attr n name)) fun value => ih _

theorem mirrors_describe (names : List String) (node : ν) :
    Mirrors unwatched (describe E.watched names node) (describe E names node) := by
  refine .bind (Session.mirrors_call E (.tagName node)) fun tag => ?_
  refine .bind (.bind Session.mirrors_front fun n => Session.mirrors_call E (.textContent n)) fun text => ?_
  exact .bind (mirrors_readAttrs E names []) fun attrs => .pure _

variable [DecidableEq ν] (url xpath : String) (names : List String)

theorem mirrors_readMatches : Mirrors unwatched (readMatches E.watched xpath names) (readMatches E xpath names) := by
  unfold readMatches
  cases Descriptor.make .xpath xpath with
  | error fault => exact .throw _
  | ok d =>
      refine .bind (fun _ => rfl) fun matching => .bind Session.mirrors_frontOrNone fun scope => ?_
      exact .bind (Session.mirrors_resolveList E matching scope) fun nodes =>
        Session.mirrors_runOver E (mirrors_describe E names) nodes

theorem mirrors_collect : Mirrors unwatched (collect E.watched url xpath names) (collect E url xpath names) := by
  intro s
  -- the session is pointed at the address, and then the page there is resolved and its matches are read in its scope
  have hpointed {ε : Type} (s : Session ε ν Output) : ∃ s', s' = { s with
      url := url, desk := ⟨s.desk.device, s.desk.journal.push ⟨.info, .session, "Navigating to " ++ url⟩⟩,
      serial := s.serial + 2 } ∧ Session.navigateTo url s = .ok ⟨s.serial + 1, ⟨s.serial, .page (some url)⟩⟩ s' :=
    ⟨_, rfl, rfl⟩
  obtain ⟨s₁, hs₁, hrun⟩ := hpointed s
  obtain ⟨s₂, hs₂, hrun'⟩ := hpointed s.unwatched
  have hmapped : s₂ = s₁.unwatched := by
    rw [hs₁, hs₂]
    rfl
  subst hmapped
  unfold collect
  rw [bind_ok hrun, bind_ok hrun']
  refine Mirrors.bind (.bind Session.mirrors_frontOrNone fun scope => ?_) (fun node => ?_) s₁
  · exact Session.mirrors_resolve_page E s.serial url scope
  · exact Session.mirrors_inScope E node (mirrors_readMatches E xpath names)

/-- **A listing under watch** ends as it does otherwise, and apart from the notes leaves the same behind. -/
theorem mirrors_list : Mirrors unwatched (list E.watched url xpath names) (list E url xpath names) := by
  refine .bind (.always (mirrors_collect E url xpath names) (Session.mirrors_call E .close)) fun records => ?_
  exact .bind (fun _ => rfl) fun _ => Session.mirrors_note _ _ _

end Command

end Crawl
