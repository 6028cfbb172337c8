import Crawl.Proofs.Browser.Leaks
/-!
# What the calls to a browser deliver

Errors in scripts are delivered while a call to the browser is under way. Which ones a call delivers is known from the
browser alone: from what befalls the call, and from the step that the browser's world has for it. `Agenda` holds just
that, `Agenda.deliveries` reads off it what a list of calls delivers, and neither looks at the engine. The engine's side
is `Collecting`: an action appends to the errors that are pending exactly what its own calls deliver, and it ends well
exactly when none of its calls fails. Going to an address, waiting for a page to load, and clicking an element are such
actions.
-/

namespace Crawl.Browser

open Crawl.Action (stateOf failureOf bind_ok bind_error read_eq)

variable {α β : Type}

/-! ## What is still to happen -/

/-- Whether a call is made to the page or to an element, and not to launch the browser or to close it. -/
def Call.isToPage : Call → Bool
  | .start | .launch .. | .newContext .. | .newPage _ | .setTimeout .. | .listen _ => false
  | .closeContext _ | .closeBrowser _ | .stop _ => false
  | _ => true

/-- What is still to happen in a browser, and the calls made to it so far. -/
structure Agenda where
  scene : Scene
  visits : List Step
  loads : List Step
  closeContext : Step
  closeBrowser : Step
  calls : Array Call

/-- What is still to happen in the browser of an engine. -/
def State.agenda (s : State) : Agenda :=
  ⟨s.scene, s.world.visits, s.world.loads, s.world.closeContext, s.world.closeBrowser, s.calls⟩

/-- The errors that some steps deliver, one step after the other, up to the first that fails. -/
def delivered : List Step → List String
  | [] => []
  | step :: steps => step.errors ++ if step.failure.isSome then [] else delivered steps

namespace Agenda

/-- The step that the world has for a call. -/
def turn (a : Agenda) : Call → Step
  | .visit .. => nextStep a.visits
  | .awaitLoad _ => nextStep a.loads
  | .click (.element name) => (a.scene.world.element name).click
  | .closeContext _ => a.closeContext
  | .closeBrowser _ => a.closeBrowser
  | c => a.scene.world.stepOf c

/-- What befalls a call, before its turn comes. -/
def befalls (a : Agenda) (c : Call) : Step := if c.isToPage then a.scene.incident (a.calls.push c) else .quiet

/-- The errors that a call delivers. -/
def deliveredBy (a : Agenda) (c : Call) : List String := delivered [a.befalls c, a.turn c]

/-- A call does not fail. -/
def succeeds (a : Agenda) (c : Call) : Bool := (a.befalls c).failure.isNone && (a.turn c).failure.isNone

/-- What is still to happen when a call had its turn: steps of going somewhere and of waiting are used up. -/
def past (a : Agenda) : Call → Agenda
  | .visit .. => { a with visits := a.visits.tail }
  | .awaitLoad _ => { a with loads := a.loads.tail }
  | _ => a

/-- What is still to happen after a call; one that something befell and made fail did not come to its turn. -/
def after (a : Agenda) (c : Call) : Agenda :=
  let called := { a with calls := a.calls.push c }
  if (a.befalls c).failure.isSome then called else called.past c

/-- What is still to happen after some calls, made one after the other. -/
def afterAll (a : Agenda) (cs : List Call) : Agenda := cs.foldl after a

/-- The errors that some calls deliver, made one after the other. -/
def deliveries : Agenda → List Call → List String
  | _, [] => []
  | a, c :: cs => a.deliveredBy c ++ (a.after c).deliveries cs

/-- None of some calls fails, made one after the other. -/
def smooth : Agenda → List Call → Bool
  | _, [] => true
  | a, c :: cs => a.succeeds c && (a.after c).smooth cs

theorem deliveries_append (a : Agenda) (cs ds : List Call) :
    a.deliveries (cs ++ ds) = a.deliveries cs ++ (a.afterAll cs).deliveries ds := by
  induction cs generalizing a with
  | nil => rfl
  | cons c cs ih =>
      rw [List.cons_append, deliveries, deliveries, ih, List.append_assoc]
      rfl

theorem smooth_append (a : Agenda) (cs ds : List Call) :
    a.smooth (cs ++ ds) = (a.smooth cs && (a.afterAll cs).smooth ds) := by
  induction cs generalizing a with
  | nil => rfl
  | cons c cs ih =>
      rw [List.cons_append, smooth, smooth, ih, Bool.and_assoc]
      rfl

theorem afterAll_append (a : Agenda) (cs ds : List Call) : a.afterAll (cs ++ ds) = (a.afterAll cs).afterAll ds :=
  List.foldl_append

theorem calls_past (a : Agenda) (c : Call) : (a.past c).calls = a.calls := by
  unfold past
  split <;> rfl

theorem calls_after (a : Agenda) (c : Call) : (a.after c).calls = a.calls.push c := by
  unfold after
  dsimp only
  split
  · rfl
  · exact calls_past _ c

theorem calls_afterAll (a : Agenda) (cs : List Call) : (a.afterAll cs).calls = a.calls ++ cs := by
  induction cs generalizing a with
  | nil => exact Array.appendList_nil.symm
  | cons c cs ih =>
      rw [afterAll, List.foldl_cons, ← afterAll, ih, calls_after, Array.appendList_cons]

end Agenda

/-! ## Collecting what is delivered -/

/-- Some calls were made between two states, and what they delivered was put behind the errors that were pending. -/
structure Gathers (s : State) (made : List Call) (s' : State) : Prop where
  agenda : s'.agenda = s.agenda.afterAll made
  pending : s'.pending = s.pending ++ s.agenda.deliveries made
  options : s'.options = s.options

theorem Gathers.none (s : State) : Gathers s [] s := ⟨rfl, (List.append_nil _).symm, rfl⟩

theorem Gathers.trans {s s' s'' : State} {cs ds : List Call} (h : Gathers s cs s') (h' : Gathers s' ds s'') :
    Gathers s (cs ++ ds) s'' := by
  constructor
  · rw [h'.agenda, h.agenda, Agenda.afterAll_append]
  · rw [h'.pending, h.pending, h.agenda, Agenda.deliveries_append, List.append_assoc]
  · exact h'.options.trans h.options

/-- An action makes some calls at a desk and collects what they deliver, and it fails just when one of them does, and then as
the browser. -/
structure Collects (act : Work α) (d : Desk State) (made : List Call) : Prop where
  gathers : Gathers d.device made (stateOf (act d)).device
  smooth : (failureOf (act d)).isNone = d.device.agenda.smooth made
  fails : ∀ f ∈ failureOf (act d), ∃ timedOut message, f = .browser timedOut message

/-- An action that collects what its calls deliver, whichever calls they are. -/
def Collecting (act : Work α) : Prop := ∀ d : Desk State, ∃ made, Collects act d made

theorem Collecting.bind {x : Work α} {k : α → Work β} (hx : Collecting x) (hk : ∀ a, Collecting (k a)) :
    Collecting (x >>= k) := by
  intro d
  obtain ⟨made, hgathers, hsmooth, hfails⟩ := hx d
  cases hr : x d with
  | ok a d' =>
      rw [hr] at hgathers hsmooth
      obtain ⟨made', hgathers', hsmooth', hfails'⟩ := hk a d'
      have hagenda : d'.device.agenda = d.device.agenda.afterAll made := hgathers.agenda
      refine ⟨made ++ made', ?_⟩
      constructor
      · rw [bind_ok hr]
        exact hgathers.trans hgathers'
      · rw [bind_ok hr, hsmooth', Agenda.smooth_append, ← hsmooth, hagenda]
        rfl
      · rw [bind_ok hr]
        exact hfails'
  | error f d' =>
      rw [hr] at hgathers hsmooth hfails
      refine ⟨made, ?_⟩
      constructor
      · rw [bind_error hr]
        exact hgathers
      · rw [bind_error hr]
        exact hsmooth
      · rw [bind_error hr]
        exact hfails

/-- What comes after a call is its turn: the step that the world has for the call happens, and nothing else does. -/
def TakesTurn (c : Call) (act : Work α) : Prop :=
  ∀ d : Desk State, (stateOf (act d)).device.agenda = d.device.agenda.past c ∧
    (stateOf (act d)).device.pending = d.device.pending ++ (d.device.agenda.turn c).errors ∧
    (stateOf (act d)).device.options = d.device.options ∧
    failureOf (act d) = Scene.failureIn (d.device.agenda.turn c)

theorem failureIn_eq_none {step : Step} : Scene.failureIn step = none ↔ step.failure = none := Option.map_eq_none_iff

theorem isNone_failureIn (step : Step) : (Scene.failureIn step).isNone = step.failure.isNone := Option.isNone_map

/-- A call to the page or to an element, followed by its turn. -/
theorem collects_call {c : Call} (hc : c.isToPage = true) {act : Work α} (h : TakesTurn c act) (d : Desk State) :
    Collects (make c >>= fun _ => act) d [c] := by
  -- the state in which the call has been recorded, and in which whatever befalls it happens
  let d₁ : Desk State := ⟨{ d.device with calls := d.device.calls.push c }, d.journal⟩
  have hrun : (make c >>= fun _ => act) d = (happen (d.device.agenda.befalls c) >>= fun _ => act) d₁ := by
    unfold Agenda.befalls
    rw [hc]
    rfl
  -- a call that is made to fail does not come to its turn, so the turn's errors are delivered in the first case only
  rcases happen_cases (d.device.agenda.befalls c) d₁ with ⟨hnone, hok⟩ | ⟨f, hsome, herror⟩
  · have hfail : (d.device.agenda.befalls c).failure = none := failureIn_eq_none.mp hnone
    obtain ⟨hagenda, hpending, hoptions, hfailure⟩ := h ⟨d₁.device.turned (d.device.agenda.befalls c), d₁.journal⟩
    have hturn : (d₁.device.turned (d.device.agenda.befalls c)).agenda.turn c = d.device.agenda.turn c := rfl
    rw [hturn] at hpending hfailure
    rw [bind_ok hok] at hrun
    constructor
    · rw [hrun]
      refine ⟨?_, ?_, hoptions⟩
      · rw [hagenda]
        show _ = d.device.agenda.after c
        unfold Agenda.after
        rw [hfail]
        rfl
      · rw [hpending]
        show d.device.pending ++ (d.device.agenda.befalls c).errors ++ (d.device.agenda.turn c).errors = _
        simp only [Agenda.deliveries, Agenda.deliveredBy, delivered, hfail, List.append_assoc]
        simp
    · rw [hrun, hfailure, isNone_failureIn]
      simp only [Agenda.smooth, Agenda.succeeds, hfail, Bool.and_true]
      rfl
    · intro g hg
      rw [hrun, hfailure] at hg
      exact Scene.browser_of_failureIn hg
  · have hfail : (d.device.agenda.befalls c).failure.isSome = true := by
      rw [← Option.not_isNone, ← isNone_failureIn, hsome]
      rfl
    rw [bind_error herror] at hrun
    constructor
    · rw [hrun]
      refine ⟨?_, ?_, rfl⟩
      · show _ = d.device.agenda.after c
        unfold Agenda.after
        rw [hfail]
        rfl
      · show d.device.pending ++ (d.device.agenda.befalls c).errors = _
        simp only [Agenda.deliveries, Agenda.deliveredBy, delivered, hfail, if_true, List.append_nil]
    · have hnone : (d.device.agenda.befalls c).failure.isNone = false := by
        rw [← isNone_failureIn, hsome]
        rfl
      rw [hrun]
      simp only [Agenda.smooth, Agenda.succeeds, hnone, Bool.false_and]
      rfl
    · intro g hg
      rw [hrun] at hg
      cases hg
      exact Scene.browser_of_failureIn hsome

theorem Collecting.call {c : Call} (hc : c.isToPage = true) {act : Work α} (h : TakesTurn c act) :
    Collecting (make c >>= fun _ => act) := fun d => ⟨[c], collects_call hc h d⟩

/-- A step that the world has for a call is the turn of the call, once the world has gone past it. -/
theorem takesTurn_happen {c : Call} (look : Work Step) (past : Desk State → Desk State)
    (hlook : ∀ d, look d = .ok (d.device.agenda.turn c) (past d))
    (hagenda : ∀ d, (past d).device.agenda = d.device.agenda.past c)
    (hpending : ∀ d, (past d).device.pending = d.device.pending)
    (hoptions : ∀ d, (past d).device.options = d.device.options) : TakesTurn c (look >>= happen) := by
  intro d
  rw [bind_ok (hlook d)]
  rcases happen_cases (d.device.agenda.turn c) (past d) with ⟨hnone, hok⟩ | ⟨f, hsome, herror⟩
  · rw [hok, hnone]
    exact ⟨hagenda d, congrArg (· ++ _) (hpending d), hoptions d, rfl⟩
  · rw [herror, hsome]
    exact ⟨hagenda d, congrArg (· ++ _) (hpending d), hoptions d, rfl⟩

/-! ## The actions that collect -/

/-- Going to an address is one call. -/
theorem collects_visit (page : Nat) (url : String) (d : Desk State) : Collects (visit page url) d [.visit page url] := by
  let look : Work Step := do
    let s ← Desk.read
    changeWorld fun w => { w with url, visits := w.visits.tail }
    return nextStep s.world.visits
  let past (d : Desk State) : Desk State :=
    ⟨{ d.device with world := { d.device.world with url, visits := d.device.world.visits.tail } }, d.journal⟩
  refine collects_call (c := .visit page url) rfl ?_ d
  exact takesTurn_happen look past (fun _ => rfl) (fun _ => rfl) (fun _ => rfl) fun _ => rfl

theorem collecting_awaitLoad (page : Nat) : Collecting (awaitLoad page) := by
  let look : Work Step := do
    let s ← Desk.read
    changeWorld fun w => { w with loads := w.loads.tail }
    return nextStep s.world.loads
  let past (d : Desk State) : Desk State :=
    ⟨{ d.device with world := { d.device.world with loads := d.device.world.loads.tail } }, d.journal⟩
  refine .call (c := .awaitLoad page) rfl ?_
  exact takesTurn_happen look past (fun _ => rfl) (fun _ => rfl) (fun _ => rfl) fun _ => rfl

theorem collecting_press (page : Nat) (name : String) : Collecting (press page (.element name)) := by
  let look : Work Step := do return (← elementOf (.element name)).click
  have hturn : TakesTurn (.click (.element name)) (look >>= happen) :=
    takesTurn_happen look id (fun _ => rfl) (fun _ => rfl) (fun _ => rfl) fun _ => rfl
  have hclick : Collecting (make (.click (.element name)) >>= fun _ => look >>= happen) := .call rfl hturn
  have hpress : press page (.element name) =
      (make (.click (.element name)) >>= fun _ => look >>= happen) >>= fun _ => awaitLoad page := by
    simp only [press, look, bind_assoc, pure_bind]
  rw [hpress]
  exact hclick.bind fun _ => collecting_awaitLoad page

end Crawl.Browser
