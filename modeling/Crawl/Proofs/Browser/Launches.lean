import Crawl.Proofs.Browser.Deliveries
import Crawl.Proofs.Engine.Watched
/-!
# Launches and stops of the browser

A browser is launched by the first load that finds no page, and stopped by closing; nothing else an engine does starts or
ends anything. What a run leaves in the list of calls is therefore known from its loads and closes alone. Of all calls
only the `milestones` matter for this: those that launch or close the browser, and those that go to an address. Three
lemmas say how the methods of the engine add to them: a load adds a launch if there is no page, and then its visit; closing
adds a release of whatever is held; every other method adds nothing. What an engine holds is four handles, each set and
forgotten by itself, and it takes a run from the start to see that they are of one launch or all missing (`Course.Sound`).
The rest is induction on runs, in which the browser may turn out otherwise at every single call.
-/

namespace Crawl.Browser

open Crawl.Action (Keeps stateOf failureOf valueOf bind_ok bind_error)

variable {α : Type}

/-! ## What is held -/

/-- What an engine holds of a launched browser. -/
structure Held where
  driver : Option Nat
  browser : Option Nat
  context : Option Nat
  page : Option Nat
deriving DecidableEq

namespace Held

/-- Nothing is held. -/
def nothing : Held := ⟨none, none, none, none⟩

/-- All that a launch handed out is held. -/
def all (l : Launch) : Held := ⟨some l.driver, some l.browser, some l.context, some l.page⟩

/-- The calls that release what is held: a context that cannot be closed keeps the browser from being closed, but the
driver is stopped in any case. -/
def releases (h : Held) (closeContext : Step) : List Call :=
  (h.context.map .closeContext).toList ++
    (if h.context.isSome && closeContext.failure.isSome then [] else (h.browser.map .closeBrowser).toList) ++
    (h.driver.map .stop).toList

/-- Whatever releases something is one of three calls. -/
theorem filter_releases {p : Call → Bool}
    (hp : ∀ n, p (.closeContext n) = true ∧ p (.closeBrowser n) = true ∧ p (.stop n) = true) (h : Held)
    (closeContext : Step) :
    (h.releases closeContext).filter p = h.releases closeContext := by
  refine List.filter_eq_self.mpr fun c hc => ?_
  obtain ⟨driver, browser, context, page⟩ := h
  rcases List.mem_append.mp hc with hc | hc
  · rcases List.mem_append.mp hc with hc | hc
    · obtain ⟨n, -, rfl⟩ := Option.map_eq_some_iff.mp (Option.mem_toList.mp hc)
      exact (hp n).1
    · split at hc
      · cases hc
      · obtain ⟨n, -, rfl⟩ := Option.map_eq_some_iff.mp (Option.mem_toList.mp hc)
        exact (hp n).2.1
  · obtain ⟨n, -, rfl⟩ := Option.map_eq_some_iff.mp (Option.mem_toList.mp hc)
    exact (hp n).2.2

end Held

/-- What an engine holds. -/
def State.held (s : State) : Held := ⟨s.driver, s.browser, s.context, s.page⟩

/-! ## Milestones -/

/-- Whether a call launches or closes the browser, or goes to an address. -/
def Call.isMilestone : Call → Bool
  | .visit .. => true
  | c => !c.isToPage

/-- Whether a call stops a driver. -/
def Call.isStop : Call → Bool
  | .stop _ => true
  | _ => false

/-- The calls so far that launched or closed the browser, or went to an address. -/
def State.milestones (s : State) : List Call := s.calls.toList.filter Call.isMilestone

/-- The calls that launch a browser and open its page. -/
def launchCalls (o : Options) (l : Launch) : List Call :=
  [.start, .launch l.driver o.browser o.headless, .newContext l.browser (o.agent.filter (!·.isEmpty)), .newPage l.context,
    .setTimeout l.page o.timeoutMs, .listen l.page]

/-- The calls that release all that a launch handed out. -/
def releaseCalls (l : Launch) (closeContext : Step) : List Call :=
  .closeContext l.context :: (if closeContext.failure.isSome then [] else [.closeBrowser l.browser]) ++ [.stop l.driver]

theorem Held.releases_all (l : Launch) (closeContext : Step) :
    (all l).releases closeContext = releaseCalls l closeContext := rfl

theorem Held.releases_nothing (closeContext : Step) : nothing.releases closeContext = [] := rfl

/-- What of an engine's state only loading and closing change. -/
structure Course where
  milestones : List Call
  held : Held
  options : Options

/-- The course of an engine. -/
def State.course (s : State) : Course := ⟨s.milestones, s.held, s.options⟩

namespace Course

/-- A course with further milestones. -/
def add (c : Course) (calls : List Call) : Course := { c with milestones := c.milestones ++ calls }

/-- The page that a load uses: the one that is held, or else the one that a launch hands out. -/
def page (c : Course) (l : Launch) : Nat := c.held.page.getD l.page

/-- What a load does first: it launches the browser if there is no page. -/
def launch (c : Course) (l : Launch) : Course :=
  if c.held.page.isSome then c else { c.add (launchCalls c.options l) with held := .all l }

/-- What a load does. -/
def load (c : Course) (l : Launch) (url : String) : Course := (c.launch l).add [.visit (c.page l) url]

/-- What closing does: it releases what is held, and forgets it. -/
def close (c : Course) (closeContext : Step) : Course :=
  { c.add (c.held.releases closeContext) with held := .nothing }

theorem add_nil (c : Course) : c.add [] = c := by
  unfold add
  rw [List.append_nil]

theorem add_add (c : Course) (calls calls' : List Call) : (c.add calls).add calls' = c.add (calls ++ calls') := by
  unfold add
  rw [List.append_assoc]

theorem launch_held {c : Course} {page : Nat} (h : c.held.page = some page) (l : Launch) : c.launch l = c := by
  unfold launch
  rw [h]
  rfl

theorem launch_nothing {c : Course} (h : c.held = .nothing) (l : Launch) :
    c.launch l = { c.add (launchCalls c.options l) with held := .all l } := by
  unfold launch
  rw [h]
  rfl

theorem page_launch (c : Course) (l : Launch) : (c.launch l).held.page = some (c.page l) := by
  unfold launch page
  cases h : c.held.page with
  | none => rfl
  | some page => exact h

end Course

theorem milestones_push (s : State) (c : Call) :
    ({ s with calls := s.calls.push c } : State).milestones = s.milestones ++ if c.isMilestone then [c] else [] := by
  unfold State.milestones
  rw [Array.toList_push, List.filter_append]
  cases h : c.isMilestone <;> simp [h]

/-! ## Methods that add no milestone -/

/-- An action that neither loads nor closes anything. -/
abbrev StaysOnCourse (act : Work α) : Prop := Keeps (fun d : Desk State => d.device.course) act

theorem onCourse_read : StaysOnCourse Desk.read := fun _ => rfl

theorem onCourse_note (level : Level) (source : Source) (text : String) :
    StaysOnCourse (Desk.note level source text : Work Unit) := fun _ => rfl

theorem onCourse_changeWorld (f : World → World) : StaysOnCourse (changeWorld f) := fun _ => rfl

theorem onCourse_clearErrors : StaysOnCourse clearErrors := fun _ => rfl

theorem onCourse_happen (step : Step) : StaysOnCourse (happen step) := by
  refine .bind (.modify fun _ => rfl) fun _ => ?_
  split
  · exact .throw _
  · exact .pure _

theorem course_record (c : Call) (d : Desk State) :
    (stateOf (record c d)).device.course = d.device.course.add (if c.isMilestone then [c] else []) :=
  congrArg (Course.mk · d.device.held d.device.options) (milestones_push d.device c)

theorem onCourse_record {c : Call} (hc : c.isMilestone = false) : StaysOnCourse (record c) := by
  intro d
  refine (course_record c d).trans ?_
  rw [hc]
  exact d.device.course.add_nil

theorem onCourse_make {c : Call} (hc : c.isMilestone = false) : StaysOnCourse (make c) :=
  .bind (onCourse_record hc) fun _ => .bind onCourse_read fun _ => onCourse_happen _

theorem stateOf_translate (f : String → Failure) (act : Work α) (d : Desk State) :
    stateOf (translate f act d) = stateOf (act d) := by
  unfold translate Action.recast
  cases act d <;> rfl

theorem onCourse_translate {f : String → Failure} {act : Work α} (h : StaysOnCourse act) :
    StaysOnCourse (translate f act) := by
  intro d
  rw [stateOf_translate]
  exact h d

theorem onCourse_names (root : Handle) (selector : String) : StaysOnCourse (names root selector) := by
  refine .bind onCourse_read fun _ => ?_
  split
  · exact .pure _
  · exact .bind (onCourse_happen _) fun _ => .pure _

theorem onCourse_query (root : Handle) (selector : String) : StaysOnCourse (query root selector) :=
  .bind (onCourse_make rfl) fun _ => .bind (onCourse_names root selector) fun _ => .pure _

theorem onCourse_queryAll (root : Handle) (selector : String) : StaysOnCourse (queryAll root selector) :=
  .bind (onCourse_make rfl) fun _ => .bind (onCourse_names root selector) fun _ => .pure _

theorem onCourse_elementOf (h : Handle) : StaysOnCourse (elementOf h) := by
  cases h with
  | page _ => exact .pure _
  | element name => exact .bind onCourse_read fun _ => .pure _

theorem onCourse_wordsOf (h : Handle) : StaysOnCourse (wordsOf h) :=
  .bind (onCourse_make rfl) fun _ => .bind (onCourse_elementOf h) fun _ => .pure _

theorem onCourse_firstWith (wanted : String) (hs : List Handle) : StaysOnCourse (firstWith wanted hs) := by
  induction hs with
  | nil => exact .pure _
  | cons h hs ih => exact .bind (onCourse_wordsOf h) fun _ => .ite (.pure _) ih

theorem onCourse_ownerPage (h : Handle) : StaysOnCourse (ownerPage h) := by
  cases h with
  | page _ => exact .pure _
  | element name =>
      refine .bind (onCourse_make rfl) fun _ => .bind (onCourse_elementOf _) fun _ => ?_
      split
      · exact .pure _
      · refine .bind onCourse_read fun _ => ?_
        split
        · exact .pure _
        · exact .throw _

theorem onCourse_awaitLoad (page : Nat) : StaysOnCourse (awaitLoad page) := by
  refine .bind (onCourse_make rfl) fun _ => .bind onCourse_read fun _ => ?_
  exact .bind (onCourse_changeWorld _) fun _ => onCourse_happen _

theorem onCourse_press (page : Nat) (h : Handle) : StaysOnCourse (press page h) := by
  refine .bind (onCourse_make rfl) fun _ => .bind (onCourse_elementOf h) fun _ => ?_
  exact .bind (onCourse_happen _) fun _ => onCourse_awaitLoad page

theorem onCourse_warnAll (url : String) (errors : List String) : StaysOnCourse (warnAll url errors) := by
  induction errors with
  | nil => exact .pure _
  | cons m ms ih => exact .bind (onCourse_note _ _ _) fun _ => ih

theorem onCourse_settle : StaysOnCourse settle := by
  refine .bind onCourse_read fun _ => .bind onCourse_clearErrors fun _ => ?_
  split
  · exact .pure _
  · exact .ite (.throw _) (onCourse_warnAll _ _)

theorem onCourse_activate (h : Handle) : StaysOnCourse (activate h) := by
  cases h with
  | page _ => exact .throw _
  | element name =>
      refine .bind (onCourse_ownerPage _) fun page => .bind onCourse_clearErrors fun _ => ?_
      refine .bind (onCourse_translate (onCourse_press page _)) fun _ => ?_
      exact .bind onCourse_settle fun _ => .pure _

theorem onCourse_setValue (h : Handle) (text : String) : StaysOnCourse (setValue h text) := by
  cases h with
  | page _ => exact .throw _
  | element name =>
      exact .bind (onCourse_make rfl) fun _ => .bind (onCourse_elementOf _) fun _ => onCourse_happen _

/-- A look at a node is one call that is no milestone, or none. -/
theorem onCourse_look (h : Handle) {c : Call} (hc : c.isMilestone = false) (k : Element → α) :
    StaysOnCourse (make c >>= fun _ => elementOf h >>= fun e => pure (k e)) :=
  .bind (onCourse_make hc) fun _ => .bind (onCourse_elementOf h) fun _ => .pure _

/-- Only loading and closing add milestones. -/
theorem onCourse_perform {c : Engine.Call Handle} (hload : c.address? = none) (hclose : c ≠ .close) :
    StaysOnCourse (engine.perform c) := by
  cases c with
  | loadDocument url => cases hload
  | findByIdentifier root value => exact onCourse_query root _
  | findByName root value => exact onCourse_query root _
  | findByPath root expression => exact onCourse_translate (onCourse_queryAll root _)
  | findAnchorByText root text => exact .bind (onCourse_queryAll root "a") fun hs => onCourse_firstWith _ hs
  | setValue node text => exact onCourse_setValue node text
  | activate node => exact onCourse_activate node
  | ownerDocument node => exact .bind (onCourse_ownerPage node) fun _ => .pure _
  | isDocument node => exact .pure _
  | tagName node =>
      cases node with
      | page _ => exact .pure _
      | element name => exact onCourse_look _ rfl _
  | attr node name =>
      cases node with
      | page _ => exact .pure _
      | element _ => exact onCourse_look _ rfl _
  | textContent node =>
      cases node with
      | page _ => exact .bind (onCourse_make rfl) fun _ => .bind onCourse_read fun _ => .pure _
      | element name => exact onCourse_look _ rfl _
  | close => exact absurd rfl hclose

/-! ## Loading and closing -/

/-- What is done before an action that stays on course decides the course. -/
theorem course_bind {β : Type} {x : Work α} {k : α → Work β} (hk : ∀ a, StaysOnCourse (k a)) (d : Desk State) :
    (stateOf ((x >>= k) d)).device.course = (stateOf (x d)).device.course := by
  cases hr : x d with
  | ok a d' =>
      rw [bind_ok hr]
      exact hk a d'
  | error f d' => rw [bind_error hr]; rfl

theorem course_visit (page : Nat) (url : String) (d : Desk State) :
    (stateOf (visit page url d)).device.course = d.device.course.add [.visit page url] := by
  have hmake : (stateOf (make (.visit page url) d)).device.course = _ :=
    (course_bind (fun _ => .bind onCourse_read fun _ => onCourse_happen _) d).trans (course_record (.visit page url) d)
  refine (course_bind (fun _ => ?_) d).trans hmake
  exact .bind onCourse_read fun _ => .bind (onCourse_changeWorld _) fun _ => onCourse_happen _

/-- Without a page there is one launch; with a page there is none. -/
theorem ensurePage_launches (d : Desk State) : ∃ d', d'.device.course = d.device.course.launch d.device.world.launch ∧
    ensurePage d = .ok (d.device.course.page d.device.world.launch) d' := by
  obtain ⟨⟨options, world, calls, driver, browser, context, page, pending, incident⟩, journal⟩ := d
  cases page with
  | some page => exact ⟨_, rfl, rfl⟩
  | none =>
      refine ⟨_, ?_, rfl⟩
      refine congrArg (Course.mk · (.all world.launch) options) ?_
      -- the calls of a launch are milestones, all six
      show List.filter _ (((((((calls.push _).push _).push _).push _).push _).push _).toList) = calls.toList.filter _ ++ _
      simp only [Array.toList_push, List.append_assoc, List.filter_append]
      rfl

/-- **A load** launches the browser if there is no page, and then goes to its address with the page, whatever it ends
with. -/
theorem course_loadDocument (url : String) (d : Desk State) :
    (stateOf (loadDocument url d)).device.course = d.device.course.load d.device.world.launch url := by
  obtain ⟨d', hcourse, hlaunch⟩ := ensurePage_launches d
  have hclear : clearErrors d' = .ok () ⟨{ d'.device with pending := [] }, d'.journal⟩ := rfl
  have hvisit := course_visit (d.device.course.page d.device.world.launch) url ⟨{ d'.device with pending := [] }, d'.journal⟩
  rw [loadDocument, bind_ok hlaunch, bind_ok hclear, course_bind fun _ => .bind onCourse_settle fun _ => .pure _,
    stateOf_translate, hvisit]
  exact congrArg (Course.add · _) hcourse

/-- Letting go of a handle makes one call, and without a handle none. -/
theorem letGo_ends (handle : Option Nat) (call : Nat → Call) (turn : Step) (d : Desk State) :
    ∃ s', stateOf (letGo handle call turn d) = ⟨s', d.journal⟩ ∧
      s'.calls.toList = d.device.calls.toList ++ (handle.map call).toList ∧ s'.held = d.device.held ∧
      s'.options = d.device.options ∧ failureOf (letGo handle call turn d) = handle.bind fun _ => Scene.failureIn turn := by
  cases handle with
  | none => exact ⟨d.device, rfl, (List.append_nil _).symm, rfl, rfl, rfl⟩
  | some number =>
      let d₁ : Desk State := ⟨{ d.device with calls := d.device.calls.push (call number) }, d.journal⟩
      have hrun : letGo (some number) call turn d = happen turn d₁ := rfl
      refine ⟨d₁.device.turned turn, ?_, Array.toList_push, rfl, rfl, ?_⟩
      · rw [hrun]
        rcases happen_cases turn d₁ with ⟨-, hok⟩ | ⟨f, -, herror⟩
        · rw [hok]
          rfl
        · rw [herror]
          rfl
      · rw [hrun]
        rcases happen_cases turn d₁ with ⟨hnone, hok⟩ | ⟨f, hsome, herror⟩
        · rw [hok, Option.bind_some, hnone]
          rfl
        · rw [herror, Option.bind_some, hsome]
          rfl

/-- The failure with which what is held is released: that of the context, or else that of the browser. -/
def Held.failure (h : Held) (closeContext closeBrowser : Step) : Option Failure :=
  (h.context.bind fun _ => Scene.failureIn closeContext).or (h.browser.bind fun _ => Scene.failureIn closeBrowser)

/-- Releasing closes the context, and then the browser unless the context failed to close. -/
theorem release_ends (d : Desk State) :
    let h := d.device.held
    let w := d.device.world
    ∃ s', stateOf (release d) = ⟨s', d.journal⟩ ∧
      s'.calls.toList = d.device.calls.toList ++ ((h.context.map .closeContext).toList ++
        if h.context.isSome && w.closeContext.failure.isSome then [] else (h.browser.map .closeBrowser).toList) ∧
      s'.held = h ∧ s'.options = d.device.options ∧
      failureOf (release d) = h.failure w.closeContext w.closeBrowser := by
  intro h w
  have hrun : release d = (letGo h.context .closeContext w.closeContext >>= fun _ =>
      letGo h.browser .closeBrowser w.closeBrowser) d := rfl
  have hfails : (h.context.isSome && w.closeContext.failure.isSome) =
      (h.context.bind fun _ => Scene.failureIn w.closeContext).isSome := by
    cases h.context with
    | none => rfl
    | some _ => exact (Option.isSome_map ..).symm
  obtain ⟨s₁, hstate, hcalls, hheld, hoptions, hfailure⟩ := letGo_ends h.context .closeContext w.closeContext d
  unfold Held.failure
  rw [hrun, hfails, ← hfailure]
  cases hfirst : letGo h.context .closeContext w.closeContext d with
  | error f d₁ =>
      rw [hfirst] at hstate
      rw [bind_error hfirst]
      refine ⟨s₁, hstate, ?_, hheld, hoptions, rfl⟩
      rw [hcalls, failureOf, Option.isSome_some, if_pos rfl, List.append_nil]
  | ok _ d₁ =>
      rw [hfirst] at hstate
      change d₁ = ⟨s₁, d.journal⟩ at hstate
      subst hstate
      obtain ⟨s₂, hstate', hcalls', hheld', hoptions', hfailure'⟩ :=
        letGo_ends h.browser .closeBrowser w.closeBrowser ⟨s₁, d.journal⟩
      rw [bind_ok hfirst]
      refine ⟨s₂, hstate', ?_, hheld'.trans hheld, hoptions'.trans hoptions, hfailure'⟩
      rw [hcalls', hcalls, List.append_assoc]
      rfl

/-- **Closing** releases whatever is held and forgets it, whatever the release ends with; and it fails as the release
does. -/
theorem close_ends (d : Desk State) :
    let h := d.device.held
    let w := d.device.world
    ∃ s', stateOf (close d) = ⟨s', d.journal⟩ ∧ s'.calls.toList = d.device.calls.toList ++ h.releases w.closeContext ∧
      s'.held = .nothing ∧ s'.options = d.device.options ∧
      failureOf (close d) = h.failure w.closeContext w.closeBrowser := by
  intro h w
  obtain ⟨s₁, hstate, hcalls, hheld, hoptions, hfailure⟩ := release_ends d
  have hforget : forget ⟨s₁, d.journal⟩ = (letGo s₁.held.driver .stop .quiet >>= fun _ =>
      Desk.update fun s => { s with driver := none, browser := none, context := none, page := none }) ⟨s₁, d.journal⟩ := rfl
  obtain ⟨s₂, hstate', hcalls', -, hoptions', hfailure'⟩ := letGo_ends s₁.held.driver .stop .quiet ⟨s₁, d.journal⟩
  have hstopped : letGo s₁.held.driver .stop .quiet ⟨s₁, d.journal⟩ = .ok () ⟨s₂, d.journal⟩ := by
    have hnone : failureOf (letGo s₁.held.driver .stop .quiet ⟨s₁, d.journal⟩) = none := by
      rw [hfailure']
      cases s₁.held.driver <;> rfl
    cases hr : letGo s₁.held.driver .stop .quiet ⟨s₁, d.journal⟩ with
    | ok _ d₂ =>
        rw [hr] at hstate'
        exact congrArg (EStateM.Result.ok ()) hstate'
    | error f d₂ =>
        rw [hr] at hnone
        cases hnone
  rw [close, Action.stateOf_always, Action.failureOf_always, hstate, hforget, bind_ok hstopped, hfailure]
  refine ⟨_, rfl, ?_, rfl, hoptions'.trans hoptions, Option.none_or⟩
  show s₂.calls.toList = _
  rw [hcalls', hcalls, hheld, List.append_assoc]
  rfl

/-- Closing an engine that holds nothing does nothing. -/
theorem close_nothing {d : Desk State} (h : d.device.held = .nothing) : close d = .ok () d := by
  obtain ⟨⟨options, world, calls, driver, browser, context, page, pending, incident⟩, journal⟩ := d
  cases h
  rfl

theorem course_close (d : Desk State) :
    (stateOf (close d)).device.course = d.device.course.close d.device.world.closeContext := by
  obtain ⟨s', hstate, hcalls, hheld, hoptions, -⟩ := close_ends d
  rw [hstate]
  show (⟨s'.calls.toList.filter _, s'.held, s'.options⟩ : Course) = _
  rw [hcalls, hheld, hoptions, List.filter_append]
  refine congrArg (fun calls => Course.mk (d.device.milestones ++ calls) .nothing d.device.options) ?_
  exact Held.filter_releases (fun _ => ⟨rfl, rfl, rfl⟩) d.device.held _

/-! ## Runs -/

/-- A call to the engine, and how the browser turns out from then on: it may have changed since the call before. -/
structure Round where
  call : Engine.Call Handle
  world : World
  incident : Incidents

namespace Round

/-- The desk at which the call of a round is made. -/
def start (r : Round) (d : Desk State) : Desk State :=
  ⟨{ d.device with world := r.world, incident := r.incident }, d.journal⟩

/-- The desk after a round, whatever its call ended with. -/
def after (d : Desk State) (r : Round) : Desk State := stateOf (engine.perform r.call (r.start d))

/-- What a round does to the course. -/
def onward (c : Course) (r : Round) : Course :=
  match r.call with
  | .loadDocument url => c.load r.world.launch url
  | .close => c.close r.world.closeContext
  | _ => c

theorem course_after (d : Desk State) (r : Round) : (after d r).device.course = onward d.device.course r := by
  obtain ⟨c, w, i⟩ := r
  cases c with
  | loadDocument url => exact course_loadDocument url _
  | close => exact course_close _
  | _ =>
      refine onCourse_perform ?_ ?_ (start ⟨_, w, i⟩ d)
      · rfl
      · nofun

/-- The load of a round: what the browser would hand out, and the address. -/
def load? (r : Round) : Option (Launch × String) := r.call.address?.map (r.world.launch, ·)

/-- A round that closes nothing goes on by what it loads. -/
theorem onward_of_open {r : Round} (hopen : r.call ≠ .close) (c : Course) :
    r.onward c = match r.load? with
      | some (l, url) => c.load l url
      | none => c := by
  obtain ⟨call, w, i⟩ := r
  cases call with
  | close => exact absurd rfl hopen
  | _ => rfl

end Round

/-- The desk after some rounds. -/
def afterRounds (d : Desk State) (rounds : List Round) : Desk State := rounds.foldl Round.after d

theorem course_afterRounds (d : Desk State) (rounds : List Round) :
    (afterRounds d rounds).device.course = rounds.foldl Round.onward d.device.course := by
  induction rounds generalizing d with
  | nil => rfl
  | cons r rs ih =>
      rw [List.foldl_cons, ← Round.course_after]
      exact ih _

theorem options_foldl (rounds : List Round) (c : Course) : (rounds.foldl Round.onward c).options = c.options := by
  induction rounds generalizing c with
  | nil => rfl
  | cons r rs ih =>
      rw [List.foldl_cons, ih]
      unfold Round.onward
      split
      · unfold Course.load Course.launch
        split <;> rfl
      · rfl
      · rfl

/-! ### The handles belong together -/

/-- On a course that has come about by some rounds, either all that the browser handed out in one of them is held, or
nothing is; and starts and stops pair up: there is one start more as long as there is a page. -/
structure Course.Sound (past : List Round) (c : Course) : Prop where
  held : c.held = .nothing ∨ ∃ r ∈ past, c.held = .all r.world.launch
  paired : c.milestones.count .start = c.milestones.countP Call.isStop + if c.held.page.isSome then 1 else 0

namespace Course.Sound

variable {past : List Round} {c : Course}

theorem later (h : c.Sound past) (rounds : List Round) : c.Sound (past ++ rounds) where
  held := h.held.imp_right fun ⟨r, hr, hheld⟩ => ⟨r, List.mem_append_left rounds hr, hheld⟩
  paired := h.paired

/-- A visit starts and stops nothing. -/
theorem visit (h : c.Sound past) (page : Nat) (url : String) : (c.add [.visit page url]).Sound past where
  held := h.held
  paired := by
    have hpaired := h.paired
    simp only [add, List.count_append, List.countP_append] at hpaired ⊢
    exact hpaired

/-- A launch adds the one start that the new page accounts for. -/
theorem launch (h : c.Sound past) {r : Round} (hr : r ∈ past) : (c.launch r.world.launch).Sound past := by
  rcases h.held with hnothing | ⟨r', -, hall⟩
  · have hpaired := h.paired
    have hstarts : (launchCalls c.options r.world.launch).count .start = 1 ∧
        (launchCalls c.options r.world.launch).countP Call.isStop = 0 := ⟨rfl, rfl⟩
    rw [hnothing] at hpaired
    rw [launch_nothing hnothing]
    refine ⟨.inr ⟨r, hr, rfl⟩, ?_⟩
    simp only [add, List.count_append, List.countP_append, hstarts, hpaired]
    rfl
  · have hpage : c.held.page = some r'.world.launch.page := congrArg Held.page hall
    rw [launch_held hpage]
    exact h

/-- A release adds one stop if something was held, whether the context fails to close or not. -/
theorem close (h : c.Sound past) (closeContext : Step) : (c.close closeContext).Sound past := by
  refine ⟨.inl rfl, ?_⟩
  have hpaired := h.paired
  rcases h.held with hnothing | ⟨r, -, hall⟩
  · rw [hnothing] at hpaired
    simp only [Course.close, add, hnothing, Held.releases_nothing, List.append_nil]
    exact hpaired
  · have hstops : (releaseCalls r.world.launch closeContext).count .start = 0 ∧
        (releaseCalls r.world.launch closeContext).countP Call.isStop = 1 := by
      unfold releaseCalls
      cases closeContext.failure.isSome <;> exact ⟨rfl, rfl⟩
    rw [hall] at hpaired
    simp only [Course.close, add, hall, Held.releases_all, List.count_append, List.countP_append, hstops, hpaired]
    rfl

theorem onward (h : c.Sound past) (r : Round) : (r.onward c).Sound (past ++ [r]) := by
  have hlater := h.later [r]
  unfold Round.onward
  split
  · exact (hlater.launch (List.mem_append_right past List.mem_cons_self)).visit _ _
  · exact hlater.close _
  · exact hlater

theorem rounds (h : c.Sound past) (rounds : List Round) : (rounds.foldl Round.onward c).Sound (past ++ rounds) := by
  induction rounds generalizing past c with
  | nil => exact h.later []
  | cons r rs ih =>
      rw [List.append_cons]
      exact ih (h.onward r)

end Course.Sound

/-- The course of every run from the start is sound. -/
theorem sound_afterRounds (o : Options) (w : World) (i : Incidents) (j : Journal) (rounds : List Round) :
    (afterRounds ⟨.start o w i, j⟩ rounds).device.course.Sound rounds := by
  have hstart : Course.Sound [] ⟨[], .nothing, o⟩ := ⟨.inl rfl, rfl⟩
  rw [course_afterRounds]
  exact hstart.rounds rounds

/-! ### Stretches without closing -/

/-- The loads of some rounds. -/
def loads (rounds : List Round) : List (Launch × String) := rounds.filterMap Round.load?

/-- What the loads of a stretch without closing leave behind: one launch, and behind it all their visits, which go to the
page that was opened by the launch. -/
def outing (o : Options) : List (Launch × String) → List Call
  | [] => []
  | (l, url) :: later => launchCalls o l ++ ((l, url) :: later).map fun v => .visit l.page v.2

/-- Without closing, a course goes on by the loads alone. -/
theorem foldl_onward {rounds : List Round} (hopen : ∀ r ∈ rounds, r.call ≠ .close) (c : Course) :
    rounds.foldl Round.onward c = (loads rounds).foldl (fun c v => c.load v.1 v.2) c := by
  induction rounds generalizing c with
  | nil => rfl
  | cons r rs ih =>
      have ih := ih fun r' hr' => hopen r' (List.mem_cons_of_mem r hr')
      rw [List.foldl_cons, ih, Round.onward_of_open (hopen r List.mem_cons_self)]
      cases hload : r.load? with
      | none => rw [loads, loads, List.filterMap_cons_none hload]
      | some v => rw [loads, loads, List.filterMap_cons_some hload, List.foldl_cons]

/-- With a page, loads only go to their addresses with it. -/
theorem foldl_load_held {c : Course} {page : Nat} (h : c.held.page = some page) (vs : List (Launch × String)) :
    vs.foldl (fun c v => c.load v.1 v.2) c = c.add (vs.map fun v => .visit page v.2) := by
  induction vs generalizing c with
  | nil => exact c.add_nil.symm
  | cons v vs ih =>
      have hload : c.load v.1 v.2 = c.add [.visit page v.2] := by
        unfold Course.load Course.page
        rw [Course.launch_held h, h]
        rfl
      have hheld : (c.add [.visit page v.2]).held.page = some page := h
      rw [List.foldl_cons, hload, ih hheld, Course.add_add]
      rfl

/-- Without a page, the first load launches the browser, and all loads go to the page that is opened then. -/
theorem foldl_load_nothing {c : Course} (h : c.held = .nothing) (vs : List (Launch × String)) :
    (vs.foldl (fun c v => c.load v.1 v.2) c).milestones = c.milestones ++ outing c.options vs ∧
      (vs.foldl (fun c v => c.load v.1 v.2) c).held = (vs.head?.map fun v => Held.all v.1).getD .nothing := by
  cases vs with
  | nil => exact ⟨(List.append_nil _).symm, h⟩
  | cons v vs =>
      have hpage : c.page v.1 = v.1.page := by
        unfold Course.page
        rw [h]
        rfl
      have hloaded : (c.load v.1 v.2).held.page = some v.1.page := (c.page_launch v.1).trans (congrArg some hpage)
      have hrest := foldl_load_held hloaded vs
      rw [List.foldl_cons, hrest, Course.load, hpage, Course.launch_nothing h]
      refine ⟨?_, rfl⟩
      show c.milestones ++ launchCalls c.options v.1 ++ [.visit v.1.page v.2] ++ _ = c.milestones ++ (_ ++ _)
      simp only [List.append_assoc, List.map_cons, List.cons_append, List.nil_append]

/-- **Launches and stops pair up.** After any run of calls, on a browser that may turn out otherwise at each of them, the
engine holds all that one launch has handed out, or nothing; and there is one start more than there are stops if there is
a page, and none more if there is not. From where nothing is held, the loads of a stretch without closing leave one launch
with the engine's options, and behind it all their visits, which go to the page that was opened there; what this launch has
handed out is held then. After closing nothing is held, also where it fails; closing again then makes no call, and the next
load launches the browser anew. -/
theorem launches_and_stops (o : Options) (w : World) (i : Incidents) (j : Journal) (rounds : List Round) :
    let d := afterRounds ⟨.start o w i, j⟩ rounds
    ((d.device.held = .nothing ∨ ∃ r ∈ rounds, d.device.held = .all r.world.launch) ∧
      d.device.calls.toList.count .start =
        d.device.calls.toList.countP Call.isStop + if d.device.page.isSome then 1 else 0) ∧
      (d.device.held = .nothing → ∀ stretch : List Round, (∀ r ∈ stretch, r.call ≠ .close) →
        (afterRounds d stretch).device.milestones = d.device.milestones ++ outing o (loads stretch) ∧
        (afterRounds d stretch).device.held = ((loads stretch).head?.map fun v => Held.all v.1).getD .nothing) ∧
      ∀ r : Round, r.call = .close → (r.after d).device.held = .nothing ∧ ∀ r' : Round,
        engine.close (r'.start (r.after d)) = .ok () (r'.start (r.after d)) ∧
        ∀ url, (stateOf (engine.loadDocument url (r'.start (r.after d)))).device.milestones =
          (r.after d).device.milestones ++ (launchCalls o r'.world.launch ++ [.visit r'.world.launch.page url]) := by
  intro d
  have hcourse : d.device.course = rounds.foldl Round.onward ⟨[], .nothing, o⟩ := course_afterRounds _ rounds
  have hoptions : d.device.options = o := (congrArg Course.options hcourse).trans (options_foldl rounds _)
  refine ⟨?_, fun hheld stretch hopen => ?_, fun r hr => ?_⟩
  · have hsound : d.device.course.Sound rounds := sound_afterRounds o w i j rounds
    refine ⟨hsound.held, ?_⟩
    have hstops : d.device.milestones.countP Call.isStop = d.device.calls.toList.countP Call.isStop := by
      unfold State.milestones
      rw [List.countP_filter]
      refine List.countP_congr fun c _ => ?_
      cases c <;> simp [Call.isStop, Call.isMilestone, Call.isToPage]
    rw [← List.count_filter (p := Call.isMilestone) rfl, ← hstops]
    exact hsound.paired
  · have hstretch := (course_afterRounds d stretch).trans (foldl_onward hopen _)
    obtain ⟨hmilestones, hall⟩ := foldl_load_nothing (c := d.device.course) hheld (loads stretch)
    refine ⟨?_, (congrArg Course.held hstretch).trans hall⟩
    rw [← hoptions]
    exact (congrArg Course.milestones hstretch).trans hmilestones
  · obtain ⟨call, w', i'⟩ := r
    subst hr
    have hclosed := course_close (Round.start ⟨.close, w', i'⟩ d)
    have hgone : (Round.after d ⟨.close, w', i'⟩).device.held = .nothing := congrArg Course.held hclosed
    have hsame : (Round.after d ⟨.close, w', i'⟩).device.options = o := (congrArg Course.options hclosed).trans hoptions
    refine ⟨hgone, fun r' => ⟨close_nothing hgone, fun url => ?_⟩⟩
    have hload := course_loadDocument url (r'.start (Round.after d ⟨.close, w', i'⟩))
    have hmilestones := (foldl_load_nothing (c := (Round.after d ⟨.close, w', i'⟩).device.course) hgone
      [(r'.world.launch, url)]).1
    rw [← hsame]
    exact (congrArg Course.milestones hload).trans hmilestones

/-- A browser that cannot reach its first page and whose context cannot be closed. -/
def stubborn : World :=
  { World.quiet with visits := [⟨none, [], some (false, "unreachable")⟩], closeContext := ⟨none, [], some (false, "busy")⟩ }

/-- The same browser when it hands out a page with another number. -/
def stubbornAgain : World := { stubborn with launch := ⟨1, 1, 1, 7⟩ }

theorem launches_and_stops_stubborn :
    let o : Options := ⟨"firefox", none, true, false, 30000⟩
    let d := afterRounds ⟨.start o stubborn .none, #[]⟩ [⟨.loadDocument "a", stubborn, .none⟩, ⟨.close, stubborn, .none⟩]
    let stretch : List Round := [⟨.loadDocument "b", stubbornAgain, .none⟩, ⟨.findByPath (.page 7) "//a", stubborn, .none⟩,
      ⟨.loadDocument "c", stubborn, .none⟩]
    d.device.held = .nothing ∧
      (afterRounds d stretch).device.milestones = d.device.milestones ++
        (launchCalls o stubbornAgain.launch ++ [.visit 7 "b", .visit 7 "c"]) := by
  intro o d stretch
  have hheld : d.device.held = .nothing := by decide +kernel
  have hopen : ∀ r ∈ stretch, r.call ≠ .close := by
    simp [stretch]
  obtain ⟨-, hstretches, -⟩ := launches_and_stops o stubborn .none #[]
    [⟨.loadDocument "a", stubborn, .none⟩, ⟨.close, stubborn, .none⟩]
  exact ⟨hheld, (hstretches hheld stretch hopen).1⟩

end Crawl.Browser
