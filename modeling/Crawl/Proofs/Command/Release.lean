import Crawl.Proofs.Browser.Launches
import Crawl.Proofs.Command.Closing
/-!
# What closing releases

A browser that was launched holds a context, the browser itself and the driver. Closing releases the context first; when
that fails the browser is left as it is, and the driver is stopped all the same. What any of it failed with is what the
closing fails with, also when it comes behind a failure: at the end of a session, and at the end of the command.

All this is said of engines that hold everything that a launch has handed out. As long as there is a page, an engine is
such a one in every run (`Course.Sound`).
-/

namespace Crawl.Browser

open Crawl.Action (Keeps stateOf failureOf)

/-- Whether a call releases something. -/
def Call.isRelease : Call → Bool
  | .closeContext _ => true
  | .closeBrowser _ => true
  | .stop _ => true
  | _ => false

/-- The calls so far that released something. -/
def State.releases (s : State) : List Call := s.calls.toList.filter Call.isRelease

/-- Releases are milestones. -/
theorem releases_eq (s : State) : s.releases = s.milestones.filter Call.isRelease := by
  unfold State.releases State.milestones
  rw [List.filter_filter]
  refine List.filter_congr fun c _ => ?_
  cases c <;> rfl

/-- Only closing releases something. -/
theorem keeps_releases {c : Engine.Call Handle} (hc : c ≠ .close) :
    Keeps (fun d : Desk State => d.device.releases) (engine.perform c) := by
  intro d
  dsimp only
  rw [releases_eq, releases_eq]
  cases hload : c.address? with
  | none => exact congrArg (fun c : Course => c.milestones.filter Call.isRelease) (onCourse_perform hload hc d)
  | some url =>
      cases c with
      | loadDocument url' =>
          refine (congrArg (fun c : Course => c.milestones.filter Call.isRelease) (course_loadDocument url' d)).trans ?_
          -- a load adds a launch, if it adds one, and a visit, and none of these calls is a release
          show (d.device.course.load _ _).milestones.filter _ = d.device.course.milestones.filter _
          unfold Course.load Course.launch
          split <;> simp [Course.add, launchCalls, Call.isRelease]
      | _ => cases hload

end Crawl.Browser

namespace Crawl.Command

open Crawl.Action (stateOf failureOf)
open Browser (State World Handle Options Incidents Step Launch Held)

variable {τ α : Type} {w : World} {o : Options} {url : String}

/-- What is left of a browser that was closed, where the calls before were the given ones, and a launch had handed out all
that was held. -/
structure Released (before : List Browser.Call) (l : Launch) (closeContext : Step) (s : State) : Prop where
  calls : s.calls.toList = before ++ Browser.releaseCalls l closeContext
  gone : s.held = .nothing

theorem released_close {d : Desk State} {l : Launch} (hheld : d.device.held = .all l) :
    Released d.device.calls.toList l d.device.world.closeContext (stateOf (Browser.engine.close d)).device ∧
      failureOf (Browser.engine.close d) = closingFailure d.device.world.closeContext d.device.world.closeBrowser := by
  obtain ⟨s', hstate, hcalls, hgone, -, hfailure⟩ := Browser.close_ends d
  rw [hheld] at hcalls hfailure
  have hclosed : (stateOf (Browser.engine.close d)).device = s' := congrArg Desk.device hstate
  rw [hclosed]
  exact ⟨⟨hcalls, hgone⟩, hfailure⟩

/-- At any moment of a run, an engine with a page holds all that a launch has handed out. -/
theorem held_of_page {o : Options} {w : World} {i : Incidents} {j : Journal} {rounds : List Browser.Round}
    (hpage : (Browser.afterRounds ⟨.start o w i, j⟩ rounds).device.page.isSome = true) :
    ∃ l, (Browser.afterRounds ⟨.start o w i, j⟩ rounds).device.held = .all l := by
  have hsound := Browser.sound_afterRounds o w i j rounds
  rcases hsound.held with hnothing | ⟨r, -, hall⟩
  · have hnone : (Browser.afterRounds ⟨.start o w i, j⟩ rounds).device.page = none := congrArg Held.page hnothing
    rw [hnone] at hpage
    cases hpage
  · exact ⟨r.world.launch, hall⟩

/-- A session that owns its browser releases it behind whatever was done, also behind a failure. -/
theorem released_always (body : Action (Session State Handle τ) α) (s : Session State Handle τ) {l : Launch}
    (hheld : (stateOf (body s)).desk.device.held = .all l) :
    let before := (stateOf (body s)).desk.device
    let r := Action.always body (Session.close Browser.engine true) s
    Released before.calls.toList l before.world.closeContext (stateOf r).desk.device ∧
      failureOf r = (closingFailure before.world.closeContext before.world.closeBrowser).or (failureOf (body s)) := by
  intro before r
  obtain ⟨hreleased, hfailure⟩ := released_close hheld
  have hclose : (Session.close Browser.engine true : Action (Session State Handle τ) Unit) =
      Session.onDesk Browser.engine.close := if_pos rfl
  constructor
  · rw [Action.stateOf_always, hclose, Session.onDesk, Action.stateOf_within]
    exact hreleased
  · rw [Action.failureOf_always, hclose, Session.onDesk, Action.failureOf_within, hfailure]

/-- Collecting releases nothing. -/
theorem releases_collect (o : Options) (w : World) (i : Incidents) (url xpath : String) (names : List String) :
    (stateOf (collect Browser.engine url xpath names (Session.start (.start o w i) []))).desk.device.releases = [] :=
  keeps_collect Browser.engine (fun s _ => s.releases) (fun _ hc _ => Browser.keeps_releases hc) url xpath names
    (Session.start (.start o w i) [])

/-- A listing on an address releases the browser it has launched, and fails when that fails. -/
theorem released_list (o : Options) (w : World) (i : Incidents) (hurl : url ≠ "") (xpath : String) (names : List String) :
    let r := list Browser.engine url xpath names (Session.start (.start o w i) [])
    (stateOf r).desk.device.releases = Browser.releaseCalls w.launch w.closeContext ∧
      (stateOf r).desk.device.held = .nothing ∧
      ∀ f, closingFailure w.closeContext w.closeBrowser = some f → failureOf r = some f := by
  intro r
  obtain ⟨⟨calls, hstage⟩, -⟩ := collect_browser o w i xpath names hurl
  have hnone := releases_collect o w i url xpath names
  have hdevice : (stateOf r).desk.device = _ := device_list Browser.engine url xpath names _
  have hfailure : failureOf r = _ := failureOf_list Browser.engine xpath names _
  rw [collectAndClose, Action.stateOf_always, stateOf_close] at hdevice
  rw [hdevice, hfailure]
  -- from here on only the desk matters that the collecting has left behind
  generalize (stateOf (collect Browser.engine url xpath names (Session.start (.start o w i) []))).desk = d at hstage hnone ⊢
  have hheld : d.device.held = .all w.launch := congrArg Stage.held hstage
  have hcontext : d.device.world.closeContext = w.closeContext := congrArg Stage.closeContext hstage
  obtain ⟨hreleased, -⟩ := released_close hheld
  rw [hcontext] at hreleased
  refine ⟨?_, hreleased.gone, fun f hf => ?_⟩
  · unfold State.releases at hnone ⊢
    rw [hreleased.calls, List.filter_append, hnone, List.nil_append]
    exact Held.filter_releases (fun _ => ⟨rfl, rfl, rfl⟩) (.all w.launch) w.closeContext
  · rw [failureOf_close_opened hstage, hf]
    rfl

/-- **What closing releases.** In every run, an engine with a page holds all that a launch has handed out. Closing it
then closes the context and stops the driver, once each, and between the two it closes the browser itself unless the
context failed to close. What any of this failed with is what the closing fails with. It is so for the engine by itself, at
the end of a session that owns the engine, whatever was done in it and however that ended, and at the end of a crawl. -/
theorem closing_releases (d : Desk State) (w : Surroundings) (c : Config) (a : Arguments) :
    (∀ (o : Options) (world : World) (i : Incidents) (j : Journal) (rounds : List Browser.Round),
      let run := Browser.afterRounds ⟨.start o world i, j⟩ rounds
      run.device.page.isSome = true → ∃ l, run.device.held = .all l) ∧
      (∀ l, d.device.held = .all l →
        Released d.device.calls.toList l d.device.world.closeContext (stateOf (Browser.engine.close d)).device ∧
          failureOf (Browser.engine.close d) = closingFailure d.device.world.closeContext d.device.world.closeBrowser) ∧
      (∀ {τ α : Type} (body : Action (Session State Handle τ) α) (s : Session State Handle τ) (l : Launch),
        (stateOf (body s)).desk.device.held = .all l →
          let before := (stateOf (body s)).desk.device
          let r := Action.always body (Session.close Browser.engine true) s
          Released before.calls.toList l before.world.closeContext (stateOf r).desk.device ∧
            failureOf r = (closingFailure before.world.closeContext before.world.closeBrowser).or (failureOf (body s))) ∧
      (c.engine = .playwright → a.url ≠ "" →
        ∃ s, (crawl w c a).device = some (.browser s) ∧
          s.releases = Browser.releaseCalls w.world.launch w.world.closeContext ∧ s.held = .nothing ∧
          ∀ f, closingFailure w.world.closeContext w.world.closeBrowser = some f → (crawl w c a).failure = some f) := by
  refine ⟨fun o world i j rounds hpage => held_of_page hpage, fun l hheld => released_close hheld,
    fun body s l hheld => released_always body s hheld, fun hengine hurl => ?_⟩
  obtain ⟨hreleases, hgone, hfails⟩ := released_list (.ofConfig c) w.world w.incident hurl a.xpath a.attrs
  have hcrawl := crawl_playwright (w := w) a hengine
  refine ⟨_, ?_, hreleases, hgone, fun f hf => ?_⟩
  · rw [hcrawl]
    cases list Browser.engine a.url a.xpath a.attrs (Session.start (.start (.ofConfig c) w.world w.incident) []) <;> rfl
  · rw [hcrawl, failure_ofResult]
    exact hfails f hf

/-- A world in which the context of the browser cannot be closed. -/
def busy : World := { World.quiet with closeContext := ⟨none, [], some (false, "busy")⟩ }

/-- The desk of an engine that has loaded a page in this world. -/
def busyDesk : Desk State :=
  stateOf (Browser.engine.loadDocument "a" ⟨.start ⟨"chromium", none, true, false, 30000⟩ busy .none, #[]⟩)

/-- The configuration of a crawl on a browser. -/
def onBrowser : Config := ⟨.playwright, .chromium, none, true, false, 1, Int.one_pos⟩

theorem closing_releases_busy :
    busyDesk.device.page.isSome = true ∧ (∃ l, busyDesk.device.held = .all l) ∧
      busyDesk.device.held = .all busy.launch ∧
      Released busyDesk.device.calls.toList busy.launch busy.closeContext (stateOf (Browser.engine.close busyDesk)).device ∧
      failureOf (Action.always (throw (.navigation .noAddress) : Action (Session State Handle Unit) Unit)
        (Session.close Browser.engine true) { Session.start busyDesk.device () with desk := busyDesk }) =
          some (.browser false "busy") ∧
      (crawl { calm with world := busy } onBrowser ⟨"a", "//p", [], none, none, none, false, false, none⟩).failure =
        some (.browser false "busy") := by
  have hheld : busyDesk.device.held = .all busy.launch := by decide +kernel
  have hpage : busyDesk.device.page.isSome = true := by decide +kernel
  obtain ⟨hruns, hclose, hsession, hcrawl⟩ := closing_releases busyDesk { calm with world := busy } onBrowser
    ⟨"a", "//p", [], none, none, none, false, false, none⟩
  have hlaunched := hruns ⟨"chromium", none, true, false, 30000⟩ busy .none #[] [⟨.loadDocument "a", busy, .none⟩] hpage
  obtain ⟨s, -, -, -, hfails⟩ := hcrawl rfl (by decide)
  refine ⟨hpage, hlaunched, hheld, (hclose busy.launch hheld).1, ?_, hfails _ rfl⟩
  exact (hsession (throw (.navigation .noAddress) : Action (Session State Handle Unit) Unit)
    { Session.start busyDesk.device () with desk := busyDesk } busy.launch hheld).2

/-- A context that cannot be closed keeps the browser from being closed. -/
theorem busyContext_keeps_browser :
    busyDesk.device.held = .all busy.launch ∧
      (stateOf (Browser.engine.close busyDesk)).device.calls.toList.count (.closeBrowser busy.launch.browser) = 0 ∧
      (stateOf (Browser.engine.close busyDesk)).device.calls.toList.count (.closeContext busy.launch.context) = 1 := by
  decide +kernel

end Crawl.Command
