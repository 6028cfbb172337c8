import Crawl.Proofs.Browser.Reports
import Crawl.Proofs.Command.Matches
/-!
# Failures that leave a listing on the browser engine

A listing on a browser loads its page and selects the matches by calls whose failures are translated, and then makes a
call for each look at a match, whose failure is handed on. What leaves it, other than a failure of the crawl's own, is the
refusal of an empty path, the failure of the first of those calls that fails, or what closing the browser fails with.
Closing comes last, and a failure of it takes the place of whatever the listing ended with.

Something may befall any call to the page or to an element, which is told from all calls made so far. So these are kept
track of: those of the launch, the visit, the selection, and one for each look.
-/

namespace Crawl.Command

open Crawl.Action (stateOf failureOf valueOf bind_ok bind_error read_eq)
open Browser (State World Handle Options Incidents Step Work Call Scene Held)

variable {α : Type} {w : World} {o : Options} {i : Incidents} {d : Desk State} {j : Journal} {url xpath : String}
  {names : List String} {f : Failure}

/-! ## Looks at a page in a browser -/

/-- The scene of a browser in which a world is shown, and in which something may befall the calls. -/
def sceneOf (w : World) (i : Incidents) : Scene := ⟨i, w.select, w.elements⟩

/-- What a listing on a browser depends on, apart from the load of its page. -/
structure Stage where
  scene : Scene
  calls : Array Call
  held : Held
  closeContext : Step
  closeBrowser : Step

/-- The stage of a state. -/
def stage (s : State) : Stage := ⟨s.scene, s.calls, s.held, s.world.closeContext, s.world.closeBrowser⟩

/-- The call that a look makes, if it makes one: nothing is asked about the tag and the attributes of a page. -/
def lookCall : Engine.Call Handle → Option Call
  | .tagName (.element name) => some (.readTag (.element name))
  | .textContent (.page number) => some (.bodyText number)
  | .textContent (.element name) => some (.innerText (.element name))
  | .attr (.element name) asked => some (.readAttr (.element name) asked)
  | _ => none

/-- What looks lead to in a browser: they fail as their calls do. -/
def browserLooks : Looks Stage Handle where
  fault v c := (lookCall c).bind (v.scene.leak v.calls)
  next v c := match lookCall c with
    | some call => { v with calls := v.calls.push call }
    | none => v

/-- A look at a node makes its call, and then tells what the call gave. -/
theorem look_ends {c : Call} (hc : c.isHandedOn = true) (hstep : ∀ w : World, w.stepOf c = .quiet) (told : Work α)
    (htold : ∀ d, ∃ a, told d = .ok a d) (d : Desk State) :
    let r := (Browser.make c >>= fun _ => told) d
    failureOf r = d.device.scene.leak d.device.calls c ∧
      stage (stateOf r).device = { stage d.device with calls := d.device.calls.push c } := by
  intro r
  have hleak : d.device.scene.leak d.device.calls c =
      Scene.failureIn (d.device.incident (d.device.calls.push c)) := by
    unfold Scene.leak
    rw [hc, hstep]
    exact Option.or_none
  rcases Browser.make_cases c d with ⟨hnone, hok⟩ | ⟨f, hsome, herror⟩
  · obtain ⟨a, hrun⟩ := htold (Browser.called c d)
    have hr : r = .ok a (Browser.called c d) := (bind_ok hok _).trans hrun
    rw [hleak, hnone, hr]
    exact ⟨rfl, rfl⟩
  · have hr : r = .error f (Browser.called c d) := bind_error herror _
    rw [hleak, hsome, hr]
    exact ⟨rfl, rfl⟩

theorem legible_browser : Legible Browser.engine stage browserLooks := by
  intro c hc d
  cases c with
  | tagName node =>
      cases node with
      | page _ => exact ⟨rfl, rfl⟩
      | element name =>
          let told : Work String := do return (← Browser.elementOf (.element name)).tag
          exact look_ends (c := .readTag (.element name)) rfl (fun _ => rfl) told (fun _ => ⟨_, rfl⟩) d
  | textContent node =>
      cases node with
      | page number =>
          let told : Work String := do return Text.normalize ((← Desk.read).world.body.getD "")
          exact look_ends (c := .bodyText number) rfl (fun _ => rfl) told (fun _ => ⟨_, rfl⟩) d
      | element name =>
          let told : Work String := do return Text.normalize ((← Browser.elementOf (.element name)).innerText.getD "")
          exact look_ends (c := .innerText (.element name)) rfl (fun _ => rfl) told (fun _ => ⟨_, rfl⟩) d
  | attr node asked =>
      cases node with
      | page _ => exact ⟨rfl, rfl⟩
      | element name =>
          let told : Work (Option String) := do return (← Browser.elementOf (.element name)).attrs.lookup asked
          exact look_ends (c := .readAttr (.element name) asked) rfl (fun _ => rfl) told (fun _ => ⟨_, rfl⟩) d
  | _ => cases hc

/-- The calls that look at an element: at its tag, at its text, and at each attribute that is asked for. -/
def readCalls (names : List String) (h : Handle) : List Call :=
  .readTag h :: .innerText h :: names.map (.readAttr h)

/-- The failure of the first of some calls that lets one out; calls that have been made already stand before them. -/
def firstLeak (scene : Scene) : Array Call → List Call → Option Failure
  | _, [] => none
  | before, c :: cs => (scene.leak before c).or (firstLeak scene (before.push c) cs)

/-- Looks fail as the first of their calls that does. -/
theorem failure_browserLooks (v : Stage) (cs : List (Engine.Call Handle)) :
    browserLooks.failure v cs = firstLeak v.scene v.calls (cs.filterMap lookCall) := by
  induction cs generalizing v with
  | nil => rfl
  | cons c cs ih =>
      rw [Looks.failure, ih]
      unfold browserLooks
      dsimp only
      cases hcall : lookCall c with
      | none =>
          rw [List.filterMap_cons_none hcall]
          exact Option.none_or
      | some call =>
          rw [List.filterMap_cons_some hcall]
          rfl

/-- A look adds to the calls, and changes nothing else. -/
theorem next_browserLooks (v : Stage) (c : Engine.Call Handle) : ∃ calls, browserLooks.next v c = { v with calls } := by
  unfold browserLooks
  dsimp only
  cases lookCall c with
  | none => exact ⟨v.calls, rfl⟩
  | some call => exact ⟨v.calls.push call, rfl⟩

/-- So do several looks. -/
theorem last_browserLooks (v : Stage) (cs : List (Engine.Call Handle)) :
    ∃ calls, browserLooks.last v cs = { v with calls } := by
  induction cs generalizing v with
  | nil => exact ⟨v.calls, rfl⟩
  | cons c cs ih =>
      obtain ⟨calls, hcalls⟩ := next_browserLooks v c
      unfold Looks.last
      split
      · exact ⟨calls, hcalls⟩
      · obtain ⟨calls', hcalls'⟩ := ih (browserLooks.next v c)
        rw [hcalls', hcalls]
        exact ⟨calls', rfl⟩

theorem filterMap_looks (names : List String) (elements : List String) :
    ((elements.map Handle.element).flatMap (looks names)).filterMap lookCall =
      (elements.map Handle.element).flatMap (readCalls names) := by
  have hmatch (name : String) : (looks names (.element name)).filterMap lookCall = readCalls names (.element name) := by
    have hattrs : (names.map (Engine.Call.attr (Handle.element name))).filterMap lookCall =
        names.map (.readAttr (.element name)) := by
      have hcall : lookCall ∘ Engine.Call.attr (.element name) = some ∘ Call.readAttr (.element name) := rfl
      rw [List.filterMap_map, hcall]
      exact congrFun List.filterMap_eq_map names
    exact congrArg (fun attrs => Call.readTag (.element name) :: .innerText (.element name) :: attrs) hattrs
  induction elements with
  | nil => rfl
  | cons name elements ih =>
      rw [List.map_cons, List.flatMap_cons, List.flatMap_cons, List.filterMap_append, hmatch, ih]

/-! ## Loading the page -/

/-- The calls so far, once the first page of a new browser was visited. -/
def visited (o : Options) (w : World) (url : String) : Array Call :=
  (Browser.launchCalls o w.launch ++ [Call.visit w.launch.page url]).toArray

/-- A page opens in a new browser: going there does not fail, and no error in its scripts counts as a failure. -/
structure PageOpens (o : Options) (w : World) (i : Incidents) (url : String) : Prop where
  called : (i (visited o w url)).failure = none
  reached : (Browser.nextStep w.visits).failure = none
  settled : (i (visited o w url)).errors = [] ∧ (Browser.nextStep w.visits).errors = [] ∨ o.failOnScriptError = false

/-- The stage once the first page of a new browser was visited. -/
def opened (o : Options) (w : World) (i : Incidents) (url : String) : Stage :=
  ⟨sceneOf w i, visited o w url, .all w.launch, w.closeContext, w.closeBrowser⟩

/-- What is still to happen in a new browser that was launched. -/
def launched (o : Options) (w : World) (i : Incidents) : Browser.Agenda :=
  ⟨sceneOf w i, w.visits, w.loads, w.closeContext, w.closeBrowser, (Browser.launchCalls o w.launch).toArray⟩

/-- A page opens just when the visit does not fail, and nothing that it delivers is a failure. -/
theorem pageOpens_iff : PageOpens o w i url ↔ (launched o w i).smooth [.visit w.launch.page url] = true ∧
    ¬ (o.failOnScriptError = true ∧ (launched o w i).deliveries [.visit w.launch.page url] ≠ []) := by
  have hcalled : (launched o w i).befalls (.visit w.launch.page url) = i (visited o w url) := rfl
  have hturn : (launched o w i).turn (.visit w.launch.page url) = Browser.nextStep w.visits := rfl
  unfold Browser.Agenda.smooth Browser.Agenda.succeeds Browser.Agenda.deliveries Browser.Agenda.deliveredBy
  simp only [hcalled, hturn, Browser.Agenda.smooth, Browser.Agenda.deliveries, Browser.delivered, Bool.and_true,
    Bool.and_eq_true, Option.isNone_iff_eq_none]
  constructor
  · rintro ⟨hcalled, hreached, hsettled⟩
    refine ⟨⟨hcalled, hreached⟩, ?_⟩
    rintro ⟨hcounts, hsome⟩
    rcases hsettled with ⟨hnone, hnone'⟩ | hquiet
    · simp [hcalled, hreached, hnone, hnone'] at hsome
    · rw [hquiet] at hcounts
      cases hcounts
  · rintro ⟨⟨hcalled, hreached⟩, hquiet⟩
    refine ⟨hcalled, hreached, ?_⟩
    cases hcounts : o.failOnScriptError with
    | false => exact .inr rfl
    | true => simpa [hcalled, hreached, hcounts] using hquiet

/-- The load of the first page in a new browser. -/
theorem loadDocument_start (o : Options) (w : World) (i : Incidents) (url : String) (j : Journal) :
    ∃ d, stage d.device = opened o w i url ∧
      ((PageOpens o w i url ∧ Browser.loadDocument url ⟨.start o w i, j⟩ = .ok (.page w.launch.page) d) ∨
        ¬ PageOpens o w i url ∧ ∃ f, f.isCrawl = true ∧ Browser.loadDocument url ⟨.start o w i, j⟩ = .error f d) := by
  obtain ⟨d₁, hlaunch, hagenda, hoptions⟩ : ∃ d₁, Browser.ensurePage ⟨.start o w i, j⟩ = .ok w.launch.page d₁ ∧
      d₁.device.agenda = launched o w i ∧ d₁.device.options = o := ⟨_, rfl, rfl, rfl⟩
  have hg (reason : String) : (Failure.navigation (.notLoaded url reason)).kind ≠ .scriptError := nofun
  obtain ⟨hafter, hreports⟩ := Browser.collected_reports (d := d₁) (Browser.collects_visit w.launch.page url _)
    (Browser.mute_visit w.launch.page url) hg w.launch.page
  rw [← show Browser.loadDocument url ⟨.start o w i, j⟩ = _ from bind_ok hlaunch _, hagenda] at hafter hreports
  have hheld : (stateOf (Browser.loadDocument url ⟨.start o w i, j⟩)).device.held = .all w.launch :=
    congrArg Browser.Course.held (Browser.course_loadDocument url ⟨.start o w i, j⟩)
  have hfails := (Browser.covered_loadDocument url).fails ⟨.start o w i, j⟩
  have hstage : stage (stateOf (Browser.loadDocument url ⟨.start o w i, j⟩)).device = opened o w i url := by
    have hparts (s : State) : stage s =
        ⟨s.agenda.scene, s.agenda.calls, s.held, s.agenda.closeContext, s.agenda.closeBrowser⟩ := rfl
    rw [hparts, hafter, hheld]
    simp only [Browser.Agenda.afterAll, List.foldl_cons, List.foldl_nil, Browser.Agenda.after]
    split <;> rfl
  refine ⟨_, hstage, ?_⟩
  rw [pageOpens_iff]
  unfold Browser.Reports at hreports
  rw [hoptions] at hreports
  cases hr : Browser.loadDocument url ⟨.start o w i, j⟩ with
  | ok page d =>
      rw [hr] at hreports
      split at hreports
      · next hsmooth =>
          split at hreports
          · cases hreports.1
          · next hquiet =>
              cases hreports.1
              exact .inl ⟨⟨hsmooth, hquiet⟩, rfl⟩
      · cases hreports.2
  | error f d =>
      rw [hr] at hreports hfails
      refine .inr ⟨?_, f, hfails f rfl, rfl⟩
      rintro ⟨hsmooth, hquiet⟩
      rw [if_pos hsmooth, if_neg hquiet] at hreports
      cases hreports.1

/-! ## Selecting the matches -/

/-- What a path selects on the page of a browser. -/
def found (w : World) (xpath : String) : Except Failure (List Handle) :=
  match w.find (.page w.launch.page) ("xpath=" ++ xpath) with
  | .names names => .ok (names.map .element)
  | .step step => match step.failure with
    | none => .ok []
    | some (_, reason) => .error (.invalidExpression xpath reason)

/-- The calls so far, once the matches of a path were asked for on that page. -/
def queried (o : Options) (w : World) (url xpath : String) : Array Call :=
  (visited o w url).push (.queryAll (.page w.launch.page) ("xpath=" ++ xpath))

/-- What a path selects on that page, unless something befalls the call. -/
def chosen (o : Options) (w : World) (i : Incidents) (url xpath : String) : Except Failure (List Handle) :=
  match (i (queried o w url xpath)).failure with
  | none => found w xpath
  | some (_, reason) => .error (.invalidExpression xpath reason)

/-- What a path finds are elements. -/
theorem found_ok {nodes : List Handle} (h : found w xpath = .ok nodes) :
    ∃ elements : List String, nodes = elements.map .element := by
  unfold found at h
  split at h
  · cases h
    exact ⟨_, rfl⟩
  · split at h
    · cases h
      exact ⟨[], rfl⟩
    · cases h

/-- A selection that fails is a failure of the crawl. -/
theorem chosen_fails (h : chosen o w i url xpath = .error f) : f.isCrawl = true := by
  unfold chosen found at h
  split at h
  · split at h
    · cases h
    · split at h
      · cases h
      · cases h
        rfl
  · cases h
    rfl

/-- The names that a selector finds on the page. -/
theorem names_eq (hselect : d.device.world.select = w.select) (page : Nat) (selector : String) :
    Browser.names (.page page) selector d = match w.find (.page page) selector with
      | .names names => .ok names d
      | .step step => (Browser.happen step >>= fun _ => pure []) d := by
  have hfind : d.device.world.find (.page page) selector = w.find (.page page) selector := by
    show (d.device.world.select.lookup selector).getD _ = (w.select.lookup selector).getD _
    rw [hselect]
  rw [Browser.names, bind_ok (read_eq d), hfind]
  cases w.find (.page page) selector <;> rfl

/-- Asking for the matches is one call, and the selection is what the browser finds. -/
theorem findByPath_called {d' : Desk State} {page : Nat} (hselect : d'.device.world.select = w.select)
    (hpage : page = w.launch.page) (hmake : Browser.make (.queryAll (.page page) ("xpath=" ++ xpath)) d = .ok () d') :
    ∃ d₁, stage d₁.device = stage d'.device ∧ Browser.findByPath (.page page) xpath d = endsAt d₁ (found w xpath) := by
  have hnames := names_eq hselect page ("xpath=" ++ xpath)
  have hquery : Browser.queryAll (.page page) ("xpath=" ++ xpath) d =
      (Browser.names (.page page) ("xpath=" ++ xpath) >>= fun names => pure (names.map .element)) d' := bind_ok hmake _
  unfold found Browser.findByPath Browser.translate Action.recast
  rw [hquery, ← hpage]
  -- the selector finds elements, finds none after a step, or fails and is translated
  rcases hfind : w.find (.page page) ("xpath=" ++ xpath) with names | ⟨address, errors, _ | ⟨timedOut, reason⟩⟩
  · rw [hfind] at hnames
    rw [bind_ok hnames]
    exact ⟨d', rfl, rfl⟩
  · rw [hfind] at hnames
    rw [bind_ok (hnames.trans rfl)]
    exact ⟨⟨d'.device.turned ⟨address, errors, none⟩, d'.journal⟩, rfl, rfl⟩
  · rw [hfind] at hnames
    rw [bind_error (hnames.trans rfl)]
    exact ⟨⟨d'.device.turned ⟨address, errors, some (timedOut, reason)⟩, d'.journal⟩, rfl, rfl⟩

theorem selects_browser (o : Options) (w : World) (i : Incidents) (url xpath : String) :
    Selects Browser.engine stage (opened o w i url) (.page w.launch.page) xpath (chosen o w i url xpath)
      { opened o w i url with calls := queried o w url xpath } := by
  intro d hd
  let c : Call := .queryAll (.page w.launch.page) ("xpath=" ++ xpath)
  have hbefalls : d.device.incident (d.device.calls.push c) = i (queried o w url xpath) := by
    rw [show d.device.incident = i from congrArg (·.scene.incident) hd,
      show d.device.calls = visited o w url from congrArg Stage.calls hd]
    rfl
  have hstage : stage (Browser.called c d).device = { opened o w i url with calls := queried o w url xpath } := by
    have hcalled : stage (Browser.called c d).device = { stage d.device with calls := (stage d.device).calls.push c } := rfl
    rw [hcalled, hd]
    rfl
  have hmake := Browser.make_cases c d
  rw [hbefalls] at hmake
  rcases hfails : (i (queried o w url xpath)).failure with _ | ⟨timedOut, reason⟩
  · have hok : Browser.make c d = .ok () (Browser.called c d) := by
      rcases hmake with ⟨-, hok⟩ | ⟨f, hsome, -⟩
      · exact hok
      · rw [Browser.failureIn_eq_none.mpr hfails] at hsome
        cases hsome
    have hchosen : chosen o w i url xpath = found w xpath := by
      unfold chosen
      rw [hfails]
    have hselect : (Browser.called c d).device.world.select = w.select := congrArg (·.scene.select) hd
    obtain ⟨d₁, hstage₁, hfind⟩ := findByPath_called hselect rfl hok
    rw [hchosen]
    exact ⟨d₁, hstage₁.trans hstage, hfind⟩
  · have herror : Browser.make c d = .error (.browser timedOut reason) (Browser.called c d) := by
      rcases hmake with ⟨hnone, -⟩ | ⟨f, hsome, herror⟩
      · rw [Browser.failureIn_eq_none, hfails] at hnone
        cases hnone
      · unfold Scene.failureIn at hsome
        rw [hfails] at hsome
        cases hsome
        exact herror
    have hchosen : chosen o w i url xpath = .error (.invalidExpression xpath reason) := by
      unfold chosen
      rw [hfails]
    rw [hchosen]
    refine ⟨Browser.called c d, hstage, ?_⟩
    show Browser.findByPath (.page w.launch.page) xpath d = _
    unfold Browser.findByPath Browser.translate Action.recast
    rw [show Browser.queryAll (.page w.launch.page) ("xpath=" ++ xpath) d = _ from bind_error herror _]
    rfl

/-! ## Closing the browser -/

/-- The failure with which a browser that is there is closed: that of its context, or else its own. -/
def closingFailure (closeContext closeBrowser : Step) : Option Failure :=
  (Scene.failureIn closeContext).or (Scene.failureIn closeBrowser)

/-- Closing fails as the release of what is held does. -/
theorem failureOf_close (d : Desk State) : failureOf (Browser.engine.close d) =
    d.device.held.failure d.device.world.closeContext d.device.world.closeBrowser := by
  obtain ⟨-, -, -, -, -, hfailure⟩ := Browser.close_ends d
  exact hfailure

theorem failureOf_close_opened {calls : Array Call} (h : stage d.device = { opened o w i url with calls }) :
    failureOf (Browser.engine.close d) = closingFailure w.closeContext w.closeBrowser := by
  have hheld : d.device.held = .all w.launch := congrArg Stage.held h
  have hcontext : d.device.world.closeContext = w.closeContext := congrArg Stage.closeContext h
  have hbrowser : d.device.world.closeBrowser = w.closeBrowser := congrArg Stage.closeBrowser h
  rw [failureOf_close, hheld, hcontext, hbrowser]
  rfl

/-! ## The whole listing -/

/-- The failures, other than the crawl's own, with which the matches on the page of a browser are read. -/
inductive BrowserUnreadable (o : Options) (w : World) (i : Incidents) (url xpath : String) (names : List String) :
    Failure → Prop
  | emptyPath (empty : xpath = "") :
      BrowserUnreadable o w i url xpath names (.refused (.descriptor (.emptyValue .xpath)))
  | look {nodes : List Handle} {f : Failure} (path : xpath ≠ "") (called : (i (queried o w url xpath)).failure = none)
      (found : found w xpath = .ok nodes)
      (leaks : firstLeak (sceneOf w i) (queried o w url xpath) (nodes.flatMap (readCalls names)) = some f) :
      BrowserUnreadable o w i url xpath names f

/-- The failures, other than the crawl's own, that leave a listing on a new browser. -/
inductive BrowserEscape (o : Options) (w : World) (i : Incidents) (url xpath : String) (names : List String) (f : Failure) :
    Prop
  | closing (address : url ≠ "") (fails : closingFailure w.closeContext w.closeBrowser = some f)
  | reading (address : url ≠ "") (closes : closingFailure w.closeContext w.closeBrowser = none)
      (opens : PageOpens o w i url) (unreadable : BrowserUnreadable o w i url xpath names f)

theorem failureIn_not_isCrawl {step : Step} (h : Scene.failureIn step = some f) : f.isCrawl = false := by
  obtain ⟨timedOut, message, rfl⟩ := Scene.browser_of_failureIn h
  cases timedOut <;> rfl

theorem firstLeak_not_isCrawl {scene : Scene} {before : Array Call} {cs : List Call}
    (h : firstLeak scene before cs = some f) : f.isCrawl = false := by
  induction cs generalizing before with
  | nil => cases h
  | cons c cs ih =>
      rcases Option.or_eq_some_iff.mp h with hc | ⟨-, hcs⟩
      · unfold Scene.leak at hc
        split at hc
        · rcases Option.or_eq_some_iff.mp hc with h | ⟨-, h⟩
          · exact failureIn_not_isCrawl h
          · exact failureIn_not_isCrawl h
        · cases hc
      · exact ih hcs

theorem BrowserEscape.not_isCrawl (h : BrowserEscape o w i url xpath names f) : f.isCrawl = false := by
  cases h with
  | closing _ fails =>
      rcases Option.or_eq_some_iff.mp fails with h | ⟨-, h⟩
      · exact failureIn_not_isCrawl h
      · exact failureIn_not_isCrawl h
  | reading _ _ _ unreadable =>
      cases unreadable with
      | emptyPath _ => rfl
      | look _ _ _ leaks => exact firstLeak_not_isCrawl leaks

/-- The failures with which the matches on the page of a browser are read. -/
theorem browserUnreadable_iff (hf : f.isCrawl = false) :
    (if xpath = "" then some (.refused (.descriptor (.emptyValue .xpath)))
      else readFailure browserLooks names { opened o w i url with calls := queried o w url xpath }
        (chosen o w i url xpath)) = some f ↔ BrowserUnreadable o w i url xpath names f := by
  by_cases hpath : xpath = ""
  · rw [if_pos hpath]
    constructor
    · intro h
      cases h
      exact .emptyPath hpath
    · intro h
      cases h with
      | emptyPath _ => rfl
      | look path _ _ _ => exact absurd hpath path
  rw [if_neg hpath]
  have hread {nodes : List Handle} (hfound : found w xpath = .ok nodes) :
      readFailure browserLooks names { opened o w i url with calls := queried o w url xpath } (.ok nodes) =
        firstLeak (sceneOf w i) (queried o w url xpath) (nodes.flatMap (readCalls names)) := by
    obtain ⟨elements, rfl⟩ := found_ok hfound
    rw [readFailure, failure_browserLooks, filterMap_looks]
    rfl
  constructor
  · intro h
    cases hchosen : chosen o w i url xpath with
    | error g =>
        rw [hchosen] at h
        cases h
        rw [chosen_fails hchosen] at hf
        cases hf
    | ok nodes =>
        rw [hchosen] at h
        obtain ⟨hcalled, hfound⟩ : (i (queried o w url xpath)).failure = none ∧ found w xpath = .ok nodes := by
          unfold chosen at hchosen
          split at hchosen
          · next hnone => exact ⟨hnone, hchosen⟩
          · cases hchosen
        exact .look hpath hcalled hfound ((hread hfound).symm.trans h)
  · intro h
    cases h with
    | emptyPath empty => exact absurd empty hpath
    | look _ called hfound leaks =>
        have hchosen : chosen o w i url xpath = found w xpath := by
          unfold chosen
          rw [called]
        rw [hchosen, hfound]
        exact (hread hfound).trans leaks

/-- What is left once the matches were read or not: more calls than at the visit, and else the same stage. -/
theorem readLast_browser (found : Except Failure (List Handle)) (v : Stage) :
    ∃ calls, readLast browserLooks names v found = { v with calls } := by
  cases found with
  | error f => exact ⟨v.calls, rfl⟩
  | ok nodes => exact last_browserLooks v _

/-- A listing that comes to an address: the page opens and the matches are read, or the crawl fails; in any case the
browser is there when it is closed. -/
theorem collect_browser (o : Options) (w : World) (i : Incidents) (xpath : String) (names : List String) (hurl : url ≠ "") :
    let r := collect Browser.engine url xpath names (Session.start (.start o w i) [])
    (∃ calls, stage (stateOf r).desk.device = { opened o w i url with calls }) ∧
      ∀ f, f.isCrawl = false →
        (failureOf r = some f ↔ PageOpens o w i url ∧ BrowserUnreadable o w i url xpath names f) := by
  intro r
  obtain ⟨d, hstage, ⟨hopens, hload⟩ | ⟨hnot, g, hg, hload⟩⟩ := loadDocument_start o w i url (arrival url)
  · obtain ⟨hfailure, hlast⟩ := collect_ends Browser.engine (State.start o w i) xpath names hurl legible_browser hload hstage
      (selects_browser o w i url xpath)
    refine ⟨?_, fun f hf => ?_⟩
    · rw [hlast]
      split
      · exact ⟨_, rfl⟩
      · exact readLast_browser _ _
    · rw [hfailure, browserUnreadable_iff hf]
      exact ⟨fun h => ⟨hopens, h⟩, And.right⟩
  · obtain ⟨s, hrun, hdesk⟩ := collect_notLoaded Browser.engine (State.start o w i) xpath names hurl hload
    have hr : r = .error g s := hrun
    rw [hr]
    refine ⟨⟨visited o w url, ?_⟩, fun f hf => ?_⟩
    · show stage s.desk.device = _
      rw [hdesk]
      exact hstage
    · constructor
      · intro h
        cases h
        rw [hg] at hf
        cases hf
      · rintro ⟨hopens, -⟩
        exact absurd hopens hnot

/-- **Escapes on the browser engine.** A listing fails with a failure that is not the crawl's own just when closing the
browser fails, or when the page opens and then the path is empty or a look at one of the matches fails. -/
theorem browser_escape_iff (hf : f.isCrawl = false) :
    failureOf (list Browser.engine url xpath names (Session.start (.start o w i) [])) = some f ↔
      BrowserEscape o w i url xpath names f := by
  rw [failureOf_list]
  by_cases hurl : url = ""
  · obtain ⟨s, hrun, hdevice⟩ := collect_noAddress Browser.engine (State.start o w i) xpath names
    have hclose : failureOf (Browser.engine.close s.desk) = none := by
      rw [failureOf_close, hdevice]
      rfl
    rw [hurl, hrun]
    show (failureOf (Browser.engine.close s.desk)).or _ = _ ↔ _
    rw [hclose]
    constructor
    · intro h
      cases h
      cases hf
    · intro h
      cases h with
      | closing address _ => exact absurd rfl address
      | reading address _ _ _ => exact absurd rfl address
  obtain ⟨⟨calls, hstage⟩, hfailure⟩ := collect_browser o w i xpath names hurl
  rw [failureOf_close_opened hstage]
  constructor
  · intro h
    rcases Option.or_eq_some_iff.mp h with hclosing | ⟨hcloses, hrest⟩
    · exact .closing hurl hclosing
    · obtain ⟨hopens, hunreadable⟩ := (hfailure f hf).mp hrest
      exact .reading hurl hcloses hopens hunreadable
  · intro h
    cases h with
    | closing _ fails => exact Option.or_eq_some_iff.mpr (.inl fails)
    | reading _ closes opens unreadable =>
        exact Option.or_eq_some_iff.mpr (.inr ⟨closes, (hfailure f hf).mpr ⟨opens, unreadable⟩⟩)

end Crawl.Command
