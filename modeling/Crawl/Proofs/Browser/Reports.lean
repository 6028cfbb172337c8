import Crawl.Proofs.Browser.Launches
import Crawl.Proofs.Browser.Silence
/-!
# Which errors of scripts a call reports

A load and a click start with no error pending, collect what their own calls to the browser deliver, and report that: as
one failure, or as a warning for each error. Every other method of the engine reports nothing, whatever was delivered
meanwhile, and what is left pending when a load or a click fails is forgotten by the next one. So over a whole run of
calls to the engine every report is what was delivered during the very call that made it (`reports_own`).

It is not always all of it. A click first looks up the page of its element, and forgets the errors pending only then, just
before the click itself. What scripts report meanwhile, while the page is looked up, is delivered during that call and
never reported (`early_unreported`).
-/

namespace Crawl.Browser

open Crawl.Action (stateOf failureOf valueOf bind_ok bind_error read_eq)

/-! ## Reports -/

/-- The warning about an error in a script of the page with the given address. -/
def ignored (url message : String) : Entry :=
  ⟨.warning, .browserEngine, "Ignoring script error on " ++ url ++ ": " ++ message⟩

/-- A call that ended in `r` reported some errors and led to a page: it failed with all of them, if errors of scripts are
failures and there are any, and else it wrote one warning for each. -/
def Reports (page : Nat) (errors : List String) (d : Desk State) (r : EStateM.Result Failure (Desk State) Handle) : Prop :=
  let url := (stateOf r).device.world.url
  if d.device.options.failOnScriptError = true ∧ errors ≠ [] then
    failureOf r = some (.script url errors) ∧ warnings (stateOf r).journal = warnings d.journal
  else valueOf r = some (.page page) ∧ warnings (stateOf r).journal = warnings d.journal ++ errors.map (ignored url)

/-- What was reported is told from the journal and the options before. -/
theorem Reports.of_eq {page : Nat} {errors : List String} {d d' : Desk State}
    {r : EStateM.Result Failure (Desk State) Handle} (h : Reports page errors d' r)
    (hoptions : d'.device.options = d.device.options) (hwarnings : warnings d'.journal = warnings d.journal) :
    Reports page errors d r := by
  unfold Reports at h ⊢
  rw [hoptions, hwarnings] at h
  exact h

theorem warnAll_eq (url : String) (errors : List String) (d : Desk State) :
    ∃ j, warnAll url errors d = .ok () ⟨d.device, j⟩ ∧ warnings j = warnings d.journal ++ errors.map (ignored url) := by
  induction errors generalizing d with
  | nil => exact ⟨d.journal, rfl, (List.append_nil _).symm⟩
  | cons m ms ih =>
      obtain ⟨j, hrun, hwarnings⟩ := ih ⟨d.device, d.journal.push (ignored url m)⟩
      refine ⟨j, hrun, ?_⟩
      rw [hwarnings, warnings_push, List.append_assoc]
      rfl

/-- Settling reports what is pending, and makes no call. -/
theorem settle_reports (page : Nat) (d : Desk State) :
    Reports page d.device.pending d ((settle >>= fun _ => pure (Handle.page page)) d) ∧
      (stateOf ((settle >>= fun _ => pure (Handle.page page)) d)).device.agenda = d.device.agenda := by
  obtain ⟨⟨options, world, calls, driver, browser, context, held, pending, incident⟩, journal⟩ := d
  -- the desk once the pending errors are taken away, with which settling goes on
  let settled : Desk State := ⟨⟨options, world, calls, driver, browser, context, held, [], incident⟩, journal⟩
  unfold Reports
  cases pending with
  | nil =>
      rw [if_neg fun h => h.2 rfl]
      exact ⟨⟨rfl, (List.append_nil _).symm⟩, rfl⟩
  | cons m ms =>
      have hsettle : settle ⟨⟨options, world, calls, driver, browser, context, held, m :: ms, incident⟩, journal⟩ =
          (if options.failOnScriptError then throw (.script world.url (m :: ms)) else warnAll world.url (m :: ms) : Work Unit)
            settled := rfl
      cases hcounts : options.failOnScriptError with
      | true =>
          rw [hcounts] at hsettle
          rw [if_pos ⟨rfl, nofun⟩, bind_error (hsettle.trans rfl)]
          exact ⟨⟨rfl, rfl⟩, rfl⟩
      | false =>
          obtain ⟨j, hrun, hwarnings⟩ := warnAll_eq world.url (m :: ms) settled
          rw [hcounts] at hsettle
          rw [if_neg (fun h => nomatch h.1), bind_ok (hsettle.trans hrun)]
          exact ⟨⟨rfl, hwarnings⟩, rfl⟩

/-! ## Calls of a run -/

/-- A call to the engine, and the desk at which it was made. -/
structure Exchange where
  call : Engine.Call Handle
  before : Desk State

/-- Some calls to the engine, made one after the other, whatever each of them ends with. -/
def exchanges : Desk State → List (Engine.Call Handle) → List Exchange
  | _, [] => []
  | d, c :: cs => ⟨c, d⟩ :: exchanges (stateOf (engine.perform c d)) cs

namespace Exchange

/-- The desk after a call. -/
def after (x : Exchange) : Desk State := stateOf (engine.perform x.call x.before)

/-- The calls to the browser that were made during a call to the engine. -/
def made (x : Exchange) : List Call := x.after.device.calls.toList.drop x.before.device.calls.size

/-- The errors that were delivered during a call. -/
def delivered (x : Exchange) : List String := x.before.device.agenda.deliveries x.made

/-- The call with which the page of an element is looked up before the element is clicked. -/
def lookUp (x : Exchange) : List Call :=
  match x.call with
  | .activate (.element name) => [.ownerFrame (.element name)]
  | _ => []

/-- The errors that were delivered during a call while it looked up its page. -/
def early (x : Exchange) : List String := x.before.device.agenda.deliveries x.lookUp

/-- The errors that were delivered during a call after that: all, unless it is a click. -/
def due (x : Exchange) : List String :=
  (x.before.device.agenda.afterAll x.lookUp).deliveries (x.made.drop x.lookUp.length)

/-- None of the calls to the browser failed. -/
def smooth (x : Exchange) : Bool := x.before.device.agenda.smooth x.made

/-- The page that a call is about: the one that is held or else opened for a load, and that of the element for a click. An
element that is in no frame is taken to be on the page that is held, if there is any. -/
def page? (x : Exchange) : Option Nat :=
  match x.call with
  | .loadDocument _ => some (x.before.device.page.getD x.before.device.world.launch.page)
  | .activate (.element name) => (x.before.device.world.element name).frame.or x.before.device.page
  | _ => none

/-- What a load or a click that ended in `r` told: if it is about some page, and no call to the browser failed, it reported
the given errors. Otherwise it failed and reported nothing. -/
def Told (x : Exchange) (errors : List String) (r : EStateM.Result Failure (Desk State) Handle) : Prop :=
  match x.page?.filter fun _ => x.smooth with
  | some page => Reports page errors x.before r
  | none => Silent x.before r ∧ (failureOf r).isSome

/-- What a call reported: a load and a click told the given errors, and every other call reported nothing. -/
def Attributed (x : Exchange) (errors : List String) : Prop :=
  match x.call with
  | .loadDocument url => x.Told errors (loadDocument url x.before)
  | .activate node => x.Told errors (activate node x.before)
  | c => Silent x.before (engine.perform c x.before)

end Exchange

/-- The end of a load and of a click: what is pending is forgotten, something collects errors, its failures are
translated, and what was collected is reported. -/
theorem collected_reports {act : Work Unit} {d : Desk State} {made : List Call}
    (hact : Collects act ⟨{ d.device with pending := [] }, d.journal⟩ made) (hmute : Mute act) {g : String → Failure}
    (hg : ∀ reason, (g reason).kind ≠ .scriptError) (page : Nat) :
    let r := (clearErrors >>= fun _ => translate g act >>= fun _ => settle >>= fun _ => pure (Handle.page page)) d
    (stateOf r).device.agenda = d.device.agenda.afterAll made ∧
      if d.device.agenda.smooth made then Reports page (d.device.agenda.deliveries made) d r
      else Silent d r ∧ (failureOf r).isSome := by
  intro r
  let d₀ : Desk State := ⟨{ d.device with pending := [] }, d.journal⟩
  have hclear : r = (translate g act >>= fun _ => settle >>= fun _ => pure (Handle.page page)) d₀ := rfl
  obtain ⟨hgathers, hsmooth, -⟩ := hact
  have hsilent := Mute.translate hg hmute d₀
  rw [show (⟨{ d.device with pending := [] }, d.journal⟩ : Desk State).device.agenda = d.device.agenda from rfl] at hsmooth
  rw [hclear]
  -- settling comes only after calls that all succeeded: a failure leaves what is pending for the next load to forget
  cases hr : act d₀ with
  | ok u d₁ =>
      rw [hr] at hgathers hsmooth
      have htranslate : translate g act d₀ = .ok u d₁ := by
        unfold Browser.translate Action.recast
        rw [hr]
      rw [htranslate] at hsilent
      obtain ⟨hreports, hagenda⟩ := settle_reports page d₁
      have hpending : d₁.device.pending = d.device.agenda.deliveries made := hgathers.pending
      rw [bind_ok htranslate, ← hsmooth]
      refine ⟨hagenda.trans hgathers.agenda, ?_⟩
      rw [← hpending]
      exact hreports.of_eq hgathers.options hsilent.1
  | error f d₁ =>
      rw [hr] at hgathers hsmooth
      obtain ⟨f', htranslate⟩ : ∃ f', translate g act d₀ = .error f' d₁ := by
        unfold Browser.translate Action.recast
        rw [hr]
        exact ⟨_, rfl⟩
      rw [htranslate] at hsilent
      rw [bind_error htranslate, ← hsmooth]
      exact ⟨hgathers.agenda, hsilent, rfl⟩

theorem Exchange.made_eq {x : Exchange} {made : List Call}
    (h : x.after.device.agenda = x.before.device.agenda.afterAll made) :
    x.made = made := by
  have hcalls : x.after.device.calls = x.before.device.calls ++ made :=
    (congrArg Agenda.calls h).trans (Agenda.calls_afterAll _ _)
  unfold Exchange.made
  rw [hcalls, Array.toList_appendList]
  exact List.drop_left

/-- Launching the browser delivers nothing. -/
theorem ensurePage_quiet (d : Desk State) : ∃ launch d',
    ensurePage d = .ok (d.device.page.getD d.device.world.launch.page) d' ∧
    d'.device.agenda = d.device.agenda.afterAll launch ∧ d.device.agenda.deliveries launch = [] ∧
    d.device.agenda.smooth launch = true ∧ d'.device.options = d.device.options := by
  obtain ⟨⟨options, world, calls, driver, browser, context, page, pending, incident⟩, journal⟩ := d
  cases page with
  | some page => exact ⟨[], _, rfl, rfl, rfl, rfl, rfl⟩
  | none => exact ⟨launchCalls options world.launch, _, rfl, rfl, rfl, rfl, rfl⟩

/-- What was done before a load or a click collects anything, made some calls that did not fail. -/
theorem Exchange.told_of {x : Exchange} {page : Nat} {r : EStateM.Result Failure (Desk State) Handle} {d : Desk State}
    {before made : List Call} (hpage : x.page? = some page) (hwarnings : warnings d.journal = warnings x.before.journal)
    (hoptions : d.device.options = x.before.device.options)
    (hagenda : d.device.agenda = x.before.device.agenda.afterAll before)
    (hsmooth : x.before.device.agenda.smooth before = true)
    (hmade : (stateOf r).device.agenda = d.device.agenda.afterAll made) (hx : x.after = stateOf r)
    (h : if d.device.agenda.smooth made then Reports page (d.device.agenda.deliveries made) d r
      else Silent d r ∧ (failureOf r).isSome) :
    x.made = before ++ made ∧ x.Told ((x.before.device.agenda.afterAll before).deliveries made) r := by
  have hall : x.made = before ++ made := by
    refine x.made_eq ?_
    rw [hx, hmade, hagenda, Agenda.afterAll_append]
  refine ⟨hall, ?_⟩
  have hsmooth' : x.smooth = d.device.agenda.smooth made := by
    rw [Exchange.smooth, hall, Agenda.smooth_append, hsmooth, hagenda, Bool.true_and]
  unfold Told
  rw [hpage, hsmooth', ← hagenda]
  cases hmadeSmooth : d.device.agenda.smooth made with
  | true =>
      rw [hmadeSmooth] at h
      exact Reports.of_eq h hoptions hwarnings
  | false =>
      rw [hmadeSmooth] at h
      exact ⟨⟨h.1.1.trans hwarnings, h.1.2⟩, h.2⟩

/-- A call that is about no page, or whose calls to the browser did not all succeed, has failed and reported nothing. -/
theorem Exchange.told_none {x : Exchange} {errors : List String} {r : EStateM.Result Failure (Desk State) Handle}
    (hno : x.page? = none ∨ x.smooth = false) (hsilent : Silent x.before r) (hfails : (failureOf r).isSome) :
    x.Told errors r := by
  have hnone : (x.page?.filter fun _ => x.smooth) = none := by
    rcases hno with hpage | hsmooth
    · rw [hpage]
      rfl
    · rw [hsmooth]
      cases x.page? <;> rfl
  unfold Told
  rw [hnone]
  exact ⟨hsilent, hfails⟩

theorem told_loadDocument (url : String) (d : Desk State) :
    Exchange.Told ⟨.loadDocument url, d⟩ (Exchange.delivered ⟨.loadDocument url, d⟩) (loadDocument url d) := by
  let x : Exchange := ⟨.loadDocument url, d⟩
  let page := d.device.page.getD d.device.world.launch.page
  obtain ⟨launch, d', hlaunch, hagenda, hquiet, hsmooth, hoptions⟩ := ensurePage_quiet d
  have hwarnings := (mute_ensurePage d).1
  rw [hlaunch] at hwarnings
  have hg (reason : String) : (Failure.navigation (.notLoaded url reason)).kind ≠ .scriptError := nofun
  obtain ⟨hmade, hreports⟩ := collected_reports (d := d') (collects_visit page url _) (mute_visit page url) hg page
  rw [← show loadDocument url d = _ from bind_ok hlaunch _] at hmade hreports
  obtain ⟨hall, htold⟩ := x.told_of rfl hwarnings hoptions hagenda hsmooth hmade rfl hreports
  have hdelivered : x.delivered = (d.device.agenda.afterAll launch).deliveries [.visit page url] := by
    show d.device.agenda.deliveries x.made = _
    rw [hall, Agenda.deliveries_append, hquiet, List.nil_append]
  rw [hdelivered]
  exact htold

/-- Looking up the page of an element is one call, and changes nothing that a click depends on. -/
theorem lookUp_cases (name : String) (d : Desk State) :
    let c : Call := .ownerFrame (.element name)
    ∃ d', d'.device.page = d.device.page ∧ d'.device.world.elements = d.device.world.elements ∧
      d'.device.options = d.device.options ∧ d'.journal = d.journal ∧ d'.device.agenda = d.device.agenda.after c ∧
      ((d.device.agenda.succeeds c = true ∧ make c d = .ok () d') ∨
        d.device.agenda.succeeds c = false ∧ ∃ f, make c d = .error f d') := by
  intro c
  have hsucceeds : d.device.agenda.succeeds c = (Scene.failureIn (d.device.agenda.befalls c)).isNone := by
    rw [isNone_failureIn]
    exact Bool.and_true _
  have hafter : d.device.agenda.after c = { d.device.agenda with calls := d.device.agenda.calls.push c } := by
    unfold Agenda.after
    split <;> rfl
  rw [hsucceeds, hafter]
  let called : State := { d.device with calls := d.device.calls.push c }
  refine ⟨⟨called.turned (d.device.agenda.befalls c), d.journal⟩, rfl, rfl, rfl, rfl, rfl, ?_⟩
  rcases happen_cases (d.device.agenda.befalls c) ⟨called, d.journal⟩ with ⟨hnone, hok⟩ | ⟨f, hsome, herror⟩
  · rw [hnone]
    exact .inl ⟨rfl, hok⟩
  · rw [hsome]
    exact .inr ⟨rfl, f, herror⟩

/-- The page of an element, once the look at it succeeded. -/
theorem ownerPage_lookedUp {name : String} {d d' : Desk State} (h : make (.ownerFrame (.element name)) d = .ok () d')
    (hpage : d'.device.page = d.device.page) (helements : d'.device.world.elements = d.device.world.elements) :
    ownerPage (.element name) d = match Exchange.page? ⟨.activate (.element name), d⟩ with
      | some page => .ok page d'
      | none => .error (.navigation .nothingLoaded) d' := by
  have helement : d'.device.world.element name = d.device.world.element name := by
    unfold World.element
    rw [helements]
  have hlook : elementOf (.element name) d' = .ok (d.device.world.element name) d' := by
    rw [← helement]
    rfl
  have hof : Exchange.page? ⟨.activate (.element name), d⟩ = (d.device.world.element name).frame.or d'.device.page := by
    rw [hpage]
    rfl
  rw [ownerPage, bind_ok h, bind_ok hlook, hof]
  cases (d.device.world.element name).frame with
  | some page => rfl
  | none =>
      dsimp only
      rw [Option.none_or, bind_ok (read_eq d')]
      cases d'.device.page <;> rfl

/-- A click looks up the page of its element first, and tells what is delivered after that. -/
theorem told_click (name : String) (d : Desk State) :
    Exchange.Told ⟨.activate (.element name), d⟩ (Exchange.due ⟨.activate (.element name), d⟩) (activate (.element name) d) ∧
      ∃ made, Exchange.made ⟨.activate (.element name), d⟩ = .ownerFrame (.element name) :: made := by
  let x : Exchange := ⟨.activate (.element name), d⟩
  obtain ⟨d', hpage, helements, hoptions, hjournal, hagenda, hlookUp⟩ := lookUp_cases name d
  have hwarnings : warnings d'.journal = warnings d.journal := congrArg warnings hjournal
  have hlooked : d'.device.agenda = d.device.agenda.afterAll [.ownerFrame (.element name)] := hagenda
  -- without a page to click on, the look is the only call
  have hended (f : Failure) (hrun : activate (.element name) d = .error f d') : x.made = [.ownerFrame (.element name)] := by
    refine x.made_eq ?_
    show (stateOf (activate (.element name) d)).device.agenda = _
    rw [hrun]
    exact hagenda
  rcases hlookUp with ⟨hsucceeds, hmake⟩ | ⟨hfails, f, hmake⟩
  · have howner := ownerPage_lookedUp hmake hpage helements
    cases hof : x.page? with
    | some page =>
        rw [hof] at howner
        have hg (reason : String) : (Failure.navigation (.notClicked (quoted (.element name)) reason)).kind ≠ .scriptError :=
          nofun
        obtain ⟨made, hpress⟩ := collecting_press page name ⟨{ d'.device with pending := [] }, d'.journal⟩
        obtain ⟨hmade, hreports⟩ := collected_reports hpress (mute_press page _) hg page
        rw [← show activate (.element name) d = _ from bind_ok howner _] at hmade hreports
        have hsmooth : d.device.agenda.smooth [.ownerFrame (.element name)] = true := by
          rw [Agenda.smooth, hsucceeds]
          rfl
        obtain ⟨hall, htold⟩ := x.told_of hof hwarnings hoptions hlooked hsmooth hmade rfl hreports
        have hdue : x.due = (d.device.agenda.afterAll [.ownerFrame (.element name)]).deliveries made := by
          show (d.device.agenda.afterAll _).deliveries (x.made.drop 1) = _
          rw [hall]
          rfl
        refine ⟨?_, made, hall⟩
        rw [hdue]
        exact htold
    | none =>
        rw [hof] at howner
        have hrun : activate (.element name) d = .error (.navigation .nothingLoaded) d' := bind_error howner _
        rw [hrun]
        exact ⟨Exchange.told_none (.inl hof) (.error hwarnings (by decide)) rfl, [], hended _ hrun⟩
  · have hsilent := Mute.make (.ownerFrame (.element name)) d
    have hrun : activate (.element name) d = .error f d' := bind_error (bind_error hmake _) _
    have hrough : x.smooth = false := by
      rw [Exchange.smooth, hended _ hrun, Agenda.smooth, hfails, Bool.false_and]
    rw [hmake] at hsilent
    rw [hrun]
    exact ⟨Exchange.told_none (.inr hrough) ⟨hsilent.1, hsilent.2⟩ rfl, [], hended _ hrun⟩

namespace Exchange

theorem attributed_activate (node : Handle) (d : Desk State) :
    Attributed ⟨.activate node, d⟩ (due ⟨.activate node, d⟩) := by
  cases node with
  | page number =>
      let x : Exchange := ⟨.activate (.page number), d⟩
      show x.Told x.due (.error (.typeMismatch .documentClicked) d)
      exact told_none (.inl rfl) (.error rfl (by decide)) rfl
  | element name => exact (told_click name d).1

/-- **One call.** Whatever is pending, a call reports what is delivered during it once its page is known. -/
theorem attributed (x : Exchange) : x.Attributed x.due := by
  obtain ⟨c, d⟩ := x
  cases c with
  | loadDocument url => exact told_loadDocument url d
  | activate node => exact attributed_activate node d
  | findByIdentifier root value => exact mute_query root _ d
  | findByName root value => exact mute_query root _ d
  | findByPath root expression =>
      have hg (reason : String) : (Failure.invalidExpression expression reason).kind ≠ .scriptError := nofun
      exact Mute.translate hg (mute_queryAll root _) d
  | findAnchorByText root text => exact Mute.bind (mute_queryAll root "a") (fun hs => mute_firstWith _ hs) d
  | setValue node text => exact mute_setValue node text d
  | ownerDocument node => exact mute_ownerDocument node d
  | isDocument node => exact Mute.pure _ d
  | tagName node =>
      cases node with
      | page _ => exact Mute.pure _ d
      | element name => exact Mute.bind (.make _) (fun _ => .bind (mute_elementOf _) fun _ => .pure _) d
  | attr node name =>
      cases node with
      | page _ => exact Mute.pure _ d
      | element _ => exact Mute.bind (.make _) (fun _ => .bind (mute_elementOf _) fun _ => .pure _) d
  | textContent node =>
      cases node with
      | page _ => exact Mute.bind (.make _) (fun _ => .bind .read fun _ => .pure _) d
      | element name => exact Mute.bind (.make _) (fun _ => .bind (mute_elementOf _) fun _ => .pure _) d
  | close => exact mute_close d

/-- A click looks up its page before it makes any other call. -/
theorem lookUp_prefix (x : Exchange) : x.lookUp <+: x.made := by
  obtain ⟨c, d⟩ := x
  cases c with
  | activate node =>
      cases node with
      | page _ => exact List.nil_prefix
      | element name =>
          obtain ⟨made, hmade⟩ := (told_click name d).2
          rw [hmade]
          exact ⟨made, rfl⟩
  | _ => exact List.nil_prefix

/-- What is delivered during a call is delivered while its page is looked up, or after that. -/
theorem delivered_eq (x : Exchange) : x.delivered = x.early ++ x.due := by
  obtain ⟨made, hmade⟩ := x.lookUp_prefix
  unfold delivered early due
  rw [← hmade, List.drop_left, Agenda.deliveries_append]

end Exchange

/-! ## Runs -/

/-- **Every error is reported by the call during which it was delivered, or not at all.** In a run of calls to the engine,
from any state and in any browser, what is delivered during a call is delivered first while the page of an element to
click is looked up, and then during the rest of the call; and the call reports just the latter. -/
theorem reports_own (d : Desk State) (calls : List (Engine.Call Handle)) :
    ∀ x ∈ exchanges d calls, x.lookUp <+: x.made ∧ x.delivered = x.early ++ x.due ∧ x.Attributed x.due :=
  fun x _ => ⟨x.lookUp_prefix, x.delivered_eq, x.attributed⟩

/-- A browser whose scripts go wrong all the time: while a page that cannot be reached is loaded, while a text is typed
into the one button there is, while the button is clicked, and while the page it leads to is loaded. -/
def restless : World :=
  { World.quiet with
    visits := [⟨none, ["early"], some (false, "unreachable")⟩]
    loads := [⟨some "b", ["loading"], none⟩]
    elements := [("go", { Element.unknown with
      frame := some 0, click := ⟨none, ["clicked"], none⟩, fill := ⟨none, ["typed"], none⟩ })] }

/-- They also go wrong while the page of an element is looked up. -/
def disturbed : Incidents := fun calls =>
  match calls.back? with
  | some (.ownerFrame _) => ⟨none, ["looking"], none⟩
  | _ => .quiet

/-- A new engine on that browser. -/
def restlessDesk : Desk State := ⟨.start ⟨"chromium", none, true, false, 30000⟩ restless disturbed, #[]⟩

/-- A load that fails, and a text that is typed. -/
def restlessCalls : List (Engine.Call Handle) := [.loadDocument "a", .setValue (.element "go") "x"]

/-- The click that comes after that. -/
def restlessClick : Exchange :=
  ⟨.activate (.element "go"), stateOf (engine.perform (.setValue (.element "go") "x")
    (stateOf (engine.perform (.loadDocument "a") restlessDesk)))⟩

theorem restlessClick_mem : restlessClick ∈ exchanges restlessDesk (restlessCalls ++ [restlessClick.call]) :=
  .tail _ (.tail _ (.head _))

theorem reports_own_restless :
    restlessClick ∈ exchanges restlessDesk (restlessCalls ++ [restlessClick.call]) ∧
      restlessClick.delivered = ["looking"] ++ ["clicked", "loading"] ∧
      Reports 0 ["clicked", "loading"] restlessClick.before (activate (.element "go") restlessClick.before) := by
  obtain ⟨-, hdelivered, hown⟩ := reports_own restlessDesk (restlessCalls ++ [restlessClick.call]) _ restlessClick_mem
  have hpage : (restlessClick.page?.filter fun _ => restlessClick.smooth) = some 0 := by decide +kernel
  have hearly : restlessClick.early = ["looking"] := by decide +kernel
  have hdue : restlessClick.due = ["clicked", "loading"] := by decide +kernel
  rw [hearly, hdue] at hdelivered
  have htold : restlessClick.Told restlessClick.due (activate (.element "go") restlessClick.before) := hown
  unfold Exchange.Told at htold
  rw [hpage, hdue] at htold
  exact ⟨restlessClick_mem, hdelivered, htold⟩

/-- A load or a click none of whose calls to the browser failed leads to a page, and reports all that was delivered during
it. -/
def Exchange.ReportsAll (x : Exchange) : Prop :=
  match x.call with
  | .loadDocument url => x.smooth = true → ∃ page, Reports page x.delivered x.before (loadDocument url x.before)
  | .activate node => x.smooth = true → ∃ page, Reports page x.delivered x.before (activate node x.before)
  | _ => True

/-- A click on an element that is in no frame, after the browser was closed. -/
def strayClick : Exchange :=
  ⟨.activate (.element "stray"), stateOf (engine.perform .close
    (stateOf (engine.perform (.loadDocument "a") ⟨.start ⟨"chromium", none, true, false, 30000⟩ .quiet .none, #[]⟩)))⟩

/-- What is delivered while the page of an element is looked up is not reported, though no call fails. And an element that
is on no page is not clicked, though nothing fails in the browser. -/
theorem early_unreported :
    (restlessClick ∈ exchanges restlessDesk (restlessCalls ++ [restlessClick.call]) ∧ ¬ restlessClick.ReportsAll) ∧
      strayClick ∈ exchanges ⟨.start ⟨"chromium", none, true, false, 30000⟩ .quiet .none, #[]⟩
        [.loadDocument "a", .close, strayClick.call] ∧ ¬ strayClick.ReportsAll := by
  refine ⟨⟨restlessClick_mem, fun hall => ?_⟩, .tail _ (.tail _ (.head _)), fun hall => ?_⟩
  · obtain ⟨page, hreports⟩ := hall (by decide +kernel)
    have hwarned : (warnings (stateOf (activate (.element "go") restlessClick.before)).journal).length =
        (warnings restlessClick.before.journal).length + 2 := by decide +kernel
    have hdelivered : restlessClick.delivered.length = 3 := by decide +kernel
    unfold Reports at hreports
    rw [if_neg fun h => nomatch h.1] at hreports
    have hall := congrArg List.length hreports.2
    rw [List.length_append, List.length_map, hdelivered, hwarned] at hall
    omega
  · obtain ⟨page, hreports⟩ := hall (by decide +kernel)
    have hfails : valueOf (activate (.element "stray") strayClick.before) = none := by decide +kernel
    unfold Reports at hreports
    rw [if_neg fun h => nomatch h.1, hfails] at hreports
    cases hreports.1

end Crawl.Browser
