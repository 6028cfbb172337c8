import Crawl.Proofs.Engine.Calls
import Crawl.Browser.Engine
/-!
# Failures of the browser that leave the engine

Any call to the page or to an element can fail. Failures of some calls are translated into failures of the crawl: those
of going to an address, of a click and the wait after it, and of a selection by path. A failure of any other call is
handed on as it is. What a method of the engine lets through is therefore known from the calls it made: it fails with a
failure that is not the crawl's own just when one of its calls that are handed on failed, and then with that failure.
-/

namespace Crawl.Browser

open Crawl.Action (stateOf failureOf bind_ok bind_error)

/-! ## Calls that are handed on -/

/-- Whether a failure of a call is handed on as it is. Calls that launch or close the browser do not count. -/
def Call.isHandedOn : Call → Bool
  | .query .. => true
  | .queryAll _ selector => !"xpath=".toList.isPrefixOf selector.toList
  | .ownerFrame _ => true
  | .readTag _ => true
  | .readAttr .. => true
  | .innerText _ => true
  | .bodyText _ => true
  | .textContent _ => true
  | .fill .. => true
  | _ => false

/-- The step in which a selection turns out. -/
def Selection.outcome : Selection → Step
  | .names _ => .quiet
  | .step turn => turn

/-- The step in which a call that is handed on turns out, as its world has it. -/
def World.stepOf (w : World) : Call → Step
  | .query root selector => (w.find root selector).outcome
  | .queryAll root selector => (w.find root selector).outcome
  | .fill (.element name) _ => (w.element name).fill
  | _ => .quiet

/-- What the failures of calls depend on: what befalls them, and what the world says of elements and selections. -/
structure Scene where
  incident : Incidents
  select : List (String × Selection)
  elements : List (String × Element)

/-- The scene of a state. -/
def State.scene (s : State) : Scene := ⟨s.incident, s.world.select, s.world.elements⟩

namespace Scene

/-- A world that has the scene's elements and selections, and in which nothing else happens. -/
def world (w : Scene) : World := { World.quiet with select := w.select, elements := w.elements }

/-- The failure that a step ends with. -/
def failureIn (step : Step) : Option Failure := step.failure.map fun (timedOut, message) => .browser timedOut message

/-- The failure of a call that leaves the engine; calls that have been made already stand before it. -/
def leak (w : Scene) (before : Array Call) (c : Call) : Option Failure :=
  if c.isHandedOn then (failureIn (w.incident (before.push c))).or (failureIn (w.world.stepOf c)) else none

/-- One of some calls, made one after the other, lets a failure out. -/
def Leaks (w : Scene) (f : Failure) : (before : Array Call) → List Call → Prop
  | _, [] => False
  | before, c :: cs => w.leak before c = some f ∨ w.Leaks f (before.push c) cs

theorem leaks_append (w : Scene) (f : Failure) (before : Array Call) (cs ds : List Call) :
    w.Leaks f before (cs ++ ds) ↔ w.Leaks f before cs ∨ w.Leaks f (before ++ cs) ds := by
  induction cs generalizing before with
  | nil => simp [Leaks]
  | cons c cs ih =>
      rw [List.cons_append, Array.appendList_cons]
      simp only [Leaks, ih, or_assoc]

theorem not_leaks {w : Scene} {f : Failure} {cs : List Call} (h : ∀ c ∈ cs, c.isHandedOn = false) (before : Array Call) :
    ¬ w.Leaks f before cs := by
  induction cs generalizing before with
  | nil => exact id
  | cons c cs ih =>
      rintro (hc | hcs)
      · unfold leak at hc
        rw [h c List.mem_cons_self] at hc
        cases hc
      · exact ih (fun d hd => h d (List.mem_cons_of_mem c hd)) _ hcs

theorem browser_of_failureIn {step : Step} {f : Failure} (h : failureIn step = some f) :
    ∃ timedOut message, f = .browser timedOut message := by
  obtain ⟨⟨timedOut, message⟩, -, rfl⟩ := Option.map_eq_some_iff.mp h
  exact ⟨timedOut, message, rfl⟩

/-- Whatever leaves the engine by a call is a failure of the browser. -/
theorem Leaks.browser {w : Scene} {f : Failure} {before : Array Call} {cs : List Call} (h : w.Leaks f before cs) :
    ∃ timedOut message, f = .browser timedOut message := by
  induction cs generalizing before with
  | nil => exact h.elim
  | cons c cs ih =>
      rcases h with hc | hcs
      · unfold leak at hc
        split at hc
        · rcases Option.or_eq_some_iff.mp hc with h | ⟨-, h⟩
          · exact browser_of_failureIn h
          · exact browser_of_failureIn h
        · cases hc
      · exact ih hcs

end Scene

/-! ## What the calls of an action tell -/

variable {α β : Type}

/-- The calls between two states, and that the scene is the same in both. -/
structure Makes (s : State) (made : List Call) (s' : State) : Prop where
  calls : s'.calls = s.calls ++ made
  scene : s'.scene = s.scene

theorem append_append (before : Array Call) (cs ds : List Call) : before ++ cs ++ ds = before ++ (cs ++ ds) := by
  apply Array.toList_inj.mp
  simp only [Array.toList_appendList, List.append_assoc]

theorem Makes.none (s : State) : Makes s [] s := ⟨Array.appendList_nil.symm, rfl⟩

theorem Makes.trans {s s' s'' : State} {cs ds : List Call} (h : Makes s cs s') (h' : Makes s' ds s'') :
    Makes s (cs ++ ds) s'' := by
  constructor
  · rw [h'.calls, h.calls, append_append]
  · exact h'.scene.trans h.scene

/-- An action whose failures, other than the crawl's own, are those that its calls let out. -/
def Honest (act : Work α) : Prop :=
  ∀ d : Desk State, ∃ made, Makes d.device made (stateOf (act d)).device ∧
    ∀ f, f.isCrawl = false → (failureOf (act d) = some f ↔ d.device.scene.Leaks f d.device.calls made)

/-- An action that makes only calls that are not handed on, and fails only in some ways. -/
def Covered (may : Failure → Prop) (act : Work α) : Prop :=
  ∀ d : Desk State, ∃ made, Makes d.device made (stateOf (act d)).device ∧ (∀ c ∈ made, c.isHandedOn = false) ∧
    ∀ f, failureOf (act d) = some f → may f

namespace Covered

variable {may may' : Failure → Prop}

theorem bind {x : Work α} {k : α → Work β} (hx : Covered may x) (hk : ∀ a, Covered may (k a)) : Covered may (x >>= k) := by
  intro d
  obtain ⟨made, hmade, hcovered, hfails⟩ := hx d
  cases hr : x d with
  | ok a d' =>
      rw [hr] at hmade
      obtain ⟨made', hmade', hcovered', hfails'⟩ := hk a d'
      rw [bind_ok hr]
      refine ⟨made ++ made', hmade.trans hmade', ?_, hfails'⟩
      intro c hc
      rcases List.mem_append.mp hc with h | h
      · exact hcovered c h
      · exact hcovered' c h
  | error f d' =>
      rw [hr] at hmade hfails
      rw [bind_error hr]
      exact ⟨made, hmade, hcovered, hfails⟩

/-- An action that makes no call at all. -/
theorem of_none {act : Work α} (hmakes : ∀ d, Makes d.device [] (stateOf (act d)).device)
    (hfails : ∀ d f, failureOf (act d) = some f → may f) : Covered may act := by
  intro d
  exact ⟨[], hmakes d, nofun, hfails d⟩

theorem pure (a : α) : Covered may (Pure.pure a : Work α) := by
  refine of_none (fun d => .none _) ?_
  intro d f h
  cases h

theorem throw {f : Failure} (hf : may f) : Covered may (MonadExcept.throw f : Work α) := by
  refine of_none (fun d => .none _) ?_
  intro d g h
  cases h
  exact hf

theorem read : Covered may (Desk.read : Work State) := by
  refine of_none (fun d => .none _) ?_
  intro d f h
  cases h

theorem note (level : Level) (source : Source) (text : String) : Covered may (Desk.note level source text : Work Unit) := by
  refine of_none (fun d => .none _) ?_
  intro d f h
  cases h

/-- A change of the state that makes no call and keeps the scene. -/
theorem update {g : State → State} (hcalls : ∀ s, (g s).calls = s.calls) (hscene : ∀ s, (g s).scene = s.scene) :
    Covered may (Desk.update g) := by
  refine of_none (fun d => ⟨?_, hscene _⟩) ?_
  · rw [Array.appendList_nil]
    exact hcalls _
  · intro d f h
    cases h

theorem ite {c : Prop} [Decidable c] {x y : Work α} (hx : Covered may x) (hy : Covered may y) :
    Covered may (if c then x else y) := by
  split
  · exact hx
  · exact hy

/-- A step fails, if it does, as the browser does. -/
theorem happen (step : Step) (h : ∀ timedOut message, may (.browser timedOut message)) : Covered may (happen step) := by
  refine bind (update (fun _ => rfl) fun _ => rfl) fun _ => ?_
  split
  · exact throw (h _ _)
  · exact pure _

theorem record {c : Call} (hc : c.isHandedOn = false) : Covered may (record c) := by
  intro d
  refine ⟨[c], ⟨?_, rfl⟩, ?_, ?_⟩
  · rw [Array.appendList_cons, Array.appendList_nil]
    rfl
  · intro c' hc'
    cases List.mem_singleton.mp hc'
    exact hc
  · intro f h
    cases h

theorem make {c : Call} (hc : c.isHandedOn = false) (h : ∀ timedOut message, may (.browser timedOut message)) :
    Covered may (make c) :=
  bind (record hc) fun _ => bind read fun _ => happen _ h

/-- Where failures of the browser are translated, only failures of the crawl are left. -/
theorem translate {g : String → Failure} {act : Work α}
    (h : Covered (fun f => f.isCrawl = true ∨ ∃ timedOut message, f = .browser timedOut message) act)
    (hg : ∀ reason, (g reason).isCrawl = true) : Covered (·.isCrawl = true) (translate g act) := by
  intro d
  obtain ⟨made, hmade, hcovered, hfails⟩ := h d
  unfold Browser.translate Action.recast
  cases hr : act d with
  | ok a d' =>
      rw [hr] at hmade
      refine ⟨made, hmade, hcovered, ?_⟩
      intro f hf
      cases hf
  | error e d' =>
      rw [hr] at hmade hfails
      refine ⟨made, hmade, hcovered, ?_⟩
      intro f hf
      rcases hfails e rfl with hcrawl | ⟨timedOut, message, rfl⟩
      · cases e with
        | browser timedOut message => cases timedOut <;> cases hcrawl
        | _ =>
            cases hf
            exact hcrawl
      · cases hf
        exact hg message

end Covered

theorem Covered.fails {may : Failure → Prop} {act : Work α} (h : Covered may act) (d : Desk State) :
    ∀ f ∈ failureOf (act d), may f := by
  obtain ⟨-, -, -, hfails⟩ := h d
  exact hfails

namespace Honest

/-- What makes only calls that are not handed on, and fails only as the crawl does, is honest. -/
theorem of_covered {act : Work α} (h : Covered (·.isCrawl = true) act) : Honest act := by
  intro d
  obtain ⟨made, hmade, hcovered, hfails⟩ := h d
  refine ⟨made, hmade, ?_⟩
  intro f hf
  constructor
  · intro hfail
    rw [hfails f hfail] at hf
    cases hf
  · intro hleak
    exact absurd hleak (Scene.not_leaks hcovered _)

theorem bind {x : Work α} {k : α → Work β} (hx : Honest x) (hk : ∀ a, Honest (k a)) : Honest (x >>= k) := by
  intro d
  obtain ⟨made, hmade, hfails⟩ := hx d
  cases hr : x d with
  | ok a d' =>
      rw [hr] at hmade hfails
      change Makes d.device made d'.device at hmade
      obtain ⟨made', hmade', hfails'⟩ := hk a d'
      rw [bind_ok hr]
      refine ⟨made ++ made', hmade.trans hmade', ?_⟩
      intro f hf
      -- the calls of the first part let nothing out, since that part went on
      rw [hfails' f hf, Scene.leaks_append, hmade.scene, hmade.calls]
      constructor
      · exact .inr
      · rintro (h | h)
        · cases (hfails f hf).mpr h
        · exact h
  | error g d' =>
      rw [hr] at hmade hfails
      rw [bind_error hr]
      exact ⟨made, hmade, hfails⟩

theorem pure (a : α) : Honest (Pure.pure a : Work α) := .of_covered (.pure a)

theorem throw {f : Failure} (hf : f.isCrawl = true) : Honest (MonadExcept.throw f : Work α) := .of_covered (.throw hf)

theorem ite {c : Prop} [Decidable c] {x y : Work α} (hx : Honest x) (hy : Honest y) : Honest (if c then x else y) := by
  split
  · exact hx
  · exact hy

end Honest

/-! ## One call that is handed on -/

/-- What comes after a call turns out as the call does: it makes no further call, and fails as the world has it. -/
def Turns (c : Call) (after : Work α) : Prop :=
  ∀ d : Desk State, Makes d.device [] (stateOf (after d)).device ∧
    ∀ f, failureOf (after d) = some f ↔ Scene.failureIn (d.device.scene.world.stepOf c) = some f

/-- A state after a step. -/
def State.turned (s : State) (step : Step) : State :=
  { s with world := { s.world with url := step.url.getD s.world.url }, pending := s.pending ++ step.errors }

theorem happen_cases (step : Step) (d : Desk State) :
    (Scene.failureIn step = none ∧ happen step d = .ok () ⟨d.device.turned step, d.journal⟩) ∨
      ∃ f, Scene.failureIn step = some f ∧ happen step d = .error f ⟨d.device.turned step, d.journal⟩ := by
  obtain ⟨url, errors, failure⟩ := step
  cases failure with
  | none => exact .inl ⟨rfl, rfl⟩
  | some e => exact .inr ⟨_, rfl, rfl⟩

theorem Makes.turned (s : State) (step : Step) : Makes s [] (s.turned step) := ⟨Array.appendList_nil.symm, rfl⟩

/-- A desk after a call, and after whatever befell it. -/
def called (c : Call) (d : Desk State) : Desk State :=
  ⟨State.turned { d.device with calls := d.device.calls.push c } (d.device.incident (d.device.calls.push c)), d.journal⟩

theorem make_cases (c : Call) (d : Desk State) :
    (Scene.failureIn (d.device.incident (d.device.calls.push c)) = none ∧ make c d = .ok () (called c d)) ∨
      ∃ f, Scene.failureIn (d.device.incident (d.device.calls.push c)) = some f ∧ make c d = .error f (called c d) :=
  happen_cases (d.device.incident (d.device.calls.push c)) ⟨{ d.device with calls := d.device.calls.push c }, d.journal⟩

theorem Makes.called (c : Call) (d : Desk State) : Makes d.device [c] (called c d).device := by
  refine ⟨?_, rfl⟩
  rw [Array.appendList_cons, Array.appendList_nil]
  rfl

theorem turns_happen (c : Call) (step : Work Step)
    (hstep : ∀ d : Desk State, step d = .ok (d.device.scene.world.stepOf c) d) : Turns c (step >>= happen) := by
  intro d
  rw [bind_ok (hstep d)]
  rcases happen_cases (d.device.scene.world.stepOf c) d with ⟨hnone, hok⟩ | ⟨g, hg, herror⟩
  · rw [hok, hnone]
    exact ⟨.turned _ _, fun f => Iff.rfl⟩
  · rw [herror, hg]
    exact ⟨.turned _ _, fun f => Iff.rfl⟩

theorem turns_pure {c : Call} (hc : ∀ w : World, w.stepOf c = .quiet) (a : α) : Turns c (pure a) := by
  intro d
  refine ⟨.none _, fun f => ?_⟩
  rw [hc]
  exact Iff.rfl

/-- Values made from what a step left do not change how it turned out. -/
theorem Turns.map {c : Call} {x : Work α} (hx : Turns c x) (g : α → Work β)
    (hg : ∀ a (d : Desk State), ∃ b, g a d = .ok b d) : Turns c (x >>= g) := by
  intro d
  obtain ⟨hmakes, hfails⟩ := hx d
  cases hr : x d with
  | ok a d' =>
      rw [hr] at hmakes hfails
      obtain ⟨b, hb⟩ := hg a d'
      rw [bind_ok hr, hb]
      exact ⟨hmakes, hfails⟩
  | error f d' =>
      rw [hr] at hmakes hfails
      rw [bind_error hr]
      exact ⟨hmakes, hfails⟩

/-- The names that a selector finds, or its failure. -/
theorem turns_names {c : Call} {root : Handle} {selector : String}
    (hc : ∀ w : World, w.stepOf c = (w.find root selector).outcome) : Turns c (names root selector) := by
  intro d
  have hfind : d.device.world.find root selector = d.device.scene.world.find root selector := by
    cases root <;> rfl
  rw [names, bind_ok (show Desk.read d = .ok d.device d from rfl), hfind, hc]
  cases d.device.scene.world.find root selector with
  | names names => exact ⟨.none _, fun f => Iff.rfl⟩
  | step step =>
      dsimp only
      rcases happen_cases step d with ⟨hnone, hok⟩ | ⟨g, hg, herror⟩
      · rw [bind_ok hok]
        refine ⟨.turned _ _, fun f => ?_⟩
        show _ ↔ Scene.failureIn step = some f
        rw [hnone]
        exact Iff.rfl
      · rw [bind_error herror]
        refine ⟨.turned _ _, fun f => ?_⟩
        show _ ↔ Scene.failureIn step = some f
        rw [hg]
        exact Iff.rfl

theorem Honest.call {c : Call} (hc : c.isHandedOn = true) {after : Work α} (hafter : Turns c after) :
    Honest (make c >>= fun _ => after) := by
  intro d
  have hleak (f : Failure) : d.device.scene.Leaks f d.device.calls [c] ↔
      (Scene.failureIn (d.device.incident (d.device.calls.push c))).or
        (Scene.failureIn (d.device.scene.world.stepOf c)) = some f := by
    unfold Scene.Leaks Scene.leak
    rw [hc]
    simp only [Scene.Leaks, or_false, if_true]
    exact Iff.rfl
  -- what befalls the call comes first, and the world has its say only when that was no failure
  rcases make_cases c d with ⟨hnone, hok⟩ | ⟨g, hg, herror⟩
  · rw [bind_ok hok]
    obtain ⟨hmakes, hfails⟩ := hafter (called c d)
    refine ⟨[c], (Makes.called c d).trans hmakes, fun f hf => ?_⟩
    rw [hfails, hleak, hnone]
    exact Iff.rfl
  · rw [bind_error herror]
    refine ⟨[c], .called c d, fun f hf => ?_⟩
    rw [hleak, hg]
    exact Iff.rfl

/-- A call that the world has nothing to say about. -/
theorem Honest.make {c : Call} (hc : c.isHandedOn = true) (hquiet : ∀ w : World, w.stepOf c = .quiet) : Honest (make c) := by
  have hcall := Honest.call hc (turns_pure hquiet ())
  rw [show (fun _ => Pure.pure () : Unit → Work Unit) = Pure.pure from rfl, bind_pure] at hcall
  exact hcall

/-! ## The methods of the engine -/

/-- The failures that a step of the browser may end with inside a translation. -/
abbrev Translatable (f : Failure) : Prop := f.isCrawl = true ∨ ∃ timedOut message, f = .browser timedOut message

theorem translatable_browser (timedOut : Bool) (message : String) : Translatable (.browser timedOut message) :=
  .inr ⟨timedOut, message, rfl⟩

theorem covered_clearErrors : Covered (·.isCrawl = true) clearErrors := .update (fun _ => rfl) fun _ => rfl

theorem covered_warnAll (url : String) (errors : List String) : Covered (·.isCrawl = true) (warnAll url errors) := by
  induction errors with
  | nil => exact .pure _
  | cons m ms ih => exact .bind (.note _ _ _) fun _ => ih

theorem covered_settle : Covered (·.isCrawl = true) settle := by
  refine .bind .read fun s => .bind covered_clearErrors fun _ => ?_
  split
  · exact .pure _
  · exact .ite (.throw rfl) (covered_warnAll _ _)

theorem covered_ensurePage : Covered (·.isCrawl = true) ensurePage := by
  refine .bind .read fun s => ?_
  split
  · exact .pure _
  · refine .bind (.record rfl) fun _ => .bind (.update (fun _ => rfl) fun _ => rfl) fun _ => ?_
    refine .bind (.record rfl) fun _ => .bind (.update (fun _ => rfl) fun _ => rfl) fun _ => ?_
    refine .bind (.record rfl) fun _ => .bind (.update (fun _ => rfl) fun _ => rfl) fun _ => ?_
    refine .bind (.record rfl) fun _ => .bind (.record rfl) fun _ => .bind (.record rfl) fun _ => ?_
    exact .bind (.update (fun _ => rfl) fun _ => rfl) fun _ => .bind (.note _ _ _) fun _ => .pure _

theorem covered_visit (page : Nat) (url : String) : Covered Translatable (visit page url) := by
  refine .bind (.make rfl translatable_browser) fun _ => .bind .read fun s => ?_
  exact .bind (.update (fun _ => rfl) fun _ => rfl) fun _ => .happen _ translatable_browser

theorem covered_awaitLoad (page : Nat) : Covered Translatable (awaitLoad page) := by
  refine .bind (.make rfl translatable_browser) fun _ => .bind .read fun s => ?_
  exact .bind (.update (fun _ => rfl) fun _ => rfl) fun _ => .happen _ translatable_browser

theorem covered_elementOf {may : Failure → Prop} (h : Handle) : Covered may (elementOf h) := by
  cases h with
  | page _ => exact .pure _
  | element name => exact .bind .read fun _ => .pure _

theorem covered_press (page : Nat) (h : Handle) : Covered Translatable (press page h) := by
  refine .bind (.make rfl translatable_browser) fun _ => .bind (covered_elementOf h) fun e => ?_
  exact .bind (.happen _ translatable_browser) fun _ => covered_awaitLoad page

theorem covered_names (root : Handle) (selector : String) : Covered Translatable (names root selector) := by
  refine .bind .read fun s => ?_
  split
  · exact .pure _
  · exact .bind (.happen _ translatable_browser) fun _ => .pure _

/-- Every call of a load is translated. -/
theorem covered_loadDocument (url : String) : Covered (·.isCrawl = true) (loadDocument url) := by
  refine .bind covered_ensurePage fun page => .bind covered_clearErrors fun _ => ?_
  refine .bind (.translate (covered_visit page url) fun _ => rfl) fun _ => ?_
  exact .bind covered_settle fun _ => .pure _

theorem honest_query (root : Handle) (selector : String) : Honest (query root selector) :=
  .call (c := .query root selector) rfl ((turns_names fun _ => rfl).map _ fun _ _ => ⟨_, rfl⟩)

/-- Every call of a selection by path is translated. -/
theorem covered_findByPath (root : Handle) (expression : String) :
    Covered (·.isCrawl = true) (findByPath root expression) := by
  refine .translate ?_ fun _ => rfl
  refine .bind (.make ?_ translatable_browser) fun _ => .bind (covered_names root _) fun _ => .pure _
  unfold Call.isHandedOn
  simp

theorem honest_wordsOf (h : Handle) : Honest (wordsOf h) :=
  .bind (.make rfl fun _ => rfl) fun _ => .bind (.of_covered (covered_elementOf h)) fun _ => .pure _

theorem honest_firstWith (wanted : String) (hs : List Handle) : Honest (firstWith wanted hs) := by
  induction hs with
  | nil => exact .pure _
  | cons h hs ih => exact .bind (honest_wordsOf h) fun words => .ite (.pure _) ih

theorem honest_findAnchorByText (root : Handle) (text : String) : Honest (findAnchorByText root text) := by
  refine .bind ?_ fun hs => honest_firstWith _ hs
  exact .call (c := .queryAll root "a") rfl ((turns_names fun _ => rfl).map _ fun _ _ => ⟨_, rfl⟩)

theorem honest_ownerPage (h : Handle) : Honest (ownerPage h) := by
  cases h with
  | page _ => exact .pure _
  | element name =>
      refine .bind (.make rfl fun _ => rfl) fun _ => .bind (.of_covered (covered_elementOf _)) fun e => ?_
      split
      · exact .pure _
      · refine .bind (.of_covered .read) fun s => ?_
        split
        · exact .pure _
        · exact .throw rfl

theorem honest_ownerDocument (h : Handle) : Honest (ownerDocument h) := .bind (honest_ownerPage h) fun _ => .pure _

theorem honest_tagName (h : Handle) : Honest (tagName h) := by
  cases h with
  | page _ => exact .pure _
  | element name =>
      exact .bind (.make rfl fun _ => rfl) fun _ => .bind (.of_covered (covered_elementOf _)) fun _ => .pure _

theorem honest_attr (h : Handle) (name : String) : Honest (attr h name) := by
  cases h with
  | page _ => exact .pure _
  | element _ =>
      exact .bind (.make rfl fun _ => rfl) fun _ => .bind (.of_covered (covered_elementOf _)) fun _ => .pure _

theorem honest_textContent (h : Handle) : Honest (textContent h) := by
  cases h with
  | page _ => exact .bind (.make rfl fun _ => rfl) fun _ => .bind (.of_covered .read) fun _ => .pure _
  | element _ =>
      exact .bind (.make rfl fun _ => rfl) fun _ => .bind (.of_covered (covered_elementOf _)) fun _ => .pure _

theorem honest_setValue (h : Handle) (text : String) : Honest (setValue h text) := by
  cases h with
  | page _ => exact .throw rfl
  | element name =>
      refine .call (c := .fill (.element name) text) rfl ?_
      exact turns_happen _ (do return (← elementOf (.element name)).fill) fun _ => rfl

theorem honest_activate (h : Handle) : Honest (activate h) := by
  cases h with
  | page _ => exact .throw rfl
  | element name =>
      refine .bind (honest_ownerPage _) fun page => .bind (.of_covered covered_clearErrors) fun _ => ?_
      refine .bind (.of_covered (.translate (covered_press page _) fun _ => rfl)) fun _ => ?_
      exact .bind (.of_covered covered_settle) fun _ => .pure _

/-- Every method of the engine but closing is honest. -/
theorem honest_perform (c : Engine.Call Handle) (hc : c ≠ .close) : Honest (engine.perform c) := by
  cases c with
  | loadDocument url => exact .of_covered (covered_loadDocument url)
  | findByIdentifier root value => exact honest_query root _
  | findByName root value => exact honest_query root _
  | findByPath root expression => exact .of_covered (covered_findByPath root expression)
  | findAnchorByText root text => exact honest_findAnchorByText root text
  | setValue node text => exact honest_setValue node text
  | activate node => exact honest_activate node
  | ownerDocument node => exact honest_ownerDocument node
  | isDocument node => exact .pure _
  | tagName node => exact honest_tagName node
  | attr node name => exact honest_attr node name
  | textContent node => exact honest_textContent node
  | close => exact absurd rfl hc

end Crawl.Browser
