import Crawl.Proofs.Command.ExitCode
import Crawl.Proofs.Command.Watching
import Crawl.Proofs.Session.Loads
/-!
# Closing before writing

A listing collects its records, closes the engine, and only then writes. Collecting is put together from operations of a
session, none of which closes the engine or writes; so whatever fails, in going to the page, in finding the matches, in
reading one of them or in closing, fails before anything is written, and there is one close, behind all other calls. What
is written after that cannot fail, and is everything that was collected. The calls are those that are noted down when the
engine is watched, which changes nothing else.
-/

namespace Crawl.Command

open Crawl.Action (Keeps stateOf failureOf valueOf bind_ok bind_error)
open Crawl.Engine (Watched)

variable {δ ν : Type}

/-! ## Collecting is an operation like others -/

section

variable {E : Engine δ ν} {P : ∀ {α : Type}, Action (Session δ ν Output) α → Prop} (h : Session.Closed E P)
include h

theorem closed_readAttrs (names : List String) (known : List (String × Option String)) : P (readAttrs E known names) := by
  induction names generalizing known with
  | nil => exact h.pure _
  | cons name names ih => exact h.bind (h.attributeOf name none) fun value => ih _

theorem closed_describe (names : List String) (node : ν) : P (describe E names node) := by
  refine h.bind (h.tagName node) fun tag => h.bind (h.textOf none) fun text => ?_
  exact h.bind (closed_readAttrs h names []) fun attrs => h.pure _

/-- What holds of the operations of a session and of refusals of a path holds of collecting. -/
theorem closed_collect [DecidableEq ν]
    (hrefused : ∀ fault, P (throw (.refused (.descriptor fault)) : Action (Session δ ν Output) (List Record)))
    (url xpath : String) (names : List String) : P (collect E url xpath names) := by
  refine h.bind (h.navigateTo url) fun page => h.runScoped page.processor fun _ => ?_
  unfold readMatches
  cases Descriptor.make .xpath xpath with
  | error fault => exact hrefused fault
  | ok d => exact h.bind (h.describe _ _) fun matching => h.runEach matching fun node => closed_describe h names node

end

/-- A view of the engine's state and of the output is kept by collecting, if every call but closing keeps it. -/
theorem keeps_collect [DecidableEq ν] {γ : Type} (E : Engine δ ν) (view : δ → Output → γ)
    (hcall : ∀ c : Engine.Call ν, c ≠ .close → ∀ output, Keeps (fun d : Desk δ => view d.device output) (E.perform c))
    (url xpath : String) (names : List String) :
    Keeps (fun s : Session δ ν Output => view s.desk.device s.host) (collect E url xpath names) :=
  closed_collect (Session.keeps_closed E view hcall) (fun _ => .throw _) url xpath names

/-! ## What is written -/

variable [DecidableEq ν] (E : Engine δ ν) (url xpath : String) (names : List String)

/-- Collecting the records and closing the engine behind it. -/
def collectAndClose : Action (Session δ ν Output) (List Record) :=
  Action.always (collect E url xpath names) (Session.close E true)

omit [DecidableEq ν] in
theorem stateOf_close (s : Session δ ν Output) :
    stateOf (Session.close E true s) = { s with desk := stateOf (E.close s.desk) } := by
  rw [Session.close, if_pos rfl, Session.onDesk, Action.stateOf_within]

/-- Nothing is written until the engine is closed. -/
theorem host_collectAndClose (s : Session δ ν Output) : (stateOf (collectAndClose E url xpath names s)).host = s.host := by
  rw [collectAndClose, Action.stateOf_always, stateOf_close]
  exact keeps_collect E (fun _ output => output) (fun _ _ _ _ => rfl) url xpath names s

/-- A listing fails in the state in which its engine was closed, or it writes the lines for all records that were collected
and leaves the engine as it is. -/
theorem list_cases (s : Session δ ν Output) :
    (∃ f, list E url xpath names s = .error f (stateOf (collectAndClose E url xpath names s))) ∨
      ∃ records s', list E url xpath names s = .ok () s' ∧ valueOf (collect E url xpath names s) = some records ∧
        s'.host = s.host ++ Record.lines 0 records ∧
        s'.desk.device = (stateOf (collectAndClose E url xpath names s)).desk.device := by
  have hhost := host_collectAndClose E url xpath names s
  cases hrun : collectAndClose E url xpath names s with
  | error f s' => exact .inl ⟨f, bind_error hrun _⟩
  | ok records s' =>
      obtain ⟨s₁, hcollect, -⟩ := Action.always_ok hrun
      rw [hrun] at hhost
      refine .inr ⟨records, _, bind_ok hrun _, congrArg valueOf hcollect, ?_, rfl⟩
      show s'.host ++ Record.lines 0 records = _
      rw [← hhost, stateOf]

/-- What a listing that succeeds has done: it has collected its records, closed the engine, and written. -/
theorem list_ok {s s' : Session δ ν Output} (hrun : list E url xpath names s = .ok () s') :
    ∃ records s₁ d, collect E url xpath names s = .ok records s₁ ∧ E.close s₁.desk = .ok () d ∧
      s'.desk.device = d.device ∧ s'.host = s.host ++ Record.lines 0 records := by
  have hhost := host_collectAndClose E url xpath names s
  cases hboth : collectAndClose E url xpath names s with
  | error f s₂ =>
      have hfails : list E url xpath names s = .error f s₂ := bind_error hboth _
      rw [hfails] at hrun
      cases hrun
  | ok records s₂ =>
      obtain ⟨s₁, hcollect, hclose⟩ := Action.always_ok hboth
      obtain ⟨d, hdesk, rfl⟩ := Session.onDesk_ok hclose
      rw [hboth] at hhost
      have hwrites : list E url xpath names s = _ := bind_ok hboth _
      rw [hwrites] at hrun
      cases hrun
      exact ⟨records, s₁, d, hcollect, hdesk, rfl, congrArg (· ++ Record.lines 0 records) hhost⟩

/-- What is written leaves the engine alone. -/
theorem device_list (s : Session δ ν Output) :
    (stateOf (list E url xpath names s)).desk.device = (stateOf (collectAndClose E url xpath names s)).desk.device := by
  rcases list_cases E url xpath names s with ⟨f, hrun⟩ | ⟨records, s', hrun, -, -, hdevice⟩
  · rw [hrun]
    rfl
  · rw [hrun]
    exact hdevice

/-- Whether a call closes the engine. -/
def isClose : Engine.Call ν → Bool
  | .close => true
  | _ => false

omit [DecidableEq ν] in
theorem keeps_closings {c : Engine.Call ν} (hc : c ≠ .close) :
    Keeps (fun d : Desk (Watched δ ν) => d.device.calls.filter isClose) (E.watched.perform c) := by
  intro d
  dsimp only
  rw [Engine.calls_perform, List.filter_append]
  cases c with
  | close => exact absurd rfl hc
  | _ => exact List.append_nil _

/-- On a watched engine, one close comes behind all that was called to collect the records. -/
theorem calls_collectAndClose (device : δ) : ∃ reads, .close ∉ reads ∧
    (stateOf (collectAndClose E.watched url xpath names (Session.start ⟨device, []⟩ []))).desk.device.calls =
      reads ++ [.close] := by
  have hkeep : List.filter isClose _ = [] := keeps_collect E.watched (fun w _ => w.calls.filter isClose)
    (fun c hc _ => keeps_closings E hc) url xpath names (Session.start ⟨device, []⟩ [])
  refine ⟨(stateOf (collect E.watched url xpath names (Session.start ⟨device, []⟩ []))).desk.device.calls, ?_, ?_⟩
  · intro hmem
    exact List.filter_eq_nil_iff.mp hkeep _ hmem rfl
  · rw [collectAndClose, Action.stateOf_always, stateOf_close]
    exact Engine.calls_perform E .close _

/-! ## The command -/

/-- The records that a crawl collects, if it comes to that. -/
def collected (w : Surroundings) (c : Config) (a : Arguments) : Option (List Record) :=
  match c.engine with
  | .static => match Static.State.start w.pages w.files w.replies c.userAgent c.timeoutMs with
    | .error _ => none
    | .ok s => valueOf (collect Static.engine a.url a.xpath a.attrs (Session.start s []))
  | .playwright => valueOf (collect Browser.engine a.url a.xpath a.attrs
      (Session.start (.start (.ofConfig c) w.world w.incident) []))

/-- All or nothing: what has failed wrote nothing, and what has not failed wrote the lines for all its records. -/
def Crawled.Whole (r : Crawled) (records : Option (List Record)) : Prop :=
  match r.failure with
  | some _ => r.output = []
  | none => ∃ rs, records = some rs ∧ r.output = Record.lines 0 rs

theorem whole_list (device : δ → Device) (s : δ) :
    (Crawled.ofResult device (list E url xpath names (Session.start s []))).Whole
      (valueOf (collect E url xpath names (Session.start s []))) := by
  rcases list_cases E url xpath names (Session.start s []) with ⟨f, hrun⟩ | ⟨records, s', hrun, hrecords, hhost, -⟩
  · rw [hrun]
    exact host_collectAndClose E url xpath names (Session.start s [])
  · rw [hrun, hrecords]
    exact ⟨records, rfl, hhost⟩

theorem whole_crawl (w : Surroundings) (c : Config) (a : Arguments) : (crawl w c a).Whole (collected w c a) := by
  unfold crawl collected
  cases c.engine with
  | static =>
      dsimp only
      cases Static.State.start w.pages w.files w.replies c.userAgent c.timeoutMs with
      | error f => exact rfl
      | ok s => exact whole_list Static.engine a.url a.xpath a.attrs .static s
  | playwright => exact whole_list Browser.engine a.url a.xpath a.attrs .browser _

/-- Only the exit code zero comes with an output. -/
theorem output_ofCrawled (least : Nat) {r : Crawled} {records : Option (List Record)} (hr : r.Whole records)
    (h : (Report.ofCrawled least r).ending ≠ .exit 0) : (Report.ofCrawled least r).output = "" := by
  have houtput : (Report.ofCrawled least r).output = String.join r.output := by
    unfold Report.ofCrawled
    cases r.failure with
    | none => rfl
    | some f => cases hf : f.isCrawl <;> simp only [hf] <;> rfl
  unfold Crawled.Whole at hr
  cases hfailure : r.failure with
  | none =>
      rw [ending_ofCrawled, hfailure] at h
      exact absurd rfl h
  | some f =>
      rw [hfailure] at hr
      rw [houtput, hr]
      rfl

theorem output_invoke (w : Surroundings) (argv : List String) (h : (invoke w argv).ending ≠ .exit 0) :
    (invoke w argv).output = "" := by
  unfold invoke at h ⊢
  cases hlevel : threshold (w.environment "LOG_LEVEL") with
  | error f => rfl
  | ok least =>
      rw [hlevel] at h
      dsimp only at h ⊢
      cases hargv : Arguments.parse argv with
      | error stop =>
          cases stop with
          | help =>
              rw [hargv] at h
              exact absurd rfl h
          | refused message => rfl
      | ok a =>
          rw [hargv] at h
          dsimp only at h ⊢
          cases hconfig : a.config w.environment none with
          | error fault => rfl
          | ok c =>
              rw [hconfig] at h
              exact output_ofCrawled least (whole_crawl w c a) h

/-- **Closed before anything is written.** On every engine a listing does what it does under watch, and there it closes its
engine once, behind all other calls, and has written nothing then; it has failed with that, or it writes the lines for all
records it collected, and does not come back to the engine. So a crawl has written all or nothing, and with any exit code
but zero the command's output is empty. -/
theorem closed_before_written :
    (∀ {δ ν : Type} [DecidableEq ν] (E : Engine δ ν) (device : δ) (url xpath : String) (names : List String),
      let start : Session (Watched δ ν) ν Output := Session.start ⟨device, []⟩ []
      let closed := stateOf (collectAndClose E.watched url xpath names start)
      Action.through Session.unwatched (list E.watched url xpath names start) =
          list E url xpath names (Session.start device []) ∧
        (∃ reads : List (Engine.Call ν), .close ∉ reads ∧ closed.desk.device.calls = reads ++ [.close]) ∧ closed.host = [] ∧
        ((∃ f, list E.watched url xpath names start = .error f closed) ∨
          ∃ records s', list E.watched url xpath names start = .ok () s' ∧
            valueOf (collect E.watched url xpath names start) = some records ∧ s'.host = Record.lines 0 records ∧
            s'.desk.device = closed.desk.device)) ∧
      (∀ (w : Surroundings) (a : Arguments) (base : Option Config),
        (∃ fault, run w a base = ⟨some (.refused (.config fault)), #[], [], none⟩) ∨
          ∃ c, (base = some c ∨ base = none ∧ a.config w.environment none = .ok c) ∧
            (run w a base).Whole (collected w c a)) ∧
      ∀ (w : Surroundings) (argv : List String), (invoke w argv).ending ≠ .exit 0 → (invoke w argv).output = "" := by
  refine ⟨fun E device url xpath names => ?_, fun w a base => ?_, output_invoke⟩
  · exact ⟨mirrors_list E url xpath names _, calls_collectAndClose E url xpath names device,
      host_collectAndClose E.watched url xpath names _, list_cases E.watched url xpath names _⟩
  · cases base with
    | some c => exact .inr ⟨c, .inl rfl, whole_crawl w c a⟩
    | none =>
        unfold run
        cases a.config w.environment none with
        | error fault => exact .inl ⟨fault, rfl⟩
        | ok c => exact .inr ⟨c, .inr ⟨rfl, rfl⟩, whole_crawl w c a⟩

/-- Surroundings in which the scripts of a page fail while it is loaded. -/
def flawed : Surroundings := { calm with world := { Browser.World.quiet with visits := [⟨none, ["broken"], none⟩] } }

theorem closed_before_written_flawed :
    (invoke flawed ["a", "--xpath", "//p", "--fail-on-script-error"]).ending ≠ .exit 0 ∧
      (invoke flawed ["a", "--xpath", "//p", "--fail-on-script-error"]).output = "" := by
  have hending : (invoke flawed ["a", "--xpath", "//p", "--fail-on-script-error"]).ending = .exit 1 := by decide +kernel
  have hfails : (invoke flawed ["a", "--xpath", "//p", "--fail-on-script-error"]).ending ≠ .exit 0 := by
    rw [hending]
    decide
  exact ⟨hfails, closed_before_written.2.2 flawed _ hfails⟩

end Crawl.Command
