import Crawl.Proofs.Static.Obstacles
/-!
# Where an activation leads

Activating an element leads to a destination, which is worked out from its page before anything is loaded. Either the
destination cannot be worked out, because some address cannot be taken apart, or the activation stays on the page, or it
loads the destination and meets the obstacles on the way there. So all that can come out of a load or of an activation
is a document, a failure of navigation, or an obstacle.
-/

namespace Crawl.Static

open Crawl.Action (stateOf failureOf valueOf bind_ok bind_error read_eq)

variable {s : State} {j : Journal} {f : Failure}

/-- Where a form sends its fields to when it is sent by a control of the page with the given address. -/
def formDestination (base : String) (t : Html.Tree) (form : Nat) (submitter : Html.Row) :
    Except Url.Fault (String × Option (List (String × String))) :=
  let formAttr (name : String) : Option String := t[form]?.bind fun r => Html.Form.filled? r name
  let fields := sentFields t form submitter
  match Url.join base.toList ((formAttr "action").getD base).toList with
  | .error e => .error e
  | .ok target =>
    if Text.lower ((formAttr "method").getD "get") = "post" then .ok (String.ofList target, some fields)
    else match Url.split (String.ofList target).toList with
      | .error e => .error e
      | .ok p => .ok (String.ofList (Url.unsplit ⟨p.scheme, p.netloc, p.path, Url.formQuery fields, []⟩), none)

/-- Where activating a row of the page with the given address leads: nowhere else, or to an address, with the fields to
send there. -/
def destination (base : String) (t : Html.Tree) (i : Nat) (r : Html.Row) :
    Except Url.Fault (Option (String × Option (List (String × String)))) :=
  match deedOf t i r with
  | .stay => .ok none
  | .follow href => (Url.join base.toList href.toList).map fun cs => some (String.ofList cs, none)
  | .submit form => (formDestination base t form r).map some

/-- The state after one more handle was given out. -/
def State.handed (s : State) : State := { s with handles := s.handles + 1 }

theorem ownerDocument_element {k i : Nat} {base : String} (hbase : s.baseOf k = some base) :
    ownerDocument (.element k i) ⟨s, j⟩ = .ok (.document s.handles k base) ⟨s.handed, j⟩ := by
  rw [ownerDocument, bind_ok (read_eq _)]
  unfold State.baseOf at hbase
  simp only [hbase]
  rfl

/-- Going to a destination, or staying on a page when there is none. -/
def goTo (page : Node) : Except Url.Fault (Option (String × Option (List (String × String)))) → Work Node
  | .error e => throw (.refused (.address e))
  | .ok none => pure page
  | .ok (some (address, data)) => load address data

/-- Sending a form goes to the form's destination, after an entry in the journal. -/
theorem submit_goes (base : String) (t : Html.Tree) (form : Nat) (r : Html.Row) (page : Node) :
    ∃ j', submit base t form r ⟨s, j⟩ = goTo page ((formDestination base t form r).map some) ⟨s, j'⟩ := by
  unfold submit formDestination
  dsimp only
  -- the form matters only by its target and its method
  generalize ((t[form]?.bind fun r => Html.Form.filled? r "action").getD base) = action
  generalize Text.lower (((t[form]?.bind fun r => Html.Form.filled? r "method")).getD "get") = method
  unfold joined
  cases Url.join base.toList action.toList with
  | error e => exact ⟨j, rfl⟩
  | ok target =>
      refine ⟨j.push ⟨.debug, .staticEngine,
        "Submitting form to " ++ String.ofList target ++ " via " ++ Text.upper method⟩, ?_⟩
      rw [bind_ok (show (pure (String.ofList target) : Work String) ⟨s, j⟩ = .ok (String.ofList target) ⟨s, j⟩ from rfl)]
      by_cases hpost : method = "post"
      · simp only [hpost, if_true]
        rfl
      · simp only [hpost, if_false]
        unfold queryAddress
        cases Url.split (String.ofList target).toList with
        | error e => rfl
        | ok p => rfl

/-- Activating an element goes to its destination. -/
theorem activate_goes {k i : Nat} {base : String} {r : Html.Row} (hbase : s.baseOf k = some base)
    (hrow : (s.tree k)[i]? = some r) :
    ∃ j', activate (.element k i) ⟨s, j⟩ =
      goTo (.document s.handles k base) (destination base (s.tree k) i r) ⟨s.handed, j'⟩ := by
  rw [activate, bind_ok (ownerDocument_element hbase), bind_ok (read_eq _)]
  have htree : s.handed.tree k = s.tree k := rfl
  simp only [htree, hrow]
  unfold destination
  cases deedOf (s.tree k) i r with
  | stay => exact ⟨j, rfl⟩
  | follow href =>
      refine ⟨j, ?_⟩
      dsimp only
      unfold joined
      cases Url.join base.toList href.toList with
      | error e => rfl
      | ok cs => rfl
  | submit form => exact submit_goes base (s.tree k) form r _

/-- A row that is not in the tree of its page leads nowhere. -/
theorem activate_noRow {k i : Nat} {base : String} (hbase : s.baseOf k = some base) (hrow : (s.tree k)[i]? = none) :
    activate (.element k i) ⟨s, j⟩ = .ok (.document s.handles k base) ⟨s.handed, j⟩ := by
  rw [activate, bind_ok (ownerDocument_element hbase), bind_ok (read_eq _)]
  have htree : s.handed.tree k = s.tree k := rfl
  simp only [htree, hrow]
  rfl

/-- What keeps the activation of a row from leading to a page without being a failure of navigation: the row's
destination cannot be worked out, or there is an obstacle on the way to it. -/
inductive ObstacleAhead (s : State) (k i : Nat) : Failure → Prop
  | destination {base : String} {r : Html.Row} {e : Url.Fault} (base_eq : s.baseOf k = some base)
      (row : (s.tree k)[i]? = some r) (fault : destination base (s.tree k) i r = .error e) :
      ObstacleAhead s k i (.refused (.address e))
  | load {base address : String} {r : Html.Row} {data : Option (List (String × String))} {f : Failure}
      (base_eq : s.baseOf k = some base) (row : (s.tree k)[i]? = some r)
      (leads : destination base (s.tree k) i r = .ok (some (address, data))) (obstacle : Obstacle s address f) :
      ObstacleAhead s k i f

/-- No obstacle ahead is a failure of the crawl itself. -/
theorem ObstacleAhead.not_isCrawl {k i : Nat} (h : ObstacleAhead s k i f) : f.isCrawl = false := by
  cases h with
  | destination _ _ _ => rfl
  | load _ _ _ obstacle => exact obstacle.not_isCrawl

/-- Giving out a handle puts no obstacle up and takes none away. -/
theorem obstacle_handed {address : String} : Obstacle s.handed address f ↔ Obstacle s address f := by
  constructor
  · intro h
    cases h with
    | address whole split => exact .address whole split
    | zeroByte file zero => exact .zeroByte ⟨file.whole, file.parts, file.bare, file.scheme⟩ zero
    | undecodable file noZero read decode =>
        exact .undecodable ⟨file.whole, file.parts, file.bare, file.scheme⟩ noZero read decode
  · intro h
    cases h with
    | address whole split => exact .address whole split
    | zeroByte file zero => exact .zeroByte ⟨file.whole, file.parts, file.bare, file.scheme⟩ zero
    | undecodable file noZero read decode =>
        exact .undecodable ⟨file.whole, file.parts, file.bare, file.scheme⟩ noZero read decode

theorem activate_fails_iff {k i : Nat} {base : String} (hbase : s.baseOf k = some base) (hf : f.kind ≠ .navigationError) :
    failureOf (activate (.element k i) ⟨s, j⟩) = some f ↔ ObstacleAhead s k i f := by
  cases hrow : (s.tree k)[i]? with
  | none =>
      rw [activate_noRow hbase hrow]
      constructor
      · intro h
        cases h
      · intro h
        cases h with
        | destination _ row _ => rw [hrow] at row; cases row
        | load _ row _ _ => rw [hrow] at row; cases row
  | some r =>
      obtain ⟨j', hgo⟩ := activate_goes (j := j) hbase hrow
      rw [hgo]
      constructor
      · intro h
        rcases hdest : destination base (s.tree k) i r with e | _ | ⟨address, data⟩
        · rw [hdest] at h
          cases h
          exact .destination hbase hrow hdest
        · rw [hdest] at h
          cases h
        · rw [hdest] at h
          exact .load hbase hrow hdest (obstacle_handed.mp ((load_fails_iff hf).mp h))
      · intro h
        cases h with
        | destination base_eq row fault =>
            cases hbase.symm.trans base_eq
            cases hrow.symm.trans row
            rw [fault]
            rfl
        | load base_eq row leads obstacle =>
            cases hbase.symm.trans base_eq
            cases hrow.symm.trans row
            rw [leads]
            exact (load_fails_iff hf).mpr (obstacle_handed.mpr obstacle)

/-- Whatever activating an element leads to is a document. -/
theorem activate_ok {k i : Nat} {base : String} (hbase : s.baseOf k = some base) {n : Node} {d' : Desk State}
    (h : activate (.element k i) ⟨s, j⟩ = .ok n d') : ∃ i k u, n = .document i k u := by
  cases hrow : (s.tree k)[i]? with
  | none =>
      rw [activate_noRow hbase hrow] at h
      cases h
      exact ⟨_, _, _, rfl⟩
  | some r =>
      obtain ⟨j', hgo⟩ := activate_goes (j := j) hbase hrow
      rw [hgo] at h
      rcases hdest : destination base (s.tree k) i r with e | _ | ⟨address, data⟩
      · rw [hdest] at h
        cases h
      · rw [hdest] at h
        cases h
        exact ⟨_, _, _, rfl⟩
      · rw [hdest] at h
        obtain ⟨i, k, u, hn, -⟩ := load_ok h
        exact ⟨i, k, u, hn⟩

/-! ## Documents, failures of navigation, and obstacles -/

/-- A result that is a document or a failure of navigation. -/
def Navigates {σ : Type} : EStateM.Result Failure σ Node → Prop
  | .ok n _ => ∃ i k u, n = .document i k u
  | .error f _ => f.kind = .navigationError

/-- A result navigates unless a cause keeps it from it, if all its values are documents and the causes are all its other
failures. -/
theorem navigates_iff {σ : Type} {r : EStateM.Result Failure σ Node} {cause : Failure → Prop}
    (hok : ∀ n d, r = .ok n d → ∃ i k u, n = .document i k u)
    (hfails : ∀ f, f.kind ≠ .navigationError → (failureOf r = some f ↔ cause f))
    (hcause : ∀ f, cause f → f.kind ≠ .navigationError) :
    (Navigates r ↔ ∀ f, ¬ cause f) ∧ ∀ f, cause f → failureOf r = some f := by
  have hfails' : ∀ f, cause f → failureOf r = some f := fun f hf => (hfails f (hcause f hf)).mpr hf
  refine ⟨?_, hfails'⟩
  constructor
  · intro hnav f hf
    cases r with
    | ok n d => cases hfails' f hf
    | error g d =>
        cases hfails' f hf
        exact hcause f hf hnav
  · intro hnone
    cases r with
    | ok n d => exact hok n d rfl
    | error g d =>
        by_cases hkind : g.kind = .navigationError
        · exact hkind
        · exact absurd ((hfails g hkind).mp rfl) (hnone g)

theorem recorded_of_ne {u : String} (h : u ≠ "") : ∃ base, recorded u = some base := by
  unfold recorded
  rw [if_neg]
  · exact ⟨_, rfl⟩
  · intro hempty
    exact h (String.isEmpty_iff.mp hempty)

/-- **What comes of loading and activating.** Whatever pages, files and replies an engine has: an address ends as a
document or as a failure of navigation just when there is no obstacle to it, and else fails with the obstacle. So does
activating an element of a page that was loaded under an address, in every state that the engine comes to by further
calls, with the obstacles ahead of that element. -/
theorem load_and_activate (s : State) (j : Journal) :
    (∀ url, (Navigates (engine.loadDocument url ⟨s, j⟩) ↔ ∀ f, ¬ Obstacle s url f) ∧
        ∀ f, Obstacle s url f → failureOf (engine.loadDocument url ⟨s, j⟩) = some f) ∧
      ∀ url data h k u d, load url data ⟨s, j⟩ = .ok (.document h k u) d → url ≠ "" →
        ∀ s', engine.Reaches d.device s' → ∀ i j',
          (Navigates (engine.activate (.element k i) ⟨s', j'⟩) ↔ ∀ f, ¬ ObstacleAhead s' k i f) ∧
            ∀ f, ObstacleAhead s' k i f → failureOf (engine.activate (.element k i) ⟨s', j'⟩) = some f := by
  constructor
  · intro url
    refine navigates_iff ?_ (fun f hf => load_fails_iff hf) fun f hf => kind_ne_of_not_isCrawl hf.not_isCrawl
    intro n d h
    obtain ⟨i, k, u, hn, -⟩ := load_ok h
    exact ⟨i, k, u, hn⟩
  · intro url data h k u d hload hurl s' hreach i j'
    -- the page is recorded under an address, and still is after whatever calls came since
    obtain ⟨i', k', u', hn, hrecorded, hu⟩ := load_ok hload
    cases hn
    obtain ⟨base, hbase⟩ := recorded_of_ne (hu hurl)
    have hbase' : s'.baseOf k = some base := Reaches.baseOf hreach (hrecorded.trans hbase)
    refine navigates_iff (fun n d' hok => activate_ok hbase' hok) (fun f hf => activate_fails_iff hbase' hf) ?_
    intro f hf
    exact kind_ne_of_not_isCrawl hf.not_isCrawl

theorem not_navigates {σ : Type} {r : EStateM.Result Failure σ Node} (h : failureOf r = some f)
    (hf : f.isCrawl = false) : ¬ Navigates r := by
  intro hnav
  cases r with
  | ok n d => cases h
  | error g d =>
      cases h
      exact kind_ne_of_not_isCrawl hf hnav

/-- An engine that knows one page by heart, whose only link cannot be followed. -/
def brokenLink : State := ⟨[("a", "<a href='http://[b'>go</a>")], [], Client.start [], 1, #[], 0⟩

theorem load_and_activate_brokenLink :
    Navigates (engine.loadDocument "a" ⟨brokenLink, #[]⟩) ∧
      ∃ d, load "a" none ⟨brokenLink, #[]⟩ = .ok (.document 0 0 "a") d ∧ "a" ≠ "" ∧ engine.Reaches d.device d.device ∧
        ¬ Navigates (engine.activate (.element 0 5) ⟨d.device, #[]⟩) ∧ ∃ f, ObstacleAhead d.device 0 5 f := by
  have hvalue : valueOf (load "a" none ⟨brokenLink, #[]⟩) = some (.document 0 0 "a") := by decide +kernel
  have hclick : failureOf (activate (.element 0 5) ⟨(stateOf (load "a" none ⟨brokenLink, #[]⟩)).device, #[]⟩) =
      some (.refused (.address .brackets)) := by decide +kernel
  obtain ⟨hloads, hactivates⟩ := load_and_activate brokenLink #[]
  constructor
  · refine (hloads "a").1.mpr fun f hf => ?_
    cases hf with
    | address whole _ => cases whole
    | zeroByte file _ => cases file.whole
    | undecodable file _ _ _ => cases file.whole
  · cases hload : load "a" none ⟨brokenLink, #[]⟩ with
    | error g d =>
        rw [hload] at hvalue
        cases hvalue
    | ok n d =>
        rw [hload] at hvalue hclick
        cases hvalue
        have hnot : ¬ Navigates (engine.activate (.element 0 5) ⟨d.device, #[]⟩) := not_navigates hclick rfl
        refine ⟨d, rfl, by decide, .refl, hnot, ?_⟩
        obtain ⟨hiff, -⟩ := hactivates "a" none 0 0 "a" d hload (by decide) d.device .refl 5 #[]
        exact Classical.not_forall_not.mp fun hnone => hnot (hiff.mpr hnone)

/-- An address whose bracket is never closed is refused, which is no failure of navigation. -/
theorem loadDocument_openBracket :
    failureOf (engine.loadDocument "http://[b" ⟨brokenLink, #[]⟩) = some (.refused (.address .brackets)) ∧
      ¬ Navigates (engine.loadDocument "http://[b" ⟨brokenLink, #[]⟩) := by
  have hfails : failureOf (engine.loadDocument "http://[b" ⟨brokenLink, #[]⟩) = some (.refused (.address .brackets)) := by
    decide +kernel
  exact ⟨hfails, not_navigates hfails rfl⟩

end Crawl.Static
