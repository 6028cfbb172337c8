import Crawl.Proofs.Engine.Calls
import Crawl.Proofs.Session.Scopes
import Crawl.Command.Listing
/-!
# How a listing ends

What the command reads from a page it reads in scopes that are closed again. So it is known how a listing ends from how
the few calls to the engine end: the load of the page, the selection by the path, and the looks at the tag, the text and
the attributes of each match, one after the other up to the first that fails. Nothing else in it can fail, but for the
path itself, which must not be empty.

What looks lead to is told from a view of the engine's state, by `Looks`. An action that `Reads` some looks does nothing
else that counts: it fails with the first of them that fails, and keeps the nodes that are in scope. Such actions are put
together by joining their looks, and the lemmas below follow the listing from one attribute up to all matches.
-/

namespace Crawl.Command

open Crawl.Action (stateOf failureOf bind_ok bind_error)

variable {δ ν τ γ α β : Type}

/-! ## Looks -/

/-- Whether a call looks at a node: at its tag, its text or an attribute. -/
def isLook : Engine.Call ν → Bool
  | .tagName _ => true
  | .textContent _ => true
  | .attr .. => true
  | _ => false

/-- What a look leads to, told from a view of the engine's state: whether it fails, and the view after it. -/
structure Looks (γ ν : Type) where
  fault : γ → Engine.Call ν → Option Failure
  next : γ → Engine.Call ν → γ

namespace Looks

variable (L : Looks γ ν)

/-- The failure of the first of some looks that fails. -/
def failure : γ → List (Engine.Call ν) → Option Failure
  | _, [] => none
  | v, c :: cs => (L.fault v c).or (failure (L.next v c) cs)

/-- The view after some looks, up to the first that fails. -/
def last : γ → List (Engine.Call ν) → γ
  | v, [] => v
  | v, c :: cs => if (L.fault v c).isSome then L.next v c else last (L.next v c) cs

/-- Looks that all succeed are followed by the next ones. -/
theorem append_ok {v : γ} {cs : List (Engine.Call ν)} (h : L.failure v cs = none) (ds : List (Engine.Call ν)) :
    L.failure v (cs ++ ds) = L.failure (L.last v cs) ds ∧ L.last v (cs ++ ds) = L.last (L.last v cs) ds := by
  induction cs generalizing v with
  | nil => exact ⟨rfl, rfl⟩
  | cons c cs ih =>
      obtain ⟨hnone, hrest⟩ := Option.or_eq_none_iff.mp h
      simp only [List.cons_append, failure, last, hnone, Option.none_or]
      exact ih hrest

/-- A look that fails is the last one. -/
theorem append_failed {v : γ} {cs : List (Engine.Call ν)} {f : Failure} (h : L.failure v cs = some f)
    (ds : List (Engine.Call ν)) : L.failure v (cs ++ ds) = some f ∧ L.last v (cs ++ ds) = L.last v cs := by
  induction cs generalizing v with
  | nil => cases h
  | cons c cs ih =>
      simp only [List.cons_append, failure, last] at h ⊢
      cases hfault : L.fault v c with
      | some g =>
          rw [hfault] at h
          exact ⟨h, rfl⟩
      | none =>
          rw [hfault] at h
          exact ih h

end Looks

/-- The looks at a match: at its tag, at its text, and at each attribute that is asked for. -/
def looks (names : List String) (node : ν) : List (Engine.Call ν) :=
  .tagName node :: .textContent node :: names.map (.attr node)

/-- An engine that can be read: what a look at a node leads to is told from the view of its state. -/
def Legible (E : Engine δ ν) (view : δ → γ) (L : Looks γ ν) : Prop :=
  ∀ c : Engine.Call ν, isLook c = true → ∀ d : Desk δ,
    failureOf (E.perform c d) = L.fault (view d.device) c ∧
      view (stateOf (E.perform c d)).device = L.next (view d.device) c

/-! ## Actions by what they end with -/

/-- An action ends from a session with a failure, or with none, and with a view of the engine's state, and keeps the nodes
that are in scope. -/
structure Ends (view : δ → γ) (act : Action (Session δ ν τ) α) (s : Session δ ν τ) (failure : Option Failure) (v : γ) :
    Prop where
  failure : failureOf (act s) = failure
  frames : (stateOf (act s)).frames = s.frames
  view : view (stateOf (act s)).desk.device = v

namespace Ends

variable {view : δ → γ} {s : Session δ ν τ} {failure : Option Failure} {v : γ}

theorem of_run {act act' : Action (Session δ ν τ) α} {s₁ : Session δ ν τ} (hrun : act s = act' s₁)
    (hframes : s₁.frames = s.frames) (h : Ends view act' s₁ failure v) : Ends view act s failure v := by
  obtain ⟨hfailure, hframes', hview⟩ := h
  constructor
  · rw [hrun]
    exact hfailure
  · rw [hrun]
    exact hframes'.trans hframes
  · rw [hrun]
    exact hview

theorem throw (f : Failure) :
    Ends view (MonadExcept.throw f : Action (Session δ ν τ) α) s (some f) (view s.desk.device) := ⟨rfl, rfl, rfl⟩

theorem onDesk (act : Action (Desk δ) α) : Ends view (Session.onDesk act : Action (Session δ ν τ) α) s
    (failureOf (act s.desk)) (view (stateOf (act s.desk)).device) := by
  unfold Session.onDesk Action.within
  constructor
  · dsimp only
    cases act s.desk <;> rfl
  · dsimp only
    cases act s.desk <;> rfl
  · dsimp only
    cases act s.desk <;> rfl

/-- A failure ends what would come after it. -/
theorem failed {x : Action (Session δ ν τ) α} {k : α → Action (Session δ ν τ) β} {f : Failure} {s' : Session δ ν τ}
    (hrun : x s = .error f s') (hframes : s'.frames = s.frames) : Ends view (x >>= k) s (some f) (view s'.desk.device) := by
  have hbind : (x >>= k) s = .error f s' := bind_error hrun k
  constructor
  · rw [hbind]
    rfl
  · rw [hbind]
    exact hframes
  · rw [hbind]
    rfl

/-- Entering a scope puts its node in front, and asks nothing of the engine. -/
theorem push_front (E : Engine δ ν) (node : ν) (s : Session δ ν τ) :
    ∃ s', Session.pushFront E node s = .ok () s' ∧ s'.frames = node :: s.frames ∧ s'.desk.device = s.desk.device :=
  ⟨_, rfl, rfl, rfl⟩

/-- Leaving the scope in front brings back the nodes behind it. -/
theorem leave_front [DecidableEq ν] (E : Engine δ ν) {node : ν} {rest : List ν} (h : s.frames = node :: rest) :
    ∃ s', Session.leave E node s = .ok () s' ∧ s'.frames = rest ∧ s'.desk.device = s.desk.device := by
  have hpop : ∃ s', Session.popFront E s = .ok node s' ∧ s'.frames = rest ∧ s'.desk.device = s.desk.device := by
    cases s
    cases h
    exact ⟨_, rfl, rfl, rfl⟩
  obtain ⟨s', hpop, hframes, hdevice⟩ := hpop
  refine ⟨s', ?_, hframes, hdevice⟩
  rw [Session.leave, bind_ok hpop, if_pos rfl]
  rfl

/-- A scope whose body leaves it in front is closed again without a failure of its own. -/
theorem inScope [DecidableEq ν] (E : Engine δ ν) (node : ν) {body : Action (Session δ ν τ) α}
    (hbody : ∀ s' : Session δ ν τ, s'.frames = node :: s.frames → s'.desk.device = s.desk.device →
      Ends view body s' failure v) : Ends view (Session.inScope E node body) s failure v := by
  obtain ⟨s₁, hpush, hframes₁, hdevice₁⟩ := push_front E node s
  obtain ⟨hfailure, hframes, hview⟩ := hbody s₁ hframes₁ hdevice₁
  obtain ⟨s₂, hleave, hframes₂, hdevice₂⟩ := leave_front E (hframes.trans hframes₁)
  have hrun : Session.inScope E node body s = Action.always body (Session.leave E node) s₁ := bind_ok hpush _
  constructor
  · rw [hrun, Action.failureOf_always, hleave, hfailure]
    rfl
  · rw [hrun, Action.stateOf_always, hleave]
    exact hframes₂
  · rw [hrun, Action.stateOf_always, hleave]
    exact (congrArg view hdevice₂).trans hview

/-- An operation on the current scope, where there is one. -/
theorem of_front {k : ν → Action (Session δ ν τ) α} {node : ν} {rest : List ν} (hframes : s.frames = node :: rest)
    (hk : Ends view (k node) s failure v) : Ends view (Session.orFront none >>= k) s failure v := by
  have hfront : (Session.orFront none : Action (Session δ ν τ) ν) s = .ok node s := Session.front_cons hframes
  exact .of_run (bind_ok hfront k) rfl hk

end Ends

/-! ## Actions by the looks they make -/

/-- From a session, an action makes some looks, one after the other up to the first that fails, and ends as they do. -/
def Reads (L : Looks γ ν) (view : δ → γ) (act : Action (Session δ ν τ) α) (s : Session δ ν τ) (cs : List (Engine.Call ν)) :
    Prop :=
  Ends view act s (L.failure (view s.desk.device) cs) (L.last (view s.desk.device) cs)

namespace Reads

variable {E : Engine δ ν} {L : Looks γ ν} {view : δ → γ} {s : Session δ ν τ} {cs ds : List (Engine.Call ν)}

theorem pure (a : α) : Reads L view (Pure.pure a : Action (Session δ ν τ) α) s [] := ⟨rfl, rfl, rfl⟩

/-- One action after the other makes the looks of both. -/
theorem bind {x : Action (Session δ ν τ) α} {k : α → Action (Session δ ν τ) β} (hx : Reads L view x s cs)
    (hk : ∀ a s', s'.frames = s.frames → Reads L view (k a) s' ds) : Reads L view (x >>= k) s (cs ++ ds) := by
  obtain ⟨hfailure, hframes, hview⟩ := hx
  unfold Reads
  cases hr : x s with
  | ok a s' =>
      rw [hr] at hfailure hframes hview
      obtain ⟨hfailure', hview'⟩ := L.append_ok hfailure.symm ds
      have hlater : Ends view (k a) s' _ _ := hk a s' hframes
      rw [hfailure', hview', ← hview]
      exact .of_run (bind_ok hr k) hframes hlater
  | error f s' =>
      rw [hr] at hfailure hframes hview
      obtain ⟨hfailure', hview'⟩ := L.append_failed hfailure.symm ds
      rw [hfailure', hview', ← hview]
      exact .failed hr hframes

/-- What is made of a result needs no further look. -/
theorem map {x : Action (Session δ ν τ) α} (f : α → β) (hx : Reads L view x s cs) :
    Reads L view (x >>= fun a => Pure.pure (f a)) s cs := by
  rw [← List.append_nil cs]
  exact hx.bind fun a s' _ => .pure (f a)

/-- A look is one of its looks. -/
theorem look (h : Legible E view L) {c : Engine.Call ν} (hc : isLook c = true) :
    Reads L view (Session.onDesk (E.perform c) : Action (Session δ ν τ) c.Answer) s [c] := by
  obtain ⟨hfailure, hview⟩ := h c hc s.desk
  have hlast : L.last (view s.desk.device) [c] = L.next (view s.desk.device) c := ite_self _
  unfold Reads
  rw [Looks.failure, Looks.failure, Option.or_none, hlast, ← hfailure, ← hview]
  exact .onDesk _

/-- A scope makes the looks that are made in it. -/
theorem inScope [DecidableEq ν] (E : Engine δ ν) (node : ν) {body : Action (Session δ ν τ) α}
    (hbody : ∀ s' : Session δ ν τ, s'.frames = node :: s.frames → Reads L view body s' cs) :
    Reads L view (Session.inScope E node body) s cs := by
  refine Ends.inScope E node fun s' hframes hdevice => ?_
  rw [← hdevice]
  exact hbody s' hframes

end Reads

/-! ## Reading one match, and all of them -/

section

variable {E : Engine δ ν} {view : δ → γ} {L : Looks γ ν} (h : Legible E view L)
include h

theorem Legible.reads_textOf {s : Session δ ν τ} {node : ν} {rest : List ν} (hframes : s.frames = node :: rest) :
    Reads L view (Session.textOf E none) s [.textContent node] :=
  .of_front hframes (Reads.look h (c := .textContent node) rfl)

theorem Legible.reads_attributeOf {s : Session δ ν τ} {node : ν} {rest : List ν} (hframes : s.frames = node :: rest)
    (name : String) : Reads L view (Session.attributeOf E name none) s [.attr node name] :=
  .of_front hframes (Reads.look h (c := .attr node name) rfl)

/-- Attributes are looked at in order. -/
theorem Legible.reads_readAttrs (names : List String) (known : List (String × Option String)) {s : Session δ ν Output}
    {node : ν} {rest : List ν} (hframes : s.frames = node :: rest) :
    Reads L view (readAttrs E known names) s (names.map (.attr node)) := by
  induction names generalizing known s with
  | nil => exact .pure _
  | cons name names ih => exact .bind (h.reads_attributeOf hframes name) fun value s' hkept => ih _ (hkept.trans hframes)

/-- A match is looked at as its scope. -/
theorem Legible.reads_describe (names : List String) {s : Session δ ν Output} {node : ν} {rest : List ν}
    (hframes : s.frames = node :: rest) : Reads L view (describe E names node) s (looks names node) := by
  have htag : Reads L view (Session.onDesk (E.tagName node)) s [.tagName node] := .look h (c := .tagName node) rfl
  refine .bind htag fun tag s₁ hkept₁ => ?_
  have hframes₁ := hkept₁.trans hframes
  refine .bind (h.reads_textOf hframes₁) fun text s₂ hkept₂ => ?_
  exact .map _ (h.reads_readAttrs names [] (hkept₂.trans hframes₁))

/-- Matches are looked at in order. -/
theorem Legible.reads_runOver [DecidableEq ν] (names : List String) (nodes : List ν) (s : Session δ ν Output) :
    Reads L view (Session.runOver E (describe E names) nodes) s (nodes.flatMap (looks names)) := by
  induction nodes generalizing s with
  | nil => exact .pure _
  | cons node nodes ih =>
      refine .bind (.inScope E node fun s' hframes => h.reads_describe names hframes) fun value s' _ => ?_
      exact .map _ (ih s')

end

/-! ## All matches of a path -/

/-- The failure with which the matches of a path are read, when the path selects some nodes or fails to. -/
def readFailure (L : Looks γ ν) (names : List String) (v : γ) : Except Failure (List ν) → Option Failure
  | .error f => some f
  | .ok nodes => L.failure v (nodes.flatMap (looks names))

/-- The view of the engine's state once the matches are read. -/
def readLast (L : Looks γ ν) (names : List String) (v : γ) : Except Failure (List ν) → γ
  | .error _ => v
  | .ok nodes => L.last v (nodes.flatMap (looks names))

/-- What an action ends with at a desk: a value, or a failure. -/
def endsAt (d : Desk δ) : Except Failure α → EStateM.Result Failure (Desk δ) α
  | .ok a => .ok a d
  | .error f => .error f d

/-- What a path selects on a page, told from the view of the engine's state, and the view after that. -/
def Selects (E : Engine δ ν) (view : δ → γ) (v : γ) (page : ν) (xpath : String) (found : Except Failure (List ν)) (v' : γ) :
    Prop :=
  ∀ d, view d.device = v → ∃ d', view d'.device = v' ∧ E.findByPath page xpath d = endsAt d' found

theorem readMatches_eq [DecidableEq ν] (E : Engine δ ν) (names : List String) {xpath : String} (hne : xpath ≠ "")
    (s : Session δ ν Output) :
    readMatches E xpath names s =
      Session.runEach E ⟨s.serial, .element .container (some ⟨.xpath, xpath, hne⟩)⟩ (describe E names)
        { s with serial := s.serial + 1 } := by
  have hmake : Descriptor.make .xpath xpath = .ok ⟨.xpath, xpath, hne⟩ := dif_neg hne
  unfold readMatches
  rw [hmake]
  rfl

theorem resolveList_eq (E : Engine δ ν) (i : Nat) {xpath : String} (hne : xpath ≠ "") (page : ν) :
    (Session.resolveList E ⟨i, .element .container (some ⟨.xpath, xpath, hne⟩)⟩ (some page) : Action (Session δ ν τ) _) =
      Session.onDesk (E.findByPath page xpath) >>= fun nodes => do
        Session.note .debug .resolver ("Resolved "
          ++ (← Session.shown ⟨i, .element .container (some ⟨.xpath, xpath, hne⟩)⟩)
          ++ " to " ++ toString nodes.length ++ " nodes")
        return nodes := rfl

/-- An empty path is refused before anything is asked of the engine. -/
theorem ends_readMatches_empty [DecidableEq ν] (E : Engine δ ν) (view : δ → γ) (names : List String)
    (s : Session δ ν Output) :
    Ends view (readMatches E "" names) s (some (.refused (.descriptor (.emptyValue .xpath)))) (view s.desk.device) :=
  .throw _

theorem Legible.ends_readMatches [DecidableEq ν] {E : Engine δ ν} {view : δ → γ} {L : Looks γ ν} (h : Legible E view L)
    {xpath : String} (hne : xpath ≠ "") {page : ν} {v v' : γ} {found : Except Failure (List ν)}
    (hselects : Selects E view v page xpath found v') (names : List String) {s : Session δ ν Output} {rest : List ν}
    (hframes : s.frames = page :: rest) (hview : view s.desk.device = v) :
    Ends view (readMatches E xpath names) s (readFailure L names v' found) (readLast L names v' found) := by
  refine .of_run (readMatches_eq E names hne s) rfl ?_
  -- the search starts at the node in front, which is the page
  have hnumbered : ({ s with serial := s.serial + 1 } : Session δ ν Output).frames = page :: rest := hframes
  refine .of_run (bind_ok (Session.frontOrNone_cons hnumbered) _) rfl ?_
  obtain ⟨d', rfl, hfind⟩ := hselects s.desk hview
  cases found with
  | error f =>
      have hdesk : (Session.onDesk (E.findByPath page xpath) : Action (Session δ ν Output) _)
          { s with serial := s.serial + 1 } = .error f { s with serial := s.serial + 1, desk := d' } := by
        simp only [Session.onDesk, Action.within, hfind, endsAt]
      rw [resolveList_eq E s.serial hne page]
      exact .failed (bind_error hdesk _) rfl
  | ok nodes =>
      have hdesk : (Session.onDesk (E.findByPath page xpath) : Action (Session δ ν Output) _)
          { s with serial := s.serial + 1 } = .ok nodes { s with serial := s.serial + 1, desk := d' } := by
        simp only [Session.onDesk, Action.within, hfind, endsAt]
      obtain ⟨s₁, hlist, hframes₁, hdevice₁⟩ : ∃ s₁, Session.resolveList E
          ⟨s.serial, .element .container (some ⟨.xpath, xpath, hne⟩)⟩ (some page)
          { s with serial := s.serial + 1 } = .ok nodes s₁ ∧ s₁.frames = s.frames ∧ s₁.desk.device = d'.device := by
        rw [resolveList_eq E s.serial hne page, bind_ok hdesk]
        exact ⟨_, rfl, rfl, rfl⟩
      refine .of_run (bind_ok hlist _) hframes₁ ?_
      have hreads : Ends view _ s₁ _ _ := h.reads_runOver names nodes s₁
      rw [hdevice₁] at hreads
      exact hreads

/-! ## The whole listing -/

/-- What the journal holds when the page at an address is about to be loaded. -/
def arrival (url : String) : Journal := #[⟨.info, .session, "Navigating to " ++ url⟩]

/-- The processor for the page at the address that the command was given. -/
def pageAt (url : String) : Processor := ⟨0, .page (some url)⟩

/-- A listing resolves the page at its address, and reads the matches in the scope of that page. -/
theorem collect_eq [DecidableEq ν] (E : Engine δ ν) (device : δ) (url xpath : String) (names : List String) :
    ∃ s : Session δ ν Output, s.desk = ⟨device, arrival url⟩ ∧ s.frames = [] ∧ s.resolved 0 = none ∧
      collect E url xpath names (Session.start device []) =
        ((Session.resolvePage E (pageAt url) >>= fun node => do
            Session.remember (pageAt url) node
            Session.note .debug .resolver
              ("Resolved " ++ (← Session.shown (pageAt url)) ++ " to " ++ (← Session.quoted E node))
            return node) >>= fun node => Session.inScope E node (readMatches E xpath names)) s :=
  ⟨_, rfl, rfl, rfl, rfl⟩

variable (E : Engine δ ν)

theorem resolvePage_eq {url : String} (hurl : url ≠ "") :
    (Session.resolvePage E (pageAt url) : Action (Session δ ν Output) ν) = Session.onDesk (E.loadDocument url) := if_pos hurl

variable [DecidableEq ν] (device : δ) (xpath : String) (names : List String)

/-- Without an address there is nothing to load. -/
theorem collect_noAddress : ∃ s, collect E "" xpath names (Session.start device []) = .error (.navigation .noAddress) s ∧
    s.desk.device = device := by
  obtain ⟨s, hdesk, -, hresolved, hrun⟩ := collect_eq E device "" xpath names
  have hlast : (Session.lastNode (pageAt "") : Action (Session δ ν Output) _) s = .ok none s := by
    show EStateM.Result.ok (s.resolved 0) s = _
    rw [hresolved]
  have hpage : (Session.resolvePage E (pageAt "") : Action (Session δ ν Output) ν) s = .error (.navigation .noAddress) s :=
    bind_ok hlast _
  refine ⟨s, ?_, congrArg Desk.device hdesk⟩
  rw [hrun]
  exact bind_error (bind_error hpage _) _

variable {url : String} (hurl : url ≠ "")
include hurl

/-- A page that is not loaded ends the listing. -/
theorem collect_notLoaded {f : Failure} {d : Desk δ} (hload : E.loadDocument url ⟨device, arrival url⟩ = .error f d) :
    ∃ s, collect E url xpath names (Session.start device []) = .error f s ∧ s.desk = d := by
  obtain ⟨s, hdesk, -, -, hrun⟩ := collect_eq E device url xpath names
  have hpage : (Session.resolvePage E (pageAt url) : Action (Session δ ν Output) ν) s = .error f { s with desk := d } := by
    rw [resolvePage_eq E hurl]
    simp only [Session.onDesk, Action.within, hdesk, hload]
  refine ⟨{ s with desk := d }, ?_, rfl⟩
  rw [hrun]
  exact bind_error (bind_error hpage _) _

/-- The matches on a page that is loaded are read in its scope. -/
theorem collect_loaded {page : ν} {d : Desk δ} (hload : E.loadDocument url ⟨device, arrival url⟩ = .ok page d) :
    ∃ s : Session δ ν Output, s.desk.device = d.device ∧ collect E url xpath names (Session.start device []) =
      Session.inScope E page (readMatches E xpath names) s := by
  obtain ⟨s, hdesk, -, -, hrun⟩ := collect_eq E device url xpath names
  have hpage : (Session.resolvePage E (pageAt url) : Action (Session δ ν Output) ν) s = .ok page { s with desk := d } := by
    rw [resolvePage_eq E hurl]
    simp only [Session.onDesk, Action.within, hdesk, hload]
  obtain ⟨s', hresolve, hdevice⟩ : ∃ s', (Session.resolvePage E (pageAt url) >>= fun node => do
      Session.remember (pageAt url) node
      Session.note .debug .resolver ("Resolved " ++ (← Session.shown (pageAt url)) ++ " to " ++ (← Session.quoted E node))
      return node : Action (Session δ ν Output) ν) s = .ok page s' ∧ s'.desk.device = d.device := by
    rw [bind_ok hpage]
    exact ⟨_, rfl, rfl⟩
  refine ⟨s', hdevice, ?_⟩
  rw [hrun, bind_ok hresolve]

/-- A listing of a page that is loaded ends as the reading of its matches. -/
theorem collect_ends {view : δ → γ} {L : Looks γ ν} (h : Legible E view L) {page : ν} {d : Desk δ}
    (hload : E.loadDocument url ⟨device, arrival url⟩ = .ok page d) {v v' : γ} (hview : view d.device = v)
    {found : Except Failure (List ν)} (hselects : Selects E view v page xpath found v') :
    failureOf (collect E url xpath names (Session.start device [])) =
        (if xpath = "" then some (.refused (.descriptor (.emptyValue .xpath))) else readFailure L names v' found) ∧
      view (stateOf (collect E url xpath names (Session.start device []))).desk.device =
        if xpath = "" then v else readLast L names v' found := by
  obtain ⟨s, hdevice, hrun⟩ := collect_loaded E device xpath names hurl hload
  have hstart : view s.desk.device = v := (congrArg view hdevice).trans hview
  have hbody (s' : Session δ ν Output) (hframes : s'.frames = page :: s.frames)
      (hdevice' : s'.desk.device = s.desk.device) : Ends view (readMatches E xpath names) s'
        (if xpath = "" then some (.refused (.descriptor (.emptyValue .xpath))) else readFailure L names v' found)
        (if xpath = "" then v else readLast L names v' found) := by
    have hview' : view s'.desk.device = v := (congrArg view hdevice').trans hstart
    by_cases hne : xpath = ""
    · rw [if_pos hne, if_pos hne, hne, ← hview']
      exact ends_readMatches_empty E view names s'
    · rw [if_neg hne, if_neg hne]
      exact h.ends_readMatches hne hselects names hframes hview'
  have hends := Ends.inScope E page hbody
  rw [hrun]
  exact ⟨hends.failure, hends.view⟩

omit hurl

/-- The failure of a listing is that of closing the engine, or else that of collecting the matches. -/
theorem failureOf_list (s : Session δ ν Output) : failureOf (list E url xpath names s) =
    (failureOf (E.close (stateOf (collect E url xpath names s)).desk)).or (failureOf (collect E url xpath names s)) := by
  have hclose (s : Session δ ν Output) : failureOf (Session.close E true s) = failureOf (E.close s.desk) := by
    rw [show (Session.close E true : Action (Session δ ν Output) Unit) = Session.onDesk E.close from if_pos rfl]
    unfold Session.onDesk Action.within
    cases E.close s.desk <;> rfl
  rw [← hclose, ← Action.failureOf_always, list, Action.failureOf_bind]
  cases Action.always (collect E url xpath names) (Session.close E true) s <;> rfl

end Crawl.Command
