import Crawl.Proofs.Engine.Calls
import Crawl.Session.Deed
/-!
# What holds of every operation of a session

The operations of a session are put together from few things: calls to the engine, entries in the journal, steps on
the session that leave the open uses of entries and the engine alone, and failures of the crawl. A property of actions
that holds of these and is kept by sequencing, closing off and catching is `Closed`, and holds then of every operation
of the session. The lemmas below say so, one for each operation; whoever has a new property to show of all operations
shows that it is closed and is done.

Two operations are not here: those that enter and leave the scope of an entry by hand, which are the only ones that
read and write the open uses.
-/

namespace Crawl.Session

open Crawl.Action (Keeps bind_ok bind_error)

variable {δ ν τ α β γ : Type}

/-- A session with other open uses of its entries. -/
def withUses (s : Session δ ν τ) (uses : Nat → List ν) : Session δ ν τ := { s with entered := uses }

/-- A step that neither looks at the open uses of entries nor changes them, and that leaves the engine's desk alone and
whatever else the program that runs in the session carries along. -/
structure Discreet (f : Session δ ν τ → α × Session δ ν τ) : Prop where
  uses : ∀ s uses, f (s.withUses uses) = ((f s).1, (f s).2.withUses uses)
  desk : ∀ s, (f s).2.desk = s.desk
  host : ∀ s, (f s).2.host = s.host

/-- A property that holds of what operations on an engine are built from, and is kept by building. -/
structure Closed (E : Engine δ ν) (P : ∀ {α : Type}, Action (Session δ ν τ) α → Prop) : Prop where
  pure : ∀ {α : Type} (a : α), P (Pure.pure a : Action (Session δ ν τ) α)
  throw : ∀ {α : Type} {f : Failure}, f.isCrawl = true → P (throw f : Action (Session δ ν τ) α)
  bind : ∀ {α β : Type} {x : Action (Session δ ν τ) α} {k : α → Action (Session δ ν τ) β},
    P x → (∀ a, P (k a)) → P (x >>= k)
  always : ∀ {α : Type} {x : Action (Session δ ν τ) α} {after : Action (Session δ ν τ) Unit},
    P x → P after → P (Action.always x after)
  attempt : ∀ {α : Type} {x : Action (Session δ ν τ) α}, P x → P (Action.attempt x)
  step : ∀ {α : Type} {f : Session δ ν τ → α × Session δ ν τ}, Discreet f → P (modifyGet f)
  note : ∀ level source text, P (note level source text)
  call : ∀ c : Engine.Call ν, c ≠ .close → P (onDesk (E.perform c))

/-- Two properties of operations can be shown together. -/
theorem Closed.and {E : Engine δ ν} {P Q : ∀ {α : Type}, Action (Session δ ν τ) α → Prop} (hP : Closed E P)
    (hQ : Closed E Q) : Closed E fun act => P act ∧ Q act where
  pure a := ⟨hP.pure a, hQ.pure a⟩
  throw hf := ⟨hP.throw hf, hQ.throw hf⟩
  bind hx hk := ⟨hP.bind hx.1 fun a => (hk a).1, hQ.bind hx.2 fun a => (hk a).2⟩
  always hx hafter := ⟨hP.always hx.1 hafter.1, hQ.always hx.2 hafter.2⟩
  attempt hx := ⟨hP.attempt hx.1, hQ.attempt hx.2⟩
  step hf := ⟨hP.step hf, hQ.step hf⟩
  note level source text := ⟨hP.note level source text, hQ.note level source text⟩
  call c hc := ⟨hP.call c hc, hQ.call c hc⟩

/-- A view of the engine's state and of what the program carries along is kept by every operation, if every call to the
engine keeps it. -/
theorem keeps_closed (E : Engine δ ν) (view : δ → τ → γ) (hcall : ∀ c : Engine.Call ν, c ≠ .close → ∀ host,
      Keeps (fun d : Desk δ => view d.device host) (E.perform c)) :
    Closed E fun act => Keeps (fun s : Session δ ν τ => view s.desk.device s.host) act where
  pure a := .pure a
  throw _ := .throw _
  bind hx hk := .bind hx hk
  always hx hafter := .always hx hafter
  attempt hx := .attempt hx
  step hf := .modifyGet fun s => by rw [hf.desk, hf.host]
  note _ _ _ := fun _ => rfl
  call c hc := by
    intro s
    rw [onDesk, Action.stateOf_within]
    exact hcall c hc s.host s.desk

/-- Work at the desk can be done piece by piece. -/
theorem onDesk_bind (x : Action (Desk δ) α) (k : α → Action (Desk δ) β) :
    (onDesk (x >>= k) : Action (Session δ ν τ) β) = onDesk x >>= fun a => onDesk (k a) := by
  funext s
  show Action.within _ _ (x >>= k) s = (onDesk x >>= fun a => onDesk (k a)) s
  unfold Action.within
  cases hx : x s.desk with
  | ok a d =>
      have hdesk : (onDesk x : Action (Session δ ν τ) α) s = .ok a { s with desk := d } := by
        simp only [onDesk, Action.within, hx]
      rw [bind_ok hx, bind_ok hdesk]
      rfl
  | error f d =>
      have hdesk : (onDesk x : Action (Session δ ν τ) α) s = .error f { s with desk := d } := by
        simp only [onDesk, Action.within, hx]
      rw [bind_error hx, bind_error hdesk]

/-- Work at the desk that succeeds has changed the desk. -/
theorem onDesk_ok {act : Action (Desk δ) α} {s s' : Session δ ν τ} {a : α}
    (h : (onDesk act : Action (Session δ ν τ) α) s = .ok a s') : ∃ d, act s.desk = .ok a d ∧ s' = { s with desk := d } := by
  unfold onDesk Action.within at h
  dsimp only at h
  cases hr : act s.desk with
  | ok a' d =>
      rw [hr] at h
      cases h
      exact ⟨d, rfl, rfl⟩
  | error f d => rw [hr] at h; cases h

/-- Popping looks at the nodes in scope and then goes by them. -/
theorem popFront_look (E : Engine δ ν) :
    (popFront E : Action (Session δ ν τ) ν) = (do return (← get).frames) >>= fun frames => match frames with
      | [] => throw (.stackImbalance .emptyPop)
      | node :: rest => do
        modify fun s => { s with frames := rest }
        note .debug .scope ("Popped: " ++ (← quoted E node))
        return node := rfl

namespace Closed

variable {E : Engine δ ν} {P : ∀ {α : Type}, Action (Session δ ν τ) α → Prop} (h : Closed E P)
include h

/-! ## Looking at a session and changing it -/

theorem look {f : Session δ ν τ → α} (hf : ∀ s uses, f (s.withUses uses) = f s) : P (do return f (← get)) :=
  h.step (f := fun s => (f s, s)) ⟨fun s uses => by rw [hf], fun _ => rfl, fun _ => rfl⟩

theorem fresh : P (fresh : Action (Session δ ν τ) Nat) := h.step ⟨fun _ _ => rfl, fun _ => rfl, fun _ => rfl⟩

theorem lastNode (p : Processor) : P (lastNode p) := h.look fun _ _ => rfl

theorem quoted (node : ν) : P (quoted E node) := h.look fun _ _ => rfl

theorem frontOrNone : P frontOrNone := h.look fun _ _ => rfl

theorem remember (p : Processor) (node : ν) : P (remember p node) := h.step ⟨fun _ _ => rfl, fun _ => rfl, fun _ => rfl⟩

theorem shown (p : Processor) : P (shown p) := h.bind (h.lastNode p) fun _ => h.pure _

theorem describe (target : Target) (document : Option ν) : P (describe target document) := by
  refine h.bind h.fresh fun i => ?_
  cases document with
  | none => exact h.bind (h.pure _) fun _ => h.pure _
  | some node => exact h.bind (h.remember _ node) fun _ => h.pure _

theorem front : P front := by
  refine h.bind h.frontOrNone fun node => ?_
  cases node with
  | none => exact h.throw rfl
  | some n => exact h.pure n

theorem orFront (node : Option ν) : P (orFront node) := by
  cases node with
  | none => exact h.front
  | some n => exact h.pure n

theorem entryFor (p : Processor) : P (entryFor p) := h.bind h.fresh fun _ => h.pure _

theorem navigateTo (url : String) : P (navigateTo url) := by
  refine h.bind (h.step ⟨fun _ _ => rfl, fun _ => rfl, fun _ => rfl⟩) fun _ => ?_
  refine h.bind (h.note _ _ _) fun _ => ?_
  exact h.bind (h.describe _ _) fun p => h.entryFor p

/-! ## Scopes -/

theorem pushFront (node : ν) : P (pushFront E node) := by
  refine h.bind (h.quoted node) fun _ => ?_
  exact h.bind (h.note _ _ _) fun _ => h.step ⟨fun _ _ => rfl, fun _ => rfl, fun _ => rfl⟩

theorem pushBack (node : ν) : P (pushBack E node) := by
  refine h.bind (h.quoted node) fun _ => ?_
  exact h.bind (h.note _ _ _) fun _ => h.step ⟨fun _ _ => rfl, fun _ => rfl, fun _ => rfl⟩

theorem popFront : P (popFront E) := by
  have hframes : P (do return (← get).frames : Action (Session δ ν τ) (List ν)) := h.look fun _ _ => rfl
  rw [popFront_look]
  refine h.bind hframes fun frames => ?_
  cases frames with
  | nil => exact h.throw rfl
  | cons node rest =>
      refine h.bind (h.step ⟨fun _ _ => rfl, fun _ => rfl, fun _ => rfl⟩) fun _ => ?_
      exact h.bind (h.quoted node) fun _ => h.bind (h.note _ _ _) fun _ => h.pure _

theorem drop : P (do let _ ← Session.popFront E) := h.bind h.popFront fun _ => h.pure _

variable [DecidableEq ν]

theorem leave (node : ν) : P (leave E node) := by
  refine h.bind h.popFront fun popped => ?_
  split
  · exact h.pure _
  · exact h.bind (h.quoted node) fun _ => h.bind (h.quoted popped) fun _ => h.throw rfl

theorem inScope (node : ν) {body : Action (Session δ ν τ) α} (hbody : P body) : P (inScope E node body) :=
  h.bind (h.pushFront node) fun _ => h.always hbody (h.leave node)

omit [DecidableEq ν] in
theorem resolvedNode (p : Processor) : P (resolvedNode p) := by
  refine h.bind (h.lastNode p) fun node => ?_
  cases node with
  | none => exact h.bind (h.shown p) fun _ => h.throw rfl
  | some n => exact h.pure n

omit [DecidableEq ν] in
theorem endPush (p : Processor) : P (endPush E p) := h.bind (h.resolvedNode p) fun node => h.pushBack node

theorem endPushWith (p : Processor) {block : Block δ ν τ α} (hblock : ∀ n, P (block n)) :
    P (endPushWith E p block) :=
  h.bind (h.resolvedNode p) fun node => h.inScope node (hblock node)

omit [DecidableEq ν] in
theorem onCurrent {block : Block δ ν τ α} (hblock : ∀ n, P (block n)) : P (onCurrent E block) :=
  h.bind h.front fun node => h.always (hblock node) h.drop

theorem runOver {block : Block δ ν τ α} (hblock : ∀ n, P (block n)) (nodes : List ν) : P (runOver E block nodes) := by
  induction nodes with
  | nil => exact h.pure _
  | cons node nodes ih =>
      refine h.bind (h.inScope node (hblock node)) fun value => ?_
      exact h.bind ih fun _ => h.pure _

omit [DecidableEq ν]

/-! ## Resolution -/

theorem ofExcept_forTarget (target : Target) : P (Action.ofExcept (Rule.forTarget target)) := by
  unfold Rule.forTarget
  split
  · exact h.throw rfl
  · split
    · exact h.throw rfl
    · exact h.pure _

theorem tagName (node : ν) : P (onDesk (E.tagName node)) := h.call (.tagName node) nofun

theorem inputType (node : ν) : P (onDesk (inputType E node)) := by
  unfold Crawl.inputType
  rw [onDesk_bind]
  exact h.bind (h.call (.attr node "type") nofun) fun _ => h.pure _

theorem ask (query : Query) (root : ν) (value : String) : P (onDesk (query.ask E root value)) := by
  cases query with
  | identifier => exact h.call (.findByIdentifier root value) nofun
  | name => exact h.call (.findByName root value) nofun
  | firstByPath =>
      rw [Query.ask, onDesk_bind]
      exact h.bind (h.call (.findByPath root value) nofun) fun _ => h.pure _
  | anchorText => exact h.call (.findAnchorByText root value) nofun
  | anchorTitle =>
      rw [Query.ask, onDesk_bind]
      exact h.bind (h.call (.findByPath root _) nofun) fun _ => h.pure _

theorem holds (check : Check) (node : ν) : P (onDesk (check.holds E node)) := by
  cases check with
  | tag name =>
      rw [Check.holds, onDesk_bind]
      exact h.bind (h.tagName node) fun _ => h.pure _
  | textField =>
      rw [Check.holds, onDesk_bind]
      refine h.bind (h.tagName node) fun tag => ?_
      split
      · exact h.pure _
      · split
        · rw [onDesk_bind]
          exact h.bind (h.inputType node) fun _ => h.pure _
        · exact h.pure _
  | submitControl =>
      rw [Check.holds, onDesk_bind]
      refine h.bind (h.tagName node) fun tag => ?_
      split
      · rw [onDesk_bind]
        exact h.bind (h.inputType node) fun _ => h.pure _
      · split
        · rw [onDesk_bind]
          exact h.bind (h.inputType node) fun _ => h.pure _
        · exact h.pure _

theorem searchRoot (p : Processor) (scope : ν) (root : SearchRoot) : P (searchRoot E p scope root) := by
  cases root with
  | document => exact h.call (.ownerDocument scope) nofun
  | scope => exact h.pure _
  | form =>
      refine h.bind (h.tagName scope) fun tag => ?_
      split
      · exact h.pure _
      · exact h.bind (h.shown p) fun _ => h.throw rfl

theorem resolvePage (p : Processor) : P (resolvePage E p) := by
  unfold Session.resolvePage
  split
  · exact h.throw rfl
  · refine iteInduction (fun _ => h.call (.loadDocument _) nofun) (fun _ => ?_)
    refine h.bind (h.lastNode p) fun node => ?_
    cases node with
    | none => exact h.throw rfl
    | some n => exact h.pure n

theorem resolveElement (p : Processor) (scope : Option ν) : P (resolveElement E p scope) := by
  refine h.bind (h.ofExcept_forTarget p.target) fun ⟨d, rule⟩ => ?_
  cases scope with
  | none => exact h.bind (h.shown p) fun _ => h.throw rfl
  | some scope =>
      refine h.bind (h.searchRoot p scope rule.root) fun root => ?_
      refine h.bind (h.ask rule.query root d.value) fun found => ?_
      cases found with
      | none => exact h.throw rfl
      | some node =>
          dsimp only
          split
          · exact h.pure _
          · refine h.bind (h.holds _ node) fun holds => ?_
            split
            · exact h.pure _
            · exact h.bind (h.tagName node) fun _ => h.throw rfl

theorem resolve (p : Processor) (scope : Option ν) : P (resolve E p scope) := by
  have hafter (node : ν) : P (do
      Session.remember p node
      Session.note .debug .resolver ("Resolved " ++ (← Session.shown p) ++ " to " ++ (← Session.quoted E node))
      return node) := by
    refine h.bind (h.remember p node) fun _ => ?_
    refine h.bind (h.shown p) fun _ => h.bind (h.quoted node) fun _ => ?_
    exact h.bind (h.note _ _ _) fun _ => h.pure _
  unfold Session.resolve
  split
  · exact h.bind (h.resolvePage p) hafter
  · exact h.bind (h.resolveElement p scope) hafter

theorem resolveList (p : Processor) (scope : Option ν) : P (resolveList E p scope) := by
  unfold Session.resolveList
  dsimp only
  split
  · exact h.throw rfl
  · split
    · exact h.throw rfl
    · cases scope with
      | none => exact h.bind (h.shown p) fun _ => h.throw rfl
      | some scope =>
          refine h.bind (h.call (.findByPath scope _) nofun) fun _ => ?_
          exact h.bind (h.shown p) fun _ => h.bind (h.note _ _ _) fun _ => h.pure _

theorem resolveHere (p : Processor) : P (resolveHere E p) := h.bind h.frontOrNone fun _ => h.resolve p _

theorem resolveFrom (p : Processor) : P (resolveFrom E p) := h.bind h.front fun _ => h.resolve p _

/-! ## Blocks in the scopes of processors -/

theorem runScoped [DecidableEq ν] (p : Processor) {block : Block δ ν τ α} (hblock : ∀ n, P (block n)) :
    P (runScoped E p block) :=
  h.bind (h.resolveHere p) fun node => h.inScope node (hblock node)

theorem runEach [DecidableEq ν] (p : Processor) {block : Block δ ν τ α} (hblock : ∀ n, P (block n)) :
    P (runEach E p block) := by
  refine h.bind h.frontOrNone fun _ => ?_
  exact h.bind (h.resolveList p _) fun nodes => h.runOver hblock nodes

/-! ## Deeds -/

theorem typeIn (text : String) : P (typeIn E text) := by
  refine h.bind h.front fun node => h.bind (h.tagName node) fun tag => ?_
  split
  · exact h.call (.setValue node text) nofun
  · exact h.throw rfl

theorem click : P (click E) := by
  refine h.bind h.front fun node => h.bind (h.call (.isDocument node) nofun) fun isDocument => ?_
  split
  · exact h.throw rfl
  · exact h.bind (h.call (.activate node) nofun) fun document => h.describe _ _

theorem textOf (node : Option ν) : P (textOf E node) :=
  h.bind (h.orFront node) fun n => h.call (.textContent n) nofun

theorem attributeOf (name : String) (node : Option ν) : P (attributeOf E name node) :=
  h.bind (h.orFront node) fun n => h.call (.attr n name) nofun

end Closed

end Crawl.Session
