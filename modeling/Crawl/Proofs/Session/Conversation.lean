import Crawl.Proofs.Engine.Answers
import Crawl.Proofs.Engine.Watched
import Crawl.Proofs.Session.AtDesk
/-!
# Conversations with an engine

What an action asks the engine next depends on the answers it has had so far, and it ends as soon as a call fails. A
course says what comes after which replies: a call, or the end. One course can go on by another where it has ended with
a value (`Onward`), and courses that leave no choice do so together (`Definite.onward`). An action that takes a course
makes exactly the calls of one conversation on it, in order, and ends as the course says or with the failure of the call
that the course was at; in the meantime nothing changes but the desk (`Takes`).
-/

namespace Crawl.Session

open Crawl.Action (stateOf outcomeOf bind_ok bind_error)
open Crawl.Engine (Reply Answers Watched)

variable {δ ν τ α β : Type}

/-! ## Courses -/

/-- What comes next in a conversation: a call, or its end. -/
inductive Turn (ν α : Type)
  | ask (c : Engine.Call ν)
  | ended (o : Except Failure α)

/-- The calls that a turn makes. -/
def Turn.calls : Turn ν α → List (Engine.Call ν)
  | ask c => [c]
  | ended _ => []

/-- The calls that a conversation has made when it has come to a turn and taken it. -/
def made (rs : List (Reply ν)) (turn : Turn ν α) : List (Engine.Call ν) := rs.map Reply.call ++ turn.calls

theorem made_ask (rs : List (Reply ν)) (c : Engine.Call ν) :
    made rs (.ask c : Turn ν α) = rs.map Reply.call ++ [c] := rfl

theorem made_ended (rs : List (Reply ν)) (o : Except Failure α) : made rs (.ended o) = rs.map Reply.call :=
  List.append_nil _

theorem made_cons (r : Reply ν) (rs : List (Reply ν)) (turn : Turn ν α) :
    made (r :: rs) turn = r.call :: made rs turn := rfl

theorem made_append (rs js : List (Reply ν)) (turn : Turn ν α) :
    made (rs ++ js) turn = rs.map Reply.call ++ made js turn := by
  rw [made, List.map_append, List.append_assoc, made]

/-- What comes after which replies. -/
abbrev Course (ν α : Type) := List (Reply ν) → Turn ν α → Prop

/-- A course that goes on by another one where it has ended with a value. -/
inductive Course.Onward (first : Course ν β) (next : β → Course ν α) : Course ν α
  | ask {rs : List (Reply ν)} {c : Engine.Call ν} (h : first rs (.ask c)) : Onward first next rs (.ask c)
  | failed {rs : List (Reply ν)} {f : Failure} (h : first rs (.ended (.error f))) :
    Onward first next rs (.ended (.error f))
  | next {rs js : List (Reply ν)} {b : β} {turn : Turn ν α} (h : first rs (.ended (.ok b))) (hnext : next b js turn) :
    Onward first next (rs ++ js) turn

/-- A course that leaves no choice: after some replies there is one turn, and after an end there are no replies. -/
structure Course.Definite (course : Course ν α) : Prop where
  turn {rs : List (Reply ν)} {turn turn' : Turn ν α} (h : course rs turn) (h' : course rs turn') : turn = turn'
  stops {rs js : List (Reply ν)} {o : Except Failure α} {turn : Turn ν α} (h : course rs (.ended o))
    (h' : course (rs ++ js) turn) : js = []

namespace Course.Definite

variable {course : Course ν α} {first : Course ν β} {next : β → Course ν α} {rs rs' js js' : List (Reply ν)}
  {turn : Turn ν α}

theorem done (hcourse : course.Definite) {o : Except Failure α} (h : course rs (.ended o)) (h' : course (rs ++ js) turn) :
    js = [] ∧ turn = .ended o := by
  have hjs := hcourse.stops h h'
  subst hjs
  rw [List.append_nil] at h'
  exact ⟨rfl, hcourse.turn h' h⟩

/-- Replies that go on after an end come apart there in one way. -/
theorem split (hcourse : course.Definite) {o o' : Except Failure α} (h : course rs (.ended o))
    (h' : course rs' (.ended o')) (heq : rs ++ js = rs' ++ js') : rs = rs' ∧ js = js' := by
  rcases List.append_eq_append_iff.mp heq with ⟨ks, rfl, rfl⟩ | ⟨ks, rfl, rfl⟩
  · have hks := hcourse.stops h h'
    subst hks
    exact ⟨(List.append_nil rs).symm, rfl⟩
  · have hks := hcourse.stops h' h
    subst hks
    exact ⟨List.append_nil rs', rfl⟩

/-- While the first course asks, its turn is the turn. -/
theorem onward_ask (hfirst : first.Definite) {c : Engine.Call ν} (h : first rs (.ask c))
    (h' : first.Onward next rs turn) : turn = .ask c := by
  cases h' with
  | ask h' =>
      cases hfirst.turn h h'
      rfl
  | failed h' => cases hfirst.turn h h'
  | next h' _ => cases (hfirst.done h' h).2

/-- Where the first course has ended with a failure, that is the end. -/
theorem onward_failed (hfirst : first.Definite) {f : Failure} (h : first rs (.ended (.error f)))
    (h' : first.Onward next (rs ++ js) turn) : js = [] ∧ turn = .ended (.error f) := by
  generalize hrs : rs ++ js = all at h'
  cases h' with
  | ask h' =>
      subst hrs
      cases (hfirst.done h h').2
  | failed h' =>
      subst hrs
      obtain ⟨hjs, hturn⟩ := hfirst.done h h'
      cases hturn
      exact ⟨hjs, rfl⟩
  | next h' _ =>
      obtain ⟨rfl, rfl⟩ := hfirst.split h h' hrs
      cases hfirst.turn h h'

/-- Where the first course has ended with a value, what comes after that is told by the next one. -/
theorem onward_next (hfirst : first.Definite) {b : β} (h : first rs (.ended (.ok b)))
    (h' : first.Onward next (rs ++ js) turn) : next b js turn := by
  generalize hrs : rs ++ js = all at h'
  cases h' with
  | ask h' =>
      subst hrs
      cases (hfirst.done h h').2
  | failed h' =>
      subst hrs
      cases (hfirst.done h h').2
  | next h' hturn =>
      obtain ⟨rfl, rfl⟩ := hfirst.split h h' hrs
      cases hfirst.turn h h'
      exact hturn

/-- One course after another leaves no choice if neither does. -/
theorem onward (hfirst : first.Definite) (hnext : ∀ b, (next b).Definite) : (first.Onward next).Definite where
  turn {rs turn turn'} h h' := by
    cases h with
    | ask h => exact (hfirst.onward_ask h h').symm
    | failed h =>
        rw [← List.append_nil rs] at h'
        exact (hfirst.onward_failed h h').2.symm
    | next h hturn => exact (hnext _).turn hturn (hfirst.onward_next h h')
  stops h h' := by
    cases h with
    | failed h => exact (hfirst.onward_failed h h').1
    | next h hturn =>
        rw [List.append_assoc] at h'
        exact (hnext _).stops hturn (hfirst.onward_next h h')

end Course.Definite

/-! ## Taking a course -/

/-- A session with another desk. -/
def atDesk (d : Desk δ) (s : Session δ ν τ) : Session δ ν τ := { s with desk := d }

/-- A conversation that has come to a turn ends there: with the end that has been reached, or since the call fails. -/
inductive Turn.Ends (E : Engine δ ν) (d : Desk δ) (s : Session δ ν τ) : Turn ν α →
    EStateM.Result Failure (Session δ ν τ) α → Prop
  | ended (o : Except Failure α) : Turn.Ends E d s (.ended o) (Action.ofExcept o (s.atDesk d))
  | failed {c : Engine.Call ν} {f : Failure} {d' : Desk δ} (h : E.perform c d = .error f d') :
    Turn.Ends E d s (.ask c) (.error f (s.atDesk d'))

theorem run_onDesk_ok {act : Action (Desk δ) α} {s : Session δ ν τ} {a : α} {d : Desk δ} (h : act s.desk = .ok a d) :
    (onDesk act : Action (Session δ ν τ) α) s = .ok a (s.atDesk d) := by
  unfold onDesk Action.within
  rw [h]
  rfl

theorem run_onDesk_error {act : Action (Desk δ) α} {s : Session δ ν τ} {f : Failure} {d : Desk δ}
    (h : act s.desk = .error f d) : (onDesk act : Action (Session δ ν τ) α) s = .error f (s.atDesk d) := by
  unfold onDesk Action.within
  rw [h]
  rfl

section

variable {E : Engine δ ν}

/-- A watched engine has written down the calls that it answered. -/
theorem calls_answers {w w' : Watched δ ν} {rs : List (Reply ν)} (h : E.watched.Answers w rs w') :
    w'.calls = w.calls ++ rs.map Reply.call := by
  induction h with
  | silent s => exact (List.append_nil _).symm
  | @reply s s' r rs d j first rest ih =>
      -- A call is written down whatever the journal holds when it is made.
      have hcall := E.calls_perform r.call ⟨s, j⟩
      rw [first] at hcall
      have hdevice : d.device.calls = s.calls ++ [r.call] := hcall
      rw [ih, hdevice, List.append_assoc]
      rfl

/-- What comes of a turn at a desk: the end that has been reached, or the failure of the call. -/
def Turn.Yields (E : Engine δ ν) (d : Desk δ) (o : Except Failure α) : Turn ν α → Prop
  | ask c => ∃ f d', E.perform c d = .error f d' ∧ o = .error f
  | ended reached => o = reached

theorem Turn.Ends.yields {d : Desk δ} {s : Session δ ν τ} {turn : Turn ν α}
    {r : EStateM.Result Failure (Session δ ν τ) α} (h : turn.Ends E d s r) : turn.Yields E d (outcomeOf r) := by
  cases h with
  | ended o => cases o <;> rfl
  | failed h => exact ⟨_, _, h, rfl⟩

/-- A conversation ends with the calls that were made before its last turn, and those of that turn. -/
theorem Turn.Ends.calls {d : Desk (Watched δ ν)} {s : Session (Watched δ ν) ν τ} {turn : Turn ν α}
    {r : EStateM.Result Failure (Session (Watched δ ν) ν τ) α} (h : turn.Ends E.watched d s r) :
    (stateOf r).desk.device.calls = d.device.calls ++ turn.calls := by
  cases h with
  | ended o => cases o <;> exact (List.append_nil _).symm
  | @failed c f d' h =>
      have hcall := E.calls_perform c d
      rw [h] at hcall
      exact hcall

/-- Where a conversation ends does not depend on the desk it began at. -/
theorem Turn.Ends.of_atDesk {d d' : Desk δ} {s : Session δ ν τ} {turn : Turn ν α}
    {r : EStateM.Result Failure (Session δ ν τ) α} (h : turn.Ends E d' (s.atDesk d) r) : turn.Ends E d' s r := by
  cases h with
  | ended o => exact .ended o
  | failed h => exact .failed h

end

/-- From every session with some memory, an action has one of the conversations of a course. -/
def Takes (E : Engine δ ν) (memory : Nat → Option ν) (act : Action (Session δ ν τ) α) (course : Course ν α) : Prop :=
  ∀ s : Session δ ν τ, s.resolved = memory →
    ∃ rs d turn, course rs turn ∧ E.Answers s.desk.device rs d.device ∧ turn.Ends E d s (act s)

namespace Takes

variable {E : Engine δ ν} {memory : Nat → Option ν} {course : Course ν α}

theorem mono {act : Action (Session δ ν τ) α} {wider : Course ν α} (h : Takes E memory act course)
    (hwider : ∀ rs turn, course rs turn → wider rs turn) : Takes E memory act wider := by
  intro s hs
  obtain ⟨rs, d, turn, hturn, hrest⟩ := h s hs
  exact ⟨rs, d, turn, hwider rs turn hturn, hrest⟩

theorem ofExcept {o : Except Failure α} (h : course [] (.ended o)) :
    Takes E memory (Action.ofExcept o : Action (Session δ ν τ) α) course :=
  fun s _ => ⟨[], s.desk, _, h, .silent _, .ended o⟩

theorem pure {a : α} (h : course [] (.ended (.ok a))) :
    Takes E memory (Pure.pure a : Action (Session δ ν τ) α) course := ofExcept h

theorem throw {f : Failure} (h : course [] (.ended (.error f))) :
    Takes E memory (MonadExcept.throw f : Action (Session δ ν τ) α) course := ofExcept h

/-- What is read of the memory is no part of the conversation. -/
theorem lastNode {p : Processor} {k : Option ν → Action (Session δ ν τ) α}
    (h : Takes E memory (k (memory p.serial)) course) : Takes E memory (Session.lastNode p >>= k) course := by
  intro s hs
  have hread : Session.lastNode p s = .ok (memory p.serial) s := by
    rw [← hs]
    rfl
  rw [bind_ok hread]
  exact h s hs

theorem shown {p : Processor} {k : String → Action (Session δ ν τ) α}
    (h : Takes E memory (k (p.target.shown (memory p.serial).isSome)) course) :
    Takes E memory (Session.shown p >>= k) course :=
  lastNode (k := fun last => k (p.target.shown last.isSome)) h

/-- After an action that takes a course of its own, the conversation goes on where that has ended well. -/
theorem bind {x : Action (Session δ ν τ) β} {k : β → Action (Session δ ν τ) α} {first : Course ν β}
    {next : β → Course ν α} (hx : Takes E memory x first) (hk : ∀ b, Takes E memory (k b) (next b)) :
    Takes E memory (x >>= k) (first.Onward next) := by
  intro s hs
  obtain ⟨rs, d, turn, hturn, hanswers, hends⟩ := hx s hs
  generalize hrun : x s = r at hends
  -- The second action is only reached when the first has ended with a value.
  cases hends with
  | ended o =>
      cases o with
      | error f => exact ⟨rs, d, _, .failed hturn, hanswers, bind_error hrun k ▸ .ended (.error f)⟩
      | ok b =>
          obtain ⟨rs', d', turn', hturn', hanswers', hends'⟩ := hk b (s.atDesk d) hs
          refine ⟨rs ++ rs', d', turn', .next hturn hturn', hanswers.append hanswers', ?_⟩
          rw [bind_ok hrun]
          exact hends'.of_atDesk
  | failed h => exact ⟨rs, d, _, .ask hturn, hanswers, bind_error hrun k ▸ .failed h⟩

/-- A call that is answered is a reply, and the conversation goes on from there. -/
theorem ask {c : Engine.Call ν} {k : c.Answer → Action (Session δ ν τ) α} (hask : course [] (.ask c))
    (hk : ∀ a, Takes E memory (k a) fun rs turn => course (⟨c, a⟩ :: rs) turn) :
    Takes E memory (onDesk (E.perform c) >>= k) course := by
  intro s hs
  cases hcall : E.perform c s.desk with
  | error f d => exact ⟨[], s.desk, _, hask, .silent _, bind_error (run_onDesk_error hcall) k ▸ .failed hcall⟩
  | ok a d =>
      obtain ⟨rs, d', turn, hturn, hanswers, hends⟩ := hk a (s.atDesk d) hs
      refine ⟨⟨c, a⟩ :: rs, d', turn, hturn, (Answers.one hcall).append hanswers, ?_⟩
      rw [bind_ok (run_onDesk_ok hcall)]
      exact hends.of_atDesk

/-- An action that is one call. -/
theorem call {c : Engine.Call ν} {course : Course ν c.Answer} (hask : course [] (.ask c))
    (hanswer : ∀ a, course [⟨c, a⟩] (.ended (.ok a))) :
    Takes E memory (onDesk (E.perform c) : Action (Session δ ν τ) c.Answer) course := by
  rw [← bind_pure (onDesk (E.perform c))]
  exact .ask hask fun a => .pure (hanswer a)

end Takes

end Crawl.Session
