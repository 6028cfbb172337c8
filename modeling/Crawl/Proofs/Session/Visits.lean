import Crawl.Proofs.Session.Balance
import Crawl.Proofs.Engine.Watched
/-!
# Visiting every match

A block that is run for all matches of a path is run over a list that was there before the first block began: the path is
asked for once, and then each node of the answer is visited in order, in a scope of its own. What ties the rounds
together is the nodes in scope: each round finds the nodes from before the first one, with whatever the blocks so far have
end-pushed behind them, and leaves them so to the next round (`Tours`). A block that fails ends the tour with its failure.
-/

namespace Crawl.Session

open Crawl.Action (stateOf failureOf valueOf bind_ok bind_error)
open Crawl.Engine (Watched)

variable {δ ν τ α : Type}

/-- A session without the nodes in scope and the journal: what scopes do not touch. -/
def apart (s : Session δ ν τ) : Session δ ν τ := { s with frames := [], desk := ⟨s.desk.device, #[]⟩ }

/-! ## One scope -/

/-- Bringing a node into scope touches nothing else. -/
theorem pushFront_apart (E : Engine δ ν) (node : ν) (s : Session δ ν τ) :
    ∃ s', pushFront E node s = .ok () s' ∧ s'.frames = node :: s.frames ∧ s'.apart = s.apart := ⟨_, rfl, rfl, rfl⟩

/-- Leaving a scope whose node is in front removes it and touches nothing else. -/
theorem leave_apart [DecidableEq ν] (E : Engine δ ν) {node : ν} {rest : List ν} {s : Session δ ν τ}
    (h : s.frames = node :: rest) : ∃ s', leave E node s = .ok () s' ∧ s'.frames = rest ∧ s'.apart = s.apart := by
  have hpop : ∃ s', popFront E s = .ok node s' ∧ s'.frames = rest ∧ s'.apart = s.apart := by
    cases s
    cases h
    exact ⟨_, rfl, rfl, rfl⟩
  obtain ⟨s', hpop, hs'⟩ := hpop
  refine ⟨s', ?_, hs'⟩
  rw [leave, bind_ok hpop, if_pos rfl]
  rfl

/-- A result in another state. -/
def endsIn (s : Session δ ν τ) : EStateM.Result Failure (Session δ ν τ) α → EStateM.Result Failure (Session δ ν τ) α
  | .ok a _ => .ok a s
  | .error f _ => .error f s

/-- An action that is closed off by one that succeeds ends as it did, in the state that the closing one leaves. -/
theorem always_of_ok {x : Action (Session δ ν τ) α} {after : Action (Session δ ν τ) Unit} {s left : Session δ ν τ}
    (h : after (stateOf (x s)) = .ok () left) : Action.always x after s = endsIn left (x s) := by
  unfold Action.always
  cases hx : x s with
  | ok a s' =>
      rw [hx] at h
      simp only [stateOf] at h
      simp only [h, endsIn]
  | error f s' =>
      rw [hx] at h
      simp only [stateOf] at h
      simp only [h, endsIn]

variable [DecidableEq ν] (E : Engine δ ν)

/-- One round: the program runs with the node in front, and what comes out of its scope is what it ended with. -/
theorem inScope_round {m : Program δ ν τ α} (hm : m.Scoped) (node : ν) (s : Session δ ν τ) :
    ∃ began left : Session δ ν τ, began.frames = node :: s.frames ∧ began.apart = s.apart ∧
      left.frames = s.frames ++ (m.history E began).queued ∧ left.apart = (stateOf (m.run E began)).apart ∧
      inScope E node (m.run E) s = endsIn left (m.run E began) := by
  obtain ⟨began, hpush, hframes, hapart⟩ := pushFront_apart E node s
  have hafter : (stateOf (m.run E began)).frames = node :: (s.frames ++ (m.history E began).queued) := by
    have h := (Program.stack_discipline E m hm began).1
    rwa [Program.framesAfter, hframes] at h
  obtain ⟨left, hleave, hleft, hapart'⟩ := leave_apart E hafter
  refine ⟨began, left, hframes, hapart, hleft, hapart', ?_⟩
  rw [inScope, bind_ok hpush]
  exact always_of_ok hleave

/-! ## The tour -/

/-- A visit: the node, the session in which its block began, and what the block ended with. -/
structure Visit (δ ν τ α : Type) where
  node : ν
  began : Session δ ν τ
  ended : EStateM.Result Failure (Session δ ν τ) α

/-- What the blocks of some visits have end-pushed, in order. -/
def pushed (block : ν → Program δ ν τ α) (visits : List (Visit δ ν τ α)) : List ν :=
  visits.flatMap fun v => ((block v.node).history E v.began).queued

/-- The session that the last of some visits has reached, or the one before them if there are none. -/
def reached (s : Session δ ν τ) : List (Visit δ ν τ α) → Session δ ν τ
  | [] => s
  | v :: visits => reached (stateOf v.ended) visits

/-- What running a block over some nodes comes to: visits of these nodes in order, up to a first failure. Each block
runs with its own node in front of the nodes from before and those end-pushed so far, in a session that is otherwise as
the visit before has left it; in the end the nodes from before are there with all end-pushed ones behind them. The result
is the values of the blocks, one for each node, or else the failure of the last block that ran. -/
structure Tours (block : ν → Program δ ν τ α) (nodes : List ν) (s : Session δ ν τ) (visits : List (Visit δ ν τ α))
    (r : EStateM.Result Failure (Session δ ν τ) (List α)) : Prop where
  order : visits.map Visit.node = nodes.take visits.length
  runs : ∀ v ∈ visits, v.ended = (block v.node).run E v.began
  begins : ∀ i v, visits[i]? = some v →
    v.began.frames = v.node :: (s.frames ++ pushed E block (visits.take i)) ∧
      v.began.apart = (reached s (visits.take i)).apart
  ends : (stateOf r).frames = s.frames ++ pushed E block visits ∧ (stateOf r).apart = (reached s visits).apart
  outcome :
    (∃ values s', r = .ok values s' ∧ values.length = nodes.length ∧ visits.map (valueOf ·.ended) = values.map some) ∨
      ∃ f s' before last, r = .error f s' ∧ visits = before ++ [last] ∧ failureOf last.ended = some f ∧
        ∀ v ∈ before, failureOf v.ended = none

omit [DecidableEq ν] in
/-- Where a tour leads depends on nothing that scopes touch. -/
theorem reached_apart {s s' : Session δ ν τ} (h : s.apart = s'.apart) (visits : List (Visit δ ν τ α)) :
    (reached s visits).apart = (reached s' visits).apart := by
  cases visits with
  | nil => exact h
  | cons v visits => rfl

variable {E} {block : ν → Program δ ν τ α} {nodes : List ν} {s : Session δ ν τ} {visits : List (Visit δ ν τ α)}
  {r : EStateM.Result Failure (Session δ ν τ) (List α)}

/-- A tour may as well begin where the same nodes are in scope and the rest is the same but for the journal. -/
theorem Tours.of_apart {s' : Session δ ν τ} (h : Tours E block nodes s visits r) (hframes : s'.frames = s.frames)
    (hapart : s'.apart = s.apart) : Tours E block nodes s' visits r where
  order := h.order
  runs := h.runs
  begins i v hv := by
    rw [hframes, reached_apart hapart]
    exact h.begins i v hv
  ends := by
    rw [hframes, reached_apart hapart]
    exact h.ends
  outcome := h.outcome

/-- A result with one more value in front. -/
def headed (a : α) : EStateM.Result Failure (Session δ ν τ) (List α) → EStateM.Result Failure (Session δ ν τ) (List α)
  | .ok values s => .ok (a :: values) s
  | .error f s => .error f s

/-- A visit before a tour: the tour goes on from where the visit's scope was left. -/
theorem Tours.cons {node : ν} {began left : Session δ ν τ} {a : α} {ended : Session δ ν τ}
    (hrun : (block node).run E began = .ok a ended) (hframes : began.frames = node :: s.frames)
    (hapart : began.apart = s.apart) (hleft : left.frames = s.frames ++ ((block node).history E began).queued)
    (hapart' : left.apart = ended.apart) (h : Tours E block nodes left visits r) :
    Tours E block (node :: nodes) s (⟨node, began, .ok a ended⟩ :: visits) (headed a r) := by
  have hstate : stateOf (headed a r) = stateOf r := by cases r <;> rfl
  refine ⟨?_, ?_, ?_, ?_, ?_⟩
  · rw [List.map_cons, List.length_cons, List.take_succ_cons, h.order]
  · rintro v hv
    rcases List.mem_cons.mp hv with rfl | hv
    · exact hrun.symm
    · exact h.runs v hv
  · intro i v hv
    cases i with
    | zero =>
        cases hv
        exact ⟨by rw [hframes, List.take_zero, pushed, List.flatMap_nil, List.append_nil], hapart⟩
    | succ i =>
        obtain ⟨hbegan, hbegan'⟩ := h.begins i v hv
        refine ⟨?_, hbegan'.trans (reached_apart hapart' _)⟩
        rw [hbegan, hleft, List.append_assoc]
        rfl
  · rw [hstate]
    refine ⟨?_, h.ends.2.trans (reached_apart hapart' _)⟩
    rw [h.ends.1, hleft, List.append_assoc]
    rfl
  · rcases h.outcome with ⟨values, s', rfl, hlength, hvalues⟩ | ⟨f, s', before, last, rfl, rfl, hlast, hbefore⟩
    · refine .inl ⟨a :: values, s', rfl, congrArg (· + 1) hlength, ?_⟩
      rw [List.map_cons, List.map_cons, hvalues]
      rfl
    · refine .inr ⟨f, s', _ :: before, last, rfl, rfl, hlast, ?_⟩
      intro v hv
      rcases List.mem_cons.mp hv with rfl | hv
      · rfl
      · exact hbefore v hv

/-- A visit whose block fails is the last one. -/
theorem Tours.stop {node : ν} {began left ended : Session δ ν τ} {f : Failure}
    (hrun : (block node).run E began = .error f ended) (hframes : began.frames = node :: s.frames)
    (hapart : began.apart = s.apart) (hleft : left.frames = s.frames ++ ((block node).history E began).queued)
    (hapart' : left.apart = ended.apart) (nodes : List ν) :
    Tours E block (node :: nodes) s [⟨node, began, .error f ended⟩] (.error f left) where
  order := rfl
  runs v hv := by
    rw [List.mem_singleton.mp hv]
    exact hrun.symm
  begins i v hv := by
    cases i with
    | zero =>
        cases hv
        exact ⟨by rw [hframes, List.take_zero, pushed, List.flatMap_nil, List.append_nil], hapart⟩
    | succ i => cases hv
  ends := ⟨by rw [pushed, List.flatMap_singleton]; exact hleft, hapart'⟩
  outcome := .inr ⟨f, left, [], _, rfl, rfl, rfl, fun _ hv => absurd hv List.not_mem_nil⟩

/-- Running a block over a list of nodes is a tour of them. -/
theorem runOver_tours (hblock : ∀ n, (block n).Scoped) (nodes : List ν) (s : Session δ ν τ) :
    ∃ visits, Tours E block nodes s visits (runOver E (fun n => (block n).run E) nodes s) := by
  induction nodes generalizing s with
  | nil =>
      refine ⟨[], rfl, fun _ hv => absurd hv List.not_mem_nil, fun i v hv => ?_, ⟨?_, rfl⟩, .inl ⟨[], s, rfl, rfl, rfl⟩⟩
      · cases hv
      · rw [pushed, List.flatMap_nil, List.append_nil]
        rfl
  | cons node nodes ih =>
      obtain ⟨began, left, hframes, hapart, hleft, hapart', hround⟩ := inScope_round E (hblock node) node s
      cases hrun : (block node).run E began with
      | ok a ended =>
          rw [hrun] at hapart' hround
          obtain ⟨visits, htour⟩ := ih left
          refine ⟨⟨node, began, .ok a ended⟩ :: visits, ?_⟩
          have hgo : runOver E (fun n => (block n).run E) (node :: nodes) s =
              headed a (runOver E (fun n => (block n).run E) nodes left) := by
            rw [runOver, bind_ok hround]
            cases hrest : runOver E (fun n => (block n).run E) nodes left with
            | ok values s' => exact bind_ok hrest _
            | error f s' => exact bind_error hrest _
          rw [hgo]
          exact htour.cons hrun hframes hapart hleft hapart'
      | error f ended =>
          rw [hrun] at hapart' hround
          refine ⟨[⟨node, began, .error f ended⟩], ?_⟩
          rw [runOver, bind_error hround]
          exact .stop hrun hframes hapart hleft hapart' nodes

/-! ## All matches of a path -/

omit [DecidableEq ν] in
/-- A path asks the engine once, in the current scope. -/
theorem resolveList_ask {p : Processor} {d : Descriptor} (hp : p.target.descriptor = some d) (hd : d.variant = .xpath)
    (scope : ν) : (resolveList E p (some scope) : Action (Session δ ν τ) (List ν)) = (do
      let nodes ← onDesk (E.findByPath scope d.value)
      note .debug .resolver ("Resolved " ++ (← shown p) ++ " to " ++ toString nodes.length ++ " nodes")
      return nodes) := by
  have hvariant : ¬ d.variant ≠ .xpath := fun h => h hd
  unfold resolveList
  rw [hp]
  dsimp only
  rw [if_neg hvariant]

omit [DecidableEq ν] in
/-- The nodes of the engine's answer are the matches, and only the journal has more to tell. -/
theorem resolveList_ok {p : Processor} {d : Descriptor} (hp : p.target.descriptor = some d) (hd : d.variant = .xpath)
    {scope : ν} {s asked : Session δ ν τ} (h : onDesk (E.findByPath scope d.value) s = .ok nodes asked) :
    ∃ told : Session δ ν τ, resolveList E p (some scope) s = .ok nodes told ∧ told.frames = asked.frames ∧
      told.apart = asked.apart := by
  rw [resolveList_ask hp hd, bind_ok h]
  exact ⟨_, rfl, rfl, rfl⟩

omit [DecidableEq ν] in
theorem resolveList_nowhere {p : Processor} {d : Descriptor} (hp : p.target.descriptor = some d) (hd : d.variant = .xpath)
    (s : Session δ ν τ) :
    resolveList E p none s = .error (.typeMismatch (.needsScope (p.target.shown (s.resolved p.serial).isSome))) s := by
  have hvariant : ¬ d.variant ≠ .xpath := fun h => h hd
  unfold resolveList
  rw [hp]
  dsimp only
  rw [if_neg hvariant]
  rfl

/-- **Every match is visited once, in order, in its own scope.** For a path and a block whose own blocks all have scopes
of their own, whatever nodes are in scope and whatever the engine answers: without a scope nothing is asked and no block
runs. In a scope the engine is asked for the path once, before any block; if it fails, no block runs; and if it answers
with some nodes, the run is a tour of exactly these. -/
theorem for_all_visits (E : Engine δ ν) (p : Processor) (d : Descriptor) (block : ν → Program (Watched δ ν) ν τ α)
    (s : Session (Watched δ ν) ν τ) (hp : p.target.descriptor = some d) (hd : d.variant = .xpath)
    (hblock : ∀ n, (block n).Scoped) :
    (s.frames = [] → (Program.forAll p block).run E.watched s =
      .error (.typeMismatch (.needsScope (p.target.shown (s.resolved p.serial).isSome))) s) ∧
    ∀ scope rest, s.frames = scope :: rest →
      let answer := onDesk (E.watched.findByPath scope d.value) s
      (stateOf answer).frames = s.frames ∧
        (stateOf answer).desk.device.calls = s.desk.device.calls ++ [.findByPath scope d.value] ∧
        (∀ f, failureOf answer = some f → (Program.forAll p block).run E.watched s = .error f (stateOf answer)) ∧
        ∀ nodes, valueOf answer = some nodes →
          ∃ visits, Tours E.watched block nodes (stateOf answer) visits ((Program.forAll p block).run E.watched s) := by
  constructor
  · intro hframes
    have hfront : frontOrNone s = .ok none s := by
      show EStateM.Result.ok s.frames.head? s = _
      rw [hframes]
      rfl
    show runEach E.watched p _ s = _
    rw [runEach, bind_ok hfront]
    exact bind_error (resolveList_nowhere hp hd s) _
  · intro scope rest hframes answer
    have hfront := frontOrNone_cons hframes
    have hrun : (Program.forAll p block).run E.watched s =
        (do runOver E.watched (fun n => (block n).run E.watched) (← resolveList E.watched p (some scope))) s := by
      show runEach E.watched p _ s = _
      rw [runEach, bind_ok hfront]
    have hstate : stateOf answer = { s with desk := stateOf (E.watched.findByPath scope d.value s.desk) } :=
      Action.stateOf_within _ s
    refine ⟨by rw [hstate], ?_, ?_, ?_⟩
    · rw [hstate]
      exact Engine.calls_perform E (.findByPath scope d.value) s.desk
    · intro f hf
      cases hanswer : answer with
      | ok nodes asked =>
          rw [hanswer] at hf
          cases hf
      | error g asked =>
          rw [hanswer] at hf
          cases hf
          rw [hrun, resolveList_ask hp hd]
          exact bind_error (bind_error hanswer _) _
    · intro nodes hnodes
      cases hanswer : answer with
      | error g asked =>
          rw [hanswer] at hnodes
          cases hnodes
      | ok nodes' asked =>
          rw [hanswer] at hnodes
          cases hnodes
          obtain ⟨told, hlist, htold, htold'⟩ := resolveList_ok hp hd hanswer
          obtain ⟨visits, htours⟩ := runOver_tours (E := E.watched) hblock nodes told
          refine ⟨visits, ?_⟩
          rw [hrun, bind_ok hlist]
          exact htours.of_apart htold.symm htold'.symm

/-! ## A tour that stops -/

/-- An engine that knows three links of one page. -/
def threeLinks : Engine (Array Tabled.Call) String :=
  Tabled.engine ⟨[], [], [("find_by_path|doc|//a", .nodes ["a", "b", "c"])]⟩

/-- All links of the page in scope. -/
def allLinks : Processor := ⟨0, .element .link (some ⟨.xpath, "//a", by decide⟩)⟩

/-- Puts the visited node behind all others, and then fails at the second link. -/
def stopAtSecond (n : String) : Program (Watched (Array Tabled.Call) String) String Unit String :=
  .bind (Program.page n) fun q => .bind (.endPush q) fun _ => if n = "b" then .raise (.block "stop") else .pure n

/-- A session on this engine, with the page and another node in scope. -/
def onThreeLinks : Session (Watched (Array Tabled.Call) String) String Unit :=
  { Session.start ⟨#[], []⟩ () with frames := ["doc", "r"] }

theorem for_all_visits_threeLinks :
    (∀ n, (stopAtSecond n).Scoped) ∧
    failureOf ((Program.forAll allLinks stopAtSecond).run threeLinks.watched onThreeLinks) = some (.block "stop") ∧
    ∃ asked visits, Tours threeLinks.watched stopAtSecond ["a", "b", "c"] asked visits
        ((Program.forAll allLinks stopAtSecond).run threeLinks.watched onThreeLinks) ∧
      (stateOf ((Program.forAll allLinks stopAtSecond).run threeLinks.watched onThreeLinks)).frames =
        ["doc", "r", "a", "b"] := by
  have hblock : ∀ n, (stopAtSecond n).Scoped := by
    intro n
    unfold stopAtSecond
    refine ⟨trivial, fun _ => ⟨trivial, fun _ => ?_⟩⟩
    split
    · trivial
    · trivial
  obtain ⟨-, hscope⟩ := for_all_visits threeLinks allLinks _ stopAtSecond onThreeLinks rfl rfl hblock
  obtain ⟨-, -, -, hanswer⟩ := hscope "doc" ["r"] rfl
  obtain ⟨visits, htours⟩ := hanswer ["a", "b", "c"] (by decide +kernel)
  exact ⟨hblock, by decide +kernel, _, visits, htours, by decide +kernel⟩

end Crawl.Session
