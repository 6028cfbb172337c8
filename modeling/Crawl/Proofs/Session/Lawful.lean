import Crawl.Proofs.Session.Recorder
import Crawl.Proofs.Session.Scopes
/-!
# The history of every run is lawful

One step for each form of program: recorded actions are shown to write lawful histories, and to give back the open
uses of entries as they found them, from the push and pop lemmas of the session's operations. By induction over the
program, `Program.lawful` says so of every run of every program on every engine. All else about the scopes of runs
follows from this one theorem and from what holds of lawful histories.
-/

namespace Crawl.Session

open Crawl.Action (stateOf failureOf)

variable {δ ν τ α β : Type}

/-- From a session, a recorded result has a lawful history and `uses` as its open uses of entries. -/
def Recorded.LawfulFrom (r : Recorded δ ν τ α) (l : List ν) (uses : Nat → List ν) : Prop :=
  r.history.Lawful l (stateOf r.result).frames ∧ (stateOf r.result).entered = uses

/-- Nothing but scopes that stay as they are: the history of an operation without a block that ended with a value. -/
theorem Recorded.LawfulFrom.ended {a : α} {s s' : Session δ ν τ} (h : scopes s' = scopes s) :
    (⟨.ok a s', .done⟩ : Recorded δ ν τ α).LawfulFrom s.frames s.entered := by
  have hframes : s'.frames = s.frames := congrArg Prod.fst h
  refine ⟨⟨?_, by simp [History.scopes], by simp [History.currents]⟩, congrArg Prod.snd h⟩
  show History.Leads .done s.frames s'.frames
  rw [hframes]
  exact .done _

/-- The same for one that failed. -/
theorem Recorded.LawfulFrom.failed (f : Failure) {s s' : Session δ ν τ} (h : scopes s' = scopes s) :
    (⟨.error f s', .failed f .done⟩ : Recorded δ ν τ α).LawfulFrom s.frames s.entered := by
  have hframes : s'.frames = s.frames := congrArg Prod.fst h
  refine ⟨⟨?_, by simp [History.scopes], by simp [History.currents]⟩, congrArg Prod.snd h⟩
  show History.Leads (.failed f .done) s.frames s'.frames
  rw [hframes]
  exact .failed f (.done _)

namespace Recorder

/-- A recorded action that writes lawful histories and keeps the open uses of entries. -/
def Lawful (x : Recorder δ ν τ α) : Prop := ∀ s, (x.record s).LawfulFrom s.frames s.entered

theorem lift_lawful {act : Action (Session δ ν τ) α} (h : KeepsScopes act) : (lift act).Lawful := by
  intro s
  have hs : scopes (stateOf (act s)) = scopes s := h s
  unfold lift
  dsimp only
  split
  · next a s' heq =>
      rw [heq] at hs
      exact .ended hs
  · next f s' heq =>
      rw [heq] at hs
      exact .failed f hs

theorem pure_lawful (a : α) : (pure a : Recorder δ ν τ α).Lawful := fun _ => .ended rfl

theorem bind_lawful {x : Recorder δ ν τ α} {k : α → Recorder δ ν τ β} (hx : x.Lawful) (hk : ∀ a, (k a).Lawful) :
    (x >>= k).Lawful := by
  intro s
  have hs := hx s
  show ((Recorder.bind x k).record s).LawfulFrom s.frames s.entered
  unfold Recorder.bind
  rcases hr : x.record s with ⟨⟨a, s'⟩ | ⟨f, s'⟩, t⟩
  · rw [hr] at hs
    obtain ⟨hlaw, hentered⟩ := hs
    obtain ⟨hlaw', hentered'⟩ := hk a s'
    simp only [hr]
    exact ⟨hlaw.append hlaw', hentered'.trans hentered⟩
  · rw [hr] at hs
    simp only [hr]
    exact hs

theorem attempt_lawful {x : Recorder δ ν τ α} (hx : x.Lawful) : (attempt x).Lawful := by
  intro s
  have hs := hx s
  have hstate : stateOf (Action.attempt x.plain s) = stateOf (x.record s).result := Action.stateOf_attempt _ s
  unfold Recorded.LawfulFrom attempt
  dsimp only
  rw [hstate]
  exact hs

/-! ## Blocks -/

/-- Blocks that are left by removing the current scope: if the block was entered with its node in front, the mark it
leaves is a lawful step. -/
theorem leaving_fair (allowed : List ν → Prop) {block : Recorder δ ν τ α} (hb : block.Lawful)
    {after : Action (Session δ ν τ) Unit} {node : ν} {l : List ν} {s : Session δ ν τ} (uses : Nat → List ν)
    (hs : s.frames = node :: l)
    (hpops : ∀ s', s'.entered = s.entered → Pops (allowed s'.frames) s' uses (after s'))
    (mark : Exit ν → History ν → History ν) :
    ∃ x t, x.node = node ∧ x.under = l ∧ t.Lawful (x.node :: x.under) x.before ∧ x.after = x.before.tail ∧
      x.Fair (allowed x.before) ∧
      ((leaving mark node block after).record s).history = mark x t ∧
      scopes (stateOf ((leaving mark node block after).record s).result) = (x.after, uses) := by
  -- the block's own history starts where its node stands in front, and the removal where the block has ended
  obtain ⟨hlaw, hentered⟩ := hb s
  have hleft := hpops _ hentered
  refine ⟨_, _, rfl, congrArg List.tail hs, ?_, ?_, ?_, rfl, ?_⟩
  · rw [hs] at hlaw
    dsimp only
    rw [hs, List.tail_cons]
    exact hlaw
  · exact congrArg Prod.fst hleft.scopes
  · exact ⟨hleft.ends, hleft.empty, hleft.imbalance, Action.failureOf_always _ _ s⟩
  · have hstate : stateOf (Action.always block.plain after s) = stateOf (after (stateOf (block.record s).result)) :=
      Action.stateOf_always block.plain after s
    show scopes (stateOf (Action.always block.plain after s)) = _
    rw [hstate]
    exact Prod.ext rfl (show (scopes _).2 = uses by rw [hleft.scopes])

/-- A block with a scope of its own, from where its node has been pushed. -/
theorem leaving_scope {block : Recorder δ ν τ α} (hb : block.Lawful) {after : Action (Session δ ν τ) Unit}
    {node : ν} {l : List ν} {s : Session δ ν τ} (uses : Nat → List ν) (hs : s.frames = node :: l)
    (hpops : ∀ s', s'.entered = s.entered → Pops (s'.frames.head? = some node) s' uses (after s')) :
    ((leaving (.scope · · .done) node block after).record s).LawfulFrom l uses := by
  obtain ⟨x, t, rfl, rfl, hlaw, hafter, hfair, hmark, hscopes⟩ :=
    leaving_fair (·.head? = some node) hb uses hs hpops (.scope · · .done)
  have hframes : (stateOf ((leaving _ x.node block after).record s).result).frames = x.after :=
    congrArg Prod.fst hscopes
  refine ⟨?_, congrArg Prod.snd hscopes⟩
  rw [hmark, hframes]
  refine ⟨.scope hlaw.leads hafter (.done _), ?_, ?_⟩
  · simp only [History.scopes, List.forall_mem_append, List.forall_mem_singleton]
    exact ⟨hlaw.scopes, hfair⟩
  · simp only [History.currents, List.append_nil]
    exact hlaw.currents

/-- A block on the current scope. -/
theorem leaving_current {block : Recorder δ ν τ α} (hb : block.Lawful) {after : Action (Session δ ν τ) Unit}
    {node : ν} {l : List ν} {s : Session δ ν τ} (uses : Nat → List ν) (hs : s.frames = node :: l)
    (hpops : ∀ s', s'.entered = s.entered → Pops (s'.frames ≠ []) s' uses (after s')) :
    ((leaving (.current · · .done) node block after).record s).LawfulFrom (node :: l) uses := by
  obtain ⟨x, t, rfl, rfl, hlaw, hafter, hfair, hmark, hscopes⟩ :=
    leaving_fair (· ≠ []) hb uses hs hpops (.current · · .done)
  have hframes : (stateOf ((leaving _ x.node block after).record s).result).frames = x.after :=
    congrArg Prod.fst hscopes
  refine ⟨?_, congrArg Prod.snd hscopes⟩
  rw [hmark, hframes]
  refine ⟨.current hlaw.leads hafter (.done _), ?_, ?_⟩
  · simp only [History.scopes, List.append_nil]
    exact hlaw.scopes
  · simp only [History.currents, List.forall_mem_append, List.forall_mem_singleton]
    exact ⟨hlaw.currents, hfair⟩

variable [DecidableEq ν] (E : Engine δ ν)

theorem inScope_lawful (node : ν) {block : Recorder δ ν τ α} (hb : block.Lawful) :
    (inScope E node block).Lawful := by
  intro s
  obtain ⟨s', hpush, hs'⟩ := pushFront_eq E node s
  have hframes : s'.frames = node :: s.frames := congrArg Prod.fst hs'
  have hentered : s'.entered = s.entered := congrArg Prod.snd hs'
  unfold inScope
  rw [bind_lift_ok hpush]
  refine leaving_scope hb s.entered hframes fun s'' h => ?_
  rw [← hentered, ← h]
  exact pops_leave E node s''

theorem runOver_lawful {block : ν → Recorder δ ν τ α} (hb : ∀ n, (block n).Lawful) (nodes : List ν) :
    (runOver E block nodes).Lawful := by
  induction nodes with
  | nil => exact pure_lawful _
  | cons node nodes ih =>
      exact bind_lawful (inScope_lawful E node (hb node)) fun _ => bind_lawful ih fun _ => pure_lawful _

/-- A use of an entry: the body gives back the open uses as it found them, so the exit takes back this very one. -/
theorem use_lawful (entry : ScopedEntry) {block : ν → Recorder δ ν τ α} (hb : ∀ n, (block n).Lawful) :
    (do
      let node ← lift (entry.enter E)
      leaving (.scope · · .done) node (block node) (entry.exit E) : Recorder δ ν τ α).Lawful := by
  intro s
  rcases enter_cases E entry s with ⟨f, s', hr, hs'⟩ | ⟨node, s', hr, hs'⟩
  · rw [bind_lift_error hr]
    exact .failed f hs'
  · have hframes : s'.frames = node :: s.frames := congrArg Prod.fst hs'
    have hentered : s'.entered = replaceUses entry (node :: s.entered entry.serial) s.entered :=
      congrArg Prod.snd hs'
    rw [bind_lift_ok hr]
    -- uses of the same entry inside the block have come and gone, so the latest open one is again this one
    refine leaving_scope (hb node) s.entered hframes fun s'' h => ?_
    rw [hentered] at h
    have huses : s''.entered entry.serial = node :: s.entered entry.serial := by
      rw [h, replaceUses_self]
    have hpops := pops_exit E entry huses
    rw [h, replaceUses_restore] at hpops
    exact hpops

omit [DecidableEq ν] in
/-- An end-push: the node goes behind all others, and nothing changes when the processor has no node. -/
theorem endPush_lawful (p : Processor) :
    (do
      let node ← lift (resolvedNode p)
      lift (pushBack E node)
      endPushed node : Recorder δ ν τ Unit).Lawful := by
  refine bind_lawful (lift_lawful (keeps_resolvedNode p)) fun node s => ?_
  obtain ⟨s', hpush, hs'⟩ := pushBack_eq E node s
  have hframes : s'.frames = s.frames ++ [node] := congrArg Prod.fst hs'
  rw [bind_lift_ok hpush]
  refine ⟨⟨?_, by simp [endPushed, History.scopes], by simp [endPushed, History.currents]⟩, congrArg Prod.snd hs'⟩
  show History.Leads (.endPush node .done) s.frames s'.frames
  rw [hframes]
  exact .endPush node (.done _)

omit [DecidableEq ν] in
/-- A block on the current scope fails when there is none, and else drops one scope at its end. -/
theorem onCurrent_lawful {block : ν → Recorder δ ν τ α} (hb : ∀ n, (block n).Lawful) :
    (do
      let node ← lift front
      leaving (.current · · .done) node (block node) (do let _ ← popFront E) : Recorder δ ν τ α).Lawful := by
  intro s
  cases h : s.frames with
  | nil =>
      have hr : front s = .error (.stackImbalance .noScope) s := by
        cases s
        cases h
        rfl
      rw [bind_lift_error hr, ← h]
      exact .failed _ rfl
  | cons node l =>
      have hr : front s = .ok node s := by
        cases s
        cases h
        rfl
      rw [bind_lift_ok hr]
      refine leaving_current (hb node) s.entered h fun s' h' => ?_
      rw [← h']
      exact pops_drop E s'

end Recorder

/-! ## Programs -/

theorem keeps_deed (E : Engine δ ν) (d : Deed δ ν τ α) : KeepsScopes (d.run E) := by
  cases d with
  | host act => exact .within act fun _ _ => rfl
  | observe look => exact .bind .get fun _ => .pure _
  | engine act => exact keeps_onDesk act
  | describe target document => exact keeps_describe target document
  | navigateTo url => exact keeps_navigateTo url
  | entryFor p => exact keeps_entryFor p
  | resolve p scope => exact keeps_resolve E p scope
  | resolveList p scope => exact keeps_resolveList E p scope
  | resolveFrom p => exact keeps_resolveFrom E p
  | front => exact keeps_front
  | typeIn text => exact keeps_typeIn E text
  | click => exact keeps_click E
  | textOf node => exact keeps_textOf E node
  | attributeOf name node => exact keeps_attributeOf E name node
  | close owned => exact keeps_close E owned

theorem Program.record_lawful [DecidableEq ν] (E : Engine δ ν) (m : Program δ ν τ α) : (m.record E).Lawful := by
  induction m with
  | deed d => exact Recorder.lift_lawful (keeps_deed E d)
  | bind m k ihm ihk => exact Recorder.bind_lawful ihm ihk
  | attempt m ih => exact Recorder.attempt_lawful ih
  | call entry block ih =>
      exact Recorder.bind_lawful (Recorder.lift_lawful (keeps_resolveHere E _)) fun n =>
        Recorder.inScope_lawful E n (ih n)
  | use entry block ih => exact Recorder.use_lawful E entry ih
  | forAll p block ih =>
      exact Recorder.bind_lawful (Recorder.lift_lawful keeps_frontOrNone) fun _ =>
        Recorder.bind_lawful (Recorder.lift_lawful (keeps_resolveList E p _)) fun nodes =>
          Recorder.runOver_lawful E ih nodes
  | endPush p => exact Recorder.endPush_lawful E p
  | endPushWith p block ih =>
      exact Recorder.bind_lawful (Recorder.lift_lawful (keeps_resolvedNode p)) fun n =>
        Recorder.inScope_lawful E n (ih n)
  | onCurrent block ih => exact Recorder.onCurrent_lawful E ih

/-- The nodes in scope when a run has ended, with a value or with a failure. -/
def Program.framesAfter [DecidableEq ν] (E : Engine δ ν) (m : Program δ ν τ α) (s : Session δ ν τ) : List ν :=
  (stateOf (m.run E s)).frames

/-- **Every run of every program writes a lawful history.** -/
theorem Program.lawful [DecidableEq ν] (E : Engine δ ν) (m : Program δ ν τ α) (s : Session δ ν τ) :
    (m.history E s).Lawful s.frames (m.framesAfter E s) := by
  unfold framesAfter
  rw [← m.record_result]
  exact (m.record_lawful E s).1

end Crawl.Session
