import Crawl.Proofs.Session.Lawful
/-!
# The stack discipline

Where every block has a scope of its own, each scope finds its own node in front when it is left: whatever ran inside
it has only appended nodes at the tail. So a run ends with the nodes in scope it began with and the end-pushed ones
behind them, no exit of a scope fails, and a failure comes out of every scope as it arose in the block.
-/

namespace Crawl.Session

variable {δ ν τ α β : Type}

namespace History

/-- No block on the current scope begins inside another block: all of them begin at top level. -/
def Flat (t : History α) : Prop := ∀ p ∈ t.blocks, p.2.begun = []

theorem Flat.of_begun_nil {t : History α} (h : t.begun = []) : t.Flat := by
  induction t with
  | done => simp [Flat, blocks, scopes, currents]
  | failed f r ih => exact ih h
  | endPush n r ih => exact ih h
  | scope x i r ihi ihr =>
      obtain ⟨hi, hr⟩ := List.append_eq_nil_iff.mp h
      exact forall_blocks_scope.mpr ⟨ihi hi, hi, ihr hr⟩
  | current x i r _ _ => cases h

theorem Flat.append {t u : History α} (ht : t.Flat) (hu : u.Flat) : (t ++ u).Flat := fun p hp =>
  (mem_blocks_append.mp hp).elim (ht p) (hu p)

/-- **A history without blocks on the current scope only appends at the tail**: each scope finds the nodes from before
it in front of the appended ones, with its own node in front of all. -/
theorem Leads.of_begun_nil {t : History α} {l l' : List α} (h : t.Leads l l') (hb : t.begun = []) :
    l' = l ++ t.queued := by
  induction h with
  | done l => simp [queued]
  | failed f rest ih => exact ih hb
  | endPush n rest ih =>
      have hl := ih hb
      rw [hl, queued, List.append_assoc, List.singleton_append]
  | @scope x i r l' inner pop rest ihi ihr =>
      obtain ⟨hbi, hbr⟩ := List.append_eq_nil_iff.mp hb
      have hbefore := ihi hbi
      have hl := ihr hbr
      -- the block has left the scope's own node in front, so that is what its end removes
      rw [hl, pop, hbefore, List.cons_append, List.tail_cons, queued, List.append_assoc]
  | current _ _ _ _ _ => cases hb

/-- A block in which none begins on the current scope is left by removing the very thing it was handed. -/
theorem Leads.own {t : History α} {l l' : List α} (h : t.Leads l l') {p : Exit α × History α} (hp : p ∈ t.blocks)
    (hb : p.2.begun = []) : p.1.Own := by
  obtain ⟨inner, pop⟩ := h.block hp
  have hbefore := inner.of_begun_nil hb
  rw [Exit.Own, pop, hbefore, List.cons_append, List.tail_cons]

end History

namespace Recorder

/-- A recorded action in which no block begins on the current scope. -/
def Unbegun (x : Recorder δ ν τ α) : Prop := ∀ s, (x.record s).history.begun = []

theorem lift_unbegun (act : Action (Session δ ν τ) α) : (lift act).Unbegun := by
  intro s
  unfold lift
  dsimp only
  split <;> rfl

theorem pure_unbegun (a : α) : (pure a : Recorder δ ν τ α).Unbegun := fun _ => rfl

theorem bind_unbegun {x : Recorder δ ν τ α} {k : α → Recorder δ ν τ β} (hx : x.Unbegun) (hk : ∀ a, (k a).Unbegun) :
    (x >>= k).Unbegun := by
  intro s
  have hs := hx s
  show ((Recorder.bind x k).record s).history.begun = []
  unfold Recorder.bind
  rcases hr : x.record s with ⟨⟨a, s'⟩ | ⟨f, s'⟩, t⟩
  · rw [hr] at hs
    have hk' := hk a s'
    simp only [hr, History.begun_append, hs, hk', List.append_nil]
  · rw [hr] at hs
    simp only [hr, hs]

theorem leaving_unbegun {block : Recorder δ ν τ α} (hb : block.Unbegun) (node : ν)
    (after : Action (Session δ ν τ) Unit) : (leaving (.scope · · .done) node block after).Unbegun := by
  intro s
  simp only [leaving, History.begun, hb s, List.append_nil]

variable [DecidableEq ν] (E : Engine δ ν)

theorem inScope_unbegun (node : ν) {block : Recorder δ ν τ α} (hb : block.Unbegun) :
    (inScope E node block).Unbegun :=
  bind_unbegun (lift_unbegun _) fun _ => leaving_unbegun hb node _

theorem runOver_unbegun {block : ν → Recorder δ ν τ α} (hb : ∀ n, (block n).Unbegun) (nodes : List ν) :
    (runOver E block nodes).Unbegun := by
  induction nodes with
  | nil => exact pure_unbegun _
  | cons node nodes ih =>
      exact bind_unbegun (inScope_unbegun E node (hb node)) fun _ => bind_unbegun ih fun _ => pure_unbegun _

end Recorder

namespace Program

variable [DecidableEq ν] (E : Engine δ ν)

theorem Scoped.unbegun {m : Program δ ν τ α} (hm : m.Scoped) : (m.record E).Unbegun := by
  induction m with
  | deed d => exact Recorder.lift_unbegun _
  | bind m k ihm ihk => exact Recorder.bind_unbegun (ihm hm.1) fun a => ihk a (hm.2 a)
  | attempt m ih => exact ih hm
  | call entry block ih =>
      exact Recorder.bind_unbegun (Recorder.lift_unbegun _) fun n => Recorder.inScope_unbegun E n (ih n (hm n))
  | use entry block ih =>
      exact Recorder.bind_unbegun (Recorder.lift_unbegun _) fun n => Recorder.leaving_unbegun (ih n (hm n)) n _
  | forAll p block ih =>
      exact Recorder.bind_unbegun (Recorder.lift_unbegun _) fun _ =>
        Recorder.bind_unbegun (Recorder.lift_unbegun _) fun nodes =>
          Recorder.runOver_unbegun E (fun n => ih n (hm n)) nodes
  | endPush p =>
      exact Recorder.bind_unbegun (Recorder.lift_unbegun _) fun _ =>
        Recorder.bind_unbegun (Recorder.lift_unbegun _) fun _ _ => rfl
  | endPushWith p block ih =>
      exact Recorder.bind_unbegun (Recorder.lift_unbegun _) fun n => Recorder.inScope_unbegun E n (ih n (hm n))
  | onCurrent block _ => exact hm.elim

/-- A program whose blocks all have scopes of their own begins no block on the current scope. -/
theorem Scoped.begun_nil {m : Program δ ν τ α} (hm : m.Scoped) (s : Session δ ν τ) : (m.history E s).begun = [] :=
  hm.unbegun E s

/-- **The stack discipline.** However such a program ends, the nodes in scope are those from before with the end-pushed
ones behind them, in order. Every block was left by removing its own node, without a failure of the removal, and what
came out of its scope is what the block ended with. -/
theorem stack_discipline (m : Program δ ν τ α) (hm : m.Scoped) (s : Session δ ν τ) :
    m.framesAfter E s = s.frames ++ (m.history E s).queued ∧
      ∀ p ∈ (m.history E s).blocks, p.1.Own ∧ p.1.failure = none ∧ p.1.outcome = p.1.block := by
  have hlaw := m.lawful E s
  have hbegun := hm.begun_nil E s
  refine ⟨hlaw.leads.of_begun_nil hbegun, fun p hp => ?_⟩
  have hown := hlaw.leads.own hp (History.Flat.of_begun_nil hbegun p hp)
  exact ⟨hown, hlaw.own_ends hp hown⟩

/-- Inside the scopes of two pages one of them is put behind all others, and then the block fails. -/
def failInside : Bare Unit :=
  .bind (page "a") fun p => .bind (page "b") fun q => inside p fun _ => inside q fun _ =>
    .bind (.endPush p) fun _ => .raise (.block "stop")

theorem stack_discipline_failInside :
    failInside.Scoped ∧
    failInside.framesAfter bareEngine (bareSession ["r"]) = ["r", "a"] ∧
    (∀ p ∈ (failInside.history bareEngine (bareSession ["r"])).blocks,
      p.1.Own ∧ p.1.failure = none ∧ p.1.outcome = p.1.block) ∧
    (failInside.history bareEngine (bareSession ["r"])).blocks.map (·.1.outcome) =
      [some (.block "stop"), some (.block "stop")] := by
  have hm : failInside.Scoped :=
    ⟨trivial, fun _ => ⟨trivial, fun _ => ⟨trivial, fun _ _ => ⟨trivial, fun _ _ => ⟨trivial, fun _ => trivial⟩⟩⟩⟩⟩
  obtain ⟨hframes, hblocks⟩ := stack_discipline bareEngine failInside hm (bareSession ["r"])
  exact ⟨hm, hframes.trans (by decide), hblocks, by decide⟩

end Program

end Crawl.Session
