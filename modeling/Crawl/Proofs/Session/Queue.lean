import Crawl.Proofs.Session.Balance
import Crawl.Proofs.Session.Depth
/-!
# End-pushed nodes as a queue of work

One list holds two things: the open scopes in front, last in first out, and the end-pushed nodes behind them, first in
first out. As long as blocks on the current scope begin at top level only, the first part is empty whenever one of them
begins, so it is handed the oldest node of the second part, and it drops that node whatever its own scopes and its own
end-pushes have done in between.
-/

namespace Crawl.Session

variable {δ ν τ α β : Type}

namespace History

/-- Where no block begins inside another there is always something to remove, as each finds what it was handed. -/
theorem Leads.shifted_of_flat {t : History α} {l l' : List α} (h : t.Leads l l') (ht : t.Flat) :
    Shifted l t.queued t.begun.length l' := by
  refine h.shifted fun p hp hnil => ?_
  have hown := h.own hp (ht p hp)
  rw [Exit.Own, hnil] at hown
  cases hown

/-- **The blocks on the current scope are handed the nodes at the front**, in order: first those from before, then the
end-pushed ones. A block finds all of its own pushes undone or behind the nodes that were waiting. -/
theorem Leads.begun_eq_take {t : History α} {l l' : List α} (h : t.Leads l l') (ht : t.Flat) :
    t.begun = (l ++ t.queued).take t.begun.length := by
  -- nothing begins inside a block, so its inside only appends, and what follows starts from a known list
  induction h with
  | done l => simp [begun]
  | failed f rest ih => exact ih ht
  | endPush n rest ih =>
      have htake := ih ht
      rw [List.append_assoc, List.singleton_append] at htake
      exact htake
  | @scope x i r l' inner pop rest _ ih =>
      obtain ⟨_, hbegun, hr⟩ := forall_blocks_scope.mp ht
      have htake := ih hr
      have hafter : x.after = x.under ++ i.queued := by rw [pop, inner.of_begun_nil hbegun]; rfl
      rw [hafter, List.append_assoc] at htake
      rw [begun, queued, hbegun, List.nil_append]
      exact htake
  | @current x i r l' inner pop rest _ ih =>
      obtain ⟨_, hbegun, hr⟩ := forall_blocks_current.mp ht
      have htake := ih hr
      have hafter : x.after = x.under ++ i.queued := by rw [pop, inner.of_begun_nil hbegun]; rfl
      rw [hafter, List.append_assoc] at htake
      rw [begun, queued, hbegun, List.nil_append, List.length_cons, List.cons_append, List.take_succ_cons, ← htake]

end History

namespace Program

/-- Takes up the current scope again and again, with the next block each time and failures caught, as long as there is
one and at most `n` times. The value says whether it stopped because there was none left. -/
def drain (block : Nat → ν → Program δ ν τ β) : (n i : Nat) → Program δ ν τ Bool
  | 0, _ => .pure false
  | n + 1, i => .bind (.deed (.observe (·.frames.length))) fun depth =>
      if 0 < depth then .bind (.attempt (.onCurrent (block i))) fun _ => drain block n (i + 1)
      else .pure true

/-- Runs a program, whatever comes of it, and then takes up the nodes that it has left in scope. -/
def thenDrain (m : Program δ ν τ α) (block : Nat → ν → Program δ ν τ β) (n : Nat) : Program δ ν τ Bool :=
  .bind (.attempt m) fun _ => drain block n 0

variable [DecidableEq ν] (E : Engine δ ν)

/-- One round: with a node in scope, the next block is handed it, and the rest of the rounds goes on from there. -/
theorem drain_succ (block : Nat → ν → Program δ ν τ β) (n i : Nat) {s : Session δ ν τ} {node : ν} {l : List ν}
    (h : s.frames = node :: l) :
    ∃ s' x, (drain block (n + 1) i).run E s = (drain block n (i + 1)).run E s' ∧ x.node = node ∧
      (drain block (n + 1) i).history E s =
        .current x ((block i node).history E s) ((drain block n (i + 1)).history E s') := by
  have hdepth : (deed (.observe (·.frames.length)) : Program δ ν τ Nat).run E s = .ok s.frames.length s := rfl
  have hpos : 0 < s.frames.length := by rw [h]; exact Nat.succ_pos _
  obtain ⟨r, hattempt⟩ := run_attempt E (.onCurrent (block i)) s
  obtain ⟨x, hx, hhistory⟩ := history_onCurrent E (block i) h
  refine ⟨Action.stateOf ((onCurrent (block i)).run E s), x, ?_, hx, ?_⟩
  · rw [drain, run_bind_ok E hdepth, if_pos hpos, run_bind_ok E hattempt]
  · rw [drain, history_bind_ok E hdepth, if_pos hpos, history_bind_ok E hattempt, history_attempt, hhistory]
    rfl

/-- With nothing in scope there is no round. -/
theorem drain_nil (block : Nat → ν → Program δ ν τ β) (n i : Nat) {s : Session δ ν τ} (h : s.frames = []) :
    (drain block (n + 1) i).run E s = .ok true s ∧ (drain block (n + 1) i).history E s = .done := by
  have hdepth : (deed (.observe (·.frames.length)) : Program δ ν τ Nat).run E s = .ok s.frames.length s := rfl
  have hzero : ¬ 0 < s.frames.length := by rw [h]; exact Nat.lt_irrefl 0
  refine ⟨?_, ?_⟩
  · rw [drain, run_bind_ok E hdepth, if_neg hzero]
    rfl
  · rw [drain, history_bind_ok E hdepth, if_neg hzero]
    rfl

/-- The rounds never fail. They stop by themselves only when nothing is in scope, and otherwise there are `n` of
them. -/
theorem drain_ends (block : Nat → ν → Program δ ν τ β) (hb : ∀ i node, (block i node).Scoped) (n i : Nat)
    (s : Session δ ν τ) :
    ∃ stopped s', (drain block n i).run E s = .ok stopped s' ∧ ((drain block n i).history E s).Flat ∧
      (stopped = true → s'.frames = []) ∧
      (stopped = false → ((drain block n i).history E s).begun.length = n) := by
  -- the rounds left, from wherever the last round has ended
  induction n generalizing i s with
  | zero => exact ⟨false, s, rfl, .of_begun_nil rfl, by simp, fun _ => rfl⟩
  | succ n ih =>
      cases h : s.frames with
      | nil =>
          obtain ⟨hrun, hhistory⟩ := drain_nil E block n i h
          rw [hrun, hhistory]
          exact ⟨true, s, rfl, .of_begun_nil rfl, fun _ => h, by simp⟩
      | cons node l =>
          obtain ⟨s₁, x, hrun, _, hhistory⟩ := drain_succ E block n i h
          obtain ⟨stopped, s', hrest, hflat, hstop, hgo⟩ := ih (i + 1) s₁
          have hinner := (hb i node).begun_nil E s
          rw [hrun, hhistory]
          refine ⟨stopped, s', hrest, ?_, hstop, fun hf => ?_⟩
          · exact History.forall_blocks_current.mpr ⟨History.Flat.of_begun_nil hinner, hinner, hflat⟩
          · rw [History.begun, hinner, List.nil_append, List.length_cons, hgo hf]

/-- **End-push is a first-in-first-out queue of work.** Start with nothing in scope, run a program whatever comes of
it, and take up the current scope up to `n` times. The blocks are handed the end-pushed nodes of the whole run in the
order of the pushes, and the nodes not yet handed out are what remains in scope; each block is left by removing the
very node it was handed, whether it failed or not. If the rounds stop before that, all nodes have been handed out and
nothing is in scope. -/
theorem end_push_fifo (m : Program δ ν τ α) (hm : m.Scoped) (block : Nat → ν → Program δ ν τ β)
    (hb : ∀ i node, (block i node).Scoped) (n : Nat) (s : Session δ ν τ) (hs : s.frames = []) :
    ∃ stopped s', (thenDrain m block n).run E s = .ok stopped s' ∧
      ((thenDrain m block n).history E s).begun =
        ((thenDrain m block n).history E s).queued.take ((thenDrain m block n).history E s).begun.length ∧
      s'.frames =
        ((thenDrain m block n).history E s).queued.drop ((thenDrain m block n).history E s).begun.length ∧
      (∀ p ∈ ((thenDrain m block n).history E s).blocks,
        p.1.Own ∧ p.1.failure = none ∧ p.1.outcome = p.1.block) ∧
      (stopped = true → s'.frames = [] ∧
        ((thenDrain m block n).history E s).begun = ((thenDrain m block n).history E s).queued) ∧
      (stopped = false → ((thenDrain m block n).history E s).begun.length = n) := by
  have hlaw := (thenDrain m block n).lawful E s
  obtain ⟨r, hattempt⟩ := run_attempt E m s
  obtain ⟨stopped, s', hdrain, hflat, hstop, hgo⟩ := drain_ends E block hb n 0 (Action.stateOf (m.run E s))
  have hrun : (thenDrain m block n).run E s = .ok stopped s' := by
    rw [thenDrain, run_bind_ok E hattempt, hdrain]
  have hbegun := hm.begun_nil E s
  have hhistory : (thenDrain m block n).history E s =
      m.history E s ++ (drain block n 0).history E (Action.stateOf (m.run E s)) := by
    rw [thenDrain, history_bind_ok E hattempt, history_attempt]
  have hflat' : ((thenDrain m block n).history E s).Flat := by
    rw [hhistory]
    exact (History.Flat.of_begun_nil hbegun).append hflat
  have htake := hlaw.leads.begun_eq_take hflat'
  have hdrop := (hlaw.leads.shifted_of_flat hflat').eq
  have hframes : (thenDrain m block n).framesAfter E s = s'.frames := by
    rw [framesAfter, hrun, Action.stateOf]
  rw [hs, List.nil_append] at htake
  rw [hframes, hs, List.nil_append] at hdrop
  refine ⟨stopped, s', hrun, htake, hdrop, fun p hp => ?_, fun h => ?_, fun h => ?_⟩
  · have hown := hlaw.leads.own hp (hflat' p hp)
    exact ⟨hown, hlaw.own_ends hp hown⟩
  · have hall := List.drop_eq_nil_iff.mp (hdrop.symm.trans (hstop h))
    refine ⟨hstop h, ?_⟩
    rw [htake, List.take_of_length_le hall]
  · rw [hhistory, History.begun_append, hbegun, List.nil_append, hgo h]

/-- Queues two pages, the second of them from inside a scope. -/
def queueTwo : Bare Unit :=
  .bind (page "a") fun p => .bind (page "b") fun q => .bind (.endPush p) fun _ => inside p fun _ => .endPush q

/-- The first block queues a third page and fails. -/
def queueThird (i : Nat) (_ : String) : Bare Unit :=
  if i = 0 then .bind (page "c") fun p => .bind (.endPush p) fun _ => .raise (.block "stop") else .pure ()

theorem end_push_fifo_queueTwo :
    queueTwo.Scoped ∧ (∀ i node, (queueThird i node).Scoped) ∧
    ((thenDrain queueTwo queueThird 9).history bareEngine (bareSession [])).begun = ["a", "b", "c"] ∧
    ∃ s', (thenDrain queueTwo queueThird 9).run bareEngine (bareSession []) = .ok true s' ∧ s'.frames = [] := by
  have hm : queueTwo.Scoped :=
    ⟨trivial, fun _ => ⟨trivial, fun _ => ⟨trivial, fun _ => ⟨trivial, fun _ _ => trivial⟩⟩⟩⟩
  have hb : ∀ i node, (queueThird i node).Scoped := by
    intro i node
    unfold queueThird
    split
    · exact ⟨trivial, fun _ => ⟨trivial, fun _ => trivial⟩⟩
    · trivial
  have hbegun : ((thenDrain queueTwo queueThird 9).history bareEngine (bareSession [])).begun = ["a", "b", "c"] := by
    decide
  obtain ⟨stopped, s', hrun, -, -, -, hstop, hgo⟩ :=
    end_push_fifo bareEngine queueTwo hm queueThird hb 9 (bareSession []) rfl
  cases stopped with
  | true => exact ⟨hm, hb, hbegun, s', hrun, (hstop rfl).1⟩
  | false =>
      have hlength := hgo rfl
      rw [hbegun] at hlength
      cases hlength

end Program

end Crawl.Session
