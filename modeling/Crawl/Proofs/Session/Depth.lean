import Crawl.Proofs.Session.Lawful
/-!
# How many nodes are in scope

Whatever is mixed with what, every block that is left takes one node away, unless there is none: a scope takes away
one for the one it added, and a block on the current scope one that it did not add. What a removal reports, and whether
the block failed, makes no difference. So the nodes in scope have a closed form: the nodes from before with the
end-pushed ones behind them, less one from the front for each block that began on the current scope.
-/

namespace Crawl.Session

variable {δ ν τ α : Type}

/-- `l'` is `l` with `q` appended at the tail and then `k` removed from the front. -/
structure Shifted (l q : List α) (k : Nat) (l' : List α) : Prop where
  eq : l' = (l ++ q).drop k
  le : k ≤ (l ++ q).length

namespace Shifted

theorem refl (l : List α) : Shifted l [] 0 l where
  eq := by rw [List.append_nil, List.drop_zero]
  le := Nat.zero_le _

/-- What is removed later was there already or has come in since, so all of it may as well be appended first. -/
theorem trans {l q m q' l' : List α} {k k' : Nat} (h : Shifted l q k m) (h' : Shifted m q' k' l') :
    Shifted l (q ++ q') (k + k') l' where
  eq := by rw [h'.eq, h.eq, ← List.append_assoc, ← List.drop_append_of_le_length h.le, List.drop_drop]
  le := by
    have hle := h.le
    have hle' := h'.le
    rw [h.eq, List.length_append, List.length_drop] at hle'
    rw [← List.append_assoc, List.length_append]
    omega

theorem length_add {l q l' : List α} {k : Nat} (h : Shifted l q k l') : l'.length + k = l.length + q.length := by
  have hle := h.le
  rw [h.eq, List.length_drop]
  rw [List.length_append] at hle ⊢
  omega

/-- A scope: the node that it adds in front and the one removed at its end cancel out. -/
theorem scope {node : α} {l q m : List α} {k : Nat} (h : Shifted (node :: l) q k m) (hm : m ≠ []) :
    Shifted l q k m.tail where
  eq := by rw [h.eq, List.tail_drop, List.cons_append, List.drop_succ_cons]
  le := by
    rw [h.eq, ne_eq, List.drop_eq_nil_iff, List.cons_append, List.length_cons] at hm
    omega

/-- A block on the current scope: one node less. -/
theorem current {node : α} {l q m : List α} {k : Nat} (h : Shifted (node :: l) q k m) (hm : m ≠ []) :
    Shifted (node :: l) q (k + 1) m.tail where
  eq := by rw [h.eq, List.tail_drop]
  le := by
    rw [h.eq, ne_eq, List.drop_eq_nil_iff] at hm
    omega

end Shifted

namespace History

/-- **The closed form of the nodes in scope**, over a history in which there was always one to remove. -/
theorem Leads.shifted {t : History α} {l l' : List α} (h : t.Leads l l') (hne : ∀ p ∈ t.blocks, p.1.before ≠ []) :
    Shifted l t.queued t.begun.length l' := by
  -- scopes and blocks differ in what the removal at their end does to the list; all else is composition
  induction h with
  | done l => exact .refl l
  | failed f rest ih => exact ih hne
  | endPush n rest ih =>
      obtain ⟨heq, hle⟩ := ih hne
      rw [List.append_assoc, List.singleton_append] at heq hle
      exact ⟨heq, hle⟩
  | @scope x i r l' inner pop rest ihi ihr =>
      obtain ⟨hi, hx, hr⟩ := forall_blocks_scope.mp hne
      have hinner := ihi hi
      have hrest := ihr hr
      rw [pop] at hrest
      rw [queued, begun, List.length_append]
      exact (hinner.scope hx).trans hrest
  | @current x i r l' inner pop rest ihi ihr =>
      obtain ⟨hi, hx, hr⟩ := forall_blocks_current.mp hne
      have hinner := ihi hi
      have hrest := ihr hr
      rw [pop] at hrest
      rw [queued, begun, List.length_cons, List.length_append, Nat.add_right_comm]
      exact (hinner.current hx).trans hrest

/-- The same for what happened inside a block. -/
theorem Leads.block_shifted {t : History α} {l l' : List α} (h : t.Leads l l')
    (hne : ∀ p ∈ t.blocks, p.1.before ≠ []) {p : Exit α × History α} (hp : p ∈ t.blocks) :
    Shifted (p.1.node :: p.1.under) p.2.queued p.2.begun.length p.1.before :=
  (h.block hp).1.shifted fun _ hq => hne _ (mem_blocks_trans hp hq)

/-- A block at the end of which something was in scope removed exactly one node. -/
theorem Leads.exists_removed {t : History α} {l l' : List α} (h : t.Leads l l') {p : Exit α × History α}
    (hp : p ∈ t.blocks) (hne : p.1.before ≠ []) : ∃ n, p.1.before = n :: p.1.after := by
  obtain ⟨n, rest, hcons⟩ := List.exists_cons_of_ne_nil hne
  refine ⟨n, ?_⟩
  rw [(h.block hp).2, hcons, List.tail_cons]

end History

namespace Program

variable [DecidableEq ν] (E : Engine δ ν)

/-- **Depth accounting.** A block whose removal did not run into an empty stack removed exactly one node, whether the
block or the removal failed or not. In a run in which no removal ran into an empty stack, the nodes in scope at the
end and the blocks begun on the current scope are as many as the nodes in scope at the start and the end-pushed ones. -/
theorem depth_accounting (m : Program δ ν τ α) (s : Session δ ν τ) :
    (∀ p ∈ (m.history E s).blocks, p.1.failure ≠ some (.stackImbalance .emptyPop) →
      ∃ n, p.1.before = n :: p.1.after) ∧
    ((∀ p ∈ (m.history E s).blocks, p.1.failure ≠ some (.stackImbalance .emptyPop)) →
      (m.framesAfter E s).length + (m.history E s).begun.length = s.frames.length + (m.history E s).queued.length) := by
  have hlaw := m.lawful E s
  have hne : ∀ p ∈ (m.history E s).blocks, p.1.failure ≠ some (.stackImbalance .emptyPop) → p.1.before ≠ [] :=
    fun p hp hf => mt (hlaw.empty_iff hp).mpr hf
  refine ⟨fun p hp hf => hlaw.leads.exists_removed hp (hne p hp hf), fun hf => ?_⟩
  exact (hlaw.leads.shifted fun p hp => hne p hp (hf p hp)).length_add

/-- Inside the scope of a page the current scope is dropped, so the scope's end finds another page; the imbalance is
caught, and the page is put behind all others. -/
def leaveForeign : Bare Unit :=
  .bind (page "a") fun p => .bind (.attempt (inside p fun _ => .onCurrent fun _ => .pure ())) fun _ => .endPush p

theorem depth_accounting_leaveForeign :
    (∀ p ∈ (leaveForeign.history bareEngine (bareSession ["r", "s"])).blocks,
      p.1.failure ≠ some (.stackImbalance .emptyPop) ∧ ∃ n, p.1.before = n :: p.1.after) ∧
    (∃ p ∈ (leaveForeign.history bareEngine (bareSession ["r", "s"])).blocks,
      p.1.failure = some (.stackImbalance (.foreign "'a'" "'r'"))) ∧
    (leaveForeign.framesAfter bareEngine (bareSession ["r", "s"])).length + 1 = 2 + 1 := by
  have hne : ∀ p ∈ (leaveForeign.history bareEngine (bareSession ["r", "s"])).blocks,
      p.1.failure ≠ some (.stackImbalance .emptyPop) := by decide
  obtain ⟨hone, hdepth⟩ := depth_accounting bareEngine leaveForeign (bareSession ["r", "s"])
  exact ⟨fun p hp => ⟨hne p hp, hone p hp (hne p hp)⟩, by decide, hdepth hne⟩

end Program

end Crawl.Session
