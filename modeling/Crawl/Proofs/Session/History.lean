import Crawl.Failure
/-!
# Histories

What a run did to the scopes of its session, in the order in which it was done. A history is a sequence of marks; the
marks of a block stand inside the mark of the scope it ran in, so the nesting of scopes is the nesting of the data.
`Leads` says how a history moves the nodes in scope. Everything that is claimed about scopes over whole runs is proved
about histories first, with no engine and no session in sight.
-/

namespace Crawl.Session

/-- How a block was left: what it was handed, the nodes that were in scope under that, the nodes in scope when the block
had ended and when its scope had been removed, and the failures the block ended with, the removal ended with, and the
two of them together. -/
structure Exit (α : Type) where
  node : α
  under : List α
  before : List α
  after : List α
  block : Option Failure
  failure : Option Failure
  outcome : Option Failure

/-- A history. `failed` is an operation without a block that failed, `endPush` a node put behind all others, `scope` a
block that ran in a scope of its own, and `current` one that ran against the current scope and dropped it. -/
inductive History (α : Type)
  | done
  | failed (f : Failure) (rest : History α)
  | endPush (node : α) (rest : History α)
  | scope (exit : Exit α) (inner rest : History α)
  | current (exit : Exit α) (inner rest : History α)

namespace History

variable {α : Type}

/-- One history after another. -/
def append : History α → History α → History α
  | .done, t => t
  | .failed f r, t => .failed f (r.append t)
  | .endPush n r, t => .endPush n (r.append t)
  | .scope x i r, t => .scope x i (r.append t)
  | .current x i r, t => .current x i (r.append t)

instance : Append (History α) := ⟨append⟩

/-- The nodes put behind all others, in order. -/
def queued : History α → List α
  | .done => []
  | .failed _ r => r.queued
  | .endPush n r => n :: r.queued
  | .scope _ i r => i.queued ++ r.queued
  | .current _ i r => i.queued ++ r.queued

/-- The nodes that the blocks on the current scope were handed, in the order in which these blocks began. -/
def begun : History α → List α
  | .done => []
  | .failed _ r => r.begun
  | .endPush _ r => r.begun
  | .scope _ i r => i.begun ++ r.begun
  | .current x i r => x.node :: (i.begun ++ r.begun)

/-- The scopes that were left, each with what happened inside it, in the order in which they were left. -/
def scopes : History α → List (Exit α × History α)
  | .done => []
  | .failed _ r => r.scopes
  | .endPush _ r => r.scopes
  | .scope x i r => i.scopes ++ (x, i) :: r.scopes
  | .current _ i r => i.scopes ++ r.scopes

/-- The blocks on the current scope, each with what happened inside it, in the order in which they were left. -/
def currents : History α → List (Exit α × History α)
  | .done => []
  | .failed _ r => r.currents
  | .endPush _ r => r.currents
  | .scope _ i r => i.currents ++ r.currents
  | .current x i r => i.currents ++ (x, i) :: r.currents

/-- All blocks that were left. -/
def blocks (t : History α) : List (Exit α × History α) := t.scopes ++ t.currents

/-- Every failure at the place where it first came up, caught later or not. -/
def raised : History α → List Failure
  | .done => []
  | .failed f r => f :: r.raised
  | .endPush _ r => r.raised
  | .scope x i r => i.raised ++ (x.failure.toList ++ r.raised)
  | .current x i r => i.raised ++ (x.failure.toList ++ r.raised)

/-! ## Appending -/

@[simp]
theorem done_append (t : History α) : .done ++ t = t := rfl

@[simp]
theorem scope_append (x : Exit α) (i r t : History α) : .scope x i r ++ t = .scope x i (r ++ t) := rfl

@[simp]
theorem current_append (x : Exit α) (i r t : History α) : .current x i r ++ t = .current x i (r ++ t) := rfl

@[simp]
theorem begun_append (t u : History α) : (t ++ u).begun = t.begun ++ u.begun := by
  induction t with
  | done => rfl
  | failed f r ih => exact ih
  | endPush n r ih => exact ih
  | scope x i r _ ih => simp only [scope_append, begun, ih, List.append_assoc]
  | current x i r _ ih => simp only [current_append, begun, ih, List.append_assoc, List.cons_append]

@[simp]
theorem scopes_append (t u : History α) : (t ++ u).scopes = t.scopes ++ u.scopes := by
  induction t with
  | done => rfl
  | failed f r ih => exact ih
  | endPush n r ih => exact ih
  | scope x i r _ ih => simp only [scope_append, scopes, ih, List.append_assoc, List.cons_append]
  | current x i r _ ih => simp only [current_append, scopes, ih, List.append_assoc]

@[simp]
theorem currents_append (t u : History α) : (t ++ u).currents = t.currents ++ u.currents := by
  induction t with
  | done => rfl
  | failed f r ih => exact ih
  | endPush n r ih => exact ih
  | scope x i r _ ih => simp only [scope_append, currents, ih, List.append_assoc]
  | current x i r _ ih => simp only [current_append, currents, ih, List.append_assoc, List.cons_append]

/-! ## The blocks of a history -/

theorem mem_blocks_scope {x : Exit α} {i r : History α} {p : Exit α × History α} :
    p ∈ (History.scope x i r).blocks ↔ p ∈ i.blocks ∨ p = (x, i) ∨ p ∈ r.blocks := by
  simp only [blocks, scopes, currents, List.mem_append, List.mem_cons]
  grind

theorem mem_blocks_current {x : Exit α} {i r : History α} {p : Exit α × History α} :
    p ∈ (History.current x i r).blocks ↔ p ∈ i.blocks ∨ p = (x, i) ∨ p ∈ r.blocks := by
  simp only [blocks, scopes, currents, List.mem_append, List.mem_cons]
  grind

theorem forall_blocks_scope {x : Exit α} {i r : History α} {P : Exit α × History α → Prop} :
    (∀ p ∈ (History.scope x i r).blocks, P p) ↔ (∀ p ∈ i.blocks, P p) ∧ P (x, i) ∧ ∀ p ∈ r.blocks, P p := by
  simp only [mem_blocks_scope, or_imp, forall_and, forall_eq]

theorem forall_blocks_current {x : Exit α} {i r : History α} {P : Exit α × History α → Prop} :
    (∀ p ∈ (History.current x i r).blocks, P p) ↔ (∀ p ∈ i.blocks, P p) ∧ P (x, i) ∧ ∀ p ∈ r.blocks, P p := by
  simp only [mem_blocks_current, or_imp, forall_and, forall_eq]

theorem mem_blocks_append {t u : History α} {p : Exit α × History α} :
    p ∈ (t ++ u).blocks ↔ p ∈ t.blocks ∨ p ∈ u.blocks := by
  simp only [blocks, scopes_append, currents_append, List.mem_append]
  grind

/-- The blocks inside a block are blocks of the history. -/
theorem mem_blocks_trans {t : History α} {p q : Exit α × History α} (hp : p ∈ t.blocks) (hq : q ∈ p.2.blocks) :
    q ∈ t.blocks := by
  induction t with
  | done => cases hp
  | failed f r ih => exact ih hp
  | endPush n r ih => exact ih hp
  | scope x i r ihi ihr =>
      rw [mem_blocks_scope] at hp ⊢
      rcases hp with hp | rfl | hp
      · exact .inl (ihi hp)
      · exact .inl hq
      · exact .inr (.inr (ihr hp))
  | current x i r ihi ihr =>
      rw [mem_blocks_current] at hp ⊢
      rcases hp with hp | rfl | hp
      · exact .inl (ihi hp)
      · exact .inl hq
      · exact .inr (.inr (ihr hp))

/-- What a removal ended with came up in the run. -/
theorem mem_raised {t : History α} {p : Exit α × History α} (hp : p ∈ t.blocks) {f : Failure}
    (hf : p.1.failure = some f) : f ∈ t.raised := by
  induction t with
  | done => cases hp
  | failed g r ih => exact List.mem_cons_of_mem g (ih hp)
  | endPush n r ih => exact ih hp
  | scope x i r ihi ihr =>
      rw [raised, List.mem_append, List.mem_append]
      rcases mem_blocks_scope.mp hp with hp | rfl | hp
      · exact .inl (ihi hp)
      · exact .inr (.inl (Option.mem_toList.mpr hf))
      · exact .inr (.inr (ihr hp))
  | current x i r ihi ihr =>
      rw [raised, List.mem_append, List.mem_append]
      rcases mem_blocks_current.mp hp with hp | rfl | hp
      · exact .inl (ihi hp)
      · exact .inr (.inl (Option.mem_toList.mpr hf))
      · exact .inr (.inr (ihr hp))

/-! ## How a history moves the nodes in scope -/

/-- A history leads from the nodes in scope before it to those after it: a scope pushes its node at the front, a block
on the current scope is handed the front, the end of either removes the front, and `endPush` appends at the tail. -/
inductive Leads : History α → List α → List α → Prop
  | done (l : List α) : Leads .done l l
  | failed (f : Failure) {r : History α} {l l' : List α} (rest : Leads r l l') : Leads (.failed f r) l l'
  | endPush (n : α) {r : History α} {l l' : List α} (rest : Leads r (l ++ [n]) l') : Leads (.endPush n r) l l'
  | scope {x : Exit α} {i r : History α} {l' : List α} (inner : Leads i (x.node :: x.under) x.before)
      (pop : x.after = x.before.tail) (rest : Leads r x.after l') : Leads (.scope x i r) x.under l'
  | current {x : Exit α} {i r : History α} {l' : List α} (inner : Leads i (x.node :: x.under) x.before)
      (pop : x.after = x.before.tail) (rest : Leads r x.after l') : Leads (.current x i r) (x.node :: x.under) l'

theorem Leads.append {t u : History α} {l m l' : List α} (ht : t.Leads l m) (hu : u.Leads m l') :
    (t ++ u).Leads l l' := by
  induction ht with
  | done l => exact hu
  | failed f _ ih => exact .failed f (ih hu)
  | endPush n _ ih => exact .endPush n (ih hu)
  | scope inner pop _ _ ih => exact .scope inner pop (ih hu)
  | current inner pop _ _ ih => exact .current inner pop (ih hu)

/-- Whatever kind of block it is: its own history leads from what it was handed, in front of what was under it, to what
it left behind, and then the front was removed. -/
theorem Leads.block {t : History α} {l l' : List α} (h : t.Leads l l') {p : Exit α × History α} (hp : p ∈ t.blocks) :
    p.2.Leads (p.1.node :: p.1.under) p.1.before ∧ p.1.after = p.1.before.tail := by
  induction h with
  | done l => cases hp
  | failed f rest ih => exact ih hp
  | endPush n rest ih => exact ih hp
  | scope inner pop rest ihi ihr =>
      rcases mem_blocks_scope.mp hp with hp | rfl | hp
      · exact ihi hp
      · exact ⟨inner, pop⟩
      · exact ihr hp
  | current inner pop rest ihi ihr =>
      rcases mem_blocks_current.mp hp with hp | rfl | hp
      · exact ihi hp
      · exact ⟨inner, pop⟩
      · exact ihr hp

end History

/-- A block was left by removing the very thing it was handed. -/
def Exit.Own {α : Type} (x : Exit α) : Prop := x.before = x.node :: x.after

instance {α : Type} [DecidableEq α] (x : Exit α) : Decidable x.Own :=
  inferInstanceAs (Decidable (x.before = x.node :: x.after))

/-- The removal at the end of a block told the truth: it succeeded exactly when it was `allowed`, failed with an
imbalance otherwise, that of an empty pop exactly when nothing was there, and only its own failure took the place of
what the block had ended with. -/
structure Exit.Fair {α : Type} (x : Exit α) (allowed : Prop) : Prop where
  ends : x.failure = none ↔ allowed
  empty : x.failure = some (.stackImbalance .emptyPop) ↔ x.before = []
  imbalance : ∀ f ∈ x.failure, f.kind = .stackImbalance
  outcome : x.outcome = x.failure.or x.block

/-- What the history of a run obeys: it leads from the nodes in scope before the run to those after it, the end of a
scope succeeds when the node in front is the scope's, and the end of a block on the current scope when there is any. -/
structure History.Lawful {α : Type} (t : History α) (l l' : List α) : Prop where
  leads : t.Leads l l'
  scopes : ∀ p ∈ t.scopes, p.1.Fair (p.1.before.head? = some p.1.node)
  currents : ∀ p ∈ t.currents, p.1.Fair (p.1.before ≠ [])

/-- A removal that was allowed ends well, and the block's end is what comes out. -/
theorem Exit.Fair.of_allowed {α : Type} {x : Exit α} {allowed : Prop} (h : x.Fair allowed) (ha : allowed) :
    x.failure = none ∧ x.outcome = x.block := by
  have hnone : x.failure = none := h.ends.mpr ha
  refine ⟨hnone, ?_⟩
  rw [h.outcome, hnone, Option.none_or]

/-- A block that is left by removing the very thing it was handed ends well, whatever kind of block it is. -/
theorem History.Lawful.own_ends {α : Type} {t : History α} {l l' : List α} (h : t.Lawful l l')
    {p : Exit α × History α} (hp : p ∈ t.blocks) (hown : p.1.Own) :
    p.1.failure = none ∧ p.1.outcome = p.1.block := by
  rw [Exit.Own] at hown
  rcases List.mem_append.mp hp with hs | hc
  · exact (h.scopes p hs).of_allowed (by rw [hown, List.head?_cons])
  · exact (h.currents p hc).of_allowed (by rw [hown]; exact List.cons_ne_nil _ _)

/-- A removal runs into an empty stack exactly when nothing is in scope at the end of the block. -/
theorem History.Lawful.empty_iff {α : Type} {t : History α} {l l' : List α} (h : t.Lawful l l')
    {p : Exit α × History α} (hp : p ∈ t.blocks) :
    p.1.failure = some (.stackImbalance .emptyPop) ↔ p.1.before = [] := by
  rcases List.mem_append.mp hp with hs | hc
  · exact (h.scopes p hs).empty
  · exact (h.currents p hc).empty

theorem History.Lawful.append {α : Type} {t u : History α} {l m l' : List α} (ht : t.Lawful l m)
    (hu : u.Lawful m l') : (t ++ u).Lawful l l' where
  leads := ht.leads.append hu.leads
  scopes := by
    intro p hp
    rw [scopes_append] at hp
    exact (List.mem_append.mp hp).elim (ht.scopes p) (hu.scopes p)
  currents := by
    intro p hp
    rw [currents_append] at hp
    exact (List.mem_append.mp hp).elim (ht.currents p) (hu.currents p)

end Crawl.Session
