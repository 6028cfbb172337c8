import Crawl.Proofs.Session.Entries
/-!
# Entering and leaving by hand

Entries can be entered and left in any order, the same entry again and again. A walk is a list of such moves, each kept
with what was open before it. The session keeps two records of it, the nodes in scope and each entry's own open uses,
and every move is shown to keep both in step with what is open (`Held`), whatever it ends with. As long as always the
latest use is closed first, each leaving finds its own node in front and brings back the nodes in scope from before
(`Stacked`).
-/

namespace Crawl.Session

open Crawl.Action (stateOf failureOf valueOf bind_ok bind_error)

variable {δ ν τ α : Type} [DecidableEq ν] (E : Engine δ ν)

/-- Entering or leaving an entry. -/
inductive Move
  | enter (entry : ScopedEntry)
  | exit (entry : ScopedEntry)
deriving DecidableEq

/-- The entry that a move leaves. -/
def Move.left? : Move → Option ScopedEntry
  | .enter _ => none
  | .exit entry => some entry

/-- Makes a move; the value is the node that an entry has brought into scope. -/
def Move.run : Move → Action (Session δ ν τ) (Option ν)
  | .enter entry => do return some (← entry.enter E)
  | .exit entry => do
    entry.exit E
    return none

/-- A use of an entry that is still open: its node, and the nodes that were in scope before it. -/
structure OpenUse (ν : Type) where
  entry : ScopedEntry
  node : ν
  under : List ν

/-- A move that was made: the open uses before it, the scopes before and after it, and what it ended with. -/
structure Moved (ν : Type) where
  move : Move
  opens : List (OpenUse ν)
  before : List ν × (Nat → List ν)
  after : List ν × (Nat → List ν)
  node : Option ν
  failure : Option Failure

namespace Moved

/-- The open uses after a move, the latest first: an entering that succeeded adds one, and leaving an entry closes the
latest one of that entry. -/
def opensAfter (m : Moved ν) : List (OpenUse ν) :=
  match m.move, m.node with
  | .enter entry, some node => ⟨entry, node, m.before.1⟩ :: m.opens
  | .enter _, none => m.opens
  | .exit entry, _ => m.opens.eraseP (·.entry.serial == entry.serial)

/-- A move that leaves an entry finds an open use of that entry. -/
def Paired (m : Moved ν) : Prop := ∀ entry ∈ m.move.left?, ∃ u ∈ m.opens, u.entry.serial = entry.serial

/-- A move that leaves an entry finds that the latest open use is one of that entry. -/
def Nested (m : Moved ν) : Prop := ∀ entry ∈ m.move.left?, ∃ u ∈ m.opens.head?, u.entry.serial = entry.serial

instance (m : Moved ν) : Decidable m.Paired :=
  inferInstanceAs (Decidable (∀ entry ∈ m.move.left?, ∃ u ∈ m.opens, u.entry.serial = entry.serial))

instance (m : Moved ν) : Decidable m.Nested :=
  inferInstanceAs (Decidable (∀ entry ∈ m.move.left?, ∃ u ∈ m.opens.head?, u.entry.serial = entry.serial))

omit [DecidableEq ν] in
theorem Nested.paired {m : Moved ν} (h : m.Nested) : m.Paired := by
  intro entry hmove
  obtain ⟨u, hu, hserial⟩ := h entry hmove
  exact ⟨u, List.mem_of_mem_head? hu, hserial⟩

end Moved

/-- A move made from a session with some open uses. -/
def Move.made (move : Move) (opens : List (OpenUse ν)) (s : Session δ ν τ) : Moved ν :=
  let r := move.run E s
  ⟨move, opens, scopes s, scopes (stateOf r), (valueOf r).join, failureOf r⟩

/-- Makes moves one after the other, whatever each of them ends with. -/
def walk : List Move → List (OpenUse ν) → Session δ ν τ → List (Moved ν)
  | [], _, _ => []
  | move :: moves, opens, s =>
    let made := move.made E opens s
    made :: walk moves made.opensAfter (stateOf (move.run E s))

/-! ## What a move does -/

/-- Entering either fails and changes nothing, or adds a node in front and to the open uses of the entry. -/
theorem made_enter (entry : ScopedEntry) (opens : List (OpenUse ν)) (s : Session δ ν τ) :
    (((Move.enter entry).made E opens s).failure ≠ none ∧ ((Move.enter entry).made E opens s).node = none ∧
        ((Move.enter entry).made E opens s).after = scopes s) ∨
      ∃ node, ((Move.enter entry).made E opens s).failure = none ∧
        ((Move.enter entry).made E opens s).node = some node ∧
        ((Move.enter entry).made E opens s).after =
          (node :: s.frames, replaceUses entry (node :: s.entered entry.serial) s.entered) := by
  rcases enter_cases E entry s with ⟨f, s', hr, hs'⟩ | ⟨node, s', hr, hs'⟩
  · have hrun : (Move.enter entry).run E s = .error f s' := bind_error hr _
    simp only [Move.made, hrun]
    exact .inl ⟨nofun, rfl, hs'⟩
  · have hrun : (Move.enter entry).run E s = .ok (some node) s' := bind_ok hr _
    simp only [Move.made, hrun]
    exact .inr ⟨node, rfl, rfl, hs'⟩

/-- Leaving an entry that has an open use removes the node in front and that use, and fails unless the node was that
of the use. -/
theorem made_exit (entry : ScopedEntry) (opens : List (OpenUse ν)) {s : Session δ ν τ} {node : ν} {nodes : List ν}
    (h : s.entered entry.serial = node :: nodes) :
    ((Move.exit entry).made E opens s).after = (s.frames.tail, replaceUses entry nodes s.entered) ∧
      (((Move.exit entry).made E opens s).failure = none ↔ s.frames.head? = some node) := by
  have hpops := pops_exit E entry h
  cases hr : entry.exit E s with
  | ok a s' =>
      rw [hr] at hpops
      have hrun : (Move.exit entry).run E s = .ok none s' := bind_ok hr _
      simp only [Move.made, hrun]
      exact ⟨hpops.scopes, hpops.ends⟩
  | error f s' =>
      rw [hr] at hpops
      have hrun : (Move.exit entry).run E s = .error f s' := bind_error hr _
      simp only [Move.made, hrun]
      exact ⟨hpops.scopes, hpops.ends⟩

/-! ## What every move keeps -/

/-- The open uses are those of the session, on top of what was there before the walk: one node in scope for each, and
in each entry's own record the nodes of its uses. -/
structure Held (base : List ν × (Nat → List ν)) (opens : List (OpenUse ν)) (now : List ν × (Nat → List ν)) : Prop where
  depth : now.1.length = base.1.length + opens.length
  uses : ∀ i, now.2 i = (opens.filter (·.entry.serial == i)).map (·.node) ++ base.2 i

/-- Each open use has its node in front of the nodes that were in scope when it began. -/
def Stacked (base : List ν) : List (OpenUse ν) → List ν → Prop
  | [], frames => frames = base
  | u :: opens, frames => frames = u.node :: u.under ∧ Stacked base opens u.under

omit [DecidableEq ν] in
/-- Closing the latest use of an entry takes one away from that entry's uses and none from another's. -/
theorem filter_close (opens : List (OpenUse ν)) (entry : ScopedEntry) (i : Nat) :
    (opens.eraseP (·.entry.serial == entry.serial)).filter (·.entry.serial == i) =
      if i = entry.serial then (opens.filter (·.entry.serial == i)).tail
      else opens.filter (·.entry.serial == i) := by
  induction opens with
  | nil => simp
  | cons u opens ih =>
      by_cases hu : u.entry.serial = entry.serial
      · by_cases hi : i = entry.serial
        · simp [hu, hi]
        · have hne : ¬ entry.serial = i := fun h => hi h.symm
          simp [hu, hi, hne]
      · by_cases hui : u.entry.serial = i
        · have hi : ¬ i = entry.serial := fun h => hu (hui.trans h)
          simp [hui, hi, ih]
        · simp [hu, hui, ih]

omit [DecidableEq ν] in
/-- The latest open use of an entry is the latest one in the entry's own record. -/
theorem Held.latest {base : List ν × (Nat → List ν)} {opens : List (OpenUse ν)} {s : Session δ ν τ}
    (h : Held base opens (scopes s)) {entry : ScopedEntry} (hopen : ∃ u ∈ opens, u.entry.serial = entry.serial) :
    ∃ u rest, opens.filter (·.entry.serial == entry.serial) = u :: rest ∧
      s.entered entry.serial = u.node :: (rest.map (·.node) ++ base.2 entry.serial) := by
  obtain ⟨u, hu, hserial⟩ := hopen
  have huses := h.uses entry.serial
  cases hfilter : opens.filter (·.entry.serial == entry.serial) with
  | nil =>
      have hmem : u ∈ opens.filter (·.entry.serial == entry.serial) := by
        rw [List.mem_filter]
        exact ⟨hu, beq_iff_eq.mpr hserial⟩
      rw [hfilter] at hmem
      cases hmem
  | cons u' rest =>
      rw [hfilter, List.map_cons, List.cons_append] at huses
      exact ⟨u', rest, rfl, huses⟩

/-- Every move keeps the open uses in step with the session, also one that fails. -/
theorem Held.made {base : List ν × (Nat → List ν)} {opens : List (OpenUse ν)} {s : Session δ ν τ}
    (h : Held base opens (scopes s)) (move : Move) (hp : (move.made E opens s).Paired) :
    Held base (move.made E opens s).opensAfter (move.made E opens s).after := by
  have hdepth : s.frames.length = base.1.length + opens.length := h.depth
  cases move with
  | enter entry =>
      rcases made_enter E entry opens s with ⟨-, hnode, hafter⟩ | ⟨node, -, hnode, hafter⟩
      · have hopens : ((Move.enter entry).made E opens s).opensAfter = opens := by
          unfold Moved.opensAfter
          rw [hnode]
          rfl
        rw [hopens, hafter]
        exact h
      · have hopens : ((Move.enter entry).made E opens s).opensAfter = ⟨entry, node, s.frames⟩ :: opens := by
          unfold Moved.opensAfter
          rw [hnode]
          rfl
        rw [hopens, hafter]
        refine ⟨?_, fun i => ?_⟩
        · rw [List.length_cons, List.length_cons]
          omega
        · have huses := h.uses i
          by_cases hi : i = entry.serial
          · subst hi
            rw [List.filter_cons_of_pos (p := fun u : OpenUse ν => u.entry.serial == entry.serial) (beq_self_eq_true _),
              List.map_cons, List.cons_append, ← huses]
            exact replaceUses_self _ _ _
          · have hne : ¬ (entry.serial == i) = true := fun he => hi (beq_iff_eq.mp he).symm
            rw [List.filter_cons_of_neg (p := fun u : OpenUse ν => u.entry.serial == i) hne, ← huses]
            exact if_neg hi
  | exit entry =>
      -- the node in front need not be that of the use which is closed: scopes and records are counted separately
      obtain ⟨u, rest, hfilter, hentered⟩ := h.latest (hp entry rfl)
      obtain ⟨hafter, -⟩ := made_exit E entry opens hentered
      have hopens : ((Move.exit entry).made E opens s).opensAfter =
          opens.eraseP (·.entry.serial == entry.serial) := rfl
      rw [hopens, hafter]
      refine ⟨?_, fun i => ?_⟩
      · obtain ⟨v, hv, hserial⟩ : ∃ v ∈ opens, v.entry.serial = entry.serial := hp entry rfl
        have hlength := List.length_eraseP_of_mem (p := (·.entry.serial == entry.serial)) hv (beq_iff_eq.mpr hserial)
        have hpos : 0 < opens.length := List.length_pos_of_mem hv
        rw [hlength, List.length_tail]
        omega
      · rw [filter_close]
        by_cases hi : i = entry.serial
        · subst hi
          rw [if_pos rfl, hfilter, List.tail_cons]
          exact replaceUses_self _ _ _
        · rw [if_neg hi, ← h.uses i]
          exact if_neg hi

/-- As long as the latest use is closed first, leaving an entry ends well and brings back the nodes in scope from before
that use. -/
theorem Stacked.exit {base : List ν × (Nat → List ν)} {opens : List (OpenUse ν)} {s : Session δ ν τ}
    (h : Held base opens (scopes s)) (hs : Stacked base.1 opens s.frames) {entry : ScopedEntry}
    (hn : ((Move.exit entry).made E opens s).Nested) :
    ∃ u rest, opens = u :: rest ∧ ((Move.exit entry).made E opens s).opensAfter = rest ∧
      ((Move.exit entry).made E opens s).failure = none ∧ ((Move.exit entry).made E opens s).after.1 = u.under ∧
      Stacked base.1 rest u.under := by
  obtain ⟨u, hu, hserial⟩ := hn entry rfl
  have hhead : opens.head? = some u := hu
  cases opens with
  | nil => cases hhead
  | cons u' rest =>
      obtain rfl : u' = u := Option.some.inj hhead
      obtain ⟨hframes, hrest⟩ := hs
      obtain ⟨v, others, hfilter, hentered⟩ := h.latest ⟨u', List.mem_cons_self, hserial⟩
      rw [List.filter_cons_of_pos (p := fun u : OpenUse ν => u.entry.serial == entry.serial)
        (beq_iff_eq.mpr hserial)] at hfilter
      obtain rfl : u' = v := (List.cons.inj hfilter).1
      obtain ⟨hafter, hends⟩ := made_exit E entry (u' :: rest) hentered
      refine ⟨u', rest, rfl, ?_, hends.mpr ?_, ?_, hrest⟩
      · exact List.eraseP_cons_of_pos (p := fun u : OpenUse ν => u.entry.serial == entry.serial)
          (beq_iff_eq.mpr hserial)
      · rw [hframes, List.head?_cons]
      · rw [hafter, hframes, List.tail_cons]

theorem Stacked.made {base : List ν × (Nat → List ν)} {opens : List (OpenUse ν)} {s : Session δ ν τ}
    (h : Held base opens (scopes s)) (hs : Stacked base.1 opens s.frames) (move : Move)
    (hn : (move.made E opens s).Nested) :
    Stacked base.1 (move.made E opens s).opensAfter (move.made E opens s).after.1 := by
  cases move with
  | enter entry =>
      rcases made_enter E entry opens s with ⟨-, hnode, hafter⟩ | ⟨node, -, hnode, hafter⟩
      · unfold Moved.opensAfter
        rw [hnode, hafter]
        exact hs
      · unfold Moved.opensAfter
        rw [hnode, hafter]
        exact ⟨rfl, hs⟩
  | exit entry =>
      obtain ⟨u, rest, -, hopens, -, hunder, hrest⟩ := Stacked.exit E h hs hn
      rw [hopens, hunder]
      exact hrest

/-! ## Walks -/

/-- What every move keeps that passes a test holds before and after each move of a walk whose moves all pass it. -/
theorem walk_keeps {I : List (OpenUse ν) → Session δ ν τ → Prop} {G : Moved ν → Prop}
    (hstep : ∀ (move : Move) opens s, I opens s → G (move.made E opens s) →
      I (move.made E opens s).opensAfter (stateOf (move.run E s)))
    (moves : List Move) {opens : List (OpenUse ν)} {s : Session δ ν τ} (h : I opens s)
    (hG : ∀ m ∈ walk E moves opens s, G m) :
    ∀ m ∈ walk E moves opens s, ∃ s', m = m.move.made E m.opens s' ∧ I m.opens s' ∧
      I m.opensAfter (stateOf (m.move.run E s')) := by
  induction moves generalizing opens s with
  | nil => simp [walk]
  | cons move moves ih =>
      obtain ⟨hmade, hrest⟩ := List.forall_mem_cons.mp hG
      have hnext := hstep move opens s h hmade
      intro m hm
      rcases List.mem_cons.mp hm with rfl | hm
      · exact ⟨s, rfl, h, hnext⟩
      · exact ih hnext hrest m hm

/-- An entering that fails changes neither the nodes in scope nor the open uses. -/
theorem failed_enter {entry : ScopedEntry} {opens : List (OpenUse ν)} {s : Session δ ν τ}
    (hf : ((Move.enter entry).made E opens s).failure ≠ none) :
    ((Move.enter entry).made E opens s).after = scopes s ∧
      ((Move.enter entry).made E opens s).opensAfter = opens := by
  rcases made_enter E entry opens s with ⟨-, hnode, hafter⟩ | ⟨node, hnone, -, -⟩
  · refine ⟨hafter, ?_⟩
    unfold Moved.opensAfter
    rw [hnode]
    rfl
  · exact absurd hnone hf

/-- **Called and entered entries agree, and entries are re-entrant.** A use of an entry around a block is the call of the
entry with that block: from every session the same value or failure, and the same session in every part of it, the
engine's state included.

In a walk in which a move that leaves an entry always finds one of its uses open, after every move, whatever it ended
with, there is one more node in scope for each open use than before the walk, and each entry's own record holds the
nodes of its open uses. An entering that fails changes neither. If it is always the latest use that is closed first, no
leaving fails, and each brings back the very nodes that were in scope before the entering it belongs to. -/
theorem entries_agree :
    (∀ {α : Type} (entry : ScopedEntry) (block : ν → Program δ ν τ α), (∀ n, (block n).AllDeeds Deed.Blind) →
      ∀ s, (Program.use entry block).run E s = (Program.call entry block).run E s) ∧
    ∀ (moves : List Move) (s : Session δ ν τ),
      ((∀ m ∈ walk E moves [] s, m.Paired) → ∀ m ∈ walk E moves [] s,
        m.after.1.length = s.frames.length + m.opensAfter.length ∧
        ∀ i, m.after.2 i = (m.opensAfter.filter (·.entry.serial == i)).map (·.node) ++ s.entered i) ∧
      (∀ m ∈ walk E moves [] s, ∀ entry, m.move = .enter entry → m.failure ≠ none →
        m.after = m.before ∧ m.opensAfter = m.opens) ∧
      ((∀ m ∈ walk E moves [] s, m.Nested) → ∀ m ∈ walk E moves [] s, ∀ entry, m.move = .exit entry →
        m.failure = none ∧ ∃ u rest, m.opens = u :: rest ∧ m.opensAfter = rest ∧ m.after.1 = u.under) := by
  refine ⟨fun entry block hb s => ?_, fun moves s => ⟨fun hpaired m hm => ?_, fun m hm entry hmove hf => ?_,
    fun hnested m hm entry hmove => ?_⟩⟩
  · show entry.use E (fun n => (block n).run E) s = entry.call E (fun n => (block n).run E) s
    rw [use_eq_call E entry fun n => Program.blind E (hb n)]
  · have hstart : Held (scopes s) [] (scopes s) := ⟨rfl, fun _ => rfl⟩
    obtain ⟨s', hmade, -, hafter⟩ := walk_keeps E (I := fun opens s' => Held (scopes s) opens (scopes s'))
      (fun move opens s' h hp => h.made E move hp) moves hstart hpaired m hm
    have heq : m.after = scopes (stateOf (m.move.run E s')) := congrArg Moved.after hmade
    rw [heq]
    exact ⟨hafter.depth, hafter.uses⟩
  · obtain ⟨s', hmade, -, -⟩ := walk_keeps E (I := fun _ _ => True) (G := fun _ => True)
      (fun _ _ _ _ _ => trivial) moves trivial (fun _ _ => trivial) m hm
    rw [hmove] at hmade
    rw [hmade] at hf ⊢
    exact failed_enter E hf
  · have hstart : Held (scopes s) [] (scopes s) ∧ Stacked s.frames [] s.frames := ⟨⟨rfl, fun _ => rfl⟩, rfl⟩
    have hstep (move : Move) (opens : List (OpenUse ν)) (s' : Session δ ν τ)
        (h : Held (scopes s) opens (scopes s') ∧ Stacked s.frames opens s'.frames) (hn : (move.made E opens s').Nested) :
        Held (scopes s) (move.made E opens s').opensAfter (scopes (stateOf (move.run E s'))) ∧
          Stacked s.frames (move.made E opens s').opensAfter (stateOf (move.run E s')).frames :=
      ⟨h.1.made E move hn.paired, Stacked.made E h.1 h.2 move hn⟩
    obtain ⟨s', hmade, ⟨hheld, hstacked⟩, -⟩ := walk_keeps E
      (I := fun opens s' => Held (scopes s) opens (scopes s') ∧ Stacked s.frames opens s'.frames)
      hstep moves hstart hnested m hm
    have hn := hnested m hm
    rw [hmove] at hmade
    rw [hmade] at hn ⊢
    obtain ⟨u, rest, hopens, hafter, hends, hunder, -⟩ := Stacked.exit E hheld hstacked hn
    exact ⟨hends, u, rest, hopens, hafter, hunder⟩

/-- An engine that has two pages. -/
def twoPages : Engine (Array Tabled.Call) String := Tabled.engine ⟨[], [("u", "a"), ("v", "b")], []⟩

/-- An entry for the page at an address. -/
def pageEntry (serial : Nat) (url : String) : ScopedEntry := ⟨serial, ⟨serial, .page (some url)⟩⟩

/-- A block that uses an entry again and fails in there. -/
def failAgain (_ : String) : Program.Bare Unit := .use (pageEntry 0 "u") fun _ => .raise (.block "stop")

/-- The first entry is entered twice with the second one between; a third one has no page; then the second one is left
before the later use of the first. -/
def crossed : List Move :=
  [.enter (pageEntry 0 "u"), .enter (pageEntry 1 "v"), .enter (pageEntry 2 "w"), .enter (pageEntry 0 "u"),
    .exit (pageEntry 1 "v"), .exit (pageEntry 0 "u"), .exit (pageEntry 0 "u")]

theorem entries_agree_crossed :
    (∀ n, (failAgain n).AllDeeds Deed.Blind) ∧
    (Program.use (pageEntry 0 "u") failAgain).run twoPages (Program.bareSession ["r"]) =
      (Program.call (pageEntry 0 "u") failAgain).run twoPages (Program.bareSession ["r"]) ∧
    (stateOf ((Program.use (pageEntry 0 "u") failAgain).run twoPages (Program.bareSession ["r"]))).desk.device =
      #[["load_document", "u"], ["load_document", "u"]] ∧
    (∀ m ∈ walk twoPages crossed [] (Program.bareSession ["r"]), m.Paired) ∧
    (∀ m ∈ walk twoPages crossed [] (Program.bareSession ["r"]), m.after.1.length = 1 + m.opensAfter.length) ∧
    (walk twoPages crossed [] (Program.bareSession ["r"])).map (fun m => (m.after.1, m.failure)) =
      [(["a", "r"], none), (["b", "a", "r"], none), (["b", "a", "r"], some (.navigation (.untabled "w"))),
        (["a", "b", "a", "r"], none), (["b", "a", "r"], some (.stackImbalance (.foreign "'b'" "'a'"))),
        (["a", "r"], some (.stackImbalance (.foreign "'a'" "'b'"))), (["r"], none)] ∧
    (∀ m ∈ walk twoPages (crossed.take 2 ++ [.exit (pageEntry 1 "v")]) [] (Program.bareSession ["r"]), m.Nested) ∧
    ∀ m ∈ walk twoPages (crossed.take 2 ++ [.exit (pageEntry 1 "v")]) [] (Program.bareSession ["r"]),
      ∀ entry, m.move = .exit entry → m.failure = none := by
  obtain ⟨hsame, hwalk⟩ := @entries_agree _ _ Unit _ twoPages
  have hblind : ∀ n, (failAgain n).AllDeeds Deed.Blind := fun _ _ => trivial
  have hpaired : ∀ m ∈ walk twoPages crossed [] (Program.bareSession ["r"]), m.Paired := by decide
  have hnested : ∀ m ∈ walk twoPages (crossed.take 2 ++ [.exit (pageEntry 1 "v")]) [] (Program.bareSession ["r"]),
      m.Nested := by decide
  obtain ⟨hdepth, -, -⟩ := hwalk crossed (Program.bareSession ["r"])
  obtain ⟨-, -, hends⟩ := hwalk (crossed.take 2 ++ [.exit (pageEntry 1 "v")]) (Program.bareSession ["r"])
  refine ⟨hblind, hsame (pageEntry 0 "u") failAgain hblind _, by decide, hpaired, fun m hm => (hdepth hpaired m hm).1,
    by decide, hnested, fun m hm entry hmove => (hends hnested m hm entry hmove).1⟩

end Crawl.Session
