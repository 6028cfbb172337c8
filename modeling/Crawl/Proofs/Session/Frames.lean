import Mathlib.Data.List.Nodup
import Crawl.Proofs.Session.Balance
import Crawl.Proofs.Session.Depth
/-!
# Frames

One node can be in scope several times, so a list of nodes does not say which of its entries a removal has taken. A
frame is one such entry: the node together with a serial number that no other entry gets. Replaying a history on frames
tells the entries apart without changing what the history does to the nodes.
-/

namespace Crawl.Session

variable {δ ν τ α β : Type}

/-- An entry of the list of nodes in scope. -/
structure Frame (ν : Type) where
  serial : Nat
  node : ν
  deriving DecidableEq

/-- The frames of the nodes that are in scope before a run. -/
def numbered (l : List ν) : List (Frame ν) := l.zipIdx.map fun p => ⟨p.2, p.1⟩

@[simp]
theorem numbered_node (l : List ν) : (numbered l).map Frame.node = l := by
  rw [numbered, List.map_map]
  exact List.zipIdx_map_fst 0 l

theorem numbered_serial (l : List ν) : (numbered l).map Frame.serial = List.range' 0 l.length := by
  rw [numbered, List.map_map]
  exact List.zipIdx_map_snd 0 l

/-- The same exit with other things for the nodes. -/
def Exit.map (f : α → β) (x : Exit α) : Exit β where
  node := f x.node
  under := x.under.map f
  before := x.before.map f
  after := x.after.map f
  block := x.block
  failure := x.failure
  outcome := x.outcome

/-- The same exit, given which frames the nodes were. -/
def Exit.onFrames (x : Exit ν) (own : Frame ν) (under before : List (Frame ν)) : Exit (Frame ν) where
  node := own
  under := under
  before := before
  after := before.tail
  block := x.block
  failure := x.failure
  outcome := x.outcome

namespace History

/-- The same history with other things for the nodes. -/
def map (f : α → β) : History α → History β
  | .done => .done
  | .failed g r => .failed g (r.map f)
  | .endPush n r => .endPush (f n) (r.map f)
  | .scope x i r => .scope (x.map f) (i.map f) (r.map f)
  | .current x i r => .current (x.map f) (i.map f) (r.map f)

/-- What was pushed, at the front or at the tail, in order. -/
def pushed : History α → List α
  | .done => []
  | .failed _ r => r.pushed
  | .endPush n r => n :: r.pushed
  | .scope x i r => x.node :: (i.pushed ++ r.pushed)
  | .current _ i r => i.pushed ++ r.pushed

/-- A history on frames, and the frames in scope after it. -/
structure Replay (ν : Type) where
  history : History (Frame ν)
  frames : List (Frame ν)

/-- Replays a history on frames: every push makes a frame of its own, with serial numbers from `k` on. -/
def replay : History ν → (k : Nat) → List (Frame ν) → Replay ν
  | .done, _, l => ⟨.done, l⟩
  | .failed f r, k, l =>
    let rest := r.replay k l
    ⟨.failed f rest.history, rest.frames⟩
  | .endPush n r, k, l =>
    let rest := r.replay (k + 1) (l ++ [⟨k, n⟩])
    ⟨.endPush ⟨k, n⟩ rest.history, rest.frames⟩
  | .scope x i r, k, l =>
    let inner := i.replay (k + 1) (⟨k, x.node⟩ :: l)
    let rest := r.replay (k + 1 + i.pushed.length) inner.frames.tail
    ⟨.scope (x.onFrames ⟨k, x.node⟩ l inner.frames) inner.history rest.history, rest.frames⟩
  | .current x i r, k, l =>
    -- no push: the block is handed the frame in front, which is there in every history that leads from these frames
    let inner := i.replay k l
    let rest := r.replay (k + i.pushed.length) inner.frames.tail
    ⟨.current (x.onFrames (l.headD ⟨k, x.node⟩) l.tail inner.frames) inner.history rest.history, rest.frames⟩

/-- A history on frames, from the nodes in scope before it. -/
def onFrames (t : History ν) (l : List ν) : History (Frame ν) := (t.replay l.length (numbered l)).history

/-! ## Replaying does what the history does -/

/-- Without the serial numbers a replay is the history again, and it moves the frames the way the history moves the
nodes. -/
theorem Leads.replay {t : History ν} {l l' : List ν} (h : t.Leads l l') (k : Nat) {fs : List (Frame ν)}
    (hfs : fs.map Frame.node = l) :
    (t.replay k fs).history.map Frame.node = t ∧ (t.replay k fs).history.Leads fs (t.replay k fs).frames ∧
      (t.replay k fs).frames.map Frame.node = l' := by
  induction h generalizing k fs with
  | done l => exact ⟨rfl, .done fs, hfs⟩
  | failed f rest ih =>
      obtain ⟨hmap, hleads, hframes⟩ := ih k hfs
      exact ⟨congrArg (History.failed f) hmap, .failed f hleads, hframes⟩
  | @endPush n r l l' rest ih =>
      have hpush : (fs ++ [(⟨k, n⟩ : Frame ν)]).map Frame.node = l ++ [n] := by
        rw [List.map_append, hfs, List.map_cons, List.map_nil]
      obtain ⟨hmap, hleads, hframes⟩ := ih (k + 1) hpush
      exact ⟨congrArg (History.endPush n) hmap, .endPush _ hleads, hframes⟩
  | @scope x i r l' inner pop rest ihi ihr =>
      have hpush : ((⟨k, x.node⟩ : Frame ν) :: fs).map Frame.node = x.node :: x.under := by
        rw [List.map_cons, hfs]
      obtain ⟨hmapi, hleadsi, hframesi⟩ := ihi (k + 1) hpush
      have htail : (i.replay (k + 1) (⟨k, x.node⟩ :: fs)).frames.tail.map Frame.node = x.after := by
        rw [List.map_tail, hframesi, pop]
      obtain ⟨hmapr, hleadsr, hframesr⟩ := ihr (k + 1 + i.pushed.length) htail
      -- the exit on frames is given by its frames, so that it maps to the old one has to be read off field by field
      refine ⟨?_, .scope (x := x.onFrames ⟨k, x.node⟩ fs _) hleadsi rfl hleadsr, hframesr⟩
      simp only [History.replay, map, Exit.map, Exit.onFrames, hfs, hframesi, htail, hmapi, hmapr]
  | @current x i r l' inner pop rest ihi ihr =>
      obtain ⟨own, under, rfl, hown, hunder⟩ := List.map_eq_cons_iff.mp hfs
      obtain ⟨hmapi, hleadsi, hframesi⟩ := ihi k hfs
      have htail : (i.replay k (own :: under)).frames.tail.map Frame.node = x.after := by
        rw [List.map_tail, hframesi, pop]
      obtain ⟨hmapr, hleadsr, hframesr⟩ := ihr (k + i.pushed.length) htail
      refine ⟨?_, .current (x := x.onFrames own under _) hleadsi rfl hleadsr, hframesr⟩
      simp only [History.replay, map, Exit.map, Exit.onFrames, List.headD_cons, List.tail_cons, hown, hunder, hframesi,
        htail, hmapi, hmapr]

theorem onFrames_map {t : History ν} {l l' : List ν} (h : t.Leads l l') : (t.onFrames l).map Frame.node = t :=
  (h.replay l.length (numbered_node l)).1

theorem onFrames_leads {t : History ν} {l l' : List ν} (h : t.Leads l l') :
    ∃ fs, (t.onFrames l).Leads (numbered l) fs :=
  ⟨_, (h.replay l.length (numbered_node l)).2.1⟩

/-- The serial numbers of a replay are handed out one after the other. -/
theorem replay_serial (t : History ν) (k : Nat) (fs : List (Frame ν)) :
    (t.replay k fs).history.pushed.map Frame.serial = List.range' k t.pushed.length := by
  induction t generalizing k fs with
  | done => rfl
  | failed f r ih => exact ih k fs
  | endPush n r ih =>
      have hrest := ih (k + 1) (fs ++ [⟨k, n⟩])
      simp only [replay, pushed, List.map_cons, hrest, List.length_cons, List.range'_succ]
  | scope x i r ihi ihr =>
      have hinner := ihi (k + 1) (⟨k, x.node⟩ :: fs)
      have hrest := ihr (k + 1 + i.pushed.length) (i.replay (k + 1) (⟨k, x.node⟩ :: fs)).frames.tail
      simp only [replay, pushed, Exit.onFrames, List.map_cons, List.map_append, hinner, hrest, List.length_cons,
        List.length_append, List.range'_succ, List.range'_append_1]
  | current x i r ihi ihr =>
      have hinner := ihi k fs
      have hrest := ihr (k + i.pushed.length) (i.replay k fs).frames.tail
      simp only [replay, pushed, List.map_append, hinner, hrest, List.length_append, List.range'_append_1]

/-- No two frames of a run are the same, be it one from before or a pushed one. -/
theorem onFrames_nodup (t : History ν) (l : List ν) : (numbered l ++ (t.onFrames l).pushed).Nodup := by
  apply List.Nodup.of_map Frame.serial
  rw [List.map_append, numbered_serial, onFrames, replay_serial]
  have happend := List.range'_append_1 (s := 0) (m := l.length) (n := t.pushed.length)
  rw [Nat.zero_add] at happend
  rw [happend]
  exact List.nodup_range'

/-! ## Reading a replay as the history -/

@[simp]
theorem begun_map (f : α → β) (t : History α) : (t.map f).begun = t.begun.map f := by
  induction t with
  | done => rfl
  | failed g r ih => exact ih
  | endPush n r ih => exact ih
  | scope x i r ihi ihr => simp only [map, begun, ihi, ihr, List.map_append]
  | current x i r ihi ihr => simp only [map, begun, Exit.map, ihi, ihr, List.map_cons, List.map_append]

theorem scopes_map (f : α → β) (t : History α) : (t.map f).scopes = t.scopes.map fun p => (p.1.map f, p.2.map f) := by
  induction t with
  | done => rfl
  | failed g r ih => exact ih
  | endPush n r ih => exact ih
  | scope x i r ihi ihr => simp only [map, scopes, ihi, ihr, List.map_cons, List.map_append]
  | current x i r ihi ihr => simp only [map, scopes, ihi, ihr, List.map_append]

theorem currents_map (f : α → β) (t : History α) :
    (t.map f).currents = t.currents.map fun p => (p.1.map f, p.2.map f) := by
  induction t with
  | done => rfl
  | failed g r ih => exact ih
  | endPush n r ih => exact ih
  | scope x i r ihi ihr => simp only [map, currents, ihi, ihr, List.map_append]
  | current x i r ihi ihr => simp only [map, currents, ihi, ihr, List.map_cons, List.map_append]

/-! ## Whose frame a block removes -/

theorem queued_sublist_pushed (t : History α) : t.queued.Sublist t.pushed := by
  induction t with
  | done => exact .slnil
  | failed f r ih => exact ih
  | endPush n r ih => exact ih.cons_cons n
  | scope x i r ihi ihr => exact (ihi.append ihr).cons x.node
  | current x i r ihi ihr => exact ihi.append ihr

/-- Nothing comes into scope but by being put behind all others: what scopes push is gone when they are left, or has
been taken for something else that is gone instead. -/
theorem Leads.sublist {t : History α} {l l' : List α} (h : t.Leads l l') : l'.Sublist (l ++ t.queued) := by
  induction h with
  | done l => exact List.sublist_append_left l _
  | failed f rest ih => exact ih
  | endPush n rest ih =>
      rw [List.append_assoc, List.singleton_append] at ih
      exact ih
  | @scope x i r l' inner pop rest ihi ihr =>
      have hafter : x.after.Sublist (x.under ++ i.queued) := by
        rw [pop]
        exact ihi.tail
      rw [queued, ← List.append_assoc]
      exact ihr.trans (hafter.append_right _)
  | @current x i r l' inner pop rest ihi ihr =>
      have hafter : x.after.Sublist (x.node :: x.under ++ i.queued) := by
        rw [pop]
        exact (List.tail_sublist _).trans ihi
      rw [queued, ← List.append_assoc]
      exact ihr.trans (hafter.append_right _)

/-- When all that is ever in scope is different, so is what a block was handed, what was under it and what was put
behind all others while it ran. -/
theorem Leads.block_nodup {t : History α} {l l' : List α} (h : t.Leads l l') (hd : (l ++ t.pushed).Nodup)
    {p : Exit α × History α} (hp : p ∈ t.blocks) : (p.1.node :: p.1.under ++ p.2.queued).Nodup := by
  induction h with
  | done l => cases hp
  | failed f rest ih => exact ih hd hp
  | endPush n rest ih =>
      refine ih ?_ hp
      rw [List.append_assoc, List.singleton_append]
      exact hd
  | @scope x i r l' inner pop rest ihi ihr =>
      -- the scope's node is the first of what was pushed: in front of the rest it makes the list its block starts from
      have hown : (x.node :: x.under ++ (i.pushed ++ r.pushed)).Nodup := List.nodup_middle.mp hd
      have hinner : (x.node :: x.under ++ i.pushed).Nodup :=
        hown.sublist ((List.sublist_append_left _ _).append_left _)
      have hafter : x.after.Sublist (x.node :: x.under ++ i.pushed) := by
        rw [pop]
        exact (List.tail_sublist _).trans (inner.sublist.trans (i.queued_sublist_pushed.append_left _))
      rw [← List.append_assoc] at hown
      rcases mem_blocks_scope.mp hp with hp | rfl | hp
      · exact ihi hinner hp
      · exact hinner.sublist (i.queued_sublist_pushed.append_left _)
      · exact ihr (hown.sublist (hafter.append_right _)) hp
  | @current x i r l' inner pop rest ihi ihr =>
      have hinner : (x.node :: x.under ++ i.pushed).Nodup :=
        hd.sublist ((List.sublist_append_left _ _).append_left _)
      have hafter : x.after.Sublist (x.node :: x.under ++ i.pushed) := by
        rw [pop]
        exact (List.tail_sublist _).trans (inner.sublist.trans (i.queued_sublist_pushed.append_left _))
      rw [pushed, ← List.append_assoc] at hd
      rcases mem_blocks_current.mp hp with hp | rfl | hp
      · exact ihi hinner hp
      · exact hinner.sublist (i.queued_sublist_pushed.append_left _)
      · exact ihr (hd.sublist (hafter.append_right _)) hp

/-- A block that finds in front what it was handed, although blocks on the current scope have begun in it, finds
something that was under it or was put behind all others meanwhile. -/
theorem Leads.head_mem {t : History α} {l l' : List α} (h : t.Leads l l') (hne : ∀ p ∈ t.blocks, p.1.before ≠ [])
    {p : Exit α × History α} (hp : p ∈ t.blocks) (hb : p.2.begun ≠ []) {n : α} (hn : p.1.before.head? = some n) :
    n ∈ p.1.under ++ p.2.queued := by
  have hshift := (h.block_shifted hne hp).eq
  obtain ⟨k, hk⟩ := Nat.exists_eq_succ_of_ne_zero (mt List.length_eq_zero_iff.mp hb)
  rw [hk, List.cons_append, List.drop_succ_cons] at hshift
  have hmem : n ∈ p.1.before := List.mem_of_mem_head? hn
  rw [hshift] at hmem
  exact List.mem_of_mem_drop hmem

/-- **A block removes the very frame it was handed exactly when no block on the current scope began inside it.** -/
theorem Leads.own_iff {t : History α} {l l' : List α} (h : t.Leads l l') (hd : (l ++ t.pushed).Nodup)
    (hne : ∀ p ∈ t.blocks, p.1.before ≠ []) {p : Exit α × History α} (hp : p ∈ t.blocks) :
    p.1.Own ↔ p.2.begun = [] := by
  refine ⟨fun hown => ?_, h.own hp⟩
  by_contra hb
  rw [Exit.Own] at hown
  -- otherwise its frame is in scope again at the end, from under it or behind it, that is a second time
  have hmem := h.head_mem hne hp hb (by rw [hown, List.head?_cons])
  have hnot := List.nodup_cons.mp (h.block_nodup hd hp)
  exact hnot.1 hmem

/-! ## What goes unreported -/

/-- No imbalance came up in the run, caught later or not. -/
def Quiet (t : History α) : Prop := ∀ f ∈ t.raised, f.kind ≠ .stackImbalance

instance (t : History α) : Decidable t.Quiet := inferInstanceAs (Decidable (∀ f ∈ t.raised, f.kind ≠ .stackImbalance))

/-- No scope is entered on a node that is in scope already, and none has its node put behind all others while it is
open. -/
def Fresh (t : History α) : Prop := ∀ p ∈ t.scopes, p.1.node ∉ p.1.under ∧ p.1.node ∉ p.2.queued

instance [DecidableEq α] (t : History α) : Decidable t.Fresh :=
  inferInstanceAs (Decidable (∀ p ∈ t.scopes, p.1.node ∉ p.1.under ∧ p.1.node ∉ p.2.queued))

variable {t : History α} {l l' : List α} {p : Exit α × History α}

theorem mem_blocks_of_scopes (hp : p ∈ t.scopes) : p ∈ t.blocks := List.mem_append_left _ hp

theorem mem_blocks_of_currents (hp : p ∈ t.currents) : p ∈ t.blocks := List.mem_append_right _ hp

/-- In a quiet run every removal at the end of a scope found the scope's node in front. -/
theorem Lawful.quiet_scope (h : t.Lawful l l') (hq : t.Quiet) (hp : p ∈ t.scopes) :
    p.1.before.head? = some p.1.node := by
  have hfair := h.scopes p hp
  refine hfair.ends.mp ?_
  -- a failed removal is an imbalance, and none came up
  cases hf : p.1.failure with
  | none => rfl
  | some f => exact absurd (hfair.imbalance f hf) (hq f (mem_raised (mem_blocks_of_scopes hp) hf))

/-- In a quiet run there was always something to remove. -/
theorem Lawful.quiet_ne_nil (h : t.Lawful l l') (hq : t.Quiet) (hp : p ∈ t.blocks) : p.1.before ≠ [] := by
  intro hnil
  have hf := (h.empty_iff hp).mpr hnil
  exact hq _ (mem_raised hp hf) rfl

/-- **In a quiet run with fresh nodes no block on the current scope begins inside a scope.** It would have left another
node than the scope's in front. -/
theorem Lawful.scope_begun_nil (h : t.Lawful l l') (hq : t.Quiet) (hfresh : t.Fresh) (hp : p ∈ t.scopes) :
    p.2.begun = [] := by
  by_contra hb
  have hmem := h.leads.head_mem (fun q hq' => h.quiet_ne_nil hq hq') (mem_blocks_of_scopes hp) hb
    (h.quiet_scope hq hp)
  exact (List.mem_append.mp hmem).elim (hfresh p hp).1 (hfresh p hp).2

end History

namespace Program

variable [DecidableEq ν] (E : Engine δ ν)

/-- **Which frames the blocks of a quiet run remove.** At the end of a scope one frame is removed, and it holds the very
node that the scope was entered with; at the end of a block on the current scope one frame is removed. Either is the
very frame that the block was handed exactly when no block on the current scope began inside it. That never happens
inside a scope when nodes are fresh, so there a block on the current scope that takes the frame of an open scope is
always reported. -/
theorem removed_frames (m : Program δ ν τ α) (s : Session δ ν τ) (hq : (m.history E s).Quiet) :
    (∀ p ∈ ((m.history E s).onFrames s.frames).scopes, ∃ f, p.1.before = f :: p.1.after ∧ f.node = p.1.node.node) ∧
    (∀ p ∈ ((m.history E s).onFrames s.frames).currents, ∃ f, p.1.before = f :: p.1.after) ∧
    (∀ p ∈ ((m.history E s).onFrames s.frames).blocks, p.1.Own ↔ p.2.begun = []) ∧
    ((m.history E s).Fresh → ∀ p ∈ ((m.history E s).onFrames s.frames).scopes, p.1.Own ∧ p.2.begun = []) := by
  have hlaw := m.lawful E s
  generalize m.history E s = t at hlaw hq
  generalize s.frames = l at hlaw
  obtain ⟨fs, hleads⟩ := History.onFrames_leads hlaw.leads
  have hmap := History.onFrames_map hlaw.leads
  -- what holds of the nodes of a block is read off the history, of which the replay is a copy
  have hscope : ∀ p ∈ (t.onFrames l).scopes, (p.1.map Frame.node, p.2.map Frame.node) ∈ t.scopes := by
    intro p hp
    rw [← hmap, History.scopes_map]
    exact List.mem_map_of_mem hp
  have hcurrent : ∀ p ∈ (t.onFrames l).currents, (p.1.map Frame.node, p.2.map Frame.node) ∈ t.currents := by
    intro p hp
    rw [← hmap, History.currents_map]
    exact List.mem_map_of_mem hp
  have hne : ∀ p ∈ (t.onFrames l).blocks, p.1.before ≠ [] := by
    intro p hp hnil
    have hbefore : (p.1.map Frame.node).before = [] := congrArg (List.map Frame.node) hnil
    rcases List.mem_append.mp hp with hp | hp
    · exact hlaw.quiet_ne_nil hq (History.mem_blocks_of_scopes (hscope p hp)) hbefore
    · exact hlaw.quiet_ne_nil hq (History.mem_blocks_of_currents (hcurrent p hp)) hbefore
  have hown : ∀ p ∈ (t.onFrames l).blocks, p.1.Own ↔ p.2.begun = [] :=
    fun p hp => hleads.own_iff (t.onFrames_nodup l) hne hp
  refine ⟨fun p hp => ?_, fun p hp => ?_, hown, fun hfresh p hp => ?_⟩
  · obtain ⟨f, hf⟩ := hleads.exists_removed (History.mem_blocks_of_scopes hp) (hne p (History.mem_blocks_of_scopes hp))
    have hhead : (p.1.before.map Frame.node).head? = some p.1.node.node := hlaw.quiet_scope hq (hscope p hp)
    refine ⟨f, hf, ?_⟩
    rw [hf, List.map_cons, List.head?_cons] at hhead
    exact Option.some.inj hhead
  · exact hleads.exists_removed (History.mem_blocks_of_currents hp) (hne p (History.mem_blocks_of_currents hp))
  · have hbegun := hlaw.scope_begun_nil hq hfresh (hscope p hp)
    rw [History.begun_map, List.map_eq_nil_iff] at hbegun
    exact ⟨(hown p (History.mem_blocks_of_scopes hp)).mpr hbegun, hbegun⟩

/-- A visit to one page queues another one; at top level, a block on the current scope runs inside another. -/
def visitThenNest : Bare Unit :=
  .bind (page "a") fun p => .bind (page "b") fun q => .bind (inside p fun _ => .endPush q) fun _ =>
    .onCurrent fun _ => .onCurrent fun _ => .pure ()

theorem removed_frames_visitThenNest :
    (visitThenNest.history bareEngine (bareSession ["r"])).Quiet ∧
    (visitThenNest.history bareEngine (bareSession ["r"])).Fresh ∧
    (∀ p ∈ ((visitThenNest.history bareEngine (bareSession ["r"])).onFrames ["r"]).scopes,
      p.1.Own ∧ p.2.begun = []) ∧
    (∀ p ∈ ((visitThenNest.history bareEngine (bareSession ["r"])).onFrames ["r"]).blocks,
      p.1.Own ↔ p.2.begun = []) ∧
    ((visitThenNest.history bareEngine (bareSession ["r"])).onFrames ["r"]).currents.map (·.1.before) =
      [[⟨0, "r"⟩, ⟨2, "b"⟩], [⟨2, "b"⟩]] := by
  have hq : (visitThenNest.history bareEngine (bareSession ["r"])).Quiet := by decide
  have hfresh : (visitThenNest.history bareEngine (bareSession ["r"])).Fresh := by decide
  obtain ⟨-, -, hown, hscopes⟩ := removed_frames bareEngine visitThenNest (bareSession ["r"]) hq
  exact ⟨hq, hfresh, hscopes hfresh, hown, by decide⟩

/-- Inside the scope of a page, the same page is put behind all others, and the current scope is dropped. -/
def swapFrames : Bare Unit :=
  .bind (page "a") fun p => inside p fun _ => .bind (.endPush p) fun _ => .onCurrent fun _ => .pure ()

/-- Two pages are queued, and a block on the first of them runs another block on it. -/
def nestBlocks : Bare Unit :=
  .bind (page "a") fun p => .bind (page "b") fun q => .bind (.endPush p) fun _ => .bind (.endPush q) fun _ =>
    .onCurrent fun _ => .onCurrent fun _ => .pure ()

/-- In a quiet run a scope can be left by removing another frame than its own, and so can a block on the current
scope. -/
theorem quiet_not_own :
    ((swapFrames.history bareEngine (bareSession [])).Quiet ∧
      ∃ p ∈ ((swapFrames.history bareEngine (bareSession [])).onFrames []).scopes, ¬ p.1.Own) ∧
    ((nestBlocks.history bareEngine (bareSession [])).Quiet ∧
      ∃ p ∈ ((nestBlocks.history bareEngine (bareSession [])).onFrames []).currents, ¬ p.1.Own) := by
  decide

end Program

end Crawl.Session
