import Crawl.Proofs.Static.Blanked
import Crawl.Proofs.Static.Lookup
/-!
# Documents and their pages

Every page that is loaded is a page by itself, also when its address was loaded before, so two documents that were opened
are never the same (`Opens.not_same`). What is found from a document, by however many queries, is a row of its page or a
handle to it, and the document that such a node belongs to is that document again (`Belongs.owner`).
-/

namespace Crawl.Static

open Crawl.Action (Keeps bind_ok bind_error read_eq)

variable {s s' : State} {k l : Nat} {d d' : Desk State} {n m D : Node}

/-! ## Documents that are opened -/

/-- A document is opened: an address is loaded, or a link or a form leads to a page that is loaded then. -/
inductive Opens (d : Desk State) (D : Node) (d' : Desk State) : Prop
  | loading {url : String} (loads : engine.loadDocument url d = .ok D d')
  | activating {n : Node} (leads : engine.activate n d = .ok D d') (grows : d.device.loaded.size < d'.device.loaded.size)

/-- A page was added, and a document is a handle to it. -/
def AddsPage (s : State) (D : Node) (s' : State) : Prop :=
  ∃ i u, D = .document i s.loaded.size u ∧ s'.loaded.size = s.loaded.size + 1 ∧ s'.baseOf s.loaded.size = recorded u

theorem place_adds {fetched : String × String} (h : place fetched d = .ok D d') : AddsPage d.device D d'.device := by
  unfold place at h
  cases hparse : Html.parse fetched.1 with
  | error e =>
      rw [hparse] at h
      cases h
  | ok tree =>
      rw [hparse] at h
      cases h
      refine ⟨_, _, rfl, Array.size_push _, ?_⟩
      unfold State.baseOf
      simp

theorem keeps_fetch (url : String) (data : Option (List (String × String))) :
    Keeps (·.device.loaded) (fetch url data) := by
  intro d
  have hrest (s : State) (client : Client) (handles : Nat) :
      (fun s : State => s.loaded = d.device.loaded) s →
        (fun s : State => s.loaded = d.device.loaded) { s with client, handles } := id
  exact stays_fetch hrest url data d rfl

theorem load_adds {url : String} {data : Option (List (String × String))} (h : load url data d = .ok D d') :
    AddsPage d.device D d'.device := by
  rw [load_eq] at h
  have hkeeps := keeps_fetch url data d
  cases hfetch : fetch url data d with
  | error g d₁ =>
      rw [bind_error hfetch] at h
      cases h
  | ok fetched d₁ =>
      -- nothing was added while fetching, so the page gets the number that was next before
      rw [hfetch] at hkeeps
      have hloaded : d₁.device.loaded = d.device.loaded := hkeeps
      rw [bind_ok hfetch] at h
      have hadds := place_adds h
      unfold AddsPage at hadds ⊢
      rw [← hloaded]
      exact hadds

/-- An activation that adds a page leads to that page. -/
theorem activate_adds (h : activate n d = .ok D d') (hgrows : d.device.loaded.size < d'.device.loaded.size) :
    AddsPage d.device D d'.device := by
  cases n with
  | document i l url => cases h
  | element l i =>
      cases hbase : d.device.baseOf l with
      | none =>
          rw [activate, bind_error (ownerDocument_detached hbase)] at h
          cases h
      | some base =>
          cases hrow : (d.device.tree l)[i]? with
          | none =>
              have hstay : activate (.element l i) d = _ := activate_noRow hbase hrow
              rw [hstay] at h
              cases h
              exact absurd hgrows (Nat.lt_irrefl _)
          | some r =>
              obtain ⟨j, hgoes⟩ := activate_goes (j := d.journal) hbase hrow
              have hgoes' : activate (.element l i) d = _ := hgoes
              rw [hgoes'] at h
              rcases hdest : destination base (d.device.tree l) i r with e | _ | ⟨address, data⟩
              · rw [hdest] at h
                cases h
              · -- staying on a page gives out a handle, but adds no page
                rw [hdest] at h
                cases h
                exact absurd hgrows (Nat.lt_irrefl _)
              · rw [hdest] at h
                exact load_adds (d := ⟨d.device.handed, j⟩) h

/-- Whatever is opened is a page that was added. -/
theorem Opens.adds (h : Opens d D d') : AddsPage d.device D d'.device := by
  cases h with
  | loading loads => exact load_adds loads
  | activating leads grows => exact activate_adds leads grows

/-- Opening a document is a call to the engine, so what lasts holds afterwards. -/
theorem Opens.lasting {holds : State → Prop} (h : Lasting holds) (hopens : Opens d D d') (hd : holds d.device) :
    holds d'.device := by
  cases hopens with
  | @loading url loads =>
      have hstays := h.perform (.loadDocument url) d hd
      have hperform : engine.perform (.loadDocument url) d = .ok D d' := loads
      rw [hperform] at hstays
      exact hstays
  | @activating n leads grows =>
      have hstays := h.perform (.activate n) d hd
      have hperform : engine.perform (.activate n) d = .ok D d' := leads
      rw [hperform] at hstays
      exact hstays

/-- **Two documents that were opened are not the same**, and be it that they were loaded under one address. -/
theorem Opens.not_same {d₁ d₂ d₃ : Desk State} {D' : Node} (hopens : Opens d D d₁)
    (hreach : engine.Reaches d₁.device d₂.device) (hopens' : Opens d₂ D' d₃) : engine.same D D' = false := by
  obtain ⟨i, u, rfl, hsize, -⟩ := hopens.adds
  obtain ⟨i', u', rfl, -, -⟩ := hopens'.adds
  have hgrown : d₁.device.loaded.size ≤ d₂.device.loaded.size :=
    Reaches.lasting (lasting_size_le d₁.device.loaded.size) hreach (Nat.le_refl _)
  have hne : d.device.loaded.size ≠ d₂.device.loaded.size := by omega
  exact beq_eq_false_iff_ne.mpr hne

/-! ## What is found from a document -/

/-- One query from a node leads to another node. -/
inductive Finds (n m : Node) (d d' : Desk State) : Prop
  | identifier {value : String} (found : engine.findByIdentifier n value d = .ok (some m) d')
  | name {value : String} (found : engine.findByName n value d = .ok (some m) d')
  | path {expression : String} {ms : List Node} (found : engine.findByPath n expression d = .ok ms d') (mem : m ∈ ms)
  | anchor {text : String} (found : engine.findAnchorByText n text d = .ok (some m) d')
  | owner (found : engine.ownerDocument n d = .ok m d')

/-- The nodes found from a document by queries that follow on one another, with the states they are found in; between two
queries the engine may be called in any way. -/
inductive Queried (D : Node) (s : State) : Node → State → Prop
  | document : Queried D s D s
  | later {n : Node} {s₁ s₂ : State} (before : Queried D s n s₁) (calls : engine.Reaches s₁ s₂) : Queried D s n s₂
  | query {n m : Node} {s₁ : State} {j : Journal} {d : Desk State} (before : Queried D s n s₁)
      (finds : Finds n m ⟨s₁, j⟩ d) : Queried D s m d.device

/-- What is found by an attribute is a row of the same page. -/
theorem findByAttr_ok {name value : String} (h : findByAttr name n value d = .ok (some m) d') :
    d' = d ∧ ∃ i, m = .element n.treeOf i := by
  obtain ⟨s, j⟩ := d
  rw [findByAttr_eq] at h
  by_cases hvalue : Text.isTreeText value
  · rw [if_pos hvalue] at h
    generalize List.find? _ _ = found at h
    cases found with
    | none => cases h
    | some p =>
        cases h
        exact ⟨rfl, _, rfl⟩
  · rw [if_neg hvalue] at h
    cases h

theorem findByPath_ok {expression : String} {ms : List Node} (h : findByPath n expression d = .ok ms d') (hm : m ∈ ms) :
    d' = d ∧ ∃ i, m = .element n.treeOf i := by
  unfold findByPath needTreeText at h
  by_cases hexpression : Text.isTreeText expression
  · rw [if_pos hexpression, pure_bind, bind_ok (read_eq _)] at h
    cases hselect : XPath.select (d.device.tree n.treeOf) (n.rowOf d.device) expression with
    | error e =>
        rw [hselect] at h
        cases h
    | ok rows =>
        rw [hselect] at h
        cases h
        obtain ⟨i, -, rfl⟩ := List.mem_map.mp hm
        exact ⟨rfl, i, rfl⟩
  · rw [if_neg hexpression] at h
    cases h

theorem findAnchorByText_ok {text : String} (h : findAnchorByText n text d = .ok (some m) d') :
    d' = d ∧ ∃ i, m = .element n.treeOf i := by
  rw [findAnchorByText, bind_ok (read_eq _)] at h
  generalize List.find? _ _ = found at h
  cases found with
  | none => cases h
  | some p =>
      cases h
      exact ⟨rfl, _, rfl⟩

/-- The document of an element is a new handle to its page, under the address recorded for it. -/
theorem ownerDocument_ok {i : Nat} (h : ownerDocument (.element l i) d = .ok m d') :
    ∃ base, d.device.baseOf l = some base ∧ m = .document d.device.handles l base ∧ d' = ⟨d.device.handed, d.journal⟩ := by
  cases hbase : d.device.baseOf l with
  | some base =>
      have howner : ownerDocument (.element l i) d = _ := ownerDocument_element hbase
      rw [howner] at h
      cases h
      exact ⟨base, rfl, rfl, rfl⟩
  | none =>
      rw [ownerDocument_detached hbase] at h
      cases h

/-- A query leads to a row of the same page, or to a handle to it under the address that was recorded. -/
theorem Finds.same_tree (h : Finds n m d d') :
    d'.device.loaded = d.device.loaded ∧
      ((∃ i, m = .element n.treeOf i) ∨ m = n ∨ ∃ i u, d.device.baseOf n.treeOf = some u ∧ m = .document i n.treeOf u) := by
  cases h with
  | identifier found =>
      obtain ⟨rfl, hm⟩ := findByAttr_ok found
      exact ⟨rfl, .inl hm⟩
  | name found =>
      obtain ⟨rfl, hm⟩ := findByAttr_ok found
      exact ⟨rfl, .inl hm⟩
  | path found mem =>
      obtain ⟨rfl, hm⟩ := findByPath_ok found mem
      exact ⟨rfl, .inl hm⟩
  | anchor found =>
      obtain ⟨rfl, hm⟩ := findAnchorByText_ok found
      exact ⟨rfl, .inl hm⟩
  | owner found =>
      cases n with
      | document i l url =>
          cases found
          exact ⟨rfl, .inr (.inl rfl)⟩
      | element l i =>
          obtain ⟨base, hbase, rfl, rfl⟩ := ownerDocument_ok found
          exact ⟨rfl, .inr (.inr ⟨_, base, hbase, rfl⟩)⟩

/-- A node belongs to a page that was loaded under an address: it is a row of it, or a handle to it that has this address or
the one recorded for it. -/
structure Belongs (k : Nat) (u : String) (n : Node) (s : State) : Prop where
  tree : n.treeOf = k
  base : s.baseOf k = recorded u
  url : ∀ i l v, n = .document i l v → v = u ∨ recorded u = some v

/-- Chains of queries stay within the page. -/
theorem Queried.belongs {i : Nat} {u : String} (hurl : u ≠ "") (hbase : s.baseOf k = recorded u)
    (h : Queried (.document i k u) s n s') : Belongs k u n s' := by
  obtain ⟨base, hrecorded⟩ := recorded_of_ne hurl
  -- the recorded address goes along, since owners are named by it and calls in between might have changed it
  induction h with
  | document =>
      refine ⟨rfl, hbase, ?_⟩
      rintro i l v hv
      cases hv
      exact .inl rfl
  | later before calls ih => exact ⟨ih.tree, (Reaches.baseOf calls (ih.base.trans hrecorded)).trans hrecorded.symm, ih.url⟩
  | @query n m s₁ j d before finds ih =>
      obtain ⟨hloaded, hm⟩ := finds.same_tree
      have hkept : d.device.baseOf k = recorded u := by
        rw [← ih.base]
        unfold State.baseOf
        rw [hloaded]
      rcases hm with ⟨i, rfl⟩ | rfl | ⟨i, v, hv, rfl⟩
      · exact ⟨ih.tree, hkept, fun _ _ _ h => nomatch h⟩
      · exact ⟨ih.tree, hkept, ih.url⟩
      · refine ⟨ih.tree, hkept, ?_⟩
        rintro i l v' hv'
        cases hv'
        rw [ih.tree] at hv
        exact .inr (ih.base.symm.trans hv)

/-- **What is found from a document belongs to that document.** -/
theorem Belongs.owner {u : String} (hurl : u ≠ "") (h : Belongs k u n s) (j : Journal) :
    ∃ i v d, engine.ownerDocument n ⟨s, j⟩ = .ok (.document i k v) d ∧ (v = u ∨ recorded u = some v) := by
  cases n with
  | document i l v =>
      obtain rfl : l = k := h.tree
      exact ⟨i, v, _, rfl, h.url i l v rfl⟩
  | element l i =>
      obtain rfl : l = k := h.tree
      obtain ⟨base, hrecorded⟩ := recorded_of_ne hurl
      exact ⟨_, base, _, ownerDocument_element (h.base.trans hrecorded), .inr hrecorded⟩

end Crawl.Static
