import Crawl.Proofs.Static.Ownership
/-!
# Documents are isolated

A run of calls is looked at twice. A page is at the end what the typings into it alone have made of it, whatever else was
called (`page_of_typings`). And as long as a page sends no form of its own, all that goes on beside it goes on as it would
without the typings into it: the calls with them and the calls without them end the same, and the engine is the same but
for that page (`beside_without_typing`). With the documents that nodes belong to, this is `documents_isolated`.
-/

namespace Crawl.Static

open Crawl.Action (through stateOf outcomeOf valueOf bind_ok ok_of_valueOf read_eq stateOf_through outcomeOf_through)

variable {τ : Type} {s : State} {k l : Nat} {d d' : Desk State} {n : Node}

/-! ## Runs -/

/-- The desk after some calls, whatever they end with. -/
def after : List (Engine.Call Node) → Desk State → Desk State
  | [], d => d
  | c :: cs, d => after cs (stateOf (engine.perform c d))

/-- Whatever lasts holds after any calls. -/
theorem after_lasting {holds : State → Prop} (h : Lasting holds) (cs : List (Engine.Call Node)) :
    ∀ d : Desk State, holds d.device → holds (after cs d).device := by
  induction cs with
  | nil => exact fun _ hd => hd
  | cons c cs ih => exact fun d hd => ih _ (h.perform c d hd)

/-! ### What becomes of a page -/

/-- A change of a page, seen from any page. -/
theorem getElem?_changeTree (s : State) (k : Nat) (f : Html.Tree → Html.Tree) (l : Nat) :
    (s.changeTree k f).loaded[l]? =
      if k = l then s.loaded[l]?.map fun page => { page with tree := f page.tree } else s.loaded[l]? :=
  Array.getElem?_modify

/-- What typing makes of a page depends on nothing but that page. -/
theorem setValue_page (h : d.device.loaded[n.treeOf]? = d'.device.loaded[n.treeOf]?) (text : String) :
    (stateOf (setValue n text d)).device.loaded[n.treeOf]? = (stateOf (setValue n text d')).device.loaded[n.treeOf]? := by
  have htree : d.device.tree n.treeOf = d'.device.tree n.treeOf := by
    unfold State.tree
    rw [h]
  have hchange (f : Html.Tree → Html.Tree) {s s' : State} (h : s.loaded[n.treeOf]? = s'.loaded[n.treeOf]?) :
      (s.changeTree n.treeOf f).loaded[n.treeOf]? = (s'.changeTree n.treeOf f).loaded[n.treeOf]? := by
    rw [getElem?_changeTree, getElem?_changeTree, h]
  rw [setValue, bind_ok (read_eq _), bind_ok (read_eq _), ← tag_congr htree, ← rowOf_congr htree]
  unfold needTreeText
  by_cases hinput : n.tag d.device = "input"
  · rw [if_pos hinput]
    by_cases htext : Text.isTreeText text
    · rw [if_pos htext]
      exact hchange _ h
    · rw [if_neg htext]
      exact h
  · rw [if_neg hinput]
    by_cases harea : n.tag d.device = "textarea"
    · rw [if_pos harea]
      by_cases htext : Text.isTreeText text
      · rw [if_pos htext]
        exact hchange _ (hchange _ h)
      · -- the old text is gone even when the new one is refused
        rw [if_neg htext]
        exact hchange _ h
    · rw [if_neg harea]
      exact h

/-- A page stays as it is unless something is typed into it. -/
theorem growing_page (l : Nat) (page : Option Loaded) :
    Growing fun s => l < s.loaded.size ∧ s.loaded[l]? = page where
  rest _ _ _ hs := hs
  push s _ _ _ _ hs := by
    obtain ⟨hl, hpage⟩ := hs
    refine ⟨?_, ?_⟩
    · rw [Array.size_push]
      exact Nat.lt_succ_of_lt hl
    · rw [Array.getElem?_push_lt hl, ← Array.getElem?_eq_getElem hl]
      exact hpage

theorem page_of_not_typesInto (hl : l < d.device.loaded.size) {c : Engine.Call Node} (hc : typesInto l c = false) :
    (stateOf (engine.perform c d)).device.loaded[l]? = d.device.loaded[l]? := by
  refine ((growing_page l d.device.loaded[l]?).perform c (fun n text hset => ?_) d ⟨hl, rfl⟩).2
  subst hset
  have hne : n.treeOf ≠ l := beq_eq_false_iff_ne.mp hc
  have hbeside (s : State) (f : Html.Tree → Html.Tree) (hs : l < s.loaded.size ∧ s.loaded[l]? = d.device.loaded[l]?) :
      l < (s.changeTree n.treeOf f).loaded.size ∧ (s.changeTree n.treeOf f).loaded[l]? = d.device.loaded[l]? := by
    rw [size_changeTree, getElem?_changeTree, if_neg hne]
    exact hs
  exact stays_setValue (fun s _ _ => hbeside s _) (fun s _ _ => hbeside s _) text

/-- **A page is what the typings into it have made of it.** Whatever else happens beside them, other pages loaded and typed
into, links followed and forms sent, also those of the page itself, does not change it. -/
theorem page_of_typings (l : Nat) (cs : List (Engine.Call Node)) :
    ∀ d d' : Desk State, l < d.device.loaded.size → l < d'.device.loaded.size →
      d.device.loaded[l]? = d'.device.loaded[l]? →
        (after cs d).device.loaded[l]? = (after (cs.filter (typesInto l)) d').device.loaded[l]? := by
  induction cs with
  | nil => exact fun _ _ _ _ h => h
  | cons c cs ih =>
      intro d d' hl hl' h
      have hlasts (d : Desk State) (hl : l < d.device.loaded.size) :
          l < (stateOf (engine.perform c d)).device.loaded.size := (lasting_size_le (l + 1)).perform c d hl
      cases hc : typesInto l c with
      | false =>
          -- the call is made on one side only, and leaves the page there as it is
          rw [List.filter_cons_of_neg (by rw [hc]; exact Bool.false_ne_true)]
          exact ih _ _ (hlasts d hl) hl' ((page_of_not_typesInto hl hc).trans h)
      | true =>
          rw [List.filter_cons_of_pos hc]
          refine ih _ _ (hlasts d hl) (hlasts d' hl') ?_
          cases c with
          | setValue n text =>
              obtain rfl : n.treeOf = l := beq_iff_eq.mp hc
              exact setValue_page h text
          | _ => cases hc

/-! ### What goes on beside a page -/

/-- What the calls are answered with that neither type into a page nor ask about it. -/
def answersBeside (k : Nat) : List (Engine.Call Node) → Desk State → List ((c : Engine.Call Node) × Except Failure c.Answer)
  | [], _ => []
  | c :: cs, d =>
    let answers := answersBeside k cs (stateOf (engine.perform c d))
    if typesInto k c || asksOf k c then answers else ⟨c, outcomeOf (engine.perform c d)⟩ :: answers

/-- No form of a page is sent on the way. -/
def Spares (k : Nat) : List (Engine.Call Node) → Desk State → Prop
  | [], _ => True
  | c :: cs, d => sendsFrom k (d.device.tree k) c = false ∧ Spares k cs (stateOf (engine.perform c d))

theorem sendsFrom_blanked (k : Nat) (t : Html.Tree) (c : Engine.Call Node) : sendsFrom k t.blanked c = sendsFrom k t c := by
  cases c with
  | activate n =>
      cases n with
      | document i l url => rfl
      | element l i => exact congrArg (l == k && ·) (sendsForm_blanked t i)
  | _ => rfl

/-- Two desks that are the same but for what is typed into a page remain so, and a call beside the page ends the same. -/
theorem perform_congr (hk : k < d.device.loaded.size) (hk' : k < d'.device.loaded.size)
    (hsame : blankedAt k d = blankedAt k d') {c : Engine.Call Node} (hasks : asksOf k c = false)
    (htypes : typesInto k c = false) (hsends : sendsFrom k (d.device.tree k) c = false) :
    outcomeOf (engine.perform c d) = outcomeOf (engine.perform c d') ∧
      blankedAt k (stateOf (engine.perform c d)) = blankedAt k (stateOf (engine.perform c d')) := by
  have htree : (d.device.tree k).blanked = (d'.device.tree k).blanked := by
    have hdevice : d.device.blanked k = d'.device.blanked k := congrArg Desk.device hsame
    rw [← tree_blanked_self, ← tree_blanked_self, hdevice]
  have hsends' : sendsFrom k (d'.device.tree k) c = false := by
    rw [← sendsFrom_blanked, ← htree, sendsFrom_blanked]
    exact hsends
  have hthrough : through (blankedAt k) (engine.perform c d) = through (blankedAt k) (engine.perform c d') := by
    rw [perform_beside hk hasks htypes hsends, hsame, perform_beside hk' hasks htypes hsends']
  have houtcome := congrArg outcomeOf hthrough
  have hstate := congrArg stateOf hthrough
  rw [outcomeOf_through, outcomeOf_through] at houtcome
  rw [stateOf_through, stateOf_through] at hstate
  exact ⟨houtcome, hstate⟩

/-- **What is typed into a page is of no account beside it.** As long as a page sends no form of its own, everything beside
it happens as it would without the typings: the calls end the same, and the desk is the same but for that page. -/
theorem beside_without_typing (k : Nat) (cs : List (Engine.Call Node)) :
    ∀ d d' : Desk State, k < d.device.loaded.size → k < d'.device.loaded.size → blankedAt k d = blankedAt k d' →
      Spares k cs d →
        answersBeside k cs d = answersBeside k (cs.filter (!typesInto k ·)) d' ∧
          blankedAt k (after cs d) = blankedAt k (after (cs.filter (!typesInto k ·)) d') := by
  induction cs with
  | nil => exact fun _ _ _ _ hsame _ => ⟨rfl, hsame⟩
  | cons c cs ih =>
      rintro d d' hk hk' hsame ⟨hsends, hspares⟩
      have hlasts (d : Desk State) (hk : k < d.device.loaded.size) :
          k < (stateOf (engine.perform c d)).device.loaded.size := (lasting_size_le (k + 1)).perform c d hk
      cases htypes : typesInto k c with
      | true =>
          -- the typing is left out, and blanking undoes it
          rw [List.filter_cons_of_neg (by simp [htypes]), answersBeside, htypes, Bool.true_or, if_pos rfl]
          exact ih _ _ (hlasts d hk) hk' ((keeps_typing htypes d).trans hsame) hspares
      | false =>
          rw [List.filter_cons_of_pos (by simp [htypes]), answersBeside, answersBeside, htypes, Bool.false_or]
          cases hasks : asksOf k c with
          | true =>
              -- the two answers may differ, but nobody looks at them, and asking changes nothing
              rw [if_pos rfl, if_pos rfl]
              refine ih _ _ (hlasts d hk) (hlasts d' hk') ?_ hspares
              have hd : stateOf (engine.perform c d) = d := keeps_asking hasks d
              have hd' : stateOf (engine.perform c d') = d' := keeps_asking hasks d'
              rw [hd, hd', hsame]
          | false =>
              obtain ⟨houtcome, hstate⟩ := perform_congr hk hk' hsame hasks htypes hsends
              obtain ⟨hanswers, hafter⟩ := ih _ _ (hlasts d hk) (hlasts d' hk') hstate hspares
              rw [if_neg Bool.false_ne_true, if_neg Bool.false_ne_true, houtcome, hanswers]
              exact ⟨rfl, hafter⟩

/-! ## Isolation -/

/-- The pages that are known by heart stay as they are. -/
theorem lasting_pages (pages : List (String × String)) : Lasting fun s => s.pages = pages where
  rest _ _ _ hs := hs
  push _ _ _ _ _ hs := hs
  typed _ _ _ _ hs := hs
  rewritten _ _ _ _ hs := hs

/-- A page that is known by heart is loaded as it is written. -/
theorem load_known {url markup : String} {t : Html.Tree} (hknown : d.device.pages.lookup url = some markup)
    (hparse : Html.parse markup = .ok t) :
    ∃ i l d', load url none d = .ok (.document i l url) d' ∧ d'.device.tree l = t := by
  obtain ⟨i, l, d', hplace, htree, -⟩ := place_ok (show Html.parse (markup, url).1 = .ok t from hparse) d
  refine ⟨i, l, d', ?_, htree⟩
  rw [load_eq, bind_ok (fetch_known hknown)]
  exact hplace

/-- A session types into the node in front by setting its value, or does nothing to the engine. -/
theorem typeIn_after {σ : Session State Node τ} {rest : List Node} (hframes : σ.frames = n :: rest) (text : String) :
    ∃ cs, (cs = [] ∨ cs = [.setValue n text]) ∧ (stateOf (Session.typeIn engine text σ)).desk = after cs σ.desk := by
  have htag : (Session.onDesk (engine.tagName n) : Action (Session State Node τ) String) σ = .ok (n.tag σ.desk.device) σ :=
    rfl
  rw [Session.typeIn, bind_ok (Session.front_cons hframes), bind_ok htag]
  split
  · exact ⟨[.setValue n text], .inr rfl, congrArg Session.desk (Action.stateOf_within _ σ)⟩
  · exact ⟨[], .inl rfl, rfl⟩

/-- Activating an element of a page leads where the page leads as it is in another state, and what is sent there is what
the page sends as it is in that state. -/
def LeadsBy (s : State) (l : Nat) (d : Desk State) : Prop :=
  ∀ i base r, s.baseOf l = some base → (s.tree l)[i]? = some r → ∃ j, engine.activate (.element l i) d =
    goTo (.document d.device.handles l base) (destination base (s.tree l) i r) ⟨d.device.handed, j⟩

/-- Where a page leads is known from the page. -/
theorem leadsBy_of_page (h : d.device.loaded[l]? = s.loaded[l]?) : LeadsBy s l d := by
  intro i base r hbase hrow
  have hbase' : d.device.baseOf l = some base := by
    unfold State.baseOf at hbase ⊢
    rw [h]
    exact hbase
  have htree : s.tree l = d.device.tree l := by
    unfold State.tree
    rw [h]
  rw [htree] at hrow ⊢
  exact activate_goes hbase' hrow

/-- **Documents are isolated from each other.** Take a document that was opened under an address. Whatever is found from it
by queries, at whatever time, has as its owner a document that is the same, with the same address if the address was
recorded as it is. Nothing opened later is the same document. From then on, whatever calls are made: a page is what the
typings into it alone have made of it, and its links and forms lead and send accordingly; the pages known by heart stay what
they are and are loaded as they are written; and unless the document sends a form of its own, in which what was typed may go
out, all calls beside its page end as they would without the typings into it, with the same requests sent and the same pages
loaded. To type into a node from a session is to set its value. -/
theorem documents_isolated {d d₁ : Desk State} {i k : Nat} {u : String} (hopens : Opens d (.document i k u) d₁)
    (hurl : u ≠ "") :
    (∀ n s, Queried (.document i k u) d₁.device n s → ∀ j, ∃ i' v d₂,
        engine.ownerDocument n ⟨s, j⟩ = .ok (.document i' k v) d₂ ∧
          engine.same (.document i k u) (.document i' k v) = true ∧ (recorded u = some u → v = u)) ∧
      (∀ d₂ D d₃, engine.Reaches d₁.device d₂.device → Opens d₂ D d₃ → engine.same (.document i k u) D = false) ∧
      (∀ d₂, engine.Reaches d₁.device d₂.device → ∀ cs,
        (∀ l, l < d₂.device.loaded.size →
          (after cs d₂).device.loaded[l]? = (after (cs.filter (typesInto l)) d₂).device.loaded[l]? ∧
            LeadsBy (after (cs.filter (typesInto l)) d₂).device l (after cs d₂)) ∧
        (after cs d₂).device.pages = d₂.device.pages ∧
        (∀ url markup t, d₂.device.pages.lookup url = some markup → Html.parse markup = .ok t → ∃ i' l d₃,
          engine.loadDocument url (after cs d₂) = .ok (.document i' l url) d₃ ∧ d₃.device.tree l = t) ∧
        (Spares k cs d₂ →
          answersBeside k cs d₂ = answersBeside k (cs.filter (!typesInto k ·)) d₂ ∧
            blankedAt k (after cs d₂) = blankedAt k (after (cs.filter (!typesInto k ·)) d₂))) ∧
      ∀ (σ : Session State Node τ) n rest text, σ.frames = n :: rest → ∃ cs, (cs = [] ∨ cs = [.setValue n text]) ∧
        (stateOf (Session.typeIn engine text σ)).desk = after cs σ.desk := by
  obtain ⟨i₀, u₀, hdocument, hsize, hbase⟩ := hopens.adds
  cases hdocument
  refine ⟨?_, ?_, ?_, fun σ n rest text hframes => typeIn_after hframes text⟩
  · intro n s hqueried j
    obtain ⟨i', v, d₂, howner, hv⟩ := (hqueried.belongs hurl hbase).owner hurl j
    refine ⟨i', v, d₂, howner, beq_self_eq_true d.device.loaded.size, fun hrecorded => ?_⟩
    rcases hv with hv | hv
    · exact hv
    · rw [hrecorded] at hv
      cases hv
      rfl
  · exact fun d₂ D d₃ hreach hopens' => hopens.not_same hreach hopens'
  · intro d₂ hreach cs
    have hk : d.device.loaded.size < d₂.device.loaded.size :=
      Reaches.lasting (lasting_size_le (d.device.loaded.size + 1)) hreach (Nat.le_of_eq hsize.symm)
    have hpages : (after cs d₂).device.pages = d₂.device.pages := after_lasting (lasting_pages _) cs d₂ rfl
    refine ⟨fun l hl => ?_, hpages, fun url markup t hknown hparse => ?_,
      fun hspares => beside_without_typing _ cs d₂ d₂ hk hk rfl hspares⟩
    · have hpage := page_of_typings l cs d₂ d₂ hl hl rfl
      exact ⟨hpage, leadsBy_of_page hpage⟩
    · exact load_known (hpages ▸ hknown) hparse

/-- An engine that knows one page by heart, with a form. -/
def oneForm : State :=
  ⟨[("a", "<form><input name='q'><input type='submit'></form>")], [], Client.start [], 1, #[], 0⟩

/-- The desk when the page was loaded as often as that. -/
def loadedTimes : Nat → Desk State
  | 0 => ⟨oneForm, #[]⟩
  | times + 1 => stateOf (engine.loadDocument "a" (loadedTimes times))

/-- Something is typed into the first page, and the form of the second page is sent. -/
def typeAndSend : List (Engine.Call Node) := [.setValue (.element 0 7) "x", .activate (.element 1 9)]

theorem documents_isolated_loadedTimes :
    Opens (loadedTimes 0) (.document 0 0 "a") (loadedTimes 1) ∧ "a" ≠ "" ∧ recorded "a" = some "a" ∧
      Opens (loadedTimes 1) (.document 1 1 "a") (loadedTimes 2) ∧
      engine.same (.document 0 0 "a") (.document 1 1 "a") = false ∧
      Queried (.document 0 0 "a") (loadedTimes 1).device (.element 0 7) (loadedTimes 2).device ∧
      (∃ i v d, engine.ownerDocument (.element 0 7) (loadedTimes 2) = .ok (.document i 0 v) d ∧ v = "a") ∧
      Spares 0 typeAndSend (loadedTimes 2) ∧
      answersBeside 0 typeAndSend (loadedTimes 2) = answersBeside 0 [.activate (.element 1 9)] (loadedTimes 2) := by
  have hopens : Opens (loadedTimes 0) (.document 0 0 "a") (loadedTimes 1) :=
    .loading (ok_of_valueOf (by decide +kernel : valueOf (engine.loadDocument "a" (loadedTimes 0)) = _))
  have hopens' : Opens (loadedTimes 1) (.document 1 1 "a") (loadedTimes 2) :=
    .loading (ok_of_valueOf (by decide +kernel : valueOf (engine.loadDocument "a" (loadedTimes 1)) = _))
  have hreach : engine.Reaches (loadedTimes 1).device (loadedTimes 2).device :=
    .call (.loadDocument "a") (loadedTimes 1).journal .refl
  have hrecorded : recorded "a" = some "a" := by decide +kernel
  have hfound : engine.findByName (.document 0 0 "a") "q" (loadedTimes 1) = .ok (some (.element 0 7)) _ :=
    ok_of_valueOf (by decide +kernel)
  have hstays : stateOf (engine.findByName (.document 0 0 "a") "q" (loadedTimes 1)) = loadedTimes 1 :=
    keeps_asking (c := .findByName (.document 0 0 "a") "q") (k := 0) rfl (loadedTimes 1)
  have hqueried : Queried (.document 0 0 "a") (loadedTimes 1).device (.element 0 7) (loadedTimes 2).device := by
    rw [hstays] at hfound
    exact .later (.query .document (.name hfound)) hreach
  have hspares : Spares 0 typeAndSend (loadedTimes 2) := ⟨rfl, rfl, trivial⟩
  obtain ⟨howns, hunequal, hruns, -⟩ := @documents_isolated Unit _ _ _ _ _ hopens (by decide)
  obtain ⟨-, -, -, hbeside⟩ := hruns (loadedTimes 2) hreach typeAndSend
  obtain ⟨i, v, d, howner, -, hurl⟩ := howns (.element 0 7) (loadedTimes 2).device hqueried (loadedTimes 2).journal
  exact ⟨hopens, by decide, hrecorded, hopens', hunequal (loadedTimes 1) _ _ .refl hopens', hqueried,
    ⟨i, v, d, howner, hurl hrecorded⟩, hspares, (hbeside hspares).1⟩

end Crawl.Static
