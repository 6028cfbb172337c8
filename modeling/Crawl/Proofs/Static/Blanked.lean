import Crawl.Proofs.Action.Mirrors
import Crawl.Proofs.Html.Typed
import Crawl.Proofs.Static.Activation
/-!
# A page with nothing typed into it

What is typed into a page goes into the values and the texts of its rows. With these left out the page is `blanked`, and
typing into it makes no difference any more. Whatever the engine does apart from reading the page, typing into it and
sending a form of it, it does in the same way when the page is blanked: it ends the same, and the states reached are the
same but for that page. So typing into a page reaches nothing beside it (`perform_beside`).
-/

namespace Crawl

namespace Html

/-! ## Rows without what is typed -/

/-- A row without what is typed: an element without its value, and no text. -/
def Row.blanked (r : Row) : Row :=
  match r.content with
  | .element tag attrs => ⟨r.depth, .element tag (attrs.filter (·.1 != "value"))⟩
  | .text _ => ⟨r.depth, .text none⟩
  | _ => r

/-- A tree without what is typed. -/
def Tree.blanked (t : Tree) : Tree := t.mapRows fun _ => Row.blanked

@[simp]
theorem Row.blanked_depth (r : Row) : r.blanked.depth = r.depth := by
  obtain ⟨depth, content⟩ := r
  cases content <;> rfl

@[simp]
theorem Row.blanked_tag? (r : Row) : r.blanked.tag? = r.tag? := by
  obtain ⟨depth, content⟩ := r
  cases content <;> rfl

theorem lookup_filter_ne {name key : String} (hne : name ≠ key) (attrs : List (String × String)) :
    (attrs.filter (·.1 != key)).lookup name = attrs.lookup name := by
  induction attrs with
  | nil => rfl
  | cons a attrs ih =>
      obtain ⟨other, value⟩ := a
      by_cases hother : other = key
      · have hmiss : (name == other) = false := beq_eq_false_iff_ne.mpr (hother ▸ hne)
        rw [List.filter_cons_of_neg (by simp [hother]), ih, List.lookup_cons, hmiss]
      · rw [List.filter_cons_of_pos (by simp [hother]), List.lookup_cons, List.lookup_cons, ih]

theorem Row.blanked_attr? {name : String} (hne : name ≠ "value") (r : Row) : r.blanked.attr? name = r.attr? name := by
  obtain ⟨depth, content⟩ := r
  cases content with
  | element tag attrs => exact lookup_filter_ne hne attrs
  | _ => rfl

/-- Setting the value of a row is nothing to the row without it. -/
theorem Row.blanked_setRowAttr (text : String) (r : Row) : (Tree.setRowAttr "value" text r).blanked = r.blanked := by
  have hset (attrs : List (String × String)) :
      (Tree.setIn "value" text attrs).filter (·.1 != "value") = attrs.filter (·.1 != "value") := by
    induction attrs with
    | nil => rfl
    | cons a attrs ih =>
        unfold Tree.setIn
        split
        · next ha => rw [List.filter_cons_of_neg (by simp), List.filter_cons_of_neg (by simpa using ha)]
        · next ha => rw [List.filter_cons_of_pos (by simpa using ha), List.filter_cons_of_pos (by simpa using ha), ih]
  obtain ⟨depth, content⟩ := r
  cases content with
  | element tag attrs => exact congrArg (fun attrs => (⟨depth, .element tag attrs⟩ : Row)) (hset attrs)
  | _ => rfl

theorem Row.blanked_setRowText (text : Option String) (r : Row) : (Tree.setRowText text r).blanked = r.blanked := by
  obtain ⟨depth, content⟩ := r
  cases content <;> rfl

namespace Tree

theorem getElem?_blanked (t : Tree) (i : Nat) : t.blanked[i]? = t[i]?.map Row.blanked := getElem?_mapRows _ t i

/-- A change of a row that blanking undoes is nothing to the blanked tree. -/
theorem blanked_modify {f : Row → Row} (hf : ∀ r, (f r).blanked = r.blanked) (t : Tree) (i : Nat) :
    Tree.blanked (t.modify i f) = t.blanked := by
  refine List.ext_getElem? fun j => ?_
  rw [getElem?_blanked, getElem?_blanked, List.getElem?_modify, Option.map_eq_map, Option.map_map]
  congr 1
  funext r
  show (if i = j then f r else r).blanked = r.blanked
  split
  · exact hf r
  · rfl

end Tree

end Html

namespace Static

open Crawl.Action (Keeps Mirrors through through_bind bind_ok bind_error read_eq)

variable {s : State} {k : Nat} {d : Desk State}

/-- A row stands under the same form when the rows change and their depths and tags do not. -/
theorem formAbove?_mapRows {g : Nat → Html.Row → Html.Row} (hdepth : ∀ i r, (g i r).depth = r.depth)
    (htag : ∀ i r, (g i r).tag? = r.tag?) (t : Html.Tree) (i : Nat) : formAbove? (t.mapRows g) i = formAbove? t i := by
  have hform : ((fun p : Html.Row × Nat => p.1.hasTag "form") ∘ fun p : Html.Row × Nat => (g p.2 p.1, p.2)) =
      fun p => p.1.hasTag "form" := by
    funext p
    show (g p.2 p.1).hasTag "form" = _
    rw [Html.Row.hasTag, htag]
    rfl
  rw [formAbove?, Html.Tree.above_mapRows hdepth, List.find?_map, hform, Option.map_map]
  rfl

theorem formAbove?_blanked (t : Html.Tree) (i : Nat) : formAbove? t.blanked i = formAbove? t i :=
  formAbove?_mapRows (fun _ => Html.Row.blanked_depth) (fun _ => Html.Row.blanked_tag?) t i

/-- What activating an element means is not typed. -/
theorem deedOf_blanked (t : Html.Tree) (i : Nat) (r : Html.Row) : deedOf t.blanked i r.blanked = deedOf t i r := by
  unfold deedOf isSubmitter
  rw [Html.Row.blanked_tag?, Html.Row.blanked_attr? (by decide), Html.Row.blanked_attr? (by decide), formAbove?_blanked]

/-! ## The engine with one page blanked -/

/-- The state with nothing typed into one page. -/
def State.blanked (s : State) (k : Nat) : State := s.changeTree k Html.Tree.blanked

/-- The desk with nothing typed into one page. -/
def blankedAt (k : Nat) (d : Desk State) : Desk State := { d with device := d.device.blanked k }

theorem tree_blanked (s : State) (k l : Nat) : (s.blanked k).tree l = if k = l then (s.tree l).blanked else s.tree l :=
  tree_changeTree s k rfl l

theorem tree_blanked_of_ne {l : Nat} (h : l ≠ k) (s : State) : (s.blanked k).tree l = s.tree l := by
  rw [tree_blanked, if_neg h.symm]

theorem tree_blanked_self (s : State) (k : Nat) : (s.blanked k).tree k = (s.tree k).blanked := by
  rw [tree_blanked, if_pos rfl]

theorem tag?_blanked (s : State) (k l i : Nat) : ((s.blanked k).tree l).tag? i = (s.tree l).tag? i := by
  rw [tree_blanked]
  split
  · rw [Html.Tree.tag?, Html.Tree.getElem?_blanked, Html.Tree.tag?]
    cases (s.tree l)[i]? with
    | none => rfl
    | some r => exact r.blanked_tag?
  · rfl

theorem tag_blanked (s : State) (k : Nat) (n : Node) : n.tag (s.blanked k) = n.tag s := by
  cases n with
  | document i l url => rfl
  | element l i =>
      unfold Node.tag
      dsimp only
      rw [tag?_blanked]

theorem quoted_blanked (s : State) (k : Nat) (n : Node) : n.quoted (s.blanked k) = n.quoted s := by
  cases n with
  | document i l url => rfl
  | element l i =>
      unfold Node.quoted
      dsimp only
      rw [tag?_blanked]

/-- The row and the tag of a node are read off its tree. -/
theorem rowOf_congr {s s' : State} {n : Node} (h : s.tree n.treeOf = s'.tree n.treeOf) : n.rowOf s = n.rowOf s' := by
  cases n with
  | document i l url =>
      have htree : s.tree l = s'.tree l := h
      unfold Node.rowOf
      dsimp only
      rw [htree]
  | element l i => rfl

theorem tag_congr {s s' : State} {n : Node} (h : s.tree n.treeOf = s'.tree n.treeOf) : n.tag s = n.tag s' := by
  cases n with
  | document i l url => rfl
  | element l i =>
      have htree : s.tree l = s'.tree l := h
      unfold Node.tag
      dsimp only
      rw [htree]

theorem size_changeTree (s : State) (l : Nat) (f : Html.Tree → Html.Tree) :
    (s.changeTree l f).loaded.size = s.loaded.size := Array.size_modify

/-- Two changes of one tree are one change. -/
theorem changeTree_changeTree (s : State) (l : Nat) (f g : Html.Tree → Html.Tree) :
    (s.changeTree l f).changeTree l g = s.changeTree l (g ∘ f) := by
  unfold State.changeTree
  congr 1
  refine Array.ext_getElem? fun i => ?_
  simp only [Array.getElem?_modify]
  split
  · rw [Option.map_map]
    rfl
  · rfl

/-- Changes of different trees do not meet. -/
theorem changeTree_comm {l m : Nat} (h : l ≠ m) (s : State) (f g : Html.Tree → Html.Tree) :
    (s.changeTree l f).changeTree m g = (s.changeTree m g).changeTree l f := by
  unfold State.changeTree
  congr 1
  refine Array.ext_getElem? fun i => ?_
  simp only [Array.getElem?_modify]
  by_cases hl : l = i
  · have hm : m ≠ i := fun hm => h (hl.trans hm.symm)
    rw [if_pos hl, if_neg hm, if_pos hl, if_neg hm]
  · rw [if_neg hl, if_neg hl]

/-- A change of the page that blanking undoes. -/
theorem blanked_changeTree {f : Html.Tree → Html.Tree} (hf : ∀ t, (f t).blanked = t.blanked) (s : State) (k : Nat) :
    (s.changeTree k f).blanked k = s.blanked k := by
  unfold State.blanked
  rw [changeTree_changeTree]
  congr 1
  funext t
  exact hf t

/-- A page is added beside a blanked one. -/
theorem blanked_push (h : k < s.loaded.size) (page : Loaded) :
    ({ s with loaded := s.loaded.push page } : State).blanked k =
      { s.blanked k with loaded := (s.blanked k).loaded.push page } := by
  unfold State.blanked State.changeTree
  congr 1
  refine Array.ext_getElem? fun i => ?_
  simp only [Array.getElem?_modify, Array.getElem?_push, Array.size_modify]
  by_cases hi : i = s.loaded.size
  · have hk : k ≠ i := by omega
    rw [if_pos hi, if_neg hk, if_pos hi]
  · rw [if_neg hi, if_neg hi]

/-! ## What is done beside the page -/

/-- What does not read the engine is done alike at any desk. -/
theorem blind_needTreeText (k : Nat) (text : String) : Mirrors (blankedAt k) (needTreeText text) (needTreeText text) :=
  .ite (.pure _) (.throw _)

theorem blind_note (k : Nat) (level : Level) (source : Crawl.Source) (text : String) :
    Mirrors (blankedAt k) (Desk.note level source text) (Desk.note level source text) := fun _ => rfl

theorem blind_joined (k : Nat) (url ref : String) : Mirrors (blankedAt k) (joined url ref) (joined url ref) := by
  unfold joined
  cases Url.join url.toList ref.toList with
  | ok cs => exact .pure _
  | error e => exact .throw _

theorem blind_ask (k : Nat) (url : String) (data : Option (List (String × String))) :
    Mirrors (blankedAt k) (ask url data) (ask url data) := by
  intro d
  rw [ask, bind_ok (read_eq _), bind_ok (read_eq _)]
  dsimp only [blankedAt, State.blanked, State.changeTree]
  rcases d.device.client.send ⟨url, data, d.device.timeout⟩ with ⟨reply, client⟩
  cases reply with
  | failed message => rfl
  | answered text final statusError => cases statusError <;> rfl

/-- Nothing is fetched from the pages that were loaded. -/
theorem blind_fetch (k : Nat) (url : String) (data : Option (List (String × String))) :
    Mirrors (blankedAt k) (fetch url data) (fetch url data) := by
  rintro ⟨s, j⟩
  show through (blankedAt k) (fetch url data ⟨s, j⟩) = fetch url data ⟨s.blanked k, j⟩
  cases source s url with
  | known whole =>
      have whole' : (s.blanked k).pages.lookup url = some _ := whole
      rw [fetch_known whole, fetch_known whole']
      rfl
  | unsplit whole split =>
      have whole' : (s.blanked k).pages.lookup url = none := whole
      rw [fetch_unsplit whole split, fetch_unsplit whole' split]
      rfl
  | @bare p _ whole parts bare =>
      have whole' : (s.blanked k).pages.lookup url = none := whole
      have bare' : (s.blanked k).pages.lookup (bareOf p) = some _ := bare
      rw [fetch_bare whole parts bare, fetch_bare whole' parts bare']
      rfl
  | @file p file =>
      have file' : LeadsToFile (s.blanked k) url p := ⟨file.whole, file.parts, file.bare, file.scheme⟩
      have hfiles : (s.blanked k).files = s.files := rfl
      rw [fetch_file file, fetch_file file', hfiles]
      cases readFile s.files url p.path <;> rfl
  | @remote p whole parts bare noFile =>
      have whole' : (s.blanked k).pages.lookup url = none := whole
      have bare' : (s.blanked k).pages.lookup (bareOf p) = none := bare
      rw [fetch_remote whole parts bare noFile, fetch_remote whole' parts bare' noFile]
      split
      · exact blind_ask k url data ⟨s, j⟩
      · rfl

/-- Pages are never taken away. -/
theorem lasting_size_le (size : Nat) : Lasting fun s => size ≤ s.loaded.size where
  rest _ _ _ hs := hs
  push s _ _ _ _ hs := by
    rw [Array.size_push]
    exact Nat.le_succ_of_le hs
  typed s l _ _ hs := (size_changeTree s l _).symm ▸ hs
  rewritten s l _ _ hs := (size_changeTree s l _).symm ▸ hs

/-- A page is added in the same place, beside the page as it is or beside the blanked one. -/
theorem place_blanked (hk : k < d.device.loaded.size) (fetched : String × String) :
    through (blankedAt k) (place fetched d) = place fetched (blankedAt k d) := by
  unfold place
  cases Html.parse fetched.1 with
  | error e => rfl
  | ok tree =>
      refine through_bind (blind_note k _ _ _ d) fun _ d' hnote => ?_
      cases hnote
      rw [bind_ok (read_eq _), bind_ok (read_eq _)]
      have hsize : (d.device.blanked k).loaded.size = d.device.loaded.size := size_changeTree _ _ _
      have hpushed := congrArg State.handed (blanked_push hk ⟨tree, recorded fetched.2⟩)
      exact congrArg₂ EStateM.Result.ok (congrArg (fun l => Node.document _ l _) hsize.symm)
        (congrArg (fun s => Desk.mk s _) hpushed)

theorem load_blanked (hk : k < d.device.loaded.size) (url : String) (data : Option (List (String × String))) :
    through (blankedAt k) (load url data d) = load url data (blankedAt k d) := by
  rw [load_eq]
  refine through_bind (blind_fetch k url data d) fun fetched d' hfetch => place_blanked ?_ fetched
  have hlasts := stays_fetch (lasting_size_le (k + 1)).rest url data d hk
  rw [hfetch] at hlasts
  exact hlasts

/-- An element of a page without a recorded address has no document. -/
theorem ownerDocument_detached {l i : Nat} (hbase : d.device.baseOf l = none) :
    ownerDocument (.element l i) d = .error (.nodeNotFound (.detached ((Node.element l i).quoted d.device))) d := by
  rw [ownerDocument, bind_ok (read_eq _)]
  unfold State.baseOf at hbase
  simp only [hbase]
  rfl

/-- A document is found by what was recorded for its page. -/
theorem blind_ownerDocument (k : Nat) (n : Node) : Mirrors (blankedAt k) (ownerDocument n) (ownerDocument n) := by
  cases n with
  | document i l url => exact .pure _
  | element l i =>
      intro d
      have hsame : (blankedAt k d).device.baseOf l = d.device.baseOf l := baseOf_changeTree d.device k _ l
      cases hbase : d.device.baseOf l with
      | some base =>
          have howner : ownerDocument (.element l i) d = _ := ownerDocument_element hbase
          have howner' : ownerDocument (.element l i) (blankedAt k d) = _ := ownerDocument_element (hsame.trans hbase)
          rw [howner, howner']
          rfl
      | none =>
          have hquoted : (Node.element l i).quoted (blankedAt k d).device = (Node.element l i).quoted d.device :=
            quoted_blanked d.device k _
          rw [ownerDocument_detached hbase, ownerDocument_detached (hsame.trans hbase), hquoted]
          rfl

theorem joined_ok {url ref target : String} {d' : Desk State} (h : joined url ref d = .ok target d') : d' = d := by
  unfold joined at h
  cases hjoin : Url.join url.toList ref.toList with
  | ok cs =>
      rw [hjoin] at h
      cases h
      rfl
  | error e =>
      rw [hjoin] at h
      cases h

theorem ofExcept_ok {α : Type} {x : Except Failure α} {a : α} {d' : Desk State}
    (h : (Action.ofExcept x : Work α) d = .ok a d') : d' = d := by
  cases x with
  | ok a =>
      cases h
      rfl
  | error f => cases h

/-- A form of another page is sent alike. -/
theorem submit_blanked (hk : k < d.device.loaded.size) (url : String) (t : Html.Tree) (form : Nat) (submitter : Html.Row) :
    through (blankedAt k) (submit url t form submitter d) = submit url t form submitter (blankedAt k d) := by
  refine through_bind (blind_joined k _ _ d) fun target d' htarget => ?_
  rw [joined_ok htarget]
  refine through_bind (blind_note k _ _ _ d) fun _ d' hnote => ?_
  cases hnote
  split
  · refine load_blanked ?_ _ _
    exact hk
  · refine through_bind (Mirrors.ofExcept _ _) fun address d' haddress => ?_
    rw [ofExcept_ok haddress]
    refine load_blanked ?_ _ _
    exact hk

/-- Whether activating a row of a page sends a form of it. -/
def sendsForm (t : Html.Tree) (i : Nat) : Bool :=
  match t[i]? with
  | some r => match deedOf t i r with
    | .submit _ => true
    | _ => false
  | none => false

theorem sendsForm_blanked (t : Html.Tree) (i : Nat) : sendsForm t.blanked i = sendsForm t i := by
  unfold sendsForm
  rw [Html.Tree.getElem?_blanked]
  cases t[i]? with
  | none => rfl
  | some r =>
      dsimp only [Option.map_some]
      rw [deedOf_blanked]

/-- What is left of an activation when the document is found that the row is in. -/
def pursue (document : Node) (base : String) (t : Html.Tree) (i : Nat) : Work Node :=
  match t[i]? with
  | none => return document
  | some r => match deedOf t i r with
    | .stay => return document
    | .follow href => do load (← joined base href) none
    | .submit form => submit base t form r

/-- A row that sends no form is activated for what is not typed. -/
theorem pursue_tree_blanked {t : Html.Tree} {i : Nat} (hspare : sendsForm t i = false) (document : Node) (base : String) :
    pursue document base t.blanked i = pursue document base t i := by
  unfold sendsForm at hspare
  unfold pursue
  rw [Html.Tree.getElem?_blanked]
  cases hrow : t[i]? with
  | none => rfl
  | some r =>
      rw [hrow] at hspare
      dsimp only [Option.map_some] at hspare ⊢
      rw [deedOf_blanked]
      cases hdeed : deedOf t i r with
      | stay => rfl
      | follow href => rfl
      | submit form =>
          rw [hdeed] at hspare
          cases hspare

theorem pursue_blanked (hk : k < d.device.loaded.size) (document : Node) (base : String) (t : Html.Tree) (i : Nat) :
    through (blankedAt k) (pursue document base t i d) = pursue document base t i (blankedAt k d) := by
  unfold pursue
  cases t[i]? with
  | none => rfl
  | some r =>
      dsimp only
      cases deedOf t i r with
      | stay => rfl
      | follow href =>
          refine through_bind (blind_joined k base href d) fun target d' htarget => ?_
          rw [joined_ok htarget]
          exact load_blanked hk _ _
      | submit form => exact submit_blanked hk base t form r

theorem activate_of_owner {l i : Nat} {base : String} (hbase : d.device.baseOf l = some base) :
    activate (.element l i) d =
      pursue (.document d.device.handles l base) base (d.device.tree l) i ⟨d.device.handed, d.journal⟩ := by
  rw [activate, bind_ok (ownerDocument_element hbase), bind_ok (read_eq _)]
  rfl

/-- Activating an element makes no difference between the page and the blanked one, unless it sends a form of that page. -/
theorem activate_blanked (hk : k < d.device.loaded.size) {n : Node}
    (hspare : ∀ i, n = .element k i → sendsForm (d.device.tree k) i = false) :
    through (blankedAt k) (activate n d) = activate n (blankedAt k d) := by
  cases n with
  | document i l url => rfl
  | element l i =>
      have hsame : (blankedAt k d).device.baseOf l = d.device.baseOf l := baseOf_changeTree d.device k _ l
      cases hbase : d.device.baseOf l with
      | none =>
          -- there is no document to go on from
          have howner := blind_ownerDocument k (.element l i) d
          rw [ownerDocument_detached hbase] at howner
          rw [activate, bind_error (ownerDocument_detached hbase), bind_error howner.symm]
          rfl
      | some base =>
          rw [activate_of_owner hbase, activate_of_owner (hsame.trans hbase)]
          refine (pursue_blanked ?_ _ _ _ _).trans ?_
          · exact hk
          · by_cases hl : l = k
            · subst hl
              have htree : (blankedAt l d).device.tree l = (d.device.tree l).blanked := tree_blanked_self d.device l
              rw [htree, pursue_tree_blanked (hspare i rfl)]
              rfl
            · have htree : (blankedAt k d).device.tree l = d.device.tree l := tree_blanked_of_ne hl d.device
              rw [htree]
              rfl

/-- All that is seen of a node of another page. -/
theorem seen_beside {n : Node} (hn : n.treeOf ≠ k) (d : Desk State) :
    (blankedAt k d).device.tree n.treeOf = d.device.tree n.treeOf ∧ n.rowOf (blankedAt k d).device = n.rowOf d.device :=
  ⟨tree_blanked_of_ne hn d.device, rowOf_congr (tree_blanked_of_ne hn d.device)⟩

theorem findRow_beside (test : Html.Row → Bool) {n : Node} (hn : n.treeOf ≠ k) :
    Mirrors (blankedAt k) (findRow test n) (findRow test n) := by
  intro d
  obtain ⟨htree, hrow⟩ := seen_beside hn d
  rw [findRow, bind_ok (read_eq _), bind_ok (read_eq _), htree, hrow]
  generalize List.find? _ _ = found
  cases found <;> rfl

theorem findByPath_beside {n : Node} (hn : n.treeOf ≠ k) (expression : String) :
    Mirrors (blankedAt k) (findByPath n expression) (findByPath n expression) := by
  refine .bind (blind_needTreeText k expression) fun _ d => ?_
  obtain ⟨htree, hrow⟩ := seen_beside hn d
  rw [bind_ok (read_eq _), bind_ok (read_eq _), htree, hrow]
  cases XPath.select (d.device.tree n.treeOf) (n.rowOf d.device) expression <;> rfl

theorem findAnchorByText_beside {n : Node} (hn : n.treeOf ≠ k) (text : String) :
    Mirrors (blankedAt k) (findAnchorByText n text) (findAnchorByText n text) := by
  intro d
  obtain ⟨htree, hrow⟩ := seen_beside hn d
  rw [findAnchorByText, bind_ok (read_eq _), bind_ok (read_eq _), htree, hrow]
  generalize List.find? _ _ = found
  cases found <;> rfl

theorem attr_beside {n : Node} (hn : n.treeOf ≠ k) (name : String) :
    Mirrors (blankedAt k) (attr n name) (attr n name) := by
  unfold attr
  split
  · exact .throw _
  · exact .pure _
  · intro d
    obtain ⟨htree, hrow⟩ := seen_beside hn d
    rw [bind_ok (read_eq _), bind_ok (read_eq _)]
    unfold Node.attr? Node.row?
    rw [htree, hrow]
    rfl

theorem textContent_beside {n : Node} (hn : n.treeOf ≠ k) :
    Mirrors (blankedAt k) (textContent n) (textContent n) := by
  intro d
  obtain ⟨htree, hrow⟩ := seen_beside hn d
  rw [textContent, bind_ok (read_eq _), bind_ok (read_eq _), htree, hrow]
  rfl

theorem setValue_beside {n : Node} (hn : n.treeOf ≠ k) (text : String) :
    Mirrors (blankedAt k) (setValue n text) (setValue n text) := by
  intro d
  obtain ⟨-, hrow⟩ := seen_beside hn d
  have htag : n.tag (blankedAt k d).device = n.tag d.device := tag_blanked d.device k n
  have hupdate (f : Html.Tree → Html.Tree) :
      Mirrors (blankedAt k) (Desk.update (·.changeTree n.treeOf f)) (Desk.update (·.changeTree n.treeOf f)) := fun d =>
    congrArg (fun s => EStateM.Result.ok () (Desk.mk s d.journal)) (changeTree_comm hn d.device f Html.Tree.blanked)
  rw [setValue, bind_ok (read_eq _), bind_ok (read_eq _), hrow, htag]
  refine Mirrors.ite ?_ (.ite ?_ (.throw _)) d
  · exact .bind (blind_needTreeText k text) fun _ => hupdate _
  · exact .bind (hupdate _) fun _ => .bind (blind_needTreeText k text) fun _ => hupdate _

/-- Whether a call asks about the rows of a page. -/
def asksOf (k : Nat) : Engine.Call Node → Bool
  | .findByIdentifier n _ | .findByName n _ | .findByPath n _ | .findAnchorByText n _ | .attr n _ | .textContent n =>
      n.treeOf == k
  | _ => false

/-- Whether a call types into a page. -/
def typesInto (k : Nat) : Engine.Call Node → Bool
  | .setValue n _ => n.treeOf == k
  | _ => false

/-- Whether a call sends a form of a page. -/
def sendsFrom (k : Nat) (t : Html.Tree) : Engine.Call Node → Bool
  | .activate (.element l i) => l == k && sendsForm t i
  | _ => false

/-- **What is typed into a page reaches nothing beside it.** A call that neither asks about a page nor types into it nor
sends a form of it does, at the desk with that page blanked, what it does at the desk. -/
theorem perform_beside (hk : k < d.device.loaded.size) {c : Engine.Call Node} (hasks : asksOf k c = false)
    (htypes : typesInto k c = false) (hsends : sendsFrom k (d.device.tree k) c = false) :
    through (blankedAt k) (engine.perform c d) = engine.perform c (blankedAt k d) := by
  cases c with
  | loadDocument url => exact load_blanked hk url none
  | findByIdentifier n value =>
      exact Mirrors.bind (blind_needTreeText k value) (fun _ => findRow_beside _ (beq_eq_false_iff_ne.mp hasks)) d
  | findByName n value =>
      exact Mirrors.bind (blind_needTreeText k value) (fun _ => findRow_beside _ (beq_eq_false_iff_ne.mp hasks)) d
  | findByPath n expression => exact findByPath_beside (beq_eq_false_iff_ne.mp hasks) expression d
  | findAnchorByText n text => exact findAnchorByText_beside (beq_eq_false_iff_ne.mp hasks) text d
  | setValue n text => exact setValue_beside (beq_eq_false_iff_ne.mp htypes) text d
  | activate n =>
      refine activate_blanked hk fun i hn => ?_
      subst hn
      simpa [sendsFrom] using hsends
  | ownerDocument n => exact blind_ownerDocument k n d
  | isDocument n => rfl
  | tagName n => exact congrArg (fun tag => EStateM.Result.ok tag (blankedAt k d)) (tag_blanked d.device k n).symm
  | attr n name => exact attr_beside (beq_eq_false_iff_ne.mp hasks) name d
  | textContent n => exact textContent_beside (beq_eq_false_iff_ne.mp hasks) d
  | close => rfl

/-- Typing into a page is nothing to the blanked page. -/
theorem keeps_typing {c : Engine.Call Node} (h : typesInto k c = true) : Keeps (blankedAt k) (engine.perform c) := by
  cases c with
  | setValue n text =>
      obtain rfl : n.treeOf = k := beq_iff_eq.mp h
      have hkeeps {f : Html.Tree → Html.Tree} (hf : ∀ t, (f t).blanked = t.blanked) :
          Keeps (blankedAt n.treeOf) (Desk.update (·.changeTree n.treeOf f)) := fun d =>
        congrArg (fun s => Desk.mk s d.journal) (blanked_changeTree hf d.device n.treeOf)
      have hset (i : Nat) (t : Html.Tree) : (t.setAttr i "value" text).blanked = t.blanked :=
        Html.Tree.blanked_modify (Html.Row.blanked_setRowAttr text) t i
      have hslot (i : Nat) (text : Option String) (t : Html.Tree) : (t.setFirstText i text).blanked = t.blanked :=
        Html.Tree.blanked_modify (Html.Row.blanked_setRowText text) t (i + 1)
      have hneed : Keeps (blankedAt n.treeOf) (needTreeText text) := .ite (.pure _) (.throw _)
      refine .bind (fun _ => rfl) fun s => .ite ?_ (.ite ?_ (.throw _))
      · exact .bind hneed fun _ => hkeeps (hset _)
      · exact .bind (hkeeps (hslot _ _)) fun _ => .bind hneed fun _ => hkeeps (hslot _ _)
  | _ => cases h

/-- Asking changes nothing. -/
theorem keeps_asking {c : Engine.Call Node} (h : asksOf k c = true) : Keeps id (engine.perform c) := by
  have hfind (test : Html.Row → Bool) (n : Node) (value : String) :
      Keeps id (do needTreeText value; findRow test n) := by
    refine .bind (.ite (.pure _) (.throw _)) fun _ => .bind (fun _ => rfl) fun s => ?_
    split
    · exact .pure _
    · exact .pure _
  cases c with
  | findByIdentifier n value => exact hfind _ n value
  | findByName n value => exact hfind _ n value
  | findByPath n expression =>
      refine .bind (.ite (.pure _) (.throw _)) fun _ => .bind (fun _ => rfl) fun s => ?_
      split
      · exact .pure _
      · exact .throw _
  | findAnchorByText n text =>
      refine .bind (fun _ => rfl) fun s => ?_
      dsimp only
      split
      · exact .pure _
      · exact .pure _
  | attr n name =>
      show Keeps id (attr n name)
      unfold attr
      split
      · exact .throw _
      · exact .pure _
      · exact .bind (fun _ => rfl) fun _ => .pure _
  | textContent n => exact .bind (fun _ => rfl) fun _ => .pure _
  | _ => cases h

end Static

end Crawl
