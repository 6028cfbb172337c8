import Crawl.Proofs.Static.LinkTitle
import Crawl.Proofs.Static.Ownership
import Crawl.Proofs.Text.Words
import Crawl.Proofs.XPath.Anchors
import Mathlib.Order.Bounds.Defs
/-!
# Looking through the whole document

Forms and containers by identifier, and links by identifier, text or title are looked for in the whole document that the
scope belongs to. Three of the queries run over the document that is found for the scope, and the fourth is a path from
the root. Whichever it is, the scope is of no account: from every scope in a page the outcome is the same, and what is
found is the first element of the page that is asked for (`resolve_anywhere`).
-/

namespace Crawl.Static

open Crawl.Action (stateOf outcomeOf bind_ok bind_error read_eq)
open Crawl.Session (outcome_resolve)
open Crawl.XPath (anchorRows hasAttr)

variable {τ : Type} {s : State} {j : Journal} {t : Html.Tree} {k i : Nat} {r : Html.Row} {kind : ElementKind}
  {d : Descriptor}

/-- The kinds of element that are looked for in the whole document, with the property they are looked for by. -/
def rootedPairs : List (ElementKind × Variant) :=
  [(.form, .identifier), (.link, .identifier), (.link, .text), (.link, .title), (.container, .identifier)]

/-! ## What is asked for -/

/-- An element is what a descriptor asks for. -/
def Asked (t : Html.Tree) (d : Descriptor) (i : Nat) : Prop :=
  match d.variant with
  | .text => t.tag? i = some "a" ∧ Text.words (t.textContent i).toList = Text.words d.value.toList
  | .title => t.tag? i = some "a" ∧ ∃ r, t[i]? = some r ∧ ("title", d.value) ∈ r.attrs
  | _ => t.attr? i "id" = some d.value

/-- The test for what a descriptor asks for. -/
def isAsked (t : Html.Tree) (d : Descriptor) (p : Html.Row × Nat) : Bool :=
  match d.variant with
  | .text => p.1.hasTag "a" && wordsAt t p.2 == Text.normalize d.value
  | .title => p.1.hasTag "a" && p.1.attrs.contains ("title", d.value)
  | _ => p.1.attr? "id" == some d.value

theorem isAsked_iff (hrow : t[i]? = some r) : isAsked t d (r, i) = true ↔ Asked t d i := by
  unfold isAsked Asked
  rcases d.variant
  case text =>
    rw [Bool.and_eq_true, beq_iff_eq, Html.Tree.hasTag_iff hrow]
    exact and_congr_right fun _ => Text.normalize_eq_iff
  case title =>
    rw [Bool.and_eq_true, List.contains_iff_mem, Html.Tree.hasTag_iff hrow]
    simp [hrow]
  all_goals simp [Html.Tree.attr?, hrow]

/-- What is asked for is an element. -/
theorem Asked.element (h : Asked t d i) : ∃ r, t[i]? = some r ∧ r.isElement = true := by
  have htag (h : t.tag? i = some "a") : ∃ r, t[i]? = some r ∧ r.isElement = true := by
    obtain ⟨r, hrow, hr⟩ := Option.bind_eq_some_iff.mp h
    exact ⟨r, hrow, Html.Row.isElement_of_tag? hr⟩
  have hattr (h : t.attr? i "id" = some d.value) : ∃ r, t[i]? = some r ∧ r.isElement = true := by
    obtain ⟨r, hrow, hr⟩ := Option.bind_eq_some_iff.mp h
    have helement := isElement_and_attr? r "id" d.value
    rw [beq_iff_eq.mpr hr, Bool.and_true] at helement
    exact ⟨r, hrow, helement⟩
  unfold Asked at h
  split at h
  · exact htag h.1
  · exact htag h.1
  · exact hattr h

/-! ## The first that is asked for -/

/-- The element at which a search of a whole document begins. -/
def startOf (t : Html.Tree) : Nat := t.rootElement?.getD 0

/-- The first element that a search of the whole document comes upon: a title is looked for among all anchors, and
anything else from the first element down. -/
def firstAsked (t : Html.Tree) (d : Descriptor) : Option Nat :=
  if d.variant = .title then (anchorRows t).find? (hasAttr t "title" d.value)
  else ((t.fromHere (startOf t)).find? (isAsked t d)).map (·.2)

/-- Whether a place is looked at. -/
def Searched (t : Html.Tree) (d : Descriptor) (i : Nat) : Prop :=
  d.variant = .title ∨ i = startOf t ∨ t.Under (startOf t) i

/-- An anchor with the title is what is asked for by that title. -/
theorem asked_title (h : t.Nested) (hvariant : d.variant = .title) :
    Asked t d i ↔ i ∈ anchorRows t ∧ hasAttr t "title" d.value i = true := by
  unfold Asked
  rw [hvariant, XPath.mem_anchorRows h, XPath.hasAttr_iff]

/-- **What is found is the first in the document that is asked for.** -/
theorem firstAsked_some (h : t.Nested) (hfirst : firstAsked t d = some i) : IsLeast {i | Asked t d i} i := by
  unfold firstAsked at hfirst
  split at hfirst
  · next hvariant =>
      obtain ⟨hmem, hpass, hleast⟩ := (Html.Tree.find?_least (XPath.pairwise_anchorRows t) _ i).mp hfirst
      refine ⟨(asked_title h hvariant).mpr ⟨hmem, hpass⟩, fun m hm => ?_⟩
      obtain ⟨hmem', hpass'⟩ := (asked_title h hvariant).mp hm
      exact hleast m hmem' hpass'
  · obtain ⟨⟨r, i'⟩, hfind, rfl⟩ := Option.map_eq_some_iff.mp hfirst
    obtain ⟨hmem, hpass, hleast⟩ := (Html.Tree.find?_least (t.pairwise_fromHere (startOf t)) _ _).mp hfind
    have hrow : t[i']? = some r := (Html.Tree.mem_fromHere_iff.mp hmem).1
    refine ⟨(isAsked_iff hrow).mp hpass, fun m hm => ?_⟩
    -- an element before what was found would not be before the first element, so it would have been met
    obtain ⟨q, hq, helement⟩ := hm.element
    rcases Nat.le_total i' m with hle | hle
    · exact hle
    · have hmem' : (q, m) ∈ t.fromHere (startOf t) :=
        Html.Tree.mem_fromHere_of_le hmem (Html.Tree.rootElement?_le hq helement) hle hq
      exact hleast (q, m) hmem' ((isAsked_iff hq).mpr hm)

/-- If nothing is found, then nothing that is looked at is asked for. -/
theorem firstAsked_none (h : t.Nested) (hfirst : firstAsked t d = none) (hi : Searched t d i) : ¬ Asked t d i := by
  intro hasked
  unfold firstAsked at hfirst
  split at hfirst
  · next hvariant =>
      obtain ⟨hmem, hpass⟩ := (asked_title h hvariant).mp hasked
      exact absurd hpass (List.find?_eq_none.mp hfirst i hmem)
  · next hvariant =>
      obtain ⟨r, hrow, -⟩ := hasked.element
      have hmem : (r, i) ∈ t.fromHere (startOf t) := Html.Tree.mem_fromHere_iff.mpr ⟨hrow, hi.resolve_left hvariant⟩
      have hfail := List.find?_eq_none.mp (Option.map_eq_none_iff.mp hfirst) (r, i) hmem
      exact hfail ((isAsked_iff hrow).mpr hasked)

/-! ## Searching -/

/-- The tag that a match must have, where it must have one. -/
def neededTag : ElementKind → Variant → Option String
  | _, .title => some "a"
  | .form, _ => some "form"
  | _, _ => none

/-- The rule for a kind that is looked for in the whole document. -/
def rootedRule (kind : ElementKind) (variant : Variant) : Rule where
  query := match variant with
    | .text => .anchorText
    | .title => .anchorTitle
    | _ => .identifier
  root := if variant = .title then .scope else .document
  check := (neededTag kind variant).map .tag
  expected := ((neededTag kind variant).map fun tag => "<" ++ tag ++ ">").getD "element"

theorem find?_rooted {variant : Variant} (h : (kind, variant) ∈ rootedPairs) :
    Rule.find? kind variant = some (rootedRule kind variant) := by
  simp only [rootedPairs, List.mem_cons, Prod.mk.injEq, List.not_mem_nil, or_false] at h
  rcases h with ⟨rfl, rfl⟩ | ⟨rfl, rfl⟩ | ⟨rfl, rfl⟩ | ⟨rfl, rfl⟩ | ⟨rfl, rfl⟩ <;> rfl

theorem ruled_rooted {p : Processor} (htarget : p.target = .element kind (some d))
    (h : (kind, d.variant) ∈ rootedPairs) : Session.Ruled p d (rootedRule kind d.variant) where
  kind := by
    rw [htarget]
    rintro rfl
    revert h
    cases d.variant <;> decide
  descriptor := by
    rw [htarget]
    rfl
  rule := by
    rw [htarget]
    exact find?_rooted h

/-- The tag of an element as a check sees it. -/
def tagAt (t : Html.Tree) (i : Nat) : String := Text.lower ((t.tag? i).getD "")

/-- What becomes of the element that was found. -/
def accepted (t : Html.Tree) (k : Nat) (kind : ElementKind) (d : Descriptor) (i : Nat) : Except Failure Node :=
  match neededTag kind d.variant with
  | none => .ok (.element k i)
  | some needed =>
    if tagAt t i == needed then .ok (.element k i)
    else .error (.typeMismatch (.unexpected kind d (tagAt t i) ("<" ++ needed ++ ">")))

/-- What a search through a whole document ends with. -/
def wholeSearch (t : Html.Tree) (k : Nat) (kind : ElementKind) (d : Descriptor) : Except Failure Node :=
  if d.variant = .text ∨ Text.isTreeText d.value = true then
    match firstAsked t d with
    | none => .error (.nodeNotFound (.noMatch kind d))
    | some i => accepted t k kind d i
  else .error (.refused .notTreeText)

/-- From any node of a page, the search begins at a node of that page, and where it matters at its first element. -/
theorem searchRoot_rooted {σ : Session State Node τ} {base : String} (p : Processor) (kind : ElementKind)
    (variant : Variant) {n : Node} (hn : n.treeOf = k) (hbase : σ.desk.device.baseOf k = some base) :
    ∃ root σ', Session.searchRoot engine p n (rootedRule kind variant).root σ = .ok root σ' ∧ root.treeOf = k ∧
      (variant ≠ .title → root.rowOf σ'.desk.device = startOf (σ'.desk.device.tree k)) ∧
      σ'.desk.device.tree k = σ.desk.device.tree k := by
  unfold rootedRule
  dsimp only
  split
  · next hvariant => exact ⟨n, σ, rfl, hn, fun hne => absurd hvariant hne, rfl⟩
  · subst hn
    cases n with
    | document i l u => exact ⟨_, σ, rfl, rfl, fun _ => rfl, rfl⟩
    | element l i =>
        have howner : engine.ownerDocument (.element l i) σ.desk =
            .ok (.document σ.desk.device.handles l base) ⟨σ.desk.device.handed, σ.desk.journal⟩ :=
          ownerDocument_element hbase
        exact ⟨_, _, Session.run_onDesk_ok howner, rfl, fun _ => rfl, rfl⟩

theorem variant_of_rooted {variant : Variant} (h : (kind, variant) ∈ rootedPairs) :
    variant = .identifier ∨ variant = .text ∨ variant = .title := by
  cases kind <;> cases variant <;> revert h <;> decide

theorem ask_identifier (root : Node) (hvariant : d.variant = .identifier)
    (hrow : root.rowOf s = startOf (s.tree root.treeOf)) :
    findByAttr "id" root d.value ⟨s, j⟩ = Action.ofExcept (if Text.isTreeText d.value then
      .ok ((firstAsked (s.tree root.treeOf) d).map (.element root.treeOf)) else .error (.refused .notTreeText)) ⟨s, j⟩ := by
  have htest : isAsked (s.tree root.treeOf) d = fun p => p.1.attr? "id" == some d.value := by
    funext p
    simp [isAsked, hvariant]
  have hne : ¬ d.variant = .title := by simp [hvariant]
  rw [findByAttr_eq, firstAsked, if_neg hne, htest, hrow, Option.map_map]
  rfl

theorem ask_text (root : Node) (hvariant : d.variant = .text) (hrow : root.rowOf s = startOf (s.tree root.treeOf)) :
    findAnchorByText root d.value ⟨s, j⟩ = .ok ((firstAsked (s.tree root.treeOf) d).map (.element root.treeOf)) ⟨s, j⟩ := by
  have htest : isAsked (s.tree root.treeOf) d =
      fun p => p.1.hasTag "a" && wordsAt (s.tree root.treeOf) p.2 == Text.normalize d.value := by
    funext p
    simp [isAsked, hvariant]
  have hne : ¬ d.variant = .title := by simp [hvariant]
  rw [findAnchorByText_find, firstAsked, if_neg hne, htest, hrow, Option.map_map]
  rfl

/-- What is asked of the engine is answered with the first element that is asked for. -/
theorem ask_rooted {root : Node} (h : (kind, d.variant) ∈ rootedPairs) (hroot : root.treeOf = k)
    (hrow : d.variant ≠ .title → root.rowOf s = startOf (s.tree k)) :
    (rootedRule kind d.variant).query.ask engine root d.value ⟨s, j⟩ =
      Action.ofExcept (if d.variant = .text ∨ Text.isTreeText d.value = true then
        .ok ((firstAsked (s.tree k) d).map (.element k)) else .error (.refused .notTreeText)) ⟨s, j⟩ := by
  subst hroot
  rcases variant_of_rooted h with hvariant | hvariant | hvariant
  · have hask := ask_identifier (j := j) root hvariant (hrow (by simp [hvariant]))
    simp only [rootedRule, hvariant, reduceCtorEq, false_or]
    exact hask
  · have hask := ask_text (j := j) root hvariant (hrow (by simp [hvariant]))
    simp only [rootedRule, hvariant, true_or, if_true]
    exact hask
  · have hask := ask_title (s := s) (j := j) root d
    simp only [rootedRule, hvariant, reduceCtorEq, false_or, firstAsked, if_true]
    exact hask

/-- The element that was found is judged by its tag. -/
theorem judged_rooted {σ : Session State Node τ} {p : Processor} (hkind : p.target.kind = kind) (k i : Nat) :
    Session.judged engine p d (rootedRule kind d.variant) (some (.element k i)) σ =
      Action.ofExcept (accepted (σ.desk.device.tree k) k kind d i) σ := by
  unfold Session.judged accepted rootedRule
  dsimp only
  cases neededTag kind d.variant with
  | none => rfl
  | some needed =>
      have hholds :
          (Session.onDesk ((Check.tag needed).holds engine (.element k i)) : Action (Session State Node τ) Bool) σ =
            .ok (tagAt (σ.desk.device.tree k) i == needed) σ := rfl
      have htag : (Session.onDesk (engine.tagName (.element k i)) : Action (Session State Node τ) String) σ =
          .ok (tagAt (σ.desk.device.tree k) i) σ := rfl
      simp only [Option.map_some, Option.getD_some]
      rw [bind_ok hholds]
      cases tagAt (σ.desk.device.tree k) i == needed with
      | true => rfl
      | false =>
          refine (bind_ok htag _).trans ?_
          rw [hkind]
          rfl

/-- **A search through a whole document depends on nothing but its page.** -/
theorem outcome_rooted {σ : Session State Node τ} {p : Processor} {n : Node} {base : String}
    (htarget : p.target = .element kind (some d)) (h : (kind, d.variant) ∈ rootedPairs) (hn : n.treeOf = k)
    (hbase : σ.desk.device.baseOf k = some base) :
    outcomeOf (Session.resolve engine p (some n) σ) = wholeSearch (σ.desk.device.tree k) k kind d := by
  have hkind : p.target.kind = kind := by
    rw [htarget]
    rfl
  obtain ⟨root, σ', hsearchRoot, hroot, hrow, htree⟩ := searchRoot_rooted p kind d.variant hn hbase
  have hask := onDesk_ofExcept (ask_rooted (j := σ'.desk.journal) h hroot hrow)
  rw [outcome_resolve, Session.search_ruled (ruled_rooted htarget h), bind_ok hsearchRoot, ← htree]
  unfold wholeSearch
  split at hask
  · next htext =>
      rw [if_pos htext, bind_ok hask]
      cases firstAsked (σ'.desk.device.tree k) d with
      | none =>
          rw [← hkind]
          rfl
      | some i =>
          rw [Option.map_some, judged_rooted hkind]
          dsimp only
          cases accepted (σ'.desk.device.tree k) k kind d i <;> rfl
  · next htext =>
      rw [if_neg htext, bind_error hask]
      rfl

/-! ## Pages -/

theorem lasting_nested : LastingTree Html.Tree.Nested where
  empty := ⟨nofun, fun _ _ _ hr => nomatch hr⟩
  read _ _ := Html.parse_nested
  typed _ i text ht := ht.setAttr i "value" text
  rewritten _ i text ht := ht.setFirstText i text

/-- The page of a document that was opened remains one whose rows have parents. -/
theorem Opens.nested {d d₁ : Desk State} {i : Nat} {u : String} (h : Opens d (.document i k u) d₁)
    (hreach : engine.Reaches d₁.device s) : (s.tree k).Nested := by
  have hlasting := lasting_nested.lasting d.device.loaded.size
  have hopened := h.lasting hlasting (lasting_nested.unloaded d.device)
  -- the page is among those that were added by the call that opened it
  obtain ⟨i', u', heq, -, -⟩ := h.adds
  cases heq
  exact Reaches.lasting hlasting hreach hopened _ (Nat.le_refl _)

/-! ## From every scope -/

/-- What looking through a whole document comes to: the first of its elements that is asked for, unless that element is
not the form that it should be, nothing that is looked at is asked for, or the value is none that a tree can hold. -/
inductive FirstOfAll (t : Html.Tree) (k : Nat) (kind : ElementKind) (d : Descriptor) : Except Failure Node → Prop
  | found {i : Nat} (least : IsLeast {i | Asked t d i} i) (fits : kind = .form → tagAt t i = "form") :
    FirstOfAll t k kind d (.ok (.element k i))
  | differs {i : Nat} (least : IsLeast {i | Asked t d i} i) (form : kind = .form) (differs : tagAt t i ≠ "form") :
    FirstOfAll t k kind d (.error (.typeMismatch (.unexpected kind d (tagAt t i) "<form>")))
  | missing (none : ∀ i, Searched t d i → ¬ Asked t d i) :
    FirstOfAll t k kind d (.error (.nodeNotFound (.noMatch kind d)))
  | refused (noText : d.variant ≠ .text) (value : Text.isTreeText d.value = false) :
    FirstOfAll t k kind d (.error (.refused .notTreeText))

theorem accepted_firstOfAll (h : (kind, d.variant) ∈ rootedPairs) (hleast : IsLeast {i | Asked t d i} i) :
    FirstOfAll t k kind d (accepted t k kind d i) := by
  unfold accepted
  by_cases hform : kind = .form
  · subst hform
    have hneeded : neededTag .form d.variant = some "form" := by
      revert h
      cases d.variant <;> decide
    simp only [hneeded]
    by_cases htag : tagAt t i = "form"
    · rw [if_pos (beq_iff_eq.mpr htag)]
      exact .found hleast fun _ => htag
    · rw [if_neg fun heq => htag (beq_iff_eq.mp heq)]
      exact .differs hleast rfl htag
  · by_cases hvariant : d.variant = .title
    · have htag : t.tag? i = some "a" := by
        have hasked : Asked t d i := hleast.1
        unfold Asked at hasked
        rw [hvariant] at hasked
        exact hasked.1
      have hpasses : (tagAt t i == "a") = true := by
        rw [tagAt, htag]
        decide +kernel
      simp only [hvariant, neededTag, hpasses, if_true]
      exact .found hleast fun h => absurd h hform
    · have hneeded : neededTag kind d.variant = none := by
        revert h hform hvariant
        cases kind <;> cases d.variant <;> decide
      simp only [hneeded]
      exact .found hleast fun h => absurd h hform

theorem wholeSearch_firstOfAll (ht : t.Nested) (h : (kind, d.variant) ∈ rootedPairs) :
    FirstOfAll t k kind d (wholeSearch t k kind d) := by
  unfold wholeSearch
  split
  · cases hfirst : firstAsked t d with
    | none => exact .missing fun i => firstAsked_none ht hfirst
    | some i => exact accepted_firstOfAll h (firstAsked_some ht hfirst)
  · next hrefused =>
      obtain ⟨hvariant, hvalue⟩ := not_or.mp hrefused
      exact .refused hvariant (Bool.eq_false_iff.mpr hvalue)

/-- **The scope is of no account for what is looked for in the whole document.** Take a document that was opened under an
address, and two scopes in it, the document itself or any of its elements, each at some time later. As long as the page is
the same at both times, the same processor or another one with the same target comes to the same outcome from both: the
same node or the same failure. What is found is the first element of the whole document, in its order, that is asked
for. -/
theorem resolve_anywhere {d₀ d₁ : Desk State} {i k : Nat} {u : String} (hopens : Opens d₀ (.document i k u) d₁)
    (hurl : u ≠ "") (kind : ElementKind) (d : Descriptor) (hrooted : (kind, d.variant) ∈ rootedPairs)
    (σ σ' : Session State Node τ) (hσ : engine.Reaches d₁.device σ.desk.device)
    (hσ' : engine.Reaches d₁.device σ'.desk.device) (hsame : σ.desk.device.tree k = σ'.desk.device.tree k)
    (p p' : Processor) (hp : p.target = .element kind (some d)) (hp' : p'.target = .element kind (some d))
    (n n' : Node) (hn : n.treeOf = k) (hn' : n'.treeOf = k) :
    outcomeOf (Session.resolve engine p (some n) σ) = outcomeOf (Session.resolve engine p' (some n') σ') ∧
      FirstOfAll (σ.desk.device.tree k) k kind d (outcomeOf (Session.resolve engine p (some n) σ)) := by
  obtain ⟨base, hrecorded⟩ := recorded_of_ne hurl
  have hbase : d₁.device.baseOf k = some base := by
    obtain ⟨i', u', hdocument, -, hbase⟩ := hopens.adds
    cases hdocument
    exact hbase.trans hrecorded
  rw [outcome_rooted hp hrooted hn (Reaches.baseOf hσ hbase), outcome_rooted hp' hrooted hn' (Reaches.baseOf hσ' hbase),
    ← hsame]
  exact ⟨rfl, wholeSearch_firstOfAll (hopens.nested hσ) hrooted⟩

/-- An engine that knows a page with two links that have the same words. -/
def sameWords : State :=
  ⟨[("a", "<div><a>Go\non</a></div><p><a>Go on</a></p>")], [], Client.start [], 1, #[], 0⟩

/-- The desk after the page was loaded. -/
def sameWordsLoaded : Desk State := stateOf (load "a" none ⟨sameWords, #[]⟩)

/-- The link with these words. -/
def goOn : Descriptor := ⟨.text, "Go on", by decide⟩

/-- A session that has this page. -/
def sameWordsSession : Session State Node Unit := { Session.start sameWordsLoaded.device () with desk := sameWordsLoaded }

/-- The first link is found from the document, and from the second one too. -/
theorem resolve_anywhere_sameWords :
    Opens ⟨sameWords, #[]⟩ (.document 0 0 "a") sameWordsLoaded ∧ (.link, goOn.variant) ∈ rootedPairs ∧
      outcomeOf (Session.resolve engine ⟨0, .element .link (some goOn)⟩ (some (.document 0 0 "a")) sameWordsSession) =
        .ok (.element 0 7) ∧
      outcomeOf (Session.resolve engine ⟨0, .element .link (some goOn)⟩ (some (.element 0 11)) sameWordsSession) =
        .ok (.element 0 7) := by
  have hload : load "a" none ⟨sameWords, #[]⟩ = .ok (.document 0 0 "a") sameWordsLoaded :=
    Action.ok_of_valueOf (by decide +kernel)
  have hopens : Opens ⟨sameWords, #[]⟩ (.document 0 0 "a") sameWordsLoaded := @Opens.loading _ _ _ "a" hload
  obtain ⟨hsame, -⟩ := resolve_anywhere hopens (by decide) .link goOn (by decide) sameWordsSession sameWordsSession .refl
    .refl rfl ⟨0, .element .link (some goOn)⟩ ⟨0, .element .link (some goOn)⟩ rfl rfl (.element 0 11) (.document 0 0 "a") rfl
    rfl
  have hfound : outcomeOf (Session.resolve engine ⟨0, .element .link (some goOn)⟩ (some (.document 0 0 "a"))
      sameWordsSession) = .ok (.element 0 7) := by rfl
  exact ⟨hopens, by decide, hfound, hsame.trans hfound⟩

end Crawl.Static
