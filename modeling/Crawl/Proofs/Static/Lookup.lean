import Crawl.Proofs.Html.Descent
import Crawl.Proofs.Session.AtDesk
import Crawl.Static.Engine
/-!
# Looking up fields

Text fields and submit controls are looked up in the scope: by identifier anywhere, and by name in a form. The search
begins with the scope itself. So the first row under the scope that carries what is asked for decides, unless the scope
carries it, and then the scope is taken for the match whatever stands under it (`resolve_field`).
-/

namespace Crawl.Static

open Crawl.Action (stateOf outcomeOf bind_ok bind_error read_eq)
open Crawl.Session (outcome_resolve)

variable {τ : Type} {s : State} {j : Journal} {k i : Nat} {r : Html.Row}

/-! ## Rows as the checks see them -/

/-- The tag of a row as a check sees it. -/
def tagOf (r : Html.Row) : String := Text.lower (r.tag?.getD "")

/-- The type of a row as it is written. -/
def writtenType (r : Html.Row) : String := (r.attr? "type").getD ""

/-- The type of a row as a check sees it. -/
def typeOf (r : Html.Row) : String := Text.lower (Text.strip (writtenType r))

/-- Whether a row passes a check. -/
def passes (r : Html.Row) : Check → Bool
  | .textField =>
    if tagOf r == "textarea" then true
    else if tagOf r == "input" then textInputTypes.contains (typeOf r)
    else false
  | .submitControl =>
    if tagOf r == "input" then ["submit", "image"].contains (typeOf r)
    else if tagOf r == "button" then ["", "submit"].contains (typeOf r)
    else false
  | .tag name => tagOf r == name

theorem tag_element (hrow : (s.tree k)[i]? = some r) : Node.tag s (.element k i) = tagOf r := by
  simp only [Node.tag, Html.Tree.tag?, hrow]
  rfl

theorem tagName_eq (hrow : (s.tree k)[i]? = some r) :
    engine.tagName (.element k i) ⟨s, j⟩ = .ok (tagOf r) ⟨s, j⟩ := by
  rw [← tag_element hrow]
  rfl

theorem inputType_eq (hrow : (s.tree k)[i]? = some r) :
    inputType engine (.element k i) ⟨s, j⟩ = .ok (typeOf r) ⟨s, j⟩ := by
  have hattr : engine.attr (.element k i) "type" ⟨s, j⟩ = .ok (r.attr? "type") ⟨s, j⟩ := by
    show (do return Node.attr? (← Desk.read) (.element k i) "type" : Work (Option String)) ⟨s, j⟩ = _
    rw [bind_ok (read_eq _)]
    simp only [Node.attr?, Node.row?, Node.treeOf, Node.rowOf, hrow]
    rfl
  rw [inputType, bind_ok hattr]
  rfl

/-- A check of an element looks at its row and changes nothing. -/
theorem holds_eq (hrow : (s.tree k)[i]? = some r) (check : Check) :
    check.holds engine (.element k i) ⟨s, j⟩ = .ok (passes r check) ⟨s, j⟩ := by
  have htag := tagName_eq (j := j) hrow
  have htype := inputType_eq (j := j) hrow
  cases check with
  | textField =>
      rw [Check.holds, bind_ok htag, passes]
      cases tagOf r == "textarea" with
      | true => rfl
      | false =>
          cases tagOf r == "input" with
          | true => exact bind_ok htype _
          | false => rfl
  | submitControl =>
      rw [Check.holds, bind_ok htag, passes]
      cases tagOf r == "input" with
      | true => exact bind_ok htype _
      | false =>
          cases tagOf r == "button" with
          | true => exact bind_ok htype _
          | false => rfl
  | tag name =>
      rw [Check.holds, bind_ok htag]
      rfl

/-! ## Searching by an attribute -/

/-- The attribute that a field is looked up by. -/
def attributeFor : Variant → String
  | .name => "name"
  | _ => "id"

/-- Whether a row carries what a descriptor asks for. -/
def carries (d : Descriptor) (r : Html.Row) : Bool := r.attr? (attributeFor d.variant) == some d.value

/-- Only elements carry attributes. -/
theorem isElement_and_attr? (r : Html.Row) (name value : String) :
    (r.isElement && r.attr? name == some value) = (r.attr? name == some value) := by
  obtain ⟨depth, content⟩ := r
  cases content <;> rfl

/-- A search by an attribute goes through the row it starts from and the rows below it, and changes nothing. -/
theorem findByAttr_eq (name value : String) (n : Node) :
    findByAttr name n value ⟨s, j⟩ = Action.ofExcept (if Text.isTreeText value then
      .ok ((((s.tree n.treeOf).fromHere (n.rowOf s)).find? fun p => p.1.attr? name == some value).map fun p =>
        .element n.treeOf p.2)
      else .error (.refused .notTreeText)) ⟨s, j⟩ := by
  unfold findByAttr needTreeText
  split
  · rw [pure_bind, findRow, bind_ok (read_eq _)]
    simp only [isElement_and_attr?]
    cases ((s.tree n.treeOf).fromHere (n.rowOf s)).find? fun p => p.1.attr? name == some value <;> rfl
  · rfl

/-- So does a search for an anchor by its words. -/
theorem findAnchorByText_find (n : Node) (request : String) :
    findAnchorByText n request ⟨s, j⟩ = .ok ((((s.tree n.treeOf).fromHere (n.rowOf s)).find? fun p =>
      p.1.hasTag "a" && wordsAt (s.tree n.treeOf) p.2 == Text.normalize request).map fun p => .element n.treeOf p.2) ⟨s, j⟩ := by
  rw [findAnchorByText, bind_ok (read_eq _)]
  dsimp only
  cases ((s.tree n.treeOf).fromHere (n.rowOf s)).find? fun p =>
    p.1.hasTag "a" && wordsAt (s.tree n.treeOf) p.2 == Text.normalize request <;> rfl

/-! ## Resolving a field -/

/-- The check of the rules for a kind of field, and what it asks for in words. -/
def fieldCheck : ElementKind → Check × String
  | .textField => (.textField, "text input")
  | _ => (.submitControl, "submit control")

/-- The kinds of field. -/
def IsField (kind : ElementKind) : Prop := kind = .textField ∨ kind = .submitControl

/-- What the row that a search for a field has come upon is taken for. -/
def judged (k : Nat) (kind : ElementKind) (d : Descriptor) (p : Html.Row × Nat) : Except Failure Node :=
  if passes p.1 (fieldCheck kind).1 then .ok (.element k p.2)
  else .error (.typeMismatch (.unexpected kind d (tagOf p.1) (fieldCheck kind).2))

/-- What a search for a field at and below a row ends with. -/
def fieldSearch (t : Html.Tree) (k i : Nat) (kind : ElementKind) (d : Descriptor) : Except Failure Node :=
  if Text.isTreeText d.value then
    match (t.fromHere i).find? fun p => carries d p.1 with
    | some p => judged k kind d p
    | none => .error (.nodeNotFound (.noMatch kind d))
  else .error (.refused .notTreeText)

/-- What is at or below a place is in the tree. -/
theorem mem_fromHere {t : Html.Tree} {p : Html.Row × Nat} (h : p ∈ t.fromHere i) : t[p.2]? = some p.1 := by
  unfold Html.Tree.fromHere at h
  cases hi : t[i]? with
  | none =>
      rw [hi] at h
      cases h
  | some r =>
      rw [hi] at h
      rcases List.mem_cons.mp h with rfl | h
      · exact hi
      · exact (Html.Tree.mem_below.mp h).1

/-- A field is looked up by identifier anywhere, or by name in a form. -/
def LooksInScope (s : State) (scope : Node) (d : Descriptor) : Prop :=
  d.variant = .identifier ∨ d.variant = .name ∧ scope.tag s = "form"

/-- The rule for a field. -/
def fieldRule (kind : ElementKind) (variant : Variant) : Rule where
  query := if variant = .name then .name else .identifier
  root := if variant = .name then .form else .scope
  check := some (fieldCheck kind).1
  expected := (fieldCheck kind).2

theorem forTarget_field {kind : ElementKind} {d : Descriptor} (hkind : IsField kind)
    (hvariant : d.variant = .identifier ∨ d.variant = .name) :
    Rule.forTarget (.element kind (some d)) = .ok (d, fieldRule kind d.variant) := by
  obtain ⟨variant, value, hvalue⟩ := d
  rcases hkind with rfl | rfl <;> rcases hvariant with h | h <;> cases h <;> rfl

/-- What is done at the desk without a change is done in the session without a change. -/
theorem onDesk_ofExcept {σ : Session State Node τ} {α : Type} {act : Work α} {x : Except Failure α}
    (h : act σ.desk = Action.ofExcept x σ.desk) : (Session.onDesk act : Action (Session State Node τ) α) σ = Action.ofExcept x σ := by
  unfold Session.onDesk Action.within
  rw [h]
  cases x <;> rfl

theorem searchRoot_field {σ : Session State Node τ} (p : Processor) (kind : ElementKind) {d : Descriptor} {scope : Node}
    (hscope : LooksInScope σ.desk.device scope d) :
    Session.searchRoot engine p scope (fieldRule kind d.variant).root σ = .ok scope σ := by
  rcases hscope with hvariant | ⟨hvariant, hform⟩
  · simp only [fieldRule, hvariant]
    rfl
  · have htag : (Session.onDesk (engine.tagName scope) : Action (Session State Node τ) String) σ = .ok "form" σ := by
      rw [← hform]
      rfl
    simp only [fieldRule, hvariant]
    exact bind_ok htag _

theorem searchRoot_outside {σ : Session State Node τ} (p : Processor) {scope : Node} (h : scope.tag σ.desk.device ≠ "form") :
    ∃ f, Session.searchRoot engine p scope .form σ = .error f σ := by
  have htag : (Session.onDesk (engine.tagName scope) : Action (Session State Node τ) String) σ =
      .ok (scope.tag σ.desk.device) σ := rfl
  rw [Session.searchRoot, bind_ok htag, if_neg h]
  exact ⟨_, rfl⟩

theorem ask_field (kind : ElementKind) {d : Descriptor} (scope : Node) (hvariant : d.variant = .identifier ∨ d.variant = .name) :
    (fieldRule kind d.variant).query.ask engine scope d.value = findByAttr (attributeFor d.variant) scope d.value := by
  rcases hvariant with h | h <;> simp only [fieldRule, h] <;> rfl

theorem search_element {p : Processor} {kind : ElementKind} {d : Descriptor} {scope : Option Node}
    (htarget : p.target = .element kind (some d)) (hkind : IsField kind) :
    (Session.search engine p scope : Action (Session State Node τ) Node) = Session.resolveElement engine p scope := by
  unfold Session.search
  rw [if_neg]
  rw [htarget]
  rcases hkind with rfl | rfl <;> exact nofun

/-- Resolving a field comes down to a search at and below the scope, and changes nothing by itself. -/
theorem search_field {σ : Session State Node τ} {p : Processor} {kind : ElementKind} {d : Descriptor} {scope : Node}
    (htarget : p.target = .element kind (some d)) (hkind : IsField kind)
    (hscope : LooksInScope σ.desk.device scope d) :
    Session.search engine p (some scope) σ = Action.ofExcept (fieldSearch (σ.desk.device.tree scope.treeOf) scope.treeOf
      (scope.rowOf σ.desk.device) kind d) σ := by
  have hvariant : d.variant = .identifier ∨ d.variant = .name := hscope.imp id And.left
  have hrule : (Action.ofExcept (Rule.forTarget p.target) : Action (Session State Node τ) _) σ =
      .ok (d, fieldRule kind d.variant) σ := by
    rw [htarget, forTarget_field hkind hvariant]
    rfl
  have hask := onDesk_ofExcept (τ := τ) (findByAttr_eq (j := σ.desk.journal) (attributeFor d.variant) d.value scope)
  have hcheck : (fieldRule kind d.variant).check = some (fieldCheck kind).1 := rfl
  rw [search_element htarget hkind, Session.resolveElement, bind_ok hrule]
  simp only [hcheck]
  rw [bind_ok (searchRoot_field p kind hscope), ask_field kind scope hvariant]
  unfold fieldSearch
  cases htext : Text.isTreeText d.value with
  | false =>
      simp only [htext] at hask
      exact bind_error hask _
  | true =>
      simp only [htext, if_true] at hask ⊢
      unfold carries
      cases hfind : ((σ.desk.device.tree scope.treeOf).fromHere (scope.rowOf σ.desk.device)).find?
          fun p => p.1.attr? (attributeFor d.variant) == some d.value with
      | none =>
          rw [hfind] at hask
          rw [bind_ok hask, htarget]
          rfl
      | some q =>
          rw [hfind] at hask
          have hrow := mem_fromHere (List.mem_of_find?_eq_some hfind)
          have hholds := onDesk_ofExcept (τ := τ) (x := .ok _) (holds_eq (j := σ.desk.journal) hrow (fieldCheck kind).1)
          have htag := onDesk_ofExcept (τ := τ) (x := .ok _) (tagName_eq (j := σ.desk.journal) hrow)
          rw [bind_ok hask, Option.map_some]
          dsimp only
          rw [bind_ok hholds]
          unfold judged
          cases passes q.1 (fieldCheck kind).1 with
          | true => rfl
          | false =>
              refine (bind_ok htag _).trans ?_
              rw [htarget]
              rfl

/-- A field is found in a scope where it can be looked up. -/
theorem search_field_ok {σ σ' : Session State Node τ} {p : Processor} {kind : ElementKind} {d : Descriptor}
    {scope : Option Node} {n : Node} (htarget : p.target = .element kind (some d)) (hkind : IsField kind)
    (h : Session.search engine p scope σ = .ok n σ') : ∃ node, scope = some node ∧ LooksInScope σ.desk.device node d := by
  rw [search_element htarget hkind, Session.resolveElement, htarget] at h
  by_cases hvariant : d.variant = .identifier ∨ d.variant = .name
  · rw [forTarget_field hkind hvariant] at h
    cases scope with
    | none => cases h
    | some node =>
        refine ⟨node, rfl, hvariant.imp id fun hname => ⟨hname, ?_⟩⟩
        by_cases hform : node.tag σ.desk.device = "form"
        · exact hform
        · have hrule : (Action.ofExcept (.ok (d, fieldRule kind d.variant)) : Action (Session State Node τ) _) σ =
              .ok (d, fieldRule kind d.variant) σ := rfl
          rw [bind_ok hrule] at h
          simp only [fieldRule, hname, if_true] at h
          obtain ⟨f, hroot⟩ := searchRoot_outside p hform
          rw [bind_error hroot] at h
          cases h
  · obtain ⟨variant, value, hvalue⟩ := d
    rcases hkind with rfl | rfl <;> cases variant <;> first | cases h | exact absurd (by simp) hvariant

/-- A field that was found is an element that passes the check of its kind. -/
theorem resolve_field_ok {σ σ' : Session State Node τ} {p : Processor} {kind : ElementKind} {d : Descriptor}
    {scope : Option Node} {n : Node} (htarget : p.target = .element kind (some d)) (hkind : IsField kind)
    (h : Session.resolve engine p scope σ = .ok n σ') :
    σ'.desk.device = σ.desk.device ∧
      ∃ k i r, n = .element k i ∧ (σ.desk.device.tree k)[i]? = some r ∧ passes r (fieldCheck kind).1 = true := by
  cases hsearch : Session.search engine p scope σ with
  | error f σ₁ =>
      rw [Session.resolve_error hsearch] at h
      cases h
  | ok node σ₁ =>
      rw [Session.resolve_ok hsearch] at h
      cases h
      obtain ⟨root, rfl, hscope⟩ := search_field_ok htarget hkind hsearch
      rw [search_field htarget hkind hscope, fieldSearch] at hsearch
      split at hsearch
      · split at hsearch
        · next p hfind =>
            unfold judged at hsearch
            split at hsearch
            · next hpasses =>
                cases hsearch
                exact ⟨rfl, _, _, p.1, rfl, mem_fromHere (List.mem_of_find?_eq_some hfind), hpasses⟩
            · cases hsearch
        · cases hsearch
      · cases hsearch

/-! ## The first field under the scope -/

/-- What is promised of looking up a field in the scope of a row: the first row under the scope that carries what is
asked for is the match when it is of the right kind and a mismatch when it is not, and nothing is found just when no
row under the scope carries it. -/
structure FindsUnder (t : Html.Tree) (k i : Nat) (kind : ElementKind) (d : Descriptor) (outcome : Except Failure Node) :
    Prop where
  found : ∀ n, outcome = .ok n ↔
    ∃ m q, t.First i (carries d) m q ∧ passes q (fieldCheck kind).1 = true ∧ n = .element k m
  mismatch : ∀ e, outcome = .error (.typeMismatch e) ↔
    ∃ m q, t.First i (carries d) m q ∧ passes q (fieldCheck kind).1 = false ∧
      e = .unexpected kind d (tagOf q) (fieldCheck kind).2
  missing : ∀ e, outcome = .error (.nodeNotFound e) ↔
    (∀ m q, t[m]? = some q → t.Under i m → carries d q = false) ∧ e = .noMatch kind d
  only : ∀ f, outcome = .error f → f.kind = .typeMismatch ∨ f.kind = .nodeNotFound

/-- A search below a row keeps the promise. -/
theorem findsUnder_below (t : Html.Tree) (k i : Nat) (kind : ElementKind) (d : Descriptor) :
    FindsUnder t k i kind d (match (t.below i).find? fun p => carries d p.1 with
      | some p => judged k kind d p
      | none => .error (.nodeNotFound (.noMatch kind d))) := by
  cases hfind : (t.below i).find? fun p => carries d p.1 with
  | none =>
      have hnone := Html.Tree.find?_below_none.mp hfind
      have hno (m : Nat) (q : Html.Row) : ¬ t.First i (carries d) m q := fun h =>
        Bool.false_ne_true ((hnone m q h.row h.under).symm.trans h.passes)
      refine ⟨fun n => ⟨nofun, fun ⟨m, q, h, _⟩ => absurd h (hno m q)⟩,
        fun e => ⟨nofun, fun ⟨m, q, h, _⟩ => absurd h (hno m q)⟩, fun e => ?_, fun f hf => ?_⟩
      · constructor
        · rintro ⟨⟩
          exact ⟨hnone, rfl⟩
        · rintro ⟨-, rfl⟩
          rfl
      · cases hf
        exact .inr rfl
  | some p =>
      obtain ⟨q, m⟩ := p
      have hfirst := Html.Tree.find?_below_some.mp hfind
      have hsome : ¬ ∀ m' q', t[m']? = some q' → t.Under i m' → carries d q' = false := fun h =>
        Bool.false_ne_true ((h m q hfirst.row hfirst.under).symm.trans hfirst.passes)
      -- the first row is the only first one, so the check of it decides between the two endings
      have honly {P : Nat → Html.Row → Prop} : (∃ m' q', t.First i (carries d) m' q' ∧ P m' q') ↔ P m q := by
        constructor
        · rintro ⟨m', q', hfirst', h⟩
          obtain ⟨rfl, rfl⟩ := hfirst.unique hfirst'
          exact h
        · exact fun h => ⟨m, q, hfirst, h⟩
      unfold judged
      dsimp only
      cases hpasses : passes q (fieldCheck kind).1 with
      | true =>
          refine ⟨fun n => ?_, fun e => ?_, fun e => ⟨nofun, fun h => absurd h.1 hsome⟩, nofun⟩
          · rw [honly, hpasses]
            exact ⟨fun h => ⟨rfl, (Except.ok.inj h).symm⟩, fun h => congrArg Except.ok h.2.symm⟩
          · rw [honly, hpasses]
            exact ⟨nofun, fun h => nomatch h.1⟩
      | false =>
          refine ⟨fun n => ?_, fun e => ?_, fun e => ⟨nofun, fun h => absurd h.1 hsome⟩, fun f hf => ?_⟩
          · rw [honly, hpasses]
            exact ⟨nofun, fun h => nomatch h.1⟩
          · rw [honly, hpasses]
            constructor
            · rintro ⟨⟩
              exact ⟨rfl, rfl⟩
            · rintro ⟨-, rfl⟩
              rfl
          · cases hf
            exact .inl rfl

/-- **Looking up a field.** In the scope of an element, for a text field or a submit control by identifier, and by name
when the element is a form: a value that no tree can hold is refused; else a scope that itself carries what is asked for
is taken for the match, and only if it does not is the first row under it that does. -/
theorem resolve_field (σ : Session State Node τ) (p : Processor) (kind : ElementKind) (d : Descriptor) (k i : Nat)
    (r : Html.Row) (htarget : p.target = .element kind (some d)) (hkind : kind = .textField ∨ kind = .submitControl)
    (hrow : (σ.desk.device.tree k)[i]? = some r)
    (hvariant : d.variant = .identifier ∨ d.variant = .name ∧ tagOf r = "form") :
    let outcome := outcomeOf (Session.resolve engine p (some (.element k i)) σ)
    (Text.isTreeText d.value = false → outcome = .error (.refused .notTreeText)) ∧
      (Text.isTreeText d.value = true → carries d r = true → outcome = judged k kind d (r, i)) ∧
      (Text.isTreeText d.value = true → carries d r = false →
        FindsUnder (σ.desk.device.tree k) k i kind d outcome) := by
  have hscope : LooksInScope σ.desk.device (.element k i) d := by
    unfold LooksInScope
    rw [tag_element hrow]
    exact hvariant
  have houtcome : outcomeOf (Session.resolve engine p (some (.element k i)) σ) =
      fieldSearch (σ.desk.device.tree k) k i kind d := by
    rw [outcome_resolve, search_field htarget hkind hscope]
    show outcomeOf (Action.ofExcept (fieldSearch (σ.desk.device.tree k) k i kind d) σ) = _
    cases fieldSearch (σ.desk.device.tree k) k i kind d <;> rfl
  have hhere : (σ.desk.device.tree k).fromHere i = (r, i) :: (σ.desk.device.tree k).below i := by
    simp only [Html.Tree.fromHere, hrow]
  dsimp only
  rw [houtcome, fieldSearch, hhere]
  refine ⟨fun htext => ?_, fun htext hcarries => ?_, fun htext hcarries => ?_⟩
  · simp only [htext, Bool.false_eq_true, if_false]
  · simp only [htext, if_true, List.find?_cons, hcarries]
  · simp only [htext, if_true, List.find?_cons, hcarries]
    exact findsUnder_below _ k i kind d

/-- A page with a form that has the name of its only field. -/
def namesake : Html.Tree :=
  [⟨0, .root⟩, ⟨1, .element "html" []⟩, ⟨2, .text none⟩, ⟨2, .element "body" []⟩, ⟨3, .text none⟩,
    ⟨3, .element "form" [("name", "q")]⟩, ⟨4, .text none⟩, ⟨4, .element "input" [("name", "q")]⟩, ⟨5, .text none⟩]

example : (Html.parse "<form name='q'><input name='q'></form>").toOption = some namesake := by decide +kernel

/-- The engine after it has loaded this page from a: the form is row 5, the field in it row 7. -/
def namesakeLoaded : State := ⟨[], [], Client.start [], 1, #[⟨namesake, some "a"⟩], 1⟩

/-- The field named q. -/
def fieldQ : Descriptor := ⟨.name, "q", by decide⟩

/-- The form that has the name itself. -/
def formQ : Html.Row := ⟨3, .element "form" [("name", "q")]⟩

/-- What looking up the field in the form ends with. -/
def namesakeOutcome : Except Failure Node :=
  outcomeOf (Session.resolve engine ⟨0, .element .textField (some fieldQ)⟩ (some (.element 0 5))
    (Session.start namesakeLoaded ()))

/-- The form is taken for the match. -/
theorem resolve_field_namesake :
    (namesakeLoaded.tree 0)[5]? = some formQ ∧ carries fieldQ formQ = true ∧
      namesakeOutcome = .error (.typeMismatch (.unexpected .textField fieldQ "form" "text input")) := by
  have hrow : (namesakeLoaded.tree 0)[5]? = some formQ := by decide +kernel
  have hself : carries fieldQ formQ = true := by decide +kernel
  refine ⟨hrow, hself, ?_⟩
  obtain ⟨-, hscope, -⟩ := resolve_field (Session.start namesakeLoaded ()) ⟨0, .element .textField (some fieldQ)⟩ .textField
    fieldQ 0 5 formQ rfl (.inl rfl) hrow (.inr ⟨rfl, by decide +kernel⟩)
  have htext : Text.isTreeText fieldQ.value = true := by decide +kernel
  have hjudged : judged 0 .textField fieldQ (formQ, 5) =
      .error (.typeMismatch (.unexpected .textField fieldQ "form" "text input")) := by rfl
  exact (hscope htext hself).trans hjudged

/-- The field under the form carries the name and is a text field, but it is not found. -/
theorem not_findsUnder_namesake :
    (namesakeLoaded.tree 0).Under 5 7 ∧ ¬ FindsUnder (namesakeLoaded.tree 0) 0 5 .textField fieldQ namesakeOutcome := by
  have hbelow : (⟨4, .element "input" [("name", "q")]⟩, 7) ∈ (namesakeLoaded.tree 0).below 5 := by decide +kernel
  have hfind : ((namesakeLoaded.tree 0).below 5).find? (fun p => carries fieldQ p.1) =
      some (⟨4, .element "input" [("name", "q")]⟩, 7) := by decide +kernel
  refine ⟨(Html.Tree.mem_below.mp hbelow).2, fun h => ?_⟩
  have hfound := (h.found (.element 0 7)).mpr ⟨7, _, Html.Tree.find?_below_some.mp hfind, by decide +kernel, rfl⟩
  have hended : namesakeOutcome = .error (.typeMismatch (.unexpected .textField fieldQ "form" "text input")) := rfl
  rw [hended] at hfound
  cases hfound

end Crawl.Static
