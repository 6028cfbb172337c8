import Crawl.Proofs.Static.Activation
import Crawl.Proofs.Static.Lookup
import Crawl.Proofs.Html.Typed
import Crawl.Proofs.Text.Blank
/-!
# Submit controls that submit

Two places decide what a submit control is: the check of the rules that look one up, and the engine when it activates a
node. They read the same tag and the same type, but the check takes the blanks around the type off first and the engine
does not. So they agree on every element but one whose type is padded with blanks (`isSubmitter_iff`): such an element is
found as a submit control, and clicking it does not submit its form.
-/

namespace Crawl.Static

open Crawl.Action (Stays stateOf valueOf failureOf bind_ok bind_error read_eq)

variable {τ : Type} {s : State} {j : Journal} {k i : Nat} {r : Html.Row}

/-! ## Two tests for one thing -/

/-- The type of a row has blanks around it. -/
def Padded (r : Html.Row) : Prop := Text.strip (writtenType r) ≠ writtenType r

instance (r : Html.Row) : Decidable (Padded r) := inferInstanceAs (Decidable (Text.strip (writtenType r) ≠ writtenType r))

/-- A type that is a word in lower case is not padded. -/
theorem not_padded_of_lower {words : List String}
    (hwords : ∀ w ∈ words, ∀ c ∈ w.toList, Text.isBlank c = false)
    (h : words.contains (Text.lower (writtenType r)) = true) : ¬ Padded r := fun hpadded =>
  hpadded (Text.strip_noBlank (Text.noBlank_of_lower (hwords _ (List.contains_iff_mem.mp h))))

/-- Without blanks around it, the engine reads the type as the check does. -/
theorem typeOf_eq (h : ¬ Padded r) : typeOf r = Text.lower (writtenType r) := by
  unfold typeOf
  rw [Decidable.not_not.mp h]

/-- The engine takes an element for a submitter when the check accepts it and its type is not padded. -/
theorem isSubmitter_iff (r : Html.Row) :
    isSubmitter r (tagOf r) = true ↔ passes r .submitControl = true ∧ ¬ Padded r := by
  have hinput : ∀ w ∈ ["submit", "image"], ∀ c ∈ w.toList, Text.isBlank c = false := by simp [Text.isBlank]
  have hbutton : ∀ w ∈ ["", "submit"], ∀ c ∈ w.toList, Text.isBlank c = false := by simp [Text.isBlank]
  -- with the tag settled, both sides ask whether the type is one of a list of words
  have hwords (words : List String) (hwords : ∀ w ∈ words, ∀ c ∈ w.toList, Text.isBlank c = false) :
      words.contains (Text.lower (writtenType r)) = true ↔ words.contains (typeOf r) = true ∧ ¬ Padded r := by
    constructor
    · intro h
      have hpadded := not_padded_of_lower hwords h
      rw [typeOf_eq hpadded]
      exact ⟨h, hpadded⟩
    · rintro ⟨h, hpadded⟩
      rwa [typeOf_eq hpadded] at h
  unfold isSubmitter passes
  cases tagOf r == "input" with
  | true => exact hwords _ hinput
  | false =>
      cases tagOf r == "button" with
      | true => exact hwords _ hbutton
      | false => simp only [Bool.false_and, Bool.false_eq_true, if_false, false_and]

/-! ## The test lasts -/

/-- What the tests look at. -/
def testedOf (r : Html.Row) : String × String := (tagOf r, writtenType r)

theorem testedOf_setRowAttr (text : String) (r : Html.Row) :
    testedOf (Html.Tree.setRowAttr "value" text r) = testedOf r := by
  obtain ⟨depth, content⟩ := r
  cases content with
  | element tag attrs =>
      have htype : (Html.Tree.setIn "value" text attrs).lookup "type" = attrs.lookup "type" :=
        Html.lookup_setIn (by decide) text attrs
      show (tagOf _, ((Html.Tree.setIn "value" text attrs).lookup "type").getD "") = _
      rw [htype]
      rfl
  | root => rfl
  | text s => rfl
  | comment s => rfl

theorem testedOf_setRowText (text : Option String) (r : Html.Row) :
    testedOf (Html.Tree.setRowText text r) = testedOf r := by
  obtain ⟨depth, content⟩ := r
  cases content <;> rfl

/-- A row that the tests see as they do. -/
def Tested (k i : Nat) (seen : String × String) (s : State) : Prop := ∃ r, (s.tree k)[i]? = some r ∧ testedOf r = seen

/-- A row of a loaded page is a row of a tree that was loaded. -/
theorem row_iff : (s.tree k)[i]? = some r ↔ ∃ d, s.loaded[k]? = some d ∧ d.tree[i]? = some r := by
  unfold State.tree
  cases s.loaded[k]? with
  | none => exact ⟨nofun, nofun⟩
  | some d => exact ⟨fun h => ⟨d, rfl, h⟩, fun ⟨d', hd, h⟩ => Option.some.inj hd ▸ h⟩

/-- A change of one row that the tests do not see is not seen in any row. -/
theorem tested_changeTree {seen : String × String} {f : Html.Row → Html.Row} (hf : ∀ r, testedOf (f r) = testedOf r) (l m : Nat)
    (h : Tested k i seen s) : Tested k i seen (s.changeTree l (·.modify m f)) := by
  obtain ⟨r, hrow, hseen⟩ := h
  obtain ⟨d, hd, hr⟩ := row_iff.mp hrow
  have hloaded : (s.changeTree l (·.modify m f)).loaded[k]? =
      some (if l = k then { d with tree := d.tree.modify m f } else d) := by
    unfold State.changeTree
    rw [Array.getElem?_modify]
    split <;> simp [hd]
  have hmodify : (d.tree.modify m f)[i]? = some (if m = i then f r else r) := by
    rw [List.getElem?_modify, hr]
    split <;> simp [*]
  by_cases hl : l = k
  · rw [if_pos hl] at hloaded
    refine ⟨_, row_iff.mpr ⟨_, hloaded, hmodify⟩, ?_⟩
    split
    · rw [hf, hseen]
    · exact hseen
  · rw [if_neg hl] at hloaded
    exact ⟨r, row_iff.mpr ⟨d, hloaded, hr⟩, hseen⟩

/-- What the tests see of a row lasts: typing changes other attributes and texts. -/
theorem lasting_tested (k i : Nat) (seen : String × String) : Lasting (Tested k i seen) where
  rest _ _ _ hs := hs
  push s _ _ _ _ := by
    rintro ⟨r, hrow, hseen⟩
    obtain ⟨d, hd, hr⟩ := row_iff.mp hrow
    have hk : k < s.loaded.size := (Array.getElem?_eq_some_iff.mp hd).1
    refine ⟨r, row_iff.mpr ⟨d, ?_, hr⟩, hseen⟩
    rw [Array.getElem?_push_lt hk, ← Array.getElem?_eq_getElem hk]
    exact hd
  typed _ l m text := tested_changeTree (testedOf_setRowAttr text) l m
  rewritten _ l m text := tested_changeTree (testedOf_setRowText text) l (m + 1)

/-- What was accepted as a submit control still is one, with the same type, after any calls to the engine. -/
theorem Reaches.tested {s' : State} (hreach : engine.Reaches s s') (hrow : (s.tree k)[i]? = some r) :
    ∃ r', (s'.tree k)[i]? = some r' ∧ tagOf r' = tagOf r ∧ writtenType r' = writtenType r := by
  obtain ⟨r', hrow', hseen⟩ := Reaches.lasting (lasting_tested k i (testedOf r)) hreach ⟨r, hrow, rfl⟩
  exact ⟨r', hrow', congrArg Prod.fst hseen, congrArg Prod.snd hseen⟩

/-! ## Clicking -/

/-- Goes somewhere and describes the page that was reached. -/
def arrive (go : Work Node) : Action (Session State Node τ) Processor := do
  let document ← Session.onDesk go
  Session.describe (.page none) (some document)

/-- A click on an element activates it. -/
theorem click_element {σ : Session State Node τ} {rest : List Node} (hframes : σ.frames = .element k i :: rest) :
    Session.click engine σ = arrive (engine.activate (.element k i)) σ := by
  rw [Session.click, bind_ok (Session.front_cons hframes)]
  rfl

/-- Going somewhere depends on the engine only. -/
theorem arrive_congr {σ : Session State Node τ} {go go' : Work Node} {d : Desk State} (h : go σ.desk = go' d) :
    arrive go σ = arrive go' { σ with desk := d } := by
  have hdesk : (Session.onDesk go : Action (Session State Node τ) Node) σ = Session.onDesk go' { σ with desk := d } := by
    simp only [Session.onDesk, Action.within, h]
  show EStateM.bind _ _ σ = EStateM.bind _ _ _
  unfold EStateM.bind
  rw [hdesk]

/-- Submit controls are inputs and buttons. -/
theorem tagOf_of_passes (h : passes r .submitControl = true) : tagOf r = "input" ∨ tagOf r = "button" := by
  unfold passes at h
  by_cases hinput : tagOf r = "input"
  · exact .inl hinput
  · by_cases hbutton : tagOf r = "button"
    · exact .inr hbutton
    · simp [hinput, hbutton] at h

/-- An accepted submit control under a form means to send the form if its type is not padded, and else nothing. -/
theorem deedOf_submitControl {t : Html.Tree} {form : Nat} (hpasses : passes r .submitControl = true)
    (hform : formAbove? t i = some form) : deedOf t i r = if Padded r then .stay else .submit form := by
  have hlink : (tagOf r == "a" || tagOf r == "area") = false := by
    rcases tagOf_of_passes hpasses with h | h <;> rw [h] <;> decide
  show (if tagOf r == "a" || tagOf r == "area" then _ else if isSubmitter r (tagOf r) then _ else _) = _
  rw [hlink, hform]
  by_cases hpadded : Padded r
  · have hnot : ¬ isSubmitter r (tagOf r) = true := fun h => ((isSubmitter_iff r).mp h).2 hpadded
    rw [if_pos hpadded, if_neg hnot]
    rfl
  · have hyes : isSubmitter r (tagOf r) = true := (isSubmitter_iff r).mpr ⟨hpasses, hpadded⟩
    rw [if_neg hpadded, if_pos hyes]
    rfl

/-- What clicking an accepted submit control under a form does, when its page is recorded with an address: a padded one
stays on the page, and any other one loads the form's destination once, unless that cannot be worked out. -/
structure Submits (σ : Session State Node τ) (k i form : Nat) (base : String) (r : Html.Row) : Prop where
  loads : ¬ Padded r → ∀ address data, formDestination base (σ.desk.device.tree k) form r = .ok (address, data) →
    ∃ j, Session.click engine σ = arrive (load address data) { σ with desk := ⟨σ.desk.device.handed, j⟩ }
  refused : ¬ Padded r → ∀ e, formDestination base (σ.desk.device.tree k) form r = .error e →
    failureOf (Session.click engine σ) = some (.refused (.address e))
  stays : Padded r → ∃ j, Session.click engine σ = arrive (pure (.document σ.desk.device.handles k base))
    { σ with desk := ⟨σ.desk.device.handed, j⟩ }

theorem submits {σ : Session State Node τ} {rest : List Node} {form : Nat} {base : String}
    (hframes : σ.frames = .element k i :: rest) (hrow : (σ.desk.device.tree k)[i]? = some r)
    (hpasses : passes r .submitControl = true) (hform : formAbove? (σ.desk.device.tree k) i = some form)
    (hbase : σ.desk.device.baseOf k = some base) : Submits σ k i form base r := by
  have hdeed := deedOf_submitControl hpasses hform
  obtain ⟨j, hgo⟩ := activate_goes (j := σ.desk.journal) hbase hrow
  have hclick := (click_element hframes).trans (arrive_congr hgo)
  unfold destination at hclick
  rw [hdeed] at hclick
  refine ⟨fun hpadded address data hdest => ⟨j, ?_⟩, fun hpadded e hdest => ?_, fun hpadded => ⟨j, ?_⟩⟩
  · rw [if_neg hpadded] at hclick
    simp only [hdest] at hclick
    exact hclick
  · rw [if_neg hpadded] at hclick
    simp only [hdest] at hclick
    rw [hclick]
    rfl
  · rw [if_pos hpadded] at hclick
    exact hclick

/-- An element of a page without an address belongs to no document that a click could lead to. -/
theorem click_detached {σ : Session State Node τ} {rest : List Node} (hframes : σ.frames = .element k i :: rest)
    (hbase : σ.desk.device.baseOf k = none) :
    failureOf (Session.click engine σ) = some (.nodeNotFound (.detached (Node.quoted σ.desk.device (.element k i)))) := by
  have howner : ownerDocument (.element k i) σ.desk =
      .error (.nodeNotFound (.detached (Node.quoted σ.desk.device (.element k i)))) σ.desk := by
    unfold State.baseOf at hbase
    rw [ownerDocument, bind_ok (read_eq _)]
    simp only [hbase]
    rfl
  have hactivate : engine.activate (.element k i) σ.desk =
      (throw (.nodeNotFound (.detached (Node.quoted σ.desk.device (.element k i)))) : Work Node) σ.desk :=
    bind_error howner _
  rw [click_element hframes, arrive_congr hactivate]
  rfl

/-- **Submit controls that submit.** On every element the check of the rules for submit controls and the engine's own
test agree, but for an element whose type has blanks around it: that one is accepted and is no submitter. So a click on
whatever a submit control was resolved to, under a form and with any calls to the engine in between, loads the
destination of the nearest form once, unless its type is padded; then it stays on the page without a word. -/
theorem submit_controls :
    (∀ (s : State) (j : Journal) (k i : Nat) (r : Html.Row), (s.tree k)[i]? = some r →
      ∃ accepted, Check.submitControl.holds engine (.element k i) ⟨s, j⟩ = .ok accepted ⟨s, j⟩ ∧
        (isSubmitter r (tagOf r) = true ↔ accepted = true ∧ ¬ Padded r)) ∧
    ∀ (σ σ₁ σ₂ : Session State Node τ) (p : Processor) (d : Descriptor) (scope : Option Node) (n : Node) (rest : List Node),
      p.target = .element .submitControl (some d) → Session.resolve engine p scope σ = .ok n σ₁ →
      engine.Reaches σ₁.desk.device σ₂.desk.device → σ₂.frames = n :: rest →
      ∃ k i r, n = .element k i ∧ (σ₂.desk.device.tree k)[i]? = some r ∧
        (∀ form base, formAbove? (σ₂.desk.device.tree k) i = some form → σ₂.desk.device.baseOf k = some base →
          Submits σ₂ k i form base r) ∧
        (σ₂.desk.device.baseOf k = none →
          failureOf (Session.click engine σ₂) = some (.nodeNotFound (.detached (Node.quoted σ₂.desk.device n)))) := by
  constructor
  · intro s j k i r hrow
    exact ⟨passes r .submitControl, holds_eq hrow .submitControl, isSubmitter_iff r⟩
  · intro σ σ₁ σ₂ p d scope n rest htarget hresolve hreach hframes
    obtain ⟨hdevice, k, i, r, rfl, hrow, hpasses⟩ := resolve_field_ok htarget (.inr rfl) hresolve
    -- the row is still accepted when it is clicked, whatever was typed meanwhile
    rw [← hdevice] at hrow
    obtain ⟨r', hrow', htag, htype⟩ := Reaches.tested hreach hrow
    have hpasses' : passes r' .submitControl = true := by
      unfold passes typeOf at hpasses ⊢
      rw [htag, htype]
      exact hpasses
    exact ⟨k, i, r', rfl, hrow', fun form base hform hbase => submits hframes hrow' hpasses' hform hbase,
      fun hbase => click_detached hframes hbase⟩

/-! ## A form with two submit controls -/

/-- A page with a form that has two submit controls, the type of the second with blanks around it. -/
def twoControls : Html.Tree :=
  [⟨0, .root⟩, ⟨1, .element "html" []⟩, ⟨2, .text none⟩, ⟨2, .element "body" []⟩, ⟨3, .text none⟩,
    ⟨3, .element "form" [("action", "b")]⟩, ⟨4, .text none⟩,
    ⟨4, .element "input" [("type", "submit"), ("name", "ok")]⟩, ⟨5, .text none⟩,
    ⟨4, .element "input" [("type", " submit "), ("name", "go")]⟩, ⟨5, .text none⟩]

example : (Html.parse "<form action='b'><input type='submit' name='ok'><input type=' submit ' name='go'></form>").toOption =
    some twoControls := by decide +kernel

/-- A session on this page, loaded from a: the form is row 5, the controls are rows 7 and 9. -/
def onTwoControls : Session State Node Unit :=
  Session.start ⟨[("b", "<p>sent</p>")], [], Client.start [], 1, #[⟨twoControls, some "a"⟩], 1⟩ ()

/-- The row of the second control. -/
def paddedControl : Html.Row := ⟨4, .element "input" [("type", " submit "), ("name", "go")]⟩

/-- The submit control with a name. -/
def controlNamed (name : String) (h : name ≠ "") : Processor := ⟨0, .element .submitControl (some ⟨.name, name, h⟩)⟩

theorem submit_controls_twoControls :
    (∃ σ, Session.resolve engine (controlNamed "ok" (by decide)) (some (.element 0 5)) onTwoControls = .ok (.element 0 7) σ ∧
      ∃ j, Session.click engine { σ with frames := [.element 0 7] } =
        arrive (load "b?ok=" none) { σ with desk := ⟨σ.desk.device.handed, j⟩, frames := [.element 0 7] }) ∧
    isSubmitter paddedControl "input" = false := by
  obtain ⟨htests, hclicks⟩ := submit_controls (τ := Unit)
  constructor
  · have hvalue : valueOf (Session.resolve engine (controlNamed "ok" (by decide)) (some (.element 0 5)) onTwoControls) =
        some (.element 0 7) := by decide +kernel
    cases hresolve : Session.resolve engine (controlNamed "ok" (by decide)) (some (.element 0 5)) onTwoControls with
    | error f σ =>
        rw [hresolve] at hvalue
        cases hvalue
    | ok n σ =>
        rw [hresolve] at hvalue
        cases hvalue
        have hdevice : σ.desk.device = onTwoControls.desk.device := (resolve_field_ok rfl (.inr rfl) hresolve).1
        refine ⟨σ, rfl, ?_⟩
        obtain ⟨k, i, r, hn, hrow, hsubmits, -⟩ := hclicks onTwoControls σ { σ with frames := [.element 0 7] } _ _ _ _ [] rfl
          hresolve .refl rfl
        cases hn
        dsimp only at hrow hsubmits
        rw [hdevice] at hrow hsubmits
        cases (show (onTwoControls.desk.device.tree 0)[7]? = some ⟨4, .element "input" [("type", "submit"), ("name", "ok")]⟩
          by decide +kernel).symm.trans hrow
        exact (hsubmits 5 "a" (by decide +kernel) (by decide +kernel)).loads (by decide +kernel) "b?ok=" none (hdevice ▸ rfl)
  · obtain ⟨accepted, -, htest⟩ := htests onTwoControls.desk.device #[] 0 9 paddedControl (by decide +kernel)
    exact Bool.eq_false_iff.mpr fun h => (htest.mp h).2 (by decide +kernel)

/-- The second control is found as a submit control under the form, and a click on it loads nothing. -/
theorem paddedControl_stays :
    valueOf (Session.resolve engine (controlNamed "go" (by decide)) (some (.element 0 5)) onTwoControls) =
        some (.element 0 9) ∧
      formAbove? (onTwoControls.desk.device.tree 0) 9 = some 5 ∧
      (stateOf (Session.click engine { onTwoControls with frames := [.element 0 9] })).desk.device.loaded.size = 1 ∧
      failureOf (Session.click engine { onTwoControls with frames := [.element 0 9] }) = none := by
  decide +kernel

end Crawl.Static
