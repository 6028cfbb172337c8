import Crawl.Proofs.Html.Typed
import Crawl.Proofs.Session.Closed
import Crawl.Proofs.Static.Submission
import Crawl.Proofs.Text.Case
/-!
# Filling in a page

Texts are typed into the fields of a page one after the other. Every page is read from markup, so what is accepted as a
text field is an input or a text area that takes texts, and each typing changes that field of the page and nothing else:
the page is then the page as it was loaded with the last text in each field that was typed into (`Fills.page`).
-/

namespace Crawl.Static

open Crawl.Action (bind_ok bind_error read_eq)
open Crawl.Html (lastTyped)
open Crawl.Html.Form (TakesText)

variable {τ : Type} {s : State} {k i : Nat} {r : Html.Row} {ts : List (Nat × String)}

/-! ## The pages of an engine are read from markup -/

/-- Rows may be changed in a sound tree as long as tags and texts stay what they are. -/
theorem sound_modify {t : Html.Tree} (h : t.Sound) {f : Html.Row → Html.Row} (htag : ∀ r, (f r).tag? = r.tag?)
    (htext : ∀ r, r.IsText → (f r).IsText) (i : Nat) : Html.Tree.Sound (t.modify i f) where
  slots j r hr helement := by
    rw [List.getElem?_modify] at hr
    obtain ⟨r₀, hr₀, rfl⟩ := Option.map_eq_some_iff.mp hr
    have helement₀ : r₀.isElement = true := by
      split at helement
      · rwa [Html.Row.isElement, htag] at helement
      · exact helement
    obtain ⟨q, hq, hqtext⟩ := h.slots j r₀ hr₀ helement₀
    refine ⟨if i = j + 1 then f q else q, ?_, ?_⟩
    · rw [List.getElem?_modify, hq]
      split <;> rfl
    · split
      · exact htext q hqtext
      · exact hqtext
  tags r hr tag hrtag := by
    obtain ⟨j, hj⟩ := List.mem_iff_getElem?.mp hr
    rw [List.getElem?_modify] at hj
    obtain ⟨r₀, hr₀, rfl⟩ := Option.map_eq_some_iff.mp hj
    refine h.tags r₀ (List.mem_of_getElem? hr₀) tag ?_
    split at hrtag
    · rwa [htag] at hrtag
    · exact hrtag

theorem lasting_sound : LastingTree Html.Tree.Sound where
  empty := ⟨fun _ _ hr => (nomatch hr), fun _ hr => absurd hr List.not_mem_nil⟩
  read _ _ := Html.parse_sound
  typed _ m text ht :=
    sound_modify ht (Html.Tree.setRowAttr_tag? "value" text) (fun _ hr => hr.setRowAttr "value" text) m
  rewritten _ m text ht :=
    sound_modify ht (Html.Tree.setRowText_tag? text) (fun _ hr => hr.setRowText text) (m + 1)

/-- Every page of an engine that began without pages is sound. -/
theorem sound_of_reached {s₀ : State} (h₀ : s₀.loaded = #[]) (h : engine.Reaches s₀ s) (k : Nat) : (s.tree k).Sound := by
  have hstart : ∀ k, 0 ≤ k → (s₀.tree k).Sound := fun k hk => lasting_sound.unloaded s₀ k (by simp [h₀])
  exact Reaches.lasting (lasting_sound.lasting 0) h hstart k (Nat.zero_le k)

/-! ## Typing into a field -/

/-- A tag of a page read from markup is a word in lower case if it is seen as that word. -/
theorem tag_of_tagOf {t : Html.Tree} (hsound : t.Sound) (hrow : t[i]? = some r) {word : String}
    (hword : Text.IsPlain word) (hne : word ≠ "") (h : tagOf r = word) : r.tag? = some word := by
  unfold tagOf at h
  cases htag : r.tag? with
  | none =>
      rw [htag] at h
      exact absurd h.symm hne
  | some tag =>
      rw [htag] at h
      have hlowered := hsound.tags r (List.mem_of_getElem? hrow) tag htag
      exact congrArg some (Text.eq_of_lower hlowered hword h)

theorem row_of_tag {tag : String} (h : r.tag? = some tag) : ∃ depth attrs, r = ⟨depth, .element tag attrs⟩ := by
  obtain ⟨depth, content⟩ := r
  cases content with
  | element tag' attrs =>
      cases h
      exact ⟨depth, attrs, rfl⟩
  | _ => cases h

/-- What is accepted as a text field sends the text it holds. -/
theorem takesText_of_passes {t : Html.Tree} (hsound : t.Sound) (hrow : t[i]? = some r)
    (h : passes r .textField = true) : TakesText r := by
  unfold passes at h
  by_cases harea : tagOf r = "textarea"
  · exact .inl (tag_of_tagOf hsound hrow (by decide) (by decide) harea)
  · by_cases hinput : tagOf r = "input"
    · have htag := tag_of_tagOf hsound hrow (by decide) (by decide) hinput
      rw [beq_eq_false_iff_ne.mpr harea, beq_iff_eq.mpr hinput] at h
      have htext : textInputTypes.contains (typeOf r) = true := h
      -- a type among the others has no blanks around it, so it would be read as it is written
      have hother (words : List String) (hblank : ∀ w ∈ words, ∀ c ∈ w.toList, Text.isBlank c = false)
          (hwords : ∀ w ∈ words, textInputTypes.contains w = false) (hempty : words.contains "text" = false) :
          words.contains (Html.Form.inputType r) = false := by
        refine Bool.eq_false_iff.mpr fun hcontains => ?_
        unfold Html.Form.inputType at hcontains
        cases htype : r.attr? "type" with
        | none =>
            rw [htype] at hcontains
            have hlower : Text.lower "text" = "text" := by decide +kernel
            rw [Option.getD_none, hlower, hempty] at hcontains
            cases hcontains
        | some type =>
            have hwritten : writtenType r = type := by rw [writtenType, htype]; rfl
            rw [htype, Option.getD_some, ← hwritten] at hcontains
            have hpadded := not_padded_of_lower hblank hcontains
            rw [← typeOf_eq hpadded] at hcontains
            rw [hwords _ (List.contains_iff_mem.mp hcontains)] at htext
            cases htext
      exact .inr ⟨htag, hother _ (by simp [Text.isBlank]) (by decide +kernel) (by decide +kernel),
        hother _ (by simp [Html.Form.silentTypes, Text.isBlank]) (by decide +kernel) (by decide +kernel)⟩
    · rw [beq_eq_false_iff_ne.mpr harea, beq_eq_false_iff_ne.mpr hinput] at h
      cases h

theorem needTreeText_ok {text : String} {d d' : Desk State} (h : needTreeText text d = .ok () d') : d' = d := by
  unfold needTreeText at h
  split at h
  · cases h
    rfl
  · cases h

/-- The text of the first typing into an element is on its page: an input takes it as its value, and a text area has its
old text taken away before. -/
theorem setValue_ok {j : Journal} {text : String} {d : Desk State} (hrow : (s.tree k)[i]? = some r)
    (h : setValue (.element k i) text ⟨s, j⟩ = .ok () d) :
    (tagOf r = "input" ∧ d.device = s.changeTree k (·.setAttr i "value" text)) ∨
      tagOf r = "textarea" ∧
        d.device = (s.changeTree k (·.setFirstText i none)).changeTree k (·.setFirstText i (some text)) := by
  rw [setValue, bind_ok (read_eq _)] at h
  simp only [tag_element hrow] at h
  split at h
  · next hinput =>
      cases hneed : needTreeText text ⟨s, j⟩ with
      | ok u d' =>
          rw [bind_ok hneed, needTreeText_ok hneed] at h
          cases h
          exact .inl ⟨hinput, rfl⟩
      | error f d' =>
          rw [bind_error hneed] at h
          cases h
  · split at h
    · next harea =>
        have hempty : (Desk.update (·.changeTree k (·.setFirstText i none)) : Work Unit) ⟨s, j⟩ =
            .ok () ⟨s.changeTree k (·.setFirstText i none), j⟩ := rfl
        have h' := (bind_ok hempty _).symm.trans h
        cases hneed : needTreeText text ⟨s.changeTree k (·.setFirstText i none), j⟩ with
        | ok u d' =>
            rw [bind_ok hneed, needTreeText_ok hneed] at h'
            cases h'
            exact .inr ⟨harea, rfl⟩
        | error f d' =>
            rw [bind_error hneed] at h'
            cases h'
    · cases h

/-- Typing sets a value. -/
theorem typeIn_ok {σ σ' : Session State Node τ} {rest : List Node} {text : String} (hframes : σ.frames = .element k i :: rest)
    (hrow : (σ.desk.device.tree k)[i]? = some r) (h : Session.typeIn engine text σ = .ok () σ') :
    ∃ d, setValue (.element k i) text σ.desk = .ok () d ∧ σ' = { σ with desk := d } := by
  have htag : (Session.onDesk (engine.tagName (.element k i)) : Action (Session State Node τ) String) σ = .ok (tagOf r) σ :=
    onDesk_ofExcept (x := .ok (tagOf r)) (tagName_eq hrow)
  rw [Session.typeIn, bind_ok (Session.front_cons hframes), bind_ok htag] at h
  split at h
  · exact Session.onDesk_ok h
  · cases h

/-- What is tested of a row is what was tested of it before anything was typed. -/
theorem testedOf_typed (t : Html.Tree) (ts : List (Nat × String)) (i : Nat) (r : Html.Row) :
    testedOf (Html.Row.typed t ts i r) = testedOf r := by
  obtain ⟨-, htag, hattr⟩ := Html.typed_same t ts i r
  unfold testedOf tagOf writtenType
  rw [htag, hattr "type" (by decide)]

theorem passes_of_testedOf {q : Html.Row} (h : testedOf q = testedOf r) (check : Check) : passes q check = passes r check := by
  have htag : tagOf q = tagOf r := congrArg Prod.fst h
  have htype : writtenType q = writtenType r := congrArg Prod.snd h
  cases check <;> simp only [passes, typeOf, htag, htype]

/-- One typing into a page that was typed into is one more typing. -/
theorem setValue_typed {j : Journal} {text : String} {d : Desk State} {t : Html.Tree} (hsound : t.Sound)
    (htree : s.tree k = t.typed ts) (hrow : t[i]? = some r) (h : setValue (.element k i) text ⟨s, j⟩ = .ok () d) :
    d.device.tree k = t.typed (ts ++ [(i, text)]) ∧ d.device.baseOf k = s.baseOf k := by
  have hnow : (s.tree k)[i]? = some (Html.Row.typed t ts i r) := by
    rw [htree, Html.Tree.typed, Html.Tree.getElem?_mapRows, hrow]
    rfl
  have hseen : tagOf r = tagOf (Html.Row.typed t ts i r) := (congrArg Prod.fst (testedOf_typed t ts i r)).symm
  rcases setValue_ok hnow h with ⟨hinput, hdevice⟩ | ⟨harea, hdevice⟩
  · obtain ⟨depth, attrs, rfl⟩ := row_of_tag (tag_of_tagOf hsound hrow (by decide) (by decide) (hseen.trans hinput))
    refine ⟨?_, by rw [hdevice, baseOf_changeTree]⟩
    rw [hdevice, tree_setAttr, if_pos rfl, htree]
    exact Html.typed_append_input hrow ts text
  · have htag := tag_of_tagOf hsound hrow (by decide) (by decide) (hseen.trans harea)
    obtain ⟨⟨depth, content⟩, hslot, old, rfl⟩ := hsound.slots i r hrow (Html.Row.isElement_of_tag? htag)
    refine ⟨?_, by rw [hdevice, baseOf_changeTree, baseOf_changeTree]⟩
    rw [hdevice, tree_setFirstText, if_pos rfl, tree_setFirstText, if_pos rfl, htree]
    refine Html.typed_append_area ?_ hslot ts text
    rw [Html.Tree.tag?, hrow]
    exact htag

/-! ## Filling in -/

/-- Texts are typed into text fields of one page, and the typings written down. Between them anything may happen that
leaves the page as it is: other pages may be loaded and typed into, scopes opened and left, and fields looked up. -/
inductive Fills (k : Nat) (σ : Session State Node τ) : List (Nat × String) → Session State Node τ → Prop
  | start : Fills k σ [] σ
  | between {ts : List (Nat × String)} {σ₁ σ₂ : Session State Node τ} (before : Fills k σ ts σ₁)
      (page : σ₂.desk.device.loaded[k]? = σ₁.desk.device.loaded[k]?) : Fills k σ ts σ₂
  | typing {ts : List (Nat × String)} {σ₁ σ₂ : Session State Node τ} {i : Nat} {r : Html.Row} {rest : List Node}
      {text : String} (before : Fills k σ ts σ₁) (frames : σ₁.frames = .element k i :: rest)
      (row : (σ₁.desk.device.tree k)[i]? = some r) (field : passes r .textField = true)
      (typed : Session.typeIn engine text σ₁ = .ok () σ₂) : Fills k σ (ts ++ [(i, text)]) σ₂

/-- **A page that is filled in is the page it was, with the last text in each field that was typed into.** -/
theorem Fills.page {σ σ' : Session State Node τ} (h : Fills k σ ts σ') (hsound : (σ.desk.device.tree k).Sound) :
    σ'.desk.device.tree k = (σ.desk.device.tree k).typed ts ∧ σ'.desk.device.baseOf k = σ.desk.device.baseOf k ∧
      ∀ j text, lastTyped ts j = some text → ∃ r, (σ.desk.device.tree k)[j]? = some r ∧ passes r .textField = true := by
  induction h with
  | start => exact ⟨(Html.typed_nil _).symm, rfl, nofun⟩
  | between before page ih =>
      obtain ⟨htree, hbase, hlast⟩ := ih
      refine ⟨?_, ?_, hlast⟩
      · rw [← htree]
        unfold State.tree
        rw [page]
      · rw [← hbase]
        unfold State.baseOf
        rw [page]
  | @typing ts σ₁ σ₂ i r rest text before frames row field typed ih =>
      obtain ⟨htree, hbase, hlast⟩ := ih
      -- the field as it was before anything was typed
      have hrow := row
      rw [htree, Html.Tree.typed, Html.Tree.getElem?_mapRows] at hrow
      obtain ⟨r₀, hrow₀, rfl⟩ := Option.map_eq_some_iff.mp hrow
      obtain ⟨d, hset, rfl⟩ := typeIn_ok frames row typed
      obtain ⟨htree', hbase'⟩ := setValue_typed hsound htree hrow₀ hset
      refine ⟨htree', hbase'.trans hbase, fun j text' hj => ?_⟩
      rw [Html.lastTyped_append] at hj
      split at hj
      · next heq =>
          rw [heq]
          exact ⟨r₀, hrow₀, (passes_of_testedOf (testedOf_typed _ ts i r₀) _).symm.trans field⟩
      · exact hlast j text' hj

end Crawl.Static
