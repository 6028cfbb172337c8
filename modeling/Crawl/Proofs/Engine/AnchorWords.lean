import Crawl.Proofs.Browser.Leaks
import Crawl.Proofs.Static.Lookup
import Crawl.Proofs.Text.Respaced
/-!
# Anchors by their words

Both engines look an anchor up by its text in the same way: they go through the anchors in document order and compare
normal forms, so the first anchor is found that has the words of the request (`findAnchorByText_words`). The static
engine always gives an answer. The browser is asked for the anchors and for one text after the other, so there one of
these calls may fail instead.
-/

namespace Crawl

open Crawl.Action (bind_ok bind_error read_eq)
open Crawl.Text (words firstWorded normalize_eq_iff IsSpaced Respaced)

/-! ## Anchors with their texts -/

/-- The first of some anchors, given with their texts, that has the words of a request. -/
def firstAnchor {ν : Type} (request : String) (anchors : List (ν × String)) : Option ν :=
  (firstWorded request (anchors.map Prod.snd)).bind fun k => (anchors.map Prod.fst)[k]?

theorem firstAnchor_eq {ν : Type} (request : String) (anchors : List (ν × String)) :
    firstAnchor request anchors = (anchors.find? fun p => Text.normalize p.2 == Text.normalize request).map Prod.fst := by
  have htest : (fun p : ν × String => words p.2.toList == words request.toList) =
      fun p => Text.normalize p.2 == Text.normalize request := by
    funext p
    rw [Bool.eq_iff_iff, beq_iff_eq, beq_iff_eq, normalize_eq_iff]
  rw [List.find?_eq_bind_findIdx?_getElem?, ← htest]
  unfold firstAnchor firstWorded
  rw [List.findIdx?_map, Option.map_bind]
  simp only [Function.comp_def, List.getElem?_map]

theorem firstAnchor_cons {ν : Type} (request : String) (p : ν × String) (anchors : List (ν × String)) :
    firstAnchor request (p :: anchors) =
      if Text.normalize p.2 = Text.normalize request then some p.1 else firstAnchor request anchors := by
  simp only [firstAnchor_eq, List.find?_cons]
  by_cases h : Text.normalize p.2 = Text.normalize request
  · rw [if_pos h, beq_iff_eq.mpr h]
    rfl
  · rw [if_neg h, beq_eq_false_iff_ne.mpr h]

/-! ## In a tree -/

namespace Static

/-- The anchors at and below a node, in document order, with their texts. -/
def anchorsFrom (s : State) (n : Node) : List (Node × String) :=
  (((s.tree n.treeOf).fromHere (n.rowOf s)).filter (·.1.hasTag "a")).map fun p =>
    (.element n.treeOf p.2, (s.tree n.treeOf).textContent p.2)

theorem findAnchorByText_eq (s : State) (j : Journal) (n : Node) (request : String) :
    findAnchorByText n request ⟨s, j⟩ = .ok (firstAnchor request (anchorsFrom s n)) ⟨s, j⟩ := by
  rw [findAnchorByText_find, firstAnchor_eq, anchorsFrom, List.find?_map, List.find?_filter, Option.map_map]
  simp only [Function.comp_def, Bool.decide_and, Bool.decide_eq_true]
  rfl

/-- Just the rows with the tag are anchors, and they stand in the order of their places. -/
theorem mem_anchorsFrom {s : State} {n m : Node} {text : String} : (m, text) ∈ anchorsFrom s n ↔
    ∃ i, m = .element n.treeOf i ∧ text = (s.tree n.treeOf).textContent i ∧ (s.tree n.treeOf).tag? i = some "a" ∧
      (i = n.rowOf s ∨ (s.tree n.treeOf).Under (n.rowOf s) i) := by
  unfold anchorsFrom Html.Tree.tag?
  simp only [List.mem_map, List.mem_filter, Prod.exists, Html.Tree.mem_fromHere_iff, Prod.mk.injEq]
  constructor
  · rintro ⟨r, i, ⟨⟨hrow, hplace⟩, htag⟩, rfl, rfl⟩
    exact ⟨i, rfl, rfl, by rw [hrow]; exact eq_of_beq htag, hplace⟩
  · rintro ⟨i, rfl, rfl, htag, hplace⟩
    obtain ⟨r, hrow, htag⟩ := Option.bind_eq_some_iff.mp htag
    exact ⟨r, i, ⟨⟨hrow, hplace⟩, beq_iff_eq.mpr htag⟩, rfl, rfl⟩

theorem pairwise_anchorsFrom (s : State) (n : Node) :
    (anchorsFrom s n).Pairwise fun p q => p.1.rowOf s < q.1.rowOf s :=
  List.pairwise_map.mpr (((s.tree n.treeOf).pairwise_fromHere (n.rowOf s)).filter _)

end Static

/-! ## In a browser -/

namespace Browser

/-- Elements by their names, each with its text; a text that is missing counts as none. -/
def Scene.described (w : Scene) (names : List String) : List (Handle × String) :=
  names.map fun name => (.element name, ((w.world.element name).textContent).getD "")

/-- The names that a selection consists of; one that is a step has none. -/
def Selection.listed : Selection → List String
  | .names found => found
  | .step _ => []

/-- The anchors that the browser finds below a root, in its order, with their texts. -/
def Scene.anchorsFrom (w : Scene) (root : Handle) : List (Handle × String) :=
  w.described (w.world.find root "a").listed

/-- The calls that read the texts of some elements. -/
def readings (names : List String) : List Call := names.map fun name => .textContent (.element name)

/-- The words of an element, unless the call that reads its text fails. -/
theorem wordsOf_cases {w : Scene} (name : String) {d : Desk State} (hscene : d.device.scene = w) :
    (∃ d', wordsOf (.element name) d = .ok (Text.normalize ((w.world.element name).textContent.getD "")) d' ∧
      Makes d.device [.textContent (.element name)] d'.device) ∨
      ∃ f d', wordsOf (.element name) d = .error f d' ∧ w.leak d.device.calls (.textContent (.element name)) = some f := by
  subst hscene
  rw [wordsOf]
  rcases make_cases (.textContent (.element name)) d with ⟨-, hok⟩ | ⟨f, hf, herror⟩
  · rw [bind_ok hok]
    exact .inl ⟨called (.textContent (.element name)) d, rfl, .called _ d⟩
  · rw [bind_error herror]
    refine .inr ⟨f, called (.textContent (.element name)) d, rfl, ?_⟩
    show (Scene.failureIn _).or _ = some f
    rw [show Scene.failureIn (d.device.scene.incident _) = some f from hf]
    rfl

/-- Reading one text after the other ends with the first element that has the words, or with a call that fails. -/
theorem firstWith_cases {w : Scene} (request : String) (names : List String) {d : Desk State} (hscene : d.device.scene = w) :
    (∃ d', firstWith (Text.normalize request) (names.map .element) d = .ok (firstAnchor request (w.described names)) d') ∨
      ∃ f d', firstWith (Text.normalize request) (names.map .element) d = .error f d' ∧
        w.Leaks f d.device.calls (readings names) := by
  induction names generalizing d with
  | nil => exact .inl ⟨d, rfl⟩
  | cons name names ih =>
      rw [List.map_cons, firstWith]
      rcases wordsOf_cases name hscene with ⟨d', hok, hmakes⟩ | ⟨f, d', herror, hleak⟩
      · rw [bind_ok hok, Scene.described, List.map_cons, firstAnchor_cons]
        dsimp only
        split
        · exact .inl ⟨d', rfl⟩
        · rcases ih (hmakes.scene.trans hscene) with hfound | ⟨f, d'', herror, hleaks⟩
          · exact .inl hfound
          · refine .inr ⟨f, d'', herror, .inr ?_⟩
            rw [hmakes.calls] at hleaks
            exact hleaks
      · rw [bind_error herror]
        exact .inr ⟨f, d', rfl, .inl hleak⟩

/-- The names that a selector finds, unless its selection is a step that fails. -/
theorem names_cases (root : Handle) (selector : String) (d : Desk State) :
    (∃ d', names root selector d = .ok (d.device.scene.world.find root selector).listed d' ∧ Makes d.device [] d'.device) ∨
      ∃ f d', names root selector d = .error f d' ∧
        Scene.failureIn (d.device.scene.world.find root selector).outcome = some f := by
  have hworld : d.device.world.find root selector = d.device.scene.world.find root selector := by
    cases root <;> rfl
  rw [names, bind_ok (show Desk.read d = .ok d.device d from rfl), hworld]
  cases d.device.scene.world.find root selector with
  | names found => exact .inl ⟨d, rfl, .none _⟩
  | step step =>
      dsimp only
      rcases happen_cases step d with ⟨-, hok⟩ | ⟨f, hf, herror⟩
      · rw [bind_ok hok]
        exact .inl ⟨_, rfl, .turned d.device step⟩
      · rw [bind_error herror]
        exact .inr ⟨f, _, rfl, hf⟩

/-- The elements that a selector finds, unless the call for them fails. -/
theorem queryAll_cases (root : Handle) (selector : String) (d : Desk State)
    (hc : (Call.queryAll root selector).isHandedOn = true) :
    (∃ d', queryAll root selector d = .ok ((d.device.scene.world.find root selector).listed.map .element) d' ∧
      Makes d.device [.queryAll root selector] d'.device) ∨
      ∃ f d', queryAll root selector d = .error f d' ∧
        d.device.scene.leak d.device.calls (.queryAll root selector) = some f := by
  have hleak : d.device.scene.leak d.device.calls (.queryAll root selector) =
      (Scene.failureIn (d.device.incident (d.device.calls.push (.queryAll root selector)))).or
        (Scene.failureIn (d.device.scene.world.find root selector).outcome) := if_pos hc
  rw [queryAll, hleak]
  rcases make_cases (.queryAll root selector) d with ⟨hnone, hok⟩ | ⟨f, hf, herror⟩
  · have hmakes := Makes.called (.queryAll root selector) d
    rw [bind_ok hok, hnone, ← hmakes.scene]
    rcases names_cases root selector (called (.queryAll root selector) d) with ⟨d', hnames, hmakes'⟩ | ⟨f, d', hnames, hf⟩
    · rw [bind_ok hnames]
      exact .inl ⟨d', rfl, hmakes.trans hmakes'⟩
    · rw [bind_error hnames]
      exact .inr ⟨f, d', rfl, hf⟩
  · rw [bind_error herror, hf]
    exact .inr ⟨f, _, rfl, rfl⟩

/-- Looking an anchor up ends with the first anchor that has the words, or with a call that fails. -/
theorem findAnchorByText_cases (root : Handle) (request : String) (d : Desk State) :
    (∃ d', findAnchorByText root request d = .ok (firstAnchor request (d.device.scene.anchorsFrom root)) d') ∨
      ∃ f d', findAnchorByText root request d = .error f d' ∧ d.device.scene.Leaks f d.device.calls
        (.queryAll root "a" :: (d.device.scene.anchorsFrom root).map fun p => .textContent p.1) := by
  have hreadings : ((d.device.scene.anchorsFrom root).map fun p => Call.textContent p.1) =
      readings (d.device.scene.world.find root "a").listed := by
    simp only [Scene.anchorsFrom, Scene.described, readings, List.map_map, Function.comp_def]
  rw [findAnchorByText, hreadings]
  rcases queryAll_cases root "a" d rfl with ⟨d', hok, hmakes⟩ | ⟨f, d', herror, hleak⟩
  · rw [bind_ok hok]
    rcases firstWith_cases request _ hmakes.scene with hfirst | ⟨f, d'', herror, hleaks⟩
    · exact .inl hfirst
    · refine .inr ⟨f, d'', herror, .inr ?_⟩
      rw [hmakes.calls] at hleaks
      exact hleaks
  · rw [bind_error herror]
    exact .inr ⟨f, d', rfl, .inl hleak⟩

end Browser

/-! ## In both engines -/

/-- **An anchor is looked up by its words and by nothing else.** The words of a text are its pieces between blanks, and
the normal form in which texts are compared tells just these: it stays when it is taken again, two texts share it just
when they have the same words, and its only blanks are single spaces between words. Changes of blanks that keep the
words apart are just those that keep the words. So the first of some texts with the words of a request is the same after
such changes, in the request and in the texts. Either engine finds this one of its anchors, in their order, and nothing
when none has the words; the static engine goes through those at and below the root by their places, and the browser may
fail instead only where a call to it fails. -/
theorem findAnchorByText_words :
    (∀ s t : String,
      words s.toList = (s.toList.splitOnP Text.isBlank).filter (!·.isEmpty) ∧
        Text.normalize (Text.normalize s) = Text.normalize s ∧
        (Text.normalize s = Text.normalize t ↔ words s.toList = words t.toList) ∧ IsSpaced (Text.normalize s).toList ∧
        (Respaced s.toList t.toList ↔ words s.toList = words t.toList)) ∧
    (∀ (request : String) (texts : List String),
      (∀ k, firstWorded request texts = some k ↔
        (∃ text, texts[k]? = some text ∧ words text.toList = words request.toList) ∧
          ∀ m text, m < k → texts[m]? = some text → words text.toList ≠ words request.toList) ∧
      (firstWorded request texts = none ↔ ∀ text ∈ texts, words text.toList ≠ words request.toList) ∧
      ∀ (request' : String) (texts' : List String), Respaced request.toList request'.toList →
        List.Forall₂ (fun text text' => Respaced text.toList text'.toList) texts texts' →
        firstWorded request' texts' = firstWorded request texts) ∧
    (∀ (s : Static.State) (j : Journal) (n : Static.Node) (request : String),
      Static.engine.findAnchorByText n request ⟨s, j⟩ = .ok (firstAnchor request (Static.anchorsFrom s n)) ⟨s, j⟩ ∧
      (∀ m text, (m, text) ∈ Static.anchorsFrom s n ↔
        ∃ i, m = .element n.treeOf i ∧ text = (s.tree n.treeOf).textContent i ∧ (s.tree n.treeOf).tag? i = some "a" ∧
          (i = n.rowOf s ∨ (s.tree n.treeOf).Under (n.rowOf s) i)) ∧
      (Static.anchorsFrom s n).Pairwise fun p q => p.1.rowOf s < q.1.rowOf s) ∧
    ∀ (root : Browser.Handle) (request : String) (d : Desk Browser.State),
      (∃ d', Browser.engine.findAnchorByText root request d =
        .ok (firstAnchor request (d.device.scene.anchorsFrom root)) d') ∨
      ∃ f d', Browser.engine.findAnchorByText root request d = .error f d' ∧ d.device.scene.Leaks f d.device.calls
        (.queryAll root "a" :: (d.device.scene.anchorsFrom root).map fun p => .textContent p.1) := by
  refine ⟨fun s t => ?_, fun request texts => ?_, fun s j n request => ?_, Browser.findAnchorByText_cases⟩
  · exact ⟨Text.words_eq _, Text.normalize_normalize s, normalize_eq_iff, Text.spaced_normalize s, Text.respaced_iff⟩
  · refine ⟨fun k => Text.firstWorded_some, Text.firstWorded_none, ?_⟩
    intro request' texts' hrequest htexts
    exact Text.firstWorded_respaced hrequest htexts
  · refine ⟨Static.findAnchorByText_eq s j n request, ?_, Static.pairwise_anchorsFrom s n⟩
    intro m text
    exact Static.mem_anchorsFrom

/-- A page with two anchors, the second with a blank of another kind between its words. -/
def signposts : Html.Tree :=
  [⟨0, .root⟩, ⟨1, .element "html" []⟩, ⟨2, .text none⟩, ⟨2, .element "body" []⟩, ⟨3, .text none⟩,
    ⟨3, .element "a" []⟩, ⟨4, .text (some "Go back")⟩, ⟨3, .element "a" []⟩, ⟨4, .text (some "\n Go\u00a0on")⟩]

example : (Html.parse "<a>Go back</a><a>\n Go\u00a0on</a>").toOption = some signposts := by decide +kernel

/-- The static engine after it has loaded this page from a. -/
def signpostsLoaded : Static.State := ⟨[], [], Static.Client.start [], 1, #[⟨signposts, some "a"⟩], 1⟩

/-- The second anchor is found under its words, and so it is when the request and the anchors have other blanks. -/
theorem findAnchorByText_signposts :
    Respaced ("Go on").toList (" Go\u3000on\n").toList ∧
      List.Forall₂ (fun text text' => Respaced text.toList text'.toList) ["Go back", "\n Go\u00a0on"]
        [" Go  back", "Go on"] ∧
      firstWorded " Go\u3000on\n" [" Go  back", "Go on"] = some 1 ∧
      Static.engine.findAnchorByText (.document 0 0 "a") "Go on" ⟨signpostsLoaded, #[]⟩ =
        .ok (some (.element 0 7)) ⟨signpostsLoaded, #[]⟩ := by
  obtain ⟨htext, hfirst, hstatic, -⟩ := findAnchorByText_words
  have hrequest : Respaced ("Go on").toList (" Go\u3000on\n").toList := (htext _ _).2.2.2.2.mpr (by decide)
  have hback : Respaced ("Go back").toList (" Go  back").toList := (htext _ _).2.2.2.2.mpr (by decide)
  have hon : Respaced ("\n Go\u00a0on").toList ("Go on").toList := (htext _ _).2.2.2.2.mpr (by decide)
  have htexts : List.Forall₂ (fun text text' => Respaced text.toList text'.toList) ["Go back", "\n Go\u00a0on"]
      [" Go  back", "Go on"] := .cons hback (.cons hon .nil)
  refine ⟨hrequest, htexts, ?_, ?_⟩
  · rw [(hfirst _ _).2.2 _ _ hrequest htexts]
    decide
  · rw [(hstatic _ _ _ _).1]
    have hfound : firstAnchor "Go on" (Static.anchorsFrom signpostsLoaded (.document 0 0 "a")) = some (.element 0 7) := by
      decide +kernel
    rw [hfound]

end Crawl
