import Crawl.Proofs.Command.ExitCode
import Crawl.Proofs.Command.Records
import Crawl.Proofs.XPath.Order
/-!
# The output as a record of the matches

What a successful command has written is a faithful record of what the engine has answered: one line for each match, in
their order, from which its tag, its text and its attributes can be read again. Whatever the engine is, this holds of the
answers it gave. The two engines of a crawl answer about a node what there is to tell about it, so there the lines tell
about the elements that the path selects on the page: in the order of the document on a static page, and as the browser
finds them otherwise (`faithful_output`).
-/

namespace Crawl.Command

open Crawl.Action (Keeps stateOf failureOf bind_ok bind_error read_eq)
open Static (pageTree? attrKey wordsAt)
open Browser (World Handle Options Incidents)

variable {δ ν γ α : Type}

/-! ## Engines that answer by the node -/

/-- As long as the view of its state is the same, an engine answers about a node what there is to tell about it. -/
structure Portrays (E : Engine δ ν) (view : δ → γ) (v : γ) (node : ν) (p : Portrait) : Prop where
  tag : ∀ d a d', view d.device = v → E.tagName node d = .ok a d' → a = p.tag
  text : ∀ d a d', view d.device = v → E.textContent node d = .ok a d' → a = p.text
  value : ∀ name d a d', view d.device = v → E.attr node name d = .ok a d' → a = p.value name

/-- An engine on which looks keep the view of its state. -/
def Steady (E : Engine δ ν) (view : δ → γ) : Prop :=
  ∀ c : Engine.Call ν, isLook c = true → Keeps (fun d : Desk δ => view d.device) (E.perform c)

/-- What is the same after every look is kept. -/
theorem Legible.steady {E : Engine δ ν} {view : δ → γ} {L : Looks γ ν} (h : Legible E view L) {γ' : Type} (part : γ → γ')
    (hnext : ∀ v c, part (L.next v c) = part v) : Steady E fun s => part (view s) :=
  fun c hc d => (congrArg part (h c hc d).2).trans (hnext _ c)

/-- What a path selects on a page if it does not fail, as long as the view of the engine's state is the same. -/
def Finds (E : Engine δ ν) (view : δ → γ) (v : γ) (page : ν) (xpath : String) (found : Except Failure (List ν)) : Prop :=
  ∀ d nodes d', view d.device = v → E.findByPath page xpath d = .ok nodes d' → found = .ok nodes ∧ view d'.device = v

section

variable {E : Engine δ ν} {view : δ → γ} {v : γ} (h : Steady E view) {names : List String} {s s' : δ}
  {rest : List (Engine.Reply ν)}

omit h in
theorem Steady.view_of_ok {c : Engine.Call ν} (h : Steady E view) (hc : isLook c = true) {d d' : Desk δ} {a : c.Answer}
    (hrun : E.perform c d = .ok a d') (hview : view d.device = v) : view d'.device = v := by
  have hkept : view (stateOf (E.perform c d)).device = view d.device := h c hc d
  rw [hrun] at hkept
  exact hkept.trans hview

include h

/-- The answers about attributes are their values. -/
theorem Steady.values {node : ν} {p : Portrait} (hp : Portrays E view v node p) {attrs : List (String × Option String)}
    (hview : view s = v) (hanswers : E.Answers s (attrs.map (fun e => ⟨.attr node e.1, e.2⟩) ++ rest) s') :
    (∀ e ∈ attrs, e.2 = p.value e.1) ∧ ∃ s₁, view s₁ = v ∧ E.Answers s₁ rest s' := by
  induction attrs generalizing s with
  | nil => exact ⟨fun _ he => absurd he List.not_mem_nil, s, hview, hanswers⟩
  | cons e attrs ih =>
      cases hanswers with
      | reply j first hanswers =>
          obtain ⟨hvalues, hrest⟩ := ih (h.view_of_ok (c := .attr node e.1) rfl first hview) hanswers
          exact ⟨List.forall_mem_cons.mpr ⟨hp.value e.1 ⟨s, j⟩ e.2 _ hview first, hvalues⟩, hrest⟩

/-- A sight shows what there is to tell about its node. -/
theorem Steady.shows {sight : Sight ν names} {p : Portrait} (hp : Portrays E view v sight.node p) (hview : view s = v)
    (hanswers : E.Answers s (sight.replies ++ rest) s') : sight.Shows p ∧ ∃ s₁, view s₁ = v ∧ E.Answers s₁ rest s' := by
  cases hanswers with
  | reply j htag hanswers =>
      have hview₁ := h.view_of_ok (c := .tagName sight.node) rfl htag hview
      cases hanswers with
      | reply j' htext hanswers =>
          have hview₂ := h.view_of_ok (c := .textContent sight.node) rfl htext hview₁
          obtain ⟨hvalues, hrest⟩ := h.values hp hview₂ hanswers
          refine ⟨⟨hp.tag ⟨s, j⟩ _ _ hview htag, hp.text ⟨_, j'⟩ _ _ hview₁ htext, fun name hname => ?_⟩, hrest⟩
          exact Record.lookup_of_forall (fun e he => hvalues e (List.mem_reverse.mp he)) (sight.mem_answered hname)

/-- Sights show what there is to tell about their nodes. -/
theorem Steady.shows_all {look : ν → Portrait} {sights : List (Sight ν names)}
    (hlook : ∀ sight ∈ sights, Portrays E view v sight.node (look sight.node)) (hview : view s = v)
    (hanswers : E.Answers s (sights.flatMap Sight.replies ++ rest) s') : ∀ sight ∈ sights, sight.Shows (look sight.node) := by
  induction sights generalizing s with
  | nil => exact fun _ hsight => absurd hsight List.not_mem_nil
  | cons sight sights ih =>
      rw [List.forall_mem_cons] at hlook ⊢
      rw [List.flatMap_cons, List.append_assoc] at hanswers
      obtain ⟨hshows, s₁, hview₁, hanswers₁⟩ := h.shows hlook.1 hview hanswers
      exact ⟨hshows, ih hlook.2 hview₁ hanswers₁⟩

/-- The lines for the sights of the matches tell about the nodes that the path selects. -/
theorem Steady.faithful {page : ν} {xpath : String} {found : Except Failure (List ν)} {look : ν → Portrait}
    (hfinds : Finds E view v page xpath found)
    (hlook : ∀ nodes, found = .ok nodes → ∀ node ∈ nodes, Portrays E view v node (look node)) (hview : view s = v)
    {sights : List (Sight ν names)}
    (hanswers : E.Answers s (⟨.findByPath page xpath, sights.map Sight.node⟩ :: (sights.flatMap Sight.replies ++ rest)) s') :
    ∃ nodes, found = .ok nodes ∧
      Faithful names (nodes.map look) (String.join (Record.lines 0 (sights.map Sight.record))) := by
  cases hanswers with
  | reply j hfind hanswers =>
      obtain ⟨hfound, hview'⟩ := hfinds ⟨s, j⟩ (sights.map Sight.node) _ hview hfind
      have hshows := h.shows_all (fun sight hsight => hlook _ hfound _ (List.mem_map_of_mem hsight)) hview' hanswers
      refine ⟨_, hfound, ?_⟩
      rw [List.map_map]
      exact faithful_lines hshows

end

/-! ## A static page -/

/-- What there is to tell about the element at a row of a page. -/
def rowPortrait (t : Html.Tree) (i : Nat) : Portrait where
  tag := Text.lower ((t.tag? i).getD "")
  text := wordsAt t i
  value name := match attrKey name with
    | .ok (some key) => t.attr? i key
    | _ => none

theorem portrays_static (s : Static.State) (k i : Nat) :
    Portrays Static.engine id s (.element k i) (rowPortrait (s.tree k) i) where
  tag _ _ _ hd hrun := by
    cases hd
    exact (EStateM.Result.ok.inj hrun).1.symm
  text _ _ _ hd hrun := by
    cases hd
    exact (EStateM.Result.ok.inj hrun).1.symm
  value name d a d' hd hrun := by
    cases hd
    have hattr : Static.attr (.element k i) name d = .ok a d' := hrun
    show a = match attrKey name with
      | .ok (some key) => (d.device.tree k).attr? i key
      | _ => none
    unfold Static.attr at hattr
    cases hkey : attrKey name with
    | error e =>
        rw [hkey] at hattr
        cases hattr
    | ok key =>
        rw [hkey] at hattr
        cases key <;> cases hattr <;> rfl

/-- What a path selects on a document are elements of its tree. -/
theorem selected_ok {s : Static.State} {i k : Nat} {u xpath : String} {nodes : List Static.Node}
    (h : selected s (.document i k u) xpath = .ok nodes) :
    ∃ rows, XPath.select (s.tree k) ((s.tree k).rootElement?.getD 0) xpath = .ok rows ∧ nodes = rows.map (.element k) := by
  cases hfit : Text.isTreeText xpath with
  | false =>
      unfold selected at h
      rw [hfit] at h
      cases h
  | true =>
      rw [selected_document i k u hfit] at h
      cases hrows : XPath.select (s.tree k) ((s.tree k).rootElement?.getD 0) xpath with
      | error e =>
          rw [hrows] at h
          cases h
      | ok rows =>
          rw [hrows] at h
          cases h
          exact ⟨rows, rfl, rfl⟩

theorem steady_static : Steady Static.engine id := legible_static.steady id fun _ _ => rfl

theorem finds_static (s : Static.State) (page : Static.Node) (xpath : String) :
    Finds Static.engine id s page xpath (selected s page xpath) := by
  intro d nodes d' hd hrun
  obtain ⟨d₁, hd₁, hends⟩ := selects_static s page xpath d hd
  rw [hrun] at hends
  cases hselected : selected s page xpath with
  | error f =>
      rw [hselected] at hends
      cases hends
  | ok found =>
      rw [hselected] at hends
      cases hends
      exact ⟨rfl, hd₁⟩

/-- What a listing on the static engine writes tells about the elements that the path selects on the page, in the order of
the document. -/
theorem faithful_static {s : Static.State} {url xpath : String} {names : List String} {s' : Session Static.State Static.Node Output}
    (hrun : list Static.engine url xpath names (Session.start s []) = .ok () s') :
    ∃ t rows, pageTree? s url = some t ∧ XPath.select t (t.rootElement?.getD 0) xpath = .ok rows ∧
      Faithful names (rows.map (rowPortrait t)) (String.join s'.host) := by
  obtain ⟨page, sights, hanswers, hhost⟩ := list_hears hrun
  rw [hhost]
  cases hanswers with
  | reply j hload hanswers =>
      have hload : Static.load url none ⟨s, j⟩ = .ok page _ := hload
      cases hpage : pageTree? s url with
      | none =>
          obtain ⟨f, d, hfails⟩ := Static.load_of_pageTree?_none (j := j) hpage
          rw [hfails] at hload
          cases hload
      | some t =>
          obtain ⟨i, k, u, d, hloads, htree⟩ := Static.load_of_pageTree? (j := j) hpage
          obtain ⟨rfl, rfl⟩ := EStateM.Result.ok.inj (hloads.symm.trans hload)
          subst htree
          have hlook (nodes : List Static.Node) (hselected : selected d.device (.document i k u) xpath = .ok nodes)
              (node : Static.Node) (hnode : node ∈ nodes) :
              Portrays Static.engine id d.device node (rowPortrait (d.device.tree k) (node.rowOf d.device)) := by
            obtain ⟨rows, -, rfl⟩ := selected_ok hselected
            obtain ⟨row, -, rfl⟩ := List.mem_map.mp hnode
            exact portrays_static d.device k row
          obtain ⟨nodes, hselected, hfaithful⟩ := steady_static.faithful (finds_static d.device _ xpath) hlook rfl hanswers
          obtain ⟨rows, hrows, rfl⟩ := selected_ok hselected
          rw [List.map_map] at hfaithful
          exact ⟨_, rows, rfl, hrows, hfaithful⟩

/-! ## A page in a browser -/

/-- What there is to tell about what a browser hands out. -/
def handlePortrait (w : World) : Handle → Portrait
  | .page _ => ⟨"#document", Text.normalize (w.body.getD ""), fun _ => none⟩
  | .element name =>
    ⟨(w.element name).tag, Text.normalize ((w.element name).innerText.getD ""), fun asked => (w.element name).attrs.lookup asked⟩

variable {w : World} {i : Incidents}

/-- A look at an element sees what the world has it be. -/
theorem look_element {name : String} (c : Browser.Call) (f : Browser.Element → α) {d d' : Desk Browser.State} {a : α}
    (hd : d.device.scene = sceneOf w i)
    (hrun : (Browser.make c >>= fun _ => Browser.elementOf (.element name) >>= fun e => pure (f e)) d = .ok a d') :
    a = f (w.element name) := by
  have helements : d.device.world.elements = w.elements := congrArg Browser.Scene.elements hd
  rcases Browser.make_cases c d with ⟨-, hok⟩ | ⟨g, -, herror⟩
  · rw [bind_ok hok] at hrun
    cases hrun
    show f ((d.device.world.elements.lookup name).getD .unknown) = _
    rw [helements]
    rfl
  · rw [bind_error herror] at hrun
    cases hrun

theorem portrays_browser (w : World) (i : Incidents) (name : String) :
    Portrays Browser.engine Browser.State.scene (sceneOf w i) (.element name) (handlePortrait w (.element name)) where
  tag _ _ _ hd hrun := look_element (.readTag (.element name)) Browser.Element.tag hd hrun
  text _ _ _ hd hrun := look_element (.innerText (.element name)) (fun e => Text.normalize (e.innerText.getD "")) hd hrun
  value asked _ _ _ hd hrun := look_element (.readAttr (.element name) asked) (fun e => e.attrs.lookup asked) hd hrun

theorem steady_browser : Steady Browser.engine Browser.State.scene := by
  refine legible_browser.steady Stage.scene fun v c => ?_
  obtain ⟨calls, hnext⟩ := next_browserLooks v c
  rw [hnext]

/-- What a path selects on the page of a browser, if nothing fails, is what the world has it find. -/
theorem finds_browser (w : World) (i : Incidents) (xpath : String) :
    Finds Browser.engine Browser.State.scene (sceneOf w i) (.page w.launch.page) xpath (found w xpath) := by
  intro d nodes d' hd hrun
  have hrun : Browser.findByPath (.page w.launch.page) xpath d = .ok nodes d' := hrun
  let c : Browser.Call := .queryAll (.page w.launch.page) ("xpath=" ++ xpath)
  have hselect : (Browser.called c d).device.world.select = w.select := congrArg Browser.Scene.select hd
  rcases Browser.make_cases c d with ⟨-, hok⟩ | ⟨g, -, herror⟩
  · obtain ⟨d₁, hstage, hends⟩ := findByPath_called hselect rfl hok
    rw [hrun] at hends
    cases hfound : found w xpath with
    | error f =>
        rw [hfound] at hends
        cases hends
    | ok found =>
        rw [hfound] at hends
        cases hends
        exact ⟨rfl, (congrArg Stage.scene hstage).trans hd⟩
  · unfold Browser.findByPath Browser.translate Action.recast at hrun
    rw [show Browser.queryAll (.page w.launch.page) ("xpath=" ++ xpath) d = _ from bind_error herror _] at hrun
    cases hrun

/-- What a listing on a new browser writes tells about the elements that the path selects there. -/
theorem faithful_browser {o : Options} {url xpath : String} {names : List String}
    {s' : Session Browser.State Handle Output}
    (hrun : list Browser.engine url xpath names (Session.start (.start o w i) []) = .ok () s') :
    ∃ nodes, found w xpath = .ok nodes ∧ Faithful names (nodes.map (handlePortrait w)) (String.join s'.host) := by
  obtain ⟨root, sights, hanswers, hhost⟩ := list_hears hrun
  rw [hhost]
  cases hanswers with
  | reply j hload hanswers =>
      have hload : Browser.loadDocument url ⟨.start o w i, j⟩ = .ok root _ := hload
      obtain ⟨d, hstage, ⟨-, hloads⟩ | ⟨-, f, -, hfails⟩⟩ := loadDocument_start o w i url j
      · rw [hloads] at hload
        cases hload
        have hscene := congrArg Stage.scene hstage
        refine steady_browser.faithful (finds_browser w i xpath) (fun nodes hfound node hnode => ?_) hscene hanswers
        obtain ⟨elements, rfl⟩ := found_ok hfound
        obtain ⟨name, -, rfl⟩ := List.mem_map.mp hnode
        exact portrays_browser w i name
      · rw [hfails] at hload
        cases hload

/-! ## The whole command -/

/-- The matches of a path on a page, as what there is to tell about them: on a static page the elements to which the path
leads, in the order of the document, and in a browser what it finds, in its order. -/
inductive Matches (w : Surroundings) (c : Config) (a : Arguments) : List Portrait → Prop
  | static {s : Static.State} {t : Html.Tree} {rows : List Nat} (engine : c.engine = .static)
      (start : Static.State.start w.pages w.files w.replies c.userAgent c.timeoutMs = .ok s)
      (page : pageTree? s a.url = some t) (selected : XPath.select t (t.rootElement?.getD 0) a.xpath = .ok rows)
      (ascending : rows.Pairwise (· < ·)) : Matches w c a (rows.map (rowPortrait t))
  | browser {nodes : List Handle} (engine : c.engine = .playwright) (found : found w.world a.xpath = .ok nodes) :
      Matches w c a (nodes.map (handlePortrait w.world))

theorem ok_of_failure_ofResult {device : δ → Device} {r : EStateM.Result Failure (Session δ ν Output) Unit}
    (h : (Crawled.ofResult device r).failure = none) : ∃ s, r = .ok () s ∧ (Crawled.ofResult device r).output = s.host := by
  cases r with
  | ok _ s => exact ⟨s, rfl, rfl⟩
  | error f s => cases h

/-- A crawl that succeeds writes a faithful record of the matches. -/
theorem faithful_crawl {w : Surroundings} {c : Config} {a : Arguments} (h : (crawl w c a).failure = none) :
    ∃ portraits, Matches w c a portraits ∧ Faithful a.attrs portraits (String.join (crawl w c a).output) := by
  cases hengine : c.engine with
  | static =>
      unfold crawl at h ⊢
      rw [hengine] at h ⊢
      dsimp only at h ⊢
      cases hstart : Static.State.start w.pages w.files w.replies c.userAgent c.timeoutMs with
      | error f =>
          rw [hstart] at h
          cases h
      | ok s =>
          rw [hstart] at h
          obtain ⟨s', hrun, houtput⟩ := ok_of_failure_ofResult h
          obtain ⟨t, rows, hpage, hrows, hfaithful⟩ := faithful_static hrun
          dsimp only
          rw [houtput]
          exact ⟨_, .static hengine hstart hpage hrows (XPath.select_ascending hrows), hfaithful⟩
  | playwright =>
      rw [crawl_playwright a hengine] at h ⊢
      obtain ⟨s', hrun, houtput⟩ := ok_of_failure_ofResult h
      obtain ⟨nodes, hfound, hfaithful⟩ := faithful_browser hrun
      rw [houtput]
      exact ⟨_, .browser hengine hfound, hfaithful⟩

/-- **The output is a faithful record of the matches.** With any engine: when a listing succeeds, the engine has loaded the
page, selected the matches and answered about each of them, in order, and the output tells what it answered. With the
engine of the configuration: when the command succeeds, its output tells about the matches on the page. -/
theorem faithful_output :
    (∀ (δ ν : Type) [DecidableEq ν] (E : Engine δ ν) (device : δ) (url xpath : String) (names : List String)
        (s' : Session δ ν Output), list E url xpath names (Session.start device []) = .ok () s' →
        ∃ (page : ν) (sights : List (Sight ν names)),
          E.Answers device (⟨.loadDocument url, page⟩ :: ⟨.findByPath page xpath, sights.map Sight.node⟩ ::
            (sights.flatMap Sight.replies ++ [⟨.close, ()⟩])) s'.desk.device ∧
          Faithful names (sights.map Sight.portrait) (String.join s'.host)) ∧
      ∀ (w : Surroundings) (a : Arguments) (base : Option Config), (run w a base).failure = none →
        ∃ c portraits, (base = some c ∨ base = none ∧ a.config w.environment none = .ok c) ∧
          Matches w c a portraits ∧ Faithful a.attrs portraits (String.join (run w a base).output) := by
  constructor
  · intro δ ν _ E device url xpath names s' hrun
    obtain ⟨page, sights, hanswers, hhost⟩ := list_hears hrun
    rw [hhost]
    exact ⟨page, sights, hanswers, faithful_lines fun sight _ => sight.shows_portrait⟩
  · intro w a base h
    unfold run at h ⊢
    cases base with
    | some c =>
        obtain ⟨portraits, hmatches, hfaithful⟩ := faithful_crawl h
        exact ⟨c, portraits, .inl rfl, hmatches, hfaithful⟩
    | none =>
        dsimp only at h ⊢
        cases hconfig : a.config w.environment none with
        | error fault =>
            rw [hconfig] at h
            cases h
        | ok c =>
            rw [hconfig] at h
            obtain ⟨portraits, hmatches, hfaithful⟩ := faithful_crawl h
            exact ⟨c, portraits, .inr ⟨rfl, rfl⟩, hmatches, hfaithful⟩

/-- Surroundings in which a path finds one element in a browser, whose text and title cannot stand on a line as they are. -/
def awkward : Surroundings := { calm with world := { World.quiet with
  select := [("xpath=//p", .names ["first"])]
  elements := [("first", { Browser.Element.unknown with
    tag := "p", attrs := [("title", "one\ntwo")], innerText := some "say \"\\\" \x07" })] } }

/-- Arguments that ask for one attribute twice and for another one that is not there. -/
def asking : Arguments := ⟨"a", "//p", ["title", "id", "title"], none, none, none, false, false, none⟩

theorem faithful_output_awkward :
    (run awkward asking (some .default)).failure = none ∧
      Faithful asking.attrs [handlePortrait awkward.world (.element "first")]
        (String.join (run awkward asking (some .default)).output) ∧
      ∃ (s' : Session Browser.State Handle Output) (sights : List (Sight Handle asking.attrs)),
        list Browser.engine asking.url asking.xpath asking.attrs
          (Session.start (.start (.ofConfig .default) awkward.world awkward.incident) []) = .ok () s' ∧
        Faithful asking.attrs (sights.map Sight.portrait) (String.join s'.host) := by
  have hsuccess : (run awkward asking (some .default)).failure = none := by decide +kernel
  have hfound : found awkward.world asking.xpath = .ok [.element "first"] := by decide +kernel
  refine ⟨hsuccess, ?_, ?_⟩
  · obtain ⟨c, portraits, hc | ⟨hnone, -⟩, hmatches, hfaithful⟩ := faithful_output.2 awkward asking (some .default) hsuccess
    · cases hc
      cases hmatches with
      | static engine _ _ _ _ => cases engine
      | browser _ found =>
          cases found.symm.trans hfound
          exact hfaithful
    · cases hnone
  · have hcrawl : (crawl awkward .default asking).failure = none := hsuccess
    rw [crawl_playwright asking rfl] at hcrawl
    obtain ⟨s', hrun, -⟩ := ok_of_failure_ofResult hcrawl
    obtain ⟨_, sights, -, hfaithful⟩ := faithful_output.1 _ _ Browser.engine _ asking.url asking.xpath asking.attrs s' hrun
    exact ⟨s', sights, hrun, hfaithful⟩

end Crawl.Command
