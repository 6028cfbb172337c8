import Crawl.Proofs.Engine.Answers
import Crawl.Proofs.Command.Closing
/-!
# What a listing sees

The command reads each match through the scope in front: its text and its attributes are those of whatever node is there.
That this is the match itself rests on every scope being left again. Here it is followed through a whole listing which
calls the engine answers, and from which answers each record is made: a listing that succeeds has loaded the page, found
the matches, seen each of them in order, and closed the engine (`list_hears`).
-/

namespace Crawl.Command

open Crawl.Action (bind_ok bind_error stateOf failureOf)
open Crawl.Engine (Reply Answers)

variable {δ ν τ α β : Type}

/-! ## Sights -/

/-- What was seen of a node: its tag, its text, and what was answered for each of some names, in the order in which they
were asked for. -/
structure Sight (ν : Type) (names : List String) where
  node : ν
  tag : String
  text : String
  attrs : List (String × Option String)
  asked : attrs.map Prod.fst = names

namespace Sight

variable {names : List String}

/-- The replies of the engine in which a sight consists: all of them are about the node. -/
def replies (sight : Sight ν names) : List (Reply ν) :=
  ⟨.tagName sight.node, sight.tag⟩ :: ⟨.textContent sight.node, sight.text⟩ ::
    sight.attrs.map fun e => ⟨.attr sight.node e.1, e.2⟩

/-- Each name that was asked for is answered. -/
theorem mem_answered (sight : Sight ν names) {name : String} (hname : name ∈ names) :
    name ∈ sight.attrs.reverse.map Prod.fst := by
  rw [List.map_reverse, List.mem_reverse, sight.asked]
  exact hname

/-- The record of a sight. -/
def record (sight : Sight ν names) : Record :=
  ⟨sight.tag, sight.text, sight.attrs.foldl (fun known e => Record.put e.1 e.2 known) []⟩

end Sight

/-! ## What an action hears -/

/-- When an action succeeds, the nodes in scope are the same as before, and the engine has given replies that fit the value. -/
def Hears (E : Engine δ ν) (act : Action (Session δ ν τ) α) (s : Session δ ν τ) (fits : α → List (Reply ν) → Prop) : Prop :=
  ∀ a s', act s = .ok a s' → s'.frames = s.frames ∧ ∃ rs, E.Answers s.desk.device rs s'.desk.device ∧ fits a rs

namespace Hears

variable {E : Engine δ ν} {s : Session δ ν τ} {fits : α → List (Reply ν) → Prop}

/-- What happens apart from the engine and its scopes changes nothing. -/
theorem of_run {act act' : Action (Session δ ν τ) α} {s₁ : Session δ ν τ} (hrun : act s = act' s₁)
    (hframes : s₁.frames = s.frames) (hdevice : s₁.desk.device = s.desk.device) (h : Hears E act' s₁ fits) :
    Hears E act s fits := by
  intro a s' hok
  rw [hrun] at hok
  obtain ⟨hframes', rs, hrs, hfits⟩ := h a s' hok
  exact ⟨hframes'.trans hframes, rs, hdevice ▸ hrs, hfits⟩

theorem pure {a : α} (h : fits a []) : Hears E (Pure.pure a) s fits := by
  intro a' s' hrun
  cases hrun
  exact ⟨rfl, [], .silent _, h⟩

theorem bind {x : Action (Session δ ν τ) α} {k : α → Action (Session δ ν τ) β} {fits' : β → List (Reply ν) → Prop}
    (hx : Hears E x s fits) (hk : ∀ a rs s', s'.frames = s.frames → fits a rs →
      Hears E (k a) s' fun b rs' => fits' b (rs ++ rs')) : Hears E (x >>= k) s fits' := by
  intro b s'' hrun
  cases hr : x s with
  | error f s' =>
      rw [bind_error hr] at hrun
      cases hrun
  | ok a s' =>
      rw [bind_ok hr] at hrun
      obtain ⟨hframes, rs, hrs, hfits⟩ := hx a s' hr
      obtain ⟨hframes', rs', hrs', hfits'⟩ := hk a rs s' hframes hfits b s'' hrun
      exact ⟨hframes'.trans hframes, rs ++ rs', hrs.append hrs', hfits'⟩

/-- A call is answered once. -/
theorem call (c : Engine.Call ν) :
    Hears E (Session.onDesk (E.perform c) : Action (Session δ ν τ) c.Answer) s fun a rs => rs = [⟨c, a⟩] := by
  intro a s' hrun
  obtain ⟨d, hcall, rfl⟩ := Session.onDesk_ok hrun
  exact ⟨rfl, _, .one hcall, rfl⟩

/-- What is done with the node in front is done with that node. -/
theorem of_front {node : ν} {rest : List ν} (hframes : s.frames = node :: rest) {k : ν → Action (Session δ ν τ) α}
    (h : Hears E (k node) s fits) : Hears E (Session.front >>= k) s fits := by
  intro a s' hrun
  rw [bind_ok (Session.front_cons hframes)] at hrun
  exact h a s' hrun

/-- A scope is left again, and nothing is asked about entering and leaving it. -/
theorem inScope [DecidableEq ν] (node : ν) {body : Action (Session δ ν τ) α}
    (hbody : ∀ s' : Session δ ν τ, s'.frames = node :: s.frames → Hears E body s' fits) :
    Hears E (Session.inScope E node body) s fits := by
  intro a s' hrun
  obtain ⟨s₁, hpush, hframes₁, hdevice₁⟩ := Ends.push_front E node s
  rw [Session.inScope, bind_ok hpush] at hrun
  obtain ⟨s₂, hbodyRun, hleave⟩ := Action.always_ok hrun
  obtain ⟨hframes₂, rs, hrs, hfits⟩ := hbody s₁ hframes₁ a s₂ hbodyRun
  obtain ⟨s₃, hleave', hframes₃, hdevice₃⟩ := Ends.leave_front E (hframes₂.trans hframes₁)
  rw [hleave'] at hleave
  cases hleave
  refine ⟨hframes₃, rs, ?_, hfits⟩
  rw [← hdevice₁, hdevice₃]
  exact hrs

end Hears

/-! ## Reading the matches -/

variable {E : Engine δ ν} {names : List String}

/-- Each name is asked for once, in order, and what is known is brought up to date with each answer. -/
theorem hears_readAttrs {node : ν} {rest : List ν} (names : List String) (known : List (String × Option String))
    {s : Session δ ν Output} (hframes : s.frames = node :: rest) :
    Hears E (readAttrs E known names) s fun attrs rs => ∃ answers : List (String × Option String),
      answers.map Prod.fst = names ∧ rs = answers.map (fun e => (⟨.attr node e.1, e.2⟩ : Reply ν)) ∧
        attrs = answers.foldl (fun known e => Record.put e.1 e.2 known) known := by
  induction names generalizing known s with
  | nil => exact .pure ⟨[], rfl, rfl, rfl⟩
  | cons name names ih =>
      have hasked : Hears E (Session.attributeOf E name none) s fun a rs => rs = [⟨.attr node name, a⟩] :=
        .of_front hframes (.call (.attr node name))
      refine .bind hasked fun value rs s' hframes' hrs a s'' hrun => ?_
      obtain ⟨hkept, rs', hrs', answers, hnames, hreplies, hattrs⟩ := ih _ (hframes'.trans hframes) a s'' hrun
      subst hrs hreplies
      exact ⟨hkept, _, hrs', (name, value) :: answers, congrArg (name :: ·) hnames, rfl, hattrs⟩

/-- A match is described by one sight of it. -/
theorem hears_describe {node : ν} {rest : List ν} {s : Session δ ν Output} (hframes : s.frames = node :: rest) :
    Hears E (describe E names node) s fun record rs => ∃ sight : Sight ν names,
      sight.node = node ∧ rs = sight.replies ∧ record = sight.record := by
  refine .bind (.call (.tagName node)) fun tag rs s₁ hframes₁ hrs => ?_
  have htext : Hears E (Session.textOf E none) s₁ fun a rs => rs = [⟨.textContent node, a⟩] :=
    .of_front (hframes₁.trans hframes) (.call (.textContent node))
  refine .bind htext fun text rs' s₂ hframes₂ hrs' => ?_
  refine .bind (hears_readAttrs names [] (hframes₂.trans (hframes₁.trans hframes))) fun attrs rs'' s₃ _ hattrs => ?_
  obtain ⟨answers, hnames, hreplies, hvalue⟩ := hattrs
  subst hrs hrs' hreplies hvalue
  exact .pure ⟨⟨node, tag, text, answers, hnames⟩, rfl, by rw [List.append_nil]; rfl, rfl⟩

/-- The matches are described one after the other, each by a sight of it. -/
theorem hears_runOver [DecidableEq ν] (nodes : List ν) {s : Session δ ν Output} :
    Hears E (Session.runOver E (describe E names) nodes) s fun records rs => ∃ sights : List (Sight ν names),
      sights.map Sight.node = nodes ∧ rs = sights.flatMap Sight.replies ∧ records = sights.map Sight.record := by
  induction nodes generalizing s with
  | nil => exact .pure ⟨[], rfl, rfl, rfl⟩
  | cons node nodes ih =>
      refine .bind (.inScope node fun s' hframes => hears_describe hframes) fun record rs s₁ _ hsight => ?_
      refine .bind ih fun records rs' s₂ _ hsights => ?_
      obtain ⟨sight, hnode, hrs, hrecord⟩ := hsight
      obtain ⟨sights, hnodes, hrs', hrecords⟩ := hsights
      subst hnode hrs hrecord hnodes hrs' hrecords
      exact .pure ⟨sight :: sights, rfl, by rw [List.append_nil]; rfl, rfl⟩

/-- The path is evaluated once, on the page. -/
theorem hears_resolveList (i : Nat) {xpath : String} (hne : xpath ≠ "") (page : ν) (s : Session δ ν τ) :
    Hears E (Session.resolveList E ⟨i, .element .container (some ⟨.xpath, xpath, hne⟩)⟩ (some page)) s
      fun nodes rs => rs = [⟨.findByPath page xpath, nodes⟩] := by
  rw [resolveList_eq E i hne page]
  refine .bind (.call (.findByPath page xpath)) fun nodes rs s₁ _ hrs a s' hrun => ?_
  cases hrun
  exact ⟨rfl, [], .silent _, (List.append_nil rs).trans hrs⟩

/-- The matches are those that the path finds on the page in front. -/
theorem hears_readMatches [DecidableEq ν] {page : ν} {rest : List ν} {xpath : String} {s : Session δ ν Output}
    (hframes : s.frames = page :: rest) :
    Hears E (readMatches E xpath names) s fun records rs => ∃ sights : List (Sight ν names),
      rs = ⟨.findByPath page xpath, sights.map Sight.node⟩ :: sights.flatMap Sight.replies ∧
        records = sights.map Sight.record := by
  by_cases hne : xpath = ""
  · subst hne
    intro records s' hrun
    cases hrun
  refine .of_run (readMatches_eq E names hne s) rfl rfl ?_
  have hnumbered : ({ s with serial := s.serial + 1 } : Session δ ν Output).frames = page :: rest := hframes
  refine .of_run (bind_ok (Session.frontOrNone_cons hnumbered) _) rfl rfl ?_
  refine .bind (hears_resolveList s.serial hne page _) fun nodes rs s₁ _ hrs => ?_
  intro records s₂ hrun
  obtain ⟨hkept, rs', hrs', sights, hnodes, hreplies, hrecords⟩ := hears_runOver nodes records s₂ hrun
  subst hrs hnodes hreplies
  exact ⟨hkept, _, hrs', sights, rfl, hrecords⟩

/-! ## The whole listing -/

variable [DecidableEq ν] {device : δ} {url xpath : String}

/-- Collecting that succeeds has loaded the page and seen the matches that the path finds on it. -/
theorem collect_hears {records : List Record} {s' : Session δ ν Output}
    (hrun : collect E url xpath names (Session.start device []) = .ok records s') :
    ∃ (page : ν) (sights : List (Sight ν names)),
      E.Answers device (⟨.loadDocument url, page⟩ :: ⟨.findByPath page xpath, sights.map Sight.node⟩ ::
        sights.flatMap Sight.replies) s'.desk.device ∧
      records = sights.map Sight.record := by
  by_cases hurl : url = ""
  · subst hurl
    obtain ⟨s, hfails, -⟩ := collect_noAddress E device xpath names
    rw [hfails] at hrun
    cases hrun
  cases hload : E.loadDocument url ⟨device, arrival url⟩ with
  | error f d =>
      obtain ⟨s, hfails, -⟩ := collect_notLoaded E device xpath names hurl hload
      rw [hfails] at hrun
      cases hrun
  | ok page d =>
      obtain ⟨s, hdevice, hscope⟩ := collect_loaded E device xpath names hurl hload
      rw [hscope] at hrun
      obtain ⟨-, rs, hrs, sights, hreplies, hrecords⟩ :=
        Hears.inScope page (fun s' hframes => hears_readMatches hframes) records s' hrun
      subst hreplies
      rw [hdevice] at hrs
      exact ⟨page, sights, .reply (arrival url) hload hrs, hrecords⟩

/-- **What a listing sees.** A listing that succeeds has loaded the page, found the matches of the path on it, seen each of
them, in order, and closed the engine; and it has written the records of these sights. -/
theorem list_hears {s' : Session δ ν Output} (hrun : list E url xpath names (Session.start device []) = .ok () s') :
    ∃ (page : ν) (sights : List (Sight ν names)),
      E.Answers device (⟨.loadDocument url, page⟩ :: ⟨.findByPath page xpath, sights.map Sight.node⟩ ::
        (sights.flatMap Sight.replies ++ [⟨.close, ()⟩])) s'.desk.device ∧
      s'.host = Record.lines 0 (sights.map Sight.record) := by
  obtain ⟨records, s₁, d, hcollect, hclose, hdevice, hhost⟩ := list_ok E url xpath names hrun
  obtain ⟨page, sights, hanswers, hrecords⟩ := collect_hears hcollect
  have hclosed : E.Answers s₁.desk.device [⟨.close, ()⟩] d.device := .one hclose
  subst hrecords
  rw [hdevice, hhost]
  exact ⟨page, sights, hanswers.append hclosed, rfl⟩

end Crawl.Command
