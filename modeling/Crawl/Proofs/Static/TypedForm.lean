import Crawl.Proofs.Static.Blanked
import Crawl.Proofs.Static.Filling
import Crawl.Proofs.Static.QueryForm
/-!
# Forms that are filled in

When a form is sent whose fields were typed into, its page is the page as it was loaded with the last text in each of them,
and typing moves no form and changes no address and no method. So the form sends just that: its controls in order, each with
the last text typed into it or else with what it had, and last the control that was clicked (`typed_submission`).
-/

namespace Crawl.Static

open Crawl.Action (stateOf valueOf failureOf bind_ok bind_error ok_of_valueOf read_eq)
open Crawl.Html (lastTyped)
open Crawl.Html.Form (TakesText fieldsTyped)

variable {τ : Type} {s : State} {k i form : Nat} {r : Html.Row} {ts : List (Nat × String)}

/-! ## What typing leaves to the form -/

theorem formAbove?_typed (t : Html.Tree) (ts : List (Nat × String)) (i : Nat) :
    formAbove? (t.typed ts) i = formAbove? t i :=
  formAbove?_mapRows (Html.typed_depth t ts) (fun i r => (Html.typed_same t ts i r).2.1) t i

theorem formAttr?_typed (t : Html.Tree) (ts : List (Nat × String)) (form : Nat) {name : String} (hname : name ≠ "value") :
    formAttr? (t.typed ts) form name = formAttr? t form name := by
  unfold formAttr?
  rw [Html.Tree.typed, Html.Tree.getElem?_mapRows]
  cases t[form]? with
  | none => rfl
  | some r =>
      rw [Option.map_some, Option.bind_some, Option.bind_some, Html.Form.filled?, (Html.typed_same t ts form r).2.2 name hname,
        Html.Form.filled?]

/-- A submitter is an input or a button. -/
theorem tag_of_isSubmitter (h : isSubmitter r (tagOf r) = true) : tagOf r = "input" ∨ tagOf r = "button" :=
  tagOf_of_passes ((isSubmitter_iff r).mp h).1

/-- Text and comments have no tag. -/
theorem element_of_isSubmitter (h : isSubmitter r (tagOf r) = true) : ∃ depth tag attrs, r = ⟨depth, .element tag attrs⟩ := by
  cases htag : r.tag? with
  | some tag =>
      obtain ⟨depth, attrs, hr⟩ := row_of_tag htag
      exact ⟨depth, tag, attrs, hr⟩
  | none =>
      have hempty : tagOf r = "" := by
        have hlower : Text.lower "" = "" := by decide +kernel
        rw [tagOf, htag, Option.getD_none, hlower]
      rcases tag_of_isSubmitter h with h' | h' <;> rw [hempty] at h' <;> exact absurd h' (by decide)

/-- A submitter is no text field. -/
theorem passes_of_isSubmitter (h : isSubmitter r (tagOf r) = true) : passes r .textField = false := by
  have hpasses := ((isSubmitter_iff r).mp h).1
  unfold passes at hpasses ⊢
  rcases tag_of_isSubmitter h with htag | htag
  · have harea : (tagOf r == "textarea") = false := by rw [htag]; decide
    have hinput : (tagOf r == "input") = true := beq_iff_eq.mpr htag
    simp only [hinput, if_true] at hpasses
    simp only [harea, hinput, Bool.false_eq_true, if_false, if_true]
    have hall : ∀ type ∈ ["submit", "image"], textInputTypes.contains type = false := by decide +kernel
    exact hall _ (List.contains_iff_mem.mp hpasses)
  · have harea : (tagOf r == "textarea") = false := by rw [htag]; decide
    have hinput : (tagOf r == "input") = false := by rw [htag]; decide
    simp only [harea, hinput, Bool.false_eq_true, if_false]

/-- An input that submits has one of the silent types. -/
theorem inputValues_of_isSubmitter (h : isSubmitter r (tagOf r) = true) (htag : tagOf r = "input") :
    Html.Form.inputValues r = [] := by
  have hinput : (tagOf r == "input") = true := beq_iff_eq.mpr htag
  unfold isSubmitter at h
  simp only [hinput, if_true] at h
  have htype : Html.Form.inputType r = Text.lower ((r.attr? "type").getD "") := by
    unfold Html.Form.inputType
    cases htype : r.attr? "type" with
    | some type => rfl
    | none =>
        rw [htype] at h
        exact absurd h (by decide +kernel)
  have hall : ∀ type ∈ ["submit", "image"],
      ["checkbox", "radio"].contains type = false ∧ Html.Form.silentTypes.contains type = true := by decide +kernel
  obtain ⟨hbox, hsilent⟩ := hall _ (List.contains_iff_mem.mp h)
  unfold Html.Form.inputValues
  simp only [htype, hbox, hsilent, Bool.false_eq_true, if_false, if_true]

section Submitters

variable {t : Html.Tree} (hlast : ∀ j text, lastTyped ts j = some text → ∃ r, t[j]? = some r ∧ passes r .textField = true)
include hlast

/-- Nothing was typed into a submitter. -/
theorem lastTyped_of_isSubmitter (hrow : t[i]? = some r) (h : isSubmitter r (tagOf r) = true) : lastTyped ts i = none := by
  cases hi : lastTyped ts i with
  | none => rfl
  | some text =>
      obtain ⟨r', hrow', hpasses⟩ := hlast i text hi
      cases hrow.symm.trans hrow'
      rw [passes_of_isSubmitter h] at hpasses
      cases hpasses

/-- So its row is what it was. -/
theorem typed_of_isSubmitter (hrow : t[i]? = some r) (h : isSubmitter r (tagOf r) = true) : (t.typed ts)[i]? = some r := by
  have hnone := lastTyped_of_isSubmitter hlast hrow h
  rw [Html.Tree.typed, Html.Tree.getElem?_mapRows, hrow]
  refine congrArg some ?_
  obtain ⟨depth, tag, attrs, rfl⟩ := element_of_isSubmitter h
  unfold Html.Row.typed
  rw [hnone]
  exact ite_self _

/-- A submitter in a form sends nothing with the form. -/
theorem fieldsTyped_of_isSubmitter (hrow : t[i]? = some r) (h : isSubmitter r (tagOf r) = true) :
    fieldsTyped t ts (r, i) = [] := by
  have hnone := lastTyped_of_isSubmitter hlast hrow h
  have hother {word : String} (hlower : Text.lower word = word) (hinput : word ≠ "input") (hbutton : word ≠ "button") :
      r.tag? ≠ some word := by
    intro htag
    have hword : tagOf r = word := by rw [tagOf, htag, Option.getD_some, hlower]
    rcases tag_of_isSubmitter h with h' | h'
    · exact hinput (hword.symm.trans h')
    · exact hbutton (hword.symm.trans h')
  have hvalues : Html.Form.controlValues t r i = [] := by
    unfold Html.Form.controlValues
    split
    · next htag => exact absurd htag (hother (by decide +kernel) (by decide) (by decide))
    · next htag => exact absurd htag (hother (by decide +kernel) (by decide) (by decide))
    · next htag =>
        have hword : tagOf r = "input" := by
          have hlower : Text.lower "input" = "input" := by decide +kernel
          rw [tagOf, htag, Option.getD_some, hlower]
        exact inputValues_of_isSubmitter h hword
    · rfl
  unfold fieldsTyped
  dsimp only
  rw [hnone]
  unfold Html.Form.controlFields
  dsimp only
  rw [hvalues]
  split
  · exact ite_self _
  · rfl

end Submitters

/-! ## Sending -/

/-- Where a form of a page leads to with some fields: to its target with the fields to send there, or to the address that
the fields make of the target. -/
def leadsTo (base : String) (t : Html.Tree) (form : Nat) (sent : List (String × String)) :
    Except Url.Fault (String × Option (List (String × String))) :=
  match Url.join base.toList ((formAttr? t form "action").getD base).toList with
  | .error e => .error e
  | .ok target =>
    if Text.lower ((formAttr? t form "method").getD "get") = "post" then .ok (String.ofList target, some sent)
    else match Url.split (String.ofList target).toList with
      | .error e => .error e
      | .ok p => .ok (String.ofList (Url.unsplit ⟨p.scheme, p.netloc, p.path, Url.formQuery sent, []⟩), none)

theorem formDestination_eq (base : String) (t : Html.Tree) (form : Nat) (r : Html.Row) :
    formDestination base t form r = leadsTo base t form (sentFields t form r) := rfl

/-- A request to a server: the target is no page that the engine knows, and it is reached by a client. -/
structure Remote (s : State) (target : List Char) : Prop where
  whole : s.pages.lookup (String.ofList target) = none
  parts : ∃ p, Url.split target = .ok p ∧ s.pages.lookup (bareOf p) = none ∧
    (String.ofList p.scheme = "http" ∨ String.ofList p.scheme = "https")

/-- Asking the client makes one request, whatever is answered. -/
theorem requests_ask (url : String) (data : Option (List (String × String))) (d : Desk State) :
    (stateOf (ask url data d)).device.client.requests =
      d.device.client.requests.push ⟨url, data, d.device.timeout⟩ := by
  rw [ask, bind_ok (read_eq d)]
  unfold Client.send
  dsimp only
  cases d.device.client.replies.headD (.failed "no scripted response") with
  | failed message => rfl
  | answered text final statusError => cases statusError <;> rfl

/-- Loading makes the requests that fetching makes. -/
theorem requests_load (url : String) (data : Option (List (String × String))) (d : Desk State) :
    (stateOf (load url data d)).device.client.requests = (stateOf (fetch url data d)).device.client.requests := by
  cases hfetch : fetch url data d with
  | error f d' => rw [load, bind_error hfetch]; rfl
  | ok found d' =>
      obtain ⟨markup, final⟩ := found
      rw [load, bind_ok hfetch]
      cases hparse : Html.parse markup with
      | error e => simp only [hparse]; rfl
      | ok tree => simp only [hparse]; rfl

/-- Loading a remote page makes one request. -/
theorem requests_remote {j : Journal} {target : List Char} (h : Remote s target) (data : Option (List (String × String))) :
    (stateOf (load (String.ofList target) data ⟨s, j⟩)).device.client.requests =
      s.client.requests.push ⟨String.ofList target, data, s.timeout⟩ := by
  obtain ⟨p, parts, bare, scheme⟩ := h.parts
  have noFile : String.ofList p.scheme ≠ "file" := by
    rcases scheme with hs | hs <;> rw [hs] <;> decide
  rw [requests_load, fetch_remote h.whole (by rw [String.toList_ofList]; exact parts) bare noFile, if_pos scheme, requests_ask]

theorem device_arrive (go : Work Node) (σ : Session State Node τ) :
    (stateOf (arrive go σ)).desk.device = (stateOf (go σ.desk)).device := by
  unfold arrive
  cases hgo : go σ.desk with
  | ok n d =>
      have hdesk : (Session.onDesk go : Action (Session State Node τ) Node) σ = .ok n { σ with desk := d } := by
        simp only [Session.onDesk, Action.within, hgo]
      rw [bind_ok hdesk]
      rfl
  | error f d =>
      have hdesk : (Session.onDesk go : Action (Session State Node τ) Node) σ = .error f { σ with desk := d } := by
        simp only [Session.onDesk, Action.within, hgo]
      rw [bind_error hdesk]
      rfl

/-- What a click does that sends a form of a page, recorded with an address, with some fields: it loads what the form
leads to with them, unless that cannot be worked out. A form that is posted to a server makes one request, which carries
the fields. -/
structure Sends (σ : Session State Node τ) (base : String) (t : Html.Tree) (form : Nat) (sent : List (String × String)) :
    Prop where
  loads : ∀ address data, leadsTo base t form sent = .ok (address, data) →
    ∃ j, Session.click engine σ = arrive (load address data) { σ with desk := ⟨σ.desk.device.handed, j⟩ }
  refused : ∀ e, leadsTo base t form sent = .error e → failureOf (Session.click engine σ) = some (.refused (.address e))
  posts : ∀ target, Url.join base.toList ((formAttr? t form "action").getD base).toList = .ok target →
    Text.lower ((formAttr? t form "method").getD "get") = "post" → Remote σ.desk.device target →
    (stateOf (Session.click engine σ)).desk.device.client.requests =
      σ.desk.device.client.requests.push ⟨String.ofList target, some sent, σ.desk.device.timeout⟩

/-- What is sent goes where the form led to before anything was typed. -/
theorem Sends.of_typed {σ : Session State Node τ} {base : String} {t : Html.Tree} {sent : List (String × String)}
    (h : Sends σ base (t.typed ts) form sent) : Sends σ base t form sent := by
  have haction := formAttr?_typed t ts form (show "action" ≠ "value" by decide)
  have hmethod := formAttr?_typed t ts form (show "method" ≠ "value" by decide)
  have hleads : leadsTo base (t.typed ts) form sent = leadsTo base t form sent := by
    unfold leadsTo
    rw [haction, hmethod]
  obtain ⟨hloads, hrefused, hposts⟩ := h
  rw [hleads] at hloads hrefused
  rw [haction, hmethod] at hposts
  exact ⟨hloads, hrefused, hposts⟩

/-- A click on a submitter sends its form. -/
theorem sends_of_isSubmitter {σ : Session State Node τ} {rest : List Node} {base : String}
    (hframes : σ.frames = .element k i :: rest) (hrow : (σ.desk.device.tree k)[i]? = some r)
    (hsubmitter : isSubmitter r (tagOf r) = true) (hform : formAbove? (σ.desk.device.tree k) i = some form)
    (hbase : σ.desk.device.baseOf k = some base) :
    Sends σ base (σ.desk.device.tree k) form (sentFields (σ.desk.device.tree k) form r) := by
  obtain ⟨hpasses, hpadded⟩ := (isSubmitter_iff r).mp hsubmitter
  obtain ⟨hloads, hrefused, -⟩ := submits hframes hrow hpasses hform hbase
  rw [formDestination_eq] at hloads hrefused
  refine ⟨hloads hpadded, hrefused hpadded, fun target hjoin hmethod hremote => ?_⟩
  have hleads : leadsTo base (σ.desk.device.tree k) form (sentFields (σ.desk.device.tree k) form r) =
      .ok (String.ofList target, some (sentFields (σ.desk.device.tree k) form r)) := by
    unfold leadsTo
    rw [hjoin]
    exact if_pos hmethod
  obtain ⟨j, hclick⟩ := hloads hpadded _ _ hleads
  rw [hclick, device_arrive]
  exact requests_remote (s := σ.desk.device.handed) ⟨hremote.whole, hremote.parts⟩ _

/-- **Typing and then sending sends what was typed.** A text field that was resolved is accepted as one in every state that
the engine comes to. When texts are typed into accepted text fields of a page and then a submitter is clicked, the nearest
form above it is sent with the controls of the form in order, each with the last text typed into it under its name or else
with what it had when nothing had been typed, and last the pair of the submitter itself; no other submitter adds to them.
On a page without an address nothing is sent. -/
theorem typed_submission :
    (∀ (σ σ₁ : Session State Node τ) (p : Processor) (d : Descriptor) (scope : Option Node) (n : Node) (s : State),
      p.target = .element .textField (some d) → Session.resolve engine p scope σ = .ok n σ₁ →
      engine.Reaches σ₁.desk.device s →
      ∃ k i r, n = .element k i ∧ (s.tree k)[i]? = some r ∧ passes r .textField = true) ∧
    ∀ (s₀ : State) (σ σ' : Session State Node τ) (k : Nat) (ts : List (Nat × String)) (i form : Nat) (r : Html.Row)
      (rest : List Node), s₀.loaded = #[] → engine.Reaches s₀ σ.desk.device → Fills k σ ts σ' →
      σ'.frames = .element k i :: rest → (σ.desk.device.tree k)[i]? = some r → isSubmitter r (tagOf r) = true →
      formAbove? (σ.desk.device.tree k) i = some form →
      (∀ base, σ.desk.device.baseOf k = some base → Sends σ' base (σ.desk.device.tree k) form
        (((σ.desk.device.tree k).below form).flatMap (fieldsTyped (σ.desk.device.tree k) ts) ++ ownPair r)) ∧
      (∀ p ∈ (σ.desk.device.tree k).below form, isSubmitter p.1 (tagOf p.1) = true →
        fieldsTyped (σ.desk.device.tree k) ts p = []) ∧
      (σ.desk.device.baseOf k = none → failureOf (Session.click engine σ') =
        some (.nodeNotFound (.detached (Node.quoted σ'.desk.device (.element k i))))) := by
  constructor
  · intro σ σ₁ p d scope n s htarget hresolve hreach
    obtain ⟨hdevice, k, i, r, rfl, hrow, hpasses⟩ := resolve_field_ok htarget (.inl rfl) hresolve
    rw [← hdevice] at hrow
    obtain ⟨r', hrow', htag, htype⟩ := Reaches.tested hreach hrow
    exact ⟨k, i, r', rfl, hrow', (passes_of_testedOf (Prod.ext htag htype) _).trans hpasses⟩
  · intro s₀ σ σ' k ts i form r rest h₀ hreach hfills hframes hrow hsubmitter hform
    have hsound := sound_of_reached h₀ hreach k
    obtain ⟨htree, hbase', hlast⟩ := hfills.page hsound
    refine ⟨fun base hbase => ?_, fun p hp hsilent => ?_, fun hnone => click_detached hframes (hbase'.trans hnone)⟩
    · have hsends := sends_of_isSubmitter hframes (htree ▸ typed_of_isSubmitter hlast hrow hsubmitter) hsubmitter
        (by rw [htree, formAbove?_typed]; exact hform) (hbase'.trans hbase)
      have htakes : ∀ j text, lastTyped ts j = some text → ∃ q, (σ.desk.device.tree k)[j]? = some q ∧ TakesText q := by
        intro j text hj
        obtain ⟨q, hq, hpasses⟩ := hlast j text hj
        exact ⟨q, hq, takesText_of_passes hsound hq hpasses⟩
      have hfields := Html.Form.fields_typed hsound htakes form
      rw [htree, sentFields_eq, hfields] at hsends
      exact hsends.of_typed
    · exact fieldsTyped_of_isSubmitter hlast (Html.Tree.mem_below.mp hp).1 hsilent

/-! ## An order -/

/-- The markup of a page with a form that is posted. -/
def orderMarkup : String :=
  "<form method=post action=s><input name=q><textarea name=n></textarea><button name=go>"

/-- Its tree: the form is row 5, its fields are the rows 7 and 9, and its submitter is row 11. -/
def orderPage : Html.Tree :=
  [⟨0, .root⟩, ⟨1, .element "html" []⟩, ⟨2, .text none⟩, ⟨2, .element "body" []⟩, ⟨3, .text none⟩,
    ⟨3, .element "form" [("method", "post"), ("action", "s")]⟩, ⟨4, .text none⟩,
    ⟨4, .element "input" [("name", "q")]⟩, ⟨5, .text none⟩, ⟨4, .element "textarea" [("name", "n")]⟩, ⟨5, .text none⟩,
    ⟨4, .element "button" [("name", "go")]⟩, ⟨5, .text none⟩]

/-- An engine that knows the page, with some pages loaded. -/
def orderState (loaded : Array Loaded) (handles : Nat) : State :=
  ⟨[("http://h/d", orderMarkup)], [], Client.start [], 1, loaded, handles⟩

/-- A session in which the page is loaded. -/
def onOrder : Session State Node Unit := Session.start (orderState #[⟨orderPage, some "http://h/d"⟩] 1) ()

theorem reaches_order : engine.Reaches (orderState #[] 0) onOrder.desk.device := by
  have hparse : (Html.parse orderMarkup).toOption = some orderPage := by decide +kernel
  have hmarkup : Html.parse orderMarkup = .ok orderPage := by
    cases h : Html.parse orderMarkup with
    | error e =>
        rw [h] at hparse
        cases hparse
    | ok t =>
        rw [h] at hparse
        exact congrArg Except.ok (Option.some.inj hparse)
  have hload : stateOf (load "http://h/d" none ⟨orderState #[] 0, #[]⟩) =
      ⟨onOrder.desk.device, #[⟨.debug, .staticEngine, "Loaded http://h/d"⟩]⟩ := by
    rw [load, bind_ok (fetch_known rfl)]
    simp only [hmarkup]
    rfl
  have hcall : engine.Reaches (orderState #[] 0) (stateOf (load "http://h/d" none ⟨orderState #[] 0, #[]⟩)).device :=
    .call (.loadDocument "http://h/d") #[] .refl
  rwa [hload] at hcall

/-- A session with a row of the page in scope. -/
def atRow (row : Nat) (σ : Session State Node Unit) : Session State Node Unit := { σ with frames := [.element 0 row] }

/-- A session after a text was typed into a row of the page. -/
def typedAt (row : Nat) (text : String) (σ : Session State Node Unit) : Session State Node Unit :=
  stateOf (Session.typeIn engine text (atRow row σ))

/-- One field of the page is brought into scope and typed into. -/
theorem Fills.typedAt {σ σ₁ : Session State Node Unit} (h : Fills 0 σ ts σ₁) {row : Nat} {text : String}
    (hrow : (σ₁.desk.device.tree 0)[row]? = some r) (hfield : passes r .textField = true)
    (htyped : valueOf (Session.typeIn engine text (atRow row σ₁)) = some ()) :
    Fills 0 σ (ts ++ [(row, text)]) (typedAt row text σ₁) := by
  have hscoped : Fills 0 σ ts (atRow row σ₁) := .between h rfl
  exact hscoped.typing rfl hrow hfield (ok_of_valueOf htyped)

/-- The session after the field named q was typed into twice, and the text area between. -/
def filledIn : Session State Node Unit := typedAt 7 "b" (typedAt 9 "n & m" (typedAt 7 "a" onOrder))

theorem fills_order : Fills 0 onOrder [(7, "a"), (9, "n & m"), (7, "b")] filledIn := by
  have hfirst : Fills 0 onOrder [(7, "a")] (typedAt 7 "a" onOrder) :=
    Fills.start.typedAt (r := ⟨4, .element "input" [("name", "q")]⟩) (by decide +kernel) (by decide +kernel)
      (by decide +kernel)
  have hsecond : Fills 0 onOrder [(7, "a"), (9, "n & m")] (typedAt 9 "n & m" (typedAt 7 "a" onOrder)) :=
    hfirst.typedAt (r := ⟨4, .element "textarea" [("name", "n")]⟩) (by decide +kernel) (by decide +kernel) (by decide +kernel)
  exact hsecond.typedAt (r := ⟨4, .element "input" [("name", "q"), ("value", "a")]⟩) (by decide +kernel) (by decide +kernel)
    (by decide +kernel)

/-- The text field with a name. -/
def fieldNamed (name : String) (h : name ≠ "") : Processor := ⟨0, .element .textField (some ⟨.name, name, h⟩)⟩

theorem typed_submission_order :
    (∃ k i r, Node.element 0 7 = .element k i ∧ (onOrder.desk.device.tree k)[i]? = some r ∧ passes r .textField = true) ∧
    Fills 0 onOrder [(7, "a"), (9, "n & m"), (7, "b")] (atRow 11 filledIn) ∧
    (stateOf (Session.click engine (atRow 11 filledIn))).desk.device.client.requests =
      filledIn.desk.device.client.requests.push
        ⟨"http://h/s", some [("q", "b"), ("n", "n & m"), ("go", "")], filledIn.desk.device.timeout⟩ := by
  obtain ⟨hresolved, hsubmits⟩ := typed_submission (τ := Unit)
  constructor
  · have hvalue : valueOf (Session.resolve engine (fieldNamed "q" (by decide)) (some (.element 0 5)) onOrder) =
        some (.element 0 7) := by decide +kernel
    have hresolve := ok_of_valueOf hvalue
    have hdevice := (resolve_field_ok rfl (.inl rfl) hresolve).1
    exact hresolved _ _ _ _ _ _ _ rfl hresolve (hdevice ▸ .refl)
  · have hfills : Fills 0 onOrder [(7, "a"), (9, "n & m"), (7, "b")] (atRow 11 filledIn) := .between fills_order rfl
    refine ⟨hfills, ?_⟩
    obtain ⟨hsends, -, -⟩ := hsubmits (orderState #[] 0) onOrder (atRow 11 filledIn) 0 _ 11 5
      ⟨4, .element "button" [("name", "go")]⟩ [] rfl reaches_order hfills rfl rfl (by decide +kernel) (by decide +kernel)
    have hsent : ((onOrder.desk.device.tree 0).below 5).flatMap
          (fieldsTyped (onOrder.desk.device.tree 0) [(7, "a"), (9, "n & m"), (7, "b")]) ++
            ownPair ⟨4, .element "button" [("name", "go")]⟩ =
        [("q", "b"), ("n", "n & m"), ("go", "")] := by decide +kernel
    rw [← hsent]
    exact (hsends "http://h/d" (by decide +kernel)).posts "http://h/s".toList (by rfl) (by decide +kernel)
      ⟨by decide +kernel, ⟨"http".toList, "h".toList, "/s".toList, [], []⟩, by rfl, by decide +kernel, .inl rfl⟩

end Crawl.Static
