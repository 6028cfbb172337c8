import Crawl.Proofs.Action.Stays
import Crawl.Proofs.Engine.Calls
import Crawl.Static.Engine
/-!
# What lasts in the static engine

Little happens to the pages an engine has loaded. Fetching markup and finding things touches none of them. Pages are added
as they are read from markup, and typing changes the value of an input or the text of a text area; nothing else in a page
changes, and none is taken away. What survives that pages are added survives every call but typing (`Growing`), and a
property of the engine's state that survives typing as well is `Lasting`: it holds in every state that the engine comes to
by whatever calls (`Reaches.lasting`).
-/

namespace Crawl.Static

open Crawl.Action (Stays)

/-! ## What touches no page -/

section Beside

variable {holds : State → Prop} (hrest : ∀ s client handles, holds s → holds { s with client, handles })

theorem stays_needTreeText (text : String) : Stays (holds ·.device) (needTreeText text) := .ite (.pure _) (.throw _)

theorem stays_joined (url ref : String) : Stays (holds ·.device) (joined url ref) := by
  unfold joined
  split
  · exact .pure _
  · exact .throw _

theorem stays_findRow (test : Html.Row → Bool) (n : Node) : Stays (holds ·.device) (findRow test n) := by
  refine .bind .read fun s => ?_
  split
  · exact .pure _
  · exact .pure _

include hrest

theorem stays_newHandle (i : Nat) (url : String) : Stays (holds ·.device) (newHandle i url) :=
  .bind .read fun _ => .bind (.update fun s => hrest s s.client _) fun _ => .pure _

theorem stays_ask (url : String) (data : Option (List (String × String))) : Stays (holds ·.device) (ask url data) := by
  refine .bind .read fun s => ?_
  rcases s.client.send ⟨url, data, s.timeout⟩ with ⟨reply, client⟩
  refine .bind (.update fun s => hrest s client s.handles) fun _ => ?_
  cases reply with
  | failed message => exact .throw _
  | answered text final statusError =>
      cases statusError with
      | some message => exact .throw _
      | none => exact .pure _

/-- Fetching touches no page. -/
theorem stays_fetch (url : String) (data : Option (List (String × String))) : Stays (holds ·.device) (fetch url data) := by
  refine .bind .read fun s => ?_
  split
  · exact .pure _
  split
  · exact .throw _
  dsimp only
  split
  · exact .pure _
  refine .ite ?_ (.ite (stays_ask hrest url data) (.throw _))
  exact .bind (.ofExcept _) fun _ => .pure _

theorem stays_ownerDocument (n : Node) : Stays (holds ·.device) (ownerDocument n) := by
  cases n with
  | document k i url => exact .pure _
  | element i row =>
      refine .bind .read fun s => ?_
      split
      · exact stays_newHandle hrest _ _
      · exact .throw _

end Beside

/-! ## What lasts -/

/-- A property that survives what the engine does without anything being typed: it asks its client, gives out handles, and
adds pages. -/
structure Growing (holds : State → Prop) : Prop where
  rest : ∀ s client handles, holds s → holds { s with client, handles }
  push : ∀ s markup tree base, Html.parse markup = .ok tree → holds s → holds { s with loaded := s.loaded.push ⟨tree, base⟩ }

/-- A property that survives typing too. -/
structure Lasting (holds : State → Prop) : Prop extends Growing holds where
  typed : ∀ s k i text, holds s → holds (s.changeTree k (·.setAttr i "value" text))
  rewritten : ∀ s k i text, holds s → holds (s.changeTree k (·.setFirstText i text))

namespace Growing

variable {holds : State → Prop} (h : Growing holds)
include h

theorem load (url : String) (data : Option (List (String × String))) : Stays (holds ·.device) (load url data) := by
  refine .bind (stays_fetch h.rest url data) fun ⟨markup, final⟩ => ?_
  dsimp only
  split
  · exact .throw _
  · next tree hparse =>
      refine .bind (.note _ _ _) fun _ => .bind .read fun s => ?_
      refine .bind (.update fun s hs => h.push s markup tree _ hparse hs) fun _ => ?_
      exact stays_newHandle h.rest _ _

theorem submit (url : String) (t : Html.Tree) (form : Nat) (submitter : Html.Row) :
    Stays (holds ·.device) (submit url t form submitter) := by
  refine .bind (stays_joined _ _) fun target => ?_
  refine .bind (.note _ _ _) fun _ => ?_
  refine .ite (h.load _ _) ?_
  exact .bind (.ofExcept _) fun _ => h.load _ _

theorem activate (n : Node) : Stays (holds ·.device) (activate n) := by
  cases n with
  | document k i url => exact .throw _
  | element i row =>
      refine .bind (stays_ownerDocument h.rest _) fun document => .bind .read fun s => ?_
      dsimp only
      split
      · exact .pure _
      · split
        · exact .pure _
        · exact .bind (stays_joined _ _) fun _ => h.load _ _
        · exact h.submit _ _ _ _

/-- A call to the engine touches what lasts only if something is typed that touches it. -/
theorem perform (c : Engine.Call Node)
    (htyping : ∀ node text, c = .setValue node text → Stays (holds ·.device) (Static.setValue node text)) :
    Stays (holds ·.device) (engine.perform c) := by
  cases c with
  | loadDocument url => exact h.load url none
  | findByIdentifier root value => exact .bind (stays_needTreeText value) fun _ => stays_findRow _ root
  | findByName root value => exact .bind (stays_needTreeText value) fun _ => stays_findRow _ root
  | findByPath root expression =>
      refine .bind (stays_needTreeText expression) fun _ => .bind .read fun s => ?_
      split
      · exact .pure _
      · exact .throw _
  | findAnchorByText root text =>
      refine .bind .read fun s => ?_
      dsimp only
      split
      · exact .pure _
      · exact .pure _
  | setValue node text => exact htyping node text rfl
  | activate node => exact h.activate node
  | ownerDocument node => exact stays_ownerDocument h.rest node
  | isDocument node => exact .pure _
  | tagName node => exact .bind .read fun _ => .pure _
  | attr node name =>
      show Stays _ (attr node name)
      unfold attr
      split
      · exact .throw _
      · exact .pure _
      · exact .bind .read fun _ => .pure _
  | textContent node => exact .bind .read fun _ => .pure _
  | close =>
      exact .update fun s => h.rest s { s.client with closed := s.client.closed + 1 } s.handles

end Growing

/-- What survives typing into the page of a node survives that its value is set. -/
theorem stays_setValue {holds : State → Prop} {n : Node}
    (typed : ∀ s i text, holds s → holds (s.changeTree n.treeOf (·.setAttr i "value" text)))
    (rewritten : ∀ s i text, holds s → holds (s.changeTree n.treeOf (·.setFirstText i text))) (text : String) :
    Stays (holds ·.device) (setValue n text) := by
  refine .bind .read fun s => .ite ?_ (.ite ?_ (.throw _))
  · exact .bind (stays_needTreeText text) fun _ => .update fun s hs => typed s _ _ hs
  · refine .bind (.update fun s hs => rewritten s _ _ hs) fun _ => ?_
    exact .bind (stays_needTreeText text) fun _ => .update fun s hs => rewritten s _ _ hs

/-- No call to the engine touches what lasts. -/
theorem Lasting.perform {holds : State → Prop} (h : Lasting holds) (c : Engine.Call Node) :
    Stays (holds ·.device) (engine.perform c) :=
  h.toGrowing.perform c fun n text _ =>
    stays_setValue (fun s => h.typed s n.treeOf) (fun s => h.rewritten s n.treeOf) text

/-- What lasts holds in every state that the engine comes to. -/
theorem Reaches.lasting {holds : State → Prop} (h : Lasting holds) {s s' : State} (hreach : engine.Reaches s s')
    (hs : holds s) : holds s' := by
  induction hreach with
  | refl => exact hs
  | call c j _ ih => exact h.perform c ⟨_, j⟩ ih

end Crawl.Static
