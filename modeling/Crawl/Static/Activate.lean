import Crawl.Static.Load
import Crawl.Html.Form
import Crawl.Url.Join
/-!
# Activating nodes

A link leads to the page it refers to, and a submit control inside a form sends the form. Anything else, and a link
to a place on the page or to a script, leads to the page it is on.
-/

namespace Crawl.Static

/-- The part of an activation that is decided before anything is loaded. -/
inductive Deed
  | stay
  | follow (href : String)
  | submit (form : Nat)

/-- Whether a reference leads to another page. -/
def leadsAway (href : String) : Bool :=
  !href.isEmpty && !"#".toList.isPrefixOf href.toList && !"javascript:".toList.isPrefixOf href.toList

/-- Whether an element sends its form. -/
def isSubmitter (r : Html.Row) (tag : String) : Bool :=
  let kind := Text.lower ((r.attr? "type").getD "")
  if tag == "input" then ["submit", "image"].contains kind
  else tag == "button" && ["", "submit"].contains kind

/-- The nearest form that a row stands under. -/
def formAbove? (t : Html.Tree) (i : Nat) : Option Nat := ((t.above i).find? (·.1.hasTag "form")).map (·.2)

/-- What activating an element means. -/
def deedOf (t : Html.Tree) (i : Nat) (r : Html.Row) : Deed :=
  let tag := Text.lower (r.tag?.getD "")
  if tag == "a" || tag == "area" then
    let href := Text.strip ((r.attr? "href").getD "")
    if leadsAway href then .follow href else .stay
  else if isSubmitter r tag then
    match formAbove? t i with
    | some form => .submit form
    | none => .stay
  else .stay

/-- The address a reference leads to from a page. -/
def joined (base ref : String) : Work String :=
  match Url.join base.toList ref.toList with
  | .ok cs => pure (String.ofList cs)
  | .error e => throw (.refused (.address e))

/-- The pairs that a form sends when it is sent by a control. -/
def sentFields (t : Html.Tree) (form : Nat) (submitter : Html.Row) : List (String × String) :=
  Html.Form.fields t form ++
    match Html.Form.filled? submitter "name" with
    | some name => [(name, (submitter.attr? "value").getD "")]
    | none => []

/-- The address under which a form sends its fields in the query. -/
def queryAddress (target : String) (fields : List (String × String)) : Except Failure String :=
  match Url.split target.toList with
  | .error e => .error (.refused (.address e))
  | .ok p => .ok (String.ofList (Url.unsplit ⟨p.scheme, p.netloc, p.path, Url.formQuery fields, []⟩))

/-- Sends a form of the page with the given address. -/
def submit (url : String) (t : Html.Tree) (form : Nat) (submitter : Html.Row) : Work Node := do
  let formAttr (name : String) : Option String := t[form]?.bind fun r => Html.Form.filled? r name
  let fields := sentFields t form submitter
  let target ← joined url ((formAttr "action").getD url)
  let method := Text.lower ((formAttr "method").getD "get")
  Desk.note .debug .staticEngine ("Submitting form to " ++ target ++ " via " ++ Text.upper method)
  if method = "post" then load target (some fields)
  else load (← Action.ofExcept (queryAddress target fields)) none

/-- Activates a node: the document it leads to. -/
def activate (n : Node) : Work Node := do
  match n with
  | .document .. => throw (.typeMismatch .documentClicked)
  | .element k i =>
    let document ← ownerDocument n
    let url := match document with
      | .document _ _ url => url
      | _ => ""
    let s ← Desk.read
    let t := s.tree k
    match t[i]? with
    | none => return document
    | some r => match deedOf t i r with
      | .stay => return document
      | .follow href => load (← joined url href) none
      | .submit form => submit url t form r

end Crawl.Static
