import Crawl.Browser.State
import Crawl.Css.Quoted
import Crawl.Text.Blank
/-!
# The browser engine

Pages as a browser shows them, scripts included. A load and a click wait until the page is loaded and then report
what went wrong in its scripts.
-/

namespace Crawl.Browser

/-- The next of some steps, or a quiet one when none is left. -/
def nextStep (steps : List Step) : Step := steps.headD .quiet

/-- Goes to an address with a page. -/
def visit (page : Nat) (url : String) : Work Unit := do
  make (.visit page url)
  let s ← Desk.read
  changeWorld fun w => { w with url, visits := w.visits.tail }
  happen (nextStep s.world.visits)

/-- Waits until a page is loaded. -/
def awaitLoad (page : Nat) : Work Unit := do
  make (.awaitLoad page)
  let s ← Desk.read
  changeWorld fun w => { w with loads := w.loads.tail }
  happen (nextStep s.world.loads)

/-- Loads a page. -/
def loadDocument (url : String) : Work Handle := do
  let page ← ensurePage
  clearErrors
  translate (fun reason => .navigation (.notLoaded url reason)) (visit page url)
  settle
  return .page page

/-- The names of the elements that a selector finds. -/
def names (root : Handle) (selector : String) : Work (List String) := do
  match (← Desk.read).world.find root selector with
  | .names names => return names
  | .step step =>
    happen step
    return []

/-- The first element that a selector finds. -/
def query (root : Handle) (selector : String) : Work (Option Handle) := do
  make (.query root selector)
  return (← names root selector).head?.map .element

/-- All elements that a selector finds. -/
def queryAll (root : Handle) (selector : String) : Work (List Handle) := do
  make (.queryAll root selector)
  return (← names root selector).map .element

/-- The elements that a path expression finds. -/
def findByPath (root : Handle) (expression : String) : Work (List Handle) :=
  translate (fun reason => .invalidExpression expression reason) (queryAll root ("xpath=" ++ expression))

/-- The element that a handle stands for. -/
def elementOf (h : Handle) : Work Element := do
  match h with
  | .page _ => return .unknown
  | .element name => return (← Desk.read).world.element name

/-- The whole text of an element, with one space between words. -/
def wordsOf (h : Handle) : Work String := do
  make (.textContent h)
  return Text.normalize ((← elementOf h).textContent.getD "")

/-- The first of some elements with the given words. -/
def firstWith (wanted : String) : List Handle → Work (Option Handle)
  | [] => return none
  | h :: hs => do
    if (← wordsOf h) = wanted then return some h else firstWith wanted hs

/-- The first anchor with the given words. -/
def findAnchorByText (root : Handle) (text : String) : Work (Option Handle) := do
  firstWith (Text.normalize text) (← queryAll root "a")

/-- The number of the page a node is on; an element that is in no frame is taken to be on the current page. -/
def ownerPage (h : Handle) : Work Nat := do
  match h with
  | .page number => return number
  | .element _ =>
    make (.ownerFrame h)
    match (← elementOf h).frame with
    | some number => return number
    | none => match (← Desk.read).page with
      | some number => return number
      | none => throw (.navigation .nothingLoaded)

/-- The page a node is on. -/
def ownerDocument (h : Handle) : Work Handle := do return .page (← ownerPage h)

/-- The tag of a node. -/
def tagName (h : Handle) : Work String := do
  match h with
  | .page _ => return "#document"
  | .element _ =>
    make (.readTag h)
    return (← elementOf h).tag

/-- An attribute of a node. -/
def attr (h : Handle) (name : String) : Work (Option String) := do
  match h with
  | .page _ => return none
  | .element _ =>
    make (.readAttr h name)
    return (← elementOf h).attrs.lookup name

/-- The text of a node as it is shown. -/
def textContent (h : Handle) : Work String := do
  match h with
  | .page number =>
    make (.bodyText number)
    return Text.normalize ((← Desk.read).world.body.getD "")
  | .element _ =>
    make (.innerText h)
    return Text.normalize ((← elementOf h).innerText.getD "")

/-- Types a text into an element. -/
def setValue (h : Handle) (text : String) : Work Unit := do
  match h with
  | .page _ => throw (.typeMismatch .documentSet)
  | .element _ =>
    make (.fill h text)
    happen (← elementOf h).fill

/-- Whether a node is a page. -/
def Handle.isPage : Handle → Bool
  | .page _ => true
  | .element _ => false

/-- A handle as it stands in a message. -/
def quoted : Handle → String
  | .page _ => "<page>"
  | .element name => "<el " ++ name ++ ">"

/-- Clicks an element and waits for what it leads to on its page. -/
def press (page : Nat) (h : Handle) : Work Unit := do
  make (.click h)
  happen (← elementOf h).click
  awaitLoad page

/-- Clicks a node. -/
def activate (h : Handle) : Work Handle := do
  match h with
  | .page _ => throw (.typeMismatch .documentClicked)
  | .element _ =>
    let page ← ownerPage h
    clearErrors
    translate (fun reason => .navigation (.notClicked (quoted h) reason)) (press page h)
    settle
    return .page page

/-- The browser engine. -/
def engine : Engine State Handle where
  name := "playwright"
  loadDocument := loadDocument
  findByIdentifier root value := query root (Css.attributeIs "id" value)
  findByName root value := query root (Css.attributeIs "name" value)
  findByPath := findByPath
  findAnchorByText := findAnchorByText
  setValue := setValue
  activate := activate
  ownerDocument := ownerDocument
  isDocument h := return h.isPage
  tagName := tagName
  attr := attr
  textContent := textContent
  close := close
  quoted _ := quoted
  same a b := a == b

end Crawl.Browser
