import Crawl.Failure
/-!
# A browser and what happens in it

What a browser does is fixed beforehand: how each step of loading and clicking turns out, which elements a selector
finds, and what their texts are. Every call made to it is kept, in order, also one that fails. Whatever a browser hands
out has a number, so that it can be told on which page, and in which browser, a call was made.
-/

namespace Crawl.Browser

/-- A node in a browser: a page by its number, whatever its address is, or an element by its name. -/
inductive Handle
  | page (number : Nat)
  | element (name : String)
deriving DecidableEq, Repr

/-- What is handed out when a browser is launched: the driver, the browser, its context, and the page opened there. -/
structure Launch where
  driver : Nat
  browser : Nat
  context : Nat
  page : Nat
deriving DecidableEq, Repr

/-- How one step turns out: the address may change, scripts may report errors, and then it may fail. -/
structure Step where
  url : Option String
  errors : List String
  failure : Option (Bool × String)

/-- The step in which nothing happens. -/
def Step.quiet : Step := ⟨none, [], none⟩

/-- What a selector finds: elements by their names, or it fails. -/
inductive Selection
  | names (names : List String)
  | step (step : Step)

/-- An element. Its frame is on some page, if it is in a frame at all. -/
structure Element where
  tag : String
  attrs : List (String × String)
  innerText : Option String
  textContent : Option String
  frame : Option Nat
  click : Step
  fill : Step
  select : List (String × Selection)

/-- The element of which nothing is known. -/
def Element.unknown : Element := ⟨"", [], none, none, none, .quiet, .quiet, []⟩

/-- What happens in a browser. It shows one page at a time, so there is one address and one body, whichever page is asked
for them. -/
structure World where
  launch : Launch
  url : String
  visits : List Step
  loads : List Step
  body : Option String
  select : List (String × Selection)
  elements : List (String × Element)
  closeContext : Step
  closeBrowser : Step

/-- The world in which nothing happens. -/
def World.quiet : World := ⟨⟨0, 0, 0, 0⟩, "about:blank", [], [], none, [], [], .quiet, .quiet⟩

/-- The element with a name. -/
def World.element (w : World) (name : String) : Element := (w.elements.lookup name).getD .unknown

/-- What a selector finds under a handle. -/
def World.find (w : World) (root : Handle) (selector : String) : Selection :=
  let table := match root with
    | .page _ => w.select
    | .element name => (w.element name).select
  (table.lookup selector).getD (.names [])

/-- A call made to the browser, with the number of what it is made on. -/
inductive Call
  | start
  | launch (driver : Nat) (browser : String) (headless : Bool)
  | newContext (browser : Nat) (agent : Option String)
  | newPage (context : Nat)
  | setTimeout (page : Nat) (ms : Int)
  | listen (page : Nat)
  | visit (page : Nat) (url : String)
  | awaitLoad (page : Nat)
  | bodyText (page : Nat)
  | query (root : Handle) (selector : String)
  | queryAll (root : Handle) (selector : String)
  | ownerFrame (handle : Handle)
  | readTag (handle : Handle)
  | readAttr (handle : Handle) (name : String)
  | innerText (handle : Handle)
  | textContent (handle : Handle)
  | fill (handle : Handle) (text : String)
  | click (handle : Handle)
  | closeContext (context : Nat)
  | closeBrowser (browser : Nat)
  | stop (driver : Nat)
deriving DecidableEq, Repr

/-- What befalls the calls to pages and to elements. Each is told from all calls made so far and that one. -/
abbrev Incidents := Array Call → Step

/-- Nothing befalls any call. -/
def Incidents.none : Incidents := fun _ => .quiet

end Crawl.Browser
