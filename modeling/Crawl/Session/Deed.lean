import Crawl.Session.Entry
/-!
# What can be done in a session

Going to an address, typing and clicking, and reading text and attributes of the current scope or of a given node.
-/

namespace Crawl.Session

variable {δ ν τ : Type}

/-- The tags that text can be typed into. -/
def typableTags : List String := ["input", "textarea"]

/-- Points the session at an address; the page is loaded when the entry is used. -/
def navigateTo (url : String) : Action (Session δ ν τ) ScopedEntry := do
  modify fun s => { s with url := url }
  note .info .session ("Navigating to " ++ url)
  entryFor (← describe (.page (some url)) none)

/-- Resolves a processor against the current scope without entering its node's scope. -/
def resolveFrom (E : Engine δ ν) (p : Processor) : Action (Session δ ν τ) ν := do
  resolve E p (some (← front))

/-- Types a text into the current scope. -/
def typeIn (E : Engine δ ν) (text : String) : Action (Session δ ν τ) Unit := do
  let node ← front
  let tag ← onDesk (E.tagName node)
  if typableTags.contains tag then onDesk (E.setValue node text)
  else throw (.typeMismatch (.notTypable tag))

/-- Clicks the current scope; the result is a page processor with the document that the click led to. -/
def click (E : Engine δ ν) : Action (Session δ ν τ) Processor := do
  let node ← front
  if ← onDesk (E.isDocument node) then throw (.typeMismatch .documentClicked)
  else
    let document ← onDesk (E.activate node)
    describe (.page none) (some document)

/-- A given node, or else the current scope. -/
def orFront (node : Option ν) : Action (Session δ ν τ) ν :=
  match node with
  | some node => pure node
  | none => front

/-- The text of a node or of the current scope. -/
def textOf (E : Engine δ ν) (node : Option ν) : Action (Session δ ν τ) String := do
  let node ← orFront node
  onDesk (E.textContent node)

/-- An attribute of a node or of the current scope. -/
def attributeOf (E : Engine δ ν) (name : String) (node : Option ν) : Action (Session δ ν τ) (Option String) := do
  let node ← orFront node
  onDesk (E.attr node name)

/-- Closes the engine if the session owns it. -/
def close (E : Engine δ ν) (owned : Bool) : Action (Session δ ν τ) Unit :=
  if owned then onDesk E.close else pure ()

end Crawl.Session
