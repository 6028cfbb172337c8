import Crawl.Action
/-!
# Engines

What a crawl needs from whatever loads and reads its pages. Nodes are opaque: only the engine that handed one out
knows how to read it. Two handles may stand for the same thing (`same`) without being the same handle.
-/

namespace Crawl

/-- An engine with states `δ` that hands out nodes `ν`. -/
structure Engine (δ ν : Type) where
  name : String
  loadDocument : String → Action (Desk δ) ν
  findByIdentifier : ν → String → Action (Desk δ) (Option ν)
  findByName : ν → String → Action (Desk δ) (Option ν)
  findByPath : ν → String → Action (Desk δ) (List ν)
  findAnchorByText : ν → String → Action (Desk δ) (Option ν)
  setValue : ν → String → Action (Desk δ) Unit
  activate : ν → Action (Desk δ) ν
  ownerDocument : ν → Action (Desk δ) ν
  isDocument : ν → Action (Desk δ) Bool
  tagName : ν → Action (Desk δ) String
  attr : ν → String → Action (Desk δ) (Option String)
  textContent : ν → Action (Desk δ) String
  close : Action (Desk δ) Unit
  quoted : δ → ν → String
  same : ν → ν → Bool

/-- The engine that does nothing yet: every call fails as not implemented, and closing it succeeds. -/
def Engine.bare (δ ν : Type) [DecidableEq ν] (quoted : ν → String) : Engine δ ν where
  name := "base"
  loadDocument _ := throw .notImplemented
  findByIdentifier _ _ := throw .notImplemented
  findByName _ _ := throw .notImplemented
  findByPath _ _ := throw .notImplemented
  findAnchorByText _ _ := throw .notImplemented
  setValue _ _ := throw .notImplemented
  activate _ := throw .notImplemented
  ownerDocument _ := throw .notImplemented
  isDocument _ := throw .notImplemented
  tagName _ := throw .notImplemented
  attr _ _ := throw .notImplemented
  textContent _ := throw .notImplemented
  close := pure ()
  quoted _ := quoted
  same a b := a = b

end Crawl
