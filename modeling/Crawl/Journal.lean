/-!
# The journal

What the parts of a crawl have to say about their work, in the order in which they said it.
-/

namespace Crawl

/-- How much an entry of the journal matters. -/
inductive Level
  | debug
  | info
  | warning
  | error
deriving DecidableEq, Repr

namespace Level

/-- The word for a level. -/
def word : Level → String
  | debug => "DEBUG"
  | info => "INFO"
  | warning => "WARNING"
  | error => "ERROR"

/-- The weight of a level; an entry is shown when its weight reaches a threshold. -/
def weight : Level → Nat
  | debug => 10
  | info => 20
  | warning => 30
  | error => 40

end Level

/-- The parts of a crawl that write entries. -/
inductive Source
  | commandLine
  | session
  | scope
  | resolver
  | staticEngine
  | browserEngine
deriving DecidableEq, Repr

/-- The name a part signs its entries with. -/
def Source.name : Source → String
  | commandLine => "crawldsl.cli"
  | session => "crawldsl.session"
  | scope => "crawldsl.scope"
  | resolver => "crawldsl.resolver"
  | staticEngine => "crawldsl.engine.static"
  | browserEngine => "crawldsl.engine.playwright"

/-- One entry of the journal. -/
structure Entry where
  level : Level
  source : Source
  text : String
deriving DecidableEq, Repr

/-- The journal, oldest entry first. -/
abbrev Journal := Array Entry

end Crawl
