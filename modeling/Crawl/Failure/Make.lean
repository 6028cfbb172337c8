import Crawl.Failure
/-!
# Failures by class and arguments

A failure of the crawl can be made from the name of its class and what is to be said. A class with parts of its own
takes those; any other takes the words of its message: none, one value, or a row of values.
-/

namespace Crawl

/-- The message of a failure that is made from values alone. -/
def Failure.words : List Datum → String
  | [] => ""
  | [d] => d.display
  | ds => "(" ++ Datum.commas (ds.map Datum.quoted) ++ ")"

/-- The items of a value, a text counting as its characters. -/
def Datum.items : Datum → List String
  | .list ds => ds.map Datum.display
  | .text s => s.toList.map Char.toString
  | _ => []

/-- A text that is missing when the value is null. -/
def Datum.text? : Datum → Option String
  | .null => none
  | d => some d.display

/-- A failure of the crawl from its class and what is to be said. -/
def Failure.make (kind : FailureKind) (args : List Datum) : Failure :=
  match kind, args with
  | .unsupportedDescriptor, [k, v] => .unsupportedDescriptor k.display v.text?
  | .invalidExpression, [e, r] => .invalidExpression e.display r.display
  | .scriptError, [u, ms] => .script u.display ms.items
  | .nodeNotFound, _ => .nodeNotFound (.stated (words args))
  | .typeMismatch, _ => .typeMismatch (.stated (words args))
  | .stackImbalance, _ => .stackImbalance (.stated (words args))
  | .navigationError, _ => .navigation (.stated (words args))
  | _, _ => .crawl (words args)

end Crawl
