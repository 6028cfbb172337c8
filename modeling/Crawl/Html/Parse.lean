import Crawl.Html.Build
import Crawl.Text.Blank
/-!
# Reading markup

Markup is refused when it has no element at all, and when it starts with a declaration that names an encoding: it
is text already, and no bytes are left to decode.
-/

namespace Crawl.Html

/-- Why markup is refused. -/
inductive Fault
  | empty
  | declaresEncoding
deriving DecidableEq, Repr

/-- The words for a refusal. -/
def Fault.message : Fault → String
  | .empty => "Document is empty"
  | .declaresEncoding =>
    "Unicode strings with encoding declaration are not supported. Please use bytes input or XML fragments "
      ++ "without declaration."

/-- Whether an encoding between quotes follows, with an equals sign before it. -/
def givesEncoding (cs : List Char) : Bool :=
  match cs.dropWhile Text.isBlank with
  | '=' :: cs => match cs.dropWhile Text.isBlank with
    | c :: cs =>
      (c == '\x22' || c == '\x27') && (cs.dropWhile fun d => d != '\x22' && d != '\x27') != []
    | [] => false
  | _ => false

/-- Whether a blank and an encoding follow somewhere before the next `>`. -/
def encodingAhead : List Char → Bool
  | [] => false
  | c :: cs =>
    (Text.isBlank c && startsWithExactly "encoding".toList (cs.dropWhile Text.isBlank)
      && givesEncoding ((cs.dropWhile Text.isBlank).drop 8))
      || (c != '>' && encodingAhead cs)
where
  /-- Whether a text begins with a word as it stands. -/
  startsWithExactly (word cs : List Char) : Bool := cs.take word.length == word

/-- Whether markup starts with a declaration that names an encoding. -/
def declaresEncoding : List Char → Bool
  | '<' :: '?' :: 'x' :: 'm' :: 'l' :: c :: cs => c != '>' && encodingAhead cs
  | _ => false

/-- The tree of some markup. -/
def parse (markup : String) : Except Fault Tree :=
  let cs := markup.toList
  if declaresEncoding cs then .error .declaresEncoding
  else
    let t := build (tokens cs)
    if t.rootElement?.isSome then .ok t else .error .empty

end Crawl.Html
