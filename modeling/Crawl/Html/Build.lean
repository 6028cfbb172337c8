import Crawl.Html.Token
import Crawl.Html.Tree
/-!
# From tokens to a tree

The elements that are open form a stack. A start tag may close some of them (`closedBy`) and may open others that
markup leaves out (`implied`); an end tag closes the nearest open element of its name together with everything
inside it, unless an element that outweighs it stands between (`weight`).
-/

namespace Crawl.Html

/-- Tags of elements that have no content. -/
def voidTags : List String :=
  ["area", "base", "basefont", "br", "col", "frame", "hr", "img", "input", "isindex", "link", "meta", "param"]

/-- Headings. -/
def headings : List String := ["h1", "h2", "h3", "h4", "h5", "h6"]

/-- Start tags that end the head. -/
def bodyTags : List String :=
  ["a", "abbr", "acronym", "address", "b", "bdo", "big", "blockquote", "body", "br", "center", "cite", "code", "dd",
    "dfn", "dir", "div", "dl", "dt", "em", "fieldset", "font", "form", "frameset", "hr", "i", "iframe", "img", "kbd",
    "li", "listing", "map", "menu", "ol", "p", "pre", "q", "s", "samp", "small", "span", "strike", "strong", "sub",
    "sup", "table", "tt", "u", "ul", "var", "xmp"] ++ headings

/-- The start tags that close an open element with a tag. -/
def closedBy (tag : String) : List String :=
  if headings.contains tag then ["fieldset", "form", "li", "p", "table"]
  else match tag with
    | "a" => ["a", "fieldset", "table", "td", "th"]
    | "address" => ["dd", "dl", "dt", "form", "li", "ul"]
    | "b" => ["center", "p", "td", "th"]
    | "big" => ["p"]
    | "caption" => ["col", "colgroup", "tbody", "tfoot", "thead", "tr"]
    | "col" => ["col", "colgroup", "tbody", "tfoot", "thead", "tr"]
    | "colgroup" => ["colgroup", "tbody", "tfoot", "thead", "tr"]
    | "dd" => ["dt"]
    | "dir" => ["dd", "dl", "dt", "form", "ul"]
    | "dl" => ["form", "li"]
    | "dt" => ["dd", "dl"]
    | "font" => ["center", "td", "th"]
    | "form" => ["form"]
    | "head" => bodyTags
    | "hr" => ["form"]
    | "i" => ["center"]
    | "legend" => ["fieldset"]
    | "li" => ["li"]
    | "link" => ["body", "frameset"]
    | "listing" => ["dd", "dl", "dt", "fieldset", "form", "li", "table", "ul"]
    | "menu" => ["dd", "dl", "dt", "form", "ul"]
    | "ol" => ["form"]
    | "option" => ["optgroup", "option"]
    | "p" =>
      ["address", "blockquote", "body", "caption", "center", "col", "colgroup", "dd", "dir", "div", "dl", "dt",
        "fieldset", "form", "frameset", "head", "hr", "li", "listing", "menu", "ol", "p", "pre", "table", "tbody",
        "td", "tfoot", "th", "title", "tr", "ul", "xmp"] ++ headings
    | "pre" => ["dd", "dl", "dt", "fieldset", "form", "li", "table", "ul"]
    | "s" => ["p"]
    | "script" => ["noscript"]
    | "small" => ["p"]
    | "span" => ["td", "th"]
    | "strike" => ["p"]
    | "style" => ["body", "frameset"]
    | "tbody" => ["tbody", "tfoot"]
    | "td" => ["tbody", "td", "tfoot", "th", "tr"]
    | "tfoot" => ["tbody"]
    | "th" => ["tbody", "td", "tfoot", "th", "tr"]
    | "thead" => ["tbody", "tfoot"]
    | "title" => ["body", "frameset"]
    | "tr" => ["tbody", "tfoot", "tr"]
    | "tt" => ["p"]
    | "u" => ["p", "td", "th"]
    | "ul" => ["address", "form", "menu", "pre"]
    | "xmp" => ["dd", "dl", "dt", "fieldset", "form", "li", "table", "ul"]
    | _ => []

/-- How much an element resists an end tag of another name. -/
def weight : String → Nat
  | "div" => 150
  | "td" => 160
  | "th" => 160
  | "tr" => 170
  | "thead" => 180
  | "tbody" => 180
  | "tfoot" => 180
  | "table" => 190
  | "head" => 200
  | "body" => 200
  | "html" => 220
  | _ => 100

/-- A tree under construction: its rows, the last one first, and the open elements, the innermost first. `strays`
counts the tags that were dropped and whose end tags are still to come. -/
structure Builder where
  rows : List Row
  stack : List String
  sawHead : Bool
  sawBody : Bool
  strays : Nat

namespace Builder

/-- The start of a tree. -/
def empty : Builder := ⟨[⟨0, .root⟩], [], false, false, 0⟩

/-- The depth of what comes next. -/
def depth (b : Builder) : Nat := b.stack.length + 1

/-- Opens an element. -/
def opened (b : Builder) (tag : String) (attrs : List (String × String)) : Builder :=
  { b with
    rows := ⟨b.depth + 1, .text none⟩ :: ⟨b.depth, .element tag attrs⟩ :: b.rows
    stack := tag :: b.stack
    sawHead := b.sawHead || tag == "head" || tag == "body"
    sawBody := b.sawBody || tag == "body" }

/-- Closes the innermost open element. -/
def close (b : Builder) : Builder := { b with stack := b.stack.tail }

/-- Closes the open elements that a start tag closes. -/
def makeWay (tag : String) (stack : List String) : List String :=
  stack.dropWhile fun s => (closedBy s).contains tag

/-- Tags that belong into the head. -/
def headTags : List String := ["script", "style", "meta", "link", "title", "base"]

/-- Opens the elements that a start tag implies. -/
def implied (b : Builder) (tag : String) : Builder :=
  if tag == "html" then b
  else
    let b := if b.stack.isEmpty then b.opened "html" [] else b
    if tag == "body" || tag == "head" then b
    else if b.stack.length ≤ 1 && headTags.contains tag then
      if b.sawHead then b else b.opened "head" []
    else if ["noframes", "frame", "frameset"].contains tag then b
    else if b.sawBody || b.stack.contains "body" || b.stack.contains "head" then b
    else b.opened "body" []

/-- Whether a start tag stands where its element cannot be. -/
def isStray (b : Builder) (tag : String) : Bool :=
  (tag == "html" && !b.stack.isEmpty) || (tag == "head" && b.stack.length != 1)
    || (tag == "body" && b.stack.contains "body")

/-- Takes a start tag. -/
def start (b : Builder) (tag : String) (attrs : List (String × String)) (closed : Bool) : Builder :=
  let b := { b with stack := makeWay tag b.stack }
  let b := b.implied tag
  if b.isStray tag then { b with strays := b.strays + 1 }
  else
    let b := b.opened tag attrs
    if closed || voidTags.contains tag then b.close else b

/-- The stack without the nearest element of a name and everything inside it; `none` where there is none or where
an element of more weight stands before it. -/
def without (tag : String) : List String → Option (List String)
  | [] => none
  | s :: ss => if s == tag then some ss else if weight tag < weight s then none else without tag ss

/-- Takes an end tag. -/
def finish (b : Builder) (tag : String) : Builder :=
  if 0 < b.strays && ["html", "body", "head"].contains tag then { b with strays := b.strays - 1 }
  else match without tag b.stack with
    | some stack => { b with stack }
    | none => b

/-- Adds text to the text that stands last in the innermost open element, or as a new row. -/
def addText (b : Builder) (s : String) : Builder :=
  match b.stack, b.rows with
  | [], _ => b
  | _, ⟨depth, .text t⟩ :: rows =>
    if depth == b.depth then { b with rows := ⟨depth, .text (some (t.getD "" ++ s))⟩ :: rows }
    else { b with rows := ⟨b.depth, .text (some s)⟩ :: b.rows }
  | _, rows => { b with rows := ⟨b.depth, .text (some s)⟩ :: rows }

/-- Takes text. Text that is not blank needs a body around it, except inside elements whose text is read apart. -/
def text (b : Builder) (cs : List Char) : Builder :=
  let s := String.ofList cs
  let plain := match textMode (b.stack.headD "") with
    | .markup => true
    | _ => false
  if cs.all isSpace || !plain then b.addText s
  else
    let b := if b.stack.head? == some "head" then { b with stack := makeWay "p" b.stack } else b
    let cs := if b.stack.isEmpty then cs.dropWhile isSpace else cs
    (b.implied "p").addText (String.ofList cs)

/-- Takes a comment. -/
def comment (b : Builder) (cs : List Char) : Builder :=
  { b with rows := ⟨b.depth, .comment (String.ofList cs)⟩ :: b.rows }

/-- Takes a token. -/
def take (b : Builder) : Token → Builder
  | .start tag attrs closed => b.start tag attrs closed
  | .finish tag => b.finish tag
  | .text cs => b.text cs
  | .comment cs => b.comment cs

end Builder

/-- The tree of some tokens. -/
def build (ts : List Token) : Tree := (ts.foldl Builder.take Builder.empty).rows.reverse

end Crawl.Html
