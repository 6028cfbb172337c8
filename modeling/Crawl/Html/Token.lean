import Crawl.Html.Reference
/-!
# Markup as tokens

Markup is read as tags, comments and the text between them. What begins at a place is decided by the next few
characters (`markAt`). The text of some elements holds no markup of its own and is read up to their end tag.
-/

namespace Crawl.Html

/-- One token of markup. A start tag may be closed by its own slash. -/
inductive Token
  | start (tag : String) (attrs : List (String × String)) (closed : Bool)
  | finish (tag : String)
  | text (cs : List Char)
  | comment (cs : List Char)

/-- What begins at a place in markup, with the text behind its first characters. -/
inductive Mark
  | startTag (cs : List Char)
  | endTag (cs : List Char)
  | comment (cs : List Char)
  | remark (cs : List Char)
  | doctype (cs : List Char)
  | nothing (cs : List Char)
  | text

/-- Whether a text begins with a word, in any case. -/
def startsWith (word cs : List Char) : Bool := (cs.take word.length).map Char.toLower == word

/-- What begins at a place. -/
def markAt : List Char → Mark
  | '<' :: '!' :: '-' :: '-' :: cs => .comment cs
  | '<' :: '!' :: cs => if startsWith "doctype".toList cs then .doctype cs else .remark cs
  | '<' :: '?' :: cs => .remark ('?' :: cs)
  | '<' :: '/' :: '>' :: cs => .nothing cs
  | '<' :: '/' :: c :: cs => if c.isAlpha then .endTag (c :: cs) else .remark (c :: cs)
  | '<' :: c :: cs => if c.isAlpha then .startTag (c :: cs) else .text
  | _ => .text

/-- Splits a text behind the first `>`. -/
def pastTag (cs : List Char) : List Char × List Char :=
  (cs.takeWhile (· != '>'), (cs.dropWhile (· != '>')).tail)

/-- The text of a comment, and the text behind it. -/
def commentText : List Char → List Char × List Char
  | '-' :: '-' :: '>' :: cs => ([], cs)
  | '-' :: '-' :: '!' :: '>' :: cs => ([], cs)
  | c :: cs =>
    let (body, rest) := commentText cs
    (c :: body, rest)
  | [] => ([], [])

/-- The text of a comment from behind its opening; a comment may end at once. -/
def comment : List Char → List Char × List Char
  | '>' :: cs => ([], cs)
  | '-' :: '>' :: cs => ([], cs)
  | cs => commentText cs

/-! ## Tags -/

/-- Whether the name of a tag or of an attribute ends before a character. -/
def endsName (c : Char) : Bool := isSpace c || c == '/' || c == '>'

/-- A name in lower case. -/
def name (cs : List Char) : String := String.ofList (cs.map Char.toLower)

/-- A value between quotes, or up to a blank or the end of the tag, and the text behind it. -/
def attrValue : List Char → List Char × List Char
  | '\x22' :: cs => (cs.takeWhile (· != '\x22'), (cs.dropWhile (· != '\x22')).tail)
  | '\x27' :: cs => (cs.takeWhile (· != '\x27'), (cs.dropWhile (· != '\x27')).tail)
  | cs =>
    let stops (c : Char) : Bool := isSpace c || c == '>'
    (cs.takeWhile (!stops ·), cs.dropWhile (!stops ·))

/-- Attributes that stand for a yes by being there, and then have their own name for a value. -/
def switches : List String :=
  ["checked", "compact", "declare", "defer", "disabled", "ismap", "multiple", "nohref", "noresize", "noshade",
    "nowrap", "readonly", "selected"]

/-- The value of an attribute that is given without one. -/
def bareValue (name : String) : String := if switches.contains name then name else ""

/-- One attribute, and the text behind it. The first character of a name may be any. -/
def attrAt (c : Char) (cs : List Char) : (String × String) × List Char :=
  let stops (d : Char) : Bool := endsName d || d == '='
  let key := name (c :: cs.takeWhile (!stops ·))
  let rest := cs.dropWhile (!stops ·)
  match rest.dropWhile isSpace with
  | '=' :: r =>
    let (v, r) := attrValue (r.dropWhile isSpace)
    ((key, String.ofList (decode true v)), r)
  | _ => ((key, bareValue key), rest)

/-- What stands in a tag behind its name. -/
structure TagRest where
  attrs : List (String × String)
  closed : Bool
  rest : List Char

/-- Reads a tag to its end, in at most `fuel` steps; `none` is a tag that never ends. -/
def tagRest : (fuel : Nat) → List Char → Option TagRest
  | 0, _ => none
  | fuel + 1, cs => match cs with
    | [] => none
    | '>' :: r => some ⟨[], false, r⟩
    | '/' :: '>' :: r => some ⟨[], true, r⟩
    | c :: r =>
      if isSpace c || c == '/' then tagRest fuel r
      else
        let (a, r) := attrAt c r
        (tagRest fuel r).map fun t => { t with attrs := a :: t.attrs }

/-- Attributes without those whose name stands before them. -/
def firstOfEach : (seen : List String) → List (String × String) → List (String × String)
  | _, [] => []
  | seen, a :: as => if seen.contains a.1 then firstOfEach seen as else a :: firstOfEach (a.1 :: seen) as

/-! ## Text that holds no markup -/

/-- How the text of an element is read. -/
inductive TextMode
  | markup
  | references
  | verbatim
  | toTheEnd

/-- How the text of the elements with a tag is read. -/
def textMode (tag : String) : TextMode :=
  if ["script", "style", "xmp", "iframe", "noembed", "noframes"].contains tag then .verbatim
  else if ["title", "textarea"].contains tag then .references
  else if tag == "plaintext" then .toTheEnd
  else .markup

/-- Whether the end tag of an element begins at a place. -/
def isEndOf (tag : List Char) : List Char → Bool
  | '<' :: '/' :: cs => startsWith tag cs && (cs.drop tag.length).head?.all endsName
  | _ => false

/-- The text before the end tag of an element, and the text from there on. -/
def untilEnd (tag : List Char) : List Char → List Char × List Char
  | [] => ([], [])
  | c :: cs =>
    if isEndOf tag (c :: cs) then ([], c :: cs)
    else
      let (body, rest) := untilEnd tag cs
      (c :: body, rest)

/-- The text inside an element whose start tag was just read, as tokens, and the markup behind it. -/
def insideOf (tag : String) (cs : List Char) : List Token × List Char :=
  let text (body : List Char) : List Token := if body.isEmpty then [] else [.text body]
  match textMode tag with
  | .markup => ([], cs)
  | .toTheEnd => (text cs, [])
  | .verbatim =>
    let (body, rest) := untilEnd tag.toList cs
    (text body, rest)
  | .references =>
    let (body, rest) := untilEnd tag.toList cs
    (text (decode false body), rest)

/-! ## All tokens -/

/-- The tokens that begin at a place, and the text behind them; `none` at the end of a text that breaks off inside
a tag. -/
def next (fuel : Nat) (cs : List Char) : Option (List Token × List Char) :=
  match markAt cs with
  | .startTag cs =>
    let tag := name (cs.takeWhile (!endsName ·))
    match tagRest fuel (cs.dropWhile (!endsName ·)) with
    | none => none
    | some t =>
      let here := Token.start tag (firstOfEach [] t.attrs) t.closed
      if t.closed then some ([here], t.rest)
      else
        let (inside, rest) := insideOf tag t.rest
        some (here :: inside, rest)
  | .endTag cs =>
    let tag := name (cs.takeWhile (!endsName ·))
    match tagRest fuel (cs.dropWhile (!endsName ·)) with
    | none => none
    | some t => some ([.finish tag], t.rest)
  | .comment cs =>
    let (body, rest) := comment cs
    some ([.comment body], rest)
  | .remark cs =>
    let (body, rest) := pastTag cs
    some ([.comment body], rest)
  | .doctype cs => some ([], (pastTag cs).2)
  | .nothing cs => some ([], cs)
  | .text => match cs with
    | [] => none
    | c :: cs => some ([.text (decode false (c :: cs.takeWhile (· != '<')))], cs.dropWhile (· != '<'))

/-- The tokens of a text, of at most `fuel` places. -/
def tokensFrom : (fuel : Nat) → List Char → List Token
  | 0, _ => []
  | fuel + 1, cs => match next (cs.length + 1) cs with
    | none => []
    | some (ts, rest) => ts ++ tokensFrom fuel rest

/-- A text with one line feed for each line end. -/
def unifyLines : List Char → List Char
  | '\r' :: '\n' :: cs => '\n' :: unifyLines cs
  | '\r' :: cs => '\n' :: unifyLines cs
  | c :: cs => c :: unifyLines cs
  | [] => []

/-- The tokens of a text. -/
def tokens (cs : List Char) : List Token :=
  let cs := unifyLines cs
  tokensFrom (cs.length + 1) cs

end Crawl.Html
