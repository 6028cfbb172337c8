import Crawl.Descriptor
/-!
# Kinds of element, and processors

A processor pairs a kind of element with a descriptor, or asks for a page by its address. It is a description only;
the node it last resolved to is remembered by the session, under the processor's serial number, so that two
processors with the same description are told apart.
-/

namespace Crawl

/-- The kinds of element a crawl can ask for. -/
inductive ElementKind
  | page
  | form
  | textField
  | submitControl
  | link
  | image
  | container
  | area
deriving DecidableEq, Repr

namespace ElementKind

/-- The word for a kind. -/
def word : ElementKind → String
  | page => "page"
  | form => "form"
  | textField => "text_field"
  | submitControl => "submit_control"
  | link => "link"
  | image => "image"
  | container => "container"
  | area => "area"

/-- All kinds. -/
def all : List ElementKind := [page, form, textField, submitControl, link, image, container, area]

/-- The kind with the given word. -/
def ofWord? (w : String) : Option ElementKind := all.find? (·.word == w)

/-- The kind with the word a value holds, or the message about a value that names none. -/
def ofDatum (d : Datum) : Except String ElementKind :=
  let kind? := match d with
    | .text w => ofWord? w
    | _ => none
  match kind? with
  | some k => .ok k
  | none => .error (d.quoted ++ " is not a valid ElementKind")

/-- The words a kind goes by in a script: its own and those of markup. -/
def ofToken? : String → Option ElementKind
  | "form" => some form
  | "text_field" => some textField
  | "submit_control" => some submitControl
  | "submit" => some submitControl
  | "link" => some link
  | "anchor" => some link
  | "image" => some image
  | "container" => some container
  | "div" => some container
  | "area" => some area
  | _ => none

end ElementKind

/-- What a processor asks for. -/
inductive Target
  | element (kind : ElementKind) (descriptor : Option Descriptor)
  | page (url : Option String)
deriving DecidableEq

namespace Target

/-- The kind of element asked for. -/
def kind : Target → ElementKind
  | element k _ => k
  | page _ => .page

/-- The descriptor of the element asked for. -/
def descriptor : Target → Option Descriptor
  | element _ d => d
  | page _ => none

/-- The form of a target in messages; a page also tells whether it is at hand. -/
def shown (loaded : Bool) : Target → String
  | element k d =>
    "ElementProcessor(" ++ k.word ++ " having " ++ (d.map Descriptor.text).getD "None" ++ ")"
  | page url =>
    "PageProcessor(url=" ++ (url.map Text.quoted).getD "None" ++ ", "
      ++ (if loaded then "loaded" else "pending") ++ ")"

end Target

/-- A target with the number under which a session remembers what it resolved to. -/
structure Processor where
  serial : Nat
  target : Target
deriving DecidableEq

end Crawl
