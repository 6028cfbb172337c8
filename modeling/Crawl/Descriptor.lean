import Crawl.Datum
/-!
# Descriptors

A descriptor says how to find a node: by which property, and with which value. The value is never empty.
A draft is a descriptor as it arrives from outside, where either part may be any value; it is accepted when its
first part names a property and its second is not empty.
-/

namespace Crawl

/-- The property a node is found by. -/
inductive Variant
  | identifier
  | name
  | title
  | xpath
  | text
deriving DecidableEq, Repr

namespace Variant

/-- The word for a property. -/
def word : Variant → String
  | identifier => "identifier"
  | name => "name"
  | title => "title"
  | xpath => "xpath"
  | text => "text"

/-- All properties. -/
def all : List Variant := [identifier, name, title, xpath, text]

/-- The property with the given word. -/
def ofWord? (w : String) : Option Variant := all.find? (·.word == w)

end Variant

/-- A property and the text it must have. -/
structure Descriptor where
  variant : Variant
  value : String
  value_ne : value ≠ ""

namespace Descriptor

instance : DecidableEq Descriptor := fun a b =>
  if h : a.variant = b.variant ∧ a.value = b.value then
    isTrue (by cases a; cases b; simp_all)
  else isFalse (by intro e; subst e; simp at h)

/-- The form of a descriptor in messages. -/
def shown (variant : Variant) (value : String) : String := variant.word ++ "(\"" ++ value ++ "\")"

/-- The form of a descriptor in messages. -/
def text (d : Descriptor) : String := shown d.variant d.value

/-- Why a draft is refused. -/
inductive Fault
  | unknownVariant (shown : String)
  | emptyValue (variant : Variant)
deriving DecidableEq, Repr

/-- The message for a refused draft. -/
def Fault.message : Fault → String
  | unknownVariant shown => shown ++ " is not a valid DescriptorVariant"
  | emptyValue v => v.word ++ " descriptor requires a non-empty value"

/-- A descriptor, unless its value is empty. -/
def make (variant : Variant) (value : String) : Except Fault Descriptor :=
  if h : value = "" then .error (.emptyValue variant) else .ok ⟨variant, value, h⟩

/-- A descriptor as it arrives from outside. -/
structure Draft where
  variant : Datum
  value : Datum

/-- A draft that was accepted: its property is known and its value is not empty. -/
structure Accepted where
  variant : Variant
  value : Datum

/-- Accepts a draft, or tells the first thing that is wrong with it. -/
def Draft.accept (d : Draft) : Except Fault Accepted :=
  let variant? := match d.variant with
    | .text w => Variant.ofWord? w
    | _ => none
  match variant? with
  | none => .error (.unknownVariant d.variant.quoted)
  | some v => if d.value.isVoid then .error (.emptyValue v) else .ok ⟨v, d.value⟩

namespace Accepted

/-- The form of an accepted draft in messages. -/
def text (a : Accepted) : String := shown a.variant a.value.display

/-- Whether two accepted drafts describe nodes by the same property and value. -/
def same (a b : Accepted) : Bool := a.variant == b.variant && a.value.same b.value

/-- The descriptor an accepted draft stands for, with its value as a text. -/
def descriptor (a : Accepted) : Except Fault Descriptor := make a.variant a.value.display

end Accepted

end Descriptor

end Crawl
