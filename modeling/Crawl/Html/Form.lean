import Crawl.Html.Tree
import Crawl.Text.Blank
import Crawl.Text.Case
/-!
# The fields of a form

The pairs of names and values that a form sends, in document order. A control without a name, or a disabled one,
sends nothing; a box sends its value only when it is checked, a choice sends what is selected in it.
-/

namespace Crawl.Html.Form

/-- Whether an element has an attribute, with or without a value. -/
def has (r : Row) (name : String) : Bool := (r.attr? name).isSome

/-- An attribute that counts as missing when it is empty. -/
def filled? (r : Row) (name : String) : Option String := (r.attr? name).filter (!·.isEmpty)

/-- The type of an input. -/
def inputType (r : Row) : String := Text.lower ((r.attr? "type").getD "text")

/-- Types of inputs that send nothing themselves. -/
def silentTypes : List String := ["submit", "image", "reset", "file"]

/-- The values an input sends. -/
def inputValues (r : Row) : List String :=
  let type := inputType r
  if ["checkbox", "radio"].contains type then
    if has r "checked" then [(filled? r "value").getD "on"] else []
  else if silentTypes.contains type then []
  else (r.attr? "value").toList

/-- The value of an option: the one it is given, or its text. -/
def optionValue (t : Tree) (option : Row × Nat) : String :=
  match option.1.attr? "value" with
  | some v => v
  | none => Text.strip (t.firstText option.2)

/-- The values a choice sends: all selected ones, or, where only one can be chosen, the last selected one or else
the first that is not disabled. -/
def selectValues (t : Tree) (r : Row) (i : Nat) : List String :=
  let options := (t.below i).filter (·.1.hasTag "option")
  let selected := options.filter (has ·.1 "selected")
  if has r "multiple" then selected.map (optionValue t)
  else match selected.getLast? with
    | some option => [optionValue t option]
    | none => ((options.find? fun o => !has o.1 "disabled").map (optionValue t)).toList

/-- The values a control sends. -/
def controlValues (t : Tree) (r : Row) (i : Nat) : List String :=
  match r.tag? with
  | some "textarea" => [t.firstText i]
  | some "select" => selectValues t r i
  | some "input" => inputValues r
  | _ => []

/-- The pairs a control sends. -/
def controlFields (t : Tree) (control : Row × Nat) : List (String × String) :=
  match filled? control.1 "name" with
  | some name =>
    if has control.1 "disabled" then [] else (controlValues t control.1 control.2).map (name, ·)
  | none => []

/-- The pairs a form sends. -/
def fields (t : Tree) (form : Nat) : List (String × String) := (t.below form).flatMap (controlFields t)

end Crawl.Html.Form
