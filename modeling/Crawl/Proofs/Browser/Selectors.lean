import Crawl.Proofs.Browser.Leaks
import Crawl.Proofs.Css.Quoting
/-!
# Selections by identifier and by name

The browser engine looks an identifier or a name up with one query, whose selector tests an attribute for the value. So
a look-up is as exact as the value's quoted form: it compares the attribute with the value itself, except where the
value holds a line break, with which the selector is none, or U+0000, for which a style sheet has no character
(`value_lookups`).
-/

namespace Crawl.Browser

open Crawl.Action (stateOf failureOf bind_ok bind_error)
open Crawl.Css (attributeIs readString filtered selects seen unbroken)

/-! ## One query -/

/-- The attributes of the elements below a root, in document order, each with the element's name. -/
abbrev Listing := List (String × List (String × String))

/-- The elements of a listing that pass a selector. -/
def Listing.passing (elements : Listing) (selector : String) : List String :=
  (elements.filter fun element => selects selector element.2).map Prod.fst

/-- A query makes one call. -/
theorem makes_query (root : Handle) (selector : String) (d : Desk State) :
    Makes d.device [.query root selector] (stateOf (query root selector d)).device := by
  have hnames : Turns (.query root selector) (names root selector >>= fun ns => pure (ns.head?.map Handle.element)) :=
    (turns_names fun _ => rfl).map _ fun ns d => ⟨ns.head?.map Handle.element, rfl⟩
  rw [query]
  rcases make_cases (.query root selector) d with ⟨-, hok⟩ | ⟨f, -, herror⟩
  · rw [bind_ok hok]
    exact (Makes.called _ d).trans (hnames _).1
  · rw [bind_error herror]
    exact .called _ d

theorem names_ok {root : Handle} {selector : String} {found : List String} {d : Desk State}
    (h : d.device.world.find root selector = .names found) : names root selector d = .ok found d := by
  rw [names, bind_ok (show Desk.read d = .ok d.device d from rfl), h]
  rfl

/-- A query that nothing befalls finds the first of the names that the browser has for its selector. -/
theorem query_names {root : Handle} {selector : String} {found : List String} {d : Desk State}
    (hcalm : (d.device.incident (d.device.calls.push (.query root selector))).failure = none)
    (hfound : d.device.world.find root selector = .names found) :
    ∃ d', query root selector d = .ok (found.head?.map .element) d' := by
  rcases make_cases (.query root selector) d with ⟨-, hok⟩ | ⟨f, hf, -⟩
  · have hlater : (called (.query root selector) d).device.world.find root selector = .names found := by
      rw [← hfound]
      cases root <;> rfl
    rw [query, bind_ok hok, bind_ok (names_ok hlater)]
    exact ⟨_, rfl⟩
  · rw [Scene.failureIn, hcalm] at hf
    cases hf

/-! ## Look-ups -/

/-- A look-up that is one query, whose selector tests an attribute for a value as a style sheet reads it. -/
structure Seeks (lookup : Handle → Work (Option Handle)) (name value selector : String) : Prop where
  makes : ∀ root d, Makes d.device [.query root selector] (stateOf (lookup root d)).device
  tests : ∀ attrs, selects selector attrs = (unbroken value && attrs.lookup name == some (seen value))
  /-- Where the browser answers the selector by its text, the first element is found that passes. -/
  finds : ∀ root (d : Desk State) (below : Listing),
    (d.device.incident (d.device.calls.push (.query root selector))).failure = none →
    d.device.world.find root selector = .names (below.passing selector) →
    ∃ d', lookup root d = .ok ((below.passing selector).head?.map .element) d'

theorem seeks_query {name : String} (h : Css.IsName name) (value : String) :
    Seeks (query · (attributeIs name value)) name value (attributeIs name value) where
  makes root d := makes_query root _ d
  tests := Css.selects_attributeIs h value
  finds _ _ _ hcalm hfound := query_names hcalm hfound

theorem isName_id : Css.IsName "id" := ⟨by decide, List.all_eq_true.mp (by decide)⟩

theorem isName_name : Css.IsName "name" := ⟨by decide, List.all_eq_true.mp (by decide)⟩

/-- **Quoting a value is exact where the value holds neither a line break nor U+0000.** The quoted form is then one whole
string, whose value is the given one and which ends at its own closing quote whatever stands behind it. A line break
makes it a bad string; U+0000 is read as U+FFFD. A look-up by identifier or by name is one query, and its selector
compares the attribute with just the value that is read. -/
theorem value_lookups (value : String) :
    (∀ rest, readString ((Css.quoted value).toList ++ rest) = some (.closed value.toList, filtered rest) ↔
      unbroken value = true ∧ '\x00' ∉ value.toList) ∧
    (∀ rest, unbroken value = true →
      readString ((Css.quoted value).toList ++ rest) = some (.closed (seen value).toList, filtered rest)) ∧
    (∀ rest, unbroken value = false → ∃ left, readString ((Css.quoted value).toList ++ rest) = some (.bad, left)) ∧
    (seen value = value ↔ '\x00' ∉ value.toList) ∧
    Seeks (engine.findByIdentifier · value) "id" value (attributeIs "id" value) ∧
    Seeks (engine.findByName · value) "name" value (attributeIs "name" value) := by
  refine ⟨fun rest => ?_, fun rest h => Css.readString_quoted h rest, fun rest h => Css.readString_broken h rest,
    Css.seen_eq_iff, seeks_query isName_id value, seeks_query isName_name value⟩
  rw [← Css.seen_eq_iff]
  cases hvalue : unbroken value with
  | true =>
      rw [Css.readString_quoted hvalue rest]
      constructor
      · intro h
        have hlist : (seen value).toList = value.toList := by simpa using h
        exact ⟨rfl, String.toList_inj.mp hlist⟩
      · rintro ⟨-, h⟩
        rw [h]
  | false =>
      obtain ⟨left, hleft⟩ := Css.readString_broken hvalue rest
      simp [hleft]

/-- The quoted form of a value with quotes and a backslash at its end is a whole string before more text, and its
selector is passed by an element that carries the value. -/
theorem value_lookups_awkward :
    readString ((Css.quoted "say \x22hi\x22\\").toList ++ ['\x22', ']']) =
        some (.closed ("say \x22hi\x22\\").toList, ['\x22', ']']) ∧
      selects (attributeIs "id" "say \x22hi\x22\\") [("class", "say"), ("id", "say \x22hi\x22\\")] = true := by
  have hunbroken : unbroken "say \x22hi\x22\\" = true := by decide
  have hzero : '\x00' ∉ ("say \x22hi\x22\\").toList := by decide
  obtain ⟨hread, -, -, hseen, hid, -⟩ := value_lookups "say \x22hi\x22\\"
  constructor
  · exact (hread ['\x22', ']']).mpr ⟨hunbroken, hzero⟩
  · rw [hid.tests, hunbroken, hseen.mpr hzero]
    rfl

/-- The quoted form of a value with a line break is no string, and no element passes its selector, not even one that
carries the value. -/
theorem quoted_lineBreak :
    (∃ left, readString (Css.quoted "a\nb").toList = some (.bad, left)) ∧
      selects (attributeIs "id" "a\nb") [("id", "a\nb")] = false := by
  have hbroken : unbroken "a\nb" = false := by decide
  constructor
  · obtain ⟨left, hleft⟩ := Css.readString_broken hbroken []
    rw [List.append_nil] at hleft
    exact ⟨left, hleft⟩
  · rw [Css.selects_attributeIs isName_id, hbroken]
    rfl

end Crawl.Browser
