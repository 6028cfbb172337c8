import Crawl.Proofs.Static.Activation
import Crawl.Proofs.Url.Fields
/-!
# Forms that are sent in a query

A form whose method is not post is sent in the query of its target. The target is taken apart and put together again with
the fields in the place of its own query, so the address says where the form goes and what it sends: both are read back
from it, whatever characters the fields hold (`query_submission`).
-/

namespace Crawl.Static

open Crawl.Action (valueOf)

variable {s : State} {j : Journal} {k i form : Nat} {base target : String} {r : Html.Row} {p : Url.Parts}
  {fields : List (String × String)}

/-- An attribute of a form that counts as missing when it is empty. -/
def formAttr? (t : Html.Tree) (form : Nat) (name : String) : Option String := t[form]?.bind (Html.Form.filled? · name)

/-- The pair that a control adds when it sends its form: none without a name, and an empty value for a missing one. -/
def ownPair (r : Html.Row) : List (String × String) :=
  (Html.Form.filled? r "name").toList.map fun name => (name, (r.attr? "value").getD "")

/-- What is sent is what the form holds, and last the control's own pair. -/
theorem sentFields_eq (t : Html.Tree) (form : Nat) (r : Html.Row) :
    sentFields t form r = Html.Form.fields t form ++ ownPair r := by
  unfold sentFields ownPair
  cases Html.Form.filled? r "name" <;> rfl

/-- An address that leads where `p` does and carries fields: split again it has the scheme, network location and path of
`p`, no fragment, and a query that is read as the fields; without fields there is no query. -/
def Carries (p : Url.Parts) (fields : List (String × String)) (address : String) : Prop :=
  ∃ query, Url.split address.toList = .ok ⟨p.scheme, p.netloc, p.path, query, []⟩ ∧ Url.readFields query = fields ∧
    (fields = [] → query = [])

/-- The address of a form that is sent in the query carries the form's fields. -/
theorem queryAddress_carries (hsplit : Url.split target.toList = .ok p) (hnetloc : p.netloc ≠ [])
    (fields : List (String × String)) : ∃ address, queryAddress target fields = .ok address ∧ Carries p fields address := by
  have hregular := Url.regular_formQuery (Url.regular_of_split hsplit) fields
  refine ⟨_, by rw [queryAddress, hsplit], Url.formQuery fields, ?_, Url.readFields_formQuery fields, ?_⟩
  · rw [String.toList_ofList]
    exact Url.split_unsplit hregular hnetloc
  · rintro rfl
    rfl

/-- Activating a control that sends a form in the query loads the address that the form's fields make of its target. -/
theorem activate_query {cs : List Char} {address : String} (hbase : s.baseOf k = some base)
    (hrow : (s.tree k)[i]? = some r) (hdeed : deedOf (s.tree k) i r = .submit form)
    (hmethod : Text.lower ((formAttr? (s.tree k) form "method").getD "get") ≠ "post")
    (hjoin : Url.join base.toList ((formAttr? (s.tree k) form "action").getD base).toList = .ok cs)
    (haddress : queryAddress (String.ofList cs) (sentFields (s.tree k) form r) = .ok address) :
    ∃ j', activate (.element k i) ⟨s, j⟩ = load address none ⟨s.handed, j'⟩ := by
  obtain ⟨j', hgo⟩ := activate_goes (j := j) hbase hrow
  have hdestination : formDestination base (s.tree k) form r = .ok (address, none) := by
    unfold formAttr? at hmethod hjoin
    unfold formDestination
    dsimp only
    rw [hjoin]
    dsimp only
    rw [if_neg hmethod]
    unfold queryAddress at haddress
    cases hsplit : Url.split (String.ofList cs).toList with
    | error e =>
        rw [hsplit] at haddress
        cases haddress
    | ok q =>
        rw [hsplit] at haddress
        cases haddress
        rfl
  refine ⟨j', ?_⟩
  rw [hgo, destination, hdeed]
  dsimp only
  rw [hdestination]
  rfl

/-- **A form that is sent in the query is read back from the address.** Whatever the fields are, a target with a network
location makes an address with them that leads where the target does and carries exactly the fields. This is the address
that is loaded when a control sends such a form of a page, with the form's fields in order and the control's own pair
last. -/
theorem query_submission :
    (∀ (target : String) (fields : List (String × String)) (p : Url.Parts), Url.split target.toList = .ok p →
      p.netloc ≠ [] → ∃ address, queryAddress target fields = .ok address ∧ Carries p fields address) ∧
    ∀ (s : State) (j : Journal) (k i form : Nat) (base : String) (r : Html.Row) (target : List Char) (p : Url.Parts),
      s.baseOf k = some base → (s.tree k)[i]? = some r → deedOf (s.tree k) i r = .submit form →
      Text.lower ((formAttr? (s.tree k) form "method").getD "get") ≠ "post" →
      Url.join base.toList ((formAttr? (s.tree k) form "action").getD base).toList = .ok target →
      Url.split target = .ok p → p.netloc ≠ [] →
      ∃ address j', engine.activate (.element k i) ⟨s, j⟩ = load address none ⟨s.handed, j'⟩ ∧
        Carries p (Html.Form.fields (s.tree k) form ++ ownPair r) address := by
  constructor
  · intro target fields p hsplit hnetloc
    exact queryAddress_carries hsplit hnetloc fields
  · intro s j k i form base r target p hbase hrow hdeed hmethod hjoin hsplit hnetloc
    have hsplit' : Url.split (String.ofList target).toList = .ok p := by rwa [String.toList_ofList]
    obtain ⟨address, haddress, hcarries⟩ := queryAddress_carries hsplit' hnetloc (sentFields (s.tree k) form r)
    obtain ⟨j', hactivate⟩ := activate_query (j := j) hbase hrow hdeed hmethod hjoin haddress
    rw [sentFields_eq] at hcarries
    exact ⟨address, j', hactivate, hcarries⟩

/-! ## A form with delimiters in its fields -/

/-- A page with a form whose names and values are what a query is taken apart at. -/
def delimiters : Html.Tree :=
  [⟨0, .root⟩, ⟨1, .element "html" []⟩, ⟨2, .text none⟩, ⟨2, .element "body" []⟩, ⟨3, .text none⟩,
    ⟨3, .element "form" [("action", "/find?old=1#top")]⟩, ⟨4, .text none⟩,
    ⟨4, .element "input" [("name", "a&b=c"), ("value", "1+1 = 2%#?")]⟩, ⟨5, .text none⟩,
    ⟨4, .element "input" [("name", "a&b=c"), ("value", "")]⟩, ⟨5, .text none⟩,
    ⟨4, .element "input" [("name", "\u00e9"), ("value", "\u65e5\u2028")]⟩, ⟨5, .text none⟩,
    ⟨4, .element "button" [("name", "go")]⟩, ⟨5, .text none⟩]

/-- An engine that has loaded this page: the form is row 5, the button row 13. -/
def onDelimiters : State := ⟨[], [], Client.start [], 1, #[⟨delimiters, some "http://h/d?x#y"⟩], 1⟩

theorem query_submission_delimiters :
    (∃ address, queryAddress "http://h/find?old=1#top" [("", "&"), ("", "")] = .ok address ∧
      Carries ⟨"http".toList, "h".toList, "/find".toList, "old=1".toList, "top".toList⟩ [("", "&"), ("", "")] address) ∧
    ∃ address j', engine.activate (.element 0 13) ⟨onDelimiters, #[]⟩ = load address none ⟨onDelimiters.handed, j'⟩ ∧
      Carries ⟨"http".toList, "h".toList, "/find".toList, "old=1".toList, "top".toList⟩
        [("a&b=c", "1+1 = 2%#?"), ("a&b=c", ""), ("\u00e9", "\u65e5\u2028"), ("go", "")] address := by
  obtain ⟨hcarries, hloads⟩ := query_submission
  exact ⟨hcarries _ _ _ rfl (by decide),
    hloads onDelimiters #[] 0 13 5 "http://h/d?x#y" ⟨4, .element "button" [("name", "go")]⟩ "http://h/find?old=1#top".toList _
      rfl rfl rfl (by decide +kernel) rfl rfl (by decide)⟩

end Crawl.Static
