import Mathlib.Data.Bool.AllAny
import Mathlib.Order.Bounds.Defs
import Crawl.Proofs.Static.Activation
import Crawl.Proofs.Static.Lookup
import Crawl.Proofs.Html.Descent
import Crawl.Proofs.Url.Extended
/-!
# What an activation does

Activating an element follows a link, sends a form, or stays on the page. A link is followed when its reference leads away
from the page: it is not empty, does not begin with a hash, and is no script. A submitter sends the nearest form it stands
under. Whatever else is activated, nothing is loaded and the page it is on is the answer (`activation_dispatch`). A script
is told by how its reference begins, letter for letter, so one that is written otherwise, with capitals for example, is
followed as if it were an address.
-/

namespace Crawl.Static

open Crawl.Action (stateOf failureOf bind_ok read_eq ok_of_valueOf)

variable {s : State} {t : Html.Tree} {k i : Nat} {r : Html.Row} {href : String}

/-! ## References -/

/-- Whether a reference has the scheme of scripts, whose case does not matter. -/
def IsScript (href : String) : Prop := (Url.takeScheme [] (Url.tidy href.toList)).1 = "javascript".toList

instance (href : String) : Decidable (IsScript href) :=
  inferInstanceAs (Decidable ((Url.takeScheme [] (Url.tidy href.toList)).1 = "javascript".toList))

/-- Whether a reference leads to another page, and not to a place on its page or to a script. -/
structure Leads (href : String) : Prop where
  written : href ≠ ""
  noPlace : href.toList.head? ≠ some '#'
  noScript : ¬ IsScript href

/-- A reference to a script that does not begin with the scheme in lower case. -/
def IsMasked (href : String) : Prop := IsScript href ∧ ¬ "javascript:".toList <+: href.toList

/-- A reference that begins with the scheme of scripts in lower case is one to a script. -/
theorem isScript_of_begins (h : "javascript:".toList <+: href.toList) : IsScript href := by
  obtain ⟨rest, hrest⟩ := h
  have hline : ∀ c ∈ "javascript:".toList, Url.isLine c = false := List.all_iff_forall_prop.mp (by decide)
  have htidy := Url.tidy_append "javascript:".toList (by decide) (by rintro c ⟨⟩; decide) hline rest
  have hscheme : Url.IsScheme "javascript".toList :=
    ⟨List.all_eq_true.mp (by decide), List.all_iff_forall_prop.mp (by decide), by rintro c ⟨⟩; decide⟩
  unfold IsScript
  rw [← hrest, htidy]
  exact congrArg Prod.fst (Url.takeScheme_written hscheme (by decide) _)

/-- A reference to a script is not empty and does not begin with a hash. -/
theorem IsScript.begins (h : IsScript href) : href ≠ "" ∧ href.toList.head? ≠ some '#' := by
  unfold IsScript at h
  constructor
  · rintro rfl
    exact absurd h (by decide)
  · intro hhash
    obtain ⟨rest, hrest⟩ := List.head?_eq_some_iff.mp hhash
    have hline : ∀ c ∈ ['#'], Url.isLine c = false := List.forall_mem_singleton.mpr (by decide)
    have htidy := Url.tidy_append ['#'] (by decide) (by rintro c ⟨⟩; decide) hline rest
    rw [hrest, show '#' :: rest = ['#'] ++ rest from rfl, htidy, Url.takeScheme_noLetter (by rintro c ⟨⟩; rfl)] at h
    cases h

theorem leadsAway_eq_true : leadsAway href = true ↔
    href ≠ "" ∧ href.toList.head? ≠ some '#' ∧ ¬ "javascript:".toList <+: href.toList := by
  have hhash : "#".toList.isPrefixOf href.toList = true ↔ href.toList.head? = some '#' := by
    rw [List.isPrefixOf_iff_prefix]
    constructor
    · rintro ⟨rest, hrest⟩
      rw [← hrest]
      rfl
    · intro h
      obtain ⟨rest, hrest⟩ := List.head?_eq_some_iff.mp h
      exact ⟨rest, hrest.symm⟩
  unfold leadsAway
  simp only [Bool.and_eq_true, Bool.not_eq_true', Bool.eq_false_iff, ne_eq, hhash, List.isPrefixOf_iff_prefix,
    String.isEmpty_iff, and_assoc]

/-- The engine's test takes masked scripts for references that lead away, and else it is right. -/
theorem leadsAway_iff : leadsAway href = true ↔ Leads href ∨ IsMasked href := by
  rw [leadsAway_eq_true]
  constructor
  · rintro ⟨hwritten, hplace, hprefix⟩
    by_cases hscript : IsScript href
    · exact .inr ⟨hscript, hprefix⟩
    · exact .inl ⟨hwritten, hplace, hscript⟩
  · rintro (⟨hwritten, hplace, hscript⟩ | ⟨hscript, hprefix⟩)
    · exact ⟨hwritten, hplace, fun h => hscript (isScript_of_begins h)⟩
    · obtain ⟨hwritten, hplace⟩ := hscript.begins
      exact ⟨hwritten, hplace, hprefix⟩

/-! ## Forms -/

/-- The form that a submitter sends is the nearest one it stands under, so the last of these. -/
theorem formAbove?_some {form : Nat} :
    formAbove? t i = some form ↔ IsGreatest {m | t.tag? m = some "form" ∧ t.Under m i} form := by
  have hrow {b : Html.Row} {m : Nat} (h : (b, m) ∈ t.above i) : t[m]? = some b := (Html.Tree.mem_above.mp h).2.row
  unfold formAbove?
  rw [Option.map_eq_some_iff]
  constructor
  · rintro ⟨⟨a, m⟩, hfind, rfl⟩
    obtain ⟨hmem, hform, hlast⟩ := (Html.Tree.find?_above_some (·.hasTag "form")).mp hfind
    refine ⟨⟨(Html.Tree.hasTag_iff (hrow hmem)).mp hform, a, hmem⟩, ?_⟩
    rintro l ⟨htag, b, hb⟩
    exact hlast b l hb ((Html.Tree.hasTag_iff (hrow hb)).mpr htag)
  · rintro ⟨⟨htag, a, hmem⟩, hlast⟩
    have hfind := (Html.Tree.find?_above_some (·.hasTag "form")).mpr ⟨hmem, (Html.Tree.hasTag_iff (hrow hmem)).mpr htag,
      fun b m hb hform => hlast ⟨(Html.Tree.hasTag_iff (hrow hb)).mp hform, b, hb⟩⟩
    exact ⟨(a, form), hfind, rfl⟩

theorem formAbove?_none : formAbove? t i = none ↔ ∀ m, t.tag? m = some "form" → ¬ t.Under m i := by
  have hrow {b : Html.Row} {m : Nat} (h : (b, m) ∈ t.above i) : t[m]? = some b := (Html.Tree.mem_above.mp h).2.row
  unfold formAbove?
  rw [Option.map_eq_none_iff, List.find?_eq_none]
  constructor
  · rintro h m htag ⟨a, ha⟩
    exact h (a, m) ha ((Html.Tree.hasTag_iff (hrow ha)).mpr htag)
  · rintro h ⟨a, m⟩ hmem hform
    exact h m ((Html.Tree.hasTag_iff (hrow hmem)).mp hform) ⟨a, hmem⟩

/-! ## What is decided before anything is loaded -/

/-- Whether a row is a link. -/
def IsLink (r : Html.Row) : Prop := tagOf r = "a" ∨ tagOf r = "area"

/-- The reference of a link, without the blanks around it. -/
def refOf (r : Html.Row) : String := Text.strip ((r.attr? "href").getD "")

theorem deedOf_link (h : IsLink r) : deedOf t i r = if leadsAway (refOf r) then .follow (refOf r) else .stay := by
  have hlink : (tagOf r == "a" || tagOf r == "area") = true := by simpa [IsLink] using h
  exact if_pos hlink

theorem deedOf_noLink (h : ¬ IsLink r) : deedOf t i r =
    if isSubmitter r (tagOf r) then (match formAbove? t i with | some form => .submit form | none => .stay) else .stay := by
  have hlink : ¬ (tagOf r == "a" || tagOf r == "area") = true := by simpa [IsLink] using h
  exact if_neg hlink

/-- A submitter is no link. -/
theorem not_isLink_of_isSubmitter (h : isSubmitter r (tagOf r) = true) : ¬ IsLink r := by
  rintro (htag | htag) <;> rw [htag] at h <;> cases h

/-- An address of visible ASCII is recorded as it is. -/
theorem recorded_ascii {u base : String} (h : recorded u = some base) (hascii : ∀ c ∈ u.toList, c ≠ ' ' ∧ c.toNat < 128) :
    base = u := by
  have hkept : (u.toList.flatMap fun c => if c == ' ' || 128 ≤ c.toNat then Url.percentChar c else [c]) = u.toList := by
    have hone : ∀ c ∈ u.toList, (if c == ' ' || 128 ≤ c.toNat then Url.percentChar c else [c]) = [c] := by
      intro c hc
      obtain ⟨hspace, hnear⟩ := hascii c hc
      exact if_neg (by simp [hspace, hnear])
    rw [List.flatMap_def, List.map_congr_left hone, ← List.flatMap_def]
    exact List.flatMap_singleton' u.toList
  unfold recorded at h
  rw [hkept, String.ofList_toList] at h
  split at h
  · cases h
  · exact (Option.some.inj h).symm

/-! ## Activating -/

/-- The activation of an element follows a reference from its page: it loads the address the reference leads to, once,
or finds that there is none. -/
structure Follows (s : State) (j : Journal) (k i : Nat) (base href : String) : Prop where
  loads : ∀ cs, Url.join base.toList href.toList = .ok cs →
    engine.activate (.element k i) ⟨s, j⟩ = load (String.ofList cs) none ⟨s.handed, j⟩
  refused : ∀ e, Url.join base.toList href.toList = .error e →
    engine.activate (.element k i) ⟨s, j⟩ = .error (.refused (.address e)) ⟨s.handed, j⟩

/-- The activation of an element sends a form: it loads the form's destination, once, or finds that there is none. -/
structure Delivers (s : State) (j : Journal) (k i form : Nat) (r : Html.Row) (base : String) : Prop where
  loads : ∀ address data, formDestination base (s.tree k) form r = .ok (address, data) →
    ∃ j', engine.activate (.element k i) ⟨s, j⟩ = load address data ⟨s.handed, j'⟩
  refused : ∀ e, formDestination base (s.tree k) form r = .error e →
    ∃ j', engine.activate (.element k i) ⟨s, j⟩ = .error (.refused (.address e)) ⟨s.handed, j'⟩

/-- What activating a row of a page does, by what the row is. -/
structure Dispatches (s : State) (j : Journal) (k i : Nat) (r : Html.Row) (base : String) : Prop where
  /-- A link is followed when its reference leads away. -/
  link : IsLink r → Leads (refOf r) → Follows s j k i base (refOf r)
  /-- A masked script is followed too. -/
  masked : IsLink r → IsMasked (refOf r) → Follows s j k i base (refOf r)
  /-- A submitter sends the nearest form that it stands under. -/
  submitter : isSubmitter r (tagOf r) = true →
    ∀ form, IsGreatest {m | (s.tree k).tag? m = some "form" ∧ (s.tree k).Under m i} form → Delivers s j k i form r base
  /-- Whatever else is activated, the page stays, and only a handle to it is given out. -/
  other : (IsLink r → ¬ Leads (refOf r) ∧ ¬ IsMasked (refOf r)) →
    (isSubmitter r (tagOf r) = true → ∀ m, (s.tree k).tag? m = some "form" → ¬ (s.tree k).Under m i) →
    engine.activate (.element k i) ⟨s, j⟩ = .ok (.document s.handles k base) ⟨s.handed, j⟩

/-- What is done for an element of a page. -/
def perform (base : String) (t : Html.Tree) (r : Html.Row) (page : Node) : Deed → Work Node
  | .stay => pure page
  | .follow href => joined base href >>= fun address => load address none
  | .submit form => submit base t form r

section

variable {j : Journal} {base : String} (hbase : s.baseOf k = some base) (hrow : (s.tree k)[i]? = some r)
include hbase hrow

/-- Activating a row of a page gives out a handle to the page and then does what is meant. -/
theorem activate_deed : engine.activate (.element k i) ⟨s, j⟩ =
    perform base (s.tree k) r (.document s.handles k base) (deedOf (s.tree k) i r) ⟨s.handed, j⟩ := by
  show activate (.element k i) ⟨s, j⟩ = _
  rw [activate, bind_ok (ownerDocument_element hbase), bind_ok (read_eq _)]
  have htree : s.handed.tree k = s.tree k := rfl
  simp only [htree, hrow]
  cases deedOf (s.tree k) i r <;> rfl

theorem stays_of_deedOf (hdeed : deedOf (s.tree k) i r = .stay) :
    engine.activate (.element k i) ⟨s, j⟩ = .ok (.document s.handles k base) ⟨s.handed, j⟩ := by
  rw [activate_deed hbase hrow, hdeed]
  rfl

theorem follows_of_deedOf (hdeed : deedOf (s.tree k) i r = .follow href) : Follows s j k i base href := by
  have hactivate := activate_deed (j := j) hbase hrow
  rw [hdeed, perform, joined] at hactivate
  constructor
  · intro cs hjoin
    rw [hactivate, hjoin]
    rfl
  · intro e hjoin
    rw [hactivate, hjoin]
    rfl

theorem delivers_of_deedOf {form : Nat} (hdeed : deedOf (s.tree k) i r = .submit form) : Delivers s j k i form r base := by
  obtain ⟨j', hsubmit⟩ := submit_goes base (s.tree k) form r (.document s.handles k base)
  have hactivate := activate_deed (j := j) hbase hrow
  rw [hdeed] at hactivate
  have hgoes := hactivate.trans hsubmit
  constructor
  · intro address data hdest
    rw [hdest] at hgoes
    exact ⟨j', hgoes⟩
  · intro e hdest
    rw [hdest] at hgoes
    exact ⟨j', hgoes⟩

theorem dispatches : Dispatches s j k i r base where
  link hlink hleads := by
    apply follows_of_deedOf hbase hrow
    rw [deedOf_link hlink, if_pos (leadsAway_iff.mpr (.inl hleads))]
  masked hlink hmasked := by
    apply follows_of_deedOf hbase hrow
    rw [deedOf_link hlink, if_pos (leadsAway_iff.mpr (.inr hmasked))]
  submitter hsubmitter form hform := by
    apply delivers_of_deedOf hbase hrow
    rw [deedOf_noLink (not_isLink_of_isSubmitter hsubmitter), if_pos hsubmitter, formAbove?_some.mpr hform]
  other hnoLink hnoForm := by
    apply stays_of_deedOf hbase hrow
    by_cases hlink : IsLink r
    · obtain ⟨hleads, hmasked⟩ := hnoLink hlink
      rw [deedOf_link hlink, if_neg fun haway => (leadsAway_iff.mp haway).elim hleads hmasked]
    · rw [deedOf_noLink hlink]
      split
      · next hsubmitter => rw [formAbove?_none.mpr (hnoForm hsubmitter)]
      · rfl

end

/-- **What an activation does.** On every page that was loaded under an address, in every state that the engine comes to
by further calls: a link whose reference leads away is followed, once, from the address that was recorded for the page;
for a page whose final address is visible ASCII, this is that address. A submitter in a form sends the nearest form that
it stands under, once. For anything else nothing is loaded or asked for, and the page itself is the answer: that goes for
places on the page and for scripts, for submitters outside forms, and for what stands inside a link or a button. But a
script whose reference does not begin with the scheme in lower case is followed like an address. -/
theorem activation_dispatch (s : State) (j : Journal) (url : String) (data : Option (List (String × String)))
    (h k : Nat) (u : String) (d : Desk State) (hload : load url data ⟨s, j⟩ = .ok (.document h k u) d) (hurl : url ≠ "") :
    ∃ base, ((∀ c ∈ u.toList, c ≠ ' ' ∧ c.toNat < 128) → base = u) ∧
      ∀ s', engine.Reaches d.device s' → ∀ (i : Nat) (r : Html.Row), (s'.tree k)[i]? = some r → ∀ j',
        Dispatches s' j' k i r base ∧ engine.same (.document h k u) (.document s'.handles k base) = true := by
  obtain ⟨h', k', u', hdocument, hrecorded, hu⟩ := load_ok hload
  cases hdocument
  obtain ⟨base, hbase⟩ := recorded_of_ne (hu hurl)
  refine ⟨base, recorded_ascii hbase, fun s' hreach i r hrow j' => ⟨?_, beq_self_eq_true k⟩⟩
  exact dispatches (Reaches.baseOf hreach (hrecorded.trans hbase)) hrow

/-- An engine that knows a page with three links by heart, one of which is to another page it knows. -/
def threeLinks : State :=
  ⟨[("http://h/a", "<a href=' b '>x</a><a href='#b'>y</a><a href='JavaScript:void(0)'>z</a>"), ("http://h/b", "<p>b</p>")],
    [], Client.start [], 1, #[], 0⟩

/-- The row of the link to the other page. -/
def awayLink : Html.Row := ⟨3, .element "a" [("href", " b ")]⟩

/-- The row of the link to a place on the page. -/
def placeLink : Html.Row := ⟨3, .element "a" [("href", "#b")]⟩

/-- The desk after the page was loaded. -/
def threeLinksLoaded : Desk State := stateOf (load "http://h/a" none ⟨threeLinks, #[]⟩)

theorem tree_threeLinksLoaded : threeLinksLoaded.device.tree 0 =
    [⟨0, .root⟩, ⟨1, .element "html" []⟩, ⟨2, .text none⟩, ⟨2, .element "body" []⟩, ⟨3, .text none⟩,
      awayLink, ⟨4, .text (some "x")⟩, placeLink, ⟨4, .text (some "y")⟩,
      ⟨3, .element "a" [("href", "JavaScript:void(0)")]⟩, ⟨4, .text (some "z")⟩] := by decide +kernel

/-- The first link is followed, and for the second one the page stays. -/
theorem activation_dispatch_threeLinks :
    load "http://h/a" none ⟨threeLinks, #[]⟩ = .ok (.document 0 0 "http://h/a") threeLinksLoaded ∧ "http://h/a" ≠ "" ∧
      engine.Reaches threeLinksLoaded.device threeLinksLoaded.device ∧
      engine.activate (.element 0 5) ⟨threeLinksLoaded.device, #[]⟩ =
        load "http://h/b" none ⟨threeLinksLoaded.device.handed, #[]⟩ ∧
      engine.activate (.element 0 7) ⟨threeLinksLoaded.device, #[]⟩ =
        .ok (.document 1 0 "http://h/a") ⟨threeLinksLoaded.device.handed, #[]⟩ := by
  have hload : load "http://h/a" none ⟨threeLinks, #[]⟩ = .ok (.document 0 0 "http://h/a") threeLinksLoaded :=
    ok_of_valueOf (by decide +kernel)
  obtain ⟨base, hascii, hrows⟩ := activation_dispatch threeLinks #[] "http://h/a" none 0 0 _ _ hload (by decide)
  obtain rfl := hascii (List.all_iff_forall_prop.mp (by decide))
  have haway : (threeLinksLoaded.device.tree 0)[5]? = some awayLink := by rw [tree_threeLinksLoaded]; rfl
  have hplace : (threeLinksLoaded.device.tree 0)[7]? = some placeLink := by rw [tree_threeLinksLoaded]; rfl
  refine ⟨hload, by decide, .refl, ?_, ?_⟩
  · have hleads : Leads (refOf awayLink) := ⟨by decide +kernel, by decide +kernel, by decide +kernel⟩
    exact ((hrows _ .refl 5 awayLink haway #[]).1.link (.inl (by decide +kernel)) hleads).loads "http://h/b".toList
      (by rfl)
  · have hstays : ¬ Leads (refOf placeLink) ∧ ¬ IsMasked (refOf placeLink) := by
      refine ⟨fun h => h.noPlace (by decide +kernel), fun h => ?_⟩
      have hno : ¬ IsScript (refOf placeLink) := by decide +kernel
      exact hno h.1
    have hnoSubmitter : isSubmitter placeLink (tagOf placeLink) = false := by decide +kernel
    exact (hrows _ .refl 7 placeLink hplace #[]).1.other (fun _ => hstays) fun h => by rw [hnoSubmitter] at h; cases h

/-- A script in capitals is one whatever the case of its scheme, but activating its link fails. -/
theorem activation_capitalScript :
    IsScript "JavaScript:void(0)" ∧
      (threeLinksLoaded.device.tree 0)[9]? = some ⟨3, .element "a" [("href", "JavaScript:void(0)")]⟩ ∧
      failureOf (engine.activate (.element 0 9) ⟨threeLinksLoaded.device, #[]⟩) =
        some (.navigation (.unknown "JavaScript:void(0)")) := by
  refine ⟨by decide, ?_, by decide +kernel⟩
  rw [tree_threeLinksLoaded]
  rfl

end Crawl.Static
