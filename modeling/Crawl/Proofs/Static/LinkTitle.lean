import Crawl.Proofs.Session.Table
import Crawl.Proofs.Static.Lookup
import Crawl.Proofs.XPath.Titled
/-!
# Looking up links by title

A link is looked up by its title with a path that compares the attribute with the title written as an expression. The
written title is an expression by itself and means exactly the title, so the path leads to the anchors that carry it,
and the first of them is the match (`resolve_title`). Only a title that no tree can hold is never compared with anything:
it is refused.
-/

namespace Crawl.Static

open Crawl.Action (stateOf outcomeOf bind_ok bind_error read_eq)
open Crawl.Session (outcome_resolve)
open Crawl.XPath (Means Writes parse eval select anchorRows hasAttr anchorsWith titlePath literal)

variable {τ : Type} {s : State} {j : Journal}

/-- Writing a title adds nothing that a tree could not hold. -/
theorem isTreeText_anchorTitlePath (title : String) : Text.isTreeText (anchorTitlePath title) = Text.isTreeText title := by
  -- Apart from the title itself, only printable characters of ASCII are written.
  have hprintable : ∀ c : Char, 32 ≤ c.toNat → c.toNat < 127 → Text.isTreeChar c = true := by
    intro c hlow hhigh
    simp only [Text.isTreeChar, Bool.and_eq_true, Bool.or_eq_true, decide_eq_true_eq, bne_iff_ne, ne_eq]
    omega
  have hopening : ("//a[@title=".toList).all Text.isTreeChar = true := by decide
  have hbracket : [']'].all Text.isTreeChar = true := by decide
  unfold Text.isTreeText
  rw [XPath.anchorTitlePath_eq, String.toList_ofList, List.all_append, List.all_append, hopening, hbracket,
    (XPath.writes_literal title).all hprintable]
  simp

/-- The anchors with a title, as the engine finds them by path. -/
theorem findByPath_title (n : Node) (title : String) :
    findByPath n (anchorTitlePath title) ⟨s, j⟩ = Action.ofExcept (if Text.isTreeText title then
      .ok (((anchorRows (s.tree n.treeOf)).filter (hasAttr (s.tree n.treeOf) "title" title)).map (.element n.treeOf))
      else .error (.refused .notTreeText)) ⟨s, j⟩ := by
  unfold findByPath needTreeText
  rw [isTreeText_anchorTitlePath]
  split
  · rw [pure_bind, bind_ok (read_eq _), XPath.select_titled]
    rfl
  · rfl

/-! ## Resolving a link -/

/-- What a search for a link by its title ends with, in a tree. -/
def titleSearch (t : Html.Tree) (k : Nat) (d : Descriptor) : Except Failure Node :=
  if Text.isTreeText d.value then
    match (anchorRows t).find? (hasAttr t "title" d.value) with
    | some i => .ok (.element k i)
    | none => .error (.nodeNotFound (.noMatch .link d))
  else .error (.refused .notTreeText)

/-- The rule for a link by its title. -/
def titleRule : Rule := .tagged .anchorTitle .scope "a"

theorem ruled_title {p : Processor} {d : Descriptor} (htarget : p.target = .element .link (some d))
    (hvariant : d.variant = .title) : Session.Ruled p d titleRule where
  kind := by
    rw [htarget]
    exact nofun
  descriptor := by
    rw [htarget]
    rfl
  rule := by
    rw [htarget, hvariant]
    rfl

/-- The first anchor with a title passes the check. -/
theorem holds_anchor {k i : Nat} (h : i ∈ anchorRows (s.tree k)) :
    Check.holds engine (.element k i) (.tag "a") ⟨s, j⟩ = .ok true ⟨s, j⟩ := by
  have htag := XPath.tag?_of_mem_anchorRows h
  obtain ⟨r, hrow, hr⟩ := Option.bind_eq_some_iff.mp htag
  have hpasses : passes r (.tag "a") = true := by
    simp only [passes, tagOf, hr, Option.getD_some]
    decide
  rw [holds_eq hrow, hpasses]

theorem ask_title (scope : Node) (d : Descriptor) : titleRule.query.ask engine scope d.value ⟨s, j⟩ =
    Action.ofExcept (if Text.isTreeText d.value then
      .ok (((anchorRows (s.tree scope.treeOf)).find? (hasAttr (s.tree scope.treeOf) "title" d.value)).map
        (.element scope.treeOf))
      else .error (.refused .notTreeText)) ⟨s, j⟩ := by
  have hfind := findByPath_title (s := s) (j := j) scope d.value
  show (findByPath scope (anchorTitlePath d.value) >>= fun nodes => pure nodes.head?) ⟨s, j⟩ = _
  cases htext : Text.isTreeText d.value with
  | false =>
      rw [htext] at hfind
      exact bind_error hfind _
  | true =>
      rw [htext] at hfind
      rw [bind_ok hfind, List.head?_map, List.head?_filter]
      rfl

theorem search_title {σ : Session State Node τ} {p : Processor} {d : Descriptor} (scope : Node)
    (htarget : p.target = .element .link (some d)) (hvariant : d.variant = .title) :
    Session.search engine p (some scope) σ =
      Action.ofExcept (titleSearch (σ.desk.device.tree scope.treeOf) scope.treeOf d) σ := by
  have hask := onDesk_ofExcept (τ := τ) (ask_title (j := σ.desk.journal) scope d)
  have hroot : Session.searchRoot engine p scope titleRule.root σ = .ok scope σ := rfl
  rw [Session.search_ruled (ruled_title htarget hvariant), bind_ok hroot]
  unfold titleSearch
  cases htext : Text.isTreeText d.value with
  | false =>
      simp only [htext] at hask
      exact bind_error hask _
  | true =>
      simp only [htext, if_true] at hask ⊢
      cases hfind : (anchorRows (σ.desk.device.tree scope.treeOf)).find?
          (hasAttr (σ.desk.device.tree scope.treeOf) "title" d.value) with
      | none =>
          rw [hfind] at hask
          have hkind : p.target.kind = .link := by
            rw [htarget]
            rfl
          rw [bind_ok hask, ← hkind]
          rfl
      | some i =>
          rw [hfind] at hask
          have hholds := onDesk_ofExcept (τ := τ) (x := .ok _)
            (holds_anchor (j := σ.desk.journal) (List.mem_of_find?_eq_some hfind))
          rw [bind_ok hask]
          exact (bind_ok hholds _).trans rfl

/-- **Testing a title is exact.** Written as an expression, a title is a literal or a call of `concat` with at least two
literals; by itself it is read as an expression whose value is the title, and in the path to the anchors with this title
that same expression is compared with the attribute, and nothing else of the path changes. So the path keeps, of all
anchors, those that carry the title, and a link is resolved to the first of them. A title that no tree can hold is
refused. -/
theorem title_exact (title : String) :
    Writes (literal title).toList title.toList ∧
      (∃ e, parse (literal title) = .ok e ∧ (∀ t f, eval t e f = .ok (.text title)) ∧
        parse (anchorTitlePath title) = .ok (anchorsWith [.binary .equal titlePath e])) ∧
      (∀ t i, select t i "//a" = .ok (anchorRows t) ∧
        select t i (anchorTitlePath title) = .ok ((anchorRows t).filter (hasAttr t "title" title))) ∧
      ∀ (σ : Session State Node τ) (p : Processor) (d : Descriptor) (scope : Node),
        p.target = .element .link (some d) → d.variant = .title → d.value = title →
          outcomeOf (Session.resolve engine p (some scope) σ) =
            titleSearch (σ.desk.device.tree scope.treeOf) scope.treeOf d := by
  refine ⟨XPath.writes_literal title, ?_, fun t i => ⟨XPath.select_anchors t i, XPath.select_titled t i title⟩, ?_⟩
  · obtain ⟨e, hmeans, halone, hparse⟩ := XPath.parse_titled (XPath.writes_literal title)
    rw [String.ofList_toList] at halone
    rw [← XPath.anchorTitlePath_eq] at hparse
    have heval (t : Html.Tree) (f : XPath.Focus) : eval t e f = .ok (.text title) := by
      rw [hmeans.eval, String.ofList_toList]
    exact ⟨e, halone, heval, hparse⟩
  · intro σ p d scope htarget hvariant _
    rw [outcome_resolve, search_title scope htarget hvariant]
    cases titleSearch (σ.desk.device.tree scope.treeOf) scope.treeOf d <;> rfl

/-- A page whose second link has a title with both quotes. -/
def quotedLinks : Html.Tree :=
  [⟨0, .root⟩, ⟨1, .element "html" []⟩, ⟨2, .text none⟩, ⟨2, .element "body" []⟩, ⟨3, .text none⟩,
    ⟨3, .element "a" [("title", "it's x")]⟩, ⟨4, .text none⟩,
    ⟨3, .element "a" [("title", "it's \x22x\x22")]⟩, ⟨4, .text none⟩]

example : (Html.parse "<a title='it&#39;s x'></a><a title='it&#39;s &quot;x&quot;'></a>").toOption = some quotedLinks := by
  decide +kernel

/-- The engine after it has loaded this page from a. -/
def quotedLoaded : State := ⟨[], [], Client.start [], 1, #[⟨quotedLinks, some "a"⟩], 1⟩

/-- What looking up a link by its title in the body of this page ends with. -/
def titleOutcome (d : Descriptor) : Except Failure Node :=
  outcomeOf (Session.resolve engine ⟨0, .element .link (some d)⟩ (some (.element 0 3)) (Session.start quotedLoaded ()))

/-- The title with both quotes. -/
def bothQuotes : Descriptor := ⟨.title, "it's \x22x\x22", by decide⟩

example : literal bothQuotes.value = "concat(\x22it's \x22, '\x22', \x22x\x22, '\x22', \x22\x22)" := by decide

/-- The second link is the match for its title, and not the first one, whose title differs by the double quotes. -/
theorem title_exact_bothQuotes :
    select quotedLinks 3 (anchorTitlePath "it's \x22x\x22") = .ok [7] ∧ titleOutcome bothQuotes = .ok (.element 0 7) := by
  have hrows : (anchorRows quotedLinks).filter (hasAttr quotedLinks "title" "it's \x22x\x22") = [7] := by decide +kernel
  have hsearch : titleSearch quotedLinks 0 bothQuotes = .ok (.element 0 7) := by rfl
  obtain ⟨-, -, hselect, hresolve⟩ := title_exact (τ := Unit) "it's \x22x\x22"
  constructor
  · rw [(hselect quotedLinks 3).2, hrows]
  · exact (hresolve _ _ bothQuotes (.element 0 3) rfl rfl rfl).trans hsearch

/-- A title that no tree can hold. -/
def controlCharacter : Descriptor := ⟨.title, "\x01", by decide⟩

/-- No link has a control character for a title, but the look-up does not come to find none: it is refused. -/
theorem titleOutcome_controlCharacter :
    (anchorRows quotedLinks).any (hasAttr quotedLinks "title" "\x01") = false ∧
      titleOutcome controlCharacter = .error (.refused .notTreeText) := by
  constructor
  · decide +kernel
  · rfl

end Crawl.Static
