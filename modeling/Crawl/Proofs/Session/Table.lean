import Crawl.Proofs.Session.Conversation
import Crawl.Proofs.Session.Loads
/-!
# Resolution by the table

What resolving a processor asks the engine, and what it ends with, is fixed by a table: for each kind of element and
property a query, the root below which it searches, and a check of the match. `Table` tells what comes after which
replies, and leaves no choice (`Table.unique`). Refusals that need no engine come first, and in a fixed order; then the
root, one query, and the check. Resolving takes this course with every engine (`resolve_by_table`), and remembers a node
only where it ends with one.
-/

namespace Crawl

variable {δ ν τ α β : Type}

open Crawl.Action (stateOf outcomeOf bind_ok)
open Crawl.Engine (Reply Watched)

/-- The call by which a query is made under a root. -/
def Query.call (root : ν) (value : String) : Query → Engine.Call ν
  | identifier => .findByIdentifier root value
  | name => .findByName root value
  | firstByPath => .findByPath root value
  | anchorText => .findAnchorByText root value
  | anchorTitle => .findByPath root (anchorTitlePath value)

/-- The first node in the answer to a query. -/
def Query.first (root : ν) (value : String) : (q : Query) → (q.call root value).Answer → Option ν
  | identifier, found => found
  | name, found => found
  | firstByPath, nodes => List.head? nodes
  | anchorText, found => found
  | anchorTitle, nodes => List.head? nodes

/-- A question is one call of which the first node counts. -/
theorem Query.ask_eq (E : Engine δ ν) (root : ν) (value : String) (q : Query) :
    q.ask E root value = E.perform (q.call root value) >>= fun answer => pure (q.first root value answer) := by
  cases q with
  | identifier => exact (bind_pure _).symm
  | name => exact (bind_pure _).symm
  | firstByPath => rfl
  | anchorText => exact (bind_pure _).symm
  | anchorTitle => rfl

/-- What a check asks of an element with a tag: nothing more, or that its type is one of some. -/
inductive Demand
  | settled (passes : Bool)
  | oneOf (types : List String)

/-- What a check asks of an element with a tag. -/
def Check.demand (tag : String) : Check → Demand
  | textField =>
    if tag == "textarea" then .settled true
    else if tag == "input" then .oneOf textInputTypes
    else .settled false
  | submitControl =>
    if tag == "input" then .oneOf ["submit", "image"]
    else if tag == "button" then .oneOf ["", "submit"]
    else .settled false
  | Check.tag name => .settled (tag == name)

/-- A type as it is compared. -/
def plainType (type : Option String) : String := Text.lower (Text.strip (type.getD ""))

/-- A check asks for the tag, and then for the type where it demands one. -/
theorem Check.holds_demand (E : Engine δ ν) (node : ν) (check : Check) :
    check.holds E node = E.perform (.tagName node) >>= fun tag => match check.demand tag with
      | .settled passes => pure passes
      | .oneOf types => E.perform (.attr node "type") >>= fun type => pure (types.contains (plainType type)) := by
  have htype (types : List String) : (do return types.contains (← inputType E node) : Action (Desk δ) Bool) =
      E.perform (.attr node "type") >>= fun type => pure (types.contains (plainType type)) := by
    rw [inputType, bind_assoc]
    exact bind_congr fun type => pure_bind _ _
  cases check with
  | textField =>
      refine bind_congr fun tag => ?_
      rw [demand]
      cases tag == "textarea" with
      | true => rfl
      | false =>
          cases tag == "input" with
          | true => exact htype textInputTypes
          | false => rfl
  | submitControl =>
      refine bind_congr fun tag => ?_
      rw [demand]
      cases tag == "input" with
      | true => exact htype ["submit", "image"]
      | false =>
          cases tag == "button" with
          | true => exact htype ["", "submit"]
          | false => rfl
  | tag name => rfl

namespace Session

/-! ## The table -/

/-- What is asked for the root below which a rule searches. -/
inductive RootTable (outside : String → Failure) (scope : ν) : SearchRoot → Course ν ν
  | askOwner : RootTable outside scope .document [] (.ask (.ownerDocument scope))
  | owner (document : ν) : RootTable outside scope .document [⟨.ownerDocument scope, document⟩] (.ended (.ok document))
  | scope : RootTable outside scope .scope [] (.ended (.ok scope))
  | askForm : RootTable outside scope .form [] (.ask (.tagName scope))
  | form : RootTable outside scope .form [⟨.tagName scope, "form"⟩] (.ended (.ok scope))
  | noForm {tag : String} (h : tag ≠ "form") :
    RootTable outside scope .form [⟨.tagName scope, tag⟩] (.ended (.error (outside tag)))

/-- What is asked for a check of a node. -/
inductive CheckTable (node : ν) (check : Check) : Course ν Bool
  | askTag : CheckTable node check [] (.ask (.tagName node))
  | settled {tag : String} {passes : Bool} (h : check.demand tag = .settled passes) :
    CheckTable node check [⟨.tagName node, tag⟩] (.ended (.ok passes))
  | askType {tag : String} {types : List String} (h : check.demand tag = .oneOf types) :
    CheckTable node check [⟨.tagName node, tag⟩] (.ask (.attr node "type"))
  | typed {tag : String} {types : List String} (h : check.demand tag = .oneOf types) (type : Option String) :
    CheckTable node check [⟨.tagName node, tag⟩, ⟨.attr node "type", type⟩]
      (.ended (.ok (types.contains (plainType type))))

/-- The refusal of a scope that is no form. -/
def outsideForm (p : Processor) (last : Option ν) (tag : String) : Failure :=
  .typeMismatch (.outsideForm (p.target.shown last.isSome) tag)

/-- The table has a rule for what a processor asks for. -/
structure Ruled (p : Processor) (d : Descriptor) (rule : Rule) : Prop where
  kind : p.target.kind ≠ .page
  descriptor : p.target.descriptor = some d
  rule : Rule.find? p.target.kind d.variant = some rule

/-- What is asked for a page. -/
inductive PageTable (p : Processor) (last : Option ν) : Course ν ν
  | descriptor {d : Descriptor} (hd : p.target.descriptor = some d) :
    PageTable p last [] (.ended (.error (.unsupportedDescriptor p.target.kind.word (some d.variant.word))))
  | load {url : String} (hd : p.target.descriptor = none) (h : p.target.address? = some url) :
    PageTable p last [] (.ask (.loadDocument url))
  | loaded {url : String} (hd : p.target.descriptor = none) (h : p.target.address? = some url) (document : ν) :
    PageTable p last [⟨.loadDocument url, document⟩] (.ended (.ok document))
  | carried {document : ν} (hd : p.target.descriptor = none) (h : p.target.address? = none)
    (hlast : last = some document) : PageTable p last [] (.ended (.ok document))
  | nowhere (hd : p.target.descriptor = none) (h : p.target.address? = none) (hlast : last = none) :
    PageTable p last [] (.ended (.error (.navigation .noAddress)))

/-- What comes of a check of a node: the node, or a refusal with its tag. -/
inductive VerdictTable (p : Processor) (d : Descriptor) (rule : Rule) (node : ν) : Bool → Course ν ν
  | accepted : VerdictTable p d rule node true [] (.ended (.ok node))
  | askTag : VerdictTable p d rule node false [] (.ask (.tagName node))
  | rejected (tag : String) : VerdictTable p d rule node false [⟨.tagName node, tag⟩]
      (.ended (.error (.typeMismatch (.unexpected p.target.kind d tag rule.expected))))

/-- What is made of the first node in the answer to the query. -/
inductive JudgedTable (p : Processor) (d : Descriptor) (rule : Rule) : Option ν → Course ν ν
  | noMatch : JudgedTable p d rule none [] (.ended (.error (.nodeNotFound (.noMatch p.target.kind d))))
  | unchecked {node : ν} (hcheck : rule.check = none) : JudgedTable p d rule (some node) [] (.ended (.ok node))
  | checked {node : ν} {check : Check} {rs : List (Reply ν)} {turn : Turn ν ν} (hcheck : rule.check = some check)
    (hturn : (CheckTable node check).Onward (VerdictTable p d rule node) rs turn) :
    JudgedTable p d rule (some node) rs turn

/-- What is asked below a root: one query, and then what is made of its answer. -/
inductive QueryTable (p : Processor) (d : Descriptor) (rule : Rule) (root : ν) : Course ν ν
  | ask : QueryTable p d rule root [] (.ask (rule.query.call root d.value))
  | answered (answer : (rule.query.call root d.value).Answer) {rs : List (Reply ν)} {turn : Turn ν ν}
    (hturn : JudgedTable p d rule (rule.query.first root d.value answer) rs turn) :
    QueryTable p d rule root (⟨rule.query.call root d.value, answer⟩ :: rs) turn

/-- The course of a resolution: what is asked, in a scope or without one, for a processor that last resolved to some node
or to none. -/
inductive Table (p : Processor) (last : Option ν) : Option ν → Course ν ν
  | page {scope : Option ν} {rs : List (Reply ν)} {turn : Turn ν ν} (hkind : p.target.kind = .page)
    (hturn : PageTable p last rs turn) : Table p last scope rs turn
  | noDescriptor {scope : Option ν} (hkind : p.target.kind ≠ .page) (hd : p.target.descriptor = none) :
    Table p last scope [] (.ended (.error (.unsupportedDescriptor p.target.kind.word none)))
  | noRule {scope : Option ν} {d : Descriptor} (hkind : p.target.kind ≠ .page) (hd : p.target.descriptor = some d)
    (h : Rule.find? p.target.kind d.variant = none) :
    Table p last scope [] (.ended (.error (.unsupportedDescriptor p.target.kind.word (some d.variant.word))))
  | noScope {d : Descriptor} {rule : Rule} (h : Ruled p d rule) :
    Table p last none [] (.ended (.error (.typeMismatch (.needsScope (p.target.shown last.isSome)))))
  | ruled {scope : ν} {d : Descriptor} {rule : Rule} {rs : List (Reply ν)} {turn : Turn ν ν} (h : Ruled p d rule)
    (hturn : (RootTable (outsideForm p last) scope rule.root).Onward (QueryTable p d rule) rs turn) :
    Table p last (some scope) rs turn

/-! ## Taking the course -/

variable {E : Engine δ ν} {memory : Nat → Option ν} {p : Processor}

theorem takes_searchRoot (scope : ν) (root : SearchRoot) :
    Takes E memory (searchRoot E p scope root : Action (Session δ ν τ) ν)
      (RootTable (outsideForm p (memory p.serial)) scope root) := by
  cases root with
  | document => exact .call (c := .ownerDocument scope) .askOwner .owner
  | scope => exact .pure .scope
  | form =>
      refine .ask (c := .tagName scope) .askForm fun tag => ?_
      split
      · next h =>
          subst h
          exact .pure .form
      · next h => exact .shown (.throw (.noForm h))

theorem takes_check (node : ν) (check : Check) :
    Takes E memory (onDesk (check.holds E node) : Action (Session δ ν τ) Bool) (CheckTable node check) := by
  rw [Check.holds_demand, onDesk_bind]
  refine .ask (c := .tagName node) .askTag fun tag => ?_
  cases hdemand : check.demand tag with
  | settled passes => exact .pure (.settled hdemand)
  | oneOf types =>
      rw [onDesk_bind]
      exact .ask (c := .attr node "type") (.askType hdemand) fun type => .pure (.typed hdemand type)

/-- What is made of the first node in the answer to the query. -/
def judged (E : Engine δ ν) (p : Processor) (d : Descriptor) (rule : Rule) : Option ν → Action (Session δ ν τ) ν
  | none => throw (.nodeNotFound (.noMatch p.target.kind d))
  | some node =>
    match rule.check with
    | none => return node
    | some check => do
      if ← onDesk (check.holds E node) then return node
      else throw (.typeMismatch (.unexpected p.target.kind d (← onDesk (E.tagName node)) rule.expected))

theorem Ruled.forTarget {d : Descriptor} {rule : Rule} (h : Ruled p d rule) : Rule.forTarget p.target = .ok (d, rule) := by
  have hrule := h.rule
  unfold Rule.forTarget
  rw [h.descriptor]
  simp only [hrule]

/-- Once the table has a rule, the search in a scope is one by that rule. -/
theorem search_ruled {d : Descriptor} {rule : Rule} (h : Ruled p d rule) (E : Engine δ ν) (scope : ν) :
    (search E p (some scope) : Action (Session δ ν τ) ν) = (do
      let root ← searchRoot E p scope rule.root
      judged E p d rule (← onDesk (rule.query.ask E root d.value))) := by
  funext s
  have hrule : (Action.ofExcept (Rule.forTarget p.target) : Action (Session δ ν τ) _) s = .ok (d, rule) s := by
    rw [h.forTarget]
    rfl
  rw [search, if_neg h.kind, resolveElement, bind_ok hrule]
  rfl

/-- A rule needs a scope. -/
theorem search_unscoped {d : Descriptor} {rule : Rule} (h : Ruled p d rule) (E : Engine δ ν) (s : Session δ ν τ) :
    search E p none s = .error (.typeMismatch (.needsScope (p.target.shown (s.resolved p.serial).isSome))) s := by
  have hrule : (Action.ofExcept (Rule.forTarget p.target) : Action (Session δ ν τ) _) s = .ok (d, rule) s := by
    rw [h.forTarget]
    rfl
  rw [search, if_neg h.kind, resolveElement, bind_ok hrule]
  rfl

theorem takes_verdict (d : Descriptor) (rule : Rule) (node : ν) (holds : Bool) :
    Takes E memory (do
      if holds then return node
      else throw (.typeMismatch (.unexpected p.target.kind d (← onDesk (E.tagName node)) rule.expected)) :
        Action (Session δ ν τ) ν) (VerdictTable p d rule node holds) := by
  cases holds with
  | true => exact .pure .accepted
  | false => exact .ask (c := .tagName node) .askTag fun tag => .throw (.rejected tag)

/-- After the query comes the check. -/
theorem takes_judged (d : Descriptor) (rule : Rule) (first : Option ν) :
    Takes E memory (judged E p d rule first : Action (Session δ ν τ) ν) (JudgedTable p d rule first) := by
  cases first with
  | none => exact .throw .noMatch
  | some node =>
      unfold judged
      cases hcheck : rule.check with
      | none => exact .pure (.unchecked hcheck)
      | some check =>
          exact .mono (.bind (takes_check node check) (takes_verdict d rule node)) fun rs turn => .checked hcheck

/-- Below the root comes one query. -/
theorem takes_query (d : Descriptor) (rule : Rule) (root : ν) :
    Takes E memory (do judged E p d rule (← onDesk (rule.query.ask E root d.value)) : Action (Session δ ν τ) ν)
      (QueryTable p d rule root) := by
  rw [Query.ask_eq, onDesk_bind, bind_assoc]
  refine .ask .ask fun answer => ?_
  exact (takes_judged d rule _).mono fun rs turn => .answered answer

/-- Once the table has a rule and there is a scope, the root comes first, and then what is asked below it. -/
theorem takes_rule (d : Descriptor) (rule : Rule) (scope : ν) :
    Takes E memory (do
      let root ← searchRoot E p scope rule.root
      judged E p d rule (← onDesk (rule.query.ask E root d.value)) : Action (Session δ ν τ) ν)
      ((RootTable (outsideForm p (memory p.serial)) scope rule.root).Onward (QueryTable p d rule)) :=
  .bind (takes_searchRoot scope rule.root) (takes_query d rule)

theorem takes_resolveElement (hkind : p.target.kind ≠ .page) (scope : Option ν) :
    Takes E memory (resolveElement E p scope : Action (Session δ ν τ) ν) (Table p (memory p.serial) scope) := by
  unfold resolveElement Rule.forTarget
  cases hd : p.target.descriptor with
  | none => exact .throw (.noDescriptor hkind hd)
  | some d =>
      dsimp only
      cases hrule : Rule.find? p.target.kind d.variant with
      | none => exact .throw (.noRule hkind hd hrule)
      | some rule =>
          have h : Ruled p d rule := ⟨hkind, hd, hrule⟩
          cases scope with
          | none =>
              show Takes E memory (shown p >>= fun text => throw (.typeMismatch (.needsScope text))) _
              exact .shown (.throw (.noScope h))
          | some scope =>
              exact (takes_rule d rule scope).mono fun rs turn => .ruled h

/-- Without an address, a page is the document at hand. -/
theorem takes_carried (hd : p.target.descriptor = none) (haddress : p.target.address? = none) :
    Takes E memory (do
      match ← lastNode p with
      | some node => return node
      | none => throw (.navigation .noAddress) : Action (Session δ ν τ) ν) (PageTable p (memory p.serial)) := by
  refine .lastNode ?_
  cases hlast : memory p.serial with
  | none => exact .throw (.nowhere hd haddress rfl)
  | some node => exact .pure (.carried hd haddress rfl)

theorem takes_resolvePage (p : Processor) :
    Takes E memory (resolvePage E p : Action (Session δ ν τ) ν) (PageTable p (memory p.serial)) := by
  obtain ⟨serial, target⟩ := p
  unfold resolvePage
  cases target with
  | element kind d =>
      cases d with
      | none => exact takes_carried rfl rfl
      | some d => exact .throw (.descriptor rfl)
  | page url =>
      cases url with
      | none => exact takes_carried rfl rfl
      | some url =>
          dsimp only
          by_cases hurl : url = ""
          · rw [if_neg (not_not_intro hurl)]
            have haddress : (Target.page (some url)).address? = none := if_pos hurl
            exact takes_carried (p := ⟨serial, .page (some url)⟩) rfl haddress
          · rw [if_pos hurl]
            have haddress : (Target.page (some url)).address? = some url := if_neg hurl
            exact .call (c := .loadDocument url) (.load rfl haddress) (.loaded rfl haddress)

theorem takes_search (p : Processor) (scope : Option ν) :
    Takes E memory (search E p scope : Action (Session δ ν τ) ν) (Table p (memory p.serial) scope) := by
  unfold search
  split
  · next hkind => exact (takes_resolvePage p).mono fun rs turn => .page hkind
  · next hkind => exact takes_resolveElement hkind scope

/-! ## One turn after some replies -/

theorem definite_root (outside : String → Failure) (scope : ν) (root : SearchRoot) :
    (RootTable outside scope root).Definite where
  turn h h' := by
    cases h <;> cases h'
    all_goals first
      | rfl
      | contradiction
  stops h h' := by
    cases h <;> cases h'
    all_goals rfl

theorem PageTable.unique {last : Option ν} {rs : List (Reply ν)} {turn turn' : Turn ν ν} (h : PageTable p last rs turn)
    (h' : PageTable p last rs turn') : turn = turn' := by
  -- The rows differ in what the target is and in what is carried.
  cases h <;> cases h'
  all_goals simp_all

theorem definite_check (node : ν) (check : Check) : (CheckTable node check).Definite where
  turn h h' := by
    -- What is demanded of a tag is one thing.
    cases h <;> cases h'
    all_goals simp_all
  stops h h' := by
    cases h <;> cases h'
    all_goals simp_all

theorem definite_verdict (d : Descriptor) (rule : Rule) (node : ν) (holds : Bool) :
    (VerdictTable p d rule node holds).Definite where
  turn h h' := by
    cases h <;> cases h'
    all_goals rfl
  stops h h' := by
    cases h <;> cases h'
    all_goals rfl

theorem JudgedTable.of_unchecked {d : Descriptor} {rule : Rule} {node : ν} {rs : List (Reply ν)} {turn : Turn ν ν}
    (h : JudgedTable p d rule (some node) rs turn) (hcheck : rule.check = none) : rs = [] ∧ turn = .ended (.ok node) := by
  cases h with
  | unchecked _ => exact ⟨rfl, rfl⟩
  | checked hcheck' _ => cases hcheck.symm.trans hcheck'

theorem JudgedTable.of_checked {d : Descriptor} {rule : Rule} {node : ν} {check : Check} {rs : List (Reply ν)}
    {turn : Turn ν ν} (h : JudgedTable p d rule (some node) rs turn) (hcheck : rule.check = some check) :
    (CheckTable node check).Onward (VerdictTable p d rule node) rs turn := by
  cases h with
  | unchecked hcheck' => cases hcheck.symm.trans hcheck'
  | checked hcheck' hturn =>
      cases hcheck.symm.trans hcheck'
      exact hturn

theorem definite_judged (d : Descriptor) (rule : Rule) (first : Option ν) : (JudgedTable p d rule first).Definite := by
  have hchecked (node : ν) (check : Check) := (definite_check node check).onward (definite_verdict (p := p) d rule node)
  constructor
  · intro rs turn turn' h h'
    cases h with
    | noMatch =>
        cases h'
        rfl
    | unchecked hcheck => exact (h'.of_unchecked hcheck).2.symm
    | checked hcheck hturn => exact (hchecked _ _).turn hturn (h'.of_checked hcheck)
  · intro rs js o turn h h'
    cases h with
    | noMatch =>
        cases h'
        rfl
    | unchecked hcheck => exact (h'.of_unchecked hcheck).1
    | checked hcheck hturn => exact (hchecked _ _).stops hturn (h'.of_checked hcheck)

theorem definite_query (d : Descriptor) (rule : Rule) (root : ν) : (QueryTable p d rule root).Definite where
  turn h h' := by
    cases h with
    | ask =>
        cases h'
        rfl
    | answered answer hturn =>
        cases h' with
        | answered _ hturn' => exact (definite_judged d rule _).turn hturn hturn'
  stops h h' := by
    cases h with
    | answered answer hturn =>
        cases h' with
        | answered _ hturn' => exact (definite_judged d rule _).stops hturn hturn'

theorem Ruled.unique {d d' : Descriptor} {rule rule' : Rule} (h : Ruled p d rule) (h' : Ruled p d' rule') :
    d = d' ∧ rule = rule' := by
  have hd := h.descriptor.symm.trans h'.descriptor
  cases hd
  have hrule := h.rule.symm.trans h'.rule
  cases hrule
  exact ⟨rfl, rfl⟩

theorem Ruled.find_ne_none {d d' : Descriptor} {rule : Rule} (h : Ruled p d rule) (hd : p.target.descriptor = some d') :
    Rule.find? p.target.kind d'.variant ≠ none := by
  cases h.descriptor.symm.trans hd
  rw [h.rule]
  exact Option.some_ne_none rule

/-- **The table leaves no choice**: after some replies there is one turn. -/
theorem Table.unique {last scope : Option ν} {rs : List (Reply ν)} {turn turn' : Turn ν ν}
    (h : Table p last scope rs turn) (h' : Table p last scope rs turn') : turn = turn' := by
  cases h with
  | page hkind hturn =>
      cases h' with
      | page _ hturn' => exact hturn.unique hturn'
      | noDescriptor hne _ => exact absurd hkind hne
      | noRule hne _ _ => exact absurd hkind hne
      | noScope h' => exact absurd hkind h'.kind
      | ruled h' _ => exact absurd hkind h'.kind
  | noDescriptor hkind hd =>
      cases h' with
      | page hpage _ => exact absurd hpage hkind
      | noDescriptor _ _ => rfl
      | noRule _ hd' _ => cases hd.symm.trans hd'
      | noScope h' => cases hd.symm.trans h'.descriptor
      | ruled h' _ => cases hd.symm.trans h'.descriptor
  | noRule hkind hd hnone =>
      cases h' with
      | page hpage _ => exact absurd hpage hkind
      | noDescriptor _ hd' => cases hd.symm.trans hd'
      | noRule _ hd' _ =>
          cases hd.symm.trans hd'
          rfl
      | noScope h' => exact absurd hnone (h'.find_ne_none hd)
      | ruled h' _ => exact absurd hnone (h'.find_ne_none hd)
  | noScope h =>
      cases h' with
      | page hpage _ => exact absurd hpage h.kind
      | noDescriptor _ hd' => cases h.descriptor.symm.trans hd'
      | noRule _ hd' hnone => exact absurd hnone (h.find_ne_none hd')
      | noScope _ => rfl
  | ruled h hturn =>
      cases h' with
      | page hpage _ => exact absurd hpage h.kind
      | noDescriptor _ hd' => cases h.descriptor.symm.trans hd'
      | noRule _ hd' hnone => exact absurd hnone (h.find_ne_none hd')
      | ruled h' hturn' =>
          obtain ⟨rfl, rfl⟩ := h.unique h'
          exact ((definite_root _ _ _).onward (definite_query _ _)).turn hturn hturn'

/-! ## Queries -/

/-- Whether a call is a query. -/
def isQuery : Engine.Call ν → Bool
  | .findByIdentifier .. => true
  | .findByName .. => true
  | .findByPath .. => true
  | .findAnchorByText .. => true
  | _ => false

theorem isQuery_call (root : ν) (value : String) (q : Query) : isQuery (q.call root value) = true := by
  cases q <;> rfl

/-- At no turn of a course have more queries been made than some number. -/
def AtMost (n : Nat) (course : Course ν α) : Prop := ∀ rs turn, course rs turn → (made rs turn).countP isQuery ≤ n

theorem AtMost.onward {m n : Nat} {first : Course ν α} {next : α → Course ν β} (hfirst : AtMost m first)
    (hnext : ∀ a, AtMost n (next a)) : AtMost (m + n) (first.Onward next) := by
  intro rs turn h
  cases h with
  | ask h =>
      have hle := hfirst _ _ h
      rw [made_ask] at hle ⊢
      omega
  | failed h =>
      have hle := hfirst _ _ h
      rw [made_ended] at hle ⊢
      omega
  | next h hturn =>
      have hle := hfirst _ _ h
      have hle' := hnext _ _ _ hturn
      rw [made_ended] at hle
      rw [made_append, List.countP_append]
      omega

theorem atMost_page (p : Processor) (last : Option ν) : AtMost 0 (PageTable p last) := by
  intro rs turn h
  cases h <;> exact Nat.le_refl 0

theorem atMost_root (outside : String → Failure) (scope : ν) (root : SearchRoot) :
    AtMost 0 (RootTable outside scope root) := by
  intro rs turn h
  cases h <;> exact Nat.le_refl 0

theorem atMost_check (node : ν) (check : Check) : AtMost 0 (CheckTable node check) := by
  intro rs turn h
  cases h <;> exact Nat.le_refl 0

theorem atMost_judged (d : Descriptor) (rule : Rule) (first : Option ν) : AtMost 0 (JudgedTable p d rule first) := by
  have hverdict (node : ν) (holds : Bool) : AtMost 0 (VerdictTable p d rule node holds) := by
    intro rs turn h
    cases h <;> exact Nat.le_refl 0
  intro rs turn h
  cases h with
  | noMatch => exact Nat.le_refl 0
  | unchecked _ => exact Nat.le_refl 0
  | checked _ hturn => exact (atMost_check _ _).onward (hverdict _) _ _ hturn

theorem atMost_query (d : Descriptor) (rule : Rule) (root : ν) : AtMost 1 (QueryTable p d rule root) := by
  intro rs turn h
  cases h with
  | ask => exact List.countP_le_length
  | answered answer hturn =>
      have hle := atMost_judged _ _ _ _ _ hturn
      rw [made_cons, List.countP_cons_of_pos (isQuery_call _ _ _)]
      omega

/-- No resolution makes more than one query. -/
theorem atMost_table (p : Processor) (last scope : Option ν) : AtMost 1 (Table p last scope) := by
  intro rs turn h
  cases h with
  | page _ hturn => exact Nat.le_succ_of_le (atMost_page p last _ _ hturn)
  | ruled _ hturn => exact (atMost_root _ _ _).onward (atMost_query _ _) _ _ hturn
  | _ => exact Nat.zero_le _

/-! ## Resolving -/

/-- A resolution asks nothing after its search. -/
theorem device_resolve (E : Engine δ ν) (p : Processor) (scope : Option ν) (s : Session δ ν τ) :
    (stateOf (resolve E p scope s)).desk.device = (stateOf (search E p scope s)).desk.device := by
  cases h : search E p scope s with
  | error f s' => rw [resolve_error h]
  | ok node s' =>
      rw [resolve_ok h]
      rfl

/-- A session after a resolution that came to nothing, or to a node. -/
def afterwards (p : Processor) (s : Session δ ν τ) : Except Failure ν → Session Unit ν τ
  | .error _ => besidesDesk s
  | .ok node => besidesDesk { s with resolved := withNode p.serial node s.resolved }

/-- Resolving remembers the node that a processor has resolved to, and changes nothing else beside the desk. -/
theorem besidesDesk_resolve (E : Engine δ ν) (p : Processor) (scope : Option ν) (s : Session δ ν τ) :
    besidesDesk (stateOf (resolve E p scope s)) = afterwards p s (outcomeOf (resolve E p scope s)) := by
  have hsearch := atDesk_search E p scope s
  cases h : search E p scope s with
  | error f s' =>
      rw [resolve_error h]
      rw [h] at hsearch
      exact hsearch
  | ok node s' =>
      rw [resolve_ok h]
      rw [h] at hsearch
      exact congrArg (fun t : Session Unit ν τ => { t with resolved := withNode p.serial node t.resolved }) hsearch

/-- A resolution follows the table: it has had some replies and come to a turn, which is the only one after them; it has
made the calls of this conversation and no others, at most one of them a query; it ends as the table says there, or with
the failure of the call that it was at; and nothing changes beside the desk but what is remembered of a processor that
has resolved to a node. -/
structure Follows (E : Engine δ ν) (p : Processor) (scope : Option ν) (s : Session (Watched δ ν) ν τ)
    (rs : List (Reply ν)) (d : Desk (Watched δ ν)) (turn : Turn ν ν) : Prop where
  table : Table p (s.resolved p.serial) scope rs turn
  only : ∀ turn', Table p (s.resolved p.serial) scope rs turn' → turn' = turn
  answers : E.watched.Answers s.desk.device rs d.device
  calls : (stateOf (resolve E.watched p scope s)).desk.device.calls = s.desk.device.calls ++ made rs turn
  queries : (made rs turn).countP isQuery ≤ 1
  outcome : turn.Yields E.watched d (outcomeOf (resolve E.watched p scope s))
  besides : besidesDesk (stateOf (resolve E.watched p scope s)) = afterwards p s (outcomeOf (resolve E.watched p scope s))

/-- **Every resolution follows the table**, with every engine, whatever it answers and whichever call of it fails. -/
theorem resolve_by_table (E : Engine δ ν) (p : Processor) (scope : Option ν) (s : Session (Watched δ ν) ν τ) :
    ∃ rs d turn, Follows E p scope s rs d turn := by
  obtain ⟨rs, d, turn, hturn, hanswers, hends⟩ := takes_search (E := E.watched) p scope s rfl
  have hcalls : (stateOf (resolve E.watched p scope s)).desk.device.calls = s.desk.device.calls ++ made rs turn := by
    rw [device_resolve, hends.calls, calls_answers hanswers, List.append_assoc, made]
  have houtcome : turn.Yields E.watched d (outcomeOf (resolve E.watched p scope s)) := by
    rw [outcome_resolve]
    exact hends.yields
  exact ⟨rs, d, turn, hturn, fun _ h => h.unique hturn, hanswers, hcalls, atMost_table p _ scope rs turn hturn, houtcome,
    besidesDesk_resolve E.watched p scope s⟩

end Session

end Crawl
