import Crawl.Proofs.Session.Table
import Crawl.Proofs.Session.Visits
/-!
# The first of all matches

A path can be resolved to one node by the table, and to all its matches without it. The two agree: they ask the same of
the engine, they are refused and fail together, and the one node is the first of all matches or none of them. What the
table adds is a look at the tag of that first match, and that the node is remembered.
-/

namespace Crawl

variable {δ ν τ α : Type}

open Crawl.Action (stateOf outcomeOf valueOf bind_ok bind_error ok_of_outcomeOf error_of_outcomeOf)
open Crawl.Engine (Reply)

/-! ## Kinds that are found by a path -/

/-- The kinds of element that are found by a path. -/
def pathKinds : List ElementKind := [.link, .image, .container, .area]

/-- The tag that a match of a kind must have, where it must have one. -/
def requiredTag : ElementKind → Option String
  | .link => some "a"
  | .image => some "img"
  | .area => some "area"
  | _ => none

/-- The rule for a kind that is found by a path. -/
def pathRule (kind : ElementKind) : Rule where
  query := .firstByPath
  root := .scope
  check := (requiredTag kind).map .tag
  expected := ((requiredTag kind).map fun tag => "<" ++ tag ++ ">").getD "element"

theorem find?_path {kind : ElementKind} (h : kind ∈ pathKinds) : Rule.find? kind .xpath = some (pathRule kind) := by
  simp only [pathKinds, List.mem_cons, List.not_mem_nil, or_false] at h
  rcases h with rfl | rfl | rfl | rfl <;> rfl

/-- What an engine answers to a path depends on nothing but the root and the path. -/
def Engine.FixedPaths (E : Engine δ ν) : Prop :=
  ∀ root path w w', outcomeOf (E.findByPath root path w) = outcomeOf (E.findByPath root path w')

namespace Session

/-- A processor that asks for a kind of element by a path. -/
structure ByPath (p : Processor) (kind : ElementKind) (d : Descriptor) : Prop where
  target : p.target = .element kind (some d)
  path_kind : kind ∈ pathKinds
  variant : d.variant = .xpath

variable {E : Engine δ ν} {p : Processor} {kind : ElementKind} {d : Descriptor} {n : ν} {s s' : Session δ ν τ}

namespace ByPath

theorem descriptor (h : ByPath p kind d) : p.target.descriptor = some d := by
  rw [h.target]
  rfl

theorem kind_eq (h : ByPath p kind d) : p.target.kind = kind := by
  rw [h.target]
  rfl

theorem ruled (h : ByPath p kind d) : Ruled p d (pathRule kind) where
  kind := by
    rw [h.kind_eq]
    rintro rfl
    exact absurd h.path_kind (by decide)
  descriptor := h.descriptor
  rule := by rw [h.kind_eq, h.variant, find?_path h.path_kind]

end ByPath

/-! ## Resolving to one node -/

/-- What a resolution comes to: a turn of its course, and what comes of that. -/
def Reaches (E : Engine δ ν) (p : Processor) (scope : Option ν) (s : Session δ ν τ) (turn : Turn ν ν) : Prop :=
  ∃ rs w, Table p (s.resolved p.serial) scope rs turn ∧ E.Answers s.desk.device rs w.device ∧
    turn.Yields E w (outcomeOf (resolve E p scope s))

theorem Reaches.outcome {scope : Option ν} {o : Except Failure ν} (h : Reaches E p scope s (.ended o)) :
    outcomeOf (resolve E p scope s) = o := by
  obtain ⟨_, _, -, -, hyields⟩ := h
  exact hyields

/-- Every resolution comes to some turn. -/
theorem resolve_reaches (E : Engine δ ν) (p : Processor) (scope : Option ν) (s : Session δ ν τ) :
    ∃ turn, Reaches E p scope s turn := by
  obtain ⟨rs, w, turn, hturn, hanswers, hends⟩ := takes_search (E := E) p scope s rfl
  refine ⟨turn, rs, w, hturn, hanswers, ?_⟩
  rw [outcome_resolve]
  exact hends.yields

/-- What comes of a node that is considered as a match. -/
inductive Verdict (E : Engine δ ν) (kind : ElementKind) (d : Descriptor) (node : ν) (w : Desk δ) :
    Except Failure ν → Prop
  | anyTag (h : requiredTag kind = none) : Verdict E kind d node w (.ok node)
  | fits {tag : String} {w' : Desk δ} (h : requiredTag kind = some tag) (hread : E.tagName node w = .ok tag w') :
    Verdict E kind d node w (.ok node)
  | differs {tag other told : String} {w' w'' : Desk δ} (h : requiredTag kind = some tag)
    (hread : E.tagName node w = .ok other w') (hne : other ≠ tag) (hagain : E.tagName node w' = .ok told w'') :
    Verdict E kind d node w (.error (.typeMismatch (.unexpected kind d told ("<" ++ tag ++ ">"))))
  | unread {tag : String} {f : Failure} {w' : Desk δ} (h : requiredTag kind = some tag)
    (hread : E.tagName node w = .error f w') : Verdict E kind d node w (.error f)
  | untold {tag other : String} {f : Failure} {w' w'' : Desk δ} (h : requiredTag kind = some tag)
    (hread : E.tagName node w = .ok other w') (hne : other ≠ tag) (hagain : E.tagName node w' = .error f w'') :
    Verdict E kind d node w (.error f)

/-- No other node is returned than the one that is considered. -/
theorem Verdict.eq {node node' : ν} {w : Desk δ} (h : Verdict E kind d node w (.ok node')) : node' = node := by
  cases h <;> rfl

theorem search_path (h : ByPath p kind d) (n : ν) : (search E p (some n) : Action (Session δ ν τ) ν) =
    (do judged E p d (pathRule kind) (← onDesk (E.findByPath n d.value)).head?) := by
  have hask : (onDesk ((pathRule kind).query.ask E n d.value) : Action (Session δ ν τ) (Option ν)) =
      onDesk (E.findByPath n d.value) >>= fun nodes => pure nodes.head? := onDesk_bind _ _
  have hroot : (searchRoot E p n (pathRule kind).root : Action (Session δ ν τ) ν) = pure n := rfl
  rw [search_ruled h.ruled, hroot, pure_bind, hask, bind_assoc]
  rfl

/-- The first match is considered, after the query. -/
theorem judged_verdict (h : ByPath p kind d) (m : ν) (s : Session δ ν τ) :
    Verdict E kind d m s.desk (outcomeOf (judged E p d (pathRule kind) (some m) s)) := by
  cases htag : requiredTag kind with
  | none =>
      have hcheck : (pathRule kind).check = none := by simp [pathRule, htag]
      unfold judged
      simp only [hcheck]
      exact .anyTag htag
  | some tag =>
      have hcheck : (pathRule kind).check = some (.tag tag) := by simp [pathRule, htag]
      have hexpected : (pathRule kind).expected = "<" ++ tag ++ ">" := by simp [pathRule, htag]
      unfold judged
      simp only [hcheck, hexpected, h.kind_eq]
      cases hread : E.tagName m s.desk with
      | error f w =>
          have hholds : (Check.tag tag).holds E m s.desk = .error f w := bind_error hread _
          rw [bind_error (run_onDesk_error hholds)]
          exact .unread htag hread
      | ok other w =>
          have hholds : (Check.tag tag).holds E m s.desk = .ok (other == tag) w := bind_ok hread _
          rw [bind_ok (run_onDesk_ok hholds)]
          by_cases heq : other = tag
          · subst heq
            rw [if_pos (beq_self_eq_true _)]
            exact .fits htag hread
          · -- The tag is asked for once more, for the message.
            rw [if_neg (by simpa using heq)]
            cases hagain : E.tagName m w with
            | error f w' =>
                rw [bind_error (run_onDesk_error (s := s.atDesk w) hagain)]
                exact .untold htag hread heq hagain
            | ok told w' =>
                rw [bind_ok (run_onDesk_ok (s := s.atDesk w) hagain)]
                exact .differs htag hread heq hagain

/-- The query of a path is one for its nodes, of which the first is judged. -/
theorem queryTable_path {js : List (Reply ν)} {turn : Turn ν ν} (nodes : List ν)
    (h : JudgedTable p d (pathRule kind) nodes.head? js turn) :
    QueryTable p d (pathRule kind) n (⟨.findByPath n d.value, nodes⟩ :: js) turn :=
  @QueryTable.answered ν p d (pathRule kind) n nodes js turn h

theorem QueryTable.path {rs : List (Reply ν)} {o : Except Failure ν}
    (h : QueryTable p d (pathRule kind) n rs (.ended o)) : ∃ nodes js, rs = ⟨.findByPath n d.value, nodes⟩ :: js ∧
      JudgedTable p d (pathRule kind) nodes.head? js (.ended o) := by
  cases h with
  | answered nodes hturn => exact ⟨nodes, _, rfl, hturn⟩

theorem resolve_query_error (h : ByPath p kind d) {f : Failure} {w : Desk δ}
    (hquery : E.findByPath n d.value s.desk = .error f w) :
    outcomeOf (resolve E p (some n) s) = .error f ∧ Reaches E p (some n) s (.ask (.findByPath n d.value)) := by
  have hfails : outcomeOf (resolve E p (some n) s) = .error f := by
    rw [outcome_resolve, search_path h, bind_error (run_onDesk_error hquery)]
    rfl
  have hturn : (RootTable (outsideForm p (s.resolved p.serial)) n (pathRule kind).root).Onward
      (QueryTable p d (pathRule kind)) ([] ++ []) (.ask (.findByPath n d.value)) := .next .scope .ask
  exact ⟨hfails, [], s.desk, .ruled h.ruled hturn, .silent _, f, w, hquery, hfails⟩

theorem resolve_query_nil (h : ByPath p kind d) {w : Desk δ} (hquery : E.findByPath n d.value s.desk = .ok [] w) :
    Reaches E p (some n) s (.ended (.error (.nodeNotFound (.noMatch kind d)))) := by
  have hfails : outcomeOf (resolve E p (some n) s) = .error (.nodeNotFound (.noMatch kind d)) := by
    rw [outcome_resolve, search_path h, bind_ok (run_onDesk_ok hquery), ← h.kind_eq]
    rfl
  have hturn : (RootTable (outsideForm p (s.resolved p.serial)) n (pathRule kind).root).Onward
      (QueryTable p d (pathRule kind)) ([] ++ _) _ := .next .scope (queryTable_path [] .noMatch)
  rw [h.kind_eq] at hturn
  exact ⟨_, w, .ruled h.ruled hturn, .one (c := .findByPath n d.value) hquery, hfails⟩

theorem resolve_query_cons (h : ByPath p kind d) {m : ν} {rest : List ν} {w : Desk δ}
    (hquery : E.findByPath n d.value s.desk = .ok (m :: rest) w) :
    Verdict E kind d m w (outcomeOf (resolve E p (some n) s)) := by
  rw [outcome_resolve, search_path h, bind_ok (run_onDesk_ok hquery)]
  exact judged_verdict h m (s.atDesk w)

/-- That there is no match is said only of an answer without nodes. -/
theorem JudgedTable.of_nodeNotFound {rule : Rule} {first : Option ν} {rs : List (Reply ν)} {r : NoNode}
    (h : JudgedTable p d rule first rs (.ended (.error (.nodeNotFound r)))) :
    first = none ∧ rs = [] ∧ r = .noMatch p.target.kind d := by
  cases h with
  | noMatch => exact ⟨rfl, rfl, rfl⟩
  | checked _ hturn =>
      cases hturn with
      | failed hcheck => cases hcheck
      | next _ hverdict => cases hverdict

/-- A resolution that ends with no match has had an empty answer. -/
theorem Reaches.nodeNotFound (h : ByPath p kind d) (hE : E.FixedPaths) {scope : Option ν} {r : NoNode}
    (hreach : Reaches E p scope s (.ended (.error (.nodeNotFound r)))) :
    ∃ n, scope = some n ∧ r = .noMatch kind d ∧ outcomeOf (E.findByPath n d.value s.desk) = .ok [] := by
  obtain ⟨rs, w, hturn, hanswers, -⟩ := hreach
  cases hturn with
  | page hkind hturn => exact absurd hkind h.ruled.kind
  | @ruled n d' rule rs _ hruled hturn =>
      obtain ⟨rfl, rfl⟩ := hruled.unique h.ruled
      cases hturn with
      | failed hroot =>
          have hscope : RootTable (outsideForm p (s.resolved p.serial)) n .scope _ _ := hroot
          cases hscope
      | next hroot hturn =>
          have hscope : RootTable (outsideForm p (s.resolved p.serial)) n .scope _ _ := hroot
          cases hscope
          obtain ⟨nodes, js, rfl, hjudged⟩ := hturn.path
          obtain ⟨hfirst, rfl, rfl⟩ := hjudged.of_nodeNotFound
          have hnil : nodes = [] := List.head?_eq_none_iff.mp hfirst
          subst hnil
          cases hanswers with
          | reply j first rest =>
              refine ⟨n, rfl, by rw [h.kind_eq], ?_⟩
              rw [hE n _ s.desk ⟨s.desk.device, j⟩]
              exact congrArg outcomeOf first

/-- A resolution that fails in its query fails as the engine does. -/
theorem Reaches.query (hE : E.FixedPaths) {scope : Option ν} {path : String}
    (hreach : Reaches E p scope s (.ask (.findByPath n path))) :
    ∃ f, outcomeOf (E.findByPath n path s.desk) = .error f ∧ outcomeOf (resolve E p scope s) = .error f := by
  obtain ⟨rs, w, -, -, f, w', hfail, hends⟩ := hreach
  refine ⟨f, ?_, hends⟩
  rw [hE n path s.desk w]
  exact congrArg outcomeOf hfail

/-! ## Resolving to all matches -/

/-- The matches are the answer to the query, whenever that is asked. -/
theorem outcome_resolveList (h : ByPath p kind d) (hE : E.FixedPaths) (n : ν) (s s' : Session δ ν τ) :
    outcomeOf (resolveList E p (some n) s') = outcomeOf (E.findByPath n d.value s.desk) := by
  rw [hE n d.value s.desk s'.desk]
  cases hquery : E.findByPath n d.value s'.desk with
  | ok nodes w =>
      obtain ⟨told, hlist, -, -⟩ := resolveList_ok h.descriptor h.variant (run_onDesk_ok hquery)
      rw [hlist]
      rfl
  | error f w =>
      rw [resolveList_ask h.descriptor h.variant, bind_error (run_onDesk_error hquery)]
      rfl

/-- How resolving to one node compares with resolving to all matches, each from a session of its own: all matches are
not had just where the one is not, for lack of a scope or since the query fails, and for the same reason; that there is
no match is what the one resolution says just where there are none, unless some call to the engine has failed with these
words; where there are matches, the first is considered; and only the one resolution remembers a node. -/
structure Agreement (E : Engine δ ν) (p : Processor) (kind : ElementKind) (d : Descriptor) (scope : Option ν)
    (s s' : Session δ ν τ) : Prop where
  fails (f : Failure) : outcomeOf (resolveList E p scope s') = .error f ↔
    outcomeOf (resolve E p scope s) = .error f ∧
      (scope = none ∨ ∃ n, scope = some n ∧ Reaches E p scope s (.ask (.findByPath n d.value)))
  misses (r : NoNode) : Reaches E p scope s (.ended (.error (.nodeNotFound r))) ↔
    outcomeOf (resolveList E p scope s') = .ok [] ∧ r = .noMatch kind d
  raises (r : NoNode) : outcomeOf (resolve E p scope s) = .error (.nodeNotFound r) →
    outcomeOf (resolveList E p scope s') = .ok [] ∨ ∃ c, Reaches E p scope s (.ask c)
  considers (m : ν) (rest : List ν) : outcomeOf (resolveList E p scope s') = .ok (m :: rest) →
    ∃ n w, scope = some n ∧ E.findByPath n d.value s.desk = .ok (m :: rest) w ∧
      Verdict E kind d m w (outcomeOf (resolve E p scope s))
  remembers : besidesDesk (stateOf (resolve E p scope s)) = afterwards p s (outcomeOf (resolve E p scope s))
  forgets : besidesDesk (stateOf (resolveList E p scope s')) = besidesDesk s'

/-- Without a scope, both are refused for the same reason. -/
theorem agreement_nowhere (h : ByPath p kind d) (hs : s.resolved p.serial = s'.resolved p.serial) :
    Agreement E p kind d none s s' := by
  have hone : outcomeOf (resolve E p none s) =
      .error (.typeMismatch (.needsScope (p.target.shown (s.resolved p.serial).isSome))) := by
    rw [outcome_resolve, search_unscoped h.ruled]
    rfl
  have hall : outcomeOf (resolveList E p none s') =
      .error (.typeMismatch (.needsScope (p.target.shown (s.resolved p.serial).isSome))) := by
    rw [hs, resolveList_nowhere h.descriptor h.variant]
    rfl
  refine ⟨fun f => ?_, fun r => ⟨fun hreach => ?_, fun hnil => ?_⟩, fun r hr => ?_, fun m rest hm => ?_,
    besidesDesk_resolve E p none s, atDesk_resolveList E p none s'⟩
  · rw [hone, hall]
    simp
  · have hends := hreach.outcome
    rw [hone] at hends
    cases hends
  · rw [hall] at hnil
    cases hnil.1
  · rw [hone] at hr
    cases hr
  · rw [hall] at hm
    cases hm

/-- In a scope, both stand and fall with the query. -/
theorem agreement_scope (h : ByPath p kind d) (hE : E.FixedPaths) (n : ν) (s s' : Session δ ν τ) :
    Agreement E p kind d (some n) s s' := by
  have hlist := outcome_resolveList h hE n s s'
  refine ⟨fun f => ⟨fun hf => ?_, ?_⟩, fun r => ⟨fun hreach => ?_, ?_⟩, fun r hr => ?_, fun m rest hm => ?_,
    besidesDesk_resolve E p (some n) s, atDesk_resolveList E p (some n) s'⟩
  · obtain ⟨w, hquery⟩ := error_of_outcomeOf (hlist.symm.trans hf)
    obtain ⟨hfails, hreach⟩ := resolve_query_error h hquery
    exact ⟨hfails, .inr ⟨n, rfl, hreach⟩⟩
  · rintro ⟨hf, hnone | ⟨n', hn', hreach⟩⟩
    · cases hnone
    · cases hn'
      obtain ⟨g, hquery, hg⟩ := hreach.query hE
      rw [hf] at hg
      cases hg
      exact hlist.trans hquery
  · obtain ⟨n', hn', hr, hquery⟩ := hreach.nodeNotFound h hE
    cases hn'
    exact ⟨hlist.trans hquery, hr⟩
  · rintro ⟨hnil, rfl⟩
    obtain ⟨w, hquery⟩ := ok_of_outcomeOf (hlist.symm.trans hnil)
    exact resolve_query_nil h hquery
  · -- The resolution says so itself, or some call to the engine does.
    obtain ⟨turn, hreach⟩ := resolve_reaches E p (some n) s
    cases turn with
    | ask c => exact .inr ⟨c, hreach⟩
    | ended o =>
        have ho := hreach.outcome
        rw [hr] at ho
        subst ho
        obtain ⟨n', hn', -, hquery⟩ := hreach.nodeNotFound h hE
        cases hn'
        exact .inl (hlist.trans hquery)
  · obtain ⟨w, hquery⟩ := ok_of_outcomeOf (hlist.symm.trans hm)
    exact ⟨n, w, rfl, hquery, resolve_query_cons h hquery⟩

/-- A node that a resolution returns is the first of all matches. -/
theorem first_of_resolve (h : ByPath p kind d) (hE : E.FixedPaths) {scope : Option ν} {m : ν}
    (hresolve : outcomeOf (resolve E p scope s) = .ok m) (s' : Session δ ν τ) :
    ∃ rest, outcomeOf (resolveList E p scope s') = .ok (m :: rest) := by
  cases scope with
  | none =>
      rw [outcome_resolve, search_unscoped h.ruled] at hresolve
      cases hresolve
  | some n =>
      rw [outcome_resolveList h hE n s s']
      cases hquery : E.findByPath n d.value s.desk with
      | error f w =>
          rw [(resolve_query_error h hquery).1] at hresolve
          cases hresolve
      | ok nodes w =>
          cases nodes with
          | nil =>
              rw [(resolve_query_nil h hquery).outcome] at hresolve
              cases hresolve
          | cons first rest =>
              have hverdict := resolve_query_cons h hquery
              rw [hresolve] at hverdict
              rw [hverdict.eq]
              exact ⟨rest, rfl⟩

/-! ## Running a block -/

variable [DecidableEq ν]

/-- How running a block for one match compares with running it for all matches: the match cannot be resolved, and no
block is run for it; or the block is run for the first of all matches, before the others, on the same nodes in scope. -/
inductive Blocks (E : Engine δ ν) (p : Processor) (block : Block δ ν τ α) (s s' : Session δ ν τ) : Prop
  | unresolved {f : Failure} {t : Session δ ν τ} (h : resolve E p s.frames.head? s = .error f t)
    (hrun : runScoped E p block s = .error f t) : Blocks E p block s s'
  | first {m : ν} {rest : List ν} {began began' : Session δ ν τ}
    (h : outcomeOf (resolve E p s.frames.head? s) = .ok m)
    (hall : outcomeOf (resolveList E p s'.frames.head? s') = .ok (m :: rest))
    (hframes : began.frames = m :: s.frames) (hframes' : began'.frames = m :: s.frames)
    (hrun : runScoped E p block s = Action.always (block m) (leave E m) began)
    (hrun' : runEach E p block s' = (do
      let value ← Action.always (block m) (leave E m)
      return value :: (← runOver E block rest)) began') : Blocks E p block s s'

theorem runScoped_ok (block : Block δ ν τ α) {m : ν} {t : Session δ ν τ}
    (h : resolve E p s.frames.head? s = .ok m t) : ∃ began : Session δ ν τ, began.frames = m :: s.frames ∧
      runScoped E p block s = Action.always (block m) (leave E m) began := by
  have hafter := besidesDesk_resolve E p s.frames.head? s
  rw [h] at hafter
  have hframes : t.frames = s.frames := congrArg (Session.frames (δ := Unit)) hafter
  obtain ⟨began, hpush, hbegan, -⟩ := pushFront_apart E m t
  refine ⟨began, hbegan.trans (by rw [hframes]), ?_⟩
  have hhere : resolveHere E p s = .ok m t := h
  rw [runScoped, bind_ok hhere, inScope, bind_ok hpush]

theorem runEach_cons (block : Block δ ν τ α) {m : ν} {rest : List ν}
    (h : outcomeOf (resolveList E p s.frames.head? s) = .ok (m :: rest)) :
    ∃ began : Session δ ν τ, began.frames = m :: s.frames ∧ runEach E p block s = (do
      let value ← Action.always (block m) (leave E m)
      return value :: (← runOver E block rest)) began := by
  obtain ⟨t, hlist⟩ := ok_of_outcomeOf h
  have hafter := atDesk_resolveList E p s.frames.head? s
  rw [hlist] at hafter
  have hframes : t.frames = s.frames := congrArg (Session.frames (δ := Unit)) hafter
  obtain ⟨began, hpush, hbegan, -⟩ := pushFront_apart E m t
  refine ⟨began, hbegan.trans (by rw [hframes]), ?_⟩
  have hfront : frontOrNone s = .ok s.frames.head? s := rfl
  rw [runEach, bind_ok hfront, bind_ok hlist, runOver, inScope, bind_assoc, bind_ok hpush]

theorem blocks (h : ByPath p kind d) (hE : E.FixedPaths) (hframes : s.frames = s'.frames) (block : Block δ ν τ α) :
    Blocks E p block s s' := by
  cases hresolve : resolve E p s.frames.head? s with
  | error f t =>
      have hhere : resolveHere E p s = .error f t := hresolve
      exact .unresolved hresolve (bind_error hhere _)
  | ok m t =>
      have hfirst : outcomeOf (resolve E p s.frames.head? s) = .ok m := congrArg outcomeOf hresolve
      obtain ⟨rest, hall⟩ := first_of_resolve h hE hfirst s'
      rw [hframes] at hall
      obtain ⟨began, hbegan, hrun⟩ := runScoped_ok block hresolve
      obtain ⟨began', hbegan', hrun'⟩ := runEach_cons block hall
      exact .first hfirst hall hbegan (hframes ▸ hbegan') hrun hrun'

/-- **One match is the first of all.** For every engine whose answers to a path depend on the root and the path alone,
every scope and every processor for a link, an image, a container or an area by path: resolving to all matches fails just
when resolving to one fails in the query or for lack of a scope, and with the same failure; the one is missed just when
there are no matches; and else the first match is considered and no other. Only the resolution to one node remembers it. A
block that is run for the one match is run as the first of the blocks for all, on the same nodes in scope. -/
theorem one_match_is_first (h : ByPath p kind d) (hE : E.FixedPaths) (s s' : Session δ ν τ) :
    (∀ scope, (scope = none → s.resolved p.serial = s'.resolved p.serial) → Agreement E p kind d scope s s') ∧
      ∀ block : Block δ ν τ α, s.frames = s'.frames → Blocks E p block s s' := by
  refine ⟨fun scope hs => ?_, fun block hframes => blocks h hE hframes block⟩
  cases scope with
  | none => exact agreement_nowhere h (hs rfl)
  | some n => exact agreement_scope h hE n s s'

/-! ## An engine that answers from a table -/

omit [DecidableEq ν] in
/-- Every engine that answers from a table answers a path in one way. -/
theorem fixedPaths_tabled (t : Tabled.Table) : (Tabled.engine t).FixedPaths := by
  intro root path w w'
  -- Both look the same question up, and what they have recorded by then is no part of the answer.
  show outcomeOf (t.findAll "find_by_path" root path w) = outcomeOf (t.findAll "find_by_path" root path w')
  unfold Tabled.Table.findAll Tabled.Table.answer
  generalize t.find.lookup ("find_by_path" ++ "|" ++ root ++ "|" ++ path) = found
  cases found with
  | none => rfl
  | some answer => cases answer <;> rfl

/-- A table with two links below a page. -/
def twoLinks : Engine (Array Tabled.Call) String :=
  Tabled.engine ⟨[("a", ⟨some "a", [], none, none, none⟩)], [], [("find_by_path|doc|//a", .nodes ["a", "b"])]⟩

/-- A session on this engine, with the page in scope. -/
def onTwoLinks : Session (Array Tabled.Call) String Unit := { Session.start #[] () with frames := ["doc"] }

theorem one_match_is_first_twoLinks :
    valueOf (resolve twoLinks allLinks (some "doc") onTwoLinks) = some "a" ∧
      Agreement twoLinks allLinks .link ⟨.xpath, "//a", by decide⟩ (some "doc") onTwoLinks
        (stateOf (resolve twoLinks allLinks (some "doc") onTwoLinks)) ∧
      Blocks twoLinks allLinks (fun n => pure n) onTwoLinks
        (stateOf (resolve twoLinks allLinks (some "doc") onTwoLinks)) := by
  have hpath : ByPath allLinks .link ⟨.xpath, "//a", by decide⟩ := ⟨rfl, by decide, rfl⟩
  obtain ⟨hagree, hblocks⟩ := one_match_is_first hpath (fixedPaths_tabled _) onTwoLinks
    (stateOf (resolve twoLinks allLinks (some "doc") onTwoLinks))
  exact ⟨by decide +kernel, hagree (some "doc") nofun, hblocks _ (by decide +kernel)⟩

end Session

end Crawl
