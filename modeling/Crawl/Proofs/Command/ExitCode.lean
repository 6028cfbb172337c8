import Crawl.Command.Invocation
import Crawl.Proofs.Command.BrowserEscapes
import Crawl.Proofs.Command.StaticEscapes
/-!
# How the command ends

The command turns failures of the crawl into an exit code and lets every other failure through. Which other failures
there are is known from what surrounds the command and from its arguments: the word for the verbosity may be one of the
two that are refused, the timeout may be too large for the client, and each engine has its own escapes. When there is
none of them the command ends with an exit code.
-/

namespace Crawl.Command

open Crawl.Action (failureOf)

variable {w : Surroundings} {a : Arguments} {c : Config} {f : Failure}

/-- The failures, other than the crawl's own, that leave a crawl with some configuration. -/
inductive Escapes (w : Surroundings) (a : Arguments) (c : Config) (f : Failure) : Prop
  | timeout (engine : c.engine = .static) (fault : Static.timeoutOf c.timeoutMs = .error f)
  | static {s : Static.State} (engine : c.engine = .static)
      (start : Static.State.start w.pages w.files w.replies c.userAgent c.timeoutMs = .ok s)
      (escape : StaticEscape s a.url a.xpath a.attrs f)
  | browser (engine : c.engine = .playwright)
      (escape : BrowserEscape (Browser.Options.ofConfig c) w.world w.incident a.url a.xpath a.attrs f)

theorem failure_ofResult {δ ν : Type} (device : δ → Device) (r : EStateM.Result Failure (Session δ ν Output) Unit) :
    (Crawled.ofResult device r).failure = failureOf r := by
  cases r <;> rfl

/-- A crawl in a browser is a listing on a new one. -/
theorem crawl_playwright (a : Arguments) (hengine : c.engine = .playwright) :
    crawl w c a = .ofResult .browser (list Browser.engine a.url a.xpath a.attrs
      (Session.start (.start (.ofConfig c) w.world w.incident) [])) := by
  unfold crawl
  rw [hengine]

theorem timeoutOf_fails {ms : Int} (h : Static.timeoutOf ms = .error f) : f = .tooLarge := by
  unfold Static.timeoutOf at h
  dsimp only at h
  split at h
  · cases h
    rfl
  · cases h

/-- Nothing that escapes is a failure of the crawl itself. -/
theorem Escapes.not_isCrawl (h : Escapes w a c f) : f.isCrawl = false := by
  cases h with
  | timeout _ fault =>
      rw [timeoutOf_fails fault]
      rfl
  | static _ _ escape => exact escape.not_isCrawl
  | browser _ escape => exact escape.not_isCrawl

/-- The client's timeout is all that a new static engine can fail with. -/
theorem start_fails_iff {pages : List (String × String)} {files : Static.Files} {replies : List Static.Reply}
    {agent : Option String} {ms : Int} :
    Static.State.start pages files replies agent ms = .error f ↔ Static.timeoutOf ms = .error f := by
  unfold Static.State.start
  cases Static.timeoutOf ms with
  | error g =>
      constructor
      · intro h
        cases h
        rfl
      · intro h
        cases h
        rfl
  | ok seconds =>
      constructor
      · intro h
        cases h
      · intro h
        cases h

theorem crawl_escape_iff (hf : f.isCrawl = false) : (crawl w c a).failure = some f ↔ Escapes w a c f := by
  unfold crawl
  cases hengine : c.engine with
  | static =>
      dsimp only
      cases hstart : Static.State.start w.pages w.files w.replies c.userAgent c.timeoutMs with
      | error g =>
          constructor
          · intro h
            cases h
            exact .timeout hengine (start_fails_iff.mp hstart)
          · intro h
            cases h with
            | timeout _ fault =>
                cases hstart.symm.trans (start_fails_iff.mpr fault)
                rfl
            | static _ start _ => cases hstart.symm.trans start
            | browser engine _ => cases hengine.symm.trans engine
      | ok s =>
          rw [failure_ofResult, static_escape_iff hf]
          constructor
          · intro h
            exact .static hengine hstart h
          · intro h
            cases h with
            | timeout _ fault => cases hstart.symm.trans (start_fails_iff.mpr fault)
            | static _ start escape =>
                cases hstart.symm.trans start
                exact escape
            | browser engine _ => cases hengine.symm.trans engine
  | playwright =>
      dsimp only
      rw [failure_ofResult, browser_escape_iff hf]
      constructor
      · intro h
        exact .browser hengine h
      · intro h
        cases h with
        | timeout engine _ => cases hengine.symm.trans engine
        | static engine _ _ => cases hengine.symm.trans engine
        | browser _ escape => exact escape

theorem ending_ofCrawled (least : Nat) (r : Crawled) :
    (Report.ofCrawled least r).ending = match r.failure with
      | none => .exit 0
      | some f => if f.isCrawl then .exit 1 else .failed f := by
  unfold Report.ofCrawled
  cases r.failure with
  | none => rfl
  | some f => cases hf : f.isCrawl <;> simp only [hf] <;> rfl

/-- A crawl is left by the failure it ended with, unless that is one of the crawl's own. -/
theorem ending_failed_iff (least : Nat) (r : Crawled) :
    (Report.ofCrawled least r).ending = .failed f ↔ r.failure = some f ∧ f.isCrawl = false := by
  rw [ending_ofCrawled]
  cases r.failure with
  | none =>
      constructor
      · intro h
        cases h
      · rintro ⟨h, -⟩
        cases h
  | some g =>
      cases hg : g.isCrawl with
      | true =>
          simp only [hg, if_true]
          constructor
          · intro h
            cases h
          · rintro ⟨h, hf⟩
            cases h
            rw [hg] at hf
            cases hf
      | false =>
          simp only [hg, Bool.false_eq_true, if_false]
          constructor
          · intro h
            cases h
            exact ⟨rfl, hg⟩
          · rintro ⟨h, -⟩
            cases h
            rfl

theorem ending_exit (least : Nat) (r : Crawled) (h : ∀ f, (Report.ofCrawled least r).ending ≠ .failed f) :
    (Report.ofCrawled least r).ending = .exit 0 ∨ (Report.ofCrawled least r).ending = .exit 1 := by
  cases hfailure : r.failure with
  | none =>
      left
      rw [ending_ofCrawled, hfailure]
  | some g =>
      cases hg : g.isCrawl with
      | true =>
          right
          simp only [ending_ofCrawled, hfailure, hg, if_true]
      | false => exact absurd ((ending_failed_iff least r).mpr ⟨hfailure, hg⟩) (h g)

/-- After a crawl the command lets through what escapes from the crawl. -/
theorem ending_crawl (least : Nat) : (Report.ofCrawled least (crawl w c a)).ending = .failed f ↔ Escapes w a c f := by
  rw [ending_failed_iff]
  constructor
  · rintro ⟨hfailure, hf⟩
    exact (crawl_escape_iff hf).mp hfailure
  · intro h
    exact ⟨(crawl_escape_iff h.not_isCrawl).mpr h, h.not_isCrawl⟩

/-- How the command ends for arguments that can be read. -/
theorem ending_invoke {argv : List String} (hargv : Arguments.parse argv = .ok a) :
    (invoke w argv).ending = match threshold (w.environment "LOG_LEVEL") with
      | .error f => .failed f
      | .ok least => match a.config w.environment none with
        | .error _ => .exit 1
        | .ok c => (Report.ofCrawled least (crawl w c a)).ending := by
  unfold invoke
  rw [hargv]
  cases threshold (w.environment "LOG_LEVEL") with
  | error f => rfl
  | ok least =>
      dsimp only
      cases a.config w.environment none with
      | error fault => rfl
      | ok c => rfl

/-- **How the command ends.** For arguments that can be read, the command is left by a failure just when the word for the
verbosity is refused, or when there is a configuration and something escapes from the crawl with it. Otherwise it ends
with the exit code zero or one. -/
theorem invoke_ends (w : Surroundings) (argv : List String) (a : Arguments) (hargv : Arguments.parse argv = .ok a) :
    (∀ f, (invoke w argv).ending = .failed f ↔
        threshold (w.environment "LOG_LEVEL") = .error f ∨ ∃ least c,
          threshold (w.environment "LOG_LEVEL") = .ok least ∧ a.config w.environment none = .ok c ∧ Escapes w a c f) ∧
      ((∀ f, (invoke w argv).ending ≠ .failed f) → (invoke w argv).ending = .exit 0 ∨ (invoke w argv).ending = .exit 1) := by
  rw [ending_invoke hargv]
  cases threshold (w.environment "LOG_LEVEL") with
  | error g =>
      constructor
      · intro f
        constructor
        · intro h
          cases h
          exact .inl rfl
        · rintro (h | ⟨least, c, h, -, -⟩)
          · cases h
            rfl
          · cases h
      · intro h
        exact absurd rfl (h g)
  | ok least =>
      dsimp only
      cases a.config w.environment none with
      | error fault =>
          dsimp only
          constructor
          · intro f
            constructor
            · intro h
              cases h
            · rintro (h | ⟨least, c, -, h, -⟩)
              · cases h
              · cases h
          · intro _
            exact .inr rfl
      | ok c =>
          constructor
          · intro f
            dsimp only
            rw [ending_crawl]
            constructor
            · intro h
              exact .inr ⟨least, c, rfl, rfl, h⟩
            · rintro (h | ⟨_, _, -, hc, h⟩)
              · cases h
              · cases hc
                exact h
          · exact ending_exit least _

/-- Surroundings in which nothing is set, known or going to happen. -/
def calm : Surroundings := ⟨fun _ => none, [], [], [], .quiet, .none⟩

theorem invoke_ends_calm :
    Arguments.parse ["a", "--xpath", ""] = .ok ⟨"a", "", [], none, none, none, false, false, none⟩ ∧
      ∃ c, Escapes calm ⟨"a", "", [], none, none, none, false, false, none⟩ c
        (.refused (.descriptor (.emptyValue .xpath))) := by
  have hargv : Arguments.parse ["a", "--xpath", ""] = .ok ⟨"a", "", [], none, none, none, false, false, none⟩ := rfl
  have hending : (invoke calm ["a", "--xpath", ""]).ending = .failed (.refused (.descriptor (.emptyValue .xpath))) := by
    decide +kernel
  refine ⟨hargv, ?_⟩
  rcases ((invoke_ends calm ["a", "--xpath", ""] _ hargv).1 _).mp hending with hlevel | ⟨_, c, -, -, hescapes⟩
  · cases hlevel
  · exact ⟨c, hescapes⟩

/-- Surroundings in which a match is gone before its tag is read. -/
def fleeting : Surroundings := { calm with
  world := { Browser.World.quiet with select := [("xpath=//p", .names ["first"])] }
  incident := fun calls =>
    if calls.back? = some (.readTag (.element "first")) then ⟨none, [], some (false, "detached")⟩ else .quiet }

example : (invoke fleeting ["a", "--xpath", "//p", "--engine", "playwright"]).ending =
    .failed (.browser false "detached") := by
  decide +kernel

/-- An empty path leaves the command as a failure, not as an exit code. -/
theorem invoke_emptyPath :
    ∃ f, (invoke calm ["a", "--xpath", ""]).ending = .failed f ∧ f.kind = .valueError :=
  ⟨.refused (.descriptor (.emptyValue .xpath)), by decide +kernel, rfl⟩

end Crawl.Command
