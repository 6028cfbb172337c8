import Crawl.Proofs.Command.Mentions
/-!
# The configuration of the command

The options on a command line are a layer above that of the environment, and both lie above the defaults; or else the
options lie above a configuration that is given. An environment has to be in order by itself, even where an option covers
what is wrong with it, and what comes out at the end is checked again (`config_layered`).
-/

namespace Crawl.Command

open Config (Layer Layered SetBy Makes Rejected nonempty nonempty_some nonempty_map)

variable {a : Arguments} {env : Config.Environment}

/-! ## The options as a layer -/

/-- The values that the options on a command line give: those of their latest mentions, unless a text is empty. An option
for a switch puts it the one way that it stands for. -/
structure SaidBy (ms : List Mention) (l : Layer) : Prop where
  engine : l.engine = nonempty (latest .engine ms)
  browser : l.browser = nonempty (latest .browser ms)
  userAgent : l.userAgent = nonempty (latest .userAgent ms)
  headless : ∀ v, l.headless = some v ↔ v = false ∧ Mentioned .headed ms
  failOnScriptError : ∀ v, l.failOnScriptError = some v ↔ v = true ∧ Mentioned .failOnScriptError ms
  timeoutMs : l.timeoutMs.map Except.ok = (latest .timeoutMs ms).map Integer.parse

/-- The values that some arguments give. -/
def Arguments.layer (a : Arguments) : Layer where
  engine := a.engine.map EngineName.word
  browser := a.browser.map BrowserName.word
  userAgent := nonempty a.userAgent
  headless := if a.headed then some false else none
  failOnScriptError := if a.failOnScriptError then some true else none
  timeoutMs := a.timeoutMs

theorem ite_some_iff {α : Type} {p : Prop} [Decidable p] {u v : α} :
    (if p then some u else none) = some v ↔ v = u ∧ p := by
  rw [Option.ite_none_right_eq_some, Option.some_inj, and_comm, eq_comm]

/-- What the arguments give is what the options on the command line say. -/
theorem Arguments.saidBy_layer {argv : List String} (h : Arguments.parse argv = .ok a) :
    ∃ shapes, shapesOf argv = .ok shapes ∧ SaidBy (mentions shapes) a.layer := by
  obtain ⟨shapes, r, hshapes, hrecords, hcomplete⟩ := records_of_parse h
  obtain ⟨url, xpath, rfl⟩ := Reading.eq_of_complete hcomplete
  refine ⟨shapes, hshapes, ?_⟩
  constructor
  · rw [← hrecords.engine, nonempty_map fun e => by cases e <;> decide]
    rfl
  · rw [← hrecords.browser, nonempty_map fun b => by cases b <;> decide]
    rfl
  · rw [← hrecords.userAgent]
    rfl
  · intro v
    rw [← hrecords.headed]
    exact ite_some_iff
  · intro v
    rw [← hrecords.failOnScriptError]
    exact ite_some_iff
  · exact hrecords.timeoutMs

/-- Arguments override what lies below their layer. -/
theorem Arguments.override_eq (a : Arguments) (d : Config.Draft) : a.override d = a.layer.above d := by
  unfold override layer Layer.above
  congr 1
  · cases a.userAgent with
    | none => rfl
    | some name =>
        rw [nonempty_some]
        by_cases h : name = "" <;> simp [h]
  · cases a.headed <;> rfl
  · cases a.failOnScriptError <;> rfl

/-! ## The configuration -/

/-- Over a given configuration the environment does not count. -/
theorem makes_config_some (a : Arguments) (env : Config.Environment) (base : Config) :
    Makes (Layered base.draft [a.layer]) (∃ d, Layered base.draft [a.layer] d ∧ ¬ d.Valid) (a.config env (some base)) := by
  show Makes _ _ (a.override base.draft).check
  rw [a.override_eq]
  exact Config.makes_above a.layer base.draft

/-- Over no configuration the arguments lie above the environment, which has to be in order by itself. -/
theorem makes_config_none (a : Arguments) (env : Config.Environment) :
    Makes (fun d => ∃ set, SetBy env set ∧ Layered .default [a.layer, set] d)
      (¬ env.Valid ∨ ∃ set d, SetBy env set ∧ Layered .default [a.layer, set] d ∧ ¬ d.Valid) (a.config env none) := by
  have hbelow := Config.makes_ofEnvironment env
  unfold Arguments.config
  dsimp only
  cases henv : Config.ofEnvironment env with
  | error fault =>
      rw [henv] at hbelow
      constructor
      · intro c hc
        cases hc
      · exact iff_of_true (Config.rejected_error fault) (.inl (hbelow.rejected.mp (Config.rejected_error fault)))
  | ok base =>
      rw [henv] at hbelow
      obtain ⟨⟨set, hset, hbase⟩, -⟩ := hbelow.made base rfl
      have habove := makes_config_some a env base
      constructor
      · intro c hc
        obtain ⟨hc, hvalid⟩ := habove.made c hc
        exact ⟨⟨set, hset, hc.above hbase⟩, hvalid⟩
      · refine habove.rejected.trans ?_
        have hvalid : env.Valid :=
          Classical.byContradiction fun h => Config.not_rejected_ok base (hbelow.rejected.mpr h)
        constructor
        · rintro ⟨d, hd, hinvalid⟩
          exact .inr ⟨set, d, hset, hd.above hbase, hinvalid⟩
        · rintro (hinvalid | ⟨set', d, hset', hd, hinvalid⟩)
          · exact absurd hvalid hinvalid
          · cases hset.unique hset'
            refine ⟨_, Config.layered_above a.layer base.draft, ?_⟩
            rwa [((Config.layered_above a.layer base.draft).above hbase).unique hd]

/-- **The configuration in its layers.** Each value comes from the latest mention of its option on the command line, else
from the environment, else from the defaults. Whichever way a configuration is made, from six values, from an environment
or from arguments over a configuration or an environment, its engine and its browser are known and its timeout is positive,
and none is made just when the environment is not in order by itself or what comes out is not. -/
theorem config_layered (a : Arguments) :
    (∀ argv, Arguments.parse argv = .ok a → ∃ shapes, shapesOf argv = .ok shapes ∧ SaidBy (mentions shapes) a.layer) ∧
      (∀ d : Config.Draft, Makes (· = d) (¬ d.Valid) d.check) ∧
      (∀ env, Makes (fun d => ∃ set, SetBy env set ∧ Layered .default [set] d) (¬ env.Valid) (Config.ofEnvironment env)) ∧
      (∀ env base, Makes (Layered base.draft [a.layer]) (∃ d, Layered base.draft [a.layer] d ∧ ¬ d.Valid)
        (a.config env (some base))) ∧
      ∀ env, Makes (fun d => ∃ set, SetBy env set ∧ Layered .default [a.layer, set] d)
        (¬ env.Valid ∨ ∃ set d, SetBy env set ∧ Layered .default [a.layer, set] d ∧ ¬ d.Valid) (a.config env none) :=
  ⟨fun _ => Arguments.saidBy_layer, Config.makes_check, Config.makes_ofEnvironment, makes_config_some a,
    makes_config_none a⟩

/-- A command line on which an option is mentioned twice, one stands with the empty text, and one is a switch. -/
def crowdedLine : List String :=
  ["a", "--xpath", "//a", "--browser", "webkit", "--headed", "--timeout-ms", "5", "--timeout-ms=900", "--user-agent", ""]

/-- An environment that sets all values, some of which the command line covers; one switch is set to a blank. -/
def crowdedEnvironment : Config.Environment := fun key => [
  ("CRAWLDSL_ENGINE", "static"), ("CRAWLDSL_BROWSER", "firefox"), ("CRAWLDSL_USER_AGENT", "crawler/1.0"),
  ("CRAWLDSL_HEADLESS", " Yes"), ("CRAWLDSL_FAIL_ON_SCRIPT_ERROR", " "), ("CRAWLDSL_TIMEOUT_MS", "5_000")].lookup key

/-- What is asked for on this command line, with any timeout. -/
def crowdedArguments (timeoutMs : Int) : Arguments :=
  ⟨"a", "//a", [], none, some .webkit, some "", true, false, some timeoutMs⟩

theorem config_layered_crowded :
    Arguments.parse crowdedLine = .ok (crowdedArguments 900) ∧
      (∃ shapes, shapesOf crowdedLine = .ok shapes ∧ SaidBy (mentions shapes) (crowdedArguments 900).layer) ∧
      (∃ c, (crowdedArguments 900).config crowdedEnvironment none = .ok c ∧
        c.draft = ⟨"static", "webkit", some "crawler/1.0", false, false, 900⟩ ∧
        ∃ set, SetBy crowdedEnvironment set ∧ Layered .default [(crowdedArguments 900).layer, set] c.draft) ∧
      Rejected ((crowdedArguments 0).config crowdedEnvironment none) := by
  have hread : (Arguments.parse crowdedLine).toOption = some (crowdedArguments 900) := by decide +kernel
  have hparse : Arguments.parse crowdedLine = .ok (crowdedArguments 900) := by
    cases h : Arguments.parse crowdedLine with
    | error e =>
        rw [h] at hread
        cases hread
    | ok a =>
        rw [h] at hread
        exact congrArg Except.ok (Option.some.inj hread)
  have hdraft : ((crowdedArguments 900).config crowdedEnvironment none).toOption.map Config.draft =
      some ⟨"static", "webkit", some "crawler/1.0", false, false, 900⟩ := by decide +kernel
  refine ⟨hparse, (config_layered (crowdedArguments 900)).1 crowdedLine hparse, ?_⟩
  cases hconfig : (crowdedArguments 900).config crowdedEnvironment none with
  | error fault =>
      rw [hconfig] at hdraft
      cases hdraft
  | ok c =>
      rw [hconfig] at hdraft
      obtain ⟨⟨set, hset, hlayered⟩, -⟩ :=
        ((config_layered (crowdedArguments 900)).2.2.2.2 crowdedEnvironment).made c hconfig
      refine ⟨⟨c, rfl, Option.some.inj hdraft, set, hset, hlayered⟩, ?_⟩
      -- the timeout zero is given, so it prevails and is then refused
      have hzero : Layered .default [(crowdedArguments 0).layer, set] _ :=
        (Config.layered_above (crowdedArguments 0).layer _).above (Config.layered_above set .default)
      refine ((config_layered (crowdedArguments 0)).2.2.2.2 crowdedEnvironment).rejected.mpr ?_
      exact .inr ⟨set, _, hset, hzero, fun hvalid => Int.lt_irrefl 0 hvalid.timeoutMs⟩

end Crawl.Command
