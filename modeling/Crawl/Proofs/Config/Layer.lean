import Crawl.Failure
/-!
# Configurations in layers

The values of a configuration lie in layers above given ones, and in each field the uppermost layer that has a value
prevails (`Layered`). An environment is such a layer, when its timeout can be read (`SetBy`). Whatever six values come
out at the end are checked before they are a configuration (`Draft.check`). So each way to make one is described alike
(`Makes`): by the values that a configuration has which it makes, and by when it makes none.
-/

namespace Crawl.Config

/-! ## Words -/

section

variable {α : Type} (word : α → String) {all : List α} {w : String}

theorem word_of_find? {a : α} (h : all.find? (fun b => word b == w) = some a) : word a = w :=
  beq_iff_eq.mp (List.find?_some (p := fun b => word b == w) h)

theorem exists_find? (h : w ∈ all.map word) : ∃ a, all.find? (fun b => word b == w) = some a := by
  obtain ⟨a, ha, rfl⟩ := List.mem_map.mp h
  exact Option.isSome_iff_exists.mp (List.find?_isSome.mpr ⟨a, ha, beq_self_eq_true _⟩)

end

/-- The words for engines. -/
def engineWords : List String := ["playwright", "static"]

/-- The words for browsers. -/
def browserWords : List String := ["chromium", "firefox", "webkit"]

theorem engineWords_eq : engineWords = EngineName.all.map EngineName.word := rfl

theorem browserWords_eq : browserWords = BrowserName.all.map BrowserName.word := rfl

theorem word_mem_engineWords (e : EngineName) : e.word ∈ engineWords := by
  cases e <;> decide

theorem word_mem_browserWords (b : BrowserName) : b.word ∈ browserWords := by
  cases b <;> decide

/-! ## Values that make a configuration -/

/-- Values that can be those of a configuration: a known engine, a known browser and a positive timeout. -/
structure Draft.Valid (d : Draft) : Prop where
  engine : d.engine ∈ engineWords
  browser : d.browser ∈ browserWords
  timeoutMs : 0 < d.timeoutMs

theorem draft_valid (c : Config) : c.draft.Valid where
  engine := word_mem_engineWords c.engine
  browser := word_mem_browserWords c.browser
  timeoutMs := c.timeout_pos

/-- A configuration has the values it is made from. -/
theorem draft_of_check {d : Draft} {c : Config} (h : d.check = .ok c) : c.draft = d := by
  unfold Draft.check at h
  cases he : EngineName.ofWord? d.engine with
  | none =>
      rw [he] at h
      cases h
  | some e =>
      cases hb : BrowserName.ofWord? d.browser with
      | none =>
          rw [he, hb] at h
          cases h
      | some b =>
          rw [he, hb] at h
          dsimp only at h
          split at h
          · cases h
            unfold draft
            rw [word_of_find? EngineName.word he, word_of_find? BrowserName.word hb]
          · cases h

/-- Valid values are those of a configuration. -/
theorem Draft.Valid.exists_config {d : Draft} (h : d.Valid) : ∃ c, d.check = .ok c := by
  obtain ⟨e, he⟩ := exists_find? EngineName.word (engineWords_eq ▸ h.engine)
  obtain ⟨b, hb⟩ := exists_find? BrowserName.word (browserWords_eq ▸ h.browser)
  unfold Draft.check EngineName.ofWord? BrowserName.ofWord?
  rw [he, hb]
  exact ⟨_, dif_pos h.timeoutMs⟩

/-! ## Ways to make a configuration -/

/-- No configuration is made: what was given is refused as a value that does not fit. -/
def Rejected (r : Except Fault Config) : Prop :=
  ∃ fault, r = .error fault ∧ (Failure.refused (.config fault)).kind = .valueError

/-- What a way to make a configuration ends with: a configuration whose values are of some sort and are valid, or a
refusal, which is there just when something is wrong. -/
structure Makes (values : Draft → Prop) (wrong : Prop) (r : Except Fault Config) : Prop where
  made : ∀ c, r = .ok c → values c.draft ∧ c.draft.Valid
  rejected : Rejected r ↔ wrong

theorem rejected_error (fault : Fault) : Rejected (.error fault) := ⟨fault, rfl, rfl⟩

theorem not_rejected_ok (c : Config) : ¬ Rejected (.ok c) := by
  rintro ⟨_, h, -⟩
  cases h

theorem rejected_check_iff {d : Draft} : Rejected d.check ↔ ¬ d.Valid := by
  constructor
  · intro hrejected hvalid
    obtain ⟨c, hc⟩ := hvalid.exists_config
    rw [hc] at hrejected
    exact not_rejected_ok c hrejected
  · intro hinvalid
    cases hcheck : d.check with
    | error fault => exact rejected_error fault
    | ok c => exact absurd (draft_of_check hcheck ▸ c.draft_valid) hinvalid

/-- The check of six values makes a configuration with these values, unless they are not valid. -/
theorem makes_check (d : Draft) : Makes (· = d) (¬ d.Valid) d.check where
  made c h := ⟨draft_of_check h, c.draft_valid⟩
  rejected := rejected_check_iff

/-! ## Layers -/

/-- The value that prevails in some layers, the uppermost first: that of the first layer which has one, or the value
below all of them when none has. -/
inductive Prevails {α : Type} (bottom : α) : List (Option α) → α → Prop
  | bottom : Prevails bottom [] bottom
  | given (v : α) (below : List (Option α)) : Prevails bottom (some v :: below) v
  | passed {v : α} {below : List (Option α)} (h : Prevails bottom below v) : Prevails bottom (none :: below) v

namespace Prevails

variable {α : Type} {bottom middle v w : α} {layer : Option α} {layers : List (Option α)}

theorem getD (bottom : α) (layer : Option α) : Prevails bottom [layer] (layer.getD bottom) := by
  cases layer with
  | none => exact .passed .bottom
  | some v => exact .given v []

theorem unique (hv : Prevails bottom layers v) (hw : Prevails bottom layers w) : v = w := by
  induction hv with
  | bottom =>
      cases hw
      rfl
  | given v below =>
      cases hw
      rfl
  | passed _ ih =>
      cases hw with
      | passed hw => exact ih hw

/-- A layer lies above what prevails in the layers below it. -/
theorem above (h : Prevails middle [layer] v) (hmiddle : Prevails bottom layers middle) :
    Prevails bottom (layer :: layers) v := by
  cases h with
  | given v _ => exact .given v layers
  | passed h =>
      cases h
      exact .passed hmiddle

end Prevails

/-- Some of the values of a configuration. -/
structure Layer where
  engine : Option String
  browser : Option String
  userAgent : Option String
  headless : Option Bool
  failOnScriptError : Option Bool
  timeoutMs : Option Int

/-- The values that prevail in some layers above given ones. -/
structure Layered (bottom : Draft) (layers : List Layer) (d : Draft) : Prop where
  engine : Prevails bottom.engine (layers.map Layer.engine) d.engine
  browser : Prevails bottom.browser (layers.map Layer.browser) d.browser
  userAgent : Prevails bottom.userAgent (layers.map fun l => l.userAgent.map some) d.userAgent
  headless : Prevails bottom.headless (layers.map Layer.headless) d.headless
  failOnScriptError : Prevails bottom.failOnScriptError (layers.map Layer.failOnScriptError) d.failOnScriptError
  timeoutMs : Prevails bottom.timeoutMs (layers.map Layer.timeoutMs) d.timeoutMs

/-- The values of a layer, and where it has none those below it. -/
def Layer.above (l : Layer) (d : Draft) : Draft where
  engine := l.engine.getD d.engine
  browser := l.browser.getD d.browser
  userAgent := (l.userAgent.map some).getD d.userAgent
  headless := l.headless.getD d.headless
  failOnScriptError := l.failOnScriptError.getD d.failOnScriptError
  timeoutMs := l.timeoutMs.getD d.timeoutMs

variable {bottom middle d d' : Draft} {l : Layer} {layers : List Layer}

theorem layered_above (l : Layer) (d : Draft) : Layered d [l] (l.above d) where
  engine := .getD d.engine l.engine
  browser := .getD d.browser l.browser
  userAgent := .getD d.userAgent (l.userAgent.map some)
  headless := .getD d.headless l.headless
  failOnScriptError := .getD d.failOnScriptError l.failOnScriptError
  timeoutMs := .getD d.timeoutMs l.timeoutMs

theorem Layered.unique (h : Layered bottom layers d) (h' : Layered bottom layers d') : d = d' := by
  cases d
  cases d'
  congr 1
  · exact h.engine.unique h'.engine
  · exact h.browser.unique h'.browser
  · exact h.userAgent.unique h'.userAgent
  · exact h.headless.unique h'.headless
  · exact h.failOnScriptError.unique h'.failOnScriptError
  · exact h.timeoutMs.unique h'.timeoutMs

theorem Layered.above (h : Layered middle [l] d) (hmiddle : Layered bottom layers middle) :
    Layered bottom (l :: layers) d where
  engine := h.engine.above hmiddle.engine
  browser := h.browser.above hmiddle.browser
  userAgent := h.userAgent.above hmiddle.userAgent
  headless := h.headless.above hmiddle.headless
  failOnScriptError := h.failOnScriptError.above hmiddle.failOnScriptError
  timeoutMs := h.timeoutMs.above hmiddle.timeoutMs

/-- Checking what prevails in a layer above given values. -/
theorem makes_above (l : Layer) (d : Draft) :
    Makes (Layered d [l]) (∃ d', Layered d [l] d' ∧ ¬ d'.Valid) (l.above d).check where
  made c h := ⟨draft_of_check h ▸ layered_above l d, c.draft_valid⟩
  rejected := by
    rw [rejected_check_iff]
    constructor
    · intro h
      exact ⟨_, layered_above l d, h⟩
    · rintro ⟨d', hd', h⟩
      rwa [hd'.unique (layered_above l d)] at h

/-- A layer whose own values are in order: known words, and a timeout above zero. -/
structure Layer.Valid (l : Layer) : Prop where
  engine : ∀ w, l.engine = some w → w ∈ engineWords
  browser : ∀ w, l.browser = some w → w ∈ browserWords
  timeoutMs : ∀ n, l.timeoutMs = some n → 0 < n

theorem default_valid : Draft.default.Valid := ⟨by decide, by decide, by decide⟩

theorem forall_getD_iff {α : Type} {P : α → Prop} {o : Option α} {v : α} (hv : P v) :
    P (o.getD v) ↔ ∀ w, o = some w → P w := by
  cases o <;> simp [hv]

/-- Above valid values only a layer's own values can be wrong. -/
theorem Layer.above_valid_iff (hd : d.Valid) : (l.above d).Valid ↔ l.Valid := by
  have hengine : (l.above d).engine ∈ engineWords ↔ _ := forall_getD_iff (P := (· ∈ engineWords)) hd.engine
  have hbrowser : (l.above d).browser ∈ browserWords ↔ _ := forall_getD_iff (P := (· ∈ browserWords)) hd.browser
  have htimeout : 0 < (l.above d).timeoutMs ↔ _ := forall_getD_iff (P := fun n : Int => 0 < n) hd.timeoutMs
  constructor
  · intro h
    exact ⟨hengine.mp h.engine, hbrowser.mp h.browser, htimeout.mp h.timeoutMs⟩
  · intro h
    exact ⟨hengine.mpr h.engine, hbrowser.mpr h.browser, htimeout.mpr h.timeoutMs⟩

/-! ## Environments -/

/-- A text, unless it is empty. -/
def nonempty (text : Option String) : Option String := text.filter (· ≠ "")

theorem nonempty_some (w : String) : nonempty (some w) = if w = "" then none else some w := by
  unfold nonempty
  rw [Option.filter_some]
  by_cases h : w = "" <;> simp [h]

theorem nonempty_map {α : Type} {word : α → String} (h : ∀ a, word a ≠ "") (o : Option α) :
    nonempty (o.map word) = o.map word := by
  cases o with
  | none => rfl
  | some a => rw [Option.map_some, nonempty_some, if_neg (h a)]

/-- Whether a word means yes, in any case and with blanks around it. -/
def meansYes (word : String) : Bool := yesWords.contains (Text.lower (Text.strip word))

/-- The values that an environment sets. An empty user agent or switch is not set, and a timeout has to be a number. -/
structure SetBy (env : Environment) (l : Layer) : Prop where
  engine : l.engine = env "CRAWLDSL_ENGINE"
  browser : l.browser = env "CRAWLDSL_BROWSER"
  userAgent : l.userAgent = nonempty (env "CRAWLDSL_USER_AGENT")
  headless : l.headless = (nonempty (env "CRAWLDSL_HEADLESS")).map meansYes
  failOnScriptError : l.failOnScriptError = (nonempty (env "CRAWLDSL_FAIL_ON_SCRIPT_ERROR")).map meansYes
  timeoutMs : l.timeoutMs.map Except.ok = (env "CRAWLDSL_TIMEOUT_MS").map Integer.parse

/-- An environment that is in order by itself: a known engine and a known browser if it sets them, and a number above
zero if it sets the timeout. -/
structure Environment.Valid (env : Environment) : Prop where
  engine : ∀ w, env "CRAWLDSL_ENGINE" = some w → w ∈ engineWords
  browser : ∀ w, env "CRAWLDSL_BROWSER" = some w → w ∈ browserWords
  timeoutMs : ∀ w, env "CRAWLDSL_TIMEOUT_MS" = some w → ∃ n, Integer.parse w = .ok n ∧ 0 < n

variable {env : Environment} {l' : Layer}

theorem SetBy.unique (h : SetBy env l) (h' : SetBy env l') : l = l' := by
  have htimeout : l.timeoutMs = l'.timeoutMs :=
    Option.map_injective (fun _ _ => Except.ok.inj) (h.timeoutMs.trans h'.timeoutMs.symm)
  cases l
  cases l'
  congr 1
  · exact h.engine.trans h'.engine.symm
  · exact h.browser.trans h'.browser.symm
  · exact h.userAgent.trans h'.userAgent.symm
  · exact h.headless.trans h'.headless.symm
  · exact h.failOnScriptError.trans h'.failOnScriptError.symm

/-- What an environment sets is in order just when the environment is. -/
theorem SetBy.valid_iff (h : SetBy env l) : l.Valid ↔ env.Valid := by
  have htimeout := h.timeoutMs
  constructor
  · intro hl
    refine ⟨h.engine ▸ hl.engine, h.browser ▸ hl.browser, fun w hw => ?_⟩
    rw [hw, Option.map_some, Option.map_eq_some_iff] at htimeout
    obtain ⟨n, hn, hparse⟩ := htimeout
    exact ⟨n, hparse.symm, hl.timeoutMs n hn⟩
  · intro henv
    refine ⟨h.engine ▸ henv.engine, h.browser ▸ henv.browser, fun n hn => ?_⟩
    rw [hn, Option.map_some, eq_comm, Option.map_eq_some_iff] at htimeout
    obtain ⟨w, hw, hparse⟩ := htimeout
    obtain ⟨m, hm, hpos⟩ := henv.timeoutMs w hw
    cases hparse.symm.trans hm
    exact hpos

/-- An environment sets a layer, unless its timeout cannot be read. -/
theorem exists_setBy_or_unreadable (env : Environment) :
    (∃ l, SetBy env l) ∨ ∃ w fault, env "CRAWLDSL_TIMEOUT_MS" = some w ∧ Integer.parse w = .error fault := by
  have hset (timeoutMs : Option Int) (h : timeoutMs.map Except.ok = (env "CRAWLDSL_TIMEOUT_MS").map Integer.parse) :
      ∃ l, SetBy env l := ⟨⟨_, _, _, _, _, timeoutMs⟩, rfl, rfl, rfl, rfl, rfl, h⟩
  cases hw : env "CRAWLDSL_TIMEOUT_MS" with
  | none => exact .inl (hset none (by rw [hw]; rfl))
  | some w =>
      cases hn : Integer.parse w with
      | error fault => exact .inr ⟨w, fault, rfl, hn⟩
      | ok n => exact .inl (hset (some n) (by rw [hw, Option.map_some, Option.map_some, hn]))

theorem switch_eq (env : Environment) (key : String) (b : Bool) :
    switch env key b = ((nonempty (env key)).map meansYes).getD b := by
  unfold switch
  cases env key with
  | none => rfl
  | some w =>
      rw [nonempty_some]
      by_cases h : w = ""
      · subst h
        rfl
      · simp only [String.isEmpty_iff, h, if_false, Option.map_some, Option.getD_some, meansYes]

theorem filter_isEmpty (text : Option String) : text.filter (!·.isEmpty) = ((nonempty text).map some).getD none := by
  cases text with
  | none => rfl
  | some w =>
      rw [nonempty_some, Option.filter_some]
      by_cases h : w = ""
      · subst h
        rfl
      · simp [h]

theorem parse_defaultTimeout : Integer.parse "30000" = .ok Draft.default.timeoutMs := by
  rfl

/-- The timeout an environment asks for, when it can be read. -/
theorem SetBy.timeout (h : SetBy env l) :
    Integer.parse ((env "CRAWLDSL_TIMEOUT_MS").getD "30000") = .ok (l.timeoutMs.getD Draft.default.timeoutMs) := by
  have htimeout := h.timeoutMs
  cases hw : env "CRAWLDSL_TIMEOUT_MS" with
  | none =>
      rw [hw, Option.map_none, Option.map_eq_none_iff] at htimeout
      rw [htimeout, Option.getD_none, parse_defaultTimeout, Option.getD_none]
  | some w =>
      rw [hw, Option.map_some, Option.map_eq_some_iff] at htimeout
      obtain ⟨n, hn, hparse⟩ := htimeout
      rw [hn]
      exact hparse.symm

/-- The configuration of an environment is made from what it sets above the defaults. -/
theorem SetBy.ofEnvironment_eq (h : SetBy env l) : ofEnvironment env = (l.above .default).check := by
  unfold ofEnvironment
  rw [h.timeout, switch_eq, switch_eq, filter_isEmpty, ← h.engine, ← h.browser, ← h.userAgent, ← h.headless,
    ← h.failOnScriptError]
  rfl

theorem ofEnvironment_unreadable {w : String} {fault : Integer.Fault} (hw : env "CRAWLDSL_TIMEOUT_MS" = some w)
    (hfault : Integer.parse w = .error fault) : ofEnvironment env = .error (.timeoutUnreadable fault) := by
  unfold ofEnvironment
  rw [hw, Option.getD_some, hfault]

/-- An environment makes a configuration from what it sets above the defaults, unless it is not in order. -/
theorem makes_ofEnvironment (env : Environment) :
    Makes (fun d => ∃ set, SetBy env set ∧ Layered .default [set] d) (¬ env.Valid) (ofEnvironment env) := by
  rcases exists_setBy_or_unreadable env with ⟨l, hl⟩ | ⟨w, fault, hw, hfault⟩
  · rw [hl.ofEnvironment_eq]
    constructor
    · intro c hc
      obtain ⟨hlayered, hvalid⟩ := (makes_above l .default).made c hc
      exact ⟨⟨l, hl, hlayered⟩, hvalid⟩
    · rw [rejected_check_iff, Layer.above_valid_iff default_valid, hl.valid_iff]
  · rw [ofEnvironment_unreadable hw hfault]
    constructor
    · intro c hc
      cases hc
    · refine iff_of_true (rejected_error _) fun hvalid => ?_
      obtain ⟨n, hn, -⟩ := hvalid.timeoutMs w hw
      cases hfault.symm.trans hn

end Crawl.Config
