import Crawl.Command.Arguments
import Crawl.Proofs.Config.Layer
/-!
# What the options on a command line say

An option that is written on a command line is a mention of it, with the text that goes with it. The arguments are read
one after the other, and what was read so far keeps for every setting what its latest mention says (`Reading.Records`):
each single step adds its mention to those that are kept, so after the last argument all of them are.
-/

namespace Crawl.Command

/-! ## Mentions -/

/-- An option on a command line, with the text that goes with it. -/
structure Mention where
  flag : Flag
  text : String

/-- The text that goes with an option: the one it is written together with, or else the argument behind it. -/
def textFor (joined : Option Joined) (behind : List (String × Shape)) : String :=
  match joined with
  | some j => String.ofList j.value
  | none => (behind.head?.map Prod.fst).getD ""

/-- The options on a command line, in order. -/
def mentions : List (String × Shape) → List Mention
  | [] => []
  | (_, .option f joined) :: rest => ⟨f, textFor joined rest⟩ :: mentions rest
  | (_, .plain) :: rest => mentions rest
  | (_, .dashes) :: rest => mentions rest
  | (_, .unknown) :: rest => mentions rest

/-- Whether an option is mentioned. -/
def Mentioned (f : Flag) (ms : List Mention) : Prop := ∃ m ∈ ms, m.flag = f

/-- The text of the latest mention of an option. -/
def latest (f : Flag) (ms : List Mention) : Option String := (ms.reverse.find? (·.flag = f)).map Mention.text

variable {ms : List Mention} {f : Flag} {v : String}

theorem latest_concat (f : Flag) (ms : List Mention) (m : Mention) :
    latest f (ms ++ [m]) = if m.flag = f then some m.text else latest f ms := by
  unfold latest
  rw [List.reverse_append, List.reverse_singleton, List.singleton_append, List.find?_cons]
  by_cases h : m.flag = f <;> simp [h]

theorem not_mentioned_nil (f : Flag) : ¬ Mentioned f [] := by
  rintro ⟨_, h, -⟩
  cases h

theorem mentioned_concat (f : Flag) (ms : List Mention) (m : Mention) :
    Mentioned f (ms ++ [m]) ↔ Mentioned f ms ∨ m.flag = f := by
  unfold Mentioned
  simp only [List.mem_append, List.mem_singleton, or_and_right, exists_or, exists_eq_left]

/-! ## Reading -/

namespace Reading

/-- What was read is what the options say that were mentioned so far: for an option with a value, its latest mention. -/
structure Records (r : Reading) (ms : List Mention) : Prop where
  engine : r.engine.map EngineName.word = latest .engine ms
  browser : r.browser.map BrowserName.word = latest .browser ms
  userAgent : r.userAgent = latest .userAgent ms
  headed : r.headed = true ↔ Mentioned .headed ms
  failOnScriptError : r.failOnScriptError = true ↔ Mentioned .failOnScriptError ms
  timeoutMs : r.timeoutMs.map Except.ok = (latest .timeoutMs ms).map Integer.parse

theorem records_empty : empty.Records [] where
  engine := rfl
  browser := rfl
  userAgent := rfl
  headed := iff_of_false Bool.false_ne_true (not_mentioned_nil _)
  failOnScriptError := iff_of_false Bool.false_ne_true (not_mentioned_nil _)
  timeoutMs := rfl

variable {r r' : Reading}

/-- What one more mention adds to what was read: it is the latest one of its own option and changes no other. -/
theorem Records.add {m : Mention} (h : r.Records ms)
    (engine : r'.engine.map EngineName.word = if m.flag = .engine then some m.text else r.engine.map EngineName.word)
    (browser : r'.browser.map BrowserName.word =
      if m.flag = .browser then some m.text else r.browser.map BrowserName.word)
    (userAgent : r'.userAgent = if m.flag = .userAgent then some m.text else r.userAgent)
    (headed : r'.headed = (r.headed || decide (m.flag = .headed)))
    (failOnScriptError : r'.failOnScriptError = (r.failOnScriptError || decide (m.flag = .failOnScriptError)))
    (timeoutMs : r'.timeoutMs.map Except.ok =
      if m.flag = .timeoutMs then some (Integer.parse m.text) else r.timeoutMs.map Except.ok) :
    r'.Records (ms ++ [m]) where
  engine := by rw [engine, latest_concat, h.engine]
  browser := by rw [browser, latest_concat, h.browser]
  userAgent := by rw [userAgent, latest_concat, h.userAgent]
  headed := by rw [headed, mentioned_concat, Bool.or_eq_true, decide_eq_true_iff, h.headed]
  failOnScriptError := by
    rw [failOnScriptError, mentioned_concat, Bool.or_eq_true, decide_eq_true_iff, h.failOnScriptError]
  timeoutMs := by
    rw [timeoutMs, latest_concat, h.timeoutMs]
    split <;> rfl

/-- Taking an option with its value adds its mention. -/
theorem Records.withValue (h : r.Records ms) (hf : f.takesValue = true) (hr : r.withValue f v = .ok r') :
    r'.Records (ms ++ [⟨f, v⟩]) := by
  unfold Reading.withValue at hr
  cases f with
  | help | headed | failOnScriptError => cases hf
  | xpath | attr | userAgent =>
      cases hr
      exact h.add rfl rfl rfl (Bool.or_false _).symm (Bool.or_false _).symm rfl
  | engine =>
      cases he : EngineName.ofWord? v with
      | none =>
          rw [he] at hr
          cases hr
      | some e =>
          rw [he] at hr
          cases hr
          have hword : some e.word = some v := congrArg some (Config.word_of_find? EngineName.word he)
          exact h.add hword rfl rfl (Bool.or_false _).symm (Bool.or_false _).symm rfl
  | browser =>
      cases hb : BrowserName.ofWord? v with
      | none =>
          rw [hb] at hr
          cases hr
      | some b =>
          rw [hb] at hr
          cases hr
          have hword : some b.word = some v := congrArg some (Config.word_of_find? BrowserName.word hb)
          exact h.add rfl hword rfl (Bool.or_false _).symm (Bool.or_false _).symm rfl
  | timeoutMs =>
      cases hn : Integer.parse v with
      | error e =>
          rw [hn] at hr
          cases hr
      | ok n =>
          rw [hn] at hr
          cases hr
          exact h.add rfl rfl rfl (Bool.or_false _).symm (Bool.or_false _).symm (congrArg some hn.symm)

/-- Taking an option without a value adds its mention, whatever stands behind it. -/
theorem Records.withFlag (h : r.Records ms) (hf : ¬ f.takesValue = true) (hr : r.withFlag f = .ok r') (v : String) :
    r'.Records (ms ++ [⟨f, v⟩]) := by
  unfold Reading.withFlag at hr
  cases f with
  | help => cases hr
  | headed =>
      cases hr
      exact h.add rfl rfl rfl (Bool.or_true _).symm (Bool.or_false _).symm rfl
  | failOnScriptError =>
      cases hr
      exact h.add rfl rfl rfl (Bool.or_false _).symm (Bool.or_true _).symm rfl
  | xpath | attr | engine | browser | userAgent | timeoutMs => exact absurd rfl hf

/-- Of the options that are written together with a text, those are taken that need a value. -/
theorem Records.withJoined (h : r.Records ms) {written : String} {j : Joined} (hr : r.withJoined written f j = .ok r') :
    r'.Records (ms ++ [⟨f, String.ofList j.value⟩]) := by
  unfold Reading.withJoined at hr
  split at hr
  · next hf => exact h.withValue hf hr
  · split at hr <;> cases hr

/-- A plain argument says nothing about the options. -/
theorem Records.withPlain (h : r.Records ms) (s : String) : (r.withPlain s).Records ms := by
  unfold Reading.withPlain
  split <;> exact ⟨h.engine, h.browser, h.userAgent, h.headed, h.failOnScriptError, h.timeoutMs⟩

/-- Neither does an argument that is left over. -/
theorem Records.withExtras (h : r.Records ms) (extras : List String) : Records { r with extras } ms :=
  ⟨h.engine, h.browser, h.userAgent, h.headed, h.failOnScriptError, h.timeoutMs⟩

/-- When all arguments are taken, what was read is what the options among them say. -/
theorem Records.takeAll (h : r.Records ms) {shapes : List (String × Shape)} (hr : r.takeAll shapes = .ok r') :
    r'.Records (ms ++ mentions shapes) := by
  -- only an option that is taken is a mention; its text is a plain argument and none itself
  fun_induction Reading.takeAll r shapes generalizing ms with
  | case1 r =>
      cases hr
      rwa [mentions, List.append_nil]
  | case2 r s d rest _ ih => exact ih (h.withPlain s) hr
  | case3 r s d rest _ ih => exact ih (h.withExtras _) hr
  | case4 r s rest _ ih => exact ih (h.withPlain s) hr
  | case5 r d ih => exact ih (h.withExtras _) hr
  | case6 r d next rest _ ih => exact ih h hr
  | case7 r d next rest _ ih => exact ih (h.withExtras _) hr
  | case8 r s rest ih => exact ih (h.withExtras _) hr
  | case9 r s f j rest _ hjoined ih =>
      rw [mentions, List.append_cons]
      exact ih (h.withJoined hjoined) hr
  | case11 r s f hf v rest _ hvalue ih =>
      rw [mentions, List.append_cons]
      exact ih (h.withValue hf hvalue) hr
  | case14 r s f rest hf _ hflag ih =>
      rw [mentions, List.append_cons]
      exact ih (h.withFlag hf hflag _) hr
  | case10 | case12 | case13 | case15 => cases hr

/-- What is complete was read as it is. -/
theorem eq_of_complete {a : Arguments} (h : r.complete = .ok a) : ∃ url xpath, a =
    ⟨url, xpath, r.attrs, r.engine, r.browser, r.userAgent, r.headed, r.failOnScriptError, r.timeoutMs⟩ := by
  unfold complete at h
  cases hurl : r.url with
  | none =>
      rw [hurl] at h
      cases h
  | some url =>
      cases hxpath : r.xpath with
      | none =>
          rw [hurl, hxpath] at h
          cases h
      | some xpath =>
          rw [hurl, hxpath] at h
          dsimp only at h
          split at h
          · cases h
            exact ⟨url, xpath, rfl⟩
          · cases h

end Reading

/-- What the command is asked for was read from the options on its command line. -/
theorem Arguments.records_of_parse {argv : List String} {a : Arguments} (h : Arguments.parse argv = .ok a) :
    ∃ shapes r, shapesOf argv = .ok shapes ∧ Reading.Records r (mentions shapes) ∧ r.complete = .ok a := by
  unfold Arguments.parse at h
  cases hshapes : shapesOf argv with
  | error e =>
      rw [hshapes] at h
      cases h
  | ok shapes =>
      rw [hshapes] at h
      dsimp only at h
      cases hr : Reading.empty.takeAll shapes with
      | error e =>
          rw [hr] at h
          cases h
      | ok r =>
          rw [hr] at h
          exact ⟨shapes, r, rfl, Reading.records_empty.takeAll hr, h⟩

end Crawl.Command
