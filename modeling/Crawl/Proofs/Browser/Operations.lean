import Crawl.Proofs.Browser.Leaks
import Crawl.Proofs.Session.Entries
/-!
# Failures of the browser that leave a session

The operations of a session fail with failures of the crawl, or with whatever the engine lets through. So a failure of a
program that is not the crawl's own can be blamed on a call to the browser that the program made: one that is handed on,
and failed with just this failure. The same holds of whole programs, whatever they catch and however they nest scopes,
as long as their own work raises nothing else.
-/

namespace Crawl.Browser

open Crawl.Action (stateOf failureOf bind_ok bind_error)
open Crawl.Session (Blind Closed Program Deed)

variable {τ α β : Type}

/-- A failure of an action that is not the crawl's own was let out by a call that the action made. -/
def Blamed (act : Action (Session State Handle τ) α) : Prop :=
  ∀ s, ∃ made, Makes s.desk.device made (stateOf (act s)).desk.device ∧
    ∀ f, f.isCrawl = false → failureOf (act s) = some f → s.desk.device.scene.Leaks f s.desk.device.calls made

/-- An action that makes no call and fails only as the crawl does. -/
theorem Blamed.of_desk {act : Action (Session State Handle τ) α}
    (hdesk : ∀ s, (stateOf (act s)).desk.device = s.desk.device)
    (hfails : ∀ s, ∀ f ∈ failureOf (act s), f.isCrawl = true) : Blamed act := by
  intro s
  refine ⟨[], ?_, fun f hf h => ?_⟩
  · rw [hdesk]
    exact .none _
  · rw [hfails s f h] at hf
    cases hf

/-- An action that makes no call and does not fail. -/
theorem Blamed.of_ok {act : Action (Session State Handle τ) α}
    (hdesk : ∀ s, (stateOf (act s)).desk.device = s.desk.device) (hok : ∀ s, failureOf (act s) = none) : Blamed act := by
  refine .of_desk hdesk fun s f h => ?_
  rw [hok] at h
  cases h

theorem Blamed.onDesk {act : Work α} (h : Honest act) : Blamed (Session.onDesk act : Action (Session State Handle τ) α) := by
  intro s
  obtain ⟨made, hmade, hfails⟩ := h s.desk
  refine ⟨made, ?_, fun f hf hfail => (hfails f hf).mp ?_⟩
  · unfold Session.onDesk Action.within
    cases hr : act s.desk <;> rw [hr] at hmade <;> exact hmade
  · unfold Session.onDesk Action.within at hfail
    cases hr : act s.desk <;> rw [hr] at hfail <;> exact hfail

theorem Blamed.bind {x : Action (Session State Handle τ) α} {k : α → Action (Session State Handle τ) β} (hx : Blamed x)
    (hk : ∀ a, Blamed (k a)) : Blamed (x >>= k) := by
  intro s
  obtain ⟨made, hmade, hfails⟩ := hx s
  cases hr : x s with
  | ok a s' =>
      rw [hr] at hmade
      change Makes _ made s'.desk.device at hmade
      obtain ⟨made', hmade', hfails'⟩ := hk a s'
      rw [bind_ok hr]
      refine ⟨made ++ made', hmade.trans hmade', fun f hf h => ?_⟩
      have hleaks := hfails' f hf h
      rw [hmade.scene, hmade.calls] at hleaks
      exact (Scene.leaks_append _ _ _ _ _).mpr (.inr hleaks)
  | error g s' =>
      rw [hr] at hmade hfails
      rw [bind_error hr]
      exact ⟨made, hmade, hfails⟩

theorem Blamed.always {x : Action (Session State Handle τ) α} {after : Action (Session State Handle τ) Unit} (hx : Blamed x)
    (hafter : Blamed after) : Blamed (Action.always x after) := by
  intro s
  obtain ⟨made, hmade, hfails⟩ := hx s
  obtain ⟨made', hmade', hfails'⟩ := hafter (stateOf (x s))
  refine ⟨made ++ made', ?_, fun f hf h => ?_⟩
  · rw [Action.stateOf_always]
    exact hmade.trans hmade'
  · rw [Action.failureOf_always] at h
    rw [Scene.leaks_append]
    rcases Option.or_eq_some_iff.mp h with hlast | ⟨-, hbody⟩
    · have hleaks := hfails' f hf hlast
      rw [hmade.scene, hmade.calls] at hleaks
      exact .inr hleaks
    · exact .inl (hfails f hf hbody)

/-- That failures can be blamed on calls is kept by everything that operations are built from. -/
theorem blamed_closed : Closed engine (@Blamed τ) where
  pure _ := .of_ok (fun _ => rfl) fun _ => rfl
  throw hf := by
    refine .of_desk (fun _ => rfl) fun s g h => ?_
    cases h
    exact hf
  bind := .bind
  always := .always
  attempt := by
    intro α x hx s
    obtain ⟨made, hmade, -⟩ := hx s
    refine ⟨made, ?_, fun f hf h => ?_⟩
    · rw [Action.stateOf_attempt]
      exact hmade
    · unfold Action.attempt at h
      split at h <;> cases h
  step hf := by
    refine .of_ok (fun s => ?_) fun _ => rfl
    exact congrArg Desk.device (hf.desk s)
  note level source text := .of_ok (fun _ => rfl) fun _ => rfl
  call c hc := .onDesk (honest_perform c hc)

/-- A deed whose failures can be blamed: what the host does fails as the crawl does, what is done at the engine's desk is
honest, and the engine is not closed. -/
def Careful : Deed State Handle τ α → Prop
  | .host act => ∀ h, ∀ f ∈ failureOf (act h), f.isCrawl = true
  | .observe look => ∀ s uses, look (s.withUses uses) = look s
  | .engine act => Honest act
  | .close owned => owned = false
  | _ => True

theorem blamed_within {act : Action τ α} (h : ∀ t, ∀ f ∈ failureOf (act t), f.isCrawl = true) :
    Blamed (Action.within (·.host) (fun t s => { s with host := t }) act : Action (Session State Handle τ) α) := by
  refine .of_desk (fun s => ?_) fun s f hf => ?_
  · unfold Action.within
    cases act s.host <;> rfl
  · unfold Action.within at hf
    cases hr : act s.host with
    | ok a t =>
        rw [hr] at hf
        cases hf
    | error g t =>
        rw [hr] at hf
        cases hf
        exact h s.host f (by rw [hr]; rfl)

theorem Careful.blamed {d : Deed State Handle τ α} (hd : Careful d) : Blamed (d.run engine) := by
  refine blamed_closed.deed d fun hs => ?_
  cases d with
  | host act => exact blamed_within hd
  | observe look => exact .of_ok (fun _ => rfl) fun _ => rfl
  | engine act => exact .onDesk hd
  | close owned =>
      cases hd
      exact blamed_closed.pure _
  | _ => exact hs.elim

theorem Careful.blind {d : Deed State Handle τ α} (hd : Careful d) : Blind (d.run engine) := by
  refine Deed.Blind.run engine ?_
  cases d with
  | observe look => exact hd
  | _ => exact trivial

/-- Failures of programs can be blamed on the calls that the programs make. -/
theorem blamed_program {m : Program State Handle τ α} (hm : m.AllDeeds Careful) : Blamed (m.run engine) := by
  have hclosed := (@Session.blind_closed _ _ τ engine).and blamed_closed
  refine (hclosed.program (fun entry block hblock => ?_) (hm.mono fun d hd => ⟨hd.blind, hd.blamed⟩)).2
  -- a use of an entry is a call of it, since its block does not see the open uses
  rw [Session.use_eq_call engine entry fun n => (hblock n).1]
  exact hclosed.runScoped entry.processor hblock

/-- **What the browser lets out.** From every session, a method of the engine, closing apart, fails with a failure that is
not the crawl's own just when a call that it makes, and whose failures are handed on, fails with it. A load and a
selection by path make no such call, and fail only as the crawl does. And every other failure of a program of session
operations was let out by a call that the program made. -/
theorem failures_let_out (s : Session State Handle τ) :
    (∀ c : Engine.Call Handle, c ≠ .close → ∃ made,
        Makes s.desk.device made (stateOf (engine.perform c s.desk)).device ∧
          ∀ f, f.isCrawl = false → (failureOf (engine.perform c s.desk) = some f ↔
            s.desk.device.scene.Leaks f s.desk.device.calls made)) ∧
      (∀ url, ∀ f ∈ failureOf (engine.loadDocument url s.desk), f.isCrawl = true) ∧
      (∀ root expression, ∀ f ∈ failureOf (engine.findByPath root expression s.desk), f.isCrawl = true) ∧
      ∀ m : Program State Handle τ α, m.AllDeeds Careful → ∃ made,
        Makes s.desk.device made (stateOf (m.run engine s)).desk.device ∧
          ∀ f, f.isCrawl = false → failureOf (m.run engine s) = some f →
            s.desk.device.scene.Leaks f s.desk.device.calls made := by
  refine ⟨fun c hc => honest_perform c hc s.desk, fun url => ?_, fun root expression => ?_, fun m hm => blamed_program hm s⟩
  · exact (covered_loadDocument url).fails s.desk
  · exact (covered_findByPath root expression).fails s.desk

/-- An engine whose browser fails to look for one element. -/
def troubled : State :=
  .start ⟨"chromium", none, true, false, 30000⟩
    { World.quiet with select := [("[id=\"x\"]", .step ⟨none, [], some (false, "boom")⟩)] } .none

/-- Looks for that element on the page. -/
def search : Program State Handle Unit Handle :=
  .bind (Program.page (.page 0)) fun page =>
    Program.inside page fun _ =>
      .bind (.deed (.describe (.element .container (some ⟨.identifier, "x", by decide⟩)) none)) fun p =>
        .deed (.resolveFrom p)

theorem failures_let_out_search :
    Engine.Call.findByIdentifier (Handle.page 0) "x" ≠ .close ∧ search.AllDeeds Careful ∧
      (∃ made, Makes troubled made (stateOf (engine.findByIdentifier (.page 0) "x" ⟨troubled, #[]⟩)).device ∧
        troubled.scene.Leaks (.browser false "boom") #[] made) ∧
      ∃ made, Makes troubled made (stateOf (search.run engine (Session.start troubled ()))).desk.device ∧
        troubled.scene.Leaks (.browser false "boom") #[] made := by
  obtain ⟨hcalls, -, -, hprograms⟩ := failures_let_out (Session.start troubled ())
  have hcareful : search.AllDeeds Careful := ⟨trivial, fun _ => ⟨trivial, fun _ _ => ⟨trivial, fun _ => trivial⟩⟩⟩
  have hfind : failureOf (engine.findByIdentifier (.page 0) "x" ⟨troubled, #[]⟩) = some (.browser false "boom") := by
    decide +kernel
  have hsearch : failureOf (search.run engine (Session.start troubled ())) = some (.browser false "boom") := by
    decide +kernel
  refine ⟨nofun, hcareful, ?_, ?_⟩
  · obtain ⟨made, hmade, hfails⟩ := hcalls (.findByIdentifier (.page 0) "x") nofun
    exact ⟨made, hmade, (hfails _ rfl).mp hfind⟩
  · obtain ⟨made, hmade, hfails⟩ := hprograms search hcareful
    exact ⟨made, hmade, hfails _ rfl hsearch⟩

/-- A failure to look for an element by its identifier leaves the engine as the browser's own. -/
theorem findByIdentifier_lets_out :
    ∃ s : State, failureOf (engine.perform (.findByIdentifier (.page 0) "x") ⟨s, #[]⟩) = some (.browser false "boom") :=
  ⟨troubled, by decide +kernel⟩

end Crawl.Browser
