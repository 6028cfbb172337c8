import Crawl.Proofs.Engine.Calls
/-!
# What an engine answers

A conversation with an engine is a row of calls that succeeded, each with its answer: every call is made in the state that
the one before it has left, whatever is written into the journal between the two.
-/

namespace Crawl.Engine

variable {δ ν γ : Type}

/-- A call with its answer. -/
structure Reply (ν : Type) where
  call : Call ν
  answer : call.Answer

/-- An engine gives some replies, one after the other, on the way from one state to another. -/
inductive Answers (E : Engine δ ν) : δ → List (Reply ν) → δ → Prop
  | silent (s : δ) : E.Answers s [] s
  | reply {s s' : δ} {r : Reply ν} {rs : List (Reply ν)} {d : Desk δ} (j : Journal)
      (first : E.perform r.call ⟨s, j⟩ = .ok r.answer d) (rest : E.Answers d.device rs s') : E.Answers s (r :: rs) s'

namespace Answers

variable {E : Engine δ ν} {s s' s'' : δ} {rs rs' : List (Reply ν)}

theorem one {c : Call ν} {a : c.Answer} {d d' : Desk δ} (h : E.perform c d = .ok a d') :
    E.Answers d.device [⟨c, a⟩] d'.device := .reply d.journal h (.silent _)

theorem append (h : E.Answers s rs s') (h' : E.Answers s' rs' s'') : E.Answers s (rs ++ rs') s'' := by
  induction h with
  | silent s => exact h'
  | reply j first rest ih => exact .reply j first (ih h')

theorem split (h : E.Answers s (rs ++ rs') s'') : ∃ s', E.Answers s rs s' ∧ E.Answers s' rs' s'' := by
  induction rs generalizing s with
  | nil => exact ⟨s, .silent s, h⟩
  | cons r rs ih =>
      cases h with
      | reply j first rest =>
          obtain ⟨s', hrs, hrs'⟩ := ih rest
          exact ⟨s', .reply j first hrs, hrs'⟩

end Answers

end Crawl.Engine
