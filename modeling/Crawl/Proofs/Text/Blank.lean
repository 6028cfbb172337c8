import Crawl.Text.Blank
import Crawl.Text.Case
/-!
# Blanks and lower case

Blanks have no case, so they are still there in a text that was put into lower case. A text that is a single word in
lower case has therefore no blanks, and nothing is taken off it when the blanks around it are.
-/

namespace Crawl.Text

/-- The code points of the blanks. -/
def blanks : List Nat :=
  [9, 10, 11, 12, 13, 28, 29, 30, 31, 32, 0x85, 0xa0, 0x1680, 0x2000, 0x2001, 0x2002, 0x2003, 0x2004, 0x2005, 0x2006,
    0x2007, 0x2008, 0x2009, 0x200a, 0x2028, 0x2029, 0x202f, 0x205f, 0x3000]

theorem mem_blanks {c : Char} (h : isBlank c = true) : c.toNat ∈ blanks := by
  simp only [isBlank, Bool.or_eq_true, Bool.and_eq_true, decide_eq_true_eq, beq_iff_eq] at h
  simp only [blanks, List.mem_cons, List.not_mem_nil, or_false]
  omega

/-- A blank is its own lower case. -/
theorem lowerChar_blank {c : Char} (h : isBlank c = true) : lowerChar c = [c] := by
  have hall : ∀ n ∈ blanks, lowerChar (Char.ofNat n) = [Char.ofNat n] := by decide +kernel
  have hc := hall c.toNat (mem_blanks h)
  rwa [Char.ofNat_toNat] at hc

/-- A text whose lower case has no blanks has none itself. -/
theorem noBlank_of_lower {s : String} (h : ∀ c ∈ (lower s).toList, isBlank c = false) : ∀ c ∈ s.toList, isBlank c = false := by
  intro c hc
  cases hblank : isBlank c with
  | false => rfl
  | true =>
      have hlower : c ∈ (lower s).toList := by
        rw [lower, String.toList_ofList, List.mem_flatMap]
        exact ⟨c, hc, by rw [lowerChar_blank hblank]; exact List.mem_singleton.mpr rfl⟩
      rw [h c hlower] at hblank
      cases hblank

theorem dropWhile_noBlank {cs : List Char} (h : ∀ c ∈ cs, isBlank c = false) : cs.dropWhile isBlank = cs := by
  cases cs with
  | nil => rfl
  | cons c cs => rw [List.dropWhile_cons, h c List.mem_cons_self]; rfl

/-- Nothing is taken off a text without blanks. -/
theorem strip_noBlank {s : String} (h : ∀ c ∈ s.toList, isBlank c = false) : strip s = s := by
  have hreverse : ∀ c ∈ s.toList.reverse, isBlank c = false := fun c hc => h c (List.mem_reverse.mp hc)
  rw [strip, stripList, dropWhile_noBlank h, dropWhile_noBlank hreverse, List.reverse_reverse, String.ofList_toList]

end Crawl.Text
