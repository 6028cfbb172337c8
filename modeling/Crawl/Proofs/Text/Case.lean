import Crawl.Text.Case
/-!
# Characters of ASCII and their case

What holds of all characters of ASCII may be tried on their numbers (`forall_ascii`). Only two things come out as ASCII when a text is put into lower case: the ASCII letters, and the Kelvin sign, whose lower
case is `k`. So a text without ASCII capitals whose lower case is a word in ASCII without a `k` is that word.
-/

namespace Crawl.Text

/-! ## Characters of ASCII -/

/-- What holds of the characters with the numbers of ASCII holds of every character of ASCII. -/
theorem forall_ascii {P : Char → Prop} (h : ∀ n < 128, P (Char.ofNat n)) {c : Char} (hc : c.toNat < 128) : P c := by
  have hP := h c.toNat hc
  rwa [Char.ofNat_toNat] at hP

/-- The bounds of a range of characters, as numbers. -/
theorem toNat_of_range {c first last : Char} (h : c.val ≥ first.val ∧ c.val ≤ last.val) :
    first.toNat ≤ c.toNat ∧ c.toNat ≤ last.toNat :=
  ⟨UInt32.le_iff_toNat_le.mp h.1, UInt32.le_iff_toNat_le.mp h.2⟩

theorem toNat_of_isUpper {c : Char} (h : c.isUpper = true) : 65 ≤ c.toNat ∧ c.toNat ≤ 90 :=
  toNat_of_range (of_decide_eq_true h)

theorem toLower_of_not_isUpper {c : Char} (h : c.isUpper = false) : c.toLower = c := dif_neg (of_decide_eq_false h)

/-! ## Words that are lower case only of themselves -/

/-- The image of a run of characters beyond ASCII is beyond ASCII too, but for the Kelvin sign. -/
def IsFarRun (run : Nat × Nat × Nat × Nat) : Prop :=
  run.2.1 < 128 ∨ run.1 = run.2.1 ∧ run.2.2.2 = 107 ∨
    128 ≤ run.2.2.2 ∧ (run.2.2.2 + (run.2.1 - run.1) < 0xd800 ∨
      0xdfff < run.2.2.2 ∧ run.2.2.2 + (run.2.1 - run.1) < 0x110000)

instance (run : Nat × Nat × Nat × Nat) : Decidable (IsFarRun run) := by
  unfold IsFarRun
  infer_instance

theorem lowerRuns_far : ∀ run ∈ lowerRuns, IsFarRun run := by decide +kernel

theorem lowerLong_far : ∀ p ∈ lowerLong, ∃ n ∈ p.2, 128 ≤ (Char.ofNat n).toNat := by decide +kernel

theorem toNat_ofNat {n : Nat} (h : n < 0xd800 ∨ 0xdfff < n ∧ n < 0x110000) : (Char.ofNat n).toNat = n := by
  have hvalid : n.isValidChar := h
  unfold Char.ofNat
  rw [dif_pos hvalid]
  rfl

/-- The lower case of a character beyond ASCII has a character beyond ASCII, or it is `k`. -/
theorem lowerChar_far {c : Char} (h : 128 ≤ c.toNat) : ∃ d ∈ lowerChar c, 128 ≤ d.toNat ∨ d = 'k' := by
  rw [lowerChar, if_neg (Nat.not_lt.mpr h), imageOf]
  split
  · next n ns hfind =>
      obtain ⟨m, hm, hfar⟩ := lowerLong_far _ (List.mem_of_find?_eq_some hfind)
      exact ⟨Char.ofNat m, List.mem_map_of_mem hm, .inl hfar⟩
  · refine ⟨_, List.mem_singleton.mpr rfl, ?_⟩
    unfold imageIn
    split
    · next first last stride image hfind =>
        have hrun := lowerRuns_far _ (List.mem_of_find?_eq_some hfind)
        have hin := List.find?_some hfind
        simp only [Bool.and_eq_true, decide_eq_true_eq] at hin
        rcases hrun with hnear | ⟨hone, hk⟩ | ⟨hfar, hvalid⟩
        · dsimp only at hnear
          omega
        · dsimp only at hone hk
          have hc : image + (c.toNat - first) = 107 := by omega
          rw [hc]
          exact .inr rfl
        · dsimp only at hfar hvalid
          refine .inl ?_
          rw [toNat_ofNat (by omega)]
          omega
    · rw [Char.ofNat_toNat]
      exact .inl h

/-- A word that nothing but ASCII letters has as its lower case: it is in ASCII, and has no `k`. -/
def IsPlain (word : String) : Prop := ∀ c ∈ word.toList, c.toNat < 128 ∧ c ≠ 'k'

instance (word : String) : Decidable (IsPlain word) := List.decidableBAll (fun c : Char => c.toNat < 128 ∧ c ≠ 'k') word.toList

/-- A text without ASCII capitals is the plain word that its lower case is. -/
theorem eq_of_lower {s word : String} (hs : ∀ c ∈ s.toList, c.isUpper = false) (hword : IsPlain word) (h : lower s = word) : s = word := by
  have hlower : s.toList.flatMap lowerChar = word.toList := by rw [← h, lower, String.toList_ofList]
  have hone : ∀ c ∈ s.toList, lowerChar c = [c] := by
    intro c hc
    have hnear : c.toNat < 128 := by
      refine Nat.lt_of_not_le fun hfar => ?_
      obtain ⟨d, hd, hcase⟩ := lowerChar_far hfar
      have hd' := hword d (hlower ▸ List.mem_flatMap.mpr ⟨c, hc, hd⟩)
      rcases hcase with hcase | rfl
      · omega
      · exact hd'.2 rfl
    rw [lowerChar, if_pos hnear, toLower_of_not_isUpper (hs c hc)]
  have hsame : s.toList.flatMap lowerChar = s.toList := by
    rw [List.flatMap_def, List.map_congr_left hone, ← List.flatMap_def]
    exact List.flatMap_singleton' s.toList
  exact String.toList_inj.mp (hsame.symm.trans hlower)

end Crawl.Text
