import Crawl.Text.Utf8
/-!
# Reading UTF-8 back

What the bytes of a character stand for is read off their first byte: it tells how many bytes follow and between which
bounds the second one lies. The bounds leave out exactly what no character is written as, namely longer forms of what has
a shorter one, surrogates, and numbers beyond the last character. So the bytes of a text are read as that text, and
nothing in them is taken for a bad stretch (`decodeForgiving_encode`).
-/

namespace Crawl.Text.Utf8

theorem toNat_toUInt8 {n : Nat} (h : n < 256) : n.toUInt8.toNat = n := by
  rw [Nat.toUInt8, UInt8.toNat_ofNat', Nat.mod_eq_of_lt h]

/-- No character is a surrogate. -/
theorem toNat_valid (c : Char) : c.toNat < 0xd800 ∨ 0xdfff < c.toNat ∧ c.toNat < 0x110000 := c.valid

/-! ## One character -/

/-- A further byte within its bounds is added to the value. -/
theorem tail_next {lo hi n : Nat} (left value taken : Nat) (hlo : lo ≤ n) (hhi : n ≤ hi) (hn : n < 256) (bs : List UInt8) :
    tail lo hi (left + 1) value taken (n.toUInt8 :: bs) =
      tail 0x80 0xbf left (value * 64 + (n - 0x80)) (taken + 1) bs := by
  rw [tail, toNat_toUInt8 hn, if_pos]
  rw [Bool.and_eq_true]
  exact ⟨decide_eq_true hlo, decide_eq_true hhi⟩

/-- Six bits of a number in a further byte. -/
theorem tail_bits (left value taken m : Nat) (bs : List UInt8) :
    tail 0x80 0xbf (left + 1) value taken ((0x80 + m % 64).toUInt8 :: bs) =
      tail 0x80 0xbf left (value * 64 + m % 64) (taken + 1) bs := by
  rw [tail_next left value taken (by omega) (by omega) (by omega), Nat.add_sub_cancel_left]

/-- A first byte that begins a sequence. -/
theorem head_lead {n lo hi left : Nat} (hn : n < 256) (hbig : 0x80 ≤ n) (hshape : shape n = some (lo, hi, left))
    (bs : List UInt8) :
    head n.toUInt8 bs =
      tail lo hi left (if left == 1 then n - 0xc0 else if left == 2 then n - 0xe0 else n - 0xf0) 1 bs := by
  rw [head, toNat_toUInt8 hn, if_neg (Nat.not_lt.mpr hbig), hshape]

theorem head_one {c : Char} (h : c.toNat < 0x80) (bs : List UInt8) : head c.toNat.toUInt8 bs = .char c 1 := by
  rw [head, toNat_toUInt8 (by omega), if_pos h, Char.ofNat_toNat]

theorem head_two {c : Char} (h : 0x80 ≤ c.toNat) (h' : c.toNat < 0x800) (bs : List UInt8) :
    head (0xc0 + c.toNat / 64).toUInt8 ((0x80 + c.toNat % 64).toUInt8 :: bs) = .char c 2 := by
  have hshape : shape (0xc0 + c.toNat / 64) = some (0x80, 0xbf, 1) := by
    unfold shape
    rw [if_pos]
    simp only [Bool.and_eq_true, decide_eq_true_eq]
    omega
  have hvalue : (0xc0 + c.toNat / 64 - 0xc0) * 64 + c.toNat % 64 = c.toNat := by omega
  rw [head_lead (by omega) (by omega) hshape, tail_bits]
  simp only [beq_self_eq_true, if_true, hvalue, tail, Char.ofNat_toNat]

/-- The second byte of three lies between bounds that depend on the first. -/
theorem shape_three {n : Nat} (h : 0x800 ≤ n) (h' : n < 0x10000) (hvalid : n < 0xd800 ∨ 0xdfff < n) :
    ∃ lo hi, shape (0xe0 + n / 4096) = some (lo, hi, 2) ∧ lo ≤ 0x80 + n / 64 % 64 ∧ 0x80 + n / 64 % 64 ≤ hi := by
  unfold shape
  by_cases hfirst : n / 4096 = 0
  · exact ⟨0xa0, 0xbf, by rw [hfirst]; rfl, by omega, by omega⟩
  · by_cases hlast : n / 4096 = 13
    · exact ⟨0x80, 0x9f, by rw [hlast]; rfl, by omega, by omega⟩
    · refine ⟨0x80, 0xbf, ?_, by omega, by omega⟩
      simp only [Bool.and_eq_true, decide_eq_true_eq, beq_iff_eq]
      rw [if_neg (by omega), if_neg (by omega), if_neg (by omega), if_pos (by omega)]

theorem head_three {c : Char} (h : 0x800 ≤ c.toNat) (h' : c.toNat < 0x10000) (bs : List UInt8) :
    head (0xe0 + c.toNat / 4096).toUInt8
      ((0x80 + c.toNat / 64 % 64).toUInt8 :: (0x80 + c.toNat % 64).toUInt8 :: bs) = .char c 3 := by
  have hvalid : c.toNat < 0xd800 ∨ 0xdfff < c.toNat := (toNat_valid c).imp id And.left
  obtain ⟨lo, hi, hshape, hlo, hhi⟩ := shape_three h h' hvalid
  have hvalue : ((0xe0 + c.toNat / 4096 - 0xe0) * 64 + (0x80 + c.toNat / 64 % 64 - 0x80)) * 64 + c.toNat % 64 = c.toNat := by
    omega
  rw [head_lead (by omega) (by omega) hshape, tail_next _ _ _ hlo hhi (by omega), tail_bits]
  have hleft : (2 == 1) = false := rfl
  simp only [hleft, Bool.false_eq_true, beq_self_eq_true, if_false, if_true, hvalue, tail, Char.ofNat_toNat]

/-- The second byte of four lies between bounds that depend on the first. -/
theorem shape_four {n : Nat} (h : 0x10000 ≤ n) (h' : n < 0x110000) :
    ∃ lo hi, shape (0xf0 + n / 262144) = some (lo, hi, 3) ∧ lo ≤ 0x80 + n / 4096 % 64 ∧ 0x80 + n / 4096 % 64 ≤ hi := by
  unfold shape
  by_cases hfirst : n / 262144 = 0
  · exact ⟨0x90, 0xbf, by rw [hfirst]; rfl, by omega, by omega⟩
  · by_cases hlast : n / 262144 = 4
    · exact ⟨0x80, 0x8f, by rw [hlast]; rfl, by omega, by omega⟩
    · refine ⟨0x80, 0xbf, ?_, by omega, by omega⟩
      simp only [Bool.and_eq_true, decide_eq_true_eq, beq_iff_eq]
      rw [if_neg (by omega), if_neg (by omega), if_neg (by omega), if_neg (by omega), if_neg (by omega),
        if_neg (by omega), if_pos (by omega)]

theorem head_four {c : Char} (h : 0x10000 ≤ c.toNat) (bs : List UInt8) :
    head (0xf0 + c.toNat / 262144).toUInt8
      ((0x80 + c.toNat / 4096 % 64).toUInt8 :: (0x80 + c.toNat / 64 % 64).toUInt8 :: (0x80 + c.toNat % 64).toUInt8 :: bs) =
        .char c 4 := by
  have hvalid : c.toNat < 0x110000 := by
    have := toNat_valid c
    omega
  obtain ⟨lo, hi, hshape, hlo, hhi⟩ := shape_four h hvalid
  have hvalue : (((0xf0 + c.toNat / 262144 - 0xf0) * 64 + (0x80 + c.toNat / 4096 % 64 - 0x80)) * 64 + c.toNat / 64 % 64) * 64 +
      c.toNat % 64 = c.toNat := by omega
  rw [head_lead (by omega) (by omega) hshape, tail_next _ _ _ hlo hhi (by omega), tail_bits, tail_bits]
  have hone : (3 == 1) = false := rfl
  have htwo : (3 == 2) = false := rfl
  simp only [hone, htwo, Bool.false_eq_true, if_false, hvalue, tail, Char.ofNat_toNat]

/-- Whatever stands behind the bytes of a character, the character is read from them. -/
theorem head_encodeChar (c : Char) (rest : List UInt8) :
    ∃ b bs, encodeChar c = b :: bs ∧ head b (bs ++ rest) = .char c (bs.length + 1) := by
  unfold encodeChar
  dsimp only
  by_cases h1 : c.toNat < 0x80
  · rw [if_pos h1]
    exact ⟨_, _, rfl, head_one h1 rest⟩
  rw [if_neg h1]
  by_cases h2 : c.toNat < 0x800
  · rw [if_pos h2]
    exact ⟨_, _, rfl, head_two (Nat.le_of_not_lt h1) h2 rest⟩
  rw [if_neg h2]
  by_cases h3 : c.toNat < 0x10000
  · rw [if_pos h3]
    exact ⟨_, _, rfl, head_three (Nat.le_of_not_lt h2) h3 rest⟩
  rw [if_neg h3]
  exact ⟨_, _, rfl, head_four (Nat.le_of_not_lt h3) rest⟩

/-! ## Whole texts -/

/-- Bytes that are skipped are not looked at. -/
theorem decodeForgivingFrom_skip (bs rest : List UInt8) :
    decodeForgivingFrom bs.length (bs ++ rest) = decodeForgivingFrom 0 rest := by
  induction bs with
  | nil => rfl
  | cons b bs ih => exact ih

theorem decodeForgivingFrom_encodeChar (c : Char) (rest : List UInt8) :
    decodeForgivingFrom 0 (encodeChar c ++ rest) = c :: decodeForgivingFrom 0 rest := by
  obtain ⟨b, bs, hbytes, hhead⟩ := head_encodeChar c rest
  rw [hbytes, List.cons_append, decodeForgivingFrom, hhead]
  dsimp only
  rw [Nat.add_sub_cancel, decodeForgivingFrom_skip]

/-- **A text is read back from its bytes.** -/
theorem decodeForgiving_encode (cs : List Char) : decodeForgiving (encode cs) = cs := by
  induction cs with
  | nil => rfl
  | cons c cs ih =>
      rw [decodeForgiving, encode, List.flatMap_cons, decodeForgivingFrom_encodeChar]
      exact congrArg (c :: ·) ih

end Crawl.Text.Utf8
