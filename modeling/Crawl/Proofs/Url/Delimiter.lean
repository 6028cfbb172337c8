import Crawl.Url.Split
/-!
# Text up to a delimiter

Addresses and queries are taken apart at delimiters. What was put together from parts comes apart into the same parts
when no part holds the delimiter that ends it.
-/

namespace Crawl.Url

variable {stop : Char → Bool} {sep : Char} {cs rest : List Char}

/-- A text without a stop, in front of nothing or of a stop, is what stands before the first stop. -/
theorem before_append (hcs : ∀ c ∈ cs, stop c = false) (hrest : ∀ c ∈ rest.head?, stop c = true) :
    before stop (cs ++ rest) = cs := by
  have hpass : ∀ c ∈ cs, (!stop c) = true := fun c hc => by rw [hcs c hc]; rfl
  rw [before, List.takeWhile_append_of_pos hpass]
  cases rest with
  | nil => rw [List.takeWhile_nil, List.append_nil]
  | cons d rest => rw [List.takeWhile_cons_of_neg (by rw [hrest d rfl]; decide), List.append_nil]

theorem since_append (hcs : ∀ c ∈ cs, stop c = false) (hrest : ∀ c ∈ rest.head?, stop c = true) :
    since stop (cs ++ rest) = rest := by
  have hpass : ∀ c ∈ cs, (!stop c) = true := fun c hc => by rw [hcs c hc]; rfl
  rw [since, List.dropWhile_append_of_pos hpass]
  cases rest with
  | nil => rfl
  | cons d rest => rw [List.dropWhile_cons_of_neg (by rw [hrest d rfl]; decide)]

/-- What passes a test is taken up to the first character that does not. -/
theorem takeWhile_stop {p : Char → Bool} {d : Char} (hcs : ∀ c ∈ cs, p c = true) (hd : p d = false) (rest : List Char) :
    (cs ++ d :: rest).takeWhile p = cs := by
  rw [List.takeWhile_append_of_pos hcs, List.takeWhile_cons_of_neg (by simp [hd]), List.append_nil]

theorem dropWhile_stop {p : Char → Bool} {d : Char} (hcs : ∀ c ∈ cs, p c = true) (hd : p d = false) (rest : List Char) :
    (cs ++ d :: rest).dropWhile p = d :: rest := by
  rw [List.dropWhile_append_of_pos hcs, List.dropWhile_cons_of_neg (by simp [hd])]

theorem mem_of_before {c : Char} (h : c ∈ before stop cs) : c ∈ cs := List.takeWhile_subset _ h

theorem mem_of_since {c : Char} (h : c ∈ since stop cs) : c ∈ cs := List.dropWhile_subset _ h

theorem stop_of_before {c : Char} (h : c ∈ before stop cs) : stop c = false := by
  have hall : (before stop cs).all (!stop ·) = true := List.all_takeWhile
  have hc := List.all_eq_true.mp hall c h
  simpa using hc

/-- What comes from the first stop on begins with a stop. -/
theorem stop_of_since {c : Char} (h : c ∈ (since stop cs).head?) : stop c = true := by
  have hhead := List.head?_dropWhile_not (!stop ·) cs
  rw [show (cs.dropWhile (!stop ·)).head? = some c from h] at hhead
  simpa using hhead

theorem cut_append (h : sep ∉ cs) (rest : List Char) : cut sep (cs ++ sep :: rest) = (cs, rest) := by
  have hcs : ∀ c ∈ cs, (c == sep) = false := fun c hc => beq_eq_false_iff_ne.mpr fun he => h (he ▸ hc)
  have hrest : ∀ c ∈ (sep :: rest).head?, (c == sep) = true := by
    rintro c ⟨⟩
    exact beq_self_eq_true sep
  rw [cut, before_append hcs hrest, since_append hcs hrest, List.tail_cons]

/-- A text without the delimiter is cut behind its end. -/
theorem cut_whole (h : sep ∉ cs) : cut sep cs = (cs, []) := by
  have hcs : ∀ c ∈ cs, (c == sep) = false := fun c hc => beq_eq_false_iff_ne.mpr fun he => h (he ▸ hc)
  have hbefore : before (· == sep) (cs ++ []) = cs := before_append hcs nofun
  have hsince : since (· == sep) (cs ++ []) = [] := since_append hcs nofun
  rw [List.append_nil] at hbefore hsince
  rw [cut, hbefore, hsince, List.tail_nil]

theorem not_mem_cut (sep : Char) (cs : List Char) : sep ∉ (cut sep cs).1 := fun h => by
  have hmem : sep ∈ before (· == sep) cs := h
  have hstop := stop_of_before hmem
  rw [beq_self_eq_true] at hstop
  cases hstop

theorem mem_of_cut_left {c : Char} (h : c ∈ (cut sep cs).1) : c ∈ cs := mem_of_before h

theorem mem_of_cut_right {c : Char} (h : c ∈ (cut sep cs).2) : c ∈ cs := mem_of_since (List.mem_of_mem_tail h)

/-! ## Pieces -/

theorem pieces_whole (h : sep ∉ cs) : Host.pieces sep cs = [cs] := by
  induction cs with
  | nil => rfl
  | cons c cs ih =>
      have hc : ¬ c = sep := fun he => h (he ▸ List.mem_cons_self)
      rw [Host.pieces, if_neg hc, ih fun hmem => h (List.mem_cons_of_mem c hmem)]

theorem pieces_append (h : sep ∉ cs) (rest : List Char) :
    Host.pieces sep (cs ++ sep :: rest) = cs :: Host.pieces sep rest := by
  induction cs with
  | nil => rw [List.nil_append, Host.pieces, if_pos rfl]
  | cons c cs ih =>
      have hc : ¬ c = sep := fun he => h (he ▸ List.mem_cons_self)
      rw [List.cons_append, Host.pieces, if_neg hc, ih fun hmem => h (List.mem_cons_of_mem c hmem)]

/-- Taking a text apart is the library's splitting. -/
theorem pieces_eq_splitOn (sep : Char) (cs : List Char) : Host.pieces sep cs = cs.splitOn sep := by
  induction cs with
  | nil => rfl
  | cons c cs ih =>
      rw [Host.pieces, ih, List.splitOn_cons_eq_if_modifyHead]
      simp only [beq_iff_eq]
      split
      · rfl
      · have hne := List.splitOn_ne_nil sep cs
        cases hsplit : cs.splitOn sep with
        | nil => exact absurd hsplit hne
        | cons p ps => rfl

/-- Pieces hold no delimiter. -/
theorem not_mem_of_mem_pieces {p : List Char} (h : p ∈ Host.pieces sep cs) : sep ∉ p := by
  induction cs generalizing p with
  | nil =>
      cases List.mem_singleton.mp h
      exact List.not_mem_nil
  | cons c cs ih =>
      rw [Host.pieces] at h
      split at h
      · rcases List.mem_cons.mp h with rfl | h
        · exact List.not_mem_nil
        · exact ih h
      · next hc =>
          split at h
          · cases List.mem_singleton.mp h
            exact fun hmem => hc (List.mem_singleton.mp hmem).symm
          · next q qs hpieces =>
              rw [hpieces] at ih
              rcases List.mem_cons.mp h with rfl | h
              · intro hmem
                rcases List.mem_cons.mp hmem with rfl | hmem
                · exact hc rfl
                · exact ih List.mem_cons_self hmem
              · exact ih (List.mem_cons_of_mem q h)

/-- With the delimiter there are at least two pieces. -/
theorem two_le_length_pieces (h : sep ∈ cs) : 2 ≤ (Host.pieces sep cs).length := by
  obtain ⟨before, after, rfl, hbefore⟩ := List.eq_append_cons_of_mem h
  have hne : Host.pieces sep after ≠ [] := pieces_eq_splitOn sep after ▸ List.splitOn_ne_nil sep after
  have hpos := List.length_pos_iff.mpr hne
  rw [pieces_append hbefore, List.length_cons]
  omega

end Crawl.Url
