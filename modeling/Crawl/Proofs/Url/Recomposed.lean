import Crawl.Proofs.Text.Case
import Crawl.Proofs.Url.Delimiter
/-!
# Addresses put together again

The parts that an address was split into are regular: each of them holds nothing that would end it earlier. Regular parts
with a network location, put together and split again, are the same parts (`split_unsplit`), so the query of an address may
be replaced without a change of what stands before it.
-/

namespace Crawl.Url

variable {c : Char} {cs : List Char} {p : Parts}

/-! ## Characters -/

/-- A character that splitting removes wherever it stands. -/
def isLine (c : Char) : Bool := c == '\t' || c == '\r' || c == '\n'

theorem toNat_of_isAlphanum (h : c.isAlphanum = true) : 48 ≤ c.toNat ∧ c.toNat ≤ 122 := by
  have hbounds {first last : Char} (h : (decide (c.val ≥ first.val) && decide (c.val ≤ last.val)) = true) :
      first.toNat ≤ c.toNat ∧ c.toNat ≤ last.toNat := by
    obtain ⟨hfirst, hlast⟩ := Bool.and_eq_true_iff.mp h
    exact Text.toNat_of_range ⟨of_decide_eq_true hfirst, of_decide_eq_true hlast⟩
  rcases Bool.or_eq_true_iff.mp h with halpha | hdigit
  · rcases Bool.or_eq_true_iff.mp halpha with hupper | hlower
    · obtain ⟨hA, hZ⟩ := Text.toNat_of_isUpper hupper
      omega
    · obtain ⟨ha, hz⟩ : 97 ≤ c.toNat ∧ c.toNat ≤ 122 := hbounds hlower
      omega
  · obtain ⟨h0, h9⟩ : 48 ≤ c.toNat ∧ c.toNat ≤ 57 := hbounds hdigit
    omega

theorem toNat_of_isSchemeChar (h : isSchemeChar c = true) : 43 ≤ c.toNat ∧ c.toNat ≤ 122 := by
  simp only [isSchemeChar, Bool.or_eq_true, beq_iff_eq] at h
  rcases h with ((h | rfl) | rfl) | rfl
  · have := toNat_of_isAlphanum h
    omega
  all_goals decide

/-- The characters of a scheme in lower case are characters of a scheme in lower case. -/
theorem lower_schemeChar (h : isSchemeChar c = true) :
    isSchemeChar c.toLower = true ∧ c.toLower.toLower = c.toLower ∧ (c.isAlpha = true → c.toLower.isAlpha = true) := by
  obtain ⟨-, hlast⟩ := toNat_of_isSchemeChar h
  exact Text.forall_ascii (P := fun c => isSchemeChar c = true → isSchemeChar c.toLower = true ∧
    c.toLower.toLower = c.toLower ∧ (c.isAlpha = true → c.toLower.isAlpha = true)) (by decide +kernel) (by omega) h

/-! ## Tidy texts -/

theorem not_isLine_of_tidy (h : c ∈ tidy cs) : isLine c = false := by
  have hline := (List.mem_filter.mp h).2
  unfold isLine
  simp only [Bool.and_eq_true, bne_iff_ne, ne_eq] at hline
  simp [hline]

/-- Nothing is removed from a text without line ends that begins with a visible character. -/
theorem tidy_eq (hline : ∀ c ∈ cs, isLine c = false) (hhead : ∀ c ∈ cs.head?, 32 < c.toNat) : tidy cs = cs := by
  have hdrop : cs.dropWhile (·.toNat ≤ 32) = cs := by
    cases cs with
    | nil => rfl
    | cons c cs =>
        have hc := hhead c rfl
        exact List.dropWhile_cons_of_neg (by simpa using hc)
  rw [tidy, hdrop]
  refine List.filter_eq_self.mpr fun c hc => ?_
  have h := hline c hc
  simp only [isLine, Bool.or_eq_false_iff, beq_eq_false_iff_ne, ne_eq] at h
  simp [h]

/-! ## Regular parts -/

/-- A scheme as splitting gives it: none, or a letter and further characters of schemes, in lower case. -/
structure IsScheme (scheme : List Char) : Prop where
  chars : ∀ c ∈ scheme, isSchemeChar c = true
  lower : ∀ c ∈ scheme, c.toLower = c
  letter : ∀ c ∈ scheme.head?, c.isAlpha = true

/-- Parts of which none holds what would end it earlier or would be removed. -/
structure Regular (p : Parts) : Prop where
  scheme : IsScheme p.scheme
  netloc : ∀ c ∈ p.netloc, endsNetloc c = false
  rooted : p.netloc ≠ [] → ∀ c ∈ p.path.head?, c = '/'
  path : '?' ∉ p.path ∧ '#' ∉ p.path
  query : '#' ∉ p.query
  netlocLine : ∀ c ∈ p.netloc, isLine c = false
  pathLine : ∀ c ∈ p.path, isLine c = false
  queryLine : ∀ c ∈ p.query, isLine c = false
  fragmentLine : ∀ c ∈ p.fragment, isLine c = false
  checked : checkNetloc p.netloc = .ok ()

/-- A text either has a scheme of its own or is left as it is. -/
theorem takeScheme_cases (cs : List Char) :
    (takeScheme [] cs = ([], cs)) ∨
      ∃ name rest, cs = name ++ ':' :: rest ∧ takeScheme [] cs = (name.map Char.toLower, rest) ∧
        IsScheme (name.map Char.toLower) := by
  have hsplit : before (· == ':') cs ++ since (· == ':') cs = cs := List.takeWhile_append_dropWhile
  unfold takeScheme
  dsimp only
  split
  · next c name d rest hname hrest =>
      split
      · next hscheme =>
          obtain ⟨halpha, hall⟩ := Bool.and_eq_true_iff.mp hscheme
          have hhead : d ∈ (since (· == ':') cs).head? := by rw [hrest]; rfl
          have hstop := stop_of_since hhead
          have hcolon : d = ':' := beq_iff_eq.mp hstop
          have hwhole : c :: name ++ ':' :: rest = cs := by
            rw [hname, hrest, hcolon] at hsplit
            exact hsplit
          have hchars : ∀ x ∈ c :: name, isSchemeChar x = true := List.all_eq_true.mp (hname ▸ hall)
          refine .inr ⟨c :: name, rest, hwhole.symm, by rw [hname], ?_, ?_, ?_⟩
          · intro x hx
            obtain ⟨y, hy, rfl⟩ := List.mem_map.mp hx
            exact (lower_schemeChar (hchars y hy)).1
          · intro x hx
            obtain ⟨y, hy, rfl⟩ := List.mem_map.mp hx
            exact (lower_schemeChar (hchars y hy)).2.1
          · rintro x ⟨⟩
            exact (lower_schemeChar (hchars c List.mem_cons_self)).2.2 halpha
      · exact .inl rfl
  · exact .inl rfl

/-- A scheme that is written before a colon is taken from there. -/
theorem takeScheme_written {scheme : List Char} (h : IsScheme scheme) (hne : scheme ≠ []) (rest : List Char) :
    takeScheme [] (scheme ++ ':' :: rest) = (scheme, rest) := by
  have hstop : ∀ c ∈ scheme, (c == ':') = false := by
    intro c hc
    refine beq_eq_false_iff_ne.mpr ?_
    rintro rfl
    exact absurd (h.chars ':' hc) (by decide)
  have hhead : ∀ c ∈ (':' :: rest).head?, (c == ':') = true := by
    rintro c ⟨⟩
    rfl
  obtain ⟨c, name, rfl⟩ := List.exists_cons_of_ne_nil hne
  have hall : (c :: name).all isSchemeChar = true := List.all_eq_true.mpr h.chars
  have hlower : (c :: name).map Char.toLower = c :: name := (List.map_congr_left h.lower).trans (List.map_id' _)
  rw [takeScheme, before_append hstop hhead, since_append hstop hhead]
  dsimp only
  rw [h.letter c rfl, hall, hlower]
  rfl

/-! ## Splitting gives regular parts -/

/-- The scheme and the rest of a text come from the text. -/
theorem takeScheme_parts (cs : List Char) :
    IsScheme (takeScheme [] cs).1 ∧ ∀ c ∈ (takeScheme [] cs).2, c ∈ cs := by
  rcases takeScheme_cases cs with h | ⟨name, rest, rfl, h, hscheme⟩
  · rw [h]
    exact ⟨⟨nofun, nofun, nofun⟩, fun _ hc => hc⟩
  · rw [h]
    exact ⟨hscheme, fun c hc => List.mem_append_right name (List.mem_cons_of_mem ':' hc)⟩

/-- What follows a network location begins with the character that ends it. -/
theorem takeNetloc_parts (cs : List Char) :
    (∀ c ∈ (takeNetloc cs).1, endsNetloc c = false ∧ c ∈ cs) ∧ (∀ c ∈ (takeNetloc cs).2, c ∈ cs) ∧
      ((takeNetloc cs).1 ≠ [] → ∀ c ∈ (takeNetloc cs).2.head?, endsNetloc c = true) := by
  unfold takeNetloc
  split
  · next cs =>
      refine ⟨fun c hc => ⟨stop_of_before hc, ?_⟩, fun c hc => ?_, fun _ c hc => stop_of_since hc⟩
      · exact List.mem_cons_of_mem '/' (List.mem_cons_of_mem '/' (mem_of_before hc))
      · exact List.mem_cons_of_mem '/' (List.mem_cons_of_mem '/' (mem_of_since hc))
  · exact ⟨nofun, fun _ hc => hc, fun h => absurd rfl h⟩

/-- The part before a delimiter begins as the whole text does. -/
theorem head_of_cut {sep : Char} (h : c ∈ (cut sep cs).1.head?) : c ∈ cs.head? ∧ c ≠ sep := by
  have hsplit : (cut sep cs).1 ++ since (· == sep) cs = cs := List.takeWhile_append_dropWhile
  refine ⟨?_, ?_⟩
  · rw [← hsplit, List.head?_append, Option.mem_def.mp h]
    rfl
  · rintro rfl
    exact not_mem_cut c cs (List.mem_of_mem_head? h)

theorem regular_of_split (h : split cs = .ok p) : Regular p := by
  have hscheme := takeScheme_parts (tidy cs)
  have hnetloc := takeNetloc_parts (takeScheme [] (tidy cs)).2
  unfold split splitUnder at h
  dsimp only at h
  split at h
  · next hchecked =>
      cases h
      have hline : ∀ c ∈ (takeNetloc (takeScheme [] (tidy cs)).2).2, isLine c = false := fun c hc =>
        not_isLine_of_tidy (hscheme.2 c (hnetloc.2.1 c hc))
      refine ⟨hscheme.1, fun c hc => (hnetloc.1 c hc).1, fun hne c hc => ?_, ⟨not_mem_cut '?' _, fun hc => ?_⟩,
        fun hc => ?_, fun c hc => not_isLine_of_tidy (hscheme.2 c (hnetloc.1 c hc).2), fun c hc => ?_, fun c hc => ?_,
        fun c hc => hline c (mem_of_cut_right hc), hchecked⟩
      · obtain ⟨hhash, hquestion⟩ := head_of_cut hc
        obtain ⟨hhead, hnohash⟩ := head_of_cut hhash
        have hends := hnetloc.2.2 hne c hhead
        simp only [endsNetloc, Bool.or_eq_true, beq_iff_eq] at hends
        rcases hends with (hends | hends) | hends
        · exact hends
        · exact absurd hends hquestion
        · exact absurd hends hnohash
      · exact not_mem_cut '#' _ (mem_of_cut_left hc)
      · exact not_mem_cut '#' _ (mem_of_cut_right hc)
      · exact hline c (mem_of_cut_left (mem_of_cut_left hc))
      · exact hline c (mem_of_cut_left (mem_of_cut_right hc))
  · cases h

/-! ## Regular parts are split as they were put together -/

/-- A part behind its mark, which an empty part goes without. -/
def marked (mark : Char) (cs : List Char) : List Char := if cs.isEmpty then [] else mark :: cs

theorem head_of_marked {mark : Char} (h : c ∈ (marked mark cs).head?) : c = mark := by
  unfold marked at h
  split at h
  · cases h
  · cases h
    rfl

theorem mem_of_marked {mark : Char} (h : c ∈ marked mark cs) : c = mark ∨ c ∈ cs := by
  unfold marked at h
  split at h
  · cases h
  · exact List.mem_cons.mp h

theorem cut_marked {sep : Char} (h : sep ∉ cs) (rest : List Char) : cut sep (cs ++ marked sep rest) = (cs, rest) := by
  cases rest with
  | nil => rw [marked, if_pos List.isEmpty_nil, List.append_nil, cut_whole h]
  | cons d rest => exact cut_append h (d :: rest)

/-- What follows the network location of an address. -/
def pathOn (p : Parts) : List Char := p.path ++ marked '?' p.query ++ marked '#' p.fragment

/-- Parts with a network location are written one after the other. -/
theorem unsplit_eq (h : Regular p) (hne : p.netloc ≠ []) :
    unsplit p = if p.scheme.isEmpty then '/' :: '/' :: (p.netloc ++ pathOn p)
      else p.scheme ++ ':' :: '/' :: '/' :: (p.netloc ++ pathOn p) := by
  have hnetloc : p.netloc.isEmpty = false := by simpa using hne
  have hrooted : (!p.path.isEmpty && p.path.head? != some '/') = false := by
    rcases hpath : p.path with _ | ⟨c, path⟩
    · rfl
    · have hc := h.rooted hne c (by rw [hpath]; rfl)
      rw [hc]
      rfl
  have hmarked : ∀ (whole : List Char) (mark : Char) (cs : List Char),
      (if cs.isEmpty then whole else whole ++ mark :: cs) = whole ++ marked mark cs := by
    intro whole mark cs
    unfold marked
    split
    · rw [List.append_nil]
    · rfl
  unfold unsplit
  dsimp only
  rw [hnetloc, hrooted, hmarked, hmarked, pathOn]
  by_cases hscheme : p.scheme.isEmpty = true <;> simp [hscheme]

/-- The network location of an address ends where the path begins, or what follows an empty path. -/
theorem endsNetloc_pathOn (h : Regular p) (hne : p.netloc ≠ []) : ∀ c ∈ (pathOn p).head?, endsNetloc c = true := by
  intro c hc
  rw [pathOn, List.append_assoc, List.head?_append] at hc
  rcases hpath : p.path with _ | ⟨d, path⟩
  · rw [hpath, List.head?_nil, Option.none_or, List.head?_append] at hc
    rcases hquery : marked '?' p.query with _ | ⟨d, query⟩
    · rw [hquery, List.head?_nil, Option.none_or] at hc
      rw [head_of_marked hc]
      rfl
    · rw [hquery] at hc
      cases hc
      have hmark : c ∈ (marked '?' p.query).head? := by rw [hquery]; rfl
      rw [head_of_marked hmark]
      rfl
  · rw [hpath] at hc
    cases hc
    rw [h.rooted hne c (by rw [hpath]; rfl)]
    rfl

/-- Behind the scheme, the parts are read back one after the other. -/
theorem takeNetloc_written (h : Regular p) (hne : p.netloc ≠ []) :
    takeNetloc ('/' :: '/' :: (p.netloc ++ pathOn p)) = (p.netloc, pathOn p) := by
  rw [takeNetloc, before_append h.netloc (endsNetloc_pathOn h hne), since_append h.netloc (endsNetloc_pathOn h hne)]

theorem cut_pathOn (h : Regular p) :
    cut '#' (pathOn p) = (p.path ++ marked '?' p.query, p.fragment) ∧
      cut '?' (p.path ++ marked '?' p.query) = (p.path, p.query) := by
  refine ⟨cut_marked ?_ _, cut_marked h.path.1 _⟩
  intro hmem
  rcases List.mem_append.mp hmem with hpath | hquery
  · exact h.path.2 hpath
  · rcases mem_of_marked hquery with hmark | hquery
    · exact absurd hmark (by decide)
    · exact h.query hquery

/-- Regular parts hold no line ends, and neither does what is put together from them. -/
theorem not_isLine_pathOn (h : Regular p) : ∀ c ∈ pathOn p, isLine c = false := by
  intro c hc
  rcases List.mem_append.mp hc with hc | hfragment
  · rcases List.mem_append.mp hc with hpath | hquery
    · exact h.pathLine c hpath
    · rcases mem_of_marked hquery with rfl | hquery
      · rfl
      · exact h.queryLine c hquery
  · rcases mem_of_marked hfragment with rfl | hfragment
    · rfl
    · exact h.fragmentLine c hfragment

/-- Nothing is removed from an address that is put together from regular parts. -/
theorem tidy_unsplit (h : Regular p) (hne : p.netloc ≠ []) : tidy (unsplit p) = unsplit p := by
  have hrest : ∀ c ∈ '/' :: '/' :: (p.netloc ++ pathOn p), isLine c = false := by
    intro c hc
    rcases List.mem_cons.mp hc with rfl | hc
    · rfl
    rcases List.mem_cons.mp hc with rfl | hc
    · rfl
    rcases List.mem_append.mp hc with hnetloc | hpathOn
    · exact h.netlocLine c hnetloc
    · exact not_isLine_pathOn h c hpathOn
  rw [unsplit_eq h hne]
  split
  · refine tidy_eq hrest ?_
    rintro c ⟨⟩
    decide
  · next hscheme =>
      refine tidy_eq ?_ ?_
      · intro c hc
        rcases List.mem_append.mp hc with hc | hc
        · have hbound := toNat_of_isSchemeChar (h.scheme.chars c hc)
          refine Bool.eq_false_iff.mpr fun hline => ?_
          simp only [isLine, Bool.or_eq_true, beq_iff_eq] at hline
          rcases hline with (rfl | rfl) | rfl <;> exact absurd hbound.1 (by decide)
        · rcases List.mem_cons.mp hc with rfl | hc
          · rfl
          · exact hrest c hc
      · intro c hc
        obtain ⟨d, scheme, hd⟩ := List.exists_cons_of_ne_nil (by simpa using hscheme)
        rw [hd] at hc
        cases hc
        have hbound := toNat_of_isSchemeChar (h.scheme.chars c (by rw [hd]; exact List.mem_cons_self))
        omega

/-- A text that begins with a slash has no scheme. -/
theorem takeScheme_slash (cs : List Char) : takeScheme [] ('/' :: cs) = ([], '/' :: cs) := by
  rcases takeScheme_cases ('/' :: cs) with h | ⟨name, rest, hname, h, hscheme⟩
  · exact h
  · cases name with
    | nil => cases hname
    | cons c name =>
        cases hname
        exact absurd (hscheme.letter '/' rfl) (by decide)

/-- **Regular parts with a network location are split as they were put together.** -/
theorem split_unsplit (h : Regular p) (hne : p.netloc ≠ []) : split (unsplit p) = .ok p := by
  have htaken : takeScheme [] (unsplit p) = (p.scheme, '/' :: '/' :: (p.netloc ++ pathOn p)) := by
    rw [unsplit_eq h hne]
    split
    · next hscheme => rw [takeScheme_slash, List.isEmpty_iff.mp hscheme]
    · next hscheme => exact takeScheme_written h.scheme (by simpa using hscheme) _
  unfold split splitUnder
  rw [tidy_unsplit h hne, htaken]
  dsimp only
  rw [takeNetloc_written h hne]
  dsimp only
  rw [(cut_pathOn h).1]
  dsimp only
  rw [(cut_pathOn h).2, h.checked]

end Crawl.Url
