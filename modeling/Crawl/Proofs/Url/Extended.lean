import Crawl.Proofs.Url.Recomposed
/-!
# Addresses with something behind them

An address in plain form, with a scheme in lower case and a host, is given back when a query or a fragment is put behind
it and the address is then taken apart and put together again without them (`unsplit_extended`). That holds of any text
of scheme characters before the colon: one that does not begin with a letter is no scheme, and the whole address is then
taken for a path.
-/

namespace Crawl.Url

/-- The pieces of an address in plain form. -/
structure Plain (scheme host path : List Char) : Prop where
  named : scheme ≠ []
  scheme : ∀ c ∈ scheme, isSchemeChar c = true ∧ c.toLower = c
  hosted : host ≠ []
  host : ∀ c ∈ host, endsNetloc c = false ∧ isLine c = false
  rooted : ∀ c ∈ path.head?, c = '/'
  path : ∀ c ∈ path, c ≠ '?' ∧ c ≠ '#' ∧ isLine c = false

/-- An address in plain form. -/
def plainText (scheme host path : List Char) : List Char := scheme ++ ':' :: '/' :: '/' :: (host ++ path)

variable {c : Char} {scheme host path rest : List Char} {p : Parts}

/-- A scheme character is visible, and none of the characters at which an address is taken apart. -/
theorem stops_of_isSchemeChar (h : isSchemeChar c = true) :
    32 < c.toNat ∧ c ≠ ':' ∧ c ≠ '/' ∧ c ≠ '?' ∧ c ≠ '#' ∧ isLine c = false := by
  have hbounds := toNat_of_isSchemeChar h
  exact Text.forall_ascii (P := fun c => isSchemeChar c = true →
    32 < c.toNat ∧ c ≠ ':' ∧ c ≠ '/' ∧ c ≠ '?' ∧ c ≠ '#' ∧ isLine c = false) (by decide +kernel) (by omega) h

/-- Behind a text without line ends that begins with a visible character, only what follows is made tidy. -/
theorem tidy_append (cs : List Char) (hne : cs ≠ []) (hhead : ∀ c ∈ cs.head?, 32 < c.toNat)
    (hline : ∀ c ∈ cs, isLine c = false) (rest : List Char) :
    tidy (cs ++ rest) = cs ++ rest.filter fun c => c != '\t' && c != '\r' && c != '\n' := by
  have hcs := tidy_eq hline hhead
  obtain ⟨c, cs, rfl⟩ := List.exists_cons_of_ne_nil hne
  have hdrop (rest : List Char) : (c :: rest).dropWhile (·.toNat ≤ 32) = c :: rest := by
    have hc := hhead c rfl
    exact List.dropWhile_cons_of_neg (by simpa using hc)
  rw [tidy, hdrop] at hcs
  rw [tidy, List.cons_append, hdrop, ← List.cons_append, List.filter_append, hcs]

/-- What stands before a query or a fragment is the path. -/
theorem cut_cut {cs : List Char} (hcs : ∀ c ∈ cs, c ≠ '?' ∧ c ≠ '#') (hrest : ∀ c ∈ rest.head?, c = '?' ∨ c = '#') :
    (cut '?' (cut '#' (cs ++ rest)).1).1 = cs := by
  have hhash : ∀ c ∈ cs, (c == '#') = false := fun c hc => beq_eq_false_iff_ne.mpr (hcs c hc).2
  have hquestion : ∀ c ∈ cs, (c == '?') = false := fun c hc => beq_eq_false_iff_ne.mpr (hcs c hc).1
  have hcut : (cut '#' (cs ++ rest)).1 = cs ++ before (· == '#') rest := by
    have hpass : ∀ c ∈ cs, (!(c == '#')) = true := fun c hc => by rw [hhash c hc]; rfl
    exact List.takeWhile_append_of_pos hpass
  have hhead : ∀ c ∈ (before (· == '#') rest).head?, (c == '?') = true := by
    intro c hc
    have hc' : c ∈ (cut '#' rest).1.head? := hc
    obtain ⟨hmem, hne⟩ := head_of_cut hc'
    exact beq_iff_eq.mpr ((hrest c hmem).resolve_right hne)
  rw [hcut]
  exact before_append hquestion hhead

/-- A text that does not begin with a letter has no scheme. -/
theorem takeScheme_noLetter {cs : List Char} (h : ∀ c ∈ cs.head?, c.isAlpha = false) : takeScheme [] cs = ([], cs) := by
  have hhead : ∀ c ∈ (before (· == ':') cs).head?, c.isAlpha = false := fun c hc => h c (head_of_cut hc).1
  unfold takeScheme
  dsimp only
  split
  · next c name d rest hname hrest =>
      rw [hname] at hhead
      rw [hhead c rfl]
      rfl
  · rfl

/-- A text that does not begin with a slash has no network location. -/
theorem takeNetloc_noSlash {cs : List Char} (h : ∀ c ∈ cs.head?, c ≠ '/') : takeNetloc cs = ([], cs) := by
  unfold takeNetloc
  split
  · exact absurd rfl (h '/' rfl)
  · rfl

/-- Parts without scheme and network location are a path. -/
theorem unsplit_path (h : path.take 2 ≠ ['/', '/']) : unsplit ⟨[], [], path, [], []⟩ = path := by
  have hno : (path.take 2 == ['/', '/']) = false := beq_eq_false_iff_ne.mpr h
  unfold unsplit
  simp [hno]

namespace Plain

variable (h : Plain scheme host path)
include h

theorem visible : ∀ c ∈ (plainText scheme host path).head?, 32 < c.toNat ∧ c ≠ '/' := by
  obtain ⟨c, scheme, rfl⟩ := List.exists_cons_of_ne_nil h.named
  rintro d ⟨⟩
  obtain ⟨hvisible, -, hslash, -⟩ := stops_of_isSchemeChar (h.scheme c List.mem_cons_self).1
  exact ⟨hvisible, hslash⟩

theorem chars : ∀ c ∈ plainText scheme host path, c ≠ '?' ∧ c ≠ '#' ∧ isLine c = false := by
  have hends {c : Char} (hc : endsNetloc c = false) : c ≠ '?' ∧ c ≠ '#' := by
    constructor <;> rintro rfl <;> cases hc
  intro c hc
  rcases List.mem_append.mp hc with hc | hc
  · obtain ⟨-, -, -, hquestion, hhash, hline⟩ := stops_of_isSchemeChar (h.scheme c hc).1
    exact ⟨hquestion, hhash, hline⟩
  · simp only [List.mem_cons, List.mem_append] at hc
    rcases hc with rfl | rfl | rfl | hc | hc
    · decide
    · decide
    · decide
    · obtain ⟨hnetloc, hline⟩ := h.host c hc
      exact ⟨(hends hnetloc).1, (hends hnetloc).2, hline⟩
    · exact h.path c hc

/-- With a query or a fragment behind it, the address comes apart into its pieces, or all of it is a path. -/
theorem split_extended (hrest : ∀ c ∈ rest.head?, c = '?' ∨ c = '#')
    (hsplit : split (plainText scheme host path ++ rest) = .ok p) :
    (IsScheme scheme ∧ p.scheme = scheme ∧ p.netloc = host ∧ p.path = path) ∨
      (p.scheme = [] ∧ p.netloc = [] ∧ p.path = plainText scheme host path) := by
  have hne : plainText scheme host path ≠ [] := List.append_ne_nil_of_left_ne_nil h.named _
  have htidy := tidy_append _ hne (fun c hc => (h.visible c hc).1) (fun c hc => (h.chars c hc).2.2) rest
  have htail : ∀ c ∈ (rest.filter fun c => c != '\t' && c != '\r' && c != '\n').head?, c = '?' ∨ c = '#' := by
    cases rest with
    | nil => exact nofun
    | cons d rest =>
        rintro c hc
        rcases hrest d rfl with rfl | rfl <;> cases hc
        · exact .inl rfl
        · exact .inr rfl
  unfold split splitUnder at hsplit
  rw [htidy] at hsplit
  generalize rest.filter (fun c => c != '\t' && c != '\r' && c != '\n') = tail at hsplit htail
  by_cases hletter : ∀ c ∈ scheme.head?, c.isAlpha = true
  · -- the scheme is read, and behind it the host
    have hscheme : IsScheme scheme := ⟨fun c hc => (h.scheme c hc).1, fun c hc => (h.scheme c hc).2, hletter⟩
    have hends : ∀ c ∈ (path ++ tail).head?, endsNetloc c = true := by
      intro c hc
      rw [List.head?_append] at hc
      rcases Option.or_eq_some_iff.mp hc with hc | ⟨-, hc⟩
      · rw [h.rooted c hc]
        rfl
      · rcases htail c hc with rfl | rfl <;> rfl
    have hnetloc : ∀ c ∈ host, endsNetloc c = false := fun c hc => (h.host c hc).1
    have htext : plainText scheme host path ++ tail = scheme ++ ':' :: '/' :: '/' :: (host ++ (path ++ tail)) := by
      simp [plainText]
    rw [htext, takeScheme_written hscheme h.named] at hsplit
    dsimp only at hsplit
    rw [takeNetloc, before_append hnetloc hends, since_append hnetloc hends] at hsplit
    dsimp only at hsplit
    rw [cut_cut (fun c hc => ⟨(h.path c hc).1, (h.path c hc).2.1⟩) htail] at hsplit
    split at hsplit
    · cases hsplit
      exact .inl ⟨hscheme, rfl, rfl, rfl⟩
    · cases hsplit
  · -- no scheme is read, so no network location either
    have hhead : ∀ c ∈ (plainText scheme host path ++ tail).head?, c.isAlpha = false ∧ c ≠ '/' := by
      obtain ⟨c, name, rfl⟩ := List.exists_cons_of_ne_nil h.named
      rintro d ⟨⟩
      exact ⟨by simpa using hletter, (h.visible c rfl).2⟩
    rw [takeScheme_noLetter fun c hc => (hhead c hc).1] at hsplit
    dsimp only at hsplit
    rw [takeNetloc_noSlash fun c hc => (hhead c hc).2] at hsplit
    dsimp only at hsplit
    rw [cut_cut (fun c hc => ⟨(h.chars c hc).1, (h.chars c hc).2.1⟩) htail] at hsplit
    split at hsplit
    · cases hsplit
      exact .inr ⟨rfl, rfl, rfl⟩
    · cases hsplit

end Plain

/-- **An address in plain form is what is left of it when a query or a fragment behind it is left out.** -/
theorem unsplit_extended (h : Plain scheme host path) (hrest : ∀ c ∈ rest.head?, c = '?' ∨ c = '#')
    (hsplit : split (plainText scheme host path ++ rest) = .ok p) :
    unsplit ⟨p.scheme, p.netloc, p.path, [], []⟩ = plainText scheme host path := by
  rcases h.split_extended hrest hsplit with ⟨hscheme, hs, hn, hp⟩ | ⟨hs, hn, hp⟩
  · have hregular : Regular ⟨scheme, host, path, [], []⟩ := by
      obtain ⟨-, hnetloc, hrooted, hpath, -, hnetlocLine, hpathLine, -, -, hchecked⟩ := regular_of_split hsplit
      rw [hn] at hnetloc hrooted hnetlocLine hchecked
      rw [hp] at hrooted hpath hpathLine
      exact ⟨hscheme, hnetloc, hrooted, hpath, nofun, hnetlocLine, hpathLine, nofun, nofun, hchecked⟩
    have hon : pathOn ⟨scheme, host, path, [], []⟩ = path := by simp [pathOn, marked]
    have hnamed : scheme.isEmpty = false := by simpa using h.named
    rw [hs, hn, hp, unsplit_eq hregular h.hosted, hon, hnamed]
    rfl
  · rw [hs, hn, hp]
    apply unsplit_path
    obtain ⟨c, name, rfl⟩ := List.exists_cons_of_ne_nil h.named
    intro htake
    have hc : c = '/' := List.head_eq_of_cons_eq htake
    exact (h.visible c rfl).2 hc

end Crawl.Url
