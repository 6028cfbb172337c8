import Crawl.Proofs.Css.Token
import Crawl.Proofs.Url.Delimiter
/-!
# Quoted texts as they are read

A quoted text is read as one string, whatever stands behind it, and the string ends at the text's own closing quote. Its
value is the text itself, but for U+0000, which no style sheet holds. Line breaks are the exception: they are not
escaped, so a text that holds one is read as a bad string (`readString_quoted`, `readString_broken`), and a selector with
it is none (`selects_attributeIs`).
-/

namespace Crawl.Css

variable {cs rest : List Char}

/-! ## Filtering -/

/-- A character that does not begin a double line break is filtered by itself. -/
theorem filtered_cons {c : Char} (h : c = '\r' → ∀ r, cs ≠ '\n' :: r) :
    filtered (c :: cs) = (if isBreak c then '\n' else legible c) :: filtered cs := by
  rw [filtered]
  intro r hc hcs
  exact h hc r hcs

theorem filtered_pair (cs : List Char) : filtered ('\r' :: '\n' :: cs) = '\n' :: filtered cs := by rw [filtered]

theorem filtered_cons_of_ne {c : Char} (hbreak : isBreak c = false) : filtered (c :: cs) = legible c :: filtered cs := by
  have hc : c ≠ '\r' := by
    rintro rfl
    cases hbreak
  rw [filtered_cons fun h => absurd h hc, hbreak]
  rfl

/-- Without line breaks every character is filtered by itself. -/
theorem filtered_append (h : ∀ c ∈ cs, isBreak c = false) (rest : List Char) :
    filtered (cs ++ rest) = cs.map legible ++ filtered rest := by
  induction cs with
  | nil => rfl
  | cons c cs ih =>
      obtain ⟨hc, hcs⟩ := List.forall_mem_cons.mp h
      rw [List.cons_append, filtered_cons_of_ne hc, ih hcs]
      rfl

theorem filtered_unbroken (h : ∀ c ∈ cs, isBreak c = false) : filtered cs = cs.map legible := by
  have hnil := filtered_append h []
  simpa [filtered] using hnil

/-- The line feeds of a filtered text come from line breaks. -/
theorem newline_mem_filtered : '\n' ∈ filtered cs ↔ ∃ c ∈ cs, isBreak c = true := by
  have hlegible (c : Char) (hc : isBreak c = false) : '\n' ≠ legible c := by
    intro h
    unfold legible at h
    split at h
    · cases h
    · rw [← h] at hc
      cases hc
  induction cs using filtered.induct with
  | case1 => simp [filtered]
  | case2 cs ih => simp [filtered, isBreak]
  | case3 c cs hpair ih =>
      have hcons : filtered (c :: cs) = (if isBreak c then '\n' else legible c) :: filtered cs :=
        filtered_cons fun hc r hcs => hpair r hc hcs
      simp only [hcons, List.mem_cons, ih, exists_eq_or_imp]
      cases hc : isBreak c with
      | true => simp
      | false => simp [hlegible c hc]

/-! ## Escapes -/

theorem escapeChar_special {c : Char} (h : c = '\\' ∨ c = '\x22') : escapeChar c = ['\\', c] := by simp [escapeChar, h]

theorem escapeChar_plain {c : Char} (h : ¬ (c = '\\' ∨ c = '\x22')) : escapeChar c = [c] := by simp [escapeChar, h]

/-- Filtering makes no character one that is escaped. -/
theorem plain_filtered {c : Char} (h : ¬ (c = '\\' ∨ c = '\x22')) :
    ¬ ((if isBreak c then '\n' else legible c) = '\\' ∨ (if isBreak c then '\n' else legible c) = '\x22') := by
  unfold legible
  split
  · decide
  · split
    · decide
    · exact h

/-- Escaping puts no line feed in front. -/
theorem escaped_ne_newline (h : ∀ r, cs ≠ '\n' :: r) (r : List Char) :
    cs.flatMap escapeChar ++ '\x22' :: rest ≠ '\n' :: r := by
  cases cs with
  | nil => simp
  | cons c cs =>
      have hc : c ≠ '\n' := by
        rintro rfl
        exact h cs rfl
      by_cases hspecial : c = '\\' ∨ c = '\x22'
      · simp [escapeChar_special hspecial]
      · simp [escapeChar_plain hspecial, hc]

/-- Filtering and escaping do not meet: the characters that are escaped are filtered as they are. -/
theorem filtered_escaped (cs rest : List Char) :
    filtered (cs.flatMap escapeChar ++ '\x22' :: rest) = (filtered cs).flatMap escapeChar ++ '\x22' :: filtered rest := by
  -- By the cases of the filter: a carriage return and a line feed are one line break, and neither of them is escaped.
  induction cs using filtered.induct with
  | case1 => exact filtered_cons_of_ne rfl
  | case2 cs ih =>
      have hplain : ('\r' :: '\n' :: cs).flatMap escapeChar = '\r' :: '\n' :: cs.flatMap escapeChar := rfl
      rw [hplain, List.cons_append, List.cons_append, filtered_pair, filtered_pair, ih]
      rfl
  | case3 c cs hpair ih =>
      rw [filtered_cons fun hc r hcs => hpair r hc hcs, List.flatMap_cons, List.flatMap_cons]
      by_cases hspecial : c = '\\' ∨ c = '\x22'
      · have hbreak : isBreak c = false := by rcases hspecial with rfl | rfl <;> rfl
        have hlegible : legible c = c := by rcases hspecial with rfl | rfl <;> rfl
        simp only [hbreak, hlegible, escapeChar_special hspecial, Bool.false_eq_true, if_false, List.cons_append,
          List.nil_append]
        rw [filtered_cons_of_ne rfl, filtered_cons_of_ne hbreak, hlegible, ih]
        rfl
      · rw [escapeChar_plain hspecial, escapeChar_plain (plain_filtered hspecial), List.append_assoc, List.append_assoc,
          ← ih]
        exact filtered_cons fun hc r => escaped_ne_newline (fun r' hr' => hpair r' hc hr') r

/-! ## Strings -/

/-- Escaped characters are read one by one, up to a first line feed. -/
theorem takeString_append (h : '\n' ∉ cs) (rest : List Char) :
    takeString '\x22' (cs.flatMap escapeChar ++ rest) =
      (cs.foldr StringToken.push (takeString '\x22' rest).1, (takeString '\x22' rest).2) := by
  induction cs with
  | nil => rfl
  | cons c cs ih =>
      have hc : c ≠ '\n' := by
        rintro rfl
        exact h List.mem_cons_self
      have ih := ih fun hmem => h (List.mem_cons_of_mem c hmem)
      rw [List.flatMap_cons, List.append_assoc, List.foldr_cons]
      by_cases hspecial : c = '\\' ∨ c = '\x22'
      · have hdigit : Url.hexValue? c = none := by rcases hspecial with rfl | rfl <;> rfl
        rw [escapeChar_special hspecial, List.cons_append, List.cons_append, List.nil_append,
          takeString_escaped '\x22' hc hdigit, ih]
      · obtain ⟨hslash, hquote⟩ := not_or.mp hspecial
        rw [escapeChar_plain hspecial, List.cons_append, List.nil_append, takeString_plain hc hslash hquote, ih]

theorem foldr_push_closed (cs : List Char) : cs.foldr StringToken.push (.closed []) = .closed cs := by
  induction cs with
  | nil => rfl
  | cons c cs ih => simp [ih, StringToken.push]

theorem foldr_push_bad (cs : List Char) : cs.foldr StringToken.push .bad = .bad := by
  induction cs with
  | nil => rfl
  | cons c cs ih => simp [ih, StringToken.push]

/-- Without a line feed, escaped characters are read up to the closing quote. -/
theorem takeString_closing (h : '\n' ∉ cs) (rest : List Char) :
    takeString '\x22' (cs.flatMap escapeChar ++ '\x22' :: rest) = (.closed cs, rest) := by
  rw [takeString_append h, takeString_quote (.inl rfl), foldr_push_closed]

/-- With a line feed, what is read ends there. -/
theorem takeString_spoilt (h : '\n' ∈ cs) (rest : List Char) :
    ∃ left, takeString '\x22' (cs.flatMap escapeChar ++ rest) = (.bad, left) := by
  obtain ⟨before, after, rfl, hbefore⟩ := List.eq_append_cons_of_mem h
  have hsingle : escapeChar '\n' = ['\n'] := rfl
  rw [List.flatMap_append, List.flatMap_cons, hsingle, List.append_assoc, takeString_append hbefore]
  simp only [List.cons_append, List.nil_append, takeString_break, foldr_push_bad]
  exact ⟨_, rfl⟩

/-! ## Quoted texts -/

/-- A text as it is read in a string. -/
def seen (s : String) : String := String.ofList (s.toList.map legible)

/-- Whether a text holds no line break. -/
def unbroken (s : String) : Bool := s.toList.all fun c => !isBreak c

theorem unbroken_iff {s : String} : unbroken s = true ↔ ∀ c ∈ s.toList, isBreak c = false := by simp [unbroken]

theorem not_unbroken_iff {s : String} : unbroken s = false ↔ ∃ c ∈ s.toList, isBreak c = true := by simp [unbroken]

theorem newline_not_mem {s : String} (h : unbroken s = true) : '\n' ∉ filtered s.toList := by
  intro hmem
  obtain ⟨c, hc, hbreak⟩ := newline_mem_filtered.mp hmem
  rw [unbroken_iff.mp h c hc] at hbreak
  cases hbreak

theorem newline_mem {s : String} (h : unbroken s = false) : '\n' ∈ filtered s.toList :=
  newline_mem_filtered.mpr (not_unbroken_iff.mp h)

theorem takeString_quoted {s : String} (h : unbroken s = true) (rest : List Char) :
    takeString '\x22' ((filtered s.toList).flatMap escapeChar ++ '\x22' :: rest) = (.closed (seen s).toList, rest) := by
  rw [takeString_closing (newline_not_mem h), seen, String.toList_ofList, filtered_unbroken (unbroken_iff.mp h)]

theorem filtered_quoted (s : String) (rest : List Char) :
    filtered ((quoted s).toList ++ rest) =
      '\x22' :: ((filtered s.toList).flatMap escapeChar ++ '\x22' :: filtered rest) := by
  have hquoted : (quoted s).toList ++ rest = '\x22' :: (s.toList.flatMap escapeChar ++ '\x22' :: rest) := by
    simp [quoted, quotedList]
  rw [hquoted, filtered_cons_of_ne rfl, filtered_escaped]
  rfl

/-- **A quoted text without a line break is one whole string**, and what stands behind it is left. -/
theorem readString_quoted {s : String} (h : unbroken s = true) (rest : List Char) :
    readString ((quoted s).toList ++ rest) = some (.closed (seen s).toList, filtered rest) := by
  rw [readString, filtered_quoted]
  simp only [takeString_quoted h]

/-- A quoted text with a line break is a bad string. -/
theorem readString_broken {s : String} (h : unbroken s = false) (rest : List Char) :
    ∃ left, readString ((quoted s).toList ++ rest) = some (.bad, left) := by
  obtain ⟨left, hleft⟩ := takeString_spoilt (newline_mem h) ('\x22' :: filtered rest)
  refine ⟨left, ?_⟩
  rw [readString, filtered_quoted]
  simp only [hleft]

/-- A text is read as it is just when it holds no U+0000. -/
theorem seen_eq_iff {s : String} : seen s = s ↔ '\x00' ∉ s.toList := by
  have hfixed (c : Char) : legible c = c ↔ c ≠ '\x00' := by
    unfold legible
    split
    · next h =>
        subst h
        decide
    · next h => simp [h]
  have hall : s.toList.map legible = s.toList ↔ ∀ c ∈ s.toList, legible c = c := by
    conv => lhs; rhs; rw [← List.map_id s.toList]
    exact List.map_inj_left
  have hofList : seen s = s ↔ s.toList.map legible = s.toList := by
    constructor
    · intro h
      rw [← String.toList_ofList (l := s.toList.map legible)]
      exact congrArg String.toList h
    · intro h
      rw [seen, h, String.ofList_toList]
  rw [hofList, hall]
  simp only [hfixed]
  exact ⟨fun h hmem => h _ hmem rfl, fun h c hc he => h (he ▸ hc)⟩

/-! ## Selectors -/

/-- A name that stands in a selector as it is. -/
structure IsName (name : String) : Prop where
  letter : name.toList.head?.any Char.isAlpha = true
  chars : ∀ c ∈ name.toList, AttrTest.isNameChar c = true

theorem not_blank_of_isNameChar {c : Char} (h : AttrTest.isNameChar c = true) : isBlank c = false := by
  cases hblank : isBlank c with
  | false => rfl
  | true =>
      simp only [isBlank, Bool.or_eq_true, beq_iff_eq] at hblank
      rcases hblank with (rfl | rfl) | rfl <;> cases h

theorem not_break_of_isNameChar {c : Char} (h : AttrTest.isNameChar c = true) : isBreak c = false := by
  cases hbreak : isBreak c with
  | false => rfl
  | true =>
      simp only [isBreak, Bool.or_eq_true, beq_iff_eq] at hbreak
      rcases hbreak with (rfl | rfl) | rfl <;> cases h

theorem legible_of_isNameChar {c : Char} (h : AttrTest.isNameChar c = true) : legible c = c := by
  unfold legible
  split
  · next hzero =>
      subst hzero
      cases h
  · rfl

theorem skip_cons {c : Char} (h : isBlank c = false) : skip (c :: cs) = c :: cs := by simp [skip, h]

namespace IsName

variable {name : String}

/-- A name is filtered as it is. -/
theorem filtered_append (h : IsName name) (rest : List Char) :
    filtered (name.toList ++ rest) = name.toList ++ filtered rest := by
  have hmap : name.toList.map legible = name.toList := by
    conv => rhs; rw [← List.map_id name.toList]
    exact List.map_congr_left fun c hc => legible_of_isNameChar (h.chars c hc)
  rw [Css.filtered_append fun c hc => not_break_of_isNameChar (h.chars c hc), hmap]

/-- A name begins with a letter. -/
theorem toList_eq (h : IsName name) : ∃ c cs, name.toList = c :: cs ∧ c.isAlpha = true := by
  have hletter := h.letter
  cases hlist : name.toList with
  | nil =>
      rw [hlist] at hletter
      cases hletter
  | cons c cs =>
      rw [hlist] at hletter
      exact ⟨c, cs, rfl, hletter⟩

theorem skip_append (h : IsName name) (rest : List Char) : skip (name.toList ++ rest) = name.toList ++ rest := by
  obtain ⟨c, cs, hlist, -⟩ := h.toList_eq
  have hchar : AttrTest.isNameChar c = true := h.chars c (hlist ▸ List.mem_cons_self)
  rw [hlist, List.cons_append, skip_cons (not_blank_of_isNameChar hchar)]

/-- A name ends before the first character that is none of its own. -/
theorem takeName_append (h : IsName name) {d : Char} (hd : AttrTest.isNameChar d = false) (rest : List Char) :
    AttrTest.takeName (name.toList ++ d :: rest) = some (name, d :: rest) := by
  have hhead : (name.toList ++ d :: rest).head?.any Char.isAlpha = true := by
    obtain ⟨c, cs, hlist, hletter⟩ := h.toList_eq
    simpa [hlist] using hletter
  rw [AttrTest.takeName, if_pos hhead, Url.takeWhile_stop h.chars hd, Url.dropWhile_stop h.chars hd,
    String.ofList_toList]

end IsName

theorem filtered_attributeIs {name : String} (h : IsName name) (value : String) :
    filtered (attributeIs name value).toList =
      '[' :: (name.toList ++ '=' :: '\x22' :: ((filtered value.toList).flatMap escapeChar ++ ['\x22', ']'])) := by
  have hlist : (attributeIs name value).toList =
      '[' :: (name.toList ++ '=' :: ((quoted value).toList ++ [']'])) := by simp [attributeIs]
  rw [hlist, filtered_cons_of_ne rfl, h.filtered_append, filtered_cons_of_ne rfl, filtered_quoted, filtered_cons_of_ne rfl]
  rfl

theorem takeMark_cons (c : Char) (cs : List Char) : AttrTest.takeMark c (c :: cs) = some cs := by simp [AttrTest.takeMark]

/-- The value of a selector whose text holds no line break. -/
theorem takeValue_quoted {value : String} (h : unbroken value = true) (rest : List Char) :
    AttrTest.takeValue ('\x22' :: ((filtered value.toList).flatMap escapeChar ++ '\x22' :: rest)) =
      some (seen value, rest) := by
  simp [AttrTest.takeValue, takeString_quoted h]

theorem takeValue_broken {value : String} (h : unbroken value = false) (rest : List Char) :
    AttrTest.takeValue ('\x22' :: ((filtered value.toList).flatMap escapeChar ++ '\x22' :: rest)) = none := by
  obtain ⟨left, hleft⟩ := takeString_spoilt (newline_mem h) ('\x22' :: rest)
  simp [AttrTest.takeValue, hleft]

/-- **A selector for an attribute is read as the test for the value**, unless the value holds a line break. -/
theorem read_attributeIs {name : String} (h : IsName name) (value : String) :
    AttrTest.read (attributeIs name value) = if unbroken value then some ⟨name, seen value⟩ else none := by
  have hmark : AttrTest.isNameChar '=' = false := rfl
  have hequals : isBlank '=' = false := rfl
  have hquote : isBlank '\x22' = false := rfl
  have hend : isBlank ']' = false := rfl
  simp only [AttrTest.read, filtered_attributeIs h, takeMark_cons, h.skip_append, h.takeName_append hmark,
    skip_cons hequals, skip_cons hquote, Option.bind_eq_bind, Option.bind_some]
  cases hvalue : unbroken value with
  | true => simp [takeValue_quoted hvalue, skip_cons hend, takeMark_cons]
  | false => simp [takeValue_broken hvalue]

/-- An element passes a selector for an attribute when it carries the value as it is read. -/
theorem selects_attributeIs {name : String} (h : IsName name) (value : String) (attrs : List (String × String)) :
    selects (attributeIs name value) attrs = (unbroken value && attrs.lookup name == some (seen value)) := by
  rw [selects, read_attributeIs h]
  cases unbroken value with
  | true => simp [AttrTest.passes]
  | false => simp

end Crawl.Css
