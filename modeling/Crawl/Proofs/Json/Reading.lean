import Crawl.Json
/-!
# Reading what was written

A reader of values, which is stated without regard to how they are written: blanks may stand between the parts, a
character of a text may be written in any of its ways, also as its number or as a pair of surrogates, and a number has no
needless zero in front. It reads the kinds of values that are written here, and of those what the notation allows. What
is written is read again as the value it was written for (`read_written`), and holds no character below the blank, so no
end of a line (`blank_le_written`).
-/

namespace Crawl.Json

/-! ## The reader -/

/-- The characters that may stand between the parts of a value. -/
def isGap (c : Char) : Bool := c = ' ' || c = '\t' || c = '\n' || c = '\r'

/-- What is left behind a gap. -/
def skip (cs : List Char) : List Char := cs.dropWhile isGap

/-- The number that a hexadecimal digit stands for. -/
def hexDigit? (c : Char) : Option Nat :=
  if c.isDigit then some (c.toNat - '0'.toNat)
  else if 'a' ≤ c ∧ c ≤ 'f' then some (c.toNat - 'a'.toNat + 10)
  else if 'A' ≤ c ∧ c ≤ 'F' then some (c.toNat - 'A'.toNat + 10)
  else none

/-- The number that four hexadecimal digits stand for. -/
def hexNumber? (a b c d : Char) : Option Nat := do
  return (((← hexDigit? a) * 16 + (← hexDigit? b)) * 16 + (← hexDigit? c)) * 16 + (← hexDigit? d)

/-- The character that a letter behind a backslash stands for. -/
def shortEscape? (c : Char) : Option Char :=
  [('\x22', '\x22'), ('\\', '\\'), ('/', '/'), ('b', '\x08'), ('f', '\x0c'), ('n', '\n'), ('r', '\r'), ('t', '\t')].lookup c

/-- The numbers of the characters of a text behind its opening quote, and what is left behind the closing quote. -/
def readUnits : List Char → Option (List Nat × List Char)
  | [] => none
  | c :: cs =>
    if c = '\x22' then some ([], cs)
    else if c = '\\' then
      match cs with
      | 'u' :: a :: b :: c :: d :: cs => do
        let n ← hexNumber? a b c d
        let (ns, rest) ← readUnits cs
        return (n :: ns, rest)
      | e :: cs => do
        let c ← shortEscape? e
        let (ns, rest) ← readUnits cs
        return (c.toNat :: ns, rest)
      | [] => none
    else if c.toNat < 32 then none
    else do
      let (ns, rest) ← readUnits cs
      return (c.toNat :: ns, rest)

/-- The characters for some numbers; two surrogates stand for one character, and a lone one for none. -/
def ofUnits : List Nat → Option (List Char)
  | [] => some []
  | n :: ns =>
    if n < 0xd800 ∨ 0xdfff < n then do return Char.ofNat n :: (← ofUnits ns)
    else
      match ns with
      | m :: ns =>
        if n < 0xdc00 ∧ 0xdc00 ≤ m ∧ m ≤ 0xdfff then do
          return Char.ofNat (0x10000 + (n - 0xd800) * 0x400 + (m - 0xdc00)) :: (← ofUnits ns)
        else none
      | [] => none

/-- A text behind its opening quote, and what is left behind it. -/
def readText (cs : List Char) : Option (String × List Char) := do
  let (ns, rest) ← readUnits cs
  return (String.ofList (← ofUnits ns), rest)

/-- A number, and what is left behind it. -/
def readNumber (cs : List Char) : Option (Nat × List Char) :=
  let digits := cs.takeWhile Char.isDigit
  if digits = [] ∨ (digits.head? = some '0' ∧ digits.length ≠ 1) then none
  else some (Nat.ofDigitChars 10 digits 0, cs.dropWhile Char.isDigit)

mutual

/-- A value, and what is left behind it; no more parts are read than a given number. -/
def readValue : Nat → List Char → Option (Json × List Char)
  | 0, _ => none
  | fuel + 1, cs =>
    match skip cs with
    | '\x22' :: rest => do
      let (s, rest) ← readText rest
      return (text s, rest)
    | '\x7b' :: rest =>
      match skip rest with
      | '\x7d' :: rest => some (record [], rest)
      | rest => do
        let (fields, rest) ← readFields fuel rest
        return (record fields, rest)
    | 'n' :: 'u' :: 'l' :: 'l' :: rest => some (null, rest)
    | rest => do
      let (n, rest) ← readNumber rest
      return (number n, rest)

/-- The fields of a record, at least one, up to and with the closing brace, and what is left behind it. -/
def readFields : Nat → List Char → Option (List (String × Json) × List Char)
  | 0, _ => none
  | fuel + 1, cs =>
    match skip cs with
    | '\x22' :: rest => do
      let (k, rest) ← readText rest
      match skip rest with
      | ':' :: rest => do
        let (v, rest) ← readValue fuel rest
        match skip rest with
        | '\x7d' :: rest => some ([(k, v)], rest)
        | ',' :: rest => do
          let (fields, rest) ← readFields fuel rest
          return ((k, v) :: fields, rest)
        | _ => none
      | _ => none
    | _ => none

end

/-- The value that a line of characters holds. -/
def read (cs : List Char) : Option Json :=
  match readValue cs.length cs with
  | some (j, rest) => if skip rest = [] then some j else none
  | none => none

/-! ## Texts -/

theorem hexDigit?_digitChar : ∀ n < 16, hexDigit? (Nat.digitChar n) = some n := by decide

/-- A control character is read again by its number. -/
theorem hexNumber?_control {n : Nat} (h : n < 32) :
    hexNumber? '0' '0' (Nat.digitChar (n / 16)) (Nat.digitChar (n % 16)) = some n := by
  have hzero : hexDigit? '0' = some 0 := rfl
  unfold hexNumber?
  rw [hzero, hexDigit?_digitChar (n / 16) (by omega), hexDigit?_digitChar (n % 16) (by omega)]
  show some (((0 * 16 + 0) * 16 + n / 16) * 16 + n % 16) = some n
  congr 1
  omega

/-- A character is read again, however it was escaped. -/
theorem readUnits_escape (c : Char) (cs : List Char) :
    readUnits (escape c ++ cs) = (readUnits cs).map fun p => (c.toNat :: p.1, p.2) := by
  have hbind {f : List Nat × List Char → List Nat × List Char} :
      ((readUnits cs).bind fun p => some (f p)) = (readUnits cs).map f := by
    cases readUnits cs <;> rfl
  unfold escape
  -- the cases of the writer: the short escapes, the other control characters, and all that is written as it is
  split
  · next h => subst h; exact hbind
  split
  · next h => subst h; exact hbind
  split
  · next h => subst h; exact hbind
  split
  · next h => subst h; exact hbind
  split
  · next h => subst h; exact hbind
  split
  · next h => subst h; exact hbind
  split
  · next h => subst h; exact hbind
  split
  · next hcontrol =>
      show ((hexNumber? '0' '0' (Nat.digitChar (c.toNat / 16)) (Nat.digitChar (c.toNat % 16))).bind fun n =>
        (readUnits cs).bind fun p => some (n :: p.1, p.2)) = _
      rw [hexNumber?_control hcontrol]
      exact hbind
  · next hquote hslash _ _ _ _ _ hcontrol =>
      show readUnits (c :: cs) = _
      rw [readUnits.eq_def]
      dsimp only
      rw [if_neg hquote, if_neg hslash, if_neg hcontrol]
      exact hbind

theorem readUnits_escapeAll (cs rest : List Char) :
    readUnits (escapeAll cs ++ rest) = some (cs.map Char.toNat, rest) := by
  induction cs with
  | nil =>
      show readUnits ('\x22' :: rest) = _
      rw [readUnits.eq_def]
      exact if_pos rfl
  | cons c cs ih =>
      rw [escapeAll, List.append_assoc, readUnits_escape, ih]
      rfl

/-- No character is a surrogate. -/
theorem ofUnits_toNat (cs : List Char) : ofUnits (cs.map Char.toNat) = some cs := by
  induction cs with
  | nil => rfl
  | cons c cs ih =>
      have hscalar : c.toNat < 0xd800 ∨ 0xdfff < c.toNat := c.valid.imp id And.left
      rw [List.map_cons, ofUnits.eq_def]
      dsimp only
      rw [if_pos hscalar, ih, Char.ofNat_toNat]
      rfl

theorem readText_escapeAll (s : String) (rest : List Char) : readText (escapeAll s.toList ++ rest) = some (s, rest) := by
  rw [readText, readUnits_escapeAll]
  show ((ofUnits (s.toList.map Char.toNat)).bind fun cs => some (String.ofList cs, rest)) = _
  rw [ofUnits_toNat, Option.bind_some, String.ofList_toList]

/-! ## Numbers -/

theorem head?_toDigits {n : Nat} (h : n ≠ 0) : (Nat.toDigits 10 n).head? ≠ some '0' := by
  induction n using Nat.strongRecOn with
  | ind n ih =>
      by_cases hsmall : n < 10
      · rw [Nat.toDigits_of_lt_base hsmall]
        intro hzero
        exact h (Nat.digitChar_eq_zero.mp (Option.some.inj hzero))
      · rw [Nat.toDigits_of_base_le (by decide) (by omega), List.head?_append]
        cases hhead : (Nat.toDigits 10 (n / 10)).head? with
        | none => exact absurd (List.head?_eq_none_iff.mp hhead) Nat.toDigits_ne_nil
        | some c =>
            rw [Option.some_or, ← hhead]
            exact ih (n / 10) (by omega) (by omega)

/-- Nothing that would go on a number. -/
def EndsNumber (rest : List Char) : Prop := ∀ c ∈ rest.head?, c.isDigit = false

theorem takeWhile_digits {digits rest : List Char} (hdigits : ∀ c ∈ digits, c.isDigit = true) (hrest : EndsNumber rest) :
    (digits ++ rest).takeWhile Char.isDigit = digits ∧ (digits ++ rest).dropWhile Char.isDigit = rest := by
  rw [List.takeWhile_append_of_pos hdigits, List.dropWhile_append_of_pos hdigits]
  cases rest with
  | nil => exact ⟨List.append_nil _, rfl⟩
  | cons c cs =>
      have hc : ¬ c.isDigit = true := by
        rw [hrest c rfl]
        exact Bool.false_ne_true
      rw [List.takeWhile_cons_of_neg hc, List.dropWhile_cons_of_neg hc]
      exact ⟨List.append_nil _, rfl⟩

theorem readNumber_toDigits (n : Nat) {rest : List Char} (hrest : EndsNumber rest) :
    readNumber (Nat.toDigits 10 n ++ rest) = some (n, rest) := by
  have hdigits : ∀ c ∈ Nat.toDigits 10 n, c.isDigit = true :=
    fun c hc => Nat.isDigit_of_mem_toDigits (by decide) (by decide) hc
  obtain ⟨htake, hdrop⟩ := takeWhile_digits hdigits hrest
  have hplain : ¬ (Nat.toDigits 10 n = [] ∨ (Nat.toDigits 10 n).head? = some '0' ∧ (Nat.toDigits 10 n).length ≠ 1) := by
    rintro (hnil | ⟨hzero, hlength⟩)
    · exact Nat.toDigits_ne_nil hnil
    · by_cases hn : n = 0
      · subst hn
        exact hlength rfl
      · exact head?_toDigits hn hzero
  unfold readNumber
  dsimp only
  rw [htake, hdrop, if_neg hplain, Nat.ofDigitChars_ten_toDigits]

/-! ## Values -/

theorem skip_of_not_gap {c : Char} (hc : isGap c = false) (cs : List Char) : skip (c :: cs) = c :: cs := by
  rw [skip, List.dropWhile_cons_of_neg]
  rw [hc]
  exact Bool.false_ne_true

theorem readFields_blank (n : Nat) (cs : List Char) : readFields n (' ' :: cs) = readFields n cs := by
  have hskip : skip (' ' :: cs) = skip cs := rfl
  cases n with
  | zero => rfl
  | succ n => rw [readFields.eq_def, readFields.eq_def (n + 1) cs]; dsimp only; rw [hskip]

theorem readValue_text (n : Nat) (s : String) (rest : List Char) :
    readValue (n + 1) (quoted s ++ rest) = some (text s, rest) := by
  rw [readValue.eq_def]
  show (readText (escapeAll s.toList ++ rest)).bind (fun p => some (text p.1, p.2)) = _
  rw [readText_escapeAll]
  rfl

theorem isGap_of_isDigit {c : Char} (hc : c.isDigit = true) : isGap c = false := by
  have hne : ∀ c' : Char, c'.isDigit = false → c ≠ c' := by
    rintro c' hc' rfl
    rw [hc] at hc'
    cases hc'
  simp [isGap, hne ' ' rfl, hne '\t' rfl, hne '\n' rfl, hne '\r' rfl]

theorem readValue_number (n m : Nat) {rest : List Char} (hrest : EndsNumber rest) :
    readValue (n + 1) (Nat.toDigits 10 m ++ rest) = some (number m, rest) := by
  have hnumber := readNumber_toDigits m hrest
  cases hdigits : Nat.toDigits 10 m with
  | nil => exact absurd hdigits Nat.toDigits_ne_nil
  | cons c cs =>
      have hc : c.isDigit = true :=
        Nat.isDigit_of_mem_toDigits (by decide) (by decide) (hdigits ▸ List.mem_cons_self)
      rw [hdigits] at hnumber
      rw [readValue.eq_def, List.cons_append]
      dsimp only
      rw [skip_of_not_gap (isGap_of_isDigit hc)]
      -- a digit begins neither a text nor a record nor a null
      split
      · next heq => injection heq with hhead; subst hhead; cases hc
      · next heq => injection heq with hhead; subst hhead; cases hc
      · next heq => injection heq with hhead; subst hhead; cases hc
      · rw [← List.cons_append, hnumber]
        rfl

theorem readValue_blank (n : Nat) (cs : List Char) : readValue n (' ' :: cs) = readValue n cs := by
  have hskip : skip (' ' :: cs) = skip cs := rfl
  cases n with
  | zero => rfl
  | succ n => rw [readValue.eq_def, readValue.eq_def (n + 1) cs]; dsimp only; rw [hskip]

theorem endsNumber_writtenRest (fields : List (String × Json)) (rest : List Char) : EndsNumber (writtenRest fields ++ rest) := by
  intro c hc
  cases fields with
  | nil =>
      rw [writtenRest] at hc
      cases hc
      rfl
  | cons field fields =>
      rw [writtenRest] at hc
      cases hc
      rfl

/-- The field in front is read, and then what stands behind it decides. -/
theorem readFields_field (n : Nat) (k : String) {v : Json} {cs after : List Char} (hvalue : readValue n cs = some (v, after)) :
    readFields (n + 1) (quoted k ++ ':' :: ' ' :: cs) = match skip after with
      | '\x7d' :: rest => some ([(k, v)], rest)
      | ',' :: rest => (readFields n rest).bind fun p => some ((k, v) :: p.1, p.2)
      | _ => none := by
  have hskip : skip (quoted k ++ ':' :: ' ' :: cs) = '\x22' :: (escapeAll k.toList ++ ':' :: ' ' :: cs) := rfl
  rw [readFields.eq_def]
  dsimp only
  rw [hskip]
  show (readText (escapeAll k.toList ++ ':' :: ' ' :: cs)).bind _ = _
  rw [readText_escapeAll]
  show (readValue n (' ' :: cs)).bind _ = _
  rw [readValue_blank, hvalue]
  rfl

mutual

/-- A value is read again behind which nothing goes on that would belong to it. -/
theorem readValue_written : ∀ (j : Json) (n : Nat) (rest : List Char), (written j).length ≤ n → EndsNumber rest →
    readValue n (written j ++ rest) = some (j, rest)
  | null, 0, rest, h, _ => absurd h (by simp [written])
  | null, n + 1, rest, _, _ => by
      rw [readValue.eq_def]
      rfl
  | number m, 0, rest, h, _ => by
      rw [written, Nat.le_zero, List.length_eq_zero_iff] at h
      exact absurd h Nat.toDigits_ne_nil
  | number m, n + 1, rest, _, hrest => readValue_number n m hrest
  | text s, 0, rest, h, _ => absurd h (by simp [written, quoted])
  | text s, n + 1, rest, _, _ => readValue_text n s rest
  | record fields, 0, rest, h, _ => by cases fields <;> simp [written] at h
  | record [], n + 1, rest, _, _ => by
      rw [readValue.eq_def]
      rfl
  | record ((k, v) :: fields), n + 1, rest, h, _ => by
      have hfields := readFields_written ((k, v) :: fields) n
        (quoted k ++ ':' :: ' ' :: (written v ++ writtenRest fields)) rest (by rw [writtenRest])
        (by rw [written, List.length_cons] at h; omega)
      rw [readValue.eq_def]
      show (readFields n ((quoted k ++ ':' :: ' ' :: (written v ++ writtenRest fields)) ++ rest)).bind
        (fun p => some (record p.1, p.2)) = _
      rw [hfields]
      rfl

/-- The fields of a record are read again. -/
theorem readFields_written : ∀ (fields : List (String × Json)) (n : Nat) (cs rest : List Char),
    writtenRest fields = ',' :: ' ' :: cs → cs.length ≤ n → readFields n (cs ++ rest) = some (fields, rest)
  | [], n, cs, rest, hcs, _ => by
      rw [writtenRest] at hcs
      cases hcs
  | (k, v) :: fields, n, cs, rest, hcs, h => by
      rw [writtenRest] at hcs
      cases hcs
      simp only [List.length_append, List.length_cons] at h
      obtain ⟨m, rfl⟩ : ∃ m, n = m + 1 := ⟨n - 1, by omega⟩
      have hvalue := readValue_written v m (writtenRest fields ++ rest) (by omega) (endsNumber_writtenRest fields rest)
      have hfield := readFields_field m k hvalue
      have happend : quoted k ++ ':' :: ' ' :: (written v ++ writtenRest fields) ++ rest =
          quoted k ++ ':' :: ' ' :: (written v ++ (writtenRest fields ++ rest)) := by
        simp only [List.append_assoc, List.cons_append]
      rw [happend, hfield]
      cases fields with
      | nil => rfl
      | cons field fields =>
          obtain ⟨k', v'⟩ := field
          have hrest := readFields_written ((k', v') :: fields) m _ rest (by rw [writtenRest])
            (by simp only [writtenRest, List.length_append, List.length_cons] at h ⊢; omega)
          rw [writtenRest]
          show (readFields m (' ' :: ((quoted k' ++ ':' :: ' ' :: (written v' ++ writtenRest fields)) ++ rest))).bind _ = _
          rw [readFields_blank, hrest]
          rfl

end

/-- **Reading undoes writing.** -/
theorem read_written (j : Json) : read (written j) = some j := by
  have hread := readValue_written j (written j).length [] (Nat.le_refl _) fun c hc => nomatch hc
  rw [List.append_nil] at hread
  unfold read
  rw [hread]
  rfl

/-! ## Lines -/

theorem blank_le_escape (c : Char) : ∀ c' ∈ escape c, 32 ≤ c'.toNat := by
  have hdigit : ∀ n < 16, 32 ≤ (Nat.digitChar n).toNat := by decide
  unfold escape
  -- seven characters have a short form, and the other control characters are written as their numbers
  iterate 7
    split
    · simp
  split
  · next hcontrol =>
      have hhigh : 32 ≤ (Nat.digitChar (c.toNat / 16)).toNat := hdigit _ (by omega)
      have hlow : 32 ≤ (Nat.digitChar (c.toNat % 16)).toNat := hdigit _ (by omega)
      simp [hhigh, hlow]
  · next hplain =>
      rw [List.forall_mem_singleton]
      exact Nat.le_of_not_lt hplain

theorem blank_le_escapeAll (cs : List Char) : ∀ c ∈ escapeAll cs, 32 ≤ c.toNat := by
  induction cs with
  | nil => simp [escapeAll]
  | cons c cs ih =>
      rw [escapeAll, List.forall_mem_append]
      exact ⟨blank_le_escape c, ih⟩

theorem blank_le_quoted (s : String) : ∀ c ∈ quoted s, 32 ≤ c.toNat := by
  rw [quoted, List.forall_mem_cons]
  exact ⟨by decide, blank_le_escapeAll s.toList⟩

theorem blank_le_toDigits (n : Nat) : ∀ c ∈ Nat.toDigits 10 n, 32 ≤ c.toNat := by
  intro c hc
  have hdigit : c.isDigit = true := Nat.isDigit_of_mem_toDigits (by decide) (by decide) hc
  have hrange : 48 ≤ c.toNat := by
    simp only [Char.isDigit, Bool.and_eq_true, decide_eq_true_eq] at hdigit
    exact hdigit.1
  omega

mutual

/-- What is written holds no character below the blank, so no end of a line. -/
theorem blank_le_written : ∀ j : Json, ∀ c ∈ written j, 32 ≤ c.toNat
  | null => by simp [written]
  | number n => by rw [written]; exact blank_le_toDigits n
  | text s => by rw [written]; exact blank_le_quoted s
  | record [] => by simp [written]
  | record ((k, v) :: fields) => by
      rw [written]
      simp only [List.forall_mem_cons, List.forall_mem_append]
      exact ⟨by decide, blank_le_quoted k, by decide, by decide, blank_le_written v, blank_le_writtenRest fields⟩

theorem blank_le_writtenRest : ∀ fields : List (String × Json), ∀ c ∈ writtenRest fields, 32 ≤ c.toNat
  | [] => by simp [writtenRest]
  | (k, v) :: fields => by
      rw [writtenRest]
      simp only [List.forall_mem_cons, List.forall_mem_append]
      exact ⟨by decide, by decide, blank_le_quoted k, by decide, by decide, blank_le_written v, blank_le_writtenRest fields⟩

end

/-- A written value stays on its line. -/
theorem newline_not_mem_written (j : Json) : '\n' ∉ written j := by
  intro hmem
  have hle := blank_le_written j '\n' hmem
  revert hle
  decide

end Crawl.Json
