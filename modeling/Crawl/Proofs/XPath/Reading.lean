import Crawl.XPath.Parse
import Crawl.Proofs.XPath.Written
/-!
# Reading written texts

What is read as one value does not depend on what stands behind it, as long as that closes it: the end of the text, a
closing bracket or a comma. Each level of operators hands its operand on to the next tighter level, so what is read as a
path is read as an expression of any level (`parseLevel_or`).
-/

namespace Crawl.XPath

variable {c : Char} {cs ds rest v : List Char} {e left right : Expr} {level : Binding} {n : Nat}

/-! ## Where an expression begins and ends -/

theorem skip_cons (h : isBlank c = false) : skip (c :: cs) = c :: cs := by simp [skip, h]

/-- A text begins with neither a blank nor a sign, and not with a bracket that closes. -/
def Begins (cs : List Char) : Prop := ∃ c r, cs = c :: r ∧ isBlank c = false ∧ c ≠ '-' ∧ c ≠ ')'

theorem Begins.skip (h : Begins cs) : skip cs = cs := by
  obtain ⟨c, r, rfl, hblank, -⟩ := h
  exact skip_cons hblank

theorem Begins.takeSigns (h : Begins cs) : takeSigns false false (XPath.skip cs) = (false, false, cs) := by
  obtain ⟨c, r, rfl, hblank, hminus, -⟩ := h
  rw [skip_cons hblank, XPath.takeSigns]
  · simp [hblank]
  · exact hminus

theorem Begins.append (h : Begins cs) (rest : List Char) : Begins (cs ++ rest) := by
  obtain ⟨c, r, rfl, hc⟩ := h
  exact ⟨c, r ++ rest, rfl, hc⟩

/-- Nothing stands behind an expression, or a character that closes it. -/
def Ends (rest : List Char) : Prop := ∀ c ∈ rest.head?, c = ')' ∨ c = ']' ∨ c = ','

theorem Ends.nil : Ends [] := nofun

theorem Ends.cons (hc : c = ')' ∨ c = ']' ∨ c = ',') (rest : List Char) : Ends (c :: rest) := by
  rintro d ⟨⟩
  exact hc

/-- What is behind an expression, by cases. -/
theorem Ends.cases (h : Ends rest) : rest = [] ∨ ∃ c r, rest = c :: r ∧ (c = ')' ∨ c = ']' ∨ c = ',') := by
  cases rest with
  | nil => exact .inl rfl
  | cons c r => exact .inr ⟨c, r, rfl, h c rfl⟩

theorem Ends.skip (h : Ends rest) : skip rest = rest := by
  rcases h.cases with rfl | ⟨c, r, rfl, rfl | rfl | rfl⟩ <;> rfl

theorem Ends.operatorAt (h : Ends rest) (level : Binding) : operatorAt level rest = none := by
  rcases h.cases with rfl | ⟨c, r, rfl, rfl | rfl | rfl⟩ <;> cases level <;> rfl

/-! ## Levels of operators -/

/-- An operand that no operator of its level follows is all there is. -/
theorem parseLevel_operand (h : parseOperand (n + 1) level cs = .ok (e, rest)) (hskip : skip rest = rest)
    (hnone : operatorAt level rest = none) : parseLevel (n + 2) level cs = .ok (e, rest) := by
  rw [parseLevel, h]
  show parseMore (n + 1) level e (skip rest) = _
  rw [hskip, parseMore, hnone]

/-- What is read as a path is read as an operand of a comparison. -/
theorem parseLevel_relation (h : parsePath n cs = .ok (e, rest)) (hcs : Begins cs) (hskip : skip rest = rest)
    (hnone : ∀ level ∈ [Binding.relation, .sum, .product, .union], operatorAt level rest = none) :
    parseLevel (n + 8) .relation cs = .ok (e, rest) := by
  have hpath : parseOperand (n + 1) .union cs = .ok (e, rest) := by rw [parseOperand, hcs.skip, h]
  have hunion : parseLevel (n + 2) .union cs = .ok (e, rest) := parseLevel_operand hpath hskip (hnone _ (by simp))
  have hsigns : parseOperand (n + 3) .product cs = .ok (e, rest) := by
    rw [parseOperand]
    simp only [hcs.takeSigns, hunion]
    rfl
  have hproduct : parseLevel (n + 4) .product cs = .ok (e, rest) := parseLevel_operand hsigns hskip (hnone _ (by simp))
  have hsum : parseLevel (n + 6) .sum cs = .ok (e, rest) :=
    parseLevel_operand (by rw [parseOperand, hproduct]) hskip (hnone _ (by simp))
  exact parseLevel_operand (by rw [parseOperand, hsum]) hskip (hnone _ (by simp))

/-- A comparison for equality of two paths. -/
theorem parseLevel_equal (hleft : parseLevel (n + 1) .relation cs = .ok (left, '=' :: ds)) (hds : Begins ds)
    (hright : parseLevel n .relation ds = .ok (right, rest)) (hend : Ends rest) :
    parseLevel (n + 3) .equality cs = .ok (.binary .equal left right, rest) := by
  have hfirst : parseOperand (n + 2) .equality cs = .ok (left, '=' :: ds) := by rw [parseOperand, hleft]
  have hsecond : parseOperand (n + 1) .equality ds = .ok (right, rest) := by rw [parseOperand, hright]
  have hequals : operatorAt .equality ('=' :: ds) = some (.equal, ds) := rfl
  rw [parseLevel, hfirst]
  show parseMore (n + 2) .equality left (skip ('=' :: ds)) = _
  rw [skip_cons rfl, parseMore, hequals]
  show (parseOperand (n + 1) .equality (skip ds) >>= _) = _
  rw [hds.skip, hsecond]
  show parseMore (n + 1) .equality (.binary .equal left right) (skip rest) = _
  rw [hend.skip, parseMore, hend.operatorAt]

/-- What is read as a comparison is read as an expression. -/
theorem parseLevel_or (h : parseLevel n .equality cs = .ok (e, rest)) (hend : Ends rest) :
    parseLevel (n + 4) .or cs = .ok (e, rest) := by
  have hand : parseLevel (n + 2) .and cs = .ok (e, rest) :=
    parseLevel_operand (by rw [parseOperand, h]) hend.skip (hend.operatorAt _)
  exact parseLevel_operand (by rw [parseOperand, hand]) hend.skip (hend.operatorAt _)

/-- What is read as a path is read as an expression. -/
theorem parseLevel_path (h : parsePath n cs = .ok (e, rest)) (hcs : Begins cs) (hend : Ends rest) :
    parseLevel (n + 14) .or cs = .ok (e, rest) := by
  have hrelation : parseLevel (n + 8) .relation cs = .ok (e, rest) :=
    parseLevel_relation h hcs hend.skip fun level _ => hend.operatorAt level
  exact parseLevel_or (parseLevel_operand (by rw [parseOperand, hrelation]) hend.skip (hend.operatorAt _)) hend

/-! ## Values -/

/-- A value that nothing follows is all there is of a path. -/
theorem parsePath_value (hbegins : beginsWithValue cs = .ok true) (h : parseValue (n + 1) cs = .ok (e, rest))
    (hend : Ends rest) : parsePath (n + 2) cs = .ok (e, rest) := by
  have hfilters : parseFilters (n + 1) e rest = .ok (e, rest) := by
    rcases hend.cases with rfl | ⟨c, r, rfl, rfl | rfl | rfl⟩ <;> rw [parseFilters] <;> exact nofun
  rw [parsePath, hbegins]
  · -- Nothing that closes an expression begins a filter or goes on with the path.
    show (parseValue (n + 1) cs >>= _) = _
    rw [h]
    show (parseFilters (n + 1) e (skip rest) >>= _) = _
    rw [hend.skip, hfilters]
    rcases hend.cases with rfl | ⟨c, r, rfl, rfl | rfl | rfl⟩ <;> rfl
  · rintro r rfl
    cases hbegins

theorem takeLiteral_append {q : Char} (h : q ∉ cs) (rest : List Char) :
    takeLiteral q (cs ++ q :: rest) = .ok (String.ofList cs, rest) := by
  have hpass : ∀ c ∈ cs, (c != q) = true := fun c hc => bne_iff_ne.mpr fun he => h (he ▸ hc)
  have hstop : (q != q) = false := bne_self_eq_false q
  rw [takeLiteral, Url.dropWhile_stop hpass hstop, Url.takeWhile_stop hpass hstop]

theorem Quotes.begins (h : Quotes cs v) : Begins cs := by
  cases h with
  | double h => exact ⟨'\x22', v ++ ['\x22'], rfl, rfl, by decide, by decide⟩
  | single h => exact ⟨'\x27', v ++ ['\x27'], rfl, rfl, by decide, by decide⟩

/-- A literal is read up to its closing quote. -/
theorem Quotes.parsePath (h : Quotes cs v) (hend : Ends rest) :
    XPath.parsePath (n + 2) (cs ++ rest) = .ok (.literal (String.ofList v), rest) := by
  cases h with
  | double h =>
      have htext : between '\x22' v ++ rest = '\x22' :: (v ++ '\x22' :: rest) := by simp [between]
      rw [htext]
      refine parsePath_value rfl ?_ hend
      rw [parseValue, takeLiteral_append h]
      show Except.ok (_, skip rest) = _
      rw [hend.skip]
  | single h =>
      have htext : between '\x27' v ++ rest = '\x27' :: (v ++ '\x27' :: rest) := by simp [between]
      rw [htext]
      refine parsePath_value rfl ?_ hend
      rw [parseValue, takeLiteral_append h]
      show Except.ok (_, skip rest) = _
      rw [hend.skip]

/-! ## Calls -/

/-- The expressions that arguments are read as. -/
def literals (vs : List (List Char)) : List Expr := vs.map fun v => .literal (String.ofList v)

theorem Arguments.begins {vs : List (List Char)} (h : Arguments cs vs) : Begins cs := by
  cases h with
  | one h => exact h.begins
  | more h _ => exact h.begins.append _

theorem Arguments.length_le {vs : List (List Char)} (h : Arguments cs vs) : vs.length ≤ cs.length := by
  induction h with
  | one h =>
      obtain ⟨c, r, rfl, -⟩ := h.begins
      simp
  | more h _ ih =>
      simp only [List.length_append, List.length_cons]
      omega

/-- A literal is read as an argument. -/
theorem Quotes.parseLevel (h : Quotes cs v) (hend : Ends rest) (n : Nat) :
    XPath.parseLevel (n + 16) .or (cs ++ rest) = .ok (.literal (String.ofList v), rest) :=
  parseLevel_path (h.parsePath (n := n) hend) (h.begins.append rest) hend

/-- Arguments are read up to the closing bracket. -/
theorem Arguments.parseArguments {vs : List (List Char)} (h : Arguments cs vs) (n : Nat) (rest : List Char) :
    XPath.parseArguments (n + vs.length + 16) (cs ++ ')' :: rest) = .ok (literals vs, ')' :: rest) := by
  induction h with
  | one h =>
      rw [List.length_singleton, XPath.parseArguments, h.parseLevel (.cons (.inl rfl) rest)]
      · rfl
      · simp
  | @more cs v ds vs h hs ih =>
      have htext : cs ++ ',' :: ' ' :: ds ++ ')' :: rest = cs ++ ',' :: ' ' :: (ds ++ ')' :: rest) := by simp
      have hblank : skip (' ' :: (ds ++ ')' :: rest)) = ds ++ ')' :: rest := (hs.begins.append _).skip
      have hfirst := h.parseLevel (.cons (.inr (.inr rfl)) (' ' :: (ds ++ ')' :: rest))) (n + vs.length)
      -- One unit of fuel is for the list itself; the others are there for its first literal and for the arguments behind.
      have hfuel : n + (vs.length + 1) + 16 = n + vs.length + 16 + 1 := by omega
      rw [htext, List.length_cons, hfuel, XPath.parseArguments, hfirst]
      · show (XPath.parseArguments (n + vs.length + 16) (skip (' ' :: (ds ++ ')' :: rest))) >>= _) = _
        rw [hblank, ih]
        rfl
      · simp

/-! ## Names and calls -/

theorem takeName_append {d : Char} {name : List Char} (hstart : isNameStart c = true) (hname : name.all isNameChar = true)
    (hd : isNameChar d = false) (rest : List Char) :
    takeName (c :: name ++ d :: rest) = some (String.ofList (c :: name), d :: rest) := by
  have hpass : ∀ c ∈ name, isNameChar c = true := List.all_eq_true.mp hname
  rw [List.cons_append, takeName, if_pos hstart, Url.takeWhile_stop hpass hd, Url.dropWhile_stop hpass hd]

theorem takeColonName_append {d : Char} {name : List Char} (hstart : isNameStart c = true)
    (hname : name.all isNameChar = true) (hd : isNameChar d = false) (hcolon : d ≠ ':') (rest : List Char) :
    takeColonName (c :: name ++ d :: rest) = some (c :: name, d :: rest) := by
  have hpass : ∀ c ∈ name, (isNameChar c || c == ':') = true := by
    intro c hc
    rw [List.all_eq_true.mp hname c hc, Bool.true_or]
  have hstop : (isNameChar d || d == ':') = false := by simp [hd, hcolon]
  simp only [List.cons_append, takeColonName, hstart, Bool.true_or, if_true]
  rw [Url.takeWhile_stop hpass hstop, Url.dropWhile_stop hpass hstop]

theorem beginsWithValue_concat (cs rest : List Char) : beginsWithValue (concatCall cs ++ rest) = .ok true := by
  rw [concatCall_append]
  have hname : takeColonName (concatName ++ '(' :: (cs ++ ')' :: rest)) = some (concatName, '(' :: (cs ++ ')' :: rest)) :=
    takeColonName_append (by decide) (by decide) (by decide) (by decide) _
  -- The first letter decides nothing, so the name is read, and the bracket behind it tells that this is a call.
  have hbegins : beginsWithValue (concatName ++ '(' :: (cs ++ ')' :: rest)) =
      (takeColonName (concatName ++ '(' :: (cs ++ ')' :: rest))).elim (.error .invalidExpression) fun taken =>
        .ok ((skip taken.2).head? == some '(' && (NodeType.ofWord? (String.ofList taken.1)).isNone) := rfl
  rw [hbegins, hname]
  rfl

/-- A call whose name and arguments have been read. -/
theorem parseValue_call {name : String} {args : List Expr}
    (hname : takeQualified (c :: cs) = some (none, name, '(' :: ds)) (hletter : c.isAlpha = true)
    (hdigit : c.isDigit = false) (hds : Begins ds) (hargs : parseArguments n ds = .ok (args, ')' :: rest)) :
    parseValue (n + 1) (c :: cs) = .ok (.call none name args, skip rest) := by
  -- A letter is none of the signs that values of other forms begin with.
  have hother (d : Char) (hd : d.isAlpha = false) : c ≠ d := by
    rintro rfl
    rw [hletter] at hd
    cases hd
  obtain ⟨d, r, rfl, hblank, -, hbracket⟩ := hds
  rw [parseValue, hname]
  · have hdot : (c == '.') = false := beq_eq_false_iff_ne.mpr (hother '.' rfl)
    simp only [hdigit, hdot, Bool.false_and, Bool.or_self, Bool.false_eq_true, if_false, skip_cons (c := '(') rfl,
      skip_cons hblank]
    split
    · next h => exact absurd (List.cons.inj h).1 hbracket
    · rw [hargs]
      rfl
  · exact hother '$' rfl
  · exact hother '(' rfl
  · exact hother '\x22' rfl
  · exact hother '\x27' rfl

/-- A call of `concat` is read up to its closing bracket. -/
theorem Arguments.parsePath {vs : List (List Char)} (h : Arguments cs vs) (hend : Ends rest) (n : Nat) :
    XPath.parsePath (n + vs.length + 18) (concatCall cs ++ rest) = .ok (.call none "concat" (literals vs), rest) := by
  have hname : takeQualified (concatName ++ '(' :: (cs ++ ')' :: rest)) =
      some (none, "concat", '(' :: (cs ++ ')' :: rest)) := by
    rw [takeQualified, concatName, takeName_append (by decide) (by decide) (by decide)]
    rfl
  have hvalue := parseValue_call hname (by decide) (by decide) (h.begins.append _) (h.parseArguments n rest)
  rw [hend.skip] at hvalue
  refine parsePath_value (beginsWithValue_concat cs rest) ?_ hend
  rw [concatCall_append]
  exact hvalue

/-! ## Written texts -/

/-- An expression that means a text: a literal, or a call of `concat` with at least two literals. -/
inductive Means : Expr → List Char → Prop
  | literal (v : List Char) : Means (.literal (String.ofList v)) v
  | concat {vs : List (List Char)} (htwo : 2 ≤ vs.length) : Means (.call none "concat" (literals vs)) vs.flatten

theorem Writes.begins (h : Writes cs v) : Begins cs := by
  cases h with
  | literal h => exact h.begins
  | concat hs htwo => exact ⟨'c', _, rfl, by decide, by decide, by decide⟩

/-- **A written text is read as an expression that means it**, and what stands behind it is left, if it closes the
expression. -/
theorem Writes.parsePath (h : Writes cs v) :
    ∃ e, Means e v ∧ ∀ n rest, cs.length + 18 ≤ n → Ends rest →
      XPath.parsePath n (cs ++ rest) = .ok (e, rest) := by
  cases h with
  | literal h =>
      refine ⟨_, .literal v, fun n rest hn hend => ?_⟩
      obtain ⟨m, rfl⟩ := Nat.exists_eq_add_of_le' (show 2 ≤ n by omega)
      exact h.parsePath hend
  | @concat cs vs hs htwo =>
      refine ⟨_, .concat htwo, fun n rest hn hend => ?_⟩
      have hlength : vs.length ≤ (concatCall cs).length := by
        have hle := hs.length_le
        rw [concatCall_eq, List.length_append, List.length_cons, List.length_append]
        omega
      obtain ⟨m, rfl⟩ := Nat.exists_eq_add_of_le' (show vs.length + 18 ≤ n by omega)
      exact hs.parsePath hend m

end Crawl.XPath
