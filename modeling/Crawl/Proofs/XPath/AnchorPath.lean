import Crawl.Resolution
import Crawl.Proofs.XPath.Reading
import Crawl.Proofs.XPath.Order
/-!
# The path to the anchors with a title

The path is read step by step: from the root to all places, on to the anchors, and in their predicate to the attribute,
which is compared with a written text. What the text is read as by itself is what it is read as there (`parse_titled`).
-/

namespace Crawl.XPath

variable {c d : Char} {cs ds v name rest : List Char} {e e' p : Expr} {ps : List Expr} {n : Nat}

/-! ## Steps -/

/-- The character behind a name: it belongs to no name, and no test and no blank begins with it. -/
structure EndsName (d : Char) : Prop where
  name : isNameChar d = false
  blank : isBlank d = false
  bracket : d ≠ '('
  colon : d ≠ ':'

theorem endsName_bracket : EndsName '[' := ⟨by decide, by decide, by decide, by decide⟩

theorem endsName_equals : EndsName '=' := ⟨by decide, by decide, by decide, by decide⟩

theorem ne_of_isNameStart (hc : isNameStart c = true) (hd : isNameStart d = false) : c ≠ d := by
  rintro rfl
  rw [hc] at hd
  cases hd

theorem takeNameTest_plain {tag : String} (hd : EndsName d) :
    takeNameTest tag (d :: ds) = .ok (.named none tag, d :: ds) := by
  rw [takeNameTest, skip_cons hd.blank]
  split
  · next h => exact absurd (List.cons.inj h).1 hd.bracket
  · next h => exact absurd (List.cons.inj h).1 hd.colon
  · rfl

/-- A step to elements with a tag. -/
theorem parseStep_child (hstart : isNameStart c = true) (hname : name.all isNameChar = true)
    (hnone : Axis.ofWord? (String.ofList (c :: name)) = none) (hd : EndsName d)
    (h : parsePredicates n (d :: ds) = .ok (ps, rest)) :
    parseStep (n + 1) e (c :: (name ++ d :: ds)) =
      .ok (.step e .child (.named none (String.ofList (c :: name))) ps, rest) := by
  have hdot : c ≠ '.' := ne_of_isNameStart hstart (by decide)
  have haxis : takeAxis (c :: (name ++ d :: ds)) = (.child, some (String.ofList (c :: name)), d :: ds) := by
    unfold takeAxis
    rw [← List.cons_append, takeName_append hstart hname hd.name]
    simp only [hnone]
  rw [parseStep, haxis]
  · simp only [takeTest, takeNameTest_plain hd]
    show (parsePredicates n (skip (d :: ds)) >>= _) = _
    rw [skip_cons hd.blank, h]
    rfl
  · exact fun _ h => hdot (List.cons.inj h).1
  · exact fun _ h => hdot (List.cons.inj h).1

/-- A step to an attribute. -/
theorem parseStep_attr (hstart : isNameStart c = true) (hname : name.all isNameChar = true) (hblank : isBlank c = false)
    (hd : EndsName d) (h : parsePredicates n (d :: ds) = .ok (ps, rest)) :
    parseStep (n + 1) e ('@' :: c :: (name ++ d :: ds)) =
      .ok (.step e .attr (.named none (String.ofList (c :: name))) ps, rest) := by
  have hstar : c ≠ '*' := ne_of_isNameStart hstart (by decide)
  have haxis : takeAxis ('@' :: c :: (name ++ d :: ds)) = (.attr, none, c :: (name ++ d :: ds)) := rfl
  have htest : takeTest none (c :: (name ++ d :: ds)) = .ok (.named none (String.ofList (c :: name)), d :: ds) := by
    rw [takeTest, skip_cons hblank]
    split
    · next h => exact absurd (List.cons.inj h).1 hstar
    · rw [← List.cons_append, takeName_append hstart hname hd.name]
      exact takeNameTest_plain hd
  rw [parseStep, haxis]
  · simp only [htest]
    show (parsePredicates n (skip (d :: ds)) >>= _) = _
    rw [skip_cons hd.blank, h]
    rfl
  · exact nofun
  · exact nofun

theorem parsePredicates_none (h : cs.head? ≠ some '[') : parsePredicates (n + 1) cs = .ok ([], cs) := by
  rw [parsePredicates]
  rintro rest rfl
  exact h rfl

/-- One predicate. -/
theorem parsePredicates_one (h : parseLevel (n + 1) .or cs = .ok (p, ']' :: rest)) (hcs : Begins cs)
    (hskip : skip rest = rest) (hrest : rest.head? ≠ some '[') : parsePredicates (n + 2) ('[' :: cs) = .ok ([p], rest) := by
  rw [parsePredicates, hcs.skip, h]
  show (parsePredicates (n + 1) (skip rest) >>= _) = _
  rw [hskip, parsePredicates_none hrest]
  rfl

theorem parseSteps_none (h : cs.head? ≠ some '/') : parseSteps (n + 1) e cs = .ok (e, cs) := by
  rw [parseSteps]
  · rintro rest rfl
    exact h rfl
  · rintro rest rfl
    exact h rfl

/-- A path of one step. -/
theorem parseRelative_step (h : parseStep (n + 1) e cs = .ok (e', rest)) (hcs : Begins cs) (hslash : cs.head? ≠ some '/')
    (hskip : skip rest = rest) (hrest : rest.head? ≠ some '/') : parseRelative (n + 2) e cs = .ok (e', rest) := by
  rw [parseRelative, hcs.skip]
  split
  next e₁ cs₁ hstart =>
    have hsame : (e₁, cs₁) = (e, cs) := by
      rw [← hstart]
      split
      · exact absurd rfl hslash
      · exact absurd rfl hslash
      · rfl
    cases hsame
    rw [hcs.skip, h]
    show parseSteps (n + 1) e' (skip rest) = _
    rw [hskip, parseSteps_none hrest]

/-! ## The path to the anchors with a title -/

/-- The path that tests the attribute of an anchor. -/
def titlePath : Expr := .step .here .attr (.named none "title") []

/-- The path to all anchors of a document that a predicate keeps. -/
def anchorsWith (predicates : List Expr) : Expr := .step (.everywhere .root) .child (.named none "a") predicates

theorem Begins.of_ne (hblank : isBlank c = false) (hminus : c ≠ '-') (hbracket : c ≠ ')') (cs : List Char) :
    Begins (c :: cs) := ⟨c, cs, rfl, hblank, hminus, hbracket⟩

/-- The title is read up to the sign that compares it. -/
theorem parsePath_title (n : Nat) (ds : List Char) :
    parsePath (n + 4) ('@' :: 't' :: (['i', 't', 'l', 'e'] ++ '=' :: ds)) = .ok (titlePath, '=' :: ds) := by
  have hstep : parseStep (n + 2) .here ('@' :: 't' :: (['i', 't', 'l', 'e'] ++ '=' :: ds)) = .ok (titlePath, '=' :: ds) :=
    parseStep_attr (by decide) (by decide) (by decide) endsName_equals (parsePredicates_none (by simp))
  have hbegins : beginsWithValue ('@' :: 't' :: (['i', 't', 'l', 'e'] ++ '=' :: ds)) = .ok false := rfl
  rw [parsePath, hbegins]
  · exact parseRelative_step hstep (.of_ne (by decide) (by decide) (by decide) _) (by simp) (skip_cons rfl) (by simp)
  · simp

/-- A sign of equality is no operator of a tighter level. -/
theorem operatorAt_equals (ds : List Char) :
    ∀ level ∈ [Binding.relation, .sum, .product, .union], operatorAt level ('=' :: ds) = none := by
  intro level hlevel
  simp only [List.mem_cons, List.not_mem_nil, or_false] at hlevel
  rcases hlevel with rfl | rfl | rfl | rfl <;> rfl

/-- The comparison of the title with an expression. -/
theorem parseLevel_title (hpath : parsePath n ds = .ok (e, rest)) (hds : Begins ds) (hend : Ends rest) (hn : 4 ≤ n) :
    parseLevel (n + 15) .or ('@' :: 't' :: (['i', 't', 'l', 'e'] ++ '=' :: ds)) =
      .ok (.binary .equal titlePath e, rest) := by
  obtain ⟨m, rfl⟩ := Nat.exists_eq_add_of_le' hn
  have hleft := parseLevel_relation (parsePath_title (m + 1) ds) (.of_ne (by decide) (by decide) (by decide) _)
    (skip_cons rfl) (operatorAt_equals ds)
  have hright := parseLevel_relation hpath hds hend.skip fun level _ => hend.operatorAt level
  exact parseLevel_or (parseLevel_equal hleft hds hright hend) hend

/-- The anchors that one predicate keeps. -/
theorem parsePath_anchors (h : parseLevel (n + 1) .or ds = .ok (p, [']'])) (hds : Begins ds) :
    parsePath (n + 6) ('/' :: '/' :: 'a' :: '[' :: ds) = .ok (anchorsWith [p], []) := by
  have hpredicates : parsePredicates (n + 2) ('[' :: ds) = .ok ([p], []) := parsePredicates_one h hds rfl (by simp)
  have hstep : parseStep (n + 3) (.everywhere .root) ('a' :: ([] ++ '[' :: ds)) = .ok (anchorsWith [p], []) :=
    parseStep_child (by decide) rfl (by decide) endsName_bracket hpredicates
  have hrelative : parseRelative (n + 4) (.everywhere .root) ('a' :: '[' :: ds) = .ok (anchorsWith [p], []) :=
    parseRelative_step hstep (.of_ne (by decide) (by decide) (by decide) _) (by simp) rfl (by simp)
  have habsolute : parseAbsolute (n + 5) .root ('/' :: '/' :: 'a' :: '[' :: ds) = .ok (anchorsWith [p], []) := by
    rw [parseAbsolute, skip_cons rfl, hrelative]
    show parseAbsolute (n + 4) (anchorsWith [p]) [] = _
    rw [parseAbsolute]
    · exact nofun
    · exact nofun
  have hbegins : beginsWithValue ('/' :: '/' :: 'a' :: '[' :: ds) = .ok false := rfl
  rw [parsePath, hbegins]
  exact habsolute

theorem parse_of_parsePath (h : parsePath n cs = .ok (e, [])) (hcs : Begins cs) (hn : fuelFor cs = n + 14) :
    parse (String.ofList cs) = .ok e := by
  have hlevel := parseLevel_path h hcs .nil
  rw [← hn] at hlevel
  unfold parse
  rw [String.toList_ofList]
  dsimp only
  rw [hlevel]
  rfl

/-- **A written text stands in the path to anchors with a title as it stands by itself**: the path is read as the anchors
whose title equals what the text is read as. -/
theorem parse_titled (h : Writes cs v) :
    ∃ e, Means e v ∧ parse (String.ofList cs) = .ok e ∧
      parse (String.ofList ("//a[@title=".toList ++ cs ++ [']'])) = .ok (anchorsWith [.binary .equal titlePath e]) := by
  obtain ⟨e, hmeans, hpath⟩ := h.parsePath
  have hend : Ends [']'] := .cons (.inr (.inl rfl)) []
  -- The fuel of a path is more than 32 for each of its characters, and those of the text need only one each.
  refine ⟨e, hmeans, ?_, ?_⟩
  · have hwhole := hpath (32 * (cs.length + 2) - 14) [] (by omega) .nil
    rw [List.append_nil] at hwhole
    exact parse_of_parsePath hwhole h.begins (by unfold fuelFor; omega)
  · have hopening : "//a[@title=".toList = ['/', '/', 'a', '[', '@', 't', 'i', 't', 'l', 'e', '='] := by decide
    have htext : "//a[@title=".toList ++ cs ++ [']'] =
        '/' :: '/' :: 'a' :: '[' :: '@' :: 't' :: (['i', 't', 'l', 'e'] ++ '=' :: (cs ++ [']'])) := by
      rw [hopening]
      simp
    have htitle := parseLevel_title (hpath (32 * (cs.length + 14) - 34) [']'] (by omega) hend) (h.begins.append _) hend
      (by omega)
    rw [htext]
    refine parse_of_parsePath (parsePath_anchors htitle (.of_ne (by decide) (by decide) (by decide) _))
      (.of_ne (by decide) (by decide) (by decide) _) ?_
    simp only [fuelFor, List.length_cons, List.length_append, List.length_nil]
    omega

end Crawl.XPath
