import Crawl.XPath.Literal
import Crawl.Proofs.Url.Delimiter
/-!
# Texts written in path expressions

Path expressions know no escapes. A literal stands between two equal quotes and cannot hold that quote, so a text with
both quotes has to be put together from literals by a call of `concat`, which takes at least two arguments. `Writes` is
this grammar, with the text that is meant. A text given to `literal` is always written so that it is meant
(`writes_literal`).
-/

namespace Crawl.XPath

/-- A literal, and the text between its quotes. -/
inductive Quotes : List Char → List Char → Prop
  | double {cs : List Char} (h : '\x22' ∉ cs) : Quotes (between '\x22' cs) cs
  | single {cs : List Char} (h : '\x27' ∉ cs) : Quotes (between '\x27' cs) cs

/-- Literals with a comma and a space between neighbours, and the texts between their quotes. -/
inductive Arguments : List Char → List (List Char) → Prop
  | one {cs v : List Char} (h : Quotes cs v) : Arguments cs [v]
  | more {cs v ds : List Char} {vs : List (List Char)} (h : Quotes cs v) (hs : Arguments ds vs) :
    Arguments (cs ++ ',' :: ' ' :: ds) (v :: vs)

/-- The text of a call of `concat`. -/
def concatCall (arguments : List Char) : List Char := "concat(".toList ++ arguments ++ [')']

/-- The name of the function that puts texts together. -/
def concatName : List Char := ['c', 'o', 'n', 'c', 'a', 't']

theorem concatCall_eq (cs : List Char) : concatCall cs = concatName ++ '(' :: (cs ++ [')']) := by
  have hname : "concat(".toList = concatName ++ ['('] := by decide
  have hcall : concatCall cs = concatName ++ ['('] ++ cs ++ [')'] := congrArg (fun name => name ++ cs ++ [')']) hname
  rw [hcall]
  simp

theorem concatCall_append (cs rest : List Char) :
    concatCall cs ++ rest = concatName ++ '(' :: (cs ++ ')' :: rest) := by
  rw [concatCall_eq]
  simp

/-- A literal or a call of `concat`, and the text that it means. -/
inductive Writes : List Char → List Char → Prop
  | literal {cs v : List Char} (h : Quotes cs v) : Writes cs v
  | concat {cs : List Char} {vs : List (List Char)} (hs : Arguments cs vs) (htwo : 2 ≤ vs.length) :
    Writes (concatCall cs) vs.flatten

/-- The arguments for pieces without double quotes: the pieces, with a double quote between neighbours. -/
theorem arguments_concatArguments {ps : List (List Char)} (hne : ps ≠ []) (hps : ∀ p ∈ ps, '\x22' ∉ p) :
    Arguments (concatArguments ps) (ps.intersperse ['\x22']) := by
  induction ps with
  | nil => exact absurd rfl hne
  | cons p ps ih =>
      obtain ⟨hp, hps⟩ := List.forall_mem_cons.mp hps
      cases ps with
      | nil => exact .one (.double hp)
      | cons q qs =>
          have hquote : Quotes (between '\x27' ['\x22']) ['\x22'] := .single (by decide)
          have hrest := ih (List.cons_ne_nil q qs) hps
          have hargs := Arguments.more (.double hp) (.more hquote hrest)
          have hseparator : ", '\x22', ".toList = ',' :: ' ' :: between '\x27' ['\x22'] ++ [',', ' '] := by decide
          rw [concatArguments, hseparator]
          · simpa using hargs
          · exact nofun

/-- **A text is written so that it is meant**, whatever quotes it holds and wherever they stand. -/
theorem writes_literalList (cs : List Char) : Writes (literalList cs) cs := by
  unfold literalList
  split
  · next h => exact .literal (.double (by simpa using h))
  · next hdouble =>
      split
      · next h => exact .literal (.single (by simpa using h))
      · have hmem : '\x22' ∈ cs := by simpa using hdouble
        have htwo := Url.two_le_length_pieces hmem
        have hne : Url.Host.pieces '\x22' cs ≠ [] := List.ne_nil_of_length_pos (by omega)
        have hargs := arguments_concatArguments hne fun p hp => Url.not_mem_of_mem_pieces hp
        have hflatten : ((Url.Host.pieces '\x22' cs).intersperse ['\x22']).flatten = cs := by
          rw [Url.pieces_eq_splitOn]
          exact List.intercalate_splitOn '\x22'
        have hwrites := Writes.concat hargs (by simp; omega)
        rwa [hflatten] at hwrites

theorem writes_literal (s : String) : Writes (literal s).toList s.toList := by
  rw [literal, String.toList_ofList]
  exact writes_literalList s.toList

/-! ## What writing adds -/

section Printable

variable {f : Char → Bool} {cs v : List Char} {vs : List (List Char)}

/-- Writing adds nothing but printable characters. -/
theorem Quotes.all (hf : ∀ c : Char, 32 ≤ c.toNat → c.toNat < 127 → f c = true) (h : Quotes cs v) :
    cs.all f = v.all f := by
  have hdouble : f '\x22' = true := hf _ (by decide) (by decide)
  have hsingle : f '\x27' = true := hf _ (by decide) (by decide)
  cases h with
  | double _ => simp [between, hdouble]
  | single _ => simp [between, hsingle]

theorem Arguments.all (hf : ∀ c : Char, 32 ≤ c.toNat → c.toNat < 127 → f c = true) (h : Arguments cs vs) :
    cs.all f = vs.flatten.all f := by
  have hcomma : f ',' = true := hf _ (by decide) (by decide)
  have hspace : f ' ' = true := hf _ (by decide) (by decide)
  induction h with
  | one h => simp [h.all hf]
  | more h _ ih => simp [h.all hf, ih, hcomma, hspace]

theorem Writes.all (hf : ∀ c : Char, 32 ≤ c.toNat → c.toNat < 127 → f c = true) (h : Writes cs v) :
    cs.all f = v.all f := by
  have hname : concatName.all f = true := by
    have hprintable : concatName.all (fun c => 32 ≤ c.toNat ∧ c.toNat < 127) = true := by decide
    refine List.all_eq_true.mpr fun c hc => ?_
    obtain ⟨hlow, hhigh⟩ := of_decide_eq_true (List.all_eq_true.mp hprintable c hc)
    exact hf c hlow hhigh
  have hopening : f '(' = true := hf _ (by decide) (by decide)
  have hclosing : f ')' = true := hf _ (by decide) (by decide)
  cases h with
  | literal h => exact h.all hf
  | concat hs _ =>
      rw [concatCall_eq]
      simp [hname, hopening, hclosing, hs.all hf]

end Printable

end Crawl.XPath
