import Crawl.Url.Percent
import Crawl.Proofs.Text.Utf8
import Crawl.Proofs.Url.Recomposed
/-!
# The fields of a query

A query of form fields is read by taking it apart at every `&` and each piece at its first `=`; in the two texts a plus
sign is read as a space before the percent forms are read. What a form writes is read back as its fields
(`readFields_formQuery`), since a name or value is written in letters, digits and signs that none of these steps looks for.
-/

namespace Crawl.Url

/-! ## Reading -/

/-- A character of a field with the plus sign read as a space. -/
def plusToSpace (c : Char) : Char := if c = '+' then ' ' else c

/-- A name or value as it is read. -/
def readText (cs : List Char) : String := String.ofList (percentDecode (cs.map plusToSpace))

/-- One piece as a name and a value; a piece without `=` has an empty value. -/
def readPair (piece : List Char) : String × String := (readText (cut '=' piece).1, readText (cut '=' piece).2)

/-- The fields of a query, with blank values kept. -/
def readFields (query : List Char) : List (String × String) :=
  ((Host.pieces '&' query).filter (!·.isEmpty)).map readPair

/-! ## What a field is written in -/

/-- The characters that names and values are written in. -/
def isFieldChar (c : Char) : Bool := isUnreserved c || c == '+' || c == '%'

/-- A character that names and values are written in is a visible ASCII character and no delimiter. -/
theorem fieldChar_plain {c : Char} (h : isFieldChar c = true) :
    c.toNat < 128 ∧ c ≠ '&' ∧ c ≠ '=' ∧ c ≠ '#' ∧ isLine c = false := by
  have hlt : c.toNat < 128 := by
    simp only [isFieldChar, isUnreserved, Bool.or_eq_true, beq_iff_eq] at h
    rcases h with (((((h | rfl) | rfl) | rfl) | rfl) | rfl) | rfl
    · have := toNat_of_isAlphanum h
      omega
    all_goals decide
  exact ⟨hlt, Text.forall_ascii (P := fun c => isFieldChar c = true → c ≠ '&' ∧ c ≠ '=' ∧ c ≠ '#' ∧ isLine c = false)
    (by decide +kernel) hlt h⟩

/-- The digits of percent forms are read, and none of them is a percent or plus sign. -/
theorem upperHex_read {n : Nat} (h : n < 16) :
    hexValue? (upperHex n) = some n ∧ isUnreserved (upperHex n) = true ∧ upperHex n ≠ '+' := by
  have hall : ∀ n ∈ List.range 16,
      hexValue? (upperHex n) = some n ∧ isUnreserved (upperHex n) = true ∧ upperHex n ≠ '+' := by decide +kernel
  exact hall n (List.mem_range.mpr h)

theorem byte_digits (b : UInt8) : b.toNat / 16 < 16 ∧ b.toNat % 16 < 16 := by
  have := b.toNat_lt
  omega

theorem isFieldChar_of_percentByte {b : UInt8} {c : Char} (h : c ∈ percentByte b) : isFieldChar c = true := by
  rcases List.mem_cons.mp h with rfl | h
  · rfl
  rcases List.mem_cons.mp h with rfl | h
  · rw [isFieldChar, (upperHex_read (byte_digits b).1).2.1, Bool.true_or, Bool.true_or]
  · rw [List.mem_singleton.mp h, isFieldChar, (upperHex_read (byte_digits b).2).2.1, Bool.true_or, Bool.true_or]

theorem isFieldChar_of_fieldText {cs : List Char} {c : Char} (h : c ∈ fieldText cs) : isFieldChar c = true := by
  obtain ⟨d, -, hc⟩ := List.mem_flatMap.mp h
  unfold fieldChar at hc
  split at hc
  · next hplain => rw [List.mem_singleton.mp hc, isFieldChar, hplain, Bool.true_or, Bool.true_or]
  · split at hc
    · rw [List.mem_singleton.mp hc]
      rfl
    · obtain ⟨b, -, hb⟩ := List.mem_flatMap.mp hc
      exact isFieldChar_of_percentByte hb

/-! ## One name or value -/

/-- A character other than the percent sign stands for itself. -/
theorem percentBytes_cons {c : Char} (h : c ≠ '%') (cs : List Char) :
    percentBytes (c :: cs) = Text.Utf8.encodeChar c ++ percentBytes cs := by
  rw [percentBytes]
  rintro a b rest rfl
  exact absurd rfl h

theorem plusToSpace_percentByte (b : UInt8) : (percentByte b).map plusToSpace = percentByte b := by
  have hhigh : plusToSpace (upperHex (b.toNat / 16)) = upperHex (b.toNat / 16) :=
    if_neg (upperHex_read (byte_digits b).1).2.2
  have hlow : plusToSpace (upperHex (b.toNat % 16)) = upperHex (b.toNat % 16) :=
    if_neg (upperHex_read (byte_digits b).2).2.2
  simp only [percentByte, List.map_cons, List.map_nil, hhigh, hlow]
  rfl

theorem percentBytes_percentByte (b : UInt8) (rest : List Char) :
    percentBytes (percentByte b ++ rest) = b :: percentBytes rest := by
  have hvalue : (b.toNat / 16 * 16 + b.toNat % 16).toUInt8 = b := by
    rw [Nat.div_add_mod']
    exact UInt8.ofNat_toNat
  simp only [percentByte, List.cons_append, List.nil_append, percentBytes, (upperHex_read (byte_digits b).1).1,
    (upperHex_read (byte_digits b).2).1, hvalue]

theorem percentBytes_percentBytes (bs : List UInt8) (rest : List Char) :
    percentBytes ((bs.flatMap percentByte).map plusToSpace ++ rest) = bs ++ percentBytes rest := by
  induction bs with
  | nil => rfl
  | cons b bs ih =>
      rw [List.flatMap_cons, List.map_append, plusToSpace_percentByte, List.append_assoc, percentBytes_percentByte, ih]
      rfl

/-- However a character is written in a field, its bytes are read. -/
theorem percentBytes_fieldChar (c : Char) (rest : List Char) :
    percentBytes ((fieldChar c).map plusToSpace ++ rest) = Text.Utf8.encodeChar c ++ percentBytes rest := by
  unfold fieldChar
  split
  · next hplain =>
      have hplus : plusToSpace c = c := if_neg fun he => by
        rw [he] at hplain
        exact absurd hplain (by decide)
      have hpercent : c ≠ '%' := fun he => by
        rw [he] at hplain
        exact absurd hplain (by decide)
      rw [List.map_cons, List.map_nil, hplus]
      exact percentBytes_cons hpercent rest
  · split
    · next hspace =>
        rw [beq_iff_eq.mp hspace]
        exact percentBytes_cons (by decide) rest
    · exact percentBytes_percentBytes (Text.Utf8.encodeChar c) rest

theorem percentBytes_fieldText (cs : List Char) :
    percentBytes ((fieldText cs).map plusToSpace) = Text.Utf8.encode cs := by
  induction cs with
  | nil => rfl
  | cons c cs ih =>
      rw [fieldText, List.flatMap_cons, List.map_append, percentBytes_fieldChar]
      exact congrArg (Text.Utf8.encodeChar c ++ ·) ih

/-- A text in ASCII is one run. -/
theorem asciiRuns_ascii {c : Char} {cs : List Char} (h : ∀ x ∈ c :: cs, x.toNat < 128) : asciiRuns (c :: cs) = [c :: cs] := by
  induction cs generalizing c with
  | nil => rfl
  | cons d cs ih =>
      have hc : decide (c.toNat < 128) = true := decide_eq_true (h c List.mem_cons_self)
      have hd : decide (d.toNat < 128) = true := decide_eq_true (h d (by simp))
      rw [asciiRuns, ih fun x hx => h x (List.mem_cons_of_mem c hx)]
      simp only [hc, hd, beq_self_eq_true, if_true]

theorem percentDecode_ascii {cs : List Char} (h : ∀ c ∈ cs, c.toNat < 128) :
    percentDecode cs = Text.Utf8.decodeForgiving (percentBytes cs) := by
  cases cs with
  | nil => rfl
  | cons c cs =>
      have hall : (c :: cs).all (·.toNat < 128) = true := List.all_eq_true.mpr fun x hx => decide_eq_true (h x hx)
      rw [percentDecode, asciiRuns_ascii h, List.flatMap_singleton, if_pos hall]

/-- **A name or value is read back.** -/
theorem readText_fieldText (text : String) : readText (fieldText text.toList) = text := by
  have hascii : ∀ c ∈ (fieldText text.toList).map plusToSpace, c.toNat < 128 := by
    intro c hc
    obtain ⟨d, hd, rfl⟩ := List.mem_map.mp hc
    unfold plusToSpace
    split
    · decide
    · exact (fieldChar_plain (isFieldChar_of_fieldText hd)).1
  rw [readText, percentDecode_ascii hascii, percentBytes_fieldText, Text.Utf8.decodeForgiving_encode, String.ofList_toList]

/-! ## The whole query -/

theorem not_mem_fieldText (cs : List Char) : '&' ∉ fieldText cs ∧ '=' ∉ fieldText cs :=
  ⟨fun h => (fieldChar_plain (isFieldChar_of_fieldText h)).2.1 rfl,
    fun h => (fieldChar_plain (isFieldChar_of_fieldText h)).2.2.1 rfl⟩

theorem readPair_fieldPair (field : String × String) : readPair (fieldPair field) = field := by
  rw [readPair, fieldPair, cut_append (not_mem_fieldText _).2]
  exact Prod.ext (readText_fieldText field.1) (readText_fieldText field.2)

/-- A pair has no `&` in it, and it is never empty: at least its `=` is there. -/
theorem fieldPair_whole (field : String × String) : '&' ∉ fieldPair field ∧ (!(fieldPair field).isEmpty) = true := by
  refine ⟨fun h => ?_, ?_⟩
  · rcases List.mem_append.mp h with h | h
    · exact (not_mem_fieldText _).1 h
    · rcases List.mem_cons.mp h with h | h
      · exact absurd h (by decide)
      · exact (not_mem_fieldText _).1 h
  · unfold fieldPair
    simp

/-- **The query of a form is read back as its fields.** -/
theorem readFields_formQuery (fields : List (String × String)) : readFields (formQuery fields) = fields := by
  induction fields with
  | nil => rfl
  | cons f fs ih =>
      have hf := fieldPair_whole f
      cases fs with
      | nil =>
          rw [formQuery, readFields, pieces_whole hf.1, List.filter_cons, if_pos hf.2, List.filter_nil, List.map_cons,
            List.map_nil, readPair_fieldPair]
      | cons g gs =>
          have hsplit : readFields (formQuery (f :: g :: gs)) = readPair (fieldPair f) :: readFields (formQuery (g :: gs)) := by
            rw [formQuery, readFields, pieces_append hf.1, List.filter_cons, if_pos hf.2, List.map_cons]
            · rfl
            · exact List.cons_ne_nil g gs
          rw [hsplit, ih, readPair_fieldPair]

/-- The query of a form neither ends early nor holds anything that is removed. -/
theorem formQuery_plain (fields : List (String × String)) :
    ∀ c ∈ formQuery fields, c ≠ '#' ∧ isLine c = false := by
  have hpair : ∀ f : String × String, ∀ c ∈ fieldPair f, c ≠ '#' ∧ isLine c = false := by
    intro f c hc
    rcases List.mem_append.mp hc with hc | hc
    · exact (fieldChar_plain (isFieldChar_of_fieldText hc)).2.2.2
    · rcases List.mem_cons.mp hc with rfl | hc
      · decide
      · exact (fieldChar_plain (isFieldChar_of_fieldText hc)).2.2.2
  induction fields with
  | nil => exact nofun
  | cons f fs ih =>
      cases fs with
      | nil => exact hpair f
      | cons g gs =>
          intro c hc
          rw [formQuery] at hc
          · rcases List.mem_append.mp hc with hc | hc
            · exact hpair f c hc
            · rcases List.mem_cons.mp hc with rfl | hc
              · decide
              · exact ih c hc
          · exact List.cons_ne_nil g gs

/-- Parts stay regular when the fields of a form take the place of their query and the fragment goes. -/
theorem regular_formQuery {p : Parts} (h : Regular p) (fields : List (String × String)) :
    Regular ⟨p.scheme, p.netloc, p.path, formQuery fields, []⟩ :=
  ⟨h.scheme, h.netloc, h.rooted, h.path, fun hc => (formQuery_plain fields '#' hc).1 rfl, h.netlocLine, h.pathLine,
    fun c hc => (formQuery_plain fields c hc).2, nofun, h.checked⟩

end Crawl.Url
