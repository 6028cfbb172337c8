import Crawl.Proofs.Command.Sights
import Crawl.Proofs.Json.Reading
import Mathlib.Data.List.Induction
/-!
# Records as lines

The lines of a listing can be read again. Each of them holds one value, which no end of a line interrupts: an object with
the tag and the text of a match, its place among the matches, and for each attribute that was asked for the answer, or
nothing where there was none (`faithful_lines`). An attribute that was asked for twice is told once, in its first place and
with the latest answer.
-/

namespace Crawl.Command

variable {ν : Type} {names : List String}

/-! ## Values under names -/

namespace Record

variable {α β : Type}

theorem lookup_cons (e : String × α) (known : List (String × α)) (asked : String) :
    (e :: known).lookup asked = if asked = e.1 then some e.2 else known.lookup asked := by
  rw [List.lookup_cons]
  by_cases h : asked = e.1
  · rw [if_pos h, beq_iff_eq.mpr h]
  · rw [if_neg h, beq_eq_false_iff_ne.mpr h]

theorem lookup_put (name : String) (value : α) (known : List (String × α)) (asked : String) :
    (put name value known).lookup asked = if asked = name then some value else known.lookup asked := by
  induction known with
  | nil => exact lookup_cons (name, value) [] asked
  | cons e known ih =>
      unfold put
      by_cases hname : e.1 = name
      · rw [if_pos hname, lookup_cons, lookup_cons, hname]
        by_cases h : asked = name
        · rw [if_pos h, if_pos h]
        · rw [if_neg h, if_neg h, if_neg h]
      · rw [if_neg hname, lookup_cons, lookup_cons, ih]
        by_cases h : asked = e.1
        · rw [if_pos h, if_pos h, if_neg fun hasked => hname (h.symm.trans hasked)]
        · rw [if_neg h, if_neg h]

theorem keys_put (name : String) (value : α) (known : List (String × α)) :
    (put name value known).map Prod.fst =
      if name ∈ known.map Prod.fst then known.map Prod.fst else known.map Prod.fst ++ [name] := by
  induction known with
  | nil => rfl
  | cons e known ih =>
      unfold put
      by_cases hname : e.1 = name
      · rw [if_pos hname, List.map_cons, List.map_cons, hname, if_pos List.mem_cons_self]
      · rw [if_neg hname, List.map_cons, ih, List.map_cons]
        simp only [List.mem_cons, Ne.symm hname, false_or]
        split <;> rfl

/-- Values put one after the other: the latest one under a name counts. -/
theorem lookup_foldl_put (values known : List (String × α)) (asked : String) :
    (values.foldl (fun known e => put e.1 e.2 known) known).lookup asked =
      (values.reverse.lookup asked).or (known.lookup asked) := by
  induction values generalizing known with
  | nil => rfl
  | cons e values ih =>
      rw [List.foldl_cons, ih, lookup_put, List.reverse_cons, List.lookup_append, Option.or_assoc, lookup_cons]
      congr 1
      by_cases h : asked = e.1
      · rw [if_pos h, if_pos h, Option.some_or]
      · rw [if_neg h, if_neg h, List.lookup_nil, Option.none_or]

/-- The names of values put one after the other are told in the order in which they first came. -/
theorem keys_foldl_put (values : List (String × α)) :
    (values.foldl (fun known e => put e.1 e.2 known) []).map Prod.fst = (values.map Prod.fst).eraseDups := by
  induction values using List.reverseRecOn with
  | nil => rfl
  | append_singleton values e ih =>
      rw [List.foldl_append, List.foldl_cons, List.foldl_nil, keys_put, ih, List.map_append, List.eraseDups_append]
      by_cases h : e.1 ∈ values.map Prod.fst
      · rw [if_pos (List.mem_eraseDups.mpr h)]
        simp [List.removeAll, h]
      · rw [if_neg fun hmem => h (List.mem_eraseDups.mp hmem)]
        simp [List.removeAll, h, List.eraseDups_cons]

theorem lookup_map_snd (f : α → β) (values : List (String × α)) (asked : String) :
    (values.map fun e => (e.1, f e.2)).lookup asked = (values.lookup asked).map f := by
  induction values with
  | nil => rfl
  | cons e values ih =>
      rw [List.map_cons, lookup_cons, lookup_cons, ih]
      by_cases h : asked = e.1
      · rw [if_pos h, if_pos h, Option.map_some]
      · rw [if_neg h, if_neg h]

/-- A value that depends on the name alone is found under each name. -/
theorem lookup_of_forall {f : String → α} {values : List (String × α)} (h : ∀ e ∈ values, e.2 = f e.1) {asked : String}
    (hasked : asked ∈ values.map Prod.fst) : values.lookup asked = some (f asked) := by
  induction values with
  | nil => cases hasked
  | cons e values ih =>
      rw [lookup_cons]
      by_cases hname : asked = e.1
      · rw [if_pos hname, h e List.mem_cons_self, hname]
      · rw [if_neg hname]
        refine ih (fun e' he' => h e' (List.mem_cons_of_mem e he')) ?_
        exact (List.mem_cons.mp hasked).resolve_left hname

end Record

/-! ## What the lines tell -/

/-- What there is to tell about a match: its tag, its text, and the value of each attribute, or that it has none. -/
structure Portrait where
  tag : String
  text : String
  value : String → Option String

/-- The fields of an object tell what there is to tell about the match at some place: its tag, its text, its place, and
when attributes were asked for the value of each of them. They tell nothing else, and nothing twice. -/
structure Tells (names : List String) (p : Portrait) (place : Nat) (fields : List (String × Json)) : Prop where
  keys : fields.map Prod.fst = ["tag", "text"] ++ (if names = [] then [] else ["attributes"]) ++ ["index"]
  tag : fields.lookup "tag" = some (.text p.tag)
  text : fields.lookup "text" = some (.text p.text)
  place : fields.lookup "index" = some (.number place)
  attributes : names ≠ [] → ∃ attrs, fields.lookup "attributes" = some (.record attrs) ∧
    attrs.map Prod.fst = names.eraseDups ∧ ∀ name ∈ names, attrs.lookup name = some (Record.optional (p.value name))

/-- A text consists of one line for each of some matches, in their order, each of them with its end, and what can be read
from a line is an object that tells about its match. -/
def Faithful (names : List String) (portraits : List Portrait) (text : String) : Prop :=
  ∃ lines : List (List Char), text.toList = lines.flatMap (· ++ ['\n']) ∧ (∀ line ∈ lines, '\n' ∉ line) ∧
    lines.length = portraits.length ∧
    ∀ k line p, lines[k]? = some line → portraits[k]? = some p →
      ∃ fields, Json.read line = some (.record fields) ∧ Tells names p k fields

/-- What was seen of a match is what there is to tell about it; about an attribute the latest answer counts. -/
structure Sight.Shows (sight : Sight ν names) (p : Portrait) : Prop where
  tag : sight.tag = p.tag
  text : sight.text = p.text
  attrs : ∀ name ∈ names, sight.attrs.reverse.lookup name = some (p.value name)

/-- What was seen of a match, as what there is to tell about it. -/
def Sight.portrait (sight : Sight ν names) : Portrait :=
  ⟨sight.tag, sight.text, fun name => (sight.attrs.reverse.lookup name).join⟩

theorem Sight.shows_portrait (sight : Sight ν names) : sight.Shows sight.portrait where
  tag := rfl
  text := rfl
  attrs name hname := by
    show _ = some (sight.attrs.reverse.lookup name).join
    cases h : sight.attrs.reverse.lookup name with
    | some answer => rfl
    | none =>
        obtain ⟨e, he, rfl⟩ := List.mem_map.mp (sight.mem_answered hname)
        simpa using List.lookup_eq_none_iff.mp h e he

/-- The object for a match tells about it. -/
theorem tells_json {sight : Sight ν names} {p : Portrait} (h : sight.Shows p) (place : Nat) :
    ∃ fields, sight.record.json place = .record fields ∧ Tells names p place fields := by
  obtain ⟨node, tag, text, attrs, rfl⟩ := sight
  obtain ⟨rfl, rfl, hattrs⟩ := h
  have hkeys := Record.keys_foldl_put attrs
  have hlookup := Record.lookup_foldl_put attrs []
  show ∃ fields, Record.json ⟨p.tag, p.text, attrs.foldl _ []⟩ place = .record fields ∧ _
  generalize attrs.foldl (fun known e => Record.put e.1 e.2 known) [] = told at hkeys hlookup
  -- attributes are told just when some were asked for
  cases told with
  | nil =>
      have hnames : attrs.map Prod.fst = [] := by
        cases attrs with
        | nil => rfl
        | cons e attrs => simp [List.eraseDups_cons] at hkeys
      exact ⟨_, rfl, by rw [hnames]; rfl, rfl, rfl, rfl, fun hne => absurd hnames hne⟩
  | cons e told =>
      have hnames : attrs.map Prod.fst ≠ [] := by
        intro h
        rw [h] at hkeys
        cases hkeys
      refine ⟨_, rfl, by rw [if_neg hnames]; rfl, rfl, rfl, rfl, fun _ => ⟨_, rfl, ?_, fun name hname => ?_⟩⟩
      · rw [← hkeys, List.map_map]
        rfl
      · rw [Record.lookup_map_snd, hlookup, hattrs name hname]
        rfl

/-- The lines for some records, as characters: each record with its place, and the end of its line. -/
theorem Record.toList_lines (records : List Record) (index : Nat) : (String.join (Record.lines index records)).toList =
    (records.zipIdx index).flatMap fun e => (e.1.json e.2).written ++ ['\n'] := by
  induction records generalizing index with
  | nil => rfl
  | cons r records ih =>
      rw [Record.lines, String.join_cons, String.toList_append, ih, List.zipIdx_cons, List.flatMap_cons, Json.line,
        String.toList_ofList]

/-- **The lines are a faithful record** of the matches that were seen. -/
theorem faithful_lines {sights : List (Sight ν names)} {portrait : Sight ν names → Portrait}
    (h : ∀ sight ∈ sights, sight.Shows (portrait sight)) :
    Faithful names (sights.map portrait) (String.join (Record.lines 0 (sights.map Sight.record))) := by
  refine ⟨sights.zipIdx.map fun e => (e.1.record.json e.2).written, ?_, ?_, ?_, ?_⟩
  · rw [Record.toList_lines, List.zipIdx_map, List.flatMap_map, List.flatMap_map]
    rfl
  · intro line hline
    obtain ⟨e, -, rfl⟩ := List.mem_map.mp hline
    exact Json.newline_not_mem_written _
  · rw [List.length_map, List.length_zipIdx, List.length_map]
  · intro k line p hline hp
    obtain ⟨sight, hsight, rfl⟩ := Option.map_eq_some_iff.mp (List.getElem?_map ▸ hp)
    rw [List.getElem?_map, List.getElem?_zipIdx, hsight, Nat.zero_add] at hline
    obtain rfl := Option.some.inj hline
    obtain ⟨fields, hjson, htells⟩ := tells_json (h sight (List.mem_of_getElem? hsight)) k
    refine ⟨fields, ?_, htells⟩
    rw [Json.read_written]
    exact congrArg some hjson

end Crawl.Command
