import Crawl.Proofs.Static.Addressed
/-!
# What can come between an address and its page

A page that cannot be had is a failure of navigation, with three exceptions, each of which is an `Obstacle`: an address
that cannot be taken apart, a path that holds a zero byte, and a file that is not text. An address that the engine knows
by heart meets no obstacle.
-/

namespace Crawl.Static

open Crawl.Action (stateOf failureOf valueOf bind_ok bind_error failureOf_bind read_eq)

/-- An address without its query and its fragment. -/
def bareOf (p : Url.Parts) : String := String.ofList (Url.unsplit ⟨p.scheme, p.netloc, p.path, [], []⟩)

/-- The path to the file of an address. -/
def filePathOf (p : Url.Parts) : FilePath := FilePath.ofText (Url.percentDecode p.path)

/-- An address of a file that the engine's memory knows neither whole nor bare. -/
structure LeadsToFile (s : State) (url : String) (p : Url.Parts) : Prop where
  whole : s.pages.lookup url = none
  parts : Url.split url.toList = .ok p
  bare : s.pages.lookup (bareOf p) = none
  scheme : String.ofList p.scheme = "file"

/-- What keeps a page from being loaded without being a failure of navigation. -/
inductive Obstacle (s : State) (url : String) : Failure → Prop
  | address {e : Url.Fault} (whole : s.pages.lookup url = none) (split : Url.split url.toList = .error e) :
      Obstacle s url (.refused (.address e))
  | zeroByte {p : Url.Parts} (file : LeadsToFile s url p) (zero : '\x00' ∈ (filePathOf p).text.toList) :
      Obstacle s url (.refused .zeroByte)
  | undecodable {p : Url.Parts} {bytes : List UInt8} {e : Text.Utf8.Fault} (file : LeadsToFile s url p)
      (noZero : '\x00' ∉ (filePathOf p).text.toList) (read : s.files.read (filePathOf p) = .ok bytes)
      (decode : Text.Utf8.decode bytes = .error e) : Obstacle s url (.undecodable e)

/-- No obstacle is a failure of the crawl itself. -/
theorem Obstacle.not_isCrawl {s : State} {url : String} {f : Failure} (h : Obstacle s url f) : f.isCrawl = false := by
  cases h <;> rfl

/-- The places where the markup of an address is looked for: in the engine's memory under the whole address and under
the bare one, then in a file, and then at a server. An address that memory does not know whole has to be taken apart to
go on. -/
inductive Source (s : State) (url : String) : Prop
  | known {markup : String} (whole : s.pages.lookup url = some markup)
  | unsplit {e : Url.Fault} (whole : s.pages.lookup url = none) (split : Url.split url.toList = .error e)
  | bare {p : Url.Parts} {markup : String} (whole : s.pages.lookup url = none) (parts : Url.split url.toList = .ok p)
      (bare : s.pages.lookup (bareOf p) = some markup)
  | file {p : Url.Parts} (file : LeadsToFile s url p)
  | remote {p : Url.Parts} (whole : s.pages.lookup url = none) (parts : Url.split url.toList = .ok p)
      (bare : s.pages.lookup (bareOf p) = none) (noFile : String.ofList p.scheme ≠ "file")

/-- Every address is looked for at one of the places. -/
theorem source (s : State) (url : String) : Source s url := by
  cases whole : s.pages.lookup url with
  | some markup => exact .known whole
  | none =>
  cases parts : Url.split url.toList with
  | error e => exact .unsplit whole parts
  | ok p =>
  cases bare : s.pages.lookup (bareOf p) with
  | some markup => exact .bare whole parts bare
  | none =>
  by_cases scheme : String.ofList p.scheme = "file"
  · exact .file ⟨whole, parts, bare, scheme⟩
  · exact .remote whole parts bare scheme

/-! ## Fetching, by where the markup comes from -/

variable {s : State} {j : Journal} {url : String} {data : Option (List (String × String))} {f : Failure} {p : Url.Parts}

theorem fetch_known {markup : String} (whole : s.pages.lookup url = some markup) :
    fetch url data ⟨s, j⟩ = .ok (markup, url) ⟨s, j⟩ := by
  rw [fetch, bind_ok (read_eq _)]
  simp only [whole]
  rfl

theorem fetch_unsplit {e : Url.Fault} (whole : s.pages.lookup url = none) (split : Url.split url.toList = .error e) :
    fetch url data ⟨s, j⟩ = .error (.refused (.address e)) ⟨s, j⟩ := by
  rw [fetch, bind_ok (read_eq _)]
  simp only [whole, split]
  rfl

theorem fetch_bare {markup : String} (whole : s.pages.lookup url = none) (parts : Url.split url.toList = .ok p)
    (bare : s.pages.lookup (bareOf p) = some markup) : fetch url data ⟨s, j⟩ = .ok (markup, url) ⟨s, j⟩ := by
  unfold bareOf at bare
  rw [fetch, bind_ok (read_eq _)]
  simp only [whole, parts, bare]
  rfl

theorem fetch_file (file : LeadsToFile s url p) :
    fetch url data ⟨s, j⟩ = match readFile s.files url p.path with
      | .ok text => .ok (text, url) ⟨s, j⟩
      | .error f => .error f ⟨s, j⟩ := by
  have bare := file.bare
  unfold bareOf at bare
  rw [fetch, bind_ok (read_eq _)]
  simp only [file.whole, file.parts, bare, file.scheme, if_true]
  cases readFile s.files url p.path <;> rfl

theorem fetch_remote (whole : s.pages.lookup url = none) (parts : Url.split url.toList = .ok p)
    (bare : s.pages.lookup (bareOf p) = none) (noFile : String.ofList p.scheme ≠ "file") :
    fetch url data ⟨s, j⟩ = if String.ofList p.scheme = "http" ∨ String.ofList p.scheme = "https" then
      ask url data ⟨s, j⟩ else .error (.navigation (.unknown url)) ⟨s, j⟩ := by
  unfold bareOf at bare
  rw [fetch, bind_ok (read_eq _)]
  simp only [whole, parts, bare, if_neg noFile]
  split <;> rfl

/-! ## Reading a file -/

theorem readFile_zeroByte (zero : '\x00' ∈ (filePathOf p).text.toList) :
    readFile s.files url p.path = .error (.refused .zeroByte) := by
  unfold readFile
  exact if_pos (List.contains_iff_mem.mpr zero)

section

variable (noZero : '\x00' ∉ (filePathOf p).text.toList)
include noZero

/-- The bytes of a file that can be read are taken for its text. -/
theorem readFile_read {bytes : List UInt8} (read : s.files.read (filePathOf p) = .ok bytes) :
    readFile s.files url p.path = fileText bytes := by
  have hzero : ¬ (filePathOf p).text.toList.contains '\x00' = true := fun hc => noZero (List.contains_iff_mem.mp hc)
  unfold filePathOf at hzero read
  unfold readFile
  simp only [hzero, read]
  rfl

theorem readFile_unreadable {fault : FileFault} (read : s.files.read (filePathOf p) = .error fault) :
    readFile s.files url p.path = .error (.navigation (.unreadable url (filePathOf p).text fault)) := by
  have hzero : ¬ (filePathOf p).text.toList.contains '\x00' = true := fun hc => noZero (List.contains_iff_mem.mp hc)
  unfold filePathOf at hzero read
  unfold readFile filePathOf
  simp only [hzero, read]
  rfl

theorem readFile_undecodable {bytes : List UInt8} {e : Text.Utf8.Fault} (read : s.files.read (filePathOf p) = .ok bytes)
    (decode : Text.Utf8.decode bytes = .error e) : readFile s.files url p.path = .error (.undecodable e) := by
  rw [readFile_read noZero read]
  simp only [fileText, decode]

end

/-- A file that cannot be read as text, by whether its path can be looked up at all. -/
theorem readFile_fails (hf : f.kind ≠ .navigationError) (h : readFile s.files url p.path = .error f) :
    ('\x00' ∈ (filePathOf p).text.toList ∧ f = .refused .zeroByte) ∨
      ('\x00' ∉ (filePathOf p).text.toList ∧
        ∃ bytes e, s.files.read (filePathOf p) = .ok bytes ∧ Text.Utf8.decode bytes = .error e ∧ f = .undecodable e) := by
  by_cases zero : '\x00' ∈ (filePathOf p).text.toList
  · rw [readFile_zeroByte zero] at h
    cases h
    exact .inl ⟨zero, rfl⟩
  · refine .inr ⟨zero, ?_⟩
    cases read : s.files.read (filePathOf p) with
    | error fault =>
        rw [readFile_unreadable zero read] at h
        cases h
        exact absurd rfl hf
    | ok bytes =>
        rw [readFile_read zero read] at h
        cases decode : Text.Utf8.decode bytes with
        | ok cs =>
            simp only [fileText, decode] at h
            cases h
        | error e =>
            simp only [fileText, decode] at h
            cases h
            exact ⟨bytes, e, rfl, decode, rfl⟩

/-! ## Asking a server -/

/-- A remote page that cannot be had is a failure of navigation. -/
theorem ask_fails (d : Desk State) (h : failureOf (ask url data d) = some f) : f.kind = .navigationError := by
  rw [ask, bind_ok (read_eq d)] at h
  rcases hsend : d.device.client.send ⟨url, data, d.device.timeout⟩ with ⟨reply, client⟩
  rw [hsend] at h
  cases reply with
  | failed message =>
      cases h
      rfl
  | answered text final statusError =>
      cases statusError with
      | some message =>
          cases h
          rfl
      | none => cases h

/-! ## Loading -/

theorem kind_ne_of_not_isCrawl (h : f.isCrawl = false) : f.kind ≠ .navigationError := by
  intro hkind
  unfold Failure.isCrawl at h
  rw [hkind] at h
  cases h

/-- **Fetching fails as navigation or for an obstacle**: the failures that are not navigation are the obstacles. -/
theorem fetch_fails_iff (hf : f.kind ≠ .navigationError) :
    failureOf (fetch url data ⟨s, j⟩) = some f ↔ Obstacle s url f := by
  constructor
  · intro h
    cases source s url with
    | known whole =>
        rw [fetch_known whole] at h
        cases h
    | unsplit whole split =>
        rw [fetch_unsplit whole split] at h
        cases h
        exact .address whole split
    | bare whole parts bare =>
        rw [fetch_bare whole parts bare] at h
        cases h
    | @file p file =>
        rw [fetch_file file] at h
        cases hread : readFile s.files url p.path with
        | ok text =>
            rw [hread] at h
            cases h
        | error g =>
            rw [hread] at h
            cases h
            rcases readFile_fails hf hread with ⟨zero, rfl⟩ | ⟨noZero, bytes, e, read, decode, rfl⟩
            · exact .zeroByte file zero
            · exact .undecodable file noZero read decode
    | remote whole parts bare noFile =>
        rw [fetch_remote whole parts bare noFile] at h
        split at h
        · exact absurd (ask_fails _ h) hf
        · cases h
          exact absurd rfl hf
  · intro h
    cases h with
    | address whole split => rw [fetch_unsplit whole split]; rfl
    | zeroByte file zero => rw [fetch_file file, readFile_zeroByte zero]; rfl
    | undecodable file noZero read decode => rw [fetch_file file, readFile_undecodable noZero read decode]; rfl

/-- Loading continues from the markup that was fetched. -/
def place (fetched : String × String) : Work Node :=
  match Html.parse fetched.1 with
  | .error e => throw (.navigation (.unparsable fetched.2 e.message))
  | .ok tree => do
    Desk.note .debug .staticEngine ("Loaded " ++ fetched.2)
    let s ← Desk.read
    Desk.update fun s => { s with loaded := s.loaded.push ⟨tree, recorded fetched.2⟩ }
    newHandle s.loaded.size fetched.2

theorem load_eq : load url data = fetch url data >>= place := rfl

/-- Markup that can be read becomes a page of its own, recorded under the address it came from. -/
theorem place_ok {fetched : String × String} {t : Html.Tree} (h : Html.parse fetched.1 = .ok t) (d : Desk State) :
    ∃ i k d', place fetched d = .ok (.document i k fetched.2) d' ∧ d'.device.tree k = t ∧
      d'.device.baseOf k = recorded fetched.2 := by
  unfold place
  rw [h]
  refine ⟨_, _, _, rfl, ?_, ?_⟩
  · unfold State.tree
    simp
  · unfold State.baseOf
    simp

theorem place_error {fetched : String × String} {e : Html.Fault} (h : Html.parse fetched.1 = .error e) (d : Desk State) :
    place fetched d = .error (.navigation (.unparsable fetched.2 e.message)) d := by
  unfold place
  rw [h]
  rfl

theorem load_fails_iff (hf : f.kind ≠ .navigationError) : failureOf (load url data ⟨s, j⟩) = some f ↔ Obstacle s url f := by
  have hfetch : failureOf (fetch url data ⟨s, j⟩) = some f ↔ Obstacle s url f := fetch_fails_iff hf
  rw [load_eq, failureOf_bind, ← hfetch]
  cases fetch url data ⟨s, j⟩ with
  | error g d => exact Iff.rfl
  | ok fetched d =>
      constructor
      · intro h
        cases hparse : Html.parse fetched.1 with
        | error e =>
            simp only [place_error hparse] at h
            cases h
            exact absurd rfl hf
        | ok t =>
            obtain ⟨_, _, _, hd, -⟩ := place_ok hparse d
            simp only [hd] at h
            cases h
      · intro h
        cases h

theorem ask_final {r : String × String} {d d' : Desk State} (h : ask url data d = .ok r d') (hurl : url ≠ "") : r.2 ≠ "" := by
  rw [ask, bind_ok (read_eq d)] at h
  rcases hsend : d.device.client.send ⟨url, data, d.device.timeout⟩ with ⟨reply, client⟩
  rw [hsend] at h
  cases reply with
  | failed message => cases h
  | answered text final statusError =>
      cases statusError with
      | some message => cases h
      | none =>
          cases h
          cases hfinal : final.filter (!·.isEmpty) with
          | none => exact hurl
          | some u =>
              have hu := (Option.filter_eq_some_iff.mp hfinal).2
              intro hempty
              simp only [Option.getD_some] at hempty
              simp [hempty] at hu

/-- A page that is not fetched under the empty address did not come from it. -/
theorem fetch_final {r : String × String} {d' : Desk State} (h : fetch url data ⟨s, j⟩ = .ok r d') (hurl : url ≠ "") :
    r.2 ≠ "" := by
  cases source s url with
  | known whole =>
      rw [fetch_known whole] at h
      cases h
      exact hurl
  | unsplit whole split =>
      rw [fetch_unsplit whole split] at h
      cases h
  | bare whole parts bare =>
      rw [fetch_bare whole parts bare] at h
      cases h
      exact hurl
  | @file p file =>
      rw [fetch_file file] at h
      cases hread : readFile s.files url p.path with
      | ok text =>
          rw [hread] at h
          cases h
          exact hurl
      | error g =>
          rw [hread] at h
          cases h
  | remote whole parts bare noFile =>
      -- a redirect may change the address, but never to the empty one
      rw [fetch_remote whole parts bare noFile] at h
      split at h
      · exact ask_final h hurl
      · cases h

/-- A loaded page is a document, recorded under the address it came from. -/
theorem load_ok {n : Node} {d' : Desk State} (h : load url data ⟨s, j⟩ = .ok n d') :
    ∃ i k u, n = .document i k u ∧ d'.device.baseOf k = recorded u ∧ (url ≠ "" → u ≠ "") := by
  rw [load_eq] at h
  cases hfetch : fetch url data ⟨s, j⟩ with
  | error g d =>
      rw [bind_error hfetch] at h
      cases h
  | ok fetched d =>
      rw [bind_ok hfetch] at h
      cases hparse : Html.parse fetched.1 with
      | error e =>
          rw [place_error hparse] at h
          cases h
      | ok t =>
          obtain ⟨i, k, d'', hd, -, hbase⟩ := place_ok hparse d
          rw [hd] at h
          cases h
          exact ⟨i, k, fetched.2, rfl, hbase, fetch_final hfetch⟩

/-! ## The page at an address -/

theorem valueOf_ask (j j' : Journal) : valueOf (ask url data ⟨s, j⟩) = valueOf (ask url data ⟨s, j'⟩) := by
  rw [ask, bind_ok (read_eq _), bind_ok (read_eq _)]
  dsimp only
  rcases s.client.send ⟨url, data, s.timeout⟩ with ⟨reply, client⟩
  cases reply with
  | failed message => rfl
  | answered text final statusError => cases statusError <;> rfl

/-- What is fetched does not depend on the journal. -/
theorem valueOf_fetch (j j' : Journal) : valueOf (fetch url data ⟨s, j⟩) = valueOf (fetch url data ⟨s, j'⟩) := by
  cases source s url with
  | known whole =>
      rw [fetch_known whole, fetch_known whole]
      rfl
  | unsplit whole split =>
      rw [fetch_unsplit whole split, fetch_unsplit whole split]
      rfl
  | bare whole parts bare =>
      rw [fetch_bare whole parts bare, fetch_bare whole parts bare]
      rfl
  | @file p file =>
      rw [fetch_file file, fetch_file file]
      cases readFile s.files url p.path <;> rfl
  | remote whole parts bare noFile =>
      rw [fetch_remote whole parts bare noFile, fetch_remote whole parts bare noFile]
      split
      · exact valueOf_ask j j'
      · rfl

/-- The tree of the page that an address leads to, if the page can be had. -/
def pageTree? (s : State) (url : String) : Option Html.Tree :=
  (valueOf (fetch url none ⟨s, #[]⟩)).bind fun fetched => (Html.parse fetched.1).toOption

theorem load_of_pageTree? {t : Html.Tree} (h : pageTree? s url = some t) :
    ∃ i k u d, load url none ⟨s, j⟩ = .ok (.document i k u) d ∧ d.device.tree k = t := by
  obtain ⟨fetched, hvalue, hparse⟩ := Option.bind_eq_some_iff.mp h
  rw [valueOf_fetch #[] j] at hvalue
  cases hfetch : fetch url none ⟨s, j⟩ with
  | error g d =>
      rw [hfetch] at hvalue
      cases hvalue
  | ok r d =>
      rw [hfetch] at hvalue
      cases hvalue
      cases hmarkup : Html.parse fetched.1 with
      | error e =>
          rw [hmarkup] at hparse
          cases hparse
      | ok t' =>
          rw [hmarkup] at hparse
          cases hparse
          obtain ⟨i, k, d', hplace, htree, -⟩ := place_ok hmarkup d
          refine ⟨i, k, fetched.2, d', ?_, htree⟩
          rw [load_eq, bind_ok hfetch, hplace]

theorem load_of_pageTree?_none (h : pageTree? s url = none) : ∃ f d, load url none ⟨s, j⟩ = .error f d := by
  unfold pageTree? at h
  rw [valueOf_fetch #[] j] at h
  cases hfetch : fetch url none ⟨s, j⟩ with
  | error g d => exact ⟨g, d, by rw [load_eq, bind_error hfetch]⟩
  | ok fetched d =>
      rw [hfetch] at h
      cases hmarkup : Html.parse fetched.1 with
      | error e =>
          refine ⟨.navigation (.unparsable fetched.2 e.message), d, ?_⟩
          rw [load_eq, bind_ok hfetch, place_error hmarkup]
      | ok t =>
          have hsome : (Html.parse fetched.1).toOption = none := h
          rw [hmarkup] at hsome
          cases hsome

end Crawl.Static
