import Crawl.Proofs.Static.Obstacles
import Crawl.Proofs.Url.Extended
import Crawl.Static.Engine
import Mathlib.Data.Bool.AllAny
/-!
# Where a page is taken from

A page is taken from the engine's memory, under the whole address or under the address without query and fragment, then
from a file, and then from a server. The first of these that has it decides, and the others are left alone: a page from
memory costs neither a look at a file nor a request, and goes by the address that was asked for (`load_selects`).
-/

namespace Crawl.Static

open Crawl.Action (outcomeOf bind_ok bind_error read_eq)

variable {s : State} {j : Journal} {url : String} {data : Option (List (String × String))} {p : Url.Parts}

/-! ## What a load ends with -/

/-- A load ends with the page that some markup stands for, under an address, or finds that it stands for none; nothing
else in the state is changed. -/
structure Serves (s : State) (markup url : String) (result : EStateM.Result Failure (Desk State) Node) : Prop where
  page : ∀ t, Html.parse markup = .ok t → ∃ j', result = .ok (.document s.handles s.loaded.size url)
    ⟨{ s with loaded := s.loaded.push ⟨t, recorded url⟩, handles := s.handles + 1 }, j'⟩
  noPage : ∀ e, Html.parse markup = .error e → ∃ j', result = .error (.navigation (.unparsable url e.message)) ⟨s, j'⟩

theorem serves_place (s : State) (j : Journal) (fetched : String × String) :
    Serves s fetched.1 fetched.2 (place fetched ⟨s, j⟩) := by
  constructor
  · intro t ht
    unfold place
    rw [ht]
    exact ⟨_, rfl⟩
  · intro e he
    exact ⟨j, place_error he ⟨s, j⟩⟩

theorem serves_load {s' : State} {j' : Journal} {fetched : String × String}
    (h : fetch url data ⟨s, j⟩ = .ok fetched ⟨s', j'⟩) : Serves s' fetched.1 fetched.2 (load url data ⟨s, j⟩) := by
  rw [load_eq, bind_ok h]
  exact serves_place s' j' fetched

/-! ## Asking a server -/

/-- The state after a request. -/
def State.asked (s : State) (request : Request) : State := { s with client := (s.client.send request).2 }

/-- The address a page goes by that a server has sent: the one the server says, unless it says none or the empty one. -/
def repliedUrl (final : Option String) (url : String) : String := (final.filter (!·.isEmpty)).getD url

/-- What a reply gives: the markup with the address it goes by, or a failure of navigation. -/
def replied (url : String) : Reply → Except Failure (String × String)
  | .failed message => .error (.navigation (.notLoaded url message))
  | .answered _ _ (some message) => .error (.navigation (.notLoaded url message))
  | .answered text final none => .ok (text, repliedUrl final url)

/-- Asking makes one request and ends as it is replied to. -/
theorem ask_eq : ask url data ⟨s, j⟩ =
    Action.ofExcept (replied url (s.client.send ⟨url, data, s.timeout⟩).1) ⟨s.asked ⟨url, data, s.timeout⟩, j⟩ := by
  rw [ask, bind_ok (read_eq _)]
  unfold State.asked
  rcases s.client.send ⟨url, data, s.timeout⟩ with ⟨reply, client⟩
  cases reply with
  | failed message => rfl
  | answered text final statusError => cases statusError <;> rfl

/-! ## What a load looks at -/

/-- The files at some paths are all that a load depends on. -/
def ReadsOnly (paths : List FilePath) (s : State) (j : Journal) (url : String) (data : Option (List (String × String))) :
    Prop :=
  ∀ files : Files, (∀ path ∈ paths, files.read path = s.files.read path) →
    outcomeOf (load url data ⟨{ s with files }, j⟩) = outcomeOf (load url data ⟨s, j⟩)

/-- What a load depends on is known from what fetching the markup depends on. -/
theorem readsOnly_of_fetch {paths : List FilePath}
    (h : ∀ files : Files, (∀ path ∈ paths, files.read path = s.files.read path) → ∃ fetched client,
      fetch url data ⟨{ s with files }, j⟩ = Action.ofExcept fetched ⟨{ s with files, client }, j⟩ ∧
        fetch url data ⟨s, j⟩ = Action.ofExcept fetched ⟨{ s with client }, j⟩) : ReadsOnly paths s j url data := by
  intro files hfiles
  obtain ⟨fetched, client, hother, hsame⟩ := h files hfiles
  rw [load_eq]
  cases fetched with
  | error f => rw [bind_error hother, bind_error hsame]; rfl
  | ok fetched =>
      rw [bind_ok hother, bind_ok hsame]
      unfold place
      cases Html.parse fetched.1 <;> rfl

/-! ## The sources in their order -/

/-- What is promised of loading an address with some parts: each source has its turn when those before it fail. -/
structure Selects (s : State) (j : Journal) (url : String) (data : Option (List (String × String))) (p : Url.Parts) :
    Prop where
  /-- A page that memory knows under the whole address is taken from there. -/
  whole : ∀ markup, s.pages.lookup url = some markup →
    Serves s markup url (load url data ⟨s, j⟩) ∧ ReadsOnly [] s j url data
  /-- Else one that memory knows under the address without query and fragment. -/
  bare : s.pages.lookup url = none → ∀ markup, s.pages.lookup (bareOf p) = some markup →
    Serves s markup url (load url data ⟨s, j⟩) ∧ ReadsOnly [] s j url data
  /-- Else, for the address of a file, this one file is read. -/
  file : s.pages.lookup url = none → s.pages.lookup (bareOf p) = none → String.ofList p.scheme = "file" →
    (∀ text, readFile s.files url p.path = .ok text → Serves s text url (load url data ⟨s, j⟩)) ∧
      (∀ f, readFile s.files url p.path = .error f → load url data ⟨s, j⟩ = .error f ⟨s, j⟩) ∧
      ReadsOnly [filePathOf p] s j url data
  /-- Else, for the address of a server, one request is made, with just the given fields. -/
  server : s.pages.lookup url = none → s.pages.lookup (bareOf p) = none →
    String.ofList p.scheme = "http" ∨ String.ofList p.scheme = "https" → ∀ request, request = ⟨url, data, s.timeout⟩ →
    (s.asked request).client.requests = s.client.requests.push request ∧
      (∀ message, (s.client.send request).1 = .failed message ∨
          (∃ text final, (s.client.send request).1 = .answered text final (some message)) →
        load url data ⟨s, j⟩ = .error (.navigation (.notLoaded url message)) ⟨s.asked request, j⟩) ∧
      (∀ text final, (s.client.send request).1 = .answered text final none →
        Serves (s.asked request) text (repliedUrl final url) (load url data ⟨s, j⟩)) ∧
      ReadsOnly [] s j url data
  /-- Any other address is a failure of navigation. -/
  other : s.pages.lookup url = none → s.pages.lookup (bareOf p) = none →
    (∀ scheme ∈ ["file", "http", "https"], String.ofList p.scheme ≠ scheme) →
    load url data ⟨s, j⟩ = .error (.navigation (.unknown url)) ⟨s, j⟩ ∧ ReadsOnly [] s j url data

/-- The path of a file is all that is looked at. -/
theorem readFile_congr {files files' : Files} (h : files.read (filePathOf p) = files'.read (filePathOf p)) :
    readFile files url p.path = readFile files' url p.path := by
  unfold filePathOf at h
  unfold readFile
  simp only [h]

theorem selects (parts : Url.split url.toList = .ok p) : Selects s j url data p where
  whole markup whole := by
    refine ⟨serves_load (fetch_known whole), readsOnly_of_fetch fun files _ => ?_⟩
    exact ⟨.ok (markup, url), s.client, fetch_known whole, fetch_known whole⟩
  bare whole markup bare := by
    refine ⟨serves_load (fetch_bare whole parts bare), readsOnly_of_fetch fun files _ => ?_⟩
    exact ⟨.ok (markup, url), s.client, fetch_bare whole parts bare, fetch_bare whole parts bare⟩
  file whole bare scheme := by
    have hfetch : fetch url data ⟨s, j⟩ = _ := fetch_file ⟨whole, parts, bare, scheme⟩
    refine ⟨fun text htext => ?_, fun f hf => ?_, readsOnly_of_fetch fun files hfiles => ?_⟩
    · rw [htext] at hfetch
      exact serves_load hfetch
    · rw [hf] at hfetch
      exact bind_error hfetch _
    · have hother : fetch url data ⟨{ s with files }, j⟩ = _ := fetch_file ⟨whole, parts, bare, scheme⟩
      have hread : readFile files url p.path = readFile s.files url p.path :=
        readFile_congr (hfiles (filePathOf p) (List.mem_singleton.mpr rfl))
      rw [hread] at hother
      cases hresult : readFile s.files url p.path with
      | ok text =>
          rw [hresult] at hfetch hother
          exact ⟨.ok (text, url), s.client, hother, hfetch⟩
      | error f =>
          rw [hresult] at hfetch hother
          exact ⟨.error f, s.client, hother, hfetch⟩
  server whole bare scheme := by
    rintro request rfl
    have noFile : String.ofList p.scheme ≠ "file" := by
      rcases scheme with h | h <;> rw [h] <;> decide
    have hfetch (s' : State) (hpages : s'.pages = s.pages) : fetch url data ⟨s', j⟩ = ask url data ⟨s', j⟩ := by
      rw [← hpages] at whole bare
      rw [fetch_remote whole parts bare noFile, if_pos scheme]
    have hsame := (hfetch s rfl).trans ask_eq
    refine ⟨rfl, fun message hmessage => ?_, fun text final hreply => ?_, readsOnly_of_fetch fun files _ => ?_⟩
    · have hreplied : replied url (s.client.send ⟨url, data, s.timeout⟩).1 =
          .error (.navigation (.notLoaded url message)) := by
        rcases hmessage with h | ⟨text, final, h⟩ <;> rw [h] <;> rfl
      rw [hreplied] at hsame
      exact bind_error hsame _
    · rw [hreply] at hsame
      exact serves_load (show fetch url data ⟨s, j⟩ = .ok (text, repliedUrl final url) _ from hsame)
    · exact ⟨_, _, (hfetch { s with files } rfl).trans ask_eq, hsame⟩
  other whole bare scheme := by
    have noFile : String.ofList p.scheme ≠ "file" := scheme "file" (by decide)
    have noServer : ¬ (String.ofList p.scheme = "http" ∨ String.ofList p.scheme = "https") := by
      rintro (h | h)
      · exact scheme "http" (by decide) h
      · exact scheme "https" (by decide) h
    have hfetch (s' : State) (hpages : s'.pages = s.pages) :
        fetch url data ⟨s', j⟩ = .error (.navigation (.unknown url)) ⟨s', j⟩ := by
      rw [← hpages] at whole bare
      rw [fetch_remote whole parts bare noFile, if_neg noServer]
    refine ⟨bind_error (hfetch s rfl) _, readsOnly_of_fetch fun files _ => ?_⟩
    exact ⟨.error (.navigation (.unknown url)), s.client, hfetch { s with files } rfl, hfetch s rfl⟩

/-- **Where a page is taken from.** An address that can be taken apart is looked for in memory as it stands and then
without query and fragment, that is, put together again from its other parts; such a page goes by the address asked for,
and neither a file nor a server is asked. Only then is the one file read that the address leads to, or the one request
made, which sends the given fields even if there are none of them; the page goes by the address the server says. Any
other address leads nowhere. So a page in memory whose address is in plain form is had under this address with any query
and fragment behind it, unless memory knows the longer address itself. -/
theorem load_selects (s : State) (j : Journal) (url : String) (data : Option (List (String × String))) (p : Url.Parts)
    (parts : Url.split url.toList = .ok p) :
    Selects s j url data p ∧
      ∀ (scheme host path rest : List Char) (markup : String), Url.Plain scheme host path →
        s.pages.lookup (String.ofList (Url.plainText scheme host path)) = some markup →
        url.toList = Url.plainText scheme host path ++ rest → (∀ c ∈ rest.head?, c = '?' ∨ c = '#') →
        s.pages.lookup url = none → Serves s markup url (engine.loadDocument url ⟨s, j⟩) := by
  refine ⟨selects parts, fun scheme host path rest markup hplain hknown hurl hrest hwhole => ?_⟩
  have hbare : bareOf p = String.ofList (Url.plainText scheme host path) := by
    rw [hurl] at parts
    exact congrArg String.ofList (Url.unsplit_extended hplain hrest parts)
  rw [← hbare] at hknown
  exact ((selects parts).bare hwhole markup hknown).1

/-- An engine that knows one page, and whose next request is answered with another. -/
def onePage : State :=
  ⟨[("http://h/a", "<p>x</p>")], [], Client.start [.answered "<p>y</p>" (some "") none], 1, #[], 0⟩

/-- The page is had with a query and a fragment behind its address; another page is asked for once, with no fields. -/
theorem load_selects_onePage :
    (∃ d, engine.loadDocument "http://h/a?q=1#f" ⟨onePage, #[]⟩ = .ok (.document 0 0 "http://h/a?q=1#f") d ∧
        d.device.client.requests = #[]) ∧
      ∃ d, load "http://h/b" (some []) ⟨onePage, #[]⟩ = .ok (.document 0 0 "http://h/b") d ∧
        d.device.client.requests = #[⟨"http://h/b", some [], 1⟩] := by
  have hlong : Url.split ("http://h/a?q=1#f").toList =
      .ok ⟨"http".toList, "h".toList, "/a".toList, "q=1".toList, "f".toList⟩ := by rfl
  have hother : Url.split ("http://h/b").toList = .ok ⟨"http".toList, "h".toList, "/b".toList, [], []⟩ := by rfl
  obtain ⟨-, hplain⟩ := load_selects onePage #[] "http://h/a?q=1#f" none _ hlong
  obtain ⟨hselects, -⟩ := load_selects onePage #[] "http://h/b" (some []) _ hother
  constructor
  · have hform : Url.Plain "http".toList "h".toList "/a".toList := by
      refine ⟨by decide, List.all_iff_forall_prop.mp (by decide), by decide, List.all_iff_forall_prop.mp (by decide), ?_,
        List.all_iff_forall_prop.mp (by decide)⟩
      rintro c ⟨⟩
      rfl
    have hserves := hplain "http".toList "h".toList "/a".toList "?q=1#f".toList "<p>x</p>" hform (by decide +kernel)
      (by decide) (by rintro c ⟨⟩; decide) (by decide)
    obtain ⟨j', hpage⟩ := hserves.page _ rfl
    exact ⟨_, hpage, rfl⟩
  · obtain ⟨honce, -, hanswered, -⟩ := hselects.server (by decide) (by decide +kernel) (.inl (by decide)) _ rfl
    obtain ⟨j', hpage⟩ := (hanswered _ _ rfl).page _ rfl
    exact ⟨_, hpage, honce⟩

end Crawl.Static
