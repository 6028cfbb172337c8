import Crawl.Static.State
/-!
# Loading pages

Where the markup of a page comes from: the engine's memory, under the whole address or under the address without
query and fragment, then files, then the client. The markup becomes a new tree, and the address it came from is
recorded with it.
-/

namespace Crawl.Static

/-- The text of a file with one line feed for each line end. -/
def fileText (bytes : List UInt8) : Except Failure String :=
  match Text.Utf8.decode bytes with
  | .ok cs => .ok (String.ofList (Html.unifyLines cs))
  | .error e => .error (.undecodable e)

/-- The text of the file that an address leads to. -/
def readFile (files : Files) (url : String) (path : List Char) : Except Failure String :=
  let p := FilePath.ofText (Url.percentDecode path)
  if p.text.toList.contains '\x00' then .error (.refused .zeroByte)
  else match files.read p with
    | .ok bytes => fileText bytes
    | .error fault => .error (.navigation (.unreadable url p.text fault))

/-- Asks the client for a page: its markup and the address it came from. -/
def ask (url : String) (data : Option (List (String × String))) : Work (String × String) := do
  let s ← Desk.read
  let (reply, client) := s.client.send ⟨url, data, s.timeout⟩
  Desk.update fun s => { s with client }
  match reply with
  | .failed message => throw (.navigation (.notLoaded url message))
  | .answered text final statusError =>
    match statusError with
    | some message => throw (.navigation (.notLoaded url message))
    | none => return (text, (final.filter (!·.isEmpty)).getD url)

/-- The markup for an address and the address it came from. -/
def fetch (url : String) (data : Option (List (String × String))) : Work (String × String) := do
  let s ← Desk.read
  match s.pages.lookup url with
  | some markup => return (markup, url)
  | none =>
    match Url.split url.toList with
    | .error e => throw (.refused (.address e))
    | .ok parts =>
      let bare := String.ofList (Url.unsplit ⟨parts.scheme, parts.netloc, parts.path, [], []⟩)
      match s.pages.lookup bare with
      | some markup => return (markup, url)
      | none =>
        let scheme := String.ofList parts.scheme
        if scheme = "file" then
          return (← Action.ofExcept (readFile s.files url parts.path), url)
        else if scheme = "http" ∨ scheme = "https" then ask url data
        else throw (.navigation (.unknown url))

/-- An address as it is recorded with a tree: spaces and characters beyond ASCII are percent-encoded, and an empty
address is not recorded. -/
def recorded (url : String) : Option String :=
  if url.isEmpty then none
  else some (String.ofList (url.toList.flatMap fun c =>
    if c == ' ' || 128 ≤ c.toNat then Url.percentChar c else [c]))

/-- Loads a page; with `data`, the request sends these fields. -/
def load (url : String) (data : Option (List (String × String))) : Work Node := do
  let (markup, final) ← fetch url data
  match Html.parse markup with
  | .error e => throw (.navigation (.unparsable final e.message))
  | .ok tree =>
    Desk.note .debug .staticEngine ("Loaded " ++ final)
    let s ← Desk.read
    Desk.update fun s => { s with loaded := s.loaded.push ⟨tree, recorded final⟩ }
    newHandle s.loaded.size final

/-- The document a node belongs to, under the address that was recorded for it. -/
def ownerDocument (n : Node) : Work Node := do
  match n with
  | .document .. => return n
  | .element k _ =>
    let s ← Desk.read
    match s.loaded[k]?.bind Loaded.base with
    | some url => newHandle k url
    | none => throw (.nodeNotFound (.detached (n.quoted s)))

end Crawl.Static
