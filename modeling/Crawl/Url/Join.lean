import Crawl.Url.Split
/-!
# References relative to an address

A reference is resolved against a base address: it inherits the parts that it lacks, and a relative path is joined
to the base path, with its `.` and `..` segments worked out.
-/

namespace Crawl.Url

/-- The schemes for which a reference may be relative. -/
def relativeSchemes : List String :=
  ["", "ftp", "http", "gopher", "nntp", "imap", "wais", "file", "https", "shttp", "mms", "prospero", "rtsp",
    "rtsps", "rtspu", "sftp", "svn", "svn+ssh", "ws", "wss"]

/-- The schemes whose last path segment may end in parameters. -/
def paramSchemes : List String :=
  ["", "ftp", "hdl", "prospero", "http", "imap", "https", "shttp", "rtsp", "rtsps", "rtspu", "sip", "sips", "mms",
    "sftp", "tel"]

/-- The parts of an address with the parameters of its last segment taken from the path. -/
structure WithParams where
  parts : Parts
  params : List Char

/-- The segments of a path. -/
abbrev segments (cs : List Char) : List (List Char) := Host.pieces '/' cs

/-- Segments with a slash between neighbours. -/
def unsegments : List (List Char) → List Char
  | [] => []
  | [s] => s
  | s :: ss => s ++ '/' :: unsegments ss

/-- A path without the parameters of its last segment, and the parameters. -/
def takeParams (path : List Char) : List Char × List Char :=
  let ss := segments path
  let last := ss.getLastD []
  if last.contains ';' then
    let (name, params) := cut ';' last
    (unsegments (ss.dropLast ++ [name]), params)
  else (path, [])

/-- Splits an address, with the scheme `given` unless it has its own, and takes the parameters from its path. -/
def splitParams (given cs : List Char) : Except Fault WithParams :=
  match splitUnder given cs with
  | .error e => .error e
  | .ok p =>
    if isOneOf p.scheme paramSchemes then
      let (path, params) := takeParams p.path
      .ok ⟨⟨p.scheme, p.netloc, path, p.query, p.fragment⟩, params⟩
    else .ok ⟨p, []⟩

/-- Puts an address with parameters together. -/
def unsplitParams (w : WithParams) : List Char :=
  if w.params.isEmpty then unsplit w.parts
  else unsplit ⟨w.parts.scheme, w.parts.netloc, w.parts.path ++ ';' :: w.params, w.parts.query, w.parts.fragment⟩

/-- Works out the `.` and `..` segments; `done` holds the segments so far, the last one first. -/
def resolveDots (done : List (List Char)) : List (List Char) → List (List Char)
  | [] => done.reverse
  | s :: ss =>
    if s == ['.', '.'] then resolveDots done.tail ss
    else if s == ['.'] then resolveDots done ss
    else resolveDots (s :: done) ss

/-- A list without its empty inner members; the first and the last one stay. -/
def dropEmptyInner (ss : List (List Char)) : List (List Char) :=
  match ss with
  | [] => []
  | [s] => [s]
  | s :: rest => s :: (rest.dropLast.filter (!·.isEmpty) ++ [rest.getLastD []])

/-- The path of a reference with a path of its own, relative to a base path. -/
def joinPaths (base path : List Char) : List Char :=
  let baseSegments := segments base
  let baseSegments := if (baseSegments.getLastD []).isEmpty then baseSegments else baseSegments.dropLast
  let ss := if path.head? == some '/' then segments path else dropEmptyInner (baseSegments ++ segments path)
  let last := ss.getLastD []
  let resolved := resolveDots [] ss
  let resolved := if last == ['.'] || last == ['.', '.'] then resolved ++ [[]] else resolved
  let joined := unsegments resolved
  if joined.isEmpty then ['/'] else joined

/-- Resolves a reference against a base address. -/
def join (base ref : List Char) : Except Fault (List Char) :=
  if base.isEmpty then .ok ref
  else if ref.isEmpty then .ok base
  else match splitParams [] base with
    | .error e => .error e
    | .ok b => match splitParams b.parts.scheme ref with
      | .error e => .error e
      | .ok r =>
        let p := r.parts
        if p.scheme != b.parts.scheme || !isOneOf p.scheme relativeSchemes then .ok ref
        else if isOneOf p.scheme netlocSchemes && !p.netloc.isEmpty then .ok (unsplitParams r)
        else
          let netloc := if isOneOf p.scheme netlocSchemes then b.parts.netloc else p.netloc
          if p.path.isEmpty && r.params.isEmpty then
            let query := if p.query.isEmpty then b.parts.query else p.query
            .ok (unsplitParams ⟨⟨p.scheme, netloc, b.parts.path, query, p.fragment⟩, b.params⟩)
          else
            .ok (unsplitParams
              ⟨⟨p.scheme, netloc, joinPaths b.parts.path p.path, p.query, p.fragment⟩, r.params⟩)

end Crawl.Url
