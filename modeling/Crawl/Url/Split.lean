import Crawl.Url.Host
import Crawl.Text.Quoted
/-!
# The five parts of an address

An address is split into scheme, network location, path, query and fragment, and put together again. Splitting
first drops leading control characters and spaces and removes tabs and line ends wherever they stand.
-/

namespace Crawl.Url

/-- The parts of an address. -/
structure Parts where
  scheme : List Char
  netloc : List Char
  path : List Char
  query : List Char
  fragment : List Char
deriving DecidableEq, Repr

/-- Why a text is no address. -/
inductive Fault
  | brackets
  | host (fault : Host.Fault)
  | disguised (netloc : String)
deriving DecidableEq, Repr

/-- The message for a text that is no address. -/
def Fault.message : Fault → String
  | brackets => "Invalid IPv6 URL"
  | host .future => "IPvFuture address is invalid"
  | host (.unknown h) => Text.quoted h ++ " does not appear to be an IPv4 or IPv6 address"
  | host .dotted => "An IPv4 address cannot be in brackets"
  | disguised netloc =>
    "netloc '" ++ netloc ++ "' contains invalid characters under NFKC normalization"

/-- The text before the first character for which `stop` holds. -/
def before (stop : Char → Bool) (cs : List Char) : List Char := cs.takeWhile (!stop ·)

/-- The text from the first character for which `stop` holds. -/
def since (stop : Char → Bool) (cs : List Char) : List Char := cs.dropWhile (!stop ·)

/-- Splits a text at the first `sep`, which belongs to neither part. -/
def cut (sep : Char) (cs : List Char) : List Char × List Char :=
  (before (· == sep) cs, (since (· == sep) cs).tail)

/-- Whether a character may stand in a scheme. -/
def isSchemeChar (c : Char) : Bool := c.isAlphanum || c == '+' || c == '-' || c == '.'

/-- Whether a network location ends before a character. -/
def endsNetloc (c : Char) : Bool := c == '/' || c == '?' || c == '#'

/-- A text without leading controls and spaces, and without any tab or line end. -/
def tidy (cs : List Char) : List Char :=
  (cs.dropWhile (·.toNat ≤ 32)).filter fun c => c != '\t' && c != '\r' && c != '\n'

/-- The scheme of a tidy text in lower case, and the text after its colon; without a scheme of its own the text
has the scheme `given`. -/
def takeScheme (given cs : List Char) : List Char × List Char :=
  let name := before (· == ':') cs
  let rest := since (· == ':') cs
  match name, rest with
  | c :: _, _ :: rest' =>
    if c.isAlpha && name.all isSchemeChar then (name.map Char.toLower, rest') else (given, cs)
  | _, _ => (given, cs)

/-- The network location at the start of a text, and the text after it. -/
def takeNetloc : List Char → List Char × List Char
  | '/' :: '/' :: cs => (before endsNetloc cs, since endsNetloc cs)
  | cs => ([], cs)

/-- Characters whose compatibility form holds a delimiter of addresses. -/
def isDisguise (c : Char) : Bool :=
  [0x2047, 0x2048, 0x2049, 0x2100, 0x2101, 0x2105, 0x2106, 0x2a74, 0xfe13, 0xfe16, 0xfe55, 0xfe56, 0xfe5f, 0xfe6b,
    0xff03, 0xff0f, 0xff1a, 0xff1f, 0xff20].contains c.toNat

/-- Checks the host between the brackets of a network location, where there is one. -/
def checkBrackets (netloc : List Char) : Except Fault Unit :=
  if netloc.contains '[' then
    match Host.check (before (· == ']') (cut '[' netloc).2) with
    | .ok _ => .ok ()
    | .error e => .error (.host e)
  else .ok ()

/-- Checks a network location: its brackets come in pairs and hold a host, and no delimiter is disguised. -/
def checkNetloc (netloc : List Char) : Except Fault Unit :=
  if netloc.contains '[' != netloc.contains ']' then .error .brackets
  else match checkBrackets netloc with
    | .error e => .error e
    | .ok _ => if netloc.any isDisguise then .error (.disguised (String.ofList netloc)) else .ok ()

/-- Splits an address; without a scheme of its own it has the scheme `given`. -/
def splitUnder (given cs : List Char) : Except Fault Parts :=
  let (scheme, rest) := takeScheme given (tidy cs)
  let (netloc, rest) := takeNetloc rest
  let (rest, fragment) := cut '#' rest
  let (path, query) := cut '?' rest
  match checkNetloc netloc with
  | .ok _ => .ok ⟨scheme, netloc, path, query, fragment⟩
  | .error e => .error e

/-- Splits an address. -/
def split (cs : List Char) : Except Fault Parts := splitUnder [] cs

/-- The schemes whose addresses have a network location. -/
def netlocSchemes : List String :=
  ["", "ftp", "http", "gopher", "nntp", "telnet", "imap", "wais", "file", "mms", "https", "shttp", "snews",
    "prospero", "rtsp", "rtsps", "rtspu", "rsync", "svn", "svn+ssh", "sftp", "nfs", "git", "git+ssh", "ws", "wss"]

/-- Whether a scheme is in a list. -/
def isOneOf (scheme : List Char) (names : List String) : Bool := names.contains (String.ofList scheme)

/-- Puts an address together from its parts. -/
def unsplit (p : Parts) : List Char :=
  let hasNetloc := !p.netloc.isEmpty || (!p.scheme.isEmpty && isOneOf p.scheme netlocSchemes)
    || p.path.take 2 == ['/', '/']
  let path :=
    if hasNetloc then
      let path := if !p.path.isEmpty && p.path.head? != some '/' then '/' :: p.path else p.path
      '/' :: '/' :: (p.netloc ++ path)
    else p.path
  let withScheme := if p.scheme.isEmpty then path else p.scheme ++ ':' :: path
  let withQuery := if p.query.isEmpty then withScheme else withScheme ++ '?' :: p.query
  if p.fragment.isEmpty then withQuery else withQuery ++ '#' :: p.fragment

end Crawl.Url
