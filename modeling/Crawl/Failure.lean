import Crawl.Config
import Crawl.Url.Split
import Crawl.Text.Utf8
import Crawl.Element
/-!
# Failures

Every way in which a step of a crawl can fail, by cause. The wording of all of them is in `Failure.message`; the
class of a failure, with the classes above it, is in `Failure.kind` and `FailureKind.ancestry`. The failures of the
crawl itself are those of `FailureKind.isCrawl`; the others come from a browser, a block, or a text that is refused
before the crawl can look at it.
-/

namespace Crawl

/-- Why there is no node. -/
inductive NoNode
  | noMatch (kind : ElementKind) (descriptor : Descriptor)
  | unresolved (processor : String)
  | detached (node : String)
  | stated (words : String)
deriving DecidableEq

/-- Why a node is of the wrong kind. -/
inductive Mismatch
  | needsScope (processor : String)
  | outsideForm (processor tag : String)
  | unexpected (kind : ElementKind) (descriptor : Descriptor) (tag expected : String)
  | notTypable (tag : String)
  | documentClicked
  | notSettable (tag : String)
  | documentSet
  | stated (words : String)
deriving DecidableEq

/-- Why the scopes are out of balance. -/
inductive Imbalance
  | noScope
  | emptyPop
  | foreign (expected found : String)
  | stated (words : String)
deriving DecidableEq

/-- Why a file cannot be read. -/
inductive FileFault
  | missing
  | notDirectory
  | directory
  | nameTooLong
deriving DecidableEq, Repr

/-- Why a page cannot be had. -/
inductive NoPage
  | noAddress
  | unparsable (url reason : String)
  | unreadable (url path : String) (fault : FileFault)
  | notLoaded (url reason : String)
  | notClicked (node reason : String)
  | unknown (url : String)
  | nothingLoaded
  | untabled (url : String)
  | stated (words : String)
deriving DecidableEq

/-- Why a text is refused. -/
inductive Refused
  | config (fault : Config.Fault)
  | descriptor (fault : Descriptor.Fault)
  | kind (words : String)
  | address (fault : Url.Fault)
  | number (fault : Integer.Fault)
  | zeroByte
  | notTreeText
  | emptyName
  | malformedName
  | unknownLevel (name : String)
deriving DecidableEq

/-- The ways in which a step can fail. -/
inductive Failure
  | unsupportedDescriptor (kind : String) (variant : Option String)
  | nodeNotFound (cause : NoNode)
  | typeMismatch (cause : Mismatch)
  | stackImbalance (cause : Imbalance)
  | invalidExpression (expression reason : String)
  | navigation (cause : NoPage)
  | script (url : String) (messages : List String)
  | crawl (words : String)
  | refused (cause : Refused)
  | undecodable (fault : Text.Utf8.Fault)
  | browser (timedOut : Bool) (message : String)
  | block (message : String)
  | notImplemented
  | tooLarge
  | frozenField (field : String)
  | notEntered
  | misuse (words : String)
  | unknownName (name : String)
deriving DecidableEq

namespace NoNode

/-- The wording. -/
def message : NoNode → String
  | noMatch kind d => "No " ++ kind.word ++ " matching " ++ d.text
  | unresolved processor => processor ++ " has not resolved to a node yet"
  | detached node => node ++ " does not belong to a loaded document"
  | stated words => words

end NoNode

namespace Mismatch

/-- The wording. -/
def message : Mismatch → String
  | needsScope processor => processor ++ " needs an enclosing scope"
  | outsideForm processor tag =>
    processor ++ " must be resolved inside a form, not <" ++ tag ++ ">"
  | unexpected kind d tag expected =>
    kind.word ++ " matching " ++ d.text ++ " is <" ++ tag ++ ">, expected " ++ expected
  | notTypable tag => "Cannot type into <" ++ tag ++ ">"
  | documentClicked => "Cannot click a document"
  | notSettable tag => "Cannot set a value on <" ++ tag ++ ">"
  | documentSet => "Cannot set a value on a document"
  | stated words => words

end Mismatch

namespace Imbalance

/-- The wording. -/
def message : Imbalance → String
  | noScope => "Scope stack is empty; there is no current scope"
  | emptyPop => "Pop from an empty scope stack"
  | foreign expected found => "Expected to pop " ++ expected ++ " but found " ++ found
  | stated words => words

end Imbalance

namespace FileFault

/-- The wording, with the number the system gives it. -/
def message : FileFault → String
  | missing => "[Errno 2] No such file or directory"
  | notDirectory => "[Errno 20] Not a directory"
  | directory => "[Errno 21] Is a directory"
  | nameTooLong => "[Errno 36] File name too long"

end FileFault

namespace NoPage

/-- The wording. -/
def message : NoPage → String
  | noAddress => "No URL to navigate to"
  | unparsable url reason => "Could not parse " ++ url ++ ": " ++ reason
  | unreadable url path fault =>
    "Could not read " ++ url ++ ": " ++ fault.message ++ ": " ++ Text.quoted path
  | notLoaded url reason => "Failed to load " ++ url ++ ": " ++ reason
  | notClicked node reason => "Click on " ++ node ++ " failed: " ++ reason
  | unknown url => "No page available for " ++ url
  | nothingLoaded => "No page has been loaded"
  | untabled url => "stub has no " ++ url
  | stated words => words

end NoPage

namespace Refused

/-- The wording. -/
def message : Refused → String
  | config fault => fault.message
  | descriptor fault => fault.message
  | kind words => words
  | address fault => fault.message
  | number fault => fault.message
  | zeroByte => "embedded null byte"
  | notTreeText =>
    "All strings must be XML compatible: Unicode or ASCII, no NULL bytes or control characters"
  | emptyName => "Empty tag name"
  | malformedName => "Invalid tag name"
  | unknownLevel name => "Unknown level: " ++ Text.quoted name

end Refused

/-- The classes of failure. -/
inductive FailureKind
  | crawlerError
  | unsupportedDescriptor
  | nodeNotFound
  | typeMismatch
  | stackImbalance
  | invalidExpression
  | navigationError
  | scriptError
  | valueError
  | unicodeDecodeError
  | browserError
  | browserTimeout
  | blockError
  | notImplementedError
  | overflowError
  | frozenInstanceError
  | indexError
  | typeError
  | keyError
deriving DecidableEq, Repr

namespace FailureKind

/-- The name of a class. -/
def name : FailureKind → String
  | crawlerError => "CrawlerError"
  | unsupportedDescriptor => "UnsupportedDescriptor"
  | nodeNotFound => "NodeNotFound"
  | typeMismatch => "TypeMismatch"
  | stackImbalance => "StackImbalance"
  | invalidExpression => "InvalidExpression"
  | navigationError => "NavigationError"
  | scriptError => "ScriptError"
  | valueError => "ValueError"
  | unicodeDecodeError => "UnicodeDecodeError"
  | browserError => "Error"
  | browserTimeout => "TimeoutError"
  | blockError => "BlockError"
  | notImplementedError => "NotImplementedError"
  | overflowError => "OverflowError"
  | frozenInstanceError => "FrozenInstanceError"
  | indexError => "IndexError"
  | typeError => "TypeError"
  | keyError => "KeyError"

/-- Whether a class is one of the crawl's own. -/
def isCrawl : FailureKind → Bool
  | crawlerError => true
  | unsupportedDescriptor => true
  | nodeNotFound => true
  | typeMismatch => true
  | stackImbalance => true
  | invalidExpression => true
  | navigationError => true
  | scriptError => true
  | _ => false

/-- The general class a class of the crawl also belongs to. -/
def general : FailureKind → List String
  | unsupportedDescriptor => ["ValueError"]
  | nodeNotFound => ["LookupError"]
  | typeMismatch => ["TypeError"]
  | stackImbalance => ["AssertionError"]
  | invalidExpression => ["ValueError"]
  | _ => []

/-- A class of the crawl with the classes above it, nearest first. -/
def ancestry (k : FailureKind) : List String :=
  k.name :: ((if k = crawlerError ∨ !k.isCrawl then [] else [crawlerError.name]) ++ k.general
    ++ ["Exception", "BaseException", "object"])

/-- The class of the crawl with the given name. -/
def ofName? (n : String) : Option FailureKind :=
  [crawlerError, unsupportedDescriptor, nodeNotFound, typeMismatch, stackImbalance, invalidExpression,
    navigationError, scriptError].find? (·.name == n)

end FailureKind

namespace Failure

/-- The class of a failure. -/
def kind : Failure → FailureKind
  | unsupportedDescriptor .. => .unsupportedDescriptor
  | nodeNotFound .. => .nodeNotFound
  | typeMismatch .. => .typeMismatch
  | stackImbalance .. => .stackImbalance
  | invalidExpression .. => .invalidExpression
  | navigation .. => .navigationError
  | script .. => .scriptError
  | crawl .. => .crawlerError
  | refused .. => .valueError
  | undecodable .. => .unicodeDecodeError
  | browser true _ => .browserTimeout
  | browser false _ => .browserError
  | block .. => .blockError
  | notImplemented => .notImplementedError
  | tooLarge => .overflowError
  | frozenField .. => .frozenInstanceError
  | notEntered => .indexError
  | misuse .. => .typeError
  | unknownName .. => .keyError

/-- Whether a failure is one of the crawl's own. -/
def isCrawl (f : Failure) : Bool := f.kind.isCrawl

/-- The first few messages of a page's scripts. -/
def scriptSummary (messages : List String) : String := String.intercalate "; " (messages.take 3)

/-- The wording of a failure. -/
def message : Failure → String
  | unsupportedDescriptor kind variant =>
    kind ++ " cannot be resolved by " ++ variant.getD "no descriptor"
  | nodeNotFound cause => cause.message
  | typeMismatch cause => cause.message
  | stackImbalance cause => cause.message
  | invalidExpression expression reason =>
    "Invalid path expression " ++ Text.quoted expression ++ ": " ++ reason
  | navigation cause => cause.message
  | script url messages => "Script error on " ++ url ++ ": " ++ scriptSummary messages
  | crawl words => words
  | refused cause => cause.message
  | undecodable fault => fault.message
  | browser _ message => message
  | block message => message
  | notImplemented => ""
  | tooLarge => "int too large to convert to float"
  | frozenField field => "cannot assign to field " ++ Text.quoted field
  | notEntered => "pop from empty list"
  | misuse words => words
  | unknownName name => Text.quoted name

end Failure

end Crawl
