/-!
# The client for remote pages

Remote pages come from a client that takes requests one at a time. What it answers is a list fixed beforehand; when
the list is used up every request fails. All requests are kept.
-/

namespace Crawl.Static

/-- What a request is answered with. -/
inductive Reply
  | failed (message : String)
  | answered (text : String) (url : Option String) (statusError : Option String)

/-- A request; one with `data` sends these fields. -/
structure Request where
  url : String
  data : Option (List (String × String))
  timeout : Float

/-- A client: the replies still to come, the requests made, the name it goes by, and how often it was closed. -/
structure Client where
  replies : List Reply
  requests : Array Request
  agent : String
  closed : Nat

namespace Client

/-- A client before its first request. -/
def start (replies : List Reply) : Client := ⟨replies, #[], "default", 0⟩

/-- Makes a request: its reply, and the client afterwards. -/
def send (c : Client) (r : Request) : Reply × Client :=
  (c.replies.headD (.failed "no scripted response"),
    { c with replies := c.replies.tail, requests := c.requests.push r })

end Client

end Crawl.Static
