import Crawl.Css.Quoted
import Crawl.Engine.Tabled
import Crawl.Failure.Make
import Crawl.Main
import Crawl.Script.Run
import Crawl.Proofs.Session.Queue
import Crawl.Proofs.Session.Depth
import Crawl.Proofs.Session.Frames
import Crawl.Proofs.Engine.Calls
import Crawl.Proofs.Session.Closed
import Crawl.Proofs.Session.Entries
import Crawl.Proofs.Session.Walk
import Crawl.Proofs.Action.Stays
import Crawl.Proofs.Static.Addressed
import Crawl.Proofs.Static.Obstacles
import Crawl.Proofs.Static.Activation
import Crawl.Proofs.Browser.Leaks
import Crawl.Proofs.Browser.Operations
import Crawl.Proofs.Command.BrowserEscapes
import Crawl.Proofs.Command.ExitCode
import Crawl.Proofs.Static.Submission
import Crawl.Proofs.Browser.Reports
import Crawl.Proofs.Session.Memory
import Crawl.Proofs.Browser.Launches
import Crawl.Proofs.Command.Closing
import Crawl.Proofs.Command.Release
import Crawl.Proofs.Engine.Answers
import Crawl.Proofs.Json.Reading
import Crawl.Proofs.XPath.Order
import Crawl.Proofs.Command.Faithful
import Crawl.Proofs.Static.QueryForm
import Crawl.Proofs.Session.Visits
import Crawl.Proofs.Static.TypedForm
import Crawl.Proofs.Static.Isolation
import Crawl.Proofs.Browser.Selectors
import Crawl.Proofs.Static.LinkTitle
import Crawl.Proofs.Session.FirstMatch
import Crawl.Proofs.Engine.AnchorWords
import Crawl.Proofs.Static.Sources
import Crawl.Proofs.Static.Dispatch
import Crawl.Proofs.Static.WholeDocument
import Crawl.Proofs.Command.Layering
