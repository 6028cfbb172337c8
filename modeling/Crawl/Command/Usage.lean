/-!
# Usage

What the command prints about itself.
-/

namespace Crawl.Command

/-- The lines that sum the command up. -/
def usageLines : List String := [
  "usage: crawldsl [-h] --xpath XPATH [--attribute ATTRIBUTE]",
  "                [--engine \x7bplaywright,static\x7d]",
  "                [--browser \x7bchromium,firefox,webkit\x7d]",
  "                [--user-agent USER_AGENT] [--headed] [--fail-on-script-error]",
  "                [--timeout-ms TIMEOUT_MS]",
  "                url"]

/-- The lines that explain the command. -/
def helpLines : List String := usageLines ++ [
  "",
  "List the nodes an XPath matches on a page",
  "",
  "positional arguments:",
  "  url                   Page to navigate to",
  "",
  "options:",
  "  -h, --help            show this help message and exit",
  "  --xpath XPATH         Path expression evaluated against the page",
  "  --attribute ATTRIBUTE",
  "                        Attribute to include for each match (repeatable)",
  "  --engine \x7bplaywright,static\x7d",
  "                        DOM engine to use",
  "  --browser \x7bchromium,firefox,webkit\x7d",
  "                        Browser for the playwright engine",
  "  --user-agent USER_AGENT",
  "                        User agent override",
  "  --headed              Show the browser window",
  "  --fail-on-script-error",
  "                        Treat page script errors as failures",
  "  --timeout-ms TIMEOUT_MS",
  "                        Engine timeout in milliseconds"]

/-- Lines, each with its line end. -/
def unlines (lines : List String) : String := String.join (lines.map (· ++ "\n"))

/-- The explanation of the command. -/
def help : String := unlines helpLines

/-- What is printed when the arguments are refused. -/
def complaint (message : String) : String := unlines (usageLines ++ ["crawldsl: error: " ++ message])

end Crawl.Command
