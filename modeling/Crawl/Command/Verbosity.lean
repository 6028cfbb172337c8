import Crawl.Failure
import Crawl.Journal
/-!
# Verbosity

Which entries of the journal the command shows. A word from the environment, in any case, sets the least weight an
entry must have; a word that means nothing leaves the usual one. Two words mean something else than a weight, and
those are refused.
-/

namespace Crawl.Command

/-- The weights with a name. -/
def thresholds : List (String × Nat) := [
  ("NOTSET", 0), ("DEBUG", 10), ("INFO", 20), ("WARN", 30), ("WARNING", 30), ("ERROR", 40), ("FATAL", 50),
  ("CRITICAL", 50)]

/-- The weight an entry must have when nothing else is asked for. -/
def usualThreshold : Nat := 20

/-- The pattern that stands behind the word `BASIC_FORMAT`. -/
def basicPattern : String := "%(levelname)s:%(name)s:%(message)s"

/-- What stands behind the word `_STYLES`. -/
def styleTable : String :=
  "\x7b'%': (<class 'logging.PercentStyle'>, '" ++ basicPattern
    ++ "'), '\x7b': (<class 'logging.StrFormatStyle'>, '\x7blevelname\x7d:\x7bname\x7d:\x7bmessage\x7d'), "
    ++ "'$': (<class 'logging.StringTemplateStyle'>, '$\x7blevelname\x7d:$\x7bname\x7d:$\x7bmessage\x7d')\x7d"

/-- The least weight of the entries to show, for the word in the environment. -/
def threshold (word : Option String) : Except Failure Nat :=
  match word with
  | none => .ok usualThreshold
  | some w =>
    let w := Text.upper w
    if w = "BASIC_FORMAT" then .error (.refused (.unknownLevel basicPattern))
    else if w = "_STYLES" then
      .error (.misuse ("Level not an integer or a valid string: " ++ styleTable))
    else .ok ((thresholds.lookup w).getD usualThreshold)

/-- An entry of the journal as a line. -/
def entryLine (e : Entry) : String := e.source.name ++ " - " ++ e.level.word ++ " - " ++ e.text

/-- The entries that reach a threshold. -/
def shown (least : Nat) (j : Journal) : List Entry := j.toList.filter fun e => least ≤ e.level.weight

/-- What is shown when nobody has said what to show: the texts of the warnings and errors. -/
def bareTexts (j : Journal) : List String :=
  (j.toList.filter fun e => Level.warning.weight ≤ e.level.weight).map Entry.text

end Crawl.Command
